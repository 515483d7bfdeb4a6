import Dmsfwk.AVStreamFilters
import Dmsfwk.EventRun

/-!
# Delivery of the frames of a stream

A sender filter, the channel and a running receiver filter.  Frames which the
channel was called with arrive in any order and any number of times, and the
receiver is asked for a frame between the arrivals.  The frames are returned in
order and once as long as no number is missing among those of the channel and
the queue of the receiver has more than repeated frames.
-/

namespace Dmsfwk

/-! ## The system -/

inductive StreamFailure where
  /-- `DoStart` assigns to a thread which was not joined. -/
  | terminated
  /-- `GetStreamData` reads the top of an empty queue. -/
  | emptyTop
  deriving DecidableEq, Repr

structure StreamTransfer where
  sender : AVSenderFilter
  receiver : AVReceiverFilter := { isRunning := true }
  arrived : List AVTransStreamData := []
  returned : List AVTransStreamData := []
  failure : Option StreamFailure := none

inductive StreamEvent where
  | onBufferAvailable (buffer : AVBuffer) (copied : Bool) (now : UInt64)
  | sendPixelMap (pixelMap : Option PixelMap)
      (packPixelMap : Except Int32 (List UInt8))
  | setSurfaceParam (param : SurfaceParam)
  | doStart
  | doStop
  | join
  | process (serializeError : Option StreamErr)
  /-- The frame which the channel got at this position arrives. -/
  | arrive (position : ℕ)
  | getStreamData

namespace StreamTransfer

def arrive (frame : AVTransStreamData) (transfer : StreamTransfer) :
    StreamTransfer :=
  { transfer with
      receiver := transfer.receiver.onStream frame
      arrived := frame :: transfer.arrived }

def call (transfer : StreamTransfer) :
    Option AVTransStreamData × StreamTransfer :=
  match transfer.receiver.getStreamData with
  | none => (none, { transfer with failure := some .emptyTop })
  | some (data, receiver) =>
      (data, { transfer with
        receiver := receiver
        returned := transfer.returned ++ data.toList })

def step (transfer : StreamTransfer) (event : StreamEvent) :
    Option AVTransStreamData × StreamTransfer :=
  if transfer.failure.isSome then (none, transfer)
  else
    let sender := transfer.sender
    match event with
    | .onBufferAvailable buffer copied now =>
        (none, { transfer with
          sender := sender.onBufferAvailable buffer copied now })
    | .sendPixelMap pixelMap packPixelMap =>
        (none, { transfer with
          sender := (sender.sendPixelMap pixelMap packPixelMap).2 })
    | .setSurfaceParam param =>
        (none, { transfer with sender := (sender.setSurfaceParam param).2 })
    | .doStart =>
        match sender.doStart with
        | none => (none, { transfer with failure := some .terminated })
        | some sender => (none, { transfer with sender := sender })
    | .doStop => (none, { transfer with sender := sender.doStop })
    | .join => (none, { transfer with sender := sender.join })
    | .process serializeError =>
        (none, { transfer with sender := sender.process serializeError })
    | .arrive position =>
        match sender.sent[position]? with
        | none => (none, transfer)
        | some frame => (none, arrive frame transfer)
    | .getStreamData => call transfer

def initial (channelType : ChannelDataType) : StreamTransfer where
  sender := { channelType := channelType }

def after (channelType : ChannelDataType) (events : List StreamEvent) :
    StreamTransfer :=
  (EventRun.run step (initial channelType) events).2

end StreamTransfer

/-! ## What is to hold -/

def StreamEvent.isCall : StreamEvent → Bool
  | .getStreamData => true
  | _ => false

/-- In every state of the run: no top of an empty queue was read, the returned
frames are those of the channel in their order, which is the one of the
submissions; and from when the first `count` frames of the channel have arrived,
every call returns one until all of these are returned. -/
structure Delivers (channelType : ChannelDataType)
    (events : List StreamEvent) : Prop where
  noEmptyTop : ∀ first, first <+: events →
    (StreamTransfer.after channelType first).failure ≠ some .emptyTop
  inOrder : ∀ first, first <+: events →
    (StreamTransfer.after channelType first).returned <+:
      (StreamTransfer.after channelType first).sender.sent ∧
    (StreamTransfer.after channelType first).sender.sent.Sublist
      (StreamTransfer.after channelType first).sender.submitted
  complete : ∀ first second, first ++ second <+: events →
    (StreamTransfer.after channelType (first ++ second)).failure = none →
    ∀ count ≤ (StreamTransfer.after channelType first).sender.sent.length,
      (∀ frame ∈
          (StreamTransfer.after channelType first).sender.sent.take count,
        frame ∈ (StreamTransfer.after channelType first).arrived) →
      count ≤ (StreamTransfer.after channelType first).returned.length +
        second.countP StreamEvent.isCall →
      count ≤
        (StreamTransfer.after channelType (first ++ second)).returned.length

namespace StreamTransfer

/-- Before a call: the queue is empty or has a frame which was not returned; and
when the next frame of the channel has arrived, every frame which was submitted
before it was handed to the channel. -/
structure Ready (transfer : StreamTransfer) : Prop where
  fresh : transfer.receiver.dataQueue = [] ∨
    ∃ frame ∈ transfer.receiver.dataQueue, frame ∉ transfer.returned
  consecutive : ∀ frame ∈ transfer.sender.sent[transfer.returned.length]?,
    frame ∈ transfer.arrived →
    transfer.sender.sent.take (transfer.returned.length + 1) <+:
      transfer.sender.submitted

/-! ## One call -/

def expected (transfer : StreamTransfer) : Option AVTransStreamData :=
  transfer.sender.sent[transfer.returned.length]?.filter
    (· ∈ transfer.arrived)

def Answers (transfer : StreamTransfer) : Prop :=
  transfer.receiver.getStreamData.map Prod.fst = some transfer.expected

/-- The channel has the submitted frames in order, and the receiver those which
have arrived. -/
structure Invariant (transfer : StreamTransfer) : Prop where
  counts : transfer.sender.Counts
  isRunning : transfer.receiver.isRunning = true
  sorted : AVReceiverFilter.Sorted transfer.receiver.dataQueue
  arrived : ∀ frame ∈ transfer.arrived, frame ∈ transfer.sender.sent
  queued : ∀ frame ∈ transfer.receiver.dataQueue, frame ∈ transfer.arrived
  held : ∀ frame ∈ transfer.arrived,
    frame ∈ transfer.receiver.dataQueue ∨ frame ∈ transfer.returned
  returned : ∀ frame ∈ transfer.returned, frame ∈ transfer.arrived
  handed : transfer.returned <+: transfer.sender.sent
  submitted : transfer.returned <+: transfer.sender.submitted
  lastIndex : transfer.receiver.lastIndex + 1 = transfer.returned.length

namespace Invariant

variable {transfer : StreamTransfer}

theorem initial (channelType : ChannelDataType) :
    (initial channelType).Invariant where
  counts := AVSenderFilter.Counts.initial channelType
  isRunning := rfl
  sorted := List.Pairwise.nil
  arrived := by simp [StreamTransfer.initial]
  queued := by simp [StreamTransfer.initial]
  held := by simp [StreamTransfer.initial]
  returned := by simp [StreamTransfer.initial]
  handed := List.nil_prefix
  submitted := List.nil_prefix
  lastIndex := rfl

theorem sent_sublist (hinvariant : transfer.Invariant) :
    transfer.sender.sent.Sublist transfer.sender.submitted :=
  (List.sublist_append_left _ _).trans hinvariant.counts.order

theorem mem_sent (hinvariant : transfer.Invariant) {frame : AVTransStreamData}
    (hqueued : frame ∈ transfer.receiver.dataQueue) :
    frame ∈ transfer.sender.sent :=
  hinvariant.arrived frame (hinvariant.queued frame hqueued)

variable (hinvariant : transfer.Invariant)
  (hlength : transfer.sender.submitted.length ≤ 2 ^ 32)

include hinvariant hlength

theorem mem_returned_iff {frame : AVTransStreamData}
    (hsent : frame ∈ transfer.sender.sent) :
    frame ∈ transfer.returned ↔
      (frame.number : ℤ) ≤ transfer.receiver.lastIndex := by
  have hnumbered := hinvariant.counts.numbered hlength
  rw [hnumbered.mem_prefix_iff hinvariant.submitted
    (hinvariant.sent_sublist.subset hsent)]
  have hlast := hinvariant.lastIndex
  omega

theorem top_eq_next {old rest : List AVTransStreamData}
    {topData frame : AVTransStreamData}
    (hqueue : transfer.receiver.dataQueue = old ++ topData :: rest)
    (hold : ∀ data ∈ old, (data.number : ℤ) ≤ transfer.receiver.lastIndex)
    (hnew : transfer.receiver.lastIndex < topData.number)
    (hnext : transfer.sender.sent[transfer.returned.length]? = some frame)
    (harrived : frame ∈ transfer.arrived) : topData = frame := by
  have hnumbered := hinvariant.counts.numbered hlength
  have hsub := hinvariant.sent_sublist
  have hsent := List.mem_of_getElem? hnext
  have hnot := hnumbered.next_not_mem hsub hnext hinvariant.handed
  have htop : topData ∈ transfer.sender.sent :=
    hinvariant.mem_sent (by simp [hqueue])
  have htopNot : topData ∉ transfer.returned := by
    rw [hinvariant.mem_returned_iff hlength htop]
    omega
  have hle := hnumbered.number_next_le hsub hnext hinvariant.handed htop htopNot
  have hge : topData.number ≤ frame.number := by
    have hmem := (hinvariant.held frame harrived).resolve_right hnot
    rw [hqueue] at hmem
    rcases List.mem_append.mp hmem with hin | hin
    · exact absurd ((hinvariant.mem_returned_iff hlength hsent).mpr
        (hold frame hin)) hnot
    · have hsorted := hinvariant.sorted
      rw [hqueue] at hsorted
      have htail := (List.pairwise_append.mp hsorted).2.1
      rcases List.mem_cons.mp hin with rfl | hrest
      · exact le_rfl
      · exact List.rel_of_pairwise_cons htail hrest
  exact hnumbered.eq_of_number_eq (hsub.subset htop) (hsub.subset hsent)
    (le_antisymm hge hle)

theorem next_of_number {frame : AVTransStreamData}
    (hsent : frame ∈ transfer.sender.sent)
    (hnumber : transfer.receiver.lastIndex + 1 = frame.number) :
    transfer.sender.sent[transfer.returned.length]? = some frame := by
  have hnumbered := hinvariant.counts.numbered hlength
  have hsub := hinvariant.sent_sublist
  have hlast := hinvariant.lastIndex
  have hnot : frame ∉ transfer.returned := by
    rw [hinvariant.mem_returned_iff hlength hsent]
    omega
  obtain ⟨rest, hrest⟩ := hinvariant.handed
  cases rest with
  | nil =>
      rw [List.append_nil] at hrest
      exact absurd (hrest ▸ hsent) hnot
  | cons next rest =>
      have hnext : transfer.sender.sent[transfer.returned.length]? =
          some next := by
        rw [← hrest]
        simp
      have hle := hnumbered.number_next_le hsub hnext hinvariant.handed hsent
        hnot
      have hge := hnumbered.length_le_number hsub hinvariant.submitted
        (List.mem_of_getElem? hnext)
        (hnumbered.next_not_mem hsub hnext hinvariant.handed)
      rw [hnext, hnumbered.eq_of_number_eq
        (hsub.subset (List.mem_of_getElem? hnext)) (hsub.subset hsent)
        (by omega)]

theorem answers_iff_ready : transfer.Answers ↔ transfer.Ready := by
  have hnumbered := hinvariant.counts.numbered hlength
  have hsub := hinvariant.sent_sublist
  unfold Answers AVReceiverFilter.getStreamData
  split_ifs with hempty
  · have hnone : transfer.expected = none := by
      unfold expected
      rw [Option.filter_eq_none_iff]
      intro frame hnext harrived
      have hheld := hinvariant.held frame (of_decide_eq_true harrived)
      rw [hempty] at hheld
      exact hnumbered.next_not_mem hsub hnext hinvariant.handed
        (hheld.resolve_left List.not_mem_nil)
    rw [hnone]
    refine iff_of_true rfl ⟨.inl hempty, fun frame hnext harrived => ?_⟩
    exact absurd harrived (by
      simpa using (Option.filter_eq_none_iff.mp hnone) frame hnext)
  · split
    · next hdiscard =>
        rw [AVReceiverFilter.discardOld_eq_none_iff] at hdiscard
        refine iff_of_false (by simp) fun hready => ?_
        rcases hready.fresh with hnil | ⟨frame, hmem, hnot⟩
        · exact hempty hnil
        · exact hnot ((hinvariant.mem_returned_iff hlength
            (hinvariant.mem_sent hmem)).mpr (hdiscard frame hmem))
    · next topData rest hdiscard =>
        obtain ⟨hnew, old, hqueue, hold⟩ :=
          AVReceiverFilter.discardOld_eq_some hdiscard
        have hqueued : topData ∈ transfer.receiver.dataQueue := by
          simp [hqueue]
        have htop := hinvariant.mem_sent hqueued
        have hnot : topData ∉ transfer.returned := by
          rw [hinvariant.mem_returned_iff hlength htop]
          omega
        have hlast := hinvariant.lastIndex
        split_ifs with hnumber
        · have hnext := hinvariant.next_of_number hlength htop hnumber
          have hexpected : transfer.expected = some topData := by
            unfold expected
            rw [hnext, Option.filter_some, if_pos]
            exact decide_eq_true (hinvariant.queued topData hqueued)
          rw [hexpected]
          refine iff_of_true rfl ⟨.inr ⟨topData, hqueued, hnot⟩, ?_⟩
          intro frame hframe _
          obtain rfl : topData = frame :=
            Option.some.inj (hnext.symm.trans hframe)
          rw [hnumbered.take_prefix_iff hsub hnext hinvariant.handed
            hinvariant.submitted]
          omega
        · constructor
          · intro hanswers
            refine ⟨.inr ⟨topData, hqueued, hnot⟩, ?_⟩
            intro frame hframe harrived
            have hnone : none = transfer.expected := Option.some.inj hanswers
            have hrefused := Option.filter_eq_none_iff.mp hnone.symm frame hframe
            exact absurd (decide_eq_true harrived) hrefused
          · intro hready
            have hnone : transfer.expected = none := by
              unfold expected
              rw [Option.filter_eq_none_iff]
              intro frame hframe harrived
              have harrived := of_decide_eq_true harrived
              have hprefix := hready.consecutive frame hframe harrived
              rw [hnumbered.take_prefix_iff hsub hframe hinvariant.handed
                hinvariant.submitted] at hprefix
              have heq := hinvariant.top_eq_next hlength hqueue hold hnew hframe
                harrived
              rw [heq] at hnumber
              omega
            rw [hnone]
            rfl

theorem append_returned {data : Option AVTransStreamData}
    (hsent : ∀ frame ∈ data, frame ∈ transfer.sender.sent)
    (hnumber : ∀ frame ∈ data,
      transfer.receiver.lastIndex + 1 = frame.number) :
    transfer.returned ++ data.toList <+: transfer.sender.sent ∧
      transfer.returned ++ data.toList <+: transfer.sender.submitted := by
  cases data with
  | none =>
      rw [Option.toList_none, List.append_nil]
      exact ⟨hinvariant.handed, hinvariant.submitted⟩
  | some frame =>
      have hnumbered := hinvariant.counts.numbered hlength
      have hnext := hinvariant.next_of_number hlength (hsent frame rfl)
        (hnumber frame rfl)
      have hlast := hinvariant.lastIndex
      have hframe := hnumber frame rfl
      have hsubmitted := (hnumbered.take_prefix_iff hinvariant.sent_sublist
        hnext hinvariant.handed hinvariant.submitted).mpr (by omega)
      have htake := take_length_add_one hinvariant.handed hnext
      rw [Option.toList_some, ← htake]
      exact ⟨List.take_prefix _ _, hsubmitted⟩

theorem call (hanswers : transfer.Answers) :
    (StreamTransfer.call transfer).2.Invariant := by
  unfold Answers at hanswers
  unfold StreamTransfer.call
  cases hget : transfer.receiver.getStreamData with
  | none => rw [hget] at hanswers; cases hanswers
  | some result =>
      obtain ⟨data, receiver⟩ := result
      obtain ⟨old, hqueue, hold, hnumber, hlast, hrunning⟩ :=
        AVReceiverFilter.getStreamData_eq_some hget
      have hqueued (frame : AVTransStreamData)
          (hmem : frame ∈ data.toList ++ receiver.dataQueue) :
          frame ∈ transfer.receiver.dataQueue := by
        rw [hqueue]
        exact List.mem_append_right _ hmem
      have hdata (frame : AVTransStreamData) (hmem : frame ∈ data) :
          frame ∈ transfer.receiver.dataQueue :=
        hqueued frame (List.mem_append_left _ (Option.mem_toList.mpr hmem))
      obtain ⟨hhanded, hsubmitted⟩ := hinvariant.append_returned hlength
        (fun frame hmem => hinvariant.mem_sent (hdata frame hmem)) hnumber
      have hsorted := hinvariant.sorted
      rw [hqueue] at hsorted
      exact {
        counts := hinvariant.counts
        isRunning := hrunning.trans hinvariant.isRunning
        sorted := (List.pairwise_append.mp
          (List.pairwise_append.mp hsorted).2.1).2.1
        arrived := hinvariant.arrived
        queued := fun frame hmem => hinvariant.queued frame
          (hqueued frame (List.mem_append_right _ hmem))
        held := by
          intro frame harrived
          rcases hinvariant.held frame harrived with hin | hin
          · rw [hqueue, List.mem_append, List.mem_append] at hin
            rcases hin with hin | hin | hin
            · have hsent := hinvariant.arrived frame harrived
              have hmem := (hinvariant.mem_returned_iff hlength hsent).mpr
                (hold frame hin)
              exact .inr (List.mem_append_left _ hmem)
            · exact .inr (List.mem_append_right _ hin)
            · exact .inl hin
          · exact .inr (List.mem_append_left _ hin)
        returned := by
          intro frame hmem
          rcases List.mem_append.mp hmem with hin | hin
          · exact hinvariant.returned frame hin
          · exact hinvariant.queued frame
              (hdata frame (Option.mem_toList.mp hin))
        handed := hhanded
        submitted := hsubmitted
        lastIndex := by
          have hbefore := hinvariant.lastIndex
          simp only [List.length_append, Nat.cast_add, hlast]
          omega }

omit hlength in
theorem sender {moved : AVSenderFilter}
    (hmoves : transfer.sender.Moves moved) :
    Invariant { transfer with sender := moved } :=
  { hinvariant with
    counts := hinvariant.counts.moves hmoves
    arrived := fun frame hmem =>
      hmoves.sent_prefix.subset (hinvariant.arrived frame hmem)
    handed := hinvariant.handed.trans hmoves.sent_prefix
    submitted := hinvariant.submitted.trans hmoves.submitted_prefix }

omit hlength in
theorem arrive {frame : AVTransStreamData}
    (hsent : frame ∈ transfer.sender.sent) :
    (StreamTransfer.arrive frame transfer).Invariant := by
  have hadd : transfer.receiver.onStream frame =
      transfer.receiver.addStreamData frame := if_pos hinvariant.isRunning
  have hmem (other : AVTransStreamData) :
      other ∈ (transfer.receiver.addStreamData frame).dataQueue ↔
        other = frame ∨ other ∈ transfer.receiver.dataQueue :=
    List.mem_orderedInsert _
  unfold StreamTransfer.arrive
  rw [hadd]
  exact {
    counts := hinvariant.counts
    isRunning := hinvariant.isRunning
    sorted := hinvariant.sorted.orderedInsert frame
    arrived := List.forall_mem_cons.mpr ⟨hsent, hinvariant.arrived⟩
    queued := by
      intro other hqueued
      rcases (hmem other).mp hqueued with rfl | hin
      · exact List.mem_cons_self
      · exact List.mem_cons_of_mem _ (hinvariant.queued other hin)
    held := by
      intro other harrived
      rcases List.mem_cons.mp harrived with rfl | hin
      · exact .inl ((hmem other).mpr (.inl rfl))
      · exact (hinvariant.held other hin).imp_left fun hqueued =>
          (hmem other).mpr (.inr hqueued)
    returned := fun other hin =>
      List.mem_cons_of_mem _ (hinvariant.returned other hin)
    handed := hinvariant.handed
    submitted := hinvariant.submitted
    lastIndex := hinvariant.lastIndex }

end Invariant

/-! ## Steps -/

theorem step_of_failure {transfer : StreamTransfer} {failure : StreamFailure}
    (hfailure : transfer.failure = some failure) (event : StreamEvent) :
    (step transfer event).2 = transfer := by
  unfold step
  rw [if_pos (by simp [hfailure])]

theorem step_getStreamData {transfer : StreamTransfer}
    (hfailure : transfer.failure = none) :
    step transfer .getStreamData = call transfer := by
  unfold step
  rw [if_neg (by simp [hfailure])]

/-- After a failure nothing changes.  Before, a step is a call, or the sender does
something, the second start ends the program, or a frame of the channel arrives. -/
theorem step_cases (transfer : StreamTransfer) (event : StreamEvent) :
    (transfer.failure ≠ none ∧ (step transfer event).2 = transfer) ∨
    (transfer.failure = none ∧ event = .getStreamData ∧
      (step transfer event).2 = (call transfer).2) ∨
    (event.isCall = false ∧ ∃ moved, transfer.sender.Moves moved ∧
      (step transfer event).2 = { transfer with sender := moved }) ∨
    (event.isCall = false ∧
      (step transfer event).2 =
        { transfer with failure := some .terminated }) ∨
    event.isCall = false ∧ ∃ frame ∈ transfer.sender.sent,
      (step transfer event).2 = arrive frame transfer := by
  by_cases hfailure : transfer.failure = none
  swap
  · left
    obtain ⟨failure, hfailed⟩ := Option.ne_none_iff_exists'.mp hfailure
    exact ⟨hfailure, step_of_failure hfailed event⟩
  right
  unfold step
  rw [if_neg (by simp [hfailure])]
  cases event with
  | onBufferAvailable buffer copied now =>
      exact .inr (.inl ⟨rfl, _,
        AVSenderFilter.moves_onBufferAvailable buffer copied now, rfl⟩)
  | sendPixelMap pixelMap packPixelMap =>
      exact .inr (.inl ⟨rfl, _,
        AVSenderFilter.moves_sendPixelMap pixelMap packPixelMap, rfl⟩)
  | setSurfaceParam param =>
      exact .inr (.inl ⟨rfl, _, AVSenderFilter.moves_setSurfaceParam param,
        rfl⟩)
  | doStart =>
      dsimp only
      split
      · exact .inr (.inr (.inl ⟨rfl, rfl⟩))
      · next started hstart =>
          exact .inr (.inl ⟨rfl, started,
            AVSenderFilter.moves_of_doStart hstart, rfl⟩)
  | doStop =>
      exact .inr (.inl ⟨rfl, _, AVSenderFilter.moves_doStop, rfl⟩)
  | join => exact .inr (.inl ⟨rfl, _, AVSenderFilter.moves_join, rfl⟩)
  | process serializeError =>
      exact .inr (.inl ⟨rfl, _,
        AVSenderFilter.moves_process serializeError, rfl⟩)
  | arrive position =>
      dsimp only
      split
      · exact .inr (.inl ⟨rfl, transfer.sender, .keep, rfl⟩)
      · next frame hframe =>
          exact .inr (.inr (.inr
            ⟨rfl, frame, List.mem_of_getElem? hframe, rfl⟩))
  | getStreamData => exact .inl ⟨hfailure, rfl, rfl⟩

structure Extends (before after : StreamTransfer) : Prop where
  submitted : before.sender.submitted <+: after.sender.submitted
  sent : before.sender.sent <+: after.sender.sent
  arrived : ∀ frame ∈ before.arrived, frame ∈ after.arrived

theorem Extends.refl (transfer : StreamTransfer) : transfer.Extends transfer :=
  ⟨List.prefix_rfl, List.prefix_rfl, fun _ => id⟩

theorem Extends.trans {first second third : StreamTransfer}
    (hfirst : first.Extends second) (hsecond : second.Extends third) :
    first.Extends third :=
  ⟨hfirst.submitted.trans hsecond.submitted, hfirst.sent.trans hsecond.sent,
    fun frame hmem => hsecond.arrived frame (hfirst.arrived frame hmem)⟩

theorem extends_call (transfer : StreamTransfer) :
    transfer.Extends (call transfer).2 := by
  unfold call
  split <;> exact ⟨List.prefix_rfl, List.prefix_rfl, fun _ => id⟩

theorem extends_step (transfer : StreamTransfer) (event : StreamEvent) :
    transfer.Extends (step transfer event).2 := by
  rcases step_cases transfer event with
    ⟨-, hstep⟩ | ⟨-, -, hstep⟩ | ⟨-, moved, hmoves, hstep⟩ | ⟨-, hstep⟩ |
    ⟨-, frame, -, hstep⟩
  · rw [hstep]
    exact .refl transfer
  · rw [hstep]
    exact extends_call transfer
  · rw [hstep]
    exact ⟨hmoves.submitted_prefix, hmoves.sent_prefix, fun _ => id⟩
  · rw [hstep]
    exact ⟨List.prefix_rfl, List.prefix_rfl, fun _ => id⟩
  · rw [hstep]
    exact ⟨List.prefix_rfl, List.prefix_rfl,
      fun _ => List.mem_cons_of_mem frame⟩

theorem call_of_answers {transfer : StreamTransfer}
    (hanswers : transfer.Answers) :
    (call transfer).2.returned =
        transfer.returned ++ transfer.expected.toList ∧
      (call transfer).2.failure = transfer.failure := by
  unfold Answers at hanswers
  unfold call
  cases hget : transfer.receiver.getStreamData with
  | none => rw [hget] at hanswers; cases hanswers
  | some result =>
      rw [hget] at hanswers
      obtain ⟨data, receiver⟩ := result
      obtain rfl : data = transfer.expected := Option.some.inj hanswers
      exact ⟨rfl, rfl⟩

/-! ## Runs -/

variable {channelType : ChannelDataType} {events first second : List StreamEvent}

theorem after_append (channelType : ChannelDataType)
    (first : List StreamEvent) (event : StreamEvent) :
    after channelType (first ++ [event]) =
      (step (after channelType first) event).2 := by
  unfold after
  rw [EventRun.run_append]
  rfl

theorem extends_after (channelType : ChannelDataType)
    (first second : List StreamEvent) :
    (after channelType first).Extends
      (after channelType (first ++ second)) := by
  induction second using List.reverseRecOn with
  | nil =>
      rw [List.append_nil]
      exact .refl _
  | append_singleton second event ih =>
      rw [← List.append_assoc, after_append]
      exact ih.trans (extends_step _ event)

theorem length_submitted_le (hfirst : first <+: events)
    (hframes : (after channelType events).sender.submitted.length < 2 ^ 31) :
    (after channelType first).sender.submitted.length ≤ 2 ^ 32 := by
  obtain ⟨second, rfl⟩ := hfirst
  have hle := (extends_after channelType first second).submitted.length_le
  omega

def CallsAnswer (channelType : ChannelDataType) (events : List StreamEvent) :
    Prop :=
  ∀ first, first ++ [.getStreamData] <+: events →
    (after channelType first).failure = none →
    (after channelType first).Invariant → (after channelType first).Answers

theorem invariant_after
    (hframes : (after channelType events).sender.submitted.length < 2 ^ 31)
    (hanswer : CallsAnswer channelType events) (hfirst : first <+: events) :
    (after channelType first).Invariant := by
  induction first using List.reverseRecOn with
  | nil => exact Invariant.initial channelType
  | append_singleton first event ih =>
      have hbefore := (List.prefix_append first [event]).trans hfirst
      have hinvariant := ih hbefore
      rw [after_append]
      rcases step_cases (after channelType first) event with
        ⟨-, hstep⟩ | ⟨hfailure, rfl, hstep⟩ | ⟨-, moved, hmoves, hstep⟩ |
        ⟨-, hstep⟩ | ⟨-, frame, hsent, hstep⟩
      · rw [hstep]
        exact hinvariant
      · rw [hstep]
        exact hinvariant.call (length_submitted_le hbefore hframes)
          (hanswer first hfirst hfailure hinvariant)
      · rw [hstep]
        exact hinvariant.sender hmoves
      · rw [hstep]
        exact ⟨hinvariant.counts, hinvariant.isRunning, hinvariant.sorted,
          hinvariant.arrived, hinvariant.queued, hinvariant.held,
          hinvariant.returned, hinvariant.handed, hinvariant.submitted,
          hinvariant.lastIndex⟩
      · rw [hstep]
        exact hinvariant.arrive hsent

section Answered

variable (hframes :
    (after channelType events).sender.submitted.length < 2 ^ 31)
  (hanswer : CallsAnswer channelType events)

include hframes hanswer

theorem failure_ne_emptyTop (hfirst : first <+: events) :
    (after channelType first).failure ≠ some .emptyTop := by
  induction first using List.reverseRecOn with
  | nil => simp [after, initial]
  | append_singleton first event ih =>
      have hbefore := (List.prefix_append first [event]).trans hfirst
      have hinvariant := invariant_after hframes hanswer hbefore
      rw [after_append]
      rcases step_cases (after channelType first) event with
        ⟨-, hstep⟩ | ⟨hfailure, rfl, hstep⟩ | ⟨-, moved, -, hstep⟩ |
        ⟨-, hstep⟩ | ⟨-, frame, -, hstep⟩
      · rw [hstep]
        exact ih hbefore
      · have hanswers := hanswer first hfirst hfailure hinvariant
        rw [hstep, (call_of_answers hanswers).2]
        exact ih hbefore
      · rw [hstep]
        exact ih hbefore
      · rw [hstep]
        simp
      · rw [hstep]
        exact ih hbefore

theorem length_returned_step {event : StreamEvent}
    (hfirst : first ++ [event] <+: events)
    (hfailure : (after channelType (first ++ [event])).failure = none) :
    (after channelType first).failure = none ∧
      (after channelType (first ++ [event])).returned.length =
        (after channelType first).returned.length +
          if event.isCall then
            (after channelType first).expected.toList.length
          else 0 := by
  have hbefore := (List.prefix_append first [event]).trans hfirst
  rw [after_append] at hfailure ⊢
  have hnone : (after channelType first).failure = none := by
    cases hfailed : (after channelType first).failure with
    | none => rfl
    | some failure =>
        rw [step_of_failure hfailed, hfailed] at hfailure
        cases hfailure
  refine ⟨hnone, ?_⟩
  rcases step_cases (after channelType first) event with
    ⟨hfailed, -⟩ | ⟨-, rfl, hstep⟩ | ⟨hcall, moved, -, hstep⟩ |
    ⟨hcall, hstep⟩ | ⟨hcall, frame, -, hstep⟩
  · exact absurd hnone hfailed
  · have hanswers := hanswer first hfirst hnone
      (invariant_after hframes hanswer hbefore)
    rw [hstep, (call_of_answers hanswers).1, List.length_append]
    rfl
  · rw [hstep, hcall]
    rfl
  · rw [hstep, hcall]
    rfl
  · rw [hstep, hcall]
    rfl

theorem count_le_returned (hsecond : first ++ second <+: events)
    (hfailure : (after channelType (first ++ second)).failure = none)
    {count : ℕ} (hcount : count ≤ (after channelType first).sender.sent.length)
    (harrived : ∀ frame ∈ (after channelType first).sender.sent.take count,
      frame ∈ (after channelType first).arrived)
    (hcalls : count ≤ (after channelType first).returned.length +
      second.countP StreamEvent.isCall) :
    count ≤ (after channelType (first ++ second)).returned.length := by
  induction second using List.reverseRecOn generalizing count with
  | nil => simpa using hcalls
  | append_singleton second event ih =>
      rw [← List.append_assoc] at hsecond hfailure ⊢
      have hbefore := (List.prefix_append (first ++ second) [event]).trans
        hsecond
      obtain ⟨hnone, hlength⟩ := length_returned_step hframes hanswer hsecond
        hfailure
      rw [hlength]
      rw [List.countP_append, List.countP_singleton] at hcalls
      rcases Nat.lt_or_ge (after channelType (first ++ second)).returned.length
        count with hlt | hge
      swap
      · omega
      cases hcall : event.isCall with
      | false =>
          rw [hcall] at hcalls
          have hle := ih hbefore hnone hcount harrived (by simpa using hcalls)
          omega
      | true =>
          rw [hcall] at hcalls
          -- All frames but the last one are returned before this call.
          have hle : count - 1 ≤
              (after channelType (first ++ second)).returned.length := by
            refine ih hbefore hnone (by omega) (fun frame hmem => ?_)
              (by simp only [if_true] at hcalls; omega)
            exact harrived frame
              ((List.take_sublist_take_left (by omega)).subset hmem)
          have hextends := extends_after channelType first second
          obtain ⟨rest, hsent⟩ := hextends.sent
          have hindex : (after channelType (first ++ second)).returned.length <
              (after channelType first).sender.sent.length := by omega
          obtain ⟨frame, hnext⟩ : ∃ frame,
              (after channelType first).sender.sent[(after channelType
                (first ++ second)).returned.length]? = some frame :=
            ⟨_, List.getElem?_eq_getElem hindex⟩
          have hmem : frame ∈ (after channelType first).arrived := by
            rw [← List.getElem?_take_of_lt hlt] at hnext
            exact harrived frame (List.mem_of_getElem? hnext)
          have hexpected : (after channelType (first ++ second)).expected =
              some frame := by
            unfold expected
            rw [← hsent, List.getElem?_append_left hindex, hnext,
              Option.filter_some,
              if_pos (decide_eq_true (hextends.arrived _ hmem))]
          rw [hexpected]
          simp only [if_true, Option.toList_some, List.length_singleton]
          omega

theorem delivers_of_callsAnswer : Delivers channelType events where
  noEmptyTop := fun _ hfirst => failure_ne_emptyTop hframes hanswer hfirst
  inOrder := fun first hfirst => by
    have hinvariant := invariant_after hframes hanswer hfirst
    exact ⟨hinvariant.handed, hinvariant.sent_sublist⟩
  complete := fun _ _ hsecond hfailure _ hcount harrived hcalls =>
    count_le_returned hframes hanswer hsecond hfailure hcount harrived hcalls

end Answered

theorem callsAnswer_of_delivers (hdelivers : Delivers channelType events) :
    CallsAnswer channelType events := by
  intro first hfirst hfailure hinvariant
  have hbefore := (List.prefix_append first [.getStreamData]).trans hfirst
  have hstep :
      after channelType (first ++ [StreamEvent.getStreamData]) =
        (call (after channelType first)).2 := by
    rw [after_append, step_getStreamData hfailure]
  have hfailed := hdelivers.noEmptyTop _ hfirst
  have hhanded := (hdelivers.inOrder _ hfirst).1
  have hcomplete := hdelivers.complete first [.getStreamData] hfirst
  rw [hstep] at hfailed hhanded hcomplete
  unfold Answers
  cases hget : (after channelType first).receiver.getStreamData with
  | none =>
      refine absurd ?_ hfailed
      unfold call
      rw [hget]
  | some result =>
      obtain ⟨data, receiver⟩ := result
      have hcall : (call (after channelType first)).2.returned =
          (after channelType first).returned ++ data.toList := by
        unfold call
        rw [hget]
      have hsent : (call (after channelType first)).2.sender.sent =
          (after channelType first).sender.sent := by
        unfold call
        rw [hget]
      have hnone : (call (after channelType first)).2.failure = none := by
        unfold call
        rw [hget]
        exact hfailure
      rw [hcall, hsent] at hhanded
      rw [hcall] at hcomplete
      rw [Option.map_some]
      cases data with
      | none =>
          -- A frame which was due would have been returned by this call.
          suffices hdue : (after channelType first).expected = none by rw [hdue]
          unfold expected
          rw [Option.filter_eq_none_iff]
          intro frame hnext harrived
          have hlt := (List.getElem?_eq_some_iff.mp hnext).1
          have hle := hcomplete hnone
            ((after channelType first).returned.length + 1) hlt
            (by
              rw [take_length_add_one hinvariant.handed hnext]
              intro other hmem
              rcases List.mem_append.mp hmem with hin | hin
              · exact hinvariant.returned other hin
              · rw [List.mem_singleton.mp hin]
                exact of_decide_eq_true harrived)
            (by simp [StreamEvent.isCall])
          simp at hle
      | some frame =>
          have hnext : (after channelType first).sender.sent[(after channelType
              first).returned.length]? = some frame := by
            obtain ⟨rest, hrest⟩ := hhanded
            rw [← hrest]
            simp
          have hqueued : frame ∈
              (after channelType first).receiver.dataQueue := by
            obtain ⟨old, hqueue, -⟩ :=
              AVReceiverFilter.getStreamData_eq_some hget
            simp [hqueue]
          unfold expected
          rw [hnext, Option.filter_some,
            if_pos (decide_eq_true (hinvariant.queued frame hqueued))]

/-- The frames are delivered in order and once in exactly the runs in which every
call finds the queue ready. -/
theorem delivers_iff
    (hframes : (after channelType events).sender.submitted.length < 2 ^ 31) :
    Delivers channelType events ↔
      ∀ first, first ++ [.getStreamData] <+: events →
        (after channelType first).failure = none →
        (after channelType first).Ready := by
  have hbound {first : List StreamEvent}
      (hfirst : first ++ [.getStreamData] <+: events) :
      (after channelType first).sender.submitted.length ≤ 2 ^ 32 :=
    length_submitted_le
      ((List.prefix_append first [.getStreamData]).trans hfirst) hframes
  constructor
  · intro hdelivers first hfirst hfailure
    have hanswer := callsAnswer_of_delivers hdelivers
    have hinvariant := invariant_after hframes hanswer
      ((List.prefix_append first [.getStreamData]).trans hfirst)
    exact (hinvariant.answers_iff_ready (hbound hfirst)).mp
      (hanswer first hfirst hfailure hinvariant)
  · intro hready
    refine delivers_of_callsAnswer hframes fun first hfirst hfailure hinvariant =>
      ?_
    exact (hinvariant.answers_iff_ready (hbound hfirst)).mpr
      (hready first hfirst hfailure)

/-! ### Repeated and refused frames -/

instance (transfer : StreamTransfer) : Decidable transfer.Ready :=
  decidable_of_iff
    ((transfer.receiver.dataQueue = [] ∨
        ∃ frame ∈ transfer.receiver.dataQueue, frame ∉ transfer.returned) ∧
      ∀ frame ∈ transfer.sender.sent[transfer.returned.length]?,
        frame ∈ transfer.arrived →
        transfer.sender.sent.take (transfer.returned.length + 1) <+:
          transfer.sender.submitted)
    ⟨fun hready => ⟨hready.1, hready.2⟩,
      fun hready => ⟨hready.fresh, hready.consecutive⟩⟩

theorem ready_of_forall_lt
    (hready : ∀ position < events.length,
      events[position]?.map StreamEvent.isCall = some true →
        (after channelType (events.take position)).Ready)
    {first : List StreamEvent} (hfirst : first ++ [StreamEvent.getStreamData] <+: events) :
    (after channelType first).Ready := by
  obtain ⟨rest, rfl⟩ := hfirst
  have hlast := hready first.length (by simp) (by simp [StreamEvent.isCall])
  simpa using hlast

def sampleStream : List StreamEvent :=
  [.doStart, .setSurfaceParam {}, .setSurfaceParam { rotate := .rotate90 },
    .process none, .process none, .arrive 1, .getStreamData, .arrive 0,
    .arrive 0, .getStreamData, .getStreamData, .getStreamData]

theorem delivers_sampleStream : Delivers .videoStream sampleStream := by
  refine (delivers_iff (by decide)).mpr fun first hfirst _ => ?_
  exact ready_of_forall_lt (by decide +kernel) hfirst

def repeatedStream : List StreamEvent :=
  [.doStart, .setSurfaceParam {}, .process none, .arrive 0, .getStreamData,
    .arrive 0, .getStreamData]

def refusedStream : List StreamEvent :=
  [.setSurfaceParam {}, .doStart, .setSurfaceParam {}, .process none, .arrive 0,
    .getStreamData]

theorem not_delivers_repeated :
    ¬Delivers .videoStream repeatedStream ∧
      ¬Delivers .videoStream refusedStream := by
  constructor
  · intro hdelivers
    exact hdelivers.noEmptyTop repeatedStream List.prefix_rfl (by decide)
  · intro hdelivers
    have hcomplete := hdelivers.complete (refusedStream.take 5)
      [.getStreamData] List.prefix_rfl (by decide) 1 (by decide) (by decide)
      (by decide)
    revert hcomplete
    decide

end StreamTransfer

end Dmsfwk
