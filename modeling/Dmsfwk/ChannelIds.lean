import Dmsfwk.ChannelRecords
import Dmsfwk.IdSupply

/-!
# The ids of the channels

`GenerateNextId` takes the id of a channel from the thousand of its data type
and never gives one back, so that the limit counts the channels which were
created since the last `Reset` and not those which are live.
-/

namespace Dmsfwk

namespace ChannelManager

/-! ## Creations in a run -/

namespace ChannelEvent

def creates : ChannelEvent → Option ChannelDataType
  | .createServerChannel _ dataType _ => some dataType
  | .createClientChannel _ dataType _ _ => some dataType
  | _ => none

def resets : ChannelEvent → Bool
  | .deInit => true
  | _ => false

end ChannelEvent

def creations (dataType : ChannelDataType) (events : List ChannelEvent) : ℕ :=
  (events.filterMap ChannelEvent.creates).count dataType

def returnedId (manager : ChannelManager) : ChannelEvent → Option ℤ
  | .createServerChannel channelName dataType peerInfo =>
      let result :=
        (manager.createServerChannel channelName dataType peerInfo).1
      if result = CollabErr.createServerChannelFailed.code then none
      else some result
  | .createClientChannel channelName dataType peerInfo socket =>
      let result :=
        (manager.createClientChannel channelName dataType peerInfo socket).1
      if result = CollabErr.createClientChannelFailed.code ∨
          result = CollabErr.createSocketFailed.code then none
      else some result
  | _ => none

def returnedIds (start : ChannelManager) (events : List ChannelEvent) :
    List ℤ :=
  (EventRun.run (fun manager event =>
    (manager.returnedId event, (manager.step event).2)) start
    events).1.reduceOption

def FailsWithLimit (manager : ChannelManager) : ChannelEvent → Prop
  | .createServerChannel channelName dataType peerInfo =>
      (manager.createServerChannel channelName dataType peerInfo).1 =
        CollabErr.createServerChannelFailed.code
  | .createClientChannel channelName dataType peerInfo socket =>
      (manager.createClientChannel channelName dataType peerInfo socket).1 =
        CollabErr.createClientChannelFailed.code
  | _ => False

def liveCount (manager : ChannelManager) (dataType : ChannelDataType) : ℕ :=
  OrderedMap.count manager.channelInfoMap (·.dataType = dataType)

/-- A creation does not fail with the limit while fewer than 999 channels of
the data type are live. -/
def WithinLimit (manager : ChannelManager) (event : ChannelEvent) : Prop :=
  ∀ dataType, event.creates = some dataType →
    manager.liveCount dataType < 999 → ¬manager.FailsWithLimit event

/-! ## The ids come from a supply -/

def channelIds : IdSupply.Ranges ChannelDataType where
  first := startIds
  limit dataType := channelIdGap * (dataType.index + 2)
  first_le dataType := (startIds_range dataType).2
  disjoint := by
    intro dataType other channelId
    cases dataType <;> cases other <;>
      simp [startIds, ChannelDataType.index, channelIdGap, fileStartId,
        streamStartId, bytesStartId, messageStartId] <;> omega

section NextIds

variable {manager : ChannelManager}

theorem nextIds_setSocketStatus (socketId : ℤ) (status : ChannelStatus) :
    (manager.setSocketStatus socketId status).2.nextIds = manager.nextIds := by
  unfold setSocketStatus updateChannelStatus
  split
  · rfl
  · dsimp only
    split
    · rfl
    · split
      · rfl
      · rfl

theorem nextIds_registerSocket (socketId channelId setFileSchema : ℤ) :
    (manager.registerSocket socketId channelId setFileSchema).2.nextIds =
      manager.nextIds := by
  cases hinfo : manager.channelInfoMap[channelId]? with
  | none => rw [registerSocket_of_unknown hinfo]
  | some info =>
      rw [registerSocket_entered hinfo]
      rfl

theorem nextIds_createBaseChannel (channelName : Text)
    (dataType : ChannelDataType) (peerInfo : ChannelPeerInfo) :
    (manager.createBaseChannel channelName dataType peerInfo).2.nextIds =
      (channelIds.take manager.nextIds dataType).2 := by
  have hlimit : manager.nextIds dataType -
      channelIdGap * (dataType.index + 1) ≥ channelIdGap ↔
      ¬manager.nextIds dataType < channelIds.limit dataType := by
    simp only [channelIds, channelIdGap]
    omega
  unfold createBaseChannel generateNextId IdSupply.Ranges.take
  simp only [hlimit, ite_not]
  split_ifs
  · rfl
  · rfl
  · rfl
  · rfl

theorem nextIds_createServerChannel (channelName : Text)
    (dataType : ChannelDataType) (peerInfo : ChannelPeerInfo) :
    (manager.createServerChannel channelName dataType peerInfo).2.nextIds =
      (channelIds.take manager.nextIds dataType).2 := by
  rw [← nextIds_createBaseChannel channelName dataType peerInfo]
  unfold createServerChannel
  split
  · next next hbase => rw [hbase]
  · next info next hbase =>
      rw [hbase]
      rfl

theorem nextIds_createClientChannel (channelName : Text)
    (dataType : ChannelDataType) (peerInfo : ChannelPeerInfo) (socket : ℤ) :
    (manager.createClientChannel channelName dataType peerInfo
        socket).2.nextIds =
      (channelIds.take manager.nextIds dataType).2 := by
  rw [← nextIds_createBaseChannel channelName dataType peerInfo]
  unfold createClientChannel
  split
  · next next hbase => rw [hbase]
  · next info next hbase =>
      rw [hbase]
      dsimp only
      split_ifs
      · rfl
      · rfl

theorem nextIds_step {event : ChannelEvent} (hkeeps : event.resets = false) :
    (manager.step event).2.nextIds =
      event.creates.elim manager.nextIds
        fun dataType => (channelIds.take manager.nextIds dataType).2 := by
  have hset : ∀ (next : ChannelManager) socketId status,
      next.nextIds = manager.nextIds →
      (next.setSocketStatus socketId status).2.nextIds = manager.nextIds :=
    fun _ socketId status => (nextIds_setSocketStatus socketId status).trans
  have hdelete : ∀ (next : ChannelManager) channelId,
      next.nextIds = manager.nextIds →
      (next.deleteChannel channelId).2.nextIds = manager.nextIds :=
    fun _ channelId => (nextIds_deleteChannel channelId).trans
  cases event with
  | createServerChannel channelName dataType peerInfo =>
      exact nextIds_createServerChannel channelName dataType peerInfo
  | createClientChannel channelName dataType peerInfo socket =>
      exact nextIds_createClientChannel channelName dataType peerInfo socket
  | deleteChannel channelId => exact nextIds_deleteChannel channelId
  | bindSocket socketId dataType bind setFileSchema =>
      exact bindSocket_preserves hset socketId dataType bind setFileSchema rfl
  | updateChannel socketId channelId setFileSchema =>
      exact updateChannel_preserves hset socketId channelId setFileSchema
        (nextIds_registerSocket socketId channelId setFileSchema)
  | onSocketClosed socketId =>
      exact onSocketClosed_preserves hset hdelete socketId rfl
  | deInit => cases hkeeps

theorem nextIds_run {events : List ChannelEvent}
    (hkeeps : ∀ event ∈ events, event.resets = false) :
    (EventRun.run step manager events).2.nextIds =
      (EventRun.run channelIds.take manager.nextIds
        (events.filterMap ChannelEvent.creates)).2 :=
  EventRun.run_filterMap ChannelManager.nextIds ChannelEvent.creates
    (fun manager event hmem => @nextIds_step manager event (hkeeps event hmem))
    manager

end NextIds

/-! ## What a creation returns -/

section Returned

variable {manager : ChannelManager} (hnumbered : manager.Numbered)
  {event : ChannelEvent} {dataType : ChannelDataType}

include hnumbered

theorem Numbered.nextIds_ne {code : ℤ} (hroom : manager.HasRoom dataType)
    (hcode : ChannelManager.isValidChannelId code = false) :
    manager.nextIds dataType ≠ code := by
  rintro rfl
  rw [isValidChannelId_of_range (hnumbered.next dataType).1
    hroom.le] at hcode
  cases hcode

theorem Numbered.failsWithLimit_iff
    (hcreates : event.creates = some dataType) :
    manager.FailsWithLimit event ↔ ¬manager.HasRoom dataType := by
  have hlower := (hnumbered.next dataType).1
  cases event with
  | createServerChannel channelName own peerInfo =>
      obtain rfl : own = dataType := Option.some.inj hcreates
      dsimp only [FailsWithLimit]
      by_cases hroom : manager.HasRoom own
      · rw [createServerChannel_eq hlower hroom]
        exact iff_of_false (hnumbered.nextIds_ne hroom (by decide))
          (not_not.mpr hroom)
      · rw [createServerChannel_full hroom]
        exact iff_of_true rfl hroom
  | createClientChannel channelName own peerInfo socket =>
      obtain rfl : own = dataType := Option.some.inj hcreates
      dsimp only [FailsWithLimit]
      by_cases hroom : manager.HasRoom own
      · refine iff_of_false ?_ (not_not.mpr hroom)
        by_cases hfailed : createClientSocket channelName socket ≤ 0
        · rw [createClientChannel_failed hlower hroom _ _ hfailed]
          exact nofun
        · rw [createClientChannel_eq hlower hroom _ _ hfailed]
          exact hnumbered.nextIds_ne hroom (by decide)
      · rw [createClientChannel_full hroom]
        exact iff_of_true rfl hroom
  | _ => cases hcreates

theorem Numbered.returnedId_cases :
    manager.returnedId event = none ∨
      ∃ dataType, event.creates = some dataType ∧
        manager.HasRoom dataType ∧
        manager.returnedId event = some (manager.nextIds dataType) := by
  cases event with
  | createServerChannel channelName dataType peerInfo =>
      dsimp only [returnedId]
      by_cases hroom : manager.HasRoom dataType
      · refine .inr ⟨dataType, rfl, hroom, ?_⟩
        rw [createServerChannel_eq (hnumbered.next dataType).1 hroom]
        exact if_neg (hnumbered.nextIds_ne hroom (by decide))
      · rw [createServerChannel_full hroom]
        exact .inl (if_pos rfl)
  | createClientChannel channelName dataType peerInfo socket =>
      dsimp only [returnedId]
      by_cases hroom : manager.HasRoom dataType
      · have hlower := (hnumbered.next dataType).1
        by_cases hfailed : createClientSocket channelName socket ≤ 0
        · rw [createClientChannel_failed hlower hroom _ _ hfailed]
          exact .inl (if_pos (.inr rfl))
        · refine .inr ⟨dataType, rfl, hroom, ?_⟩
          rw [createClientChannel_eq hlower hroom _ _ hfailed]
          refine if_neg (not_or.mpr ⟨?_, ?_⟩)
          · exact hnumbered.nextIds_ne hroom (by decide)
          · exact hnumbered.nextIds_ne hroom (by decide)
      · rw [createClientChannel_full hroom]
        exact .inl (if_pos (.inl rfl))
  | _ => exact .inl rfl

end Returned

/-! ## Runs between two resets -/

theorem Tracked.returnedIds_sublist {manager : ChannelManager}
    (htracked : manager.Tracked) {events : List ChannelEvent}
    (hkeeps : ∀ event ∈ events, event.resets = false) :
    (returnedIds manager events).Sublist
      (EventRun.run channelIds.take manager.nextIds
        (events.filterMap ChannelEvent.creates)).1.reduceOption := by
  induction events generalizing manager with
  | nil => exact List.Sublist.refl _
  | cons event events ih =>
      obtain ⟨hevent, hevents⟩ := List.forall_mem_cons.mp hkeeps
      have hrest := ih (htracked.step event) hevents
      rw [@nextIds_step manager event hevent] at hrest
      unfold returnedIds at hrest ⊢
      rw [EventRun.run_cons, List.filterMap_cons]
      rcases @Numbered.returnedId_cases manager htracked.numbered event with
        hnone | ⟨dataType, hcreates, hroom, hid⟩
      · rw [hnone, List.reduceOption_cons_of_none]
        cases hcreates : event.creates with
        | none =>
            rw [hcreates] at hrest
            exact hrest
        | some dataType =>
            rw [hcreates] at hrest
            dsimp only
            rw [EventRun.run_cons]
            cases (channelIds.take manager.nextIds dataType).1 with
            | none =>
                rw [List.reduceOption_cons_of_none]
                exact hrest
            | some channelId =>
                rw [List.reduceOption_cons_of_some]
                exact hrest.cons channelId
      · have htake : (channelIds.take manager.nextIds dataType).1 =
            some (manager.nextIds dataType) := by
          rw [IdSupply.Ranges.take_of_lt hroom]
        rw [hcreates] at hrest
        rw [hid, hcreates, List.reduceOption_cons_of_some]
        dsimp only
        rw [EventRun.run_cons, htake, List.reduceOption_cons_of_some]
        exact hrest.cons_cons _

def JustReset (ownerName : Text) (start : ChannelManager) : Prop :=
  start = initial ownerName ∨
    ∃ before : List ChannelEvent,
      start = (EventRun.run step (initial ownerName) before).2.deInit

theorem JustReset.tracked {ownerName : Text} {start : ChannelManager}
    (hstart : JustReset ownerName start) : start.Tracked := by
  rcases hstart with rfl | ⟨before, rfl⟩
  · exact tracked_initial ownerName
  · exact (tracked_run ownerName before).deInit

theorem JustReset.nextIds {ownerName : Text} {start : ChannelManager}
    (hstart : JustReset ownerName start) : start.nextIds = startIds := by
  rcases hstart with rfl | ⟨before, rfl⟩
  · rfl
  · rfl

section Between

variable {ownerName : Text} {start : ChannelManager}
  {events : List ChannelEvent} (hstart : JustReset ownerName start)
  (hkeeps : ∀ event ∈ events, event.resets = false)

include hstart hkeeps

theorem nodup_returnedIds : (returnedIds start events).Nodup := by
  have htaken := @IdSupply.Ranges.nodup_run _ _ channelIds startIds
    IdSupply.Ranges.within_first (events.filterMap ChannelEvent.creates)
  rw [← hstart.nextIds] at htaken
  exact htaken.sublist (hstart.tracked.returnedIds_sublist hkeeps)

theorem isValidChannelId_returnedIds :
    ∀ channelId ∈ returnedIds start events,
      isValidChannelId channelId = true := by
  intro channelId hmem
  obtain ⟨dataType, hlower, hupper⟩ := IdSupply.Ranges.mem_run
    ((hstart.tracked.returnedIds_sublist hkeeps).subset hmem)
  exact isValidChannelId_of_range
    ((hstart.tracked.numbered.next dataType).1.trans_le hlower) hupper.le

theorem hasRoom_iff (dataType : ChannelDataType) :
    (EventRun.run step start events).2.HasRoom dataType ↔
      creations dataType events < 999 := by
  have hfull := @IdSupply.Ranges.take_run_eq_none_iff _ _ channelIds
    (events.filterMap ChannelEvent.creates) dataType
  have hrun := @nextIds_run start events hkeeps
  rw [IdSupply.Ranges.take_eq_none_iff,
    show channelIds.first = start.nextIds from hstart.nextIds.symm,
    ← hrun] at hfull
  have hsize : channelIds.limit dataType - start.nextIds dataType = 999 := by
    rw [hstart.nextIds]
    cases dataType <;> rfl
  unfold HasRoom creations
  change _ < channelIds.limit dataType ↔ _
  omega

end Between

/-- Between two resets the ids returned are valid and pairwise different, and a
creation keeps to the limit exactly when fewer than 999 channels of its data
type were created before or 999 of them are live. -/
theorem channelIds_run {ownerName : Text} {start : ChannelManager}
    (hstart : JustReset ownerName start) {events : List ChannelEvent}
    (hkeeps : ∀ event ∈ events, event.resets = false) :
    (∀ channelId ∈ returnedIds start events,
        isValidChannelId channelId = true) ∧
      (returnedIds start events).Nodup ∧
      ((∀ first event, first ++ [event] <+: events →
          (EventRun.run step start first).2.WithinLimit event) ↔
        ∀ first event, first ++ [event] <+: events →
          ∀ dataType, event.creates = some dataType →
            creations dataType first < 999 ∨
              999 ≤ (EventRun.run step start first).2.liveCount
                dataType) := by
  refine ⟨isValidChannelId_returnedIds hstart hkeeps,
    nodup_returnedIds hstart hkeeps, ?_⟩
  refine forall_congr' fun first => forall_congr' fun event =>
    imp_congr_right fun hreached => forall_congr' fun dataType =>
    imp_congr_right fun hcreates => ?_
  have hfirst : ∀ event ∈ first, event.resets = false := fun event hmem =>
    hkeeps event (hreached.subset (List.mem_append_left _ hmem))
  have htracked : (EventRun.run step start first).2.Tracked :=
    EventRun.run_invariant (fun _ event htracked => htracked.step event) first
      hstart.tracked
  rw [htracked.numbered.failsWithLimit_iff hcreates, not_not,
    hasRoom_iff hstart hfirst]
  constructor
  · intro hwithin
    rcases lt_or_ge (creations dataType first) 999 with hfew | hmany
    · exact .inl hfew
    · refine .inr (not_lt.mp fun hlive => ?_)
      exact absurd (hwithin hlive) (not_lt.mpr hmany)
  · rintro (hfew | hlive) hspare
    · exact hfew
    · exact absurd hspare (not_lt.mpr hlive)

def threeChannels : List ChannelEvent :=
  [.createServerChannel "notes".toList .bytes ⟨[], []⟩,
    .createClientChannel "chat".toList .message ⟨[], []⟩ 7,
    .deleteChannel 2001, .createServerChannel "notes".toList .bytes ⟨[], []⟩]

theorem channelIds_threeChannels :
    returnedIds (initial []) threeChannels = [2001, 1001, 2002] ∧
      (returnedIds (initial []) threeChannels).Nodup := by
  have hkeeps : ∀ event ∈ threeChannels, event.resets = false := by decide
  exact ⟨by decide +kernel, (channelIds_run (.inl rfl) hkeeps).2.1⟩

/-! ## Deleted channels -/

section Deleted

variable {manager : ChannelManager}

theorem Tracked.liveCount_deleted (htracked : manager.Tracked)
    {dataType : ChannelDataType} (hroom : manager.HasRoom dataType)
    (channelName : Text) (peerInfo : ChannelPeerInfo)
    (other : ChannelDataType) :
    ((manager.createServerChannel channelName dataType
        peerInfo).2.deleteChannel (manager.nextIds dataType)).2.liveCount
        other = manager.liveCount other := by
  have hlower := (htracked.numbered.next dataType).1
  have hnew := htracked.numbered.fresh dataType
  apply OrderedMap.count_congr
  intro channelId
  rw [channelInfoMap_deleteChannel (isValidChannelId_of_range hlower hroom.le),
    createServerChannel_eq hlower hroom]
  split_ifs with hsame
  · rw [← hsame, hnew]
  · exact (getElem?_registerChannel rfl hnew channelId).trans (if_neg hsame)

def deletedChannel (number : ℕ) : List ChannelEvent :=
  [.createServerChannel [] .bytes ⟨[], []⟩, .deleteChannel (2001 + number)]

def deletedChannels (count : ℕ) : List ChannelEvent :=
  (List.range count).flatMap deletedChannel

theorem resets_deletedChannels (count : ℕ) :
    ∀ event ∈ deletedChannels count, event.resets = false := by
  intro event hmem
  obtain ⟨number, -, hevent⟩ := List.mem_flatMap.mp hmem
  fin_cases hevent
  · rfl
  · rfl

theorem deletedChannels_succ (count : ℕ) :
    deletedChannels (count + 1) =
      deletedChannels count ++ deletedChannel count := by
  unfold deletedChannels
  rw [List.range_succ, List.flatMap_append, List.flatMap_singleton]

theorem creations_deletedChannels (count : ℕ) :
    creations .bytes (deletedChannels count) = count := by
  induction count with
  | zero => rfl
  | succ count ih =>
      unfold creations at ih ⊢
      rw [deletedChannels_succ, List.filterMap_append, List.count_append, ih]
      rfl

theorem nextIds_deletedChannels {count : ℕ} (hcount : count ≤ 999) :
    (EventRun.run step (initial []) (deletedChannels count)).2.nextIds
      .bytes = 2001 + count := by
  have hcreations := creations_deletedChannels count
  unfold creations at hcreations
  rw [nextIds_run (resets_deletedChannels count)]
  refine (IdSupply.Ranges.next_run IdSupply.Ranges.within_first _ _).trans ?_
  rw [hcreations]
  refine min_eq_left ?_
  change 2001 + (count : ℤ) ≤ 3000
  omega

theorem hasRoom_deletedChannels (count : ℕ) :
    (EventRun.run step (initial []) (deletedChannels count)).2.HasRoom
      .bytes ↔ count < 999 := by
  have hroom := @hasRoom_iff [] (initial []) (deletedChannels count)
    (.inl rfl) (resets_deletedChannels count) .bytes
  rw [creations_deletedChannels] at hroom
  exact hroom

theorem liveCount_deletedChannels {count : ℕ} (hcount : count ≤ 999)
    (dataType : ChannelDataType) :
    (EventRun.run step (initial []) (deletedChannels count)).2.liveCount
      dataType = 0 := by
  induction count with
  | zero => rfl
  | succ count ih =>
      have hbefore := ih (Nat.le_of_succ_le hcount)
      have hnext := nextIds_deletedChannels (Nat.le_of_succ_le hcount)
      have hroom := (hasRoom_deletedChannels count).mpr hcount
      rw [deletedChannels_succ, EventRun.run_append, ← hbefore,
        ← (tracked_run [] (deletedChannels count)).liveCount_deleted hroom
          [] ⟨[], []⟩ dataType, hnext]
      rfl

end Deleted

/-- After 999 channels were created and deleted no channel can be created,
although none is live. -/
theorem not_withinLimit_deletedChannels :
    (EventRun.run step (initial []) (deletedChannels 999)).2.liveCount
        .bytes = 0 ∧
      ¬(EventRun.run step (initial []) (deletedChannels 999)).2.WithinLimit
        (.createServerChannel [] .bytes ⟨[], []⟩) := by
  have hlive := liveCount_deletedChannels le_rfl .bytes
  have hfails := (@Numbered.failsWithLimit_iff _
    (tracked_run [] (deletedChannels 999)).numbered
    (.createServerChannel [] .bytes ⟨[], []⟩) .bytes rfl).mpr
    ((hasRoom_deletedChannels 999).not.mpr (lt_irrefl 999))
  refine ⟨hlive, fun hwithin => hwithin .bytes rfl ?_ hfails⟩
  rw [hlive]
  decide

end ChannelManager

end Dmsfwk
