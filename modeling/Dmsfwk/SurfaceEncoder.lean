import Dmsfwk.EventRun
import Mathlib.Data.List.TakeWhile

/-!
# Frames of a paused encoder

`SurfaceEncoderAdapter` discards the frames of a pause and moves the later ones
back in time.  Its calls and its frames come from different threads, and the
encoder gives the frames back by their original times.
-/

namespace Dmsfwk

open EventRun

inductive StateCode where
  | pause | resume
  deriving DecidableEq

def int64Max : ℤ := 2 ^ 63 - 1

structure SurfaceEncoderAdapter where
  isTransCoderMode : Bool := false
  pauseResumeQueue : List (ℤ × StateCode) := []
  mappingTimeQueue : List (ℤ × ℤ) := []
  totalPauseTime : ℤ := 0
  startBufferTime : ℤ := -1
  lastBufferTime : ℤ := -1

/-- `undefined` is the front of an empty queue. -/
inductive EncoderAnswer where
  | done | errorUnknown | discard (isDroppedFrames : Bool)
  | pushed (pts : ℤ) | notPushed | undefined
  deriving DecidableEq

namespace SurfaceEncoderAdapter

def pause (adapter : SurfaceEncoderAdapter) (pauseTime : ℤ) :
    SurfaceEncoderAdapter :=
  let paused := { adapter with
    pauseResumeQueue := adapter.pauseResumeQueue ++
      [(pauseTime, .pause), (int64Max, .resume)] }
  if adapter.isTransCoderMode then adapter
  else match adapter.pauseResumeQueue.getLast? with
    | none => paused
    | some (time, code) =>
        if code = .resume ∧ time ≤ pauseTime then paused else adapter

def resume (adapter : SurfaceEncoderAdapter) (resumeTime : ℤ) :
    EncoderAnswer × SurfaceEncoderAdapter :=
  if adapter.isTransCoderMode then (.done, adapter)
  else match adapter.pauseResumeQueue.getLast? with
    | none => (.errorUnknown, adapter)
    | some (time, code) =>
        if code = .resume then
          (.done, { adapter with
            pauseResumeQueue := adapter.pauseResumeQueue.dropLast ++
              [(min resumeTime time, .resume)] })
        else (.done, adapter)

/-- The answer, `checkFramesPauseTime` and what is left of the queue. -/
def checkFrames (lastBufferTime currentPts : ℤ) :
    List (ℤ × StateCode) → ℤ → Bool × ℤ × List (ℤ × StateCode)
  | [], pauseTime => (false, pauseTime, [])
  | (time, stateCode) :: rest, pauseTime =>
      if stateCode = .pause ∧ currentPts < time then
        (false, pauseTime, (time, stateCode) :: rest)
      else if stateCode = .resume ∧ currentPts < time then
        (true, pauseTime, (time, stateCode) :: rest)
      else if stateCode = .pause then
        checkFrames lastBufferTime currentPts rest
          (pauseTime - (time - lastBufferTime))
      else
        checkFrames lastBufferTime currentPts rest
          (pauseTime + (time - lastBufferTime))

def onInputParameter (adapter : SurfaceEncoderAdapter) (currentPts : ℤ) :
    EncoderAnswer × SurfaceEncoderAdapter :=
  if adapter.isTransCoderMode then (.discard false, adapter)
  else
    let checked :=
      checkFrames adapter.lastBufferTime currentPts adapter.pauseResumeQueue 0
    let next := { adapter with
      pauseResumeQueue := checked.2.2, lastBufferTime := currentPts }
    if checked.1 then
      (.discard true, { next with
        totalPauseTime :=
          adapter.totalPauseTime + currentPts - adapter.lastBufferTime })
    else
      let total :=
        if checked.2.1 + 1000000 < currentPts - adapter.lastBufferTime then
          adapter.totalPauseTime + checked.2.1
        else adapter.totalPauseTime
      (.discard false, { next with
        totalPauseTime := total
        mappingTimeQueue :=
          adapter.mappingTimeQueue ++ [(currentPts, currentPts - total)] })

/-- Entries of other frames in front are dropped. -/
def mappingTime (queue : List (ℤ × ℤ)) (pts : ℤ) :
    Option (ℤ × List (ℤ × ℤ)) :=
  if queue = [] then some (pts, [])
  else match queue.dropWhile (·.1 ≠ pts) with
    | [] => none
    | front :: rest => some (front.2, rest)

def pushBuffer (adapter : SurfaceEncoderAdapter) (mappingTime : ℤ)
    (requested : Bool) : EncoderAnswer :=
  if requested then
    .pushed ((mappingTime - adapter.startBufferTime).tdiv 1000)
  else .notPushed

def onOutputBufferAvailable (adapter : SurfaceEncoderAdapter)
    (isCodecData : Bool) (pts : ℤ) (requested : Bool) :
    EncoderAnswer × SurfaceEncoderAdapter :=
  if isCodecData then (adapter.pushBuffer (-1) requested, adapter)
  else match mappingTime adapter.mappingTimeQueue pts with
    | none => (.undefined, { adapter with mappingTimeQueue := [] })
    | some (time, queue) =>
        (adapter.pushBuffer time requested,
          { adapter with mappingTimeQueue := queue })

def reset (adapter : SurfaceEncoderAdapter) : SurfaceEncoderAdapter :=
  { adapter with
    startBufferTime := -1
    totalPauseTime := 0
    mappingTimeQueue := []
    pauseResumeQueue := [] }

end SurfaceEncoderAdapter

inductive EncoderEvent where
  | setTransCoderMode
  | pause (time : ℤ)
  | resume (time : ℤ)
  | frame (currentPts : ℤ)
  | output (isCodecData : Bool) (pts : ℤ) (requested : Bool)
  | reset

/-- The adapter beside the calls since the last reset, and the frames that got a
new time and that came out of the encoder with it. -/
structure Recording where
  adapter : SurfaceEncoderAdapter := {}
  calls : List (ℤ × StateCode) := []
  mapped : List (ℤ × ℤ) := []
  emitted : List (ℤ × ℤ) := []

namespace Recording

open SurfaceEncoderAdapter

def called (recording : Recording) (time : ℤ) (code : StateCode)
    (next : SurfaceEncoderAdapter) : Recording :=
  if recording.adapter.isTransCoderMode then recording
  else { recording with
    adapter := next, calls := recording.calls ++ [(time, code)] }

def step (recording : Recording) : EncoderEvent → EncoderAnswer × Recording
  | .setTransCoderMode =>
      (.done, { recording with
        adapter := { recording.adapter with isTransCoderMode := true } })
  | .pause time =>
      (.done, recording.called time .pause (recording.adapter.pause time))
  | .resume time =>
      let resumed := recording.adapter.resume time
      (resumed.1, recording.called time .resume resumed.2)
  | .frame currentPts =>
      let taken := recording.adapter.onInputParameter currentPts
      (taken.1, { recording with
        adapter := taken.2
        mapped := recording.mapped ++ taken.2.mappingTimeQueue.drop
          recording.adapter.mappingTimeQueue.length })
  | .output isCodecData pts requested =>
      let queue := recording.adapter.mappingTimeQueue
      let pushed :=
        recording.adapter.onOutputBufferAvailable isCodecData pts requested
      (pushed.1, { recording with
        adapter := pushed.2
        emitted := recording.emitted ++
          if isCodecData then []
          else (queue.dropWhile (·.1 ≠ pts)).take 1 })
  | .reset => (.done, { adapter := recording.adapter.reset })

/-! ## Frames of a pause -/

/-- The last call until a time. -/
def lastCall (calls : List (ℤ × StateCode)) (time : ℤ) : Option StateCode :=
  ((calls.filter (·.1 ≤ time)).getLast?).map (·.2)

def DiscardsPaused (recording : Recording) : EncoderEvent → Prop
  | .frame currentPts =>
      (recording.step (.frame currentPts)).1 =
        .discard (recording.adapter.isTransCoderMode = false ∧
          lastCall recording.calls currentPts = some .pause)
  | _ => True

/-- The clock of the calls does not go back, and neither do the frames. -/
def Clocked (recording : Recording) : EncoderEvent → Prop
  | .pause time | .resume time =>
      (∀ call ∈ recording.calls, call.1 ≤ time) ∧ time < int64Max
  | .frame currentPts =>
      recording.adapter.lastBufferTime ≤ currentPts ∧ currentPts < int64Max
  | _ => True

def nextCode (time : ℤ) : List (ℤ × StateCode) → Option StateCode
  | [] => none
  | entry :: rest => if time < entry.1 then some entry.2 else nextCode time rest

section Queue

variable {time : ℤ} {queue rest : List (ℤ × StateCode)}

theorem nextCode_append :
    nextCode time (queue ++ rest) =
      (nextCode time queue).or (nextCode time rest) := by
  induction queue with
  | nil => rfl
  | cons entry queue ih =>
      simp only [List.cons_append, nextCode, ih]
      split_ifs <;> rfl

theorem nextCode_eq_none (hpast : ∀ entry ∈ queue, entry.1 ≤ time) :
    nextCode time queue = none := by
  induction queue with
  | nil => rfl
  | cons entry queue ih =>
      obtain ⟨hentry, hqueue⟩ := List.forall_mem_cons.mp hpast
      rw [nextCode, if_neg (not_lt.mpr hentry), ih hqueue]

theorem nextCode_dropWhile {first : ℤ} (hle : first ≤ time) :
    nextCode time (queue.dropWhile (·.1 ≤ first)) = nextCode time queue := by
  induction queue with
  | nil => rfl
  | cons entry queue ih =>
      by_cases hentry : entry.1 ≤ first
      · have hnot : ¬ time < entry.1 := by omega
        simp [nextCode, hentry, hnot, ih]
      · simp [hentry]

theorem checkFrames_spec (lastBufferTime currentPts pauseTime : ℤ) :
    ((checkFrames lastBufferTime currentPts queue pauseTime).1 = true ↔
      nextCode currentPts queue = some .resume) ∧
    (checkFrames lastBufferTime currentPts queue pauseTime).2.2 =
      queue.dropWhile (·.1 ≤ currentPts) := by
  induction queue generalizing pauseTime with
  | nil => simp [checkFrames, nextCode]
  | cons entry rest ih =>
      obtain ⟨next, code⟩ := entry
      by_cases hbefore : currentPts < next
      · cases code <;> simp [checkFrames, nextCode, hbefore]
      · cases code <;>
          simp [checkFrames, nextCode, hbefore, ih, not_lt.mp hbefore]

theorem lastCall_append (calls : List (ℤ × StateCode)) (now : ℤ)
    (code : StateCode) :
    lastCall (calls ++ [(now, code)]) time =
      if now ≤ time then some code else lastCall calls time := by
  unfold lastCall
  by_cases hlate : now ≤ time <;> simp [List.filter_append, hlate]

end Queue

/-- The queue ends with a resumption, and its other times are those of calls. -/
def Scheduled (calls queue : List (ℤ × StateCode)) : Prop :=
  queue = [] ∨ ∃ front time, queue = front ++ [(time, .resume)] ∧
    (time ∈ calls.map (·.1) ∨ time = int64Max) ∧
    ∀ entry ∈ front, entry.1 ∈ calls.map (·.1)

structure Follows (recording : Recording) : Prop where
  decides : ∀ time, recording.adapter.lastBufferTime ≤ time →
    time < int64Max →
      (nextCode time recording.adapter.pauseResumeQueue = some .resume ↔
        lastCall recording.calls time = some .pause)
  scheduled : Scheduled recording.calls recording.adapter.pauseResumeQueue

theorem Scheduled.dropWhile {calls queue : List (ℤ × StateCode)}
    (hscheduled : Scheduled calls queue) (first : ℤ) :
    Scheduled calls (queue.dropWhile (·.1 ≤ first)) := by
  rcases hscheduled with rfl | ⟨front, time, rfl, htime, hfront⟩
  · exact .inl rfl
  · rw [List.dropWhile_append]
    split_ifs with hempty
    · by_cases hpast : time ≤ first
      · exact .inl (by simp [hpast])
      · exact .inr ⟨[], time, by simp [hpast], htime, by simp⟩
    · exact .inr ⟨_, time, rfl, htime, fun entry hentry =>
        hfront entry ((List.dropWhile_sublist _).mem hentry)⟩

section Calls

variable {recording : Recording} {now : ℤ} (hfollows : Follows recording)
  (hclock : ∀ call ∈ recording.calls, call.1 ≤ now) (hnow : now < int64Max)

include hclock in
theorem le_of_called {queue : List (ℤ × StateCode)}
    (hqueue : ∀ entry ∈ queue, entry.1 ∈ recording.calls.map (·.1)) :
    ∀ entry ∈ queue, entry.1 ≤ now := by
  intro entry hentry
  obtain ⟨call, hcall, hsame⟩ := List.mem_map.mp (hqueue entry hentry)
  exact hsame ▸ hclock call hcall

include hfollows

theorem Follows.paused
    (hqueue : ∀ entry ∈ recording.adapter.pauseResumeQueue,
      entry.1 ∈ recording.calls.map (·.1) ∧ entry.1 ≤ now) :
    Follows { recording with
      adapter := { recording.adapter with
        pauseResumeQueue := recording.adapter.pauseResumeQueue ++
          [(now, .pause), (int64Max, .resume)] }
      calls := recording.calls ++ [(now, .pause)] } := by
  refine ⟨?_, .inr ⟨recording.adapter.pauseResumeQueue ++ [(now, .pause)],
    int64Max, by simp, .inr rfl, ?_⟩⟩
  · intro time hlast hmax
    have hbefore := hfollows.decides time hlast hmax
    rw [lastCall_append, nextCode_append]
    by_cases hlate : now ≤ time
    · rw [nextCode_eq_none fun entry hentry => (hqueue entry hentry).2.trans hlate]
      simp [nextCode, hlate, hmax]
    · rw [if_neg hlate, ← hbefore]
      cases nextCode time recording.adapter.pauseResumeQueue <;>
        simp [nextCode, not_le.mp hlate]
  · intro entry hentry
    rw [List.map_append, List.mem_append]
    rcases List.mem_append.mp hentry with hentry | hentry
    · exact .inl (hqueue entry hentry).1
    · rw [List.mem_singleton.mp hentry]
      exact .inr (by simp)

include hclock hnow

theorem Follows.pause :
    Follows (recording.called now .pause (recording.adapter.pause now)) := by
  unfold called SurfaceEncoderAdapter.pause
  split_ifs with hmode
  · exact hfollows
  rcases hfollows.scheduled with hnil | ⟨front, time, hqueue, htime, hfront⟩
  · rw [show recording.adapter.pauseResumeQueue.getLast? = none by rw [hnil]; rfl]
    exact hfollows.paused (by simp [hnil])
  have hle := le_of_called hclock hfront
  rw [show recording.adapter.pauseResumeQueue.getLast? = some (time, .resume) by
    rw [hqueue, List.getLast?_concat]]
  simp only [true_and]
  split_ifs with hresumed
  · refine hfollows.paused fun entry hentry => ?_
    rw [hqueue] at hentry
    rcases List.mem_append.mp hentry with hentry | hentry
    · exact ⟨hfront entry hentry, hle entry hentry⟩
    · rw [List.mem_singleton.mp hentry]
      exact ⟨htime.resolve_right (by omega), hresumed⟩
  · -- the pause is still open
    have hopen : time = int64Max := by
      refine htime.resolve_left fun hcalled => hresumed ?_
      obtain ⟨call, hcall, rfl⟩ := List.mem_map.mp hcalled
      exact hclock call hcall
    refine ⟨?_, .inr ⟨front, time, hqueue, .inr hopen, ?_⟩⟩
    · intro at' hlast hmax
      rw [lastCall_append, hfollows.decides at' hlast hmax]
      split_ifs with hlate
      · rw [← hfollows.decides at' hlast hmax, hqueue, nextCode_append,
          nextCode_eq_none fun entry hentry => (hle entry hentry).trans hlate]
        simp [nextCode, hopen, hmax]
      · rfl
    · intro entry hentry
      rw [List.map_append]
      exact List.mem_append_left _ (hfront entry hentry)

theorem Follows.resume :
    Follows (recording.called now .resume (recording.adapter.resume now).2) := by
  unfold called SurfaceEncoderAdapter.resume
  split_ifs with hmode
  · exact hfollows
  rcases hfollows.scheduled with hnil | ⟨front, time, hqueue, htime, hfront⟩
  · rw [show recording.adapter.pauseResumeQueue.getLast? = none by rw [hnil]; rfl]
    refine ⟨?_, .inl hnil⟩
    intro time hlast hmax
    rw [lastCall_append, hfollows.decides time hlast hmax]
    split_ifs with hlate
    · simp [← hfollows.decides time hlast hmax, hnil, nextCode]
    · rfl
  have hle := le_of_called hclock hfront
  simp only [hqueue, List.getLast?_concat, if_true, List.dropLast_concat]
  refine ⟨?_, .inr ⟨front, min now time, rfl, ?_, ?_⟩⟩
  · intro at' hlast hmax
    have hbefore := hfollows.decides at' hlast hmax
    rw [hqueue, nextCode_append] at hbefore
    rw [lastCall_append, nextCode_append]
    by_cases hlate : now ≤ at'
    · rw [nextCode_eq_none fun entry hentry => (hle entry hentry).trans hlate]
      simp [nextCode, hlate]
    · have hiff : at' < min now time ↔ at' < time := by omega
      simpa only [nextCode, hiff, if_neg hlate] using hbefore
  · rw [List.map_append, List.mem_append]
    rcases min_choice now time with hmin | hmin
    · exact .inl (.inr (by simp [hmin]))
    · rw [hmin]
      exact .inl (.inl (htime.resolve_right (by omega)))
  · intro entry hentry
    rw [List.map_append]
    exact List.mem_append_left _ (hfront entry hentry)

end Calls

section Steps

variable {recording : Recording} (hfollows : Follows recording)
  {event : EncoderEvent} (hclocked : recording.Clocked event)

include hfollows hclocked

theorem Follows.afterStep : Follows (recording.step event).2 := by
  cases event with
  | setTransCoderMode => exact ⟨hfollows.decides, hfollows.scheduled⟩
  | pause time => exact hfollows.pause hclocked.1 hclocked.2
  | resume time => exact hfollows.resume hclocked.1 hclocked.2
  | frame currentPts =>
      have hscheduled := hfollows.scheduled.dropWhile currentPts
      have hdecides : ∀ time, currentPts ≤ time → time < int64Max →
          (nextCode time (recording.adapter.pauseResumeQueue.dropWhile
            (·.1 ≤ currentPts)) = some .resume ↔
            lastCall recording.calls time = some .pause) := by
        intro time hle hmax
        rw [nextCode_dropWhile hle]
        exact hfollows.decides time (hclocked.1.trans hle) hmax
      simp only [step, onInputParameter]
      split_ifs
      · exact ⟨hfollows.decides, hfollows.scheduled⟩
      all_goals
        constructor <;> simp only [(checkFrames_spec _ _ _).2] <;> assumption
  | output isCodecData pts requested =>
      simp only [step, onOutputBufferAvailable]
      split_ifs
      · exact ⟨hfollows.decides, hfollows.scheduled⟩
      · split <;> exact ⟨hfollows.decides, hfollows.scheduled⟩
  | reset =>
      exact ⟨by simp [step, SurfaceEncoderAdapter.reset, nextCode, lastCall],
        .inl rfl⟩

theorem Follows.discardsPaused : recording.DiscardsPaused event := by
  cases event with
  | frame currentPts =>
      have hdecides := hfollows.decides currentPts hclocked.1 hclocked.2
      rw [← (checkFrames_spec recording.adapter.lastBufferTime _ 0).1]
        at hdecides
      simp only [DiscardsPaused, step, onInputParameter]
      split_ifs with hmode hdropped
      · simp [hmode]
      · simp [hmode, hdecides.mp hdropped]
      · simp [mt hdecides.mpr hdropped]
      · simp [mt hdecides.mpr hdropped]
  | _ => trivial

end Steps

/-- While no clock goes back, a frame is discarded exactly when the last call
until its time was one of `Pause`, whenever the calls were made. -/
theorem discardsPaused_of_clocked (events : List EncoderEvent)
    (hclocked : Meets step Clocked {} events) :
    Meets step DiscardsPaused {} events :=
  Meets.guarantee (fun _ _ hfollows => hfollows.discardsPaused)
    (fun _ _ hfollows => hfollows.afterStep)
    (⟨fun _ _ _ => by simp [nextCode, lastCall], .inl rfl⟩ : Follows {})
    hclocked

theorem discardsPaused_until_resume :
    Meets step DiscardsPaused {}
      [.frame 0, .pause 5, .frame 10, .resume 20, .pause 30, .frame 25] :=
  discardsPaused_of_clocked _ (by
    simp [Meets, Clocked, step, called, SurfaceEncoderAdapter.pause,
      SurfaceEncoderAdapter.resume, onInputParameter, checkFrames, int64Max])

/-! ## Times of the frames -/

/-- The frames go forward in time, and while frames are queued the encoder gives
back one of them. -/
def Fed (recording : Recording) : EncoderEvent → Prop
  | .frame currentPts => recording.adapter.lastBufferTime < currentPts
  | .output isCodecData pts _ => isCodecData = true ∨
      recording.adapter.mappingTimeQueue = [] ∨
      pts ∈ recording.adapter.mappingTimeQueue.map (·.1)
  | _ => True

/-- What is emitted or still queued has its place among the frames that were
kept, and the time of a frame without the pauses grows with every kept frame. -/
structure Emits (recording : Recording) : Prop where
  sublist : (recording.emitted ++ recording.adapter.mappingTimeQueue).Sublist
    recording.mapped
  increasing : recording.mapped.Pairwise fun first second =>
    first.1 < second.1 ∧ first.2 < second.2
  last : ∀ entry ∈ recording.mapped,
    entry.1 ≤ recording.adapter.lastBufferTime ∧
      entry.2 ≤ recording.adapter.lastBufferTime - recording.adapter.totalPauseTime

theorem mappingTime_of_mem {queue : List (ℤ × ℤ)} {pts : ℤ}
    (hmem : pts ∈ queue.map (·.1)) :
    ∃ front rest, queue.dropWhile (·.1 ≠ pts) = front :: rest ∧
      mappingTime queue pts = some (front.2, rest) := by
  obtain ⟨entry, hentry, rfl⟩ := List.mem_map.mp hmem
  cases hdrop : queue.dropWhile (·.1 ≠ entry.1) with
  | nil => simpa using List.dropWhile_eq_nil_iff.mp hdrop entry hentry
  | cons front rest =>
      refine ⟨front, rest, rfl, ?_⟩
      rw [mappingTime, if_neg (List.ne_nil_of_mem hentry), hdrop]

theorem pushBuffer_ne_undefined (adapter : SurfaceEncoderAdapter) (time : ℤ)
    (requested : Bool) : adapter.pushBuffer time requested ≠ .undefined := by
  unfold pushBuffer
  split_ifs <;> exact nofun

section Emitting

variable {recording : Recording} (hemits : Emits recording)

include hemits

theorem Emits.frame {currentPts : ℤ}
    (hlater : recording.adapter.lastBufferTime < currentPts) :
    Emits (recording.step (.frame currentPts)).2 := by
  simp only [step, onInputParameter]
  split_ifs with hmode hdropped hpause
  · simpa using hemits
  · -- a discarded frame adds its distance to the pause
    refine ⟨by simpa using hemits.sublist, by simpa using hemits.increasing, ?_⟩
    intro entry hentry
    have hlast := hemits.last entry (by simpa using hentry)
    dsimp only
    omega
  all_goals
    simp only [List.drop_left]
    refine ⟨by simpa using hemits.sublist.append_right _,
      List.pairwise_append.mpr ⟨hemits.increasing, by simp, ?_⟩, ?_⟩
    · intro entry hentry other hother
      have hlast := hemits.last entry hentry
      rw [List.mem_singleton.mp hother]
      dsimp only
      omega
    · intro entry hentry
      dsimp only
      rcases List.mem_append.mp hentry with hentry | hentry
      · have hlast := hemits.last entry hentry
        omega
      · rw [List.mem_singleton.mp hentry]
        omega

theorem Emits.afterStep {event : EncoderEvent} (hfed : recording.Fed event) :
    (recording.step event).1 ≠ .undefined ∧ Emits (recording.step event).2 := by
  cases event with
  | setTransCoderMode =>
      exact ⟨nofun, hemits.sublist, hemits.increasing, hemits.last⟩
  | pause time =>
      refine ⟨nofun, ?_⟩
      simp only [step, called, SurfaceEncoderAdapter.pause]
      split_ifs
      · exact hemits
      · split
        · exact ⟨hemits.sublist, hemits.increasing, hemits.last⟩
        · split_ifs <;> exact ⟨hemits.sublist, hemits.increasing, hemits.last⟩
  | resume time =>
      simp only [step, called, SurfaceEncoderAdapter.resume]
      split_ifs
      · exact ⟨nofun, hemits⟩
      · split
        · exact ⟨nofun, hemits.sublist, hemits.increasing, hemits.last⟩
        · split_ifs <;>
            exact ⟨nofun, hemits.sublist, hemits.increasing, hemits.last⟩
  | frame currentPts =>
      refine ⟨?_, hemits.frame hfed⟩
      simp only [step, onInputParameter]
      split_ifs <;> exact nofun
  | output isCodecData pts requested =>
      cases isCodecData with
      | true =>
          exact ⟨pushBuffer_ne_undefined _ _ _,
            by simpa [step, onOutputBufferAvailable] using hemits.sublist,
            hemits.increasing, hemits.last⟩
      | false =>
          rcases hfed.resolve_left nofun with hnil | hmem
          · simp only [step, onOutputBufferAvailable, Bool.false_eq_true,
              if_false, mappingTime, hnil, if_true]
            exact ⟨pushBuffer_ne_undefined _ _ _,
              by simpa [hnil] using hemits.sublist, hemits.increasing, hemits.last⟩
          obtain ⟨front, rest, hdrop, htime⟩ := mappingTime_of_mem hmem
          simp only [step, onOutputBufferAvailable, Bool.false_eq_true,
            if_false, htime, hdrop]
          refine ⟨pushBuffer_ne_undefined _ _ _, ?_, hemits.increasing,
            hemits.last⟩
          have hrest := List.dropWhile_sublist
            (l := recording.adapter.mappingTimeQueue) (·.1 ≠ pts)
          rw [hdrop] at hrest
          simpa using (hrest.append_left recording.emitted).trans hemits.sublist
  | reset => exact ⟨nofun, by simp [step, SurfaceEncoderAdapter.reset],
      by simp [step], by simp [step]⟩

end Emitting

end Recording
end Dmsfwk
