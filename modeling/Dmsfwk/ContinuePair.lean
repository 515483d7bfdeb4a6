import Dmsfwk.DSchedContinue

/-!
# The two ends of a continuation

The source and the sink of one continuation with the commands between them.
The log records what both have done, in order.  What one handler may say and
where it may lead is stated once, for all function tables.
-/

namespace Dmsfwk
namespace Continuation

/-! ## Two ends -/

abbrev Log := List (Direction × Effect)

structure Pair where
  source : DSchedContinue
  sink : DSchedContinue
  toSink : List Cmd
  toSource : List Cmd
  log : Log
  deriving DecidableEq, Repr

def absent (direction : Direction) (info : DSchedContinueInfo) :
    DSchedContinue :=
  { DSchedContinue.ofRequest direction info with queue := [], removed := true }

def Pair.initial (subServiceType : SubType) (info : DSchedContinueInfo) :
    Pair where
  source :=
    if subServiceType = .push then .ofRequest .source info
    else absent .source info
  sink :=
    if subServiceType = .pull then .ofRequest .sink info else absent .sink info
  toSink := []
  toSource := []
  log := []

def sentBy (effects : List Effect) : List Cmd :=
  effects.filterMap fun
    | .sendCommand cmd ret => if ret = errOk then some cmd else none
    | _ => none

def notifyContinueDataRecv (limit : ℤ) (missionBundle : Option Text)
    (continuation : DSchedContinue) (cmd : Cmd) : DSchedContinue :=
  if continuation.removed then
    match cmd with
    | .start info subServiceType direction appVersion =>
        if limit = errOk then
          .ofStartCmd missionBundle info subServiceType direction appVersion
        else continuation
    | _ => continuation
  else continuation.onDataRecv cmd

inductive Move where
  | source (input : DSchedContinue.Input)
  | sink (input : DSchedContinue.Input)
  | toSink (cmd : Cmd) (limit : ℤ) (missionBundle : Option Text)
  | toSource (cmd : Cmd) (limit : ℤ) (missionBundle : Option Text)
  deriving DecidableEq, Repr

namespace Pair

def updateSource (pair : Pair) (result : List Effect × DSchedContinue) :
    Pair :=
  { pair with
    source := result.2
    toSink := pair.toSink ++ sentBy result.1
    log := pair.log ++ result.1.map (.source, ·) }

def updateSink (pair : Pair) (result : List Effect × DSchedContinue) : Pair :=
  { pair with
    sink := result.2
    toSource := pair.toSource ++ sentBy result.1
    log := pair.log ++ result.1.map (.sink, ·) }

def step (pair : Pair) : Move → Log × Pair
  | .source input =>
      let result := pair.source.step input
      (result.1.map (.source, ·), pair.updateSource result)
  | .sink input =>
      let result := pair.sink.step input
      (result.1.map (.sink, ·), pair.updateSink result)
  | .toSink cmd limit missionBundle =>
      if cmd ∈ pair.toSink then
        ([], { pair with
          toSink := pair.toSink.erase cmd
          sink := notifyContinueDataRecv limit missionBundle pair.sink cmd })
      else ([], pair)
  | .toSource cmd limit missionBundle =>
      if cmd ∈ pair.toSource then
        ([], { pair with
          toSource := pair.toSource.erase cmd
          source :=
            notifyContinueDataRecv limit missionBundle pair.source cmd })
      else ([], pair)

end Pair

def DSchedContinue.ReportsSuccess (continuation : DSchedContinue) :
    DSchedContinue.Input → Prop
  | .notifyCompleteContinuation devId missionId isSuccess callerBundleName =>
      ¬continuation.removed ∧
        continuation.acceptsCompletion devId callerBundleName ∧
        DSchedContinue.completionResult missionId isSuccess = errOk
  | _ => False

instance (continuation : DSchedContinue) :
    DecidablePred continuation.ReportsSuccess := by
  intro input
  cases input <;> unfold DSchedContinue.ReportsSuccess <;> infer_instance

/-! ## One handler -/

def StateType.direction : StateType → Direction
  | .sourceStart | .ability | .sourceWaitEnd | .sourceEnd => .source
  | .sinkStart | .data | .sinkWaitEnd | .sinkEnd => .sink

structure DSchedContinue.Sided (direction : Direction)
    (continuation : DSchedContinue) : Prop where
  own : continuation.direction = direction
  inState : continuation.state.direction = direction

def Event.IsSuccess (event : Event) : Prop :=
  event = .complete errOk ∨ event = .ended errOk

def Event.IsRequest (event : Event) : Prop :=
  event = .reqPull ∨ event = .reqPush

def Cmd.IsSuccess : Cmd → Prop
  | .reply .ended _ result => result = errOk
  | .ended result => result = errOk
  | _ => False

/-- An event which passes a success on; the end state of the sink takes no
completion any more. -/
def DSchedContinue.PassesSuccess (continuation : DSchedContinue)
    (event : Event) : Prop :=
  event = .ended errOk ∨
    (event = .complete errOk ∧ continuation.state ≠ .sinkEnd)

/-- What a handler may say: a success only when the event has passed it on, and
on the sink a completion only in the state which waits for it. -/
structure Spoken (direction : Direction) (continuation : DSchedContinue)
    (event : Event) (effects : List Effect) : Prop where
  sent : ∀ cmd, .sendCommand cmd errOk ∈ effects → cmd.IsSuccess →
    continuation.PassesSuccess event ∧
      (direction = .sink → event = .ended errOk ∨
        (continuation.state = .sinkWaitEnd ∧ cmd = .ended errOk))
  start : ∀ info subServiceType own appVersion ret,
    .sendCommand (.start info subServiceType own appVersion) ret ∈ effects →
      own = direction
  ends : .executeContinueEnd errOk ∈ effects →
    continuation.PassesSuccess event
  cleans : ∀ missionId, .cleanMission missionId ∈ effects →
    .executeContinueEnd errOk ∈ effects ∧ direction = .source
  reports : .notifyContinuationCallbackResult errOk ∈ effects →
    .executeContinueEnd errOk ∈ effects

/-- Where a handler may lead: end events with `ERR_OK` are posted under the
same conditions, and the sink waits for the completion only after the start of
its ability. -/
structure Moved (direction : Direction) (continuation : DSchedContinue)
    (event : Event) (effects : List Effect) (next : DSchedContinue) :
    Prop where
  sided : next.Sided direction
  posted : ∀ other ∈ next.queue, other ∈ continuation.queue ∨
    ∃ result, other = .ended result ∧ (result = errOk →
      continuation.PassesSuccess event ∧
        (direction = .sink → event = .ended errOk))
  waits : next.state = .sinkWaitEnd →
    continuation.state = .sinkWaitEnd ∨
      (event = .data ∧ .startAbility errOk ∈ effects)
  stays : continuation.state = .sinkEnd → next.state = .sinkEnd

def Effect.Plain (direction : Direction) : Effect → Prop
  | .sendCommand (.start _ _ own _) _ => own = direction
  | .sendCommand cmd _ => ¬cmd.IsSuccess
  | .executeContinueEnd _ => False
  | .cleanMission _ => False
  | .notifyContinuationCallbackResult _ => False
  | _ => True

section Handlers

variable {direction : Direction} {continuation next : DSchedContinue}
  {event : Event} {effects : List Effect} {answers : Answers}

theorem DSchedContinue.mem_post {other : Event} :
    other ∈ (continuation.post event).queue ↔
      other ∈ continuation.queue ∨ other = event := by
  rw [← List.mem_singleton]
  exact List.mem_append

theorem DSchedContinue.Sided.post
    (hsided : continuation.Sided direction) (event : Event) :
    (continuation.post event).Sided direction :=
  ⟨hsided.own, hsided.inState⟩

theorem DSchedContinue.Sided.dequeue
    (hsided : continuation.Sided direction) (rest : List Event) :
    DSchedContinue.Sided direction { continuation with queue := rest } :=
  ⟨hsided.own, hsided.inState⟩

theorem spoken_plain
    (hplain : ∀ effect ∈ effects, effect.Plain direction) :
    Spoken direction continuation event effects where
  sent := by
    intro cmd hmem hsuccess
    have hcmd := hplain _ hmem
    cases cmd with
    | start => exact hsuccess.elim
    | data => exact hsuccess.elim
    | reply => exact absurd hsuccess hcmd
    | ended => exact absurd hsuccess hcmd
  start := fun _ _ _ _ _ hmem => hplain _ hmem
  ends := fun hmem => (hplain _ hmem).elim
  cleans := fun _ hmem => (hplain _ hmem).elim
  reports := fun hmem => (hplain _ hmem).elim

theorem moved_refl (hsided : continuation.Sided direction) :
    Moved direction continuation event effects continuation where
  sided := hsided
  posted := fun _ hmem => .inl hmem
  waits := .inl
  stays := id

theorem moved_of_eq (hsided : continuation.Sided direction)
    (hdirection : next.direction = continuation.direction)
    (hstate : next.state = continuation.state)
    (hqueue : next.queue = continuation.queue) :
    Moved direction continuation event effects next where
  sided := ⟨hdirection ▸ hsided.own, hstate ▸ hsided.inState⟩
  posted := fun _ hmem => .inl (hqueue ▸ hmem)
  waits := fun hwait => .inl (hstate ▸ hwait)
  stays := fun hend => hstate.trans hend

theorem Moved.updateState {state : StateType}
    (hmoved : Moved direction continuation event effects next)
    (hdirection : state.direction = direction)
    (hwaits : state = .sinkWaitEnd →
      event = .data ∧ .startAbility errOk ∈ effects)
    (hstays : continuation.state = .sinkEnd → state = .sinkEnd) :
    Moved direction continuation event effects (next.updateState state) where
  sided := ⟨hmoved.sided.own, hdirection⟩
  posted := hmoved.posted
  waits := fun hwait => .inr (hwaits hwait)
  stays := hstays

variable {result : ℤ}

theorem Moved.onContinueEnd
    (hmoved : Moved direction continuation event effects next)
    (hresult : result = errOk → continuation.PassesSuccess event ∧
      (direction = .sink → event = .ended errOk)) :
    Moved direction continuation event effects
      (next.onContinueEnd result) where
  sided := ⟨hmoved.sided.own, hmoved.sided.inState⟩
  posted := by
    intro other hother
    rcases DSchedContinue.mem_post.mp hother with hold | hnew
    · exact hmoved.posted other hold
    · exact .inr ⟨result, hnew, hresult⟩
  waits := hmoved.waits
  stays := hmoved.stays

theorem packStartCmd_eq {cmd : Cmd}
    (hcmd : continuation.packStartCmd answers = .ok cmd) :
    ∃ appVersion, cmd = .start continuation.continueInfo
      continuation.subServiceType continuation.direction appVersion := by
  unfold DSchedContinue.packStartCmd at hcmd
  split_ifs at hcmd
  · cases hcmd
    exact ⟨_, rfl⟩
  · cases hcmd
    exact ⟨_, rfl⟩

def Handled (direction : Direction) (continuation : DSchedContinue)
    (event : Event) (effects : List Effect) (next : DSchedContinue) : Prop :=
  Spoken direction continuation event effects ∧
    Moved direction continuation event effects next

theorem handled_executeContinueReq
    (hsided : continuation.Sided direction)
    (hstate : continuation.state ≠ .sinkEnd) :
    Handled direction continuation event
      (continuation.executeContinueReq answers).2.1
      (continuation.executeContinueReq answers).2.2 := by
  have hquick : ∀ effect ∈
      continuation.quickStart ++
        [Effect.connectDevice answers.connectDevice],
      effect.Plain direction := by
    intro effect heffect
    unfold DSchedContinue.quickStart at heffect
    split_ifs at heffect
    · simp only [List.cons_append, List.nil_append, List.mem_cons,
        List.not_mem_nil, or_false] at heffect
      rcases heffect with rfl | rfl <;> trivial
    · simp only [List.nil_append, List.mem_singleton] at heffect
      exact heffect ▸ trivial
  unfold DSchedContinue.executeContinueReq
  cases hpack : continuation.packStartCmd answers with
  | error ret =>
      split_ifs <;> exact ⟨spoken_plain hquick, moved_refl hsided⟩
  | ok cmd =>
      obtain ⟨appVersion, rfl⟩ := packStartCmd_eq hpack
      have hplain : ∀ effect ∈
          (continuation.quickStart ++
            [Effect.connectDevice answers.connectDevice]) ++
          [Effect.sendCommand (.start continuation.continueInfo
            continuation.subServiceType continuation.direction appVersion)
            answers.sendCommand], effect.Plain direction := by
        intro effect heffect
        rcases List.mem_append.mp heffect with hold | hnew
        · exact hquick effect hold
        · rw [List.mem_singleton.mp hnew]
          exact hsided.own
      split_ifs with hconnect hsend hsink
      · exact ⟨spoken_plain hquick, moved_refl hsided⟩
      · exact ⟨spoken_plain hplain, moved_refl hsided⟩
      · exact ⟨spoken_plain hplain, (moved_refl hsided).updateState
          (hsided.own ▸ hsink.symm) (by simp) (fun hend => absurd hend hstate)⟩
      · exact ⟨spoken_plain hplain, moved_refl hsided⟩

theorem handled_executeContinueAbility {appVersion : ℤ}
    (hsided : continuation.Sided .source) :
    Handled .source continuation event
      (continuation.executeContinueAbility answers appVersion).2.1
      (continuation.executeContinueAbility answers appVersion).2.2 := by
  have hmoved : ∀ effects, Moved .source continuation event effects
      (continuation.getMissionIdByBundleName answers).2 := by
    intro effects
    unfold DSchedContinue.getMissionIdByBundleName
    split_ifs
    · exact moved_of_eq hsided rfl rfl rfl
    · exact moved_refl hsided
  have hstate : continuation.state ≠ .sinkEnd := by
    intro hend
    simpa [hend, StateType.direction] using hsided.inState
  unfold DSchedContinue.executeContinueAbility
  split
  next result next hnext =>
    have hnext : (continuation.getMissionIdByBundleName answers).2 = next := by
      rw [hnext]
    rw [hnext] at hmoved
    split_ifs
    · exact ⟨spoken_plain (by simp), hmoved _⟩
    · exact ⟨spoken_plain (by simp), hmoved _⟩
    · exact ⟨spoken_plain (by simp [Effect.Plain]), hmoved _⟩
    · exact ⟨spoken_plain (by simp [Effect.Plain]), (hmoved _).updateState rfl
        (by simp) (fun hend => absurd hend hstate)⟩

theorem handled_executeContinueReply (hsided : continuation.Sided .sink)
    (hstate : continuation.state ≠ .sinkEnd) :
    Handled .sink continuation event
      (continuation.executeContinueReply answers).2.1
      (continuation.executeContinueReply answers).2.2 := by
  unfold DSchedContinue.executeContinueReply
  split_ifs
  · exact ⟨spoken_plain (by simp), moved_refl hsided⟩
  · exact ⟨spoken_plain (by simp [Effect.Plain, Cmd.IsSuccess]),
      moved_refl hsided⟩
  · exact ⟨spoken_plain (by simp [Effect.Plain, Cmd.IsSuccess]),
      (moved_refl hsided).updateState rfl (by simp)
        (fun hend => absurd hend hstate)⟩

theorem handled_executeContinueSend {want : SavedWant}
    (hsided : continuation.Sided .source) :
    Handled .source continuation event
      (continuation.executeContinueSend answers want).2.1
      (continuation.executeContinueSend answers want).2.2 := by
  have hmoved : ∀ effects, Moved .source continuation event effects
      (continuation.setCleanMissionFlag want) :=
    fun _ => moved_of_eq hsided rfl rfl rfl
  have hstate : continuation.state ≠ .sinkEnd := by
    intro hend
    simpa [hend, StateType.direction] using hsided.inState
  unfold DSchedContinue.executeContinueSend
  split_ifs
  · exact ⟨spoken_plain (by simp), hmoved _⟩
  · exact ⟨spoken_plain (by simp), hmoved _⟩
  · exact ⟨spoken_plain (by simp), hmoved _⟩
  · exact ⟨spoken_plain (by simp), hmoved _⟩
  · exact ⟨spoken_plain (by simp), hmoved _⟩
  · exact ⟨spoken_plain (by simp [Effect.Plain, Cmd.IsSuccess]), hmoved _⟩
  · exact ⟨spoken_plain (by simp [Effect.Plain, Cmd.IsSuccess]),
      (hmoved _).updateState rfl (by simp) (fun hend => absurd hend hstate)⟩

theorem startAbility_plain :
    ∀ effect ∈ (DSchedContinue.startAbility answers).2,
      effect.Plain direction := by
  unfold DSchedContinue.startAbility
  split_ifs
  · simp
  · simp [Effect.Plain]

theorem startAbility_ok
    (hret : (DSchedContinue.startAbility answers).1 = errOk) :
    .startAbility errOk ∈ (DSchedContinue.startAbility answers).2 := by
  unfold DSchedContinue.startAbility at hret ⊢
  split_ifs at hret ⊢ with hconnect
  · exact absurd hret hconnect
  · simp only [List.mem_singleton, Effect.startAbility.injEq]
    exact hret.symm

theorem handled_executeContinueData (hsided : continuation.Sided .sink)
    (hstate : continuation.state ≠ .sinkEnd) :
    Handled .sink continuation .data
      (continuation.executeContinueData answers).2.1
      (continuation.executeContinueData answers).2.2 := by
  unfold DSchedContinue.executeContinueData
  dsimp only
  split_ifs with hdevice hpermission hwindow hret
  · exact ⟨spoken_plain (by simp), moved_refl hsided⟩
  · exact ⟨spoken_plain (by simp), moved_refl hsided⟩
  · exact ⟨spoken_plain (by simp), (moved_refl hsided).onContinueEnd
      (fun hzero => absurd hzero (by decide))⟩
  · exact ⟨spoken_plain startAbility_plain, (moved_refl hsided).updateState rfl
      (fun _ => ⟨rfl, startAbility_ok hret⟩) (fun hend => absurd hend hstate)⟩
  · exact ⟨spoken_plain startAbility_plain, moved_refl hsided⟩

theorem spoken_sendCommand {cmd : Cmd} {ret : ℤ}
    (hcmd : cmd.IsSuccess → continuation.PassesSuccess event ∧
      (direction = .sink → event = .ended errOk ∨
        (continuation.state = .sinkWaitEnd ∧ cmd = .ended errOk)))
    (hstart : ∀ info subServiceType own appVersion,
      cmd ≠ .start info subServiceType own appVersion) :
    Spoken direction continuation event [.sendCommand cmd ret] where
  sent := by
    intro other hmem hsuccess
    simp only [List.mem_singleton, Effect.sendCommand.injEq] at hmem
    obtain ⟨rfl, -⟩ := hmem
    exact hcmd hsuccess
  start := by
    intro info subServiceType own appVersion ret' hmem
    simp only [List.mem_singleton, Effect.sendCommand.injEq] at hmem
    exact absurd hmem.1.symm (hstart _ _ _ _)
  ends := by simp
  cleans := by simp
  reports := by simp

theorem handled_executeNotifyComplete_source (hsided : continuation.Sided .source) :
    Handled .source continuation (.complete result)
      (continuation.executeNotifyComplete answers result).2.1
      (continuation.executeNotifyComplete answers result).2.2 := by
  have hstate : continuation.state ≠ .sinkEnd := by
    intro hend
    simpa [hend, StateType.direction] using hsided.inState
  have hpasses : result = errOk →
      continuation.PassesSuccess (.complete result) ∧
        (Direction.source = .sink → Event.complete result = .ended errOk) :=
    fun hzero => ⟨.inr ⟨hzero ▸ rfl, hstate⟩, by simp⟩
  have hspoken : Spoken .source continuation (.complete result)
      [.sendCommand (.reply .ended 0 result) answers.sendCommand] :=
    spoken_sendCommand (fun hzero => ⟨(hpasses hzero).1, by simp⟩) (by simp)
  unfold DSchedContinue.executeNotifyComplete
  simp only [hsided.own, reduceCtorEq, if_false]
  split_ifs
  · exact ⟨hspoken, moved_refl hsided⟩
  · exact ⟨hspoken, ((moved_refl hsided).updateState rfl (by simp)
      (fun hend => absurd hend hstate)).onContinueEnd hpasses⟩

theorem handled_executeNotifyComplete_sink (hsided : continuation.Sided .sink)
    (hwait : continuation.state = .sinkWaitEnd) :
    Handled .sink continuation (.complete result)
      (continuation.executeNotifyComplete answers result).2.1
      (continuation.executeNotifyComplete answers result).2.2 := by
  have hspoken : Spoken .sink continuation (.complete result)
      [.sendCommand (.ended result) answers.sendCommand] := by
    refine spoken_sendCommand (fun hzero => ?_) (by simp)
    obtain rfl : result = errOk := hzero
    exact ⟨.inr ⟨rfl, by simp [hwait]⟩, fun _ => .inr ⟨hwait, rfl⟩⟩
  unfold DSchedContinue.executeNotifyComplete
  simp only [hsided.own, if_true]
  split_ifs
  · exact ⟨hspoken, moved_refl hsided⟩
  · exact ⟨hspoken, (moved_refl hsided).updateState rfl (by simp) (by simp)⟩

theorem handled_executeContinueError (hsided : continuation.Sided direction) :
    Handled direction continuation (.ended result)
      (continuation.executeContinueError answers result).2.1
      (continuation.executeContinueError answers result).2.2 := by
  have hpasses : result = errOk →
      continuation.PassesSuccess (.ended result) ∧
        (direction = .sink → Event.ended result = .ended errOk) :=
    fun hzero => ⟨.inl (hzero ▸ rfl), fun _ => hzero ▸ rfl⟩
  unfold DSchedContinue.executeContinueError
  refine ⟨spoken_sendCommand (fun hzero => ⟨(hpasses hzero).1,
    fun hsink => .inl ((hpasses hzero).2 hsink)⟩) (by simp),
    ((moved_refl hsided).updateState ?_ ?_ ?_).onContinueEnd hpasses⟩
  · rw [hsided.own]
    cases direction <;> rfl
  · intro hwait
    split_ifs at hwait
  · intro hend
    have hsink := hsided.inState
    rw [hend] at hsink
    rw [hsided.own, ← hsink]
    rfl

theorem mem_executeContinueEnd {effect : Effect}
    (hmem : effect ∈ (continuation.executeContinueEnd answers result).2.1) :
    effect = .executeContinueEnd result ∨
      (effect = .disconnectDevice ∧ continuation.isInitiator) ∨
      (effect = .cleanMission continuation.continueInfo.missionId ∧
        result = errOk ∧ continuation.direction = .source) ∨
      effect = .notifyContinuationCallbackResult result := by
  unfold DSchedContinue.executeContinueEnd
    DSchedContinue.notifyContinuationCallbackResult at hmem
  simp only [List.mem_cons, List.mem_append] at hmem
  rcases hmem with hend | (hdisconnect | hclean) | hnotify
  · exact .inl hend
  · split_ifs at hdisconnect with hinitiator
    · exact .inr (.inl ⟨List.mem_singleton.mp hdisconnect, hinitiator⟩)
    · exact absurd hdisconnect List.not_mem_nil
  · split_ifs at hclean with hsource
    · exact .inr (.inr (.inl
        ⟨List.mem_singleton.mp hclean, hsource.1, hsource.2.1⟩))
    · exact absurd hclean List.not_mem_nil
  · split_ifs at hnotify
    · exact .inr (.inr (.inr (List.mem_singleton.mp hnotify)))
    · exact absurd hnotify List.not_mem_nil

theorem executeContinueEnd_eq (answers : Answers) (result : ℤ)
    (continuation : DSchedContinue) :
    ∃ callback, (continuation.executeContinueEnd answers result).2.2 =
      { continuation with callback := callback, ended := true } := by
  unfold DSchedContinue.executeContinueEnd
    DSchedContinue.notifyContinuationCallbackResult
  dsimp only
  split_ifs
  · exact ⟨false, rfl⟩
  · exact ⟨continuation.callback, rfl⟩

theorem handled_executeContinueEnd (hsided : continuation.Sided direction)
    (hpasses : result = errOk → continuation.PassesSuccess event) :
    Handled direction continuation event
      (continuation.executeContinueEnd answers result).2.1
      (continuation.executeContinueEnd answers result).2.2 := by
  have hend : .executeContinueEnd result ∈
      (continuation.executeContinueEnd answers result).2.1 :=
    List.mem_cons_self
  obtain ⟨callback, hnext⟩ := executeContinueEnd_eq answers result continuation
  constructor
  · constructor
    · intro cmd hmem
      simpa using mem_executeContinueEnd hmem
    · intro info subServiceType own appVersion ret hmem
      simpa using mem_executeContinueEnd hmem
    · intro hmem
      have hcases := mem_executeContinueEnd hmem
      simp only [reduceCtorEq, false_and, or_false,
        Effect.executeContinueEnd.injEq] at hcases
      exact hpasses hcases.symm
    · intro missionId hmem
      have hcases := mem_executeContinueEnd hmem
      simp only [reduceCtorEq, false_and, or_false, false_or,
        Effect.cleanMission.injEq] at hcases
      obtain ⟨-, rfl, hsource⟩ := hcases
      exact ⟨hend, hsided.own ▸ hsource⟩
    · intro hmem
      have hcases := mem_executeContinueEnd hmem
      simp only [reduceCtorEq, false_and, false_or,
        Effect.notifyContinuationCallbackResult.injEq] at hcases
      exact hcases ▸ hend
  · rw [hnext]
    exact moved_of_eq hsided rfl rfl rfl

theorem handled_execute (hsided : continuation.Sided direction)
    (answers : Answers) (event : Event) :
    Handled direction continuation event
      (continuation.execute answers event).2.1
      (continuation.execute answers event).2.2 := by
  -- the states of a table belong to one direction
  have hside : ∀ state, continuation.state = state →
      direction = state.direction := by
    rintro state rfl
    exact hsided.inState.symm
  have hended : ∀ result, result = errOk →
      continuation.PassesSuccess (.ended result) :=
    fun _ hzero => .inl (hzero ▸ rfl)
  have hcomplete : ∀ result, continuation.state ≠ .sinkEnd →
      result = errOk → continuation.PassesSuccess (.complete result) :=
    fun _ hstate hzero => .inr ⟨hzero ▸ rfl, hstate⟩
  unfold DSchedContinue.execute
  split
  · next hstate =>
      exact handled_executeContinueReq hsided (by simp [hstate])
  · next hstate =>
      obtain rfl := hside _ hstate
      exact handled_executeContinueAbility hsided
  · next hstate =>
      exact handled_executeContinueEnd hsided (hcomplete _ (by simp [hstate]))
  · exact handled_executeContinueError hsided
  · next hstate =>
      obtain rfl := hside _ hstate
      exact handled_executeContinueSend hsided
  · next hstate =>
      exact handled_executeContinueEnd hsided (hcomplete _ (by simp [hstate]))
  · exact handled_executeContinueError hsided
  · next hstate =>
      obtain rfl := hside _ hstate
      exact handled_executeNotifyComplete_source hsided
  · exact handled_executeContinueError hsided
  · exact handled_executeContinueEnd hsided (hended _)
  · next hstate =>
      exact handled_executeContinueReq hsided (by simp [hstate])
  · next hstate =>
      obtain rfl := hside _ hstate
      exact handled_executeContinueReply hsided (by simp [hstate])
  · next hstate =>
      exact handled_executeContinueEnd hsided (hcomplete _ (by simp [hstate]))
  · exact handled_executeContinueError hsided
  · next hstate =>
      obtain rfl := hside _ hstate
      exact handled_executeContinueData hsided (by simp [hstate])
  · next hstate =>
      exact handled_executeContinueEnd hsided (hcomplete _ (by simp [hstate]))
  · exact handled_executeContinueError hsided
  · next hstate =>
      obtain rfl := hside _ hstate
      exact handled_executeNotifyComplete_sink hsided hstate
  · exact handled_executeContinueError hsided
  · exact handled_executeContinueEnd hsided (hended _)
  · exact ⟨spoken_plain (fun _ hmem => absurd hmem List.not_mem_nil),
      moved_refl hsided⟩

theorem handled_processEvent (hsided : continuation.Sided direction)
    (answers : Answers) (event : Event) :
    Handled direction continuation event
      (continuation.processEvent answers event).1
      (continuation.processEvent answers event).2 := by
  have hhandled := handled_execute hsided answers event
  unfold DSchedContinue.processEvent
  split
  next ret effects next hexecute =>
    rw [hexecute] at hhandled
    split_ifs with hret
    · exact ⟨hhandled.1, hhandled.2.onContinueEnd
        (fun hzero => absurd hzero hret)⟩
    · exact hhandled

end Handlers

/-! ## Steps of one end -/

theorem step_cases (continuation : DSchedContinue)
    (input : DSchedContinue.Input) :
    (∃ removed, continuation.step input =
      ([], { continuation with removed := removed })) ∨
    (∃ event, ¬event.IsSuccess ∧ event ≠ .data ∧ ¬event.IsRequest ∧
      continuation.step input = ([], continuation.post event)) ∨
    (∃ result, (result = errOk → continuation.ReportsSuccess input) ∧
      continuation.step input = continuation.onNotifyComplete result) ∨
    (∃ answers event rest, input = .process answers ∧
      continuation.removed = false ∧ continuation.queue = event :: rest ∧
      continuation.step input =
        { continuation with queue := rest }.processEvent answers event) := by
  have hended : ∀ code, code ≠ errOk → ¬(Event.ended code).IsSuccess ∧
      Event.ended code ≠ .data ∧ ¬(Event.ended code).IsRequest :=
    fun code hcode => ⟨by simpa [Event.IsSuccess] using hcode, by simp,
      by simp [Event.IsRequest]⟩
  unfold DSchedContinue.step
  by_cases hremoved : continuation.removed = true
  · rw [if_pos hremoved]
    exact .inl ⟨continuation.removed, rfl⟩
  · rw [if_neg hremoved]
    cases input with
    | startContinuation status want =>
        refine .inr (.inl ?_)
        dsimp only [DSchedContinue.onStartContinuation]
        split_ifs with hstatus
        · obtain ⟨hsuccess, hdata, hrequest⟩ := hended status hstatus
          exact ⟨.ended status, hsuccess, hdata, hrequest, rfl⟩
        · exact ⟨.sendData want, by simp [Event.IsSuccess], by simp,
            by simp [Event.IsRequest], rfl⟩
    | notifyCompleteContinuation devId missionId isSuccess callerBundleName =>
        dsimp only
        split_ifs with haccepts
        · exact .inr (.inr (.inl ⟨_, fun hzero => ⟨hremoved, haccepts, hzero⟩,
            rfl⟩))
        · exact .inl ⟨continuation.removed, rfl⟩
    | timeout =>
        obtain ⟨hsuccess, hdata, hrequest⟩ :=
          hended continueAbilityTimeoutErr (by decide)
        exact .inr (.inl ⟨_, hsuccess, hdata, hrequest, rfl⟩)
    | shutdown =>
        obtain ⟨hsuccess, hdata, hrequest⟩ :=
          hended continueSessionShutdown (by decide)
        exact .inr (.inl ⟨_, hsuccess, hdata, hrequest, rfl⟩)
    | terminated =>
        obtain ⟨hsuccess, hdata, hrequest⟩ :=
          hended continueSinkAbilityTerminated (by decide)
        exact .inr (.inl ⟨_, hsuccess, hdata, hrequest, rfl⟩)
    | process answers =>
        dsimp only
        split
        · exact .inl ⟨continuation.removed, rfl⟩
        · next event rest hqueue =>
            exact .inr (.inr (.inr ⟨answers, event, rest, rfl,
              Bool.eq_false_iff.mpr hremoved, hqueue, rfl⟩))
    | handleContinueEnd =>
        refine .inl ?_
        dsimp only
        split_ifs
        · exact ⟨true, rfl⟩
        · exact ⟨continuation.removed, rfl⟩

theorem onDataRecv_cases (continuation : DSchedContinue) (cmd : Cmd) :
    continuation.onDataRecv cmd = continuation ∨
    (∃ event, (event.IsSuccess → cmd.IsSuccess) ∧
      (event = .data → cmd = .data) ∧ ¬event.IsRequest ∧
      continuation.onDataRecv cmd = continuation.post event) := by
  unfold DSchedContinue.onDataRecv
  by_cases hremoved : continuation.removed = true
  · rw [if_pos hremoved]
    exact .inl rfl
  · rw [if_neg hremoved]
    cases cmd with
    | start => exact .inl rfl
    | data =>
        exact .inr ⟨.data, by simp [Event.IsSuccess], by simp,
          by simp [Event.IsRequest], rfl⟩
    | reply replyCmd appVersion result =>
        cases replyCmd with
        | start =>
            exact .inr ⟨.ability appVersion, by simp [Event.IsSuccess],
              by simp, by simp [Event.IsRequest], rfl⟩
        | data => exact .inl rfl
        | reply => exact .inl rfl
        | ended =>
            exact .inr ⟨.ended result,
              by simp [Event.IsSuccess, Cmd.IsSuccess], by simp,
              by simp [Event.IsRequest], rfl⟩
    | ended result =>
        exact .inr ⟨.complete result,
          by simp [Event.IsSuccess, Cmd.IsSuccess], by simp,
          by simp [Event.IsRequest], rfl⟩

theorem notifyContinueDataRecv_cases (limit : ℤ) (missionBundle : Option Text)
    (continuation : DSchedContinue) (cmd : Cmd) :
    (∃ info subServiceType own appVersion,
      cmd = .start info subServiceType own appVersion ∧
      notifyContinueDataRecv limit missionBundle continuation cmd =
        .ofStartCmd missionBundle info subServiceType own appVersion) ∨
    notifyContinueDataRecv limit missionBundle continuation cmd =
      continuation ∨
    (∃ event, (event.IsSuccess → cmd.IsSuccess) ∧
      (event = .data → cmd = .data) ∧
      notifyContinueDataRecv limit missionBundle continuation cmd =
        continuation.post event) := by
  unfold notifyContinueDataRecv
  by_cases hremoved : continuation.removed = true
  · rw [if_pos hremoved]
    cases cmd with
    | start info subServiceType own appVersion =>
        dsimp only
        split_ifs
        · exact .inl ⟨info, subServiceType, own, appVersion, rfl, rfl⟩
        · exact .inr (.inl rfl)
    | data => exact .inr (.inl rfl)
    | reply => exact .inr (.inl rfl)
    | ended => exact .inr (.inl rfl)
  · rw [if_neg hremoved]
    rcases onDataRecv_cases continuation cmd with
      hsame | ⟨event, hsuccess, hdata, -, hpost⟩
    · exact .inr (.inl hsame)
    · exact .inr (.inr ⟨event, hsuccess, hdata, hpost⟩)

end Continuation

end Dmsfwk
