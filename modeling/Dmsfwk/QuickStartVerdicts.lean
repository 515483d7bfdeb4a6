import Dmsfwk.ContinueEndOnce
import Dmsfwk.QuickStartCallbacks

/-!
# The verdict on a quick start

The sink tells the callback of its ability whether the ability was started.  The
tasks of two states do so after their action, whatever it has answered: the data
state reports success, and both states report the result of an end as a failure.
-/

namespace Dmsfwk
namespace Continuation

open StateCallbacks

/-! ## The verdicts of a continuation -/

def quickStartSuccess : Int32 := 0
def quickStartFailed : Int32 := 1
def quickStartSuccessMessage : Text := "quickstart success.".toList
def quickStartFailedMessage : Text :=
  "quickstart failed. error code: ".toList

inductive QuickStartOutcome where
  | success
  | failed (result : ℤ)
  deriving DecidableEq, Repr

def QuickStartOutcome.state : QuickStartOutcome → Int32
  | .success => quickStartSuccess
  | .failed _ => quickStartFailed

def QuickStartOutcome.message : QuickStartOutcome → Text
  | .success => quickStartSuccessMessage
  | .failed result => quickStartFailedMessage ++ (toString result).toList

/-- A call of `NotifyQuickStartState`, with what the action of its task has done
and the state it has left. -/
structure QuickStartVerdict where
  outcome : QuickStartOutcome
  info : StateCallbackInfo
  state : Int32
  message : Text
  effects : List Effect
  reached : StateType
  deriving DecidableEq, Repr

/-- What else the environment decides: the window of the session, the answer to
the look-up for a verdict, and the abilities which are started. -/
structure QuickStartAnswers where
  persistentId : Int32 := 0
  sessionMissionId : Option Int32 := none
  quickStartAbilityName : Option Text := none
  startAbilityName : Text := []
  deriving DecidableEq, Repr

structure QuickStarting where
  recorded : Recorded
  sinkMissionId : Int32 := 0
  sinkAbilityName : Text := []
  destModuleName : Text := []
  verdicts : List QuickStartVerdict := []
  deriving DecidableEq, Repr

namespace QuickStarting

/-- The end of `ExecuteQuickStartSuccess` and `ExecuteQuickStartFailed`: nothing
is notified when the mission is not known. -/
def missionId (state : QuickStarting) (more : QuickStartAnswers) :
    Option Int32 :=
  if state.sinkMissionId ≠ 0 then some state.sinkMissionId
  else more.sessionMissionId

def notifyVerdict (state : QuickStarting) (more : QuickStartAnswers)
    (effects : List Effect) (outcome : QuickStartOutcome) : QuickStarting :=
  match state.missionId more with
  | none => state
  | some missionId =>
      let continuation := state.recorded.continuation
      let info : StateCallbackInfo :=
        ⟨missionId, continuation.continueInfo.sinkBundleName,
          state.destModuleName, state.sinkAbilityName⟩
      { state with
        verdicts := state.verdicts ++ [⟨outcome, info, outcome.state,
          outcome.message, effects, continuation.state⟩] }

def outcomeOf : StateType → Event → Option QuickStartOutcome
  | .sinkStart, .complete result => some (.failed result)
  | .sinkStart, .ended result => some (.failed result)
  | .data, .data => some .success
  | .data, .complete result => some (.failed result)
  | .data, .ended result => some (.failed result)
  | _, _ => none

def nameAbility (more : QuickStartAnswers) (name : Text) : Effect → Text
  | .quickStartAbility => more.quickStartAbilityName.getD name
  | .startAbility _ => more.startAbilityName
  | _ => name

/-- `ExecuteContinueData` has looked the window of the session up twice. -/
def findsWindow (answers : Answers) (continuation : DSchedContinue) : Bool :=
  answers.checkDeviceIdFromRemote && answers.checkStartPermission == errOk &&
    continuation.subServiceType == .pull && answers.hasContinueSessionId &&
    answers.getPersistentId == errOk && answers.getPersistentIdAgain == errOk

def sinkMissionIdAfter (state : QuickStarting) (answers : Answers)
    (more : QuickStartAnswers) (event : Event) : Int32 :=
  let continuation := state.recorded.continuation
  if continuation.state = .data ∧ event = .data ∧
      findsWindow answers continuation then more.persistentId
  else state.sinkMissionId

def process (state : QuickStarting) (answers : Answers)
    (more : QuickStartAnswers) (event : Event) (next : Recorded)
    (effects : List Effect) : QuickStarting :=
  let acted : QuickStarting :=
    { state with
      recorded := next
      sinkMissionId := state.sinkMissionIdAfter answers more event
      sinkAbilityName := effects.foldl (nameAbility more) state.sinkAbilityName }
  match outcomeOf state.recorded.continuation.state event with
  | none => acted
  | some outcome => acted.notifyVerdict more effects outcome

def step (state : QuickStarting) (stimulus : Stimulus × QuickStartAnswers) :
    List Effect × QuickStarting :=
  let next := state.recorded.step stimulus.1
  match stimulus.1, state.recorded.continuation.queue.head? with
  | .input (.process answers), some event =>
      if state.recorded.continuation.removed then
        (next.1, { state with recorded := next.2 })
      else (next.1, state.process answers stimulus.2 event next.2 next.1)
  | _, _ => (next.1, { state with recorded := next.2 })

def initial (origin : Origin) (destModuleName : Text) : QuickStarting where
  recorded := .initial origin
  destModuleName := destModuleName

end QuickStarting

/-! ## What a task does -/

def StateType.Early (state : StateType) : Prop :=
  state = .sourceStart ∨ state = .sinkStart ∨ state = .data

instance : DecidablePred StateType.Early :=
  fun _ => inferInstanceAs (Decidable (_ ∨ _))

def StartsAbility (answers : Answers) (continuation : DSchedContinue) : Prop :=
  answers.checkDeviceIdFromRemote = true ∧
    answers.checkStartPermission = errOk ∧
    (continuation.subServiceType = .pull → answers.hasContinueSessionId →
      answers.getPersistentId = errOk ∧ answers.getPersistentIdAgain = errOk) ∧
    answers.connectAbilityManager = errOk ∧ answers.startAbility = errOk

instance (answers : Answers) (continuation : DSchedContinue) :
    Decidable (StartsAbility answers continuation) :=
  inferInstanceAs (Decidable (_ ∧ _))

structure Later (continuation : DSchedContinue)
    (result : DSchedContinue.ExeResult) : Prop where
  starts : Effect.startAbility errOk ∉ result.2.1
  early : result.2.2.state.Early → continuation.state.Early

section Tasks

variable {continuation : DSchedContinue} {answers : Answers}

theorem executeContinueReq_later (hearly : continuation.state.Early) :
    Later continuation (continuation.executeContinueReq answers) := by
  refine ⟨?_, fun _ => hearly⟩
  unfold DSchedContinue.executeContinueReq DSchedContinue.quickStart
  cases continuation.packStartCmd answers with
  | error ret => split_ifs <;> simp
  | ok cmd => split_ifs <;> simp

theorem executeContinueReply_later (hearly : continuation.state.Early) :
    Later continuation (continuation.executeContinueReply answers) := by
  refine ⟨?_, fun _ => hearly⟩
  unfold DSchedContinue.executeContinueReply
  split_ifs <;> simp

theorem executeContinueAbility_later (hearly : continuation.state.Early)
    (appVersion : ℤ) :
    Later continuation
      (continuation.executeContinueAbility answers appVersion) := by
  refine ⟨?_, fun _ => hearly⟩
  unfold DSchedContinue.executeContinueAbility
  split
  split_ifs <;> simp

theorem executeContinueSend_later (want : SavedWant) :
    Later continuation (continuation.executeContinueSend answers want) := by
  unfold DSchedContinue.executeContinueSend DSchedContinue.setCleanMissionFlag
    DSchedContinue.updateState
  split_ifs <;> exact ⟨by simp, by simp [StateType.Early]⟩

theorem executeNotifyComplete_later (result : ℤ) :
    Later continuation (continuation.executeNotifyComplete answers result) := by
  unfold DSchedContinue.executeNotifyComplete DSchedContinue.onContinueEnd
    DSchedContinue.updateState DSchedContinue.post
  split_ifs <;> exact ⟨by simp, by simp [StateType.Early]⟩

theorem executeContinueEnd_later (result : ℤ) :
    Later continuation (continuation.executeContinueEnd answers result) := by
  unfold DSchedContinue.executeContinueEnd
    DSchedContinue.notifyContinuationCallbackResult
  constructor
  · simp only [List.mem_cons, List.mem_append, not_or]
    refine ⟨by simp, ⟨?_, ?_⟩, ?_⟩
    · split_ifs <;> simp
    · split_ifs <;> simp
    · split_ifs <;> simp
  · split_ifs <;> exact id

theorem executeContinueError_later (result : ℤ) :
    Later continuation (continuation.executeContinueError answers result) := by
  unfold DSchedContinue.executeContinueError DSchedContinue.onContinueEnd
    DSchedContinue.updateState DSchedContinue.post
  constructor
  · simp
  · split_ifs <;> simp [StateType.Early]

theorem execute_later {event : Event}
    (hother : ¬(continuation.state = .data ∧ event = .data)) :
    Later continuation (continuation.execute answers event) := by
  unfold DSchedContinue.execute
  split
  · next hstate => exact executeContinueReq_later (.inl hstate)
  · next hstate => exact executeContinueAbility_later (.inl hstate) _
  · exact executeContinueEnd_later _
  · exact executeContinueError_later _
  · exact executeContinueSend_later _
  · exact executeContinueEnd_later _
  · exact executeContinueError_later _
  · exact executeNotifyComplete_later _
  · exact executeContinueError_later _
  · exact executeContinueEnd_later _
  · next hstate => exact executeContinueReq_later (.inr (.inl hstate))
  · next hstate => exact executeContinueReply_later (.inr (.inl hstate))
  · exact executeContinueEnd_later _
  · exact executeContinueError_later _
  · next hstate => exact absurd ⟨hstate, rfl⟩ hother
  · exact executeContinueEnd_later _
  · exact executeContinueError_later _
  · exact executeNotifyComplete_later _
  · exact executeContinueError_later _
  · exact executeContinueEnd_later _
  · exact ⟨List.not_mem_nil, id⟩

theorem executeContinueData_starts
    (hstarts : StartsAbility answers continuation) :
    Effect.startAbility errOk ∈
        (continuation.executeContinueData answers).2.1 ∧
      (continuation.executeContinueData answers).2.2.state = .sinkWaitEnd := by
  obtain ⟨hdevice, hpermission, hwindow, hconnect, hstart⟩ := hstarts
  unfold DSchedContinue.executeContinueData DSchedContinue.startAbility
  rw [if_neg (by simp [hdevice]), if_neg (by simp [hpermission]), if_neg]
  · simp [hconnect, hstart, DSchedContinue.updateState]
  · rintro ⟨hpull, hsession, hlost⟩
    obtain ⟨hfirst, hagain⟩ := hwindow hpull hsession
    exact hlost.elim (fun h => h hfirst) (fun h => h hagain)

theorem executeContinueData_starts_not
    (hstarts : ¬StartsAbility answers continuation) :
    Effect.startAbility errOk ∉
        (continuation.executeContinueData answers).2.1 := by
  unfold DSchedContinue.executeContinueData DSchedContinue.startAbility
  dsimp only
  split_ifs with hdevice hpermission hwindow hconnect hret
  · simp
  · simp
  · simp
  · simp
  · refine absurd ⟨?_, not_not.mp hpermission, ?_, not_not.mp hconnect, hret⟩
      hstarts
    · simpa using hdevice
    · intro hpull hsession
      simpa [hpull, hsession] using hwindow
  · simpa [eq_comm] using hret

end Tasks

/-! ## One verdict -/

namespace QuickStarting

/-- A success was given with the ability started, in the state which waits for
the end; a failure has a result, and the ability is never started. -/
def Deserved (log : List Effect) (verdict : QuickStartVerdict) : Prop :=
  match verdict.outcome with
  | .success => Effect.startAbility errOk ∈ verdict.effects ∧
      verdict.reached = .sinkWaitEnd
  | .failed result => result ≠ errOk ∧ Effect.startAbility errOk ∉ log

instance (log : List Effect) (verdict : QuickStartVerdict) :
    Decidable (Deserved log verdict) := by
  unfold Deserved
  split <;> infer_instance

def Failed (state : QuickStarting) : Prop :=
  ∃ verdict ∈ state.verdicts, verdict.outcome ≠ .success

instance (state : QuickStarting) : Decidable state.Failed :=
  inferInstanceAs (Decidable (∃ verdict ∈ state.verdicts, _))

structure OneVerdict (state : QuickStarting) : Prop where
  deserved : ∀ verdict ∈ state.verdicts, Deserved state.recorded.log verdict
  notBoth : ¬((∃ verdict ∈ state.verdicts, verdict.outcome = .success) ∧
    state.Failed)

def knowsMission (state : QuickStarting) (answers : Answers)
    (more : QuickStartAnswers) (event : Event) : Bool :=
  state.sinkMissionIdAfter answers more event ≠ 0 ∨
    more.sessionMissionId.isSome

/-- When the data state is to report a success, the ability is started, and it
is not started after a failure; an end which is to be reported as a failure has
a result. -/
def TaskGuard (state : QuickStarting) (answers : Answers)
    (more : QuickStartAnswers) (event : Event) : Prop :=
  match outcomeOf state.recorded.continuation.state event with
  | none => True
  | some .success =>
      (state.knowsMission answers more event = true →
        StartsAbility answers state.recorded.continuation) ∧
      (StartsAbility answers state.recorded.continuation → ¬state.Failed)
  | some (.failed result) =>
      state.knowsMission answers more event = true → result ≠ errOk

def Guard (state : QuickStarting) (stimulus : Stimulus × QuickStartAnswers) :
    Prop :=
  ∀ answers, stimulus.1 = .input (.process answers) →
    state.recorded.continuation.removed = false →
    ∀ event ∈ state.recorded.continuation.queue.head?,
      state.TaskGuard answers stimulus.2 event

/-- Once its ability is started, a continuation is in a later state, and what a
task has done is in the log. -/
structure Account (state : QuickStarting) : Prop where
  started : Effect.startAbility errOk ∈ state.recorded.log →
    ¬state.recorded.continuation.state.Early
  logged : ∀ verdict ∈ state.verdicts, verdict.effects ⊆ state.recorded.log

/-! ## One step -/

section Steps

variable {state : QuickStarting} {answers : Answers}
  {more : QuickStartAnswers} {event : Event} {rest : List Event}
  {stimulus : Stimulus × QuickStartAnswers}

theorem missionId_isSome (state : QuickStarting) (more : QuickStartAnswers) :
    (state.missionId more).isSome = true ↔
      state.sinkMissionId ≠ 0 ∨ more.sessionMissionId.isSome = true := by
  unfold missionId
  split_ifs with hknown
  · simp [hknown]
  · simp [hknown]

theorem recorded_notifyVerdict (effects : List Effect)
    (outcome : QuickStartOutcome) :
    (state.notifyVerdict more effects outcome).recorded = state.recorded := by
  unfold notifyVerdict
  split <;> rfl

theorem verdicts_process (next : Recorded) (effects : List Effect) :
    ∃ given : List QuickStartVerdict,
      (state.process answers more event next effects).verdicts =
        state.verdicts ++ given ∧
      (∀ verdict ∈ given,
        outcomeOf state.recorded.continuation.state event =
            some verdict.outcome ∧
          state.knowsMission answers more event = true ∧
          verdict.effects = effects ∧
          verdict.reached = next.continuation.state) ∧
      (∀ outcome ∈ outcomeOf state.recorded.continuation.state event,
        state.knowsMission answers more event = true →
          ∃ verdict ∈ given, verdict.outcome = outcome) := by
  unfold process
  cases houtcome : outcomeOf state.recorded.continuation.state event with
  | none => exact ⟨[], by simp, nofun, nofun⟩
  | some outcome =>
      dsimp only [notifyVerdict]
      have hknown := missionId_isSome { state with
        recorded := next
        sinkMissionId := state.sinkMissionIdAfter answers more event
        sinkAbilityName :=
          effects.foldl (nameAbility more) state.sinkAbilityName } more
      split
      · next hunknown =>
          rw [hunknown] at hknown
          refine ⟨[], by simp, nofun, fun _ _ hknows => ?_⟩
          simp only [knowsMission, decide_eq_true_eq] at hknows
          exact absurd (hknown.mpr hknows) (by simp)
      · next missionId hmission =>
          rw [hmission] at hknown
          refine ⟨_, rfl, ?_, ?_⟩
          · rintro verdict hverdict
            obtain rfl := List.mem_singleton.mp hverdict
            refine ⟨rfl, ?_, rfl, rfl⟩
            simpa only [knowsMission, decide_eq_true_eq] using hknown.mp rfl
          · rintro _ ⟨⟩ -
            exact ⟨_, List.mem_singleton_self _, rfl⟩

def task (state : QuickStarting) (answers : Answers) (event : Event)
    (rest : List Event) : DSchedContinue.ExeResult :=
  { state.recorded.continuation with queue := rest }.execute answers event

theorem step_process
    (hremoved : state.recorded.continuation.removed = false)
    (hqueue : state.recorded.continuation.queue = event :: rest) :
    ∃ next : Recorded,
      (state.step (.input (.process answers), more)).2 =
        state.process answers more event next
          (state.task answers event rest).2.1 ∧
      next.log = state.recorded.log ++ (state.task answers event rest).2.1 ∧
      next.continuation.state =
        (state.task answers event rest).2.2.state := by
  have hstep : state.recorded.continuation.step (.process answers) =
      { state.recorded.continuation with queue := rest }.processEvent answers
        event := by
    unfold DSchedContinue.step
    rw [if_neg (by simp [hremoved])]
    dsimp only
    rw [hqueue]
  have heffects : (state.recorded.continuation.step (.process answers)).1 =
      (state.task answers event rest).2.1 := by
    rw [hstep]
    rfl
  refine ⟨⟨(state.recorded.continuation.step (.process answers)).2,
    state.recorded.log ++ (state.task answers event rest).2.1⟩, ?_, rfl, ?_⟩
  · simp only [step, hqueue, List.head?_cons, hremoved, Recorded.step,
      heffects]
    rfl
  · rw [hstep]
    unfold DSchedContinue.processEvent task
    dsimp only
    split_ifs <;> rfl

theorem recorded_process (next : Recorded) (effects : List Effect) :
    (state.process answers more event next effects).recorded = next := by
  unfold process
  split
  · rfl
  · exact recorded_notifyVerdict _ _

theorem step_task (more : QuickStartAnswers)
    (hremoved : state.recorded.continuation.removed = false)
    (hqueue : state.recorded.continuation.queue = event :: rest) :
    let after := (state.step (.input (.process answers), more)).2
    let task := state.task answers event rest
    ∃ given : List QuickStartVerdict,
      after.recorded.log = state.recorded.log ++ task.2.1 ∧
      after.recorded.continuation.state = task.2.2.state ∧
      after.verdicts = state.verdicts ++ given ∧
      (∀ verdict ∈ given,
        outcomeOf state.recorded.continuation.state event =
            some verdict.outcome ∧
          state.knowsMission answers more event = true ∧
          verdict.effects = task.2.1 ∧ verdict.reached = task.2.2.state) ∧
      (∀ outcome ∈ outcomeOf state.recorded.continuation.state event,
        state.knowsMission answers more event = true →
          ∃ verdict ∈ given, verdict.outcome = outcome) := by
  obtain ⟨next, hstep, hlog, hstate⟩ :=
    @step_process state answers more event rest hremoved hqueue
  obtain ⟨given, hverdicts, hgiven, hgives⟩ :=
    @verdicts_process state answers more event next
      (state.task answers event rest).2.1
  dsimp only
  rw [hstep, recorded_process, hstate] at *
  exact ⟨given, hlog, rfl, hverdicts, hgiven, hgives⟩

def Idle (state : QuickStarting) (stimulus : Stimulus × QuickStartAnswers) :
    Prop :=
  ∀ answers, stimulus.1 = .input (.process answers) →
    state.recorded.continuation.removed = true ∨
      state.recorded.continuation.queue = []

theorem step_idle (hidle : state.Idle stimulus) :
    (state.step stimulus).2 =
      { state with recorded := (state.recorded.step stimulus.1).2 } := by
  unfold step
  dsimp only
  split
  · next answers event hprocess hhead =>
      rcases hidle answers hprocess with hremoved | hqueue
      · rw [if_pos hremoved]
      · rw [hqueue] at hhead
        cases hhead
  · rfl

theorem state_onDataRecv (continuation : DSchedContinue) (cmd : Cmd) :
    (continuation.onDataRecv cmd).state = continuation.state := by
  unfold DSchedContinue.onDataRecv
  split_ifs
  · rfl
  · split <;> rfl

theorem recorded_idle (hidle : state.Idle stimulus) :
    ∃ effects : List Effect,
      (state.recorded.step stimulus.1).2.log =
        state.recorded.log ++ effects ∧
      Effect.startAbility errOk ∉ effects ∧
      (state.recorded.step stimulus.1).2.continuation.state =
        state.recorded.continuation.state := by
  obtain ⟨stimulus, more⟩ := stimulus
  cases stimulus with
  | recv cmd =>
      exact ⟨[], (List.append_nil _).symm, List.not_mem_nil,
        state_onDataRecv _ _⟩
  | input input =>
      refine ⟨(state.recorded.continuation.step input).1, rfl, ?_⟩
      dsimp only [Recorded.step]
      unfold DSchedContinue.step
      by_cases hremoved : state.recorded.continuation.removed = true
      · rw [if_pos hremoved]
        exact ⟨List.not_mem_nil, rfl⟩
      · rw [if_neg hremoved]
        cases input with
        | startContinuation status want =>
            refine ⟨List.not_mem_nil, ?_⟩
            dsimp only [DSchedContinue.onStartContinuation]
            split_ifs <;> rfl
        | notifyCompleteContinuation devId missionId isSuccess bundle =>
            dsimp only
            split_ifs
            · exact ⟨by simp [DSchedContinue.onNotifyComplete], rfl⟩
            · exact ⟨List.not_mem_nil, rfl⟩
        | timeout => exact ⟨List.not_mem_nil, rfl⟩
        | shutdown => exact ⟨List.not_mem_nil, rfl⟩
        | terminated => exact ⟨List.not_mem_nil, rfl⟩
        | process answers =>
            rcases hidle answers rfl with htrue | hqueue
            · exact absurd htrue hremoved
            · dsimp only
              rw [hqueue]
              exact ⟨List.not_mem_nil, rfl⟩
        | handleContinueEnd =>
            refine ⟨List.not_mem_nil, ?_⟩
            dsimp only
            split_ifs <;> rfl

theorem idle_or_process (state : QuickStarting)
    (stimulus : Stimulus × QuickStartAnswers) :
    state.Idle stimulus ∨ ∃ answers event rest,
      stimulus.1 = .input (.process answers) ∧
      state.recorded.continuation.removed = false ∧
      state.recorded.continuation.queue = event :: rest := by
  by_cases hidle : state.Idle stimulus
  · exact .inl hidle
  · unfold Idle at hidle
    push Not at hidle
    obtain ⟨answers, hprocess, hremoved, hqueue⟩ := hidle
    obtain ⟨event, rest, hcons⟩ := List.exists_cons_of_ne_nil hqueue
    exact .inr ⟨answers, event, rest, hprocess, by simpa using hremoved, hcons⟩

theorem step_grows (state : QuickStarting)
    (stimulus : Stimulus × QuickStartAnswers) :
    state.recorded.log <+: (state.step stimulus).2.recorded.log ∧
      state.verdicts <+: (state.step stimulus).2.verdicts := by
  rcases idle_or_process state stimulus with hidle |
    ⟨answers, event, rest, hprocess, hremoved, hqueue⟩
  · obtain ⟨effects, hlog, -, -⟩ := recorded_idle hidle
    rw [step_idle hidle]
    exact ⟨⟨effects, hlog.symm⟩, List.prefix_rfl⟩
  · obtain ⟨stimulus, more⟩ := stimulus
    obtain rfl : stimulus = .input (.process answers) := hprocess
    obtain ⟨given, hlog, -, hverdicts, -⟩ := step_task more hremoved hqueue
    exact ⟨⟨_, hlog.symm⟩, ⟨given, hverdicts.symm⟩⟩

theorem outcomeOf_eq_success {reached : StateType}
    (houtcome : outcomeOf reached event = some .success) :
    reached = .data ∧ event = .data := by
  unfold outcomeOf at houtcome
  split at houtcome
  any_goals cases houtcome
  exact ⟨rfl, rfl⟩

theorem outcomeOf_eq_failed {reached : StateType} {result : ℤ}
    (houtcome : outcomeOf reached event = some (.failed result)) :
    reached.Early ∧ event ≠ .data := by
  unfold outcomeOf at houtcome
  split at houtcome
  any_goals cases houtcome
  · exact ⟨.inr (.inl rfl), nofun⟩
  · exact ⟨.inr (.inl rfl), nofun⟩
  · exact ⟨.inr (.inr rfl), nofun⟩
  · exact ⟨.inr (.inr rfl), nofun⟩

theorem task_starts_iff (state : QuickStarting) (answers : Answers)
    (event : Event) (rest : List Event) :
    Effect.startAbility errOk ∈ (state.task answers event rest).2.1 ↔
      (state.recorded.continuation.state = .data ∧ event = .data) ∧
        StartsAbility answers state.recorded.continuation := by
  by_cases hdata : state.recorded.continuation.state = .data ∧ event = .data
  · rw [and_iff_right hdata]
    have htask : state.task answers event rest =
        ({ state.recorded.continuation with queue := rest } :
          DSchedContinue).executeContinueData answers := by
      obtain ⟨hstate, rfl⟩ := hdata
      unfold task DSchedContinue.execute
      rw [hstate]
    rw [htask]
    constructor
    · intro hmem
      by_contra hstarts
      exact @executeContinueData_starts_not
        { state.recorded.continuation with queue := rest } _ hstarts hmem
    · intro hstarts
      exact (@executeContinueData_starts
        { state.recorded.continuation with queue := rest } _ hstarts).1
  · refine iff_of_false ?_ (fun h => hdata h.1)
    exact (@execute_later { state.recorded.continuation with queue := rest }
      answers event hdata).starts

theorem task_reached
    (hdata : state.recorded.continuation.state = .data ∧ event = .data)
    (hstarts : StartsAbility answers state.recorded.continuation) :
    (state.task answers event rest).2.2.state = .sinkWaitEnd := by
  obtain ⟨hstate, rfl⟩ := hdata
  unfold task DSchedContinue.execute
  rw [hstate]
  exact (@executeContinueData_starts
    { state.recorded.continuation with queue := rest } answers hstarts).2

theorem task_later
    (hlater : Effect.startAbility errOk ∈ (state.task answers event rest).2.1 ∨
      ¬state.recorded.continuation.state.Early) :
    ¬(state.task answers event rest).2.2.state.Early := by
  by_cases hdata : state.recorded.continuation.state = .data ∧ event = .data
  · rcases hlater with hstarted | hearly
    · have hstarts := ((task_starts_iff state answers event rest).mp hstarted).2
      rw [task_reached hdata hstarts]
      decide
    · exact absurd (.inr (.inr hdata.1)) hearly
  · have hkept := @execute_later
      { state.recorded.continuation with queue := rest } answers event hdata
    rcases hlater with hstarted | hearly
    · exact absurd hstarted hkept.starts
    · exact fun h => hearly (hkept.early h)

theorem account_step (haccount : state.Account)
    (stimulus : Stimulus × QuickStartAnswers) :
    (state.step stimulus).2.Account := by
  rcases idle_or_process state stimulus with hidle |
    ⟨answers, event, rest, hprocess, hremoved, hqueue⟩
  · obtain ⟨effects, hlog, hsilent, hstate⟩ := recorded_idle hidle
    rw [step_idle hidle]
    refine ⟨?_, fun verdict hverdict => ?_⟩
    · rw [hlog, hstate, List.mem_append, or_iff_left hsilent]
      exact haccount.started
    · rw [hlog]
      exact List.Subset.trans (haccount.logged verdict hverdict)
        (List.subset_append_left _ _)
  · obtain ⟨stimulus, more⟩ := stimulus
    obtain rfl : stimulus = .input (.process answers) := hprocess
    obtain ⟨given, hlog, hstate, hverdicts, hgiven, -⟩ :=
      step_task more hremoved hqueue
    refine ⟨?_, ?_⟩
    · rw [hlog, hstate, List.mem_append]
      rintro (hold | hnew)
      · exact task_later (.inr (haccount.started hold))
      · exact task_later (.inl hnew)
    · rw [hlog, hverdicts]
      intro verdict hverdict
      rcases List.mem_append.mp hverdict with hold | hnew
      · exact List.Subset.trans (haccount.logged verdict hold)
          (List.subset_append_left _ _)
      · obtain ⟨-, -, heffects, -⟩ := hgiven verdict hnew
        rw [heffects]
        exact List.subset_append_right _ _

/-! ## Every run -/

theorem deserved_congr {log more : List Effect}
    (hlog : Effect.startAbility errOk ∈ log ↔
      Effect.startAbility errOk ∈ more)
    (verdict : QuickStartVerdict) :
    Deserved log verdict ↔ Deserved more verdict := by
  unfold Deserved
  split
  · rfl
  · rw [hlog]

theorem Deserved.of_longer {log more : List Effect} (hlog : log <+: more)
    {verdict : QuickStartVerdict} (hdeserved : Deserved more verdict) :
    Deserved log verdict := by
  unfold Deserved at hdeserved ⊢
  split at hdeserved
  · exact hdeserved
  · exact ⟨hdeserved.1, fun hmem => hdeserved.2 (hlog.subset hmem)⟩

theorem OneVerdict.of_deserved (haccount : state.Account)
    (hdeserved : ∀ verdict ∈ state.verdicts,
      Deserved state.recorded.log verdict) : state.OneVerdict := by
  refine ⟨hdeserved, ?_⟩
  rintro ⟨⟨success, hsuccess, houtcome⟩, failed, hfailed, hother⟩
  have hstarted := hdeserved success hsuccess
  have hnever := hdeserved failed hfailed
  unfold Deserved at hstarted hnever
  rw [houtcome] at hstarted
  cases hresult : failed.outcome with
  | success => exact hother hresult
  | failed result =>
      rw [hresult] at hnever
      exact hnever.2 (haccount.logged success hsuccess hstarted.1)

theorem OneVerdict.of_step
    (hnext : (state.step stimulus).2.OneVerdict) (haccount : state.Account) :
    state.OneVerdict := by
  obtain ⟨hlog, hverdicts⟩ := step_grows state stimulus
  exact .of_deserved haccount fun verdict hverdict =>
    (hnext.deserved verdict (hverdicts.subset hverdict)).of_longer hlog

theorem oneVerdict_task_iff (haccount : state.Account)
    (hone : state.OneVerdict) (more : QuickStartAnswers)
    (hremoved : state.recorded.continuation.removed = false)
    (hqueue : state.recorded.continuation.queue = event :: rest) :
    (state.step (.input (.process answers), more)).2.OneVerdict ↔
      state.TaskGuard answers more event := by
  have hnext := account_step haccount (.input (.process answers), more)
  obtain ⟨given, hlog, -, hverdicts, hgiven, hgives⟩ :=
    @step_task state answers event rest more hremoved hqueue
  have hstarts := task_starts_iff state answers event rest
  have hsplit : (state.step (.input (.process answers), more)).2.OneVerdict ↔
      (∀ verdict ∈ state.verdicts, Deserved
        (state.recorded.log ++ (state.task answers event rest).2.1) verdict) ∧
      ∀ verdict ∈ given, Deserved
        (state.recorded.log ++ (state.task answers event rest).2.1) verdict := by
    rw [← List.forall_mem_append, ← hverdicts, ← hlog]
    exact ⟨fun h => h.deserved, OneVerdict.of_deserved hnext⟩
  -- without a start the old verdicts stay deserved
  have hold : Effect.startAbility errOk ∉ (state.task answers event rest).2.1 →
      ∀ verdict ∈ state.verdicts, Deserved
        (state.recorded.log ++ (state.task answers event rest).2.1) verdict := by
    intro hsilent verdict hverdict
    refine (deserved_congr ?_ verdict).mpr (hone.deserved verdict hverdict)
    rw [List.mem_append, or_iff_left hsilent]
  rw [hsplit]
  unfold TaskGuard
  cases houtcome : outcomeOf state.recorded.continuation.state event with
  | none =>
      refine iff_of_true ⟨hold ?_, ?_⟩ trivial
      · intro hmem
        obtain ⟨⟨hstate, rfl⟩, -⟩ := hstarts.mp hmem
        rw [hstate] at houtcome
        cases houtcome
      · intro verdict hverdict
        have hsome := (hgiven verdict hverdict).1
        rw [houtcome] at hsome
        cases hsome
  | some outcome =>
      rw [houtcome] at hgives
      cases outcome with
      | success =>
          have hdata := outcomeOf_eq_success houtcome
          dsimp only
          constructor
          · rintro ⟨hkept, hnew⟩
            constructor
            · intro hknows
              obtain ⟨verdict, hverdict, hsuccess⟩ := hgives _ rfl hknows
              have hdeserved := hnew verdict hverdict
              unfold Deserved at hdeserved
              rw [hsuccess, (hgiven verdict hverdict).2.2.1] at hdeserved
              exact (hstarts.mp hdeserved.1).2
            · rintro hstart ⟨verdict, hverdict, hfailed⟩
              have hdeserved := hkept verdict hverdict
              unfold Deserved at hdeserved
              cases hresult : verdict.outcome with
              | success => exact hfailed hresult
              | failed result =>
                  rw [hresult] at hdeserved
                  exact hdeserved.2 (List.mem_append_right _
                    (hstarts.mpr ⟨hdata, hstart⟩))
          · rintro ⟨hknown, hfirst⟩
            constructor
            · by_cases hstart :
                  StartsAbility answers state.recorded.continuation
              · intro verdict hverdict
                have hsuccess : verdict.outcome = .success := by
                  by_contra hfailed
                  exact hfirst hstart ⟨verdict, hverdict, hfailed⟩
                have hdeserved := hone.deserved verdict hverdict
                unfold Deserved at hdeserved ⊢
                rw [hsuccess] at hdeserved ⊢
                exact hdeserved
              · exact hold fun hmem => hstart (hstarts.mp hmem).2
            · intro verdict hverdict
              obtain ⟨hsome, hknows, heffects, hreached⟩ :=
                hgiven verdict hverdict
              have hsuccess : verdict.outcome = .success :=
                (Option.some.inj (houtcome.symm.trans hsome)).symm
              have hstart := hknown hknows
              unfold Deserved
              rw [hsuccess, heffects, hreached]
              exact ⟨hstarts.mpr ⟨hdata, hstart⟩,
                task_reached hdata hstart⟩
      | failed result =>
          obtain ⟨hearly, hevent⟩ := outcomeOf_eq_failed houtcome
          have hsilent : Effect.startAbility errOk ∉
              (state.task answers event rest).2.1 :=
            fun hmem => hevent (hstarts.mp hmem).1.2
          dsimp only
          constructor
          · rintro ⟨-, hnew⟩ hknows
            obtain ⟨verdict, hverdict, hfailed⟩ := hgives _ rfl hknows
            have hdeserved := hnew verdict hverdict
            unfold Deserved at hdeserved
            rw [hfailed] at hdeserved
            exact hdeserved.1
          · intro hresult
            refine ⟨hold hsilent, fun verdict hverdict => ?_⟩
            obtain ⟨hsome, hknows, -, -⟩ := hgiven verdict hverdict
            have hfailed : verdict.outcome = .failed result :=
              (Option.some.inj (houtcome.symm.trans hsome)).symm
            unfold Deserved
            rw [hfailed]
            refine ⟨hresult hknows, ?_⟩
            rw [List.mem_append, or_iff_left hsilent]
            exact fun hmem => haccount.started hmem hearly

theorem oneVerdict_step_iff (haccount : state.Account)
    (hone : state.OneVerdict) (stimulus : Stimulus × QuickStartAnswers) :
    (state.step stimulus).2.OneVerdict ↔ state.Guard stimulus := by
  rcases idle_or_process state stimulus with hidle |
    ⟨answers, event, rest, hprocess, hremoved, hqueue⟩
  · refine iff_of_true
      (.of_deserved (account_step haccount stimulus) ?_) ?_
    · obtain ⟨effects, hlog, hsilent, -⟩ := recorded_idle hidle
      rw [step_idle hidle, hlog]
      intro verdict hverdict
      refine (deserved_congr ?_ verdict).mpr (hone.deserved verdict hverdict)
      rw [List.mem_append, or_iff_left hsilent]
    · intro answers hprocess hremoved event hevent
      rcases hidle answers hprocess with htrue | hqueue
      · rw [hremoved] at htrue
        cases htrue
      · rw [hqueue] at hevent
        cases hevent
  · obtain ⟨stimulus, more⟩ := stimulus
    obtain rfl : stimulus = .input (.process answers) := hprocess
    have hguard : state.Guard (.input (.process answers), more) ↔
        state.TaskGuard answers more event := by
      unfold Guard
      rw [hqueue]
      constructor
      · intro h
        exact h answers rfl hremoved event rfl
      · rintro h _ ⟨⟩ - _ ⟨⟩
        exact h
    rw [hguard]
    exact oneVerdict_task_iff haccount hone more hremoved hqueue

end Steps

theorem oneVerdict_run_iff (origin : Origin) (destModuleName : Text)
    (stimuli : List (Stimulus × QuickStartAnswers)) :
    (EventRun.run step (initial origin destModuleName) stimuli).2.OneVerdict ↔
      EventRun.Meets step Guard (initial origin destModuleName) stimuli := by
  have haccount : (initial origin destModuleName).Account := ⟨nofun, nofun⟩
  have hone : (initial origin destModuleName).OneVerdict :=
    .of_deserved haccount nofun
  exact @EventRun.run_sound_iff _ _ _ step Guard Account OneVerdict
    (fun _ stimulus haccount => account_step haccount stimulus)
    (fun _ _ haccount hnext => hnext.of_step haccount)
    (fun _ stimulus haccount hone => oneVerdict_step_iff haccount hone stimulus)
    _ stimuli haccount hone

theorem count_task_le (state : QuickStarting) (answers : Answers) (event : Event)
    (rest : List Event) :
    (state.task answers event rest).2.1.count (.startAbility errOk) ≤ 1 := by
  by_cases hstarted :
      Effect.startAbility errOk ∈ (state.task answers event rest).2.1
  · obtain ⟨⟨hstate, rfl⟩, -⟩ :=
      (task_starts_iff state answers event rest).mp hstarted
    unfold task DSchedContinue.execute
    rw [hstate]
    unfold DSchedContinue.executeContinueData DSchedContinue.startAbility
    refine List.count_le_length.trans ?_
    dsimp only
    split_ifs <;> simp
  · rw [List.count_eq_zero.mpr hstarted]
    exact Nat.zero_le 1

/-- Whatever a continuation gets in whatever order, its ability is started with
success once at most. -/
theorem startsOnce_run (origin : Origin) (destModuleName : Text)
    (stimuli : List (Stimulus × QuickStartAnswers)) :
    (EventRun.run step (initial origin destModuleName)
      stimuli).2.recorded.log.count (.startAbility errOk) ≤ 1 := by
  have hinvariant : ∀ (state : QuickStarting) stimulus,
      state.Account ∧ state.recorded.log.count (.startAbility errOk) ≤ 1 →
      (state.step stimulus).2.Account ∧
        (state.step stimulus).2.recorded.log.count (.startAbility errOk) ≤ 1 := by
    rintro state stimulus ⟨haccount, honce⟩
    refine ⟨account_step haccount stimulus, ?_⟩
    rcases idle_or_process state stimulus with hidle |
      ⟨answers, event, rest, hprocess, hremoved, hqueue⟩
    · obtain ⟨effects, hlog, hsilent, -⟩ := recorded_idle hidle
      rw [step_idle hidle, hlog, List.count_append,
        List.count_eq_zero.mpr hsilent]
      exact honce
    · obtain ⟨stimulus, more⟩ := stimulus
      obtain rfl : stimulus = .input (.process answers) := hprocess
      obtain ⟨given, hlog, -⟩ := step_task more hremoved hqueue
      rw [hlog, List.count_append]
      have htask := count_task_le state answers event rest
      by_cases hstarted :
          Effect.startAbility errOk ∈ (state.task answers event rest).2.1
      · -- only the data state starts, and it is left by the first start
        have hstate := ((task_starts_iff state answers event rest).mp hstarted).1.1
        have hfirst : Effect.startAbility errOk ∉ state.recorded.log :=
          fun hmem => haccount.started hmem (.inr (.inr hstate))
        rw [List.count_eq_zero.mpr hfirst]
        omega
      · rw [List.count_eq_zero.mpr hstarted]
        exact honce
  have haccount : (initial origin destModuleName).Account := ⟨nofun, nofun⟩
  exact (EventRun.run_invariant hinvariant stimuli ⟨haccount, Nat.zero_le 1⟩).2

def refusedData : List (Stimulus × QuickStartAnswers) :=
  [(.input (.process {}), {}), (.recv .data, {}),
    (.input (.process { checkStartPermission := 1 }),
      { sessionMissionId := some 7 }),
    (.input (.process {}), { sessionMissionId := some 7 })]

def endedWell : List (Stimulus × QuickStartAnswers) :=
  [(.input (.process {}), {}), (.recv (.ended errOk), {}),
    (.input (.process {}), { sessionMissionId := some 7 })]

theorem not_oneVerdict_refusedData :
    ¬(EventRun.run step (initial (.request .sink sampleRequest) ['m'])
        refusedData).2.OneVerdict ∧
      ¬(EventRun.run step (initial (.request .sink sampleRequest) ['m'])
        endedWell).2.OneVerdict := by
  constructor
  · intro hone
    exact absurd hone.deserved (by decide +kernel)
  · intro hone
    exact absurd hone.deserved (by decide +kernel)

end QuickStarting

end Continuation

end Dmsfwk
