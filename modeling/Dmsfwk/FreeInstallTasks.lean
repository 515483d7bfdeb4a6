import Dmsfwk.DSchedContinuation

/-!
# Tasks of free installs

A request for a free install gets a task with a timer, which the answer of the
other device, the timer, the failure of the request or the loss of the device
takes out of the map again.  Each of these consists of several sections, and
the sections of concurrent calls follow each other in any order.  A task that
belongs to a continuation has its mission in a second map.
-/

namespace Dmsfwk
namespace FreeInstallTasks

open SchedErr OrderedMap EventRun

inductive LaunchType where
  | freeInstallStart
  | freeInstallContinue
  deriving DecidableEq, Repr

structure CallbackTaskItem where
  callback : ℕ
  launchType : LaunchType
  deviceId : Text
  deriving DecidableEq, Repr

inductive Stage where
  /-- A request before `SetContinuationMissionMap`. -/
  | setting (taskId : Int64) (missionId : Int32)
  /-- A request before the answer of the other device. -/
  | calling (taskId : Int64)
  /-- A completion before `PopCallback`. -/
  | typed (taskId : Int64) (resultCode : Int32) (launchType : LaunchType)
  /-- A completion of a continuation before it looks for the mission. -/
  | popped (taskId : Int64) (resultCode : Int32)
  /-- A completion that has told the mission. -/
  | looked (taskId : Int64)
  deriving DecidableEq, Repr

/-- The last four fields are not kept by the source: the ids of the tasks which
were started, of the callbacks which were notified, of the tasks with a mission
which were taken out after a failure, and of the missions which were told. -/
structure CallbackTasks where
  currTaskId : Int64 := 1
  callbackMap : Std.TreeMap Int64 CallbackTaskItem := ∅
  continuationMissionMap : Std.TreeMap Int64 Int32 := ∅
  /-- The pending events of `dmsCallbackHandler_`. -/
  timerEvents : List UInt32 := []
  inFlight : Std.TreeMap ℕ Stage := ∅
  started : List Int64 := []
  notified : List (Int64 × LaunchType) := []
  failed : List Int64 := []
  told : List Int64 := []

structure FreeInstallRequest where
  localDeviceId : Option Text
  deviceId : Text
  remoteDms : Bool := true
  flagAbilityContinuation : Bool := false
  sessionId : Int32 := -1
  callback : ℕ := 0
  sendEvent : Bool := true

inductive StartAnswer where
  | noCallerInfo
  | noAccountInfo
  | remote (result : Int32)

inductive TaskEvent where
  | start (thread : ℕ) (request : FreeInstallRequest)
  | setMission (thread : ℕ)
  | answer (thread : ℕ) (answer : StartAnswer)
  | complete (thread : ℕ) (taskId : Int64) (resultCode : Int32)
  /-- The code for a time-out is one of the ability manager. -/
  | timeout (thread : ℕ) (event : UInt32) (freeInstallTimeout : Int32)
      (hfailure : freeInstallTimeout ≠ errOk)
  | pop (thread : ℕ)
  | lookMission (thread : ℕ)
  | popMission (thread : ℕ)
  | deviceOffline (deviceId : Text)

/-! ## The functions of the task list -/

/-- Events are numbered with 32 bits. -/
def innerEventId (taskId : Int64) : UInt32 := taskId.toUInt64.toUInt32

def eventTaskId (event : UInt32) : Int64 := event.toUInt64.toInt64

def LaunchType.ofFlag (flagAbilityContinuation : Bool) : LaunchType :=
  if flagAbilityContinuation then .freeInstallContinue else .freeInstallStart

namespace CallbackTasks

def generateTaskId (tasks : CallbackTasks) : Int64 × CallbackTasks :=
  (tasks.currTaskId, { tasks with
    currTaskId :=
      if tasks.currTaskId = Int64.maxValue then 1 else tasks.currTaskId + 1 })

def pushCallback (taskId : Int64) (item : CallbackTaskItem) (sendEvent : Bool)
    (tasks : CallbackTasks) : Int32 × CallbackTasks :=
  if taskId ≤ 0 then (invalidParametersErr, tasks)
  else if item.launchType = .freeInstallStart ∧ item.callback = 0 then
    (invalidParametersErr, tasks)
  else if taskId ∈ tasks.callbackMap then (invalidParametersErr, tasks)
  else if !sendEvent then (invalidParametersErr, tasks)
  else (errOk, { tasks with
    callbackMap := tasks.callbackMap.insert taskId item
    timerEvents := tasks.timerEvents ++ [innerEventId taskId]
    started :=
      if item.launchType = .freeInstallStart then tasks.started ++ [taskId]
      else tasks.started })

/-- `PopCallback`; an entry that is found goes with its timer.  The pop of a
task with a mission is a failure or not. -/
def popCallback (taskId : Int64) (failure : Bool) (tasks : CallbackTasks) :
    Option CallbackTaskItem × CallbackTasks :=
  match tasks.callbackMap[taskId]? with
  | none => (none, tasks)
  | some item => (some item, { tasks with
      callbackMap := tasks.callbackMap.erase taskId
      timerEvents := tasks.timerEvents.filter (· ≠ innerEventId taskId)
      failed :=
        if failure ∧ taskId ∈ tasks.continuationMissionMap then
          tasks.failed ++ [taskId]
        else tasks.failed })

def notifyFreeInstallResult (taskId : Int64) (item : Option CallbackTaskItem)
    (tasks : CallbackTasks) : CallbackTasks :=
  match item with
  | none => tasks
  | some item =>
      if item.callback = 0 then tasks
      else { tasks with notified := tasks.notified ++ [(taskId, item.launchType)] }

def setContinuationMissionMap (taskId : Int64) (missionId : Int32)
    (tasks : CallbackTasks) : CallbackTasks :=
  if taskId ≤ 0 ∨ missionId ≤ 0 then tasks
  else { tasks with continuationMissionMap :=
    tasks.continuationMissionMap.insertIfNew taskId missionId }

def getLaunchType (tasks : CallbackTasks) (taskId : Int64) : LaunchType :=
  if taskId ≤ 0 then .freeInstallStart
  else match tasks.callbackMap[taskId]? with
    | none => .freeInstallStart
    | some item => item.launchType

/-- `GetContinuaionMissionId` and the call of the mission; the code that stands
for a missing mission is no mission. -/
def tellMission (taskId : Int64) (tasks : CallbackTasks) : CallbackTasks :=
  if 0 < taskId ∧ taskId ∈ tasks.continuationMissionMap then
    { tasks with told := tasks.told ++ [taskId] }
  else tasks

def popContinuationMissionMap (taskId : Int64) (tasks : CallbackTasks) :
    CallbackTasks :=
  { tasks with
      continuationMissionMap := tasks.continuationMissionMap.erase taskId }

/-- The item is taken out and its callback is told, without a look at the launch
type. -/
def giveUp (taskId : Int64) (failure : Bool) (tasks : CallbackTasks) :
    CallbackTasks :=
  let (item, popped) := tasks.popCallback taskId failure
  popped.notifyFreeInstallResult taskId item

def notifyDeviceOffline (deviceId : Text) (tasks : CallbackTasks) :
    CallbackTasks :=
  (tasks.callbackMap.toList.filter (·.2.deviceId = deviceId)).foldl
    (fun tasks entry => tasks.giveUp entry.1 true) tasks

/-! ## The sections of the calls -/

def proceed (thread : ℕ) (stage : Stage) (tasks : CallbackTasks) :
    CallbackTasks :=
  { tasks with inFlight := tasks.inFlight.insert thread stage }

def finish (thread : ℕ) (tasks : CallbackTasks) : CallbackTasks :=
  { tasks with inFlight := tasks.inFlight.erase thread }

def checkDevice (request : FreeInstallRequest) : Bool :=
  match request.localDeviceId with
  | none => false
  | some localDeviceId =>
      localDeviceId ≠ [] && request.deviceId ≠ [] &&
        localDeviceId ≠ request.deviceId

/-- `StartRemoteFreeInstall` up to its push.  Nobody else has the id that is
generated, so both are one step. -/
def startRemoteFreeInstall (thread : ℕ) (request : FreeInstallRequest)
    (tasks : CallbackTasks) : CallbackTasks :=
  if !checkDevice request ∨ !request.remoteDms then tasks
  else
    let (taskId, generated) := tasks.generateTaskId
    let launchType := LaunchType.ofFlag request.flagAbilityContinuation
    let (result, pushed) := generated.pushCallback taskId
      { callback := request.callback, launchType, deviceId := request.deviceId }
      request.sendEvent
    if result ≠ errOk then pushed
    else if launchType = .freeInstallContinue then
      pushed.proceed thread (.setting taskId request.sessionId)
    else pushed.proceed thread (.calling taskId)

/-- A thread that is busy, or not at the section of the event, stays where it
is. -/
def next (tasks : CallbackTasks) : TaskEvent → CallbackTasks
  | .start thread request =>
      if thread ∈ tasks.inFlight then tasks
      else tasks.startRemoteFreeInstall thread request
  | .setMission thread =>
      match tasks.inFlight[thread]? with
      | some (.setting taskId missionId) =>
          (tasks.setContinuationMissionMap taskId missionId).proceed thread
            (.calling taskId)
      | _ => tasks
  | .answer thread answer =>
      match tasks.inFlight[thread]? with
      | some (.calling taskId) =>
          match answer with
          | .remote result =>
              if result ≠ errOk then (tasks.giveUp taskId true).finish thread
              else tasks.finish thread
          -- the exits before the remote call leave the task in the map
          | _ => tasks.finish thread
      | _ => tasks
  | .complete thread taskId resultCode =>
      if thread ∈ tasks.inFlight then tasks
      else tasks.proceed thread
        (.typed taskId resultCode (tasks.getLaunchType taskId))
  | .timeout thread event freeInstallTimeout _ =>
      if thread ∈ tasks.inFlight ∨ event ∉ tasks.timerEvents then tasks
      else
        let taskId := eventTaskId event
        let taken := { tasks with timerEvents := tasks.timerEvents.erase event }
        if taskId ≤ 0 then taken
        else taken.proceed thread
          (.typed taskId freeInstallTimeout (tasks.getLaunchType taskId))
  | .pop thread =>
      match tasks.inFlight[thread]? with
      | some (.typed taskId resultCode .freeInstallStart) =>
          (tasks.giveUp taskId (resultCode ≠ errOk)).finish thread
      | some (.typed taskId resultCode .freeInstallContinue) =>
          (tasks.popCallback taskId (resultCode ≠ errOk)).2.proceed thread
            (.popped taskId resultCode)
      | _ => tasks
  | .lookMission thread =>
      match tasks.inFlight[thread]? with
      | some (.popped taskId resultCode) =>
          if resultCode ≠ errOk then
            (tasks.tellMission taskId).proceed thread (.looked taskId)
          else (tasks.popContinuationMissionMap taskId).finish thread
      | _ => tasks
  | .popMission thread =>
      match tasks.inFlight[thread]? with
      | some (.looked taskId) =>
          (tasks.popContinuationMissionMap taskId).finish thread
      | _ => tasks
  | .deviceOffline deviceId => tasks.notifyDeviceOffline deviceId

def step (tasks : CallbackTasks) (event : TaskEvent) : Unit × CallbackTasks :=
  ((), tasks.next event)

end CallbackTasks

/-! ## What should hold -/

def Stage.completes? : Stage → Option Int64
  | .typed taskId _ .freeInstallContinue => some taskId
  | .popped taskId _ => some taskId
  | .looked taskId => some taskId
  | _ => none

/-- The task of a completion that has done its `PopCallback`. -/
def Stage.past? : Stage → Option Int64
  | .popped taskId _ => some taskId
  | .looked taskId => some taskId
  | _ => none

namespace CallbackTasks

def pendingStarts (tasks : CallbackTasks) (taskId : Int64) : ℕ :=
  match tasks.callbackMap[taskId]? with
  | some { launchType := .freeInstallStart, .. } => 1
  | _ => 0

def IsContinue (tasks : CallbackTasks) (taskId : Int64) : Prop :=
  ∃ item, tasks.callbackMap[taskId]? = some item ∧
    item.launchType = .freeInstallContinue

def Owing (tasks : CallbackTasks) (taskId : Int64) : Prop :=
  taskId ∈ tasks.continuationMissionMap ∧ ∃ (thread : ℕ) (resultCode : Int32),
    tasks.inFlight[thread]? = some (.popped taskId resultCode) ∧
      resultCode ≠ errOk

/-- The next id is not that of a pending task, a started task is pending or its
callback was notified, a task is pending with its timer or with a completion
that has yet to take it out, a mission belongs to a pending task or to a
completion that will remove it, and was told once for a failure. -/
structure Answered (tasks : CallbackTasks) : Prop where
  fresh : tasks.currTaskId ∉ tasks.callbackMap
  notified : ∀ taskId, tasks.started.count taskId =
    tasks.notified.count (taskId, .freeInstallStart) +
      tasks.pendingStarts taskId
  timers : ∀ event ∈ tasks.timerEvents,
    eventTaskId event ∈ tasks.callbackMap
  timed : ∀ taskId ∈ tasks.callbackMap,
    (∃ event ∈ tasks.timerEvents, eventTaskId event = taskId) ∨
      ∃ (thread : ℕ) (resultCode : Int32) (launchType : LaunchType),
        tasks.inFlight[thread]? = some (.typed taskId resultCode launchType)
  missions : ∀ taskId ∈ tasks.continuationMissionMap,
    tasks.IsContinue taskId ∨ ∃ (thread : ℕ) (stage : Stage),
      tasks.inFlight[thread]? = some stage ∧ stage.past? = some taskId
  told : ∀ taskId, ¬ tasks.Owing taskId →
    tasks.told.count taskId = tasks.failed.count taskId
  owing : ∀ taskId, tasks.Owing taskId →
    tasks.told.count taskId + 1 = tasks.failed.count taskId

def HasMission (tasks : CallbackTasks) (taskId : Int64) : Prop :=
  tasks.IsContinue taskId ∧ taskId ∈ tasks.continuationMissionMap

/-- A completion finds a task of a continuation only when no other one of it is
in flight. -/
def CompletesAlone (tasks : CallbackTasks) (taskId : Int64) : Prop :=
  tasks.IsContinue taskId → ∀ (other : ℕ) (stage : Stage),
    tasks.inFlight[other]? = some stage → stage.completes? ≠ some taskId

def maxTaskId : ℤ := 4294967296

/-- An id fits the timers, a mission is set while its task is pending, a task
with a mission is taken out by a completion that knows that it has one, and
completions of such a task do not overlap. -/
def EventSound (tasks : CallbackTasks) : TaskEvent → Prop
  | .start thread request =>
      thread ∉ tasks.inFlight → checkDevice request = true →
        request.remoteDms = true → tasks.currTaskId.toInt < maxTaskId
  | .setMission thread => ∀ taskId missionId,
      tasks.inFlight[thread]? = some (.setting taskId missionId) →
        0 < missionId → tasks.IsContinue taskId
  | .answer thread (.remote result) => result ≠ errOk → ∀ taskId,
      tasks.inFlight[thread]? = some (.calling taskId) →
        ¬ tasks.HasMission taskId
  | .complete thread taskId _ =>
      thread ∉ tasks.inFlight → tasks.CompletesAlone taskId
  | .timeout thread event _ _ => thread ∉ tasks.inFlight →
      event ∈ tasks.timerEvents → tasks.CompletesAlone (eventTaskId event)
  | .pop thread => ∀ taskId resultCode,
      tasks.inFlight[thread]? =
        some (.typed taskId resultCode .freeInstallStart) →
          ¬ tasks.HasMission taskId
  | .deviceOffline deviceId => ∀ taskId item,
      tasks.callbackMap[taskId]? = some item → item.deviceId = deviceId →
        ¬ tasks.HasMission taskId
  | _ => True

def IsGiven (tasks : CallbackTasks) (taskId : Int64) : Prop :=
  0 < taskId.toInt ∧ taskId.toInt < tasks.currTaskId.toInt

structure Kept (tasks : CallbackTasks) : Prop where
  room : 0 < tasks.currTaskId.toInt ∧ tasks.currTaskId.toInt ≤ maxTaskId
  pending : ∀ (taskId : Int64) (item : CallbackTaskItem),
    tasks.callbackMap[taskId]? = some item → tasks.IsGiven taskId ∧
      (item.launchType = .freeInstallStart → item.callback ≠ 0)
  completing : ∀ (thread : ℕ) (stage : Stage) (taskId : Int64),
    tasks.inFlight[thread]? = some stage → stage.completes? = some taskId →
      tasks.IsGiven taskId ∧ ∀ item, tasks.callbackMap[taskId]? = some item →
        item.launchType = .freeInstallContinue
  past : ∀ (thread : ℕ) (stage : Stage) (taskId : Int64),
    tasks.inFlight[thread]? = some stage → stage.past? = some taskId →
      taskId ∉ tasks.callbackMap
  alone : ∀ (thread other : ℕ) (stage found : Stage) (taskId : Int64),
    tasks.inFlight[thread]? = some stage → tasks.inFlight[other]? = some found →
      stage.completes? = some taskId → found.completes? = some taskId →
        thread = other
  answered : tasks.Answered

section Steps

variable {tasks : CallbackTasks} {thread : ℕ} {taskId : Int64}

theorem completes?_of_past? {stage : Stage} (hpast : stage.past? = some taskId) :
    stage.completes? = some taskId := by
  cases stage <;> first | exact hpast | cases hpast

theorem mem_callbackMap_iff :
    taskId ∈ tasks.callbackMap ↔
      ∃ item, tasks.callbackMap[taskId]? = some item := by
  rw [Std.TreeMap.mem_iff_isSome_getElem?, Option.isSome_iff_exists]

theorem eventTaskId_innerEventId (hpos : 0 < taskId.toInt)
    (hlt : taskId.toInt < maxTaskId) :
    eventTaskId (innerEventId taskId) = taskId := by
  have hle : (0 : Int64) ≤ taskId := Int64.le_iff_toInt_le.mpr hpos.le
  have hsmall : taskId.toUInt64.toNat < 4294967296 := by
    unfold maxTaskId at hlt
    rw [Int64.toNat_toUInt64_of_le hle, Int64.toNatClampNeg]
    omega
  have hsame : taskId.toUInt64.toUInt32.toUInt64 = taskId.toUInt64 := by
    apply UInt64.toNat_inj.mp
    rw [UInt32.toNat_toUInt64, UInt64.toNat_toUInt32, Nat.mod_eq_of_lt hsmall]
  rw [eventTaskId, innerEventId, hsame, Int64.toInt64_toUInt64]

/-! ## Calls that are no completion of a continuation -/

section Moved

variable {inFlight : Std.TreeMap ℕ Stage} {after : Option Stage} {other : ℕ}
  {stage found : Stage}

theorem before_of_moved
    (hmove : ∀ other : ℕ, inFlight[other]? =
      if thread = other then after else tasks.inFlight[other]?)
    (hfound : inFlight[other]? = some found) :
    (thread = other ∧ after = some found) ∨
      tasks.inFlight[other]? = some found := by
  rw [hmove] at hfound
  split_ifs at hfound with hsame
  · exact Or.inl ⟨hsame, hfound⟩
  · exact Or.inr hfound

theorem moved_of_ne
    (hmove : ∀ other : ℕ, inFlight[other]? =
      if thread = other then after else tasks.inFlight[other]?)
    (hthread : tasks.inFlight[thread]? = some stage)
    (hfound : tasks.inFlight[other]? = some found) (hne : found ≠ stage) :
    inFlight[other]? = some found := by
  rw [hmove, if_neg]
  · exact hfound
  · rintro rfl
    exact hne (Option.some.inj (hfound.symm.trans hthread))

end Moved

theorem Kept.move (hkept : Kept tasks) {inFlight : Std.TreeMap ℕ Stage}
    {after : Option Stage}
    (hmove : ∀ other : ℕ, inFlight[other]? =
      if thread = other then after else tasks.inFlight[other]?)
    (hbefore : ∀ stage, tasks.inFlight[thread]? = some stage →
      stage.completes? = none)
    (hgone : ∀ taskId resultCode launchType, tasks.inFlight[thread]? =
      some (.typed taskId resultCode launchType) → taskId ∉ tasks.callbackMap)
    (hafter : ∀ stage, after = some stage → stage.completes? = none) :
    Kept { tasks with inFlight := inFlight } := by
  have hsame : ∀ (other : ℕ) (stage : Stage) (taskId : Int64),
      stage.completes? = some taskId →
      (inFlight[other]? = some stage ↔
        tasks.inFlight[other]? = some stage) := by
    intro other stage taskId hcompletes
    rw [hmove]
    split_ifs with hthread
    · subst hthread
      constructor
      · intro hstage
        rw [hafter stage hstage] at hcompletes
        cases hcompletes
      · intro hstage
        rw [hbefore stage hstage] at hcompletes
        cases hcompletes
    · exact Iff.rfl
  have howing : ∀ taskId,
      Owing { tasks with inFlight := inFlight } taskId ↔
        tasks.Owing taskId := by
    intro taskId
    dsimp only [Owing]
    simp only [hsame _ (.popped taskId _) taskId rfl]
  have hanswered := hkept.answered
  exact { hkept with
    completing := fun other stage taskId hother hcompletes =>
      hkept.completing other stage taskId
        ((hsame other stage taskId hcompletes).mp hother) hcompletes
    past := fun other stage taskId hother hpast =>
      hkept.past other stage taskId ((hsame other stage taskId
        (completes?_of_past? hpast)).mp hother) hpast
    alone := fun first other stage found taskId hfirst hother hstage hfound =>
      hkept.alone first other stage found taskId
        ((hsame first stage taskId hstage).mp hfirst)
        ((hsame other found taskId hfound).mp hother) hstage hfound
    answered := { hanswered with
      timed := by
        intro taskId hpending
        refine (hanswered.timed taskId hpending).imp_right ?_
        rintro ⟨other, resultCode, launchType, hother⟩
        refine ⟨other, resultCode, launchType, ?_⟩
        dsimp only
        rw [hmove, if_neg]
        · exact hother
        · rintro rfl
          exact hgone taskId resultCode launchType hother hpending
      missions := by
        intro taskId hmission
        refine (hanswered.missions taskId hmission).imp_right ?_
        rintro ⟨other, stage, hother, hpast⟩
        exact ⟨other, stage, (hsame other stage taskId
          (completes?_of_past? hpast)).mpr hother, hpast⟩
      told := fun taskId hnot =>
        hanswered.told taskId fun h => hnot ((howing taskId).mpr h)
      owing := fun taskId h =>
        hanswered.owing taskId ((howing taskId).mp h) } }

/-! ## Tasks that are taken out -/

theorem Kept.not_mem_of_not_hasMission (hkept : Kept tasks)
    (hpending : taskId ∈ tasks.callbackMap)
    (hmission : ¬ tasks.HasMission taskId) :
    taskId ∉ tasks.continuationMissionMap := by
  intro hmem
  rcases hkept.answered.missions taskId hmem with
    hcontinue | ⟨thread, stage, hthread, hpast⟩
  · exact hmission ⟨hcontinue, hmem⟩
  · exact hkept.past thread stage taskId hthread hpast hpending

theorem innerEventId_eventTaskId (event : UInt32) :
    innerEventId (eventTaskId event) = event := by
  simp [innerEventId, eventTaskId]

structure Without (tasks : CallbackTasks) (taskId : Int64)
    (callbackMap : Std.TreeMap Int64 CallbackTaskItem)
    (timerEvents : List UInt32) : Prop where
  entries : ∀ other : Int64, callbackMap[other]? =
    if taskId = other then none else tasks.callbackMap[other]?
  timers : ∀ event ∈ timerEvents, eventTaskId event ∈ callbackMap
  timed : ∀ other ∈ callbackMap,
    (∃ event ∈ timerEvents, eventTaskId event = other) ∨
      ∃ (thread : ℕ) (resultCode : Int32) (launchType : LaunchType),
        tasks.inFlight[thread]? = some (.typed other resultCode launchType)

theorem Kept.popCallback_eq (hkept : Kept tasks) (taskId : Int64)
    (failure : Bool) :
    ∃ callbackMap timerEvents failed,
      tasks.popCallback taskId failure =
        (tasks.callbackMap[taskId]?, { tasks with
          callbackMap := callbackMap
          timerEvents := timerEvents
          failed := failed }) ∧
      tasks.Without taskId callbackMap timerEvents ∧
      ∀ other, failed.count other = tasks.failed.count other +
        if taskId = other ∧ failure = true ∧ other ∈ tasks.callbackMap ∧
          other ∈ tasks.continuationMissionMap then 1 else 0 := by
  have hanswered := hkept.answered
  cases hitem : tasks.callbackMap[taskId]? with
  | none =>
      have hnotMem : taskId ∉ tasks.callbackMap := by
        rw [mem_callbackMap_iff, hitem]
        rintro ⟨_, h⟩
        cases h
      refine ⟨tasks.callbackMap, tasks.timerEvents, tasks.failed, ?_, ?_, ?_⟩
      · rw [popCallback, hitem]
      · refine ⟨?_, hanswered.timers, hanswered.timed⟩
        intro other
        split_ifs with hsame
        · rw [← hsame, hitem]
        · rfl
      · intro other
        rw [if_neg, Nat.add_zero]
        rintro ⟨rfl, -, hmem, -⟩
        exact hnotMem hmem
  | some item =>
      have hmem : taskId ∈ tasks.callbackMap :=
        mem_callbackMap_iff.mpr ⟨item, hitem⟩
      have hgiven := (hkept.pending taskId item hitem).1
      have hevent := eventTaskId_innerEventId hgiven.1
        (hgiven.2.trans_le hkept.room.2)
      have herased : ∀ other, other ∈ tasks.callbackMap.erase taskId ↔
          taskId ≠ other ∧ other ∈ tasks.callbackMap := by
        intro other
        rw [Std.TreeMap.mem_erase, ne_eq, ne_eq, Std.compare_eq_iff_eq]
      refine ⟨tasks.callbackMap.erase taskId,
        tasks.timerEvents.filter (· ≠ innerEventId taskId),
        if failure = true ∧ taskId ∈ tasks.continuationMissionMap then
          tasks.failed ++ [taskId]
        else tasks.failed, ?_,
        ⟨fun other => getElem?_erase_eq taskId other, ?_, ?_⟩, ?_⟩
      · rw [popCallback, hitem]
      · intro event hevents
        rw [List.mem_filter, decide_eq_true_eq] at hevents
        refine (herased _).mpr ⟨?_, hanswered.timers event hevents.1⟩
        intro hsame
        exact hevents.2 (by rw [hsame, innerEventId_eventTaskId])
      · intro other hother
        obtain ⟨hne, hpending⟩ := (herased other).mp hother
        refine (hanswered.timed other hpending).imp_left ?_
        rintro ⟨event, hevents, hid⟩
        refine ⟨event, List.mem_filter.mpr ⟨hevents, ?_⟩, hid⟩
        rw [decide_eq_true_eq]
        rintro rfl
        exact hne (hevent.symm.trans hid)
      · intro other
        by_cases hfailed : failure = true ∧
            taskId ∈ tasks.continuationMissionMap
        · rw [if_pos hfailed, List.count_append, List.count_singleton]
          by_cases hsame : taskId = other
          · subst hsame
            simp [hfailed, hmem]
          · simp [hsame]
        · rw [if_neg hfailed, if_neg, Nat.add_zero]
          rintro ⟨rfl, hfailure, -, hmission⟩
          exact hfailed ⟨hfailure, hmission⟩

theorem Without.isContinue_iff {callbackMap : Std.TreeMap Int64 CallbackTaskItem}
    {timerEvents : List UInt32}
    (hwithout : tasks.Without taskId callbackMap timerEvents) (other : Int64) :
    (∃ item, callbackMap[other]? = some item ∧
        item.launchType = .freeInstallContinue) ↔
      taskId ≠ other ∧ tasks.IsContinue other := by
  rw [hwithout.entries, IsContinue]
  split_ifs with hsame
  · simp [hsame]
  · simp [hsame]

section Taken

variable {callbackMap : Std.TreeMap Int64 CallbackTaskItem}
  {timerEvents : List UInt32}

theorem Without.mem_iff (hwithout : tasks.Without taskId callbackMap timerEvents)
    (other : Int64) :
    other ∈ callbackMap ↔ taskId ≠ other ∧ other ∈ tasks.callbackMap := by
  rw [Std.TreeMap.mem_iff_isSome_getElem?, hwithout.entries,
    Std.TreeMap.mem_iff_isSome_getElem?]
  split_ifs with hsame <;> simp [hsame]

theorem Without.getElem?_eq_some
    (hwithout : tasks.Without taskId callbackMap timerEvents) {other : Int64}
    {item : CallbackTaskItem} (hitem : callbackMap[other]? = some item) :
    tasks.callbackMap[other]? = some item := by
  rw [hwithout.entries] at hitem
  split_ifs at hitem
  exact hitem

theorem Kept.completing_without (hkept : Kept tasks)
    (hwithout : tasks.Without taskId callbackMap timerEvents) {other : ℕ}
    {stage : Stage} {id : Int64} (hother : tasks.inFlight[other]? = some stage)
    (hcompletes : stage.completes? = some id) :
    tasks.IsGiven id ∧ ∀ item, callbackMap[id]? = some item →
      item.launchType = .freeInstallContinue := by
  obtain ⟨hgiven, hitems⟩ := hkept.completing other stage id hother hcompletes
  exact ⟨hgiven, fun item hitem =>
    hitems item (hwithout.getElem?_eq_some hitem)⟩

theorem Without.pendingStarts
    (hwithout : tasks.Without taskId callbackMap timerEvents)
    {after : CallbackTasks} (hafter : after.callbackMap = callbackMap)
    (other : Int64) :
    after.pendingStarts other =
      if taskId = other then 0 else tasks.pendingStarts other := by
  rw [CallbackTasks.pendingStarts, hafter, hwithout.entries]
  split_ifs <;> rfl

theorem Kept.notifyFreeInstallResult_eq (hkept : Kept tasks) (taskId : Int64)
    (after : CallbackTasks) :
    ∃ notified,
      after.notifyFreeInstallResult taskId tasks.callbackMap[taskId]? =
        { after with notified := notified } ∧
      ∀ other, notified.count (other, LaunchType.freeInstallStart) =
        after.notified.count (other, LaunchType.freeInstallStart) +
          if taskId = other then tasks.pendingStarts other else 0 := by
  cases hitem : tasks.callbackMap[taskId]? with
  | none =>
      refine ⟨after.notified, rfl, fun other => ?_⟩
      split_ifs with hsame
      · rw [CallbackTasks.pendingStarts, ← hsame, hitem]
        rfl
      · rfl
  | some item =>
      have hcallback := (hkept.pending taskId item hitem).2
      rcases item with ⟨callback, launchType, deviceId⟩
      by_cases hnull : callback = 0
      · refine ⟨after.notified, if_pos hnull, fun other => ?_⟩
        split_ifs with hsame
        · rw [CallbackTasks.pendingStarts, ← hsame, hitem]
          cases launchType with
          | freeInstallStart => exact absurd hnull (hcallback rfl)
          | freeInstallContinue => rfl
        · rfl
      · refine ⟨after.notified ++ [(taskId, launchType)], if_neg hnull,
          fun other => ?_⟩
        rw [List.count_append, List.count_singleton]
        by_cases hsame : taskId = other
        · subst hsame
          rw [CallbackTasks.pendingStarts, hitem, if_pos rfl]
          cases launchType <;> simp
        · simp [hsame]

theorem Kept.giveUp (hkept : Kept tasks) (hmission : ¬ tasks.HasMission taskId)
    (failure : Bool) : Kept (tasks.giveUp taskId failure) := by
  obtain ⟨callbackMap, timerEvents, failed, hpop, hwithout, hfailed⟩ :=
    hkept.popCallback_eq taskId failure
  rw [CallbackTasks.giveUp, hpop]
  dsimp only
  obtain ⟨notified, hnotify, hcount⟩ := hkept.notifyFreeInstallResult_eq taskId
    { tasks with
      callbackMap := callbackMap
      timerEvents := timerEvents
      failed := failed }
  rw [hnotify]
  have hanswered := hkept.answered
  have hsame : ∀ other, failed.count other = tasks.failed.count other := by
    intro other
    rw [hfailed, if_neg, Nat.add_zero]
    rintro ⟨rfl, -, hpending, hmem⟩
    exact hkept.not_mem_of_not_hasMission hpending hmission hmem
  exact {
    room := hkept.room
    pending := fun other item hitem =>
      hkept.pending other item (hwithout.getElem?_eq_some hitem)
    completing := fun _ _ _ hother hcompletes =>
      hkept.completing_without hwithout hother hcompletes
    past := fun other stage id hother hpast hmem =>
      hkept.past other stage id hother hpast ((hwithout.mem_iff id).mp hmem).2
    alone := hkept.alone
    answered := {
      fresh := fun hmem =>
        hanswered.fresh ((hwithout.mem_iff _).mp hmem).2
      notified := by
        intro other
        rw [hwithout.pendingStarts rfl, hanswered.notified]
        dsimp only
        rw [hcount]
        split_ifs <;> rfl
      timers := hwithout.timers
      timed := hwithout.timed
      missions := by
        intro other hmem
        refine (hanswered.missions other hmem).imp_left fun hcontinue => ?_
        refine (hwithout.isContinue_iff other).mpr ⟨?_, hcontinue⟩
        rintro rfl
        exact hmission ⟨hcontinue, hmem⟩
      told := fun other hnot => (hanswered.told other hnot).trans (hsame other).symm
      owing := fun other howing =>
        (hanswered.owing other howing).trans (hsame other).symm } }

theorem giveUp_frame (taskId : Int64) (failure : Bool) :
    (tasks.giveUp taskId failure).inFlight = tasks.inFlight ∧
      (tasks.giveUp taskId failure).continuationMissionMap =
        tasks.continuationMissionMap ∧
      ∀ other : Int64, (tasks.giveUp taskId failure).callbackMap[other]? =
        if taskId = other then none else tasks.callbackMap[other]? := by
  cases hitem : tasks.callbackMap[taskId]? with
  | none =>
      rw [CallbackTasks.giveUp, popCallback, hitem]
      refine ⟨rfl, rfl, fun other => ?_⟩
      by_cases hsame : taskId = other
      · rw [if_pos hsame, ← hsame]
        exact hitem
      · rw [if_neg hsame]
        rfl
  | some item =>
      rw [CallbackTasks.giveUp, popCallback, hitem]
      dsimp only [notifyFreeInstallResult]
      by_cases hnull : item.callback = 0
      · rw [if_pos hnull]
        exact ⟨rfl, rfl, getElem?_erase_eq taskId⟩
      · rw [if_neg hnull]
        exact ⟨rfl, rfl, getElem?_erase_eq taskId⟩

theorem not_mem_giveUp (taskId : Int64) (failure : Bool) :
    taskId ∉ (tasks.giveUp taskId failure).callbackMap := by
  rw [mem_callbackMap_iff, (giveUp_frame taskId failure).2.2, if_pos rfl]
  rintro ⟨_, h⟩
  cases h

theorem HasMission.of_giveUp {other : Int64} {failure : Bool}
    (hmission : (tasks.giveUp taskId failure).HasMission other) :
    tasks.HasMission other := by
  obtain ⟨-, hmissions, hentries⟩ := @giveUp_frame tasks taskId failure
  obtain ⟨⟨item, hitem, hcontinue⟩, hmem⟩ := hmission
  rw [hentries] at hitem
  rw [hmissions] at hmem
  split_ifs at hitem
  exact ⟨⟨item, hitem, hcontinue⟩, hmem⟩

theorem Kept.notifyDeviceOffline (hkept : Kept tasks) {deviceId : Text}
    (hsound : tasks.EventSound (.deviceOffline deviceId)) :
    Kept (tasks.notifyDeviceOffline deviceId) := by
  have hlisted : ∀ entry ∈ tasks.callbackMap.toList.filter
      (·.2.deviceId = deviceId), ¬ tasks.HasMission entry.1 := by
    intro entry hentry
    rw [List.mem_filter, decide_eq_true_eq] at hentry
    exact hsound entry.1 entry.2
      (Std.TreeMap.mem_toList_iff_getElem?_eq_some.mp hentry.1) hentry.2
  unfold CallbackTasks.notifyDeviceOffline
  generalize tasks.callbackMap.toList.filter (·.2.deviceId = deviceId) = entries
    at hlisted
  clear hsound
  induction entries generalizing tasks with
  | nil => exact hkept
  | cons entry entries ih =>
      obtain ⟨hfirst, hrest⟩ := List.forall_mem_cons.mp hlisted
      rw [List.foldl_cons]
      exact ih (hkept.giveUp hfirst true)
        fun other hother hmission => hrest other hother hmission.of_giveUp

end Taken

/-! ## Completions of a continuation -/

section Completions

variable {resultCode : Int32}

theorem IsContinue.not_past (hkept : Kept tasks)
    (hcontinue : tasks.IsContinue taskId) {other : ℕ} {stage : Stage}
    (hother : tasks.inFlight[other]? = some stage) :
    stage.past? ≠ some taskId := by
  intro hpast
  obtain ⟨item, hitem, -⟩ := hcontinue
  exact hkept.past other stage taskId hother hpast
    (mem_callbackMap_iff.mpr ⟨item, hitem⟩)

theorem Kept.owing_iff (hkept : Kept tasks) {stage : Stage}
    (hthread : tasks.inFlight[thread]? = some stage)
    (hcompletes : stage.completes? = some taskId) :
    tasks.Owing taskId ↔ taskId ∈ tasks.continuationMissionMap ∧
      ∃ resultCode, stage = .popped taskId resultCode ∧ resultCode ≠ errOk := by
  refine and_congr_right fun _ => ?_
  constructor
  · rintro ⟨other, resultCode, hother, hfailure⟩
    obtain rfl := hkept.alone thread other stage _ taskId hthread hother
      hcompletes rfl
    exact ⟨resultCode, Option.some.inj (hthread.symm.trans hother), hfailure⟩
  · rintro ⟨resultCode, rfl, hfailure⟩
    exact ⟨thread, resultCode, hthread, hfailure⟩

theorem completes_insert {stage after : Stage}
    (hthread : tasks.inFlight[thread]? = some stage)
    (hcompletes : stage.completes? = some taskId)
    (hafter : after.completes? = some taskId) (other : ℕ) (found : Stage)
    (id : Int64)
    (hfound : (tasks.inFlight.insert thread after)[other]? = some found)
    (hid : found.completes? = some id) :
    ∃ before, tasks.inFlight[other]? = some before ∧
      before.completes? = some id := by
  rw [getElem?_insert_eq] at hfound
  split_ifs at hfound with hsame
  · obtain rfl := Option.some.inj hfound
    rw [hafter] at hid
    obtain rfl := Option.some.inj hid
    exact ⟨stage, hsame ▸ hthread, hcompletes⟩
  · exact ⟨found, hfound, hid⟩

theorem owing_insert_iff {stage after : Stage} {other : Int64}
    (hthread : tasks.inFlight[thread]? = some stage)
    (hbefore : stage.completes? = some taskId)
    (hafter : after.completes? = some taskId) (hother : taskId ≠ other) :
    (∃ (found : ℕ) (resultCode : Int32),
        (tasks.inFlight.insert thread after)[found]? =
          some (.popped other resultCode) ∧ resultCode ≠ errOk) ↔
      ∃ (found : ℕ) (resultCode : Int32),
        tasks.inFlight[found]? = some (.popped other resultCode) ∧
          resultCode ≠ errOk := by
  refine exists_congr fun found => exists_congr fun resultCode =>
    and_congr_left fun _ => ?_
  rw [getElem?_insert_eq]
  split_ifs with hsame
  · subst hsame
    rw [hthread]
    constructor
    · intro heq
      rw [Option.some.inj heq] at hafter
      exact absurd (Option.some.inj hafter).symm hother
    · intro heq
      rw [Option.some.inj heq] at hbefore
      exact absurd (Option.some.inj hbefore).symm hother
  · exact Iff.rfl

section Kept

variable (hkept : Kept tasks)

include hkept

theorem Kept.popped_insert_iff {stage after : Stage}
    (hthread : tasks.inFlight[thread]? = some stage)
    (hcompletes : stage.completes? = some taskId) :
    (∃ (found : ℕ) (resultCode : Int32),
        (tasks.inFlight.insert thread after)[found]? =
          some (.popped taskId resultCode) ∧ resultCode ≠ errOk) ↔
      ∃ resultCode, after = .popped taskId resultCode ∧
        resultCode ≠ errOk := by
  constructor
  · rintro ⟨found, resultCode, hfound, hfailure⟩
    rw [getElem?_insert_eq] at hfound
    split_ifs at hfound with hsame
    · exact ⟨resultCode, Option.some.inj hfound, hfailure⟩
    · exact absurd (hkept.alone thread found stage _ taskId hthread hfound
        hcompletes rfl) hsame
  · rintro ⟨resultCode, rfl, hfailure⟩
    exact ⟨thread, resultCode, by rw [getElem?_insert_eq, if_pos rfl], hfailure⟩

theorem Kept.without (hgone : taskId ∉ tasks.callbackMap) :
    tasks.Without taskId tasks.callbackMap tasks.timerEvents := by
  refine ⟨?_, hkept.answered.timers, hkept.answered.timed⟩
  intro other
  split_ifs with hsame
  · rw [← hsame]
    exact Std.TreeMap.getElem?_eq_none hgone
  · rfl

theorem Kept.advance {stage after : Stage}
    (hthread : tasks.inFlight[thread]? = some stage)
    (hcompletes : stage.completes? = some taskId)
    (hafter : after.past? = some taskId)
    {callbackMap : Std.TreeMap Int64 CallbackTaskItem} {timerEvents : List UInt32}
    {failed told : List Int64}
    (hwithout : tasks.Without taskId callbackMap timerEvents)
    (hothers : ∀ other, taskId ≠ other →
      told.count other = tasks.told.count other ∧
        failed.count other = tasks.failed.count other)
    (hnot : (taskId ∈ tasks.continuationMissionMap → ∀ resultCode,
        after = .popped taskId resultCode → resultCode = errOk) →
      told.count taskId = failed.count taskId)
    (howing : ∀ resultCode, taskId ∈ tasks.continuationMissionMap →
      after = .popped taskId resultCode → resultCode ≠ errOk →
        told.count taskId + 1 = failed.count taskId) :
    Kept { tasks with
      callbackMap := callbackMap
      timerEvents := timerEvents
      failed := failed
      told := told
      inFlight := tasks.inFlight.insert thread after } := by
  have hanswered := hkept.answered
  have hafterCompletes := completes?_of_past? hafter
  have hadvanced := @completes_insert tasks thread taskId stage after hthread
    hcompletes hafterCompletes
  have hnoStart : tasks.pendingStarts taskId = 0 := by
    obtain ⟨-, htyped⟩ := hkept.completing thread stage taskId hthread hcompletes
    rw [CallbackTasks.pendingStarts]
    split
    · next hitem => exact absurd (htyped _ hitem) (by simp)
    · rfl
  have hmove : ∀ other : ℕ, (tasks.inFlight.insert thread after)[other]? =
      if thread = other then some after else tasks.inFlight[other]? :=
    fun other => getElem?_insert_eq thread other after
  exact {
    room := hkept.room
    pending := fun other item hitem =>
      hkept.pending other item (hwithout.getElem?_eq_some hitem)
    completing := by
      intro other found id hother hid
      obtain ⟨before, hbefore, hbeforeId⟩ := hadvanced other found id hother hid
      exact hkept.completing_without hwithout hbefore hbeforeId
    past := by
      intro other found id hother hpast hmem
      obtain ⟨hne, hmem⟩ := (hwithout.mem_iff id).mp hmem
      rcases before_of_moved hmove hother with ⟨-, heq⟩ | hother
      · obtain rfl := Option.some.inj heq
        exact hne (Option.some.inj (hafter.symm.trans hpast))
      · exact hkept.past other found id hother hpast hmem
    alone := by
      intro first other found found' id hfirst hother hid hid'
      obtain ⟨_, hfirst, hid⟩ := hadvanced first found id hfirst hid
      obtain ⟨_, hother, hid'⟩ := hadvanced other found' id hother hid'
      exact hkept.alone first other _ _ id hfirst hother hid hid'
    answered := {
      fresh := fun hmem =>
        hanswered.fresh ((hwithout.mem_iff _).mp hmem).2
      notified := by
        intro other
        rw [hwithout.pendingStarts rfl, hanswered.notified]
        split_ifs with hsame
        · rw [← hsame, hnoStart]
        · rfl
      timers := hwithout.timers
      timed := by
        intro other hmem
        refine (hwithout.timed other hmem).imp_right ?_
        rintro ⟨found, code, launchType, hfound⟩
        by_cases hsame : thread = found
        · subst hsame
          obtain rfl := Option.some.inj (hthread.symm.trans hfound)
          cases launchType with
          | freeInstallStart => cases hcompletes
          | freeInstallContinue =>
              exact absurd (Option.some.inj hcompletes).symm
                ((hwithout.mem_iff _).mp hmem).1
        · refine ⟨found, code, launchType, ?_⟩
          dsimp only
          rw [getElem?_insert_eq, if_neg hsame]
          exact hfound
      missions := by
        intro other hmem
        by_cases hsame : taskId = other
        · subst hsame
          right
          refine ⟨thread, after, ?_, hafter⟩
          dsimp only
          rw [getElem?_insert_eq, if_pos rfl]
        · refine (hanswered.missions other hmem).imp
            (fun h => (hwithout.isContinue_iff other).mpr ⟨hsame, h⟩) ?_
          rintro ⟨found, past, hfound, hpast⟩
          refine ⟨found, past, moved_of_ne hmove hthread hfound ?_, hpast⟩
          rintro rfl
          exact hsame (Option.some.inj
            (hcompletes.symm.trans (completes?_of_past? hpast)))
      told := by
        intro other hnotOwing
        by_cases hsame : taskId = other
        · subst hsame
          refine hnot fun hmem code heq => not_not.mp fun hfailure =>
            hnotOwing ⟨hmem, ?_⟩
          exact (hkept.popped_insert_iff hthread hcompletes).mpr
            ⟨code, heq, hfailure⟩
        · dsimp only
          rw [(hothers other hsame).1, (hothers other hsame).2]
          refine hanswered.told other fun howed => hnotOwing ⟨howed.1, ?_⟩
          exact (owing_insert_iff hthread hcompletes hafterCompletes
            hsame).mpr howed.2
      owing := by
        rintro other ⟨hmem, hpopped⟩
        by_cases hsame : taskId = other
        · subst hsame
          obtain ⟨code, heq, hfailure⟩ :=
            (hkept.popped_insert_iff hthread hcompletes).mp hpopped
          exact howing code hmem heq hfailure
        · dsimp only
          rw [(hothers other hsame).1, (hothers other hsame).2]
          exact hanswered.owing other ⟨hmem, (owing_insert_iff hthread
            hcompletes hafterCompletes hsame).mp hpopped⟩ } }

theorem Kept.popContinue
    (hthread : tasks.inFlight[thread]? =
      some (.typed taskId resultCode .freeInstallContinue)) :
    Kept ((tasks.popCallback taskId (resultCode ≠ errOk)).2.proceed thread
      (.popped taskId resultCode)) := by
  obtain ⟨callbackMap, timerEvents, failed, hpop, hwithout, hfailed⟩ :=
    hkept.popCallback_eq taskId (resultCode ≠ errOk)
  rw [hpop]
  have htold : tasks.told.count taskId = tasks.failed.count taskId := by
    refine hkept.answered.told taskId ?_
    rw [hkept.owing_iff hthread rfl]
    rintro ⟨-, _, heq, -⟩
    cases heq
  -- no other completion is past its pop, so the task of a mission is pending
  have hpending : taskId ∈ tasks.continuationMissionMap →
      taskId ∈ tasks.callbackMap := by
    intro hmem
    rcases hkept.answered.missions taskId hmem with
      ⟨item, hitem, -⟩ | ⟨other, stage, hother, hpast⟩
    · exact mem_callbackMap_iff.mpr ⟨item, hitem⟩
    · obtain rfl := hkept.alone thread other _ stage taskId hthread hother rfl
        (completes?_of_past? hpast)
      obtain rfl := Option.some.inj (hthread.symm.trans hother)
      cases hpast
  refine hkept.advance hthread rfl rfl hwithout ?_ ?_ ?_
  · intro other hsame
    rw [hfailed, if_neg fun h => hsame h.1]
    exact ⟨rfl, rfl⟩
  · intro hsuccess
    rw [hfailed, if_neg, htold, Nat.add_zero]
    rintro ⟨-, hfailure, -, hmem⟩
    exact of_decide_eq_true hfailure (hsuccess hmem resultCode rfl)
  · intro code hmem heq hfailure
    obtain ⟨-, rfl⟩ := Stage.popped.inj heq
    rw [hfailed, if_pos ⟨rfl, decide_eq_true hfailure, hpending hmem, hmem⟩,
      htold]

theorem Kept.lookMission
    (hthread : tasks.inFlight[thread]? = some (.popped taskId resultCode))
    (hfailure : resultCode ≠ errOk) :
    Kept ((tasks.tellMission taskId).proceed thread (.looked taskId)) := by
  have hanswered := hkept.answered
  have hpos : 0 < taskId := Int64.lt_iff_toInt_lt.mpr
    (hkept.completing thread _ taskId hthread rfl).1.1
  have hwithout := hkept.without (hkept.past thread _ taskId hthread rfl)
  by_cases hmem : taskId ∈ tasks.continuationMissionMap
  · have howing := hanswered.owing taskId ((hkept.owing_iff hthread rfl).mpr
      ⟨hmem, resultCode, rfl, hfailure⟩)
    rw [tellMission, if_pos ⟨hpos, hmem⟩]
    refine hkept.advance hthread rfl rfl hwithout ?_ ?_ nofun
    · intro other hsame
      rw [List.count_append]
      simp [hsame]
    · intro _
      rw [List.count_append, ← howing]
      simp
  · rw [tellMission, if_neg fun h => hmem h.2]
    refine hkept.advance hthread rfl rfl hwithout (fun _ _ => ⟨rfl, rfl⟩) ?_ nofun
    exact fun _ => hanswered.told taskId fun howed => hmem howed.1

theorem Kept.popMission {stage : Stage}
    (hthread : tasks.inFlight[thread]? = some stage)
    (hpast : stage.past? = some taskId)
    (hnot : ∀ resultCode, stage = .popped taskId resultCode →
      resultCode = errOk) :
    Kept ((tasks.popContinuationMissionMap taskId).finish thread) := by
  have hanswered := hkept.answered
  have hcompletes := completes?_of_past? hpast
  have hmove : ∀ other : ℕ, (tasks.inFlight.erase thread)[other]? =
      if thread = other then none else tasks.inFlight[other]? :=
    fun other => getElem?_erase_eq thread other
  have hold : ∀ (other : ℕ) (found : Stage),
      (tasks.inFlight.erase thread)[other]? = some found →
        tasks.inFlight[other]? = some found := by
    intro other found hfound
    rcases before_of_moved hmove hfound with ⟨-, heq⟩ | hfound
    · cases heq
    · exact hfound
  have hmissions : ∀ other : Int64,
      other ∈ tasks.continuationMissionMap.erase taskId ↔
        taskId ≠ other ∧ other ∈ tasks.continuationMissionMap := by
    intro other
    rw [Std.TreeMap.mem_erase, ne_eq, ne_eq, Std.compare_eq_iff_eq]
  have hnotOwing : ¬ tasks.Owing taskId := by
    rw [hkept.owing_iff hthread hcompletes]
    rintro ⟨-, resultCode, heq, hfailure⟩
    exact hfailure (hnot resultCode heq)
  dsimp only [popContinuationMissionMap, finish]
  exact { hkept with
    completing := fun other found id hother hid =>
      hkept.completing other found id (hold other found hother) hid
    past := fun other found id hother hid =>
      hkept.past other found id (hold other found hother) hid
    alone := fun first other found found' id hfirst hother hid hid' =>
      hkept.alone first other found found' id (hold first found hfirst)
        (hold other found' hother) hid hid'
    answered := { hanswered with
      timed := by
        intro other hmem
        refine (hanswered.timed other hmem).imp_right ?_
        rintro ⟨found, code, launchType, hfound⟩
        refine ⟨found, code, launchType, moved_of_ne hmove hthread hfound ?_⟩
        rintro rfl
        cases hpast
      missions := by
        intro other hmem
        obtain ⟨hne, hmem⟩ := (hmissions other).mp hmem
        refine (hanswered.missions other hmem).imp_right ?_
        rintro ⟨found, other', hfound, hid⟩
        refine ⟨found, other', moved_of_ne hmove hthread hfound ?_, hid⟩
        rintro rfl
        exact hne (Option.some.inj (hpast.symm.trans hid))
      told := by
        intro other hnotOther
        by_cases hsame : taskId = other
        · exact hsame ▸ hanswered.told taskId hnotOwing
        · refine hanswered.told other fun ⟨hmem, found, code, hfound, hfailure⟩ =>
            hnotOther ⟨(hmissions other).mpr ⟨hsame, hmem⟩, found, code,
              moved_of_ne hmove hthread hfound ?_, hfailure⟩
          rintro rfl
          exact hsame (Option.some.inj hpast).symm
      owing := by
        rintro other ⟨hmem, found, code, hfound, hfailure⟩
        exact hanswered.owing other ⟨((hmissions other).mp hmem).2, found, code,
          hold found _ hfound, hfailure⟩ } }

theorem Kept.proceed_typed {timerEvents : List UInt32}
    (hfree : thread ∉ tasks.inFlight) (halone : tasks.CompletesAlone taskId)
    (hsub : ∀ event ∈ timerEvents, event ∈ tasks.timerEvents)
    (hkeep : ∀ event ∈ tasks.timerEvents, eventTaskId event ≠ taskId →
      event ∈ timerEvents) :
    Kept (proceed thread (.typed taskId resultCode (tasks.getLaunchType taskId))
      { tasks with timerEvents := timerEvents }) := by
  have hanswered := hkept.answered
  have hnone : tasks.inFlight[thread]? = none :=
    Std.TreeMap.getElem?_eq_none hfree
  have hcontinue : tasks.getLaunchType taskId = .freeInstallContinue →
      tasks.IsContinue taskId := by
    intro htype
    unfold getLaunchType at htype
    split_ifs at htype
    split at htype
    · cases htype
    · next item hitem => exact ⟨item, hitem, htype⟩
  generalize tasks.getLaunchType taskId = launchType at hcontinue
  dsimp only [proceed]
  have hmove : ∀ other : ℕ, (tasks.inFlight.insert thread (.typed taskId
      resultCode launchType))[other]? = if thread = other then
        some (.typed taskId resultCode launchType) else tasks.inFlight[other]? :=
    fun other => getElem?_insert_eq thread other _
  have hold : ∀ (other : ℕ) (stage : Stage),
      tasks.inFlight[other]? = some stage →
        (tasks.inFlight.insert thread (.typed taskId resultCode
          launchType))[other]? = some stage := by
    intro other stage hother
    rw [getElem?_insert_eq, if_neg]
    · exact hother
    · rintro rfl
      rw [hnone] at hother
      cases hother
  have hcompletes : ∀ id : Int64,
      (Stage.typed taskId resultCode launchType).completes? = some id →
        taskId = id ∧ tasks.IsContinue taskId := by
    intro id hid
    cases launchType with
    | freeInstallStart => cases hid
    | freeInstallContinue => exact ⟨Option.some.inj hid, hcontinue rfl⟩
  have howing : ∀ other, tasks.Owing other ↔
      other ∈ tasks.continuationMissionMap ∧ ∃ (found : ℕ) (code : Int32),
        (tasks.inFlight.insert thread (.typed taskId resultCode
          launchType))[found]? = some (.popped other code) ∧ code ≠ errOk := by
    refine fun other => and_congr_right fun _ => exists_congr fun found =>
      exists_congr fun code => and_congr_left fun _ => ⟨hold found _, ?_⟩
    intro hfound
    rcases before_of_moved hmove hfound with ⟨-, heq⟩ | hfound
    · cases heq
    · exact hfound
  exact { hkept with
    completing := by
      intro other stage id hother hid
      rcases before_of_moved hmove hother with ⟨-, ⟨⟩⟩ | hother
      · obtain ⟨rfl, item, hitem, htype⟩ := hcompletes id hid
        refine ⟨(hkept.pending taskId item hitem).1, fun found hfound => ?_⟩
        obtain rfl := Option.some.inj (hitem.symm.trans hfound)
        exact htype
      · exact hkept.completing other stage id hother hid
    past := by
      intro other stage id hother hpast
      rcases before_of_moved hmove hother with ⟨-, ⟨⟩⟩ | hother
      · cases hpast
      · exact hkept.past other stage id hother hpast
    alone := by
      intro first other stage found id hfirst hother hid hid'
      rcases before_of_moved hmove hfirst with ⟨hsame, ⟨⟩⟩ | hbefore <;>
        rcases before_of_moved hmove hother with ⟨hsame', ⟨⟩⟩ | hbefore'
      · exact hsame.symm.trans hsame'
      · obtain ⟨rfl, hpending⟩ := hcompletes id hid
        exact absurd hid' (halone hpending other found hbefore')
      · obtain ⟨rfl, hpending⟩ := hcompletes id hid'
        exact absurd hid (halone hpending first stage hbefore)
      · exact hkept.alone first other stage found id hbefore hbefore' hid hid'
    answered := { hanswered with
      timers := fun event hevent => hanswered.timers event (hsub event hevent)
      timed := by
        intro other hmem
        by_cases hsame : other = taskId
        · subst hsame
          refine Or.inr ⟨thread, resultCode, launchType, ?_⟩
          dsimp only
          rw [getElem?_insert_eq, if_pos rfl]
        · refine (hanswered.timed other hmem).imp ?_ ?_
          · rintro ⟨event, hevent, rfl⟩
            exact ⟨event, hkeep event hevent hsame, rfl⟩
          · rintro ⟨found, code, type, hfound⟩
            exact ⟨found, code, type, hold found _ hfound⟩
      missions := fun other hmem =>
        (hanswered.missions other hmem).imp_right
          fun ⟨found, stage, hfound, hpast⟩ =>
            ⟨found, stage, hold found stage hfound, hpast⟩
      told := fun other hnot =>
        hanswered.told other fun h => hnot ((howing other).mp h)
      owing := fun other h => hanswered.owing other ((howing other).mpr h) } }

end Kept

end Completions

/-! ## Requests -/

theorem Kept.setContinuationMissionMap (hkept : Kept tasks) {missionId : Int32}
    (hpending : 0 < missionId → tasks.IsContinue taskId) :
    Kept (tasks.setContinuationMissionMap taskId missionId) := by
  unfold CallbackTasks.setContinuationMissionMap
  split_ifs with hinvalid
  · exact hkept
  · have hcontinue := hpending (Int32.not_le.mp fun h => hinvalid (Or.inr h))
    have hanswered := hkept.answered
    have hmem : ∀ other : Int64, other ∈
        tasks.continuationMissionMap.insertIfNew taskId missionId ↔
          taskId = other ∨ other ∈ tasks.continuationMissionMap := by
      intro other
      rw [Std.TreeMap.mem_insertIfNew, Std.compare_eq_iff_eq]
    have hnotPopped : ¬ ∃ (found : ℕ) (code : Int32),
        tasks.inFlight[found]? = some (.popped taskId code) ∧ code ≠ errOk :=
      fun ⟨_, _, hfound, _⟩ => hcontinue.not_past hkept hfound rfl
    exact { hkept with
      answered := { hanswered with
        missions := by
          intro other hother
          rcases (hmem other).mp hother with rfl | hother
          · exact Or.inl hcontinue
          · exact hanswered.missions other hother
        told := fun other hnot => hanswered.told other fun h =>
          hnot ⟨(hmem other).mpr (Or.inr h.1), h.2⟩
        owing := by
          rintro other ⟨hother, hpopped⟩
          rcases (hmem other).mp hother with rfl | hother
          · exact absurd hpopped hnotPopped
          · exact hanswered.owing other ⟨hother, hpopped⟩ } }

theorem toInt_add_one (hpos : 0 < taskId.toInt)
    (hlt : taskId.toInt < maxTaskId) : (taskId + 1).toInt = taskId.toInt + 1 := by
  unfold maxTaskId at hlt
  rw [Int64.toInt_add, Int64.toInt_one, Int.bmod_def]
  omega

theorem generateTaskId_eq (hroom : tasks.currTaskId.toInt < maxTaskId) :
    tasks.generateTaskId = (tasks.currTaskId,
      { tasks with currTaskId := tasks.currTaskId + 1 }) := by
  have hne : tasks.currTaskId ≠ Int64.maxValue := by
    intro h
    rw [h] at hroom
    exact absurd hroom (by decide)
  rw [generateTaskId, if_neg hne]

section Generated

variable (hkept : Kept tasks) (hroom : tasks.currTaskId.toInt < maxTaskId)

include hkept hroom

theorem IsGiven.succ (hgiven : tasks.IsGiven taskId) :
    0 < taskId.toInt ∧ taskId.toInt < (tasks.currTaskId + 1).toInt := by
  rw [toInt_add_one hkept.room.1 hroom]
  exact ⟨hgiven.1, hgiven.2.trans (lt_add_one _)⟩

theorem Kept.generate : Kept { tasks with currTaskId := tasks.currTaskId + 1 } := by
  have hpos := hkept.room.1
  have hanswered := hkept.answered
  have hnext := toInt_add_one hpos hroom
  exact { hkept with
    room := by
      dsimp only
      rw [hnext]
      omega
    pending := fun id item hitem =>
      ⟨(hkept.pending id item hitem).1.succ hkept hroom,
        (hkept.pending id item hitem).2⟩
    completing := fun other stage id hother hid =>
      ⟨(hkept.completing other stage id hother hid).1.succ hkept hroom,
        (hkept.completing other stage id hother hid).2⟩
    answered := { hanswered with
      fresh := by
        intro hmem
        obtain ⟨item, hitem⟩ := mem_callbackMap_iff.mp hmem
        have hlt := (hkept.pending _ item hitem).1.2
        dsimp only at hlt
        omega } }

theorem Kept.push {item : CallbackTaskItem}
    (hcallback : item.launchType = .freeInstallStart → item.callback ≠ 0) :
    Kept { tasks with
      currTaskId := tasks.currTaskId + 1
      callbackMap := tasks.callbackMap.insert tasks.currTaskId item
      timerEvents := tasks.timerEvents ++ [innerEventId tasks.currTaskId]
      started :=
        if item.launchType = .freeInstallStart then
          tasks.started ++ [tasks.currTaskId]
        else tasks.started } := by
  have hgenerated := hkept.generate hroom
  have hanswered := hkept.answered
  have hnot := hanswered.fresh
  have hnew : eventTaskId (innerEventId tasks.currTaskId) = tasks.currTaskId :=
    eventTaskId_innerEventId hkept.room.1 hroom
  have hmem : ∀ other : Int64,
      other ∈ tasks.callbackMap.insert tasks.currTaskId item ↔
        tasks.currTaskId = other ∨ other ∈ tasks.callbackMap := by
    intro other
    rw [Std.TreeMap.mem_insert, Std.compare_eq_iff_eq]
  have hentries : ∀ (other : Int64) (found : CallbackTaskItem),
      (tasks.callbackMap.insert tasks.currTaskId item)[other]? = some found →
        (tasks.currTaskId = other ∧ found = item) ∨
          tasks.callbackMap[other]? = some found := by
    intro other found hfound
    rw [getElem?_insert_eq] at hfound
    split_ifs at hfound with hsame
    · exact Or.inl ⟨hsame, (Option.some.inj hfound).symm⟩
    · exact Or.inr hfound
  have hgivenNe : ∀ other, tasks.IsGiven other → tasks.currTaskId ≠ other := by
    rintro other hgiven rfl
    exact lt_irrefl _ hgiven.2
  have hnext := toInt_add_one hkept.room.1 hroom
  exact { hgenerated with
    pending := by
      intro other found hfound
      rcases hentries other found hfound with ⟨rfl, rfl⟩ | hfound
      · refine ⟨⟨hkept.room.1, ?_⟩, hcallback⟩
        dsimp only
        omega
      · exact hgenerated.pending other found hfound
    completing := by
      intro other stage id hother hid
      obtain ⟨hgiven, hitems⟩ := hkept.completing other stage id hother hid
      refine ⟨hgiven.succ hkept hroom, fun found hfound => ?_⟩
      rcases hentries id found hfound with ⟨rfl, -⟩ | hfound
      · exact absurd rfl (hgivenNe _ hgiven)
      · exact hitems found hfound
    past := by
      intro other stage id hother hpast hpending
      obtain ⟨hgiven, -⟩ := hkept.completing other stage id hother
        (completes?_of_past? hpast)
      rcases (hmem id).mp hpending with rfl | hpending
      · exact absurd rfl (hgivenNe _ hgiven)
      · exact hkept.past other stage id hother hpast hpending
    answered := { hgenerated.answered with
      fresh := by
        intro hpending
        rcases (hmem _).mp hpending with hsame | hpending
        · have hint := congrArg Int64.toInt hsame
          dsimp only at hint
          omega
        · exact hgenerated.answered.fresh hpending
      notified := by
        intro other
        have hcount := hanswered.notified other
        have hbefore : tasks.currTaskId = other → tasks.pendingStarts other = 0 := by
          rintro rfl
          rw [CallbackTasks.pendingStarts,
            Std.TreeMap.getElem?_eq_none hnot]
        dsimp only [CallbackTasks.pendingStarts] at hcount hbefore ⊢
        rw [getElem?_insert_eq]
        rcases item with ⟨callback, launchType, deviceId⟩
        by_cases hsame : tasks.currTaskId = other
        · rw [if_pos hsame]
          rw [hbefore hsame, Nat.add_zero] at hcount
          cases launchType with
          | freeInstallStart =>
              rw [if_pos rfl, List.count_append, hcount, ← hsame]
              simp
          | freeInstallContinue =>
              rw [if_neg (by simp), hcount]
              rfl
        · rw [if_neg hsame, ← hcount]
          split_ifs
          · simp [List.count_append, hsame]
          · rfl
      timers := by
        intro event hevent
        rcases List.mem_append.mp hevent with hevent | hevent
        · exact (hmem _).mpr (Or.inr (hanswered.timers event hevent))
        · rw [List.mem_singleton.mp hevent, hnew]
          exact (hmem _).mpr (Or.inl rfl)
      timed := by
        intro other hpending
        rcases (hmem other).mp hpending with rfl | hpending
        · exact Or.inl ⟨_, List.mem_append.mpr
            (Or.inr (List.mem_singleton.mpr rfl)), hnew⟩
        · refine (hanswered.timed other hpending).imp_left ?_
          rintro ⟨event, hevent, hid⟩
          exact ⟨event, List.mem_append_left _ hevent, hid⟩
      missions := by
        intro other hmission
        refine (hanswered.missions other hmission).imp_left ?_
        rintro ⟨found, hfound, htype⟩
        refine ⟨found, ?_, htype⟩
        dsimp only
        rw [getElem?_insert_eq, if_neg]
        · exact hfound
        · rintro rfl
          exact hnot (mem_callbackMap_iff.mpr ⟨found, hfound⟩) } }

theorem Kept.pushCallback (item : CallbackTaskItem) (sendEvent : Bool) :
    let pushed := { tasks with currTaskId := tasks.currTaskId + 1 }.pushCallback
      tasks.currTaskId item sendEvent
    Kept pushed.2 ∧ pushed.2.inFlight = tasks.inFlight := by
  have hgenerated := hkept.generate hroom
  unfold CallbackTasks.pushCallback
  by_cases hinvalid : tasks.currTaskId ≤ 0
  · rw [if_pos hinvalid]
    exact ⟨hgenerated, rfl⟩
  · rw [if_neg hinvalid]
    by_cases hnull : item.launchType = .freeInstallStart ∧ item.callback = 0
    · rw [if_pos hnull]
      exact ⟨hgenerated, rfl⟩
    · rw [if_neg hnull, if_neg hkept.answered.fresh]
      cases sendEvent with
      | false => exact ⟨hgenerated, rfl⟩
      | true =>
          exact ⟨hkept.push hroom fun htype hcallback =>
            hnull ⟨htype, hcallback⟩, rfl⟩

end Generated

theorem Kept.startRemoteFreeInstall (hkept : Kept tasks)
    {request : FreeInstallRequest}
    (hsound : tasks.EventSound (.start thread request))
    (hfree : thread ∉ tasks.inFlight) :
    Kept (tasks.startRemoteFreeInstall thread request) := by
  unfold CallbackTasks.startRemoteFreeInstall
  split_ifs with hrefused
  · exact hkept
  · rw [not_or, Bool.not_eq_true', Bool.not_eq_true', Bool.not_eq_false,
      Bool.not_eq_false] at hrefused
    have hroom := hsound hfree hrefused.1 hrefused.2
    rw [generateTaskId_eq hroom]
    dsimp only
    obtain ⟨hpushed, hinFlight⟩ := hkept.pushCallback hroom
      { callback := request.callback
        launchType := LaunchType.ofFlag request.flagAbilityContinuation
        deviceId := request.deviceId } request.sendEvent
    have hnone := Std.TreeMap.getElem?_eq_none hfree
    rw [← hinFlight] at hnone
    split_ifs
    · exact hpushed
    all_goals
      refine hpushed.move (fun other => getElem?_insert_eq thread other _)
        (fun found hfound => ?_) (fun id code type hfound => ?_)
        fun found hfound => ?_
      · rw [hnone] at hfound
        cases hfound
      · rw [hnone] at hfound
        cases hfound
      · rw [← Option.some.inj hfound]
        rfl

/-! ## Runs -/

theorem Kept.finish (hkept : Kept tasks) {stage : Stage}
    (hthread : tasks.inFlight[thread]? = some stage)
    (hidle : stage.completes? = none)
    (hgone : ∀ taskId resultCode launchType,
      stage = .typed taskId resultCode launchType →
        taskId ∉ tasks.callbackMap) : Kept (tasks.finish thread) := by
  have hmove : ∀ other : ℕ, (tasks.inFlight.erase thread)[other]? =
      if thread = other then none else tasks.inFlight[other]? :=
    getElem?_erase_eq thread
  refine hkept.move hmove ?_ ?_ nofun
  · intro found hfound
    obtain rfl := Option.some.inj (hthread.symm.trans hfound)
    exact hidle
  · intro id code type hfound
    exact hgone id code type (Option.some.inj (hthread.symm.trans hfound))

theorem Kept.next (hkept : Kept tasks) {event : TaskEvent}
    (hsound : tasks.EventSound event) : Kept (tasks.next event) := by
  cases event with
  | start thread request =>
      dsimp only [CallbackTasks.next]
      split_ifs with hbusy
      · exact hkept
      · exact hkept.startRemoteFreeInstall hsound hbusy
  | setMission thread =>
      dsimp only [CallbackTasks.next]
      split
      · next taskId missionId hthread =>
          have hset := hkept.setContinuationMissionMap
            (hsound taskId missionId hthread)
          have hinFlight : (tasks.setContinuationMissionMap taskId
              missionId).inFlight = tasks.inFlight := by
            unfold CallbackTasks.setContinuationMissionMap
            split_ifs <;> rfl
          rw [← hinFlight] at hthread
          refine hset.move
            (fun other => getElem?_insert_eq thread other _) ?_ ?_ ?_
          · intro found hfound
            obtain rfl := Option.some.inj (hthread.symm.trans hfound)
            rfl
          · intro id code type hfound
            cases Option.some.inj (hthread.symm.trans hfound)
          · intro found hfound
            rw [← Option.some.inj hfound]
            rfl
      · exact hkept
  | answer thread answer =>
      dsimp only [CallbackTasks.next]
      split
      · next taskId hthread =>
          cases answer with
          | noCallerInfo => exact hkept.finish hthread rfl nofun
          | noAccountInfo => exact hkept.finish hthread rfl nofun
          | remote result =>
              dsimp only
              split_ifs with hresult
              · have hgiven := hkept.giveUp (hsound hresult taskId hthread) true
                rw [← (@giveUp_frame tasks taskId true).1] at hthread
                exact hgiven.finish hthread rfl nofun
              · exact hkept.finish hthread rfl nofun
      · exact hkept
  | complete thread taskId resultCode =>
      dsimp only [CallbackTasks.next]
      split_ifs with hbusy
      · exact hkept
      · exact hkept.proceed_typed hbusy (hsound hbusy) (fun _ => id)
          fun event hevent _ => hevent
  | timeout thread event freeInstallTimeout hfailure =>
      dsimp only [CallbackTasks.next]
      split_ifs with hbusy hinvalid
      · exact hkept
      · rw [not_or, not_not] at hbusy
        obtain ⟨item, hitem⟩ := mem_callbackMap_iff.mp
          (hkept.answered.timers event hbusy.2)
        have hpos := (hkept.pending _ item hitem).1.1
        exact absurd (Int64.le_iff_toInt_le.mp hinvalid) (not_le.mpr hpos)
      · rw [not_or, not_not] at hbusy
        refine hkept.proceed_typed hbusy.1 (hsound hbusy.1 hbusy.2)
          (fun _ => List.mem_of_mem_erase) ?_
        intro other hother hne
        refine (List.mem_erase_of_ne ?_).mpr hother
        rintro rfl
        exact hne rfl
  | pop thread =>
      dsimp only [CallbackTasks.next]
      split
      · next taskId resultCode hthread =>
          have hgiven := hkept.giveUp (hsound taskId resultCode hthread)
            (resultCode ≠ errOk)
          rw [← (@giveUp_frame tasks taskId (resultCode ≠ errOk)).1] at hthread
          refine hgiven.finish hthread rfl ?_
          rintro id code type heq
          obtain ⟨rfl, -, -⟩ := Stage.typed.inj heq
          exact not_mem_giveUp taskId _
      · next taskId resultCode hthread => exact hkept.popContinue hthread
      · exact hkept
  | lookMission thread =>
      dsimp only [CallbackTasks.next]
      split
      · next taskId resultCode hthread =>
          split_ifs with hfailure
          · exact hkept.lookMission hthread hfailure
          · refine hkept.popMission hthread rfl fun code heq => ?_
            rw [← (Stage.popped.inj heq).2]
            exact not_not.mp hfailure
      · exact hkept
  | popMission thread =>
      dsimp only [CallbackTasks.next]
      split
      · next taskId hthread => exact hkept.popMission hthread rfl nofun
      · exact hkept
  | deviceOffline deviceId => exact hkept.notifyDeviceOffline hsound

theorem kept_initial : Kept {} where
  room := by decide
  pending _ _ := nofun
  completing _ _ _ := nofun
  past _ _ _ := nofun
  alone _ _ _ _ _ := nofun
  answered := {
    fresh := Std.TreeMap.not_mem_emptyc
    notified := fun _ => rfl
    timers := nofun
    timed := fun _ hmem => absurd hmem Std.TreeMap.not_mem_emptyc
    missions := fun _ hmem => absurd hmem Std.TreeMap.not_mem_emptyc
    told := fun _ _ => rfl
    owing := fun _ howing => absurd howing.1 Std.TreeMap.not_mem_emptyc }

end Steps

/-- In a run of sound sections every task is answered once and leaves nothing
behind. -/
theorem answered_run {events : List TaskEvent}
    (hmeets : Meets step EventSound {} events) (first : List TaskEvent)
    (hfirst : first <+: events) : (run step {} first).2.Answered := by
  have hkept : Kept (run step {} first).2 :=
    (hmeets.of_prefix hfirst).invariant
      (fun _ _ hkept hsound => hkept.next hsound) kept_initial
  exact hkept.answered

def failedStart : List TaskEvent :=
  [.start 1 { localDeviceId := some ['a'], deviceId := ['b'], callback := 9 },
    .answer 1 (.remote invalidParametersErr)]

theorem answered_failedStart : (run step {} failedStart).2.Answered := by
  have hmeets : Meets step EventSound {} failedStart := by
    refine ⟨fun _ _ _ => by decide, ?_, trivial⟩
    rintro - taskId - ⟨-, hmission⟩
    exact absurd hmission Std.TreeMap.not_mem_emptyc
  exact answered_run hmeets failedStart List.prefix_rfl

def offlineContinuation : List TaskEvent :=
  [.start 1 {
      localDeviceId := some ['a']
      deviceId := ['b']
      flagAbilityContinuation := true
      sessionId := 7 },
    .setMission 1, .answer 1 (.remote errOk), .deviceOffline ['b']]

theorem not_answered_offlineContinuation :
    ¬ (run step {} offlineContinuation).2.Answered := by
  intro hanswered
  have hmission : (1 : Int64) ∈
      (run step {} offlineContinuation).2.continuationMissionMap := by
    decide +kernel
  have hidle : (run step {} offlineContinuation).2.inFlight.keys = [] := by
    decide +kernel
  have hgone : (1 : Int64) ∉
      (run step {} offlineContinuation).2.callbackMap := by
    decide +kernel
  rcases hanswered.missions 1 hmission with
    ⟨item, hitem, -⟩ | ⟨thread, stage, hthread, -⟩
  · exact hgone (mem_callbackMap_iff.mpr ⟨item, hitem⟩)
  · rw [Std.TreeMap.getElem?_eq_none] at hthread
    · cases hthread
    · rw [← Std.TreeMap.mem_keys, hidle]
      exact List.not_mem_nil

end CallbackTasks

end FreeInstallTasks

end Dmsfwk
