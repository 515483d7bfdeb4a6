import Dmsfwk.ContinueCounters

/-!
# The timeouts of continuations

The manager posts the timeout of a continuation under a name, and removes it by
that name when the continuation ends.  The name shows the ids of the devices in
an anonymous form and the type, while the key of the map has the whole ids and
no type, so two continuations of the map may share a name.
-/

namespace Dmsfwk

/-! ## The name of a timeout -/

def int32ShortIdLen : ℕ := 20
def int32MinIdLen : ℕ := 6
def int32PlaintextLen : ℕ := 4

def getAnonymStr (value : Text) : Text :=
  if value.length < int32MinIdLen then "******".toList
  else if value.length ≤ int32ShortIdLen then
    value.take 1 ++ "******".toList ++ value.drop (value.length - 1)
  else
    value.take int32PlaintextLen ++ "******".toList ++
      value.drop (value.length - int32PlaintextLen)

def DSchedContinueInfo.toStringIgnoreMissionId (info : DSchedContinueInfo) :
    Text :=
  "SrcDevId: ".toList ++ getAnonymStr info.sourceDeviceId ++ " ".toList ++
    "SrcBundle: ".toList ++ info.sourceBundleName ++ " ".toList ++
    "DstDevId: ".toList ++ getAnonymStr info.sinkDeviceId ++ " ".toList ++
    "DstBundle: ".toList ++ info.sinkBundleName ++ " ".toList ++
    "ContiType: ".toList ++ info.continueType

namespace ContinueManager

/-! ## The timeouts of the manager -/

def continueTimeout : ℤ := 10000

structure TimeoutTask where
  name : Text
  info : DSchedContinueInfo
  deriving DecidableEq

structure TimedManager where
  manager : Manager
  timeouts : List TimeoutTask

/-- A task of the manager, with the decision about the peer which a request
waits for, or the timeout at an index, which only posts to its continuation. -/
inductive TimedTask where
  | task (task : Task) (peerConnectDecision : Option Bool)
  | timeout (index : ℕ)

namespace TimedManager

def initial : TimedManager := ⟨.initial, []⟩

def setTimeOut (info : DSchedContinueInfo) (timeout : ℤ)
    (timeouts : List TimeoutTask) : List TimeoutTask :=
  let name := if timeout > 0 then info.toStringIgnoreMissionId else []
  timeouts ++ [⟨name, info⟩]

def waitAllConnectDecision (peerConnectDecision : Option Bool)
    (info : DSchedContinueInfo) (timeout : ℤ) (timeouts : List TimeoutTask) :
    List TimeoutTask :=
  match peerConnectDecision with
  | none => setTimeOut info 0 timeouts
  | some false => setTimeOut info 0 timeouts
  | some true => setTimeOut info timeout timeouts

def removeTimeout (info : DSchedContinueInfo) (task : TimeoutTask) : Bool :=
  task.name = info.toStringIgnoreMissionId

def ownTimeout (info : DSchedContinueInfo) (task : TimeoutTask) : Bool :=
  task.info.compareInfo = info.compareInfo

def timeoutsAfter (removed : DSchedContinueInfo → TimeoutTask → Bool)
    (timed : TimedManager) (peerConnectDecision : Option Bool) :
    Task → Outcome → List TimeoutTask
  | .continueMission .., .created info
  | .continueMissionById .., .created info =>
      waitAllConnectDecision peerConnectDecision info continueTimeout
        timed.timeouts
  | .continueEnd info _, _ =>
      if (timed.manager.continues[info.compareInfo]?).isNone then
        timed.timeouts
      else timed.timeouts.filter fun task => !removed info task
  | _, _ => timed.timeouts

/-- The manager goes on with the timeouts which are left, and with each end
those are removed which `removed` says. -/
def step (localDevId : Text)
    (removed : DSchedContinueInfo → TimeoutTask → Bool) (timed : TimedManager) :
    TimedTask → List TimeoutTask × TimedManager
  | .timeout index =>
      let timeouts := timed.timeouts.eraseIdx index
      (timeouts, ⟨timed.manager, timeouts⟩)
  | .task task peerConnectDecision =>
      let next := timed.manager.step localDevId task
      let timeouts :=
        timed.timeoutsAfter removed peerConnectDecision task next.1
      (timeouts, ⟨next.2, timeouts⟩)

/-- When a registered continuation ends, the timeouts with its name are those of
its key. -/
def Separated (timed : TimedManager) : TimedTask → Prop
  | .task (.continueEnd info _) _ =>
      (timed.manager.continues[info.compareInfo]?).isSome →
        ∀ task ∈ timed.timeouts, task.name = info.toStringIgnoreMissionId ↔
          task.info.compareInfo = info.compareInfo
  | _ => True

instance (timed : TimedManager) : DecidablePred timed.Separated := by
  intro task
  unfold Separated
  split <;> infer_instance

/-! ## Runs with the timeouts which are promised -/

section Runs

variable {localDevId : Text} {timed : TimedManager}
  {removed other : DSchedContinueInfo → TimeoutTask → Bool}

theorem filter_eq_filter_iff {α : Type*} {tasks : List α}
    {first second : α → Bool} :
    tasks.filter first = tasks.filter second ↔
      ∀ task ∈ tasks, first task = second task := by
  constructor
  · intro hfilter task htask
    have hmem : task ∈ tasks.filter first ↔ task ∈ tasks.filter second := by
      rw [hfilter]
    rw [Bool.eq_iff_iff]
    simpa [htask] using hmem
  · exact List.filter_congr

theorem timeoutsAfter_eq_iff (peerConnectDecision : Option Bool) (task : Task)
    (outcome : Outcome) :
    timed.timeoutsAfter removeTimeout peerConnectDecision task outcome =
        timed.timeoutsAfter ownTimeout peerConnectDecision task outcome ↔
      timed.Separated (.task task peerConnectDecision) := by
  cases task with
  | continueEnd info getLocalDeviceId =>
      simp only [timeoutsAfter, Separated]
      cases hentry : timed.manager.continues[info.compareInfo]? with
      | none => simp
      | some entry =>
          rw [if_neg (by simp), if_neg (by simp), filter_eq_filter_iff]
          simp [removeTimeout, ownTimeout]
  | continueMission callback info answers =>
      refine iff_of_true ?_ trivial
      cases outcome <;> rfl
  | continueMissionById callback srcDeviceId dstDeviceId missionId
      getLocalDeviceId answers =>
      refine iff_of_true ?_ trivial
      cases outcome <;> rfl
  | connected compareInfo sessionId => exact iff_of_true rfl trivial
  | dataRecv sessionId start answers => exact iff_of_true rfl trivial

theorem step_output_iff (task : TimedTask) :
    (step localDevId removeTimeout timed task).1 =
        (step localDevId ownTimeout timed task).1 ↔
      timed.Separated task := by
  cases task with
  | task task peerConnectDecision => exact timeoutsAfter_eq_iff _ _ _
  | timeout index => exact iff_of_true rfl trivial

theorem step_next (task : TimedTask) (hseparated : timed.Separated task) :
    (step localDevId removeTimeout timed task).2 =
      (step localDevId ownTimeout timed task).2 := by
  have houtput := (@step_output_iff localDevId timed task).mpr hseparated
  cases task with
  | task task peerConnectDecision =>
      exact congrArg (TimedManager.mk _) houtput
  | timeout index => rfl

end Runs

/-! ## What the name shows -/

structure Spaceless (info : DSchedContinueInfo) : Prop where
  sourceDeviceId : ' ' ∉ info.sourceDeviceId
  sourceBundleName : ' ' ∉ info.sourceBundleName
  sinkDeviceId : ' ' ∉ info.sinkDeviceId
  sinkBundleName : ' ' ∉ info.sinkBundleName

theorem space_notMem_getAnonymStr {value : Text} (hvalue : ' ' ∉ value) :
    ' ' ∉ getAnonymStr value := by
  have hmask : ' ' ∉ "******".toList := by decide
  have htake : ∀ n, ' ' ∉ value.take n :=
    fun n hmem => hvalue (List.mem_of_mem_take hmem)
  have hdrop : ∀ n, ' ' ∉ value.drop n :=
    fun n hmem => hvalue (List.mem_of_mem_drop hmem)
  unfold getAnonymStr
  split_ifs
  · exact hmask
  · simp only [List.mem_append, not_or]
    exact ⟨⟨htake _, hmask⟩, hdrop _⟩
  · simp only [List.mem_append, not_or]
    exact ⟨⟨htake _, hmask⟩, hdrop _⟩

theorem field_inj {field other rest more : Text} (hfield : ' ' ∉ field)
    (hother : ' ' ∉ other) :
    field ++ ' ' :: rest = other ++ ' ' :: more ↔
      field = other ∧ rest = more := by
  induction field generalizing other with
  | nil =>
      cases other with
      | nil => simp
      | cons char other =>
          have hchar : ' ' ≠ char :=
            fun heq => hother (heq ▸ List.mem_cons_self)
          simp [hchar]
  | cons char field ih =>
      cases other with
      | nil =>
          have hchar : char ≠ ' ' :=
            fun heq => hfield (heq ▸ List.mem_cons_self)
          simp [hchar]
      | cons next other =>
          have hrest := ih (fun hmem => hfield (List.mem_cons_of_mem _ hmem))
            (fun hmem => hother (List.mem_cons_of_mem _ hmem))
          simp only [List.cons_append, List.cons.injEq, hrest, and_assoc]

theorem toStringIgnoreMissionId_eq_iff {info other : DSchedContinueInfo}
    (hinfo : Spaceless info) (hother : Spaceless other) :
    info.toStringIgnoreMissionId = other.toStringIgnoreMissionId ↔
      getAnonymStr info.sourceDeviceId = getAnonymStr other.sourceDeviceId ∧
      info.sourceBundleName = other.sourceBundleName ∧
      getAnonymStr info.sinkDeviceId = getAnonymStr other.sinkDeviceId ∧
      info.sinkBundleName = other.sinkBundleName ∧
      info.continueType = other.continueType := by
  have hspace : " ".toList = [' '] := rfl
  unfold DSchedContinueInfo.toStringIgnoreMissionId
  simp only [hspace, List.append_assoc, List.cons_append, List.nil_append,
    List.append_cancel_left_eq,
    field_inj (space_notMem_getAnonymStr hinfo.sourceDeviceId)
      (space_notMem_getAnonymStr hother.sourceDeviceId),
    field_inj hinfo.sourceBundleName hother.sourceBundleName,
    field_inj (space_notMem_getAnonymStr hinfo.sinkDeviceId)
      (space_notMem_getAnonymStr hother.sinkDeviceId),
    field_inj hinfo.sinkBundleName hother.sinkBundleName]

/-! ## Ends of continuations -/

theorem timeouts_run_iff (localDevId : Text) (tasks : List TimedTask) :
    ((EventRun.run (step localDevId removeTimeout) initial tasks).1 =
        (EventRun.run (step localDevId ownTimeout) initial tasks).1 ↔
      EventRun.Meets (step localDevId ownTimeout) Separated initial tasks) ∧
    ∀ info other : DSchedContinueInfo, Spaceless info → Spaceless other →
      (info.toStringIgnoreMissionId = other.toStringIgnoreMissionId ↔
        getAnonymStr info.sourceDeviceId = getAnonymStr other.sourceDeviceId ∧
        info.sourceBundleName = other.sourceBundleName ∧
        getAnonymStr info.sinkDeviceId = getAnonymStr other.sinkDeviceId ∧
        info.sinkBundleName = other.sinkBundleName ∧
        info.continueType = other.continueType) := by
  constructor
  · refine EventRun.run_outputs_eq_iff ?_ ?_ tasks rfl
    · rintro timed _ task rfl
      exact step_output_iff task
    · rintro timed _ task rfl hseparated
      exact step_next task hseparated
  · exact fun info other => toStringIgnoreMissionId_eq_iff

def startedByPeer : DSchedContinueInfo where
  sourceDeviceId := "7c1e4a0b9d2f6385a1b2c3d4".toList
  sourceBundleName := "notes".toList
  sinkDeviceId := "self".toList
  sinkBundleName := "notes".toList
  continueType := "page".toList

def pulledFromOther : DSchedContinueInfo :=
  { startedByPeer with
    sourceDeviceId := "7c1e550f6b83ad2e9c41c3d4".toList }

/-- The end of the only continuation removes its timeout, and the name of this
timeout is the one of a continuation from another device. -/
theorem timeouts_run_pulled :
    (EventRun.run (step "self".toList removeTimeout) initial
        [.task (.continueMission true pulledFromOther {}) (some true),
          .task (.continueEnd pulledFromOther true) none]).1 =
      (EventRun.run (step "self".toList ownTimeout) initial
        [.task (.continueMission true pulledFromOther {}) (some true),
          .task (.continueEnd pulledFromOther true) none]).1 ∧
    startedByPeer.toStringIgnoreMissionId =
      pulledFromOther.toStringIgnoreMissionId :=
  ⟨(timeouts_run_iff _ _).1.mpr (by decide +kernel),
    ((timeouts_run_iff [] []).2 _ _ ⟨by decide, by decide, by decide, by decide⟩
      ⟨by decide, by decide, by decide, by decide⟩).mpr (by decide)⟩

def otherPeerTasks : List TimedTask :=
  [.task (.dataRecv 1 (some startedByPeer) {}) none,
    .task (.continueMission true pulledFromOther {}) (some true),
    .task (.continueEnd startedByPeer true) none]

/-- One peer starts a continuation, the user pulls from another one, and the end
of the first continuation removes the timeout of the second one. -/
theorem not_timeouts_run_otherPeer :
    let timeout : TimeoutTask :=
      ⟨pulledFromOther.toStringIgnoreMissionId, pulledFromOther⟩
    startedByPeer.compareInfo ≠ pulledFromOther.compareInfo ∧
    (EventRun.run (step "self".toList removeTimeout) initial
      otherPeerTasks).1 = [[], [timeout], []] ∧
    (EventRun.run (step "self".toList ownTimeout) initial
      otherPeerTasks).1 = [[], [timeout], [timeout]] := by
  decide +kernel

end TimedManager

end ContinueManager

end Dmsfwk
