import Dmsfwk.DSchedContinueManager
import Dmsfwk.EventRun

/-!
# The counters of continuations

The limit check trusts two counters.  They count the registered continuations
as long as every task which registers one also counts it and every task which
removes one takes it off the counter it was counted in.
-/

namespace Dmsfwk
namespace ContinueManager

open Continuation OrderedMap

/-! ## Runs of the manager -/

inductive Task where
  | continueMission (callback : Bool) (info : DSchedContinueInfo)
      (answers : Answers)
  | continueMissionById (callback : Bool) (srcDeviceId dstDeviceId : Text)
      (missionId : ℤ) (getLocalDeviceId : Bool) (answers : Answers)
  | connected (compareInfo : Text) (sessionId : ℤ)
  | dataRecv (sessionId : ℤ) (start : Option DSchedContinueInfo)
      (answers : Answers)
  | continueEnd (info : DSchedContinueInfo) (getLocalDeviceId : Bool)

namespace Manager

def step (localDevId : Text) (manager : Manager) : Task → Outcome × Manager
  | .continueMission callback info answers =>
      manager.handleContinueMission localDevId answers
        (requestByBundle callback info)
  | .continueMissionById callback srcDeviceId dstDeviceId missionId
      getLocalDeviceId answers =>
      manager.handleContinueMission localDevId answers
        (requestById localDevId getLocalDeviceId answers callback srcDeviceId
          dstDeviceId missionId)
  | .connected compareInfo sessionId =>
      (.ignored, manager.setSession compareInfo sessionId)
  | .dataRecv sessionId start answers =>
      manager.notifyContinueDataRecv localDevId answers sessionId start
  | .continueEnd info getLocalDeviceId =>
      (.ignored, manager.handleContinueEnd localDevId getLocalDeviceId info)

def role (localDevId : Text) (info : DSchedContinueInfo) : Option Direction :=
  if info.sinkDeviceId = localDevId then some .sink
  else if info.sourceDeviceId = localDevId then some .source
  else none

def running (localDevId : Text) (direction : Direction) (manager : Manager) :
    ℕ :=
  count manager.continues fun entry =>
    role localDevId entry.info = some direction

/-- The counters count, so they keep the limits and free them again. -/
structure Counts (localDevId : Text) (manager : Manager) : Prop where
  sink : manager.cntSink = running localDevId .sink manager
  source : manager.cntSource = running localDevId .source manager
  sinkNonneg : 0 ≤ manager.cntSink
  sourceNonneg : 0 ≤ manager.cntSource
  sinkLimit : (running localDevId .sink manager : ℤ) ≤ maxConcurrentSink
  sourceLimit : (running localDevId .source manager : ℤ) ≤ maxConcurrentSource
  idle : manager.continues.isEmpty → ∀ answers srcDeviceId dstDeviceId,
    manager.checkContinuationLimit localDevId answers srcDeviceId
      dstDeviceId ≠ .error continueAlreadyInProgress

/-! ## Counted tasks -/

def NewRequest (localDevId : Text) (answers : Answers) (manager : Manager)
    (request : Option DSchedContinueInfo) : Prop :=
  ∀ info ∈ request,
    ∀ direction ∈ (manager.checkContinuationLimit localDevId answers
        info.sourceDeviceId info.sinkDeviceId).toOption,
      manager.continues[
        (fillSourceBundle answers direction info).compareInfo]? = none

/-- No request is made for a registered continuation, no start command registers
one, and a continuation is removed when the local device is known and has the
role it was registered with. -/
def Counted (localDevId : Text) (manager : Manager) : Task → Prop
  | .continueMission callback info answers =>
      manager.NewRequest localDevId answers (requestByBundle callback info)
  | .continueMissionById callback srcDeviceId dstDeviceId missionId
      getLocalDeviceId answers =>
      manager.NewRequest localDevId answers
        (requestById localDevId getLocalDeviceId answers callback srcDeviceId
          dstDeviceId missionId)
  | .dataRecv sessionId (some info) answers =>
      manager.findSession sessionId = none →
      ∀ _direction ∈ (manager.checkContinuationLimit localDevId answers
          info.sourceDeviceId info.sinkDeviceId).toOption,
        (manager.continues[(DSchedContinue.fillBundleNames
          answers.getMissionInfo info).compareInfo]?).isSome
  | .continueEnd info getLocalDeviceId =>
      ∀ entry ∈ manager.continues[info.compareInfo]?,
        getLocalDeviceId = true ∧
          role localDevId info = role localDevId entry.info
  | _ => True

instance (localDevId : Text) (manager : Manager) :
    DecidablePred (manager.Counted localDevId) := by
  intro task
  unfold Counted NewRequest
  split <;> infer_instance

/-! ## One task -/

section Tasks

variable {localDevId : Text} {answers : Answers} {manager : Manager}
  {direction : Direction} {srcDeviceId dstDeviceId : Text}

theorem checkContinuationLimit_ok
    (hcheck : manager.checkContinuationLimit localDevId answers srcDeviceId
      dstDeviceId = .ok direction) :
    (direction = .sink ∧ dstDeviceId = localDevId ∧
      manager.cntSink < maxConcurrentSink) ∨
    (direction = .source ∧ dstDeviceId ≠ localDevId ∧
      srcDeviceId = localDevId ∧ manager.cntSource < maxConcurrentSource) := by
  unfold checkContinuationLimit at hcheck
  split_ifs at hcheck with hlocal hsink hcount hinfo hsource hcount hinfo
  · cases hcheck
    exact .inl ⟨rfl, hsink, not_le.mp hcount⟩
  · cases hcheck
    exact .inr ⟨rfl, hsink, hsource, not_le.mp hcount⟩

theorem checkContinuationLimit_inProgress
    (hcheck : manager.checkContinuationLimit localDevId answers srcDeviceId
      dstDeviceId = .error continueAlreadyInProgress) :
    maxConcurrentSink ≤ manager.cntSink ∨
      maxConcurrentSource ≤ manager.cntSource := by
  unfold checkContinuationLimit at hcheck
  split_ifs at hcheck with hlocal hsink hcount hinfo hsource hcount hinfo
  · exact absurd (Except.error.inj hcheck) (by decide)
  · exact .inl hcount
  · exact absurd (Except.error.inj hcheck) (by decide)
  · exact .inr hcount
  · exact absurd (Except.error.inj hcheck) (by decide)
  · exact absurd (Except.error.inj hcheck) (by decide)

theorem role_sink {info : DSchedContinueInfo}
    (hsink : info.sinkDeviceId = localDevId) :
    role localDevId info = some .sink := by
  simp [role, hsink]

theorem role_source {info : DSchedContinueInfo}
    (hsink : info.sinkDeviceId ≠ localDevId)
    (hsource : info.sourceDeviceId = localDevId) :
    role localDevId info = some .source := by
  simp [role, hsink, hsource]

theorem role_fillSourceBundle (info : DSchedContinueInfo) :
    role localDevId (fillSourceBundle answers direction info) =
      role localDevId info := by
  unfold fillSourceBundle
  split_ifs <;> rfl

theorem running_register (wanted : Direction) {entry : Entry}
    (hnew : manager.continues[entry.info.compareInfo]? = none) :
    running localDevId wanted (manager.register entry) =
      running localDevId wanted manager +
        if role localDevId entry.info = some wanted then 1 else 0 := by
  unfold running register
  rw [count_insertIfNew hnew]
  simp

theorem running_register_old (wanted : Direction) {entry : Entry}
    (hold : (manager.continues[entry.info.compareInfo]?).isSome) :
    running localDevId wanted (manager.register entry) =
      running localDevId wanted manager := by
  apply count_congr
  intro key
  have hmem : entry.info.compareInfo ∈ manager.continues :=
    Std.TreeMap.mem_iff_isSome_getElem?.mpr hold
  simp only [register, Std.TreeMap.getElem?_insertIfNew, hmem,
    not_true_eq_false, and_false, if_false]

@[simp] theorem running_countUp (wanted : Direction) :
    running localDevId wanted (manager.countUp direction) =
      running localDevId wanted manager := by
  cases direction <;> rfl

theorem running_setSession (wanted : Direction) (compareInfo : Text)
    (sessionId : ℤ) :
    running localDevId wanted (manager.setSession compareInfo sessionId) =
      running localDevId wanted manager := by
  unfold setSession
  split
  · next entry hentry => exact count_insert hentry rfl
  · rfl

structure Tally (localDevId : Text) (manager : Manager) : Prop where
  sink : manager.cntSink = running localDevId .sink manager
  source : manager.cntSource = running localDevId .source manager
  sinkLimit : manager.cntSink ≤ maxConcurrentSink
  sourceLimit : manager.cntSource ≤ maxConcurrentSource

theorem tally_initial (localDevId : Text) : Tally localDevId .initial where
  sink := rfl
  source := rfl
  sinkLimit := by decide
  sourceLimit := by decide

section Tally

variable (htally : Tally localDevId manager)

include htally

theorem Tally.counts :
    Counts localDevId manager where
  sink := htally.sink
  source := htally.source
  sinkNonneg := htally.sink ▸ Int.natCast_nonneg _
  sourceNonneg := htally.source ▸ Int.natCast_nonneg _
  sinkLimit := htally.sink ▸ htally.sinkLimit
  sourceLimit := htally.source ▸ htally.sourceLimit
  idle := by
    intro hempty answers srcDeviceId dstDeviceId hcheck
    have hzero : ∀ wanted, running localDevId wanted manager = 0 := by
      intro wanted
      have hlist : manager.continues.toList = [] := by
        rw [← List.isEmpty_iff, Std.TreeMap.isEmpty_toList, hempty]
      simp [running, count, hlist]
    have hcount := checkContinuationLimit_inProgress hcheck
    rw [htally.sink, htally.source, hzero, hzero] at hcount
    revert hcount
    decide

theorem Tally.request {info : DSchedContinueInfo}
    (hnew : manager.NewRequest localDevId answers (some info)) :
    Tally localDevId (manager.handleContinueMissionWithBundleName localDevId
      answers info).2 := by
  unfold handleContinueMissionWithBundleName
  split
  · exact htally
  · next direction hcheck =>
      have hfresh := hnew info rfl direction (by rw [hcheck]; rfl)
      have hregister : ∀ wanted, running localDevId wanted
          ((manager.countUp direction).register
            ⟨fillSourceBundle answers direction info, invalidSessionId⟩) =
          running localDevId wanted manager +
            if role localDevId info = some wanted then 1 else 0 := by
        intro wanted
        have hkey : (manager.countUp direction).continues[
            (fillSourceBundle answers direction info).compareInfo]? = none := by
          cases direction <;> exact hfresh
        rw [running_register wanted hkey, running_countUp,
          role_fillSourceBundle]
      dsimp only
      rw [if_neg (by simp [hfresh])]
      -- the role found by the limit check is the one that is counted
      rcases checkContinuationLimit_ok hcheck with
        ⟨rfl, hsink, hlimit⟩ | ⟨rfl, hsink, hsource, hlimit⟩
      · have hrole := role_sink hsink
        constructor
        · rw [hregister, hrole]
          simp [register, countUp, htally.sink]
        · rw [hregister, hrole]
          simp [register, countUp, htally.source]
        · simpa [register, countUp] using hlimit
        · exact htally.sourceLimit
      · have hrole := role_source hsink hsource
        constructor
        · rw [hregister, hrole]
          simp [register, countUp, htally.sink]
        · rw [hregister, hrole]
          simp [register, countUp, htally.source]
        · exact htally.sinkLimit
        · simpa [register, countUp] using hlimit

theorem Tally.dataRecv {sessionId : ℤ} {start : Option DSchedContinueInfo}
    (hcounted : manager.Counted localDevId
      (.dataRecv sessionId start answers)) :
    Tally localDevId (manager.notifyContinueDataRecv localDevId answers
      sessionId start).2 := by
  unfold notifyContinueDataRecv
  split
  · exact htally
  · next hsession =>
      split
      · exact htally
      · next info =>
          split
          · exact htally
          · next direction hcheck =>
              have hold := hcounted hsession direction (by rw [hcheck]; rfl)
              have hrunning : ∀ wanted, running localDevId wanted
                  (manager.register ⟨DSchedContinue.fillBundleNames
                    answers.getMissionInfo info, sessionId⟩) =
                  running localDevId wanted manager :=
                fun wanted => running_register_old wanted hold
              exact ⟨(hrunning .sink).symm ▸ htally.sink,
                (hrunning .source).symm ▸ htally.source, htally.sinkLimit,
                htally.sourceLimit⟩

theorem Tally.continueEnd {info : DSchedContinueInfo} {getLocalDeviceId : Bool}
    (hcounted : manager.Counted localDevId
      (.continueEnd info getLocalDeviceId)) :
    Tally localDevId
      (manager.handleContinueEnd localDevId getLocalDeviceId info) := by
  unfold handleContinueEnd
  cases hentry : manager.continues[info.compareInfo]? with
  | none => exact htally
  | some entry =>
      obtain ⟨rfl, hrole⟩ := hcounted entry hentry
      have hrunning : ∀ wanted, running localDevId wanted manager =
          running localDevId wanted { manager with
            continues := manager.continues.erase info.compareInfo } +
          if role localDevId info = some wanted then 1 else 0 := by
        intro wanted
        rw [hrole]
        unfold running
        rw [count_erase hentry]
        simp
      obtain ⟨hsink, hsource, hsinkLimit, hsourceLimit⟩ := htally
      simp only [Option.isNone_some, Bool.not_true, Bool.false_eq_true,
        if_false]
      split_ifs with hsinkLocal hsourceLocal
      · rw [hrunning, role_sink hsinkLocal] at hsink hsource
        simp only [if_true, Option.some.injEq, reduceCtorEq, if_false] at hsink hsource
        constructor
        · push_cast at hsink
          exact sub_eq_of_eq_add hsink
        · exact hsource
        · exact le_trans (sub_le_self _ (by decide)) hsinkLimit
        · exact hsourceLimit
      · rw [hrunning, role_source hsinkLocal hsourceLocal] at hsink hsource
        simp only [if_true, Option.some.injEq, reduceCtorEq, if_false] at hsink hsource
        constructor
        · exact hsink
        · push_cast at hsource
          exact sub_eq_of_eq_add hsource
        · exact hsinkLimit
        · exact le_trans (sub_le_self _ (by decide)) hsourceLimit
      · have hnone : role localDevId info = none := by
          simp [role, hsinkLocal, hsourceLocal]
        rw [hrunning, hnone] at hsink hsource
        exact ⟨hsink, hsource, hsinkLimit, hsourceLimit⟩

theorem tally_step {task : Task} (hcounted : manager.Counted localDevId task) :
    Tally localDevId (manager.step localDevId task).2 := by
  have hrequest : ∀ answers request,
      manager.NewRequest localDevId answers request →
      Tally localDevId
        (manager.handleContinueMission localDevId answers request).2 := by
    intro answers request hnew
    cases request with
    | none => exact htally
    | some info => exact htally.request hnew
  cases task with
  | continueMission callback info answers => exact hrequest _ _ hcounted
  | continueMissionById callback srcDeviceId dstDeviceId missionId
      getLocalDeviceId answers => exact hrequest _ _ hcounted
  | connected compareInfo sessionId =>
      have hrunning : ∀ wanted, running localDevId wanted
          (manager.setSession compareInfo sessionId) =
          running localDevId wanted manager :=
        fun wanted => running_setSession wanted compareInfo sessionId
      have hcounters : (manager.setSession compareInfo sessionId).cntSink =
            manager.cntSink ∧
          (manager.setSession compareInfo sessionId).cntSource =
            manager.cntSource := by
        unfold setSession
        split <;> exact ⟨rfl, rfl⟩
      simp only [step]
      constructor
      · rw [hcounters.1, hrunning, htally.sink]
      · rw [hcounters.2, hrunning, htally.source]
      · exact hcounters.1 ▸ htally.sinkLimit
      · exact hcounters.2 ▸ htally.sourceLimit
  | dataRecv sessionId start answers => exact htally.dataRecv hcounted
  | continueEnd info getLocalDeviceId => exact htally.continueEnd hcounted

end Tally

end Tasks

/-- The counters count in every run of counted tasks. -/
theorem counts_run (localDevId : Text) (tasks : List Task)
    (hcounted : EventRun.Meets (step localDevId) (Counted localDevId) .initial
      tasks) :
    Counts localDevId (EventRun.run (step localDevId) .initial tasks).2 := by
  have hstep : ∀ manager task, Tally localDevId manager →
      manager.Counted localDevId task →
      Tally localDevId (manager.step localDevId task).2 :=
    fun _ _ htally hcounted => tally_step htally hcounted
  exact (hcounted.invariant hstep (tally_initial localDevId)).counts

def pulled : DSchedContinueInfo where
  sourceDeviceId := "peer".toList
  sourceBundleName := "app".toList
  sinkDeviceId := "self".toList
  sinkBundleName := "app".toList
  continueType := []

def pullTasks : List Task :=
  [.continueMission true pulled {}, .connected pulled.compareInfo 1,
    .continueMission true { pulled with sourceBundleName := "other".toList } {},
    .dataRecv 1 none {}, .continueEnd pulled true,
    .continueMission true pulled {}]

theorem counts_pulls :
    Counts "self".toList
      (EventRun.run (step "self".toList) .initial pullTasks).2 ∧
    (EventRun.run (step "self".toList) .initial pullTasks).1 =
      [.created pulled, .ignored, .refused continueAlreadyInProgress,
        .handled pulled, .ignored, .created pulled] :=
  ⟨counts_run "self".toList pullTasks (by decide +kernel), by decide +kernel⟩

/-- A push of the peer is not counted, and its end takes the counter below
zero. -/
theorem not_counts_started :
    ¬Counts "self".toList (EventRun.run (step "self".toList) .initial
      [.dataRecv 1 (some pulled) {}, .continueEnd pulled true]).2 := by
  intro hcounts
  have hnonneg := hcounts.sinkNonneg
  revert hnonneg
  decide +kernel

end Manager

end ContinueManager
end Dmsfwk
