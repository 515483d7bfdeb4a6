import Dmsfwk.ContinuePair
import Dmsfwk.EventRun

/-!
# A continuation ends once

The end of a continuation disconnects from the peer when the continuation is
the end which asked for the connection.  The account below compares this with
the connection it has made, over all events which are processed until the
manager has removed the continuation.
-/

namespace Dmsfwk
namespace Continuation

/-! ## A continuation with its record -/

/-- How a continuation comes into being; a start command is packed by a
continuation which was requested on the peer. -/
inductive Origin where
  | request (direction : Direction) (info : DSchedContinueInfo)
  | startCmd (missionBundle : Option Text) (info : DSchedContinueInfo)
      (direction : Direction) (appVersion : ℤ)

def Origin.create : Origin → DSchedContinue
  | .request direction info => .ofRequest direction info
  | .startCmd missionBundle info direction appVersion =>
      .ofStartCmd missionBundle info
        (DSchedContinue.ofRequest direction info).subServiceType direction
        appVersion

structure Recorded where
  continuation : DSchedContinue
  log : List Effect
  deriving DecidableEq, Repr

inductive Stimulus where
  | input (input : DSchedContinue.Input)
  | recv (cmd : Cmd)
  deriving DecidableEq, Repr

namespace Recorded

def initial (origin : Origin) : Recorded := ⟨origin.create, []⟩

def step (recorded : Recorded) : Stimulus → List Effect × Recorded
  | .input input =>
      let result := recorded.continuation.step input
      (result.1, ⟨result.2, recorded.log ++ result.1⟩)
  | .recv cmd =>
      ([], { recorded with
        continuation := recorded.continuation.onDataRecv cmd })

def connects (log : List Effect) : ℕ := log.count (.connectDevice errOk)

def disconnects (log : List Effect) : ℕ := log.count .disconnectDevice

end Recorded

def Effect.isEnd : Effect → Bool
  | .executeContinueEnd _ => true
  | _ => false

def Recorded.ends (log : List Effect) : ℕ := log.countP Effect.isEnd

instance : DecidablePred Event.IsRequest :=
  fun _ => inferInstanceAs (Decidable (_ ∨ _))

def Event.IsEnd : Event → Prop
  | .complete _ => True
  | .ended _ => True
  | _ => False

instance : DecidablePred Event.IsEnd := by
  intro event
  cases event <;> unfold Event.IsEnd <;> infer_instance

/-- The request connects to the peer, and no end event is processed once the
manager was told to remove the continuation. -/
def Recorded.Orderly (recorded : Recorded) : Stimulus → Prop
  | .input (.process answers) =>
      ∀ event ∈ recorded.continuation.queue.head?,
        (event.IsRequest → answers.connectDevice = errOk) ∧
        (recorded.continuation.ended → recorded.continuation.removed = false →
          ¬event.IsEnd)
  | _ => True

instance (recorded : Recorded) : DecidablePred recorded.Orderly := by
  intro stimulus
  unfold Recorded.Orderly
  split <;> infer_instance

/-! ## One handler -/

def Effect.Settles : Effect → Prop
  | .connectDevice _ => True
  | .disconnectDevice => True
  | .executeContinueEnd _ => True
  | _ => False

/-- The handler changes neither the role of the continuation nor its account,
and it posts no request. -/
structure Kept (continuation next : DSchedContinue) : Prop where
  subServiceType : next.subServiceType = continuation.subServiceType
  direction : next.direction = continuation.direction
  ended : next.ended = continuation.ended
  queue : ∃ posted, next.queue = continuation.queue ++ posted ∧
    ∀ event ∈ posted, ¬event.IsRequest

section Handlers

variable {continuation next : DSchedContinue} {answers : Answers}
  {effects : List Effect}

theorem kept_of_eq
    (hsubServiceType : next.subServiceType = continuation.subServiceType)
    (hdirection : next.direction = continuation.direction)
    (hended : next.ended = continuation.ended)
    (hqueue : next.queue = continuation.queue) : Kept continuation next :=
  ⟨hsubServiceType, hdirection, hended, [], by simp [hqueue], by simp⟩

theorem kept_refl : Kept continuation continuation :=
  kept_of_eq rfl rfl rfl rfl

theorem Kept.updateState (hkept : Kept continuation next) (state : StateType) :
    Kept continuation (next.updateState state) :=
  ⟨hkept.subServiceType, hkept.direction, hkept.ended, hkept.queue⟩

theorem Kept.post {event : Event} (hkept : Kept continuation next)
    (hevent : ¬event.IsRequest) : Kept continuation (next.post event) := by
  obtain ⟨posted, hqueue, hposted⟩ := hkept.queue
  refine ⟨hkept.subServiceType, hkept.direction, hkept.ended,
    posted ++ [event], by simp [DSchedContinue.post, hqueue], ?_⟩
  intro other hmem
  rcases List.mem_append.mp hmem with hold | hnew
  · exact hposted other hold
  · exact List.mem_singleton.mp hnew ▸ hevent

theorem Kept.onContinueEnd (hkept : Kept continuation next) (result : ℤ) :
    Kept continuation (next.onContinueEnd result) :=
  hkept.post (by simp [Event.IsRequest])

theorem kept_executeContinueReq :
    Kept continuation (continuation.executeContinueReq answers).2.2 := by
  unfold DSchedContinue.executeContinueReq
  cases continuation.packStartCmd answers with
  | error ret => split_ifs <;> exact kept_refl
  | ok cmd =>
      split_ifs
      · exact kept_refl
      · exact kept_refl
      · exact kept_refl.updateState .data
      · exact kept_refl

theorem kept_executeContinueAbility {appVersion : ℤ} :
    Kept continuation
      (continuation.executeContinueAbility answers appVersion).2.2 := by
  have hkept : Kept continuation
      (continuation.getMissionIdByBundleName answers).2 := by
    unfold DSchedContinue.getMissionIdByBundleName
    split_ifs
    · exact kept_of_eq rfl rfl rfl rfl
    · exact kept_refl
  unfold DSchedContinue.executeContinueAbility
  split
  next result next hnext =>
    rw [hnext] at hkept
    split_ifs
    · exact hkept
    · exact hkept
    · exact hkept
    · exact hkept.updateState .ability

theorem kept_executeContinueReply :
    Kept continuation (continuation.executeContinueReply answers).2.2 := by
  unfold DSchedContinue.executeContinueReply
  split_ifs
  · exact kept_refl
  · exact kept_refl
  · exact kept_refl.updateState .data

theorem kept_executeContinueSend {want : SavedWant} :
    Kept continuation (continuation.executeContinueSend answers want).2.2 := by
  have hkept : Kept continuation (continuation.setCleanMissionFlag want) :=
    kept_of_eq rfl rfl rfl rfl
  unfold DSchedContinue.executeContinueSend
  split_ifs
  · exact hkept
  · exact hkept
  · exact hkept
  · exact hkept
  · exact hkept
  · exact hkept
  · exact hkept.updateState .sourceWaitEnd

theorem kept_executeContinueData :
    Kept continuation (continuation.executeContinueData answers).2.2 := by
  unfold DSchedContinue.executeContinueData
  dsimp only
  split_ifs
  · exact kept_refl
  · exact kept_refl
  · exact kept_refl.onContinueEnd dmsGetWindowFailedFromScb
  · exact kept_refl.updateState .sinkWaitEnd
  · exact kept_refl

theorem kept_executeNotifyComplete {result : ℤ} :
    Kept continuation
      (continuation.executeNotifyComplete answers result).2.2 := by
  unfold DSchedContinue.executeNotifyComplete
  split_ifs
  · exact kept_refl
  · exact kept_refl.updateState .sinkEnd
  · exact kept_refl
  · exact (kept_refl.updateState .sourceEnd).onContinueEnd result

theorem kept_executeContinueError {result : ℤ} :
    Kept continuation
      (continuation.executeContinueError answers result).2.2 :=
  (kept_refl.updateState _).onContinueEnd result

theorem executeContinueAbility_silent {appVersion : ℤ} :
    ∀ effect ∈
      (continuation.executeContinueAbility answers appVersion).2.1,
      ¬effect.Settles := by
  unfold DSchedContinue.executeContinueAbility
  split
  split_ifs <;> simp [Effect.Settles]

theorem executeContinueReply_silent :
    ∀ effect ∈ (continuation.executeContinueReply answers).2.1,
      ¬effect.Settles := by
  unfold DSchedContinue.executeContinueReply
  split_ifs <;> simp [Effect.Settles]

theorem executeContinueSend_silent {want : SavedWant} :
    ∀ effect ∈ (continuation.executeContinueSend answers want).2.1,
      ¬effect.Settles := by
  unfold DSchedContinue.executeContinueSend
  split_ifs <;> simp [Effect.Settles]

theorem executeContinueData_silent :
    ∀ effect ∈ (continuation.executeContinueData answers).2.1,
      ¬effect.Settles := by
  unfold DSchedContinue.executeContinueData DSchedContinue.startAbility
  dsimp only
  split_ifs <;> simp [Effect.Settles]

theorem executeNotifyComplete_silent {result : ℤ} :
    ∀ effect ∈ (continuation.executeNotifyComplete answers result).2.1,
      ¬effect.Settles := by
  unfold DSchedContinue.executeNotifyComplete
  split_ifs <;> simp [Effect.Settles]

theorem executeContinueError_silent {result : ℤ} :
    ∀ effect ∈ (continuation.executeContinueError answers result).2.1,
      ¬effect.Settles := by
  simp [DSchedContinue.executeContinueError, Effect.Settles]

theorem execute_cases (continuation : DSchedContinue) (answers : Answers)
    (event : Event) :
    (event.IsEnd ∧ ∃ result, continuation.execute answers event =
      continuation.executeContinueEnd answers result) ∨
    (event.IsRequest ∧ continuation.execute answers event =
      continuation.executeContinueReq answers) ∨
    (Kept continuation (continuation.execute answers event).2.2 ∧
      ∀ effect ∈ (continuation.execute answers event).2.1,
        ¬effect.Settles) := by
  unfold DSchedContinue.execute
  split
  · exact .inr (.inl ⟨.inr rfl, rfl⟩)
  · exact .inr (.inr
      ⟨kept_executeContinueAbility, executeContinueAbility_silent⟩)
  · exact .inl ⟨trivial, _, rfl⟩
  · exact .inr (.inr ⟨kept_executeContinueError, executeContinueError_silent⟩)
  · exact .inr (.inr ⟨kept_executeContinueSend, executeContinueSend_silent⟩)
  · exact .inl ⟨trivial, _, rfl⟩
  · exact .inr (.inr ⟨kept_executeContinueError, executeContinueError_silent⟩)
  · exact .inr (.inr
      ⟨kept_executeNotifyComplete, executeNotifyComplete_silent⟩)
  · exact .inr (.inr ⟨kept_executeContinueError, executeContinueError_silent⟩)
  · exact .inl ⟨trivial, _, rfl⟩
  · exact .inr (.inl ⟨.inl rfl, rfl⟩)
  · exact .inr (.inr ⟨kept_executeContinueReply, executeContinueReply_silent⟩)
  · exact .inl ⟨trivial, _, rfl⟩
  · exact .inr (.inr ⟨kept_executeContinueError, executeContinueError_silent⟩)
  · exact .inr (.inr ⟨kept_executeContinueData, executeContinueData_silent⟩)
  · exact .inl ⟨trivial, _, rfl⟩
  · exact .inr (.inr ⟨kept_executeContinueError, executeContinueError_silent⟩)
  · exact .inr (.inr
      ⟨kept_executeNotifyComplete, executeNotifyComplete_silent⟩)
  · exact .inr (.inr ⟨kept_executeContinueError, executeContinueError_silent⟩)
  · exact .inl ⟨trivial, _, rfl⟩
  · exact .inr (.inr ⟨kept_refl, fun _ hmem => absurd hmem List.not_mem_nil⟩)

theorem processEvent_cases (continuation : DSchedContinue) (answers : Answers)
    (event : Event) :
    (continuation.processEvent answers event).1 =
      (continuation.execute answers event).2.1 ∧
    Kept (continuation.execute answers event).2.2
      (continuation.processEvent answers event).2 := by
  unfold DSchedContinue.processEvent
  split
  next ret effects next hexecute =>
    rw [hexecute]
    refine ⟨rfl, ?_⟩
    split_ifs
    · exact kept_refl.onContinueEnd ret
    · exact kept_refl

theorem Kept.trans {last : DSchedContinue} (hkept : Kept continuation next)
    (hnext : Kept next last) : Kept continuation last := by
  obtain ⟨posted, hqueue, hposted⟩ := hkept.queue
  obtain ⟨more, hmore, hrequests⟩ := hnext.queue
  refine ⟨hnext.subServiceType.trans hkept.subServiceType,
    hnext.direction.trans hkept.direction, hnext.ended.trans hkept.ended,
    posted ++ more, by rw [hmore, hqueue, List.append_assoc], ?_⟩
  intro event hmem
  rcases List.mem_append.mp hmem with hold | hnew
  · exact hposted event hold
  · exact hrequests event hnew

theorem Kept.requests (hkept : Kept continuation next)
    (hrequests : ∀ event ∈ continuation.queue, ¬event.IsRequest) :
    ∀ event ∈ next.queue, ¬event.IsRequest := by
  obtain ⟨posted, hqueue, hposted⟩ := hkept.queue
  rw [hqueue]
  intro event hmem
  rcases List.mem_append.mp hmem with hold | hnew
  · exact hrequests event hold
  · exact hposted event hnew

theorem Kept.isInitiator (hkept : Kept continuation next) :
    next.isInitiator = continuation.isInitiator := by
  unfold DSchedContinue.isInitiator
  rw [hkept.subServiceType, hkept.direction]

end Handlers

/-! ## Counting -/

namespace Recorded

section Counting

variable {continuation : DSchedContinue} {answers : Answers}
  {effects : List Effect}

theorem connects_silent (hsilent : ∀ effect ∈ effects, ¬effect.Settles) :
    connects effects = 0 :=
  List.count_eq_zero.mpr fun hmem => hsilent _ hmem trivial

theorem disconnects_silent (hsilent : ∀ effect ∈ effects, ¬effect.Settles) :
    disconnects effects = 0 :=
  List.count_eq_zero.mpr fun hmem => hsilent _ hmem trivial

theorem ends_silent (hsilent : ∀ effect ∈ effects, ¬effect.Settles) :
    ends effects = 0 := by
  apply List.countP_eq_zero.mpr
  intro effect hmem hend
  have hsettles := hsilent effect hmem
  cases effect with
  | executeContinueEnd => exact hsettles trivial
  | _ => cases hend

@[simp] theorem connects_append (log more : List Effect) :
    connects (log ++ more) = connects log + connects more :=
  List.count_append

@[simp] theorem disconnects_append (log more : List Effect) :
    disconnects (log ++ more) = disconnects log + disconnects more :=
  List.count_append

@[simp] theorem ends_append (log more : List Effect) :
    ends (log ++ more) = ends log + ends more :=
  List.countP_append

theorem executeContinueReq_counts (continuation : DSchedContinue)
    (hconnect : answers.connectDevice = errOk) :
    connects (continuation.executeContinueReq answers).2.1 = 1 ∧
      disconnects (continuation.executeContinueReq answers).2.1 = 0 ∧
      ends (continuation.executeContinueReq answers).2.1 = 0 := by
  have hquick : ∀ effect ∈ continuation.quickStart, ¬effect.Settles := by
    unfold DSchedContinue.quickStart
    split_ifs <;> simp [Effect.Settles]
  have hconnects := connects_silent hquick
  have hdisconnects := disconnects_silent hquick
  have hends := ends_silent hquick
  unfold DSchedContinue.executeContinueReq
  rw [if_neg (not_not.mpr hconnect), hconnect]
  cases continuation.packStartCmd answers with
  | error ret =>
      simp only [connects_append, disconnects_append, ends_append, hconnects,
        hdisconnects, hends]
      simp [connects, disconnects, ends, Effect.isEnd]
  | ok cmd =>
      dsimp only
      split_ifs
      all_goals
        simp only [connects_append, disconnects_append, ends_append, hconnects,
          hdisconnects, hends]
        simp [connects, disconnects, ends, Effect.isEnd]

theorem executeContinueEnd_counts (continuation : DSchedContinue)
    (answers : Answers) (result : ℤ) :
    connects (continuation.executeContinueEnd answers result).2.1 = 0 ∧
      disconnects (continuation.executeContinueEnd answers result).2.1 =
        (if continuation.isInitiator then 1 else 0) ∧
      ends (continuation.executeContinueEnd answers result).2.1 = 1 := by
  unfold DSchedContinue.executeContinueEnd
    DSchedContinue.notifyContinuationCallbackResult
  dsimp only
  split_ifs <;>
    simp [connects, disconnects, ends, List.countP_cons, Effect.isEnd]

end Counting

end Recorded

/-! ## The account of a run -/

def requestEvent : Direction → Event
  | .source => .reqPush
  | .sink => .reqPull

/-- The request is still the next event, or it was processed and the initiator
holds its connection until the end. -/
structure Account (recorded : Recorded) : Prop where
  ends : Recorded.ends recorded.log =
    if recorded.continuation.ended then 1 else 0
  disconnects : Recorded.disconnects recorded.log =
    if recorded.continuation.ended ∧ recorded.continuation.isInitiator then 1
    else 0
  request :
    (recorded.continuation.isInitiator ∧
      recorded.continuation.ended = false ∧
      Recorded.connects recorded.log = 0 ∧
      recorded.continuation.state = DSchedContinue.startState
        recorded.continuation.direction ∧
      ∃ rest, recorded.continuation.queue =
          requestEvent recorded.continuation.direction :: rest ∧
        ∀ event ∈ rest, ¬event.IsRequest) ∨
    ((∀ event ∈ recorded.continuation.queue, ¬event.IsRequest) ∧
      Recorded.connects recorded.log =
        if recorded.continuation.isInitiator then 1 else 0)

section Run

variable {recorded : Recorded}

theorem Account.quiet (haccount : Account recorded) {next : DSchedContinue}
    (hkept : Kept recorded.continuation next)
    (hstate : next.state = recorded.continuation.state) {more : List Effect}
    (hmore : ∀ effect ∈ more, ¬effect.Settles) :
    Account ⟨next, recorded.log ++ more⟩ := by
  obtain ⟨posted, hqueue, hposted⟩ := hkept.queue
  constructor
  · simp only [Recorded.ends_append, Recorded.ends_silent hmore, add_zero,
      hkept.ended]
    exact haccount.ends
  · simp only [Recorded.disconnects_append, Recorded.disconnects_silent hmore,
      add_zero, hkept.ended, hkept.isInitiator]
    exact haccount.disconnects
  · simp only [Recorded.connects_append, Recorded.connects_silent hmore,
      add_zero, hkept.ended, hkept.isInitiator, hkept.direction, hstate, hqueue]
    rcases haccount.request with
      ⟨hinitiator, hended, hzero, hstart, rest, hrest, hrequests⟩ |
      ⟨hrequests, hone⟩
    · refine .inl ⟨hinitiator, hended, hzero, hstart, rest ++ posted,
        by simp [hrest], ?_⟩
      intro event hmem
      rcases List.mem_append.mp hmem with hold | hnew
      · exact hrequests event hold
      · exact hposted event hnew
    · refine .inr ⟨?_, hone⟩
      intro event hmem
      rcases List.mem_append.mp hmem with hold | hnew
      · exact hrequests event hold
      · exact hposted event hnew

theorem Account.processRequest (haccount : Account recorded)
    {answers : Answers} {rest : List Event}
    (hconnect : answers.connectDevice = errOk)
    (hinitiator : recorded.continuation.isInitiator)
    (hzero : Recorded.connects recorded.log = 0)
    (hstart : recorded.continuation.state =
      DSchedContinue.startState recorded.continuation.direction)
    (hrequests : ∀ event ∈ rest, ¬event.IsRequest) :
    Account
      ⟨({ recorded.continuation with queue := rest }.processEvent answers
          (requestEvent recorded.continuation.direction)).2,
        recorded.log ++
          ({ recorded.continuation with queue := rest }.processEvent answers
            (requestEvent recorded.continuation.direction)).1⟩ := by
  set continuation : DSchedContinue :=
    { recorded.continuation with queue := rest }
  have hexecute : continuation.execute answers
      (requestEvent recorded.continuation.direction) =
        continuation.executeContinueReq answers := by
    have hstate : continuation.state =
        DSchedContinue.startState recorded.continuation.direction := hstart
    unfold DSchedContinue.execute
    rw [hstate]
    cases recorded.continuation.direction <;> rfl
  obtain ⟨heffects, hkept⟩ := processEvent_cases continuation answers
    (requestEvent recorded.continuation.direction)
  rw [hexecute] at heffects hkept
  replace hkept := kept_executeContinueReq.trans hkept
  obtain ⟨hconnects, hdisconnects, hends⟩ :=
    Recorded.executeContinueReq_counts continuation hconnect
  have hinitiator' : continuation.isInitiator = true := hinitiator
  constructor
  · rw [heffects, Recorded.ends_append, hends, hkept.ended, haccount.ends]
    rfl
  · rw [heffects, Recorded.disconnects_append, hdisconnects, hkept.ended,
      hkept.isInitiator, haccount.disconnects]
    rfl
  · refine .inr ⟨hkept.requests hrequests, ?_⟩
    rw [heffects, Recorded.connects_append, hconnects, hzero,
      hkept.isInitiator, hinitiator']
    rfl

theorem Account.processLater (haccount : Account recorded)
    {answers : Answers} {event : Event} {rest : List Event}
    (hqueue : recorded.continuation.queue = event :: rest)
    (hrequests : ∀ event ∈ recorded.continuation.queue, ¬event.IsRequest)
    (hone : Recorded.connects recorded.log =
      if recorded.continuation.isInitiator then 1 else 0)
    (hlive : recorded.continuation.ended → ¬event.IsEnd) :
    Account
      ⟨({ recorded.continuation with queue := rest }.processEvent answers
          event).2,
        recorded.log ++
          ({ recorded.continuation with queue := rest }.processEvent answers
            event).1⟩ := by
  set continuation : DSchedContinue :=
    { recorded.continuation with queue := rest }
  have hrest : ∀ event ∈ continuation.queue, ¬event.IsRequest :=
    fun other hmem => hrequests other (by simp [hqueue, show other ∈ rest from hmem])
  obtain ⟨heffects, hnext⟩ := processEvent_cases continuation answers event
  rcases execute_cases continuation answers event with
    ⟨hend, result, hexecute⟩ | ⟨hrequest, -⟩ | ⟨hkept, hsilent⟩
  · -- the first end event of the continuation
    have hended : recorded.continuation.ended = false :=
      Bool.eq_false_iff.mpr fun hended => hlive hended hend
    rw [hexecute] at heffects hnext
    obtain ⟨hconnects, hdisconnects, hends⟩ :=
      Recorded.executeContinueEnd_counts continuation answers result
    obtain ⟨callback, hcallback⟩ :=
      executeContinueEnd_eq answers result continuation
    rw [hcallback] at hnext
    have hinitiator := hnext.isInitiator
    constructor
    · rw [heffects, Recorded.ends_append, hends, hnext.ended, haccount.ends,
        hended]
      rfl
    · rw [heffects, Recorded.disconnects_append, hdisconnects, hnext.ended,
        hinitiator, haccount.disconnects, hended]
      simp [continuation, DSchedContinue.isInitiator]
    · refine .inr ⟨hnext.requests hrest, ?_⟩
      rw [heffects, Recorded.connects_append, hconnects, hone, hinitiator]
      rfl
  · exact absurd hrequest (hrequests event (by simp [hqueue]))
  · have hkept' := hkept.trans hnext
    constructor
    · rw [heffects, Recorded.ends_append, Recorded.ends_silent hsilent,
        hkept'.ended, haccount.ends]
      rfl
    · rw [heffects, Recorded.disconnects_append,
        Recorded.disconnects_silent hsilent, hkept'.ended, hkept'.isInitiator,
        haccount.disconnects]
      rfl
    · refine .inr ⟨hkept'.requests hrest, ?_⟩
      rw [heffects, Recorded.connects_append,
        Recorded.connects_silent hsilent, hkept'.isInitiator, hone]
      rfl

theorem account_step (haccount : Account recorded) {stimulus : Stimulus}
    (horderly : recorded.Orderly stimulus) :
    Account (recorded.step stimulus).2 := by
  cases stimulus with
  | recv cmd =>
      have hquiet : ∀ next, Kept recorded.continuation next →
          next.state = recorded.continuation.state →
          Account ⟨next, recorded.log⟩ := by
        intro next hkept hstate
        simpa using haccount.quiet hkept hstate
          (fun _ hmem => absurd hmem List.not_mem_nil)
      rcases onDataRecv_cases recorded.continuation cmd with
        hsame | ⟨event, -, -, hrequest, hpost⟩
      · simp only [Recorded.step, hsame]
        exact haccount
      · simp only [Recorded.step, hpost]
        exact hquiet _ (kept_refl.post hrequest) rfl
  | input input =>
      rcases step_cases recorded.continuation input with
        ⟨removed, hstep⟩ | ⟨event, -, -, hrequest, hstep⟩ | ⟨code, -, hstep⟩ |
        ⟨answers, event, rest, rfl, hlive, hqueue, hstep⟩
      · have hkept : Kept recorded.continuation
            { recorded.continuation with removed := removed } :=
          kept_of_eq rfl rfl rfl rfl
        simp only [Recorded.step, hstep]
        exact haccount.quiet hkept rfl
          (fun _ hmem => absurd hmem List.not_mem_nil)
      · simp only [Recorded.step, hstep]
        exact haccount.quiet (kept_refl.post hrequest) rfl
          (fun _ hmem => absurd hmem List.not_mem_nil)
      · simp only [Recorded.step, hstep]
        refine haccount.quiet (kept_refl.post ?_) rfl ?_
        · simp [Event.IsRequest]
        · simp [DSchedContinue.onNotifyComplete, Effect.Settles]
      · simp only [Recorded.step, hstep]
        have hhead := horderly event (by simp [hqueue])
        rcases haccount.request with
          ⟨hinitiator, -, hzero, hstart, tail, htail, hrequests⟩ |
          ⟨hrequests, hone⟩
        · rw [hqueue] at htail
          obtain ⟨rfl, rfl⟩ := List.cons.inj htail
          refine haccount.processRequest (hhead.1 ?_) hinitiator hzero hstart
            hrequests
          cases recorded.continuation.direction
          · exact .inr rfl
          · exact .inl rfl
        · exact haccount.processLater hqueue hrequests hone
            (fun hended => hhead.2 hended hlive)

end Run

def sampleRequest : DSchedContinueInfo where
  sourceDeviceId := "src".toList
  sourceBundleName := "app".toList
  sinkDeviceId := "dst".toList
  sinkBundleName := "app".toList
  continueType := []

end Continuation
end Dmsfwk
