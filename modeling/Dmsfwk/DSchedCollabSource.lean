import Dmsfwk.EventRun
import Mathlib.Data.List.Count

/-!
# Softbus references of a source collaboration

A source-side `DSchedCollab` takes a reference on the softbus session to its
sink while it asks for the peer's version and again while it starts the
collaboration; every end and every error goes through one clean-up which gives
one reference back.  The collaboration is modelled from its creation in
`HandleGetSinkCollabVersion` to its removal from the manager: its state
machine, its event queue, and the calls it makes on the softbus adapter.
Softbus, the bundle manager and the client callback answer arbitrarily.
-/

namespace Dmsfwk

/-! ## Data model -/

inductive CollabStateType where
  | sourceGetPeerVersionState
  | sourceStartState
  | sourceWaitResultState
  | sourceWaitEndState
  deriving DecidableEq, Repr

inductive DSchedCollabEvent where
  | sourceGetPeerVersion
  | sourceGetVersion
  | sourceStart
  | notifyResult (result : ℤ)
  | abilityReject (reason : String)
  | errEnd (result : ℤ)
  | ended
  deriving DecidableEq, Repr

/-- The calls on `DSchedTransportSoftbusAdapter` that change references; a
connect carries the returned code. -/
inductive SoftbusCall where
  | connectDevice (deviceId : String) (ret : ℤ)
  | disconnectDevice (deviceId : String)
  deriving DecidableEq, Repr

structure CollabAnswers where
  connectDevice : ℤ
  packCommand : ℤ
  sendCommand : ℤ
  clientNotify : ℤ
  deriving DecidableEq, Repr

structure DSchedCollab where
  state : CollabStateType
  sinkDeviceId : String
  queue : List DSchedCollabEvent
  removed : Bool
  deriving DecidableEq, Repr

namespace DSchedCollab

def errOk : ℤ := 0
def collabStateMachineInvalidState : ℤ := 29360339
def collabAbilityRejectErr : ℤ := 29360341

/-! ## The operations -/

def create (sinkDeviceId : String) : DSchedCollab :=
  ⟨.sourceGetPeerVersionState, sinkDeviceId, [.sourceGetPeerVersion], false⟩

def post (collab : DSchedCollab) (event : DSchedCollabEvent) : DSchedCollab :=
  { collab with queue := collab.queue ++ [event] }

def postErrEndTask (collab : DSchedCollab) (result : ℤ) : DSchedCollab :=
  collab.post (.errEnd result)

def cleanUpSession (collab : DSchedCollab) :
    List SoftbusCall × DSchedCollab :=
  ([.disconnectDevice collab.sinkDeviceId], { collab with removed := true })

abbrev ExeResult := ℤ × List SoftbusCall × DSchedCollab

def connectAndSend (answers : CollabAnswers)
    (onSuccess : DSchedCollab → DSchedCollab) (collab : DSchedCollab) :
    ExeResult :=
  let calls := [.connectDevice collab.sinkDeviceId answers.connectDevice]
  if answers.connectDevice ≠ errOk then
    (answers.connectDevice, calls, collab)
  else if answers.packCommand ≠ errOk then
    (answers.packCommand, calls, collab)
  else if answers.sendCommand ≠ errOk then
    (answers.sendCommand, calls, collab)
  else (errOk, calls, onSuccess collab)

def exeSrcGetPeerVersion (answers : CollabAnswers) (collab : DSchedCollab) :
    ExeResult :=
  connectAndSend answers id collab

def exeSrcGetVersion (answers : CollabAnswers) (collab : DSchedCollab) :
    ExeResult :=
  if answers.clientNotify ≠ errOk then
    (errOk, [], collab.postErrEndTask answers.clientNotify)
  else (errOk, [], collab)

def exeSrcStart (answers : CollabAnswers) (collab : DSchedCollab) :
    ExeResult :=
  connectAndSend answers
    (fun started => { started with state := .sourceWaitResultState }) collab

def exeSrcCollabResult (answers : CollabAnswers) (result : ℤ)
    (reason : String) (collab : DSchedCollab) : ExeResult :=
  if result ≠ errOk ∧ result ≠ collabAbilityRejectErr then
    (errOk, [], collab.postErrEndTask result)
  else if reason ≠ "" then (errOk, collab.cleanUpSession)
  else if answers.clientNotify ≠ errOk then
    (errOk, [], collab.postErrEndTask result)
  else (errOk, [], { collab with state := .sourceWaitEndState })

/-- `ExeSrcGetPeerVersionError`, `ExeSrcStartError`, `ExeSrcWaitResultError`
and `ExeDisconnect` differ in what they tell the client and the peer, whose
answers they ignore; all of them clean up. -/
def exeCleanUp (collab : DSchedCollab) : ExeResult :=
  (errOk, collab.cleanUpSession)

def execute (answers : CollabAnswers) (collab : DSchedCollab)
    (event : DSchedCollabEvent) : ExeResult :=
  match collab.state, event with
  | .sourceGetPeerVersionState, .sourceGetPeerVersion =>
      exeSrcGetPeerVersion answers collab
  | .sourceGetPeerVersionState, .sourceGetVersion =>
      exeSrcGetVersion answers collab
  | .sourceGetPeerVersionState, .errEnd _ => exeCleanUp collab
  | .sourceStartState, .sourceStart => exeSrcStart answers collab
  | .sourceStartState, .errEnd _ => exeCleanUp collab
  | .sourceWaitResultState, .notifyResult result =>
      exeSrcCollabResult answers result "" collab
  | .sourceWaitResultState, .abilityReject reason =>
      exeSrcCollabResult answers collabAbilityRejectErr reason collab
  | .sourceWaitResultState, .errEnd _ => exeCleanUp collab
  | .sourceWaitEndState, .errEnd _ => exeCleanUp collab
  | .sourceWaitEndState, .ended => exeCleanUp collab
  | _, _ => (collabStateMachineInvalidState, [], collab)

def processEvent (answers : CollabAnswers) (collab : DSchedCollab)
    (event : DSchedCollabEvent) : List SoftbusCall × DSchedCollab :=
  match collab.execute answers event with
  | (ret, calls, next) =>
      (calls, if ret ≠ errOk then next.postErrEndTask ret else next)

/-! ## Runs -/

/-- What can happen to a live collaboration: somebody posts an event, the
client calls `CollabMission`, the peer's `DISCONNECT_CMD` arrives on the
manager's thread, or the event thread takes the next event. -/
inductive CollabInput where
  | post (event : DSchedCollabEvent)
  | collabMission (sinkDeviceId : String)
  | receiveDisconnectCmd
  | process (answers : CollabAnswers)
  deriving DecidableEq, Repr

/-- `CollabMission` replaces the collaboration info, `sinkDeviceId` included,
and restarts from the start state. -/
def collabMission (collab : DSchedCollab) (sinkDeviceId : String) :
    DSchedCollab :=
  { collab with
    sinkDeviceId := sinkDeviceId
    state := .sourceStartState }.post .sourceStart

def step (collab : DSchedCollab) (input : CollabInput) :
    List SoftbusCall × DSchedCollab :=
  if collab.removed then ([], collab)
  else
    match input with
    | .post event => ([], collab.post event)
    | .collabMission sinkDeviceId => ([], collab.collabMission sinkDeviceId)
    | .receiveDisconnectCmd => collab.cleanUpSession
    | .process answers =>
        match collab.queue with
        | [] => ([], collab)
        | event :: rest =>
            { collab with queue := rest }.processEvent answers event

def runFrom (collab : DSchedCollab) (inputs : List CollabInput) :
    List SoftbusCall × DSchedCollab :=
  let result := EventRun.run step collab inputs
  (result.1.flatten, result.2)

/-! ## References -/

/-- The device on which this step takes a reference: the event thread reaches
the version query or the start in their own states, and softbus connects. -/
def acquires (collab : DSchedCollab) (input : CollabInput) : Option String :=
  if collab.removed then none
  else
    match input, collab.state, collab.queue with
    | .process answers, .sourceGetPeerVersionState,
        .sourceGetPeerVersion :: _ =>
        if answers.connectDevice = errOk then some collab.sinkDeviceId
        else none
    | .process answers, .sourceStartState, .sourceStart :: _ =>
        if answers.connectDevice = errOk then some collab.sinkDeviceId
        else none
    | _, _, _ => none

def acquisitions (collab : DSchedCollab) : List CollabInput → List String
  | [] => []
  | input :: inputs =>
      (collab.acquires input).toList ++
        acquisitions (collab.step input).2 inputs

def connected : SoftbusCall → Option String
  | .connectDevice deviceId ret => if ret = errOk then some deviceId else none
  | .disconnectDevice _ => none

def disconnected : SoftbusCall → Option String
  | .connectDevice _ _ => none
  | .disconnectDevice deviceId => some deviceId

def Balanced (calls : List SoftbusCall) : Prop :=
  ∀ deviceId, (calls.filterMap disconnected).count deviceId =
    (calls.filterMap connected).count deviceId

instance (calls : List SoftbusCall) : Decidable (Balanced calls) :=
  decidable_of_iff
    ((calls.filterMap disconnected).Perm (calls.filterMap connected))
    List.perm_iff_count

/-! ## One step -/

/-- What a step leaves behind: it connects where it takes a reference, and it
disconnects from the current sink exactly when it removes the
collaboration. -/
structure Accounts (taken : Option String)
    (result : List SoftbusCall × DSchedCollab) : Prop where
  connected : result.1.filterMap connected = taken.toList
  disconnected : result.1.filterMap disconnected =
    if result.2.removed then [result.2.sinkDeviceId] else []

theorem accounts_quiet {collab : DSchedCollab}
    (hlive : collab.removed = false) : Accounts none ([], collab) where
  connected := rfl
  disconnected := by simp [hlive]

theorem accounts_cleanUpSession (collab : DSchedCollab) :
    Accounts none collab.cleanUpSession where
  connected := rfl
  disconnected := rfl

theorem accounts_connectAndSend (answers : CollabAnswers)
    (onSuccess : DSchedCollab → DSchedCollab) (collab : DSchedCollab)
    (hsuccess : (onSuccess collab).removed = false)
    (hlive : collab.removed = false) :
    Accounts
      (if answers.connectDevice = errOk then some collab.sinkDeviceId
        else none)
      (connectAndSend answers onSuccess collab).2 := by
  by_cases hconnect : answers.connectDevice = errOk
  · have hcalls : (connectAndSend answers onSuccess collab).2.1 =
        [.connectDevice collab.sinkDeviceId answers.connectDevice] := by
      simp only [connectAndSend, hconnect]
      split_ifs <;> rfl
    have hnext :
        (connectAndSend answers onSuccess collab).2.2.removed = false := by
      simp only [connectAndSend, hconnect]
      split_ifs <;> assumption
    constructor
    · rw [hcalls]
      simp [DSchedCollab.connected, hconnect]
    · rw [hcalls, hnext]
      rfl
  · constructor
    · simp [connectAndSend, hconnect, DSchedCollab.connected]
    · simp [connectAndSend, hconnect, DSchedCollab.disconnected, hlive]

section Collab

variable {answers : CollabAnswers} {collab : DSchedCollab}

theorem accounts_exeSrcGetVersion (hlive : collab.removed = false) :
    Accounts none (exeSrcGetVersion answers collab).2 := by
  unfold exeSrcGetVersion
  split_ifs
  · exact accounts_quiet hlive
  · exact accounts_quiet hlive

theorem accounts_exeSrcCollabResult {result : ℤ} {reason : String}
    (hlive : collab.removed = false) :
    Accounts none (exeSrcCollabResult answers result reason collab).2 := by
  unfold exeSrcCollabResult
  split_ifs
  · exact accounts_quiet hlive
  · exact accounts_cleanUpSession collab
  · exact accounts_quiet hlive
  · exact accounts_quiet hlive

theorem Accounts.processEvent {taken : Option String} {event : DSchedCollabEvent}
    (haccounts : Accounts taken (collab.execute answers event).2) :
    Accounts taken (collab.processEvent answers event) := by
  unfold DSchedCollab.processEvent
  generalize collab.execute answers event = executed at haccounts ⊢
  obtain ⟨ret, calls, next⟩ := executed
  obtain ⟨hconnected, hdisconnected⟩ := haccounts
  by_cases hret : ret ≠ errOk
  · simp only [if_pos hret]
    exact ⟨hconnected, hdisconnected⟩
  · simp only [if_neg hret]
    exact ⟨hconnected, hdisconnected⟩

theorem accounts_process (hlive : collab.removed = false) :
    Accounts (collab.acquires (.process answers))
      (collab.step (.process answers)) := by
  obtain ⟨state, sinkDeviceId, queue, removed⟩ := collab
  obtain rfl : removed = false := hlive
  cases queue with
  | nil =>
      cases state <;> exact accounts_quiet rfl
  | cons event rest =>
      apply Accounts.processEvent
      cases state with
      | sourceGetPeerVersionState =>
          cases event with
          | sourceGetPeerVersion =>
              exact accounts_connectAndSend answers id
                ⟨.sourceGetPeerVersionState, sinkDeviceId, rest, false⟩
                rfl rfl
          | sourceGetVersion => exact accounts_exeSrcGetVersion rfl
          | errEnd result => exact accounts_cleanUpSession _
          | _ => exact accounts_quiet rfl
      | sourceStartState =>
          cases event with
          | sourceStart =>
              exact accounts_connectAndSend answers
                (fun started =>
                  { started with state := .sourceWaitResultState })
                ⟨.sourceStartState, sinkDeviceId, rest, false⟩ rfl rfl
          | errEnd result => exact accounts_cleanUpSession _
          | _ => exact accounts_quiet rfl
      | sourceWaitResultState =>
          cases event with
          | notifyResult result => exact accounts_exeSrcCollabResult rfl
          | abilityReject reason => exact accounts_exeSrcCollabResult rfl
          | errEnd result => exact accounts_cleanUpSession _
          | _ => exact accounts_quiet rfl
      | sourceWaitEndState =>
          cases event with
          | errEnd result => exact accounts_cleanUpSession _
          | ended => exact accounts_cleanUpSession _
          | _ => exact accounts_quiet rfl

end Collab

theorem accounts_step {collab : DSchedCollab} (input : CollabInput)
    (hlive : collab.removed = false) :
    Accounts (collab.acquires input) (collab.step input) := by
  cases input with
  | process answers => exact accounts_process hlive
  | post event =>
      simp only [step, acquires, hlive]
      exact accounts_quiet hlive
  | collabMission sinkDeviceId =>
      simp only [step, acquires, hlive]
      exact accounts_quiet hlive
  | receiveDisconnectCmd =>
      simp only [step, acquires, hlive]
      exact accounts_cleanUpSession collab

/-! ## Whole runs -/

theorem runFrom_cons (collab : DSchedCollab) (input : CollabInput)
    (inputs : List CollabInput) :
    collab.runFrom (input :: inputs) =
      ((collab.step input).1 ++ ((collab.step input).2.runFrom inputs).1,
        ((collab.step input).2.runFrom inputs).2) := rfl

theorem runFrom_removed {collab : DSchedCollab}
    (hremoved : collab.removed = true) (inputs : List CollabInput) :
    collab.runFrom inputs = ([], collab) := by
  induction inputs with
  | nil => rfl
  | cons input inputs ih =>
      have hstep : collab.step input = ([], collab) := by
        simp [step, hremoved]
      rw [runFrom_cons, hstep, ih]
      rfl

theorem acquisitions_removed {collab : DSchedCollab}
    (hremoved : collab.removed = true) (inputs : List CollabInput) :
    collab.acquisitions inputs = [] := by
  induction inputs with
  | nil => rfl
  | cons input inputs ih =>
      have hstep : collab.step input = ([], collab) := by
        simp [step, hremoved]
      have hacquires : collab.acquires input = none := by
        simp [acquires, hremoved]
      rw [acquisitions, hstep, hacquires, ih]
      rfl

/-- Over a whole run of a live collaboration the connects are the
acquisitions, and there is one disconnect, at the removal. -/
theorem accounts_runFrom {collab : DSchedCollab}
    (hlive : collab.removed = false) (inputs : List CollabInput) :
    (collab.runFrom inputs).1.filterMap connected =
        collab.acquisitions inputs ∧
      (collab.runFrom inputs).1.filterMap disconnected =
        if (collab.runFrom inputs).2.removed
        then [(collab.runFrom inputs).2.sinkDeviceId] else [] := by
  induction inputs generalizing collab with
  | nil => simp [runFrom, acquisitions, hlive]
  | cons input inputs ih =>
      have hstep := accounts_step input hlive
      rw [runFrom_cons, acquisitions, List.filterMap_append,
        List.filterMap_append, hstep.connected, hstep.disconnected]
      cases hnext : (collab.step input).2.removed with
      | false =>
          obtain ⟨hconnected, hdisconnected⟩ := ih hnext
          exact ⟨by rw [hconnected], by simp [hdisconnected]⟩
      | true =>
          rw [runFrom_removed hnext, acquisitions_removed hnext]
          simp [hnext]

/-- A source collaboration that ran to its removal gave back exactly the
references it took if and only if it took exactly one, on the device it is
connected to at the clean-up. -/
theorem balanced_iff_acquisitions (sinkDeviceId : String)
    (inputs : List CollabInput)
    (hremoved : ((create sinkDeviceId).runFrom inputs).2.removed = true) :
    Balanced ((create sinkDeviceId).runFrom inputs).1 ↔
      (create sinkDeviceId).acquisitions inputs =
        [((create sinkDeviceId).runFrom inputs).2.sinkDeviceId] := by
  have hlive : (create sinkDeviceId).removed = false := rfl
  obtain ⟨hconnected, hdisconnected⟩ := accounts_runFrom hlive inputs
  rw [hremoved, if_pos rfl] at hdisconnected
  rw [Balanced, hconnected, hdisconnected, ← List.perm_iff_count]
  constructor
  · intro hperm
    exact List.perm_singleton.mp hperm.symm
  · intro hacquisitions
    rw [hacquisitions]

def allOk : CollabAnswers := ⟨0, 0, 0, 0⟩

def refusedQuery : List CollabInput :=
  [.process { allOk with sendCommand := -1 }, .process allOk]

theorem balanced_refusedQuery :
    ((create "sink").runFrom refusedQuery).2.removed = true ∧
      Balanced ((create "sink").runFrom refusedQuery).1 := by
  have hremoved :
      ((create "sink").runFrom refusedQuery).2.removed = true := by
    decide
  exact ⟨hremoved,
    (balanced_iff_acquisitions "sink" refusedQuery hremoved).mpr (by decide)⟩

def regularCollaboration : List CollabInput :=
  [.process allOk, .post .sourceGetVersion, .process allOk,
    .collabMission "sink", .process allOk, .post (.notifyResult errOk),
    .process allOk, .post .ended, .process allOk]

/-- The regular course of a collaboration connects twice and disconnects
once. -/
theorem not_balanced_regularCollaboration :
    ((create "sink").runFrom regularCollaboration).2.removed = true ∧
      ((create "sink").runFrom regularCollaboration).1 =
        [.connectDevice "sink" errOk, .connectDevice "sink" errOk,
          .disconnectDevice "sink"] ∧
      ¬ Balanced ((create "sink").runFrom regularCollaboration).1 := by
  decide

end DSchedCollab

end Dmsfwk
