import Dmsfwk.ChannelManager
import Dmsfwk.EventRun

/-!
# What the end states of a collaboration mean

Both state machines of `DSchedCollab`, source and sink, with the commands they
exchange and the results they report to the client and to the peer.  The sink
ability decides on the collaboration with its prepare result; the two ends wait
for the end of the collaboration once this result has reached them.
-/

namespace Dmsfwk
namespace CollabRoles

/-! ## Data model -/

inductive StateType where
  | sourceGetPeerVersion
  | sourceStart
  | sourceWaitResult
  | sourceWaitEnd
  | sinkGetVersion
  | sinkStart
  | sinkConnect
  | sinkWaitEnd
  deriving DecidableEq, Repr

inductive Event where
  | sourceGetPeerVersion
  | sourceGetVersion
  | sourceStart
  | notifyResult (result : ℤ)
  | getSinkVersion
  | startAbility
  | notifyPrepareResult (result : ℤ)
  | errEnd (result : ℤ)
  | ended
  | abilityReject (reason : Text)
  deriving DecidableEq, Repr

/-- `DSchedCollabCommand`; only the result command carries data which the state
machines look at. -/
inductive Cmd where
  | sinkGetVersion
  | sourceGetVersion
  | sinkStart
  | notifyResult (result : ℤ) (abilityRejectReason : Text)
  | disconnect
  deriving DecidableEq, Repr

inductive Effect where
  | sendCommand (cmd : Cmd)
  | srcClientNotify (result : ℤ) (reason : Text)
  | cleanUpSession
  deriving DecidableEq, Repr

structure Answers where
  connectDevice : ℤ := 0
  packCommand : ℤ := 0
  sendCommand : ℤ := 0
  clientNotify : ℤ := 0
  checkCollabStartPermission : ℤ := 0
  connectAbilityManager : ℤ := 0
  startAbilityByCall : ℤ := 0
  deriving DecidableEq, Repr

structure Collab where
  state : StateType
  queue : List Event
  removed : Bool
  deriving DecidableEq, Repr

def errOk : ℤ := 0
def invalidParametersErr : ℤ := 29360128
def collabSessionShutdown : ℤ := 29360333
def collabStateMachineInvalidState : ℤ := 29360339
def collabAbilityTimeoutErr : ℤ := 29360340
def collabAbilityRejectErr : ℤ := 29360341

namespace Collab

/-! ## Handlers -/

abbrev ExeResult := ℤ × List Effect × Collab

def post (collab : Collab) (event : Event) : Collab :=
  { collab with queue := collab.queue ++ [event] }

def postErrEndTask (collab : Collab) (result : ℤ) : Collab :=
  collab.post (.errEnd result)

def cleanUpSession (collab : Collab) : Collab :=
  { collab with removed := true }

def exeSrcGetPeerVersion (answers : Answers) (collab : Collab) : ExeResult :=
  if answers.connectDevice ≠ errOk then (answers.connectDevice, [], collab)
  else if answers.packCommand ≠ errOk then (answers.packCommand, [], collab)
  else (answers.sendCommand, [.sendCommand .sinkGetVersion], collab)

def exeSrcGetVersion (answers : Answers) (collab : Collab) : ExeResult :=
  if answers.clientNotify ≠ errOk then
    (errOk, [], collab.postErrEndTask answers.clientNotify)
  else (errOk, [], collab)

def exeSrcStart (answers : Answers) (collab : Collab) : ExeResult :=
  if answers.connectDevice ≠ errOk then (answers.connectDevice, [], collab)
  else if answers.packCommand ≠ errOk then (answers.packCommand, [], collab)
  else if answers.sendCommand ≠ errOk then
    (answers.sendCommand, [.sendCommand .sinkStart], collab)
  else
    (errOk, [.sendCommand .sinkStart],
      { collab with state := .sourceWaitResult })

/-- `ExeSrcCollabResult`.  A failed notification posts the received result and
not the code of the failure. -/
def exeSrcCollabResult (answers : Answers) (result : ℤ) (reason : Text)
    (collab : Collab) : ExeResult :=
  if result ≠ errOk ∧ result ≠ collabAbilityRejectErr then
    (errOk, [], collab.postErrEndTask result)
  else if reason ≠ [] then
    (errOk, [.srcClientNotify result reason, .cleanUpSession],
      collab.cleanUpSession)
  else if answers.clientNotify ≠ errOk then
    (errOk, [.srcClientNotify result reason], collab.postErrEndTask result)
  else
    (errOk, [.srcClientNotify result reason],
      { collab with state := .sourceWaitEnd })

def exeSrcError (result : ℤ) (collab : Collab) : ExeResult :=
  (errOk, [.srcClientNotify result [], .cleanUpSession], collab.cleanUpSession)

def exeSrcWaitResultError (result : ℤ) (collab : Collab) : ExeResult :=
  (errOk, [.sendCommand (.notifyResult result []), .srcClientNotify result [],
    .cleanUpSession], collab.cleanUpSession)

def exeSinkGetVersion (collab : Collab) : ExeResult :=
  (errOk, [.sendCommand .sourceGetVersion], { collab with state := .sinkStart })

def exeStartAbility (answers : Answers) (collab : Collab) : ExeResult :=
  if answers.checkCollabStartPermission ≠ errOk then
    (answers.checkCollabStartPermission, [], collab)
  else if answers.connectAbilityManager ≠ errOk then
    (answers.connectAbilityManager, [], collab)
  else if answers.startAbilityByCall ≠ errOk then
    (errOk, [], collab.postErrEndTask answers.startAbilityByCall)
  else (errOk, [], { collab with state := .sinkConnect })

def exeSinkPrepareResult (answers : Answers) (result : ℤ) (collab : Collab) :
    ExeResult :=
  if result ≠ errOk ∧ result ≠ collabAbilityRejectErr then
    (errOk, [], collab.postErrEndTask result)
  else if answers.sendCommand ≠ errOk then
    (answers.sendCommand, [.sendCommand (.notifyResult result [])], collab)
  else
    (errOk, [.sendCommand (.notifyResult result [])],
      { collab with state := .sinkWaitEnd })

def exeAbilityRejectError (reason : Text) (collab : Collab) : ExeResult :=
  (errOk, [.sendCommand (.notifyResult collabAbilityRejectErr reason),
    .cleanUpSession], collab.cleanUpSession)

def exeSinkError (result : ℤ) (collab : Collab) : ExeResult :=
  (errOk, [.sendCommand (.notifyResult result []), .cleanUpSession],
    collab.cleanUpSession)

def exeDisconnect (collab : Collab) : ExeResult :=
  (errOk, [.sendCommand .disconnect, .cleanUpSession], collab.cleanUpSession)

def execute (answers : Answers) (collab : Collab) (event : Event) : ExeResult :=
  match collab.state, event with
  | .sourceGetPeerVersion, .sourceGetPeerVersion =>
      exeSrcGetPeerVersion answers collab
  | .sourceGetPeerVersion, .sourceGetVersion => exeSrcGetVersion answers collab
  | .sourceGetPeerVersion, .errEnd result => exeSrcError result collab
  | .sourceStart, .sourceStart => exeSrcStart answers collab
  | .sourceStart, .errEnd result => exeSrcError result collab
  | .sourceWaitResult, .notifyResult result =>
      exeSrcCollabResult answers result [] collab
  | .sourceWaitResult, .abilityReject reason =>
      exeSrcCollabResult answers collabAbilityRejectErr reason collab
  | .sourceWaitResult, .errEnd result => exeSrcWaitResultError result collab
  | .sourceWaitEnd, .errEnd _ => exeDisconnect collab
  | .sourceWaitEnd, .ended => exeDisconnect collab
  | .sinkGetVersion, .getSinkVersion => exeSinkGetVersion collab
  | .sinkGetVersion, .errEnd result => exeSinkError result collab
  | .sinkStart, .startAbility => exeStartAbility answers collab
  | .sinkStart, .errEnd result => exeSinkError result collab
  | .sinkConnect, .notifyPrepareResult result =>
      exeSinkPrepareResult answers result collab
  | .sinkConnect, .abilityReject reason => exeAbilityRejectError reason collab
  | .sinkConnect, .errEnd result => exeSinkError result collab
  | .sinkWaitEnd, .errEnd _ => exeDisconnect collab
  | .sinkWaitEnd, .ended => exeDisconnect collab
  | _, _ => (collabStateMachineInvalidState, [], collab)

def processEvent (answers : Answers) (collab : Collab) (event : Event) :
    List Effect × Collab :=
  match collab.execute answers event with
  | (ret, effects, next) =>
      (effects, if ret ≠ errOk then next.postErrEndTask ret else next)

/-! ## Calls on a collaboration -/

inductive Input where
  | collabMission
  | notifySinkPrepareResult (result : ℤ)
  | notifySinkRejectReason (reason : Text)
  | notifyStartAbilityResult (result : ℤ)
  | unmarshalFailed
  | timeout
  | shutdown
  | endTask
  | process (answers : Answers)
  deriving DecidableEq, Repr

def step (collab : Collab) (input : Input) : List Effect × Collab :=
  if collab.removed then ([], collab)
  else
    match input with
    | .collabMission =>
        ([], { collab with state := .sourceStart }.post .sourceStart)
    | .notifySinkPrepareResult result =>
        ([], collab.post (.notifyPrepareResult result))
    | .notifySinkRejectReason reason =>
        ([], collab.post (.abilityReject reason))
    | .notifyStartAbilityResult result =>
        ([], if result ≠ errOk then collab.postErrEndTask result else collab)
    | .unmarshalFailed => ([], collab.postErrEndTask invalidParametersErr)
    | .timeout => ([], collab.postErrEndTask collabAbilityTimeoutErr)
    | .shutdown => ([], collab.postErrEndTask collabSessionShutdown)
    | .endTask => ([], collab.post .ended)
    | .process answers =>
        match collab.queue with
        | [] => ([], collab)
        | event :: rest => { collab with queue := rest }.processEvent answers event

def onDataRecv (collab : Collab) (cmd : Cmd) : List Effect × Collab :=
  if collab.removed then ([], collab)
  else
    match cmd with
    | .sourceGetVersion => ([], collab.post .sourceGetVersion)
    | .sinkStart => ([], collab.post .startAbility)
    | .notifyResult result reason =>
        ([], collab.post
          (if reason ≠ [] then .abilityReject reason else .notifyResult result))
    | .disconnect => ([.cleanUpSession], collab.cleanUpSession)
    | .sinkGetVersion => ([], collab)

end Collab

/-! ## Two ends -/

/-- Both ends of a collaboration.  The lists of commands hold everything that
was handed to softbus in one direction, and `prepareResults` what the sink
ability has answered. -/
structure Pair where
  source : Collab
  sink : Collab
  toSink : List Cmd
  toSource : List Cmd
  prepareResults : List ℤ
  deriving DecidableEq, Repr

def createdSink : Collab :=
  ⟨.sinkGetVersion, [.getSinkVersion], false⟩

/-- Before the first version command there is no sink collaboration, which is
the same as one that has been removed. -/
def Pair.initial : Pair where
  source := ⟨.sourceGetPeerVersion, [.sourceGetPeerVersion], false⟩
  sink := { createdSink with removed := true }
  toSink := []
  toSource := []
  prepareResults := []

inductive Move where
  | source (input : Collab.Input)
  | sink (input : Collab.Input)
  | toSink (cmd : Cmd)
  | toSource (cmd : Cmd)
  deriving DecidableEq, Repr

def sentBy (effects : List Effect) : List Cmd :=
  effects.filterMap fun
    | .sendCommand cmd => some cmd
    | _ => none

def prepareResultOf (sink : Collab) : Collab.Input → List ℤ
  | .notifySinkPrepareResult result => if sink.removed then [] else [result]
  | _ => []

namespace Pair

def updateSource (pair : Pair) (result : List Effect × Collab) : Pair :=
  { pair with
    source := result.2, toSink := pair.toSink ++ sentBy result.1 }

def updateSink (pair : Pair) (result : List Effect × Collab) : Pair :=
  { pair with
    sink := result.2, toSource := pair.toSource ++ sentBy result.1 }

/-- `NotifyDataRecv` at the sink, which creates a collaboration for a version
command with an unknown token. -/
def sinkDataRecv (sink : Collab) (cmd : Cmd) : List Effect × Collab :=
  if sink.removed ∧ cmd = .sinkGetVersion then ([], createdSink)
  else sink.onDataRecv cmd

def step (pair : Pair) : Move → List Effect × Pair
  | .source input =>
      let result := pair.source.step input
      (result.1, pair.updateSource result)
  | .sink input =>
      let result := pair.sink.step input
      (result.1, { pair with
        prepareResults :=
          pair.prepareResults ++ prepareResultOf pair.sink input
        }.updateSink result)
  | .toSink cmd =>
      if cmd ∈ pair.toSink then
        let result := sinkDataRecv pair.sink cmd
        (result.1, pair.updateSink result)
      else ([], pair)
  | .toSource cmd =>
      if cmd ∈ pair.toSource then
        let result := pair.source.onDataRecv cmd
        (result.1, pair.updateSource result)
      else ([], pair)

end Pair

/-! ## Truthful reports -/

def StateType.IsEnd (state : StateType) : Prop :=
  state = .sourceWaitEnd ∨ state = .sinkWaitEnd

def Pair.EndsMeanSuccess (pair : Pair) : Prop :=
  pair.source.state.IsEnd ∨ pair.sink.state.IsEnd →
    errOk ∈ pair.prepareResults

/-- A step leaves only deserved end states, tells the client about success only
when it enters the end state of the source, and never reports success while it
tears the collaboration down. -/
structure Truthful (pair : Pair) (move : Move) : Prop where
  ends : (pair.step move).2.EndsMeanSuccess
  client : ∀ reason, .srcClientNotify errOk reason ∈ (pair.step move).1 →
    ((pair.step move).2.source.state = .sourceWaitEnd ∧
        pair.source.state ≠ .sourceWaitEnd) ∨
      ((pair.step move).2.sink.state = .sourceWaitEnd ∧
        pair.sink.state ≠ .sourceWaitEnd)
  tornDown : .cleanUpSession ∈ (pair.step move).1 →
    ∀ reason, .srcClientNotify errOk reason ∉ (pair.step move).1 ∧
      .sendCommand (.notifyResult errOk reason) ∉ (pair.step move).1

/-- The handlers of a rejection and of an acceptance which go wrong are not
reached: an acceptance which the client cannot be told, and a rejection without
a reason which the next party takes note of. -/
def Collab.Sound (answers : Answers) (collab : Collab) (event : Event) : Prop :=
  match collab.state, event with
  | .sourceWaitResult, .notifyResult result =>
      (result = errOk → answers.clientNotify = errOk) ∧
        (result = collabAbilityRejectErr → answers.clientNotify ≠ errOk)
  | .sourceWaitResult, .abilityReject reason =>
      reason = [] → answers.clientNotify ≠ errOk
  | .sinkConnect, .notifyPrepareResult result =>
      result = collabAbilityRejectErr → answers.sendCommand ≠ errOk
  | _, _ => True

instance (answers : Answers) (collab : Collab) (event : Event) :
    Decidable (collab.Sound answers event) := by
  unfold Collab.Sound
  split <;> infer_instance

def Collab.SoundInput (collab : Collab) : Collab.Input → Prop
  | .process answers => ∀ event ∈ collab.queue.head?, collab.Sound answers event
  | _ => True

instance (collab : Collab) : DecidablePred collab.SoundInput := by
  intro input
  cases input <;> unfold Collab.SoundInput <;> infer_instance

def Pair.Sound (pair : Pair) : Move → Prop
  | .source input => pair.source.SoundInput input
  | .sink input => pair.sink.SoundInput input
  | _ => True

instance (pair : Pair) : DecidablePred pair.Sound := by
  intro move
  cases move <;> unfold Pair.Sound <;> infer_instance

/-! ## One handler -/

def StateType.IsSource : StateType → Prop
  | .sourceGetPeerVersion | .sourceStart | .sourceWaitResult
  | .sourceWaitEnd => True
  | _ => False

/-- What a handler may do: it posts error ends with error codes only, and it
reports a success which the event brought. -/
structure Regular (collab : Collab) (event : Event)
    (effects : List Effect) (next : Collab) : Prop where
  queue : ∀ posted ∈ next.queue, posted ∈ collab.queue ∨
    ∃ code, code ≠ errOk ∧ posted = .errEnd code
  sourceEnd : next.state = .sourceWaitEnd →
    collab.state = .sourceWaitEnd ∨ event = .notifyResult errOk
  sinkEnd : next.state = .sinkWaitEnd → collab.state = .sinkWaitEnd ∨
    (collab.state = .sinkConnect ∧ event = .notifyPrepareResult errOk)
  isSource : collab.state.IsSource → next.state.IsSource
  client : ∀ reason, .srcClientNotify errOk reason ∈ effects →
    next.state = .sourceWaitEnd ∧ collab.state ≠ .sourceWaitEnd ∧
      .cleanUpSession ∉ effects
  peer : ∀ reason, .sendCommand (.notifyResult errOk reason) ∈ effects →
    (collab.state = .sinkConnect ∧ event = .notifyPrepareResult errOk) ∧
      .cleanUpSession ∉ effects

section Handlers

variable {collab next : Collab} {event : Event} {answers : Answers}
  {effects : List Effect}

theorem regular_quiet
    (hclient : ∀ reason, .srcClientNotify errOk reason ∉ effects)
    (hpeer : ∀ reason, .sendCommand (.notifyResult errOk reason) ∉ effects) :
    Regular collab event effects collab where
  queue := fun _ hposted => .inl hposted
  sourceEnd := .inl
  sinkEnd := .inl
  isSource := id
  client := fun reason hmem => absurd hmem (hclient reason)
  peer := fun reason hmem => absurd hmem (hpeer reason)

theorem Regular.cleanUpSession
    (hregular : Regular collab event effects next) :
    Regular collab event effects next.cleanUpSession :=
  ⟨hregular.queue, hregular.sourceEnd, hregular.sinkEnd, hregular.isSource,
    hregular.client, hregular.peer⟩

theorem Regular.postErrEndTask {code : ℤ}
    (hregular : Regular collab event effects next) (hcode : code ≠ errOk) :
    Regular collab event effects (next.postErrEndTask code) where
  queue := by
    intro posted hposted
    rcases List.mem_append.mp hposted with hold | hnew
    · exact hregular.queue posted hold
    · exact .inr ⟨code, hcode, List.mem_singleton.mp hnew⟩
  sourceEnd := hregular.sourceEnd
  sinkEnd := hregular.sinkEnd
  isSource := hregular.isSource
  client := hregular.client
  peer := hregular.peer

theorem Regular.setState {state : StateType}
    (hregular : Regular collab event effects collab)
    (hend : ¬state.IsEnd) (hsource : collab.state.IsSource → state.IsSource)
    (hclient : ∀ reason, .srcClientNotify errOk reason ∉ effects) :
    Regular collab event effects { collab with state := state } where
  queue := hregular.queue
  sourceEnd := fun hstate => absurd (.inl hstate) hend
  sinkEnd := fun hstate => absurd (.inr hstate) hend
  isSource := hsource
  client := fun reason hmem => absurd hmem (hclient reason)
  peer := hregular.peer

theorem regular_exeSrcGetPeerVersion :
    Regular collab event (collab.exeSrcGetPeerVersion answers).2.1
      (collab.exeSrcGetPeerVersion answers).2.2 := by
  unfold Collab.exeSrcGetPeerVersion
  split_ifs <;> exact regular_quiet (by simp) (by simp)

theorem regular_exeSrcGetVersion :
    Regular collab event (collab.exeSrcGetVersion answers).2.1
      (collab.exeSrcGetVersion answers).2.2 := by
  unfold Collab.exeSrcGetVersion
  split_ifs with hnotify
  · exact (regular_quiet (by simp) (by simp)).postErrEndTask hnotify
  · exact regular_quiet (by simp) (by simp)

theorem regular_exeSrcStart :
    Regular collab event (collab.exeSrcStart answers).2.1
      (collab.exeSrcStart answers).2.2 := by
  unfold Collab.exeSrcStart
  split_ifs
  · exact regular_quiet (by simp) (by simp)
  · exact regular_quiet (by simp) (by simp)
  · exact regular_quiet (by simp) (by simp)
  · exact (regular_quiet (by simp) (by simp)).setState
      (by simp [StateType.IsEnd]) (fun _ => trivial) (by simp)

theorem regular_exeSrcCollabResult_notify {result : ℤ}
    (hstate : collab.state = .sourceWaitResult)
    (haccept : result = errOk → answers.clientNotify = errOk)
    (hreject : result = collabAbilityRejectErr →
      answers.clientNotify ≠ errOk) :
    Regular collab (.notifyResult result)
      (collab.exeSrcCollabResult answers result []).2.1
      (collab.exeSrcCollabResult answers result []).2.2 := by
  unfold Collab.exeSrcCollabResult
  split_ifs with herror hreason hnotify
  · exact (regular_quiet (by simp) (by simp)).postErrEndTask herror.1
  · exact absurd rfl hreason
  · have hne : result ≠ errOk := fun heq => hnotify (haccept heq)
    exact (regular_quiet (by simp [Ne.symm hne]) (by simp)).postErrEndTask hne
  · have hok : result = errOk := by
      by_contra hne
      exact hreject (by tauto) (not_not.mp hnotify)
    subst hok
    exact ⟨fun _ hposted => .inl hposted, fun _ => .inr rfl, by simp,
      fun _ => trivial, by simp [hstate], by simp⟩

theorem regular_exeSrcCollabResult_reject {reason : Text}
    (hquiet : reason = [] → answers.clientNotify ≠ errOk) :
    Regular collab (.abilityReject reason)
      (collab.exeSrcCollabResult answers collabAbilityRejectErr reason).2.1
      (collab.exeSrcCollabResult answers collabAbilityRejectErr
        reason).2.2 := by
  have hne : collabAbilityRejectErr ≠ errOk := by decide
  unfold Collab.exeSrcCollabResult
  split_ifs with herror hreason hnotify
  · exact absurd rfl herror.2
  · exact (regular_quiet (by simp [Ne.symm hne]) (by simp)).cleanUpSession
  · exact (regular_quiet (by simp [Ne.symm hne]) (by simp)).postErrEndTask hne
  · exact absurd (not_not.mp hnotify) (hquiet (not_not.mp hreason))

theorem regular_exeStartAbility (hstate : collab.state = .sinkStart) :
    Regular collab event (collab.exeStartAbility answers).2.1
      (collab.exeStartAbility answers).2.2 := by
  unfold Collab.exeStartAbility
  split_ifs with hpermission hconnect hstart
  · exact regular_quiet (by simp) (by simp)
  · exact regular_quiet (by simp) (by simp)
  · exact (regular_quiet (by simp) (by simp)).postErrEndTask hstart
  · exact (regular_quiet (by simp) (by simp)).setState
      (by simp [StateType.IsEnd]) (by simp [hstate, StateType.IsSource])
      (by simp)

theorem regular_exeSinkPrepareResult {result : ℤ}
    (hstate : collab.state = .sinkConnect)
    (hreject : result = collabAbilityRejectErr →
      answers.sendCommand ≠ errOk) :
    Regular collab (.notifyPrepareResult result)
      (collab.exeSinkPrepareResult answers result).2.1
      (collab.exeSinkPrepareResult answers result).2.2 := by
  unfold Collab.exeSinkPrepareResult
  split_ifs with herror hsend
  · exact (regular_quiet (by simp) (by simp)).postErrEndTask herror.1
  · exact ⟨fun _ hposted => .inl hposted, .inl, .inl, id, by simp,
      by simp [hstate, eq_comm]⟩
  · have hok : result = errOk := by
      by_contra hne
      exact hreject (by tauto) (not_not.mp hsend)
    subst hok
    exact ⟨fun _ hposted => .inl hposted, by simp, fun _ => .inr ⟨hstate, rfl⟩,
      by simp [hstate, StateType.IsSource], by simp, by simp [hstate]⟩

theorem regular_error {code : ℤ} (hcode : code ≠ errOk)
    (heffects : ∀ effect ∈ effects,
      effect = .sendCommand (.notifyResult code []) ∨
      effect = .srcClientNotify code [] ∨ effect = .cleanUpSession) :
    Regular collab event effects collab.cleanUpSession := by
  apply Regular.cleanUpSession
  apply regular_quiet
  · intro reason hmem
    have hcases := heffects _ hmem
    simp [Ne.symm hcode] at hcases
  · intro reason hmem
    have hcases := heffects _ hmem
    simp [Ne.symm hcode] at hcases

theorem regular_exeDisconnect :
    Regular collab event collab.exeDisconnect.2.1 collab.exeDisconnect.2.2 := by
  unfold Collab.exeDisconnect
  exact (regular_quiet (by simp) (by simp)).cleanUpSession

theorem regular_exeSinkGetVersion (hstate : collab.state = .sinkGetVersion) :
    Regular collab event collab.exeSinkGetVersion.2.1
      collab.exeSinkGetVersion.2.2 := by
  unfold Collab.exeSinkGetVersion
  exact (regular_quiet (by simp) (by simp)).setState
    (by simp [StateType.IsEnd]) (by simp [hstate, StateType.IsSource])
    (by simp)

theorem regular_exeAbilityRejectError (reason : Text) :
    Regular collab event (collab.exeAbilityRejectError reason).2.1
      (collab.exeAbilityRejectError reason).2.2 := by
  have hne : collabAbilityRejectErr ≠ errOk := by decide
  unfold Collab.exeAbilityRejectError
  exact (regular_quiet (by simp) (by simp [Ne.symm hne])).cleanUpSession

theorem regular_execute (hsound : collab.Sound answers event)
    (herr : event ≠ .errEnd errOk) :
    Regular collab event (collab.execute answers event).2.1
      (collab.execute answers event).2.2 := by
  have hcode : ∀ code, event = .errEnd code → code ≠ errOk := by
    rintro code rfl rfl
    exact herr rfl
  unfold Collab.Sound at hsound
  unfold Collab.execute
  -- one case for each entry of the function tables, and the invalid ones
  split
  · exact regular_exeSrcGetPeerVersion
  · exact regular_exeSrcGetVersion
  · exact regular_error (hcode _ rfl) (by simp [Collab.exeSrcError])
  · exact regular_exeSrcStart
  · exact regular_error (hcode _ rfl) (by simp [Collab.exeSrcError])
  · next result hstate =>
      simp only [hstate] at hsound
      exact regular_exeSrcCollabResult_notify hstate hsound.1 hsound.2
  · next reason hstate =>
      simp only [hstate] at hsound
      exact regular_exeSrcCollabResult_reject hsound
  · exact regular_error (hcode _ rfl) (by simp [Collab.exeSrcWaitResultError])
  · exact regular_exeDisconnect
  · exact regular_exeDisconnect
  · next hstate => exact regular_exeSinkGetVersion hstate
  · exact regular_error (hcode _ rfl) (by simp [Collab.exeSinkError])
  · next hstate => exact regular_exeStartAbility hstate
  · exact regular_error (hcode _ rfl) (by simp [Collab.exeSinkError])
  · next result hstate =>
      simp only [hstate] at hsound
      exact regular_exeSinkPrepareResult hstate hsound
  · exact regular_exeAbilityRejectError _
  · exact regular_error (hcode _ rfl) (by simp [Collab.exeSinkError])
  · exact regular_exeDisconnect
  · exact regular_exeDisconnect
  · exact regular_quiet (fun _ => List.not_mem_nil) (fun _ => List.not_mem_nil)

theorem regular_processEvent (hsound : collab.Sound answers event)
    (herr : event ≠ .errEnd errOk) :
    Regular collab event (collab.processEvent answers event).1
      (collab.processEvent answers event).2 := by
  have hregular := regular_execute hsound herr
  unfold Collab.processEvent
  split
  next ret effects next hexecute =>
    rw [hexecute] at hregular
    split_ifs with hret
    · exact hregular.postErrEndTask hret
    · exact hregular

end Handlers

/-! ## One end -/

/-- Every success which a collaboration knows of goes back to the sink
ability, and no error end is pending without an error. -/
structure Backed (prepareResults : List ℤ) (collab : Collab) : Prop where
  errEnd : .errEnd errOk ∉ collab.queue
  notify : .notifyResult errOk ∈ collab.queue → errOk ∈ prepareResults
  prepare : collab.state.IsSource ∨
    (.notifyPrepareResult errOk ∈ collab.queue → errOk ∈ prepareResults)
  ends : collab.state.IsEnd → errOk ∈ prepareResults

structure Kept (prepareResults : List ℤ) (collab : Collab)
    (result : List Effect × Collab) : Prop where
  backed : Backed prepareResults result.2
  isSource : collab.state.IsSource → result.2.state.IsSource
  client : ∀ reason, .srcClientNotify errOk reason ∈ result.1 →
    result.2.state = .sourceWaitEnd ∧ collab.state ≠ .sourceWaitEnd ∧
      .cleanUpSession ∉ result.1
  peer : ∀ reason, .sendCommand (.notifyResult errOk reason) ∈ result.1 →
    errOk ∈ prepareResults ∧ .cleanUpSession ∉ result.1

variable {cmd : Cmd}

section OneEnd

variable {prepareResults : List ℤ} {collab : Collab}

theorem Backed.mono {larger : List ℤ} (hbacked : Backed prepareResults collab)
    (hsubset : prepareResults ⊆ larger) : Backed larger collab where
  errEnd := hbacked.errEnd
  notify := fun hmem => hsubset (hbacked.notify hmem)
  prepare := hbacked.prepare.imp_right fun himp hmem => hsubset (himp hmem)
  ends := fun hend => hsubset (hbacked.ends hend)

theorem Backed.post {event : Event} (hbacked : Backed prepareResults collab)
    (herr : event ≠ .errEnd errOk)
    (hnotify : event = .notifyResult errOk → errOk ∈ prepareResults)
    (hprepare : event = .notifyPrepareResult errOk →
      collab.state.IsSource ∨ errOk ∈ prepareResults) :
    Backed prepareResults (collab.post event) where
  errEnd := by
    simp only [Collab.post, List.mem_append, List.mem_singleton, not_or]
    exact ⟨hbacked.errEnd, herr.symm⟩
  notify := by
    intro hmem
    rcases List.mem_append.mp hmem with hold | hnew
    · exact hbacked.notify hold
    · exact hnotify (List.mem_singleton.mp hnew).symm
  prepare := by
    rcases hbacked.prepare with hsource | himp
    · exact .inl hsource
    · by_cases hevent : event = .notifyPrepareResult errOk
      · exact (hprepare hevent).imp_right fun hok _ => hok
      · refine .inr fun hmem => himp ?_
        rcases List.mem_append.mp hmem with hold | hnew
        · exact hold
        · exact absurd (List.mem_singleton.mp hnew).symm hevent
  ends := hbacked.ends

theorem Kept.quiet {next : Collab} (hbacked : Backed prepareResults next)
    (hsource : collab.state.IsSource → next.state.IsSource) :
    Kept prepareResults collab ([], next) where
  backed := hbacked
  isSource := hsource
  client := fun _ hmem => absurd hmem List.not_mem_nil
  peer := fun _ hmem => absurd hmem List.not_mem_nil

section Backed

variable (hbacked : Backed prepareResults collab)

include hbacked

theorem Kept.post {event : Event} (herr : event ≠ .errEnd errOk)
    (hnotify : event = .notifyResult errOk → errOk ∈ prepareResults)
    (hprepare : event = .notifyPrepareResult errOk →
      collab.state.IsSource ∨ errOk ∈ prepareResults) :
    Kept prepareResults collab ([], collab.post event) :=
  Kept.quiet (hbacked.post herr hnotify hprepare) id

theorem kept_processEvent {event : Event} {rest : List Event} {answers : Answers}
    (hqueue : collab.queue = event :: rest) (hsound : collab.Sound answers event) :
    Kept prepareResults collab
      ({ collab with queue := rest }.processEvent answers event) := by
  have hhead : event ∈ collab.queue := by simp [hqueue]
  have hrest : rest ⊆ collab.queue := by simp [hqueue]
  have herr : event ≠ .errEnd errOk := fun heq => hbacked.errEnd (heq ▸ hhead)
  have hregular : Regular { collab with queue := rest } event _ _ :=
    regular_processEvent hsound herr
  -- the head of the queue is backed like the rest of it
  have haccepted : collab.state = .sinkConnect ∧
      event = .notifyPrepareResult errOk → errOk ∈ prepareResults := by
    rintro ⟨hstate, rfl⟩
    rcases hbacked.prepare with hsource | himp
    · rw [hstate] at hsource
      exact hsource.elim
    · exact himp hhead
  have hold : ∀ posted, (∀ code, posted ≠ .errEnd code) →
      posted ∈ ({ collab with queue := rest }.processEvent answers
        event).2.queue → posted ∈ collab.queue := by
    intro posted hne hmem
    rcases hregular.queue posted hmem with hmem | ⟨code, -, heq⟩
    · exact hrest hmem
    · exact absurd heq (hne code)
  refine ⟨⟨?_, ?_, ?_, ?_⟩, hregular.isSource, hregular.client, ?_⟩
  · intro hmem
    rcases hregular.queue _ hmem with hmem | ⟨code, hcode, heq⟩
    · exact hbacked.errEnd (hrest hmem)
    · exact hcode (Event.errEnd.inj heq).symm
  · exact fun hmem => hbacked.notify (hold _ (by simp) hmem)
  · rcases hbacked.prepare with hsource | himp
    · exact .inl (hregular.isSource hsource)
    · exact .inr fun hmem => himp (hold _ (by simp) hmem)
  · rintro (hend | hend)
    · rcases hregular.sourceEnd hend with hstate | rfl
      · exact hbacked.ends (.inl hstate)
      · exact hbacked.notify hhead
    · rcases hregular.sinkEnd hend with hstate | hconnect
      · exact hbacked.ends (.inr hstate)
      · exact haccepted hconnect
  · intro reason hmem
    obtain ⟨hconnect, hclean⟩ := hregular.peer reason hmem
    exact ⟨haccepted hconnect, hclean⟩

theorem kept_step {input : Collab.Input} (hsound : collab.SoundInput input)
    (hprepare : input = .notifySinkPrepareResult errOk →
      collab.state.IsSource ∨ errOk ∈ prepareResults) :
    Kept prepareResults collab (collab.step input) := by
  unfold Collab.step
  split_ifs with hremoved
  · exact Kept.quiet hbacked id
  · cases input with
    | collabMission =>
        have hstart : Backed prepareResults
            { collab with state := .sourceStart } :=
          ⟨hbacked.errEnd, hbacked.notify, .inl trivial,
            by simp [StateType.IsEnd]⟩
        exact Kept.quiet (hstart.post (by simp) (by simp) (by simp))
          fun _ => trivial
    | notifySinkPrepareResult result =>
        exact Kept.post hbacked (by simp) (by simp)
          fun heq => hprepare (by rw [Event.notifyPrepareResult.inj heq])
    | notifySinkRejectReason reason =>
        exact Kept.post hbacked (by simp) (by simp) (by simp)
    | notifyStartAbilityResult result =>
        dsimp only
        split_ifs with hresult
        · exact Kept.post hbacked (by simpa using hresult) (by simp) (by simp)
        · exact Kept.quiet hbacked id
    | unmarshalFailed =>
        exact Kept.post hbacked (by decide) (by simp) (by simp)
    | timeout =>
        exact Kept.post hbacked (by decide) (by simp) (by simp)
    | shutdown =>
        exact Kept.post hbacked (by decide) (by simp) (by simp)
    | endTask => exact Kept.post hbacked (by simp) (by simp) (by simp)
    | process answers =>
        cases hqueue : collab.queue with
        | nil => exact Kept.quiet hbacked id
        | cons event rest =>
            exact kept_processEvent hbacked hqueue
              (hsound event (by rw [hqueue]; rfl))

theorem kept_onDataRecv
    (hcmd : ∀ reason, cmd = .notifyResult errOk reason →
      errOk ∈ prepareResults) :
    Kept prepareResults collab (collab.onDataRecv cmd) := by
  unfold Collab.onDataRecv
  split_ifs with hremoved
  · exact Kept.quiet hbacked id
  · cases cmd with
    | sinkGetVersion => exact Kept.quiet hbacked id
    | sourceGetVersion => exact Kept.post hbacked (by simp) (by simp) (by simp)
    | sinkStart => exact Kept.post hbacked (by simp) (by simp) (by simp)
    | notifyResult result reason =>
        dsimp only
        split_ifs with hreason
        · exact Kept.post hbacked (by simp) (by simp) (by simp)
        · refine Kept.post hbacked (by simp) (fun heq => ?_) (by simp)
          exact hcmd reason (by rw [Event.notifyResult.inj heq])
    | disconnect =>
        exact ⟨⟨hbacked.errEnd, hbacked.notify, hbacked.prepare, hbacked.ends⟩,
          id, by simp, by simp⟩

end Backed

end OneEnd

/-! ## Both ends -/

/-- Every success known at either end or on its way goes back to the sink
ability. -/
structure Pair.Invariant (pair : Pair) : Prop where
  source : Backed pair.prepareResults pair.source
  sourceIsSource : pair.source.state.IsSource
  sink : Backed pair.prepareResults pair.sink
  toSink : ∀ reason, .notifyResult errOk reason ∈ pair.toSink →
    errOk ∈ pair.prepareResults
  toSource : ∀ reason, .notifyResult errOk reason ∈ pair.toSource →
    errOk ∈ pair.prepareResults

theorem Pair.initial_invariant : Pair.initial.Invariant where
  source := ⟨by decide, by decide, .inl trivial, by simp [StateType.IsEnd, initial]⟩
  sourceIsSource := trivial
  sink := ⟨by decide, by decide, .inr (by decide),
    by simp [StateType.IsEnd, initial, createdSink]⟩
  toSink := by simp [initial]
  toSource := by simp [initial]

theorem mem_sentBy {effects : List Effect} (hmem : cmd ∈ sentBy effects) : .sendCommand cmd ∈ effects := by
  obtain ⟨effect, heffect, hcmd⟩ := List.mem_filterMap.mp hmem
  cases effect with
  | sendCommand sent => exact Option.some.inj hcmd ▸ heffect
  | srcClientNotify result reason => cases hcmd
  | cleanUpSession => cases hcmd

namespace Pair

variable {pair : Pair}

theorem Invariant.endsMeanSuccess (hinv : pair.Invariant) :
    pair.EndsMeanSuccess := by
  rintro (hend | hend)
  · exact hinv.source.ends hend
  · exact hinv.sink.ends hend

variable {result : List Effect × Collab}

theorem Invariant.updateSource (hinv : pair.Invariant)
    (hkept : Kept pair.prepareResults pair.source result) :
    (pair.updateSource result).Invariant where
  source := hkept.backed
  sourceIsSource := hkept.isSource hinv.sourceIsSource
  sink := hinv.sink
  toSink := by
    intro reason hmem
    rcases List.mem_append.mp hmem with hold | hnew
    · exact hinv.toSink reason hold
    · exact (hkept.peer reason (mem_sentBy hnew)).1
  toSource := hinv.toSource

theorem Invariant.updateSink (hinv : pair.Invariant)
    (hbacked : Backed pair.prepareResults result.2)
    (hpeer : ∀ reason, .sendCommand (.notifyResult errOk reason) ∈ result.1 →
      errOk ∈ pair.prepareResults) :
    (pair.updateSink result).Invariant where
  source := hinv.source
  sourceIsSource := hinv.sourceIsSource
  sink := hbacked
  toSink := hinv.toSink
  toSource := by
    intro reason hmem
    rcases List.mem_append.mp hmem with hold | hnew
    · exact hinv.toSource reason hold
    · exact hpeer reason (mem_sentBy hnew)

theorem Invariant.record (hinv : pair.Invariant) (results : List ℤ) :
    ({ pair with prepareResults := pair.prepareResults ++ results } :
      Pair).Invariant :=
  have hsubset := List.subset_append_left pair.prepareResults results
  ⟨hinv.source.mono hsubset, hinv.sourceIsSource, hinv.sink.mono hsubset,
    fun reason hmem => hsubset (hinv.toSink reason hmem),
    fun reason hmem => hsubset (hinv.toSource reason hmem)⟩

theorem Invariant.kept_sink (hinv : pair.Invariant) {input : Collab.Input}
    (hsound : pair.sink.SoundInput input) :
    Kept (pair.prepareResults ++ prepareResultOf pair.sink input) pair.sink
      (pair.sink.step input) := by
  by_cases hremoved : pair.sink.removed = true
  · have hstep : pair.sink.step input = ([], pair.sink) := by
      unfold Collab.step
      rw [if_pos hremoved]
    rw [hstep]
    exact Kept.quiet (hinv.record _).sink id
  · refine kept_step (hinv.record _).sink hsound fun heq => .inr ?_
    rw [heq, prepareResultOf, if_neg hremoved]
    simp

theorem backed_createdSink (prepareResults : List ℤ) :
    Backed prepareResults createdSink where
  errEnd := by decide
  notify := by simp [createdSink]
  prepare := .inr (by simp [createdSink])
  ends := by simp [createdSink, StateType.IsEnd]

theorem step_toSink_unsent (hcmd : cmd ∉ pair.toSink) :
    pair.step (.toSink cmd) = ([], pair) :=
  if_neg hcmd

theorem step_toSink_create (hcmd : cmd ∈ pair.toSink)
    (hcreate : pair.sink.removed = true ∧ cmd = .sinkGetVersion) :
    pair.step (.toSink cmd) = ([], pair.updateSink ([], createdSink)) := by
  have hrecv : sinkDataRecv pair.sink cmd = ([], createdSink) := if_pos hcreate
  simp only [Pair.step, if_pos hcmd, hrecv]

theorem step_toSink (hcmd : cmd ∈ pair.toSink)
    (hcreate : ¬(pair.sink.removed = true ∧ cmd = .sinkGetVersion)) :
    pair.step (.toSink cmd) = ((pair.sink.onDataRecv cmd).1,
      pair.updateSink (pair.sink.onDataRecv cmd)) := by
  have hrecv : sinkDataRecv pair.sink cmd = pair.sink.onDataRecv cmd :=
    if_neg hcreate
  simp only [Pair.step, if_pos hcmd, hrecv]

theorem step_toSource_unsent (hcmd : cmd ∉ pair.toSource) :
    pair.step (.toSource cmd) = ([], pair) :=
  if_neg hcmd

theorem step_toSource (hcmd : cmd ∈ pair.toSource) :
    pair.step (.toSource cmd) = ((pair.source.onDataRecv cmd).1,
      pair.updateSource (pair.source.onDataRecv cmd)) :=
  if_pos hcmd

theorem Invariant.kept_onDataRecv_sink (hinv : pair.Invariant)
    (hcmd : cmd ∈ pair.toSink) :
    Kept pair.prepareResults pair.sink (pair.sink.onDataRecv cmd) :=
  kept_onDataRecv hinv.sink fun reason heq => hinv.toSink reason (heq ▸ hcmd)

theorem Invariant.kept_onDataRecv_source (hinv : pair.Invariant)
    (hcmd : cmd ∈ pair.toSource) :
    Kept pair.prepareResults pair.source (pair.source.onDataRecv cmd) :=
  kept_onDataRecv hinv.source
    fun reason heq => hinv.toSource reason (heq ▸ hcmd)

theorem Invariant.step {move : Move} (hinv : pair.Invariant)
    (hsound : pair.Sound move) : (pair.step move).2.Invariant := by
  cases move with
  | source input =>
      exact hinv.updateSource
        (kept_step hinv.source hsound fun _ => .inl hinv.sourceIsSource)
  | sink input =>
      have hkept := hinv.kept_sink hsound
      exact (hinv.record _).updateSink hkept.backed
        fun reason hmem => (hkept.peer reason hmem).1
  | toSink cmd =>
      by_cases hcmd : cmd ∈ pair.toSink
      · by_cases hcreate : pair.sink.removed = true ∧ cmd = .sinkGetVersion
        · rw [step_toSink_create hcmd hcreate]
          exact hinv.updateSink (backed_createdSink _) (by simp)
        · have hkept := hinv.kept_onDataRecv_sink hcmd
          rw [step_toSink hcmd hcreate]
          exact hinv.updateSink hkept.backed
            fun reason hmem => (hkept.peer reason hmem).1
      · rw [step_toSink_unsent hcmd]
        exact hinv
  | toSource cmd =>
      by_cases hcmd : cmd ∈ pair.toSource
      · rw [step_toSource hcmd]
        exact hinv.updateSource (hinv.kept_onDataRecv_source hcmd)
      · rw [step_toSource_unsent hcmd]
        exact hinv

theorem truthful_of_kept {move : Move} {prepareResults : List ℤ} {collab : Collab}
    (hkept : Kept prepareResults collab result)
    (heffects : (pair.step move).1 = result.1)
    (hend : collab = pair.source ∧ (pair.step move).2.source = result.2 ∨
      collab = pair.sink ∧ (pair.step move).2.sink = result.2)
    (hinv : (pair.step move).2.Invariant) : Truthful pair move where
  ends := hinv.endsMeanSuccess
  client := by
    intro reason hmem
    rw [heffects] at hmem
    obtain ⟨hstate, hbefore, -⟩ := hkept.client reason hmem
    rcases hend with ⟨rfl, hafter⟩ | ⟨rfl, hafter⟩
    · exact .inl ⟨by rw [hafter]; exact hstate, hbefore⟩
    · exact .inr ⟨by rw [hafter]; exact hstate, hbefore⟩
  tornDown := by
    intro hclean reason
    rw [heffects] at hclean ⊢
    exact ⟨fun hmem => (hkept.client reason hmem).2.2 hclean,
      fun hmem => (hkept.peer reason hmem).2 hclean⟩

theorem truthful_of_kept_source {move : Move}
    (hkept : Kept pair.prepareResults pair.source result)
    (hstep : pair.step move = (result.1, pair.updateSource result))
    (hinv : (pair.step move).2.Invariant) : Truthful pair move := by
  refine truthful_of_kept hkept (by rw [hstep]) (.inl ⟨rfl, ?_⟩) hinv
  rw [hstep]
  rfl

theorem truthful_of_kept_sink {move : Move} {prepareResults : List ℤ}
    (hkept : Kept prepareResults pair.sink result)
    (hstep : pair.step move =
      (result.1, ({ pair with prepareResults } : Pair).updateSink result))
    (hinv : (pair.step move).2.Invariant) : Truthful pair move := by
  refine truthful_of_kept hkept (by rw [hstep]) (.inr ⟨rfl, ?_⟩) hinv
  rw [hstep]
  rfl

theorem truthful_of_quiet {move : Move} (heffects : (pair.step move).1 = [])
    (hinv : (pair.step move).2.Invariant) : Truthful pair move where
  ends := hinv.endsMeanSuccess
  client := by simp [heffects]
  tornDown := by simp [heffects]

theorem Invariant.truthful {move : Move} (hinv : pair.Invariant)
    (hsound : pair.Sound move) : Truthful pair move := by
  have hnext := hinv.step hsound
  cases move with
  | source input =>
      exact truthful_of_kept_source
        (kept_step hinv.source hsound fun _ => .inl hinv.sourceIsSource) rfl
        hnext
  | sink input => exact truthful_of_kept_sink (hinv.kept_sink hsound) rfl hnext
  | toSink cmd =>
      by_cases hcmd : cmd ∈ pair.toSink
      · by_cases hcreate : pair.sink.removed = true ∧ cmd = .sinkGetVersion
        · exact truthful_of_quiet (by rw [step_toSink_create hcmd hcreate])
            hnext
        · exact truthful_of_kept_sink (hinv.kept_onDataRecv_sink hcmd)
            (step_toSink hcmd hcreate) hnext
      · exact truthful_of_quiet (by rw [step_toSink_unsent hcmd]) hnext
  | toSource cmd =>
      by_cases hcmd : cmd ∈ pair.toSource
      · exact truthful_of_kept_source (hinv.kept_onDataRecv_source hcmd)
          (step_toSource hcmd) hnext
      · exact truthful_of_quiet (by rw [step_toSource_unsent hcmd]) hnext

/-- In every run in which no acceptance fails to be told to the client and no
rejection without a reason is taken note of, every step is truthful. -/
theorem truthful_run {moves : List Move}
    (hsound : EventRun.Meets step Sound initial moves) :
    EventRun.Meets step Truthful initial moves :=
  hsound.guarantee (fun _ _ hinv hmove => hinv.truthful hmove)
    (fun _ _ hinv hmove => hinv.step hmove) initial_invariant

def acceptedMoves : List Move :=
  [.source (.process {}), .toSink .sinkGetVersion, .sink (.process {}),
    .toSource .sourceGetVersion, .source (.process {}), .source .collabMission,
    .source (.process {}), .toSink .sinkStart, .sink (.process {}),
    .sink (.notifySinkPrepareResult errOk), .sink (.process {}),
    .toSource (.notifyResult errOk [])]

theorem truthful_accepted :
    EventRun.Meets step Truthful initial
        (acceptedMoves ++ [.source (.process {})]) ∧
      (EventRun.run step initial
        (acceptedMoves ++ [.source (.process {})])).2.source.state =
          .sourceWaitEnd :=
  ⟨truthful_run (by decide), by decide⟩

/-- The client cannot be told of the acceptance; the error end then reports
success to the client and to the peer while it cleans up. -/
theorem not_truthful_unreachableClient :
    ¬EventRun.Meets step Truthful initial
      (acceptedMoves ++ [.source (.process { clientNotify := 1 })] ++
        [.source (.process {})]) := by
  intro hmeets
  have hlast := hmeets.last
  exact (hlast.tornDown (by decide) []).1 (by decide)

end Pair

end CollabRoles
end Dmsfwk
