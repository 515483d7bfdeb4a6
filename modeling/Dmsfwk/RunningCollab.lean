import Dmsfwk.CollabEndStates
import Dmsfwk.CollabHandshake

/-!
# A collaboration with its record

The state machines of `DSchedCollab` together with `collabInfo_`, which the
setters and the received commands write while events wait in the queue.  Starting
the ability of the sink is a call to another process, so a command can arrive
between the permission check and the change of the state.
-/

namespace Dmsfwk

open CollabRoles

/-! ## Data model -/

/-- `DSchedCollabInfo` with its other members. -/
structure CollabRecord (Params : Type) where
  info : DSchedCollabInfo Params
  -- `direction_ == COLLAB_SOURCE`
  isSource : Bool := true
  sinkCollabSessionId : Int32 := -1
  sinkCollabVersion : Int32 := 0
  sinkUserId : Int32 := -1
  sinkAccountId : Int32 := 0
  sinkSocketName : Text := []
  srcUdid : Text := []
  sinkUdid : Text := []

structure NotifyResultCmd where
  result : ℤ := -1
  sinkCollabSessionId : Int32 := -1
  sinkPid : Int32 := -1
  sinkAccessToken : Int32 := -1
  sinkUserId : Int32 := -1
  sinkAccountId : Int32 := -1
  sinkSocketName : Text := []
  abilityRejectReason : Text := []

inductive ReceivedCmd (Params : Type) where
  | sourceGetVersion (sinkCollabVersion : Int32)
  | sinkStart (cmd : SinkStartCmd Params)
  | notifyResult (cmd : NotifyResultCmd)
  | disconnect
  | unmarshalFailed
  | invalid

structure RunAnswers where
  role : CollabRoles.Answers := {}
  pack : PackAnswers
  -- `GetUdidByNetworkId`
  udidByNetworkId : Text → Text := fun _ => []
  -- the first of the active accounts
  activeOsAccountId : Option Int32 := none

inductive CollabInput (Params : Type) where
  | collabMission (mission : DSchedCollabInfo Params)
  | notifySinkPrepareResult (result : ℤ) (collabSessionId : Int32)
      (socketName : Text)
  | notifySinkRejectReason (reason : Text)
  | notifyStartAbilityResult (result : ℤ) (pid uid accessToken : Int32)
  | timeout
  | shutdown
  | endTask
  | recv (answers : RunAnswers) (cmd : ReceivedCmd Params)
  | process (answers : RunAnswers)
  | startAbilityReturns (result : ℤ)

inductive CollabEffect where
  | connectDevice (deviceId : Text) (ret : ℤ)
  | disconnectDevice (deviceId : Text)
  | role (effect : Effect)
  deriving DecidableEq, Repr

structure RunningCollab (Params : Type) where
  collab : CollabRoles.Collab
  record : CollabRecord Params
  -- the event thread is in `StartAbilityByCall`
  starting : Bool := false

namespace CollabRecord

variable {Params : Type}

/-! ## The setters -/

def setSinkCollabInfo (record : CollabRecord Params) (answers : RunAnswers)
    (cmd : SinkStartCmd Params) : CollabRecord Params :=
  { record with
    info := record.info.setSinkCollabInfo cmd
    sinkUserId := answers.activeOsAccountId.getD record.sinkUserId }

/-- `PostSrcResultTask` where the ability was not rejected. -/
def setResult (record : CollabRecord Params) (answers : RunAnswers)
    (cmd : NotifyResultCmd) : CollabRecord Params :=
  { record with
    info :=
      { record.info with
        sinkInfo :=
          { record.info.sinkInfo with
            pid := cmd.sinkPid
            accessToken := cmd.sinkAccessToken } }
    sinkCollabSessionId := cmd.sinkCollabSessionId
    sinkSocketName := cmd.sinkSocketName
    sinkUserId := cmd.sinkUserId
    sinkAccountId := cmd.sinkAccountId
    sinkUdid := answers.udidByNetworkId record.info.sinkInfo.deviceId
    srcUdid := answers.udidByNetworkId record.info.srcInfo.deviceId }

def setUdids (record : CollabRecord Params) (answers : RunAnswers) :
    CollabRecord Params :=
  { record with
    srcUdid := answers.udidByNetworkId record.info.srcInfo.deviceId
    sinkUdid := answers.udidByNetworkId record.info.sinkInfo.deviceId }

def saveSinkAbilityData (record : CollabRecord Params)
    (pid uid accessToken : Int32) : CollabRecord Params :=
  { record with
    info :=
      { record.info with
        sinkInfo := { record.info.sinkInfo with pid, uid, accessToken } } }

end CollabRecord

/-! ## Handlers -/

def getAppidErr : ℤ := 29360335
def getBundlenamelistErr : ℤ := 29360336
def getAccountInfoErr : ℤ := 29360337

def packCode (answers : RunAnswers) : ℤ :=
  if answers.pack.versionCode.isNone then answers.role.packCommand
  else if answers.pack.callerAppId.isNone then getAppidErr
  else if answers.pack.bundleNames.isNone then getBundlenamelistErr
  else if answers.pack.accountInfo.isNone then getAccountInfoErr
  else errOk

namespace RunningCollab

variable {Params : Type}

def post (running : RunningCollab Params) (event : Event) :
    RunningCollab Params :=
  { running with collab := running.collab.post event }

def effectsOf (record : CollabRecord Params) (effects : List Effect) :
    List CollabEffect :=
  effects.flatMap fun effect =>
    if effect = .cleanUpSession ∧ record.isSource then
      [.disconnectDevice record.info.sinkInfo.deviceId, .role effect]
    else [.role effect]

def exeStartAbility (answers : RunAnswers) (running : RunningCollab Params) :
    RunningCollab Params :=
  if answers.role.checkCollabStartPermission ≠ errOk then
    { running with collab :=
        running.collab.postErrEndTask answers.role.checkCollabStartPermission }
  else if answers.role.connectAbilityManager ≠ errOk then
    { running with collab :=
        running.collab.postErrEndTask answers.role.connectAbilityManager }
  else { running with starting := true }

def startAbilityReturns (result : ℤ) (running : RunningCollab Params) :
    RunningCollab Params :=
  if result ≠ errOk then
    { running with
      collab := running.collab.postErrEndTask result
      starting := false }
  else
    { running with
      collab := { running.collab with state := .sinkConnect }
      starting := false }

def exeRecord (answers : RunAnswers) (running : RunningCollab Params)
    (event : Event) : CollabRecord Params :=
  match running.collab.state, event with
  | .sourceStart, .sourceStart =>
      if answers.role.connectDevice ≠ errOk then running.record
      else
        match running.record.info.packStartCmd answers.pack with
        | some (_, info) => { running.record with info }
        | none => running.record
  | .sinkConnect, .notifyPrepareResult result =>
      if result ≠ errOk ∧ result ≠ collabAbilityRejectErr then running.record
      else if answers.role.sendCommand ≠ errOk then running.record
      else running.record.setUdids answers
  | _, _ => running.record

def exeConnects (answers : RunAnswers) (running : RunningCollab Params)
    (event : Event) : List CollabEffect :=
  match running.collab.state, event with
  | .sourceGetPeerVersion, .sourceGetPeerVersion
  | .sourceStart, .sourceStart =>
      [.connectDevice running.record.info.sinkInfo.deviceId
        answers.role.connectDevice]
  | _, _ => []

/-- The answer for the command that the handler packs: the version command cannot
fail. -/
def roleAnswers (answers : RunAnswers) : StateType → CollabRoles.Answers
  | .sourceStart => { answers.role with packCommand := packCode answers }
  | _ => { answers.role with packCommand := errOk }

def processEvent (answers : RunAnswers) (running : RunningCollab Params)
    (event : Event) : List CollabEffect × RunningCollab Params :=
  if running.collab.state = .sinkStart ∧ event = .startAbility then
    ([], running.exeStartAbility answers)
  else
    let result := running.collab.processEvent
      (roleAnswers answers running.collab.state) event
    let record := running.exeRecord answers event
    (running.exeConnects answers event ++ effectsOf record result.1,
      { running with collab := result.2, record })

/-! ## Steps -/

def onDataRecv (answers : RunAnswers) (running : RunningCollab Params) :
    ReceivedCmd Params → List CollabEffect × RunningCollab Params
  | .sourceGetVersion sinkCollabVersion =>
      ([], { running with
        record := { running.record with sinkCollabVersion } }.post
          .sourceGetVersion)
  | .sinkStart cmd =>
      ([], { running with
        record := running.record.setSinkCollabInfo answers cmd }.post
          .startAbility)
  | .notifyResult cmd =>
      if cmd.abilityRejectReason ≠ [] then
        ([], running.post (.abilityReject cmd.abilityRejectReason))
      else
        ([], { running with
          record := running.record.setResult answers cmd }.post
            (.notifyResult cmd.result))
  | .disconnect =>
      (effectsOf running.record [.cleanUpSession],
        { running with collab := running.collab.cleanUpSession })
  | .unmarshalFailed => ([], running.post (.errEnd invalidParametersErr))
  | .invalid => ([], running)

/-- `CollabMission` of the manager; the members which the client does not give
have their defaults. -/
def collabMission (running : RunningCollab Params)
    (mission : DSchedCollabInfo Params) : RunningCollab Params :=
  match running.record.info.collabMission mission with
  | some info =>
      { running with
        collab := { running.collab with state := .sourceStart }.post .sourceStart
        record := { info } }
  | none => running

def step (running : RunningCollab Params) (input : CollabInput Params) :
    List CollabEffect × RunningCollab Params :=
  if running.collab.removed then ([], running)
  else
    match input with
    | .collabMission mission => ([], running.collabMission mission)
    | .notifySinkPrepareResult result collabSessionId socketName =>
        ([], { running with
          record :=
            { running.record with
              sinkCollabSessionId := collabSessionId
              sinkSocketName := socketName } }.post
            (.notifyPrepareResult result))
    | .notifySinkRejectReason reason => ([], running.post (.abilityReject reason))
    | .notifyStartAbilityResult result pid uid accessToken =>
        if result ≠ errOk then ([], running.post (.errEnd result))
        else
          ([], { running with
            record := running.record.saveSinkAbilityData pid uid accessToken })
    | .timeout => ([], running.post (.errEnd collabAbilityTimeoutErr))
    | .shutdown => ([], running.post (.errEnd collabSessionShutdown))
    | .endTask => ([], running.post .ended)
    | .recv answers cmd => running.onDataRecv answers cmd
    | .process answers =>
        if running.starting then ([], running)
        else
          match running.collab.queue with
          | [] => ([], running)
          | event :: rest =>
              { running with collab :=
                { running.collab with queue := rest } }.processEvent answers event
    | .startAbilityReturns result =>
        if running.starting then ([], running.startAbilityReturns result)
        else ([], running)

/-! ## Creation -/

def createSource (asked : DSchedCollabInfo Params) : RunningCollab Params where
  collab := ⟨.sourceGetPeerVersion, [.sourceGetPeerVersion], false⟩
  record := { info := DSchedCollabInfo.createSource asked.collabToken asked }

def createSink (cmd : GetSinkCollabVersionCmd) (empty : Params) :
    RunningCollab Params where
  collab := createdSink
  record := { info := DSchedCollabInfo.createSink cmd empty, isSource := false }

end RunningCollab

end Dmsfwk
