import Dmsfwk.ContinuePair
import Dmsfwk.DSchedContinueManager
import Dmsfwk.ExecuteContinueData
import Dmsfwk.RunningCollab
import Dmsfwk.SoftbusAdapter

/-!
# The requests of the peers

A device takes the commands of continuations and of collaborations from its
softbus sessions and uses the device ids in them for its checks.  The session
table knows the peer of each session; `OnBytes` finds the session there and
leaves a task for a manager, which looks the session up among its continuations
or collaborations.
-/

namespace Dmsfwk

open Continuation CollabRoles OrderedMap

/-! ## Data model -/

inductive ContinueCmd (AbilityInfo : Type) where
  | start (info : DSchedContinueInfo) (subServiceType : SubType)
      (direction : Direction) (appVersion : ℤ)
  | data (cmd : ContinueDataCmd AbilityInfo)
  | reply (replyCmd : CmdType) (appVersion : ℤ) (result : ℤ)
  | ended (result : ℤ)

def ContinueCmd.toCmd {AbilityInfo : Type} :
    ContinueCmd AbilityInfo → Continuation.Cmd
  | .start info subServiceType direction appVersion =>
      .start info subServiceType direction appVersion
  | .data _ => .data
  | .reply replyCmd appVersion result => .reply replyCmd appVersion result
  | .ended result => .ended result

inductive CollabCmd (Params : Type) where
  | sinkGetVersion (cmd : GetSinkCollabVersionCmd)
  | other (collabToken : Text) (cmd : ReceivedCmd Params)

structure Arrival (Command : Type) where
  sessionId : ℤ
  peerDeviceId : Text
  command : Command

/-- A continuation with the data commands of its data events.  Each command is
kept with the peer from which it arrived, like the start command by which the
continuation was created. -/
structure PeerContinue (AbilityInfo : Type) where
  continuation : DSchedContinue
  softbusSessionId : ℤ := -1
  startPeer : Option Text := none
  dataCmds : List (ContinueDataCmd AbilityInfo × Text) := []

structure PeerCollab (Params : Type) where
  running : RunningCollab Params
  softbusSessionId : ℤ := -1
  startPeer : Option Text := none

/-- A device id which a check uses, with the peer from which the command with
the id arrived; an id which a local client has given has none. -/
structure SourceIdUse where
  sourceDeviceId : Text
  peer : Option Text
  deriving DecidableEq, Repr

structure PeerService (Params AbilityInfo : Type) where
  adapter : SoftbusAdapter := .initial
  continues : Std.TreeMap Text (PeerContinue AbilityInfo) := ∅
  cntSink : ℤ := 0
  cntSource : ℤ := 0
  collabs : Std.TreeMap Text (PeerCollab Params) := ∅
  continueTasks : List (Arrival (ContinueCmd AbilityInfo)) := []
  collabTasks : List (Arrival (CollabCmd Params)) := []

/-- `sessionId` is the session which `ConnectDevice` returns, if the step
connects a device. -/
inductive ServiceInput (Params AbilityInfo : Type) where
  | softbus (event : AdapterEvent)
  | continueBytes (sessionId : ℤ) (command : ContinueCmd AbilityInfo)
  | collabBytes (sessionId : ℤ) (command : CollabCmd Params)
  | continueTask (localDevId : Text) (answers : ContinueManager.Answers)
  | collabTask (localDevId : Option Text) (answers : RunAnswers) (empty : Params)
  | continueMission (localDevId : Text) (answers : ContinueManager.Answers)
      (info : DSchedContinueInfo)
  | continuation (key : Text) (input : DSchedContinue.Input)
      (localDeviceId : Option Text) (sessionId : ℤ)
  | continueEnd (key : Text) (localDevId : Option Text)
  | getSinkCollabVersion (asked : DSchedCollabInfo Params)
  | collab (collabToken : Text) (input : CollabInput Params) (sessionId : ℤ)
  | cleanUpCollab (collabToken : Text)

/-! ## Uses of a device id -/

namespace PeerContinue

variable {AbilityInfo : Type}

/-- `CheckDeviceIdFromRemote` of `ExecuteContinueData`. -/
def checkDeviceId (entry : PeerContinue AbilityInfo)
    (localDeviceId : Option Text) (cmd : ContinueDataCmd AbilityInfo) : Bool :=
  match localDeviceId with
  | none => false
  | some localDevId =>
      checkDeviceIdFromRemote localDevId cmd.want.element.deviceId
        cmd.callerInfo.sourceDeviceId
        entry.continuation.continueInfo.sourceDeviceId

/-- The ids which `ExecuteContinueData` uses: the one of the continuation in
`CheckDeviceIdFromRemote`, and after it the one of the caller in
`CheckStartPermission`. -/
def uses (entry : PeerContinue AbilityInfo) (localDeviceId : Option Text)
    (cmd : ContinueDataCmd AbilityInfo) (peer : Text) : List SourceIdUse :=
  let own := entry.continuation.continueInfo.sourceDeviceId
  if entry.checkDeviceId localDeviceId cmd then
    [⟨own, entry.startPeer⟩, ⟨cmd.callerInfo.sourceDeviceId, some peer⟩]
  else [⟨own, entry.startPeer⟩]

/-- The session which `ExecuteContinueReq` gets. -/
def connected (entry : PeerContinue AbilityInfo) (answers : Continuation.Answers)
    (sessionId : ℤ) : ℤ :=
  match entry.continuation.state, entry.continuation.queue with
  | .sinkStart, .reqPull :: _ | .sourceStart, .reqPush :: _ =>
      if answers.connectDevice = Continuation.errOk then sessionId
      else entry.softbusSessionId
  | _, _ => entry.softbusSessionId

def process (entry : PeerContinue AbilityInfo) (answers : Continuation.Answers)
    (localDeviceId : Option Text) (sessionId : ℤ) :
    List SourceIdUse × PeerContinue AbilityInfo :=
  match entry.continuation.queue, entry.dataCmds with
  | .data :: _, (cmd, peer) :: rest =>
      let checked :=
        { answers with
          checkDeviceIdFromRemote := entry.checkDeviceId localDeviceId cmd }
      (if entry.continuation.state = .data ∧ !entry.continuation.removed then
          entry.uses localDeviceId cmd peer
        else [],
        { entry with
          continuation := (entry.continuation.step (.process checked)).2
          dataCmds := rest })
  | .data :: _, [] => ([], entry)
  | _, _ =>
      ([], { entry with
        continuation := (entry.continuation.step (.process answers)).2
        softbusSessionId := entry.connected answers sessionId })

def step (entry : PeerContinue AbilityInfo) (input : DSchedContinue.Input)
    (localDeviceId : Option Text) (sessionId : ℤ) :
    List SourceIdUse × PeerContinue AbilityInfo :=
  match input with
  | .process answers => entry.process answers localDeviceId sessionId
  | input =>
      ([], { entry with continuation := (entry.continuation.step input).2 })

def onDataRecv (entry : PeerContinue AbilityInfo) (peer : Text)
    (command : ContinueCmd AbilityInfo) : PeerContinue AbilityInfo :=
  { entry with
    continuation := entry.continuation.onDataRecv command.toCmd
    dataCmds :=
      match command with
      | .data cmd => entry.dataCmds ++ [(cmd, peer)]
      | _ => entry.dataCmds }

end PeerContinue

namespace PeerCollab

variable {Params : Type}

/-- The ids which `ExeStartAbility` uses: the one of the caller in
`CheckCollabStartPermission`, and the one of the source in the want. -/
def uses (entry : PeerCollab Params) : CollabInput Params → List SourceIdUse
  | .process _ =>
      if entry.running.collab.state = .sinkStart ∧
          ¬entry.running.collab.removed ∧ ¬entry.running.starting ∧
          entry.running.collab.queue.head? = some .startAbility then
        [⟨entry.running.record.info.srcInfo.deviceId, entry.startPeer⟩,
          ⟨entry.running.record.info.callerInfo.sourceDeviceId,
            entry.startPeer⟩]
      else []
  | _ => []

def step (entry : PeerCollab Params) (input : CollabInput Params)
    (sessionId : ℤ) : List SourceIdUse × PeerCollab Params :=
  match input with
  | .recv _ _ => ([], entry)
  | input =>
      (entry.uses input,
        { entry with
          running := (entry.running.step input).2
          softbusSessionId :=
            if (entry.running.step input).1.any
                (fun effect => effect matches .connectDevice _ 0) then sessionId
            else entry.softbusSessionId })

def onDataRecv (entry : PeerCollab Params) (answers : RunAnswers) (peer : Text)
    (cmd : ReceivedCmd Params) : PeerCollab Params :=
  if entry.running.collab.removed then entry
  else
    { entry with
      running := (entry.running.step (.recv answers cmd)).2
      startPeer :=
        match cmd with
        | .sinkStart _ => some peer
        | _ => entry.startPeer }

end PeerCollab

/-! ## Steps -/

namespace PeerService

variable {Params AbilityInfo : Type}

def peerDeviceId (service : PeerService Params AbilityInfo) (sessionId : ℤ) :
    Option Text :=
  (service.adapter.sessions[sessionId]?).map (·.peerDeviceId.toList)

def findContinue (service : PeerService Params AbilityInfo) (sessionId : ℤ) :
    Option (Text × PeerContinue AbilityInfo) :=
  firstMatch service.continues fun entry => entry.softbusSessionId = sessionId

def findCollab (service : PeerService Params AbilityInfo) (sessionId : ℤ)
    (collabToken : Text) : Option (Text × PeerCollab Params) :=
  firstMatch service.collabs fun entry =>
    entry.softbusSessionId = sessionId ∧
      collabToken = entry.running.record.info.collabToken

def checkContinuationLimit (service : PeerService Params AbilityInfo)
    (localDevId : Text) (answers : ContinueManager.Answers)
    (info : DSchedContinueInfo) : Except ℤ Direction :=
  ContinueManager.Manager.checkContinuationLimit localDevId answers
    ⟨∅, service.cntSink, service.cntSource⟩ info.sourceDeviceId info.sinkDeviceId

def notifyContinueDataRecv (localDevId : Text)
    (answers : ContinueManager.Answers)
    (service : PeerService Params AbilityInfo)
    (arrival : Arrival (ContinueCmd AbilityInfo)) :
    PeerService Params AbilityInfo :=
  match service.findContinue arrival.sessionId with
  | some (key, entry) =>
      { service with
        continues := service.continues.insert key
          (entry.onDataRecv arrival.peerDeviceId arrival.command) }
  | none =>
      match arrival.command with
      | .start info subServiceType direction appVersion =>
          match service.checkContinuationLimit localDevId answers info with
          | .error _ => service
          | .ok _ =>
              let continuation := DSchedContinue.ofStartCmd
                answers.getMissionInfo info subServiceType direction appVersion
              { service with
                continues := service.continues.insertIfNew
                  continuation.continueInfo.compareInfo
                  { continuation
                    softbusSessionId := arrival.sessionId
                    startPeer := some arrival.peerDeviceId } }
      | _ => service

def notifyDataRecv (localDevId : Option Text) (answers : RunAnswers)
    (empty : Params) (service : PeerService Params AbilityInfo)
    (arrival : Arrival (CollabCmd Params)) : PeerService Params AbilityInfo :=
  match arrival.command with
  | .sinkGetVersion cmd =>
      if (service.findCollab arrival.sessionId cmd.base.collabToken).isSome ∨
          localDevId ≠ some cmd.base.sinkDeviceId then service
      else
        { service with
          collabs := service.collabs.insertIfNew cmd.base.collabToken
            { running := RunningCollab.createSink cmd empty
              softbusSessionId := arrival.sessionId } }
  | .other collabToken cmd =>
      match service.findCollab arrival.sessionId collabToken with
      | some (key, entry) =>
          { service with
            collabs := service.collabs.insert key
              (entry.onDataRecv answers arrival.peerDeviceId cmd) }
      | none => service

def continueMission (localDevId : Text) (answers : ContinueManager.Answers)
    (service : PeerService Params AbilityInfo) (info : DSchedContinueInfo) :
    PeerService Params AbilityInfo :=
  match service.checkContinuationLimit localDevId answers info with
  | .error _ => service
  | .ok direction =>
      let info :=
        ContinueManager.Manager.fillSourceBundle answers direction info
      { service with
        cntSink := service.cntSink + if direction = .sink then 1 else 0
        cntSource := service.cntSource + if direction = .source then 1 else 0
        continues := service.continues.insertIfNew info.compareInfo
          { continuation := DSchedContinue.ofRequest direction info } }

/-- `HandleContinueEnd` of a continuation which has asked for it. -/
def continueEnd (localDevId : Option Text)
    (service : PeerService Params AbilityInfo) (key : Text) :
    PeerService Params AbilityInfo :=
  match service.continues[key]? with
  | some entry =>
      if entry.continuation.ended = false then service
      else
        let erased := { service with continues := service.continues.erase key }
        let info := entry.continuation.continueInfo
        if localDevId = some info.sinkDeviceId then
          { erased with cntSink := erased.cntSink - 1 }
        else if localDevId = some info.sourceDeviceId then
          { erased with cntSource := erased.cntSource - 1 }
        else erased
  | none => service

def step (service : PeerService Params AbilityInfo) :
    ServiceInput Params AbilityInfo →
      List SourceIdUse × PeerService Params AbilityInfo
  | .softbus event =>
      ([], { service with adapter := (service.adapter.step event).2 })
  | .continueBytes sessionId command =>
      match service.peerDeviceId sessionId with
      | some peer =>
          ([], { service with
            continueTasks :=
              service.continueTasks ++ [⟨sessionId, peer, command⟩] })
      | none => ([], service)
  | .collabBytes sessionId command =>
      match service.peerDeviceId sessionId with
      | some peer =>
          ([], { service with
            collabTasks := service.collabTasks ++ [⟨sessionId, peer, command⟩] })
      | none => ([], service)
  | .continueTask localDevId answers =>
      match service.continueTasks with
      | [] => ([], service)
      | arrival :: rest =>
          ([], ({ service with continueTasks := rest } :
            PeerService Params AbilityInfo).notifyContinueDataRecv localDevId
              answers arrival)
  | .collabTask localDevId answers empty =>
      match service.collabTasks with
      | [] => ([], service)
      | arrival :: rest =>
          ([], ({ service with collabTasks := rest } :
            PeerService Params AbilityInfo).notifyDataRecv localDevId answers
              empty arrival)
  | .continueMission localDevId answers info =>
      ([], service.continueMission localDevId answers info)
  | .continuation key input localDeviceId sessionId =>
      match service.continues[key]? with
      | some entry =>
          let result := entry.step input localDeviceId sessionId
          (result.1, { service with
            continues := service.continues.insert key result.2 })
      | none => ([], service)
  | .continueEnd key localDevId => ([], service.continueEnd localDevId key)
  | .getSinkCollabVersion asked =>
      ([], { service with
        collabs := service.collabs.insertIfNew asked.collabToken
          { running := RunningCollab.createSource asked } })
  | .collab collabToken input sessionId =>
      match service.collabs[collabToken]? with
      | some entry =>
          let result := entry.step input sessionId
          (result.1, { service with
            collabs := service.collabs.insert collabToken result.2 })
      | none => ([], service)
  | .cleanUpCollab collabToken =>
      ([], { service with collabs := service.collabs.erase collabToken })

end PeerService

end Dmsfwk
