import Dmsfwk.CollabError
import Dmsfwk.OrderedMap

/-!
# The channel manager

`ChannelManager` is the process-wide registry of collaboration channels.  A
channel has an id, a name and a data type; a socket belongs to one channel.
Clients put the channel name and the data type into the name of their socket,
and `OnSocketConnected` finds the channel of an incoming socket from that name
alone.
-/

namespace Dmsfwk

abbrev Text := List Char

instance : LawfulBEq Text := inferInstance

inductive ChannelDataType where
  | message
  | bytes
  | videoStream
  | file
  deriving DecidableEq, Repr

inductive ChannelStatus where
  | connected
  | unconnected
  deriving DecidableEq, Repr

structure ChannelPeerInfo where
  peerName : Text
  networkId : Text
  deriving DecidableEq, Repr

/-- A `ChannelInfo`; of its `dataSenderReceivers` only the sockets that have
one are kept. -/
structure ChannelInfo where
  channelId : ℤ
  status : ChannelStatus
  dataType : ChannelDataType
  channelName : Text
  peerInfo : ChannelPeerInfo
  clientSockets : List ℤ
  dataSenderReceivers : List ℤ
  deriving DecidableEq, Repr

structure ChannelManager where
  ownerName : Text
  channelIdMap : Std.TreeMap Text (List ℤ)
  channelInfoMap : Std.TreeMap ℤ ChannelInfo
  fileChannelId : ℤ
  socketChannelMap : Std.TreeMap ℤ ℤ
  socketStatusMap : Std.TreeMap ℤ ChannelStatus
  nextIds : ChannelDataType → ℤ

namespace ChannelDataType

def index : ChannelDataType → ℤ
  | .message => 0
  | .bytes => 1
  | .videoStream => 2
  | .file => 3

def nameFlag : ChannelDataType → Char
  | .message => 'M'
  | .bytes => 'B'
  | .videoStream => 'V'
  | .file => 'F'

end ChannelDataType

namespace ChannelManager

def channelIdGap : ℤ := 1000
def messageStartId : ℤ := 1001
def bytesStartId : ℤ := messageStartId + channelIdGap
def streamStartId : ℤ := bytesStartId + channelIdGap
def fileStartId : ℤ := streamStartId + channelIdGap
def maxChannelNameLength : ℕ := 64
def channelNamePrefixLength : ℕ := 64
def sessionNamePrefix : Text := "ohos.dtbcollab.dms".toList
def splitFlag : Char := '_'

def startIds : ChannelDataType → ℤ
  | .message => messageStartId
  | .bytes => bytesStartId
  | .videoStream => streamStartId
  | .file => fileStartId

def initial (ownerName : Text) : ChannelManager :=
  { ownerName := ownerName
    channelIdMap := ∅
    channelInfoMap := ∅
    fileChannelId := 0
    socketChannelMap := ∅
    socketStatusMap := ∅
    nextIds := startIds }

def isValidChannelId (channelId : ℤ) : Bool :=
  decide (channelIdGap < channelId ∧ channelId ≤ fileStartId + channelIdGap)

/-! ## Creating and deleting channels -/

/-- `GenerateNextId`; ids are never given out again before `Reset`. -/
def generateNextId (manager : ChannelManager) (dataType : ChannelDataType) :
    ℤ × ChannelManager :=
  let channelId := manager.nextIds dataType
  if channelId - channelIdGap * (dataType.index + 1) ≥ channelIdGap then
    (CollabErr.channelNumExceedLimit.code, manager)
  else
    (channelId,
      { manager with
        nextIds := Function.update manager.nextIds dataType (channelId + 1) })

def createBaseChannel (manager : ChannelManager) (channelName : Text)
    (dataType : ChannelDataType) (peerInfo : ChannelPeerInfo) :
    Option ChannelInfo × ChannelManager :=
  let (channelId, next) := manager.generateNextId dataType
  if isValidChannelId channelId then
    (some ⟨channelId, .unconnected, dataType, channelName, peerInfo, [], []⟩,
      next)
  else (none, next)

def registerChannel (manager : ChannelManager) (info : ChannelInfo) :
    ChannelManager :=
  { manager with
    channelIdMap := manager.channelIdMap.insert info.channelName
      (manager.channelIdMap[info.channelName]?.getD [] ++ [info.channelId])
    channelInfoMap := manager.channelInfoMap.insertIfNew info.channelId info }

/-- `CreateServerChannel`; every server channel is stored as the file
channel. -/
def createServerChannel (manager : ChannelManager) (channelName : Text)
    (dataType : ChannelDataType) (peerInfo : ChannelPeerInfo) :
    ℤ × ChannelManager :=
  match manager.createBaseChannel channelName dataType peerInfo with
  | (none, next) => (CollabErr.createServerChannelFailed.code, next)
  | (some info, next) =>
      (info.channelId,
        { next.registerChannel info with fileChannelId := info.channelId })

def clientSocketName (ownerName : Text) (dataType : ChannelDataType)
    (channelName : Text) : Text :=
  sessionNamePrefix ++ ownerName ++
    [splitFlag, dataType.nameFlag, splitFlag] ++ channelName

def createClientSocket (channelName : Text) (socket : ℤ) : ℤ :=
  if channelName.length > maxChannelNameLength then
    -CollabErr.invalidChannelName.code
  else socket

def createClientChannel (manager : ChannelManager) (channelName : Text)
    (dataType : ChannelDataType) (peerInfo : ChannelPeerInfo) (socket : ℤ) :
    ℤ × ChannelManager :=
  match manager.createBaseChannel channelName dataType peerInfo with
  | (none, next) => (CollabErr.createClientChannelFailed.code, next)
  | (some info, next) =>
      let clientSocketId := createClientSocket channelName socket
      if clientSocketId ≤ 0 then (CollabErr.createSocketFailed.code, next)
      else
        let saved := { next with
          socketChannelMap :=
            next.socketChannelMap.insertIfNew clientSocketId info.channelId
          socketStatusMap :=
            next.socketStatusMap.insertIfNew clientSocketId .unconnected }
        (info.channelId,
          saved.registerChannel
            { info with
              clientSockets := [clientSocketId]
              dataSenderReceivers := [clientSocketId] })

/-- `ClearRegisterChannel`; a channel that is not registered clears the list
of the empty name. -/
def clearRegisterChannel (manager : ChannelManager) (channelId : ℤ) :
    ChannelManager :=
  let channelName :=
    (manager.channelInfoMap[channelId]?.map (·.channelName)).getD []
  { manager with
    channelInfoMap := manager.channelInfoMap.erase channelId
    channelIdMap :=
      match manager.channelIdMap[channelName]? with
      | none => manager.channelIdMap
      | some ids =>
          manager.channelIdMap.insert channelName
            (ids.filter (· ≠ channelId)) }

/-- The sockets of a channel, which `ClearRegisterSocket` forgets and shuts
down. -/
def socketsOf (manager : ChannelManager) (channelId : ℤ) : List ℤ :=
  (manager.socketChannelMap.toList.filter (·.2 = channelId)).map (·.1)

def clearRegisterSocket (manager : ChannelManager) (channelId : ℤ) :
    ChannelManager :=
  let socketIds := manager.socketsOf channelId
  { manager with
    socketChannelMap :=
      socketIds.foldl (fun map socket => map.erase socket)
        manager.socketChannelMap
    socketStatusMap :=
      socketIds.foldl (fun map socket => map.erase socket)
        manager.socketStatusMap }

def deleteChannel (manager : ChannelManager) (channelId : ℤ) :
    ℤ × ChannelManager :=
  if isValidChannelId channelId then
    (channelId,
      (manager.clearRegisterChannel channelId).clearRegisterSocket channelId)
  else (CollabErr.invalidChannelId.code, manager)

def deleteChannels (manager : ChannelManager) (channelIds : List ℤ) :
    ChannelManager :=
  channelIds.foldl (fun next channelId => (next.deleteChannel channelId).2)
    manager

/-- `DeInit`: every channel is deleted and `Reset` starts the ids again. -/
def deInit (manager : ChannelManager) : ChannelManager :=
  let channelIds := (manager.channelIdMap.toList.flatMap (·.2)).dedup
  { manager.deleteChannels channelIds with
    ownerName := []
    nextIds := startIds }

/-! ## Incoming sockets -/

def getChannelNameFromSocket (socketName : Text) : Option Text :=
  match (socketName.drop channelNamePrefixLength).dropWhile
      (· ≠ splitFlag) with
  | [] => none
  | _ :: rest => some rest

def getChannelDataTypeFromName (channelName : Text) :
    Option ChannelDataType :=
  [.message, .bytes, .videoStream, .file].find?
    fun dataType => channelName.take 1 = [dataType.nameFlag]

def findByDataType (manager : ChannelManager) (dataType : ChannelDataType) :
    List ℤ → ℤ
  | [] => CollabErr.noSuchChannel.code
  | channelId :: rest =>
      match manager.channelInfoMap[channelId]? with
      | none => CollabErr.invalidChannelId.code
      | some info =>
          if info.dataType = dataType then info.channelId
          else manager.findByDataType dataType rest

def getChannelId (manager : ChannelManager) (channelName : Text)
    (dataType : ChannelDataType) : ℤ :=
  match manager.channelIdMap[channelName]? with
  | none => CollabErr.invalidChannelName.code
  | some ids => manager.findByDataType dataType ids

/-- What `OnSocketConnected` does with a socket: it posts the registration
with a channel, rejects it, or throws from `substr`. -/
inductive SocketVerdict where
  | updateChannel (channelId : ℤ)
  | rejected
  | outOfRange
  deriving DecidableEq, Repr

def onSocketConnected (manager : ChannelManager) (socketId : ℤ)
    (socketName : Text) : SocketVerdict :=
  if socketId ≤ 0 then .rejected
  else
    match getChannelNameFromSocket socketName with
    | none => .rejected
    | some channelName =>
        match getChannelDataTypeFromName channelName with
        | none => .rejected
        | some dataType =>
            if channelName.length < 2 then .outOfRange
            else
              let channelId :=
                manager.getChannelId (channelName.drop 2) dataType
              if isValidChannelId channelId then .updateChannel channelId
              else .rejected

/-! ## Registering an incoming socket -/

def registerSocket (manager : ChannelManager) (socketId channelId : ℤ)
    (setFileSchema : ℤ) : CollabErr × ChannelManager :=
  match manager.channelInfoMap[channelId]? with
  | none => (.invalidChannelId, manager)
  | some info =>
      let next := { manager with
        channelInfoMap := manager.channelInfoMap.insert channelId
          { info with
            clientSockets := info.clientSockets ++ [socketId]
            dataSenderReceivers := info.dataSenderReceivers.insert socketId }
        socketChannelMap := manager.socketChannelMap.insert socketId channelId
        socketStatusMap :=
          manager.socketStatusMap.insert socketId .connected }
      if info.dataType = .file ∧ setFileSchema ≠ 0 then
        (.registerFileSchemaFailed, next)
      else (.errOk, next)

def getSocketStatus (manager : ChannelManager) (socketId : ℤ) :
    ChannelStatus :=
  manager.socketStatusMap[socketId]?.getD .connected

def updateChannelStatus (manager : ChannelManager) (channelId : ℤ) :
    CollabErr × ChannelManager :=
  match manager.channelInfoMap[channelId]? with
  | none => (.invalidChannelId, manager)
  | some info =>
      let newStatus :=
        if info.clientSockets.any
            fun socket => manager.getSocketStatus socket = .connected
        then ChannelStatus.connected else .unconnected
      (.errOk, { manager with
        channelInfoMap := manager.channelInfoMap.insert channelId
          { info with status := newStatus } })

def setSocketStatus (manager : ChannelManager) (socketId : ℤ)
    (status : ChannelStatus) : CollabErr × ChannelManager :=
  match manager.socketStatusMap[socketId]? with
  | none => (.invalidSocketId, manager)
  | some _ =>
      let next := { manager with
        socketStatusMap := manager.socketStatusMap.insert socketId status }
      match next.socketChannelMap[socketId]? with
      | none => (.invalidSocketId, next)
      | some channelId => next.updateChannelStatus channelId

def updateChannel (manager : ChannelManager) (socketId channelId : ℤ)
    (setFileSchema : ℤ) : CollabErr × ChannelManager :=
  match manager.registerSocket socketId channelId setFileSchema with
  | (.errOk, next) => next.setSocketStatus socketId .connected
  | failed => failed

/-! ## Binding and closing sockets -/

def bindSocket (manager : ChannelManager) (socketId : ℤ)
    (dataType : ChannelDataType) (bind setFileSchema : ℤ) :
    CollabErr × ChannelManager :=
  if bind ≠ 0 then (.bindSocketFailed, manager)
  else if dataType = .file ∧ setFileSchema ≠ 0 then
    (.registerFileSchemaFailed, manager)
  else (.errOk, (manager.setSocketStatus socketId .connected).2)

def getSocketChannelId (manager : ChannelManager) (socketId : ℤ) : ℤ :=
  manager.socketChannelMap[socketId]?.getD CollabErr.invalidSocketId.code

def getChannelStatus (manager : ChannelManager) (channelId : ℤ) :
    ChannelStatus :=
  (manager.channelInfoMap[channelId]?.map (·.status)).getD .unconnected

def onSocketClosed (manager : ChannelManager) (socketId : ℤ) :
    ChannelManager :=
  if socketId ≤ 0 then manager
  else
    let channelId := manager.getSocketChannelId socketId
    if isValidChannelId channelId = false then manager
    else
      match manager.setSocketStatus socketId .unconnected with
      | (.errOk, next) =>
          if next.getChannelStatus channelId = .unconnected then
            (next.deleteChannel channelId).2
          else next
      | (_, next) => next

/-! ## The ids given out -/

section Ids

variable {nextIds : ChannelDataType → ℤ}
  (hnext : ∀ dataType : ChannelDataType,
    channelIdGap * (dataType.index + 1) < nextIds dataType ∧
      nextIds dataType ≤ channelIdGap * (dataType.index + 2))
  {channelId : ℤ} {own : ChannelDataType}

include hnext in
-- ids of different data types lie in different thousands
theorem given_ne_nextIds
    (hlower : channelIdGap * (own.index + 1) < channelId)
    (hupper : channelId < nextIds own) (dataType : ChannelDataType) :
    channelId ≠ nextIds dataType := by
  intro hsame
  have hown := hnext own
  have hother := hnext dataType
  by_cases htype : own = dataType
  · rw [htype] at hupper
    omega
  · revert htype hlower hupper hown hother
    cases own <;> cases dataType <;>
      simp only [ChannelDataType.index, channelIdGap] <;> intros <;> omega

include hnext in
theorem nextIds_update_range {dataType : ChannelDataType}
    (hroom : nextIds dataType < channelIdGap * (dataType.index + 2))
    (other : ChannelDataType) :
    channelIdGap * (other.index + 1) <
        Function.update nextIds dataType (nextIds dataType + 1) other ∧
      Function.update nextIds dataType (nextIds dataType + 1) other ≤
        channelIdGap * (other.index + 2) := by
  have hother := hnext other
  rw [Function.update_apply]
  split_ifs with htype
  · subst htype
    omega
  · exact hother

theorem lt_nextIds_update (hupper : channelId < nextIds own)
    (dataType : ChannelDataType) :
    channelId < Function.update nextIds dataType (nextIds dataType + 1) own := by
  rw [Function.update_apply]
  split_ifs with htype
  · rw [htype] at hupper
    omega
  · exact hupper

theorem isValidChannelId_of_range
    (hlower : channelIdGap * (own.index + 1) < channelId)
    (hupper : channelId ≤ channelIdGap * (own.index + 2)) :
    isValidChannelId channelId = true := by
  rw [isValidChannelId, decide_eq_true_eq]
  revert hlower hupper
  cases own <;>
    simp only [ChannelDataType.index, channelIdGap, fileStartId,
      streamStartId, bytesStartId, messageStartId] <;> intros <;> omega

end Ids

/-! ## Creating channels -/

def HasRoom (manager : ChannelManager) (dataType : ChannelDataType) : Prop :=
  manager.nextIds dataType < channelIdGap * (dataType.index + 2)

def advance (manager : ChannelManager) (dataType : ChannelDataType) :
    ChannelManager :=
  { manager with
    nextIds := Function.update manager.nextIds dataType
      (manager.nextIds dataType + 1) }

section Creating

variable {manager : ChannelManager} {dataType : ChannelDataType}

@[simp] theorem channelIdMap_advance :
    (manager.advance dataType).channelIdMap = manager.channelIdMap := rfl

@[simp] theorem channelInfoMap_advance :
    (manager.advance dataType).channelInfoMap = manager.channelInfoMap := rfl

@[simp] theorem nextIds_advance (other : ChannelDataType) :
    (manager.advance dataType).nextIds other =
      Function.update manager.nextIds dataType
        (manager.nextIds dataType + 1) other := rfl

theorem createClientSocket_eq {channelName : Text} {socket : ℤ}
    (hcreated : ¬createClientSocket channelName socket ≤ 0) :
    createClientSocket channelName socket = socket := by
  unfold createClientSocket at hcreated ⊢
  split_ifs at hcreated ⊢ with hlong
  · exact absurd (by decide) hcreated
  · rfl

theorem createBaseChannel_full (hfull : ¬manager.HasRoom dataType)
    (channelName : Text) (peerInfo : ChannelPeerInfo) :
    manager.createBaseChannel channelName dataType peerInfo =
      (none, manager) := by
  have hlimit : manager.nextIds dataType -
      channelIdGap * (dataType.index + 1) ≥ channelIdGap := by
    unfold HasRoom at hfull
    simp only [channelIdGap] at hfull ⊢
    omega
  have hinvalid : isValidChannelId CollabErr.channelNumExceedLimit.code =
      false := by
    decide
  simp [createBaseChannel, generateNextId, hlimit, hinvalid]

theorem createServerChannel_full (hfull : ¬manager.HasRoom dataType)
    {channelName : Text} {peerInfo : ChannelPeerInfo} :
    manager.createServerChannel channelName dataType peerInfo =
      (CollabErr.createServerChannelFailed.code, manager) := by
  unfold createServerChannel
  rw [createBaseChannel_full hfull]

theorem createClientChannel_full (hfull : ¬manager.HasRoom dataType)
    {channelName : Text} {peerInfo : ChannelPeerInfo} {socket : ℤ} :
    manager.createClientChannel channelName dataType peerInfo socket =
      (CollabErr.createClientChannelFailed.code, manager) := by
  unfold createClientChannel
  rw [createBaseChannel_full hfull]

section Room

variable
  (hlower : channelIdGap * (dataType.index + 1) < manager.nextIds dataType)
  (hroom : manager.HasRoom dataType)

include hlower hroom

section PeerInfo

variable (channelName : Text) (peerInfo : ChannelPeerInfo)

theorem createBaseChannel_eq :
    manager.createBaseChannel channelName dataType peerInfo =
      (some ⟨manager.nextIds dataType, .unconnected, dataType, channelName,
        peerInfo, [], []⟩, manager.advance dataType) := by
  unfold HasRoom at hroom
  have hvalid := isValidChannelId_of_range hlower hroom.le
  have hlimit : ¬ manager.nextIds dataType -
      channelIdGap * (dataType.index + 1) ≥ channelIdGap := by
    simp only [channelIdGap] at hroom ⊢
    omega
  simp [createBaseChannel, generateNextId, hlimit, hvalid, advance]

theorem createServerChannel_eq :
    manager.createServerChannel channelName dataType peerInfo =
      (manager.nextIds dataType,
        { (manager.advance dataType).registerChannel
            ⟨manager.nextIds dataType, .unconnected, dataType, channelName,
              peerInfo, [], []⟩ with
          fileChannelId := manager.nextIds dataType }) := by
  unfold createServerChannel
  rw [createBaseChannel_eq hlower hroom]

theorem createClientChannel_failed {socket : ℤ}
    (hfailed : createClientSocket channelName socket ≤ 0) :
    manager.createClientChannel channelName dataType peerInfo socket =
      (CollabErr.createSocketFailed.code, manager.advance dataType) := by
  unfold createClientChannel
  rw [createBaseChannel_eq hlower hroom]
  exact if_pos hfailed

theorem createClientChannel_eq {socket : ℤ}
    (hcreated : ¬createClientSocket channelName socket ≤ 0) :
    manager.createClientChannel channelName dataType peerInfo socket =
      (manager.nextIds dataType,
        { manager.advance dataType with
          socketChannelMap := manager.socketChannelMap.insertIfNew socket
            (manager.nextIds dataType)
          socketStatusMap := manager.socketStatusMap.insertIfNew socket
            .unconnected }.registerChannel
          ⟨manager.nextIds dataType, .unconnected, dataType, channelName,
            peerInfo, [socket], [socket]⟩) := by
  unfold createClientChannel
  rw [createBaseChannel_eq hlower hroom]
  dsimp only
  rw [if_neg hcreated, createClientSocket_eq hcreated]
  rfl

end PeerInfo

end Room

end Creating

end ChannelManager

end Dmsfwk
