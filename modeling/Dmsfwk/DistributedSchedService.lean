import Dmsfwk.DSchedCollabEvent
import Dmsfwk.DistributedWant

/-!
# Connections to remote abilities

The service keeps the sessions of every connect object and counts the connect
objects of every uid.  Each operation below is one section under
`distributedLock_`; the sections of concurrent requests follow each other in any
order.
-/

namespace Dmsfwk

/-- An `IRemoteObject` by its address; 0 is the null pointer. -/
abbrev RemoteObject := ℕ

inductive TargetComponent where
  | harmony
  deriving DecidableEq, Repr

structure ConnectAbilitySession where
  sourceDeviceId : Text
  destinationDeviceId : Text
  elementsList : List ElementName := []
  callerInfo : CallerInfo
  targetComponent : TargetComponent := .harmony

namespace ConnectAbilitySession

def isSameCaller (session : ConnectAbilitySession) (callerInfo : CallerInfo) :
    Bool :=
  callerInfo.uid = session.callerInfo.uid &&
    callerInfo.pid = session.callerInfo.pid &&
    callerInfo.sourceDeviceId = session.callerInfo.sourceDeviceId &&
    callerInfo.callerType = session.callerInfo.callerType

def addElement (session : ConnectAbilitySession) (element : ElementName) :
    ConnectAbilitySession :=
  if element ∈ session.elementsList then session
  else { session with elementsList := session.elementsList ++ [element] }

end ConnectAbilitySession

abbrev SessionsList := List ConnectAbilitySession

structure DistributedSchedService where
  distributedConnectAbilityMap : Std.TreeMap RemoteObject SessionsList := ∅
  trackingUidMap : Std.TreeMap Int32 ℕ := ∅
  /-- The objects which carry `connectDeathRecipient_`, once for each time. -/
  deathRecipients : List RemoteObject := []

structure ProcessDiedNotifyInfo where
  remoteDeviceId : Text
  callerInfo : CallerInfo
  targetComponent : TargetComponent

def maxDistributedConnectNum : ℕ := 600

def invalidCallerUid : Int32 := -1

inductive ConnectErr where
  | bindAbilityUidInvalid
  | bindAbilityLeak
  | invalidParameters
  | noConnectCallback
  deriving DecidableEq, Repr

namespace DistributedSchedService

def checkDistributedConnectLocked (service : DistributedSchedService)
    (callerInfo : CallerInfo) : Except ConnectErr Unit :=
  if callerInfo.uid < 0 then .error .bindAbilityUidInvalid
  else match service.trackingUidMap[callerInfo.uid]? with
    | some conns =>
        if maxDistributedConnectNum ≤ conns then .error .bindAbilityLeak
        else .ok ()
    | none => .ok ()

def decreaseConnectLocked (uid : Int32) (service : DistributedSchedService) :
    DistributedSchedService :=
  if uid < 0 then service
  else match service.trackingUidMap[uid]? with
    | none => service
    | some conns =>
        if conns - 1 = 0 then
          { service with trackingUidMap := service.trackingUidMap.erase uid }
        else
          { service with
              trackingUidMap := service.trackingUidMap.insert uid (conns - 1) }

def getUidLocked (sessionsList : SessionsList) : Int32 :=
  match sessionsList with
  | session :: _ => session.callerInfo.uid
  | [] => invalidCallerUid

def removeDeathRecipient (connect : RemoteObject)
    (service : DistributedSchedService) : DistributedSchedService :=
  { service with deathRecipients := service.deathRecipients.erase connect }

def eraseConnect (connect : RemoteObject) (service : DistributedSchedService) :
    DistributedSchedService :=
  { service with distributedConnectAbilityMap :=
      service.distributedConnectAbilityMap.erase connect }

/-! ## Recording -/

def addToSession (localDeviceId remoteDeviceId : Text) (element : ElementName)
    (callerInfo : CallerInfo) (targetComponent : TargetComponent) :
    SessionsList → SessionsList
  | [] =>
      [ConnectAbilitySession.addElement {
        sourceDeviceId := localDeviceId
        destinationDeviceId := remoteDeviceId
        callerInfo := callerInfo
        targetComponent := targetComponent } element]
  | session :: sessionsList =>
      if remoteDeviceId = session.destinationDeviceId then
        session.addElement element :: sessionsList
      else session :: addToSession localDeviceId remoteDeviceId element
        callerInfo targetComponent sessionsList

def remoteConnectAbilityMappingLocked (connect : RemoteObject)
    (localDeviceId remoteDeviceId : Text) (element : ElementName)
    (callerInfo : CallerInfo) (targetComponent : TargetComponent)
    (service : DistributedSchedService) : DistributedSchedService :=
  if connect = 0 then service
  else
    let service :=
      match service.distributedConnectAbilityMap[connect]? with
      | some _ => service
      | none =>
          let number := (service.trackingUidMap[callerInfo.uid]?).getD 0 + 1
          { service with
              trackingUidMap :=
                service.trackingUidMap.insert callerInfo.uid number
              deathRecipients := connect :: service.deathRecipients }
    let sessionsList :=
      (service.distributedConnectAbilityMap[connect]?).getD []
    let added := addToSession localDeviceId remoteDeviceId element callerInfo
      targetComponent sessionsList
    { service with distributedConnectAbilityMap :=
        service.distributedConnectAbilityMap.insert connect added }

/-! ## Removing -/

def disconnectRemoteAbility (connect : RemoteObject)
    (service : DistributedSchedService) :
    Except ConnectErr SessionsList × DistributedSchedService :=
  if connect = 0 then (.error .invalidParameters, service)
  else match service.distributedConnectAbilityMap[connect]? with
    | none => (.error .noConnectCallback, service)
    | some sessionsList =>
        let removed := eraseConnect connect (removeDeathRecipient connect
          (decreaseConnectLocked (getUidLocked sessionsList) service))
        if sessionsList.isEmpty then (.error .noConnectCallback, removed)
        else (.ok sessionsList, removed)

def removeDeviceSession (deviceId : Text) (connect : RemoteObject)
    (service : DistributedSchedService) :
    Option ConnectAbilitySession × DistributedSchedService :=
  match service.distributedConnectAbilityMap[connect]? with
  | none => (none, service)
  | some sessionsList =>
      let uid := getUidLocked sessionsList
      let toDevice := fun session : ConnectAbilitySession =>
        decide (session.destinationDeviceId = deviceId)
      let offline := sessionsList.find? toDevice
      let rest := sessionsList.eraseP toDevice
      if rest.isEmpty then
        let service :=
          if connect ≠ 0 then removeDeathRecipient connect service else service
        (offline, eraseConnect connect (decreaseConnectLocked uid service))
      else
        (offline, { service with distributedConnectAbilityMap :=
          service.distributedConnectAbilityMap.insert connect rest })

def removeConnectAbilityInfo (deviceId : Text)
    (service : DistributedSchedService) :
    List (RemoteObject × ConnectAbilitySession) × DistributedSchedService :=
  service.distributedConnectAbilityMap.keys.foldl
    (fun state connect =>
      let (offline, next) := removeDeviceSession deviceId connect state.2
      (state.1 ++ (offline.map fun session => (connect, session)).toList, next))
    ([], service)

def addNotifyInfo (callerInfo : CallerInfo)
    (notifyList : List ProcessDiedNotifyInfo)
    (session : ConnectAbilitySession) : List ProcessDiedNotifyInfo :=
  if notifyList.any fun info =>
      info.remoteDeviceId = session.destinationDeviceId &&
        info.targetComponent = session.targetComponent then notifyList
  else notifyList ++ [{
    remoteDeviceId := session.destinationDeviceId
    callerInfo := callerInfo
    targetComponent := session.targetComponent }]

def removeCaller (callerInfo : CallerInfo) (connect : RemoteObject)
    (state : List ProcessDiedNotifyInfo × DistributedSchedService) :
    List ProcessDiedNotifyInfo × DistributedSchedService :=
  match state.2.distributedConnectAbilityMap[connect]? with
  | none => state
  | some [] => state
  | some (first :: sessionsList) =>
      if first.isSameCaller callerInfo then
        let service := decreaseConnectLocked callerInfo.uid state.2
        let service :=
          if connect ≠ 0 then removeDeathRecipient connect service else service
        ((first :: sessionsList).foldl (addNotifyInfo callerInfo) state.1,
          eraseConnect connect service)
      else state

def processConnectDied (connect : RemoteObject)
    (service : DistributedSchedService) :
    List ProcessDiedNotifyInfo × DistributedSchedService :=
  if connect = 0 then ([], service)
  else match service.distributedConnectAbilityMap[connect]? with
    | none => ([], service)
    | some [] => ([], service)
    | some (first :: _) =>
        service.distributedConnectAbilityMap.keys.foldl
          (fun state other => removeCaller first.callerInfo other state)
          ([], service)

end DistributedSchedService

end Dmsfwk
