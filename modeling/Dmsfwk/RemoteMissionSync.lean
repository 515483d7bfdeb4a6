import Dmsfwk.DistributedSchedService

/-!
# Synchronising the missions of other devices

The mission manager keeps the listeners of every remote device and the flag
`called` beside them, which is set when the device was asked to synchronise.  It
asks remote services which it looks up and caches, retries from a task of its
handler when a service cannot be reached, and learns from another task that a
cached service has died.
-/

namespace Dmsfwk

structure ListenerInfo where
  called : Bool := false
  listenerSet : Finset RemoteObject := ∅

inductive MissionHandlerTask where
  | retryStartSync (dstDeviceId : Text) (retryTimes : ℕ)
  | remoteDmsDied (remote : RemoteObject)
  deriving DecidableEq, Repr

inductive SyncErr where
  | invalidParameters
  | getRemoteDmsFail
  | getLocalDevice
  | remote (code : Int32)
  deriving DecidableEq, Repr

inductive SyncExchange where
  | startSyncMissions (deviceId : Text) (ok : Bool)
  | stopSyncMissions (deviceId : Text) (ok : Bool)
  deriving DecidableEq, Repr

structure SyncAnswers where
  /-- The device is known and not the local one. -/
  validDevice : Bool := true
  localDeviceId : Bool := true
  generateCallerInfo : Bool := true
  /-- The service of the device, 0 when it is not reachable. -/
  checkSystemAbility : Text → RemoteObject
  startResult : Text → Int32 := fun _ => 0
  stopResult : Text → Int32 := fun _ => 0

structure RemoteMissionSync where
  listenDeviceMap : Std.TreeMap Text ListenerInfo := ∅
  remoteDmsMap : Std.TreeMap Text RemoteObject := ∅
  /-- The delayed and posted tasks of the mission handler. -/
  tasks : List MissionHandlerTask := []

structure SyncOutcome where
  result : Except SyncErr Unit := .ok ()
  exchanges : List SyncExchange := []

def maxRetryTimes : ℕ := 15

namespace RemoteMissionSync

def reaches (answers : SyncAnswers) (deviceId : Text)
    (sync : RemoteMissionSync) : Bool :=
  deviceId ≠ [] &&
    (sync.remoteDmsMap.contains deviceId ||
      answers.checkSystemAbility deviceId ≠ 0)

def getRemoteDms (answers : SyncAnswers) (deviceId : Text)
    (sync : RemoteMissionSync) : RemoteMissionSync :=
  if deviceId = [] then sync
  else if sync.remoteDmsMap.contains deviceId then sync
  else if answers.checkSystemAbility deviceId = 0 then sync
  else { sync with
    remoteDmsMap := sync.remoteDmsMap.insert deviceId
      (answers.checkSystemAbility deviceId) }

def startWith (answers : SyncAnswers) (dstDevId : Text) : SyncOutcome :=
  if !answers.generateCallerInfo then { result := .error .getLocalDevice }
  else if answers.startResult dstDevId = 0 then
    { exchanges := [.startSyncMissions dstDevId true] }
  else
    { result := .error (.remote (answers.startResult dstDevId))
      exchanges := [.startSyncMissions dstDevId false] }

def hasSyncListener (networkId : Text) (sync : RemoteMissionSync) : Bool :=
  match sync.listenDeviceMap[networkId]? with
  | some listenerInfo => listenerInfo.called
  | none => false

def retryStartSync (dstDeviceId : Text) (retryTimes : ℕ)
    (sync : RemoteMissionSync) : RemoteMissionSync :=
  if retryTimes < maxRetryTimes then
    { sync with tasks := sync.tasks ++ [.retryStartSync dstDeviceId retryTimes] }
  else sync

def setCalled (dstDevId : Text) (sync : RemoteMissionSync) :
    RemoteMissionSync :=
  match sync.listenDeviceMap[dstDevId]? with
  | some listenerInfo =>
      let called := { listenerInfo with called := true }
      { sync with
          listenDeviceMap := sync.listenDeviceMap.insert dstDevId called }
  | none => sync

/-! ## Requests -/

def registerMissionListener (answers : SyncAnswers) (devId : Text)
    (listener : RemoteObject) (sync : RemoteMissionSync) :
    SyncOutcome × RemoteMissionSync :=
  if listener = 0 ∨ answers.validDevice = false then
    ({ result := .error .invalidParameters }, sync)
  else
    let listenerInfo := (sync.listenDeviceMap[devId]?).getD {}
    if listener ∈ listenerInfo.listenerSet then ({}, sync)
    else
      let added := { listenerInfo with
        listenerSet := insert listener listenerInfo.listenerSet }
      ({}, { sync with
        listenDeviceMap := sync.listenDeviceMap.insert devId added })

def startSyncRemoteMissions (answers : SyncAnswers) (dstDevId : Text)
    (sync : RemoteMissionSync) : SyncOutcome × RemoteMissionSync :=
  if answers.validDevice = false then
    ({ result := .error .invalidParameters }, sync)
  else match sync.listenDeviceMap[dstDevId]? with
    | none => ({}, sync)
    | some listenerInfo =>
        if listenerInfo.called then ({}, sync)
        else if sync.reaches answers dstDevId = false then
          ({ result := .error .getRemoteDmsFail },
            retryStartSync dstDevId 0 sync)
        else
          let outcome := startWith answers dstDevId
          let sync := getRemoteDms answers dstDevId sync
          match outcome.result with
          | .ok _ => (outcome, setCalled dstDevId sync)
          | .error _ => (outcome, sync)

def stopSyncRemoteMissions (answers : SyncAnswers) (dstDevId : Text)
    (offline : Bool) (sync : RemoteMissionSync) :
    SyncOutcome × RemoteMissionSync :=
  if offline then ({}, sync)
  else if sync.reaches answers dstDevId = false then
    ({ result := .error .getRemoteDmsFail }, sync)
  else
    let sync := getRemoteDms answers dstDevId sync
    if !answers.generateCallerInfo then
      ({ result := .error .getLocalDevice }, sync)
    else if answers.stopResult dstDevId = 0 then
      ({ exchanges := [.stopSyncMissions dstDevId true] }, sync)
    else
      ({ result := .error (.remote (answers.stopResult dstDevId))
         exchanges := [.stopSyncMissions dstDevId false] }, sync)

def unRegisterMissionListener (answers : SyncAnswers) (devId : Text)
    (listener : RemoteObject) (sync : RemoteMissionSync) :
    SyncOutcome × RemoteMissionSync :=
  if listener = 0 ∨ answers.validDevice = false then
    ({ result := .error .invalidParameters }, sync)
  else match sync.listenDeviceMap[devId]? with
    | none => ({}, sync)
    | some listenerInfo =>
        let rest := listenerInfo.listenerSet.erase listener
        if listener ∉ listenerInfo.listenerSet then ({}, sync)
        else if rest = ∅ then
          ({}, { sync with
            listenDeviceMap := sync.listenDeviceMap.erase devId })
        else
          let kept := { listenerInfo with listenerSet := rest }
          ({}, { sync with
            listenDeviceMap := sync.listenDeviceMap.insert devId kept })

def cleanMissionResources (answers : SyncAnswers) (networkId : Text)
    (sync : RemoteMissionSync) : SyncOutcome × RemoteMissionSync :=
  match sync.listenDeviceMap[networkId]? with
  | none => ({}, sync)
  | some _ =>
      stopSyncRemoteMissions answers networkId true { sync with
        listenDeviceMap := sync.listenDeviceMap.erase networkId }

/-! ## Deaths -/

def withoutListener (remote : RemoteObject) (listenerInfo : ListenerInfo) :
    Option ListenerInfo :=
  if remote ∉ listenerInfo.listenerSet then some listenerInfo
  else if listenerInfo.listenerSet.erase remote = ∅ then none
  else some { listenerInfo with
    listenerSet := listenerInfo.listenerSet.erase remote }

def onMissionListenerDied (answers : SyncAnswers) (remote : RemoteObject)
    (sync : RemoteMissionSync) : SyncOutcome × RemoteMissionSync :=
  let deviceSet := sync.listenDeviceMap.toList.filter fun entry =>
    (withoutListener remote entry.2).isNone && entry.2.called
  let remaining := { sync with
    listenDeviceMap := sync.listenDeviceMap.filterMap fun _ listenerInfo =>
      withoutListener remote listenerInfo }
  (deviceSet.map (·.1)).foldl
    (fun state devId =>
      let (outcome, next) :=
        stopSyncRemoteMissions answers devId false state.2
      ({ exchanges := state.1.exchanges ++ outcome.exchanges }, next))
    ({}, remaining)

def onRemoteDmsDied (answers : SyncAnswers) (remote : RemoteObject)
    (sync : RemoteMissionSync) : RemoteMissionSync :=
  match sync.remoteDmsMap.toList.find? fun entry =>
      entry.2 = remote && entry.2 ≠ 0 with
  | none => sync
  | some (devId, _) =>
      let sync := { sync with remoteDmsMap := sync.remoteDmsMap.erase devId }
      if devId = [] then sync
      else if hasSyncListener devId sync && answers.localDeviceId then
        retryStartSync devId 0 sync
      else sync

/-! ## Tasks -/

def retryTask (answers : SyncAnswers) (dstDeviceId : Text) (retryTimes : ℕ)
    (sync : RemoteMissionSync) : SyncOutcome × RemoteMissionSync :=
  if !hasSyncListener dstDeviceId sync then ({}, sync)
  else if sync.reaches answers dstDeviceId = false then
    ({}, retryStartSync dstDeviceId (retryTimes + 1) sync)
  else
    ({ exchanges := (startWith answers dstDeviceId).exchanges },
      getRemoteDms answers dstDeviceId sync)

/-- Retries are delayed, so any task may be the next one. -/
def runTask (answers : SyncAnswers) (index : ℕ) (sync : RemoteMissionSync) :
    SyncOutcome × RemoteMissionSync :=
  let rest := { sync with tasks := sync.tasks.eraseIdx index }
  match sync.tasks[index]? with
  | none => ({}, sync)
  | some (.retryStartSync dstDeviceId retryTimes) =>
      retryTask answers dstDeviceId retryTimes rest
  | some (.remoteDmsDied remote) =>
      ({}, onRemoteDmsDied answers remote rest)

inductive SyncEvent where
  | registerMissionListener (answers : SyncAnswers) (devId : Text)
      (listener : RemoteObject)
  | startSyncRemoteMissions (answers : SyncAnswers) (dstDevId : Text)
  | stopSyncRemoteMissions (answers : SyncAnswers) (dstDevId : Text)
  | unRegisterMissionListener (answers : SyncAnswers) (devId : Text)
      (listener : RemoteObject)
  | deviceOffline (answers : SyncAnswers) (networkId : Text)
  | missionListenerDied (answers : SyncAnswers) (remote : RemoteObject)
  | remoteDmsDied (remote : RemoteObject)
  | runTask (answers : SyncAnswers) (index : ℕ)

def step (sync : RemoteMissionSync) :
    SyncEvent → SyncOutcome × RemoteMissionSync
  | .registerMissionListener answers devId listener =>
      registerMissionListener answers devId listener sync
  | .startSyncRemoteMissions answers dstDevId =>
      startSyncRemoteMissions answers dstDevId sync
  | .stopSyncRemoteMissions answers dstDevId =>
      stopSyncRemoteMissions answers dstDevId false sync
  | .unRegisterMissionListener answers devId listener =>
      unRegisterMissionListener answers devId listener sync
  | .deviceOffline answers networkId =>
      cleanMissionResources answers networkId sync
  | .missionListenerDied answers remote =>
      onMissionListenerDied answers remote sync
  | .remoteDmsDied remote =>
      ({}, { sync with tasks := sync.tasks ++ [.remoteDmsDied remote] })
  | .runTask answers index => runTask answers index sync

end RemoteMissionSync

end Dmsfwk
