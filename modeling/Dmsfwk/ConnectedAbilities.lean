import Dmsfwk.DSchedContinuation
import Dmsfwk.DistributedSchedService

/-!
# Connections between two devices

The device of a caller keeps the sessions of its connects, the device of the
abilities keeps a callback wrapper for each connect.  A request that comes from
the other device looks the wrapper up, has the ability manager connect it, and
records it; the ability manager is called outside of `connectLock_`.  What the
permission check and the ability manager answer is part of a request.
-/

namespace Dmsfwk

namespace SchedErr

def noConnectCallbackErr : Int32 := 29360130

def bindAbilityUidInvalidErr : Int32 := 29360159

def bindAbilityLeakErr : Int32 := 29360160

def dmsNotForegroundUser : Int32 := 29360236

end SchedErr

open SchedErr

def callerTypeHarmony : Int32 := 1

def bindConnectRetryTimes : ℕ := 3

def ConnectErr.code : ConnectErr → Int32
  | .bindAbilityUidInvalid => bindAbilityUidInvalidErr
  | .bindAbilityLeak => bindAbilityLeakErr
  | .invalidParameters => invalidParametersErr
  | .noConnectCallback => noConnectCallbackErr

/-- What the ability manager calls back: the connect of the caller itself, or an
`AbilityConnectionWrapperStub` around it, by the number of stubs made before. -/
inductive CallbackWrapper where
  | own (connect : RemoteObject)
  | stub (connect : RemoteObject) (serial : ℕ)
  deriving DecidableEq, Repr

def CallbackWrapper.connection : CallbackWrapper → RemoteObject
  | .own connect => connect
  | .stub connect _ => connect

inductive ConnectCall where
  | connectAbility (callback : CallbackWrapper) (element : ElementName)
      (errCode : Int32)
  | disconnectAbility (callback : CallbackWrapper)
  deriving DecidableEq

structure ConnectInfo where
  callerInfo : CallerInfo
  callbackWrapper : CallbackWrapper
  element : ElementName

/-- The `std::map` iterator of a look-up.  One that was never set compares
unequal to the end of the map, as one that points to an entry does, erased or
not. -/
inductive ConnectIterator where
  | unset
  | atEnd
  | atEntry
  deriving DecidableEq, Repr

structure ConnectedAbilities where
  connectAbilityMap : Std.TreeMap RemoteObject ConnectInfo := ∅
  stubs : ℕ := 0

namespace ConnectedAbilities

/-- The first section of `ConnectAbilityFromRemote`. -/
def findCallback (connect : RemoteObject) (callerInfo : CallerInfo)
    (callees : ConnectedAbilities) :
    (ConnectIterator × CallbackWrapper) × ConnectedAbilities :=
  if callerInfo.callerType = callerTypeHarmony then
    match callees.connectAbilityMap[connect]? with
    | some connectInfo => ((.atEntry, connectInfo.callbackWrapper), callees)
    | none => ((.atEnd, .stub connect callees.stubs),
        { callees with stubs := callees.stubs + 1 })
  else ((.unset, .own connect), callees)

def recordConnect (connect : RemoteObject) (callerInfo : CallerInfo)
    (element : ElementName) (itConnect : ConnectIterator)
    (callback : CallbackWrapper) (callees : ConnectedAbilities) :
    ConnectedAbilities :=
  if itConnect = .atEnd then
    let connectInfo : ConnectInfo := {
      callerInfo := callerInfo
      callbackWrapper := callback
      element := element }
    { callees with connectAbilityMap :=
        callees.connectAbilityMap.insertIfNew connect connectInfo }
  else callees

/-- The section of `DisconnectAbilityFromRemote`, with the callback that is
disconnected behind it. -/
def takeCallback (connect : RemoteObject) (isLocalCalling : Bool)
    (callees : ConnectedAbilities) :
    Option CallbackWrapper × ConnectedAbilities :=
  match callees.connectAbilityMap[connect]? with
  | some connectInfo =>
      (some connectInfo.callbackWrapper, { callees with
        connectAbilityMap := callees.connectAbilityMap.erase connect })
  | none =>
      (if isLocalCalling then some (.own connect) else none, callees)

/-- The loops over `connectAbilityMap_`: the entries which pass the test are
disconnected and erased. -/
def dropConnects (test : ConnectInfo → Bool) (callees : ConnectedAbilities) :
    List CallbackWrapper × ConnectedAbilities :=
  let dropped := callees.connectAbilityMap.toList.filter
    fun entry => test entry.2
  (dropped.map (·.2.callbackWrapper), { callees with
    connectAbilityMap := (dropped.map (·.1)).foldl
      (fun connectAbilityMap connect => connectAbilityMap.erase connect)
      callees.connectAbilityMap })

end ConnectedAbilities

structure ConnectRequest where
  element : ElementName
  connect : RemoteObject
  callerUid : Int32
  callerPid : Int32
  accessToken : UInt32
  isCallerForeground : Bool := true
  callerAppId : Option Text := some []
  bundleNames : Option (List Text) := some []
  getAccountInfo : Int32 := errOk

/-- What one remote call meets: the answers of `CheckTargetPermission` and of
`ConnectAbility`, and whether it takes longer than `BIND_CONNECT_TIMEOUT`. -/
structure ConnectAttempt where
  checkTargetPermission : Int32 := errOk
  connectAbility : Int32 := errOk
  timedOut : Bool := false

structure ConnectDevice where
  localDeviceId : Text
  callers : DistributedSchedService := {}
  callees : ConnectedAbilities := {}
  /-- The calls of `DistributedSchedAdapter`, in order. -/
  adapterCalls : List ConnectCall := []

def checkDeviceId (localDeviceId remoteDeviceId : Text) : Bool :=
  localDeviceId ≠ [] && remoteDeviceId ≠ [] && localDeviceId ≠ remoteDeviceId

theorem checkDeviceId_comm (first second : Text) :
    checkDeviceId first second = checkDeviceId second first := by
  simp only [checkDeviceId, ne_eq, eq_comm (a := first) (b := second)]
  rw [Bool.and_comm (decide (¬ first = [])) (decide (¬ second = []))]

def checkDeviceIdFromRemote (localDeviceId destinationDeviceId sourceDeviceId
    callingDeviceId : Text) : Bool :=
  localDeviceId ≠ [] && destinationDeviceId ≠ [] && sourceDeviceId ≠ [] &&
    localDeviceId = destinationDeviceId &&
    sourceDeviceId ≠ destinationDeviceId && sourceDeviceId ≠ localDeviceId &&
    sourceDeviceId = callingDeviceId

/-- The caller as `ConnectAbilityFromRemoteInner` reads it from the parcel. -/
def CallerInfo.readForConnect (callerInfo : CallerInfo) : CallerInfo where
  uid := callerInfo.uid
  pid := callerInfo.pid
  callerType := callerTypeHarmony
  sourceDeviceId := callerInfo.sourceDeviceId
  callerAppId := callerInfo.callerAppId
  accessToken := callerInfo.accessToken

def CallerInfo.readForProcessDied (callerInfo : CallerInfo) : CallerInfo where
  uid := callerInfo.uid
  pid := callerInfo.pid
  callerType := callerTypeHarmony
  sourceDeviceId := callerInfo.sourceDeviceId

namespace ConnectDevice

/-! ## On the device of the abilities -/

def checkConnect (callingDeviceId : Text) (element : ElementName)
    (connect : RemoteObject) (callerInfo : CallerInfo)
    (checkTargetPermission : Int32) (device : ConnectDevice) : Int32 :=
  if connect = 0 then invalidRemoteParametersErr
  else if !checkDeviceIdFromRemote device.localDeviceId element.deviceId
      callerInfo.sourceDeviceId callingDeviceId then invalidRemoteParametersErr
  else checkTargetPermission

def callAdapter (calls : List ConnectCall) (device : ConnectDevice) :
    ConnectDevice :=
  { device with adapterCalls := device.adapterCalls ++ calls }

def connectAbilityFromRemote (callingDeviceId : Text) (element : ElementName)
    (connect : RemoteObject) (callerInfo : CallerInfo)
    (attempt : ConnectAttempt) (device : ConnectDevice) :
    Int32 × ConnectDevice :=
  let result := device.checkConnect callingDeviceId element connect callerInfo
    attempt.checkTargetPermission
  if result ≠ errOk then (result, device)
  else
    let ((itConnect, callbackWrapper), callees) :=
      device.callees.findCallback connect callerInfo
    let called := { device with callees := callees }.callAdapter
      [.connectAbility callbackWrapper element attempt.connectAbility]
    if attempt.connectAbility ≠ errOk then (attempt.connectAbility, called)
    else
      let recorded := callees.recordConnect connect callerInfo element
        itConnect callbackWrapper
      (errOk, { called with callees := recorded })

def disconnectAbilityFromRemote (connect : RemoteObject)
    (sourceDeviceId : Text) (isLocalCalling : Bool) (disconnectAbility : Int32)
    (device : ConnectDevice) : Int32 × ConnectDevice :=
  if connect = 0 then (invalidRemoteParametersErr, device)
  else if device.localDeviceId = [] ∨ sourceDeviceId = [] ∨
      device.localDeviceId = sourceDeviceId then
    (invalidRemoteParametersErr, device)
  else match device.callees.takeCallback connect isLocalCalling with
    | (none, _) => (invalidRemoteParametersErr, device)
    | (some callbackWrapper, callees) =>
        (disconnectAbility, { device with callees := callees }.callAdapter
          [.disconnectAbility callbackWrapper])

def dropConnects (test : ConnectInfo → Bool) (device : ConnectDevice) :
    ConnectDevice :=
  let (dropped, callees) := device.callees.dropConnects test
  { device with callees := callees }.callAdapter
    (dropped.map .disconnectAbility)

def notifyProcessDiedFromRemote (callerInfo : CallerInfo)
    (device : ConnectDevice) : ConnectDevice :=
  device.dropConnects fun connectInfo =>
    callerInfo.sourceDeviceId = connectInfo.callerInfo.sourceDeviceId &&
      callerInfo.uid = connectInfo.callerInfo.uid &&
      callerInfo.pid = connectInfo.callerInfo.pid &&
      callerInfo.callerType = connectInfo.callerInfo.callerType

def processDeviceOffline (deviceId : Text) (device : ConnectDevice) :
    ConnectDevice :=
  if !checkDeviceId device.localDeviceId deviceId then device
  else
    let removed := (device.callers.removeConnectAbilityInfo deviceId).2
    { device with callers := removed }.dropConnects fun connectInfo =>
      deviceId = connectInfo.callerInfo.sourceDeviceId

end ConnectDevice

/-! ## From the device of the caller -/

structure DevicePair where
  near : ConnectDevice
  far : ConnectDevice

namespace DevicePair

def swap (pair : DevicePair) : DevicePair where
  near := pair.far
  far := pair.near

def retryConnect (request : ConnectRequest) (callerInfo : CallerInfo)
    (attempt : ℕ → ConnectAttempt) (result : Int32) :
    ℕ → DevicePair → Int32 × DevicePair
  | 0, pair => (result, pair)
  | retryTimes + 1, pair =>
      let (result, far) := pair.far.connectAbilityFromRemote
        pair.near.localDeviceId request.element request.connect
        callerInfo.readForConnect (attempt retryTimes)
      let called := { pair with far := far }
      if result = errOk then
        let callers := pair.near.callers.remoteConnectAbilityMappingLocked
          request.connect callerInfo.sourceDeviceId request.element.deviceId
          request.element callerInfo .harmony
        (errOk, { called with near := { pair.near with callers := callers } })
      else if result = invalidRemoteParametersErr ∨
          result = remoteDeviceBindAbilityErr then (result, called)
      else if (attempt retryTimes).timedOut then (result, called)
      else retryConnect request callerInfo attempt result retryTimes called

def tryConnectRemoteAbility (request : ConnectRequest)
    (callerInfo : CallerInfo) (attempt : ℕ → ConnectAttempt)
    (pair : DevicePair) : Int32 × DevicePair :=
  -- no other device answers
  if request.element.deviceId ≠ pair.far.localDeviceId ∨
      request.connect = 0 then (invalidParametersErr, pair)
  else if request.getAccountInfo ≠ errOk then (request.getAccountInfo, pair)
  else retryConnect request callerInfo attempt remoteDeviceBindAbilityErr
    bindConnectRetryTimes pair

def connectRemoteAbility (request : ConnectRequest)
    (attempt : ℕ → ConnectAttempt) (pair : DevicePair) : Int32 × DevicePair :=
  let localDeviceId := pair.near.localDeviceId
  if !request.isCallerForeground then (dmsNotForegroundUser, pair)
  else if !checkDeviceId localDeviceId request.element.deviceId then
    (invalidParametersErr, pair)
  else
    let callerInfo : CallerInfo := {
      uid := request.callerUid
      pid := request.callerPid
      callerType := callerTypeHarmony
      sourceDeviceId := localDeviceId
      accessToken := request.accessToken }
    match pair.near.callers.checkDistributedConnectLocked callerInfo with
    | .error err => (err.code, pair)
    | .ok () =>
        match request.callerAppId, request.bundleNames with
        | some callerAppId, some bundleNames =>
            tryConnectRemoteAbility request { callerInfo with
              callerAppId := callerAppId
              bundleNames := bundleNames } attempt pair
        | _, _ => (invalidParametersErr, pair)

def disconnectEach (connect : RemoteObject) (pair : DevicePair)
    (session : ConnectAbilitySession) : DevicePair :=
  if session.destinationDeviceId ≠ pair.far.localDeviceId then pair
  else
    let far := (pair.far.disconnectAbilityFromRemote connect
      session.sourceDeviceId false errOk).2
    { pair with far := far }

def disconnectRemoteAbility (connect : RemoteObject) (pair : DevicePair) :
    Int32 × DevicePair :=
  let (result, callers) := pair.near.callers.disconnectRemoteAbility connect
  let removed := { pair with near := { pair.near with callers := callers } }
  match result with
  | .error err => (err.code, removed)
  | .ok sessionsList =>
      (errOk, sessionsList.foldl (disconnectEach connect) removed)

def notifyProcessDied (pair : DevicePair) (info : ProcessDiedNotifyInfo) :
    DevicePair :=
  if info.remoteDeviceId ≠ pair.far.localDeviceId then pair
  else
    let far := pair.far.notifyProcessDiedFromRemote
      info.callerInfo.readForProcessDied
    { pair with far := far }

def processConnectDied (connect : RemoteObject) (pair : DevicePair) :
    DevicePair :=
  let (notifyList, callers) := pair.near.callers.processConnectDied connect
  notifyList.foldl notifyProcessDied
    { pair with near := { pair.near with callers := callers } }

def devicesOffline (pair : DevicePair) : DevicePair where
  near := pair.near.processDeviceOffline pair.far.localDeviceId
  far := pair.far.processDeviceOffline pair.near.localDeviceId

end DevicePair

end Dmsfwk
