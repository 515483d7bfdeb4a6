import Dmsfwk.ConnectedAbilities

/-!
# Calls of remote abilities

The device of a caller keeps the sessions of its calls and a token for each
connect; the device of a called ability keeps a callback wrapper for each
connect and an observer for each wrapper.  The change of an ability's state is
sent back by the token of the observer.  One caller may call abilities on any
number of devices.
-/

namespace Dmsfwk

open SchedErr OrderedMap

structure CallInfo where
  connectToken : ℤ
  remoteDeviceId : Text

structure CallerService where
  localDeviceId : Text
  /-- It stays in the range of its limit, far below that of an `int32_t`. -/
  token : ℤ := 0
  callMap : Std.TreeMap RemoteObject CallInfo := ∅
  callerMap : Std.TreeMap RemoteObject SessionsList := ∅
  /-- The objects which carry `callerDeathRecipientForLocalDevice_`. -/
  deathRecipients : List RemoteObject := []

/-- `ConnectInfo` of a call.  The wrapper is an `AbilityConnectionWrapperStub` of
the connect, known by the number of stubs made before. -/
structure CalleeInfo where
  callerInfo : CallerInfo
  callbackWrapper : ℕ
  element : ElementName

structure ObserverInfo where
  srcDeviceId : Text
  connectToken : ℤ
  dstBundleName : Text
  dstAbilityName : Text
  srcConnect : RemoteObject
  token : RemoteObject := 0

structure CalleeService where
  calleeMap : Std.TreeMap RemoteObject CalleeInfo := ∅
  stubs : ℕ := 0
  observerMap : Std.TreeMap ℕ ObserverInfo := ∅
  /-- The bundles of `bundleNameMap_`. -/
  bundleNames : List Text := []
  /-- The objects which carry `callerDeathRecipient_`. -/
  deathRecipients : List RemoteObject := []

structure ReleaseCall where
  callback : CallbackWrapper
  element : ElementName
  deriving DecidableEq

/-- What one call meets on the device of the ability: the answers of
`CheckTargetPermission`, of `StartAbilityByCall`, of `GetAppManager` and of
`RegisterApplicationStateObserver`. -/
structure CallAnswers where
  checkTargetPermission : Int32 := errOk
  startAbilityByCall : Int32 := errOk
  appManagerFound : Bool := true
  registerObserver : Int32 := errOk

def defaultDmsConnectToken : ℤ := -1

/-! ## On the device of the caller -/

namespace CallerService

def maxTokenNum : ℤ := 100000000

def nextToken (service : CallerService) : ℤ :=
  if maxTokenNum < service.token + 1 then 1 else service.token + 1

def saveConnectToken (remoteDeviceId : Text) (connect : RemoteObject)
    (service : CallerService) : ℤ × CallerService :=
  let tToken := service.nextToken
  let callInfo : CallInfo := {
    connectToken := tToken
    remoteDeviceId := remoteDeviceId }
  (tToken, { service with
    token := tToken
    callMap := service.callMap.insert connect callInfo })

def saveCallerComponent (element : ElementName) (connect : RemoteObject)
    (callerInfo : CallerInfo) (service : CallerService) : CallerService :=
  if connect = 0 then service
  else
    let service :=
      match service.callerMap[connect]? with
      | some _ => service
      | none =>
          { service with deathRecipients := connect :: service.deathRecipients }
    let sessionsList := DistributedSchedService.addToSession
      callerInfo.sourceDeviceId element.deviceId element callerInfo .harmony
      ((service.callerMap[connect]?).getD [])
    { service with callerMap := service.callerMap.insert connect sessionsList }

def eraseCall (connect : RemoteObject) (service : CallerService) :
    CallerService :=
  { service with callMap := service.callMap.erase connect }

def removeCallerComponent (connect : RemoteObject) (service : CallerService) :
    CallerService :=
  if connect = 0 then service
  else
    let service :=
      match service.callerMap[connect]? with
      | some _ => { service with
          deathRecipients := service.deathRecipients.erase connect
          callerMap := service.callerMap.erase connect }
      | none => service
    service.eraseCall connect

def handleLocalCallerDied (connect : RemoteObject) (service : CallerService) :
    CallerService :=
  let removed :=
    { service with callerMap := service.callerMap.erase connect }
  removed.eraseCall connect

def removeCalleeSession (deviceId : Text) (connect : RemoteObject)
    (service : CallerService) : CallerService :=
  match service.callerMap[connect]? with
  | none => service
  | some sessionsList =>
      let rest := sessionsList.eraseP
        fun session => decide (session.destinationDeviceId = deviceId)
      if rest.isEmpty then
        { service with
          deathRecipients := service.deathRecipients.erase connect
          callerMap := service.callerMap.erase connect }
      else { service with callerMap := service.callerMap.insert connect rest }

def processCalleeOffline (deviceId : Text) (service : CallerService) :
    CallerService :=
  let removed := service.callerMap.keys.foldl
    (fun service connect => removeCalleeSession deviceId connect service) service
  let offline := (service.callMap.toList.filter
    fun entry => entry.2.remoteDeviceId = deviceId).map (·.1)
  let callMap := offline.foldl (fun callMap connect => callMap.erase connect)
    removed.callMap
  { removed with callMap := callMap }

/-- The part of `ProcessDeviceOffline` which is about calls. -/
def processDeviceOffline (deviceId : Text) (service : CallerService) :
    CallerService :=
  if !checkDeviceId service.localDeviceId deviceId then service
  else service.processCalleeOffline deviceId

def notifyStateChangedFromRemote (connectToken : ℤ) (service : CallerService) :
    Option RemoteObject :=
  match firstMatch service.callMap
      fun callInfo => callInfo.connectToken = connectToken with
  | none => none
  | some (connect, _) => if connect = 0 then none else some connect

end CallerService

/-! ## On the device of the ability -/

namespace CalleeService

def registerAppStateObserver (connectToken : ℤ) (element : ElementName)
    (callerInfo : CallerInfo) (srcConnect : RemoteObject)
    (callbackWrapper : ℕ) (answers : CallAnswers) (service : CalleeService) :
    CalleeService :=
  if connectToken = defaultDmsConnectToken then service
  else if !answers.appManagerFound then service
  else
    let known := element.bundleName ∈ service.bundleNames
    let service := if known then service else
      { service with bundleNames := element.bundleName :: service.bundleNames }
    if ¬ known ∧ answers.registerObserver ≠ errOk then service
    else
      let observer : ObserverInfo := {
        srcDeviceId := callerInfo.sourceDeviceId
        connectToken := connectToken
        dstBundleName := element.bundleName
        dstAbilityName := element.abilityName
        srcConnect := srcConnect }
      { service with
        observerMap := service.observerMap.insert callbackWrapper observer }

def unregisterAppStateObserver (callback : CallbackWrapper)
    (service : CalleeService) : CalleeService :=
  match callback with
  | .own _ => service
  | .stub _ serial =>
      match service.observerMap[serial]? with
      | none => service
      | some observer =>
          let observerMap := service.observerMap.erase serial
          let unRegisterFlag := (firstMatch observerMap fun other =>
            other.dstBundleName = observer.dstBundleName).isNone
          { service with
            observerMap := observerMap
            bundleNames := if unRegisterFlag then
                service.bundleNames.filter (· ≠ observer.dstBundleName)
              else service.bundleNames }

def startAbilityByCallFromRemote (localDeviceId callingDeviceId : Text)
    (element : ElementName) (connectToken : ℤ) (connect : RemoteObject)
    (callerInfo : CallerInfo) (answers : CallAnswers)
    (service : CalleeService) : Int32 × CalleeService :=
  if connect = 0 then (invalidRemoteParametersErr, service)
  else if !checkDeviceIdFromRemote localDeviceId element.deviceId
      callerInfo.sourceDeviceId callingDeviceId then
    (invalidRemoteParametersErr, service)
  else if answers.checkTargetPermission ≠ errOk then
    (answers.checkTargetPermission, service)
  else
    let (callbackWrapper, service) :=
      match service.calleeMap[connect]? with
      | some calleeInfo => (calleeInfo.callbackWrapper, service)
      | none => (service.stubs, { service with stubs := service.stubs + 1 })
    if answers.startAbilityByCall ≠ errOk then
      (answers.startAbilityByCall, service)
    else
      let calleeInfo : CalleeInfo := { callerInfo, callbackWrapper, element }
      let accepted := { service with
        calleeMap := service.calleeMap.insertIfNew connect calleeInfo
        deathRecipients := connect :: service.deathRecipients }
      (errOk, accepted.registerAppStateObserver connectToken element callerInfo
        connect callbackWrapper answers)

def releaseAbilityFromRemote (localDeviceId : Text) (connect : RemoteObject)
    (element : ElementName) (sourceDeviceId : Text) (releaseAbility : Int32)
    (service : CalleeService) : (Int32 × List ReleaseCall) × CalleeService :=
  if connect = 0 then ((invalidRemoteParametersErr, []), service)
  else if localDeviceId = [] ∨ sourceDeviceId = [] ∨
      localDeviceId = sourceDeviceId then
    ((invalidRemoteParametersErr, []), service)
  else match service.calleeMap[connect]? with
    | none => ((invalidRemoteParametersErr, []), service)
    | some calleeInfo =>
        let callback := .stub connect calleeInfo.callbackWrapper
        let erased := { service with
          calleeMap := service.calleeMap.erase connect
          deathRecipients := service.deathRecipients.erase connect }
        ((releaseAbility, [{ callback, element }]),
          erased.unregisterAppStateObserver callback)

def processCallerDied (connect : RemoteObject) (service : CalleeService) :
    List ReleaseCall × CalleeService :=
  if connect = 0 then ([], service)
  else match service.calleeMap[connect]? with
    | some calleeInfo =>
        let callback := .stub connect calleeInfo.callbackWrapper
        let erased :=
          { service with calleeMap := service.calleeMap.erase connect }
        ([{ callback, element := calleeInfo.element }],
          erased.unregisterAppStateObserver callback)
    | none => ([{ callback := .own connect, element := {} }], service)

def processCalleeDied (connect : RemoteObject) (service : CalleeService) :
    CalleeService :=
  if connect = 0 then service
  else match service.calleeMap[connect]? with
    | some calleeInfo =>
        let erased :=
          { service with calleeMap := service.calleeMap.erase connect }
        erased.unregisterAppStateObserver
          (.stub connect calleeInfo.callbackWrapper)
    | none => service

/-- `ProcessCallResult`, with the token that the ability manager has for the
callee. -/
def processCallResult (token callerConnect : RemoteObject)
    (service : CalleeService) : CalleeService :=
  if token = 0 then service
  else match firstMatch service.observerMap
      fun observer => observer.srcConnect = callerConnect with
    | none => service
    | some (callbackWrapper, observer) =>
        let observer := { observer with token := token }
        { service with
          observerMap := service.observerMap.insert callbackWrapper observer }

def notifyStateChanged (localDeviceId : Text) (element : ElementName)
    (token : RemoteObject) (service : CalleeService) : Option (Text × ℤ) :=
  match firstMatch service.observerMap fun observer =>
      observer.dstBundleName = element.bundleName &&
        observer.dstAbilityName = element.abilityName &&
        token = observer.token with
  | none => none
  | some (_, observer) =>
      if !checkDeviceId localDeviceId observer.srcDeviceId then none
      else some (observer.srcDeviceId, observer.connectToken)

end CalleeService

/-! ## Between the devices -/

structure CallNetwork where
  caller : CallerService
  callees : Text → CalleeService := fun _ => {}

namespace CallNetwork

def setCallee (deviceId : Text) (callee : CalleeService)
    (network : CallNetwork) : CallNetwork :=
  { network with callees := Function.update network.callees deviceId callee }

def tryStartRemoteAbilityByCall (request : ConnectRequest)
    (callerInfo : CallerInfo) (answers : CallAnswers) (network : CallNetwork) :
    Int32 × CallNetwork :=
  let remoteDeviceId := request.element.deviceId
  if request.getAccountInfo ≠ errOk then (request.getAccountInfo, network)
  else
    let (connectToken, caller) :=
      network.caller.saveConnectToken remoteDeviceId request.connect
    let (result, callee) :=
      (network.callees remoteDeviceId).startAbilityByCallFromRemote
        remoteDeviceId network.caller.localDeviceId request.element
        connectToken request.connect callerInfo answers
    let called :=
      { network with caller := caller }.setCallee remoteDeviceId callee
    if result ≠ errOk then (result, called)
    else (result, { called with caller :=
      caller.saveCallerComponent request.element request.connect callerInfo })

def startRemoteAbilityByCall (request : ConnectRequest) (answers : CallAnswers)
    (network : CallNetwork) : Int32 × CallNetwork :=
  let localDeviceId := network.caller.localDeviceId
  if !request.isCallerForeground then (dmsNotForegroundUser, network)
  else if request.connect = 0 then (invalidParametersErr, network)
  else if !checkDeviceId localDeviceId request.element.deviceId then
    (invalidParametersErr, network)
  else match request.callerAppId, request.bundleNames with
    | some callerAppId, some bundleNames =>
        let callerInfo : CallerInfo := {
          uid := request.callerUid
          pid := request.callerPid
          sourceDeviceId := localDeviceId
          accessToken := request.accessToken
          callerAppId := callerAppId
          bundleNames := bundleNames }
        let (ret, called) :=
          network.tryStartRemoteAbilityByCall request callerInfo answers
        if ret ≠ errOk then
          (ret, { called with caller := called.caller.eraseCall request.connect })
        else (ret, called)
    | _, _ => (invalidParametersErr, network)

def releaseRemoteAbility (connect : RemoteObject) (element : ElementName)
    (releaseAbility : Int32) (network : CallNetwork) :
    (Int32 × List ReleaseCall) × CallNetwork :=
  if connect = 0 then ((invalidParametersErr, []), network)
  else if element.deviceId = [] then ((invalidParametersErr, []), network)
  else
    let (answer, callee) :=
      (network.callees element.deviceId).releaseAbilityFromRemote
        element.deviceId connect element network.caller.localDeviceId
        releaseAbility
    let released := network.setCallee element.deviceId callee
    if answer.1 = errOk then
      (answer, { released with
        caller := released.caller.removeCallerComponent connect })
    else (answer, released)

def notifyStateChanged (deviceId : Text) (element : ElementName)
    (token : RemoteObject) (network : CallNetwork) : Option RemoteObject :=
  match (network.callees deviceId).notifyStateChanged deviceId element token with
  | none => none
  | some (srcDeviceId, connectToken) =>
      if srcDeviceId ≠ network.caller.localDeviceId then none
      else network.caller.notifyStateChangedFromRemote connectToken

end CallNetwork

/-! ## What is left alone -/

section Frames

namespace CallerService

variable {service : CallerService} {connect : RemoteObject}

@[simp] theorem saveCallerComponent_callMap (element : ElementName)
    (callerInfo : CallerInfo) :
    (service.saveCallerComponent element connect callerInfo).callMap =
      service.callMap := by
  unfold saveCallerComponent
  split_ifs
  · rfl
  · cases service.callerMap[connect]? <;> rfl

@[simp] theorem saveCallerComponent_token (element : ElementName)
    (callerInfo : CallerInfo) :
    (service.saveCallerComponent element connect callerInfo).token =
      service.token := by
  unfold saveCallerComponent
  split_ifs
  · rfl
  · cases service.callerMap[connect]? <;> rfl

@[simp] theorem saveCallerComponent_localDeviceId (element : ElementName)
    (callerInfo : CallerInfo) :
    (service.saveCallerComponent element connect callerInfo).localDeviceId =
      service.localDeviceId := by
  unfold saveCallerComponent
  split_ifs
  · rfl
  · cases service.callerMap[connect]? <;> rfl

theorem removeCallerComponent_spec (hconnect : connect ≠ 0) :
    (service.removeCallerComponent connect).localDeviceId =
        service.localDeviceId ∧
      (service.removeCallerComponent connect).token = service.token ∧
      (∀ other : RemoteObject,
        (service.removeCallerComponent connect).callMap[other]? =
          if connect = other then none else service.callMap[other]?) ∧
      (∀ other : RemoteObject,
        (service.removeCallerComponent connect).callerMap[other]? =
          if connect = other then none else service.callerMap[other]?) ∧
      ∀ other ≠ connect, other ∈ service.deathRecipients →
        other ∈ (service.removeCallerComponent connect).deathRecipients := by
  unfold removeCallerComponent eraseCall
  rw [if_neg hconnect]
  cases hfound : service.callerMap[connect]? with
  | none =>
      refine ⟨rfl, rfl, getElem?_erase_eq connect, ?_,
        fun _ _ hcarried => hcarried⟩
      intro other
      split_ifs with hsame
      · rw [← hsame, hfound]
      · rfl
  | some sessionsList =>
      refine ⟨rfl, rfl, getElem?_erase_eq connect, getElem?_erase_eq connect,
        ?_⟩
      intro other hother hcarried
      exact (List.mem_erase_of_ne hother).mpr hcarried

end CallerService

namespace CalleeService

variable {service : CalleeService} {connect : RemoteObject}

@[simp] theorem unregisterAppStateObserver_calleeMap
    (callback : CallbackWrapper) :
    (service.unregisterAppStateObserver callback).calleeMap =
      service.calleeMap := by
  unfold unregisterAppStateObserver
  split
  · rfl
  · split <;> rfl

@[simp] theorem unregisterAppStateObserver_stubs (callback : CallbackWrapper) :
    (service.unregisterAppStateObserver callback).stubs = service.stubs := by
  unfold unregisterAppStateObserver
  split
  · rfl
  · split <;> rfl

@[simp] theorem unregisterAppStateObserver_deathRecipients
    (callback : CallbackWrapper) :
    (service.unregisterAppStateObserver callback).deathRecipients =
      service.deathRecipients := by
  unfold unregisterAppStateObserver
  split
  · rfl
  · split <;> rfl

section Answers

variable (connectToken : ℤ) (element : ElementName) (callerInfo : CallerInfo)
  (serial : ℕ) (answers : CallAnswers)

@[simp] theorem registerAppStateObserver_calleeMap :
    (service.registerAppStateObserver connectToken element callerInfo connect
        serial answers).calleeMap = service.calleeMap := by
  unfold registerAppStateObserver
  dsimp only
  split_ifs <;> rfl

@[simp] theorem registerAppStateObserver_stubs :
    (service.registerAppStateObserver connectToken element callerInfo connect
        serial answers).stubs = service.stubs := by
  unfold registerAppStateObserver
  dsimp only
  split_ifs <;> rfl

@[simp] theorem registerAppStateObserver_deathRecipients :
    (service.registerAppStateObserver connectToken element callerInfo connect
        serial answers).deathRecipients = service.deathRecipients := by
  unfold registerAppStateObserver
  dsimp only
  split_ifs <;> rfl

end Answers

end CalleeService

end Frames

/-! ## What a call does -/

section Calls

variable {service : CalleeService} {caller : CallerService}
  {connect : RemoteObject} {element : ElementName}

/-- The call gets past the checks of `StartRemoteAbilityByCall`. -/
def ConnectRequest.Reaches (request : ConnectRequest) (localDeviceId : Text) :
    Prop :=
  request.isCallerForeground = true ∧ request.connect ≠ 0 ∧
    checkDeviceId localDeviceId request.element.deviceId = true ∧
    request.callerAppId.isSome = true ∧ request.bundleNames.isSome = true

instance (request : ConnectRequest) (localDeviceId : Text) :
    Decidable (request.Reaches localDeviceId) := by
  unfold ConnectRequest.Reaches
  infer_instance

def CallAnswers.Accepted (answers : CallAnswers) : Prop :=
  answers.checkTargetPermission = errOk ∧ answers.startAbilityByCall = errOk

instance (answers : CallAnswers) : Decidable answers.Accepted := by
  unfold CallAnswers.Accepted
  infer_instance

namespace CalleeService

def wrapperFor (connect : RemoteObject) (service : CalleeService) : ℕ :=
  match service.calleeMap[connect]? with
  | some calleeInfo => calleeInfo.callbackWrapper
  | none => service.stubs

def accept (connect : RemoteObject) (callerInfo : CallerInfo)
    (element : ElementName) (service : CalleeService) : CalleeService :=
  let stubs := match service.calleeMap[connect]? with
    | some _ => service.stubs
    | none => service.stubs + 1
  let calleeInfo : CalleeInfo := {
    callerInfo := callerInfo
    callbackWrapper := service.wrapperFor connect
    element := element }
  { service with
    stubs := stubs
    calleeMap := service.calleeMap.insertIfNew connect calleeInfo
    deathRecipients := connect :: service.deathRecipients }

theorem startAbilityByCallFromRemote_cases (localDeviceId callingDeviceId : Text)
    (element : ElementName) (connectToken : ℤ) (connect : RemoteObject)
    (callerInfo : CallerInfo) (answers : CallAnswers)
    (service : CalleeService) :
    (∃ result stubs, result ≠ errOk ∧ service.stubs ≤ stubs ∧
      service.startAbilityByCallFromRemote localDeviceId callingDeviceId
          element connectToken connect callerInfo answers =
        (result, { service with stubs := stubs })) ∨
    (answers.Accepted ∧
      service.startAbilityByCallFromRemote localDeviceId callingDeviceId
          element connectToken connect callerInfo answers =
        (errOk, (service.accept connect callerInfo element
          ).registerAppStateObserver connectToken element callerInfo connect
            (service.wrapperFor connect) answers)) := by
  unfold startAbilityByCallFromRemote
  split_ifs with hnull hdevices hpermission hstart
  · left
    exact ⟨_, service.stubs, by decide, le_rfl, rfl⟩
  · left
    exact ⟨_, service.stubs, by decide, le_rfl, rfl⟩
  · left
    exact ⟨_, service.stubs, hpermission, le_rfl, rfl⟩
  · left
    cases service.calleeMap[connect]? with
    | none => exact ⟨_, service.stubs + 1, hstart, Nat.le_succ _, rfl⟩
    | some calleeInfo => exact ⟨_, service.stubs, hstart, le_rfl, rfl⟩
  · right
    refine ⟨⟨not_not.mp hpermission, not_not.mp hstart⟩, ?_⟩
    unfold accept wrapperFor
    cases service.calleeMap[connect]? <;> rfl

end CalleeService

namespace CallNetwork

variable {network : CallNetwork}

theorem tryStartRemoteAbilityByCall_cases (request : ConnectRequest)
    (callerInfo : CallerInfo) (answers : CallAnswers) (network : CallNetwork) :
    (∃ result callMap token stubs, result ≠ errOk ∧
      (token = network.caller.token ∨ token = network.caller.nextToken) ∧
      (network.callees request.element.deviceId).stubs ≤ stubs ∧
      (∀ other : RemoteObject, request.connect ≠ other →
        callMap[other]? = network.caller.callMap[other]?) ∧
      network.tryStartRemoteAbilityByCall request callerInfo answers =
        (result, {
          caller := { network.caller with token := token, callMap := callMap }
          callees := Function.update network.callees request.element.deviceId
            { network.callees request.element.deviceId with
              stubs := stubs } })) ∨
    (request.getAccountInfo = errOk ∧ answers.Accepted ∧
      network.tryStartRemoteAbilityByCall request callerInfo answers =
        (errOk, {
          caller := (network.caller.saveConnectToken request.element.deviceId
            request.connect).2.saveCallerComponent request.element
              request.connect callerInfo
          callees := Function.update network.callees request.element.deviceId
            (((network.callees request.element.deviceId).accept request.connect
              callerInfo request.element).registerAppStateObserver
                network.caller.nextToken request.element callerInfo
                request.connect
                ((network.callees request.element.deviceId).wrapperFor
                  request.connect) answers) })) := by
  unfold tryStartRemoteAbilityByCall
  dsimp only
  by_cases haccount : request.getAccountInfo ≠ errOk
  · left
    rw [if_pos haccount]
    refine ⟨_, network.caller.callMap, network.caller.token, _, haccount,
      .inl rfl, le_rfl, fun _ _ => rfl, ?_⟩
    rw [Function.update_eq_self]
  · rw [if_neg haccount]
    unfold CallerService.saveConnectToken
    dsimp only
    rcases CalleeService.startAbilityByCallFromRemote_cases
      request.element.deviceId network.caller.localDeviceId request.element
      network.caller.nextToken request.connect callerInfo answers
      (network.callees request.element.deviceId) with
      ⟨result, stubs, hresult, hstubs, hcall⟩ | ⟨haccepted, hcall⟩
    · left
      rw [hcall]
      dsimp only
      rw [if_pos hresult]
      refine ⟨_, _, _, _, hresult, .inr rfl, hstubs, ?_, rfl⟩
      intro other hother
      exact (getElem?_insert_eq request.connect other _).trans (if_neg hother)
    · right
      rw [hcall]
      exact ⟨not_not.mp haccount, haccepted, rfl⟩

theorem startRemoteAbilityByCall_cases (request : ConnectRequest)
    (answers : CallAnswers) (network : CallNetwork) :
    (∃ result, result ≠ errOk ∧
      ¬ request.Reaches network.caller.localDeviceId ∧
      network.startRemoteAbilityByCall request answers = (result, network)) ∨
    request.Reaches network.caller.localDeviceId ∧
    ((∃ result callMap token stubs, result ≠ errOk ∧
      (token = network.caller.token ∨ token = network.caller.nextToken) ∧
      (network.callees request.element.deviceId).stubs ≤ stubs ∧
      (∀ other : RemoteObject, callMap[other]? =
        if request.connect = other then none
        else network.caller.callMap[other]?) ∧
      network.startRemoteAbilityByCall request answers =
        (result, {
          caller := { network.caller with token := token, callMap := callMap }
          callees := Function.update network.callees request.element.deviceId
            { network.callees request.element.deviceId with
              stubs := stubs } })) ∨
    (∃ callerInfo : CallerInfo,
      callerInfo.sourceDeviceId = network.caller.localDeviceId ∧
      request.getAccountInfo = errOk ∧ answers.Accepted ∧
      network.startRemoteAbilityByCall request answers =
        (errOk, {
          caller := (network.caller.saveConnectToken request.element.deviceId
            request.connect).2.saveCallerComponent request.element
              request.connect callerInfo
          callees := Function.update network.callees request.element.deviceId
            (((network.callees request.element.deviceId).accept request.connect
              callerInfo request.element).registerAppStateObserver
                network.caller.nextToken request.element callerInfo
                request.connect
                ((network.callees request.element.deviceId).wrapperFor
                  request.connect) answers) }))) := by
  unfold startRemoteAbilityByCall ConnectRequest.Reaches
  dsimp only
  split_ifs with hforeground hconnect hdevices
  · left
    refine ⟨_, by decide, ?_, rfl⟩
    rintro ⟨hcaller, -⟩
    simp [hcaller] at hforeground
  · left
    exact ⟨_, by decide, fun hreaches => hreaches.2.1 hconnect, rfl⟩
  · left
    refine ⟨_, by decide, ?_, rfl⟩
    rintro ⟨-, -, hchecked, -⟩
    simp [hchecked] at hdevices
  · rw [Bool.not_eq_true, Bool.not_eq_false'] at hforeground hdevices
    cases hcallerAppId : request.callerAppId with
    | none =>
        left
        exact ⟨_, by decide, fun hreaches => by simp at hreaches, rfl⟩
    | some callerAppId =>
        cases hbundleNames : request.bundleNames with
        | none =>
            left
            exact ⟨_, by decide, fun hreaches => by simp at hreaches, rfl⟩
        | some bundleNames =>
            right
            refine ⟨⟨hforeground, hconnect, hdevices, rfl, rfl⟩, ?_⟩
            dsimp only
            rcases network.tryStartRemoteAbilityByCall_cases request
              { uid := request.callerUid
                pid := request.callerPid
                sourceDeviceId := network.caller.localDeviceId
                accessToken := request.accessToken
                callerAppId := callerAppId
                bundleNames := bundleNames } answers with
              ⟨result, callMap, token, stubs, hresult, htoken, hstubs, hcallMap,
                hcalled⟩ | ⟨haccount, haccepted, hcalled⟩
            · left
              rw [hcalled]
              dsimp only
              rw [if_pos hresult]
              refine ⟨result, callMap.erase request.connect, token, stubs,
                hresult, htoken, hstubs, ?_, rfl⟩
              intro other
              rw [getElem?_erase_eq]
              split_ifs with hsame
              · rfl
              · exact hcallMap other hsame
            · right
              rw [hcalled]
              exact ⟨_, rfl, haccount, haccepted, rfl⟩

theorem setCallee_self (deviceId : Text) :
    network.setCallee deviceId (network.callees deviceId) = network := by
  unfold setCallee
  rw [Function.update_eq_self]

theorem releaseRemoteAbility_cases (connect : RemoteObject)
    (element : ElementName) (releaseAbility : Int32) (network : CallNetwork) :
    (∃ result, result ≠ errOk ∧
      ¬ (connect ≠ 0 ∧ checkDeviceId network.caller.localDeviceId
          element.deviceId = true ∧
        ((network.callees element.deviceId).calleeMap[connect]?).isSome =
          true) ∧
      network.releaseRemoteAbility connect element releaseAbility =
        ((result, []), network)) ∨
    ∃ calleeInfo, connect ≠ 0 ∧
      (network.callees element.deviceId).calleeMap[connect]? =
        some calleeInfo ∧
      network.releaseRemoteAbility connect element releaseAbility =
        ((releaseAbility, [{
          callback := .stub connect calleeInfo.callbackWrapper
          element := element }]), {
          caller := if releaseAbility = errOk then
              network.caller.removeCallerComponent connect
            else network.caller
          callees := Function.update network.callees element.deviceId
            (CalleeService.unregisterAppStateObserver
              (.stub connect calleeInfo.callbackWrapper)
              { network.callees element.deviceId with
                calleeMap :=
                  (network.callees element.deviceId).calleeMap.erase connect
                deathRecipients := (network.callees
                  element.deviceId).deathRecipients.erase connect }) }) := by
  unfold releaseRemoteAbility
  by_cases hnull : connect = 0
  · left
    exact ⟨invalidParametersErr, by decide, fun hpassed => hpassed.1 hnull,
      if_pos hnull⟩
  rw [if_neg hnull]
  by_cases hempty : element.deviceId = []
  · left
    refine ⟨invalidParametersErr, by decide, ?_, if_pos hempty⟩
    rintro ⟨-, hchecked, -⟩
    simp [checkDeviceId, hempty] at hchecked
  rw [if_neg hempty]
  unfold CalleeService.releaseAbilityFromRemote
  rw [if_neg hnull]
  by_cases hdevices : element.deviceId = [] ∨
      network.caller.localDeviceId = [] ∨
      element.deviceId = network.caller.localDeviceId
  · left
    refine ⟨invalidRemoteParametersErr, by decide, ?_, ?_⟩
    · rintro ⟨-, hchecked, -⟩
      simp only [checkDeviceId, Bool.and_eq_true, decide_eq_true_eq] at hchecked
      obtain ⟨⟨hlocal, hremote⟩, hother⟩ := hchecked
      rcases hdevices with hdevice | hdevice | hdevice
      · exact hremote hdevice
      · exact hlocal hdevice
      · exact hother hdevice.symm
    · rw [if_pos hdevices]
      dsimp only
      rw [if_neg (by decide), setCallee_self]
  rw [if_neg hdevices]
  cases hcallee : (network.callees element.deviceId).calleeMap[connect]? with
  | none =>
      left
      refine ⟨invalidRemoteParametersErr, by decide, ?_, ?_⟩
      · rintro ⟨-, -, hfound⟩
        cases hfound
      · dsimp only
        rw [if_neg (by decide), setCallee_self]
  | some calleeInfo =>
      right
      refine ⟨calleeInfo, hnull, rfl, ?_⟩
      dsimp only
      split_ifs <;> rfl

end CallNetwork

end Calls

end Dmsfwk
