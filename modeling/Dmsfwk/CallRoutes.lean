import Dmsfwk.AbilityCall

/-!
# The ways of calls

The way back from an ability to its caller goes through the observer of the
wrapper and the token of the connect, of which there is one each for a connect.
Where nothing that calls are told apart by is used twice, the way of a call leads
to its connect and to no other one.
-/

namespace Dmsfwk

open SchedErr OrderedMap

/-! ## Calls that are under way -/

structure RoutedCall where
  connect : RemoteObject
  element : ElementName
  token : RemoteObject := 0
  deriving DecidableEq

structure CallRoutes where
  network : CallNetwork
  calls : List RoutedCall := []

inductive RouteEvent where
  | start (request : ConnectRequest) (answers : CallAnswers)
  | release (connect : RemoteObject) (element : ElementName)
      (releaseAbility : Int32)
  /-- The ability manager has connected the callee of the element. -/
  | callResult (connect : RemoteObject) (element : ElementName)
      (token : RemoteObject)

namespace CallRoutes

def deliver (connect : RemoteObject) (element : ElementName)
    (token : RemoteObject) (call : RoutedCall) : RoutedCall :=
  if call.connect = connect ∧ call.element = element then
    { call with token := token }
  else call

def step (routes : CallRoutes) : RouteEvent → Int32 × CallRoutes
  | .start request answers =>
      let (result, network) :=
        routes.network.startRemoteAbilityByCall request answers
      let call : RoutedCall := {
        connect := request.connect
        element := request.element }
      (result, {
        network := network
        calls := if result = errOk then call :: routes.calls
          else routes.calls })
  | .release connect element releaseAbility =>
      let ((result, _), network) :=
        routes.network.releaseRemoteAbility connect element releaseAbility
      (result, {
        network := network
        calls := if result = errOk then
            routes.calls.filter fun call =>
              ¬ (call.connect = connect ∧ call.element = element)
          else routes.calls })
  | .callResult connect element token =>
      let callee := (routes.network.callees element.deviceId).processCallResult
        token connect
      (errOk, {
        network := routes.network.setCallee element.deviceId callee
        calls := if token = 0 then routes.calls
          else routes.calls.map (deliver connect element token) })

/-- The change of an ability that was called reaches the connect of the call and
no other one. -/
def ReachesCallers (routes : CallRoutes) : Prop :=
  ∀ call ∈ routes.calls, call.token ≠ 0 →
    routes.network.notifyStateChanged call.element.deviceId call.element
      call.token = some call.connect

def isStart : RouteEvent → Bool
  | .start _ _ => true
  | _ => false

/-- A connect that is in use is not used for another call, and the observer of
a call gets registered; a connect in use is released for its own element, and
the ability manager does so; a token is delivered while the connect is used for
its element, and no other call of the same ability has it. -/
def Guard (routes : CallRoutes) : RouteEvent → Prop
  | .start request answers =>
      request.Reaches routes.network.caller.localDeviceId →
        routes.network.caller.callMap[request.connect]?.isNone = true ∧
        (request.getAccountInfo = errOk → answers.Accepted →
          answers.appManagerFound = true ∧
          (request.element.bundleName ∈
              (routes.network.callees request.element.deviceId).bundleNames ∨
            answers.registerObserver = errOk))
  | .release connect element releaseAbility =>
      ∀ calleeInfo ∈
          (routes.network.callees element.deviceId).calleeMap[connect]?,
        calleeInfo.element = element ∧ releaseAbility = errOk
  | .callResult connect element token =>
      (∀ calleeInfo ∈
          (routes.network.callees element.deviceId).calleeMap[connect]?,
        calleeInfo.element = element) ∧
      ∀ entry ∈ (routes.network.callees element.deviceId).observerMap.toList,
        entry.2.srcConnect ≠ connect →
          ¬ (entry.2.dstBundleName = element.bundleName ∧
            entry.2.dstAbilityName = element.abilityName ∧
            entry.2.token = token)

instance (routes : CallRoutes) (event : RouteEvent) :
    Decidable (routes.Guard event) := by
  cases event <;> unfold Guard <;> infer_instance

end CallRoutes

/-! ## Observers -/

section Observers

namespace CalleeService

variable {service : CalleeService} {connect : RemoteObject}

theorem getElem?_unregisterAppStateObserver (serial other : ℕ) :
    (service.unregisterAppStateObserver
        (.stub connect serial)).observerMap[other]? =
      if serial = other then none else service.observerMap[other]? := by
  unfold unregisterAppStateObserver
  dsimp only
  cases hobserver : service.observerMap[serial]? with
  | none =>
      split_ifs with hsame
      · rw [← hsame, hobserver]
      · rfl
  | some observer => exact getElem?_erase_eq serial other

theorem observerMap_registerAppStateObserver {connectToken : ℤ}
    (htoken : connectToken ≠ defaultDmsConnectToken) (element : ElementName)
    (callerInfo : CallerInfo) (serial : ℕ) {answers : CallAnswers}
    (hmanager : answers.appManagerFound = true)
    (hregistered : element.bundleName ∈ service.bundleNames ∨
      answers.registerObserver = errOk) :
    (service.registerAppStateObserver connectToken element callerInfo connect
        serial answers).observerMap =
      service.observerMap.insert serial
        { srcDeviceId := callerInfo.sourceDeviceId
          connectToken := connectToken
          dstBundleName := element.bundleName
          dstAbilityName := element.abilityName
          srcConnect := connect } := by
  have hdone : ¬ (element.bundleName ∉ service.bundleNames ∧
      answers.registerObserver ≠ errOk) := by
    rintro ⟨hunknown, hfailed⟩
    rcases hregistered with hknown | hok
    · exact hunknown hknown
    · exact hfailed hok
  unfold registerAppStateObserver
  dsimp only
  rw [if_neg htoken, hmanager, if_neg hdone]
  split_ifs
  · simp_all
  · rfl
  · rfl

end CalleeService

end Observers

/-! ## The way of a call -/

def RoutedCall.observer (call : RoutedCall) (srcDeviceId : Text)
    (connectToken : ℤ) : ObserverInfo where
  srcDeviceId := srcDeviceId
  connectToken := connectToken
  dstBundleName := call.element.bundleName
  dstAbilityName := call.element.abilityName
  srcConnect := call.connect
  token := call.token

namespace CallNetwork

def HasRoute (network : CallNetwork) (call : RoutedCall) : Prop :=
  ∃ callInfo calleeInfo,
    network.caller.callMap[call.connect]? = some callInfo ∧
    (network.callees call.element.deviceId).calleeMap[call.connect]? =
      some calleeInfo ∧
    calleeInfo.element = call.element ∧
    (network.callees call.element.deviceId).observerMap[
      calleeInfo.callbackWrapper]? =
        some (call.observer network.caller.localDeviceId callInfo.connectToken)

end CallNetwork

namespace CallRoutes

/-- Every call has its entries, every entry belongs to a call, and nothing that
calls are told apart by is used twice. -/
structure Routed (routes : CallRoutes) : Prop where
  hasRoute : ∀ call ∈ routes.calls, routes.network.HasRoute call
  checked : ∀ call ∈ routes.calls, call.connect ≠ 0 ∧
    checkDeviceId routes.network.caller.localDeviceId
      call.element.deviceId = true
  unique : ∀ call ∈ routes.calls, ∀ other ∈ routes.calls,
    call.connect = other.connect → call = other
  tokensDiffer : ∀ call ∈ routes.calls, ∀ other ∈ routes.calls,
    call.token ≠ 0 → call.element.deviceId = other.element.deviceId →
    call.element.bundleName = other.element.bundleName →
    call.element.abilityName = other.element.abilityName →
    call.token = other.token → call.connect = other.connect
  ofCallMap : ∀ connect : RemoteObject,
    connect ∈ routes.network.caller.callMap →
      ∃ call ∈ routes.calls, call.connect = connect
  ofCalleeMap : ∀ (deviceId : Text) (connect : RemoteObject)
    (calleeInfo : CalleeInfo),
    (routes.network.callees deviceId).calleeMap[connect]? = some calleeInfo →
      (∃ call ∈ routes.calls, call.connect = connect ∧
        call.element.deviceId = deviceId) ∧
      calleeInfo.callbackWrapper < (routes.network.callees deviceId).stubs
  ofObserverMap : ∀ (deviceId : Text) (serial : ℕ) (observer : ObserverInfo),
    (routes.network.callees deviceId).observerMap[serial]? = some observer →
      ∃ calleeInfo, (routes.network.callees deviceId).calleeMap[
          observer.srcConnect]? = some calleeInfo ∧
        calleeInfo.callbackWrapper = serial
  counted : 0 ≤ routes.network.caller.token
  issued : ∀ (connect : RemoteObject) (callInfo : CallInfo),
    routes.network.caller.callMap[connect]? = some callInfo →
      0 < callInfo.connectToken ∧
        callInfo.connectToken ≤ routes.network.caller.token
  issuedOnce : ∀ (connect other : RemoteObject) (callInfo otherInfo : CallInfo),
    routes.network.caller.callMap[connect]? = some callInfo →
    routes.network.caller.callMap[other]? = some otherInfo →
      callInfo.connectToken = otherInfo.connectToken → connect = other

section Routes

variable {routes : CallRoutes}

theorem Routed.observer (hrouted : Routed routes) {deviceId : Text} {serial : ℕ}
    {observer : ObserverInfo}
    (hobserver : (routes.network.callees deviceId).observerMap[serial]? =
      some observer) :
    ∃ call ∈ routes.calls, call.element.deviceId = deviceId ∧
      ∃ callInfo, routes.network.caller.callMap[call.connect]? =
          some callInfo ∧
        observer = call.observer routes.network.caller.localDeviceId
          callInfo.connectToken := by
  obtain ⟨calleeInfo, hcallee, hserial⟩ :=
    hrouted.ofObserverMap deviceId serial observer hobserver
  obtain ⟨⟨call, hcall, hconnect, hdevice⟩, -⟩ :=
    hrouted.ofCalleeMap deviceId _ calleeInfo hcallee
  obtain ⟨callInfo, found, hcallInfo, hfound, -, hroute⟩ :=
    hrouted.hasRoute call hcall
  rw [hdevice, hconnect, hcallee] at hfound
  cases hfound
  rw [hdevice, hserial, hobserver] at hroute
  exact ⟨call, hcall, hdevice, callInfo, hcallInfo, Option.some.inj hroute⟩

theorem Routed.notifyStateChangedFromRemote (hrouted : Routed routes)
    {connect : RemoteObject} (hconnect : connect ≠ 0) {callInfo : CallInfo}
    (hcallInfo : routes.network.caller.callMap[connect]? = some callInfo) :
    routes.network.caller.notifyStateChangedFromRemote callInfo.connectToken =
      some connect := by
  unfold CallerService.notifyStateChangedFromRemote
  cases hfound : firstMatch routes.network.caller.callMap
      fun found => found.connectToken = callInfo.connectToken with
  | none =>
      have hnone := firstMatch_eq_none.mp hfound _ _ hcallInfo
      simp at hnone
  | some entry =>
      obtain ⟨other, foundInfo⟩ := entry
      obtain ⟨hentry, hissued, -⟩ := firstMatch_spec hfound
      rw [decide_eq_true_eq] at hissued
      have hsame : other = connect :=
        hrouted.issuedOnce other connect foundInfo callInfo hentry hcallInfo
          hissued
      subst hsame
      exact if_neg hconnect

theorem Routed.reachesCallers (hrouted : Routed routes) :
    routes.ReachesCallers := by
  intro call hcall htoken
  obtain ⟨hconnect, hdevices⟩ := hrouted.checked call hcall
  obtain ⟨callInfo, calleeInfo, hcallInfo, -, -, hroute⟩ :=
    hrouted.hasRoute call hcall
  unfold CallNetwork.notifyStateChanged CalleeService.notifyStateChanged
  cases hfirst : firstMatch
      (routes.network.callees call.element.deviceId).observerMap
      fun observer => observer.dstBundleName = call.element.bundleName &&
        observer.dstAbilityName = call.element.abilityName &&
        call.token = observer.token with
  | none =>
      have hnone := firstMatch_eq_none.mp hfirst _ _ hroute
      simp [RoutedCall.observer] at hnone
  | some entry =>
      obtain ⟨serial, observer⟩ := entry
      obtain ⟨hobserver, hmatches, -⟩ := firstMatch_spec hfirst
      obtain ⟨other, hother, hdevice, otherInfo, hotherInfo, rfl⟩ :=
        hrouted.observer hobserver
      rw [Bool.and_eq_true, Bool.and_eq_true] at hmatches
      obtain ⟨⟨hbundle, hability⟩, hsameToken⟩ := hmatches
      -- the observer that is found is that of the call itself
      have hsame : call = other := hrouted.unique call hcall other hother
        (hrouted.tokensDiffer call hcall other hother htoken hdevice.symm
          (of_decide_eq_true hbundle).symm (of_decide_eq_true hability).symm
          (of_decide_eq_true hsameToken))
      subst hsame
      rw [hcallInfo] at hotherInfo
      cases hotherInfo
      rw [checkDeviceId_comm] at hdevices
      simp only [RoutedCall.observer, hdevices, Bool.not_true,
        Bool.false_eq_true, if_false, ne_eq, not_true_eq_false]
      exact hrouted.notifyStateChangedFromRemote hconnect hcallInfo

end Routes

end CallRoutes

end Dmsfwk
