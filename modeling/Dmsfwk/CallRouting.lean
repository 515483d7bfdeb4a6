import Dmsfwk.CallRoutes

/-!
# State changes of called abilities

A call adds its entries on both devices, a release removes them and a token is
written into the observer of its call.  As long as a connect carries one call at
a time, every step leaves calls whose ways lead to their own connects.
-/

namespace Dmsfwk

open SchedErr OrderedMap

namespace CallRoutes

section Routes

variable {routes : CallRoutes}

/-! ## Steps that change nothing -/

/-- The maps of a network that decide about ways, up to fresh tokens and
wrappers. -/
structure SameRoutes (before after : CallNetwork) : Prop where
  localDeviceId : after.caller.localDeviceId = before.caller.localDeviceId
  token : before.caller.token ≤ after.caller.token
  callMap : ∀ connect : RemoteObject,
    after.caller.callMap[connect]? = before.caller.callMap[connect]?
  stubs : ∀ deviceId, (before.callees deviceId).stubs ≤
    (after.callees deviceId).stubs
  calleeMap : ∀ (deviceId : Text) (connect : RemoteObject),
    (after.callees deviceId).calleeMap[connect]? =
      (before.callees deviceId).calleeMap[connect]?
  observerMap : ∀ (deviceId : Text) (serial : ℕ),
    (after.callees deviceId).observerMap[serial]? =
      (before.callees deviceId).observerMap[serial]?

theorem Routed.sameRoutes (hrouted : Routed routes) {after : CallNetwork}
    (hsame : SameRoutes routes.network after) :
    Routed { routes with network := after } where
  hasRoute call hcall := by
    have hroute := hrouted.hasRoute call hcall
    unfold CallNetwork.HasRoute at hroute ⊢
    simp only [hsame.callMap, hsame.calleeMap, hsame.observerMap,
      hsame.localDeviceId]
    exact hroute
  checked call hcall := by
    rw [hsame.localDeviceId]
    exact hrouted.checked call hcall
  unique := hrouted.unique
  tokensDiffer := hrouted.tokensDiffer
  ofCallMap connect hconnect := by
    rw [Std.TreeMap.mem_iff_isSome_getElem?, hsame.callMap,
      ← Std.TreeMap.mem_iff_isSome_getElem?] at hconnect
    exact hrouted.ofCallMap connect hconnect
  ofCalleeMap deviceId connect calleeInfo hcallee := by
    rw [hsame.calleeMap] at hcallee
    obtain ⟨hcall, hfresh⟩ :=
      hrouted.ofCalleeMap deviceId connect calleeInfo hcallee
    exact ⟨hcall, hfresh.trans_le (hsame.stubs deviceId)⟩
  ofObserverMap deviceId serial observer hobserver := by
    rw [hsame.observerMap] at hobserver
    simp only [hsame.calleeMap]
    exact hrouted.ofObserverMap deviceId serial observer hobserver
  counted := hrouted.counted.trans hsame.token
  issued connect callInfo hcallInfo := by
    rw [hsame.callMap] at hcallInfo
    obtain ⟨hpos, hle⟩ := hrouted.issued connect callInfo hcallInfo
    exact ⟨hpos, hle.trans hsame.token⟩
  issuedOnce connect other callInfo otherInfo hconnect hother := by
    rw [hsame.callMap] at hconnect hother
    exact hrouted.issuedOnce connect other callInfo otherInfo hconnect hother

/-! ## New calls -/

theorem Routed.unused (hrouted : Routed routes) {connect : RemoteObject}
    (hfree : routes.network.caller.callMap[connect]? = none) :
    (∀ call ∈ routes.calls, call.connect ≠ connect) ∧
      ∀ deviceId, (routes.network.callees deviceId).calleeMap[connect]? =
        none := by
  have hcalls : ∀ call ∈ routes.calls, call.connect ≠ connect := by
    rintro call hcall rfl
    obtain ⟨callInfo, -, hcallInfo, -⟩ := hrouted.hasRoute call hcall
    rw [hfree] at hcallInfo
    cases hcallInfo
  refine ⟨hcalls, ?_⟩
  intro deviceId
  cases hcallee : (routes.network.callees deviceId).calleeMap[connect]? with
  | none => rfl
  | some calleeInfo =>
      obtain ⟨⟨call, hcall, hconnect, -⟩, -⟩ :=
        hrouted.ofCalleeMap deviceId connect calleeInfo hcallee
      exact absurd hconnect (hcalls call hcall)

structure Added (before after : CallNetwork) (call : RoutedCall)
    (calleeInfo : CalleeInfo) : Prop where
  localDeviceId : after.caller.localDeviceId = before.caller.localDeviceId
  token : after.caller.token = before.caller.token + 1
  callMap : ∀ connect : RemoteObject, after.caller.callMap[connect]? =
    if call.connect = connect then
      some { connectToken := before.caller.token + 1
             remoteDeviceId := call.element.deviceId }
    else before.caller.callMap[connect]?
  element : calleeInfo.element = call.element
  wrapper : calleeInfo.callbackWrapper =
    (before.callees call.element.deviceId).stubs
  stubs : ∀ deviceId, (before.callees deviceId).stubs ≤
    (after.callees deviceId).stubs
  newStub : (before.callees call.element.deviceId).stubs <
    (after.callees call.element.deviceId).stubs
  calleeMap : ∀ (deviceId : Text) (connect : RemoteObject),
    (after.callees deviceId).calleeMap[connect]? =
      if call.element.deviceId = deviceId ∧ call.connect = connect then
        some calleeInfo
      else (before.callees deviceId).calleeMap[connect]?
  observerMap : ∀ (deviceId : Text) (serial : ℕ),
    (after.callees deviceId).observerMap[serial]? =
      if call.element.deviceId = deviceId ∧
          calleeInfo.callbackWrapper = serial then
        some (call.observer before.caller.localDeviceId
          (before.caller.token + 1))
      else (before.callees deviceId).observerMap[serial]?

variable {deviceId : Text}

section Adding

variable {after : CallNetwork} {call : RoutedCall} {calleeInfo : CalleeInfo}

theorem Added.hasRoute (hadded : Added routes.network after call calleeInfo) :
    after.HasRoute call := by
  refine ⟨_, calleeInfo, (hadded.callMap _).trans (if_pos rfl),
    (hadded.calleeMap _ _).trans (if_pos ⟨rfl, rfl⟩), hadded.element, ?_⟩
  rw [hadded.observerMap, hadded.localDeviceId]
  exact if_pos ⟨rfl, rfl⟩

section Routed

variable (hrouted : Routed routes)
  (hadded : Added routes.network after call calleeInfo)

include hrouted hadded

theorem Routed.hasRoute_added {other : RoutedCall} (hother : other ∈ routes.calls)
    (hne : call.connect ≠ other.connect) : after.HasRoute other := by
  unfold CallNetwork.HasRoute
  simp only [hadded.callMap, hadded.calleeMap, hadded.observerMap,
    hadded.localDeviceId]
  obtain ⟨callInfo, otherInfo, hcallInfo, hotherInfo, helement, hroute⟩ :=
    hrouted.hasRoute other hother
  obtain ⟨-, hold⟩ := hrouted.ofCalleeMap _ _ otherInfo hotherInfo
  refine ⟨callInfo, otherInfo, ?_, ?_, helement, ?_⟩
  · rw [if_neg hne]
    exact hcallInfo
  · rw [if_neg (fun hboth => hne hboth.2)]
    exact hotherInfo
  · rw [if_neg]
    · exact hroute
    · rintro ⟨hdevice, hserial⟩
      rw [hadded.wrapper, hdevice] at hserial
      exact absurd hserial (Ne.symm hold.ne)

theorem Routed.ofCallMap_added {connect : RemoteObject}
    (hmem : connect ∈ after.caller.callMap) :
    ∃ other ∈ call :: routes.calls, other.connect = connect := by
  by_cases hsame : call.connect = connect
  · exact ⟨call, List.mem_cons_self, hsame⟩
  · rw [Std.TreeMap.mem_iff_isSome_getElem?, hadded.callMap, if_neg hsame,
      ← Std.TreeMap.mem_iff_isSome_getElem?] at hmem
    obtain ⟨other, hother, hconnect⟩ := hrouted.ofCallMap connect hmem
    exact ⟨other, List.mem_cons_of_mem _ hother, hconnect⟩

theorem Routed.ofCalleeMap_added {connect : RemoteObject} {found : CalleeInfo}
    (hfound : (after.callees deviceId).calleeMap[connect]? = some found) :
    (∃ other ∈ call :: routes.calls, other.connect = connect ∧
        other.element.deviceId = deviceId) ∧
      found.callbackWrapper < (after.callees deviceId).stubs := by
  rw [hadded.calleeMap] at hfound
  split_ifs at hfound with hnew
  · cases hfound
    obtain ⟨rfl, rfl⟩ := hnew
    refine ⟨⟨call, List.mem_cons_self, rfl, rfl⟩, ?_⟩
    rw [hadded.wrapper]
    exact hadded.newStub
  · obtain ⟨⟨other, hother, hboth⟩, hold⟩ :=
      hrouted.ofCalleeMap deviceId connect found hfound
    exact ⟨⟨other, List.mem_cons_of_mem _ hother, hboth⟩,
      hold.trans_le (hadded.stubs deviceId)⟩

theorem Routed.ofObserverMap_added
    (hnew : (routes.network.callees call.element.deviceId).calleeMap[
      call.connect]? = none) {serial : ℕ} {observer : ObserverInfo}
    (hobserver : (after.callees deviceId).observerMap[serial]? =
      some observer) :
    ∃ found, (after.callees deviceId).calleeMap[observer.srcConnect]? =
        some found ∧ found.callbackWrapper = serial := by
  rw [hadded.observerMap] at hobserver
  simp only [hadded.calleeMap]
  split_ifs at hobserver with hsame
  · cases hobserver
    exact ⟨calleeInfo, if_pos ⟨hsame.1, rfl⟩, hsame.2⟩
  · obtain ⟨found, hfound, hserial⟩ :=
      hrouted.ofObserverMap deviceId serial observer hobserver
    refine ⟨found, ?_, hserial⟩
    rw [if_neg]
    · exact hfound
    · rintro ⟨rfl, hconnect⟩
      rw [← hconnect, hnew] at hfound
      cases hfound

theorem Routed.issued_added {connect : RemoteObject} {callInfo : CallInfo}
    (hcallInfo : after.caller.callMap[connect]? = some callInfo) :
    0 < callInfo.connectToken ∧
      callInfo.connectToken ≤ after.caller.token := by
  have hcounted := hrouted.counted
  rw [hadded.callMap] at hcallInfo
  rw [hadded.token]
  split_ifs at hcallInfo
  · cases hcallInfo
    dsimp only
    omega
  · have hissued := hrouted.issued connect callInfo hcallInfo
    omega

theorem Routed.issuedOnce_added {connect other : RemoteObject}
    {callInfo otherInfo : CallInfo}
    (hcallInfo : after.caller.callMap[connect]? = some callInfo)
    (hotherInfo : after.caller.callMap[other]? = some otherInfo)
    (hsame : callInfo.connectToken = otherInfo.connectToken) :
    connect = other := by
  rw [hadded.callMap] at hcallInfo hotherInfo
  split_ifs at hcallInfo hotherInfo with hfirst hsecond hsecond
  · exact hfirst.symm.trans hsecond
  · cases hcallInfo
    have hissued := hrouted.issued other otherInfo hotherInfo
    dsimp only at hsame
    omega
  · cases hotherInfo
    have hissued := hrouted.issued connect callInfo hcallInfo
    dsimp only at hsame
    omega
  · exact hrouted.issuedOnce connect other callInfo otherInfo hcallInfo
      hotherInfo hsame

end Routed

theorem Routed.addCall (hrouted : Routed routes)
    (hfree : routes.network.caller.callMap[call.connect]? = none)
    (hconnect : call.connect ≠ 0) (htoken : call.token = 0)
    (hdevices : checkDeviceId routes.network.caller.localDeviceId
      call.element.deviceId = true)
    (hadded : Added routes.network after call calleeInfo) :
    Routed { network := after, calls := call :: routes.calls } := by
  obtain ⟨hcalls, hcallees⟩ := hrouted.unused hfree
  constructor
  case hasRoute =>
    intro other hother
    rcases List.mem_cons.mp hother with rfl | hother
    · exact hadded.hasRoute
    · exact hrouted.hasRoute_added hadded hother (Ne.symm (hcalls other hother))
  case checked =>
    intro other hother
    rw [hadded.localDeviceId]
    rcases List.mem_cons.mp hother with rfl | hother
    · exact ⟨hconnect, hdevices⟩
    · exact hrouted.checked other hother
  case unique =>
    intro first hfirst second hsecond hsame
    rcases List.mem_cons.mp hfirst with rfl | hfirstOld
    · rcases List.mem_cons.mp hsecond with rfl | hsecondOld
      · rfl
      · exact absurd hsame.symm (hcalls second hsecondOld)
    · rcases List.mem_cons.mp hsecond with rfl | hsecondOld
      · exact absurd hsame (hcalls first hfirstOld)
      · exact hrouted.unique first hfirstOld second hsecondOld hsame
  case tokensDiffer =>
    intro first hfirst second hsecond hknown hdevice hbundle hability hsame
    rcases List.mem_cons.mp hfirst with rfl | hfirstOld
    · exact absurd htoken hknown
    · rcases List.mem_cons.mp hsecond with rfl | hsecondOld
      · rw [htoken] at hsame
        exact absurd hsame hknown
      · exact hrouted.tokensDiffer first hfirstOld second hsecondOld hknown
          hdevice hbundle hability hsame
  case ofCallMap => exact fun _ => hrouted.ofCallMap_added hadded
  case ofCalleeMap => exact fun _ _ _ => hrouted.ofCalleeMap_added hadded
  case ofObserverMap =>
    exact fun _ _ _ => hrouted.ofObserverMap_added hadded (hcallees _)
  case counted =>
    rw [hadded.token]
    have hcounted := hrouted.counted
    omega
  case issued => exact fun _ _ => hrouted.issued_added hadded
  case issuedOnce => exact fun _ _ _ _ => hrouted.issuedOnce_added hadded

end Adding

theorem nextToken_of_lt {service : CallerService}
    (htoken : service.token < CallerService.maxTokenNum) :
    service.nextToken = service.token + 1 := by
  unfold CallerService.nextToken
  rw [if_neg (by omega)]

theorem added_start (hrouted : Routed routes) {request : ConnectRequest}
    (hfree : routes.network.caller.callMap[request.connect]? = none)
    (hnext : routes.network.caller.nextToken =
      routes.network.caller.token + 1) {callerInfo : CallerInfo}
    (hsource : callerInfo.sourceDeviceId =
      routes.network.caller.localDeviceId) {answers : CallAnswers}
    (hmanager : answers.appManagerFound = true)
    (hbundle : request.element.bundleName ∈
        (routes.network.callees request.element.deviceId).bundleNames ∨
      answers.registerObserver = errOk)
    {after : CallNetwork}
    (hcaller : after.caller = (routes.network.caller.saveConnectToken
      request.element.deviceId request.connect).2.saveCallerComponent
        request.element request.connect callerInfo)
    (hcallee : after.callees request.element.deviceId =
      ((routes.network.callees request.element.deviceId).accept request.connect
        callerInfo request.element).registerAppStateObserver
          routes.network.caller.nextToken request.element callerInfo
          request.connect ((routes.network.callees
            request.element.deviceId).wrapperFor request.connect) answers)
    (hothers : ∀ deviceId, deviceId ≠ request.element.deviceId →
      after.callees deviceId = routes.network.callees deviceId) :
    Added routes.network after
      { connect := request.connect, element := request.element }
      { callerInfo := callerInfo
        callbackWrapper :=
          (routes.network.callees request.element.deviceId).stubs
        element := request.element } := by
  obtain ⟨-, hcallees⟩ := hrouted.unused hfree
  have hnew := hcallees request.element.deviceId
  have hcounted := hrouted.counted
  have htoken : routes.network.caller.nextToken ≠ defaultDmsConnectToken := by
    rw [hnext, defaultDmsConnectToken]
    omega
  have hwrapper : (routes.network.callees
      request.element.deviceId).wrapperFor request.connect =
      (routes.network.callees request.element.deviceId).stubs := by
    rw [CalleeService.wrapperFor, hnew]
  have hstubs : (after.callees request.element.deviceId).stubs =
      (routes.network.callees request.element.deviceId).stubs + 1 := by
    rw [hcallee, CalleeService.registerAppStateObserver_stubs,
      CalleeService.accept, hnew]
  constructor
  · rw [hcaller, CallerService.saveCallerComponent_localDeviceId]
    rfl
  · rw [hcaller, CallerService.saveCallerComponent_token]
    exact hnext
  · intro connect
    rw [hcaller, CallerService.saveCallerComponent_callMap, ← hnext]
    exact getElem?_insert_eq request.connect connect _
  · rfl
  · rfl
  · intro deviceId
    by_cases hdevice : deviceId = request.element.deviceId
    · rw [hdevice, hstubs]
      exact Nat.le_succ _
    · rw [hothers deviceId hdevice]
  · rw [hstubs]
    exact Nat.lt_succ_self _
  · intro deviceId connect
    by_cases hdevice : deviceId = request.element.deviceId
    · rw [hdevice, hcallee, CalleeService.registerAppStateObserver_calleeMap,
        CalleeService.accept, hwrapper, getElem?_insertIfNew_eq hnew]
      simp
    · rw [hothers deviceId hdevice,
        if_neg (fun hboth => hdevice hboth.1.symm)]
  · intro deviceId serial
    by_cases hdevice : deviceId = request.element.deviceId
    · have hknown : request.element.bundleName ∈
            ((routes.network.callees request.element.deviceId).accept
              request.connect callerInfo request.element).bundleNames ∨
          answers.registerObserver = errOk := hbundle
      rw [hdevice, hcallee, hwrapper,
        CalleeService.observerMap_registerAppStateObserver htoken _ _ _
          hmanager hknown, getElem?_insert_eq, hnext, hsource]
      simp [RoutedCall.observer, CalleeService.accept]
    · rw [hothers deviceId hdevice,
        if_neg (fun hboth => hdevice hboth.1.symm)]

theorem sameRoutes_failed {request : ConnectRequest} {after : CallNetwork}
    (hfree : routes.network.caller.callMap[request.connect]? = none)
    (hlocal : after.caller.localDeviceId =
      routes.network.caller.localDeviceId)
    (htoken : routes.network.caller.token ≤ after.caller.token)
    (hcallMap : ∀ other : RemoteObject, after.caller.callMap[other]? =
      if request.connect = other then none
      else routes.network.caller.callMap[other]?) {stubs : ℕ}
    (hstubs : (routes.network.callees request.element.deviceId).stubs ≤ stubs)
    (hcallee : after.callees request.element.deviceId =
      { routes.network.callees request.element.deviceId with stubs := stubs })
    (hothers : ∀ deviceId, deviceId ≠ request.element.deviceId →
      after.callees deviceId = routes.network.callees deviceId) :
    SameRoutes routes.network after where
  localDeviceId := hlocal
  token := htoken
  callMap connect := by
    rw [hcallMap]
    split_ifs with hsame
    · rw [← hsame, hfree]
    · rfl
  stubs deviceId := by
    by_cases hdevice : deviceId = request.element.deviceId
    · rw [hdevice, hcallee]
      exact hstubs
    · rw [hothers deviceId hdevice]
  calleeMap deviceId connect := by
    by_cases hdevice : deviceId = request.element.deviceId
    · rw [hdevice, hcallee]
    · rw [hothers deviceId hdevice]
  observerMap deviceId serial := by
    by_cases hdevice : deviceId = request.element.deviceId
    · rw [hdevice, hcallee]
    · rw [hothers deviceId hdevice]

theorem Routed.start (hrouted : Routed routes) {request : ConnectRequest}
    {answers : CallAnswers} (hguard : routes.Guard (.start request answers))
    (htoken : routes.network.caller.token < CallerService.maxTokenNum) :
    Routed (routes.step (.start request answers)).2 := by
  have hnext := nextToken_of_lt htoken
  rcases routes.network.startRemoteAbilityByCall_cases request answers with
    ⟨result, hresult, -, hstart⟩ | ⟨hreaches, hcalled⟩
  · simp only [step, hstart, if_neg hresult]
    exact hrouted
  obtain ⟨hfree, hregistered⟩ := hguard hreaches
  rw [Option.isNone_iff_eq_none] at hfree
  rcases hcalled with ⟨result, callMap, token, stubs, hresult, hissued, hstubs,
    hcallMap, hstart⟩ | ⟨callerInfo, hsource, haccount, haccepted, hstart⟩
  · simp only [step, hstart, if_neg hresult]
    apply hrouted.sameRoutes
    refine sameRoutes_failed hfree rfl ?_ hcallMap hstubs
      (Function.update_self _ _ _) ?_
    · rw [hnext] at hissued
      dsimp only
      omega
    · intro deviceId hdevice
      exact Function.update_of_ne hdevice _ _
  · simp only [step, hstart, if_true]
    obtain ⟨hmanager, hbundle⟩ := hregistered haccount haccepted
    obtain ⟨-, hconnect, hdevices, -⟩ := hreaches
    apply hrouted.addCall hfree hconnect rfl hdevices
    refine added_start hrouted hfree hnext hsource hmanager hbundle rfl
      (Function.update_self _ _ _) ?_
    intro deviceId hdevice
    exact Function.update_of_ne hdevice _ _

/-! ## Released calls -/

structure Removed (before after : CallNetwork) (call : RoutedCall)
    (serial : ℕ) : Prop where
  localDeviceId : after.caller.localDeviceId = before.caller.localDeviceId
  token : after.caller.token = before.caller.token
  callMap : ∀ connect : RemoteObject, after.caller.callMap[connect]? =
    if call.connect = connect then none else before.caller.callMap[connect]?
  stubs : ∀ deviceId, (after.callees deviceId).stubs =
    (before.callees deviceId).stubs
  calleeMap : ∀ (deviceId : Text) (connect : RemoteObject),
    (after.callees deviceId).calleeMap[connect]? =
      if call.element.deviceId = deviceId ∧ call.connect = connect then none
      else (before.callees deviceId).calleeMap[connect]?
  observerMap : ∀ (deviceId : Text) (serial' : ℕ),
    (after.callees deviceId).observerMap[serial']? =
      if call.element.deviceId = deviceId ∧ serial = serial' then none
      else (before.callees deviceId).observerMap[serial']?

section Removing

variable {after : CallNetwork} {call : RoutedCall} {calleeInfo : CalleeInfo}

section Released

variable (hrouted : Routed routes)

include hrouted

theorem Routed.mem_released (hcall : call ∈ routes.calls) (other : RoutedCall) :
    (other ∈ routes.calls.filter fun other =>
      ¬ (other.connect = call.connect ∧ other.element = call.element)) ↔
      other ∈ routes.calls ∧ other.connect ≠ call.connect := by
  rw [List.mem_filter, decide_eq_true_eq]
  constructor
  · rintro ⟨hother, hdifferent⟩
    refine ⟨hother, fun hsame => hdifferent ⟨hsame, ?_⟩⟩
    rw [hrouted.unique other hother call hcall hsame]
  · rintro ⟨hother, hne⟩
    exact ⟨hother, fun hboth => hne hboth.1⟩

theorem Routed.hasRoute_removed (hcall : call ∈ routes.calls)
    (hcallee : (routes.network.callees call.element.deviceId).calleeMap[
      call.connect]? = some calleeInfo)
    (hremoved : Removed routes.network after call calleeInfo.callbackWrapper)
    {other : RoutedCall} (hother : other ∈ routes.calls)
    (hne : other.connect ≠ call.connect) : after.HasRoute other := by
  obtain ⟨callInfo, found, hcallInfo, hfound, -, hroute⟩ :=
    hrouted.hasRoute call hcall
  rw [hcallee] at hfound
  cases hfound
  unfold CallNetwork.HasRoute
  simp only [hremoved.callMap, hremoved.calleeMap, hremoved.observerMap,
    hremoved.localDeviceId]
  obtain ⟨otherInfo, otherCallee, hotherInfo, hotherCallee, helement,
    hotherRoute⟩ := hrouted.hasRoute other hother
  refine ⟨otherInfo, otherCallee, ?_, ?_, helement, ?_⟩
  · rw [if_neg (Ne.symm hne)]
    exact hotherInfo
  · rw [if_neg (fun hboth => hne hboth.2.symm)]
    exact hotherCallee
  · rw [if_neg]
    · exact hotherRoute
    · rintro ⟨hdevice, hserial⟩
      rw [← hdevice, ← hserial, hroute] at hotherRoute
      exact hne (congrArg ObserverInfo.srcConnect
        (Option.some.inj hotherRoute)).symm

theorem Routed.ofCallMap_removed {serial : ℕ}
    (hremoved : Removed routes.network after call serial) {connect : RemoteObject}
    (hmem : connect ∈ after.caller.callMap) :
    ∃ other ∈ routes.calls, other.connect ≠ call.connect ∧
      other.connect = connect := by
  rw [Std.TreeMap.mem_iff_isSome_getElem?, hremoved.callMap] at hmem
  split_ifs at hmem with hsame
  · cases hmem
  · rw [← Std.TreeMap.mem_iff_isSome_getElem?] at hmem
    obtain ⟨other, hother, rfl⟩ := hrouted.ofCallMap connect hmem
    exact ⟨other, hother, Ne.symm hsame, rfl⟩

theorem Routed.ofCalleeMap_removed (hcall : call ∈ routes.calls) {serial : ℕ}
    (hremoved : Removed routes.network after call serial) {connect : RemoteObject}
    {found : CalleeInfo}
    (hfound : (after.callees deviceId).calleeMap[connect]? = some found) :
    (∃ other ∈ routes.calls, other.connect ≠ call.connect ∧
        other.connect = connect ∧ other.element.deviceId = deviceId) ∧
      found.callbackWrapper < (after.callees deviceId).stubs := by
  rw [hremoved.calleeMap] at hfound
  rw [hremoved.stubs]
  split_ifs at hfound with hsame
  obtain ⟨⟨other, hother, rfl, rfl⟩, hold⟩ :=
    hrouted.ofCalleeMap deviceId connect found hfound
  refine ⟨⟨other, hother, ?_, rfl, rfl⟩, hold⟩
  intro hconnect
  rw [hrouted.unique other hother call hcall hconnect] at hsame
  exact hsame ⟨rfl, rfl⟩

theorem Routed.ofObserverMap_removed
    (hcallee : (routes.network.callees call.element.deviceId).calleeMap[
      call.connect]? = some calleeInfo)
    (hremoved : Removed routes.network after call calleeInfo.callbackWrapper)
    {serial : ℕ} {observer : ObserverInfo}
    (hobserver : (after.callees deviceId).observerMap[serial]? =
      some observer) :
    ∃ found, (after.callees deviceId).calleeMap[observer.srcConnect]? =
        some found ∧ found.callbackWrapper = serial := by
  rw [hremoved.observerMap] at hobserver
  simp only [hremoved.calleeMap]
  split_ifs at hobserver with hsame
  obtain ⟨found, hfound, hserial⟩ :=
    hrouted.ofObserverMap deviceId serial observer hobserver
  refine ⟨found, ?_, hserial⟩
  rw [if_neg]
  · exact hfound
  · rintro ⟨hdevice, hconnect⟩
    rw [← hdevice, ← hconnect, hcallee] at hfound
    cases hfound
    exact hsame ⟨hdevice, hserial⟩

theorem Routed.removeCall (hcall : call ∈ routes.calls)
    (hcallee : (routes.network.callees call.element.deviceId).calleeMap[
      call.connect]? = some calleeInfo)
    (hremoved : Removed routes.network after call calleeInfo.callbackWrapper) :
    Routed { network := after
             calls := routes.calls.filter fun other =>
               ¬ (other.connect = call.connect ∧
                 other.element = call.element) } := by
  have hkept := hrouted.mem_released hcall
  constructor
  case hasRoute =>
    intro other hmem
    obtain ⟨hother, hne⟩ := (hkept other).mp hmem
    exact hrouted.hasRoute_removed hcall hcallee hremoved hother hne
  case checked =>
    intro other hmem
    rw [hremoved.localDeviceId]
    exact hrouted.checked other ((hkept other).mp hmem).1
  case unique =>
    intro first hfirst second hsecond
    exact hrouted.unique first ((hkept first).mp hfirst).1 second
      ((hkept second).mp hsecond).1
  case tokensDiffer =>
    intro first hfirst second hsecond
    exact hrouted.tokensDiffer first ((hkept first).mp hfirst).1 second
      ((hkept second).mp hsecond).1
  case ofCallMap =>
    intro connect hmem
    obtain ⟨other, hother, hne, hconnect⟩ :=
      hrouted.ofCallMap_removed hremoved hmem
    exact ⟨other, (hkept other).mpr ⟨hother, hne⟩, hconnect⟩
  case ofCalleeMap =>
    intro deviceId connect found hfound
    obtain ⟨⟨other, hother, hne, hboth⟩, hold⟩ :=
      hrouted.ofCalleeMap_removed hcall hremoved hfound
    exact ⟨⟨other, (hkept other).mpr ⟨hother, hne⟩, hboth⟩, hold⟩
  case ofObserverMap =>
    exact fun _ _ _ => hrouted.ofObserverMap_removed hcallee hremoved
  case counted =>
    rw [hremoved.token]
    exact hrouted.counted
  case issued =>
    intro connect otherInfo hotherInfo
    rw [hremoved.callMap] at hotherInfo
    rw [hremoved.token]
    split_ifs at hotherInfo
    exact hrouted.issued connect otherInfo hotherInfo
  case issuedOnce =>
    intro connect other firstInfo secondInfo hfirst hsecond
    rw [hremoved.callMap] at hfirst hsecond
    split_ifs at hfirst hsecond
    exact hrouted.issuedOnce connect other firstInfo secondInfo hfirst hsecond

end Released

end Removing

theorem Routed.release (hrouted : Routed routes) {connect : RemoteObject}
    {element : ElementName} {releaseAbility : Int32}
    (hguard : routes.Guard (.release connect element releaseAbility)) :
    Routed (routes.step (.release connect element releaseAbility)).2 := by
  rcases routes.network.releaseRemoteAbility_cases connect element
    releaseAbility with ⟨result, hresult, -, hrelease⟩ |
      ⟨calleeInfo, hconnect, hcallee, hrelease⟩
  · simp only [step, hrelease, if_neg hresult]
    exact hrouted
  · obtain ⟨helement, hok⟩ := hguard calleeInfo hcallee
    obtain ⟨⟨call, hcall, rfl, hdevice⟩, -⟩ :=
      hrouted.ofCalleeMap _ _ calleeInfo hcallee
    obtain ⟨-, found, -, hfound, hfoundElement, -⟩ :=
      hrouted.hasRoute call hcall
    rw [hdevice, hcallee] at hfound
    cases hfound
    have hsame : element = call.element := helement.symm.trans hfoundElement
    subst hsame
    simp only [step, hrelease, if_pos hok]
    apply hrouted.removeCall hcall hcallee
    obtain ⟨hlocal, htoken, hcallMap, -⟩ := @CallerService.removeCallerComponent_spec
      routes.network.caller call.connect hconnect
    constructor
    · exact hlocal
    · exact htoken
    · exact hcallMap
    · intro deviceId
      dsimp only
      by_cases hother : deviceId = call.element.deviceId
      · rw [hother, Function.update_self,
          CalleeService.unregisterAppStateObserver_stubs]
      · rw [Function.update_of_ne hother]
    · intro deviceId other
      dsimp only
      by_cases hother : deviceId = call.element.deviceId
      · rw [hother, Function.update_self,
          CalleeService.unregisterAppStateObserver_calleeMap, getElem?_erase_eq]
        simp
      · rw [Function.update_of_ne hother,
          if_neg (fun hboth => hother hboth.1.symm)]
    · intro deviceId serial
      dsimp only
      by_cases hother : deviceId = call.element.deviceId
      · rw [hother, Function.update_self,
          CalleeService.getElem?_unregisterAppStateObserver]
        simp
      · rw [Function.update_of_ne hother,
          if_neg (fun hboth => hother hboth.1.symm)]

/-! ## Tokens of abilities -/

@[simp] theorem deliver_connect (connect : RemoteObject) (element : ElementName)
    (token : RemoteObject) (call : RoutedCall) :
    (deliver connect element token call).connect = call.connect := by
  unfold deliver
  split_ifs <;> rfl

@[simp] theorem deliver_element (connect : RemoteObject) (element : ElementName)
    (token : RemoteObject) (call : RoutedCall) :
    (deliver connect element token call).element = call.element := by
  unfold deliver
  split_ifs <;> rfl

theorem deliver_of_ne {connect : RemoteObject} {call : RoutedCall}
    (hne : call.connect ≠ connect) (element : ElementName)
    (token : RemoteObject) : deliver connect element token call = call :=
  if_neg (fun hboth => hne hboth.1)

theorem deliver_self (call : RoutedCall) (token : RemoteObject) :
    deliver call.connect call.element token call = { call with token := token } :=
  if_pos ⟨rfl, rfl⟩

structure Delivered (before after : CallNetwork) (call : RoutedCall)
    (callInfo : CallInfo) (serial : ℕ) (token : RemoteObject) : Prop where
  caller : after.caller = before.caller
  stubs : ∀ deviceId, (after.callees deviceId).stubs =
    (before.callees deviceId).stubs
  calleeMap : ∀ deviceId, (after.callees deviceId).calleeMap =
    (before.callees deviceId).calleeMap
  observerMap : ∀ (deviceId : Text) (other : ℕ),
    (after.callees deviceId).observerMap[other]? =
      if call.element.deviceId = deviceId ∧ serial = other then
        some (RoutedCall.observer { call with token := token }
          before.caller.localDeviceId callInfo.connectToken)
      else (before.callees deviceId).observerMap[other]?

section Delivering

variable {after : CallNetwork} {call : RoutedCall} {callInfo : CallInfo}
  {serial : ℕ} {token : RemoteObject}

theorem delivered_setCallee (network : CallNetwork) (call : RoutedCall)
    (callInfo : CallInfo) (serial : ℕ) (token : RemoteObject) :
    Delivered network
      (network.setCallee call.element.deviceId
        { network.callees call.element.deviceId with
          observerMap :=
            (network.callees call.element.deviceId).observerMap.insert serial
              { call.observer network.caller.localDeviceId
                callInfo.connectToken with token := token } })
      call callInfo serial token := by
  unfold CallNetwork.setCallee
  constructor
  case caller => rfl
  case stubs =>
    intro deviceId
    dsimp only
    by_cases hdevice : deviceId = call.element.deviceId
    · rw [hdevice, Function.update_self]
    · rw [Function.update_of_ne hdevice]
  case calleeMap =>
    intro deviceId
    dsimp only
    by_cases hdevice : deviceId = call.element.deviceId
    · rw [hdevice, Function.update_self]
    · rw [Function.update_of_ne hdevice]
  case observerMap =>
    intro deviceId other
    dsimp only
    by_cases hdevice : deviceId = call.element.deviceId
    · rw [hdevice, Function.update_self, getElem?_insert_eq]
      simp [RoutedCall.observer]
    · rw [Function.update_of_ne hdevice,
        if_neg (fun hboth => hdevice hboth.1.symm)]

theorem Routed.deliver_cases (hrouted : Routed routes)
    (hcall : call ∈ routes.calls) (token : RemoteObject)
    {other : RoutedCall} (hother : other ∈ routes.calls) :
    other = call ∨ other.connect ≠ call.connect ∧
      deliver call.connect call.element token other = other := by
  by_cases hsame : other.connect = call.connect
  · left
    exact hrouted.unique other hother call hcall hsame
  · right
    exact ⟨hsame, deliver_of_ne hsame call.element token⟩

theorem Routed.hasRoute_delivered (hrouted : Routed routes)
    (hcall : call ∈ routes.calls)
    (hcallInfo : routes.network.caller.callMap[call.connect]? = some callInfo)
    (hobserver : (routes.network.callees call.element.deviceId).observerMap[
      serial]? = some (call.observer routes.network.caller.localDeviceId
        callInfo.connectToken))
    (hdelivered : Delivered routes.network after call callInfo serial token)
    {other : RoutedCall} (hother : other ∈ routes.calls) :
    after.HasRoute (deliver call.connect call.element token other) := by
  obtain ⟨otherInfo, otherCallee, hotherInfo, hotherCallee, helement,
    hotherRoute⟩ := hrouted.hasRoute other hother
  unfold CallNetwork.HasRoute
  simp only [deliver_connect, deliver_element, hdelivered.caller,
    hdelivered.calleeMap, hdelivered.observerMap]
  refine ⟨otherInfo, otherCallee, hotherInfo, hotherCallee, helement, ?_⟩
  rcases hrouted.deliver_cases hcall token hother with rfl | ⟨hne, hsame⟩
  · obtain ⟨found, hfound, hserial⟩ :=
      hrouted.ofObserverMap _ serial _ hobserver
    have hcalleeSame : found = otherCallee := by
      rw [show (other.observer routes.network.caller.localDeviceId
        callInfo.connectToken).srcConnect = other.connect from rfl,
        hotherCallee] at hfound
      exact (Option.some.inj hfound).symm
    rw [hotherInfo] at hcallInfo
    cases hcallInfo
    rw [if_pos ⟨rfl, by rw [← hcalleeSame, hserial]⟩, deliver_self]
  · rw [hsame, if_neg]
    · exact hotherRoute
    · rintro ⟨hdevice, hserial⟩
      rw [← hdevice, ← hserial, hobserver] at hotherRoute
      exact hne (congrArg ObserverInfo.srcConnect
        (Option.some.inj hotherRoute)).symm

theorem Routed.tokensDiffer_delivered (hrouted : Routed routes)
    (hcall : call ∈ routes.calls)
    (hdifferent : ∀ other ∈ routes.calls, other.connect ≠ call.connect →
      other.element.deviceId = call.element.deviceId →
        ¬ (other.element.bundleName = call.element.bundleName ∧
          other.element.abilityName = call.element.abilityName ∧
          other.token = token))
    {first second : RoutedCall} (hfirst : first ∈ routes.calls)
    (hsecond : second ∈ routes.calls)
    (hknown : (deliver call.connect call.element token first).token ≠ 0)
    (hdevice : first.element.deviceId = second.element.deviceId)
    (hbundle : first.element.bundleName = second.element.bundleName)
    (hability : first.element.abilityName = second.element.abilityName)
    (hsame : (deliver call.connect call.element token first).token =
      (deliver call.connect call.element token second).token) :
    first.connect = second.connect := by
  rcases hrouted.deliver_cases hcall token hfirst with
    rfl | ⟨hfirstNe, hfirstSame⟩
  · rcases hrouted.deliver_cases hcall token hsecond with
      rfl | ⟨hsecondNe, hsecondSame⟩
    · rfl
    · rw [deliver_self, hsecondSame] at hsame
      exact absurd ⟨hbundle.symm, hability.symm, hsame.symm⟩
        (hdifferent second hsecond hsecondNe hdevice.symm)
  · rw [hfirstSame] at hknown hsame
    rcases hrouted.deliver_cases hcall token hsecond with
      rfl | ⟨hsecondNe, hsecondSame⟩
    · rw [deliver_self] at hsame
      exact absurd ⟨hbundle, hability, hsame⟩
        (hdifferent first hfirst hfirstNe hdevice)
    · rw [hsecondSame] at hsame
      exact hrouted.tokensDiffer first hfirst second hsecond hknown hdevice
        hbundle hability hsame

theorem Routed.ofObserverMap_delivered (hrouted : Routed routes)
    (hobserver : (routes.network.callees call.element.deviceId).observerMap[
      serial]? = some (call.observer routes.network.caller.localDeviceId
        callInfo.connectToken))
    (hdelivered : Delivered routes.network after call callInfo serial token)
    {other : ℕ} {observer : ObserverInfo}
    (hfound : (after.callees deviceId).observerMap[other]? = some observer) :
    ∃ calleeInfo, (after.callees deviceId).calleeMap[observer.srcConnect]? =
        some calleeInfo ∧ calleeInfo.callbackWrapper = other := by
  rw [hdelivered.observerMap] at hfound
  simp only [hdelivered.calleeMap]
  split_ifs at hfound with hsame
  · cases hfound
    obtain ⟨hdevice, hserial⟩ := hsame
    rw [← hdevice, ← hserial]
    exact hrouted.ofObserverMap _ serial (call.observer _ _) hobserver
  · exact hrouted.ofObserverMap deviceId other observer hfound

theorem Routed.deliverToken (hrouted : Routed routes)
    (hcall : call ∈ routes.calls)
    (hcallInfo : routes.network.caller.callMap[call.connect]? = some callInfo)
    (hobserver : (routes.network.callees call.element.deviceId).observerMap[
      serial]? = some (call.observer routes.network.caller.localDeviceId
        callInfo.connectToken))
    (hdifferent : ∀ other ∈ routes.calls, other.connect ≠ call.connect →
      other.element.deviceId = call.element.deviceId →
        ¬ (other.element.bundleName = call.element.bundleName ∧
          other.element.abilityName = call.element.abilityName ∧
          other.token = token))
    (hdelivered : Delivered routes.network after call callInfo serial token) :
    Routed { network := after
             calls := routes.calls.map
               (deliver call.connect call.element token) } := by
  constructor
  case hasRoute =>
    intro changed hchanged
    obtain ⟨other, hother, rfl⟩ := List.mem_map.mp hchanged
    exact hrouted.hasRoute_delivered hcall hcallInfo hobserver hdelivered hother
  case checked =>
    intro changed hchanged
    obtain ⟨other, hother, rfl⟩ := List.mem_map.mp hchanged
    rw [deliver_connect, deliver_element, hdelivered.caller]
    exact hrouted.checked other hother
  case unique =>
    intro firstChanged hfirstChanged secondChanged hsecondChanged hsame
    obtain ⟨first, hfirst, rfl⟩ := List.mem_map.mp hfirstChanged
    obtain ⟨second, hsecond, rfl⟩ := List.mem_map.mp hsecondChanged
    rw [deliver_connect, deliver_connect] at hsame
    rw [hrouted.unique first hfirst second hsecond hsame]
  case tokensDiffer =>
    intro firstChanged hfirstChanged secondChanged hsecondChanged hknown
      hdevice hbundle hability hsame
    obtain ⟨first, hfirst, rfl⟩ := List.mem_map.mp hfirstChanged
    obtain ⟨second, hsecond, rfl⟩ := List.mem_map.mp hsecondChanged
    simp only [deliver_element] at hdevice hbundle hability
    rw [deliver_connect, deliver_connect]
    exact hrouted.tokensDiffer_delivered hcall hdifferent hfirst hsecond hknown
      hdevice hbundle hability hsame
  case ofCallMap =>
    intro connect hmem
    rw [hdelivered.caller] at hmem
    obtain ⟨other, hother, hconnect⟩ := hrouted.ofCallMap connect hmem
    exact ⟨_, List.mem_map_of_mem hother,
      (deliver_connect _ _ _ _).trans hconnect⟩
  case ofCalleeMap =>
    intro deviceId connect calleeInfo hcallee
    rw [hdelivered.calleeMap] at hcallee
    rw [hdelivered.stubs]
    obtain ⟨⟨other, hother, hconnect, hdevice⟩, hold⟩ :=
      hrouted.ofCalleeMap deviceId connect calleeInfo hcallee
    refine ⟨⟨_, List.mem_map_of_mem hother, ?_⟩, hold⟩
    rw [deliver_connect, deliver_element]
    exact ⟨hconnect, hdevice⟩
  case ofObserverMap =>
    exact fun _ _ _ => hrouted.ofObserverMap_delivered hobserver hdelivered
  case counted =>
    rw [hdelivered.caller]
    exact hrouted.counted
  case issued =>
    rw [hdelivered.caller]
    exact hrouted.issued
  case issuedOnce =>
    rw [hdelivered.caller]
    exact hrouted.issuedOnce

end Delivering

theorem Routed.notObserved (hrouted : Routed routes) {connect : RemoteObject}
    (hnone : firstMatch (routes.network.callees deviceId).observerMap
      (fun observer => observer.srcConnect = connect) = none) {call : RoutedCall}
    (hcall : call ∈ routes.calls) (hdevice : call.element.deviceId = deviceId) : call.connect ≠ connect := by
  obtain ⟨callInfo, calleeInfo, -, -, -, hroute⟩ := hrouted.hasRoute call hcall
  rw [hdevice] at hroute
  have hother := firstMatch_eq_none.mp hnone _ _ hroute
  exact of_decide_eq_false hother

theorem Routed.callResult (hrouted : Routed routes) {connect : RemoteObject}
    {element : ElementName} {token : RemoteObject}
    (hguard : routes.Guard (.callResult connect element token)) :
    Routed (routes.step (.callResult connect element token)).2 := by
  obtain ⟨hcurrent, hdifferent⟩ := hguard
  simp only [step]
  by_cases hnull : token = 0
  · rw [if_pos hnull, CalleeService.processCallResult, if_pos hnull,
      CallNetwork.setCallee_self]
    exact hrouted
  rw [if_neg hnull, CalleeService.processCallResult, if_neg hnull]
  cases hfirst : firstMatch (routes.network.callees element.deviceId).observerMap
      fun observer => observer.srcConnect = connect with
  | none =>
      -- no call of the connect is under way on the device
      have hsame : routes.calls.map (deliver connect element token) =
          routes.calls := by
        rw [List.map_congr_left (g := id), List.map_id]
        intro call hcall
        apply if_neg
        rintro ⟨hconnect, helement⟩
        exact hrouted.notObserved hfirst hcall (by rw [helement]) hconnect
      dsimp only
      rw [hsame, CallNetwork.setCallee_self]
      exact hrouted
  | some entry =>
      obtain ⟨serial, observer⟩ := entry
      obtain ⟨hobserver, hconnect, -⟩ := firstMatch_spec hfirst
      obtain ⟨call, hcall, hdevice, callInfo, hcallInfo, rfl⟩ :=
        hrouted.observer hobserver
      have hsameConnect : call.connect = connect := of_decide_eq_true hconnect
      obtain ⟨-, calleeInfo, -, hcallee, helement, -⟩ :=
        hrouted.hasRoute call hcall
      rw [hdevice, hsameConnect] at hcallee
      have hsameElement : element = call.element :=
        (hcurrent calleeInfo hcallee).symm.trans helement
      subst hsameConnect hsameElement
      apply hrouted.deliverToken hcall hcallInfo hobserver
      · intro other hother hne hotherDevice hboth
        obtain ⟨otherInfo, otherCallee, -, -, -, hroute⟩ :=
          hrouted.hasRoute other hother
        rw [hotherDevice] at hroute
        exact hdifferent _
          (Std.TreeMap.mem_toList_iff_getElem?_eq_some.mpr hroute) hne hboth
      · exact delivered_setCallee routes.network call callInfo serial token

theorem Routed.afterStep (hrouted : Routed routes) {event : RouteEvent}
    (hguard : routes.Guard event)
    (htoken : isStart event = true →
      routes.network.caller.token < CallerService.maxTokenNum) :
    Routed (routes.step event).2 := by
  cases event with
  | start request answers => exact hrouted.start hguard (htoken rfl)
  | release connect element releaseAbility => exact hrouted.release hguard
  | callResult connect element token => exact hrouted.callResult hguard

/-! ## The tokens of a run -/

theorem token_step (routes : CallRoutes) (event : RouteEvent)
    (htoken : isStart event = true →
      routes.network.caller.token < CallerService.maxTokenNum) :
    (routes.step event).2.network.caller.token ≤
      routes.network.caller.token + if isStart event then 1 else 0 := by
  cases event with
  | start request answers =>
      have hnext := nextToken_of_lt (htoken rfl)
      rcases routes.network.startRemoteAbilityByCall_cases request answers with
        ⟨result, hresult, -, hstart⟩ | ⟨-, hcalled⟩
      · simp [step, hstart, isStart]
      rcases hcalled with ⟨result, callMap, token, stubs, -, hissued, -, -,
        hstart⟩ | ⟨callerInfo, -, -, -, hstart⟩
      · rw [hnext] at hissued
        simp only [step, hstart, isStart, if_true]
        omega
      · simp [step, hstart, isStart, CallerService.saveConnectToken, hnext]
  | release connect element releaseAbility =>
      rcases routes.network.releaseRemoteAbility_cases connect element
        releaseAbility with ⟨result, -, -, hrelease⟩ |
          ⟨calleeInfo, hconnect, -, hrelease⟩
      · simp [step, hrelease, isStart]
      · simp only [step, hrelease, isStart, Bool.false_eq_true, if_false,
          add_zero]
        split_ifs
        · exact (CallerService.removeCallerComponent_spec hconnect).2.1.le
        · exact le_rfl
  | callResult connect element token =>
      simp [step, CallNetwork.setCallee, isStart]

theorem tokensLeft_of_countP (events : List RouteEvent) (routes : CallRoutes)
    (hcount : routes.network.caller.token + (events.countP isStart : ℤ) ≤
      CallerService.maxTokenNum) :
    EventRun.Meets step (fun routes event => isStart event = true →
      routes.network.caller.token < CallerService.maxTokenNum) routes events := by
  induction events generalizing routes with
  | nil => trivial
  | cons event events ih =>
      rw [List.countP_cons] at hcount
      have htoken : isStart event = true →
          routes.network.caller.token < CallerService.maxTokenNum := by
        intro hstart
        rw [if_pos hstart] at hcount
        push_cast at hcount
        omega
      refine ⟨htoken, ih _ ?_⟩
      have hstep := token_step routes event htoken
      split_ifs at hstep hcount with hstart <;>
        push_cast at hcount <;> omega

end Routes

def initial (localDeviceId : Text) : CallRoutes where
  network := { caller := { localDeviceId := localDeviceId } }

theorem routed_initial (localDeviceId : Text) :
    Routed (initial localDeviceId) := by
  constructor <;> simp [initial]

/-- With fewer calls than tokens, in a run whose steps meet the guard, the
state of every ability whose call succeeded and was not released reaches the
connect of that call alone. -/
theorem reachesCallers_run (localDeviceId : Text) (events : List RouteEvent)
    (hcount : (events.countP isStart : ℤ) < CallerService.maxTokenNum)
    (hmeets : EventRun.Meets step Guard (initial localDeviceId) events) :
    (EventRun.run step (initial localDeviceId) events).2.ReachesCallers := by
  have htokens := tokensLeft_of_countP events (initial localDeviceId) (by
    simp only [initial]
    omega)
  apply Routed.reachesCallers
  apply (hmeets.and htokens).invariant _ (routed_initial localDeviceId)
  intro routes event hrouted hboth
  exact hrouted.afterStep hboth.1 hboth.2

def abilityOnB (abilityName : String) : ElementName where
  deviceId := "b".toList
  bundleName := "bundle".toList
  abilityName := abilityName.toList

def callAbility (connect : RemoteObject) (abilityName : String) : RouteEvent :=
  .start {
    element := abilityOnB abilityName
    connect := connect
    callerUid := 100
    callerPid := 1
    accessToken := 0 } {}

def sampleEvents : List RouteEvent :=
  [callAbility 7 "first", .callResult 7 (abilityOnB "first") 70,
    callAbility 8 "second", .callResult 8 (abilityOnB "second") 80,
    .release 7 (abilityOnB "first") errOk,
    .start {
      element := abilityOnB "third"
      connect := 9
      callerUid := 100
      callerPid := 1
      accessToken := 0 } { checkTargetPermission := errInvalidValue }]

theorem reachesCallers_sampleEvents :
    ((EventRun.run step (initial "a".toList) sampleEvents).2.calls =
        [{ connect := 8, element := abilityOnB "second", token := 80 }] ∧
      EventRun.Meets step Guard (initial "a".toList) sampleEvents) ∧
      (EventRun.run step (initial "a".toList)
        sampleEvents).2.ReachesCallers := by
  have hmeets : EventRun.Meets step Guard (initial "a".toList)
      sampleEvents := by
    decide +kernel
  exact ⟨⟨by decide +kernel, hmeets⟩,
    reachesCallers_run "a".toList sampleEvents (by decide) hmeets⟩

def twoAbilitiesEvents : List RouteEvent :=
  [callAbility 7 "first", .callResult 7 (abilityOnB "first") 70,
    callAbility 7 "second", .callResult 7 (abilityOnB "second") 80]

/-- The observer of the first ability was replaced by that of the second. -/
theorem not_reachesCallers_twoAbilitiesEvents :
    twoAbilitiesEvents.countP isStart = 2 ∧
      ¬ (EventRun.run step (initial "a".toList)
        twoAbilitiesEvents).2.ReachesCallers := by
  refine ⟨by decide, ?_⟩
  intro hreaches
  have hfirst := hreaches
    { connect := 7, element := abilityOnB "first", token := 70 }
    (by decide +kernel) (by decide)
  revert hfirst
  decide +kernel

end CallRoutes

end Dmsfwk
