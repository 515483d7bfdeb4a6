import Dmsfwk.CallerSessions

/-!
# Releases of called abilities

A caller keeps the elements of a connect for each device, but gives the whole
connect up when one of them is released; a called device keeps one element for
a connect, whichever was accepted first.  The sessions and the releases follow
the calls as long as a connect is given up for the only call it has.
-/

namespace Dmsfwk

open SchedErr OrderedMap

/-! ## Calls and their ends -/

structure AcceptedCall where
  connect : RemoteObject
  element : ElementName
  callbackWrapper : ℕ
  deriving DecidableEq

def AcceptedCall.release (call : AcceptedCall) : Text × ReleaseCall :=
  (call.element.deviceId, {
    callback := .stub call.connect call.callbackWrapper
    element := call.element })

structure CallLedger where
  network : CallNetwork
  /-- The calls that succeeded and were neither released nor ended. -/
  live : List (RemoteObject × ElementName) := []
  accepted : List AcceptedCall := []
  ended : List AcceptedCall := []

inductive CallEvent where
  | start (request : ConnectRequest) (answers : CallAnswers)
  | release (connect : RemoteObject) (element : ElementName)
      (releaseAbility : Int32)
  /-- The device of the caller learns that the caller died. -/
  | callerDied (connect : RemoteObject)
  /-- A device with called abilities learns that the caller died. -/
  | callerDiedOn (deviceId : Text) (connect : RemoteObject)
  | calleeDied (connect : RemoteObject) (element : ElementName)
  /-- The device of the caller learns that another device is offline. -/
  | offline (deviceId : Text)

namespace CallEvent

def Releases (call : AcceptedCall) : CallEvent → Prop
  | .release connect element _ =>
      call.connect = connect ∧ call.element = element
  | .callerDiedOn deviceId connect =>
      call.connect = connect ∧ call.element.deviceId = deviceId
  | _ => False

instance (call : AcceptedCall) (event : CallEvent) :
    Decidable (event.Releases call) := by
  cases event <;> unfold Releases <;> infer_instance

def Ends (call : AcceptedCall) : CallEvent → Prop
  | .calleeDied connect element =>
      call.connect = connect ∧ call.element = element
  | event => event.Releases call

instance (call : AcceptedCall) (event : CallEvent) :
    Decidable (event.Ends call) := by
  cases event <;> unfold Ends <;> infer_instance

end CallEvent

namespace CallLedger

/-- The calls on their devices after the event. -/
def finish (event : CallEvent) (ledger : CallLedger) : CallLedger :=
  { ledger with
    accepted := ledger.accepted.filter fun call => ¬ event.Ends call
    ended := ledger.accepted.filter (fun call => event.Ends call) ++
      ledger.ended }

/-- The answer holds the calls of `ReleaseAbility` with their devices.  A death
is noticed where the connect carries the recipient. -/
def step (ledger : CallLedger) (event : CallEvent) :
    List (Text × ReleaseCall) × CallLedger :=
  let network := ledger.network
  let finished := ledger.finish event
  match event with
  | .start request answers =>
      let (result, network) := network.startRemoteAbilityByCall request answers
      let callee := ledger.network.callees request.element.deviceId
      let call : AcceptedCall := {
        connect := request.connect
        element := request.element
        callbackWrapper := callee.wrapperFor request.connect }
      if result = errOk then
        ([], { ledger with
          network := network
          live := (request.connect, request.element) :: ledger.live
          accepted := call :: ledger.accepted })
      else ([], { ledger with network := network })
  | .release connect element releaseAbility =>
      let ((result, calls), network) :=
        network.releaseRemoteAbility connect element releaseAbility
      let live := if result = errOk then
          ledger.live.filter (· ≠ (connect, element))
        else ledger.live
      (calls.map fun call => (element.deviceId, call),
        { finished with network := network, live := live })
  | .callerDied connect =>
      let caller := if connect ∈ network.caller.deathRecipients then
          network.caller.handleLocalCallerDied connect
        else network.caller
      ([], { ledger with
        network := { network with caller := caller }
        live := ledger.live.filter fun call => call.1 ≠ connect })
  | .callerDiedOn deviceId connect =>
      let callee := network.callees deviceId
      let (calls, callee) := if connect ∈ callee.deathRecipients then
          callee.processCallerDied connect
        else ([], callee)
      (calls.map fun call => (deviceId, call),
        { finished with network := network.setCallee deviceId callee })
  | .calleeDied connect element =>
      let callee :=
        (network.callees element.deviceId).processCalleeDied connect
      ([], { finished with
        network := network.setCallee element.deviceId callee
        live := ledger.live.filter (· ≠ (connect, element)) })
  | .offline deviceId =>
      let caller := network.caller.processDeviceOffline deviceId
      ([], { ledger with
        network := { network with caller := caller }
        live := ledger.live.filter fun call => call.2.deviceId ≠ deviceId })

end CallLedger

/-! ## What is to hold -/

namespace CallLedger

def Recorded (ledger : CallLedger) : Prop :=
  ∀ connect deviceId element,
    ledger.network.caller.Holds connect deviceId element ↔
      (connect, element) ∈ ledger.live ∧ element.deviceId = deviceId

/-- A call leads to its `ReleaseAbility` when it is released or its caller dies,
not before and not once more. -/
def ReleasesOnce (ledger : CallLedger) (event : CallEvent) : Prop :=
  (∀ call ∈ ledger.accepted, (ledger.step event).1.count call.release =
    if event.Releases call then 1 else 0) ∧
  ∀ call ∈ ledger.ended, (ledger.step event).1.count call.release = 0

instance (ledger : CallLedger) (event : CallEvent) :
    Decidable (ledger.ReleasesOnce event) := by
  unfold ReleasesOnce
  infer_instance

/-- A release which finds its connect is for the only call that the connect has
on the device, and when it succeeds for the only one it has at all; a caller
dies on a device where its connect has called the element of its entry only; an
ability dies when the caller has given the call up, and its connect has no other
call on the device. -/
def Guard (ledger : CallLedger) : CallEvent → Prop
  | .release connect element releaseAbility =>
      ((ledger.network.callees
          element.deviceId).calleeMap[connect]?).isSome = true →
        (∀ call ∈ ledger.accepted, call.connect = connect →
          call.element.deviceId = element.deviceId → call.element = element) ∧
        (releaseAbility = errOk →
          ∀ call ∈ ledger.live, call.1 = connect → call.2 = element)
  | .callerDiedOn deviceId connect =>
      ∀ calleeInfo ∈ (ledger.network.callees deviceId).calleeMap[connect]?,
        ∀ call ∈ ledger.accepted, call.connect = connect →
          call.element.deviceId = deviceId → call.element = calleeInfo.element
  | .calleeDied connect element =>
      (connect, element) ∉ ledger.live ∧
        ∀ call ∈ ledger.accepted, call.connect = connect →
          call.element.deviceId = element.deviceId → call.element = element
  | _ => True

instance (ledger : CallLedger) (event : CallEvent) :
    Decidable (ledger.Guard event) := by
  cases event <;> unfold Guard <;> infer_instance

end CallLedger

/-! ## Entries of the called devices -/

variable {event : CallEvent} {deviceId : Text}

section Entries

namespace CalleeService

variable {service : CalleeService}

theorem calleeMap_accept (connect : RemoteObject) (callerInfo : CallerInfo)
    (element : ElementName) (other : RemoteObject) :
    (service.accept connect callerInfo element).calleeMap[other]? =
      if connect = other ∧ service.calleeMap[connect]? = none then
        some { callerInfo := callerInfo
               callbackWrapper := service.stubs
               element := element }
      else service.calleeMap[other]? := by
  unfold accept wrapperFor
  cases hfound : service.calleeMap[connect]? with
  | none =>
      dsimp only
      rw [getElem?_insertIfNew_eq hfound]
      simp
  | some calleeInfo =>
      have hmem : connect ∈ service.calleeMap := by
        rw [Std.TreeMap.mem_iff_isSome_getElem?, hfound]
        rfl
      dsimp only
      rw [Std.TreeMap.getElem?_insertIfNew]
      simp [hmem]

theorem stubs_accept (connect : RemoteObject) (callerInfo : CallerInfo)
    (element : ElementName) :
    (service.accept connect callerInfo element).stubs =
      if service.calleeMap[connect]? = none then service.stubs + 1
      else service.stubs := by
  unfold accept
  cases service.calleeMap[connect]? <;> rfl

end CalleeService

/-- Every call has the entry of its connect, every entry is that of a call, and
a wrapper that was given up is not used again. -/
structure CalleeTracked (localDeviceId : Text) (callees : Text → CalleeService)
    (accepted ended : List AcceptedCall) : Prop where
  entry : ∀ call ∈ accepted, ∃ calleeInfo,
    (callees call.element.deviceId).calleeMap[call.connect]? =
        some calleeInfo ∧
      calleeInfo.callbackWrapper = call.callbackWrapper
  ofEntry : ∀ (deviceId : Text) (connect : RemoteObject)
    (calleeInfo : CalleeInfo),
    (callees deviceId).calleeMap[connect]? = some calleeInfo →
      connect ≠ 0 ∧ checkDeviceId localDeviceId deviceId = true ∧
      connect ∈ (callees deviceId).deathRecipients ∧
      calleeInfo.callbackWrapper < (callees deviceId).stubs ∧
      calleeInfo.element.deviceId = deviceId
  gone : ∀ call ∈ ended,
    call.callbackWrapper < (callees call.element.deviceId).stubs ∧
    ∀ calleeInfo, (callees call.element.deviceId).calleeMap[call.connect]? =
        some calleeInfo →
      calleeInfo.callbackWrapper ≠ call.callbackWrapper

namespace CalleeTracked

variable {localDeviceId : Text} {callees after : Text → CalleeService}
  {accepted ended : List AcceptedCall}
  {callee : CalleeService}

theorem update (htracked : CalleeTracked localDeviceId callees accepted ended)
    {acceptedAfter endedAfter : List AcceptedCall}
    (hentry : ∀ call ∈ acceptedAfter,
      if call.element.deviceId = deviceId then
        ∃ calleeInfo, callee.calleeMap[call.connect]? = some calleeInfo ∧
          calleeInfo.callbackWrapper = call.callbackWrapper
      else call ∈ accepted)
    (hofEntry : ∀ (connect : RemoteObject) (calleeInfo : CalleeInfo),
      callee.calleeMap[connect]? = some calleeInfo →
        connect ≠ 0 ∧ checkDeviceId localDeviceId deviceId = true ∧
        connect ∈ callee.deathRecipients ∧
        calleeInfo.callbackWrapper < callee.stubs ∧
        calleeInfo.element.deviceId = deviceId)
    (hgone : ∀ call ∈ endedAfter,
      if call.element.deviceId = deviceId then
        call.callbackWrapper < callee.stubs ∧
        ∀ calleeInfo, callee.calleeMap[call.connect]? = some calleeInfo →
          calleeInfo.callbackWrapper ≠ call.callbackWrapper
      else call ∈ ended) :
    CalleeTracked localDeviceId (Function.update callees deviceId callee)
      acceptedAfter endedAfter := by
  constructor
  · intro call hcall
    have hcall := hentry call hcall
    split_ifs at hcall with hdevice
    · rw [hdevice, Function.update_self]
      exact hcall
    · rw [Function.update_of_ne hdevice]
      exact htracked.entry call hcall
  · intro other connect calleeInfo hcallee
    by_cases hother : other = deviceId
    · subst hother
      rw [Function.update_self] at hcallee ⊢
      exact hofEntry connect calleeInfo hcallee
    · rw [Function.update_of_ne hother] at hcallee ⊢
      exact htracked.ofEntry other connect calleeInfo hcallee
  · intro call hcall
    have hcall := hgone call hcall
    split_ifs at hcall with hdevice
    · rw [hdevice, Function.update_self]
      exact hcall
    · rw [Function.update_of_ne hdevice]
      exact htracked.gone call hcall

theorem stubs (htracked : CalleeTracked localDeviceId callees accepted ended)
    {deviceId : Text} {stubs : ℕ} (hstubs : (callees deviceId).stubs ≤ stubs) :
    CalleeTracked localDeviceId (Function.update callees deviceId
      { callees deviceId with stubs := stubs }) accepted ended := by
  apply htracked.update
  · intro call hcall
    split_ifs with hdevice
    · rw [← hdevice]
      exact htracked.entry call hcall
    · exact hcall
  · intro connect calleeInfo hcallee
    obtain ⟨hconnect, hchecked, hcarried, hold, hdevice⟩ :=
      htracked.ofEntry deviceId connect calleeInfo hcallee
    exact ⟨hconnect, hchecked, hcarried, hold.trans_le hstubs, hdevice⟩
  · intro call hcall
    split_ifs with hdevice
    · obtain ⟨hold, hother⟩ := htracked.gone call hcall
      rw [hdevice] at hold hother
      exact ⟨hold.trans_le hstubs, hother⟩
    · exact hcall

def AcceptedEntries (before after : CalleeService) (connect : RemoteObject)
    (callerInfo : CallerInfo) (element : ElementName) : Prop :=
  ∀ other : RemoteObject, after.calleeMap[other]? =
    if connect = other ∧ before.calleeMap[connect]? = none then
      some { callerInfo := callerInfo
             callbackWrapper := before.stubs
             element := element }
    else before.calleeMap[other]?

section AcceptedEntries

variable {before after : CalleeService} {connect : RemoteObject}
  {callerInfo : CallerInfo} {element : ElementName}
  (hentries : AcceptedEntries before after connect callerInfo element)

include hentries

theorem AcceptedEntries.of_new :
    ∃ calleeInfo, after.calleeMap[connect]? = some calleeInfo ∧
      calleeInfo.callbackWrapper = before.wrapperFor connect := by
  rw [hentries]
  unfold CalleeService.wrapperFor
  cases hfound : before.calleeMap[connect]? with
  | none => exact ⟨_, if_pos ⟨rfl, rfl⟩, rfl⟩
  | some calleeInfo => exact ⟨calleeInfo, by simp, rfl⟩

theorem AcceptedEntries.of_old {other : RemoteObject} {calleeInfo : CalleeInfo}
    (hcallee : before.calleeMap[other]? = some calleeInfo) :
    after.calleeMap[other]? = some calleeInfo := by
  rw [hentries, if_neg]
  · exact hcallee
  · rintro ⟨rfl, hnone⟩
    rw [hnone] at hcallee
    cases hcallee

end AcceptedEntries

section CalleeTracked

variable (htracked : CalleeTracked localDeviceId callees accepted ended)
  {connect : RemoteObject}

include htracked

theorem accept (hconnect : connect ≠ 0) {element : ElementName}
    (hchecked : checkDeviceId localDeviceId element.deviceId = true)
    {callerInfo : CallerInfo}
    (hcalleeMap : callee.calleeMap = ((callees element.deviceId).accept connect
      callerInfo element).calleeMap)
    (hstubs : callee.stubs = ((callees element.deviceId).accept connect
      callerInfo element).stubs)
    (hrecipients : callee.deathRecipients = ((callees element.deviceId).accept
      connect callerInfo element).deathRecipients) :
    CalleeTracked localDeviceId
      (Function.update callees element.deviceId callee)
      ({ connect := connect
         element := element
         callbackWrapper := (callees element.deviceId).wrapperFor connect } ::
          accepted) ended := by
  have hmore : (callees element.deviceId).stubs ≤ callee.stubs := by
    rw [hstubs, CalleeService.stubs_accept]
    split_ifs <;> omega
  have hentries : AcceptedEntries (callees element.deviceId) callee connect
      callerInfo element := by
    intro other
    rw [hcalleeMap]
    exact CalleeService.calleeMap_accept connect callerInfo element other
  apply htracked.update
  · intro call hcall
    rcases List.mem_cons.mp hcall with rfl | hcall
    · rw [if_pos rfl]
      exact hentries.of_new
    · split_ifs with hdevice
      · obtain ⟨calleeInfo, hcallee, hwrapper⟩ := htracked.entry call hcall
        rw [hdevice] at hcallee
        exact ⟨calleeInfo, hentries.of_old hcallee, hwrapper⟩
      · exact hcall
  · intro other calleeInfo hcallee
    rw [hentries] at hcallee
    rw [hrecipients]
    split_ifs at hcallee with hnew
    · obtain ⟨rfl, hnone⟩ := hnew
      cases hcallee
      refine ⟨hconnect, hchecked, List.mem_cons_self, ?_, rfl⟩
      rw [hstubs, CalleeService.stubs_accept, if_pos hnone]
      exact Nat.lt_succ_self _
    · obtain ⟨hother, hdevices, hcarried, hold, hdevice⟩ :=
        htracked.ofEntry _ other calleeInfo hcallee
      exact ⟨hother, hdevices, List.mem_cons_of_mem _ hcarried,
        hold.trans_le hmore, hdevice⟩
  · intro call hcall
    obtain ⟨hold, hgone⟩ := htracked.gone call hcall
    split_ifs with hdevice
    · rw [hdevice] at hold hgone
      refine ⟨hold.trans_le hmore, ?_⟩
      intro calleeInfo hcallee
      rw [hentries] at hcallee
      split_ifs at hcallee with hnew
      · cases hcallee
        exact hold.ne'
      · exact hgone calleeInfo hcallee
    · exact hcall

theorem erase
    (hcalleeMap : ∀ other : RemoteObject, callee.calleeMap[other]? =
      if connect = other then none else (callees deviceId).calleeMap[other]?)
    (hstubs : callee.stubs = (callees deviceId).stubs)
    (hrecipients : ∀ other ≠ connect,
      other ∈ (callees deviceId).deathRecipients →
        other ∈ callee.deathRecipients)
    (hends : ∀ call ∈ accepted, event.Ends call ↔
      call.connect = connect ∧ call.element.deviceId = deviceId) :
    CalleeTracked localDeviceId (Function.update callees deviceId callee)
      (accepted.filter fun call => ¬ event.Ends call)
      (accepted.filter (fun call => event.Ends call) ++ ended) := by
  apply htracked.update
  · intro call hcall
    obtain ⟨hcall, hstays⟩ := List.mem_filter.mp hcall
    rw [decide_eq_true_eq, hends call hcall] at hstays
    split_ifs with hdevice
    · obtain ⟨calleeInfo, hcallee, hwrapper⟩ := htracked.entry call hcall
      refine ⟨calleeInfo, ?_, hwrapper⟩
      rw [hcalleeMap, if_neg (fun hsame => hstays ⟨hsame.symm, hdevice⟩),
        ← hdevice]
      exact hcallee
    · exact hcall
  · intro other calleeInfo hcallee
    rw [hcalleeMap] at hcallee
    split_ifs at hcallee with hsame
    obtain ⟨hother, hdevices, hcarried, hold, hdevice⟩ :=
      htracked.ofEntry deviceId other calleeInfo hcallee
    rw [hstubs]
    exact ⟨hother, hdevices, hrecipients other (Ne.symm hsame) hcarried, hold,
      hdevice⟩
  · intro call hcall
    rcases List.mem_append.mp hcall with hcall | hcall
    · obtain ⟨hcall, hgoes⟩ := List.mem_filter.mp hcall
      rw [decide_eq_true_eq, hends call hcall] at hgoes
      obtain ⟨rfl, hdevice⟩ := hgoes
      obtain ⟨calleeInfo, hcallee, hwrapper⟩ := htracked.entry call hcall
      rw [hdevice] at hcallee
      rw [if_pos hdevice, hstubs, ← hwrapper]
      refine ⟨(htracked.ofEntry _ _ calleeInfo hcallee).2.2.2.1, ?_⟩
      intro found hfound
      rw [hcalleeMap, if_pos rfl] at hfound
      cases hfound
    · obtain ⟨hold, hgone⟩ := htracked.gone call hcall
      split_ifs with hdevice
      · rw [hdevice] at hold hgone
        rw [hstubs]
        refine ⟨hold, ?_⟩
        intro calleeInfo hcallee
        rw [hcalleeMap] at hcallee
        split_ifs at hcallee
        exact hgone calleeInfo hcallee
      · exact hcall

theorem eraseEntry {recipients : List RemoteObject}
    (hrecipients : ∀ other ≠ connect,
      other ∈ (callees deviceId).deathRecipients → other ∈ recipients)
    (callback : CallbackWrapper)
    (hends : ∀ call ∈ accepted, event.Ends call ↔
      call.connect = connect ∧ call.element.deviceId = deviceId) :
    CalleeTracked localDeviceId (Function.update callees deviceId
        (CalleeService.unregisterAppStateObserver callback
          { callees deviceId with
            calleeMap := (callees deviceId).calleeMap.erase connect
            deathRecipients := recipients }))
      (accepted.filter fun call => ¬ event.Ends call)
      (accepted.filter (fun call => event.Ends call) ++ ended) := by
  apply htracked.erase _ _ _ hends
  · intro other
    rw [CalleeService.unregisterAppStateObserver_calleeMap]
    exact getElem?_erase_eq connect other
  · rw [CalleeService.unregisterAppStateObserver_stubs]
  · intro other hother hmem
    rw [CalleeService.unregisterAppStateObserver_deathRecipients]
    exact hrecipients other hother hmem

end CalleeTracked

end CalleeTracked

end Entries

/-! ## What one event does -/

section Steps

namespace CallLedger

variable {ledger : CallLedger}

structure Tracked (ledger : CallLedger) : Prop where
  caller : CallerTracked ledger.network.caller ledger.live
  callee : CalleeTracked ledger.network.caller.localDeviceId
    ledger.network.callees ledger.accepted ledger.ended

theorem releasesOnce_of_none
    (hnone : ∀ call : AcceptedCall,
      (ledger.step event).1.count call.release = 0)
    (hreleases : ∀ call ∈ ledger.accepted, ¬ event.Releases call) :
    ledger.ReleasesOnce event := by
  constructor
  · intro call hcall
    rw [if_neg (hreleases call hcall)]
    exact hnone call
  · intro call hcall
    exact hnone call

theorem releasesOnce_of_nil (hnone : (ledger.step event).1 = [])
    (hreleases : ∀ call ∈ ledger.accepted, ¬ event.Releases call) :
    ledger.ReleasesOnce event := by
  apply releasesOnce_of_none _ hreleases
  intro call
  rw [hnone]
  rfl

section Tracked

variable (htracked : ledger.Tracked)

include htracked

theorem Tracked.finish_of_none {connect : RemoteObject}
    (hnone : (ledger.network.callees deviceId).calleeMap[connect]? = none)
    (event : CallEvent)
    (hends : ∀ call ∈ ledger.accepted, event.Ends call →
      call.connect = connect ∧ call.element.deviceId = deviceId) :
    ledger.finish event = ledger ∧
      ∀ call ∈ ledger.accepted, ¬ event.Ends call := by
  have hstays : ∀ call ∈ ledger.accepted, ¬ event.Ends call := by
    intro call hcall hgoes
    obtain ⟨calleeInfo, hcallee, -⟩ := htracked.callee.entry call hcall
    obtain ⟨rfl, rfl⟩ := hends call hcall hgoes
    rw [hnone] at hcallee
    cases hcallee
  refine ⟨?_, hstays⟩
  have haccepted : (ledger.accepted.filter fun call => ¬ event.Ends call) =
      ledger.accepted := by
    rw [List.filter_eq_self]
    intro call hcall
    exact decide_eq_true (hstays call hcall)
  have hended : ledger.accepted.filter (fun call => event.Ends call) = [] := by
    rw [List.filter_eq_nil_iff]
    intro call hcall hgoes
    exact hstays call hcall (of_decide_eq_true hgoes)
  unfold finish
  rw [haccepted, hended, List.nil_append]

theorem Tracked.start (request : ConnectRequest) (answers : CallAnswers) :
    ledger.ReleasesOnce (.start request answers) ∧
      (ledger.step (.start request answers)).2.Tracked := by
  rcases ledger.network.startRemoteAbilityByCall_cases request answers with
    ⟨result, hresult, -, hstart⟩ | ⟨⟨-, hconnect, hchecked, -⟩, hcalled⟩
  · constructor
    · apply releasesOnce_of_nil _ (fun _ _ => id)
      simp only [step, hstart, if_neg hresult]
    · simp only [step, hstart, if_neg hresult]
      exact htracked
  rcases hcalled with ⟨result, callMap, token, stubs, hresult, -, hstubs, -,
    hstart⟩ | ⟨callerInfo, -, -, -, hstart⟩
  · constructor
    · apply releasesOnce_of_nil _ (fun _ _ => id)
      simp only [step, hstart, if_neg hresult]
    · simp only [step, hstart, if_neg hresult]
      exact ⟨htracked.caller.congr rfl rfl rfl, htracked.callee.stubs hstubs⟩
  · have hsaved : CallerTracked (ledger.network.caller.saveConnectToken
        request.element.deviceId request.connect).2 ledger.live :=
      htracked.caller.congr rfl rfl rfl
    constructor
    · apply releasesOnce_of_nil _ (fun _ _ => id)
      simp only [step, hstart, if_true]
    · simp only [step, hstart, if_true]
      refine ⟨hsaved.save hconnect hchecked callerInfo, ?_⟩
      dsimp only
      rw [CallerService.saveCallerComponent_localDeviceId]
      apply htracked.callee.accept hconnect hchecked
      · rw [CalleeService.registerAppStateObserver_calleeMap]
      · rw [CalleeService.registerAppStateObserver_stubs]
      · rw [CalleeService.registerAppStateObserver_deathRecipients]

theorem Tracked.releasesOnce_of_entry {connect : RemoteObject}
    {calleeInfo : CalleeInfo}
    (hcallee : (ledger.network.callees deviceId).calleeMap[connect]? =
      some calleeInfo) (element : ElementName)
    (houtput : (ledger.step event).1 = [(deviceId, {
      callback := .stub connect calleeInfo.callbackWrapper
      element := element })])
    (hreleases : ∀ call ∈ ledger.accepted, event.Releases call ↔
      call.connect = connect ∧ call.element.deviceId = deviceId ∧
        call.element = element) :
    ledger.ReleasesOnce event := by
  unfold ReleasesOnce
  rw [houtput]
  constructor
  · intro call hcall
    rw [List.count_singleton]
    obtain ⟨found, hfound, hwrapper⟩ := htracked.callee.entry call hcall
    by_cases hdue : event.Releases call
    · rw [if_pos hdue]
      obtain ⟨rfl, rfl, rfl⟩ := (hreleases call hcall).mp hdue
      rw [hcallee] at hfound
      cases hfound
      rw [hwrapper, if_pos]
      exact beq_iff_eq.mpr rfl
    · rw [if_neg hdue, if_neg]
      intro hsame
      apply hdue
      have hsame := beq_iff_eq.mp hsame
      simp only [AcceptedCall.release, Prod.mk.injEq, ReleaseCall.mk.injEq,
        CallbackWrapper.stub.injEq] at hsame
      obtain ⟨hdevice, ⟨hconnect, -⟩, helement⟩ := hsame
      exact (hreleases call hcall).mpr
        ⟨hconnect.symm, hdevice.symm, helement.symm⟩
  · intro call hcall
    rw [List.count_singleton, if_neg]
    intro hsame
    have hsame := beq_iff_eq.mp hsame
    simp only [AcceptedCall.release, Prod.mk.injEq, ReleaseCall.mk.injEq,
      CallbackWrapper.stub.injEq] at hsame
    obtain ⟨rfl, ⟨rfl, hwrapper⟩, -⟩ := hsame
    exact (htracked.callee.gone call hcall).2 calleeInfo hcallee hwrapper

theorem Tracked.release {connect : RemoteObject} {element : ElementName}
    {releaseAbility : Int32}
    (hguard : ledger.Guard (.release connect element releaseAbility)) :
    ledger.ReleasesOnce (.release connect element releaseAbility) ∧
      (ledger.step (.release connect element releaseAbility)).2.Tracked := by
  rcases ledger.network.releaseRemoteAbility_cases connect element
    releaseAbility with ⟨result, hresult, hrefused, hrelease⟩ |
      ⟨calleeInfo, hconnect, hcallee, hrelease⟩
  · -- the connect has no entry on the device
    have hnone : (ledger.network.callees
        element.deviceId).calleeMap[connect]? = none := by
      cases hcallee : (ledger.network.callees
          element.deviceId).calleeMap[connect]? with
      | none => rfl
      | some calleeInfo =>
          obtain ⟨hconnect, hchecked, -⟩ :=
            htracked.callee.ofEntry _ _ calleeInfo hcallee
          exact absurd ⟨hconnect, hchecked, by rw [hcallee]; rfl⟩ hrefused
    obtain ⟨hfinish, hstays⟩ := htracked.finish_of_none hnone
      (.release connect element releaseAbility) (by
        rintro call - ⟨rfl, rfl⟩
        exact ⟨rfl, rfl⟩)
    constructor
    · apply releasesOnce_of_nil _ hstays
      simp only [step, hrelease, List.map_nil]
    · simp only [step, hrelease, if_neg hresult, hfinish]
      exact htracked
  · obtain ⟨honly, hlive⟩ := hguard (by rw [hcallee]; rfl)
    constructor
    · apply htracked.releasesOnce_of_entry hcallee element
      · simp only [step, hrelease, List.map_cons, List.map_nil]
      · intro call hcall
        constructor
        · rintro ⟨rfl, rfl⟩
          exact ⟨rfl, rfl, rfl⟩
        · rintro ⟨hsame, -, helement⟩
          exact ⟨hsame, helement⟩
    · simp only [step, hrelease, finish]
      constructor
      · dsimp only
        split_ifs with hok
        · exact htracked.caller.release hconnect (hlive hok)
        · exact htracked.caller
      · have hlocal : (if releaseAbility = errOk then
            ledger.network.caller.removeCallerComponent connect
            else ledger.network.caller).localDeviceId =
              ledger.network.caller.localDeviceId := by
          split_ifs
          · exact (CallerService.removeCallerComponent_spec hconnect).1
          · rfl
        dsimp only
        rw [hlocal]
        apply htracked.callee.eraseEntry
        · intro other hother
          exact (List.mem_erase_of_ne hother).mpr
        · intro call hcall
          constructor
          · rintro ⟨rfl, rfl⟩
            exact ⟨rfl, rfl⟩
          · rintro ⟨hsame, hdevice⟩
            exact ⟨hsame, honly call hcall hsame hdevice⟩

theorem Tracked.callerDied (connect : RemoteObject) :
    ledger.ReleasesOnce (.callerDied connect) ∧
      (ledger.step (.callerDied connect)).2.Tracked := by
  constructor
  · exact releasesOnce_of_nil rfl (fun _ _ => id)
  · refine ⟨htracked.caller.callerDied connect, ?_⟩
    have hlocal : (if connect ∈ ledger.network.caller.deathRecipients then
        ledger.network.caller.handleLocalCallerDied connect
        else ledger.network.caller).localDeviceId =
          ledger.network.caller.localDeviceId := by
      split_ifs <;> rfl
    dsimp only [step]
    rw [hlocal]
    exact htracked.callee

theorem Tracked.offline (deviceId : Text) :
    ledger.ReleasesOnce (.offline deviceId) ∧
      (ledger.step (.offline deviceId)).2.Tracked := by
  constructor
  · exact releasesOnce_of_nil rfl (fun _ _ => id)
  · refine ⟨htracked.caller.offline deviceId, ?_⟩
    have hlocal : (ledger.network.caller.processDeviceOffline
        deviceId).localDeviceId = ledger.network.caller.localDeviceId := by
      unfold CallerService.processDeviceOffline
      split_ifs
      · rfl
      · exact (CallerService.processCalleeOffline_fields deviceId
          htracked.caller.carried).1
    dsimp only [step]
    rw [hlocal]
    exact htracked.callee

theorem Tracked.calleeDied {connect : RemoteObject} {element : ElementName}
    (hguard : ledger.Guard (.calleeDied connect element)) :
    ledger.ReleasesOnce (.calleeDied connect element) ∧
      (ledger.step (.calleeDied connect element)).2.Tracked := by
  obtain ⟨hlive, honly⟩ := hguard
  have hsame : ledger.live.filter (· ≠ (connect, element)) = ledger.live := by
    rw [List.filter_eq_self]
    intro call hcall
    rw [decide_eq_true_eq]
    rintro rfl
    exact hlive hcall
  constructor
  · exact releasesOnce_of_nil rfl (fun _ _ => id)
  · simp only [step, hsame]
    cases hcallee : (ledger.network.callees
        element.deviceId).calleeMap[connect]? with
    | none =>
        have hunknown : (ledger.network.callees
            element.deviceId).processCalleeDied connect =
              ledger.network.callees element.deviceId := by
          unfold CalleeService.processCalleeDied
          rw [hcallee]
          split_ifs <;> rfl
        obtain ⟨hfinish, -⟩ := htracked.finish_of_none hcallee
          (.calleeDied connect element) (by
            rintro call - ⟨rfl, rfl⟩
            exact ⟨rfl, rfl⟩)
        rw [hunknown, CallNetwork.setCallee_self, hfinish]
        exact htracked
    | some calleeInfo =>
        obtain ⟨hconnect, -⟩ := htracked.callee.ofEntry _ _ calleeInfo hcallee
        unfold CalleeService.processCalleeDied
        rw [if_neg hconnect, hcallee]
        refine ⟨htracked.caller, ?_⟩
        apply htracked.callee.eraseEntry (fun _ _ => id)
        intro call hcall
        constructor
        · rintro ⟨rfl, rfl⟩
          exact ⟨rfl, rfl⟩
        · rintro ⟨hother, hdevice⟩
          exact ⟨hother, honly call hcall hother hdevice⟩

end Tracked

theorem processCallerDied_of_none {service : CalleeService}
    {connect : RemoteObject} (hnone : service.calleeMap[connect]? = none) :
    (service.processCallerDied connect).2 = service ∧
      ∀ released ∈ (service.processCallerDied connect).1,
        released.callback = .own connect := by
  unfold CalleeService.processCallerDied
  rw [hnone]
  split_ifs
  · simp
  · simp

theorem Tracked.callerDiedOn (htracked : ledger.Tracked) {connect : RemoteObject}
    (hguard : ledger.Guard (.callerDiedOn deviceId connect)) :
    ledger.ReleasesOnce (.callerDiedOn deviceId connect) ∧
      (ledger.step (.callerDiedOn deviceId connect)).2.Tracked := by
  cases hcallee :
      (ledger.network.callees deviceId).calleeMap[connect]? with
  | none =>
      obtain ⟨hfinish, hstays⟩ := htracked.finish_of_none hcallee
        (.callerDiedOn deviceId connect) (fun _ _ => id)
      obtain ⟨hunknown, hown⟩ := processCallerDied_of_none hcallee
      constructor
      · apply releasesOnce_of_none _ hstays
        intro call
        rw [List.count_eq_zero]
        intro hreleased
        simp only [step] at hreleased
        split_ifs at hreleased
        · obtain ⟨released, hreleased, hsame⟩ := List.mem_map.mp hreleased
          have hcallback := hown released hreleased
          rw [(Prod.mk.inj hsame).2] at hcallback
          cases hcallback
        · cases hreleased
      · simp only [step, hfinish]
        split_ifs
        · rw [hunknown, CallNetwork.setCallee_self]
          exact htracked
        · rw [CallNetwork.setCallee_self]
          exact htracked
  | some calleeInfo =>
      obtain ⟨hconnect, -, hcarried, -, hdevice⟩ :=
        htracked.callee.ofEntry _ _ calleeInfo hcallee
      have honly := hguard calleeInfo hcallee
      constructor
      · apply htracked.releasesOnce_of_entry hcallee calleeInfo.element
        · simp only [step, if_pos hcarried, CalleeService.processCallerDied,
            if_neg hconnect, hcallee, List.map_cons, List.map_nil]
        · intro call hcall
          constructor
          · rintro ⟨rfl, rfl⟩
            exact ⟨rfl, rfl, honly call hcall rfl rfl⟩
          · rintro ⟨hother, hsame, -⟩
            exact ⟨hother, hsame⟩
      · simp only [step, if_pos hcarried, CalleeService.processCallerDied,
          if_neg hconnect, hcallee]
        refine ⟨htracked.caller, ?_⟩
        apply htracked.callee.eraseEntry (fun _ _ => id)
        intro call hcall
        exact Iff.rfl

theorem Tracked.afterStep (htracked : ledger.Tracked) (hguard : ledger.Guard event) :
    ledger.ReleasesOnce event ∧ (ledger.step event).2.Tracked := by
  cases event with
  | start request answers => exact htracked.start request answers
  | release connect element releaseAbility => exact htracked.release hguard
  | callerDied connect => exact htracked.callerDied connect
  | callerDiedOn deviceId connect => exact htracked.callerDiedOn hguard
  | calleeDied connect element => exact htracked.calleeDied hguard
  | offline deviceId => exact htracked.offline deviceId

end CallLedger

end Steps

namespace CallLedger

def initial (localDeviceId : Text) : CallLedger where
  network := { caller := { localDeviceId := localDeviceId } }

theorem tracked_initial (localDeviceId : Text) :
    (initial localDeviceId).Tracked := by
  constructor
  · constructor <;> simp [initial, CallerService.Holds]
  · constructor <;> simp [initial]

/-- In a run whose steps meet the guard, the sessions of the caller are those of
the live calls, and a call leads to one `ReleaseAbility` when it is released or
its caller dies. -/
theorem recorded_run (localDeviceId : Text) (events : List CallEvent)
    (hmeets : EventRun.Meets step Guard (initial localDeviceId) events) :
    (EventRun.run step (initial localDeviceId) events).2.Recorded ∧
      EventRun.Meets step ReleasesOnce (initial localDeviceId) events := by
  have hstep : ∀ (ledger : CallLedger) event, ledger.Tracked →
      ledger.Guard event → (ledger.step event).2.Tracked :=
    fun _ _ htracked hguard => (htracked.afterStep hguard).2
  constructor
  · exact (hmeets.invariant hstep
      (tracked_initial localDeviceId)).caller.holds
  · apply hmeets.guarantee _ hstep (tracked_initial localDeviceId)
    exact fun _ _ htracked hguard => (htracked.afterStep hguard).1

def abilityOn (deviceId abilityName : String) : ElementName where
  deviceId := deviceId.toList
  bundleName := "bundle".toList
  abilityName := abilityName.toList

def callAbilityOn (connect : RemoteObject) (deviceId abilityName : String)
    (answers : CallAnswers) : CallEvent :=
  .start {
    element := abilityOn deviceId abilityName
    connect := connect
    callerUid := 100
    callerPid := 1
    accessToken := 0 } answers

/-- Four connects call abilities on two devices: one is released, one dies, one
loses its device and the last one stays; a fifth call is refused. -/
def sampleEvents : List CallEvent :=
  [callAbilityOn 7 "b" "first" {}, callAbilityOn 8 "b" "second" {},
    callAbilityOn 9 "c" "third" {}, callAbilityOn 10 "b" "first" {},
    callAbilityOn 11 "b" "first" { checkTargetPermission := errInvalidValue },
    .release 7 (abilityOn "b" "first") errOk, .callerDied 8,
    .callerDiedOn "b".toList 8, .offline "c".toList,
    .calleeDied 9 (abilityOn "c" "third")]

theorem recorded_sampleEvents :
    (EventRun.Meets step Guard (initial "a".toList) sampleEvents ∧
      (EventRun.run step (initial "a".toList) sampleEvents).1.flatten =
        [("b".toList, {
            callback := .stub 7 0, element := abilityOn "b" "first" }),
          ("b".toList, {
            callback := .stub 8 1, element := abilityOn "b" "second" })] ∧
      (EventRun.run step (initial "a".toList) sampleEvents).2.live =
        [(10, abilityOn "b" "first")]) ∧
      (EventRun.run step (initial "a".toList) sampleEvents).2.Recorded ∧
      EventRun.Meets step ReleasesOnce (initial "a".toList) sampleEvents := by
  have hmeets : EventRun.Meets step Guard (initial "a".toList)
      sampleEvents := by
    decide +kernel
  exact ⟨⟨hmeets, by decide +kernel, by decide +kernel⟩,
    recorded_run "a".toList sampleEvents hmeets⟩

def twoElementsEvents : List CallEvent :=
  [callAbilityOn 7 "b" "first" {}, callAbilityOn 7 "b" "second" {}]

/-- The first ability is released, and the session of the second one is gone;
the caller dies, and the second ability is not released; the ability of a
connect dies, and its session stays. -/
theorem not_recorded_twoElementsEvents :
    ¬ (EventRun.run step (initial "a".toList) (twoElementsEvents ++
        [.release 7 (abilityOn "b" "first") errOk])).2.Recorded ∧
      ¬ EventRun.Meets step ReleasesOnce (initial "a".toList)
        (twoElementsEvents ++ [.callerDiedOn "b".toList 7]) ∧
      ¬ (EventRun.run step (initial "a".toList)
        [callAbilityOn 7 "b" "first" {},
          .calleeDied 7 (abilityOn "b" "first")]).2.Recorded := by
  refine ⟨?_, by decide +kernel, ?_⟩
  · intro hrecorded
    obtain ⟨sessionsList, hsessions, -⟩ := (hrecorded 7 "b".toList
      (abilityOn "b" "second")).mpr (by decide +kernel)
    have hgone : (EventRun.run step (initial "a".toList) (twoElementsEvents ++
        [.release 7 (abilityOn "b" "first") errOk]
        )).2.network.caller.callerMap[7]?.isNone = true := by
      decide +kernel
    rw [hsessions] at hgone
    cases hgone
  · intro hrecorded
    have hlive := (hrecorded 7 "b".toList (abilityOn "b" "first")).mp (by
      refine ⟨_, rfl, ?_⟩
      exact ⟨_, List.mem_cons_self, by decide +kernel, by decide +kernel⟩)
    revert hlive
    decide +kernel

end CallLedger

end Dmsfwk
