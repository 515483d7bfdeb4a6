import Dmsfwk.ConnectCounting
import Dmsfwk.ConnectedAbilities

/-!
# The limit on the connects of a user

A request looks at the number of recorded connects in one section, calls the
other device without the lock, and records its connect in another section.
Requests that are between the two are not counted, and the look does not ask
whether the connect is recorded already.
-/

namespace Dmsfwk
namespace ConnectLimit

open SchedErr OrderedMap EventRun DistributedSchedService

/-! ## Requests of one user -/

structure PendingRequest where
  request : ConnectRequest
  callerInfo : CallerInfo
  connected : Bool := false

structure ConnectCaller where
  localDeviceId : Text
  service : DistributedSchedService := {}
  inFlight : Std.TreeMap ℕ PendingRequest := ∅

/-- One section of a request of the user, or one that removes connects.  The
answer to a remote call comes with whether it took longer than
`BIND_CONNECT_TIMEOUT`. -/
inductive ConnectEvent (uid : Int32) where
  | connect (thread : ℕ) (request : ConnectRequest)
      (huid : request.callerUid = uid)
  | remoteCalls (thread : ℕ) (remoteDms : Bool) (answers : ℕ → Int32 × Bool)
  | record (thread : ℕ)
  | disconnect (connect : RemoteObject)
  | connectDied (connect : RemoteObject)
  | deviceOffline (deviceId : Text)

def checkConnect (caller : ConnectCaller) (request : ConnectRequest) :
    Except Int32 CallerInfo :=
  if !request.isCallerForeground then .error dmsNotForegroundUser
  else if !checkDeviceId caller.localDeviceId request.element.deviceId then
    .error invalidParametersErr
  else
    let callerInfo : CallerInfo := {
      uid := request.callerUid
      pid := request.callerPid
      callerType := callerTypeHarmony
      sourceDeviceId := caller.localDeviceId
      accessToken := request.accessToken }
    match caller.service.checkDistributedConnectLocked callerInfo with
    | .error err => .error err.code
    | .ok () => .ok callerInfo

def retryConnect (answers : ℕ → Int32 × Bool) (result : Int32) : ℕ → Int32
  | 0 => result
  | retryTimes + 1 =>
      let (result, timedOut) := answers retryTimes
      if result = errOk then errOk
      else if result = invalidRemoteParametersErr ∨
          result = remoteDeviceBindAbilityErr then result
      else if timedOut then result
      else retryConnect answers result retryTimes

def callRemote (pending : PendingRequest) (remoteDms : Bool)
    (answers : ℕ → Int32 × Bool) : Except Int32 CallerInfo :=
  match pending.request.callerAppId, pending.request.bundleNames with
  | some callerAppId, some bundleNames =>
      if !remoteDms ∨ pending.request.connect = 0 then
        .error invalidParametersErr
      else if pending.request.getAccountInfo ≠ errOk then
        .error pending.request.getAccountInfo
      else
        let result := retryConnect answers remoteDeviceBindAbilityErr
          bindConnectRetryTimes
        if result ≠ errOk then .error result
        else .ok { pending.callerInfo with
          callerAppId := callerAppId
          bundleNames := bundleNames }
  | _, _ => .error invalidParametersErr

namespace ConnectCaller

def proceed (thread : ℕ) (pending : PendingRequest) (caller : ConnectCaller) :
    ConnectCaller :=
  { caller with inFlight := caller.inFlight.insert thread pending }

def finish (thread : ℕ) (caller : ConnectCaller) : ConnectCaller :=
  { caller with inFlight := caller.inFlight.erase thread }

variable (caller : ConnectCaller) (thread other : ℕ) (pending : PendingRequest)

@[simp] theorem inFlight_proceed :
    (caller.proceed thread pending).inFlight[other]? =
      if thread = other then some pending else caller.inFlight[other]? :=
  getElem?_insert_eq thread other pending

@[simp] theorem inFlight_finish :
    (caller.finish thread).inFlight[other]? =
      if thread = other then none else caller.inFlight[other]? :=
  getElem?_erase_eq thread other

end ConnectCaller

def recordPending (pending : PendingRequest)
    (service : DistributedSchedService) : DistributedSchedService :=
  remoteConnectAbilityMappingLocked pending.request.connect
    pending.callerInfo.sourceDeviceId pending.request.element.deviceId
    pending.request.element pending.callerInfo .harmony service

/-- A step with the result of the request that ends by it.  A thread that is not
at the section of the event stays where it is. -/
def step {uid : Int32} (caller : ConnectCaller) :
    ConnectEvent uid → Option Int32 × ConnectCaller
  | .connect thread request _ =>
      if thread ∈ caller.inFlight then (none, caller)
      else match checkConnect caller request with
        | .error result => (some result, caller)
        | .ok callerInfo =>
            (none, caller.proceed thread { request, callerInfo })
  | .remoteCalls thread remoteDms answers =>
      match caller.inFlight[thread]? with
      | none => (none, caller)
      | some pending =>
          if pending.connected then (none, caller)
          else match callRemote pending remoteDms answers with
            | .error result => (some result, caller.finish thread)
            | .ok callerInfo =>
                (none, caller.proceed thread
                  { pending with callerInfo := callerInfo, connected := true })
  | .record thread =>
      match caller.inFlight[thread]? with
      | none => (none, caller)
      | some pending =>
          if pending.connected then
            (some errOk, ConnectCaller.finish thread
              { caller with service := recordPending pending caller.service })
          else (none, caller)
  | .disconnect connect =>
      (none, { caller with
        service := (disconnectRemoteAbility connect caller.service).2 })
  | .connectDied connect =>
      (none, { caller with
        service := (processConnectDied connect caller.service).2 })
  | .deviceOffline deviceId =>
      (none, { caller with
        service := (removeConnectAbilityInfo deviceId caller.service).2 })

/-! ## The limit -/

section Limit

variable {uid : Int32}

def IsRecorded (caller : ConnectCaller) (connect : RemoteObject) : Prop :=
  connect ∈ caller.service.distributedConnectAbilityMap

/-- The connects of the user stay within the limit, and the limit refuses no
request on a recorded connect. -/
structure LimitHolds (caller : ConnectCaller) (event : ConnectEvent uid) :
    Prop where
  limited :
    connectsOf uid (step caller event).2.service ≤ maxDistributedConnectNum
  notRefused : ∀ thread request huid, event = .connect thread request huid →
    IsRecorded caller request.connect →
      (step caller event).1 ≠ some bindAbilityLeakErr

def ReachesCheck (caller : ConnectCaller) (thread : ℕ)
    (request : ConnectRequest) : Prop :=
  thread ∉ caller.inFlight ∧ request.isCallerForeground = true ∧
    checkDeviceId caller.localDeviceId request.element.deviceId = true

/-- A new connect is recorded, and a request on a recorded one is checked, while
the user has fewer connects than the limit. -/
def EventSound (caller : ConnectCaller) : ConnectEvent uid → Prop
  | .connect thread request _ =>
      ReachesCheck caller thread request → IsRecorded caller request.connect →
        connectsOf uid caller.service < maxDistributedConnectNum
  | .record thread => ∀ pending ∈ caller.inFlight[thread]?,
      pending.connected = true → ¬ IsRecorded caller pending.request.connect →
        connectsOf uid caller.service < maxDistributedConnectNum
  | _ => True

structure Kept (uid : Int32) (caller : ConnectCaller) : Prop where
  owned : Owned (fun _ => uid) caller.service
  callers : ∀ (thread : ℕ) (pending : PendingRequest),
    caller.inFlight[thread]? = some pending →
      pending.callerInfo.uid = uid ∧ 0 ≤ uid
  connects : ∀ (thread : ℕ) (pending : PendingRequest),
    caller.inFlight[thread]? = some pending → pending.connected = true →
      pending.request.connect ≠ 0
  limited : connectsOf uid caller.service ≤ maxDistributedConnectNum

/-! ## The number of connects -/

def tracking (uid : Int32) (service : DistributedSchedService) : ℕ :=
  (service.trackingUidMap[uid]?).getD 0

section Tracking

variable (service : DistributedSchedService) (connect : RemoteObject)

theorem tracking_decreaseConnectLocked_le (other : Int32) :
    tracking uid (decreaseConnectLocked other service) ≤
      tracking uid service := by
  by_cases hvalid : 0 ≤ other
  · rw [tracking, trackingUidMap_decrease hvalid]
    exact Nat.sub_le _ _
  · rw [decreaseConnectLocked, if_pos (Int32.not_le.mp hvalid)]

theorem tracking_disconnectRemoteAbility_le :
    tracking uid (disconnectRemoteAbility connect service).2 ≤
      tracking uid service := by
  unfold disconnectRemoteAbility
  split_ifs
  · exact le_rfl
  · split
    · exact le_rfl
    · dsimp only
      split_ifs <;> exact tracking_decreaseConnectLocked_le service _

theorem tracking_removeDeviceSession_le (deviceId : Text) :
    tracking uid (removeDeviceSession deviceId connect service).2 ≤
      tracking uid service := by
  unfold removeDeviceSession
  split
  · exact le_rfl
  · dsimp only
    split_ifs
    · exact tracking_decreaseConnectLocked_le _ _
    · exact tracking_decreaseConnectLocked_le service _
    · exact le_rfl

theorem tracking_removeConnectAbilityInfo_le (deviceId : Text) :
    tracking uid (removeConnectAbilityInfo deviceId service).2 ≤
      tracking uid service := by
  unfold removeConnectAbilityInfo
  refine List.foldlRecOn
    (motive := fun state : _ × DistributedSchedService =>
      tracking uid state.2 ≤ tracking uid service) _ _ le_rfl ?_
  intro state hstate connect _
  exact (tracking_removeDeviceSession_le state.2 connect deviceId).trans hstate

theorem tracking_removeCaller_le (callerInfo : CallerInfo)
    (state : List ProcessDiedNotifyInfo × DistributedSchedService) :
    tracking uid (removeCaller callerInfo connect state).2 ≤
      tracking uid state.2 := by
  unfold removeCaller
  split
  · exact le_rfl
  · exact le_rfl
  · dsimp only
    split_ifs
    · exact tracking_decreaseConnectLocked_le state.2 _
    · exact tracking_decreaseConnectLocked_le state.2 _
    · exact le_rfl

theorem tracking_processConnectDied_le :
    tracking uid (processConnectDied connect service).2 ≤
      tracking uid service := by
  unfold processConnectDied
  split_ifs
  · exact le_rfl
  · split
    · exact le_rfl
    · exact le_rfl
    · next first rest _ =>
        refine List.foldlRecOn
          (motive := fun state : _ × DistributedSchedService =>
            tracking uid state.2 ≤ tracking uid service) _ _ le_rfl ?_
        intro state hstate other _
        exact (tracking_removeCaller_le other first.callerInfo state).trans
          hstate

theorem tracking_recordPending {pending : PendingRequest}
    (hnotNull : pending.request.connect ≠ 0) :
    tracking pending.callerInfo.uid (recordPending pending service) =
      tracking pending.callerInfo.uid service +
        if pending.request.connect ∈ service.distributedConnectAbilityMap
        then 0 else 1 := by
  unfold recordPending remoteConnectAbilityMappingLocked tracking
  rw [if_neg hnotNull]
  cases hsessions :
      service.distributedConnectAbilityMap[pending.request.connect]? with
  | none =>
      have hnotMem : pending.request.connect ∉
          service.distributedConnectAbilityMap := by
        rw [Std.TreeMap.mem_iff_isSome_getElem?, hsessions]
        exact Bool.false_ne_true
      dsimp only
      rw [getElem?_insert_eq, if_pos rfl, if_neg hnotMem]
      rfl
  | some sessionsList =>
      rw [if_pos (getElem?_eq_some_iff.mp hsessions).1]
      rfl

end Tracking

/-! ## One section -/

variable {caller : ConnectCaller}

theorem Kept.connectsOf_recordPending (hkept : Kept uid caller)
    {thread : ℕ} {pending : PendingRequest}
    (hthread : caller.inFlight[thread]? = some pending)
    (hconnected : pending.connected = true) :
    Owned (fun _ => uid) (recordPending pending caller.service) ∧
      connectsOf uid (recordPending pending caller.service) =
        connectsOf uid caller.service +
          if pending.request.connect ∈
            caller.service.distributedConnectAbilityMap then 0 else 1 := by
  obtain ⟨huid, hvalid⟩ := hkept.callers thread pending hthread
  have howned : Owned (fun _ => uid) (recordPending pending caller.service) :=
    hkept.owned.record huid (huid ▸ hvalid) _ _ _ _
  have htracking := tracking_recordPending caller.service
    (hkept.connects thread pending hthread hconnected)
  rw [huid, tracking, tracking, howned.tracked, hkept.owned.tracked] at htracking
  exact ⟨howned, htracking⟩

theorem Kept.removes (hkept : Kept uid caller) {service : DistributedSchedService}
    (howned : Owned (fun _ => uid) service)
    (hle : tracking uid service ≤ tracking uid caller.service) :
    connectsOf uid service ≤ maxDistributedConnectNum := by
  rw [tracking, tracking, howned.tracked, hkept.owned.tracked] at hle
  exact hle.trans hkept.limited

theorem checkConnect_eq_ok {request : ConnectRequest} {callerInfo : CallerInfo}
    (hcheck : checkConnect caller request = .ok callerInfo) :
    callerInfo.uid = request.callerUid ∧ 0 ≤ request.callerUid := by
  unfold checkConnect at hcheck
  split_ifs at hcheck
  dsimp only at hcheck
  split at hcheck
  · cases hcheck
  · next hok =>
      obtain rfl := Except.ok.inj hcheck
      refine ⟨rfl, Int32.not_lt.mp fun hneg => ?_⟩
      rw [checkDistributedConnectLocked, if_pos hneg] at hok
      cases hok

theorem checkConnect_leak_iff (howned : Owned (fun _ => uid) caller.service)
    (request : ConnectRequest) :
    checkConnect caller request = .error bindAbilityLeakErr ↔
      request.isCallerForeground = true ∧
        checkDeviceId caller.localDeviceId request.element.deviceId = true ∧
        0 ≤ request.callerUid ∧
        maxDistributedConnectNum ≤
          connectsOf request.callerUid caller.service := by
  unfold checkConnect
  by_cases hforeground : request.isCallerForeground = true
  · by_cases hdevice :
        checkDeviceId caller.localDeviceId request.element.deviceId = true
    · simp only [hforeground, hdevice, Bool.not_true, Bool.false_eq_true,
        if_false, true_and]
      refine Iff.trans ?_ (checkDistributedConnectLocked_leak_iff
        howned.countsExactly {
          uid := request.callerUid
          pid := request.callerPid
          callerType := callerTypeHarmony
          sourceDeviceId := caller.localDeviceId
          accessToken := request.accessToken })
      cases caller.service.checkDistributedConnectLocked {
          uid := request.callerUid
          pid := request.callerPid
          callerType := callerTypeHarmony
          sourceDeviceId := caller.localDeviceId
          accessToken := request.accessToken } with
      | error err => cases err <;> simp <;> decide
      | ok _ => simp
    · simp [hforeground, hdevice]
      decide
  · simp [hforeground]
    decide

theorem callRemote_eq_ok {pending : PendingRequest} {remoteDms : Bool}
    {answers : ℕ → Int32 × Bool} {callerInfo : CallerInfo}
    (hcall : callRemote pending remoteDms answers = .ok callerInfo) :
    callerInfo.uid = pending.callerInfo.uid ∧ pending.request.connect ≠ 0 := by
  unfold callRemote at hcall
  split at hcall
  · split_ifs at hcall with hmissing
    dsimp only at hcall
    split_ifs at hcall
    obtain rfl := Except.ok.inj hcall
    exact ⟨rfl, fun hnull => hmissing (Or.inr hnull)⟩
  · cases hcall

theorem bindAbilityLeak_step_iff (hkept : Kept uid caller) {thread : ℕ}
    {request : ConnectRequest} (huid : request.callerUid = uid) :
    (step caller (.connect thread request huid)).1 = some bindAbilityLeakErr ↔
      ReachesCheck caller thread request ∧ 0 ≤ uid ∧
        maxDistributedConnectNum ≤ connectsOf uid caller.service := by
  have hleak := checkConnect_leak_iff hkept.owned request
  dsimp only [step]
  unfold ReachesCheck
  by_cases hthread : thread ∈ caller.inFlight
  · simp [hthread]
  · rw [if_neg hthread]
    rw [huid] at hleak
    cases hcheck : checkConnect caller request with
    | error result =>
        rw [hcheck] at hleak
        simp only [Except.error.injEq] at hleak
        simp only [Option.some.injEq, hleak, hthread, not_false_eq_true,
          true_and, and_assoc]
    | ok callerInfo =>
        rw [hcheck] at hleak
        simp only [reduceCtorEq, false_iff] at hleak ⊢
        rintro ⟨⟨-, hforeground, hdevice⟩, hvalid, hfull⟩
        exact hleak ⟨hforeground, hdevice, hvalid, hfull⟩

theorem service_step_connect (thread : ℕ) (request : ConnectRequest)
    (huid : request.callerUid = uid) :
    (step caller (.connect thread request huid)).2.service =
      caller.service := by
  dsimp only [step]
  split_ifs
  · rfl
  · cases checkConnect caller request <;> rfl

theorem service_step_remoteCalls (thread : ℕ) (remoteDms : Bool)
    (answers : ℕ → Int32 × Bool) :
    (step caller (.remoteCalls thread remoteDms answers :
      ConnectEvent uid)).2.service = caller.service := by
  dsimp only [step]
  split
  · rfl
  · next pending _ =>
      split_ifs
      · rfl
      · cases callRemote pending remoteDms answers <;> rfl

theorem connectsOf_step_le (hkept : Kept uid caller) {event : ConnectEvent uid}
    (hother : ∀ thread, event ≠ .record thread) :
    connectsOf uid (step caller event).2.service ≤
      maxDistributedConnectNum := by
  cases event with
  | connect thread request huid =>
      rw [service_step_connect]
      exact hkept.limited
  | remoteCalls thread remoteDms answers =>
      rw [service_step_remoteCalls]
      exact hkept.limited
  | record thread => exact absurd rfl (hother thread)
  | disconnect connect =>
      exact hkept.removes hkept.owned.disconnect
        (tracking_disconnectRemoteAbility_le _ connect)
  | connectDied connect =>
      exact hkept.removes hkept.owned.processConnectDied
        (tracking_processConnectDied_le _ connect)
  | deviceOffline deviceId =>
      exact hkept.removes (hkept.owned.removeConnectAbilityInfo deviceId)
        (tracking_removeConnectAbilityInfo_le _ deviceId)

theorem record_limited_iff (hkept : Kept uid caller) (thread : ℕ) :
    connectsOf uid (step caller (.record thread : ConnectEvent uid)).2.service ≤
        maxDistributedConnectNum ↔
      EventSound caller (.record thread : ConnectEvent uid) := by
  have hlimited := hkept.limited
  dsimp only [step, EventSound]
  cases hthread : caller.inFlight[thread]? with
  | none => exact iff_of_true hlimited (by simp)
  | some pending =>
      simp only [Option.mem_some_iff, forall_eq']
      by_cases hconnected : pending.connected = true
      · rw [if_pos hconnected, imp_iff_right hconnected]
        dsimp only [ConnectCaller.finish]
        rw [(hkept.connectsOf_recordPending hthread hconnected).2, IsRecorded]
        split_ifs with hrecorded
        · exact iff_of_true hlimited (absurd hrecorded)
        · rw [imp_iff_right hrecorded]
          omega
      · rw [if_neg hconnected]
        exact iff_of_true hlimited (absurd · hconnected)

theorem limitHolds_iff (hkept : Kept uid caller) (event : ConnectEvent uid) :
    LimitHolds caller event ↔ EventSound caller event := by
  cases event with
  | connect thread request huid =>
      have hlimited : connectsOf uid
          (step caller (.connect thread request huid)).2.service ≤
            maxDistributedConnectNum :=
        connectsOf_step_le hkept nofun
      have hleak := @bindAbilityLeak_step_iff uid caller hkept thread request huid
      constructor
      · intro hholds hreaches hrecorded
        by_contra hfull
        refine hholds.notRefused thread request huid rfl hrecorded ?_
        exact hleak.mpr ⟨hreaches, hkept.owned.valid _ hrecorded,
          not_lt.mp hfull⟩
      · intro hsound
        refine ⟨hlimited, ?_⟩
        rintro thread request huid heq hrecorded hrefused
        cases heq
        obtain ⟨hreaches, -, hfull⟩ := hleak.mp hrefused
        exact absurd (hsound hreaches hrecorded) (not_lt.mpr hfull)
  | record thread =>
      rw [← record_limited_iff hkept]
      exact ⟨LimitHolds.limited, fun hlimited => ⟨hlimited, nofun⟩⟩
  | remoteCalls thread remoteDms answers =>
      exact iff_of_true ⟨connectsOf_step_le hkept nofun, nofun⟩ trivial
  | disconnect connect =>
      exact iff_of_true ⟨connectsOf_step_le hkept nofun, nofun⟩ trivial
  | connectDied connect =>
      exact iff_of_true ⟨connectsOf_step_le hkept nofun, nofun⟩ trivial
  | deviceOffline deviceId =>
      exact iff_of_true ⟨connectsOf_step_le hkept nofun, nofun⟩ trivial

theorem Kept.proceed (hkept : Kept uid caller) {thread : ℕ}
    {pending : PendingRequest} (huid : pending.callerInfo.uid = uid)
    (hvalid : 0 ≤ uid)
    (hconnect : pending.connected = true → pending.request.connect ≠ 0) :
    Kept uid (caller.proceed thread pending) where
  owned := hkept.owned
  callers := by
    intro other found hfound
    rw [ConnectCaller.inFlight_proceed] at hfound
    split_ifs at hfound
    · obtain rfl := Option.some.inj hfound
      exact ⟨huid, hvalid⟩
    · exact hkept.callers other found hfound
  connects := by
    intro other found hfound
    rw [ConnectCaller.inFlight_proceed] at hfound
    split_ifs at hfound
    · obtain rfl := Option.some.inj hfound
      exact hconnect
    · exact hkept.connects other found hfound
  limited := hkept.limited

theorem Kept.finish (hkept : Kept uid caller) (thread : ℕ)
    {service : DistributedSchedService}
    (howned : Owned (fun _ => uid) service)
    (hlimited : connectsOf uid service ≤ maxDistributedConnectNum) :
    Kept uid (ConnectCaller.finish thread { caller with service := service }) := by
  have hold : ∀ (other : ℕ) (found : PendingRequest),
      (ConnectCaller.finish thread
        { caller with service := service }).inFlight[other]? = some found →
        caller.inFlight[other]? = some found := by
    intro other found hfound
    rw [ConnectCaller.inFlight_finish] at hfound
    split_ifs at hfound
    exact hfound
  exact {
    owned := howned
    callers := fun other found hfound =>
      hkept.callers other found (hold other found hfound)
    connects := fun other found hfound =>
      hkept.connects other found (hold other found hfound)
    limited := hlimited }

theorem Kept.step (hkept : Kept uid caller) {event : ConnectEvent uid}
    (hholds : LimitHolds caller event) : Kept uid (step caller event).2 := by
  have hlimited := hholds.limited
  cases event with
  | connect thread request huid =>
      dsimp only [ConnectLimit.step]
      split_ifs
      · exact hkept
      · cases hcheck : checkConnect caller request with
        | error result => exact hkept
        | ok callerInfo =>
            obtain ⟨hcaller, hvalid⟩ := checkConnect_eq_ok hcheck
            exact hkept.proceed (hcaller.trans huid) (huid ▸ hvalid) nofun
  | remoteCalls thread remoteDms answers =>
      dsimp only [ConnectLimit.step]
      split
      · exact hkept
      · next pending hthread =>
          split_ifs
          · exact hkept
          · cases hcall : callRemote pending remoteDms answers with
            | error result =>
                exact hkept.finish thread hkept.owned hkept.limited
            | ok callerInfo =>
                obtain ⟨hcaller, hnotNull⟩ := callRemote_eq_ok hcall
                obtain ⟨huid, hvalid⟩ := hkept.callers thread pending hthread
                exact hkept.proceed (hcaller.trans huid) hvalid
                  fun _ => hnotNull
  | record thread =>
      dsimp only [ConnectLimit.step] at hlimited ⊢
      cases hthread : caller.inFlight[thread]? with
      | none => exact hkept
      | some pending =>
          rw [hthread] at hlimited
          dsimp only at hlimited ⊢
          by_cases hconnected : pending.connected = true
          · rw [if_pos hconnected] at hlimited ⊢
            exact hkept.finish thread
              (hkept.connectsOf_recordPending hthread hconnected).1 hlimited
          · rw [if_neg hconnected]
            exact hkept
  | disconnect connect =>
      exact { hkept with owned := hkept.owned.disconnect, limited := hlimited }
  | connectDied connect =>
      exact { hkept with
        owned := hkept.owned.processConnectDied
        limited := hlimited }
  | deviceOffline deviceId =>
      exact { hkept with
        owned := hkept.owned.removeConnectAbilityInfo deviceId
        limited := hlimited }

theorem connectsOf_initial (uid : Int32) : connectsOf uid {} = 0 :=
  ((owned_initial (fun _ => uid)).tracked uid).symm

theorem kept_initial (uid : Int32) (localDeviceId : Text) :
    Kept uid { localDeviceId } where
  owned := owned_initial fun _ => uid
  callers _ _ := nofun
  connects _ _ := nofun
  limited := by
    rw [connectsOf_initial]
    exact Nat.zero_le _

/-- Every section of a run respects the limit exactly when every section of it
is sound. -/
theorem meets_limitHolds_iff (uid : Int32) (localDeviceId : Text)
    (events : List (ConnectEvent uid)) :
    Meets ConnectLimit.step LimitHolds { localDeviceId } events ↔
      Meets ConnectLimit.step EventSound { localDeviceId } events :=
  meets_iff_of_invariant (fun _ event hkept => limitHolds_iff hkept event)
    (fun _ event hkept hsound =>
      hkept.step ((limitHolds_iff hkept event).mpr hsound))
    events (kept_initial uid localDeviceId)

end Limit

/-! ### Two requests at the limit -/

section Overlap

def farRequest (connect : RemoteObject) : ConnectRequest where
  element := { deviceId := ['b'] }
  connect := connect
  callerUid := 100
  callerPid := 1
  accessToken := 0

def farChecked (connect : RemoteObject) : PendingRequest where
  request := farRequest connect
  callerInfo := {
    uid := 100
    pid := 1
    callerType := callerTypeHarmony
    sourceDeviceId := ['a'] }

def farConnected (connect : RemoteObject) : PendingRequest :=
  { farChecked connect with connected := true }

def answered (thread : ℕ) (connect : RemoteObject) : List (ConnectEvent 100) :=
  [.connect thread (farRequest connect) rfl,
    .remoteCalls thread true fun _ => (errOk, false), .record thread]

def answeredUpTo (n : ℕ) : List (ConnectEvent 100) :=
  (List.range n).flatMap fun connect => answered 1 (connect + 1)

def recordedUpTo : ℕ → DistributedSchedService
  | 0 => {}
  | n + 1 => recordPending (farConnected (n + 1)) (recordedUpTo n)

theorem owned_recordedUpTo (n : ℕ) :
    Owned (fun _ => 100) (recordedUpTo n) := by
  induction n with
  | zero => exact owned_initial _
  | succ n ih =>
      have hvalid : (0 : Int32) ≤ (farConnected (n + 1)).callerInfo.uid := by
        change (0 : Int32) ≤ 100
        decide
      unfold recordedUpTo recordPending
      exact ih.record rfl hvalid _ _ _ _

theorem mem_of_mem_recordPending {pending : PendingRequest}
    {service : DistributedSchedService} {connect : RemoteObject}
    (hmem : connect ∈
      (recordPending pending service).distributedConnectAbilityMap) :
    pending.request.connect = connect ∨
      connect ∈ service.distributedConnectAbilityMap := by
  unfold recordPending remoteConnectAbilityMappingLocked at hmem
  split_ifs at hmem
  · exact Or.inr hmem
  · dsimp only at hmem
    rw [Std.TreeMap.mem_insert, Std.compare_eq_iff_eq] at hmem
    refine hmem.imp_right fun hold => ?_
    split at hold <;> exact hold

theorem le_of_mem_recordedUpTo {n : ℕ} {connect : RemoteObject}
    (hmem : connect ∈ (recordedUpTo n).distributedConnectAbilityMap) :
    connect ≤ n := by
  induction n with
  | zero => exact absurd hmem Std.TreeMap.not_mem_emptyc
  | succ n ih =>
      rcases mem_of_mem_recordPending hmem with hsame | hold
      · exact hsame.symm.le
      · exact (ih hold).trans n.le_succ

theorem tracking_recordedUpTo (n : ℕ) : tracking 100 (recordedUpTo n) = n := by
  induction n with
  | zero => rfl
  | succ n ih =>
      have hnew : (farConnected (n + 1)).request.connect ∉
          (recordedUpTo n).distributedConnectAbilityMap :=
        fun hmem => absurd (le_of_mem_recordedUpTo hmem) n.lt_succ_self.not_ge
      have htracking := @tracking_recordPending (recordedUpTo n)
        (farConnected (n + 1)) (Nat.succ_ne_zero n)
      rw [if_neg hnew] at htracking
      exact htracking.trans (congrArg (· + 1) ih)

variable {caller : ConnectCaller} {thread : ℕ} {connect : RemoteObject}

theorem step_connect_of_room (hdevice : caller.localDeviceId = ['a'])
    (hroom : tracking 100 caller.service < maxDistributedConnectNum)
    (hfree : caller.inFlight[thread]? = none) :
    (step caller (.connect thread (farRequest connect) rfl :
      ConnectEvent 100)).2 = caller.proceed thread (farChecked connect) := by
  have hnotMem : thread ∉ caller.inFlight := by
    rw [Std.TreeMap.mem_iff_isSome_getElem?, hfree]
    exact Bool.false_ne_true
  have hok : ∀ callerInfo : CallerInfo, callerInfo.uid = 100 →
      caller.service.checkDistributedConnectLocked callerInfo = .ok () := by
    intro callerInfo huid
    have hvalid : ¬ (100 : Int32) < 0 := by decide
    rw [checkDistributedConnectLocked, huid, if_neg hvalid]
    unfold tracking at hroom
    cases hconns : caller.service.trackingUidMap[(100 : Int32)]? with
    | none => rfl
    | some conns =>
        rw [hconns, Option.getD_some] at hroom
        exact if_neg (not_le.mpr hroom)
  have hchecked : checkConnect caller (farRequest connect) =
      .ok (farChecked connect).callerInfo := by
    dsimp only [checkConnect, farRequest]
    rw [hok _ rfl, hdevice]
    rfl
  dsimp only [step]
  rw [if_neg hnotMem, hchecked]
  rfl

theorem step_remoteCalls_farChecked (hnotNull : connect ≠ 0)
    (hthread : caller.inFlight[thread]? = some (farChecked connect)) :
    (step caller (.remoteCalls thread true fun _ => (errOk, false) :
      ConnectEvent 100)).2 = caller.proceed thread (farConnected connect) := by
  have hcall : callRemote (farChecked connect) true (fun _ => (errOk, false)) =
      .ok (farConnected connect).callerInfo := by
    have hfound : ¬ ((!true) = true ∨ (farChecked connect).request.connect = 0) := by
      rintro (hmissing | hnull)
      · exact absurd hmissing (by decide)
      · exact hnotNull hnull
    dsimp only [callRemote]
    rw [show (farChecked connect).request.callerAppId = some [] from rfl,
      show (farChecked connect).request.bundleNames = some [] from rfl]
    dsimp only
    rw [if_neg hfound]
    rfl
  dsimp only [step]
  rw [hthread]
  dsimp only
  rw [if_neg (show ¬ (farChecked connect).connected = true from nofun), hcall]
  rfl

theorem step_record_farConnected
    (hthread : caller.inFlight[thread]? = some (farConnected connect)) :
    (step caller (.record thread : ConnectEvent 100)).2 =
      ConnectCaller.finish thread { caller with
        service := recordPending (farConnected connect) caller.service } := by
  dsimp only [step]
  rw [hthread]
  rfl

theorem answeredUpTo_succ (n : ℕ) :
    answeredUpTo (n + 1) = answeredUpTo n ++ answered 1 (n + 1) := by
  rw [answeredUpTo, List.range_succ, List.flatMap_append, List.flatMap_singleton]
  rfl

theorem run_answered (hdevice : caller.localDeviceId = ['a'])
    (hroom : tracking 100 caller.service < maxDistributedConnectNum)
    (hidle : ∀ thread : ℕ, caller.inFlight[thread]? = none)
    (hnotNull : connect ≠ 0) :
    ∃ inFlight : Std.TreeMap ℕ PendingRequest,
      (∀ thread : ℕ, inFlight[thread]? = none) ∧
      (run step caller (answered 1 connect)).2 = {
        localDeviceId := ['a']
        service := recordPending (farConnected connect) caller.service
        inFlight } := by
  let checked := caller.proceed 1 (farChecked connect)
  let connected := checked.proceed 1 (farConnected connect)
  have hchecked : (step caller (.connect 1 (farRequest connect) rfl :
      ConnectEvent 100)).2 = checked :=
    step_connect_of_room hdevice hroom (hidle 1)
  have hconnected : (step checked (.remoteCalls 1 true fun _ => (errOk, false) :
      ConnectEvent 100)).2 = connected :=
    step_remoteCalls_farChecked hnotNull (by simp [checked])
  have hrecorded := @step_record_farConnected connected 1 connect
    (by simp [connected])
  refine ⟨(connected.finish 1).inFlight, ?_, ?_⟩
  · intro thread
    by_cases hsame : 1 = thread
    · simp [hsame]
    · simp [connected, checked, hsame, hidle thread]
  · rw [answered, run_cons, run_cons, run_cons, hchecked, hconnected, hrecorded,
      ← hdevice]
    rfl

theorem run_answeredUpTo {n : ℕ} (hle : n ≤ maxDistributedConnectNum) :
    ∃ inFlight : Std.TreeMap ℕ PendingRequest,
      (∀ thread : ℕ, inFlight[thread]? = none) ∧
      (run step { localDeviceId := ['a'] } (answeredUpTo n)).2 =
        { localDeviceId := ['a'], service := recordedUpTo n, inFlight } := by
  induction n with
  | zero => exact ⟨∅, fun _ => rfl, rfl⟩
  | succ n ih =>
      obtain ⟨inFlight, hidle, hrun⟩ := ih (Nat.le_of_succ_le hle)
      rw [answeredUpTo_succ, run_append, hrun]
      refine run_answered rfl ?_ hidle (Nat.succ_ne_zero n)
      rw [tracking_recordedUpTo]
      exact hle

def overlapping (n : ℕ) : List (ConnectEvent 100) :=
  [.connect 1 (farRequest (n + 1)) rfl, .connect 2 (farRequest (n + 2)) rfl,
    .remoteCalls 1 true (fun _ => (errOk, false)),
    .remoteCalls 2 true (fun _ => (errOk, false)), .record 1, .record 2]

theorem service_run_overlapping {n : ℕ} (hroom : n < maxDistributedConnectNum)
    {inFlight : Std.TreeMap ℕ PendingRequest}
    (hidle : ∀ thread : ℕ, inFlight[thread]? = none) :
    (run step { localDeviceId := ['a'], service := recordedUpTo n, inFlight }
      (overlapping n)).2.service = recordedUpTo (n + 2) := by
  let before : ConnectCaller :=
    { localDeviceId := ['a'], service := recordedUpTo n, inFlight }
  have htracking : tracking 100 before.service < maxDistributedConnectNum := by
    rw [tracking_recordedUpTo]
    exact hroom
  let one := before.proceed 1 (farChecked (n + 1))
  let two := one.proceed 2 (farChecked (n + 2))
  let three := two.proceed 1 (farConnected (n + 1))
  let four := three.proceed 2 (farConnected (n + 2))
  have hone : (step before (.connect 1 (farRequest (n + 1)) rfl :
      ConnectEvent 100)).2 = one :=
    step_connect_of_room rfl htracking (hidle 1)
  have htwo : (step one (.connect 2 (farRequest (n + 2)) rfl :
      ConnectEvent 100)).2 = two :=
    step_connect_of_room rfl htracking (by simp [one, before, hidle])
  have hthree : (step two (.remoteCalls 1 true fun _ => (errOk, false) :
      ConnectEvent 100)).2 = three :=
    step_remoteCalls_farChecked (Nat.succ_ne_zero n) (by simp [two, one])
  have hfour : (step three (.remoteCalls 2 true fun _ => (errOk, false) :
      ConnectEvent 100)).2 = four :=
    step_remoteCalls_farChecked (Nat.succ_ne_zero _) (by simp [three, two])
  let five := ConnectCaller.finish 1 { four with
    service := recordPending (farConnected (n + 1)) four.service }
  have hfive : (step four (.record 1 : ConnectEvent 100)).2 = five :=
    step_record_farConnected (by simp [four, three])
  have hsix := @step_record_farConnected five 2 (n + 2)
    (by simp [five, four])
  rw [overlapping, run_cons, run_cons, run_cons, run_cons, run_cons, run_cons,
    hone, htwo, hthree, hfour, hfive, hsix]
  rfl

theorem connectsOf_run_overlapping {n : ℕ}
    (hroom : n < maxDistributedConnectNum) :
    connectsOf 100 (run step { localDeviceId := ['a'] }
      (answeredUpTo n ++ overlapping n)).2.service = n + 2 := by
  obtain ⟨inFlight, hidle, hrun⟩ := run_answeredUpTo hroom.le
  have hconnects := (owned_recordedUpTo (n + 2)).tracked 100
  rw [run_append, hrun, service_run_overlapping hroom hidle, ← hconnects]
  exact tracking_recordedUpTo (n + 2)

theorem le_of_meets_overlapping {n : ℕ} (hroom : n < maxDistributedConnectNum)
    (hmeets : Meets (@step 100) LimitHolds { localDeviceId := ['a'] }
      (answeredUpTo n ++ overlapping n)) :
    n + 2 ≤ maxDistributedConnectNum := by
  have hlast : answeredUpTo n ++ overlapping n =
      (answeredUpTo n ++ (overlapping n).dropLast) ++ [.record 2] := by
    rw [List.append_assoc]
    rfl
  have hconnects := connectsOf_run_overlapping hroom
  rw [hlast] at hmeets hconnects
  rw [run_append] at hconnects
  exact hconnects.symm.le.trans hmeets.last.limited

/-- After 599 connects, two requests at a time. -/
theorem not_limitHolds_overlapping :
    ¬ Meets (@step 100) LimitHolds { localDeviceId := ['a'] }
      (answeredUpTo 599 ++ overlapping 599) :=
  mt (@le_of_meets_overlapping 599 (by decide)) (by decide)

end Overlap

end ConnectLimit

end Dmsfwk
