import Dmsfwk.ConnectedAbilities

/-!
# Concurrent connects

The sections of the requests of other devices, taken apart as threads run them.
The iterator of the first look-up is kept across the call of the ability
manager: when it no longer says what the map contains, a wrapper is connected
that the map does not know.
-/

namespace Dmsfwk

open SchedErr OrderedMap

/-! ## The sections -/

structure PendingConnect where
  element : ElementName
  connect : RemoteObject
  callerInfo : CallerInfo
  itConnect : ConnectIterator
  callbackWrapper : CallbackWrapper

def PendingConnect.connectInfo (pending : PendingConnect) : ConnectInfo where
  callerInfo := pending.callerInfo
  callbackWrapper := pending.callbackWrapper
  element := pending.element

namespace ConnectDevice

def lookUpConnect (callingDeviceId : Text) (element : ElementName)
    (connect : RemoteObject) (callerInfo : CallerInfo)
    (checkTargetPermission : Int32) (device : ConnectDevice) :
    Except Int32 PendingConnect × ConnectDevice :=
  let result := device.checkConnect callingDeviceId element connect callerInfo
    checkTargetPermission
  if result ≠ errOk then (.error result, device)
  else
    let ((itConnect, callbackWrapper), callees) :=
      device.callees.findCallback connect callerInfo
    let pending : PendingConnect :=
      { element, connect, callerInfo, itConnect, callbackWrapper }
    (.ok pending, { device with callees := callees })

def callConnect (pending : PendingConnect) (errCode : Int32)
    (device : ConnectDevice) : ConnectDevice :=
  device.callAdapter
    [.connectAbility pending.callbackWrapper pending.element errCode]

def recordPending (pending : PendingConnect) (device : ConnectDevice) :
    ConnectDevice :=
  let recorded := device.callees.recordConnect pending.connect
    pending.callerInfo pending.element pending.itConnect
    pending.callbackWrapper
  { device with callees := recorded }

def takeConnect (connect : RemoteObject) (sourceDeviceId : Text)
    (isLocalCalling : Bool) (device : ConnectDevice) :
    Option CallbackWrapper × ConnectDevice :=
  if connect = 0 then (none, device)
  else if device.localDeviceId = [] ∨ sourceDeviceId = [] ∨
      device.localDeviceId = sourceDeviceId then (none, device)
  else match device.callees.takeCallback connect isLocalCalling with
    | (none, _) => (none, device)
    | (some callbackWrapper, callees) =>
        (some callbackWrapper, { device with callees := callees })

theorem connectAbilityFromRemote_eq (callingDeviceId : Text)
    (element : ElementName) (connect : RemoteObject) (callerInfo : CallerInfo)
    (attempt : ConnectAttempt) (device : ConnectDevice) :
    device.connectAbilityFromRemote callingDeviceId element connect callerInfo
        attempt =
      match device.lookUpConnect callingDeviceId element connect callerInfo
          attempt.checkTargetPermission with
      | (.error result, device) => (result, device)
      | (.ok pending, device) =>
          let called := device.callConnect pending attempt.connectAbility
          if attempt.connectAbility ≠ errOk then
            (attempt.connectAbility, called)
          else (errOk, called.recordPending pending) := by
  unfold connectAbilityFromRemote lookUpConnect
  dsimp only
  split_ifs <;> rfl

theorem disconnectAbilityFromRemote_eq (connect : RemoteObject)
    (sourceDeviceId : Text) (isLocalCalling : Bool) (disconnectAbility : Int32)
    (device : ConnectDevice) :
    device.disconnectAbilityFromRemote connect sourceDeviceId isLocalCalling
        disconnectAbility =
      match device.takeConnect connect sourceDeviceId isLocalCalling with
      | (none, device) => (invalidRemoteParametersErr, device)
      | (some callbackWrapper, device) =>
          (disconnectAbility,
            device.callAdapter [.disconnectAbility callbackWrapper]) := by
  unfold disconnectAbilityFromRemote takeConnect
  split_ifs
  · rfl
  · rfl
  · rcases device.callees.takeCallback connect isLocalCalling with
      ⟨_ | callbackWrapper, callees⟩ <;> rfl

end ConnectDevice

/-! ## Threads -/

/-- Where a request stands: its look-up is done, its wrapper is connected, or
its wrapper is taken out of the map and still to be disconnected. -/
inductive RemoteRequest where
  | found (pending : PendingConnect)
  | connected (pending : PendingConnect)
  | taken (callbackWrapper : CallbackWrapper)

structure ConnectServer where
  device : ConnectDevice
  inFlight : Std.TreeMap ℕ RemoteRequest := ∅

inductive ServerEvent where
  | connect (thread : ℕ) (callingDeviceId : Text) (element : ElementName)
      (connect : RemoteObject) (callerInfo : CallerInfo)
      (checkTargetPermission : Int32)
  | connectAbility (thread : ℕ) (errCode : Int32)
  | record (thread : ℕ)
  | disconnect (thread : ℕ) (connect : RemoteObject) (sourceDeviceId : Text)
      (isLocalCalling : Bool)
  | disconnectAbility (thread : ℕ)

namespace ConnectServer

def finish (thread : ℕ) (device : ConnectDevice) (server : ConnectServer) :
    ConnectServer where
  device := device
  inFlight := server.inFlight.erase thread

def proceed (thread : ℕ) (request : RemoteRequest) (device : ConnectDevice)
    (server : ConnectServer) : ConnectServer where
  device := device
  inFlight := server.inFlight.insert thread request

def next (server : ConnectServer) : ServerEvent → ConnectServer
  | .connect thread callingDeviceId element connect callerInfo
      checkTargetPermission =>
      if thread ∈ server.inFlight then server
      else match server.device.lookUpConnect callingDeviceId element connect
          callerInfo checkTargetPermission with
        | (.error _, device) => { server with device := device }
        | (.ok pending, device) =>
            server.proceed thread (.found pending) device
  | .connectAbility thread errCode =>
      match server.inFlight[thread]? with
      | some (.found pending) =>
          let device := server.device.callConnect pending errCode
          if errCode ≠ errOk then server.finish thread device
          else server.proceed thread (.connected pending) device
      | _ => server
  | .record thread =>
      match server.inFlight[thread]? with
      | some (.connected pending) =>
          server.finish thread (server.device.recordPending pending)
      | _ => server
  | .disconnect thread connect sourceDeviceId isLocalCalling =>
      if thread ∈ server.inFlight then server
      else match server.device.takeConnect connect sourceDeviceId
          isLocalCalling with
        | (none, device) => { server with device := device }
        | (some callbackWrapper, device) =>
            server.proceed thread (.taken callbackWrapper) device
  | .disconnectAbility thread =>
      match server.inFlight[thread]? with
      | some (.taken callbackWrapper) =>
          server.finish thread (server.device.callAdapter
            [.disconnectAbility callbackWrapper])
      | _ => server

def step (server : ConnectServer) (event : ServerEvent) :
    Unit × ConnectServer :=
  ((), server.next event)

/-! ## What a run should keep -/

def callbackOf (server : ConnectServer) (connect : RemoteObject) :
    Option CallbackWrapper :=
  (server.device.callees.connectAbilityMap[connect]?).map (·.callbackWrapper)

end ConnectServer

/-- The ability manager has connected the wrapper, and was not told since to
disconnect it. -/
def stillConnected (callback : CallbackWrapper) (calls : List ConnectCall) :
    Bool :=
  calls.foldl (fun connected call =>
    match call with
    | .connectAbility other _ errCode =>
        if other = callback ∧ errCode = errOk then true else connected
    | .disconnectAbility other =>
        if other = callback then false else connected) false

namespace ConnectServer

def NoOrphan (server : ConnectServer) : Prop :=
  (∀ thread : ℕ, server.inFlight[thread]? = none) →
    ∀ callback, stillConnected callback server.device.adapterCalls = true →
      server.callbackOf callback.connection = some callback

def DecidesByMap (server : ConnectServer) (event : ServerEvent) : Prop :=
  ∀ thread pending, event = .record thread →
    server.inFlight[thread]? = some (.connected pending) →
      ∀ other : RemoteObject,
        (server.next event).device.callees.connectAbilityMap[other]? =
          if pending.connect = other then
            some ((server.device.callees.connectAbilityMap[
              pending.connect]?).getD pending.connectInfo)
          else server.device.callees.connectAbilityMap[other]?

def foundBy (server : ConnectServer) (thread : ℕ) : Option PendingConnect :=
  match server.inFlight[thread]? with
  | some (.found pending) => some pending
  | _ => none

def connectedBy (server : ConnectServer) (thread : ℕ) : Option PendingConnect :=
  match server.inFlight[thread]? with
  | some (.connected pending) => some pending
  | _ => none

/-- A wrapper is connected for a harmony caller only, and one that was found in
the map is still there; a request records just when its look-up found no entry
and there is still none. -/
def Guard (server : ConnectServer) : ServerEvent → Prop
  | .connectAbility thread errCode => errCode = errOk →
      ∀ pending ∈ server.foundBy thread,
        pending.callerInfo.callerType = callerTypeHarmony ∧
          (pending.itConnect = .atEntry →
            server.callbackOf pending.connect = some pending.callbackWrapper)
  | .record thread => ∀ pending ∈ server.connectedBy thread,
      (pending.itConnect = .atEnd ↔ server.callbackOf pending.connect = none)
  | _ => True

instance (server : ConnectServer) (event : ServerEvent) :
    Decidable (server.Guard event) := by
  cases event <;> unfold Guard <;> infer_instance

/-! ## Connected wrappers -/

section Wrappers

variable {server : ConnectServer} {callback : CallbackWrapper}
  {calls : List ConnectCall}

theorem stillConnected_connect (other : CallbackWrapper) (element : ElementName)
    (errCode : Int32) :
    stillConnected callback
        (calls ++ [.connectAbility other element errCode]) =
      if other = callback ∧ errCode = errOk then true
      else stillConnected callback calls := by
  rw [stillConnected, List.foldl_append]
  rfl

theorem stillConnected_disconnect (other : CallbackWrapper) :
    stillConnected callback (calls ++ [.disconnectAbility other]) =
      if other = callback then false else stillConnected callback calls := by
  rw [stillConnected, List.foldl_append]
  rfl

/-- A connected wrapper is in the map, or a request has it that will put it
there, or one that will disconnect it. -/
def Held (server : ConnectServer) (callback : CallbackWrapper) : Prop :=
  server.callbackOf callback.connection = some callback ∨
    (∃ (thread : ℕ) (pending : PendingConnect),
      server.inFlight[thread]? = some (.connected pending) ∧
        pending.itConnect = .atEnd ∧ pending.callbackWrapper = callback) ∨
    ∃ thread : ℕ, server.inFlight[thread]? = some (.taken callback)

structure Tracked (server : ConnectServer) : Prop where
  entries : ∀ (connect : RemoteObject) (callback : CallbackWrapper),
    server.callbackOf connect = some callback → callback.connection = connect
  requests : ∀ (thread : ℕ) (pending : PendingConnect),
    server.inFlight[thread]? = some (.found pending) ∨
      server.inFlight[thread]? = some (.connected pending) →
    pending.callbackWrapper.connection = pending.connect ∧
      (pending.callerInfo.callerType = callerTypeHarmony →
        pending.itConnect ≠ .unset)
  held : ∀ callback,
    stillConnected callback server.device.adapterCalls = true →
      server.Held callback

theorem Tracked.noOrphan (htracked : Tracked server) : server.NoOrphan := by
  intro hidle callback hconnected
  rcases htracked.held callback hconnected with
    hmap | ⟨thread, pending, hthread, -⟩ | ⟨thread, hthread⟩
  · exact hmap
  · rw [hidle thread] at hthread
    cases hthread
  · rw [hidle thread] at hthread
    cases hthread

/-! ## One section -/

variable {thread : ℕ} {request : RemoteRequest} {device : ConnectDevice}

theorem inFlight_proceed (other : ℕ) :
    (server.proceed thread request device).inFlight[other]? =
      if thread = other then some request else server.inFlight[other]? :=
  getElem?_insert_eq thread other request

theorem inFlight_finish (other : ℕ) :
    (server.finish thread device).inFlight[other]? =
      if thread = other then none else server.inFlight[other]? :=
  getElem?_erase_eq thread other

theorem inFlight_proceed_of_ne (other : ℕ) (hother : other ≠ thread) :
    (server.proceed thread request device).inFlight[other]? =
      server.inFlight[other]? := by
  rw [inFlight_proceed, if_neg (Ne.symm hother)]

theorem inFlight_finish_of_ne (other : ℕ) (hother : other ≠ thread) :
    (server.finish thread device).inFlight[other]? =
      server.inFlight[other]? := by
  rw [inFlight_finish, if_neg (Ne.symm hother)]

section Held

variable (thread : ℕ) {after : ConnectServer} (hheld : server.Held callback)
  (hmap : server.callbackOf callback.connection = some callback → after.Held callback)
  (hothers : ∀ other : ℕ, other ≠ thread → after.inFlight[other]? = server.inFlight[other]?)

include hheld hmap hothers

theorem Held.of_others
    (hconnected : ∀ pending, server.inFlight[thread]? =
        some (.connected pending) → pending.itConnect = .atEnd →
      pending.callbackWrapper = callback → after.Held callback)
    (htaken : server.inFlight[thread]? = some (.taken callback) →
      after.Held callback) : after.Held callback := by
  rcases hheld with hheld | ⟨other, pending, hother, hend, hwrapper⟩ |
    ⟨other, hother⟩
  · exact hmap hheld
  · by_cases hsame : other = thread
    · subst hsame
      exact hconnected pending hother hend hwrapper
    · right
      left
      exact ⟨other, pending, (hothers other hsame).trans hother, hend, hwrapper⟩
  · by_cases hsame : other = thread
    · subst hsame
      exact htaken hother
    · right
      right
      exact ⟨other, (hothers other hsame).trans hother⟩

theorem Held.of_unheld
    (hunheld : ∀ request ∈ server.inFlight[thread]?,
      (∀ pending, request ≠ .connected pending) ∧
        request ≠ .taken callback) : after.Held callback := by
  apply hheld.of_others thread hmap hothers
  · intro pending hconnected
    exact absurd rfl ((hunheld _ hconnected).1 pending)
  · intro htaken
    exact absurd rfl (hunheld _ htaken).2

end Held

theorem inFlight_of_not_mem (hthread : thread ∉ server.inFlight) :
    server.inFlight[thread]? = none :=
  Std.TreeMap.getElem?_eq_none hthread

theorem Tracked.requests_proceed (htracked : Tracked server)
    (hrequest : ∀ pending, request = .found pending ∨
        request = .connected pending →
      pending.callbackWrapper.connection = pending.connect ∧
        (pending.callerInfo.callerType = callerTypeHarmony →
          pending.itConnect ≠ .unset))
    (other : ℕ) (pending : PendingConnect)
    (hother : (server.proceed thread request device).inFlight[other]? =
        some (.found pending) ∨
      (server.proceed thread request device).inFlight[other]? =
        some (.connected pending)) :
    pending.callbackWrapper.connection = pending.connect ∧
      (pending.callerInfo.callerType = callerTypeHarmony →
        pending.itConnect ≠ .unset) := by
  simp only [inFlight_proceed] at hother
  by_cases hsame : thread = other
  · simp only [if_pos hsame, Option.some.injEq] at hother
    exact hrequest pending hother
  · simp only [if_neg hsame] at hother
    exact htracked.requests other pending hother

theorem Tracked.requests_finish (htracked : Tracked server) (other : ℕ)
    (pending : PendingConnect)
    (hother : (server.finish thread device).inFlight[other]? =
        some (.found pending) ∨
      (server.finish thread device).inFlight[other]? =
        some (.connected pending)) :
    pending.callbackWrapper.connection = pending.connect ∧
      (pending.callerInfo.callerType = callerTypeHarmony →
        pending.itConnect ≠ .unset) := by
  simp only [inFlight_finish] at hother
  by_cases hsame : thread = other
  · simp only [if_pos hsame] at hother
    rcases hother with hother | hother <;> cases hother
  · simp only [if_neg hsame] at hother
    exact htracked.requests other pending hother

theorem lookUpConnect_cases (callingDeviceId : Text) (element : ElementName)
    (connect : RemoteObject) (callerInfo : CallerInfo)
    (checkTargetPermission : Int32) (device : ConnectDevice) :
    (∃ result, device.lookUpConnect callingDeviceId element connect callerInfo
        checkTargetPermission = (.error result, device)) ∨
    ∃ pending found, device.lookUpConnect callingDeviceId element connect
        callerInfo checkTargetPermission = (.ok pending, found) ∧
      found.callees.connectAbilityMap = device.callees.connectAbilityMap ∧
      found.adapterCalls = device.adapterCalls ∧
      pending.connect = connect ∧ pending.callerInfo = callerInfo ∧
      (callerInfo.callerType = callerTypeHarmony →
        pending.itConnect ≠ .unset) ∧
      (pending.callbackWrapper.connection = connect ∨
        ∃ connectInfo, device.callees.connectAbilityMap[connect]? =
          some connectInfo ∧
          pending.callbackWrapper = connectInfo.callbackWrapper) := by
  unfold ConnectDevice.lookUpConnect
  by_cases hchecked : device.checkConnect callingDeviceId element connect
      callerInfo checkTargetPermission ≠ errOk
  · left
    exact ⟨_, if_pos hchecked⟩
  · right
    dsimp only
    rw [if_neg hchecked]
    refine ⟨_, _, rfl, ?_⟩
    unfold ConnectedAbilities.findCallback
    by_cases hharmony : callerInfo.callerType = callerTypeHarmony
    · rw [if_pos hharmony]
      cases hentry : device.callees.connectAbilityMap[connect]? with
      | none => exact ⟨rfl, rfl, rfl, rfl, fun _ => nofun, .inl rfl⟩
      | some connectInfo =>
          exact ⟨rfl, rfl, rfl, rfl, fun _ => nofun,
            .inr ⟨connectInfo, rfl, rfl⟩⟩
    · rw [if_neg hharmony]
      exact ⟨rfl, rfl, rfl, rfl, fun hcaller => absurd hcaller hharmony,
        .inl rfl⟩

theorem Tracked.connect (htracked : Tracked server) (thread : ℕ)
    (callingDeviceId : Text) (element : ElementName) (connect : RemoteObject)
    (callerInfo : CallerInfo) (checkTargetPermission : Int32) :
    Tracked (server.next (.connect thread callingDeviceId element connect
      callerInfo checkTargetPermission)) := by
  simp only [next]
  split_ifs with hthread
  · exact htracked
  have hfree := inFlight_of_not_mem hthread
  rcases lookUpConnect_cases callingDeviceId element connect callerInfo
    checkTargetPermission server.device with
    ⟨result, hlookUp⟩ | ⟨pending, found, hlookUp, hmap, hcalls, hconnect,
      hcaller, hunset, hwrapper⟩
  · rw [hlookUp]
    exact htracked
  · rw [hlookUp]
    have hsame : ∀ other, (server.proceed thread (.found pending)
        found).callbackOf other = server.callbackOf other := by
      intro other
      unfold callbackOf proceed
      rw [hmap]
    constructor
    · intro other callback hcallback
      rw [hsame] at hcallback
      exact htracked.entries other callback hcallback
    · apply htracked.requests_proceed
      rintro _ (hpending | hpending)
      · cases hpending
        constructor
        · rcases hwrapper with hwrapper | ⟨connectInfo, hentry, hwrapper⟩
          · rw [hwrapper, hconnect]
          · apply htracked.entries
            rw [hconnect, hwrapper, callbackOf, hentry]
            rfl
        · rw [hcaller]
          exact hunset
      · cases hpending
    · intro callback hconnected
      have hbefore : stillConnected callback server.device.adapterCalls =
          true := by
        rw [← hcalls]
        exact hconnected
      apply Held.of_unheld thread (htracked.held callback hbefore)
      · intro hrecorded
        left
        rw [hsame]
        exact hrecorded
      · exact inFlight_proceed_of_ne
      · rw [hfree]
        nofun

theorem Tracked.connectAbility (htracked : Tracked server) {errCode : Int32}
    (hguard : Guard server (.connectAbility thread errCode)) :
    Tracked (server.next (.connectAbility thread errCode)) := by
  simp only [next]
  split
  · next pending hpending =>
      obtain ⟨hconnection, hunset⟩ :=
        htracked.requests thread pending (.inl hpending)
      have hfound : pending ∈ server.foundBy thread := by
        rw [foundBy, hpending]
        exact Option.mem_some_self pending
      split_ifs with hfailed
      · refine ⟨htracked.entries, htracked.requests_finish, ?_⟩
        intro callback hconnected
        change stillConnected callback (server.device.adapterCalls ++ _) = true
          at hconnected
        rw [stillConnected_connect, if_neg (fun hok => hfailed hok.2)]
          at hconnected
        apply Held.of_unheld thread
          (htracked.held callback hconnected)
        · exact .inl
        · exact inFlight_finish_of_ne
        · rw [hpending]
          rintro _ ⟨⟩
          exact ⟨nofun, nofun⟩
      · obtain ⟨hharmony, hentry⟩ :=
          hguard (not_not.mp hfailed) pending hfound
        refine ⟨htracked.entries, ?_, ?_⟩
        · apply htracked.requests_proceed
          rintro _ (hrequest | hrequest)
          · cases hrequest
          · cases hrequest
            exact ⟨hconnection, hunset⟩
        · intro callback hconnected
          change stillConnected callback (server.device.adapterCalls ++ _) =
            true at hconnected
          rw [stillConnected_connect] at hconnected
          by_cases hsame : pending.callbackWrapper = callback
          · -- the wrapper just connected
            subst hsame
            cases hit : pending.itConnect with
            | unset => exact absurd hit (hunset hharmony)
            | atEnd =>
                right
                left
                refine ⟨thread, pending, ?_, hit, rfl⟩
                rw [inFlight_proceed, if_pos rfl]
            | atEntry =>
                left
                rw [hconnection]
                exact hentry hit
          · rw [if_neg (fun hok => hsame hok.1)] at hconnected
            apply Held.of_unheld thread
              (htracked.held callback hconnected)
            · exact .inl
            · exact inFlight_proceed_of_ne
            · rw [hpending]
              rintro _ ⟨⟩
              exact ⟨nofun, nofun⟩
  · exact htracked

theorem callbackOf_recordPending (pending : PendingConnect)
    (hguard : pending.itConnect = .atEnd ↔
      server.callbackOf pending.connect = none) (connect : RemoteObject) :
    (server.finish thread
        (server.device.recordPending pending)).callbackOf connect =
      if pending.itConnect = .atEnd ∧ pending.connect = connect then
        some pending.callbackWrapper
      else server.callbackOf connect := by
  unfold callbackOf finish ConnectDevice.recordPending
    ConnectedAbilities.recordConnect
  dsimp only
  by_cases hend : pending.itConnect = .atEnd
  · have hnew := hguard.mp hend
    rw [callbackOf, Option.map_eq_none_iff] at hnew
    rw [if_pos hend, getElem?_insertIfNew_eq hnew]
    by_cases hsame : pending.connect = connect
    · rw [if_pos hsame, if_pos ⟨hend, hsame⟩]
      rfl
    · rw [if_neg hsame, if_neg (fun hboth => hsame hboth.2)]
  · rw [if_neg hend, if_neg (fun hboth => hend hboth.1)]

theorem Tracked.record (htracked : Tracked server)
    (hguard : Guard server (.record thread)) :
    Tracked (server.next (.record thread)) := by
  simp only [next]
  split
  · next pending hpending =>
      obtain ⟨hconnection, -⟩ :=
        htracked.requests thread pending (.inr hpending)
      have hmem : pending ∈ server.connectedBy thread := by
        rw [connectedBy, hpending]
        exact Option.mem_some_self pending
      have hend := hguard pending hmem
      have hmap := @callbackOf_recordPending server thread pending hend
      refine ⟨?_, htracked.requests_finish, ?_⟩
      · intro connect callback hcallback
        rw [hmap] at hcallback
        split_ifs at hcallback with hnew
        · cases hcallback
          rw [hconnection, hnew.2]
        · exact htracked.entries connect callback hcallback
      · intro callback hconnected
        apply Held.of_others thread
          (htracked.held callback hconnected)
        · intro hrecorded
          left
          rw [hmap, if_neg]
          · exact hrecorded
          · rintro ⟨hatEnd, hsame⟩
            rw [← hsame, hend.mp hatEnd] at hrecorded
            cases hrecorded
        · exact inFlight_finish_of_ne
        · intro other hother hatEnd hwrapper
          rw [hpending] at hother
          cases hother
          left
          have hsame : pending.connect = callback.connection := by
            rw [← hwrapper, hconnection]
          rw [hmap, if_pos ⟨hatEnd, hsame⟩, hwrapper]
        · intro hother
          rw [hpending] at hother
          cases hother
  · exact htracked

theorem takeConnect_cases (connect : RemoteObject) (sourceDeviceId : Text)
    (isLocalCalling : Bool) (device : ConnectDevice) :
    device.takeConnect connect sourceDeviceId isLocalCalling = (none, device) ∨
    ∃ callback taken, device.takeConnect connect sourceDeviceId
        isLocalCalling = (some callback, taken) ∧
      taken.adapterCalls = device.adapterCalls ∧
      (∀ other : RemoteObject,
        taken.callees.connectAbilityMap[other]? =
          if connect = other then none
          else device.callees.connectAbilityMap[other]?) ∧
      ∀ connectInfo, device.callees.connectAbilityMap[connect]? =
        some connectInfo → connectInfo.callbackWrapper = callback := by
  unfold ConnectDevice.takeConnect
  split_ifs
  · left
    rfl
  · left
    rfl
  · unfold ConnectedAbilities.takeCallback
    cases hentry : device.callees.connectAbilityMap[connect]? with
    | none =>
        by_cases hlocal : isLocalCalling
        · right
          rw [if_pos hlocal]
          refine ⟨_, _, rfl, rfl, ?_, nofun⟩
          intro other
          split_ifs with hsame
          · rw [← hsame]
            exact hentry
          · rfl
        · left
          rw [if_neg hlocal]
    | some connectInfo =>
        right
        refine ⟨_, _, rfl, rfl, fun other => getElem?_erase_eq connect other, ?_⟩
        intro found hfound
        cases hfound
        rfl

theorem Tracked.disconnect (htracked : Tracked server) (thread : ℕ)
    (connect : RemoteObject) (sourceDeviceId : Text) (isLocalCalling : Bool) :
    Tracked (server.next (.disconnect thread connect sourceDeviceId
      isLocalCalling)) := by
  simp only [next]
  split_ifs with hthread
  · exact htracked
  have hfree := inFlight_of_not_mem hthread
  rcases takeConnect_cases connect sourceDeviceId isLocalCalling server.device
    with htake | ⟨callback, taken, htake, hcalls, hmap, hcallback⟩
  · rw [htake]
    exact htracked
  · rw [htake]
    have hleft : ∀ other, (server.proceed thread (.taken callback)
        taken).callbackOf other =
          if connect = other then none else server.callbackOf other := by
      intro other
      unfold callbackOf proceed
      rw [hmap]
      split_ifs <;> rfl
    constructor
    · intro other found hfound
      rw [hleft] at hfound
      split_ifs at hfound
      exact htracked.entries other found hfound
    · apply htracked.requests_proceed
      rintro _ (hrequest | hrequest) <;> cases hrequest
    · intro found hconnected
      have hbefore : stillConnected found server.device.adapterCalls = true := by
        rw [← hcalls]
        exact hconnected
      apply Held.of_unheld thread (htracked.held found hbefore)
      · intro hrecorded
        by_cases hsame : connect = found.connection
        · -- the wrapper that was taken out of the map
          rw [← hsame, callbackOf, Option.map_eq_some_iff] at hrecorded
          obtain ⟨connectInfo, hentry, hwrapper⟩ := hrecorded
          rw [hcallback connectInfo hentry] at hwrapper
          right
          right
          refine ⟨thread, ?_⟩
          rw [inFlight_proceed, if_pos rfl, hwrapper]
        · left
          rw [hleft, if_neg hsame]
          exact hrecorded
      · exact inFlight_proceed_of_ne
      · rw [hfree]
        nofun

theorem Tracked.disconnectAbility (htracked : Tracked server) (thread : ℕ) :
    Tracked (server.next (.disconnectAbility thread)) := by
  simp only [next]
  split
  · next taken htaken =>
      refine ⟨htracked.entries, htracked.requests_finish, ?_⟩
      intro callback hconnected
      change stillConnected callback (server.device.adapterCalls ++ _) = true
        at hconnected
      rw [stillConnected_disconnect] at hconnected
      split_ifs at hconnected with hsame
      apply Held.of_unheld thread
        (htracked.held callback hconnected)
      · exact .inl
      · exact inFlight_finish_of_ne
      · rw [htaken]
        rintro _ ⟨⟩
        refine ⟨nofun, ?_⟩
        rintro ⟨⟩
        exact hsame rfl
  · exact htracked

theorem Tracked.afterStep (htracked : Tracked server) {event : ServerEvent}
    (hguard : Guard server event) : Tracked (server.step event).2 := by
  cases event with
  | connect thread callingDeviceId element connect callerInfo
      checkTargetPermission =>
      exact htracked.connect thread callingDeviceId element connect callerInfo
        checkTargetPermission
  | connectAbility thread errCode => exact htracked.connectAbility hguard
  | record thread => exact htracked.record hguard
  | disconnect thread connect sourceDeviceId isLocalCalling =>
      exact htracked.disconnect thread connect sourceDeviceId isLocalCalling
  | disconnectAbility thread => exact htracked.disconnectAbility thread

theorem tracked_initial (device : ConnectDevice)
    (hdevice : device.callees = {} ∧ device.adapterCalls = []) :
    Tracked { device := device } := by
  obtain ⟨hcallees, hcalls⟩ := hdevice
  constructor
  · intro connect callback hcallback
    rw [callbackOf, hcallees] at hcallback
    cases hcallback
  · rintro thread pending (hthread | hthread) <;> cases hthread
  · intro callback hconnected
    rw [hcalls] at hconnected
    cases hconnected

theorem decidesByMap_of_guard {event : ServerEvent}
    (hguard : Guard server event) : server.DecidesByMap event := by
  rintro thread pending rfl hpending other
  have hmem : pending ∈ server.connectedBy thread := by
    rw [connectedBy, hpending]
    exact Option.mem_some_self pending
  have hend := hguard pending hmem
  rw [callbackOf, Option.map_eq_none_iff] at hend
  simp only [next, hpending]
  unfold finish ConnectDevice.recordPending ConnectedAbilities.recordConnect
  dsimp only
  by_cases hatEnd : pending.itConnect = .atEnd
  · have hnew := hend.mp hatEnd
    rw [if_pos hatEnd, getElem?_insertIfNew_eq hnew, hnew]
    rfl
  · obtain ⟨connectInfo, hentry⟩ :=
      Option.ne_none_iff_exists'.mp (fun hnone => hatEnd (hend.mpr hnone))
    rw [if_neg hatEnd, hentry]
    split_ifs with hsame
    · rw [← hsame, hentry]
      rfl
    · rfl

end Wrappers

/-- In a run whose look-ups still hold when their requests go on, no wrapper is
orphaned, and what is recorded is decided by the map. -/
theorem noOrphan_run (localDeviceId : Text) (events : List ServerEvent)
    (hmeets : EventRun.Meets step Guard
      { device := { localDeviceId := localDeviceId } } events) :
    (EventRun.run step { device := { localDeviceId := localDeviceId } }
        events).2.NoOrphan ∧
      EventRun.Meets step DecidesByMap
        { device := { localDeviceId := localDeviceId } } events := by
  have hstep : ∀ server event, Tracked server → Guard server event →
      Tracked (step server event).2 :=
    fun _ _ htracked hguard => htracked.afterStep hguard
  have hstart : Tracked { device := { localDeviceId := localDeviceId } } :=
    tracked_initial _ ⟨rfl, rfl⟩
  constructor
  · exact (hmeets.invariant hstep hstart).noOrphan
  · exact hmeets.guarantee (fun _ _ _ hguard => decidesByMap_of_guard hguard)
      hstep hstart

/-- A request of a harmony caller on device `a` to the device `b`. -/
def harmonyConnect (thread : ℕ) (connect : RemoteObject) : ServerEvent :=
  .connect thread "a".toList { deviceId := "b".toList } connect
    { uid := 100, callerType := callerTypeHarmony
      sourceDeviceId := "a".toList } errOk

/-- A second request joins the connect of the first one, while another connect
is refused; then the first connect is given up. -/
def sampleEvents : List ServerEvent :=
  [harmonyConnect 1 7, harmonyConnect 2 8, .connectAbility 1 errOk,
    .connectAbility 2 errInvalidValue, .record 1, harmonyConnect 3 7,
    .connectAbility 3 errOk, .record 3,
    .disconnect 4 7 "a".toList false, .disconnectAbility 4]

theorem noOrphan_sampleEvents :
    (EventRun.Meets step Guard { device := { localDeviceId := "b".toList } }
        sampleEvents ∧
      (EventRun.run step { device := { localDeviceId := "b".toList } }
        sampleEvents).2.device.adapterCalls.length = 4) ∧
      (EventRun.run step { device := { localDeviceId := "b".toList } }
        sampleEvents).2.NoOrphan ∧
      EventRun.Meets step DecidesByMap
        { device := { localDeviceId := "b".toList } } sampleEvents := by
  have hmeets : EventRun.Meets step Guard
      { device := { localDeviceId := "b".toList } } sampleEvents := by
    decide +kernel
  exact ⟨⟨hmeets, by decide +kernel⟩,
    noOrphan_run "b".toList sampleEvents hmeets⟩

def twoLookUpEvents : List ServerEvent :=
  [harmonyConnect 1 7, harmonyConnect 2 7, .connectAbility 1 errOk,
    .connectAbility 2 errOk, .record 1, .record 2]

theorem not_noOrphan_twoLookUpEvents :
    ¬ (EventRun.run step { device := { localDeviceId := "b".toList } }
      twoLookUpEvents).2.NoOrphan := by
  intro horphan
  have hidle : (EventRun.run step { device := { localDeviceId := "b".toList } }
      twoLookUpEvents).2.inFlight.keys = [] := by
    decide +kernel
  have hmap := horphan ?_ (.stub 7 1) (by decide +kernel)
  · revert hmap
    decide +kernel
  · intro thread
    apply Std.TreeMap.getElem?_eq_none
    rw [← Std.TreeMap.mem_keys, hidle]
    exact List.not_mem_nil

end ConnectServer

end Dmsfwk
