import Dmsfwk.ConnectedAbilities
import Dmsfwk.ConnectCounting

/-!
# Both devices know the same connections

For each connect the device of the caller has one session to the other device
just when the other device has an entry for it, and both were made for the same
process.  Whatever ends the one therefore ends the other, a notification about
a process included, which names no connect.
-/

namespace Dmsfwk

open SchedErr OrderedMap

/-! ## What the sections do to one connect -/

section Sections

namespace DistributedSchedService

variable {service : DistributedSchedService} {connect : RemoteObject}

theorem getElem?_remoteConnectAbilityMapping (hconnect : connect ≠ 0)
    (localDeviceId remoteDeviceId : Text) (element : ElementName)
    (callerInfo : CallerInfo) (targetComponent : TargetComponent)
    (other : RemoteObject) :
    (remoteConnectAbilityMappingLocked connect localDeviceId remoteDeviceId
        element callerInfo targetComponent
        service).distributedConnectAbilityMap[other]? =
      if connect = other then
        some (addToSession localDeviceId remoteDeviceId element callerInfo
          targetComponent
          ((service.distributedConnectAbilityMap[connect]?).getD []))
      else service.distributedConnectAbilityMap[other]? := by
  unfold remoteConnectAbilityMappingLocked
  rw [if_neg hconnect]
  cases hsessions : service.distributedConnectAbilityMap[connect]? <;>
    simp only [getElem?_insert_eq, hsessions]

theorem getElem?_eraseConnect (other : RemoteObject) :
    (eraseConnect connect service).distributedConnectAbilityMap[other]? =
      if connect = other then none
      else service.distributedConnectAbilityMap[other]? :=
  getElem?_erase_eq connect other

@[simp] theorem distributedConnectAbilityMap_removeDeathRecipient :
    (removeDeathRecipient connect service).distributedConnectAbilityMap =
      service.distributedConnectAbilityMap := rfl

def ledBy (callerInfo : CallerInfo) (sessionsList : SessionsList) : Bool :=
  sessionsList.head?.any fun session => session.isSameCaller callerInfo

theorem ledBy_cons (callerInfo : CallerInfo) (first : ConnectAbilitySession)
    (rest : SessionsList) :
    ledBy callerInfo (first :: rest) = first.isSameCaller callerInfo := rfl

theorem getElem?_removeCaller (callerInfo : CallerInfo)
    (state : List ProcessDiedNotifyInfo × DistributedSchedService)
    (other : RemoteObject) :
    (removeCaller callerInfo connect
        state).2.distributedConnectAbilityMap[other]? =
      if connect = other then
        (state.2.distributedConnectAbilityMap[other]?).filter
          fun sessionsList => !ledBy callerInfo sessionsList
      else state.2.distributedConnectAbilityMap[other]? := by
  unfold removeCaller
  split
  · next hnone =>
      split_ifs with hsame
      · rw [← hsame, hnone]
        rfl
      · rfl
  · next hnil =>
      split_ifs with hsame
      · rw [← hsame, hnil]
        rfl
      · rfl
  · next first rest hsessions =>
      by_cases hcaller : first.isSameCaller callerInfo
      · rw [if_pos hcaller, getElem?_eraseConnect]
        split_ifs with hsame
        · rw [← hsame, hsessions, Option.filter_some, ledBy_cons, hcaller]
          rfl
        · simp
        · simp
      · rw [if_neg hcaller]
        split_ifs with hsame
        · rw [← hsame, hsessions, Option.filter_some, ledBy_cons]
          simp [hcaller]
        · rfl

theorem getElem?_foldl_removeCaller (callerInfo : CallerInfo)
    (connects : List RemoteObject)
    (state : List ProcessDiedNotifyInfo × DistributedSchedService)
    (other : RemoteObject) :
    (connects.foldl (fun state connect => removeCaller callerInfo connect state)
        state).2.distributedConnectAbilityMap[other]? =
      if other ∈ connects then
        (state.2.distributedConnectAbilityMap[other]?).filter
          fun sessionsList => !ledBy callerInfo sessionsList
      else state.2.distributedConnectAbilityMap[other]? := by
  induction connects generalizing state with
  | nil => simp
  | cons connect connects ih =>
      rw [List.foldl_cons, ih, getElem?_removeCaller]
      by_cases hsame : connect = other
      · simp [hsame, Option.filter_filter]
      · simp [hsame, Ne.symm hsame]

section NotifyList

variable (callerInfo : CallerInfo) (notifyList : List ProcessDiedNotifyInfo)

theorem subset_addNotifyInfo (session : ConnectAbilitySession) :
    notifyList ⊆ addNotifyInfo callerInfo notifyList session := by
  unfold addNotifyInfo
  split_ifs
  · exact List.Subset.refl notifyList
  · exact List.subset_append_left _ _

theorem subset_foldl_addNotifyInfo (sessionsList : SessionsList) :
    notifyList ⊆ sessionsList.foldl (addNotifyInfo callerInfo) notifyList := by
  induction sessionsList generalizing notifyList with
  | nil => exact List.Subset.refl notifyList
  | cons session sessionsList ih =>
      exact List.Subset.trans
        (subset_addNotifyInfo callerInfo notifyList session) (ih _)

theorem notified_addNotifyInfo (session : ConnectAbilitySession) :
    ∃ info ∈ addNotifyInfo callerInfo notifyList session,
      info.remoteDeviceId = session.destinationDeviceId := by
  unfold addNotifyInfo
  split_ifs with hany
  · obtain ⟨info, hinfo, hdevice⟩ := List.any_eq_true.mp hany
    simp only [Bool.and_eq_true, decide_eq_true_eq] at hdevice
    exact ⟨info, hinfo, hdevice.1⟩
  · exact ⟨_, List.mem_append_right _ (List.mem_singleton_self _), rfl⟩

end NotifyList

theorem callerInfo_foldl_addNotifyInfo {callerInfo : CallerInfo}
    {notifyList : List ProcessDiedNotifyInfo}
    (hcallers : ∀ info ∈ notifyList, info.callerInfo = callerInfo)
    (sessionsList : SessionsList) :
    ∀ info ∈ sessionsList.foldl (addNotifyInfo callerInfo) notifyList,
      info.callerInfo = callerInfo := by
  induction sessionsList generalizing notifyList with
  | nil => exact hcallers
  | cons session sessionsList ih =>
      apply ih
      intro info hinfo
      unfold addNotifyInfo at hinfo
      split_ifs at hinfo
      · exact hcallers info hinfo
      · rcases List.mem_append.mp hinfo with hinfo | hinfo
        · exact hcallers info hinfo
        · rw [List.mem_singleton.mp hinfo]

theorem callerInfo_foldl_removeCaller {callerInfo : CallerInfo}
    {state : List ProcessDiedNotifyInfo × DistributedSchedService}
    (hcallers : ∀ info ∈ state.1, info.callerInfo = callerInfo)
    (connects : List RemoteObject) :
    ∀ info ∈ (connects.foldl
        (fun state connect => removeCaller callerInfo connect state) state).1,
      info.callerInfo = callerInfo := by
  induction connects generalizing state with
  | nil => exact hcallers
  | cons connect connects ih =>
      apply ih
      change ∀ info ∈ (removeCaller callerInfo connect state).1, _
      unfold removeCaller
      split
      · exact hcallers
      · exact hcallers
      · split_ifs
        · exact callerInfo_foldl_addNotifyInfo hcallers _
        · exact callerInfo_foldl_addNotifyInfo hcallers _
        · exact hcallers

theorem notified_foldl_removeCaller {callerInfo : CallerInfo}
    {first : ConnectAbilitySession} {rest : SessionsList}
    {state : List ProcessDiedNotifyInfo × DistributedSchedService}
    (hstate : state.2.distributedConnectAbilityMap[connect]? =
        some (first :: rest) ∨
      ∃ info ∈ state.1, info.remoteDeviceId = first.destinationDeviceId)
    (connects : List RemoteObject) :
    (connects.foldl (fun state connect => removeCaller callerInfo connect state)
        state).2.distributedConnectAbilityMap[connect]? =
        some (first :: rest) ∨
      ∃ info ∈ (connects.foldl
          (fun state connect => removeCaller callerInfo connect state) state).1,
        info.remoteDeviceId = first.destinationDeviceId := by
  induction connects generalizing state with
  | nil => exact hstate
  | cons other connects ih =>
      apply ih
      rcases hstate with hsessions | ⟨info, hinfo, hdevice⟩
      · rw [getElem?_removeCaller]
        by_cases hsame : other = connect
        · subst hsame
          by_cases hcaller : first.isSameCaller callerInfo
          · right
            obtain ⟨info, hinfo, hdevice⟩ :=
              notified_addNotifyInfo callerInfo state.1 first
            refine ⟨info, ?_, hdevice⟩
            change info ∈ (removeCaller callerInfo other state).1
            unfold removeCaller
            rw [hsessions]
            simp only [hcaller, if_true]
            exact subset_foldl_addNotifyInfo callerInfo _ rest hinfo
          · left
            rw [if_pos rfl, hsessions, Option.filter_some, ledBy_cons]
            simp [hcaller]
        · left
          rw [if_neg hsame]
          exact hsessions
      · right
        refine ⟨info, ?_, hdevice⟩
        change info ∈ (removeCaller callerInfo other state).1
        unfold removeCaller
        split
        · exact hinfo
        · exact hinfo
        · split_ifs
          · exact subset_foldl_addNotifyInfo callerInfo _ _ hinfo
          · exact subset_foldl_addNotifyInfo callerInfo _ _ hinfo
          · exact hinfo

theorem isSameCaller_self (session : ConnectAbilitySession) :
    session.isSameCaller session.callerInfo = true := by
  simp [ConnectAbilitySession.isSameCaller]

theorem processConnectDied_spec {first : ConnectAbilitySession}
    {rest : SessionsList} (hconnect : connect ≠ 0)
    (hsessions : service.distributedConnectAbilityMap[connect]? =
      some (first :: rest)) :
    (∀ other : RemoteObject,
      (service.processConnectDied connect).2.distributedConnectAbilityMap[
          other]? =
        (service.distributedConnectAbilityMap[other]?).filter
          fun sessionsList => !ledBy first.callerInfo sessionsList) ∧
    (∀ info ∈ (service.processConnectDied connect).1,
      info.callerInfo = first.callerInfo) ∧
    ∃ info ∈ (service.processConnectDied connect).1,
      info.remoteDeviceId = first.destinationDeviceId := by
  have hmap : ∀ other : RemoteObject,
      (service.processConnectDied connect).2.distributedConnectAbilityMap[
          other]? =
        (service.distributedConnectAbilityMap[other]?).filter
          fun sessionsList => !ledBy first.callerInfo sessionsList := by
    intro other
    unfold processConnectDied
    rw [if_neg hconnect, hsessions]
    dsimp only
    rw [getElem?_foldl_removeCaller]
    split_ifs with hkey
    · rfl
    · rw [Std.TreeMap.mem_keys] at hkey
      rw [Std.TreeMap.getElem?_eq_none hkey]
      rfl
  refine ⟨hmap, ?_, ?_⟩
  · unfold processConnectDied
    rw [if_neg hconnect, hsessions]
    exact callerInfo_foldl_removeCaller (List.forall_mem_nil _) _
  · have hgone := hmap connect
    rw [hsessions, Option.filter_some, ledBy_cons, isSameCaller_self] at hgone
    unfold processConnectDied at hgone ⊢
    rw [if_neg hconnect, hsessions] at hgone ⊢
    have hnotified := @notified_foldl_removeCaller connect first.callerInfo
      first rest ([], service) (.inl hsessions)
      service.distributedConnectAbilityMap.keys
    rcases hnotified with hkept | hnotified
    · rw [hgone] at hkept
      cases hkept
    · exact hnotified

def keepOthers (deviceId : Text) (sessionsList : SessionsList) :
    Option SessionsList :=
  let rest := sessionsList.eraseP
    fun session => decide (session.destinationDeviceId = deviceId)
  if rest.isEmpty then none else some rest

theorem getElem?_removeDeviceSession (deviceId : Text) (other : RemoteObject) :
    (removeDeviceSession deviceId connect
        service).2.distributedConnectAbilityMap[other]? =
      if connect = other then
        (service.distributedConnectAbilityMap[other]?).bind
          (keepOthers deviceId)
      else service.distributedConnectAbilityMap[other]? := by
  unfold removeDeviceSession
  split
  · next hnone =>
      split_ifs with hsame
      · rw [← hsame, hnone]
        rfl
      · rfl
  · next sessionsList hsessions =>
      dsimp only
      by_cases hempty : (sessionsList.eraseP fun session =>
          decide (session.destinationDeviceId = deviceId)).isEmpty
      · rw [if_pos hempty, getElem?_eraseConnect]
        by_cases hsame : connect = other
        · rw [if_pos hsame, if_pos hsame, ← hsame, hsessions,
            Option.bind_some, keepOthers]
          simp [hempty]
        · rw [if_neg hsame, if_neg hsame]
          split_ifs <;> simp
      · rw [if_neg hempty, getElem?_insert_eq]
        by_cases hsame : connect = other
        · rw [if_pos hsame, if_pos hsame, ← hsame, hsessions,
            Option.bind_some, keepOthers]
          simp [hempty]
        · rw [if_neg hsame, if_neg hsame]

theorem getElem?_removeConnectAbilityInfo (deviceId : Text)
    (other : RemoteObject) :
    (service.removeConnectAbilityInfo
        deviceId).2.distributedConnectAbilityMap[other]? =
      (service.distributedConnectAbilityMap[other]?).bind
        (keepOthers deviceId) := by
  -- a round goes on with the service that `removeDeviceSession` leaves
  have hloop : ∀ (round : List (RemoteObject × ConnectAbilitySession) ×
        DistributedSchedService → RemoteObject →
        List (RemoteObject × ConnectAbilitySession) × DistributedSchedService)
      (_ : ∀ state connect, (round state connect).2 =
        (removeDeviceSession deviceId connect state.2).2)
      (connects : List RemoteObject) (_ : connects.Nodup)
      (state : List (RemoteObject × ConnectAbilitySession) ×
        DistributedSchedService),
      (connects.foldl round state).2.distributedConnectAbilityMap[other]? =
        if other ∈ connects then
          (state.2.distributedConnectAbilityMap[other]?).bind
            (keepOthers deviceId)
        else state.2.distributedConnectAbilityMap[other]? := by
    intro round hround connects honce
    induction connects with
    | nil => simp
    | cons connect connects ih =>
        intro state
        obtain ⟨hnotMem, honce⟩ := List.nodup_cons.mp honce
        rw [List.foldl_cons, ih honce, hround, getElem?_removeDeviceSession]
        by_cases hsame : connect = other
        · rw [hsame] at hnotMem
          simp [hsame, hnotMem]
        · simp [hsame, Ne.symm hsame]
  unfold removeConnectAbilityInfo
  rw [hloop _ (fun _ _ => rfl) _ Std.TreeMap.nodup_keys]
  split_ifs with hkey
  · rfl
  · rw [Std.TreeMap.mem_keys] at hkey
    rw [Std.TreeMap.getElem?_eq_none hkey]
    rfl

end DistributedSchedService

namespace ConnectedAbilities

variable {callees : ConnectedAbilities}

theorem getElem?_dropConnects (test : ConnectInfo → Bool)
    (connect : RemoteObject) :
    (callees.dropConnects test).2.connectAbilityMap[connect]? =
      (callees.connectAbilityMap[connect]?).filter
        fun connectInfo => !test connectInfo := by
  unfold dropConnects
  dsimp only
  rw [getElem?_foldl_erase]
  cases hentry : callees.connectAbilityMap[connect]? with
  | none => simp
  | some connectInfo =>
      have hmem : (connect, connectInfo) ∈ callees.connectAbilityMap.toList :=
        Std.TreeMap.mem_toList_iff_getElem?_eq_some.mpr hentry
      rw [Option.filter_some]
      by_cases htest : test connectInfo
      · rw [if_pos, htest]
        · rfl
        · exact List.mem_map.mpr ⟨(connect, connectInfo),
            List.mem_filter.mpr ⟨hmem, htest⟩, rfl⟩
      · rw [if_neg]
        · simp [htest]
        · intro hdropped
          obtain ⟨entry, hkept, rfl⟩ := List.mem_map.mp hdropped
          obtain ⟨hin, hpasses⟩ := List.mem_filter.mp hkept
          rw [Std.TreeMap.mem_toList_iff_getElem?_eq_some, hentry] at hin
          cases hin
          exact htest hpasses

theorem mem_dropConnects {test : ConnectInfo → Bool} {connect : RemoteObject}
    {connectInfo : ConnectInfo}
    (hentry : callees.connectAbilityMap[connect]? = some connectInfo)
    (htest : test connectInfo = true) :
    connectInfo.callbackWrapper ∈ (callees.dropConnects test).1 := by
  have hmem : (connect, connectInfo) ∈ callees.connectAbilityMap.toList :=
    Std.TreeMap.mem_toList_iff_getElem?_eq_some.mpr hentry
  exact List.mem_map.mpr ⟨(connect, connectInfo),
    List.mem_filter.mpr ⟨hmem, htest⟩, rfl⟩

end ConnectedAbilities

end Sections

/-! ## Agreement -/

/-- For every connect, one device has a session to the other one just when that
has an entry for it. -/
def ConnectDevice.AgreesWith (near far : ConnectDevice) : Prop :=
  ∀ connect : RemoteObject,
    (∃ connectInfo, far.callees.connectAbilityMap[connect]? =
        some connectInfo ∧
      connectInfo.callerInfo.sourceDeviceId = near.localDeviceId) ↔
    (∃ sessionsList, near.callers.distributedConnectAbilityMap[connect]? =
        some sessionsList ∧
      ∃ session ∈ sessionsList,
        session.destinationDeviceId = far.localDeviceId)

def ConnectedAbilities.Records (callees : ConnectedAbilities)
    (callback : CallbackWrapper) : Prop :=
  ∃ (connect : RemoteObject) (connectInfo : ConnectInfo),
    callees.connectAbilityMap[connect]? = some connectInfo ∧
      connectInfo.callbackWrapper = callback

def ConnectDevice.KeepsCallbacks (device : ConnectDevice) : Prop :=
  ∀ callback element,
    .connectAbility callback element errOk ∈ device.adapterCalls →
    ¬ device.callees.Records callback →
      .disconnectAbility callback ∈ device.adapterCalls

structure Joined (source destination : Text) (session : ConnectAbilitySession)
    (connectInfo : ConnectInfo) : Prop where
  fromSource : session.sourceDeviceId = source
  toDestination : session.destinationDeviceId = destination
  devices : checkDeviceId source destination = true
  uid : connectInfo.callerInfo.uid = session.callerInfo.uid
  pid : connectInfo.callerInfo.pid = session.callerInfo.pid
  sessionCaller : session.callerInfo.sourceDeviceId = source
  entryCaller : connectInfo.callerInfo.sourceDeviceId = source
  sessionType : session.callerInfo.callerType = callerTypeHarmony
  entryType : connectInfo.callerInfo.callerType = callerTypeHarmony

def JoinedAlone (source destination : Text) (sessionsList : SessionsList)
    (connectInfo : ConnectInfo) : Prop :=
  ∃ session, sessionsList = [session] ∧
    Joined source destination session connectInfo

def Linked (source destination : Text) (callers : DistributedSchedService)
    (callees : ConnectedAbilities) : Prop :=
  ∀ connect : RemoteObject, Option.Rel (JoinedAlone source destination)
    callers.distributedConnectAbilityMap[connect]?
    callees.connectAbilityMap[connect]?

section Agreement

variable {source destination : Text} {callers : DistributedSchedService}
  {callees : ConnectedAbilities} {near far : ConnectDevice}
  {session : ConnectAbilitySession} {connectInfo : ConnectInfo}

theorem Joined.addElement
    (hjoined : Joined source destination session connectInfo)
    (element : ElementName) :
    Joined source destination (session.addElement element) connectInfo := by
  unfold ConnectAbilitySession.addElement
  split_ifs
  · exact hjoined
  · exact { hjoined with }

theorem Joined.isSameCaller_iff {dead : ConnectAbilitySession}
    {deadInfo : ConnectInfo}
    (hdead : Joined source destination dead deadInfo)
    (hjoined : Joined source destination session connectInfo) :
    session.isSameCaller dead.callerInfo =
      (dead.callerInfo.readForProcessDied.sourceDeviceId =
          connectInfo.callerInfo.sourceDeviceId &&
        dead.callerInfo.readForProcessDied.uid = connectInfo.callerInfo.uid &&
        dead.callerInfo.readForProcessDied.pid = connectInfo.callerInfo.pid &&
        dead.callerInfo.readForProcessDied.callerType =
          connectInfo.callerInfo.callerType) := by
  simp [ConnectAbilitySession.isSameCaller, CallerInfo.readForProcessDied,
    hdead.sessionCaller, hdead.sessionType, hjoined.sessionCaller,
    hjoined.sessionType, hjoined.entryCaller, hjoined.entryType, hjoined.uid,
    hjoined.pid]

theorem rel_filter {α β : Type} {r : α → β → Prop} {p : α → Bool} {q : β → Bool}
    {first : Option α} {second : Option β} (hrel : Option.Rel r first second)
    (htests : ∀ a b, r a b → p a = q b) :
    Option.Rel r (first.filter p) (second.filter q) := by
  cases hrel with
  | none => exact .none
  | @some a b hab =>
      rw [Option.filter_some, Option.filter_some, htests a b hab]
      split_ifs
      · exact .some hab
      · exact .none

theorem Linked.agreesWith
    (hlinked : Linked near.localDeviceId far.localDeviceId near.callers
      far.callees) : near.AgreesWith far := by
  intro connect
  have hrel := hlinked connect
  constructor
  · rintro ⟨connectInfo, hentry, -⟩
    rw [hentry] at hrel
    cases hsessions : near.callers.distributedConnectAbilityMap[connect]? with
    | none =>
        rw [hsessions] at hrel
        cases hrel
    | some sessionsList =>
        rw [hsessions] at hrel
        cases hrel with
        | some hjoined =>
            obtain ⟨session, rfl, hjoined⟩ := hjoined
            exact ⟨_, rfl, session, List.mem_singleton_self session,
              hjoined.toDestination⟩
  · rintro ⟨sessionsList, hsessions, -⟩
    rw [hsessions] at hrel
    cases hentry : far.callees.connectAbilityMap[connect]? with
    | none =>
        rw [hentry] at hrel
        cases hrel
    | some connectInfo =>
        rw [hentry] at hrel
        cases hrel with
        | some hjoined =>
            obtain ⟨session, -, hjoined⟩ := hjoined
            exact ⟨_, rfl, hjoined.entryCaller⟩

/-! ## What the other device does -/

/-- Serving the other device changes nothing about the callers of this one, and
loses no wrapper. -/
structure Served (device served : ConnectDevice) : Prop where
  localDeviceId : served.localDeviceId = device.localDeviceId
  callers : served.callers = device.callers
  keepsCallbacks : device.KeepsCallbacks → served.KeepsCallbacks

theorem Served.refl (device : ConnectDevice) : Served device device :=
  ⟨rfl, rfl, id⟩

theorem Served.trans {first second third : ConnectDevice}
    (hfirst : Served first second) (hsecond : Served second third) :
    Served first third where
  localDeviceId := hsecond.localDeviceId.trans hfirst.localDeviceId
  callers := hsecond.callers.trans hfirst.callers
  keepsCallbacks := hsecond.keepsCallbacks ∘ hfirst.keepsCallbacks

theorem keepsCallbacks_of_calls {device served : ConnectDevice}
    {calls : List ConnectCall} (hkeeps : device.KeepsCallbacks)
    (hcalls : served.adapterCalls = device.adapterCalls ++ calls)
    (hkept : ∀ callback, device.callees.Records callback →
      ¬ served.callees.Records callback → .disconnectAbility callback ∈ calls)
    (hconnected : ∀ callback element,
      .connectAbility callback element errOk ∈ calls →
        served.callees.Records callback) :
    served.KeepsCallbacks := by
  intro callback element hcall hgone
  rw [hcalls] at hcall ⊢
  rcases List.mem_append.mp hcall with hcall | hcall
  · by_cases hrecords : device.callees.Records callback
    · exact List.mem_append_right _ (hkept callback hrecords hgone)
    · exact List.mem_append_left _ (hkeeps callback element hcall hrecords)
  · exact absurd (hconnected callback element hcall) hgone

theorem Served.connect {device : ConnectDevice} {callback : CallbackWrapper}
    {element : ElementName} {errCode : Int32} {callees : ConnectedAbilities}
    (hkept : ∀ other, device.callees.Records other → callees.Records other)
    (hrecorded : errCode = errOk → callees.Records callback) :
    Served device ({ device with callees := callees }.callAdapter
      [.connectAbility callback element errCode]) where
  localDeviceId := rfl
  callers := rfl
  keepsCallbacks := by
    intro hkeeps
    apply keepsCallbacks_of_calls hkeeps rfl
    · intro other hrecords hgone
      exact absurd (hkept other hrecords) hgone
    · intro other called hcall
      rw [List.mem_singleton, ConnectCall.connectAbility.injEq] at hcall
      obtain ⟨rfl, -, herr⟩ := hcall
      exact hrecorded herr.symm

theorem connectAbilityFromRemote_spec (device : ConnectDevice)
    (callingDeviceId : Text) (element : ElementName) (connect : RemoteObject)
    {callerInfo : CallerInfo} (hharmony : callerInfo.callerType =
      callerTypeHarmony) (attempt : ConnectAttempt)
    {result : Int32} {served : ConnectDevice}
    (hserved : device.connectAbilityFromRemote callingDeviceId element connect
      callerInfo attempt = (result, served)) :
    Served device served ∧
      (result ≠ errOk → ∀ other : RemoteObject,
        served.callees.connectAbilityMap[other]? =
          device.callees.connectAbilityMap[other]?) ∧
      (result = errOk → ∃ callback, ∀ other : RemoteObject,
        served.callees.connectAbilityMap[other]? =
          if connect = other then
            some ((device.callees.connectAbilityMap[connect]?).getD
              { callerInfo, callbackWrapper := callback, element })
          else device.callees.connectAbilityMap[other]?) := by
  unfold ConnectDevice.connectAbilityFromRemote at hserved
  dsimp only at hserved
  by_cases hchecked : device.checkConnect callingDeviceId element connect
      callerInfo attempt.checkTargetPermission ≠ errOk
  · rw [if_pos hchecked] at hserved
    cases hserved
    exact ⟨.refl device, fun _ _ => rfl, fun hok => absurd hok hchecked⟩
  rw [if_neg hchecked, ConnectedAbilities.findCallback, if_pos hharmony]
    at hserved
  cases hentry : device.callees.connectAbilityMap[connect]? with
  | none =>
      rw [hentry] at hserved
      dsimp only at hserved
      by_cases hfailed : attempt.connectAbility ≠ errOk
      · rw [if_pos hfailed] at hserved
        cases hserved
        exact ⟨.connect (fun _ hrecords => hrecords)
          (fun hok => absurd hok hfailed), fun _ _ => rfl,
          fun hok => absurd hok hfailed⟩
      · rw [if_neg hfailed] at hserved
        cases hserved
        have hmap : ∀ other : RemoteObject,
            (device.callees.connectAbilityMap.insertIfNew connect
              { callerInfo := callerInfo
                callbackWrapper := .stub connect device.callees.stubs
                element := element : ConnectInfo })[other]? = _ :=
          fun other => getElem?_insertIfNew_eq hentry other _
        refine ⟨.connect ?_ ?_, fun hbad => absurd rfl hbad,
          fun _ => ⟨.stub connect device.callees.stubs, hmap⟩⟩
        · rintro callback ⟨other, connectInfo, hother, rfl⟩
          have hne : connect ≠ other := by
            rintro rfl
            rw [hentry] at hother
            cases hother
          exact ⟨other, connectInfo,
            (hmap other).trans ((if_neg hne).trans hother), rfl⟩
        · intro _
          exact ⟨connect, _, (hmap connect).trans (if_pos rfl), rfl⟩
  | some connectInfo =>
      rw [hentry] at hserved
      dsimp only at hserved
      have hconnect : device.callees.Records connectInfo.callbackWrapper :=
        ⟨connect, connectInfo, hentry, rfl⟩
      by_cases hfailed : attempt.connectAbility ≠ errOk
      · rw [if_pos hfailed] at hserved
        cases hserved
        exact ⟨.connect (fun _ hrecords => hrecords) (fun _ => hconnect),
          fun _ _ => rfl, fun hok => absurd hok hfailed⟩
      · rw [if_neg hfailed] at hserved
        cases hserved
        refine ⟨.connect (fun _ hrecords => hrecords) (fun _ => hconnect),
          fun hbad => absurd rfl hbad,
          fun _ => ⟨connectInfo.callbackWrapper, ?_⟩⟩
        intro other
        split_ifs with hother
        · rw [← hother]
          exact hentry
        · rfl

theorem Served.disconnect {device : ConnectDevice} {callees : ConnectedAbilities}
    {callbacks : List CallbackWrapper}
    (hkept : ∀ callback, device.callees.Records callback →
      callees.Records callback ∨ callback ∈ callbacks) :
    Served device ({ device with callees := callees }.callAdapter
      (callbacks.map .disconnectAbility)) where
  localDeviceId := rfl
  callers := rfl
  keepsCallbacks := by
    intro hkeeps
    apply keepsCallbacks_of_calls hkeeps rfl
    · intro callback hrecords hgone
      rcases hkept callback hrecords with hrecords | hmem
      · exact absurd hrecords hgone
      · exact List.mem_map_of_mem hmem
    · intro callback element hcall
      obtain ⟨other, -, hother⟩ := List.mem_map.mp hcall
      cases hother

theorem served_dropConnects (test : ConnectInfo → Bool)
    (device : ConnectDevice) : Served device (device.dropConnects test) := by
  apply Served.disconnect
  rintro callback ⟨connect, connectInfo, hentry, rfl⟩
  by_cases htest : test connectInfo = true
  · right
    exact ConnectedAbilities.mem_dropConnects hentry htest
  · left
    refine ⟨connect, connectInfo, ?_, rfl⟩
    apply (ConnectedAbilities.getElem?_dropConnects test connect).trans
    rw [hentry, Option.filter_some]
    simp [htest]

theorem disconnectAbilityFromRemote_spec {device : ConnectDevice}
    {connect : RemoteObject} {sourceDeviceId : Text} (hconnect : connect ≠ 0)
    (hdevices : checkDeviceId sourceDeviceId device.localDeviceId = true)
    (disconnectAbility : Int32) :
    Served device (device.disconnectAbilityFromRemote connect sourceDeviceId
        false disconnectAbility).2 ∧
      ∀ other : RemoteObject,
        (device.disconnectAbilityFromRemote connect sourceDeviceId false
            disconnectAbility).2.callees.connectAbilityMap[other]? =
          if connect = other then none
          else device.callees.connectAbilityMap[other]? := by
  simp only [checkDeviceId, Bool.and_eq_true, decide_eq_true_eq] at hdevices
  have hids : ¬ (device.localDeviceId = [] ∨ sourceDeviceId = [] ∨
      device.localDeviceId = sourceDeviceId) := by
    rintro (hid | hid | hid)
    · exact hdevices.1.2 hid
    · exact hdevices.1.1 hid
    · exact hdevices.2 hid.symm
  unfold ConnectDevice.disconnectAbilityFromRemote
  rw [if_neg hconnect, if_neg hids, ConnectedAbilities.takeCallback]
  cases hentry : device.callees.connectAbilityMap[connect]? with
  | none =>
      refine ⟨.refl device, ?_⟩
      intro other
      by_cases hsame : connect = other
      · rw [if_pos hsame, ← hsame]
        exact hentry
      · rw [if_neg hsame]
        rfl
  | some connectInfo =>
      refine ⟨@Served.disconnect device { device.callees with
        connectAbilityMap := device.callees.connectAbilityMap.erase connect }
        [connectInfo.callbackWrapper] ?_,
        fun other => getElem?_erase_eq connect other⟩
      rintro callback ⟨other, found, hfound, rfl⟩
      by_cases hsame : connect = other
      · right
        subst hsame
        rw [hentry] at hfound
        cases hfound
        exact List.mem_singleton_self _
      · left
        exact ⟨other, found, (getElem?_erase_eq connect other).trans
          ((if_neg hsame).trans hfound), rfl⟩

/-! ## What an operation keeps -/

structure Agreed (pair : DevicePair) : Prop where
  forward : Linked pair.near.localDeviceId pair.far.localDeviceId
    pair.near.callers pair.far.callees
  backward : Linked pair.far.localDeviceId pair.near.localDeviceId
    pair.far.callers pair.near.callees
  nearKeeps : pair.near.KeepsCallbacks
  farKeeps : pair.far.KeepsCallbacks

variable {pair : DevicePair}

theorem Agreed.swap (hagreed : Agreed pair) : Agreed pair.swap :=
  ⟨hagreed.backward, hagreed.forward, hagreed.farKeeps, hagreed.nearKeeps⟩

theorem Agreed.operation (hagreed : Agreed pair)
    {callers : DistributedSchedService} {far : ConnectDevice}
    (hserved : Served pair.far far)
    (hlinked : Linked pair.near.localDeviceId pair.far.localDeviceId callers
      far.callees) :
    Agreed { near := { pair.near with callers := callers }, far := far } where
  forward := by
    rw [hserved.localDeviceId]
    exact hlinked
  backward := by
    rw [hserved.localDeviceId, hserved.callers]
    exact hagreed.backward
  nearKeeps := hagreed.nearKeeps
  farKeeps := hserved.keepsCallbacks hagreed.farKeeps

variable {served : ConnectedAbilities}

theorem linked_congr (hlinked : Linked source destination callers callees)
    (hsame : ∀ connect : RemoteObject,
      served.connectAbilityMap[connect]? =
        callees.connectAbilityMap[connect]?) :
    Linked source destination callers served := by
  intro connect
  rw [hsame connect]
  exact hlinked connect

theorem Linked.record (hlinked : Linked source destination callers callees)
    {connect : RemoteObject} (hconnect : connect ≠ 0)
    (hdevices : checkDeviceId source destination = true) {callerInfo : CallerInfo}
    (hsource : callerInfo.sourceDeviceId = source)
    (hharmony : callerInfo.callerType = callerTypeHarmony) (element : ElementName)
    {callback : CallbackWrapper}
    (hserved : ∀ other : RemoteObject, served.connectAbilityMap[other]? =
      if connect = other then
        some ((callees.connectAbilityMap[connect]?).getD
          { callerInfo := callerInfo.readForConnect
            callbackWrapper := callback
            element := element })
      else callees.connectAbilityMap[other]?) :
    Linked source destination (callers.remoteConnectAbilityMappingLocked
      connect source destination element callerInfo .harmony) served := by
  intro other
  rw [hserved other, DistributedSchedService.getElem?_remoteConnectAbilityMapping
    hconnect]
  by_cases hsame : connect = other
  · rw [if_pos hsame, if_pos hsame]
    apply Option.Rel.some
    have hrel := hlinked connect
    revert hrel
    cases callers.distributedConnectAbilityMap[connect]? with
    | none =>
        cases callees.connectAbilityMap[connect]? with
        | some connectInfo => exact nofun
        | none =>
            intro _
            refine ⟨_, rfl, Joined.addElement ?_ element⟩
            exact ⟨rfl, rfl, hdevices, rfl, rfl, hsource, hsource, hharmony, rfl⟩
    | some sessionsList =>
        cases callees.connectAbilityMap[connect]? with
        | none => exact nofun
        | some connectInfo =>
            intro hrel
            cases hrel with
            | some hjoined =>
                obtain ⟨session, rfl, hjoined⟩ := hjoined
                refine ⟨session.addElement element, ?_,
                  hjoined.addElement element⟩
                simp [DistributedSchedService.addToSession,
                  hjoined.toDestination]
  · rw [if_neg hsame, if_neg hsame]
    exact hlinked other

theorem Agreed.retryConnect (hagreed : Agreed pair) {request : ConnectRequest}
    (hconnect : request.connect ≠ 0)
    (hdestination : request.element.deviceId = pair.far.localDeviceId)
    (hdevices : checkDeviceId pair.near.localDeviceId
      pair.far.localDeviceId = true)
    {callerInfo : CallerInfo}
    (hsource : callerInfo.sourceDeviceId = pair.near.localDeviceId)
    (hharmony : callerInfo.callerType = callerTypeHarmony)
    (attempt : ℕ → ConnectAttempt) (result : Int32) (retryTimes : ℕ) :
    Agreed (pair.retryConnect request callerInfo attempt result
      retryTimes).2 := by
  induction retryTimes generalizing pair result with
  | zero => exact hagreed
  | succ retryTimes ih =>
      unfold DevicePair.retryConnect
      generalize hcall : pair.far.connectAbilityFromRemote
        pair.near.localDeviceId request.element request.connect
        callerInfo.readForConnect (attempt retryTimes) = called
      obtain ⟨answer, far⟩ := called
      obtain ⟨hserved, hfailed, hdone⟩ :=
        connectAbilityFromRemote_spec pair.far _ _ _ rfl _ hcall
      dsimp only
      by_cases hok : answer = errOk
      · rw [if_pos hok]
        obtain ⟨callback, hmap⟩ := hdone hok
        apply hagreed.operation hserved
        rw [hdestination, hsource]
        exact hagreed.forward.record hconnect hdevices hsource hharmony
          request.element hmap
      · rw [if_neg hok]
        have hcalled : Agreed { pair with far := far } :=
          hagreed.operation hserved
            (linked_congr hagreed.forward (hfailed hok))
        split_ifs
        · exact hcalled
        · exact hcalled
        · rw [← hserved.localDeviceId] at hdestination hdevices
          exact ih hcalled hdestination hdevices hsource answer

theorem Agreed.connectRemoteAbility (hagreed : Agreed pair)
    (request : ConnectRequest) (attempt : ℕ → ConnectAttempt) :
    Agreed (pair.connectRemoteAbility request attempt).2 := by
  unfold DevicePair.connectRemoteAbility
  dsimp only
  split_ifs with _ hdevices
  · exact hagreed
  · exact hagreed
  · split
    · exact hagreed
    · split
      · unfold DevicePair.tryConnectRemoteAbility
        split_ifs with hreached
        · exact hagreed
        · exact hagreed
        · obtain ⟨hdestination, hconnect⟩ := not_or.mp hreached
          rw [not_not] at hdestination
          rw [hdestination, Bool.not_eq_true, Bool.not_eq_false'] at hdevices
          exact hagreed.retryConnect hconnect hdestination hdevices rfl rfl
            attempt _ _
      · exact hagreed

theorem Linked.erase (hlinked : Linked source destination callers callees)
    {connect : RemoteObject} {erased : DistributedSchedService}
    (herased : ∀ other : RemoteObject,
      erased.distributedConnectAbilityMap[other]? =
        if connect = other then none
        else callers.distributedConnectAbilityMap[other]?)
    (hserved : ∀ other : RemoteObject, served.connectAbilityMap[other]? =
      if connect = other then none else callees.connectAbilityMap[other]?) :
    Linked source destination erased served := by
  intro other
  rw [herased other, hserved other]
  split_ifs
  · exact .none
  · exact hlinked other

theorem Agreed.disconnectRemoteAbility (hagreed : Agreed pair)
    (connect : RemoteObject) :
    Agreed (pair.disconnectRemoteAbility connect).2 := by
  unfold DevicePair.disconnectRemoteAbility
    DistributedSchedService.disconnectRemoteAbility
  by_cases hconnect : connect = 0
  · rw [if_pos hconnect]
    exact hagreed
  · rw [if_neg hconnect]
    have hrel := hagreed.forward connect
    cases hsessions : pair.near.callers.distributedConnectAbilityMap[
        connect]? with
    | none => exact hagreed
    | some sessionsList =>
        rw [hsessions] at hrel
        generalize hentry : pair.far.callees.connectAbilityMap[connect]? =
          entry at hrel
        cases hrel with
        | some hjoined =>
            obtain ⟨session, rfl, hjoined⟩ := hjoined
            obtain ⟨hserved, hmap⟩ := disconnectAbilityFromRemote_spec hconnect
              hjoined.devices errOk
            simp only [List.isEmpty_cons, Bool.false_eq_true, if_false,
              List.foldl_cons, List.foldl_nil, DevicePair.disconnectEach,
              hjoined.toDestination, ne_eq, not_true_eq_false,
              hjoined.fromSource]
            apply hagreed.operation hserved
            apply hagreed.forward.erase _ hmap
            intro other
            rw [DistributedSchedService.getElem?_eraseConnect]
            simp

theorem getElem?_dropConnects (test : ConnectInfo → Bool)
    (device : ConnectDevice) (connect : RemoteObject) :
    (device.dropConnects test).callees.connectAbilityMap[connect]? =
      (device.callees.connectAbilityMap[connect]?).filter
        fun connectInfo => !test connectInfo :=
  @ConnectedAbilities.getElem?_dropConnects device.callees test connect

theorem getElem?_notifyProcessDied (callerInfo : CallerInfo)
    (device : ConnectDevice) (connect : RemoteObject) :
    (device.notifyProcessDiedFromRemote
        callerInfo).callees.connectAbilityMap[connect]? =
      (device.callees.connectAbilityMap[connect]?).filter fun connectInfo =>
        !(callerInfo.sourceDeviceId = connectInfo.callerInfo.sourceDeviceId &&
          callerInfo.uid = connectInfo.callerInfo.uid &&
          callerInfo.pid = connectInfo.callerInfo.pid &&
          callerInfo.callerType = connectInfo.callerInfo.callerType) :=
  getElem?_dropConnects _ device connect

theorem notifyProcessDied_foldl {dead : CallerInfo} {near : ConnectDevice}
    {notifyList : List ProcessDiedNotifyInfo}
    (hcallers : ∀ info ∈ notifyList, info.callerInfo = dead)
    (far : ConnectDevice) :
    ∃ served, notifyList.foldl DevicePair.notifyProcessDied
        { near := near, far := far } = { near := near, far := served } ∧
      Served far served ∧
      ∀ connect : RemoteObject, served.callees.connectAbilityMap[connect]? =
        if ∃ info ∈ notifyList, info.remoteDeviceId = far.localDeviceId then
          (far.notifyProcessDiedFromRemote
            dead.readForProcessDied).callees.connectAbilityMap[connect]?
        else far.callees.connectAbilityMap[connect]? := by
  induction notifyList generalizing far with
  | nil => exact ⟨far, rfl, .refl far, fun _ => by simp⟩
  | cons info notifyList ih =>
      obtain ⟨hcaller, hrest⟩ := List.forall_mem_cons.mp hcallers
      rw [List.foldl_cons]
      unfold DevicePair.notifyProcessDied
      by_cases hdevice : info.remoteDeviceId = far.localDeviceId
      · rw [if_neg (not_not.mpr hdevice), hcaller]
        have htold : Served far (far.notifyProcessDiedFromRemote
            dead.readForProcessDied) := served_dropConnects _ far
        obtain ⟨served, hfold, hserved, hmap⟩ := ih hrest
          (far.notifyProcessDiedFromRemote dead.readForProcessDied)
        refine ⟨served, hfold, htold.trans hserved, ?_⟩
        intro connect
        have hfirst : ∃ other ∈ info :: notifyList,
            other.remoteDeviceId = far.localDeviceId :=
          ⟨info, List.mem_cons_self, hdevice⟩
        rw [hmap connect, if_pos hfirst]
        split_ifs
        · -- dropping twice is dropping once
          rw [getElem?_notifyProcessDied, getElem?_notifyProcessDied,
            Option.filter_filter]
          simp only [Bool.and_self]
        · rfl
      · rw [if_pos hdevice]
        obtain ⟨served, hfold, hserved, hmap⟩ := ih hrest far
        refine ⟨served, hfold, hserved, ?_⟩
        intro connect
        rw [hmap connect]
        simp [hdevice]

theorem Agreed.processConnectDied (hagreed : Agreed pair)
    (connect : RemoteObject) :
    Agreed (pair.processConnectDied connect) := by
  unfold DevicePair.processConnectDied
  have hrel := hagreed.forward connect
  by_cases hconnect : connect = 0
  · rw [DistributedSchedService.processConnectDied, if_pos hconnect]
    exact hagreed
  cases hsessions : pair.near.callers.distributedConnectAbilityMap[
      connect]? with
  | none =>
      rw [DistributedSchedService.processConnectDied, if_neg hconnect,
        hsessions]
      exact hagreed
  | some sessionsList =>
      rw [hsessions] at hrel
      generalize hentry : pair.far.callees.connectAbilityMap[connect]? =
        entry at hrel
      cases hrel with
      | @some _ deadInfo hdead =>
          obtain ⟨dead, rfl, hdead⟩ := hdead
          obtain ⟨hmap, hcallers, hnotified⟩ :=
            DistributedSchedService.processConnectDied_spec hconnect hsessions
          rw [hdead.toDestination] at hnotified
          obtain ⟨served, hfold, hserved, hdropped⟩ :=
            @notifyProcessDied_foldl dead.callerInfo { pair.near with callers :=
              (pair.near.callers.processConnectDied connect).2 } _ hcallers
              pair.far
          dsimp only
          rw [hfold]
          apply hagreed.operation hserved
          intro other
          rw [hmap other, hdropped other, if_pos hnotified,
            getElem?_notifyProcessDied]
          apply rel_filter (hagreed.forward other)
          rintro _ connectInfo ⟨session, rfl, hjoined⟩
          rw [DistributedSchedService.ledBy_cons, hdead.isSameCaller_iff hjoined]

theorem keepOthers_singleton
    (hdevice : session.destinationDeviceId = destination) :
    DistributedSchedService.keepOthers destination [session] = none := by
  simp [DistributedSchedService.keepOthers, hdevice]

theorem Linked.offline (hlinked : Linked source destination callers callees)
    {removed : DistributedSchedService}
    (hremoved : ∀ connect : RemoteObject,
      removed.distributedConnectAbilityMap[connect]? =
        (callers.distributedConnectAbilityMap[connect]?).bind
          (DistributedSchedService.keepOthers destination))
    (hserved : ∀ connect : RemoteObject, served.connectAbilityMap[connect]? =
      (callees.connectAbilityMap[connect]?).filter fun connectInfo =>
        !decide (source = connectInfo.callerInfo.sourceDeviceId)) :
    Linked source destination removed served := by
  intro connect
  have hrel := hlinked connect
  rw [hremoved connect, hserved connect]
  revert hrel
  generalize callers.distributedConnectAbilityMap[connect]? = sessionsList
  generalize callees.connectAbilityMap[connect]? = entry
  intro hrel
  cases hrel with
  | none => exact .none
  | some hjoined =>
      obtain ⟨session, rfl, hjoined⟩ := hjoined
      rw [Option.bind_some, keepOthers_singleton hjoined.toDestination,
        Option.filter_some]
      simp only [hjoined.entryCaller, decide_true, Bool.not_true,
        Bool.false_eq_true, if_false]
      exact .none

theorem Agreed.devicesOffline (hagreed : Agreed pair) :
    Agreed pair.devicesOffline := by
  unfold DevicePair.devicesOffline ConnectDevice.processDeviceOffline
  rw [checkDeviceId_comm pair.far.localDeviceId]
  split_ifs
  · exact hagreed
  · have hmaps : ∀ (device : ConnectDevice) (deviceId : Text),
        (∀ connect : RemoteObject,
          (device.callers.removeConnectAbilityInfo
              deviceId).2.distributedConnectAbilityMap[connect]? = _) ∧
        ∀ connect : RemoteObject,
          (device.callees.dropConnects fun connectInfo =>
              decide (deviceId = connectInfo.callerInfo.sourceDeviceId)
            ).2.connectAbilityMap[connect]? = _ :=
      fun device deviceId =>
        ⟨DistributedSchedService.getElem?_removeConnectAbilityInfo deviceId,
          ConnectedAbilities.getElem?_dropConnects _⟩
    exact {
      forward := hagreed.forward.offline
        (hmaps pair.near pair.far.localDeviceId).1
        (hmaps pair.far pair.near.localDeviceId).2
      backward := hagreed.backward.offline
        (hmaps pair.far pair.near.localDeviceId).1
        (hmaps pair.near pair.far.localDeviceId).2
      nearKeeps := (served_dropConnects _ { pair.near with
        callers := (pair.near.callers.removeConnectAbilityInfo
          pair.far.localDeviceId).2 }).keepsCallbacks hagreed.nearKeeps
      farKeeps := (served_dropConnects _ { pair.far with
        callers := (pair.far.callers.removeConnectAbilityInfo
          pair.near.localDeviceId).2 }).keepsCallbacks hagreed.farKeeps }

end Agreement

/-! ## Runs -/

inductive ConnectOperation where
  | connectRemoteAbility (request : ConnectRequest)
      (attempt : ℕ → ConnectAttempt)
  | disconnectRemoteAbility (connect : RemoteObject)
  | processConnectDied (connect : RemoteObject)

inductive PairEvent where
  | near (operation : ConnectOperation)
  | far (operation : ConnectOperation)
  | offline

namespace DevicePair

def operate (pair : DevicePair) : ConnectOperation → Int32 × DevicePair
  | .connectRemoteAbility request attempt =>
      pair.connectRemoteAbility request attempt
  | .disconnectRemoteAbility connect => pair.disconnectRemoteAbility connect
  | .processConnectDied connect => (errOk, pair.processConnectDied connect)

def step (pair : DevicePair) : PairEvent → Int32 × DevicePair
  | .near operation => pair.operate operation
  | .far operation =>
      ((pair.swap.operate operation).1, (pair.swap.operate operation).2.swap)
  | .offline => (errOk, pair.devicesOffline)

end DevicePair

theorem Agreed.operate {pair : DevicePair} (hagreed : Agreed pair)
    (operation : ConnectOperation) : Agreed (pair.operate operation).2 := by
  cases operation with
  | connectRemoteAbility request attempt =>
      exact hagreed.connectRemoteAbility request attempt
  | disconnectRemoteAbility connect =>
      exact hagreed.disconnectRemoteAbility connect
  | processConnectDied connect => exact hagreed.processConnectDied connect

theorem Agreed.step {pair : DevicePair} (hagreed : Agreed pair)
    (event : PairEvent) : Agreed (pair.step event).2 := by
  cases event with
  | near operation => exact hagreed.operate operation
  | far operation => exact (hagreed.swap.operate operation).swap
  | offline => exact hagreed.devicesOffline

theorem agreed_initial (near far : Text) :
    Agreed { near := { localDeviceId := near }
             far := { localDeviceId := far } } where
  forward _ := .none
  backward _ := .none
  nearKeeps _ _ := nofun
  farKeeps _ _ := nofun

/-- After every run of two devices each knows the connections of the other, and
no wrapper that was connected is forgotten. -/
theorem DevicePair.agrees_run (near far : Text) (events : List PairEvent) :
    let pair := (EventRun.run DevicePair.step
      { near := { localDeviceId := near }
        far := { localDeviceId := far } } events).2
    pair.near.AgreesWith pair.far ∧ pair.far.AgreesWith pair.near ∧
      pair.near.KeepsCallbacks ∧ pair.far.KeepsCallbacks := by
  have hstep : ∀ (pair : DevicePair) (event : PairEvent), Agreed pair →
      Agreed (pair.step event).2 :=
    fun _ event hagreed => hagreed.step event
  have hagreed := EventRun.run_invariant hstep events (agreed_initial near far)
  exact ⟨hagreed.forward.agreesWith, hagreed.backward.agreesWith,
    hagreed.nearKeeps, hagreed.farKeeps⟩

/-- Of two processes with a connect each, the one that dies takes only its own
connect with it. -/
example :
    (EventRun.run DevicePair.step
      { near := { localDeviceId := "a".toList }
        far := { localDeviceId := "b".toList } }
      [.near (.connectRemoteAbility
          { element := { deviceId := "b".toList }, connect := 7
            callerUid := 100, callerPid := 1, accessToken := 5 } fun _ => {}),
        .near (.connectRemoteAbility
          { element := { deviceId := "b".toList }, connect := 8
            callerUid := 100, callerPid := 2, accessToken := 5 } fun _ => {}),
        .near (.processConnectDied 7)]).2.far.callees.connectAbilityMap.keys =
      [8] := by
  decide +kernel

end Dmsfwk
