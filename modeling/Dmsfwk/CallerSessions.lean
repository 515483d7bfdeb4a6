import Dmsfwk.AbilityCall
import Dmsfwk.ConnectionAgreement

/-!
# Sessions of a calling device

The sessions of a connect hold the elements it has called, for each device.  A
call adds its element, and a connect that is given up or a device that is
offline takes all of its elements away.
-/

namespace Dmsfwk

open SchedErr OrderedMap

def SessionsList.Holds (sessionsList : SessionsList) (deviceId : Text)
    (element : ElementName) : Prop :=
  ∃ session ∈ sessionsList, session.destinationDeviceId = deviceId ∧
    element ∈ session.elementsList

def CallerService.Holds (service : CallerService) (connect : RemoteObject)
    (deviceId : Text) (element : ElementName) : Prop :=
  ∃ sessionsList, service.callerMap[connect]? = some sessionsList ∧
    SessionsList.Holds sessionsList deviceId element

/-! ## Sessions of the caller -/

section Sessions

namespace SessionsList

variable {sessionsList : SessionsList}

theorem holds_cons (session : ConnectAbilitySession) (deviceId : Text)
    (element : ElementName) :
    SessionsList.Holds (session :: sessionsList) deviceId element ↔
      (session.destinationDeviceId = deviceId ∧
        element ∈ session.elementsList) ∨
      SessionsList.Holds sessionsList deviceId element := by
  simp [SessionsList.Holds]

theorem mem_elementsList_addElement (session : ConnectAbilitySession)
    (added element : ElementName) :
    element ∈ (session.addElement added).elementsList ↔
      element = added ∨ element ∈ session.elementsList := by
  unfold ConnectAbilitySession.addElement
  split_ifs with hmem
  · constructor
    · exact Or.inr
    · rintro (rfl | helement)
      · exact hmem
      · exact helement
  · rw [List.mem_append, List.mem_singleton, or_comm]

theorem holds_addToSession (localDeviceId remoteDeviceId : Text)
    (added : ElementName) (callerInfo : CallerInfo)
    (targetComponent : TargetComponent) (sessionsList : SessionsList)
    (deviceId : Text) (element : ElementName) :
    SessionsList.Holds (DistributedSchedService.addToSession localDeviceId
        remoteDeviceId added callerInfo targetComponent sessionsList) deviceId
        element ↔
      (deviceId = remoteDeviceId ∧ element = added) ∨
        SessionsList.Holds sessionsList deviceId element := by
  induction sessionsList with
  | nil =>
      simp [DistributedSchedService.addToSession,
        DistributedSchedService.destinationDeviceId_addElement,
        mem_elementsList_addElement, SessionsList.Holds, eq_comm]
  | cons session sessionsList ih =>
      unfold DistributedSchedService.addToSession
      split_ifs with hdevice
      · rw [holds_cons, holds_cons, mem_elementsList_addElement,
          DistributedSchedService.destinationDeviceId_addElement, hdevice]
        constructor
        · rintro (⟨hsame, rfl | helement⟩ | hrest)
          · exact .inl ⟨hsame.symm, rfl⟩
          · exact .inr (.inl ⟨hsame, helement⟩)
          · exact .inr (.inr hrest)
        · rintro (⟨hsame, rfl⟩ | ⟨hsame, helement⟩ | hrest)
          · exact .inl ⟨hsame.symm, .inl rfl⟩
          · exact .inl ⟨hsame, .inr helement⟩
          · exact .inr hrest
      · rw [holds_cons, holds_cons, ih, or_left_comm]

theorem holds_eraseP
    (hnodup : (sessionsList.map (·.destinationDeviceId)).Nodup)
    (offline deviceId : Text) (element : ElementName) :
    SessionsList.Holds (sessionsList.eraseP fun session =>
        decide (session.destinationDeviceId = offline)) deviceId element ↔
      deviceId ≠ offline ∧
        SessionsList.Holds sessionsList deviceId element := by
  induction sessionsList with
  | nil => simp [SessionsList.Holds]
  | cons session sessionsList ih =>
      obtain ⟨hnotMem, hnodup⟩ := List.nodup_cons.mp hnodup
      by_cases hsame : session.destinationDeviceId = offline
      · rw [List.eraseP_cons_of_pos (by simpa using hsame), holds_cons]
        constructor
        · rintro ⟨other, hother, rfl, helement⟩
          refine ⟨?_, .inr ⟨other, hother, rfl, helement⟩⟩
          intro hoffline
          apply hnotMem
          dsimp only
          rw [hsame, ← hoffline]
          exact List.mem_map_of_mem hother
        · rintro ⟨hdevice, ⟨hfirst, -⟩ | hrest⟩
          · exact absurd (hfirst.symm.trans hsame) hdevice
          · exact hrest
      · rw [List.eraseP_cons_of_neg (by simpa using hsame), holds_cons,
          holds_cons, ih hnodup]
        constructor
        · rintro (⟨hfirst, helement⟩ | ⟨hdevice, hrest⟩)
          · exact ⟨fun hoffline => hsame (hfirst.trans hoffline),
              .inl ⟨hfirst, helement⟩⟩
          · exact ⟨hdevice, .inr hrest⟩
        · rintro ⟨hdevice, hfirst | hrest⟩
          · exact .inl hfirst
          · exact .inr ⟨hdevice, hrest⟩

theorem keepOthers_sublist {offline : Text} {rest : SessionsList}
    (hrest : DistributedSchedService.keepOthers offline sessionsList =
      some rest) : rest.Sublist sessionsList := by
  unfold DistributedSchedService.keepOthers at hrest
  dsimp only at hrest
  split_ifs at hrest
  cases hrest
  exact List.eraseP_sublist

theorem holds_keepOthers
    (hnodup : (sessionsList.map (·.destinationDeviceId)).Nodup)
    (offline deviceId : Text) (element : ElementName) :
    (∃ rest, DistributedSchedService.keepOthers offline sessionsList =
        some rest ∧ SessionsList.Holds rest deviceId element) ↔
      deviceId ≠ offline ∧
        SessionsList.Holds sessionsList deviceId element := by
  rw [← holds_eraseP hnodup]
  unfold DistributedSchedService.keepOthers
  dsimp only
  split_ifs with hempty
  · rw [List.isEmpty_iff.mp hempty]
    simp [SessionsList.Holds]
  · simp

end SessionsList

namespace CallerService

variable {service : CallerService} {connect : RemoteObject}

theorem callerMap_saveCallerComponent (hconnect : connect ≠ 0)
    (element : ElementName) (callerInfo : CallerInfo) (other : RemoteObject) :
    (service.saveCallerComponent element connect callerInfo).callerMap[other]? =
      if connect = other then
        some (DistributedSchedService.addToSession callerInfo.sourceDeviceId
          element.deviceId element callerInfo .harmony
          ((service.callerMap[connect]?).getD []))
      else service.callerMap[other]? := by
  unfold saveCallerComponent
  rw [if_neg hconnect]
  cases hfound : service.callerMap[connect]? <;>
    simp only [hfound, getElem?_insert_eq]

theorem holds_saveCallerComponent (hconnect : connect ≠ 0)
    (added : ElementName) (callerInfo : CallerInfo) (other : RemoteObject)
    (deviceId : Text) (element : ElementName) :
    (service.saveCallerComponent added connect callerInfo).Holds other deviceId
        element ↔
      (other = connect ∧ deviceId = added.deviceId ∧ element = added) ∨
        service.Holds other deviceId element := by
  unfold Holds
  simp only [callerMap_saveCallerComponent hconnect]
  by_cases hsame : connect = other
  · simp only [hsame, if_true, Option.some.injEq, exists_eq_left',
      SessionsList.holds_addToSession, true_and]
    apply or_congr_right
    cases service.callerMap[other]? with
    | none => simp [SessionsList.Holds]
    | some sessionsList => simp
  · simp [hsame, Ne.symm hsame]

/-! ## An offline device -/

theorem callerMap_removeCalleeSession (deviceId : Text) (other : RemoteObject) :
    (service.removeCalleeSession deviceId connect).callerMap[other]? =
      if connect = other then
        (service.callerMap[other]?).bind
          (DistributedSchedService.keepOthers deviceId)
      else service.callerMap[other]? := by
  unfold removeCalleeSession
  cases hfound : service.callerMap[connect]? with
  | none =>
      dsimp only
      split_ifs with hsame
      · rw [← hsame, hfound]
        rfl
      · rfl
  | some sessionsList =>
      dsimp only
      by_cases hempty : (sessionsList.eraseP fun session =>
          decide (session.destinationDeviceId = deviceId)).isEmpty
      · rw [if_pos hempty, getElem?_erase_eq]
        split_ifs with hsame
        · rw [← hsame, hfound, Option.bind_some,
            DistributedSchedService.keepOthers, if_pos hempty]
        · rfl
      · rw [if_neg hempty, getElem?_insert_eq]
        split_ifs with hsame
        · rw [← hsame, hfound, Option.bind_some,
            DistributedSchedService.keepOthers, if_neg hempty]
        · rfl

theorem carried_removeCalleeSession (deviceId : Text)
    (hcarried : ∀ other ∈ service.callerMap, other ∈ service.deathRecipients) :
    ∀ other ∈ (service.removeCalleeSession deviceId connect).callerMap,
      other ∈ (service.removeCalleeSession deviceId connect).deathRecipients := by
  unfold removeCalleeSession
  cases hfound : service.callerMap[connect]? with
  | none => exact hcarried
  | some sessionsList =>
      have hconnect : connect ∈ service.callerMap := by
        rw [Std.TreeMap.mem_iff_isSome_getElem?, hfound]
        rfl
      dsimp only
      split_ifs
      · intro other hother
        rw [Std.TreeMap.mem_erase] at hother
        obtain ⟨hne, hother⟩ := hother
        apply (List.mem_erase_of_ne _).mpr (hcarried other hother)
        rintro rfl
        exact hne Std.ReflCmp.compare_self
      · intro other hother
        rw [Std.TreeMap.mem_insert] at hother
        rcases hother with hsame | hother
        · rw [← Std.LawfulEqCmp.eq_of_compare hsame]
          exact hcarried connect hconnect
        · exact hcarried other hother

@[simp] theorem removeCalleeSession_localDeviceId (deviceId : Text) :
    (service.removeCalleeSession deviceId connect).localDeviceId =
      service.localDeviceId := by
  unfold removeCalleeSession
  cases service.callerMap[connect]? with
  | none => rfl
  | some sessionsList =>
      dsimp only
      split_ifs <;> rfl

theorem foldl_removeCalleeSession (deviceId : Text)
    (connects : List RemoteObject) (honce : connects.Nodup)
    (service : CallerService)
    (hcarried : ∀ other ∈ service.callerMap, other ∈ service.deathRecipients) :
    let removed := connects.foldl (fun service connect =>
      removeCalleeSession deviceId connect service) service
    removed.localDeviceId = service.localDeviceId ∧
      (∀ other : RemoteObject, removed.callerMap[other]? =
        if other ∈ connects then
          (service.callerMap[other]?).bind
            (DistributedSchedService.keepOthers deviceId)
        else service.callerMap[other]?) ∧
      ∀ other ∈ removed.callerMap, other ∈ removed.deathRecipients := by
  induction connects generalizing service with
  | nil => exact ⟨rfl, fun other => (if_neg List.not_mem_nil).symm, hcarried⟩
  | cons connect connects ih =>
      obtain ⟨hnotMem, honce⟩ := List.nodup_cons.mp honce
      rw [List.foldl_cons]
      obtain ⟨hlocal, hcallerMap, hrest⟩ := ih honce
        (removeCalleeSession deviceId connect service)
        (carried_removeCalleeSession deviceId hcarried)
      refine ⟨hlocal.trans (removeCalleeSession_localDeviceId deviceId), ?_,
        hrest⟩
      intro other
      rw [hcallerMap, callerMap_removeCalleeSession]
      by_cases hsame : connect = other
      · rw [hsame] at hnotMem
        simp [hsame, hnotMem]
      · simp [hsame, Ne.symm hsame]

theorem processCalleeOffline_fields (deviceId : Text)
    (hcarried : ∀ other ∈ service.callerMap, other ∈ service.deathRecipients) :
    (service.processCalleeOffline deviceId).localDeviceId =
        service.localDeviceId ∧
      (∀ other : RemoteObject,
        (service.processCalleeOffline deviceId).callerMap[other]? =
          (service.callerMap[other]?).bind
            (DistributedSchedService.keepOthers deviceId)) ∧
      ∀ other ∈ (service.processCalleeOffline deviceId).callerMap,
        other ∈ (service.processCalleeOffline deviceId).deathRecipients := by
  obtain ⟨hlocal, hcallerMap, hrest⟩ := foldl_removeCalleeSession deviceId
    service.callerMap.keys Std.TreeMap.nodup_keys service hcarried
  refine ⟨hlocal, ?_, hrest⟩
  intro other
  unfold processCalleeOffline
  rw [hcallerMap]
  split_ifs with hkey
  · rfl
  · rw [Std.TreeMap.mem_keys] at hkey
    rw [Std.TreeMap.getElem?_eq_none hkey]
    rfl

end CallerService

/-- The sessions are those of the live calls, one for a device, and a connect
with sessions carries the recipient. -/
structure CallerTracked (service : CallerService)
    (live : List (RemoteObject × ElementName)) : Prop where
  holds : ∀ connect deviceId element,
    service.Holds connect deviceId element ↔
      (connect, element) ∈ live ∧ element.deviceId = deviceId
  devices : ∀ (connect : RemoteObject) (sessionsList : SessionsList),
    service.callerMap[connect]? = some sessionsList →
      (sessionsList.map (·.destinationDeviceId)).Nodup
  carried : ∀ connect ∈ service.callerMap, connect ∈ service.deathRecipients
  checked : ∀ call ∈ live,
    checkDeviceId service.localDeviceId call.2.deviceId = true

namespace CallerTracked

variable {service after : CallerService} {connect : RemoteObject}
  {live : List (RemoteObject × ElementName)}

section CallerTracked

variable (htracked : CallerTracked service live)

include htracked

theorem congr (hlocal : after.localDeviceId = service.localDeviceId)
    (hcallerMap : after.callerMap = service.callerMap)
    (hrecipients : after.deathRecipients = service.deathRecipients) :
    CallerTracked after live := by
  constructor
  · unfold CallerService.Holds
    rw [hcallerMap]
    exact htracked.holds
  · rw [hcallerMap]
    exact htracked.devices
  · rw [hcallerMap, hrecipients]
    exact htracked.carried
  · rw [hlocal]
    exact htracked.checked

theorem carried_save (hconnect : connect ≠ 0) (element : ElementName)
    (callerInfo : CallerInfo) {other : RemoteObject}
    (hother : other ∈
      (service.saveCallerComponent element connect callerInfo).callerMap) :
    other ∈ (service.saveCallerComponent element connect
      callerInfo).deathRecipients := by
  rw [Std.TreeMap.mem_iff_isSome_getElem?,
    CallerService.callerMap_saveCallerComponent hconnect] at hother
  unfold CallerService.saveCallerComponent
  rw [if_neg hconnect]
  cases hfound : service.callerMap[connect]? with
  | none =>
      split_ifs at hother with hsame
      · exact List.mem_cons.mpr (.inl hsame.symm)
      · exact List.mem_cons_of_mem _ (htracked.carried other
          (Std.TreeMap.mem_iff_isSome_getElem?.mpr hother))
  | some found =>
      apply htracked.carried other
      rw [Std.TreeMap.mem_iff_isSome_getElem?]
      split_ifs at hother with hsame
      · rw [← hsame, hfound]
        rfl
      · exact hother

theorem save (hconnect : connect ≠ 0) {element : ElementName}
    (hchecked : checkDeviceId service.localDeviceId element.deviceId = true)
    (callerInfo : CallerInfo) :
    CallerTracked (service.saveCallerComponent element connect callerInfo)
      ((connect, element) :: live) := by
  constructor
  case holds =>
    intro other deviceId found
    rw [CallerService.holds_saveCallerComponent hconnect, htracked.holds,
      List.mem_cons, Prod.mk.injEq]
    constructor
    · rintro (⟨hother, rfl, rfl⟩ | ⟨hlive, hdevice⟩)
      · exact ⟨.inl ⟨hother, rfl⟩, rfl⟩
      · exact ⟨.inr hlive, hdevice⟩
    · rintro ⟨⟨hother, rfl⟩ | hlive, hdevice⟩
      · exact .inl ⟨hother, hdevice.symm, rfl⟩
      · exact .inr ⟨hlive, hdevice⟩
  case devices =>
    intro other sessionsList hsessions
    rw [CallerService.callerMap_saveCallerComponent hconnect] at hsessions
    split_ifs at hsessions with hsame
    · cases hsessions
      apply DistributedSchedService.nodup_addToSession
      cases hfound : service.callerMap[connect]? with
      | none => exact List.nodup_nil
      | some found => exact htracked.devices connect found hfound
    · exact htracked.devices other sessionsList hsessions
  case carried =>
    exact fun _ => htracked.carried_save hconnect element callerInfo
  case checked =>
    intro call hcall
    rw [CallerService.saveCallerComponent_localDeviceId]
    rcases List.mem_cons.mp hcall with rfl | hcall
    · exact hchecked
    · exact htracked.checked call hcall

theorem drop (hlocal : after.localDeviceId = service.localDeviceId)
    (hcallerMap : ∀ other : RemoteObject, after.callerMap[other]? =
      if connect = other then none else service.callerMap[other]?)
    (hrecipients : ∀ other ≠ connect, other ∈ service.deathRecipients →
      other ∈ after.deathRecipients) :
    CallerTracked after (live.filter fun call => call.1 ≠ connect) := by
  constructor
  · intro other deviceId element
    unfold CallerService.Holds
    rw [hcallerMap, List.mem_filter, decide_eq_true_eq]
    by_cases hsame : connect = other
    · simp [hsame]
    · rw [if_neg hsame]
      refine (htracked.holds other deviceId element).trans ?_
      simp [Ne.symm hsame]
  · intro other sessionsList hsessions
    rw [hcallerMap] at hsessions
    split_ifs at hsessions
    exact htracked.devices other sessionsList hsessions
  · intro other hother
    rw [Std.TreeMap.mem_iff_isSome_getElem?, hcallerMap] at hother
    split_ifs at hother with hsame
    · cases hother
    · apply hrecipients other (Ne.symm hsame)
      exact htracked.carried other
        (Std.TreeMap.mem_iff_isSome_getElem?.mpr hother)
  · intro call hcall
    rw [hlocal]
    exact htracked.checked call (List.mem_of_mem_filter hcall)

theorem filter_of_notMem (hconnect : connect ∉ service.callerMap) :
    (live.filter fun call => call.1 ≠ connect) = live := by
  rw [List.filter_eq_self]
  rintro ⟨other, element⟩ hcall
  rw [decide_eq_true_eq]
  rintro rfl
  obtain ⟨sessionsList, hsessions, -⟩ :=
    (htracked.holds other element.deviceId element).mpr ⟨hcall, rfl⟩
  rw [Std.TreeMap.getElem?_eq_none hconnect] at hsessions
  cases hsessions

theorem callerDied (connect : RemoteObject) :
    CallerTracked (if connect ∈ service.deathRecipients then
        service.handleLocalCallerDied connect else service)
      (live.filter fun call => call.1 ≠ connect) := by
  split_ifs with hcarried
  · exact htracked.drop rfl (getElem?_erase_eq connect)
      (fun _ _ hother => hother)
  · rw [htracked.filter_of_notMem]
    · exact htracked
    · intro hconnect
      exact hcarried (htracked.carried connect hconnect)

theorem release (hconnect : connect ≠ 0) {element : ElementName}
    (honly : ∀ call ∈ live, call.1 = connect → call.2 = element) :
    CallerTracked (service.removeCallerComponent connect)
      (live.filter (· ≠ (connect, element))) := by
  obtain ⟨hlocal, -, -, hcallerMap, hrecipients⟩ :=
    @CallerService.removeCallerComponent_spec service connect hconnect
  have hsame : live.filter (· ≠ (connect, element)) =
      live.filter fun call => call.1 ≠ connect := by
    apply List.filter_congr
    rintro ⟨other, found⟩ hcall
    rw [decide_eq_decide]
    apply not_congr
    rw [Prod.mk.injEq]
    exact ⟨And.left, fun hother => ⟨hother, honly _ hcall hother⟩⟩
  rw [hsame]
  exact htracked.drop hlocal hcallerMap hrecipients

theorem holds_processCalleeOffline (deviceId : Text) (connect : RemoteObject)
    (other : Text) (element : ElementName) :
    (service.processCalleeOffline deviceId).Holds connect other element ↔
      other ≠ deviceId ∧ service.Holds connect other element := by
  obtain ⟨-, hcallerMap, -⟩ :=
    service.processCalleeOffline_fields deviceId htracked.carried
  unfold CallerService.Holds
  rw [hcallerMap]
  cases hfound : service.callerMap[connect]? with
  | none => simp
  | some sessionsList =>
      simpa using SessionsList.holds_keepOthers
        (htracked.devices connect sessionsList hfound) deviceId other element

theorem processCalleeOffline (deviceId : Text) :
    CallerTracked (service.processCalleeOffline deviceId)
      (live.filter fun call => call.2.deviceId ≠ deviceId) := by
  obtain ⟨hlocal, hcallerMap, hcarried⟩ :=
    service.processCalleeOffline_fields deviceId htracked.carried
  constructor
  case holds =>
    intro connect other element
    rw [htracked.holds_processCalleeOffline, htracked.holds, List.mem_filter,
      decide_eq_true_eq]
    constructor
    · rintro ⟨hne, hlive, rfl⟩
      exact ⟨⟨hlive, hne⟩, rfl⟩
    · rintro ⟨⟨hlive, hne⟩, rfl⟩
      exact ⟨hne, hlive, rfl⟩
  case devices =>
    intro connect rest hrest
    have hkept := (hcallerMap connect).symm.trans hrest
    obtain ⟨sessionsList, hsessions, hkept⟩ := Option.bind_eq_some_iff.mp hkept
    exact (htracked.devices connect sessionsList hsessions).sublist
      ((SessionsList.keepOthers_sublist hkept).map _)
  case carried => exact hcarried
  case checked =>
    intro call hcall
    exact (congrArg (checkDeviceId · call.2.deviceId) hlocal).trans
      (htracked.checked call (List.mem_of_mem_filter hcall))

theorem offline (deviceId : Text) :
    CallerTracked (service.processDeviceOffline deviceId)
      (live.filter fun call => call.2.deviceId ≠ deviceId) := by
  unfold CallerService.processDeviceOffline
  by_cases hchecked : checkDeviceId service.localDeviceId deviceId = true
  · rw [hchecked]
    exact htracked.processCalleeOffline deviceId
  · rw [Bool.not_eq_true] at hchecked
    have hsame : (live.filter fun call => call.2.deviceId ≠ deviceId) =
        live := by
      rw [List.filter_eq_self]
      intro call hcall
      rw [decide_eq_true_eq]
      rintro rfl
      rw [htracked.checked call hcall] at hchecked
      cases hchecked
    rw [hchecked, hsame]
    exact htracked

end CallerTracked

end CallerTracked

end Sessions

end Dmsfwk
