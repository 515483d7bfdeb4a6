import Dmsfwk.DistributedSchedService
import Dmsfwk.EventRun

/-!
# Remote connections are counted exactly

Every section keeps the sessions of a connect together with the uid they belong
to: a connect enters the map with one count and one death recipient, and leaves
it with them, whichever of the three ways it is removed.
-/

namespace Dmsfwk
namespace DistributedSchedService

open OrderedMap

/-! ## Runs of sections -/

inductive Section where
  | record (connect : RemoteObject) (localDeviceId remoteDeviceId : Text)
      (element : ElementName) (callerInfo : CallerInfo)
      (targetComponent : TargetComponent)
  | disconnect (connect : RemoteObject)
  | connectDied (connect : RemoteObject)
  | deviceOffline (deviceId : Text)

inductive Answer where
  | recorded
  | disconnected (result : Except ConnectErr SessionsList)
  | processDied (notifyList : List ProcessDiedNotifyInfo)
  | offline (told : List (RemoteObject × ConnectAbilitySession))

def step (service : DistributedSchedService) :
    Section → Answer × DistributedSchedService
  | .record connect localDeviceId remoteDeviceId element callerInfo
      targetComponent =>
      (.recorded, remoteConnectAbilityMappingLocked connect localDeviceId
        remoteDeviceId element callerInfo targetComponent service)
  | .disconnect connect =>
      let (result, next) := disconnectRemoteAbility connect service
      (.disconnected result, next)
  | .connectDied connect =>
      let (notifyList, next) := processConnectDied connect service
      (.processDied notifyList, next)
  | .deviceOffline deviceId =>
      let (told, next) := removeConnectAbilityInfo deviceId service
      (.offline told, next)

def belongsTo (uid : Int32) (sessionsList : SessionsList) : Bool :=
  sessionsList.all fun session => session.callerInfo.uid = uid

def connectsOf (uid : Int32) (service : DistributedSchedService) : ℕ :=
  count service.distributedConnectAbilityMap (belongsTo uid)

structure CountsExactly (service : DistributedSchedService) : Prop where
  nonempty : ∀ connect : RemoteObject,
    service.distributedConnectAbilityMap[connect]? ≠ some []
  onePerDevice : ∀ (connect : RemoteObject) (sessionsList : SessionsList),
    service.distributedConnectAbilityMap[connect]? = some sessionsList →
    (sessionsList.map (·.destinationDeviceId)).Nodup
  tracked : ∀ uid : Int32,
    (service.trackingUidMap[uid]?).getD 0 = connectsOf uid service
  recipient : ∀ connect : RemoteObject,
    connect ∈ service.deathRecipients ↔
      connect ∈ service.distributedConnectAbilityMap

def UsedBy (owner : RemoteObject → Int32) : Section → Prop
  | .record connect _ _ _ callerInfo _ =>
      callerInfo.uid = owner connect ∧ 0 ≤ callerInfo.uid
  | _ => True

/-! ## Counting -/

section Counting

variable {owner : RemoteObject → Int32} {service : DistributedSchedService}
  {connect : RemoteObject} {sessionsList : SessionsList} {uid : Int32}

@[simp] theorem distributedConnectAbilityMap_decrease :
    (decreaseConnectLocked uid service).distributedConnectAbilityMap =
      service.distributedConnectAbilityMap := by
  unfold decreaseConnectLocked
  split_ifs
  · rfl
  · split
    · rfl
    · split_ifs <;> rfl

@[simp] theorem deathRecipients_decrease :
    (decreaseConnectLocked uid service).deathRecipients =
      service.deathRecipients := by
  unfold decreaseConnectLocked
  split_ifs
  · rfl
  · split
    · rfl
    · split_ifs <;> rfl

theorem trackingUidMap_decrease (huid : 0 ≤ uid) (other : Int32) :
    ((decreaseConnectLocked uid service).trackingUidMap[other]?).getD 0 =
      (service.trackingUidMap[other]?).getD 0 -
        if uid = other then 1 else 0 := by
  have hvalid : ¬ uid < 0 := Int32.not_lt.mpr huid
  unfold decreaseConnectLocked
  rw [if_neg hvalid]
  split
  · next hnone =>
      split_ifs with hsame
      · rw [← hsame, hnone]
        rfl
      · rfl
  · next conns hconns =>
      split_ifs with hzero hsame hsame
      · rw [getElem?_erase_eq, if_pos hsame, ← hsame, hconns]
        exact hzero.symm
      · rw [getElem?_erase_eq, if_neg hsame]
        rfl
      · rw [getElem?_insert_eq, if_pos hsame, ← hsame, hconns]
        rfl
      · rw [getElem?_insert_eq, if_neg hsame]
        rfl

theorem decrease_removeDeathRecipient :
    decreaseConnectLocked uid (removeDeathRecipient connect service) =
      removeDeathRecipient connect (decreaseConnectLocked uid service) := by
  unfold decreaseConnectLocked removeDeathRecipient
  dsimp only
  split_ifs
  · rfl
  · split
    · rfl
    · split_ifs <;> rfl

structure Owned (owner : RemoteObject → Int32)
    (service : DistributedSchedService) : Prop where
  notNull : service.distributedConnectAbilityMap[0]? = none
  nonempty : ∀ connect : RemoteObject,
    service.distributedConnectAbilityMap[connect]? ≠ some []
  onePerDevice : ∀ (connect : RemoteObject) (sessionsList : SessionsList),
    service.distributedConnectAbilityMap[connect]? = some sessionsList →
    (sessionsList.map (·.destinationDeviceId)).Nodup
  callers : ∀ (connect : RemoteObject) (sessionsList : SessionsList),
    service.distributedConnectAbilityMap[connect]? = some sessionsList →
    ∀ session ∈ sessionsList, session.callerInfo.uid = owner connect
  valid : ∀ connect ∈ service.distributedConnectAbilityMap, 0 ≤ owner connect
  tracked : ∀ uid : Int32,
    (service.trackingUidMap[uid]?).getD 0 = connectsOf uid service
  recipients : ∀ connect : RemoteObject,
    service.deathRecipients.count connect =
      if connect ∈ service.distributedConnectAbilityMap then 1 else 0

theorem Owned.countsExactly (howned : Owned owner service) :
    CountsExactly service where
  nonempty := howned.nonempty
  onePerDevice := howned.onePerDevice
  tracked := howned.tracked
  recipient := by
    intro connect
    rw [← List.count_pos_iff, howned.recipients connect]
    split_ifs with hmem <;> simp [hmem]

theorem belongsTo_iff (hnonempty : sessionsList ≠ [])
    (hcallers : ∀ session ∈ sessionsList,
      session.callerInfo.uid = owner connect) :
    belongsTo uid sessionsList = decide (owner connect = uid) := by
  obtain ⟨session, rest, rfl⟩ := List.exists_cons_of_ne_nil hnonempty
  have hfirst := hcallers session List.mem_cons_self
  by_cases huid : owner connect = uid
  · rw [decide_eq_true huid, belongsTo, List.all_eq_true]
    intro other hother
    rw [decide_eq_true_eq, hcallers other hother, huid]
  · rw [decide_eq_false huid, belongsTo, List.all_cons, hfirst,
      decide_eq_false huid, Bool.false_and]

theorem Owned.getUidLocked (howned : Owned owner service)
    (hsessions : service.distributedConnectAbilityMap[connect]? =
      some sessionsList) :
    getUidLocked sessionsList = owner connect := by
  cases sessionsList with
  | nil => exact absurd hsessions (howned.nonempty connect)
  | cons session rest =>
      exact howned.callers connect _ hsessions session List.mem_cons_self

theorem Owned.dropConnect (howned : Owned owner service)
    (hsessions : service.distributedConnectAbilityMap[connect]? =
      some sessionsList) :
    Owned owner (eraseConnect connect (removeDeathRecipient connect
      (decreaseConnectLocked (owner connect) service))) := by
  have hmem := (getElem?_eq_some_iff.mp hsessions).1
  have hnonempty : sessionsList ≠ [] := by
    rintro rfl
    exact howned.nonempty connect hsessions
  have hmap : (eraseConnect connect (removeDeathRecipient connect
      (decreaseConnectLocked (owner connect)
        service))).distributedConnectAbilityMap =
      service.distributedConnectAbilityMap.erase connect := by
    simp [eraseConnect, removeDeathRecipient]
  have hold : ∀ (other : RemoteObject) (found : SessionsList),
      (service.distributedConnectAbilityMap.erase connect)[other]? =
        some found →
      service.distributedConnectAbilityMap[other]? = some found := by
    intro other found hfound
    rw [getElem?_erase_eq] at hfound
    split_ifs at hfound
    exact hfound
  constructor
  · rw [hmap, getElem?_erase_eq, howned.notNull, ite_self]
  · intro other hempty
    rw [hmap] at hempty
    exact howned.nonempty other (hold other [] hempty)
  · intro other found hfound
    rw [hmap] at hfound
    exact howned.onePerDevice other found (hold other found hfound)
  · intro other found hfound
    rw [hmap] at hfound
    exact howned.callers other found (hold other found hfound)
  · intro other hother
    rw [hmap] at hother
    exact howned.valid other (Std.TreeMap.mem_of_mem_erase hother)
  · intro uid
    have hcount := howned.tracked uid
    rw [connectsOf, count_erase hsessions,
      belongsTo_iff hnonempty (howned.callers connect _ hsessions)] at hcount
    rw [connectsOf, hmap]
    simp only [decide_eq_true_eq] at hcount
    change ((decreaseConnectLocked (owner connect)
      service).trackingUidMap[uid]?).getD 0 = _
    rw [trackingUidMap_decrease (howned.valid connect hmem) uid, hcount,
      Nat.add_sub_cancel]
  · intro other
    have hrecipients := howned.recipients other
    rw [hmap]
    simp only [Std.TreeMap.mem_erase]
    change ((decreaseConnectLocked (owner connect)
      service).deathRecipients.erase connect).count other = _
    rw [deathRecipients_decrease, List.count_erase, hrecipients]
    by_cases hsame : connect = other
    · simp [← hsame, hmem]
    · have hne : compare connect other ≠ .eq := by
        intro heq
        exact hsame (Std.compare_eq_iff_eq.mp heq)
      simp [hsame, hne]

theorem forall_insert {map : Std.TreeMap RemoteObject SessionsList}
    {good : RemoteObject → SessionsList → Prop}
    (hall : ∀ (other : RemoteObject) (found : SessionsList),
      map[other]? = some found → good other found)
    (hnew : good connect sessionsList) (other : RemoteObject)
    (found : SessionsList)
    (hfound : (map.insert connect sessionsList)[other]? = some found) :
    good other found := by
  rw [getElem?_insert_eq] at hfound
  split_ifs at hfound with hsame
  · cases hfound
    exact hsame ▸ hnew
  · exact hall other found hfound

theorem insert_nonempty {map : Std.TreeMap RemoteObject SessionsList}
    (hall : ∀ other : RemoteObject, map[other]? ≠ some [])
    (hnonempty : sessionsList ≠ []) (other : RemoteObject) :
    (map.insert connect sessionsList)[other]? ≠ some [] := by
  intro hempty
  apply @forall_insert connect sessionsList map
    (fun _ found => found ≠ []) _ hnonempty other [] hempty rfl
  intro other found hfound hnil
  exact hall other (hnil ▸ hfound)

theorem Owned.replaceSessions (howned : Owned owner service)
    {old : SessionsList}
    (hold : service.distributedConnectAbilityMap[connect]? = some old)
    (hnonempty : sessionsList ≠ [])
    (hdevices : (sessionsList.map (·.destinationDeviceId)).Nodup)
    (hcallers : ∀ session ∈ sessionsList,
      session.callerInfo.uid = owner connect) :
    Owned owner { service with distributedConnectAbilityMap :=
      service.distributedConnectAbilityMap.insert connect sessionsList } := by
  have hmem := (getElem?_eq_some_iff.mp hold).1
  have holdNonempty : old ≠ [] := by
    rintro rfl
    exact howned.nonempty connect hold
  have hkeys : ∀ other : RemoteObject,
      other ∈ service.distributedConnectAbilityMap.insert connect
        sessionsList ↔ other ∈ service.distributedConnectAbilityMap := by
    intro other
    rw [Std.TreeMap.mem_insert, Std.compare_eq_iff_eq]
    constructor
    · rintro (rfl | hother)
      · exact hmem
      · exact hother
    · exact .inr
  constructor
  · have hne : connect ≠ 0 := by
      rintro rfl
      rw [howned.notNull] at hold
      cases hold
    rw [getElem?_insert_eq, if_neg hne, howned.notNull]
  · exact insert_nonempty howned.nonempty hnonempty
  · exact forall_insert howned.onePerDevice hdevices
  · exact forall_insert howned.callers hcallers
  · intro other hother
    exact howned.valid other ((hkeys other).mp hother)
  · intro uid
    have hsame : belongsTo uid sessionsList = belongsTo uid old := by
      rw [belongsTo_iff hnonempty hcallers,
        belongsTo_iff holdNonempty (howned.callers connect old hold)]
    rw [connectsOf, count_insert hold hsame]
    exact howned.tracked uid
  · intro other
    simp only [hkeys]
    exact howned.recipients other

theorem Owned.addConnect (howned : Owned owner service)
    (hnew : service.distributedConnectAbilityMap[connect]? = none)
    (hnotNull : connect ≠ 0) (hvalid : 0 ≤ owner connect)
    (hnonempty : sessionsList ≠ [])
    (hdevices : (sessionsList.map (·.destinationDeviceId)).Nodup)
    (hcallers : ∀ session ∈ sessionsList,
      session.callerInfo.uid = owner connect) :
    Owned owner {
      distributedConnectAbilityMap :=
        service.distributedConnectAbilityMap.insert connect sessionsList
      trackingUidMap := service.trackingUidMap.insert (owner connect)
        ((service.trackingUidMap[owner connect]?).getD 0 + 1)
      deathRecipients := connect :: service.deathRecipients } := by
  have hnotMem : connect ∉ service.distributedConnectAbilityMap := by
    rw [Std.TreeMap.mem_iff_isSome_getElem?, hnew]
    exact Bool.false_ne_true
  constructor
  · rw [getElem?_insert_eq, if_neg hnotNull, howned.notNull]
  · exact insert_nonempty howned.nonempty hnonempty
  · exact forall_insert howned.onePerDevice hdevices
  · exact forall_insert howned.callers hcallers
  · intro other hother
    rw [Std.TreeMap.mem_insert, Std.compare_eq_iff_eq] at hother
    rcases hother with rfl | hother
    · exact hvalid
    · exact howned.valid other hother
  · intro uid
    have hcount := howned.tracked uid
    rw [connectsOf, count_insert_new hnew, belongsTo_iff hnonempty hcallers,
      getElem?_insert_eq]
    simp only [decide_eq_true_eq]
    split_ifs with hsame
    · rw [hsame, Option.getD_some, hcount]
      rfl
    · exact hcount
  · intro other
    have hrecipients := howned.recipients other
    simp only [Std.TreeMap.mem_insert, Std.compare_eq_iff_eq]
    rw [List.count_cons, hrecipients]
    by_cases hsame : connect = other
    · subst hsame
      simp [hnotMem]
    · simp [hsame]

/-! ## One section -/

theorem addToSession_ne_nil (localDeviceId remoteDeviceId : Text)
    (element : ElementName) (callerInfo : CallerInfo)
    (targetComponent : TargetComponent) :
    addToSession localDeviceId remoteDeviceId element callerInfo
      targetComponent sessionsList ≠ [] := by
  cases sessionsList with
  | nil => exact List.cons_ne_nil _ _
  | cons session sessionsList =>
      unfold addToSession
      split_ifs <;> exact List.cons_ne_nil _ _

theorem destinationDeviceId_addElement (session : ConnectAbilitySession)
    (element : ElementName) :
    (session.addElement element).destinationDeviceId =
      session.destinationDeviceId := by
  unfold ConnectAbilitySession.addElement
  split_ifs <;> rfl

theorem callerInfo_addElement (session : ConnectAbilitySession)
    (element : ElementName) :
    (session.addElement element).callerInfo = session.callerInfo := by
  unfold ConnectAbilitySession.addElement
  split_ifs <;> rfl

theorem devices_addToSession (localDeviceId remoteDeviceId : Text)
    (element : ElementName) (callerInfo : CallerInfo)
    (targetComponent : TargetComponent) (sessionsList : SessionsList) :
    (addToSession localDeviceId remoteDeviceId element callerInfo
        targetComponent sessionsList).map (·.destinationDeviceId) =
      if remoteDeviceId ∈ sessionsList.map (·.destinationDeviceId) then
        sessionsList.map (·.destinationDeviceId)
      else sessionsList.map (·.destinationDeviceId) ++ [remoteDeviceId] := by
  induction sessionsList with
  | nil => simp [addToSession, destinationDeviceId_addElement]
  | cons session sessionsList ih =>
      by_cases hdevice : remoteDeviceId = session.destinationDeviceId
      · simp [addToSession, hdevice, destinationDeviceId_addElement]
      · rw [addToSession, if_neg hdevice, List.map_cons, ih]
        simp only [List.map_cons, List.mem_cons, hdevice, false_or]
        split_ifs <;> rfl

theorem callers_addToSession {callerInfo : CallerInfo}
    (hcaller : callerInfo.uid = uid)
    (hcallers : ∀ session ∈ sessionsList, session.callerInfo.uid = uid)
    (localDeviceId remoteDeviceId : Text) (element : ElementName)
    (targetComponent : TargetComponent) :
    ∀ session ∈ addToSession localDeviceId remoteDeviceId element callerInfo
      targetComponent sessionsList, session.callerInfo.uid = uid := by
  induction sessionsList with
  | nil =>
      intro session hsession
      rw [List.mem_singleton.mp hsession, callerInfo_addElement]
      exact hcaller
  | cons first sessionsList ih =>
      obtain ⟨hfirst, hrest⟩ := List.forall_mem_cons.mp hcallers
      unfold addToSession
      split_ifs
      · rw [List.forall_mem_cons, callerInfo_addElement]
        exact ⟨hfirst, hrest⟩
      · rw [List.forall_mem_cons]
        exact ⟨hfirst, ih hrest⟩

theorem nodup_addToSession
    (hnodup : (sessionsList.map (·.destinationDeviceId)).Nodup)
    (localDeviceId remoteDeviceId : Text) (element : ElementName)
    (callerInfo : CallerInfo) (targetComponent : TargetComponent) :
    ((addToSession localDeviceId remoteDeviceId element callerInfo
      targetComponent sessionsList).map (·.destinationDeviceId)).Nodup := by
  rw [devices_addToSession]
  split_ifs with hmem
  · exact hnodup
  · rw [← List.concat_eq_append]
    exact hnodup.concat hmem

theorem Owned.record (howned : Owned owner service) {callerInfo : CallerInfo}
    (hcaller : callerInfo.uid = owner connect) (hvalid : 0 ≤ callerInfo.uid)
    (localDeviceId remoteDeviceId : Text) (element : ElementName)
    (targetComponent : TargetComponent) :
    Owned owner (remoteConnectAbilityMappingLocked connect localDeviceId
      remoteDeviceId element callerInfo targetComponent service) := by
  unfold remoteConnectAbilityMappingLocked
  split_ifs with hnull
  · exact howned
  · cases hsessions : service.distributedConnectAbilityMap[connect]? with
    | none =>
        have hnil : (([] : SessionsList).map (·.destinationDeviceId)).Nodup :=
          List.nodup_nil
        have hadded := howned.addConnect hsessions hnull (hcaller ▸ hvalid)
          (addToSession_ne_nil localDeviceId remoteDeviceId element callerInfo
            targetComponent)
          (nodup_addToSession hnil localDeviceId remoteDeviceId element
            callerInfo targetComponent)
          (callers_addToSession hcaller (List.forall_mem_nil _) localDeviceId
            remoteDeviceId element targetComponent)
        rw [← hcaller] at hadded
        simpa [hsessions] using hadded
    | some sessionsList =>
        have hreplaced := howned.replaceSessions hsessions
          (addToSession_ne_nil localDeviceId remoteDeviceId element callerInfo
            targetComponent)
          (nodup_addToSession (howned.onePerDevice connect _ hsessions)
            localDeviceId remoteDeviceId element callerInfo targetComponent)
          (callers_addToSession hcaller (howned.callers connect _ hsessions)
            localDeviceId remoteDeviceId element targetComponent)
        simpa [hsessions] using hreplaced

theorem Owned.disconnect (howned : Owned owner service) :
    Owned owner (disconnectRemoteAbility connect service).2 := by
  unfold disconnectRemoteAbility
  split_ifs
  · exact howned
  · split
    · exact howned
    · next sessionsList hsessions =>
        have hdropped := howned.dropConnect hsessions
        rw [← howned.getUidLocked hsessions] at hdropped
        dsimp only
        split_ifs <;> exact hdropped

theorem Owned.removeDeviceSession (howned : Owned owner service)
    (deviceId : Text) :
    Owned owner (removeDeviceSession deviceId connect service).2 := by
  unfold DistributedSchedService.removeDeviceSession
  split
  · exact howned
  · next sessionsList hsessions =>
      have hnotNull : connect ≠ 0 := by
        rintro rfl
        rw [howned.notNull] at hsessions
        cases hsessions
      have hdropped := howned.dropConnect hsessions
      rw [← howned.getUidLocked hsessions, ← decrease_removeDeathRecipient]
        at hdropped
      dsimp only
      rw [if_pos hnotNull]
      split_ifs with hempty
      · exact hdropped
      · have hsublist := List.eraseP_sublist (l := sessionsList)
          (p := fun session => decide (session.destinationDeviceId = deviceId))
        apply howned.replaceSessions hsessions
        · rwa [List.isEmpty_iff] at hempty
        · exact (howned.onePerDevice connect _ hsessions).sublist
            (hsublist.map _)
        · intro session hsession
          exact howned.callers connect _ hsessions session
            (hsublist.mem hsession)

theorem Owned.removeConnectAbilityInfo (howned : Owned owner service)
    (deviceId : Text) :
    Owned owner (removeConnectAbilityInfo deviceId service).2 := by
  unfold DistributedSchedService.removeConnectAbilityInfo
  refine List.foldlRecOn
    (motive := fun state : _ × DistributedSchedService => Owned owner state.2)
    _ _ howned ?_
  intro state hstate connect _
  exact hstate.removeDeviceSession deviceId

theorem Owned.removeCaller
    {state : List ProcessDiedNotifyInfo × DistributedSchedService}
    (howned : Owned owner state.2) (callerInfo : CallerInfo) :
    Owned owner (removeCaller callerInfo connect state).2 := by
  unfold DistributedSchedService.removeCaller
  split
  · exact howned
  · exact howned
  · next first rest hsessions =>
      split_ifs with hsame hnotNull
      · have hdropped := howned.dropConnect hsessions
        have huid : callerInfo.uid = owner connect := by
          have hcaller := howned.callers connect _ hsessions first
            List.mem_cons_self
          simp only [ConnectAbilitySession.isSameCaller, Bool.and_eq_true,
            decide_eq_true_eq] at hsame
          rw [hsame.1.1.1, hcaller]
        rw [← huid] at hdropped
        exact hdropped
      · rw [not_not.mp hnotNull, howned.notNull] at hsessions
        cases hsessions
      · exact howned

theorem Owned.processConnectDied (howned : Owned owner service) :
    Owned owner (processConnectDied connect service).2 := by
  unfold DistributedSchedService.processConnectDied
  split_ifs
  · exact howned
  · split
    · exact howned
    · exact howned
    · next first rest _ =>
        refine List.foldlRecOn
          (motive := fun state : _ × DistributedSchedService =>
            Owned owner state.2) _ _ howned ?_
        intro state hstate other _
        exact hstate.removeCaller first.callerInfo

theorem Owned.step (howned : Owned owner service) {event : Section}
    (hused : UsedBy owner event) : Owned owner (step service event).2 := by
  cases event with
  | record connect localDeviceId remoteDeviceId element callerInfo
      targetComponent =>
      exact howned.record hused.1 hused.2 localDeviceId remoteDeviceId element
        targetComponent
  | disconnect connect => exact howned.disconnect
  | connectDied connect => exact howned.processConnectDied
  | deviceOffline deviceId => exact howned.removeConnectAbilityInfo deviceId

theorem owned_initial (owner : RemoteObject → Int32) : Owned owner {} where
  notNull := rfl
  nonempty _ := nofun
  onePerDevice _ _ := nofun
  callers _ _ := nofun
  valid _ := nofun
  tracked _ := rfl
  recipients _ := rfl

theorem checkDistributedConnectLocked_leak_iff
    (hcounts : CountsExactly service) (callerInfo : CallerInfo) :
    service.checkDistributedConnectLocked callerInfo =
        .error .bindAbilityLeak ↔
      0 ≤ callerInfo.uid ∧
        maxDistributedConnectNum ≤ connectsOf callerInfo.uid service := by
  have htracked := hcounts.tracked callerInfo.uid
  unfold checkDistributedConnectLocked
  by_cases hvalid : callerInfo.uid < 0
  · simp [hvalid, Int32.not_le.mpr hvalid]
  · rw [if_neg hvalid, ← htracked]
    simp only [Int32.not_lt.mp hvalid, true_and]
    cases service.trackingUidMap[callerInfo.uid]? with
    | none => simp [maxDistributedConnectNum]
    | some conns =>
        dsimp only
        split_ifs with hlimit <;> simp [hlimit]

end Counting

/-- In every run of sections whose connects each have one user, the connects are
counted exactly. -/
theorem countsExactly_run (owner : RemoteObject → Int32)
    (sections : List Section)
    (hused : ∀ event ∈ sections, UsedBy owner event) :
    CountsExactly (EventRun.run step {} sections).2 := by
  have hmeets : EventRun.Meets step (fun _ => UsedBy owner) {} sections :=
    EventRun.Meets.of_forall hused _
  have howned : Owned owner (EventRun.run step {} sections).2 :=
    hmeets.invariant (fun _ _ howned hused => howned.step hused)
      (owned_initial owner)
  exact howned.countsExactly

def sampleSections : List Section :=
  [.record 1 "self".toList "near".toList {} { uid := 100 } .harmony,
    .record 1 "self".toList "far".toList {} { uid := 100 } .harmony,
    .record 2 "self".toList "near".toList {} { uid := 100, pid := 7 } .harmony,
    .deviceOffline "near".toList, .connectDied 1, .disconnect 2]

theorem countsExactly_sampleSections :
    CountsExactly (EventRun.run step {} sampleSections).2 := by
  apply countsExactly_run (fun _ => 100)
  simp [sampleSections, UsedBy]

end DistributedSchedService
end Dmsfwk
