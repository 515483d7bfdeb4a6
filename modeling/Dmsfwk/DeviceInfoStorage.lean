import Dmsfwk.DistributedSchedService
import Dmsfwk.EventRun

/-!
# The network id of a device

`uuidNetworkIdMap_` has one network id for each uuid, and the device manager
knows the uuid of a network id.  A device that comes back under a new network id
takes the entry over; when the old id goes, the uuid is looked up again and the
entry is erased, whichever id it has by then.
-/

namespace Dmsfwk

structure DeviceInfoStorage (Info : Type) where
  uuidNetworkIdMap : Std.TreeMap Text Text := ∅
  remoteDevices : Std.TreeMap Text Info := ∅

/-- A task with a network id and what is known of the device, or a refresh with
the list of the device manager, if it gave one. -/
inductive DeviceEvent (Info : Type) where
  | deviceOnlineNotify (networkId : Text) (devInfo : Info)
  | deviceOfflineNotify (networkId : Text)
  | updateDeviceInfoStorage (trusted : Option (List (Text × Info)))

namespace DeviceInfoStorage

open EventRun OrderedMap

variable {Info : Type}

section Model

-- `GetUuidByNetworkId` of the device manager, empty when it fails.
variable (dmUuid : Text → Text)

def dnetworkUuid (networkId : Text) : Text :=
  if networkId = [] then [] else dmUuid networkId

def registerUuidNetworkIdMap (storage : DeviceInfoStorage Info)
    (networkId : Text) : DeviceInfoStorage Info :=
  let uuid := dnetworkUuid dmUuid networkId
  if uuid = [] then storage
  else { storage with
    uuidNetworkIdMap := storage.uuidNetworkIdMap.insert uuid networkId }

def unregisterUuidNetworkIdMap (storage : DeviceInfoStorage Info)
    (networkId : Text) : DeviceInfoStorage Info :=
  let uuid := dnetworkUuid dmUuid networkId
  if uuid = [] then storage
  else { storage with
    uuidNetworkIdMap := storage.uuidNetworkIdMap.erase uuid }

def addRemoteDevice (storage : DeviceInfoStorage Info) (device : Text × Info) :
    DeviceInfoStorage Info :=
  let registered := storage.registerUuidNetworkIdMap dmUuid device.1
  { registered with
    remoteDevices := registered.remoteDevices.insert device.1 device.2 }

def deviceOfflineNotify (storage : DeviceInfoStorage Info) (networkId : Text) :
    DeviceInfoStorage Info :=
  if networkId = [] then storage
  else
    let unregistered := storage.unregisterUuidNetworkIdMap dmUuid networkId
    { unregistered with
      remoteDevices := unregistered.remoteDevices.erase networkId }

def updateDeviceInfoStorage (storage : DeviceInfoStorage Info) :
    Option (List (Text × Info)) → Bool × DeviceInfoStorage Info
  | none => (false, storage)
  | some trusted => (true, trusted.foldl (addRemoteDevice dmUuid) storage)

def getUuidByNetworkId (storage : DeviceInfoStorage Info) (networkId : Text) :
    Text :=
  if networkId = [] then []
  else match firstMatch storage.uuidNetworkIdMap (· = networkId) with
    | some entry => entry.1
    | none => dnetworkUuid dmUuid networkId

def getNetworkIdByUuid (storage : DeviceInfoStorage Info) (uuid : Text) : Text :=
  if uuid = [] then [] else storage.uuidNetworkIdMap[uuid]?.getD []

def step (storage : DeviceInfoStorage Info) :
    DeviceEvent Info → Option Bool × DeviceInfoStorage Info
  | .deviceOnlineNotify networkId devInfo =>
      (none, storage.addRemoteDevice dmUuid (networkId, devInfo))
  | .deviceOfflineNotify networkId =>
      (none, storage.deviceOfflineNotify dmUuid networkId)
  | .updateDeviceInfoStorage trusted =>
      let (result, updated) := storage.updateDeviceInfoStorage dmUuid trusted
      (some result, updated)

/-! ## What should hold -/

def onlineAfter (online : Set Text) : DeviceEvent Info → Set Text
  | .deviceOnlineNotify networkId _ => insert networkId online
  | .deviceOfflineNotify networkId =>
      if networkId = [] then online else online \ {networkId}
  | .updateDeviceInfoStorage none => online
  | .updateDeviceInfoStorage (some trusted) =>
      online ∪ { networkId | networkId ∈ trusted.map (·.1) }

def trackedStep (tracked : DeviceInfoStorage Info × Set Text)
    (event : DeviceEvent Info) :
    Option Bool × DeviceInfoStorage Info × Set Text :=
  let stepped := tracked.1.step dmUuid event
  (stepped.1, stepped.2, onlineAfter tracked.2 event)

/-- A uuid with an online id leads to such an id and back, and one without to
nothing; an id that the device manager does not know has no uuid. -/
structure Follows (tracked : DeviceInfoStorage Info × Set Text) : Prop where
  devices : ∀ networkId,
    networkId ∈ tracked.1.remoteDevices ↔ networkId ∈ tracked.2
  online : ∀ uuid, uuid ≠ [] →
    (∃ networkId ∈ tracked.2, dnetworkUuid dmUuid networkId = uuid) →
    tracked.1.getNetworkIdByUuid uuid ∈ tracked.2 ∧
      dnetworkUuid dmUuid (tracked.1.getNetworkIdByUuid uuid) = uuid ∧
      tracked.1.getUuidByNetworkId dmUuid
        (tracked.1.getNetworkIdByUuid uuid) = uuid
  offline : ∀ uuid,
    (¬ ∃ networkId ∈ tracked.2, dnetworkUuid dmUuid networkId = uuid) →
    tracked.1.getNetworkIdByUuid uuid = []

/-- An id that goes is the only online one of its device. -/
def EventSound (tracked : DeviceInfoStorage Info × Set Text) :
    DeviceEvent Info → Prop
  | .deviceOfflineNotify networkId =>
      dnetworkUuid dmUuid networkId ≠ [] →
        ∀ other ∈ tracked.2, other ≠ networkId →
          dnetworkUuid dmUuid other ≠ dnetworkUuid dmUuid networkId
  | _ => True

end Model

/-! ## The map of the uuids -/

section Map

variable {dmUuid : Text → Text} {storage : DeviceInfoStorage Info}
  {online : Set Text}

def Resolved (dmUuid : Text → Text) (storage : DeviceInfoStorage Info) : Prop :=
  ∀ uuid networkId : Text, storage.uuidNetworkIdMap[uuid]? = some networkId →
    uuid ≠ [] ∧ dnetworkUuid dmUuid networkId = uuid

theorem Resolved.networkId_ne_nil (hresolved : storage.Resolved dmUuid)
    {uuid networkId : Text}
    (hentry : storage.uuidNetworkIdMap[uuid]? = some networkId) :
    networkId ≠ [] := by
  obtain ⟨hne, huuid⟩ := hresolved uuid networkId hentry
  rintro rfl
  exact hne (huuid.symm.trans (if_pos rfl))

theorem Resolved.getUuidByNetworkId (hresolved : storage.Resolved dmUuid)
    {uuid networkId : Text}
    (hentry : storage.uuidNetworkIdMap[uuid]? = some networkId) :
    storage.getUuidByNetworkId dmUuid networkId = uuid := by
  rw [DeviceInfoStorage.getUuidByNetworkId,
    if_neg (hresolved.networkId_ne_nil hentry)]
  cases hfirst : firstMatch storage.uuidNetworkIdMap (· = networkId) with
  | none => simpa using firstMatch_eq_none.mp hfirst uuid networkId hentry
  | some found =>
      obtain ⟨hfound, hsame, -⟩ := firstMatch_spec hfirst
      rw [decide_eq_true_eq] at hsame
      rw [hsame] at hfound
      exact (hresolved _ _ hfound).2.symm.trans (hresolved _ _ hentry).2

structure Current (dmUuid : Text → Text)
    (tracked : DeviceInfoStorage Info × Set Text) : Prop where
  devices : ∀ networkId,
    networkId ∈ tracked.1.remoteDevices ↔ networkId ∈ tracked.2
  entries : ∀ uuid networkId : Text,
    tracked.1.uuidNetworkIdMap[uuid]? = some networkId → networkId ∈ tracked.2
  known : ∀ networkId ∈ tracked.2, dnetworkUuid dmUuid networkId ≠ [] →
    tracked.1.uuidNetworkIdMap[dnetworkUuid dmUuid networkId]? ≠ none

theorem Resolved.follows_iff (hresolved : storage.Resolved dmUuid) :
    Follows dmUuid (storage, online) ↔ Current dmUuid (storage, online) := by
  have hget : ∀ {uuid networkId : Text},
      storage.uuidNetworkIdMap[uuid]? = some networkId →
      storage.getNetworkIdByUuid uuid = networkId := by
    intro uuid networkId hentry
    rw [getNetworkIdByUuid, if_neg (hresolved _ _ hentry).1, hentry,
      Option.getD_some]
  constructor
  · intro hfollows
    refine ⟨hfollows.devices, ?_, ?_⟩
    · intro uuid networkId hentry
      have hne := hresolved.networkId_ne_nil hentry
      by_cases hsome : ∃ other ∈ online, dnetworkUuid dmUuid other = uuid
      · have hmem := (hfollows.online uuid (hresolved _ _ hentry).1 hsome).1
        rwa [hget hentry] at hmem
      · have hnil := hfollows.offline uuid hsome
        rw [hget hentry] at hnil
        exact absurd hnil hne
    · intro networkId hmem hne hnone
      have hback := (hfollows.online _ hne ⟨networkId, hmem, rfl⟩).2.1
      rw [getNetworkIdByUuid, if_neg hne, hnone, Option.getD_none] at hback
      exact hne (hback.symm.trans (if_pos rfl))
  · intro hcurrent
    refine ⟨hcurrent.devices, ?_, ?_⟩
    · rintro _ hne ⟨networkId, hmem, rfl⟩
      obtain ⟨found, hfound⟩ :=
        Option.ne_none_iff_exists'.mp (hcurrent.known networkId hmem hne)
      rw [hget hfound]
      exact ⟨hcurrent.entries _ found hfound, (hresolved _ _ hfound).2,
        hresolved.getUuidByNetworkId hfound⟩
    · intro uuid hnone
      cases hentry : storage.uuidNetworkIdMap[uuid]? with
      | none => simp [getNetworkIdByUuid, hentry]
      | some networkId =>
          exact absurd ⟨networkId, hcurrent.entries _ _ hentry,
            (hresolved _ _ hentry).2⟩ hnone

end Map

/-! ## One step -/

section Steps

variable {dmUuid : Text → Text} {storage : DeviceInfoStorage Info}
  {online : Set Text}

theorem getElem?_addRemoteDevice (device : Text × Info) (uuid : Text) :
    (storage.addRemoteDevice dmUuid device).uuidNetworkIdMap[uuid]? =
      if dnetworkUuid dmUuid device.1 = uuid ∧ uuid ≠ [] then some device.1
      else storage.uuidNetworkIdMap[uuid]? := by
  rw [addRemoteDevice, registerUuidNetworkIdMap]
  split_ifs with hnil huuid huuid
  · exact absurd (huuid.1.symm.trans hnil) huuid.2
  · rfl
  · rw [getElem?_insert_eq, if_pos huuid.1]
  · rw [getElem?_insert_eq, if_neg]
    rintro rfl
    exact huuid ⟨rfl, hnil⟩

theorem mem_remoteDevices_addRemoteDevice (device : Text × Info)
    (networkId : Text) :
    networkId ∈ (storage.addRemoteDevice dmUuid device).remoteDevices ↔
      networkId = device.1 ∨ networkId ∈ storage.remoteDevices := by
  rw [addRemoteDevice, registerUuidNetworkIdMap]
  split_ifs <;>
    rw [Std.TreeMap.mem_insert, Std.compare_eq_iff_eq, eq_comm]

theorem Resolved.addRemoteDevice (hresolved : storage.Resolved dmUuid)
    (device : Text × Info) :
    (storage.addRemoteDevice dmUuid device).Resolved dmUuid := by
  intro uuid networkId hentry
  rw [getElem?_addRemoteDevice] at hentry
  split_ifs at hentry with huuid
  · rw [← Option.some.inj hentry]
    exact ⟨huuid.2, huuid.1⟩
  · exact hresolved uuid networkId hentry

theorem Current.addRemoteDevice (hcurrent : Current dmUuid (storage, online))
    (device : Text × Info) :
    Current dmUuid
      (storage.addRemoteDevice dmUuid device, insert device.1 online) where
  devices networkId := by
    rw [mem_remoteDevices_addRemoteDevice, hcurrent.devices, Set.mem_insert_iff]
  entries uuid networkId hentry := by
    rw [getElem?_addRemoteDevice] at hentry
    split_ifs at hentry
    · exact Or.inl (Option.some.inj hentry).symm
    · exact Or.inr (hcurrent.entries uuid networkId hentry)
  known networkId hmem hne := by
    rw [getElem?_addRemoteDevice]
    split_ifs with huuid
    · exact Option.some_ne_none _
    · rcases hmem with rfl | hmem
      · exact absurd ⟨rfl, hne⟩ huuid
      · exact hcurrent.known networkId hmem hne

theorem Resolved.foldl (hresolved : storage.Resolved dmUuid)
    (trusted : List (Text × Info)) :
    (trusted.foldl (DeviceInfoStorage.addRemoteDevice dmUuid) storage).Resolved
      dmUuid := by
  induction trusted generalizing storage with
  | nil => exact hresolved
  | cons device trusted ih => exact ih (hresolved.addRemoteDevice device)

theorem Current.foldl (hcurrent : Current dmUuid (storage, online))
    (trusted : List (Text × Info)) :
    Current dmUuid
      (trusted.foldl (DeviceInfoStorage.addRemoteDevice dmUuid) storage,
        online ∪ { networkId | networkId ∈ trusted.map (·.1) }) := by
  induction trusted generalizing storage online with
  | nil => simpa using hcurrent
  | cons device trusted ih =>
      have hset : online ∪
            { networkId | networkId ∈ (device :: trusted).map (·.1) } =
          insert device.1 online ∪
            { networkId | networkId ∈ trusted.map (·.1) } := by
        ext networkId
        simp only [List.map_cons, List.mem_cons, Set.mem_union, Set.mem_ofPred_eq,
          Set.mem_insert_iff]
        tauto
      rw [hset]
      exact ih (hcurrent.addRemoteDevice device)

theorem getElem?_deviceOfflineNotify (networkId uuid : Text) :
    (storage.deviceOfflineNotify dmUuid networkId).uuidNetworkIdMap[uuid]? =
      if dnetworkUuid dmUuid networkId = uuid ∧ uuid ≠ [] then none
      else storage.uuidNetworkIdMap[uuid]? := by
  rw [deviceOfflineNotify, unregisterUuidNetworkIdMap]
  split_ifs with hempty huuid hnil huuid huuid
  · subst hempty
    exact absurd (huuid.1.symm.trans (if_pos rfl)) huuid.2
  · rfl
  · exact absurd (huuid.1.symm.trans hnil) huuid.2
  · rfl
  · rw [getElem?_erase_eq, if_pos huuid.1]
  · rw [getElem?_erase_eq, if_neg]
    rintro rfl
    exact huuid ⟨rfl, hnil⟩

theorem mem_remoteDevices_offline {networkId other : Text}
    (hempty : networkId ≠ []) :
    other ∈ (storage.deviceOfflineNotify dmUuid networkId).remoteDevices ↔
      other ≠ networkId ∧ other ∈ storage.remoteDevices := by
  rw [deviceOfflineNotify, unregisterUuidNetworkIdMap, if_neg hempty]
  split_ifs <;>
    rw [Std.TreeMap.mem_erase, ne_eq, Std.compare_eq_iff_eq, ne_comm]

theorem Resolved.step (hresolved : storage.Resolved dmUuid)
    (event : DeviceEvent Info) : (storage.step dmUuid event).2.Resolved dmUuid := by
  cases event with
  | deviceOnlineNotify networkId devInfo => exact hresolved.addRemoteDevice _
  | deviceOfflineNotify networkId =>
      intro uuid other hentry
      rw [DeviceInfoStorage.step, getElem?_deviceOfflineNotify] at hentry
      split_ifs at hentry
      exact hresolved uuid other hentry
  | updateDeviceInfoStorage trusted =>
      cases trusted with
      | none => exact hresolved
      | some trusted => exact hresolved.foldl trusted

theorem current_offline_iff (hcurrent : Current dmUuid (storage, online))
    (hresolved : storage.Resolved dmUuid) (networkId : Text) :
    Current dmUuid (trackedStep dmUuid (storage, online)
        (.deviceOfflineNotify networkId)).2 ↔
      EventSound dmUuid (storage, online) (.deviceOfflineNotify networkId) := by
  by_cases hempty : networkId = []
  · subst hempty
    refine iff_of_true hcurrent fun hne => absurd (if_pos rfl) hne
  · have hset : onlineAfter online (.deviceOfflineNotify networkId :
        DeviceEvent Info) = online \ {networkId} := if_neg hempty
    rw [trackedStep, hset, DeviceInfoStorage.step]
    constructor
    · intro hafter hne other hmem hother huuid
      refine hafter.known other ⟨hmem, hother⟩ (huuid.symm ▸ hne) ?_
      rw [getElem?_deviceOfflineNotify, if_pos ⟨huuid.symm, huuid.symm ▸ hne⟩]
    · intro hsound
      refine ⟨fun other => ?_, fun uuid other hentry => ?_,
        fun other hmem hne => ?_⟩
      · rw [mem_remoteDevices_offline hempty, hcurrent.devices]
        exact and_comm
      · rw [getElem?_deviceOfflineNotify] at hentry
        split_ifs at hentry with hgone
        refine ⟨hcurrent.entries uuid other hentry, ?_⟩
        rintro rfl
        obtain ⟨hne, huuid⟩ := hresolved uuid other hentry
        exact hgone ⟨huuid, hne⟩
      · rw [getElem?_deviceOfflineNotify]
        split_ifs with hgone
        · exact absurd hgone.1.symm
            (hsound (hgone.1.symm ▸ hne) other hmem.1 hmem.2)
        · exact hcurrent.known other hmem.1 hne

theorem follows_step_iff (hresolved : storage.Resolved dmUuid)
    (hfollows : Follows dmUuid (storage, online)) (event : DeviceEvent Info) :
    Follows dmUuid (trackedStep dmUuid (storage, online) event).2 ↔
      EventSound dmUuid (storage, online) event := by
  have hcurrent := hresolved.follows_iff.mp hfollows
  refine (hresolved.step event).follows_iff.trans ?_
  cases event with
  | deviceOnlineNotify networkId devInfo =>
      exact iff_of_true (hcurrent.addRemoteDevice (networkId, devInfo)) trivial
  | deviceOfflineNotify networkId =>
      exact current_offline_iff hcurrent hresolved networkId
  | updateDeviceInfoStorage trusted =>
      cases trusted with
      | none => exact iff_of_true hcurrent trivial
      | some trusted => exact iff_of_true (hcurrent.foldl trusted) trivial

end Steps

/-! ## Runs -/

/-- The storage follows the network in every state on the way of exactly the
runs in which no id goes while another id of its device is online. -/
theorem follows_run_iff (dmUuid : Text → Text)
    (events : List (DeviceEvent Info)) :
    (∀ first, first <+: events → Follows dmUuid
        (run (trackedStep dmUuid) (({} : DeviceInfoStorage Info), ∅) first).2) ↔
      Meets (trackedStep dmUuid) (EventSound dmUuid) ({}, ∅) events := by
  have hresolved : Resolved dmUuid ({} : DeviceInfoStorage Info) := by
    rintro _ _ ⟨⟩
  have hfollows : Follows dmUuid (({} : DeviceInfoStorage Info), ∅) := by
    refine hresolved.follows_iff.mpr ⟨fun networkId => ?_, nofun, nofun⟩
    exact iff_of_false Std.TreeMap.not_mem_emptyc (Set.notMem_empty networkId)
  refine @forall_prefix_iff _ _ _ _ _ (fun tracked => Resolved dmUuid tracked.1)
    (Follows dmUuid) ?_ ?_ _ events hresolved hfollows
  · intro tracked event hresolved hfollows
    exact follows_step_iff hresolved hfollows event
  · intro tracked event hresolved _ _
    exact hresolved.step event

/-- Whatever comes and goes online, the id that is found for a uuid is one of
the device with this uuid. -/
theorem networkIds_resolve_run (dmUuid : Text → Text)
    (events : List (DeviceEvent Info)) (uuid : Text) :
    let storage := (run (step dmUuid) ({} : DeviceInfoStorage Info) events).2
    storage.getNetworkIdByUuid uuid = [] ∨
      storage.getUuidByNetworkId dmUuid (storage.getNetworkIdByUuid uuid) =
        uuid := by
  intro storage
  have hinvariant : ∀ (storage : DeviceInfoStorage Info) event,
      storage.Resolved dmUuid → (storage.step dmUuid event).2.Resolved dmUuid :=
    fun _ event hresolved => hresolved.step event
  have hresolved : storage.Resolved dmUuid :=
    run_invariant hinvariant events (by rintro _ _ ⟨⟩)
  unfold getNetworkIdByUuid
  split_ifs
  · exact .inl rfl
  · cases hentry : storage.uuidNetworkIdMap[uuid]? with
    | none => exact .inl rfl
    | some networkId => exact .inr (hresolved.getUuidByNetworkId hentry)

/-- A device comes back under a new id before the old one goes. -/
theorem not_follows_newNetworkId :
    ¬ ∀ first, first <+: ([.deviceOnlineNotify ['1'] (),
        .deviceOnlineNotify ['2'] (), .deviceOfflineNotify ['1']] :
          List (DeviceEvent Unit)) →
      Follows (fun _ => ['u'])
        (run (trackedStep fun _ => ['u']) ({}, ∅) first).2 := by
  intro hfollows
  have hback := ((hfollows _ List.prefix_rfl).online ['u'] (by decide)
    ⟨['2'], ⟨Or.inl rfl, by decide⟩, rfl⟩).2.1
  revert hback
  decide +kernel

end DeviceInfoStorage
end Dmsfwk
