import Dmsfwk.DMSContinueRecvMgr
import Dmsfwk.DistributedBmStorage
import Dmsfwk.ExecuteContinueData

/-!
# Whether a shown icon can be continued

A sink admits an icon by what the bundle manager knows of its bundle, and starts
the continuation by the record which the storage has saved of it.  This file
relates both checks for every layout of the two bundles, and the developer ids
which the recommended devices are chosen by with the check of these devices.
-/

namespace Dmsfwk

/-! ## Devices with their bundles -/

/-- A bundle of a device; `continuable` is the flag of its abilities. -/
structure InstalledBundle where
  bundleInfo : BundleInfo
  isApp : Bool := true
  continuable : AbilityInfo → Bool := fun _ => true
  name_ne : bundleInfo.name ≠ []

namespace InstalledBundle

def localBundleInfo (bundle : InstalledBundle) : LocalBundleInfo where
  isApp := bundle.isApp
  abilityInfos := bundle.bundleInfo.abilityInfos.map fun abilityInfo =>
    { name := abilityInfo.name
      moduleName := abilityInfo.moduleName
      continuable := bundle.continuable abilityInfo
      continueType := abilityInfo.continueType }

def isSaved (bundle : InstalledBundle) : Bool :=
  isContinuable bundle.bundleInfo
    (bundle.bundleInfo.abilityInfos.any bundle.continuable)

end InstalledBundle

/-- A device with the bundles it has installed, the ids which their records got,
and the developer ids which `GetAppProvisionInfo` answers for its accounts. -/
structure BundleDevice where
  networkId : Text
  udid : Text
  uuid : Text
  bundles : List InstalledBundle
  bundleNameId : Text → UInt16 := fun _ => 0
  createdAccounts : List Int32 := []
  activeAccount : Option Int32 := none
  getAppProvisionInfo : Text → Int32 → Option Text := fun _ _ => none
  getContinueBundle4Src : Text → Option (List Text) := fun _ => none
  udid_ne : udid ≠ []
  uuid_ne : uuid ≠ []
  nodup : (bundles.map (·.bundleInfo.name)).Nodup

namespace BundleDevice

def getLocalBundleInfo (device : BundleDevice) (bundleName : Text) :
    Option LocalBundleInfo :=
  (device.bundles.find? (·.bundleInfo.name = bundleName)).map
    InstalledBundle.localBundleInfo

def developerId (device : BundleDevice) (bundleName : Text) : Option Text :=
  device.activeAccount.bind (device.getAppProvisionInfo bundleName)

def recordDeveloperId (device : BundleDevice) (bundleName : Text) : Text :=
  ((device.createdAccounts.filterMap
    (device.getAppProvisionInfo bundleName)).find? (· ≠ [])).getD []

def record (device : BundleDevice) (bundle : InstalledBundle) :
    DmsBundleInfo :=
  convertToDistributedBundleInfo bundle.bundleInfo
    (device.recordDeveloperId bundle.bundleInfo.name)
    (device.bundleNameId bundle.bundleInfo.name)

def savedEntry (device : BundleDevice) (bundle : InstalledBundle) :
    Option StoredEntry :=
  if bundle.isSaved then
    some ⟨deviceAndNameToKey device.udid bundle.bundleInfo.name,
      some (device.record bundle)⟩
  else none

def entries (device : BundleDevice) : List StoredEntry :=
  ⟨publicKey device.udid, none⟩ :: device.bundles.filterMap device.savedEntry

/-- `IsSameDeveloperId`, for which a failed query gives an empty id. -/
def isSameDeveloperId (device : BundleDevice)
    (bundleNameInCurrentSide developerId4OtherSide : Text) : Bool :=
  if bundleNameInCurrentSide = [] ∨ developerId4OtherSide = [] then false
  else
    developerId4OtherSide =
      (device.developerId bundleNameInCurrentSide).getD []

end BundleDevice

structure BundleStore.Replicates (store : BundleStore)
    (device : BundleDevice) : Prop where
  isReady : store.isReady = true
  udid : store.getUdidByNetworkId device.networkId = device.udid
  uuid : store.getUuidByNetworkId device.networkId = device.uuid
  entries : store.getDeviceEntries device.uuid = some device.entries

/-! ## The icon and its continuation -/

def BundleDevice.recvAnswers (device : BundleDevice) (source : DmsBundleInfo) :
    RecvAnswers where
  getDistributedBundleInfo := some source
  getLocalBundleInfo := device.getLocalBundleInfo
  getContinueBundle4Src := device.getContinueBundle4Src
  getDeveloperId := device.developerId

def BundleDevice.Shows (device : BundleDevice) (source : DmsBundleInfo)
    (posted : PostedBroadcast) (mgr : DMSContinueRecvMgr)
    (icon : CurrentIconInfo) : Prop :=
  ⟨.active, icon⟩ ∈ (DMSContinueRecvMgr.dealOnBroadcastBusiness
    (device.recvAnswers source) posted mgr).1.notifications

namespace ContinueData

variable {AbilityInfo : Type}

def foundAbilities (store : BundleStore) (localDeviceId : Option Text)
    (cmd : ContinueDataCmd AbilityInfo) : List DmsAbilityInfo :=
  match localDeviceId with
  | none => []
  | some localDeviceId =>
      match store.getDistributedBundleInfo localDeviceId
          cmd.base.dstBundleName with
      | none => []
      | some distributedBundleInfo =>
          findSinkContinueAbilityInfo (srcModuleName cmd.want)
            (continueTypeFormat cmd.base.continueType)
            distributedBundleInfo.dmsAbilityInfos []

end ContinueData

/-- The data command of the continuation of the icon, for the ability which the
source has advertised. -/
structure ContinuesIcon {AbilityInfo : Type} (source : DmsBundleInfo)
    (advertised : DmsAbilityInfo) (icon : CurrentIconInfo)
    (cmd : ContinueDataCmd AbilityInfo) : Prop where
  srcBundleName : cmd.base.srcBundleName = source.bundleName
  srcDeveloperId : cmd.base.srcDeveloperId = source.developerId
  moduleName : ContinueData.srcModuleName cmd.want = advertised.moduleName
  dstBundleName : cmd.base.dstBundleName = icon.bundleName
  continueType : cmd.base.continueType = icon.continueType

/-- The sink finds an ability for the command, and takes the developer of the
source for the one of its own bundle. -/
structure BundleDevice.Starts {AbilityInfo : Type} (device : BundleDevice)
    (store : BundleStore) (cmd : ContinueDataCmd AbilityInfo) : Prop where
  finds : ContinueData.foundAbilities store (some device.networkId) cmd ≠ []
  developer : cmd.base.dstBundleName ≠ cmd.base.srcBundleName →
    device.isSameDeveloperId cmd.base.dstBundleName
      cmd.base.srcDeveloperId = true

/-- The bundle has an ability with the continue type, up to one suffix for quick
starts at each of them; and its key is not taken for the one of the public
record. -/
def BundleDevice.Declares (device : BundleDevice)
    (bundleName continueType : Text) : Prop :=
  ¬ publicKey device.udid <:+: deviceAndNameToKey device.udid bundleName ∧
    ∃ bundle ∈ device.bundles, bundle.bundleInfo.name = bundleName ∧
      ∃ abilityInfo ∈ bundle.bundleInfo.abilityInfos,
        ∃ item ∈ abilityInfo.continueType,
          ContinueData.continueTypeFormat item =
            ContinueData.continueTypeFormat continueType

/-! ## The recommended devices -/

def BundleStore.getDistributeInfosByNetworkId (networkId : Text)
    (store : BundleStore) : Option (List DmsBundleInfo) :=
  let udid := store.getUdidByNetworkId networkId
  let uuid := store.getUuidByNetworkId networkId
  if !store.isReady then none
  else if udid = [] ∨ uuid = [] then none
  else match store.getDeviceEntries uuid with
    | none | some [] => none
    | some remoteEntries =>
        some (remoteEntries.filterMap fun entry =>
          if publicKey udid <:+: entry.key then none else entry.value)

def isContinuableWithDiffBundle (bundleName : Text) (info : DmsBundleInfo) :
    Bool :=
  info.dmsAbilityInfos.any fun abilityInfo =>
    bundleName ∈ abilityInfo.continueBundleName

def availableBundle (store : BundleStore) (localDeveloperId : Option Text)
    (bundleName networkId : Text) : Option DmsBundleInfo :=
  match store.getDistributedBundleInfo networkId bundleName with
  | some sameBundleInfo => some sameBundleInfo
  | none =>
      (store.getDistributeInfosByNetworkId networkId).bind fun bundleInfoList =>
        bundleInfoList.find? fun diffBundleInfo =>
          diffBundleInfo.developerId = localDeveloperId.getD [] &&
            isContinuableWithDiffBundle bundleName diffBundleInfo

def getAvailableRecommendList (store : BundleStore)
    (localDeveloperId : Option Text) (networkIdList : List Text)
    (bundleName : Text) : List (Text × DmsBundleInfo) :=
  networkIdList.filterMap fun networkId =>
    (availableBundle store localDeveloperId bundleName networkId).map
      fun info => (networkId, info)

/-- The check of the developer in `CheckStartPermission` of the device, for the
developer id which `PackDataCmd` sends. -/
def BundleDevice.Accepts (device : BundleDevice)
    (localDeveloperId : Option Text) (bundleName : Text)
    (candidate : DmsBundleInfo) : Prop :=
  candidate.bundleName ≠ bundleName →
    device.isSameDeveloperId candidate.bundleName
      (localDeveloperId.getD []) = true

/-! ## The record of a bundle -/

theorem filterMap_of_nodup {α β κ : Type} {list : List α} {key : α → κ}
    (hnodup : (list.map key).Nodup) {found : α} (hfound : found ∈ list)
    {value : α → Option β}
    (hother : ∀ other ∈ list, key other ≠ key found → value other = none) :
    list.filterMap value = (value found).toList := by
  induction list with
  | nil => cases hfound
  | cons head tail ih =>
      obtain ⟨hhead, htail⟩ := List.nodup_cons.mp hnodup
      rcases List.mem_cons.mp hfound with rfl | hmem
      · have hrest : tail.filterMap value = [] := by
          rw [List.filterMap_eq_nil_iff]
          intro other hmem
          refine hother other (List.mem_cons_of_mem _ hmem) fun hkey => ?_
          exact hhead (hkey ▸ List.mem_map_of_mem hmem)
        rw [List.filterMap_cons, hrest]
        cases value found <;> rfl
      · have hnone : value head = none := by
          refine hother head List.mem_cons_self fun hkey => hhead ?_
          rw [hkey]
          exact List.mem_map_of_mem hmem
        rw [List.filterMap_cons, hnone]
        exact ih htail hmem fun other hin =>
          hother other (List.mem_cons_of_mem _ hin)

theorem continueTypes_convertAbilities (pos : UInt8)
    (abilityInfos : List AbilityInfo) :
    (convertAbilities pos abilityInfos).map (·.continueType) =
      abilityInfos.map (·.continueType) := by
  induction abilityInfos generalizing pos with
  | nil => rfl
  | cons abilityInfo abilityInfos ih =>
      simp only [convertAbilities, List.map_cons, ih]

namespace BundleDevice

variable {device : BundleDevice} {store : BundleStore}
  {bundle : InstalledBundle}

theorem bundleName_record (device : BundleDevice) (bundle : InstalledBundle) :
    (device.record bundle).bundleName = bundle.bundleInfo.name := by
  unfold record convertToDistributedBundleInfo
  rw [if_neg bundle.name_ne]

theorem developerId_record (device : BundleDevice) (bundle : InstalledBundle) :
    (device.record bundle).developerId =
      device.recordDeveloperId bundle.bundleInfo.name := by
  unfold record convertToDistributedBundleInfo
  rw [if_neg bundle.name_ne]

theorem dmsAbilityInfos_record (device : BundleDevice)
    (bundle : InstalledBundle) :
    (device.record bundle).dmsAbilityInfos =
      convertAbilities 0 bundle.bundleInfo.abilityInfos := by
  unfold record convertToDistributedBundleInfo
  rw [if_neg bundle.name_ne]

theorem getDistributedBundleInfo_eq (hreplicates : store.Replicates device)
    (hbundle : bundle ∈ device.bundles) :
    store.getDistributedBundleInfo device.networkId bundle.bundleInfo.name =
      if bundle.isSaved ∧ ¬ publicKey device.udid <:+:
          deviceAndNameToKey device.udid bundle.bundleInfo.name then
        some (device.record bundle)
      else none := by
  have hpublic : publicKey device.udid <:+: publicKey device.udid :=
    List.infix_rfl
  unfold BundleStore.getDistributedBundleInfo
  simp only [hreplicates.isReady, hreplicates.udid, hreplicates.uuid,
    hreplicates.entries, device.udid_ne, device.uuid_ne, Bool.not_true,
    Bool.false_eq_true, or_self, if_false]
  rw [entries, List.filterMap_cons, if_pos hpublic, List.filterMap_filterMap,
    filterMap_of_nodup device.nodup hbundle]
  · unfold savedEntry
    by_cases hsaved : bundle.isSaved = true
    · by_cases hkey : publicKey device.udid <:+:
          deviceAndNameToKey device.udid bundle.bundleInfo.name
      · simp [hsaved, hkey]
      · simp [hsaved, hkey, Option.filter, bundleName_record]
    · simp [hsaved]
  · intro other _ hname
    unfold savedEntry
    split_ifs
    · simp [Option.filter, bundleName_record, hname]
    · rfl

theorem findSinkContinueAbilityInfo_ne_nil_iff
    (moduleName continueType : Text) (abilityInfos : List DmsAbilityInfo) :
    ContinueData.findSinkContinueAbilityInfo moduleName
        (ContinueData.continueTypeFormat continueType) abilityInfos [] ≠ [] ↔
      ∃ abilityInfo ∈ abilityInfos,
        ContinueData.declares continueType abilityInfo = true := by
  have hhead := ContinueData.head?_findSinkContinueAbilityInfo moduleName
    continueType abilityInfos []
  rw [List.nil_append] at hhead
  rw [← not_iff_not, not_not, ← List.head?_eq_none_iff, hhead,
    Option.or_eq_none_iff, List.head?_eq_none_iff, List.filter_eq_nil_iff]
  constructor
  · rintro ⟨-, hnone⟩ ⟨abilityInfo, hmem, hdeclares⟩
    exact hnone abilityInfo hmem hdeclares
  · intro hnone
    have hall : ∀ abilityInfo ∈ abilityInfos,
        ¬ContinueData.declares continueType abilityInfo = true :=
      fun abilityInfo hmem hdeclares => hnone ⟨abilityInfo, hmem, hdeclares⟩
    exact ⟨by rw [List.filter_eq_nil_iff.mpr hall]; rfl, hall⟩

theorem declares_record_iff (device : BundleDevice) (bundle : InstalledBundle)
    (continueType : Text) :
    (∃ abilityInfo ∈ (device.record bundle).dmsAbilityInfos,
        ContinueData.declares continueType abilityInfo = true) ↔
      ∃ abilityInfo ∈ bundle.bundleInfo.abilityInfos,
        ∃ item ∈ abilityInfo.continueType,
          ContinueData.continueTypeFormat item =
            ContinueData.continueTypeFormat continueType := by
  have htypes : (device.record bundle).dmsAbilityInfos.map (·.continueType) =
      bundle.bundleInfo.abilityInfos.map (·.continueType) := by
    rw [dmsAbilityInfos_record]
    exact continueTypes_convertAbilities 0 _
  have hmem (types : List Text) :
      (∃ abilityInfo ∈ (device.record bundle).dmsAbilityInfos,
        abilityInfo.continueType = types) ↔
      ∃ abilityInfo ∈ bundle.bundleInfo.abilityInfos,
        abilityInfo.continueType = types := by
    rw [← List.mem_map, htypes, List.mem_map]
  simp only [ContinueData.declares, List.any_eq_true, decide_eq_true_eq]
  constructor
  · rintro ⟨abilityInfo, hin, hitem⟩
    obtain ⟨found, hfound, heq⟩ := (hmem _).mp ⟨abilityInfo, hin, rfl⟩
    exact ⟨found, hfound, heq.symm ▸ hitem⟩
  · rintro ⟨abilityInfo, hin, hitem⟩
    obtain ⟨found, hfound, heq⟩ := (hmem _).mpr ⟨abilityInfo, hin, rfl⟩
    exact ⟨found, hfound, heq.symm ▸ hitem⟩

theorem eq_of_name_eq {other : InstalledBundle}
    (hbundle : bundle ∈ device.bundles) (hother : other ∈ device.bundles)
    (hname : other.bundleInfo.name = bundle.bundleInfo.name) :
    other = bundle :=
  List.inj_on_of_nodup_map device.nodup hother hbundle hname

theorem foundAbilities_ne_nil_iff {AbilityInfo : Type}
    {cmd : ContinueDataCmd AbilityInfo}
    (hreplicates : store.Replicates device) (hbundle : bundle ∈ device.bundles)
    (hsaved : bundle.isSaved = true)
    (hname : cmd.base.dstBundleName = bundle.bundleInfo.name) :
    ContinueData.foundAbilities store (some device.networkId) cmd ≠ [] ↔
      device.Declares bundle.bundleInfo.name cmd.base.continueType := by
  have hdeclares : device.Declares bundle.bundleInfo.name
        cmd.base.continueType ↔
      ¬ publicKey device.udid <:+:
          deviceAndNameToKey device.udid bundle.bundleInfo.name ∧
        ∃ abilityInfo ∈ (device.record bundle).dmsAbilityInfos,
          ContinueData.declares cmd.base.continueType abilityInfo = true := by
    rw [declares_record_iff]
    refine and_congr_right fun _ => ⟨?_, fun hability => ?_⟩
    · rintro ⟨other, hother, hsame, hability⟩
      exact eq_of_name_eq hbundle hother hsame ▸ hability
    · exact ⟨bundle, hbundle, rfl, hability⟩
  rw [hdeclares]
  unfold ContinueData.foundAbilities
  dsimp only
  rw [hname, getDistributedBundleInfo_eq hreplicates hbundle]
  by_cases hkey : publicKey device.udid <:+:
      deviceAndNameToKey device.udid bundle.bundleInfo.name
  · rw [if_neg fun hsome => hsome.2 hkey]
    simp [hkey]
  · rw [if_pos ⟨hsaved, hkey⟩]
    dsimp only
    rw [findSinkContinueAbilityInfo_ne_nil_iff]
    exact ⟨fun hability => ⟨hkey, hability⟩, And.right⟩

/-! ## Shown icons -/

theorem mem_of_getLocalBundleInfo {bundleName : Text}
    {localBundleInfo : LocalBundleInfo}
    (hinfo : device.getLocalBundleInfo bundleName = some localBundleInfo) :
    ∃ bundle ∈ device.bundles, bundle.bundleInfo.name = bundleName ∧
      localBundleInfo = bundle.localBundleInfo := by
  obtain ⟨bundle, hfind, hlocal⟩ := Option.map_eq_some_iff.mp hinfo
  refine ⟨bundle, List.mem_of_find?_eq_some hfind, ?_, hlocal.symm⟩
  simpa using List.find?_some hfind

variable {source : DmsBundleInfo}

theorem getFinalBundleName_eq_some {bundleName : Text}
    {localBundleInfo : LocalBundleInfo}
    (hfinal : getFinalBundleName (device.recvAnswers source) source =
      some (bundleName, localBundleInfo)) :
    device.getLocalBundleInfo bundleName = some localBundleInfo ∧
      (bundleName ≠ source.bundleName →
        device.developerId bundleName = some source.developerId) := by
  unfold getFinalBundleName recvAnswers at hfinal
  dsimp only at hfinal
  split at hfinal
  · next localInfo hlocal =>
      obtain ⟨rfl, rfl⟩ := Prod.mk.inj (Option.some.inj hfinal)
      exact ⟨hlocal, fun hne => absurd rfl hne⟩
  · split at hfinal
    · cases hfinal
    · obtain ⟨item, -, hitem⟩ := List.exists_of_findSome?_eq_some hfinal
      split_ifs at hitem with hdeveloper
      obtain ⟨localInfo, hlocal, heq⟩ := Option.map_eq_some_iff.mp hitem
      obtain ⟨rfl, rfl⟩ := Prod.mk.inj heq
      exact ⟨hlocal, fun _ => hdeveloper⟩

theorem isSaved_of_isBundleContinuable
    {srcAbilityName srcModuleName srcContinueType : Text}
    (hcontinuable : isBundleContinuable bundle.localBundleInfo srcAbilityName
      srcModuleName srcContinueType = true) : bundle.isSaved = true := by
  unfold isBundleContinuable at hcontinuable
  obtain ⟨ability, hmem, hability⟩ := List.any_eq_true.mp hcontinuable
  obtain ⟨abilityInfo, hin, rfl⟩ := List.mem_map.mp hmem
  have hflag : bundle.continuable abilityInfo = true :=
    (Bool.and_eq_true_iff.mp hability).1
  unfold InstalledBundle.isSaved isContinuable
  rw [Bool.and_eq_true_iff]
  exact ⟨by simpa using bundle.name_ne,
    List.any_eq_true.mpr ⟨abilityInfo, hin, hflag⟩⟩

variable {posted : PostedBroadcast} {icon : CurrentIconInfo}

theorem saved_of_accepted {isScreenOn : Bool}
    (haccepted : checkBroadcast (device.recvAnswers source) isScreenOn posted =
      .accepted icon) (hactive : posted.broadcast.state = .active) :
    (∃ bundle ∈ device.bundles, bundle.bundleInfo.name = icon.bundleName ∧
      bundle.isSaved = true) ∧
    (icon.bundleName ≠ source.bundleName →
      device.developerId icon.bundleName = some source.developerId) ∧
    icon.continueType =
      (findContinueType source posted.broadcast.continueTypeId).1 := by
  unfold checkBroadcast at haccepted
  split at haccepted
  · cases haccepted
  · next found hfound =>
      obtain rfl : source = found := Option.some.inj hfound
      dsimp only at haccepted
      split at haccepted
      · cases haccepted
      · next bundleName localBundleInfo hfinal =>
          split_ifs at haccepted with happ hrefused hscreen
          obtain ⟨hlocal, hdeveloper⟩ := getFinalBundleName_eq_some hfinal
          obtain ⟨bundle, hbundle, hname, rfl⟩ :=
            mem_of_getLocalBundleInfo hlocal
          cases haccepted
          refine ⟨⟨bundle, hbundle, hname, ?_⟩, hdeveloper, rfl⟩
          have hcontinuable := fun hfalse => hrefused ⟨hactive, hfalse⟩
          exact isSaved_of_isBundleContinuable
            (Bool.eq_true_of_not_eq_false hcontinuable)

/-- An icon which is shown is one of a saved bundle, with the continue type that
the source has advertised; another bundle than the source's has its developer
id. -/
theorem Shows.of_saved {mgr : DMSContinueRecvMgr}
    (hshows : device.Shows source posted mgr icon) :
    (∃ bundle ∈ device.bundles, bundle.bundleInfo.name = icon.bundleName ∧
      bundle.isSaved = true) ∧
    (icon.bundleName ≠ source.bundleName →
      device.developerId icon.bundleName = some source.developerId) ∧
    icon.continueType =
      (findContinueType source posted.broadcast.continueTypeId).1 := by
  unfold Shows DMSContinueRecvMgr.dealOnBroadcastBusiness at hshows
  split at hshows
  · unfold DMSContinueRecvMgr.retryPostBroadcast at hshows
    split_ifs at hshows <;> simp at hshows
  · unfold DMSContinueRecvMgr.notifyIconDisappear at hshows
    dsimp only at hshows
    split_ifs at hshows <;> simp at hshows
  · simp at hshows
  · next received haccepted =>
      dsimp only at hshows
      split at hshows
      · simp at hshows
      · have hicon : posted.broadcast.state = .active ∧ received = icon := by
          have hmem := List.mem_singleton.mp hshows
          injection hmem with hstate hreceived
          exact ⟨hstate.symm, hreceived.symm⟩
        obtain ⟨hactive, rfl⟩ := hicon
        exact saved_of_accepted haccepted hactive

theorem isSameDeveloperId_iff {bundleName developerId4OtherSide : Text} :
    device.isSameDeveloperId bundleName developerId4OtherSide = true ↔
      bundleName ≠ [] ∧ developerId4OtherSide ≠ [] ∧
        device.developerId bundleName = some developerId4OtherSide := by
  unfold isSameDeveloperId
  split_ifs with hempty
  · rcases hempty with hname | hother
    · simp [hname]
    · simp [hother]
  · obtain ⟨hname, hother⟩ := not_or.mp hempty
    cases hid : device.developerId bundleName with
    | none => simp [hother]
    | some developerId => simp [hname, hother, eq_comm]

theorem starts_iff {AbilityInfo : Type} {mgr : DMSContinueRecvMgr}
    {advertised : DmsAbilityInfo} {cmd : ContinueDataCmd AbilityInfo}
    (hreplicates : store.Replicates device)
    (hshows : device.Shows source posted mgr icon)
    (hcmd : ContinuesIcon source advertised icon cmd) :
    device.Starts store cmd ↔
      device.Declares icon.bundleName
        (findContinueType source posted.broadcast.continueTypeId).1 ∧
      (icon.bundleName ≠ source.bundleName → source.developerId ≠ []) := by
  obtain ⟨⟨bundle, hbundle, hname, hsaved⟩, hdeveloper, htype⟩ :=
    hshows.of_saved
  have hdst : cmd.base.dstBundleName = bundle.bundleInfo.name :=
    hcmd.dstBundleName.trans hname.symm
  have hfinds := foundAbilities_ne_nil_iff hreplicates hbundle hsaved hdst
  rw [hname, hcmd.continueType, htype] at hfinds
  have hnonempty : icon.bundleName ≠ [] := hname ▸ bundle.name_ne
  have hsame (hne : icon.bundleName ≠ source.bundleName) :
      device.isSameDeveloperId icon.bundleName source.developerId = true ↔
        source.developerId ≠ [] := by
    rw [isSameDeveloperId_iff]
    exact ⟨fun h => h.2.1, fun h => ⟨hnonempty, h, hdeveloper hne⟩⟩
  constructor
  · rintro ⟨hfound, hcheck⟩
    rw [hcmd.dstBundleName, hcmd.srcBundleName, hcmd.srcDeveloperId] at hcheck
    exact ⟨hfinds.mp hfound, fun hne => (hsame hne).mp (hcheck hne)⟩
  · rintro ⟨hdeclares, hid⟩
    refine ⟨hfinds.mpr hdeclares, ?_⟩
    rw [hcmd.dstBundleName, hcmd.srcBundleName, hcmd.srcDeveloperId]
    exact fun hne => (hsame hne).mpr (hid hne)

/-! ## Recommended devices -/

theorem bundleName_of_getDistributedBundleInfo {networkId bundleName : Text}
    {info : DmsBundleInfo}
    (hinfo : store.getDistributedBundleInfo networkId bundleName = some info) :
    info.bundleName = bundleName := by
  unfold BundleStore.getDistributedBundleInfo at hinfo
  dsimp only at hinfo
  split_ifs at hinfo
  split at hinfo
  · cases hinfo
  · split at hinfo
    · next found hfound =>
        have hmem : info ∈ [found] := by simp [Option.some.inj hinfo]
        rw [← hfound] at hmem
        obtain ⟨entry, -, hentry⟩ := List.mem_filterMap.mp hmem
        split_ifs at hentry
        simpa using (Option.filter_eq_some_iff.mp hentry).2
    · cases hinfo

theorem record_of_mem_infos {infos : List DmsBundleInfo} {info : DmsBundleInfo}
    (hreplicates : store.Replicates device)
    (hinfos : store.getDistributeInfosByNetworkId device.networkId = some infos)
    (hinfo : info ∈ infos) :
    ∃ bundle ∈ device.bundles, info = device.record bundle := by
  unfold BundleStore.getDistributeInfosByNetworkId at hinfos
  simp only [hreplicates.isReady, hreplicates.udid, hreplicates.uuid,
    hreplicates.entries, device.udid_ne, device.uuid_ne, Bool.not_true,
    Bool.false_eq_true, or_self, if_false, entries] at hinfos
  rw [← Option.some.inj hinfos] at hinfo
  obtain ⟨entry, hentry, hvalue⟩ := List.mem_filterMap.mp hinfo
  split_ifs at hvalue
  rcases List.mem_cons.mp hentry with rfl | hsaved
  · cases hvalue
  · obtain ⟨bundle, hbundle, hput⟩ := List.mem_filterMap.mp hsaved
    unfold savedEntry at hput
    split_ifs at hput
    refine ⟨bundle, hbundle, ?_⟩
    rw [← Option.some.inj hput] at hvalue
    exact (Option.some.inj hvalue).symm

theorem accepts_iff {localDeveloperId : Option Text} {bundleName : Text}
    {candidate : DmsBundleInfo} (hreplicates : store.Replicates device)
    (hcandidate : availableBundle store localDeveloperId bundleName
      device.networkId = some candidate) :
    device.Accepts localDeveloperId bundleName candidate ↔
      candidate.bundleName = bundleName ∨
        (localDeveloperId.getD [] ≠ [] ∧
          device.developerId candidate.bundleName =
            some (device.recordDeveloperId candidate.bundleName)) := by
  unfold Accepts
  by_cases hsame : candidate.bundleName = bundleName
  · simp [hsame]
  unfold availableBundle at hcandidate
  split at hcandidate
  · next found hfound =>
      rw [Option.some.inj hcandidate] at hfound
      exact absurd (bundleName_of_getDistributedBundleInfo hfound) hsame
  · obtain ⟨infos, hinfos, hfind⟩ := Option.bind_eq_some_iff.mp hcandidate
    obtain ⟨bundle, hbundle, hrecord⟩ := record_of_mem_infos hreplicates hinfos
      (List.mem_of_find?_eq_some hfind)
    have hchosen := List.find?_some hfind
    rw [Bool.and_eq_true_iff, decide_eq_true_eq] at hchosen
    have hname : candidate.bundleName ≠ [] := by
      rw [hrecord, bundleName_record]
      exact bundle.name_ne
    have hid : device.recordDeveloperId candidate.bundleName =
        localDeveloperId.getD [] := by
      rw [← hchosen.1, hrecord, bundleName_record, developerId_record]
    rw [isSameDeveloperId_iff, hid]
    simp [hsame, hname]

end BundleDevice

/-! ## What is shown and recommended -/

/-- A shown icon can be continued exactly when its bundle declares the advertised
type and a foreign developer has an id; a recommended device takes its candidate
for one of the same developer exactly when the id is not empty and the record
has the id of the active account. -/
theorem continuable_iff {AbilityInfo : Type} :
    (∀ (device : BundleDevice) (store : BundleStore) (source : DmsBundleInfo)
        (posted : PostedBroadcast) (mgr : DMSContinueRecvMgr)
        (icon : CurrentIconInfo) (cmd : ContinueDataCmd AbilityInfo),
      store.Replicates device → device.Shows source posted mgr icon →
      ContinuesIcon source
        (findContinueType source posted.broadcast.continueTypeId).2 icon cmd →
      (device.Starts store cmd ↔
        device.Declares icon.bundleName
            (findContinueType source posted.broadcast.continueTypeId).1 ∧
          (icon.bundleName ≠ source.bundleName →
            source.developerId ≠ []))) ∧
    ∀ (device : Text → BundleDevice) (store : BundleStore)
        (localDeveloperId : Option Text) (networkIdList : List Text)
        (bundleName : Text),
      (∀ networkId ∈ networkIdList, (device networkId).networkId = networkId ∧
        store.Replicates (device networkId)) →
      ∀ candidate ∈ getAvailableRecommendList store localDeveloperId
          networkIdList bundleName,
        ((device candidate.1).Accepts localDeveloperId bundleName candidate.2 ↔
          candidate.2.bundleName = bundleName ∨
            (localDeveloperId.getD [] ≠ [] ∧
              (device candidate.1).developerId candidate.2.bundleName =
                some ((device candidate.1).recordDeveloperId
                  candidate.2.bundleName))) := by
  refine ⟨fun device store source posted mgr icon cmd hreplicates hshows hcmd =>
    BundleDevice.starts_iff hreplicates hshows hcmd, ?_⟩
  intro device store localDeveloperId networkIdList bundleName hdevices
    candidate hcandidate
  obtain ⟨networkId, hmem, hinfo⟩ := List.mem_filterMap.mp hcandidate
  obtain ⟨info, havailable, rfl⟩ := Option.map_eq_some_iff.mp hinfo
  obtain ⟨hnetworkId, hreplicates⟩ := hdevices networkId hmem
  exact BundleDevice.accepts_iff hreplicates (hnetworkId.symm ▸ havailable)

/-! ### A bundle with another type -/

/-- A device whose bundle `b` has one ability with the continue type. -/
def sampleBundleDevice (continueType : Text) : BundleDevice where
  networkId := ['n']
  udid := ['u']
  uuid := ['w']
  bundles := [{
    bundleInfo := {
      name := ['b']
      abilityInfos := [{
        name := ['A']
        moduleName := ['m']
        continueType := [continueType]
        continueBundleNames := [['a']] }] }
    name_ne := by simp }]
  udid_ne := by simp
  uuid_ne := by simp
  nodup := by simp

def sampleBundleStore (device : BundleDevice) : BundleStore where
  getUdidByNetworkId := fun _ => device.udid
  getUuidByNetworkId := fun _ => device.uuid
  getDeviceEntries := fun _ => some device.entries
  getEntries := fun _ => none

theorem replicates_sampleBundleStore (device : BundleDevice) :
    (sampleBundleStore device).Replicates device := ⟨rfl, rfl, rfl, rfl⟩

/-- The source has the type `x` at the ability of the same name. -/
def sampleSourceBundle : DmsBundleInfo where
  bundleName := ['b']
  dmsAbilityInfos := [{
    abilityName := ['A'], continueType := [['x']], moduleName := ['m'] }]

def samplePosted : PostedBroadcast where
  senderNetworkId := ['s']
  broadcast := { bundleNameId := 0, continueTypeId := 0, state := .active }

def sampleIcon : CurrentIconInfo where
  senderNetworkId := ['s']
  bundleName := ['b']
  continueType := ['x']
  sourceBundleName := ['b']

def sampleIconCmd : ContinueDataCmd Unit where
  base := {
    srcBundleName := ['b'], dstBundleName := ['b'], continueType := ['x'] }
  want := { paramModuleName := ['m'] }
  abilityInfo := ()
  requestCode := 0

/-- Two devices of one account: the icon of a bundle with the very type, and a
candidate which is the same bundle. -/
theorem continuable_sameType :
    (sampleBundleDevice ['x']).Starts
        (sampleBundleStore (sampleBundleDevice ['x'])) sampleIconCmd ∧
      ∀ candidate ∈ getAvailableRecommendList
          (sampleBundleStore (sampleBundleDevice ['x'])) none [['n']] ['b'],
        (sampleBundleDevice ['x']).Accepts none ['b'] candidate.2 := by
  have hreplicates := replicates_sampleBundleStore (sampleBundleDevice ['x'])
  have hshows : (sampleBundleDevice ['x']).Shows sampleSourceBundle
      samplePosted {} sampleIcon := by
    unfold BundleDevice.Shows
    decide
  have hkey : ¬ publicKey ['u'] <:+: deviceAndNameToKey ['u'] ['b'] := by
    decide
  refine ⟨((continuable_iff.1 (sampleBundleDevice ['x']) _ sampleSourceBundle
    samplePosted {} sampleIcon sampleIconCmd hreplicates hshows
    ⟨rfl, rfl, rfl, rfl, rfl⟩).mpr ⟨⟨hkey, ?_⟩, fun hne => absurd rfl hne⟩), ?_⟩
  · exact ⟨_, List.mem_singleton_self _, rfl, _, List.mem_singleton_self _,
      ['x'], List.mem_singleton_self _, rfl⟩
  · intro candidate hcandidate
    have hsame : candidate.2.bundleName = ['b'] := by
      revert candidate
      decide
    refine ((@continuable_iff Unit).2 (fun _ => sampleBundleDevice ['x']) _ none
      [['n']] ['b'] ?_ candidate hcandidate).mpr (.inl hsame)
    intro networkId hmem
    exact ⟨(List.mem_singleton.mp hmem).symm, hreplicates⟩

/-- The icon is shown for the names of the module and the ability, and no
ability has the type; the other bundle of a developer without an id is
recommended, and its device refuses it. -/
theorem not_continuable_otherType :
    ((sampleBundleDevice ['y']).Shows sampleSourceBundle samplePosted {}
        sampleIcon ∧
      ContinuesIcon sampleSourceBundle
        (findContinueType sampleSourceBundle
          samplePosted.broadcast.continueTypeId).2
        sampleIcon sampleIconCmd ∧
      ContinueData.foundAbilities (sampleBundleStore (sampleBundleDevice ['y']))
        (some ['n']) sampleIconCmd = []) ∧
    ∃ candidate ∈ getAvailableRecommendList
        (sampleBundleStore (sampleBundleDevice ['y'])) none [['n']] ['a'],
      ¬(sampleBundleDevice ['y']).Accepts none ['a'] candidate.2 := by
  refine ⟨⟨?_, ⟨rfl, rfl, rfl, rfl, rfl⟩, by decide⟩, ?_⟩
  · unfold BundleDevice.Shows
    decide
  · unfold BundleDevice.Accepts
    decide

end Dmsfwk
