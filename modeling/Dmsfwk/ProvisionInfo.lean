import Dmsfwk.BundleRecords

/-!
# Two ways of storing a bundle

A bundle is stored when it is installed, and all bundles are stored when the
service starts or the ids are created anew.  Both ways ask every account for the
provision info of the bundle until one knows its developer.  The second does it
in a helper that takes the provision info by value, so the developer it finds
stays in the copy.
-/

namespace Dmsfwk

structure ProvisionAnswers where
  /-- The result of `QueryAllCreatedOsAccounts`. -/
  queryResult : Int32
  accounts : List Int32
  /-- The result of `GetAppProvisionInfo` and the developer that it writes, if it
  writes one. -/
  getAppProvisionInfo : Text → Int32 → Int32 × Option Text

namespace ProvisionAnswers

def errOk : Int32 := 0

def askAccounts (answers : ProvisionAnswers) (bundleName : Text) :
    List Int32 → Text → Text
  | [], developerId => developerId
  | account :: accounts, developerId =>
      let answer := answers.getAppProvisionInfo bundleName account
      let developerId := answer.2.getD developerId
      if answer.1 = errOk ∧ developerId ≠ [] then developerId
      else answers.askAccounts bundleName accounts developerId

def findDeveloperId (answers : ProvisionAnswers) (bundleName : Text)
    (developerId : Text) : Text :=
  if answers.queryResult = errOk ∧ answers.accounts ≠ [] then
    answers.askAccounts bundleName answers.accounts developerId
  else developerId

def findProvishionInfo (answers : ProvisionAnswers) (bundleName : Text)
    (appProvisionInfo : Text) : Text :=
  let _copy := answers.findDeveloperId bundleName appProvisionInfo
  appProvisionInfo

def writtenDeveloper (answers : ProvisionAnswers) (bundleName : Text)
    (accounts : List Int32) (developerId : Text) : Text :=
  accounts.foldl
    (fun developerId account =>
      (answers.getAppProvisionInfo bundleName account).2.getD developerId)
    developerId

/-- There is no developer in the variable behind any account that answers, nor
behind the last one. -/
def UnknownDeveloper (answers : ProvisionAnswers) (bundleName : Text) : Prop :=
  answers.queryResult = errOk →
    answers.writtenDeveloper bundleName answers.accounts [] = [] ∧
    ∀ first account, first ++ [account] <+: answers.accounts →
      (answers.getAppProvisionInfo bundleName account).1 = errOk →
      answers.writtenDeveloper bundleName (first ++ [account]) [] = []

theorem askAccounts_eq_nil_iff (answers : ProvisionAnswers) (bundleName : Text)
    (accounts : List Int32) (developerId : Text) :
    answers.askAccounts bundleName accounts developerId = [] ↔
      answers.writtenDeveloper bundleName accounts developerId = [] ∧
      ∀ first account, first ++ [account] <+: accounts →
        (answers.getAppProvisionInfo bundleName account).1 = errOk →
        answers.writtenDeveloper bundleName (first ++ [account])
          developerId = [] := by
  induction accounts generalizing developerId with
  | nil => simp [askAccounts, writtenDeveloper]
  | cons account accounts ih =>
      rw [askAccounts]
      have hhead : answers.writtenDeveloper bundleName ([] ++ [account])
          developerId =
          (answers.getAppProvisionInfo bundleName account).2.getD developerId :=
        rfl
      split_ifs with hfound
      · refine iff_of_false hfound.2 ?_
        rintro ⟨-, hprefixes⟩
        refine hfound.2 ?_
        rw [← hhead]
        exact hprefixes [] account (by simp) hfound.1
      · rw [ih]
        refine and_congr Iff.rfl ?_
        constructor
        · intro hrest first other hfirst hok
          cases first with
          | nil =>
              obtain ⟨rfl, -⟩ := List.cons_prefix_cons.mp hfirst
              rw [hhead]
              by_contra hne
              exact hfound ⟨hok, hne⟩
          | cons head first =>
              obtain ⟨rfl, htail⟩ := List.cons_prefix_cons.mp hfirst
              exact hrest first other htail hok
        · intro hall first other hfirst hok
          exact hall (account :: first) other
            (List.cons_prefix_cons.mpr ⟨rfl, hfirst⟩) hok

theorem findDeveloperId_eq_nil_iff (answers : ProvisionAnswers)
    (bundleName : Text) :
    answers.findDeveloperId bundleName [] = [] ↔
      answers.UnknownDeveloper bundleName := by
  rw [findDeveloperId, UnknownDeveloper]
  by_cases hquery : answers.queryResult = errOk
  · rw [← askAccounts_eq_nil_iff, forall_prop_of_true hquery]
    by_cases haccounts : answers.accounts = []
    · simp [haccounts, askAccounts]
    · rw [if_pos ⟨hquery, haccounts⟩]
  · simp [hquery]

end ProvisionAnswers

namespace DmsBmStorage

open ProvisionAnswers

/-- One round of the loop in `UpdateDistributedData` with the answers of the
accounts, from the variable that all rounds share. -/
def collectProvided (answers : ProvisionAnswers)
    (rebuildLocalData : DmsBmStorage → Option DmsBmStorage)
    (old : Std.TreeMap Text DmsBundleInfo) (appProvisionInfo : Text)
    (state : List DmsBundleInfo × DmsBmStorage) (bundleInfo : BundleInfo) :
    Option (List DmsBundleInfo × DmsBmStorage) :=
  let developerId :=
    answers.findProvishionInfo bundleInfo.name appProvisionInfo
  match old[bundleInfo.name]? with
  | some info =>
      if info.updateTime = bundleInfo.updateTime then some state
      else
        (convertBundleInfo rebuildLocalData bundleInfo developerId true
          state.2).map
          fun (dmsBundleInfo, next) => (state.1 ++ [dmsBundleInfo], next)
  | none =>
      (convertBundleInfo rebuildLocalData bundleInfo developerId false
        state.2).map
        fun (dmsBundleInfo, next) =>
          if dmsBundleInfo.bundleName = [] then (state.1, next)
          else (state.1 ++ [dmsBundleInfo], next)

/-- `UpdateDistributedData`; the shared variable starts empty. -/
def updateProvided (answers : ProvisionAnswers)
    (rebuildLocalData : DmsBmStorage → Option DmsBmStorage)
    (bundleInfos : List BundleInfo) (storage : DmsBmStorage) :
    Option DmsBmStorage :=
  let (old, loaded) := getAllOldDistributionBundleInfo
    (bundleInfos.map (·.name)) storage
  (bundleInfos.foldlM (collectProvided answers rebuildLocalData old [])
    ([], loaded)).map fun (dmsBundleInfos, next) =>
      dmsPutBatch dmsBundleInfos next

theorem updateProvided_eq (answers : ProvisionAnswers)
    (rebuildLocalData : DmsBmStorage → Option DmsBmStorage)
    (bundleInfos : List BundleInfo) (storage : DmsBmStorage) :
    updateProvided answers rebuildLocalData bundleInfos storage =
      updateWith rebuildLocalData bundleInfos storage := rfl

/-! ## What is written -/

def WrittenBySave (answers : ProvisionAnswers) (bundleInfo : BundleInfo)
    (written : DmsBundleInfo) : Prop :=
  ∃ depth bundleInfos isPackageChange storage next,
    saveStorageDistributeInfo depth
        { bundleInfo := some bundleInfo
          developerId := answers.findDeveloperId bundleInfo.name []
          bundleInfos := bundleInfos } isPackageChange storage =
      some (true, next) ∧
    next.records[bundleInfo.name]? = some written

/-- The record that `UpdateDistributedData` writes for the bundle, in some list
in which no entry of its name follows, and some store which has no record of it
or an outdated one. -/
def WrittenByUpdate (answers : ProvisionAnswers) (bundleInfo : BundleInfo)
    (written : DmsBundleInfo) : Prop :=
  ∃ depth before after storage next,
    let bundleInfos := before ++ bundleInfo :: after
    updateProvided answers (rebuildLocalData depth bundleInfos) bundleInfos
      storage = some next ∧
    (∀ other ∈ after, other.name ≠ bundleInfo.name) ∧
    (∀ info, storage.records[bundleInfo.name]? = some info →
      info.updateTime ≠ bundleInfo.updateTime) ∧
    next.records[bundleInfo.name]? = some written

def SameUpToId (info other : DmsBundleInfo) : Prop :=
  { info with bundleNameId := 0 } = { other with bundleNameId := 0 }

/-- Both ways write the same, and the second writes the same beside any other
bundles. -/
structure StoredAlike (answers : ProvisionAnswers) (bundleInfo : BundleInfo) :
    Prop where
  alike : ∀ saved updated, WrittenBySave answers bundleInfo saved →
    WrittenByUpdate answers bundleInfo updated → SameUpToId saved updated
  independent : ∀ first second, WrittenByUpdate answers bundleInfo first →
    WrittenByUpdate answers bundleInfo second → SameUpToId first second

/-! ## Converted records -/

section Converted

variable {rebuildLocalData : DmsBmStorage → Option DmsBmStorage}
  {bundleInfo : BundleInfo} {developerId : Text} {isPackageChange : Bool}
  {storage next : DmsBmStorage} {info : DmsBundleInfo}

theorem convertBundleInfo_spec (hname : bundleInfo.name ≠ [])
    (hconvert : convertBundleInfo rebuildLocalData bundleInfo developerId
      isPackageChange storage = some (info, next)) :
    ∃ bundleNameId, info =
      convertToDistributedBundleInfo bundleInfo developerId bundleNameId := by
  rw [convertBundleInfo_eq hname, Option.map_eq_some_iff] at hconvert
  obtain ⟨⟨bundleNameId, created⟩, -, heq⟩ := hconvert
  exact ⟨bundleNameId, (Prod.mk.inj heq).1.symm⟩

theorem sameUpToId_convert_iff (hname : bundleInfo.name ≠ [])
    (developerId developerId' : Text) (bundleNameId bundleNameId' : UInt16) :
    SameUpToId
        (convertToDistributedBundleInfo bundleInfo developerId bundleNameId)
        (convertToDistributedBundleInfo bundleInfo developerId'
          bundleNameId') ↔
      developerId = developerId' := by
  rw [SameUpToId, convertToDistributedBundleInfo, if_neg hname,
    convertToDistributedBundleInfo, if_neg hname]
  simp

theorem records_updatePublicRecords (storage : DmsBmStorage) :
    (updatePublicRecords storage).records = storage.records := by
  rw [updatePublicRecords]
  split_ifs <;> rfl

end Converted

/-! ## The record of one bundle -/

section OneBundle

variable {bundleInfo : BundleInfo} {written : DmsBundleInfo}

theorem writtenBySave_spec {answers : ProvisionAnswers}
    (hname : bundleInfo.name ≠ [])
    (hsave : WrittenBySave answers bundleInfo written) :
    ∃ bundleNameId, written = convertToDistributedBundleInfo bundleInfo
      (answers.findDeveloperId bundleInfo.name []) bundleNameId := by
  obtain ⟨depth, bundleInfos, isPackageChange, storage, next, hsaved, hrecord⟩ :=
    hsave
  rw [saveStorageDistributeInfo] at hsaved
  simp only [isContinuable, ne_eq, hname, not_false_eq_true, decide_true,
    Bool.and_self, Bool.not_true, Bool.false_eq_true, if_false,
    Option.map_eq_some_iff, Prod.exists] at hsaved
  obtain ⟨info, created, hconvert, hinner⟩ := hsaved
  obtain ⟨bundleNameId, rfl⟩ := convertBundleInfo_spec hname hconvert
  refine ⟨bundleNameId, ?_⟩
  rw [innerSaveStorageDistributeInfo, bundleName_convert, if_neg hname,
    Prod.mk.injEq] at hinner
  rw [← hinner.2, records_updatePublicRecords, OrderedMap.getElem?_insert_eq,
    if_pos rfl] at hrecord
  exact (Option.some.inj hrecord).symm

theorem getElem?_written_append (infos : List DmsBundleInfo)
    {rest : List DmsBundleInfo} {info : DmsBundleInfo}
    (hrest : ∀ other ∈ rest, other.bundleName ≠ info.bundleName)
    (records : Std.TreeMap Text DmsBundleInfo) :
    (DmsBmStorage.written (infos ++ info :: rest) records)[info.bundleName]? =
      some info := by
  rw [DmsBmStorage.written, List.foldl_append, List.foldl_cons]
  generalize infos.foldl _ records = stored
  have hstored : (stored.insert info.bundleName info)[info.bundleName]? =
      some info := by
    rw [OrderedMap.getElem?_insert_eq, if_pos rfl]
  generalize stored.insert info.bundleName info = stored at hstored
  induction rest generalizing stored with
  | nil => exact hstored
  | cons other rest ih =>
      obtain ⟨hother, hrest⟩ := List.forall_mem_cons.mp hrest
      refine ih hrest (stored.insert other.bundleName other) ?_
      rw [OrderedMap.getElem?_insert_eq, if_neg hother]
      exact hstored

variable {rebuildLocalData : DmsBmStorage → Option DmsBmStorage}
  {old : Std.TreeMap Text DmsBundleInfo}
  {state next : List DmsBundleInfo × DmsBmStorage}

theorem collectBundleInfo_spec
    (hcollect : collectBundleInfo rebuildLocalData old state bundleInfo =
      some next) :
    ∃ infos, next.1 = state.1 ++ infos ∧
      ∀ info ∈ infos, info.bundleName = bundleInfo.name := by
  have hconverted : ∀ {isPackageChange : Bool} {info : DmsBundleInfo}
      {created : DmsBmStorage},
      convertBundleInfo rebuildLocalData bundleInfo [] isPackageChange state.2 =
        some (info, created) → info.bundleName = bundleInfo.name := by
    intro isPackageChange info created hconvert
    by_cases hname : bundleInfo.name = []
    · rw [convertBundleInfo, if_pos hname, Option.some.injEq,
        Prod.mk.injEq] at hconvert
      rw [← hconvert.1, hname]
    · obtain ⟨bundleNameId, rfl⟩ := convertBundleInfo_spec hname hconvert
      exact bundleName_convert bundleInfo [] bundleNameId
  unfold collectBundleInfo at hcollect
  cases hold : old[bundleInfo.name]? with
  | some info =>
      simp only [hold] at hcollect
      split_ifs at hcollect
      · cases hcollect
        exact ⟨[], (List.append_nil _).symm, by simp⟩
      · obtain ⟨⟨dmsBundleInfo, created⟩, hconvert, rfl⟩ :=
          Option.map_eq_some_iff.mp hcollect
        exact ⟨[dmsBundleInfo], rfl, by simpa using hconverted hconvert⟩
  | none =>
      simp only [hold] at hcollect
      obtain ⟨⟨dmsBundleInfo, created⟩, hconvert, rfl⟩ :=
        Option.map_eq_some_iff.mp hcollect
      simp only
      split_ifs
      · exact ⟨[], (List.append_nil _).symm, by simp⟩
      · exact ⟨[dmsBundleInfo], rfl, by simpa using hconverted hconvert⟩

theorem collectBundleInfo_stale (hname : bundleInfo.name ≠ [])
    (hstale : ∀ info, old[bundleInfo.name]? = some info →
      info.updateTime ≠ bundleInfo.updateTime)
    (hcollect : collectBundleInfo rebuildLocalData old state bundleInfo =
      some next) :
    ∃ bundleNameId, next.1 = state.1 ++
      [convertToDistributedBundleInfo bundleInfo [] bundleNameId] := by
  unfold collectBundleInfo at hcollect
  cases hold : old[bundleInfo.name]? with
  | some info =>
      simp only [hold, if_neg (hstale info hold)] at hcollect
      obtain ⟨⟨dmsBundleInfo, created⟩, hconvert, rfl⟩ :=
        Option.map_eq_some_iff.mp hcollect
      obtain ⟨bundleNameId, rfl⟩ := convertBundleInfo_spec hname hconvert
      exact ⟨bundleNameId, rfl⟩
  | none =>
      simp only [hold] at hcollect
      obtain ⟨⟨dmsBundleInfo, created⟩, hconvert, rfl⟩ :=
        Option.map_eq_some_iff.mp hcollect
      obtain ⟨bundleNameId, rfl⟩ := convertBundleInfo_spec hname hconvert
      simp only [bundleName_convert, if_neg hname]
      exact ⟨bundleNameId, rfl⟩

theorem collected_spec {bundleInfos : List BundleInfo}
    (hcollect : bundleInfos.foldlM (collectBundleInfo rebuildLocalData old)
      state = some next) :
    ∃ infos, next.1 = state.1 ++ infos ∧
      ∀ info ∈ infos, ∃ bundleInfo ∈ bundleInfos,
        info.bundleName = bundleInfo.name := by
  induction bundleInfos generalizing state with
  | nil =>
      cases hcollect
      exact ⟨[], (List.append_nil _).symm, by simp⟩
  | cons first bundleInfos ih =>
      rw [List.foldlM_cons, Option.bind_eq_bind, Option.bind_eq_some_iff]
        at hcollect
      obtain ⟨middle, hfirst, hrest⟩ := hcollect
      obtain ⟨infos, hmiddle, hnames⟩ := collectBundleInfo_spec hfirst
      obtain ⟨rest, hnext, hothers⟩ := ih hrest
      refine ⟨infos ++ rest, ?_, ?_⟩
      · rw [hnext, hmiddle, List.append_assoc]
      · intro info hmem
        rcases List.mem_append.mp hmem with hmem | hmem
        · exact ⟨first, List.mem_cons_self, hnames info hmem⟩
        · obtain ⟨bundleInfo, hbundle, hname⟩ := hothers info hmem
          exact ⟨bundleInfo, List.mem_cons_of_mem _ hbundle, hname⟩

theorem old_subset {bundleNames : List Text} {storage : DmsBmStorage}
    {name : Text} {info : DmsBundleInfo}
    (hinfo : (getAllOldDistributionBundleInfo bundleNames storage).1[name]? =
      some info) :
    storage.records[name]? = some info := by
  simp only [getAllOldDistributionBundleInfo, Std.TreeMap.getElem?_filter',
    Option.filter_eq_some_iff] at hinfo
  exact hinfo.1.1

theorem writtenByUpdate_spec {answers : ProvisionAnswers}
    (hname : bundleInfo.name ≠ [])
    (hupdate : WrittenByUpdate answers bundleInfo written) :
    ∃ bundleNameId,
      written = convertToDistributedBundleInfo bundleInfo [] bundleNameId := by
  obtain ⟨depth, before, after, storage, next, hupdated, hafter, hstale,
    hrecord⟩ := hupdate
  rw [updateProvided_eq, updateWith] at hupdated
  simp only [Option.map_eq_some_iff, Prod.exists] at hupdated
  obtain ⟨collected, stored, hcollect, rfl⟩ := hupdated
  rw [List.foldlM_append, Option.bind_eq_bind, Option.bind_eq_some_iff]
    at hcollect
  obtain ⟨front, -, hcollect⟩ := hcollect
  rw [List.foldlM_cons, Option.bind_eq_bind, Option.bind_eq_some_iff]
    at hcollect
  obtain ⟨middle, hown, hrest⟩ := hcollect
  obtain ⟨bundleNameId, hmiddle⟩ := collectBundleInfo_stale hname
    (fun info hinfo => hstale info (old_subset hinfo)) hown
  obtain ⟨infos, hcollected, hnames⟩ := collected_spec hrest
  refine ⟨bundleNameId, ?_⟩
  simp only at hcollected
  rw [hmiddle, List.append_assoc, List.singleton_append] at hcollected
  have hothers : ∀ other ∈ infos, other.bundleName ≠
      (convertToDistributedBundleInfo bundleInfo [] bundleNameId).bundleName := by
    intro other hother
    obtain ⟨found, hfound, hsame⟩ := hnames other hother
    rw [hsame, bundleName_convert]
    exact hafter found hfound
  have hlast := getElem?_written_append front.1 hothers stored.records
  rw [bundleName_convert] at hlast
  rw [dmsPutBatch, if_neg (by rw [hcollected]; simp), hcollected] at hrecord
  exact Option.some.inj (hrecord.symm.trans hlast)

end OneBundle

/-! ## Both ways -/

theorem convertBundleInfo_empty
    (rebuildLocalData : DmsBmStorage → Option DmsBmStorage)
    {bundleInfo : BundleInfo} (hname : bundleInfo.name ≠ []) (developerId : Text)
    {storage : DmsBmStorage}
    (hempty : storage.bundleNameIdTables.isEmpty = true) :
    convertBundleInfo rebuildLocalData bundleInfo developerId false storage =
      some (convertToDistributedBundleInfo bundleInfo developerId 0,
        addBundleNameId 0 bundleInfo.name storage) := by
  rw [convertBundleInfo_eq hname]
  simp [createBundleNameId, hempty]

theorem writtenBySave_empty (answers : ProvisionAnswers)
    {bundleInfo : BundleInfo} (hname : bundleInfo.name ≠ []) :
    WrittenBySave answers bundleInfo
      (convertToDistributedBundleInfo bundleInfo
        (answers.findDeveloperId bundleInfo.name []) 0) := by
  refine ⟨0, [], false, {}, (innerSaveStorageDistributeInfo
    (convertToDistributedBundleInfo bundleInfo
      (answers.findDeveloperId bundleInfo.name []) 0)
    (addBundleNameId 0 bundleInfo.name {})).2, ?_, ?_⟩
  · simp [saveStorageDistributeInfo, isContinuable, hname,
      convertBundleInfo_empty, innerSaveStorageDistributeInfo,
      bundleName_convert]
  · simp [innerSaveStorageDistributeInfo, bundleName_convert, hname,
      records_updatePublicRecords]

theorem writtenByUpdate_empty (answers : ProvisionAnswers)
    {bundleInfo : BundleInfo} (hname : bundleInfo.name ≠ []) :
    WrittenByUpdate answers bundleInfo
      (convertToDistributedBundleInfo bundleInfo [] 0) := by
  have hloaded : (getAllOldDistributionBundleInfo [bundleInfo.name]
      {}).2.bundleNameIdTables.isEmpty = true := by
    have hnil : (∅ : Std.TreeMap Text DmsBundleInfo).toList = [] := rfl
    simp [getAllOldDistributionBundleInfo, hnil]
  have hold : (getAllOldDistributionBundleInfo [bundleInfo.name]
      {}).1[bundleInfo.name]? = none := by
    simp [getAllOldDistributionBundleInfo]
  refine ⟨0, [], [], {}, dmsPutBatch
    [convertToDistributedBundleInfo bundleInfo [] 0]
    (addBundleNameId 0 bundleInfo.name
      (getAllOldDistributionBundleInfo [bundleInfo.name] {}).2), ?_, by simp,
    by simp, ?_⟩
  · simp [updateProvided_eq, updateWith, collectBundleInfo, hold,
      convertBundleInfo_empty _ hname [] hloaded, bundleName_convert, hname]
  · have hlast : (DmsBmStorage.written
        [convertToDistributedBundleInfo bundleInfo [] 0]
        (addBundleNameId 0 bundleInfo.name
          (getAllOldDistributionBundleInfo [bundleInfo.name] {}).2).records)[
        (convertToDistributedBundleInfo bundleInfo [] 0).bundleName]? = _ :=
      getElem?_written_append [] (by simp) _
    rw [bundleName_convert] at hlast
    rw [dmsPutBatch, if_neg (by simp)]
    exact hlast

/-- The two ways store a continuable bundle alike exactly when no account knows
its developer. -/
theorem storedAlike_iff (answers : ProvisionAnswers) (bundleInfo : BundleInfo)
    (hcontinuable : isContinuable bundleInfo true = true) :
    StoredAlike answers bundleInfo ↔
      answers.UnknownDeveloper bundleInfo.name := by
  have hname : bundleInfo.name ≠ [] := by
    simpa [isContinuable] using hcontinuable
  rw [← findDeveloperId_eq_nil_iff]
  constructor
  · intro halike
    exact (sameUpToId_convert_iff hname _ _ 0 0).mp (halike.alike _ _
      (writtenBySave_empty answers hname) (writtenByUpdate_empty answers hname))
  · intro hunknown
    constructor
    case alike =>
      intro saved updated hsaved hupdated
      obtain ⟨bundleNameId, rfl⟩ := writtenBySave_spec hname hsaved
      obtain ⟨bundleNameId', rfl⟩ := writtenByUpdate_spec hname hupdated
      exact (sameUpToId_convert_iff hname _ _ _ _).mpr hunknown
    case independent =>
      intro first second hfirst hsecond
      obtain ⟨bundleNameId, rfl⟩ := writtenByUpdate_spec hname hfirst
      obtain ⟨bundleNameId', rfl⟩ := writtenByUpdate_spec hname hsecond
      exact (sameUpToId_convert_iff hname _ _ _ _).mpr rfl

def sampleAnswers : ProvisionAnswers where
  queryResult := errOk
  accounts := [100]
  getAppProvisionInfo _ _ := (errOk, some ['d', 'e', 'v'])

/-- An account that knows no developer. -/
theorem storedAlike_iff_unknown :
    isContinuable { name := ['n'] } true = true ∧
      (StoredAlike { sampleAnswers with
          getAppProvisionInfo := fun _ _ => (errOk, some []) }
          { name := ['n'] } ↔
        ProvisionAnswers.UnknownDeveloper { sampleAnswers with
          getAppProvisionInfo := fun _ _ => (errOk, some []) } ['n']) :=
  ⟨by decide, storedAlike_iff _ { name := ['n'] } (by decide)⟩

/-- The developer is in the record of a saved bundle and not in the record of an
updated one. -/
theorem not_storedAlike_sample :
    ¬ StoredAlike sampleAnswers { name := ['n'] } := by
  intro halike
  have hsaved : WrittenBySave sampleAnswers { name := ['n'] } _ :=
    writtenBySave_empty sampleAnswers (by decide)
  have hsame := halike.alike _ _ hsaved
    (writtenByUpdate_empty sampleAnswers (by decide))
  rw [SameUpToId] at hsame
  revert hsame
  decide

end DmsBmStorage

end Dmsfwk
