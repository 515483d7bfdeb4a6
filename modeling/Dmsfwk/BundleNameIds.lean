import Dmsfwk.BundleRecords
import Dmsfwk.EventRun

/-!
# Bundle ids are unique and stable

An update or a save with ids left adds records with new ids and keeps the others.
When the ids are used up, the records are rebuilt from the bundles that are
listed.
-/

namespace Dmsfwk

namespace DmsBmStorage

/-! ## Updates -/

section Updates

variable {storage : DmsBmStorage} {bundleInfos : List BundleInfo}

theorem collecting_loaded (hkept : Kept storage) (bundleNames : List Text) :
    Collecting (getAllOldDistributionBundleInfo bundleNames storage).1
      ([], (getAllOldDistributionBundleInfo bundleNames storage).2) := by
  obtain ⟨hlast, _, _, hempty⟩ := loaded_spec hkept bundleNames
  have hrecords := loaded_records hkept.named bundleNames
  have hold := loaded_old hkept.named bundleNames
  have hsub : ∀ (name : Text) (info : DmsBundleInfo),
      (getAllOldDistributionBundleInfo bundleNames
        storage).2.records[name]? = some info →
      storage.records[name]? = some info := by
    intro name info hinfo
    rw [hrecords] at hinfo
    split_ifs at hinfo
    exact hinfo
  have hnamed : Named (getAllOldDistributionBundleInfo bundleNames
      storage).2.records :=
    fun name info hinfo => hkept.named name info (hsub name info hinfo)
  constructor
  · exact hnamed
  · exact hnamed
  · intro name other info otherInfo hinfo hother
    exact hkept.unique name other info otherInfo (hsub name info hinfo)
      (hsub other otherInfo hother)
  · intro name info hinfo
    rw [hlast]
    exact (hkept.bounded name info (hsub name info hinfo)).trans
      (maxBundleNameId_le_lastId storage)
  · intro htable name
    rw [hempty, Bool.and_eq_true] at htable
    have hnone : storage.records[name]? = none :=
      Std.TreeMap.getElem?_eq_none
        (Std.TreeMap.isEmpty_iff_forall_not_mem.mp htable.2 name)
    change (getAllOldDistributionBundleInfo bundleNames
      storage).2.records[name]? = none
    rw [hrecords, hnone, ite_self]
  · intro name hmem
    have hsome := Std.TreeMap.mem_iff_isSome_getElem?.mp hmem
    obtain ⟨info, hinfo⟩ := Option.isSome_iff_exists.mp hsome
    have hinfo := (hrecords name).trans ((hold name).symm.trans hinfo)
    exact ⟨info, info, hinfo, hinfo, rfl⟩

variable {old : Std.TreeMap Text DmsBundleInfo}

theorem dmsPutBatch_spec {state : List DmsBundleInfo × DmsBmStorage}
    (hcollecting : Collecting old state)
    (hstored : IdsBounded state.2.records
      (state.2.maxBundleNameId.getD 0).toNat) :
    Kept (dmsPutBatch state.1 state.2) ∧
      (dmsPutBatch state.1 state.2).records = overlay state ∧
      (dmsPutBatch state.1 state.2).room = state.2.room ∧
      (dmsPutBatch state.1 state.2).rebuilds = state.2.rebuilds ∧
      (dmsPutBatch state.1 state.2).bundleNameIdTables =
        state.2.bundleNameIdTables := by
  unfold dmsPutBatch
  by_cases hnil : state.1 = []
  · have hoverlay : overlay state = state.2.records := by
      unfold overlay
      rw [hnil]
      rfl
    rw [if_pos hnil]
    exact ⟨⟨hcollecting.stored, hoverlay ▸ hcollecting.unique, hstored⟩,
      hoverlay.symm, rfl, rfl, rfl⟩
  · rw [if_neg hnil]
    refine ⟨⟨hcollecting.named, hcollecting.unique, hcollecting.bounded⟩,
      rfl, ?_, rfl, rfl⟩
    unfold room
    rw [lastId_eq, Option.getD_some]
    change _ - max _ state.2.lastId = _
    rw [lastId_eq, ← max_assoc, max_self]

def freeIds (storage : DmsBmStorage) : ℕ :=
  (if storage.bundleNameIdTables.isEmpty && storage.records.isEmpty then 65536
    else 65535) - storage.lastId

theorem room_loaded (hkept : Kept storage) (bundleNames : List Text) :
    (getAllOldDistributionBundleInfo bundleNames storage).2.room =
      storage.freeIds := by
  obtain ⟨hlast, _, _, hempty⟩ := loaded_spec hkept bundleNames
  unfold room freeIds
  rw [hlast, hempty]

variable {bundleInfo : BundleInfo}

theorem isNew_old (hkept : Kept storage) (hmem : bundleInfo ∈ bundleInfos) :
    isNew (getAllOldDistributionBundleInfo (bundleInfos.map (·.name))
      storage).1 bundleInfo = isNew storage.records bundleInfo := by
  unfold isNew
  rw [loaded_old hkept.named, if_pos (List.mem_map_of_mem hmem)]

structure Updated (bundleInfos : List BundleInfo) (storage : DmsBmStorage) :
    Prop where
  kept : Kept storage
  covers : ∀ name : Text, name ∈ storage.records ↔
    name ≠ [] ∧ name ∈ bundleInfos.map (·.name)
  first : storage.bundleNameIdTables.isEmpty = true →
    ∀ name : Text, storage.records[name]? = none

def SameIds (records later : Std.TreeMap Text DmsBundleInfo) : Prop :=
  ∀ (name : Text) (before after : DmsBundleInfo),
    records[name]? = some before → later[name]? = some after →
    after.bundleNameId = before.bundleNameId

theorem updateWith_room (rebuild : DmsBmStorage → Option DmsBmStorage)
    (hkept : Kept storage)
    (hpublic : ∀ info ∈ bundleInfos,
      publicRecords.isPrefixOf info.name = false)
    (hroom : bundleInfos.countP (isNew storage.records) ≤ storage.freeIds) :
    ∃ next, updateWith rebuild bundleInfos storage = some next ∧
      Updated bundleInfos next ∧ next.rebuilds = storage.rebuilds ∧
      next.room + bundleInfos.countP (isNew storage.records) =
        storage.freeIds ∧
      SameIds storage.records next.records := by
  let bundleNames := bundleInfos.map (·.name)
  have hcount : bundleInfos.countP (isNew
      (getAllOldDistributionBundleInfo bundleNames storage).1) =
        bundleInfos.countP (isNew storage.records) :=
    List.countP_congr fun info hinfo => by rw [isNew_old hkept hinfo]
  obtain ⟨_, hmax, hrebuilds, _⟩ := loaded_spec hkept bundleNames
  have hrecords := loaded_records hkept.named bundleNames
  obtain ⟨final, hfinal, hcollecting, hextends⟩ := collect_foldlM rebuild
    bundleInfos (collecting_loaded hkept bundleNames) hpublic
    (by rw [hcount, room_loaded hkept]; exact hroom)
  have hstored : IdsBounded final.2.records
      (final.2.maxBundleNameId.getD 0).toNat := by
    rw [hextends.records, hextends.maxBundleNameId, hmax]
    intro name info hinfo
    rw [hrecords] at hinfo
    split_ifs at hinfo
    exact hkept.bounded name info hinfo
  obtain ⟨hkeptNext, hwritten, hroomNext, hrebuildsNext, htables⟩ :=
    dmsPutBatch_spec hcollecting hstored
  have hfirst : (dmsPutBatch final.1 final.2).bundleNameIdTables.isEmpty =
      true → ∀ name : Text,
        (dmsPutBatch final.1 final.2).records[name]? = none := by
    rw [htables, hwritten]
    exact hcollecting.first
  have hcovers : ∀ name : Text,
      name ∈ (dmsPutBatch final.1 final.2).records ↔
        name ≠ [] ∧ name ∈ bundleNames := by
    intro name
    rw [hwritten, hextends.covers]
    constructor
    · rintro (hloaded | hlisted)
      · obtain ⟨hlisted, hrecord⟩ := (mem_loaded (hrecords name)).mp hloaded
        exact ⟨hkept.named.ne_nil hrecord, hlisted⟩
      · exact hlisted
    · exact .inr
  refine ⟨dmsPutBatch final.1 final.2, ?_, ⟨hkeptNext, hcovers, hfirst⟩,
    ?_, ?_, ?_⟩
  · unfold updateWith
    dsimp only
    rw [hfinal]
    rfl
  · rw [hrebuildsNext, hextends.rebuilds, hrebuilds]
  · rw [hroomNext, ← room_loaded hkept bundleNames, ← hextends.room, hcount]
  · intro name before after hbefore hafter
    have hmem : name ∈ (dmsPutBatch final.1 final.2).records :=
      (getElem?_eq_some_iff.mp hafter).1
    have hlisted := ((hcovers name).mp hmem).2
    have hold := (mem_loaded (loaded_old hkept.named bundleNames name)).mpr
      ⟨hlisted, (getElem?_eq_some_iff.mp hbefore).1⟩
    obtain ⟨info, collected, hinfo, hcollected, hids⟩ :=
      hcollecting.kept name hold
    rw [hextends.records, hrecords, if_pos hlisted, hbefore] at hinfo
    rw [hwritten, hcollected] at hafter
    rw [← Option.some.inj hafter, Option.some.inj hinfo]
    exact hids

theorem kept_empty (rebuilds : ℕ) :
    Kept { rebuilds := rebuilds : DmsBmStorage } where
  named _ _ := by simp
  unique _ _ _ _ := by simp
  bounded _ _ := by simp

def isNamed (bundleInfo : BundleInfo) : Bool := bundleInfo.name ≠ []

theorem rebuildLocalData_spec (depth : ℕ) (storage : DmsBmStorage)
    (hpublic : ∀ info ∈ bundleInfos,
      publicRecords.isPrefixOf info.name = false)
    (hnamed : bundleInfos.countP isNamed ≤ 65536) :
    ∃ rebuilt, rebuildLocalData (depth + 1) bundleInfos storage =
        some rebuilt ∧
      Updated bundleInfos rebuilt ∧ rebuilt.rebuilds = storage.rebuilds + 1 ∧
      rebuilt.room + bundleInfos.countP isNamed = 65536 := by
  let cleared : DmsBmStorage := { rebuilds := storage.rebuilds + 1 }
  have hcount : bundleInfos.countP (isNew cleared.records) =
      bundleInfos.countP isNamed := by
    apply List.countP_congr
    intro info _
    simp [isNew, isNamed, cleared]
  have hfree : cleared.freeIds = 65536 := by
    simp [freeIds, lastId_eq, cleared]
  obtain ⟨rebuilt, hrebuilt, hupdated, hrebuilds, hroom, _⟩ :=
    updateWith_room (rebuildLocalData depth bundleInfos)
      (kept_empty (storage.rebuilds + 1)) hpublic
      (hcount.trans_le (hfree ▸ hnamed))
  refine ⟨rebuilt, hrebuilt, hupdated, hrebuilds, ?_⟩
  rw [← hfree, ← hroom, hcount]

def isCollected (records : Std.TreeMap Text DmsBundleInfo)
    (bundleInfo : BundleInfo) : Bool :=
  match records[bundleInfo.name]? with
  | some info => info.updateTime ≠ bundleInfo.updateTime
  | none => bundleInfo.name ≠ []

theorem foldlM_not_collected (rebuild : DmsBmStorage → Option DmsBmStorage)
    (hnone : ∀ info ∈ bundleInfos, isCollected old info = false)
    (state : List DmsBundleInfo × DmsBmStorage) :
    bundleInfos.foldlM (collectBundleInfo rebuild old) state = some state := by
  induction bundleInfos with
  | nil => rfl
  | cons bundleInfo bundleInfos ih =>
      have hfirst := hnone bundleInfo List.mem_cons_self
      have hstep : collectBundleInfo rebuild old state bundleInfo =
          some state := by
        unfold isCollected at hfirst
        unfold collectBundleInfo
        cases hentry : old[bundleInfo.name]? with
        | some info =>
            rw [hentry] at hfirst
            exact if_pos (not_not.mp (of_decide_eq_false hfirst))
        | none =>
            rw [hentry] at hfirst
            have hname := not_not.mp (of_decide_eq_false hfirst)
            unfold convertBundleInfo
            dsimp only
            rw [if_pos hname]
            rfl
      rw [List.foldlM_cons, hstep]
      exact ih fun info hinfo => hnone info (List.mem_cons_of_mem _ hinfo)

theorem isCollected_old (hkept : Kept storage) (hmem : bundleInfo ∈ bundleInfos) :
    isCollected (getAllOldDistributionBundleInfo (bundleInfos.map (·.name))
      storage).1 bundleInfo = isCollected storage.records bundleInfo := by
  unfold isCollected
  rw [loaded_old hkept.named, if_pos (List.mem_map_of_mem hmem)]

theorem foldlM_collected_first {rebuild : DmsBmStorage → Option DmsBmStorage}
    {skipped rest : List BundleInfo} {first : BundleInfo}
    {state next final : List DmsBundleInfo × DmsBmStorage}
    (hskipped : ∀ info ∈ skipped, isCollected old info = false)
    (hfirst : collectBundleInfo rebuild old state first = some next)
    (hfinal : rest.foldlM (collectBundleInfo rebuild old) next = some final) :
    (skipped ++ first :: rest).foldlM (collectBundleInfo rebuild old) state =
      some final := by
  rw [List.foldlM_append, foldlM_not_collected rebuild hskipped,
    Option.bind_eq_bind, Option.bind_some, List.foldlM_cons, hfirst]
  exact hfinal

theorem collecting_rebuilt {rebuilt : DmsBmStorage}
    (hupdated : Updated bundleInfos rebuilt)
    (hlisted : ∀ name ∈ old, name ∈ rebuilt.records) :
    Collecting old ([], rebuilt) where
  stored := hupdated.kept.named
  named := hupdated.kept.named
  unique := hupdated.kept.unique
  bounded := by
    intro name info hinfo
    exact (hupdated.kept.bounded name info hinfo).trans
      (maxBundleNameId_le_lastId rebuilt)
  first := hupdated.first
  kept := by
    intro name hmem
    obtain ⟨info, hinfo⟩ := Option.isSome_iff_exists.mp
      (Std.TreeMap.mem_iff_isSome_getElem?.mp (hlisted name hmem))
    exact ⟨info, info, hinfo, hinfo, rfl⟩

theorem collectBundleInfo_overflow {rebuild : DmsBmStorage → Option DmsBmStorage}
    {loaded rebuilt : DmsBmStorage} (hfull : loaded.room = 0)
    (hrebuild : rebuild loaded = some rebuilt)
    (hupdated : Updated bundleInfos rebuilt)
    (hlisted : ∀ name ∈ old, name ∈ rebuilt.records) {first : BundleInfo}
    (hentry : old[first.name]? = none) (hrecord : first.name ∈ rebuilt.records) :
    ∃ collected, collectBundleInfo rebuild old ([], loaded) first =
        some ([collected], rebuilt) ∧
      Collecting old ([collected], rebuilt) := by
  have hcollecting := collecting_rebuilt hupdated hlisted
  obtain ⟨info, hinfo⟩ := Option.isSome_iff_exists.mp
    (Std.TreeMap.mem_iff_isSome_getElem?.mp hrecord)
  obtain ⟨_, hname, hpublic⟩ := hupdated.kept.named first.name info hinfo
  have hbundleName := bundleName_convert first [] info.bundleNameId
  have hbundleNameId := bundleNameId_convert hname [] info.bundleNameId
  refine ⟨convertToDistributedBundleInfo first [] info.bundleNameId, ?_, ?_⟩
  · unfold collectBundleInfo
    rw [hentry]
    dsimp only
    rw [convertBundleInfo_eq hname, createBundleNameId_overflow _ hfull,
      hrebuild]
    dsimp only [Option.map_some]
    rw [getBundleNameId_eq hupdated.kept.named, hinfo]
    have hnonempty : (convertToDistributedBundleInfo first []
        info.bundleNameId).bundleName ≠ [] := hbundleName ▸ hname
    exact congrArg some (if_neg hnonempty)
  · apply hcollecting.add
    · rw [hbundleName]
      exact hname
    · rw [hbundleName]
      exact hpublic
    · rfl
    · rfl
    · rw [hbundleNameId]
      exact hcollecting.bounded first.name info hinfo
    · by_contra htable
      rw [Bool.not_eq_false] at htable
      exact absurd (hinfo.symm.trans (hupdated.first htable first.name))
        (Option.some_ne_none _)
    · intro other found hne hfound hsame
      rw [hbundleName] at hne
      rw [hbundleNameId] at hsame
      exact hne (hcollecting.unique other first.name found info hfound hinfo
        hsame)
    · intro hmem
      rw [hbundleName, Std.TreeMap.mem_iff_isSome_getElem?, hentry] at hmem
      exact absurd hmem Bool.false_ne_true

theorem updateDistributedData_overflow (depth : ℕ) (hkept : Kept storage)
    (hpublic : ∀ info ∈ bundleInfos,
      publicRecords.isPrefixOf info.name = false)
    (hfull : storage.freeIds = 0) {skipped rest : List BundleInfo}
    {first : BundleInfo} (hsplit : bundleInfos = skipped ++ first :: rest)
    (hskipped : ∀ info ∈ skipped, isCollected storage.records info = false)
    (hnew : isNew storage.records first = true)
    (hroom : bundleInfos.countP isNamed +
      bundleInfos.countP (isNew storage.records) ≤ 65537) :
    ∃ next, updateDistributedData (depth + 1) bundleInfos storage =
        some next ∧
      Kept next ∧ next.rebuilds = storage.rebuilds + 1 := by
  let bundleNames := bundleInfos.map (·.name)
  have hmem : ∀ info ∈ skipped ++ first :: rest, info ∈ bundleInfos :=
    fun info hinfo => hsplit ▸ hinfo
  have hfirstMem : first ∈ bundleInfos := hmem first (by simp)
  have hold := loaded_old hkept.named bundleNames
  obtain ⟨_, hmax, hrebuilds, _⟩ := loaded_spec hkept bundleNames
  have hcount : bundleInfos.countP (isNew storage.records) =
      skipped.countP (isNew storage.records) +
        (rest.countP (isNew storage.records) + 1) := by
    rw [hsplit, List.countP_append, List.countP_cons, if_pos hnew]
  obtain ⟨rebuilt, hrebuilt, hupdated, hrebuildsNext, hroomNext⟩ :=
    rebuildLocalData_spec depth
      (getAllOldDistributionBundleInfo bundleNames storage).2 hpublic
      (by omega)
  obtain ⟨hname, hnone⟩ := Bool.and_eq_true_iff.mp hnew
  have hentry : (getAllOldDistributionBundleInfo bundleNames
      storage).1[first.name]? = none := by
    rw [hold, Option.isNone_iff_eq_none.mp hnone, ite_self]
  have hlisted : ∀ name ∈ (getAllOldDistributionBundleInfo bundleNames
      storage).1, name ∈ rebuilt.records := by
    intro name hloaded
    obtain ⟨hlisted, hrecord⟩ := (mem_loaded (hold name)).mp hloaded
    exact (hupdated.covers name).mpr ⟨hkept.named.ne_nil hrecord, hlisted⟩
  obtain ⟨collected, hfirst, hcollecting⟩ := collectBundleInfo_overflow
    ((room_loaded hkept bundleNames).trans hfull) hrebuilt hupdated
    hlisted hentry ((hupdated.covers first.name).mpr
      ⟨of_decide_eq_true hname, List.mem_map_of_mem hfirstMem⟩)
  have hrest : rest.countP (isNew
      (getAllOldDistributionBundleInfo bundleNames storage).1) =
        rest.countP (isNew storage.records) := by
    apply List.countP_congr
    intro info hinfo
    rw [isNew_old hkept (hmem info (by simp [hinfo]))]
  obtain ⟨final, hfinal, hcollectingFinal, hextends⟩ := collect_foldlM
    (rebuildLocalData (depth + 1) bundleInfos) rest hcollecting
    (fun info hinfo => hpublic info (hmem info (by simp [hinfo])))
    (by
      change _ ≤ rebuilt.room
      rw [hrest]
      omega)
  obtain ⟨hkeptNext, _, _, hrebuildsFinal, _⟩ :=
    dmsPutBatch_spec hcollectingFinal (by
      rw [hextends.records, hextends.maxBundleNameId]
      exact hupdated.kept.bounded)
  refine ⟨dmsPutBatch final.1 final.2, ?_, hkeptNext, ?_⟩
  · unfold updateDistributedData updateWith
    dsimp only
    have hskip : ∀ info ∈ skipped, isCollected
        (getAllOldDistributionBundleInfo bundleNames storage).1 info =
          false := by
      intro info hinfo
      rw [isCollected_old hkept (hmem info (List.mem_append_left _ hinfo))]
      exact hskipped info hinfo
    have hfold := foldlM_collected_first hskip hfirst hfinal
    rw [← hsplit] at hfold
    rw [hfold]
    rfl
  · rw [hrebuildsFinal, hextends.rebuilds, hrebuildsNext, hrebuilds]

/-! ## Saves -/

theorem SameIds.refl (records : Std.TreeMap Text DmsBundleInfo) :
    SameIds records records := by
  intro name before after hbefore hafter
  rw [Option.some.inj (hbefore.symm.trans hafter)]

theorem innerSave_spec (info : DmsBundleInfo) (hkept : Kept storage)
    (hname : info.bundleName ≠ [])
    (hpublic : publicRecords.isPrefixOf info.bundleName = false)
    (hid : info.bundleNameId.toNat ≤
      if storage.bundleNameIdTables.isEmpty then
        (storage.maxBundleNameId.getD 0).toNat
      else storage.lastId)
    (hother : ∀ (other : Text) (found : DmsBundleInfo),
      other ≠ info.bundleName → storage.records[other]? = some found →
      found.bundleNameId ≠ info.bundleNameId) :
    Kept (innerSaveStorageDistributeInfo info storage).2 ∧
      (innerSaveStorageDistributeInfo info storage).2.records =
        storage.records.insert info.bundleName info ∧
      (innerSaveStorageDistributeInfo info storage).2.rebuilds =
        storage.rebuilds := by
  have hnamed := hkept.named.insert hname hpublic
  have hunique := hkept.unique.insert hother
  unfold innerSaveStorageDistributeInfo updatePublicRecords
  rw [if_neg hname]
  dsimp only
  cases hempty : storage.bundleNameIdTables.isEmpty with
  | true =>
      rw [if_pos hempty] at hid
      rw [if_pos rfl]
      exact ⟨⟨hnamed, hunique, hkept.bounded.insert le_rfl hid⟩, rfl, rfl⟩
  | false =>
      rw [hempty, if_neg Bool.false_ne_true] at hid
      rw [if_neg Bool.false_ne_true]
      exact ⟨⟨hnamed, hunique, hkept.bounded.insert
        (maxBundleNameId_le_lastId storage) hid⟩, rfl, rfl⟩

theorem save_room (rebuild : DmsBmStorage → Option DmsBmStorage)
    (hkept : Kept storage) (hname : bundleInfo.name ≠ [])
    (hpublic : publicRecords.isPrefixOf bundleInfo.name = false)
    (hroom : 0 < storage.room) (developerId : Text)
    (hzero : storage.bundleNameIdTables.isEmpty = true →
      ∀ (name : Text) (info : DmsBundleInfo),
        storage.records[name]? = some info →
        (name = bundleInfo.name ↔ info.bundleNameId = 0))
    (hnew : storage.bundleNameIdTables.isEmpty = false →
      storage.records[bundleInfo.name]? = none) :
    ∃ saved, (convertBundleInfo rebuild bundleInfo developerId false
        storage).map (fun (info, next) =>
          innerSaveStorageDistributeInfo info next) = some saved ∧
      Kept saved.2 ∧ saved.2.rebuilds = storage.rebuilds ∧
      SameIds storage.records saved.2.records := by
  obtain ⟨bundleNameId, hcreate, hid⟩ :=
    createBundleNameId_room rebuild bundleInfo.name hroom
  have hbundleName :=
    bundleName_convert bundleInfo developerId bundleNameId
  have hbundleNameId := bundleNameId_convert hname developerId bundleNameId
  let next := addBundleNameId bundleNameId bundleInfo.name storage
  have hkeptNext : Kept next := ⟨hkept.named, hkept.unique, hkept.bounded⟩
  obtain ⟨hkeptSaved, hrecords, hrebuilds⟩ := innerSave_spec
    (convertToDistributedBundleInfo bundleInfo developerId bundleNameId)
    hkeptNext
    (by rw [hbundleName]; exact hname) (by rw [hbundleName]; exact hpublic)
    (by
      rw [hbundleNameId, isEmpty_addBundleNameId, if_neg Bool.false_ne_true,
        lastId_addBundleNameId]
      exact le_max_left _ _)
    (by
      intro other found hne hfound hsame
      rw [hbundleName] at hne
      rw [hbundleNameId] at hsame
      rcases hid with ⟨hempty, hidZero⟩ | ⟨_, hsucc⟩
      · have hfoundZero : found.bundleNameId = 0 :=
          UInt16.toNat_inj.mp ((congrArg UInt16.toNat hsame).trans hidZero)
        exact hne ((hzero hempty other found hfound).mpr hfoundZero)
      · have hle := (hkept.bounded other found hfound).trans
          (maxBundleNameId_le_lastId storage)
        rw [hsame, hsucc] at hle
        omega)
  refine ⟨_, ?_, hkeptSaved, hrebuilds, ?_⟩
  · rw [convertBundleInfo_eq hname, hcreate]
    rfl
  · rw [hrecords, hbundleName]
    intro name before after hbefore hafter
    rw [OrderedMap.getElem?_insert_eq] at hafter
    split_ifs at hafter with hsame
    · subst hsame
      rcases hid with ⟨hempty, hidZero⟩ | ⟨hnonempty, _⟩
      · have hbeforeZero := (hzero hempty _ before hbefore).mp rfl
        rw [← Option.some.inj hafter, hbundleNameId, hbeforeZero]
        exact UInt16.toNat_inj.mp hidZero
      · exact absurd (hbefore.symm.trans (hnew hnonempty))
          (Option.some_ne_none _)
    · rw [Option.some.inj (hbefore.symm.trans hafter)]

/-- After a rebuild the id of a listed bundle is that of its record; a bundle
that is not listed gets 0, which is free only when no bundle is. -/
theorem rebuilt_id {rebuilt : DmsBmStorage}
    (hupdated : Updated bundleInfos rebuilt) {bundleName : Text}
    (hname : bundleName ≠ [])
    (hlisted : bundleName ∈ bundleInfos.map (·.name) ∨
      bundleInfos.countP isNamed = 0) :
    ((getBundleNameId bundleName rebuilt).getD 0).toNat ≤
        (rebuilt.maxBundleNameId.getD 0).toNat ∧
      ∀ (other : Text) (found : DmsBundleInfo), other ≠ bundleName →
        rebuilt.records[other]? = some found →
        found.bundleNameId ≠ (getBundleNameId bundleName rebuilt).getD 0 := by
  rw [getBundleNameId_eq hupdated.kept.named]
  cases hrecord : rebuilt.records[bundleName]? with
  | some info =>
      refine ⟨hupdated.kept.bounded bundleName info hrecord, ?_⟩
      intro other found hne hfound hsame
      exact hne (hupdated.kept.unique other bundleName found info hfound
        hrecord hsame)
  | none =>
      refine ⟨Nat.zero_le _, ?_⟩
      intro other found hne hfound
      have hother : other ∈ rebuilt.records := (getElem?_eq_some_iff.mp hfound).1
      obtain ⟨hnonempty, hmem⟩ := (hupdated.covers other).mp hother
      rcases hlisted with hlisted | hnone
      · have habsent := (hupdated.covers bundleName).mpr ⟨hname, hlisted⟩
        rw [Std.TreeMap.mem_iff_isSome_getElem?, hrecord] at habsent
        exact absurd habsent Bool.false_ne_true
      · obtain ⟨info, hinfo, rfl⟩ := List.mem_map.mp hmem
        have hunnamed := List.countP_eq_zero.mp hnone info hinfo
        exact absurd (decide_eq_true hnonempty) hunnamed

theorem save_overflow (depth : ℕ) (hname : bundleInfo.name ≠ [])
    (hpublic : publicRecords.isPrefixOf bundleInfo.name = false)
    (hfull : storage.room = 0) (developerId : Text)
    (hpublics : ∀ info ∈ bundleInfos,
      publicRecords.isPrefixOf info.name = false)
    (hnamed : bundleInfos.countP isNamed ≤ 65536)
    (hlisted : bundleInfo.name ∈ bundleInfos.map (·.name) ∨
      bundleInfos.countP isNamed = 0) :
    ∃ saved, (convertBundleInfo (rebuildLocalData (depth + 1) bundleInfos)
        bundleInfo developerId false storage).map (fun (info, next) =>
          innerSaveStorageDistributeInfo info next) = some saved ∧
      Kept saved.2 ∧ saved.2.rebuilds = storage.rebuilds + 1 := by
  obtain ⟨rebuilt, hrebuilt, hupdated, hrebuilds, _⟩ :=
    rebuildLocalData_spec depth storage hpublics hnamed
  obtain ⟨hle, hother⟩ := rebuilt_id hupdated hname hlisted
  let bundleNameId := (getBundleNameId bundleInfo.name rebuilt).getD 0
  have hbundleName :=
    bundleName_convert bundleInfo developerId bundleNameId
  have hbundleNameId := bundleNameId_convert hname developerId bundleNameId
  obtain ⟨hkeptSaved, _, hrebuildsSaved⟩ := innerSave_spec
    (convertToDistributedBundleInfo bundleInfo developerId bundleNameId)
    hupdated.kept
    (by rw [hbundleName]; exact hname) (by rw [hbundleName]; exact hpublic)
    (by
      rw [hbundleNameId]
      split_ifs
      · exact hle
      · exact hle.trans (maxBundleNameId_le_lastId rebuilt))
    (by
      rw [hbundleName, hbundleNameId]
      exact hother)
  refine ⟨_, ?_, hkeptSaved, hrebuildsSaved.trans hrebuilds⟩
  rw [convertBundleInfo_eq hname, createBundleNameId_overflow _ hfull,
    hrebuilt]
  rfl

end Updates

/-! ## Runs -/

/-- A save finds its id free: an empty table gives 0, which then is the id of no
other record; a bundle that has a record gets no new id; and when the ids run
out the bundle is among those that the rebuild numbers. -/
def SaveAdmitted (storage : DmsBmStorage) (bundleInfo : BundleInfo)
    (bundleInfos : List BundleInfo) : Prop :=
  publicRecords.isPrefixOf bundleInfo.name = false ∧
    if storage.bundleNameIdTables.isEmpty then
      ∀ entry ∈ storage.records.toList,
        (entry.1 = bundleInfo.name ↔ entry.2.bundleNameId = 0)
    else if 0 < storage.room then storage.records[bundleInfo.name]? = none
    else
      (∀ info ∈ bundleInfos, publicRecords.isPrefixOf info.name = false) ∧
        bundleInfos.countP isNamed ≤ 65536 ∧
        (bundleInfo.name ∈ bundleInfos.map (·.name) ∨
          bundleInfos.countP isNamed = 0)

/-- An update has ids left for all new bundles, or rebuilds at the first bundle
that it collects, with ids enough for all bundles and the new ones once more. -/
def UpdateAdmitted (storage : DmsBmStorage)
    (bundleInfos : List BundleInfo) : Prop :=
  (∀ info ∈ bundleInfos, publicRecords.isPrefixOf info.name = false) ∧
    (bundleInfos.countP (isNew storage.records) ≤ storage.freeIds ∨
      storage.freeIds = 0 ∧
        (bundleInfos.find? (isCollected storage.records)).any
          (isNew storage.records) = true ∧
        bundleInfos.countP isNamed +
          bundleInfos.countP (isNew storage.records) ≤ 65537)

def Admitted (storage : DmsBmStorage) : StorageEvent → Prop
  | .save answers _ =>
      ∀ info ∈ answers.bundleInfo,
        isContinuable info answers.continuable = true →
        SaveAdmitted storage info answers.bundleInfos
  | .update bundleInfos => UpdateAdmitted storage bundleInfos
  | .delete _ _ | .restart => True

instance (storage : DmsBmStorage) : DecidablePred storage.Admitted := by
  intro event
  unfold Admitted SaveAdmitted UpdateAdmitted
  split <;> infer_instance

/-- The operation returns, and without a rebuild no record changes its id. -/
def KeepsIds (depth : ℕ) (storage : DmsBmStorage) (event : StorageEvent) :
    Prop :=
  (step depth storage event).1.isSome = true ∧
    ((step depth storage event).2.rebuilds = storage.rebuilds →
      SameIds storage.records (step depth storage event).2.records)

section Runs

variable {storage : DmsBmStorage}

theorem saveStorageDistributeInfo_spec (depth : ℕ) (hkept : Kept storage)
    {answers : SaveAnswers} {isPackageChange : Bool}
    (hadmitted : storage.Admitted (.save answers isPackageChange)) :
    ∃ saved, saveStorageDistributeInfo (depth + 1) answers isPackageChange
        storage = some saved ∧
      Kept saved.2 ∧
      (saved.2.rebuilds = storage.rebuilds →
        SameIds storage.records saved.2.records) := by
  unfold saveStorageDistributeInfo
  cases hinfo : answers.bundleInfo with
  | none => exact ⟨(false, storage), rfl, hkept, fun _ => .refl _⟩
  | some bundleInfo =>
      dsimp only
      cases hcontinuable : isContinuable bundleInfo answers.continuable with
      | false => exact ⟨(false, storage), rfl, hkept, fun _ => .refl _⟩
      | true =>
          obtain ⟨hpublic, hfree⟩ := hadmitted bundleInfo hinfo hcontinuable
          have hname : bundleInfo.name ≠ [] :=
            of_decide_eq_true (Bool.and_eq_true_iff.mp hcontinuable).1
          rw [Bool.not_true, if_neg Bool.false_ne_true]
          by_cases hroom : 0 < storage.room
          · obtain ⟨saved, hsaved, hkeptSaved, _, hids⟩ := save_room
              (rebuildLocalData (depth + 1) answers.bundleInfos) hkept hname
              hpublic hroom answers.developerId
              (by
                intro hempty name info hrecord
                rw [if_pos hempty] at hfree
                exact hfree (name, info)
                  (Std.TreeMap.mem_toList_iff_getElem?_eq_some.mpr hrecord))
              (by
                intro hempty
                rw [hempty, if_neg Bool.false_ne_true, if_pos hroom] at hfree
                exact hfree)
            exact ⟨saved, hsaved, hkeptSaved, fun _ => hids⟩
          · have hfull := Nat.eq_zero_of_not_pos hroom
            have hempty : ¬ storage.bundleNameIdTables.isEmpty = true :=
              fun hempty => hroom (room_pos_of_isEmpty hempty)
            rw [if_neg hempty, if_neg hroom] at hfree
            obtain ⟨hpublics, hnamed, hlisted⟩ := hfree
            obtain ⟨saved, hsaved, hkeptSaved, hrebuilds⟩ := save_overflow
              depth hname hpublic hfull answers.developerId hpublics hnamed
              hlisted
            refine ⟨saved, hsaved, hkeptSaved, ?_⟩
            intro hsame
            exact absurd (hrebuilds.symm.trans hsame) (Nat.succ_ne_self _)

theorem updateDistributedData_spec (depth : ℕ) (hkept : Kept storage)
    {bundleInfos : List BundleInfo}
    (hadmitted : UpdateAdmitted storage bundleInfos) :
    ∃ next, updateDistributedData (depth + 1) bundleInfos storage =
        some next ∧
      Kept next ∧
      (next.rebuilds = storage.rebuilds →
        SameIds storage.records next.records) := by
  obtain ⟨hpublic, hroom | ⟨hfull, hfirst, hroom⟩⟩ := hadmitted
  · obtain ⟨next, hnext, hupdated, _, _, hids⟩ := updateWith_room
      (rebuildLocalData (depth + 1) bundleInfos) hkept hpublic hroom
    exact ⟨next, hnext, hupdated.kept, fun _ => hids⟩
  · obtain ⟨first, hfound, hnew⟩ := (Option.any_eq_true _ _).mp hfirst
    obtain ⟨_, skipped, rest, hsplit, hskipped⟩ :=
      List.find?_eq_some_iff_append.mp hfound
    obtain ⟨next, hnext, hkeptNext, hrebuilds⟩ :=
      updateDistributedData_overflow depth hkept hpublic hfull hsplit
        (fun info hinfo => Bool.not_eq_eq_eq_not.mp (hskipped info hinfo))
        hnew hroom
    refine ⟨next, hnext, hkeptNext, ?_⟩
    intro hsame
    exact absurd (hrebuilds.symm.trans hsame) (Nat.succ_ne_self _)

theorem Kept.of_subset {next : DmsBmStorage} (hkept : Kept storage)
    (hmax : next.maxBundleNameId = storage.maxBundleNameId)
    (hsub : ∀ (name : Text) (info : DmsBundleInfo),
      next.records[name]? = some info →
      storage.records[name]? = some info) : Kept next where
  named name info hinfo := hkept.named name info (hsub name info hinfo)
  unique name other info otherInfo hinfo hother :=
    hkept.unique name other info otherInfo (hsub name info hinfo)
      (hsub other otherInfo hother)
  bounded := by
    rw [hmax]
    exact fun name info hinfo => hkept.bounded name info (hsub name info hinfo)

theorem SameIds.of_subset {records later : Std.TreeMap Text DmsBundleInfo}
    (hsub : ∀ (name : Text) (info : DmsBundleInfo),
      later[name]? = some info → records[name]? = some info) :
    SameIds records later := by
  intro name before after hbefore hafter
  rw [Option.some.inj (hbefore.symm.trans (hsub name after hafter))]

theorem delete_subset (bundleName : Text) (installed : Bool)
    (storage : DmsBmStorage) (name : Text) (info : DmsBundleInfo)
    (hinfo : (deleteStorageDistributeInfo bundleName installed
      storage).records[name]? = some info) :
    storage.records[name]? = some info := by
  unfold deleteStorageDistributeInfo at hinfo
  split_ifs at hinfo
  · exact hinfo
  · rw [OrderedMap.getElem?_erase_eq] at hinfo
    split_ifs at hinfo
    exact hinfo

theorem maxBundleNameId_delete (bundleName : Text) (installed : Bool)
    (storage : DmsBmStorage) :
    (deleteStorageDistributeInfo bundleName installed
      storage).maxBundleNameId = storage.maxBundleNameId := by
  unfold deleteStorageDistributeInfo
  split_ifs <;> rfl

theorem Kept.step (depth : ℕ) (hkept : Kept storage) {event : StorageEvent}
    (hadmitted : storage.Admitted event) :
    Kept (step (depth + 1) storage event).2 ∧
      KeepsIds (depth + 1) storage event := by
  unfold KeepsIds DmsBmStorage.step
  cases event with
  | save answers isPackageChange =>
      obtain ⟨saved, hsaved, hkeptSaved, hids⟩ :=
        saveStorageDistributeInfo_spec depth hkept hadmitted
      dsimp only
      rw [hsaved]
      exact ⟨hkeptSaved, rfl, hids⟩
  | update bundleInfos =>
      obtain ⟨next, hnext, hkeptNext, hids⟩ :=
        updateDistributedData_spec depth hkept hadmitted
      dsimp only
      rw [hnext]
      exact ⟨hkeptNext, rfl, hids⟩
  | delete bundleName installed =>
      have hsub := delete_subset bundleName installed storage
      exact ⟨hkept.of_subset (maxBundleNameId_delete _ _ _) hsub, rfl,
        fun _ => .of_subset hsub⟩
  | restart =>
      exact ⟨hkept.of_subset rfl fun _ _ => id, rfl, fun _ => .refl _⟩

end Runs

/-- In every admitted run the bundle ids are unique and stable, and every
operation returns. -/
theorem bundleNameIds_run (depth : ℕ) (events : List StorageEvent)
    (hadmitted : EventRun.Meets (step (depth + 1)) Admitted {} events) :
    IdsUnique (EventRun.run (step (depth + 1)) {} events).2.records ∧
      EventRun.Meets (step (depth + 1)) (KeepsIds (depth + 1)) {} events := by
  constructor
  · have hkept : Kept (EventRun.run (step (depth + 1)) {} events).2 :=
      hadmitted.invariant (fun _ _ hkept hstep => (hkept.step depth hstep).1)
        (kept_empty 0)
    exact hkept.unique
  · exact hadmitted.guarantee
      (fun _ _ hkept hstep => (hkept.step depth hstep).2)
      (fun _ _ hkept hstep => (hkept.step depth hstep).1) (kept_empty 0)

def answersFor (name : String) : SaveAnswers where
  bundleInfo := some { name := name.toList }
  bundleInfos := []

/-- Two bundles, of which the first is removed, a restart, and an update that
finds the second changed and a third. -/
def sampleEvents : List StorageEvent :=
  [.save (answersFor "mail") false, .save (answersFor "notes") false,
    .delete "mail".toList false, .restart,
    .update [{ name := "notes".toList, updateTime := 8 },
      { name := "draw".toList }],
    .save (answersFor "chat") false]

theorem bundleNameIds_sampleEvents :
    IdsUnique (EventRun.run (step 1) {} sampleEvents).2.records ∧
      EventRun.Meets (step 1) (KeepsIds 1) {} sampleEvents :=
  bundleNameIds_run 0 sampleEvents (by decide +kernel)

/-- The table is empty after a restart, so the next bundle gets the id 0 as
well. -/
def savedAfterRestart : List StorageEvent :=
  [.save (answersFor "mail") false, .restart,
    .save (answersFor "notes") false]

def savedAgain : List StorageEvent :=
  [.save (answersFor "mail") false, .save (answersFor "mail") true]

theorem not_bundleNameIds_savedAfterRestart :
    ¬ IdsUnique (EventRun.run (step 1) {} savedAfterRestart).2.records ∧
      ¬ EventRun.Meets (step 1) (KeepsIds 1) {} savedAgain := by
  constructor
  · intro hunique
    have hsame := hunique "mail".toList "notes".toList
      { bundleName := "mail".toList } { bundleName := "notes".toList }
      (by decide +kernel) (by decide +kernel) rfl
    exact absurd hsame (by decide)
  · rintro ⟨_, ⟨_, hids⟩, _⟩
    have hsame := hids (by decide +kernel) "mail".toList
      { bundleName := "mail".toList }
      { bundleName := "mail".toList, bundleNameId := 1 }
      (by decide +kernel) (by decide +kernel)
    exact absurd hsame (by decide)

end DmsBmStorage

end Dmsfwk
