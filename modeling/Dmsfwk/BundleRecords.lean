import Dmsfwk.DistributedBmStorage

/-!
# Records with ids

An update of all bundles collects records before it writes them, so what counts
while it runs are the records with the collected ones written over them.  Every
id there is at most the last one, and a new id is larger.
-/

namespace Dmsfwk

namespace DmsBmStorage

def IdsUnique (records : Std.TreeMap Text DmsBundleInfo) : Prop :=
  ∀ (name other : Text) (info otherInfo : DmsBundleInfo),
    records[name]? = some info → records[other]? = some otherInfo →
    info.bundleNameId = otherInfo.bundleNameId → name = other

variable {records : Std.TreeMap Text DmsBundleInfo}

theorem IdsUnique.insert (hunique : IdsUnique records) {name : Text}
    {info : DmsBundleInfo}
    (hother : ∀ (other : Text) (otherInfo : DmsBundleInfo), other ≠ name →
      records[other]? = some otherInfo →
      otherInfo.bundleNameId ≠ info.bundleNameId) :
    IdsUnique (records.insert name info) := by
  intro first second firstInfo secondInfo hfirst hsecond hids
  rw [OrderedMap.getElem?_insert_eq] at hfirst hsecond
  split_ifs at hfirst with hfirstName
  · split_ifs at hsecond with hsecondName
    · exact hfirstName.symm.trans hsecondName
    · rw [← Option.some.inj hfirst] at hids
      exact absurd hids.symm (hother second secondInfo (Ne.symm hsecondName)
        hsecond)
  · split_ifs at hsecond with hsecondName
    · rw [← Option.some.inj hsecond] at hids
      exact absurd hids (hother first firstInfo (Ne.symm hfirstName) hfirst)
    · exact hunique first second firstInfo secondInfo hfirst hsecond hids

/-! ## The last id -/

section LastId

variable {storage : DmsBmStorage}

def lastId (storage : DmsBmStorage) : ℕ := storage.lastBundleNameId.toNat

theorem lastId_eq (storage : DmsBmStorage) :
    storage.lastId =
      max (storage.bundleNameIdTables.maxKey?.getD 0).toNat
        (storage.maxBundleNameId.getD 0).toNat := by
  rw [Std.TreeMap.maxKey?_eq_getLast?_keys]
  exact UInt16.toNat_max _ _

theorem lastId_le (storage : DmsBmStorage) : storage.lastId ≤ 65535 := by
  have hlt := storage.lastBundleNameId.toNat_lt
  unfold lastId
  omega

theorem maxBundleNameId_le_lastId (storage : DmsBmStorage) :
    (storage.maxBundleNameId.getD 0).toNat ≤ storage.lastId := by
  rw [lastId_eq]
  exact le_max_right _ _

theorem lastId_addBundleNameId (bundleNameId : UInt16) (bundleName : Text)
    (storage : DmsBmStorage) :
    (addBundleNameId bundleNameId bundleName storage).lastId =
      max bundleNameId.toNat storage.lastId := by
  have hkey : (((addBundleNameId bundleNameId bundleName
        storage).bundleNameIdTables.maxKey?).getD 0).toNat =
      max bundleNameId.toNat
        (storage.bundleNameIdTables.maxKey?.getD 0).toNat := by
    unfold addBundleNameId
    rw [Std.TreeMap.maxKey?_insertIfNew]
    cases storage.bundleNameIdTables.maxKey? with
    | none => simp
    | some key =>
        simp only [Option.elim_some, Option.getD_some, Std.compare_eq_lt]
        split_ifs with hlt
        · have := UInt16.lt_iff_toNat_lt.mp hlt
          omega
        · have := UInt16.not_lt.mp hlt
          rw [UInt16.le_iff_toNat_le] at this
          omega
  rw [lastId_eq, lastId_eq, hkey]
  exact max_assoc _ _ _

@[simp] theorem isEmpty_addBundleNameId (bundleNameId : UInt16)
    (bundleName : Text) (storage : DmsBmStorage) :
    (addBundleNameId bundleNameId bundleName
      storage).bundleNameIdTables.isEmpty = false := by
  simp [addBundleNameId]

/-- How many ids are left before the local data is rebuilt: the first id of an
empty table does not count on the last one. -/
def room (storage : DmsBmStorage) : ℕ :=
  (if storage.bundleNameIdTables.isEmpty then 65536 else 65535) -
    storage.lastId

end LastId

/-! ## Records and what is written over them -/

def Named (records : Std.TreeMap Text DmsBundleInfo) : Prop :=
  ∀ (name : Text) (info : DmsBundleInfo), records[name]? = some info →
    info.bundleName = name ∧ name ≠ [] ∧ publicRecords.isPrefixOf name = false

def IdsBounded (records : Std.TreeMap Text DmsBundleInfo) (bound : ℕ) : Prop :=
  ∀ (name : Text) (info : DmsBundleInfo), records[name]? = some info →
    info.bundleNameId.toNat ≤ bound

structure Kept (storage : DmsBmStorage) : Prop where
  named : Named storage.records
  unique : IdsUnique storage.records
  bounded : IdsBounded storage.records
    (storage.maxBundleNameId.getD 0).toNat

theorem Named.insert (hnamed : Named records) {info : DmsBundleInfo}
    (hname : info.bundleName ≠ [])
    (hpublic : publicRecords.isPrefixOf info.bundleName = false) :
    Named (records.insert info.bundleName info) := by
  intro name found hfound
  rw [OrderedMap.getElem?_insert_eq] at hfound
  split_ifs at hfound with hsame
  · cases hfound
    subst hsame
    exact ⟨rfl, hname, hpublic⟩
  · exact hnamed name found hfound

theorem Named.ne_nil (hnamed : Named records) {name : Text} (hmem : name ∈ records) :
    name ≠ [] := by
  obtain ⟨info, hinfo⟩ := Option.isSome_iff_exists.mp
    (Std.TreeMap.mem_iff_isSome_getElem?.mp hmem)
  exact (hnamed name info hinfo).2.1

theorem IdsBounded.insert {bound larger : ℕ} (hbounded : IdsBounded records bound)
    (hle : bound ≤ larger) {name : Text} {info : DmsBundleInfo}
    (hinfo : info.bundleNameId.toNat ≤ larger) :
    IdsBounded (records.insert name info) larger := by
  intro other found hfound
  rw [OrderedMap.getElem?_insert_eq] at hfound
  split_ifs at hfound
  · cases hfound
    exact hinfo
  · exact (hbounded other found hfound).trans hle

theorem written_append (dmsBundleInfos : List DmsBundleInfo)
    (info : DmsBundleInfo) (records : Std.TreeMap Text DmsBundleInfo) :
    written (dmsBundleInfos ++ [info]) records =
      (written dmsBundleInfos records).insert info.bundleName info := by
  unfold written
  rw [List.foldl_append]
  rfl

section Named

variable {storage : DmsBmStorage} (hnamed : Named storage.records)

include hnamed

theorem getBundleNameId_eq (name : Text) :
    getBundleNameId name storage =
      (storage.records[name]?).map (·.bundleNameId) := by
  unfold getBundleNameId
  cases hrecord : storage.records[name]? with
  | none => rfl
  | some info =>
      dsimp only
      rw [if_pos (hnamed name info hrecord).1]
      rfl

/-! ## Loading the old records -/

theorem isListed {name : Text} {info : DmsBundleInfo}
    (hrecord : storage.records[name]? = some info) (bundleNames : List Text) :
    (bundleNames.contains info.bundleName && info.bundleName ≠ []) =
      decide (name ∈ bundleNames) := by
  obtain ⟨hname, hnonempty, _⟩ := hnamed name info hrecord
  rw [hname]
  simp [hnonempty]

theorem loaded_records (bundleNames : List Text) (name : Text) :
    (getAllOldDistributionBundleInfo bundleNames storage).2.records[name]? =
      if name ∈ bundleNames then storage.records[name]? else none := by
  unfold getAllOldDistributionBundleInfo
  dsimp only
  rw [Std.TreeMap.getElem?_filter']
  cases hrecord : storage.records[name]? with
  | none => simp
  | some info =>
      have hpublic := (hnamed name info hrecord).2.2
      rw [Option.filter_some, isListed hnamed hrecord, hpublic,
        Bool.false_or]
      simp

theorem loaded_old (bundleNames : List Text) (name : Text) :
    (getAllOldDistributionBundleInfo bundleNames storage).1[name]? =
      if name ∈ bundleNames then storage.records[name]? else none := by
  unfold getAllOldDistributionBundleInfo
  dsimp only
  rw [Std.TreeMap.getElem?_filter', Std.TreeMap.getElem?_filter']
  cases hrecord : storage.records[name]? with
  | none => simp
  | some info =>
      have hpublic := (hnamed name info hrecord).2.2
      rw [Option.filter_some, hpublic, Bool.not_false, if_pos rfl,
        Option.filter_some, isListed hnamed hrecord]
      simp

end Named

theorem mem_loaded {records loaded : Std.TreeMap Text DmsBundleInfo}
    {bundleNames : List Text} {name : Text}
    (hloaded : loaded[name]? =
      if name ∈ bundleNames then records[name]? else none) :
    name ∈ loaded ↔ name ∈ bundleNames ∧ name ∈ records := by
  rw [Std.TreeMap.mem_iff_isSome_getElem?,
    Std.TreeMap.mem_iff_isSome_getElem?, hloaded]
  split_ifs with hlisted <;> simp [hlisted]

theorem foldl_addBundleNameId (entries : List (Text × DmsBundleInfo))
    (storage : DmsBmStorage)
    (hbounded : ∀ entry ∈ entries,
      entry.2.bundleNameId.toNat ≤ storage.lastId) :
    let loaded := entries.foldl
      (fun storage entry =>
        addBundleNameId entry.2.bundleNameId entry.2.bundleName storage)
      storage
    loaded.lastId = storage.lastId ∧
      loaded.maxBundleNameId = storage.maxBundleNameId ∧
      loaded.rebuilds = storage.rebuilds ∧
      loaded.bundleNameIdTables.isEmpty =
        (storage.bundleNameIdTables.isEmpty && entries.isEmpty) := by
  induction entries generalizing storage with
  | nil => simp
  | cons entry entries ih =>
      have hlast : (addBundleNameId entry.2.bundleNameId entry.2.bundleName
          storage).lastId = storage.lastId := by
        rw [lastId_addBundleNameId]
        exact max_eq_right (hbounded entry List.mem_cons_self)
      obtain ⟨ihLast, ihMax, ihRebuilds, ihEmpty⟩ := ih
        (addBundleNameId entry.2.bundleNameId entry.2.bundleName storage) (by
          intro other hother
          rw [hlast]
          exact hbounded other (List.mem_cons_of_mem _ hother))
      rw [isEmpty_addBundleNameId] at ihEmpty
      exact ⟨ihLast.trans hlast, ihMax, ihRebuilds, by simpa using ihEmpty⟩

theorem isEmpty_entries (hnamed : Named records) :
    (records.filter fun key _ =>
      !publicRecords.isPrefixOf key).toList.isEmpty = records.isEmpty := by
  rw [Std.TreeMap.isEmpty_toList, Bool.eq_iff_iff,
    Std.TreeMap.isEmpty_iff_forall_not_mem,
    Std.TreeMap.isEmpty_iff_forall_not_mem]
  apply forall_congr'
  intro name
  rw [Std.TreeMap.mem_iff_isSome_getElem?,
    Std.TreeMap.mem_iff_isSome_getElem?, Std.TreeMap.getElem?_filter']
  cases hrecord : records[name]? with
  | none => rfl
  | some info =>
      rw [Option.filter_some, (hnamed name info hrecord).2.2]
      rfl

theorem loaded_spec {storage : DmsBmStorage} (hkept : Kept storage)
    (bundleNames : List Text) :
    let loaded := (getAllOldDistributionBundleInfo bundleNames storage).2
    loaded.lastId = storage.lastId ∧
      loaded.maxBundleNameId = storage.maxBundleNameId ∧
      loaded.rebuilds = storage.rebuilds ∧
      loaded.bundleNameIdTables.isEmpty =
        (storage.bundleNameIdTables.isEmpty && storage.records.isEmpty) := by
  have hloaded := foldl_addBundleNameId
    (storage.records.filter fun key _ =>
      !publicRecords.isPrefixOf key).toList storage (by
    intro entry hentry
    rw [Std.TreeMap.mem_toList_iff_getElem?_eq_some,
      Std.TreeMap.getElem?_filter'] at hentry
    have hrecord := (Option.filter_eq_some_iff.mp hentry).1
    exact (hkept.bounded entry.1 entry.2 hrecord).trans
      (maxBundleNameId_le_lastId storage))
  rw [isEmpty_entries hkept.named] at hloaded
  exact hloaded

/-! ## New ids -/

variable {bundleInfo : BundleInfo}

section NewIds

variable {rebuild : DmsBmStorage → Option DmsBmStorage}
variable {storage : DmsBmStorage}

theorem room_pos_of_isEmpty
    (hempty : storage.bundleNameIdTables.isEmpty = true) :
    0 < storage.room := by
  have hle := lastId_le storage
  unfold room
  rw [if_pos hempty]
  omega

theorem createBundleNameId_room
    (rebuild : DmsBmStorage → Option DmsBmStorage) (bundleName : Text)
    (hroom : 0 < storage.room) :
    ∃ bundleNameId, createBundleNameId rebuild bundleName false storage =
        some (bundleNameId, addBundleNameId bundleNameId bundleName storage) ∧
      ((storage.bundleNameIdTables.isEmpty = true ∧ bundleNameId.toNat = 0) ∨
        (storage.bundleNameIdTables.isEmpty = false ∧
          bundleNameId.toNat = storage.lastId + 1)) := by
  unfold createBundleNameId
  dsimp only
  cases hempty : storage.bundleNameIdTables.isEmpty with
  | true => exact ⟨0, rfl, .inl ⟨rfl, rfl⟩⟩
  | false =>
      have hlast : storage.lastId < 65535 := by
        unfold room at hroom
        rw [hempty] at hroom
        exact Nat.lt_of_sub_pos hroom
      have hlt : storage.lastBundleNameId < maxBundleId :=
        UInt16.lt_iff_toNat_lt.mpr hlast
      refine ⟨storage.lastBundleNameId + 1, if_pos hlt, .inr ⟨rfl, ?_⟩⟩
      rw [UInt16.toNat_add]
      exact Nat.mod_eq_of_lt (Nat.succ_lt_succ hlast)

theorem createBundleNameId_overflow (bundleName : Text)
    (hroom : storage.room = 0) :
    createBundleNameId rebuild bundleName false storage =
      (rebuild storage).map fun rebuilt =>
        ((getBundleNameId bundleName rebuilt).getD 0, rebuilt) := by
  have hempty : storage.bundleNameIdTables.isEmpty ≠ true := by
    intro hempty
    exact (room_pos_of_isEmpty hempty).ne' hroom
  have hlast : ¬ storage.lastBundleNameId < maxBundleId := by
    intro hlt
    have hlt : storage.lastId < 65535 := UInt16.lt_iff_toNat_lt.mp hlt
    unfold room at hroom
    rw [if_neg hempty] at hroom
    omega
  unfold createBundleNameId
  dsimp only
  rw [if_neg hempty, if_neg hlast]
  rfl

theorem createBundleNameId_known {bundleName : Text} {bundleNameId : UInt16}
    (hknown : getBundleNameId bundleName storage = some bundleNameId) :
    createBundleNameId rebuild bundleName true storage =
      some (bundleNameId, storage) := by
  unfold createBundleNameId
  rw [if_pos rfl, hknown]

theorem room_addBundleNameId {bundleNameId : UInt16} {bundleName : Text}
    (hroom : 0 < storage.room)
    (hid : (storage.bundleNameIdTables.isEmpty = true ∧
        bundleNameId.toNat = 0) ∨
      (storage.bundleNameIdTables.isEmpty = false ∧
        bundleNameId.toNat = storage.lastId + 1)) :
    (addBundleNameId bundleNameId bundleName storage).room + 1 =
      storage.room := by
  have hle := lastId_le storage
  unfold room at hroom ⊢
  rw [lastId_addBundleNameId, isEmpty_addBundleNameId]
  rcases hid with ⟨hempty, hzero⟩ | ⟨hnonempty, hsucc⟩
  · rw [hempty] at hroom ⊢
    rw [hzero, Nat.zero_max, if_neg Bool.false_ne_true, if_pos rfl]
    omega
  · rw [hnonempty] at hroom ⊢
    rw [if_neg Bool.false_ne_true] at hroom ⊢
    rw [hsucc, max_eq_left (Nat.le_succ _)]
    omega

theorem convertBundleInfo_eq (hname : bundleInfo.name ≠ []) (developerId : Text)
    (isPackageChange : Bool) :
    convertBundleInfo rebuild bundleInfo developerId isPackageChange storage =
      (createBundleNameId rebuild bundleInfo.name isPackageChange
        storage).map fun (bundleNameId, next) =>
          (convertToDistributedBundleInfo bundleInfo developerId bundleNameId,
            next) :=
  if_neg hname

end NewIds

theorem bundleName_convert (bundleInfo : BundleInfo) (developerId : Text)
    (bundleNameId : UInt16) :
    (convertToDistributedBundleInfo bundleInfo developerId
      bundleNameId).bundleName = bundleInfo.name := by
  unfold convertToDistributedBundleInfo
  split_ifs with hname
  · exact hname.symm
  · rfl

theorem bundleNameId_convert (hname : bundleInfo.name ≠ []) (developerId : Text)
    (bundleNameId : UInt16) :
    (convertToDistributedBundleInfo bundleInfo developerId
      bundleNameId).bundleNameId = bundleNameId := by
  unfold convertToDistributedBundleInfo
  rw [if_neg hname]

/-! ## Collecting the records of an update -/

abbrev overlay (state : List DmsBundleInfo × DmsBmStorage) :
    Std.TreeMap Text DmsBundleInfo :=
  written state.1 state.2.records

/-- What holds while records are collected; `old` are the records that are to
keep their ids. -/
structure Collecting (old : Std.TreeMap Text DmsBundleInfo)
    (state : List DmsBundleInfo × DmsBmStorage) : Prop where
  stored : Named state.2.records
  named : Named (overlay state)
  unique : IdsUnique (overlay state)
  bounded : IdsBounded (overlay state) state.2.lastId
  first : state.2.bundleNameIdTables.isEmpty = true →
    ∀ name : Text, (overlay state)[name]? = none
  kept : ∀ name ∈ old, ∃ info collected,
    state.2.records[name]? = some info ∧
      (overlay state)[name]? = some collected ∧
      collected.bundleNameId = info.bundleNameId

theorem Collecting.add {old : Std.TreeMap Text DmsBundleInfo}
    {state : List DmsBundleInfo × DmsBmStorage}
    (hcollecting : Collecting old state) {info : DmsBundleInfo}
    {next : DmsBmStorage} (hname : info.bundleName ≠ [])
    (hpublic : publicRecords.isPrefixOf info.bundleName = false)
    (hrecords : next.records = state.2.records)
    (hlast : state.2.lastId ≤ next.lastId)
    (hid : info.bundleNameId.toNat ≤ next.lastId)
    (hempty : next.bundleNameIdTables.isEmpty = false)
    (hother : ∀ (other : Text) (found : DmsBundleInfo),
      other ≠ info.bundleName → (overlay state)[other]? = some found →
      found.bundleNameId ≠ info.bundleNameId)
    (hold : info.bundleName ∈ old → ∀ stored,
      state.2.records[info.bundleName]? = some stored →
      info.bundleNameId = stored.bundleNameId) :
    Collecting old (state.1 ++ [info], next) := by
  have hoverlay : overlay (state.1 ++ [info], next) =
      (overlay state).insert info.bundleName info := by
    unfold overlay
    rw [written_append, hrecords]
  constructor
  · exact hrecords ▸ hcollecting.stored
  · rw [hoverlay]
    exact hcollecting.named.insert hname hpublic
  · rw [hoverlay]
    exact hcollecting.unique.insert hother
  · rw [hoverlay]
    exact hcollecting.bounded.insert hlast hid
  · intro htable
    exact absurd (hempty.symm.trans htable) Bool.false_ne_true
  · intro name hmem
    obtain ⟨stored, collected, hstored, hcollected, hids⟩ :=
      hcollecting.kept name hmem
    rw [hoverlay, hrecords, OrderedMap.getElem?_insert_eq]
    split_ifs with hsame
    · subst hsame
      exact ⟨stored, info, hstored, rfl, hold hmem stored hstored⟩
    · exact ⟨stored, collected, hstored, hcollected, hids⟩

/-- The part of an update that collects `bundleInfos` and uses up `used` ids. -/
structure Extends (bundleInfos : List BundleInfo)
    (start final : List DmsBundleInfo × DmsBmStorage) (used : ℕ) : Prop where
  records : final.2.records = start.2.records
  maxBundleNameId : final.2.maxBundleNameId = start.2.maxBundleNameId
  rebuilds : final.2.rebuilds = start.2.rebuilds
  room : final.2.room + used = start.2.room
  covers : ∀ name : Text, name ∈ overlay final ↔
    name ∈ overlay start ∨ name ≠ [] ∧ name ∈ bundleInfos.map (·.name)

theorem Extends.trans {first second : List BundleInfo}
    {start middle final : List DmsBundleInfo × DmsBmStorage}
    {usedFirst usedSecond : ℕ}
    (hfirst : Extends first start middle usedFirst)
    (hsecond : Extends second middle final usedSecond) :
    Extends (first ++ second) start final (usedFirst + usedSecond) where
  records := hsecond.records.trans hfirst.records
  maxBundleNameId := hsecond.maxBundleNameId.trans hfirst.maxBundleNameId
  rebuilds := hsecond.rebuilds.trans hfirst.rebuilds
  room := by
    have := hfirst.room
    have := hsecond.room
    omega
  covers := by
    intro name
    rw [hsecond.covers, hfirst.covers, List.map_append, List.mem_append]
    tauto

theorem mem_overlay_append {state : List DmsBundleInfo × DmsBmStorage}
    {info : DmsBundleInfo} {next : DmsBmStorage}
    (hrecords : next.records = state.2.records) (name : Text) :
    name ∈ overlay (state.1 ++ [info], next) ↔
      name = info.bundleName ∨ name ∈ overlay state := by
  unfold overlay
  rw [written_append, hrecords, Std.TreeMap.mem_insert,
    Std.compare_eq_iff_eq]
  exact or_congr_left eq_comm

def isNew (old : Std.TreeMap Text DmsBundleInfo) (bundleInfo : BundleInfo) :
    Bool :=
  bundleInfo.name ≠ [] && (old[bundleInfo.name]?).isNone

section Collect

variable {rebuild : DmsBmStorage → Option DmsBmStorage}
variable {old : Std.TreeMap Text DmsBundleInfo}
variable {state : List DmsBundleInfo × DmsBmStorage}

theorem Extends.refl_of_mem
    (hmem : bundleInfo.name ≠ [] → bundleInfo.name ∈ overlay state) :
    Extends [bundleInfo] state state 0 where
  records := rfl
  maxBundleNameId := rfl
  rebuilds := rfl
  room := rfl
  covers := by
    intro name
    rw [List.map_singleton, List.mem_singleton]
    constructor
    · exact .inl
    · rintro (hname | ⟨hnonempty, rfl⟩)
      · exact hname
      · exact hmem hnonempty

theorem Collecting.lookup (hcollecting : Collecting old state) {name : Text}
    (hmem : name ∈ old) :
    ∃ info collected, state.2.records[name]? = some info ∧
      (overlay state)[name]? = some collected ∧
      collected.bundleNameId = info.bundleNameId ∧ name ∈ overlay state ∧
      getBundleNameId name state.2 = some info.bundleNameId := by
  obtain ⟨info, collected, hinfo, hcollected, hids⟩ :=
    hcollecting.kept name hmem
  refine ⟨info, collected, hinfo, hcollected, hids, ?_, ?_⟩
  · exact (getElem?_eq_some_iff.mp hcollected).1
  · rw [getBundleNameId_eq hcollecting.stored, hinfo]
    rfl

theorem collectBundleInfo_changed (hcollecting : Collecting old state)
    {info : DmsBundleInfo} (hentry : old[bundleInfo.name]? = some info)
    (hchanged : info.updateTime ≠ bundleInfo.updateTime) :
    ∃ next, collectBundleInfo rebuild old state bundleInfo = some next ∧
      Collecting old next ∧ Extends [bundleInfo] state next 0 := by
  have hmem : bundleInfo.name ∈ old := (getElem?_eq_some_iff.mp hentry).1
  obtain ⟨stored, collected, hstored, hcollected, hids, hoverlay, hknown⟩ :=
    hcollecting.lookup hmem
  obtain ⟨_, hname, hpublic⟩ :=
    hcollecting.stored bundleInfo.name stored hstored
  have hbundleName := bundleName_convert bundleInfo [] stored.bundleNameId
  have hbundleNameId := bundleNameId_convert hname [] stored.bundleNameId
  have hempty : state.2.bundleNameIdTables.isEmpty = false := by
    by_contra htable
    rw [Bool.not_eq_false] at htable
    have hnone := hcollecting.first htable bundleInfo.name
    exact absurd (hcollected.symm.trans hnone) (Option.some_ne_none _)
  have hid : stored.bundleNameId.toNat ≤ state.2.lastId :=
    hids ▸ hcollecting.bounded bundleInfo.name collected hcollected
  refine ⟨(state.1 ++ [convertToDistributedBundleInfo bundleInfo []
    stored.bundleNameId], state.2), ?_, ?_, ?_⟩
  · unfold collectBundleInfo
    rw [hentry]
    dsimp only
    rw [if_neg hchanged, convertBundleInfo_eq hname,
      createBundleNameId_known hknown]
    rfl
  · apply hcollecting.add
    · rw [hbundleName]
      exact hname
    · rw [hbundleName]
      exact hpublic
    · rfl
    · rfl
    · rw [hbundleNameId]
      exact hid
    · exact hempty
    · intro other found hne hfound hsame
      rw [hbundleName] at hne
      rw [hbundleNameId, ← hids] at hsame
      exact hne (hcollecting.unique other bundleInfo.name found collected
        hfound hcollected hsame)
    · intro _ again hagain
      rw [hbundleName, hstored] at hagain
      rw [hbundleNameId, Option.some.inj hagain]
  · refine ⟨rfl, rfl, rfl, rfl, ?_⟩
    intro name
    rw [mem_overlay_append rfl, hbundleName, List.map_singleton,
      List.mem_singleton]
    constructor
    · rintro (rfl | hbefore)
      · exact .inl hoverlay
      · exact .inl hbefore
    · rintro (hbefore | ⟨_, rfl⟩)
      · exact .inr hbefore
      · exact .inl rfl

theorem collectBundleInfo_new (hcollecting : Collecting old state)
    (hname : bundleInfo.name ≠ [])
    (hpublic : publicRecords.isPrefixOf bundleInfo.name = false)
    (hentry : old[bundleInfo.name]? = none) (hroom : 0 < state.2.room) :
    ∃ next, collectBundleInfo rebuild old state bundleInfo = some next ∧
      Collecting old next ∧ Extends [bundleInfo] state next 1 := by
  obtain ⟨bundleNameId, hcreate, hid⟩ :=
    createBundleNameId_room rebuild bundleInfo.name hroom
  have hbundleName := bundleName_convert bundleInfo [] bundleNameId
  have hbundleNameId := bundleNameId_convert hname [] bundleNameId
  refine ⟨(state.1 ++ [convertToDistributedBundleInfo bundleInfo []
    bundleNameId], addBundleNameId bundleNameId bundleInfo.name state.2),
    ?_, ?_, ?_⟩
  · unfold collectBundleInfo
    rw [hentry]
    dsimp only
    rw [convertBundleInfo_eq hname, hcreate]
    dsimp only [Option.map_some]
    rw [hbundleName, if_neg hname]
  · apply hcollecting.add
    · rw [hbundleName]
      exact hname
    · rw [hbundleName]
      exact hpublic
    · rfl
    · rw [lastId_addBundleNameId]
      exact le_max_right _ _
    · rw [hbundleNameId, lastId_addBundleNameId]
      exact le_max_left _ _
    · exact isEmpty_addBundleNameId _ _ _
    · intro other found _ hfound hsame
      rw [hbundleNameId] at hsame
      rcases hid with ⟨hempty, _⟩ | ⟨_, hsucc⟩
      · have hnone := hcollecting.first hempty other
        exact absurd (hfound.symm.trans hnone) (Option.some_ne_none _)
      · have hle := hcollecting.bounded other found hfound
        rw [hsame, hsucc] at hle
        omega
    · intro hmem
      rw [hbundleName, Std.TreeMap.mem_iff_isSome_getElem?, hentry] at hmem
      exact absurd hmem Bool.false_ne_true
  · refine ⟨rfl, rfl, rfl, room_addBundleNameId hroom hid, ?_⟩
    intro name
    have hrecords : (addBundleNameId bundleNameId bundleInfo.name
        state.2).records = state.2.records := rfl
    rw [mem_overlay_append hrecords, hbundleName, List.map_singleton,
      List.mem_singleton]
    constructor
    · rintro (rfl | hbefore)
      · exact .inr ⟨hname, rfl⟩
      · exact .inl hbefore
    · rintro (hbefore | ⟨_, rfl⟩)
      · exact .inr hbefore
      · exact .inl rfl

theorem collectBundleInfo_room (rebuild : DmsBmStorage → Option DmsBmStorage)
    (hcollecting : Collecting old state)
    (hpublic : publicRecords.isPrefixOf bundleInfo.name = false)
    (hroom : (isNew old bundleInfo).toNat ≤ state.2.room) :
    ∃ next, collectBundleInfo rebuild old state bundleInfo = some next ∧
      Collecting old next ∧
      Extends [bundleInfo] state next (isNew old bundleInfo).toNat := by
  unfold isNew at hroom ⊢
  cases hentry : old[bundleInfo.name]? with
  | some info =>
      rw [Option.isNone_some, Bool.and_false]
      by_cases hsame : info.updateTime = bundleInfo.updateTime
      · have hmem : bundleInfo.name ∈ old := (getElem?_eq_some_iff.mp hentry).1
        obtain ⟨_, _, _, _, _, hoverlay, _⟩ := hcollecting.lookup hmem
        refine ⟨state, ?_, hcollecting, .refl_of_mem fun _ => hoverlay⟩
        unfold collectBundleInfo
        rw [hentry]
        exact if_pos hsame
      · exact collectBundleInfo_changed hcollecting hentry hsame
  | none =>
      rw [hentry, Option.isNone_none, Bool.and_true] at hroom
      rw [Option.isNone_none, Bool.and_true]
      by_cases hname : bundleInfo.name = []
      · rw [decide_eq_false (not_not.mpr hname)]
        refine ⟨state, ?_, hcollecting, .refl_of_mem fun h => absurd hname h⟩
        unfold collectBundleInfo convertBundleInfo
        rw [hentry]
        dsimp only
        rw [if_pos hname]
        rfl
      · rw [decide_eq_true hname] at hroom ⊢
        exact collectBundleInfo_new hcollecting hname hpublic hentry hroom

theorem collect_foldlM (rebuild : DmsBmStorage → Option DmsBmStorage)
    (bundleInfos : List BundleInfo)
    (hcollecting : Collecting old state)
    (hpublic : ∀ info ∈ bundleInfos,
      publicRecords.isPrefixOf info.name = false)
    (hroom : bundleInfos.countP (isNew old) ≤ state.2.room) :
    ∃ final, bundleInfos.foldlM (collectBundleInfo rebuild old) state =
        some final ∧
      Collecting old final ∧
      Extends bundleInfos state final (bundleInfos.countP (isNew old)) := by
  induction bundleInfos generalizing state with
  | nil =>
      exact ⟨state, rfl, hcollecting, rfl, rfl, rfl, rfl, by simp⟩
  | cons bundleInfo bundleInfos ih =>
      have hcount : (bundleInfo :: bundleInfos).countP (isNew old) =
          (isNew old bundleInfo).toNat + bundleInfos.countP (isNew old) := by
        rw [List.countP_cons, Nat.add_comm]
        cases isNew old bundleInfo <;> rfl
      rw [hcount] at hroom ⊢
      obtain ⟨next, hnext, hcollectingNext, hextends⟩ :=
        collectBundleInfo_room rebuild hcollecting
          (hpublic bundleInfo List.mem_cons_self)
          (Nat.le_of_add_right_le hroom)
      have hused := hextends.room
      obtain ⟨final, hfinal, hcollectingFinal, hextendsFinal⟩ := ih
        hcollectingNext
        (fun info hinfo => hpublic info (List.mem_cons_of_mem _ hinfo))
        (by omega)
      refine ⟨final, ?_, hcollectingFinal, hextends.trans hextendsFinal⟩
      rw [List.foldlM_cons, hnext]
      exact hfinal

end Collect

end DmsBmStorage

end Dmsfwk
