import Dmsfwk.ContinueBroadcast

/-!
# What a broadcast names

The four bytes of a broadcast always arrive as they were sent.  But the sender
numbers the abilities of a bundle and the receiver numbers their continue types,
so what the receiver finds is an ability of the advertised name only where the
two numberings meet.
-/

namespace Dmsfwk

/-! ## The four bytes -/

theorem bundleNameId_joined (bundleNameId : UInt16) :
    (bundleNameId >>> 8 &&& 0xff).toUInt8.toUInt16 <<< 8 |||
      (bundleNameId &&& 0xff).toUInt8.toUInt16 = bundleNameId := by
  have hlow : bundleNameId.toNat % 256 < 2 ^ 8 := Nat.mod_lt _ (by decide)
  have hhigh : bundleNameId.toNat / 256 < 256 := by
    have hlt := bundleNameId.toNat_lt
    omega
  have hshift : bundleNameId.toNat / 256 * 256 < 65536 := by omega
  have hmask : ∀ n : ℕ, n % 256 &&& 255 = n % 256 := by
    intro n
    rw [Nat.and_two_pow_sub_one_eq_mod _ 8, Nat.mod_mod]
  apply UInt16.toNat_inj.mp
  calc _ = (bundleNameId.toNat >>> 8 % 256 &&& 255) <<< 8 % 65536 |||
        bundleNameId.toNat % 256 &&& 255 := by simp
    _ = bundleNameId.toNat / 256 * 256 ||| bundleNameId.toNat % 256 := by
        rw [hmask, hmask, Nat.shiftRight_eq_div_pow, Nat.shiftLeft_eq,
          Nat.mod_eq_of_lt hhigh, Nat.mod_eq_of_lt hshift]
    _ = bundleNameId.toNat / 256 * 256 + bundleNameId.toNat % 256 := by
        rw [← Nat.shiftLeft_eq _ 8, Nat.shiftLeft_add_eq_or_of_lt hlow]
    _ = bundleNameId.toNat := Nat.div_add_mod' _ _

theorem payloadType_softbusEvent (bundleNameId : UInt16)
    (continueTypeId : UInt8) (type : BroadcastType) :
    payloadType (softbusEvent bundleNameId continueTypeId type.code) =
      some type.code := by
  cases type <;> rfl

def BroadcastType.state : BroadcastType → ContinueState
  | .appear => .active
  | .disappear => .inactive

theorem notifyDataRecv_softbusEvent (bundleNameId : UInt16)
    (continueTypeId : UInt8) (type : BroadcastType) :
    notifyDataRecv {} (softbusEvent bundleNameId continueTypeId type.code) =
      some {
        bundleNameId := bundleNameId
        continueTypeId := continueTypeId
        state := type.state } := by
  have htype := payloadType_softbusEvent bundleNameId continueTypeId type
  have hmask : continueTypeId &&& 0xff = continueTypeId := UInt8.and_neg_one
  unfold notifyDataRecv
  rw [htype]
  simp only [Bool.not_true, Bool.false_eq_true, if_false, softbusEvent,
    bundleNameId_joined, hmask]
  cases type <;> rfl

/-! ## The two numberings -/

def typesBefore (abilities : List AbilityInfo) (index : ℕ) : ℕ :=
  ((abilities.take index).map fun ability => ability.continueType.length).sum

def NamesAt (abilities : List AbilityInfo) (position : ℕ) (abilityName : Text) :
    Prop :=
  ∃ index ability, abilities[index]? = some ability ∧
    ability.name = abilityName ∧ typesBefore abilities index ≤ position ∧
    position < typesBefore abilities index + ability.continueType.length

/-- The number which the sender gives the ability, in eight bits. -/
def senderNumber (abilities : List AbilityInfo) (abilityName : Text) : ℕ :=
  abilities.findIdx (fun ability => ability.name = abilityName) % 256

theorem namesAt_senderNumber_of_single {abilities : List AbilityInfo}
    {abilityName : Text}
    (hsingle : ∀ ability ∈ abilities, ability.continueType.length = 1)
    (hlength : abilities.length ≤ 256)
    (hability : ∃ ability ∈ abilities, ability.name = abilityName) :
    NamesAt abilities (senderNumber abilities abilityName) abilityName := by
  have hbefore : ∀ index ≤ abilities.length,
      typesBefore abilities index = index := by
    intro index hindex
    have hones : (abilities.take index).map
        (fun ability => ability.continueType.length) =
        List.replicate index 1 := by
      rw [List.eq_replicate_iff, List.length_map, List.length_take,
        min_eq_left hindex]
      refine ⟨rfl, ?_⟩
      intro length hmem
      obtain ⟨ability, htake, rfl⟩ := List.mem_map.mp hmem
      exact hsingle ability (List.mem_of_mem_take htake)
    rw [typesBefore, hones, List.sum_replicate, smul_eq_mul, mul_one]
  have hindex : abilities.findIdx
      (fun ability => decide (ability.name = abilityName)) <
      abilities.length := by
    rw [List.findIdx_lt_length]
    simpa using hability
  have hname := List.findIdx_getElem (w := hindex)
  rw [decide_eq_true_eq] at hname
  unfold senderNumber
  rw [Nat.mod_eq_of_lt (lt_of_lt_of_le hindex hlength)]
  refine ⟨_, _, List.getElem?_eq_getElem hindex, hname, ?_, ?_⟩
  · exact le_of_eq (hbefore _ (le_of_lt hindex))
  · rw [hbefore _ (le_of_lt hindex), hsingle _ (List.getElem_mem hindex)]
    exact Nat.lt_succ_self _

theorem findContinueTypeId_convertAbilities (abilityName : Text)
    (abilities : List AbilityInfo) (pos first : UInt8)
    (hfound : findContinueTypeId abilityName pos
      (convertAbilities first abilities) ≠ maxContinueTypeId) :
    findContinueTypeId abilityName pos (convertAbilities first abilities) =
      pos + (abilities.findIdx fun ability =>
        ability.name = abilityName).toUInt8 := by
  induction abilities generalizing pos first with
  | nil => exact absurd rfl hfound
  | cons ability abilities ih =>
      by_cases hname : ability.name = abilityName
      · simp [convertAbilities, findContinueTypeId, List.findIdx_cons, hname]
      · simp only [convertAbilities, findContinueTypeId, if_neg hname]
          at hfound ⊢
        rw [ih _ _ hfound, List.findIdx_cons]
        simp only [hname, decide_false, cond_false]
        change _ = pos + UInt8.ofNat _
        rw [UInt8.ofNat_add, UInt8.add_assoc, UInt8.add_comm 1]
        rfl

theorem namesAt_cons {ability : AbilityInfo} {abilities : List AbilityInfo}
    {position : ℕ} {abilityName : Text} :
    NamesAt (ability :: abilities) position abilityName ↔
      (position < ability.continueType.length ∧ ability.name = abilityName) ∨
      (ability.continueType.length ≤ position ∧
        NamesAt abilities (position - ability.continueType.length)
          abilityName) := by
  have hbefore : ∀ index, typesBefore (ability :: abilities) (index + 1) =
      ability.continueType.length + typesBefore abilities index := by
    intro index
    simp [typesBefore]
  constructor
  · rintro ⟨index, found, hfound, hname, hle, hlt⟩
    cases index with
    | zero =>
        cases hfound
        left
        simpa [typesBefore] using And.intro hlt hname
    | succ index =>
        rw [hbefore] at hle hlt
        right
        refine ⟨by omega, index, found, hfound, hname, ?_, ?_⟩ <;> omega
  · rintro (⟨hlt, hname⟩ | ⟨hle, index, found, hfound, hname, hlow, hhigh⟩)
    · refine ⟨0, ability, rfl, hname, ?_, ?_⟩
      · exact Nat.zero_le _
      · simpa [typesBefore] using hlt
    · refine ⟨index + 1, found, hfound, hname, ?_, ?_⟩ <;>
        rw [hbefore] <;> omega

/-- The nested loops find an ability of the given name just when the continue
type at the position is one of such an ability. -/
theorem exists_continueTypes_iff (abilities : List AbilityInfo) (first : UInt8)
    (position : ℕ) (abilityName : Text) :
    (∃ found, (continueTypes (convertAbilities first abilities))[position]? =
        some found ∧ found.2.abilityName = abilityName) ↔
      NamesAt abilities position abilityName := by
  induction abilities generalizing first position with
  | nil => simp [convertAbilities, continueTypes, NamesAt]
  | cons ability abilities ih =>
      rw [namesAt_cons, ← ih (first + ability.continueType.length.toUInt8)]
      simp only [convertAbilities, continueTypes, List.flatMap_cons,
        List.getElem?_append, List.length_map]
      by_cases hlt : position < ability.continueType.length
      · simp [hlt]
      · simp [hlt, not_lt.mp hlt]

theorem continueTypes_own {abilities : List DmsAbilityInfo} {position : ℕ}
    {found : Text × DmsAbilityInfo}
    (hfound : (continueTypes abilities)[position]? = some found) :
    found.2 ∈ abilities ∧ found.1 ∈ found.2.continueType := by
  have hmem := List.mem_of_getElem? hfound
  obtain ⟨ability, hability, hmap⟩ := List.mem_flatMap.mp hmem
  obtain ⟨continueType, htype, rfl⟩ := List.mem_map.mp hmap
  exact ⟨hability, htype⟩

/-! ## Decoding -/

/-- Both lookups find an ability of the advertised name and one of its own
continue types. -/
structure Recovers (info : DmsBundleInfo) (abilityName : Text)
    (continueTypeId : UInt8) : Prop where
  ability : (findContinueType info continueTypeId).2.abilityName = abilityName
  ownType : (findContinueType info continueTypeId).1 ∈
    (findContinueType info continueTypeId).2.continueType
  stored : ∃ ability ∈ info.dmsAbilityInfos,
    ability.abilityName = abilityName ∧
      info.findContinueType continueTypeId ∈ ability.continueType

theorem recovers_iff {info : DmsBundleInfo} {abilityName : Text}
    {continueTypeId : UInt8} (hname : abilityName ≠ []) :
    Recovers info abilityName continueTypeId ↔
      ∃ found, (continueTypes info.dmsAbilityInfos)[continueTypeId.toNat]? =
        some found ∧ found.2.abilityName = abilityName := by
  constructor
  · intro hrecovers
    have hability := hrecovers.ability
    unfold findContinueType at hability
    cases hfound : (continueTypes info.dmsAbilityInfos)[
        continueTypeId.toNat]? with
    | none =>
        rw [hfound] at hability
        exact absurd hability.symm hname
    | some found =>
        rw [hfound] at hability
        exact ⟨found, rfl, hability⟩
  · rintro ⟨found, hfound, hability⟩
    have hown := continueTypes_own hfound
    constructor
    · simpa [findContinueType, hfound] using hability
    · simpa [findContinueType, hfound] using hown.2
    · refine ⟨found.2, hown.1, hability, ?_⟩
      simpa [DmsBundleInfo.findContinueType, hfound] using hown.2

/-- What is broadcast for the mission is received with the same type and
numbers, and the record which the receiver holds names the advertised ability. -/
def DecodesAdvertised (localUdid : Text) (entries : KvEntries) (udid : Text)
    (peerEntries : KvEntries) (bundleName abilityName : Text)
    (type : BroadcastType) : Prop :=
  ∀ bundleNameId continueTypeId,
    queryBroadcastInfo localUdid entries bundleName abilityName =
        .ok (bundleNameId, continueTypeId) →
    payloadType (softbusEvent bundleNameId continueTypeId type.code) =
        some type.code ∧
    notifyDataRecv {} (softbusEvent bundleNameId continueTypeId type.code) =
        some {
          bundleNameId := bundleNameId
          continueTypeId := continueTypeId
          state := type.state } ∧
    ∃ record, getDistributedBundleInfo udid peerEntries bundleNameId =
        some record ∧
      Recovers record abilityName continueTypeId

def Stored (localUdid : Text) (entries : KvEntries) (info : DmsBundleInfo) :
    Prop :=
  ∀ entry ∈ entries, localUdid <:+: entry.1 →
    entry.2.bundleName = info.bundleName → entry.2 = info

section Query

variable {localUdid : Text} {entries : KvEntries} {bundleName abilityName : Text}
  {info : DmsBundleInfo}

section Stored

variable (hstored : Stored localUdid entries info)
  (hbundle : info.bundleName = bundleName)

include hstored hbundle

theorem getBundleNameId_stored {bundleNameId : UInt16}
    (hquery : getBundleNameId localUdid entries bundleName =
      some bundleNameId) :
    bundleNameId = info.bundleNameId := by
  unfold getBundleNameId at hquery
  split_ifs at hquery with hudid
  split at hquery
  · cases hquery
  · next found hlookup =>
      split_ifs at hquery with hname
      cases hquery
      obtain ⟨before, after, rfl, _⟩ := List.lookup_eq_some_iff.mp hlookup
      have hmem : (deviceAndNameToKey localUdid bundleName, found) ∈
          before ++ (deviceAndNameToKey localUdid bundleName, found) :: after :=
        List.mem_append_right _ List.mem_cons_self
      have hprefix : localUdid <:+: deviceAndNameToKey localUdid bundleName :=
        (List.prefix_append _ _).isInfix
      have hsame := hstored _ hmem hprefix (hname.trans hbundle.symm)
      exact congrArg DmsBundleInfo.bundleNameId hsame

theorem getContinueTypeId_stored {continueTypeId : UInt8}
    (hquery : getContinueTypeId localUdid entries bundleName abilityName =
      some continueTypeId) :
    continueTypeId = findContinueTypeId abilityName 0 info.dmsAbilityInfos ∧
      continueTypeId ≠ maxContinueTypeId := by
  unfold getContinueTypeId at hquery
  split_ifs at hquery with hudid
  obtain ⟨entry, hmem, hentry⟩ := List.exists_of_findSome?_eq_some hquery
  dsimp only at hentry
  split_ifs at hentry with hmatch hmax
  cases hentry
  have hsame := hstored entry hmem hmatch.1 (hmatch.2.trans hbundle.symm)
  rw [hsame] at hmax ⊢
  exact ⟨rfl, hmax⟩

theorem queryBroadcastInfo_stored {bundleNameId : UInt16} {continueTypeId : UInt8}
    (hquery : queryBroadcastInfo localUdid entries bundleName abilityName =
      .ok (bundleNameId, continueTypeId)) :
    bundleName ≠ [] ∧ abilityName ≠ [] ∧ bundleNameId = info.bundleNameId ∧
      continueTypeId = findContinueTypeId abilityName 0 info.dmsAbilityInfos ∧
      continueTypeId ≠ maxContinueTypeId := by
  unfold queryBroadcastInfo at hquery
  split_ifs at hquery with hempty
  obtain ⟨hname, hability⟩ := not_or.mp hempty
  split at hquery
  · cases hquery
  · next foundId hid =>
      split at hquery
      · cases hquery
      · next foundType htype =>
          cases hquery
          exact ⟨hname, hability, getBundleNameId_stored hstored hbundle hid,
            getContinueTypeId_stored hstored hbundle htype⟩

end Stored

end Query

/-- A broadcast is decoded to what was advertised just when the continue type at
the number of the advertised ability is one of an ability of that name. -/
theorem decodesAdvertised_iff {localUdid udid : Text}
    {entries peerEntries : KvEntries} {bundleInfo : BundleInfo}
    {developerId : Text} {bundleNameId : UInt16} {abilityName : Text}
    (type : BroadcastType)
    (hstored : Stored localUdid entries
      (convertToDistributedBundleInfo bundleInfo developerId bundleNameId))
    (hpeer : getDistributedBundleInfo udid peerEntries bundleNameId =
      some (convertToDistributedBundleInfo bundleInfo developerId bundleNameId))
    (hquery : (queryBroadcastInfo localUdid entries bundleInfo.name
      abilityName).isOk) :
    DecodesAdvertised localUdid entries udid peerEntries bundleInfo.name
        abilityName type ↔
      NamesAt bundleInfo.abilityInfos
        (senderNumber bundleInfo.abilityInfos abilityName) abilityName := by
  obtain ⟨⟨foundId, continueTypeId⟩, hok⟩ :
      ∃ answer, queryBroadcastInfo localUdid entries bundleInfo.name
        abilityName = .ok answer := by
    cases hanswer : queryBroadcastInfo localUdid entries bundleInfo.name
        abilityName with
    | error _ => rw [hanswer] at hquery; cases hquery
    | ok answer => exact ⟨answer, rfl⟩
  have hnamed : bundleInfo.name ≠ [] := by
    intro hempty
    rw [queryBroadcastInfo, if_pos (.inl hempty)] at hok
    cases hok
  have hinfo : convertToDistributedBundleInfo bundleInfo developerId
      bundleNameId = _ := if_neg hnamed
  have hbundle : (convertToDistributedBundleInfo bundleInfo developerId
      bundleNameId).bundleName = bundleInfo.name := by rw [hinfo]
  have habilities : (convertToDistributedBundleInfo bundleInfo developerId
      bundleNameId).dmsAbilityInfos =
      convertAbilities 0 bundleInfo.abilityInfos := by rw [hinfo]
  have hid : (convertToDistributedBundleInfo bundleInfo developerId
      bundleNameId).bundleNameId = bundleNameId := by rw [hinfo]
  obtain ⟨_, hability, hfoundId, hnumber, hmax⟩ :=
    queryBroadcastInfo_stored hstored hbundle hok
  rw [hid] at hfoundId
  subst hfoundId
  have hposition : continueTypeId.toNat =
      senderNumber bundleInfo.abilityInfos abilityName := by
    rw [habilities] at hnumber
    rw [hnumber] at hmax
    rw [hnumber, findContinueTypeId_convertAbilities _ _ _ _ hmax]
    simp [senderNumber]
  have hrecovers : Recovers (convertToDistributedBundleInfo bundleInfo
        developerId foundId) abilityName continueTypeId ↔
      NamesAt bundleInfo.abilityInfos
        (senderNumber bundleInfo.abilityInfos abilityName) abilityName := by
    rw [recovers_iff hability, habilities, exists_continueTypes_iff, hposition]
  rw [← hrecovers]
  constructor
  · intro hdecodes
    obtain ⟨_, _, record, hrecord, hfound⟩ := hdecodes foundId continueTypeId hok
    rw [hpeer] at hrecord
    cases hrecord
    exact hfound
  · intro hfound otherId otherType hother
    rw [hok] at hother
    cases hother
    exact ⟨payloadType_softbusEvent _ _ _, notifyDataRecv_softbusEvent _ _ _,
      _, hpeer, hfound⟩

/-! ### A bundle of two abilities -/

def sampleBundle (mainTypes : List Text) : BundleInfo where
  name := "app".toList
  abilityInfos :=
    [{ name := "main".toList, continueType := mainTypes },
      { name := "note".toList, continueType := ["note".toList] }]

def sampleRecord (mainTypes : List Text) : DmsBundleInfo :=
  convertToDistributedBundleInfo (sampleBundle mainTypes) [] 7

def sampleEntries (mainTypes : List Text) : KvEntries :=
  [(deviceAndNameToKey "udid".toList "app".toList, sampleRecord mainTypes)]

theorem stored_sampleEntries (mainTypes : List Text) :
    Stored "udid".toList (sampleEntries mainTypes)
      (sampleRecord mainTypes) := by
  intro entry hmem _ _
  rw [List.mem_singleton.mp hmem]

theorem decodesAdvertised_singleTypes :
    DecodesAdvertised "udid".toList (sampleEntries ["main".toList])
      "udid".toList (sampleEntries ["main".toList]) "app".toList
      "note".toList .appear := by
  have hiff := decodesAdvertised_iff .appear
    (stored_sampleEntries ["main".toList])
    (show getDistributedBundleInfo "udid".toList
      (sampleEntries ["main".toList]) 7 = some _ by decide +kernel)
    (show (queryBroadcastInfo "udid".toList (sampleEntries ["main".toList])
      "app".toList "note".toList).isOk by decide +kernel)
  apply hiff.mpr
  apply namesAt_senderNumber_of_single <;> decide +kernel

/-- With two types of the first ability, the second one is advertised under a
number which names the first. -/
theorem not_decodesAdvertised_twoTypes :
    Stored "udid".toList (sampleEntries ["main".toList, "edit".toList])
        (sampleRecord ["main".toList, "edit".toList]) ∧
      ¬ DecodesAdvertised "udid".toList
        (sampleEntries ["main".toList, "edit".toList]) "udid".toList
        (sampleEntries ["main".toList, "edit".toList]) "app".toList
        "note".toList .appear := by
  refine ⟨stored_sampleEntries _, ?_⟩
  intro hdecodes
  obtain ⟨_, _, record, hrecord, hrecovers⟩ := hdecodes 7 1 (by decide +kernel)
  have hpeer : getDistributedBundleInfo "udid".toList
      (sampleEntries ["main".toList, "edit".toList]) 7 =
      some (sampleRecord ["main".toList, "edit".toList]) := by
    decide +kernel
  rw [hpeer] at hrecord
  cases hrecord
  exact absurd hrecovers.ability (by decide +kernel)

end Dmsfwk
