import Mathlib.Order.Defs.LinearOrder
import Mathlib.Tactic

/-!
# Searching an ordered map

An ordered map is traversed in the order of its keys, so a search over it
finds the entry with the least key among the matching ones, and a loop that
inserts its entries into an empty map copies it.
-/

namespace OrderedMap

variable {κ α : Type*} [Ord κ]

def firstMatch (map : Std.TreeMap κ α) (test : α → Bool) : Option (κ × α) :=
  map.toList.find? fun entry => test entry.2

variable [Std.TransOrd κ] [Std.LawfulEqOrd κ]
variable {map : Std.TreeMap κ α} {test : α → Bool}

theorem getElem?_insert_eq [DecidableEq κ] (key found : κ) (value : α) :
    (map.insert key value)[found]? =
      if key = found then some value else map[found]? := by
  rw [Std.TreeMap.getElem?_insert]
  simp only [Std.compare_eq_iff_eq]

theorem getElem?_insertIfNew [DecidableEq κ] (key found : κ) (value : α) :
    (map.insertIfNew key value)[found]? =
      if key = found ∧ map[key]? = none then some value else map[found]? := by
  rw [Std.TreeMap.getElem?_insertIfNew]
  simp only [Std.compare_eq_iff_eq, Std.TreeMap.mem_iff_isSome_getElem?,
    Option.not_isSome_iff_eq_none]

theorem getElem?_insertIfNew_eq [DecidableEq κ] {key : κ}
    (hnew : map[key]? = none) (found : κ) (value : α) :
    (map.insertIfNew key value)[found]? =
      if key = found then some value else map[found]? := by
  rw [getElem?_insertIfNew]
  simp only [hnew, and_true]

theorem getElem?_erase_eq [DecidableEq κ] (key found : κ) :
    (map.erase key)[found]? = if key = found then none else map[found]? := by
  rw [Std.TreeMap.getElem?_erase]
  simp only [Std.compare_eq_iff_eq]

theorem getElem?_foldl_erase [DecidableEq κ] (keys : List κ) (found : κ) :
    (keys.foldl (fun current key => current.erase key) map)[found]? =
      if found ∈ keys then none else map[found]? := by
  induction keys generalizing map with
  | nil => simp
  | cons key keys ih =>
      rw [List.foldl_cons, ih, getElem?_erase_eq]
      by_cases hkey : key = found
      · simp [hkey]
      · simp [hkey, Ne.symm hkey]

theorem mem_keys_filter [DecidableEq α] (value : α) (key : κ) :
    key ∈ (map.toList.filter (·.2 = value)).map (·.1) ↔
      map[key]? = some value := by
  rw [← Std.TreeMap.mem_toList_iff_getElem?_eq_some, List.mem_map]
  constructor
  · rintro ⟨entry, hentry, rfl⟩
    obtain ⟨hmem, hvalue⟩ := List.mem_filter.mp hentry
    rw [decide_eq_true_eq] at hvalue
    rw [← hvalue]
    exact hmem
  · intro hmem
    exact ⟨(key, value), List.mem_filter.mpr ⟨hmem, by simp⟩, rfl⟩

theorem firstMatch_eq_none :
    firstMatch map test = none ↔
      ∀ (key : κ) (value : α), map[key]? = some value → test value = false := by
  rw [firstMatch, List.find?_eq_none]
  constructor
  · intro hnone key value hvalue
    have hmem : (key, value) ∈ map.toList :=
      Std.TreeMap.mem_toList_iff_getElem?_eq_some.mpr hvalue
    simpa using hnone (key, value) hmem
  · intro hall entry hentry
    have hvalue : map[entry.1]? = some entry.2 :=
      Std.TreeMap.mem_toList_iff_getElem?_eq_some.mp hentry
    simp [hall entry.1 entry.2 hvalue]

/-- What a successful search found is an entry of the map that satisfies the
test, and no smaller key has one. -/
theorem firstMatch_spec {key : κ} {value : α}
    (hfirst : firstMatch map test = some (key, value)) :
    map[key]? = some value ∧ test value = true ∧
      ∀ (other : κ) (found : α), map[other]? = some found →
        test found = true →
        (compare key other).isLE := by
  rw [firstMatch, List.find?_eq_some_iff_append] at hfirst
  obtain ⟨htest, before, after, hlist, hbefore⟩ := hfirst
  have hmem : (key, value) ∈ map.toList := by
    rw [hlist]
    simp
  refine ⟨Std.TreeMap.mem_toList_iff_getElem?_eq_some.mp hmem, htest, ?_⟩
  intro other found hfound hother
  have hin : (other, found) ∈ map.toList :=
    Std.TreeMap.mem_toList_iff_getElem?_eq_some.mpr hfound
  have hordered := Std.TreeMap.ordered_keys_toList (t := map)
  rw [hlist] at hin hordered
  rw [List.pairwise_append] at hordered
  obtain ⟨-, htail, -⟩ := hordered
  rw [List.pairwise_cons] at htail
  rw [List.mem_append, List.mem_cons] at hin
  rcases hin with hin | hin | hin
  · have hfails := hbefore (other, found) hin
    simp [hother] at hfails
  · cases hin
    rw [Std.compare_self]
    rfl
  · rw [htail.1 (other, found) hin]
    rfl

theorem firstMatch_eq_some_iff {key : κ} {value : α} :
    firstMatch map test = some (key, value) ↔
      map[key]? = some value ∧ test value = true ∧
        ∀ (other : κ) (found : α), map[other]? = some found →
          test found = true → (compare key other).isLE := by
  refine ⟨firstMatch_spec, ?_⟩
  rintro ⟨hvalue, htest, hleast⟩
  cases hfirst : firstMatch map test with
  | none =>
      rw [firstMatch_eq_none.mp hfirst key value hvalue] at htest
      cases htest
  | some entry =>
      obtain ⟨other, found⟩ := entry
      obtain ⟨hfound, hother, hmin⟩ := firstMatch_spec hfirst
      have hkey : key = other :=
        Std.LawfulEqOrd.eq_of_compare (Std.OrientedCmp.isLE_antisymm
          (hleast other found hfound hother) (hmin key value hvalue htest))
      subst hkey
      rw [hvalue] at hfound
      rw [Option.some.inj hfound]

def count (map : Std.TreeMap κ α) (test : α → Bool) : ℕ :=
  map.toList.countP fun entry => test entry.2

theorem nodup_toList (map : Std.TreeMap κ α) : map.toList.Nodup := by
  refine List.Pairwise.imp ?_ (Std.TreeMap.distinct_keys_toList (t := map))
  rintro entry other hkeys rfl
  exact hkeys Std.compare_self

theorem toList_perm_erase [DecidableEq κ] {key : κ} {value : α}
    (hvalue : map[key]? = some value) :
    map.toList.Perm ((key, value) :: (map.erase key).toList) := by
  have hnotMem : (key, value) ∉ (map.erase key).toList := by
    rw [Std.TreeMap.mem_toList_iff_getElem?_eq_some, getElem?_erase_eq]
    simp
  rw [List.perm_ext_iff_of_nodup (nodup_toList map)
    (List.nodup_cons.mpr ⟨hnotMem, nodup_toList _⟩)]
  rintro ⟨other, found⟩
  rw [List.mem_cons, Std.TreeMap.mem_toList_iff_getElem?_eq_some,
    Std.TreeMap.mem_toList_iff_getElem?_eq_some, getElem?_erase_eq]
  by_cases hkey : key = other
  · subst hkey
    simp [hvalue, eq_comm]
  · simp [hkey, Ne.symm hkey]

theorem count_erase [DecidableEq κ] {key : κ} {value : α}
    (hvalue : map[key]? = some value) :
    count map test =
      count (map.erase key) test + if test value then 1 else 0 := by
  unfold count
  rw [(toList_perm_erase hvalue).countP_eq, List.countP_cons]

theorem count_congr {other : Std.TreeMap κ α}
    (hsame : ∀ key : κ, map[key]? = other[key]?) :
    count map test = count other test := by
  have hperm : map.toList.Perm other.toList := by
    rw [List.perm_ext_iff_of_nodup (nodup_toList _) (nodup_toList _)]
    rintro ⟨key, value⟩
    rw [Std.TreeMap.mem_toList_iff_getElem?_eq_some,
      Std.TreeMap.mem_toList_iff_getElem?_eq_some, hsame]
  exact hperm.countP_eq _

theorem count_insertIfNew [DecidableEq κ] {key : κ} {value : α}
    (hnew : map[key]? = none) :
    count (map.insertIfNew key value) test =
      count map test + if test value then 1 else 0 := by
  have hvalue : (map.insertIfNew key value)[key]? = some value := by
    rw [getElem?_insertIfNew_eq hnew, if_pos rfl]
  rw [count_erase hvalue]
  congr 1
  -- erasing the new entry again leaves the entries there were
  apply count_congr
  intro other
  rw [getElem?_erase_eq, getElem?_insertIfNew_eq hnew]
  split_ifs with hkey
  · rw [← hkey, hnew]
  · rfl

theorem count_insert_new [DecidableEq κ] {key : κ} {value : α}
    (hnew : map[key]? = none) :
    count (map.insert key value) test =
      count map test + if test value then 1 else 0 := by
  rw [← count_insertIfNew hnew]
  apply count_congr
  intro other
  rw [getElem?_insert_eq, getElem?_insertIfNew_eq hnew]

/-- What replacing a value does to the number of matches. -/
theorem count_insert_add [DecidableEq κ] {key : κ} {found : α}
    (hfound : map[key]? = some found) (value : α) :
    count (map.insert key value) test + (if test found then 1 else 0) =
      count map test + if test value then 1 else 0 := by
  have hvalue : (map.insert key value)[key]? = some value := by
    rw [getElem?_insert_eq, if_pos rfl]
  have hrest : count ((map.insert key value).erase key) test =
      count (map.erase key) test := by
    apply count_congr
    intro other
    rw [getElem?_erase_eq, getElem?_erase_eq, getElem?_insert_eq]
    split_ifs <;> rfl
  rw [count_erase hvalue, count_erase hfound, hrest]
  omega

theorem count_insert [DecidableEq κ] {key : κ} {value found : α}
    (hfound : map[key]? = some found) (htest : test value = test found) :
    count (map.insert key value) test = count map test := by
  have hadd : count (map.insert key value) test + _ = _ :=
    count_insert_add hfound value
  rw [htest] at hadd
  exact Nat.add_right_cancel hadd

/-! ## Copying a map -/

section Copy

variable {keep : κ × α → Prop} [DecidablePred keep]

theorem getElem?_foldl_insert {entries : List (κ × α)}
    (hdistinct : entries.Pairwise fun first second =>
      ¬ compare first.1 second.1 = .eq)
    (copied : Std.ExtTreeMap κ α) (key : κ) (value : α) :
    (entries.foldl (fun copied entry =>
        if keep entry then copied.insert entry.1 entry.2 else copied)
        copied)[key]? = some value ↔
      ((key, value) ∈ entries ∧ keep (key, value)) ∨
      ((∀ entry ∈ entries, keep entry → entry.1 ≠ key) ∧
        copied[key]? = some value) := by
  induction entries generalizing copied with
  | nil => simp
  | cons entry entries ih =>
      obtain ⟨hhead, htail⟩ := List.pairwise_cons.mp hdistinct
      rw [List.foldl_cons, ih htail]
      by_cases hkeep : keep entry
      · rw [if_pos hkeep, Std.ExtTreeMap.getElem?_insert]
        by_cases hkey : entry.1 = key
        · subst hkey
          have hlast : ∀ other ∈ entries, keep other → other.1 ≠ entry.1 := by
            intro other hmem _ heq
            exact hhead other hmem (by rw [heq]; exact Std.ReflOrd.compare_self)
          have hnotMem : (entry.1, value) ∉ entries := fun hmem =>
            hhead _ hmem Std.ReflOrd.compare_self
          constructor
          · rintro (⟨hmem, _⟩ | ⟨_, hvalue⟩)
            · exact absurd hmem hnotMem
            · rw [if_pos Std.ReflOrd.compare_self] at hvalue
              cases hvalue
              exact .inl ⟨List.mem_cons_self, hkeep⟩
          · rintro (⟨hmem, _⟩ | ⟨hnone, _⟩)
            · rcases List.mem_cons.mp hmem with heq | hmem
              · refine .inr ⟨hlast, ?_⟩
                rw [if_pos Std.ReflOrd.compare_self, ← heq]
              · exact absurd hmem hnotMem
            · exact absurd rfl (hnone entry List.mem_cons_self hkeep)
        · have hne : ¬ compare entry.1 key = .eq :=
            fun heq => hkey (Std.LawfulEqOrd.eq_of_compare heq)
          have hother : (key, value) ≠ entry := fun heq => hkey (by rw [← heq])
          rw [if_neg hne]
          simp [hother, hkey]
      · rw [if_neg hkeep]
        have hother : ∀ (hkept : keep (key, value)), (key, value) ≠ entry :=
          fun hkept heq => hkeep (heq ▸ hkept)
        simp only [List.mem_cons, forall_eq_or_imp, hkeep, false_imp_iff,
          true_and]
        constructor
        · rintro (⟨hmem, hkept⟩ | hrest)
          · exact .inl ⟨.inr hmem, hkept⟩
          · exact .inr hrest
        · rintro (⟨heq | hmem, hkept⟩ | hrest)
          · exact absurd heq (hother hkept)
          · exact .inl ⟨hmem, hkept⟩
          · exact .inr hrest

variable {map : Std.ExtTreeMap κ α}

theorem getElem?_copy (key : κ) (value : α) :
    (map.toList.foldl (fun copied entry =>
        if keep entry then copied.insert entry.1 entry.2 else copied)
        (∅ : Std.ExtTreeMap κ α))[key]? = some value ↔
      map[key]? = some value ∧ keep (key, value) := by
  rw [getElem?_foldl_insert Std.ExtTreeMap.distinct_keys_toList,
    Std.ExtTreeMap.mem_toList_iff_getElem?_eq_some]
  simp

/-- Copying the entries that are kept gives the same map when all are kept. -/
theorem copy_eq_iff (map : Std.ExtTreeMap κ α) (keep : κ × α → Prop)
    [DecidablePred keep] :
    map.toList.foldl (fun copied entry =>
        if keep entry then copied.insert entry.1 entry.2 else copied)
        (∅ : Std.ExtTreeMap κ α) = map ↔
      ∀ entry ∈ map.toList, keep entry := by
  constructor
  · intro heq entry hentry
    rw [Std.ExtTreeMap.mem_toList_iff_getElem?_eq_some, ← heq,
      getElem?_copy] at hentry
    exact hentry.2
  · intro hkeep
    apply Std.ExtTreeMap.ext_getElem?
    intro key
    apply Option.ext
    intro value
    rw [getElem?_copy]
    constructor
    · exact And.left
    · intro hvalue
      exact ⟨hvalue, hkeep (key, value)
        (Std.ExtTreeMap.mem_toList_iff_getElem?_eq_some.mpr hvalue)⟩

end Copy
end OrderedMap
