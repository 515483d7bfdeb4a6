import Mathlib.Data.Char
import Mathlib.Data.List.Lex
import Mathlib.Tactic

/-!
# Ordered maps as lists of entries

An ordered map is the list of its entries in the order of their keys.  Such a
list is put together again by inserting its entries one after the other, and it
is determined by what it answers for each key.
-/

namespace SortedEntries

variable {κ α β : Type*} [LinearOrder κ]

def lookup (key : κ) : List (κ × α) → Option α
  | [] => none
  | (other, value) :: entries =>
      if key = other then some value else lookup key entries

def insert (key : κ) (value : α) : List (κ × α) → List (κ × α)
  | [] => [(key, value)]
  | (other, found) :: entries =>
      if key = other then (key, value) :: entries
      else if key < other then (key, value) :: (other, found) :: entries
      else (other, found) :: insert key value entries

def Sorted (entries : List (κ × α)) : Prop :=
  entries.Pairwise fun first second => first.1 < second.1

instance (entries : List (κ × α)) : Decidable (Sorted entries) := by
  unfold Sorted
  infer_instance

section Lookup

variable {key : κ} {value : α} {entries : List (κ × α)}

@[simp] theorem lookup_nil (key : κ) : lookup key ([] : List (κ × α)) = none :=
  rfl

theorem lookup_cons (key other : κ) (value : α) (entries : List (κ × α)) :
    lookup key ((other, value) :: entries) =
      if key = other then some value else lookup key entries := rfl

theorem lookup_eq_none_iff :
    lookup key entries = none ↔ key ∉ entries.map Prod.fst := by
  induction entries with
  | nil => simp
  | cons entry entries ih =>
      obtain ⟨other, found⟩ := entry
      rw [lookup_cons]
      by_cases hkey : key = other
      · simp [hkey]
      · rw [if_neg hkey, ih]
        simp [hkey]

theorem isSome_lookup : (lookup key entries).isSome ↔
    key ∈ entries.map Prod.fst := by
  rw [Option.isSome_iff_ne_none, ne_eq, lookup_eq_none_iff, not_not]

theorem mem_of_lookup (hlookup : lookup key entries = some value) :
    (key, value) ∈ entries := by
  induction entries with
  | nil => cases hlookup
  | cons entry entries ih =>
      obtain ⟨other, found⟩ := entry
      rw [lookup_cons] at hlookup
      by_cases hkey : key = other
      · rw [if_pos hkey] at hlookup
        cases hlookup
        rw [hkey]
        exact List.mem_cons_self
      · rw [if_neg hkey] at hlookup
        exact List.mem_cons_of_mem _ (ih hlookup)

end Lookup

/-! ## The order of the keys -/

section Order

variable {key : κ} {value : α} {entry : κ × α} {entries : List (κ × α)}

theorem sorted_cons : Sorted (entry :: entries) ↔
    (∀ other ∈ entries, entry.1 < other.1) ∧ Sorted entries :=
  List.pairwise_cons

theorem Sorted.nodup_keys (hsorted : Sorted entries) :
    (entries.map Prod.fst).Nodup := by
  rw [List.nodup_iff_pairwise_ne, List.pairwise_map]
  exact hsorted.imp fun hless => ne_of_lt hless

theorem lookup_of_mem_of_nodup (hnodup : (entries.map Prod.fst).Nodup)
    (hmem : (key, value) ∈ entries) : lookup key entries = some value := by
  induction entries with
  | nil => cases hmem
  | cons entry entries ih =>
      obtain ⟨other, found⟩ := entry
      rw [List.map_cons, List.nodup_cons] at hnodup
      rw [lookup_cons]
      rcases List.mem_cons.mp hmem with heq | hmem
      · cases heq
        rw [if_pos rfl]
      · have hkeys : key ∈ entries.map Prod.fst := List.mem_map_of_mem hmem
        have hkey : key ≠ other := by
          rintro rfl
          exact hnodup.1 hkeys
        rw [if_neg hkey, ih hnodup.2 hmem]

theorem lookup_of_mem (hsorted : Sorted entries) (hmem : (key, value) ∈ entries) :
    lookup key entries = some value :=
  lookup_of_mem_of_nodup hsorted.nodup_keys hmem

end Order

/-! ## Maps with the same keys -/

def SameKeys (entries : List (κ × α)) (others : List (κ × β)) : Prop :=
  ∀ key, (lookup key entries).isSome = (lookup key others).isSome

section SameKeys

variable {entries : List (κ × α)} {others : List (κ × β)}

theorem sameKeys_iff : SameKeys entries others ↔
    ∀ key, key ∈ entries.map Prod.fst ↔ key ∈ others.map Prod.fst := by
  unfold SameKeys
  simp only [← isSome_lookup]
  exact forall_congr' fun key => Bool.eq_iff_iff

/-- Two maps of the same size have the same keys when one has those of the
other. -/
theorem sameKeys_of_subset (hsorted : Sorted entries)
    (hlength : entries.length = others.length)
    (hsubset : ∀ entry ∈ entries, (lookup entry.1 others).isSome) :
    SameKeys entries others := by
  have hkeys : entries.map Prod.fst ⊆ others.map Prod.fst := by
    intro key hkey
    obtain ⟨entry, hentry, rfl⟩ := List.mem_map.mp hkey
    exact isSome_lookup.mp (hsubset entry hentry)
  have hperm := (hsorted.nodup_keys.subperm hkeys).perm_of_length_le
    (by simp [hlength])
  exact sameKeys_iff.mpr fun key => hperm.mem_iff

theorem SameKeys.length_eq (hsame : SameKeys entries others)
    (hsorted : Sorted entries) (hothers : Sorted others) :
    entries.length = others.length := by
  have hperm : (entries.map Prod.fst).Perm (others.map Prod.fst) :=
    (List.perm_ext_iff_of_nodup hsorted.nodup_keys hothers.nodup_keys).mpr
      (sameKeys_iff.mp hsame)
  simpa using hperm.length_eq

end SameKeys

/-! ## Insertion -/

section Insert

variable {key : κ} {value : α} {entries : List (κ × α)}

theorem lookup_insert (key other : κ) (value : α) (entries : List (κ × α)) :
    lookup other (insert key value entries) =
      if other = key then some value else lookup other entries := by
  induction entries with
  | nil => rfl
  | cons entry entries ih =>
      obtain ⟨first, found⟩ := entry
      unfold insert
      by_cases hfirst : key = first
      · subst hfirst
        rw [if_pos rfl, lookup_cons, lookup_cons]
        split_ifs <;> rfl
      rw [if_neg hfirst]
      by_cases hless : key < first
      · rw [if_pos hless, lookup_cons]
      · rw [if_neg hless, lookup_cons, lookup_cons, ih]
        by_cases hother : other = first
        · rw [if_pos hother, if_pos hother, if_neg]
          rintro rfl
          exact hfirst hother
        · rw [if_neg hother, if_neg hother]

theorem lookup_foldl_insert {front added : List (κ × α)}
    (hnodup : (added.map Prod.fst).Nodup) :
    lookup key (added.foldl (fun entries entry => insert entry.1 entry.2 entries)
        front) =
      (lookup key added).or (lookup key front) := by
  induction added generalizing front with
  | nil => rfl
  | cons entry added ih =>
      obtain ⟨other, value⟩ := entry
      rw [List.map_cons, List.nodup_cons] at hnodup
      rw [List.foldl_cons, ih hnodup.2, lookup_insert, lookup_cons]
      by_cases hkey : key = other
      · subst hkey
        rw [lookup_eq_none_iff.mpr hnodup.1, if_pos rfl, if_pos rfl]
        rfl
      · rw [if_neg hkey, if_neg hkey]

theorem mem_insert {entry : κ × α} (hmem : entry ∈ insert key value entries) :
    entry = (key, value) ∨ entry ∈ entries := by
  induction entries with
  | nil => exact .inl (List.mem_singleton.mp hmem)
  | cons other entries ih =>
      obtain ⟨first, found⟩ := other
      unfold insert at hmem
      split_ifs at hmem with hfirst hless
      · exact (List.mem_cons.mp hmem).imp_right (List.mem_cons_of_mem _)
      · exact List.mem_cons.mp hmem
      · rcases List.mem_cons.mp hmem with rfl | hmem
        · exact .inr List.mem_cons_self
        · exact (ih hmem).imp_right (List.mem_cons_of_mem _)

theorem insert_of_gt (hlast : ∀ entry ∈ entries, entry.1 < key) (value : α) :
    insert key value entries = entries ++ [(key, value)] := by
  induction entries with
  | nil => rfl
  | cons entry entries ih =>
      obtain ⟨first, found⟩ := entry
      obtain ⟨hfirst, hrest⟩ := List.forall_mem_cons.mp hlast
      unfold insert
      rw [if_neg (ne_of_gt hfirst), if_neg (lt_asymm hfirst), ih hrest]
      rfl

theorem insert_append_of_sorted {front : List (κ × α)} {entry : κ × α}
    {rest : List (κ × α)} (hsorted : Sorted (front ++ entry :: rest)) :
    insert entry.1 entry.2 front = front ++ [entry] := by
  apply insert_of_gt
  intro other hother
  exact (List.pairwise_append.mp hsorted).2.2 other hother entry
    List.mem_cons_self

theorem foldl_insert {front rest : List (κ × α)}
    (hsorted : Sorted (front ++ rest)) :
    rest.foldl (fun entries entry => insert entry.1 entry.2 entries) front =
      front ++ rest := by
  induction rest generalizing front with
  | nil => simp
  | cons entry rest ih =>
      rw [List.foldl_cons, insert_append_of_sorted hsorted, ih (by simpa using hsorted)]
      simp

end Insert

/-! ## Conversion of the values -/

def convert (step : α → Option β) (entries : List (κ × α)) : List (κ × β) :=
  entries.filterMap fun entry => (step entry.2).map (entry.1, ·)

section Convert

variable {step : α → Option β} {entries : List (κ × α)}

omit [LinearOrder κ] in
theorem convert_cons (key : κ) (value : α) (entries : List (κ × α)) :
    convert step ((key, value) :: entries) =
      match step value with
      | some converted => (key, converted) :: convert step entries
      | none => convert step entries := by
  rw [convert, List.filterMap_cons]
  cases step value <;> rfl

omit [LinearOrder κ] in
theorem mem_convert {entry : κ × β} : entry ∈ convert step entries ↔
    ∃ value, (entry.1, value) ∈ entries ∧ step value = some entry.2 := by
  obtain ⟨key, converted⟩ := entry
  simp only [convert, List.mem_filterMap, Option.map_eq_some_iff, Prod.mk.injEq]
  constructor
  · rintro ⟨⟨_, value⟩, hmem, _, hstep, rfl, rfl⟩
    exact ⟨value, hmem, hstep⟩
  · rintro ⟨value, hmem, hstep⟩
    exact ⟨(key, value), hmem, converted, hstep, rfl, rfl⟩

theorem sorted_convert (hsorted : Sorted entries) (step : α → Option β) :
    Sorted (convert step entries) := by
  refine hsorted.filterMap _ ?_
  rintro ⟨key, value⟩ ⟨other, found⟩ hless entry hentry after hafter
  obtain ⟨_, _, rfl⟩ := Option.map_eq_some_iff.mp hentry
  obtain ⟨_, _, rfl⟩ := Option.map_eq_some_iff.mp hafter
  exact hless

omit [LinearOrder κ] in
theorem length_convert_le (step : α → Option β) (entries : List (κ × α)) :
    (convert step entries).length ≤ entries.length :=
  List.length_filterMap_le _ _

omit [LinearOrder κ] in
/-- The conversion changes nothing just when it keeps every value. -/
theorem convert_eq_self_iff {step : α → Option α} {entries : List (κ × α)} :
    convert step entries = entries ↔
      ∀ entry ∈ entries, step entry.2 = some entry.2 := by
  induction entries with
  | nil => simp [convert]
  | cons entry entries ih =>
      obtain ⟨key, value⟩ := entry
      rw [convert_cons, List.forall_mem_cons]
      cases hstep : step value with
      | none =>
          have hshorter : convert step entries ≠ (key, value) :: entries := by
            intro hsame
            have hlength := length_convert_le step entries
            rw [hsame] at hlength
            exact absurd hlength (Nat.not_succ_le_self _)
          exact ⟨fun hsame => absurd hsame hshorter, fun hand => nomatch hand.1⟩
      | some converted =>
          simp only [List.cons.injEq, Prod.mk.injEq, true_and, Option.some.injEq,
            ih]

/-- The converted values can be inserted one after the other. -/
theorem foldl_insert_convert {front : List (κ × β)} {rest : List (κ × α)}
    (hsorted : Sorted rest)
    (hfront : ∀ other ∈ front, ∀ entry ∈ rest, other.1 < entry.1)
    (step : α → Option β) :
    rest.foldl (fun entries entry =>
        (step entry.2).elim entries fun converted =>
          insert entry.1 converted entries) front =
      front ++ convert step rest := by
  induction rest generalizing front with
  | nil => simp [convert]
  | cons entry rest ih =>
      obtain ⟨key, value⟩ := entry
      obtain ⟨hless, htail⟩ := sorted_cons.mp hsorted
      rw [List.foldl_cons, convert_cons]
      cases hstep : step value with
      | none =>
          exact ih htail fun other hother entry hentry =>
            hfront other hother entry (List.mem_cons_of_mem _ hentry)
      | some converted =>
          have hinsert : insert key converted front =
              front ++ [(key, converted)] :=
            insert_of_gt (fun other hother =>
              hfront other hother _ List.mem_cons_self) converted
          rw [Option.elim_some, hinsert, ih htail]
          · simp
          · intro other hother entry hentry
            rcases List.mem_append.mp hother with hother | hother
            · exact hfront other hother entry (List.mem_cons_of_mem _ hentry)
            · cases List.mem_singleton.mp hother
              exact hless entry hentry

end Convert

end SortedEntries
