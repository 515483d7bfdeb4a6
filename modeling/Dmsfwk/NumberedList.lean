import Mathlib.Data.List.Basic
import Mathlib.Data.List.Nodup
import Mathlib.Data.List.Range
import Mathlib.Tactic

/-!
# Lists that are numbered by position

A producer numbers what it makes, hands a part of it on, and a consumer takes
the elements by their numbers.  The rules below relate the numbers with the
positions in the part which was handed on: an element which is taken next has
the next number exactly when nothing before it was left out.
-/

variable {α : Type*}

def Numbered (number : α → ℕ) (all : List α) : Prop :=
  all.map number = List.range all.length

theorem take_length_add_one {taken handed : List α} {next : α}
    (hhanded : taken <+: handed) (hnext : handed[taken.length]? = some next) :
    handed.take (taken.length + 1) = taken ++ [next] := by
  rw [List.take_add_one, hnext, ← List.prefix_iff_eq_take.mp hhanded]
  rfl

namespace Numbered

variable {number : α → ℕ} {all handed taken : List α}

section Numbered

variable (hnumbered : Numbered number all)

include hnumbered

theorem nodup_map : (all.map number).Nodup := by
  rw [hnumbered]
  exact List.nodup_range

theorem eq_of_number_eq {first second : α} (hfirst : first ∈ all)
    (hsecond : second ∈ all) (hnumber : number first = number second) : first = second :=
  List.inj_on_of_nodup_map hnumbered.nodup_map hfirst hsecond hnumber

theorem number_getElem {position : ℕ} {element : α}
    (hget : all[position]? = some element) :
    number element = position := by
  have hmap : (all.map number)[position]? = some (number element) := by
    rw [List.getElem?_map, hget]
    rfl
  rw [hnumbered] at hmap
  exact (List.getElem?_eq_some_iff.mp hmap).2 ▸ List.getElem_range _

theorem getElem_number {element : α} (hmem : element ∈ all) :
    all[number element]? = some element := by
  obtain ⟨position, hget⟩ := List.getElem?_of_mem hmem
  rw [hnumbered.number_getElem hget]
  exact hget

theorem pairwise_lt (hsub : handed.Sublist all) :
    handed.Pairwise fun first second => number first < number second := by
  have hrange : (all.map number).Pairwise (· < ·) := by
    rw [hnumbered]
    exact List.pairwise_lt_range
  exact (List.pairwise_map.mp hrange).sublist hsub

theorem mem_prefix_iff (htaken : taken <+: all) {element : α}
    (hmem : element ∈ all) :
    element ∈ taken ↔ number element < taken.length := by
  have hget := hnumbered.getElem_number hmem
  obtain ⟨rest, rfl⟩ := htaken
  constructor
  · intro hfirst
    obtain ⟨position, hposition⟩ := List.getElem?_of_mem hfirst
    have hlt := (List.getElem?_eq_some_iff.mp hposition).1
    rw [← List.getElem?_append_left hlt] at hposition
    rwa [hnumbered.number_getElem hposition]
  · intro hlt
    rw [List.getElem?_append_left hlt] at hget
    exact List.mem_of_getElem? hget

end Numbered

section Next

variable (hnumbered : Numbered number all) (hsub : handed.Sublist all)
  {next : α} (hnext : handed[taken.length]? = some next)

include hnumbered hsub

theorem length_le_number (hall : taken <+: all) {element : α}
    (hmem : element ∈ handed) (hnot : element ∉ taken) :
    taken.length ≤ number element :=
  Nat.le_of_not_lt fun hlt => hnot <|
    (hnumbered.mem_prefix_iff hall (hsub.subset hmem)).mpr hlt

include hnext

theorem next_not_mem (hhanded : taken <+: handed) : next ∉ taken := by
  intro hmem
  have hnodup : handed.Nodup :=
    (List.Nodup.of_map _ hnumbered.nodup_map).sublist hsub
  obtain ⟨position, hposition⟩ := List.getElem?_of_mem hmem
  have hlt := (List.getElem?_eq_some_iff.mp hposition).1
  obtain ⟨rest, rfl⟩ := hhanded
  rw [← List.getElem?_append_left hlt] at hposition
  have heq := (List.nodup_iff_getElem?_ne_getElem?.mp hnodup) position
    taken.length hlt (List.getElem?_eq_some_iff.mp hnext).1
  exact heq (hposition.trans hnext.symm)

theorem number_next_le (hhanded : taken <+: handed) {element : α}
    (hmem : element ∈ handed) (hnot : element ∉ taken) :
    number next ≤ number element := by
  have hsorted := hnumbered.pairwise_lt hsub
  obtain ⟨rest, rfl⟩ := hhanded
  rw [List.getElem?_append_right le_rfl, Nat.sub_self] at hnext
  cases rest with
  | nil => cases hnext
  | cons head rest =>
      obtain rfl : head = next := Option.some.inj hnext
      rcases List.mem_append.mp hmem with htaken | hrest
      · exact absurd htaken hnot
      · rcases List.mem_cons.mp hrest with rfl | htail
        · exact le_rfl
        · have hpair := (List.pairwise_append.mp hsorted).2.1
          exact (List.rel_of_pairwise_cons hpair htail).le

/-- The next number is taken next exactly when nothing was left out before. -/
theorem take_prefix_iff (hhanded : taken <+: handed) (hall : taken <+: all) :
    handed.take (taken.length + 1) <+: all ↔ number next = taken.length := by
  have hmem : next ∈ all := hsub.subset (List.mem_of_getElem? hnext)
  rw [take_length_add_one hhanded hnext]
  constructor
  · rintro ⟨rest, rfl⟩
    refine hnumbered.number_getElem ?_
    simp
  · intro hnumber
    have hget := hnumbered.getElem_number hmem
    obtain ⟨rest, rfl⟩ := hall
    rw [hnumber, List.getElem?_append_right le_rfl, Nat.sub_self] at hget
    cases rest with
    | nil => cases hget
    | cons head rest =>
        obtain rfl : head = next := Option.some.inj hget
        exact ⟨rest, by simp⟩

end Next

end Numbered
