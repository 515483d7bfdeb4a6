import Dmsfwk.EventRun
import Mathlib.Data.List.ReduceOption

/-!
# Ids from disjoint ranges

Every key has a range of ids and a counter in it.  Taking an id for a key
returns the counter and moves it on, until the range is used up; ids are never
given back.  So the ids taken in a run are pairwise different over all keys,
and taking fails exactly when as many ids were asked for as the range has.
-/

namespace IdSupply

variable {κ : Type*} [DecidableEq κ]

/-- The ids of a key begin at `first` and stay below `limit`. -/
structure Ranges (κ : Type*) where
  first : κ → ℤ
  limit : κ → ℤ
  first_le : ∀ key, first key ≤ limit key
  disjoint : ∀ key other id, first key ≤ id → id < limit key →
    first other ≤ id → id < limit other → key = other

namespace Ranges

variable (ranges : Ranges κ)

def take (next : κ → ℤ) (key : κ) : Option ℤ × (κ → ℤ) :=
  if next key < ranges.limit key then
    (some (next key), Function.update next key (next key + 1))
  else (none, next)

def Within (next : κ → ℤ) : Prop :=
  ∀ key, ranges.first key ≤ next key ∧ next key ≤ ranges.limit key

variable {ranges} {next : κ → ℤ}

omit [DecidableEq κ] in
theorem within_first : ranges.Within ranges.first :=
  fun key => ⟨le_rfl, ranges.first_le key⟩

theorem take_of_lt {key : κ} (hroom : next key < ranges.limit key) :
    ranges.take next key =
      (some (next key), Function.update next key (next key + 1)) :=
  if_pos hroom

theorem take_of_le {key : κ} (hfull : ranges.limit key ≤ next key) :
    ranges.take next key = (none, next) :=
  if_neg (not_lt.mpr hfull)

theorem take_eq_none_iff {key : κ} :
    (ranges.take next key).1 = none ↔ ranges.limit key ≤ next key := by
  rcases lt_or_ge (next key) (ranges.limit key) with hroom | hfull
  · rw [take_of_lt hroom]
    exact iff_of_false nofun (not_le.mpr hroom)
  · rw [take_of_le hfull]
    exact iff_of_true rfl hfull

theorem next_take (key other : κ) :
    (ranges.take next key).2 other =
      if key = other ∧ next key < ranges.limit key then next key + 1
      else next other := by
  rcases lt_or_ge (next key) (ranges.limit key) with hroom | hfull
  · rw [take_of_lt hroom]
    simp [Function.update_apply, hroom, eq_comm]
  · rw [take_of_le hfull, if_neg fun h => not_lt.mpr hfull h.2]

theorem le_next_take (ranges : Ranges κ) (next : κ → ℤ) (key other : κ) :
    next other ≤ (ranges.take next key).2 other := by
  rw [next_take]
  split_ifs with htaken
  · rw [htaken.1]
    omega
  · exact le_rfl

theorem Within.take (hwithin : ranges.Within next) (key : κ) :
    ranges.Within (ranges.take next key).2 := by
  intro other
  have hother := hwithin other
  rw [next_take]
  split_ifs with htaken
  · obtain ⟨rfl, hroom⟩ := htaken
    omega
  · exact hother

/-- The counter of a key has moved on by the ids asked for, up to the limit. -/
theorem next_run (hwithin : ranges.Within next) (keys : List κ) (key : κ) :
    (EventRun.run ranges.take next keys).2 key =
      min (next key + keys.count key) (ranges.limit key) := by
  induction keys generalizing next with
  | nil =>
      have hkey := hwithin key
      simp only [EventRun.run_nil, List.count_nil]
      omega
  | cons taken keys ih =>
      have hkey := hwithin key
      rw [EventRun.run_cons, ih (hwithin.take taken), next_take]
      by_cases hsame : taken = key
      · subst hsame
        rw [List.count_cons_self, Nat.cast_add_one]
        split_ifs with htaken
        · rw [add_assoc, add_comm (1 : ℤ)]
        · have hfull : next taken = ranges.limit taken :=
            le_antisymm hkey.2 (not_lt.mp fun h => htaken ⟨rfl, h⟩)
          rw [hfull, min_eq_right (by omega), min_eq_right (by omega)]
      · rw [List.count_cons_of_ne hsame, if_neg fun h => hsame h.1]

/-- Taking fails exactly when the whole range has been asked for. -/
theorem take_run_eq_none_iff (keys : List κ) (key : κ) :
    (ranges.take (EventRun.run ranges.take ranges.first keys).2 key).1 = none ↔
      ranges.limit key ≤ ranges.first key + keys.count key := by
  rw [take_eq_none_iff, next_run within_first keys key, le_min_iff]
  exact and_iff_left le_rfl

theorem mem_run {keys : List κ} {id : ℤ}
    (hmem : id ∈ (EventRun.run ranges.take next keys).1.reduceOption) :
    ∃ key, next key ≤ id ∧ id < ranges.limit key := by
  induction keys generalizing next with
  | nil => simp at hmem
  | cons taken keys ih =>
      rw [EventRun.run_cons] at hmem
      have hlater : id ∈ (EventRun.run ranges.take (ranges.take next taken).2
          keys).1.reduceOption → ∃ key, next key ≤ id ∧
            id < ranges.limit key := by
        intro hrest
        obtain ⟨key, hlower, hupper⟩ := ih hrest
        exact ⟨key, (le_next_take ranges next taken key).trans hlower, hupper⟩
      rcases lt_or_ge (next taken) (ranges.limit taken) with hroom | hfull
      · rw [take_of_lt hroom, List.reduceOption_cons_of_some,
          List.mem_cons] at hmem
        rw [take_of_lt hroom] at hlater
        rcases hmem with rfl | hrest
        · exact ⟨taken, le_rfl, hroom⟩
        · exact hlater hrest
      · rw [take_of_le hfull, List.reduceOption_cons_of_none] at hmem
        rw [take_of_le hfull] at hlater
        exact hlater hmem

theorem nodup_run (hwithin : ranges.Within next) (keys : List κ) :
    (EventRun.run ranges.take next keys).1.reduceOption.Nodup := by
  induction keys generalizing next with
  | nil => simp
  | cons taken keys ih =>
      have hrest := ih (hwithin.take taken)
      rw [EventRun.run_cons]
      rcases lt_or_ge (next taken) (ranges.limit taken) with hroom | hfull
      · rw [take_of_lt hroom] at hrest ⊢
        rw [List.reduceOption_cons_of_some, List.nodup_cons]
        refine ⟨fun hmem => ?_, hrest⟩
        -- a later id of the same key is larger, one of another key elsewhere
        obtain ⟨key, hlower, hupper⟩ := mem_run hmem
        dsimp only at hlower
        rw [Function.update_apply] at hlower
        split_ifs at hlower with hsame
        · omega
        · exact hsame (ranges.disjoint taken key (next taken)
            (hwithin taken).1 hroom ((hwithin key).1.trans hlower)
            hupper).symm
      · rw [take_of_le hfull] at hrest ⊢
        rw [List.reduceOption_cons_of_none]
        exact hrest

end Ranges

end IdSupply
