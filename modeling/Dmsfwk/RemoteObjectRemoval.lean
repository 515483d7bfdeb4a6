import Dmsfwk.WantParamsParcel

/-!
# Remote objects in the parameters of a want

A want that arrives loses the remote objects among its own parameters.  What
stands in nested parameters is not looked at.
-/

namespace Dmsfwk
namespace RemoteObjectRemoval

open SortedEntries Interface
open DistributedWantParams (typeValue typeProperty remoteObjectText)

def isRemoteObject : Interface → Bool
  | .wantParams value => typeValue value = some remoteObjectText
  | _ => false

def remove (key : Text) (params : ParamMap) : ParamMap :=
  params.filter fun entry => entry.1 ≠ key

def removeRemoteObjectFromWant : Option ParamMap → Option ParamMap
  | none => none
  | some params =>
      some <| params.foldl (fun wantParams param =>
        if isRemoteObject param.2 then remove param.1 wantParams
        else wantParams) params

/-! ## Every depth -/

mutual
def stripped : Interface → Interface
  | .wantParams params => .wantParams (strippedParams params)
  | value => value

def strippedParams : ParamMap → ParamMap
  | [] => []
  | (key, value) :: params =>
      if isRemoteObject value then strippedParams params
      else (key, stripped value) :: strippedParams params
end

theorem length_strippedParams_le (params : ParamMap) :
    (strippedParams params).length ≤ params.length := by
  induction params with
  | nil => exact Nat.le_refl 0
  | cons entry params ih =>
      rw [strippedParams]
      split_ifs
      · exact ih.trans (Nat.le_succ _)
      · exact Nat.succ_le_succ ih

/-- No value that is nested in the value is a remote object. -/
def NoneNested (value : Interface) : Prop :=
  ∀ params, value = .wantParams params → ∀ entry ∈ params,
    entry.2.Every fun nested => isRemoteObject nested = false

theorem every_iff {value : Interface} :
    (value.Every fun nested => isRemoteObject nested = false) ↔
      isRemoteObject value = false ∧ NoneNested value := by
  cases value with
  | wantParams params => simp [every_wantParams, NoneNested]
  | _ => simp [Every, NoneNested]

theorem strippedParams_eq_self_iff (params : ParamMap) :
    strippedParams params = params ↔ ∀ entry ∈ params,
      isRemoteObject entry.2 = false ∧ stripped entry.2 = entry.2 := by
  induction params with
  | nil => simp [strippedParams]
  | cons entry params ih =>
      rw [strippedParams, List.forall_mem_cons, ← ih]
      split_ifs with hremote
      · refine iff_of_false (fun heq => ?_) (by simp [hremote])
        have hle := length_strippedParams_le params
        rw [heq, List.length_cons] at hle
        omega
      · simp [hremote, Prod.ext_iff]

theorem stripped_eq_self_iff (value : Interface) :
    stripped value = value ↔ NoneNested value := by
  induction value with
  | wantParams params ih =>
      rw [stripped, wantParams.injEq, strippedParams_eq_self_iff]
      have hentries : (∀ entry ∈ params,
          isRemoteObject entry.2 = false ∧ stripped entry.2 = entry.2) ↔
        ∀ entry ∈ params, entry.2.Every fun nested =>
          isRemoteObject nested = false :=
        forall₂_congr fun entry hentry => by rw [ih entry hentry, every_iff]
      rw [hentries]
      exact ⟨fun hall _ heq => wantParams.inj heq ▸ hall, fun hall => hall _ rfl⟩
  | _ => simp [stripped, NoneNested]

/-! ## The loop -/

theorem foldl_remove (removed params : ParamMap) :
    removed.foldl (fun wantParams param =>
        if isRemoteObject param.2 then remove param.1 wantParams
        else wantParams) params =
      params.filter fun entry => ∀ param ∈ removed,
        isRemoteObject param.2 = true → entry.1 ≠ param.1 := by
  induction removed generalizing params with
  | nil => simp
  | cons param removed ih =>
      rw [List.foldl_cons, ih]
      split_ifs with hremote
      · rw [remove, List.filter_filter]
        refine List.filter_congr fun entry _ => ?_
        rw [Bool.eq_iff_iff]
        simp [hremote, and_comm, -Prod.forall]
      · exact List.filter_congr fun entry _ => by simp [hremote]

theorem removeRemoteObjectFromWant_eq {params : ParamMap}
    (hsorted : Sorted params) :
    removeRemoteObjectFromWant (some params) =
      some (params.filter fun entry => !isRemoteObject entry.2) := by
  rw [removeRemoteObjectFromWant, foldl_remove]
  refine congrArg some (List.filter_congr fun entry hentry => ?_)
  rw [Bool.eq_iff_iff, decide_eq_true_iff, Bool.not_eq_true']
  constructor
  · intro hnone
    by_contra hremote
    exact hnone entry hentry (by simpa using hremote) rfl
  · intro hkeep param hmem hremote heq
    have hfound := lookup_of_mem hsorted (show (param.1, param.2) ∈ params from hmem)
    rw [← heq, lookup_of_mem hsorted (show (entry.1, entry.2) ∈ params from
      hentry)] at hfound
    rw [Option.some.inj hfound, hremote] at hkeep
    cases hkeep

/-- No remote object is left at any depth, and everything else is as it was. -/
def Strips (params : ParamMap) : Prop :=
  ∃ result, removeRemoteObjectFromWant (some params) = some result ∧
    (∀ entry ∈ result, entry.2.Every fun nested =>
      isRemoteObject nested = false) ∧
    result = strippedParams params

theorem filter_eq_strippedParams_iff (params : ParamMap) :
    (params.filter fun entry => !isRemoteObject entry.2) =
        strippedParams params ↔
      ∀ entry ∈ params, isRemoteObject entry.2 = false →
        NoneNested entry.2 := by
  induction params with
  | nil => simp [strippedParams]
  | cons entry params ih =>
      rw [strippedParams, List.forall_mem_cons, ← ih, List.filter_cons]
      cases hremote : isRemoteObject entry.2
      · simp [Prod.ext_iff, eq_comm, ← stripped_eq_self_iff]
      · simp

/-- The want is stripped exactly when nothing is nested in the parameters that
stay. -/
theorem strips_iff {params : ParamMap} (hsorted : Sorted params) :
    Strips params ↔ ∀ entry ∈ params, isRemoteObject entry.2 = false →
      NoneNested entry.2 := by
  rw [Strips, removeRemoteObjectFromWant_eq hsorted,
    ← filter_eq_strippedParams_iff]
  constructor
  · rintro ⟨result, hresult, -, hstripped⟩
    rw [Option.some.inj hresult, hstripped]
  · intro hstripped
    refine ⟨_, rfl, fun entry hmem => ?_, hstripped⟩
    obtain ⟨hentry, hkept⟩ := List.mem_filter.mp hmem
    have hkept : isRemoteObject entry.2 = false := by simpa using hkept
    exact every_iff.mpr ⟨hkept, (filter_eq_strippedParams_iff params).mp hstripped
      entry hentry hkept⟩

def remoteParams : Interface :=
  .wantParams (DistributedWantParams.remoteObjectParams 1)

theorem strips_topLevel :
    Strips [("a".toList, remoteParams), ("b".toList, .wrapper (.boolean true))] :=
  (strips_iff (by decide)).mpr <| by
    simp [isRemoteObject, remoteParams, NoneNested, typeValue, lookup_cons,
      DistributedWantParams.remoteObjectParams]

/-- A remote object one level down stays. -/
theorem not_strips_nested :
    ¬ ∀ params, Sorted params → Strips params := by
  intro hall
  obtain ⟨result, hresult, hevery, -⟩ :=
    hall [("a".toList, .wantParams [("b".toList, remoteParams)])] (by decide)
  cases hresult
  exact absurd hevery (by decide)

end RemoteObjectRemoval
end Dmsfwk
