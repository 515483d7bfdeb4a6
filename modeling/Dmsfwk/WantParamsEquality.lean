import Dmsfwk.DistributedWantParams

/-!
# What the comparison of parameters compares

`operator==` looks every key of one map up in the other one and compares what it
finds there, through the table of comparison functions, with itself.  So it
compares the keys and whether the found values have a type in the table.
-/

namespace Dmsfwk
namespace DistributedWantParams

open Interface SortedEntries

variable {library : WrapperLibrary}

/-! ## Equal parameters -/

/-- The values have the same type and are equal: objects as their class says, and
nested parameters when they have the same keys and the same value at each of
them. -/
inductive SameValue (library : WrapperLibrary) : Interface → Interface → Prop
  | wrapper {object other : Wrapper}
      (htype : wrapperDataType object = wrapperDataType other)
      (hequals : library.equals object other = true) :
      SameValue library (.wrapper object) (.wrapper other)
  | wantParams {params others : ParamMap} (hkeys : SameKeys params others)
      (hvalues : ∀ key value other, lookup key params = some value →
        lookup key others = some other → SameValue library value other) :
      SameValue library (.wantParams params) (.wantParams others)

def SameValues (library : WrapperLibrary) (params others : ParamMap) : Prop :=
  ∀ key value other, lookup key params = some value →
    lookup key others = some other → SameValue library value other

theorem sameValue_wantParams {params others : ParamMap} :
    SameValue library (.wantParams params) (.wantParams others) ↔
      SameKeys params others ∧ SameValues library params others := by
  constructor
  · intro hsame
    cases hsame with
    | wantParams hkeys hvalues => exact ⟨hkeys, hvalues⟩
  · rintro ⟨hkeys, hvalues⟩
    exact .wantParams hkeys hvalues

/-- A value of a type in the table.  An object that does not equal itself, which
no object but a number without a value is, counts as not supported. -/
def SupportedNode (library : WrapperLibrary) : Interface → Prop
  | .wrapper object => library.equals object object = true
  | .wantParams params => Sorted params
  | .null => False
  | .remoteObject _ => False

instance : DecidablePred (SupportedNode library)
  | .wrapper object =>
      inferInstanceAs (Decidable (library.equals object object = true))
  | .wantParams params => inferInstanceAs (Decidable (Sorted params))
  | .null | .remoteObject _ => .isFalse id

def Supported (library : WrapperLibrary) :=
  { wantParams : DistributedWantParams //
    (Interface.wantParams wantParams.params).Every (SupportedNode library) }

/-! ## What is compared -/

theorem contains_queriedTypes_wrapper (object : Wrapper) :
    queriedTypes.contains (wrapperDataType object) = true := by
  cases object <;> rfl

theorem equals_of_objectEquals {params others : ParamMap}
    (hparams : Sorted params) (hothers : Sorted others)
    (hitself : ∀ entry ∈ others,
      objectEquals library entry.2 entry.2 = true ∧
        queriedTypes.contains (getDataType entry.2) = true) :
    equals library params others = true ↔ SameKeys params others := by
  have hcompare : ∀ (entry : Text × Interface) (found : Interface),
      lookup entry.1 others = some found →
      compareInterface library found entry.2 (getDataType found) = true := by
    intro entry found hfound
    obtain ⟨hequals, htype⟩ := hitself _ (mem_of_lookup hfound)
    rw [compareInterface, hequals, htype]
    simp
  rw [equals, Bool.and_eq_true, List.all_eq_true, beq_iff_eq]
  constructor
  · rintro ⟨hlength, hall⟩
    refine sameKeys_of_subset hparams hlength ?_
    intro entry hentry
    have hfound := hall entry hentry
    cases hlookup : lookup entry.1 others with
    | none =>
        rw [hlookup] at hfound
        cases hfound
    | some found => rfl
  · intro hsame
    refine ⟨hsame.length_eq hparams hothers, ?_⟩
    intro entry hentry
    have hkey : (lookup entry.1 others).isSome := by
      rw [← hsame, lookup_of_mem hparams hentry]
      rfl
    obtain ⟨found, hfound⟩ := Option.isSome_iff_exists.mp hkey
    rw [hfound]
    exact hcompare entry found hfound

theorem Interface.Every.objectEquals_self {value : Interface}
    (hsupported : value.Every (SupportedNode library)) :
    objectEquals library value value = true ∧
      queriedTypes.contains (getDataType value) = true := by
  induction value with
  | null => exact hsupported.elim
  | wrapper object => exact ⟨hsupported, contains_queriedTypes_wrapper object⟩
  | remoteObject handle => exact hsupported.elim
  | wantParams params ih =>
      obtain ⟨hsorted, hentries⟩ := every_wantParams.mp hsupported
      refine ⟨?_, rfl⟩
      rw [objectEquals_wantParams, equals_of_objectEquals hsorted hsorted
        fun entry hentry => ih entry hentry (hentries entry hentry)]
      exact fun _ => rfl

theorem equals_iff_sameKeys (params others : Supported library) :
    equals library params.1.params others.1.params = true ↔
      SameKeys params.1.params others.1.params := by
  obtain ⟨hothers, hentries⟩ := every_wantParams.mp others.2
  exact equals_of_objectEquals (every_wantParams.mp params.2).1 hothers
    fun entry hentry =>
      Interface.Every.objectEquals_self (hentries entry hentry)

/-! ## What is to be compared -/

/-- The comparison decides whether the parameters are the same, and so does the
one of their wrappers. -/
structure DecidesEquality (library : WrapperLibrary) (params others : ParamMap) :
    Prop where
  compares : equals library params others = true ↔
    SameValue library (.wantParams params) (.wantParams others)
  wrappers : objectEquals library (.wantParams params) (.wantParams others) =
    equals library params others

theorem equivalence_equals : Equivalence
    fun (params others : Supported library) =>
      equals library params.1.params others.1.params = true where
  refl params := (equals_iff_sameKeys params params).mpr fun _ => rfl
  symm hsame := (equals_iff_sameKeys _ _).mpr fun key =>
    ((equals_iff_sameKeys _ _).mp hsame key).symm
  trans hfirst hsecond := (equals_iff_sameKeys _ _).mpr fun key =>
    ((equals_iff_sameKeys _ _).mp hfirst key).trans
      ((equals_iff_sameKeys _ _).mp hsecond key)

theorem objectEquals_eq_equals (params others : Supported library) :
    objectEquals library (.wantParams params.1.params)
        (.wantParams others.1.params) =
      equals library params.1.params others.1.params := by
  rw [objectEquals_wantParams, Bool.eq_iff_iff, equals_iff_sameKeys,
    equals_iff_sameKeys]
  exact ⟨fun hsame key => (hsame key).symm, fun hsame key => (hsame key).symm⟩

/-- The comparison is an equivalence relation, and it decides equality of two
parameter sets when their keys differ or all their values are the same. -/
theorem decidesEquality_iff (library : WrapperLibrary) :
    (Equivalence fun (params others : Supported library) =>
      equals library params.1.params others.1.params = true) ∧
    ∀ params others : Supported library,
      DecidesEquality library params.1.params others.1.params ↔
        ¬ SameKeys params.1.params others.1.params ∨
          SameValues library params.1.params others.1.params := by
  refine ⟨equivalence_equals, ?_⟩
  intro params others
  constructor
  · intro hdecides
    have hsame := hdecides.compares
    rw [equals_iff_sameKeys, sameValue_wantParams] at hsame
    exact or_iff_not_imp_left.mpr fun hkeys =>
      (hsame.mp (not_not.mp hkeys)).2
  · intro hcondition
    refine ⟨?_, objectEquals_eq_equals params others⟩
    rw [equals_iff_sameKeys, sameValue_wantParams]
    constructor
    · intro hkeys
      exact ⟨hkeys, hcondition.resolve_left (not_not.mpr hkeys)⟩
    · exact And.left

def exactLibrary : WrapperLibrary where
  toString _ := []
  parse _ _ := none
  equals object other := object = other

def numberOne : Supported exactLibrary :=
  ⟨{ params := [(['k'], .wrapper (.integer 1))] }, by decide⟩

def numberTwo : Supported exactLibrary :=
  ⟨{ params := [(['k'], .wrapper (.integer 2))] }, by decide⟩

/-- Two different numbers under one key are taken to be equal. -/
theorem not_decidesEquality_numbers :
    ¬DecidesEquality exactLibrary numberOne.1.params numberTwo.1.params := by
  intro hdecides
  have hsame := hdecides.compares.mp (by decide)
  obtain ⟨_, hvalues⟩ := sameValue_wantParams.mp hsame
  cases hvalues ['k'] _ _ rfl rfl with
  | wrapper _ hequals => exact absurd hequals (by decide)

end DistributedWantParams
end Dmsfwk
