import Dmsfwk.DistributedWant
import Dmsfwk.SortedEntries

/-!
# Parameters of distributed wants

The map behind `DistributedWantParams` with its values: objects of the wrapper
classes of `AAFwk`, remote objects, null, and parameters nested in a
`DistributedWantParamWrapper`.  Copies rebuild every value through the branch of
its class; comparison goes through a table of functions, one for each type.
-/

namespace Dmsfwk

open SortedEntries

/-! ## Data model -/

/-- The elements of an `AAFwk::Array`, by the class which it was created for.
Numbers with a fraction are bit patterns. -/
inductive ArrayValue where
  | booleans (values : List Bool)
  | bytes (values : List Int8)
  | chars (values : List UInt16)
  | shorts (values : List Int16)
  | integers (values : List Int32)
  | longs (values : List Int64)
  | floats (values : List UInt32)
  | doubles (values : List UInt64)
  | strings (values : List Text)
  deriving DecidableEq, Repr

/-- An object of a wrapper class, with the value that `Unbox` takes out of it. -/
inductive Wrapper where
  | boolean (value : Bool)
  | byte (value : Int8)
  | char (value : UInt16)
  | short (value : Int16)
  | integer (value : Int32)
  | long (value : Int64)
  | float (value : UInt32)
  | double (value : UInt64)
  | string (value : Text)
  | array (value : ArrayValue)
  deriving DecidableEq, Repr

/-- What `sptr<IInterface>` points to. -/
inductive Interface where
  | null
  | wrapper (object : Wrapper)
  | remoteObject (handle : ℕ)
  | wantParams (params : List (Text × Interface))
  deriving Repr

abbrev ParamMap := List (Text × Interface)

namespace Interface

@[elab_as_elim, induction_eliminator]
theorem induct {motive : Interface → Prop} (null : motive .null)
    (wrapper : ∀ object, motive (.wrapper object))
    (remoteObject : ∀ handle, motive (.remoteObject handle))
    (wantParams : ∀ params, (∀ entry ∈ params, motive entry.2) →
      motive (.wantParams params)) (value : Interface) : motive value := by
  refine @Interface.rec motive (fun params => ∀ entry ∈ params, motive entry.2)
    (fun entry => motive entry.2) null wrapper remoteObject wantParams
    ?_ ?_ ?_ value
  · intro entry hentry
    cases hentry
  · intro first rest hfirst hrest entry hentry
    rcases List.mem_cons.mp hentry with rfl | hentry
    · exact hfirst
    · exact hrest entry hentry
  · intro _ _ hvalue
    exact hvalue

mutual
def same : Interface → Interface → Bool
  | .null, .null => true
  | .wrapper object, .wrapper other => object = other
  | .remoteObject handle, .remoteObject other => handle = other
  | .wantParams params, .wantParams others => sameParams params others
  | _, _ => false

def sameParams : ParamMap → ParamMap → Bool
  | [], [] => true
  | (key, value) :: params, (otherKey, other) :: others =>
      key = otherKey && same value other && sameParams params others
  | _, _ => false
end

theorem same_iff (value other : Interface) :
    same value other = true ↔ value = other := by
  induction value generalizing other with
  | null => cases other <;> simp [same]
  | wrapper object => cases other <;> simp [same]
  | remoteObject handle => cases other <;> simp [same]
  | wantParams params ih =>
      cases other with
      | wantParams others =>
          simp only [same, wantParams.injEq]
          induction params generalizing others with
          | nil => cases others <;> simp [sameParams]
          | cons entry params ihParams =>
              cases others with
              | nil => simp [sameParams]
              | cons other others =>
                  obtain ⟨hentry, hrest⟩ := List.forall_mem_cons.mp ih
                  simp only [sameParams, Bool.and_eq_true, decide_eq_true_eq,
                    hentry, ihParams hrest, List.cons.injEq, Prod.ext_iff]
      | _ => simp [same]

instance : DecidableEq Interface := fun value other =>
  decidable_of_iff _ (same_iff value other)

/-! ## Properties of all values in a value -/

mutual
def Every (node : Interface → Prop) : Interface → Prop
  | .wantParams params => node (.wantParams params) ∧ EveryIn node params
  | value => node value

def EveryIn (node : Interface → Prop) : ParamMap → Prop
  | [] => True
  | (_, value) :: params => Every node value ∧ EveryIn node params
end

section Every

variable {node other : Interface → Prop} {value : Interface}
  {params : ParamMap}

theorem everyIn_iff :
    EveryIn node params ↔ ∀ entry ∈ params, Every node entry.2 := by
  induction params with
  | nil => simp [EveryIn]
  | cons entry params ih => simp [EveryIn, ih]

theorem every_wantParams : Every node (.wantParams params) ↔
    node (.wantParams params) ∧ ∀ entry ∈ params, Every node entry.2 := by
  rw [Every, everyIn_iff]

theorem Every.here (hevery : Every node value) : node value := by
  cases value with
  | wantParams params => exact (every_wantParams.mp hevery).1
  | _ => exact hevery

theorem Every.imp (himp : ∀ value, node value → other value)
    (hevery : Every node value) : Every other value := by
  induction value with
  | wantParams params ih =>
      obtain ⟨hnode, hparams⟩ := every_wantParams.mp hevery
      exact every_wantParams.mpr ⟨himp _ hnode,
        fun entry hentry => ih entry hentry (hparams entry hentry)⟩
  | _ => exact himp _ hevery

mutual
def decideEvery (node : Interface → Prop) [DecidablePred node] :
    (value : Interface) → Decidable (Every node value)
  | .wantParams params =>
      have := decideEveryIn node params
      inferInstanceAs (Decidable (node (.wantParams params) ∧
        EveryIn node params))
  | .null => inferInstanceAs (Decidable (node .null))
  | .wrapper object => inferInstanceAs (Decidable (node (.wrapper object)))
  | .remoteObject handle =>
      inferInstanceAs (Decidable (node (.remoteObject handle)))

def decideEveryIn (node : Interface → Prop) [DecidablePred node] :
    (params : ParamMap) → Decidable (EveryIn node params)
  | [] => .isTrue trivial
  | (_, value) :: params =>
      have := decideEvery node value
      have := decideEveryIn node params
      inferInstanceAs (Decidable (Every node value ∧ EveryIn node params))
end

instance [DecidablePred node] : Decidable (Every node value) :=
  decideEvery node value

end Every

def Ordered : Interface → Prop
  | .wantParams params => Sorted params
  | _ => True

instance : DecidablePred Ordered
  | .wantParams params => inferInstanceAs (Decidable (Sorted params))
  | .null | .wrapper _ | .remoteObject _ => .isTrue trivial

theorem ordered_nil : (wantParams []).Every Ordered := by
  decide

end Interface

/-! ## The class -/

structure DistributedUnsupportedData where
  key : U16String
  type : Int32
  buffer : List UInt8
  deriving DecidableEq, Repr

structure DistributedWantParams where
  params : ParamMap := []
  cachedUnsupportedData : List DistributedUnsupportedData := []
  ordered : (Interface.wantParams params).Every Interface.Ordered := by decide

/-- The `ToString`, `Parse` and `Equals` functions of the wrapper classes.  Which
class parses a text is said by the type. -/
structure WrapperLibrary where
  toString : Wrapper → Text
  parse : Int32 → Text → Option Wrapper
  equals : Wrapper → Wrapper → Bool

namespace DistributedWantParams

def valueTypeNull : Int32 := -1
def valueTypeWantParams : Int32 := 101
def valueTypeArray : Int32 := 102

@[ext] theorem ext {wantParams others : DistributedWantParams}
    (hparams : wantParams.params = others.params)
    (hcached : wantParams.cachedUnsupportedData =
      others.cachedUnsupportedData) : wantParams = others := by
  cases wantParams
  cases others
  cases hparams
  cases hcached
  rfl

def wrapperDataType : Wrapper → Int32
  | .boolean _ => 1
  | .byte _ => 2
  | .char _ => 3
  | .short _ => 4
  | .integer _ => 5
  | .long _ => 6
  | .float _ => 7
  | .double _ => 8
  | .string _ => 9
  | .array _ => valueTypeArray

/-- `GetDataType` with `GetNumberDataType`, neither of which knows remote
objects. -/
def getDataType : Interface → Int32
  | .wrapper object => wrapperDataType object
  | .wantParams _ => valueTypeWantParams
  | .null => valueTypeNull
  | .remoteObject _ => valueTypeNull

/-! ## Copies -/

/-- A 16-bit unit that went through a `char`, which the compiler takes to be
signed or not. -/
def throughChar (charSigned : Bool) (unit : UInt16) : UInt16 :=
  let low := unit.toUInt8
  if charSigned && low ≥ 128 then 0xff00 ||| low.toUInt16 else low.toUInt16

/-- `SetNewArray` leaves the null pointer when there are no elements. -/
def setNewArray {α : Type} (array : List α → ArrayValue) (values : List α) :
    Option ArrayValue :=
  if 0 < values.length then some (array values) else none

/-- The elements of an array of characters are kept as `char` on the way. -/
def newArrayData (charSigned : Bool) : ArrayValue → Option ArrayValue
  | .booleans values => setNewArray .booleans values
  | .chars values => setNewArray .chars (values.map (throughChar charSigned))
  | .bytes values => setNewArray .bytes values
  | .shorts values => setNewArray .shorts values
  | .integers values => setNewArray .integers values
  | .longs values => setNewArray .longs values
  | .floats values => setNewArray .floats values
  | .doubles values => setNewArray .doubles values
  | .strings values => setNewArray .strings values

mutual
/-- The branches of `NewParams`.  Nested parameters are copied as `Unbox` takes
them out and as `Box` takes them in again; the second copy changes nothing
(`newParams_newParams`). -/
def newParam (charSigned : Bool) : Interface → Option Interface
  | .wrapper (.array source) =>
      (newArrayData charSigned source).map fun dest => .wrapper (.array dest)
  | .wrapper object => some (.wrapper object)
  | .remoteObject handle => some (.remoteObject handle)
  | .wantParams params => some (.wantParams (newParams charSigned params []))
  | .null => none

def newParams (charSigned : Bool) : ParamMap → ParamMap → ParamMap
  | [], dest => dest
  | (key, value) :: source, dest =>
      match newParam charSigned value with
      | some copied => newParams charSigned source (insert key copied dest)
      | none => newParams charSigned source dest
end

/-! ## Comparison -/

def queriedTypes : List Int32 :=
  [1, 2, 3, 9, valueTypeArray, valueTypeWantParams, 4, 5, 6, 7, 8]

mutual
/-- `Equals` of the object, which for nested parameters compares the maps of the
other object and of this one. -/
def objectEquals (library : WrapperLibrary) : Interface → Interface → Bool
  | .wrapper object, .wrapper other => library.equals object other
  | .wantParams params, .wantParams others =>
      others.length == params.length &&
        others.all fun entry => foundEquals library entry.1 params
  | _, _ => false

def foundEquals (library : WrapperLibrary) (key : Text) : ParamMap → Bool
  | [] => false
  | (other, found) :: params =>
      if key = other then
        queriedTypes.contains (getDataType found) &&
          objectEquals library found found
      else foundEquals library key params
end

/-- `CompareInterface`.  The function of the table queries the first object for
the class of the type and calls its `Equals` with the object itself. -/
def compareInterface (library : WrapperLibrary) (iIt1 _iIt2 : Interface)
    (typeId : Int32) : Bool :=
  queriedTypes.contains typeId &&
    (getDataType iIt1 = typeId && objectEquals library iIt1 iIt1)

def equals (library : WrapperLibrary) (params others : ParamMap) : Bool :=
  params.length == others.length &&
    params.all fun entry =>
      match lookup entry.1 others with
      | none => false
      | some found =>
          compareInterface library found entry.2 (getDataType found)

theorem foundEquals_eq (library : WrapperLibrary) (entry : Text × Interface)
    (params : ParamMap) :
    foundEquals library entry.1 params =
      match lookup entry.1 params with
      | none => false
      | some found =>
          compareInterface library found entry.2 (getDataType found) := by
  induction params with
  | nil => rfl
  | cons other params ih =>
      obtain ⟨key, found⟩ := other
      rw [foundEquals, lookup_cons]
      by_cases hkey : entry.1 = key
      · simp [hkey, compareInterface]
      · rw [if_neg hkey, if_neg hkey, ih]

theorem objectEquals_wantParams (library : WrapperLibrary)
    (params others : ParamMap) :
    objectEquals library (.wantParams params) (.wantParams others) =
      equals library others params := by
  rw [objectEquals, equals]
  congr 2
  funext entry
  exact foundEquals_eq library entry params

end DistributedWantParams

end Dmsfwk
