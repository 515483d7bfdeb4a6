import Dmsfwk.DistributedWantParams
import Dmsfwk.DistributedWantRoundTrip

/-!
# Copies of parameters and operations

The copy constructor and the assignment of `DistributedWantParams` rebuild each
value and leave out what they have no branch for; the wrapper of nested
parameters copies them when they are put in and when they are taken out.  The
copy constructor of `DistributedOperation` drops the entities, and its parcel has
no place for the module.
-/

namespace Dmsfwk

open Interface SortedEntries StreamCodec

namespace DistributedWantParams

variable {charSigned : Bool}

/-! ## Rebuilding the values -/

theorem newParams_eq_foldl (charSigned : Bool) (source dest : ParamMap) :
    newParams charSigned source dest =
      source.foldl (fun dest entry =>
        (newParam charSigned entry.2).elim dest fun copied =>
          insert entry.1 copied dest) dest := by
  induction source generalizing dest with
  | nil => rfl
  | cons entry source ih =>
      obtain ⟨key, value⟩ := entry
      rw [newParams, List.foldl_cons]
      cases newParam charSigned value <;> exact ih _

variable {source : ParamMap}

theorem newParams_eq_convert (hsorted : Sorted source) :
    newParams charSigned source [] = convert (newParam charSigned) source := by
  rw [newParams_eq_foldl]
  exact foldl_insert_convert hsorted
    (fun _ hother => absurd hother List.not_mem_nil) (newParam charSigned)

theorem newParams_eq_self_iff (hsorted : Sorted source) :
    newParams charSigned source [] = source ↔
      ∀ entry ∈ source, newParam charSigned entry.2 = some entry.2 := by
  rw [newParams_eq_convert hsorted, convert_eq_self_iff]

/-! ## Characters of arrays -/

theorem toUInt8_throughChar (charSigned : Bool) (unit : UInt16) :
    (throughChar charSigned unit).toUInt8 = unit.toUInt8 := by
  unfold throughChar
  dsimp only
  split_ifs
  · rw [UInt16.toUInt8_or, UInt8.toUInt8_toUInt16]
    exact UInt8.zero_or
  · exact UInt8.toUInt8_toUInt16 _

theorem throughChar_throughChar (charSigned : Bool) (unit : UInt16) :
    throughChar charSigned (throughChar charSigned unit) =
      throughChar charSigned unit := by
  rw [throughChar, toUInt8_throughChar]
  rfl

/-- The units that a `char` can hold. -/
def KeptUnit (charSigned : Bool) (unit : UInt16) : Prop :=
  unit < 0x80 ∨ if charSigned then 0xff80 ≤ unit else unit < 0x100

instance (charSigned : Bool) (unit : UInt16) :
    Decidable (KeptUnit charSigned unit) := by
  unfold KeptUnit
  infer_instance

theorem toNat_signExtended (low : UInt8) :
    (0xff00 ||| low.toUInt16).toNat = 0xff00 + low.toNat := by
  rw [UInt16.toNat_or, UInt8.toNat_toUInt16]
  exact (Nat.shiftLeft_add_eq_or_of_lt low.toNat_lt 0xff).symm

theorem throughChar_eq_self_iff (charSigned : Bool) (unit : UInt16) :
    throughChar charSigned unit = unit ↔ KeptUnit charSigned unit := by
  have hlow : unit.toUInt8.toNat = unit.toNat % 256 := UInt16.toNat_toUInt8 unit
  have hunit := unit.toNat_lt
  rw [← UInt16.toNat_inj]
  unfold throughChar KeptUnit
  cases charSigned with
  | false =>
      simp only [Bool.false_and, Bool.false_eq_true, if_false,
        UInt8.toNat_toUInt16, hlow, UInt16.lt_iff_toNat_lt, UInt16.reduceToNat]
      omega
  | true =>
      by_cases hhigh : unit.toUInt8 ≥ 128
      · have hhalf : 128 ≤ unit.toNat % 256 := hlow ▸ hhigh
        simp only [hhigh, decide_true, Bool.and_self, if_true,
          toNat_signExtended, hlow, UInt16.lt_iff_toNat_lt,
          UInt16.le_iff_toNat_le, UInt16.reduceToNat]
        omega
      · have hhalf : ¬128 ≤ unit.toNat % 256 := hlow ▸ hhigh
        simp only [hhigh, decide_false, Bool.and_false, Bool.false_eq_true,
          if_false, if_true, UInt8.toNat_toUInt16, hlow,
          UInt16.lt_iff_toNat_lt, UInt16.le_iff_toNat_le, UInt16.reduceToNat]
        omega

/-! ## Values that are kept -/

def ArrayValue.size : ArrayValue → ℕ
  | .booleans values => values.length
  | .bytes values => values.length
  | .chars values => values.length
  | .shorts values => values.length
  | .integers values => values.length
  | .longs values => values.length
  | .floats values => values.length
  | .doubles values => values.length
  | .strings values => values.length

def ArrayValue.units : ArrayValue → List UInt16
  | .chars values => values
  | _ => []

/-- There is an element, and each character fits a `char`. -/
def KeptArray (charSigned : Bool) (array : ArrayValue) : Prop :=
  0 < ArrayValue.size array ∧
    ∀ unit ∈ ArrayValue.units array, KeptUnit charSigned unit

instance (charSigned : Bool) (array : ArrayValue) :
    Decidable (KeptArray charSigned array) :=
  have := List.decidableBAll (KeptUnit charSigned) (ArrayValue.units array)
  inferInstanceAs (Decidable (0 < ArrayValue.size array ∧
    ∀ unit ∈ ArrayValue.units array, KeptUnit charSigned unit))

def KeptNode (charSigned : Bool) : Interface → Prop
  | .null => False
  | .wrapper (.array array) => KeptArray charSigned array
  | _ => True

instance (charSigned : Bool) : DecidablePred (KeptNode charSigned)
  | .null => .isFalse id
  | .wrapper (.array array) =>
      inferInstanceAs (Decidable (KeptArray charSigned array))
  | .wrapper (.boolean _) | .wrapper (.byte _) | .wrapper (.char _)
  | .wrapper (.short _) | .wrapper (.integer _) | .wrapper (.long _)
  | .wrapper (.float _) | .wrapper (.double _) | .wrapper (.string _)
  | .wantParams _ | .remoteObject _ => .isTrue trivial

theorem map_throughChar_eq_self_iff {units : List UInt16} :
    units.map (throughChar charSigned) = units ↔
      ∀ unit ∈ units, KeptUnit charSigned unit := by
  have hmap : units.map (throughChar charSigned) = units.map id ↔
      ∀ unit ∈ units, throughChar charSigned unit = unit := List.map_inj_left
  rw [List.map_id] at hmap
  simp only [hmap, throughChar_eq_self_iff]

theorem setNewArray_eq_some_iff {α : Type} {array : List α → ArrayValue}
    {values : List α} {copied : ArrayValue} :
    setNewArray array values = some copied ↔
      0 < values.length ∧ array values = copied := by
  unfold setNewArray
  split_ifs with hsize <;> simp [hsize]

theorem newArrayData_eq_self_iff (array : ArrayValue) :
    newArrayData charSigned array = some array ↔ KeptArray charSigned array := by
  cases array with
  | chars values =>
      rw [newArrayData, setNewArray_eq_some_iff, List.length_map, KeptArray,
        ArrayValue.chars.injEq, map_throughChar_eq_self_iff]
      rfl
  | _ =>
      rw [newArrayData, setNewArray_eq_some_iff, KeptArray]
      simp [ArrayValue.size, ArrayValue.units]

theorem newArrayData_idempotent {array copied : ArrayValue}
    (hcopied : newArrayData charSigned array = some copied) :
    newArrayData charSigned copied = some copied := by
  cases array with
  | chars values =>
      obtain ⟨hsize, rfl⟩ := setNewArray_eq_some_iff.mp hcopied
      have htwice : (values.map (throughChar charSigned)).map
          (throughChar charSigned) = values.map (throughChar charSigned) := by
        simp only [List.map_map, Function.comp_def, throughChar_throughChar]
      exact setNewArray_eq_some_iff.mpr
        ⟨by rw [htwice]; exact hsize, congrArg _ htwice⟩
  | _ =>
      obtain ⟨hsize, rfl⟩ := setNewArray_eq_some_iff.mp hcopied
      exact hcopied

theorem newParam_wantParams {params : ParamMap} (hsorted : Sorted params) :
    newParam charSigned (.wantParams params) =
      some (.wantParams (convert (newParam charSigned) params)) := by
  rw [newParam, newParams_eq_convert hsorted]

theorem newParam_eq_self_iff {value : Interface}
    (hordered : value.Every Ordered) :
    newParam charSigned value = some value ↔
      value.Every (KeptNode charSigned) := by
  induction value with
  | null => simp [newParam, Every, KeptNode]
  | wrapper object =>
      cases object with
      | array array =>
          simp only [newParam, Option.map_eq_some_iff, Every, KeptNode,
            ← newArrayData_eq_self_iff]
          simp
      | _ => simp [newParam, Every, KeptNode]
  | remoteObject handle => simp [newParam, Every, KeptNode]
  | wantParams params ih =>
      obtain ⟨hsorted, hentries⟩ := every_wantParams.mp hordered
      have hvalues : (∀ entry ∈ params,
          newParam charSigned entry.2 = some entry.2) ↔
            ∀ entry ∈ params, entry.2.Every (KeptNode charSigned) :=
        forall₂_congr fun entry hentry =>
          ih entry hentry (hentries entry hentry)
      rw [newParam_wantParams hsorted, every_wantParams, ← hvalues,
        ← convert_eq_self_iff]
      simp [KeptNode]

theorem newParam_idempotent {value copied : Interface}
    (hordered : value.Every Ordered)
    (hcopied : newParam charSigned value = some copied) :
    copied.Every Ordered ∧ newParam charSigned copied = some copied := by
  induction value generalizing copied with
  | null => cases hcopied
  | wrapper object =>
      cases object with
      | array array =>
          obtain ⟨dest, hdest, rfl⟩ := Option.map_eq_some_iff.mp hcopied
          refine ⟨trivial, ?_⟩
          rw [newParam, newArrayData_idempotent hdest]
          rfl
      | _ =>
          cases hcopied
          exact ⟨trivial, rfl⟩
  | remoteObject handle =>
      cases hcopied
      exact ⟨trivial, rfl⟩
  | wantParams params ih =>
      obtain ⟨hsorted, hentries⟩ := every_wantParams.mp hordered
      rw [newParam_wantParams hsorted] at hcopied
      cases hcopied
      have hboth : ∀ entry ∈ convert (newParam charSigned) params,
          entry.2.Every Ordered ∧
            newParam charSigned entry.2 = some entry.2 := by
        intro entry hentry
        obtain ⟨value, hmem, hvalue⟩ := mem_convert.mp hentry
        exact ih _ hmem (hentries _ hmem) hvalue
      have hsortedCopy := sorted_convert hsorted (newParam charSigned)
      refine ⟨every_wantParams.mpr ⟨hsortedCopy, fun entry hentry =>
        (hboth entry hentry).1⟩, ?_⟩
      rw [newParam_wantParams hsortedCopy, convert_eq_self_iff.mpr
        fun entry hentry => (hboth entry hentry).2]

theorem ordered_newParams (hordered : (Interface.wantParams source).Every Ordered) :
    (Interface.wantParams (newParams charSigned source [])).Every Ordered :=
  (newParam_idempotent hordered rfl).1

theorem newParams_newParams
    (hordered : (Interface.wantParams source).Every Ordered) :
    newParams charSigned (newParams charSigned source []) [] =
      newParams charSigned source [] := by
  have htwice : newParam charSigned (.wantParams (newParams charSigned source [])) =
      some (.wantParams (newParams charSigned source [])) :=
    (newParam_idempotent hordered rfl).2
  rw [newParam] at htwice
  exact Interface.wantParams.inj (Option.some.inj htwice)

/-! ## Copies of the class -/

def copyConstruct (charSigned : Bool) (source : DistributedWantParams) :
    DistributedWantParams where
  params := newParams charSigned source.params []
  ordered := ordered_newParams source.ordered

def assign (charSigned : Bool) (dest source : DistributedWantParams) :
    DistributedWantParams where
  params := newParams charSigned source.params []
  cachedUnsupportedData := dest.cachedUnsupportedData
  ordered := ordered_newParams source.ordered

def box (charSigned : Bool) (value : DistributedWantParams) :
    DistributedWantParams :=
  copyConstruct charSigned value

def unbox (charSigned : Bool) (wrapped : DistributedWantParams) :
    DistributedWantParams :=
  assign charSigned {} wrapped

/-- Every value has a branch that rebuilds it. -/
def Kept (charSigned : Bool) (source : DistributedWantParams) : Prop :=
  ∀ entry ∈ source.params, entry.2.Every (KeptNode charSigned)

theorem newParams_eq_self_iff_kept (source : DistributedWantParams) :
    newParams charSigned source.params [] = source.params ↔
      Kept charSigned source := by
  obtain ⟨hsorted, hentries⟩ := every_wantParams.mp source.ordered
  rw [newParams_eq_self_iff hsorted]
  exact forall₂_congr fun entry hentry =>
    newParam_eq_self_iff (hentries entry hentry)

theorem assign_eq_iff (dest source : DistributedWantParams) :
    assign charSigned dest source = source ↔
      Kept charSigned source ∧
        dest.cachedUnsupportedData = source.cachedUnsupportedData := by
  rw [← newParams_eq_self_iff_kept, DistributedWantParams.ext_iff]
  exact Iff.rfl

theorem copyConstruct_eq_iff (source : DistributedWantParams) :
    copyConstruct charSigned source = source ↔
      Kept charSigned source ∧ source.cachedUnsupportedData = [] := by
  rw [← newParams_eq_self_iff_kept, DistributedWantParams.ext_iff,
    eq_comm (a := source.cachedUnsupportedData)]
  exact Iff.rfl

theorem unbox_box (source : DistributedWantParams) :
    unbox charSigned (box charSigned source) = copyConstruct charSigned source :=
  DistributedWantParams.ext (newParams_newParams source.ordered) rfl

end DistributedWantParams
/-! ## Operations -/

structure UriLibrary where
  parse : Text → Text
  parse_parse : ∀ text, parse (parse text) = parse text

/-- `Parcel` as the operation uses it. -/
structure OperationParcels where
  str8ToStr16 : Text → U16String
  str16ToStr8 : U16String → Text
  writeInt32 : Int32 → Writer
  readInt32 : Reader Int32
  writeUint32 : UInt32 → Writer
  readUint32 : Reader UInt32
  writeString16 : U16String → Writer
  readString16 : Reader U16String
  writeStringVector : List Text → Writer
  readStringVector : Reader (List Text)
  writeUri : Text → Writer
  readUri : Reader Text

namespace DistributedOperation

def equals (operation other : DistributedOperation) : Bool :=
  operation.abilityName = other.abilityName ∧
    operation.action = other.action ∧
    operation.bundleName = other.bundleName ∧
    operation.deviceId = other.deviceId ∧
    operation.moduleName = other.moduleName ∧
    operation.entities = other.entities ∧
    operation.flags = other.flags ∧
    operation.uri = other.uri

def copyConstruct (uris : UriLibrary) (other : DistributedOperation) :
    DistributedOperation :=
  { other with uri := uris.parse other.uri, entities := [] }

def assign (_operation other : DistributedOperation) : DistributedOperation where
  uri := other.uri
  flags := other.flags
  action := other.action
  deviceId := other.deviceId
  entities := other.entities
  bundleName := other.bundleName
  abilityName := other.abilityName
  moduleName := other.moduleName

def writeText (parcels : OperationParcels) (text : Text) : Writer :=
  parcels.writeString16 (parcels.str8ToStr16 text)

def writeUri (uris : UriLibrary) (parcels : OperationParcels)
    (operation : DistributedOperation) : Writer :=
  if operation.uri = uris.parse [] then parcels.writeInt32 valueNull
  else do
    parcels.writeInt32 valueObject
    parcels.writeUri operation.uri

def marshalling (uris : UriLibrary) (parcels : OperationParcels)
    (operation : DistributedOperation) : Writer := do
  writeText parcels operation.abilityName
  writeText parcels operation.action
  writeText parcels operation.bundleName
  writeText parcels operation.deviceId
  parcels.writeStringVector operation.entities
  parcels.writeUint32 operation.flags
  writeUri uris parcels operation

def readText (parcels : OperationParcels) : Reader Text := do
  return parcels.str16ToStr8 (← parcels.readString16)

def readUri (parcels : OperationParcels) (operation : DistributedOperation) :
    Reader DistributedOperation := do
  let value ← parcels.readInt32
  if value = valueObject then
    let uri ← parcels.readUri
    return { operation with uri }
  else return operation

def readFromParcel (parcels : OperationParcels)
    (operation : DistributedOperation) : Reader DistributedOperation := do
  let abilityName ← readText parcels
  let action ← readText parcels
  let bundleName ← readText parcels
  let deviceId ← readText parcels
  let entities ← parcels.readStringVector
  let flags ← parcels.readUint32
  readUri parcels
    { operation with abilityName, action, bundleName, deviceId, entities, flags }

def unmarshalling (uris : UriLibrary) (parcels : OperationParcels) :
    Reader DistributedOperation :=
  readFromParcel parcels { uri := uris.parse [] }

theorem equals_iff {operation other : DistributedOperation} :
    operation.equals other = true ↔ operation = other := by
  cases operation
  cases other
  simp only [equals, decide_eq_true_eq, DistributedOperation.mk.injEq]

theorem equals_copyConstruct_iff {uris : UriLibrary}
    {operation : DistributedOperation}
    (huri : uris.parse operation.uri = operation.uri) :
    operation.equals (copyConstruct uris operation) = true ↔
      operation.entities = [] := by
  rw [equals_iff, copyConstruct, huri]
  cases operation
  simp

/-! ## Operations in a parcel -/

end DistributedOperation

structure OperationParcels.Carries (parcels : OperationParcels)
    (operation : DistributedOperation) : Prop where
  conversion : ∀ text ∈ [operation.abilityName, operation.action,
      operation.bundleName, operation.deviceId],
    parcels.str16ToStr8 (parcels.str8ToStr16 text) = text
  string : ∀ text ∈ [operation.abilityName, operation.action,
      operation.bundleName, operation.deviceId],
    Transfers (parcels.writeString16 (parcels.str8ToStr16 text))
      parcels.readString16 (parcels.str8ToStr16 text)
  entities : Transfers (parcels.writeStringVector operation.entities)
    parcels.readStringVector operation.entities
  flags : Transfers (parcels.writeUint32 operation.flags) parcels.readUint32
    operation.flags
  mark : ∀ mark ∈ [valueNull, valueObject],
    Transfers (parcels.writeInt32 mark) parcels.readInt32 mark
  uri : Transfers (parcels.writeUri operation.uri) parcels.readUri operation.uri

namespace DistributedOperation

section Parcel

variable {uris : UriLibrary} {parcels : OperationParcels}
  {operation : DistributedOperation}

theorem transfers_text (hcarries : parcels.Carries operation) {text : Text}
    (htext : text ∈ [operation.abilityName, operation.action,
      operation.bundleName, operation.deviceId]) :
    Transfers (writeText parcels text) (readText parcels) text := by
  have hmap := (hcarries.string text htext).map parcels.str16ToStr8
  rw [hcarries.conversion text htext] at hmap
  exact hmap

theorem transfers_uri (hcarries : parcels.Carries operation)
    {start : DistributedOperation} (hstart : start.uri = uris.parse []) :
    Transfers (writeUri uris parcels operation) (readUri parcels start)
      { start with uri := operation.uri } := by
  unfold writeUri
  split_ifs with hnull
  · have hmark := hcarries.mark valueNull (by simp)
    have hsame : { start with uri := operation.uri } = start := by
      rw [hnull, ← hstart]
    have hread : Transfers (do parcels.writeInt32 valueNull; pure ())
        (readUri parcels start) start := by
      refine hmark.bind ?_
      exact Transfers.pure start
    rw [hsame]
    simpa using hread
  · exact (hcarries.mark valueObject (by simp)).bind (hcarries.uri.map _)

theorem transfers_marshalling (uris : UriLibrary)
    (hcarries : parcels.Carries operation) :
    Transfers (marshalling uris parcels operation) (unmarshalling uris parcels)
      { operation with moduleName := [] } := by
  refine (transfers_text hcarries (by simp)).bind ?_
  refine (transfers_text hcarries (by simp)).bind ?_
  refine (transfers_text hcarries (by simp)).bind ?_
  refine (transfers_text hcarries (by simp)).bind ?_
  refine hcarries.entities.bind ?_
  refine hcarries.flags.bind ?_
  exact transfers_uri hcarries rfl

/-- What is read from the end of nothing to the end of the parcel compares equal
to what was written. -/
def Survives (uris : UriLibrary) (parcels : OperationParcels)
    (operation : DistributedOperation) : Prop :=
  ∃ parcel received,
    marshalling uris parcels operation [] = some ((), parcel) ∧
    unmarshalling uris parcels parcel 0 = some (received, parcel.length) ∧
    operation.equals received = true

theorem survives_iff (hcarries : parcels.Carries operation) :
    Survives uris parcels operation ↔ operation.moduleName = [] := by
  obtain ⟨parcel, hwrite, hread⟩ :=
    (transfers_marshalling uris hcarries).arrives
  have hmodule : operation = { operation with moduleName := [] } ↔
      operation.moduleName = [] := by
    cases operation
    simp
  rw [← hmodule, ← equals_iff]
  constructor
  · rintro ⟨_, received, hwritten, hreceived, hequals⟩
    rw [hwrite] at hwritten
    cases hwritten
    rw [hread] at hreceived
    cases hreceived
    exact hequals
  · intro hequals
    exact ⟨parcel, _, hwrite, hread, hequals⟩

end Parcel

end DistributedOperation

/-! ## Operations of wants -/

namespace WantMembers

variable {Value : Type}

def getOperation (uris : UriLibrary) (want : WantMembers Value) :
    DistributedOperation :=
  DistributedOperation.copyConstruct uris want.operation

def setOperation (want : WantMembers Value) (operation : DistributedOperation) :
    WantMembers Value :=
  { want with operation := want.operation.assign operation }

def operationEquals (want other : WantMembers Value) : Bool :=
  want.operation.equals other.operation

theorem operationEquals_setOperation_iff {uris : UriLibrary}
    {other : WantMembers Value}
    (huri : uris.parse other.operation.uri = other.operation.uri)
    (want : WantMembers Value) :
    (want.setOperation (other.getOperation uris)).operationEquals other = true ↔
      other.operation.entities = [] := by
  have hassign : (want.setOperation (other.getOperation uris)).operation =
      DistributedOperation.copyConstruct uris other.operation := rfl
  rw [← DistributedOperation.equals_copyConstruct_iff huri, operationEquals,
    hassign, DistributedOperation.equals_iff, DistributedOperation.equals_iff,
    eq_comm]

end WantMembers

/-! ## Faithful copies -/

open DistributedWantParams in
/-- When the copies of parameters, of operations and of the operation in a want
are faithful. -/
theorem copies_faithful_iff {Value : Type} {uris : UriLibrary}
    {parcels : OperationParcels} (charSigned : Bool)
    (source dest : DistributedWantParams) (want other : WantMembers Value)
    (huri : uris.parse other.operation.uri = other.operation.uri)
    (hcarries : parcels.Carries other.operation) :
    (copyConstruct charSigned source = source ↔
      Kept charSigned source ∧ source.cachedUnsupportedData = []) ∧
    (assign charSigned dest source = source ↔
      Kept charSigned source ∧
        dest.cachedUnsupportedData = source.cachedUnsupportedData) ∧
    (unbox charSigned (box charSigned source) = source ↔
      Kept charSigned source ∧ source.cachedUnsupportedData = []) ∧
    (other.operation.equals
        (DistributedOperation.copyConstruct uris other.operation) = true ↔
      other.operation.entities = []) ∧
    (other.operation.Survives uris parcels ↔
      other.operation.moduleName = []) ∧
    ((want.setOperation (other.getOperation uris)).operationEquals other = true ↔
      other.operation.entities = []) := by
  refine ⟨copyConstruct_eq_iff source, assign_eq_iff dest source, ?_,
    DistributedOperation.equals_copyConstruct_iff huri,
    DistributedOperation.survives_iff hcarries,
    WantMembers.operationEquals_setOperation_iff huri want⟩
  rw [unbox_box, copyConstruct_eq_iff]

/-! ## Copies that lose something -/

section Sample

open ByteCodec

def plainUris : UriLibrary where
  parse text := text
  parse_parse _ := rfl

def sampleOperation : DistributedOperation where
  abilityName := "main".toList
  action := "action".toList
  bundleName := "app".toList
  deviceId := "peer".toList
  entities := ["home".toList]
  flags := 3
  uri := "app:main".toList

def sampleSource : DistributedWantParams where
  params := [("bytes".toList, .wrapper (.array (.bytes [1, -1]))),
    ("nested".toList, .wantParams [("key".toList, .wrapper (.integer 7))])]

def emptyArraySource : DistributedWantParams where
  params := [("bytes".toList, .wrapper (.array (.bytes [])))]

/-- An empty array is lost with its key, and an entity is lost by the copy of its
operation. -/
theorem not_faithful_samples :
    DistributedWantParams.copyConstruct true emptyArraySource ≠
        emptyArraySource ∧
      sampleOperation.equals
        (DistributedOperation.copyConstruct plainUris sampleOperation) =
          false := by
  constructor
  · intro hsame
    have hparams : (DistributedWantParams.copyConstruct true
        emptyArraySource).params ≠ emptyArraySource.params := by decide
    exact hparams (congrArg DistributedWantParams.params hsame)
  · decide

def stringVectorImage (texts : List Text) : Bytes :=
  leBytes 4 texts.length ++ texts.flatMap textImage

def operationTexts : List U16String :=
  [sampleOperation.abilityName, sampleOperation.action,
    sampleOperation.bundleName, sampleOperation.deviceId].map asciiToStr16

def sampleOperationParcels : OperationParcels where
  str8ToStr16 := asciiToStr16
  str16ToStr8 := str16ToAscii
  writeInt32 := appendImage markImage
  readInt32 := readKnown markImage [valueNull, valueObject]
  writeUint32 := appendImage flagsImage
  readUint32 := readKnown flagsImage [sampleOperation.flags]
  writeString16 := appendImage string16Image
  readString16 := readKnown string16Image operationTexts
  writeStringVector := appendImage stringVectorImage
  readStringVector := readKnown stringVectorImage [sampleOperation.entities]
  writeUri := appendImage textImage
  readUri := readKnown textImage [sampleOperation.uri]

theorem transfers_mark {mark : Int32} (hmark : mark ∈ [valueNull, valueObject]) :
    Transfers (appendImage markImage mark)
      (readKnown markImage [valueNull, valueObject]) mark :=
  carries_sampleMembers.mark mark hmark

theorem carries_sampleOperation :
    sampleOperationParcels.Carries sampleOperation where
  conversion := by decide
  string text htext := by
    have hapart : ∀ text ∈ operationTexts, ∀ other ∈ operationTexts,
        other = text ∨ (¬ string16Image other <+: string16Image text ∧
          ¬ string16Image text <+: string16Image other) := by decide
    have hmem : asciiToStr16 text ∈ operationTexts := List.mem_map_of_mem htext
    exact transfers_known hmem (hapart _ hmem)
  entities := transfers_only _ _
  flags := transfers_only _ _
  mark _ hmark := transfers_mark hmark
  uri := transfers_only _ _

theorem copies_faithful_sampleSource :
    DistributedWantParams.copyConstruct true sampleSource = sampleSource ∧
      sampleOperation.Survives plainUris sampleOperationParcels := by
  let other : WantMembers Text := ⟨sampleOperation, ∅⟩
  have huri : plainUris.parse other.operation.uri = other.operation.uri := rfl
  have hfaithful := copies_faithful_iff true sampleSource {} ({} : WantMembers Text)
    other huri carries_sampleOperation
  have hkept : DistributedWantParams.Kept true sampleSource := by
    have hbytes : Interface.Every (DistributedWantParams.KeptNode true)
        (.wrapper (.array (.bytes [1, -1]))) := ⟨by decide, nofun⟩
    have hnested : Interface.Every (DistributedWantParams.KeptNode true)
        (.wantParams [("key".toList, .wrapper (.integer 7))]) := by decide
    intro entry hmem
    rcases List.mem_pair.mp hmem with rfl | rfl
    · exact hbytes
    · exact hnested
  exact ⟨hfaithful.1.mpr ⟨hkept, rfl⟩, hfaithful.2.2.2.2.1.mpr rfl⟩

end Sample

end Dmsfwk
