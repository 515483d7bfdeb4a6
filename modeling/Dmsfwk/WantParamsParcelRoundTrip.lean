import Dmsfwk.WantParamsParcel
import Dmsfwk.WantParamsTermination

/-!
# What arrives of parameters in a parcel

Every value that has a type behind its key is read up to where it was written,
and so the entries are read one after the other.  What breaks the order is a key
without a type, and a buffer whose padding the reader does not skip.
-/

namespace Dmsfwk

open StreamCodec SortedEntries

/-! ## Parcels -/

def paddedSize (size : ℕ) : ℕ := (size + 3) / 4 * 4

/-- What is written into a parcel is read out of it.  Buffers are padded by the
writer, not by the reader. -/
structure ParamParcels.Lawful (parcels : ParamParcels) : Prop where
  text : ∀ text, Carries (parcels.writeString16 (parcels.str8ToStr16 text))
    (do return parcels.str16ToStr8 (← DistributedWantParams.readString16 parcels))
    (some text)
  texts : ∀ texts : List Text,
    Carries (parcels.writeString16Vector (texts.map parcels.str8ToStr16))
      (do return (← parcels.readString16Vector).map parcels.str16ToStr8)
      (some texts)
  int8 : ∀ value, Carries (parcels.writeInt8 value) parcels.readInt8 (some value)
  int16 : ∀ value,
    Carries (parcels.writeInt16 value) parcels.readInt16 (some value)
  int32 : ∀ value,
    Carries (parcels.writeInt32 value) parcels.readInt32 (some value)
  int64 : ∀ value,
    Carries (parcels.writeInt64 value) parcels.readInt64 (some value)
  float : ∀ value,
    Carries (parcels.writeFloat value) parcels.readFloat (some value)
  double : ∀ value,
    Carries (parcels.writeDouble value) parcels.readDouble (some value)
  int8Vector : ∀ values,
    Carries (parcels.writeInt8Vector values) parcels.readInt8Vector (some values)
  int16Vector : ∀ values,
    Carries (parcels.writeInt16Vector values) parcels.readInt16Vector
      (some values)
  int32Vector : ∀ values,
    Carries (parcels.writeInt32Vector values) parcels.readInt32Vector
      (some values)
  int64Vector : ∀ values,
    Carries (parcels.writeInt64Vector values) parcels.readInt64Vector
      (some values)
  floatVector : ∀ values,
    Carries (parcels.writeFloatVector values) parcels.readFloatVector
      (some values)
  doubleVector : ∀ values,
    Carries (parcels.writeDoubleVector values) parcels.readDoubleVector
      (some values)
  fileDescriptor : ∀ fd, Carries (parcels.writeFileDescriptor fd)
    (DistributedWantParams.withDefault parcels.readFileDescriptor)
    (some (parcels.receivedDescriptor fd))
  remoteObject : ∀ handle, Carries (parcels.writeRemoteObject handle)
    (DistributedWantParams.withDefault parcels.readRemoteObject) (some handle)
  writeBuffer : ∀ buffer data written,
    parcels.writeBuffer buffer data = some ((), written) →
    ∃ padding, written = data ++ (buffer ++ padding) ∧
      (buffer ++ padding).length = paddedSize buffer.length
  readUnpadBuffer : ∀ size data cursor, 0 < size →
    parcels.readUnpadBuffer size data cursor =
      if cursor + size ≤ data.length then
        some ((data.drop cursor).take size, cursor + size)
      else none

/-- Integers and strings take the same space where they are written and where they
are read.  A string that cannot be converted becomes the empty one. -/
structure ParamParcels.Sized (parcels : ParamParcels)
    (stringSize : U16String → ℕ) : Prop where
  conversion : ∀ text, parcels.str8ToStr16 (parcels.str16ToStr8 text) ≠ [] →
    parcels.str8ToStr16 (parcels.str16ToStr8 text) = text
  writtenInt32 : ∀ value data written,
    parcels.writeInt32 value data = some ((), written) →
    written.length = data.length + 4
  writtenString16 : ∀ text data written,
    parcels.writeString16 text data = some ((), written) →
    written.length = data.length + stringSize text
  movedInt32 : ∀ data cursor value next,
    parcels.readInt32 data cursor = some (value, next) → next ≤ cursor + 4
  movedString16 : ∀ data cursor,
    (parcels.readString16 data cursor).2 ≤
      cursor + stringSize (parcels.readString16 data cursor).1
  stringSize_pos : ∀ text, 0 < stringSize text

theorem ParamParcels.Lawful.carries_text {parcels : ParamParcels}
    (hlawful : parcels.Lawful) {α : Type} {text : Text} {next : Writer}
    {readNext : Text → Reader α} {answer : Option α}
    (hnext : Carries next (readNext text) answer) :
    Carries (do parcels.writeString16 (parcels.str8ToStr16 text); next)
      (do
        let value ← DistributedWantParams.readString16 parcels
        readNext (parcels.str16ToStr8 value)) answer := by
  have hcarries := (hlawful.text text).bind hnext
  simpa only [bind_assoc, pure_bind] using hcarries

namespace DistributedWantParams

variable {parcels : ParamParcels} {stringSize : U16String → ℕ}
  {env : WrapperEnv} {fuel : ℕ}

/-! ## Values as they arrive -/

/-- What is set for a value, if anything; there is no answer where the reader
fails. -/
def received (parcels : ParamParcels) (env : WrapperEnv) (fuel : ℕ) :
    Interface → Option (Option Interface)
  | .wrapper (.long value) =>
      some (some (.wrapper (.string (DecimalText.ofInt value.toInt))))
  | .wrapper (.array (.longs values)) =>
      some (some (.wrapper (.array (.strings
        (values.map fun value => DecimalText.ofInt value.toInt)))))
  | .wrapper object => some (some (.wrapper object))
  | .wantParams o =>
      let value := newParams env.charSigned o []
      if typeValue value = some fdText then
        (fdOf value).map fun fd =>
          some (.wantParams (fdParams (parcels.receivedDescriptor fd)))
      else if typeValue value = some remoteObjectText then
        (remoteObjectOf value).map fun handle =>
          some (.wantParams (remoteObjectParams handle))
      else parsedText env fuel
        (DistributedWantParamWrapper.toString env.library o)
  | .null => none
  | .remoteObject _ => none

def HasType : Interface → Prop
  | .null => False
  | .remoteObject _ => False
  | _ => True

instance : DecidablePred HasType
  | .null | .remoteObject _ => .isFalse id
  | .wrapper _ | .wantParams _ => .isTrue trivial

section Values

variable {key : Text} {members : ParamMembers} {write : Writer}

theorem carries_setRead {α : Type} {read : Reader α} {value : α}
    (hcarries : Carries write read (some value)) (box : α → Interface)
    (key : Text) (members : ParamMembers) :
    Carries write (setRead read box key members)
      (some (members.setParam key (box value))) :=
  hcarries.map fun value => members.setParam key (box value)

theorem carries_setArray {type : Int32} {read : Reader ArrayValue}
    {ao : ArrayValue} (hcarries : Carries write read (some ao))
    (hread : readFromParcelParam parcels env fuel key type members = (do
      let ao ← some <$> read
      return members.setNonNull key (ao.map fun ao => .wrapper (.array ao)))) :
    Carries write (readFromParcelParam parcels env fuel key type members)
      (some (members.setParam key (.wrapper (.array ao)))) := by
  rw [hread]
  have hmap := hcarries.map fun ao =>
    members.setParam key (.wrapper (.array ao))
  simpa only [bind_map_left, Option.map_some, ParamMembers.setNonNull] using hmap

section Lawful

variable (hlawful : parcels.Lawful)

include hlawful

theorem carries_arrayString (values : List Text) :
    Carries (parcels.writeString16Vector (values.map parcels.str8ToStr16))
      (readFromParcelArrayString parcels) (some (.strings values)) := by
  have hvalues := (hlawful.texts values).map ArrayValue.strings
  simp only [bind_assoc, pure_bind] at hvalues
  exact hvalues

theorem carries_arrayBool (values : List Bool) :
    Carries (parcels.writeInt32Vector
        (values.map fun value => (int8OfBool value).toInt32))
      (readFromParcelArrayBool parcels) (some (.booleans values)) := by
  have hvalues := (hlawful.int32Vector
      (values.map fun value => (int8OfBool value).toInt32)).map fun value =>
    ArrayValue.booleans (value.map fun value => boolOfInt8 value.toInt8)
  have hback : ∀ value : Bool,
      boolOfInt8 (int8OfBool value).toInt32.toInt8 = value := by
    intro value
    cases value <;> rfl
  have hlist : (values.map fun value => (int8OfBool value).toInt32).map
      (fun value => boolOfInt8 value.toInt8) = values := by
    simp only [List.map_map, Function.comp_def, hback, List.map_id']
  rw [Option.map_some, hlist] at hvalues
  exact hvalues

theorem carries_arrayChar (values : List UInt16) :
    Carries (parcels.writeInt32Vector (values.map int32OfChar))
      (readFromParcelArrayChar parcels) (some (.chars values)) := by
  have hvalues := (hlawful.int32Vector (values.map int32OfChar)).map
    fun value => ArrayValue.chars (value.map charOfInt32)
  have hlist : (values.map int32OfChar).map charOfInt32 = values := by
    simp [Function.comp_def, charOfInt32, int32OfChar]
  rw [Option.map_some, hlist] at hvalues
  exact hvalues

theorem carries_array (array : ArrayValue) :
    Carries (writeArrayToParcel parcels array)
      (readTyped parcels env fuel key members)
      ((received parcels env fuel (.wrapper (.array array))).map
        (members.setNonNull key)) := by
  cases array with
  | booleans values =>
      exact (hlawful.int32 _).bind
        (carries_setArray (carries_arrayBool hlawful values) rfl)
  | bytes values =>
      exact (hlawful.int32 _).bind (carries_setArray
        ((hlawful.int8Vector values).map ArrayValue.bytes) rfl)
  | chars values =>
      exact (hlawful.int32 _).bind
        (carries_setArray (carries_arrayChar hlawful values) rfl)
  | shorts values =>
      exact (hlawful.int32 _).bind (carries_setArray
        ((hlawful.int16Vector values).map ArrayValue.shorts) rfl)
  | integers values =>
      exact (hlawful.int32 _).bind (carries_setArray
        ((hlawful.int32Vector values).map ArrayValue.integers) rfl)
  | longs values =>
      exact (hlawful.int32 _).bind (carries_setArray
        ((hlawful.int64Vector values).map fun value => ArrayValue.strings
          (value.map fun value => DecimalText.ofInt value.toInt)) rfl)
  | floats values =>
      exact (hlawful.int32 _).bind (carries_setArray
        ((hlawful.floatVector values).map ArrayValue.floats) rfl)
  | doubles values =>
      exact (hlawful.int32 _).bind (carries_setArray
        ((hlawful.doubleVector values).map ArrayValue.doubles) rfl)
  | strings values =>
      exact (hlawful.int32 _).bind
        (carries_setArray (carries_arrayString hlawful values) rfl)

theorem carries_wrapper (object : Wrapper) :
    Carries (writeMarshalling parcels env (.wrapper object))
      (readTyped parcels env fuel key members)
      ((received parcels env fuel (.wrapper object)).map
        (members.setNonNull key)) := by
  cases object with
  | array array => exact carries_array hlawful array
  | boolean value =>
      have hback : boolOfInt8 (int8OfBool value) = value := by
        cases value <;> rfl
      have hset := carries_setRead (hlawful.int8 (int8OfBool value))
        (fun value => .wrapper (.boolean (boolOfInt8 value))) key members
      rw [hback] at hset
      exact (hlawful.int32 _).bind hset
  | byte value =>
      exact (hlawful.int32 _).bind (carries_setRead (hlawful.int8 value) _ _ _)
  | char value =>
      have hback : charOfInt32 (int32OfChar value) = value := by
        simp [charOfInt32, int32OfChar]
      have hset := carries_setRead (hlawful.int32 (int32OfChar value))
        (fun value => .wrapper (.char (charOfInt32 value))) key members
      rw [hback] at hset
      exact (hlawful.int32 _).bind hset
  | short value =>
      exact (hlawful.int32 _).bind (carries_setRead (hlawful.int16 value) _ _ _)
  | integer value =>
      exact (hlawful.int32 _).bind (carries_setRead (hlawful.int32 value) _ _ _)
  | long value =>
      exact (hlawful.int32 _).bind (carries_setRead (hlawful.int64 value) _ _ _)
  | float value =>
      exact (hlawful.int32 _).bind (carries_setRead (hlawful.float value) _ _ _)
  | double value =>
      exact (hlawful.int32 _).bind (carries_setRead (hlawful.double value) _ _ _)
  | string value =>
      have hset := (hlawful.text value).map fun value =>
        members.setParam key (.wrapper (.string value))
      simp only [bind_assoc, pure_bind] at hset
      exact (hlawful.int32 _).bind hset

theorem carries_nestedText (text : Text) :
    Carries (parcels.writeString16 (parcels.str8ToStr16 text))
      (readFromParcelWantParamWrapper parcels env fuel key valueTypeWantParams
        members) ((parsedText env fuel text).map (members.setNonNull key)) := by
  have hanswer : ∀ answer, Carries (pure ()) (setParsed key members answer)
      (answer.map (members.setNonNull key)) := by
    intro answer
    cases answer with
    | some intf => exact carries_pure _
    | none =>
        intro data written hwritten
        obtain ⟨image, himage, -⟩ := carries_pure () data written hwritten
        exact ⟨image, himage, fun _ => rfl⟩
  have hcarries := @Carries.bind _ _ _ _ _
    (fun text => setParsed key members (parsedText env fuel text)) _ _
    (hlawful.text text) (hanswer _)
  rw [bind_pure_unit, bind_assoc] at hcarries
  exact hcarries

theorem carries_wantParams (o : ParamMap) :
    Carries (writeMarshalling parcels env (.wantParams o))
      (readTyped parcels env fuel key members)
      ((received parcels env fuel (.wantParams o)).map
        (members.setNonNull key)) := by
  simp only [writeMarshalling, writeToParcelWantParams, received]
  split_ifs with hfd hremote
  · refine (hlawful.int32 _).bind ?_
    cases fdOf (newParams env.charSigned o []) with
    | some fd => exact carries_setRead (hlawful.fileDescriptor fd) _ _ _
    | none => exact carries_refused _ _
  · refine (hlawful.int32 _).bind ?_
    cases remoteObjectOf (newParams env.charSigned o []) with
    | some handle => exact carries_setRead (hlawful.remoteObject handle) _ _ _
    | none => exact carries_refused _ _
  · exact (hlawful.int32 _).bind (carries_nestedText hlawful _)

theorem carries_value {o : Interface} (htype : HasType o) :
    Carries (writeMarshalling parcels env o)
      (readTyped parcels env fuel key members)
      ((received parcels env fuel o).map (members.setNonNull key)) := by
  cases o with
  | wrapper object => exact carries_wrapper hlawful object
  | wantParams params => exact carries_wantParams hlawful params
  | null => exact htype.elim
  | remoteObject handle => exact htype.elim

theorem carries_param {o : Interface} (htype : HasType o) :
    Carries (writeParam parcels env key o) (readParam parcels env fuel members)
      ((received parcels env fuel o).map (members.setNonNull key)) :=
  @ParamParcels.Lawful.carries_text _ hlawful _ _ _
    (fun key => readTyped parcels env fuel key members) _
    (carries_value hlawful htype)

end Lawful

end Values

/-! ## The entries one after the other -/

def receivedParams (parcels : ParamParcels) (env : WrapperEnv) (fuel : ℕ) :
    ParamMap → ParamMembers → Option ParamMembers
  | [], members => some members
  | (key, o) :: params, members =>
      (received parcels env fuel o).bind fun intf =>
        receivedParams parcels env fuel params (members.setNonNull key intf)

instance : Nonempty ParamMembers := ⟨{}⟩

theorem carries_params (hlawful : parcels.Lawful) {params : ParamMap}
    (htypes : ∀ entry ∈ params, HasType entry.2) (members : ParamMembers) :
    Carries (writeParams parcels env params)
      (readParams parcels env fuel params.length members)
      (receivedParams parcels env fuel params members) := by
  induction params generalizing members with
  | nil => exact carries_pure members
  | cons entry params ih =>
      obtain ⟨key, o⟩ := entry
      obtain ⟨htype, hrest⟩ := List.forall_mem_cons.mp htypes
      have hfirst : Carries (writeParam parcels env key o)
          (readParam parcels env fuel members) _ := carries_param hlawful htype
      have hcarries := hfirst.andThen fun members => ih hrest members
      rw [Option.bind_map] at hcarries
      exact hcarries

theorem readParams_add (count more : ℕ) (members : ParamMembers) :
    readParams parcels env fuel (count + more) members = (do
      let members ← readParams parcels env fuel count members
      readParams parcels env fuel more members) := by
  induction count generalizing members with
  | zero => rw [Nat.zero_add, readParams, pure_bind]
  | succ count ih =>
      rw [Nat.succ_add, readParams, readParams, bind_assoc]
      congr 1
      funext members
      exact ih members

/-! ## The space of the entries -/

/-- Entries kept as bytes as `ReadUnsupportedData` makes them. -/
structure AsRead (parcels : ParamParcels) (dData : DistributedUnsupportedData) :
    Prop where
  key : ∃ text, dData.key = parcels.str8ToStr16 text
  type : unsupportedTypes.contains dData.type = true
  size_pos : 0 < dData.buffer.length
  size_le : dData.buffer.length ≤ 100 * 1024 * 1024

def unsupportedSize (stringSize : U16String → ℕ) (size : ℕ → ℕ)
    (dData : DistributedUnsupportedData) : ℕ :=
  stringSize dData.key + 12 + size dData.buffer.length

variable {cached : List DistributedUnsupportedData}

section Space

variable {data written : List UInt8}

theorem length_writeUnsupportedData (hlawful : parcels.Lawful)
    (hsized : parcels.Sized stringSize) {dData : DistributedUnsupportedData}
    (hwritten : writeUnsupportedData parcels dData data = some ((), written)) :
    written.length =
      data.length + unsupportedSize stringSize paddedSize dData := by
  obtain ⟨behindKey, hkey, hwritten⟩ := bind_eq_some hwritten
  obtain ⟨behindType, htype, hwritten⟩ := bind_eq_some hwritten
  obtain ⟨behindSize, hsize, hwritten⟩ := bind_eq_some hwritten
  obtain ⟨behindLength, hlength, hbuffer⟩ := bind_eq_some hwritten
  obtain ⟨padding, rfl, hpadded⟩ := hlawful.writeBuffer _ _ _ hbuffer
  have hkey := hsized.writtenString16 _ _ _ hkey
  have htype := hsized.writtenInt32 _ _ _ htype
  have hsize := hsized.writtenInt32 _ _ _ hsize
  have hlength := hsized.writtenInt32 _ _ _ hlength
  rw [List.length_append, hpadded, unsupportedSize]
  omega

theorem length_writeCachedUnsupportedData (hlawful : parcels.Lawful)
    (hsized : parcels.Sized stringSize)
    (hwritten : writeCachedUnsupportedData parcels cached data =
      some ((), written)) :
    written.length = data.length +
      (cached.map (unsupportedSize stringSize paddedSize)).sum := by
  induction cached generalizing data with
  | nil =>
      cases hwritten
      rfl
  | cons dData cached ih =>
      obtain ⟨middle, hfirst, hrest⟩ := bind_eq_some hwritten
      rw [ih hrest, length_writeUnsupportedData hlawful hsized hfirst,
        List.map_cons, List.sum_cons]
      omega

theorem length_le_writeParams (hlawful : parcels.Lawful)
    (hsized : parcels.Sized stringSize) {params : ParamMap}
    (htypes : ∀ entry ∈ params, HasType entry.2)
    (hwritten : writeParams parcels env params data = some ((), written)) :
    data.length + params.length ≤ written.length := by
  induction params generalizing data with
  | nil =>
      cases hwritten
      rfl
  | cons entry params ih =>
      obtain ⟨key, o⟩ := entry
      obtain ⟨htype, htypes⟩ := List.forall_mem_cons.mp htypes
      obtain ⟨middle, hfirst, hrest⟩ := bind_eq_some hwritten
      obtain ⟨behindKey, hkey, hvalue⟩ := bind_eq_some hfirst
      have hkey := hsized.writtenString16 _ _ _ hkey
      have hpos := hsized.stringSize_pos (parcels.str8ToStr16 key)
      have hcarries : Carries (writeMarshalling parcels env o)
          (readTyped parcels env 0 key {}) _ := carries_value hlawful htype
      obtain ⟨image, rfl, -⟩ := hcarries _ _ hvalue
      have hle := ih htypes hrest
      rw [List.length_append] at hle
      rw [List.length_cons]
      omega

theorem append_writeUnsupportedData (hlawful : parcels.Lawful)
    {dData : DistributedUnsupportedData} (hread : AsRead parcels dData)
    (hwritten : writeUnsupportedData parcels dData data = some ((), written)) :
    ∃ image, written = data ++ image := by
  obtain ⟨text, htext⟩ := hread.key
  obtain ⟨behindKey, hkey, hwritten⟩ := bind_eq_some hwritten
  obtain ⟨behindType, htype, hwritten⟩ := bind_eq_some hwritten
  obtain ⟨behindSize, hsize, hwritten⟩ := bind_eq_some hwritten
  obtain ⟨behindLength, hlength, hbuffer⟩ := bind_eq_some hwritten
  rw [htext] at hkey
  obtain ⟨keyImage, rfl, -⟩ := hlawful.text _ _ _ hkey
  obtain ⟨typeImage, rfl, -⟩ := hlawful.int32 _ _ _ htype
  obtain ⟨sizeImage, rfl, -⟩ := hlawful.int32 _ _ _ hsize
  obtain ⟨lengthImage, rfl, -⟩ := hlawful.int32 _ _ _ hlength
  obtain ⟨padding, rfl, -⟩ := hlawful.writeBuffer _ _ _ hbuffer
  simp only [List.append_assoc]
  exact ⟨_, rfl⟩

theorem append_writeCachedUnsupportedData (hlawful : parcels.Lawful)
    (hread : ∀ dData ∈ cached, AsRead parcels dData)
    (hwritten : writeCachedUnsupportedData parcels cached data =
      some ((), written)) : ∃ image, written = data ++ image := by
  induction cached generalizing data with
  | nil =>
      cases hwritten
      exact ⟨[], (List.append_nil _).symm⟩
  | cons dData cached ih =>
      obtain ⟨hfirstRead, hread⟩ := List.forall_mem_cons.mp hread
      obtain ⟨middle, hfirst, hrest⟩ := bind_eq_some hwritten
      obtain ⟨image, rfl⟩ :=
        append_writeUnsupportedData hlawful hfirstRead hfirst
      obtain ⟨restImage, rfl⟩ := ih hread hrest
      exact ⟨image ++ restImage, List.append_assoc _ _ _⟩

theorem length_le_sum_unsupportedSize (stringSize : U16String → ℕ)
    (cached : List DistributedUnsupportedData) :
    cached.length ≤
      (cached.map (unsupportedSize stringSize paddedSize)).sum := by
  have hone : ∀ size ∈ cached.map (unsupportedSize stringSize paddedSize),
      1 ≤ size := by
    intro size hmem
    obtain ⟨dData, -, rfl⟩ := List.mem_map.mp hmem
    unfold unsupportedSize
    omega
  have hle := List.length_le_sum_of_one_le _ hone
  rwa [List.length_map] at hle

end Space

/-- The reader of written parameters is where the entries that are kept as bytes
begin, with what it made of the others. -/
theorem unmarshalling_eq (hlawful : parcels.Lawful)
    (hsized : parcels.Sized stringSize) {wantParams : DistributedWantParams}
    {front written : List UInt8}
    (hread : ∀ dData ∈ wantParams.cachedUnsupportedData, AsRead parcels dData)
    (htypes : ∀ entry ∈ wantParams.params, HasType entry.2)
    (hwritten : marshalling parcels env wantParams front = some ((), written)) :
    ∃ middle, writeCachedUnsupportedData parcels
        wantParams.cachedUnsupportedData middle = some ((), written) ∧
      ∀ fuel rest, (written ++ rest).length < 2 ^ 31 →
        unmarshalling parcels env fuel (written ++ rest) front.length =
          (receivedParams parcels env fuel wantParams.params {}).bind
            fun members => readParams parcels env fuel
              wantParams.cachedUnsupportedData.length members (written ++ rest)
              middle.length := by
  obtain ⟨behindSize, hdSize, hentries⟩ := bind_eq_some hwritten
  obtain ⟨middle, hparams, hcached⟩ := bind_eq_some hentries
  refine ⟨middle, hcached, ?_⟩
  intro fuel rest hfits
  have hlength := length_le_writeParams hlawful hsized htypes hparams
  have hlengthCached :=
    length_writeCachedUnsupportedData hlawful hsized hcached
  have hcount := length_le_sum_unsupportedSize stringSize
    wantParams.cachedUnsupportedData
  obtain ⟨sizeImage, rfl, hreadSize⟩ := hlawful.int32 _ _ _ hdSize
  have hcarries : Carries (writeParams parcels env wantParams.params)
      (readParams parcels env fuel _ {}) _ := carries_params hlawful htypes {}
  obtain ⟨image, rfl, hreadParams⟩ := hcarries _ _ hparams
  obtain ⟨cachedImage, rfl⟩ :=
    append_writeCachedUnsupportedData hlawful hread hcached
  have hsmall : wantParams.params.length +
      wantParams.cachedUnsupportedData.length < 2 ^ 31 := by
    rw [List.length_append] at hfits
    omega
  have hint : wantParams.dSize.toInt.toNat = wantParams.params.length +
      wantParams.cachedUnsupportedData.length := by
    rw [dSize, Int32.toInt_ofNat_of_lt hsmall, Int.toNat_natCast]
  have hguard : ¬ Int32.ofNat
      (front ++ sizeImage ++ image ++ cachedImage ++ rest).length <
        wantParams.dSize := by
    rw [dSize, Int32.lt_iff_toInt_lt, Int32.toInt_ofNat_of_lt hfits,
      Int32.toInt_ofNat_of_lt hsmall]
    rw [List.length_append] at hfits ⊢
    omega
  change (parcels.readInt32 _ front.length).bind (fun taken =>
    (if Int32.ofNat (front ++ sizeImage ++ image ++ cachedImage ++ rest).length <
        taken.1 then failure
      else readParams parcels env fuel taken.1.toInt.toNat {}) _ taken.2) = _
  have hbytes : front ++ sizeImage ++ image ++ cachedImage ++ rest =
      front ++ sizeImage ++ (image ++ cachedImage ++ rest) := by
    simp only [List.append_assoc]
  have hbytesParams : front ++ sizeImage ++ image ++ cachedImage ++ rest =
      front ++ sizeImage ++ image ++ (cachedImage ++ rest) := by
    simp only [List.append_assoc]
  have hrunSize := hreadSize (image ++ cachedImage ++ rest)
  rw [← hbytes, Option.map_some] at hrunSize
  have hrunParams := hreadParams (cachedImage ++ rest)
  rw [← hbytesParams] at hrunParams
  rw [hrunSize, Option.bind_some, if_neg hguard, hint, readParams_add]
  change (readParams _ _ _ _ _ _ _).bind (fun taken =>
    readParams parcels env fuel _ taken.1 _ taken.2) = _
  rw [hrunParams]
  cases receivedParams parcels env fuel wantParams.params {} <;> rfl

/-! ## Entries that are kept as bytes -/

theorem readFromParcelParam_unsupported {type : Int32}
    (htype : unsupportedTypes.contains type = true) (key : Text)
    (members : ParamMembers) :
    readFromParcelParam parcels env fuel key type members =
      readUnsupportedData parcels key type members := by
  simp only [unsupportedTypes, List.contains_iff_mem, List.mem_cons,
    List.not_mem_nil, or_false] at htype
  rcases htype with rfl | rfl | rfl | rfl <;> rfl

section Unsupported

variable {key : Text} {type : Int32} {members result : ParamMembers}
  {dData : DistributedUnsupportedData} {data : List UInt8} {cursor next : ℕ}

theorem AsRead.toInt_size (hread : AsRead parcels dData) :
    dData.size.toInt = dData.buffer.length := by
  have hle := hread.size_le
  exact Int32.toInt_ofNat_of_lt (by omega)

theorem carries_buffer (hlawful : parcels.Lawful) {buffer : List UInt8}
    (hpos : 0 < buffer.length) (haligned : buffer.length % 4 = 0) :
    Carries (parcels.writeBuffer buffer) (parcels.readUnpadBuffer buffer.length)
      (some buffer) := by
  intro data written hwritten
  obtain ⟨padding, rfl, hpadded⟩ := hlawful.writeBuffer _ _ _ hwritten
  have hpadding : padding = [] := by
    rw [List.length_append, paddedSize] at hpadded
    exact List.length_eq_zero_iff.mp (by omega)
  subst padding
  refine ⟨buffer ++ [], rfl, ?_⟩
  intro rest
  have hfits : data.length + buffer.length ≤
      (data ++ (buffer ++ []) ++ rest).length := by
    simp only [List.length_append]
    omega
  rw [hlawful.readUnpadBuffer _ _ _ hpos, if_pos hfits]
  simp

theorem carries_unsupportedData (hlawful : parcels.Lawful)
    (hread : AsRead parcels dData) (haligned : dData.buffer.length % 4 = 0)
    (members : ParamMembers) :
    Carries (writeUnsupportedData parcels dData)
      (readParam parcels env fuel members) (some (members.emplaceBack dData)) := by
  obtain ⟨text, htext⟩ := hread.key
  have hsize := hread.toInt_size
  have hrange : ¬ (dData.size < 0 ∨ maxAllowedSize < dData.size) := by
    have hle := hread.size_le
    have hmax : maxAllowedSize.toInt = 100 * 1024 * 1024 := rfl
    simp only [Int32.lt_iff_toInt_lt, hsize, hmax, Int32.toInt_zero]
    omega
  have hnonzero : dData.size ≠ 0 := by
    intro hzero
    rw [hzero, Int32.toInt_zero] at hsize
    have hpos := hread.size_pos
    omega
  have hbuffer := (carries_buffer hlawful hread.size_pos haligned).map
    fun buffer => members.emplaceBack { dData with buffer }
  rw [writeUnsupportedData, htext]
  apply @ParamParcels.Lawful.carries_text _ hlawful _ _ _
    (fun key => readTyped parcels env fuel key members)
  refine (hlawful.int32 _).bind ?_
  rw [readFromParcelParam_unsupported hread.type]
  refine (hlawful.int32 _).bind ?_
  rw [if_neg hrange]
  refine (hlawful.int32 _).bind ?_
  rw [hsize, Int.toNat_natCast]
  simp only [if_neg hnonzero, ← htext]
  exact hbuffer

theorem carries_cachedUnsupportedData (hlawful : parcels.Lawful)
    (hread : ∀ dData ∈ cached, AsRead parcels dData)
    (haligned : ∀ dData ∈ cached, dData.buffer.length % 4 = 0)
    (members : ParamMembers) :
    Carries (writeCachedUnsupportedData parcels cached)
      (readParams parcels env fuel cached.length members)
      (some { members with
        cachedUnsupportedData := members.cachedUnsupportedData ++ cached }) := by
  induction cached generalizing members with
  | nil =>
      rw [List.append_nil]
      exact carries_pure members
  | cons dData cached ih =>
      obtain ⟨hreadFirst, hread⟩ := List.forall_mem_cons.mp hread
      obtain ⟨halignedFirst, haligned⟩ := List.forall_mem_cons.mp haligned
      have hrest := ih hread haligned (members.emplaceBack dData)
      rw [ParamMembers.emplaceBack, List.append_assoc] at hrest
      exact (carries_unsupportedData hlawful hreadFirst halignedFirst members).bind
        hrest

end Unsupported

end DistributedWantParams

end Dmsfwk
