import Dmsfwk.DistributedWantParamWrapper

/-!
# Parameters in a parcel

`Marshalling` of `DistributedWantParams` writes each key in front of the type and
the value, `Unmarshalling` reads as many of them as the parcel announces.  The
writer picks the type by the class of a value, the reader the branch by the type.
Entries of types that only Java knows are kept as the bytes they came as.
-/

namespace Dmsfwk

open StreamCodec SortedEntries

/-- `Parcel` and `MessageParcel` of the system libraries, with the conversion of
strings.  The reads that cannot fail answer a default where there is nothing to
read.  A file descriptor arrives under a number of the receiver. -/
structure ParamParcels where
  str8ToStr16 : Text → U16String
  str16ToStr8 : U16String → Text
  writeInt8 : Int8 → Writer
  readInt8 : Reader Int8
  writeInt16 : Int16 → Writer
  readInt16 : Reader Int16
  writeInt32 : Int32 → Writer
  readInt32 : Reader Int32
  writeInt64 : Int64 → Writer
  readInt64 : Reader Int64
  writeFloat : UInt32 → Writer
  readFloat : Reader UInt32
  writeDouble : UInt64 → Writer
  readDouble : Reader UInt64
  writeString16 : U16String → Writer
  readString16 : List UInt8 → ℕ → U16String × ℕ
  writeInt8Vector : List Int8 → Writer
  readInt8Vector : Reader (List Int8)
  writeInt16Vector : List Int16 → Writer
  readInt16Vector : Reader (List Int16)
  writeInt32Vector : List Int32 → Writer
  readInt32Vector : Reader (List Int32)
  writeInt64Vector : List Int64 → Writer
  readInt64Vector : Reader (List Int64)
  writeFloatVector : List UInt32 → Writer
  readFloatVector : Reader (List UInt32)
  writeDoubleVector : List UInt64 → Writer
  readDoubleVector : Reader (List UInt64)
  writeString16Vector : List U16String → Writer
  readString16Vector : Reader (List U16String)
  writeFileDescriptor : Int32 → Writer
  readFileDescriptor : List UInt8 → ℕ → Int32 × ℕ
  receivedDescriptor : Int32 → Int32
  writeRemoteObject : ℕ → Writer
  readRemoteObject : List UInt8 → ℕ → ℕ × ℕ
  writeBuffer : List UInt8 → Writer
  readUnpadBuffer : ℕ → Reader (List UInt8)

/-- The member `size`. -/
def DistributedUnsupportedData.size (dData : DistributedUnsupportedData) :
    Int32 :=
  Int32.ofNat dData.buffer.length

structure ParamMembers where
  params : ParamMap := []
  cachedUnsupportedData : List DistributedUnsupportedData := []
  deriving DecidableEq, Repr

def ParamMembers.setParam (members : ParamMembers) (key : Text)
    (value : Interface) : ParamMembers :=
  { members with params := insert key value members.params }

def ParamMembers.emplaceBack (members : ParamMembers)
    (dData : DistributedUnsupportedData) : ParamMembers :=
  { members with
    cachedUnsupportedData := members.cachedUnsupportedData ++ [dData] }

def ParamMembers.setNonNull (members : ParamMembers) (key : Text) :
    Option Interface → ParamMembers
  | some intf => members.setParam key intf
  | none => members

namespace DistributedWantParams

def valueTypeBoolean : Int32 := 1
def valueTypeByte : Int32 := 2
def valueTypeChar : Int32 := 3
def valueTypeShort : Int32 := 4
def valueTypeInt : Int32 := 5
def valueTypeLong : Int32 := 6
def valueTypeFloat : Int32 := 7
def valueTypeDouble : Int32 := 8
def valueTypeString : Int32 := 9
def valueTypeCharsequence : Int32 := 10
def valueTypeBooleanarray : Int32 := 11
def valueTypeBytearray : Int32 := 12
def valueTypeChararray : Int32 := 13
def valueTypeShortarray : Int32 := 14
def valueTypeIntarray : Int32 := 15
def valueTypeLongarray : Int32 := 16
def valueTypeFloatarray : Int32 := 17
def valueTypeDoublearray : Int32 := 18
def valueTypeStringarray : Int32 := 19
def valueTypeCharsequencearray : Int32 := 20
def valueTypeParcelable : Int32 := 21
def valueTypeParcelablearray : Int32 := 22
def valueTypeSerializable : Int32 := 23
def valueTypeList : Int32 := 50
def valueTypeFd : Int32 := 103
def valueTypeRemoteObject : Int32 := 104

def fdText : Text := "FD".toList
def remoteObjectText : Text := "RemoteObject".toList
def typeProperty : Text := "type".toList
def valueProperty : Text := "value".toList

/-! ## Writing scalars -/

section Write

variable (parcels : ParamParcels)

def writeTyped (type : Int32) (write : Writer) : Writer := do
  parcels.writeInt32 type
  write

def int8OfBool (value : Bool) : Int8 := if value then 1 else 0

def int32OfChar (value : UInt16) : Int32 := value.toUInt32.toInt32

def writeToParcelString (value : Text) : Writer :=
  writeTyped parcels valueTypeString
    (parcels.writeString16 (parcels.str8ToStr16 value))

def writeToParcelBool (value : Bool) : Writer :=
  writeTyped parcels valueTypeBoolean (parcels.writeInt8 (int8OfBool value))

def writeToParcelByte (value : Int8) : Writer :=
  writeTyped parcels valueTypeByte (parcels.writeInt8 value)

def writeToParcelChar (value : UInt16) : Writer :=
  writeTyped parcels valueTypeChar (parcels.writeInt32 (int32OfChar value))

def writeToParcelShort (value : Int16) : Writer :=
  writeTyped parcels valueTypeShort (parcels.writeInt16 value)

def writeToParcelInt (value : Int32) : Writer :=
  writeTyped parcels valueTypeInt (parcels.writeInt32 value)

def writeToParcelLong (value : Int64) : Writer :=
  writeTyped parcels valueTypeLong (parcels.writeInt64 value)

def writeToParcelFloat (value : UInt32) : Writer :=
  writeTyped parcels valueTypeFloat (parcels.writeFloat value)

def writeToParcelDouble (value : UInt64) : Writer :=
  writeTyped parcels valueTypeDouble (parcels.writeDouble value)

/-! ## Writing arrays -/

def writeArrayToParcelString (array : List Text) : Writer :=
  writeTyped parcels valueTypeStringarray
    (parcels.writeString16Vector (array.map parcels.str8ToStr16))

def writeArrayToParcelBool (array : List Bool) : Writer :=
  writeTyped parcels valueTypeBooleanarray
    (parcels.writeInt32Vector (array.map fun value => (int8OfBool value).toInt32))

def writeArrayToParcelByte (array : List Int8) : Writer :=
  writeTyped parcels valueTypeBytearray (parcels.writeInt8Vector array)

def writeArrayToParcelChar (array : List UInt16) : Writer :=
  writeTyped parcels valueTypeChararray
    (parcels.writeInt32Vector (array.map int32OfChar))

def writeArrayToParcelShort (array : List Int16) : Writer :=
  writeTyped parcels valueTypeShortarray (parcels.writeInt16Vector array)

def writeArrayToParcelInt (array : List Int32) : Writer :=
  writeTyped parcels valueTypeIntarray (parcels.writeInt32Vector array)

def writeArrayToParcelLong (array : List Int64) : Writer :=
  writeTyped parcels valueTypeLongarray (parcels.writeInt64Vector array)

def writeArrayToParcelFloat (array : List UInt32) : Writer :=
  writeTyped parcels valueTypeFloatarray (parcels.writeFloatVector array)

def writeArrayToParcelDouble (array : List UInt64) : Writer :=
  writeTyped parcels valueTypeDoublearray (parcels.writeDoubleVector array)

def writeArrayToParcel : ArrayValue → Writer
  | .strings array => writeArrayToParcelString parcels array
  | .booleans array => writeArrayToParcelBool parcels array
  | .bytes array => writeArrayToParcelByte parcels array
  | .chars array => writeArrayToParcelChar parcels array
  | .shorts array => writeArrayToParcelShort parcels array
  | .integers array => writeArrayToParcelInt parcels array
  | .longs array => writeArrayToParcelLong parcels array
  | .floats array => writeArrayToParcelFloat parcels array
  | .doubles array => writeArrayToParcelDouble parcels array

/-! ## Writing nested parameters -/

def refuse : Writer := fun _ => none

def fdOf (value : ParamMap) : Option Int32 :=
  match lookup valueProperty value with
  | some (.wrapper (.integer fd)) => some fd
  | _ => none

def writeToParcelFD (value : ParamMap) : Writer :=
  writeTyped parcels valueTypeFd
    (match fdOf value with
    | some fd => parcels.writeFileDescriptor fd
    | none => refuse)

def remoteObjectOf (value : ParamMap) : Option ℕ :=
  match lookup valueProperty value with
  | some (.remoteObject handle) => some handle
  | _ => none

def writeToParcelRemoteObject (value : ParamMap) : Writer :=
  writeTyped parcels valueTypeRemoteObject
    (match remoteObjectOf value with
    | some handle => parcels.writeRemoteObject handle
    | none => refuse)

def typeValue (value : ParamMap) : Option Text :=
  match lookup typeProperty value with
  | some (.wrapper (.string text)) => some text
  | _ => none

/-- `Unbox` copies the parameters; the text is the one of the wrapper itself. -/
def writeToParcelWantParams (env : WrapperEnv) (o : ParamMap) : Writer :=
  let value := newParams env.charSigned o []
  if typeValue value = some fdText then writeToParcelFD parcels value
  else if typeValue value = some remoteObjectText then
    writeToParcelRemoteObject parcels value
  else
    writeTyped parcels valueTypeWantParams
      (parcels.writeString16 (parcels.str8ToStr16
        (DistributedWantParamWrapper.toString env.library o)))

/-! ## Marshalling -/

def writeMarshalling (env : WrapperEnv) : Interface → Writer
  | .wrapper (.string value) => writeToParcelString parcels value
  | .wrapper (.boolean value) => writeToParcelBool parcels value
  | .wrapper (.byte value) => writeToParcelByte parcels value
  | .wrapper (.char value) => writeToParcelChar parcels value
  | .wrapper (.short value) => writeToParcelShort parcels value
  | .wrapper (.integer value) => writeToParcelInt parcels value
  | .wrapper (.long value) => writeToParcelLong parcels value
  | .wrapper (.float value) => writeToParcelFloat parcels value
  | .wrapper (.double value) => writeToParcelDouble parcels value
  | .wantParams o => writeToParcelWantParams parcels env o
  | .wrapper (.array array) => writeArrayToParcel parcels array
  | .null => pure ()
  | .remoteObject _ => pure ()

def writeParam (env : WrapperEnv) (key : Text) (o : Interface) : Writer := do
  parcels.writeString16 (parcels.str8ToStr16 key)
  writeMarshalling parcels env o

def writeParams (env : WrapperEnv) : ParamMap → Writer
  | [] => pure ()
  | (key, o) :: params => do
      writeParam parcels env key o
      writeParams env params

def writeUnsupportedData (dData : DistributedUnsupportedData) : Writer := do
  parcels.writeString16 dData.key
  parcels.writeInt32 dData.type
  parcels.writeInt32 dData.size
  parcels.writeInt32 dData.size
  parcels.writeBuffer dData.buffer

def writeCachedUnsupportedData :
    List DistributedUnsupportedData → Writer
  | [] => pure ()
  | dData :: cached => do
      writeUnsupportedData parcels dData
      writeCachedUnsupportedData cached

def dSize (wantParams : DistributedWantParams) : Int32 :=
  Int32.ofNat (wantParams.params.length +
    wantParams.cachedUnsupportedData.length)

def doMarshalling (env : WrapperEnv) (wantParams : DistributedWantParams) :
    Writer := do
  parcels.writeInt32 wantParams.dSize
  writeParams parcels env wantParams.params
  writeCachedUnsupportedData parcels wantParams.cachedUnsupportedData

def marshalling (env : WrapperEnv) (wantParams : DistributedWantParams) :
    Writer :=
  doMarshalling parcels env wantParams

/-! ## Reading arrays -/

def withDefault {α : Type} (read : List UInt8 → ℕ → α × ℕ) : Reader α :=
  fun data cursor => some (read data cursor)

def readString16 : Reader U16String := withDefault parcels.readString16

def boolOfInt8 (value : Int8) : Bool := value ≠ 0

def charOfInt32 (value : Int32) : UInt16 := value.toUInt32.toUInt16

def readFromParcelArrayString : Reader ArrayValue := do
  let value ← parcels.readString16Vector
  return .strings (value.map parcels.str16ToStr8)

def readFromParcelArrayBool : Reader ArrayValue := do
  let value ← parcels.readInt32Vector
  return .booleans (value.map fun value => boolOfInt8 value.toInt8)

def readFromParcelArrayByte : Reader ArrayValue := do
  return .bytes (← parcels.readInt8Vector)

def readFromParcelArrayChar : Reader ArrayValue := do
  let value ← parcels.readInt32Vector
  return .chars (value.map charOfInt32)

def readFromParcelArrayShort : Reader ArrayValue := do
  return .shorts (← parcels.readInt16Vector)

def readFromParcelArrayInt : Reader ArrayValue := do
  return .integers (← parcels.readInt32Vector)

def readFromParcelArrayLong : Reader ArrayValue := do
  let value ← parcels.readInt64Vector
  return .strings (value.map fun value => DecimalText.ofInt value.toInt)

def readFromParcelArrayFloat : Reader ArrayValue := do
  return .floats (← parcels.readFloatVector)

def readFromParcelArrayDouble : Reader ArrayValue := do
  return .doubles (← parcels.readDoubleVector)

def readArrayToParcel (type : Int32) : Reader (Option ArrayValue) :=
  if type = valueTypeStringarray ∨ type = valueTypeCharsequencearray then
    some <$> readFromParcelArrayString parcels
  else if type = valueTypeBooleanarray then
    some <$> readFromParcelArrayBool parcels
  else if type = valueTypeBytearray then
    some <$> readFromParcelArrayByte parcels
  else if type = valueTypeChararray then
    some <$> readFromParcelArrayChar parcels
  else if type = valueTypeShortarray then
    some <$> readFromParcelArrayShort parcels
  else if type = valueTypeIntarray then
    some <$> readFromParcelArrayInt parcels
  else if type = valueTypeLongarray then
    some <$> readFromParcelArrayLong parcels
  else if type = valueTypeFloatarray then
    some <$> readFromParcelArrayFloat parcels
  else if type = valueTypeDoublearray then
    some <$> readFromParcelArrayDouble parcels
  else pure none

/-! ## Reading scalars -/

def setRead {α : Type} (read : Reader α) (box : α → Interface) (key : Text)
    (members : ParamMembers) : Reader ParamMembers := do
  let value ← read
  return members.setParam key (box value)

def readFromParcelString : Text → ParamMembers → Reader ParamMembers :=
  setRead (readString16 parcels) fun value =>
    .wrapper (.string (parcels.str16ToStr8 value))

def readFromParcelBool : Text → ParamMembers → Reader ParamMembers :=
  setRead parcels.readInt8 fun value => .wrapper (.boolean (boolOfInt8 value))

def readFromParcelInt8 : Text → ParamMembers → Reader ParamMembers :=
  setRead parcels.readInt8 fun value => .wrapper (.byte value)

def readFromParcelChar : Text → ParamMembers → Reader ParamMembers :=
  setRead parcels.readInt32 fun value => .wrapper (.char (charOfInt32 value))

def readFromParcelShort : Text → ParamMembers → Reader ParamMembers :=
  setRead parcels.readInt16 fun value => .wrapper (.short value)

def readFromParcelInt : Text → ParamMembers → Reader ParamMembers :=
  setRead parcels.readInt32 fun value => .wrapper (.integer value)

def readFromParcelLong : Text → ParamMembers → Reader ParamMembers :=
  setRead parcels.readInt64 fun value =>
    .wrapper (.string (DecimalText.ofInt value.toInt))

def readFromParcelFloat : Text → ParamMembers → Reader ParamMembers :=
  setRead parcels.readFloat fun value => .wrapper (.float value)

def readFromParcelDouble : Text → ParamMembers → Reader ParamMembers :=
  setRead parcels.readDouble fun value => .wrapper (.double value)

/-! ## Reading nested parameters -/

def fdParams (fd : Int32) : ParamMap :=
  [(typeProperty, .wrapper (.string fdText)),
    (valueProperty, .wrapper (.integer fd))]

def remoteObjectParams (handle : ℕ) : ParamMap :=
  [(typeProperty, .wrapper (.string remoteObjectText)),
    (valueProperty, .remoteObject handle)]

def readFromParcelFD : Text → ParamMembers → Reader ParamMembers :=
  setRead (withDefault parcels.readFileDescriptor) fun fd =>
    .wantParams (fdParams fd)

def readFromParcelRemoteObject : Text → ParamMembers → Reader ParamMembers :=
  setRead (withDefault parcels.readRemoteObject) fun handle =>
    .wantParams (remoteObjectParams handle)

/-- What `Parse` answers for a text; the reader fails where it throws or runs out
of fuel. -/
def parsedText (env : WrapperEnv) (fuel : ℕ) (text : Text) :
    Option (Option Interface) :=
  match DistributedWantParamWrapper.parse env fuel text with
  | some (.params params) => some (some (.wantParams params))
  | some .null => some none
  | _ => none

def setParsed (key : Text) (members : ParamMembers) :
    Option (Option Interface) → Reader ParamMembers
  | some intf => return members.setNonNull key intf
  | none => failure

def readFromParcelWantParamWrapper (env : WrapperEnv) (fuel : ℕ) (key : Text)
    (type : Int32) (members : ParamMembers) : Reader ParamMembers :=
  if type = valueTypeFd then readFromParcelFD parcels key members
  else if type = valueTypeRemoteObject then
    readFromParcelRemoteObject parcels key members
  else do
    let value ← readString16 parcels
    setParsed key members (parsedText env fuel (parcels.str16ToStr8 value))

/-! ## Unmarshalling -/

def maxAllowedSize : Int32 := 100 * 1024 * 1024

def readUnsupportedData (key : Text) (type : Int32) (members : ParamMembers) :
    Reader ParamMembers := do
  let bufferSize ← parcels.readInt32
  if bufferSize < 0 ∨ maxAllowedSize < bufferSize then failure
  else do
    let _length ← parcels.readInt32
    let buffer ← parcels.readUnpadBuffer bufferSize.toInt.toNat
    if bufferSize = 0 then failure
    else return members.emplaceBack {
        key := parcels.str8ToStr16 key
        type := type
        buffer := buffer }

def unsupportedTypes : List Int32 :=
  [valueTypeParcelable, valueTypeParcelablearray, valueTypeSerializable,
    valueTypeList]

def readFromParcelParam (env : WrapperEnv) (fuel : ℕ) (key : Text)
    (type : Int32) (members : ParamMembers) : Reader ParamMembers :=
  if type = valueTypeCharsequence ∨ type = valueTypeString then
    readFromParcelString parcels key members
  else if type = valueTypeBoolean then readFromParcelBool parcels key members
  else if type = valueTypeByte then readFromParcelInt8 parcels key members
  else if type = valueTypeChar then readFromParcelChar parcels key members
  else if type = valueTypeShort then readFromParcelShort parcels key members
  else if type = valueTypeInt then readFromParcelInt parcels key members
  else if type = valueTypeLong then readFromParcelLong parcels key members
  else if type = valueTypeFloat then readFromParcelFloat parcels key members
  else if type = valueTypeDouble then readFromParcelDouble parcels key members
  else if type = valueTypeWantParams ∨ type = valueTypeFd ∨
      type = valueTypeRemoteObject then
    readFromParcelWantParamWrapper parcels env fuel key type members
  else if type = valueTypeNull then pure members
  else if unsupportedTypes.contains type then
    readUnsupportedData parcels key type members
  else do
    let ao ← readArrayToParcel parcels type
    return members.setNonNull key (ao.map fun ao => .wrapper (.array ao))

def readTyped (env : WrapperEnv) (fuel : ℕ) (key : Text)
    (members : ParamMembers) : Reader ParamMembers := do
  let type ← parcels.readInt32
  readFromParcelParam parcels env fuel key type members

def readParam (env : WrapperEnv) (fuel : ℕ) (members : ParamMembers) :
    Reader ParamMembers := do
  let key ← readString16 parcels
  readTyped parcels env fuel (parcels.str16ToStr8 key) members

def readParams (env : WrapperEnv) (fuel : ℕ) :
    ℕ → ParamMembers → Reader ParamMembers
  | 0, members => pure members
  | count + 1, members => do
      let members ← readParam parcels env fuel members
      readParams env fuel count members

def getDataSize : Reader ℕ := fun data cursor => some (data.length, cursor)

def readFromParcel (env : WrapperEnv) (fuel : ℕ) (members : ParamMembers) :
    Reader ParamMembers := do
  let size ← parcels.readInt32
  let dataSize ← getDataSize
  if Int32.ofNat dataSize < size then failure
  else readParams parcels env fuel size.toInt.toNat members

def unmarshalling (env : WrapperEnv) (fuel : ℕ) : Reader ParamMembers :=
  readFromParcel parcels env fuel {}

end Write

/-! ## Longs as texts -/

def isUnsignedNumber (number : Text) : Bool :=
  number.takeWhile Char.isDigit ≠ [] &&
    match number.dropWhile Char.isDigit with
    | [] => true
    | '.' :: fraction => fraction ≠ [] && fraction.all Char.isDigit
    | _ => false

def isNumber : Text → Bool
  | '-' :: number => isUnsignedNumber number
  | '+' :: number => isUnsignedNumber number
  | number => isUnsignedNumber number

def atoll (text : Text) : Int64 :=
  Int64.ofInt (DecimalText.toInt text)

def numberOf (str : Text) : Option Int64 :=
  if isNumber str then some (atoll str) else none

def getLongParam : Interface → Option Int64
  | .wrapper (.long value) => some value
  | .wrapper (.string str) => numberOf str
  | _ => none

def getLongArrayParam : Interface → List Int64
  | .wrapper (.array (.longs values)) => values
  | .wrapper (.array (.strings values)) => values.filterMap numberOf
  | _ => []

end DistributedWantParams

end Dmsfwk
