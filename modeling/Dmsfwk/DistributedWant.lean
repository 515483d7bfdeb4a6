import Dmsfwk.ChannelManager
import Dmsfwk.StreamCodec

/-!
# Wants sent to other devices

`DistributedWant` and `DistributedWantV2` carry an `AAFwk::Want` through a
parcel.  Both take it apart into an operation and its parameters, write these
section by section, and put a new want together from what they read.  They
differ in the class of their parameters and in how these are copied.
-/

namespace Dmsfwk

open StreamCodec

abbrev U16String := List UInt16

instance : LawfulBEq U16String := inferInstance

structure ElementName where
  deviceId : Text := []
  bundleName : Text := []
  abilityName : Text := []
  moduleName : Text := []
  deriving DecidableEq, Repr

abbrev WantParams (Value : Type) := Std.ExtTreeMap Text Value compare

/-- Values of parameters: `AAFwk::WantParams::GetDataType`, and the strings among
them as `IString::Query` finds and `String::Parse` makes them. -/
structure ValueLibrary (Value : Type) where
  dataType : Value → ℤ
  queryString : Value → Option Text
  parseString : Text → Value

structure WantLibrary (Want Value : Type) where
  fresh : Want
  getAction : Want → Text
  getUri : Want → Text
  getEntities : Want → List Text
  getFlags : Want → UInt32
  getElement : Want → ElementName
  getType : Want → Text
  getParams : Want → WantParams Value
  setFlags : Want → UInt32 → Want
  setElement : Want → ElementName → Want
  setUri : Want → Text → Want
  setAction : Want → Text → Want
  setBundle : Want → Text → Want
  setType : Want → Text → Want
  addEntity : Want → Text → Want
  setParams : Want → WantParams Value → Want

/-- `Parcel` of the system libraries, with its parcelables and the conversion of
strings.  `ReadString16` answers an empty string where it cannot read one. -/
structure WantParcels (Value : Type) where
  str8ToStr16 : Text → U16String
  str16ToStr8 : U16String → Text
  writeInt32 : Int32 → Writer
  readInt32 : Reader Int32
  writeUint32 : UInt32 → Writer
  readUint32 : Reader UInt32
  writeString16 : U16String → Writer
  readString16 : List UInt8 → ℕ → U16String × ℕ
  writeString16Vector : List U16String → Writer
  readString16Vector : Reader (List U16String)
  writeElement : ElementName → Writer
  readElement : Reader ElementName
  writeParams : WantParams Value → Writer
  readParams : Reader (WantParams Value)

def valueNull : Int32 := -1

def valueObject : Int32 := 1

def mimeType : Text := "mime-type".toList

structure DistributedOperation where
  abilityName : Text := []
  action : Text := []
  bundleName : Text := []
  deviceId : Text := []
  moduleName : Text := []
  entities : List Text := []
  flags : UInt32 := 0
  uri : Text := []
  deriving DecidableEq, Repr

structure WantMembers (Value : Type) where
  operation : DistributedOperation := {}
  parameters : WantParams Value := ∅

namespace WantMembers

variable {Want Value : Type}

/-! ## Accessors -/

def getElement (want : WantMembers Value) : ElementName where
  deviceId := want.operation.deviceId
  bundleName := want.operation.bundleName
  abilityName := want.operation.abilityName

def setElement (want : WantMembers Value) (element : ElementName) :
    WantMembers Value :=
  { want with operation := { want.operation with
      deviceId := element.deviceId
      bundleName := element.bundleName
      abilityName := element.abilityName } }

def getType (values : ValueLibrary Value) (want : WantMembers Value) : Text :=
  ((want.parameters[mimeType]?).bind values.queryString).getD []

/-! ## From and to the want of the system -/

/-- `DistributedOperationBuilder::build` with what the constructors give it. -/
def operationOf (wants : WantLibrary Want Value) (want : Want) :
    DistributedOperation where
  abilityName := (wants.getElement want).abilityName
  bundleName := (wants.getElement want).bundleName
  deviceId := (wants.getElement want).deviceId
  action := wants.getAction want
  entities := wants.getEntities want
  flags := wants.getFlags want
  uri := wants.getUri want

def toWant (wants : WantLibrary Want Value) (values : ValueLibrary Value)
    (members : WantMembers Value) (params : WantParams Value) : Want :=
  let want := wants.setFlags wants.fresh members.operation.flags
  let want := wants.setElement want members.getElement
  let want := wants.setUri want members.operation.uri
  let want := wants.setAction want members.operation.action
  let want := wants.setBundle want members.operation.bundleName
  let want := wants.setType want (members.getType values)
  let want := members.operation.entities.foldl wants.addEntity want
  wants.setParams want params

/-! ## Marshalling -/

def writeText (parcels : WantParcels Value) (text : Text) : Writer :=
  parcels.writeString16 (parcels.str8ToStr16 text)

def marshallingWriteUri (parcels : WantParcels Value)
    (want : WantMembers Value) : Writer :=
  if want.operation.uri.isEmpty then parcels.writeInt32 valueNull
  else do
    parcels.writeInt32 valueObject
    writeText parcels want.operation.uri

def marshallingWriteEntities (parcels : WantParcels Value)
    (want : WantMembers Value) : Writer :=
  let entityU16 := want.operation.entities.map parcels.str8ToStr16
  if entityU16.length = 0 then parcels.writeInt32 valueNull
  else do
    parcels.writeInt32 valueObject
    parcels.writeString16Vector entityU16

def marshallingWriteElement (parcels : WantParcels Value)
    (want : WantMembers Value) : Writer :=
  if want.getElement = {} then parcels.writeInt32 valueNull
  else do
    parcels.writeInt32 valueObject
    parcels.writeElement want.getElement

def marshallingWriteParameters (parcels : WantParcels Value)
    (want : WantMembers Value) : Writer :=
  if want.parameters.size = 0 then parcels.writeInt32 valueNull
  else do
    parcels.writeInt32 valueObject
    parcels.writeParams want.parameters

def marshalling (parcels : WantParcels Value) (want : WantMembers Value) :
    Writer := do
  writeText parcels want.operation.action
  marshallingWriteUri parcels want
  marshallingWriteEntities parcels want
  parcels.writeUint32 want.operation.flags
  marshallingWriteElement parcels want
  marshallingWriteParameters parcels want
  writeText parcels want.operation.bundleName

/-! ## Unmarshalling -/

def readText (parcels : WantParcels Value) : Reader Text :=
  fun data cursor =>
    let (text, cursor) := parcels.readString16 data cursor
    some (parcels.str16ToStr8 text, cursor)

def readUriFromParcel (parcels : WantParcels Value)
    (want : WantMembers Value) : Reader (WantMembers Value) := do
  let value ← parcels.readInt32
  if value = valueObject then
    let uri ← readText parcels
    return { want with operation := { want.operation with uri } }
  else return want

def readEntitiesFromParcel (parcels : WantParcels Value)
    (want : WantMembers Value) : Reader (WantMembers Value) := do
  let value ← parcels.readInt32
  let entityU16 ←
    if value = valueObject then parcels.readString16Vector else pure []
  let entities := entityU16.map parcels.str16ToStr8
  return { want with operation := { want.operation with entities } }

def readElementFromParcel (parcels : WantParcels Value)
    (want : WantMembers Value) : Reader (WantMembers Value) := do
  let value ← parcels.readInt32
  if value = valueObject then
    let element ← parcels.readElement
    return want.setElement element
  else return want

def readParametersFromParcel (parcels : WantParcels Value)
    (want : WantMembers Value) : Reader (WantMembers Value) := do
  let empty ← parcels.readInt32
  if empty = valueObject then
    let parameters ← parcels.readParams
    return { want with parameters }
  else return want

def readFromParcel (parcels : WantParcels Value)
    (want : WantMembers Value) : Reader (WantMembers Value) := do
  let action ← readText parcels
  let want := { want with operation := { want.operation with action } }
  let want ← readUriFromParcel parcels want
  let want ← readEntitiesFromParcel parcels want
  let flags ← parcels.readUint32
  let want := { want with operation := { want.operation with flags } }
  let want ← readElementFromParcel parcels want
  let want ← readParametersFromParcel parcels want
  let bundleName ← readText parcels
  return { want with operation := { want.operation with bundleName } }

def unmarshalling (parcels : WantParcels Value) : Reader (WantMembers Value) :=
  readFromParcel parcels {}

end WantMembers

/-! ## The two classes -/

namespace DistributedWant

variable {Want Value : Type}

def copiedTypes : List ℤ := [1, 2, 3, 4, 5, 6, 7, 8, 9, 102, 104, 101]

def ofWant (wants : WantLibrary Want Value) (values : ValueLibrary Value)
    (want : Want) : WantMembers Value where
  operation := WantMembers.operationOf wants want
  parameters := (wants.getParams want).toList.foldl
    (fun parameters entry =>
      if values.dataType entry.2 ∈ copiedTypes then
        parameters.insert entry.1 entry.2
      else parameters) ∅

def toWantParams (parameters : WantParams Value) : WantParams Value :=
  parameters.toList.foldl (fun wantParams entry =>
    wantParams.insert entry.1 entry.2) ∅

def toWant (wants : WantLibrary Want Value) (values : ValueLibrary Value)
    (want : WantMembers Value) : Want :=
  WantMembers.toWant wants values want (toWantParams want.parameters)

end DistributedWant

namespace DistributedWantV2

variable {Want Value : Type}

def ofWant (wants : WantLibrary Want Value) (want : Want) :
    WantMembers Value where
  operation := WantMembers.operationOf wants want
  parameters := wants.getParams want

def toWant (wants : WantLibrary Want Value) (values : ValueLibrary Value)
    (want : WantMembers Value) : Want :=
  WantMembers.toWant wants values want want.parameters

end DistributedWantV2

end Dmsfwk
