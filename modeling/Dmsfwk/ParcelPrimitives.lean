import Dmsfwk.DistributedWant
import Dmsfwk.StreamCost

/-!
# The primitives of a parcel

Values are written to a parcel one behind the other and read in that order.  A
value can be read with an answer that says whether it was there, or with the
default in its place; a text is converted before it is written and after it is
read.  A nullable object stands behind a mark.
-/

namespace Dmsfwk

open StreamCodec

/-- The primitives that values of `Params` and of the plain types are written
and read with. -/
structure ParcelPrimitives (Params : Type) where
  str8ToStr16 : Text → U16String
  str16ToStr8 : U16String → Text
  writeBool : Bool → Writer
  readBool : Reader Bool
  writeUint8 : UInt8 → Writer
  readUint8 : Reader UInt8
  writeUint16 : UInt16 → Writer
  readUint16 : Reader UInt16
  writeInt32 : Int32 → Writer
  readInt32 : Reader Int32
  writeUint32 : UInt32 → Writer
  readUint32 : Reader UInt32
  writeInt64 : Int64 → Writer
  readInt64 : Reader Int64
  writeFloat : UInt32 → Writer
  readFloat : Reader UInt32
  writeString16 : U16String → Writer
  readString16 : List UInt8 → ℕ → U16String × ℕ
  writeUInt8Vector : List UInt8 → Writer
  readUInt8Vector : Reader (List UInt8)
  writeBuffer : List UInt8 → Writer
  marshalParams : Params → Writer
  unmarshalParams : List UInt8 → ℕ → Option Params × ℕ

namespace ParcelPrimitives

variable {Params T : Type}

section Functions

variable (parcels : ParcelPrimitives Params)

def string16 : Reader U16String :=
  fun data cursor => some (parcels.readString16 data cursor)

def writeText (text : Text) : Writer :=
  parcels.writeString16 (parcels.str8ToStr16 text)

def readText : Reader Text := do
  return parcels.str16ToStr8 (← parcels.string16)

def writeParcelable (marshalling : T → Writer) : Option T → Writer
  | none => parcels.writeInt32 0
  | some object => do
      parcels.writeInt32 1
      marshalling object

def readParcelable (unmarshalling : Reader (Option T)) : Reader (Option T) := do
  if (← orDefault parcels.readInt32 0) = 0 then return none
  unmarshalling

def writeParams (params : Params) : Writer :=
  parcels.writeParcelable parcels.marshalParams (some params)

def readParams : Reader (Option Params) :=
  parcels.readParcelable fun data cursor =>
    some (parcels.unmarshalParams data cursor)

end Functions

section Transfer

variable {parcels : ParcelPrimitives Params}

theorem transfers_text {text : Text}
    (hstring : Transfers (parcels.writeString16 (parcels.str8ToStr16 text))
      parcels.string16 (parcels.str8ToStr16 text))
    (hconvert : parcels.str16ToStr8 (parcels.str8ToStr16 text) = text) :
    Transfers (parcels.writeText text) parcels.readText text := by
  have hmap := hstring.map parcels.str16ToStr8
  rw [hconvert] at hmap
  exact hmap

theorem transfers_parcelable {marshalling : T → Writer}
    {unmarshalling : Reader (Option T)} {object : T}
    (hmark : Transfers (parcels.writeInt32 1) parcels.readInt32 1)
    (hobject : Transfers (marshalling object) unmarshalling (some object)) :
    Transfers (parcels.writeParcelable marshalling (some object))
      (parcels.readParcelable unmarshalling) (some object) :=
  (hmark.orDefault 0).bind hobject

end Transfer

/-- A value is read from the bytes it is written with: a reader that answers a
value took bytes other than zero for those of the value, a mark and a size
other than zero among them, and no size is read behind the end. -/
structure Accounted (parcels : ParcelPrimitives Params) : Prop where
  text : Accounts parcels.writeText parcels.readText
  uint8 : Accounts parcels.writeUint8 (orDefault parcels.readUint8 0)
  int32 : Accounts parcels.writeInt32 (orDefault parcels.readInt32 0)
  uint32 : Accounts parcels.writeUint32 (orDefault parcels.readUint32 0)
  mark : ∀ value, value ≠ 0 →
    cost (parcels.writeInt32 1) ≤ cost (parcels.writeInt32 value)
  size : ∀ value, cost (parcels.writeUint32 value) = 0 → value = 0
  atEnd : ∀ data cursor, data.length ≤ cursor →
    parcels.readUint32 data cursor = none

end ParcelPrimitives

end Dmsfwk
