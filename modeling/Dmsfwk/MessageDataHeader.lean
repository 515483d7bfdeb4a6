import Dmsfwk.SessionDataHeader

/-!
# The header of a collaboration message

`MessageDataHeader` travels in front of every text message as three TLV items.
Its functions are those of `SessionDataHeader` without the length checks.
-/

namespace Dmsfwk

open ByteCodec
open TlvCodec

namespace MessageDataHeader

def protocolVersion : ℕ := 1

def headerTlvNum : ℕ := 3
def headerUint16Num : ℕ := 1
def headerUint32Num : ℕ := 2

def headerLen : ℕ :=
  2 * 2 * headerTlvNum + 2 * headerUint16Num + 4 * headerUint32Num

theorem headerLen_eq : headerLen = 22 := rfl

def tlvTypeVersion : ℕ := 1001
def tlvTypeDataType : ℕ := 1002
def tlvTypeTotalLen : ℕ := 1003

end MessageDataHeader

structure MessageDataHeader where
  version : ℕ
  dataType : ℕ
  totalLen : ℕ
  deriving DecidableEq, Repr

namespace MessageDataHeader

structure InRange (header : MessageDataHeader) : Prop where
  version : header.version < 2 ^ 16
  dataType : header.dataType < 2 ^ 32
  totalLen : header.totalLen < 2 ^ 32

/-! ## Serialization -/

def writeTlvItemToBuffer (item : TlvItem) (bufLen : ℕ) : Bytes :=
  SessionDataHeader.writeTlvItemToBuffer item bufLen

def tlvItems (header : MessageDataHeader) : List TlvItem :=
  [⟨tlvTypeVersion, 2, header.version⟩,
    ⟨tlvTypeDataType, 4, header.dataType⟩,
    ⟨tlvTypeTotalLen, 4, header.totalLen⟩]

def serialize (header : MessageDataHeader) : Bytes :=
  layOut writeTlvItemToBuffer headerLen header.tlvItems

/-! ## Deserialization -/

def readTlvItem
    (header : MessageDataHeader) (type : ℕ) (value : Bytes) :
    Option MessageDataHeader :=
  if type = tlvTypeVersion then
    (copyToField 2 header.version value).map ({ header with version := · })
  else if type = tlvTypeDataType then
    (copyToField 4 header.dataType value).map ({ header with dataType := · })
  else if type = tlvTypeTotalLen then
    (copyToField 4 header.totalLen value).map ({ header with totalLen := · })
  else none

def readTlvItems (header : MessageDataHeader) (window : Bytes) :
    Option MessageDataHeader :=
  scan (fun left => decide (left ≤ itemHeaderLen)) readTlvItem
    (headerLen + 1) header window

/-- `Deserialize`; `stack` is the indeterminate content of the local header,
whose version has a default member initializer. -/
def deserialize (stack : MessageDataHeader) (buffer : Bytes) :
    Option MessageDataHeader :=
  if buffer.length < headerLen then none
  else
    readTlvItems { stack with version := protocolVersion }
      (buffer.take headerLen)

/-! ## Round trip of a header -/

theorem serialize_eq_flatMap (header : MessageDataHeader) :
    header.serialize = header.tlvItems.flatMap TlvItem.encode := by
  apply layOut_eq_flatMap_encode
  · intro item hitem room hroom
    apply SessionDataHeader.writeTlvItemToBuffer_eq_encode _ hroom
    simp only [tlvItems, List.mem_cons, List.not_mem_nil, or_false] at hitem
    rcases hitem with rfl | rfl | rfl <;> simp
  · simp [tlvItems, TlvItem.size, itemHeaderLen, headerLen_eq]

@[simp] theorem length_serialize (header : MessageDataHeader) :
    header.serialize.length = headerLen := by
  simp [serialize_eq_flatMap, tlvItems, TlvItem.size, itemHeaderLen,
    headerLen_eq]

theorem InRange.tlvItems_wellFormed
    {header : MessageDataHeader} (hrange : header.InRange) :
    ∀ item ∈ header.tlvItems, item.WellFormed := by
  intro item hitem
  obtain ⟨hversion, hdataType, htotalLen⟩ := hrange
  simp only [tlvItems, List.mem_cons, List.not_mem_nil, or_false] at hitem
  rcases hitem with rfl | rfl | rfl <;>
    constructor <;>
    simp [tlvTypeVersion, tlvTypeDataType, tlvTypeTotalLen] <;>
    omega

theorem readTlvItems_serialize
    {header : MessageDataHeader} (hrange : header.InRange)
    (stack : MessageDataHeader) :
    readTlvItems stack header.serialize = some header := by
  have hitems := hrange.tlvItems_wellFormed
  obtain ⟨hversion, hdataType, htotalLen⟩ := hrange
  unfold readTlvItems
  rw [serialize_eq_flatMap, scan_flatMap_encode (by decide)
    (by intro n hn; simpa using hn) hitems (by simp [tlvItems, headerLen_eq])]
  simp [tlvItems, readTlvItem, tlvTypeVersion, tlvTypeDataType,
    tlvTypeTotalLen, copyToField_uint16 hversion, copyToField_uint32 hdataType,
    copyToField_uint32 htotalLen]

theorem deserialize_serialize_append
    {header : MessageDataHeader} (hrange : header.InRange)
    (stack : MessageDataHeader) (body : Bytes) :
    deserialize stack (header.serialize ++ body) = some header := by
  have hlong : ¬(header.serialize ++ body).length < headerLen := by
    simp
  have hwindow : (header.serialize ++ body).take headerLen =
      header.serialize := by
    rw [← length_serialize header, List.take_left]
  rw [deserialize, if_neg hlong, hwindow, readTlvItems_serialize hrange]

end MessageDataHeader

end Dmsfwk
