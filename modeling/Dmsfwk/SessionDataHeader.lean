import Dmsfwk.CollabError
import Dmsfwk.TlvCodec

/-!
# The packet header of the collaboration bytes channel

`SessionDataHeader` travels in front of every packet as eight TLV items in a
fixed window of `HEADER_LEN` bytes.  `Deserialize` fills a default constructed
header whose fields other than the version are indeterminate; that initial
content is an argument here.  Unsigned fields are natural numbers: a value
that was read from the wire is below its width by construction.
-/

namespace Dmsfwk

open ByteCodec
open TlvCodec

/-! ## Data model -/

inductive FragType where
  | fragNull
  | fragStart
  | fragMid
  | fragEnd
  | fragStartEnd
  deriving DecidableEq, Repr

def FragType.code : FragType → ℕ
  | .fragNull => 0
  | .fragStart => 1
  | .fragMid => 2
  | .fragEnd => 3
  | .fragStartEnd => 4

/-- The flag byte as the receiver's `switch` reads it; a byte outside the
enumeration falls through to `default`. -/
def FragType.ofCode? : ℕ → Option FragType
  | 0 => some .fragNull
  | 1 => some .fragStart
  | 2 => some .fragMid
  | 3 => some .fragEnd
  | 4 => some .fragStartEnd
  | _ => none

@[simp] theorem FragType.ofCode?_code (flag : FragType) :
    FragType.ofCode? flag.code = some flag := by
  cases flag <;> rfl

namespace SessionDataHeader

def protocolVersion : ℕ := 1

def headerTlvNum : ℕ := 8
def headerUint8Num : ℕ := 1
def headerUint16Num : ℕ := 2
def headerUint32Num : ℕ := 5

def headerLen : ℕ :=
  2 * 2 * headerTlvNum + 2 * headerUint16Num + 4 * headerUint32Num +
    headerUint8Num

theorem headerLen_eq : headerLen = 57 := rfl

def binaryDataMaxTotalLen : ℕ := 100 * 1024 * 1024

def binaryPayloadMaxLen : ℕ := 4 * 1024 * 1024

def headerLenVersionMap : List (ℕ × ℕ) := [(protocolVersion, headerLen)]

def tlvTypeVersion : ℕ := 1001
def tlvTypeFragFlag : ℕ := 1002
def tlvTypeDataType : ℕ := 1003
def tlvTypeSeqNum : ℕ := 1004
def tlvTypeTotalLen : ℕ := 1005
def tlvTypeSubSeq : ℕ := 1006
def tlvTypePayloadLen : ℕ := 1007
def tlvTypePacketLen : ℕ := 1008

end SessionDataHeader

structure SessionDataHeader where
  version : ℕ
  fragFlag : ℕ
  dataType : ℕ
  seqNum : ℕ
  totalLen : ℕ
  packetLen : ℕ
  payloadLen : ℕ
  subSeq : ℕ
  deriving DecidableEq, Repr

namespace SessionDataHeader

structure InRange (header : SessionDataHeader) : Prop where
  version : header.version < 2 ^ 16
  fragFlag : header.fragFlag < 2 ^ 8
  dataType : header.dataType < 2 ^ 32
  seqNum : header.seqNum < 2 ^ 32
  totalLen : header.totalLen < 2 ^ 32
  packetLen : header.packetLen < 2 ^ 32
  payloadLen : header.payloadLen < 2 ^ 32
  subSeq : header.subSeq < 2 ^ 16

/-! ## Serialization -/

/-- `WriteTlvItemToBuffer`: type and length are stored unconditionally, the
value only if `memcpy_s` finds room; otherwise the zeroed buffer shows. -/
def writeTlvItemToBuffer (item : TlvItem) (bufLen : ℕ) : Bytes :=
  be16 item.type ++ be16 item.len ++
    (memcpyS (List.replicate item.len 0) 0 (bufLen - itemHeaderLen)
      (leBytes item.len item.value)).getD (List.replicate item.len 0)

/-- The items in the order in which `Serialize` calls the `Write*`
functions. -/
def tlvItems (header : SessionDataHeader) : List TlvItem :=
  [⟨tlvTypeVersion, 2, header.version⟩,
    ⟨tlvTypeFragFlag, 1, header.fragFlag⟩,
    ⟨tlvTypeDataType, 4, header.dataType⟩,
    ⟨tlvTypeSeqNum, 4, header.seqNum⟩,
    ⟨tlvTypeTotalLen, 4, header.totalLen⟩,
    ⟨tlvTypePacketLen, 4, header.packetLen⟩,
    ⟨tlvTypePayloadLen, 4, header.payloadLen⟩,
    ⟨tlvTypeSubSeq, 2, header.subSeq⟩]

def serialize (header : SessionDataHeader) : Bytes :=
  layOut writeTlvItemToBuffer headerLen header.tlvItems

/-! ## Deserialization -/

def readTlvItem
    (header : SessionDataHeader) (type : ℕ) (value : Bytes) :
    Option SessionDataHeader :=
  if type = tlvTypeVersion then
    (copyToField 2 header.version value).map ({ header with version := · })
  else if type = tlvTypeFragFlag then
    (copyToField 1 header.fragFlag value).map ({ header with fragFlag := · })
  else if type = tlvTypeDataType then
    (copyToField 4 header.dataType value).map ({ header with dataType := · })
  else if type = tlvTypeSeqNum then
    (copyToField 4 header.seqNum value).map ({ header with seqNum := · })
  else if type = tlvTypeTotalLen then
    (copyToField 4 header.totalLen value).map ({ header with totalLen := · })
  else if type = tlvTypeSubSeq then
    (copyToField 2 header.subSeq value).map ({ header with subSeq := · })
  else if type = tlvTypePayloadLen then
    (copyToField 4 header.payloadLen value).map
      ({ header with payloadLen := · })
  else if type = tlvTypePacketLen then
    (copyToField 4 header.packetLen value).map ({ header with packetLen := · })
  else none

/-- The `while` loop of `Deserialize`: an item is read as long as more than a
bare item header is left. -/
def readTlvItems (header : SessionDataHeader) (window : Bytes) :
    Option SessionDataHeader :=
  scan (fun left => decide (left ≤ itemHeaderLen)) readTlvItem
    (headerLen + 1) header window

/-- The header length the received version asks for; an unknown version is
treated like the highest known one. -/
def versionHeaderLen (version : ℕ) : ℕ :=
  ((headerLenVersionMap.find? fun entry => entry.1 = version).or
    headerLenVersionMap.getLast?).elim 0 Prod.snd

def checkLengths (header : SessionDataHeader) : Bool :=
  !(binaryPayloadMaxLen < header.payloadLen ||
      binaryDataMaxTotalLen < header.packetLen) &&
    !(header.totalLen < header.packetLen) &&
    !(header.packetLen <
      header.payloadLen + versionHeaderLen header.version)

/-- `Deserialize`.  `stack` is the indeterminate content of the local header;
its version has a default member initializer. -/
def deserialize (stack : SessionDataHeader) (buffer : Bytes) :
    Option SessionDataHeader :=
  if buffer.length < headerLen then none
  else
    match readTlvItems { stack with version := protocolVersion }
        (buffer.take headerLen) with
    | none => none
    | some header => if header.checkLengths then some header else none

/-! ## Lengths accepted by the receiver -/

@[simp] theorem versionHeaderLen_eq (version : ℕ) :
    versionHeaderLen version = headerLen := by
  by_cases hversion : protocolVersion = version <;>
    simp [versionHeaderLen, headerLenVersionMap, List.find?, hversion]

theorem checkLengths_iff (header : SessionDataHeader) :
    header.checkLengths = true ↔
      header.payloadLen ≤ binaryPayloadMaxLen ∧
        header.packetLen ≤ binaryDataMaxTotalLen ∧
        header.packetLen ≤ header.totalLen ∧
        header.payloadLen + headerLen ≤ header.packetLen := by
  simp [checkLengths, and_assoc]

theorem deserialize_checkLengths
    {stack header : SessionDataHeader} {buffer : Bytes}
    (h : deserialize stack buffer = some header) :
    header.checkLengths = true := by
  unfold deserialize at h
  split at h
  · contradiction
  · split at h
    · contradiction
    · split at h
      next hcheck =>
        obtain rfl := Option.some.inj h
        exact hcheck
      next => contradiction

/-! ## Round trip of a header -/

theorem writeTlvItemToBuffer_eq_encode
    {item : TlvItem} {bufLen : ℕ} (hpos : 0 < item.len)
    (hroom : item.size ≤ bufLen) :
    writeTlvItemToBuffer item bufLen = item.encode := by
  have hcond : ¬(bufLen - itemHeaderLen = 0 ∨
      bufLen - itemHeaderLen < item.len) := by
    simp only [TlvItem.size] at hroom
    omega
  simp [writeTlvItemToBuffer, memcpyS, hcond, TlvItem.encode]

theorem serialize_eq_flatMap (header : SessionDataHeader) :
    header.serialize = header.tlvItems.flatMap TlvItem.encode := by
  apply layOut_eq_flatMap_encode
  · intro item hitem room hroom
    apply writeTlvItemToBuffer_eq_encode _ hroom
    simp only [tlvItems, List.mem_cons, List.not_mem_nil, or_false] at hitem
    rcases hitem with rfl | rfl | rfl | rfl | rfl | rfl | rfl | rfl <;> simp
  · simp [tlvItems, TlvItem.size, itemHeaderLen, headerLen_eq]

@[simp] theorem length_serialize (header : SessionDataHeader) :
    header.serialize.length = headerLen := by
  simp [serialize_eq_flatMap, tlvItems, TlvItem.size, itemHeaderLen,
    headerLen_eq]

theorem InRange.tlvItems_wellFormed
    {header : SessionDataHeader} (hrange : header.InRange) :
    ∀ item ∈ header.tlvItems, item.WellFormed := by
  intro item hitem
  obtain ⟨hversion, hfragFlag, hdataType, hseqNum, htotalLen, hpacketLen,
    hpayloadLen, hsubSeq⟩ := hrange
  simp only [tlvItems, List.mem_cons, List.not_mem_nil, or_false] at hitem
  rcases hitem with rfl | rfl | rfl | rfl | rfl | rfl | rfl | rfl <;>
    constructor <;>
    simp [tlvTypeVersion, tlvTypeFragFlag, tlvTypeDataType, tlvTypeSeqNum,
      tlvTypeTotalLen, tlvTypeSubSeq, tlvTypePayloadLen, tlvTypePacketLen] <;>
    omega

theorem readTlvItems_serialize
    {header : SessionDataHeader} (hrange : header.InRange)
    (stack : SessionDataHeader) :
    readTlvItems stack header.serialize = some header := by
  obtain ⟨hversion, hfragFlag, hdataType, hseqNum, htotalLen, hpacketLen,
    hpayloadLen, hsubSeq⟩ := hrange
  unfold readTlvItems
  rw [serialize_eq_flatMap, scan_flatMap_encode (by decide)
    (by intro n hn; simpa using hn)
    (InRange.tlvItems_wellFormed ⟨hversion, hfragFlag, hdataType, hseqNum,
      htotalLen, hpacketLen, hpayloadLen, hsubSeq⟩) (by simp [tlvItems, headerLen_eq])]
  simp [tlvItems, readTlvItem, tlvTypeVersion, tlvTypeFragFlag,
    tlvTypeDataType, tlvTypeSeqNum, tlvTypeTotalLen, tlvTypeSubSeq,
    tlvTypePayloadLen, tlvTypePacketLen, copyToField_uint16 hversion,
    copyToField_uint8 hfragFlag, copyToField_uint32 hdataType,
    copyToField_uint32 hseqNum, copyToField_uint32 htotalLen,
    copyToField_uint32 hpacketLen, copyToField_uint32 hpayloadLen,
    copyToField_uint16 hsubSeq]

theorem deserialize_serialize_append
    {header : SessionDataHeader} (hrange : header.InRange)
    (stack : SessionDataHeader) (body : Bytes) :
    deserialize stack (header.serialize ++ body) =
      if header.checkLengths then some header else none := by
  have hlong : ¬(header.serialize ++ body).length < headerLen := by
    simp
  have hwindow : (header.serialize ++ body).take headerLen =
      header.serialize := by
    rw [← length_serialize header, List.take_left]
  rw [deserialize, if_neg hlong, hwindow, readTlvItems_serialize hrange]

/-- A serialized header comes back exactly within the limits, whatever its
version is. -/
theorem deserialize_serialize_append_limits
    {header : SessionDataHeader} (hrange : header.InRange)
    (stack : SessionDataHeader) (rest : Bytes) :
    deserialize stack (header.serialize ++ rest) =
      if header.payloadLen ≤ 4 * 1024 * 1024 ∧
          header.packetLen ≤ 100 * 1024 * 1024 ∧
          header.packetLen ≤ header.totalLen ∧
          header.payloadLen + 57 ≤ header.packetLen then
        some header
      else none := by
  rw [deserialize_serialize_append hrange]
  exact if_congr header.checkLengths_iff rfl rfl

def largestPayload : SessionDataHeader where
  version := 2
  fragFlag := FragType.fragStart.code
  dataType := 0xffffffff
  seqNum := 7
  totalLen := 100 * 1024 * 1024
  packetLen := 4 * 1024 * 1024 + 57
  payloadLen := 4 * 1024 * 1024
  subSeq := 0xffff

theorem deserialize_largestPayload :
    deserialize ⟨0, 0, 0, 0, 0, 0, 0, 0⟩ (largestPayload.serialize ++ [1, 2]) =
        some largestPayload ∧
      deserialize ⟨0, 0, 0, 0, 0, 0, 0, 0⟩
        ({ largestPayload with packetLen := 4 * 1024 * 1024 + 56 }.serialize ++
          [1, 2]) = none := by
  constructor
  · exact (deserialize_serialize_append_limits (by constructor <;> decide)
      _ _).trans (by decide)
  · exact (deserialize_serialize_append_limits (by constructor <;> decide)
      _ _).trans (by decide)

end SessionDataHeader

end Dmsfwk
