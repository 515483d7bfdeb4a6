import Dmsfwk.MessageDataHeader
import Dmsfwk.SoftbusSessionDelivery
import Dmsfwk.TlvFields

/-!
# What the memory of a received header decides

The three header decoders read TLV items into a local header most of whose
fields have no initial value.  The items of an accepted window may come in any
order and repeatedly, and a value may be shorter than its field.  So the header
is determined by the window exactly when an item of the full width is there for
every field without an initial value.
-/

namespace Dmsfwk

open ByteCodec
open TlvCodec

/-! ## Packets of the collaboration bytes channel -/

variable {buffer : Bytes}

namespace SessionDataHeader

structure Assigns (header next : SessionDataHeader) (type : ℕ)
    (value : Bytes) : Prop where
  version : if type = tlvTypeVersion then
      copyToField 2 header.version value = some next.version
    else next.version = header.version
  fragFlag : if type = tlvTypeFragFlag then
      copyToField 1 header.fragFlag value = some next.fragFlag
    else next.fragFlag = header.fragFlag
  dataType : if type = tlvTypeDataType then
      copyToField 4 header.dataType value = some next.dataType
    else next.dataType = header.dataType
  seqNum : if type = tlvTypeSeqNum then
      copyToField 4 header.seqNum value = some next.seqNum
    else next.seqNum = header.seqNum
  totalLen : if type = tlvTypeTotalLen then
      copyToField 4 header.totalLen value = some next.totalLen
    else next.totalLen = header.totalLen
  packetLen : if type = tlvTypePacketLen then
      copyToField 4 header.packetLen value = some next.packetLen
    else next.packetLen = header.packetLen
  payloadLen : if type = tlvTypePayloadLen then
      copyToField 4 header.payloadLen value = some next.payloadLen
    else next.payloadLen = header.payloadLen
  subSeq : if type = tlvTypeSubSeq then
      copyToField 2 header.subSeq value = some next.subSeq
    else next.subSeq = header.subSeq

theorem readTlvItem_assigns {header next : SessionDataHeader} {type : ℕ}
    {value : Bytes} (hread : readTlvItem header type value = some next) :
    Assigns header next type value := by
  unfold readTlvItem at hread
  split_ifs at hread with hversion hfragFlag hdataType hseqNum htotalLen
    hsubSeq hpayloadLen hpacketLen
  all_goals
    obtain ⟨new, hnew, rfl⟩ := Option.map_eq_some_iff.mp hread
    subst type
    constructor <;> first | exact hnew | rfl

theorem isSome_readTlvItem (header other : SessionDataHeader) (type : ℕ)
    (value : Bytes) :
    (readTlvItem header type value).isSome =
      (readTlvItem other type value).isSome := by
  simp only [readTlvItem, apply_ite Option.isSome, Option.isSome_map,
    isSome_copyToField]

def versionField : TlvField readTlvItem where
  type := tlvTypeVersion
  width := 2
  width_pos := by decide
  get := version
  get_assign hread := (readTlvItem_assigns hread).version

def fragFlagField : TlvField readTlvItem where
  type := tlvTypeFragFlag
  width := 1
  width_pos := by decide
  get := fragFlag
  get_assign hread := (readTlvItem_assigns hread).fragFlag

def dataTypeField : TlvField readTlvItem where
  type := tlvTypeDataType
  width := 4
  width_pos := by decide
  get := dataType
  get_assign hread := (readTlvItem_assigns hread).dataType

def seqNumField : TlvField readTlvItem where
  type := tlvTypeSeqNum
  width := 4
  width_pos := by decide
  get := seqNum
  get_assign hread := (readTlvItem_assigns hread).seqNum

def totalLenField : TlvField readTlvItem where
  type := tlvTypeTotalLen
  width := 4
  width_pos := by decide
  get := totalLen
  get_assign hread := (readTlvItem_assigns hread).totalLen

def packetLenField : TlvField readTlvItem where
  type := tlvTypePacketLen
  width := 4
  width_pos := by decide
  get := packetLen
  get_assign hread := (readTlvItem_assigns hread).packetLen

def payloadLenField : TlvField readTlvItem where
  type := tlvTypePayloadLen
  width := 4
  width_pos := by decide
  get := payloadLen
  get_assign hread := (readTlvItem_assigns hread).payloadLen

def subSeqField : TlvField readTlvItem where
  type := tlvTypeSubSeq
  width := 2
  width_pos := by decide
  get := subSeq
  get_assign hread := (readTlvItem_assigns hread).subSeq

/-- The local header of `Deserialize`: only the version has an initial value. -/
def reader : TlvReader SessionDataHeader where
  assign := readTlvItem
  done left := decide (left ≤ itemHeaderLen)
  fuel := headerLen + 1
  init header := { header with version := protocolVersion }
  valid := InRange
  check := checkLengths
  fixed := [versionField]
  unset := [fragFlagField, dataTypeField, seqNumField, totalLenField,
    packetLenField, payloadLenField, subSeqField]
  uniform := isSome_readTlvItem
  ext header other hfields := by
    cases header
    cases other
    simpa [versionField, fragFlagField, dataTypeField, seqNumField,
      totalLenField, packetLenField, payloadLenField, subSeqField] using hfields
  get_fixed field hfield _ _ := by
    obtain rfl := List.mem_singleton.mp hfield
    rfl
  exists_other field hfield header hrange := by
    simp only [List.mem_cons, List.not_mem_nil, or_false] at hfield
    rcases hfield with rfl | rfl | rfl | rfl | rfl | rfl | rfl
    · exact ⟨{ header with fragFlag := otherValue 1 header.fragFlag },
        { hrange with fragFlag := otherValue_lt 1 _ }, rfl⟩
    · exact ⟨{ header with dataType := otherValue 4 header.dataType },
        { hrange with dataType := otherValue_lt 4 _ }, rfl⟩
    · exact ⟨{ header with seqNum := otherValue 4 header.seqNum },
        { hrange with seqNum := otherValue_lt 4 _ }, rfl⟩
    · exact ⟨{ header with totalLen := otherValue 4 header.totalLen },
        { hrange with totalLen := otherValue_lt 4 _ }, rfl⟩
    · exact ⟨{ header with packetLen := otherValue 4 header.packetLen },
        { hrange with packetLen := otherValue_lt 4 _ }, rfl⟩
    · exact ⟨{ header with payloadLen := otherValue 4 header.payloadLen },
        { hrange with payloadLen := otherValue_lt 4 _ }, rfl⟩
    · exact ⟨{ header with subSeq := otherValue 2 header.subSeq },
        { hrange with subSeq := otherValue_lt 2 _ }, rfl⟩

theorem deserialize_eq_some_iff {stack header : SessionDataHeader} :
    deserialize stack buffer = some header ↔
      headerLen ≤ buffer.length ∧
        reader.read stack (buffer.take headerLen) = some header := by
  have hread : reader.read stack (buffer.take headerLen) =
      (readTlvItems { stack with version := protocolVersion }
        (buffer.take headerLen)).filter checkLengths := rfl
  rw [deserialize, hread]
  split_ifs with hshort
  · simp [hshort]
  · simp only [Nat.le_of_not_lt hshort, true_and]
    cases readTlvItems { stack with version := protocolVersion }
        (buffer.take headerLen) with
    | none => simp
    | some last => simp [Option.filter]

theorem deserialize_determined_iff {stack header : SessionDataHeader}
    (hstack : stack.InRange) (hread : deserialize stack buffer = some header) :
    (∀ other : SessionDataHeader, other.InRange →
        deserialize other buffer = some header) ↔
      reader.WritesUnset (buffer.take headerLen) := by
  obtain ⟨hlong, hread⟩ := deserialize_eq_some_iff.mp hread
  simp only [deserialize_eq_some_iff, hlong, true_and]
  exact TlvReader.read_determined_iff hstack hread

end SessionDataHeader

/-! ## Messages -/

namespace MessageDataHeader

structure Assigns (header next : MessageDataHeader) (type : ℕ)
    (value : Bytes) : Prop where
  version : if type = tlvTypeVersion then
      copyToField 2 header.version value = some next.version
    else next.version = header.version
  dataType : if type = tlvTypeDataType then
      copyToField 4 header.dataType value = some next.dataType
    else next.dataType = header.dataType
  totalLen : if type = tlvTypeTotalLen then
      copyToField 4 header.totalLen value = some next.totalLen
    else next.totalLen = header.totalLen

theorem readTlvItem_assigns {header next : MessageDataHeader} {type : ℕ}
    {value : Bytes} (hread : readTlvItem header type value = some next) :
    Assigns header next type value := by
  unfold readTlvItem at hread
  split_ifs at hread with hversion hdataType htotalLen
  all_goals
    obtain ⟨new, hnew, rfl⟩ := Option.map_eq_some_iff.mp hread
    subst type
    constructor <;> first | exact hnew | rfl

theorem isSome_readTlvItem (header other : MessageDataHeader) (type : ℕ)
    (value : Bytes) :
    (readTlvItem header type value).isSome =
      (readTlvItem other type value).isSome := by
  simp only [readTlvItem, apply_ite Option.isSome, Option.isSome_map,
    isSome_copyToField]

def versionField : TlvField readTlvItem where
  type := tlvTypeVersion
  width := 2
  width_pos := by decide
  get := version
  get_assign hread := (readTlvItem_assigns hread).version

def dataTypeField : TlvField readTlvItem where
  type := tlvTypeDataType
  width := 4
  width_pos := by decide
  get := dataType
  get_assign hread := (readTlvItem_assigns hread).dataType

def totalLenField : TlvField readTlvItem where
  type := tlvTypeTotalLen
  width := 4
  width_pos := by decide
  get := totalLen
  get_assign hread := (readTlvItem_assigns hread).totalLen

def reader : TlvReader MessageDataHeader where
  assign := readTlvItem
  done left := decide (left ≤ itemHeaderLen)
  fuel := headerLen + 1
  init header := { header with version := protocolVersion }
  valid := InRange
  check _ := true
  fixed := [versionField]
  unset := [dataTypeField, totalLenField]
  uniform := isSome_readTlvItem
  ext header other hfields := by
    cases header
    cases other
    simpa [versionField, dataTypeField, totalLenField] using hfields
  get_fixed field hfield _ _ := by
    obtain rfl := List.mem_singleton.mp hfield
    rfl
  exists_other field hfield header hrange := by
    simp only [List.mem_cons, List.not_mem_nil, or_false] at hfield
    rcases hfield with rfl | rfl
    · exact ⟨{ header with dataType := otherValue 4 header.dataType },
        { hrange with dataType := otherValue_lt 4 _ }, rfl⟩
    · exact ⟨{ header with totalLen := otherValue 4 header.totalLen },
        { hrange with totalLen := otherValue_lt 4 _ }, rfl⟩

theorem deserialize_eq_some_iff {stack header : MessageDataHeader} :
    deserialize stack buffer = some header ↔
      headerLen ≤ buffer.length ∧
        reader.read stack (buffer.take headerLen) = some header := by
  have hread : reader.read stack (buffer.take headerLen) =
      (readTlvItems { stack with version := protocolVersion }
        (buffer.take headerLen)).filter fun _ => true := rfl
  rw [deserialize, hread]
  split_ifs with hshort
  · simp [hshort]
  · simp [Nat.le_of_not_lt hshort]

theorem deserialize_determined_iff {stack header : MessageDataHeader}
    (hstack : stack.InRange) (hread : deserialize stack buffer = some header) :
    (∀ other : MessageDataHeader, other.InRange →
        deserialize other buffer = some header) ↔
      reader.WritesUnset (buffer.take headerLen) := by
  obtain ⟨hlong, hread⟩ := deserialize_eq_some_iff.mp hread
  simp only [deserialize_eq_some_iff, hlong, true_and]
  exact TlvReader.read_determined_iff hstack hread

end MessageDataHeader

/-! ## Packets of the distributed scheduler -/

namespace DSchedSoftbusSession

structure Assigns (header next : SessionDataHeader) (type : ℕ)
    (value : Bytes) : Prop where
  version : if type = tlvTypeVersion then
      copyToField 2 header.version value = some next.version
    else next.version = header.version
  fragFlag : if type = tlvTypeFragFlag then
      copyToField 1 header.fragFlag value = some next.fragFlag
    else next.fragFlag = header.fragFlag
  dataType : if type = tlvTypeDataType then
      copyToField 4 header.dataType value = some next.dataType
    else next.dataType = header.dataType
  seqNum : if type = tlvTypeSeqNum then
      copyToField 4 header.seqNum value = some next.seqNum
    else next.seqNum = header.seqNum
  totalLen : if type = tlvTypeTotalLen then
      copyToField 4 header.totalLen value = some next.totalLen
    else next.totalLen = header.totalLen
  subSeq : if type = tlvTypeSubSeq then
      copyToField 2 header.subSeq value = some next.subSeq
    else next.subSeq = header.subSeq
  dataLen : if type = tlvTypeDataLen then
      copyToField 4 header.dataLen value = some next.dataLen
    else next.dataLen = header.dataLen

theorem readTlvToHeader_assigns {header next : SessionDataHeader} {type : ℕ}
    {value : Bytes} (hread : readTlvToHeader header type value = some next) :
    Assigns header next type value := by
  unfold readTlvToHeader at hread
  split_ifs at hread with hversion hfragFlag hdataType hseqNum htotalLen
    hsubSeq hdataLen
  all_goals
    obtain ⟨new, hnew, rfl⟩ := Option.map_eq_some_iff.mp hread
    subst type
    constructor <;> first | exact hnew | rfl

theorem isSome_readTlvToHeader (header other : SessionDataHeader) (type : ℕ)
    (value : Bytes) :
    (readTlvToHeader header type value).isSome =
      (readTlvToHeader other type value).isSome := by
  simp only [readTlvToHeader, apply_ite Option.isSome, Option.isSome_map,
    isSome_copyToField]

def versionField : TlvField readTlvToHeader where
  type := tlvTypeVersion
  width := 2
  width_pos := by decide
  get := SessionDataHeader.version
  get_assign hread := (readTlvToHeader_assigns hread).version

def fragFlagField : TlvField readTlvToHeader where
  type := tlvTypeFragFlag
  width := 1
  width_pos := by decide
  get := SessionDataHeader.fragFlag
  get_assign hread := (readTlvToHeader_assigns hread).fragFlag

def dataTypeField : TlvField readTlvToHeader where
  type := tlvTypeDataType
  width := 4
  width_pos := by decide
  get := SessionDataHeader.dataType
  get_assign hread := (readTlvToHeader_assigns hread).dataType

def seqNumField : TlvField readTlvToHeader where
  type := tlvTypeSeqNum
  width := 4
  width_pos := by decide
  get := SessionDataHeader.seqNum
  get_assign hread := (readTlvToHeader_assigns hread).seqNum

def totalLenField : TlvField readTlvToHeader where
  type := tlvTypeTotalLen
  width := 4
  width_pos := by decide
  get := SessionDataHeader.totalLen
  get_assign hread := (readTlvToHeader_assigns hread).totalLen

def subSeqField : TlvField readTlvToHeader where
  type := tlvTypeSubSeq
  width := 2
  width_pos := by decide
  get := SessionDataHeader.subSeq
  get_assign hread := (readTlvToHeader_assigns hread).subSeq

def dataLenField : TlvField readTlvToHeader where
  type := tlvTypeDataLen
  width := 4
  width_pos := by decide
  get := SessionDataHeader.dataLen
  get_assign hread := (readTlvToHeader_assigns hread).dataLen

/-- The local header of `PackRecvData`; not even its version is set. -/
def reader : TlvReader SessionDataHeader where
  assign := readTlvToHeader
  done left := decide (left = 0)
  fuel := binaryHeaderFragLen + 1
  init header := header
  valid := SessionDataHeader.InRange
  check _ := true
  fixed := []
  unset := [versionField, fragFlagField, dataTypeField, seqNumField,
    totalLenField, subSeqField, dataLenField]
  uniform := isSome_readTlvToHeader
  ext header other hfields := by
    cases header
    cases other
    simpa [versionField, fragFlagField, dataTypeField, seqNumField,
      totalLenField, subSeqField, dataLenField] using hfields
  get_fixed field hfield := by cases hfield
  exists_other field hfield header hrange := by
    simp only [List.mem_cons, List.not_mem_nil, or_false] at hfield
    rcases hfield with rfl | rfl | rfl | rfl | rfl | rfl | rfl
    · exact ⟨{ header with version := otherValue 2 header.version },
        { hrange with version := otherValue_lt 2 _ }, rfl⟩
    · exact ⟨{ header with fragFlag := otherValue 1 header.fragFlag },
        { hrange with fragFlag := otherValue_lt 1 _ }, rfl⟩
    · exact ⟨{ header with dataType := otherValue 4 header.dataType },
        { hrange with dataType := otherValue_lt 4 _ }, rfl⟩
    · exact ⟨{ header with seqNum := otherValue 4 header.seqNum },
        { hrange with seqNum := otherValue_lt 4 _ }, rfl⟩
    · exact ⟨{ header with totalLen := otherValue 4 header.totalLen },
        { hrange with totalLen := otherValue_lt 4 _ }, rfl⟩
    · exact ⟨{ header with subSeq := otherValue 2 header.subSeq },
        { hrange with subSeq := otherValue_lt 2 _ }, rfl⟩
    · exact ⟨{ header with dataLen := otherValue 4 header.dataLen },
        { hrange with dataLen := otherValue_lt 4 _ }, rfl⟩

theorem getFragDataHeader_eq (stack : SessionDataHeader) (packet : Bytes) :
    getFragDataHeader stack packet =
      reader.read stack (packet.take binaryHeaderFragLen) := by
  have hread : reader.read stack (packet.take binaryHeaderFragLen) =
      (getFragDataHeader stack packet).filter fun _ => true := rfl
  rw [hread]
  cases getFragDataHeader stack packet <;> rfl

theorem getFragDataHeader_determined_iff {stack header : SessionDataHeader}
    {packet : Bytes} (hstack : stack.InRange)
    (hread : getFragDataHeader stack packet = some header) :
    (∀ other : SessionDataHeader, other.InRange →
        getFragDataHeader other packet = some header) ↔
      reader.WritesUnset (packet.take binaryHeaderFragLen) := by
  simp only [getFragDataHeader_eq] at hread ⊢
  exact TlvReader.read_determined_iff hstack hread

end DSchedSoftbusSession

/-! ## All decoders -/

/-- A header which was decoded from bytes does not depend on the memory of the
local header exactly when every field without an initial value has an item of
its full width in the window. -/
theorem headers_determined_iff (buffer : Bytes) :
    (∀ stack header : SessionDataHeader, stack.InRange →
      SessionDataHeader.deserialize stack buffer = some header →
      ((∀ other : SessionDataHeader, other.InRange →
          SessionDataHeader.deserialize other buffer = some header) ↔
        SessionDataHeader.reader.WritesUnset
          (buffer.take SessionDataHeader.headerLen))) ∧
    (∀ stack header : MessageDataHeader, stack.InRange →
      MessageDataHeader.deserialize stack buffer = some header →
      ((∀ other : MessageDataHeader, other.InRange →
          MessageDataHeader.deserialize other buffer = some header) ↔
        MessageDataHeader.reader.WritesUnset
          (buffer.take MessageDataHeader.headerLen))) ∧
    (∀ stack header : DSchedSoftbusSession.SessionDataHeader, stack.InRange →
      DSchedSoftbusSession.getFragDataHeader stack buffer = some header →
      ((∀ other : DSchedSoftbusSession.SessionDataHeader, other.InRange →
          DSchedSoftbusSession.getFragDataHeader other buffer = some header) ↔
        DSchedSoftbusSession.reader.WritesUnset
          (buffer.take DSchedSoftbusSession.binaryHeaderFragLen))) :=
  ⟨fun _ _ => SessionDataHeader.deserialize_determined_iff,
    fun _ _ => MessageDataHeader.deserialize_determined_iff,
    fun _ _ => DSchedSoftbusSession.getFragDataHeader_determined_iff⟩

namespace SessionDataHeader

def repeatedSeqNum : Bytes :=
  [⟨tlvTypeVersion, 2, 1⟩, ⟨tlvTypeFragFlag, 1, 4⟩, ⟨tlvTypeSeqNum, 4, 5⟩,
    ⟨tlvTypeSeqNum, 4, 5⟩, ⟨tlvTypeTotalLen, 4, 60⟩, ⟨tlvTypePacketLen, 4, 60⟩,
    ⟨tlvTypePayloadLen, 4, 3⟩, ⟨tlvTypeSubSeq, 2, 0⟩].flatMap TlvItem.encode

end SessionDataHeader

namespace MessageDataHeader

def repeatedTotalLen : Bytes :=
  [⟨tlvTypeVersion, 2, 1⟩, ⟨tlvTypeTotalLen, 4, 25⟩,
    ⟨tlvTypeTotalLen, 4, 25⟩].flatMap TlvItem.encode

end MessageDataHeader

namespace DSchedSoftbusSession

def shortDataType : Bytes :=
  [⟨tlvTypeVersion, 2, 1⟩, ⟨tlvTypeFragFlag, 1, 4⟩, ⟨tlvTypeDataType, 0, 0⟩,
    ⟨tlvTypeSubSeq, 0, 0⟩, ⟨tlvTypeSeqNum, 4, 0⟩, ⟨tlvTypeTotalLen, 4, 3⟩,
    ⟨tlvTypeSubSeq, 2, 0⟩, ⟨tlvTypeDataLen, 4, 3⟩].flatMap TlvItem.encode

end DSchedSoftbusSession

theorem headers_depend_on_stack :
    SessionDataHeader.deserialize ⟨0, 0, 0, 0, 0, 0, 0, 0⟩
        SessionDataHeader.repeatedSeqNum = some ⟨1, 4, 0, 5, 60, 60, 3, 0⟩ ∧
      SessionDataHeader.deserialize ⟨0, 0, 9, 0, 0, 0, 0, 0⟩
        SessionDataHeader.repeatedSeqNum = some ⟨1, 4, 9, 5, 60, 60, 3, 0⟩ ∧
      MessageDataHeader.deserialize ⟨0, 0, 0⟩
        MessageDataHeader.repeatedTotalLen = some ⟨1, 0, 25⟩ ∧
      MessageDataHeader.deserialize ⟨0, 9, 0⟩
        MessageDataHeader.repeatedTotalLen = some ⟨1, 9, 25⟩ ∧
      DSchedSoftbusSession.getFragDataHeader ⟨0, 0, 0, 0, 0, 0, 0⟩
        DSchedSoftbusSession.shortDataType = some ⟨1, 4, 0, 0, 3, 0, 3⟩ ∧
      DSchedSoftbusSession.getFragDataHeader ⟨0, 0, 9, 0, 0, 0, 0⟩
        DSchedSoftbusSession.shortDataType = some ⟨1, 4, 9, 0, 3, 0, 3⟩ := by
  decide

theorem headers_determined_samples :
    (∀ other : MessageDataHeader, other.InRange →
      MessageDataHeader.deserialize other
          (MessageDataHeader.serialize ⟨1, 2, 25⟩) = some ⟨1, 2, 25⟩) ∧
    ¬∀ other : DSchedSoftbusSession.SessionDataHeader, other.InRange →
      DSchedSoftbusSession.getFragDataHeader other
          DSchedSoftbusSession.shortDataType = some ⟨1, 4, 0, 0, 3, 0, 3⟩ := by
  constructor
  · have hiff := (headers_determined_iff
      (MessageDataHeader.serialize ⟨1, 2, 25⟩)).2.1 ⟨0, 0, 0⟩ ⟨1, 2, 25⟩
      (by constructor <;> decide) (by decide)
    exact hiff.mpr (by decide)
  · have hiff := (headers_determined_iff
      DSchedSoftbusSession.shortDataType).2.2 ⟨0, 0, 0, 0, 0, 0, 0⟩
      ⟨1, 4, 0, 0, 3, 0, 3⟩ (by constructor <;> decide) (by decide)
    exact fun hall => absurd (hiff.mp hall) (by decide)

end Dmsfwk
