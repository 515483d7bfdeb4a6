import Dmsfwk.BytesTransmission
import Mathlib.Algebra.BigOperators.Group.Finset.Basic
import Mathlib.Algebra.Order.BigOperators.Group.Finset

/-!
# Round trip of the bytes channel

`SendUnpackData` cuts a buffer into pieces of the size that fits the first
answer of `GetSessionOption` and keeps that size for the whole message, while
every header announces the size that fits the latest answer.  This module
computes the packets a successful send emits and determines for which buffers
and answers a fresh receiver gives the buffer back, whatever lies in the
memory around the buffers.
-/

namespace Dmsfwk

open ByteCodec
open SessionDataHeader
open AVTransDataBuffer

def SendEnv.ofOptions (options : ℕ → ℕ) (beyond : ℕ → UInt8) : SendEnv :=
  ⟨fun index => some (options index), fun _ => true, beyond⟩

namespace BytesFragments

def Admissible (options : ℕ → ℕ) : Prop :=
  ∀ index, headerLen < options index ∧
    options index ≤ binaryPayloadMaxLen + headerLen

def fragmentLen (options : ℕ → ℕ) : ℕ := options 0 - headerLen

def fragmentCount (data : Bytes) (options : ℕ → ℕ) : ℕ :=
  (data.length + fragmentLen options - 1) / fragmentLen options

def fragmentFlag (data : Bytes) (options : ℕ → ℕ) (index : ℕ) : FragType :=
  if index = 0 then .fragStart
  else if fragmentLen options < data.length - index * fragmentLen options then
    .fragMid
  else .fragEnd

def fragmentHeader (data : Bytes) (options : ℕ → ℕ) (index : ℕ) :
    SessionDataHeader where
  version := protocolVersion
  fragFlag := (fragmentFlag data options index).code
  dataType := DataSenderReceiver.bytesDataType
  seqNum := 0
  totalLen := data.length
  packetLen := options index
  payloadLen := options index - headerLen
  subSeq := index % 2 ^ 16

def fragmentPacket (data : Bytes) (options : ℕ → ℕ) (beyond : ℕ → UInt8)
    (index : ℕ) : Bytes :=
  (fragmentHeader data options index).serialize ++
    readBytes data beyond (index * fragmentLen options) (fragmentLen options)

variable {data : Bytes} {options : ℕ → ℕ}

theorem Admissible.fragmentLen_pos (h : Admissible options) :
    0 < fragmentLen options := by
  have hfirst := (h 0).1
  unfold fragmentLen
  omega

theorem Admissible.fragmentLen_le (h : Admissible options) :
    fragmentLen options ≤ binaryPayloadMaxLen := by
  have hfirst := (h 0).2
  unfold fragmentLen
  omega

theorem Admissible.lt_fragmentCount_iff
    (h : Admissible options) (index : ℕ) :
    index < fragmentCount data options ↔
      index * fragmentLen options < data.length := by
  have hpos := h.fragmentLen_pos
  unfold fragmentCount
  rw [Nat.lt_iff_add_one_le, Nat.le_div_iff_mul_le hpos, Nat.add_mul, one_mul]
  omega

theorem Admissible.subUint32_headerLen
    (h : Admissible options) (index : ℕ) :
    DataSenderReceiver.subUint32 (options index) headerLen =
      options index - headerLen := by
  obtain ⟨hlow, hhigh⟩ := h index
  simp only [DataSenderReceiver.subUint32, binaryPayloadMaxLen,
    headerLen_eq] at *
  omega

theorem Admissible.packet_lt (h : Admissible options) :
    headerLen + fragmentLen options < dschedMaxBufferSize := by
  have hle := h.fragmentLen_le
  simp only [binaryPayloadMaxLen, dschedMaxBufferSize, headerLen_eq] at *
  omega

theorem range_eq_cons {count : ℕ} (hpos : 0 < count) :
    List.range count = 0 :: List.range' 1 (count - 1) := by
  obtain ⟨rest, rfl⟩ := Nat.exists_eq_succ_of_ne_zero hpos.ne'
  rw [List.range_eq_range', List.range'_succ, zero_add, Nat.succ_sub_one]

/-! ## What is sent -/

theorem doSendPacket_ok
    {env : SendEnv} {index : ℕ} (header : SessionDataHeader) (data : Bytes)
    (current : ℕ) {dataLen : ℕ} (hpos : 0 < dataLen)
    (hbound : headerLen + dataLen < dschedMaxBufferSize)
    (hsend : env.sendBytes index = true) :
    DataSenderReceiver.doSendPacket env index header data current dataLen =
      .ok (header.serialize ++ readBytes data env.beyond current dataLen) := by
  have hmod : (headerLen + dataLen) % 2 ^ 32 = headerLen + dataLen := by
    apply Nat.mod_eq_of_lt
    simp only [dschedMaxBufferSize] at hbound
    omega
  have hbuffer : ofCapacity (headerLen + dataLen) =
      ⟨List.replicate (headerLen + dataLen) 0, 0, headerLen + dataLen⟩ := by
    rw [ofCapacity, if_pos ⟨by omega, hbound⟩]
  have hlength := length_serialize header
  have hheader : memcpyS (List.replicate (headerLen + dataLen) 0) 0
      (headerLen + dataLen) header.serialize =
      some (header.serialize ++ List.replicate dataLen 0) := by
    have hcopy := @memcpyS_append_replicate [] header.serialize
      (headerLen + dataLen) (by simp; omega) (by simp)
    simpa using hcopy
  have hbody : memcpyS (header.serialize ++ List.replicate dataLen 0)
      headerLen (headerLen + dataLen - headerLen)
      (readBytes data env.beyond current dataLen) =
      some (header.serialize ++
        readBytes data env.beyond current dataLen) := by
    have hcopy := @memcpyS_append_replicate header.serialize
      (readBytes data env.beyond current dataLen) (headerLen + dataLen)
      (by omega) (by rw [hlength, length_readBytes]; omega)
    simpa [hlength] using hcopy
  simp only [DataSenderReceiver.doSendPacket, hmod, hbuffer,
    AVTransDataBuffer.size, hheader, hbody, hsend, if_true]

theorem fragmentHeader_succ (h : Admissible options) (index : ℕ) :
    ({ fragmentHeader data options index with
      packetLen := options (index + 1)
      payloadLen :=
        DataSenderReceiver.subUint32 (options (index + 1)) headerLen
      fragFlag :=
        if fragmentLen options <
            data.length - (index + 1) * fragmentLen options then
          FragType.fragMid.code
        else FragType.fragEnd.code
      subSeq := ((fragmentHeader data options index).subSeq + 1) % 2 ^ 16 } :
        SessionDataHeader) =
      fragmentHeader data options (index + 1) := by
  rw [h.subUint32_headerLen]
  simp only [fragmentHeader, fragmentFlag, Nat.mod_add_mod, Nat.add_eq_zero_iff,
    one_ne_zero, and_false, if_false, apply_ite FragType.code]

theorem sendRemaining_eq
    (h : Admissible options) (beyond : ℕ → UInt8) {fuel index : ℕ}
    (hfuel : fragmentCount data options ≤ index + 1 + fuel) :
    DataSenderReceiver.sendRemaining (.ofOptions options beyond) data
        (fragmentLen options) fuel (index + 1)
        (fragmentHeader data options index)
        ((index + 1) * fragmentLen options) =
      (.errOk, (List.range' (index + 1)
        (fragmentCount data options - (index + 1))).map
          (fragmentPacket data options beyond)) := by
  induction fuel generalizing index with
  | zero =>
      have hempty : fragmentCount data options - (index + 1) = 0 := by omega
      rw [hempty]
      rfl
  | succ fuel ih =>
      by_cases hmore : index + 1 < fragmentCount data options
      · have hcurrent := (h.lt_fragmentCount_iff (index + 1)).mp hmore
        have hsend := @doSendPacket_ok (.ofOptions options beyond) (index + 1)
          (fragmentHeader data options (index + 1)) data
          ((index + 1) * fragmentLen options) (fragmentLen options)
          h.fragmentLen_pos h.packet_lt rfl
        have hoption : (SendEnv.ofOptions options beyond).sessionOption
            (index + 1) = some (options (index + 1)) := rfl
        have hrest : fragmentCount data options - (index + 1) =
            fragmentCount data options - (index + 1 + 1) + 1 := by omega
        have hmove : (index + 1) * fragmentLen options + fragmentLen options =
            (index + 1 + 1) * fragmentLen options := by ring
        rw [DataSenderReceiver.sendRemaining, if_pos hcurrent, hoption]
        simp only [fragmentHeader_succ h, hsend, hmove,
          @ih (index + 1) (by omega), hrest, List.range'_succ, List.map_cons]
        rfl
      · have hdone : ¬(index + 1) * fragmentLen options < data.length :=
          fun hlt => hmore ((h.lt_fragmentCount_iff (index + 1)).mpr hlt)
        have hempty : fragmentCount data options - (index + 1) = 0 := by omega
        rw [DataSenderReceiver.sendRemaining, if_neg hdone, hempty]
        rfl

theorem sendBytesData_fragmented
    (h : Admissible options) (beyond : ℕ → UInt8)
    (hlarge : options 0 < data.length + headerLen) :
    DataSenderReceiver.sendBytesData (.ofOptions options beyond) data =
      (.errOk, (List.range (fragmentCount data options)).map
        (fragmentPacket data options beyond)) := by
  have hpos := h.fragmentLen_pos
  have hfirst : 0 < fragmentCount data options := by
    rw [h.lt_fragmentCount_iff, zero_mul]
    have hheader := (h 0).1
    omega
  have hfuel : fragmentCount data options ≤ 0 + 1 + data.length := by
    by_contra hlt
    have hlast : (data.length + 1) * fragmentLen options < data.length :=
      (h.lt_fragmentCount_iff (data.length + 1)).mp (by omega)
    nlinarith
  have hoption : (SendEnv.ofOptions options beyond).sessionOption 0 =
      some (options 0) := rfl
  have hlen : DataSenderReceiver.subUint32 (options 0) headerLen =
      fragmentLen options := h.subUint32_headerLen 0
  have hheader : (⟨protocolVersion, FragType.fragStart.code,
      DataSenderReceiver.bytesDataType, 0, data.length, options 0,
      fragmentLen options, 0⟩ : SessionDataHeader) =
      fragmentHeader data options 0 := rfl
  have hsend := @doSendPacket_ok (.ofOptions options beyond) 0
    (fragmentHeader data options 0) data 0 (fragmentLen options) hpos
    h.packet_lt rfl
  have hrest := @sendRemaining_eq data options h beyond data.length 0 hfuel
  simp only [zero_add, one_mul] at hrest
  have hrange := range_eq_cons hfirst
  unfold DataSenderReceiver.sendBytesData DataSenderReceiver.sendUnpackData
  rw [hoption]
  simp only [if_neg (by omega : ¬data.length + headerLen ≤ options 0), hlen,
    hheader, hsend, hrest, hrange, List.map_cons, fragmentPacket, zero_mul]
  rfl

end BytesFragments

def Transmission.single (data : Bytes) (hpos : 0 < data.length)
    (hle : data.length ≤ binaryPayloadMaxLen) : Transmission where
  dataType := DataSenderReceiver.bytesDataType
  fragments := [data]
  dataType_lt := DataSenderReceiver.bytesDataType_lt
  nonempty := by simp
  count_le := by simp
  fragment_pos := by simpa using hpos
  fragment_le := by simpa using hle
  size_lt := by
    simp only [binaryPayloadMaxLen] at hle
    simp only [List.flatten_cons, List.flatten_nil, List.append_nil,
      dschedMaxBufferSize]
    omega

namespace BytesFragments

variable {data : Bytes} {options : ℕ → ℕ}

theorem sendUnpackData_small
    {env : SendEnv} {maxSendSize : ℕ} (dataType : ℕ)
    (hoption : env.sessionOption 0 = some maxSendSize)
    (hsmall : data.length + headerLen ≤ maxSendSize) :
    DataSenderReceiver.sendUnpackData env data dataType =
      DataSenderReceiver.sendAllPackets env data dataType := by
  rw [DataSenderReceiver.sendUnpackData, hoption]
  exact if_pos hsmall

theorem sendBytesData_single
    (beyond : ℕ → UInt8) (hpos : 0 < data.length)
    (hle : data.length ≤ binaryPayloadMaxLen)
    (hsmall : data.length + headerLen ≤ options 0) :
    DataSenderReceiver.sendBytesData (.ofOptions options beyond) data =
      (.errOk, (Transmission.single data hpos hle).packets) := by
  have hbound : headerLen + data.length < dschedMaxBufferSize := by
    simp only [binaryPayloadMaxLen, dschedMaxBufferSize, headerLen_eq] at *
    omega
  have hheader : (⟨protocolVersion, FragType.fragStartEnd.code,
      DataSenderReceiver.bytesDataType, 0, data.length + headerLen,
      data.length + headerLen, data.length, 0⟩ : SessionDataHeader) =
      (Transmission.single data hpos hle).header 0 data := by
    simp [Transmission.header, Transmission.single, Transmission.flagAt,
      Transmission.count, Transmission.totalLen, Transmission.payload]
  have hsend := @doSendPacket_ok (.ofOptions options beyond) 0
    ((Transmission.single data hpos hle).header 0 data) data 0 data.length
    hpos hbound rfl
  have hbody : readBytes data (SendEnv.ofOptions options beyond).beyond 0
      data.length = data := by
    rw [readBytes_eq_take_drop (by simp)]
    simp
  unfold DataSenderReceiver.sendBytesData
  rw [sendUnpackData_small _ rfl hsmall]
  simp only [DataSenderReceiver.sendAllPackets, hheader, hsend, hbody]
  rfl

/-! ## What is received -/

/-- The bytes the receiver takes out of a packet: as many as the header
announces, wherever the packet ends. -/
def fragmentPiece (data : Bytes) (options : ℕ → ℕ)
    (beyond recvBeyond : ℕ → UInt8) (index : ℕ) : Bytes :=
  readBytes (fragmentPacket data options beyond index) recvBeyond headerLen
    (options index - headerLen)

@[simp] theorem length_fragmentPiece
    (beyond recvBeyond : ℕ → UInt8) (index : ℕ) :
    (fragmentPiece data options beyond recvBeyond index).length =
      options index - headerLen := by
  simp [fragmentPiece]

theorem fragmentHeader_inRange
    (h : Admissible options) (hsize : data.length < dschedMaxBufferSize)
    (index : ℕ) : (fragmentHeader data options index).InRange := by
  obtain ⟨-, hhigh⟩ := h index
  simp only [dschedMaxBufferSize, binaryPayloadMaxLen, headerLen_eq] at *
  refine ⟨by simp [fragmentHeader, protocolVersion], ?_,
    by simp [fragmentHeader, DataSenderReceiver.bytesDataType],
    by simp [fragmentHeader], ?_, ?_, ?_, ?_⟩
  · cases hflag : fragmentFlag data options index <;>
      simp [fragmentHeader, hflag, FragType.code]
  · simp only [fragmentHeader]
    omega
  · simp only [fragmentHeader]
    omega
  · simp only [fragmentHeader]
    omega
  · simp only [fragmentHeader]
    exact Nat.mod_lt _ (by norm_num)

theorem recv_fragmentPacket
    (h : Admissible options) (hsize : data.length < dschedMaxBufferSize)
    (beyond : ℕ → UInt8) (state : Assembly) (memory : RecvMemory)
    (index : ℕ) :
    state.recv (memory, fragmentPacket data options beyond index) =
      if options index ≤ data.length then
        state.step (fragmentHeader data options index)
          (fragmentPiece data options beyond memory.beyond index)
      else ((.writeSessionHeaderFailed, none), state) := by
  obtain ⟨hlow, hhigh⟩ := h index
  have hread : deserialize memory.stack
      (fragmentPacket data options beyond index) =
      if (fragmentHeader data options index).checkLengths then
        some (fragmentHeader data options index)
      else none :=
    deserialize_serialize_append (fragmentHeader_inRange h hsize index) _ _
  have hcheck : (fragmentHeader data options index).checkLengths = true ↔
      options index ≤ data.length := by
    rw [checkLengths_iff]
    simp only [fragmentHeader, binaryPayloadMaxLen, binaryDataMaxTotalLen,
      headerLen_eq] at *
    omega
  have hoffset : (fragmentHeader data options index).packetLen -
      (fragmentHeader data options index).payloadLen = headerLen := by
    simp only [fragmentHeader]
    omega
  unfold Assembly.recv
  simp only [hread, hcheck]
  by_cases haccepted : options index ≤ data.length
  · simp only [if_pos haccepted, DataSenderReceiver.packetPayload, hoffset]
    rfl
  · simp only [if_neg haccepted]

theorem flag_fragmentHeader (data : Bytes) (options : ℕ → ℕ) (index : ℕ) :
    FragType.ofCode? (fragmentHeader data options index).fragFlag =
      some (fragmentFlag data options index) := by
  simp [fragmentHeader]

theorem fragmentFlag_succ (h : Admissible options) (index : ℕ) :
    fragmentFlag data options (index + 1) =
      if index + 2 < fragmentCount data options then .fragMid
      else .fragEnd := by
  have hmid : fragmentLen options <
      data.length - (index + 1) * fragmentLen options ↔
      index + 2 < fragmentCount data options := by
    rw [h.lt_fragmentCount_iff, Nat.add_mul, Nat.add_mul]
    omega
  simp only [fragmentFlag, hmid, Nat.add_eq_zero_iff, one_ne_zero, and_false,
    if_false]

theorem step_fragment_zero
    {piece : Bytes} :
    Assembly.idle.step (fragmentHeader data options 0) piece =
      if Assembly.Opens data.length piece then
        ((.errOk, none), .collecting data.length piece 0)
      else ((.writePayloadToBufferFailed, none), .idle) := by
  have hsub : Assembly.idle.ExpectsSub
      (fragmentHeader data options 0).subSeq := .inl ⟨rfl, rfl⟩
  have hflag : fragmentFlag data options 0 = .fragStart := rfl
  rw [Assembly.step, if_neg (by simp [fragmentHeader]), if_pos hsub]
  simp only [Assembly.stepByFlag, flag_fragmentHeader, hflag]
  rfl

theorem step_fragment_succ
    (h : Admissible options) {piece received : Bytes} {index : ℕ}
    (hindex : index < 2 ^ 16) :
    (Assembly.collecting data.length received index).step
        (fragmentHeader data options (index + 1)) piece =
      if index + 1 = 2 ^ 16 then
        ((.invalidSessionHeaderSubSeq, none),
          .collecting data.length received index)
      else if Assembly.Fits data.length received piece then
        if index + 2 < fragmentCount data options then
          ((.errOk, none),
            .collecting data.length (received ++ piece) (index + 1))
        else ((.errOk, some (received ++ piece)), .idle)
      else ((.writePayloadToBufferFailed, none), .idle) := by
  have hseq : ¬(fragmentHeader data options (index + 1)).seqNum ≠ 0 := by
    simp [fragmentHeader]
  have htotal : ¬data.length ≠
      (fragmentHeader data options (index + 1)).totalLen := by
    simp [fragmentHeader]
  have hnumber : (fragmentHeader data options (index + 1)).subSeq =
      (index + 1) % 2 ^ 16 := rfl
  rw [Assembly.step, if_neg hseq]
  by_cases hwrap : index + 1 = 2 ^ 16
  · have hsub : ¬(Assembly.collecting data.length received index).ExpectsSub
        (fragmentHeader data options (index + 1)).subSeq := by
      rw [hnumber, hwrap]
      simp only [Assembly.ExpectsSub, Assembly.lastSub]
      omega
    rw [if_neg hsub, if_pos hwrap]
  · have hmod : (index + 1) % 2 ^ 16 = index + 1 :=
      Nat.mod_eq_of_lt (by omega)
    have hsub : (Assembly.collecting data.length received index).ExpectsSub
        (fragmentHeader data options (index + 1)).subSeq := by
      rw [hnumber, hmod]
      exact .inr rfl
    rw [if_pos hsub, if_neg hwrap]
    by_cases hmid : index + 2 < fragmentCount data options
    · have hflag : fragmentFlag data options (index + 1) = .fragMid := by
        rw [fragmentFlag_succ h, if_pos hmid]
      simp only [Assembly.stepByFlag, flag_fragmentHeader, hflag, if_neg htotal,
        if_pos hmid, hnumber, hmod]
    · have hflag : fragmentFlag data options (index + 1) = .fragEnd := by
        rw [fragmentFlag_succ h, if_neg hmid]
      simp only [Assembly.stepByFlag, flag_fragmentHeader, hflag, if_neg htotal,
        if_neg hmid]

/-! ## When the buffer comes back -/

/-- A send that reports success gives the buffer back to a fresh receiver,
whatever memory surrounds the buffers on both sides. -/
def RoundTrips (data : Bytes) (options : ℕ → ℕ) : Prop :=
  ∀ (beyond : ℕ → UInt8) (memories : List RecvMemory),
    let sent :=
      DataSenderReceiver.sendBytesData (.ofOptions options beyond) data
    sent.1 = .errOk → memories.length = sent.2.length →
      Transmission.DeliveredLast
        (DataSenderReceiver.processAll .initial (memories.zip sent.2)).1 data

def chunkLen (data : Bytes) (options : ℕ → ℕ) (index : ℕ) : ℕ :=
  min (fragmentLen options) (data.length - index * fragmentLen options)

/-- The buffer fits one packet, or every answer of `GetSessionOption` is the
exact size of the packet it is asked for, none of them is longer than the
whole message, and the fragment numbers do not wrap around. -/
def Matches (data : Bytes) (options : ℕ → ℕ) : Prop :=
  data.length + headerLen ≤ options 0 ∨
    (options 0 ≤ data.length ∧ fragmentCount data options ≤ 2 ^ 16 ∧
      ∀ index < fragmentCount data options,
        options index = headerLen + chunkLen data options index)

theorem fragmentPiece_eq
    {index : ℕ} (hoption : options index = headerLen + chunkLen data options index)
    (hindex : index * fragmentLen options < data.length)
    (beyond recvBeyond : ℕ → UInt8) :
    fragmentPiece data options beyond recvBeyond index =
      (data.drop (index * fragmentLen options)).take
        (fragmentLen options) := by
  have hlength := length_serialize (fragmentHeader data options index)
  have hlen : options index - headerLen = chunkLen data options index := by
    omega
  have hle : chunkLen data options index ≤ fragmentLen options :=
    min_le_left _ _
  have hrest : index * fragmentLen options + chunkLen data options index ≤
      data.length := by
    unfold chunkLen
    omega
  unfold fragmentPiece fragmentPacket
  rw [hlen, ← hlength, readBytes_append_of_le (by simpa using hle),
    take_readBytes data beyond _ hle, readBytes_eq_take_drop hrest,
    List.take_eq_take_iff, List.length_drop]
  unfold chunkLen
  omega

theorem exists_fragmentCount
    (h : Admissible options) (hfirst : options 0 ≤ data.length) :
    ∃ left, fragmentCount data options = left + 2 := by
  have hheader := (h 0).1
  have htwo : 1 < fragmentCount data options := by
    rw [h.lt_fragmentCount_iff, one_mul, fragmentLen]
    rw [headerLen_eq] at *
    omega
  exact ⟨fragmentCount data options - 2, by omega⟩

section Sufficiency

variable (h : Admissible options) (hsize : data.length < dschedMaxBufferSize)
  (hfirst : options 0 ≤ data.length)
  (hcount : fragmentCount data options ≤ 2 ^ 16)
  (hoptions : ∀ index < fragmentCount data options,
    options index = headerLen + chunkLen data options index)
include h hsize hfirst hcount hoptions

theorem recv_matching
    (beyond : ℕ → UInt8) (memory : RecvMemory) {index : ℕ}
    (hindex : index + 1 < fragmentCount data options) :
    (Assembly.collecting data.length
        (data.take ((index + 1) * fragmentLen options)) index).recv
        (memory, fragmentPacket data options beyond (index + 1)) =
      if index + 2 < fragmentCount data options then
        ((.errOk, none), .collecting data.length
          (data.take ((index + 2) * fragmentLen options)) (index + 1))
      else ((.errOk, some data), .idle) := by
  have hcurrent := (h.lt_fragmentCount_iff (index + 1)).mp hindex
  have hpos := h.fragmentLen_pos
  have hoption := hoptions (index + 1) hindex
  have hchunk : chunkLen data options (index + 1) ≤ fragmentLen options :=
    min_le_left _ _
  have haccepted : options (index + 1) ≤ data.length := by
    unfold fragmentLen at hchunk
    have hheader := (h 0).1
    omega
  have hpiece := fragmentPiece_eq hoption hcurrent beyond memory.beyond
  have hnext : data.take ((index + 1) * fragmentLen options) ++
      (data.drop ((index + 1) * fragmentLen options)).take
        (fragmentLen options) =
      data.take ((index + 2) * fragmentLen options) := by
    rw [← List.take_add]
    congr 1
    ring
  have hfits : Assembly.Fits data.length
      (data.take ((index + 1) * fragmentLen options))
      ((data.drop ((index + 1) * fragmentLen options)).take
        (fragmentLen options)) := by
    simp only [Assembly.Fits, List.length_take, List.length_drop]
    omega
  rw [recv_fragmentPacket h hsize, if_pos haccepted, hpiece,
    step_fragment_succ h (by omega), if_neg (by omega), if_pos hfits, hnext]
  by_cases hmore : index + 2 < fragmentCount data options
  · rw [if_pos hmore, if_pos hmore]
  · have hend : ¬(index + 2) * fragmentLen options < data.length :=
      fun hlt => hmore ((h.lt_fragmentCount_iff (index + 2)).mpr hlt)
    rw [if_neg hmore, if_neg hmore, List.take_of_length_le (by omega)]

theorem recvAll_matching
    (beyond : ℕ → UInt8) {memories : List RecvMemory} {index left : ℕ}
    (hleft : index + 2 + left = fragmentCount data options)
    (hlength : memories.length = left + 1) :
    (Assembly.collecting data.length
        (data.take ((index + 1) * fragmentLen options)) index).recvAll
        (memories.zip ((List.range' (index + 1) (left + 1)).map
          (fragmentPacket data options beyond))) =
      (List.replicate left (CollabErr.errOk, none) ++
        [(CollabErr.errOk, some data)], .idle) := by
  induction left generalizing index memories with
  | zero =>
      obtain ⟨memory, rfl⟩ := List.length_eq_one_iff.mp hlength
      have hrecv := recv_matching h hsize hfirst hcount hoptions beyond memory
        (by omega : index + 1 < fragmentCount data options)
      rw [if_neg (by omega)] at hrecv
      simp [Assembly.recvAll, hrecv]
  | succ left ih =>
      obtain ⟨memory, memories, rfl⟩ :=
        List.exists_cons_of_length_eq_add_one hlength
      have hrecv := recv_matching h hsize hfirst hcount hoptions beyond memory
        (by omega : index + 1 < fragmentCount data options)
      rw [if_pos (by omega)] at hrecv
      have hnext := @ih memories (index + 1) (by omega) (by simpa using hlength)
      simp only [Assembly.recvAll] at hnext
      rw [List.range'_succ, List.map_cons, List.zip_cons_cons,
        Assembly.recvAll, EventRun.run_cons, hrecv]
      simp only [hnext, List.replicate_succ, List.cons_append]

theorem roundTrips_of_matching : RoundTrips data options := by
  intro beyond memories sent _ hlength
  have hheader := (h 0).1
  have hlarge : options 0 < data.length + headerLen := by
    rw [headerLen_eq] at *
    omega
  obtain ⟨left, hleft⟩ := exists_fragmentCount h hfirst
  have hsent : sent = (.errOk, fragmentPacket data options beyond 0 ::
      (List.range' 1 (left + 1)).map (fragmentPacket data options beyond)) := by
    have hrange := range_eq_cons (by omega : 0 < fragmentCount data options)
    rw [hleft, Nat.add_sub_assoc (by norm_num)] at hrange
    rw [← List.map_cons, ← hrange, ← hleft]
    exact sendBytesData_fragmented h beyond hlarge
  rw [hsent] at hlength ⊢
  obtain ⟨memory, memories, rfl⟩ :=
    List.exists_cons_of_length_eq_add_one hlength
  have hpos := h.fragmentLen_pos
  have hpiece := fragmentPiece_eq (hoptions 0 (by omega)) (by omega) beyond
    memory.beyond
  rw [zero_mul, List.drop_zero] at hpiece
  have hopens : Assembly.Opens data.length
      (data.take (fragmentLen options)) := by
    simp only [Assembly.Opens, Assembly.Fits, List.length_take,
      List.length_nil]
    omega
  have hrecv : Assembly.idle.recv
      (memory, fragmentPacket data options beyond 0) =
      ((.errOk, none), .collecting data.length
        (data.take (fragmentLen options)) 0) := by
    rw [recv_fragmentPacket h hsize, if_pos hfirst, hpiece,
      step_fragment_zero, if_pos hopens]
  have hrest := @recvAll_matching data options h hsize hfirst hcount hoptions
    beyond memories 0 left (by omega) (by simpa using hlength)
  simp only [zero_add, one_mul, Assembly.recvAll] at hrest
  have hrun : Assembly.idle.recvAll ((memory :: memories).zip
      (fragmentPacket data options beyond 0 ::
        (List.range' 1 (left + 1)).map
          (fragmentPacket data options beyond))) =
      (List.replicate (left + 1) (CollabErr.errOk, none) ++
        [(CollabErr.errOk, some data)], .idle) := by
    rw [List.zip_cons_cons, Assembly.recvAll, EventRun.run_cons, hrecv]
    simp only [hrest, List.replicate_succ, List.cons_append]
  rw [Assembly.processAll_initial, hrun]
  exact Transmission.deliveredLast_replicate _ _

end Sufficiency

theorem roundTrips_of_small
    (hpos : 0 < data.length) (h : Admissible options)
    (hsmall : data.length + headerLen ≤ options 0) :
    RoundTrips data options := by
  intro beyond memories sent _ hlength
  have hle : data.length ≤ binaryPayloadMaxLen := by
    have hhigh := (h 0).2
    omega
  have hsent : sent = (.errOk, (Transmission.single data hpos hle).packets) :=
    sendBytesData_single beyond hpos hle hsmall
  have haccepted : ∀ fragment ∈ (Transmission.single data hpos hle).fragments,
      (Transmission.single data hpos hle).Accepted fragment := by
    simp [Transmission.single, Transmission.Accepted, Transmission.totalLen,
      Transmission.count, Transmission.payload]
  rw [hsent] at hlength ⊢
  have hrun := Transmission.recvAll_idle haccepted hlength
  rw [Assembly.processAll_initial, hrun]
  have hpayload : (Transmission.single data hpos hle).payload = data := by
    simp [Transmission.payload, Transmission.single]
  rw [hpayload]
  exact Transmission.deliveredLast_replicate _ _

section Necessity

variable (h : Admissible options) (hsize : data.length < dschedMaxBufferSize)
  (beyond : ℕ → UInt8) (memory : RecvMemory)
include h hsize

theorem recv_of_errOk
    {received : Bytes} {index : ℕ} (hindex : index < 2 ^ 16)
    (herrOk : ((Assembly.collecting data.length received index).recv
      (memory, fragmentPacket data options beyond (index + 1))).1.1 = .errOk) :
    index + 1 < 2 ^ 16 ∧
      (Assembly.collecting data.length received index).recv
          (memory, fragmentPacket data options beyond (index + 1)) =
        if index + 2 < fragmentCount data options then
          ((.errOk, none), .collecting data.length (received ++
            fragmentPiece data options beyond memory.beyond (index + 1))
              (index + 1))
        else ((.errOk, some (received ++
          fragmentPiece data options beyond memory.beyond (index + 1))),
            .idle) := by
  rw [recv_fragmentPacket h hsize, step_fragment_succ h hindex] at *
  split_ifs at * with haccepted hwrap hfits hmore
  · exact ⟨by omega, rfl⟩
  · exact ⟨by omega, rfl⟩

/-- If every packet is taken, the fragment numbers have not wrapped around
and the delivered buffer is made of the pieces. -/
theorem getLast?_of_errOk
    {received : Bytes} {index left : ℕ} (hindex : index < 2 ^ 16)
    (hleft : index + 2 + left = fragmentCount data options)
    (herrOk : ∀ result ∈ ((Assembly.collecting data.length received
        index).recvAll ((List.range' (index + 1) (left + 1)).map fun i =>
          (memory, fragmentPacket data options beyond i))).1,
      result.1 = .errOk) :
    fragmentCount data options ≤ 2 ^ 16 ∧
      ((Assembly.collecting data.length received index).recvAll
        ((List.range' (index + 1) (left + 1)).map fun i =>
          (memory, fragmentPacket data options beyond i))).1.getLast? =
        some (.errOk, some (received ++
          (List.range' (index + 1) (left + 1)).flatMap
            (fragmentPiece data options beyond memory.beyond))) := by
  induction left generalizing index received with
  | zero =>
      simp only [Assembly.recvAll, zero_add, List.range'_one, List.map_cons,
        List.map_nil, EventRun.run_cons, EventRun.run_nil,
        List.forall_mem_cons] at herrOk
      obtain ⟨hnumber, hrecv⟩ :=
        recv_of_errOk h hsize beyond memory hindex herrOk.1
      rw [if_neg (by omega)] at hrecv
      refine ⟨by omega, ?_⟩
      simp [Assembly.recvAll, hrecv]
  | succ left ih =>
      rw [List.range'_succ] at herrOk ⊢
      simp only [Assembly.recvAll, List.map_cons, EventRun.run_cons,
        List.forall_mem_cons] at herrOk
      obtain ⟨hnumber, hrecv⟩ :=
        recv_of_errOk h hsize beyond memory hindex herrOk.1
      rw [if_pos (by omega)] at hrecv
      rw [hrecv] at herrOk
      obtain ⟨hcount, hlast⟩ := ih hnumber (by omega) herrOk.2
      refine ⟨hcount, ?_⟩
      simp only [Assembly.recvAll] at hlast
      simp only [Assembly.recvAll, List.map_cons, EventRun.run_cons, hrecv,
        List.flatMap_cons]
      rw [List.getLast?_cons, hlast]
      simp

omit memory in
theorem recv_zero_of_errOk
    (memory : RecvMemory)
    (herrOk : (Assembly.idle.recv
      (memory, fragmentPacket data options beyond 0)).1.1 = .errOk) :
    options 0 ≤ data.length ∧
      Assembly.idle.recv (memory, fragmentPacket data options beyond 0) =
        ((.errOk, none), .collecting data.length
          (fragmentPiece data options beyond memory.beyond 0) 0) := by
  rw [recv_fragmentPacket h hsize, step_fragment_zero] at *
  split_ifs at * with haccepted hopens
  · exact ⟨haccepted, rfl⟩

omit memory beyond in
theorem pieces_of_roundTrips
    (hlarge : options 0 < data.length + headerLen)
    (hround : RoundTrips data options) (byte : UInt8) :
    options 0 ≤ data.length ∧ fragmentCount data options ≤ 2 ^ 16 ∧
      data = (List.range (fragmentCount data options)).flatMap
        (fragmentPiece data options (fun _ => byte) fun _ => byte) := by
  let beyond : ℕ → UInt8 := fun _ => byte
  let memory : RecvMemory := ⟨⟨0, 0, 0, 0, 0, 0, 0, 0⟩, beyond⟩
  have hsent := sendBytesData_fragmented h beyond hlarge
  have hdelivered := hround beyond
    ((List.range (fragmentCount data options)).map fun _ => memory)
    (by rw [hsent]) (by rw [hsent]; simp)
  rw [hsent, Assembly.processAll_initial] at hdelivered
  simp only [List.zip_map'] at hdelivered
  have herrOk := hdelivered.errOk
  have hzero : 0 < fragmentCount data options := by
    rw [h.lt_fragmentCount_iff, zero_mul]
    have hheader := (h 0).1
    omega
  rw [range_eq_cons hzero] at hdelivered herrOk ⊢
  simp only [Assembly.recvAll, List.map_cons, EventRun.run_cons,
    List.forall_mem_cons] at herrOk
  obtain ⟨hfirst, hrecv⟩ := recv_zero_of_errOk h hsize beyond memory herrOk.1
  obtain ⟨left, hleft⟩ := exists_fragmentCount h hfirst
  have hrest : fragmentCount data options - 1 = left + 1 := by omega
  rw [hrecv, hrest] at herrOk
  obtain ⟨hcount, hlast⟩ := getLast?_of_errOk h hsize beyond memory
    (by norm_num : 0 < 2 ^ 16) (by omega) herrOk.2
  have hdata := hdelivered.getLast?_eq
  rw [hrest] at hdata ⊢
  simp only [Assembly.recvAll] at hlast
  simp only [Assembly.recvAll, List.map_cons, EventRun.run_cons,
    hrecv] at hdata
  rw [List.getLast?_cons, hlast] at hdata
  refine ⟨hfirst, hcount, ?_⟩
  rw [List.flatMap_cons]
  simpa [eq_comm] using hdata

end Necessity

theorem eq_of_flatMap_eq {α β : Type*} {l : List α} {f g : α → List β}
    (hlength : ∀ a ∈ l, (f a).length = (g a).length)
    (h : l.flatMap f = l.flatMap g) : ∀ a ∈ l, f a = g a := by
  induction l with
  | nil => simp
  | cons a l ih =>
      rw [List.flatMap_cons, List.flatMap_cons] at h
      obtain ⟨hhead, htail⟩ :=
        List.append_inj h (hlength a List.mem_cons_self)
      intro b hb
      rcases List.mem_cons.mp hb with rfl | hb
      · exact hhead
      · exact ih (fun c hc => hlength c (List.mem_cons_of_mem _ hc)) htail b hb

theorem getElem?_fragmentPiece_overrun
    {index : ℕ} (hoverrun : chunkLen data options index <
      options index - headerLen) (byte : UInt8) :
    (fragmentPiece data options (fun _ => byte) (fun _ => byte)
      index)[chunkLen data options index]? = some byte := by
  have hlength := length_serialize (fragmentHeader data options index)
  unfold fragmentPiece
  rw [getElem?_readBytes _ _ hoverrun]
  unfold fragmentPacket
  rw [List.getElem?_append_right (by omega), hlength, Nat.add_sub_cancel_left]
  by_cases hinside : chunkLen data options index < fragmentLen options
  · have hend : data.length ≤ index * fragmentLen options +
        chunkLen data options index := by
      unfold chunkLen at *
      omega
    rw [getElem?_readBytes _ _ hinside, List.getElem?_eq_none hend]
    rfl
  · rw [List.getElem?_eq_none (by simpa using hinside)]
    rfl

theorem sum_chunkLen (data : Bytes) (options : ℕ → ℕ) (count : ℕ) :
    ∑ index ∈ Finset.range count, chunkLen data options index =
      min (count * fragmentLen options) data.length := by
  induction count with
  | zero => simp
  | succ count ih =>
      rw [Finset.sum_range_succ, ih, chunkLen, Nat.add_mul, one_mul]
      omega

theorem matches_of_roundTrips
    (h : Admissible options) (hsize : data.length < dschedMaxBufferSize)
    (hround : RoundTrips data options) : Matches data options := by
  by_cases hsmall : data.length + headerLen ≤ options 0
  · exact .inl hsmall
  · have hlarge : options 0 < data.length + headerLen := by omega
    obtain ⟨hfirst, hcount, hzeros⟩ :=
      pieces_of_roundTrips h hsize hlarge hround 0
    obtain ⟨-, -, hones⟩ := pieces_of_roundTrips h hsize hlarge hround 1
    have hpieces := eq_of_flatMap_eq (by simp) (hzeros.symm.trans hones)
    have hle : ∀ index ∈ Finset.range (fragmentCount data options),
        options index - headerLen ≤ chunkLen data options index := by
      intro index hindex
      by_contra hoverrun
      have hlt := Nat.lt_of_not_le hoverrun
      have hpiece := hpieces index (by simpa using hindex)
      have hzero := getElem?_fragmentPiece_overrun hlt 0
      have hone := getElem?_fragmentPiece_overrun hlt 1
      rw [hpiece, hone] at hzero
      exact absurd hzero (by decide)
    have htotal : ∑ index ∈ Finset.range (fragmentCount data options),
        (options index - headerLen) = data.length := by
      have hlength := congrArg List.length hzeros
      rw [List.length_flatMap] at hlength
      simp only [length_fragmentPiece] at hlength
      exact hlength.symm
    have hchunks : ∑ index ∈ Finset.range (fragmentCount data options),
        chunkLen data options index = data.length := by
      have hend : ¬fragmentCount data options * fragmentLen options <
          data.length :=
        fun hlt => lt_irrefl _ ((h.lt_fragmentCount_iff _).mpr hlt)
      rw [sum_chunkLen]
      omega
    have hequal := (Finset.sum_eq_sum_iff_of_le hle).mp
      (htotal.trans hchunks.symm)
    refine .inr ⟨hfirst, hcount, ?_⟩
    intro index hindex
    have hpayload := hequal index (Finset.mem_range.mpr hindex)
    have hheader := (h index).1
    omega

/-- A buffer survives the channel exactly if it fits one packet or the
answers of `GetSessionOption` match its fragments. -/
theorem roundTrips_iff_matches
    (hpos : 0 < data.length) (hsize : data.length < dschedMaxBufferSize)
    (h : Admissible options) :
    RoundTrips data options ↔ Matches data options := by
  constructor
  · exact matches_of_roundTrips h hsize
  · rintro (hsmall | ⟨hfirst, hcount, hoptions⟩)
    · exact roundTrips_of_small hpos h hsmall
    · exact roundTrips_of_matching h hsize hfirst hcount hoptions

theorem admissible_hundred : Admissible fun _ => 100 := by
  intro index
  norm_num [headerLen_eq, binaryPayloadMaxLen]

/-- Three packets of a constant size that divides the buffer. -/
theorem roundTrips_exact_multiple :
    RoundTrips (List.replicate 129 7) fun _ => 100 := by
  refine (roundTrips_iff_matches (by decide +kernel) (by decide +kernel)
    admissible_hundred).mpr (.inr ⟨?_, ?_, ?_⟩)
  · decide +kernel
  · decide +kernel
  · decide +kernel

/-- One byte more: the last packet announces more than is left and the whole
message is dropped. -/
theorem not_roundTrips_remainder :
    Admissible (fun _ => 100) ∧
      ¬RoundTrips (List.replicate 130 7) fun _ => 100 := by
  refine ⟨admissible_hundred, fun hround => ?_⟩
  have hdelivered := hround (fun _ => 0)
    (List.replicate 4 Transmission.quietMemory) (by decide +kernel)
    (by decide +kernel)
  revert hdelivered
  decide +kernel

end BytesFragments

end Dmsfwk
