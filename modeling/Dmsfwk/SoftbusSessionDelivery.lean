import Dmsfwk.DSchedSoftbusSession

/-!
# Delivery over the distributed scheduler's softbus session

Every call of `SendData` leaves a prefix of the packets of its buffer on the
session, depending on when softbus refused an option or a packet.  The peer
reports exactly the buffers whose packets all arrived.  The reason is that a
call's first packet never depends on the assembly state: it carries the whole
buffer or restarts the assembly, so the packets of one call can be followed
from an arbitrary state.
-/

namespace Dmsfwk

open ByteCodec
open TlvCodec
open AVTransDataBuffer

namespace DSchedSoftbusSession

/-! ## Reading a packet -/

structure SessionDataHeader.InRange (header : SessionDataHeader) : Prop where
  version : header.version < 2 ^ 16
  fragFlag : header.fragFlag < 2 ^ 8
  dataType : header.dataType < 2 ^ 32
  seqNum : header.seqNum < 2 ^ 32
  totalLen : header.totalLen < 2 ^ 32
  subSeq : header.subSeq < 2 ^ 16
  dataLen : header.dataLen < 2 ^ 32

theorem makeFragDataHeader_eq_flatMap (header : SessionDataHeader) :
    makeFragDataHeader header =
      (headerItems header).flatMap TlvItem.encode := by
  apply layOut_eq_flatMap_encode
  · intro item hitem room hroom
    have hpos : 0 < item.len := by
      simp only [headerItems, List.mem_cons, List.not_mem_nil,
        or_false] at hitem
      rcases hitem with rfl | rfl | rfl | rfl | rfl | rfl | rfl <;> simp
    have hcopy : ¬(room = 0 ∨ room < item.len) := by
      simp only [TlvItem.size] at hroom
      omega
    simp [writeTlvToBuffer, Nat.not_lt.mpr hroom, memcpyS, hcopy,
      TlvItem.encode]
  · simp [headerItems, TlvItem.size, itemHeaderLen, binaryHeaderFragLen]

@[simp] theorem length_makeFragDataHeader (header : SessionDataHeader) :
    (makeFragDataHeader header).length = binaryHeaderFragLen := by
  simp [makeFragDataHeader_eq_flatMap, headerItems, TlvItem.size,
    itemHeaderLen, binaryHeaderFragLen]

theorem SessionDataHeader.InRange.items_wellFormed
    {header : SessionDataHeader} (hrange : header.InRange) :
    ∀ item ∈ headerItems header, item.WellFormed := by
  intro item hitem
  obtain ⟨hversion, hfragFlag, hdataType, hseqNum, htotalLen, hsubSeq,
    hdataLen⟩ := hrange
  simp only [headerItems, List.mem_cons, List.not_mem_nil, or_false] at hitem
  rcases hitem with rfl | rfl | rfl | rfl | rfl | rfl | rfl <;>
    constructor <;>
    simp [tlvTypeVersion, tlvTypeFragFlag, tlvTypeDataType, tlvTypeSeqNum,
      tlvTypeTotalLen, tlvTypeSubSeq, tlvTypeDataLen] <;>
    omega

theorem getFragDataHeader_append
    {header : SessionDataHeader} (hrange : header.InRange)
    (stack : SessionDataHeader) (body : Bytes) :
    getFragDataHeader stack (makeFragDataHeader header ++ body) =
      some header := by
  have hwindow : (makeFragDataHeader header ++ body).take
      binaryHeaderFragLen = makeFragDataHeader header := by
    rw [← length_makeFragDataHeader header, List.take_left]
  have hitems := hrange.items_wellFormed
  obtain ⟨hversion, hfragFlag, hdataType, hseqNum, htotalLen, hsubSeq,
    hdataLen⟩ := hrange
  unfold getFragDataHeader
  rw [hwindow, makeFragDataHeader_eq_flatMap,
    scan_flatMap_encode (by decide) (by intro n hn; simp; omega) hitems
      (by simp [headerItems, binaryHeaderFragLen])]
  simp [headerItems, readTlvToHeader, tlvTypeVersion, tlvTypeFragFlag,
    tlvTypeDataType, tlvTypeSeqNum, tlvTypeTotalLen, tlvTypeSubSeq,
    tlvTypeDataLen, copyToField_uint16 hversion, copyToField_uint8 hfragFlag,
    copyToField_uint32 hdataType, copyToField_uint32 hseqNum,
    copyToField_uint32 htotalLen, copyToField_uint16 hsubSeq,
    copyToField_uint32 hdataLen]

theorem packRecvData_packet
    {header : SessionDataHeader} {body : Bytes} (hrange : header.InRange)
    (hbody : header.dataLen = body.length)
    (htotal : header.dataLen ≤ header.totalLen)
    (hmax : header.dataLen ≤ binaryDataMaxLen)
    (hmaxTotal : header.totalLen ≤ binaryDataMaxTotalLen)
    (stack : SessionDataHeader) (session : DSchedSoftbusSession) :
    packRecvData stack session (makeFragDataHeader header ++ body) =
      if header.fragFlag = FragType.fragStartEnd.code then
        (assembleNoFrag (makeFragDataHeader header ++ body) header, session)
      else
        session.assembleFrag (makeFragDataHeader header ++ body) header := by
  have hlength : (makeFragDataHeader header ++ body).length =
      binaryHeaderFragLen + body.length := by simp
  have hmod : (header.dataLen + binaryHeaderFragLen) % 2 ^ 32 =
      binaryHeaderFragLen + body.length := by
    simp only [binaryDataMaxLen, binaryHeaderFragLen] at *
    omega
  have hlengths : ¬((makeFragDataHeader header ++ body).length ≠
        (header.dataLen + binaryHeaderFragLen) % 2 ^ 32 ∨
      header.totalLen < header.dataLen ∨ binaryDataMaxLen < header.dataLen ∨
      binaryDataMaxTotalLen < header.totalLen) := by
    rw [hmod]
    omega
  rw [packRecvData, if_neg (by omega), getFragDataHeader_append hrange]
  simp only [if_neg hlengths]

/-! ## Writing a packet -/

theorem makePacket_eq
    (header : SessionDataHeader) {capacity : ℕ} {body : Bytes}
    (hcapacity : capacity = body.length + binaryHeaderFragLen)
    (hpos : 0 < body.length) (hbound : capacity < dschedMaxBufferSize) :
    makePacket header capacity body =
      some (makeFragDataHeader header ++ body) := by
  have hbuffer : ofCapacity capacity =
      ⟨List.replicate capacity 0, 0, capacity⟩ := by
    rw [ofCapacity, if_pos ⟨by omega, hbound⟩]
  have hdata : ¬List.replicate capacity (0 : UInt8) = [] := by
    simp only [List.replicate_eq_nil_iff]
    omega
  have hlength := length_makeFragDataHeader header
  have hcopy := @memcpyS_append_replicate (makeFragDataHeader header) body
    capacity (by omega) (by omega)
  have hfull : capacity - (makeFragDataHeader header ++ body).length = 0 := by
    simp only [List.length_append]
    omega
  rw [hfull, List.replicate_zero, List.append_nil, hlength] at hcopy
  simp only [makePacket, hbuffer, if_neg hdata, AVTransDataBuffer.size,
    List.drop_replicate, hcopy]

/-! ## The assembly state during one message -/

def assembling (data : Bytes) (offset lastSub : ℕ) : DSchedSoftbusSession where
  isWaiting := true
  nowSeq := 0
  nowSubSeq := lastSub
  offset := offset
  totalLen := data.length
  packBuffer := some ⟨data.take offset ++
    List.replicate (data.length - offset) 0, 0, data.length⟩

theorem checkUnPackBuffer_assembling {data : Bytes} {offset lastSub : ℕ}
    {header : SessionDataHeader} (hsize : data.length < dschedMaxBufferSize)
    (hseq : header.seqNum = 0) (hfits : header.dataLen + offset ≤ data.length) :
    (assembling data offset lastSub).checkUnPackBuffer header =
      (lastSub + 1 == header.subSeq) := by
  have hmod : (header.dataLen + offset) % 2 ^ 32 = header.dataLen + offset := by
    simp only [dschedMaxBufferSize] at hsize
    omega
  have hroom : ¬data.length < header.dataLen + offset := by omega
  simp only [checkUnPackBuffer, assembling, hseq, hmod, decide_eq_false hroom]
  simp

structure Describes (header : SessionDataHeader) (data : Bytes)
    (dataType offset : ℕ) : Prop where
  inRange : header.InRange
  dataType_eq : header.dataType = dataType
  seqNum_eq : header.seqNum = 0
  totalLen_eq : header.totalLen = data.length
  dataLen_pos : 0 < header.dataLen
  dataLen_le : header.dataLen ≤ data.length - offset
  dataLen_max : header.dataLen ≤ binaryDataMaxLen

section Fragments

variable {data : Bytes} {header : SessionDataHeader} {dataType offset : ℕ}
  (hheader : Describes header data dataType offset)
  (hsize : data.length < dschedMaxBufferSize)
include hheader hsize

def fragmentBody (data : Bytes) (header : SessionDataHeader)
    (offset : ℕ) : Bytes :=
  (data.drop offset).take header.dataLen

omit hsize in
theorem length_fragmentBody :
    (fragmentBody data header offset).length = header.dataLen := by
  have hle := hheader.dataLen_le
  simp only [fragmentBody, List.length_take, List.length_drop]
  omega

theorem packRecvData_fragment
    (stack : SessionDataHeader) (session : DSchedSoftbusSession)
    (hflag : header.fragFlag ≠ FragType.fragStartEnd.code) :
    packRecvData stack session
        (makeFragDataHeader header ++ fragmentBody data header offset) =
      session.assembleFrag
        (makeFragDataHeader header ++ fragmentBody data header offset)
        header := by
  have hbody := length_fragmentBody hheader
  have hle := hheader.dataLen_le
  have htotal := hheader.totalLen_eq
  have hmaxTotal : header.totalLen ≤ binaryDataMaxTotalLen := by
    simp only [dschedMaxBufferSize, binaryDataMaxTotalLen] at *
    omega
  rw [packRecvData_packet hheader.inRange hbody.symm (by omega)
    hheader.dataLen_max hmaxTotal, if_neg hflag]

theorem packRecvData_start
    (hoffset : offset = 0) (hsub : header.subSeq = 0)
    (hflag : header.fragFlag = FragType.fragStart.code)
    (stack : SessionDataHeader) (session : DSchedSoftbusSession) :
    packRecvData stack session
        (makeFragDataHeader header ++ fragmentBody data header offset) =
      (none, assembling data header.dataLen 0) := by
  subst hoffset
  have hbody := length_fragmentBody hheader
  have hle := hheader.dataLen_le
  have hpos := hheader.dataLen_pos
  have hbuffer : ofCapacity data.length =
      ⟨List.replicate data.length 0, 0, data.length⟩ := by
    rw [ofCapacity, if_pos ⟨by omega, hsize⟩]
  have hcopy := @memcpyS_append_replicate []
    (fragmentBody data header 0) data.length (by simp; omega)
    (by simp only [List.length_nil]; omega)
  have hfilled : data.take header.dataLen = fragmentBody data header 0 := by
    simp [fragmentBody]
  simp only [List.nil_append, List.length_nil, Nat.sub_zero, hbody] at hcopy
  have hdrop : (makeFragDataHeader header ++
      fragmentBody data header 0).drop binaryHeaderFragLen =
      fragmentBody data header 0 := by
    rw [← length_makeFragDataHeader header, List.drop_left]
  rw [packRecvData_fragment hheader hsize stack session (by rw [hflag]; decide)]
  simp only [assembleFrag, hflag, FragType.ofCode?_code, startFrag, hbuffer,
    AVTransDataBuffer.size, hdrop, hcopy, assembling, hfilled,
    hheader.seqNum_eq, hsub, hheader.totalLen_eq]

theorem appendFrag_assembling
    {lastSub : ℕ} (hsub : header.subSeq = lastSub + 1) :
    (assembling data offset lastSub).appendFrag
        (makeFragDataHeader header ++ fragmentBody data header offset)
        header =
      some (assembling data (offset + header.dataLen) (lastSub + 1),
        ⟨data.take (offset + header.dataLen) ++
          List.replicate (data.length - (offset + header.dataLen)) 0, 0,
          data.length⟩) := by
  have hbody := length_fragmentBody hheader
  have hle := hheader.dataLen_le
  have hpos := hheader.dataLen_pos
  have hmod : (offset + header.dataLen) % 2 ^ 32 =
      offset + header.dataLen := by
    simp only [dschedMaxBufferSize] at hsize
    omega
  have hcheck : (assembling data offset lastSub).checkUnPackBuffer header =
      true := by
    rw [checkUnPackBuffer_assembling hsize hheader.seqNum_eq (by omega), hsub]
    exact beq_self_eq_true _
  have hfront : (data.take offset).length = offset := by
    simp only [List.length_take]
    omega
  have hjoin : data.take offset ++ fragmentBody data header offset =
      data.take (offset + header.dataLen) := by
    rw [fragmentBody, ← List.take_add]
  have hcopy := @memcpyS_append_replicate (data.take offset)
    (fragmentBody data header offset) data.length (by omega) (by omega)
  have hjoined : (data.take (offset + header.dataLen)).length =
      offset + header.dataLen := by
    simp only [List.length_take]
    omega
  rw [hjoin, hjoined, hfront] at hcopy
  have hdrop : (makeFragDataHeader header ++
      fragmentBody data header offset).drop binaryHeaderFragLen =
      fragmentBody data header offset := by
    rw [← length_makeFragDataHeader header, List.drop_left]
  have hbuffer : (assembling data offset lastSub).packBuffer =
      some ⟨data.take offset ++ List.replicate (data.length - offset) 0, 0,
        data.length⟩ := rfl
  have hstart : (assembling data offset lastSub).offset = offset := rfl
  simp only [appendFrag, hcheck, hbuffer, hstart, AVTransDataBuffer.size,
    hdrop, hcopy, hsub, hmod]
  rfl

theorem packRecvData_next
    {lastSub : ℕ} (hsub : header.subSeq = lastSub + 1)
    (hflag : header.fragFlag = FragType.fragMid.code ∨
      header.fragFlag = FragType.fragEnd.code ∧
        header.dataLen = data.length - offset)
    (stack : SessionDataHeader) :
    packRecvData stack (assembling data offset lastSub)
        (makeFragDataHeader header ++ fragmentBody data header offset) =
      if header.fragFlag = FragType.fragMid.code then
        (none, assembling data (offset + header.dataLen) (lastSub + 1))
      else (some (data, dataType), initial) := by
  have happend := appendFrag_assembling hheader hsize hsub
  rcases hflag with hflag | ⟨hflag, hlast⟩
  · rw [packRecvData_fragment hheader hsize stack _ (by rw [hflag]; decide),
      if_pos hflag]
    simp only [assembleFrag, hflag, FragType.ofCode?_code, happend]
  · have hle := hheader.dataLen_le
    have hpos := hheader.dataLen_pos
    have hend : offset + header.dataLen = data.length := by omega
    rw [packRecvData_fragment hheader hsize stack _ (by rw [hflag]; decide),
      if_neg (by rw [hflag]; decide)]
    simp only [assembleFrag, hflag, FragType.ofCode?_code, happend,
      resetAssembleFrag, hheader.dataType_eq, AVTransDataBuffer.bytes, hend]
    simp

end Fragments

/-! ## The packets of one call -/

def headPara (data : Bytes) (dataType : ℕ) (flag : FragType)
    (subSeq dataLen : ℕ) : SessionDataHeader :=
  ⟨protocolVersion, flag.code, dataType, 0, data.length, subSeq, dataLen⟩

def nextHeader (data : Bytes) (dataType : ℕ) (flag : FragType)
    (subSeq offset maxSendSize : ℕ) : SessionDataHeader :=
  if maxSendSize < data.length - offset then
    headPara data dataType flag subSeq
      (maxSendSize - binaryDataPacketReservedBuffer)
  else headPara data dataType .fragEnd subSeq (data.length - offset)

theorem dataLen_nextHeader_long {data : Bytes} {dataType : ℕ} {flag : FragType}
    {subSeq offset maxSendSize : ℕ}
    (hlong : maxSendSize < data.length - offset) :
    (nextHeader data dataType flag subSeq offset maxSendSize).dataLen =
      maxSendSize - binaryDataPacketReservedBuffer := by
  rw [nextHeader, if_pos hlong]
  rfl

theorem dataLen_nextHeader_last {data : Bytes} {dataType : ℕ} {flag : FragType}
    {subSeq offset maxSendSize : ℕ}
    (hlast : ¬maxSendSize < data.length - offset) :
    (nextHeader data dataType flag subSeq offset maxSendSize).dataLen =
      data.length - offset := by
  rw [nextHeader, if_neg hlast]
  rfl

def nextPacket (data : Bytes) (dataType : ℕ) (flag : FragType)
    (subSeq offset maxSendSize : ℕ) : Bytes :=
  let header := nextHeader data dataType flag subSeq offset maxSendSize
  makeFragDataHeader header ++ fragmentBody data header offset

def transmitted (packets : List Bytes) : Bytes :=
  packets.flatMap (List.drop binaryHeaderFragLen)

def reported (outputs : List (Option DataReady)) : List DataReady :=
  outputs.filterMap id

section Call

variable {data : Bytes} {dataType : ℕ} {answers : SoftbusAnswers}
  (hsize : data.length + binaryHeaderFragLen < dschedMaxBufferSize)
  (htype : dataType < 2 ^ 32)
  (hoptions : ∀ index maxSendSize,
    answers.sessionOption index = some maxSendSize →
      binaryDataPacketReservedBuffer < maxSendSize ∧
        maxSendSize ≤ binaryDataMaxLen)
include hsize htype

theorem describes_nextHeader
    (flag : FragType) {subSeq offset maxSendSize : ℕ}
    (hsub : subSeq < 2 ^ 16) (hoffset : offset < data.length)
    (hreserved : binaryDataPacketReservedBuffer < maxSendSize)
    (hmax : maxSendSize ≤ binaryDataMaxLen) :
    Describes (nextHeader data dataType flag subSeq offset maxSendSize)
      data dataType offset := by
  have hflag : ∀ other : FragType, other.code < 2 ^ 8 := by
    intro other
    cases other <;> decide
  simp only [dschedMaxBufferSize, binaryHeaderFragLen, binaryDataMaxLen,
    binaryDataPacketReservedBuffer] at *
  unfold nextHeader headPara
  split_ifs with hmore
  · refine ⟨⟨by simp [protocolVersion], hflag flag, htype, by simp, ?_, hsub,
      ?_⟩, rfl, rfl, rfl, ?_, ?_, ?_⟩ <;>
      simp only [binaryDataPacketReservedBuffer, binaryDataMaxLen] <;> omega
  · refine ⟨⟨by simp [protocolVersion], hflag .fragEnd, htype, by simp, ?_,
      hsub, ?_⟩, rfl, rfl, rfl, ?_, ?_, ?_⟩ <;>
      simp only [binaryDataMaxLen] <;> omega

theorem sendFragments_succ
    {flag : FragType} {fuel index subSeq dataLen offset maxSendSize : ℕ}
    (hsub : subSeq < 2 ^ 16) (hoffset : offset < data.length)
    (hreserved : binaryDataPacketReservedBuffer < maxSendSize)
    (hmax : maxSendSize ≤ binaryDataMaxLen) :
    let header := nextHeader data dataType flag subSeq offset maxSendSize
    let packet := nextPacket data dataType flag subSeq offset maxSendSize
    sendFragments answers data (fuel + 1) index
        (headPara data dataType flag subSeq dataLen) offset maxSendSize =
      if answers.sendBytes index then
        match answers.sessionOption (index + 1) with
        | none => (some .getSessionOption, [packet])
        | some next =>
            let sent := sendFragments answers data fuel (index + 1)
              (headPara data dataType .fragMid ((subSeq + 1) % 2 ^ 16)
                header.dataLen) (offset + header.dataLen) next
            (sent.1, packet :: sent.2)
      else (some .sendBytes, []) := by
  intro header packet
  have hdescribes : Describes header data dataType offset :=
    describes_nextHeader hsize htype flag hsub hoffset hreserved hmax
  have hbody := length_fragmentBody hdescribes
  have hset : setHeadParaDataLen (headPara data dataType flag subSeq dataLen)
      data.length offset maxSendSize = header := by
    simp only [setHeadParaDataLen, header, nextHeader, headPara]
  have hmod : (header.dataLen + binaryHeaderFragLen) % 2 ^ 32 =
      header.dataLen + binaryHeaderFragLen := by
    have hlen := hdescribes.dataLen_max
    simp only [binaryDataMaxLen, binaryHeaderFragLen, header] at *
    omega
  have hpacket : makePacket header (header.dataLen + binaryHeaderFragLen)
      ((data.drop offset).take header.dataLen) = some packet := by
    apply makePacket_eq header
    · exact congrArg (· + binaryHeaderFragLen) hbody.symm
    · exact hdescribes.dataLen_pos.trans_eq hbody.symm
    · have hlen := hdescribes.dataLen_le
      omega
  have hsubSeq : header.subSeq = subSeq := by
    simp only [header, nextHeader]
    split_ifs <;> rfl
  have hnext : ({ header with
      subSeq := (header.subSeq + 1) % 2 ^ 16
      fragFlag := FragType.fragMid.code } : SessionDataHeader) =
      headPara data dataType .fragMid ((subSeq + 1) % 2 ^ 16)
        header.dataLen := by
    rw [hsubSeq]
    simp only [header, nextHeader]
    split_ifs <;> rfl
  rw [sendFragments, if_pos hoffset, if_neg (by omega)]
  by_cases hsend : answers.sendBytes index = true
  · cases hoption : answers.sessionOption (index + 1) with
    | none => simp only [hset, hmod, hpacket, hsend, if_true]
    | some next =>
        simp only [hset, hmod, hpacket, hnext, hsend, if_true]
  · simp only [hset, hmod, hpacket, if_neg hsend]

omit hsize htype in
theorem drop_nextPacket
    (flag : FragType) (subSeq offset maxSendSize : ℕ) :
    (nextPacket data dataType flag subSeq offset maxSendSize).drop
        binaryHeaderFragLen =
      fragmentBody data
        (nextHeader data dataType flag subSeq offset maxSendSize) offset := by
  unfold nextPacket
  rw [← length_makeFragDataHeader (nextHeader data dataType flag subSeq offset
    maxSendSize), List.drop_left]

theorem packRecvData_nextPacket
    {lastSub offset maxSendSize : ℕ}
    (hsub : lastSub + 1 < 2 ^ 16) (hoffset : offset < data.length)
    (hreserved : binaryDataPacketReservedBuffer < maxSendSize)
    (hmax : maxSendSize ≤ binaryDataMaxLen) (stack : SessionDataHeader) :
    packRecvData stack (assembling data offset lastSub)
        (nextPacket data dataType .fragMid (lastSub + 1) offset maxSendSize) =
      if maxSendSize < data.length - offset then
        (none, assembling data (offset +
          (maxSendSize - binaryDataPacketReservedBuffer)) (lastSub + 1))
      else (some (data, dataType), initial) := by
  have hdescribes := describes_nextHeader hsize htype .fragMid hsub hoffset
    hreserved hmax
  have hbound : data.length < dschedMaxBufferSize := by omega
  unfold nextPacket
  by_cases hmore : maxSendSize < data.length - offset
  · have hheader : nextHeader data dataType .fragMid (lastSub + 1) offset
        maxSendSize = headPara data dataType .fragMid (lastSub + 1)
          (maxSendSize - binaryDataPacketReservedBuffer) := if_pos hmore
    rw [packRecvData_next hdescribes hbound (by rw [hheader]; rfl)
      (by rw [hheader]; exact .inl rfl), hheader, if_pos hmore]
    rfl
  · have hheader : nextHeader data dataType .fragMid (lastSub + 1) offset
        maxSendSize = headPara data dataType .fragEnd (lastSub + 1)
          (data.length - offset) := if_neg hmore
    rw [packRecvData_next hdescribes hbound (by rw [hheader]; rfl)
      (by rw [hheader]; exact .inr ⟨rfl, rfl⟩), hheader, if_neg hmore]
    rfl

omit hsize htype in
theorem sendFragments_done
    {fuel index offset maxSendSize : ℕ} (header : SessionDataHeader)
    (hoffset : data.length ≤ offset) :
    sendFragments answers data fuel index header offset maxSendSize =
      (none, []) := by
  cases fuel with
  | zero => rfl
  | succ fuel => rw [sendFragments, if_neg (by omega)]

omit hsize htype in
theorem transmitted_cons_eq_iff
    {header : SessionDataHeader} {offset : ℕ} {packet : Bytes}
    {packets : List Bytes}
    (hpacket : packet.drop binaryHeaderFragLen =
      fragmentBody data header offset) :
    transmitted (packet :: packets) = data.drop offset ↔
      transmitted packets = data.drop (offset + header.dataLen) := by
  have hsplit : data.drop offset = fragmentBody data header offset ++
      data.drop (offset + header.dataLen) := by
    rw [fragmentBody, ← List.drop_drop, List.take_append_drop]
  have hcons : transmitted (packet :: packets) =
      fragmentBody data header offset ++ transmitted packets := by
    rw [← hpacket]
    rfl
  rw [hcons, hsplit, List.append_cancel_left_eq]

omit hsize htype in
theorem transmitted_nil_ne {offset : ℕ} (hoffset : offset < data.length) :
    transmitted [] ≠ data.drop offset := by
  intro h
  have hlength := congrArg List.length h
  simp only [transmitted, List.flatMap_nil, List.length_nil,
    List.length_drop] at hlength
  omega

theorem sendFragments_cons
    {flag : FragType} {fuel index subSeq dataLen offset maxSendSize : ℕ}
    (hsub : subSeq < 2 ^ 16) (hoffset : offset < data.length)
    (hreserved : binaryDataPacketReservedBuffer < maxSendSize)
    (hmax : maxSendSize ≤ binaryDataMaxLen)
    (hsend : answers.sendBytes index = true) :
    let header := nextHeader data dataType flag subSeq offset maxSendSize
    ∃ rest, (sendFragments answers data (fuel + 1) index
        (headPara data dataType flag subSeq dataLen) offset maxSendSize).2 =
          nextPacket data dataType flag subSeq offset maxSendSize :: rest ∧
      (rest = [] ∨ ∃ next,
        answers.sessionOption (index + 1) = some next ∧
          rest = (sendFragments answers data fuel (index + 1)
            (headPara data dataType .fragMid ((subSeq + 1) % 2 ^ 16)
              header.dataLen) (offset + header.dataLen) next).2) := by
  intro header
  have hstep := @sendFragments_succ data dataType answers hsize htype flag fuel
    index subSeq dataLen offset maxSendSize hsub hoffset hreserved hmax
  rw [hstep, if_pos hsend]
  cases hoption : answers.sessionOption (index + 1) with
  | none => exact ⟨[], rfl, .inl rfl⟩
  | some next => exact ⟨_, rfl, .inr ⟨next, rfl, rfl⟩⟩

include hoptions

theorem reported_sendFragments
    {fuel index lastSub dataLen offset maxSendSize : ℕ}
    (hfuel : data.length ≤ offset + fuel) (hoffset : offset < data.length)
    (hreserved : binaryDataPacketReservedBuffer < maxSendSize)
    (hmax : maxSendSize ≤ binaryDataMaxLen)
    {inputs : List (SessionDataHeader × Bytes)} {packets : List Bytes}
    (hpackets : packets = (sendFragments answers data fuel index
      (headPara data dataType .fragMid ((lastSub + 1) % 2 ^ 16) dataLen)
      offset maxSendSize).2)
    (hinputs : inputs.map Prod.snd = packets)
    (hcount : lastSub + 1 + packets.length ≤ 2 ^ 16) :
    reported ((assembling data offset lastSub).packRecvAll inputs).1 =
      if transmitted packets = data.drop offset then [(data, dataType)]
      else [] := by
  induction fuel generalizing index lastSub dataLen offset maxSendSize inputs
    packets with
  | zero => omega
  | succ fuel ih =>
      have hmod : (lastSub + 1) % 2 ^ 16 < 2 ^ 16 :=
        Nat.mod_lt _ (by norm_num)
      by_cases hsend : answers.sendBytes index = true
      · obtain ⟨rest, hrest, hmore⟩ := @sendFragments_cons data dataType answers
          hsize htype .fragMid fuel index _ dataLen offset maxSendSize hmod
          hoffset hreserved hmax hsend
        rw [hrest] at hpackets
        subst hpackets
        obtain ⟨⟨stack, packet⟩, tail, rfl, hpacket, htail⟩ :=
          List.map_eq_cons_iff.mp hinputs
        rw [List.length_cons] at hcount
        have hsub : (lastSub + 1) % 2 ^ 16 = lastSub + 1 :=
          Nat.mod_eq_of_lt (by omega)
        rw [hsub] at hpacket hmore ⊢
        have hrecv := packRecvData_nextPacket hsize htype
          (by omega : lastSub + 1 < 2 ^ 16) hoffset hreserved hmax stack
        have hdrop := @drop_nextPacket data dataType .fragMid (lastSub + 1)
          offset maxSendSize
        obtain rfl : packet = _ := hpacket
        rw [packRecvAll, EventRun.run_cons]
        simp only [hrecv, transmitted_cons_eq_iff hdrop]
        by_cases hlong : maxSendSize < data.length - offset
        · have hlen := @dataLen_nextHeader_long data dataType .fragMid
            (lastSub + 1) offset maxSendSize hlong
          have hnextOffset : offset +
              (maxSendSize - binaryDataPacketReservedBuffer) <
              data.length := by omega
          rw [hlen] at hmore ⊢
          rw [if_pos hlong]
          change reported ((assembling data (offset + (maxSendSize -
            binaryDataPacketReservedBuffer)) (lastSub + 1)).packRecvAll
              tail).1 = _
          rcases hmore with rfl | ⟨next, hnext, hround⟩
          · have hempty : tail = [] := by simpa using htail
            rw [hempty, if_neg (transmitted_nil_ne hnextOffset)]
            rfl
          · obtain ⟨hreserved', hmax'⟩ := hoptions _ _ hnext
            exact ih (by omega) hnextOffset hreserved' hmax' hround htail
              (by omega)
        · have hlen := @dataLen_nextHeader_last data dataType .fragMid
            (lastSub + 1) offset maxSendSize hlong
          have hend : offset + (data.length - offset) = data.length := by omega
          rw [hlen, hend] at hmore ⊢
          have hnothing : rest = [] := by
            rcases hmore with hnone | ⟨next, -, hround⟩
            · exact hnone
            · rw [hround, sendFragments_done _ le_rfl]
          have hempty : tail = [] := by simpa [hnothing] using htail
          rw [if_neg hlong, hempty, hnothing]
          simp [reported, transmitted]
      · have hstep := @sendFragments_succ data dataType answers hsize htype
          .fragMid fuel index _ dataLen offset maxSendSize hmod hoffset
          hreserved hmax
        rw [hstep, if_neg hsend] at hpackets
        subst hpackets
        have hempty : inputs = [] := by simpa using hinputs
        rw [hempty, if_neg (transmitted_nil_ne hoffset)]
        rfl

omit hoptions in
theorem packRecvData_startEnd
    (hpos : 0 < data.length) (hmax : data.length ≤ binaryDataMaxLen)
    (stack : SessionDataHeader) (session : DSchedSoftbusSession) :
    packRecvData stack session (makeFragDataHeader
        (headPara data dataType .fragStartEnd 0 data.length) ++ data) =
      (some (data, dataType), session) := by
  have hrange :
      (headPara data dataType .fragStartEnd 0 data.length).InRange := by
    simp only [binaryDataMaxLen] at hmax
    refine ⟨by simp [headPara, protocolVersion],
      by simp [headPara, FragType.code], htype, by simp [headPara], ?_,
      by simp [headPara], ?_⟩ <;>
      simp only [headPara] <;> omega
  have hmaxTotal : data.length ≤ binaryDataMaxTotalLen := by
    simp only [binaryDataMaxLen, binaryDataMaxTotalLen] at *
    omega
  have hbuffer : ofCapacity data.length =
      ⟨List.replicate data.length 0, 0, data.length⟩ := by
    rw [ofCapacity, if_pos ⟨by omega, by omega⟩]
  have hcopy := @memcpyS_append_replicate [] data data.length (by simpa)
    (by simp)
  simp only [List.nil_append, List.length_nil, Nat.sub_zero, Nat.sub_self,
    List.replicate_zero, List.append_nil] at hcopy
  have hdrop : (makeFragDataHeader
      (headPara data dataType .fragStartEnd 0 data.length) ++ data).drop
        binaryHeaderFragLen = data := by
    rw [← length_makeFragDataHeader
      (headPara data dataType .fragStartEnd 0 data.length), List.drop_left]
  have hflag : (headPara data dataType .fragStartEnd 0 data.length).fragFlag =
      FragType.fragStartEnd.code := rfl
  rw [packRecvData_packet hrange rfl le_rfl hmax hmaxTotal, if_pos hflag,
    assembleNoFrag, if_neg (by simp [headPara]), hdrop]
  simp only [headPara, hbuffer, AVTransDataBuffer.size, hcopy,
    AVTransDataBuffer.bytes, List.drop_zero, List.take_length]

end Call

/-! ## Calls -/

structure SendCall where
  data : Bytes
  dataType : Int32
  answers : SoftbusAnswers

namespace SendCall

def packets (call : SendCall) : List Bytes :=
  sendData call.answers call.data call.dataType

def type (call : SendCall) : ℕ := call.dataType.toUInt32.toNat

def Complete (call : SendCall) : Prop := transmitted call.packets = call.data

instance (call : SendCall) : Decidable call.Complete :=
  inferInstanceAs (Decidable (_ = _))

structure Admissible (call : SendCall) : Prop where
  data_pos : 0 < call.data.length
  data_lt : call.data.length + binaryHeaderFragLen < dschedMaxBufferSize
  options : ∀ index maxSendSize,
    call.answers.sessionOption index = some maxSendSize →
      binaryDataPacketReservedBuffer < maxSendSize ∧
        maxSendSize ≤ binaryDataMaxLen
  count_le : call.packets.length ≤ 2 ^ 16

theorem type_lt (call : SendCall) : call.type < 2 ^ 32 :=
  call.dataType.toUInt32.toNat_lt

theorem reported_nil
    {call : SendCall} (hpos : 0 < call.data.length)
    (session : DSchedSoftbusSession)
    {inputs : List (SessionDataHeader × Bytes)}
    (hinputs : inputs.map Prod.snd = call.packets)
    (hempty : call.packets = []) :
    reported (session.packRecvAll inputs).1 =
      if call.Complete then [(call.data, call.type)] else [] := by
  have hnone : inputs = [] := by simpa [hempty] using hinputs
  have hincomplete : ¬call.Complete := by
    unfold Complete
    rw [hempty]
    exact transmitted_nil_ne hpos
  rw [hnone, if_neg hincomplete]
  rfl

variable {maxSendSize : ℕ}

theorem packets_small {call : SendCall} (hcall : call.Admissible)
    (hoption : call.answers.sessionOption 0 = some maxSendSize)
    (hsmall : call.data.length ≤ maxSendSize) :
    call.packets = if call.answers.sendBytes 0 then
      [makeFragDataHeader (headPara call.data call.type .fragStartEnd 0
        call.data.length) ++ call.data] else [] := by
  have hsize : ¬(ofCapacity (call.data.length + binaryHeaderFragLen)).size <
      binaryHeaderFragLen := by
    rw [ofCapacity, if_pos ⟨by simp [binaryHeaderFragLen], hcall.data_lt⟩]
    simp only [AVTransDataBuffer.size]
    omega
  have hpacket := makePacket_eq
    (headPara call.data call.type .fragStartEnd 0 call.data.length)
    rfl hcall.data_pos hcall.data_lt
  simp only [headPara, type] at hpacket
  unfold packets sendData unPackSendData
  rw [hoption]
  simp only [if_pos hsmall, unPackStartEndData, if_neg hsize, hpacket]
  split_ifs <;> rfl

theorem packets_large {call : SendCall}
    (hoption : call.answers.sessionOption 0 = some maxSendSize)
    (hlarge : ¬call.data.length ≤ maxSendSize) :
    call.packets = (sendFragments call.answers call.data call.data.length 0
      (headPara call.data call.type .fragStart 0 0) 0 maxSendSize).2 := by
  unfold packets sendData unPackSendData
  rw [hoption]
  simp only [if_neg hlarge]
  rfl

section Admissible

variable {call : SendCall} (hcall : call.Admissible)
  {inputs : List (SessionDataHeader × Bytes)}

include hcall

theorem reported_small (hoption : call.answers.sessionOption 0 = some maxSendSize)
    (hsmall : call.data.length ≤ maxSendSize) (session : DSchedSoftbusSession)
    (hinputs : inputs.map Prod.snd = call.packets) :
    reported (session.packRecvAll inputs).1 =
      if call.Complete then [(call.data, call.type)] else [] := by
  have hpackets := packets_small hcall hoption hsmall
  by_cases hsend : call.answers.sendBytes 0 = true
  · rw [if_pos hsend] at hpackets
    have hcomplete : call.Complete := by
      unfold Complete
      rw [hpackets]
      simp [transmitted]
    have hmax := (hcall.options 0 maxSendSize hoption).2
    rw [hpackets] at hinputs
    obtain ⟨⟨stack, packet⟩, tail, rfl, hpacket, htail⟩ :=
      List.map_eq_cons_iff.mp hinputs
    obtain rfl : packet = _ := hpacket
    have hempty : tail = [] := by simpa using htail
    have hrecv := packRecvData_startEnd hcall.data_lt call.type_lt
      hcall.data_pos (hsmall.trans hmax) stack session
    rw [if_pos hcomplete, hempty, packRecvAll, EventRun.run_cons]
    simp only [hrecv, EventRun.run_nil, reported, List.filterMap_cons,
      List.filterMap_nil, id_eq]
  · rw [if_neg hsend] at hpackets
    exact reported_nil hcall.data_pos session hinputs hpackets

theorem reported_large (hoption : call.answers.sessionOption 0 = some maxSendSize)
    (hlarge : ¬call.data.length ≤ maxSendSize) (session : DSchedSoftbusSession)
    (hinputs : inputs.map Prod.snd = call.packets) :
    reported (session.packRecvAll inputs).1 =
      if call.Complete then [(call.data, call.type)] else [] := by
  obtain ⟨hpos, hlt, hoptions, hcount⟩ := hcall
  obtain ⟨hreserved, hmax⟩ := hoptions 0 maxSendSize hoption
  obtain ⟨fuel, hfuel⟩ := Nat.exists_eq_succ_of_ne_zero hpos.ne'
  have hpackets := packets_large hoption hlarge
  rw [hfuel, Nat.succ_eq_add_one] at hpackets
  by_cases hsend : call.answers.sendBytes 0 = true
  · obtain ⟨rest, hrest, hmore⟩ := @sendFragments_cons call.data call.type
      call.answers hlt call.type_lt .fragStart fuel 0 0 0 0 maxSendSize
      (by norm_num) hpos hreserved hmax hsend
    rw [hrest] at hpackets
    have hheader : nextHeader call.data call.type .fragStart 0 0 maxSendSize =
        headPara call.data call.type .fragStart 0
          (maxSendSize - binaryDataPacketReservedBuffer) := by
      rw [nextHeader, if_pos (by omega)]
    have hlen := @dataLen_nextHeader_long call.data call.type .fragStart 0 0
      maxSendSize (by omega)
    have hoffset : maxSendSize - binaryDataPacketReservedBuffer <
        call.data.length := by omega
    have hcomplete : call.Complete ↔ transmitted rest = call.data.drop
        (maxSendSize - binaryDataPacketReservedBuffer) := by
      have hcons := @transmitted_cons_eq_iff call.data _ 0 _ rest
        (@drop_nextPacket call.data call.type .fragStart 0 0 maxSendSize)
      rw [hlen, List.drop_zero, zero_add] at hcons
      unfold Complete
      rw [hpackets]
      exact hcons
    rw [hpackets] at hinputs hcount
    obtain ⟨⟨stack, packet⟩, tail, rfl, hpacket, htail⟩ :=
      List.map_eq_cons_iff.mp hinputs
    obtain rfl : packet = _ := hpacket
    have hdescribes := describes_nextHeader hlt call.type_lt .fragStart
      (by norm_num : 0 < 2 ^ 16) hpos hreserved hmax
    have hrecv := packRecvData_start hdescribes (by omega) rfl
      (by rw [hheader]; rfl) (by rw [hheader]; rfl) stack session
    rw [hlen] at hrecv hmore
    rw [packRecvAll, EventRun.run_cons]
    have hfirst : packRecvData stack session
        (nextPacket call.data call.type .fragStart 0 0 maxSendSize) =
        (none, assembling call.data
          (maxSendSize - binaryDataPacketReservedBuffer) 0) := hrecv
    simp only [hfirst, hcomplete]
    change reported ((assembling call.data
      (maxSendSize - binaryDataPacketReservedBuffer) 0).packRecvAll tail).1 = _
    rcases hmore with rfl | ⟨next, hnext, hround⟩
    · have hempty : tail = [] := by simpa using htail
      rw [hempty, if_neg (transmitted_nil_ne hoffset)]
      rfl
    · obtain ⟨hreserved', hmax'⟩ := hoptions _ _ hnext
      have hrounds : rest = (sendFragments call.answers call.data fuel (0 + 1)
          (headPara call.data call.type .fragMid ((0 + 1) % 2 ^ 16)
            (maxSendSize - binaryDataPacketReservedBuffer))
          (maxSendSize - binaryDataPacketReservedBuffer) next).2 := by
        rw [hround, Nat.zero_add (maxSendSize - _)]
      rw [List.length_cons] at hcount
      exact reported_sendFragments hlt call.type_lt hoptions (by omega) hoffset
        hreserved' hmax' hrounds htail (by omega)
  · have hstep := @sendFragments_succ call.data call.type call.answers hlt
      call.type_lt .fragStart fuel 0 0 0 0 maxSendSize (by norm_num) hpos
      hreserved hmax
    rw [hstep, if_neg hsend] at hpackets
    exact reported_nil hpos session hinputs hpackets

/-- From any state of the peer, the packets of a call make it report the
buffer once, if they carry all of it, and nothing otherwise. -/
theorem reported_packets (session : DSchedSoftbusSession)
    (hinputs : inputs.map Prod.snd = call.packets) :
    reported (session.packRecvAll inputs).1 =
      if call.Complete then [(call.data, call.type)] else [] := by
  cases hoption : call.answers.sessionOption 0 with
  | none =>
      have hpackets : call.packets = [] := by
        unfold packets sendData unPackSendData
        rw [hoption]
      exact reported_nil hcall.data_pos session hinputs hpackets
  | some maxSendSize =>
      by_cases hsmall : call.data.length ≤ maxSendSize
      · exact reported_small hcall hoption hsmall session hinputs
      · exact reported_large hcall hoption hsmall session hinputs

end Admissible

/-- Over any run of calls the peer reports exactly the completely transmitted
buffers, in order, with their types. -/
theorem reported_calls
    (calls : List SendCall) (hcalls : ∀ call ∈ calls, call.Admissible)
    (session : DSchedSoftbusSession)
    (inputs : List (SessionDataHeader × Bytes))
    (hinputs : inputs.map Prod.snd = calls.flatMap packets) :
    reported (session.packRecvAll inputs).1 =
      (calls.filter fun call => call.Complete).map
        fun call => (call.data, call.type) := by
  induction calls generalizing session inputs with
  | nil =>
      have hempty : inputs = [] := by simpa using hinputs
      rw [hempty]
      rfl
  | cons call calls ih =>
      rw [List.flatMap_cons] at hinputs
      obtain ⟨first, second, rfl, hfirst, hsecond⟩ :=
        List.map_eq_append_iff.mp hinputs
      have hcall := hcalls call List.mem_cons_self
      have hrest := ih
        (fun other hother => hcalls other (List.mem_cons_of_mem _ hother))
        (session.packRecvAll first).2 second hsecond
      have hhead := reported_packets hcall session hfirst
      have hsplit : reported (session.packRecvAll (first ++ second)).1 =
          reported (session.packRecvAll first).1 ++
            reported ((session.packRecvAll first).2.packRecvAll second).1 := by
        unfold packRecvAll
        rw [EventRun.run_append]
        exact List.filterMap_append
      rw [hsplit, hhead, hrest]
      by_cases hcomplete : call.Complete
      · simp [hcomplete]
      · simp [hcomplete]

def mixedCalls : List SendCall :=
  [⟨List.replicate 700 1, 1, ⟨fun _ => some 600, fun index => index < 1⟩⟩,
    ⟨[4, 5], -7, ⟨fun _ => some 600, fun _ => true⟩⟩,
    ⟨List.replicate 700 2, 1, ⟨fun index => if index < 3 then some 600 else none,
      fun _ => true⟩⟩]

theorem mixedCalls_admissible : ∀ call ∈ mixedCalls, call.Admissible := by
  intro call hcall
  have hoption : ∀ maxSendSize, 600 = maxSendSize →
      binaryDataPacketReservedBuffer < maxSendSize ∧
        maxSendSize ≤ binaryDataMaxLen := by
    rintro maxSendSize rfl
    norm_num [binaryDataPacketReservedBuffer, binaryDataMaxLen]
  simp only [mixedCalls, List.mem_cons, List.not_mem_nil, or_false] at hcall
  rcases hcall with rfl | rfl | rfl
  · refine ⟨by decide +kernel, by decide +kernel, ?_, by decide +kernel⟩
    intro index maxSendSize hsome
    exact hoption maxSendSize (Option.some.inj hsome)
  · refine ⟨by decide +kernel, by decide +kernel, ?_, by decide +kernel⟩
    intro index maxSendSize hsome
    exact hoption maxSendSize (Option.some.inj hsome)
  · refine ⟨by decide +kernel, by decide +kernel, ?_, by decide +kernel⟩
    intro index maxSendSize hsome
    by_cases hindex : index < 3
    · simp only [if_pos hindex, Option.some.injEq] at hsome
      exact hoption maxSendSize hsome
    · simp [hindex] at hsome

theorem reported_mixedCalls :
    mixedCalls.map (fun call => call.packets.length) = [1, 1, 3] ∧
      reported (DSchedSoftbusSession.initial.packRecvAll
        ((mixedCalls.flatMap packets).map
          fun packet => (⟨0, 0, 0, 0, 0, 0, 0⟩, packet))).1 =
        [([4, 5], 2 ^ 32 - 7), (List.replicate 700 2, 1)] := by
  refine ⟨by decide +kernel, ?_⟩
  rw [reported_calls mixedCalls mixedCalls_admissible initial _ (by simp)]
  decide +kernel

end SendCall

end DSchedSoftbusSession

end Dmsfwk
