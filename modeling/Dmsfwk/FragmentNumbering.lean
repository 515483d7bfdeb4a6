import Dmsfwk.SendResults

/-!
# The numbers of the fragments of a buffer

The sender numbers its fragments with 16 bits, while the receiver adds one to
the last number with more.  So the numbers run in order, and a fragment is
accepted behind the ones before it, as long as a buffer is sent in at most 65536
rounds and no fragment with a successor is longer than the receiver takes.
-/

namespace Dmsfwk

open ByteCodec
open AVTransDataBuffer

namespace DSchedSoftbusSession

/-! ## The packets of a completed call -/

def willing (maxSendSize : ℕ → ℕ) : SoftbusAnswers :=
  ⟨fun index => some (maxSendSize index), fun _ => true⟩

section Rounds

variable {maxSendSize : ℕ → ℕ} {data : Bytes} {dataType : ℕ}
  {fuel index : ℕ}

theorem leftAfter_le {total : ℕ} : leftAfter maxSendSize total index ≤ total := by
  induction index with
  | zero => exact le_rfl
  | succ index ih => exact (Nat.sub_le _ _).trans ih

theorem leftAfter_succ_lt {total : ℕ}
    (hmax : binaryDataPacketReservedBuffer < maxSendSize index)
    (hmore : 0 < leftAfter maxSendSize total index) :
    leftAfter maxSendSize total (index + 1) <
      leftAfter maxSendSize total index :=
  Nat.sub_lt hmore (@SendRound.chunk_pos ⟨maxSendSize index, _⟩ hmore hmax)

def sentAfter (maxSendSize : ℕ → ℕ) (data : Bytes) (index : ℕ) : ℕ :=
  data.length - leftAfter maxSendSize data.length index

theorem length_sub_sentAfter :
    data.length - sentAfter maxSendSize data index =
      leftAfter maxSendSize data.length index :=
  Nat.sub_sub_self leftAfter_le

def roundChunk (maxSendSize : ℕ → ℕ) (total index : ℕ) : ℕ :=
  (SendRound.mk (maxSendSize index) (leftAfter maxSendSize total index)).chunk

theorem roundChunk_le {total : ℕ} :
    roundChunk maxSendSize total index ≤ leftAfter maxSendSize total index :=
  SendRound.chunk_le _

theorem sentAfter_succ :
    sentAfter maxSendSize data (index + 1) =
      sentAfter maxSendSize data index +
        roundChunk maxSendSize data.length index := by
  have hle := @leftAfter_le maxSendSize index data.length
  have hchunk := @roundChunk_le maxSendSize index data.length
  unfold sentAfter
  rw [leftAfter]
  unfold roundChunk at hchunk ⊢
  omega

def roundFlag (index : ℕ) : FragType :=
  if index = 0 then .fragStart else .fragMid

def roundHeader (maxSendSize : ℕ → ℕ) (data : Bytes) (dataType index : ℕ) :
    SessionDataHeader :=
  nextHeader data dataType (roundFlag index) (index % 2 ^ 16)
    (sentAfter maxSendSize data index) (maxSendSize index)

def packetAt (maxSendSize : ℕ → ℕ) (data : Bytes) (dataType index : ℕ) :
    Bytes :=
  makeFragDataHeader (roundHeader maxSendSize data dataType index) ++
    fragmentBody data (roundHeader maxSendSize data dataType index)
      (sentAfter maxSendSize data index)

def packetsFrom (maxSendSize : ℕ → ℕ) (data : Bytes) (dataType : ℕ) :
    ℕ → ℕ → List Bytes
  | 0, _ => []
  | fuel + 1, index =>
      if 0 < leftAfter maxSendSize data.length index then
        packetAt maxSendSize data dataType index ::
          packetsFrom maxSendSize data dataType fuel (index + 1)
      else []

theorem setHeadParaDataLen_headPara (dataLen : ℕ) {flag : FragType}
    {subSeq offset size : ℕ} :
    setHeadParaDataLen (headPara data dataType flag subSeq dataLen) data.length
        offset size = nextHeader data dataType flag subSeq offset size := by
  unfold setHeadParaDataLen nextHeader
  split_ifs <;> rfl

theorem dataLen_roundHeader :
    (roundHeader maxSendSize data dataType index).dataLen =
      roundChunk maxSendSize data.length index := by
  unfold roundHeader
  rw [← setHeadParaDataLen_headPara 0, dataLen_setHeadParaDataLen,
    length_sub_sentAfter]
  rfl

theorem roundHeader_eq :
    roundHeader maxSendSize data dataType index =
      headPara data dataType
        (if maxSendSize index < leftAfter maxSendSize data.length index then
          roundFlag index else .fragEnd) (index % 2 ^ 16)
        (roundChunk maxSendSize data.length index) := by
  unfold roundHeader nextHeader roundChunk SendRound.chunk
  rw [length_sub_sentAfter]
  split_ifs <;> rfl

theorem nextPara_roundHeader :
    ({ roundHeader maxSendSize data dataType index with
      subSeq := ((roundHeader maxSendSize data dataType index).subSeq + 1) %
        2 ^ 16
      fragFlag := FragType.fragMid.code } : SessionDataHeader) =
      headPara data dataType (roundFlag (index + 1)) ((index + 1) % 2 ^ 16)
        (roundChunk maxSendSize data.length index) := by
  rw [roundHeader_eq]
  simp [headPara, roundFlag]

theorem sendFragments_willing {header : SessionDataHeader} {offset : ℕ}
    (hmax : binaryDataPacketReservedBuffer < maxSendSize index)
    (hoffset : offset < data.length) :
    sendFragments (willing maxSendSize) data (fuel + 1) index header offset
        (maxSendSize index) =
      let header := setHeadParaDataLen header data.length offset
        (maxSendSize index)
      match roundPacket data header offset with
      | none => (some .memcpy, [])
      | some packet =>
          let sent := sendFragments (willing maxSendSize) data fuel (index + 1)
            { header with
              subSeq := (header.subSeq + 1) % 2 ^ 16
              fragFlag := FragType.fragMid.code }
            (offset + header.dataLen) (maxSendSize (index + 1))
          (sent.1, packet :: sent.2) := by
  rw [sendFragments, if_pos hoffset, if_neg (Nat.not_le_of_lt hmax)]
  rfl

theorem roundPacket_eq_packetAt {packet : Bytes}
    (hpacket : roundPacket data (roundHeader maxSendSize data dataType index)
      (sentAfter maxSendSize data index) = some packet) :
    packet = packetAt maxSendSize data dataType index := by
  unfold roundHeader at hpacket
  rw [← setHeadParaDataLen_headPara 0] at hpacket
  have hmade := eq_of_makePacket roundCapacity_le roundCapacity_eq hpacket
  rw [setHeadParaDataLen_headPara] at hmade
  exact hmade

theorem sendFragments_eq_packetsFrom {dataLen : ℕ}
    (hmax : ∀ index, binaryDataPacketReservedBuffer < maxSendSize index)
    (hfuel : leftAfter maxSendSize data.length index ≤ fuel)
    (hdone : (sendFragments (willing maxSendSize) data fuel index
      (headPara data dataType (roundFlag index) (index % 2 ^ 16) dataLen)
      (sentAfter maxSendSize data index) (maxSendSize index)).1 = none) :
    (sendFragments (willing maxSendSize) data fuel index
      (headPara data dataType (roundFlag index) (index % 2 ^ 16) dataLen)
      (sentAfter maxSendSize data index) (maxSendSize index)).2 =
      packetsFrom maxSendSize data dataType fuel index := by
  induction fuel generalizing index dataLen with
  | zero => rfl
  | succ fuel ih =>
      have hleft := @length_sub_sentAfter maxSendSize data index
      rw [packetsFrom]
      by_cases hmore : 0 < leftAfter maxSendSize data.length index
      · have hless := leftAfter_succ_lt (hmax index) hmore
        have hround : setHeadParaDataLen (headPara data dataType
            (roundFlag index) (index % 2 ^ 16) dataLen) data.length
            (sentAfter maxSendSize data index) (maxSendSize index) =
              roundHeader maxSendSize data dataType index :=
          setHeadParaDataLen_headPara dataLen
        rw [if_pos hmore]
        rw [sendFragments_willing (hmax index) (by omega), hround] at hdone ⊢
        dsimp only at hdone ⊢
        rw [nextPara_roundHeader, dataLen_roundHeader, ← sentAfter_succ]
          at hdone ⊢
        cases hpacket : roundPacket data
            (roundHeader maxSendSize data dataType index)
            (sentAfter maxSendSize data index) with
        | none =>
            rw [hpacket] at hdone
            cases hdone
        | some packet =>
            rw [hpacket] at hdone
            rw [← roundPacket_eq_packetAt hpacket]
            exact congrArg (packet :: ·) (ih (by omega) hdone)
      · rw [if_neg hmore, sendFragments_done _ (by omega)]

theorem sendFragments_completed {dataLen : ℕ}
    (hmax : ∀ index, binaryDataPacketReservedBuffer < maxSendSize index)
    (hroom : ∀ index, roundChunk maxSendSize data.length index +
      binaryHeaderFragLen < dschedMaxBufferSize) :
    (sendFragments (willing maxSendSize) data fuel index
      (headPara data dataType (roundFlag index) (index % 2 ^ 16) dataLen)
      (sentAfter maxSendSize data index) (maxSendSize index)).1 = none := by
  induction fuel generalizing index dataLen with
  | zero => rfl
  | succ fuel ih =>
      by_cases hoffset : sentAfter maxSendSize data index < data.length
      · have hsome := @roundPacket_isSome_iff data _ _
          (headPara data dataType (roundFlag index) (index % 2 ^ 16) dataLen)
          hoffset (hmax index)
        rw [length_sub_sentAfter, setHeadParaDataLen_headPara] at hsome
        obtain ⟨packet, hpacket⟩ :=
          Option.isSome_iff_exists.mp (hsome.mpr (hroom index))
        rw [sendFragments_willing (hmax index) hoffset,
          setHeadParaDataLen_headPara]
        dsimp only
        rw [hpacket]
        dsimp only
        have hnext := @nextPara_roundHeader maxSendSize data dataType index
        have hlen := @dataLen_roundHeader maxSendSize data dataType index
        unfold roundHeader at hnext hlen
        rw [hnext, hlen, ← sentAfter_succ]
        exact ih
      · rw [sendFragments_done _ (Nat.le_of_not_lt hoffset)]

theorem packetsFrom_of_done (hdone : leftAfter maxSendSize data.length index = 0) :
    packetsFrom maxSendSize data dataType fuel index = [] := by
  cases fuel with
  | zero => rfl
  | succ fuel => rw [packetsFrom, if_neg (by omega)]

theorem getElem?_packetsFrom {number : ℕ} {packet : Bytes} :
    (packetsFrom maxSendSize data dataType fuel index)[number]? = some packet ↔
      number < fuel ∧
        0 < leftAfter maxSendSize data.length (index + number) ∧
        packetAt maxSendSize data dataType (index + number) = packet := by
  induction fuel generalizing index number with
  | zero => simp [packetsFrom]
  | succ fuel ih =>
      rw [packetsFrom]
      by_cases hmore : 0 < leftAfter maxSendSize data.length index
      · rw [if_pos hmore]
        cases number with
        | zero => simp [hmore]
        | succ number =>
            rw [List.getElem?_cons_succ, ih, Nat.add_lt_add_iff_right,
              Nat.add_right_comm, Nat.add_assoc]
      · have hdone := leftAfter_eq_zero_of_le (Nat.le_add_right index number)
          (Nat.eq_zero_of_not_pos hmore)
        rw [if_neg hmore]
        simp [hdone]

/-! ## The numbers -/

section Numbers

variable (hsize : data.length < dschedMaxBufferSize)
  (htype : dataType < 2 ^ 32)
include hsize htype

theorem inRange_roundHeader :
    (roundHeader maxSendSize data dataType index).InRange := by
  have hleft := @leftAfter_le maxSendSize index data.length
  have hchunk := @roundChunk_le maxSendSize index data.length
  have hflag : ∀ flag : FragType, flag.code < 2 ^ 8 := by
    intro flag
    cases flag <;> decide
  rw [roundHeader_eq]
  simp only [dschedMaxBufferSize] at hsize
  constructor
  · exact (by decide : protocolVersion < 2 ^ 16)
  · exact hflag _
  · exact htype
  · exact Nat.two_pow_pos 32
  · exact (by omega : data.length < 2 ^ 32)
  · exact Nat.mod_lt _ (Nat.two_pow_pos 16)
  · exact (by omega : roundChunk maxSendSize data.length index < 2 ^ 32)

theorem getFragDataHeader_packetAt (stack : SessionDataHeader) :
    getFragDataHeader stack (packetAt maxSendSize data dataType index) =
      some (roundHeader maxSendSize data dataType index) :=
  getFragDataHeader_append (inRange_roundHeader hsize htype) stack _

end Numbers

theorem leftAfter_add_le {total : ℕ}
    (hmax : ∀ index, binaryDataPacketReservedBuffer < maxSendSize index)
    (hmore : 0 < leftAfter maxSendSize total index) :
    leftAfter maxSendSize total index + index ≤ total := by
  induction index with
  | zero => exact le_rfl
  | succ index ih =>
      have hleft : 0 < leftAfter maxSendSize total index :=
        hmore.trans_le (Nat.sub_le _ _)
      have hless := leftAfter_succ_lt (hmax index) hleft
      have hle := ih hleft
      omega

def Numbered (packets : List Bytes) : Prop :=
  ∀ number packet, packets[number]? = some packet →
    ∀ stack, ∃ header, getFragDataHeader stack packet = some header ∧
      header.subSeq = number

theorem numbered_packetsFrom_iff (hsize : data.length < dschedMaxBufferSize)
    (htype : dataType < 2 ^ 32)
    (hmax : ∀ index, binaryDataPacketReservedBuffer < maxSendSize index) :
    Numbered (packetsFrom maxSendSize data dataType data.length 0) ↔
      leftAfter maxSendSize data.length (2 ^ 16) = 0 := by
  constructor
  · intro hnumbered
    by_contra hmore
    have hleft := Nat.pos_of_ne_zero hmore
    have hround := leftAfter_add_le hmax hleft
    obtain ⟨header, hread, hnumber⟩ := hnumbered (2 ^ 16)
      (packetAt maxSendSize data dataType (2 ^ 16))
      (getElem?_packetsFrom.mpr
        ⟨by omega, by rwa [Nat.zero_add], by rw [Nat.zero_add]⟩)
      (headPara data dataType .fragStart 0 0)
    rw [getFragDataHeader_packetAt hsize htype] at hread
    obtain rfl := Option.some.inj hread
    rw [roundHeader_eq] at hnumber
    have hwrapped : 2 ^ 16 % 2 ^ 16 = 2 ^ 16 := hnumber
    norm_num at hwrapped
  · intro hdone number packet hpacket stack
    obtain ⟨-, hmore, rfl⟩ := getElem?_packetsFrom.mp hpacket
    rw [Nat.zero_add] at hmore ⊢
    refine ⟨_, getFragDataHeader_packetAt hsize htype stack, ?_⟩
    rw [roundHeader_eq]
    exact Nat.mod_eq_of_lt (lt_of_leftAfter_pos hdone hmore)

/-! ## The receiver -/

/-- Every fragment which is not a first one passes `CheckUnPackBuffer` when the
packets arrive in this order; each comes with the memory of its header. -/
def AcceptedFrom :
    DSchedSoftbusSession → List (SessionDataHeader × Bytes) → Prop
  | _, [] => True
  | session, (stack, packet) :: rest =>
      (∀ header, getFragDataHeader stack packet = some header →
        header.fragFlag = FragType.fragMid.code ∨
          header.fragFlag = FragType.fragEnd.code →
        session.checkUnPackBuffer header = true) ∧
      AcceptedFrom (packRecvData stack session packet).2 rest

def AcceptedByPeer (packets : List Bytes) : Prop :=
  ∀ session inputs, inputs.map Prod.snd = packets → AcceptedFrom session inputs

theorem inputs_eq_cons {inputs : List (SessionDataHeader × Bytes)}
    {packet : Bytes} {packets : List Bytes}
    (hinputs : inputs.map Prod.snd = packet :: packets) :
    ∃ stack rest, inputs = (stack, packet) :: rest ∧
      rest.map Prod.snd = packets := by
  obtain ⟨⟨stack, found⟩, rest, rfl, rfl, hrest⟩ :=
    List.map_eq_cons_iff.mp hinputs
  exact ⟨stack, rest, rfl, hrest⟩

def ShortFrom (maxSendSize : ℕ → ℕ) (total start : ℕ) : Prop :=
  ∀ index, start ≤ index → 0 < leftAfter maxSendSize total (index + 1) →
    roundChunk maxSendSize total index ≤ binaryDataMaxLen

theorem shortFrom_of_done {total : ℕ}
    (hdone : leftAfter maxSendSize total (index + 1) = 0) :
    ShortFrom maxSendSize total index := by
  intro later hlater hmore
  rw [leftAfter_eq_zero_of_le (Nat.succ_le_succ hlater) hdone] at hmore
  exact absurd hmore (Nat.lt_irrefl 0)

theorem shortFrom_iff {total : ℕ}
    (hmore : 0 < leftAfter maxSendSize total (index + 1)) :
    ShortFrom maxSendSize total index ↔
      roundChunk maxSendSize total index ≤ binaryDataMaxLen ∧
        ShortFrom maxSendSize total (index + 1) := by
  constructor
  · intro hshort
    exact ⟨hshort index le_rfl hmore,
      fun later hlater => hshort later (Nat.le_of_succ_le hlater)⟩
  · rintro ⟨hchunk, hshort⟩ later hlater hnext
    rcases Nat.eq_or_lt_of_le hlater with rfl | hlt
    · exact hchunk
    · exact hshort later hlt hnext

section Receiver

variable (hsize : data.length < dschedMaxBufferSize)
  (htype : dataType < 2 ^ 32)
include hsize htype

theorem describes_roundHeader
    (hmore : 0 < leftAfter maxSendSize data.length index)
    (hmax : binaryDataPacketReservedBuffer < maxSendSize index)
    (hshort : roundChunk maxSendSize data.length index ≤ binaryDataMaxLen) :
    Describes (roundHeader maxSendSize data dataType index) data dataType
      (sentAfter maxSendSize data index) := by
  have hinRange := @inRange_roundHeader maxSendSize data dataType index hsize
    htype
  refine ⟨hinRange, ?_, ?_, ?_, ?_, ?_, ?_⟩
  · rw [roundHeader_eq]
    rfl
  · rw [roundHeader_eq]
    rfl
  · rw [roundHeader_eq]
    rfl
  · rw [dataLen_roundHeader]
    exact @SendRound.chunk_pos ⟨maxSendSize index, _⟩ hmore hmax
  · rw [dataLen_roundHeader, length_sub_sentAfter]
    exact roundChunk_le
  · rw [dataLen_roundHeader]
    exact hshort

theorem packRecvData_long
    (hlong : ¬roundChunk maxSendSize data.length index ≤ binaryDataMaxLen)
    (stack : SessionDataHeader) (session : DSchedSoftbusSession) :
    packRecvData stack session (packetAt maxSendSize data dataType index) =
      (none, session) := by
  unfold packRecvData
  split_ifs
  · rfl
  · rw [getFragDataHeader_packetAt hsize htype]
    dsimp only
    rw [if_pos]
    rw [dataLen_roundHeader]
    exact .inr (.inr (.inl (Nat.lt_of_not_le hlong)))

omit htype in
theorem checkUnPackBuffer_roundHeader {lastSub : ℕ} :
    (assembling data (sentAfter maxSendSize data index)
        lastSub).checkUnPackBuffer
        (roundHeader maxSendSize data dataType index) =
      (lastSub + 1 == index % 2 ^ 16) := by
  have hleft := @length_sub_sentAfter maxSendSize data index
  have hchunk := @roundChunk_le maxSendSize index data.length
  have hle : sentAfter maxSendSize data index ≤ data.length := Nat.sub_le _ _
  rw [checkUnPackBuffer_assembling hsize, roundHeader_eq]
  · rfl
  · rw [roundHeader_eq]
    rfl
  · rw [dataLen_roundHeader]
    omega

omit hsize htype in
theorem fragFlag_roundHeader_succ :
    (roundHeader maxSendSize data dataType (index + 1)).fragFlag =
        (if maxSendSize (index + 1) <
            leftAfter maxSendSize data.length (index + 1) then
          FragType.fragMid else .fragEnd).code := by
  rw [roundHeader_eq]
  rfl

variable {session : DSchedSoftbusSession}

theorem acceptedFrom_cons {stack : SessionDataHeader}
    {rest : List (SessionDataHeader × Bytes)} :
    AcceptedFrom session
        ((stack, packetAt maxSendSize data dataType (index + 1)) :: rest) ↔
      session.checkUnPackBuffer
          (roundHeader maxSendSize data dataType (index + 1)) = true ∧
        AcceptedFrom (packRecvData stack session
          (packetAt maxSendSize data dataType (index + 1))).2 rest := by
  have hflag : (roundHeader maxSendSize data dataType (index + 1)).fragFlag =
        FragType.fragMid.code ∨
      (roundHeader maxSendSize data dataType (index + 1)).fragFlag =
        FragType.fragEnd.code := by
    rw [fragFlag_roundHeader_succ]
    split_ifs
    · exact .inl rfl
    · exact .inr rfl
  rw [AcceptedFrom, getFragDataHeader_packetAt hsize htype]
  refine and_congr_left fun _ => ?_
  constructor
  · intro hcheck
    exact hcheck _ rfl hflag
  · intro hcheck header hheader _
    obtain rfl := Option.some.inj hheader
    exact hcheck

theorem packRecvData_packetAt_succ
    (hmax : binaryDataPacketReservedBuffer < maxSendSize (index + 1))
    (hnext : 0 < leftAfter maxSendSize data.length (index + 2))
    (hshort : roundChunk maxSendSize data.length (index + 1) ≤
      binaryDataMaxLen)
    (hsmall : index + 1 < 2 ^ 16) (stack : SessionDataHeader) :
    packRecvData stack
        (assembling data (sentAfter maxSendSize data (index + 1)) index)
        (packetAt maxSendSize data dataType (index + 1)) =
      (none, assembling data (sentAfter maxSendSize data (index + 2))
        (index + 1)) := by
  have hlong : maxSendSize (index + 1) <
      leftAfter maxSendSize data.length (index + 1) := by
    by_contra hlast
    rw [leftAfter, SendRound.chunk, if_neg hlast, Nat.sub_self] at hnext
    exact Nat.lt_irrefl 0 hnext
  have hdescribes := describes_roundHeader hsize htype
    (Nat.zero_lt_of_lt hlong) hmax hshort
  have hflag : (roundHeader maxSendSize data dataType (index + 1)).fragFlag =
      FragType.fragMid.code := by
    rw [fragFlag_roundHeader_succ, if_pos hlong]
  have hsub : (roundHeader maxSendSize data dataType (index + 1)).subSeq =
      index + 1 := by
    rw [roundHeader_eq]
    exact Nat.mod_eq_of_lt hsmall
  unfold packetAt
  rw [packRecvData_next hdescribes hsize hsub (.inl hflag), if_pos hflag,
    dataLen_roundHeader, ← sentAfter_succ]

theorem not_acceptedFrom_next {inputs : List (SessionDataHeader × Bytes)}
    (hfuel : 0 < fuel) (hmore : 0 < leftAfter maxSendSize data.length (index + 1))
    (hnumber : session.isWaiting = true →
      session.nowSubSeq + 1 ≠ (index + 1) % 2 ^ 16)
    (hinputs : inputs.map Prod.snd =
      packetsFrom maxSendSize data dataType fuel (index + 1)) :
    ¬AcceptedFrom session inputs := by
  intro haccepted
  obtain ⟨fuel, rfl⟩ := Nat.exists_eq_succ_of_ne_zero (Nat.ne_of_gt hfuel)
  rw [packetsFrom, if_pos hmore] at hinputs
  obtain ⟨stack, rest, rfl, -⟩ := inputs_eq_cons hinputs
  have hcheck := ((acceptedFrom_cons hsize htype).mp haccepted).1
  simp only [checkUnPackBuffer, Bool.and_eq_true, beq_iff_eq] at hcheck
  obtain ⟨⟨⟨hwaiting, -⟩, hsub⟩, -⟩ := hcheck
  rw [roundHeader_eq] at hsub
  exact hnumber hwaiting hsub

/-- A peer in the middle of the buffer accepts the rest of its packets exactly
when those with a successor are short. -/
theorem acceptedFrom_assembling_iff
    (hmax : ∀ index, binaryDataPacketReservedBuffer < maxSendSize index)
    (hnumbers : leftAfter maxSendSize data.length (2 ^ 16) = 0)
    (hfuel : leftAfter maxSendSize data.length (index + 1) ≤ fuel)
    {inputs : List (SessionDataHeader × Bytes)}
    (hinputs : inputs.map Prod.snd =
      packetsFrom maxSendSize data dataType fuel (index + 1)) :
    AcceptedFrom
        (assembling data (sentAfter maxSendSize data (index + 1)) index)
        inputs ↔
      ShortFrom maxSendSize data.length (index + 1) := by
  have hsmall : ∀ {round}, 0 < leftAfter maxSendSize data.length round →
      round < 2 ^ 16 := lt_of_leftAfter_pos hnumbers
  induction fuel generalizing index inputs with
  | zero =>
      obtain rfl := List.map_eq_nil_iff.mp hinputs
      have hdone := leftAfter_eq_zero_of_le (Nat.le_succ (index + 1))
        (Nat.eq_zero_of_le_zero hfuel)
      exact iff_of_true trivial (shortFrom_of_done hdone)
  | succ fuel ih =>
      by_cases hmore : 0 < leftAfter maxSendSize data.length (index + 1)
      · have hless : leftAfter maxSendSize data.length (index + 2) <
            leftAfter maxSendSize data.length (index + 1) :=
          leftAfter_succ_lt (hmax (index + 1)) hmore
        rw [packetsFrom, if_pos hmore] at hinputs
        obtain ⟨stack, rest, rfl, hrest⟩ := inputs_eq_cons hinputs
        rw [acceptedFrom_cons hsize htype, checkUnPackBuffer_roundHeader hsize,
          Nat.mod_eq_of_lt (hsmall hmore), beq_self_eq_true,
          and_iff_right rfl]
        by_cases hnext : 0 < leftAfter maxSendSize data.length (index + 2)
        · rw [shortFrom_iff hnext]
          by_cases hshort : roundChunk maxSendSize data.length (index + 1) ≤
              binaryDataMaxLen
          · rw [packRecvData_packetAt_succ hsize htype (hmax _) hnext hshort
              (hsmall hmore), and_iff_right hshort]
            exact ih (Nat.le_of_lt_succ (hless.trans_le hfuel)) hrest
          · rw [packRecvData_long hsize htype hshort]
            have hpos : 0 < fuel := by omega
            refine iff_of_false (fun haccepted => ?_) fun h => hshort h.1
            exact not_acceptedFrom_next hsize htype hpos hnext
              (fun _ => by
                rw [Nat.mod_eq_of_lt (hsmall hnext)]
                exact Nat.ne_of_lt (Nat.lt_succ_self _)) hrest haccepted
        · have hdone := Nat.eq_zero_of_not_pos hnext
          rw [packetsFrom_of_done hdone] at hrest
          obtain rfl := List.map_eq_nil_iff.mp hrest
          exact iff_of_true trivial (shortFrom_of_done hdone)
      · have hdone := Nat.eq_zero_of_not_pos hmore
        rw [packetsFrom_of_done hdone] at hinputs
        obtain rfl := List.map_eq_nil_iff.mp hinputs
        exact iff_of_true trivial (shortFrom_of_done
          (leftAfter_eq_zero_of_le (Nat.le_succ (index + 1)) hdone))

theorem acceptedFrom_start_iff {stack : SessionDataHeader}
    {rest : List (SessionDataHeader × Bytes)}
    (hmax : binaryDataPacketReservedBuffer < maxSendSize 0)
    (hlarge : maxSendSize 0 < data.length) :
    AcceptedFrom session
        ((stack, packetAt maxSendSize data dataType 0) :: rest) ↔
      AcceptedFrom
        (if roundChunk maxSendSize data.length 0 ≤ binaryDataMaxLen then
          assembling data (sentAfter maxSendSize data 1) 0
        else session) rest := by
  have hheader : roundHeader maxSendSize data dataType 0 =
      headPara data dataType .fragStart 0
        (roundChunk maxSendSize data.length 0) := by
    rw [roundHeader_eq]
    exact congrArg (headPara data dataType · 0 _) (if_pos hlarge)
  rw [AcceptedFrom, getFragDataHeader_packetAt hsize htype]
  have hunchecked : ∀ header, some (roundHeader maxSendSize data dataType 0) =
      some header → header.fragFlag = FragType.fragMid.code ∨
        header.fragFlag = FragType.fragEnd.code →
      session.checkUnPackBuffer header = true := by
    intro header hsame hflag
    obtain rfl := Option.some.inj hsame
    rw [hheader] at hflag
    exact absurd hflag (by simp [headPara, FragType.code])
  rw [and_iff_right hunchecked]
  by_cases hshort : roundChunk maxSendSize data.length 0 ≤ binaryDataMaxLen
  · have hmore : 0 < leftAfter maxSendSize data.length 0 :=
      Nat.zero_lt_of_lt hlarge
    have hdescribes := describes_roundHeader hsize htype hmore hmax hshort
    have hstart : sentAfter maxSendSize data 0 = 0 := Nat.sub_self _
    have hreceived : packRecvData stack session
        (packetAt maxSendSize data dataType 0) =
          (none, assembling data (sentAfter maxSendSize data 1) 0) := by
      unfold packetAt
      rw [packRecvData_start hdescribes hsize hstart (by rw [hheader]; rfl)
        (by rw [hheader]; rfl), dataLen_roundHeader, sentAfter_succ, hstart,
        Nat.zero_add]
    rw [hreceived, if_pos hshort]
  · rw [packRecvData_long hsize htype hshort, if_neg hshort]

theorem acceptedByPeer_packetsFrom_iff
    (hmax : ∀ index, binaryDataPacketReservedBuffer < maxSendSize index)
    (hlarge : maxSendSize 0 < data.length)
    (hnumbers : leftAfter maxSendSize data.length (2 ^ 16) = 0) :
    AcceptedByPeer (packetsFrom maxSendSize data dataType data.length 0) ↔
      ShortFrom maxSendSize data.length 0 := by
  have hmore : 0 < leftAfter maxSendSize data.length 0 :=
    Nat.zero_lt_of_lt hlarge
  have hless : leftAfter maxSendSize data.length 1 < data.length :=
    leftAfter_succ_lt (hmax 0) hmore
  have hnext : 0 < leftAfter maxSendSize data.length 1 := by
    rw [leftAfter, leftAfter, SendRound.chunk, if_pos hlarge]
    dsimp only
    omega
  obtain ⟨fuel, hfuel⟩ := Nat.exists_eq_succ_of_ne_zero
    (Nat.ne_of_gt (Nat.zero_lt_of_lt hlarge))
  have hpackets : packetsFrom maxSendSize data dataType data.length 0 =
      packetAt maxSendSize data dataType 0 ::
        packetsFrom maxSendSize data dataType fuel 1 := by
    rw [hfuel, packetsFrom, if_pos hmore]
  have hrest : leftAfter maxSendSize data.length 1 ≤ fuel := by omega
  rw [shortFrom_iff hnext, hpackets]
  constructor
  · intro haccepted
    have hinitial := haccepted initial
      ((packetAt maxSendSize data dataType 0 ::
        packetsFrom maxSendSize data dataType fuel 1).map
          fun packet => (headPara data dataType .fragStart 0 0, packet))
      (by simp [Function.comp_def])
    rw [List.map_cons, acceptedFrom_start_iff hsize htype (hmax 0) hlarge]
      at hinitial
    by_cases hshort : roundChunk maxSendSize data.length 0 ≤ binaryDataMaxLen
    · rw [if_pos hshort, acceptedFrom_assembling_iff hsize htype hmax hnumbers
        hrest (by simp [Function.comp_def])] at hinitial
      exact ⟨hshort, hinitial⟩
    · rw [if_neg hshort] at hinitial
      have hpos : 0 < fuel := by omega
      exact absurd hinitial (not_acceptedFrom_next hsize htype hpos hnext
        (by simp [initial]) (by simp [Function.comp_def]))
  · rintro ⟨hshort, hlater⟩ session inputs hinputs
    obtain ⟨stack, rest, rfl, hrest'⟩ := inputs_eq_cons hinputs
    rw [acceptedFrom_start_iff hsize htype (hmax 0) hlarge, if_pos hshort,
      acceptedFrom_assembling_iff hsize htype hmax hnumbers hrest hrest']
    exact hlater

end Receiver

end Rounds

/-! ## Both sides -/

/-- The packets of the buffer are numbered in order, and a peer accepts every
one behind those before it. -/
def NumberedInOrder (maxSendSize : ℕ → ℕ) (data : Bytes) (dataType : Int32) :
    Prop :=
  Numbered (unPackSendData (willing maxSendSize) data dataType).2 ∧
    AcceptedByPeer (unPackSendData (willing maxSendSize) data dataType).2

section Completed

variable {maxSendSize : ℕ → ℕ} {data : Bytes} {dataType : Int32}

theorem inRange_startEndHeader (hsize : data.length < dschedMaxBufferSize) :
    (startEndHeader data dataType).InRange := by
  simp only [dschedMaxBufferSize] at hsize
  constructor
  · exact (by decide : protocolVersion < 2 ^ 16)
  · exact (by decide : FragType.fragStartEnd.code < 2 ^ 8)
  · exact dataType.toUInt32.toNat_lt
  · exact Nat.two_pow_pos 32
  · exact (by omega : data.length < 2 ^ 32)
  · exact Nat.two_pow_pos 16
  · exact (by omega : data.length < 2 ^ 32)

theorem unPackStartEndData_eq {answers : SoftbusAnswers}
    (hdone : (unPackStartEndData answers data dataType).1 = none) :
    (unPackStartEndData answers data dataType).2 =
      [makeFragDataHeader (startEndHeader data dataType) ++ data] := by
  unfold unPackStartEndData at hdone ⊢
  by_cases hnull : (ofCapacity (data.length + binaryHeaderFragLen)).size <
      binaryHeaderFragLen
  · rw [if_pos hnull] at hdone
    cases hdone
  · rw [if_neg hnull] at hdone ⊢
    cases hpacket : makePacket (startEndHeader data dataType)
        (data.length + binaryHeaderFragLen) data with
    | none =>
        unfold startEndHeader at hpacket
        rw [hpacket] at hdone
        cases hdone
    | some packet =>
        have hmade := eq_of_makePacket le_rfl (fun _ => rfl) hpacket
        unfold startEndHeader at hpacket
        rw [hpacket] at hdone ⊢
        by_cases hsend : answers.sendBytes 0 = true
        · simp only [if_pos hsend, hmade]
        · simp [hsend] at hdone

theorem numberedInOrder_of_fits (hsize : data.length < dschedMaxBufferSize)
    (hdone : (unPackSendData (willing maxSendSize) data dataType).1 = none)
    (hfits : data.length ≤ maxSendSize 0) :
    NumberedInOrder maxSendSize data dataType := by
  have hcall : unPackSendData (willing maxSendSize) data dataType =
      unPackStartEndData (willing maxSendSize) data dataType := if_pos hfits
  have hread := getFragDataHeader_append
    (@inRange_startEndHeader data dataType hsize)
  rw [hcall] at hdone
  rw [NumberedInOrder, hcall, unPackStartEndData_eq hdone]
  constructor
  · intro number packet hpacket stack
    cases number with
    | zero =>
        obtain rfl := Option.some.inj hpacket
        exact ⟨_, hread stack data, rfl⟩
    | succ number => cases hpacket
  · intro session inputs hinputs
    obtain ⟨stack, rest, rfl, hrest⟩ := inputs_eq_cons hinputs
    obtain rfl := List.map_eq_nil_iff.mp hrest
    refine ⟨fun header hheader hflag => ?_, trivial⟩
    rw [hread] at hheader
    obtain rfl := Option.some.inj hheader
    exact absurd hflag (by simp [startEndHeader, FragType.code])

theorem unPackSendData_of_large (hlarge : maxSendSize 0 < data.length) :
    unPackSendData (willing maxSendSize) data dataType =
      sendFragments (willing maxSendSize) data data.length 0
        (headPara data dataType.toUInt32.toNat (roundFlag 0) (0 % 2 ^ 16) 0)
        (sentAfter maxSendSize data 0) (maxSendSize 0) := by
  have hstart : sentAfter maxSendSize data 0 = 0 := Nat.sub_self _
  rw [hstart]
  exact if_neg (Nat.not_le_of_lt hlarge)

theorem unPackSendData_eq_packetsFrom
    (hmax : ∀ index, binaryDataPacketReservedBuffer < maxSendSize index)
    (hlarge : maxSendSize 0 < data.length)
    (hdone : (unPackSendData (willing maxSendSize) data dataType).1 = none) :
    (unPackSendData (willing maxSendSize) data dataType).2 =
      packetsFrom maxSendSize data dataType.toUInt32.toNat data.length 0 := by
  rw [unPackSendData_of_large hlarge] at hdone ⊢
  exact sendFragments_eq_packetsFrom hmax le_rfl hdone

/-- A completed call numbers its packets in order exactly when it makes at most
65536 of them and those with a successor hold at most 4 MiB. -/
theorem numberedInOrder_iff (hsize : data.length < dschedMaxBufferSize)
    (hmax : ∀ index, binaryDataPacketReservedBuffer < maxSendSize index)
    (hdone : (unPackSendData (willing maxSendSize) data dataType).1 = none) :
    NumberedInOrder maxSendSize data dataType ↔
      leftAfter maxSendSize data.length (2 ^ 16) = 0 ∧
        ∀ index, 0 < leftAfter maxSendSize data.length (index + 1) →
          roundChunk maxSendSize data.length index ≤ binaryDataMaxLen := by
  have hshort : ShortFrom maxSendSize data.length 0 ↔
      ∀ index, 0 < leftAfter maxSendSize data.length (index + 1) →
        roundChunk maxSendSize data.length index ≤ binaryDataMaxLen :=
    ⟨fun h index => h index (Nat.zero_le index), fun h index _ => h index⟩
  rw [← hshort]
  by_cases hlarge : maxSendSize 0 < data.length
  · have htype := dataType.toUInt32.toNat_lt
    rw [NumberedInOrder, unPackSendData_eq_packetsFrom hmax hlarge hdone,
      numbered_packetsFrom_iff hsize htype hmax]
    refine and_congr_right fun hnumbers => ?_
    exact acceptedByPeer_packetsFrom_iff hsize htype hmax hlarge hnumbers
  · have hfits := Nat.le_of_not_lt hlarge
    have hlast : leftAfter maxSendSize data.length 1 = 0 := by
      rw [leftAfter, leftAfter, SendRound.chunk, if_neg hlarge, Nat.sub_self]
    refine iff_of_true (numberedInOrder_of_fits hsize hdone hfits) ⟨?_, ?_⟩
    · exact leftAfter_eq_zero_of_le (Nat.one_le_two_pow) hlast
    · exact shortFrom_of_done hlast

theorem unPackSendData_completed
    (hmax : ∀ index, binaryDataPacketReservedBuffer < maxSendSize index)
    (hlarge : maxSendSize 0 < data.length)
    (hroom : data.length + binaryHeaderFragLen < dschedMaxBufferSize) :
    (unPackSendData (willing maxSendSize) data dataType).1 = none := by
  rw [unPackSendData_of_large hlarge]
  apply sendFragments_completed hmax
  intro index
  have hchunk := @roundChunk_le maxSendSize index data.length
  have hleft := @leftAfter_le maxSendSize index data.length
  omega

end Completed

theorem leftAfter_513 {total index : ℕ} (hle : index + 513 ≤ total) :
    leftAfter (fun _ => 513) total index = total - index := by
  induction index with
  | zero => rfl
  | succ index ih =>
      rw [leftAfter, ih (by omega), SendRound.chunk, if_pos (by dsimp only; omega)]
      simp only [binaryDataPacketReservedBuffer]
      omega

theorem unPackSendData_513 {data : Bytes} {dataType : Int32}
    (hlarge : 513 < data.length)
    (hroom : data.length + binaryHeaderFragLen < dschedMaxBufferSize) :
    (unPackSendData (willing fun _ => 513) data dataType).1 = none :=
  unPackSendData_completed (fun _ => by decide) hlarge hroom

theorem numberedInOrder_eightFragments :
    NumberedInOrder (fun _ => 513) (List.replicate 520 0) 1 := by
  have hsize : (List.replicate 520 (0 : UInt8)).length = 520 :=
    List.length_replicate
  have hnumbers : leftAfter (fun _ => 513) 520 8 = 0 := by decide
  refine (numberedInOrder_iff (by rw [hsize]; decide) (fun _ => by decide)
    (unPackSendData_513 (by rw [hsize]; decide) (by rw [hsize]; decide))).mpr
    ⟨?_, fun index _ => ?_⟩
  · rw [hsize]
    exact leftAfter_eq_zero_of_le (by decide) hnumbers
  · rw [hsize]
    exact (roundChunk_le.trans leftAfter_le).trans (by decide)

/-- A buffer of 66100 bytes whose fragments hold one byte. -/
theorem not_numberedInOrder_singleBytes :
    (unPackSendData (willing fun _ => 513) (List.replicate 66100 0) 1).1 =
        none ∧
      ¬NumberedInOrder (fun _ => 513) (List.replicate 66100 0) 1 := by
  have hsize : (List.replicate 66100 (0 : UInt8)).length = 66100 :=
    List.length_replicate
  have hdone : (unPackSendData (willing fun _ => 513)
      (List.replicate 66100 0) 1).1 = none :=
    unPackSendData_513 (by rw [hsize]; decide) (by rw [hsize]; decide)
  refine ⟨hdone, fun hnumbered => ?_⟩
  have hnumbers := hnumbered.1
  rw [unPackSendData_eq_packetsFrom (fun _ => by decide)
    (by rw [hsize]; decide) hdone, numbered_packetsFrom_iff
    (by rw [hsize]; decide) (by decide) (fun _ => by decide), hsize,
    leftAfter_513 (by decide)] at hnumbers
  exact absurd hnumbers (by decide)

end DSchedSoftbusSession

end Dmsfwk
