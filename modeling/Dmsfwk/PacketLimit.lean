import Dmsfwk.SoftbusSessionDelivery

/-!
# The size of the packets of a softbus session

The packets which `UnPackSendData` passes to softbus, with the answer of
`GetSessionOption` which each one was made for.  A fragment in front of others
leaves 512 bytes free for the header; the last one and the only one take all
that is left.
-/

namespace Dmsfwk

open ByteCodec
open AVTransDataBuffer

namespace DSchedSoftbusSession

/-! ## The passed packets -/

structure SendRound where
  maxSendSize : ℕ
  left : ℕ

def SendRound.chunk (round : SendRound) : ℕ :=
  if round.maxSendSize < round.left then
    round.maxSendSize - binaryDataPacketReservedBuffer
  else round.left

structure PassedPacket where
  round : SendRound
  packet : Bytes

def roundPacket (data : Bytes) (header : SessionDataHeader) (offset : ℕ) :
    Option Bytes :=
  makePacket header ((header.dataLen + binaryHeaderFragLen) % 2 ^ 32)
    ((data.drop offset).take header.dataLen)

def passedFragments (answers : SoftbusAnswers) (data : Bytes) :
    ℕ → ℕ → SessionDataHeader → ℕ → ℕ → List PassedPacket
  | 0, _, _, _, _ => []
  | fuel + 1, index, header, offset, maxSendSize =>
      if offset < data.length then
        if maxSendSize ≤ binaryDataPacketReservedBuffer then []
        else
          let header := setHeadParaDataLen header data.length offset maxSendSize
          match roundPacket data header offset with
          | none => []
          | some packet =>
              let passed : PassedPacket :=
                ⟨⟨maxSendSize, data.length - offset⟩, packet⟩
              if answers.sendBytes index then
                match answers.sessionOption (index + 1) with
                | none => [passed]
                | some next =>
                    passed :: passedFragments answers data fuel (index + 1)
                      { header with
                        subSeq := (header.subSeq + 1) % 2 ^ 16
                        fragFlag := FragType.fragMid.code }
                      (offset + header.dataLen) next
              else [passed]
      else []

def startEndHeader (data : Bytes) (dataType : Int32) : SessionDataHeader where
  version := protocolVersion
  fragFlag := FragType.fragStartEnd.code
  dataType := dataType.toUInt32.toNat
  seqNum := 0
  totalLen := data.length
  subSeq := 0
  dataLen := data.length

def startHeader (data : Bytes) (dataType : Int32) : SessionDataHeader where
  version := protocolVersion
  fragFlag := FragType.fragStart.code
  dataType := dataType.toUInt32.toNat
  seqNum := 0
  totalLen := data.length
  subSeq := 0
  dataLen := 0

def passedStartEnd (data : Bytes) (dataType : Int32) (maxSendSize : ℕ) :
    List PassedPacket :=
  if (ofCapacity (data.length + binaryHeaderFragLen)).size <
      binaryHeaderFragLen then []
  else
    match makePacket (startEndHeader data dataType)
        (data.length + binaryHeaderFragLen) data with
    | none => []
    | some packet => [⟨⟨maxSendSize, data.length⟩, packet⟩]

def passedPackets (answers : SoftbusAnswers) (data : Bytes)
    (dataType : Int32) : List PassedPacket :=
  match answers.sessionOption 0 with
  | none => []
  | some maxSendSize =>
      if data.length ≤ maxSendSize then passedStartEnd data dataType maxSendSize
      else passedFragments answers data data.length 0
        (startHeader data dataType) 0 maxSendSize

def sentBySoftbus (answers : SoftbusAnswers) :
    ℕ → List PassedPacket → List Bytes
  | _, [] => []
  | index, passed :: rest =>
      if answers.sendBytes index then
        passed.packet :: sentBySoftbus answers (index + 1) rest
      else []

/-! ## The passed packets are those of the source -/

variable {answers : SoftbusAnswers} {data : Bytes} {dataType : Int32}
  {fuel index offset maxSendSize : ℕ} {header : SessionDataHeader}

theorem sentBySoftbus_passedFragments :
    sentBySoftbus answers index
        (passedFragments answers data fuel index header offset maxSendSize) =
      (sendFragments answers data fuel index header offset maxSendSize).2 := by
  induction fuel generalizing index header offset maxSendSize with
  | zero => rfl
  | succ fuel ih =>
      rw [passedFragments, sendFragments]
      by_cases hoffset : offset < data.length
      · rw [if_pos hoffset, if_pos hoffset]
        by_cases hreserved : maxSendSize ≤ binaryDataPacketReservedBuffer
        · rw [if_pos hreserved, if_pos hreserved]
          rfl
        · rw [if_neg hreserved, if_neg hreserved]
          dsimp only [roundPacket]
          cases makePacket
              (setHeadParaDataLen header data.length offset maxSendSize)
              (((setHeadParaDataLen header data.length offset
                maxSendSize).dataLen + binaryHeaderFragLen) % 2 ^ 32)
              ((data.drop offset).take (setHeadParaDataLen header data.length
                offset maxSendSize).dataLen) with
          | none => rfl
          | some packet =>
              by_cases hsend : answers.sendBytes index = true
              · cases hnext : answers.sessionOption (index + 1) with
                | none => simp [sentBySoftbus, hsend]
                | some next =>
                    simp only [if_pos hsend]
                    rw [sentBySoftbus, if_pos hsend, ih]
              · simp [sentBySoftbus, hsend]
      · rw [if_neg hoffset, if_neg hoffset]
        rfl

theorem sentBySoftbus_passedPackets (answers : SoftbusAnswers) (data : Bytes)
    (dataType : Int32) :
    sentBySoftbus answers 0 (passedPackets answers data dataType) =
      (unPackSendData answers data dataType).2 := by
  unfold passedPackets unPackSendData
  cases answers.sessionOption 0 with
  | none => rfl
  | some maxSendSize =>
      dsimp only
      by_cases hfits : data.length ≤ maxSendSize
      · rw [if_pos hfits, if_pos hfits]
        unfold passedStartEnd unPackStartEndData startEndHeader
        by_cases hnull : (ofCapacity (data.length + binaryHeaderFragLen)).size <
            binaryHeaderFragLen
        · rw [if_pos hnull, if_pos hnull]
          rfl
        · rw [if_neg hnull, if_neg hnull]
          cases makePacket ⟨protocolVersion, FragType.fragStartEnd.code,
              dataType.toUInt32.toNat, 0, data.length, 0, data.length⟩
              (data.length + binaryHeaderFragLen) data with
          | none => rfl
          | some packet =>
              by_cases hsend : answers.sendBytes 0 = true
              · simp [sentBySoftbus, hsend]
              · simp [sentBySoftbus, hsend]
      · rw [if_neg hfits, if_neg hfits]
        exact sentBySoftbus_passedFragments

/-! ## Lengths -/

theorem length_of_makePacket {capacity : ℕ} {body packet : Bytes}
    (hpacket : makePacket header capacity body = some packet)
    (hcapacity : capacity ≤ body.length + binaryHeaderFragLen) :
    packet.length = body.length + binaryHeaderFragLen := by
  unfold makePacket memcpyS at hpacket
  dsimp only at hpacket
  split_ifs at hpacket with hnull hroom
  obtain rfl := Option.some.inj hpacket
  obtain ⟨hsize, hfits⟩ := not_or.mp hroom
  have hdata : (ofCapacity capacity).data.length =
      (ofCapacity capacity).size := by
    unfold ofCapacity AVTransDataBuffer.size
    split_ifs <;> simp
  have hle : (ofCapacity capacity).size ≤ capacity := by
    unfold ofCapacity AVTransDataBuffer.size
    split_ifs
    · exact le_rfl
    · exact Nat.zero_le _
  simp only [List.length_append, List.length_take, List.length_drop,
    length_makeFragDataHeader, hdata]
  omega

theorem dataLen_setHeadParaDataLen {total : ℕ} :
    (setHeadParaDataLen header total offset maxSendSize).dataLen =
      (SendRound.mk maxSendSize (total - offset)).chunk := by
  unfold setHeadParaDataLen SendRound.chunk
  split_ifs <;> rfl

theorem SendRound.chunk_le (round : SendRound) : round.chunk ≤ round.left := by
  unfold SendRound.chunk
  split_ifs with hmore
  · omega
  · exact le_rfl

theorem SendRound.chunk_pos {round : SendRound} (hleft : 0 < round.left)
    (hreserved : binaryDataPacketReservedBuffer < round.maxSendSize) :
    0 < round.chunk := by
  unfold SendRound.chunk
  split_ifs with hmore
  · exact Nat.sub_pos_of_lt hreserved
  · exact hleft

theorem length_roundBody :
    ((data.drop offset).take (setHeadParaDataLen header data.length offset
        maxSendSize).dataLen).length =
      (SendRound.mk maxSendSize (data.length - offset)).chunk := by
  rw [List.length_take, List.length_drop, dataLen_setHeadParaDataLen]
  exact min_eq_left (SendRound.chunk_le _)

theorem roundCapacity_le :
    ((setHeadParaDataLen header data.length offset maxSendSize).dataLen +
        binaryHeaderFragLen) % 2 ^ 32 ≤
      ((data.drop offset).take (setHeadParaDataLen header data.length offset
        maxSendSize).dataLen).length + binaryHeaderFragLen := by
  rw [length_roundBody, dataLen_setHeadParaDataLen]
  exact Nat.mod_le _ _

theorem roundCapacity_eq
    (hbound : ((data.drop offset).take (setHeadParaDataLen header data.length
      offset maxSendSize).dataLen).length + binaryHeaderFragLen <
        dschedMaxBufferSize) :
    ((setHeadParaDataLen header data.length offset maxSendSize).dataLen +
        binaryHeaderFragLen) % 2 ^ 32 =
      ((data.drop offset).take (setHeadParaDataLen header data.length offset
        maxSendSize).dataLen).length + binaryHeaderFragLen := by
  rw [length_roundBody] at hbound ⊢
  rw [dataLen_setHeadParaDataLen]
  refine Nat.mod_eq_of_lt (hbound.trans ?_)
  unfold dschedMaxBufferSize
  norm_num

theorem length_roundPacket {packet : Bytes}
    (hround : roundPacket data
      (setHeadParaDataLen header data.length offset maxSendSize) offset =
        some packet) :
    packet.length = (SendRound.mk maxSendSize (data.length - offset)).chunk +
      binaryHeaderFragLen := by
  rw [length_of_makePacket hround roundCapacity_le, length_roundBody]

/-! ## The size of the passed packets -/

/-- The size of a packet by what was left; only a fragment in front of others
is sure to fit. -/
def PassedPacket.Sized (passed : PassedPacket) : Prop :=
  passed.packet.length = passed.round.chunk + binaryHeaderFragLen ∧
    (passed.round.maxSendSize < passed.round.left →
      binaryDataPacketReservedBuffer < passed.round.maxSendSize)

theorem sized_passedFragments :
    ∀ passed ∈ passedFragments answers data fuel index header offset
      maxSendSize, passed.Sized := by
  induction fuel generalizing index header offset maxSendSize with
  | zero => simp [passedFragments]
  | succ fuel ih =>
      rw [passedFragments]
      by_cases hoffset : offset < data.length
      · rw [if_pos hoffset]
        by_cases hreserved : maxSendSize ≤ binaryDataPacketReservedBuffer
        · simp [if_pos hreserved]
        · rw [if_neg hreserved]
          dsimp only
          cases hround : roundPacket data (setHeadParaDataLen header data.length
              offset maxSendSize) offset with
          | none => simp
          | some packet =>
              have hsized : PassedPacket.Sized
                  ⟨⟨maxSendSize, data.length - offset⟩, packet⟩ :=
                ⟨length_roundPacket hround, fun _ => Nat.lt_of_not_le hreserved⟩
              by_cases hsend : answers.sendBytes index = true
              · cases hnext : answers.sessionOption (index + 1) with
                | none => simpa [hsend] using hsized
                | some next =>
                    simp only [if_pos hsend]
                    exact List.forall_mem_cons.mpr ⟨hsized, ih⟩
              · simpa [hsend] using hsized
      · simp [if_neg hoffset]

theorem sized_passedPackets :
    ∀ passed ∈ passedPackets answers data dataType, passed.Sized := by
  unfold passedPackets
  cases answers.sessionOption 0 with
  | none => simp
  | some maxSendSize =>
      dsimp only
      split_ifs with hfits
      · unfold passedStartEnd
        split_ifs
        · simp
        · split
          · simp
          · next packet hpacket =>
              rw [List.forall_mem_singleton]
              refine ⟨?_, fun hlt => absurd hfits (Nat.not_le_of_lt hlt)⟩
              rw [SendRound.chunk, if_neg (Nat.not_lt_of_le hfits)]
              exact length_of_makePacket hpacket le_rfl
      · exact sized_passedFragments

/-! ## The rounds -/

/-- The rounds which come to a packet; they depend on the length of the buffer
and the answers of softbus alone. -/
def laterRounds (answers : SoftbusAnswers) :
    ℕ → ℕ → SendRound → List SendRound
  | 0, _, _ => []
  | fuel + 1, index, round =>
      if 0 < round.left ∧ binaryDataPacketReservedBuffer < round.maxSendSize ∧
          round.chunk + binaryHeaderFragLen < dschedMaxBufferSize then
        if answers.sendBytes index then
          match answers.sessionOption (index + 1) with
          | none => [round]
          | some next =>
              round :: laterRounds answers fuel (index + 1)
                ⟨next, round.left - round.chunk⟩
        else [round]
      else []

def sendRounds (answers : SoftbusAnswers) (total : ℕ) : List SendRound :=
  match answers.sessionOption 0 with
  | none => []
  | some maxSendSize =>
      if total ≤ maxSendSize then
        if 0 < total ∧ total + binaryHeaderFragLen < dschedMaxBufferSize then
          [⟨maxSendSize, total⟩]
        else []
      else laterRounds answers total 0 ⟨maxSendSize, total⟩

theorem makePacket_isSome_iff {capacity : ℕ} {body : Bytes}
    (hcapacity : capacity ≤ body.length + binaryHeaderFragLen)
    (hwhole : body.length + binaryHeaderFragLen < dschedMaxBufferSize →
      capacity = body.length + binaryHeaderFragLen) :
    (makePacket header capacity body).isSome ↔
      0 < body.length ∧
        body.length + binaryHeaderFragLen < dschedMaxBufferSize := by
  constructor
  · intro hsome
    obtain ⟨packet, hpacket⟩ := Option.isSome_iff_exists.mp hsome
    unfold makePacket memcpyS at hpacket
    dsimp only at hpacket
    split_ifs at hpacket with hnull hroom
    obtain ⟨hsize, hfits⟩ := not_or.mp hroom
    unfold ofCapacity AVTransDataBuffer.size at hsize hfits
    split_ifs at hsize hfits with hmade
    · dsimp only at hsize hfits
      obtain ⟨-, hbound⟩ := hmade
      constructor
      · omega
      · omega
    · exact absurd rfl hsize
  · rintro ⟨hpos, hbound⟩
    rw [hwhole hbound, makePacket_eq header rfl hpos hbound]
    rfl

section Capacity

variable {capacity : ℕ} {body packet : Bytes}
  (hcapacity : capacity ≤ body.length + binaryHeaderFragLen)
  (hwhole : body.length + binaryHeaderFragLen < dschedMaxBufferSize →
    capacity = body.length + binaryHeaderFragLen)
  (hpacket : makePacket header capacity body = some packet)

include hcapacity hwhole hpacket

theorem eq_of_makePacket : packet = makeFragDataHeader header ++ body := by
  obtain ⟨hpos, hbound⟩ := (makePacket_isSome_iff hcapacity hwhole).mp
    (Option.isSome_iff_exists.mpr ⟨packet, hpacket⟩)
  rw [hwhole hbound, makePacket_eq header rfl hpos hbound] at hpacket
  exact (Option.some.inj hpacket).symm

theorem drop_makePacket : packet.drop binaryHeaderFragLen = body := by
  rw [eq_of_makePacket hcapacity hwhole hpacket,
    ← length_makeFragDataHeader header, List.drop_left]

end Capacity

theorem roundPacket_isSome_iff (hoffset : offset < data.length)
    (hreserved : binaryDataPacketReservedBuffer < maxSendSize) :
    (roundPacket data (setHeadParaDataLen header data.length offset maxSendSize)
        offset).isSome ↔
      (SendRound.mk maxSendSize (data.length - offset)).chunk +
        binaryHeaderFragLen < dschedMaxBufferSize := by
  have hpos := @SendRound.chunk_pos ⟨maxSendSize, data.length - offset⟩
    (Nat.sub_pos_of_lt hoffset) hreserved
  unfold roundPacket
  rw [makePacket_isSome_iff roundCapacity_le roundCapacity_eq, length_roundBody]
  exact and_iff_right hpos

theorem round_passedFragments :
    (passedFragments answers data fuel index header offset maxSendSize).map
        PassedPacket.round =
      laterRounds answers fuel index ⟨maxSendSize, data.length - offset⟩ := by
  induction fuel generalizing index header offset maxSendSize with
  | zero => rfl
  | succ fuel ih =>
      rw [passedFragments, laterRounds]
      by_cases hoffset : offset < data.length
      · have hleft : 0 < data.length - offset := Nat.sub_pos_of_lt hoffset
        rw [if_pos hoffset]
        by_cases hreserved : maxSendSize ≤ binaryDataPacketReservedBuffer
        · rw [if_pos hreserved, if_neg (fun h => Nat.not_lt_of_le hreserved h.2.1)]
          rfl
        · have hmore := Nat.lt_of_not_le hreserved
          have hsome := @roundPacket_isSome_iff data offset maxSendSize header
            hoffset hmore
          rw [if_neg hreserved]
          dsimp only
          cases hround : roundPacket data (setHeadParaDataLen header data.length
              offset maxSendSize) offset with
          | none =>
              rw [hround] at hsome
              rw [if_neg (fun h => absurd (hsome.mpr h.2.2) (by simp))]
              rfl
          | some packet =>
              rw [hround] at hsome
              rw [if_pos ⟨hleft, hmore, hsome.mp rfl⟩]
              by_cases hsend : answers.sendBytes index = true
              · simp only [if_pos hsend]
                cases hnext : answers.sessionOption (index + 1) with
                | none => rfl
                | some next =>
                    dsimp only
                    rw [List.map_cons, ih, ← Nat.sub_sub,
                      dataLen_setHeadParaDataLen]
              · simp only [if_neg hsend]
                rfl
      · rw [if_neg hoffset, if_neg (fun h => hoffset (Nat.lt_of_sub_pos h.1))]
        rfl

theorem round_passedPackets (answers : SoftbusAnswers) (data : Bytes)
    (dataType : Int32) :
    (passedPackets answers data dataType).map PassedPacket.round =
      sendRounds answers data.length := by
  unfold passedPackets sendRounds
  cases answers.sessionOption 0 with
  | none => rfl
  | some maxSendSize =>
      dsimp only
      by_cases hfits : data.length ≤ maxSendSize
      · have hsome := @makePacket_isSome_iff (startEndHeader data dataType)
          (data.length + binaryHeaderFragLen) data le_rfl fun _ => rfl
        rw [if_pos hfits, if_pos hfits, passedStartEnd]
        cases hpacket : makePacket (startEndHeader data dataType)
            (data.length + binaryHeaderFragLen) data with
        | none =>
            rw [hpacket] at hsome
            rw [if_neg (fun h => absurd (hsome.mpr h) (by simp))]
            split_ifs <;> rfl
        | some packet =>
            rw [hpacket] at hsome
            have hbound := hsome.mp rfl
            rw [if_pos hbound, if_neg]
            · rfl
            · rw [ofCapacity, if_pos ⟨by omega, hbound.2⟩]
              exact Nat.not_lt_of_le (Nat.le_add_left _ _)
      · rw [if_neg hfits, if_neg hfits]
        exact round_passedFragments

/-! ## The limit -/

/-- Every packet is at most as long as the answer it was made for. -/
def WithinLimit (answers : SoftbusAnswers) (data : Bytes) (dataType : Int32) :
    Prop :=
  ∀ passed ∈ passedPackets answers data dataType,
    passed.packet.length ≤ passed.round.maxSendSize

/-- No packet exceeds the limit exactly when no round starts with 48 bytes less
than the limit up to the limit left. -/
theorem withinLimit_iff :
    WithinLimit answers data dataType ↔
      ∀ round ∈ sendRounds answers data.length,
        round.left ≤ round.maxSendSize →
          round.left + binaryHeaderFragLen ≤ round.maxSendSize := by
  rw [← round_passedPackets answers data dataType, List.forall_mem_map]
  refine forall₂_congr fun passed hpassed => ?_
  obtain ⟨hlength, hreserved⟩ := sized_passedPackets passed hpassed
  rw [hlength, SendRound.chunk]
  by_cases hmore : passed.round.maxSendSize < passed.round.left
  · have hroom := hreserved hmore
    rw [if_pos hmore]
    simp only [binaryDataPacketReservedBuffer, binaryHeaderFragLen] at hroom ⊢
    exact iff_of_true (by omega) (by omega)
  · have hlast := Nat.le_of_not_lt hmore
    rw [if_neg hmore]
    exact ⟨fun hfits _ => hfits, fun hfits => hfits hlast⟩

/-- The only packet and the last packet of a buffer, with a limit of 1000. -/
theorem not_withinLimit_lastPacket :
    ¬WithinLimit ⟨fun _ => some 1000, fun _ => true⟩ (List.replicate 952 7) 1 ∧
      ¬WithinLimit ⟨fun _ => some 1000, fun _ => true⟩
        (List.replicate 1440 7) 1 := by
  unfold WithinLimit
  decide +kernel

end DSchedSoftbusSession

end Dmsfwk
