import Dmsfwk.PacketLimit

/-!
# What a successful `SendData` says

`UnPackSendData` stops with the code of the first call that fails, but
`DSchedSoftbusSession::SendData` drops its result.  The functions are followed
here with the codes of `GetSessionOption`, `memcpy_s` and `SendBytes`, up to the
code which `DSchedTransportSoftbusAdapter::SendData` returns.
-/

namespace Dmsfwk

open ByteCodec
open AVTransDataBuffer

namespace DSchedSoftbusSession

/-! ## The calls and their results -/

def errOk : Int32 := 0
def invalidSessionId : Int32 := -1
def invalidParametersErr : Int32 := 29360128
def softbusServiceErr : Int32 := 29360170

/-- The code of `memcpy_s` for a destination without room. -/
def erange : Int32 := 34

structure SoftbusResults where
  sessionOption : ℕ → Int32 × ℕ
  memcpy : ℕ → Int32
  sendBytes : ℕ → Int32

/-- A packet which was handed to softbus, with what `SendBytes` returned. -/
structure HandedPacket where
  packet : Bytes
  result : Int32
  deriving DecidableEq, Repr

/-- `memcpy_s` of the body behind the header, which fails in any case when the
packet has no room for a body. -/
def SoftbusResults.copied (results : SoftbusResults) (index : ℕ) :
    Option Bytes → Except Int32 Bytes
  | none => .error erange
  | some packet =>
      if results.memcpy index = errOk then .ok packet
      else .error (results.memcpy index)

def handFragments (results : SoftbusResults) (data : Bytes) :
    ℕ → ℕ → SessionDataHeader → ℕ → ℕ → Int32 × List HandedPacket
  | 0, _, _, _, _ => (errOk, [])
  | fuel + 1, index, header, offset, maxSendSize =>
      if offset < data.length then
        if maxSendSize ≤ binaryDataPacketReservedBuffer then
          (softbusServiceErr, [])
        else
          let header := setHeadParaDataLen header data.length offset maxSendSize
          match results.copied index (roundPacket data header offset) with
          | .error code => (code, [])
          | .ok packet =>
              let handed : HandedPacket := ⟨packet, results.sendBytes index⟩
              if results.sendBytes index ≠ errOk then
                (results.sendBytes index, [handed])
              else if (results.sessionOption (index + 1)).1 ≠ errOk then
                ((results.sessionOption (index + 1)).1, [handed])
              else
                let rest := handFragments results data fuel (index + 1)
                  { header with
                    subSeq := (header.subSeq + 1) % 2 ^ 16
                    fragFlag := FragType.fragMid.code }
                  (offset + header.dataLen)
                  (results.sessionOption (index + 1)).2
                (rest.1, handed :: rest.2)
      else (errOk, [])

def handStartEndData (results : SoftbusResults) (data : Bytes)
    (dataType : Int32) : Int32 × List HandedPacket :=
  if (ofCapacity (data.length + binaryHeaderFragLen)).size <
      binaryHeaderFragLen then (invalidSessionId, [])
  else
    match results.copied 0 (makePacket (startEndHeader data dataType)
        (data.length + binaryHeaderFragLen) data) with
    | .error code => (code, [])
    | .ok packet =>
        (results.sendBytes 0, [⟨packet, results.sendBytes 0⟩])

def handSendData (results : SoftbusResults) (data : Bytes)
    (dataType : Int32) : Int32 × List HandedPacket :=
  if (results.sessionOption 0).1 ≠ errOk then ((results.sessionOption 0).1, [])
  else if data.length ≤ (results.sessionOption 0).2 then
    handStartEndData results data dataType
  else
    handFragments results data data.length 0 (startHeader data dataType) 0
      (results.sessionOption 0).2

def sessionSendData (results : SoftbusResults) (dataType : Int32) :
    Option Bytes → Int32 × List HandedPacket
  | none => (invalidParametersErr, [])
  | some data => (errOk, (handSendData results data dataType).2)

/-- `DSchedTransportSoftbusAdapter::SendData`; a registered session may be a
null pointer. -/
def adapterSendData (sessions : Std.TreeMap ℤ (Option DSchedSoftbusSession))
    (results : SoftbusResults) (sessionId : ℤ) (dataType : Int32)
    (dataBuffer : Option Bytes) : Int32 × List HandedPacket :=
  match sessions[sessionId]? with
  | none | some none => (invalidSessionId, [])
  | some (some _) => sessionSendData results dataType dataBuffer

/-! ## The packets are those of the delivery -/

def SoftbusResults.answers (results : SoftbusResults) : SoftbusAnswers where
  sessionOption index :=
    if (results.sessionOption index).1 = errOk then
      some (results.sessionOption index).2
    else none
  sendBytes index := decide (results.sendBytes index = errOk)

def sentPackets (handed : List HandedPacket) : List Bytes :=
  (handed.filter fun packet => packet.result = errOk).map HandedPacket.packet

variable {results : SoftbusResults} {data : Bytes} {dataType : Int32}
  {fuel index offset maxSendSize : ℕ} {header : SessionDataHeader}

theorem sentPackets_cons {handed : HandedPacket} {rest : List HandedPacket} :
    sentPackets (handed :: rest) =
      if handed.result = errOk then handed.packet :: sentPackets rest
      else sentPackets rest := by
  unfold sentPackets
  by_cases hresult : handed.result = errOk
  · simp [hresult]
  · simp [hresult]

theorem answers_sendBytes (hsend : results.sendBytes index = errOk) :
    results.answers.sendBytes index = true :=
  decide_eq_true hsend

theorem answers_sessionOption
    (hoption : (results.sessionOption index).1 = errOk) :
    results.answers.sessionOption index =
      some (results.sessionOption index).2 :=
  if_pos hoption

theorem sentPackets_handFragments
    (hmemcpy : ∀ index, results.memcpy index = errOk) :
    sentPackets
        (handFragments results data fuel index header offset maxSendSize).2 =
      (sendFragments results.answers data fuel index header offset
        maxSendSize).2 := by
  induction fuel generalizing index header offset maxSendSize with
  | zero => rfl
  | succ fuel ih =>
      rw [handFragments, sendFragments]
      by_cases hoffset : offset < data.length
      · rw [if_pos hoffset, if_pos hoffset]
        by_cases hreserved : maxSendSize ≤ binaryDataPacketReservedBuffer
        · rw [if_pos hreserved, if_pos hreserved]
          rfl
        · rw [if_neg hreserved, if_neg hreserved]
          dsimp only [roundPacket]
          cases makePacket
              (setHeadParaDataLen header data.length offset maxSendSize)
              (((setHeadParaDataLen header data.length offset
                maxSendSize).dataLen + binaryHeaderFragLen) % 2 ^ 32)
              ((data.drop offset).take (setHeadParaDataLen header data.length
                offset maxSendSize).dataLen) with
          | none => rfl
          | some packet =>
              simp only [SoftbusResults.copied, hmemcpy, if_true]
              by_cases hsend : results.sendBytes index = errOk
              · by_cases hoption :
                  (results.sessionOption (index + 1)).1 = errOk
                · simp only [hsend, hoption, ne_eq, not_true_eq_false, if_false,
                    answers_sendBytes hsend, answers_sessionOption hoption,
                    sentPackets_cons, if_true, ih]
                · simp [SoftbusResults.answers, sentPackets, hsend, hoption]
              · simp [SoftbusResults.answers, sentPackets, hsend]
      · rw [if_neg hoffset, if_neg hoffset]
        rfl

theorem sentPackets_handSendData
    (hmemcpy : ∀ index, results.memcpy index = errOk) :
    sentPackets (handSendData results data dataType).2 =
      (unPackSendData results.answers data dataType).2 := by
  unfold handSendData unPackSendData
  by_cases hoption : (results.sessionOption 0).1 = errOk
  · rw [answers_sessionOption hoption, if_neg (not_not_intro hoption)]
    dsimp only
    by_cases hfits : data.length ≤ (results.sessionOption 0).2
    · rw [if_pos hfits, if_pos hfits]
      unfold handStartEndData unPackStartEndData startEndHeader
      by_cases hnull : (ofCapacity (data.length + binaryHeaderFragLen)).size <
          binaryHeaderFragLen
      · rw [if_pos hnull, if_pos hnull]
        rfl
      · rw [if_neg hnull, if_neg hnull]
        cases makePacket ⟨protocolVersion, FragType.fragStartEnd.code,
            dataType.toUInt32.toNat, 0, data.length, 0, data.length⟩
            (data.length + binaryHeaderFragLen) data with
        | none => rfl
        | some packet =>
            simp only [SoftbusResults.copied, hmemcpy, if_true]
            by_cases hsend : results.sendBytes 0 = errOk
            · simp [SoftbusResults.answers, sentPackets, hsend]
            · simp [SoftbusResults.answers, sentPackets, hsend]
    · rw [if_neg hfits, if_neg hfits]
      exact sentPackets_handFragments hmemcpy
  · have hanswer : results.answers.sessionOption 0 = none := if_neg hoption
    rw [hanswer, if_pos hoption]
    rfl

/-! ## The rounds of a buffer -/

def SoftbusResults.sendSize (results : SoftbusResults) (index : ℕ) : ℕ :=
  (results.sessionOption index).2

def leftAfter (maxSendSize : ℕ → ℕ) (total : ℕ) : ℕ → ℕ
  | 0 => total
  | index + 1 =>
      leftAfter maxSendSize total index -
        (SendRound.mk (maxSendSize index)
          (leftAfter maxSendSize total index)).chunk

theorem leftAfter_eq_zero_of_le {maxSendSize : ℕ → ℕ} {total i j : ℕ}
    (hle : i ≤ j) (hdone : leftAfter maxSendSize total i = 0) :
    leftAfter maxSendSize total j = 0 := by
  induction j, hle using Nat.le_induction with
  | base => exact hdone
  | succ j _ ih => rw [leftAfter, ih, Nat.zero_sub]

theorem lt_of_leftAfter_pos {maxSendSize : ℕ → ℕ} {total i j : ℕ}
    (hdone : leftAfter maxSendSize total i = 0)
    (hmore : 0 < leftAfter maxSendSize total j) : j < i := by
  by_contra hle
  rw [leftAfter_eq_zero_of_le (Nat.le_of_not_lt hle) hdone] at hmore
  exact Nat.lt_irrefl 0 hmore

structure RoundSucceeds (results : SoftbusResults) (total index : ℕ) : Prop where
  option : (results.sessionOption index).1 = errOk
  reserved : total ≤ results.sendSize 0 ∨
    binaryDataPacketReservedBuffer < results.sendSize index
  capacity : (SendRound.mk (results.sendSize index)
      (leftAfter results.sendSize total index)).chunk +
    binaryHeaderFragLen < dschedMaxBufferSize
  copied : results.memcpy index = errOk
  sent : results.sendBytes index = errOk

def RoundsSucceedFrom (results : SoftbusResults) (total start : ℕ) : Prop :=
  ∀ index, start ≤ index → 0 < leftAfter results.sendSize total index →
    RoundSucceeds results total index

def RoundsSucceed (results : SoftbusResults) (total : ℕ) : Prop :=
  0 < total ∧ RoundsSucceedFrom results total 0

def AllSent (data : Bytes) (handed : List HandedPacket) : Prop :=
  handed ≠ [] ∧
    transmitted (handed.map HandedPacket.packet) = data ∧
    ∀ packet ∈ handed, packet.result = errOk

theorem copied_eq_ok_iff {packet : Option Bytes} {made : Bytes} :
    results.copied index packet = .ok made ↔
      packet = some made ∧ results.memcpy index = errOk := by
  cases packet with
  | none => simp [SoftbusResults.copied]
  | some packet =>
      unfold SoftbusResults.copied
      by_cases hcopy : results.memcpy index = errOk
      · simp [hcopy]
      · simp [hcopy]

theorem drop_roundPacket {packet : Bytes}
    (hround : roundPacket data
      (setHeadParaDataLen header data.length offset maxSendSize) offset =
        some packet) :
    packet.drop binaryHeaderFragLen = fragmentBody data
      (setHeadParaDataLen header data.length offset maxSendSize) offset :=
  drop_makePacket roundCapacity_le roundCapacity_eq hround

theorem roundsSucceedFrom_iff {total : ℕ}
    (hleft : 0 < leftAfter results.sendSize total index) :
    RoundsSucceedFrom results total index ↔
      RoundSucceeds results total index ∧
        RoundsSucceedFrom results total (index + 1) := by
  constructor
  · intro hrounds
    exact ⟨hrounds index le_rfl hleft,
      fun later hlater => hrounds later (Nat.le_of_succ_le hlater)⟩
  · rintro ⟨hround, hrounds⟩ later hlater hmore
    rcases Nat.eq_or_lt_of_le hlater with rfl | hlt
    · exact hround
    · exact hrounds later hlt hmore

theorem roundsSucceedFrom_of_done {total : ℕ}
    (hdone : leftAfter results.sendSize total index = 0) :
    RoundsSucceedFrom results total index := by
  intro later hlater hmore
  have hnone := leftAfter_eq_zero_of_le hlater hdone
  omega

theorem allSent_nil_of_done
    (hleft : leftAfter results.sendSize data.length index =
      data.length - offset) (hdone : data.length ≤ offset) :
    (transmitted (([] : List HandedPacket).map HandedPacket.packet) =
        data.drop offset ∧
      ∀ packet ∈ ([] : List HandedPacket), packet.result = errOk) ↔
      RoundsSucceedFrom results data.length index :=
  iff_of_true
    ⟨(List.drop_eq_nil_of_le hdone).symm, List.forall_mem_nil _⟩
    (roundsSucceedFrom_of_done (by omega))

theorem transmitted_nil_iff
    (hleft : leftAfter results.sendSize data.length index =
      data.length - offset)
    (hoption : (results.sessionOption index).1 ≠ errOk) :
    transmitted [] = data.drop offset ↔
      RoundsSucceedFrom results data.length index := by
  by_cases hoffset : offset < data.length
  · refine iff_of_false (transmitted_nil_ne hoffset) fun h => hoption ?_
    exact (h index le_rfl (by omega)).option
  · rw [← allSent_nil_of_done hleft (Nat.le_of_not_lt hoffset)]
    exact (and_iff_left (List.forall_mem_nil _)).symm

theorem leftAfter_round
    (hleft : leftAfter results.sendSize data.length index =
      data.length - offset) :
    leftAfter results.sendSize data.length (index + 1) =
      data.length - (offset + (setHeadParaDataLen header data.length offset
        (results.sendSize index)).dataLen) := by
  rw [leftAfter, hleft, ← dataLen_setHeadParaDataLen, Nat.sub_sub]

theorem left_lt_of_round (hoffset : offset < data.length)
    (hmore : binaryDataPacketReservedBuffer < results.sendSize index) :
    data.length - (offset + (setHeadParaDataLen header data.length offset
        (results.sendSize index)).dataLen) < data.length - offset := by
  have hpos := @SendRound.chunk_pos
    ⟨results.sendSize index, data.length - offset⟩ (Nat.sub_pos_of_lt hoffset)
    hmore
  rw [dataLen_setHeadParaDataLen]
  omega

theorem not_roundSucceeds_of_error {code : Int32}
    (hleft : leftAfter results.sendSize data.length index =
      data.length - offset) (hoffset : offset < data.length)
    (hmore : binaryDataPacketReservedBuffer < results.sendSize index)
    (hcopied : results.copied index (roundPacket data (setHeadParaDataLen header
      data.length offset (results.sendSize index)) offset) = .error code) :
    ¬RoundSucceeds results data.length index := by
  intro hround
  have hsome := @roundPacket_isSome_iff data offset (results.sendSize index)
    header hoffset hmore
  rw [← hleft] at hsome
  obtain ⟨packet, hpacket⟩ :=
    Option.isSome_iff_exists.mp (hsome.mpr hround.capacity)
  rw [copied_eq_ok_iff.mpr ⟨hpacket, hround.copied⟩] at hcopied
  cases hcopied

theorem roundSucceeds_of_sent {packet : Bytes}
    (hoption : (results.sessionOption index).1 = errOk)
    (hleft : leftAfter results.sendSize data.length index =
      data.length - offset) (hoffset : offset < data.length)
    (hmore : binaryDataPacketReservedBuffer < results.sendSize index)
    (hcopied : results.copied index (roundPacket data (setHeadParaDataLen header
      data.length offset (results.sendSize index)) offset) = .ok packet)
    (hsend : results.sendBytes index = errOk) :
    RoundSucceeds results data.length index := by
  obtain ⟨hround, hmemcpy⟩ := copied_eq_ok_iff.mp hcopied
  have hsome := @roundPacket_isSome_iff data offset (results.sendSize index)
    header hoffset hmore
  rw [← hleft, hround] at hsome
  exact ⟨hoption, .inr hmore, hsome.mp rfl, hmemcpy, hsend⟩

/-- The packets of the loop are all that is left of the buffer, and all sent,
exactly when the rounds succeed from here on. -/
theorem allSent_handFragments
    (hoption : (results.sessionOption index).1 = errOk)
    (hlarge : ¬data.length ≤ results.sendSize 0)
    (hleft : leftAfter results.sendSize data.length index =
      data.length - offset)
    (hfuel : data.length - offset ≤ fuel) :
    (transmitted ((handFragments results data fuel index header offset
          (results.sendSize index)).2.map HandedPacket.packet) =
        data.drop offset ∧
      ∀ packet ∈ (handFragments results data fuel index header offset
          (results.sendSize index)).2, packet.result = errOk) ↔
      RoundsSucceedFrom results data.length index := by
  induction fuel generalizing index header offset with
  | zero => exact allSent_nil_of_done hleft (by omega)
  | succ fuel ih =>
      rw [handFragments]
      by_cases hoffset : offset < data.length
      · rw [if_pos hoffset, roundsSucceedFrom_iff (by omega)]
        have hnone := transmitted_nil_ne hoffset
        by_cases hreserved :
            results.sendSize index ≤ binaryDataPacketReservedBuffer
        · rw [if_pos hreserved]
          refine iff_of_false (fun h => hnone h.1) fun h => ?_
          exact h.1.reserved.elim hlarge (Nat.not_lt_of_le hreserved)
        · have hmore := Nat.lt_of_not_le hreserved
          rw [if_neg hreserved]
          dsimp only
          cases hcopied : results.copied index (roundPacket data
              (setHeadParaDataLen header data.length offset
                (results.sendSize index)) offset) with
          | error code =>
              have hfails :=
                not_roundSucceeds_of_error hleft hoffset hmore hcopied
              exact iff_of_false (fun h => hnone h.1) fun h => hfails h.1
          | ok packet =>
              dsimp only
              by_cases hsend : results.sendBytes index = errOk
              · have hsucceeds := roundSucceeds_of_sent hoption hleft hoffset
                  hmore hcopied hsend
                have hbody := drop_roundPacket (copied_eq_ok_iff.mp hcopied).1
                have hnext := @leftAfter_round results data index offset
                  header hleft
                have hless := @left_lt_of_round results data index offset
                  header hoffset hmore
                rw [and_iff_right hsucceeds, if_neg (not_not_intro hsend)]
                by_cases hoption' : (results.sessionOption (index + 1)).1 = errOk
                · rw [if_neg (not_not_intro hoption')]
                  dsimp only
                  rw [List.map_cons, transmitted_cons_eq_iff hbody,
                    List.forall_mem_cons, and_iff_right hsend]
                  exact ih hoption' hnext (by omega)
                · rw [if_pos hoption', List.map_singleton,
                    transmitted_cons_eq_iff hbody, List.forall_mem_singleton,
                    and_iff_left hsend]
                  exact transmitted_nil_iff hnext hoption'
              · rw [if_pos hsend]
                dsimp only
                rw [List.forall_mem_singleton]
                exact iff_of_false (fun h => hsend h.2) fun h => hsend h.1.sent
      · rw [if_neg hoffset]
        exact allSent_nil_of_done hleft (Nat.le_of_not_lt hoffset)

theorem roundsSucceed_iff_of_fits {total : ℕ}
    (hfits : total ≤ results.sendSize 0) :
    RoundsSucceed results total ↔
      (0 < total ∧ total + binaryHeaderFragLen < dschedMaxBufferSize) ∧
        (results.sessionOption 0).1 = errOk ∧ results.memcpy 0 = errOk ∧
        results.sendBytes 0 = errOk := by
  have hchunk : (SendRound.mk (results.sendSize 0) total).chunk = total :=
    if_neg (Nat.not_lt_of_le hfits)
  have hdone : leftAfter results.sendSize total 1 = 0 := by
    rw [leftAfter, leftAfter, hchunk, Nat.sub_self]
  constructor
  · rintro ⟨hpos, hrounds⟩
    have hround := hrounds 0 le_rfl hpos
    have hcapacity := hround.capacity
    rw [leftAfter, hchunk] at hcapacity
    exact ⟨⟨hpos, hcapacity⟩, hround.option, hround.copied, hround.sent⟩
  · rintro ⟨⟨hpos, hcapacity⟩, hoption, hmemcpy, hsend⟩
    have hleft : 0 < leftAfter results.sendSize total 0 := hpos
    rw [← hchunk] at hcapacity
    exact ⟨hpos, (roundsSucceedFrom_iff hleft).mpr
      ⟨⟨hoption, .inl hfits, hcapacity, hmemcpy, hsend⟩,
        roundsSucceedFrom_of_done hdone⟩⟩

theorem allSent_handStartEndData
    (hoption : (results.sessionOption 0).1 = errOk)
    (hfits : data.length ≤ results.sendSize 0) :
    AllSent data (handStartEndData results data dataType).2 ↔
      RoundsSucceed results data.length := by
  have hsome := @makePacket_isSome_iff (startEndHeader data dataType)
    (data.length + binaryHeaderFragLen) data le_rfl fun _ => rfl
  rw [roundsSucceed_iff_of_fits hfits, handStartEndData, ← hsome]
  by_cases hnull : (ofCapacity (data.length + binaryHeaderFragLen)).size <
      binaryHeaderFragLen
  · rw [if_pos hnull]
    refine iff_of_false (fun h => h.1 rfl) fun h => ?_
    rw [ofCapacity, if_pos ⟨by omega, (hsome.mp h.1).2⟩] at hnull
    exact Nat.not_lt_of_le (Nat.le_add_left _ _) hnull
  · rw [if_neg hnull]
    cases hcopied : results.copied 0 (makePacket (startEndHeader data dataType)
        (data.length + binaryHeaderFragLen) data) with
    | error code =>
        refine iff_of_false (fun h => h.1 rfl) fun h => ?_
        obtain ⟨packet, hpacket⟩ := Option.isSome_iff_exists.mp h.1
        rw [copied_eq_ok_iff.mpr ⟨hpacket, h.2.2.1⟩] at hcopied
        cases hcopied
    | ok packet =>
        obtain ⟨hpacket, hmemcpy⟩ := copied_eq_ok_iff.mp hcopied
        have hbody := drop_makePacket le_rfl (fun _ => rfl) hpacket
        have htransmitted : transmitted [packet] = data := by
          simp [transmitted, hbody]
        simp [AllSent, htransmitted, hpacket, hoption, hmemcpy]

theorem allSent_handSendData :
    AllSent data (handSendData results data dataType).2 ↔
      RoundsSucceed results data.length := by
  rw [handSendData]
  by_cases hoption : (results.sessionOption 0).1 = errOk
  · rw [if_neg (not_not_intro hoption)]
    by_cases hfits : data.length ≤ (results.sessionOption 0).2
    · rw [if_pos hfits]
      exact allSent_handStartEndData hoption hfits
    · have hpos : 0 < data.length := Nat.zero_lt_of_lt (Nat.lt_of_not_le hfits)
      have hloop := @allSent_handFragments results data data.length 0 0
        (startHeader data dataType) hoption hfits rfl le_rfl
      rw [if_neg hfits, RoundsSucceed, and_iff_right hpos, ← hloop]
      refine and_iff_right_of_imp fun hsent hnone => ?_
      rw [hnone] at hsent
      exact transmitted_nil_ne hpos hsent.1
  · rw [if_pos hoption]
    refine iff_of_false (fun h => h.1 rfl) fun h => hoption ?_
    exact (h.2 0 le_rfl h.1).option

/-! ## The code of `SendData` -/

section Adapter

variable (sessions : Std.TreeMap ℤ (Option DSchedSoftbusSession))
  (results : SoftbusResults) (sessionId : ℤ) (dataType : Int32)
  (dataBuffer : Option Bytes)

/-- `SendData` succeeds if and only if all fragments of its buffer were sent. -/
def SuccessMeansSent : Prop :=
  (adapterSendData sessions results sessionId dataType dataBuffer).1 = errOk ↔
    ∃ data, dataBuffer = some data ∧ AllSent data
      (adapterSendData sessions results sessionId dataType dataBuffer).2

theorem successMeansSent_iff :
    SuccessMeansSent sessions results sessionId dataType dataBuffer ↔
      ∀ session, sessions[sessionId]? = some (some session) →
        ∀ data, dataBuffer = some data → RoundsSucceed results data.length := by
  have hinvalid : ¬invalidSessionId = errOk := by decide
  unfold SuccessMeansSent adapterSendData
  cases sessions[sessionId]? with
  | none => simp [AllSent, hinvalid]
  | some registered =>
      cases registered with
      | none => simp [AllSent, hinvalid]
      | some session =>
          cases dataBuffer with
          | none =>
              have hnull : ¬invalidParametersErr = errOk := by decide
              simp [sessionSendData, hnull]
          | some data => simp [sessionSendData, allSent_handSendData]

end Adapter

def oneSession : Std.TreeMap ℤ (Option DSchedSoftbusSession) :=
  (∅ : Std.TreeMap ℤ (Option DSchedSoftbusSession)).insert 0 (some initial)

def noSendSize : SoftbusResults := ⟨fun _ => (-1, 0), fun _ => 0, fun _ => 0⟩

/-- Softbus does not tell its limit: nothing is sent, and the call succeeds. -/
theorem not_successMeansSent_noSendSize :
    adapterSendData oneSession noSendSize 0 2 (some [0, 0]) = (errOk, []) ∧
      ¬SuccessMeansSent oneSession noSendSize 0 2 (some [0, 0]) := by
  have hcall : adapterSendData oneSession noSendSize 0 2 (some [0, 0]) =
      (errOk, []) := by
    simp [adapterSendData, oneSession, sessionSendData, handSendData,
      noSendSize, errOk]
  refine ⟨hcall, fun hsent => ?_⟩
  rw [SuccessMeansSent, hcall] at hsent
  obtain ⟨data, -, hnone, -⟩ := hsent.mp rfl
  exact hnone rfl

end DSchedSoftbusSession

end Dmsfwk
