import Dmsfwk.DataSenderReceiver

/-!
# The reassembly machine behind the bytes channel

A receiver of the bytes channel is either idle or collects the fragments of
one message.  `Assembly` is that abstract machine; it knows what has been
received and nothing about buffers or positions.  The main result is that
`ProcessRecvData` on a concrete receiver is a step of this machine, and that
every receiver reachable by whatever packets is a state of it.
-/

namespace Dmsfwk

open ByteCodec
open SessionDataHeader
open AVTransDataBuffer

/-- Idle, or waiting for the rest of a message of `total` bytes of which
`received` has arrived, the last fragment with number `lastSub`. -/
inductive Assembly where
  | idle
  | collecting (total : ℕ) (received : Bytes) (lastSub : ℕ)
  deriving DecidableEq, Repr

namespace Assembly

def lastSub : Assembly → ℕ
  | .idle => 0
  | .collecting _ _ lastSub => lastSub

def receiver : Assembly → DataSenderReceiver
  | .idle => .initial
  | .collecting total received lastSub =>
      { isWaiting := true
        nowSeqNum := 0
        nowSubSeq := lastSub
        packBuffer := some
          ⟨received ++ List.replicate (total - received.length) 0, 0, total⟩
        currentPos := received.length }

def ready (total : ℕ) (received : Bytes) (lastSub : ℕ) : DataSenderReceiver :=
  { (collecting total received lastSub).receiver with isWaiting := false }

def Fits (total : ℕ) (received payload : Bytes) : Prop :=
  received.length < total ∧ payload.length ≤ total - received.length

instance (total : ℕ) (received payload : Bytes) :
    Decidable (Fits total received payload) :=
  inferInstanceAs (Decidable (_ ∧ _))

def Opens (total : ℕ) (payload : Bytes) : Prop :=
  total < dschedMaxBufferSize ∧ Fits total [] payload

instance (total : ℕ) (payload : Bytes) : Decidable (Opens total payload) :=
  inferInstanceAs (Decidable (_ ∧ _))

def ExpectsSub (state : Assembly) (subSeq : ℕ) : Prop :=
  (state.lastSub = 0 ∧ subSeq = 0) ∨ state.lastSub + 1 = subSeq

instance (state : Assembly) (subSeq : ℕ) :
    Decidable (state.ExpectsSub subSeq) :=
  inferInstanceAs (Decidable (_ ∨ _))

def stepByFlag (state : Assembly) (header : SessionDataHeader)
    (payload : Bytes) : DataSenderReceiver.RecvResult × Assembly :=
  match FragType.ofCode? header.fragFlag, state with
  | some .fragStartEnd, .idle =>
      if Opens header.totalLen payload then ((.errOk, some payload), .idle)
      else ((.writePayloadToBufferFailed, none), .idle)
  | some .fragStart, .idle =>
      if Opens header.totalLen payload then
        ((.errOk, none), .collecting header.totalLen payload header.subSeq)
      else ((.writePayloadToBufferFailed, none), .idle)
  | some .fragMid, .collecting total received _ =>
      if total ≠ header.totalLen then
        ((.invalidSessionHeaderTotalLen, none), .idle)
      else if Fits total received payload then
        ((.errOk, none),
          .collecting total (received ++ payload) header.subSeq)
      else ((.writePayloadToBufferFailed, none), .idle)
  | some .fragEnd, .collecting total received _ =>
      if total ≠ header.totalLen then
        ((.invalidSessionHeaderTotalLen, none), .idle)
      else if Fits total received payload then
        ((.errOk, some (received ++ payload)), .idle)
      else ((.writePayloadToBufferFailed, none), .idle)
  | some .fragNull, _ => ((.invalidSessionHeaderFlagType, none), state)
  | none, _ => ((.invalidSessionHeaderFlagType, none), state)
  | _, _ => ((.flagTypeNotMatchBufferState, none), .idle)

def step (state : Assembly) (header : SessionDataHeader) (payload : Bytes) :
    DataSenderReceiver.RecvResult × Assembly :=
  if header.seqNum ≠ 0 then ((.invalidSessionHeaderSeqNum, none), state)
  else if state.ExpectsSub header.subSeq then
    state.stepByFlag header payload
  else ((.invalidSessionHeaderSubSeq, none), state)

/-- A packet whose header cannot be read changes nothing. -/
def recv (state : Assembly) (input : RecvMemory × Bytes) :
    DataSenderReceiver.RecvResult × Assembly :=
  match deserialize input.1.stack input.2 with
  | none => ((.writeSessionHeaderFailed, none), state)
  | some header =>
      state.step header
        (DataSenderReceiver.packetPayload input.1.beyond input.2 header)

/-! ## The concrete receiver is this machine -/

@[simp] theorem receiver_nowSeqNum (state : Assembly) :
    state.receiver.nowSeqNum = 0 := by
  cases state <;> rfl

@[simp] theorem receiver_nowSubSeq (state : Assembly) :
    state.receiver.nowSubSeq = state.lastSub := by
  cases state <;> rfl

theorem receiver_packBuffer_eq_none (state : Assembly) :
    state.receiver.packBuffer = none ↔ state = .idle := by
  cases state <;> simp [receiver, DataSenderReceiver.initial]

theorem checkRecvSessionHeader_receiver
    (state : Assembly) (header : SessionDataHeader) :
    state.receiver.checkRecvSessionHeader header =
      if header.seqNum ≠ 0 then .invalidSessionHeaderSeqNum
      else if state.ExpectsSub header.subSeq then .errOk
      else .invalidSessionHeaderSubSeq := by
  unfold DataSenderReceiver.checkRecvSessionHeader
  simp only [receiver_nowSeqNum, receiver_nowSubSeq]
  by_cases hseq : header.seqNum = 0
  · by_cases hzero : state.lastSub = 0 ∧ header.subSeq = 0
    · simp [ExpectsSub, hseq, hzero]
    · by_cases hnext : state.lastSub + 1 = header.subSeq
      · have hexpects : state.ExpectsSub header.subSeq := .inr hnext
        simp [hseq, hzero, hnext, hexpects]
      · have hexpects : ¬state.ExpectsSub header.subSeq := by
          rintro (h | h)
          · exact hzero h
          · exact hnext h
        simp [hseq, hzero, hnext, hexpects]
  · simp [hseq, Ne.symm hseq]

theorem appendPayload_eq
    (receiver : DataSenderReceiver) (total : ℕ) (received payload : Bytes)
    (hpos : receiver.currentPos = received.length) :
    receiver.appendPayload
        ⟨received ++ List.replicate (total - received.length) 0, 0, total⟩
        payload =
      if Fits total received payload then
        (.errOk, { receiver with
          packBuffer := some
            ⟨(received ++ payload) ++
              List.replicate (total - (received ++ payload).length) 0,
              0, total⟩
          currentPos := (received ++ payload).length })
      else (.writePayloadToBufferFailed, receiver) := by
  unfold DataSenderReceiver.appendPayload AVTransDataBuffer.size
  rw [hpos]
  by_cases hfits : Fits total received payload
  · simp only [memcpyS_append_replicate hfits.1 hfits.2, if_pos hfits,
      List.length_append]
  · have hnone : memcpyS
        (received ++ List.replicate (total - received.length) 0)
        received.length (total - received.length) payload = none := by
      rw [memcpyS_eq_none_iff]
      unfold Fits at hfits
      omega
    simp only [hnone, if_neg hfits]

theorem writeRecvBytesDataToBuffer_idle
    (beyond : ℕ → UInt8) (packet : Bytes) {header : SessionDataHeader}
    (htotal : 0 < header.totalLen) :
    let payload := DataSenderReceiver.packetPayload beyond packet header
    if Opens header.totalLen payload then
      DataSenderReceiver.writeRecvBytesDataToBuffer beyond
          Assembly.idle.receiver packet header =
        (.errOk, ready header.totalLen payload 0)
    else
      (DataSenderReceiver.writeRecvBytesDataToBuffer beyond
        Assembly.idle.receiver packet header).1 =
        .writePayloadToBufferFailed := by
  intro payload
  by_cases hsize : header.totalLen < dschedMaxBufferSize
  · have hbuffer : ofCapacity header.totalLen =
        ⟨[] ++ List.replicate (header.totalLen - ([] : Bytes).length) 0, 0,
          header.totalLen⟩ := by
      simp [ofCapacity, hsize, Nat.pos_iff_ne_zero.mp htotal]
    have hwrite := appendPayload_eq { DataSenderReceiver.initial with
      packBuffer := some (ofCapacity header.totalLen), currentPos := 0 }
      header.totalLen [] payload rfl
    have hopens : Opens header.totalLen payload ↔
        Fits header.totalLen [] payload := by
      simp [Opens, hsize]
    simp only [DataSenderReceiver.writeRecvBytesDataToBuffer, receiver,
      DataSenderReceiver.initial]
    simp only [DataSenderReceiver.initial, ← hbuffer] at hwrite
    rw [hwrite]
    split_ifs with h1 h2 h2
    · simp [ready, receiver]
    · exact absurd (hopens.mp h1) h2
    · exact absurd (hopens.mpr h2) h1
    · rfl
  · have hbuffer : ofCapacity header.totalLen = ⟨[], 0, 0⟩ := by
      simp [ofCapacity, hsize]
    have hclosed : ¬Opens header.totalLen payload := fun h => hsize h.1
    simp [DataSenderReceiver.writeRecvBytesDataToBuffer, receiver,
      DataSenderReceiver.initial, DataSenderReceiver.appendPayload, hbuffer,
      AVTransDataBuffer.size, memcpyS, hclosed]

theorem writeRecvBytesDataToBuffer_collecting
    (beyond : ℕ → UInt8) (packet : Bytes) (header : SessionDataHeader)
    (total lastSub : ℕ) (received : Bytes) :
    let payload := DataSenderReceiver.packetPayload beyond packet header
    DataSenderReceiver.writeRecvBytesDataToBuffer beyond
        (collecting total received lastSub).receiver packet header =
      if total ≠ header.totalLen then
        (.invalidSessionHeaderTotalLen,
          (collecting total received lastSub).receiver)
      else if Fits total received payload then
        (.errOk, (collecting total (received ++ payload) lastSub).receiver)
      else (.writePayloadToBufferFailed,
        (collecting total received lastSub).receiver) := by
  intro payload
  have hwrite := appendPayload_eq (collecting total received lastSub).receiver
    total received payload rfl
  simp only [DataSenderReceiver.writeRecvBytesDataToBuffer, receiver,
    AVTransDataBuffer.size] at hwrite ⊢
  by_cases htotal : total = header.totalLen
  · simp only [htotal, ne_eq, not_true_eq_false, if_false] at hwrite ⊢
    exact hwrite
  · simp only [ne_eq, htotal, not_false_eq_true, if_true]

@[simp] theorem deliver_ready (total : ℕ) (received : Bytes) (lastSub : ℕ) :
    DataSenderReceiver.deliver (.errOk, ready total received lastSub) =
      ((.errOk, some received), idle.receiver) := by
  simp [DataSenderReceiver.deliver, DataSenderReceiver.getPacketedData,
    DataSenderReceiver.isDataReady, ready, receiver,
    AVTransDataBuffer.setRange, AVTransDataBuffer.bytes,
    DataSenderReceiver.resetFlag]

theorem getPacketedData_receiver (state : Assembly) :
    state.receiver.getPacketedData = (none, state.receiver) := by
  cases state <;>
    simp [DataSenderReceiver.getPacketedData, DataSenderReceiver.isDataReady,
      receiver, DataSenderReceiver.initial]

@[simp] theorem resetFlag_eq (receiver : DataSenderReceiver) :
    receiver.resetFlag = idle.receiver := rfl

@[simp] theorem deliver_receiver (error : CollabErr) (state : Assembly) :
    DataSenderReceiver.deliver (error, state.receiver) =
      ((error, none), state.receiver) := by
  cases error <;>
    simp [DataSenderReceiver.deliver, getPacketedData_receiver]

private theorem writeRecvBytesDataToBuffer_idle_fst
    (beyond : ℕ → UInt8) (packet : Bytes) {header : SessionDataHeader}
    (htotal : 0 < header.totalLen)
    (hclosed : ¬Opens header.totalLen
      (DataSenderReceiver.packetPayload beyond packet header)) :
    ∃ written, DataSenderReceiver.writeRecvBytesDataToBuffer beyond
        idle.receiver packet header = (.writePayloadToBufferFailed, written) := by
  have hwrite := writeRecvBytesDataToBuffer_idle beyond packet htotal
  rw [if_neg hclosed] at hwrite
  exact ⟨_, Prod.ext hwrite rfl⟩

theorem deliver_processByFlag_idle
    (beyond : ℕ → UInt8) (packet : Bytes) {header : SessionDataHeader}
    (htotal : 0 < header.totalLen) (hseq : header.seqNum = 0) :
    let payload := DataSenderReceiver.packetPayload beyond packet header
    DataSenderReceiver.deliver
        (DataSenderReceiver.processByFlag beyond idle.receiver packet header) =
      ((idle.stepByFlag header payload).1,
        (idle.stepByFlag header payload).2.receiver) := by
  intro payload
  have hbuffer : idle.receiver.packBuffer = none := rfl
  have hwaiting : idle.receiver.isWaiting = false := rfl
  unfold DataSenderReceiver.processByFlag stepByFlag
  by_cases hopens : Opens header.totalLen payload
  · have hwrite := writeRecvBytesDataToBuffer_idle beyond packet htotal
    rw [if_pos hopens] at hwrite
    cases FragType.ofCode? header.fragFlag with
    | none => exact deliver_receiver _ idle
    | some flag =>
        cases flag with
        | fragStartEnd =>
            simp [DataSenderReceiver.processAllPacketRecv,
              DataSenderReceiver.processPacketRecv, hbuffer, hwaiting, hwrite,
              hopens, payload]
        | fragStart =>
            have hstarted : { ready header.totalLen payload 0 with
                isWaiting := true
                nowSeqNum := header.seqNum
                nowSubSeq := header.subSeq } =
                (collecting header.totalLen payload header.subSeq).receiver := by
              rw [hseq]
              rfl
            simp only [DataSenderReceiver.processStartPacketRecv,
              DataSenderReceiver.processPacketRecv, hbuffer, hwaiting, hwrite,
              if_pos hopens]
            exact (congrArg (fun r => DataSenderReceiver.deliver (.errOk, r))
              hstarted).trans (deliver_receiver _ _)
        | fragMid => simp [DataSenderReceiver.processMidPacketRecv,
            DataSenderReceiver.processPacketRecv, hbuffer]
        | fragEnd => simp [DataSenderReceiver.processEndPacketRecv,
            DataSenderReceiver.processPacketRecv, hbuffer]
        | fragNull => exact deliver_receiver _ idle
  · obtain ⟨written, hwrite⟩ :=
      writeRecvBytesDataToBuffer_idle_fst beyond packet htotal hopens
    cases FragType.ofCode? header.fragFlag with
    | none => exact deliver_receiver _ idle
    | some flag =>
        cases flag <;>
          simp [DataSenderReceiver.processAllPacketRecv,
            DataSenderReceiver.processStartPacketRecv,
            DataSenderReceiver.processMidPacketRecv,
            DataSenderReceiver.processEndPacketRecv,
            DataSenderReceiver.processPacketRecv, hbuffer, hwaiting, hwrite,
            hopens, payload]

private theorem processPacketRecv_collecting
    (onSuccess : DataSenderReceiver → DataSenderReceiver)
    (beyond : ℕ → UInt8) (packet : Bytes) (header : SessionDataHeader)
    (total lastSub : ℕ) (received : Bytes) :
    let payload := DataSenderReceiver.packetPayload beyond packet header
    DataSenderReceiver.processPacketRecv false id onSuccess beyond
        (collecting total received lastSub).receiver packet header =
      if total ≠ header.totalLen then
        (.invalidSessionHeaderTotalLen, idle.receiver)
      else if Fits total received payload then
        (.errOk, onSuccess
          (collecting total (received ++ payload) lastSub).receiver)
      else (.writePayloadToBufferFailed, idle.receiver) := by
  intro payload
  simp only [DataSenderReceiver.processPacketRecv,
    writeRecvBytesDataToBuffer_collecting]
  split_ifs <;> simp_all [payload]

theorem deliver_processByFlag_collecting
    (beyond : ℕ → UInt8) (packet : Bytes) {header : SessionDataHeader}
    (total lastSub : ℕ) (received : Bytes) (hseq : header.seqNum = 0) :
    let state := collecting total received lastSub
    let payload := DataSenderReceiver.packetPayload beyond packet header
    DataSenderReceiver.deliver
        (DataSenderReceiver.processByFlag beyond state.receiver packet header) =
      ((state.stepByFlag header payload).1,
        (state.stepByFlag header payload).2.receiver) := by
  intro state payload
  have hnone : (state.receiver.packBuffer.isNone ||
      !state.receiver.isWaiting) = false := rfl
  have hsome : (state.receiver.packBuffer.isSome ||
      state.receiver.isWaiting) = true := rfl
  unfold DataSenderReceiver.processByFlag stepByFlag
  cases FragType.ofCode? header.fragFlag with
  | none => exact deliver_receiver _ state
  | some flag =>
      cases flag with
      | fragStartEnd =>
          simp [DataSenderReceiver.processAllPacketRecv,
            DataSenderReceiver.processPacketRecv, hsome, state]
      | fragStart =>
          simp [DataSenderReceiver.processStartPacketRecv,
            DataSenderReceiver.processPacketRecv, hsome, state]
      | fragMid =>
          simp only [DataSenderReceiver.processMidPacketRecv, hnone, state,
            processPacketRecv_collecting]
          split_ifs
          · exact deliver_receiver _ idle
          · rw [hseq]
            exact deliver_receiver _
              (collecting total (received ++ payload) header.subSeq)
          · exact deliver_receiver _ idle
      | fragEnd =>
          simp only [DataSenderReceiver.processEndPacketRecv, hnone, state,
            processPacketRecv_collecting]
          split_ifs
          · exact deliver_receiver _ idle
          · exact deliver_ready total (received ++ payload) lastSub
          · exact deliver_receiver _ idle
      | fragNull => exact deliver_receiver _ state

theorem processRecvData_receiver
    (state : Assembly) (input : RecvMemory × Bytes) :
    DataSenderReceiver.processRecvData input.1 state.receiver input.2 =
      ((state.recv input).1, (state.recv input).2.receiver) := by
  unfold DataSenderReceiver.processRecvData
    DataSenderReceiver.packRecvPacketData recv
  cases hheader : deserialize input.1.stack input.2 with
  | none => exact deliver_receiver _ state
  | some header =>
      have htotal : 0 < header.totalLen := by
        obtain ⟨-, -, htotal, hpacket⟩ := (checkLengths_iff header).mp
          (deserialize_checkLengths hheader)
        rw [headerLen_eq] at hpacket
        omega
      simp only [checkRecvSessionHeader_receiver, step]
      by_cases hseq : header.seqNum = 0
      · by_cases hsub : state.ExpectsSub header.subSeq
        · simp only [hseq, hsub, ne_eq, not_true_eq_false, if_false, if_true]
          cases state with
          | idle => exact deliver_processByFlag_idle _ input.2 htotal hseq
          | collecting total received lastSub =>
              exact deliver_processByFlag_collecting _ input.2 total lastSub
                received hseq
        · simp [hseq, hsub]
      · simp [hseq]

/-! ## Runs -/

def recvAll (state : Assembly) (inputs : List (RecvMemory × Bytes)) :
    List DataSenderReceiver.RecvResult × Assembly :=
  EventRun.run recv state inputs

theorem processAll_receiver
    (state : Assembly) (inputs : List (RecvMemory × Bytes)) :
    DataSenderReceiver.processAll state.receiver inputs =
      ((state.recvAll inputs).1, (state.recvAll inputs).2.receiver) :=
  EventRun.run_map receiver processRecvData_receiver state inputs

theorem processAll_initial (inputs : List (RecvMemory × Bytes)) :
    DataSenderReceiver.processAll .initial inputs =
      ((idle.recvAll inputs).1, (idle.recvAll inputs).2.receiver) :=
  processAll_receiver idle inputs

end Assembly

end Dmsfwk
