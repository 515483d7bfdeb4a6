import Dmsfwk.DataSenderReceiver

/-!
# What the bytes receiver copies

The copy of a payload which `PackRecvPacketData` makes for a packet, with the
range of the packet which it reads and the range of the pack buffer which it
writes.  `memcpy_s` guards the pack buffer; the packet is not guarded, for the
length in the header is not compared with what was received.
-/

namespace Dmsfwk

open ByteCodec
open SessionDataHeader
open AVTransDataBuffer

namespace DataSenderReceiver

/-! ## The copy -/

/-- The arguments of the `memcpy_s` in `WriteRecvBytesDataToBuffer`. -/
structure PayloadCopy where
  header : SessionDataHeader
  source : ℕ
  length : ℕ
  destination : ℕ
  buffer : AVTransDataBuffer

def copyFor (receiver : DataSenderReceiver) (header : SessionDataHeader) :
    PayloadCopy where
  header := header
  source := header.packetLen - header.payloadLen
  length := header.payloadLen
  destination := if receiver.packBuffer.isSome then receiver.currentPos else 0
  buffer := receiver.packBuffer.getD (ofCapacity header.totalLen)

def payloadCopy (memory : RecvMemory) (receiver : DataSenderReceiver)
    (packet : Bytes) : Option PayloadCopy :=
  if (packRecvPacketData memory receiver packet).1 = .errOk then
    (deserialize memory.stack packet).map receiver.copyFor
  else none

def PayloadCopy.written (copy : PayloadCopy) (memory : RecvMemory)
    (packet : Bytes) : AVTransDataBuffer :=
  { copy.buffer with
      data := copy.buffer.data.take copy.destination ++
        readBytes packet memory.beyond copy.source copy.length ++
        copy.buffer.data.drop (copy.destination + copy.length) }

structure PayloadCopy.Inside (copy : PayloadCopy) (packet : Bytes) : Prop where
  source : copy.source + copy.length ≤ packet.length
  destination : copy.destination + copy.length ≤ copy.buffer.data.length

inductive RecvCall where
  | packRecvPacketData (memory : RecvMemory) (packet : Bytes)
  | getPacketedData

def callStep (receiver : DataSenderReceiver) :
    RecvCall → RecvResult × DataSenderReceiver
  | .packRecvPacketData memory packet =>
      (((packRecvPacketData memory receiver packet).1, none),
        (packRecvPacketData memory receiver packet).2)
  | .getPacketedData =>
      ((.errOk, receiver.getPacketedData.1), receiver.getPacketedData.2)

def afterCalls (calls : List RecvCall) : DataSenderReceiver :=
  (EventRun.run callStep .initial calls).2

/-! ## The pack buffer -/

def Bounded (receiver : DataSenderReceiver) : Prop :=
  ∀ buffer, receiver.packBuffer = some buffer →
    buffer.size = buffer.data.length ∧
      receiver.currentPos ≤ buffer.data.length

theorem bounded_initial : initial.Bounded := by
  intro buffer hbuffer
  cases hbuffer

theorem size_ofCapacity (capacity : ℕ) :
    (ofCapacity capacity).size = (ofCapacity capacity).data.length := by
  unfold ofCapacity AVTransDataBuffer.size
  split_ifs <;> simp

variable {memory : RecvMemory} {receiver : DataSenderReceiver} {packet : Bytes}
  {header : SessionDataHeader}

theorem size_copyFor (hbounded : receiver.Bounded)
    (header : SessionDataHeader) :
    (receiver.copyFor header).buffer.size =
        (receiver.copyFor header).buffer.data.length ∧
      (receiver.copyFor header).destination ≤
        (receiver.copyFor header).buffer.data.length := by
  unfold copyFor
  cases hbuffer : receiver.packBuffer with
  | none => exact ⟨size_ofCapacity _, Nat.zero_le _⟩
  | some buffer => exact hbounded buffer hbuffer

theorem writeRecvBytesDataToBuffer_errOk {written : DataSenderReceiver}
    (hwrite : writeRecvBytesDataToBuffer memory.beyond receiver packet header =
      (.errOk, written)) :
    header.payloadLen ≤ (receiver.copyFor header).buffer.size -
        (receiver.copyFor header).destination ∧
      written.packBuffer =
        some ((receiver.copyFor header).written memory packet) ∧
      written.currentPos =
        (receiver.copyFor header).destination + header.payloadLen := by
  unfold writeRecvBytesDataToBuffer appendPayload memcpyS at hwrite
  unfold PayloadCopy.written copyFor
  cases hbuffer : receiver.packBuffer with
  | none =>
      rw [hbuffer] at hwrite
      dsimp only at hwrite
      split_ifs at hwrite with hroom
      · cases hwrite
      · obtain ⟨-, rfl⟩ := Prod.mk.inj hwrite
        simp only [packetPayload, length_readBytes, not_or] at hroom ⊢
        exact ⟨by simpa using hroom.2, rfl, by simp⟩
  | some buffer =>
      rw [hbuffer] at hwrite
      dsimp only at hwrite
      split_ifs at hwrite with htotal hroom
      · cases hwrite
      · cases hwrite
      · obtain ⟨-, rfl⟩ := Prod.mk.inj hwrite
        simp only [packetPayload, length_readBytes, not_or] at hroom ⊢
        exact ⟨by simpa using hroom.2, rfl, by simp⟩

/-! ## One packet -/

structure Copied (memory : RecvMemory) (receiver : DataSenderReceiver)
    (packet : Bytes) (header : SessionDataHeader)
    (after : DataSenderReceiver) : Prop where
  room : header.payloadLen ≤ (receiver.copyFor header).buffer.size -
    (receiver.copyFor header).destination
  packBuffer : after.packBuffer =
    some ((receiver.copyFor header).written memory packet)
  currentPos : after.currentPos =
    (receiver.copyFor header).destination + header.payloadLen

theorem processPacketRecv_cases {mismatch : Bool}
    {onError : CollabErr → CollabErr}
    {onSuccess : DataSenderReceiver → DataSenderReceiver}
    (hsuccess : ∀ written, (onSuccess written).packBuffer = written.packBuffer ∧
      (onSuccess written).currentPos = written.currentPos)
    (herror : ∀ error, error ≠ .errOk → onError error ≠ .errOk) :
    let result := processPacketRecv mismatch onError onSuccess memory.beyond
      receiver packet header
    result.1 = .errOk ∧ Copied memory receiver packet header result.2 ∨
      result.1 ≠ .errOk ∧ result.2 = initial := by
  intro result
  unfold result processPacketRecv
  split_ifs
  · exact .inr ⟨by simp, rfl⟩
  · split
    · next written hwrite =>
        obtain ⟨hroom, hbuffer, hpos⟩ := writeRecvBytesDataToBuffer_errOk hwrite
        obtain ⟨hkeeps, hstays⟩ := hsuccess written
        exact .inl ⟨rfl, hroom, hkeeps.trans hbuffer, hstays.trans hpos⟩
    · next error written hfailed hwrite =>
        refine .inr ⟨herror error fun hok => ?_, rfl⟩
        exact hfailed hok

theorem packRecvPacketData_cases (memory : RecvMemory)
    (receiver : DataSenderReceiver) (packet : Bytes) :
    ((packRecvPacketData memory receiver packet).1 = .errOk ∧
      ∃ header, deserialize memory.stack packet = some header ∧
        Copied memory receiver packet header
          (packRecvPacketData memory receiver packet).2) ∨
    (packRecvPacketData memory receiver packet).1 ≠ .errOk ∧
      ((packRecvPacketData memory receiver packet).2 = receiver ∨
        (packRecvPacketData memory receiver packet).2 = initial) := by
  unfold packRecvPacketData
  cases hheader : deserialize memory.stack packet with
  | none => exact .inr ⟨by simp, .inl rfl⟩
  | some header =>
      dsimp only
      split
      · unfold processByFlag
        have hflag (mismatch : Bool) (onError : CollabErr → CollabErr)
            (onSuccess : DataSenderReceiver → DataSenderReceiver)
            (hsuccess : ∀ written,
              (onSuccess written).packBuffer = written.packBuffer ∧
                (onSuccess written).currentPos = written.currentPos)
            (herror : ∀ error, error ≠ .errOk → onError error ≠ .errOk) :
            ((processPacketRecv mismatch onError onSuccess memory.beyond
                receiver packet header).1 = .errOk ∧
              ∃ found, some header = some found ∧
                Copied memory receiver packet found
                  (processPacketRecv mismatch onError onSuccess memory.beyond
                    receiver packet header).2) ∨
            (processPacketRecv mismatch onError onSuccess memory.beyond
                receiver packet header).1 ≠ .errOk ∧
              ((processPacketRecv mismatch onError onSuccess memory.beyond
                  receiver packet header).2 = receiver ∨
                (processPacketRecv mismatch onError onSuccess memory.beyond
                  receiver packet header).2 = initial) := by
          rcases processPacketRecv_cases hsuccess herror with
            ⟨hok, hcopied⟩ | ⟨hfailed, hreset⟩
          · exact .inl ⟨hok, header, rfl, hcopied⟩
          · exact .inr ⟨hfailed, .inr hreset⟩
        split
        · exact hflag _ _ _ (fun _ => ⟨rfl, rfl⟩) (fun _ _ => by simp)
        · exact hflag _ _ _ (fun _ => ⟨rfl, rfl⟩) (fun _ => id)
        · exact hflag _ _ _ (fun _ => ⟨rfl, rfl⟩) (fun _ => id)
        · exact hflag _ _ _ (fun _ => ⟨rfl, rfl⟩) (fun _ => id)
        · exact .inr ⟨by simp, .inl rfl⟩
      · next hfailed => exact .inr ⟨hfailed, .inl rfl⟩

theorem payloadCopy_eq_some {copy : PayloadCopy}
    (hcopy : payloadCopy memory receiver packet = some copy) :
    ∃ header, deserialize memory.stack packet = some header ∧
      receiver.copyFor header = copy ∧
      Copied memory receiver packet header
        (packRecvPacketData memory receiver packet).2 := by
  unfold payloadCopy at hcopy
  split_ifs at hcopy with hok
  rcases packRecvPacketData_cases memory receiver packet with
    ⟨-, header, hheader, hcopied⟩ | ⟨hfailed, -⟩
  · rw [hheader] at hcopy
    exact ⟨header, hheader, Option.some.inj hcopy, hcopied⟩
  · exact absurd hok hfailed

/-! ## Runs -/

theorem length_written (memory : RecvMemory) (packet : Bytes)
    {copy : PayloadCopy}
    (hinside : copy.destination + copy.length ≤ copy.buffer.data.length) :
    (copy.written memory packet).data.length = copy.buffer.data.length := by
  simp only [PayloadCopy.written, List.length_append, List.length_take,
    length_readBytes, List.length_drop]
  omega

theorem destination_le (hbounded : receiver.Bounded)
    (hroom : header.payloadLen ≤ (receiver.copyFor header).buffer.size -
      (receiver.copyFor header).destination) :
    (receiver.copyFor header).destination + (receiver.copyFor header).length ≤
      (receiver.copyFor header).buffer.data.length := by
  obtain ⟨hsize, hdestination⟩ := size_copyFor hbounded header
  rw [hsize] at hroom
  have hlength : (receiver.copyFor header).length = header.payloadLen := rfl
  omega

theorem Bounded.packRecvPacketData (hbounded : receiver.Bounded)
    (memory : RecvMemory) (packet : Bytes) :
    (DataSenderReceiver.packRecvPacketData memory receiver packet).2.Bounded := by
  rcases packRecvPacketData_cases memory receiver packet with
    ⟨-, header, -, hcopied⟩ | ⟨-, hkept | hreset⟩
  · intro buffer hbuffer
    rw [hcopied.packBuffer] at hbuffer
    obtain rfl := Option.some.inj hbuffer
    have hinside := destination_le hbounded hcopied.room
    have hlength := length_written memory packet hinside
    refine ⟨?_, ?_⟩
    · rw [hlength]
      exact (size_copyFor hbounded header).1
    · rw [hlength, hcopied.currentPos]
      exact hinside
  · rw [hkept]
    exact hbounded
  · rw [hreset]
    exact bounded_initial

theorem Bounded.getPacketedData (hbounded : receiver.Bounded) :
    receiver.getPacketedData.2.Bounded := by
  unfold DataSenderReceiver.getPacketedData
  split
  · exact bounded_initial
  · exact hbounded

theorem bounded_afterCalls (calls : List RecvCall) :
    (afterCalls calls).Bounded := by
  refine EventRun.run_invariant (fun receiver call hbounded => ?_) calls
    bounded_initial
  cases call with
  | packRecvPacketData memory packet =>
      exact hbounded.packRecvPacketData memory packet
  | getPacketedData => exact hbounded.getPacketedData

/-- In every reachable state a copy stays inside of the packet and of the pack
buffer exactly when the packet length in the header is not larger than what was
received. -/
theorem inside_iff {calls : List RecvCall} {copy : PayloadCopy}
    (hcopy : payloadCopy memory (afterCalls calls) packet = some copy) :
    copy.Inside packet ↔ copy.header.packetLen ≤ packet.length := by
  obtain ⟨header, hheader, rfl, hcopied⟩ := payloadCopy_eq_some hcopy
  have hdestination := destination_le (bounded_afterCalls calls) hcopied.room
  obtain ⟨-, -, -, hlengths⟩ := (checkLengths_iff header).mp
    (deserialize_checkLengths hheader)
  have hsource : ((afterCalls calls).copyFor header).source +
      ((afterCalls calls).copyFor header).length = header.packetLen := by
    simp only [copyFor]
    omega
  constructor
  · intro hinside
    exact hsource ▸ hinside.source
  · intro hle
    exact ⟨hsource ▸ hle, hdestination⟩

def wholePacket (packetLen payloadLen : ℕ) : Bytes :=
  SessionDataHeader.serialize {
    version := protocolVersion
    fragFlag := FragType.fragStartEnd.code
    dataType := 1
    seqNum := 0
    totalLen := packetLen
    packetLen := packetLen
    payloadLen := payloadLen
    subSeq := 0 } ++ [7]

def blankMemory : RecvMemory := ⟨⟨0, 0, 0, 0, 0, 0, 0, 0⟩, fun _ => 0⟩

theorem inside_wholePacket :
    ∃ copy, payloadCopy blankMemory (afterCalls []) (wholePacket 58 1) =
      some copy ∧ copy.Inside (wholePacket 58 1) := by
  obtain ⟨copy, hcopy⟩ : ∃ copy,
      payloadCopy blankMemory (afterCalls []) (wholePacket 58 1) = some copy := by
    rw [← Option.isSome_iff_exists]
    decide +kernel
  have hlength : (payloadCopy blankMemory (afterCalls [])
      (wholePacket 58 1)).map (·.header.packetLen) = some 58 := by
    decide +kernel
  rw [hcopy] at hlength
  have hpacketLen : copy.header.packetLen = 58 := Option.some.inj hlength
  refine ⟨copy, hcopy, (inside_iff hcopy).mpr ?_⟩
  rw [hpacketLen]
  decide

/-- The header of 58 bytes announces a payload of 100 behind 100 others. -/
theorem not_inside_longHeader :
    ∃ copy, payloadCopy blankMemory (afterCalls []) (wholePacket 200 100) =
      some copy ∧ ¬copy.Inside (wholePacket 200 100) := by
  have hsource : (payloadCopy blankMemory (afterCalls [])
      (wholePacket 200 100)).map (fun copy => (copy.source, copy.length)) =
        some (100, 100) := by
    decide +kernel
  obtain ⟨copy, hcopy, hranges⟩ := Option.map_eq_some_iff.mp hsource
  obtain ⟨hstart, hlength⟩ := Prod.mk.inj hranges
  refine ⟨copy, hcopy, fun hinside => ?_⟩
  have hle := hinside.source
  rw [hstart, hlength] at hle
  revert hle
  decide

end DataSenderReceiver

end Dmsfwk
