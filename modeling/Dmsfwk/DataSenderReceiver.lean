import Dmsfwk.EventRun
import Dmsfwk.SessionDataHeader

/-!
# Sender and receiver of the collaboration bytes channel

`DataSenderReceiver` splits a buffer into packets on one side and reassembles
packets on the other.  Softbus is an oracle: the successive answers of
`GetSessionOption` and `SendBytes` are arguments.  Both sides copy from raw
pointers whose bounds they do not check, so the memory behind a buffer is an
argument as well.
-/

namespace Dmsfwk

open ByteCodec
open SessionDataHeader

/-! ## Buffers -/

/-- `AVTransDataBuffer`; its capacity is the length of `data`. -/
structure AVTransDataBuffer where
  data : Bytes
  rangeOffset : ℕ
  rangeLength : ℕ
  deriving DecidableEq, Repr

namespace AVTransDataBuffer

def dschedMaxBufferSize : ℕ := 80 * 1024 * 1024

def ofCapacity (capacity : ℕ) : AVTransDataBuffer :=
  if capacity ≠ 0 ∧ capacity < dschedMaxBufferSize then
    ⟨List.replicate capacity 0, 0, capacity⟩
  else ⟨[], 0, 0⟩

def size (buffer : AVTransDataBuffer) : ℕ := buffer.rangeLength

def setRange (buffer : AVTransDataBuffer) (offset size : ℕ) :
    AVTransDataBuffer :=
  if offset ≤ buffer.data.length ∧ offset + size ≤ buffer.data.length then
    { buffer with rangeOffset := offset, rangeLength := size }
  else buffer

def bytes (buffer : AVTransDataBuffer) : Bytes :=
  (buffer.data.drop buffer.rangeOffset).take buffer.rangeLength

end AVTransDataBuffer

/-! ## Receiving -/

/-- The reassembly fields of `DataSenderReceiver`; `currentPos` is an offset
into the pack buffer. -/
structure DataSenderReceiver where
  isWaiting : Bool
  nowSeqNum : ℕ
  nowSubSeq : ℕ
  packBuffer : Option AVTransDataBuffer
  currentPos : ℕ
  deriving DecidableEq, Repr

/-- Memory the receiver can observe besides the packet itself: the
indeterminate local header and the bytes behind the packet. -/
structure RecvMemory where
  stack : SessionDataHeader
  beyond : ℕ → UInt8

namespace DataSenderReceiver

def initial : DataSenderReceiver := ⟨false, 0, 0, none, 0⟩

def resetFlag (_ : DataSenderReceiver) : DataSenderReceiver := initial

def checkRecvSessionHeader
    (receiver : DataSenderReceiver) (header : SessionDataHeader) : CollabErr :=
  if receiver.nowSeqNum ≠ header.seqNum then .invalidSessionHeaderSeqNum
  else if receiver.nowSubSeq = 0 ∧ header.subSeq = 0 then .errOk
  else if receiver.nowSubSeq + 1 ≠ header.subSeq then
    .invalidSessionHeaderSubSeq
  else .errOk

def appendPayload (receiver : DataSenderReceiver)
    (buffer : AVTransDataBuffer) (payload : Bytes) :
    CollabErr × DataSenderReceiver :=
  match memcpyS buffer.data receiver.currentPos
      (buffer.size - receiver.currentPos) payload with
  | none => (.writePayloadToBufferFailed, receiver)
  | some data =>
      (.errOk, { receiver with
        packBuffer := some { buffer with data := data }
        currentPos := receiver.currentPos + payload.length })

def packetPayload (beyond : ℕ → UInt8) (packet : Bytes)
    (header : SessionDataHeader) : Bytes :=
  readBytes packet beyond (header.packetLen - header.payloadLen)
    header.payloadLen

def writeRecvBytesDataToBuffer (beyond : ℕ → UInt8)
    (receiver : DataSenderReceiver) (packet : Bytes)
    (header : SessionDataHeader) : CollabErr × DataSenderReceiver :=
  let payload := packetPayload beyond packet header
  match receiver.packBuffer with
  | none =>
      let buffer := AVTransDataBuffer.ofCapacity header.totalLen
      appendPayload
        { receiver with packBuffer := some buffer, currentPos := 0 }
        buffer payload
  | some buffer =>
      if buffer.size ≠ header.totalLen then
        (.invalidSessionHeaderTotalLen, receiver)
      else appendPayload receiver buffer payload

/-- The common shape of the four `Process*PacketRecv` functions: a buffer
state which does not match the flag and a failed write both reset the
receiver. -/
def processPacketRecv (mismatch : Bool) (onError : CollabErr → CollabErr)
    (onSuccess : DataSenderReceiver → DataSenderReceiver)
    (beyond : ℕ → UInt8) (receiver : DataSenderReceiver) (packet : Bytes)
    (header : SessionDataHeader) : CollabErr × DataSenderReceiver :=
  if mismatch then (.flagTypeNotMatchBufferState, receiver.resetFlag)
  else
    match writeRecvBytesDataToBuffer beyond receiver packet header with
    | (.errOk, written) => (.errOk, onSuccess written)
    | (error, written) => (onError error, written.resetFlag)

def processAllPacketRecv (beyond : ℕ → UInt8)
    (receiver : DataSenderReceiver) (packet : Bytes)
    (header : SessionDataHeader) : CollabErr × DataSenderReceiver :=
  processPacketRecv (receiver.packBuffer.isSome || receiver.isWaiting)
    (fun _ => .writePayloadToBufferFailed) id beyond receiver packet header

def processStartPacketRecv (beyond : ℕ → UInt8)
    (receiver : DataSenderReceiver) (packet : Bytes)
    (header : SessionDataHeader) : CollabErr × DataSenderReceiver :=
  processPacketRecv (receiver.packBuffer.isSome || receiver.isWaiting) id
    (fun written => { written with
      isWaiting := true
      nowSeqNum := header.seqNum
      nowSubSeq := header.subSeq })
    beyond receiver packet header

def processMidPacketRecv (beyond : ℕ → UInt8)
    (receiver : DataSenderReceiver) (packet : Bytes)
    (header : SessionDataHeader) : CollabErr × DataSenderReceiver :=
  processPacketRecv (receiver.packBuffer.isNone || !receiver.isWaiting) id
    (fun written => { written with
      nowSeqNum := header.seqNum
      nowSubSeq := header.subSeq })
    beyond receiver packet header

def processEndPacketRecv (beyond : ℕ → UInt8)
    (receiver : DataSenderReceiver) (packet : Bytes)
    (header : SessionDataHeader) : CollabErr × DataSenderReceiver :=
  processPacketRecv (receiver.packBuffer.isNone || !receiver.isWaiting) id
    (fun written => { written with isWaiting := false })
    beyond receiver packet header

def processByFlag (beyond : ℕ → UInt8) (receiver : DataSenderReceiver)
    (packet : Bytes) (header : SessionDataHeader) :
    CollabErr × DataSenderReceiver :=
  match FragType.ofCode? header.fragFlag with
  | some .fragStartEnd => processAllPacketRecv beyond receiver packet header
  | some .fragStart => processStartPacketRecv beyond receiver packet header
  | some .fragMid => processMidPacketRecv beyond receiver packet header
  | some .fragEnd => processEndPacketRecv beyond receiver packet header
  | _ => (.invalidSessionHeaderFlagType, receiver)

def packRecvPacketData (memory : RecvMemory) (receiver : DataSenderReceiver)
    (packet : Bytes) : CollabErr × DataSenderReceiver :=
  match deserialize memory.stack packet with
  | none => (.writeSessionHeaderFailed, receiver)
  | some header =>
      match receiver.checkRecvSessionHeader header with
      | .errOk => processByFlag memory.beyond receiver packet header
      | error => (error, receiver)

def isDataReady (receiver : DataSenderReceiver) : Bool :=
  !receiver.isWaiting && receiver.packBuffer.isSome

def getPacketedData (receiver : DataSenderReceiver) :
    Option Bytes × DataSenderReceiver :=
  match receiver.isDataReady, receiver.packBuffer with
  | true, some buffer =>
      (some (buffer.setRange 0 receiver.currentPos).bytes, receiver.resetFlag)
  | _, _ => (none, receiver)

abbrev RecvResult := CollabErr × Option Bytes

/-- The second half of `ProcessRecvData`: only a packet that was packed
successfully makes the receiver look for a finished buffer. -/
def deliver : CollabErr × DataSenderReceiver → RecvResult × DataSenderReceiver
  | (.errOk, packed) =>
      ((.errOk, packed.getPacketedData.1), packed.getPacketedData.2)
  | (error, packed) => ((error, none), packed)

def processRecvData (memory : RecvMemory) (receiver : DataSenderReceiver)
    (packet : Bytes) : RecvResult × DataSenderReceiver :=
  deliver (packRecvPacketData memory receiver packet)

def processAll (receiver : DataSenderReceiver)
    (inputs : List (RecvMemory × Bytes)) :
    List RecvResult × DataSenderReceiver :=
  EventRun.run (fun receiver input => processRecvData input.1 receiver input.2)
    receiver inputs

end DataSenderReceiver

/-! ## Sending -/

/-- What softbus and the surrounding memory do during one send: the answer of
the `i`-th `GetSessionOption` (`none` is a failure), whether the `i`-th
`SendBytes` succeeds, and the bytes behind the sent buffer. -/
structure SendEnv where
  sessionOption : ℕ → Option ℕ
  sendBytes : ℕ → Bool
  beyond : ℕ → UInt8

namespace DataSenderReceiver

def subUint32 (a b : ℕ) : ℕ := (a + 2 ^ 32 - b) % 2 ^ 32

def bytesDataType : ℕ := 1

theorem bytesDataType_lt : bytesDataType < 2 ^ 32 := by
  decide

def doSendPacket (env : SendEnv) (index : ℕ) (header : SessionDataHeader)
    (data : Bytes) (current dataLen : ℕ) : Except CollabErr Bytes :=
  let sendBuffer :=
    AVTransDataBuffer.ofCapacity ((headerLen + dataLen) % 2 ^ 32)
  match memcpyS sendBuffer.data 0 sendBuffer.size header.serialize with
  | none => .error .writeSessionHeaderFailed
  | some withHeader =>
      match memcpyS withHeader headerLen (sendBuffer.size - headerLen)
          (readBytes data env.beyond current dataLen) with
      | none => .error .writeSendDataBufferFailed
      | some packet =>
          if env.sendBytes index then .ok packet
          else .error .sendDataBySoftbusFailed

/-- The `while` loop of `SendUnpackData` behind the first packet; `payloadLen`
is the local variable that was set for the first packet.  Every round moves
`current` forward, so the length of the data is enough fuel. -/
def sendRemaining (env : SendEnv) (data : Bytes) (payloadLen : ℕ) :
    ℕ → ℕ → SessionDataHeader → ℕ → CollabErr × List Bytes
  | 0, _, _, _ => (.errOk, [])
  | fuel + 1, index, header, current =>
      if current < data.length then
        match env.sessionOption index with
        | none => (.getSessionOptionFailed, [])
        | some maxSendSize =>
            let next : SessionDataHeader := { header with
              packetLen := maxSendSize
              payloadLen := subUint32 maxSendSize headerLen
              fragFlag :=
                if payloadLen < data.length - current then FragType.fragMid.code
                else FragType.fragEnd.code
              subSeq := (header.subSeq + 1) % 2 ^ 16 }
            match doSendPacket env index next data current payloadLen with
            | .error error => (error, [])
            | .ok packet =>
                let (ret, rest) := sendRemaining env data payloadLen fuel
                  (index + 1) next (current + payloadLen)
                (ret, packet :: rest)
      else (.errOk, [])

def sendAllPackets (env : SendEnv) (data : Bytes) (dataType : ℕ) :
    CollabErr × List Bytes :=
  let header : SessionDataHeader := {
    version := protocolVersion
    fragFlag := FragType.fragStartEnd.code
    dataType := dataType
    seqNum := 0
    totalLen := data.length + headerLen
    packetLen := data.length + headerLen
    payloadLen := data.length
    subSeq := 0 }
  match doSendPacket env 0 header data 0 data.length with
  | .error error => (error, [])
  | .ok packet => (.errOk, [packet])

def sendUnpackData (env : SendEnv) (data : Bytes) (dataType : ℕ) :
    CollabErr × List Bytes :=
  match env.sessionOption 0 with
  | none => (.getSessionOptionFailed, [])
  | some maxSendSize =>
      if data.length + headerLen ≤ maxSendSize then
        sendAllPackets env data dataType
      else
        let payloadLen := subUint32 maxSendSize headerLen
        let header : SessionDataHeader := {
          version := protocolVersion
          fragFlag := FragType.fragStart.code
          dataType := dataType
          seqNum := 0
          totalLen := data.length
          packetLen := maxSendSize
          payloadLen := payloadLen
          subSeq := 0 }
        match doSendPacket env 0 header data 0 payloadLen with
        | .error error => (error, [])
        | .ok packet =>
            let (ret, rest) := sendRemaining env data payloadLen data.length
              1 header payloadLen
            (ret, packet :: rest)

def sendBytesData (env : SendEnv) (data : Bytes) : CollabErr × List Bytes :=
  sendUnpackData env data bytesDataType

end DataSenderReceiver

end Dmsfwk
