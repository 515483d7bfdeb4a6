import Dmsfwk.DataSenderReceiver

/-!
# Fragmentation in the distributed scheduler's softbus session

`DSchedSoftbusSession` has its own fragmentation protocol: seven TLV items in
a window of `BINARY_HEADER_FRAG_LEN` bytes, a fragment size that is asked for
again before every packet, and an assembly state that a first fragment always
restarts.  Softbus is again an oracle.  The packet bounds are checked before
any copy here, so no memory outside the buffers is read.
-/

namespace Dmsfwk

open ByteCodec
open TlvCodec

/-- `DSchedDataBuffer` has the layout of `AVTransDataBuffer`. -/
abbrev DSchedDataBuffer := AVTransDataBuffer

namespace DSchedSoftbusSession

/-! ## The packet header -/

def binaryDataMaxTotalLen : ℕ := 100 * 1024 * 1024
def binaryDataMaxLen : ℕ := 4 * 1024 * 1024
def binaryDataPacketReservedBuffer : ℕ := 512
def protocolVersion : ℕ := 1
def binaryHeaderFragLen : ℕ := 49

def tlvTypeVersion : ℕ := 1001
def tlvTypeFragFlag : ℕ := 1002
def tlvTypeDataType : ℕ := 1003
def tlvTypeSeqNum : ℕ := 1004
def tlvTypeTotalLen : ℕ := 1005
def tlvTypeSubSeq : ℕ := 1006
def tlvTypeDataLen : ℕ := 1007

structure SessionDataHeader where
  version : ℕ
  fragFlag : ℕ
  dataType : ℕ
  seqNum : ℕ
  totalLen : ℕ
  subSeq : ℕ
  dataLen : ℕ
  deriving DecidableEq, Repr

/-- `WriteTlvToBuffer`: an item that does not fit leaves the zeroed buffer as
it is.  The bound handed to `memcpy_s` is the whole remaining capacity. -/
def writeTlvToBuffer (item : TlvItem) (bufLen : ℕ) : Bytes :=
  if bufLen < item.size then List.replicate item.size 0
  else
    be16 item.type ++ be16 item.len ++
      (memcpyS (List.replicate item.len 0) 0 bufLen
        (leBytes item.len item.value)).getD (List.replicate item.len 0)

def headerItems (header : SessionDataHeader) : List TlvItem :=
  [⟨tlvTypeVersion, 2, header.version⟩,
    ⟨tlvTypeFragFlag, 1, header.fragFlag⟩,
    ⟨tlvTypeDataType, 4, header.dataType⟩,
    ⟨tlvTypeSeqNum, 4, header.seqNum⟩,
    ⟨tlvTypeTotalLen, 4, header.totalLen⟩,
    ⟨tlvTypeSubSeq, 2, header.subSeq⟩,
    ⟨tlvTypeDataLen, 4, header.dataLen⟩]

def makeFragDataHeader (header : SessionDataHeader) : Bytes :=
  layOut writeTlvToBuffer binaryHeaderFragLen (headerItems header)

def readTlvToHeader
    (header : SessionDataHeader) (type : ℕ) (value : Bytes) :
    Option SessionDataHeader :=
  if type = tlvTypeVersion then
    (copyToField 2 header.version value).map ({ header with version := · })
  else if type = tlvTypeFragFlag then
    (copyToField 1 header.fragFlag value).map ({ header with fragFlag := · })
  else if type = tlvTypeDataType then
    (copyToField 4 header.dataType value).map ({ header with dataType := · })
  else if type = tlvTypeSeqNum then
    (copyToField 4 header.seqNum value).map ({ header with seqNum := · })
  else if type = tlvTypeTotalLen then
    (copyToField 4 header.totalLen value).map ({ header with totalLen := · })
  else if type = tlvTypeSubSeq then
    (copyToField 2 header.subSeq value).map ({ header with subSeq := · })
  else if type = tlvTypeDataLen then
    (copyToField 4 header.dataLen value).map ({ header with dataLen := · })
  else none

/-- `GetFragDataHeader`; `stack` is the indeterminate local header it fills.
The loop runs to the last byte of the window. -/
def getFragDataHeader (stack : SessionDataHeader) (packet : Bytes) :
    Option SessionDataHeader :=
  scan (fun left => decide (left = 0)) readTlvToHeader
    (binaryHeaderFragLen + 1) stack (packet.take binaryHeaderFragLen)

end DSchedSoftbusSession

/-! ## Receiving -/

structure DSchedSoftbusSession where
  isWaiting : Bool
  nowSeq : ℕ
  nowSubSeq : ℕ
  offset : ℕ
  totalLen : ℕ
  packBuffer : Option DSchedDataBuffer
  deriving DecidableEq, Repr

namespace DSchedSoftbusSession

def initial : DSchedSoftbusSession := ⟨false, 0, 0, 0, 0, none⟩

def resetAssembleFrag (_ : DSchedSoftbusSession) : DSchedSoftbusSession :=
  initial

abbrev DataReady := Bytes × ℕ

def assembleNoFrag (packet : Bytes) (header : SessionDataHeader) :
    Option DataReady :=
  if header.dataLen ≠ header.totalLen then none
  else
    let postData : DSchedDataBuffer := .ofCapacity header.dataLen
    match memcpyS postData.data 0 postData.size
        (packet.drop binaryHeaderFragLen) with
    | none => none
    | some data =>
        some (({ postData with data := data } : DSchedDataBuffer).bytes,
          header.dataType)

def checkUnPackBuffer
    (session : DSchedSoftbusSession) (header : SessionDataHeader) : Bool :=
  session.isWaiting && session.nowSeq == header.seqNum &&
    session.nowSubSeq + 1 == header.subSeq &&
    !(session.totalLen < (header.dataLen + session.offset) % 2 ^ 32)

def startFrag (packet : Bytes) (header : SessionDataHeader) :
    DSchedSoftbusSession :=
  let packBuffer : DSchedDataBuffer := .ofCapacity header.totalLen
  match memcpyS packBuffer.data 0 packBuffer.size
      (packet.drop binaryHeaderFragLen) with
  | none => initial
  | some data =>
      { isWaiting := true
        nowSeq := header.seqNum
        nowSubSeq := header.subSeq
        offset := header.dataLen
        totalLen := header.totalLen
        packBuffer := some { packBuffer with data := data } }

/-- The branch of `AssembleFrag` for later fragments; `none` stands for the
reset after a failed check or copy. -/
def appendFrag (session : DSchedSoftbusSession) (packet : Bytes)
    (header : SessionDataHeader) : Option (DSchedSoftbusSession × DSchedDataBuffer) :=
  match session.checkUnPackBuffer header, session.packBuffer with
  | true, some buffer =>
      match memcpyS buffer.data session.offset (buffer.size - session.offset)
          (packet.drop binaryHeaderFragLen) with
      | none => none
      | some data =>
          let packBuffer : DSchedDataBuffer := { buffer with data := data }
          some ({ session with
            nowSubSeq := header.subSeq
            offset := (session.offset + header.dataLen) % 2 ^ 32
            packBuffer := some packBuffer }, packBuffer)
  | _, _ => none

def assembleFrag (session : DSchedSoftbusSession) (packet : Bytes)
    (header : SessionDataHeader) : Option DataReady × DSchedSoftbusSession :=
  match FragType.ofCode? header.fragFlag with
  | some .fragStart => (none, startFrag packet header)
  | some .fragMid =>
      match session.appendFrag packet header with
      | none => (none, session.resetAssembleFrag)
      | some (appended, _) => (none, appended)
  | some .fragEnd =>
      match session.appendFrag packet header with
      | none => (none, session.resetAssembleFrag)
      | some (appended, packBuffer) =>
          (some (packBuffer.bytes, header.dataType),
            appended.resetAssembleFrag)
  | _ => (none, session)

def packRecvData (stack : SessionDataHeader)
    (session : DSchedSoftbusSession) (packet : Bytes) :
    Option DataReady × DSchedSoftbusSession :=
  if packet.length < binaryHeaderFragLen then (none, session)
  else
    match getFragDataHeader stack packet with
    | none => (none, session)
    | some header =>
        if packet.length ≠ (header.dataLen + binaryHeaderFragLen) % 2 ^ 32 ∨
            header.totalLen < header.dataLen ∨
            binaryDataMaxLen < header.dataLen ∨
            binaryDataMaxTotalLen < header.totalLen then
          (none, session)
        else if header.fragFlag = FragType.fragStartEnd.code then
          (assembleNoFrag packet header, session)
        else session.assembleFrag packet header

def packRecvAll (session : DSchedSoftbusSession)
    (inputs : List (SessionDataHeader × Bytes)) :
    List (Option DataReady) × DSchedSoftbusSession :=
  EventRun.run (fun session input => packRecvData input.1 session input.2)
    session inputs

/-! ## Sending -/

structure SoftbusAnswers where
  sessionOption : ℕ → Option ℕ
  sendBytes : ℕ → Bool

inductive UnPackError where
  | getSessionOption
  | softbusServiceErr
  | memcpy
  | sendBytes
  | invalidSessionId
  deriving DecidableEq, Repr

def setHeadParaDataLen (header : SessionDataHeader)
    (totalLen offset maxSendSize : ℕ) : SessionDataHeader :=
  if maxSendSize < totalLen - offset then
    { header with dataLen := maxSendSize - binaryDataPacketReservedBuffer }
  else
    { header with
      fragFlag := FragType.fragEnd.code
      dataLen := totalLen - offset }

def makePacket (header : SessionDataHeader) (capacity : ℕ) (body : Bytes) :
    Option Bytes :=
  let unpackData : DSchedDataBuffer := .ofCapacity capacity
  if unpackData.data = [] then none
  else
    memcpyS (makeFragDataHeader header ++
        unpackData.data.drop binaryHeaderFragLen)
      binaryHeaderFragLen (unpackData.size - binaryHeaderFragLen) body

/-- The `while` loop of `UnPackSendData`.  Every round moves `offset` forward,
so the length of the data is enough fuel. -/
def sendFragments (answers : SoftbusAnswers) (data : Bytes) :
    ℕ → ℕ → SessionDataHeader → ℕ → ℕ → Option UnPackError × List Bytes
  | 0, _, _, _, _ => (none, [])
  | fuel + 1, index, header, offset, maxSendSize =>
      if offset < data.length then
        if maxSendSize ≤ binaryDataPacketReservedBuffer then
          (some .softbusServiceErr, [])
        else
          let header := setHeadParaDataLen header data.length offset maxSendSize
          match makePacket header
              ((header.dataLen + binaryHeaderFragLen) % 2 ^ 32)
              ((data.drop offset).take header.dataLen) with
          | none => (some .memcpy, [])
          | some packet =>
              if answers.sendBytes index then
                match answers.sessionOption (index + 1) with
                | none => (some .getSessionOption, [packet])
                | some next =>
                    let sent := sendFragments answers data fuel (index + 1)
                      { header with
                        subSeq := (header.subSeq + 1) % 2 ^ 16
                        fragFlag := FragType.fragMid.code }
                      (offset + header.dataLen) next
                    (sent.1, packet :: sent.2)
              else (some .sendBytes, [])
      else (none, [])

def unPackStartEndData (answers : SoftbusAnswers) (data : Bytes)
    (dataType : Int32) : Option UnPackError × List Bytes :=
  let header : SessionDataHeader := {
    version := protocolVersion
    fragFlag := FragType.fragStartEnd.code
    dataType := dataType.toUInt32.toNat
    seqNum := 0
    totalLen := data.length
    subSeq := 0
    dataLen := data.length }
  if (AVTransDataBuffer.ofCapacity
      (data.length + binaryHeaderFragLen)).size < binaryHeaderFragLen then
    (some .invalidSessionId, [])
  else
    match makePacket header (data.length + binaryHeaderFragLen) data with
    | none => (some .memcpy, [])
    | some packet =>
        if answers.sendBytes 0 then (none, [packet])
        else (some .sendBytes, [])

def unPackSendData (answers : SoftbusAnswers) (data : Bytes)
    (dataType : Int32) : Option UnPackError × List Bytes :=
  match answers.sessionOption 0 with
  | none => (some .getSessionOption, [])
  | some maxSendSize =>
      if data.length ≤ maxSendSize then
        unPackStartEndData answers data dataType
      else
        sendFragments answers data data.length 0
          { version := protocolVersion
            fragFlag := FragType.fragStart.code
            dataType := dataType.toUInt32.toNat
            seqNum := 0
            totalLen := data.length
            subSeq := 0
            dataLen := 0 }
          0 maxSendSize

/-- `SendData` reports success whatever `UnPackSendData` returned; what it
leaves behind are the transmitted packets. -/
def sendData (answers : SoftbusAnswers) (data : Bytes) (dataType : Int32) :
    List Bytes :=
  (unPackSendData answers data dataType).2

end DSchedSoftbusSession

end Dmsfwk
