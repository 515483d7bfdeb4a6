import Dmsfwk.AbilityConnectionSession
import Dmsfwk.DataSenderReceiver
import Dmsfwk.MessageDataHeader

/-!
# Text messages between collaboration sessions

`SendMessage` copies the text into a buffer with one byte more and sends the
whole buffer behind a header.  `OnMessageReceived` makes its text of all bytes
behind the header.
-/

namespace Dmsfwk

open ByteCodec
open AVTransDataBuffer

def MessageType.code : MessageType → ℕ
  | .normal => 0
  | .wifiOpen => 1
  | .updateRecvEngineChannel => 2
  | .updateSenderEngineChannel => 3
  | .receiveStreamStart => 4
  | .streamEncoding => 5
  | .connectFileChannel => 6
  | .fileChannelConnectSuccess => 7
  | .fileChannelConnectFailed => 8
  | .sessionConnectSuccess => 9

@[simp] theorem MessageType.ofCode?_code (type : MessageType) :
    MessageType.ofCode? type.code = some type := by
  cases type <;> rfl

theorem MessageType.code_lt (type : MessageType) : type.code < 10 := by
  cases type <;> decide

theorem MessageType.eq_code_of_ofCode? {code : ℕ} {type : MessageType}
    (htype : MessageType.ofCode? code = some type) : code = type.code := by
  have hlt : code < 10 := (List.getElem?_eq_some_iff.mp htype).1
  interval_cases code <;> cases htype <;> rfl

namespace AbilityConnectionSession

/-! ## Sending -/

inductive SendMessageErr where
  | memcpy
  | writeSessionHeaderFailed
  | writeSendDataBufferFailed
  | invalidParametersErr
  deriving DecidableEq, Repr

def sendMessage (session : AbilityConnectionSession) (msg : Bytes)
    (messageType : MessageType) : Except SendMessageErr (ℤ × Bytes) :=
  let sendData := ofCapacity (msg.length + 1)
  match memcpyS sendData.data 0 sendData.data.length msg with
  | none => .error .memcpy
  | some text =>
      let totalLen := (sendData.size + MessageDataHeader.headerLen) % 2 ^ 32
      let headerPara : MessageDataHeader :=
        ⟨MessageDataHeader.protocolVersion, messageType.code, totalLen⟩
      let sendBuffer := ofCapacity totalLen
      match memcpyS sendBuffer.data 0 sendBuffer.size headerPara.serialize with
      | none => .error .writeSessionHeaderFailed
      | some header =>
          match memcpyS header MessageDataHeader.headerLen
              (sendBuffer.size - MessageDataHeader.headerLen) text with
          | none => .error .writeSendDataBufferFailed
          | some data =>
              match session.transChannels .message with
              | none => .error .invalidParametersErr
              | some info =>
                  .ok (info.channelId,
                    ({ sendBuffer with data := data } : AVTransDataBuffer).bytes)

/-! ## Receiving -/

def messageHandlerMap : List MessageType :=
  [.normal, .wifiOpen, .updateRecvEngineChannel, .updateSenderEngineChannel,
    .connectFileChannel, .fileChannelConnectSuccess, .fileChannelConnectFailed,
    .sessionConnectSuccess]

/-- The handler which `OnMessageReceived` calls, with its argument; `stack` is
the memory of the local header. -/
def handledMessage (session : AbilityConnectionSession) (channelId : ℤ)
    (stack : MessageDataHeader) (dataBuffer : Bytes) :
    Option (MessageType × Bytes) :=
  if session.isVaildChannel channelId then
    match MessageDataHeader.deserialize stack dataBuffer with
    | none => none
    | some headerPara =>
        let msg := dataBuffer.drop MessageDataHeader.headerLen
        (messageHandlerMap.find? (·.code = headerPara.dataType)).map (·, msg)
  else none

theorem find?_messageHandlerMap (type : MessageType) :
    messageHandlerMap.find? (·.code = type.code) =
      if type ∈ messageHandlerMap then some type else none := by
  cases type <;> rfl

theorem onMessageReceived_of_unhandled {session : AbilityConnectionSession}
    {channelId : ℤ} {stack : MessageDataHeader} {dataBuffer : Bytes}
    (hunhandled : session.handledMessage channelId stack dataBuffer = none)
    (answers : ChannelAnswers) :
    session.onMessageReceived channelId
        ((MessageDataHeader.deserialize stack dataBuffer).map (·.dataType))
        answers = ([], session) := by
  unfold handledMessage at hunhandled
  unfold onMessageReceived
  split_ifs at hunhandled ⊢ with hchannel
  · cases hread : MessageDataHeader.deserialize stack dataBuffer with
    | none => rfl
    | some header =>
        rw [hread] at hunhandled
        have hnone := Option.map_eq_none_iff.mp hunhandled
        rw [Option.map_some, Option.bind_some]
        cases htype : MessageType.ofCode? header.dataType with
        | none => rfl
        | some type =>
            rw [MessageType.eq_code_of_ofCode? htype, find?_messageHandlerMap,
              ite_eq_right_iff] at hnone
            cases type with
            | receiveStreamStart => rfl
            | streamEncoding => rfl
            | _ => exact absurd (hnone (by decide)) (Option.some_ne_none _)
  · rfl

/-! ## What arrives -/

theorem ofCapacity_message {capacity : ℕ} (hpos : 0 < capacity)
    (hsmall : capacity ≤ 4096) :
    ofCapacity capacity = ⟨List.replicate capacity 0, 0, capacity⟩ := by
  refine if_pos ⟨Nat.ne_of_gt hpos, hsmall.trans_lt ?_⟩
  decide

theorem memcpyS_text (msg : Bytes) :
    memcpyS (List.replicate (msg.length + 1) 0) 0 (msg.length + 1) msg =
      some (msg ++ [0]) := by
  have hcopy := @memcpyS_append_replicate [] msg (msg.length + 1) (by simp)
    (by simp)
  simpa using hcopy

theorem memcpyS_header {header : Bytes} {length : ℕ} (hpos : 0 < header.length) :
    memcpyS (List.replicate (header.length + length) 0) 0
        (header.length + length) header =
      some (header ++ List.replicate length 0) := by
  have hcopy := @memcpyS_append_replicate [] header (header.length + length)
    (by simp only [List.length_nil]; omega) (by simp)
  simpa using hcopy

theorem memcpyS_behind_header {header text : Bytes} (hpos : 0 < text.length) :
    memcpyS (header ++ List.replicate text.length 0) header.length
        text.length text = some (header ++ text) := by
  have hcopy := @memcpyS_append_replicate header text
    (header.length + text.length) (by omega) (by omega)
  simpa using hcopy

def messageBuffer (msg : Bytes) (messageType : MessageType) : Bytes :=
  MessageDataHeader.serialize
    ⟨MessageDataHeader.protocolVersion, messageType.code, msg.length + 23⟩ ++
      (msg ++ [0])

theorem sendMessage_eq (session : AbilityConnectionSession) {msg : Bytes}
    (messageType : MessageType) (hlength : msg.length + 23 ≤ 4096) :
    session.sendMessage msg messageType =
      match session.transChannels .message with
      | none => .error .invalidParametersErr
      | some info => .ok (info.channelId, messageBuffer msg messageType) := by
  obtain ⟨header, hpara⟩ : ∃ header : MessageDataHeader, header =
    ⟨MessageDataHeader.protocolVersion, messageType.code, msg.length + 23⟩ :=
    ⟨_, rfl⟩
  have hheader : header.serialize.length = MessageDataHeader.headerLen :=
    MessageDataHeader.length_serialize header
  have htotal : (msg.length + 1 + MessageDataHeader.headerLen) % 2 ^ 32 =
      msg.length + 23 := by
    rw [MessageDataHeader.headerLen_eq]
    omega
  have htext : (msg ++ [(0 : UInt8)]).length = msg.length + 1 := by simp
  have hcapacity : msg.length + 23 =
      header.serialize.length + (msg ++ [(0 : UInt8)]).length := by
    rw [hheader, htext, MessageDataHeader.headerLen_eq]
    omega
  have hfirst := @memcpyS_header header.serialize
    (msg ++ [(0 : UInt8)]).length (by rw [hheader]; decide)
  have hsecond := @memcpyS_behind_header header.serialize (msg ++ [0])
    (by rw [htext]; omega)
  rw [← hcapacity] at hfirst
  rw [hheader] at hsecond
  have hroom : msg.length + 23 - MessageDataHeader.headerLen =
      (msg ++ [(0 : UInt8)]).length := by
    rw [htext, MessageDataHeader.headerLen_eq]
    omega
  unfold sendMessage messageBuffer
  simp only [ofCapacity_message (Nat.succ_pos msg.length) (by omega),
    AVTransDataBuffer.size, List.length_replicate, memcpyS_text, htotal,
    @ofCapacity_message (msg.length + 23) (by omega) hlength, ← hpara, hfirst,
    hroom, hsecond, AVTransDataBuffer.bytes, List.drop_zero]
  rw [hcapacity, ← List.length_append, List.take_length]

theorem sendMessage_eq_ok {session : AbilityConnectionSession} {msg : Bytes}
    {messageType : MessageType} {channelId : ℤ} {dataBuffer : Bytes}
    (hlength : msg.length + 23 ≤ 4096)
    (hsent : session.sendMessage msg messageType =
      .ok (channelId, dataBuffer)) :
    dataBuffer = messageBuffer msg messageType := by
  rw [sendMessage_eq session messageType hlength] at hsent
  cases hchannel : session.transChannels .message with
  | none =>
      rw [hchannel] at hsent
      cases hsent
  | some info =>
      rw [hchannel] at hsent
      exact (Prod.mk.inj (Except.ok.inj hsent)).2.symm

theorem handledMessage_messageBuffer {peer : AbilityConnectionSession}
    {msg : Bytes} {channelId : ℤ} (messageType : MessageType)
    (hlength : msg.length + 23 ≤ 4096)
    (hchannel : peer.isVaildChannel channelId = true)
    (stack : MessageDataHeader) :
    peer.handledMessage channelId stack (messageBuffer msg messageType) =
      if messageType ∈ messageHandlerMap then some (messageType, msg ++ [0])
      else none := by
  have hcode := messageType.code_lt
  have hrange : MessageDataHeader.InRange
      ⟨MessageDataHeader.protocolVersion, messageType.code,
        msg.length + 23⟩ := by
    constructor
    · exact (by decide : MessageDataHeader.protocolVersion < 2 ^ 16)
    · exact hcode.trans (by decide)
    · exact (by omega : msg.length + 23 < 2 ^ 32)
  rw [handledMessage, if_pos hchannel, messageBuffer,
    MessageDataHeader.deserialize_serialize_append hrange]
  dsimp only
  rw [find?_messageHandlerMap, ← MessageDataHeader.length_serialize
    ⟨MessageDataHeader.protocolVersion, messageType.code, msg.length + 23⟩,
    List.drop_left]
  split_ifs <;> rfl

def messaging : AbilityConnectionSession :=
  { create ⟨[], ⟨[], [], [], [], []⟩, ⟨[], [], [], [], []⟩⟩
      ⟨false, false, false, false, false⟩ with
    transChannels := fun transType =>
      if transType = .message then some ⟨1001, true⟩ else none }

/-- The text of two characters arrives with three. -/
theorem handledMessage_twoCharacters :
    messaging.sendMessage [104, 105] .normal =
        .ok (1001, messageBuffer [104, 105] .normal) ∧
      messaging.handledMessage 1001 ⟨0, 0, 0⟩
        (messageBuffer [104, 105] .normal) = some (.normal, [104, 105, 0]) :=
  ⟨sendMessage_eq messaging .normal (by decide),
    handledMessage_messageBuffer .normal (by decide) (by decide) ⟨0, 0, 0⟩⟩

/-- No message arrives as it was sent: its text is one zero byte longer, and
two types have no handler. -/
theorem handledMessage_ne_sent {session peer : AbilityConnectionSession}
    {msg : Bytes} {messageType : MessageType} {channelId peerChannelId : ℤ}
    {dataBuffer : Bytes} (hlength : msg.length + 23 ≤ 4096)
    (hsent : session.sendMessage msg messageType =
      .ok (channelId, dataBuffer))
    (hchannel : peer.isVaildChannel peerChannelId = true)
    (stack : MessageDataHeader) :
    peer.handledMessage peerChannelId stack dataBuffer ≠
      some (messageType, msg) := by
  rw [sendMessage_eq_ok hlength hsent,
    handledMessage_messageBuffer messageType hlength hchannel]
  split_ifs
  · intro hsame
    have htext := congrArg List.length
      (Prod.mk.inj (Option.some.inj hsame)).2
    rw [List.length_append, List.length_singleton] at htext
    omega
  · exact (Option.some_ne_none _).symm

theorem handledMessage_ne_sent_empty :
    messaging.sendMessage [] .normal = .ok (1001, messageBuffer [] .normal) ∧
      messaging.handledMessage 1001 ⟨0, 0, 0⟩ (messageBuffer [] .normal) ≠
        some (.normal, []) := by
  have hsent := @sendMessage_eq messaging [] .normal (by decide)
  exact ⟨hsent, handledMessage_ne_sent (by decide) hsent (by decide)
    ⟨0, 0, 0⟩⟩

end AbilityConnectionSession

end Dmsfwk
