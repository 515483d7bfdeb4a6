import Dmsfwk.AbilityConnectionInfo

/-!
# The life of a collaboration session

`AbilityConnectionSession` moves between three statuses.  Its operations are
called by the application, by the service, by the channels and by tasks it
posted itself, in any order.  Every operation is modelled with the list of
values it writes to `sessionStatus_`, so that a status which is taken only for
a moment is still seen; what channels, peers and services answer is part of
the events.
-/

namespace Dmsfwk

inductive SessionStatus where
  | unconnected
  | connecting
  | connected
  deriving DecidableEq, Repr

inductive MessageType where
  | normal
  | wifiOpen
  | updateRecvEngineChannel
  | updateSenderEngineChannel
  | receiveStreamStart
  | streamEncoding
  | connectFileChannel
  | fileChannelConnectSuccess
  | fileChannelConnectFailed
  | sessionConnectSuccess
  deriving DecidableEq, Repr

def MessageType.ofCode? (code : ℕ) : Option MessageType :=
  [.normal, .wifiOpen, .updateRecvEngineChannel, .updateSenderEngineChannel,
    .receiveStreamStart, .streamEncoding, .connectFileChannel,
    .fileChannelConnectSuccess, .fileChannelConnectFailed,
    .sessionConnectSuccess][code]?

structure TransChannelInfo where
  channelId : ℤ
  isConnected : Bool
  deriving DecidableEq, Repr

/-- A task posted by `ExeuteConnectCallback`: whether there was a callback,
and the result to report. -/
structure ConnectTask where
  hasCallback : Bool
  isConnected : Bool
  deriving DecidableEq, Repr

structure AbilityConnectionSession where
  sessionInfo : AbilityConnectionSessionInfo
  connectOption : ConnectOption
  sessionStatus : SessionStatus
  direction : CollabrateDirection
  dmsServerToken : Text
  transChannels : TransChannelType → Option TransChannelInfo
  connectCallback : Bool
  tasks : List ConnectTask

/-- What the channel manager answers while one event is handled: the id of a
created channel, the result of binding it, and the result of a message. -/
structure ChannelAnswers where
  createChannel : TransChannelType → ℤ
  connectChannel : TransChannelType → ℤ
  sendMessage : ℤ

/-- What `AcceptConnect` returns, and the result it sends back to the source
with `NotifyPrepareResult`. -/
structure AcceptAnswer where
  code : ℤ
  prepareResult : Option ℤ
  deriving DecidableEq, Repr

def allTransChannelTypes : List TransChannelType :=
  [.message, .data, .streamBytes, .stream, .sendFile, .receiveFile]

namespace AbilityConnectionSession

abbrev Written := List SessionStatus × AbilityConnectionSession

def create (sessionInfo : AbilityConnectionSessionInfo)
    (connectOption : ConnectOption) : AbilityConnectionSession :=
  { sessionInfo := sessionInfo
    connectOption := connectOption
    sessionStatus := .unconnected
    direction := .unknown
    dmsServerToken := []
    transChannels := fun _ => none
    connectCallback := false
    tasks := [] }

/-! ## Releasing and reporting -/

def setStatus (session : AbilityConnectionSession) (status : SessionStatus) :
    Written :=
  ([status], { session with sessionStatus := status })

def release (session : AbilityConnectionSession) : Written :=
  if session.sessionStatus = .unconnected then ([], session)
  else { session with transChannels := fun _ => none }.setStatus .unconnected

def exeuteConnectCallback (session : AbilityConnectionSession)
    (isConnected : Bool) : AbilityConnectionSession :=
  { session with
    tasks := session.tasks ++ [⟨session.connectCallback, isConnected⟩] }

def notifyAppConnectResult (session : AbilityConnectionSession)
    (isConnected : Bool) : Written :=
  let result :=
    if isConnected then session.setStatus .connected else session.release
  (result.1, result.2.exeuteConnectCallback isConnected)

def handleSessionConnect (session : AbilityConnectionSession) : Written :=
  if session.sessionStatus = .connected then ([], session)
  else session.setStatus .connected

/-! ## Channels -/

/-- `transChannels_.emplace`: an existing channel of the type stays. -/
def emplaceChannel (session : AbilityConnectionSession)
    (transType : TransChannelType) (channelId : ℤ) :
    AbilityConnectionSession :=
  if (session.transChannels transType).isSome then session
  else
    { session with
      transChannels := Function.update session.transChannels transType
        (some ⟨channelId, false⟩) }

def initChannels (createChannel : TransChannelType → ℤ)
    (session : AbilityConnectionSession) :
    List TransChannelType → CollabErr × AbilityConnectionSession
  | [] => (.errOk, session)
  | transType :: rest =>
      if ChannelManager.isValidChannelId (createChannel transType) then
        (session.emplaceChannel transType
          (createChannel transType)).initChannels createChannel rest
      else (transType.failure, session)

def updateTransChannelStatus (session : AbilityConnectionSession)
    (channelId : ℤ) (isConnected : Bool) : AbilityConnectionSession :=
  { session with
    transChannels := fun transType =>
      (session.transChannels transType).map fun info =>
        if info.channelId = channelId then
          { info with isConnected := isConnected }
        else info }

def connectTransChannel (connectChannel : TransChannelType → ℤ)
    (session : AbilityConnectionSession) (transType : TransChannelType) :
    Bool × AbilityConnectionSession :=
  match session.transChannels transType with
  | none => (false, session)
  | some info =>
      if connectChannel transType = 0 then
        (true, session.updateTransChannelStatus info.channelId true)
      else (false, session)

def connectChannelTypes (option : ConnectOption) : List TransChannelType :=
  [.message] ++ (if option.needSendData then [.data] else []) ++
    (if option.needSendStream || option.needReceiveStream
      then [.streamBytes] else []) ++
    (if option.needSendFile then [.sendFile] else [])

def connectChannels (connectChannel : TransChannelType → ℤ)
    (session : AbilityConnectionSession) :
    List TransChannelType → Bool × AbilityConnectionSession
  | [] => (true, session)
  | transType :: rest =>
      match session.connectTransChannel connectChannel transType with
      | (true, next) => next.connectChannels connectChannel rest
      | (false, next) => (false, next)

def isVaildChannel (session : AbilityConnectionSession) (channelId : ℤ) :
    Bool :=
  allTransChannelTypes.any fun transType =>
    (session.transChannels transType).any (·.channelId = channelId)

def isAllChannelConnected (session : AbilityConnectionSession) : Bool :=
  allTransChannelTypes.all fun transType =>
    transType = .stream ||
      (session.transChannels transType).all (·.isConnected)

def hasFileTransfer (option : ConnectOption) : Bool :=
  option.needSendFile || option.needReceiveFile

/-! ## Operations -/

def connect (session : AbilityConnectionSession) (token : Text)
    (callback : Bool) (updateClientSession : CollabErr)
    (getPeerVersion : ℤ) : ℤ × Written :=
  let session := { session with
    direction := .collabrateSource, dmsServerToken := token }
  if updateClientSession ≠ .errOk then
    (updateClientSession.code, [], session.exeuteConnectCallback false)
  else if session.sessionStatus ≠ .unconnected then
    (CollabErr.invalidParametersErr.code, [], session)
  else
    let result := session.setStatus .connecting
    let next := { result.2 with connectCallback := callback }
    (getPeerVersion, result.1,
      if getPeerVersion ≠ 0 then next.exeuteConnectCallback false else next)

/-- `AcceptConnect`, with the answers of the registry, of the channel manager
and of `NotifyPrepareResult`.  A busy session sends no answer at all. -/
def acceptConnect (session : AbilityConnectionSession) (token : Text)
    (updateServerSession : CollabErr) (createChannel : TransChannelType → ℤ)
    (notifyPrepareResult : ℤ) : AcceptAnswer × Written :=
  let session := { session with dmsServerToken := token }
  if updateServerSession ≠ .errOk then
    (⟨CollabErr.invalidParametersErr.code, some updateServerSession.code⟩,
      [], session)
  else if session.sessionStatus ≠ .unconnected then
    (⟨CollabErr.invalidParametersErr.code, none⟩, [], session)
  else
    let result := { session with
      direction := .collabrateSink }.setStatus .connecting
    match result.2.initChannels createChannel
        (initChannelTypes session.connectOption false) with
    | (err, next) =>
        if err ≠ .errOk then
          (⟨err.code, some err.code⟩,
            result.1 ++ next.release.1, next.release.2)
        else if notifyPrepareResult ≠ 0 then
          (⟨0, some 0⟩, result.1 ++ next.release.1, next.release.2)
        else (⟨0, some 0⟩, result.1, next)

def handlePeerVersion (session : AbilityConnectionSession)
    (collabMission : ℤ) : ℤ × Written :=
  (collabMission, [],
    if collabMission ≠ 0 then session.exeuteConnectCallback false
    else session)

/-- `HandleCollabResult`; only its last two exits report a success. -/
def handleCollabResult (session : AbilityConnectionSession) (result : ℤ)
    (dmsServerToken : Text) (answers : ChannelAnswers) : ℤ × Written :=
  let session := { session with dmsServerToken := dmsServerToken }
  let failed := fun next : AbilityConnectionSession =>
    (CollabErr.invalidParametersErr.code, next.notifyAppConnectResult false)
  if result ≠ 0 then failed session
  else
    match session.initChannels answers.createChannel
        (initChannelTypes session.connectOption
          (session.direction = .collabrateSource)) with
    | (err, opened) =>
        if err ≠ .errOk then failed opened
        else
          match opened.connectChannels answers.connectChannel
              (connectChannelTypes session.connectOption) with
          | (false, bound) => failed bound
          | (true, bound) =>
              if session.connectOption.needReceiveFile then
                (answers.sendMessage,
                  if answers.sendMessage ≠ 0 then
                    bound.notifyAppConnectResult false
                  else ([], bound))
              else (0, bound.notifyAppConnectResult true)

def disconnect (session : AbilityConnectionSession) : ℤ × Written :=
  (0, session.release)

def handleDisconnect (session : AbilityConnectionSession) : ℤ × Written :=
  (0, session.release)

def onChannelConnect (session : AbilityConnectionSession)
    (channelId : ℤ) : Written :=
  if session.isVaildChannel channelId then
    let next := session.updateTransChannelStatus channelId true
    if next.isAllChannelConnected && !hasFileTransfer session.connectOption
    then next.handleSessionConnect
    else ([], next)
  else ([], session)

def onChannelClosed (session : AbilityConnectionSession)
    (channelId : ℤ) : Written :=
  if session.isVaildChannel channelId ∧ session.sessionStatus = .connected
  then session.disconnect.2
  else ([], session)

def connectFileChannel (session : AbilityConnectionSession)
    (answers : ChannelAnswers) : Written :=
  if ChannelManager.isValidChannelId (answers.createChannel .sendFile) then
    match (session.emplaceChannel .sendFile
        (answers.createChannel .sendFile)).connectTransChannel
        answers.connectChannel .sendFile with
    | (false, next) => ([], next)
    | (true, next) => next.handleSessionConnect
  else ([], session)

/-- `OnMessageReceived`; `dataType` is the type in the message header, if the
header can be read.  The handlers that are not listed write no status. -/
def onMessageReceived (session : AbilityConnectionSession) (channelId : ℤ)
    (dataType : Option ℕ) (answers : ChannelAnswers) : Written :=
  if session.isVaildChannel channelId then
    match dataType.bind MessageType.ofCode? with
    | some .connectFileChannel => session.connectFileChannel answers
    | some .fileChannelConnectSuccess => session.notifyAppConnectResult true
    | some .fileChannelConnectFailed => session.notifyAppConnectResult false
    | some .sessionConnectSuccess => session.handleSessionConnect
    | _ => ([], session)
  else ([], session)

def runConnectTask (session : AbilityConnectionSession)
    (task : ConnectTask) : Written :=
  if task.hasCallback && !task.isConnected then session.release
  else ([], session)

/-! ## Runs -/

inductive SessionEvent where
  | connect (token : Text) (callback : Bool)
      (updateClientSession : CollabErr) (getPeerVersion : ℤ)
  | acceptConnect (token : Text) (updateServerSession : CollabErr)
      (createChannel : TransChannelType → ℤ) (notifyPrepareResult : ℤ)
  | handlePeerVersion (collabMission : ℤ)
  | handleCollabResult (result : ℤ) (dmsServerToken : Text)
      (answers : ChannelAnswers)
  | disconnect
  | handleDisconnect
  | onChannelConnect (channelId : ℤ)
  | onChannelClosed (channelId : ℤ)
  | onMessageReceived (channelId : ℤ) (dataType : Option ℕ)
      (answers : ChannelAnswers)
  | streamChannelBound (channelId : ℤ)
  | timeout
  | runTask

def SessionEvent.opens : SessionEvent → Bool
  | .connect _ _ _ _ => true
  | .acceptConnect _ _ _ _ => true
  | _ => false

def step (session : AbilityConnectionSession) : SessionEvent → Written
  | .connect token callback updateClientSession getPeerVersion =>
      (session.connect token callback updateClientSession getPeerVersion).2
  | .acceptConnect token updateServerSession createChannel
      notifyPrepareResult =>
      (session.acceptConnect token updateServerSession createChannel
        notifyPrepareResult).2
  | .handlePeerVersion collabMission =>
      (session.handlePeerVersion collabMission).2
  | .handleCollabResult result dmsServerToken answers =>
      (session.handleCollabResult result dmsServerToken answers).2
  | .disconnect => session.disconnect.2
  | .handleDisconnect => session.handleDisconnect.2
  | .onChannelConnect channelId => session.onChannelConnect channelId
  | .onChannelClosed channelId => session.onChannelClosed channelId
  | .onMessageReceived channelId dataType answers =>
      session.onMessageReceived channelId dataType answers
  | .streamChannelBound channelId =>
      ([], session.updateTransChannelStatus channelId true)
  | .timeout => session.release
  | .runTask =>
      match session.tasks with
      | [] => ([], session)
      | task :: rest => { session with tasks := rest }.runConnectTask task

/-! ## The writes account for the status -/

section Status

variable (session : AbilityConnectionSession)

/-- The status is the one written last, and the description of a session never
changes. -/
structure Writes (exit : Written) : Prop where
  status : exit.2.sessionStatus = exit.1.getLastD session.sessionStatus
  sessionInfo : exit.2.sessionInfo = session.sessionInfo

theorem writes_release : session.Writes session.release := by
  unfold release
  split_ifs
  · exact ⟨rfl, rfl⟩
  · exact ⟨rfl, rfl⟩

theorem released_release :
    session.release.2.sessionStatus = .unconnected := by
  unfold release
  split_ifs with hstatus
  · exact hstatus
  · rfl

theorem writes_notifyAppConnectResult (isConnected : Bool) :
    session.Writes (session.notifyAppConnectResult isConnected) := by
  cases isConnected with
  | false =>
      obtain ⟨hstatus, hinfo⟩ := session.writes_release
      exact ⟨hstatus, hinfo⟩
  | true => exact ⟨rfl, rfl⟩

theorem writes_handleSessionConnect :
    session.Writes session.handleSessionConnect := by
  unfold handleSessionConnect
  split_ifs
  · exact ⟨rfl, rfl⟩
  · exact ⟨rfl, rfl⟩

/-! ## The exits of the longer operations

Opening and binding channels changes nothing but `transChannels_`.
-/

theorem emplaceChannel_eq (transType : TransChannelType) (channelId : ℤ) :
    ∃ channels, session.emplaceChannel transType channelId =
      { session with transChannels := channels } := by
  unfold emplaceChannel
  split_ifs
  · exact ⟨session.transChannels, rfl⟩
  · exact ⟨_, rfl⟩

theorem initChannels_eq (createChannel : TransChannelType → ℤ)
    (transTypes : List TransChannelType) :
    ∃ err channels, session.initChannels createChannel transTypes =
      (err, { session with transChannels := channels }) := by
  induction transTypes generalizing session with
  | nil => exact ⟨.errOk, session.transChannels, rfl⟩
  | cons transType rest ih =>
      rw [initChannels]
      split_ifs
      · obtain ⟨emplaced, hemplaced⟩ := session.emplaceChannel_eq transType
          (createChannel transType)
        obtain ⟨err, channels, hopened⟩ :=
          ih { session with transChannels := emplaced }
        exact ⟨err, channels, by rw [hemplaced, hopened]⟩
      · exact ⟨transType.failure, session.transChannels, rfl⟩

theorem connectTransChannel_eq (connectChannel : TransChannelType → ℤ)
    (transType : TransChannelType) :
    ∃ success channels,
      session.connectTransChannel connectChannel transType =
        (success, { session with transChannels := channels }) := by
  unfold connectTransChannel
  cases session.transChannels transType with
  | none => exact ⟨false, session.transChannels, rfl⟩
  | some info =>
      simp only
      split_ifs
      · exact ⟨true, _, rfl⟩
      · exact ⟨false, session.transChannels, rfl⟩

theorem connectChannels_eq (connectChannel : TransChannelType → ℤ)
    (transTypes : List TransChannelType) :
    ∃ success channels,
      session.connectChannels connectChannel transTypes =
        (success, { session with transChannels := channels }) := by
  induction transTypes generalizing session with
  | nil => exact ⟨true, session.transChannels, rfl⟩
  | cons transType rest ih =>
      obtain ⟨success, bound, hbound⟩ :=
        session.connectTransChannel_eq connectChannel transType
      rw [connectChannels, hbound]
      cases success with
      | false => exact ⟨false, bound, rfl⟩
      | true => exact ih { session with transChannels := bound }

def accepting (token : Text)
    (channels : TransChannelType → Option TransChannelInfo) :
    AbilityConnectionSession :=
  { session with
    dmsServerToken := token
    sessionStatus := .connecting
    direction := .collabrateSink
    transChannels := channels }

theorem acceptConnect_cases (token : Text)
    (updateServerSession : CollabErr) (createChannel : TransChannelType → ℤ)
    (notifyPrepareResult : ℤ) :
    ((updateServerSession ≠ .errOk ∨ session.sessionStatus ≠ .unconnected) ∧
        (session.acceptConnect token updateServerSession createChannel
          notifyPrepareResult).2 =
            ([], { session with dmsServerToken := token })) ∨
      (updateServerSession = .errOk ∧
        session.sessionStatus = .unconnected ∧
        ∃ channels,
          ((session.acceptConnect token updateServerSession createChannel
              notifyPrepareResult).2 =
                (.connecting :: (session.accepting token channels).release.1,
                  (session.accepting token channels).release.2) ∨
            (session.acceptConnect token updateServerSession createChannel
              notifyPrepareResult).2 =
                ([.connecting], session.accepting token channels))) := by
  unfold acceptConnect
  simp only
  by_cases hrefused : updateServerSession ≠ .errOk
  · rw [if_pos hrefused]
    exact Or.inl ⟨Or.inl hrefused, rfl⟩
  rw [if_neg hrefused]
  by_cases hbusy : session.sessionStatus ≠ .unconnected
  · rw [if_pos hbusy]
    exact Or.inl ⟨Or.inr hbusy, rfl⟩
  rw [if_neg hbusy]
  refine Or.inr ⟨not_not.mp hrefused, not_not.mp hbusy, ?_⟩
  generalize hopened : initChannels createChannel _ _ = opened
  obtain ⟨err, channels, heq⟩ := initChannels_eq _ createChannel _
  rw [heq] at hopened
  subst hopened
  refine ⟨channels, ?_⟩
  simp only
  split_ifs
  · exact Or.inl rfl
  · exact Or.inl rfl
  · exact Or.inr rfl

theorem handleCollabResult_cases (result : ℤ) (dmsServerToken : Text)
    (answers : ChannelAnswers) :
    (result ≠ 0 ∧
      (session.handleCollabResult result dmsServerToken answers).2 =
        { session with
          dmsServerToken := dmsServerToken }.notifyAppConnectResult false) ∨
      (result = 0 ∧ ∃ channels,
        ((session.handleCollabResult result dmsServerToken answers).2 =
            { session with
              dmsServerToken := dmsServerToken
              transChannels := channels }.notifyAppConnectResult false ∨
          (session.handleCollabResult result dmsServerToken answers).2 =
            ([], { session with
              dmsServerToken := dmsServerToken
              transChannels := channels }) ∨
          (session.handleCollabResult result dmsServerToken answers).2 =
            { session with
              dmsServerToken := dmsServerToken
              transChannels := channels }.notifyAppConnectResult true)) := by
  unfold handleCollabResult
  simp only
  by_cases hnegative : result ≠ 0
  · rw [if_pos hnegative]
    exact Or.inl ⟨hnegative, rfl⟩
  rw [if_neg hnegative]
  refine Or.inr ⟨not_not.mp hnegative, ?_⟩
  generalize hinit : initChannels answers.createChannel _ _ = opened
  obtain ⟨err, channels, heq⟩ := initChannels_eq _ answers.createChannel _
  rw [heq] at hinit
  subst hinit
  by_cases herr : err ≠ .errOk
  · simp only [if_pos herr]
    exact ⟨channels, Or.inl rfl⟩
  simp only [if_neg herr]
  generalize hconnect : connectChannels answers.connectChannel _ _ = bound
  obtain ⟨success, channels, heq⟩ :=
    connectChannels_eq _ answers.connectChannel _
  rw [heq] at hconnect
  subst hconnect
  refine ⟨channels, ?_⟩
  cases success with
  | false => exact Or.inl rfl
  | true =>
      simp only
      split_ifs
      · exact Or.inl rfl
      · exact Or.inr (Or.inl rfl)
      · exact Or.inr (Or.inr rfl)

theorem connectFileChannel_cases (answers : ChannelAnswers) :
    ∃ channels,
      (session.connectFileChannel answers =
          ([], { session with transChannels := channels }) ∨
        session.connectFileChannel answers =
          { session with transChannels := channels }.handleSessionConnect) := by
  unfold connectFileChannel
  split_ifs
  · obtain ⟨emplaced, hemplaced⟩ := session.emplaceChannel_eq .sendFile
      (answers.createChannel .sendFile)
    obtain ⟨success, channels, hbound⟩ :=
      { session with transChannels := emplaced }.connectTransChannel_eq
        answers.connectChannel .sendFile
    rw [hemplaced, hbound]
    refine ⟨channels, ?_⟩
    cases success with
    | false => exact Or.inl rfl
    | true => exact Or.inr rfl
  · exact ⟨session.transChannels, Or.inl rfl⟩

theorem writes_acceptConnect (token : Text)
    (updateServerSession : CollabErr) (createChannel : TransChannelType → ℤ)
    (notifyPrepareResult : ℤ) :
    session.Writes (session.acceptConnect token updateServerSession
      createChannel notifyPrepareResult).2 := by
  rcases session.acceptConnect_cases token updateServerSession createChannel
    notifyPrepareResult with
    ⟨-, hexit⟩ | ⟨-, -, channels, hexit | hexit⟩
  · rw [hexit]
    exact ⟨rfl, rfl⟩
  · obtain ⟨hstatus, hinfo⟩ := (session.accepting token channels).writes_release
    rw [hexit]
    refine ⟨?_, hinfo⟩
    rw [List.getLastD_cons]
    exact hstatus
  · rw [hexit]
    exact ⟨rfl, rfl⟩

theorem writes_handleCollabResult (result : ℤ) (dmsServerToken : Text)
    (answers : ChannelAnswers) :
    session.Writes
      (session.handleCollabResult result dmsServerToken answers).2 := by
  rcases session.handleCollabResult_cases result dmsServerToken answers with
    ⟨-, hexit⟩ | ⟨-, channels, hexit | hexit | hexit⟩
  · rw [hexit]
    obtain ⟨hstatus, hinfo⟩ := writes_notifyAppConnectResult _ false
    exact ⟨hstatus, hinfo⟩
  · rw [hexit]
    obtain ⟨hstatus, hinfo⟩ := writes_notifyAppConnectResult _ false
    exact ⟨hstatus, hinfo⟩
  · rw [hexit]
    exact ⟨rfl, rfl⟩
  · rw [hexit]
    obtain ⟨hstatus, hinfo⟩ := writes_notifyAppConnectResult _ true
    exact ⟨hstatus, hinfo⟩

theorem writes_onMessageReceived (channelId : ℤ) (dataType : Option ℕ)
    (answers : ChannelAnswers) :
    session.Writes (session.onMessageReceived channelId dataType answers) := by
  unfold onMessageReceived
  split_ifs
  · split
    · obtain ⟨channels, hexit | hexit⟩ :=
        session.connectFileChannel_cases answers
      · rw [hexit]
        exact ⟨rfl, rfl⟩
      · rw [hexit]
        obtain ⟨hstatus, hinfo⟩ := writes_handleSessionConnect
          { session with transChannels := channels }
        exact ⟨hstatus, hinfo⟩
    · exact session.writes_notifyAppConnectResult true
    · exact session.writes_notifyAppConnectResult false
    · exact session.writes_handleSessionConnect
    · exact ⟨rfl, rfl⟩
  · exact ⟨rfl, rfl⟩

theorem writes_step (event : SessionEvent) :
    session.Writes (session.step event) := by
  cases event with
  | connect token callback updateClientSession getPeerVersion =>
      simp only [step, connect]
      split_ifs <;> exact ⟨rfl, rfl⟩
  | acceptConnect token updateServerSession createChannel
      notifyPrepareResult =>
      exact session.writes_acceptConnect token updateServerSession
        createChannel notifyPrepareResult
  | handlePeerVersion collabMission =>
      simp only [step, handlePeerVersion]
      split_ifs <;> exact ⟨rfl, rfl⟩
  | handleCollabResult result dmsServerToken answers =>
      exact session.writes_handleCollabResult result dmsServerToken answers
  | disconnect => exact session.writes_release
  | handleDisconnect => exact session.writes_release
  | onChannelConnect channelId =>
      simp only [step, onChannelConnect]
      split_ifs
      · obtain ⟨hstatus, hinfo⟩ := writes_handleSessionConnect
          (session.updateTransChannelStatus channelId true)
        exact ⟨hstatus, hinfo⟩
      · exact ⟨rfl, rfl⟩
      · exact ⟨rfl, rfl⟩
  | onChannelClosed channelId =>
      simp only [step, onChannelClosed]
      split_ifs
      · exact session.writes_release
      · exact ⟨rfl, rfl⟩
  | onMessageReceived channelId dataType answers =>
      exact session.writes_onMessageReceived channelId dataType answers
  | streamChannelBound channelId => exact ⟨rfl, rfl⟩
  | timeout => exact session.writes_release
  | runTask =>
      simp only [step]
      cases htasks : session.tasks with
      | nil => exact ⟨rfl, rfl⟩
      | cons task rest =>
          simp only [runConnectTask]
          split_ifs
          · obtain ⟨hstatus, hinfo⟩ := writes_release
              { session with tasks := rest }
            exact ⟨hstatus, hinfo⟩
          · exact ⟨rfl, rfl⟩

theorem status_step (event : SessionEvent) :
    (session.step event).2.sessionStatus =
      (session.step event).1.getLastD session.sessionStatus :=
  (session.writes_step event).status

theorem sessionInfo_step (event : SessionEvent) :
    (session.step event).2.sessionInfo = session.sessionInfo :=
  (session.writes_step event).sessionInfo

theorem sessionInfo_acceptConnect (token : Text)
    (updateServerSession : CollabErr) (createChannel : TransChannelType → ℤ)
    (notifyPrepareResult : ℤ) :
    (session.acceptConnect token updateServerSession createChannel
        notifyPrepareResult).2.2.sessionInfo = session.sessionInfo :=
  (session.writes_acceptConnect token updateServerSession createChannel
    notifyPrepareResult).sessionInfo

theorem status_ne_connect (token : Text) (callback : Bool)
    (getPeerVersion : ℤ) :
    (session.connect token callback .errOk
      getPeerVersion).2.2.sessionStatus ≠ .unconnected := by
  unfold connect
  simp only
  rw [if_neg (not_not.mpr rfl)]
  by_cases hbusy : session.sessionStatus ≠ .unconnected
  · rw [if_pos hbusy]
    exact hbusy
  · rw [if_neg hbusy]
    split_ifs
    · exact SessionStatus.noConfusion
    · exact SessionStatus.noConfusion

theorem status_ne_acceptConnect {token : Text}
    {createChannel : TransChannelType → ℤ} {notifyPrepareResult : ℤ}
    (hkept : .unconnected ∉ (session.acceptConnect token .errOk createChannel
      notifyPrepareResult).2.1) :
    (session.acceptConnect token .errOk createChannel
      notifyPrepareResult).2.2.sessionStatus ≠ .unconnected := by
  rcases session.acceptConnect_cases token .errOk createChannel
    notifyPrepareResult with
    ⟨hrefused | hbusy, hexit⟩ | ⟨-, -, channels, hexit | hexit⟩
  · exact absurd rfl hrefused
  · rw [hexit]
    exact hbusy
  · rw [hexit] at hkept
    simp [release, accepting, setStatus] at hkept
  · rw [hexit]
    exact SessionStatus.noConfusion

theorem status_ne_step {event : SessionEvent}
    (hlive : session.sessionStatus ≠ .unconnected)
    (hkept : .unconnected ∉ (session.step event).1) :
    (session.step event).2.sessionStatus ≠ .unconnected := by
  rw [session.status_step event]
  intro hreleased
  have hmem := @List.getLastD_mem_cons _ (session.step event).1
    session.sessionStatus
  rw [hreleased, List.mem_cons] at hmem
  rcases hmem with hstatus | hmem
  · exact hlive hstatus.symm
  · exact hkept hmem

end Status

/-! ## What an accepting session answers -/

section Answers

variable (session : AbilityConnectionSession)

theorem initChannels_err (createChannel : TransChannelType → ℤ)
    (transTypes : List TransChannelType) :
    (session.initChannels createChannel transTypes).1 = .errOk ∨
      ∃ transType : TransChannelType,
        (session.initChannels createChannel transTypes).1 =
          transType.failure := by
  induction transTypes generalizing session with
  | nil => exact Or.inl rfl
  | cons transType rest ih =>
      rw [initChannels]
      split_ifs
      · exact ih _
      · exact Or.inr ⟨transType, rfl⟩

theorem initChannels_of_valid {createChannel : TransChannelType → ℤ}
    (hvalid : ∀ transType,
      ChannelManager.isValidChannelId (createChannel transType) = true)
    (transTypes : List TransChannelType) :
    (session.initChannels createChannel transTypes).1 = .errOk := by
  induction transTypes generalizing session with
  | nil => rfl
  | cons transType rest ih =>
      rw [initChannels, if_pos (hvalid transType)]
      exact ih _

theorem prepareResult_acceptConnect (token : Text)
    (createChannel : TransChannelType → ℤ) (notifyPrepareResult : ℤ) :
    (session.acceptConnect token .errOk createChannel
        notifyPrepareResult).1.prepareResult =
      if session.sessionStatus = .unconnected then
        some ({ session with
          dmsServerToken := token
          sessionStatus := .connecting
          direction := .collabrateSink }.initChannels createChannel
            (initChannelTypes session.connectOption false)).1.code
      else none := by
  unfold acceptConnect
  simp only
  rw [if_neg (not_not.mpr rfl)]
  by_cases hbusy : session.sessionStatus ≠ .unconnected
  · rw [if_pos hbusy, if_neg hbusy]
  rw [if_neg hbusy, if_pos (not_not.mp hbusy)]
  obtain ⟨err, channels, hopened⟩ := { session with
    dmsServerToken := token
    sessionStatus := .connecting
    direction := .collabrateSink }.initChannels_eq createChannel
      (initChannelTypes session.connectOption false)
  simp only [setStatus, hopened]
  by_cases herr : err ≠ .errOk
  · rw [if_pos herr]
  · rw [if_neg herr, not_not.mp herr]
    split_ifs <;> rfl

theorem prepareResult_ne_sameSession (token : Text)
    (createChannel : TransChannelType → ℤ) (notifyPrepareResult : ℤ) :
    (session.acceptConnect token .errOk createChannel
        notifyPrepareResult).1.prepareResult ≠
      some CollabErr.sameSessionIsConnecting.code := by
  rw [prepareResult_acceptConnect]
  split_ifs
  · rcases initChannels_err _ createChannel _ with herr | ⟨transType, herr⟩
    · rw [herr]
      decide
    · rw [herr]
      cases transType <;> decide
  · exact nofun

theorem unconnected_not_mem_acceptConnect {token : Text}
    {createChannel : TransChannelType → ℤ}
    (hanswer : (session.acceptConnect token .errOk createChannel
      0).1.prepareResult = some 0) :
    .unconnected ∉ (session.acceptConnect token .errOk createChannel
      0).2.1 := by
  rw [prepareResult_acceptConnect] at hanswer
  split_ifs at hanswer with hstatus
  obtain ⟨err, channels, hopened⟩ := { session with
    dmsServerToken := token
    sessionStatus := .connecting
    direction := .collabrateSink }.initChannels_eq createChannel
      (initChannelTypes session.connectOption false)
  rw [hopened] at hanswer
  have herr : err = .errOk :=
    CollabErr.eq_errOk_of_code (Option.some.inj hanswer)
  unfold acceptConnect
  simp only [setStatus, hopened, herr, hstatus]
  simp

/-! ## What a connecting session writes -/

theorem unconnected_not_mem_connect (token : Text) (callback : Bool)
    (updateClientSession : CollabErr) (getPeerVersion : ℤ) :
    .unconnected ∉ (session.connect token callback updateClientSession
      getPeerVersion).2.1 := by
  unfold connect
  simp only
  split_ifs <;> simp [setStatus]

theorem dmsServerToken_connect (token : Text) (callback : Bool)
    (updateClientSession : CollabErr) (getPeerVersion : ℤ) :
    (session.connect token callback updateClientSession
      getPeerVersion).2.2.dmsServerToken = token := by
  unfold connect
  simp only
  split_ifs <;> rfl

end Answers

end AbilityConnectionSession

end Dmsfwk
