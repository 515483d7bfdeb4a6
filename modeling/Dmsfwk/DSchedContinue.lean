import Dmsfwk.ChannelManager

/-!
# One continuation

`DSchedContinue` with its state machine, on the source and on the sink.  The
handlers of the states return the code which `ProcessEvent` looks at, what they
did to the rest of the system, and the next continuation; the codes they were
given by the rest of the system are arguments.
-/

namespace Dmsfwk

structure DSchedContinueInfo where
  sourceDeviceId : Text
  sourceBundleName : Text
  sinkDeviceId : Text
  sinkBundleName : Text
  continueType : Text
  missionId : ℤ := 0
  deriving DecidableEq, Repr

namespace Continuation

/-! ## Data model -/

def errOk : ℤ := 0
def invalidParametersErr : ℤ := 29360128
def invalidRemoteParametersErr : ℤ := 29360131
def continueAbilityTimeoutErr : ℤ := 29360153
def continueAlreadyInProgress : ℤ := 29360223
def continueStateMachineInvalidState : ℤ := 29360226
def continueSessionShutdown : ℤ := 29360227
def continueCallContinueAbilityFailed : ℤ := 29360228
def continueCallStartAbilityFailed : ℤ := 29360229
def continueSinkAbilityTerminated : ℤ := 29360230
def dmsGetWindowFailedFromScb : ℤ := 29360238

inductive Direction where
  | source
  | sink
  deriving DecidableEq, Repr

inductive SubType where
  | pull
  | push
  deriving DecidableEq, Repr

inductive StateType where
  | sourceStart
  | ability
  | sourceWaitEnd
  | sourceEnd
  | sinkStart
  | data
  | sinkWaitEnd
  | sinkEnd
  deriving DecidableEq, Repr

/-- The parts of the want saved by the source ability which the continuation
looks at: the parameter about leaving the source and the continuation flag. -/
structure SavedWant where
  sourceExit : Option Bool
  continuationFlag : Bool
  deriving DecidableEq, Repr

inductive Event where
  | reqPull
  | data
  | reqPush
  | ability (appVersion : ℤ)
  | sendData (want : SavedWant)
  | complete (result : ℤ)
  | ended (result : ℤ)
  deriving DecidableEq, Repr

inductive CmdType where
  | start
  | data
  | reply
  | ended
  deriving DecidableEq, Repr

inductive Cmd where
  | start (info : DSchedContinueInfo) (subServiceType : SubType)
      (direction : Direction) (appVersion : ℤ)
  | data
  | reply (replyCmd : CmdType) (appVersion : ℤ) (result : ℤ)
  | ended (result : ℤ)
  deriving DecidableEq, Repr

inductive Effect where
  | quickStartAbility
  | connectDevice (ret : ℤ)
  | disconnectDevice
  | sendCommand (cmd : Cmd) (ret : ℤ)
  | continueAbility (missionId : ℤ) (appVersion : ℤ) (ret : ℤ)
  | startAbility (ret : ℤ)
  | onNotifyComplete (result : ℤ)
  | executeContinueEnd (result : ℤ)
  | cleanMission (missionId : ℤ)
  | notifyContinuationCallbackResult (result : ℤ)
  deriving DecidableEq, Repr

structure Answers where
  connectDevice : ℤ := 0
  getLocalBundleInfo : ℤ := 0
  versionCode : ℤ := 0
  sendCommand : ℤ := 0
  getMissionIdByBundleName : ℤ := 0
  missionId : ℤ := 0
  checkContinueAbilityPermission : ℤ := 0
  continueAbility : ℤ := 0
  setWantForContinuation : ℤ := 0
  getCallerAppIdFromBms : Bool := true
  getBundleNameListFromBms : Bool := true
  getAccountInfo : ℤ := 0
  checkDeviceIdFromRemote : Bool := true
  checkStartPermission : ℤ := 0
  hasContinueSessionId : Bool := false
  getPersistentId : ℤ := 0
  getPersistentIdAgain : ℤ := 0
  connectAbilityManager : ℤ := 0
  startAbility : ℤ := 0
  writeCallbackResult : Bool := true
  deriving DecidableEq, Repr

/-- `DSchedContinue`.  `callback` tells whether a client waits for the result;
`ended` whether the manager was told to remove the continuation, and `removed`
whether it has done so. -/
structure DSchedContinue where
  subServiceType : SubType
  direction : Direction
  continueInfo : DSchedContinueInfo
  isSourceExit : Bool
  callback : Bool
  state : StateType
  queue : List Event
  ended : Bool
  removed : Bool
  deriving DecidableEq, Repr

namespace DSchedContinue

def startState : Direction → StateType
  | .source => .sourceStart
  | .sink => .sinkStart

def ofRequest (direction : Direction) (info : DSchedContinueInfo) :
    DSchedContinue where
  subServiceType := if direction = .source then .push else .pull
  direction := direction
  continueInfo := info
  isSourceExit := true
  callback := true
  state := startState direction
  queue := [if direction = .source then .reqPush else .reqPull]
  ended := false
  removed := false

/-- The bundle of the mission stands in for missing bundle names, when the
ability manager knows it. -/
def fillBundleNames (missionBundle : Option Text) (info : DSchedContinueInfo) :
    DSchedContinueInfo :=
  if info.sourceBundleName = [] ∧ info.sinkBundleName = [] ∧
      info.missionId ≠ 0 then
    match missionBundle with
    | some bundle =>
        { info with sourceBundleName := bundle, sinkBundleName := bundle }
    | none => info
  else info

def ofStartCmd (missionBundle : Option Text) (info : DSchedContinueInfo)
    (subServiceType : SubType) (direction : Direction) (appVersion : ℤ) :
    DSchedContinue :=
  let own := if direction = .source then .sink else .source
  { subServiceType := subServiceType
    direction := own
    continueInfo := fillBundleNames missionBundle info
    isSourceExit := true
    callback := false
    state := startState own
    queue := [.ability appVersion]
    ended := false
    removed := false }

/-! ## Handlers -/

abbrev ExeResult := ℤ × List Effect × DSchedContinue

def post (continuation : DSchedContinue) (event : Event) : DSchedContinue :=
  { continuation with queue := continuation.queue ++ [event] }

def onContinueEnd (continuation : DSchedContinue) (result : ℤ) :
    DSchedContinue :=
  continuation.post (.ended result)

def updateState (continuation : DSchedContinue) (state : StateType) :
    DSchedContinue :=
  { continuation with state := state }

def quickStartConfiguration : Text := "_ContinueQuickStart".toList

def checkQuickStartConfiguration (continuation : DSchedContinue) : Bool :=
  quickStartConfiguration.isSuffixOf continuation.continueInfo.continueType

def packStartCmd (answers : Answers) (continuation : DSchedContinue) :
    Except ℤ Cmd :=
  let cmd := Cmd.start continuation.continueInfo continuation.subServiceType
    continuation.direction
  if continuation.subServiceType = .pull ∧
      continuation.continueInfo.missionId = 0 then
    if answers.getLocalBundleInfo ≠ errOk then
      .error answers.getLocalBundleInfo
    else .ok (cmd answers.versionCode)
  else .ok (cmd 0)

def quickStart (continuation : DSchedContinue) : List Effect :=
  if continuation.subServiceType = .pull ∧
      continuation.checkQuickStartConfiguration then [.quickStartAbility]
  else []

def executeContinueReq (answers : Answers) (continuation : DSchedContinue) :
    ExeResult :=
  let effects :=
    continuation.quickStart ++ [.connectDevice answers.connectDevice]
  if answers.connectDevice ≠ errOk then
    (answers.connectDevice, effects, continuation)
  else
    match continuation.packStartCmd answers with
    | .error ret => (ret, effects, continuation)
    | .ok cmd =>
        let effects := effects ++ [.sendCommand cmd answers.sendCommand]
        if answers.sendCommand ≠ errOk then
          (answers.sendCommand, effects, continuation)
        else if continuation.direction = .sink then
          (errOk, effects, continuation.updateState .data)
        else (errOk, effects, continuation)

/-- `GetMissionIdByBundleName` looks the mission up only when it is unknown. -/
def getMissionIdByBundleName (answers : Answers)
    (continuation : DSchedContinue) : ℤ × DSchedContinue :=
  if continuation.continueInfo.missionId = 0 then
    (answers.getMissionIdByBundleName,
      { continuation with
        continueInfo :=
          { continuation.continueInfo with missionId := answers.missionId } })
  else (errOk, continuation)

def executeContinueAbility (answers : Answers) (appVersion : ℤ)
    (continuation : DSchedContinue) : ExeResult :=
  let (result, continuation) := continuation.getMissionIdByBundleName answers
  if result ≠ errOk then (result, [], continuation)
  else if answers.checkContinueAbilityPermission ≠ errOk then
    (answers.checkContinueAbilityPermission, [], continuation)
  else
    let effects := [.continueAbility continuation.continueInfo.missionId
      appVersion answers.continueAbility]
    if answers.continueAbility ≠ errOk then
      (continueCallContinueAbilityFailed, effects, continuation)
    else (errOk, effects, continuation.updateState .ability)

def executeContinueReply (answers : Answers) (continuation : DSchedContinue) :
    ExeResult :=
  if answers.getLocalBundleInfo ≠ errOk then
    (invalidParametersErr, [], continuation)
  else
    let effects := [.sendCommand (.reply .start answers.versionCode errOk)
      answers.sendCommand]
    if answers.sendCommand ≠ errOk then
      (answers.sendCommand, effects, continuation)
    else (errOk, effects, continuation.updateState .data)

def setCleanMissionFlag (want : SavedWant) (continuation : DSchedContinue) :
    DSchedContinue :=
  { continuation with
    isSourceExit := want.sourceExit.getD continuation.isSourceExit }

def executeContinueSend (answers : Answers) (want : SavedWant)
    (continuation : DSchedContinue) : ExeResult :=
  let continuation := continuation.setCleanMissionFlag want
  if !want.continuationFlag then
    (invalidRemoteParametersErr, [], continuation)
  else if answers.setWantForContinuation ≠ errOk then
    (invalidParametersErr, [], continuation)
  else if !answers.getCallerAppIdFromBms then
    (invalidParametersErr, [], continuation)
  else if !answers.getBundleNameListFromBms then
    (invalidParametersErr, [], continuation)
  else if answers.getAccountInfo ≠ errOk then
    (answers.getAccountInfo, [], continuation)
  else
    let effects := [.sendCommand .data answers.sendCommand]
    if answers.sendCommand ≠ errOk then
      (answers.sendCommand, effects, continuation)
    else (errOk, effects, continuation.updateState .sourceWaitEnd)

def startAbility (answers : Answers) : ℤ × List Effect :=
  if answers.connectAbilityManager ≠ errOk then
    (answers.connectAbilityManager, [])
  else (answers.startAbility, [.startAbility answers.startAbility])

/-- `ExecuteContinueData`.  The window of a quick-started ability is looked up
twice, before and after the wait for its initial state. -/
def executeContinueData (answers : Answers) (continuation : DSchedContinue) :
    ExeResult :=
  if !answers.checkDeviceIdFromRemote then
    (invalidRemoteParametersErr, [], continuation)
  else if answers.checkStartPermission ≠ errOk then
    (answers.checkStartPermission, [], continuation)
  else if continuation.subServiceType = .pull ∧
      answers.hasContinueSessionId ∧
      (answers.getPersistentId ≠ errOk ∨
        answers.getPersistentIdAgain ≠ errOk) then
    (errOk, [], continuation.onContinueEnd dmsGetWindowFailedFromScb)
  else
    let result := startAbility answers
    if result.1 = errOk then
      (result.1, result.2, continuation.updateState .sinkWaitEnd)
    else (result.1, result.2, continuation)

def executeNotifyComplete (answers : Answers) (result : ℤ)
    (continuation : DSchedContinue) : ExeResult :=
  if continuation.direction = .sink then
    let effects := [.sendCommand (.ended result) answers.sendCommand]
    if answers.sendCommand ≠ errOk then
      (answers.sendCommand, effects, continuation)
    else (errOk, effects, continuation.updateState .sinkEnd)
  else
    let effects := [.sendCommand (.reply .ended 0 result) answers.sendCommand]
    if answers.sendCommand ≠ errOk then
      (answers.sendCommand, effects, continuation)
    else
      (errOk, effects,
        (continuation.updateState .sourceEnd).onContinueEnd result)

def isInitiator (continuation : DSchedContinue) : Bool :=
  (continuation.subServiceType = .pull ∧ continuation.direction = .sink) ∨
    (continuation.subServiceType = .push ∧ continuation.direction = .source)

def notifyContinuationCallbackResult (answers : Answers) (result : ℤ)
    (continuation : DSchedContinue) : List Effect × DSchedContinue :=
  if continuation.callback ∧ answers.writeCallbackResult then
    ([.notifyContinuationCallbackResult result],
      { continuation with callback := false })
  else ([], continuation)

/-- `ExecuteContinueEnd` leaves the state as it is and asks the manager to
remove the continuation. -/
def executeContinueEnd (answers : Answers) (result : ℤ)
    (continuation : DSchedContinue) : ExeResult :=
  let disconnect : List Effect :=
    if continuation.isInitiator then [.disconnectDevice] else []
  let clean : List Effect :=
    if result = errOk ∧ continuation.direction = .source ∧
        continuation.isSourceExit then
      [.cleanMission continuation.continueInfo.missionId]
    else []
  let notify := continuation.notifyContinuationCallbackResult answers result
  (errOk, .executeContinueEnd result :: (disconnect ++ clean ++ notify.1),
    { notify.2 with ended := true })

def executeContinueError (answers : Answers) (result : ℤ)
    (continuation : DSchedContinue) : ExeResult :=
  let endState : StateType :=
    if continuation.direction = .source then .sourceEnd else .sinkEnd
  (errOk, [.sendCommand (.ended result) answers.sendCommand],
    (continuation.updateState endState).onContinueEnd result)

/-- `DSchedContinueStateMachine::Execute` with the function tables of all
states. -/
def execute (answers : Answers) (continuation : DSchedContinue)
    (event : Event) : ExeResult :=
  match continuation.state, event with
  | .sourceStart, .reqPush => continuation.executeContinueReq answers
  | .sourceStart, .ability appVersion =>
      continuation.executeContinueAbility answers appVersion
  | .sourceStart, .complete result =>
      continuation.executeContinueEnd answers result
  | .sourceStart, .ended result =>
      continuation.executeContinueError answers result
  | .ability, .sendData want => continuation.executeContinueSend answers want
  | .ability, .complete result => continuation.executeContinueEnd answers result
  | .ability, .ended result => continuation.executeContinueError answers result
  | .sourceWaitEnd, .complete result =>
      continuation.executeNotifyComplete answers result
  | .sourceWaitEnd, .ended result =>
      continuation.executeContinueError answers result
  | .sourceEnd, .ended result => continuation.executeContinueEnd answers result
  | .sinkStart, .reqPull => continuation.executeContinueReq answers
  | .sinkStart, .ability _ => continuation.executeContinueReply answers
  | .sinkStart, .complete result =>
      continuation.executeContinueEnd answers result
  | .sinkStart, .ended result =>
      continuation.executeContinueError answers result
  | .data, .data => continuation.executeContinueData answers
  | .data, .complete result => continuation.executeContinueEnd answers result
  | .data, .ended result => continuation.executeContinueError answers result
  | .sinkWaitEnd, .complete result =>
      continuation.executeNotifyComplete answers result
  | .sinkWaitEnd, .ended result =>
      continuation.executeContinueError answers result
  | .sinkEnd, .ended result => continuation.executeContinueEnd answers result
  | _, _ => (continueStateMachineInvalidState, [], continuation)

def processEvent (answers : Answers) (continuation : DSchedContinue)
    (event : Event) : List Effect × DSchedContinue :=
  match continuation.execute answers event with
  | (ret, effects, next) =>
      (effects, if ret ≠ errOk then next.onContinueEnd ret else next)

/-! ## Calls on a continuation -/

inductive Input where
  | startContinuation (status : ℤ) (want : SavedWant)
  | notifyCompleteContinuation (devId : Text) (missionId : ℤ)
      (isSuccess : Bool) (callerBundleName : Text)
  | timeout
  | shutdown
  | terminated
  | process (answers : Answers)
  | handleContinueEnd
  deriving DecidableEq, Repr

def onStartContinuation (status : ℤ) (want : SavedWant)
    (continuation : DSchedContinue) : DSchedContinue :=
  if status ≠ errOk then continuation.post (.ended status)
  else continuation.post (.sendData want)

def completionResult (missionId : ℤ) (isSuccess : Bool) : ℤ :=
  if !isSuccess then continueCallStartAbilityFailed
  else if missionId ≤ 0 then invalidParametersErr
  else errOk

def onNotifyComplete (result : ℤ) (continuation : DSchedContinue) :
    List Effect × DSchedContinue :=
  ([.onNotifyComplete result], continuation.post (.complete result))

/-- `GetDSchedContinueByDevId` looks at the source device only, and
`HandleNotifyCompleteContinuation` then at the bundle of the caller. -/
def acceptsCompletion (continuation : DSchedContinue) (devId : Text)
    (callerBundleName : Text) : Bool :=
  devId = continuation.continueInfo.sourceDeviceId ∧
    callerBundleName = continuation.continueInfo.sinkBundleName

def step (continuation : DSchedContinue) (input : Input) :
    List Effect × DSchedContinue :=
  if continuation.removed then ([], continuation)
  else
    match input with
    | .startContinuation status want =>
        ([], continuation.onStartContinuation status want)
    | .notifyCompleteContinuation devId missionId isSuccess callerBundleName =>
        if continuation.acceptsCompletion devId callerBundleName then
          continuation.onNotifyComplete (completionResult missionId isSuccess)
        else ([], continuation)
    | .timeout => ([], continuation.onContinueEnd continueAbilityTimeoutErr)
    | .shutdown => ([], continuation.onContinueEnd continueSessionShutdown)
    | .terminated =>
        ([], continuation.onContinueEnd continueSinkAbilityTerminated)
    | .process answers =>
        match continuation.queue with
        | [] => ([], continuation)
        | event :: rest =>
            { continuation with queue := rest }.processEvent answers event
    | .handleContinueEnd =>
        ([], if continuation.ended then { continuation with removed := true }
          else continuation)

def onDataRecv (continuation : DSchedContinue) (cmd : Cmd) : DSchedContinue :=
  if continuation.removed then continuation
  else
    match cmd with
    | .start _ _ _ _ => continuation
    | .data => continuation.post .data
    | .reply .start appVersion _ => continuation.post (.ability appVersion)
    | .reply .ended _ result => continuation.post (.ended result)
    | .reply _ _ _ => continuation
    | .ended result => continuation.post (.complete result)

end DSchedContinue

/-! ## The result told to the client -/

/-- The codes of softbus, `SoftBusErrNo`, about conflicts with a hotspot and
with other links. -/
structure SoftBusConflicts where
  hotspot : List ℤ
  busyLink : List ℤ

def errorPeerThreeVapConflict : ℤ := -206604
def errDmsWorkAbnormally : ℤ := 16300501
def errContinueAlreadyInProgress : ℤ := 16300506
def errBindRemoteHotspotEnableState : ℤ := 16300508
def errBindRemoteInBusyLink : ℤ := 16300509

def convertToDmsSdkErr (conflicts : SoftBusConflicts) (result : ℤ) : ℤ :=
  if result = errOk then result
  else if result ∈ errorPeerThreeVapConflict :: conflicts.hotspot then
    errBindRemoteHotspotEnableState
  else if result ∈ conflicts.busyLink then errBindRemoteInBusyLink
  else if result = continueAlreadyInProgress then errContinueAlreadyInProgress
  else errDmsWorkAbnormally

theorem convertToDmsSdkErr_eq_errOk_iff
    (conflicts : SoftBusConflicts) (result : ℤ) :
    convertToDmsSdkErr conflicts result = errOk ↔ result = errOk := by
  unfold convertToDmsSdkErr
  split_ifs with hok
  · rfl
  all_goals
    simp only [hok, iff_false]
    decide

end Continuation

end Dmsfwk
