import Dmsfwk.DMSContinueSendMgr
import Dmsfwk.EventRun

/-!
# Continuations of missions

A mission center continues a mission by its id: the source device registers the
callback, the target device and a timeout, and asks the ability manager.  The
application answers with `StartContinuation`, the target device with a result,
and each of them, like the timeout, completes the continuation by its mission id.
An application which continues by itself comes in at `StartContinuation`.
-/

namespace Dmsfwk

namespace SchedErr

def errOk : Int32 := 0

def errInvalidValue : Int32 := 22

def invalidParametersErr : Int32 := 29360128

def invalidRemoteParametersErr : Int32 := 29360131

def remoteDeviceBindAbilityErr : Int32 := 29360132

def notifyCompleteContinuationFailed : Int32 := 29360152

def continueAbilityTimeoutErr : Int32 := 29360153

def dmsPermissionDenied : Int32 := 29360157

def continueRemoteUninstalledSupportFreeInstall : Int32 := 29360202

def continueRemoteUninstalledUnsupportFreeInstall : Int32 := 29360203

def continueFreeInstallFailed : Int32 := 29360205

def continueRemoteUninstalledCannotFreeInstall : Int32 := 29360206

def noMissionInfoForMissionId : Int32 := 29360221

def operationDeviceNotInitiatorOrTarget : Int32 := 29360222

def continueAlreadyInProgress : Int32 := 29360223

def missionForContinuingIsNotAlive : Int32 := 29360224

end SchedErr

open SchedErr

inductive ContinuationEffect (Callback : Type) where
  /-- `NOTIFY_MISSION_CENTER_RESULT` to the callback. -/
  | missionCenterResult (callback : Callback) (resultCode : Int32)
  | cleanMission (missionId : Int32)
  | notifyContinuationResult (missionId resultCode : Int32)
  | continueAbility (deviceId : Text) (missionId : Int32)
      (versionCode : UInt32)
  deriving DecidableEq, Repr

structure DSchedContinuation (Callback : Type) where
  callbackMap : Std.TreeMap Int32 Callback := ∅
  continuationDevices : Std.TreeMap Int32 Text := ∅
  freeInstall : Std.TreeMap Int32 Bool := ∅
  cleanMission : Std.TreeMap Int32 Bool := ∅
  /-- The pending events of `continuationHandler_`, by mission id. -/
  timeouts : List Int32 := []

namespace DSchedContinuation

variable {Callback : Type}

def setTimeOut (missionId : Int32)
    (continuation : DSchedContinuation Callback) :
    DSchedContinuation Callback :=
  { continuation with timeouts := continuation.timeouts ++ [missionId] }

/-- `RemoveEvent` takes every event of the id. -/
def removeTimeOut (missionId : Int32)
    (continuation : DSchedContinuation Callback) :
    DSchedContinuation Callback :=
  { continuation with
      timeouts := continuation.timeouts.filter (· ≠ missionId) }

def isFreeInstall (continuation : DSchedContinuation Callback)
    (missionId : Int32) : Bool :=
  (continuation.freeInstall[missionId]?).getD false

def isInContinuationProgress (continuation : DSchedContinuation Callback)
    (missionId : Int32) : Bool :=
  continuation.callbackMap.contains missionId

def getTargetDevice (continuation : DSchedContinuation Callback)
    (missionId : Int32) : Text :=
  (continuation.continuationDevices[missionId]?).getD []

def pushCallback (missionId : Int32) (callback : Option Callback)
    (deviceId : Text) (isFreeInstall : Bool)
    (continuation : DSchedContinuation Callback) :
    Bool × DSchedContinuation Callback :=
  match callback with
  | none => (false, continuation)
  | some callback =>
      if continuation.callbackMap.contains missionId then
        (false, continuation)
      else
        (true, { continuation with
          callbackMap := continuation.callbackMap.insert missionId callback
          continuationDevices :=
            continuation.continuationDevices.insertIfNew missionId deviceId
          freeInstall :=
            if isFreeInstall then
              continuation.freeInstall.insert missionId isFreeInstall
            else continuation.freeInstall })

def popCallback (missionId : Int32)
    (continuation : DSchedContinuation Callback) :
    Option Callback × DSchedContinuation Callback :=
  match continuation.callbackMap[missionId]? with
  | none => (none, continuation)
  | some callback =>
      (some callback, { continuation with
        callbackMap := continuation.callbackMap.erase missionId
        continuationDevices :=
          continuation.continuationDevices.erase missionId
        freeInstall := continuation.freeInstall.erase missionId
        cleanMission := continuation.cleanMission.erase missionId })

def notifyMissionCenterResult (missionId resultCode : Int32)
    (continuation : DSchedContinuation Callback) :
    List (ContinuationEffect Callback) × DSchedContinuation Callback :=
  let popped := continuation.popCallback missionId
  let removed := popped.2.removeTimeOut missionId
  match popped.1 with
  | none => ([], removed)
  | some callback => ([.missionCenterResult callback resultCode], removed)

/-- `emplace` leaves a flag which is there. -/
def setCleanMissionFlag (missionId : Int32) (isCleanMission : Bool)
    (continuation : DSchedContinuation Callback) :
    DSchedContinuation Callback :=
  { continuation with
      cleanMission :=
        continuation.cleanMission.insertIfNew missionId isCleanMission }

def isCleanMission (continuation : DSchedContinuation Callback)
    (missionId : Int32) : Bool :=
  (continuation.cleanMission[missionId]?).getD true

end DSchedContinuation

/-- `DmsCallbackTask` as far as continuations with a free install use it: each
of its tasks has the launch type `FREEINSTALL_CONTINUE` and no callback. -/
structure DmsCallbackTask where
  currTaskId : Int64 := 1
  /-- `callbackMap_`, with the device of each task. -/
  tasks : Std.TreeMap Int64 Text := ∅
  continuationMissionMap : Std.TreeMap Int64 Int32 := ∅

namespace DmsCallbackTask

def generateTaskId (task : DmsCallbackTask) : Int64 × DmsCallbackTask :=
  (task.currTaskId, { task with
    currTaskId :=
      if task.currTaskId = Int64.maxValue then 1 else task.currTaskId + 1 })

def pushCallback (taskId : Int64) (deviceId : Text) (task : DmsCallbackTask) :
    Int32 × DmsCallbackTask :=
  if taskId ≤ 0 then (invalidParametersErr, task)
  else if task.tasks.contains taskId then (invalidParametersErr, task)
  else (errOk, { task with tasks := task.tasks.insert taskId deviceId })

def popCallback (taskId : Int64) (task : DmsCallbackTask) : DmsCallbackTask :=
  { task with tasks := task.tasks.erase taskId }

def setContinuationMissionMap (taskId : Int64) (missionId : Int32)
    (task : DmsCallbackTask) : DmsCallbackTask :=
  if taskId ≤ 0 ∨ missionId ≤ 0 then task
  else
    { task with
        continuationMissionMap :=
          task.continuationMissionMap.insertIfNew taskId missionId }

def popContinuationMissionMap (taskId : Int64) (task : DmsCallbackTask) :
    DmsCallbackTask :=
  { task with
      continuationMissionMap := task.continuationMissionMap.erase taskId }

def getContinuaionMissionId (task : DmsCallbackTask) (taskId : Int64) : Int32 :=
  if taskId ≤ 0 then invalidParametersErr
  else (task.continuationMissionMap[taskId]?).getD invalidParametersErr

/-- Whether `GetLaunchType` is `FREEINSTALL_CONTINUE`. -/
def launchesContinue (task : DmsCallbackTask) (taskId : Int64) : Bool :=
  0 < taskId && task.tasks.contains taskId

def notifyDeviceOffline (deviceId : Text) (task : DmsCallbackTask) :
    DmsCallbackTask :=
  { task with tasks := task.tasks.filter fun _ device => device ≠ deviceId }

end DmsCallbackTask

/-! ## Requests of the mission center -/

structure ContinueMissionRequest (Callback : Type) where
  srcDeviceId : Text
  dstDeviceId : Text
  missionId : Int32
  callback : Option Callback
  /-- The parameter `isFreeInstall` of the want. -/
  isFreeInstall : Bool := false

structure ContinueBundleRequest (Callback : Type) where
  srcDeviceId : Text
  dstDeviceId : Text
  bundleName : Text
  callback : Option Callback
  isFreeInstall : Bool := false

/-- What the device and the services it asks answer to one request. -/
structure ContinueMissionAnswers where
  localDeviceId : Option Text
  /-- Whether `GetDeviceInfoById` knows the other device. -/
  deviceInfoById : Bool := true
  isCurrentContinueSwitchOn : Bool := true
  isRemoteDmsVersionLower : Bool := false
  /-- The code of `GetMissionInfo`, and the mission. -/
  getMissionInfo : Int32 × MissionInfo
  /-- The code of the send manager and of `GetMissionIdByBundleName`, and the
  mission of the foreground user. -/
  getMissionIdByBundleName : Text → Int32 × Int32 := fun _ => (errOk, 1)
  checkBundleContinueConfig : Text → Bool := fun _ => true
  /-- `CheckRemoteBundleInfoForContinuation`, with the version it finds. -/
  checkRemoteBundleInfo : Text → Int32 × UInt32 := fun _ => (errOk, 0)
  checkIfRemoteCanInstall : Bool := true
  continueAbility : Int32 := errOk
  getRemoteDms : Bool := true
  remoteContinueMission : Int32 := errOk

namespace DSchedContinuation

variable {Callback : Type}

/-- A result code with what was sent, and the next state. -/
abbrev Outcome (Callback σ : Type) :=
  (Int32 × List (ContinuationEffect Callback)) × σ

def continueAbilityWithTimeout (answers : ContinueMissionAnswers)
    (dstDeviceId : Text) (missionId : Int32) (callback : Option Callback)
    (remoteBundleVersion : UInt32)
    (continuation : DSchedContinuation Callback) :
    Outcome Callback (DSchedContinuation Callback) :=
  let pushed := continuation.pushCallback missionId callback dstDeviceId false
  if pushed.1 = false then ((continueAlreadyInProgress, []), pushed.2)
  else
    let result := answers.continueAbility
    ((if result = errInvalidValue then missionForContinuingIsNotAlive
        else result,
      [.continueAbility dstDeviceId missionId remoteBundleVersion]),
      pushed.2.setTimeOut missionId)

/-- The result of `PushCallback` is not looked at. -/
def continueLocalMissionDealFreeInstall (answers : ContinueMissionAnswers)
    (isFreeInstall : Bool) (missionId : Int32) (dstDeviceId : Text)
    (callback : Option Callback) (continuation : DSchedContinuation Callback) :
    Outcome Callback (DSchedContinuation Callback) :=
  if isFreeInstall = false then
    ((continueRemoteUninstalledSupportFreeInstall, []), continuation)
  else
    let pushed := continuation.pushCallback missionId callback dstDeviceId true
    let armed := pushed.2.setTimeOut missionId
    if answers.checkIfRemoteCanInstall = false then
      ((invalidParametersErr, []),
        ((armed.removeTimeOut missionId).popCallback missionId).2)
    else ((errOk, []), armed)

def continueLocalMission (answers : ContinueMissionAnswers)
    (dstDeviceId : Text) (missionId : Int32) (callback : Option Callback)
    (isFreeInstall : Bool) (continuation : DSchedContinuation Callback) :
    Outcome Callback (DSchedContinuation Callback) :=
  if answers.isCurrentContinueSwitchOn = false then
    ((dmsPermissionDenied, []), continuation)
  else if continuation.isInContinuationProgress missionId then
    ((continueAlreadyInProgress, []), continuation)
  else if answers.isRemoteDmsVersionLower then
    continuation.continueAbilityWithTimeout answers dstDeviceId missionId
      callback 0
  else if answers.getMissionInfo.1 ≠ errOk then
    ((noMissionInfoForMissionId, []), continuation)
  else
    let missionInfo := answers.getMissionInfo.2
    if missionInfo.continueState ≠ .active then
      ((invalidParametersErr, []), continuation)
    else if answers.checkBundleContinueConfig missionInfo.bundleName = false then
      ((remoteDeviceBindAbilityErr, []), continuation)
    else
      let remoteBundle := answers.checkRemoteBundleInfo missionInfo.bundleName
      if remoteBundle.1 = errOk then
        continuation.continueAbilityWithTimeout answers dstDeviceId missionId
          callback remoteBundle.2
      else if remoteBundle.1 =
          continueRemoteUninstalledUnsupportFreeInstall then
        ((remoteBundle.1, []), continuation)
      else
        continuation.continueLocalMissionDealFreeInstall answers isFreeInstall
          missionId dstDeviceId callback

def continueRemoteMission (answers : ContinueMissionAnswers) : Int32 :=
  if answers.isCurrentContinueSwitchOn = false then dmsPermissionDenied
  else if answers.getRemoteDms = false then invalidRemoteParametersErr
  else if answers.getMissionInfo.1 ≠ errOk then answers.getMissionInfo.1
  else answers.remoteContinueMission

/-- Both requests, by mission id and by bundle name: the checks on the devices
and the choice between the two sides. -/
def continueMissionBetween (answers : ContinueMissionAnswers)
    (srcDeviceId dstDeviceId : Text) (callback : Option Callback)
    (localMission : Outcome Callback (DSchedContinuation Callback))
    (remoteMission : Int32) (continuation : DSchedContinuation Callback) :
    Outcome Callback (DSchedContinuation Callback) :=
  if srcDeviceId = [] ∨ dstDeviceId = [] ∨ callback = none then
    ((invalidParametersErr, []), continuation)
  else match answers.localDeviceId with
    | none => ((invalidParametersErr, []), continuation)
    | some localDevId =>
        if srcDeviceId = localDevId then
          if answers.deviceInfoById = false then
            ((invalidRemoteParametersErr, []), continuation)
          else localMission
        else if dstDeviceId = localDevId then
          if answers.deviceInfoById = false then
            ((invalidRemoteParametersErr, []), continuation)
          else ((remoteMission, []), continuation)
        else ((operationDeviceNotInitiatorOrTarget, []), continuation)

def continueMission (answers : ContinueMissionAnswers)
    (request : ContinueMissionRequest Callback)
    (continuation : DSchedContinuation Callback) :
    Outcome Callback (DSchedContinuation Callback) :=
  continuation.continueMissionBetween answers request.srcDeviceId
    request.dstDeviceId request.callback
    (continuation.continueLocalMission answers request.dstDeviceId
      request.missionId request.callback request.isFreeInstall)
    (continueRemoteMission answers)

def processContinueLocalMission (answers : ContinueMissionAnswers)
    (bundleName dstDeviceId : Text) (callback : Option Callback)
    (isFreeInstall : Bool) (continuation : DSchedContinuation Callback) :
    Outcome Callback (DSchedContinuation Callback) :=
  let found := answers.getMissionIdByBundleName bundleName
  if found.1 ≠ errOk then ((found.1, []), continuation)
  else
    continuation.continueLocalMission answers dstDeviceId found.2 callback
      isFreeInstall

def continueRemoteBundle (answers : ContinueMissionAnswers) : Int32 :=
  if answers.getRemoteDms = false then invalidRemoteParametersErr
  else answers.remoteContinueMission

def continueMissionOfBundleName (answers : ContinueMissionAnswers)
    (request : ContinueBundleRequest Callback)
    (continuation : DSchedContinuation Callback) :
    Outcome Callback (DSchedContinuation Callback) :=
  continuation.continueMissionBetween answers request.srcDeviceId
    request.dstDeviceId request.callback
    (continuation.processContinueLocalMission answers request.bundleName
      request.dstDeviceId request.callback request.isFreeInstall)
    (continueRemoteBundle answers)

/-! ## Completion -/

def notifyContinuationCallbackResult (missionId resultCode : Int32)
    (continuation : DSchedContinuation Callback) :
    List (ContinuationEffect Callback) × DSchedContinuation Callback :=
  if continuation.isInContinuationProgress missionId then
    let cleaned :=
      if resultCode = errOk ∧ continuation.isCleanMission missionId then
        [.cleanMission missionId]
      else []
    let notified := continuation.notifyMissionCenterResult missionId resultCode
    (cleaned ++ notified.1, notified.2)
  else
    ([.notifyContinuationResult missionId resultCode],
      continuation.removeTimeOut missionId)

def notifyContinuationResultFromRemote (sessionId : Int32) (isSuccess : Bool)
    (continuation : DSchedContinuation Callback) :
    Outcome Callback (DSchedContinuation Callback) :=
  if sessionId ≤ 0 then ((invalidRemoteParametersErr, []), continuation)
  else
    let notified := continuation.notifyContinuationCallbackResult sessionId
      (if isSuccess then errOk else notifyCompleteContinuationFailed)
    ((errOk, notified.1), notified.2)

def processEvent (sessionId : Int32)
    (continuation : DSchedContinuation Callback) :
    List (ContinuationEffect Callback) × DSchedContinuation Callback :=
  if sessionId ≤ 0 then ([], continuation)
  else
    continuation.notifyContinuationCallbackResult sessionId
      continueAbilityTimeoutErr

def timeout (missionId : Int32) (continuation : DSchedContinuation Callback) :
    List (ContinuationEffect Callback) × DSchedContinuation Callback :=
  if missionId ∈ continuation.timeouts then
    { continuation with
        timeouts := continuation.timeouts.erase missionId }.processEvent
      missionId
  else ([], continuation)

def onQueryInstallationFinished (resultCode missionId : Int32)
    (versionCode : UInt32) (continueAbility : Int32)
    (continuation : DSchedContinuation Callback) :
    Outcome Callback (DSchedContinuation Callback) :=
  if resultCode ≠ errOk then
    let notified := continuation.notifyContinuationCallbackResult missionId
      continueRemoteUninstalledCannotFreeInstall
    ((continueRemoteUninstalledCannotFreeInstall, notified.1), notified.2)
  else
    let removed := continuation.removeTimeOut missionId
    let deviceId := removed.getTargetDevice missionId
    ((continueAbility, [.continueAbility deviceId missionId versionCode]),
      removed.setTimeOut missionId)

end DSchedContinuation

/-! ## The application's answer -/

/-- The want of `StartContinuation`, as far as the device itself reads it. -/
structure ContinuationWant where
  deviceId : Text
  /-- `FLAG_ABILITY_CONTINUATION` is among its flags. -/
  abilityContinuation : Bool := true
  /-- `SUPPORT_CONTINUE_SOURCE_EXIT_KEY`, when it holds a boolean. -/
  supportContinueSourceExit : Option Bool := none

structure StartContinuationAnswers where
  getLocalDeviceId : Bool := true
  getLocalBundleInfo : Bool := true
  startRemoteAbility : Int32 := errOk
  checkDeviceId : Bool := true
  getRemoteDms : Bool := true
  setCallerInfo : Bool := true
  getAccountInfo : Bool := true
  startFreeInstallFromRemote : Int32 := errOk

def ContinuationWant.isCleanMission (want : ContinuationWant) : Bool :=
  want.supportContinueSourceExit.getD true

def setWantForContinuation (answers : StartContinuationAnswers) : Int32 :=
  if answers.getLocalDeviceId = false then invalidRemoteParametersErr
  else if answers.getLocalBundleInfo = false then invalidParametersErr
  else errOk

structure ContinuationService (Callback : Type) where
  continuation : DSchedContinuation Callback := {}
  callbackTask : DmsCallbackTask := {}

namespace ContinuationService

open DSchedContinuation

variable {Callback : Type}

def startRemoteFreeInstall (answers : StartContinuationAnswers)
    (deviceId : Text) (missionId : Int32) (task : DmsCallbackTask) :
    Int32 × DmsCallbackTask :=
  if (answers.getLocalDeviceId && answers.checkDeviceId) = false then
    (invalidParametersErr, task)
  else if answers.getRemoteDms = false then (invalidParametersErr, task)
  else
    let generated := task.generateTaskId
    let pushed := generated.2.pushCallback generated.1 deviceId
    if pushed.1 ≠ errOk then (invalidRemoteParametersErr, pushed.2)
    else
      let mapped := pushed.2.setContinuationMissionMap generated.1 missionId
      if answers.setCallerInfo = false then (invalidParametersErr, mapped)
      else if answers.getAccountInfo = false then
        (invalidParametersErr, mapped)
      else if answers.startFreeInstallFromRemote ≠ errOk then
        (answers.startFreeInstallFromRemote, mapped.popCallback generated.1)
      else (answers.startFreeInstallFromRemote, mapped)

def startContinuation (answers : StartContinuationAnswers)
    (want : ContinuationWant) (missionId status : Int32)
    (service : ContinuationService Callback) :
    Outcome Callback (ContinuationService Callback) :=
  if status ≠ errOk then
    let notified :=
      service.continuation.notifyContinuationCallbackResult missionId status
    ((invalidRemoteParametersErr, notified.1),
      { service with continuation := notified.2 })
  else if want.abilityContinuation = false then
    ((invalidRemoteParametersErr, []), service)
  else
    let armed :=
      if service.continuation.isInContinuationProgress missionId then
        service.continuation
      else service.continuation.setTimeOut missionId
    let result := setWantForContinuation answers
    if result ≠ errOk then
      ((result, []), { service with continuation := armed })
    else
      let flagged := armed.setCleanMissionFlag missionId want.isCleanMission
      if armed.isFreeInstall missionId then
        let started := startRemoteFreeInstall answers want.deviceId missionId
          service.callbackTask
        ((started.1, []), { continuation := flagged, callbackTask := started.2 })
      else
        ((answers.startRemoteAbility, []),
          { service with continuation := flagged })

/-- A task without a callback has no result to pass on. -/
def notifyCompleteFreeInstallFromRemote (taskId : Int64) (resultCode : Int32)
    (service : ContinuationService Callback) :
    Outcome Callback (ContinuationService Callback) :=
  let popped := service.callbackTask.popCallback taskId
  if service.callbackTask.launchesContinue taskId = false then
    ((invalidRemoteParametersErr, []), { service with callbackTask := popped })
  else if resultCode = errOk then
    ((errOk, []),
      { service with callbackTask := popped.popContinuationMissionMap taskId })
  else
    let notified := service.continuation.notifyContinuationCallbackResult
      (popped.getContinuaionMissionId taskId) continueFreeInstallFailed
    ((errOk, notified.1),
      { continuation := notified.2
        callbackTask := popped.popContinuationMissionMap taskId })

end ContinuationService

inductive ContinuationEvent (Callback : Type) where
  | continueMission (request : ContinueMissionRequest Callback)
      (answers : ContinueMissionAnswers)
  | continueMissionOfBundleName (request : ContinueBundleRequest Callback)
      (answers : ContinueMissionAnswers)
  | startContinuation (want : ContinuationWant) (missionId status : Int32)
      (answers : StartContinuationAnswers)
  | notifyContinuationResultFromRemote (sessionId : Int32) (isSuccess : Bool)
  | onQueryInstallationFinished (resultCode missionId : Int32)
      (versionCode : UInt32) (continueAbility : Int32)
  | notifyCompleteFreeInstallFromRemote (taskId : Int64) (resultCode : Int32)
  | notifyDeviceOffline (deviceId : Text)
  | timeout (missionId : Int32)

namespace ContinuationService

open DSchedContinuation

variable {Callback : Type}

def step (service : ContinuationService Callback) :
    ContinuationEvent Callback →
      Outcome Callback (ContinuationService Callback)
  | .continueMission request answers =>
      let next := service.continuation.continueMission answers request
      (next.1, { service with continuation := next.2 })
  | .continueMissionOfBundleName request answers =>
      let next :=
        service.continuation.continueMissionOfBundleName answers request
      (next.1, { service with continuation := next.2 })
  | .startContinuation want missionId status answers =>
      service.startContinuation answers want missionId status
  | .notifyContinuationResultFromRemote sessionId isSuccess =>
      let next := service.continuation.notifyContinuationResultFromRemote
        sessionId isSuccess
      (next.1, { service with continuation := next.2 })
  | .onQueryInstallationFinished resultCode missionId versionCode answer =>
      let next := service.continuation.onQueryInstallationFinished resultCode
        missionId versionCode answer
      (next.1, { service with continuation := next.2 })
  | .notifyCompleteFreeInstallFromRemote taskId resultCode =>
      service.notifyCompleteFreeInstallFromRemote taskId resultCode
  | .notifyDeviceOffline deviceId =>
      ((errOk, []),
        { service with
            callbackTask := service.callbackTask.notifyDeviceOffline deviceId })
  | .timeout missionId =>
      let next := service.continuation.timeout missionId
      ((errOk, next.1), { service with continuation := next.2 })

end ContinuationService

end Dmsfwk
