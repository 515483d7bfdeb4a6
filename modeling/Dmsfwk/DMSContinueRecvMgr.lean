import Dmsfwk.ContinueBroadcast

/-!
# Receiving continuation broadcasts

The receiver saves the icon of the last broadcast that it accepts and shows it on
the dock.  Broadcasts are dealt with by tasks of one name, and posting a task
removes a pending one; the screen, the switch, the user, the network and the
bundle manager take the icon away again.
-/

namespace Dmsfwk

structure CurrentIconInfo where
  senderNetworkId : Text := []
  bundleName : Text := []
  continueType : Text := []
  sourceBundleName : Text := []
  deriving DecidableEq, Repr

namespace CurrentIconInfo

def isEmpty (iconInfo : CurrentIconInfo) : Bool :=
  iconInfo.senderNetworkId = [] && iconInfo.bundleName = [] &&
    iconInfo.continueType = []

def cleared (iconInfo : CurrentIconInfo) : CurrentIconInfo where
  sourceBundleName := iconInfo.sourceBundleName

end CurrentIconInfo

structure RecvNotification where
  state : ContinueState
  iconInfo : CurrentIconInfo
  deriving DecidableEq, Repr

inductive RecvErr where
  | invalidParameters
  | bundleNotContinuable
  deriving DecidableEq, Repr

structure RecvOutcome where
  result : Except RecvErr Unit := .ok ()
  notifications : List RecvNotification := []

structure SinkAbilityInfo where
  name : Text
  moduleName : Text := []
  continuable : Bool := true
  continueType : List Text := []
  deriving DecidableEq, Repr

structure LocalBundleInfo where
  /-- `bundleType` is `APP`. -/
  isApp : Bool := true
  abilityInfos : List SinkAbilityInfo := []
  deriving DecidableEq, Repr

/-- What the storage and the bundle manager answer to one task. -/
structure RecvAnswers where
  getDistributedBundleInfo : Option DmsBundleInfo
  getLocalBundleInfo : Text → Option LocalBundleInfo
  getContinueBundle4Src : Text → Option (List Text) := fun _ => none
  /-- `GetAppProvisionInfo4CurrentUser`: the developer id. -/
  getDeveloperId : Text → Option Text := fun _ => none

structure PostedBroadcast where
  senderNetworkId : Text
  broadcast : Broadcast
  retry : ℕ := 0
  deriving DecidableEq, Repr

structure DMSContinueRecvMgr where
  iconInfo : CurrentIconInfo := {}
  isScreenOn : Bool := true
  /-- The task named `DBMS_RETRY_TASK` in the event handler. -/
  pending : Option PostedBroadcast := none
  /-- The task that the event thread deals with. -/
  running : Option PostedBroadcast := none
  /-- The posted tasks that clear the icon. -/
  clearTasks : ℕ := 0

def dbmsRetryMaxTime : ℕ := 5

def quickStartConfiguration : Text := "_ContinueQuickStart".toList

def continueTypeFormat (continueType : Text) : Text :=
  if quickStartConfiguration.isSuffixOf continueType then
    continueType.take (continueType.length - quickStartConfiguration.length)
  else continueType ++ quickStartConfiguration

def isBundleContinuable (bundleInfo : LocalBundleInfo)
    (srcAbilityName srcModuleName srcContinueType : Text) : Bool :=
  bundleInfo.abilityInfos.any fun abilityInfo =>
    abilityInfo.continuable && abilityInfo.continueType.any fun item =>
      item = srcContinueType || item = continueTypeFormat srcContinueType ||
        (abilityInfo.moduleName = srcModuleName &&
          abilityInfo.name = srcAbilityName)

/-- The bundle itself when it is installed, else the first bundle of the same
developer that continues it. -/
def getFinalBundleName (answers : RecvAnswers) (info : DmsBundleInfo) :
    Option (Text × LocalBundleInfo) :=
  match answers.getLocalBundleInfo info.bundleName with
  | some localBundleInfo => some (info.bundleName, localBundleInfo)
  | none =>
      match answers.getContinueBundle4Src info.bundleName with
      | none => none
      | some bundleNameList =>
          bundleNameList.findSome? fun bundleNameItem =>
            if answers.getDeveloperId bundleNameItem =
                some info.developerId then
              (answers.getLocalBundleInfo bundleNameItem).map
                fun localBundleInfo => (bundleNameItem, localBundleInfo)
            else none

/-- How the checks of `DealOnBroadcastBusiness` end. -/
inductive CheckedBroadcast where
  | noRecord
  | refused (error : RecvErr)
  | screenOff
  | accepted (iconInfo : CurrentIconInfo)
  deriving DecidableEq, Repr

def checkBroadcast (answers : RecvAnswers) (isScreenOn : Bool)
    (posted : PostedBroadcast) : CheckedBroadcast :=
  match answers.getDistributedBundleInfo with
  | none => .noRecord
  | some distributedBundleInfo =>
      let (continueType, abilityInfo) := findContinueType
        distributedBundleInfo posted.broadcast.continueTypeId
      let isActive := posted.broadcast.state = .active
      match getFinalBundleName answers distributedBundleInfo with
      | none => .refused .invalidParameters
      | some (finalBundleName, localBundleInfo) =>
          if !localBundleInfo.isApp then .refused .invalidParameters
          else if isActive ∧ isBundleContinuable localBundleInfo
              abilityInfo.abilityName abilityInfo.moduleName continueType =
                false then
            .refused .bundleNotContinuable
          else if isActive ∧ isScreenOn = false then .screenOff
          else .accepted {
            senderNetworkId := posted.senderNetworkId
            bundleName := finalBundleName
            continueType := continueType
            sourceBundleName := distributedBundleInfo.bundleName }

def verifyBroadcastSource (received : CurrentIconInfo) (state : ContinueState)
    (iconInfo : CurrentIconInfo) : Option CurrentIconInfo :=
  match state with
  | .active => some received
  | .inactive =>
      if received.senderNetworkId ≠ iconInfo.senderNetworkId then none
      else if received.bundleName ≠ iconInfo.bundleName then none
      else some iconInfo.cleared

namespace DMSContinueRecvMgr

/-! ## Broadcasts -/

def postOnBroadcastBusiness (posted : PostedBroadcast)
    (mgr : DMSContinueRecvMgr) : DMSContinueRecvMgr :=
  { mgr with pending := some posted }

def retryPostBroadcast (posted : PostedBroadcast)
    (mgr : DMSContinueRecvMgr) : RecvOutcome × DMSContinueRecvMgr :=
  if posted.retry = dbmsRetryMaxTime then
    ({ result := .error .invalidParameters }, mgr)
  else
    ({}, postOnBroadcastBusiness { posted with retry := posted.retry + 1 } mgr)

def notifyIconDisappear (posted : PostedBroadcast)
    (mgr : DMSContinueRecvMgr) : List RecvNotification :=
  if posted.broadcast.state = .active ∧
      posted.senderNetworkId = mgr.iconInfo.senderNetworkId then
    [{ state := .inactive, iconInfo := mgr.iconInfo }]
  else []

def dealOnBroadcastBusiness (answers : RecvAnswers)
    (posted : PostedBroadcast) (mgr : DMSContinueRecvMgr) :
    RecvOutcome × DMSContinueRecvMgr :=
  match checkBroadcast answers mgr.isScreenOn posted with
  | .noRecord => retryPostBroadcast posted mgr
  | .refused error =>
      ({ result := .error error
         notifications := notifyIconDisappear posted mgr }, mgr)
  | .screenOff => ({ result := .error .bundleNotContinuable }, mgr)
  | .accepted received =>
      let state := posted.broadcast.state
      match verifyBroadcastSource received state mgr.iconInfo with
      | none => ({ result := .error .invalidParameters }, mgr)
      | some iconInfo =>
          ({ notifications := [{ state := state, iconInfo := received }] },
            { mgr with iconInfo := iconInfo })

/-! ## Taking the icon away -/

def clearIcon (mgr : DMSContinueRecvMgr) : RecvOutcome × DMSContinueRecvMgr :=
  ({ notifications := [{ state := .inactive, iconInfo := mgr.iconInfo }] },
    { mgr with iconInfo := mgr.iconInfo.cleared })

def clearSavedIcon (mgr : DMSContinueRecvMgr) :
    RecvOutcome × DMSContinueRecvMgr :=
  if mgr.iconInfo.isEmpty then ({}, mgr) else clearIcon mgr

def onDeviceScreenOff (mgr : DMSContinueRecvMgr) : DMSContinueRecvMgr :=
  { mgr with isScreenOn := false, clearTasks := mgr.clearTasks + 1 }

def onContinueSwitchOff (mgr : DMSContinueRecvMgr) : DMSContinueRecvMgr :=
  { mgr with clearTasks := mgr.clearTasks + 1 }

def notifyDeviceOffline (networkId : Text) (localNetworkId : Option Text)
    (mgr : DMSContinueRecvMgr) : RecvOutcome × DMSContinueRecvMgr :=
  if networkId = [] then ({}, mgr)
  else match localNetworkId with
    | none => ({}, mgr)
    | some localNetworkId =>
        if networkId ≠ mgr.iconInfo.senderNetworkId ∧
            networkId ≠ localNetworkId then ({}, mgr)
        else clearIcon mgr

def notifyPackageRemoved (sinkBundleName : Text) (mgr : DMSContinueRecvMgr) :
    RecvOutcome × DMSContinueRecvMgr :=
  if sinkBundleName = [] then ({}, mgr)
  else if mgr.iconInfo.bundleName ≠ sinkBundleName then ({}, mgr)
  else clearIcon mgr

/-! ## Steps -/

inductive BroadcastEvent where
  | arrive (senderNetworkId : Text) (broadcast : Broadcast)
  | take
  | finish (answers : RecvAnswers)

def broadcastStep (mgr : DMSContinueRecvMgr) :
    BroadcastEvent → RecvOutcome × DMSContinueRecvMgr
  | .arrive senderNetworkId broadcast =>
      ({}, postOnBroadcastBusiness
        { senderNetworkId := senderNetworkId, broadcast := broadcast } mgr)
  | .take =>
      match mgr.running, mgr.pending with
      | none, some posted =>
          ({}, { mgr with running := some posted, pending := none })
      | _, _ => ({}, mgr)
  | .finish answers =>
      match mgr.running with
      | none => ({}, mgr)
      | some posted =>
          dealOnBroadcastBusiness answers posted { mgr with running := none }

inductive RecvEvent where
  | broadcast (event : BroadcastEvent)
  | deviceScreenOff
  | deviceScreenOn
  | continueSwitchOff
  | runClearTask
  | userSwitch
  | deviceOffline (networkId : Text) (localNetworkId : Option Text)
  | packageRemoved (sinkBundleName : Text)

def step (mgr : DMSContinueRecvMgr) :
    RecvEvent → RecvOutcome × DMSContinueRecvMgr
  | .broadcast event => broadcastStep mgr event
  | .deviceScreenOff => ({}, onDeviceScreenOff mgr)
  | .deviceScreenOn => ({}, { mgr with isScreenOn := true })
  | .continueSwitchOff => ({}, onContinueSwitchOff mgr)
  | .runClearTask =>
      if mgr.clearTasks = 0 ∨ mgr.running.isSome then ({}, mgr)
      else clearSavedIcon { mgr with clearTasks := mgr.clearTasks - 1 }
  | .userSwitch => clearSavedIcon mgr
  | .deviceOffline networkId localNetworkId =>
      notifyDeviceOffline networkId localNetworkId mgr
  | .packageRemoved sinkBundleName => notifyPackageRemoved sinkBundleName mgr

end DMSContinueRecvMgr

end Dmsfwk
