import Dmsfwk.ContinueBroadcast

/-!
# Advertising the focused mission

The condition manager keeps the status of every mission of the foreground
account, and the send manager broadcasts what can be continued: a change of a
mission posts a task with a snapshot of its status, taken before or after the
change, and each type of event has its own check and its own strategy.
-/

namespace Dmsfwk

structure MissionInfo where
  bundleName : Text
  abilityName : Text
  continuable : Bool := true
  continueState : ContinueState := .active
  deriving DecidableEq, Repr

structure MissionStatus where
  missionId : Int32
  bundleName : Text
  abilityName : Text
  isContinuable : Bool
  isFocused : Bool := false
  continueState : ContinueState
  deriving DecidableEq, Repr

inductive MissionEventType where
  | focused
  | unfocused
  | destoryed
  | active
  | inactive
  | timeout
  | mmi
  deriving DecidableEq, Repr

structure SendConditions where
  checkSystemSendCondition : Bool := true
  isScreenLocked : Bool := false
  checkBundleContinueConfig : Text → Bool := fun _ => true
  /-- `GetBundleNameId` and `GetContinueTypeId` of a bundle and an ability. -/
  queryIds : Text → Text → Option (UInt16 × UInt8)

structure SentBroadcast where
  /-- The mission whose status is broadcast. -/
  missionId : Int32
  type : BroadcastType
  payload : List UInt8
  deriving DecidableEq, Repr

inductive SendTask where
  | missionStatus (status : MissionStatus) (type : MissionEventType)
  | mmi
  deriving DecidableEq, Repr

def invalidMissionId : Int32 := -1

structure DMSContinueSendMgr where
  /-- `missionMap_` of the account. -/
  missions : Std.TreeMap Int32 MissionStatus := ∅
  /-- The mission of the screen-locked handler: the one unfocused last. -/
  unfoMissionId : Int32 := invalidMissionId
  posted : List SendTask := []
  /-- The missions whose timeout task is posted. -/
  timeouts : Finset Int32 := ∅

/-! ## Conditions -/

def convertToMissionStatus (missionId : Int32) (info : MissionInfo) :
    MissionStatus where
  missionId := missionId
  bundleName := info.bundleName
  abilityName := info.abilityName
  isContinuable := info.continuable
  continueState := info.continueState

def checkSendFocusedCondition (conditions : SendConditions)
    (status : MissionStatus) : Bool :=
  status.isContinuable && status.continueState = .active &&
    conditions.checkBundleContinueConfig status.bundleName

def checkSendUnfocusedCondition (conditions : SendConditions)
    (status : MissionStatus) : Bool :=
  status.isFocused && status.isContinuable &&
    status.continueState = .active &&
    conditions.checkBundleContinueConfig status.bundleName

def checkSendActiveCondition (conditions : SendConditions)
    (status : MissionStatus) : Bool :=
  status.isFocused && status.isContinuable &&
    conditions.checkBundleContinueConfig status.bundleName

def checkSendInactiveCondition (conditions : SendConditions)
    (status : MissionStatus) : Bool :=
  status.isContinuable &&
    conditions.checkBundleContinueConfig status.bundleName

def checkMissionSendCondition (conditions : SendConditions)
    (status : MissionStatus) : MissionEventType → Bool
  | .focused | .mmi => checkSendFocusedCondition conditions status
  | .unfocused | .destoryed | .timeout =>
      checkSendUnfocusedCondition conditions status
  | .active => checkSendActiveCondition conditions status
  | .inactive => checkSendInactiveCondition conditions status

/-! ## Strategies -/

/-- The type to send, if the strategy allows it, and the mission that the
screen-locked handler then holds. -/
def executeSendStrategy (conditions : SendConditions)
    (status : MissionStatus) (unfoMissionId : Int32) :
    MissionEventType → Option BroadcastType × Int32
  | .focused => (some .appear, invalidMissionId)
  | .unfocused =>
      (if conditions.isScreenLocked then none else some .disappear,
        status.missionId)
  | .destoryed => (some .disappear, unfoMissionId)
  | .active => (some .appear, unfoMissionId)
  | .inactive =>
      (if status.missionId ≠ unfoMissionId then none else some .disappear,
        unfoMissionId)
  | .timeout => (some .disappear, unfoMissionId)
  | .mmi => (some .appear, unfoMissionId)

def postsTimeout : MissionEventType → Bool
  | .focused | .active | .mmi => true
  | .unfocused | .destoryed | .inactive | .timeout => false

def SendConditions.queryBroadcastInfo (conditions : SendConditions)
    (status : MissionStatus) : Option (UInt16 × UInt8) :=
  if status.bundleName = [] ∨ status.abilityName = [] then none
  else conditions.queryIds status.bundleName status.abilityName

def isAllowed (conditions : SendConditions) (status : MissionStatus)
    (type : MissionEventType) : Bool :=
  conditions.checkSystemSendCondition &&
    checkMissionSendCondition conditions status type

/-- What `SendContinueBroadcast` sends, and the mission that the screen-locked
handler then holds. -/
def broadcastOf (conditions : SendConditions) (status : MissionStatus)
    (type : MissionEventType) (unfoMissionId : Int32) :
    Option SentBroadcast × Int32 :=
  if !isAllowed conditions status type then (none, unfoMissionId)
  else
    let (sendType, nextMissionId) :=
      executeSendStrategy conditions status unfoMissionId type
    let sent :=
      match sendType, conditions.queryBroadcastInfo status with
      | some sendType, some (bundleNameId, continueTypeId) =>
          some {
            missionId := status.missionId
            type := sendType
            payload := softbusEvent bundleNameId continueTypeId sendType.code }
      | _, _ => none
    (sent, nextMissionId)

namespace DMSContinueSendMgr

def initMissionStatus (missions : List (Int32 × MissionInfo))
    (focusedMissionId : Int32) : DMSContinueSendMgr where
  missions :=
    let missionList : Std.TreeMap Int32 MissionStatus := missions.foldl
      (fun missionList mission => missionList.insert mission.1
        (convertToMissionStatus mission.1 mission.2)) ∅
    if 0 < focusedMissionId then
      missionList.modify focusedMissionId fun status =>
        { status with isFocused := true }
    else missionList

def sendContinueBroadcast (conditions : SendConditions)
    (status : MissionStatus) (type : MissionEventType)
    (mgr : DMSContinueSendMgr) : Option SentBroadcast × DMSContinueSendMgr :=
  let (sent, unfoMissionId) :=
    broadcastOf conditions status type mgr.unfoMissionId
  let timeouts :=
    if isAllowed conditions status type && postsTimeout type then
      insert status.missionId mgr.timeouts
    else mgr.timeouts
  (sent, { mgr with unfoMissionId := unfoMissionId, timeouts := timeouts })

def sendCurrentBroadcast (conditions : SendConditions) (missionId : Int32)
    (type : MissionEventType) (mgr : DMSContinueSendMgr) :
    Option SentBroadcast × DMSContinueSendMgr :=
  match mgr.missions[missionId]? with
  | none => (none, mgr)
  | some status => sendContinueBroadcast conditions status type mgr

/-! ## Events -/

def onMissionStatusChanged (missionId : Int32) (type : MissionEventType)
    (mgr : DMSContinueSendMgr) : DMSContinueSendMgr :=
  match mgr.missions[missionId]? with
  | none => mgr
  | some status => { mgr with
      timeouts := mgr.timeouts.erase missionId
      posted := mgr.posted ++ [.missionStatus status type] }

def focusOn (missionId : Int32) (status : MissionStatus)
    (missions : Std.TreeMap Int32 MissionStatus) :
    Std.TreeMap Int32 MissionStatus :=
  (missions.map fun _ record => { record with isFocused := false }).insert
    missionId { status with isFocused := true }

/-- The status of a mission that gets the focus: its record, or one from its
info. -/
def statusToFocus (missionId : Int32) (info : Option MissionInfo)
    (mgr : DMSContinueSendMgr) : Option MissionStatus :=
  match mgr.missions[missionId]? with
  | some status => some status
  | none => info.map (convertToMissionStatus missionId)

def updateFocused (missionId : Int32) (info : Option MissionInfo)
    (mgr : DMSContinueSendMgr) : DMSContinueSendMgr :=
  match statusToFocus missionId info mgr with
  | none => mgr
  | some status =>
      { mgr with missions := focusOn missionId status mgr.missions }

def onMissionFocused (missionId : Int32) (info : Option MissionInfo)
    (mgr : DMSContinueSendMgr) : DMSContinueSendMgr :=
  onMissionStatusChanged missionId .focused (updateFocused missionId info mgr)

def onMissionUnfocused (missionId : Int32) (mgr : DMSContinueSendMgr) :
    DMSContinueSendMgr :=
  let mgr := onMissionStatusChanged missionId .unfocused mgr
  let unfocused := mgr.missions.modify missionId fun status =>
    { status with isFocused := false }
  { mgr with missions := unfocused }

def onMissionDestroyed (missionId : Int32) (mgr : DMSContinueSendMgr) :
    DMSContinueSendMgr :=
  let mgr := onMissionStatusChanged missionId .destoryed mgr
  { mgr with missions := mgr.missions.erase missionId }

def setMissionContinueState (missionId : Int32) (state : ContinueState)
    (mgr : DMSContinueSendMgr) : DMSContinueSendMgr :=
  let updated := mgr.missions.modify missionId fun status =>
    { status with continueState := state }
  let type : MissionEventType :=
    match state with
    | .active => .active
    | .inactive => .inactive
  onMissionStatusChanged missionId type { mgr with missions := updated }

def getCurrentFocusedMission (mgr : DMSContinueSendMgr) : Int32 :=
  match mgr.missions.toList.find? fun record => record.2.isFocused with
  | some record => record.1
  | none => invalidMissionId

/-! ## Tasks -/

def runTask (conditions : SendConditions) (mgr : DMSContinueSendMgr) :
    Option SentBroadcast × DMSContinueSendMgr :=
  match mgr.posted with
  | [] => (none, mgr)
  | .missionStatus status type :: rest =>
      sendContinueBroadcast conditions status type { mgr with posted := rest }
  | .mmi :: rest =>
      let missionId := mgr.getCurrentFocusedMission
      sendCurrentBroadcast conditions missionId .mmi { mgr with
        posted := rest
        timeouts := mgr.timeouts.erase missionId }

def runTimeout (conditions : SendConditions) (missionId : Int32)
    (mgr : DMSContinueSendMgr) : Option SentBroadcast × DMSContinueSendMgr :=
  if missionId ∈ mgr.timeouts then
    sendCurrentBroadcast conditions missionId .timeout { mgr with
      timeouts := mgr.timeouts.erase missionId }
  else (none, mgr)

inductive SendEvent where
  | missionFocused (missionId : Int32) (info : Option MissionInfo)
  | missionUnfocused (missionId : Int32)
  | missionDestroyed (missionId : Int32)
  | continueState (missionId : Int32) (state : ContinueState)
  | mmi
  | runTask
  | runTimeout (missionId : Int32)

def step (conditions : SendConditions) (mgr : DMSContinueSendMgr) :
    SendEvent → Option SentBroadcast × DMSContinueSendMgr
  | .missionFocused missionId info =>
      (none, onMissionFocused missionId info mgr)
  | .missionUnfocused missionId => (none, onMissionUnfocused missionId mgr)
  | .missionDestroyed missionId => (none, onMissionDestroyed missionId mgr)
  | .continueState missionId state =>
      (none, setMissionContinueState missionId state mgr)
  | .mmi => (none, { mgr with posted := mgr.posted ++ [.mmi] })
  | .runTask => mgr.runTask conditions
  | .runTimeout missionId => mgr.runTimeout conditions missionId

end DMSContinueSendMgr

end Dmsfwk
