import Dmsfwk.DMSContinueSendMgr
import Dmsfwk.EventRun

/-!
# The condition manager

The condition manager keeps the missions of every account with their focus and
their continue state.  The window manager reports the changes, the ability
manager is asked for what a mission is, and a continuation pulled by another
device asks for the mission of a bundle: the focused one, or else a copy of the
one reported unfocused last, which is kept outside the map.
-/

namespace Dmsfwk

/-- `AAFwk::MissionInfo` as far as the condition manager reads it. -/
structure ReportedMission extends MissionInfo where
  id : Int32
  moduleName : Text := []
  flags : UInt32 := 0
  deriving DecidableEq, Repr

structure MissionRecord extends MissionStatus where
  moduleName : Text
  launchFlag : UInt32
  deriving DecidableEq, Repr

/-- A value-initialized record, where `zero` is the enumerator of
`ContinueState` whose value is 0. -/
def MissionRecord.valueInitialized (zero : ContinueState) : MissionRecord where
  missionId := 0
  bundleName := []
  abilityName := []
  isContinuable := false
  continueState := zero
  moduleName := []
  launchFlag := 0

abbrev MissionList := Std.TreeMap Int32 MissionRecord

structure ContinueConditionMgr where
  missionMap : Std.TreeMap Int32 MissionList := ∅
  lastFocusMission : Int32 × MissionRecord

namespace ContinueConditionMgr

def errOk : Int32 := 0

def invalidParametersErr : Int32 := 29360128

def missionNotFocused : Int32 := 29360234

def conditionInvalidMissionId : Int32 := -1

def initial (zero : ContinueState) : ContinueConditionMgr where
  lastFocusMission := (0, MissionRecord.valueInitialized zero)

/-! ## The missions of an account -/

def convertToMissionStatus (missionInfo : ReportedMission) (isFocused : Bool) :
    MissionRecord where
  missionId := missionInfo.id
  bundleName := missionInfo.bundleName
  abilityName := missionInfo.abilityName
  isContinuable := missionInfo.continuable
  isFocused := isFocused
  continueState := missionInfo.continueState
  moduleName := missionInfo.moduleName
  launchFlag := missionInfo.flags

def missionsOf (mgr : ContinueConditionMgr) (accountId : Int32) : MissionList :=
  mgr.missionMap.getD accountId ∅

def setMissions (mgr : ContinueConditionMgr) (accountId : Int32)
    (missions : MissionList) : ContinueConditionMgr :=
  { mgr with missionMap := mgr.missionMap.insert accountId missions }

def isMissionStatusExistLocked (mgr : ContinueConditionMgr)
    (accountId missionId : Int32) : Bool :=
  match mgr.missionMap[accountId]? with
  | none => false
  | some missions => missions.contains missionId

def focusedMission (missions : MissionList) : Option Int32 :=
  (OrderedMap.firstMatch missions fun status => status.isFocused).map (·.1)

/-- The loop of `InitMissionStatus`.  The local `status` of each round is not
initialized: a report comes with the bit that its memory holds. -/
def reportedMissions (reports : List (ReportedMission × Bool)) : MissionList :=
  reports.foldl
    (fun missionList report =>
      missionList.insert report.1.id (convertToMissionStatus report.1 report.2))
    ∅

/-- The records of an account at first: the reported missions, with the focus
on the current one if it was reported. -/
def initialMissions (reports : List (ReportedMission × Bool))
    (focusedMissionId : Int32) : MissionList :=
  if 0 < focusedMissionId then
    (reportedMissions reports).modify focusedMissionId fun status =>
      { status with isFocused := true }
  else reportedMissions reports

def initMissionStatus (mgr : ContinueConditionMgr) (accountId : Int32)
    (reports : List (ReportedMission × Bool)) (focusedMissionId : Int32) :
    ContinueConditionMgr :=
  if mgr.missionMap.contains accountId then mgr
  else mgr.setMissions accountId (initialMissions reports focusedMissionId)

def onUserRemoved (mgr : ContinueConditionMgr) (accountId : Int32) :
    ContinueConditionMgr :=
  { mgr with missionMap := mgr.missionMap.erase accountId }

/-! ## What the window manager reports -/

def cleanLastFocusedFlagLocked (missions : MissionList) (missionId : Int32) :
    MissionList :=
  missions.map fun key status =>
    if key ≠ missionId ∧ status.isFocused then
      { status with isFocused := false }
    else status

def onMissionFocused (mgr : ContinueConditionMgr) (accountId missionId : Int32)
    (info : Int32 × ReportedMission) : Int32 × ContinueConditionMgr :=
  let cleaned := cleanLastFocusedFlagLocked (mgr.missionsOf accountId) missionId
  if mgr.isMissionStatusExistLocked accountId missionId then
    (errOk, mgr.setMissions accountId
      (cleaned.modify missionId fun status => { status with isFocused := true }))
  else if info.1 ≠ errOk then (info.1, mgr)
  else
    (errOk, mgr.setMissions accountId
      (cleaned.insert missionId (convertToMissionStatus info.2 true)))

def onMissionUnfocused (mgr : ContinueConditionMgr)
    (accountId missionId : Int32) : Int32 × ContinueConditionMgr :=
  match (mgr.missionsOf accountId)[missionId]? with
  | none => (conditionInvalidMissionId, mgr)
  | some status =>
      let status := { status with isFocused := false }
      (errOk,
        { mgr.setMissions accountId
            ((mgr.missionsOf accountId).insert missionId status) with
          lastFocusMission := (accountId, status) })

def onMissionDestory (mgr : ContinueConditionMgr)
    (accountId missionId : Int32) : Int32 × ContinueConditionMgr :=
  if mgr.isMissionStatusExistLocked accountId missionId then
    (errOk, mgr.setMissions accountId
      ((mgr.missionsOf accountId).erase missionId))
  else (errOk, mgr)

def setContinueState (mgr : ContinueConditionMgr)
    (accountId missionId : Int32) (state : ContinueState) :
    Int32 × ContinueConditionMgr :=
  if mgr.isMissionStatusExistLocked accountId missionId then
    (errOk, mgr.setMissions accountId
      ((mgr.missionsOf accountId).modify missionId fun status =>
        { status with continueState := state }))
  else (errOk, mgr)

def onMissionActive (mgr : ContinueConditionMgr)
    (accountId missionId : Int32) : Int32 × ContinueConditionMgr :=
  mgr.setContinueState accountId missionId .active

def onMissionInactive (mgr : ContinueConditionMgr)
    (accountId missionId : Int32) : Int32 × ContinueConditionMgr :=
  mgr.setContinueState accountId missionId .inactive

def updateMissionStatus (mgr : ContinueConditionMgr)
    (accountId missionId : Int32) (type : MissionEventType)
    (info : Int32 × ReportedMission) : Int32 × ContinueConditionMgr :=
  if ¬ mgr.missionMap.contains accountId then (invalidParametersErr, mgr)
  else
    match type with
    | .focused => mgr.onMissionFocused accountId missionId info
    | .unfocused => mgr.onMissionUnfocused accountId missionId
    | .destoryed => mgr.onMissionDestory accountId missionId
    | .active => mgr.onMissionActive accountId missionId
    | .inactive => mgr.onMissionInactive accountId missionId
    | .timeout | .mmi => (invalidParametersErr, mgr)

/-! ## Queries -/

def getMissionStatus (mgr : ContinueConditionMgr)
    (accountId missionId : Int32) : Int32 × Option MissionRecord :=
  if mgr.isMissionStatusExistLocked accountId missionId then
    (errOk, (mgr.missionsOf accountId)[missionId]?)
  else (invalidParametersErr, none)

def getCurrentFocusedMission (mgr : ContinueConditionMgr) (accountId : Int32) :
    Int32 :=
  match mgr.missionMap[accountId]? with
  | none => conditionInvalidMissionId
  | some missions =>
      (focusedMission missions).getD conditionInvalidMissionId

/-- `missionMap_[accountId][missionId]` of an account that has records: reading
a mission that has none makes one. -/
def readMission (zero : ContinueState) (mgr : ContinueConditionMgr)
    (accountId : Int32) (missions : MissionList) (missionId : Int32) :
    MissionRecord × ContinueConditionMgr :=
  match missions[missionId]? with
  | some status => (status, mgr)
  | none =>
      let status := MissionRecord.valueInitialized zero
      (status, mgr.setMissions accountId (missions.insert missionId status))

def isContinuableOf (status : MissionRecord) (bundleName : Text) : Bool :=
  status.bundleName = bundleName && status.isContinuable

def getMissionIdByBundleName (zero : ContinueState)
    (mgr : ContinueConditionMgr) (accountId : Int32) (bundleName : Text)
    (missionId : Int32) : (Int32 × Int32) × ContinueConditionMgr :=
  match mgr.missionMap[accountId]? with
  | none => ((missionNotFocused, missionId), mgr)
  | some missions =>
      let missionId := (focusedMission missions).getD missionId
      let read := mgr.readMission zero accountId missions missionId
      if isContinuableOf read.1 bundleName then ((errOk, missionId), read.2)
      else if isContinuableOf mgr.lastFocusMission.2 bundleName then
        ((errOk, mgr.lastFocusMission.2.missionId), read.2)
      else ((missionNotFocused, missionId), read.2)

/-! ## Runs -/

end ContinueConditionMgr

inductive ConditionEvent where
  /-- `InitMissionStatus` with the answers of `GetMissionInfos` and
  `GetCurrentMissionId`; every report comes with the bit in the memory of its
  record. -/
  | initMissionStatus (accountId : Int32)
      (reports : List (ReportedMission × Bool)) (focusedMissionId : Int32)
  | onUserSwitched (accountId : Int32)
      (reports : List (ReportedMission × Bool)) (focusedMissionId : Int32)
  | onUserRemoved (accountId : Int32)
  /-- `UpdateMissionStatus` with the answer of `GetMissionInfo`. -/
  | updateMissionStatus (accountId missionId : Int32) (type : MissionEventType)
      (info : Int32 × ReportedMission)
  | getMissionStatus (accountId missionId : Int32)
  | getCurrentFocusedMission (accountId : Int32)
  | getMissionIdByBundleName (accountId : Int32) (bundleName : Text)
      (missionId : Int32)

def ConditionEvent.isQuery : ConditionEvent → Bool
  | .getMissionStatus .. | .getCurrentFocusedMission ..
  | .getMissionIdByBundleName .. => true
  | _ => false

inductive ConditionAnswer where
  | done
  | result (ret : Int32)
  | status (ret : Int32) (status : Option MissionRecord)
  | missionId (missionId : Int32)
  | found (ret missionId : Int32)
  deriving DecidableEq, Repr

namespace ContinueConditionMgr

def step (zero : ContinueState) (mgr : ContinueConditionMgr) :
    ConditionEvent → ConditionAnswer × ContinueConditionMgr
  | .initMissionStatus accountId reports focusedMissionId
  | .onUserSwitched accountId reports focusedMissionId =>
      (.done, mgr.initMissionStatus accountId reports focusedMissionId)
  | .onUserRemoved accountId => (.done, mgr.onUserRemoved accountId)
  | .updateMissionStatus accountId missionId type info =>
      let updated := mgr.updateMissionStatus accountId missionId type info
      (.result updated.1, updated.2)
  | .getMissionStatus accountId missionId =>
      let found := mgr.getMissionStatus accountId missionId
      (.status found.1 found.2, mgr)
  | .getCurrentFocusedMission accountId =>
      (.missionId (mgr.getCurrentFocusedMission accountId), mgr)
  | .getMissionIdByBundleName accountId bundleName missionId =>
      let found :=
        mgr.getMissionIdByBundleName zero accountId bundleName missionId
      (.found found.1.1 found.1.2, found.2)

end ContinueConditionMgr

end Dmsfwk
