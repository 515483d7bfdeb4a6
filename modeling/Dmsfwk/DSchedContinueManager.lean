import Dmsfwk.DSchedContinue

/-!
# The continuations of a device

`DSchedContinueManager` registers the continuations of a device, counts them in
two counters and hands the commands of the peers to them.  Its tasks run one
after the other.
-/

namespace Dmsfwk

def DSchedContinueInfo.compareInfo (info : DSchedContinueInfo) : Text :=
  info.sourceDeviceId ++ info.sourceBundleName ++ info.sinkDeviceId ++
    info.sinkBundleName

namespace ContinueManager

open Continuation OrderedMap

/-! ## Data model -/

def getLocalDeviceErr : ℤ := 29360144
def operationDeviceNotInitiatorOrTarget : ℤ := 29360222
def maxConcurrentSink : ℤ := 1
def maxConcurrentSource : ℤ := 1
def invalidSessionId : ℤ := -1

structure Entry where
  info : DSchedContinueInfo
  sessionId : ℤ
  deriving DecidableEq, Repr

structure Manager where
  continues : Std.TreeMap Text Entry
  cntSink : ℤ
  cntSource : ℤ

def Manager.initial : Manager := ⟨∅, 0, 0⟩

structure Answers where
  getLocalDeviceId : Bool := true
  getDeviceInfoById : Bool := true
  getFirstBundleName : Option Text := none
  getMissionInfo : Option Text := none
  deriving DecidableEq, Repr

inductive Outcome where
  | ignored
  | refused (ret : ℤ)
  | inProgress
  | created (info : DSchedContinueInfo)
  | handled (info : DSchedContinueInfo)
  deriving DecidableEq, Repr

namespace Manager

/-! ## Tasks -/

def checkContinuationLimit (localDevId : Text) (answers : Answers)
    (manager : Manager) (srcDeviceId dstDeviceId : Text) :
    Except ℤ Direction :=
  if !answers.getLocalDeviceId then .error getLocalDeviceErr
  else if dstDeviceId = localDevId then
    if manager.cntSink ≥ maxConcurrentSink then
      .error continueAlreadyInProgress
    else if !answers.getDeviceInfoById then .error invalidParametersErr
    else .ok .sink
  else if srcDeviceId = localDevId then
    if manager.cntSource ≥ maxConcurrentSource then
      .error continueAlreadyInProgress
    else if !answers.getDeviceInfoById then .error invalidParametersErr
    else .ok .source
  else .error operationDeviceNotInitiatorOrTarget

def register (manager : Manager) (entry : Entry) : Manager :=
  { manager with
    continues :=
      manager.continues.insertIfNew entry.info.compareInfo entry }

def countUp (manager : Manager) : Direction → Manager
  | .source => { manager with cntSource := manager.cntSource + 1 }
  | .sink => { manager with cntSink := manager.cntSink + 1 }

/-- A pull without a source bundle takes the first bundle known for its type of
continuation. -/
def fillSourceBundle (answers : Answers) (direction : Direction)
    (info : DSchedContinueInfo) : DSchedContinueInfo :=
  if direction = .sink ∧ info.sourceBundleName = [] then
    { info with
      sourceBundleName :=
        answers.getFirstBundleName.getD info.sourceBundleName }
  else info

def handleContinueMissionWithBundleName (localDevId : Text)
    (answers : Answers) (manager : Manager) (info : DSchedContinueInfo) :
    Outcome × Manager :=
  match manager.checkContinuationLimit localDevId answers info.sourceDeviceId
      info.sinkDeviceId with
  | .error ret => (.refused ret, manager)
  | .ok direction =>
      let counted := manager.countUp direction
      let info := fillSourceBundle answers direction info
      if (manager.continues[info.compareInfo]?).isSome then
        (.inProgress, counted)
      else (.created info, counted.register ⟨info, invalidSessionId⟩)

def requestByBundle (callback : Bool) (info : DSchedContinueInfo) :
    Option DSchedContinueInfo :=
  let srcBundleName :=
    if info.sourceBundleName = [] then info.sinkBundleName
    else info.sourceBundleName
  if info.sourceDeviceId = [] ∨ info.sinkDeviceId = [] ∨ !callback then none
  else some { info with sourceBundleName := srcBundleName, missionId := 0 }

/-- The request which `HandleContinueMission` makes out of the id of a mission,
whose bundle is known on the source only. -/
def requestById (localDevId : Text) (getLocalDeviceId : Bool)
    (answers : Answers) (callback : Bool) (srcDeviceId dstDeviceId : Text)
    (missionId : ℤ) : Option DSchedContinueInfo :=
  if srcDeviceId = [] ∨ dstDeviceId = [] ∨ !callback then none
  else if !getLocalDeviceId then none
  else
    let bundleName :=
      if srcDeviceId = localDevId then answers.getMissionInfo.getD [] else []
    some ⟨srcDeviceId, bundleName, dstDeviceId, bundleName, [], missionId⟩

def handleContinueMission (localDevId : Text) (answers : Answers)
    (manager : Manager) : Option DSchedContinueInfo → Outcome × Manager
  | none => (.ignored, manager)
  | some info =>
      manager.handleContinueMissionWithBundleName localDevId answers info

def handleContinueEnd (localDevId : Text) (getLocalDeviceId : Bool)
    (manager : Manager) (info : DSchedContinueInfo) : Manager :=
  if (manager.continues[info.compareInfo]?).isNone then manager
  else
    let erased :=
      { manager with continues := manager.continues.erase info.compareInfo }
    if !getLocalDeviceId then erased
    else if info.sinkDeviceId = localDevId then
      { erased with cntSink := erased.cntSink - 1 }
    else if info.sourceDeviceId = localDevId then
      { erased with cntSource := erased.cntSource - 1 }
    else erased

def findSession (manager : Manager) (sessionId : ℤ) : Option (Text × Entry) :=
  firstMatch manager.continues fun entry => entry.sessionId = sessionId

/-- `NotifyContinueDataRecv`; `start` is the information in a start command,
and other commands have none. -/
def notifyContinueDataRecv (localDevId : Text) (answers : Answers)
    (manager : Manager) (sessionId : ℤ) (start : Option DSchedContinueInfo) :
    Outcome × Manager :=
  match manager.findSession sessionId with
  | some (_, entry) => (.handled entry.info, manager)
  | none =>
      match start with
      | none => (.ignored, manager)
      | some info =>
          match manager.checkContinuationLimit localDevId answers
              info.sourceDeviceId info.sinkDeviceId with
          | .error ret => (.refused ret, manager)
          | .ok _ =>
              let info :=
                DSchedContinue.fillBundleNames answers.getMissionInfo info
              (.created info, manager.register ⟨info, sessionId⟩)

/-- `ExecuteContinueReq` of a registered continuation got a session. -/
def setSession (manager : Manager) (compareInfo : Text) (sessionId : ℤ) :
    Manager :=
  match manager.continues[compareInfo]? with
  | some entry =>
      { manager with
        continues := manager.continues.insert compareInfo
          { entry with sessionId := sessionId } }
  | none => manager

end Manager

end ContinueManager

end Dmsfwk
