import Dmsfwk.DSchedContinuation
import Dmsfwk.DistributedSchedService

/-!
# Registrations with the continuation manager

An application registers for a token and sets a notifier for each type of event
of the token.  The service watches notifiers through one death recipient; a
notifier which dies is handled by a task of `continuationHandler_`.
-/

namespace Dmsfwk

open SchedErr

namespace SchedErr

def registerExceedMaxTimes : Int32 := 29360207

def tokenHasNotRegistered : Int32 := 29360208

def callbackHasRegistered : Int32 := 29360209

def callbackHasNotRegistered : Int32 := 29360210

def unknownCallbackType : Int32 := 29360214

def invalidContinuationMode : Int32 := 29360216

end SchedErr

def eventConnect : Text := "deviceSelected".toList

def eventDisconnect : Text := "deviceUnselected".toList

def maxTokenNum : Int32 := 100000000

def maxRegisterNum : ℕ := 600

structure NotifierInfo where
  notifierMap : Std.TreeMap Text RemoteObject := ∅

namespace NotifierInfo

def getNotifier (info : NotifierInfo) (cbType : Text) : Option RemoteObject :=
  info.notifierMap[cbType]?

def setNotifier (cbType : Text) (notifier : RemoteObject)
    (info : NotifierInfo) : NotifierInfo where
  notifierMap := info.notifierMap.insert cbType notifier

def deleteNotifier (cbType : Text) (info : NotifierInfo) : NotifierInfo where
  notifierMap := info.notifierMap.erase cbType

def queryNotifier (info : NotifierInfo) (notifier : RemoteObject) : Bool :=
  info.notifierMap.toList.any (·.2 = notifier)

def isNotifierMapEmpty (info : NotifierInfo) : Bool :=
  info.notifierMap.isEmpty

end NotifierInfo

structure NotifierObjects where
  /-- Those which carry `notifierDeathRecipient_`, once for each time. -/
  deathRecipients : List RemoteObject := []
  dead : List RemoteObject := []

namespace NotifierObjects

def addDeathRecipient (notifier : RemoteObject) (objects : NotifierObjects) :
    NotifierObjects :=
  if notifier ∈ objects.dead then objects
  else
    { objects with deathRecipients := objects.deathRecipients ++ [notifier] }

def removeDeathRecipient (notifier : RemoteObject)
    (objects : NotifierObjects) : NotifierObjects :=
  { objects with deathRecipients := objects.deathRecipients.erase notifier }

/-- `RemoveDeathRecipient` of the notifiers of a token. -/
def removeDeathRecipients (info : NotifierInfo) (objects : NotifierObjects) :
    NotifierObjects :=
  (info.notifierMap.toList.map Prod.snd).foldl (fun objects notifier =>
    objects.removeDeathRecipient notifier) objects

end NotifierObjects

structure DistributedAbilityManagerService where
  token : Int32 := 0
  tokenMap : Std.TreeMap UInt32 (List Int32) := ∅
  callbackMap : Std.TreeMap Int32 NotifierInfo := ∅
  objects : NotifierObjects := {}
  /-- The deaths which `continuationHandler_` has not handled yet. -/
  tasks : List RemoteObject := []

namespace DistributedAbilityManagerService

def isContinuationModeValid (continuationMode : Int32) : Bool :=
  0 ≤ continuationMode && continuationMode ≤ 1

def isExceededRegisterMaxNum (service : DistributedAbilityManagerService)
    (accessToken : UInt32) : Bool :=
  match service.tokenMap[accessToken]? with
  | some tokens => maxRegisterNum ≤ tokens.length
  | none => false

def isTokenRegistered (service : DistributedAbilityManagerService)
    (accessToken : UInt32) (token : Int32) : Bool :=
  match service.tokenMap[accessToken]? with
  | some tokens => tokens.contains token
  | none => false

def isNotifierRegisteredLocked (service : DistributedAbilityManagerService)
    (token : Int32) (cbType : Text) : Bool :=
  match service.callbackMap[token]? with
  | some info => (info.getNotifier cbType).isSome
  | none => false

def nextToken (service : DistributedAbilityManagerService) : Int32 :=
  if maxTokenNum < service.token + 1 then 1 else service.token + 1

def register (accessToken : UInt32) (continuationMode : Option Int32)
    (service : DistributedAbilityManagerService) :
    (Int32 × Int32) × DistributedAbilityManagerService :=
  if continuationMode.any fun mode => !isContinuationModeValid mode then
    ((invalidContinuationMode, -1), service)
  else if service.isExceededRegisterMaxNum accessToken then
    ((registerExceedMaxTimes, -1), service)
  else
    let tToken := service.nextToken
    let tokens := (service.tokenMap[accessToken]?).getD []
    ((errOk, tToken), { service with
      token := tToken
      tokenMap := service.tokenMap.insert accessToken (tokens ++ [tToken]) })

def eraseToken (token : Int32) :
    List UInt32 → Std.TreeMap UInt32 (List Int32) →
      Std.TreeMap UInt32 (List Int32)
  | [], tokenMap => tokenMap
  | accessToken :: rest, tokenMap =>
      match tokenMap[accessToken]? with
      | none => eraseToken token rest tokenMap
      | some tokens =>
          let kept := tokens.filter (· ≠ token)
          if kept = [] then tokenMap.erase accessToken
          else eraseToken token rest (tokenMap.insert accessToken kept)

def removeToken (token : Int32) (service : DistributedAbilityManagerService) :
    DistributedAbilityManagerService :=
  { service with
      objects :=
        match service.callbackMap[token]? with
        | some info => service.objects.removeDeathRecipients info
        | none => service.objects
      callbackMap := service.callbackMap.erase token
      tokenMap := eraseToken token service.tokenMap.keys service.tokenMap }

def unregister (accessToken : UInt32) (token : Int32)
    (service : DistributedAbilityManagerService) :
    Int32 × DistributedAbilityManagerService :=
  if service.isTokenRegistered accessToken token = false then
    (tokenHasNotRegistered, service)
  else (errOk, service.removeToken token)

def registerDeviceSelectionCallback (accessToken : UInt32) (token : Int32)
    (cbType : Text) (notifier : RemoteObject)
    (service : DistributedAbilityManagerService) :
    Int32 × DistributedAbilityManagerService :=
  if cbType ≠ eventConnect ∧ cbType ≠ eventDisconnect then
    (unknownCallbackType, service)
  else if service.isTokenRegistered accessToken token = false then
    (tokenHasNotRegistered, service)
  else if service.isNotifierRegisteredLocked token cbType then
    (callbackHasRegistered, service)
  else match service.callbackMap[token]? with
    | some info =>
        (errOk, { service with
          callbackMap := service.callbackMap.insert token
            (info.setNotifier cbType notifier) })
    | none =>
        (errOk, { service with
          callbackMap := service.callbackMap.insert token
            (NotifierInfo.setNotifier cbType notifier {})
          objects := service.objects.addDeathRecipient notifier })

def unregisterDeviceSelectionCallback (accessToken : UInt32) (token : Int32)
    (cbType : Text) (service : DistributedAbilityManagerService) :
    Int32 × DistributedAbilityManagerService :=
  if cbType ≠ eventConnect ∧ cbType ≠ eventDisconnect then
    (unknownCallbackType, service)
  else if service.isTokenRegistered accessToken token = false then
    (tokenHasNotRegistered, service)
  else if service.isNotifierRegisteredLocked token cbType = false then
    (callbackHasNotRegistered, service)
  else match service.callbackMap[token]? with
    | none => (errOk, service)
    | some info =>
        let deleted := info.deleteNotifier cbType
        (errOk, { service with
          objects :=
            match info.getNotifier cbType with
            | some notifier => service.objects.removeDeathRecipient notifier
            | none => service.objects
          callbackMap :=
            if deleted.isNotifierMapEmpty then service.callbackMap.erase token
            else service.callbackMap.insert token deleted })

def queryTokenByNotifier (service : DistributedAbilityManagerService)
    (notifier : RemoteObject) : Option Int32 :=
  (OrderedMap.firstMatch service.callbackMap
    (·.queryNotifier notifier)).map Prod.fst

def notifierDied (notifier : RemoteObject)
    (service : DistributedAbilityManagerService) :
    DistributedAbilityManagerService :=
  { service with
      objects := {
        deathRecipients :=
          service.objects.deathRecipients.filter (· ≠ notifier)
        dead := service.objects.dead ++ [notifier] }
      tasks := service.tasks ++
        service.objects.deathRecipients.filter (· = notifier) }

def handleNotifierDied (notifier : RemoteObject)
    (service : DistributedAbilityManagerService) :
    DistributedAbilityManagerService :=
  match service.queryTokenByNotifier notifier with
  | none => service
  | some token => service.removeToken token

def runTask (service : DistributedAbilityManagerService) :
    DistributedAbilityManagerService :=
  match service.tasks with
  | [] => service
  | notifier :: rest =>
      { service with tasks := rest }.handleNotifierDied notifier

end DistributedAbilityManagerService

inductive RegistrationEvent where
  | register (accessToken : UInt32) (continuationMode : Option Int32)
  | unregister (accessToken : UInt32) (token : Int32)
  | registerDeviceSelectionCallback (accessToken : UInt32) (token : Int32)
      (cbType : Text) (notifier : RemoteObject)
  | unregisterDeviceSelectionCallback (accessToken : UInt32) (token : Int32)
      (cbType : Text)
  | notifierDied (notifier : RemoteObject)
  | runTask

namespace DistributedAbilityManagerService

def step (service : DistributedAbilityManagerService) :
    RegistrationEvent → Int32 × DistributedAbilityManagerService
  | .register accessToken continuationMode =>
      let next := service.register accessToken continuationMode
      (next.1.1, next.2)
  | .unregister accessToken token => service.unregister accessToken token
  | .registerDeviceSelectionCallback accessToken token cbType notifier =>
      service.registerDeviceSelectionCallback accessToken token cbType notifier
  | .unregisterDeviceSelectionCallback accessToken token cbType =>
      service.unregisterDeviceSelectionCallback accessToken token cbType
  | .notifierDied notifier => (errOk, service.notifierDied notifier)
  | .runTask => (errOk, service.runTask)

end DistributedAbilityManagerService

end Dmsfwk
