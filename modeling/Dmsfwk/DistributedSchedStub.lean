import Dmsfwk.ConnectedAbilities
import Dmsfwk.NlohmannJson

/-!
# Requests between two services

The proxy writes a request into a parcel field by field and puts what was added
to the interface later into a JSON object at the end; the stub of the other
device reads the fields in the same order and takes from the object the members
it knows, when they have the type it expects.  What is missing keeps its default.
-/

namespace Dmsfwk

open CJson Nlohmann

/-! ## Requests -/

/-- The requests to the service of another device, as the proxy gets them and as
the service behind the stub does. -/
inductive SchedRequest (Want AbilityInfo : Type) where
  | startAbility (want : Want) (abilityInfo : AbilityInfo) (requestCode : Int32)
      (callerInfo : CallerInfo) (accountInfo : AccountInfo)
  | sendResult (want : Want) (requestCode : Int32) (callerInfo : CallerInfo)
      (accountInfo : AccountInfo) (resultCode : Int32)
  | connectAbility (want : Want) (abilityInfo : AbilityInfo)
      (connect : RemoteObject) (callerInfo : CallerInfo)
      (accountInfo : AccountInfo)
  | startAbilityByCall (want : Want) (connect : RemoteObject)
      (callerInfo : CallerInfo) (accountInfo : AccountInfo)
  | startFreeInstall (want : Want) (requestCode : Int32)
      (callerInfo : CallerInfo) (accountInfo : AccountInfo) (taskId : Int64)
  | stopExtensionAbility (want : Want) (callerInfo : CallerInfo)
      (accountInfo : AccountInfo) (extensionType : Int32)

/-- What a `MessageParcel` holds, one item for each write. -/
inductive ParcelItem (Want AbilityInfo : Type) where
  | int32 (value : Int32)
  | int64 (value : Int64)
  | string (value : Text)
  | stringVector (values : List Text)
  | remoteObject (object : RemoteObject)
  | want (value : Want)
  | abilityInfo (value : AbilityInfo)

abbrev MessageParcel (Want AbilityInfo : Type) :=
  List (ParcelItem Want AbilityInfo)

/-- What the requests do to wants: the objects in them are removed by the stub,
and a free install carries the bundles of the caller in a want of its own. -/
structure RequestWants (Want : Type) where
  removeRemoteObjectFromWant : Want → Want
  ofBundleNames : List Text → Want
  bundleNames : Want → List Text
  setFreeInstall : Text → List Text → Want → Want

def dmsVersion : Text := "5.0.0".toList

def getCallerInfo (localDeviceId : Text) (callerUid : Int32)
    (accessToken : UInt32) (callerAppId : Text) (bundleNames : List Text)
    (callerInfo : CallerInfo) : CallerInfo :=
  { callerInfo with
    sourceDeviceId := localDeviceId
    uid := callerUid
    accessToken := accessToken
    callerAppId := callerAppId
    bundleNames := bundleNames
    extraInfoJson := setMember "dmsVersion" (.string dmsVersion)
      callerInfo.extraInfoJson }

/-! ## The proxy -/

namespace DistributedSchedProxy

variable {Want AbilityInfo : Type}

def accountExtraInfo (accountInfo : AccountInfo) (json : Json) : Json :=
  setMember "userId" (.ofInt32 accountInfo.userId)
    (setMember "accountId" (.string accountInfo.activeAccountId) json)

def startExtraInfo (callerInfo : CallerInfo) (accountInfo : AccountInfo) :
    Json :=
  copyMember "dmsVersion" callerInfo.extraInfoJson
    (accountExtraInfo accountInfo
      (setMember "accessTokenID" (ofUInt32 callerInfo.accessToken) .null))

def sendResultExtraInfo (library : NlohmannJson) (callerInfo : CallerInfo)
    (accountInfo : AccountInfo) : Json :=
  setMember "callerInfo_ExtraInfoJson"
    (.string (library.dump callerInfo.extraInfoJson))
    (accountExtraInfo accountInfo .null)

def callExtraInfo (callerInfo : CallerInfo) (accountInfo : AccountInfo) :
    Json :=
  copyMember "dmsCallerUidBundleName" callerInfo.extraInfoJson
    (startExtraInfo callerInfo accountInfo)

def freeInstallExtraInfo (callerInfo : CallerInfo) (requestCode : Int32) :
    Json :=
  copyMember "dmsVersion" callerInfo.extraInfoJson
    (setMember "requestCode" (.ofInt32 requestCode)
      (setMember "accessTokenID" (ofUInt32 callerInfo.accessToken) .null))

def stopExtensionExtraInfo (callerInfo : CallerInfo)
    (accountInfo : AccountInfo) : Json :=
  accountExtraInfo accountInfo
    (setMember "accessTokenID" (ofUInt32 callerInfo.accessToken) .null)

def callerItems (callerInfo : CallerInfo) (accountInfo : AccountInfo) :
    MessageParcel Want AbilityInfo :=
  [.string callerInfo.sourceDeviceId, .int32 accountInfo.accountType,
    .stringVector accountInfo.groupIdList, .string callerInfo.callerAppId]

def write (library : NlohmannJson) (wants : RequestWants Want) :
    SchedRequest Want AbilityInfo → Option (MessageParcel Want AbilityInfo)
  | .startAbility want abilityInfo requestCode callerInfo accountInfo =>
      some ([.want want, .abilityInfo abilityInfo, .int32 requestCode,
        .int32 callerInfo.uid] ++ callerItems callerInfo accountInfo ++
        [.string (library.dump (startExtraInfo callerInfo accountInfo))])
  | .sendResult want requestCode callerInfo accountInfo resultCode =>
      some ([.want want, .int32 requestCode, .int32 callerInfo.uid] ++
        callerItems callerInfo accountInfo ++ [.int32 resultCode,
        .string (library.dump
          (sendResultExtraInfo library callerInfo accountInfo))])
  | .connectAbility want abilityInfo connect callerInfo accountInfo =>
      if connect = 0 then none
      else some ([.want want, .abilityInfo abilityInfo, .remoteObject connect,
        .int32 callerInfo.uid, .int32 callerInfo.pid] ++
        callerItems callerInfo accountInfo ++
        [.string (library.dump (startExtraInfo callerInfo accountInfo))])
  | .startAbilityByCall want connect callerInfo accountInfo =>
      if connect = 0 then none
      else some ([.remoteObject connect, .int32 callerInfo.uid,
        .int32 callerInfo.pid] ++ callerItems callerInfo accountInfo ++
        [.string (library.dump (callExtraInfo callerInfo accountInfo)),
          .want want])
  | .startFreeInstall want requestCode callerInfo accountInfo taskId =>
      some ([.want want, .int32 callerInfo.uid] ++
        callerItems callerInfo accountInfo ++
        [.int64 taskId, .want (wants.ofBundleNames callerInfo.bundleNames),
          .string (library.dump
            (freeInstallExtraInfo callerInfo requestCode))])
  | .stopExtensionAbility want callerInfo accountInfo extensionType =>
      some ([.want want, .int32 extensionType, .int32 callerInfo.uid] ++
        callerItems callerInfo accountInfo ++
        [.string (library.dump
          (stopExtensionExtraInfo callerInfo accountInfo))])

end DistributedSchedProxy

/-! ## The stub -/

abbrev ParcelReader (Want AbilityInfo α : Type) :=
  StateT (MessageParcel Want AbilityInfo) Option α

namespace DistributedSchedStub

variable {Want AbilityInfo : Type}

def readInt32 : ParcelReader Want AbilityInfo Int32
  | .int32 value :: data => some (value, data)
  | _ => none

def readInt64 : ParcelReader Want AbilityInfo Int64
  | .int64 value :: data => some (value, data)
  | _ => none

def readString : ParcelReader Want AbilityInfo Text
  | .string value :: data => some (value, data)
  | _ => none

def readStringVector : ParcelReader Want AbilityInfo (List Text)
  | .stringVector values :: data => some (values, data)
  | _ => none

def readWant : ParcelReader Want AbilityInfo Want
  | .want value :: data => some (value, data)
  | _ => none

def readAbilityInfo : ParcelReader Want AbilityInfo AbilityInfo
  | .abilityInfo value :: data => some (value, data)
  | _ => none

/-- `ReadInt32()`, whose failure nobody sees. -/
def int32OrDefault : ParcelReader Want AbilityInfo Int32
  | .int32 value :: data => some (value, data)
  | data => some (0, data)

def stringOrDefault : ParcelReader Want AbilityInfo Text
  | .string value :: data => some (value, data)
  | data => some ([], data)

def remoteObjectOrDefault : ParcelReader Want AbilityInfo RemoteObject
  | .remoteObject object :: data => some (object, data)
  | data => some (0, data)

def readCaller (callerInfo : CallerInfo) :
    ParcelReader Want AbilityInfo (CallerInfo × AccountInfo) := do
  let sourceDeviceId ← readString
  let accountType ← int32OrDefault
  let groupIdList ← readStringVector
  let callerAppId ← stringOrDefault
  let callerInfo := { callerInfo with
    sourceDeviceId := sourceDeviceId
    callerAppId := callerAppId }
  return (callerInfo, {
    accountType := accountType
    groupIdList := groupIdList })

def saveAccessToken (extraInfoJson : Json) (callerInfo : CallerInfo) :
    CallerInfo :=
  match memberIf isNumberUnsigned "accessTokenID" extraInfoJson with
  | some value => { callerInfo with accessToken := toUInt32 value }
  | none => callerInfo

def saveCallerMember (key : String) (extraInfoJson : Json)
    (callerInfo : CallerInfo) : CallerInfo :=
  match memberIf Json.isString key extraInfoJson with
  | some value => { callerInfo with
      extraInfoJson := setMember key (.string (toText value))
        callerInfo.extraInfoJson }
  | none => callerInfo

def saveAccountId (extraInfoJson : Json) (accountInfo : AccountInfo) :
    AccountInfo :=
  match memberIf Json.isString "accountId" extraInfoJson with
  | some value => { accountInfo with activeAccountId := toText value }
  | none => accountInfo

def saveUserId (extraInfoJson : Json) (accountInfo : AccountInfo) :
    AccountInfo :=
  match memberIf isNumber "userId" extraInfoJson with
  | some value => { accountInfo with userId := toInt32 value }
  | none => accountInfo

def saveExtraInfo (extraInfoJson : Json) (callerInfo : CallerInfo)
    (accountInfo : AccountInfo) : CallerInfo × AccountInfo :=
  (saveCallerMember "dmsCallerUidBundleName" extraInfoJson
    (saveCallerMember "dmsVersion" extraInfoJson
      (saveAccessToken extraInfoJson callerInfo)),
    saveUserId extraInfoJson (saveAccountId extraInfoJson accountInfo))

/-- There is no access token among the members.  Discarded information of the
caller is kept as such a value, which is none here. -/
def saveSendResultExtraInfo (library : NlohmannJson) (extraInfoJson : Json)
    (callerInfo : CallerInfo) (accountInfo : AccountInfo) :
    CallerInfo × AccountInfo :=
  let callerInfo :=
    match memberIf Json.isString "callerInfo_ExtraInfoJson" extraInfoJson with
    | some value => { callerInfo with
        extraInfoJson := (library.parse (toText value)).getD .null }
    | none => callerInfo
  (callerInfo, saveUserId extraInfoJson (saveAccountId extraInfoJson accountInfo))

def saveParsed (library : NlohmannJson) (extraInfo : Text)
    (save : Json → CallerInfo → AccountInfo → CallerInfo × AccountInfo)
    (infos : CallerInfo × AccountInfo) : CallerInfo × AccountInfo :=
  match library.parse extraInfo with
  | some extraInfoJson => save extraInfoJson infos.1 infos.2
  | none => infos

def startAbilityFromRemoteInner (library : NlohmannJson)
    (wants : RequestWants Want) :
    ParcelReader Want AbilityInfo (SchedRequest Want AbilityInfo) := do
  let want ← readWant
  let abilityInfo ← readAbilityInfo
  let requestCode ← readInt32
  let uid ← readInt32
  let infos ← readCaller { uid := uid, callerType := callerTypeHarmony }
  let extraInfo ← stringOrDefault
  let infos := if extraInfo ≠ [] then
      saveParsed library extraInfo saveExtraInfo infos
    else infos
  return .startAbility (wants.removeRemoteObjectFromWant want) abilityInfo
    requestCode infos.1 infos.2

def sendResultFromRemoteInner (library : NlohmannJson)
    (wants : RequestWants Want) :
    ParcelReader Want AbilityInfo (SchedRequest Want AbilityInfo) := do
  let want ← readWant
  let requestCode ← readInt32
  let uid ← readInt32
  let infos ← readCaller { uid := uid, callerType := callerTypeHarmony }
  let resultCode ← readInt32
  let extraInfo ← stringOrDefault
  let infos :=
    saveParsed library extraInfo (saveSendResultExtraInfo library) infos
  return .sendResult (wants.removeRemoteObjectFromWant want) requestCode
    infos.1 infos.2 resultCode

def connectAbilityFromRemoteInner (library : NlohmannJson)
    (wants : RequestWants Want) :
    ParcelReader Want AbilityInfo (SchedRequest Want AbilityInfo) := do
  let want ← readWant
  let abilityInfo ← readAbilityInfo
  let connect ← remoteObjectOrDefault
  let uid ← readInt32
  let pid ← readInt32
  let infos ← readCaller
    { uid := uid, pid := pid, callerType := callerTypeHarmony }
  let extraInfo ← stringOrDefault
  let infos := saveParsed library extraInfo saveExtraInfo infos
  return .connectAbility (wants.removeRemoteObjectFromWant want) abilityInfo
    connect infos.1 infos.2

def startAbilityByCallFromRemoteInner (library : NlohmannJson)
    (wants : RequestWants Want) :
    ParcelReader Want AbilityInfo (SchedRequest Want AbilityInfo) := do
  let connect ← remoteObjectOrDefault
  let uid ← readInt32
  let pid ← readInt32
  let infos ← readCaller { uid := uid, pid := pid }
  let extraInfo ← stringOrDefault
  if extraInfo = [] then failure
  let infos := saveParsed library extraInfo saveExtraInfo infos
  let want ← readWant
  return .startAbilityByCall (wants.removeRemoteObjectFromWant want) connect
    infos.1 infos.2

def requestCodeOf (library : NlohmannJson) (extraInfo : Text) : Int32 :=
  match (library.parse extraInfo).bind
      (memberIf isNumberInteger "requestCode") with
  | some value => toInt32 value
  | none => -1

def startFreeInstallFromRemoteInner (library : NlohmannJson)
    (wants : RequestWants Want) :
    ParcelReader Want AbilityInfo (SchedRequest Want AbilityInfo) := do
  let want ← readWant
  let uid ← readInt32
  let infos ← readCaller { uid := uid, callerType := callerTypeHarmony }
  let taskId ← readInt64
  let cmpWant ← readWant
  let extraInfo ← stringOrDefault
  let infos := saveParsed library extraInfo saveExtraInfo infos
  let bundleNames :=
    wants.bundleNames (wants.removeRemoteObjectFromWant cmpWant)
  return .startFreeInstall
    (wants.setFreeInstall infos.1.callerAppId bundleNames
      (wants.removeRemoteObjectFromWant want))
    (requestCodeOf library extraInfo) infos.1 infos.2 taskId

def stopExtensionAbilityFromRemoteInner (library : NlohmannJson)
    (wants : RequestWants Want) :
    ParcelReader Want AbilityInfo (SchedRequest Want AbilityInfo) := do
  let want ← readWant
  let serviceType ← readInt32
  let uid ← readInt32
  let infos ← readCaller { uid := uid, callerType := callerTypeHarmony }
  let extraInfo ← stringOrDefault
  let infos := saveParsed library extraInfo
    (fun extraInfoJson callerInfo accountInfo =>
      (saveAccessToken extraInfoJson callerInfo, accountInfo)) infos
  return .stopExtensionAbility (wants.removeRemoteObjectFromWant want) infos.1
    infos.2 serviceType

def inner (library : NlohmannJson) (wants : RequestWants Want) :
    SchedRequest Want AbilityInfo →
      ParcelReader Want AbilityInfo (SchedRequest Want AbilityInfo)
  | .startAbility .. => startAbilityFromRemoteInner library wants
  | .sendResult .. => sendResultFromRemoteInner library wants
  | .connectAbility .. => connectAbilityFromRemoteInner library wants
  | .startAbilityByCall .. => startAbilityByCallFromRemoteInner library wants
  | .startFreeInstall .. => startFreeInstallFromRemoteInner library wants
  | .stopExtensionAbility .. =>
      stopExtensionAbilityFromRemoteInner library wants

end DistributedSchedStub

end Dmsfwk
