import Dmsfwk.Base64
import Dmsfwk.CJson

/-!
# Commands of a collaboration on the wire

The commands `SINK_GET_VERSION_CMD` and `SINK_START_CMD` with their `Marshal`
and `Unmarshal` functions.  A command travels as a JSON text which contains
further JSON texts as strings; the two parameter sets of a start command share
one parcel, each of the two strings being a Base64 image of the whole parcel.
A function which answers `INVALID_PARAMETERS_ERR` answers `none` here.
-/

namespace Dmsfwk

open ByteCodec CJson

/-! ## Data model -/

structure BaseCmd where
  needSendBigData : Bool := false
  needSendStream : Bool := false
  needRecvStream : Bool := false
  collabVersion : Int32 := -1
  dmsVersion : Int32 := -1
  command : Int32 := -1
  srcCollabSessionId : Int32 := -1
  appVersion : Int32 := -1
  collabToken : Text := []
  srcDeviceId : Text := []
  srcBundleName : Text := []
  srcAbilityName : Text := []
  srcModuleName : Text := []
  srcServerId : Text := []
  sinkDeviceId : Text := []
  sinkBundleName : Text := []
  sinkAbilityName : Text := []
  sinkModuleName : Text := []
  sinkServerId : Text := []
  deriving DecidableEq

structure GetSinkCollabVersionCmd where
  base : BaseCmd := {}
  srcPid : Int32 := -1
  srcUid : Int32 := -1
  srcAccessToken : Int32 := -1
  sinkCollabVersion : Int32 := -1
  deriving DecidableEq

structure CallerInfo where
  uid : Int32 := -1
  pid : Int32 := -1
  callerType : Int32 := 0
  sourceDeviceId : Text := []
  duid : Int32 := -1
  callerAppId : Text := []
  bundleNames : List Text := []
  dmsVersion : Int32 := -1
  accessToken : UInt32 := 0
  extraInfoJson : Json := .null

structure AccountInfo where
  accountType : Int32 := 1
  groupIdList : List Text := []
  activeAccountId : Text := []
  userId : Int32 := -1
  deriving DecidableEq

structure SinkStartCmd (Params : Type) where
  base : BaseCmd := {}
  srcPid : Int32 := -1
  srcUid : Int32 := -1
  srcAccessToken : Int32 := -1
  -- hides the member of the same name in `BaseCmd`
  appVersion : Int32 := -1
  callerInfo : CallerInfo := {}
  accountInfo : AccountInfo := {}
  startParams : Params
  messageParams : Params

/-! ## Parcels -/

structure Parcel where
  data : Bytes := []
  readCursor : ℕ := 0
  deriving DecidableEq, Repr

/-- `Parcel` and `WantParams` of the system libraries.  Marshalling appends to
the parcel and unmarshalling reads at its cursor. -/
structure ParcelLibrary (Params : Type) where
  maxCapacity : ℕ
  setDataCapacity : Parcel → ℕ → Bool
  marshalling : Params → Parcel → Option Parcel
  unmarshalling : Parcel → Option (Params × Parcel)

def parcelToBase64Str (parcel : Parcel) : Text :=
  base64Encode parcel.data

/-- `Base64StrToParcel` replaces the data and leaves the read cursor. -/
def base64StrToParcel {Params : Type} (parcels : ParcelLibrary Params)
    (rawStr : Text) (parcel : Parcel) : Option Parcel :=
  let str := base64Decode rawStr
  if !parcels.setDataCapacity parcel str.length then none
  else if parcels.maxCapacity < str.length then none
  else some { parcel with data := str }

/-! ## The base command -/

def BaseCmd.json (cmd : BaseCmd) : Json :=
  .object [
    ("Command", .ofInt32 cmd.command),
    ("CollabVersion", .ofInt32 cmd.collabVersion),
    ("DmsVersion", .ofInt32 cmd.dmsVersion),
    ("CollabSessionId", .ofInt32 cmd.srcCollabSessionId),
    ("CollabToken", .string (cStr cmd.collabToken)),
    ("SrcDeviceId", .string (cStr cmd.srcDeviceId)),
    ("SrcBundleName", .string (cStr cmd.srcBundleName)),
    ("SrcAbilityName", .string (cStr cmd.srcAbilityName)),
    ("SrcModuleName", .string (cStr cmd.srcModuleName)),
    ("SrcServiceId", .string (cStr cmd.srcServerId)),
    ("SinkDeviceId", .string (cStr cmd.sinkDeviceId)),
    ("SinkBundleName", .string (cStr cmd.sinkBundleName)),
    ("SinkAbilityName", .string (cStr cmd.sinkAbilityName)),
    ("SinkModuleName", .string (cStr cmd.sinkModuleName)),
    ("SinkServiceId", .string (cStr cmd.sinkServerId)),
    ("NeedSendBigData", .bool cmd.needSendBigData),
    ("NeedSendStream_", .bool cmd.needSendStream),
    ("NeedRecvStream", .bool cmd.needRecvStream)]

def BaseCmd.marshal (cjson : Library) (cmd : BaseCmd) : Option Text :=
  cjson.print cmd.json

def BaseCmd.read (cmd : BaseCmd) (root : Json) : Option BaseCmd := do
  let command ← root.getNumber "Command"
  let collabVersion ← root.getNumber "CollabVersion"
  let dmsVersion ← root.getNumber "DmsVersion"
  let srcCollabSessionId ← root.getNumber "CollabSessionId"
  let collabToken ← root.getString "CollabToken"
  let srcDeviceId ← root.getString "SrcDeviceId"
  let srcBundleName ← root.getString "SrcBundleName"
  let srcAbilityName ← root.getString "SrcAbilityName"
  let srcModuleName ← root.getString "SrcModuleName"
  let srcServerId ← root.getString "SrcServiceId"
  let sinkDeviceId ← root.getString "SinkDeviceId"
  let sinkBundleName ← root.getString "SinkBundleName"
  let sinkAbilityName ← root.getString "SinkAbilityName"
  let sinkModuleName ← root.getString "SinkModuleName"
  let sinkServerId ← root.getString "SinkServiceId"
  let needSendBigData ← root.getBool "NeedSendBigData"
  let needSendStream ← root.getBool "NeedSendStream_"
  let needRecvStream ← root.getBool "NeedRecvStream"
  return { cmd with
    command, collabVersion, dmsVersion, srcCollabSessionId, collabToken,
    srcDeviceId, srcBundleName, srcAbilityName, srcModuleName, srcServerId,
    sinkDeviceId, sinkBundleName, sinkAbilityName, sinkModuleName,
    sinkServerId, needSendBigData, needSendStream, needRecvStream }

def BaseCmd.unmarshal (cjson : Library) (cmd : BaseCmd) (jsonStr : Text) :
    Option BaseCmd := do
  let root ← cjson.parse (cStr jsonStr)
  cmd.read root

/-! ## The version command -/

namespace GetSinkCollabVersionCmd

def document (cjson : Library) (cmd : GetSinkCollabVersionCmd) :
    Option Json := do
  let baseJsonStr ← cmd.base.marshal cjson
  return .object [
    ("BaseCmd", .string (cStr baseJsonStr)),
    ("SrcPid", .ofInt32 cmd.srcPid),
    ("SrcUid", .ofInt32 cmd.srcUid),
    ("SrcAccessToken", .ofInt32 cmd.srcAccessToken),
    ("SinkCollabVersion", .ofInt32 cmd.sinkCollabVersion)]

def marshal (cjson : Library) (cmd : GetSinkCollabVersionCmd) :
    Option Text := do
  let root ← cmd.document cjson
  cjson.print root

def unmarshal (cjson : Library) (cmd : GetSinkCollabVersionCmd)
    (jsonStr : Text) : Option GetSinkCollabVersionCmd := do
  let root ← cjson.parse (cStr jsonStr)
  let baseCmdStr ← root.getString "BaseCmd"
  let base ← cmd.base.unmarshal cjson baseCmdStr
  let srcPid ← root.getNumber "SrcPid"
  let srcUid ← root.getNumber "SrcUid"
  let srcAccessToken ← root.getNumber "SrcAccessToken"
  let sinkCollabVersion ← root.getNumber "SinkCollabVersion"
  return { cmd with base, srcPid, srcUid, srcAccessToken, sinkCollabVersion }

end GetSinkCollabVersionCmd

/-! ## The start command -/

namespace CallerInfo

def json (dump : Json → Text) (info : CallerInfo) : Json :=
  .object [
    ("Uid", .ofInt32 info.uid),
    ("Pid", .ofInt32 info.pid),
    ("CallerType", .ofInt32 info.callerType),
    ("SourceDeviceId", .string (cStr info.sourceDeviceId)),
    ("Duid", .ofInt32 info.duid),
    ("CallerAppId", .string (cStr info.callerAppId)),
    ("BundleNames", .ofTexts info.bundleNames),
    ("ExtraInfo", .string (cStr (dump info.extraInfoJson)))]

/-- `extraInfoJson[key] = value` on an object or on the null value. -/
def setExtra (extra : Json) (key : String) (value : Text) : Json :=
  match extra with
  | .object members =>
      .object (members.filter (fun m => m.1 != key) ++ [(key, .string value)])
  | _ => .object [(key, .string value)]

/-- The last part of `UnmarshalCallerInfoExtra`.  Its guard asks for a
`valuestring` in a value which is not a string. -/
def readExtraInfoJson (initial extra : Json) : Json :=
  match extra.getObjectItemCaseSensitive "dmsVersion" with
  | none => initial
  | some version =>
      if version.isString then initial
      else version.valuestring.elim initial (setExtra initial "dmsVersion")

def unmarshalExtra (cjson : Library) (info : CallerInfo) (jsonStr : Text) :
    Option CallerInfo := do
  let root ← cjson.parse (cStr jsonStr)
  let bundleNames ← root.getStrings "BundleNames"
  let extraInfo ← root.getString "ExtraInfo"
  let extra ← cjson.parse extraInfo
  let accessToken := (extra.getNumber "accessTokenID").elim info.accessToken
    Int32.toUInt32
  let extraInfoJson := readExtraInfoJson info.extraInfoJson extra
  return { info with bundleNames, accessToken, extraInfoJson }

def unmarshal (cjson : Library) (info : CallerInfo) (jsonStr : Text) :
    Option CallerInfo := do
  let root ← cjson.parse (cStr jsonStr)
  let sourceDeviceId ← root.getString "SourceDeviceId"
  let callerAppId ← root.getString "CallerAppId"
  let uid ← root.getNumber "Uid"
  let pid ← root.getNumber "Pid"
  let callerType ← root.getNumber "CallerType"
  let duid ← root.getNumber "Duid"
  unmarshalExtra cjson
    { info with sourceDeviceId, callerAppId, uid, pid, callerType, duid }
    jsonStr

end CallerInfo

namespace AccountInfo

def json (info : AccountInfo) : Json :=
  .object [
    ("AccountType", .ofInt32 info.accountType),
    ("GroupIdList", .ofTexts info.groupIdList),
    ("accountId", .string (cStr info.activeAccountId)),
    ("userId", .ofInt32 info.userId)]

/-- `UnmarshalAccountInfo`, in which the last two members may be missing. -/
def unmarshal (cjson : Library) (info : AccountInfo) (jsonStr : Text) :
    Option AccountInfo := do
  let root ← cjson.parse (cStr jsonStr)
  let accountType ← root.getNumber "AccountType"
  let groupIdList ← root.getStrings "groupIdList"
  let activeAccountId := (root.getString "accountId").getD info.activeAccountId
  let userId := (root.getNumber "userId").getD info.userId
  return { accountType, groupIdList, activeAccountId, userId }

end AccountInfo

namespace SinkStartCmd

variable {Params : Type}

def root (cmd : SinkStartCmd Params)
    (baseJsonStr startParamsStr wantParamsStr callerInfoStr accountInfoStr :
      Text) : Json :=
  .object [
    ("BaseCmd", .string (cStr baseJsonStr)),
    ("AppVersion", .ofInt32 cmd.appVersion),
    ("SrcPid", .ofInt32 cmd.srcPid),
    ("SrcUid", .ofInt32 cmd.srcUid),
    ("SrcAccessToken", .ofInt32 cmd.srcAccessToken),
    ("StartParams", .string (cStr startParamsStr)),
    ("WantParams", .string (cStr wantParamsStr)),
    ("CallerInfo", .string (cStr callerInfoStr)),
    ("AccountInfo", .string (cStr accountInfoStr))]

def document (cjson : Library) (dump : Json → Text)
    (parcels : ParcelLibrary Params) (cmd : SinkStartCmd Params) :
    Option Json := do
  let baseJsonStr ← cmd.base.marshal cjson
  let startParcel ← parcels.marshalling cmd.startParams {}
  let wantParcel ← parcels.marshalling cmd.messageParams startParcel
  let callerInfoStr ← cjson.print (cmd.callerInfo.json dump)
  let accountInfoStr ← cjson.print cmd.accountInfo.json
  return cmd.root baseJsonStr (parcelToBase64Str startParcel)
    (parcelToBase64Str wantParcel) callerInfoStr accountInfoStr

def marshal (cjson : Library) (dump : Json → Text)
    (parcels : ParcelLibrary Params) (cmd : SinkStartCmd Params) :
    Option Text := do
  let root ← cmd.document cjson dump parcels
  cjson.print root

/-- `UnmarshalOptParams`: both images go through one parcel, the second one is
read from where the first one ended. -/
def unmarshalOptParams (parcels : ParcelLibrary Params)
    (cmd : SinkStartCmd Params) (root : Json) :
    Option (SinkStartCmd Params) := do
  let startParamsStr ← root.getString "StartParams"
  let startParcel ← base64StrToParcel parcels startParamsStr {}
  let (startParams, readParcel) ← parcels.unmarshalling startParcel
  let wantParamsStr ← root.getString "WantParams"
  let wantParcel ← base64StrToParcel parcels wantParamsStr readParcel
  let (messageParams, _) ← parcels.unmarshalling wantParcel
  return { cmd with startParams, messageParams }

def unmarshalPartParcel (cjson : Library) (parcels : ParcelLibrary Params)
    (cmd : SinkStartCmd Params) (root : Json) :
    Option (SinkStartCmd Params) := do
  let cmd ← cmd.unmarshalOptParams parcels root
  let callerInfoStr ← root.getString "CallerInfo"
  let callerInfo ← cmd.callerInfo.unmarshal cjson callerInfoStr
  let accountInfoStr ← root.getString "AccountInfo"
  let accountInfo ← cmd.accountInfo.unmarshal cjson accountInfoStr
  return { cmd with callerInfo, accountInfo }

def unmarshal (cjson : Library) (parcels : ParcelLibrary Params)
    (cmd : SinkStartCmd Params) (jsonStr : Text) :
    Option (SinkStartCmd Params) := do
  let root ← cjson.parse (cStr jsonStr)
  let baseCmdStr ← root.getString "BaseCmd"
  let base ← cmd.base.unmarshal cjson baseCmdStr
  let appVersion ← root.getNumber "AppVersion"
  let srcPid ← root.getNumber "SrcPid"
  let srcUid ← root.getNumber "SrcUid"
  let srcAccessToken ← root.getNumber "SrcAccessToken"
  unmarshalPartParcel cjson parcels
    { cmd with base, appVersion, srcPid, srcUid, srcAccessToken } root

end SinkStartCmd

end Dmsfwk
