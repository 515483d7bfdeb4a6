import Dmsfwk.DSchedCollabEvent

/-!
# Commands of a continuation on the wire

The four commands of a continuation with their `Marshal` and `Unmarshal`
functions.  Each nests the JSON text of the base command in its own; a data
command also carries two parcels and the texts of its caller and its account,
which are written and read as in a start command of a collaboration.  A function
which answers `INVALID_PARAMETERS_ERR` answers `none` here.
-/

namespace Dmsfwk

open ByteCodec CJson

/-! ## Data model -/

structure DSchedContinueCmdBase where
  version : Int32 := 0
  serviceType : Int32 := 0
  subServiceType : Int32 := 0
  command : Int32 := 0
  srcDeviceId : Text := []
  srcBundleName : Text := []
  srcDeveloperId : Text := []
  dstDeviceId : Text := []
  dstBundleName : Text := []
  dstDeveloperId : Text := []
  continueType : Text := []
  continueByType : Int32 := 0
  sourceMissionId : Int32 := 0
  dmsVersion : Int32 := 0
  deriving DecidableEq

structure DSchedContinueStartCmd (Params : Type) where
  base : DSchedContinueCmdBase := {}
  direction : Int32 := 0
  appVersion : Int32 := 0
  wantParams : Params

/-- The request code of a data command has no initial value. -/
structure DSchedContinueDataCmd (Want AbilityInfo : Type) where
  base : DSchedContinueCmdBase := {}
  want : Want
  abilityInfo : AbilityInfo
  requestCode : Int32
  callerInfo : CallerInfo := {}
  accountInfo : AccountInfo := {}

structure DSchedContinueReplyCmd where
  base : DSchedContinueCmdBase := {}
  replyCmd : Int32 := 0
  appVersion : Int32 := 0
  result : Int32 := 0
  reason : Text := []
  deriving DecidableEq

structure DSchedContinueEndCmd where
  base : DSchedContinueCmdBase := {}
  result : Int32
  deriving DecidableEq

/-! ## The base command -/

namespace DSchedContinueCmdBase

def json (cmd : DSchedContinueCmdBase) : Json :=
  .object [
    ("Version", .ofInt32 cmd.version),
    ("ServiceType", .ofInt32 cmd.serviceType),
    ("SubServiceType", .ofInt32 cmd.subServiceType),
    ("Command", .ofInt32 cmd.command),
    ("SrcDeviceId", .string (cStr cmd.srcDeviceId)),
    ("SrcBundleName", .string (cStr cmd.srcBundleName)),
    ("SrcDeveloperId", .string (cStr cmd.srcDeveloperId)),
    ("DstDeviceId", .string (cStr cmd.dstDeviceId)),
    ("DstBundleName", .string (cStr cmd.dstBundleName)),
    ("DstDeveloperId", .string (cStr cmd.dstDeveloperId)),
    ("ContinueType", .string (cStr cmd.continueType)),
    ("ContinueByType", .ofInt32 cmd.continueByType),
    ("SourceMissionId", .ofInt32 cmd.sourceMissionId),
    ("DmsVersion", .ofInt32 cmd.dmsVersion)]

def marshal (cjson : Library) (cmd : DSchedContinueCmdBase) : Option Text :=
  cjson.print cmd.json

/-- The developer ids may be missing, and the command is not among the numbers
which are read. -/
def read (cmd : DSchedContinueCmdBase) (root : Json) :
    Option DSchedContinueCmdBase := do
  let version ← root.getNumber "Version"
  let serviceType ← root.getNumber "ServiceType"
  let subServiceType ← root.getNumber "SubServiceType"
  let continueByType ← root.getNumber "ContinueByType"
  let sourceMissionId ← root.getNumber "SourceMissionId"
  let dmsVersion ← root.getNumber "DmsVersion"
  let srcDeviceId ← root.getString "SrcDeviceId"
  let srcBundleName ← root.getString "SrcBundleName"
  let dstDeviceId ← root.getString "DstDeviceId"
  let dstBundleName ← root.getString "DstBundleName"
  let continueType ← root.getString "ContinueType"
  let srcDeveloperId := (root.getString "SrcDeveloperId").getD []
  let dstDeveloperId := (root.getString "DstDeveloperId").getD []
  return { cmd with
    version, serviceType, subServiceType, continueByType, sourceMissionId,
    dmsVersion, srcDeviceId, srcBundleName, dstDeviceId, dstBundleName,
    continueType, srcDeveloperId, dstDeveloperId }

def unmarshal (cjson : Library) (cmd : DSchedContinueCmdBase)
    (jsonStr : Text) : Option DSchedContinueCmdBase := do
  let root ← cjson.parse (cStr jsonStr)
  cmd.read root

end DSchedContinueCmdBase

/-! ## Parcels in a command -/

def ParcelLibrary.image {α : Type} (parcels : ParcelLibrary α) (value : α) :
    Option Text := do
  let parcel ← parcels.marshalling value {}
  return parcelToBase64Str parcel

def ParcelLibrary.ofImage {α : Type} (parcels : ParcelLibrary α)
    (rawStr : Text) : Option α := do
  let parcel ← base64StrToParcel parcels rawStr {}
  let (value, _) ← parcels.unmarshalling parcel
  return value

/-! ## The start command -/

namespace DSchedContinueStartCmd

variable {Params : Type}

def root (cmd : DSchedContinueStartCmd Params)
    (baseJsonStr wantParamsStr : Text) : Json :=
  .object [
    ("BaseCmd", .string (cStr baseJsonStr)),
    ("Direction", .ofInt32 cmd.direction),
    ("AppVersion", .ofInt32 cmd.appVersion),
    ("WantParams", .string (cStr wantParamsStr))]

def document (cjson : Library) (parcels : ParcelLibrary Params)
    (cmd : DSchedContinueStartCmd Params) : Option Json := do
  let baseJsonStr ← cmd.base.marshal cjson
  let wantParamsStr ← parcels.image cmd.wantParams
  return cmd.root baseJsonStr wantParamsStr

def marshal (cjson : Library) (parcels : ParcelLibrary Params)
    (cmd : DSchedContinueStartCmd Params) : Option Text := do
  let root ← cmd.document cjson parcels
  cjson.print root

def unmarshal (cjson : Library) (parcels : ParcelLibrary Params)
    (cmd : DSchedContinueStartCmd Params) (jsonStr : Text) :
    Option (DSchedContinueStartCmd Params) := do
  let root ← cjson.parse (cStr jsonStr)
  let baseCmdStr ← root.getString "BaseCmd"
  let base ← cmd.base.unmarshal cjson baseCmdStr
  let direction ← root.getNumber "Direction"
  let appVersion ← root.getNumber "AppVersion"
  let wantParamsStr ← root.getString "WantParams"
  let wantParams ← parcels.ofImage wantParamsStr
  return { base, direction, appVersion, wantParams }

end DSchedContinueStartCmd

/-! ## The data command -/

def int32Size (size : ℕ) : ℕ :=
  (Int32.ofNat size).toInt.toNat

def countedTexts (texts : List Text) : List Text :=
  texts.take (int32Size texts.length)

namespace DSchedContinueDataCmd

variable {Want AbilityInfo : Type}

def callerJson (dump : Json → Text)
    (cmd : DSchedContinueDataCmd Want AbilityInfo) : Json :=
  { cmd.callerInfo with
    bundleNames := countedTexts cmd.callerInfo.bundleNames }.json dump

def accountJson (cmd : DSchedContinueDataCmd Want AbilityInfo) : Json :=
  { cmd.accountInfo with
    groupIdList := countedTexts cmd.accountInfo.groupIdList }.json

def root (cmd : DSchedContinueDataCmd Want AbilityInfo)
    (baseJsonStr wantStr abilityInfoStr callerInfoStr accountInfoStr : Text) :
    Json :=
  .object [
    ("BaseCmd", .string (cStr baseJsonStr)),
    ("Want", .string (cStr wantStr)),
    ("AbilityInfo", .string (cStr abilityInfoStr)),
    ("RequestCode", .ofInt32 cmd.requestCode),
    ("CallerInfo", .string (cStr callerInfoStr)),
    ("AccountInfo", .string (cStr accountInfoStr))]

def document (cjson : Library) (dump : Json → Text)
    (wants : ParcelLibrary Want) (abilities : ParcelLibrary AbilityInfo)
    (cmd : DSchedContinueDataCmd Want AbilityInfo) : Option Json := do
  let baseJsonStr ← cmd.base.marshal cjson
  let wantStr ← wants.image cmd.want
  let abilityInfoStr ← abilities.image cmd.abilityInfo
  let callerInfoStr ← cjson.print (cmd.callerJson dump)
  let accountInfoStr ← cjson.print cmd.accountJson
  return cmd.root baseJsonStr wantStr abilityInfoStr callerInfoStr
    accountInfoStr

def marshal (cjson : Library) (dump : Json → Text)
    (wants : ParcelLibrary Want) (abilities : ParcelLibrary AbilityInfo)
    (cmd : DSchedContinueDataCmd Want AbilityInfo) : Option Text := do
  let root ← cmd.document cjson dump wants abilities
  cjson.print root

/-- `UnmarshalParcel`, which parses the text of the command a second time. -/
def unmarshalParcel (cjson : Library) (wants : ParcelLibrary Want)
    (abilities : ParcelLibrary AbilityInfo) (jsonStr : Text) :
    Option (Want × AbilityInfo) := do
  let root ← cjson.parse (cStr jsonStr)
  let wantStr ← root.getString "Want"
  let want ← wants.ofImage wantStr
  let abilityInfoStr ← root.getString "AbilityInfo"
  let abilityInfo ← abilities.ofImage abilityInfoStr
  return (want, abilityInfo)

def unmarshal (cjson : Library) (wants : ParcelLibrary Want)
    (abilities : ParcelLibrary AbilityInfo)
    (cmd : DSchedContinueDataCmd Want AbilityInfo) (jsonStr : Text) :
    Option (DSchedContinueDataCmd Want AbilityInfo) := do
  let root ← cjson.parse (cStr jsonStr)
  let baseCmdStr ← root.getString "BaseCmd"
  let base ← cmd.base.unmarshal cjson baseCmdStr
  let (want, abilityInfo) ← unmarshalParcel cjson wants abilities jsonStr
  let requestCode ← root.getNumber "RequestCode"
  let callerInfoStr ← root.getString "CallerInfo"
  let callerInfo ← cmd.callerInfo.unmarshal cjson callerInfoStr
  let accountInfoStr ← root.getString "AccountInfo"
  let accountInfo ← cmd.accountInfo.unmarshal cjson accountInfoStr
  return { base, want, abilityInfo, requestCode, callerInfo, accountInfo }

end DSchedContinueDataCmd

/-! ## The reply command -/

namespace DSchedContinueReplyCmd

def document (cjson : Library) (cmd : DSchedContinueReplyCmd) :
    Option Json := do
  let baseJsonStr ← cmd.base.marshal cjson
  return .object [
    ("BaseCmd", .string (cStr baseJsonStr)),
    ("ReplyCmd", .ofInt32 cmd.replyCmd),
    ("AppVersion", .ofInt32 cmd.appVersion),
    ("Result", .ofInt32 cmd.result),
    ("Reason", .string (cStr cmd.reason))]

def marshal (cjson : Library) (cmd : DSchedContinueReplyCmd) :
    Option Text := do
  let root ← cmd.document cjson
  cjson.print root

def unmarshal (cjson : Library) (cmd : DSchedContinueReplyCmd)
    (jsonStr : Text) : Option DSchedContinueReplyCmd := do
  let root ← cjson.parse (cStr jsonStr)
  let baseCmdStr ← root.getString "BaseCmd"
  let base ← cmd.base.unmarshal cjson baseCmdStr
  let replyCmd ← root.getNumber "ReplyCmd"
  let appVersion ← root.getNumber "AppVersion"
  let result ← root.getNumber "Result"
  let reason ← root.getString "Reason"
  return { base, replyCmd, appVersion, result, reason }

end DSchedContinueReplyCmd

/-! ## The end command -/

namespace DSchedContinueEndCmd

def document (cjson : Library) (cmd : DSchedContinueEndCmd) :
    Option Json := do
  let baseJsonStr ← cmd.base.marshal cjson
  return .object [
    ("BaseCmd", .string (cStr baseJsonStr)),
    ("Result", .ofInt32 cmd.result)]

def marshal (cjson : Library) (cmd : DSchedContinueEndCmd) :
    Option Text := do
  let root ← cmd.document cjson
  cjson.print root

def unmarshal (cjson : Library) (cmd : DSchedContinueEndCmd)
    (jsonStr : Text) : Option DSchedContinueEndCmd := do
  let root ← cjson.parse (cStr jsonStr)
  let baseCmdStr ← root.getString "BaseCmd"
  let base ← cmd.base.unmarshal cjson baseCmdStr
  let result ← root.getNumber "Result"
  return { base, result }

end DSchedContinueEndCmd

end Dmsfwk
