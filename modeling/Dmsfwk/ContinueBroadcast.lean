import Dmsfwk.ChannelManager

/-!
# Continuation broadcasts

A device stores what its bundles can continue in a store that its peers
replicate.  A broadcast names a record of that store and a continue type in four
bytes: the sender looks the numbers up in its own records, and the receiver
finds a continue type and an ability in the replica.
-/

namespace Dmsfwk

/-! ## Bundles and their records -/

structure AbilityInfo where
  name : Text
  moduleName : Text := []
  continueType : List Text := []
  continueBundleNames : List Text := []
  deriving DecidableEq, Repr

structure BundleInfo where
  name : Text
  versionCode : UInt32 := 0
  versionName : Text := []
  minCompatibleVersionCode : UInt32 := 0
  targetVersion : UInt32 := 0
  compatibleVersion : UInt32 := 0
  appId : Text := []
  enabled : Bool := true
  updateTime : ℤ := 0
  abilityInfos : List AbilityInfo := []
  deriving DecidableEq, Repr

structure DmsAbilityInfo where
  abilityName : Text := []
  continueType : List Text := []
  continueTypeId : List UInt8 := []
  moduleName : Text := []
  continueBundleName : List Text := []
  deriving DecidableEq, Repr

structure DmsBundleInfo where
  bundleName : Text := []
  versionCode : UInt32 := 0
  versionName : Text := []
  minCompatibleVersion : UInt32 := 0
  targetVersionCode : UInt32 := 0
  compatibleVersionCode : UInt32 := 0
  appId : Text := []
  enabled : Bool := true
  bundleNameId : UInt16 := 0
  updateTime : ℤ := 0
  developerId : Text := []
  dmsAbilityInfos : List DmsAbilityInfo := []
  deriving DecidableEq, Repr

def convertAbilities (pos : UInt8) :
    List AbilityInfo → List DmsAbilityInfo
  | [] => []
  | abilityInfo :: abilityInfos =>
      { abilityName := abilityInfo.name
        continueType := abilityInfo.continueType
        continueTypeId := (List.range abilityInfo.continueType.length).map
          fun offset => pos + offset.toUInt8
        moduleName := abilityInfo.moduleName
        continueBundleName := abilityInfo.continueBundleNames } ::
      convertAbilities (pos + abilityInfo.continueType.length.toUInt8)
        abilityInfos

/-- `ConvertToDistributedBundleInfo` with the id which `CreateBundleNameId` gave
the bundle. -/
def convertToDistributedBundleInfo (bundleInfo : BundleInfo)
    (developerId : Text) (bundleNameId : UInt16) : DmsBundleInfo :=
  if bundleInfo.name = [] then {}
  else
    { bundleName := bundleInfo.name
      versionCode := bundleInfo.versionCode
      versionName := bundleInfo.versionName
      minCompatibleVersion := bundleInfo.minCompatibleVersionCode
      targetVersionCode := bundleInfo.targetVersion
      compatibleVersionCode := bundleInfo.compatibleVersion
      appId := bundleInfo.appId
      enabled := bundleInfo.enabled
      bundleNameId := bundleNameId
      updateTime := bundleInfo.updateTime
      developerId := developerId
      dmsAbilityInfos := convertAbilities 0 bundleInfo.abilityInfos }

/-! ## The store -/

abbrev KvEntries := List (Text × DmsBundleInfo)

def deviceAndNameToKey (udid bundleName : Text) : Text :=
  udid ++ '_' :: bundleName

def publicRecords : Text := "publicRecords".toList

def maxContinueTypeId : UInt8 := 255

def getBundleNameId (localUdid : Text) (entries : KvEntries)
    (bundleName : Text) : Option UInt16 :=
  if localUdid = [] then none
  else match entries.lookup (deviceAndNameToKey localUdid bundleName) with
    | none => none
    | some info =>
        if info.bundleName = bundleName then some info.bundleNameId else none

def findContinueTypeId (abilityName : Text) (pos : UInt8) :
    List DmsAbilityInfo → UInt8
  | [] => maxContinueTypeId
  | ability :: abilities =>
      if ability.abilityName = abilityName then pos
      else findContinueTypeId abilityName (pos + 1) abilities

def getContinueTypeId (localUdid : Text) (entries : KvEntries)
    (bundleName abilityName : Text) : Option UInt8 :=
  if localUdid = [] then none
  else entries.findSome? fun entry =>
    if localUdid <:+: entry.1 ∧ entry.2.bundleName = bundleName then
      let continueTypeId :=
        findContinueTypeId abilityName 0 entry.2.dmsAbilityInfos
      if continueTypeId ≠ maxContinueTypeId then some continueTypeId else none
    else none

/-- `DmsBmStorage::GetDistributedBundleInfo` by id: several records with the id
are deleted and none of them is answered. -/
def getDistributedBundleInfo (udid : Text) (remoteEntries : KvEntries)
    (bundleNameId : UInt16) : Option DmsBundleInfo :=
  let found := remoteEntries.filter fun entry =>
    ¬ deviceAndNameToKey udid publicRecords <:+: entry.1 ∧
      entry.2.bundleNameId = bundleNameId
  match found with
  | [entry] => some entry.2
  | _ => none

/-- The continue types of all abilities, each with its ability, in the order in
which the nested loops of both lookups count them. -/
def continueTypes (abilities : List DmsAbilityInfo) :
    List (Text × DmsAbilityInfo) :=
  abilities.flatMap fun ability =>
    ability.continueType.map fun continueType => (continueType, ability)

def DmsBundleInfo.findContinueType (info : DmsBundleInfo)
    (continueTypeId : UInt8) : Text :=
  match (continueTypes info.dmsAbilityInfos)[continueTypeId.toNat]? with
  | some (continueType, _) => continueType
  | none => []

/-! ## Sender -/

inductive BroadcastType where
  | appear
  | disappear
  deriving DecidableEq, Repr

def BroadcastType.code : BroadcastType → UInt8
  | .appear => 0
  | .disappear => 1

inductive QueryErr where
  | invalidParameters
  | canNotFoundAbility
  deriving DecidableEq, Repr

def queryBroadcastInfo (localUdid : Text) (entries : KvEntries)
    (bundleName abilityName : Text) : Except QueryErr (UInt16 × UInt8) :=
  if bundleName = [] ∨ abilityName = [] then .error .invalidParameters
  else match getBundleNameId localUdid entries bundleName with
    | none => .error .canNotFoundAbility
    | some bundleNameId =>
        match getContinueTypeId localUdid entries bundleName abilityName with
        | none => .error .canNotFoundAbility
        | some continueTypeId => .ok (bundleNameId, continueTypeId)

def dmsSendLen : ℕ := 4

def dmsDataLen : UInt8 := 3

def softbusEvent (bundleNameId : UInt16) (continueTypeId type : UInt8) :
    List UInt8 :=
  [type <<< 4 ||| dmsDataLen, (bundleNameId >>> 8 &&& 0xff).toUInt8,
    (bundleNameId &&& 0xff).toUInt8, continueTypeId &&& 0xff]

/-! ## Receiver -/

inductive ContinueState where
  | active
  | inactive
  deriving DecidableEq, Repr

structure Broadcast where
  bundleNameId : UInt16
  continueTypeId : UInt8
  state : ContinueState
  deriving DecidableEq, Repr

structure ReceiveSwitches where
  checkCtrlRule : Bool := true
  continueSwitchOn : Bool := true
  wifiActive : Bool := true
  deriving DecidableEq, Repr

/-- The type of a payload that `NotifyDataRecv` accepts. -/
def payloadType (payload : List UInt8) : Option UInt8 :=
  match payload with
  | first :: _ :: _ :: _ :: _ =>
      let type := (first &&& 0xf0) >>> 4
      let len := first &&& 0x0f
      if len < dmsDataLen ∨ 0x0f < type then none else some type
  | _ => none

def notifyDataRecv (switches : ReceiveSwitches) (payload : List UInt8) :
    Option Broadcast :=
  if !switches.checkCtrlRule then none
  else if !switches.continueSwitchOn then none
  else if !switches.wifiActive then none
  else match payloadType payload, payload with
    | some type, _ :: high :: low :: continueTypeId :: _ =>
        some {
          bundleNameId := high.toUInt16 <<< 8 ||| low.toUInt16
          continueTypeId := continueTypeId
          state := if type = BroadcastType.disappear.code then .inactive
            else .active }
    | _, _ => none

def findContinueType (info : DmsBundleInfo) (continueTypeId : UInt8) :
    Text × DmsAbilityInfo :=
  match (continueTypes info.dmsAbilityInfos)[continueTypeId.toNat]? with
  | some found => found
  | none => ([], {})

end Dmsfwk
