import Dmsfwk.JsonUtil
import Dmsfwk.RemoteRequestDecoding

/-!
# Bundle records as JSON

The record of a bundle is stored as a document with fourteen members, one of
them an array of abilities with five members each.  A reader of a record sees
every error of the members of the document.  The errors inside an ability stay
in the reader of the ability: the rest of the ability is dropped and the record
is accepted.
-/

namespace Dmsfwk

open CJson Nlohmann JsonUtil

structure DmsBundleRecord where
  version : UInt32 := 1
  bundleName : Text := []
  versionCode : UInt32 := 0
  versionName : Text := []
  minCompatibleVersion : UInt32 := 0
  targetVersionCode : UInt32 := 0
  compatibleVersionCode : UInt32 := 0
  appId : Text := []
  enabled : Bool := true
  bundleNameId : UInt16 := 0
  updateTime : Int64 := 0
  developerId : Text := []
  dmsAbilityInfos : List DmsAbilityInfo := []
  userIdArr : List UInt8 := []
  deriving DecidableEq, Repr

namespace DmsBundleRecord

/-! ## Writing -/

def abilityToJson (info : DmsAbilityInfo) : Json :=
  setMember "continueBundleName" (JsonUtil.ofTexts info.continueBundleName)
    (setMember "moduleName" (.string info.moduleName)
      (setMember "continueTypeId"
        (.array (info.continueTypeId.map fun id => ofNumber id.toNat))
        (setMember "continueType" (JsonUtil.ofTexts info.continueType)
          (setMember "abilityName" (.string info.abilityName) .null))))

def toJson (info : DmsBundleRecord) : Json :=
  let json := setMember "version" (ofNumber info.version.toNat) .null
  let json := setMember "bundleName" (.string info.bundleName) json
  let json := setMember "versionCode" (ofNumber info.versionCode.toNat) json
  let json := setMember "versionName" (.string info.versionName) json
  let json := setMember "compatibleVersionCode"
    (ofNumber info.compatibleVersionCode.toNat) json
  let json := setMember "minCompatibleVersion"
    (ofNumber info.minCompatibleVersion.toNat) json
  let json := setMember "targetVersionCode"
    (ofNumber info.targetVersionCode.toNat) json
  let json := setMember "appId" (.string info.appId) json
  let json := setMember "enabled" (.bool info.enabled) json
  let json := setMember "bundleNameId" (ofNumber info.bundleNameId.toNat) json
  let json := setMember "updateTime" (ofNumber info.updateTime.toInt) json
  let json := setMember "developerId" (.string info.developerId) json
  let json := setMember "dmsAbilityInfos"
    (.array (info.dmsAbilityInfos.map abilityToJson)) json
  setMember "userIdArr"
    (.array (info.userIdArr.map fun id => ofNumber id.toNat)) json

def toString (library : NlohmannJson) (info : DmsBundleRecord) : Text :=
  library.dump info.toJson

/-! ## Reading -/

def toUInt8 (value : ℤ) : UInt8 := UInt8.ofNat (value % 256).toNat

def toUInt16 (value : ℤ) : UInt16 := UInt16.ofNat (value % 65536).toNat

def toUInt32 (value : ℤ) : UInt32 := UInt32.ofNat (value % 4294967296).toNat

def abilityFromJson (limits : JsonLimits) (json : Json) :
    Option DmsAbilityInfo := do
  let (abilityName, parseResult) ← getValueIfFindKey limits textField json
    "abilityName" false [] .errOk
  let (continueType, parseResult) ← getValueIfFindKey limits textsField json
    "continueType" false [] parseResult
  let (continueTypeId, parseResult) ← getValueIfFindKey limits
    (numbersField toUInt8) json "continueTypeId" false [] parseResult
  let (moduleName, parseResult) ← getValueIfFindKey limits textField json
    "moduleName" false [] parseResult
  let (continueBundleName, _) ← getValueIfFindKey limits textsField json
    "continueBundleName" false [] parseResult
  some {
    abilityName := abilityName
    continueType := continueType
    continueTypeId := continueTypeId
    moduleName := moduleName
    continueBundleName := continueBundleName }

theorem abilityFromJson_isSome (limits : JsonLimits) (json : Json) :
    (abilityFromJson limits json).isSome = true := by
  have hread : ∃ info, abilityFromJson limits json = some info ∧ True := by
    unfold abilityFromJson
    refine readMember_isSome (iff_of_true rfl trivial) ?_
    intro abilityName _ hresult
    refine readMember_isSome hresult ?_
    intro continueType _ hresult
    refine readMember_isSome hresult ?_
    intro continueTypeId _ hresult
    refine readMember_isSome hresult ?_
    intro moduleName _ hresult
    refine readMember_isSome hresult ?_
    intro continueBundleName _ _
    exact ⟨_, rfl, trivial⟩
  obtain ⟨info, hinfo, -⟩ := hread
  exact Option.isSome_iff_exists.mpr ⟨info, hinfo⟩

def abilitiesField (limits : JsonLimits) : JsonField (List DmsAbilityInfo) :=
  objectsField (abilityFromJson limits) (abilityFromJson_isSome limits)

def fromJson (limits : JsonLimits) (json : Json) (info : DmsBundleRecord) :
    Option (Bool × DmsBundleRecord) := do
  let (version, parseResult) ← getValueIfFindKey limits (numberField toUInt32)
    json "version" false info.version .errOk
  let (bundleName, parseResult) ← getValueIfFindKey limits textField json
    "bundleName" false info.bundleName parseResult
  let (versionCode, parseResult) ← getValueIfFindKey limits
    (numberField toUInt32) json "versionCode" false info.versionCode parseResult
  let (compatibleVersionCode, parseResult) ← getValueIfFindKey limits
    (numberField toUInt32) json "compatibleVersionCode" false
    info.compatibleVersionCode parseResult
  let (versionName, parseResult) ← getValueIfFindKey limits textField json
    "versionName" false info.versionName parseResult
  let (minCompatibleVersion, parseResult) ← getValueIfFindKey limits
    (numberField toUInt32) json "minCompatibleVersion" false
    info.minCompatibleVersion parseResult
  let (targetVersionCode, parseResult) ← getValueIfFindKey limits
    (numberField toUInt32) json "targetVersionCode" false
    info.targetVersionCode parseResult
  let (appId, parseResult) ← getValueIfFindKey limits textField json
    "appId" false info.appId parseResult
  let (enabled, parseResult) ← getValueIfFindKey limits boolField json
    "enabled" false info.enabled parseResult
  let (bundleNameId, parseResult) ← getValueIfFindKey limits
    (numberField toUInt16) json "bundleNameId" false info.bundleNameId
    parseResult
  let (updateTime, parseResult) ← getValueIfFindKey limits
    (numberField Int64.ofInt) json "updateTime" false info.updateTime
    parseResult
  let (developerId, parseResult) ← getValueIfFindKey limits textField json
    "developerId" false info.developerId parseResult
  let (dmsAbilityInfos, parseResult) ← getValueIfFindKey limits
    (abilitiesField limits) json "dmsAbilityInfos" false info.dmsAbilityInfos
    parseResult
  let (userIdArr, parseResult) ← getValueIfFindKey limits
    (numbersField toUInt8) json "userIdArr" false info.userIdArr parseResult
  some (parseResult = .errOk, {
    version := version
    bundleName := bundleName
    versionCode := versionCode
    versionName := versionName
    minCompatibleVersion := minCompatibleVersion
    targetVersionCode := targetVersionCode
    compatibleVersionCode := compatibleVersionCode
    appId := appId
    enabled := enabled
    bundleNameId := bundleNameId
    updateTime := updateTime
    developerId := developerId
    dmsAbilityInfos := dmsAbilityInfos
    userIdArr := userIdArr })

/-- `FromJsonString`; no answer stands for an exception. -/
def fromJsonString (library : NlohmannJson) (limits : JsonLimits)
    (jsonString : Text) (info : DmsBundleRecord) :
    Option (Bool × DmsBundleRecord) :=
  match library.parse jsonString with
  | none => some (false, info)
  | some json => fromJson limits json info

/-! ## Abilities -/

structure AbilityRead (json : Json) (info : DmsAbilityInfo) : Prop where
  abilityName : Reads textField json "abilityName" info.abilityName
  continueType : Reads textsField json "continueType" info.continueType
  continueTypeId :
    Reads (numbersField toUInt8) json "continueTypeId" info.continueTypeId
  moduleName : Reads textField json "moduleName" info.moduleName
  continueBundleName :
    Reads textsField json "continueBundleName" info.continueBundleName

/-- Every member of the entry is of its type; behind a member that is too long
it is empty, and an array is within its limit otherwise. -/
structure EntryKept (limits : JsonLimits) (json : Json) : Prop where
  abilityName : MemberKept limits textField json "abilityName" [] true
  continueType : MemberKept limits textsField json "continueType" []
    (isClean limits textField json "abilityName")
  continueTypeId :
    MemberKept limits (numbersField toUInt8) json "continueTypeId" []
      (isClean limits textField json "abilityName" &&
        isClean limits textsField json "continueType")
  moduleName : MemberKept limits textField json "moduleName" []
    (isClean limits textField json "abilityName" &&
      isClean limits textsField json "continueType" &&
      isClean limits (numbersField toUInt8) json "continueTypeId")
  continueBundleName : MemberKept limits textsField json "continueBundleName" []
    (isClean limits textField json "abilityName" &&
      isClean limits textsField json "continueType" &&
      isClean limits (numbersField toUInt8) json "continueTypeId" &&
      isClean limits textField json "moduleName")

section Ability

variable {limits : JsonLimits} {json : Json}

theorem abilityRead_iff {info : DmsAbilityInfo}
    (hread : abilityFromJson limits json = some info) :
    AbilityRead json info ↔ EntryKept limits json := by
  have htext : IsEmptyValue textField [] :=
    isEmptyValue_of_not_array (by decide) []
  have hids := isEmptyValue_numbers toUInt8
  unfold abilityFromJson at hread
  -- the result in front of each member is that of the members before it
  obtain ⟨abilityName, _, hread, hresult, hname⟩ :=
    readMember_iff hread htext rfl
  obtain ⟨continueType, _, hread, hresult, htype⟩ :=
    readMember_iff hread isEmptyValue_texts hresult
  obtain ⟨continueTypeId, _, hread, hresult, hid⟩ :=
    readMember_iff hread hids hresult
  obtain ⟨moduleName, _, hread, hresult, hmodule⟩ :=
    readMember_iff hread htext hresult
  obtain ⟨continueBundleName, _, hread, -, hbundle⟩ :=
    readMember_iff hread isEmptyValue_texts hresult
  cases hread
  constructor
  · intro habilityRead
    exact ⟨hname.mp habilityRead.abilityName, htype.mp habilityRead.continueType,
      hid.mp habilityRead.continueTypeId, hmodule.mp habilityRead.moduleName,
      hbundle.mp habilityRead.continueBundleName⟩
  · intro hkept
    exact ⟨hname.mpr hkept.abilityName, htype.mpr hkept.continueType,
      hid.mpr hkept.continueTypeId, hmodule.mpr hkept.moduleName,
      hbundle.mpr hkept.continueBundleName⟩

end Ability

/-! ## Records -/

/-- Every member of the document is in the record, and every member of the
entries of the abilities is in its ability. -/
structure RecordRead (json : Json) (info : DmsBundleRecord) : Prop where
  version : Reads (numberField toUInt32) json "version" info.version
  bundleName : Reads textField json "bundleName" info.bundleName
  versionCode : Reads (numberField toUInt32) json "versionCode" info.versionCode
  compatibleVersionCode : Reads (numberField toUInt32) json
    "compatibleVersionCode" info.compatibleVersionCode
  versionName : Reads textField json "versionName" info.versionName
  minCompatibleVersion : Reads (numberField toUInt32) json
    "minCompatibleVersion" info.minCompatibleVersion
  targetVersionCode : Reads (numberField toUInt32) json "targetVersionCode"
    info.targetVersionCode
  appId : Reads textField json "appId" info.appId
  enabled : Reads boolField json "enabled" info.enabled
  bundleNameId : Reads (numberField toUInt16) json "bundleNameId"
    info.bundleNameId
  updateTime : Reads (numberField Int64.ofInt) json "updateTime"
    info.updateTime
  developerId : Reads textField json "developerId" info.developerId
  dmsAbilityInfos : ∀ value,
    json.getObjectItemCaseSensitive "dmsAbilityInfos" = some value →
    ∃ entries, value = .array entries ∧
      List.Forall₂ AbilityRead entries info.dmsAbilityInfos
  userIdArr : Reads (numbersField toUInt8) json "userIdArr" info.userIdArr

def isRecordClean (limits : JsonLimits) (json : Json) : Bool :=
  isClean limits (numberField toUInt32) json "version" &&
  isClean limits textField json "bundleName" &&
  isClean limits (numberField toUInt32) json "versionCode" &&
  isClean limits (numberField toUInt32) json "compatibleVersionCode" &&
  isClean limits textField json "versionName" &&
  isClean limits (numberField toUInt32) json "minCompatibleVersion" &&
  isClean limits (numberField toUInt32) json "targetVersionCode" &&
  isClean limits textField json "appId" &&
  isClean limits boolField json "enabled" &&
  isClean limits (numberField toUInt16) json "bundleNameId" &&
  isClean limits (numberField Int64.ofInt) json "updateTime" &&
  isClean limits textField json "developerId" &&
  isClean limits (abilitiesField limits) json "dmsAbilityInfos" &&
  isClean limits (numbersField toUInt8) json "userIdArr"

def EntriesKept (limits : JsonLimits) (json : Json) : Prop :=
  ∀ entries,
    json.getObjectItemCaseSensitive "dmsAbilityInfos" = some (.array entries) →
    ∀ entry ∈ entries, EntryKept limits entry

variable {abilities : List DmsAbilityInfo}

section Record

variable {limits : JsonLimits} {json : Json}

theorem forall₂_of_mapM {α β : Type} {get : α → Option β} {items : List α}
    {values : List β} (hmapM : items.mapM get = some values) :
    List.Forall₂ (fun item value => get item = some value) items values := by
  induction items generalizing values with
  | nil =>
      cases hmapM
      exact .nil
  | cons item items ih =>
      simp only [List.mapM_cons, Option.bind_eq_bind, Option.pure_def,
        Option.bind_eq_some_iff, Option.some.injEq] at hmapM
      obtain ⟨value, hvalue, rest, hrest, rfl⟩ := hmapM
      exact .cons hvalue (ih hrest)

theorem abilitiesRead_iff {entries : List Json}
    (hread : entries.mapM (abilityFromJson limits) = some abilities) :
    List.Forall₂ AbilityRead entries abilities ↔
      ∀ entry ∈ entries, EntryKept limits entry := by
  have hpairs := forall₂_of_mapM hread
  clear hread
  induction hpairs with
  | nil => simp
  | cons hentry _ ih =>
      rw [List.forall₂_cons, List.forall_mem_cons]
      exact and_congr (abilityRead_iff hentry) ih

theorem fromJson_isSome (limits : JsonLimits) (json : Json)
    (info : DmsBundleRecord) :
    ∃ read, fromJson limits json info = some read ∧
      read.1 = isRecordClean limits json := by
  unfold fromJson
  refine readMember_isSome (iff_of_true rfl trivial) ?_
  intro version _ hresult
  refine readMember_isSome hresult ?_
  intro bundleName _ hresult
  refine readMember_isSome hresult ?_
  intro versionCode _ hresult
  refine readMember_isSome hresult ?_
  intro compatibleVersionCode _ hresult
  refine readMember_isSome hresult ?_
  intro versionName _ hresult
  refine readMember_isSome hresult ?_
  intro minCompatibleVersion _ hresult
  refine readMember_isSome hresult ?_
  intro targetVersionCode _ hresult
  refine readMember_isSome hresult ?_
  intro appId _ hresult
  refine readMember_isSome hresult ?_
  intro enabled _ hresult
  refine readMember_isSome hresult ?_
  intro bundleNameId _ hresult
  refine readMember_isSome hresult ?_
  intro updateTime _ hresult
  refine readMember_isSome hresult ?_
  intro developerId _ hresult
  refine readMember_isSome hresult ?_
  intro dmsAbilityInfos _ hresult
  refine readMember_isSome hresult ?_
  intro userIdArr _ hresult
  refine ⟨_, rfl, ?_⟩
  rw [Bool.eq_iff_iff, decide_eq_true_iff, hresult, isRecordClean]
  simp only [Bool.and_eq_true, true_and]

theorem recordRead_iff {info read : DmsBundleRecord} {answer : Bool}
    (hread : fromJson limits json info = some (answer, read))
    (hclean : isRecordClean limits json = true)
    (habilities : info.dmsAbilityInfos = []) (husers : info.userIdArr = []) :
    RecordRead json read ↔ EntriesKept limits json := by
  simp only [isRecordClean, Bool.and_eq_true, and_assoc] at hclean
  obtain ⟨hversion, hbundleName, hversionCode, hcompatible, hversionName,
    hminCompatible, htarget, happId, henabled, hid, hupdateTime, hdeveloper,
    hinfos, hids⟩ := hclean
  have hnumber {T : Type} (cast : ℤ → T) (value : T) :
      IsEmptyValue (numberField cast) value :=
    isEmptyValue_of_not_array (by simp [numberField]) value
  have htext (text : Text) : IsEmptyValue textField text :=
    isEmptyValue_of_not_array (by decide) text
  have hbool (value : Bool) : IsEmptyValue boolField value :=
    isEmptyValue_of_not_array (by decide) value
  unfold fromJson at hread
  rw [habilities, husers] at hread
  obtain ⟨version, hread, hversion⟩ :=
    readMember_of_isClean hread (hnumber _ _) hversion
  obtain ⟨bundleName, hread, hbundleName⟩ :=
    readMember_of_isClean hread (htext _) hbundleName
  obtain ⟨versionCode, hread, hversionCode⟩ :=
    readMember_of_isClean hread (hnumber _ _) hversionCode
  obtain ⟨compatibleVersionCode, hread, hcompatible⟩ :=
    readMember_of_isClean hread (hnumber _ _) hcompatible
  obtain ⟨versionName, hread, hversionName⟩ :=
    readMember_of_isClean hread (htext _) hversionName
  obtain ⟨minCompatibleVersion, hread, hminCompatible⟩ :=
    readMember_of_isClean hread (hnumber _ _) hminCompatible
  obtain ⟨targetVersionCode, hread, htarget⟩ :=
    readMember_of_isClean hread (hnumber _ _) htarget
  obtain ⟨appId, hread, happId⟩ := readMember_of_isClean hread (htext _) happId
  obtain ⟨enabled, hread, henabled⟩ :=
    readMember_of_isClean hread (hbool _) henabled
  obtain ⟨bundleNameId, hread, hid⟩ :=
    readMember_of_isClean hread (hnumber _ _) hid
  obtain ⟨updateTime, hread, hupdateTime⟩ :=
    readMember_of_isClean hread (hnumber _ _) hupdateTime
  obtain ⟨developerId, hread, hdeveloper⟩ :=
    readMember_of_isClean hread (htext _) hdeveloper
  obtain ⟨dmsAbilityInfos, hread, hinfos⟩ :=
    readMember_of_isClean hread (isEmptyValue_objects _ _) hinfos
  obtain ⟨userIdArr, hread, hids⟩ :=
    readMember_of_isClean hread (isEmptyValue_numbers _) hids
  cases hread
  constructor
  · intro hrecord entries hentries entry hentry
    obtain ⟨found, hfound, hpairs⟩ := hrecord.dmsAbilityInfos _ hentries
    cases hfound
    exact (abilitiesRead_iff (hinfos _ hentries).2).mp hpairs entry hentry
  · intro hkept
    refine ⟨hversion, hbundleName, hversionCode, hcompatible, hversionName,
      hminCompatible, htarget, happId, henabled, hid, hupdateTime, hdeveloper,
      ?_, hids⟩
    intro value hvalue
    obtain ⟨htype, hget⟩ := hinfos value hvalue
    cases value with
    | array entries =>
        exact ⟨entries, rfl, (abilitiesRead_iff hget).mpr (hkept entries hvalue)⟩
    | _ => simp [JsonField.admits, isOfType, abilitiesField, objectsField] at htype

end Record

/-! ## Records that are written -/

structure AbilityWithin (limits : JsonLimits) (info : DmsAbilityInfo) :
    Prop where
  abilityName : byteLength info.abilityName ≤ limits.maxElementLength
  continueType : info.continueType.length ≤ limits.maxArrayLength
  continueTypeId : info.continueTypeId.length ≤ limits.maxArrayLength
  moduleName : byteLength info.moduleName ≤ limits.maxElementLength
  continueBundleName : info.continueBundleName.length ≤ limits.maxArrayLength

structure Within (limits : JsonLimits) (info : DmsBundleRecord) : Prop where
  bundleName : byteLength info.bundleName ≤ limits.maxElementLength
  versionName : byteLength info.versionName ≤ limits.maxElementLength
  appId : byteLength info.appId ≤ limits.maxElementLength
  developerId : byteLength info.developerId ≤ limits.maxElementLength
  dmsAbilityInfos : info.dmsAbilityInfos.length ≤ limits.maxArrayLength
  abilities : ∀ ability ∈ info.dmsAbilityInfos, AbilityWithin limits ability
  userIdArr : info.userIdArr.length ≤ limits.maxArrayLength

@[simp] theorem toUInt8_toNat (value : UInt8) : toUInt8 value.toNat = value := by
  have hlt : value.toNat < 256 := value.toNat_lt
  have hmod : ((value.toNat : ℤ) % 256).toNat = value.toNat := by omega
  rw [toUInt8, hmod, UInt8.ofNat_toNat]

@[simp] theorem toUInt16_toNat (value : UInt16) :
    toUInt16 value.toNat = value := by
  have hlt : value.toNat < 65536 := value.toNat_lt
  have hmod : ((value.toNat : ℤ) % 65536).toNat = value.toNat := by omega
  rw [toUInt16, hmod, UInt16.ofNat_toNat]

@[simp] theorem toUInt32_toNat (value : UInt32) :
    toUInt32 value.toNat = value := by
  have hlt : value.toNat < 4294967296 := value.toNat_lt
  have hmod : ((value.toNat : ℤ) % 4294967296).toNat = value.toNat := by omega
  rw [toUInt32, hmod, UInt32.ofNat_toNat]

section Written

variable {limits : JsonLimits}

theorem getItems_ids (ids : List UInt8) :
    getItems (getNumber toUInt8) (.array (ids.map fun id => ofNumber id.toNat)) =
      some ids := by
  have hget : ∀ id : UInt8,
      getNumber toUInt8 (ofNumber id.toNat) = some id := by simp
  have hmapM := mapM_map_eq_some hget ids
  rw [List.map_id'] at hmapM
  exact hmapM

theorem getValue_text {json : Json} {key : String} {data text : Text}
    (hvalue : json.getObjectItemCaseSensitive key = some (.string text))
    (hshort : byteLength text ≤ limits.maxElementLength) :
    getValueIfFindKey limits textField json key false data .errOk =
      some (text, .errOk) := by
  have hlong : isTooLong limits (.string text) = false := by
    simpa [isTooLong] using hshort
  exact getValueIfFindKey_of_value
    (isEmptyValue_of_not_array (by decide) data) hvalue rfl hlong rfl

theorem getValue_texts {json : Json} {key : String} {texts : List Text}
    (hvalue : json.getObjectItemCaseSensitive key =
      some (JsonUtil.ofTexts texts))
    (hshort : texts.length ≤ limits.maxArrayLength) :
    getValueIfFindKey limits textsField json key false [] .errOk =
      some (texts, .errOk) := by
  have htype : textsField.admits (JsonUtil.ofTexts texts) = true := by
    simp [JsonField.admits, textsField, JsonUtil.ofTexts, isOfType,
      ArrayType.admits]
  have hlong : isTooLong limits (JsonUtil.ofTexts texts) = false := by
    simpa [isTooLong, JsonUtil.ofTexts] using hshort
  exact getValueIfFindKey_of_value isEmptyValue_texts hvalue htype hlong
    (getItems_ofTexts texts)

theorem getValue_ids {json : Json} {key : String} {ids : List UInt8}
    (hvalue : json.getObjectItemCaseSensitive key =
      some (.array (ids.map fun id => ofNumber id.toNat)))
    (hshort : ids.length ≤ limits.maxArrayLength) :
    getValueIfFindKey limits (numbersField toUInt8) json key false [] .errOk =
      some (ids, .errOk) := by
  have htype : (numbersField toUInt8).admits
      (.array (ids.map fun id => ofNumber id.toNat)) = true := by
    simp [JsonField.admits, numbersField, isOfType, ArrayType.admits, ofNumber,
      isNumber]
  have hlong : isTooLong limits
      (.array (ids.map fun id => ofNumber id.toNat)) = false := by
    simpa [isTooLong] using hshort
  exact getValueIfFindKey_of_value (isEmptyValue_numbers toUInt8) hvalue htype
    hlong (getItems_ids ids)

theorem getValue_number {T : Type} {cast : ℤ → T} {json : Json} {key : String}
    {data : T} {value : ℤ}
    (hvalue : json.getObjectItemCaseSensitive key = some (ofNumber value)) :
    getValueIfFindKey limits (numberField cast) json key false data .errOk =
      some (cast value, .errOk) :=
  getValueIfFindKey_of_value
    (isEmptyValue_of_not_array (by simp [numberField]) data) hvalue rfl rfl
    (getNumber_ofNumber cast value)

theorem abilityFromJson_abilityToJson {info : DmsAbilityInfo}
    (hwithin : AbilityWithin limits info) :
    abilityFromJson limits (abilityToJson info) = some info := by
  unfold abilityFromJson
  refine Option.bind_eq_some_iff.mpr
    ⟨_, getValue_text (by simp [abilityToJson]) hwithin.abilityName, ?_⟩
  refine Option.bind_eq_some_iff.mpr
    ⟨_, getValue_texts (by simp [abilityToJson]) hwithin.continueType, ?_⟩
  refine Option.bind_eq_some_iff.mpr
    ⟨_, getValue_ids (by simp [abilityToJson]) hwithin.continueTypeId, ?_⟩
  refine Option.bind_eq_some_iff.mpr
    ⟨_, getValue_text (by simp [abilityToJson]) hwithin.moduleName, ?_⟩
  exact Option.bind_eq_some_iff.mpr
    ⟨_, getValue_texts (by simp [abilityToJson]) hwithin.continueBundleName, rfl⟩

theorem getItems_abilities
    (hwithin : ∀ ability ∈ abilities, AbilityWithin limits ability) :
    getItems (abilityFromJson limits) (.array (abilities.map abilityToJson)) =
      some abilities := by
  rw [getItems]
  induction abilities with
  | nil => rfl
  | cons ability abilities ih =>
      obtain ⟨hability, hrest⟩ := List.forall_mem_cons.mp hwithin
      simp [List.mapM_cons, abilityFromJson_abilityToJson hability, ih hrest]

theorem isObject_abilityToJson (info : DmsAbilityInfo) :
    isObject (abilityToJson info) = true := rfl

theorem getValue_abilities {json : Json} {key : String}
    (hvalue : json.getObjectItemCaseSensitive key =
      some (.array (abilities.map abilityToJson)))
    (hwithin : ∀ ability ∈ abilities, AbilityWithin limits ability)
    (hshort : abilities.length ≤ limits.maxArrayLength) :
    getValueIfFindKey limits (abilitiesField limits) json key false [] .errOk =
      some (abilities, .errOk) := by
  have htype : (abilitiesField limits).admits
      (.array (abilities.map abilityToJson)) = true := by
    simp [JsonField.admits, abilitiesField, objectsField, isOfType,
      ArrayType.admits, isObject_abilityToJson]
  have hlong : isTooLong limits
      (.array (abilities.map abilityToJson)) = false := by
    simpa [isTooLong] using hshort
  exact getValueIfFindKey_of_value (isEmptyValue_objects _ _) hvalue htype hlong
    (getItems_abilities hwithin)

theorem fromJson_toJson {info : DmsBundleRecord} (hwithin : Within limits info) :
    fromJson limits info.toJson {} = some (true, info) := by
  have hversion : info.toJson.getObjectItemCaseSensitive "version" =
      some (ofNumber info.version.toNat) := by simp [toJson]
  have hversionCode : info.toJson.getObjectItemCaseSensitive "versionCode" =
      some (ofNumber info.versionCode.toNat) := by simp [toJson]
  have hcompatibleVersionCode :
      info.toJson.getObjectItemCaseSensitive "compatibleVersionCode" =
        some (ofNumber info.compatibleVersionCode.toNat) := by simp [toJson]
  have hminCompatibleVersion :
      info.toJson.getObjectItemCaseSensitive "minCompatibleVersion" =
        some (ofNumber info.minCompatibleVersion.toNat) := by simp [toJson]
  have htargetVersionCode :
      info.toJson.getObjectItemCaseSensitive "targetVersionCode" =
        some (ofNumber info.targetVersionCode.toNat) := by simp [toJson]
  have hbundleNameId : info.toJson.getObjectItemCaseSensitive "bundleNameId" =
      some (ofNumber info.bundleNameId.toNat) := by simp [toJson]
  have hupdateTime : info.toJson.getObjectItemCaseSensitive "updateTime" =
      some (ofNumber info.updateTime.toInt) := by simp [toJson]
  have henabled : info.toJson.getObjectItemCaseSensitive "enabled" =
      some (.bool info.enabled) := by simp [toJson]
  unfold fromJson
  refine Option.bind_eq_some_iff.mpr ⟨_, getValue_number hversion, ?_⟩
  refine Option.bind_eq_some_iff.mpr
    ⟨_, getValue_text (by simp [toJson]) hwithin.bundleName, ?_⟩
  refine Option.bind_eq_some_iff.mpr ⟨_, getValue_number hversionCode, ?_⟩
  refine Option.bind_eq_some_iff.mpr
    ⟨_, getValue_number hcompatibleVersionCode, ?_⟩
  refine Option.bind_eq_some_iff.mpr
    ⟨_, getValue_text (by simp [toJson]) hwithin.versionName, ?_⟩
  refine Option.bind_eq_some_iff.mpr
    ⟨_, getValue_number hminCompatibleVersion, ?_⟩
  refine Option.bind_eq_some_iff.mpr
    ⟨_, getValue_number htargetVersionCode, ?_⟩
  refine Option.bind_eq_some_iff.mpr
    ⟨_, getValue_text (by simp [toJson]) hwithin.appId, ?_⟩
  refine Option.bind_eq_some_iff.mpr
    ⟨_, getValueIfFindKey_of_value
      (isEmptyValue_of_not_array (by decide) _) henabled rfl rfl rfl, ?_⟩
  refine Option.bind_eq_some_iff.mpr ⟨_, getValue_number hbundleNameId, ?_⟩
  refine Option.bind_eq_some_iff.mpr ⟨_, getValue_number hupdateTime, ?_⟩
  refine Option.bind_eq_some_iff.mpr
    ⟨_, getValue_text (by simp [toJson]) hwithin.developerId, ?_⟩
  refine Option.bind_eq_some_iff.mpr
    ⟨_, getValue_abilities (by simp [toJson]) hwithin.abilities
      hwithin.dmsAbilityInfos, ?_⟩
  refine Option.bind_eq_some_iff.mpr
    ⟨_, getValue_ids (by simp [toJson]) hwithin.userIdArr, ?_⟩
  simp

end Written

/-- A text that is accepted leaves none of its members behind. -/
def FieldsKept (library : NlohmannJson) (limits : JsonLimits) (text : Text) :
    Prop :=
  ∀ json info, library.parse text = some json →
    fromJsonString library limits text {} = some (true, info) →
    RecordRead json info

/-- A record within the limits comes back, reading never throws, and an accepted
text is read completely just when the entries of its abilities are kept. -/
theorem fromJsonString_iff (library : NlohmannJson) (limits : JsonLimits) :
    (∀ info, Within limits info → library.Keeps info.toJson →
      fromJsonString library limits (info.toString library) {} =
        some (true, info)) ∧
    (∀ text info, (fromJsonString library limits text info).isSome = true) ∧
    ∀ text, FieldsKept library limits text ↔
      ∀ json, library.parse text = some json →
        isRecordClean limits json = true → EntriesKept limits json := by
  refine ⟨?_, ?_, ?_⟩
  · intro info hwithin hkeeps
    have hparse : library.parse (info.toString library) = some info.toJson :=
      hkeeps
    rw [fromJsonString, hparse]
    exact fromJson_toJson hwithin
  · intro text info
    unfold fromJsonString
    cases library.parse text with
    | none => rfl
    | some json =>
        obtain ⟨read, hread, -⟩ := fromJson_isSome limits json info
        exact Option.isSome_iff_exists.mpr ⟨_, hread⟩
  · intro text
    unfold FieldsKept fromJsonString
    cases library.parse text with
    | none => simp
    | some json =>
        obtain ⟨⟨answer, read⟩, hread, hanswer⟩ :=
          fromJson_isSome limits json {}
        have hiff := fun hclean => recordRead_iff hread hclean rfl rfl
        simp only [Option.some.injEq, forall_eq']
        rw [hread]
        constructor
        · intro hkept hclean
          have haccepted : answer = true := hanswer.trans hclean
          exact (hiff hclean).mp (hkept json read rfl (by rw [haccepted]))
        · rintro hentries _ info rfl hinfo
          obtain ⟨haccepted, rfl⟩ := Prod.mk.inj (Option.some.inj hinfo)
          have hclean : isRecordClean limits json = true :=
            hanswer.symm.trans haccepted
          exact (hiff hclean).mpr (hentries hclean)

/-! ## An ability with a number for its continue types -/

section Sample

open SinkStartCmd (compact)

def sampleDocument : Json :=
  .object [("dmsAbilityInfos",
    .array [.object [("abilityName", .string "a".toList),
      ("continueType", ofNumber 1)]])]

def sampleLimits : JsonLimits where
  maxElementLength := 4096
  maxArrayLength := 512

/-- The record is accepted with an ability that has no continue types. -/
theorem not_fieldsKept_sample :
    ¬ FieldsKept (SchedRequest.knownJson [sampleDocument]) sampleLimits
      (compact.printObject sampleDocument) := by
  intro hkept
  have hparse : (SchedRequest.knownJson [sampleDocument]).parse
      (compact.printObject sampleDocument) = some sampleDocument :=
    SchedRequest.keeps_knownJson (by decide +kernel) (by decide +kernel)
      (List.mem_singleton.mpr rfl)
  have hread : fromJson sampleLimits sampleDocument {} =
      some (true, { dmsAbilityInfos := [{ abilityName := "a".toList }] }) := by
    decide +kernel
  have hrecord := hkept sampleDocument _ hparse
    (by rw [fromJsonString, hparse]; exact hread)
  obtain ⟨entries, hentries, hpairs⟩ := hrecord.dmsAbilityInfos _ rfl
  cases hentries
  obtain ⟨hability, -⟩ := List.forall₂_cons.mp hpairs
  obtain ⟨htype, -⟩ := hability.continueType _ rfl
  exact absurd htype (by decide)

end Sample

end DmsBundleRecord

end Dmsfwk
