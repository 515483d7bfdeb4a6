import Dmsfwk.DSchedCollabEvent

/-!
# Abilities that are not visible

Four entries check what a caller of another device may do with the ability that
a want names.  Each check reads the answers of the bundle, account, device and
token services.
-/

namespace Dmsfwk
namespace HiddenAbilities

open CJson

def ERR_OK : Int32 := 0

def INVALID_PARAMETERS_ERR : Int32 := 29360128

def DMS_PERMISSION_DENIED : Int32 := 29360157

def DMS_ACCOUNT_ACCESS_PERMISSION_DENIED : Int32 := 29360175

def DMS_COMPONENT_ACCESS_PERMISSION_DENIED : Int32 := 29360176

def CALL_PERMISSION_DENIED : Int32 := 29360201

def DMS_BACKGROUND_PERMISSION_DENIED : Int32 := 29360219

def DMS_START_CONTROL_PERMISSION_DENIED : Int32 := 29360220

def START_PERMISSION : Int32 := 0

def CALL_PERMISSION : Int32 := 1

def SEND_RESULT_PERMISSION : Int32 := 2

def FLAG_ABILITY_CONTINUATION : UInt32 := 8

def DEFAULT_DMS_API_VERSION : Int32 := 9

def DEFAULT_DMS_MISSION_ID : Int32 := -1

def FA_MODULE_ALLOW_MIN_API_VERSION : Int32 := 8

def DEFAULT_DEVICE_SECURITY_LEVEL : Int32 := -1

def startAbilitiesFromBackground : String :=
  "ohos.permission.START_ABILITIES_FROM_BACKGROUND"

def startAbiliiesFromBackground : String :=
  "ohos.permission.START_ABILIIES_FROM_BACKGROUND"

def startInvisibleAbility : String := "ohos.permission.START_INVISIBLE_ABILITY"

inductive AbilityType where
  | unknown | page | service | data | form | extension
  deriving DecidableEq

structure AbilityInfo where
  bundleName : Text := []
  visible : Bool := false
  isStageBasedModel : Bool := false
  type : AbilityType := .unknown
  associatedWakeUp : Bool := false

structure Want where
  flags : UInt32 := 0
  deviceId : Text := []
  dmsMissionId : Option Int32 := none
  dmsIsCallerBackGround : Option Bool := none
  dmsApiVersion : Option Int32 := none

structure DmAccessCaller where
  accountId : Text
  pkgName : Text
  networkId : Text
  userId : Int32
  tokenId : UInt32

structure PermissionServices where
  sameAccountPart : Bool
  deviceIdMaxLen : ℕ
  queryAbilityInfo : Want → Option AbilityInfo
  queryExtensionAbilityInfo : Want → Option AbilityInfo
  getUdidByNetworkId : Text → Text
  getLocalDeviceId : Option Text
  checkIsSameAccount : DmAccessCaller → Text → Bool
  checkAccessToGroup : Text → Text → Bool
  checkAccessControl : DmAccessCaller → Text → Bool
  getCallerAppIdFromBms : Text → Option Text
  allocLocalTokenID : Text → UInt32 → UInt32
  verifyAccessToken : UInt32 → String → Bool
  getDeviceSecurityLevelValue : Text → Option Int32

section Checks

variable (services : PermissionServices)

def getTargetAbility (want : Want) (needQueryExtension : Bool) :
    Option AbilityInfo :=
  match services.queryAbilityInfo want with
  | some targetAbility =>
      if want.dmsMissionId.getD DEFAULT_DMS_MISSION_ID ≠ DEFAULT_DMS_MISSION_ID ∧
          (targetAbility.type = .service ∨ targetAbility.type = .extension) then
        none
      else some targetAbility
  | none =>
      if needQueryExtension then services.queryExtensionAbilityInfo want
      else none

def isSameAppId (callerAppId targetBundleName : Text) : Bool :=
  if targetBundleName = [] ∨ callerAppId = [] then false
  else services.getCallerAppIdFromBms targetBundleName == some callerAppId

def checkAccountAccessPermission (callerInfo : CallerInfo)
    (accountInfo : AccountInfo) (targetBundleName : Text) (isNewCollab : Bool) :
    Bool :=
  match services.getLocalDeviceId with
  | none => false
  | some dstNetworkId =>
      let dmSrcCaller : DmAccessCaller := {
        accountId := accountInfo.activeAccountId
        pkgName := targetBundleName
        networkId := callerInfo.sourceDeviceId
        userId := accountInfo.userId
        tokenId := callerInfo.accessToken }
      if services.sameAccountPart &&
          services.checkIsSameAccount dmSrcCaller dstNetworkId then true
      else if services.sameAccountPart && isNewCollab &&
          !isSameAppId services callerInfo.callerAppId targetBundleName then false
      else if services.checkAccessToGroup
          (services.getUdidByNetworkId callerInfo.sourceDeviceId)
          targetBundleName then true
      else services.checkAccessControl dmSrcCaller dstNetworkId

def checkMinApiVersion (targetAbility : AbilityInfo) (apiVersion : Int32) : Bool :=
  !targetAbility.isStageBasedModel && targetAbility.type == .service &&
    apiVersion ≤ FA_MODULE_ALLOW_MIN_API_VERSION

def remoteToken (callerInfo : CallerInfo) : UInt32 :=
  services.allocLocalTokenID callerInfo.sourceDeviceId callerInfo.accessToken

def checkBackgroundPermission (targetAbility : AbilityInfo)
    (callerInfo : CallerInfo) (want : Want) (needCheckApiVersion : Bool) : Bool :=
  if callerInfo.extraInfoJson.getObjectItemCaseSensitive "dmsVersion" |>.isNone
    then true
  else if !want.dmsIsCallerBackGround.getD true then true
  else if needCheckApiVersion && checkMinApiVersion targetAbility
      (want.dmsApiVersion.getD DEFAULT_DMS_API_VERSION) then true
  else if remoteToken services callerInfo = 0 then false
  else
    services.verifyAccessToken (remoteToken services callerInfo)
      startAbilitiesFromBackground ||
    services.verifyAccessToken (remoteToken services callerInfo)
      startAbiliiesFromBackground

def getDeviceSecurityLevel (udid : Text) : Int32 :=
  if services.deviceIdMaxLen < udid.length then DEFAULT_DEVICE_SECURITY_LEVEL
  else (services.getDeviceSecurityLevelValue udid).getD
    DEFAULT_DEVICE_SECURITY_LEVEL

def checkDeviceSecurityLevel (srcDeviceId dstDeviceId : Text) : Bool :=
  let srcUdid := services.getUdidByNetworkId srcDeviceId
  let dstUdid := services.getUdidByNetworkId dstDeviceId
  if srcUdid = [] then false
  else if dstUdid = [] then false
  else if getDeviceSecurityLevel services srcUdid =
        DEFAULT_DEVICE_SECURITY_LEVEL ∨
      getDeviceSecurityLevel services srcUdid <
        getDeviceSecurityLevel services dstUdid then false
  else true

def checkTargetAbilityVisible (targetAbility : AbilityInfo)
    (callerInfo : CallerInfo) : Bool :=
  if targetAbility.visible then true
  else if remoteToken services callerInfo = 0 then false
  else services.verifyAccessToken (remoteToken services callerInfo)
    startInvisibleAbility

def checkCollaborateStartCtrlPer (targetAbility : AbilityInfo)
    (callerInfo : CallerInfo) (want : Want) : Bool :=
  if !checkBackgroundPermission services targetAbility callerInfo want true then
    false
  else if !targetAbility.visible && !checkDeviceSecurityLevel services
      callerInfo.sourceDeviceId want.deviceId then false
  else if isSameAppId services callerInfo.callerAppId targetAbility.bundleName
    then true
  else if !checkTargetAbilityVisible services targetAbility callerInfo then false
  else if !targetAbility.isStageBasedModel && targetAbility.type == .service &&
      !targetAbility.associatedWakeUp then false
  else true

def checkCollabStartControlPermission (targetAbility : AbilityInfo)
    (callerInfo : CallerInfo) (want : Want) : Bool :=
  checkCollaborateStartCtrlPer services targetAbility callerInfo want

def checkMigrateStartCtrlPer (targetAbility : AbilityInfo)
    (callerInfo : CallerInfo) (isSameBundle : Bool) : Bool :=
  if !isSameBundle then true
  else isSameAppId services callerInfo.callerAppId targetAbility.bundleName

def isContinuation (want : Want) : Bool :=
  want.flags &&& FLAG_ABILITY_CONTINUATION ≠ 0

def checkStartControlPermission (targetAbility : AbilityInfo)
    (callerInfo : CallerInfo) (want : Want) (isSameBundle : Bool) : Bool :=
  if isContinuation want then
    checkMigrateStartCtrlPer services targetAbility callerInfo isSameBundle
  else checkCollaborateStartCtrlPer services targetAbility callerInfo want

def checkStartPermission (want : Want) (callerInfo : CallerInfo)
    (accountInfo : AccountInfo) (targetAbility : AbilityInfo)
    (isSameBundle : Bool) : Int32 :=
  if !checkAccountAccessPermission services callerInfo accountInfo
      targetAbility.bundleName false then DMS_ACCOUNT_ACCESS_PERMISSION_DENIED
  else if !checkStartControlPermission services targetAbility callerInfo want
      isSameBundle then DMS_START_CONTROL_PERMISSION_DENIED
  else ERR_OK

def checkGetCallerPermission (want : Want) (callerInfo : CallerInfo)
    (accountInfo : AccountInfo) (targetAbility : AbilityInfo) : Int32 :=
  if !checkAccountAccessPermission services callerInfo accountInfo
      targetAbility.bundleName false then DMS_ACCOUNT_ACCESS_PERMISSION_DENIED
  else if !isSameAppId services callerInfo.callerAppId targetAbility.bundleName
    then CALL_PERMISSION_DENIED
  else if !checkBackgroundPermission services targetAbility callerInfo want false
    then DMS_BACKGROUND_PERMISSION_DENIED
  else if !targetAbility.visible && !checkDeviceSecurityLevel services
      callerInfo.sourceDeviceId want.deviceId then CALL_PERMISSION_DENIED
  else ERR_OK

def checkComponentAccessPermission (targetAbility : AbilityInfo) : Bool :=
  targetAbility.visible

def checkSendResultPermission (callerInfo : CallerInfo)
    (accountInfo : AccountInfo) (targetAbility : AbilityInfo) : Int32 :=
  if !checkAccountAccessPermission services callerInfo accountInfo
      targetAbility.bundleName false then DMS_ACCOUNT_ACCESS_PERMISSION_DENIED
  else if !checkComponentAccessPermission targetAbility then
    DMS_COMPONENT_ACCESS_PERMISSION_DENIED
  else ERR_OK

def checkTarget (isSameBundle : Bool) (want : Want) (callerInfo : CallerInfo)
    (accountInfo : AccountInfo) (flag : Int32) (needQueryExtension : Bool) :
    Int32 :=
  match getTargetAbility services want needQueryExtension with
  | none => INVALID_PARAMETERS_ERR
  | some targetAbility =>
      if flag = START_PERMISSION then
        checkStartPermission services want callerInfo accountInfo targetAbility
          isSameBundle
      else if flag = CALL_PERMISSION then
        checkGetCallerPermission services want callerInfo accountInfo
          targetAbility
      else if flag = SEND_RESULT_PERMISSION then
        checkSendResultPermission services callerInfo accountInfo targetAbility
      else DMS_PERMISSION_DENIED

def checkTargetPermission := checkTarget services true

def checkTargetPermission4DiffBundle := checkTarget services false

def checkCollabStartPermission (want : Want) (callerInfo : CallerInfo)
    (accountInfo : AccountInfo) (needQueryExtension : Bool) : Int32 :=
  match getTargetAbility services want needQueryExtension with
  | none => INVALID_PARAMETERS_ERR
  | some targetAbility =>
      if !checkAccountAccessPermission services callerInfo accountInfo
          targetAbility.bundleName true then DMS_ACCOUNT_ACCESS_PERMISSION_DENIED
      else if !checkCollabStartControlPermission services targetAbility callerInfo
          want then DMS_START_CONTROL_PERMISSION_DENIED
      else ERR_OK

end Checks

/-! ## What an accepted request has passed -/

section Accepted

variable (services : PermissionServices) (callerInfo : CallerInfo) (want : Want)

/-- The level of the source is known, and at least the one that is read for the
device of the want. -/
def LevelHolds : Prop :=
  getDeviceSecurityLevel services
      (services.getUdidByNetworkId callerInfo.sourceDeviceId) ≠
    DEFAULT_DEVICE_SECURITY_LEVEL ∧
  getDeviceSecurityLevel services
      (services.getUdidByNetworkId want.deviceId) ≤
    getDeviceSecurityLevel services
      (services.getUdidByNetworkId callerInfo.sourceDeviceId)

def HoldsInvisible : Prop :=
  remoteToken services callerInfo ≠ 0 ∧
    services.verifyAccessToken (remoteToken services callerInfo)
      startInvisibleAbility = true

variable {services callerInfo want} {accountInfo : AccountInfo}
  {targetAbility : AbilityInfo}

theorem levelHolds_of_check (hcheck : checkDeviceSecurityLevel services
    callerInfo.sourceDeviceId want.deviceId = true) :
    LevelHolds services callerInfo want := by
  unfold checkDeviceSecurityLevel at hcheck
  dsimp only at hcheck
  split_ifs at hcheck with _ _ hlow
  rw [not_or, Int32.not_lt] at hlow
  exact hlow

theorem levelHolds_of_hidden (hhidden : targetAbility.visible = false)
    (hlevel : ¬ (!targetAbility.visible && !checkDeviceSecurityLevel services
      callerInfo.sourceDeviceId want.deviceId) = true) :
    LevelHolds services callerInfo want := by
  apply levelHolds_of_check
  simpa [hhidden] using hlevel

theorem collaborate_accepts (hhidden : targetAbility.visible = false)
    (haccept : checkCollaborateStartCtrlPer services targetAbility callerInfo
      want = true) :
    (isSameAppId services callerInfo.callerAppId targetAbility.bundleName =
        true ∨ HoldsInvisible services callerInfo) ∧
      LevelHolds services callerInfo want := by
  unfold checkCollaborateStartCtrlPer at haccept
  split_ifs at haccept with _ hlevel hsame hvisible
  · exact ⟨.inl hsame, levelHolds_of_hidden hhidden hlevel⟩
  · refine ⟨.inr ?_, levelHolds_of_hidden hhidden hlevel⟩
    unfold checkTargetAbilityVisible at hvisible
    rw [hhidden] at hvisible
    simpa [HoldsInvisible] using hvisible

theorem ite_eq_ok {code result : Int32} {denied : Bool} (hcode : code ≠ ERR_OK) :
    (if denied then code else result) = ERR_OK ↔
      denied = false ∧ result = ERR_OK := by
  cases denied <;> simp [hcode]

theorem startPermission_accepts (hhidden : targetAbility.visible = false)
    (haccept : checkStartPermission services want callerInfo accountInfo
      targetAbility true = ERR_OK) :
    checkAccountAccessPermission services callerInfo accountInfo
        targetAbility.bundleName false = true ∧
      (isSameAppId services callerInfo.callerAppId targetAbility.bundleName =
          true ∨
        isContinuation want = false ∧ HoldsInvisible services callerInfo) ∧
      (isContinuation want = false → LevelHolds services callerInfo want) := by
  rw [checkStartPermission, ite_eq_ok (by decide), ite_eq_ok (by decide),
    Bool.not_eq_false', Bool.not_eq_false'] at haccept
  obtain ⟨haccount, hcontrol, -⟩ := haccept
  refine ⟨haccount, ?_⟩
  rw [checkStartControlPermission] at hcontrol
  split_ifs at hcontrol with hcontinuation
  · exact ⟨.inl hcontrol, fun hnot => absurd hcontinuation (by simp [hnot])⟩
  · obtain ⟨hcaller, hlevel⟩ := collaborate_accepts hhidden hcontrol
    exact ⟨hcaller.imp_right fun h => ⟨by simpa using hcontinuation, h⟩,
      fun _ => hlevel⟩

theorem callPermission_accepts (hhidden : targetAbility.visible = false)
    (haccept : checkGetCallerPermission services want callerInfo accountInfo
      targetAbility = ERR_OK) :
    checkAccountAccessPermission services callerInfo accountInfo
        targetAbility.bundleName false = true ∧
      isSameAppId services callerInfo.callerAppId targetAbility.bundleName =
        true ∧ LevelHolds services callerInfo want := by
  rw [checkGetCallerPermission, ite_eq_ok (by decide), ite_eq_ok (by decide),
    ite_eq_ok (by decide), ite_eq_ok (by decide), Bool.not_eq_false',
    Bool.not_eq_false'] at haccept
  obtain ⟨haccount, hsame, -, hlevel, -⟩ := haccept
  exact ⟨haccount, hsame, levelHolds_of_hidden hhidden (by simp [hlevel])⟩

theorem sendResultPermission_refuses (hhidden : targetAbility.visible = false) :
    checkSendResultPermission services callerInfo accountInfo targetAbility ≠
      ERR_OK := by
  rw [checkSendResultPermission, checkComponentAccessPermission, hhidden, ne_eq,
    ite_eq_ok (by decide), ite_eq_ok (by decide)]
  exact fun haccept => Bool.noConfusion haccept.2.1

theorem checkTarget_eq {flag : Int32}
    (hask : flag = START_PERMISSION → isContinuation want = false)
    (needQueryExtension : Bool) :
    checkTargetPermission4DiffBundle services want callerInfo accountInfo flag
        needQueryExtension =
      checkTargetPermission services want callerInfo accountInfo flag
        needQueryExtension := by
  unfold checkTargetPermission4DiffBundle checkTargetPermission checkTarget
  by_cases hstart : flag = START_PERMISSION
  · simp [hstart, checkStartPermission, checkStartControlPermission, hask hstart]
  · simp [hstart]

/-- An ability that is not visible is protected by every entry. -/
theorem hidden_protected {needQueryExtension : Bool}
    (htarget : getTargetAbility services want needQueryExtension =
      some targetAbility) (hhidden : targetAbility.visible = false) :
    (checkTargetPermission services want callerInfo accountInfo START_PERMISSION
        needQueryExtension = ERR_OK →
      checkAccountAccessPermission services callerInfo accountInfo
          targetAbility.bundleName false = true ∧
        (isSameAppId services callerInfo.callerAppId targetAbility.bundleName =
            true ∨
          isContinuation want = false ∧ HoldsInvisible services callerInfo) ∧
        (isContinuation want = false → LevelHolds services callerInfo want)) ∧
    (checkTargetPermission services want callerInfo accountInfo CALL_PERMISSION
        needQueryExtension = ERR_OK →
      checkAccountAccessPermission services callerInfo accountInfo
          targetAbility.bundleName false = true ∧
        isSameAppId services callerInfo.callerAppId targetAbility.bundleName =
          true ∧ LevelHolds services callerInfo want) ∧
    (checkCollabStartPermission services want callerInfo accountInfo
        needQueryExtension = ERR_OK →
      checkAccountAccessPermission services callerInfo accountInfo
          targetAbility.bundleName true = true ∧
        (isSameAppId services callerInfo.callerAppId targetAbility.bundleName =
          true ∨ HoldsInvisible services callerInfo) ∧
        LevelHolds services callerInfo want) ∧
    checkTargetPermission services want callerInfo accountInfo
      SEND_RESULT_PERMISSION needQueryExtension ≠ ERR_OK ∧
    ∀ flag, (flag = START_PERMISSION → isContinuation want = false) →
      checkTargetPermission4DiffBundle services want callerInfo accountInfo flag
          needQueryExtension =
        checkTargetPermission services want callerInfo accountInfo flag
          needQueryExtension := by
  refine ⟨?_, ?_, ?_, ?_, fun flag hask => checkTarget_eq hask needQueryExtension⟩
  · rw [checkTargetPermission, checkTarget, htarget]
    exact startPermission_accepts hhidden
  · rw [checkTargetPermission, checkTarget, htarget]
    exact callPermission_accepts hhidden
  · rw [checkCollabStartPermission, htarget]
    dsimp only
    rw [ite_eq_ok (by decide), ite_eq_ok (by decide), Bool.not_eq_false',
      Bool.not_eq_false']
    rintro ⟨haccount, hcontrol, -⟩
    exact ⟨haccount, collaborate_accepts hhidden hcontrol⟩
  · rw [checkTargetPermission, checkTarget, htarget]
    exact sendResultPermission_refuses hhidden

end Accepted

/-! ## A continuation that starts a collaboration -/

/-- The app ids differ, and the token of the caller may start what is hidden. -/
def hiddenServices : PermissionServices where
  sameAccountPart := false
  deviceIdMaxLen := 64
  queryAbilityInfo _ := some { bundleName := "b".toList }
  queryExtensionAbilityInfo _ := none
  getUdidByNetworkId _ := "u".toList
  getLocalDeviceId := some "d".toList
  checkIsSameAccount _ _ := false
  checkAccessToGroup _ _ := true
  checkAccessControl _ _ := false
  getCallerAppIdFromBms _ := some "y".toList
  allocLocalTokenID _ _ := 7
  verifyAccessToken _ permission := permission == startInvisibleAbility
  getDeviceSecurityLevelValue _ := some 3

def hiddenCaller : CallerInfo := { callerAppId := "x".toList }

theorem hidden_protected_call :
    checkTargetPermission hiddenServices {} hiddenCaller {} CALL_PERMISSION false ≠
      ERR_OK := fun haccept =>
  absurd ((@hidden_protected hiddenServices hiddenCaller {} {}
    { bundleName := "b".toList } false rfl rfl).2.1 haccept).2.1 (by decide)

/-- The entry of a collaboration does not look at the flag of a continuation. -/
theorem not_hidden_continuation :
    ¬ ∀ (services : PermissionServices) (want : Want) (callerInfo : CallerInfo)
      (accountInfo : AccountInfo) (targetAbility : AbilityInfo),
      getTargetAbility services want false = some targetAbility →
      targetAbility.visible = false →
      checkCollabStartPermission services want callerInfo accountInfo false =
        ERR_OK →
      isSameAppId services callerInfo.callerAppId targetAbility.bundleName =
          true ∨
        isContinuation want = false ∧ HoldsInvisible services callerInfo := by
  intro hall
  obtain hsame | ⟨hnot, -⟩ := hall hiddenServices
    { flags := FLAG_ABILITY_CONTINUATION } hiddenCaller {}
    { bundleName := "b".toList } rfl rfl (by decide)
  · exact absurd hsame (by decide)
  · exact absurd hnot (by decide)

end HiddenAbilities
end Dmsfwk
