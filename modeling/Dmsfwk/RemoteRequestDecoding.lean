import Dmsfwk.DistributedSchedStub
import Dmsfwk.SinkStartRoundTrip

/-!
# What the service gets of a request

The six requests are read in the order they are written in, so that the fields
of the parcel arrive.  Of the members of the extra information some are written
and not read, or read and not written, and one stub leaves the type of the
caller out; what arrives is what was sent just when these parts have their
defaults.
-/

namespace Dmsfwk

open CJson Nlohmann DistributedSchedStub DistributedSchedProxy

variable {Want AbilityInfo : Type}

namespace SchedRequest

/-! ## What is to hold -/

/-- The caller that the service gets is the one that was sent, as a caller of
this system.  The process is compared where it is sent. -/
def SameCaller (sent received : CallerInfo) : Prop :=
  received.uid = sent.uid ∧
    received.sourceDeviceId = sent.sourceDeviceId ∧
    received.callerAppId = sent.callerAppId ∧
    received.accessToken = sent.accessToken ∧
    received.extraInfoJson.getObjectItemCaseSensitive "dmsVersion" =
      sent.extraInfoJson.getObjectItemCaseSensitive "dmsVersion" ∧
    received.callerType = callerTypeHarmony

def SameArguments :
    SchedRequest Want AbilityInfo → SchedRequest Want AbilityInfo → Prop
  | .startAbility _ _ requestCode callerInfo accountInfo,
      .startAbility _ _ requestCode' callerInfo' accountInfo' =>
      requestCode' = requestCode ∧ SameCaller callerInfo callerInfo' ∧
        accountInfo' = accountInfo
  | .sendResult _ requestCode callerInfo accountInfo resultCode,
      .sendResult _ requestCode' callerInfo' accountInfo' resultCode' =>
      requestCode' = requestCode ∧ SameCaller callerInfo callerInfo' ∧
        accountInfo' = accountInfo ∧ resultCode' = resultCode
  | .connectAbility _ _ connect callerInfo accountInfo,
      .connectAbility _ _ connect' callerInfo' accountInfo' =>
      connect' = connect ∧ SameCaller callerInfo callerInfo' ∧
        callerInfo'.pid = callerInfo.pid ∧ accountInfo' = accountInfo
  | .startAbilityByCall _ connect callerInfo accountInfo,
      .startAbilityByCall _ connect' callerInfo' accountInfo' =>
      connect' = connect ∧ SameCaller callerInfo callerInfo' ∧
        callerInfo'.pid = callerInfo.pid ∧ accountInfo' = accountInfo
  | .startFreeInstall _ requestCode callerInfo accountInfo taskId,
      .startFreeInstall _ requestCode' callerInfo' accountInfo' taskId' =>
      requestCode' = requestCode ∧ SameCaller callerInfo callerInfo' ∧
        accountInfo' = accountInfo ∧ taskId' = taskId
  | .stopExtensionAbility _ callerInfo accountInfo extensionType,
      .stopExtensionAbility _ callerInfo' accountInfo' extensionType' =>
      SameCaller callerInfo callerInfo' ∧ accountInfo' = accountInfo ∧
        extensionType' = extensionType
  | _, _ => False

def DecodesAsSent (library : NlohmannJson) (wants : RequestWants Want)
    (request : SchedRequest Want AbilityInfo) : Prop :=
  ∀ parcel ∈ write library wants request, ∃ call rest,
    inner library wants request parcel = some (call, rest) ∧
      request.SameArguments call

def callerInfo : SchedRequest Want AbilityInfo → CallerInfo
  | .startAbility _ _ _ callerInfo _ => callerInfo
  | .sendResult _ _ callerInfo _ _ => callerInfo
  | .connectAbility _ _ _ callerInfo _ => callerInfo
  | .startAbilityByCall _ _ callerInfo _ => callerInfo
  | .startFreeInstall _ _ callerInfo _ _ => callerInfo
  | .stopExtensionAbility _ callerInfo _ _ => callerInfo

def documents (library : NlohmannJson) :
    SchedRequest Want AbilityInfo → List Json
  | .startAbility _ _ _ callerInfo accountInfo =>
      [startExtraInfo callerInfo accountInfo]
  | .sendResult _ _ callerInfo accountInfo _ =>
      [callerInfo.extraInfoJson,
        sendResultExtraInfo library callerInfo accountInfo]
  | .connectAbility _ _ _ callerInfo accountInfo =>
      [startExtraInfo callerInfo accountInfo]
  | .startAbilityByCall _ _ callerInfo accountInfo =>
      [callExtraInfo callerInfo accountInfo]
  | .startFreeInstall _ requestCode callerInfo _ _ =>
      [freeInstallExtraInfo callerInfo requestCode]
  | .stopExtensionAbility _ callerInfo accountInfo _ =>
      [stopExtensionExtraInfo callerInfo accountInfo]

def VersionIsText (extraInfo : Json) : Prop :=
  ∀ value, extraInfo.getObjectItemCaseSensitive "dmsVersion" = some value →
    value.isString = true

/-- The extra information has the version as `GetCallerInfo` puts it there, or
has none, and the JSON library reads back what it prints. -/
structure Sendable (library : NlohmannJson)
    (request : SchedRequest Want AbilityInfo) : Prop where
  version : VersionIsText request.callerInfo.extraInfoJson
  kept : ∀ json ∈ request.documents library, library.Keeps json

/-- What the stub does not get was a default.  A call gets another type of
caller, so that it arrives only if nothing is sent. -/
def LosesNothing : SchedRequest Want AbilityInfo → Prop
  | .startAbility .. => True
  | .sendResult _ _ callerInfo _ _ => callerInfo.accessToken = 0
  | .connectAbility .. => True
  | .startAbilityByCall _ connect _ _ => connect = 0
  | .startFreeInstall _ _ _ accountInfo _ =>
      accountInfo.activeAccountId = [] ∧ accountInfo.userId = -1
  | .stopExtensionAbility _ callerInfo accountInfo _ =>
      callerInfo.extraInfoJson.getObjectItemCaseSensitive "dmsVersion" = none ∧
        accountInfo.activeAccountId = [] ∧ accountInfo.userId = -1

end SchedRequest

/-! ## Saving what was read -/

section Saving

variable {json : Json} (callerInfo : CallerInfo) (accountInfo : AccountInfo)

theorem saveAccessToken_of_some {accessToken : UInt32}
    (htoken : json.getObjectItemCaseSensitive "accessTokenID" =
      some (ofUInt32 accessToken)) :
    saveAccessToken json callerInfo =
      { callerInfo with accessToken := accessToken } := by
  rw [saveAccessToken,
    memberIf_of_some htoken (isNumberUnsigned_ofUInt32 accessToken)]
  simp

theorem saveCallerMember_of_none {key : String}
    (hmember : json.getObjectItemCaseSensitive key = none) :
    saveCallerMember key json callerInfo = callerInfo := by
  rw [saveCallerMember, memberIf_of_none hmember]

theorem saveCallerMember_of_same {key : String} {source : Json}
    (hsame : json.getObjectItemCaseSensitive key =
      source.getObjectItemCaseSensitive key)
    (htext : ∀ value, source.getObjectItemCaseSensitive key = some value →
      value.isString = true) :
    saveCallerMember key json callerInfo =
      { callerInfo with
        extraInfoJson := copyMember key source callerInfo.extraInfoJson } := by
  unfold copyMember
  cases hmember : source.getObjectItemCaseSensitive key with
  | none => exact saveCallerMember_of_none _ (hsame.trans hmember)
  | some value =>
      have hstring : value.isString = true := htext value hmember
      rw [saveCallerMember, memberIf_of_some (hsame.trans hmember) hstring]
      cases value with
      | string text => rfl
      | _ => cases hstring

theorem saveAccountId_of_some {activeAccountId : Text}
    (hmember : json.getObjectItemCaseSensitive "accountId" =
      some (.string activeAccountId)) :
    saveAccountId json accountInfo =
      { accountInfo with activeAccountId := activeAccountId } := by
  rw [saveAccountId, memberIf_of_some hmember (isString_string activeAccountId)]
  rfl

theorem saveAccountId_of_none
    (hmember : json.getObjectItemCaseSensitive "accountId" = none) :
    saveAccountId json accountInfo = accountInfo := by
  rw [saveAccountId, memberIf_of_none hmember]

theorem saveUserId_of_some {userId : Int32}
    (hmember : json.getObjectItemCaseSensitive "userId" =
      some (.ofInt32 userId)) :
    saveUserId json accountInfo = { accountInfo with userId := userId } := by
  rw [saveUserId, memberIf_of_some hmember (isNumber_ofInt32 userId)]
  simp

theorem saveUserId_of_none
    (hmember : json.getObjectItemCaseSensitive "userId" = none) :
    saveUserId json accountInfo = accountInfo := by
  rw [saveUserId, memberIf_of_none hmember]

end Saving

/-! ## Six requests -/

section Requests

variable {library : NlohmannJson} {wants : RequestWants Want}

theorem saveParsed_of_keeps {json : Json} (hkeeps : library.Keeps json)
    (save : Json → CallerInfo → AccountInfo → CallerInfo × AccountInfo)
    (infos : CallerInfo × AccountInfo) :
    saveParsed library (library.dump json) save infos =
      save json infos.1 infos.2 := by
  rw [saveParsed, hkeeps]

def parcelCaller (sent : CallerInfo) (pid callerType : Int32) : CallerInfo where
  uid := sent.uid
  pid := pid
  callerType := callerType
  sourceDeviceId := sent.sourceDeviceId
  callerAppId := sent.callerAppId

/-- Every parcel has the fields of the caller and of the account in the
middle. -/
def parcelOf (callerInfo : CallerInfo) (accountInfo : AccountInfo)
    (before after : MessageParcel Want AbilityInfo) :
    MessageParcel Want AbilityInfo :=
  before ++ callerItems callerInfo accountInfo ++ after

def parcelAccount (sent : AccountInfo) : AccountInfo where
  accountType := sent.accountType
  groupIdList := sent.groupIdList

theorem versionIsText_getCallerInfo (localDeviceId : Text) (callerUid : Int32)
    (accessToken : UInt32) (callerAppId : Text) (bundleNames : List Text) :
    SchedRequest.VersionIsText (getCallerInfo localDeviceId callerUid
      accessToken callerAppId bundleNames {}).extraInfoJson := by
  intro value hvalue
  simp only [getCallerInfo, getObjectItem_setMember, isAssignable_null,
    and_self, if_pos, Option.some.injEq] at hvalue
  subst hvalue
  rfl

variable {callerInfo : CallerInfo} {accountInfo : AccountInfo}

theorem getObjectItem_startExtraInfo (key : String) :
    (startExtraInfo callerInfo accountInfo).getObjectItemCaseSensitive key =
      if "dmsVersion" = key then
        callerInfo.extraInfoJson.getObjectItemCaseSensitive "dmsVersion"
      else if "userId" = key then some (.ofInt32 accountInfo.userId)
      else if "accountId" = key then some (.string accountInfo.activeAccountId)
      else if "accessTokenID" = key then
        some (ofUInt32 callerInfo.accessToken)
      else none := by
  by_cases hversion : "dmsVersion" = key
  · subst hversion
    simp [startExtraInfo, accountExtraInfo]
  · simp [startExtraInfo, accountExtraInfo, hversion]

def arrivedCaller (sent : CallerInfo) (pid callerType : Int32) : CallerInfo :=
  { parcelCaller sent pid callerType with
    accessToken := sent.accessToken
    extraInfoJson := copyMember "dmsVersion" sent.extraInfoJson .null }

theorem saveExtraInfo_startExtraInfo
    (hversion : SchedRequest.VersionIsText callerInfo.extraInfoJson)
    (pid callerType : Int32) :
    saveExtraInfo (startExtraInfo callerInfo accountInfo)
        (parcelCaller callerInfo pid callerType) (parcelAccount accountInfo) =
      (arrivedCaller callerInfo pid callerType, accountInfo) := by
  have hget := @getObjectItem_startExtraInfo callerInfo accountInfo
  unfold saveExtraInfo
  rw [saveAccessToken_of_some _ (hget "accessTokenID"),
    saveCallerMember_of_same _ (hget "dmsVersion") hversion,
    saveCallerMember_of_none _ (hget "dmsCallerUidBundleName"),
    saveAccountId_of_some _ (hget "accountId"),
    saveUserId_of_some _ (hget "userId")]
  rfl

theorem sameCaller_arrivedCaller (pid : Int32) :
    SchedRequest.SameCaller callerInfo
      (arrivedCaller callerInfo pid callerTypeHarmony) := by
  refine ⟨rfl, rfl, rfl, rfl, ?_, rfl⟩
  simp [arrivedCaller]

theorem SchedRequest.decodesAsSent_of_run
    {request : SchedRequest Want AbilityInfo}
    {parcel : MessageParcel Want AbilityInfo}
    (hwrite : write library wants request = some parcel)
    (call : SchedRequest Want AbilityInfo)
    (hrun : inner library wants request parcel = some (call, [])) :
    request.DecodesAsSent library wants ↔ request.SameArguments call := by
  unfold DecodesAsSent
  rw [hwrite]
  constructor
  · intro hdecodes
    obtain ⟨found, rest, hfound, hsame⟩ := hdecodes parcel rfl
    rw [hrun] at hfound
    cases hfound
    exact hsame
  · intro hsame sent hsent
    cases hsent
    exact ⟨call, [], hrun, hsame⟩

open SchedRequest

section Arguments

variable {want : Want} {abilityInfo : AbilityInfo} {connect : RemoteObject}
  {requestCode resultCode extensionType : Int32} {taskId : Int64}

def received (sent : CallerInfo) (account : AccountInfo)
    (pid callerType : Int32) : CallerInfo × AccountInfo :=
  (parcelCaller sent pid callerType, parcelAccount account)

/-! ### Starting and connecting -/

theorem startAbilityFromRemoteInner_run {extraInfo : Text}
    (hextra : extraInfo ≠ []) :
    startAbilityFromRemoteInner library wants
        (parcelOf callerInfo accountInfo
          [.want want, .abilityInfo abilityInfo, .int32 requestCode,
            .int32 callerInfo.uid]
          [.string extraInfo]) =
      some (.startAbility (wants.removeRemoteObjectFromWant want) abilityInfo
        requestCode
        (saveParsed library extraInfo saveExtraInfo
          (received callerInfo accountInfo (-1) callerTypeHarmony)).1
        (saveParsed library extraInfo saveExtraInfo
          (received callerInfo accountInfo (-1) callerTypeHarmony)).2, []) := by
  cases extraInfo with
  | nil => exact absurd rfl hextra
  | cons first rest => rfl

theorem connectAbilityFromRemoteInner_run (extraInfo : Text) :
    connectAbilityFromRemoteInner library wants
        (parcelOf callerInfo accountInfo
          [.want want, .abilityInfo abilityInfo, .remoteObject connect,
            .int32 callerInfo.uid, .int32 callerInfo.pid]
          [.string extraInfo]) =
      some (.connectAbility (wants.removeRemoteObjectFromWant want) abilityInfo
        connect
        (saveParsed library extraInfo saveExtraInfo (received callerInfo
          accountInfo callerInfo.pid callerTypeHarmony)).1
        (saveParsed library extraInfo saveExtraInfo (received callerInfo
          accountInfo callerInfo.pid callerTypeHarmony)).2, []) := rfl

theorem write_startAbility (wants : RequestWants Want) :
    write library wants (startAbility want abilityInfo requestCode callerInfo
        accountInfo) =
      some (parcelOf callerInfo accountInfo
          [.want want, .abilityInfo abilityInfo, .int32 requestCode,
            .int32 callerInfo.uid]
          [.string (library.dump (startExtraInfo callerInfo accountInfo))]) :=
  rfl

theorem startAbility_decodesAsSent
    (hsendable : (startAbility want abilityInfo requestCode callerInfo
      accountInfo).Sendable library) :
    (startAbility want abilityInfo requestCode callerInfo
      accountInfo).DecodesAsSent library wants := by
  have hkeeps : library.Keeps (startExtraInfo callerInfo accountInfo) :=
    hsendable.kept _ List.mem_cons_self
  have hversion : SchedRequest.VersionIsText callerInfo.extraInfoJson :=
    hsendable.version
  refine (SchedRequest.decodesAsSent_of_run (write_startAbility _) _
    (startAbilityFromRemoteInner_run hkeeps.dump_ne_nil)).mpr ?_
  rw [saveParsed_of_keeps hkeeps]
  dsimp only [received]
  rw [saveExtraInfo_startExtraInfo hversion]
  exact ⟨rfl, sameCaller_arrivedCaller _, rfl⟩

theorem write_connectAbility (hconnect : connect ≠ 0) :
    write library wants
        (connectAbility want abilityInfo connect callerInfo accountInfo) =
      some (parcelOf callerInfo accountInfo
          [.want want, .abilityInfo abilityInfo, .remoteObject connect,
            .int32 callerInfo.uid, .int32 callerInfo.pid]
          [.string (library.dump (startExtraInfo callerInfo accountInfo))]) :=
  if_neg hconnect

theorem connectAbility_decodesAsSent
    (hsendable : (connectAbility want abilityInfo connect callerInfo
      accountInfo).Sendable library) :
    (connectAbility want abilityInfo connect callerInfo
      accountInfo).DecodesAsSent library wants := by
  have hkeeps : library.Keeps (startExtraInfo callerInfo accountInfo) :=
    hsendable.kept _ List.mem_cons_self
  have hversion : SchedRequest.VersionIsText callerInfo.extraInfoJson :=
    hsendable.version
  by_cases hconnect : connect = 0
  · intro parcel hparcel
    rw [write, if_pos hconnect] at hparcel
    cases hparcel
  · refine (SchedRequest.decodesAsSent_of_run (write_connectAbility hconnect) _
      (connectAbilityFromRemoteInner_run _)).mpr ?_
    rw [saveParsed_of_keeps hkeeps]
    dsimp only [received]
    rw [saveExtraInfo_startExtraInfo hversion]
    exact ⟨rfl, sameCaller_arrivedCaller _, rfl, rfl⟩

/-! ### Results -/

theorem sendResultFromRemoteInner_run (extraInfo : Text) :
    sendResultFromRemoteInner library wants
        (parcelOf callerInfo accountInfo
          [.want want, .int32 requestCode, .int32 callerInfo.uid]
          [.int32 resultCode, .string extraInfo] :
            MessageParcel Want AbilityInfo) =
      some (.sendResult (wants.removeRemoteObjectFromWant want) requestCode
        (saveParsed library extraInfo (saveSendResultExtraInfo library)
          (received callerInfo accountInfo (-1) callerTypeHarmony)).1
        (saveParsed library extraInfo (saveSendResultExtraInfo library)
          (received callerInfo accountInfo (-1) callerTypeHarmony)).2
        resultCode, []) := rfl

theorem saveSendResultExtraInfo_sendResultExtraInfo
    (hkeeps : library.Keeps callerInfo.extraInfoJson) :
    saveSendResultExtraInfo library
        (sendResultExtraInfo library callerInfo accountInfo)
        (parcelCaller callerInfo (-1) callerTypeHarmony)
        (parcelAccount accountInfo) =
      ({ parcelCaller callerInfo (-1) callerTypeHarmony with
          extraInfoJson := callerInfo.extraInfoJson }, accountInfo) := by
  have hcaller : memberIf Json.isString "callerInfo_ExtraInfoJson"
      (sendResultExtraInfo library callerInfo accountInfo) =
        some (.string (library.dump callerInfo.extraInfoJson)) := by
    apply memberIf_of_some _ (isString_string _)
    simp [sendResultExtraInfo, accountExtraInfo]
  have haccount : (sendResultExtraInfo library callerInfo accountInfo
      ).getObjectItemCaseSensitive "accountId" =
        some (.string accountInfo.activeAccountId) := by
    simp [sendResultExtraInfo, accountExtraInfo]
  have huser : (sendResultExtraInfo library callerInfo accountInfo
      ).getObjectItemCaseSensitive "userId" =
        some (.ofInt32 accountInfo.userId) := by
    simp [sendResultExtraInfo, accountExtraInfo]
  unfold saveSendResultExtraInfo
  rw [hcaller, saveAccountId_of_some _ haccount, saveUserId_of_some _ huser]
  dsimp only
  rw [toText_string, hkeeps]
  rfl

theorem write_sendResult (wants : RequestWants Want) :
    write library wants (sendResult want requestCode callerInfo accountInfo
        resultCode : SchedRequest Want AbilityInfo) =
      some (parcelOf callerInfo accountInfo
          [.want want, .int32 requestCode, .int32 callerInfo.uid]
          [.int32 resultCode, .string (library.dump
            (sendResultExtraInfo library callerInfo accountInfo))]) := rfl

theorem sendResult_decodesAsSent_iff
    (hsendable : (sendResult want requestCode callerInfo accountInfo
      resultCode : SchedRequest Want AbilityInfo).Sendable library) :
    (sendResult want requestCode callerInfo accountInfo
      resultCode : SchedRequest Want AbilityInfo).DecodesAsSent library
        wants ↔ callerInfo.accessToken = 0 := by
  have hcaller : library.Keeps callerInfo.extraInfoJson :=
    hsendable.kept _ List.mem_cons_self
  have hkeeps : library.Keeps
      (sendResultExtraInfo library callerInfo accountInfo) :=
    hsendable.kept _ (List.mem_cons_of_mem _ List.mem_cons_self)
  refine (SchedRequest.decodesAsSent_of_run (write_sendResult _) _
    (sendResultFromRemoteInner_run _)).trans ?_
  rw [saveParsed_of_keeps hkeeps]
  dsimp only [received]
  rw [saveSendResultExtraInfo_sendResultExtraInfo hcaller]
  constructor
  · rintro ⟨-, ⟨-, -, -, htoken, -⟩, -⟩
    exact htoken.symm
  · intro htoken
    exact ⟨rfl, ⟨rfl, rfl, rfl, htoken.symm, rfl, rfl⟩, rfl, rfl⟩

/-! ### Calls -/

theorem write_startAbilityByCall (hconnect : connect ≠ 0) :
    write library wants (startAbilityByCall want connect callerInfo
        accountInfo : SchedRequest Want AbilityInfo) =
      some (parcelOf callerInfo accountInfo
          [.remoteObject connect, .int32 callerInfo.uid, .int32 callerInfo.pid]
          [.string (library.dump (callExtraInfo callerInfo accountInfo)),
            .want want]) :=
  if_neg hconnect

theorem startAbilityByCallFromRemoteInner_run {extraInfo : Text}
    (hextra : extraInfo ≠ []) :
    startAbilityByCallFromRemoteInner library wants
        (parcelOf callerInfo accountInfo
          [.remoteObject connect, .int32 callerInfo.uid, .int32 callerInfo.pid]
          [.string extraInfo, .want want] :
            MessageParcel Want AbilityInfo) =
      some (.startAbilityByCall (wants.removeRemoteObjectFromWant want) connect
        (saveParsed library extraInfo saveExtraInfo (received callerInfo
          accountInfo callerInfo.pid 0)).1
        (saveParsed library extraInfo saveExtraInfo (received callerInfo
          accountInfo callerInfo.pid 0)).2, []) := by
  cases extraInfo with
  | nil => exact absurd rfl hextra
  | cons first rest => rfl

theorem callerType_saveExtraInfo (json : Json) (caller : CallerInfo)
    (account : AccountInfo) :
    (saveExtraInfo json caller account).1.callerType = caller.callerType := by
  unfold saveExtraInfo saveCallerMember saveAccessToken
  dsimp only
  split <;> split <;> split <;> rfl

theorem startAbilityByCall_decodesAsSent_iff
    (hsendable : (startAbilityByCall want connect callerInfo
      accountInfo : SchedRequest Want AbilityInfo).Sendable library) :
    (startAbilityByCall want connect callerInfo
      accountInfo : SchedRequest Want AbilityInfo).DecodesAsSent library
        wants ↔ connect = 0 := by
  have hkeeps : library.Keeps (callExtraInfo callerInfo accountInfo) :=
    hsendable.kept _ List.mem_cons_self
  by_cases hconnect : connect = 0
  · refine iff_of_true ?_ hconnect
    intro parcel hparcel
    rw [write, if_pos hconnect] at hparcel
    cases hparcel
  · refine (SchedRequest.decodesAsSent_of_run
      (write_startAbilityByCall hconnect) _
      (startAbilityByCallFromRemoteInner_run hkeeps.dump_ne_nil)).trans ?_
    rw [saveParsed_of_keeps hkeeps]
    refine iff_of_false ?_ hconnect
    rintro ⟨-, ⟨-, -, -, -, -, htype⟩, -⟩
    rw [callerType_saveExtraInfo] at htype
    have hdiffer : (0 : Int32) ≠ callerTypeHarmony := by decide
    exact hdiffer htype

/-! ### Free installs -/

theorem getObjectItem_freeInstallExtraInfo (key : String) :
    (freeInstallExtraInfo callerInfo requestCode).getObjectItemCaseSensitive
        key =
      if "dmsVersion" = key then
        callerInfo.extraInfoJson.getObjectItemCaseSensitive "dmsVersion"
      else if "requestCode" = key then some (.ofInt32 requestCode)
      else if "accessTokenID" = key then
        some (ofUInt32 callerInfo.accessToken)
      else none := by
  by_cases hversion : "dmsVersion" = key
  · subst hversion
    simp [freeInstallExtraInfo]
  · simp [freeInstallExtraInfo, hversion]

theorem requestCodeOf_freeInstallExtraInfo
    (hkeeps : library.Keeps (freeInstallExtraInfo callerInfo requestCode)) :
    requestCodeOf library
      (library.dump (freeInstallExtraInfo callerInfo requestCode)) =
        requestCode := by
  have hget := @getObjectItem_freeInstallExtraInfo callerInfo requestCode
  unfold requestCodeOf
  rw [hkeeps, Option.bind_some,
    memberIf_of_some (hget "requestCode") (isNumberInteger_ofInt32 requestCode)]
  exact toInt32_ofInt32 requestCode

theorem saveExtraInfo_freeInstallExtraInfo
    (hversion : SchedRequest.VersionIsText callerInfo.extraInfoJson)
    (pid callerType : Int32) :
    saveExtraInfo (freeInstallExtraInfo callerInfo requestCode)
        (parcelCaller callerInfo pid callerType) (parcelAccount accountInfo) =
      (arrivedCaller callerInfo pid callerType, parcelAccount accountInfo) := by
  have hget := @getObjectItem_freeInstallExtraInfo callerInfo requestCode
  unfold saveExtraInfo
  rw [saveAccessToken_of_some _ (hget "accessTokenID"),
    saveCallerMember_of_same _ (hget "dmsVersion") hversion,
    saveCallerMember_of_none _ (hget "dmsCallerUidBundleName"),
    saveAccountId_of_none _ (hget "accountId"),
    saveUserId_of_none _ (hget "userId")]
  rfl

theorem write_startFreeInstall :
    write library wants (startFreeInstall want requestCode callerInfo
        accountInfo taskId : SchedRequest Want AbilityInfo) =
      some (parcelOf callerInfo accountInfo
          [.want want, .int32 callerInfo.uid]
          [.int64 taskId, .want (wants.ofBundleNames callerInfo.bundleNames),
            .string (library.dump
              (freeInstallExtraInfo callerInfo requestCode))]) := rfl

theorem startFreeInstallFromRemoteInner_run (cmpWant : Want)
    (extraInfo : Text) :
    startFreeInstallFromRemoteInner library wants
        (parcelOf callerInfo accountInfo
          [.want want, .int32 callerInfo.uid]
          [.int64 taskId, .want cmpWant, .string extraInfo] :
            MessageParcel Want AbilityInfo) =
      some (.startFreeInstall
        (wants.setFreeInstall
          (saveParsed library extraInfo saveExtraInfo
            (received callerInfo accountInfo (-1) callerTypeHarmony)).1.callerAppId
          (wants.bundleNames (wants.removeRemoteObjectFromWant cmpWant))
          (wants.removeRemoteObjectFromWant want))
        (requestCodeOf library extraInfo)
        (saveParsed library extraInfo saveExtraInfo
          (received callerInfo accountInfo (-1) callerTypeHarmony)).1
        (saveParsed library extraInfo saveExtraInfo
          (received callerInfo accountInfo (-1) callerTypeHarmony)).2
        taskId, []) := rfl

theorem parcelAccount_eq_iff :
    parcelAccount accountInfo = accountInfo ↔
      accountInfo.activeAccountId = [] ∧ accountInfo.userId = -1 := by
  obtain ⟨accountType, groupIdList, activeAccountId, userId⟩ := accountInfo
  simp [parcelAccount, eq_comm]

theorem startFreeInstall_decodesAsSent_iff
    (hsendable : (startFreeInstall want requestCode callerInfo accountInfo
      taskId : SchedRequest Want AbilityInfo).Sendable library) :
    (startFreeInstall want requestCode callerInfo accountInfo
      taskId : SchedRequest Want AbilityInfo).DecodesAsSent library wants ↔
        accountInfo.activeAccountId = [] ∧ accountInfo.userId = -1 := by
  have hkeeps : library.Keeps (freeInstallExtraInfo callerInfo requestCode) :=
    hsendable.kept _ List.mem_cons_self
  have hversion : SchedRequest.VersionIsText callerInfo.extraInfoJson :=
    hsendable.version
  refine (SchedRequest.decodesAsSent_of_run write_startFreeInstall _
    (startFreeInstallFromRemoteInner_run _ _)).trans ?_
  rw [saveParsed_of_keeps hkeeps, requestCodeOf_freeInstallExtraInfo hkeeps]
  dsimp only [received]
  rw [saveExtraInfo_freeInstallExtraInfo hversion,
    ← parcelAccount_eq_iff]
  constructor
  · rintro ⟨-, -, haccount, -⟩
    exact haccount
  · intro haccount
    exact ⟨rfl, sameCaller_arrivedCaller _, haccount, rfl⟩

/-! ### Stopping -/

theorem write_stopExtensionAbility :
    write library wants (stopExtensionAbility want callerInfo accountInfo
        extensionType : SchedRequest Want AbilityInfo) =
      some (parcelOf callerInfo accountInfo
          [.want want, .int32 extensionType, .int32 callerInfo.uid]
          [.string (library.dump
            (stopExtensionExtraInfo callerInfo accountInfo))]) := rfl

theorem stopExtensionAbilityFromRemoteInner_run (extraInfo : Text) :
    stopExtensionAbilityFromRemoteInner library wants
        (parcelOf callerInfo accountInfo
          [.want want, .int32 extensionType, .int32 callerInfo.uid]
          [.string extraInfo] :
            MessageParcel Want AbilityInfo) =
      some (.stopExtensionAbility (wants.removeRemoteObjectFromWant want)
        (saveParsed library extraInfo
          (fun extraInfoJson callerInfo accountInfo =>
            (saveAccessToken extraInfoJson callerInfo, accountInfo))
          (received callerInfo accountInfo (-1) callerTypeHarmony)).1
        (saveParsed library extraInfo
          (fun extraInfoJson callerInfo accountInfo =>
            (saveAccessToken extraInfoJson callerInfo, accountInfo))
          (received callerInfo accountInfo (-1) callerTypeHarmony)).2
        extensionType, []) := rfl

theorem stopExtensionAbility_decodesAsSent_iff
    (hsendable : (stopExtensionAbility want callerInfo accountInfo
      extensionType : SchedRequest Want AbilityInfo).Sendable library) :
    (stopExtensionAbility want callerInfo accountInfo
      extensionType : SchedRequest Want AbilityInfo).DecodesAsSent library
        wants ↔
      callerInfo.extraInfoJson.getObjectItemCaseSensitive "dmsVersion" = none ∧
        accountInfo.activeAccountId = [] ∧ accountInfo.userId = -1 := by
  have hkeeps : library.Keeps
      (stopExtensionExtraInfo callerInfo accountInfo) :=
    hsendable.kept _ List.mem_cons_self
  have htoken : (stopExtensionExtraInfo callerInfo accountInfo
      ).getObjectItemCaseSensitive "accessTokenID" =
        some (ofUInt32 callerInfo.accessToken) := by
    simp [stopExtensionExtraInfo, accountExtraInfo]
  refine (SchedRequest.decodesAsSent_of_run write_stopExtensionAbility _
    (stopExtensionAbilityFromRemoteInner_run _)).trans ?_
  rw [saveParsed_of_keeps hkeeps, saveAccessToken_of_some _ htoken,
    ← parcelAccount_eq_iff]
  constructor
  · rintro ⟨⟨-, -, -, -, hversion, -⟩, haccount, -⟩
    exact ⟨hversion.symm, haccount⟩
  · intro hdefault
    exact ⟨⟨rfl, rfl, rfl, rfl, hdefault.1.symm, rfl⟩, hdefault.2, rfl⟩

end Arguments

/-- A request arrives as it was sent just when what the stub does not get had
its default. -/
theorem SchedRequest.decodesAsSent_iff (library : NlohmannJson)
    (wants : RequestWants Want) (request : SchedRequest Want AbilityInfo)
    (hsendable : request.Sendable library) :
    request.DecodesAsSent library wants ↔ request.LosesNothing := by
  cases request with
  | startAbility want abilityInfo requestCode callerInfo accountInfo =>
      exact iff_of_true (startAbility_decodesAsSent hsendable) trivial
  | sendResult want requestCode callerInfo accountInfo resultCode =>
      exact sendResult_decodesAsSent_iff hsendable
  | connectAbility want abilityInfo connect callerInfo accountInfo =>
      exact iff_of_true (connectAbility_decodesAsSent hsendable) trivial
  | startAbilityByCall want connect callerInfo accountInfo =>
      exact startAbilityByCall_decodesAsSent_iff hsendable
  | startFreeInstall want requestCode callerInfo accountInfo taskId =>
      exact startFreeInstall_decodesAsSent_iff hsendable
  | stopExtensionAbility want callerInfo accountInfo extensionType =>
      exact stopExtensionAbility_decodesAsSent_iff hsendable

end Requests

/-! ## Sample requests -/

section Samples

open SinkStartCmd (compact)

namespace SchedRequest

def knownJson (known : List Json) : NlohmannJson where
  dump := compact.printObject
  parse := fun text =>
    if text = [] then none
    else known.find? fun json => compact.printObject json == text
  parse_nil := rfl

theorem find?_of_pairwise {f : Json → Text} {known : List Json}
    (hdistinct : known.Pairwise fun first second => f first ≠ f second)
    {json : Json} (hmem : json ∈ known) :
    known.find? (fun other => f other == f json) = some json := by
  induction known with
  | nil => cases hmem
  | cons head rest ih =>
      rw [List.pairwise_cons] at hdistinct
      rcases List.mem_cons.mp hmem with rfl | hrest
      · rw [List.find?_cons_of_pos (by simp)]
      · have hhead : f head ≠ f json := hdistinct.1 json hrest
        rw [List.find?_cons_of_neg (by simpa using hhead)]
        exact ih hdistinct.2 hrest

theorem keeps_knownJson {known : List Json}
    (hdistinct : known.Pairwise fun first second =>
      compact.printObject first ≠ compact.printObject second)
    (hprinted : [] ∉ known.map compact.printObject) {json : Json}
    (hmem : json ∈ known) : (knownJson known).Keeps json := by
  have htext : compact.printObject json ≠ [] := by
    intro hempty
    exact hprinted (hempty ▸ List.mem_map_of_mem hmem)
  exact (if_neg htext).trans (find?_of_pairwise hdistinct hmem)

def sampleWants : RequestWants Unit where
  removeRemoteObjectFromWant := id
  ofBundleNames := fun _ => ()
  bundleNames := fun _ => []
  setFreeInstall := fun _ _ want => want

def sampleCaller : CallerInfo :=
  getCallerInfo "a".toList 20010010 537000000 "appid".toList ["app".toList] {}

def sampleAccount : AccountInfo where
  groupIdList := ["g".toList]
  activeAccountId := "1".toList
  userId := 100

def sampleStart : SchedRequest Unit Unit :=
  .startAbility () () 7 sampleCaller sampleAccount

def sampleResult : SchedRequest Unit Unit :=
  .sendResult () 7 sampleCaller sampleAccount 0

def sampleKnown : List Json :=
  sampleStart.documents (knownJson []) ++ sampleResult.documents (knownJson [])

theorem sendable_sample {request : SchedRequest Unit Unit}
    (hcaller : request.callerInfo = sampleCaller)
    (hdocuments : request.documents (knownJson sampleKnown) ⊆ sampleKnown) :
    request.Sendable (knownJson sampleKnown) where
  version := hcaller ▸ versionIsText_getCallerInfo _ _ _ _ _
  kept := fun json hmem =>
    keeps_knownJson (by decide +kernel) (by decide +kernel) (hdocuments hmem)

theorem sampleStart_decodesAsSent :
    sampleStart.DecodesAsSent (knownJson sampleKnown) sampleWants :=
  (SchedRequest.decodesAsSent_iff _ _ _
    (sendable_sample rfl (List.subset_append_left _ _))).mpr trivial

theorem not_sampleResult_decodesAsSent :
    sampleResult.Sendable (knownJson sampleKnown) ∧
      ¬ sampleResult.DecodesAsSent (knownJson sampleKnown) sampleWants := by
  have hsendable : sampleResult.Sendable (knownJson sampleKnown) :=
    sendable_sample rfl (List.subset_append_right _ _)
  refine ⟨hsendable, ?_⟩
  intro hdecodes
  have htoken : sampleCaller.accessToken = 0 :=
    (sendResult_decodesAsSent_iff hsendable).mp hdecodes
  exact absurd htoken (by decide)

end SchedRequest

end Samples

end Dmsfwk
