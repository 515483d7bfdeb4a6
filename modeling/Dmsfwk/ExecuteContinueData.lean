import Dmsfwk.ConnectedAbilities
import Dmsfwk.DSchedContinue
import Dmsfwk.DSchedContinueEvent

/-!
# Starting the ability of a continuation

The sink looks the ability of a data command up twice: in the record of the
bundle that the command names, before the permissions are checked, and by the
continue type of the continuation, after that.  The first look-up prefers the
module of the source and ignores the suffix for quick starts; the second one
takes the first ability that declares the very type.
-/

namespace Dmsfwk

open SchedErr

/-! ## The records -/

structure StoredEntry where
  key : Text
  value : Option DmsBundleInfo

structure BundleStore where
  isReady : Bool := true
  getUdidByNetworkId : Text → Text
  getUuidByNetworkId : Text → Text
  getDeviceEntries : Text → Option (List StoredEntry)
  getEntries : Text → Option (List StoredEntry)

def publicKey (udid : Text) : Text := udid ++ "_publicRecords".toList

namespace BundleStore

/-- `GetDistributedBundleInfo` by name.  Two entries for one bundle count as
none; `DelReduData` then deletes those which are gone already. -/
def getDistributedBundleInfo (networkId bundleName : Text)
    (store : BundleStore) : Option DmsBundleInfo :=
  let udid := store.getUdidByNetworkId networkId
  let uuid := store.getUuidByNetworkId networkId
  if !store.isReady then none
  else if udid = [] ∨ uuid = [] then none
  else match store.getDeviceEntries uuid with
    | none => none
    | some remoteEntries =>
        let found := remoteEntries.filterMap fun entry =>
          if publicKey udid <:+: entry.key then none
          else entry.value.filter (·.bundleName = bundleName)
        match found with
        | [distributedBundleInfo] => some distributedBundleInfo
        | _ => none

end BundleStore

def findAbilityName (distributedBundleInfo : DmsBundleInfo)
    (continueType : Text) : Text :=
  match distributedBundleInfo.dmsAbilityInfos.find?
      fun abilityInfo => continueType ∈ abilityInfo.continueType with
  | some abilityInfo => abilityInfo.abilityName
  | none => []

def BundleStore.getAbilityName (networkId bundleName continueType : Text)
    (store : BundleStore) : Text :=
  let udid := store.getUdidByNetworkId networkId
  if !store.isReady then []
  else if udid = [] then []
  else match store.getEntries networkId with
    | none => []
    | some allEntries =>
        (allEntries.findSome? fun entry =>
          if ¬ udid <:+: entry.key then none
          else match entry.value.filter (·.bundleName = bundleName) with
            | none => none
            | some distributedBundleInfo =>
                let abilityName :=
                  findAbilityName distributedBundleInfo continueType
                if abilityName = [] then none else some abilityName).getD []

/-! ## The command -/

structure ContinueWant where
  element : ElementName := {}
  /-- The string under `PARAM_MODULE_NAME`. -/
  paramModuleName : Text := []
  supportContinuePageStack : Option Bool := none
  persistentId : Option Int32 := none

abbrev ContinueDataCmd (AbilityInfo : Type) :=
  DSchedContinueDataCmd ContinueWant AbilityInfo

/-- What the sink meets outside of the records. -/
structure SinkAnswers where
  getLocalDeviceId : Option Text
  isSameDeveloperId : Text → Text → Bool
  checkTargetPermission : ContinueWant → CallerInfo → AccountInfo → Int32
  checkTargetPermission4DiffBundle :
    ContinueWant → CallerInfo → AccountInfo → Int32
  continueSessionId : Text := []
  getPersistentId : Except Int32 Int32 := .ok 0
  getPersistentIdAgain : Except Int32 Int32 := .ok 0
  onContinueEnd : Int32 := errOk
  startAbility : Int32 := errOk

/-- What `ExecuteContinueData` has done: the want that `CheckStartPermission`
was content with, and the one that `StartAbility` was called with. -/
structure ContinueDataOutcome where
  result : Int32
  permitted : Option ContinueWant := none
  started : Option ContinueWant := none

namespace ContinueData

variable {AbilityInfo : Type}

def continueTypeFormat (continueType : Text) : Text :=
  let suffix := Continuation.DSchedContinue.quickStartConfiguration
  if suffix.isSuffixOf continueType then
    continueType.take (continueType.length - suffix.length)
  else continueType

def findSinkContinueAbilityInfo (srcModuleName srcContinueType : Text) :
    List DmsAbilityInfo → List DmsAbilityInfo → List DmsAbilityInfo
  | [], result => result
  | abilityInfo :: abilityInfos, result =>
      if abilityInfo.continueType.any
          (continueTypeFormat · = srcContinueType) then
        if srcModuleName = abilityInfo.moduleName then [abilityInfo]
        else findSinkContinueAbilityInfo srcModuleName srcContinueType
          abilityInfos (result ++ [abilityInfo])
      else findSinkContinueAbilityInfo srcModuleName srcContinueType
        abilityInfos result

def srcModuleName (want : ContinueWant) : Text :=
  if want.element.moduleName = [] then want.paramModuleName
  else want.element.moduleName

def updateElementInfo (store : BundleStore) (answers : SinkAnswers)
    (cmd : ContinueDataCmd AbilityInfo) : ContinueDataCmd AbilityInfo :=
  match answers.getLocalDeviceId with
  | none => cmd
  | some localDeviceId =>
      match store.getDistributedBundleInfo localDeviceId
          cmd.base.dstBundleName with
      | none => cmd
      | some distributedBundleInfo =>
          match findSinkContinueAbilityInfo (srcModuleName cmd.want)
              (continueTypeFormat cmd.base.continueType)
              distributedBundleInfo.dmsAbilityInfos [] with
          | [] => cmd
          | finalAbility :: _ =>
              let element : ElementName := {
                deviceId := cmd.want.element.deviceId
                bundleName := cmd.base.dstBundleName
                abilityName := finalAbility.abilityName
                moduleName := finalAbility.moduleName }
              { cmd with want := { cmd.want with element := element } }

def checkStartPermission (answers : SinkAnswers)
    (cmd : ContinueDataCmd AbilityInfo) : Int32 :=
  if cmd.base.srcBundleName = cmd.base.dstBundleName then
    answers.checkTargetPermission cmd.want cmd.callerInfo cmd.accountInfo
  else if !answers.isSameDeveloperId cmd.base.dstBundleName
      cmd.base.srcDeveloperId then invalidParametersErr
  else answers.checkTargetPermission4DiffBundle cmd.want cmd.callerInfo
    cmd.accountInfo

def getAbilityNameByContinueType (store : BundleStore)
    (continueInfo : DSchedContinueInfo) : Text :=
  let continueType := continueTypeFormat continueInfo.continueType
  let abilityName := store.getAbilityName continueInfo.sinkDeviceId
    continueInfo.sinkBundleName continueType
  if abilityName ≠ [] then abilityName
  else store.getAbilityName continueInfo.sinkDeviceId
    continueInfo.sinkBundleName
    (continueType ++ Continuation.DSchedContinue.quickStartConfiguration)

def updateWantForContinueType (store : BundleStore)
    (continueInfo : DSchedContinueInfo) (want : ContinueWant) : ContinueWant :=
  let sinkAbilityName := getAbilityNameByContinueType store continueInfo
  if sinkAbilityName ≠ [] ∧ sinkAbilityName ≠ want.element.abilityName then
    let element : ElementName := {
      deviceId := want.element.deviceId
      bundleName := want.element.bundleName
      abilityName := sinkAbilityName }
    { want with element := element, supportContinuePageStack := some false }
  else want

def executeContinueData (store : BundleStore) (answers : SinkAnswers)
    (subServiceType : Continuation.SubType) (continueInfo : DSchedContinueInfo)
    (cmd : ContinueDataCmd AbilityInfo) : ContinueDataOutcome :=
  let cmd := updateElementInfo store answers cmd
  let checked := match answers.getLocalDeviceId with
    | none => false
    | some localDeviceId =>
        checkDeviceIdFromRemote localDeviceId cmd.want.element.deviceId
          cmd.callerInfo.sourceDeviceId continueInfo.sourceDeviceId
  if !checked then { result := invalidRemoteParametersErr }
  else
    let ret := checkStartPermission answers cmd
    if ret ≠ errOk then { result := ret }
    else
      let want := updateWantForContinueType store continueInfo cmd.want
      if subServiceType = .pull ∧ answers.continueSessionId ≠ [] then
        match answers.getPersistentId, answers.getPersistentIdAgain with
        | .ok persistentId, .ok _ =>
            { result := answers.startAbility
              permitted := some cmd.want
              started := some { want with persistentId := some persistentId } }
        | _, _ =>
            { result := answers.onContinueEnd, permitted := some cmd.want }
      else
        { result := answers.startAbility
          permitted := some cmd.want
          started := some want }

/-! ## The ability that is to be started -/

def declares (continueType : Text) (abilityInfo : DmsAbilityInfo) : Bool :=
  abilityInfo.continueType.any
    (continueTypeFormat · = continueTypeFormat continueType)

/-- The first ability of the source's module that declares the type, or else the
first one of any module. -/
def preferredAbility (moduleName continueType : Text)
    (distributedBundleInfo : DmsBundleInfo) : Option DmsAbilityInfo :=
  let declaring :=
    distributedBundleInfo.dmsAbilityInfos.filter (declares continueType)
  (declaring.find? (·.moduleName = moduleName)).or declaring.head?

def recordedAbility (store : BundleStore) (answers : SinkAnswers)
    (bundleName : Text) (cmd : ContinueDataCmd AbilityInfo) :
    Option DmsAbilityInfo :=
  answers.getLocalDeviceId.bind fun localDeviceId =>
    (store.getDistributedBundleInfo localDeviceId bundleName).bind
      (preferredAbility (srcModuleName cmd.want) cmd.base.continueType)

theorem head?_findSinkContinueAbilityInfo (moduleName continueType : Text)
    (abilityInfos result : List DmsAbilityInfo) :
    (findSinkContinueAbilityInfo moduleName (continueTypeFormat continueType)
        abilityInfos result).head? =
      ((abilityInfos.filter (declares continueType)).find?
        (·.moduleName = moduleName)).or
          (result ++ abilityInfos.filter (declares continueType)).head? := by
  induction abilityInfos generalizing result with
  | nil => simp [findSinkContinueAbilityInfo]
  | cons abilityInfo abilityInfos ih =>
      unfold findSinkContinueAbilityInfo
      by_cases hdeclares : declares continueType abilityInfo = true
      · rw [List.filter_cons_of_pos hdeclares]
        unfold declares at hdeclares
        rw [if_pos hdeclares]
        by_cases hmodule : moduleName = abilityInfo.moduleName
        · rw [if_pos hmodule, List.find?_cons_of_pos (by simp [hmodule])]
          rfl
        · rw [if_neg hmodule, ih,
            List.find?_cons_of_neg (by simp [Ne.symm hmodule]),
            List.append_assoc, List.singleton_append]
      · rw [List.filter_cons_of_neg hdeclares]
        unfold declares at hdeclares
        rw [if_neg hdeclares, ih]

theorem updateElementInfo_of_none {store : BundleStore} {answers : SinkAnswers}
    {cmd : ContinueDataCmd AbilityInfo}
    (hnone : recordedAbility store answers cmd.base.dstBundleName cmd = none) :
    updateElementInfo store answers cmd = cmd := by
  unfold recordedAbility at hnone
  unfold updateElementInfo
  cases hlocal : answers.getLocalDeviceId with
  | none => rfl
  | some localDeviceId =>
      rw [hlocal, Option.bind_some] at hnone
      dsimp only
      cases hrecord : store.getDistributedBundleInfo localDeviceId
          cmd.base.dstBundleName with
      | none => rfl
      | some distributedBundleInfo =>
          rw [hrecord, Option.bind_some] at hnone
          have hhead := head?_findSinkContinueAbilityInfo
            (srcModuleName cmd.want) cmd.base.continueType
            distributedBundleInfo.dmsAbilityInfos []
          rw [List.nil_append] at hhead
          dsimp only
          rw [List.head?_eq_none_iff.mp (hhead.trans hnone)]

theorem updateElementInfo_of_some {store : BundleStore} {answers : SinkAnswers}
    {cmd : ContinueDataCmd AbilityInfo} {abilityInfo : DmsAbilityInfo}
    (hsome : recordedAbility store answers cmd.base.dstBundleName cmd =
      some abilityInfo) :
    (updateElementInfo store answers cmd).want.element =
      { deviceId := cmd.want.element.deviceId
        bundleName := cmd.base.dstBundleName
        abilityName := abilityInfo.abilityName
        moduleName := abilityInfo.moduleName } := by
  unfold recordedAbility at hsome
  obtain ⟨localDeviceId, hlocal, hsome⟩ := Option.bind_eq_some_iff.mp hsome
  obtain ⟨distributedBundleInfo, hrecord, hsome⟩ :=
    Option.bind_eq_some_iff.mp hsome
  have hhead := head?_findSinkContinueAbilityInfo (srcModuleName cmd.want)
    cmd.base.continueType distributedBundleInfo.dmsAbilityInfos []
  rw [List.nil_append] at hhead
  obtain ⟨rest, hfound⟩ := List.head?_eq_some_iff.mp (hhead.trans hsome)
  unfold updateElementInfo
  rw [hlocal]
  dsimp only
  rw [hrecord]
  dsimp only
  rw [hfound]

/-! ## What is to hold -/

def SameTarget (element other : ElementName) : Prop :=
  element.bundleName = other.bundleName ∧
    element.moduleName = other.moduleName ∧
    element.abilityName = other.abilityName

/-- What is started was checked, belongs to the sink bundle and is the ability
that the record of that bundle has for the command. -/
def StartsWhatWasChecked (store : BundleStore) (answers : SinkAnswers)
    (subServiceType : Continuation.SubType) (continueInfo : DSchedContinueInfo)
    (cmd : ContinueDataCmd AbilityInfo) : Prop :=
  let outcome :=
    executeContinueData store answers subServiceType continueInfo cmd
  ∀ want ∈ outcome.started,
    (∃ permitted ∈ outcome.permitted,
      SameTarget want.element permitted.element) ∧
    want.element.bundleName = continueInfo.sinkBundleName ∧
    ∃ abilityInfo ∈
        recordedAbility store answers continueInfo.sinkBundleName cmd,
      want.element.abilityName = abilityInfo.abilityName ∧
        want.element.moduleName = abilityInfo.moduleName

/-- The checks of the device and of the permissions let the command pass, and
the window of a pull is found. -/
def Passes (store : BundleStore) (answers : SinkAnswers)
    (subServiceType : Continuation.SubType) (continueInfo : DSchedContinueInfo)
    (cmd : ContinueDataCmd AbilityInfo) : Prop :=
  (∃ localDeviceId ∈ answers.getLocalDeviceId,
    checkDeviceIdFromRemote localDeviceId cmd.want.element.deviceId
      cmd.callerInfo.sourceDeviceId continueInfo.sourceDeviceId = true) ∧
  checkStartPermission answers (updateElementInfo store answers cmd) = errOk ∧
  (subServiceType = .pull ∧ answers.continueSessionId ≠ [] →
    (∃ persistentId, answers.getPersistentId = .ok persistentId) ∧
      ∃ persistentId, answers.getPersistentIdAgain = .ok persistentId)

/-- The record of the sink bundle has an ability for the command, which the
look-up by the continue type of the continuation does not contradict; and the
command is for the sink bundle, or else it names that ability by itself and the
bundle that it is for has none. -/
def Agrees (store : BundleStore) (answers : SinkAnswers)
    (continueInfo : DSchedContinueInfo) (cmd : ContinueDataCmd AbilityInfo) :
    Prop :=
  ∃ abilityInfo ∈
      recordedAbility store answers continueInfo.sinkBundleName cmd,
    (getAbilityNameByContinueType store continueInfo = [] ∨
      getAbilityNameByContinueType store continueInfo =
        abilityInfo.abilityName) ∧
    (cmd.base.dstBundleName = continueInfo.sinkBundleName ∨
      recordedAbility store answers cmd.base.dstBundleName cmd = none ∧
      cmd.want.element.bundleName = continueInfo.sinkBundleName ∧
      cmd.want.element.abilityName = abilityInfo.abilityName ∧
      cmd.want.element.moduleName = abilityInfo.moduleName)

section Starts

variable {store : BundleStore} {answers : SinkAnswers}
  {subServiceType : Continuation.SubType} {continueInfo : DSchedContinueInfo}
  {cmd : ContinueDataCmd AbilityInfo}

@[simp] theorem updateElementInfo_deviceId :
    (updateElementInfo store answers cmd).want.element.deviceId =
      cmd.want.element.deviceId := by
  cases hfound : recordedAbility store answers cmd.base.dstBundleName cmd with
  | none => rw [updateElementInfo_of_none hfound]
  | some abilityInfo => rw [updateElementInfo_of_some hfound]

@[simp] theorem updateElementInfo_callerInfo :
    (updateElementInfo store answers cmd).callerInfo = cmd.callerInfo := by
  unfold updateElementInfo
  split
  · rfl
  · split
    · rfl
    · split <;> rfl

theorem executeContinueData_cases :
    (¬ Passes store answers subServiceType continueInfo cmd ∧
      (executeContinueData store answers subServiceType continueInfo
        cmd).started = none) ∨
    Passes store answers subServiceType continueInfo cmd ∧
      (executeContinueData store answers subServiceType continueInfo
        cmd).permitted = some (updateElementInfo store answers cmd).want ∧
      ∃ want, (executeContinueData store answers subServiceType continueInfo
          cmd).started = some want ∧
        want.element = (updateWantForContinueType store continueInfo
          (updateElementInfo store answers cmd).want).element := by
  unfold executeContinueData Passes
  dsimp only
  rw [updateElementInfo_deviceId, updateElementInfo_callerInfo]
  cases hlocal : answers.getLocalDeviceId with
  | none => simp
  | some localDeviceId =>
      by_cases hdevice : checkDeviceIdFromRemote localDeviceId
          cmd.want.element.deviceId cmd.callerInfo.sourceDeviceId
          continueInfo.sourceDeviceId = true
      · by_cases hpermission : checkStartPermission answers
            (updateElementInfo store answers cmd) = errOk
        · by_cases hpull : subServiceType = .pull ∧
              answers.continueSessionId ≠ []
          · cases hfirst : answers.getPersistentId with
            | error code => simp [hdevice, hpermission, hpull]
            | ok persistentId =>
                cases hsecond : answers.getPersistentIdAgain with
                | error code => simp [hdevice, hpermission, hpull]
                | ok again =>
                    right
                    simp [hdevice, hpermission, hpull]
          · right
            simp only [hpermission, hpull]
            simp [hdevice]
        · left
          simp [hdevice, hpermission]
      · left
        simp [hdevice]

theorem sameTarget_updateWantForContinueType (want : ContinueWant) :
    SameTarget (updateWantForContinueType store continueInfo want).element
        want.element ↔
      getAbilityNameByContinueType store continueInfo = [] ∨
        getAbilityNameByContinueType store continueInfo =
          want.element.abilityName := by
  unfold updateWantForContinueType
  dsimp only
  split_ifs with hother
  · constructor
    · rintro ⟨-, -, hsame⟩
      exact .inr hsame
    · rintro (hnone | hsame)
      · exact absurd hnone hother.1
      · exact absurd hsame hother.2
  · refine iff_of_true ⟨rfl, rfl, rfl⟩ ?_
    by_cases hnone : getAbilityNameByContinueType store continueInfo = []
    · exact .inl hnone
    · exact .inr (not_not.mp (fun hne => hother ⟨hnone, hne⟩))

theorem checked_iff (abilityInfo : DmsAbilityInfo) :
    let element := (updateElementInfo store answers cmd).want.element
    (recordedAbility store answers continueInfo.sinkBundleName cmd =
        some abilityInfo ∧
      element.bundleName = continueInfo.sinkBundleName ∧
      element.abilityName = abilityInfo.abilityName ∧
      element.moduleName = abilityInfo.moduleName) ↔
    recordedAbility store answers continueInfo.sinkBundleName cmd =
        some abilityInfo ∧
      (cmd.base.dstBundleName = continueInfo.sinkBundleName ∨
        recordedAbility store answers cmd.base.dstBundleName cmd = none ∧
        cmd.want.element.bundleName = continueInfo.sinkBundleName ∧
        cmd.want.element.abilityName = abilityInfo.abilityName ∧
        cmd.want.element.moduleName = abilityInfo.moduleName) := by
  dsimp only
  apply and_congr_right
  intro hrecorded
  cases hfound : recordedAbility store answers cmd.base.dstBundleName cmd with
  | none =>
      rw [updateElementInfo_of_none hfound]
      constructor
      · exact fun helement => .inr ⟨rfl, helement⟩
      · rintro (hbundle | ⟨-, helement⟩)
        · rw [hbundle, hrecorded] at hfound
          cases hfound
        · exact helement
  | some found =>
      rw [updateElementInfo_of_some hfound]
      constructor
      · rintro ⟨hbundle, -⟩
        exact .inl hbundle
      · rintro (hbundle | ⟨hnone, -⟩)
        · rw [hbundle, hrecorded] at hfound
          cases hfound
          exact ⟨hbundle, rfl, rfl⟩
        · cases hnone

/-- A data command starts what was checked, and what the record of the sink
bundle has for it, just when the two look-ups agree. -/
theorem startsWhatWasChecked_iff (store : BundleStore) (answers : SinkAnswers)
    (subServiceType : Continuation.SubType) (continueInfo : DSchedContinueInfo)
    (cmd : ContinueDataCmd AbilityInfo) :
    StartsWhatWasChecked store answers subServiceType continueInfo cmd ↔
      (Passes store answers subServiceType continueInfo cmd →
        Agrees store answers continueInfo cmd) := by
  unfold StartsWhatWasChecked
  dsimp only
  rcases @executeContinueData_cases _ store answers subServiceType continueInfo
    cmd with ⟨hrefused, hnone⟩ | ⟨hpasses, hpermitted, want, hstarted, helement⟩
  · rw [hnone]
    simp [hrefused]
  rw [hstarted, hpermitted]
  constructor
  · intro hstarts _
    obtain ⟨⟨permitted, hmem, hsame⟩, hbundle, abilityInfo, hrecorded, hname,
      hmodule⟩ := hstarts want rfl
    cases hmem
    have htarget := hsame
    rw [helement, sameTarget_updateWantForContinueType] at htarget
    obtain ⟨hsameBundle, hsameModule, hsameAbility⟩ := hsame
    obtain ⟨-, hcommand⟩ := (checked_iff abilityInfo).mp ⟨hrecorded,
      hsameBundle.symm.trans hbundle, hsameAbility.symm.trans hname,
      hsameModule.symm.trans hmodule⟩
    refine ⟨abilityInfo, hrecorded, ?_, hcommand⟩
    rw [← hname, hsameAbility]
    exact htarget
  · intro hagrees started hmem
    cases hmem
    obtain ⟨abilityInfo, hrecorded, hsecond, hcommand⟩ := hagrees hpasses
    obtain ⟨-, hbundle, hability, hmodule⟩ :=
      (checked_iff abilityInfo).mpr ⟨hrecorded, hcommand⟩
    rw [← hability] at hsecond
    have hsame := (sameTarget_updateWantForContinueType
      (updateElementInfo store answers cmd).want).mpr hsecond
    rw [← helement] at hsame
    refine ⟨⟨_, rfl, hsame⟩, ?_⟩
    obtain ⟨hsameBundle, hsameModule, hsameAbility⟩ := hsame
    exact ⟨hsameBundle.trans hbundle, abilityInfo, hrecorded,
      hsameAbility.trans hability, hsameModule.trans hmodule⟩

end Starts

/-! ## Two modules with one type -/

def twoModuleRecord : DmsBundleInfo where
  bundleName := "bundle".toList
  dmsAbilityInfos := [
    { abilityName := "EntryAbility".toList
      moduleName := "entry".toList
      continueType := ["type".toList] },
    { abilityName := "FeatureAbility".toList
      moduleName := "feature".toList
      continueType := ["type".toList] }]

/-- The device `sink` holds its one record. -/
def twoModuleStore : BundleStore where
  getUdidByNetworkId networkId := networkId
  getUuidByNetworkId networkId := networkId
  getDeviceEntries _ := some
    [{ key := "sink_bundle".toList, value := some twoModuleRecord }]
  getEntries _ := some
    [{ key := "sink_bundle".toList, value := some twoModuleRecord }]

def featureAnswers : SinkAnswers where
  getLocalDeviceId := some "sink".toList
  isSameDeveloperId _ _ := false
  checkTargetPermission want _ _ :=
    if want.element.abilityName = "EntryAbility".toList then
      invalidParametersErr
    else errOk
  checkTargetPermission4DiffBundle _ _ _ := invalidParametersErr

def twoModuleInfo : DSchedContinueInfo where
  sourceDeviceId := "source".toList
  sourceBundleName := "bundle".toList
  sinkDeviceId := "sink".toList
  sinkBundleName := "bundle".toList
  continueType := "type".toList

def featureCmd : ContinueDataCmd Unit where
  base := {
    srcBundleName := "bundle".toList
    dstBundleName := "bundle".toList
    continueType := "type".toList }
  want := {
    element := {
      deviceId := "sink".toList
      bundleName := "bundle".toList
      abilityName := "FeatureAbility".toList
      moduleName := "feature".toList } }
  abilityInfo := ()
  requestCode := 0
  callerInfo := { sourceDeviceId := "source".toList }

/-- The feature ability is checked and the entry ability, which may not be
started, is started. -/
theorem not_startsWhatWasChecked_featureCmd :
    ¬ StartsWhatWasChecked twoModuleStore featureAnswers .push twoModuleInfo
      featureCmd := by
  intro hstarts
  obtain ⟨⟨permitted, hmem, hsame⟩, -⟩ := hstarts _ rfl
  cases hmem
  revert hsame
  unfold SameTarget
  decide +kernel

end ContinueData

end Dmsfwk
