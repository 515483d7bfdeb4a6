import Dmsfwk.DSchedContinuation

/-!
# What the calls do to the continuations in progress

A request is refused, registers its continuation, or registers and withdraws it;
which one is decided by the answers and by whether the mission is in progress.
Every other call completes the continuation of one mission or leaves all of them.
-/

namespace Dmsfwk

open SchedErr

namespace ContinuationEffect

variable {Callback : Type}

def callback? : ContinuationEffect Callback → Option Callback
  | .missionCenterResult callback _ => some callback
  | _ => none

def answered (effects : List (ContinuationEffect Callback)) : List Callback :=
  effects.filterMap callback?

@[simp] theorem answered_nil :
    answered ([] : List (ContinuationEffect Callback)) = [] := rfl

@[simp] theorem answered_missionCenterResult (callback : Callback)
    (resultCode : Int32) (effects : List (ContinuationEffect Callback)) :
    answered (.missionCenterResult callback resultCode :: effects) =
      callback :: answered effects := rfl

@[simp] theorem answered_cleanMission (missionId : Int32)
    (effects : List (ContinuationEffect Callback)) :
    answered (.cleanMission missionId :: effects) = answered effects := rfl

@[simp] theorem answered_notifyContinuationResult (missionId resultCode : Int32)
    (effects : List (ContinuationEffect Callback)) :
    answered (.notifyContinuationResult missionId resultCode :: effects) =
      answered effects := rfl

@[simp] theorem answered_continueAbility (deviceId : Text) (missionId : Int32)
    (versionCode : UInt32) (effects : List (ContinuationEffect Callback)) :
    answered (.continueAbility deviceId missionId versionCode :: effects) =
      answered effects := rfl

end ContinuationEffect

open ContinuationEffect

namespace DSchedContinuation

variable {Callback : Type}

/-! ## The keys of the maps -/

structure Keyed (continuation : DSchedContinuation Callback) : Prop where
  devices : ∀ missionId, missionId ∈ continuation.continuationDevices ↔
    missionId ∈ continuation.callbackMap
  freeInstall : ∀ missionId ∈ continuation.freeInstall,
    missionId ∈ continuation.callbackMap

theorem keyed_initial : ({} : DSchedContinuation Callback).Keyed := by
  constructor
  · intro missionId
    simp
  · intro missionId hmem
    simp at hmem

def register (missionId : Int32) (callback : Callback) (deviceId : Text)
    (isFreeInstall : Bool) (continuation : DSchedContinuation Callback) :
    DSchedContinuation Callback where
  callbackMap := continuation.callbackMap.insert missionId callback
  continuationDevices :=
    continuation.continuationDevices.insertIfNew missionId deviceId
  freeInstall :=
    if isFreeInstall then
      continuation.freeInstall.insert missionId isFreeInstall
    else continuation.freeInstall
  cleanMission := continuation.cleanMission
  timeouts := continuation.timeouts ++ [missionId]

theorem isInContinuationProgress_iff
    (continuation : DSchedContinuation Callback) (missionId : Int32) :
    continuation.isInContinuationProgress missionId = true ↔
      missionId ∈ continuation.callbackMap := by
  exact Std.TreeMap.contains_iff_mem

theorem pushCallback_register
    {continuation : DSchedContinuation Callback} {missionId : Int32}
    (hnew : missionId ∉ continuation.callbackMap) (callback : Callback)
    (deviceId : Text) (isFreeInstall : Bool) :
    (continuation.pushCallback missionId (some callback) deviceId
        isFreeInstall).1 = true ∧
      (continuation.pushCallback missionId (some callback) deviceId
        isFreeInstall).2.setTimeOut missionId =
        continuation.register missionId callback deviceId isFreeInstall := by
  have hcontains : continuation.callbackMap.contains missionId = false := by
    rw [Bool.eq_false_iff, ne_eq, Std.TreeMap.contains_iff_mem]
    exact hnew
  simp [pushCallback, hcontains, setTimeOut, register]

theorem Keyed.register {continuation : DSchedContinuation Callback}
    (hkeyed : continuation.Keyed) (missionId : Int32) (callback : Callback)
    (deviceId : Text) (isFreeInstall : Bool) :
    (continuation.register missionId callback deviceId isFreeInstall).Keyed := by
  constructor
  · intro other
    simp [DSchedContinuation.register, hkeyed.devices other]
  · intro other hmem
    simp only [DSchedContinuation.register, Std.TreeMap.mem_insert] at hmem ⊢
    split at hmem
    · rw [Std.TreeMap.mem_insert] at hmem
      exact hmem.imp_right (hkeyed.freeInstall other)
    · exact Or.inr (hkeyed.freeInstall other hmem)

theorem Keyed.popCallback {continuation : DSchedContinuation Callback}
    (hkeyed : continuation.Keyed) (missionId : Int32) :
    (continuation.popCallback missionId).2.Keyed := by
  unfold DSchedContinuation.popCallback
  split
  · exact hkeyed
  · constructor
    · intro other
      simp [hkeyed.devices other]
    · intro other hmem
      rw [Std.TreeMap.mem_erase] at hmem ⊢
      exact ⟨hmem.1, hkeyed.freeInstall other hmem.2⟩

theorem Keyed.frame {continuation next : DSchedContinuation Callback}
    (hkeyed : continuation.Keyed)
    (hcallbacks : next.callbackMap = continuation.callbackMap)
    (hdevices : next.continuationDevices = continuation.continuationDevices)
    (hfree : next.freeInstall = continuation.freeInstall) : next.Keyed := by
  constructor
  · rw [hcallbacks, hdevices]
    exact hkeyed.devices
  · rw [hcallbacks, hfree]
    exact hkeyed.freeInstall

theorem Keyed.notifyContinuationCallbackResult
    {continuation : DSchedContinuation Callback} (hkeyed : continuation.Keyed)
    (missionId resultCode : Int32) :
    (continuation.notifyContinuationCallbackResult missionId
      resultCode).2.Keyed := by
  have hpopped := hkeyed.popCallback missionId
  unfold DSchedContinuation.notifyContinuationCallbackResult
  split
  · unfold notifyMissionCenterResult
    simp only []
    split <;> exact hpopped.frame rfl rfl rfl
  · exact hkeyed.frame rfl rfl rfl

/-! ## Requests -/

inductive Route where
  | refused (code : Int32)
  | continueAbility (versionCode : UInt32)
  | freeInstall
  deriving DecidableEq

def route (answers : ContinueMissionAnswers) (isFreeInstall inProgress : Bool) :
    Route :=
  if answers.isCurrentContinueSwitchOn = false then .refused dmsPermissionDenied
  else if inProgress then .refused continueAlreadyInProgress
  else if answers.isRemoteDmsVersionLower then .continueAbility 0
  else if answers.getMissionInfo.1 ≠ errOk then
    .refused noMissionInfoForMissionId
  else if answers.getMissionInfo.2.continueState ≠ .active then
    .refused invalidParametersErr
  else if answers.checkBundleContinueConfig
      answers.getMissionInfo.2.bundleName = false then
    .refused remoteDeviceBindAbilityErr
  else
    let remoteBundle :=
      answers.checkRemoteBundleInfo answers.getMissionInfo.2.bundleName
    if remoteBundle.1 = errOk then .continueAbility remoteBundle.2
    else if remoteBundle.1 = continueRemoteUninstalledUnsupportFreeInstall then
      .refused remoteBundle.1
    else if isFreeInstall = false then
      .refused continueRemoteUninstalledSupportFreeInstall
    else .freeInstall

def continueAbilityResult (answers : ContinueMissionAnswers) : Int32 :=
  if answers.continueAbility = errInvalidValue then
    missionForContinuingIsNotAlive
  else answers.continueAbility

def withdraw (missionId : Int32) (continuation : DSchedContinuation Callback) :
    DSchedContinuation Callback :=
  ((continuation.removeTimeOut missionId).popCallback missionId).2

def follow (answers : ContinueMissionAnswers) (dstDeviceId : Text)
    (missionId : Int32) (callback : Callback)
    (continuation : DSchedContinuation Callback) :
    Route → Outcome Callback (DSchedContinuation Callback)
  | .refused code => ((code, []), continuation)
  | .continueAbility versionCode =>
      ((continueAbilityResult answers,
        [.continueAbility dstDeviceId missionId versionCode]),
        continuation.register missionId callback dstDeviceId false)
  | .freeInstall =>
      if answers.checkIfRemoteCanInstall = false then
        ((invalidParametersErr, []),
          (continuation.register missionId callback dstDeviceId
            true).withdraw missionId)
      else
        ((errOk, []),
          continuation.register missionId callback dstDeviceId true)

section New

variable {continuation : DSchedContinuation Callback} {missionId : Int32}
  (hnew : missionId ∉ continuation.callbackMap) (answers : ContinueMissionAnswers)

include hnew

theorem continueAbilityWithTimeout_eq (dstDeviceId : Text) (callback : Callback)
    (versionCode : UInt32) :
    continuation.continueAbilityWithTimeout answers dstDeviceId missionId
        (some callback) versionCode =
      continuation.follow answers dstDeviceId missionId callback
        (.continueAbility versionCode) := by
  obtain ⟨hpushed, hregister⟩ :=
    pushCallback_register hnew callback dstDeviceId false
  unfold continueAbilityWithTimeout
  simp only [hpushed, Bool.true_eq_false, if_false, hregister]
  rfl

theorem continueLocalMissionDealFreeInstall_eq (isFreeInstall : Bool)
    (dstDeviceId : Text) (callback : Callback) :
    continuation.continueLocalMissionDealFreeInstall answers isFreeInstall
        missionId dstDeviceId (some callback) =
      continuation.follow answers dstDeviceId missionId callback
        (if isFreeInstall = false then
          .refused continueRemoteUninstalledSupportFreeInstall
        else .freeInstall) := by
  obtain ⟨hpushed, hregister⟩ :=
    pushCallback_register hnew callback dstDeviceId true
  unfold continueLocalMissionDealFreeInstall
  simp only [hregister]
  split
  · rfl
  · rfl

end New

theorem continueLocalMission_eq (continuation : DSchedContinuation Callback)
    (answers : ContinueMissionAnswers) (dstDeviceId : Text) (missionId : Int32)
    (callback : Callback) (isFreeInstall : Bool) :
    continuation.continueLocalMission answers dstDeviceId missionId
        (some callback) isFreeInstall =
      continuation.follow answers dstDeviceId missionId callback
        (route answers isFreeInstall
          (continuation.isInContinuationProgress missionId)) := by
  unfold continueLocalMission route
  simp only [apply_ite (continuation.follow answers dstDeviceId missionId
    callback)]
  refine ite_congr rfl (fun _ => rfl) fun _ => ?_
  refine ite_congr rfl (fun _ => rfl) fun hprogress => ?_
  have hnew : missionId ∉ continuation.callbackMap := by
    rwa [isInContinuationProgress_iff] at hprogress
  have hability := fun versionCode =>
    continueAbilityWithTimeout_eq hnew answers dstDeviceId callback versionCode
  refine ite_congr rfl (fun _ => hability 0) fun _ => ?_
  refine ite_congr rfl (fun _ => rfl) fun _ => ?_
  refine ite_congr rfl (fun _ => rfl) fun _ => ?_
  refine ite_congr rfl (fun _ => rfl) fun _ => ?_
  refine ite_congr rfl (fun _ => hability _) fun _ => ?_
  refine ite_congr rfl (fun _ => rfl) fun _ => ?_
  rw [← apply_ite]
  exact continueLocalMissionDealFreeInstall_eq hnew answers isFreeInstall
    dstDeviceId callback

theorem route_refused_ne {answers : ContinueMissionAnswers}
    {isFreeInstall inProgress : Bool} {code : Int32}
    (hroute : route answers isFreeInstall inProgress = .refused code) :
    code ≠ errOk := by
  unfold route at hroute
  grind [dmsPermissionDenied, continueAlreadyInProgress, errOk,
    noMissionInfoForMissionId, invalidParametersErr, remoteDeviceBindAbilityErr,
    continueRemoteUninstalledSupportFreeInstall]

theorem not_inProgress_of_route {answers : ContinueMissionAnswers}
    {isFreeInstall inProgress : Bool}
    (hroute : ∀ code, route answers isFreeInstall inProgress ≠ .refused code) :
    inProgress = false := by
  rw [Bool.eq_false_iff]
  intro hprogress
  unfold route at hroute
  simp only [hprogress, if_true] at hroute
  split at hroute
  · exact hroute _ rfl
  · exact hroute _ rfl

theorem Keyed.withdraw {continuation : DSchedContinuation Callback}
    (hkeyed : continuation.Keyed) (missionId : Int32) :
    (continuation.withdraw missionId).Keyed := by
  apply Keyed.popCallback
  exact hkeyed.frame rfl rfl rfl

theorem Keyed.follow {continuation : DSchedContinuation Callback}
    (hkeyed : continuation.Keyed) (answers : ContinueMissionAnswers)
    (dstDeviceId : Text) (missionId : Int32) (callback : Callback)
    (route : Route) :
    (continuation.follow answers dstDeviceId missionId callback
      route).2.Keyed := by
  cases route with
  | refused code => exact hkeyed
  | continueAbility versionCode =>
      exact hkeyed.register missionId callback dstDeviceId false
  | freeInstall =>
      have hregister := hkeyed.register missionId callback dstDeviceId true
      simp only [DSchedContinuation.follow]
      split
      · exact hregister.withdraw missionId
      · exact hregister

def Reaches (answers : ContinueMissionAnswers) (srcDeviceId dstDeviceId : Text)
    (callback : Option Callback) : Prop :=
  srcDeviceId ≠ [] ∧ dstDeviceId ≠ [] ∧ callback ≠ none ∧
    answers.localDeviceId = some srcDeviceId ∧ answers.deviceInfoById = true

instance (answers : ContinueMissionAnswers) (srcDeviceId dstDeviceId : Text)
    (callback : Option Callback) :
    Decidable (Reaches answers srcDeviceId dstDeviceId callback) := by
  unfold Reaches
  infer_instance

theorem continueMissionBetween_reaches {answers : ContinueMissionAnswers}
    {srcDeviceId dstDeviceId : Text} {callback : Option Callback}
    (hreaches : Reaches answers srcDeviceId dstDeviceId callback)
    (localMission : Outcome Callback (DSchedContinuation Callback))
    (remoteMission : Int32) (continuation : DSchedContinuation Callback) :
    continuation.continueMissionBetween answers srcDeviceId dstDeviceId callback
      localMission remoteMission = localMission := by
  obtain ⟨hsrc, hdst, hcallback, hlocal, hinfo⟩ := hreaches
  simp [continueMissionBetween, hsrc, hdst, hcallback, hlocal, hinfo]

theorem continueMissionBetween_stops {answers : ContinueMissionAnswers}
    {srcDeviceId dstDeviceId : Text} {callback : Option Callback}
    (hstops : ¬ Reaches answers srcDeviceId dstDeviceId callback)
    (localMission : Outcome Callback (DSchedContinuation Callback))
    (remoteMission : Int32) (continuation : DSchedContinuation Callback) :
    ∃ code, continuation.continueMissionBetween answers srcDeviceId dstDeviceId
        callback localMission remoteMission = ((code, []), continuation) ∧
      (answers.localDeviceId = some srcDeviceId → code ≠ errOk) := by
  unfold continueMissionBetween
  split
  · exact ⟨_, rfl, fun _ => by decide⟩
  next hgiven =>
    push Not at hgiven
    split
    · exact ⟨_, rfl, fun _ => by decide⟩
    next localDevId hlocal =>
      split
      next hsource =>
        have hinfo : answers.deviceInfoById = false := by
          rw [← Bool.not_eq_true]
          intro hinfo
          exact hstops ⟨hgiven.1, hgiven.2.1, hgiven.2.2,
            by rw [hlocal, hsource], hinfo⟩
        rw [if_pos hinfo]
        exact ⟨_, rfl, fun _ => by decide⟩
      next hsource =>
        have hother : answers.localDeviceId ≠ some srcDeviceId := by
          intro heq
          exact hsource (Option.some.inj (heq.symm.trans hlocal))
        split
        · split
          · exact ⟨_, rfl, fun heq => absurd heq hother⟩
          · exact ⟨_, rfl, fun heq => absurd heq hother⟩
        · exact ⟨_, rfl, fun heq => absurd heq hother⟩

end DSchedContinuation

open DSchedContinuation

variable {Callback : Type}

structure LocalRequest (Callback : Type) where
  answers : ContinueMissionAnswers
  dstDeviceId : Text
  missionId : Int32
  callback : Callback
  isFreeInstall : Bool

def LocalRequest.route (request : LocalRequest Callback)
    (continuation : DSchedContinuation Callback) : Route :=
  DSchedContinuation.route request.answers request.isFreeInstall
    (continuation.isInContinuationProgress request.missionId)

def LocalRequest.outcome (request : LocalRequest Callback)
    (continuation : DSchedContinuation Callback) :
    Outcome Callback (DSchedContinuation Callback) :=
  continuation.follow request.answers request.dstDeviceId request.missionId
    request.callback (request.route continuation)

namespace ContinuationEvent

def IsSourceRequest : ContinuationEvent Callback → Prop
  | .continueMission request answers =>
      answers.localDeviceId = some request.srcDeviceId
  | .continueMissionOfBundleName request answers =>
      answers.localDeviceId = some request.srcDeviceId
  | _ => False

instance : DecidablePred (@IsSourceRequest Callback) := by
  intro event
  cases event <;> unfold IsSourceRequest <;> infer_instance

def localRequest : ContinuationEvent Callback → Option (LocalRequest Callback)
  | .continueMission request answers =>
      if Reaches answers request.srcDeviceId request.dstDeviceId
          request.callback then
        request.callback.map fun callback => {
          answers := answers
          dstDeviceId := request.dstDeviceId
          missionId := request.missionId
          callback := callback
          isFreeInstall := request.isFreeInstall }
      else none
  | .continueMissionOfBundleName request answers =>
      if Reaches answers request.srcDeviceId request.dstDeviceId
          request.callback ∧
          (answers.getMissionIdByBundleName request.bundleName).1 = errOk then
        request.callback.map fun callback => {
          answers := answers
          dstDeviceId := request.dstDeviceId
          missionId := (answers.getMissionIdByBundleName request.bundleName).2
          callback := callback
          isFreeInstall := request.isFreeInstall }
      else none
  | _ => none

def IsRequest : ContinuationEvent Callback → Prop
  | .continueMission _ _ => True
  | .continueMissionOfBundleName _ _ => True
  | _ => False

end ContinuationEvent

namespace ContinuationService

theorem step_localRequest (service : ContinuationService Callback)
    {event : ContinuationEvent Callback} {request : LocalRequest Callback}
    (hrequest : event.localRequest = some request) :
    event.IsSourceRequest ∧
      service.step event =
        ((request.outcome service.continuation).1,
          { service with
              continuation := (request.outcome service.continuation).2 }) := by
  cases event with
  | continueMission asked answers =>
      rw [ContinuationEvent.localRequest] at hrequest
      split at hrequest
      next hreaches =>
        obtain ⟨callback, hcallback, rfl⟩ := Option.map_eq_some_iff.mp hrequest
        refine ⟨hreaches.2.2.2.1, ?_⟩
        rw [step, continueMission, continueMissionBetween_reaches hreaches,
          hcallback, continueLocalMission_eq]
        rfl
      · cases hrequest
  | continueMissionOfBundleName asked answers =>
      rw [ContinuationEvent.localRequest] at hrequest
      split at hrequest
      next hreaches =>
        obtain ⟨callback, hcallback, rfl⟩ := Option.map_eq_some_iff.mp hrequest
        refine ⟨hreaches.1.2.2.2.1, ?_⟩
        rw [step, continueMissionOfBundleName,
          continueMissionBetween_reaches hreaches.1,
          processContinueLocalMission, if_neg (not_not.mpr hreaches.2),
          hcallback, continueLocalMission_eq]
        rfl
      · cases hrequest
  | startContinuation | notifyContinuationResultFromRemote
  | onQueryInstallationFinished | notifyCompleteFreeInstallFromRemote
  | notifyDeviceOffline | timeout => cases hrequest

theorem step_noLocalRequest (service : ContinuationService Callback)
    {event : ContinuationEvent Callback} (hasked : event.IsRequest)
    (hrequest : event.localRequest = none) :
    ∃ code, service.step event = ((code, []), service) ∧
      (event.IsSourceRequest → code ≠ errOk) := by
  cases event with
  | continueMission asked answers =>
      have hstops : ¬ Reaches answers asked.srcDeviceId asked.dstDeviceId
          asked.callback := by
        intro hreaches
        rw [ContinuationEvent.localRequest, if_pos hreaches,
          Option.map_eq_none_iff] at hrequest
        exact hreaches.2.2.1 hrequest
      obtain ⟨code, hcode, hne⟩ := continueMissionBetween_stops hstops
        (service.continuation.continueLocalMission answers asked.dstDeviceId
          asked.missionId asked.callback asked.isFreeInstall)
        (continueRemoteMission answers) service.continuation
      refine ⟨code, ?_, hne⟩
      simp only [step, continueMission, hcode]
  | continueMissionOfBundleName asked answers =>
      by_cases hreaches : Reaches answers asked.srcDeviceId asked.dstDeviceId
          asked.callback
      · -- the mission of the bundle is not found
        have hfound : (answers.getMissionIdByBundleName
            asked.bundleName).1 ≠ errOk := by
          intro hfound
          rw [ContinuationEvent.localRequest, if_pos ⟨hreaches, hfound⟩,
            Option.map_eq_none_iff] at hrequest
          exact hreaches.2.2.1 hrequest
        refine ⟨_, ?_, fun _ => hfound⟩
        simp only [step, continueMissionOfBundleName,
          continueMissionBetween_reaches hreaches, processContinueLocalMission,
          if_pos hfound]
      · obtain ⟨code, hcode, hne⟩ := continueMissionBetween_stops hreaches
          (service.continuation.processContinueLocalMission answers
            asked.bundleName asked.dstDeviceId asked.callback
            asked.isFreeInstall)
          (continueRemoteBundle answers) service.continuation
        refine ⟨code, ?_, hne⟩
        simp only [step, continueMissionOfBundleName, hcode]
  | startContinuation | notifyContinuationResultFromRemote
  | onQueryInstallationFinished | notifyCompleteFreeInstallFromRemote
  | notifyDeviceOffline | timeout => cases hasked

end ContinuationService

/-! ## The other events -/

namespace DSchedContinuation

structure Leaves (continuation : DSchedContinuation Callback)
    (effects : List (ContinuationEffect Callback))
    (next : DSchedContinuation Callback) : Prop where
  answered : answered effects = []
  callbackMap : next.callbackMap = continuation.callbackMap
  cleanMission : next.cleanMission = continuation.cleanMission
  cleans : ∀ missionId, .cleanMission missionId ∉ effects
  timeouts : ∀ missionId ∈ continuation.timeouts, 0 < missionId →
    missionId ∈ next.timeouts

structure Completes (missionId : Int32)
    (continuation : DSchedContinuation Callback)
    (effects : List (ContinuationEffect Callback))
    (next : DSchedContinuation Callback) : Prop where
  answered :
    answered effects = continuation.callbackMap[missionId]?.toList
  callbackMap : ∀ other, next.callbackMap[other]? =
    if other = missionId then none else continuation.callbackMap[other]?
  cleanMission : ∀ other, other ≠ missionId →
    next.cleanMission[other]? = continuation.cleanMission[other]?
  cleans : ∀ other, .cleanMission other ∈ effects →
    other = missionId ∧ missionId ∈ continuation.callbackMap ∧
      continuation.isCleanMission missionId = true
  timeouts : ∀ other ∈ continuation.timeouts, other ≠ missionId →
    other ∈ next.timeouts

theorem Leaves.refl (continuation : DSchedContinuation Callback) :
    Leaves continuation [] continuation := by
  constructor
  · rfl
  · rfl
  · rfl
  · intro missionId hmem
    cases hmem
  · intro missionId hmem _
    exact hmem

theorem leaves_setTimeOut (missionId : Int32)
    (continuation : DSchedContinuation Callback) :
    Leaves continuation [] (continuation.setTimeOut missionId) := by
  constructor
  · rfl
  · rfl
  · rfl
  · intro other hmem
    cases hmem
  · intro other hmem _
    exact List.mem_append_left _ hmem

theorem mem_removeTimeOut {missionId other : Int32}
    {continuation : DSchedContinuation Callback}
    (hmem : other ∈ continuation.timeouts) (hne : other ≠ missionId) :
    other ∈ (continuation.removeTimeOut missionId).timeouts := by
  simp [removeTimeOut, hmem, hne]

section Continuation

variable (continuation : DSchedContinuation Callback)

theorem getElem?_popCallback (missionId other : Int32) :
    (continuation.popCallback missionId).2.callbackMap[other]? =
      if other = missionId then none else continuation.callbackMap[other]? := by
  unfold popCallback
  split
  next hnone =>
    split
    next heq => rw [heq, hnone]
    · rfl
  next callback hsome =>
    simp only []
    rw [OrderedMap.getElem?_erase_eq]
    exact if_congr eq_comm rfl rfl

theorem getElem?_cleanMission_popCallback {missionId other : Int32}
    (hne : other ≠ missionId) :
    (continuation.popCallback missionId).2.cleanMission[other]? =
      continuation.cleanMission[other]? := by
  unfold popCallback
  split
  · rfl
  · simp only []
    rw [OrderedMap.getElem?_erase_eq, if_neg (Ne.symm hne)]

theorem completes_notifyContinuationCallbackResult (missionId resultCode : Int32) :
    Completes missionId continuation
      (continuation.notifyContinuationCallbackResult missionId resultCode).1
      (continuation.notifyContinuationCallbackResult missionId
        resultCode).2 := by
  have hpop := getElem?_popCallback continuation missionId
  unfold notifyContinuationCallbackResult
  split
  next hprogress =>
    rw [isInContinuationProgress_iff] at hprogress
    obtain ⟨callback, hcallback⟩ :=
      Option.isSome_iff_exists.mp
        (Std.TreeMap.mem_iff_isSome_getElem?.mp hprogress)
    have hpopped : (continuation.popCallback missionId).1 = some callback := by
      unfold popCallback
      split <;> simp_all
    constructor
    · simp only [notifyMissionCenterResult, hpopped, hcallback]
      split <;> rfl
    · simp only [notifyMissionCenterResult, hpopped]
      exact hpop
    · intro other hne
      simp only [notifyMissionCenterResult, hpopped]
      exact getElem?_cleanMission_popCallback continuation hne
    · intro other hmem
      simp only [notifyMissionCenterResult, hpopped] at hmem
      split at hmem
      next hclean =>
        obtain rfl : other = missionId := by simpa using hmem
        exact ⟨rfl, hprogress, hclean.2⟩
      · simp at hmem
    · intro other hmem hne
      simp only [notifyMissionCenterResult, hpopped]
      apply mem_removeTimeOut _ hne
      unfold popCallback
      split <;> exact hmem
  next hprogress =>
    rw [isInContinuationProgress_iff] at hprogress
    have hnone : continuation.callbackMap[missionId]? = none :=
      Std.TreeMap.getElem?_eq_none hprogress
    constructor
    · simp [hnone]
    · intro other
      split
      next heq => rw [heq]; exact hnone
      · rfl
    · intro other hne
      rfl
    · intro other hmem
      simp at hmem
    · intro other hmem hne
      exact mem_removeTimeOut hmem hne

theorem timeout_cases (missionId : Int32) :
    Leaves continuation (continuation.timeout missionId).1
        (continuation.timeout missionId).2 ∨
      Completes missionId continuation (continuation.timeout missionId).1
        (continuation.timeout missionId).2 := by
  unfold timeout
  split
  · unfold processEvent
    split
    next hle =>
      left
      constructor
      · rfl
      · rfl
      · rfl
      · intro other hmem
        cases hmem
      · intro other hmem hpos
        apply (List.mem_erase_of_ne _).mpr hmem
        rintro rfl
        exact absurd hpos (by grind)
    next hpos =>
      right
      obtain ⟨hanswered, hcallbacks, hclean, hcleans, htimeouts⟩ :=
        completes_notifyContinuationCallbackResult
          { continuation with
              timeouts := continuation.timeouts.erase missionId }
          missionId continueAbilityTimeoutErr
      constructor
      · exact hanswered
      · exact hcallbacks
      · exact hclean
      · exact hcleans
      · intro other hmem hne
        exact htimeouts other ((List.mem_erase_of_ne hne).mpr hmem) hne
  · left
    exact Leaves.refl continuation

end Continuation

theorem completes_timeout {continuation : DSchedContinuation Callback}
    {missionId : Int32} (hpos : 0 < missionId)
    (hmem : missionId ∈ continuation.timeouts) :
    answered (continuation.timeout missionId).1 =
      continuation.callbackMap[missionId]?.toList := by
  have hnot : ¬ missionId ≤ 0 := by grind
  rw [timeout, if_pos hmem, processEvent, if_neg hnot]
  exact (completes_notifyContinuationCallbackResult
    { continuation with timeouts := continuation.timeouts.erase missionId }
    missionId continueAbilityTimeoutErr).answered

theorem onQueryInstallationFinished_cases
    (continuation : DSchedContinuation Callback) (resultCode missionId : Int32)
    (versionCode : UInt32) (continueAbility : Int32) :
    Leaves continuation
        (continuation.onQueryInstallationFinished resultCode missionId
          versionCode continueAbility).1.2
        (continuation.onQueryInstallationFinished resultCode missionId
          versionCode continueAbility).2 ∨
      Completes missionId continuation
        (continuation.onQueryInstallationFinished resultCode missionId
          versionCode continueAbility).1.2
        (continuation.onQueryInstallationFinished resultCode missionId
          versionCode continueAbility).2 := by
  unfold onQueryInstallationFinished
  split
  · right
    exact completes_notifyContinuationCallbackResult continuation missionId _
  · left
    constructor
    · rfl
    · rfl
    · rfl
    · intro other hmem
      simp at hmem
    · -- the timeout which is removed is set again
      intro other hmem _
      by_cases heq : other = missionId
      · rw [heq]
        exact List.mem_append_right _ (List.mem_singleton_self missionId)
      · exact List.mem_append_left _ (mem_removeTimeOut hmem heq)

theorem Keyed.timeout {continuation : DSchedContinuation Callback}
    (hkeyed : continuation.Keyed) (missionId : Int32) :
    (continuation.timeout missionId).2.Keyed := by
  unfold DSchedContinuation.timeout
  split
  · unfold processEvent
    split
    · exact hkeyed.frame rfl rfl rfl
    · apply Keyed.notifyContinuationCallbackResult
      exact hkeyed.frame rfl rfl rfl
  · exact hkeyed

theorem Keyed.onQueryInstallationFinished
    {continuation : DSchedContinuation Callback} (hkeyed : continuation.Keyed)
    (resultCode missionId : Int32) (versionCode : UInt32)
    (continueAbility : Int32) :
    (continuation.onQueryInstallationFinished resultCode missionId versionCode
      continueAbility).2.Keyed := by
  unfold DSchedContinuation.onQueryInstallationFinished
  split
  · exact hkeyed.notifyContinuationCallbackResult missionId _
  · exact hkeyed.frame rfl rfl rfl

end DSchedContinuation

namespace ContinuationService

theorem startContinuation_cases (service : ContinuationService Callback)
    (answers : StartContinuationAnswers) (want : ContinuationWant)
    (missionId status : Int32) :
    let next := service.startContinuation answers want missionId status
    (status ≠ errOk ∧
      next.1.2 = (service.continuation.notifyContinuationCallbackResult
        missionId status).1 ∧
      next.2.continuation =
        (service.continuation.notifyContinuationCallbackResult missionId
          status).2) ∨
    (status = errOk ∧ next.1.2 = [] ∧
      ∃ armed, (armed = service.continuation ∨
        armed = service.continuation.setTimeOut missionId) ∧
        ((next.2.continuation = armed ∧
            (want.abilityContinuation = false ∨
              setWantForContinuation answers ≠ errOk)) ∨
          next.2.continuation =
            armed.setCleanMissionFlag missionId want.isCleanMission)) := by
  intro next
  simp only [next, startContinuation]
  split
  next hstatus => exact Or.inl ⟨hstatus, rfl, rfl⟩
  next hstatus =>
    right
    refine ⟨not_not.mp hstatus, ?_⟩
    split
    next hflag => exact ⟨rfl, _, Or.inl rfl, Or.inl ⟨rfl, Or.inl hflag⟩⟩
    generalize harmed : (if
      service.continuation.isInContinuationProgress missionId = true then
        service.continuation
      else service.continuation.setTimeOut missionId) = armed
    have harmed : armed = service.continuation ∨
        armed = service.continuation.setTimeOut missionId := by
      rw [← harmed]
      split
      · exact Or.inl rfl
      · exact Or.inr rfl
    split
    next hwant => exact ⟨rfl, armed, harmed, Or.inl ⟨rfl, Or.inr hwant⟩⟩
    split
    · exact ⟨rfl, armed, harmed, Or.inr rfl⟩
    · exact ⟨rfl, armed, harmed, Or.inr rfl⟩

theorem notifyCompleteFreeInstallFromRemote_cases
    (service : ContinuationService Callback) (taskId : Int64)
    (resultCode : Int32) :
    (service.notifyCompleteFreeInstallFromRemote taskId resultCode).1.2 = [] ∧
        (service.notifyCompleteFreeInstallFromRemote taskId
          resultCode).2.continuation = service.continuation ∨
      ∃ missionId,
        (service.notifyCompleteFreeInstallFromRemote taskId resultCode).1.2 =
          (service.continuation.notifyContinuationCallbackResult missionId
            continueFreeInstallFailed).1 ∧
        (service.notifyCompleteFreeInstallFromRemote taskId
          resultCode).2.continuation =
          (service.continuation.notifyContinuationCallbackResult missionId
            continueFreeInstallFailed).2 := by
  unfold notifyCompleteFreeInstallFromRemote
  simp only []
  split
  · exact Or.inl ⟨rfl, rfl⟩
  split
  · exact Or.inl ⟨rfl, rfl⟩
  · exact Or.inr ⟨_, rfl, rfl⟩

/-- An event which is neither a request nor the application's answer completes a
continuation, or leaves all of them. -/
theorem step_cases (service : ContinuationService Callback)
    {event : ContinuationEvent Callback} (hasked : ¬ event.IsRequest)
    (hanswer : ∀ want missionId status answers,
      event ≠ .startContinuation want missionId status answers) :
    Leaves service.continuation (service.step event).1.2
        (service.step event).2.continuation ∨
      ∃ missionId, Completes missionId service.continuation
        (service.step event).1.2 (service.step event).2.continuation := by
  cases event with
  | continueMission => exact absurd trivial hasked
  | continueMissionOfBundleName => exact absurd trivial hasked
  | startContinuation want missionId status answers =>
      exact absurd rfl (hanswer want missionId status answers)
  | notifyContinuationResultFromRemote sessionId isSuccess =>
      simp only [step, notifyContinuationResultFromRemote]
      split
      · exact Or.inl (Leaves.refl _)
      · exact Or.inr ⟨sessionId,
          completes_notifyContinuationCallbackResult _ sessionId _⟩
  | onQueryInstallationFinished resultCode missionId versionCode answer =>
      exact (onQueryInstallationFinished_cases service.continuation resultCode
        missionId versionCode answer).imp_right fun h => ⟨missionId, h⟩
  | notifyCompleteFreeInstallFromRemote taskId resultCode =>
      rcases service.notifyCompleteFreeInstallFromRemote_cases taskId resultCode
        with ⟨heffects, hnext⟩ | ⟨missionId, heffects, hnext⟩
      · left
        simp only [step, heffects, hnext]
        exact Leaves.refl _
      · right
        refine ⟨missionId, ?_⟩
        simp only [step, heffects, hnext]
        exact completes_notifyContinuationCallbackResult _ missionId _
  | notifyDeviceOffline deviceId => exact Or.inl (Leaves.refl _)
  | timeout missionId =>
      exact (timeout_cases service.continuation missionId).imp_right
        fun h => ⟨missionId, h⟩

theorem keyed_step {service : ContinuationService Callback}
    (hkeyed : service.continuation.Keyed) (event : ContinuationEvent Callback) :
    (service.step event).2.continuation.Keyed := by
  by_cases hasked : event.IsRequest
  · cases hrequest : event.localRequest with
    | none =>
        obtain ⟨code, hstep, _⟩ := service.step_noLocalRequest hasked hrequest
        rw [hstep]
        exact hkeyed
    | some request =>
        rw [(service.step_localRequest hrequest).2]
        exact hkeyed.follow request.answers request.dstDeviceId
          request.missionId request.callback _
  · cases event with
    | continueMission => exact absurd trivial hasked
    | continueMissionOfBundleName => exact absurd trivial hasked
    | startContinuation want missionId status answers =>
        rcases service.startContinuation_cases answers want missionId status
          with ⟨_, _, hnext⟩ | ⟨_, _, armed, harmed, hnext⟩
        · simp only [step, hnext]
          exact hkeyed.notifyContinuationCallbackResult missionId status
        · have harmed : armed.Keyed := by
            rcases harmed with rfl | rfl
            · exact hkeyed
            · exact hkeyed.frame rfl rfl rfl
          rw [step]
          rcases hnext with ⟨hnext, _⟩ | hnext
          · rw [hnext]
            exact harmed
          · rw [hnext]
            exact harmed.frame rfl rfl rfl
    | notifyContinuationResultFromRemote sessionId isSuccess =>
        simp only [step, notifyContinuationResultFromRemote]
        split
        · exact hkeyed
        · exact hkeyed.notifyContinuationCallbackResult sessionId _
    | onQueryInstallationFinished resultCode missionId versionCode answer =>
        exact hkeyed.onQueryInstallationFinished resultCode missionId
          versionCode answer
    | notifyCompleteFreeInstallFromRemote taskId resultCode =>
        rcases service.notifyCompleteFreeInstallFromRemote_cases taskId
          resultCode with ⟨_, hnext⟩ | ⟨missionId, _, hnext⟩
        · simp only [step, hnext]
          exact hkeyed
        · simp only [step, hnext]
          exact hkeyed.notifyContinuationCallbackResult missionId _
    | notifyDeviceOffline deviceId => exact hkeyed
    | timeout missionId => exact hkeyed.timeout missionId

/-- However requests, answers and timeouts follow each other, a mission has a
device exactly when it has a callback, and no free install without one. -/
theorem continuationKeys_run (events : List (ContinuationEvent Callback)) :
    (EventRun.run step {} events).2.continuation.Keyed := by
  have hinvariant : ∀ (service : ContinuationService Callback) event,
      service.continuation.Keyed → (service.step event).2.continuation.Keyed :=
    fun _ event hkeyed => keyed_step hkeyed event
  exact EventRun.run_invariant hinvariant events keyed_initial

end ContinuationService

end Dmsfwk
