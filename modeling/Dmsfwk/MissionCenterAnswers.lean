import Dmsfwk.ContinuationMoves
import Dmsfwk.DistributedSchedService

/-!
# Answers to the mission center

The requests are numbered, and a callback carries the number of the request it
came with.  A request that was accepted has been answered once, or its callback
is the one of a mission whose timeout is pending.
-/

namespace Dmsfwk

open SchedErr ContinuationEffect DSchedContinuation

abbrev NumberedCallback := ℕ × RemoteObject

def ContinuationEvent.number (number : ℕ) :
    ContinuationEvent RemoteObject → ContinuationEvent NumberedCallback
  | .continueMission request answers =>
      .continueMission {
        srcDeviceId := request.srcDeviceId
        dstDeviceId := request.dstDeviceId
        missionId := request.missionId
        callback := request.callback.map (number, ·)
        isFreeInstall := request.isFreeInstall } answers
  | .continueMissionOfBundleName request answers =>
      .continueMissionOfBundleName {
        srcDeviceId := request.srcDeviceId
        dstDeviceId := request.dstDeviceId
        bundleName := request.bundleName
        callback := request.callback.map (number, ·)
        isFreeInstall := request.isFreeInstall } answers
  | .startContinuation want missionId status answers =>
      .startContinuation want missionId status answers
  | .notifyContinuationResultFromRemote sessionId isSuccess =>
      .notifyContinuationResultFromRemote sessionId isSuccess
  | .onQueryInstallationFinished resultCode missionId versionCode answer =>
      .onQueryInstallationFinished resultCode missionId versionCode answer
  | .notifyCompleteFreeInstallFromRemote taskId resultCode =>
      .notifyCompleteFreeInstallFromRemote taskId resultCode
  | .notifyDeviceOffline deviceId => .notifyDeviceOffline deviceId
  | .timeout missionId => .timeout missionId

structure DSchedContinuation.SameMaps {Callback : Type}
    (continuation next : DSchedContinuation Callback) : Prop where
  callbackMap : ∀ missionId : Int32,
    next.callbackMap[missionId]? = continuation.callbackMap[missionId]?
  continuationDevices : ∀ missionId : Int32,
    next.continuationDevices[missionId]? =
      continuation.continuationDevices[missionId]?
  freeInstall : ∀ missionId : Int32,
    next.freeInstall[missionId]? = continuation.freeInstall[missionId]?
  cleanMission : ∀ missionId : Int32,
    next.cleanMission[missionId]? = continuation.cleanMission[missionId]?

structure MissionCenter where
  service : ContinuationService NumberedCallback := {}
  /-- The number of the next event. -/
  posed : ℕ := 0
  /-- The requests which returned `ERR_OK`. -/
  accepted : List ℕ := []
  /-- The requests whose callback was sent `NOTIFY_MISSION_CENTER_RESULT`. -/
  answered : List ℕ := []

namespace MissionCenter

def after (center : MissionCenter) (accepts : Prop) [Decidable accepts]
    (effects : List (ContinuationEffect NumberedCallback))
    (service : ContinuationService NumberedCallback) : MissionCenter where
  service := service
  posed := center.posed + 1
  accepted :=
    if accepts then center.accepted ++ [center.posed] else center.accepted
  answered :=
    center.answered ++ (ContinuationEffect.answered effects).map Prod.fst

def step (center : MissionCenter) (event : ContinuationEvent RemoteObject) :
    Int32 × MissionCenter :=
  let numbered := event.number center.posed
  let next := center.service.step numbered
  (next.1.1,
    center.after (numbered.IsSourceRequest ∧ next.1.1 = errOk) next.1.2 next.2)

/-- A timeout is pending, and it answers the request. -/
def Pending (center : MissionCenter) (number : ℕ) : Prop :=
  ∃ missionId ∈ center.service.continuation.timeouts,
    (center.step (.timeout missionId)).2.answered =
      center.answered ++ [number]

structure AnsweredOnce (center : MissionCenter) : Prop where
  accepted : ∀ number ∈ center.accepted,
    center.answered.count number = 1 ∨
      center.answered.count number = 0 ∧ center.Pending number
  refused : ∀ number, number ∉ center.accepted → number ∉ center.answered
  sameKeys : ∀ missionId,
    missionId ∈ center.service.continuation.callbackMap ↔
      missionId ∈ center.service.continuation.continuationDevices

def RefusalKeeps (center : MissionCenter)
    (event : ContinuationEvent RemoteObject) : Prop :=
  (event.number center.posed).IsSourceRequest →
    (center.step event).1 ≠ errOk →
      center.service.continuation.SameMaps
        (center.step event).2.service.continuation

end MissionCenter

/-- The ability manager takes the request, the mission id is one that the
timeout answers, and a free install which is refused finds no flag. -/
def LocalRequest.Admitted {Callback : Type} (request : LocalRequest Callback)
    (continuation : DSchedContinuation Callback) : Prop :=
  match request.route continuation with
  | .refused _ => True
  | .continueAbility _ =>
      request.answers.continueAbility = errOk ∧ 0 < request.missionId
  | .freeInstall =>
      if request.answers.checkIfRemoteCanInstall = true then
        0 < request.missionId
      else request.missionId ∉ continuation.cleanMission

instance {Callback : Type} (request : LocalRequest Callback)
    (continuation : DSchedContinuation Callback) :
    Decidable (request.Admitted continuation) :=
  show Decidable (match request.route continuation with
    | .refused _ => True
    | .continueAbility _ =>
        request.answers.continueAbility = errOk ∧ 0 < request.missionId
    | .freeInstall =>
        if request.answers.checkIfRemoteCanInstall = true then
          0 < request.missionId
        else request.missionId ∉ continuation.cleanMission)
  from match request.route continuation with
    | .refused _ => .isTrue trivial
    | .continueAbility _ =>
        inferInstanceAs (Decidable
          (request.answers.continueAbility = errOk ∧ 0 < request.missionId))
    | .freeInstall =>
        inferInstanceAs (Decidable
          (if request.answers.checkIfRemoteCanInstall = true then
            0 < request.missionId
          else request.missionId ∉ continuation.cleanMission))

namespace MissionCenter

def Guard (center : MissionCenter) (event : ContinuationEvent RemoteObject) :
    Prop :=
  ∀ request ∈ (event.number center.posed).localRequest,
    request.Admitted center.service.continuation

instance (center : MissionCenter) (event : ContinuationEvent RemoteObject) :
    Decidable (center.Guard event) := by
  unfold Guard
  infer_instance

/-! ## The callbacks which wait -/

structure Accounted (center : MissionCenter) : Prop where
  keyed : center.service.continuation.Keyed
  waits : ∀ (missionId : Int32) (callback : NumberedCallback),
    center.service.continuation.callbackMap[missionId]? = some callback →
      callback.1 ∈ center.accepted ∧ callback.1 ∉ center.answered ∧
        0 < missionId ∧ missionId ∈ center.service.continuation.timeouts
  single : ∀ (missionId other : Int32)
    (callback otherCallback : NumberedCallback),
    center.service.continuation.callbackMap[missionId]? = some callback →
      center.service.continuation.callbackMap[other]? = some otherCallback →
        callback.1 = otherCallback.1 → missionId = other
  accepted : ∀ number ∈ center.accepted, number < center.posed ∧
    (number ∈ center.answered ∨
      ∃ (missionId : Int32) (callback : NumberedCallback),
      center.service.continuation.callbackMap[missionId]? = some callback ∧
        callback.1 = number)
  answered : ∀ number ∈ center.answered, number ∈ center.accepted
  once : center.answered.Nodup

theorem accounted_initial : ({} : MissionCenter).Accounted := by
  constructor
  · exact keyed_initial
  · intro missionId callback hcallback
    simp at hcallback
  · intro missionId other callback otherCallback hcallback
    simp at hcallback
  · intro number hmem
    cases hmem
  · intro number hmem
    cases hmem
  · exact List.nodup_nil

theorem Accounted.answeredOnce {center : MissionCenter}
    (haccounted : center.Accounted) : center.AnsweredOnce := by
  constructor
  · intro number hmem
    by_cases hanswered : number ∈ center.answered
    · left
      exact List.count_eq_one_of_mem haccounted.once hanswered
    · right
      refine ⟨List.count_eq_zero_of_not_mem hanswered, ?_⟩
      obtain ⟨_, hdone | ⟨missionId, callback, hcallback, rfl⟩⟩ :=
        haccounted.accepted number hmem
      · exact absurd hdone hanswered
      · obtain ⟨_, _, hpos, htimeout⟩ :=
          haccounted.waits missionId callback hcallback
        refine ⟨missionId, htimeout, ?_⟩
        have hanswers := completes_timeout hpos htimeout
        rw [hcallback] at hanswers
        simp only [step, after, ContinuationEvent.number,
          ContinuationService.step, hanswers]
        rfl
  · intro number hmem hanswered
    exact hmem (haccounted.answered number hanswered)
  · intro missionId
    exact (haccounted.keyed.devices missionId).symm

/-! ## One lemma for each kind of move -/

section Moves

variable {center : MissionCenter}
  {effects : List (ContinuationEffect NumberedCallback)}
  {next : ContinuationService NumberedCallback}
  {accepts : Prop} [Decidable accepts]

theorem Accounted.sameCallbacks (haccounted : center.Accounted)
    (hrefuses : ¬ accepts)
    (heffects : ContinuationEffect.answered effects = [])
    (hcallbacks : ∀ missionId : Int32,
      next.continuation.callbackMap[missionId]? =
        center.service.continuation.callbackMap[missionId]?)
    (htimeouts : ∀ missionId ∈ center.service.continuation.callbackMap,
      missionId ∈ center.service.continuation.timeouts → 0 < missionId →
        missionId ∈ next.continuation.timeouts)
    (hkeyed : next.continuation.Keyed) :
    (center.after accepts effects next).Accounted := by
  have hafter : center.after accepts effects next =
      { service := next, posed := center.posed + 1,
        accepted := center.accepted, answered := center.answered } := by
    simp [after, heffects, hrefuses]
  rw [hafter]
  constructor
  · exact hkeyed
  · intro missionId callback hcallback
    simp only [hcallbacks] at hcallback
    obtain ⟨hmem, hnot, hpos, htimeout⟩ :=
      haccounted.waits missionId callback hcallback
    exact ⟨hmem, hnot, hpos,
      htimeouts missionId (Std.TreeMap.getElem?_eq_some_iff.mp hcallback).1
        htimeout hpos⟩
  · simp only [hcallbacks]
    exact haccounted.single
  · intro number hmem
    simp only [hcallbacks]
    obtain ⟨hlt, hwaits⟩ := haccounted.accepted number hmem
    exact ⟨Nat.lt_succ_of_lt hlt, hwaits⟩
  · exact haccounted.answered
  · exact haccounted.once

theorem Accounted.leaves (haccounted : center.Accounted)
    (hrefuses : ¬ accepts)
    (hleaves : Leaves center.service.continuation effects next.continuation)
    (hkeyed : next.continuation.Keyed) :
    (center.after accepts effects next).Accounted := by
  apply haccounted.sameCallbacks hrefuses hleaves.answered
  · intro missionId
    rw [hleaves.callbackMap]
  · intro missionId _
    exact hleaves.timeouts missionId
  · exact hkeyed

theorem getElem?_completed {missionId other : Int32}
    {callback : NumberedCallback}
    (hcompletes : Completes missionId center.service.continuation effects
      next.continuation)
    (hcallback : next.continuation.callbackMap[other]? = some callback) :
    other ≠ missionId ∧
      center.service.continuation.callbackMap[other]? = some callback := by
  rw [hcompletes.callbackMap] at hcallback
  split at hcallback
  · cases hcallback
  next hne => exact ⟨hne, hcallback⟩

theorem Accounted.once_completed (haccounted : center.Accounted)
    (missionId : Int32) :
    (center.answered ++
      (center.service.continuation.callbackMap[missionId]?.toList).map
        Prod.fst).Nodup := by
  cases hended : center.service.continuation.callbackMap[missionId]? with
  | none =>
      simp only [Option.toList_none, List.map_nil, List.append_nil]
      exact haccounted.once
  | some ended =>
      simp only [Option.toList_some, List.map_cons, List.map_nil]
      apply List.Nodup.append haccounted.once (List.nodup_singleton _)
      simp only [List.disjoint_singleton]
      exact (haccounted.waits missionId ended hended).2.1

theorem Accounted.completes (haccounted : center.Accounted)
    (hrefuses : ¬ accepts) {missionId : Int32}
    (hcompletes : Completes missionId center.service.continuation effects
      next.continuation)
    (hkeyed : next.continuation.Keyed) :
    (center.after accepts effects next).Accounted := by
  have hafter : center.after accepts effects next =
      { service := next, posed := center.posed + 1,
        accepted := center.accepted,
        answered := center.answered ++
          (center.service.continuation.callbackMap[missionId]?.toList).map
            Prod.fst } := by
    simp [after, hcompletes.answered, hrefuses]
  rw [hafter]
  constructor
  case keyed => exact hkeyed
  case waits =>
    intro other callback hcallback
    obtain ⟨hne, hcallback⟩ := getElem?_completed hcompletes hcallback
    obtain ⟨hmem, hnot, hpos, htimeout⟩ :=
      haccounted.waits other callback hcallback
    refine ⟨hmem, ?_, hpos, hcompletes.timeouts other htimeout hne⟩
    rw [List.mem_append, not_or]
    refine ⟨hnot, ?_⟩
    simp only [List.mem_map, Option.mem_toList]
    rintro ⟨ended, hended, heq⟩
    exact hne (haccounted.single other missionId callback ended hcallback hended
      heq.symm)
  case single =>
    intro first other callback otherCallback hfirst hother heq
    exact haccounted.single first other callback otherCallback
      (getElem?_completed hcompletes hfirst).2
      (getElem?_completed hcompletes hother).2 heq
  case accepted =>
    intro number hmem
    obtain ⟨hlt, hwaits⟩ := haccounted.accepted number hmem
    refine ⟨Nat.lt_succ_of_lt hlt, ?_⟩
    rcases hwaits with hanswered | ⟨other, callback, hcallback, rfl⟩
    · exact Or.inl (List.mem_append_left _ hanswered)
    · by_cases heq : other = missionId
      · left
        apply List.mem_append_right
        rw [← heq, hcallback]
        exact List.mem_singleton_self callback.1
      · right
        refine ⟨other, callback, ?_, rfl⟩
        rw [hcompletes.callbackMap, if_neg heq]
        exact hcallback
  case answered =>
    intro number hmem
    rw [List.mem_append] at hmem
    rcases hmem with hanswered | hended
    · exact haccounted.answered number hanswered
    · simp only [List.mem_map, Option.mem_toList] at hended
      obtain ⟨ended, hended, rfl⟩ := hended
      exact (haccounted.waits missionId ended hended).1
  case once => exact haccounted.once_completed missionId

/-! ### A registration -/

theorem getElem?_register_iff {Callback : Type}
    (continuation : DSchedContinuation Callback) (missionId other : Int32)
    (registered callback : Callback) (deviceId : Text) (isFreeInstall : Bool) :
    (continuation.register missionId registered deviceId
        isFreeInstall).callbackMap[other]? = some callback ↔
      (missionId = other ∧ registered = callback) ∨
        (missionId ≠ other ∧
          continuation.callbackMap[other]? = some callback) := by
  rw [DSchedContinuation.register, OrderedMap.getElem?_insert_eq]
  split
  next heq => simp [heq]
  next hne => simp [hne]

theorem Accounted.number_lt (haccounted : center.Accounted) {other : Int32}
    {callback : NumberedCallback}
    (hcallback : center.service.continuation.callbackMap[other]? =
      some callback) : callback.1 < center.posed :=
  (haccounted.accepted callback.1
    (haccounted.waits other callback hcallback).1).1

theorem Accounted.posed_not_answered (haccounted : center.Accounted) :
    center.posed ∉ center.answered := by
  intro hmem
  exact absurd (haccounted.accepted _ (haccounted.answered _ hmem)).1
    (Nat.lt_irrefl _)

theorem Accounted.single_registered (haccounted : center.Accounted)
    {missionId : Int32} {object : RemoteObject}
    {first other : Int32} {callback otherCallback : NumberedCallback}
    (hfirst : (missionId = first ∧ (center.posed, object) = callback) ∨
      (missionId ≠ first ∧
        center.service.continuation.callbackMap[first]? = some callback))
    (hother : (missionId = other ∧ (center.posed, object) = otherCallback) ∨
      (missionId ≠ other ∧
        center.service.continuation.callbackMap[other]? = some otherCallback))
    (heq : callback.1 = otherCallback.1) : first = other := by
  rcases hfirst with ⟨rfl, rfl⟩ | ⟨_, hfirst⟩
  · rcases hother with ⟨rfl, rfl⟩ | ⟨_, hother⟩
    · rfl
    · have hlt := haccounted.number_lt hother
      rw [← heq] at hlt
      exact absurd hlt (Nat.lt_irrefl _)
  · rcases hother with ⟨rfl, rfl⟩ | ⟨_, hother⟩
    · have hlt := haccounted.number_lt hfirst
      rw [heq] at hlt
      exact absurd hlt (Nat.lt_irrefl _)
    · exact haccounted.single first other callback otherCallback hfirst hother
        heq

theorem Accounted.registers (haccounted : center.Accounted) (haccepts : accepts)
    {missionId : Int32} {deviceId : Text} {isFreeInstall : Bool}
    {object : RemoteObject} (hpos : 0 < missionId)
    (hnew : missionId ∉ center.service.continuation.callbackMap)
    (heffects : ContinuationEffect.answered effects = [])
    (hnext : next.continuation = center.service.continuation.register missionId
      (center.posed, object) deviceId isFreeInstall) :
    (center.after accepts effects next).Accounted := by
  have hafter : center.after accepts effects next =
      { service := next, posed := center.posed + 1,
        accepted := center.accepted ++ [center.posed],
        answered := center.answered } := by
    simp [after, heffects, haccepts]
  rw [hafter]
  have hcallbacks := fun (other : Int32) (callback : NumberedCallback) =>
    getElem?_register_iff center.service.continuation missionId other
      (center.posed, object) callback deviceId isFreeInstall
  rw [← hnext] at hcallbacks
  have htimeouts : next.continuation.timeouts =
      center.service.continuation.timeouts ++ [missionId] := by
    rw [hnext]
    rfl
  constructor
  case keyed =>
    simp only [hnext]
    exact haccounted.keyed.register missionId _ deviceId isFreeInstall
  case waits =>
    intro other callback hcallback
    simp only [htimeouts]
    rcases (hcallbacks other callback).mp hcallback with
      ⟨rfl, rfl⟩ | ⟨_, hcallback⟩
    · exact ⟨List.mem_append_right _ (List.mem_singleton_self _),
        haccounted.posed_not_answered, hpos,
        List.mem_append_right _ (List.mem_singleton_self _)⟩
    · obtain ⟨hmem, hnot, hpos, htimeout⟩ :=
        haccounted.waits other callback hcallback
      exact ⟨List.mem_append_left _ hmem, hnot, hpos,
        List.mem_append_left _ htimeout⟩
  case single =>
    intro first other callback otherCallback hfirst hother heq
    exact haccounted.single_registered ((hcallbacks _ _).mp hfirst)
      ((hcallbacks _ _).mp hother) heq
  case accepted =>
    intro number hmem
    rw [List.mem_append, List.mem_singleton] at hmem
    rcases hmem with hmem | rfl
    · obtain ⟨hlt, hwaits⟩ := haccounted.accepted number hmem
      refine ⟨Nat.lt_succ_of_lt hlt, hwaits.imp_right ?_⟩
      rintro ⟨other, callback, hcallback, rfl⟩
      refine ⟨other, callback, (hcallbacks other callback).mpr ?_, rfl⟩
      refine Or.inr ⟨?_, hcallback⟩
      rintro rfl
      exact hnew (Std.TreeMap.mem_iff_isSome_getElem?.mpr
        (by rw [hcallback]; rfl))
    · refine ⟨Nat.lt_succ_self _, Or.inr ⟨missionId, (center.posed, object),
        (hcallbacks _ _).mpr (Or.inl ⟨rfl, rfl⟩), rfl⟩⟩
  case answered =>
    intro number hmem
    exact List.mem_append_left _ (haccounted.answered number hmem)
  case once => exact haccounted.once

end Moves

end MissionCenter

/-! ## Requests -/

section Requests

variable {Callback : Type} {continuation : DSchedContinuation Callback}

theorem DSchedContinuation.SameMaps.refl
    (continuation : DSchedContinuation Callback) :
    continuation.SameMaps continuation := by
  constructor <;> intro missionId <;> rfl

theorem DSchedContinuation.Keyed.sameMaps_withdraw
    (hkeyed : continuation.Keyed) {missionId : Int32}
    (hnew : missionId ∉ continuation.callbackMap)
    (hflag : missionId ∉ continuation.cleanMission) (callback : Callback)
    (deviceId : Text) :
    continuation.SameMaps ((continuation.register missionId callback deviceId
      true).withdraw missionId) := by
  have hpop : ((continuation.register missionId callback deviceId
      true).withdraw missionId) =
      { callbackMap :=
          (continuation.callbackMap.insert missionId callback).erase missionId
        continuationDevices := (continuation.continuationDevices.insertIfNew
          missionId deviceId).erase missionId
        freeInstall :=
          (continuation.freeInstall.insert missionId true).erase missionId
        cleanMission := continuation.cleanMission.erase missionId
        timeouts := (continuation.timeouts ++ [missionId]).filter
          (· ≠ missionId) } := by
    simp [DSchedContinuation.withdraw, DSchedContinuation.popCallback,
      removeTimeOut, DSchedContinuation.register]
  have hdevice : missionId ∉ continuation.continuationDevices :=
    mt (hkeyed.devices missionId).mp hnew
  have hfree : missionId ∉ continuation.freeInstall :=
    mt (hkeyed.freeInstall missionId) hnew
  rw [hpop]
  constructor
  · intro other
    simp only [OrderedMap.getElem?_erase_eq, OrderedMap.getElem?_insert_eq]
    split
    next heq => rw [← heq, Std.TreeMap.getElem?_eq_none hnew]
    · rfl
  · intro other
    simp only [OrderedMap.getElem?_erase_eq,
      OrderedMap.getElem?_insertIfNew_eq (Std.TreeMap.getElem?_eq_none hdevice)]
    split
    next heq => rw [← heq, Std.TreeMap.getElem?_eq_none hdevice]
    · rfl
  · intro other
    simp only [OrderedMap.getElem?_erase_eq, OrderedMap.getElem?_insert_eq]
    split
    next heq => rw [← heq, Std.TreeMap.getElem?_eq_none hfree]
    · rfl
  · intro other
    simp only [OrderedMap.getElem?_erase_eq]
    split
    next heq => rw [← heq, Std.TreeMap.getElem?_eq_none hflag]
    · rfl

theorem continueAbilityResult_errOk {answers : ContinueMissionAnswers}
    (hanswer : answers.continueAbility = errOk) :
    continueAbilityResult answers = errOk := by
  rw [continueAbilityResult, hanswer]
  decide

theorem LocalRequest.Admitted.outcome_cases {request : LocalRequest Callback}
    (hkeyed : continuation.Keyed) (hadmitted : request.Admitted continuation) :
    ((request.outcome continuation).1.1 = errOk ∧ 0 < request.missionId ∧
      request.missionId ∉ continuation.callbackMap ∧
      ContinuationEffect.answered (request.outcome continuation).1.2 = [] ∧
      ∃ isFreeInstall, (request.outcome continuation).2 =
        continuation.register request.missionId request.callback
          request.dstDeviceId isFreeInstall) ∨
    ((request.outcome continuation).1.1 ≠ errOk ∧
      continuation.SameMaps (request.outcome continuation).2 ∧
      ContinuationEffect.answered (request.outcome continuation).1.2 = [] ∧
      ((request.outcome continuation).2 = continuation ∨
        request.missionId ∉ continuation.callbackMap ∧
          (request.outcome continuation).2 =
            (continuation.register request.missionId request.callback
              request.dstDeviceId true).withdraw request.missionId)) := by
  have hnew : (∀ code, request.route continuation ≠ .refused code) →
      request.missionId ∉ continuation.callbackMap := by
    intro hroute
    have hprogress := not_inProgress_of_route hroute
    rw [← isInContinuationProgress_iff, hprogress]
    exact Bool.false_ne_true
  unfold LocalRequest.Admitted at hadmitted
  unfold LocalRequest.outcome
  cases hroute : request.route continuation with
  | refused code =>
      right
      exact ⟨route_refused_ne hroute, SameMaps.refl continuation, rfl,
        Or.inl rfl⟩
  | continueAbility versionCode =>
      simp only [hroute] at hadmitted
      left
      refine ⟨continueAbilityResult_errOk hadmitted.1, hadmitted.2,
        hnew (by simp [hroute]), rfl, false, rfl⟩
  | freeInstall =>
      have hnew := hnew (by simp [hroute])
      simp only [hroute] at hadmitted
      simp only [follow]
      split at hadmitted
      next hcan =>
        left
        rw [if_neg (by simp [hcan])]
        exact ⟨rfl, hadmitted, hnew, rfl, true, rfl⟩
      next hcannot =>
        right
        rw [if_pos (by simpa using hcannot)]
        have hcode : invalidParametersErr ≠ errOk := by decide
        exact ⟨hcode, hkeyed.sameMaps_withdraw hnew hadmitted _ _, rfl,
          Or.inr ⟨hnew, rfl⟩⟩

theorem mem_timeouts_withdraw {missionId other : Int32} {callback : Callback}
    {deviceId : Text} (hmem : other ∈ continuation.timeouts)
    (hne : other ≠ missionId) :
    other ∈ ((continuation.register missionId callback deviceId
      true).withdraw missionId).timeouts := by
  have hregister : other ∈ (continuation.register missionId callback deviceId
      true).timeouts := List.mem_append_left _ hmem
  have hremoved := mem_removeTimeOut hregister hne
  unfold DSchedContinuation.withdraw DSchedContinuation.popCallback
  split <;> exact hremoved

end Requests

/-! ## Runs -/

namespace MissionCenter

variable {event : ContinuationEvent RemoteObject}

theorem Accounted.afterRequest {center : MissionCenter}
    (haccounted : center.Accounted) {request : LocalRequest NumberedCallback}
    (hrequest : (event.number center.posed).localRequest = some request)
    (hadmitted : request.Admitted center.service.continuation)
    (hnumber : request.callback.1 = center.posed) :
    (center.step event).2.Accounted := by
  obtain ⟨hsource, hstep⟩ := center.service.step_localRequest hrequest
  have hkeyed := center.service.keyed_step haccounted.keyed
    (event.number center.posed)
  rw [step]
  simp only [hstep] at hkeyed ⊢
  rcases hadmitted.outcome_cases haccounted.keyed with
    ⟨hcode, hpos, hnew, heffects, isFreeInstall, hnext⟩ |
    ⟨hcode, hsame, heffects, hnext⟩
  · have hobject : request.callback = (center.posed, request.callback.2) := by
      rw [← hnumber]
    rw [hobject] at hnext
    exact haccounted.registers ⟨hsource, hcode⟩ hpos hnew heffects hnext
  · apply haccounted.sameCallbacks (fun haccepts => hcode haccepts.2) heffects
      hsame.callbackMap _ hkeyed
    intro missionId hmem htimeout _
    rcases hnext with hnext | ⟨hnew, hnext⟩
    · simp only [hnext]
      exact htimeout
    · simp only [hnext]
      apply mem_timeouts_withdraw htimeout
      rintro rfl
      exact hnew hmem

theorem localRequest_number {number : ℕ} {request : LocalRequest NumberedCallback}
    (hrequest : (event.number number).localRequest = some request) :
    request.callback.1 = number := by
  cases event with
  | continueMission asked answers
  | continueMissionOfBundleName asked answers =>
      simp only [ContinuationEvent.number, ContinuationEvent.localRequest]
        at hrequest
      split at hrequest
      · obtain ⟨callback, hcallback, rfl⟩ := Option.map_eq_some_iff.mp hrequest
        obtain ⟨object, _, rfl⟩ := Option.map_eq_some_iff.mp hcallback
        rfl
      · cases hrequest
  | startContinuation | notifyContinuationResultFromRemote
  | onQueryInstallationFinished | notifyCompleteFreeInstallFromRemote
  | notifyDeviceOffline | timeout => cases hrequest

theorem isRequest_of_isSourceRequest {Callback : Type}
    {event : ContinuationEvent Callback} (hsource : event.IsSourceRequest) :
    event.IsRequest := by
  cases event <;> trivial

theorem Accounted.afterStart {center : MissionCenter}
    (haccounted : center.Accounted) {accepts : Prop} [Decidable accepts]
    (want : ContinuationWant) (missionId status : Int32)
    (answers : StartContinuationAnswers) (hrefuses : ¬ accepts)
    (hkeyed : (center.service.startContinuation answers want missionId
      status).2.continuation.Keyed) :
    (center.after accepts
      (center.service.startContinuation answers want missionId status).1.2
      (center.service.startContinuation answers want missionId
        status).2).Accounted := by
  rcases center.service.startContinuation_cases answers want missionId status
    with ⟨_, heffects, hnext⟩ | ⟨_, heffects, armed, harmed, hnext⟩
  · have hcompletes := completes_notifyContinuationCallbackResult
      center.service.continuation missionId status
    rw [← heffects, ← hnext] at hcompletes
    exact haccounted.completes hrefuses hcompletes hkeyed
  · have hleaves : Leaves center.service.continuation [] armed := by
      rcases harmed with rfl | rfl
      · exact Leaves.refl _
      · exact leaves_setTimeOut missionId _
    have hsame : (center.service.startContinuation answers want missionId
          status).2.continuation.callbackMap = armed.callbackMap ∧
        (center.service.startContinuation answers want missionId
          status).2.continuation.timeouts = armed.timeouts := by
      rcases hnext with ⟨hnext, _⟩ | hnext
      · rw [hnext]
        exact ⟨rfl, rfl⟩
      · rw [hnext]
        exact ⟨rfl, rfl⟩
    apply haccounted.sameCallbacks hrefuses _ _ _ hkeyed
    · rw [heffects]
      rfl
    · intro other
      rw [hsame.1, hleaves.callbackMap]
    · intro other _ hmem hpos
      rw [hsame.2]
      exact hleaves.timeouts other hmem hpos

theorem Accounted.afterStep {center : MissionCenter}
    (haccounted : center.Accounted) (hguard : center.Guard event) : (center.step event).2.Accounted := by
  have hkeyed := center.service.keyed_step haccounted.keyed
    (event.number center.posed)
  by_cases hasked : (event.number center.posed).IsRequest
  · cases hrequest : (event.number center.posed).localRequest with
    | some request =>
        exact haccounted.afterRequest hrequest (hguard request hrequest)
          (localRequest_number hrequest)
    | none =>
        obtain ⟨code, hstep, hcode⟩ :=
          center.service.step_noLocalRequest hasked hrequest
        rw [step]
        simp only [hstep] at hkeyed ⊢
        exact haccounted.leaves
          (fun haccepts => hcode haccepts.1 haccepts.2) (Leaves.refl _) hkeyed
  · have hrefuses : ¬ ((event.number center.posed).IsSourceRequest ∧
        (center.service.step (event.number center.posed)).1.1 = errOk) :=
      fun haccepts => hasked (isRequest_of_isSourceRequest haccepts.1)
    by_cases hanswer : ∃ want missionId status answers,
        event.number center.posed =
          .startContinuation want missionId status answers
    · obtain ⟨want, missionId, status, answers, hevent⟩ := hanswer
      rw [step]
      simp only [hevent, ContinuationService.step] at hkeyed hrefuses ⊢
      exact haccounted.afterStart want missionId status answers hrefuses hkeyed
    · push Not at hanswer
      rcases center.service.step_cases hasked hanswer with
        hleaves | ⟨missionId, hcompletes⟩
      · exact haccounted.leaves hrefuses hleaves hkeyed
      · exact haccounted.completes hrefuses hcompletes hkeyed

theorem Accounted.refusalKeeps {center : MissionCenter}
    (haccounted : center.Accounted) (hguard : center.Guard event) : center.RefusalKeeps event := by
  intro hsource hrefused
  cases hrequest : (event.number center.posed).localRequest with
  | none =>
      obtain ⟨code, hstep, _⟩ := center.service.step_noLocalRequest
        (isRequest_of_isSourceRequest hsource) hrequest
      rw [step]
      simp only [hstep, after]
      exact SameMaps.refl _
  | some request =>
      have hstep := (center.service.step_localRequest hrequest).2
      rw [step] at hrefused ⊢
      simp only [hstep, after] at hrefused ⊢
      rcases (hguard request hrequest).outcome_cases haccounted.keyed with
        ⟨hcode, _⟩ | ⟨_, hsame, _⟩
      · exact absurd hcode hrefused
      · exact hsame

/-- Every request is answered as its result code says, in a run whose requests
are admitted. -/
theorem answeredOnce_run (events : List (ContinuationEvent RemoteObject))
    (hmeets : EventRun.Meets step Guard {} events) :
    (EventRun.run step {} events).2.AnsweredOnce ∧
      EventRun.Meets step RefusalKeeps {} events := by
  have hstep : ∀ center event, Accounted center → Guard center event →
      (step center event).2.Accounted :=
    fun _ _ haccounted hguard => haccounted.afterStep hguard
  constructor
  · exact (hmeets.invariant hstep accounted_initial).answeredOnce
  · exact hmeets.guarantee
      (fun _ _ haccounted hguard => haccounted.refusalKeeps hguard) hstep
      accounted_initial

def sampleAnswers : ContinueMissionAnswers where
  localDeviceId := some "source".toList
  getMissionInfo := (errOk,
    { bundleName := "bundle".toList, abilityName := "ability".toList })

def sampleRequest (missionId : Int32) (isFreeInstall : Bool) :
    ContinueMissionRequest RemoteObject where
  srcDeviceId := "source".toList
  dstDeviceId := "sink".toList
  missionId := missionId
  callback := some 7
  isFreeInstall := isFreeInstall

def sampleEvents : List (ContinuationEvent RemoteObject) :=
  [.continueMission (sampleRequest 1 false) sampleAnswers,
    .startContinuation { deviceId := "sink".toList } 1 errOk {},
    .notifyContinuationResultFromRemote 1 true,
    .continueMission (sampleRequest 2 true)
      { sampleAnswers with
          checkRemoteBundleInfo := fun _ =>
            (continueRemoteUninstalledSupportFreeInstall, 0)
          checkIfRemoteCanInstall := false },
    .continueMission (sampleRequest 1 false) sampleAnswers,
    .timeout 1]

theorem answeredOnce_sampleEvents :
    EventRun.Meets step Guard {} sampleEvents ∧
      (EventRun.run step {} sampleEvents).2.accepted = [0, 4] ∧
      (EventRun.run step {} sampleEvents).2.AnsweredOnce ∧
      EventRun.Meets step RefusalKeeps {} sampleEvents := by
  have hmeets : EventRun.Meets step Guard {} sampleEvents := by
    decide +kernel
  exact ⟨hmeets, by decide +kernel, answeredOnce_run sampleEvents hmeets⟩

def refusedEvents : List (ContinuationEvent RemoteObject) :=
  [.continueMission (sampleRequest 1 false)
      { sampleAnswers with continueAbility := errInvalidValue },
    .timeout 1]

theorem not_answeredOnce_refusedEvents :
    ¬ ((EventRun.run step {} refusedEvents).2.AnsweredOnce ∧
      EventRun.Meets step RefusalKeeps {} refusedEvents) := by
  rintro ⟨honce, _⟩
  have hrefused : 0 ∉ (EventRun.run step {} refusedEvents).2.accepted := by
    decide +kernel
  have hanswered : 0 ∈ (EventRun.run step {} refusedEvents).2.answered := by
    decide +kernel
  exact honce.refused 0 hrefused hanswered

end MissionCenter

end Dmsfwk
