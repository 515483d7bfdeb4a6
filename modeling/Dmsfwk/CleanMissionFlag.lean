import Dmsfwk.ContinuationMoves
import Dmsfwk.DistributedSchedService

/-!
# Who decides that the mission is removed

The wants of a continuation in progress are those of its own `StartContinuation`
calls.  The flag which `IsCleanMission` finds is one of theirs as long as no
earlier continuation of the mission has left a flag behind.
-/

namespace Dmsfwk

open SchedErr DSchedContinuation

/-- The device, and for every mission what `SUPPORT_CONTINUE_SOURCE_EXIT_KEY`
was in the wants of its current continuation. -/
structure SourceExits where
  service : ContinuationService RemoteObject := {}
  wants : Int32 → List (Option Bool) := fun _ => []

def LocalRequest.Registers {Callback : Type} (request : LocalRequest Callback)
    (continuation : DSchedContinuation Callback) : Prop :=
  match request.route continuation with
  | .refused _ => False
  | .continueAbility _ => True
  | .freeInstall => request.answers.checkIfRemoteCanInstall = true

instance {Callback : Type} (request : LocalRequest Callback)
    (continuation : DSchedContinuation Callback) :
    Decidable (request.Registers continuation) := by
  unfold LocalRequest.Registers
  split <;> infer_instance

namespace SourceExits

/-- The want of an accepted `StartContinuation` call for the mission. -/
def wantOf (missionId : Int32) :
    ContinuationEvent RemoteObject → List (Option Bool)
  | .startContinuation want started status _ =>
      if started = missionId ∧ status = errOk then
        [want.supportContinueSourceExit]
      else []
  | _ => []

/-- A mission which comes into progress, or leaves it, has no wants yet. -/
def step (exits : SourceExits) (event : ContinuationEvent RemoteObject) :
    List (ContinuationEffect RemoteObject) × SourceExits :=
  let next := exits.service.step event
  (next.1.2, {
    service := next.2
    wants := fun missionId =>
      if exits.service.continuation.isInContinuationProgress missionId =
          next.2.continuation.isInContinuationProgress missionId then
        exits.wants missionId ++ wantOf missionId event
      else [] })

/-- A mission is removed only when no want of its continuation declined. -/
def CleansOnlyUndeclined (exits : SourceExits)
    (event : ContinuationEvent RemoteObject) : Prop :=
  ∀ missionId, .cleanMission missionId ∈ (exits.step event).1 →
    some false ∉ exits.wants missionId

/-- What `IsCleanMission` finds was set by the continuation in progress. -/
def AnswersForCurrent (exits : SourceExits) : Prop :=
  ∀ missionId ∈ exits.service.continuation.callbackMap,
    ∀ flag ∈ exits.service.continuation.cleanMission[missionId]?,
      ∃ want ∈ exits.wants missionId, want.getD true = flag

/-- A registration finds no flag; a want which declines gets to
`SetCleanMissionFlag`, and finds no other flag there. -/
def Guard (exits : SourceExits) (event : ContinuationEvent RemoteObject) :
    Prop :=
  (∀ request ∈ event.localRequest,
    request.Registers exits.service.continuation →
      request.missionId ∉ exits.service.continuation.cleanMission) ∧
  match event with
  | .startContinuation want missionId status answers =>
      status = errOk → want.supportContinueSourceExit = some false →
        missionId ∈ exits.service.continuation.callbackMap →
          want.abilityContinuation = true ∧
          setWantForContinuation answers = errOk ∧
          exits.service.continuation.cleanMission[missionId]? ≠ some true
  | _ => True

instance (exits : SourceExits) (event : ContinuationEvent RemoteObject) :
    Decidable (exits.Guard event) := by
  cases event <;> unfold Guard <;> infer_instance

/-! ## The flag and the wants -/

structure Consistent (exits : SourceExits) : Prop where
  keyed : exits.service.continuation.Keyed
  own : exits.AnswersForCurrent
  heard : ∀ missionId ∈ exits.service.continuation.callbackMap,
    some false ∈ exits.wants missionId →
      exits.service.continuation.cleanMission[missionId]? = some false

theorem consistent_initial : ({} : SourceExits).Consistent := by
  constructor
  · exact keyed_initial
  · intro missionId hmem
    simp at hmem
  · intro missionId hmem
    simp at hmem

theorem Consistent.isCleanMission {exits : SourceExits}
    (hconsistent : exits.Consistent) {missionId : Int32}
    (hmem : missionId ∈ exits.service.continuation.callbackMap)
    (hclean : exits.service.continuation.isCleanMission missionId = true) :
    some false ∉ exits.wants missionId := by
  intro hdeclined
  rw [DSchedContinuation.isCleanMission,
    hconsistent.heard missionId hmem hdeclined] at hclean
  cases hclean

variable {event : ContinuationEvent RemoteObject}

theorem wants_step_of_iff {exits : SourceExits} {missionId : Int32}
    (hiff : missionId ∈ exits.service.continuation.callbackMap ↔
      missionId ∈ (exits.step event).2.service.continuation.callbackMap) :
    (exits.step event).2.wants missionId =
      exits.wants missionId ++ wantOf missionId event := by
  simp only [← isInContinuationProgress_iff, ← Bool.eq_iff_iff] at hiff
  exact if_pos hiff

theorem wants_step_of_new {exits : SourceExits} {missionId : Int32}
    (hnew : missionId ∉ exits.service.continuation.callbackMap)
    (hmem : missionId ∈
      (exits.step event).2.service.continuation.callbackMap) :
    (exits.step event).2.wants missionId = [] := by
  apply if_neg
  intro heq
  apply hnew
  rw [← isInContinuationProgress_iff] at hmem ⊢
  exact heq.trans hmem

/-- A mission in progress after the step has come into progress without a flag,
or it was in progress and keeps its flag and its wants. -/
theorem Consistent.after {exits : SourceExits} (hconsistent : exits.Consistent)
    (event : ContinuationEvent RemoteObject)
    (hcases : ∀ missionId ∈
      (exits.step event).2.service.continuation.callbackMap,
      (missionId ∉ exits.service.continuation.callbackMap ∧
        (exits.step event).2.service.continuation.cleanMission[missionId]? =
          none) ∨
      (missionId ∈ exits.service.continuation.callbackMap ∧
        wantOf missionId event = [] ∧
        (exits.step event).2.service.continuation.cleanMission[missionId]? =
          exits.service.continuation.cleanMission[missionId]?)) :
    (exits.step event).2.Consistent := by
  constructor
  · exact exits.service.keyed_step hconsistent.keyed event
  · intro missionId hmem flag hflag
    rcases hcases missionId hmem with ⟨_, hnone⟩ | ⟨hbefore, hwant, hsame⟩
    · rw [hnone] at hflag
      cases hflag
    · rw [hsame] at hflag
      rw [wants_step_of_iff (iff_of_true hbefore hmem), hwant, List.append_nil]
      exact hconsistent.own missionId hbefore flag hflag
  · intro missionId hmem hdeclined
    rcases hcases missionId hmem with ⟨hnew, _⟩ | ⟨hbefore, hwant, hsame⟩
    · rw [wants_step_of_new hnew hmem] at hdeclined
      cases hdeclined
    · rw [wants_step_of_iff (iff_of_true hbefore hmem), hwant,
        List.append_nil] at hdeclined
      rw [hsame]
      exact hconsistent.heard missionId hbefore hdeclined

theorem getElem?_setCleanMissionFlag {Callback : Type}
    (continuation : DSchedContinuation Callback) (missionId other : Int32)
    (flag : Bool) :
    (continuation.setCleanMissionFlag missionId flag).cleanMission[other]? =
      if missionId = other then
        some ((continuation.cleanMission[other]?).getD flag)
      else continuation.cleanMission[other]? := by
  cases hold : continuation.cleanMission[missionId]? with
  | none =>
      rw [setCleanMissionFlag, OrderedMap.getElem?_insertIfNew_eq hold]
      split
      next heq => rw [← heq, hold]; rfl
      · rfl
  | some old =>
      have hmem : missionId ∈ continuation.cleanMission :=
        (Std.TreeMap.getElem?_eq_some_iff.mp hold).1
      simp only [setCleanMissionFlag, Std.TreeMap.getElem?_insertIfNew, hmem,
        not_true_eq_false, and_false, if_false]
      split
      next heq => rw [← heq, hold]; rfl
      · rfl

/-- An accepted `StartContinuation` adds its want, and its flag where there was
none; a want that does not get to its flag has not declined. -/
structure Answered (exits after : SourceExits) (want : ContinuationWant)
    (missionId : Int32) : Prop where
  callbackMap : after.service.continuation.callbackMap =
    exits.service.continuation.callbackMap
  wants : ∀ other, after.wants other = exits.wants other ++
    if missionId = other then [want.supportContinueSourceExit] else []
  flags : ∀ other : Int32,
    (after.service.continuation.cleanMission[other]? =
        exits.service.continuation.cleanMission[other]? ∧
      (missionId = other →
        other ∈ exits.service.continuation.callbackMap →
          want.supportContinueSourceExit ≠ some false)) ∨
    (missionId = other ∧
      after.service.continuation.cleanMission[other]? =
        some ((exits.service.continuation.cleanMission[other]?).getD
          want.isCleanMission))

section Answers

variable {exits after : SourceExits} {want : ContinuationWant}
  {missionId : Int32} {answers : StartContinuationAnswers}

theorem answered_step
    (hguard : exits.Guard (.startContinuation want missionId errOk answers)) :
    Answered exits (exits.step
      (.startContinuation want missionId errOk answers)).2 want missionId := by
  obtain ⟨hne, _, _⟩ | ⟨_, _, armed, harmed, hnext⟩ :=
    exits.service.startContinuation_cases answers want missionId errOk
  · exact absurd rfl hne
  have hsame : armed.callbackMap = exits.service.continuation.callbackMap ∧
      armed.cleanMission = exits.service.continuation.cleanMission := by
    rcases harmed with rfl | rfl
    · exact ⟨rfl, rfl⟩
    · exact ⟨rfl, rfl⟩
  have hcallbacks : (exits.step
      (.startContinuation want missionId errOk
        answers)).2.service.continuation.callbackMap =
      exits.service.continuation.callbackMap := by
    rcases hnext with ⟨hnext, _⟩ | hnext
    · exact (congrArg DSchedContinuation.callbackMap hnext).trans hsame.1
    · exact (congrArg DSchedContinuation.callbackMap hnext).trans hsame.1
  constructor
  case callbackMap => exact hcallbacks
  case wants =>
    intro other
    rw [wants_step_of_iff (by rw [hcallbacks])]
    simp [wantOf]
  case flags =>
    intro other
    rcases hnext with ⟨hnext, hunset⟩ | hnext
    · left
      refine ⟨?_, ?_⟩
      · simp only [step, ContinuationService.step, hnext, hsame.2]
      · rintro rfl hmem hdeclined
        obtain ⟨hflag, hset, _⟩ := hguard.2 rfl hdeclined hmem
        rcases hunset with hunset | hunset
        · rw [hflag] at hunset
          cases hunset
        · exact hunset hset
    · simp only [step, ContinuationService.step, hnext,
        getElem?_setCleanMissionFlag, hsame.2]
      by_cases heq : missionId = other
      · right
        exact ⟨heq, if_pos heq⟩
      · left
        exact ⟨if_neg heq, fun h => absurd h heq⟩

theorem Consistent.own_answered (hconsistent : exits.Consistent)
    (hanswered : Answered exits after want missionId) :
    after.AnswersForCurrent := by
  intro other hmem flag hflag
  rw [hanswered.callbackMap] at hmem
  rw [hanswered.wants]
  rcases hanswered.flags other with ⟨hkept, _⟩ | ⟨rfl, hset⟩
  · rw [hkept] at hflag
    obtain ⟨found, hfound, hvalue⟩ := hconsistent.own other hmem flag hflag
    exact ⟨found, List.mem_append_left _ hfound, hvalue⟩
  · rw [hset, Option.mem_some_iff] at hflag
    cases hold : exits.service.continuation.cleanMission[missionId]? with
    | none =>
        rw [hold, Option.getD_none] at hflag
        rw [if_pos rfl]
        exact ⟨want.supportContinueSourceExit,
          List.mem_append_right _ (List.mem_singleton_self _), hflag⟩
    | some old =>
        rw [hold, Option.getD_some] at hflag
        obtain ⟨found, hfound, hvalue⟩ :=
          hconsistent.own missionId hmem old hold
        exact ⟨found, List.mem_append_left _ hfound, hvalue.trans hflag⟩

/-- A flag that was set is not changed, so that a want which declines is heard
where no other flag was set before it. -/
theorem Consistent.heard_answered (hconsistent : exits.Consistent)
    (hanswered : Answered exits after want missionId)
    (hfirst : want.supportContinueSourceExit = some false →
      missionId ∈ exits.service.continuation.callbackMap →
        exits.service.continuation.cleanMission[missionId]? ≠ some true)
    {other : Int32} (hmem : other ∈ exits.service.continuation.callbackMap)
    (hdeclined : some false ∈ after.wants other) :
    after.service.continuation.cleanMission[other]? = some false := by
  rw [hanswered.wants, List.mem_append] at hdeclined
  rcases hanswered.flags other with ⟨hkept, hunset⟩ | ⟨rfl, hset⟩
  · rw [hkept]
    rcases hdeclined with hdeclined | hdeclined
    · exact hconsistent.heard other hmem hdeclined
    · split at hdeclined
      next heq =>
        exact absurd (List.mem_singleton.mp hdeclined).symm (hunset heq hmem)
      · cases hdeclined
  · rw [hset]
    rcases hdeclined with hdeclined | hdeclined
    · rw [hconsistent.heard missionId hmem hdeclined]
      rfl
    · rw [if_pos rfl, List.mem_singleton] at hdeclined
      have hfound := hfirst hdeclined.symm hmem
      rw [ContinuationWant.isCleanMission, ← hdeclined]
      cases hold : exits.service.continuation.cleanMission[missionId]? with
      | none => rfl
      | some old =>
          rw [hold] at hfound
          cases old with
          | false => rfl
          | true => exact absurd rfl hfound

theorem Consistent.afterAnswer (hconsistent : exits.Consistent)
    (hguard : exits.Guard (.startContinuation want missionId errOk answers)) :
    (exits.step
      (.startContinuation want missionId errOk answers)).2.Consistent := by
  have hanswered := answered_step hguard
  constructor
  case keyed =>
    exact exits.service.keyed_step hconsistent.keyed
      (.startContinuation want missionId errOk answers)
  case own => exact hconsistent.own_answered hanswered
  case heard =>
    intro other hmem hdeclined
    rw [hanswered.callbackMap] at hmem
    apply hconsistent.heard_answered hanswered _ hmem hdeclined
    intro hwant hprogress
    exact (hguard.2 rfl hwant hprogress).2.2

end Answers

theorem Consistent.completes {exits : SourceExits} (hconsistent : exits.Consistent)
    {missionId : Int32}
    (hcompletes : Completes missionId exits.service.continuation
      (exits.service.step event).1.2 (exits.service.step event).2.continuation)
    (hwant : ∀ other, wantOf other event = []) :
    (exits.step event).2.Consistent := by
  apply hconsistent.after event
  intro other hmem
  right
  have hsome := Std.TreeMap.mem_iff_isSome_getElem?.mp hmem
  have hcallback := hcompletes.callbackMap other
  rw [step] at hsome
  simp only [hcallback] at hsome
  split at hsome
  · cases hsome
  next hne =>
    exact ⟨Std.TreeMap.mem_iff_isSome_getElem?.mpr hsome, hwant other,
      hcompletes.cleanMission other hne⟩

theorem Consistent.leaves {exits : SourceExits} (hconsistent : exits.Consistent)
    (hleaves : Leaves exits.service.continuation (exits.service.step event).1.2
      (exits.service.step event).2.continuation)
    (hwant : ∀ other, wantOf other event = []) :
    (exits.step event).2.Consistent := by
  apply hconsistent.after event
  intro other hmem
  right
  simp only [step, hleaves.callbackMap] at hmem
  refine ⟨hmem, hwant other, ?_⟩
  simp only [step, hleaves.cleanMission]

section Waiting

variable {continuation : DSchedContinuation RemoteObject}
  {request : LocalRequest RemoteObject} {isFreeInstall : Bool} {other : Int32}

theorem mem_register
    (hmem : other ∈ (continuation.register request.missionId request.callback
      request.dstDeviceId isFreeInstall).callbackMap)
    (hnew : request.missionId ∉ continuation.callbackMap)
    (hflag : request.missionId ∉ continuation.cleanMission) :
    (other ∉ continuation.callbackMap ∧
      continuation.cleanMission[other]? = none) ∨
    other ∈ continuation.callbackMap := by
  simp only [DSchedContinuation.register, Std.TreeMap.mem_insert,
    Std.compare_eq_iff_eq] at hmem
  rcases hmem with rfl | hmem
  · exact .inl ⟨hnew, Std.TreeMap.getElem?_eq_none hflag⟩
  · exact .inr hmem

theorem mem_withdraw_register
    (hmem : other ∈ ((continuation.register request.missionId request.callback
      request.dstDeviceId isFreeInstall).withdraw
        request.missionId).callbackMap) :
    other ∈ continuation.callbackMap ∧
      ((continuation.register request.missionId request.callback
        request.dstDeviceId isFreeInstall).withdraw
          request.missionId).cleanMission[other]? =
        continuation.cleanMission[other]? := by
  rw [Std.TreeMap.mem_iff_isSome_getElem?, withdraw, getElem?_popCallback]
    at hmem
  split at hmem
  · cases hmem
  next hne =>
    simp only [removeTimeOut, DSchedContinuation.register] at hmem
    rw [OrderedMap.getElem?_insert_eq, if_neg (Ne.symm hne),
      ← Std.TreeMap.mem_iff_isSome_getElem?] at hmem
    exact ⟨hmem, getElem?_cleanMission_popCallback _ hne⟩

end Waiting

theorem Consistent.afterRequest {exits : SourceExits}
    (hconsistent : exits.Consistent) {request : LocalRequest RemoteObject}
    (hrequest : event.localRequest = some request)
    (hguard : request.Registers exits.service.continuation →
      request.missionId ∉ exits.service.continuation.cleanMission)
    (hwant : ∀ other, wantOf other event = []) :
    (exits.step event).2.Consistent := by
  apply hconsistent.after event
  have hstep := (exits.service.step_localRequest hrequest).2
  have hnew : (∀ code,
      request.route exits.service.continuation ≠ .refused code) →
      request.missionId ∉ exits.service.continuation.callbackMap := by
    intro hroute
    rw [← isInContinuationProgress_iff, not_inProgress_of_route hroute]
    exact Bool.false_ne_true
  intro other hmem
  simp only [step, hstep, LocalRequest.outcome] at hmem ⊢
  unfold LocalRequest.Registers at hguard
  cases hroute : request.route exits.service.continuation with
  | refused code =>
      simp only [hroute, follow] at hmem
      exact Or.inr ⟨hmem, hwant other, by rfl⟩
  | continueAbility versionCode =>
      have hnew := hnew (by simp [hroute])
      simp only [hroute, follow, forall_const] at hmem hguard ⊢
      rcases mem_register hmem hnew hguard with hadded | hbefore
      · exact .inl hadded
      · exact .inr ⟨hbefore, hwant other, rfl⟩
  | freeInstall =>
      have hnew := hnew (by simp [hroute])
      simp only [hroute, follow] at hmem hguard ⊢
      split at hmem
      next hcannot =>
        rw [if_pos hcannot]
        obtain ⟨hbefore, hflag⟩ := mem_withdraw_register hmem
        exact .inr ⟨hbefore, hwant other, hflag⟩
      next hcan =>
        rw [if_neg hcan]
        rcases mem_register hmem hnew (hguard (by simpa using hcan)) with
          hadded | hbefore
        · exact .inl hadded
        · exact .inr ⟨hbefore, hwant other, rfl⟩

theorem not_cleans_outcome (request : LocalRequest RemoteObject)
    (continuation : DSchedContinuation RemoteObject) (missionId : Int32) :
    .cleanMission missionId ∉ (request.outcome continuation).1.2 := by
  intro hmem
  simp only [LocalRequest.outcome] at hmem
  cases hroute : request.route continuation with
  | refused code => simp [hroute, follow] at hmem
  | continueAbility versionCode => simp [hroute, follow] at hmem
  | freeInstall =>
      simp only [hroute, follow] at hmem
      split at hmem <;> simp at hmem

theorem Consistent.afterAsked {exits : SourceExits}
    (hconsistent : exits.Consistent) (hasked : event.IsRequest)
    (hguard : exits.Guard event) :
    (exits.step event).2.Consistent ∧ exits.CleansOnlyUndeclined event := by
  have hwant : ∀ other, wantOf other event = [] := by
    intro other
    cases event <;> first | rfl | exact hasked.elim
  cases hrequest : event.localRequest with
  | none =>
      obtain ⟨code, hstep, _⟩ :=
        exits.service.step_noLocalRequest hasked hrequest
      constructor
      · apply hconsistent.leaves _ hwant
        rw [hstep]
        exact Leaves.refl _
      · intro missionId hmem
        simp only [step, hstep] at hmem
        cases hmem
  | some request =>
      constructor
      · exact hconsistent.afterRequest hrequest (hguard.1 request hrequest)
          hwant
      · intro missionId hmem
        simp only [step, (exits.service.step_localRequest hrequest).2] at hmem
        exact absurd hmem (not_cleans_outcome request _ missionId)

theorem cleansOnlyUndeclined_answer {exits : SourceExits}
    (want : ContinuationWant) (missionId : Int32)
    (answers : StartContinuationAnswers) :
    exits.CleansOnlyUndeclined
      (.startContinuation want missionId errOk answers) := by
  intro other hmem
  obtain ⟨hne, _, _⟩ | ⟨_, heffects, _⟩ :=
    exits.service.startContinuation_cases answers want missionId errOk
  · exact absurd rfl hne
  · simp only [step, ContinuationService.step, heffects] at hmem
    cases hmem

theorem moves_other {exits : SourceExits}
    {event : ContinuationEvent RemoteObject} (hasked : ¬ event.IsRequest)
    (hanswer : ¬ ∃ want missionId answers,
      event = .startContinuation want missionId errOk answers) :
    Leaves exits.service.continuation (exits.service.step event).1.2
        (exits.service.step event).2.continuation ∨
      ∃ missionId, Completes missionId exits.service.continuation
        (exits.service.step event).1.2
        (exits.service.step event).2.continuation := by
  by_cases hstart : ∃ want missionId status answers,
      event = .startContinuation want missionId status answers
  · obtain ⟨want, missionId, status, answers, rfl⟩ := hstart
    right
    obtain ⟨_, heffects, hnext⟩ | ⟨heq, _⟩ :=
      exits.service.startContinuation_cases answers want missionId status
    · refine ⟨missionId, ?_⟩
      simp only [ContinuationService.step, heffects, hnext]
      exact completes_notifyContinuationCallbackResult _ missionId status
    · exact absurd ⟨want, missionId, answers, by rw [heq]⟩ hanswer
  · push Not at hstart
    exact exits.service.step_cases hasked hstart

theorem Consistent.afterOther {exits : SourceExits}
    (hconsistent : exits.Consistent) (hasked : ¬ event.IsRequest)
    (hanswer : ¬ ∃ want missionId answers,
      event = .startContinuation want missionId errOk answers) :
    (exits.step event).2.Consistent ∧ exits.CleansOnlyUndeclined event := by
  have hwant : ∀ other, wantOf other event = [] := by
    intro other
    cases event with
    | startContinuation want missionId status answers =>
        apply if_neg
        rintro ⟨_, rfl⟩
        exact hanswer ⟨want, missionId, answers, rfl⟩
    | continueMission | continueMissionOfBundleName
    | notifyContinuationResultFromRemote | onQueryInstallationFinished
    | notifyCompleteFreeInstallFromRemote | notifyDeviceOffline
    | timeout => rfl
  rcases @moves_other exits event hasked hanswer with
    hleaves | ⟨missionId, hcompletes⟩
  · refine ⟨hconsistent.leaves hleaves hwant, ?_⟩
    intro other hmem
    exact absurd hmem (hleaves.cleans other)
  · refine ⟨hconsistent.completes hcompletes hwant, ?_⟩
    intro other hmem
    obtain ⟨rfl, hprogress, hclean⟩ := hcompletes.cleans other hmem
    exact hconsistent.isCleanMission hprogress hclean

theorem Consistent.afterStep {exits : SourceExits} (hconsistent : exits.Consistent)
    (hguard : exits.Guard event) :
    (exits.step event).2.Consistent ∧ exits.CleansOnlyUndeclined event := by
  by_cases hasked : event.IsRequest
  · exact hconsistent.afterAsked hasked hguard
  by_cases hanswer : ∃ want missionId answers,
      event = .startContinuation want missionId errOk answers
  · obtain ⟨want, missionId, answers, rfl⟩ := hanswer
    exact ⟨hconsistent.afterAnswer hguard,
      cleansOnlyUndeclined_answer want missionId answers⟩
  · exact hconsistent.afterOther hasked hanswer

/-- In a run whose registrations find no flag, a mission is removed only when
its own continuation has not declined. -/
theorem cleansOnlyUndeclined_run
    (events : List (ContinuationEvent RemoteObject))
    (hmeets : EventRun.Meets step Guard {} events) :
    EventRun.Meets step CleansOnlyUndeclined {} events ∧
      (EventRun.run step {} events).2.AnswersForCurrent := by
  have hstep : ∀ exits event, Consistent exits → Guard exits event →
      (step exits event).2.Consistent :=
    fun _ _ hconsistent hguard => (hconsistent.afterStep hguard).1
  constructor
  · exact hmeets.guarantee
      (fun _ _ hconsistent hguard => (hconsistent.afterStep hguard).2) hstep
      consistent_initial
  · exact (hmeets.invariant hstep consistent_initial).own

def sampleAnswers : ContinueMissionAnswers where
  localDeviceId := some "source".toList
  getMissionInfo := (errOk,
    { bundleName := "bundle".toList, abilityName := "ability".toList })

def sampleRequest : ContinuationEvent RemoteObject :=
  .continueMission {
    srcDeviceId := "source".toList
    dstDeviceId := "sink".toList
    missionId := 1
    callback := some 7 } sampleAnswers

def startOf (supportContinueSourceExit : Option Bool) :
    ContinuationEvent RemoteObject :=
  .startContinuation {
    deviceId := "sink".toList
    supportContinueSourceExit := supportContinueSourceExit } 1 errOk {}

def sampleEvents : List (ContinuationEvent RemoteObject) :=
  [sampleRequest, startOf (some false),
    .notifyContinuationResultFromRemote 1 true,
    sampleRequest, startOf none, .notifyContinuationResultFromRemote 1 true]

theorem cleansOnlyUndeclined_sampleEvents :
    EventRun.Meets step Guard {} sampleEvents ∧
      (EventRun.run step {} sampleEvents).1.flatten =
        [.continueAbility "sink".toList 1 0, .missionCenterResult 7 errOk,
          .continueAbility "sink".toList 1 0, .cleanMission 1,
          .missionCenterResult 7 errOk] ∧
      EventRun.Meets step CleansOnlyUndeclined {} sampleEvents ∧
      (EventRun.run step {} sampleEvents).2.AnswersForCurrent := by
  have hmeets : EventRun.Meets step Guard {} sampleEvents := by
    decide +kernel
  exact ⟨hmeets, by decide +kernel, cleansOnlyUndeclined_run sampleEvents hmeets⟩

/-- The application continues by itself and may exit; the next time the mission
center continues it, and it declines to exit. -/
def staleFlagEvents : List (ContinuationEvent RemoteObject) :=
  [startOf (some true), .notifyContinuationResultFromRemote 1 true,
    sampleRequest, startOf (some false)]

theorem not_cleansOnlyUndeclined_staleFlagEvents :
    ¬ EventRun.Meets step CleansOnlyUndeclined {}
      (staleFlagEvents ++ [.notifyContinuationResultFromRemote 1 true]) := by
  intro hmeets
  have hdeclined : some false ∈
      (EventRun.run step {} staleFlagEvents).2.wants 1 := by
    decide +kernel
  have hcleans : .cleanMission 1 ∈
      ((EventRun.run step {} staleFlagEvents).2.step
        (.notifyContinuationResultFromRemote 1 true)).1 := by
    decide +kernel
  exact hmeets.last 1 hcleans hdeclined

end SourceExits

end Dmsfwk
