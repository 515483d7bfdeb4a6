import Dmsfwk.DSchedContinuation

/-!
# Arbitration of connections

A call of `ApplyAdvanceResource` queues its peer, asks the service, and waits for
a decision on that peer; the answers of the service go to the peers in the order
of the queue.  The calls are numbered here, so that an answer can be compared
with the call it was given for.
-/

namespace Dmsfwk

open SchedErr

namespace SchedErr

def dmsConnectApplyRejectFailed : Int32 := 29360231

def dmsConnectApplyTimeoutFailed : Int32 := 29360232

end SchedErr

structure DSchedAllConnectManager where
  /-- Whether the function of the service is loaded. -/
  applyAdvancedResource : Bool := true
  peerConnectCbQueue : List Text := []
  peerConnectDecision : Std.TreeMap Text Bool := ∅

namespace DSchedAllConnectManager

def pushPeer (peerNetworkId : Text) (mgr : DSchedAllConnectManager) :
    DSchedAllConnectManager :=
  { mgr with peerConnectCbQueue := mgr.peerConnectCbQueue ++ [peerNetworkId] }

def notifyAllConnectDecision (peerNetworkId : Text) (isSupport : Bool)
    (mgr : DSchedAllConnectManager) : DSchedAllConnectManager :=
  { mgr with
      peerConnectDecision :=
        mgr.peerConnectDecision.insert peerNetworkId isSupport }

def applyResult (isSupport : Bool) (mgr : DSchedAllConnectManager) :
    DSchedAllConnectManager :=
  match mgr.peerConnectCbQueue with
  | [] => mgr
  | peerNetworkId :: rest =>
      { mgr.notifyAllConnectDecision peerNetworkId isSupport with
          peerConnectCbQueue := rest }

def waitAllConnectApplyCb (peerNetworkId : Text)
    (mgr : DSchedAllConnectManager) : Int32 × DSchedAllConnectManager :=
  match mgr.peerConnectDecision[peerNetworkId]? with
  | none => (dmsConnectApplyTimeoutFailed, mgr)
  | some isSupport =>
      (if isSupport then errOk else dmsConnectApplyRejectFailed,
        { mgr with
            peerConnectDecision :=
              mgr.peerConnectDecision.erase peerNetworkId })

def decisionCode : Option Bool → Int32
  | none => dmsConnectApplyTimeoutFailed
  | some true => errOk
  | some false => dmsConnectApplyRejectFailed

theorem waitAllConnectApplyCb_fst (mgr : DSchedAllConnectManager)
    (peerNetworkId : Text) :
    (mgr.waitAllConnectApplyCb peerNetworkId).1 =
      decisionCode mgr.peerConnectDecision[peerNetworkId]? := by
  unfold waitAllConnectApplyCb
  rcases mgr.peerConnectDecision[peerNetworkId]? with _ | _ | _ <;> rfl

end DSchedAllConnectManager

structure ApplyCall where
  number : ℕ
  peerNetworkId : Text
  deriving DecidableEq, Repr

structure ApplyReturn where
  number : ℕ
  ret : Int32
  result : Option Bool
  deriving DecidableEq, Repr

inductive ArbitrationEvent where
  | apply (peerNetworkId : Text)
  /-- The service returns from `ApplyAdvancedResource`. -/
  | submit (ret : Int32)
  /-- The service answers the oldest call that it accepted. -/
  | applyResult (isPass : Bool)
  /-- The wait of a call is over. -/
  | wake (number : ℕ)

structure Arbitration where
  mgr : DSchedAllConnectManager := {}
  /-- The number of the next call. -/
  next : ℕ := 0
  /-- The call which holds `allConnectMgrLock_`. -/
  applying : Option ApplyCall := none
  waiting : List ApplyCall := []
  /-- The calls which the service accepted and has not answered, oldest
  first. -/
  pending : List ApplyCall := []
  delivered : ℕ → Option Bool := fun _ => none
  returned : List ApplyReturn := []

namespace Arbitration

def returns (call : ApplyCall) (ret : Int32) (arbitration : Arbitration) :
    Arbitration :=
  { arbitration with
      returned := arbitration.returned ++
        [{ number := call.number, ret := ret,
           result := arbitration.delivered call.number }] }

def apply (peerNetworkId : Text) (arbitration : Arbitration) : Arbitration :=
  let call : ApplyCall :=
    { number := arbitration.next, peerNetworkId := peerNetworkId }
  let counted := { arbitration with next := arbitration.next + 1 }
  if arbitration.mgr.applyAdvancedResource = false then
    counted.returns call errOk
  else
    { counted with
        mgr := arbitration.mgr.pushPeer peerNetworkId
        applying := some call }

/-- A call which the service refuses returns; its peer stays in the queue. -/
def submit (call : ApplyCall) (ret : Int32) (arbitration : Arbitration) :
    Arbitration :=
  let unlocked := { arbitration with applying := none }
  if ret ≠ errOk then unlocked.returns call ret
  else
    { unlocked with
        waiting := arbitration.waiting ++ [call]
        pending := arbitration.pending ++ [call] }

def answer (call : ApplyCall) (rest : List ApplyCall) (isPass : Bool)
    (arbitration : Arbitration) : Arbitration :=
  { arbitration with
      mgr := arbitration.mgr.applyResult isPass
      pending := rest
      delivered :=
        Function.update arbitration.delivered call.number (some isPass) }

def wake (call : ApplyCall) (arbitration : Arbitration) : Arbitration :=
  let waited :=
    arbitration.mgr.waitAllConnectApplyCb call.peerNetworkId
  { arbitration.returns call waited.1 with
      mgr := waited.2
      waiting := arbitration.waiting.filter (· ≠ call) }

/-- An event which cannot happen in the state leaves it. -/
def step (arbitration : Arbitration) :
    ArbitrationEvent → Unit × Arbitration
  | .apply peerNetworkId =>
      ((), match arbitration.applying with
        | some _ => arbitration
        | none => arbitration.apply peerNetworkId)
  | .submit ret =>
      ((), match arbitration.applying with
        | none => arbitration
        | some call => arbitration.submit call ret)
  | .applyResult isPass =>
      ((), match arbitration.pending with
        | [] => arbitration
        | call :: rest => arbitration.answer call rest isPass)
  | .wake number =>
      ((), match arbitration.waiting.find? (·.number = number) with
        | none => arbitration
        | some call => arbitration.wake call)

/-- Every call returned what was delivered for it, or a time-out when nothing
was. -/
def OwnAnswers (arbitration : Arbitration) : Prop :=
  ∀ call ∈ arbitration.returned,
    (call.ret = errOk → call.result = some true) ∧
    (call.ret = dmsConnectApplyRejectFailed → call.result = some false) ∧
    (call.ret = dmsConnectApplyTimeoutFailed → call.result = none)

instance : DecidablePred OwnAnswers := by
  intro arbitration
  unfold OwnAnswers
  infer_instance

/-- A call comes while its peer has no other call and no decision, and an answer
finds the peer of its call at the front of the queue. -/
def Guard (arbitration : Arbitration) : ArbitrationEvent → Prop
  | .apply peerNetworkId =>
      arbitration.applying = none →
        arbitration.mgr.applyAdvancedResource = true ∧
        (∀ call ∈ arbitration.waiting, call.peerNetworkId ≠ peerNetworkId) ∧
        (∀ call ∈ arbitration.pending, call.peerNetworkId ≠ peerNetworkId) ∧
        peerNetworkId ∉ arbitration.mgr.peerConnectDecision
  | .submit ret => ret ≠ dmsConnectApplyRejectFailed
  | .applyResult _ =>
      ∀ call ∈ arbitration.pending.head?,
        arbitration.mgr.peerConnectCbQueue.head? = some call.peerNetworkId
  | .wake _ => True

instance (arbitration : Arbitration) (event : ArbitrationEvent) :
    Decidable (arbitration.Guard event) := by
  cases event <;> unfold Guard <;> infer_instance

/-! ## Calls and decisions -/

def Active (arbitration : Arbitration) (call : ApplyCall) : Prop :=
  call ∈ arbitration.applying ∨ call ∈ arbitration.waiting ∨
    call ∈ arbitration.pending

structure Matched (arbitration : Arbitration) : Prop where
  counted : ∀ call, arbitration.Active call → call.number < arbitration.next
  undelivered : ∀ number, arbitration.next ≤ number →
    arbitration.delivered number = none
  distinct : ∀ call other, arbitration.Active call → arbitration.Active other →
    call.number = other.number ∨ call.peerNetworkId = other.peerNetworkId →
      call = other
  applying : ∀ call ∈ arbitration.applying, call ∉ arbitration.waiting ∧
    call ∉ arbitration.pending ∧
    call.peerNetworkId ∉ arbitration.mgr.peerConnectDecision ∧
    arbitration.delivered call.number = none
  pending : ∀ call ∈ arbitration.pending,
    arbitration.delivered call.number = none
  once : arbitration.pending.Nodup
  waiting : ∀ call ∈ arbitration.waiting,
    arbitration.mgr.peerConnectDecision[call.peerNetworkId]? =
      arbitration.delivered call.number
  own : arbitration.OwnAnswers

theorem matched_initial (mgr : DSchedAllConnectManager) :
    ({ mgr := mgr } : Arbitration).Matched := by
  constructor
  · rintro call (hcall | hcall | hcall) <;> cases hcall
  · intro number _
    rfl
  · rintro call other (hcall | hcall | hcall) <;> cases hcall
  · intro call hcall
    cases hcall
  · intro call hcall
    cases hcall
  · exact List.nodup_nil
  · intro call hcall
    cases hcall
  · intro call hcall
    cases hcall

variable {arbitration : Arbitration}

theorem Matched.differ (hmatched : arbitration.Matched) {call other : ApplyCall}
    (hcall : arbitration.Active call) (hother : arbitration.Active other)
    (hne : other ≠ call) :
    other.number ≠ call.number ∧ call.peerNetworkId ≠ other.peerNetworkId := by
  constructor
  · intro heq
    exact hne (hmatched.distinct other call hother hcall (Or.inl heq))
  · intro heq
    exact hne (hmatched.distinct other call hother hcall (Or.inr heq.symm))

theorem peerConnectDecision_applyResult {mgr : DSchedAllConnectManager}
    {peerNetworkId : Text}
    (hfront : mgr.peerConnectCbQueue.head? = some peerNetworkId)
    (isPass : Bool) :
    (mgr.applyResult isPass).peerConnectDecision =
      mgr.peerConnectDecision.insert peerNetworkId isPass := by
  cases hqueue : mgr.peerConnectCbQueue with
  | nil =>
      rw [hqueue] at hfront
      cases hfront
  | cons front queue =>
      rw [hqueue, List.head?_cons, Option.some_inj] at hfront
      simp [DSchedAllConnectManager.applyResult, hqueue, hfront,
        DSchedAllConnectManager.notifyAllConnectDecision]

theorem getElem?_waitAllConnectApplyCb (mgr : DSchedAllConnectManager)
    {peerNetworkId other : Text} (hne : peerNetworkId ≠ other) :
    (mgr.waitAllConnectApplyCb peerNetworkId).2.peerConnectDecision[other]? =
      mgr.peerConnectDecision[other]? := by
  unfold DSchedAllConnectManager.waitAllConnectApplyCb
  split
  · rfl
  · simp only []
    rw [OrderedMap.getElem?_erase_eq, if_neg hne]

theorem Matched.afterApply (hmatched : arbitration.Matched)
    (happlying : arbitration.applying = none) {peerNetworkId : Text}
    (hguard : arbitration.Guard (.apply peerNetworkId)) :
    (arbitration.apply peerNetworkId).Matched := by
  obtain ⟨hapi, hwaiting, hpending, hdecision⟩ := hguard happlying
  have hstep : arbitration.apply peerNetworkId =
      { arbitration with
          next := arbitration.next + 1
          mgr := arbitration.mgr.pushPeer peerNetworkId
          applying := some ⟨arbitration.next, peerNetworkId⟩ } := by
    simp [apply, hapi]
  rw [hstep]
  -- the calls there were have smaller numbers and other peers
  have hold : ∀ call, call ∈ arbitration.waiting ∨
      call ∈ arbitration.pending →
      call.number < arbitration.next ∧ call.peerNetworkId ≠ peerNetworkId := by
    rintro call (hcall | hcall)
    · exact ⟨hmatched.counted call (Or.inr (Or.inl hcall)),
        hwaiting call hcall⟩
    · exact ⟨hmatched.counted call (Or.inr (Or.inr hcall)),
        hpending call hcall⟩
  constructor
  case counted =>
    rintro call (hcall | hcall)
    · obtain rfl := Option.mem_some_iff.mp hcall
      exact Nat.lt_succ_self _
    · exact Nat.lt_succ_of_lt (hold call hcall).1
  case undelivered =>
    intro number hle
    exact hmatched.undelivered number (Nat.le_of_succ_le hle)
  case distinct =>
    rintro call other (hcall | hcall) (hother | hother) heq
    · exact (Option.mem_some_iff.mp hcall).symm.trans
        (Option.mem_some_iff.mp hother)
    · obtain rfl := Option.mem_some_iff.mp hcall
      obtain ⟨hlt, hne⟩ := hold other hother
      rcases heq with heq | heq
      · exact absurd heq (Nat.ne_of_gt hlt)
      · exact absurd heq.symm hne
    · obtain rfl := Option.mem_some_iff.mp hother
      obtain ⟨hlt, hne⟩ := hold call hcall
      rcases heq with heq | heq
      · exact absurd heq (Nat.ne_of_lt hlt)
      · exact absurd heq hne
    · exact hmatched.distinct call other (Or.inr hcall) (Or.inr hother) heq
  case applying =>
    intro call hcall
    obtain rfl := Option.mem_some_iff.mp hcall
    refine ⟨?_, ?_, hdecision, hmatched.undelivered _ (Nat.le_refl _)⟩
    · intro hmem
      exact hwaiting _ hmem rfl
    · intro hmem
      exact hpending _ hmem rfl
  case pending => exact hmatched.pending
  case once => exact hmatched.once
  case waiting => exact hmatched.waiting
  case own => exact hmatched.own

theorem OwnAnswers.returns (hown : arbitration.OwnAnswers) {call : ApplyCall}
    {ret : Int32}
    (hpassed : ret = errOk → arbitration.delivered call.number = some true)
    (hrejected : ret = dmsConnectApplyRejectFailed →
      arbitration.delivered call.number = some false)
    (hexpired : ret = dmsConnectApplyTimeoutFailed →
      arbitration.delivered call.number = none) :
    (arbitration.returns call ret).OwnAnswers := by
  intro returned hreturned
  rcases List.mem_append.mp hreturned with hreturned | hreturned
  · exact hown returned hreturned
  · obtain rfl := List.mem_singleton.mp hreturned
    exact ⟨hpassed, hrejected, hexpired⟩

section Matched

variable (hmatched : arbitration.Matched) {call : ApplyCall}

include hmatched

theorem Matched.afterRefusal (happlying : arbitration.applying = some call)
    {ret : Int32} (hret : ret ≠ errOk) (hguard : ret ≠ dmsConnectApplyRejectFailed) :
    (returns call ret { arbitration with applying := none }).Matched := by
  obtain ⟨-, -, -, hnone⟩ := hmatched.applying call happlying
  constructor
  case counted =>
    rintro other (hother | hother)
    · cases hother
    · exact hmatched.counted other (Or.inr hother)
  case undelivered => exact hmatched.undelivered
  case distinct =>
    rintro first other (hfirst | hfirst) (hother | hother)
    · cases hfirst
    · cases hfirst
    · cases hother
    · exact hmatched.distinct first other (Or.inr hfirst) (Or.inr hother)
  case applying =>
    intro other hother
    cases hother
  case pending => exact hmatched.pending
  case once => exact hmatched.once
  case waiting => exact hmatched.waiting
  case own =>
    refine @OwnAnswers.returns { arbitration with applying := none }
      hmatched.own call ret ?_ ?_ ?_
    · exact fun heq => absurd heq hret
    · exact fun heq => absurd heq hguard
    · exact fun _ => hnone

theorem Matched.afterAcceptance (happlying : arbitration.applying = some call) :
    Matched { arbitration with
      applying := none
      waiting := arbitration.waiting ++ [call]
      pending := arbitration.pending ++ [call] } := by
  have hactive : arbitration.Active call := Or.inl happlying
  obtain ⟨hnotWaiting, hnotPending, hdecision, hnone⟩ :=
    hmatched.applying call happlying
  have hcalls : ∀ other, (other ∈ arbitration.waiting ++ [call] ∨
      other ∈ arbitration.pending ++ [call]) → arbitration.Active other := by
    intro other hother
    simp only [List.mem_append, List.mem_singleton] at hother
    rcases hother with (hother | rfl) | (hother | rfl)
    · exact Or.inr (Or.inl hother)
    · exact hactive
    · exact Or.inr (Or.inr hother)
    · exact hactive
  constructor
  case counted =>
    rintro other (hother | hother)
    · cases hother
    · exact hmatched.counted other (hcalls other hother)
  case undelivered => exact hmatched.undelivered
  case distinct =>
    rintro first other (hfirst | hfirst) (hother | hother)
    · cases hfirst
    · cases hfirst
    · cases hother
    · exact hmatched.distinct first other (hcalls first hfirst)
        (hcalls other hother)
  case applying =>
    intro other hother
    cases hother
  case pending =>
    intro other hother
    rcases List.mem_append.mp hother with hother | hother
    · exact hmatched.pending other hother
    · obtain rfl := List.mem_singleton.mp hother
      exact hnone
  case once =>
    apply List.Nodup.append hmatched.once (List.nodup_singleton call)
    exact List.disjoint_singleton.mpr hnotPending
  case waiting =>
    intro other hother
    rcases List.mem_append.mp hother with hother | hother
    · exact hmatched.waiting other hother
    · obtain rfl := List.mem_singleton.mp hother
      simp only [hnone]
      exact Std.TreeMap.getElem?_eq_none hdecision
  case own => exact hmatched.own

theorem Matched.afterSubmit (happlying : arbitration.applying = some call)
    {ret : Int32} (hguard : ret ≠ dmsConnectApplyRejectFailed) :
    (arbitration.submit call ret).Matched := by
  unfold submit
  by_cases hret : ret ≠ errOk
  · rw [if_pos hret]
    exact hmatched.afterRefusal happlying hret hguard
  · rw [if_neg hret]
    exact hmatched.afterAcceptance happlying

theorem Matched.afterAnswer {rest : List ApplyCall}
    (hpending : arbitration.pending = call :: rest)
    (hfront : arbitration.mgr.peerConnectCbQueue.head? =
      some call.peerNetworkId) (isPass : Bool) :
    (arbitration.answer call rest isPass).Matched := by
  have hcall : call ∈ arbitration.pending := by
    rw [hpending]
    exact List.mem_cons_self
  have hrest : ∀ other ∈ rest, other ∈ arbitration.pending := by
    rw [hpending]
    exact fun other => List.mem_cons_of_mem call
  have hnotRest : call ∉ rest := by
    have honce := hmatched.once
    rw [hpending, List.nodup_cons] at honce
    exact honce.1
  have hactive : arbitration.Active call := Or.inr (Or.inr hcall)
  have hdecisions :=
    @peerConnectDecision_applyResult arbitration.mgr _ hfront isPass
  have hcalls : ∀ other,
      (arbitration.answer call rest isPass).Active other →
        arbitration.Active other := by
    rintro other (hother | hother | hother)
    · exact Or.inl hother
    · exact Or.inr (Or.inl hother)
    · exact Or.inr (Or.inr (hrest other hother))
  constructor
  case counted =>
    intro other hother
    exact hmatched.counted other (hcalls other hother)
  case undelivered =>
    intro number hle
    have hne : number ≠ call.number :=
      (Nat.ne_of_lt (Nat.lt_of_lt_of_le (hmatched.counted call hactive)
        hle)).symm
    simp only [answer, Function.update_of_ne hne]
    exact hmatched.undelivered number hle
  case distinct =>
    intro first other hfirst hother
    exact hmatched.distinct first other (hcalls first hfirst)
      (hcalls other hother)
  case applying =>
    intro other hother
    obtain ⟨hnotWaiting, hnotPending, hdecision, hnone⟩ :=
      hmatched.applying other hother
    have hne : other ≠ call := by
      rintro rfl
      exact hnotPending hcall
    obtain ⟨hnumber, hpeer⟩ := hmatched.differ hactive (Or.inl hother) hne
    refine ⟨hnotWaiting, fun hmem => hnotPending (hrest other hmem), ?_, ?_⟩
    · simp only [answer, hdecisions, Std.TreeMap.mem_insert,
        Std.compare_eq_iff_eq]
      rintro (heq | hmem)
      · exact hpeer heq
      · exact hdecision hmem
    · simp only [answer, Function.update_of_ne hnumber]
      exact hnone
  case pending =>
    intro other hother
    have hne : other ≠ call := by
      rintro rfl
      exact hnotRest hother
    have hnumber := (hmatched.differ hactive
      (Or.inr (Or.inr (hrest other hother))) hne).1
    simp only [answer, Function.update_of_ne hnumber]
    exact hmatched.pending other (hrest other hother)
  case once =>
    have honce := hmatched.once
    rw [hpending, List.nodup_cons] at honce
    exact honce.2
  case waiting =>
    intro other hother
    simp only [answer, hdecisions, OrderedMap.getElem?_insert_eq]
    by_cases hne : other = call
    · rw [hne, if_pos rfl, Function.update_self]
    · obtain ⟨hnumber, hpeer⟩ :=
        hmatched.differ hactive (Or.inr (Or.inl hother)) hne
      rw [if_neg hpeer, Function.update_of_ne hnumber]
      exact hmatched.waiting other hother
  case own => exact hmatched.own

theorem Matched.ownAnswers_wake (hcall : call ∈ arbitration.waiting) :
    (arbitration.wake call).OwnAnswers := by
  have hdecision := hmatched.waiting call hcall
  have hown : (arbitration.returns call
      (arbitration.mgr.waitAllConnectApplyCb call.peerNetworkId).1).OwnAnswers := by
    apply hmatched.own.returns
    all_goals
      rw [← hdecision, DSchedAllConnectManager.waitAllConnectApplyCb_fst]
      rcases arbitration.mgr.peerConnectDecision[call.peerNetworkId]? with
        _ | _ | _ <;> decide
  exact hown

theorem Matched.afterWake (hcall : call ∈ arbitration.waiting) :
    (arbitration.wake call).Matched := by
  have hactive : arbitration.Active call := Or.inr (Or.inl hcall)
  have hcalls : ∀ other, (arbitration.wake call).Active other →
      arbitration.Active other := by
    rintro other (hother | hother | hother)
    · exact Or.inl hother
    · exact Or.inr (Or.inl (List.mem_of_mem_filter hother))
    · exact Or.inr (Or.inr hother)
  constructor
  case counted =>
    intro other hother
    exact hmatched.counted other (hcalls other hother)
  case undelivered => exact hmatched.undelivered
  case distinct =>
    intro first other hfirst hother
    exact hmatched.distinct first other (hcalls first hfirst)
      (hcalls other hother)
  case applying =>
    intro other hother
    obtain ⟨hnotWaiting, hnotPending, hnotDecided, hnone⟩ :=
      hmatched.applying other hother
    have hne : other ≠ call := by
      rintro rfl
      exact hnotWaiting hcall
    have hpeer := (hmatched.differ hactive (Or.inl hother) hne).2
    refine ⟨fun hmem => hnotWaiting (List.mem_of_mem_filter hmem), hnotPending,
      ?_, hnone⟩
    rw [Std.TreeMap.mem_iff_isSome_getElem?]
    simp only [wake, getElem?_waitAllConnectApplyCb _ hpeer]
    rw [← Std.TreeMap.mem_iff_isSome_getElem?]
    exact hnotDecided
  case pending => exact hmatched.pending
  case once => exact hmatched.once
  case waiting =>
    intro other hother
    obtain ⟨hother, hnumber⟩ := List.mem_filter.mp hother
    have hne : other ≠ call := by
      rintro rfl
      simp at hnumber
    have hpeer := (hmatched.differ hactive (Or.inr (Or.inl hother)) hne).2
    simp only [wake, getElem?_waitAllConnectApplyCb _ hpeer]
    exact hmatched.waiting other hother
  case own => exact hmatched.ownAnswers_wake hcall

end Matched

theorem Matched.afterStep (hmatched : arbitration.Matched)
    {event : ArbitrationEvent} (hguard : arbitration.Guard event) :
    (arbitration.step event).2.Matched := by
  cases event with
  | apply peerNetworkId =>
      simp only [step]
      split
      · exact hmatched
      next happlying => exact hmatched.afterApply happlying hguard
  | submit ret =>
      simp only [step]
      split
      · exact hmatched
      next call happlying => exact hmatched.afterSubmit happlying hguard
  | applyResult isPass =>
      simp only [step]
      split
      · exact hmatched
      next call rest hpending =>
        apply hmatched.afterAnswer hpending
        exact hguard call (by rw [hpending]; rfl)
  | wake number =>
      simp only [step]
      split
      · exact hmatched
      next call hfound =>
        exact hmatched.afterWake (List.mem_of_find?_eq_some hfound)

/-- In a run whose calls do not share a peer and whose answers find their peer
at the front, every call gets its own answer. -/
theorem ownAnswers_run (mgr : DSchedAllConnectManager)
    (events : List ArbitrationEvent)
    (hmeets : EventRun.Meets step Guard { mgr := mgr } events) :
    (EventRun.run step { mgr := mgr } events).2.OwnAnswers := by
  have hstep : ∀ arbitration event, Matched arbitration →
      Guard arbitration event → (step arbitration event).2.Matched := by
    intro arbitration event hmatched hguard
    exact hmatched.afterStep hguard
  exact (hmeets.invariant hstep (matched_initial mgr)).own

def sampleEvents : List ArbitrationEvent :=
  [.apply "first".toList, .submit errOk, .apply "second".toList,
    .submit errOk, .applyResult true, .wake 0, .applyResult false, .wake 1,
    .apply "first".toList, .submit errOk, .wake 2, .applyResult true]

theorem ownAnswers_sampleEvents :
    EventRun.Meets step Guard { mgr := {} } sampleEvents ∧
      (EventRun.run step { mgr := {} } sampleEvents).2.returned.map
        ApplyReturn.ret =
        [errOk, dmsConnectApplyRejectFailed, dmsConnectApplyTimeoutFailed] ∧
      (EventRun.run step { mgr := {} } sampleEvents).2.OwnAnswers := by
  have hmeets : EventRun.Meets step Guard { mgr := {} } sampleEvents := by
    decide +kernel
  exact ⟨hmeets, by decide +kernel, ownAnswers_run {} sampleEvents hmeets⟩

/-- The service refuses a call for one peer, and accepts one for another: the
decision goes to the first peer, where a later call finds it. -/
def refusedEvents : List ArbitrationEvent :=
  [.apply "first".toList, .submit invalidParametersErr,
    .apply "second".toList, .submit errOk, .applyResult true,
    .wake 1, .apply "first".toList, .submit errOk, .wake 2]

theorem not_ownAnswers_refusedEvents :
    ¬ (EventRun.run step { mgr := {} } refusedEvents).2.OwnAnswers := by
  decide +kernel

end Arbitration

end Dmsfwk
