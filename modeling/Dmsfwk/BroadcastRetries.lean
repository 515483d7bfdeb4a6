import Dmsfwk.EventRun
import Mathlib.Data.List.Count

/-!
# Broadcasts that are sent again

The first attempts of the requests are posted without a name and run in their
order.  A retry is posted under one name, and every attempt removes what is
posted under that name, so a retry only runs for the request that was attempted
last.
-/

namespace Dmsfwk
namespace BroadcastRetries

open EventRun

def RETRY_SENT_EVENT_MAX_TIME : ℕ := 3

structure Request where
  number : ℕ
  hasBuffer : Bool

structure RetryTask where
  number : ℕ
  retry : ℕ

/-- The tasks of the event handler, with what was requested and the results of
the calls of `SendEvent`. -/
structure SoftbusAdapter where
  requests : List Bool := []
  posted : List Request := []
  retryTasks : List RetryTask := []
  attempts : List (ℕ × Bool) := []

namespace SoftbusAdapter

def sendSoftbusEvent (adapter : SoftbusAdapter) (hasBuffer : Bool) :
    SoftbusAdapter :=
  { adapter with
    requests := adapter.requests ++ [hasBuffer]
    posted := adapter.posted ++ [⟨adapter.requests.length, hasBuffer⟩] }

def retrySendSoftbusEvent (adapter : SoftbusAdapter) (number retry : ℕ) :
    SoftbusAdapter :=
  if retry = RETRY_SENT_EVENT_MAX_TIME then adapter
  else { adapter with retryTasks := [⟨number, retry + 1⟩] }

/-- The last argument is whether `SendEvent` succeeds. -/
def dealSendSoftbusEvent (adapter : SoftbusAdapter) (request : Request)
    (retry : ℕ) (sent : Bool) : SoftbusAdapter :=
  let adapter := { adapter with retryTasks := [] }
  if !request.hasBuffer then adapter
  else
    let adapter := { adapter with
      attempts := adapter.attempts ++ [(request.number, sent)] }
    if sent then adapter
    else adapter.retrySendSoftbusEvent request.number retry

inductive Event where
  | sendSoftbusEvent (hasBuffer : Bool)
  | firstAttempt (sent : Bool)
  | retryTask (sent : Bool)

def next (adapter : SoftbusAdapter) : Event → SoftbusAdapter
  | .sendSoftbusEvent hasBuffer => adapter.sendSoftbusEvent hasBuffer
  | .firstAttempt sent =>
      match adapter.posted with
      | [] => adapter
      | request :: posted =>
          { adapter with posted }.dealSendSoftbusEvent request 0 sent
  | .retryTask sent =>
      match adapter.retryTasks with
      | [] => adapter
      | task :: retryTasks =>
          { adapter with retryTasks }.dealSendSoftbusEvent ⟨task.number, true⟩
            task.retry sent

def step (adapter : SoftbusAdapter) (event : Event) : Unit × SoftbusAdapter :=
  ((), adapter.next event)

def tries (adapter : SoftbusAdapter) (number : ℕ) : ℕ :=
  adapter.attempts.countP fun attempt => attempt.1 = number

end SoftbusAdapter

open SoftbusAdapter

variable {adapter : SoftbusAdapter}

def Pending (adapter : SoftbusAdapter) (number : ℕ) : Prop :=
  adapter.retryTasks = [⟨number, adapter.tries number⟩] ∧
    adapter.tries number ≤ RETRY_SENT_EVENT_MAX_TIME

def Settled (adapter : SoftbusAdapter) (number : ℕ) (sent : Bool) : Prop :=
  adapter.retryTasks = [] ∧
    (sent = true ∨ adapter.tries number = RETRY_SENT_EVENT_MAX_TIME + 1)

def Dropped (adapter : SoftbusAdapter) (number : ℕ) : Prop :=
  adapter.retryTasks = [] ∧
    ∃ later, number < later ∧ adapter.requests[later]? = some false

structure Queued (adapter : SoftbusAdapter) : Prop where
  attempts : adapter.attempts.Pairwise fun first second => first.1 ≤ second.1
  posted : adapter.posted.Pairwise fun first second =>
    first.number < second.number
  before : ∀ attempt ∈ adapter.attempts, ∀ request ∈ adapter.posted,
    attempt.1 < request.number
  requested : ∀ request ∈ adapter.posted,
    adapter.requests[request.number]? = some request.hasBuffer
  attempted : ∀ attempt ∈ adapter.attempts,
    adapter.requests[attempt.1]? = some true

structure Ordered (adapter : SoftbusAdapter) : Prop extends Queued adapter where
  covered : ∀ number, adapter.requests[number]? = some true →
    (∃ request ∈ adapter.posted, request.number = number) ∨
      ∃ attempt ∈ adapter.attempts, attempt.1 = number
  last : adapter.retryTasks = [] ∧ adapter.attempts = [] ∨
    ∃ number sent, adapter.attempts.getLast? = some (number, sent) ∧
      (Pending adapter number ∨ Settled adapter number sent ∨
        Dropped adapter number)

/-- Nothing was attempted after the request, and nothing before it is posted. -/
structure Turn (adapter : SoftbusAdapter) (request : Request) : Prop where
  queued : Queued adapter
  requested : adapter.requests[request.number]? = some request.hasBuffer
  after : ∀ attempt ∈ adapter.attempts, attempt.1 ≤ request.number
  first : ∀ other ∈ adapter.posted, request.number < other.number
  covered : ∀ number, adapter.requests[number]? = some true →
    number = request.number ∨
      (∃ other ∈ adapter.posted, other.number = number) ∨
      ∃ attempt ∈ adapter.attempts, attempt.1 = number

theorem Turn.attempt {request : Request} (hturn : Turn adapter request)
    (hbuffer : request.hasBuffer = true) (sent : Bool)
    (retryTasks : List RetryTask) :
    Queued { adapter with
      retryTasks
      attempts := adapter.attempts ++ [(request.number, sent)] } where
  attempts := by
    rw [List.pairwise_append]
    refine ⟨hturn.queued.attempts, List.pairwise_singleton _ _, ?_⟩
    rintro attempt hattempt _ hlast
    rw [List.mem_singleton.mp hlast]
    exact hturn.after attempt hattempt
  posted := hturn.queued.posted
  before attempt hattempt other hother := by
    rcases List.mem_append.mp hattempt with hattempt | hlast
    · exact hturn.queued.before attempt hattempt other hother
    · rw [List.mem_singleton.mp hlast]
      exact hturn.first other hother
  requested := hturn.queued.requested
  attempted attempt hattempt := by
    rcases List.mem_append.mp hattempt with hattempt | hlast
    · exact hturn.queued.attempted attempt hattempt
    · rw [List.mem_singleton.mp hlast, ← hbuffer]
      exact hturn.requested

theorem tries_append (adapter : SoftbusAdapter) (number : ℕ) (sent : Bool)
    (retryTasks : List RetryTask) :
    tries { adapter with
        retryTasks
        attempts := adapter.attempts ++ [(number, sent)] } number =
      adapter.tries number + 1 := by
  simp [tries, List.countP_append]

theorem Turn.deal {request : Request} (hturn : Turn adapter request) {retry : ℕ}
    (hretry : request.hasBuffer = true → adapter.tries request.number = retry)
    (hmax : retry ≤ RETRY_SENT_EVENT_MAX_TIME)
    (hnull : request.hasBuffer = false →
      ∀ attempt ∈ adapter.attempts, attempt.1 < request.number) (sent : Bool) :
    Ordered (adapter.dealSendSoftbusEvent request retry sent) := by
  cases hbuffer : request.hasBuffer with
  | false =>
      have hdeal : adapter.dealSendSoftbusEvent request retry sent =
          { adapter with retryTasks := [] } := by
        simp [dealSendSoftbusEvent, hbuffer]
      rw [hdeal]
      refine ⟨⟨hturn.queued.attempts, hturn.queued.posted, hturn.queued.before,
        hturn.queued.requested, hturn.queued.attempted⟩, ?_, ?_⟩
      · intro number hnumber
        refine (hturn.covered number hnumber).resolve_left ?_
        rintro rfl
        rw [hturn.requested, hbuffer] at hnumber
        cases hnumber
      · rcases hlast : adapter.attempts.getLast? with _ | ⟨number, result⟩
        · exact .inl ⟨rfl, List.getLast?_eq_none_iff.mp hlast⟩
        · refine .inr ⟨number, result, rfl, .inr (.inr ⟨rfl,
            request.number, ?_, hbuffer ▸ hturn.requested⟩)⟩
          exact hnull hbuffer _ (List.mem_of_getLast? hlast)
  | true =>
      have hcovered : ∀ number, adapter.requests[number]? = some true →
          (∃ other ∈ adapter.posted, other.number = number) ∨
            ∃ attempt ∈ adapter.attempts ++ [(request.number, sent)],
              attempt.1 = number := by
        intro number hnumber
        obtain rfl | hposted | ⟨attempt, hattempt, heq⟩ :=
          hturn.covered number hnumber
        · exact .inr ⟨_, List.mem_append_right _ List.mem_cons_self, rfl⟩
        · exact .inl hposted
        · exact .inr ⟨attempt, List.mem_append_left _ hattempt, heq⟩
      have hlast : (adapter.attempts ++ [(request.number, sent)]).getLast? =
          some (request.number, sent) := List.getLast?_concat
      have htries := tries_append adapter request.number sent
      rw [hretry hbuffer] at htries
      unfold dealSendSoftbusEvent retrySendSoftbusEvent
      simp only [hbuffer, Bool.not_true, Bool.false_eq_true, if_false]
      split_ifs with hsent hend
      · exact ⟨hturn.attempt hbuffer sent [], hcovered,
          .inr ⟨_, _, hlast, .inr (.inl ⟨rfl, .inl hsent⟩)⟩⟩
      · refine ⟨hturn.attempt hbuffer sent [], hcovered,
          .inr ⟨_, _, hlast, .inr (.inl ⟨rfl, .inr ?_⟩)⟩⟩
        rw [htries, hend]
      · refine ⟨hturn.attempt hbuffer sent _, hcovered,
          .inr ⟨_, _, hlast, .inl ⟨?_, ?_⟩⟩⟩
        · rw [htries]
        · rw [htries]
          exact Nat.lt_of_le_of_ne hmax hend

theorem Ordered.turn_first (hordered : Ordered adapter) {request : Request}
    {posted : List Request} (hposted : adapter.posted = request :: posted) :
    Turn { adapter with posted } request := by
  have hqueue := hordered.posted
  have hbefore := hordered.before
  have hrequested := hordered.requested
  rw [hposted] at hqueue hbefore hrequested
  obtain ⟨hfirst, hrest⟩ := List.pairwise_cons.mp hqueue
  refine ⟨⟨hordered.attempts, hrest, fun attempt hattempt other hother =>
    hbefore attempt hattempt other (List.mem_cons_of_mem _ hother),
    fun other hother => hrequested other (List.mem_cons_of_mem _ hother),
    hordered.attempted⟩, hrequested request List.mem_cons_self,
    fun attempt hattempt => (hbefore attempt hattempt request
      List.mem_cons_self).le, hfirst, ?_⟩
  intro number hnumber
  obtain ⟨other, hother, heq⟩ | hattempted := hordered.covered number hnumber
  · rw [hposted] at hother
    rcases List.mem_cons.mp hother with rfl | hother
    · exact .inl heq.symm
    · exact .inr (.inl ⟨other, hother, heq⟩)
  · exact .inr (.inr hattempted)

theorem Queued.le_last (hqueued : Queued adapter) {number : ℕ} {sent : Bool}
    (hlast : adapter.attempts.getLast? = some (number, sent)) :
    ∀ attempt ∈ adapter.attempts, attempt.1 ≤ number := by
  obtain ⟨front, hfront⟩ := List.getLast?_eq_some_iff.mp hlast
  have hattempts := hqueued.attempts
  rw [hfront] at hattempts ⊢
  intro attempt hattempt
  rcases List.mem_append.mp hattempt with hattempt | hattempt
  · exact (List.pairwise_append.mp hattempts).2.2 attempt hattempt _
      List.mem_cons_self
  · rw [List.mem_singleton.mp hattempt]

theorem Ordered.turn_retry (hordered : Ordered adapter) {number : ℕ}
    {sent : Bool} (hlast : adapter.attempts.getLast? = some (number, sent)) :
    Turn adapter ⟨number, true⟩ :=
  have hmem := List.mem_of_getLast? hlast
  ⟨hordered.toQueued, hordered.attempted _ hmem,
    hordered.toQueued.le_last hlast, hordered.before _ hmem,
    fun number hnumber => .inr (hordered.covered number hnumber)⟩

theorem Ordered.send (hordered : Ordered adapter) (hasBuffer : Bool) :
    Ordered (adapter.sendSoftbusEvent hasBuffer) := by
  have hkept : ∀ {number : ℕ} {buffer : Bool},
      adapter.requests[number]? = some buffer →
        number < adapter.requests.length ∧
          (adapter.requests ++ [hasBuffer])[number]? = some buffer := by
    intro number buffer hnumber
    obtain ⟨hlt, -⟩ := List.getElem?_eq_some_iff.mp hnumber
    exact ⟨hlt, (List.getElem?_append_left hlt).trans hnumber⟩
  refine ⟨⟨hordered.attempts, ?_, ?_, ?_, fun attempt hattempt =>
    (hkept (hordered.attempted attempt hattempt)).2⟩, ?_, ?_⟩
  · refine List.pairwise_append.mpr
      ⟨hordered.posted, List.pairwise_singleton _ _, ?_⟩
    intro request hrequest other hother
    rw [List.mem_singleton.mp hother]
    exact (hkept (hordered.requested request hrequest)).1
  · intro attempt hattempt request hrequest
    rcases List.mem_append.mp hrequest with hrequest | hrequest
    · exact hordered.before attempt hattempt request hrequest
    · rw [List.mem_singleton.mp hrequest]
      exact (hkept (hordered.attempted attempt hattempt)).1
  · intro request hrequest
    rcases List.mem_append.mp hrequest with hrequest | hrequest
    · exact (hkept (hordered.requested request hrequest)).2
    · rw [List.mem_singleton.mp hrequest]
      exact List.getElem?_concat_length
  · intro number hnumber
    by_cases hlt : number < adapter.requests.length
    · have hold : adapter.requests[number]? = some true :=
        (List.getElem?_append_left hlt).symm.trans hnumber
      refine (hordered.covered number hold).imp_left ?_
      rintro ⟨request, hrequest, heq⟩
      exact ⟨request, List.mem_append_left _ hrequest, heq⟩
    · obtain ⟨hshort, -⟩ := List.getElem?_eq_some_iff.mp hnumber
      have hlength : number = adapter.requests.length := by
        rw [sendSoftbusEvent, List.length_append, List.length_singleton] at hshort
        omega
      exact .inl ⟨_, List.mem_append_right _ List.mem_cons_self, hlength.symm⟩
  · refine hordered.last.imp_right ?_
    rintro ⟨number, sent, hlast, hpending | hsettled | ⟨hnone, later, hlt, hlater⟩⟩
    · exact ⟨number, sent, hlast, .inl hpending⟩
    · exact ⟨number, sent, hlast, .inr (.inl hsettled)⟩
    · exact ⟨number, sent, hlast, .inr (.inr ⟨hnone, later, hlt, (hkept hlater).2⟩)⟩

theorem Ordered.next (hordered : Ordered adapter) (event : Event) :
    Ordered (adapter.next event) := by
  cases event with
  | sendSoftbusEvent hasBuffer => exact hordered.send hasBuffer
  | firstAttempt sent =>
      rw [SoftbusAdapter.next]
      split
      · exact hordered
      · next request posted hposted =>
          have hbefore : ∀ attempt ∈ adapter.attempts,
              attempt.1 < request.number := fun attempt hattempt =>
            hordered.before attempt hattempt request
              (hposted ▸ List.mem_cons_self)
          refine (hordered.turn_first hposted).deal (fun _ => ?_)
            (Nat.zero_le _) (fun _ => hbefore) sent
          refine List.countP_eq_zero.mpr fun attempt hattempt => ?_
          simpa using (hbefore attempt hattempt).ne
  | retryTask sent =>
      rw [SoftbusAdapter.next]
      split
      · exact hordered
      · next task retryTasks htasks =>
          obtain ⟨hnone, -⟩ | ⟨number, result, hlast, hpending | hnone | hnone⟩ :=
            hordered.last
          · rw [hnone] at htasks
            cases htasks
          · obtain ⟨htask, hmax⟩ := hpending
            rw [htask] at htasks
            cases htasks
            exact (hordered.turn_retry hlast).deal (fun _ => rfl) hmax nofun sent
          · rw [hnone.1] at htasks
            cases htasks
          · rw [hnone.1] at htasks
            cases htasks

theorem ordered_run (events : List Event) : Ordered (run step {} events).2 :=
  run_invariant (fun _ event hordered => hordered.next event) events
    ⟨⟨.nil, .nil, nofun, nofun, nofun⟩, nofun, .inl ⟨rfl, rfl⟩⟩

/-- The newest request waits for its first attempt or its next retry, or its last
attempt succeeded or was its last retry. -/
theorem Ordered.newest (hordered : Ordered adapter) {number : ℕ}
    (hnewest : number + 1 = adapter.requests.length)
    (hbuffer : adapter.requests[number]? = some true) :
    (∃ request ∈ adapter.posted, request.number = number) ∨
      ∃ sent, adapter.attempts.getLast? = some (number, sent) ∧
        (Pending adapter number ∨ Settled adapter number sent) := by
  refine (hordered.covered number hbuffer).imp_right ?_
  rintro ⟨attempt, hattempt, rfl⟩
  obtain ⟨-, hnone⟩ | ⟨last, sent, hlast, hcases⟩ := hordered.last
  · rw [hnone] at hattempt
    cases hattempt
  · have hle := hordered.toQueued.le_last hlast attempt hattempt
    obtain ⟨hlt, -⟩ := List.getElem?_eq_some_iff.mp
      (hordered.attempted _ (List.mem_of_getLast? hlast))
    obtain rfl : last = attempt.1 := by omega
    refine ⟨sent, hlast, ?_⟩
    obtain hpending | hsettled | ⟨-, later, hlater, hfound⟩ := hcases
    · exact .inl hpending
    · exact .inr hsettled
    · obtain ⟨hshort, -⟩ := List.getElem?_eq_some_iff.mp hfound
      omega

/-! ## Every request has its turn -/

theorem deal_posted (adapter : SoftbusAdapter) (request : Request) (retry : ℕ)
    (sent : Bool) :
    (adapter.dealSendSoftbusEvent request retry sent).posted = adapter.posted ∧
      (adapter.dealSendSoftbusEvent request retry sent).attempts =
        adapter.attempts ++
          if request.hasBuffer then [(request.number, sent)] else [] := by
  unfold dealSendSoftbusEvent retrySendSoftbusEvent
  cases request.hasBuffer <;> cases sent <;> simp
  split_ifs <;> simp

theorem attempts_run (adapter : SoftbusAdapter) (events : List Event) :
    adapter.attempts ⊆ (run step adapter events).2.attempts := by
  induction events generalizing adapter with
  | nil => exact fun _ hmem => hmem
  | cons event events ih =>
      refine List.Subset.trans ?_ (ih _)
      cases event with
      | sendSoftbusEvent hasBuffer => exact fun _ hmem => hmem
      | firstAttempt sent =>
          simp only [step, SoftbusAdapter.next]
          split
          · exact fun _ hmem => hmem
          · rw [(deal_posted _ _ _ _).2]
            exact List.subset_append_left _ _
      | retryTask sent =>
          simp only [step, SoftbusAdapter.next]
          split
          · exact fun _ hmem => hmem
          · rw [(deal_posted _ _ _ _).2]
            exact List.subset_append_left _ _

def isFirstAttempt : Event → Bool
  | .firstAttempt _ => true
  | _ => false

theorem attempted_of_firstAttempts {request : Request} {index : ℕ}
    {events : List Event} (hposted : adapter.posted[index]? = some request)
    (hbuffer : request.hasBuffer = true)
    (hruns : index < events.countP isFirstAttempt) :
    ∃ attempt ∈ (run step adapter events).2.attempts,
      attempt.1 = request.number := by
  induction events generalizing adapter index with
  | nil => cases hruns
  | cons event events ih =>
      cases event with
      | sendSoftbusEvent hasBuffer =>
          obtain ⟨hlt, -⟩ := List.getElem?_eq_some_iff.mp hposted
          exact ih ((List.getElem?_append_left hlt).trans hposted) hruns
      | firstAttempt sent =>
          cases hqueue : adapter.posted with
          | nil =>
              rw [hqueue] at hposted
              cases hposted
          | cons first posted =>
              have hnext : adapter.next (.firstAttempt sent) =
                  { adapter with posted }.dealSendSoftbusEvent first 0 sent := by
                rw [SoftbusAdapter.next, hqueue]
              have hdeal := deal_posted { adapter with posted } first 0 sent
              rw [← hnext] at hdeal
              rw [hqueue] at hposted
              cases index with
              | zero =>
                  obtain rfl : first = request := Option.some.inj hposted
                  refine ⟨(first.number, sent), attempts_run _ events ?_, rfl⟩
                  change _ ∈ (adapter.next _).attempts
                  rw [hdeal.2, hbuffer]
                  exact List.mem_append_right _ List.mem_cons_self
              | succ index =>
                  rw [List.countP_cons_of_pos rfl] at hruns
                  refine ih ?_ (Nat.lt_of_succ_lt_succ hruns)
                  change (adapter.next _).posted[index]? = _
                  rw [hdeal.1]
                  exact hposted
      | retryTask sent =>
          refine ih ?_ hruns
          simp only [step, SoftbusAdapter.next]
          split
          · exact hposted
          · rw [(deal_posted _ _ _ _).1]
            exact hposted

/-- No attempt is overtaken, no request with a buffer is left out, and the newest
one is tried until it succeeds or its last retry was made. -/
theorem broadcasts_ordered (events : List Event) :
    let adapter := (run step {} events).2
    adapter.attempts.Pairwise (fun first second => first.1 ≤ second.1) ∧
    (∀ number, adapter.requests[number]? = some true →
      (∃ request ∈ adapter.posted, request.number = number) ∨
        ∃ attempt ∈ adapter.attempts, attempt.1 = number) ∧
    (∀ request ∈ adapter.posted, request.hasBuffer = true → ∀ later,
      adapter.posted.length ≤ later.countP isFirstAttempt →
        ∃ attempt ∈ (run step adapter later).2.attempts,
          attempt.1 = request.number) ∧
    ∀ number, number + 1 = adapter.requests.length →
      adapter.requests[number]? = some true →
      (∃ request ∈ adapter.posted, request.number = number) ∨
        ∃ sent, adapter.attempts.getLast? = some (number, sent) ∧
          (Pending adapter number ∨ Settled adapter number sent) := by
  intro adapter
  have hordered : Ordered adapter := ordered_run events
  refine ⟨hordered.attempts, hordered.covered, ?_, fun _ => hordered.newest⟩
  intro request hrequest hbuffer later hruns
  obtain ⟨index, hlt, hindex⟩ := List.getElem_of_mem hrequest
  exact attempted_of_firstAttempts (List.getElem?_eq_some_iff.mpr ⟨hlt, hindex⟩)
    hbuffer (hlt.trans_le hruns)

/-- A null buffer is never passed on. -/
theorem not_attempted_nullBuffer :
    ¬ ∀ events, (run step {} events).2.posted = [] →
      ∀ number < (run step {} events).2.requests.length,
        ∃ attempt ∈ (run step {} events).2.attempts, attempt.1 = number := by
  intro hall
  obtain ⟨attempt, hattempt, -⟩ :=
    hall [.sendSoftbusEvent false, .firstAttempt true] rfl 0 (by decide)
  cases hattempt

end BroadcastRetries
end Dmsfwk
