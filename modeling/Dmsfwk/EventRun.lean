import Mathlib.Data.List.Basic
import Mathlib.Tactic

/-!
# Machines driven by a list of events

A machine answers every event with an output and a next state; whatever its
environment decides is part of the event.  A run is a list of events.  The
rules below are the ones a proof about runs needs: a run splits where its
events split, a simulation of steps is a simulation of runs, and what guarded
steps preserve holds in every state of a guarded run.
-/

namespace EventRun

variable {σ τ ε ο : Type*}

def run (step : σ → ε → ο × σ) (state : σ) : List ε → List ο × σ
  | [] => ([], state)
  | event :: events =>
      let next := step state event
      (next.1 :: (run step next.2 events).1, (run step next.2 events).2)

/-- Every step of the run meets the guard in the state it starts from. -/
def Meets (step : σ → ε → ο × σ) (guard : σ → ε → Prop) (state : σ) :
    List ε → Prop
  | [] => True
  | event :: events =>
      guard state event ∧ Meets step guard (step state event).2 events

instance (step : σ → ε → ο × σ) (guard : σ → ε → Prop)
    [∀ state event, Decidable (guard state event)] :
    ∀ (state : σ) (events : List ε),
      Decidable (Meets step guard state events)
  | _, [] => .isTrue trivial
  | state, event :: events =>
      have := instDecidableMeets step guard (step state event).2 events
      inferInstanceAs (Decidable (_ ∧ _))

section Rules

variable {step : σ → ε → ο × σ} {guard : σ → ε → Prop}

@[simp] theorem run_nil (state : σ) : run step state [] = ([], state) := rfl

@[simp] theorem run_cons (state : σ) (event : ε) (events : List ε) :
    run step state (event :: events) =
      ((step state event).1 :: (run step (step state event).2 events).1,
        (run step (step state event).2 events).2) := rfl

theorem run_append (state : σ) (first second : List ε) :
    run step state (first ++ second) =
      ((run step state first).1 ++
          (run step (run step state first).2 second).1,
        (run step (run step state first).2 second).2) := by
  induction first generalizing state with
  | nil => rfl
  | cons event events ih => simp [ih]

/-- A step-by-step simulation carries over to runs. -/
theorem run_map
    {step' : τ → ε → ο × τ} (f : σ → τ)
    (hstep : ∀ state event, step' (f state) event =
      ((step state event).1, f (step state event).2))
    (state : σ) (events : List ε) :
    run step' (f state) events =
      ((run step state events).1, f (run step state events).2) := by
  induction events generalizing state with
  | nil => rfl
  | cons event events ih => simp only [run_cons, hstep, ih]

/-- A machine of which a part moves on some of the events only, and then as
another machine does, takes this part through a run of that machine. -/
theorem run_filterMap {ε' ο' : Type*} {other : τ → ε' → ο' × τ} (view : σ → τ)
    (select : ε → Option ε') {events : List ε}
    (hstep : ∀ state, ∀ event ∈ events, view (step state event).2 =
      (select event).elim (view state)
        fun selected => (other (view state) selected).2)
    (state : σ) :
    view (run step state events).2 =
      (run other (view state) (events.filterMap select)).2 := by
  induction events generalizing state with
  | nil => rfl
  | cons event events ih =>
      obtain ⟨hfirst, hrest⟩ := List.forall_mem_cons.mp fun event hmem state =>
        hstep state event hmem
      rw [run_cons, ih (fun state event hmem => hrest event hmem state),
        List.filterMap_cons, hfirst]
      cases select event with
      | none => rfl
      | some selected => rfl

theorem run_invariant
    {invariant : σ → Prop}
    (hstep : ∀ state event, invariant state → invariant (step state event).2)
    {state : σ} (events : List ε) (hstart : invariant state) :
    invariant (run step state events).2 := by
  induction events generalizing state with
  | nil => exact hstart
  | cons event events ih => exact ih (hstep state event hstart)

theorem Meets.of_forall {guard : ε → Prop} {events : List ε}
    (hguard : ∀ event ∈ events, guard event) (state : σ) :
    Meets step (fun _ => guard) state events := by
  induction events generalizing state with
  | nil => trivial
  | cons event events ih =>
      obtain ⟨hfirst, hrest⟩ := List.forall_mem_cons.mp hguard
      exact ⟨hfirst, ih hrest _⟩

theorem Meets.of_prefix {state : σ} {first events : List ε}
    (hmeets : Meets step guard state events) (hfirst : first <+: events) :
    Meets step guard state first := by
  induction first generalizing state events with
  | nil => trivial
  | cons event first ih =>
      obtain ⟨rest, rfl⟩ := hfirst
      exact ⟨hmeets.1, ih hmeets.2 (List.prefix_append first rest)⟩

theorem Meets.and {guard other : σ → ε → Prop} {state : σ} {events : List ε}
    (hfirst : Meets step guard state events)
    (hsecond : Meets step other state events) :
    Meets step (fun state event => guard state event ∧ other state event) state
      events := by
  induction events generalizing state with
  | nil => trivial
  | cons event events ih =>
      exact ⟨⟨hfirst.1, hsecond.1⟩, ih hfirst.2 hsecond.2⟩

theorem Meets.last {state : σ} {first : List ε} {event : ε}
    (hmeets : Meets step guard state (first ++ [event])) :
    guard (run step state first).2 event := by
  induction first generalizing state with
  | nil => exact hmeets.1
  | cons head first ih => exact ih hmeets.2

theorem Meets.invariant
    {invariant : σ → Prop}
    (hstep : ∀ state event, invariant state → guard state event →
      invariant (step state event).2)
    {state : σ} {events : List ε} (hstart : invariant state)
    (hmeets : Meets step guard state events) :
    invariant (run step state events).2 := by
  induction events generalizing state with
  | nil => exact hstart
  | cons event events ih =>
      exact ih (hstep state event hstart hmeets.1) hmeets.2

theorem Meets.outputs
    {invariant : σ → Prop} {post : ε → ο → Prop}
    (hstep : ∀ state event, invariant state → guard state event →
      post event (step state event).1 ∧ invariant (step state event).2)
    {state : σ} {events : List ε} (hstart : invariant state)
    (hmeets : Meets step guard state events) :
    ∀ entry ∈ events.zip (run step state events).1,
      post entry.1 entry.2 := by
  induction events generalizing state with
  | nil => simp
  | cons event events ih =>
      obtain ⟨hpost, hnext⟩ := hstep state event hstart hmeets.1
      intro entry hentry
      simp only [run_cons, List.zip_cons_cons, List.mem_cons] at hentry
      rcases hentry with rfl | hentry
      · exact hpost
      · exact ih hnext hmeets.2 entry hentry

/-- What every guarded step says of its output holds of every output. -/
theorem Meets.forall_output
    {invariant : σ → Prop} {post : ο → Prop}
    (hstep : ∀ state event, invariant state → guard state event →
      post (step state event).1 ∧ invariant (step state event).2)
    {state : σ} {events : List ε} (hstart : invariant state)
    (hmeets : Meets step guard state events) :
    ∀ output ∈ (run step state events).1, post output := by
  induction events generalizing state with
  | nil => simp
  | cons event events ih =>
      obtain ⟨hpost, hnext⟩ := hstep state event hstart hmeets.1
      rw [run_cons]
      exact List.forall_mem_cons.mpr ⟨hpost, ih hnext hmeets.2⟩

/-- A property of single steps that follows from the invariant and the guard
holds at every step of a guarded run. -/
theorem Meets.guarantee
    {invariant : σ → Prop} {good : σ → ε → Prop}
    (hgood : ∀ state event, invariant state → guard state event →
      good state event)
    (hstep : ∀ state event, invariant state → guard state event →
      invariant (step state event).2)
    {state : σ} {events : List ε} (hstart : invariant state)
    (hmeets : Meets step guard state events) :
    Meets step good state events := by
  induction events generalizing state with
  | nil => trivial
  | cons event events ih =>
      exact ⟨hgood state event hstart hmeets.1,
        ih (hstep state event hstart hmeets.1) hmeets.2⟩

/-- A property of single steps that is the guard where the invariant holds, and
an invariant that such steps keep: the runs with the property are the guarded
ones. -/
theorem meets_iff_of_invariant
    {invariant : σ → Prop} {good : σ → ε → Prop}
    (hgood : ∀ state event, invariant state →
      (good state event ↔ guard state event))
    (hstep : ∀ state event, invariant state → guard state event →
      invariant (step state event).2)
    {state : σ} (events : List ε) (hstart : invariant state) :
    Meets step good state events ↔ Meets step guard state events := by
  induction events generalizing state with
  | nil => exact Iff.rfl
  | cons event events ih =>
      rw [Meets, Meets, hgood state event hstart]
      exact and_congr_right fun hguard => ih (hstep state event hstart hguard)

/-- A property which no step repairs, and which a step keeps exactly when it
meets the guard, holds at the end of exactly the guarded runs. -/
theorem run_sound_iff
    {invariant sound : σ → Prop}
    (hinvariant : ∀ state event, invariant state → invariant (step state event).2)
    (hback : ∀ state event, invariant state → sound (step state event).2 →
      sound state)
    (hstep : ∀ state event, invariant state → sound state →
      (sound (step state event).2 ↔ guard state event))
    {state : σ} (events : List ε) (hstart : invariant state)
    (hsound : sound state) :
    sound (run step state events).2 ↔ Meets step guard state events := by
  have hlost : ∀ (events : List ε) (state : σ), invariant state →
      sound (run step state events).2 → sound state := by
    intro events
    induction events with
    | nil => exact fun _ _ h => h
    | cons event events ih =>
        intro state hstart hend
        exact hback state event hstart (ih _ (hinvariant _ _ hstart) hend)
  induction events generalizing state with
  | nil => exact iff_of_true hsound trivial
  | cons event events ih =>
      have hnext := hinvariant state event hstart
      rw [run_cons, Meets, ← hstep state event hstart hsound]
      constructor
      · intro hend
        have hkept := hlost events _ hnext hend
        exact ⟨hkept, (ih hnext hkept).mp hend⟩
      · rintro ⟨hkept, hmeets⟩
        exact (ih hnext hkept).mpr hmeets

/-- A property which a step keeps exactly when it meets the guard holds in every
state on the way of exactly the guarded runs. -/
theorem forall_prefix_iff
    {invariant sound : σ → Prop}
    (hstep : ∀ state event, invariant state → sound state →
      (sound (step state event).2 ↔ guard state event))
    (hnext : ∀ state event, invariant state → sound state →
      guard state event → invariant (step state event).2)
    {state : σ} (events : List ε) (hstart : invariant state)
    (hsound : sound state) :
    (∀ first, first <+: events → sound (run step state first).2) ↔
      Meets step guard state events := by
  induction events generalizing state with
  | nil =>
      refine iff_of_true ?_ trivial
      intro first hfirst
      rw [List.prefix_nil.mp hfirst]
      exact hsound
  | cons event events ih =>
      have hguard := hstep state event hstart hsound
      constructor
      · intro hall
        have hone := hguard.mp
          (hall [event] (List.cons_prefix_cons.mpr ⟨rfl, List.nil_prefix⟩))
        refine ⟨hone, (ih (hnext state event hstart hsound hone)
          (hguard.mpr hone)).mp ?_⟩
        intro first hfirst
        exact hall (event :: first) (List.cons_prefix_cons.mpr ⟨rfl, hfirst⟩)
      · rintro ⟨hone, hmeets⟩ first hfirst
        cases first with
        | nil => exact hsound
        | cons head first =>
            obtain ⟨rfl, hrest⟩ := List.cons_prefix_cons.mp hfirst
            exact (ih (hnext state head hstart hsound hone)
              (hguard.mpr hone)).mpr hmeets first hrest

/-- Two machines whose outputs agree in related states exactly when the guard is
met, and which stay related then, agree on the runs which meet it. -/
theorem run_outputs_eq_iff
    {other : τ → ε → ο × τ} {guard : τ → ε → Prop} {related : σ → τ → Prop}
    (houtput : ∀ state state' event, related state state' →
      ((step state event).1 = (other state' event).1 ↔ guard state' event))
    (hnext : ∀ state state' event, related state state' → guard state' event →
      related (step state event).2 (other state' event).2)
    {state : σ} {state' : τ} (events : List ε) (hstart : related state state') :
    (run step state events).1 = (run other state' events).1 ↔
      Meets other guard state' events := by
  induction events generalizing state state' with
  | nil => simp [Meets]
  | cons event events ih =>
      rw [run_cons, run_cons, List.cons.injEq, houtput _ _ _ hstart, Meets]
      exact and_congr_right fun hguard => ih (hnext _ _ _ hstart hguard)

end Rules

/-! ## Machines with keys -/

section Keys

variable {κ : Type*} [DecidableEq κ]

def eventsOf (key : κ) (events : List (κ × ε)) : List ε :=
  (events.filter (·.1 = key)).map (·.2)

def outputsOf (key : κ) (events : List (κ × ε)) (outputs : List ο) : List ο :=
  ((events.zip outputs).filter (·.1.1 = key)).map (·.2)

variable {step : σ → κ × ε → ο × σ} {own : τ → ε → ο × τ} {view : σ → κ → τ}

/-- A machine which answers an event from the part of its key, and changes that
part alone, runs as one machine for each key. -/
theorem outputsOf_run
    (houtput : ∀ state key event,
      (step state (key, event)).1 = (own (view state key) event).1)
    (hview : ∀ state key event found, view (step state (key, event)).2 found =
      if key = found then (own (view state key) event).2 else view state found)
    (state : σ) (events : List (κ × ε)) (found : κ) :
    outputsOf found events (run step state events).1 =
      (run own (view state found) (eventsOf found events)).1 := by
  induction events generalizing state with
  | nil => rfl
  | cons event events ih =>
      obtain ⟨key, event⟩ := event
      have hrest := ih (step state (key, event)).2
      unfold outputsOf eventsOf at hrest ⊢
      rw [run_cons, List.zip_cons_cons, List.filter_cons, List.filter_cons]
      by_cases hkey : key = found
      · subst hkey
        rw [hview, if_pos rfl] at hrest
        simp [hrest, houtput]
      · rw [hview, if_neg hkey] at hrest
        simp [hrest, hkey]

end Keys

end EventRun
