import Dmsfwk.ContinueBroadcast
import Dmsfwk.EventRun

/-!
# Continuation listeners

An application registers an object for a type of notification, and the receiving
manager keeps the objects in a map of lists, with a death recipient on each of
them.  The notification goes to the objects of the type that a registration came
with last.  A registry ought to be a set of types and objects; the theorems
below say which steps treat it as one.
-/

namespace Dmsfwk

structure ContinueListeners (Obj : Type) where
  registerOnListener : Std.TreeMap Text (List Obj) := ∅
  onType : Text := []
  /-- The objects which carry `missionDiedListener_`, once for each time. -/
  deathRecipients : List Obj := []

inductive ListenerEvent (Obj : Type) where
  | registerOnListener (type : Text) (obj : Option Obj)
  | registerOffListener (type : Text) (obj : Option Obj)
  | notifyDied (obj : Option Obj)

inductive ListenerAnswer where
  | result (ret : Int32)
  | done
  /-- The end of `registerOnListener_` is dereferenced. -/
  | endDereferenced
  deriving DecidableEq, Repr

namespace ContinueListeners

variable {Obj : Type} [DecidableEq Obj]

def errOk : Int32 := 0

def invalidParametersErr : Int32 := 29360128

def noMissionInfoForMissionId : Int32 := 29360221

def registMaxSize : ℕ := 1000

def registerOn (listeners : ContinueListeners Obj) (type : Text) :
    Option Obj → ListenerAnswer × ContinueListeners Obj
  | none => (.result invalidParametersErr, listeners)
  | some obj =>
      let listeners := { listeners with onType := type }
      match listeners.registerOnListener[type]? with
      | none =>
          if listeners.registerOnListener.size < registMaxSize then
            (.result errOk,
              { listeners with
                registerOnListener :=
                  listeners.registerOnListener.insert type [obj]
                deathRecipients := obj :: listeners.deathRecipients })
          else (.endDereferenced, listeners)
      | some objs =>
          if obj ∈ objs then (.result noMissionInfoForMissionId, listeners)
          else
            (.result errOk,
              { listeners with
                registerOnListener :=
                  listeners.registerOnListener.insert type (objs ++ [obj])
                deathRecipients := obj :: listeners.deathRecipients })

/-- The loop over all types: `remove` takes the object from a list, a recipient
goes for each time it was there, and empty lists are erased. -/
def removeObject (remove : List Obj → List Obj) (obj : Obj)
    (listeners : ContinueListeners Obj) : ContinueListeners Obj where
  registerOnListener := listeners.registerOnListener.filterMap fun _ objs =>
    if remove objs = [] then none else some (remove objs)
  onType := listeners.onType
  deathRecipients := listeners.deathRecipients.diff
    (listeners.registerOnListener.toList.flatMap fun entry =>
      List.replicate (entry.2.count obj - (remove entry.2).count obj) obj)

/-- `RegisterOffListener` does not read the type, and stops at the first match
in each list. -/
def registerOff (listeners : ContinueListeners Obj) (_type : Text) :
    Option Obj → ListenerAnswer × ContinueListeners Obj
  | none => (.result invalidParametersErr, listeners)
  | some obj => (.result errOk, listeners.removeObject (·.erase obj) obj)

def notifyDied (listeners : ContinueListeners Obj) :
    Option Obj → ContinueListeners Obj
  | none => listeners
  | some obj => listeners.removeObject (·.filter (· ≠ obj)) obj

def notifyDockDisplay (listeners : ContinueListeners Obj) : Int32 × List Obj :=
  match listeners.registerOnListener[listeners.onType]? with
  | none => (invalidParametersErr, [])
  | some objs => (errOk, objs)

def step (listeners : ContinueListeners Obj) :
    ListenerEvent Obj → ListenerAnswer × ContinueListeners Obj
  | .registerOnListener type obj => listeners.registerOn type obj
  | .registerOffListener type obj => listeners.registerOff type obj
  | .notifyDied obj => (.done, listeners.notifyDied obj)

/-! ## The registry as a set -/

/-- The pairs of a type and an object that are registered, neither unregistered
for the type since nor dead. -/
def registeredAfter (registered : Set (Text × Obj)) :
    ListenerEvent Obj → Set (Text × Obj)
  | .registerOnListener type (some obj) => insert (type, obj) registered
  | .registerOffListener type (some obj) => registered \ {(type, obj)}
  | .notifyDied (some obj) => { entry ∈ registered | entry.2 ≠ obj }
  | _ => registered

def objectsOf (listeners : ContinueListeners Obj) (type : Text) : List Obj :=
  listeners.registerOnListener[type]?.getD []

structure HoldsExactly (listeners : ContinueListeners Obj)
    (registered : Set (Text × Obj)) : Prop where
  mem_iff : ∀ type obj,
    obj ∈ listeners.objectsOf type ↔ (type, obj) ∈ registered
  nodup : ∀ type, (listeners.objectsOf type).Nodup
  ne_nil : ∀ type : Text, listeners.registerOnListener[type]? ≠ some []
  recipient_iff : ∀ obj,
    obj ∈ listeners.deathRecipients ↔ ∃ type, (type, obj) ∈ registered

def trackedStep (tracked : ContinueListeners Obj × Set (Text × Obj))
    (event : ListenerEvent Obj) :
    ListenerAnswer × ContinueListeners Obj × Set (Text × Obj) :=
  let stepped := tracked.1.step event
  (stepped.1, stepped.2, registeredAfter tracked.2 event)

/-- The step dereferences no end, the map is the set after it, and the objects
of other types that were notified are notified after a registration too. -/
structure KeepsListeners (tracked : ContinueListeners Obj × Set (Text × Obj))
    (event : ListenerEvent Obj) : Prop where
  inside : (tracked.1.step event).1 ≠ .endDereferenced
  holds : HoldsExactly (tracked.1.step event).2
    (registeredAfter tracked.2 event)
  reaches : ∀ type obj, event = .registerOnListener type obj →
    ∀ reached ∈ tracked.1.notifyDockDisplay.2,
      (∃ other, other ≠ type ∧ (other, reached) ∈ tracked.2) →
      reached ∈ (tracked.1.step event).2.notifyDockDisplay.2

/-! ## The condition -/

/-- A registration finds its type or room for it, and no object of another type
waits for the next notification; an object unregistered for a type is
registered for that one only. -/
def EventSound (listeners : ContinueListeners Obj) :
    ListenerEvent Obj → Prop
  | .registerOnListener type (some obj) =>
      (listeners.registerOnListener[type]? = none →
        listeners.registerOnListener.size < registMaxSize) ∧
      (type ≠ listeners.onType →
        ∀ waiting ∈ listeners.objectsOf listeners.onType,
          waiting = obj ∨ waiting ∈ listeners.objectsOf type)
  | .registerOffListener type (some obj) =>
      ∀ other, other ≠ type → obj ∉ listeners.objectsOf other
  | _ => True

/-! ## Registering -/

def RecipientsCounted (listeners : ContinueListeners Obj) : Prop :=
  ∀ obj, listeners.deathRecipients.count obj =
    OrderedMap.count listeners.registerOnListener fun objs => obj ∈ objs

section Registering

variable {listeners : ContinueListeners Obj} {registered : Set (Text × Obj)}
  {type : Text} {obj : Obj}

omit [DecidableEq Obj] in
theorem objectsOf_of_some {objs : List Obj}
    (hobjs : listeners.registerOnListener[type]? = some objs) :
    listeners.objectsOf type = objs := by
  rw [objectsOf, hobjs, Option.getD_some]

omit [DecidableEq Obj] in
theorem objectsOf_of_none
    (hnone : listeners.registerOnListener[type]? = none) :
    listeners.objectsOf type = [] := by
  rw [objectsOf, hnone, Option.getD_none]

omit [DecidableEq Obj] in
theorem notifyDockDisplay_snd (listeners : ContinueListeners Obj) :
    listeners.notifyDockDisplay.2 = listeners.objectsOf listeners.onType := by
  unfold notifyDockDisplay objectsOf
  cases listeners.registerOnListener[listeners.onType]? <;> rfl

def addObject (listeners : ContinueListeners Obj) (type : Text) (obj : Obj) :
    ContinueListeners Obj where
  registerOnListener := listeners.registerOnListener.insert type
    (listeners.objectsOf type ++ [obj])
  onType := type
  deathRecipients := obj :: listeners.deathRecipients

theorem registerOn_some (listeners : ContinueListeners Obj) (type : Text)
    (obj : Obj) :
    listeners.registerOn type (some obj) =
      if obj ∈ listeners.objectsOf type then
        (.result noMissionInfoForMissionId, { listeners with onType := type })
      else if listeners.registerOnListener[type]? = none ∧
          ¬ listeners.registerOnListener.size < registMaxSize then
        (.endDereferenced, { listeners with onType := type })
      else (.result errOk, listeners.addObject type obj) := by
  cases hobjs : listeners.registerOnListener[type]? with
  | none =>
      have hempty := objectsOf_of_none hobjs
      simp only [registerOn, hobjs, addObject, hempty, List.not_mem_nil, if_false,
        true_and, List.nil_append]
      split_ifs <;> rfl
  | some objs =>
      have hlist := objectsOf_of_some hobjs
      simp only [registerOn, hobjs, addObject, hlist, reduceCtorEq, false_and,
        if_false]

omit [DecidableEq Obj] in
theorem objectsOf_addObject (listeners : ContinueListeners Obj)
    (type : Text) (obj : Obj) (found : Text) :
    (listeners.addObject type obj).objectsOf found =
      if type = found then listeners.objectsOf type ++ [obj]
      else listeners.objectsOf found := by
  rw [objectsOf, addObject, OrderedMap.getElem?_insert_eq]
  split_ifs <;> rfl

theorem recipientsCounted_addObject (hcounted : listeners.RecipientsCounted)
    (hnew : obj ∉ listeners.objectsOf type) :
    (listeners.addObject type obj).RecipientsCounted := by
  intro found
  have hcount := hcounted found
  have hadded : OrderedMap.count (listeners.addObject type obj).registerOnListener
        (fun objs => found ∈ objs) =
      OrderedMap.count listeners.registerOnListener (fun objs => found ∈ objs) +
        if obj = found then 1 else 0 := by
    rw [addObject]
    cases hobjs : listeners.registerOnListener[type]? with
    | none =>
        rw [OrderedMap.count_insert_new hobjs, objectsOf_of_none hobjs]
        simp [eq_comm]
    | some objs =>
        have hlist := objectsOf_of_some hobjs
        rw [hlist] at hnew ⊢
        have hinsert : OrderedMap.count
            (listeners.registerOnListener.insert type (objs ++ [obj]))
            (fun objs => decide (found ∈ objs)) + _ = _ :=
          OrderedMap.count_insert_add hobjs (objs ++ [obj])
        by_cases hsame : obj = found
        · subst hsame
          simpa [hnew] using hinsert
        · simpa [hsame, Ne.symm hsame] using hinsert
  rw [hadded, ← hcount, addObject, List.count_cons]
  simp only [beq_iff_eq]

theorem mem_deathRecipients_iff (hcounted : listeners.RecipientsCounted)
    (hmem : ∀ type obj,
      obj ∈ listeners.objectsOf type ↔ (type, obj) ∈ registered) :
    obj ∈ listeners.deathRecipients ↔ ∃ type, (type, obj) ∈ registered := by
  rw [← List.count_pos_iff, hcounted obj, OrderedMap.count,
    List.countP_pos_iff]
  constructor
  · rintro ⟨⟨type, objs⟩, hentry, htest⟩
    refine ⟨type, (hmem type obj).mp ?_⟩
    rw [objectsOf_of_some
      (Std.TreeMap.mem_toList_iff_getElem?_eq_some.mp hentry)]
    simpa using htest
  · rintro ⟨type, hregistered⟩
    have hobj := (hmem type obj).mpr hregistered
    cases hobjs : listeners.registerOnListener[type]? with
    | none =>
        rw [objectsOf_of_none hobjs] at hobj
        cases hobj
    | some objs =>
        rw [objectsOf_of_some hobjs] at hobj
        refine ⟨(type, objs),
          Std.TreeMap.mem_toList_iff_getElem?_eq_some.mpr hobjs, ?_⟩
        simpa using hobj

theorem HoldsExactly.addObject (hholds : HoldsExactly listeners registered)
    (hcounted : listeners.RecipientsCounted)
    (hnew : obj ∉ listeners.objectsOf type) :
    HoldsExactly (listeners.addObject type obj)
      (insert (type, obj) registered) := by
  have hmem : ∀ found other,
      other ∈ (listeners.addObject type obj).objectsOf found ↔
        (found, other) ∈ insert (type, obj) registered := by
    intro found other
    rw [objectsOf_addObject, Set.mem_insert_iff, Prod.mk.injEq,
      ← hholds.mem_iff]
    split_ifs with htype
    · subst htype
      simp [or_comm]
    · simp [Ne.symm htype]
  refine ⟨hmem, ?_, ?_, fun other => mem_deathRecipients_iff
    (recipientsCounted_addObject hcounted hnew) hmem⟩
  · intro found
    rw [objectsOf_addObject]
    split_ifs
    · rw [List.nodup_append]
      refine ⟨hholds.nodup type, List.nodup_singleton obj, ?_⟩
      intro first hfirst second hsecond
      rw [List.mem_singleton] at hsecond
      rintro rfl
      exact hnew (hsecond ▸ hfirst)
    · exact hholds.nodup found
  · intro found
    rw [ContinueListeners.addObject, OrderedMap.getElem?_insert_eq]
    split_ifs
    · simp
    · exact hholds.ne_nil found

end Registering

/-! ## Removing -/

section Removing

variable {listeners : ContinueListeners Obj} {registered : Set (Text × Obj)}
  {obj : Obj}

def Removes (listeners : ContinueListeners Obj)
    (remove : List Obj → List Obj) (obj : Obj) : Prop :=
  ∀ type, remove (listeners.objectsOf type) =
    (listeners.objectsOf type).filter (· ≠ obj)

theorem removes_erase (hnodup : ∀ type, (listeners.objectsOf type).Nodup)
    (obj : Obj) : listeners.Removes (·.erase obj) obj := by
  intro type
  refine ((hnodup type).erase_eq_filter obj).trans ?_
  apply List.filter_congr
  intro other _
  rw [bne, beq_eq_decide, decide_not]

variable {remove : List Obj → List Obj}

theorem objectsOf_removeObject (hremoves : listeners.Removes remove obj)
    (type : Text) :
    (listeners.removeObject remove obj).objectsOf type =
      (listeners.objectsOf type).filter (· ≠ obj) := by
  rw [objectsOf, removeObject, Std.TreeMap.getElem?_filterMap']
  cases hobjs : listeners.registerOnListener[type]? with
  | none =>
      rw [objectsOf_of_none hobjs]
      rfl
  | some objs =>
      have hremove := hremoves type
      rw [objectsOf_of_some hobjs] at hremove ⊢
      rw [Option.bind_some, ← hremove]
      split_ifs with hempty
      · rw [hempty, Option.getD_none]
      · rw [Option.getD_some]

theorem remove_eq (hremoves : listeners.Removes remove obj)
    {entry : Text × List Obj}
    (hentry : entry ∈ listeners.registerOnListener.toList) :
    remove entry.2 = entry.2.filter (· ≠ obj) := by
  have hremove := hremoves entry.1
  rwa [objectsOf_of_some
    (Std.TreeMap.mem_toList_iff_getElem?_eq_some.mp hentry)] at hremove

theorem sum_count_eq_countP {entries : List (Text × List Obj)}
    (hnodup : ∀ entry ∈ entries, entry.2.Nodup) (obj : Obj) :
    (entries.map fun entry => entry.2.count obj).sum =
      entries.countP fun entry => obj ∈ entry.2 := by
  induction entries with
  | nil => rfl
  | cons entry entries ih =>
      obtain ⟨hhead, htail⟩ := List.forall_mem_cons.mp hnodup
      rw [List.map_cons, List.sum_cons, ih htail, List.countP_cons,
        hhead.count, Nat.add_comm]
      simp only [decide_eq_true_eq]

theorem count_removed (hnodup : ∀ type, (listeners.objectsOf type).Nodup)
    (hremoves : listeners.Removes remove obj) :
    (listeners.registerOnListener.toList.flatMap fun entry =>
        List.replicate (entry.2.count obj - (remove entry.2).count obj)
          obj).count obj =
      OrderedMap.count listeners.registerOnListener fun objs => obj ∈ objs := by
  have honce : ∀ entry ∈ listeners.registerOnListener.toList,
      entry.2.Nodup := by
    intro entry hentry
    rw [← objectsOf_of_some
      (Std.TreeMap.mem_toList_iff_getElem?_eq_some.mp hentry)]
    exact hnodup entry.1
  rw [List.count_flatMap, OrderedMap.count, ← sum_count_eq_countP honce]
  congr 1
  apply List.map_congr_left
  intro entry hentry
  have hgone : (entry.2.filter (· ≠ obj)).count obj = 0 := by
    rw [List.count_eq_zero]
    simp
  rw [Function.comp_apply, List.count_replicate_self, remove_eq hremoves hentry,
    hgone, Nat.sub_zero]

theorem recipientsCounted_removeObject
    (hnodup : ∀ type, (listeners.objectsOf type).Nodup)
    (hcounted : listeners.RecipientsCounted)
    (hremoves : listeners.Removes remove obj) :
    (listeners.removeObject remove obj).RecipientsCounted := by
  intro found
  rw [removeObject, List.count_diff, hcounted found, OrderedMap.count,
    OrderedMap.count, Std.TreeMap.toList_filterMap, List.countP_filterMap]
  by_cases hsame : found = obj
  · subst hsame
    rw [count_removed hnodup hremoves, OrderedMap.count, Nat.sub_self, eq_comm,
      List.countP_eq_zero]
    intro entry hentry
    rw [remove_eq hremoves hentry]
    split_ifs <;> simp
  · have hnone : (listeners.registerOnListener.toList.flatMap fun entry =>
        List.replicate (entry.2.count obj - (remove entry.2).count obj)
          obj).count found = 0 := by
      rw [List.count_eq_zero]
      simp [hsame]
    rw [hnone, Nat.sub_zero]
    apply List.countP_congr
    intro entry hentry
    rw [remove_eq hremoves hentry]
    split_ifs with hempty
    · have hnot : found ∉ entry.2 := by
        intro hmem
        exact hsame (by simpa using List.filter_eq_nil_iff.mp hempty found hmem)
      simp [hnot]
    · simp [hsame]

theorem holdsExactly_removeObject_iff
    (hholds : HoldsExactly listeners registered)
    (hcounted : listeners.RecipientsCounted)
    (hremoves : listeners.Removes remove obj) (after : Set (Text × Obj)) :
    HoldsExactly (listeners.removeObject remove obj) after ↔
      after = { entry ∈ registered | entry.2 ≠ obj } := by
  have hmem : ∀ type other,
      other ∈ (listeners.removeObject remove obj).objectsOf type ↔
        (type, other) ∈ { entry ∈ registered | entry.2 ≠ obj } := by
    intro type other
    rw [objectsOf_removeObject hremoves, List.mem_filter, hholds.mem_iff]
    simp
  constructor
  · intro hafter
    ext ⟨type, other⟩
    rw [← hafter.mem_iff, hmem]
  · rintro rfl
    refine ⟨hmem, ?_, ?_, fun other => mem_deathRecipients_iff
      (recipientsCounted_removeObject hholds.nodup hcounted hremoves) hmem⟩
    · intro type
      rw [objectsOf_removeObject hremoves]
      exact (hholds.nodup type).filter _
    · intro type hnil
      rw [removeObject, Std.TreeMap.getElem?_filterMap',
        Option.bind_eq_some_iff] at hnil
      obtain ⟨objs, -, hnil⟩ := hnil
      split_ifs at hnil with hempty
      exact hempty (Option.some.inj hnil)

end Removing

/-! ## One step -/

section Steps

variable {listeners : ContinueListeners Obj} {registered : Set (Text × Obj)}

omit [DecidableEq Obj] in
theorem HoldsExactly.setOnType (hholds : HoldsExactly listeners registered)
    (type : Text) :
    HoldsExactly { listeners with onType := type } registered where
  mem_iff := hholds.mem_iff
  nodup := hholds.nodup
  ne_nil := hholds.ne_nil
  recipient_iff := hholds.recipient_iff

omit [DecidableEq Obj] in
theorem reaches_iff (hholds : HoldsExactly listeners registered)
    {after : List Obj} {type : Text} {obj : Obj}
    (hafter : ∀ found,
      found ∈ after ↔ found = obj ∨ found ∈ listeners.objectsOf type) :
    (∀ reached ∈ listeners.notifyDockDisplay.2,
      (∃ other, other ≠ type ∧ (other, reached) ∈ registered) →
      reached ∈ after) ↔
      (type ≠ listeners.onType →
        ∀ waiting ∈ listeners.objectsOf listeners.onType,
          waiting = obj ∨ waiting ∈ listeners.objectsOf type) := by
  rw [notifyDockDisplay_snd]
  constructor
  · intro hreaches htype waiting hwaiting
    exact (hafter waiting).mp (hreaches waiting hwaiting
      ⟨listeners.onType, Ne.symm htype, (hholds.mem_iff _ _).mp hwaiting⟩)
  · intro hwaiting reached hreached _
    rw [hafter]
    by_cases htype : type = listeners.onType
    · rw [htype]
      exact Or.inr hreached
    · exact hwaiting htype reached hreached

theorem keepsListeners_answered_iff
    (hholds : HoldsExactly listeners registered) {type : Text} {obj : Obj}
    {ret : Int32} {next : ContinueListeners Obj}
    (hstep : listeners.registerOn type (some obj) = (.result ret, next))
    (hroom : listeners.registerOnListener[type]? = none →
      listeners.registerOnListener.size < registMaxSize)
    (hnext : HoldsExactly next (insert (type, obj) registered))
    (hafter : ∀ found, found ∈ next.objectsOf next.onType ↔
      found = obj ∨ found ∈ listeners.objectsOf type) :
    KeepsListeners (listeners, registered)
        (.registerOnListener type (some obj)) ↔
      listeners.EventSound (.registerOnListener type (some obj)) := by
  constructor
  · intro hkeeps
    refine ⟨hroom, (reaches_iff hholds hafter).mp ?_⟩
    have hreaches := hkeeps.reaches type (some obj) rfl
    rw [step, hstep, notifyDockDisplay_snd (Prod.snd _)] at hreaches
    exact hreaches
  · rintro ⟨-, hwaiting⟩
    refine ⟨?_, ?_, ?_⟩
    · rw [step, hstep]
      rintro ⟨⟩
    · rw [step, hstep]
      exact hnext
    · rintro _ _ ⟨⟩
      rw [step, hstep, notifyDockDisplay_snd (Prod.snd _)]
      exact (reaches_iff hholds hafter).mpr hwaiting

section HoldsExactly

variable (hholds : HoldsExactly listeners registered)
  (hcounted : listeners.RecipientsCounted)

include hholds hcounted

theorem keepsListeners_registerOn_iff (type : Text) (obj : Obj) :
    KeepsListeners (listeners, registered)
        (.registerOnListener type (some obj)) ↔
      listeners.EventSound (.registerOnListener type (some obj)) := by
  have hstep := registerOn_some listeners type obj
  by_cases hlisted : obj ∈ listeners.objectsOf type
  · rw [if_pos hlisted] at hstep
    have hroom : listeners.registerOnListener[type]? ≠ none := by
      intro hnone
      rw [objectsOf_of_none hnone] at hlisted
      cases hlisted
    refine keepsListeners_answered_iff hholds hstep
      (fun hnone => absurd hnone hroom) ?_ ?_
    · have hsame : insert (type, obj) registered = registered :=
        Set.insert_eq_of_mem ((hholds.mem_iff type obj).mp hlisted)
      rw [hsame]
      exact hholds.setOnType type
    · intro found
      refine iff_or_self.mpr ?_
      rintro rfl
      exact hlisted
  · rw [if_neg hlisted] at hstep
    by_cases hfull : listeners.registerOnListener[type]? = none ∧
        ¬ listeners.registerOnListener.size < registMaxSize
    · rw [if_pos hfull] at hstep
      refine iff_of_false (fun hkeeps => hkeeps.inside ?_)
        (fun hsound => hfull.2 (hsound.1 hfull.1))
      rw [step, hstep]
    · rw [if_neg hfull] at hstep
      have hroom : listeners.registerOnListener[type]? = none →
          listeners.registerOnListener.size < registMaxSize := by
        intro hnone
        by_contra hsize
        exact hfull ⟨hnone, hsize⟩
      refine keepsListeners_answered_iff hholds hstep hroom
        (hholds.addObject hcounted hlisted) ?_
      intro found
      have hobjects : (listeners.addObject type obj).objectsOf
          (listeners.addObject type obj).onType =
            listeners.objectsOf type ++ [obj] :=
        (objectsOf_addObject listeners type obj type).trans (if_pos rfl)
      rw [hobjects, List.mem_append, List.mem_singleton, or_comm]

theorem keepsListeners_registerOff_iff (type : Text) (obj : Obj) :
    KeepsListeners (listeners, registered)
        (.registerOffListener type (some obj)) ↔
      listeners.EventSound (.registerOffListener type (some obj)) := by
  have hremoved := holdsExactly_removeObject_iff hholds hcounted
    (removes_erase hholds.nodup obj) (registered \ {(type, obj)})
  have hset : registered \ {(type, obj)} =
        { entry ∈ registered | entry.2 ≠ obj } ↔
      ∀ other, other ≠ type → obj ∉ listeners.objectsOf other := by
    rw [Set.ext_iff]
    constructor
    · intro hsame other hother hlisted
      have hkept := (hsame (other, obj)).mp
        ⟨(hholds.mem_iff other obj).mp hlisted, by simp [hother]⟩
      exact hkept.2 rfl
    · rintro honly ⟨other, found⟩
      constructor
      · rintro ⟨hmem, hne⟩
        refine ⟨hmem, ?_⟩
        rintro rfl
        have hother : other ≠ type := by
          rintro rfl
          exact hne rfl
        exact honly other hother ((hholds.mem_iff other found).mpr hmem)
      · rintro ⟨hmem, hne⟩
        refine ⟨hmem, ?_⟩
        rintro ⟨⟩
        exact hne rfl
  rw [EventSound, ← hset, ← hremoved]
  constructor
  · exact KeepsListeners.holds
  · intro hafter
    refine ⟨?_, hafter, ?_⟩
    · rintro ⟨⟩
    · rintro _ _ ⟨⟩

theorem keepsListeners_iff (event : ListenerEvent Obj) :
    KeepsListeners (listeners, registered) event ↔
      listeners.EventSound event := by
  cases event with
  | registerOnListener type obj =>
      cases obj with
      | some obj => exact keepsListeners_registerOn_iff hholds hcounted type obj
      | none =>
          refine iff_of_true ⟨?_, hholds, ?_⟩ trivial
          · rintro ⟨⟩
          · rintro _ _ ⟨⟩ reached hreached -
            exact hreached
  | registerOffListener type obj =>
      cases obj with
      | some obj => exact keepsListeners_registerOff_iff hholds hcounted type obj
      | none =>
          refine iff_of_true ⟨?_, hholds, ?_⟩ trivial
          · rintro ⟨⟩
          · rintro _ _ ⟨⟩
  | notifyDied obj =>
      refine iff_of_true ⟨?_, ?_, ?_⟩ trivial
      · rintro ⟨⟩
      · cases obj with
        | none => exact hholds
        | some obj =>
            exact (holdsExactly_removeObject_iff hholds hcounted
              (fun _ => rfl) _).mpr rfl
      · rintro _ _ ⟨⟩

theorem recipientsCounted_step (event : ListenerEvent Obj) :
    (listeners.step event).2.RecipientsCounted := by
  cases event with
  | registerOnListener type obj =>
      cases obj with
      | none => exact hcounted
      | some obj =>
          rw [step, registerOn_some]
          split_ifs with hlisted
          · exact hcounted
          · exact hcounted
          · exact recipientsCounted_addObject hcounted hlisted
  | registerOffListener type obj =>
      cases obj with
      | none => exact hcounted
      | some obj =>
          exact recipientsCounted_removeObject hholds.nodup hcounted
            (removes_erase hholds.nodup obj)
  | notifyDied obj =>
      cases obj with
      | none => exact hcounted
      | some obj =>
          exact recipientsCounted_removeObject hholds.nodup hcounted
            fun _ => rfl

end HoldsExactly

end Steps

/-! ## Runs -/

omit [DecidableEq Obj] in
theorem holdsExactly_initial :
    HoldsExactly ({} : ContinueListeners Obj) ∅ where
  mem_iff type obj := by
    rw [objectsOf_of_none Std.TreeMap.getElem?_emptyc]
    simp
  nodup type := by
    rw [objectsOf_of_none Std.TreeMap.getElem?_emptyc]
    exact List.nodup_nil
  ne_nil type := by simp
  recipient_iff obj := by simp

/-- The map is the set of the registrations after every step, inside its bounds
and reaching who was reached, in exactly the runs whose steps are sound. -/
theorem meets_keepsListeners_iff (events : List (ListenerEvent Obj)) :
    EventRun.Meets trackedStep KeepsListeners
        (({} : ContinueListeners Obj), ∅) events ↔
      EventRun.Meets trackedStep (fun tracked => tracked.1.EventSound)
        (({} : ContinueListeners Obj), ∅) events := by
  have hgood : ∀ (tracked : ContinueListeners Obj × Set (Text × Obj))
      (event : ListenerEvent Obj),
      HoldsExactly tracked.1 tracked.2 ∧ tracked.1.RecipientsCounted →
      (KeepsListeners tracked event ↔ tracked.1.EventSound event) :=
    fun _ event hinv => keepsListeners_iff hinv.1 hinv.2 event
  refine EventRun.meets_iff_of_invariant hgood ?_ events
    ⟨holdsExactly_initial, fun _ => rfl⟩
  intro tracked event hinv hsound
  exact ⟨((hgood tracked event hinv).mpr hsound).holds,
    recipientsCounted_step hinv.1 hinv.2 event⟩

/-- An object is unregistered for one type and is gone from the other too. -/
theorem not_keepsListeners_of_two_types :
    ¬ EventRun.Meets trackedStep KeepsListeners
      (({} : ContinueListeners ℕ), ∅)
      [.registerOnListener ['a'] (some 1), .registerOnListener ['b'] (some 1),
        .registerOffListener ['a'] (some 1)] := by
  rintro ⟨-, -, hkeeps, -⟩
  have hregistered : (['b'], 1) ∈ registeredAfter
      (registeredAfter (registeredAfter (∅ : Set (Text × ℕ))
        (.registerOnListener ['a'] (some 1)))
        (.registerOnListener ['b'] (some 1)))
      (.registerOffListener ['a'] (some 1)) := by
    simp [registeredAfter]
  have hrecipient := (hkeeps.holds.recipient_iff 1).mpr ⟨['b'], hregistered⟩
  revert hrecipient
  decide

end ContinueListeners

end Dmsfwk
