import Dmsfwk.DistributedAbilityManagerService

/-!
# Event listeners

The callbacks for continuations and the callbacks for collaborations are in two
lists.  A call for both is two calls with `&&` between them, so the second list
is left alone whenever the first one had nothing to change.
-/

namespace Dmsfwk
namespace DSchedEventListeners

open SchedErr EventRun

inductive DSchedEventType where
  | dmsUnknow
  | dmsContinue
  | dmsCollaboration
  | dmsAll
  deriving DecidableEq, Repr

structure EventListeners where
  continuationCallbackArr : List RemoteObject := []
  collaborateCbArr : List RemoteObject := []

inductive ListenerCall where
  | register (type : DSchedEventType) (callback : RemoteObject)
  | unRegister (type : DSchedEventType) (callback : RemoteObject)
  | onRemoteDied (remote : RemoteObject)

def pushCallback (callback : RemoteObject) (callbacks : List RemoteObject) :
    Bool × List RemoteObject :=
  if callback = 0 then (false, callbacks)
  else if callback ∈ callbacks then (false, callbacks)
  else (true, callbacks ++ [callback])

def cleanupCallback (callback : RemoteObject) (callbacks : List RemoteObject) :
    Bool × List RemoteObject :=
  if callback ∈ callbacks then (true, callbacks.erase callback)
  else (false, callbacks)

namespace EventListeners

/-- `change` on the list of the type, and for both types on the second list only
when it returned true for the first one. -/
def changeCallbacks (change : List RemoteObject → Bool × List RemoteObject)
    (listeners : EventListeners) : DSchedEventType → Bool × EventListeners
  | .dmsUnknow => (false, listeners)
  | .dmsContinue =>
      let changed := change listeners.continuationCallbackArr
      (changed.1, { listeners with continuationCallbackArr := changed.2 })
  | .dmsCollaboration =>
      let changed := change listeners.collaborateCbArr
      (changed.1, { listeners with collaborateCbArr := changed.2 })
  | .dmsAll =>
      let changed := change listeners.continuationCallbackArr
      let first := { listeners with continuationCallbackArr := changed.2 }
      if changed.1 then
        let second := change first.collaborateCbArr
        (second.1, { first with collaborateCbArr := second.2 })
      else (false, first)

def registerDSchedEventListener (listeners : EventListeners)
    (type : DSchedEventType) (callback : RemoteObject) : Int32 × EventListeners :=
  if type = .dmsUnknow then (invalidParametersErr, listeners)
  else
    let (ret, pushed) := listeners.changeCallbacks (pushCallback callback) type
    (if ret then errOk else callbackHasNotRegistered, pushed)

def unRegisterDSchedEventListener (listeners : EventListeners)
    (type : DSchedEventType) (callback : RemoteObject) : Int32 × EventListeners :=
  (0, (listeners.changeCallbacks (cleanupCallback callback) type).2)

def step (listeners : EventListeners) : ListenerCall → Int32 × EventListeners
  | .register type callback => listeners.registerDSchedEventListener type callback
  | .unRegister type callback =>
      listeners.unRegisterDSchedEventListener type callback
  | .onRemoteDied remote => listeners.unRegisterDSchedEventListener .dmsAll remote

end EventListeners

/-! ## What should hold -/

inductive Listed where
  | continuation
  | collaboration

namespace Listed

def namedBy : Listed → DSchedEventType → Bool
  | .continuation, type => type = .dmsContinue ∨ type = .dmsAll
  | .collaboration, type => type = .dmsCollaboration ∨ type = .dmsAll

end Listed

namespace ListenerCall

def type : ListenerCall → DSchedEventType
  | .register type _ | .unRegister type _ => type
  | .onRemoteDied _ => .dmsAll

def callback : ListenerCall → RemoteObject
  | .register _ callback | .unRegister _ callback => callback
  | .onRemoteDied remote => remote

def registers : ListenerCall → Bool
  | .register _ _ => true
  | .unRegister _ _ | .onRemoteDied _ => false

def change : ListenerCall → List RemoteObject → Bool × List RemoteObject
  | .register _ callback => pushCallback callback
  | .unRegister _ callback | .onRemoteDied callback => cleanupCallback callback

end ListenerCall

/-- Whether the last call for the callback that names the list was a
registration; the calls stand latest first. -/
def lastRegisters (listed : Listed) (callback : RemoteObject) :
    List ListenerCall → Bool
  | [] => false
  | call :: calls =>
      if call.callback = callback ∧ listed.namedBy call.type = true then
        call.registers
      else lastRegisters listed callback calls

/-- The list holds what the calls say, once each; a null pointer is no
callback. -/
structure HoldsLast (listed : Listed) (calls : List ListenerCall)
    (callbacks : List RemoteObject) : Prop where
  mem_iff : ∀ callback, callback ∈ callbacks ↔
    callback ≠ 0 ∧ lastRegisters listed callback calls = true
  nodup : callbacks.Nodup

namespace EventListeners

def callbacks (listeners : EventListeners) : Listed → List RemoteObject
  | .continuation => listeners.continuationCallbackArr
  | .collaboration => listeners.collaborateCbArr

def HoldLast (tracked : EventListeners × List ListenerCall) : Prop :=
  ∀ listed, HoldsLast listed tracked.2 (tracked.1.callbacks listed)

/-- A call for both types that has nothing to change in the first list has
nothing to change in the second one. -/
def CallSound (listeners : EventListeners) (call : ListenerCall) : Prop :=
  call.type = .dmsAll → call.callback ≠ 0 →
    (call.callback ∈ listeners.continuationCallbackArr ↔ call.registers = true) →
    (call.callback ∈ listeners.collaborateCbArr ↔ call.registers = true)

def trackedStep (tracked : EventListeners × List ListenerCall)
    (call : ListenerCall) : Int32 × EventListeners × List ListenerCall :=
  let stepped := tracked.1.step call
  (stepped.1, stepped.2, call :: tracked.2)

end EventListeners

/-! ## One list -/

section OneList

variable {listed : Listed} {call : ListenerCall} {calls : List ListenerCall}
  {callbacks : List RemoteObject}

theorem mem_change (hnull : 0 ∉ callbacks) (hnodup : callbacks.Nodup)
    (callback : RemoteObject) :
    callback ∈ (call.change callbacks).2 ↔ callback ≠ 0 ∧
      if call.callback = callback then call.registers = true
      else callback ∈ callbacks := by
  have hmem : callback ∈ callbacks → callback ≠ 0 := fun hin hzero =>
    hnull (hzero ▸ hin)
  cases call with
  | register type other =>
      simp only [ListenerCall.change, pushCallback, ListenerCall.callback,
        ListenerCall.registers]
      grind
  | unRegister type other | onRemoteDied other =>
      simp only [ListenerCall.change, cleanupCallback, ListenerCall.callback,
        ListenerCall.registers]
      split
      · rw [hnodup.mem_erase_iff]
        grind
      · grind

theorem nodup_change (hnodup : callbacks.Nodup) :
    (call.change callbacks).2.Nodup := by
  cases call with
  | register type other =>
      simp only [ListenerCall.change, pushCallback]
      grind [List.nodup_append]
  | unRegister type other | onRemoteDied other =>
      simp only [ListenerCall.change, cleanupCallback]
      split
      · exact hnodup.erase other
      · exact hnodup

theorem change_fst_iff (hnull : 0 ∉ callbacks) :
    (call.change callbacks).1 = true ↔ call.callback ≠ 0 ∧
      ¬ (call.callback ∈ callbacks ↔ call.registers = true) := by
  cases call with
  | register type other =>
      simp only [ListenerCall.change, pushCallback, ListenerCall.callback,
        ListenerCall.registers]
      grind
  | unRegister type other | onRemoteDied other =>
      simp only [ListenerCall.change, cleanupCallback, ListenerCall.callback,
        ListenerCall.registers]
      grind

namespace HoldsLast

section HoldsLast

variable (hholds : HoldsLast listed calls callbacks)

include hholds

theorem null_notMem :
    0 ∉ callbacks :=
  fun hin => ((hholds.mem_iff 0).mp hin).1 rfl

theorem change (hnamed : listed.namedBy call.type = true) :
    HoldsLast listed (call :: calls) (call.change callbacks).2 where
  mem_iff callback := by
    rw [mem_change hholds.null_notMem hholds.nodup, lastRegisters]
    simp only [hnamed, and_true]
    refine and_congr_right fun hne => ?_
    split
    · rfl
    · rw [hholds.mem_iff, and_iff_right hne]
  nodup := nodup_change hholds.nodup

theorem skip (hnamed : listed.namedBy call.type = false) :
    HoldsLast listed (call :: calls) callbacks where
  mem_iff callback := by
    rw [hholds.mem_iff, lastRegisters]
    simp [hnamed]
  nodup := hholds.nodup

theorem miss_iff (hnamed : listed.namedBy call.type = true) :
    HoldsLast listed (call :: calls) callbacks ↔
      (call.callback ≠ 0 →
        (call.callback ∈ callbacks ↔ call.registers = true)) := by
  constructor
  · intro hmissed hne
    rw [hmissed.mem_iff, lastRegisters]
    simp [hnamed, hne]
  · intro hwanted
    refine ⟨fun callback => ?_, hholds.nodup⟩
    rw [lastRegisters]
    by_cases hsame : call.callback = callback
    · subst hsame
      by_cases hzero : call.callback = 0
      · simp [hzero, hholds.null_notMem]
      · simp [hnamed, hzero, hwanted hzero]
    · simp [hsame, hholds.mem_iff]

end HoldsLast

end HoldsLast
end OneList

/-! ## Both lists -/

namespace EventListeners

variable {listeners : EventListeners} {call : ListenerCall}
  {calls : List ListenerCall}

theorem step_snd :
    (listeners.step call).2 =
      (listeners.changeCallbacks call.change call.type).2 := by
  cases call with
  | register type callback =>
      rw [step, registerDSchedEventListener]
      split
      · next htype =>
          subst htype
          rfl
      · rfl
  | unRegister type callback | onRemoteDied callback => rfl

theorem holdLast_iff :
    HoldLast (listeners, calls) ↔
      HoldsLast .continuation calls listeners.continuationCallbackArr ∧
        HoldsLast .collaboration calls listeners.collaborateCbArr := by
  constructor
  · exact fun hholds => ⟨hholds .continuation, hholds .collaboration⟩
  · rintro ⟨hcontinuation, hcollaboration⟩ (_ | _)
    · exact hcontinuation
    · exact hcollaboration

theorem HoldLast.step_iff (hholds : HoldLast (listeners, calls)) :
    HoldLast (trackedStep (listeners, calls) call).2 ↔
      listeners.CallSound call := by
  obtain ⟨hfirst, hsecond⟩ := holdLast_iff.mp hholds
  rw [trackedStep, holdLast_iff, step_snd, CallSound]
  cases htype : call.type with
  | dmsUnknow =>
      refine iff_of_true ⟨hfirst.skip ?_, hsecond.skip ?_⟩ (by simp) <;>
        rw [htype] <;> rfl
  | dmsContinue =>
      refine iff_of_true ⟨hfirst.change ?_, hsecond.skip ?_⟩ (by simp) <;>
        rw [htype] <;> rfl
  | dmsCollaboration =>
      refine iff_of_true ⟨hfirst.skip ?_, hsecond.change ?_⟩ (by simp) <;>
        rw [htype] <;> rfl
  | dmsAll =>
      have hnamed : ∀ listed : Listed, listed.namedBy call.type = true := by
        rintro (_ | _) <;> rw [htype] <;> rfl
      have hchanged := @change_fst_iff call _ hfirst.null_notMem
      rw [changeCallbacks]
      simp only [true_imp_iff]
      split
      · next hone =>
          refine iff_of_true ⟨hfirst.change (hnamed _), hsecond.change (hnamed _)⟩ ?_
          exact fun _ hwanted => absurd hwanted (hchanged.mp hone).2
      · next hnone =>
          rw [and_iff_right (hfirst.change (hnamed _)),
            hsecond.miss_iff (hnamed _)]
          refine imp_congr_right fun hne => ?_
          rw [hchanged, not_and_not_right] at hnone
          exact ⟨fun h _ => h, fun h => h (hnone hne)⟩

/-- In every state of a run the lists hold what the calls up to there say
exactly when every call is sound. -/
theorem holdLast_run_iff (calls : List ListenerCall) :
    (∀ made, made <+: calls → HoldLast (run trackedStep ({}, []) made).2) ↔
      Meets trackedStep (fun tracked call => tracked.1.CallSound call)
        ({}, []) calls := by
  have hstart : HoldLast ({}, []) := by
    rintro (_ | _) <;> exact ⟨by simp [callbacks, lastRegisters], List.nodup_nil⟩
  refine forall_prefix_iff ?_ ?_ calls hstart hstart
  · intro tracked call hholds _
    exact hholds.step_iff
  · intro tracked call hholds _ hsound
    exact hholds.step_iff.mpr hsound

/-- A callback for collaborations dies: it was never in the first list, so it
stays in the second one. -/
theorem not_holdLast_collaborationDied :
    ¬ ∀ made, made <+:
        [.register .dmsCollaboration 1, ListenerCall.onRemoteDied 1] →
      HoldLast (run trackedStep ({}, []) made).2 := by
  intro hholds
  have hmem := (hholds _ List.prefix_rfl .collaboration).mem_iff 1
  revert hmem
  decide

end EventListeners
end DSchedEventListeners
end Dmsfwk
