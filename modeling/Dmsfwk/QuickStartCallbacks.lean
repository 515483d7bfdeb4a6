import Dmsfwk.ChannelManager
import Dmsfwk.EventRun

/-!
# The callbacks for the state of a quick start

An application registers a callback for the state of a quick start, which may be
notified before or after.  `FindStateCallbackData` answers with a copy and
`AddStateCallbackData` leaves an entry that exists as it is, so whatever is
written to the copy is lost: an entry keeps the callback or the state it was
made with until it is erased.
-/

namespace Dmsfwk

structure StateCallbackInfo where
  missionId : Int32 := -1
  bundleName : Text
  moduleName : Text
  abilityName : Text
  deriving DecidableEq, Repr

namespace StateCallbackInfo

def lt (lhs rhs : StateCallbackInfo) : Bool :=
  if compare lhs.missionId rhs.missionId = .lt then true
  else if compare rhs.missionId lhs.missionId = .lt then false
  else if compare lhs.bundleName rhs.bundleName = .lt then true
  else if compare rhs.bundleName lhs.bundleName = .lt then false
  else if compare lhs.moduleName rhs.moduleName = .lt then true
  else if compare rhs.moduleName lhs.moduleName = .lt then false
  else compare lhs.abilityName rhs.abilityName = .lt

instance : Ord StateCallbackInfo where
  compare := compareLex (compareOn missionId) (compareLex (compareOn bundleName)
    (compareLex (compareOn moduleName) (compareOn abilityName)))

instance : Std.TransOrd StateCallbackInfo :=
  inferInstanceAs (Std.TransCmp (compareLex _ _))

instance : Std.LawfulEqOrd StateCallbackInfo where
  eq_of_compare {lhs rhs} hcompare := by
    change compareLex _ (compareLex _ (compareLex _ _)) lhs rhs = .eq at hcompare
    simp only [compareLex_eq_eq] at hcompare
    obtain ⟨hmission, hbundle, hmodule, hability⟩ := hcompare
    have hmissionId : lhs.missionId = rhs.missionId :=
      Std.LawfulEqOrd.eq_of_compare hmission
    have hbundleName : lhs.bundleName = rhs.bundleName :=
      Std.LawfulEqOrd.eq_of_compare hbundle
    have hmoduleName : lhs.moduleName = rhs.moduleName :=
      Std.LawfulEqOrd.eq_of_compare hmodule
    have habilityName : lhs.abilityName = rhs.abilityName :=
      Std.LawfulEqOrd.eq_of_compare hability
    cases lhs
    simp_all

theorem compare_then_eq_lt {α : Type*} [Ord α] [Std.OrientedOrd α]
    {left right : α} {rest : Ordering} {restLt : Bool}
    (hrest : rest = .lt ↔ restLt = true) :
    (compare left right).then rest = .lt ↔
      (if compare left right = .lt then true
        else if compare right left = .lt then false else restLt) = true := by
  rw [@Std.OrientedOrd.eq_swap α _ _ left right]
  cases compare right left with
  | lt => simp
  | eq => simpa using hrest
  | gt => simp

theorem compare_eq_lt_iff (lhs rhs : StateCallbackInfo) :
    compare lhs rhs = .lt ↔ lhs.lt rhs = true :=
  compare_then_eq_lt (compare_then_eq_lt (compare_then_eq_lt (by simp [compareOn])))

end StateCallbackInfo

/-! ## The callbacks of the manager -/

namespace StateCallbacks

variable {Callback : Type*}

structure StateCallbackData (Callback : Type*) where
  remoteObject : Option Callback := none
  state : Int32 := -1
  message : Text := []
  deriving DecidableEq, Repr

/-- The request of `NotifyQuickStartState` to a callback. -/
structure StateRequest (Callback : Type*) where
  callback : Callback
  state : Int32
  message : Text
  deriving DecidableEq, Repr

inductive QuickStartErr where
  | errOk
  | errFlattenObject
  deriving DecidableEq, Repr

abbrev StateCallbackCache (Callback : Type*) :=
  Std.TreeMap StateCallbackInfo (StateCallbackData Callback)

namespace StateCallbackCache

def findStateCallbackData (cache : StateCallbackCache Callback)
    (info : StateCallbackInfo) : Option (StateCallbackData Callback) :=
  cache[info]?

/-- `emplace` leaves an entry that exists as it is. -/
def addStateCallbackData (cache : StateCallbackCache Callback)
    (info : StateCallbackInfo) (data : StateCallbackData Callback) :
    StateCallbackCache Callback :=
  cache.insertIfNew info data

def removeStateCallbackData (cache : StateCallbackCache Callback)
    (info : StateCallbackInfo) : StateCallbackCache Callback :=
  cache.erase info

/-- `written` says whether the parcel of the request can be written. -/
def notifyQuickStartState (cache : StateCallbackCache Callback)
    (info : StateCallbackInfo) (state : Int32) (message : Text)
    (written : Bool) :
    (QuickStartErr × Option (StateRequest Callback)) ×
      StateCallbackCache Callback :=
  match cache.findStateCallbackData info with
  | none =>
      ((.errOk, none), cache.addStateCallbackData info
        { state := state, message := message })
  | some data =>
      match data.remoteObject with
      | none =>
          ((.errOk, none), cache.addStateCallbackData info
            { data with state := state, message := message })
      | some callback =>
          if written then ((.errOk, some ⟨callback, state, message⟩), cache)
          else ((.errFlattenObject, none), cache)

/-- A state which is kept is notified once more; the notification does not see
the callback in the copy. -/
def continueStateCallbackRegister (cache : StateCallbackCache Callback)
    (info : StateCallbackInfo) (callback : Callback) (written : Bool) :
    (QuickStartErr × Option (StateRequest Callback)) ×
      StateCallbackCache Callback :=
  match cache.findStateCallbackData info with
  | none =>
      ((.errOk, none), cache.addStateCallbackData info
        { remoteObject := some callback })
  | some data =>
      if data.state ≠ -1 then
        cache.notifyQuickStartState info data.state data.message written
      else ((.errOk, none), cache)

def continueStateCallbackUnRegister (cache : StateCallbackCache Callback)
    (info : StateCallbackInfo) : QuickStartErr × StateCallbackCache Callback :=
  (.errOk, cache.removeStateCallbackData info)

end StateCallbackCache

inductive StateOperation (Callback : Type*) where
  | register (callback : Callback) (written : Bool)
  | notify (state : Int32) (message : Text) (written : Bool)
  | unregister
  deriving DecidableEq, Repr

def StateCallbackCache.step (cache : StateCallbackCache Callback) :
    StateCallbackInfo × StateOperation Callback →
      Option (StateRequest Callback) × StateCallbackCache Callback
  | (info, .register callback written) =>
      let next := cache.continueStateCallbackRegister info callback written
      (next.1.2, next.2)
  | (info, .notify state message written) =>
      let next := cache.notifyQuickStartState info state message written
      (next.1.2, next.2)
  | (info, .unregister) =>
      (none, (cache.continueStateCallbackUnRegister info).2)

/-! ## One entry -/

def entryStep (entry : Option (StateCallbackData Callback)) :
    StateOperation Callback →
      Option (StateRequest Callback) × Option (StateCallbackData Callback)
  | .register callback written =>
      match entry with
      | none => (none, some { remoteObject := some callback })
      | some data =>
          if data.state ≠ -1 ∧ written then
            (data.remoteObject.map (⟨·, data.state, data.message⟩), some data)
          else (none, some data)
  | .notify state message written =>
      match entry with
      | none => (none, some { state := state, message := message })
      | some data =>
          (if written then data.remoteObject.map (⟨·, state, message⟩)
            else none, some data)
  | .unregister => (none, none)

section Entries

variable {cache : StateCallbackCache Callback} {info : StateCallbackInfo}

theorem getElem?_insertIfNew_some {data : StateCallbackData Callback}
    (hdata : cache[info]? = some data) (added : StateCallbackData Callback)
    (found : StateCallbackInfo) :
    (cache.insertIfNew info added)[found]? = cache[found]? := by
  have hmem : info ∈ cache := by
    rw [Std.TreeMap.mem_iff_isSome_getElem?, hdata]
    rfl
  rw [Std.TreeMap.getElem?_insertIfNew]
  simp [hmem]

theorem notifyQuickStartState_some {data : StateCallbackData Callback}
    (hdata : cache[info]? = some data) (state : Int32) (message : Text)
    (written : Bool) :
    (cache.notifyQuickStartState info state message written).1.2 =
        (if written then data.remoteObject.map (⟨·, state, message⟩)
          else none) ∧
      ∀ found : StateCallbackInfo,
        (cache.notifyQuickStartState info state message written).2[found]? =
          cache[found]? := by
  unfold StateCallbackCache.notifyQuickStartState
    StateCallbackCache.findStateCallbackData
    StateCallbackCache.addStateCallbackData
  rw [hdata]
  dsimp only
  cases data.remoteObject with
  | none =>
      refine ⟨?_, getElem?_insertIfNew_some hdata _⟩
      cases written <;> rfl
  | some callback =>
      cases written with
      | true => exact ⟨rfl, fun _ => rfl⟩
      | false => exact ⟨rfl, fun _ => rfl⟩

theorem step_spec (cache : StateCallbackCache Callback)
    (info : StateCallbackInfo) (operation : StateOperation Callback) :
    (cache.step (info, operation)).1 = (entryStep cache[info]? operation).1 ∧
      ∀ found, (cache.step (info, operation)).2[found]? =
        if info = found then (entryStep cache[info]? operation).2
        else cache[found]? := by
  have hsame : ∀ {data : StateCallbackData Callback},
      cache[info]? = some data → ∀ found, cache[found]? =
        if info = found then some data else cache[found]? := by
    intro data hdata found
    split_ifs with hkey
    · rw [← hkey, hdata]
    · rfl
  cases operation with
  | unregister =>
      exact ⟨rfl, fun found => OrderedMap.getElem?_erase_eq info found⟩
  | notify state message written =>
      dsimp only [StateCallbackCache.step, entryStep]
      cases hdata : cache[info]? with
      | none =>
          unfold StateCallbackCache.notifyQuickStartState
            StateCallbackCache.findStateCallbackData
          rw [hdata]
          exact ⟨rfl, fun found =>
            OrderedMap.getElem?_insertIfNew_eq hdata found _⟩
      | some data =>
          obtain ⟨houtput, hkept⟩ :=
            notifyQuickStartState_some hdata state message written
          exact ⟨houtput, fun found => (hkept found).trans (hsame hdata found)⟩
  | register callback written =>
      dsimp only [StateCallbackCache.step, entryStep,
        StateCallbackCache.continueStateCallbackRegister,
        StateCallbackCache.findStateCallbackData]
      cases hdata : cache[info]? with
      | none =>
          exact ⟨rfl, fun found =>
            OrderedMap.getElem?_insertIfNew_eq hdata found _⟩
      | some data =>
          dsimp only
          by_cases hstate : data.state ≠ -1
          · obtain ⟨houtput, hkept⟩ := notifyQuickStartState_some hdata
              data.state data.message written
            rw [if_pos hstate, houtput]
            refine ⟨?_, fun found => ?_⟩
            · cases written <;> simp [hstate]
            · rw [hkept found, hsame hdata found]
              split_ifs <;> rfl
          · rw [if_neg hstate, if_neg (fun h => hstate h.1)]
            exact ⟨rfl, hsame hdata⟩

end Entries

/-! ## What the callbacks are promised -/

/-- What one key has seen: the callback registered last, the one registered
first since the last removal, and the state to be sent to the next callback. -/
structure StateHistory (Callback : Type*) where
  callback : Option Callback := none
  first : Option Callback := none
  kept : Option (Int32 × Text) := none
  deriving DecidableEq

/-- The promise.  `forgets` says whether a removal drops a state which no
callback has got. -/
def StateHistory.step (forgets : Bool) (history : StateHistory Callback) :
    StateOperation Callback →
      Option (StateRequest Callback) × StateHistory Callback
  | .register callback _ =>
      (history.kept.map fun kept => ⟨callback, kept.1, kept.2⟩,
        { callback := some callback
          first := history.first.or (some callback)
          kept := none })
  | .notify state message _ =>
      match history.callback with
      | some callback => (some ⟨callback, state, message⟩, history)
      | none => (none, { history with kept := some (state, message) })
  | .unregister =>
      (none, { callback := none
               first := none
               kept := if forgets then none else history.kept })

/-- The parcel can be written, no state is kept for a callback which registers,
and the callback which is registered has replaced no other one. -/
def StateHistory.Guard (history : StateHistory Callback) :
    StateOperation Callback → Prop
  | .register _ _ => history.kept = none
  | .notify _ _ written =>
      history.callback.isSome →
        written = true ∧ history.callback = history.first
  | .unregister => True

structure Tracks (entry : Option (StateCallbackData Callback))
    (history : StateHistory Callback) : Prop where
  first : (entry.bind StateCallbackData.remoteObject) = history.first
  isSome : history.first.isSome = history.callback.isSome
  kept : history.kept.isSome → history.callback = none
  pending : ∀ data ∈ entry, data.remoteObject = none → history.kept.isSome
  sent : ∀ data ∈ entry, data.remoteObject.isSome → data.state = -1

section Promise

variable {forgets : Bool} {entry : Option (StateCallbackData Callback)}
  {history : StateHistory Callback} {operation : StateOperation Callback}

theorem Tracks.register_silent (htracks : Tracks entry history)
    (callback : Callback) (written : Bool) :
    (entryStep entry (.register callback written)).1 = none := by
  cases entry with
  | none => rfl
  | some data =>
      have hsent := htracks.sent data rfl
      dsimp only [entryStep]
      split_ifs with hstate
      · cases hremote : data.remoteObject with
        | none => rfl
        | some remote =>
            rw [hremote] at hsent
            exact absurd (hsent rfl) hstate.1
      · rfl

theorem Tracks.notify_output (htracks : Tracks entry history) (state : Int32)
    (message : Text) (written : Bool) :
    (entryStep entry (.notify state message written)).1 =
      if written then history.first.map (⟨·, state, message⟩) else none := by
  have hfirst := htracks.first
  cases entry with
  | none =>
      rw [← hfirst]
      cases written <;> rfl
  | some data =>
      rw [← hfirst]
      rfl

theorem Tracks.output_iff (htracks : Tracks entry history) :
    (entryStep entry operation).1 = (history.step forgets operation).1 ↔
      history.Guard operation := by
  cases operation with
  | unregister => exact iff_of_true rfl trivial
  | register callback written =>
      rw [htracks.register_silent]
      dsimp only [StateHistory.step, StateHistory.Guard]
      rw [eq_comm, Option.map_eq_none_iff]
  | notify state message written =>
      have hsome := htracks.isSome
      rw [htracks.notify_output]
      dsimp only [StateHistory.step, StateHistory.Guard]
      cases hcallback : history.callback with
      | none =>
          rw [hcallback, Option.isSome_none, Option.isSome_eq_false_iff,
            Option.isNone_iff_eq_none] at hsome
          rw [hsome]
          simp
      | some callback =>
          rw [hcallback] at hsome
          obtain ⟨first, hfirst⟩ := Option.isSome_iff_exists.mp hsome
          rw [hfirst]
          cases written with
          | true => simp [eq_comm]
          | false => simp

theorem Tracks.next (htracks : Tracks entry history)
    (hguard : history.Guard operation) :
    Tracks (entryStep entry operation).2 (history.step forgets operation).2 := by
  obtain ⟨hfirst, hsome, hkept, hpending, hsent⟩ := htracks
  cases operation with
  | unregister => exact ⟨rfl, rfl, fun _ => rfl, nofun, nofun⟩
  | register callback written =>
      change history.kept = none at hguard
      cases entry with
      | none =>
          dsimp only [entryStep, StateHistory.step]
          rw [← hfirst]
          refine ⟨rfl, rfl, nofun, ?_, ?_⟩
          · rintro data ⟨⟩ hnone
            cases hnone
          · rintro data ⟨⟩ -
            rfl
      | some data =>
          have hremote : data.remoteObject ≠ none := by
            intro hnone
            have hstill := hpending data rfl hnone
            rw [hguard] at hstill
            cases hstill
          have hentry : (entryStep (some data)
              (.register callback written)).2 = some data := by
            dsimp only [entryStep]
            split_ifs <;> rfl
          obtain ⟨first, hdata⟩ := Option.ne_none_iff_exists'.mp hremote
          have hhistory : history.first = some first := hfirst ▸ hdata
          rw [hentry]
          dsimp only [StateHistory.step]
          rw [hhistory]
          refine ⟨hdata, rfl, nofun, ?_, hsent⟩
          rintro data' ⟨⟩ hnone
          exact absurd hnone hremote
  | notify state message written =>
      dsimp only [StateHistory.step]
      cases hcallback : history.callback with
      | some callback =>
          cases entry with
          | none =>
              rw [← hfirst, hcallback] at hsome
              cases hsome
          | some data => exact ⟨hfirst, hsome, hkept, hpending, hsent⟩
      | none =>
          rw [hcallback] at hsome
          cases entry with
          | none =>
              refine ⟨hfirst, hsome, fun _ => rfl, fun _ _ _ => rfl, ?_⟩
              rintro data ⟨⟩ hremote
              cases hremote
          | some data =>
              exact ⟨hfirst, hsome, fun _ => rfl, fun _ _ _ => rfl, hsent⟩

end Promise

def KeepsPromise (forgets : Bool)
    (events : List (StateCallbackInfo × StateOperation Callback))
    (info : StateCallbackInfo) : Prop :=
  EventRun.outputsOf info events
      (EventRun.run StateCallbackCache.step (∅ : StateCallbackCache Callback)
        events).1 =
    (EventRun.run (StateHistory.step forgets) {}
      (EventRun.eventsOf info events)).1

theorem keepsPromise_iff (forgets : Bool)
    (events : List (StateCallbackInfo × StateOperation Callback))
    (info : StateCallbackInfo) :
    KeepsPromise forgets events info ↔
      EventRun.Meets (StateHistory.step forgets) StateHistory.Guard {}
        (EventRun.eventsOf info events) := by
  have hstart : Tracks ((∅ : StateCallbackCache Callback)[info]?)
      ({} : StateHistory Callback) := by
    rw [Std.TreeMap.getElem?_emptyc]
    exact ⟨rfl, rfl, nofun, nofun, nofun⟩
  unfold KeepsPromise
  rw [@EventRun.outputsOf_run _ _ _ _ _ _ StateCallbackCache.step entryStep
    (fun cache info => cache[info]?) (fun cache info operation =>
      (step_spec cache info operation).1) (fun cache info operation =>
        (step_spec cache info operation).2)]
  exact EventRun.run_outputs_eq_iff (fun _ _ _ htracks => htracks.output_iff)
    (fun _ _ _ htracks hguard => htracks.next hguard) _ hstart

def sampleInfo : StateCallbackInfo := ⟨1, ['b'], ['m'], ['a']⟩

def stateFirst : List (StateCallbackInfo × StateOperation ℕ) :=
  [(sampleInfo, .notify 0 ['o', 'k'] true), (sampleInfo, .register 5 true)]

def replacedCallback : List (StateCallbackInfo × StateOperation ℕ) :=
  [(sampleInfo, .register 5 true), (sampleInfo, .register 6 true),
    (sampleInfo, .notify 0 ['o', 'k'] true)]

theorem not_keepsPromise_stateFirst :
    ¬(KeepsPromise true stateFirst sampleInfo ∨
        KeepsPromise false stateFirst sampleInfo) ∧
      ¬(KeepsPromise true replacedCallback sampleInfo ∨
        KeepsPromise false replacedCallback sampleInfo) := by
  unfold KeepsPromise
  decide +kernel

end StateCallbacks

end Dmsfwk
