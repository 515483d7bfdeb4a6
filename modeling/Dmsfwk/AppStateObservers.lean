import Dmsfwk.AbilityCall

/-!
# Observers of application states

One observer for each bundle is registered with the application manager, and
one entry for each wrapper says which bundle it waits for.  The map of the
bundles is filled before the registration that can fail, and an entry of a
wrapper is overwritten without a look at the bundle it had.
-/

namespace Dmsfwk
namespace AppStateObservers

open SchedErr OrderedMap EventRun

/-! ## The two maps -/

/-- An entry of `observerMap_`; an observer is its number of creation. -/
structure StateObserver where
  appStateObserver : ℕ
  srcDeviceId : Text
  connectToken : ℤ
  dstBundleName : Text
  dstAbilityName : Text
  srcConnect : RemoteObject

/-- The last two fields are not of the service: the observers that the
application manager has, with their bundles, and the number of observers that
were made. -/
structure Observers where
  bundleNameMap : Std.TreeMap Text ℕ := ∅
  observerMap : Std.TreeMap RemoteObject StateObserver := ∅
  registered : Std.TreeMap ℕ Text := ∅
  made : ℕ := 0

structure RegisterCall where
  connectToken : ℤ
  element : ElementName
  srcDeviceId : Text
  srcConnect : RemoteObject
  callbackWrapper : RemoteObject
  appManager : Bool := true
  ret : Int32 := errOk

structure UnregisterCall where
  callbackWrapper : RemoteObject
  appManager : Bool := true
  ret : Int32 := errOk

inductive ObserverEvent where
  | register (call : RegisterCall)
  | unregister (call : UnregisterCall)

def Observers.addObserver (call : RegisterCall) (appStateObserver : ℕ)
    (observers : Observers) : Observers :=
  { observers with
      observerMap := observers.observerMap.insert call.callbackWrapper {
        appStateObserver := appStateObserver
        srcDeviceId := call.srcDeviceId
        connectToken := call.connectToken
        dstBundleName := call.element.bundleName
        dstAbilityName := call.element.abilityName
        srcConnect := call.srcConnect } }

def Observers.makeObserver (bundleName : Text) (observers : Observers) : Observers :=
  { observers with
      bundleNameMap := observers.bundleNameMap.insert bundleName observers.made
      made := observers.made + 1 }

def Observers.registerAppStateObserver (call : RegisterCall) (observers : Observers) :
    Bool × Observers :=
  if call.connectToken = defaultDmsConnectToken then (false, observers)
  else if !call.appManager then (false, observers)
  else
    let bundleName := call.element.bundleName
    match observers.bundleNameMap[bundleName]? with
    | some appStateObserver => (true, observers.addObserver call appStateObserver)
    | none =>
        let made := observers.makeObserver bundleName
        if call.ret ≠ errOk then (false, made)
        else
          let registered :=
            { made with registered := made.registered.insert observers.made bundleName }
          (true, registered.addObserver call observers.made)

def isLast (bundleName : Text)
    (observerMap : Std.TreeMap RemoteObject StateObserver) : Bool :=
  observerMap.toList.all fun entry => entry.2.dstBundleName ≠ bundleName

def Observers.unregisterAppStateObserver (call : UnregisterCall) (observers : Observers) :
    Observers :=
  if call.callbackWrapper = 0 then observers
  else match observers.observerMap[call.callbackWrapper]? with
    | none => observers
    | some found =>
        let observerMap := observers.observerMap.erase call.callbackWrapper
        if isLast found.dstBundleName observerMap then
          let erased := { observers with
            observerMap := observerMap
            bundleNameMap := observers.bundleNameMap.erase found.dstBundleName }
          if !call.appManager ∨ call.ret ≠ errOk then erased
          else { erased with
            registered := erased.registered.erase found.appStateObserver }
        else { observers with observerMap := observerMap }

def step (observers : Observers) : ObserverEvent → Option Bool × Observers
  | .register call =>
      let (result, next) := observers.registerAppStateObserver call
      (some result, next)
  | .unregister call => (none, observers.unregisterAppStateObserver call)

/-! ## What should hold -/

namespace Observers

def WaitsFor (observers : Observers) (wrapper : RemoteObject)
    (bundleName : Text) : Prop :=
  ∃ entry, observers.observerMap[wrapper]? = some entry ∧
    entry.dstBundleName = bundleName

/-- A bundle is in the map when a wrapper waits for it, and when the application
manager has an observer for it. -/
structure InStep (observers : Observers) : Prop where
  waited : ∀ bundleName, bundleName ∈ observers.bundleNameMap ↔
    ∃ wrapper, observers.WaitsFor wrapper bundleName
  registered : ∀ bundleName, bundleName ∈ observers.bundleNameMap ↔
    ∃ appStateObserver : ℕ,
      observers.registered[appStateObserver]? = some bundleName

/-- The maps are in step behind the call, and a failed registration leaves
them. -/
structure KeepsInStep (observers : Observers) (event : ObserverEvent) :
    Prop where
  inStep : (step observers event).2.InStep
  failed : (step observers event).1 = some false →
    (step observers event).2.bundleNameMap = observers.bundleNameMap ∧
    (step observers event).2.observerMap = observers.observerMap ∧
    (step observers event).2.registered = observers.registered

def ReplacesSafely (observers : Observers) (call : RegisterCall) : Prop :=
  ∀ old, observers.observerMap[call.callbackWrapper]? = some old →
    old.dstBundleName ≠ call.element.bundleName →
      ∃ other, other ≠ call.callbackWrapper ∧
        observers.WaitsFor other old.dstBundleName

/-- A new bundle is accepted by the application manager, a wrapper goes to
another bundle only when its old one has other wrappers, and the observer of a
last wrapper can be taken back. -/
def EventSound (observers : Observers) : ObserverEvent → Prop
  | .register call =>
      call.connectToken ≠ defaultDmsConnectToken → call.appManager = true →
        (call.element.bundleName ∉ observers.bundleNameMap →
          call.ret = errOk) ∧ observers.ReplacesSafely call
  | .unregister call =>
      call.callbackWrapper ≠ 0 → ∀ found,
        observers.observerMap[call.callbackWrapper]? = some found →
        (∀ other, other ≠ call.callbackWrapper →
          ¬ observers.WaitsFor other found.dstBundleName) →
        call.appManager = true ∧ call.ret = errOk

/-- The entries know the observer of their bundle, and the application manager
has the observers of the map. -/
structure Linked (observers : Observers) : Prop where
  entries : ∀ (wrapper : RemoteObject) (entry : StateObserver),
    observers.observerMap[wrapper]? = some entry →
      observers.bundleNameMap[entry.dstBundleName]? =
        some entry.appStateObserver
  registered : ∀ (appStateObserver : ℕ) (bundleName : Text),
    observers.registered[appStateObserver]? = some bundleName ↔
      observers.bundleNameMap[bundleName]? = some appStateObserver
  fresh : ∀ (bundleName : Text) (appStateObserver : ℕ),
    observers.bundleNameMap[bundleName]? = some appStateObserver →
      appStateObserver < observers.made

structure Kept (observers : Observers) : Prop extends Linked observers where
  waited : ∀ bundleName ∈ observers.bundleNameMap,
    ∃ wrapper, observers.WaitsFor wrapper bundleName

section Steps

variable {observers : Observers} {call : RegisterCall} {appStateObserver : ℕ}

theorem mem_bundleNameMap_iff {bundleName : Text} :
    bundleName ∈ observers.bundleNameMap ↔
      ∃ found, observers.bundleNameMap[bundleName]? = some found := by
  rw [Std.TreeMap.mem_iff_isSome_getElem?, Option.isSome_iff_exists]

theorem Kept.inStep (hkept : Kept observers) : InStep observers where
  waited bundleName := by
    refine ⟨hkept.waited bundleName, ?_⟩
    rintro ⟨wrapper, entry, hentry, rfl⟩
    exact mem_bundleNameMap_iff.mpr ⟨_, hkept.entries wrapper entry hentry⟩
  registered bundleName := by
    rw [mem_bundleNameMap_iff]
    exact exists_congr fun found => (hkept.registered found bundleName).symm

/-! ## Registration -/

/-- The maps when the observer of a bundle is known and the entry of the wrapper
is still to be set. -/
structure Ready (observers : Observers) (call : RegisterCall)
    (appStateObserver : ℕ) : Prop extends Linked observers where
  waited : ∀ bundleName ∈ observers.bundleNameMap,
    bundleName ≠ call.element.bundleName →
      ∃ wrapper, observers.WaitsFor wrapper bundleName
  known : observers.bundleNameMap[call.element.bundleName]? =
    some appStateObserver

theorem waitsFor_addObserver (wrapper : RemoteObject) (bundleName : Text) :
    (observers.addObserver call appStateObserver).WaitsFor wrapper bundleName ↔
      if call.callbackWrapper = wrapper then
        call.element.bundleName = bundleName
      else observers.WaitsFor wrapper bundleName := by
  unfold WaitsFor addObserver
  simp only [getElem?_insert_eq]
  split_ifs <;> simp

theorem Ready.kept (hready : Ready observers call appStateObserver)
    (hsafe : observers.ReplacesSafely call) :
    Kept (observers.addObserver call appStateObserver) where
  entries := by
    intro wrapper entry hentry
    dsimp only [addObserver] at hentry ⊢
    rw [getElem?_insert_eq] at hentry
    split_ifs at hentry
    · rw [← Option.some.inj hentry]
      exact hready.known
    · exact hready.entries wrapper entry hentry
  registered := hready.registered
  fresh := hready.fresh
  waited := by
    intro bundleName hmem
    simp only [waitsFor_addObserver]
    by_cases hsame : call.element.bundleName = bundleName
    · exact ⟨call.callbackWrapper, by rw [if_pos rfl]; exact hsame⟩
    · obtain ⟨wrapper, hwaits⟩ := hready.waited bundleName hmem (Ne.symm hsame)
      by_cases hwrapper : call.callbackWrapper = wrapper
      · -- the entry that is overwritten was one of several
        obtain ⟨old, hold, rfl⟩ := hwaits
        obtain ⟨other, hother, hwaits⟩ :=
          hsafe old (hwrapper ▸ hold) (Ne.symm hsame)
        exact ⟨other, by rw [if_neg (Ne.symm hother)]; exact hwaits⟩
      · exact ⟨wrapper, by rw [if_neg hwrapper]; exact hwaits⟩

theorem Ready.inStep_iff (hready : Ready observers call appStateObserver) :
    (observers.addObserver call appStateObserver).InStep ↔
      observers.ReplacesSafely call := by
  refine ⟨fun hinStep old hold hne => ?_, fun hsafe => (hready.kept hsafe).inStep⟩
  have hmem : old.dstBundleName ∈ observers.bundleNameMap :=
    mem_bundleNameMap_iff.mpr ⟨_, hready.entries _ old hold⟩
  obtain ⟨other, hwaits⟩ := (hinStep.waited old.dstBundleName).mp hmem
  rw [waitsFor_addObserver] at hwaits
  split_ifs at hwaits with hwrapper
  · exact absurd hwaits.symm hne
  · exact ⟨other, Ne.symm hwrapper, hwaits⟩

theorem Kept.ready (hkept : Kept observers)
    (hknown : observers.bundleNameMap[call.element.bundleName]? =
      some appStateObserver) : Ready observers call appStateObserver where
  toLinked := hkept.toLinked
  waited bundleName hmem _ := hkept.waited bundleName hmem
  known := hknown

theorem Kept.ready_made (hkept : Kept observers)
    (hnew : observers.bundleNameMap[call.element.bundleName]? = none) :
    Ready { observers.makeObserver call.element.bundleName with
      registered :=
        observers.registered.insert observers.made call.element.bundleName }
      call observers.made where
  entries := by
    intro wrapper entry hentry
    have hold := hkept.entries wrapper entry hentry
    dsimp only [makeObserver]
    rw [getElem?_insert_eq, if_neg]
    · exact hold
    · intro hsame
      rw [← hsame, hnew] at hold
      cases hold
  registered := by
    intro found bundleName
    dsimp only [makeObserver]
    rw [getElem?_insert_eq, getElem?_insert_eq]
    split_ifs with hfound hbundle hbundle
    · exact iff_of_true (congrArg some hbundle) (congrArg some hfound)
    · refine iff_of_false (fun h => hbundle (Option.some.inj h)) fun h => ?_
      exact absurd (hfound ▸ hkept.fresh bundleName found h) (lt_irrefl _)
    · refine iff_of_false (fun h => ?_) fun h => hfound (Option.some.inj h)
      have hold := (hkept.registered found bundleName).mp h
      rw [← hbundle, hnew] at hold
      cases hold
    · exact hkept.registered found bundleName
  fresh := by
    intro bundleName found hfound
    dsimp only [makeObserver] at hfound ⊢
    rw [getElem?_insert_eq] at hfound
    split_ifs at hfound
    · rw [← Option.some.inj hfound]
      exact Nat.lt_succ_self _
    · exact (hkept.fresh bundleName found hfound).trans (Nat.lt_succ_self _)
  waited := by
    intro bundleName hmem hne
    refine hkept.waited bundleName ?_
    dsimp only [makeObserver] at hmem
    rw [Std.TreeMap.mem_insert, Std.compare_eq_iff_eq] at hmem
    exact hmem.resolve_left (Ne.symm hne)
  known := by
    dsimp only [makeObserver]
    rw [getElem?_insert_eq, if_pos rfl]

theorem keepsInStep_of_unchanged {event : ObserverEvent}
    (hkept : Kept observers)
    (hunchanged : (step observers event).2 = observers) :
    KeepsInStep observers event := by
  refine ⟨hunchanged.symm ▸ hkept.inStep, fun _ => ?_⟩
  rw [hunchanged]
  exact ⟨rfl, rfl, rfl⟩

theorem register_of_ready {ready : Observers}
    (hready : Ready ready call appStateObserver)
    (hstep : step observers (.register call) =
      (some true, ready.addObserver call appStateObserver)) :
    (KeepsInStep observers (.register call) ↔ ready.ReplacesSafely call) ∧
      (ready.ReplacesSafely call →
        Kept (step observers (.register call)).2) := by
  have hfailed : (step observers (.register call)).1 ≠ some false := by
    rw [hstep]
    simp
  refine ⟨⟨fun hkeeps => ?_, fun hsafe => ⟨?_, fun h => absurd h hfailed⟩⟩, ?_⟩
  · have hinStep := hkeeps.inStep
    rw [hstep] at hinStep
    exact hready.inStep_iff.mp hinStep
  · rw [hstep]
    exact hready.inStep_iff.mpr hsafe
  · rw [hstep]
    exact hready.kept

theorem register_iff (hkept : Kept observers) :
    (KeepsInStep observers (.register call) ↔
        observers.EventSound (.register call)) ∧
      (observers.EventSound (.register call) →
        Kept (step observers (.register call)).2) := by
  by_cases htoken : call.connectToken = defaultDmsConnectToken
  · have hunchanged : (step observers (.register call)).2 = observers := by
      dsimp only [step, registerAppStateObserver]
      rw [if_pos htoken]
    refine ⟨iff_of_true (keepsInStep_of_unchanged hkept hunchanged) ?_, ?_⟩
    · exact fun h => absurd htoken h
    · exact fun _ => hunchanged.symm ▸ hkept
  by_cases happ : call.appManager = true
  swap
  · have hunchanged : (step observers (.register call)).2 = observers := by
      dsimp only [step, registerAppStateObserver]
      rw [if_neg htoken, if_pos (by simpa using happ)]
    refine ⟨iff_of_true (keepsInStep_of_unchanged hkept hunchanged) ?_, ?_⟩
    · exact fun _ h => absurd h happ
    · exact fun _ => hunchanged.symm ▸ hkept
  have hsound : observers.EventSound (.register call) ↔
      (call.element.bundleName ∉ observers.bundleNameMap → call.ret = errOk) ∧
        observers.ReplacesSafely call := by
    dsimp only [EventSound]
    rw [imp_iff_right htoken, imp_iff_right happ]
  cases hbundle : observers.bundleNameMap[call.element.bundleName]? with
  | some appStateObserver =>
      have hregister := register_of_ready (hkept.ready hbundle) (by
        dsimp only [step, registerAppStateObserver]
        rw [if_neg htoken, if_neg (by simpa using happ), hbundle])
      have hmem : call.element.bundleName ∈ observers.bundleNameMap :=
        mem_bundleNameMap_iff.mpr ⟨_, hbundle⟩
      rw [hsound, and_iff_right fun h => absurd hmem h]
      exact hregister
  | none =>
      have hnotMem : call.element.bundleName ∉ observers.bundleNameMap := by
        rw [mem_bundleNameMap_iff, hbundle]
        rintro ⟨_, h⟩
        cases h
      rw [hsound]
      by_cases hret : call.ret = errOk
      · have hregister := @register_of_ready observers _ _ _
          (hkept.ready_made hbundle) (by
            dsimp only [step, registerAppStateObserver]
            rw [if_neg htoken, if_neg (by simpa using happ), hbundle]
            dsimp only
            rw [if_neg (not_not.mpr hret)]
            rfl)
        rw [and_iff_right fun _ => hret]
        exact hregister
      · have hstep : step observers (.register call) = (some false,
            observers.makeObserver call.element.bundleName) := by
          dsimp only [step, registerAppStateObserver]
          rw [if_neg htoken, if_neg (by simpa using happ), hbundle]
          dsimp only
          rw [if_pos hret]
        refine ⟨iff_of_false (fun hkeeps => ?_) fun h => hret (h.1 hnotMem),
          fun h => absurd (h.1 hnotMem) hret⟩
        have hsame := (hkeeps.failed (by rw [hstep])).1
        rw [hstep] at hsame
        refine hnotMem (hsame ▸ ?_)
        exact Std.TreeMap.mem_insert_self

/-! ## Removal -/

theorem isLast_eq_true_iff {bundleName : Text}
    {observerMap : Std.TreeMap RemoteObject StateObserver} :
    isLast bundleName observerMap = true ↔
      ∀ (wrapper : RemoteObject) (entry : StateObserver),
        observerMap[wrapper]? = some entry →
          entry.dstBundleName ≠ bundleName := by
  simp only [isLast, List.all_eq_true, decide_eq_true_eq, Prod.forall,
    Std.TreeMap.mem_toList_iff_getElem?_eq_some]

theorem isLast_erase_iff (wrapper : RemoteObject) (bundleName : Text) :
    isLast bundleName (observers.observerMap.erase wrapper) = true ↔
      ∀ other, other ≠ wrapper → ¬ observers.WaitsFor other bundleName := by
  rw [isLast_eq_true_iff]
  refine forall_congr' fun other => ?_
  rw [getElem?_erase_eq]
  by_cases hsame : wrapper = other
  · simp [hsame]
  · simp [hsame, Ne.symm hsame, WaitsFor]

theorem waitsFor_erase {wrapper other : RemoteObject} {bundleName : Text}
    (hother : other ≠ wrapper) (hwaits : observers.WaitsFor other bundleName) :
    ∃ entry, (observers.observerMap.erase wrapper)[other]? = some entry ∧
      entry.dstBundleName = bundleName := by
  obtain ⟨entry, hentry, hbundle⟩ := hwaits
  refine ⟨entry, ?_, hbundle⟩
  rw [getElem?_erase_eq, if_neg (Ne.symm hother)]
  exact hentry

theorem Kept.erase (hkept : Kept observers) {wrapper other : RemoteObject}
    {found : StateObserver}
    (hfound : observers.observerMap[wrapper]? = some found)
    (hother : other ≠ wrapper)
    (hwaits : observers.WaitsFor other found.dstBundleName) :
    Kept { observers with
      observerMap := observers.observerMap.erase wrapper } where
  entries := by
    intro wrapper' entry hentry
    dsimp only at hentry
    rw [getElem?_erase_eq] at hentry
    split_ifs at hentry
    exact hkept.entries wrapper' entry hentry
  registered := hkept.registered
  fresh := hkept.fresh
  waited := by
    intro bundleName hmem
    obtain ⟨wrapper', hwaits'⟩ := hkept.waited bundleName hmem
    by_cases hsame : wrapper' = wrapper
    · subst hsame
      obtain ⟨entry, hentry, rfl⟩ := hwaits'
      obtain rfl := Option.some.inj (hfound.symm.trans hentry)
      exact ⟨other, waitsFor_erase hother hwaits⟩
    · exact ⟨wrapper', waitsFor_erase hsame hwaits'⟩

theorem Kept.eraseLast (hkept : Kept observers) {wrapper : RemoteObject}
    {found : StateObserver}
    (hfound : observers.observerMap[wrapper]? = some found)
    (hlast : ∀ other, other ≠ wrapper →
      ¬ observers.WaitsFor other found.dstBundleName) :
    Kept { observers with
      observerMap := observers.observerMap.erase wrapper
      bundleNameMap := observers.bundleNameMap.erase found.dstBundleName
      registered := observers.registered.erase found.appStateObserver } where
  entries := by
    intro wrapper' entry hentry
    dsimp only at hentry ⊢
    rw [getElem?_erase_eq] at hentry
    split_ifs at hentry with hsame
    rw [getElem?_erase_eq, if_neg]
    · exact hkept.entries wrapper' entry hentry
    · intro hbundle
      exact hlast wrapper' (Ne.symm hsame) ⟨entry, hentry, hbundle.symm⟩
  registered := by
    intro appStateObserver bundleName
    have hknown := hkept.entries wrapper found hfound
    dsimp only
    rw [getElem?_erase_eq, getElem?_erase_eq]
    split_ifs with hobserver hbundle hbundle
    · exact iff_of_false nofun nofun
    · refine iff_of_false nofun fun h => ?_
      have hold := (hkept.registered _ _).mpr h
      have hsame := (hkept.registered _ _).mpr hknown
      rw [hobserver] at hsame
      exact hbundle (Option.some.inj (hsame.symm.trans hold))
    · refine iff_of_false (fun h => ?_) nofun
      have hold := (hkept.registered _ _).mp h
      rw [← hbundle, hknown] at hold
      exact hobserver (Option.some.inj hold)
    · exact hkept.registered appStateObserver bundleName
  fresh := by
    intro bundleName appStateObserver hobserver
    dsimp only at hobserver
    rw [getElem?_erase_eq] at hobserver
    split_ifs at hobserver
    exact hkept.fresh bundleName appStateObserver hobserver
  waited := by
    intro bundleName hmem
    dsimp only at hmem
    rw [Std.TreeMap.mem_erase, ne_eq, Std.compare_eq_iff_eq] at hmem
    obtain ⟨wrapper', hwaits⟩ := hkept.waited bundleName hmem.2
    refine ⟨wrapper', waitsFor_erase ?_ hwaits⟩
    rintro rfl
    obtain ⟨entry, hentry, hbundle⟩ := hwaits
    obtain rfl := Option.some.inj (hfound.symm.trans hentry)
    exact hmem.1 hbundle

theorem unregister_iff (hkept : Kept observers) {call : UnregisterCall} :
    (KeepsInStep observers (.unregister call) ↔
        observers.EventSound (.unregister call)) ∧
      (observers.EventSound (.unregister call) →
        Kept (step observers (.unregister call)).2) := by
  have hkeeps : Kept (step observers (.unregister call)).2 →
      KeepsInStep observers (.unregister call) :=
    fun h => ⟨h.inStep, nofun⟩
  have hboth : Kept (step observers (.unregister call)).2 →
      observers.EventSound (.unregister call) →
      (KeepsInStep observers (.unregister call) ↔
        observers.EventSound (.unregister call)) ∧
      (observers.EventSound (.unregister call) →
        Kept (step observers (.unregister call)).2) :=
    fun hnext hsound => ⟨iff_of_true (hkeeps hnext) hsound, fun _ => hnext⟩
  by_cases hnull : call.callbackWrapper = 0
  · refine hboth ?_ fun h => absurd hnull h
    dsimp only [step, unregisterAppStateObserver]
    rw [if_pos hnull]
    exact hkept
  cases hfound : observers.observerMap[call.callbackWrapper]? with
  | none =>
      refine hboth ?_ fun _ found h => ?_
      · dsimp only [step, unregisterAppStateObserver]
        rw [if_neg hnull, hfound]
        exact hkept
      · rw [hfound] at h
        cases h
  | some found =>
      have hlastIff := @isLast_erase_iff observers call.callbackWrapper
        found.dstBundleName
      by_cases hlast : isLast found.dstBundleName
          (observers.observerMap.erase call.callbackWrapper) = true
      · by_cases htaken : call.appManager = true ∧ call.ret = errOk
        · refine hboth ?_ fun _ _ _ _ => htaken
          dsimp only [step, unregisterAppStateObserver]
          rw [if_neg hnull, hfound]
          dsimp only
          rw [if_pos hlast, if_neg (by simp [htaken])]
          exact hkept.eraseLast hfound (hlastIff.mp hlast)
        · have hunsound : ¬ observers.EventSound (.unregister call) :=
            fun h => htaken (h hnull found hfound (hlastIff.mp hlast))
          refine ⟨iff_of_false (fun h => ?_) hunsound, fun h => absurd h hunsound⟩
          have hinStep := h.inStep
          dsimp only [step, unregisterAppStateObserver] at hinStep
          rw [if_neg hnull, hfound] at hinStep
          dsimp only at hinStep
          rw [if_pos hlast, if_pos] at hinStep
          · have hregistered := (hkept.registered _ _).mpr
              (hkept.entries _ found hfound)
            have hmem := (hinStep.registered found.dstBundleName).mpr
              ⟨_, hregistered⟩
            dsimp only at hmem
            rw [Std.TreeMap.mem_erase] at hmem
            exact hmem.1 Std.ReflCmp.compare_self
          · rw [not_and_or] at htaken
            simpa using htaken
      · obtain ⟨other, hother, hwaits⟩ : ∃ other,
            other ≠ call.callbackWrapper ∧
              observers.WaitsFor other found.dstBundleName := by
          by_contra hnone
          exact hlast (hlastIff.mpr fun other hother hwaits =>
            hnone ⟨other, hother, hwaits⟩)
        refine hboth ?_ ?_
        · dsimp only [step, unregisterAppStateObserver]
          rw [if_neg hnull, hfound]
          dsimp only
          rw [if_neg hlast]
          exact hkept.erase hfound hother hwaits
        · intro _ entry hentry hnone
          obtain rfl := Option.some.inj (hfound.symm.trans hentry)
          exact absurd hwaits (hnone other hother)

end Steps

/-! ## Runs -/

theorem keepsInStep_iff {observers : Observers} (hkept : Kept observers)
    (event : ObserverEvent) :
    (KeepsInStep observers event ↔ observers.EventSound event) ∧
      (observers.EventSound event → Kept (step observers event).2) := by
  cases event with
  | register call => exact register_iff hkept
  | unregister call => exact unregister_iff hkept

theorem kept_initial : Kept {} where
  entries _ _ := nofun
  registered _ _ := iff_of_false nofun nofun
  fresh _ _ := nofun
  waited _ hmem := absurd hmem Std.TreeMap.not_mem_emptyc

/-- Every call of a run keeps the maps in step exactly when every call of it is
sound. -/
theorem meets_keepsInStep_iff (events : List ObserverEvent) :
    Meets step KeepsInStep {} events ↔ Meets step EventSound {} events :=
  meets_iff_of_invariant (fun _ event hkept => (keepsInStep_iff hkept event).1)
    (fun _ event hkept => (keepsInStep_iff hkept event).2) events kept_initial

def registerFor (bundleName : Text) : ObserverEvent :=
  .register {
    connectToken := 7
    element := { bundleName := bundleName }
    srcDeviceId := ['d']
    srcConnect := 1
    callbackWrapper := 2 }

/-- A wrapper that goes from one bundle to another. -/
theorem not_keepsInStep_otherBundle :
    ¬ Meets step KeepsInStep {} [registerFor ['a'], registerFor ['b']] := by
  rintro ⟨-, hsecond, -⟩
  obtain ⟨wrapper, entry, hentry, hbundle⟩ :=
    (hsecond.inStep.waited ['a']).mp (by decide +kernel)
  have hnone : isLast ['a'] (step (step {} (registerFor ['a'])).2
      (registerFor ['b'])).2.observerMap = true := by
    decide +kernel
  exact isLast_eq_true_iff.mp hnone wrapper entry hentry hbundle

end Observers

end AppStateObservers

end Dmsfwk
