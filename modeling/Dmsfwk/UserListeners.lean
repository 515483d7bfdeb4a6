import Dmsfwk.ContinueListeners

/-!
# Listeners of several users

Every account has a receiving manager of its own.  A registration of an account
that is not the current one waits in a cache and is made when the users are
switched; the cache takes one registration for each account.
-/

namespace Dmsfwk

structure UserListeners (Obj : Type) where
  currentUserId : ℤ
  recvMgrMap : Std.TreeMap ℤ (ContinueListeners Obj) := ∅
  listenerCache : Std.TreeMap ℤ (Std.TreeMap Text (Option Obj)) := ∅

/-- A call with the account of the caller and whether the account manager says
that it is in the foreground, or a switch of the users. -/
inductive UserEvent (Obj : Type) where
  | onRegisterOnListener (accountId : ℤ) (foreground : Bool) (type : Text)
      (obj : Option Obj)
  | onRegisterOffListener (accountId : ℤ) (foreground : Bool) (type : Text)
      (obj : Option Obj)
  | onUserSwitched (accountId : ℤ)

namespace UserListeners

open ContinueListeners EventRun OrderedMap

variable {Obj : Type} [DecidableEq Obj]

def dmsNotForegroundUser : Int32 := 29360236

def recvMgr (users : UserListeners Obj) (accountId : ℤ) : ContinueListeners Obj :=
  users.recvMgrMap[accountId]?.getD {}

def setRecvMgr (users : UserListeners Obj) (recvMgr : ContinueListeners Obj) :
    UserListeners Obj :=
  { users with
      recvMgrMap := users.recvMgrMap.insert users.currentUserId recvMgr }

def createRecvMgr (users : UserListeners Obj) : UserListeners Obj :=
  users.setRecvMgr (users.recvMgr users.currentUserId)

def onRegisterOnListener (users : UserListeners Obj) (accountId : ℤ)
    (foreground : Bool) (type : Text) (obj : Option Obj) :
    List ListenerAnswer × UserListeners Obj :=
  if !foreground ∨ accountId ≠ users.currentUserId then
    let param := (∅ : Std.TreeMap Text (Option Obj)).insertIfNew type obj
    ([.result errOk],
      { users with
          listenerCache := users.listenerCache.insertIfNew accountId param })
  else
    let registered := (users.recvMgr users.currentUserId).registerOn type obj
    ([registered.1], users.setRecvMgr registered.2)

def onRegisterOffListener (users : UserListeners Obj) (accountId : ℤ)
    (foreground : Bool) (type : Text) (obj : Option Obj) :
    List ListenerAnswer × UserListeners Obj :=
  if !foreground ∨ accountId ≠ users.currentUserId then
    ([.result dmsNotForegroundUser], users)
  else
    let unregistered := (users.recvMgr users.currentUserId).registerOff type obj
    ([unregistered.1], users.setRecvMgr unregistered.2)

def userSwitchedOnRegisterListenerCache (users : UserListeners Obj) :
    List ListenerAnswer × UserListeners Obj :=
  match users.listenerCache[users.currentUserId]? with
  | none => ([], users)
  | some params =>
      if params.isEmpty then ([], users)
      else
        let registered := run ContinueListeners.step
          (users.recvMgr users.currentUserId)
          (params.toList.map fun param => .registerOnListener param.1 param.2)
        let made := users.setRecvMgr registered.2
        (registered.1,
          { made with
              listenerCache := made.listenerCache.erase made.currentUserId })

def onUserSwitched (users : UserListeners Obj) (accountId : ℤ) :
    List ListenerAnswer × UserListeners Obj :=
  let switched :=
    { users.createRecvMgr with currentUserId := accountId }.createRecvMgr
  switched.userSwitchedOnRegisterListenerCache

def step (users : UserListeners Obj) :
    UserEvent Obj → List ListenerAnswer × UserListeners Obj
  | .onRegisterOnListener accountId foreground type obj =>
      users.onRegisterOnListener accountId foreground type obj
  | .onRegisterOffListener accountId foreground type obj =>
      users.onRegisterOffListener accountId foreground type obj
  | .onUserSwitched accountId => users.onUserSwitched accountId

/-! ## What should hold -/

/-- The pairs of each account whose registration was answered with `errOk`, and
no unregistration since. -/
def registeredAfter (registered : ℤ → Set (Text × Obj))
    (answers : List ListenerAnswer) : UserEvent Obj → ℤ → Set (Text × Obj)
  | .onRegisterOnListener accountId _ type obj =>
      if answers = [.result errOk] then
        Function.update registered accountId
          (ContinueListeners.registeredAfter (registered accountId)
            (.registerOnListener type obj))
      else registered
  | .onRegisterOffListener accountId _ type obj =>
      if answers = [.result errOk] then
        Function.update registered accountId
          (ContinueListeners.registeredAfter (registered accountId)
            (.registerOffListener type obj))
      else registered
  | .onUserSwitched _ => registered

def trackedStep (tracked : UserListeners Obj × (ℤ → Set (Text × Obj)))
    (event : UserEvent Obj) :
    List ListenerAnswer × UserListeners Obj × (ℤ → Set (Text × Obj)) :=
  let stepped := tracked.1.step event
  (stepped.1, stepped.2, registeredAfter tracked.2 stepped.1 event)

/-- No manager looks past the end of its map, and the manager of an account
holds its pairs behind a switch to it, once each. -/
structure TakesEffect (tracked : UserListeners Obj × (ℤ → Set (Text × Obj)))
    (event : UserEvent Obj) : Prop where
  inside : .endDereferenced ∉ (trackedStep tracked event).1
  mem_iff : ∀ accountId, event = .onUserSwitched accountId → ∀ type obj,
    obj ∈ ((trackedStep tracked event).2.1.recvMgr accountId).objectsOf type ↔
      (type, obj) ∈ (trackedStep tracked event).2.2 accountId
  nodup : ∀ accountId, event = .onUserSwitched accountId → ∀ type,
    (((trackedStep tracked event).2.1.recvMgr accountId).objectsOf type).Nodup

/-! ## The condition -/

def Cached (users : UserListeners Obj) (accountId : ℤ) (type : Text) (obj : Obj) :
    Prop :=
  ∃ params, users.listenerCache[accountId]? = some params ∧
    params[type]? = some (some obj)

def RoomFor (listeners : ContinueListeners Obj) (type : Text) : Prop :=
  listeners.registerOnListener[type]? = none →
    listeners.registerOnListener.size < registMaxSize

/-- A registration finds room in the map of the manager, and in the cache when
it waits and is not there already; an object is unregistered for its only type
and does not wait. -/
def EventSound (users : UserListeners Obj) : UserEvent Obj → Prop
  | .onRegisterOnListener accountId foreground type (some obj) =>
      if !foreground ∨ accountId ≠ users.currentUserId then
        users.listenerCache[accountId]? = none ∨
          users.Cached accountId type obj ∨
          obj ∈ (users.recvMgr accountId).objectsOf type
      else RoomFor (users.recvMgr accountId) type
  | .onRegisterOffListener accountId foreground type (some obj) =>
      foreground = true → accountId = users.currentUserId →
        (∀ other, other ≠ type →
          obj ∉ (users.recvMgr accountId).objectsOf other) ∧
        ¬ users.Cached accountId type obj
  | .onUserSwitched accountId =>
      ∀ type obj, users.Cached accountId type obj →
        RoomFor (users.recvMgr accountId) type
  | _ => True

/-! ## The manager of one account -/

section OneManager

variable {listeners : ContinueListeners Obj} {type found : Text} {obj other : Obj}

theorem registerOn_fst_ne (hroom : RoomFor listeners type) :
    (listeners.registerOn type (some obj)).1 ≠ .endDereferenced := by
  rw [registerOn_some]
  split_ifs with hlisted hfull
  · rintro ⟨⟩
  · exact absurd (hroom hfull.1) hfull.2
  · rintro ⟨⟩

theorem mem_objectsOf_registerOn (hroom : RoomFor listeners type) :
    other ∈ (listeners.registerOn type (some obj)).2.objectsOf found ↔
      (found = type ∧ other = obj) ∨ other ∈ listeners.objectsOf found := by
  rw [registerOn_some]
  split_ifs with hlisted hfull
  · refine (or_iff_right_of_imp ?_).symm
    rintro ⟨rfl, rfl⟩
    exact hlisted
  · exact absurd (hroom hfull.1) hfull.2
  · rw [objectsOf_addObject]
    split_ifs with htype
    · subst htype
      simp [or_comm]
    · simp [Ne.symm htype]

theorem nodup_registerOn
    (hnodup : ∀ type, (listeners.objectsOf type).Nodup) (found : Text) :
    ((listeners.registerOn type (some obj)).2.objectsOf found).Nodup := by
  rw [registerOn_some]
  split_ifs with hlisted hfull
  · exact hnodup found
  · exact hnodup found
  · rw [objectsOf_addObject]
    split_ifs
    · rw [← List.concat_eq_append]
      exact (hnodup type).concat hlisted
    · exact hnodup found

theorem mem_of_registerOn_fst (hroom : RoomFor listeners type)
    (hanswer : (listeners.registerOn type (some obj)).1 ≠ .result errOk) :
    obj ∈ listeners.objectsOf type := by
  rw [registerOn_some] at hanswer
  split_ifs at hanswer with hlisted hfull
  · exact hlisted
  · exact absurd (hroom hfull.1) hfull.2
  · exact absurd rfl hanswer

theorem objectsOf_registerOff
    (hnodup : ∀ type, (listeners.objectsOf type).Nodup) (found : Text) :
    (listeners.registerOff type (some obj)).2.objectsOf found =
      (listeners.objectsOf found).filter (· ≠ obj) :=
  objectsOf_removeObject (removes_erase hnodup obj) found

end OneManager

/-! ## All accounts -/

section Accounts

omit [DecidableEq Obj]

variable {users : UserListeners Obj} {registered : ℤ → Set (Text × Obj)}
  {accountId : ℤ} {type : Text}

theorem recvMgr_setRecvMgr (recvMgr : ContinueListeners Obj) (accountId : ℤ) :
    (users.setRecvMgr recvMgr).recvMgr accountId =
      if users.currentUserId = accountId then recvMgr
      else users.recvMgr accountId := by
  simp only [UserListeners.recvMgr, setRecvMgr]
  rw [getElem?_insert_eq]
  split_ifs <;> rfl

@[simp] theorem recvMgr_createRecvMgr (accountId : ℤ) :
    users.createRecvMgr.recvMgr accountId = users.recvMgr accountId := by
  rw [createRecvMgr, recvMgr_setRecvMgr]
  split_ifs with hsame
  · rw [hsame]
  · rfl

/-- A manager and the cache have the pairs of the account between them, and the
cache has one at most. -/
structure Kept (tracked : UserListeners Obj × (ℤ → Set (Text × Obj))) : Prop where
  pairs : ∀ accountId type obj, (type, obj) ∈ tracked.2 accountId ↔
    obj ∈ (tracked.1.recvMgr accountId).objectsOf type ∨
      tracked.1.Cached accountId type obj
  nodup : ∀ accountId type,
    ((tracked.1.recvMgr accountId).objectsOf type).Nodup
  single : ∀ (accountId : ℤ) params,
    tracked.1.listenerCache[accountId]? = some params →
      ∃ type obj, params = (∅ : Std.TreeMap Text (Option Obj)).insertIfNew type obj

theorem toList_single (type : Text) (obj : Option Obj) :
    ((∅ : Std.TreeMap Text (Option Obj)).insertIfNew type obj).toList =
      [(type, obj)] := by
  have hlength : ((∅ : Std.TreeMap Text (Option Obj)).insertIfNew type
      obj).toList.length = 1 := by
    rw [Std.TreeMap.length_toList, Std.TreeMap.size_insertIfNew]
    rfl
  obtain ⟨entry, hentry⟩ := List.length_eq_one_iff.mp hlength
  have hmem : (type, obj) ∈ ((∅ : Std.TreeMap Text (Option Obj)).insertIfNew type
      obj).toList := by
    rw [Std.TreeMap.mem_toList_iff_getElem?_eq_some, getElem?_insertIfNew]
    simp
  rw [hentry, List.mem_singleton] at hmem
  rw [hentry, hmem]

theorem getElem?_single (type found : Text) (obj : Option Obj) :
    ((∅ : Std.TreeMap Text (Option Obj)).insertIfNew type obj)[found]? =
      if type = found then some obj else none := by
  rw [getElem?_insertIfNew]
  simp

theorem mem_registeredOn_iff (obj : Option Obj) (other : ℤ) (found : Text)
    (value : Obj) :
    (found, value) ∈ Function.update registered accountId
        (ContinueListeners.registeredAfter (registered accountId)
          (.registerOnListener type obj)) other ↔
      (other = accountId ∧ found = type ∧ obj = some value) ∨
        (found, value) ∈ registered other := by
  rw [Function.update_apply]
  split_ifs with hsame
  · subst hsame
    cases obj with
    | none => simp [ContinueListeners.registeredAfter]
    | some obj =>
        simp [ContinueListeners.registeredAfter, eq_comm]
  · simp [hsame]

theorem cached_insertIfNew (obj : Option Obj) (other : ℤ) (found : Text)
    (value : Obj) :
    Cached { users with
        listenerCache := users.listenerCache.insertIfNew accountId
          ((∅ : Std.TreeMap Text (Option Obj)).insertIfNew type obj) }
        other found value ↔
      if accountId = other ∧ users.listenerCache[accountId]? = none then
        found = type ∧ obj = some value
      else users.Cached other found value := by
  simp only [Cached, getElem?_insertIfNew accountId]
  split_ifs with hnew
  · simp only [Option.some.injEq, exists_eq_left', getElem?_single]
    grind
  · rfl

theorem Kept.wait (hkept : Kept (users, registered)) {obj : Option Obj}
    (hsound : ∀ value, obj = some value →
      users.listenerCache[accountId]? = none ∨
        users.Cached accountId type value ∨
        value ∈ (users.recvMgr accountId).objectsOf type) :
    Kept ({ users with
        listenerCache := users.listenerCache.insertIfNew accountId
          ((∅ : Std.TreeMap Text (Option Obj)).insertIfNew type obj) },
      Function.update registered accountId
        (ContinueListeners.registeredAfter (registered accountId)
          (.registerOnListener type obj))) where
  pairs other found value := by
    rw [mem_registeredOn_iff, cached_insertIfNew, hkept.pairs other found value]
    split_ifs with hnew
    · obtain ⟨rfl, hnone⟩ := hnew
      have hnot : ¬ users.Cached accountId found value := by
        rintro ⟨params, hparams, -⟩
        rw [hnone] at hparams
        cases hparams
      simp only [hnot, or_false, true_and]
      exact or_comm
    · refine or_iff_right_of_imp ?_
      rintro ⟨rfl, rfl, hvalue⟩
      rcases hsound value hvalue with hnone | hcached | hheld
      · exact absurd ⟨rfl, hnone⟩ hnew
      · exact Or.inr hcached
      · exact Or.inl hheld
  nodup := hkept.nodup
  single other params hparams := by
    rw [getElem?_insertIfNew] at hparams
    split_ifs at hparams with hnew
    · exact ⟨type, obj, (Option.some.inj hparams).symm⟩
    · exact hkept.single other params hparams

theorem Kept.set (hkept : Kept (users, registered))
    {recvMgr : ContinueListeners Obj} {pairs : Set (Text × Obj)}
    {answered : Prop} [Decidable answered]
    (hpairs : ∀ type obj,
      ((type, obj) ∈ if answered then pairs
        else registered users.currentUserId) ↔
      obj ∈ recvMgr.objectsOf type ∨
        users.Cached users.currentUserId type obj)
    (hnodup : ∀ type, (recvMgr.objectsOf type).Nodup) :
    Kept (users.setRecvMgr recvMgr,
      if answered then Function.update registered users.currentUserId pairs
      else registered) where
  pairs other type obj := by
    dsimp only
    rw [recvMgr_setRecvMgr, ite_apply]
    by_cases hsame : users.currentUserId = other
    · subst hsame
      rw [if_pos rfl, Function.update_self]
      exact hpairs type obj
    · rw [if_neg hsame, Function.update_of_ne (Ne.symm hsame), ite_self]
      exact hkept.pairs other type obj
  nodup other type := by
    rw [recvMgr_setRecvMgr]
    split_ifs with hsame
    · exact hnodup type
    · exact hkept.nodup other type
  single := hkept.single

theorem Kept.replay (hkept : Kept (users, registered))
    {next : UserListeners Obj} {recvMgr : ContinueListeners Obj}
    (hrecv : ∀ accountId, next.recvMgr accountId =
      if users.currentUserId = accountId then recvMgr
      else users.recvMgr accountId)
    (hcache : next.listenerCache =
      users.listenerCache.erase users.currentUserId)
    (hmem : ∀ type obj, obj ∈ recvMgr.objectsOf type ↔
      obj ∈ (users.recvMgr users.currentUserId).objectsOf type ∨
        users.Cached users.currentUserId type obj)
    (hnodup : ∀ type, (recvMgr.objectsOf type).Nodup) :
    Kept (next, registered) where
  pairs other type obj := by
    have hcached : next.Cached other type obj ↔
        users.currentUserId ≠ other ∧ users.Cached other type obj := by
      rw [Cached, hcache, getElem?_erase_eq]
      split_ifs with hsame
      · simp [hsame]
      · exact (and_iff_right hsame).symm
    dsimp only
    rw [hcached, hrecv, hkept.pairs]
    split_ifs with hsame
    · subst hsame
      rw [hmem]
      simp
    · rw [and_iff_right hsame]
  nodup other type := by
    rw [hrecv]
    split_ifs
    · exact hnodup type
    · exact hkept.nodup other type
  single other params hparams := by
    rw [hcache, getElem?_erase_eq] at hparams
    split_ifs at hparams
    exact hkept.single other params hparams

theorem Kept.congr (hkept : Kept (users, registered))
    {next : UserListeners Obj}
    (hrecv : ∀ accountId, next.recvMgr accountId = users.recvMgr accountId)
    (hcache : next.listenerCache = users.listenerCache) :
    Kept (next, registered) where
  pairs other type obj := by
    rw [Cached, hrecv, hcache]
    exact hkept.pairs other type obj
  nodup other type := by
    rw [hrecv]
    exact hkept.nodup other type
  single other params hparams := by
    rw [hcache] at hparams
    exact hkept.single other params hparams

end Accounts

/-! ## One step -/

section Steps

variable {users : UserListeners Obj} {registered : ℤ → Set (Text × Obj)}
  {accountId : ℤ} {type : Text}

/-- What a step does to the pairs, and to the one that waits for the account of
a switch. -/
structure StepRight (tracked : UserListeners Obj × (ℤ → Set (Text × Obj)))
    (event : UserEvent Obj) : Prop where
  inside : .endDereferenced ∉ (trackedStep tracked event).1
  kept : Kept (trackedStep tracked event).2
  replayed : ∀ accountId, event = .onUserSwitched accountId →
    (trackedStep tracked event).2.1.listenerCache[accountId]? = none

theorem StepRight.takesEffect
    {tracked : UserListeners Obj × (ℤ → Set (Text × Obj))}
    {event : UserEvent Obj} (hright : StepRight tracked event) :
    TakesEffect tracked event where
  inside := hright.inside
  mem_iff accountId hevent type obj := by
    have hnot :
        ¬ (trackedStep tracked event).2.1.Cached accountId type obj := by
      rintro ⟨params, hparams, -⟩
      rw [hright.replayed accountId hevent] at hparams
      cases hparams
    rw [hright.kept.pairs, or_iff_left hnot]
  nodup accountId _ type := hright.kept.nodup accountId type

theorem StepRight.of_step {event : UserEvent Obj} {answers : List ListenerAnswer}
    {next : UserListeners Obj} (hstep : users.step event = (answers, next))
    (hinside : .endDereferenced ∉ answers)
    (hkept : Kept (next, registeredAfter registered answers event))
    (hcall : ∀ accountId, event ≠ .onUserSwitched accountId) :
    StepRight (users, registered) event := by
  have htracked : trackedStep (users, registered) event =
      (answers, next, registeredAfter registered answers event) := by
    rw [trackedStep, hstep]
  refine ⟨?_, ?_, fun other hevent => absurd hevent (hcall other)⟩
  · rw [htracked]
    exact hinside
  · rw [htracked]
    exact hkept

omit [DecidableEq Obj] in
theorem Kept.setNull (hkept : Kept (users, registered))
    {answered : Prop} [Decidable answered] :
    Kept (users.setRecvMgr (users.recvMgr users.currentUserId),
      if answered then Function.update registered users.currentUserId
        (registered users.currentUserId)
      else registered) := by
  refine hkept.set ?_ (hkept.nodup users.currentUserId)
  intro type obj
  rw [ite_self]
  exact hkept.pairs users.currentUserId type obj

theorem stepRight_registerOn (hkept : Kept (users, registered))
    {foreground : Bool} {obj : Option Obj}
    (hsound : users.EventSound
      (.onRegisterOnListener accountId foreground type obj)) :
    StepRight (users, registered)
      (.onRegisterOnListener accountId foreground type obj) := by
  by_cases hwaits : !foreground ∨ accountId ≠ users.currentUserId
  · have hstep : users.step
        (.onRegisterOnListener accountId foreground type obj) =
        ([.result errOk], { users with
          listenerCache := users.listenerCache.insertIfNew accountId
            ((∅ : Std.TreeMap Text (Option Obj)).insertIfNew type obj) }) := by
      rw [step, onRegisterOnListener, if_pos hwaits]
    refine StepRight.of_step hstep (by simp) ?_ (by simp)
    rw [registeredAfter, if_pos rfl]
    refine hkept.wait ?_
    rintro value rfl
    rwa [EventSound, if_pos hwaits] at hsound
  · obtain ⟨-, rfl⟩ : foreground = true ∧ accountId = users.currentUserId := by
      simpa using hwaits
    have hpairs := hkept.pairs users.currentUserId
    have hnodup := hkept.nodup users.currentUserId
    have hstep : users.step
        (.onRegisterOnListener users.currentUserId foreground type obj) =
        ([((users.recvMgr users.currentUserId).registerOn type obj).1],
          users.setRecvMgr
            ((users.recvMgr users.currentUserId).registerOn type obj).2) := by
      rw [step, onRegisterOnListener, if_neg hwaits]
    cases obj with
    | none =>
        refine StepRight.of_step hstep ?_ ?_ (by simp)
        · simp [registerOn]
        · dsimp only [registeredAfter]
          exact hkept.setNull
    | some value =>
        rw [EventSound, if_neg hwaits] at hsound
        refine StepRight.of_step hstep ?_ ?_ (by simp)
        · simpa using (registerOn_fst_ne hsound).symm
        · dsimp only [registeredAfter]
          refine hkept.set ?_ (nodup_registerOn hnodup)
          intro found seen
          rw [mem_objectsOf_registerOn hsound, or_assoc]
          refine Iff.trans ?_ (or_congr_right (hpairs found seen))
          split_ifs with hanswer
          · simp [ContinueListeners.registeredAfter]
          · refine (or_iff_right_of_imp ?_).symm
            rintro ⟨rfl, rfl⟩
            refine (hpairs found seen).mpr (Or.inl ?_)
            exact mem_of_registerOn_fst hsound (by simpa using hanswer)

theorem stepRight_registerOff (hkept : Kept (users, registered))
    {foreground : Bool} {obj : Option Obj}
    (hsound : users.EventSound
      (.onRegisterOffListener accountId foreground type obj)) :
    StepRight (users, registered)
      (.onRegisterOffListener accountId foreground type obj) := by
  by_cases hrefused : !foreground ∨ accountId ≠ users.currentUserId
  · have hstep : users.step
        (.onRegisterOffListener accountId foreground type obj) =
        ([.result dmsNotForegroundUser], users) := by
      rw [step, onRegisterOffListener, if_pos hrefused]
    refine StepRight.of_step hstep (by simp) ?_ (by simp)
    have hanswer : [ListenerAnswer.result dmsNotForegroundUser] ≠
        [.result errOk] := by
      decide
    rw [registeredAfter, if_neg hanswer]
    exact hkept
  · obtain ⟨hforeground, rfl⟩ :
        foreground = true ∧ accountId = users.currentUserId := by
      simpa using hrefused
    have hpairs := hkept.pairs users.currentUserId
    have hnodup := hkept.nodup users.currentUserId
    have hstep : users.step
        (.onRegisterOffListener users.currentUserId foreground type obj) =
        ([((users.recvMgr users.currentUserId).registerOff type obj).1],
          users.setRecvMgr
            ((users.recvMgr users.currentUserId).registerOff type obj).2) := by
      rw [step, onRegisterOffListener, if_neg hrefused]
    cases obj with
    | none =>
        refine StepRight.of_step hstep ?_ ?_ (by simp)
        · simp [registerOff]
        · dsimp only [registeredAfter]
          exact hkept.setNull
    | some value =>
        obtain ⟨honly, hcached⟩ := hsound hforeground rfl
        refine StepRight.of_step hstep ?_ ?_ (by simp)
        · simp [registerOff]
        · dsimp only [registeredAfter]
          refine hkept.set ?_ ?_
          · intro found seen
            have hanswer : [((users.recvMgr users.currentUserId).registerOff
                type (some value)).1] = [.result errOk] := rfl
            rw [if_pos hanswer, objectsOf_registerOff hnodup, List.mem_filter,
              ContinueListeners.registeredAfter, Set.mem_sdiff, hpairs]
            have hone : value ∈ (users.recvMgr users.currentUserId).objectsOf
                found → found = type := by
              intro hheld
              by_contra hother
              exact honly found hother hheld
            grind
          · intro found
            rw [objectsOf_registerOff hnodup]
            exact (hnodup found).filter _

theorem replay_right (hkept : Kept (users, registered))
    (hroom : ∀ type obj, users.Cached users.currentUserId type obj →
      RoomFor (users.recvMgr users.currentUserId) type) :
    .endDereferenced ∉ users.userSwitchedOnRegisterListenerCache.1 ∧
      Kept (users.userSwitchedOnRegisterListenerCache.2, registered) ∧
      users.userSwitchedOnRegisterListenerCache.2.listenerCache[
        users.currentUserId]? = none := by
  cases hparams : users.listenerCache[users.currentUserId]? with
  | none =>
      simp only [userSwitchedOnRegisterListenerCache, hparams]
      exact ⟨by simp, hkept, trivial⟩
  | some params =>
      obtain ⟨type, obj, rfl⟩ := hkept.single users.currentUserId params hparams
      have hcached : ∀ found value,
          users.Cached users.currentUserId found value ↔
            found = type ∧ obj = some value := by
        intro found value
        simp only [Cached, hparams, Option.some.injEq, exists_eq_left',
          getElem?_single]
        grind
      have hfilled : ((∅ : Std.TreeMap Text (Option Obj)).insertIfNew type
          obj).isEmpty = false := by
        simp
      have hreplay : users.userSwitchedOnRegisterListenerCache =
          ([((users.recvMgr users.currentUserId).registerOn type obj).1],
            { users.setRecvMgr
                ((users.recvMgr users.currentUserId).registerOn type obj).2 with
              listenerCache := users.listenerCache.erase users.currentUserId }) := by
        simp only [userSwitchedOnRegisterListenerCache, hparams, hfilled,
          toList_single]
        rfl
      have hnodup := hkept.nodup users.currentUserId
      have hmade : ((users.recvMgr users.currentUserId).registerOn type obj).1 ≠
            .endDereferenced ∧
          (∀ found value, value ∈ ((users.recvMgr
              users.currentUserId).registerOn type obj).2.objectsOf found ↔
            value ∈ (users.recvMgr users.currentUserId).objectsOf found ∨
              users.Cached users.currentUserId found value) ∧
          ∀ found, (((users.recvMgr users.currentUserId).registerOn type
            obj).2.objectsOf found).Nodup := by
        cases obj with
        | none =>
            refine ⟨by simp [registerOn], fun found value => ?_, hnodup⟩
            simp [hcached, registerOn]
        | some obj =>
            have hfits := hroom type obj ((hcached type obj).mpr ⟨rfl, rfl⟩)
            refine ⟨registerOn_fst_ne hfits, fun found value => ?_,
              nodup_registerOn hnodup⟩
            rw [mem_objectsOf_registerOn hfits, hcached, Option.some.injEq,
              or_comm, @eq_comm _ value obj]
      rw [hreplay]
      refine ⟨by simpa using hmade.1.symm, ?_, ?_⟩
      · exact hkept.replay (recvMgr_setRecvMgr _) rfl hmade.2.1 hmade.2.2
      · rw [getElem?_erase_eq, if_pos rfl]

theorem Kept.step (hkept : Kept (users, registered)) (event : UserEvent Obj)
    (hsound : users.EventSound event) : StepRight (users, registered) event := by
  cases event with
  | onRegisterOnListener accountId foreground type obj =>
      exact stepRight_registerOn hkept hsound
  | onRegisterOffListener accountId foreground type obj =>
      exact stepRight_registerOff hkept hsound
  | onUserSwitched accountId =>
      have hswitched : Kept ({ users.createRecvMgr with
          currentUserId := accountId }.createRecvMgr, registered) :=
        hkept.congr
          (fun other => (recvMgr_createRecvMgr other).trans
            (recvMgr_createRecvMgr other)) rfl
      have hreplayed := replay_right hswitched ?_
      · refine ⟨hreplayed.1, hreplayed.2.1, ?_⟩
        rintro _ ⟨⟩
        exact hreplayed.2.2
      · intro type obj hcached
        rw [recvMgr_createRecvMgr]
        have hroom := hsound type obj hcached
        rw [← recvMgr_createRecvMgr accountId] at hroom
        exact hroom

end Steps

/-! ## Runs -/

/-- In every run of sound steps each switch leaves the manager of the account
with exactly the pairs of the account. -/
theorem listenersTakeEffect_run (currentUserId : ℤ) (events : List (UserEvent Obj))
    (hsound : Meets trackedStep (fun tracked event => tracked.1.EventSound event)
      ({ currentUserId }, fun _ => ∅) events) :
    Meets trackedStep TakesEffect ({ currentUserId }, fun _ => ∅) events := by
  have hstart : Kept (({ currentUserId } : UserListeners Obj), fun _ => ∅) := by
    refine ⟨fun accountId type obj => ?_, fun _ _ => List.nodup_nil, nofun⟩
    refine iff_of_false (Set.notMem_empty _) ?_
    rintro (hheld | ⟨params, hparams, -⟩)
    · cases hheld
    · cases hparams
  refine Meets.guarantee ?_ ?_ hstart hsound
  · intro tracked event hkept hsound
    exact (hkept.step event hsound).takesEffect
  · intro tracked event hkept hsound
    exact (hkept.step event hsound).kept

/-- A background user registers one object and comes to the front. -/
theorem listenersTakeEffect_oneWaiting :
    Meets trackedStep TakesEffect (({ currentUserId := 100 }, fun _ => ∅) :
        UserListeners ℕ × (ℤ → Set (Text × ℕ)))
      [.onRegisterOnListener 101 false ['a'] (some 1), .onUserSwitched 101] := by
  refine listenersTakeEffect_run 100 _ ⟨Or.inl rfl, ?_, trivial⟩
  intro type obj _ _
  decide

/-- A background user registers two objects before it comes to the front. -/
theorem not_listenersTakeEffect_twoWaiting :
    ¬ Meets trackedStep TakesEffect (({ currentUserId := 100 }, fun _ => ∅) :
        UserListeners ℕ × (ℤ → Set (Text × ℕ)))
      [.onRegisterOnListener 101 false ['a'] (some 1),
        .onRegisterOnListener 101 false ['b'] (some 2),
        .onUserSwitched 101] := by
  rintro ⟨-, -, hswitched, -⟩
  have hheld := (hswitched.mem_iff 101 rfl ['b'] 2).mpr (Or.inl rfl)
  revert hheld
  decide +kernel

end UserListeners
end Dmsfwk
