import Dmsfwk.EventRun
import Dmsfwk.OrderedMap
import Mathlib.Data.List.Count

/-!
# Shared sessions of the softbus adapter

`DSchedTransportSoftbusAdapter` keeps one table of sessions, ordered by the
socket id that softbus chose.  `ConnectDevice` and `DisconnectDevice` name a
peer device, never a session, and both act on the first session of that peer.
The state below is the table together with what its users hold: the sessions
`ConnectDevice` returned and `DisconnectDevice` has not yet been called for,
and the `ConnectDevice` calls that left the first locked section without a
session and are on their way to `AddNewPeerSession`.
-/

namespace Dmsfwk

structure SoftbusSessionRecord where
  peerDeviceId : String
  isServer : Bool
  refCount : ℤ
  deriving DecidableEq, Repr

namespace SoftbusSessionRecord

def onConnect (record : SoftbusSessionRecord) : SoftbusSessionRecord :=
  { record with refCount := record.refCount + 1 }

/-- `OnDisconnect`; the flag says that the session is no longer in use. -/
def onDisconnect (record : SoftbusSessionRecord) :
    Bool × SoftbusSessionRecord :=
  let next := { record with refCount := record.refCount - 1 }
  (decide (next.refCount ≤ 0), next)

end SoftbusSessionRecord

structure SoftbusAdapter where
  sessions : Std.TreeMap ℤ SoftbusSessionRecord
  connecting : List String
  held : List (String × ℤ)

structure NewPeerAnswers where
  socket : ℤ
  bind : ℤ
  localDeviceId : Bool
  deriving DecidableEq, Repr

/-- `disconnectDevice` carries the session its caller once obtained from
`ConnectDevice` for this peer, if any. -/
inductive AdapterEvent where
  | connectDevice (peerDeviceId : String)
  | addNewPeerSession (peerDeviceId : String) (answers : NewPeerAnswers)
  | disconnectDevice (peerDeviceId : String) (obtained : Option ℤ)
  | onBind (sessionId : ℤ) (peerDeviceId : String) (localDeviceId : Bool)
  | onShutdown (sessionId : ℤ)
  deriving DecidableEq, Repr

namespace SoftbusAdapter

def initial : SoftbusAdapter := ⟨∅, [], []⟩

/-! ## The operations

Every operation returns the ids it passes to the softbus `Shutdown`. -/

def find (adapter : SoftbusAdapter) (peerDeviceId : String) :
    Option (ℤ × SoftbusSessionRecord) :=
  OrderedMap.firstMatch adapter.sessions
    fun record => record.peerDeviceId == peerDeviceId

def connectDevice (adapter : SoftbusAdapter) (peerDeviceId : String) :
    SoftbusAdapter :=
  match adapter.find peerDeviceId with
  | some (sessionId, record) =>
      { adapter with
        sessions := adapter.sessions.insert sessionId record.onConnect
        held := (peerDeviceId, sessionId) :: adapter.held }
  | none =>
      { adapter with connecting := peerDeviceId :: adapter.connecting }

def createSessionRecord (adapter : SoftbusAdapter) (sessionId : ℤ)
    (peerDeviceId : String) (isServer : Bool) : SoftbusAdapter :=
  { adapter with
    sessions := adapter.sessions.insert sessionId ⟨peerDeviceId, isServer, 1⟩ }

/-- `AddNewPeerSession` of a pending `ConnectDevice`.  Without a local device
id the socket is shut down by `CreateSessionRecord` and once more by its
caller. -/
def addNewPeerSession (adapter : SoftbusAdapter) (peerDeviceId : String)
    (answers : NewPeerAnswers) : List ℤ × SoftbusAdapter :=
  if peerDeviceId ∈ adapter.connecting then
    let adapter :=
      { adapter with connecting := adapter.connecting.erase peerDeviceId }
    if answers.socket ≤ 0 then ([], adapter)
    else if answers.bind ≠ 0 then ([answers.socket], adapter)
    else if answers.localDeviceId = false then
      ([answers.socket, answers.socket], adapter)
    else
      let created :=
        adapter.createSessionRecord answers.socket peerDeviceId false
      ([], { created with
        held := (peerDeviceId, answers.socket) :: created.held })
  else ([], adapter)

/-- `DisconnectDevice`; id `0` means that no session was found. -/
def disconnectDevice (adapter : SoftbusAdapter) (peerDeviceId : String) :
    List ℤ × SoftbusAdapter :=
  match adapter.find peerDeviceId with
  | none => ([], adapter)
  | some (sessionId, record) =>
      if sessionId ≠ 0 then
        match record.onDisconnect with
        | (true, _) =>
            ([sessionId],
              { adapter with sessions := adapter.sessions.erase sessionId })
        | (false, next) =>
            ([], { adapter with
              sessions := adapter.sessions.insert sessionId next })
      else ([], adapter)

def onBind (adapter : SoftbusAdapter) (sessionId : ℤ)
    (peerDeviceId : String) (localDeviceId : Bool) :
    List ℤ × SoftbusAdapter :=
  if localDeviceId = false then ([sessionId], adapter)
  else ([], adapter.createSessionRecord sessionId peerDeviceId true)

def onShutdown (adapter : SoftbusAdapter) (sessionId : ℤ) :
    List ℤ × SoftbusAdapter :=
  match adapter.sessions[sessionId]? with
  | none => ([], adapter)
  | some _ =>
      ([sessionId],
        { adapter with sessions := adapter.sessions.erase sessionId })

def giveBack (adapter : SoftbusAdapter) (peerDeviceId : String) :
    Option ℤ → SoftbusAdapter
  | none => adapter
  | some sessionId =>
      { adapter with held := adapter.held.erase (peerDeviceId, sessionId) }

def step (adapter : SoftbusAdapter) :
    AdapterEvent → List ℤ × SoftbusAdapter
  | .connectDevice peerDeviceId => ([], adapter.connectDevice peerDeviceId)
  | .addNewPeerSession peerDeviceId answers =>
      adapter.addNewPeerSession peerDeviceId answers
  | .disconnectDevice peerDeviceId obtained =>
      let result := adapter.disconnectDevice peerDeviceId
      (result.1, result.2.giveBack peerDeviceId obtained)
  | .onBind sessionId peerDeviceId localDeviceId =>
      adapter.onBind sessionId peerDeviceId localDeviceId
  | .onShutdown sessionId => adapter.onShutdown sessionId

/-! ## The right owner -/

def Registered (adapter : SoftbusAdapter) (peerDeviceId : String)
    (sessionId : ℤ) : Prop :=
  adapter.sessions[sessionId]?.map (·.peerDeviceId) = some peerDeviceId

instance (adapter : SoftbusAdapter) (peerDeviceId : String)
    (sessionId : ℤ) :
    Decidable (adapter.Registered peerDeviceId sessionId) :=
  inferInstanceAs (Decidable (_ = _))

def released (record : SoftbusSessionRecord) : Option SoftbusSessionRecord :=
  if record.refCount - 1 ≤ 0 then none
  else some { record with refCount := record.refCount - 1 }

/-- What a `DisconnectDevice` step has to do.  Its caller's session loses one
reference and every other session stays as it is; a session that is shut down
is held by nobody else, and an incoming one was obtained by the caller. -/
def DisconnectsOwn (adapter : SoftbusAdapter) : AdapterEvent → Prop
  | .disconnectDevice peerDeviceId obtained =>
      let result := adapter.step (.disconnectDevice peerDeviceId obtained)
      (∀ sessionId ∈ obtained, (peerDeviceId, sessionId) ∈ adapter.held →
        ∀ entry ∈ adapter.sessions.toList,
          result.2.sessions[entry.1]? =
            if entry.1 = sessionId ∧ entry.2.peerDeviceId = peerDeviceId
            then released entry.2 else some entry.2) ∧
      ∀ sessionId ∈ result.1,
        (peerDeviceId, sessionId) ∉ result.2.held ∧
        ∀ record ∈ adapter.sessions[sessionId]?, record.isServer = true →
          obtained = some sessionId ∧
            (peerDeviceId, sessionId) ∈ adapter.held
  | _ => True

instance (adapter : SoftbusAdapter) :
    ∀ event, Decidable (adapter.DisconnectsOwn event)
  | .disconnectDevice _ _ => inferInstanceAs (Decidable (_ ∧ _))
  | .connectDevice _ => .isTrue trivial
  | .addNewPeerSession _ _ => .isTrue trivial
  | .onBind _ _ _ => .isTrue trivial
  | .onShutdown _ => .isTrue trivial

/-- The condition on a new record: softbus did not choose id `0`, nobody still
holds an older session of the peer under the same id, and no held session of
the peer has a greater id. -/
def Fits (adapter : SoftbusAdapter) (sessionId : ℤ)
    (peerDeviceId : String) : Prop :=
  sessionId ≠ 0 ∧ (peerDeviceId, sessionId) ∉ adapter.held ∧
    ∀ holding ∈ adapter.held, holding.1 = peerDeviceId →
      adapter.Registered peerDeviceId holding.2 → holding.2 < sessionId

def Leads (adapter : SoftbusAdapter) (sessionId : ℤ)
    (peerDeviceId : String) : Prop :=
  ∀ entry ∈ adapter.sessions.toList, entry.2.peerDeviceId = peerDeviceId →
    sessionId ≤ entry.1

/-- The condition on a step.  A session that `OnBind` registers must fit; one
that `ConnectDevice` registers must also come first, which fails when another
session of the peer appeared after the lookup.  `DisconnectDevice` is called
by a holder of a session that is still registered, or while the peer has no
registered session. -/
def Admissible (adapter : SoftbusAdapter) : AdapterEvent → Prop
  | .connectDevice _ => True
  | .addNewPeerSession peerDeviceId answers =>
      peerDeviceId ∈ adapter.connecting → 0 < answers.socket →
        answers.bind = 0 → answers.localDeviceId = true →
        adapter.Fits answers.socket peerDeviceId ∧
          adapter.Leads answers.socket peerDeviceId
  | .disconnectDevice peerDeviceId obtained =>
      (∃ sessionId ∈ obtained, (peerDeviceId, sessionId) ∈ adapter.held ∧
        adapter.Registered peerDeviceId sessionId) ∨
      adapter.find peerDeviceId = none
  | .onBind sessionId peerDeviceId localDeviceId =>
      localDeviceId = true → adapter.Fits sessionId peerDeviceId
  | .onShutdown _ => True

instance (adapter : SoftbusAdapter) (sessionId : ℤ)
    (peerDeviceId : String) :
    Decidable (adapter.Fits sessionId peerDeviceId) :=
  inferInstanceAs (Decidable (_ ∧ _))

instance (adapter : SoftbusAdapter) (sessionId : ℤ)
    (peerDeviceId : String) :
    Decidable (adapter.Leads sessionId peerDeviceId) :=
  inferInstanceAs (Decidable (∀ _ ∈ _, _))

instance (adapter : SoftbusAdapter) :
    ∀ event, Decidable (adapter.Admissible event)
  | .connectDevice _ => .isTrue trivial
  | .addNewPeerSession _ _ => inferInstanceAs (Decidable (_ → _))
  | .disconnectDevice _ _ => inferInstanceAs (Decidable (_ ∨ _))
  | .onBind _ _ _ => inferInstanceAs (Decidable (_ → _))
  | .onShutdown _ => .isTrue trivial

/-! ## The table -/

section Table

variable {adapter : SoftbusAdapter} {peerDeviceId : String} {sessionId : ℤ}
  {record : SoftbusSessionRecord}

theorem registered_iff :
    adapter.Registered peerDeviceId sessionId ↔
      ∃ record, adapter.sessions[sessionId]? = some record ∧
        record.peerDeviceId = peerDeviceId := by
  unfold Registered
  rw [Option.map_eq_some_iff]

theorem registered_of_getElem?
    (hrecord : adapter.sessions[sessionId]? = some record) :
    adapter.Registered record.peerDeviceId sessionId :=
  registered_iff.mpr ⟨record, hrecord, rfl⟩

theorem find_spec
    (hfind : adapter.find peerDeviceId = some (sessionId, record)) :
    adapter.sessions[sessionId]? = some record ∧
      record.peerDeviceId = peerDeviceId ∧
      ∀ other, adapter.Registered peerDeviceId other → sessionId ≤ other := by
  obtain ⟨hrecord, hpeer, hfirst⟩ := OrderedMap.firstMatch_spec hfind
  refine ⟨hrecord, by simpa using hpeer, ?_⟩
  intro other hother
  obtain ⟨found, hfound, hpeer'⟩ := registered_iff.mp hother
  have hle := hfirst other found hfound (by simpa using hpeer')
  exact Std.isLE_compare.mp hle

theorem not_registered_of_find (hfind : adapter.find peerDeviceId = none)
    (sessionId : ℤ) : ¬ adapter.Registered peerDeviceId sessionId := by
  intro hregistered
  obtain ⟨record, hrecord, hpeer⟩ := registered_iff.mp hregistered
  have hfails :=
    OrderedMap.firstMatch_eq_none.mp hfind sessionId record hrecord
  simp [hpeer] at hfails

end Table

/-! ## The invariant -/

/-- The count of a session is the number of its holders, plus the reference an
incoming session starts with, and what is held of a peer is its first
session. -/
structure Accounted (adapter : SoftbusAdapter) : Prop where
  nonzero : ∀ (sessionId : ℤ) (record : SoftbusSessionRecord),
    adapter.sessions[sessionId]? = some record → sessionId ≠ 0
  counted : ∀ (sessionId : ℤ) (record : SoftbusSessionRecord),
    adapter.sessions[sessionId]? = some record →
      record.refCount =
        (adapter.held.count (record.peerDeviceId, sessionId) : ℤ) +
          if record.isServer then 1 else 0
  first : ∀ (peerDeviceId : String) (sessionId other : ℤ),
    (peerDeviceId, sessionId) ∈ adapter.held →
      adapter.Registered peerDeviceId sessionId →
      adapter.Registered peerDeviceId other → sessionId ≤ other

theorem accounted_initial : Accounted initial where
  nonzero := by
    intro sessionId record hrecord
    simp [initial] at hrecord
  counted := by
    intro sessionId record hrecord
    simp [initial] at hrecord
  first := by
    intro peerDeviceId sessionId other hheld
    simp [initial] at hheld

theorem Accounted.shrink {adapter next : SoftbusAdapter}
    (haccounted : adapter.Accounted)
    (hkept : ∀ (sessionId : ℤ) (record : SoftbusSessionRecord),
      next.sessions[sessionId]? = some record →
        adapter.sessions[sessionId]? = some record ∧
          next.held.count (record.peerDeviceId, sessionId) =
            adapter.held.count (record.peerDeviceId, sessionId)) :
    next.Accounted := by
  have hregistered : ∀ (peerDeviceId : String) (sessionId : ℤ),
      next.Registered peerDeviceId sessionId →
        adapter.Registered peerDeviceId sessionId := by
    intro peerDeviceId sessionId hsession
    obtain ⟨record, hrecord, rfl⟩ := registered_iff.mp hsession
    exact registered_of_getElem? (hkept sessionId record hrecord).1
  constructor
  · intro sessionId record hrecord
    exact haccounted.nonzero sessionId record
      (hkept sessionId record hrecord).1
  · intro sessionId record hrecord
    obtain ⟨hbefore, hcount⟩ := hkept sessionId record hrecord
    rw [hcount]
    exact haccounted.counted sessionId record hbefore
  · intro peerDeviceId sessionId other hheld hsession hother
    obtain ⟨record, hrecord, rfl⟩ := registered_iff.mp hsession
    have hmem : (record.peerDeviceId, sessionId) ∈ adapter.held := by
      rw [← List.count_pos_iff, ← (hkept sessionId record hrecord).2,
        List.count_pos_iff]
      exact hheld
    exact haccounted.first record.peerDeviceId sessionId other hmem
      (hregistered _ sessionId hsession) (hregistered _ other hother)

theorem getElem?_of_erase {adapter : SoftbusAdapter} {erased sessionId : ℤ}
    {record : SoftbusSessionRecord}
    (hrecord :
      (adapter.sessions.erase erased)[sessionId]? = some record) :
    erased ≠ sessionId ∧ adapter.sessions[sessionId]? = some record := by
  rw [OrderedMap.getElem?_erase_eq] at hrecord
  split_ifs at hrecord with hsame
  exact ⟨hsame, hrecord⟩

theorem Accounted.recount {adapter : SoftbusAdapter}
    (haccounted : adapter.Accounted) {sessionId : ℤ}
    {record : SoftbusSessionRecord} {refCount : ℤ}
    {held : List (String × ℤ)}
    (hrecord : adapter.sessions[sessionId]? = some record)
    (hcount : refCount - record.refCount =
      (held.count (record.peerDeviceId, sessionId) : ℤ) -
        adapter.held.count (record.peerDeviceId, sessionId))
    (hothers : ∀ holding ≠ (record.peerDeviceId, sessionId),
      held.count holding = adapter.held.count holding)
    (hfirst : ∀ other, adapter.Registered record.peerDeviceId other →
      sessionId ≤ other) :
    Accounted
      { adapter with
        sessions := adapter.sessions.insert sessionId
          { record with refCount := refCount }
        held := held } := by
  have hregistered : ∀ (peerDeviceId : String) (other : ℤ),
      Registered { adapter with
        sessions := adapter.sessions.insert sessionId
          { record with refCount := refCount }
        held := held } peerDeviceId other →
        adapter.Registered peerDeviceId other := by
    intro peerDeviceId other hother
    obtain ⟨found, hfound, rfl⟩ := registered_iff.mp hother
    simp only [OrderedMap.getElem?_insert_eq] at hfound
    split_ifs at hfound with hsame
    · cases hfound
      subst hsame
      exact registered_iff.mpr ⟨record, hrecord, rfl⟩
    · exact registered_of_getElem? hfound
  constructor
  · intro other found hfound
    simp only [OrderedMap.getElem?_insert_eq] at hfound
    split_ifs at hfound with hsame
    · subst hsame
      exact haccounted.nonzero sessionId record hrecord
    · exact haccounted.nonzero other found hfound
  · intro other found hfound
    simp only [OrderedMap.getElem?_insert_eq] at hfound
    split_ifs at hfound with hsame
    · cases hfound
      subst hsame
      have hbefore := haccounted.counted sessionId record hrecord
      show refCount = _ + if record.isServer then 1 else 0
      linarith
    · have hne : (found.peerDeviceId, other) ≠
          (record.peerDeviceId, sessionId) := by
        intro heq
        exact hsame (Prod.mk.inj heq).2.symm
      rw [hothers _ hne]
      exact haccounted.counted other found hfound
  · intro peerDeviceId holding other hheld hholding hother
    have hotherBefore := hregistered peerDeviceId other hother
    by_cases hsame :
        (peerDeviceId, holding) = (record.peerDeviceId, sessionId)
    · obtain ⟨rfl, rfl⟩ := Prod.mk.inj hsame
      exact hfirst other hotherBefore
    · have hmem : (peerDeviceId, holding) ∈ adapter.held := by
        have hcountPos := List.count_pos_iff.mpr hheld
        rw [hothers _ hsame] at hcountPos
        exact List.count_pos_iff.mp hcountPos
      exact haccounted.first peerDeviceId holding other hmem
        (hregistered peerDeviceId holding hholding) hotherBefore

/-- A fitting new record keeps the accounts, with its first reference held
either by softbus or by the caller of `ConnectDevice`. -/
theorem Accounted.create {adapter : SoftbusAdapter}
    (haccounted : adapter.Accounted) {sessionId : ℤ}
    {peerDeviceId : String} {isServer : Bool} {held : List (String × ℤ)}
    (hfits : adapter.Fits sessionId peerDeviceId)
    (hcount : (held.count (peerDeviceId, sessionId) : ℤ) +
      (if isServer then 1 else 0) = 1)
    (hothers : ∀ holding ≠ (peerDeviceId, sessionId),
      held.count holding = adapter.held.count holding)
    (hfirst : (peerDeviceId, sessionId) ∈ held →
      ∀ other, adapter.Registered peerDeviceId other → sessionId ≤ other) :
    Accounted
      { adapter.createSessionRecord sessionId peerDeviceId isServer with
        held := held } := by
  obtain ⟨hnonzero, -, hbelow⟩ := hfits
  have hregistered : ∀ (peer : String) (other : ℤ),
      Registered
        { adapter.createSessionRecord sessionId peerDeviceId isServer with
          held := held } peer other →
        (peer = peerDeviceId ∧ other = sessionId) ∨
          (other ≠ sessionId ∧ adapter.Registered peer other) := by
    intro peer other hother
    obtain ⟨found, hfound, rfl⟩ := registered_iff.mp hother
    simp only [createSessionRecord, OrderedMap.getElem?_insert_eq] at hfound
    split_ifs at hfound with hsame
    · cases hfound
      exact Or.inl ⟨rfl, hsame.symm⟩
    · exact Or.inr ⟨Ne.symm hsame, registered_of_getElem? hfound⟩
  constructor
  · intro other found hfound
    simp only [createSessionRecord, OrderedMap.getElem?_insert_eq] at hfound
    split_ifs at hfound with hsame
    · rw [← hsame]
      exact hnonzero
    · exact haccounted.nonzero other found hfound
  · intro other found hfound
    simp only [createSessionRecord, OrderedMap.getElem?_insert_eq] at hfound
    split_ifs at hfound with hsame
    · cases hfound
      subst hsame
      exact hcount.symm
    · have hne : (found.peerDeviceId, other) ≠ (peerDeviceId, sessionId) := by
        intro heq
        exact hsame (Prod.mk.inj heq).2.symm
      rw [hothers _ hne]
      exact haccounted.counted other found hfound
  · intro peer holding other hheld hholding hother
    rcases hregistered peer holding hholding with
      ⟨rfl, rfl⟩ | ⟨hne, hbefore⟩
    · rcases hregistered _ other hother with ⟨-, rfl⟩ | ⟨-, hold⟩
      · exact le_refl _
      · exact hfirst hheld other hold
    · have hmem : (peer, holding) ∈ adapter.held := by
        have hdiffer : (peer, holding) ≠ (peerDeviceId, sessionId) := by
          intro heq
          exact hne (Prod.mk.inj heq).2
        have hcountPos := List.count_pos_iff.mpr hheld
        rw [hothers _ hdiffer] at hcountPos
        exact List.count_pos_iff.mp hcountPos
      rcases hregistered peer other hother with ⟨rfl, rfl⟩ | ⟨-, hold⟩
      · exact (hbelow _ hmem rfl hbefore).le
      · exact haccounted.first peer holding other hmem hbefore hold

/-! ## Every step keeps the accounts -/

section Accounted

variable {adapter : SoftbusAdapter} (haccounted : adapter.Accounted)

include haccounted

theorem accounted_connectDevice (peerDeviceId : String) :
    (adapter.connectDevice peerDeviceId).Accounted := by
  unfold connectDevice
  cases hfind : adapter.find peerDeviceId with
  | none =>
      exact ⟨haccounted.nonzero, haccounted.counted, haccounted.first⟩
  | some entry =>
      obtain ⟨sessionId, record⟩ := entry
      obtain ⟨hrecord, rfl, hfirst⟩ := find_spec hfind
      refine haccounted.recount hrecord ?_ ?_ hfirst
      · rw [List.count_cons_self]
        push_cast
        ring
      · intro holding hne
        exact List.count_cons_of_ne hne.symm

theorem accounted_addNewPeerSession {peerDeviceId : String}
    {answers : NewPeerAnswers}
    (hadmissible :
      adapter.Admissible (.addNewPeerSession peerDeviceId answers)) :
    (adapter.addNewPeerSession peerDeviceId answers).2.Accounted := by
  have hunchanged : Accounted
      { adapter with connecting := adapter.connecting.erase peerDeviceId } :=
    ⟨haccounted.nonzero, haccounted.counted, haccounted.first⟩
  unfold addNewPeerSession
  split_ifs with hpending hsocket hbind hlocal
  · exact hunchanged
  · exact hunchanged
  · exact hunchanged
  · obtain ⟨hfits, hleads⟩ := hadmissible hpending (not_le.mp hsocket)
      (not_not.mp hbind) (by simpa using hlocal)
    refine hunchanged.create hfits ?_ ?_ ?_
    · have habsent := List.count_eq_zero_of_not_mem hfits.2.1
      simp only [createSessionRecord]
      rw [List.count_cons_self, habsent]
      rfl
    · intro holding hne
      exact List.count_cons_of_ne hne.symm
    · intro _ other hother
      obtain ⟨record, hrecord, hpeer⟩ := registered_iff.mp hother
      exact hleads (other, record)
        (Std.TreeMap.mem_toList_iff_getElem?_eq_some.mpr hrecord) hpeer
  · exact haccounted

theorem accounted_onBind {sessionId : ℤ} {peerDeviceId : String}
    {localDeviceId : Bool}
    (hadmissible :
      adapter.Admissible (.onBind sessionId peerDeviceId localDeviceId)) :
    (adapter.onBind sessionId peerDeviceId localDeviceId).2.Accounted := by
  unfold onBind
  split_ifs with hlocal
  · exact haccounted
  · have hfits := hadmissible (by simpa using hlocal)
    refine @Accounted.create adapter haccounted sessionId peerDeviceId true
      adapter.held hfits ?_ ?_ ?_
    · rw [List.count_eq_zero_of_not_mem hfits.2.1]
      rfl
    · intro holding _
      rfl
    · intro hheld
      exact absurd hheld hfits.2.1

theorem accounted_onShutdown (sessionId : ℤ) :
    (adapter.onShutdown sessionId).2.Accounted := by
  unfold onShutdown
  cases adapter.sessions[sessionId]? with
  | none => exact haccounted
  | some record =>
      apply haccounted.shrink
      intro other found hfound
      exact ⟨(getElem?_of_erase hfound).2, rfl⟩

/-! ## Disconnecting -/

theorem Accounted.find_held {peerDeviceId : String} {sessionId : ℤ}
    (hheld : (peerDeviceId, sessionId) ∈ adapter.held)
    (hregistered : adapter.Registered peerDeviceId sessionId) :
    ∃ record, adapter.find peerDeviceId = some (sessionId, record) := by
  cases hfind : adapter.find peerDeviceId with
  | none =>
      exact absurd hregistered (not_registered_of_find hfind sessionId)
  | some entry =>
      obtain ⟨found, record⟩ := entry
      obtain ⟨hrecord, rfl, hfirst⟩ := find_spec hfind
      have hle := haccounted.first _ sessionId found hheld hregistered
        (registered_of_getElem? hrecord)
      obtain rfl : found = sessionId :=
        le_antisymm (hfirst sessionId hregistered) hle
      exact ⟨record, rfl⟩

end Accounted

section Find

variable {adapter : SoftbusAdapter} {peerDeviceId : String} {sessionId : ℤ}
  {record : SoftbusSessionRecord}
  (hfind : adapter.find peerDeviceId = some (sessionId, record))
  (hnonzero : sessionId ≠ 0)

include hfind hnonzero

theorem disconnectDevice_of_find :
    adapter.disconnectDevice peerDeviceId =
      if record.refCount - 1 ≤ 0 then
        ([sessionId],
          { adapter with sessions := adapter.sessions.erase sessionId })
      else
        ([], { adapter with
          sessions := adapter.sessions.insert sessionId
            { record with refCount := record.refCount - 1 } }) := by
  unfold disconnectDevice
  rw [hfind]
  by_cases hlast : record.refCount - 1 ≤ 0
  · simp [hnonzero, SoftbusSessionRecord.onDisconnect, hlast]
  · simp [hnonzero, SoftbusSessionRecord.onDisconnect, hlast]

theorem getElem?_disconnectDevice (other : ℤ) :
    (adapter.disconnectDevice peerDeviceId).2.sessions[other]? =
      if sessionId = other then released record
      else adapter.sessions[other]? := by
  rw [disconnectDevice_of_find hfind hnonzero, released]
  by_cases hlast : record.refCount - 1 ≤ 0
  · simp only [if_pos hlast, OrderedMap.getElem?_erase_eq]
  · simp only [if_neg hlast, OrderedMap.getElem?_insert_eq]

end Find

section NoSession

variable {adapter : SoftbusAdapter} {peerDeviceId : String}

theorem disconnectDevice_of_find_none
    (hfind : adapter.find peerDeviceId = none) :
    adapter.disconnectDevice peerDeviceId = ([], adapter) := by
  unfold disconnectDevice
  rw [hfind]

@[simp] theorem giveBack_sessions (obtained : Option ℤ) :
    (adapter.giveBack peerDeviceId obtained).sessions = adapter.sessions := by
  cases obtained <;> rfl

theorem Accounted.disconnect_none (haccounted : adapter.Accounted)
    (hfind : adapter.find peerDeviceId = none) (obtained : Option ℤ) :
    (adapter.step
      (.disconnectDevice peerDeviceId obtained)).2.Accounted := by
  simp only [step, disconnectDevice_of_find_none hfind]
  apply haccounted.shrink
  intro sessionId record hrecord
  rw [giveBack_sessions] at hrecord
  refine ⟨hrecord, ?_⟩
  cases obtained with
  | none => rfl
  | some own =>
      refine List.count_erase_of_ne ?_
      intro heq
      have hpeer : record.peerDeviceId = peerDeviceId :=
        (Prod.mk.inj heq).1
      exact not_registered_of_find hfind sessionId
        (registered_iff.mpr ⟨record, hrecord, hpeer⟩)

theorem disconnectsOwn_none (hfind : adapter.find peerDeviceId = none)
    (obtained : Option ℤ) :
    adapter.DisconnectsOwn (.disconnectDevice peerDeviceId obtained) := by
  simp only [DisconnectsOwn, step, disconnectDevice_of_find_none hfind,
    giveBack_sessions]
  constructor
  · intro own _ _ entry hentry
    have hrecord : adapter.sessions[entry.1]? = some entry.2 :=
      Std.TreeMap.mem_toList_iff_getElem?_eq_some.mp hentry
    rw [if_neg]
    · exact hrecord
    · intro hown
      exact not_registered_of_find hfind entry.1
        (registered_iff.mpr ⟨entry.2, hrecord, hown.2⟩)
  · intro shut hshut
    simp at hshut

end NoSession

section Holder

variable {adapter : SoftbusAdapter} {sessionId : ℤ}
  {record : SoftbusSessionRecord}

theorem Accounted.sole_holder (haccounted : adapter.Accounted)
    (hrecord : adapter.sessions[sessionId]? = some record)
    (hheld : (record.peerDeviceId, sessionId) ∈ adapter.held)
    (hlast : record.refCount - 1 ≤ 0) :
    adapter.held.count (record.peerDeviceId, sessionId) = 1 := by
  have hcounted := haccounted.counted sessionId record hrecord
  have hpos := List.count_pos_iff.mpr hheld
  split_ifs at hcounted <;> omega

section Disconnecting

variable (haccounted : adapter.Accounted)
  (hfind : adapter.find record.peerDeviceId = some (sessionId, record))
  (hheld : (record.peerDeviceId, sessionId) ∈ adapter.held)

include haccounted hfind hheld

theorem Accounted.disconnect_held :
    (adapter.step
      (.disconnectDevice record.peerDeviceId
        (some sessionId))).2.Accounted := by
  obtain ⟨hrecord, -, hfirst⟩ := find_spec hfind
  have hnonzero := haccounted.nonzero sessionId record hrecord
  have hothers : ∀ holding ≠ (record.peerDeviceId, sessionId),
      (adapter.held.erase (record.peerDeviceId, sessionId)).count holding =
        adapter.held.count holding := by
    intro holding hne
    exact List.count_erase_of_ne hne
  simp only [step, disconnectDevice_of_find hfind hnonzero]
  split_ifs with hlast
  · apply haccounted.shrink
    intro other found hfound
    obtain ⟨hdiffers, hbefore⟩ := getElem?_of_erase hfound
    refine ⟨hbefore, hothers _ ?_⟩
    intro heq
    exact hdiffers (Prod.mk.inj heq).2.symm
  · refine haccounted.recount hrecord ?_ hothers hfirst
    have hpos := List.count_pos_iff.mpr hheld
    simp only [List.count_erase_self]
    omega

theorem Accounted.disconnectsOwn_held :
    adapter.DisconnectsOwn
      (.disconnectDevice record.peerDeviceId (some sessionId)) := by
  obtain ⟨hrecord, -, hfirst⟩ := find_spec hfind
  have hnonzero := haccounted.nonzero sessionId record hrecord
  constructor
  · intro own hown _ entry hentry
    obtain rfl : sessionId = own := by simpa using hown
    have hbefore : adapter.sessions[entry.1]? = some entry.2 :=
      Std.TreeMap.mem_toList_iff_getElem?_eq_some.mp hentry
    simp only [step, giveBack_sessions,
      getElem?_disconnectDevice hfind hnonzero]
    by_cases hsame : sessionId = entry.1
    · obtain rfl : record = entry.2 := by
        rw [hsame, hbefore] at hrecord
        exact (Option.some.inj hrecord).symm
      rw [if_pos hsame, if_pos ⟨hsame.symm, rfl⟩]
    · rw [if_neg hsame, if_neg (fun h => hsame h.1.symm)]
      exact hbefore
  · intro shut hshut
    simp only [step, disconnectDevice_of_find hfind hnonzero] at hshut ⊢
    split_ifs at hshut ⊢ with hlast
    · obtain rfl : shut = sessionId := by simpa using hshut
      have hcount := haccounted.sole_holder hrecord hheld hlast
      constructor
      · rw [giveBack, ← List.count_eq_zero, List.count_erase_self, hcount]
      · intro found _ _
        exact ⟨rfl, hheld⟩
    · simp at hshut

end Disconnecting

end Holder

/-! ## Runs -/

theorem Accounted.step {adapter : SoftbusAdapter} {event : AdapterEvent}
    (haccounted : adapter.Accounted)
    (hadmissible : adapter.Admissible event) :
    (adapter.step event).2.Accounted := by
  cases event with
  | connectDevice peerDeviceId =>
      exact accounted_connectDevice haccounted peerDeviceId
  | addNewPeerSession peerDeviceId answers =>
      exact accounted_addNewPeerSession haccounted hadmissible
  | disconnectDevice peerDeviceId obtained =>
      rcases hadmissible with ⟨own, hown, hheld, hregistered⟩ | hnone
      · obtain rfl : obtained = some own := hown
        obtain ⟨record, hfind⟩ := haccounted.find_held hheld hregistered
        obtain ⟨-, rfl, -⟩ := find_spec hfind
        exact haccounted.disconnect_held hfind hheld
      · exact haccounted.disconnect_none hnone obtained
  | onBind sessionId peerDeviceId localDeviceId =>
      exact accounted_onBind haccounted hadmissible
  | onShutdown sessionId => exact accounted_onShutdown haccounted sessionId

theorem Accounted.disconnectsOwn {adapter : SoftbusAdapter}
    {event : AdapterEvent} (haccounted : adapter.Accounted)
    (hadmissible : adapter.Admissible event) :
    adapter.DisconnectsOwn event := by
  cases event with
  | disconnectDevice peerDeviceId obtained =>
      rcases hadmissible with ⟨own, hown, hheld, hregistered⟩ | hnone
      · obtain rfl : obtained = some own := hown
        obtain ⟨record, hfind⟩ := haccounted.find_held hheld hregistered
        obtain ⟨-, rfl, -⟩ := find_spec hfind
        exact haccounted.disconnectsOwn_held hfind hheld
      · exact disconnectsOwn_none hnone obtained
  | connectDevice peerDeviceId => trivial
  | addNewPeerSession peerDeviceId answers => trivial
  | onBind sessionId peerDeviceId localDeviceId => trivial
  | onShutdown sessionId => trivial

/-- In every run of admissible steps every `DisconnectDevice` releases its
caller's own session and shuts down nobody else's. -/
theorem disconnectsOwn_run (events : List AdapterEvent)
    (hadmissible : EventRun.Meets step Admissible initial events) :
    EventRun.Meets step DisconnectsOwn initial events :=
  hadmissible.guarantee
    (fun _ _ haccounted hevent => haccounted.disconnectsOwn hevent)
    (fun _ _ haccounted hevent => haccounted.step hevent)
    accounted_initial

def sharedSession : List AdapterEvent :=
  [.connectDevice "peer", .addNewPeerSession "peer" ⟨5, 0, true⟩,
    .onBind 7 "peer" true, .connectDevice "peer",
    .disconnectDevice "peer" (some 5), .disconnectDevice "peer" (some 5)]

theorem disconnectsOwn_sharedSession :
    EventRun.Meets step Admissible initial sharedSession ∧
      EventRun.Meets step DisconnectsOwn initial sharedSession := by
  have hadmissible :
      EventRun.Meets step Admissible initial sharedSession := by
    decide
  exact ⟨hadmissible, disconnectsOwn_run sharedSession hadmissible⟩

def crossedSession : List AdapterEvent :=
  [.connectDevice "peer", .addNewPeerSession "peer" ⟨5, 0, true⟩,
    .onBind 3 "peer" true, .disconnectDevice "peer" (some 5)]

/-- The holder of session `5` shuts down the incoming session `3`. -/
theorem not_disconnectsOwn_crossedSession :
    (EventRun.run step initial crossedSession).1 = [[], [], [], [3]] ∧
      ¬ EventRun.Meets step DisconnectsOwn initial crossedSession := by
  decide

end SoftbusAdapter

end Dmsfwk
