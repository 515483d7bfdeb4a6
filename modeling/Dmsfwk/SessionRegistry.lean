import Dmsfwk.AbilityConnectionManager
import Dmsfwk.EventRun

/-!
# The connection registry and the sessions it names

An entry of the client or of the server map blocks every later connection with
the same description, so it must not outlive the connection it stands for.
Registrations are made before the session checks its own status and are
deleted by `Release`, which looks at the server map only if the client map
does not name the session.  The invariant says that no session is named by
both maps and that every named session is alive.
-/

namespace Dmsfwk
namespace AbilityConnectionManager

open AbilityConnectionSession (Written SessionEvent)

/-! ## Runs -/

/-- The calls of applications and of the service, and the callbacks of the
channels, timers and tasks of a session. -/
inductive ManagerEvent where
  | createSession (serverId : Text) (abilityInfo : AbilityInfo)
      (peerInfo : PeerInfo) (options : ConnectOption) (init : ℤ)
  | connectSession (sessionId : ℤ) (token : Text) (callback : Bool)
      (getPeerVersion : ℤ)
  | acceptConnect (sessionId : ℤ) (token : Text)
      (createChannel : TransChannelType → ℤ) (notifyPrepareResult : ℤ)
  | disconnectSession (sessionId : ℤ)
  | destroySession (sessionId : ℤ)
  | notifyCollabResult (sessionId result : ℤ) (dmsServerToken : Text)
      (answers : ChannelAnswers)
  | notifyDisconnect (sessionId : ℤ)
  | notifyPeerVersion (sessionId collabMission : ℤ)
  | callback (sessionId : ℤ) (event : SessionEvent)
      (hcallback : event.opens = false)

def step (manager : AbilityConnectionManager) :
    ManagerEvent → ℤ × AbilityConnectionManager
  | .createSession serverId abilityInfo peerInfo options init =>
      manager.createSession serverId abilityInfo peerInfo options init
  | .connectSession sessionId token callback getPeerVersion =>
      manager.connectSession sessionId token callback getPeerVersion
  | .acceptConnect sessionId token createChannel notifyPrepareResult =>
      let result := manager.acceptConnect sessionId token createChannel
        notifyPrepareResult
      (result.1.code, result.2)
  | .disconnectSession sessionId => manager.disconnectSession sessionId
  | .destroySession sessionId => manager.destroySession sessionId
  | .notifyCollabResult sessionId result dmsServerToken answers =>
      manager.notifyCollabResult sessionId result dmsServerToken answers
  | .notifyDisconnect sessionId => manager.notifyDisconnect sessionId
  | .notifyPeerVersion sessionId collabMission =>
      manager.notifyPeerVersion sessionId collabMission
  | .callback sessionId event _ =>
      manager.onSession sessionId fun session => (0, session.step event)

/-! ## What the registry should say -/

def Registered (manager : AbilityConnectionManager) (key : SessionKey)
    (sessionId : ℤ) : Prop :=
  manager.clientSessionMap[key]? = some sessionId ∨
    manager.serverSessionMap[key]? = some sessionId

/-- Every entry belongs to a session that is connecting or connected; a
released or destroyed session has no entry; and `Connect` reaches the service
once every session with the description is released. -/
structure OwnsLive (manager : AbilityConnectionManager) : Prop where
  live : ∀ key sessionId, manager.Registered key sessionId →
    ∃ session, manager.sessionMap[sessionId]? = some session ∧
      session.sessionInfo.key = key ∧
      (session.sessionStatus = .connecting ∨
        session.sessionStatus = .connected)
  released : ∀ sessionId,
    (∀ session, manager.sessionMap[sessionId]? = some session →
      session.sessionStatus = .unconnected) →
    ∀ key, ¬ manager.Registered key sessionId
  reconnects : ∀ sessionId session token callback getPeerVersion,
    manager.getAbilityConnectionSession sessionId = some session →
    (∀ (otherId : ℤ) other, manager.sessionMap[otherId]? = some other →
      other.sessionInfo.key = session.sessionInfo.key →
      other.sessionStatus = .unconnected) →
    (manager.connectSession sessionId token callback getPeerVersion).1 =
      getPeerVersion

/-- The condition on a step: no session accepts a request while the client map
names it and the server map has no entry for its description. -/
def NoSelfAccept (manager : AbilityConnectionManager) : ManagerEvent → Prop
  | .acceptConnect sessionId _ _ _ =>
      ∀ session ∈ manager.getAbilityConnectionSession sessionId,
        manager.clientSessionMap[session.sessionInfo.key]? =
          some sessionId →
        manager.serverSessionMap[session.sessionInfo.key]? ≠ none
  | _ => True

instance (manager : AbilityConnectionManager) :
    ∀ event, Decidable (manager.NoSelfAccept event)
  | .acceptConnect sessionId _ _ _ =>
      inferInstanceAs (Decidable
        (∀ session ∈ manager.getAbilityConnectionSession sessionId,
          manager.clientSessionMap[session.sessionInfo.key]? =
            some sessionId →
          manager.serverSessionMap[session.sessionInfo.key]? ≠ none))
  | .createSession _ _ _ _ _ => .isTrue trivial
  | .connectSession _ _ _ _ => .isTrue trivial
  | .disconnectSession _ => .isTrue trivial
  | .destroySession _ => .isTrue trivial
  | .notifyCollabResult _ _ _ _ => .isTrue trivial
  | .notifyDisconnect _ => .isTrue trivial
  | .notifyPeerVersion _ _ => .isTrue trivial
  | .callback _ _ _ => .isTrue trivial

/-! ## The invariant -/

/-- Every entry is under the description of the session it names, and no
session has two entries. -/
structure WellRegistered (manager : AbilityConnectionManager) : Prop where
  owned : ∀ key sessionId, manager.Registered key sessionId →
    ∃ session, manager.sessionMap[sessionId]? = some session ∧
      session.sessionInfo.key = key
  single : ∀ (key : SessionKey) sessionId,
    manager.clientSessionMap[key]? = some sessionId →
    manager.serverSessionMap[key]? ≠ some sessionId

def ActiveAt (manager : AbilityConnectionManager) (sessionId : ℤ) : Prop :=
  ∀ key session, manager.Registered key sessionId →
    manager.sessionMap[sessionId]? = some session →
    session.sessionStatus ≠ .unconnected

structure RegistryInvariant (manager : AbilityConnectionManager) :
    Prop where
  wellRegistered : manager.WellRegistered
  active : ∀ sessionId, manager.ActiveAt sessionId

theorem registryInvariant_initial : initial.RegistryInvariant := by
  have hnone : ∀ key sessionId, ¬ initial.Registered key sessionId := by
    intro key sessionId hregistered
    rcases hregistered with hclient | hserver
    · simp [initial] at hclient
    · simp [initial] at hserver
  refine ⟨⟨?_, ?_⟩, ?_⟩
  · intro key sessionId hregistered
    exact absurd hregistered (hnone key sessionId)
  · intro key sessionId hclient
    exact absurd (Or.inl hclient) (hnone key sessionId)
  · intro sessionId key session hregistered
    exact absurd hregistered (hnone key sessionId)

section Frame

variable {manager : AbilityConnectionManager} {key : SessionKey}
  {sessionId other : ℤ}

/-! ### Deleting a registration -/

theorem deleteConnectSession_cases
    (manager : AbilityConnectionManager)
    (sessionInfo : AbilityConnectionSessionInfo) (sessionId : ℤ) :
    (manager.clientSessionMap[sessionInfo.key]? = some sessionId ∧
        manager.deleteConnectSession sessionInfo sessionId =
          { manager with
            clientSessionMap :=
              manager.clientSessionMap.erase sessionInfo.key }) ∨
      (manager.clientSessionMap[sessionInfo.key]? ≠ some sessionId ∧
        manager.serverSessionMap[sessionInfo.key]? = some sessionId ∧
        manager.deleteConnectSession sessionInfo sessionId =
          { manager with
            serverSessionMap :=
              manager.serverSessionMap.erase sessionInfo.key }) ∨
      (¬ manager.Registered sessionInfo.key sessionId ∧
        manager.deleteConnectSession sessionInfo sessionId = manager) := by
  unfold deleteConnectSession
  split_ifs with hclient hserver
  · exact Or.inl ⟨hclient, rfl⟩
  · exact Or.inr (Or.inl ⟨hclient, hserver, rfl⟩)
  · exact Or.inr (Or.inr ⟨not_or.mpr ⟨hclient, hserver⟩, rfl⟩)

variable {sessionInfo : AbilityConnectionSessionInfo}

theorem client_of_delete
    (hclient : (manager.deleteConnectSession sessionInfo
      sessionId).clientSessionMap[key]? = some other) :
    manager.clientSessionMap[key]? = some other := by
  rcases manager.deleteConnectSession_cases sessionInfo sessionId with
    ⟨-, hdeleted⟩ | ⟨-, -, hdeleted⟩ | ⟨-, hdeleted⟩
  · rw [hdeleted, OrderedMap.getElem?_erase_eq] at hclient
    split_ifs at hclient
    exact hclient
  · rw [hdeleted] at hclient
    exact hclient
  · rw [hdeleted] at hclient
    exact hclient

theorem server_of_delete
    (hserver : (manager.deleteConnectSession sessionInfo
      sessionId).serverSessionMap[key]? = some other) :
    manager.serverSessionMap[key]? = some other := by
  rcases manager.deleteConnectSession_cases sessionInfo sessionId with
    ⟨-, hdeleted⟩ | ⟨-, -, hdeleted⟩ | ⟨-, hdeleted⟩
  · rw [hdeleted] at hserver
    exact hserver
  · rw [hdeleted, OrderedMap.getElem?_erase_eq] at hserver
    split_ifs at hserver
    exact hserver
  · rw [hdeleted] at hserver
    exact hserver

theorem Registered.of_delete
    (hregistered : (manager.deleteConnectSession sessionInfo
      sessionId).Registered key other) :
    manager.Registered key other := by
  rcases hregistered with hclient | hserver
  · exact Or.inl (client_of_delete hclient)
  · exact Or.inr (server_of_delete hserver)

theorem WellRegistered.delete (hwell : manager.WellRegistered)
    (sessionInfo : AbilityConnectionSessionInfo) (sessionId : ℤ) :
    (manager.deleteConnectSession sessionInfo
      sessionId).WellRegistered := by
  refine ⟨?_, ?_⟩
  · intro key other hregistered
    rw [sessionMap_deleteConnectSession]
    exact hwell.owned key other hregistered.of_delete
  · intro key other hclient hserver
    exact hwell.single key other (client_of_delete hclient)
      (server_of_delete hserver)

theorem WellRegistered.not_registered_delete
    (hwell : manager.WellRegistered)
    (sessionInfo : AbilityConnectionSessionInfo) :
    ¬ (manager.deleteConnectSession sessionInfo sessionId).Registered
      sessionInfo.key sessionId := by
  rcases manager.deleteConnectSession_cases sessionInfo sessionId with
    ⟨hclient, hdeleted⟩ | ⟨hclient, -, hdeleted⟩ | ⟨hnone, hdeleted⟩
  · rw [hdeleted]
    rintro (herased | hserver)
    · simp at herased
    · exact hwell.single _ _ hclient hserver
  · rw [hdeleted]
    rintro (hfound | herased)
    · exact hclient hfound
    · simp at herased
  · rw [hdeleted]
    exact hnone

/-! ### Recording an operation -/

theorem registered_store (session : AbilityConnectionSession) :
    (manager.store sessionId session).Registered key other ↔
      manager.Registered key other := Iff.rfl

theorem WellRegistered.store (hwell : manager.WellRegistered)
    {session next : AbilityConnectionSession}
    (hsession : manager.sessionMap[sessionId]? = some session)
    (hinfo : next.sessionInfo = session.sessionInfo) :
    (manager.store sessionId next).WellRegistered := by
  refine ⟨?_, hwell.single⟩
  intro key other hregistered
  obtain ⟨owner, howner, hkey⟩ := hwell.owned key other hregistered
  rw [sessionMap_store]
  split_ifs with hsame
  · subst hsame
    rw [hsession] at howner
    cases howner
    exact ⟨next, rfl, by rw [hinfo, hkey]⟩
  · exact ⟨owner, howner, hkey⟩

theorem Registered.of_record {written : Written}
    (hregistered : (manager.record sessionId written).Registered key
      other) :
    manager.Registered key other := by
  unfold record at hregistered
  split_ifs at hregistered
  · exact (registered_store written.2).mp hregistered.of_delete
  · exact (registered_store written.2).mp hregistered

section Session

variable {session : AbilityConnectionSession}

/-- Recording an operation of a session keeps the invariant if all other
sessions meet it and the session, unless it was released, is alive where it
has an entry. -/
theorem WellRegistered.record (hwell : manager.WellRegistered)
    (hothers : ∀ other, sessionId ≠ other → manager.ActiveAt other)
    {written : Written} (hsession : manager.sessionMap[sessionId]? = some session)
    (hinfo : written.2.sessionInfo = session.sessionInfo)
    (hlive : ∀ key, manager.Registered key sessionId →
      .unconnected ∉ written.1 → written.2.sessionStatus ≠ .unconnected) :
    (manager.record sessionId written).RegistryInvariant := by
  have hstored := hwell.store hsession hinfo
  refine ⟨?_, ?_⟩
  · unfold AbilityConnectionManager.record
    split_ifs
    · exact hstored.delete written.2.sessionInfo sessionId
    · exact hstored
  intro other key found hregistered hfound
  rw [sessionMap_record] at hfound
  by_cases hsame : sessionId = other
  · subst hsame
    rw [if_pos rfl] at hfound
    cases hfound
    by_cases hreleased : .unconnected ∈ written.1
    · exfalso
      obtain ⟨owner, howner, hkey⟩ :=
        hwell.owned key sessionId hregistered.of_record
      rw [hsession] at howner
      cases howner
      rw [AbilityConnectionManager.record, if_pos hreleased, ← hkey,
        ← hinfo] at hregistered
      exact hstored.not_registered_delete written.2.sessionInfo hregistered
    · exact hlive key hregistered.of_record hreleased
  · rw [if_neg hsame] at hfound
    exact hothers other hsame key found hregistered.of_record hfound

theorem RegistryInvariant.record_step (hinv : manager.RegistryInvariant)
    (hsession : manager.sessionMap[sessionId]? = some session)
    (event : SessionEvent) :
    (manager.record sessionId (session.step event)).RegistryInvariant := by
  refine hinv.wellRegistered.record (fun other _ => hinv.active other)
    hsession (session.sessionInfo_step event) ?_
  intro key hregistered hkept
  exact session.status_ne_step
    (hinv.active sessionId key session hregistered hsession) hkept

/-! ### Making a registration -/

theorem WellRegistered.insert_client (hwell : manager.WellRegistered)
    (hsession : manager.sessionMap[sessionId]? = some session)
    (hserver :
      manager.serverSessionMap[session.sessionInfo.key]? = none) :
    { manager with
      clientSessionMap := manager.clientSessionMap.insert
        session.sessionInfo.key sessionId }.WellRegistered := by
  refine ⟨?_, ?_⟩
  · rintro key other (hclient | hregistered)
    · rw [OrderedMap.getElem?_insert_eq] at hclient
      split_ifs at hclient with hkey
      · cases hclient
        exact ⟨session, hsession, hkey⟩
      · exact hwell.owned key other (Or.inl hclient)
    · exact hwell.owned key other (Or.inr hregistered)
  · intro key other hclient
    rw [OrderedMap.getElem?_insert_eq] at hclient
    split_ifs at hclient with hkey
    · subst hkey
      simp [hserver]
    · exact hwell.single key other hclient

theorem WellRegistered.insert_server (hwell : manager.WellRegistered)
    (hsession : manager.sessionMap[sessionId]? = some session)
    (hclient : manager.clientSessionMap[session.sessionInfo.key]? ≠
      some sessionId) :
    { manager with
      serverSessionMap := manager.serverSessionMap.insert
        session.sessionInfo.key sessionId }.WellRegistered := by
  refine ⟨?_, ?_⟩
  · rintro key other (hregistered | hserver)
    · exact hwell.owned key other (Or.inl hregistered)
    · rw [OrderedMap.getElem?_insert_eq] at hserver
      split_ifs at hserver with hkey
      · cases hserver
        exact ⟨session, hsession, hkey⟩
      · exact hwell.owned key other (Or.inr hserver)
  · intro key other hfound hserver
    rw [OrderedMap.getElem?_insert_eq] at hserver
    split_ifs at hserver with hkey
    · subst hkey
      cases hserver
      exact hclient hfound
    · exact hwell.single key other hfound hserver

end Session

theorem ActiveAt.insert_client (hactive : manager.ActiveAt other)
    (hother : sessionId ≠ other) (key : SessionKey) :
    { manager with
      clientSessionMap :=
        manager.clientSessionMap.insert key sessionId }.ActiveAt other := by
  intro found session hregistered hsession
  refine hactive found session ?_ hsession
  rcases hregistered with hclient | hserver
  · rw [OrderedMap.getElem?_insert_eq] at hclient
    split_ifs at hclient
    · cases hclient
      exact absurd rfl hother
    · exact Or.inl hclient
  · exact Or.inr hserver

theorem ActiveAt.insert_server (hactive : manager.ActiveAt other)
    (hother : sessionId ≠ other) (key : SessionKey) :
    { manager with
      serverSessionMap :=
        manager.serverSessionMap.insert key sessionId }.ActiveAt other := by
  intro found session hregistered hsession
  refine hactive found session ?_ hsession
  rcases hregistered with hclient | hserver
  · exact Or.inl hclient
  · rw [OrderedMap.getElem?_insert_eq] at hserver
    split_ifs at hserver
    · cases hserver
      exact absurd rfl hother
    · exact Or.inr hserver

/-! ### The operations -/

section RegistryInvariant

variable (hinv : manager.RegistryInvariant)

include hinv

theorem RegistryInvariant.createSession (serverId : Text)
    (abilityInfo : AbilityInfo) (peerInfo : PeerInfo) (options : ConnectOption)
    (init : ℤ) :
    (manager.createSession serverId abilityInfo peerInfo options
      init).2.RegistryInvariant := by
  unfold AbilityConnectionManager.createSession
  split_ifs
  · exact hinv
  · exact hinv
  · exact hinv
  have hkept : ∀ (key : SessionKey) (other : ℤ)
      (created : AbilityConnectionSession), manager.Registered key other →
      (manager.sessionMap.insertIfNew manager.sessionId created)[other]? =
        manager.sessionMap[other]? := by
    intro key other created hregistered
    obtain ⟨owner, howner, -⟩ :=
      hinv.wellRegistered.owned key other hregistered
    have hmem : other ∈ manager.sessionMap := by
      rw [Std.TreeMap.mem_iff_isSome_getElem?, howner]
      rfl
    rw [Std.TreeMap.getElem?_insertIfNew, if_neg]
    rintro ⟨hsame, hnew⟩
    rw [Std.compare_eq_iff_eq.mp hsame] at hnew
    exact hnew hmem
  refine ⟨⟨?_, hinv.wellRegistered.single⟩, ?_⟩
  · intro key other hregistered
    simp only [hkept key other _ hregistered]
    exact hinv.wellRegistered.owned key other hregistered
  · intro other key session hregistered hsession
    simp only [hkept key other _ hregistered] at hsession
    exact hinv.active other key session hregistered hsession

theorem RegistryInvariant.connectSession (sessionId : ℤ) (token : Text)
    (callback : Bool) (getPeerVersion : ℤ) :
    (manager.connectSession sessionId token callback
      getPeerVersion).2.RegistryInvariant := by
  unfold AbilityConnectionManager.connectSession
  cases hfound : manager.getAbilityConnectionSession sessionId with
  | none => exact hinv
  | some session =>
      have hsession := getElem?_of_getAbilityConnectionSession hfound
      simp only
      rcases manager.updateClientSession_cases session.sessionInfo sessionId
        with ⟨-, hregistry⟩ | ⟨-, hserver, hregistry⟩
      · rw [hregistry]
        exact hinv.record_step hsession (.connect token callback
          .sameSessionIsConnecting getPeerVersion)
      · rw [hregistry]
        refine (hinv.wellRegistered.insert_client hsession hserver).record
          (fun other hother => (hinv.active other).insert_client hother _)
          hsession (session.sessionInfo_step (.connect token callback .errOk
            getPeerVersion)) ?_
        intro key _ _
        exact session.status_ne_connect token callback getPeerVersion

theorem RegistryInvariant.acceptConnect {sessionId : ℤ} {token : Text}
    {createChannel : TransChannelType → ℤ} {notifyPrepareResult : ℤ}
    (hevent : manager.NoSelfAccept (.acceptConnect sessionId token
      createChannel notifyPrepareResult)) :
    (manager.acceptConnect sessionId token createChannel
      notifyPrepareResult).2.RegistryInvariant := by
  unfold AbilityConnectionManager.acceptConnect
  cases hfound : manager.getAbilityConnectionSession sessionId with
  | none => exact hinv
  | some session =>
      have hsession := getElem?_of_getAbilityConnectionSession hfound
      have hself := hevent session hfound
      have hrequested : (manager.store sessionId
          { session with dmsServerToken := token }).RegistryInvariant :=
        hinv.record_step hsession (.acceptConnect token
          .sameSessionIsConnecting createChannel notifyPrepareResult)
      have hstored : (manager.store sessionId
          { session with dmsServerToken := token }).sessionMap[sessionId]? =
          some { session with dmsServerToken := token } := by
        rw [sessionMap_store, if_pos rfl]
      simp only
      rcases (manager.store sessionId
          { session with dmsServerToken := token }).updateServerSession_cases
          session.sessionInfo sessionId with
        ⟨-, hregistry⟩ | ⟨hserver, -, hregistry⟩
      · rw [hregistry]
        refine hrequested.wellRegistered.record
          (fun other _ => hrequested.active other) hstored
          (session.sessionInfo_acceptConnect _ _ _ _) ?_
        intro key hregistered hkept
        have hactive :=
          hinv.active sessionId key session hregistered hsession
        exact @AbilityConnectionSession.status_ne_step session
          (.acceptConnect token .sameSessionIsConnecting createChannel
            notifyPrepareResult) hactive hkept
      · rw [hregistry]
        have hclient : manager.clientSessionMap[session.sessionInfo.key]? ≠
            some sessionId := fun hclient => hself hclient hserver
        refine (hrequested.wellRegistered.insert_server hstored
          hclient).record
          (fun other hother =>
            (hrequested.active other).insert_server hother _)
          hstored (session.sessionInfo_acceptConnect _ _ _ _) ?_
        intro key _ hkept
        exact session.status_ne_acceptConnect hkept

theorem RegistryInvariant.onSession (sessionId : ℤ)
    (operation : AbilityConnectionSession → ℤ × Written) (event : SessionEvent)
    (hoperation : ∀ session, (operation session).2 = session.step event) :
    (manager.onSession sessionId operation).2.RegistryInvariant := by
  unfold AbilityConnectionManager.onSession
  cases hfound : manager.getAbilityConnectionSession sessionId with
  | none => exact hinv
  | some session =>
      simp only
      rw [hoperation session]
      exact hinv.record_step (getElem?_of_getAbilityConnectionSession hfound)
        event

theorem RegistryInvariant.destroySession (sessionId : ℤ) :
    (manager.destroySession sessionId).2.RegistryInvariant := by
  unfold AbilityConnectionManager.destroySession
  cases hfound : manager.getAbilityConnectionSession sessionId with
  | none => exact hinv
  | some session =>
      have hsession := getElem?_of_getAbilityConnectionSession hfound
      have hdisconnected := hinv.record_step hsession .disconnect
      have hreleased : (session.step .disconnect).2.sessionStatus =
          .unconnected := session.released_release
      have hrecorded : (manager.record sessionId
          (session.step .disconnect)).sessionMap[sessionId]? =
          some (session.step .disconnect).2 := by
        rw [sessionMap_record, if_pos rfl]
      have hkept : ∀ key other, (manager.record sessionId
          (session.step .disconnect)).Registered key other →
          sessionId ≠ other := by
        rintro key other hregistered rfl
        exact hdisconnected.active sessionId key _ hregistered hrecorded
          hreleased
      refine ⟨⟨?_, hdisconnected.wellRegistered.single⟩, ?_⟩
      · intro key other hregistered
        have hother := hkept key other hregistered
        simp only [OrderedMap.getElem?_erase_eq, if_neg hother]
        exact hdisconnected.wellRegistered.owned key other hregistered
      · intro other key found hregistered hsession
        have hother := hkept key other hregistered
        simp only [OrderedMap.getElem?_erase_eq, if_neg hother] at hsession
        exact hdisconnected.active other key found hregistered hsession

end RegistryInvariant

theorem RegistryInvariant.step (hinv : manager.RegistryInvariant)
    {event : ManagerEvent} (hevent : manager.NoSelfAccept event) :
    (manager.step event).2.RegistryInvariant := by
  cases event with
  | createSession serverId abilityInfo peerInfo options init =>
      exact hinv.createSession serverId abilityInfo peerInfo options init
  | connectSession sessionId token callback getPeerVersion =>
      exact hinv.connectSession sessionId token callback getPeerVersion
  | acceptConnect sessionId token createChannel notifyPrepareResult =>
      exact hinv.acceptConnect hevent
  | disconnectSession sessionId =>
      exact hinv.onSession sessionId _ .disconnect fun _ => rfl
  | destroySession sessionId => exact hinv.destroySession sessionId
  | notifyCollabResult sessionId result dmsServerToken answers =>
      exact hinv.onSession sessionId _
        (.handleCollabResult result dmsServerToken answers) fun _ => rfl
  | notifyDisconnect sessionId =>
      exact hinv.onSession sessionId _ .handleDisconnect fun _ => rfl
  | notifyPeerVersion sessionId collabMission =>
      exact hinv.onSession sessionId _ (.handlePeerVersion collabMission)
        fun _ => rfl
  | callback sessionId event _ =>
      exact hinv.onSession sessionId _ event fun _ => rfl

theorem RegistryInvariant.ownsLive (hinv : manager.RegistryInvariant) :
    manager.OwnsLive := by
  have hlive : ∀ key sessionId, manager.Registered key sessionId →
      ∃ session, manager.sessionMap[sessionId]? = some session ∧
        session.sessionInfo.key = key ∧
        session.sessionStatus ≠ .unconnected := by
    intro key sessionId hregistered
    obtain ⟨session, hsession, hkey⟩ :=
      hinv.wellRegistered.owned key sessionId hregistered
    exact ⟨session, hsession, hkey,
      hinv.active sessionId key session hregistered hsession⟩
  refine ⟨?_, ?_, ?_⟩
  · intro key sessionId hregistered
    obtain ⟨session, hsession, hkey, hstatus⟩ :=
      hlive key sessionId hregistered
    refine ⟨session, hsession, hkey, ?_⟩
    cases hcase : session.sessionStatus with
    | unconnected => exact absurd hcase hstatus
    | connecting => exact Or.inl rfl
    | connected => exact Or.inr rfl
  · intro sessionId hreleased key hregistered
    obtain ⟨session, hsession, -, hstatus⟩ := hlive key sessionId hregistered
    exact hstatus (hreleased session hsession)
  · intro sessionId session token callback getPeerVersion hfound hreleased
    have hsession := getElem?_of_getAbilityConnectionSession hfound
    have hstatus := hreleased sessionId session hsession rfl
    have hnone : ∀ otherId,
        ¬ manager.Registered session.sessionInfo.key otherId := by
      intro otherId hregistered
      obtain ⟨other, hother, hkey, halive⟩ := hlive _ otherId hregistered
      exact halive (hreleased otherId other hother hkey)
    have hregistry :
        (manager.updateClientSession session.sessionInfo sessionId).1 =
          .errOk := by
      rcases manager.updateClientSession_cases session.sessionInfo sessionId
        with ⟨hclient | hserver, -⟩ | ⟨-, -, hregistry⟩
      · obtain ⟨otherId, hclient⟩ := Option.ne_none_iff_exists'.mp hclient
        exact absurd (Or.inl hclient) (hnone otherId)
      · obtain ⟨otherId, hserver⟩ := Option.ne_none_iff_exists'.mp hserver
        exact absurd (Or.inr hserver) (hnone otherId)
      · rw [hregistry]
    simp [AbilityConnectionManager.connectSession, hfound, hregistry,
      AbilityConnectionSession.connect, hstatus]

end Frame

/-! ## Every run -/

/-- In every run in which no session accepts a request while only the client
map names it, every state on the way has a registry of live sessions. -/
theorem ownsLive_run (events : List ManagerEvent)
    (hmeets : EventRun.Meets step NoSelfAccept initial events)
    (first : List ManagerEvent) (hfirst : first <+: events) :
    (EventRun.run step initial first).2.OwnsLive := by
  have hkept : ∀ manager event, RegistryInvariant manager →
      NoSelfAccept manager event → (manager.step event).2.RegistryInvariant :=
    fun _ _ hinv hevent => hinv.step hevent
  have hinv := (hmeets.of_prefix hfirst).invariant hkept
    registryInvariant_initial
  exact hinv.ownsLive

def notesAbility : AbilityInfo :=
  ⟨"com.demo.notes".toList, "entry".toList, "EntryAbility".toList⟩

def notesPeer : PeerInfo :=
  ⟨"deviceB".toList, "com.demo.notes".toList, "entry".toList,
    "EntryAbility".toList, "notes".toList⟩

def createNotes : ManagerEvent :=
  .createSession "notes".toList notesAbility notesPeer
    ⟨false, false, false, false, false⟩ 0

def twoSessions : List ManagerEvent :=
  [createNotes, createNotes, .connectSession 100 "b".toList true 0,
    .acceptConnect 101 "a".toList (fun _ => 1001) 0,
    .disconnectSession 100, .notifyDisconnect 101, .destroySession 101]

theorem ownsLive_twoSessions :
    EventRun.Meets step NoSelfAccept initial twoSessions ∧
      (EventRun.run step initial twoSessions).2.OwnsLive := by
  have hmeets : EventRun.Meets step NoSelfAccept initial twoSessions := by
    decide +kernel
  exact ⟨hmeets, ownsLive_run twoSessions hmeets twoSessions
    (List.prefix_refl twoSessions)⟩

def selfAccept : List ManagerEvent :=
  [createNotes, .connectSession 100 "b".toList true 0,
    .acceptConnect 100 "a".toList (fun _ => 1001) 0,
    .disconnectSession 100]

/-- The released session is still in the server map, and connecting it again
is refused. -/
theorem not_ownsLive_selfAccept :
    ((EventRun.run step initial selfAccept).2.step
        (.connectSession 100 "c".toList true 0)).1 =
        CollabErr.sameSessionIsConnecting.code ∧
      ¬ (EventRun.run step initial selfAccept).2.OwnsLive := by
  refine ⟨by decide +kernel, ?_⟩
  intro hlive
  have hentry : (EventRun.run step initial
      selfAccept).2.serverSessionMap[(⟨"notes".toList,
        ⟨[], "com.demo.notes".toList, "entry".toList,
          "EntryAbility".toList, "notes".toList⟩,
        notesPeer⟩ : AbilityConnectionSessionInfo).key]? = some 100 := by
    decide +kernel
  obtain ⟨session, hsession, -, hstatus⟩ := hlive.live _ 100 (Or.inr hentry)
  have hreleased : ∀ session ∈ (EventRun.run step initial
      selfAccept).2.sessionMap[(100 : ℤ)]?,
      session.sessionStatus = .unconnected := by
    decide +kernel
  rw [hreleased session hsession] at hstatus
  rcases hstatus with hstatus | hstatus
  · cases hstatus
  · cases hstatus

end AbilityConnectionManager

end Dmsfwk
