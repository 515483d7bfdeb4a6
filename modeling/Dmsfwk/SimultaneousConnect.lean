import Dmsfwk.AbilityConnectionManager
import Dmsfwk.EventRun

/-!
# Two devices that connect to each other

When both ends of a session call `Connect`, each of them also receives the
request of the other.  A device that registered its own `Connect` compares the
token of the request with the token of its own client session and refuses the
larger one.  Every interleaving of the two `Connect` and the two
`AcceptConnect` calls leaves one connection.
-/

namespace Dmsfwk
namespace AbilityConnectionManager

/-! ## One `Connect` -/

def connectRegisters (manager : AbilityConnectionManager) (sessionId : ℤ) :
    Bool :=
  match manager.getAbilityConnectionSession sessionId with
  | none => false
  | some session =>
      (manager.updateClientSession session.sessionInfo sessionId).1 = .errOk

section Connect

variable {manager : AbilityConnectionManager} {sessionId : ℤ}
  {session : AbilityConnectionSession}

theorem connectRegisters_iff
    (hfound : manager.getAbilityConnectionSession sessionId = some session) :
    manager.connectRegisters sessionId = true ↔
      manager.clientSessionMap[session.sessionInfo.key]? = none ∧
        manager.serverSessionMap[session.sessionInfo.key]? = none := by
  unfold connectRegisters
  rw [hfound]
  simp only [decide_eq_true_eq]
  rcases manager.updateClientSession_cases session.sessionInfo sessionId with
    ⟨hentry, hregistry⟩ | ⟨hclient, hserver, hregistry⟩
  · rw [hregistry]
    constructor
    · intro hok
      cases hok
    · intro hnone
      rcases hentry with hclient | hserver
      · exact absurd hnone.1 hclient
      · exact absurd hnone.2 hserver
  · rw [hregistry]
    exact ⟨fun _ => ⟨hclient, hserver⟩, fun _ => rfl⟩

theorem connectSession_of_registers
    (hfound : manager.getAbilityConnectionSession sessionId = some session)
    (hregisters : manager.connectRegisters sessionId = true) (token : Text)
    (callback : Bool) (getPeerVersion : ℤ) :
    (manager.connectSession sessionId token callback getPeerVersion).2 =
      { manager with
        clientSessionMap := manager.clientSessionMap.insert
          session.sessionInfo.key sessionId }.store sessionId
        (session.connect token callback .errOk getPeerVersion).2.2 := by
  obtain ⟨hclient, hserver⟩ := (connectRegisters_iff hfound).mp hregisters
  have hregistry : manager.updateClientSession session.sessionInfo sessionId =
      (.errOk, { manager with
        clientSessionMap := manager.clientSessionMap.insert
          session.sessionInfo.key sessionId }) := by
    simp [updateClientSession, hclient, hserver]
  unfold connectSession
  rw [hfound]
  simp only [hregistry]
  unfold record
  rw [if_neg (session.unconnected_not_mem_connect token callback .errOk
    getPeerVersion)]

theorem sessionInfo_connectSession {other : ℤ}
    {token : Text} {callback : Bool} {getPeerVersion : ℤ}
    (hfound : (manager.connectSession sessionId token callback
      getPeerVersion).2.getAbilityConnectionSession other = some session) :
    ∃ old, manager.getAbilityConnectionSession other = some old ∧
      session.sessionInfo = old.sessionInfo := by
  unfold connectSession at hfound
  cases hold : manager.getAbilityConnectionSession sessionId with
  | none =>
      rw [hold] at hfound
      exact ⟨session, hfound, rfl⟩
  | some old =>
      rw [hold] at hfound
      simp only at hfound
      have hmap : (manager.updateClientSession old.sessionInfo
          sessionId).2.sessionMap = manager.sessionMap := by
        unfold updateClientSession
        split_ifs <;> rfl
      by_cases hsame : sessionId = other
      · subst hsame
        rw [getAbilityConnectionSession_record_self
          (pos_of_getAbilityConnectionSession hold)] at hfound
        cases hfound
        exact ⟨old, hold, old.sessionInfo_step (.connect token callback _
          getPeerVersion)⟩
      · rw [getAbilityConnectionSession_record_ne hsame] at hfound
        unfold getAbilityConnectionSession at hfound ⊢
        rw [hmap] at hfound
        exact ⟨session, hfound, rfl⟩

end Connect

/-! ## One `AcceptConnect` -/

section Accept

variable {manager : AbilityConnectionManager} {sessionId : ℤ}
  {session : AbilityConnectionSession}

/-- A request is refused by the registry, which then stays as it is, or it is
registered; what a registered request is answered depends on the session. -/
theorem acceptConnect_outcome
    (hfound : manager.getAbilityConnectionSession sessionId = some session)
    (token : Text) (createChannel : TransChannelType → ℤ)
    (notifyPrepareResult : ℤ) :
    ((manager.serverSessionMap[session.sessionInfo.key]? ≠ none ∨
        ∃ clientId,
          manager.clientSessionMap[session.sessionInfo.key]? =
            some clientId ∧
          sessionId ≠ clientId ∧ manager.getSessionToken clientId < token) ∧
      manager.acceptConnect sessionId token createChannel
          notifyPrepareResult =
        (⟨CollabErr.invalidParametersErr.code,
            some CollabErr.sameSessionIsConnecting.code⟩,
          (manager.store sessionId
            { session with dmsServerToken := token }).store sessionId
              { session with dmsServerToken := token })) ∨
      (manager.serverSessionMap[session.sessionInfo.key]? = none ∧
        (∀ clientId,
          manager.clientSessionMap[session.sessionInfo.key]? =
            some clientId → sessionId ≠ clientId →
          ¬ manager.getSessionToken clientId < token) ∧
        manager.acceptConnect sessionId token createChannel
            notifyPrepareResult =
          ((session.acceptConnect token .errOk createChannel
              notifyPrepareResult).1,
            { manager.store sessionId
                { session with dmsServerToken := token } with
              serverSessionMap := manager.serverSessionMap.insert
                session.sessionInfo.key sessionId }.record sessionId
              (session.acceptConnect token .errOk createChannel
                notifyPrepareResult).2)) := by
  have hid := pos_of_getAbilityConnectionSession hfound
  have htoken : (manager.store sessionId
      { session with dmsServerToken := token }).getSessionToken sessionId =
      token := getSessionToken_store_self hid _
  unfold acceptConnect
  rw [hfound]
  simp only
  rcases (manager.store sessionId
      { session with dmsServerToken := token }).updateServerSession_cases
      session.sessionInfo sessionId with
    ⟨hreason, hregistry⟩ | ⟨hserver, htokens, hregistry⟩
  · refine Or.inl ⟨?_, ?_⟩
    · rcases hreason with hserver | ⟨clientId, hclient, hlarger⟩
      · exact Or.inl hserver
      · refine Or.inr ⟨clientId, hclient, ?_⟩
        have hother : sessionId ≠ clientId := by
          rintro rfl
          exact List.lt_irrefl _ hlarger
        rw [htoken, getSessionToken_store_ne hother] at hlarger
        exact ⟨hother, hlarger⟩
    · rw [hregistry]
      rfl
  · refine Or.inr ⟨hserver, ?_, ?_⟩
    · intro clientId hclient hother
      have hnotLarger := htokens clientId hclient
      rw [htoken, getSessionToken_store_ne hother] at hnotLarger
      exact hnotLarger
    · rw [hregistry]
      rfl

theorem sessionInfo_acceptConnect {other : ℤ}
    {token : Text} {createChannel : TransChannelType → ℤ}
    {notifyPrepareResult : ℤ}
    (hfound : (manager.acceptConnect sessionId token createChannel
      notifyPrepareResult).2.getAbilityConnectionSession other =
        some session) :
    ∃ old, manager.getAbilityConnectionSession other = some old ∧
      session.sessionInfo = old.sessionInfo := by
  cases hold : manager.getAbilityConnectionSession sessionId with
  | none =>
      unfold acceptConnect at hfound
      rw [hold] at hfound
      exact ⟨session, hfound, rfl⟩
  | some old =>
      have hid := pos_of_getAbilityConnectionSession hold
      rcases acceptConnect_outcome hold token createChannel
        notifyPrepareResult with ⟨-, hresult⟩ | ⟨-, -, hresult⟩
      · rw [hresult] at hfound
        by_cases hsame : sessionId = other
        · subst hsame
          rw [getAbilityConnectionSession_store_self hid] at hfound
          cases hfound
          exact ⟨old, hold, rfl⟩
        · rw [getAbilityConnectionSession_store_ne hsame,
            getAbilityConnectionSession_store_ne hsame] at hfound
          exact ⟨session, hfound, rfl⟩
      · rw [hresult] at hfound
        by_cases hsame : sessionId = other
        · subst hsame
          rw [getAbilityConnectionSession_record_self hid] at hfound
          cases hfound
          exact ⟨old, hold, old.sessionInfo_acceptConnect _ _ _ _⟩
        · rw [getAbilityConnectionSession_record_ne hsame] at hfound
          have hstored := @getAbilityConnectionSession_store_ne manager
            sessionId other hsame { old with dmsServerToken := token }
          exact ⟨session, hstored.symm.trans hfound, rfl⟩

end Accept

end AbilityConnectionManager

open AbilityConnectionManager

/-! ## The encounter -/

inductive Device where
  | a
  | b
  deriving DecidableEq, Repr

def Device.peer : Device → Device
  | .a => .b
  | .b => .a

theorem Device.peer_peer (device : Device) : device.peer.peer = device := by
  cases device <;> rfl

theorem Device.eq_or_eq_peer (device other : Device) :
    other = device ∨ other = device.peer := by
  cases device <;> cases other <;> decide

/-- One end: its manager before the encounter, the session that connects and
the session that accepts, both with the description of the encounter, the
token of the client session and what the services answer. -/
structure Endpoint where
  manager : AbilityConnectionManager
  connecting : ℤ
  accepting : ℤ
  connectingSession : AbilityConnectionSession
  acceptingSession : AbilityConnectionSession
  hconnecting : manager.getAbilityConnectionSession connecting =
    some connectingSession
  haccepting : manager.getAbilityConnectionSession accepting =
    some acceptingSession
  hmatching : acceptingSession.sessionInfo.key =
    connectingSession.sessionInfo.key
  token : Text
  callback : Bool
  getPeerVersion : ℤ
  createChannel : TransChannelType → ℤ
  notifyPrepareResult : ℤ

def Endpoint.key (endpoint : Endpoint) : SessionKey :=
  endpoint.connectingSession.sessionInfo.key

structure Encounter where
  endpoint : Device → Endpoint
  htokens : (endpoint .a).token ≠ (endpoint .b).token

/-- The state of one end: whether its `Connect` was registered and what its
`AcceptConnect` answered, once they were called. -/
structure Side where
  manager : AbilityConnectionManager
  registered : Option Bool
  answer : Option AcceptAnswer

namespace Side

def connect (endpoint : Endpoint) (side : Side) : Side :=
  { side with
    manager := (side.manager.connectSession endpoint.connecting
      endpoint.token endpoint.callback endpoint.getPeerVersion).2
    registered := some (side.manager.connectRegisters endpoint.connecting) }

def accept (endpoint : Endpoint) (peerToken : Text) (side : Side) : Side :=
  let result := side.manager.acceptConnect endpoint.accepting peerToken
    endpoint.createChannel endpoint.notifyPrepareResult
  { side with manager := result.2, answer := some result.1 }

def Refused (side : Side) : Prop :=
  side.answer.bind (·.prepareResult) =
    some CollabErr.sameSessionIsConnecting.code

def Accepted (endpoint : Endpoint) (side : Side) : Prop :=
  side.answer.bind (·.prepareResult) = some 0 ∧
    endpoint.notifyPrepareResult = 0

end Side

namespace Encounter

inductive Move where
  | connect (device : Device)
  | accept (device : Device)
  deriving DecidableEq, Repr

def start (encounter : Encounter) (device : Device) : Side :=
  ⟨(encounter.endpoint device).manager, none, none⟩

def step (encounter : Encounter) (state : Device → Side) :
    Move → Unit × (Device → Side)
  | .connect device =>
      ((), Function.update state device
        ((state device).connect (encounter.endpoint device)))
  | .accept device =>
      ((), Function.update state device
        ((state device).accept (encounter.endpoint device)
          (encounter.endpoint device.peer).token))

/-- Each of the four steps is taken at most once, and a request arrives only
after the peer's `Connect` was registered. -/
def Enabled (state : Device → Side) : Move → Prop
  | .connect device => (state device).registered = none
  | .accept device =>
      (state device).answer = none ∧
        (state device.peer).registered = some true

instance (state : Device → Side) : ∀ move, Decidable (Enabled state move)
  | .connect _ => inferInstanceAs (Decidable (_ = _))
  | .accept _ => inferInstanceAs (Decidable (_ ∧ _))

structure Ready (endpoint : Endpoint) : Prop where
  client : endpoint.manager.clientSessionMap[endpoint.key]? = none
  server : endpoint.manager.serverSessionMap[endpoint.key]? = none
  different : endpoint.accepting ≠ endpoint.connecting
  unconnected : endpoint.acceptingSession.sessionStatus = .unconnected
  channels : ∀ transType, ChannelManager.isValidChannelId
    (endpoint.createChannel transType) = true
  delivered : endpoint.notifyPrepareResult = 0

/-- Both ends called `Connect`, and every registered one was requested. -/
def Complete (state : Device → Side) : Prop :=
  ∀ device, (state device).registered ≠ none ∧
    ((state device.peer).registered = some true →
      (state device).answer ≠ none)

/-- Never are both requests refused, nor both accepted with both `Connect`
calls registered; and between two idle ends exactly one is accepted. -/
structure Resolved (encounter : Encounter) (state : Device → Side) :
    Prop where
  not_both_refused : ¬ ∀ device, (state device).Refused
  not_both_accepted : ¬ ∀ device, (state device).registered = some true ∧
    (state device).Accepted (encounter.endpoint device)
  exactly_one : (∀ device, Ready (encounter.endpoint device)) →
    Complete state →
    ∃! device, (state device).Accepted (encounter.endpoint device)

end Encounter

/-! ## What one end knows -/

structure Side.Settled (endpoint : Endpoint) (peerToken : Text)
    (side : Side) : Prop where
  untouched : side.registered = none → side.answer = none →
    side.manager = endpoint.manager
  keyed : ∀ session,
    side.manager.getAbilityConnectionSession endpoint.connecting =
      some session →
    session.sessionInfo.key = endpoint.key
  blocked : side.registered = none →
    side.Refused ∨ side.Accepted endpoint →
    side.manager.clientSessionMap[endpoint.key]? ≠ none ∨
      side.manager.serverSessionMap[endpoint.key]? ≠ none
  waiting : side.registered = some true → side.answer = none →
    side.manager.clientSessionMap[endpoint.key]? =
      some endpoint.connecting ∧
    side.manager.serverSessionMap[endpoint.key]? = none ∧
    side.manager.getSessionToken endpoint.connecting = endpoint.token ∧
    ∃ session,
      side.manager.getAbilityConnectionSession endpoint.accepting =
        some session ∧
      session.sessionInfo.key = endpoint.key ∧
      (endpoint.accepting = endpoint.connecting →
        session.sessionStatus ≠ .unconnected) ∧
      (endpoint.accepting ≠ endpoint.connecting →
        session = endpoint.acceptingSession)
  decided : side.registered = some true →
    (side.Refused → endpoint.token < peerToken) ∧
    (side.Accepted endpoint → ¬ endpoint.token < peerToken)

section OneEnd

variable {endpoint : Endpoint} {peerToken : Text} {side : Side}

theorem Side.not_refused_of_answer (hanswer : side.answer = none) :
    ¬ side.Refused := by
  simp [Side.Refused, hanswer]

theorem Side.not_accepted_of_answer (hanswer : side.answer = none) :
    ¬ side.Accepted endpoint := by
  simp [Side.Accepted, hanswer]

theorem Side.settled_start :
    (⟨endpoint.manager, none, none⟩ : Side).Settled endpoint peerToken := by
  refine ⟨fun _ _ => rfl, ?_, ?_, ?_, ?_⟩
  · intro session hfound
    rw [endpoint.hconnecting] at hfound
    cases hfound
    rfl
  · intro _ hdecided
    rcases hdecided with hrefused | haccepted
    · exact absurd hrefused (Side.not_refused_of_answer rfl)
    · exact absurd haccepted (Side.not_accepted_of_answer rfl)
  · intro hregistered
    cases hregistered
  · intro hregistered
    cases hregistered

theorem Side.Settled.not_registers (hsettled : side.Settled endpoint peerToken)
    (hregistered : side.registered = none)
    (hdecided : side.Refused ∨ side.Accepted endpoint) :
    side.manager.connectRegisters endpoint.connecting = false := by
  cases hfound : side.manager.getAbilityConnectionSession
    endpoint.connecting with
  | none => simp [connectRegisters, hfound]
  | some session =>
      have hkey := hsettled.keyed session hfound
      have hentry := hsettled.blocked hregistered hdecided
      rw [← hkey] at hentry
      by_contra hregisters
      rw [Bool.not_eq_false, connectRegisters_iff hfound] at hregisters
      rcases hentry with hclient | hserver
      · exact hclient hregisters.1
      · exact hserver hregisters.2

theorem Side.Settled.connect (hsettled : side.Settled endpoint peerToken)
    (hregistered : side.registered = none) :
    (side.connect endpoint).Settled endpoint peerToken := by
  refine ⟨nofun, ?_, nofun, ?_, ?_⟩
  · intro session hfound
    obtain ⟨old, hold, hinfo⟩ := sessionInfo_connectSession hfound
    rw [hinfo]
    exact hsettled.keyed old hold
  · intro hregisters hanswer
    have hmanager := hsettled.untouched hregistered hanswer
    have hfound : side.manager.getAbilityConnectionSession
        endpoint.connecting = some endpoint.connectingSession := by
      rw [hmanager]
      exact endpoint.hconnecting
    have hid := pos_of_getAbilityConnectionSession hfound
    obtain ⟨hclient, hserver⟩ := (connectRegisters_iff hfound).mp
      (Option.some.inj hregisters)
    have hnext : (side.connect endpoint).manager = _ :=
      connectSession_of_registers hfound (Option.some.inj hregisters)
        endpoint.token endpoint.callback endpoint.getPeerVersion
    rw [hnext]
    refine ⟨?_, hserver, ?_, ?_⟩
    · simp [AbilityConnectionManager.store, Endpoint.key]
    · rw [getSessionToken_store_self hid,
        AbilityConnectionSession.dmsServerToken_connect]
    by_cases hsame : endpoint.accepting = endpoint.connecting
    · refine ⟨(endpoint.connectingSession.connect endpoint.token
        endpoint.callback .errOk endpoint.getPeerVersion).2.2, ?_, ?_, ?_,
        fun hne => absurd hsame hne⟩
      · rw [hsame]
        exact getAbilityConnectionSession_store_self hid _
      · exact congrArg AbilityConnectionSessionInfo.key
          (endpoint.connectingSession.sessionInfo_step
            (.connect endpoint.token endpoint.callback .errOk
              endpoint.getPeerVersion))
      · intro _
        exact endpoint.connectingSession.status_ne_connect endpoint.token
          endpoint.callback endpoint.getPeerVersion
    · refine ⟨endpoint.acceptingSession, ?_, endpoint.hmatching,
        fun heq => absurd heq hsame, fun _ => rfl⟩
      have hfoundAccepting := endpoint.haccepting
      rw [← hmanager] at hfoundAccepting
      exact (getAbilityConnectionSession_store_ne (Ne.symm hsame) _).trans
        hfoundAccepting
  · intro hregisters
    have hnotDecided : ¬ (side.Refused ∨ side.Accepted endpoint) := by
      intro hdecided
      have hfalse := hsettled.not_registers hregistered hdecided
      have htrue : side.manager.connectRegisters endpoint.connecting = true :=
        Option.some.inj hregisters
      rw [hfalse] at htrue
      cases htrue
    obtain ⟨hrefused, haccepted⟩ := not_or.mp hnotDecided
    exact ⟨fun h => absurd h hrefused, fun h => absurd h haccepted⟩

theorem server_of_accepted {manager : AbilityConnectionManager}
    {sessionId : ℤ} {session : AbilityConnectionSession} {token : Text}
    {createChannel : TransChannelType → ℤ}
    (hanswer : (session.acceptConnect token .errOk createChannel
      0).1.prepareResult = some 0) :
    ({ manager with
      serverSessionMap := manager.serverSessionMap.insert
        session.sessionInfo.key sessionId }.record sessionId
      (session.acceptConnect token .errOk createChannel
        0).2).serverSessionMap[session.sessionInfo.key]? =
      some sessionId := by
  have hkept := session.unconnected_not_mem_acceptConnect hanswer
  rw [record, if_neg hkept]
  simp [AbilityConnectionManager.store]

theorem Side.accept_cases {session : AbilityConnectionSession}
    (hfound : side.manager.getAbilityConnectionSession endpoint.accepting =
      some session)
    (hkey : session.sessionInfo.key = endpoint.key) (peerToken : Text) :
    ((side.accept endpoint peerToken).Refused ∧
      ¬ (side.accept endpoint peerToken).Accepted endpoint ∧
      (side.accept endpoint peerToken).manager.clientSessionMap =
        side.manager.clientSessionMap ∧
      (side.accept endpoint peerToken).manager.serverSessionMap =
        side.manager.serverSessionMap ∧
      (side.manager.serverSessionMap[endpoint.key]? ≠ none ∨
        ∃ clientId,
          side.manager.clientSessionMap[endpoint.key]? = some clientId ∧
          endpoint.accepting ≠ clientId ∧
          side.manager.getSessionToken clientId < peerToken)) ∨
    (¬ (side.accept endpoint peerToken).Refused ∧
      (∀ clientId,
        side.manager.clientSessionMap[endpoint.key]? = some clientId →
        endpoint.accepting ≠ clientId →
        ¬ side.manager.getSessionToken clientId < peerToken) ∧
      ((side.accept endpoint peerToken).Accepted endpoint →
        session.sessionStatus = .unconnected ∧
        (side.accept endpoint
          peerToken).manager.serverSessionMap[endpoint.key]? =
            some endpoint.accepting) ∧
      (session.sessionStatus = .unconnected →
        (∀ transType, ChannelManager.isValidChannelId
          (endpoint.createChannel transType) = true) →
        endpoint.notifyPrepareResult = 0 →
        (side.accept endpoint peerToken).Accepted endpoint)) := by
  simp only [Side.Refused, Side.Accepted, Side.accept, Option.bind_some]
  rw [← hkey]
  rcases acceptConnect_outcome hfound peerToken endpoint.createChannel
    endpoint.notifyPrepareResult with
    ⟨hreason, hresult⟩ | ⟨-, htokens, hresult⟩
  · rw [hresult]
    refine Or.inl ⟨rfl, ?_, rfl, rfl, hreason⟩
    rintro ⟨haccepted, -⟩
    have hcode : CollabErr.sameSessionIsConnecting.code = 0 :=
      Option.some.inj haccepted
    exact absurd hcode (by decide)
  · rw [hresult]
    refine Or.inr ⟨session.prepareResult_ne_sameSession _ _ _, htokens,
      ?_, ?_⟩
    · rintro ⟨haccepted, hdelivered⟩
      rw [hdelivered] at haccepted ⊢
      refine ⟨?_, server_of_accepted haccepted⟩
      rw [session.prepareResult_acceptConnect] at haccepted
      split_ifs at haccepted with hstatus
      exact hstatus
    · intro hstatus hchannels hdelivered
      refine ⟨?_, hdelivered⟩
      rw [session.prepareResult_acceptConnect, if_pos hstatus,
        AbilityConnectionSession.initChannels_of_valid _ hchannels]
      rfl

theorem Side.Settled.accept (hsettled : side.Settled endpoint peerToken)
    (hanswer : side.answer = none) :
    (side.accept endpoint peerToken).Settled endpoint peerToken := by
  refine ⟨nofun, ?_, ?_, nofun, ?_⟩
  · intro session hfound
    obtain ⟨old, hold, hinfo⟩ := sessionInfo_acceptConnect hfound
    rw [hinfo]
    exact hsettled.keyed old hold
  · intro hregistered hdecided
    have hfound : side.manager.getAbilityConnectionSession
        endpoint.accepting = some endpoint.acceptingSession := by
      rw [hsettled.untouched hregistered hanswer]
      exact endpoint.haccepting
    rcases Side.accept_cases hfound endpoint.hmatching peerToken with
      ⟨-, -, hclients, hservers, hreason⟩ | ⟨hnotRefused, -, haccepted, -⟩
    · rw [hclients, hservers]
      rcases hreason with hserver | ⟨clientId, hclient, -⟩
      · exact Or.inr hserver
      · refine Or.inl ?_
        rw [hclient]
        exact Option.some_ne_none clientId
    · refine Or.inr ?_
      rw [(haccepted (hdecided.resolve_left hnotRefused)).2]
      exact Option.some_ne_none endpoint.accepting
  · intro hregistered
    obtain ⟨hclient, hserver, htoken, session, hfound, hkey, hbusy, -⟩ :=
      hsettled.waiting hregistered hanswer
    rcases Side.accept_cases hfound hkey peerToken with
      ⟨-, hnotAccepted, -, -, hreason⟩ | ⟨hnotRefused, htokens, haccepted, -⟩
    · refine ⟨?_, fun h => absurd h hnotAccepted⟩
      intro _
      rcases hreason with hentry | ⟨clientId, hfoundClient, -, hsmaller⟩
      · exact absurd hserver hentry
      · rw [hclient] at hfoundClient
        cases hfoundClient
        rw [htoken] at hsmaller
        exact hsmaller
    · refine ⟨fun h => absurd h hnotRefused, ?_⟩
      intro haccept
      have hdifferent : endpoint.accepting ≠ endpoint.connecting :=
        fun hsame => hbusy hsame (haccepted haccept).1
      have hnotSmaller := htokens endpoint.connecting hclient hdifferent
      rw [htoken] at hnotSmaller
      exact hnotSmaller

structure Side.Prompt (endpoint : Endpoint) (side : Side) : Prop where
  connects : side.registered = some false → side.Accepted endpoint
  acceptsFirst : side.registered = none → side.answer ≠ none →
    side.Accepted endpoint
  answers : side.answer ≠ none → side.Refused ∨ side.Accepted endpoint

theorem Side.Prompt.connect (hsettled : side.Settled endpoint peerToken)
    (hprompt : side.Prompt endpoint) (hready : Encounter.Ready endpoint)
    (hregistered : side.registered = none) :
    (side.connect endpoint).Prompt endpoint := by
  refine ⟨?_, nofun, hprompt.answers⟩
  intro hregisters
  refine hprompt.acceptsFirst hregistered ?_
  intro hanswer
  have hmanager := hsettled.untouched hregistered hanswer
  have htrue : side.manager.connectRegisters endpoint.connecting = true := by
    rw [hmanager]
    exact (connectRegisters_iff endpoint.hconnecting).mpr
      ⟨hready.client, hready.server⟩
  have hfalse : side.manager.connectRegisters endpoint.connecting = false :=
    Option.some.inj hregisters
  rw [htrue] at hfalse
  cases hfalse

theorem Side.Prompt.accept (hsettled : side.Settled endpoint peerToken)
    (hprompt : side.Prompt endpoint) (hready : Encounter.Ready endpoint)
    (hanswer : side.answer = none) :
    (side.accept endpoint peerToken).Prompt endpoint := by
  have hfirst : side.registered = none →
      (side.accept endpoint peerToken).Accepted endpoint := by
    intro hregistered
    have hmanager := hsettled.untouched hregistered hanswer
    have hfound : side.manager.getAbilityConnectionSession
        endpoint.accepting = some endpoint.acceptingSession := by
      rw [hmanager]
      exact endpoint.haccepting
    rcases Side.accept_cases hfound endpoint.hmatching peerToken with
      ⟨-, -, -, -, hreason⟩ | ⟨-, -, -, haccepts⟩
    · rw [hmanager, hready.client, hready.server] at hreason
      rcases hreason with hserver | ⟨clientId, hclient, -⟩
      · exact absurd rfl hserver
      · cases hclient
    · exact haccepts hready.unconnected hready.channels hready.delivered
  refine ⟨?_, fun hregistered _ => hfirst hregistered, ?_⟩
  · intro hregistered
    exact absurd (hprompt.connects hregistered)
      (Side.not_accepted_of_answer hanswer)
  · intro _
    cases hregistered : side.registered with
    | none => exact Or.inr (hfirst hregistered)
    | some registers =>
        cases registers with
        | false =>
            exact absurd (hprompt.connects hregistered)
              (Side.not_accepted_of_answer hanswer)
        | true =>
            obtain ⟨-, -, -, session, hfound, hkey, -, hsession⟩ :=
              hsettled.waiting hregistered hanswer
            have hstatus : session.sessionStatus = .unconnected := by
              rw [hsession hready.different]
              exact hready.unconnected
            rcases Side.accept_cases hfound hkey peerToken with
              ⟨hrefused, -⟩ | ⟨-, -, -, haccepts⟩
            · exact Or.inl hrefused
            · exact Or.inr (haccepts hstatus hready.channels
                hready.delivered)

end OneEnd

/-! ## Every interleaving -/

namespace Encounter

variable {encounter : Encounter} {state : Device → Side}

/-- Both ends are settled, a request was answered only after the peer's
`Connect` was registered, and ends that were idle are prompt. -/
structure Invariant (encounter : Encounter) (state : Device → Side) :
    Prop where
  settled : ∀ device, (state device).Settled (encounter.endpoint device)
    (encounter.endpoint device.peer).token
  requested : ∀ device, (state device).answer ≠ none →
    (state device.peer).registered = some true
  prompt : ∀ device, Ready (encounter.endpoint device) →
    (state device).Prompt (encounter.endpoint device)

theorem invariant_start : encounter.Invariant encounter.start := by
  refine ⟨fun _ => Side.settled_start, ?_, ?_⟩
  · intro device hanswer
    exact absurd rfl hanswer
  · intro device _
    refine ⟨nofun, ?_, ?_⟩
    · intro _ hanswer
      exact absurd rfl hanswer
    · intro hanswer
      exact absurd rfl hanswer

theorem Invariant.step (hinv : encounter.Invariant state) {move : Move}
    (henabled : Enabled state move) :
    encounter.Invariant (encounter.step state move).2 := by
  cases move with
  | connect device =>
      refine ⟨?_, ?_, ?_⟩
      · intro other
        simp only [Encounter.step, Function.update_apply]
        split_ifs with hsame
        · subst hsame
          exact (hinv.settled other).connect henabled
        · exact hinv.settled other
      · intro other hanswer
        simp only [Encounter.step, Function.update_apply] at hanswer ⊢
        have hother : (state other).answer ≠ none := by
          split_ifs at hanswer with hsame
          · subst hsame
            exact hanswer
          · exact hanswer
        have hregistered := hinv.requested other hother
        split_ifs with hpeer
        · rw [hpeer] at hregistered
          rw [henabled] at hregistered
          cases hregistered
        · exact hregistered
      · intro other hready
        simp only [Encounter.step, Function.update_apply]
        split_ifs with hsame
        · subst hsame
          exact Side.Prompt.connect (hinv.settled other)
            (hinv.prompt other hready) hready henabled
        · exact hinv.prompt other hready
  | accept device =>
      obtain ⟨hanswer, hregistered⟩ := henabled
      refine ⟨?_, ?_, ?_⟩
      · intro other
        simp only [Encounter.step, Function.update_apply]
        split_ifs with hsame
        · subst hsame
          exact (hinv.settled other).accept hanswer
        · exact hinv.settled other
      · intro other hother
        simp only [Encounter.step, Function.update_apply] at hother ⊢
        have hpeer : (state other.peer).registered = some true := by
          split_ifs at hother with hsame
          · subst hsame
            exact hregistered
          · exact hinv.requested other hother
        split_ifs with hsame
        · rw [hsame] at hpeer
          exact hpeer
        · exact hpeer
      · intro other hready
        simp only [Encounter.step, Function.update_apply]
        split_ifs with hsame
        · subst hsame
          exact Side.Prompt.accept (hinv.settled other)
            (hinv.prompt other hready) hready hanswer
        · exact hinv.prompt other hready

theorem token_lt_peer_iff (device : Device) :
    (encounter.endpoint device).token <
        (encounter.endpoint device.peer).token ↔
      ¬ (encounter.endpoint device.peer).token <
        (encounter.endpoint device).token := by
  have hne : (encounter.endpoint device).token ≠
      (encounter.endpoint device.peer).token := by
    cases device with
    | a => exact encounter.htokens
    | b => exact encounter.htokens.symm
  constructor
  · exact List.lt_asymm
  · intro hnot
    by_contra hnotLess
    exact hne (List.le_antisymm (List.not_lt.mp hnot)
      (List.not_lt.mp hnotLess))

theorem Invariant.not_both_refused (hinv : encounter.Invariant state) :
    ¬ ∀ device, (state device).Refused := by
  intro hrefused
  have hless : ∀ device, (encounter.endpoint device).token <
      (encounter.endpoint device.peer).token := by
    intro device
    have hanswer : (state device.peer).answer ≠ none := fun hnone =>
      Side.not_refused_of_answer hnone (hrefused device.peer)
    have hregistered := hinv.requested device.peer hanswer
    rw [Device.peer_peer] at hregistered
    exact ((hinv.settled device).decided hregistered).1 (hrefused device)
  exact List.lt_asymm (hless .a) (hless .b)

theorem Invariant.not_both_accepted (hinv : encounter.Invariant state) :
    ¬ ∀ device, (state device).registered = some true ∧
      (state device).Accepted (encounter.endpoint device) := by
  intro haccepted
  have hnotLess : ∀ device, ¬ (encounter.endpoint device).token <
      (encounter.endpoint device.peer).token := fun device =>
    ((hinv.settled device).decided (haccepted device).1).2
      (haccepted device).2
  exact hnotLess .a ((token_lt_peer_iff Device.a).mpr (hnotLess .b))

theorem Invariant.accepted_iff (hinv : encounter.Invariant state)
    {device : Device} (hready : Ready (encounter.endpoint device))
    (hregistered : (state device).registered = some true)
    (hanswer : (state device).answer ≠ none) :
    (state device).Accepted (encounter.endpoint device) ↔
      ¬ (encounter.endpoint device).token <
        (encounter.endpoint device.peer).token := by
  obtain ⟨hrefuses, haccepts⟩ :=
    (hinv.settled device).decided hregistered
  refine ⟨haccepts, ?_⟩
  intro hnotLess
  rcases (hinv.prompt device hready).answers hanswer with
    hrefused | haccepted
  · exact absurd (hrefuses hrefused) hnotLess
  · exact haccepted

theorem Invariant.exactly_one (hinv : encounter.Invariant state)
    (hready : ∀ device, Ready (encounter.endpoint device))
    (hcomplete : Complete state) :
    ∃! device, (state device).Accepted (encounter.endpoint device) := by
  have hwinner : ∃ device,
      (state device).Accepted (encounter.endpoint device) ∧
        ¬ (state device.peer).Accepted
          (encounter.endpoint device.peer) := by
    by_cases hall : ∀ device, (state device).registered = some true
    · -- both requests were answered, and the tokens decide
      have hiff : ∀ device,
          (state device).Accepted (encounter.endpoint device) ↔
            ¬ (encounter.endpoint device).token <
              (encounter.endpoint device.peer).token := fun device =>
        hinv.accepted_iff (hready device) (hall device)
          ((hcomplete device).2 (hall device.peer))
      simp only [hiff, Device.peer_peer, not_not]
      by_cases hless : (encounter.endpoint Device.a).token <
          (encounter.endpoint Device.a.peer).token
      · exact ⟨.b, (token_lt_peer_iff Device.a).mp hless, hless⟩
      · refine ⟨.a, hless, ?_⟩
        by_contra hnotLess
        exact hless ((token_lt_peer_iff Device.a).mpr hnotLess)
    · -- an end whose `Connect` was refused had accepted before
      push Not at hall
      obtain ⟨device, hrefused⟩ := hall
      have hfalse : (state device).registered = some false := by
        cases hregistered : (state device).registered with
        | none => exact absurd hregistered (hcomplete device).1
        | some registers =>
            cases registers with
            | false => rfl
            | true => exact absurd hregistered hrefused
      refine ⟨device, (hinv.prompt device (hready device)).connects hfalse,
        ?_⟩
      intro haccepted
      have hregistered := hinv.requested device.peer fun hnone =>
        Side.not_accepted_of_answer hnone haccepted
      rw [Device.peer_peer, hfalse] at hregistered
      cases hregistered
  obtain ⟨device, haccepted, hnotPeer⟩ := hwinner
  refine ⟨device, haccepted, ?_⟩
  intro other hother
  rcases device.eq_or_eq_peer other with hsame | hpeer
  · exact hsame
  · rw [hpeer] at hother
    exact absurd hother hnotPeer

/-- Every interleaving of the four steps is resolved. -/
theorem resolved_run (encounter : Encounter) (moves : List Move)
    (hmeets : EventRun.Meets encounter.step Enabled encounter.start moves) :
    encounter.Resolved
      (EventRun.run encounter.step encounter.start moves).2 := by
  have hkept : ∀ state move, encounter.Invariant state →
      Enabled state move → encounter.Invariant (encounter.step state move).2 :=
    fun _ _ hinv henabled => hinv.step henabled
  have hinv := hmeets.invariant hkept invariant_start
  exact ⟨hinv.not_both_refused, hinv.not_both_accepted, hinv.exactly_one⟩

def notesManager : AbilityConnectionManager :=
  let session := AbilityConnectionSession.create
    ⟨"notes".toList,
      ⟨[], "com.demo.notes".toList, "entry".toList, "EntryAbility".toList,
        "notes".toList⟩,
      ⟨"peer".toList, "com.demo.notes".toList, "entry".toList,
        "EntryAbility".toList, "notes".toList⟩⟩
    ⟨false, false, false, false, false⟩
  (AbilityConnectionManager.initial.store 100 session).store 101 session

def notesEndpoint (token : Text) : Endpoint where
  manager := notesManager
  connecting := 100
  accepting := 101
  connectingSession := _
  acceptingSession := _
  hconnecting := rfl
  haccepting := rfl
  hmatching := rfl
  token := token
  callback := true
  getPeerVersion := 0
  createChannel := fun _ => 1001
  notifyPrepareResult := 0

def notesEncounter : Encounter where
  endpoint := fun device =>
    match device with
    | .a => notesEndpoint "a1".toList
    | .b => notesEndpoint "b2".toList
  htokens := by decide

def crossedMoves : List Move :=
  [.connect .a, .connect .b, .accept .a, .accept .b]

theorem resolved_crossedMoves :
    EventRun.Meets notesEncounter.step Enabled notesEncounter.start
        crossedMoves ∧
      notesEncounter.Resolved (EventRun.run notesEncounter.step
        notesEncounter.start crossedMoves).2 := by
  have hmeets : EventRun.Meets notesEncounter.step Enabled
      notesEncounter.start crossedMoves := by
    decide +kernel
  exact ⟨hmeets, resolved_run notesEncounter crossedMoves hmeets⟩

end Encounter

end Dmsfwk
