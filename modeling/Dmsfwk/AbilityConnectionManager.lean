import Dmsfwk.AbilityConnectionSession

/-!
# The manager of the collaboration sessions of a process

`AbilityConnectionManager` owns the sessions which the applications of a
process created and registers those that are being connected: a session that
calls `Connect` in the client map, one that accepts a request in the server
map, both under the description of the session.  Releasing a session deletes
its registration.
-/

namespace Dmsfwk

def PeerInfo.compareInfo (info : PeerInfo) : Text :=
  info.deviceId ++ info.bundleName ++ info.moduleName ++ info.abilityName ++
    info.serverId

/-- What `operator <` of `AbilityConnectionSessionInfo` compares, in this
order. -/
abbrev SessionKey := List Text

def AbilityConnectionSessionInfo.key (info : AbilityConnectionSessionInfo) :
    SessionKey :=
  [info.serverId, info.localInfo.compareInfo, info.peerInfo.compareInfo]

structure AbilityConnectionManager where
  sessionMap : Std.TreeMap ℤ AbilityConnectionSession
  sessionId : ℤ
  clientSessionMap : Std.TreeMap SessionKey ℤ
  serverSessionMap : Std.TreeMap SessionKey ℤ

namespace AbilityConnectionManager

open AbilityConnectionSession (Written)

def initial : AbilityConnectionManager := ⟨∅, 100, ∅, ∅⟩

def getAbilityConnectionSession (manager : AbilityConnectionManager)
    (sessionId : ℤ) : Option AbilityConnectionSession :=
  if sessionId ≤ 0 then none else manager.sessionMap[sessionId]?

/-! ## The registry -/

def getSessionToken (manager : AbilityConnectionManager) (sessionId : ℤ) :
    Text :=
  match manager.getAbilityConnectionSession sessionId with
  | none => []
  | some session => session.dmsServerToken

def updateClientSession (manager : AbilityConnectionManager)
    (sessionInfo : AbilityConnectionSessionInfo) (sessionId : ℤ) :
    CollabErr × AbilityConnectionManager :=
  if manager.clientSessionMap[sessionInfo.key]?.isSome ∨
      manager.serverSessionMap[sessionInfo.key]?.isSome then
    (.sameSessionIsConnecting, manager)
  else
    (.errOk, { manager with
      clientSessionMap :=
        manager.clientSessionMap.insert sessionInfo.key sessionId })

def updateServerSession (manager : AbilityConnectionManager)
    (sessionInfo : AbilityConnectionSessionInfo) (sessionId : ℤ) :
    CollabErr × AbilityConnectionManager :=
  let registered := { manager with
    serverSessionMap :=
      manager.serverSessionMap.insert sessionInfo.key sessionId }
  if manager.serverSessionMap[sessionInfo.key]?.isSome then
    (.sameSessionIsConnecting, manager)
  else
    match manager.clientSessionMap[sessionInfo.key]? with
    | none => (.errOk, registered)
    | some clientId =>
        if manager.getSessionToken sessionId >
            manager.getSessionToken clientId then
          (.sameSessionIsConnecting, manager)
        else (.errOk, registered)

/-- `DeleteConnectSession`; a session found in the client map is not looked up
in the server map. -/
def deleteConnectSession (manager : AbilityConnectionManager)
    (sessionInfo : AbilityConnectionSessionInfo) (sessionId : ℤ) :
    AbilityConnectionManager :=
  if manager.clientSessionMap[sessionInfo.key]? = some sessionId then
    { manager with
      clientSessionMap := manager.clientSessionMap.erase sessionInfo.key }
  else if manager.serverSessionMap[sessionInfo.key]? = some sessionId then
    { manager with
      serverSessionMap := manager.serverSessionMap.erase sessionInfo.key }
  else manager

/-! ## Operations on a session -/

def store (manager : AbilityConnectionManager) (sessionId : ℤ)
    (session : AbilityConnectionSession) : AbilityConnectionManager :=
  { manager with sessionMap := manager.sessionMap.insert sessionId session }

/-- The manager after an operation of a session: every `Release` that takes
effect deletes the registration of the session. -/
def record (manager : AbilityConnectionManager) (sessionId : ℤ)
    (written : Written) : AbilityConnectionManager :=
  if .unconnected ∈ written.1 then
    (manager.store sessionId written.2).deleteConnectSession
      written.2.sessionInfo sessionId
  else manager.store sessionId written.2

def onSession (manager : AbilityConnectionManager) (sessionId : ℤ)
    (operation : AbilityConnectionSession → ℤ × Written) :
    ℤ × AbilityConnectionManager :=
  match manager.getAbilityConnectionSession sessionId with
  | none => (CollabErr.invalidParametersErr.code, manager)
  | some session =>
      let result := operation session
      (result.1, manager.record sessionId result.2)

def isVaildPeerInfo (peerInfo : PeerInfo) : Bool :=
  !(peerInfo.deviceId.isEmpty || peerInfo.bundleName.isEmpty ||
    peerInfo.moduleName.isEmpty || peerInfo.abilityName.isEmpty ||
    peerInfo.serverId.isEmpty)

def isVaildConnectOption (option : ConnectOption) : Bool :=
  !(option.needSendStream && option.needReceiveStream)

structure AbilityInfo where
  bundleName : Text
  moduleName : Text
  name : Text

/-- `CreateSession`, with the result of `ChannelManager::Init`.  The counter
of the ids is an `int32_t`, and an id that is in use keeps its session. -/
def createSession (manager : AbilityConnectionManager) (serverId : Text)
    (abilityInfo : AbilityInfo) (peerInfo : PeerInfo)
    (options : ConnectOption) (init : ℤ) : ℤ × AbilityConnectionManager :=
  if isVaildPeerInfo peerInfo = false then
    (CollabErr.invalidParametersErr.code, manager)
  else if isVaildConnectOption options = false then
    (CollabErr.invalidParametersErr.code, manager)
  else if init ≠ 0 then (CollabErr.invalidParametersErr.code, manager)
  else
    let localInfo : PeerInfo :=
      ⟨[], abilityInfo.bundleName, abilityInfo.moduleName, abilityInfo.name,
        peerInfo.serverId⟩
    (0, { manager with
      sessionMap := manager.sessionMap.insertIfNew manager.sessionId
        (.create ⟨serverId, localInfo, peerInfo⟩ options)
      sessionId := Int.bmod (manager.sessionId + 1) (2 ^ 32) })

def connectSession (manager : AbilityConnectionManager) (sessionId : ℤ)
    (token : Text) (callback : Bool) (getPeerVersion : ℤ) :
    ℤ × AbilityConnectionManager :=
  match manager.getAbilityConnectionSession sessionId with
  | none => (CollabErr.invalidSessionId.code, manager)
  | some session =>
      let registry := manager.updateClientSession session.sessionInfo sessionId
      let result := session.connect token callback registry.1 getPeerVersion
      (result.1, registry.2.record sessionId result.2)

/-- `AcceptConnect`: the session takes the token of the request before the
registry compares the tokens. -/
def acceptConnect (manager : AbilityConnectionManager) (sessionId : ℤ)
    (token : Text) (createChannel : TransChannelType → ℤ)
    (notifyPrepareResult : ℤ) : AcceptAnswer × AbilityConnectionManager :=
  match manager.getAbilityConnectionSession sessionId with
  | none => (⟨CollabErr.invalidParametersErr.code, none⟩, manager)
  | some session =>
      let requested :=
        manager.store sessionId { session with dmsServerToken := token }
      let registry :=
        requested.updateServerSession session.sessionInfo sessionId
      let result := session.acceptConnect token registry.1 createChannel
        notifyPrepareResult
      (result.1, registry.2.record sessionId result.2)

def disconnectSession (manager : AbilityConnectionManager) (sessionId : ℤ) :
    ℤ × AbilityConnectionManager :=
  manager.onSession sessionId (·.disconnect)

def notifyCollabResult (manager : AbilityConnectionManager) (sessionId : ℤ)
    (result : ℤ) (dmsServerToken : Text) (answers : ChannelAnswers) :
    ℤ × AbilityConnectionManager :=
  manager.onSession sessionId
    (·.handleCollabResult result dmsServerToken answers)

def notifyDisconnect (manager : AbilityConnectionManager) (sessionId : ℤ) :
    ℤ × AbilityConnectionManager :=
  manager.onSession sessionId (·.handleDisconnect)

def notifyPeerVersion (manager : AbilityConnectionManager) (sessionId : ℤ)
    (collabMission : ℤ) : ℤ × AbilityConnectionManager :=
  manager.onSession sessionId (·.handlePeerVersion collabMission)

def destroySession (manager : AbilityConnectionManager) (sessionId : ℤ) :
    ℤ × AbilityConnectionManager :=
  match manager.getAbilityConnectionSession sessionId with
  | none => (CollabErr.invalidParametersErr.code, manager)
  | some session =>
      let disconnected := manager.record sessionId session.disconnect.2
      (0, { disconnected with
        sessionMap := disconnected.sessionMap.erase sessionId })

/-! ## What the registry decides -/

theorem getElem?_of_getAbilityConnectionSession
    {manager : AbilityConnectionManager} {sessionId : ℤ}
    {session : AbilityConnectionSession}
    (hfound : manager.getAbilityConnectionSession sessionId = some session) :
    manager.sessionMap[sessionId]? = some session := by
  unfold getAbilityConnectionSession at hfound
  split_ifs at hfound
  exact hfound

section Decisions

variable (manager : AbilityConnectionManager)
  (sessionInfo : AbilityConnectionSessionInfo) (sessionId : ℤ)

theorem updateClientSession_cases :
    ((manager.clientSessionMap[sessionInfo.key]? ≠ none ∨
        manager.serverSessionMap[sessionInfo.key]? ≠ none) ∧
      manager.updateClientSession sessionInfo sessionId =
        (.sameSessionIsConnecting, manager)) ∨
      (manager.clientSessionMap[sessionInfo.key]? = none ∧
        manager.serverSessionMap[sessionInfo.key]? = none ∧
        manager.updateClientSession sessionInfo sessionId =
          (.errOk, { manager with
            clientSessionMap := manager.clientSessionMap.insert
              sessionInfo.key sessionId })) := by
  unfold updateClientSession
  simp only [Option.isSome_iff_ne_none]
  split_ifs with hregistered
  · exact Or.inl ⟨hregistered, rfl⟩
  · obtain ⟨hclient, hserver⟩ := not_or.mp hregistered
    exact Or.inr ⟨not_not.mp hclient, not_not.mp hserver, rfl⟩

theorem updateServerSession_cases :
    ((manager.serverSessionMap[sessionInfo.key]? ≠ none ∨
        ∃ clientId,
          manager.clientSessionMap[sessionInfo.key]? = some clientId ∧
          manager.getSessionToken sessionId >
            manager.getSessionToken clientId) ∧
      manager.updateServerSession sessionInfo sessionId =
        (.sameSessionIsConnecting, manager)) ∨
      (manager.serverSessionMap[sessionInfo.key]? = none ∧
        (∀ clientId,
          manager.clientSessionMap[sessionInfo.key]? = some clientId →
          ¬ manager.getSessionToken sessionId >
            manager.getSessionToken clientId) ∧
        manager.updateServerSession sessionInfo sessionId =
          (.errOk, { manager with
            serverSessionMap := manager.serverSessionMap.insert
              sessionInfo.key sessionId })) := by
  unfold updateServerSession
  simp only [Option.isSome_iff_ne_none]
  by_cases hserver : manager.serverSessionMap[sessionInfo.key]? ≠ none
  · rw [if_pos hserver]
    exact Or.inl ⟨Or.inl hserver, rfl⟩
  rw [if_neg hserver]
  cases hclient : manager.clientSessionMap[sessionInfo.key]? with
  | none =>
      refine Or.inr ⟨not_not.mp hserver, ?_, rfl⟩
      intro clientId hfound
      cases hfound
  | some clientId =>
      simp only
      split_ifs with htoken
      · exact Or.inl ⟨Or.inr ⟨clientId, rfl, htoken⟩, rfl⟩
      · refine Or.inr ⟨not_not.mp hserver, ?_, rfl⟩
        intro found hfound
        cases hfound
        exact htoken

end Decisions

/-! ## The sessions after an operation -/

section Sessions

variable {manager : AbilityConnectionManager} {sessionId other : ℤ}

@[simp] theorem sessionMap_deleteConnectSession
    (sessionInfo : AbilityConnectionSessionInfo) :
    (manager.deleteConnectSession sessionInfo sessionId).sessionMap =
      manager.sessionMap := by
  unfold deleteConnectSession
  split_ifs <;> rfl

theorem sessionMap_store (session : AbilityConnectionSession) :
    (manager.store sessionId session).sessionMap[other]? =
      if sessionId = other then some session
      else manager.sessionMap[other]? :=
  OrderedMap.getElem?_insert_eq sessionId other session

theorem sessionMap_record (written : Written) :
    (manager.record sessionId written).sessionMap[other]? =
      if sessionId = other then some written.2
      else manager.sessionMap[other]? := by
  unfold record
  split_ifs with hreleased hsame hsame
  · rw [sessionMap_deleteConnectSession, sessionMap_store, if_pos hsame]
  · rw [sessionMap_deleteConnectSession, sessionMap_store, if_neg hsame]
  · rw [sessionMap_store, if_pos hsame]
  · rw [sessionMap_store, if_neg hsame]

theorem pos_of_getAbilityConnectionSession
    {session : AbilityConnectionSession}
    (hfound : manager.getAbilityConnectionSession sessionId = some session) :
    0 < sessionId := by
  unfold getAbilityConnectionSession at hfound
  split_ifs at hfound with hid
  omega

theorem getAbilityConnectionSession_record_self (hid : 0 < sessionId)
    (written : Written) :
    (manager.record sessionId written).getAbilityConnectionSession
      sessionId = some written.2 := by
  unfold getAbilityConnectionSession
  rw [if_neg (by omega), sessionMap_record, if_pos rfl]

theorem getAbilityConnectionSession_record_ne (hother : sessionId ≠ other)
    (written : Written) :
    (manager.record sessionId written).getAbilityConnectionSession other =
      manager.getAbilityConnectionSession other := by
  unfold getAbilityConnectionSession
  rw [sessionMap_record, if_neg hother]

theorem getAbilityConnectionSession_store_self (hid : 0 < sessionId)
    (session : AbilityConnectionSession) :
    (manager.store sessionId session).getAbilityConnectionSession
      sessionId = some session := by
  unfold getAbilityConnectionSession
  rw [if_neg (by omega), sessionMap_store, if_pos rfl]

theorem getAbilityConnectionSession_store_ne (hother : sessionId ≠ other)
    (session : AbilityConnectionSession) :
    (manager.store sessionId session).getAbilityConnectionSession other =
      manager.getAbilityConnectionSession other := by
  unfold getAbilityConnectionSession
  rw [sessionMap_store, if_neg hother]

theorem getSessionToken_store_self (hid : 0 < sessionId)
    (session : AbilityConnectionSession) :
    (manager.store sessionId session).getSessionToken sessionId =
      session.dmsServerToken := by
  unfold getSessionToken
  rw [getAbilityConnectionSession_store_self hid]

theorem getSessionToken_store_ne (hother : sessionId ≠ other)
    (session : AbilityConnectionSession) :
    (manager.store sessionId session).getSessionToken other =
      manager.getSessionToken other := by
  unfold getSessionToken
  rw [getAbilityConnectionSession_store_ne hother]

end Sessions

end AbilityConnectionManager

end Dmsfwk
