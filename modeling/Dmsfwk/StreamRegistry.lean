import Dmsfwk.SessionRegistry

/-!
# The streams of the collaboration sessions

The manager keeps for each stream the session that created it and looks every
operation on a stream up there.  The look-up reads the map with `operator[]`, so
a stream that is not known is put into the map with session 0, and a session
that is destroyed leaves its streams behind.  The theorems below say in which
runs the map holds exactly the streams of the sessions.
-/

namespace Dmsfwk

open OrderedMap EventRun

/-! ## The engines of a session -/

inductive StreamRole where
  | source
  | sink
  | unrecognized
  deriving DecidableEq, Repr

/-- The members of `SurfaceParams` as integers. -/
structure SurfaceParams where
  width : Int32
  height : Int32
  format : Int32
  rotation : Int32
  flip : Int32
  deriving DecidableEq, Repr

inductive EngineCall where
  | configure (param : SurfaceParams)
  | setVideoSurface (surfaceId : ℕ)
  | prepare
  | setTransChannel (channelId : ℤ) (channelType : TransChannelType)
  | setChannelListener (channelId : ℤ)
  | setSurfaceParam (param : SurfaceParams)
  | onRecvSurfaceParam (param : SurfaceParams)
  | start
  | stop
  deriving DecidableEq, Repr

abbrev StreamEngine := List EngineCall

structure StreamEngines where
  streamId : ℤ := 0
  senderEngine : Option StreamEngine := none
  recvEngine : Option StreamEngine := none
  deriving DecidableEq, Repr

structure EngineAnswers where
  configure : ℤ := 0
  setVideoSurface : ℤ := 0
  prepare : ℤ := 0
  start : ℤ := 0
  stop : ℤ := 0
  sendMessage : ℤ := 0

/-- An operation of `AbilityConnectionSession` on its engines. -/
abbrev EngineOperation :=
  AbilityConnectionSession → StreamEngines → ℤ × StreamEngines

def AbilityConnectionSession.getStreamTransChannel
    (session : AbilityConnectionSession) : Option (ℤ × TransChannelType) :=
  ([.stream, .streamBytes] : List TransChannelType).findSome? fun transType =>
    match session.transChannels transType with
    | some info =>
        if info.isConnected then some (info.channelId, transType) else none
    | none => none

namespace StreamEngines

def initSenderEngine (session : AbilityConnectionSession)
    (engines : StreamEngines) : ℤ × StreamEngines :=
  if session.connectOption.needSendStream = false then
    (CollabErr.invalidParametersErr.code, engines)
  else if engines.senderEngine.isSome then
    (CollabErr.onlySupportOneStream.code, engines)
  else (0, { engines with senderEngine := some [] })

def initRecvEngine (session : AbilityConnectionSession)
    (engines : StreamEngines) : ℤ × StreamEngines :=
  if session.connectOption.needReceiveStream = false then
    (CollabErr.invalidParametersErr.code, engines)
  else if engines.recvEngine.isSome then
    (CollabErr.onlySupportOneStream.code, engines)
  else (0, { engines with recvEngine := some [] })

def createStream (streamId : ℤ) (role : StreamRole) : EngineOperation :=
  fun session engines =>
    match role with
    | .source => initSenderEngine session { engines with streamId := streamId }
    | .sink => initRecvEngine session { engines with streamId := streamId }
    | .unrecognized => (CollabErr.invalidParametersErr.code, engines)

def destroyStream : EngineOperation := fun _ engines =>
  (0, { engines with senderEngine := none, recvEngine := none })

def getSurfaceId (param : SurfaceParams) (answers : EngineAnswers) :
    EngineOperation := fun session engines =>
  match engines.senderEngine with
  | none => (CollabErr.invalidParametersErr.code, engines)
  | some engine =>
      let called := fun engine => { engines with senderEngine := some engine }
      let configured := .configure param :: engine
      if answers.configure ≠ 0 then (answers.configure, called configured)
      else if answers.prepare ≠ 0 then
        (answers.prepare, called (.prepare :: configured))
      else match session.getStreamTransChannel with
        | none =>
            (CollabErr.invalidParametersErr.code,
              called (.prepare :: configured))
        | some (channelId, channelType) =>
            (0, called (.setTransChannel channelId channelType :: .prepare ::
              configured))

/-- `surfaceId` is the number that `std::stoull` reads. -/
def setSurfaceId (surfaceId : ℕ) (param : SurfaceParams)
    (answers : EngineAnswers) : EngineOperation := fun session engines =>
  match engines.recvEngine with
  | none => (CollabErr.invalidParametersErr.code, engines)
  | some engine =>
      let called := fun engine => { engines with recvEngine := some engine }
      let configured := .configure param :: engine
      let surfaced := .setVideoSurface surfaceId :: configured
      if answers.configure ≠ 0 then (answers.configure, called configured)
      else if answers.setVideoSurface ≠ 0 then
        (answers.setVideoSurface, called surfaced)
      else if answers.prepare ≠ 0 then
        (answers.prepare, called (.prepare :: surfaced))
      else match session.getStreamTransChannel with
        | none =>
            (CollabErr.invalidParametersErr.code, called (.prepare :: surfaced))
        | some (channelId, _) =>
            (0, called (.setChannelListener channelId :: .prepare :: surfaced))

def updateSurfaceParam (param : SurfaceParams) : EngineOperation :=
  fun _ engines =>
    match engines.senderEngine, engines.recvEngine with
    | some engine, _ =>
        (0, { engines with
          senderEngine := some (.setSurfaceParam param :: engine) })
    | none, some engine =>
        (0, { engines with
          recvEngine := some (.onRecvSurfaceParam param :: engine) })
    | none, none => (CollabErr.invalidParametersErr.code, engines)

/-- The engine that `StartStream` and `StopStream` address: the sender where it
is configured and there, else the receiver. -/
def addressed (session : AbilityConnectionSession) (engines : StreamEngines) :
    Option (StreamRole × StreamEngine) :=
  match session.connectOption.needSendStream, engines.senderEngine,
    session.connectOption.needReceiveStream, engines.recvEngine with
  | true, some engine, _, _ => some (.source, engine)
  | _, _, true, some engine => some (.sink, engine)
  | _, _, _, _ => none

def startStream (answers : EngineAnswers) : EngineOperation :=
  fun session engines =>
    match engines.addressed session with
    | some (.source, engine) =>
        (answers.start,
          { engines with senderEngine := some (.start :: engine) })
    | some (_, engine) =>
        (if answers.start ≠ 0 then answers.start else answers.sendMessage,
          { engines with recvEngine := some (.start :: engine) })
    | none => (CollabErr.invalidParametersErr.code, engines)

def stopStream (answers : EngineAnswers) : EngineOperation :=
  fun session engines =>
    match engines.addressed session with
    | some (.source, engine) =>
        (answers.stop, { engines with senderEngine := some (.stop :: engine) })
    | some (_, engine) =>
        (answers.stop, { engines with recvEngine := some (.stop :: engine) })
    | none => (0, engines)

end StreamEngines

/-! ## The manager -/

structure StreamManager where
  sessions : AbilityConnectionManager := .initial
  engines : Std.TreeMap ℤ StreamEngines := ∅
  streamId : ℤ := 1000
  streamMap : Std.TreeMap ℤ ℤ := ∅

structure StreamAnswer where
  ret : ℤ
  streamId : Option ℤ := none
  deriving DecidableEq, Repr

inductive StreamCall where
  /-- `CreateSession`, `DestroySession` and all that happens to the sessions. -/
  | session (event : AbilityConnectionManager.ManagerEvent)
  | createStream (sessionId : ℤ) (role : StreamRole)
  | destroyStream (streamId : ℤ)
  | setSurfaceId (streamId : ℤ) (surfaceId : ℕ) (param : SurfaceParams)
      (answers : EngineAnswers)
  | getSurfaceId (streamId : ℤ) (param : SurfaceParams)
      (answers : EngineAnswers)
  | updateSurfaceParam (streamId : ℤ) (param : SurfaceParams)
  | startStream (streamId : ℤ) (answers : EngineAnswers)
  | stopStream (streamId : ℤ) (answers : EngineAnswers)

namespace StreamManager

open AbilityConnectionManager (ManagerEvent)

def enginesOf (manager : StreamManager) (sessionId : ℤ) : StreamEngines :=
  manager.engines[sessionId]?.getD {}

def sessionEvent (manager : StreamManager) (event : ManagerEvent) :
    StreamAnswer × StreamManager :=
  let result := manager.sessions.step event
  (⟨result.1, none⟩, { manager with
    sessions := result.2
    engines :=
      match event with
      | .destroySession sessionId =>
          if result.1 = 0 then manager.engines.erase sessionId
          else manager.engines
      | _ => manager.engines })

def onSession (manager : StreamManager) (sessionId : ℤ)
    (operation : EngineOperation) : ℤ × StreamManager :=
  match manager.sessions.getAbilityConnectionSession sessionId with
  | none => (CollabErr.invalidParametersErr.code, manager)
  | some session =>
      let result := operation session (manager.enginesOf sessionId)
      (result.1, { manager with
        engines := manager.engines.insert sessionId result.2 })

def createStream (manager : StreamManager) (sessionId : ℤ) (role : StreamRole) :
    StreamAnswer × StreamManager :=
  let created :=
    manager.onSession sessionId (StreamEngines.createStream manager.streamId role)
  if created.1 ≠ 0 then (⟨created.1, none⟩, created.2)
  else
    (⟨0, some manager.streamId⟩, { created.2 with
      streamId := Int.bmod (manager.streamId + 1) (2 ^ 32)
      streamMap := manager.streamMap.insert manager.streamId sessionId })

/-- The look-up of `GetAbilityConnectionSessionByStreamId` with `operator[]`. -/
def lookUpStream (manager : StreamManager) (streamId : ℤ) : ℤ × StreamManager :=
  match manager.streamMap[streamId]? with
  | some sessionId => (sessionId, manager)
  | none =>
      (0, { manager with streamMap := manager.streamMap.insert streamId 0 })

def onStream (manager : StreamManager) (streamId : ℤ)
    (operation : EngineOperation) : StreamAnswer × StreamManager :=
  let (sessionId, found) := manager.lookUpStream streamId
  let result := found.onSession sessionId operation
  (⟨result.1, none⟩, result.2)

def setSurfaceId (manager : StreamManager) (streamId : ℤ) (surfaceId : ℕ)
    (param : SurfaceParams) (answers : EngineAnswers) :
    StreamAnswer × StreamManager :=
  manager.onStream streamId (StreamEngines.setSurfaceId surfaceId param answers)

def getSurfaceId (manager : StreamManager) (streamId : ℤ)
    (param : SurfaceParams) (answers : EngineAnswers) :
    StreamAnswer × StreamManager :=
  manager.onStream streamId (StreamEngines.getSurfaceId param answers)

def updateSurfaceParam (manager : StreamManager) (streamId : ℤ)
    (param : SurfaceParams) : StreamAnswer × StreamManager :=
  manager.onStream streamId (StreamEngines.updateSurfaceParam param)

def startStream (manager : StreamManager) (streamId : ℤ)
    (answers : EngineAnswers) : StreamAnswer × StreamManager :=
  manager.onStream streamId (StreamEngines.startStream answers)

def stopStream (manager : StreamManager) (streamId : ℤ)
    (answers : EngineAnswers) : StreamAnswer × StreamManager :=
  manager.onStream streamId (StreamEngines.stopStream answers)

def destroyStream (manager : StreamManager) (streamId : ℤ) :
    StreamAnswer × StreamManager :=
  let result := manager.onStream streamId StreamEngines.destroyStream
  if result.1.ret ≠ 0 then
    (⟨CollabErr.invalidParametersErr.code, none⟩, result.2)
  else
    (result.1,
      { result.2 with streamMap := result.2.streamMap.erase streamId })

def checkStreamIsRegistered (manager : StreamManager) (sessionId : ℤ) : Bool :=
  manager.streamMap.toList.any fun entry => entry.2 = sessionId

def step (manager : StreamManager) : StreamCall → StreamAnswer × StreamManager
  | .session event => manager.sessionEvent event
  | .createStream sessionId role => manager.createStream sessionId role
  | .destroyStream streamId => manager.destroyStream streamId
  | .setSurfaceId streamId surfaceId param answers =>
      manager.setSurfaceId streamId surfaceId param answers
  | .getSurfaceId streamId param answers =>
      manager.getSurfaceId streamId param answers
  | .updateSurfaceParam streamId param =>
      manager.updateSurfaceParam streamId param
  | .startStream streamId answers => manager.startStream streamId answers
  | .stopStream streamId answers => manager.stopStream streamId answers

end StreamManager

/-! ## What the map should hold -/

/-- The streams with the sessions that created them, after a step with its
answer: `CreateStream` that succeeds adds one, and it goes with the stream or
with the session. -/
def liveAfter (live : Set (ℤ × ℤ)) (event : StreamCall)
    (answer : StreamAnswer) : Set (ℤ × ℤ) :=
  match event, answer.streamId with
  | .createStream sessionId _, some streamId =>
      insert (streamId, sessionId) live
  | .destroyStream streamId, _ =>
      if answer.ret = 0 then { entry ∈ live | entry.1 ≠ streamId } else live
  | .session (.destroySession sessionId), _ =>
      if answer.ret = 0 then { entry ∈ live | entry.2 ≠ sessionId } else live
  | _, _ => live

def StreamCall.operation? : StreamCall → Option (ℤ × EngineOperation)
  | .session _ => none
  | .createStream _ _ => none
  | .destroyStream streamId => some (streamId, StreamEngines.destroyStream)
  | .setSurfaceId streamId surfaceId param answers =>
      some (streamId, StreamEngines.setSurfaceId surfaceId param answers)
  | .getSurfaceId streamId param answers =>
      some (streamId, StreamEngines.getSurfaceId param answers)
  | .updateSurfaceParam streamId param =>
      some (streamId, StreamEngines.updateSurfaceParam param)
  | .startStream streamId answers =>
      some (streamId, StreamEngines.startStream answers)
  | .stopStream streamId answers =>
      some (streamId, StreamEngines.stopStream answers)

namespace StreamManager

open AbilityConnectionManager (ManagerEvent)

def HoldsExactly (manager : StreamManager) (live : Set (ℤ × ℤ)) : Prop :=
  ∀ streamId sessionId : ℤ, manager.streamMap[streamId]? = some sessionId ↔
    (streamId, sessionId) ∈ live

def trackedStep (tracked : StreamManager × Set (ℤ × ℤ)) (event : StreamCall) :
    StreamAnswer × StreamManager × Set (ℤ × ℤ) :=
  let stepped := tracked.1.step event
  (stepped.1, stepped.2, liveAfter tracked.2 event stepped.1)

def ActsOn (before after : StreamManager) (sessionId : ℤ)
    (operation : EngineOperation) (ret : ℤ) : Prop :=
  ∃ session,
    before.sessions.getAbilityConnectionSession sessionId = some session ∧
    operation session (before.enginesOf sessionId) =
      (ret, after.enginesOf sessionId) ∧
    ∀ other, other ≠ sessionId → after.enginesOf other = before.enginesOf other

structure KeepsStreams (tracked : StreamManager × Set (ℤ × ℤ))
    (event : StreamCall) : Prop where
  holds : HoldsExactly (trackedStep tracked event).2.1
    (trackedStep tracked event).2.2
  unknown : ∀ streamId operation,
    event.operation? = some (streamId, operation) →
    (∀ sessionId, (streamId, sessionId) ∉ tracked.2) →
    (tracked.1.step event).1.ret ≠ 0 ∧
      (tracked.1.step event).2.streamMap = tracked.1.streamMap
  acts : ∀ streamId sessionId operation,
    event.operation? = some (streamId, operation) →
    (streamId, sessionId) ∈ tracked.2 →
    ActsOn tracked.1 (tracked.1.step event).2 sessionId operation
      (tracked.1.step event).1.ret

def Takes (manager : StreamManager) (sessionId : ℤ) (role : StreamRole) :
    Prop :=
  ∃ session, manager.sessions.getAbilityConnectionSession sessionId =
      some session ∧
    match role with
    | .source => session.connectOption.needSendStream = true ∧
        (manager.enginesOf sessionId).senderEngine = none
    | .sink => session.connectOption.needReceiveStream = true ∧
        (manager.enginesOf sessionId).recvEngine = none
    | .unrecognized => False

/-- A stream that is created gets an id which no other session has in the map,
a session that is destroyed has no stream in it, and every other call names a
stream that is in it. -/
def EventSound (manager : StreamManager) : StreamCall → Prop
  | .session (.destroySession sessionId) =>
      manager.sessions.getAbilityConnectionSession sessionId ≠ none →
        ∀ streamId : ℤ, manager.streamMap[streamId]? ≠ some sessionId
  | .createStream sessionId role =>
      manager.Takes sessionId role → ∀ other : ℤ,
        manager.streamMap[manager.streamId]? = some other → other = sessionId
  | event => ∀ streamId operation,
      event.operation? = some (streamId, operation) →
        manager.streamMap[streamId]? ≠ none

/-! ## Calls on sessions -/

section Calls

variable {manager : StreamManager} {sessionId streamId : ℤ}
  {operation : EngineOperation}

def Owned (manager : StreamManager) : Prop :=
  ∀ streamId sessionId : ℤ, manager.streamMap[streamId]? = some sessionId →
    manager.sessions.getAbilityConnectionSession sessionId ≠ none

theorem enginesOf_insert (manager : StreamManager) (sessionId other : ℤ)
    (engines : StreamEngines) :
    enginesOf { manager with
        engines := manager.engines.insert sessionId engines } other =
      if sessionId = other then engines else manager.enginesOf other := by
  rw [enginesOf, getElem?_insert_eq]
  split_ifs <;> rfl

@[simp] theorem streamMap_onSession :
    (manager.onSession sessionId operation).2.streamMap = manager.streamMap := by
  unfold onSession
  split <;> rfl

@[simp] theorem sessions_onSession :
    (manager.onSession sessionId operation).2.sessions = manager.sessions := by
  unfold onSession
  split <;> rfl

theorem onSession_of_some {session : AbilityConnectionSession}
    (hsession : manager.sessions.getAbilityConnectionSession sessionId =
      some session) :
    manager.onSession sessionId operation =
      ((operation session (manager.enginesOf sessionId)).1,
        { manager with
          engines := manager.engines.insert sessionId
            (operation session (manager.enginesOf sessionId)).2 }) := by
  rw [onSession, hsession]

theorem actsOn_onSession
    (hsession : manager.sessions.getAbilityConnectionSession sessionId ≠ none) :
    ActsOn manager (manager.onSession sessionId operation).2 sessionId operation
      (manager.onSession sessionId operation).1 := by
  obtain ⟨session, hsession⟩ := Option.ne_none_iff_exists'.mp hsession
  rw [onSession_of_some hsession]
  refine ⟨session, hsession, ?_, ?_⟩
  · rw [enginesOf_insert, if_pos rfl]
  · intro other hother
    rw [enginesOf_insert, if_neg (Ne.symm hother)]

theorem onStream_of_some
    (hstream : manager.streamMap[streamId]? = some sessionId) :
    manager.onStream streamId operation =
      (⟨(manager.onSession sessionId operation).1, none⟩,
        (manager.onSession sessionId operation).2) := by
  rw [onStream, lookUpStream, hstream]

theorem onStream_of_none (hstream : manager.streamMap[streamId]? = none) :
    manager.onStream streamId operation =
      (⟨CollabErr.invalidParametersErr.code, none⟩,
        { manager with streamMap := manager.streamMap.insert streamId 0 }) := by
  rw [onStream, lookUpStream, hstream]
  rfl

end Calls

theorem checkStreamIsRegistered_iff {manager : StreamManager}
    {live : Set (ℤ × ℤ)} (hholds : HoldsExactly manager live) (sessionId : ℤ) :
    manager.checkStreamIsRegistered sessionId = true ↔
      ∃ streamId, (streamId, sessionId) ∈ live := by
  rw [checkStreamIsRegistered, List.any_eq_true]
  constructor
  · rintro ⟨⟨streamId, found⟩, hmem, hfound⟩
    cases of_decide_eq_true hfound
    exact ⟨streamId, (hholds streamId found).mp
      (Std.TreeMap.mem_toList_iff_getElem?_eq_some.mp hmem)⟩
  · rintro ⟨streamId, hmem⟩
    exact ⟨(streamId, sessionId), Std.TreeMap.mem_toList_iff_getElem?_eq_some.mpr
      ((hholds streamId sessionId).mpr hmem), decide_eq_true rfl⟩

/-! ## The sessions after an event -/

section Sessions

open AbilityConnectionManager

variable {manager next : AbilityConnectionManager} {sessionId other : ℤ}

theorem found_of_sessionMap
    (hkept : manager.sessionMap[other]? ≠ none → next.sessionMap[other]? ≠ none)
    (hfound : manager.getAbilityConnectionSession other ≠ none) :
    next.getAbilityConnectionSession other ≠ none := by
  unfold getAbilityConnectionSession at hfound ⊢
  split_ifs at hfound ⊢ with hid
  · exact absurd rfl hfound
  · exact hkept hfound

theorem found_record (written : AbilityConnectionSession.Written)
    (hfound : manager.sessionMap[other]? ≠ none) :
    (manager.record sessionId written).sessionMap[other]? ≠ none := by
  rw [sessionMap_record]
  split_ifs
  · exact Option.some_ne_none _
  · exact hfound

theorem found_onSession
    (operation : AbilityConnectionSession →
      ℤ × AbilityConnectionSession.Written)
    (hfound : manager.sessionMap[other]? ≠ none) :
    (manager.onSession sessionId operation).2.sessionMap[other]? ≠ none := by
  unfold AbilityConnectionManager.onSession
  split
  · exact hfound
  · exact found_record _ hfound

theorem found_step (event : ManagerEvent)
    (hother : event ≠ .destroySession other)
    (hfound : manager.getAbilityConnectionSession other ≠ none) :
    (manager.step event).2.getAbilityConnectionSession other ≠ none := by
  refine found_of_sessionMap (fun hmap => ?_) hfound
  cases event with
  | createSession serverId abilityInfo peerInfo options init =>
      dsimp only [AbilityConnectionManager.step, createSession]
      split_ifs
      · exact hmap
      · exact hmap
      · exact hmap
      · rw [getElem?_insertIfNew]
        split_ifs
        · exact Option.some_ne_none _
        · exact hmap
  | connectSession sessionId token callback getPeerVersion =>
      dsimp only [AbilityConnectionManager.step, connectSession]
      split
      · exact hmap
      · next session _ =>
          apply found_record
          rcases manager.updateClientSession_cases session.sessionInfo
            sessionId with ⟨-, heq⟩ | ⟨-, -, heq⟩ <;> rw [heq] <;> exact hmap
  | acceptConnect sessionId token createChannel notifyPrepareResult =>
      dsimp only [AbilityConnectionManager.step, acceptConnect]
      split
      · exact hmap
      · next session _ =>
          apply found_record
          have hstored : (manager.store sessionId
              { session with dmsServerToken := token }).sessionMap[other]? ≠
              none := by
            rw [sessionMap_store]
            split_ifs
            · exact Option.some_ne_none _
            · exact hmap
          rcases (manager.store sessionId
              { session with dmsServerToken := token }).updateServerSession_cases
            session.sessionInfo sessionId with ⟨-, heq⟩ | ⟨-, -, heq⟩ <;>
            rw [heq] <;> exact hstored
  | destroySession sessionId =>
      dsimp only [AbilityConnectionManager.step, destroySession]
      split
      · exact hmap
      · rw [getElem?_erase_eq, if_neg (fun hsame => hother (by rw [hsame]))]
        exact found_record _ hmap
  | disconnectSession sessionId => exact found_onSession _ hmap
  | notifyCollabResult sessionId result dmsServerToken answers =>
      exact found_onSession _ hmap
  | notifyDisconnect sessionId => exact found_onSession _ hmap
  | notifyPeerVersion sessionId collabMission => exact found_onSession _ hmap
  | callback sessionId event hcallback => exact found_onSession _ hmap

theorem ret_destroySession (sessionId : ℤ) :
    (manager.step (.destroySession sessionId)).1 = 0 ↔
      manager.getAbilityConnectionSession sessionId ≠ none := by
  dsimp only [AbilityConnectionManager.step, destroySession]
  split
  · next hnone => simp [hnone, CollabErr.code, dmsServiceErrOffset]
  · next hsession => simp [hsession]

end Sessions

/-! ## One step -/

section Steps

variable {manager : StreamManager} {live : Set (ℤ × ℤ)}

theorem keepsStreams_iff_holds {event : StreamCall}
    (hevent : event.operation? = none) :
    KeepsStreams (manager, live) event ↔
      HoldsExactly (manager.step event).2
        (liveAfter live event (manager.step event).1) := by
  refine ⟨KeepsStreams.holds, fun hholds => ⟨hholds, ?_, ?_⟩⟩
  · intro streamId operation hoperation
    rw [hevent] at hoperation
    cases hoperation
  · intro streamId sessionId operation hoperation
    rw [hevent] at hoperation
    cases hoperation

theorem keepsStreams_session_iff (hholds : HoldsExactly manager live)
    (event : ManagerEvent) :
    KeepsStreams (manager, live) (.session event) ↔
      manager.EventSound (.session event) := by
  rw [keepsStreams_iff_holds rfl]
  cases event with
  | destroySession sessionId =>
      have hret := @ret_destroySession manager.sessions sessionId
      change (∀ streamId other : ℤ, manager.streamMap[streamId]? = some other ↔
        (streamId, other) ∈ if (manager.sessions.step
            (.destroySession sessionId)).1 = 0
          then { entry ∈ live | entry.2 ≠ sessionId } else live) ↔ _
      rw [EventSound]
      split_ifs with hdone
      · rw [imp_iff_right (hret.mp hdone)]
        constructor
        · intro hafter streamId hstream
          exact ((hafter streamId sessionId).mp hstream).2 rfl
        · intro hnone streamId other
          rw [hholds]
          refine ⟨fun hmem => ⟨hmem, ?_⟩, And.left⟩
          rintro rfl
          exact hnone streamId ((hholds _ _).mpr hmem)
      · exact iff_of_true hholds fun hfound => absurd (hret.mpr hfound) hdone
  | _ => exact iff_of_true hholds fun _ _ hoperation => by cases hoperation

theorem createStream_cases (manager : StreamManager) (sessionId : ℤ)
    (role : StreamRole) :
    (¬ manager.Takes sessionId role ∧
        (manager.createStream sessionId role).1.streamId = none ∧
        (manager.createStream sessionId role).2.streamMap = manager.streamMap) ∨
      (manager.Takes sessionId role ∧
        (manager.createStream sessionId role).1.streamId =
          some manager.streamId ∧
        (manager.createStream sessionId role).2.streamMap =
          manager.streamMap.insert manager.streamId sessionId) := by
  have hcode : (manager.onSession sessionId
      (StreamEngines.createStream manager.streamId role)).1 = 0 ↔
      manager.Takes sessionId role := by
    cases hsession :
        manager.sessions.getAbilityConnectionSession sessionId with
    | none =>
        simp [onSession, hsession, Takes, CollabErr.code, dmsServiceErrOffset]
    | some session =>
        rw [onSession_of_some hsession]
        simp only [Takes, hsession, Option.some.injEq, exists_eq_left']
        cases role with
        | source =>
            dsimp only [StreamEngines.createStream,
              StreamEngines.initSenderEngine]
            split_ifs with hoption hengine <;>
              simp_all [CollabErr.code, dmsServiceErrOffset,
                Option.isSome_iff_ne_none]
        | sink =>
            dsimp only [StreamEngines.createStream, StreamEngines.initRecvEngine]
            split_ifs with hoption hengine <;>
              simp_all [CollabErr.code, dmsServiceErrOffset,
                Option.isSome_iff_ne_none]
        | unrecognized =>
            simp [StreamEngines.createStream, CollabErr.code,
              dmsServiceErrOffset]
  unfold createStream
  dsimp only
  rw [← hcode]
  split_ifs with hret
  · exact Or.inl ⟨hret, rfl, streamMap_onSession⟩
  · exact Or.inr ⟨not_not.mp hret, rfl, rfl⟩

theorem liveAfter_createStream (sessionId : ℤ) (role : StreamRole)
    (answer : StreamAnswer) :
    liveAfter live (.createStream sessionId role) answer =
      answer.streamId.elim live fun streamId =>
        insert (streamId, sessionId) live := by
  unfold liveAfter
  cases answer.streamId <;> rfl

theorem keepsStreams_createStream_iff (hholds : HoldsExactly manager live)
    (sessionId : ℤ) (role : StreamRole) :
    KeepsStreams (manager, live) (.createStream sessionId role) ↔
      manager.EventSound (.createStream sessionId role) := by
  rw [keepsStreams_iff_holds rfl]
  rcases manager.createStream_cases sessionId role with
    ⟨hnot, hid, hmap⟩ | ⟨htakes, hid, hmap⟩
  · refine iff_of_true ?_ fun htakes => absurd htakes hnot
    rw [step, liveAfter_createStream, hid, HoldsExactly, hmap]
    exact hholds
  · rw [step, liveAfter_createStream, hid, HoldsExactly, hmap, EventSound,
      imp_iff_right htakes, Option.elim_some]
    constructor
    · intro hafter other hstream
      have hmem := (hafter manager.streamId other).mpr
        (Or.inr ((hholds _ _).mp hstream))
      rw [getElem?_insert_eq, if_pos rfl] at hmem
      exact (Option.some.inj hmem).symm
    · intro hfree streamId other
      rw [getElem?_insert_eq, Set.mem_insert_iff, Prod.mk.injEq, ← hholds]
      split_ifs with hsame
      · subst hsame
        constructor
        · intro heq
          exact Or.inl ⟨rfl, (Option.some.inj heq).symm⟩
        · rintro (⟨-, rfl⟩ | hstream)
          · rfl
          · rw [hfree other hstream]
      · simp [Ne.symm hsame]

theorem step_operation {event : StreamCall} {streamId : ℤ}
    {operation : EngineOperation}
    (hevent : event.operation? = some (streamId, operation)) :
    (event = .destroyStream streamId ∧
        operation = StreamEngines.destroyStream) ∨
      (manager.step event = manager.onStream streamId operation ∧
        ∀ answer, liveAfter live event answer = live) := by
  cases event with
  | session event => cases hevent
  | createStream sessionId role => cases hevent
  | destroyStream streamId =>
      cases hevent
      exact Or.inl ⟨rfl, rfl⟩
  | setSurfaceId streamId surfaceId param answers =>
      cases hevent
      exact Or.inr ⟨rfl, fun _ => rfl⟩
  | getSurfaceId streamId param answers =>
      cases hevent
      exact Or.inr ⟨rfl, fun _ => rfl⟩
  | updateSurfaceParam streamId param =>
      cases hevent
      exact Or.inr ⟨rfl, fun _ => rfl⟩
  | startStream streamId answers =>
      cases hevent
      exact Or.inr ⟨rfl, fun _ => rfl⟩
  | stopStream streamId answers =>
      cases hevent
      exact Or.inr ⟨rfl, fun _ => rfl⟩

theorem destroyStream_of_some {streamId sessionId : ℤ}
    (hstream : manager.streamMap[streamId]? = some sessionId)
    (hsession : manager.sessions.getAbilityConnectionSession sessionId ≠ none) :
    manager.destroyStream streamId = (⟨0, none⟩,
      { (manager.onSession sessionId StreamEngines.destroyStream).2 with
        streamMap := manager.streamMap.erase streamId }) := by
  obtain ⟨session, hsession⟩ := Option.ne_none_iff_exists'.mp hsession
  rw [destroyStream, onStream_of_some hstream, onSession_of_some hsession]
  rfl

theorem destroyStream_of_none {streamId : ℤ}
    (hstream : manager.streamMap[streamId]? = none) :
    manager.destroyStream streamId =
      (⟨CollabErr.invalidParametersErr.code, none⟩,
        { manager with streamMap := manager.streamMap.insert streamId 0 }) := by
  rw [destroyStream, onStream_of_none hstream]
  rfl

end Steps

section Runs

variable {manager : StreamManager} {live : Set (ℤ × ℤ)}

theorem keepsStreams_operation_iff (hholds : HoldsExactly manager live)
    (howned : manager.Owned) {event : StreamCall} {streamId : ℤ}
    {operation : EngineOperation}
    (hevent : event.operation? = some (streamId, operation)) :
    KeepsStreams (manager, live) event ↔
      manager.streamMap[streamId]? ≠ none := by
  cases hstream : manager.streamMap[streamId]? with
  | none =>
      refine iff_of_false (fun hkeeps => ?_) (fun hsome => hsome rfl)
      have hnone : ∀ sessionId, (streamId, sessionId) ∉ live := by
        intro sessionId hmem
        rw [← hholds, hstream] at hmem
        cases hmem
      have hmap : (manager.step event).2.streamMap =
          manager.streamMap.insert streamId 0 := by
        rcases @step_operation manager live _ _ _ hevent with
          ⟨rfl, -⟩ | ⟨hstep, -⟩
        · rw [step, destroyStream_of_none hstream]
        · rw [hstep, onStream_of_none hstream]
      have hsame := (hkeeps.unknown streamId operation hevent hnone).2
      have hzero : manager.streamMap[streamId]? = some 0 := by
        rw [← hsame, hmap, getElem?_insert_eq, if_pos rfl]
      rw [hstream] at hzero
      cases hzero
  | some sessionId =>
      refine iff_of_true ?_ (Option.some_ne_none sessionId)
      have hmem := (hholds streamId sessionId).mp hstream
      have hsession := howned streamId sessionId hstream
      have hacts := @actsOn_onSession _ _ operation hsession
      have hown : ∀ other, (streamId, other) ∈ live → other = sessionId := by
        intro other hother
        rw [← hholds, hstream] at hother
        exact (Option.some.inj hother).symm
      rcases @step_operation manager live _ _ _ hevent with
        ⟨rfl, rfl⟩ | ⟨hstep, hlive⟩
      · have hstep := destroyStream_of_some hstream hsession
        refine ⟨?_, ?_, ?_⟩
        · intro found other
          dsimp only [trackedStep, step]
          rw [hstep, liveAfter, if_pos rfl, getElem?_erase_eq]
          split_ifs with hsame
          · subst hsame
            simp
          · rw [hholds]
            exact (and_iff_left (Ne.symm hsame)).symm
        · rintro _ _ ⟨⟩ hunknown
          exact absurd hmem (hunknown sessionId)
        · rintro _ other _ ⟨⟩ hother
          rw [hown other hother, step, hstep]
          obtain ⟨session, hfound, hdone, hothers⟩ := hacts
          refine ⟨session, hfound, ?_, hothers⟩
          rw [onSession_of_some hfound] at hdone
          rw [onSession_of_some hfound]
          exact hdone
      · refine ⟨?_, ?_, ?_⟩
        · rw [trackedStep, hlive, hstep, onStream_of_some hstream]
          unfold HoldsExactly
          rw [streamMap_onSession]
          exact hholds
        · intro found _ hfound hunknown
          rw [hevent] at hfound
          cases hfound
          exact absurd hmem (hunknown sessionId)
        · intro found other _ hfound hother
          rw [hevent] at hfound
          cases hfound
          rw [hown other hother, hstep, onStream_of_some hstream]
          exact hacts

theorem keepsStreams_iff (hholds : HoldsExactly manager live)
    (howned : manager.Owned) (event : StreamCall) :
    KeepsStreams (manager, live) event ↔ manager.EventSound event := by
  cases event with
  | session event => exact keepsStreams_session_iff hholds event
  | createStream sessionId role =>
      exact keepsStreams_createStream_iff hholds sessionId role
  | _ =>
      rw [keepsStreams_operation_iff hholds howned rfl]
      constructor
      · rintro hknown _ _ ⟨⟩
        exact hknown
      · exact fun hsound => hsound _ _ rfl

theorem owned_step (howned : manager.Owned) {event : StreamCall}
    (hsound : manager.EventSound event) : (manager.step event).2.Owned := by
  cases hevent : event.operation? with
  | some named =>
      obtain ⟨streamId, operation⟩ := named
      have hknown : manager.streamMap[streamId]? ≠ none := by
        cases event with
        | session event => cases hevent
        | createStream sessionId role => cases hevent
        | _ => exact hsound streamId operation hevent
      obtain ⟨sessionId, hstream⟩ := Option.ne_none_iff_exists'.mp hknown
      rcases @step_operation manager ∅ _ _ _ hevent with
        ⟨rfl, -⟩ | ⟨hstep, -⟩
      · have hsession := howned streamId sessionId hstream
        intro found other hfound
        rw [step, destroyStream_of_some hstream hsession] at hfound ⊢
        rw [getElem?_erase_eq] at hfound
        split_ifs at hfound
        rw [sessions_onSession]
        exact howned found other hfound
      · rw [hstep, onStream_of_some hstream]
        intro found other hfound
        rw [streamMap_onSession] at hfound
        rw [sessions_onSession]
        exact howned found other hfound
  | none =>
      cases event with
      | session event =>
          intro streamId other hstream
          have hfound := howned streamId other hstream
          refine found_step event ?_ hfound
          rintro rfl
          exact hsound hfound streamId hstream
      | createStream sessionId role =>
          have hsessions : (manager.createStream sessionId role).2.sessions =
              manager.sessions := by
            unfold createStream
            dsimp only
            split_ifs <;> exact sessions_onSession
          intro streamId other hstream
          rw [step] at hstream ⊢
          rw [hsessions]
          rcases manager.createStream_cases sessionId role with
            ⟨-, -, hmap⟩ | ⟨⟨session, hsession, -⟩, -, hmap⟩
          · rw [hmap] at hstream
            exact howned streamId other hstream
          · rw [hmap, getElem?_insert_eq] at hstream
            split_ifs at hstream
            · cases hstream
              rw [hsession]
              exact Option.some_ne_none session
            · exact howned streamId other hstream
      | _ => cases hevent

/-- The map holds exactly the streams of the sessions after every step, and every
call on a stream does what it should, in exactly the runs whose steps are
sound. -/
theorem meets_keepsStreams_iff (events : List StreamCall) :
    Meets trackedStep KeepsStreams (({} : StreamManager), ∅) events ↔
      Meets trackedStep (fun tracked => tracked.1.EventSound)
        (({} : StreamManager), ∅) events := by
  have hgood : ∀ (tracked : StreamManager × Set (ℤ × ℤ)) (event : StreamCall),
      HoldsExactly tracked.1 tracked.2 ∧ tracked.1.Owned →
      (KeepsStreams tracked event ↔ tracked.1.EventSound event) :=
    fun _ event hinv => keepsStreams_iff hinv.1 hinv.2 event
  refine meets_iff_of_invariant hgood ?_ events ⟨?_, ?_⟩
  · intro tracked event hinv hsound
    exact ⟨((hgood tracked event hinv).mpr hsound).holds,
      owned_step hinv.2 hsound⟩
  · intro streamId sessionId
    simp
  · intro streamId sessionId hstream
    simp at hstream

/-- A surface is asked for with a stream id that was never given out. -/
theorem not_keepsStreams_unknownStream :
    ¬ Meets trackedStep KeepsStreams (({} : StreamManager), ∅)
      [.getSurfaceId 7 ⟨0, 0, 0, 0, 0⟩ {}] := by
  rintro ⟨hkeeps, -⟩
  have hnone := (hkeeps.holds 7 0).mp (by decide)
  exact hnone

end Runs

end StreamManager

end Dmsfwk
