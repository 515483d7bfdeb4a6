import Dmsfwk.CollabRegistry

/-!
# Requests to the manager of the collaborations

Applications, the ability manager, timers and peers name a collaboration by its
token, some of them through tasks that run later, and the collaboration may be
gone by then.  The manager looks the token up each time; one of the requests
goes on when it found nothing, and the number of a received command is an index
before anything else is known of it.
-/

namespace Dmsfwk

open CJson CollabRoles EventRun OrderedMap

/-! ## Data model -/

inductive CollabTask where
  | handleCollabPrepareResult (collabToken : Text) (result : ℤ)
      (collabSessionId : Int32) (socketName : Text)
  | handleDataRecv (softbusSessionId : ℤ) (dataBuffer : Option Text)

/-- `timeouts` has the names of the tasks of `SetTimeOut`. -/
structure CollabManager (Params : Type) where
  collabs : Std.TreeMap Text (PeerCollab Params) := ∅
  timeouts : List Text := []
  tasks : List CollabTask := []

/-- The requests with the answers of other services, the first task, a time-out,
and an event of the thread of a collaboration. -/
inductive CollabRequest (Params : Type) where
  | collabMission (mission : DSchedCollabInfo Params) (localDevId : Option Text)
      (sinkFound : Bool)
  | handleCollabMission (mission : DSchedCollabInfo Params)
  | notifyStartAbilityResult (collabToken : Text) (result : ℤ)
      (pid uid accessToken : Int32)
  | notifySinkPrepareResult (collabToken : Text) (result : ℤ)
      (collabSessionId : Int32) (socketName : Text)
  | notifySinkRejectReason (collabToken reason : Text)
  | notifySessionClose (collabToken : Text)
  | onDataRecv (softbusSessionId : ℤ) (dataBuffer : Option Text)
  | runTask (localDevId : Option Text) (answers : RunAnswers) (empty : Params)
  | timeout (collabToken : Text)
  | cleanUpSession (collabToken : Text)
  | process (collabToken : Text) (answers : RunAnswers) (sessionId : ℤ)

/-- The collaboration that was found for a token is dereferenced, or none; the
texts of the commands are read at a number. -/
inductive CollabAccess where
  | collab (found : Option Text)
  | cmdData (command : Int32)

structure CollabReply where
  ret : Option ℤ := none
  accesses : List CollabAccess := []

def sinkGetVersionCmd : Int32 := 1

def sourceGetVersionCmd : Int32 := 2

def sinkStartCmd : Int32 := 3

def notifyResultCmd : Int32 := 4

def disconnectCmd : Int32 := 5

def maxCmd : Int32 := 6

def findRemoteDeviceidErr : ℤ := 29360332

def findLocalDeviceidErr : ℤ := 29360334

/-! ## Received commands -/

/-- `UnmarshalSinkInfo`: the members up to the first one that is missing. -/
def NotifyResultCmd.unmarshalSinkInfo (cmd : NotifyResultCmd) (root : Json) :
    NotifyResultCmd :=
  match root.getNumber "SinkPid" with
  | none => cmd
  | some sinkPid =>
      match root.getNumber "SinkUserId" with
      | none => { cmd with sinkPid }
      | some sinkUserId =>
          match root.getNumber "SinkAccessToken" with
          | none => { cmd with sinkPid, sinkUserId }
          | some sinkAccessToken =>
              match root.getNumber "SinkAccountId" with
              | none => { cmd with sinkPid, sinkUserId, sinkAccessToken }
              | some sinkAccountId =>
                  { cmd with
                    sinkPid, sinkUserId, sinkAccessToken, sinkAccountId }

def NotifyResultCmd.unmarshal (cjson : Library) (jsonStr : Text) :
    Option NotifyResultCmd := do
  let root ← cjson.parse (cStr jsonStr)
  let baseCmdStr ← root.getString "BaseCmd"
  let _ ← ({} : BaseCmd).unmarshal cjson baseCmdStr
  let sinkCollabSessionId ← root.getNumber "SinkCollabSessionId"
  let result ← root.getNumber "Result"
  let sinkSocketName ← root.getString "SinkSocketName"
  let abilityRejectReason := (root.getString "AbilityRejectReason").getD []
  let cmd : NotifyResultCmd := {
    result := result.toInt
    sinkCollabSessionId, sinkSocketName, abilityRejectReason }
  return cmd.unmarshalSinkInfo root

/-- The switch of `DSchedCollab::OnDataRecv`. -/
def receivedCmd {Params : Type} (cjson : Library)
    (parcels : ParcelLibrary Params) (empty : Params) (command : Int32)
    (jsonStr : Text) : ReceivedCmd Params :=
  if command = sourceGetVersionCmd then
    match ({} : GetSinkCollabVersionCmd).unmarshal cjson jsonStr with
    | some cmd => .sourceGetVersion cmd.sinkCollabVersion
    | none => .unmarshalFailed
  else if command = sinkStartCmd then
    match ({ startParams := empty, messageParams := empty } :
        SinkStartCmd Params).unmarshal cjson parcels jsonStr with
    | some cmd => .sinkStart cmd
    | none => .unmarshalFailed
  else if command = notifyResultCmd then
    match NotifyResultCmd.unmarshal cjson jsonStr with
    | some cmd => .notifyResult cmd
    | none => .unmarshalFailed
  else if command = disconnectCmd then .disconnect
  else .invalid

def readCommand (cjson : Library) (jsonStr : Text) : Option (Int32 × Text) := do
  let rootValue ← cjson.parse (cStr jsonStr)
  let baseCmd ← rootValue.getString "BaseCmd"
  let cmdValue ← cjson.parse (cStr baseCmd)
  let command ← cmdValue.getNumber "Command"
  let collabToken ← cmdValue.getString "CollabToken"
  return (command, collabToken)

def sinkVersionCmd (cjson : Library) (command : Int32) (jsonStr : Text)
    (localDevId : Option Text) : Option GetSinkCollabVersionCmd :=
  if command = sinkGetVersionCmd then
    (({} : GetSinkCollabVersionCmd).unmarshal cjson jsonStr).filter fun cmd =>
      localDevId = some cmd.base.sinkDeviceId
  else none

namespace PeerCollab

variable {Params : Type}

def request (input : CollabInput Params) (entry : PeerCollab Params) :
    PeerCollab Params :=
  { entry with running := (entry.running.step input).2 }

def startSource (entry : PeerCollab Params) : PeerCollab Params :=
  { entry with
    running := { entry.running with
      collab := { entry.running.collab with state := .sourceStart }.post
        .sourceStart } }

end PeerCollab

namespace CollabManager

variable {Params : Type}

/-! ## Steps -/

def getDSchedCollabByTokenId (manager : CollabManager Params) (tokenId : Text) :
    Option (PeerCollab Params) :=
  if tokenId = [] then none else manager.collabs[tokenId]?

def removeTimeout (manager : CollabManager Params) (collabToken : Text) :
    CollabManager Params :=
  { manager with timeouts := manager.timeouts.filter (· ≠ collabToken) }

def cleanUpSession (manager : CollabManager Params) (collabToken : Text) :
    CollabReply × CollabManager Params :=
  match manager.getDSchedCollabByTokenId collabToken with
  | none => ({ ret := some invalidParametersErr }, manager)
  | some _ =>
      let removed := manager.removeTimeout collabToken
      ({ ret := some errOk },
        { removed with collabs := removed.collabs.erase collabToken })

def update (manager : CollabManager Params) (key : Text)
    (change : PeerCollab Params → PeerCollab Params) : CollabManager Params :=
  match manager.collabs[key]? with
  | none => manager
  | some entry =>
      let updated :=
        { manager with collabs := manager.collabs.insert key (change entry) }
      if (change entry).removed && !entry.removed then
        (updated.cleanUpSession (change entry).collabToken).2
      else updated

def onCollab (manager : CollabManager Params) (collabToken : Text)
    (change : PeerCollab Params → PeerCollab Params) :
    CollabReply × CollabManager Params :=
  match manager.getDSchedCollabByTokenId collabToken with
  | none => ({ ret := some invalidParametersErr }, manager)
  | some _ =>
      ({ ret := some errOk, accesses := [.collab (some collabToken)] },
        manager.update collabToken change)

def collabMission (manager : CollabManager Params)
    (mission : DSchedCollabInfo Params) (localDevId : Option Text)
    (sinkFound : Bool) : CollabReply × CollabManager Params :=
  if ¬ mission.ValidMission then ({ ret := some invalidParametersErr }, manager)
  else match localDevId with
    | none => ({ ret := some findLocalDeviceidErr }, manager)
    | some deviceId =>
        if !sinkFound then ({ ret := some findRemoteDeviceidErr }, manager)
        else manager.onCollab mission.collabToken (·.request
          (.collabMission
            { mission with srcInfo := { mission.srcInfo with deviceId } }))

/-- Without a collaboration `PostErrEndTask` is called on the null pointer. -/
def handleCollabMission (manager : CollabManager Params)
    (mission : DSchedCollabInfo Params) : CollabReply × CollabManager Params :=
  match manager.getDSchedCollabByTokenId mission.collabToken with
  | none => ({ accesses := [.collab none] }, manager)
  | some _ =>
      ({ accesses := [.collab (some mission.collabToken)] },
        manager.update mission.collabToken PeerCollab.startSource)

def handleCollabPrepareResult (manager : CollabManager Params)
    (collabToken : Text) (result : ℤ) (collabSessionId : Int32)
    (socketName : Text) : CollabReply × CollabManager Params :=
  match manager.getDSchedCollabByTokenId collabToken with
  | none => ({}, manager)
  | some _ =>
      ({ accesses := [.collab (some collabToken)] },
        (manager.update collabToken (·.request
          (.notifySinkPrepareResult result collabSessionId
            socketName))).removeTimeout collabToken)

/-- `insert` leaves an entry that is there. -/
def acceptVersion (manager : CollabManager Params) (softbusSessionId : ℤ)
    (cmd : GetSinkCollabVersionCmd) (empty : Params) : CollabManager Params :=
  let newCollab : PeerCollab Params := {
    running := RunningCollab.createSink cmd empty
    softbusSessionId }
  { manager with
    collabs := manager.collabs.insertIfNew cmd.base.collabToken newCollab
    timeouts := manager.timeouts ++ [cmd.base.collabToken] }

section Received

-- the libraries, and the parameters before a start command is read
variable (cjson : Library) (parcels : ParcelLibrary Params)

def notifyDataRecv (manager : CollabManager Params) (softbusSessionId : ℤ)
    (command : Int32) (jsonStr collabToken : Text) (localDevId : Option Text)
    (answers : RunAnswers) (empty : Params) :
    CollabReply × CollabManager Params :=
  match firstMatch manager.collabs fun entry =>
      softbusSessionId = entry.softbusSessionId ∧
        collabToken = entry.collabToken with
  | some (key, _) =>
      let received := manager.update key (·.request
        (.recv answers (receivedCmd cjson parcels empty command jsonStr)))
      ({ accesses := [.cmdData command, .collab (some key)] },
        if command = notifyResultCmd then received.removeTimeout key
        else received)
  | none =>
      ({ accesses := [.cmdData command] },
        match sinkVersionCmd cjson command jsonStr localDevId with
        | some cmd => manager.acceptVersion softbusSessionId cmd empty
        | none => manager)

def runTask (manager : CollabManager Params) (localDevId : Option Text)
    (answers : RunAnswers) (empty : Params) :
    CollabReply × CollabManager Params :=
  match manager.tasks with
  | [] => ({}, manager)
  | .handleCollabPrepareResult collabToken result collabSessionId socketName ::
      tasks =>
      { manager with tasks }.handleCollabPrepareResult collabToken result
        collabSessionId socketName
  | .handleDataRecv softbusSessionId dataBuffer :: tasks =>
      match dataBuffer with
      | none => ({}, { manager with tasks })
      | some data =>
          match readCommand cjson data with
          | none => ({}, { manager with tasks })
          | some (command, collabToken) =>
              { manager with tasks }.notifyDataRecv cjson parcels
                softbusSessionId command data collabToken localDevId answers
                empty

def onTimeout (manager : CollabManager Params) (collabToken : Text) :
    CollabReply × CollabManager Params :=
  if collabToken ∉ manager.timeouts then ({}, manager)
  else
    let fired :=
      { manager with timeouts := manager.timeouts.erase collabToken }
    match fired.collabs[collabToken]? with
    | none => ({}, fired)
    | some _ =>
        ({ accesses := [.collab (some collabToken)] },
          fired.update collabToken (·.request .timeout))

def step (manager : CollabManager Params) :
    CollabRequest Params → CollabReply × CollabManager Params
  | .collabMission mission localDevId sinkFound =>
      manager.collabMission mission localDevId sinkFound
  | .handleCollabMission mission => manager.handleCollabMission mission
  | .notifyStartAbilityResult collabToken result pid uid accessToken =>
      manager.onCollab collabToken
        (·.request (.notifyStartAbilityResult result pid uid accessToken))
  | .notifySinkPrepareResult collabToken result collabSessionId socketName =>
      ({ ret := some errOk },
        { manager with tasks := manager.tasks ++
          [.handleCollabPrepareResult collabToken result collabSessionId
            socketName] })
  | .notifySinkRejectReason collabToken reason =>
      manager.onCollab collabToken (·.request (.notifySinkRejectReason reason))
  | .notifySessionClose collabToken =>
      manager.onCollab collabToken (·.request .endTask)
  | .onDataRecv softbusSessionId dataBuffer =>
      ({}, { manager with
        tasks := manager.tasks ++ [.handleDataRecv softbusSessionId dataBuffer] })
  | .runTask localDevId answers empty =>
      manager.runTask cjson parcels localDevId answers empty
  | .timeout collabToken => manager.onTimeout collabToken
  | .cleanUpSession collabToken => manager.cleanUpSession collabToken
  | .process collabToken answers sessionId =>
      ({}, manager.update collabToken
        fun entry => (entry.step (.process answers) sessionId).2)

/-! ## What should hold -/

def nextCommand (manager : CollabManager Params) :
    Option (Text × Int32 × Text) :=
  match manager.tasks with
  | .handleDataRecv _ (some data) :: _ => (readCommand cjson data).map (data, ·)
  | _ => none

def askedToken (manager : CollabManager Params) :
    CollabRequest Params → Option Text
  | .collabMission mission _ _ | .handleCollabMission mission =>
      some mission.collabToken
  | .notifyStartAbilityResult collabToken _ _ _ _
  | .notifySinkPrepareResult collabToken _ _ _
  | .notifySinkRejectReason collabToken _
  | .notifySessionClose collabToken
  | .cleanUpSession collabToken => some collabToken
  | .onDataRecv _ dataBuffer =>
      (dataBuffer.bind (readCommand cjson)).map Prod.snd
  | .runTask _ _ _ =>
      match manager.tasks with
      | .handleCollabPrepareResult collabToken _ _ _ :: _ => some collabToken
      | _ => (manager.nextCommand cjson).map fun next => next.2.2
  | .timeout _ | .process _ _ _ => none

def acceptedVersion (manager : CollabManager Params) :
    CollabRequest Params → Option GetSinkCollabVersionCmd
  | .runTask localDevId _ _ =>
      (manager.nextCommand cjson).bind fun next =>
        sinkVersionCmd cjson next.2.1 next.1 localDevId
  | _ => none

end Received

def Known (command : Int32) : Prop :=
  0 ≤ command ∧ command ≤ maxCmd

def Inside (manager : CollabManager Params) : CollabAccess → Prop
  | .collab found => ∃ collabToken, found = some collabToken ∧
      collabToken ∈ manager.collabs
  | .cmdData command => Known command

def SameBooks (manager next : CollabManager Params) : Prop :=
  next.collabs = manager.collabs ∧ next.timeouts = manager.timeouts

def AddsToken (manager next : CollabManager Params) (collabToken : Text) :
    Prop :=
  (∃ newCollab : PeerCollab Params, newCollab.collabToken = collabToken ∧
      ∀ key : Text, next.collabs[key]? =
        if collabToken = key then some newCollab else manager.collabs[key]?) ∧
    next.timeouts = manager.timeouts ++ [collabToken]

section Properties

variable (cjson : Library) (parcels : ParcelLibrary Params)

/-- Nothing outside is read, and a request with a token that is not in the map
leaves the map and the time-outs, or is a version command and adds its own. -/
structure Harmless (manager : CollabManager Params)
    (request : CollabRequest Params) : Prop where
  inside : ∀ access ∈ (manager.step cjson parcels request).1.accesses,
    manager.Inside access
  unknown : ∀ collabToken, manager.askedToken cjson request = some collabToken →
    collabToken ∉ manager.collabs →
    match manager.acceptedVersion cjson request with
    | none => manager.SameBooks (manager.step cjson parcels request).2
    | some _ =>
        manager.AddsToken (manager.step cjson parcels request).2 collabToken

/-- A mission that `HandleCollabMission` gets is there, and a command that the
first task has is known. -/
def RequestSound (manager : CollabManager Params) :
    CollabRequest Params → Prop
  | .handleCollabMission mission =>
      mission.collabToken ≠ [] ∧ mission.collabToken ∈ manager.collabs
  | .runTask _ _ _ =>
      ∀ next, manager.nextCommand cjson = some next → Known next.2.1
  | _ => True

end Properties

def Keyed (manager : CollabManager Params) : Prop :=
  ∀ (key : Text) (entry : PeerCollab Params),
    manager.collabs[key]? = some entry → entry.collabToken = key

/-! ## Lookups -/

section Lookups

variable {manager : CollabManager Params} {collabToken : Text}

theorem getDSchedCollabByTokenId_eq_none_iff :
    manager.getDSchedCollabByTokenId collabToken = none ↔
      ¬ (collabToken ≠ [] ∧ collabToken ∈ manager.collabs) := by
  rw [getDSchedCollabByTokenId, Std.TreeMap.mem_iff_isSome_getElem?]
  split_ifs with hempty
  · simp [hempty]
  · simp [hempty]

theorem getDSchedCollabByTokenId_of_notMem
    (hunknown : collabToken ∉ manager.collabs) :
    manager.getDSchedCollabByTokenId collabToken = none :=
  getDSchedCollabByTokenId_eq_none_iff.mpr fun h => hunknown h.2

theorem mem_of_getDSchedCollabByTokenId {entry : PeerCollab Params}
    (hentry : manager.getDSchedCollabByTokenId collabToken = some entry) :
    collabToken ∈ manager.collabs := by
  by_contra hunknown
  rw [getDSchedCollabByTokenId_of_notMem hunknown] at hentry
  cases hentry

theorem mem_of_getElem? {entry : PeerCollab Params}
    (hentry : manager.collabs[collabToken]? = some entry) :
    collabToken ∈ manager.collabs := by
  rw [Std.TreeMap.mem_iff_isSome_getElem?, hentry]
  rfl

theorem Keyed.firstMatch_none (hkeyed : manager.Keyed)
    (hunknown : collabToken ∉ manager.collabs) (softbusSessionId : ℤ) :
    (firstMatch manager.collabs fun entry =>
      softbusSessionId = entry.softbusSessionId ∧
        collabToken = entry.collabToken) = none := by
  refine firstMatch_eq_none.mpr fun key entry hentry => ?_
  rw [decide_eq_false_iff_not]
  rintro ⟨-, rfl⟩
  rw [hkeyed key entry hentry] at hunknown
  exact hunknown (mem_of_getElem? hentry)

end Lookups

/-! ## The token of a version command -/

theorem collabToken_read {cmd read : BaseCmd} {root : Json}
    (hread : cmd.read root = some read) :
    root.getString "CollabToken" = some read.collabToken := by
  unfold BaseCmd.read at hread
  iterate 4 obtain ⟨_, -, hread⟩ := Option.bind_eq_some_iff.mp hread
  obtain ⟨token, htoken, hread⟩ := Option.bind_eq_some_iff.mp hread
  iterate 13 obtain ⟨_, -, hread⟩ := Option.bind_eq_some_iff.mp hread
  cases hread
  exact htoken

theorem collabToken_sinkVersionCmd {cjson : Library} {command : Int32}
    {jsonStr collabToken : Text} {localDevId : Option Text}
    {cmd : GetSinkCollabVersionCmd}
    (hread : readCommand cjson jsonStr = some (command, collabToken))
    (hcmd : sinkVersionCmd cjson command jsonStr localDevId = some cmd) :
    cmd.base.collabToken = collabToken := by
  obtain ⟨root, hroot, hread⟩ := Option.bind_eq_some_iff.mp hread
  obtain ⟨baseCmd, hbaseCmd, hread⟩ := Option.bind_eq_some_iff.mp hread
  obtain ⟨cmdValue, hcmdValue, hread⟩ := Option.bind_eq_some_iff.mp hread
  obtain ⟨_, -, hread⟩ := Option.bind_eq_some_iff.mp hread
  obtain ⟨token, htoken, hread⟩ := Option.bind_eq_some_iff.mp hread
  cases hread
  rw [sinkVersionCmd] at hcmd
  split_ifs at hcmd
  have hunmarshal := (Option.filter_eq_some_iff.mp hcmd).1
  obtain ⟨root', hroot', hunmarshal⟩ := Option.bind_eq_some_iff.mp hunmarshal
  obtain ⟨baseCmd', hbaseCmd', hunmarshal⟩ :=
    Option.bind_eq_some_iff.mp hunmarshal
  obtain ⟨base, hbase, hunmarshal⟩ := Option.bind_eq_some_iff.mp hunmarshal
  iterate 4 obtain ⟨_, -, hunmarshal⟩ := Option.bind_eq_some_iff.mp hunmarshal
  cases hunmarshal
  obtain ⟨cmdValue', hcmdValue', hbase⟩ := Option.bind_eq_some_iff.mp hbase
  rw [hroot] at hroot'
  obtain rfl := Option.some.inj hroot'
  rw [hbaseCmd] at hbaseCmd'
  obtain rfl := Option.some.inj hbaseCmd'
  rw [hcmdValue] at hcmdValue'
  obtain rfl := Option.some.inj hcmdValue'
  have hsame := htoken.symm.trans (collabToken_read hbase)
  exact (Option.some.inj hsame).symm

/-! ## The keys -/

section Keys

variable {manager : CollabManager Params} {collabToken : Text}
  {change : PeerCollab Params → PeerCollab Params}

theorem Keyed.cleanUpSession (hkeyed : manager.Keyed) (collabToken : Text) :
    (manager.cleanUpSession collabToken).2.Keyed := by
  rw [CollabManager.cleanUpSession]
  split
  · exact hkeyed
  · intro key entry hentry
    dsimp only [removeTimeout] at hentry
    rw [getElem?_erase_eq] at hentry
    split_ifs at hentry
    exact hkeyed key entry hentry

theorem Keyed.update (hkeyed : manager.Keyed) (key : Text)
    (hchange : ∀ entry, (change entry).collabToken = entry.collabToken) :
    (manager.update key change).Keyed := by
  rw [CollabManager.update]
  cases hentry : manager.collabs[key]? with
  | none => exact hkeyed
  | some entry =>
      have hupdated : Keyed { manager with
          collabs := manager.collabs.insert key (change entry) } := by
        intro other found hfound
        dsimp only at hfound
        rw [getElem?_insert_eq] at hfound
        split_ifs at hfound with hsame
        · cases hfound
          rw [hchange, hkeyed key entry hentry, hsame]
        · exact hkeyed other found hfound
      dsimp only
      split_ifs
      · exact hupdated.cleanUpSession _
      · exact hupdated

theorem Keyed.onCollab (hkeyed : manager.Keyed)
    (hchange : ∀ entry, (change entry).collabToken = entry.collabToken) :
    (manager.onCollab collabToken change).2.Keyed := by
  rw [CollabManager.onCollab]
  split
  · exact hkeyed
  · exact hkeyed.update collabToken hchange

theorem Keyed.acceptVersion (hkeyed : manager.Keyed) (softbusSessionId : ℤ)
    (cmd : GetSinkCollabVersionCmd) (empty : Params) :
    (manager.acceptVersion softbusSessionId cmd empty).Keyed := by
  intro key entry hentry
  dsimp only [CollabManager.acceptVersion] at hentry
  rw [getElem?_insertIfNew] at hentry
  split_ifs at hentry with hnew
  · cases hentry
    exact hnew.1
  · exact hkeyed key entry hentry

theorem collabToken_request (input : CollabInput Params)
    (entry : PeerCollab Params) :
    (entry.request input).collabToken = entry.collabToken :=
  RunningCollab.collabToken_step

variable {cjson : Library} {parcels : ParcelLibrary Params}

theorem Keyed.runTask (hkeyed : manager.Keyed) (localDevId : Option Text)
    (answers : RunAnswers) (empty : Params) :
    (manager.runTask cjson parcels localDevId answers empty).2.Keyed := by
  rw [CollabManager.runTask]
  split
  · exact hkeyed
  · next tasks _ =>
      have hrest : Keyed { manager with tasks } := hkeyed
      rw [handleCollabPrepareResult]
      split
      · exact hrest
      · exact hrest.update _ (collabToken_request _)
  · next tasks _ =>
      have hrest : Keyed { manager with tasks } := hkeyed
      split
      · exact hrest
      · split
        · exact hrest
        · rw [notifyDataRecv]
          split
          · dsimp only
            split_ifs
            · exact hrest.update _ (collabToken_request _)
            · exact hrest.update _ (collabToken_request _)
          · dsimp only
            split
            · exact hrest.acceptVersion _ _ _
            · exact hrest

theorem collabMission_cases (manager : CollabManager Params)
    (mission : DSchedCollabInfo Params) (localDevId : Option Text)
    (sinkFound : Bool) :
    (∃ ret, manager.collabMission mission localDevId sinkFound =
      ({ ret }, manager)) ∨
    ∃ input, manager.collabMission mission localDevId sinkFound =
      manager.onCollab mission.collabToken (PeerCollab.request input) := by
  by_cases hvalid : mission.ValidMission
  · cases localDevId with
    | none => exact Or.inl ⟨_, if_neg (not_not.mpr hvalid)⟩
    | some deviceId =>
        cases sinkFound with
        | false => exact Or.inl ⟨_, if_neg (not_not.mpr hvalid)⟩
        | true => exact Or.inr ⟨_, if_neg (not_not.mpr hvalid)⟩
  · exact Or.inl ⟨_, if_pos hvalid⟩

theorem Keyed.step (hkeyed : manager.Keyed) (request : CollabRequest Params) :
    (manager.step cjson parcels request).2.Keyed := by
  cases request with
  | collabMission mission localDevId sinkFound =>
      rcases collabMission_cases manager mission localDevId sinkFound with
        ⟨ret, hmission⟩ | ⟨input, hmission⟩
      · rw [CollabManager.step, hmission]
        exact hkeyed
      · rw [CollabManager.step, hmission]
        exact hkeyed.onCollab (collabToken_request input)
  | handleCollabMission mission =>
      rw [CollabManager.step, handleCollabMission]
      split
      · exact hkeyed
      · exact hkeyed.update _ fun _ => rfl
  | notifyStartAbilityResult collabToken result pid uid accessToken =>
      exact hkeyed.onCollab (collabToken_request _)
  | notifySinkPrepareResult collabToken result collabSessionId socketName =>
      exact hkeyed
  | notifySinkRejectReason collabToken reason =>
      exact hkeyed.onCollab (collabToken_request _)
  | notifySessionClose collabToken =>
      exact hkeyed.onCollab (collabToken_request _)
  | onDataRecv softbusSessionId dataBuffer => exact hkeyed
  | runTask localDevId answers empty =>
      exact hkeyed.runTask localDevId answers empty
  | timeout collabToken =>
      rw [CollabManager.step, onTimeout]
      split
      · exact hkeyed
      · have hfired : Keyed { manager with
            timeouts := manager.timeouts.erase collabToken } := hkeyed
        dsimp only
        split
        · exact hfired
        · exact hfired.update _ (collabToken_request _)
  | cleanUpSession collabToken => exact hkeyed.cleanUpSession collabToken
  | process collabToken answers sessionId =>
      exact hkeyed.update _
        (PeerCollab.continues_step (.process answers) sessionId).collabToken

end Keys

/-! ## One step -/

section Steps

variable {manager : CollabManager Params} {collabToken : Text}
  {change : PeerCollab Params → PeerCollab Params}
  {cjson : Library} {parcels : ParcelLibrary Params}

theorem inside_onCollab :
    ∀ access ∈ (manager.onCollab collabToken change).1.accesses,
      manager.Inside access := by
  rw [onCollab]
  split
  · simp
  · next hentry =>
      intro access haccess
      rw [List.mem_singleton.mp haccess]
      exact ⟨_, rfl, mem_of_getDSchedCollabByTokenId hentry⟩

theorem onCollab_unknown (hunknown : collabToken ∉ manager.collabs) :
    (manager.onCollab collabToken change).2 = manager := by
  rw [onCollab, getDSchedCollabByTokenId_of_notMem hunknown]

theorem harmless_onCollab {request : CollabRequest Params}
    (hstep : manager.step cjson parcels request =
      manager.onCollab collabToken change)
    (hasked : manager.askedToken cjson request = some collabToken)
    (haccepted : manager.acceptedVersion cjson request = none) :
    manager.Harmless cjson parcels request where
  inside := by
    rw [hstep]
    exact inside_onCollab
  unknown token htoken hunknown := by
    rw [hasked] at htoken
    cases htoken
    rw [haccepted, hstep, onCollab_unknown hunknown]
    exact ⟨rfl, rfl⟩

theorem harmless_collabMission (mission : DSchedCollabInfo Params)
    (localDevId : Option Text) (sinkFound : Bool) :
    manager.Harmless cjson parcels
      (.collabMission mission localDevId sinkFound) := by
  rcases collabMission_cases manager mission localDevId sinkFound with
    ⟨ret, hmission⟩ | ⟨input, hmission⟩
  · refine ⟨?_, ?_⟩
    · rw [CollabManager.step, hmission]
      simp
    · intro token _ _
      rw [CollabManager.step, hmission]
      exact ⟨rfl, rfl⟩
  · exact harmless_onCollab hmission rfl rfl

theorem harmless_handleCollabMission_iff (mission : DSchedCollabInfo Params) :
    manager.Harmless cjson parcels (.handleCollabMission mission) ↔
      manager.RequestSound cjson (.handleCollabMission mission) := by
  rw [RequestSound]
  cases hentry : manager.getDSchedCollabByTokenId mission.collabToken with
  | none =>
      refine iff_of_false (fun hharmless => ?_)
        (getDSchedCollabByTokenId_eq_none_iff.mp hentry)
      have hinside := hharmless.inside (.collab none)
      rw [CollabManager.step, handleCollabMission, hentry] at hinside
      obtain ⟨_, hnone, -⟩ := hinside (List.mem_singleton_self _)
      cases hnone
  | some entry =>
      have hmem := mem_of_getDSchedCollabByTokenId hentry
      refine iff_of_true ⟨?_, ?_⟩ ?_
      · rw [CollabManager.step, handleCollabMission, hentry]
        intro access haccess
        rw [List.mem_singleton.mp haccess]
        exact ⟨_, rfl, hmem⟩
      · rintro _ ⟨⟩ hunknown
        exact absurd hmem hunknown
      · by_contra hnone
        rw [getDSchedCollabByTokenId_eq_none_iff.mpr hnone] at hentry
        cases hentry

theorem harmless_onTimeout (collabToken : Text) :
    manager.Harmless cjson parcels (.timeout collabToken) := by
  refine ⟨?_, nofun⟩
  rw [CollabManager.step, onTimeout]
  split
  · simp
  · dsimp only
    split
    · simp
    · next hentry =>
        intro access haccess
        rw [List.mem_singleton.mp haccess]
        exact ⟨_, rfl, mem_of_getElem? hentry⟩

theorem harmless_cleanUpSession (collabToken : Text) :
    manager.Harmless cjson parcels (.cleanUpSession collabToken) := by
  refine ⟨?_, ?_⟩
  · rw [CollabManager.step, CollabManager.cleanUpSession]
    split <;> simp
  · rintro _ ⟨⟩ hunknown
    rw [CollabManager.step, CollabManager.cleanUpSession,
      getDSchedCollabByTokenId_of_notMem hunknown]
    exact ⟨rfl, rfl⟩

/-! ### The first task -/

theorem nextCommand_eq_some {data collabToken : Text} {command : Int32}
    (hnext : manager.nextCommand cjson = some (data, command, collabToken)) :
    ∃ softbusSessionId tasks,
      manager.tasks = .handleDataRecv softbusSessionId (some data) :: tasks ∧
      readCommand cjson data = some (command, collabToken) := by
  unfold nextCommand at hnext
  split at hnext
  · next softbusSessionId found tasks htasks =>
      obtain ⟨read, hread, hfound⟩ := Option.map_eq_some_iff.mp hnext
      cases hfound
      exact ⟨softbusSessionId, tasks, htasks, hread⟩
  · cases hnext

section Empty

variable {localDevId : Option Text} {answers : RunAnswers} {empty : Params}

theorem harmless_prepareResult {collabToken socketName : Text} {result : ℤ}
    {collabSessionId : Int32} {tasks : List CollabTask}
    (htasks : manager.tasks = .handleCollabPrepareResult collabToken result
      collabSessionId socketName :: tasks) :
    manager.Harmless cjson parcels (.runTask localDevId answers empty) := by
  have hstep : manager.step cjson parcels (.runTask localDevId answers empty) =
      { manager with tasks }.handleCollabPrepareResult collabToken result
        collabSessionId socketName := by
    rw [CollabManager.step, CollabManager.runTask, htasks]
  refine ⟨?_, ?_⟩
  · rw [hstep, handleCollabPrepareResult]
    split
    · simp
    · next hentry =>
        intro access haccess
        rw [List.mem_singleton.mp haccess]
        exact ⟨_, rfl, mem_of_getDSchedCollabByTokenId hentry⟩
  · intro token htoken hunknown
    rw [askedToken, htasks] at htoken
    cases htoken
    have haccepted : manager.acceptedVersion cjson
        (.runTask localDevId answers empty) = none := by
      rw [acceptedVersion, nextCommand, htasks]
      rfl
    have hnone : getDSchedCollabByTokenId { manager with tasks } collabToken =
        none :=
      getDSchedCollabByTokenId_of_notMem hunknown
    rw [haccepted, hstep, handleCollabPrepareResult, hnone]
    exact ⟨rfl, rfl⟩

theorem harmless_runTask_of_none (hnone : manager.nextCommand cjson = none) :
    manager.Harmless cjson parcels (.runTask localDevId answers empty) := by
  cases htasks : manager.tasks with
  | nil =>
      refine ⟨?_, ?_⟩
      · rw [CollabManager.step, CollabManager.runTask, htasks]
        simp
      · intro token htoken
        rw [askedToken, htasks, hnone] at htoken
        cases htoken
  | cons task tasks =>
      cases task with
      | handleCollabPrepareResult collabToken result collabSessionId socketName =>
          exact harmless_prepareResult htasks
      | handleDataRecv softbusSessionId dataBuffer =>
          refine ⟨?_, ?_⟩
          · rw [CollabManager.step, CollabManager.runTask, htasks]
            cases dataBuffer with
            | none => simp
            | some data =>
                rw [nextCommand, htasks] at hnone
                dsimp only
                rw [Option.map_eq_none_iff.mp hnone]
                simp
          · intro token htoken
            rw [askedToken, htasks, hnone] at htoken
            cases htoken

theorem harmless_runTask_iff (hkeyed : manager.Keyed) {data collabToken : Text}
    {command : Int32}
    (hnext : manager.nextCommand cjson = some (data, command, collabToken)) :
    manager.Harmless cjson parcels (.runTask localDevId answers empty) ↔
      Known command := by
  obtain ⟨softbusSessionId, tasks, htasks, hread⟩ := nextCommand_eq_some hnext
  have hstep : manager.step cjson parcels (.runTask localDevId answers empty) =
      { manager with tasks }.notifyDataRecv cjson parcels softbusSessionId
        command data collabToken localDevId answers empty := by
    rw [CollabManager.step, CollabManager.runTask, htasks]
    dsimp only
    rw [hread]
  constructor
  · intro hharmless
    refine hharmless.inside (.cmdData command) ?_
    rw [hstep, notifyDataRecv]
    split <;> simp
  · intro hknown
    refine ⟨?_, ?_⟩
    · rw [hstep, notifyDataRecv]
      split
      · next hfirst =>
          intro access haccess
          rcases List.mem_pair.mp haccess with rfl | rfl
          · exact hknown
          · exact ⟨_, rfl, mem_of_getElem? (firstMatch_spec hfirst).1⟩
      · intro access haccess
        rw [List.mem_singleton.mp haccess]
        exact hknown
    · intro token htoken hunknown
      rw [askedToken, htasks, hnext] at htoken
      cases htoken
      have hfirst := hkeyed.firstMatch_none hunknown softbusSessionId
      have haccepted : manager.acceptedVersion cjson
          (.runTask localDevId answers empty) =
          sinkVersionCmd cjson command data localDevId := by
        rw [acceptedVersion, hnext]
        rfl
      rw [haccepted, hstep, notifyDataRecv, hfirst]
      cases hversion : sinkVersionCmd cjson command data localDevId with
      | none => exact ⟨rfl, rfl⟩
      | some cmd =>
          have htoken := collabToken_sinkVersionCmd hread hversion
          have hnew : manager.collabs[cmd.base.collabToken]? = none := by
            rw [htoken]
            exact Std.TreeMap.getElem?_eq_none hunknown
          refine ⟨⟨{
            running := RunningCollab.createSink cmd empty
            softbusSessionId }, htoken, fun key => ?_⟩, ?_⟩
          · rw [← htoken]
            exact getElem?_insertIfNew_eq hnew key _
          · rw [← htoken]
            rfl

end Empty

theorem Keyed.harmless_iff (hkeyed : manager.Keyed)
    (request : CollabRequest Params) :
    manager.Harmless cjson parcels request ↔
      manager.RequestSound cjson request := by
  cases request with
  | collabMission mission localDevId sinkFound =>
      exact iff_of_true (harmless_collabMission mission localDevId sinkFound)
        trivial
  | handleCollabMission mission => exact harmless_handleCollabMission_iff mission
  | notifyStartAbilityResult collabToken result pid uid accessToken =>
      exact iff_of_true (harmless_onCollab rfl rfl rfl) trivial
  | notifySinkPrepareResult collabToken result collabSessionId socketName =>
      exact iff_of_true ⟨by simp [CollabManager.step], fun _ _ _ => ⟨rfl, rfl⟩⟩
        trivial
  | notifySinkRejectReason collabToken reason =>
      exact iff_of_true (harmless_onCollab rfl rfl rfl) trivial
  | notifySessionClose collabToken =>
      exact iff_of_true (harmless_onCollab rfl rfl rfl) trivial
  | onDataRecv softbusSessionId dataBuffer =>
      exact iff_of_true ⟨by simp [CollabManager.step], fun _ _ _ => ⟨rfl, rfl⟩⟩
        trivial
  | runTask localDevId answers empty =>
      cases hnext : manager.nextCommand cjson with
      | none =>
          refine iff_of_true (harmless_runTask_of_none hnext) ?_
          intro next hsome
          rw [hnext] at hsome
          cases hsome
      | some next =>
          rw [harmless_runTask_iff hkeyed hnext, RequestSound, hnext]
          simp
  | timeout collabToken => exact iff_of_true (harmless_onTimeout _) trivial
  | cleanUpSession collabToken =>
      exact iff_of_true (harmless_cleanUpSession collabToken) trivial
  | process collabToken answers sessionId =>
      exact iff_of_true ⟨by simp [CollabManager.step], nofun⟩ trivial

end Steps

/-! ## Runs -/

/-- Every step of a run is harmless exactly when the missions of
`HandleCollabMission` are there and the received commands are known. -/
theorem meets_harmless_iff (cjson : Library) (parcels : ParcelLibrary Params)
    {manager : CollabManager Params} (hkeyed : manager.Keyed)
    (requests : List (CollabRequest Params)) :
    Meets (step cjson parcels) (Harmless cjson parcels) manager requests ↔
      Meets (step cjson parcels) (RequestSound cjson) manager requests := by
  refine meets_iff_of_invariant ?_ ?_ requests hkeyed
  · intro manager request hkeyed
    exact hkeyed.harmless_iff request
  · intro manager request hkeyed _
    exact hkeyed.step request

/-- An application closes a session that ended, and the session is cleaned up
again. -/
theorem meets_harmless_endedSession :
    Meets (step ⟨fun _ => none, fun _ => none⟩
        ⟨0, fun _ _ => false, fun _ _ => none, fun _ => none⟩)
      (Harmless ⟨fun _ => none, fun _ => none⟩
        ⟨0, fun _ _ => false, fun _ _ => none, fun _ => none⟩)
      ({} : CollabManager Unit)
      [.notifySessionClose ['t'], .cleanUpSession ['t']] := by
  refine (meets_harmless_iff _ _ ?_ _).mpr ⟨trivial, trivial, trivial⟩
  intro key entry hentry
  cases hentry

/-- `HandleCollabMission` for a collaboration that ended. -/
theorem not_harmless_endedMission :
    ¬ Meets (step ⟨fun _ => none, fun _ => none⟩
        ⟨0, fun _ _ => false, fun _ _ => none, fun _ => none⟩)
      (Harmless ⟨fun _ => none, fun _ => none⟩
        ⟨0, fun _ _ => false, fun _ _ => none, fun _ => none⟩)
      ({} : CollabManager Unit)
      [.handleCollabMission {
        srcCollabSessionId := 1
        collabToken := ['t']
        srcOpt := { startParams := (), messageParams := () } }] := by
  rintro ⟨hharmless, -⟩
  obtain ⟨_, hnone, -⟩ :=
    hharmless.inside (.collab none) (List.mem_singleton_self _)
  cases hnone

end CollabManager
end Dmsfwk
