import Dmsfwk.RunningCollab

/-!
# Whether a running collaboration can be redirected

The permission check, the mission of the client and the connection of the source
are each made for a record.  A history remembers these records; a collaboration
is not redirected when its record stays the one which was checked, started and
connected.
-/

namespace Dmsfwk

open CollabRoles

/-! ## What must not change -/

/-- The fields which `GenerateCollabWant` and `CheckCollabStartPermission`
read. -/
structure CheckedFields where
  srcDeviceId : Text
  srcBundleName : Text
  srcAbilityName : Text
  sinkDeviceId : Text
  sinkBundleName : Text
  sinkAbilityName : Text
  callerInfo : CallerInfo
  srcAccountInfo : AccountInfo

structure MissionFields where
  srcInfo : CollabMessage
  sinkDeviceId : Text
  sinkBundleName : Text
  sinkAbilityName : Text
  deriving DecidableEq

namespace DSchedCollabInfo

variable {Params : Type}

def checkedFields (info : DSchedCollabInfo Params) : CheckedFields where
  srcDeviceId := info.srcInfo.deviceId
  srcBundleName := info.srcInfo.bundleName
  srcAbilityName := info.srcInfo.abilityName
  sinkDeviceId := info.sinkInfo.deviceId
  sinkBundleName := info.sinkInfo.bundleName
  sinkAbilityName := info.sinkInfo.abilityName
  callerInfo := info.callerInfo
  srcAccountInfo := info.srcAccountInfo

def missionFields (info : DSchedCollabInfo Params) : MissionFields where
  srcInfo := info.srcInfo
  sinkDeviceId := info.sinkInfo.deviceId
  sinkBundleName := info.sinkInfo.bundleName
  sinkAbilityName := info.sinkInfo.abilityName

end DSchedCollabInfo

namespace SinkStartCmd

variable {Params : Type}

def checkedFields (cmd : SinkStartCmd Params) : CheckedFields where
  srcDeviceId := cmd.base.srcDeviceId
  srcBundleName := cmd.base.srcBundleName
  srcAbilityName := cmd.base.srcAbilityName
  sinkDeviceId := cmd.base.sinkDeviceId
  sinkBundleName := cmd.base.sinkBundleName
  sinkAbilityName := cmd.base.sinkAbilityName
  callerInfo := cmd.callerInfo
  srcAccountInfo := cmd.accountInfo

def missionFields (cmd : SinkStartCmd Params) : MissionFields where
  srcInfo :=
    { deviceId := cmd.base.srcDeviceId
      bundleName := cmd.base.srcBundleName
      abilityName := cmd.base.srcAbilityName
      moduleName := cmd.base.srcModuleName
      serverId := cmd.base.srcServerId
      pid := cmd.srcPid
      uid := cmd.srcUid
      accessToken := cmd.srcAccessToken }
  sinkDeviceId := cmd.base.sinkDeviceId
  sinkBundleName := cmd.base.sinkBundleName
  sinkAbilityName := cmd.base.sinkAbilityName

end SinkStartCmd

/-! ## Histories -/

/-- A collaboration with the fields for which the permission check has answered
`ERR_OK`, those of the last mission, and the device which `ExeSrcStart` has
connected for it. -/
structure CollabHistory (Params : Type) where
  running : RunningCollab Params
  checked : Option CheckedFields := none
  mission : Option MissionFields := none
  connected : Option Text := none

namespace RunningCollab

variable {Params : Type}

def nextEvent (running : RunningCollab Params) : Option Event :=
  if running.collab.removed ∨ running.starting then none
  else running.collab.queue.head?

def checksPermission (running : RunningCollab Params) :
    CollabInput Params → Option CheckedFields
  | .process answers =>
      if running.collab.state = .sinkStart ∧
          running.nextEvent = some .startAbility ∧
          answers.role.checkCollabStartPermission = errOk then
        some running.record.info.checkedFields
      else none
  | _ => none

def startsMission (running : RunningCollab Params) :
    CollabInput Params → Option MissionFields
  | .collabMission mission =>
      if running.collab.removed then none
      else (running.record.info.collabMission mission).map
        DSchedCollabInfo.missionFields
  | _ => none

def connects (running : RunningCollab Params) :
    CollabInput Params → Option Text
  | .process answers =>
      if running.collab.state = .sourceStart ∧
          running.nextEvent = some .sourceStart ∧
          answers.role.connectDevice = errOk then
        some running.record.info.sinkInfo.deviceId
      else none
  | _ => none

inductive Created : RunningCollab Params → Prop
  | source (asked : DSchedCollabInfo Params) : Created (createSource asked)
  | sink (cmd : GetSinkCollabVersionCmd) (empty : Params) :
      Created (createSink cmd empty)

def IsChecked (running : RunningCollab Params) : Prop :=
  running.collab.state = .sinkConnect ∨ running.collab.state = .sinkWaitEnd

instance (running : RunningCollab Params) : Decidable running.IsChecked :=
  inferInstanceAs (Decidable (_ ∨ _))

end RunningCollab

namespace CollabHistory

variable {Params : Type}

def start (running : RunningCollab Params) : CollabHistory Params where
  running := running

def step (history : CollabHistory Params) (input : CollabInput Params) :
    List CollabEffect × CollabHistory Params :=
  let running := history.running
  ((running.step input).1,
    { running := (running.step input).2
      checked := (running.checksPermission input).or history.checked
      mission := (running.startsMission input).or history.mission
      -- a new mission has not connected its device yet
      connected :=
        if (running.startsMission input).isSome then none
        else (running.connects input).or history.connected })

structure NotRedirected (history : CollabHistory Params) : Prop where
  checked : history.running.IsChecked →
    history.checked = some history.running.record.info.checkedFields
  mission : ∀ mission ∈ history.mission,
    history.running.record.info.missionFields = mission

/-- A step redirects nothing, and a clean-up disconnects the device which was
connected. -/
structure Keeps (history : CollabHistory Params)
    (input : CollabInput Params) : Prop where
  after : (history.step input).2.NotRedirected
  disconnects : ∀ device, .disconnectDevice device ∈ (history.step input).1 →
    ∀ connected ∈ history.connected, device = connected

/-- A start command which arrives after the permission check repeats what was
checked, one which arrives after the mission repeats the mission; and the client
does not start a mission at a sink which is starting its ability. -/
def Consistent (history : CollabHistory Params) :
    CollabInput Params → Prop
  | .recv _ (.sinkStart cmd) =>
      (history.running.starting ∨ history.running.IsChecked →
        cmd.checkedFields = history.running.record.info.checkedFields) ∧
      (history.mission.isSome →
        cmd.missionFields = history.running.record.info.missionFields)
  | .collabMission _ => history.running.starting = false
  | _ => True

end CollabHistory

/-! ## One step -/

namespace CollabRoles

/-- The changes of the state which the function tables make, besides the start
of the ability. -/
inductive StateType.Moves : StateType → StateType → Prop
  | stay (state : StateType) : Moves state state
  | sourceStarted : Moves .sourceStart .sourceWaitResult
  | sourceAccepted : Moves .sourceWaitResult .sourceWaitEnd
  | sinkAnswered : Moves .sinkGetVersion .sinkStart
  | sinkPrepared : Moves .sinkConnect .sinkWaitEnd

section Start

variable {collab : Collab} {answers : Answers} {event : Event}
  (hstart : ¬(collab.state = .sinkStart ∧ event = .startAbility))

include hstart

theorem Collab.moves_execute :
    collab.state.Moves (collab.execute answers event).2.2.state := by
  unfold Collab.execute
  split
  · unfold exeSrcGetPeerVersion
    split_ifs <;> exact .stay _
  · unfold exeSrcGetVersion
    split_ifs <;> exact .stay _
  · exact .stay _
  · next hstate =>
      unfold exeSrcStart
      split_ifs <;> first | exact .stay _ | exact hstate ▸ .sourceStarted
  · exact .stay _
  · next hstate =>
      unfold exeSrcCollabResult
      split_ifs <;> first | exact .stay _ | exact hstate ▸ .sourceAccepted
  · next hstate =>
      unfold exeSrcCollabResult
      split_ifs <;> first | exact .stay _ | exact hstate ▸ .sourceAccepted
  · exact .stay _
  · exact .stay _
  · exact .stay _
  · next hstate => exact hstate ▸ .sinkAnswered
  · exact .stay _
  · next hstate => exact absurd ⟨hstate, rfl⟩ hstart
  · exact .stay _
  · next hstate =>
      unfold exeSinkPrepareResult
      split_ifs <;> first | exact .stay _ | exact hstate ▸ .sinkPrepared
  all_goals exact .stay _

theorem Collab.moves_processEvent :
    collab.state.Moves (collab.processEvent answers event).2.state := by
  have hmoves : collab.state.Moves
      (collab.execute answers event).2.2.state := moves_execute hstart
  unfold Collab.processEvent
  split
  next ret effects next hexecute =>
    rw [hexecute] at hmoves
    split_ifs
    · exact hmoves
    · exact hmoves

end Start

end CollabRoles

variable {device : Text}

namespace RunningCollab

variable {Params : Type} {running next : RunningCollab Params}

structure Proceeds (running next : RunningCollab Params) : Prop where
  moves : running.collab.state.Moves next.collab.state
  starting : next.starting = running.starting
  checked : running.collab.state ≠ .sourceStart →
    next.record.info.checkedFields = running.record.info.checkedFields
  mission :
    next.record.info.missionFields = running.record.info.missionFields

theorem Proceeds.refl (running : RunningCollab Params) :
    running.Proceeds running :=
  ⟨.stay _, rfl, fun _ => rfl, rfl⟩

theorem Proceeds.isChecked (hproceeds : running.Proceeds next)
    (hchecked : next.IsChecked) : running.IsChecked := by
  have hmoves := hproceeds.moves
  unfold IsChecked at hchecked ⊢
  generalize running.collab.state = before, next.collab.state = after
    at hmoves hchecked ⊢
  cases hmoves <;> simp_all

theorem Proceeds.sourceStart (hproceeds : running.Proceeds next)
    (hstate : next.collab.state = .sourceStart) :
    running.collab.state = .sourceStart := by
  have hmoves := hproceeds.moves
  rw [hstate] at hmoves
  generalize running.collab.state = before at hmoves ⊢
  cases hmoves
  rfl

theorem Proceeds.sinkStart (hproceeds : running.Proceeds next)
    (hstate : running.collab.state = .sinkStart) :
    next.collab.state = .sinkStart := by
  have hmoves := hproceeds.moves
  rw [hstate] at hmoves
  generalize next.collab.state = after at hmoves ⊢
  cases hmoves
  rfl

theorem proceeds_processEvent {answers : RunAnswers} {event : Event}
    (hstart : ¬(running.collab.state = .sinkStart ∧ event = .startAbility)) :
    running.Proceeds (running.processEvent answers event).2 := by
  unfold processEvent
  rw [if_neg hstart]
  refine ⟨Collab.moves_processEvent hstart, rfl, fun hstate => ?_, ?_⟩
  · dsimp only
    unfold exeRecord
    split
    · next hsource => exact absurd hsource hstate
    · split_ifs <;> rfl
    · rfl
  · dsimp only
    unfold exeRecord
    split
    · split_ifs
      · rfl
      · split
        · next hpack =>
            obtain ⟨_, _, _, -, rfl⟩ :=
              DSchedCollabInfo.packStartCmd_eq_some hpack
            rfl
        · rfl
    · split_ifs <;> rfl
    · rfl

theorem step_of_removed {input : CollabInput Params}
    (hremoved : running.collab.removed) : running.step input = ([], running) :=
  if_pos hremoved

theorem nextEvent_eq_some {event : Event}
    (hevent : running.nextEvent = some event) :
    running.collab.removed = false ∧ running.starting = false ∧
      ∃ rest, running.collab.queue = event :: rest := by
  unfold nextEvent at hevent
  split_ifs at hevent with hidle
  simp only [not_or, Bool.not_eq_true] at hidle
  exact ⟨hidle.1, hidle.2, List.head?_eq_some_iff.mp hevent⟩

theorem step_process_idle {answers : RunAnswers}
    (hevent : running.nextEvent = none) :
    running.step (.process answers) = ([], running) := by
  by_cases hremoved : running.collab.removed = true
  · exact step_of_removed hremoved
  · by_cases hstarting : running.starting = true
    · simp only [step, hremoved, hstarting, if_false, if_true,
        Bool.false_eq_true]
    · have hqueue : running.collab.queue = [] := by
        simpa [nextEvent, hremoved, hstarting] using hevent
      simp only [step, hremoved, hstarting, hqueue, if_false,
        Bool.false_eq_true]

theorem step_process {answers : RunAnswers} {event : Event} {rest : List Event}
    (hremoved : running.collab.removed = false)
    (hstarting : running.starting = false)
    (hqueue : running.collab.queue = event :: rest) :
    running.step (.process answers) =
      ({ running with collab :=
        { running.collab with queue := rest } } : RunningCollab Params).processEvent
          answers event := by
  unfold step
  simp only [hremoved, hstarting, hqueue, Bool.false_eq_true, if_false]

theorem disconnectDevice_mem_effectsOf {record : CollabRecord Params}
    {effects : List Effect}
    (hmem : .disconnectDevice device ∈ effectsOf record effects) :
    device = record.info.sinkInfo.deviceId := by
  obtain ⟨effect, -, hmem⟩ := List.mem_flatMap.mp hmem
  split_ifs at hmem
  · simpa using hmem
  · simp at hmem

theorem disconnectDevice_mem_processEvent {answers : RunAnswers} {event : Event}
    (hmem : .disconnectDevice device ∈ (running.processEvent answers event).1) :
    device = running.record.info.sinkInfo.deviceId := by
  by_cases hstart : running.collab.state = .sinkStart ∧ event = .startAbility
  · rw [processEvent, if_pos hstart] at hmem
    cases hmem
  · have hproceeds : running.Proceeds (running.processEvent answers event).2 :=
      proceeds_processEvent hstart
    have hfields := hproceeds.mission
    rw [processEvent, if_neg hstart] at hmem hfields
    rcases List.mem_append.mp hmem with hconnect | heffect
    · unfold exeConnects at hconnect
      split at hconnect <;> simp at hconnect
    · rw [disconnectDevice_mem_effectsOf heffect]
      exact congrArg MissionFields.sinkDeviceId hfields

theorem disconnectDevice_mem_step {input : CollabInput Params}
    (hmem : .disconnectDevice device ∈ (running.step input).1) :
    device = running.record.info.sinkInfo.deviceId := by
  by_cases hremoved : running.collab.removed = true
  · rw [step_of_removed hremoved] at hmem
    cases hmem
  · cases input with
    | process answers =>
        cases hevent : running.nextEvent with
        | none =>
            rw [step_process_idle hevent] at hmem
            cases hmem
        | some event =>
            obtain ⟨hpresent, hstarting, rest, hqueue⟩ :=
              nextEvent_eq_some hevent
            rw [step_process hpresent hstarting hqueue] at hmem
            have hdevice := disconnectDevice_mem_processEvent hmem
            exact hdevice
    | recv answers cmd =>
        unfold step at hmem
        rw [if_neg hremoved] at hmem
        cases cmd with
        | disconnect => exact disconnectDevice_mem_effectsOf hmem
        | notifyResult cmd =>
            simp only [onDataRecv] at hmem
            split_ifs at hmem <;> cases hmem
        | sourceGetVersion version => cases hmem
        | sinkStart cmd => cases hmem
        | unmarshalFailed => cases hmem
        | invalid => cases hmem
    | collabMission mission => simp [step, hremoved] at hmem
    | notifySinkPrepareResult result session name =>
        simp [step, hremoved] at hmem
    | notifySinkRejectReason reason => simp [step, hremoved] at hmem
    | notifyStartAbilityResult result pid uid token =>
        simp only [step, hremoved, Bool.false_eq_true, if_false] at hmem
        split_ifs at hmem <;> cases hmem
    | timeout => simp [step, hremoved] at hmem
    | shutdown => simp [step, hremoved] at hmem
    | endTask => simp [step, hremoved] at hmem
    | startAbilityReturns result =>
        simp only [step, hremoved, Bool.false_eq_true, if_false] at hmem
        split_ifs at hmem <;> cases hmem

/-- The inputs which the event thread does not handle and which neither set the
record of a sink nor start a mission. -/
def IsQuiet : CollabInput Params → Prop
  | .collabMission _ | .recv _ (.sinkStart _) | .process _
  | .startAbilityReturns _ => False
  | _ => True

theorem proceeds_of_record {record : CollabRecord Params} {collab : Collab}
    (hstate : collab.state = running.collab.state)
    (hchecked : record.info.checkedFields = running.record.info.checkedFields)
    (hmission : record.info.missionFields = running.record.info.missionFields) :
    running.Proceeds { running with collab := collab, record := record } :=
  ⟨hstate ▸ .stay _, rfl, fun _ => hchecked, hmission⟩

theorem proceeds_of_isQuiet {input : CollabInput Params}
    (hquiet : IsQuiet input) : running.Proceeds (running.step input).2 := by
  by_cases hremoved : running.collab.removed = true
  · rw [step_of_removed hremoved]
    exact .refl running
  · unfold step
    rw [if_neg hremoved]
    cases input with
    | notifySinkPrepareResult result session name =>
        exact proceeds_of_record rfl rfl rfl
    | notifySinkRejectReason reason => exact proceeds_of_record rfl rfl rfl
    | notifyStartAbilityResult result pid uid token =>
        dsimp only
        split_ifs
        · exact proceeds_of_record rfl rfl rfl
        · exact proceeds_of_record rfl rfl rfl
    | timeout => exact proceeds_of_record rfl rfl rfl
    | shutdown => exact proceeds_of_record rfl rfl rfl
    | endTask => exact proceeds_of_record rfl rfl rfl
    | recv answers cmd =>
        cases cmd with
        | sourceGetVersion version => exact proceeds_of_record rfl rfl rfl
        | notifyResult cmd =>
            dsimp only [onDataRecv]
            split_ifs
            · exact proceeds_of_record rfl rfl rfl
            · exact proceeds_of_record rfl rfl rfl
        | disconnect => exact proceeds_of_record rfl rfl rfl
        | unmarshalFailed => exact proceeds_of_record rfl rfl rfl
        | invalid => exact .refl running
        | sinkStart cmd => exact hquiet.elim
    | collabMission mission => exact hquiet.elim
    | process answers => exact hquiet.elim
    | startAbilityReturns result => exact hquiet.elim

end RunningCollab

/-! ## Runs -/

namespace CollabHistory

variable {Params : Type} {history : CollabHistory Params}

/-- The ability is being started with the checked record, and only a mission
leads to a connection. -/
structure Invariant (history : CollabHistory Params) : Prop where
  notRedirected : history.NotRedirected
  starting : history.running.starting = true →
    history.running.collab.state = .sinkStart ∧
      history.checked = some history.running.record.info.checkedFields
  sourceStart : history.running.collab.state = .sourceStart →
    history.mission.isSome
  connected : ∀ device ∈ history.connected,
    ∃ mission ∈ history.mission, mission.sinkDeviceId = device

theorem invariant_start {running : RunningCollab Params}
    (hcreated : running.Created) : (start running).Invariant := by
  cases hcreated with
  | source asked =>
      exact ⟨⟨by simp [start, RunningCollab.createSource,
        RunningCollab.IsChecked], by simp [start]⟩, by simp [start,
        RunningCollab.createSource], by simp [start,
        RunningCollab.createSource], by simp [start]⟩
  | sink cmd empty =>
      exact ⟨⟨by simp [start, RunningCollab.createSink, createdSink,
        RunningCollab.IsChecked], by simp [start]⟩, by simp [start,
        RunningCollab.createSink], by simp [start,
        RunningCollab.createSink, createdSink], by simp [start]⟩

theorem Invariant.device_of_connected (hinv : history.Invariant)
    (hdevice : device ∈ history.connected) :
    history.running.record.info.sinkInfo.deviceId = device := by
  obtain ⟨mission, hmission, rfl⟩ := hinv.connected device hdevice
  exact congrArg MissionFields.sinkDeviceId
    (hinv.notRedirected.mission mission hmission)

theorem Invariant.proceed {next : RunningCollab Params}
    (hinv : history.Invariant) (hproceeds : history.running.Proceeds next)
    {connected : Option Text}
    (hconnected : ∀ device ∈ connected, device ∈ history.connected ∨
      (history.running.collab.state = .sourceStart ∧
        device = history.running.record.info.sinkInfo.deviceId)) :
    Invariant
      { history with running := next, connected := connected } where
  notRedirected :=
    { checked := by
        intro hchecked
        have hbefore := hproceeds.isChecked hchecked
        have hne : history.running.collab.state ≠ .sourceStart := by
          rcases hbefore with hbefore | hbefore <;> rw [hbefore] <;> decide
        exact (hproceeds.checked hne) ▸ hinv.notRedirected.checked hbefore
      mission := fun mission hmission =>
        hproceeds.mission ▸ hinv.notRedirected.mission mission hmission }
  starting := by
    intro hstarting
    have hbefore : history.running.starting = true :=
      hproceeds.starting ▸ hstarting
    obtain ⟨hstate, hchecked⟩ := hinv.starting hbefore
    have hne : history.running.collab.state ≠ .sourceStart := by
      rw [hstate]
      decide
    exact ⟨hproceeds.sinkStart hstate, (hproceeds.checked hne) ▸ hchecked⟩
  sourceStart := fun hafter => hinv.sourceStart (hproceeds.sourceStart hafter)
  connected := by
    intro device hdevice
    rcases hconnected device hdevice with hold | ⟨hsource, rfl⟩
    · exact hinv.connected device hold
    · obtain ⟨mission, hmission⟩ :=
        Option.isSome_iff_exists.mp (hinv.sourceStart hsource)
      refine ⟨mission, hmission, ?_⟩
      exact congrArg MissionFields.sinkDeviceId
        (hinv.notRedirected.mission mission hmission).symm

theorem step_of_removed {input : CollabInput Params}
    (hremoved : history.running.collab.removed = true) :
    history.step input = ([], history) := by
  have hnext : history.running.nextEvent = none := if_pos (.inl hremoved)
  cases input <;>
    simp [step, RunningCollab.step_of_removed hremoved,
      RunningCollab.checksPermission, RunningCollab.startsMission,
      RunningCollab.connects, hnext, hremoved]

theorem Invariant.step_quiet {input : CollabInput Params}
    (hinv : history.Invariant) (hquiet : RunningCollab.IsQuiet input) :
    (history.step input).2.Invariant := by
  have hnone : history.running.checksPermission input = none ∧
      history.running.startsMission input = none ∧
      history.running.connects input = none := by
    cases input <;> first | exact ⟨rfl, rfl, rfl⟩ | exact hquiet.elim
  have hnext : Invariant { history with
      running := (history.running.step input).2
      connected := history.connected } :=
    hinv.proceed (RunningCollab.proceeds_of_isQuiet hquiet) fun _ => .inl
  simpa [step, hnone] using hnext

theorem Invariant.step_sinkStart {answers : RunAnswers}
    {cmd : SinkStartCmd Params} (hinv : history.Invariant)
    (hconsistent : history.Consistent (.recv answers (.sinkStart cmd))) :
    (history.step (.recv answers (.sinkStart cmd))).2.Invariant := by
  by_cases hremoved : history.running.collab.removed = true
  · rw [step_of_removed hremoved]
    exact hinv
  · have hstep : (history.step (.recv answers (.sinkStart cmd))).2 =
        { history with running :=
          { history.running with
            record := history.running.record.setSinkCollabInfo answers cmd
            collab := history.running.collab.post .startAbility } } := by
      simp [step, RunningCollab.step, hremoved, RunningCollab.onDataRecv,
        RunningCollab.checksPermission, RunningCollab.startsMission,
        RunningCollab.connects, RunningCollab.post]
    obtain ⟨hchecked, hmission⟩ := hconsistent
    rw [hstep]
    refine ⟨⟨fun hstate => ?_, fun mission hsome => ?_⟩, fun hstarting => ?_,
      hinv.sourceStart, hinv.connected⟩
    · have hsame := hchecked (.inr hstate)
      exact (hinv.notRedirected.checked hstate).trans (congrArg some hsame.symm)
    · have hsame := hmission (Option.isSome_iff_exists.mpr ⟨mission, hsome⟩)
      exact hsame.trans (hinv.notRedirected.mission mission hsome)
    · have hsame := hchecked (.inl hstarting)
      obtain ⟨hstate, hbefore⟩ := hinv.starting hstarting
      exact ⟨hstate, hbefore.trans (congrArg some hsame.symm)⟩

theorem Invariant.step_collabMission {mission : DSchedCollabInfo Params}
    (hinv : history.Invariant) (hstarting : history.running.starting = false) :
    (history.step (.collabMission mission)).2.Invariant := by
  by_cases hremoved : history.running.collab.removed = true
  · rw [step_of_removed hremoved]
    exact hinv
  · cases hinfo : history.running.record.info.collabMission mission with
    | none =>
        have hstep : (history.step (.collabMission mission)).2 = history := by
          simp [step, RunningCollab.step, hremoved,
            RunningCollab.collabMission, hinfo,
            RunningCollab.checksPermission, RunningCollab.startsMission,
            RunningCollab.connects]
        rw [hstep]
        exact hinv
    | some info =>
        have hstep : (history.step (.collabMission mission)).2 =
            { running :=
                { history.running with
                  collab := { history.running.collab with
                    state := .sourceStart }.post .sourceStart
                  record := { info } }
              checked := history.checked
              mission := some info.missionFields
              connected := none } := by
          simp [step, RunningCollab.step, hremoved,
            RunningCollab.collabMission, hinfo,
            RunningCollab.checksPermission, RunningCollab.startsMission]
        rw [hstep]
        refine ⟨⟨fun hstate => ?_, ?_⟩, ?_, fun _ => rfl, by simp⟩
        · rcases hstate with hstate | hstate <;> cases hstate
        · rintro _ ⟨⟩
          rfl
        · intro hstarts
          rw [hstarting] at hstarts
          cases hstarts

theorem Invariant.step_startAbilityReturns {result : ℤ}
    (hinv : history.Invariant) :
    (history.step (.startAbilityReturns result)).2.Invariant := by
  by_cases hremoved : history.running.collab.removed = true
  · rw [step_of_removed hremoved]
    exact hinv
  · have hstep : (history.step (.startAbilityReturns result)).2 =
        { history with running :=
          if history.running.starting then
            history.running.startAbilityReturns result
          else history.running } := by
      by_cases hstarting : history.running.starting = true <;>
        simp [step, RunningCollab.step, hremoved, hstarting,
          RunningCollab.checksPermission, RunningCollab.startsMission,
          RunningCollab.connects]
    rw [hstep]
    split_ifs with hstarting
    · obtain ⟨hstate, hchecked⟩ := hinv.starting hstarting
      unfold RunningCollab.startAbilityReturns
      split_ifs
      · refine ⟨⟨fun hafter => ?_, hinv.notRedirected.mission⟩, ?_,
          hinv.sourceStart, hinv.connected⟩
        · exact hinv.notRedirected.checked hafter
        · intro hafter
          cases hafter
      · refine ⟨⟨fun _ => hchecked, hinv.notRedirected.mission⟩, ?_, ?_,
          hinv.connected⟩
        · intro hafter
          cases hafter
        · intro hafter
          cases hafter
    · exact hinv

theorem Invariant.step_startAbility {answers : RunAnswers} {rest : List Event}
    (hinv : history.Invariant)
    (hpresent : history.running.collab.removed = false)
    (hidle : history.running.starting = false)
    (hqueue : history.running.collab.queue = .startAbility :: rest)
    (hevent : history.running.nextEvent = some .startAbility)
    (hstate : history.running.collab.state = .sinkStart) :
    (history.step (.process answers)).2.Invariant := by
  have hsourceStart : history.running.collab.state ≠ .sourceStart := by
    rw [hstate]
    decide
  have hunchecked : ¬history.running.IsChecked := by
    unfold RunningCollab.IsChecked
    rw [hstate]
    decide
  have hstep : (history.step (.process answers)).2 =
      { history with
        running := ({ history.running with collab :=
          { history.running.collab with queue := rest } } :
            RunningCollab Params).exeStartAbility answers
        checked := (history.running.checksPermission (.process answers)).or
          history.checked } := by
    simp [step, RunningCollab.step_process hpresent hidle hqueue,
      RunningCollab.processEvent, RunningCollab.startsMission,
      RunningCollab.connects, hstate]
  rw [hstep]
  unfold RunningCollab.exeStartAbility
  split_ifs with hpermission hconnect
  · exact ⟨⟨fun hafter => absurd hafter hunchecked,
      hinv.notRedirected.mission⟩, fun hafter => by simp [hidle] at hafter,
      hinv.sourceStart, hinv.connected⟩
  · exact ⟨⟨fun hafter => absurd hafter hunchecked,
      hinv.notRedirected.mission⟩, fun hafter => by simp [hidle] at hafter,
      hinv.sourceStart, hinv.connected⟩
  · have hchecks : history.running.checksPermission (.process answers) =
        some history.running.record.info.checkedFields :=
      if_pos ⟨hstate, hevent, not_not.mp hpermission⟩
    refine ⟨⟨fun hafter => absurd hafter hunchecked,
      hinv.notRedirected.mission⟩, fun _ => ⟨hstate, ?_⟩, hinv.sourceStart,
      hinv.connected⟩
    simp only [hchecks, Option.some_or]

theorem connected_or_connects {answers : RunAnswers}
    (hdevice : device ∈ (history.running.connects (.process answers)).or
      history.connected) :
    device ∈ history.connected ∨
      (history.running.collab.state = .sourceStart ∧
        device = history.running.record.info.sinkInfo.deviceId) := by
  simp only [RunningCollab.connects] at hdevice
  split_ifs at hdevice with hconnects
  · exact .inr ⟨hconnects.1, (Option.some.inj hdevice).symm⟩
  · exact .inl hdevice

theorem Invariant.step_process {answers : RunAnswers}
    (hinv : history.Invariant) :
    (history.step (.process answers)).2.Invariant := by
  cases hevent : history.running.nextEvent with
  | none =>
      have hstep : (history.step (.process answers)).2 = history := by
        simp [step, RunningCollab.step_process_idle hevent,
          RunningCollab.checksPermission, RunningCollab.startsMission,
          RunningCollab.connects, hevent]
      rw [hstep]
      exact hinv
  | some event =>
      obtain ⟨hpresent, hidle, rest, hqueue⟩ :=
        RunningCollab.nextEvent_eq_some hevent
      by_cases hstart :
          history.running.collab.state = .sinkStart ∧ event = .startAbility
      · obtain ⟨hstate, rfl⟩ := hstart
        exact hinv.step_startAbility hpresent hidle hqueue hevent hstate
      · have hchecks :
            history.running.checksPermission (.process answers) = none := by
          simp only [RunningCollab.checksPermission, hevent, Option.some.injEq]
          exact if_neg fun hcheck => hstart ⟨hcheck.1, hcheck.2.1⟩
        have hproceeds : RunningCollab.Proceeds
            { history.running with collab :=
              { history.running.collab with queue := rest } }
            (({ history.running with collab :=
              { history.running.collab with queue := rest } } :
                RunningCollab Params).processEvent answers event).2 :=
          RunningCollab.proceeds_processEvent hstart
        have hnext := hinv.proceed
          ⟨hproceeds.moves, hproceeds.starting, hproceeds.checked,
            hproceeds.mission⟩
          fun device (hdevice : device ∈ (history.running.connects
            (.process answers)).or history.connected) =>
              connected_or_connects hdevice
        simpa [step, RunningCollab.step_process hpresent hidle hqueue, hchecks,
          RunningCollab.startsMission] using hnext

theorem Invariant.step {input : CollabInput Params} (hinv : history.Invariant)
    (hconsistent : history.Consistent input) :
    (history.step input).2.Invariant := by
  cases input with
  | recv answers cmd =>
      cases cmd with
      | sinkStart cmd => exact hinv.step_sinkStart hconsistent
      | sourceGetVersion version => exact hinv.step_quiet trivial
      | notifyResult cmd => exact hinv.step_quiet trivial
      | disconnect => exact hinv.step_quiet trivial
      | unmarshalFailed => exact hinv.step_quiet trivial
      | invalid => exact hinv.step_quiet trivial
  | collabMission mission => exact hinv.step_collabMission hconsistent
  | process answers => exact hinv.step_process
  | startAbilityReturns result => exact hinv.step_startAbilityReturns
  | notifySinkPrepareResult result session name =>
      exact hinv.step_quiet trivial
  | notifySinkRejectReason reason => exact hinv.step_quiet trivial
  | notifyStartAbilityResult result pid uid token =>
      exact hinv.step_quiet trivial
  | timeout => exact hinv.step_quiet trivial
  | shutdown => exact hinv.step_quiet trivial
  | endTask => exact hinv.step_quiet trivial

theorem Invariant.keeps {input : CollabInput Params} (hinv : history.Invariant)
    (hconsistent : history.Consistent input) : history.Keeps input where
  after := (hinv.step hconsistent).notRedirected
  disconnects := by
    intro device hdevice connected hconnected
    have hrecord : device = history.running.record.info.sinkInfo.deviceId :=
      RunningCollab.disconnectDevice_mem_step hdevice
    exact hrecord.trans (hinv.device_of_connected hconnected)

/-- In every run in which later start commands repeat what was checked and what
was asked for, nothing is redirected. -/
theorem notRedirected_run {running : RunningCollab Params}
    (hcreated : running.Created) {inputs : List (CollabInput Params)}
    (hconsistent : EventRun.Meets step Consistent (start running) inputs) :
    (start running).NotRedirected ∧
      EventRun.Meets step Keeps (start running) inputs :=
  have hstart := invariant_start hcreated
  ⟨hstart.notRedirected,
    hconsistent.guarantee (fun _ _ hinv hinput => hinv.keeps hinput)
      (fun _ _ hinv hinput => hinv.step hinput) hstart⟩

/-! ### Two runs -/

def sampleAnswers : RunAnswers where
  pack := ⟨some 0, some [], some [], some {}⟩

def sampleStart (srcDeviceId sinkDeviceId : Text) : SinkStartCmd Unit where
  base := { srcDeviceId, sinkDeviceId }
  startParams := ()
  messageParams := ()

/-- The sink has checked the permission of `P` and is connected. -/
def sinkInputs : List (CollabInput Unit) :=
  [.process sampleAnswers,
    .recv sampleAnswers (.sinkStart (sampleStart ['P'] ['S'])),
    .process sampleAnswers, .startAbilityReturns errOk]

theorem notRedirected_repeated :
    (start (RunningCollab.createSink {} ())).NotRedirected ∧
      EventRun.Meets step Keeps (start (RunningCollab.createSink {} ()))
        (sinkInputs ++
          [.recv sampleAnswers (.sinkStart (sampleStart ['P'] ['S']))]) :=
  notRedirected_run (.sink {} ())
    ⟨trivial,
      ⟨fun hchecked => absurd hchecked (by decide),
        fun hmission => by cases hmission⟩,
      trivial, trivial, ⟨fun _ => rfl, fun hmission => by cases hmission⟩,
      trivial⟩

def sampleMission : DSchedCollabInfo Unit where
  srcInfo :=
    { deviceId := ['P'], bundleName := ['a'], moduleName := ['m'],
      abilityName := ['x'] }
  sinkInfo :=
    { deviceId := ['S'], bundleName := ['b'], moduleName := ['m'],
      abilityName := ['y'] }
  srcOpt := { startParams := (), messageParams := () }

/-- The source has connected `S` for its mission. -/
def sourceInputs : List (CollabInput Unit) :=
  [.process sampleAnswers, .collabMission sampleMission, .process sampleAnswers]

/-- A second start command turns a connected sink to another source, and a start
command to a source makes it disconnect a device which it has not connected. -/
theorem redirected_by_sinkStart :
    ¬EventRun.Meets step Keeps (start (RunningCollab.createSink {} ()))
        (sinkInputs ++
          [.recv sampleAnswers (.sinkStart (sampleStart ['Q'] ['S']))]) ∧
      ¬EventRun.Meets step Keeps
        (start (RunningCollab.createSource sampleMission))
        (sourceInputs ++
          [.recv sampleAnswers (.sinkStart (sampleStart ['Q'] ['T'])),
            .recv sampleAnswers .disconnect]) ∧
      ¬EventRun.Meets step
        (fun history input => ∀ device,
          .disconnectDevice device ∈ (history.step input).1 →
            ∀ connected ∈ history.connected, device = connected)
        (start (RunningCollab.createSource sampleMission))
        (sourceInputs ++
          [.recv sampleAnswers (.sinkStart (sampleStart ['Q'] ['T'])),
            .recv sampleAnswers .disconnect]) := by
  refine ⟨fun hmeets => ?_, fun hmeets => ?_, fun hmeets => ?_⟩
  · have hlast := hmeets.last.after.checked (by decide)
    have hdevice := congrArg (Option.map CheckedFields.srcDeviceId) hlast
    revert hdevice
    decide
  · have hlast := hmeets.2.2.2.1.after.mission _ rfl
    have hdevice := congrArg MissionFields.sinkDeviceId hlast
    revert hdevice
    decide
  · have hlast := hmeets.2.2.2.2.1 ['T'] (by decide) ['S'] (by decide)
    revert hlast
    decide

end CollabHistory

end Dmsfwk
