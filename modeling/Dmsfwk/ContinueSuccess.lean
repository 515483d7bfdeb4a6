import Dmsfwk.ContinuePair
import Dmsfwk.EventRun

/-!
# What the success of a continuation means

A result of `ERR_OK` starts at a completion call of an ability and travels
through events and commands to the end of both continuations.  The proofs
follow it back from there to this call.
-/

namespace Dmsfwk
namespace Continuation

/-! ## Results of success -/

/-- The data was sent, the sink has started its ability with it, and the sink
has reported the completion to the source. -/
def MissionMoved (log : Log) : Prop :=
  [(.source, .sendCommand .data errOk), (.sink, .startAbility errOk),
    (.sink, .sendCommand (.ended errOk) errOk)].Sublist log

/-- The sink has started its ability with the data, and after that the ability
has reported its completion. -/
def AbilityContinued (log : Log) : Prop :=
  [(.sink, .startAbility errOk), (.sink, .onNotifyComplete errOk)].Sublist log

/-- A step ends the source with success, or removes its mission, only after the
mission has moved. -/
structure KeepsMission (pair : Pair) (move : Move) : Prop where
  ends : (.source, .executeContinueEnd errOk) ∈ (pair.step move).1 →
    MissionMoved pair.log
  cleans : ∀ direction missionId,
    (direction, .cleanMission missionId) ∈ (pair.step move).1 →
      direction = .source ∧ MissionMoved pair.log

/-- A step tells a client about success only after the ability has continued. -/
def ReportsTruly (pair : Pair) (move : Move) : Prop :=
  ∀ conflicts direction result,
    (direction, .notifyContinuationCallbackResult result) ∈
        (pair.step move).1 →
      convertToDmsSdkErr conflicts result = errOk →
      AbilityContinued pair.log

/-- No completion call with success reaches the source. -/
def Pair.CompletesAtSink (pair : Pair) : Move → Prop
  | .source input => ¬pair.source.ReportsSuccess input
  | _ => True

instance (pair : Pair) : DecidablePred pair.CompletesAtSink := by
  intro move
  cases move <;> unfold Pair.CompletesAtSink <;> infer_instance

/-- No completion call with success reaches the source, and none reaches the
sink before it has started its ability with the data. -/
def Pair.CompletesInTime (pair : Pair) : Move → Prop
  | .source input => ¬pair.source.ReportsSuccess input
  | .sink input => pair.sink.ReportsSuccess input →
      pair.sink.state ≠ .sinkStart ∧ pair.sink.state ≠ .data
  | _ => True

instance (pair : Pair) : DecidablePred pair.CompletesInTime := by
  intro move
  cases move <;> unfold Pair.CompletesInTime <;> infer_instance

/-! ## The way of a success -/

/-- Every success which is under way in an event or a command comes after
`done`; a completion at the sink may come from its ability. -/
structure Backed (done : Log → Prop) (pair : Pair) : Prop where
  source : pair.source.Sided .source
  sink : pair.sink.Sided .sink
  startToSink : ∀ info subServiceType own appVersion,
    .start info subServiceType own appVersion ∈ pair.toSink → own = .source
  startToSource : ∀ info subServiceType own appVersion,
    .start info subServiceType own appVersion ∈ pair.toSource → own = .sink
  sourceEvents : ∀ event ∈ pair.source.queue, event.IsSuccess → done pair.log
  sinkEnded : .ended errOk ∈ pair.sink.queue → done pair.log
  toSink : ∀ cmd ∈ pair.toSink, cmd.IsSuccess → done pair.log
  toSource : ∀ cmd ∈ pair.toSource, cmd.IsSuccess → done pair.log

variable {cmd : Cmd}

theorem mem_sentBy {effects : List Effect} :
    cmd ∈ sentBy effects ↔ .sendCommand cmd errOk ∈ effects := by
  unfold sentBy
  rw [List.mem_filterMap]
  constructor
  · rintro ⟨effect, hmem, hcmd⟩
    cases effect with
    | sendCommand other ret =>
        dsimp only at hcmd
        split_ifs at hcmd with hret
        · cases hcmd
          exact hret ▸ hmem
    | _ => cases hcmd
  · intro hmem
    exact ⟨_, hmem, by simp⟩

theorem mem_toSink_updateSource {pair : Pair}
    {result : List Effect × DSchedContinue} :
    cmd ∈ (pair.updateSource result).toSink ↔
      cmd ∈ pair.toSink ∨ .sendCommand cmd errOk ∈ result.1 := by
  rw [← mem_sentBy]
  exact List.mem_append

theorem mem_toSource_updateSink {pair : Pair}
    {result : List Effect × DSchedContinue} :
    cmd ∈ (pair.updateSink result).toSource ↔
      cmd ∈ pair.toSource ∨ .sendCommand cmd errOk ∈ result.1 := by
  rw [← mem_sentBy]
  exact List.mem_append

theorem sided_ofStartCmd (missionBundle : Option Text)
    (info : DSchedContinueInfo) (subServiceType : SubType)
    {direction own : Direction} (appVersion : ℤ) (hown : own ≠ direction) :
    (DSchedContinue.ofStartCmd missionBundle info subServiceType own
      appVersion).Sided direction := by
  cases direction <;> cases own
  · exact absurd rfl hown
  · exact ⟨rfl, rfl⟩
  · exact ⟨rfl, rfl⟩
  · exact absurd rfl hown

section Backed

variable {done : Log → Prop} {pair : Pair}
  {result : List Effect × DSchedContinue}

section Updates

variable (hbacked : Backed done pair)
  (hmono : ∀ log more, done log → done (log ++ more))

include hbacked hmono

theorem Backed.updateSource (hsided : result.2.Sided .source)
    (hqueue : ∀ event ∈ result.2.queue, event.IsSuccess → done pair.log)
    (hsent : ∀ cmd, .sendCommand cmd errOk ∈ result.1 → cmd.IsSuccess →
      done pair.log)
    (hstart : ∀ info subServiceType own appVersion ret,
      .sendCommand (.start info subServiceType own appVersion) ret ∈
        result.1 → own = .source) :
    Backed done (pair.updateSource result) where
  source := hsided
  sink := hbacked.sink
  startToSink := by
    intro info subServiceType own appVersion hmem
    rcases mem_toSink_updateSource.mp hmem with hold | hnew
    · exact hbacked.startToSink _ _ _ _ hold
    · exact hstart _ _ _ _ _ hnew
  startToSource := hbacked.startToSource
  sourceEvents := fun event hmem hsuccess =>
    hmono _ _ (hqueue event hmem hsuccess)
  sinkEnded := fun hmem => hmono _ _ (hbacked.sinkEnded hmem)
  toSink := by
    intro cmd hmem hsuccess
    apply hmono
    rcases mem_toSink_updateSource.mp hmem with hold | hnew
    · exact hbacked.toSink cmd hold hsuccess
    · exact hsent cmd hnew hsuccess
  toSource := fun cmd hmem hsuccess =>
    hmono _ _ (hbacked.toSource cmd hmem hsuccess)

theorem Backed.updateSink (hsided : result.2.Sided .sink)
    (hended : .ended errOk ∈ result.2.queue → done pair.log)
    (hsent : ∀ cmd, .sendCommand cmd errOk ∈ result.1 → cmd.IsSuccess →
      done (pair.log ++ result.1.map (.sink, ·)))
    (hstart : ∀ info subServiceType own appVersion ret,
      .sendCommand (.start info subServiceType own appVersion) ret ∈
        result.1 → own = .sink) :
    Backed done (pair.updateSink result) where
  source := hbacked.source
  sink := hsided
  startToSink := hbacked.startToSink
  startToSource := by
    intro info subServiceType own appVersion hmem
    rcases mem_toSource_updateSink.mp hmem with hold | hnew
    · exact hbacked.startToSource _ _ _ _ hold
    · exact hstart _ _ _ _ _ hnew
  sourceEvents := fun event hmem hsuccess =>
    hmono _ _ (hbacked.sourceEvents event hmem hsuccess)
  sinkEnded := fun hmem => hmono _ _ (hended hmem)
  toSink := fun cmd hmem hsuccess =>
    hmono _ _ (hbacked.toSink cmd hmem hsuccess)
  toSource := by
    intro cmd hmem hsuccess
    rcases mem_toSource_updateSink.mp hmem with hold | hnew
    · exact hmono _ _ (hbacked.toSource cmd hold hsuccess)
    · exact hsent cmd hnew hsuccess

theorem Backed.sourceStep {input : DSchedContinue.Input}
    (hreports : ¬pair.source.ReportsSuccess input) :
    Backed done (pair.updateSource (pair.source.step input)) := by
  rcases step_cases pair.source input with
    ⟨removed, hstep⟩ | ⟨event, hevent, -, -, hstep⟩ | ⟨code, hcode, hstep⟩ |
    ⟨answers, event, rest, -, -, hqueue, hstep⟩
  · rw [hstep]
    exact hbacked.updateSource hmono ⟨hbacked.source.own, hbacked.source.inState⟩
      hbacked.sourceEvents (by simp) (by simp)
  · rw [hstep]
    refine hbacked.updateSource hmono (hbacked.source.post event) ?_
      (by simp) (by simp)
    intro other hmem hsuccess
    rcases DSchedContinue.mem_post.mp hmem with hold | rfl
    · exact hbacked.sourceEvents other hold hsuccess
    · exact absurd hsuccess hevent
  · rw [hstep]
    refine hbacked.updateSource hmono (hbacked.source.post _) ?_
      (by simp [DSchedContinue.onNotifyComplete])
      (by simp [DSchedContinue.onNotifyComplete])
    intro other hmem hsuccess
    rcases DSchedContinue.mem_post.mp hmem with hold | rfl
    · exact hbacked.sourceEvents other hold hsuccess
    · have hzero : code = errOk := by simpa [Event.IsSuccess] using hsuccess
      exact absurd (hcode hzero) hreports
  · rw [hstep]
    have hhandled :=
      handled_processEvent (hbacked.source.dequeue rest) answers event
    have hpasses : DSchedContinue.PassesSuccess
        { pair.source with queue := rest } event → done pair.log := by
      intro hpasses
      exact hbacked.sourceEvents event (by simp [hqueue])
        (hpasses.elim .inr fun hcomplete => .inl hcomplete.1)
    refine hbacked.updateSource hmono hhandled.2.sided ?_
      (fun cmd hmem hsuccess => hpasses (hhandled.1.sent cmd hmem hsuccess).1)
      hhandled.1.start
    intro other hmem hsuccess
    rcases hhandled.2.posted other hmem with hold | ⟨code, rfl, hcode⟩
    · exact hbacked.sourceEvents other (by simp [hqueue, hold]) hsuccess
    · exact hpasses (hcode (by simpa [Event.IsSuccess] using hsuccess)).1

end Updates

theorem Backed.recvSource (hbacked : Backed done pair) (hcmd : cmd ∈ pair.toSource)
    (limit : ℤ) (missionBundle : Option Text) :
    Backed done { pair with
      toSource := pair.toSource.erase cmd
      source := notifyContinueDataRecv limit missionBundle pair.source cmd } := by
  have hrest : pair.toSource.erase cmd ⊆ pair.toSource := List.erase_subset
  have hsource : (notifyContinueDataRecv limit missionBundle pair.source
        cmd).Sided .source ∧
      ∀ event ∈ (notifyContinueDataRecv limit missionBundle pair.source
        cmd).queue, event.IsSuccess → done pair.log := by
    rcases notifyContinueDataRecv_cases limit missionBundle pair.source cmd with
      ⟨info, subServiceType, own, appVersion, rfl, hrecv⟩ | hrecv |
      ⟨event, hevent, -, hrecv⟩
    · rw [hrecv]
      have hown := hbacked.startToSource _ _ _ _ hcmd
      exact ⟨sided_ofStartCmd _ _ _ _ (by simp [hown]),
        by simp [DSchedContinue.ofStartCmd, Event.IsSuccess]⟩
    · rw [hrecv]
      exact ⟨hbacked.source, hbacked.sourceEvents⟩
    · rw [hrecv]
      refine ⟨hbacked.source.post event, ?_⟩
      intro other hmem hsuccess
      rcases DSchedContinue.mem_post.mp hmem with hold | rfl
      · exact hbacked.sourceEvents other hold hsuccess
      · exact hbacked.toSource cmd hcmd (hevent hsuccess)
  exact ⟨hsource.1, hbacked.sink, hbacked.startToSink,
    fun _ _ _ _ hmem => hbacked.startToSource _ _ _ _ (hrest hmem),
    hsource.2, hbacked.sinkEnded, hbacked.toSink,
    fun other hmem => hbacked.toSource other (hrest hmem)⟩

theorem Backed.recvSink (hbacked : Backed done pair) (hcmd : cmd ∈ pair.toSink)
    (limit : ℤ) (missionBundle : Option Text) :
    Backed done { pair with
      toSink := pair.toSink.erase cmd
      sink := notifyContinueDataRecv limit missionBundle pair.sink cmd } := by
  have hrest : pair.toSink.erase cmd ⊆ pair.toSink := List.erase_subset
  have hsink : (notifyContinueDataRecv limit missionBundle pair.sink
        cmd).Sided .sink ∧
      (.ended errOk ∈ (notifyContinueDataRecv limit missionBundle pair.sink
        cmd).queue → done pair.log) := by
    rcases notifyContinueDataRecv_cases limit missionBundle pair.sink cmd with
      ⟨info, subServiceType, own, appVersion, rfl, hrecv⟩ | hrecv |
      ⟨event, hevent, -, hrecv⟩
    · rw [hrecv]
      have hown := hbacked.startToSink _ _ _ _ hcmd
      exact ⟨sided_ofStartCmd _ _ _ _ (by simp [hown]),
        by simp [DSchedContinue.ofStartCmd]⟩
    · rw [hrecv]
      exact ⟨hbacked.sink, hbacked.sinkEnded⟩
    · rw [hrecv]
      refine ⟨hbacked.sink.post event, ?_⟩
      intro hmem
      rcases DSchedContinue.mem_post.mp hmem with hold | hnew
      · exact hbacked.sinkEnded hold
      · exact hbacked.toSink cmd hcmd (hevent (.inr hnew.symm))
  exact ⟨hbacked.source, hsink.1,
    fun _ _ _ _ hmem => hbacked.startToSink _ _ _ _ (hrest hmem),
    hbacked.startToSource, hbacked.sourceEvents, hsink.2,
    fun other hmem => hbacked.toSink other (hrest hmem), hbacked.toSource⟩

theorem backed_initial (subServiceType : SubType) (info : DSchedContinueInfo) :
    Backed done (.initial subServiceType info) := by
  cases subServiceType
  all_goals
    refine ⟨⟨rfl, rfl⟩, ⟨rfl, rfl⟩, by simp [Pair.initial],
      by simp [Pair.initial], ?_, ?_, by simp [Pair.initial],
      by simp [Pair.initial]⟩
    all_goals
      simp [Pair.initial, absent, DSchedContinue.ofRequest, Event.IsSuccess]

end Backed

/-! ## The mission of the source -/

/-- The data is on its way only after it was sent, and the sink waits for a
completion only after the start with it. -/
structure Moving (pair : Pair) : Prop extends Backed MissionMoved pair where
  dataToSink : .data ∈ pair.toSink →
    (.source, .sendCommand .data errOk) ∈ pair.log
  dataEvent : .data ∈ pair.sink.queue →
    (.source, .sendCommand .data errOk) ∈ pair.log
  waiting : pair.sink.state = .sinkWaitEnd →
    [(.source, .sendCommand .data errOk),
      (.sink, .startAbility errOk)].Sublist pair.log

theorem missionMoved_append (log more : Log) (hmoved : MissionMoved log) :
    MissionMoved (log ++ more) :=
  hmoved.trans (List.sublist_append_left log more)

theorem moving_initial (subServiceType : SubType) (info : DSchedContinueInfo) :
    Moving (.initial subServiceType info) where
  toBacked := backed_initial subServiceType info
  dataToSink := by simp [Pair.initial]
  dataEvent := by
    cases subServiceType <;>
      simp [Pair.initial, absent, DSchedContinue.ofRequest]
  waiting := by
    cases subServiceType <;>
      simp [Pair.initial, absent, DSchedContinue.ofRequest,
        DSchedContinue.startState]

section Moving

variable {pair : Pair}

section MovingSteps

variable (hmoving : Moving pair)

include hmoving

theorem Moving.sourceStep {input : DSchedContinue.Input}
    (hreports : ¬pair.source.ReportsSuccess input) :
    Moving (pair.updateSource (pair.source.step input)) where
  toBacked := hmoving.toBacked.sourceStep missionMoved_append hreports
  dataToSink := by
    intro hmem
    apply List.mem_append.mpr
    rcases mem_toSink_updateSource.mp hmem with hold | hnew
    · exact .inl (hmoving.dataToSink hold)
    · exact .inr (List.mem_map.mpr ⟨_, hnew, rfl⟩)
  dataEvent := fun hmem =>
    List.mem_append.mpr (.inl (hmoving.dataEvent hmem))
  waiting := fun hwait =>
    (hmoving.waiting hwait).trans (List.sublist_append_left _ _)

theorem Moving.updateSink {result : List Effect × DSchedContinue}
    (hsent : ∀ cmd ret, .sendCommand cmd ret ∉ result.1)
    (hsided : result.2.Sided .sink) (hstate : result.2.state = pair.sink.state)
    (hqueue : ∀ event ∈ result.2.queue, event ∈ pair.sink.queue ∨
      (event ≠ .ended errOk ∧ event ≠ .data)) :
    Moving (pair.updateSink result) where
  toBacked := by
    refine hmoving.toBacked.updateSink missionMoved_append hsided ?_
      (fun cmd hmem => absurd hmem (hsent cmd errOk))
      (fun _ _ _ _ ret hmem => absurd hmem (hsent _ ret))
    intro hmem
    rcases hqueue _ hmem with hold | hnew
    · exact hmoving.sinkEnded hold
    · exact absurd rfl hnew.1
  dataToSink := fun hmem =>
    List.mem_append.mpr (.inl (hmoving.dataToSink hmem))
  dataEvent := by
    intro hmem
    rcases hqueue _ hmem with hold | hnew
    · exact List.mem_append.mpr (.inl (hmoving.dataEvent hold))
    · exact absurd rfl hnew.2
  waiting := fun hwait => (hmoving.waiting (hstate ▸ hwait)).trans
    (List.sublist_append_left _ _)

theorem Moving.sinkProcess {answers : Answers} {event : Event} {rest : List Event}
    (hqueue : pair.sink.queue = event :: rest) :
    Moving (pair.updateSink
      ({ pair.sink with queue := rest }.processEvent answers event)) := by
  have hhandled :=
    handled_processEvent (hmoving.sink.dequeue rest) answers event
  have hended : event = .ended errOk → MissionMoved pair.log := by
    rintro rfl
    exact hmoving.sinkEnded (by simp [hqueue])
  constructor
  · refine hmoving.toBacked.updateSink missionMoved_append hhandled.2.sided
      ?_ ?_ hhandled.1.start
    · intro hmem
      rcases hhandled.2.posted _ hmem with hold | ⟨code, hcode, hposted⟩
      · exact hmoving.sinkEnded (by simp [hqueue, hold])
      · cases hcode
        exact hended ((hposted rfl).2 rfl)
    · intro cmd hmem hsuccess
      rcases (hhandled.1.sent cmd hmem hsuccess).2 rfl with
        hevent | ⟨hwait, rfl⟩
      · exact missionMoved_append _ _ (hended hevent)
      · -- the completion of the ability goes out after the two other steps
        exact (hmoving.waiting hwait).append
          (List.singleton_sublist.mpr (List.mem_map.mpr ⟨_, hmem, rfl⟩))
  · exact fun hmem => List.mem_append.mpr (.inl (hmoving.dataToSink hmem))
  · intro hmem
    rcases hhandled.2.posted _ hmem with hold | ⟨code, hcode, -⟩
    · exact List.mem_append.mpr (.inl (hmoving.dataEvent (by simp [hqueue, hold])))
    · cases hcode
  · intro hwait
    rcases hhandled.2.waits hwait with hold | ⟨rfl, hstart⟩
    · exact (hmoving.waiting hold).trans (List.sublist_append_left _ _)
    · have hdata := hmoving.dataEvent (by simp [hqueue])
      exact (List.singleton_sublist.mpr hdata).append
        (List.singleton_sublist.mpr (List.mem_map.mpr ⟨_, hstart, rfl⟩))

theorem Moving.sinkStep (input : DSchedContinue.Input) :
    Moving (pair.updateSink (pair.sink.step input)) := by
  rcases step_cases pair.sink input with
    ⟨removed, hstep⟩ | ⟨event, hevent, hdata, -, hstep⟩ | ⟨code, -, hstep⟩ |
    ⟨answers, event, rest, -, -, hqueue, hstep⟩
  · rw [hstep]
    exact hmoving.updateSink (by simp)
      ⟨hmoving.sink.own, hmoving.sink.inState⟩ rfl (fun _ hmem => .inl hmem)
  · rw [hstep]
    refine hmoving.updateSink (by simp) (hmoving.sink.post event) rfl ?_
    intro other hmem
    rcases DSchedContinue.mem_post.mp hmem with hold | rfl
    · exact .inl hold
    · exact .inr ⟨fun hended => hevent (.inr hended), hdata⟩
  · rw [hstep]
    refine hmoving.updateSink (by simp [DSchedContinue.onNotifyComplete])
      (hmoving.sink.post _) rfl ?_
    intro other hmem
    rcases DSchedContinue.mem_post.mp hmem with hold | rfl
    · exact .inl hold
    · exact .inr ⟨by simp, by simp⟩
  · rw [hstep]
    exact hmoving.sinkProcess hqueue

theorem Moving.recvSource (hcmd : cmd ∈ pair.toSource) (limit : ℤ)
    (missionBundle : Option Text) :
    Moving { pair with
      toSource := pair.toSource.erase cmd
      source := notifyContinueDataRecv limit missionBundle pair.source cmd } :=
  ⟨hmoving.toBacked.recvSource hcmd limit missionBundle, hmoving.dataToSink,
    hmoving.dataEvent, hmoving.waiting⟩

theorem Moving.recvSink (hcmd : cmd ∈ pair.toSink) (limit : ℤ)
    (missionBundle : Option Text) :
    Moving { pair with
      toSink := pair.toSink.erase cmd
      sink := notifyContinueDataRecv limit missionBundle pair.sink cmd } where
  toBacked := hmoving.toBacked.recvSink hcmd limit missionBundle
  dataToSink := fun hmem => hmoving.dataToSink (List.mem_of_mem_erase hmem)
  dataEvent := by
    rcases notifyContinueDataRecv_cases limit missionBundle pair.sink cmd with
      ⟨info, subServiceType, own, appVersion, rfl, hrecv⟩ | hrecv |
      ⟨event, -, hdata, hrecv⟩
    · rw [hrecv]
      simp [DSchedContinue.ofStartCmd]
    · rw [hrecv]
      exact hmoving.dataEvent
    · rw [hrecv]
      intro hmem
      rcases DSchedContinue.mem_post.mp hmem with hold | hnew
      · exact hmoving.dataEvent hold
      · have hcmd' := hdata hnew.symm
        exact hmoving.dataToSink (hcmd' ▸ hcmd)
  waiting := by
    rcases notifyContinueDataRecv_cases limit missionBundle pair.sink cmd with
      ⟨info, subServiceType, own, appVersion, rfl, hrecv⟩ | hrecv |
      ⟨event, -, hdata, hrecv⟩
    · rw [hrecv]
      cases own <;> simp [DSchedContinue.ofStartCmd, DSchedContinue.startState]
    · rw [hrecv]
      exact hmoving.waiting
    · rw [hrecv]
      exact hmoving.waiting

theorem moving_step {move : Move} (hguard : pair.CompletesAtSink move) :
    Moving (pair.step move).2 := by
  cases move with
  | source input => exact hmoving.sourceStep hguard
  | sink input => exact hmoving.sinkStep input
  | toSink cmd limit missionBundle =>
      simp only [Pair.step]
      split_ifs with hcmd
      · exact hmoving.recvSink hcmd limit missionBundle
      · exact hmoving
  | toSource cmd limit missionBundle =>
      simp only [Pair.step]
      split_ifs with hcmd
      · exact hmoving.recvSource hcmd limit missionBundle
      · exact hmoving

end MovingSteps

end Moving

theorem step_toSink_fst (pair : Pair) (cmd : Cmd) (limit : ℤ)
    (missionBundle : Option Text) :
    (pair.step (.toSink cmd limit missionBundle)).1 = [] := by
  simp only [Pair.step]
  split_ifs <;> rfl

theorem step_toSource_fst (pair : Pair) (cmd : Cmd) (limit : ℤ)
    (missionBundle : Option Text) :
    (pair.step (.toSource cmd limit missionBundle)).1 = [] := by
  simp only [Pair.step]
  split_ifs <;> rfl

theorem step_spoken {direction : Direction} {continuation : DSchedContinue}
    (hsided : continuation.Sided direction) (input : DSchedContinue.Input) :
    (∀ effect ∈ (continuation.step input).1,
      ∃ result, effect = .onNotifyComplete result) ∨
    ∃ event rest, continuation.queue = event :: rest ∧
      Spoken direction { continuation with queue := rest } event
        (continuation.step input).1 := by
  rcases step_cases continuation input with
    ⟨removed, hstep⟩ | ⟨event, -, -, -, hstep⟩ | ⟨code, -, hstep⟩ |
    ⟨answers, event, rest, -, -, hqueue, hstep⟩
  · exact .inl (by simp [hstep])
  · exact .inl (by simp [hstep])
  · exact .inl (by simp [hstep, DSchedContinue.onNotifyComplete])
  · have hrest : DSchedContinue.Sided direction
        { continuation with queue := rest } := ⟨hsided.own, hsided.inState⟩
    rw [hstep]
    exact .inr ⟨event, rest, hqueue,
      (handled_processEvent hrest answers event).1⟩

section Ends

variable {direction : Direction} {continuation : DSchedContinue}
  {input : DSchedContinue.Input}

theorem step_ends (hsided : continuation.Sided direction)
    (hend : .executeContinueEnd errOk ∈ (continuation.step input).1) :
    ∃ event ∈ continuation.queue, continuation.PassesSuccess event := by
  rcases step_spoken hsided input with hquiet | ⟨event, rest, hqueue, hspoken⟩
  · simpa using hquiet _ hend
  · exact ⟨event, by simp [hqueue], hspoken.ends hend⟩

theorem step_cleans (hsided : continuation.Sided direction) {missionId : ℤ}
    (hclean : .cleanMission missionId ∈ (continuation.step input).1) :
    .executeContinueEnd errOk ∈ (continuation.step input).1 ∧
      direction = .source := by
  rcases step_spoken hsided input with hquiet | ⟨event, rest, hqueue, hspoken⟩
  · simpa using hquiet _ hclean
  · exact hspoken.cleans missionId hclean

theorem step_reports (hsided : continuation.Sided direction)
    (hreport : .notifyContinuationCallbackResult errOk ∈
      (continuation.step input).1) :
    .executeContinueEnd errOk ∈ (continuation.step input).1 := by
  rcases step_spoken hsided input with hquiet | ⟨event, rest, hqueue, hspoken⟩
  · simpa using hquiet _ hreport
  · exact hspoken.reports hreport

end Ends

theorem Backed.source_ends {done : Log → Prop} {pair : Pair}
    (hbacked : Backed done pair) {input : DSchedContinue.Input}
    (hend : .executeContinueEnd errOk ∈ (pair.source.step input).1) :
    done pair.log := by
  obtain ⟨event, hmem, hpasses⟩ := step_ends hbacked.source hend
  exact hbacked.sourceEvents event hmem
    (hpasses.elim .inr fun hcomplete => .inl hcomplete.1)

theorem Moving.keepsMission {pair : Pair} (hmoving : Moving pair)
    (move : Move) : KeepsMission pair move := by
  constructor
  · cases move with
    | source input =>
        intro hmem
        obtain ⟨effect, hend, heq⟩ := List.mem_map.mp hmem
        cases heq
        exact hmoving.toBacked.source_ends hend
    | sink input =>
        intro hmem
        obtain ⟨effect, -, heq⟩ := List.mem_map.mp hmem
        cases heq
    | toSink => simp [step_toSink_fst]
    | toSource => simp [step_toSource_fst]
  · cases move with
    | source input =>
        intro direction missionId hmem
        obtain ⟨effect, hclean, heq⟩ := List.mem_map.mp hmem
        cases heq
        have hend := (step_cleans hmoving.source hclean).1
        exact ⟨rfl, hmoving.toBacked.source_ends hend⟩
    | sink input =>
        intro direction missionId hmem
        obtain ⟨effect, hclean, heq⟩ := List.mem_map.mp hmem
        cases heq
        cases (step_cleans hmoving.sink hclean).2
    | toSink => simp [step_toSink_fst]
    | toSource => simp [step_toSource_fst]

/-- A continuation whose completion is reported on the sink only never loses
the mission of the source. -/
theorem keepsMission_run (subServiceType : SubType)
    (info : DSchedContinueInfo) (moves : List Move)
    (hmoves : EventRun.Meets Pair.step Pair.CompletesAtSink
      (.initial subServiceType info) moves) :
    EventRun.Meets Pair.step KeepsMission
      (.initial subServiceType info) moves := by
  have hgood : ∀ pair move, Moving pair → pair.CompletesAtSink move →
      KeepsMission pair move := fun _ move hmoving _ =>
    hmoving.keepsMission move
  have hstep : ∀ pair move, Moving pair → pair.CompletesAtSink move →
      Moving (pair.step move).2 := fun _ _ hmoving hguard =>
    moving_step hmoving hguard
  exact hmoves.guarantee hgood hstep (moving_initial subServiceType info)

def sampleInfo : DSchedContinueInfo where
  sourceDeviceId := "src".toList
  sourceBundleName := "app".toList
  sinkDeviceId := "dst".toList
  sinkBundleName := "app".toList
  continueType := []
  missionId := 7

def completionCall : DSchedContinue.Input :=
  .notifyCompleteContinuation "src".toList 7 true "app".toList

def pushMoves : List Move :=
  [.source (.process {}),
    .toSink (.start sampleInfo .push .source 0) 0 none,
    .sink (.process {}), .toSource (.reply .start 0 0) 0 none,
    .source (.process {}), .source (.startContinuation 0 ⟨none, true⟩),
    .source (.process {}), .toSink .data 0 none, .sink (.process {}),
    .sink completionCall, .sink (.process {}), .toSource (.ended 0) 0 none,
    .source (.process {}), .source (.process {})]

theorem keepsMission_push :
    EventRun.Meets Pair.step KeepsMission (.initial .push sampleInfo)
      pushMoves ∧
    (.source, .cleanMission 7) ∈
      (EventRun.run Pair.step (.initial .push sampleInfo) pushMoves).2.log :=
  ⟨keepsMission_run .push sampleInfo pushMoves (by decide +kernel),
    by decide +kernel⟩

/-- A completion call on the source device, while the peer has not even been
asked for anything but the start, removes the mission. -/
theorem not_keepsMission_sourceCompletion :
    ¬EventRun.Meets Pair.step KeepsMission (.initial .push sampleInfo)
      [.source (.process {}), .source completionCall,
        .source (.process {})] := by
  rintro ⟨-, -, hkeeps, -⟩
  have hmoved := hkeeps.ends (by decide +kernel)
  revert hmoved
  unfold MissionMoved
  decide +kernel

/-! ## The result told to the client -/

/-- A completion waits at the sink only after the start of its ability, or in
the end state, which does not take it. -/
structure Continuing (pair : Pair) : Prop
    extends Backed AbilityContinued pair where
  complete : .complete errOk ∈ pair.sink.queue →
    AbilityContinued pair.log ∨ pair.sink.state = .sinkEnd
  waiting : pair.sink.state = .sinkWaitEnd →
    (.sink, .startAbility errOk) ∈ pair.log

theorem abilityContinued_append (log more : Log)
    (hcontinued : AbilityContinued log) : AbilityContinued (log ++ more) :=
  hcontinued.trans (List.sublist_append_left log more)

theorem continuing_initial (subServiceType : SubType)
    (info : DSchedContinueInfo) :
    Continuing (.initial subServiceType info) where
  toBacked := backed_initial subServiceType info
  complete := by
    cases subServiceType <;>
      simp [Pair.initial, absent, DSchedContinue.ofRequest]
  waiting := by
    cases subServiceType <;>
      simp [Pair.initial, absent, DSchedContinue.ofRequest,
        DSchedContinue.startState]

section Continuing

variable {pair : Pair}

section ContinuingSteps

variable (hcontinuing : Continuing pair)

include hcontinuing

theorem Continuing.sourceStep {input : DSchedContinue.Input}
    (hreports : ¬pair.source.ReportsSuccess input) :
    Continuing (pair.updateSource (pair.source.step input)) where
  toBacked := hcontinuing.toBacked.sourceStep abilityContinued_append hreports
  complete := fun hmem => (hcontinuing.complete hmem).imp_left
    (abilityContinued_append _ _)
  waiting := fun hwait => List.mem_append.mpr (.inl (hcontinuing.waiting hwait))

theorem Continuing.sink_passes {event : Event} (hmem : event ∈ pair.sink.queue)
    (hpasses : pair.sink.PassesSuccess event) :
    AbilityContinued pair.log := by
  rcases hpasses with rfl | ⟨rfl, hstate⟩
  · exact hcontinuing.sinkEnded hmem
  · exact (hcontinuing.complete hmem).resolve_right hstate

theorem Continuing.updateSink {result : List Effect × DSchedContinue}
    (hsent : ∀ cmd ret, .sendCommand cmd ret ∉ result.1)
    (hsided : result.2.Sided .sink) (hstate : result.2.state = pair.sink.state)
    (hqueue : ∀ event ∈ result.2.queue, event ∈ pair.sink.queue ∨
      (event ≠ .ended errOk ∧ (event = .complete errOk →
        AbilityContinued (pair.log ++ result.1.map (.sink, ·)) ∨
          pair.sink.state = .sinkEnd))) :
    Continuing (pair.updateSink result) where
  toBacked := by
    refine hcontinuing.toBacked.updateSink abilityContinued_append hsided ?_
      (fun cmd hmem => absurd hmem (hsent cmd errOk))
      (fun _ _ _ _ ret hmem => absurd hmem (hsent _ ret))
    intro hmem
    rcases hqueue _ hmem with hold | hnew
    · exact hcontinuing.sinkEnded hold
    · exact absurd rfl hnew.1
  complete := by
    intro hmem
    rcases hqueue _ hmem with hold | hnew
    · exact (hcontinuing.complete hold).imp
        (abilityContinued_append _ _) hstate.trans
    · exact (hnew.2 rfl).imp id hstate.trans
  waiting := fun hwait =>
    List.mem_append.mpr (.inl (hcontinuing.waiting (hstate ▸ hwait)))

theorem Continuing.sinkProcess {answers : Answers} {event : Event}
    {rest : List Event} (hqueue : pair.sink.queue = event :: rest) :
    Continuing (pair.updateSink
      ({ pair.sink with queue := rest }.processEvent answers event)) := by
  have hhandled :=
    handled_processEvent (hcontinuing.sink.dequeue rest) answers event
  have hpasses : pair.sink.PassesSuccess event → AbilityContinued pair.log :=
    hcontinuing.sink_passes (by simp [hqueue])
  constructor
  · refine hcontinuing.toBacked.updateSink abilityContinued_append
      hhandled.2.sided ?_ ?_ hhandled.1.start
    · intro hmem
      rcases hhandled.2.posted _ hmem with hold | ⟨code, hcode, hposted⟩
      · exact hcontinuing.sinkEnded (by simp [hqueue, hold])
      · cases hcode
        exact hpasses (hposted rfl).1
    · intro cmd hmem hsuccess
      exact abilityContinued_append _ _
        (hpasses (hhandled.1.sent cmd hmem hsuccess).1)
  · intro hmem
    rcases hhandled.2.posted _ hmem with hold | ⟨code, hcode, -⟩
    · exact (hcontinuing.complete (by simp [hqueue, hold])).imp
        (abilityContinued_append _ _) hhandled.2.stays
    · cases hcode
  · intro hwait
    apply List.mem_append.mpr
    rcases hhandled.2.waits hwait with hold | ⟨-, hstart⟩
    · exact .inl (hcontinuing.waiting hold)
    · exact .inr (List.mem_map.mpr ⟨_, hstart, rfl⟩)

theorem Continuing.sinkStep {input : DSchedContinue.Input}
    (hguard : pair.CompletesInTime (.sink input)) :
    Continuing (pair.updateSink (pair.sink.step input)) := by
  rcases step_cases pair.sink input with
    ⟨removed, hstep⟩ | ⟨event, hevent, -, -, hstep⟩ | ⟨code, hcode, hstep⟩ |
    ⟨answers, event, rest, -, -, hqueue, hstep⟩
  · rw [hstep]
    exact hcontinuing.updateSink (by simp)
      ⟨hcontinuing.sink.own, hcontinuing.sink.inState⟩ rfl
      (fun _ hmem => .inl hmem)
  · rw [hstep]
    refine hcontinuing.updateSink (by simp) (hcontinuing.sink.post event) rfl ?_
    intro other hmem
    rcases DSchedContinue.mem_post.mp hmem with hold | rfl
    · exact .inl hold
    · exact .inr ⟨fun hended => hevent (.inr hended),
        fun hcomplete => absurd (.inl hcomplete) hevent⟩
  · rw [hstep]
    refine hcontinuing.updateSink (by simp [DSchedContinue.onNotifyComplete])
      (hcontinuing.sink.post _) rfl ?_
    intro other hmem
    rcases DSchedContinue.mem_post.mp hmem with hold | rfl
    · exact .inl hold
    · refine .inr ⟨by simp, fun hcomplete => ?_⟩
      cases hcomplete
      have hlate := hguard (hcode rfl)
      have hside := hcontinuing.sink.inState
      -- the call came after the start with the data, or in the end state
      cases hstate : pair.sink.state with
      | sinkWaitEnd =>
          exact .inl ((List.singleton_sublist.mpr
            (hcontinuing.waiting hstate)).append (List.Sublist.refl _))
      | sinkEnd => exact .inr rfl
      | sinkStart => exact absurd hstate hlate.1
      | data => exact absurd hstate hlate.2
      | _ => simp [hstate, StateType.direction] at hside
  · rw [hstep]
    exact hcontinuing.sinkProcess hqueue

theorem Continuing.recvSource (hcmd : cmd ∈ pair.toSource) (limit : ℤ)
    (missionBundle : Option Text) :
    Continuing { pair with
      toSource := pair.toSource.erase cmd
      source := notifyContinueDataRecv limit missionBundle pair.source cmd } :=
  ⟨hcontinuing.toBacked.recvSource hcmd limit missionBundle,
    hcontinuing.complete, hcontinuing.waiting⟩

theorem Continuing.recvSink (hcmd : cmd ∈ pair.toSink) (limit : ℤ)
    (missionBundle : Option Text) :
    Continuing { pair with
      toSink := pair.toSink.erase cmd
      sink := notifyContinueDataRecv limit missionBundle pair.sink cmd } where
  toBacked := hcontinuing.toBacked.recvSink hcmd limit missionBundle
  complete := by
    rcases notifyContinueDataRecv_cases limit missionBundle pair.sink cmd with
      ⟨info, subServiceType, own, appVersion, rfl, hrecv⟩ | hrecv |
      ⟨event, hevent, -, hrecv⟩
    · rw [hrecv]
      simp [DSchedContinue.ofStartCmd]
    · rw [hrecv]
      exact hcontinuing.complete
    · rw [hrecv]
      intro hmem
      rcases DSchedContinue.mem_post.mp hmem with hold | hnew
      · exact hcontinuing.complete hold
      · exact .inl (hcontinuing.toSink cmd hcmd (hevent (.inl hnew.symm)))
  waiting := by
    rcases notifyContinueDataRecv_cases limit missionBundle pair.sink cmd with
      ⟨info, subServiceType, own, appVersion, rfl, hrecv⟩ | hrecv |
      ⟨event, -, -, hrecv⟩
    · rw [hrecv]
      cases own <;> simp [DSchedContinue.ofStartCmd, DSchedContinue.startState]
    · rw [hrecv]
      exact hcontinuing.waiting
    · rw [hrecv]
      exact hcontinuing.waiting

theorem continuing_step {move : Move} (hguard : pair.CompletesInTime move) :
    Continuing (pair.step move).2 := by
  cases move with
  | source input => exact hcontinuing.sourceStep hguard
  | sink input => exact hcontinuing.sinkStep hguard
  | toSink cmd limit missionBundle =>
      simp only [Pair.step]
      split_ifs with hcmd
      · exact hcontinuing.recvSink hcmd limit missionBundle
      · exact hcontinuing
  | toSource cmd limit missionBundle =>
      simp only [Pair.step]
      split_ifs with hcmd
      · exact hcontinuing.recvSource hcmd limit missionBundle
      · exact hcontinuing

theorem Continuing.reportsTruly (move : Move) : ReportsTruly pair move := by
  intro conflicts direction result hmem hok
  obtain rfl := (convertToDmsSdkErr_eq_errOk_iff conflicts result).mp hok
  cases move with
  | source input =>
      obtain ⟨effect, hreport, heq⟩ := List.mem_map.mp hmem
      cases heq
      exact hcontinuing.toBacked.source_ends
        (step_reports hcontinuing.source hreport)
  | sink input =>
      obtain ⟨effect, hreport, heq⟩ := List.mem_map.mp hmem
      cases heq
      obtain ⟨event, hevent, hpasses⟩ := step_ends hcontinuing.sink
        (step_reports hcontinuing.sink hreport)
      exact hcontinuing.sink_passes hevent hpasses
  | toSink => simp [step_toSink_fst] at hmem
  | toSource => simp [step_toSource_fst] at hmem

end ContinuingSteps

end Continuing

/-- A continuation whose completion calls come in time tells its client about
success only when there was one. -/
theorem reportsTruly_run (subServiceType : SubType)
    (info : DSchedContinueInfo) (moves : List Move)
    (hmoves : EventRun.Meets Pair.step Pair.CompletesInTime
      (.initial subServiceType info) moves) :
    EventRun.Meets Pair.step ReportsTruly
      (.initial subServiceType info) moves := by
  have hgood : ∀ pair move, Continuing pair → pair.CompletesInTime move →
      ReportsTruly pair move := fun _ move hcontinuing _ =>
    hcontinuing.reportsTruly move
  have hstep : ∀ pair move, Continuing pair → pair.CompletesInTime move →
      Continuing (pair.step move).2 := fun _ _ hcontinuing hguard =>
    continuing_step hcontinuing hguard
  exact hmoves.guarantee hgood hstep (continuing_initial subServiceType info)

def pullMoves : List Move :=
  [.sink (.process {}), .toSource (.start sampleInfo .pull .sink 0) 0 none,
    .source (.process {}), .source (.startContinuation 0 ⟨none, true⟩),
    .source (.process {}), .toSink .data 0 none, .sink (.process {}),
    .sink completionCall, .sink (.process {}), .toSource (.ended 0) 0 none,
    .source (.process {}), .toSink (.reply .ended 0 0) 0 none,
    .sink (.process {})]

theorem reportsTruly_pull :
    EventRun.Meets Pair.step ReportsTruly (.initial .pull sampleInfo)
      pullMoves ∧
    (.sink, .notifyContinuationCallbackResult errOk) ∈
      (EventRun.run Pair.step (.initial .pull sampleInfo) pullMoves).2.log :=
  ⟨reportsTruly_run .pull sampleInfo pullMoves (by decide +kernel),
    by decide +kernel⟩

def quickStartInfo : DSchedContinueInfo :=
  { sampleInfo with continueType := "app_ContinueQuickStart".toList }

/-- The completion of a quick-started ability before the data arrives ends the
continuation with success. -/
theorem not_reportsTruly_quickStart :
    ¬EventRun.Meets Pair.step ReportsTruly (.initial .pull quickStartInfo)
      [.sink (.process {}), .sink completionCall, .sink (.process {})] := by
  rintro ⟨-, -, hreports, -⟩
  have hcontinued := hreports ⟨[], []⟩ .sink errOk (by decide +kernel) rfl
  revert hcontinued
  unfold AbilityContinued
  decide +kernel

end Continuation
end Dmsfwk
