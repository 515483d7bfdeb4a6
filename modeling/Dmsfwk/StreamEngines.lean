import Dmsfwk.EventRun

/-!
# States of the stream engines

A sender and a receiver engine keep a state of their own beside that of the
pipeline.  The calls which set it in any state, and the ways in which the two
engines stop, decide whether it says that the pipeline runs.
-/

namespace Dmsfwk
namespace StreamEngines

open EventRun

inductive EngineState where
  | empty | init | setting | prepare | start | stop | error
  deriving DecidableEq

/-- `Media::Status`, with what the pipeline and its filters answer. -/
inductive Status where
  | ok | errorNullPointer | errorWrongState | failed (code : Int32)
  deriving DecidableEq

/-- The head filter and the one behind it are never taken away from the engine.
Whether the pipeline runs is not known to the engine. -/
structure Engine where
  curState : EngineState := .empty
  headFilter : Bool := false
  nextFilter : Bool := false
  running : Bool := false

/-- What a call returns, and whether it called `Stop` of the pipeline. -/
structure Answer where
  status : Status := .ok
  pipelineStop : Bool := false

inductive Event where
  | setVideoSource (addHeadFilters : Status)
  | setVideoSurface (ret : Status)
  | configure
  | prepare (filterConfigure pipelinePrepare : Status) (nextFilter : Bool)
  | start (ret : Status)
  | stop (ret : Status)
  | onError (ret : Status)
  | onReady

namespace Engine

def changeState (engine : Engine) (state : EngineState) : Engine :=
  { engine with curState := state }

/-- `InitVideoHeaderFilter` and `InitRecvHeaderFilter`. -/
def setVideoSource (engine : Engine) (addHeadFilters : Status) :
    Answer × Engine :=
  let engine := { engine with headFilter := true }
  if addHeadFilters = .ok then ({}, engine.changeState .init) else ({}, engine)

def preparePipeline (engine : Engine) (pipelinePrepare : Status)
    (nextFilter : Bool) : Answer × Engine :=
  let engine := { engine with nextFilter := engine.nextFilter || nextFilter }
  if pipelinePrepare ≠ .ok then ({ status := pipelinePrepare }, engine)
  else ({}, engine.changeState .prepare)

def start (engine : Engine) (ret : Status) : Answer × Engine :=
  if !engine.nextFilter then ({ status := .errorNullPointer }, engine)
  else if engine.curState = .start then ({}, engine)
  else if engine.curState ≠ .prepare ∧ engine.curState ≠ .stop then
    ({ status := .errorWrongState }, engine)
  else if ret = .ok then
    ({}, { engine with running := true }.changeState .start)
  else ({ status := ret }, engine)

/-- `Stop`, which leaves the engine in the given state when the pipeline has
stopped. -/
def stopInto (state : EngineState) (engine : Engine) (ret : Status) :
    Answer × Engine :=
  if engine.curState = .init ∨ engine.curState = .stop then ({}, engine)
  else if engine.curState ≠ .start then ({ status := .errorWrongState }, engine)
  else if ret = .ok then
    ({ pipelineStop := true },
      { engine with running := false }.changeState state)
  else ({ status := ret, pipelineStop := true }, engine)

end Engine

namespace AVSenderEngine

def configure (engine : Engine) : Answer × Engine :=
  ({}, engine.changeState .setting)

def prepare (engine : Engine) (filterConfigure pipelinePrepare : Status)
    (nextFilter : Bool) : Answer × Engine :=
  if !engine.headFilter then ({ status := .errorNullPointer }, engine)
  else if filterConfigure ≠ .ok then ({ status := filterConfigure }, engine)
  else engine.preparePipeline pipelinePrepare nextFilter

def stop : Engine → Status → Answer × Engine :=
  Engine.stopInto .stop

def onError (engine : Engine) (ret : Status) : Answer × Engine :=
  stop (engine.changeState .error) ret

end AVSenderEngine

namespace AVReceiverEngine

def setVideoSurface (engine : Engine) (ret : Status) : Answer × Engine :=
  if ret ≠ .ok then ({ status := ret }, engine)
  else ({}, engine.changeState .setting)

def configure (engine : Engine) : Answer × Engine :=
  if !engine.headFilter then ({ status := .errorNullPointer }, engine)
  else ({}, engine.changeState .setting)

def prepare (engine : Engine) (pipelinePrepare : Status) (nextFilter : Bool) :
    Answer × Engine :=
  if !engine.headFilter then ({ status := .errorNullPointer }, engine)
  else engine.preparePipeline pipelinePrepare nextFilter

def stop : Engine → Status → Answer × Engine :=
  Engine.stopInto .start

def onError (engine : Engine) (ret : Status) : Answer × Engine :=
  ((stop engine ret).1, (stop engine ret).2.changeState .error)

end AVReceiverEngine

inductive Side where
  | sender | receiver
  deriving DecidableEq

/-- `EVENT_READY` only comes while the pipeline runs, and a sender has no surface
to set. -/
def step (side : Side) (engine : Engine) : Event → Answer × Engine
  | .setVideoSource addHeadFilters => engine.setVideoSource addHeadFilters
  | .setVideoSurface ret =>
      match side with
      | .sender => ({}, engine)
      | .receiver => AVReceiverEngine.setVideoSurface engine ret
  | .configure =>
      match side with
      | .sender => AVSenderEngine.configure engine
      | .receiver => AVReceiverEngine.configure engine
  | .prepare filterConfigure pipelinePrepare nextFilter =>
      match side with
      | .sender =>
          AVSenderEngine.prepare engine filterConfigure pipelinePrepare nextFilter
      | .receiver => AVReceiverEngine.prepare engine pipelinePrepare nextFilter
  | .start ret => engine.start ret
  | .stop ret =>
      match side with
      | .sender => AVSenderEngine.stop engine ret
      | .receiver => AVReceiverEngine.stop engine ret
  | .onError ret =>
      match side with
      | .sender => AVSenderEngine.onError engine ret
      | .receiver => AVReceiverEngine.onError engine ret
  | .onReady =>
      if engine.running then ({}, engine.changeState .start) else ({}, engine)

/-! ## The property of a step -/

/-- The state says whether the pipeline runs; a stop that returns OK has stopped
it, and it can be started again; an error stops it. -/
def StateFollows (side : Side) (engine : Engine) (event : Event) : Prop :=
  let answer := (step side engine event).1
  let next := (step side engine event).2
  (next.curState = .start ↔ next.running = true) ∧
  match event with
  | .stop _ => answer.status = .ok → next.running = false ∧
      (step side next (.start .ok)).2.running = true
  | .onError _ => engine.running = true → answer.pipelineStop = true
  | _ => True

/-- The calls that set the state leave a running pipeline alone, and the engine
stops it on the ways that work. -/
def CallFits (side : Side) (engine : Engine) : Event → Prop
  | .setVideoSource addHeadFilters =>
      addHeadFilters = .ok → engine.running = false
  | .setVideoSurface ret =>
      side = .receiver → ret = .ok → engine.running = false
  | .configure => engine.running = false
  | .prepare filterConfigure pipelinePrepare _ =>
      (side = .sender → filterConfigure = .ok) → pipelinePrepare = .ok →
        engine.running = false
  | .start _ | .onReady => True
  | .stop ret => engine.curState ≠ .init ∧
      (side = .receiver → engine.running = true → ret ≠ .ok)
  | .onError ret => engine.running = true → side = .receiver ∧ ret = .ok

structure Equipped (engine : Engine) : Prop where
  headFilter : engine.curState = .prepare → engine.headFilter = true
  filters : engine.running = true ∨ engine.curState = .start ∨
    engine.curState = .stop →
      engine.headFilter = true ∧ engine.nextFilter = true

structure Following (engine : Engine) : Prop extends Equipped engine where
  start_iff : engine.curState = .start ↔ engine.running = true

section Steps

variable {engine : Engine} {side : Side}

theorem Following.of_idle (following : Following engine)
    (hidle : engine.running = false) : engine.curState ≠ .start := by
  intro hstart
  rw [following.start_iff.mp hstart] at hidle
  cases hidle

theorem Equipped.changeState (equipped : Equipped engine) {state : EngineState}
    (hstate : state ≠ .prepare ∧ state ≠ .start ∧ state ≠ .stop) :
    Equipped (engine.changeState state) where
  headFilter hprepare := absurd hprepare hstate.1
  filters hneeds := by
    rcases hneeds with hrunning | hstart | hstop
    · exact equipped.filters (.inl hrunning)
    · exact absurd hstart hstate.2.1
    · exact absurd hstop hstate.2.2

theorem equipped_setVideoSource (equipped : Equipped engine)
    (addHeadFilters : Status) :
    Equipped (engine.setVideoSource addHeadFilters).2 := by
  have hheaded : Equipped { engine with headFilter := true } :=
    ⟨fun _ => rfl, fun hneeds => ⟨rfl, (equipped.filters hneeds).2⟩⟩
  rw [Engine.setVideoSource]
  split_ifs
  · exact hheaded.changeState (by decide)
  · exact hheaded

theorem equipped_preparePipeline (equipped : Equipped engine)
    (hhead : engine.headFilter = true) (pipelinePrepare : Status)
    (nextFilter : Bool) :
    Equipped (engine.preparePipeline pipelinePrepare nextFilter).2 := by
  have hfilters := equipped.filters
  rw [Engine.preparePipeline]
  split_ifs
  · exact ⟨fun _ => hhead, fun hneeds => ⟨hhead, by simp [hfilters hneeds]⟩⟩
  · refine ⟨fun _ => hhead, fun hneeds => ⟨hhead, ?_⟩⟩
    simp only [Engine.changeState, reduceCtorEq, or_false] at hneeds
    simp [Engine.changeState, hfilters (.inl hneeds)]

theorem equipped_start (equipped : Equipped engine) (ret : Status) :
    Equipped (engine.start ret).2 := by
  rw [Engine.start]
  split_ifs with hnext hstart hstate
  · exact equipped
  · exact equipped
  · exact equipped
  · have hhead : engine.headFilter = true := by
      by_cases hprepare : engine.curState = .prepare
      · exact equipped.headFilter hprepare
      · exact (equipped.filters (.inr (.inr (by tauto)))).1
    exact ⟨fun _ => hhead, fun _ => ⟨hhead, by simpa [Engine.changeState] using hnext⟩⟩
  · exact equipped

theorem equipped_stopInto (equipped : Equipped engine) {state : EngineState}
    (hstate : state ≠ .prepare) (ret : Status) :
    Equipped (engine.stopInto state ret).2 := by
  rw [Engine.stopInto]
  split_ifs with hstopped hstart
  · exact equipped
  · exact equipped
  · exact ⟨fun hprepare => absurd hprepare hstate,
      fun _ => equipped.filters (.inr (.inl (by simpa using hstart)))⟩
  · exact equipped

theorem equipped_step (equipped : Equipped engine) (event : Event) :
    Equipped (step side engine event).2 := by
  have hsetting : Equipped (engine.changeState .setting) :=
    equipped.changeState (by decide)
  cases event with
  | setVideoSource addHeadFilters =>
      exact equipped_setVideoSource equipped addHeadFilters
  | setVideoSurface ret =>
      cases side with
      | sender => exact equipped
      | receiver =>
          simp only [step, AVReceiverEngine.setVideoSurface]
          split_ifs
          · exact equipped
          · exact hsetting
  | configure =>
      cases side with
      | sender => exact hsetting
      | receiver =>
          simp only [step, AVReceiverEngine.configure]
          split_ifs
          · exact equipped
          · exact hsetting
  | prepare filterConfigure pipelinePrepare nextFilter =>
      cases side <;>
        simp only [step, AVSenderEngine.prepare, AVReceiverEngine.prepare] <;>
        split_ifs with hhead
      · exact equipped
      · exact equipped
      · exact equipped_preparePipeline equipped (by simpa using hhead) _ _
      · exact equipped
      · exact equipped_preparePipeline equipped (by simpa using hhead) _ _
  | start ret => exact equipped_start equipped ret
  | stop ret => cases side <;> exact equipped_stopInto equipped (by decide) ret
  | onError ret =>
      cases side with
      | sender =>
          exact equipped_stopInto (equipped.changeState (by decide)) (by decide) ret
      | receiver =>
          exact (equipped_stopInto equipped (by decide) ret).changeState (by decide)
  | onReady =>
      simp only [step]
      split_ifs with hrunning
      · have hfilters := equipped.filters (.inl hrunning)
        exact ⟨fun _ => hfilters.1, fun _ => hfilters⟩
      · exact equipped

theorem stateFollows_start (following : Following engine) (ret : Status) :
    StateFollows side engine (.start ret) := by
  refine ⟨?_, trivial⟩
  have hiff := following.start_iff
  simp only [step, Engine.start, Engine.changeState]
  split_ifs <;> simp [hiff]

theorem stateFollows_stop_iff (following : Following engine) (ret : Status) :
    StateFollows side engine (.stop ret) ↔ CallFits side engine (.stop ret) := by
  obtain ⟨curState, headFilter, nextFilter, running⟩ := engine
  obtain ⟨⟨-, hfilters⟩, hstart⟩ := following
  cases side <;> cases curState <;> cases running <;> cases nextFilter <;>
    by_cases hret : ret = .ok <;>
    simp_all [StateFollows, CallFits, step, AVSenderEngine.stop,
      AVReceiverEngine.stop, Engine.stopInto, Engine.changeState, Engine.start]

theorem stateFollows_onError_iff (following : Following engine) (ret : Status) :
    StateFollows side engine (.onError ret) ↔
      CallFits side engine (.onError ret) := by
  obtain ⟨curState, headFilter, nextFilter, running⟩ := engine
  have hstart := following.start_iff
  cases side <;> cases curState <;> cases running <;>
    by_cases hret : ret = .ok <;>
    simp_all [StateFollows, CallFits, step, AVSenderEngine.onError,
      AVReceiverEngine.onError, AVSenderEngine.stop, AVReceiverEngine.stop,
      Engine.stopInto, Engine.changeState]

theorem stateFollows_iff (following : Following engine) (event : Event) :
    StateFollows side engine event ↔ CallFits side engine event := by
  have hiff := following.start_iff
  cases event with
  | setVideoSource addHeadFilters =>
      by_cases hret : addHeadFilters = .ok <;>
        simp [StateFollows, CallFits, step, Engine.setVideoSource,
          Engine.changeState, hret, hiff]
  | setVideoSurface ret =>
      cases side <;> by_cases hret : ret = .ok <;>
        simp [StateFollows, CallFits, step, AVReceiverEngine.setVideoSurface,
          Engine.changeState, hret, hiff]
  | configure =>
      cases side with
      | sender =>
          simp [StateFollows, CallFits, step, AVSenderEngine.configure,
            Engine.changeState]
      | receiver =>
          cases hrunning : engine.running with
          | false =>
              have hidle := following.of_idle hrunning
              by_cases hhead : engine.headFilter <;>
                simp [StateFollows, CallFits, step, AVReceiverEngine.configure,
                  Engine.changeState, hrunning, hidle, hhead]
          | true =>
              have hhead := (following.filters (.inl hrunning)).1
              simp [StateFollows, CallFits, step, AVReceiverEngine.configure,
                Engine.changeState, hrunning, hhead]
  | prepare filterConfigure pipelinePrepare nextFilter =>
      cases hrunning : engine.running with
      | false =>
          have hidle := following.of_idle hrunning
          simp only [StateFollows, CallFits, step, hrunning, implies_true,
            and_true, iff_true]
          cases side <;>
            simp only [AVSenderEngine.prepare, AVReceiverEngine.prepare,
              Engine.preparePipeline, Engine.changeState] <;>
            split_ifs <;> simp [hidle, hrunning]
      | true =>
          have hstart := following.start_iff.mpr hrunning
          have hhead := (following.filters (.inl hrunning)).1
          cases side <;> by_cases hconfigure : filterConfigure = .ok <;>
            by_cases hprepare : pipelinePrepare = .ok <;>
            simp [StateFollows, CallFits, step, AVSenderEngine.prepare,
              AVReceiverEngine.prepare, Engine.preparePipeline,
              Engine.changeState, hrunning, hstart, hhead, hconfigure, hprepare]
  | start ret => exact iff_of_true (stateFollows_start following ret) trivial
  | stop ret => exact stateFollows_stop_iff following ret
  | onError ret => exact stateFollows_onError_iff following ret
  | onReady =>
      refine iff_of_true ⟨?_, trivial⟩ trivial
      simp only [step, Engine.changeState]
      split_ifs with hrunning <;> simp [hrunning, hiff]

theorem following_step (following : Following engine) (event : Event)
    (hfits : CallFits side engine event) :
    Following (step side engine event).2 where
  toEquipped := equipped_step following.toEquipped event
  start_iff := ((stateFollows_iff following event).mpr hfits).1

end Steps

/-- In every run of a sender or a receiver, the state follows the pipeline at
each step exactly when each step fits. -/
theorem engines_follow_iff (side : Side) (events : List Event) :
    Meets (step side) (StateFollows side) {} events ↔
      Meets (step side) (CallFits side) {} events :=
  meets_iff_of_invariant (fun _ event following => stateFollows_iff following event)
    (fun _ event following hfits => following_step following event hfits)
    events ⟨⟨by decide, by decide⟩, by decide⟩

/-- An error changes the state of a sender before `Stop` looks at it. -/
theorem not_follows_senderError :
    ¬ Meets (step .sender) (StateFollows .sender) {}
      [.setVideoSource .ok, .configure, .prepare .ok .ok true, .start .ok,
        .onError .ok] := by
  rintro ⟨-, -, -, -, ⟨-, hstop⟩, -⟩
  exact absurd (hstop rfl) (by decide)

end StreamEngines
end Dmsfwk
