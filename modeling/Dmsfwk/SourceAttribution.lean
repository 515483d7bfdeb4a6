import Dmsfwk.CollabRedirection
import Dmsfwk.ContinueEndOnce
import Dmsfwk.PeerRequests

/-!
# Whose request it is

The device ids in the commands are written by the peers.  A sink attributes a
request to the device that sent it when the ids which its checks use are the
peers of the sessions on which the commands with them arrived.
-/

namespace Dmsfwk

open Continuation CollabRoles OrderedMap

def RunningCollab.AwaitsStart {Params : Type}
    (running : RunningCollab Params) : Prop :=
  running.collab.state = .sinkGetVersion ∨ running.collab.state = .sinkStart

instance {Params : Type} (running : RunningCollab Params) :
    Decidable running.AwaitsStart :=
  inferInstanceAs (Decidable (_ ∨ _))

namespace PeerService

variable {Params AbilityInfo : Type}

/-! ## Attribution -/

def Attributed (service : PeerService Params AbilityInfo)
    (input : ServiceInput Params AbilityInfo) : Prop :=
  ∀ used ∈ (service.step input).1, ∀ peer ∈ used.peer,
    used.sourceDeviceId = peer

instance (service : PeerService Params AbilityInfo) :
    DecidablePred service.Attributed :=
  fun input => inferInstanceAs (Decidable
    (∀ used ∈ (service.step input).1, ∀ peer ∈ used.peer,
      used.sourceDeviceId = peer))

/-- A start command that makes the receiver a sink names the peer, and so does a
data command which names the source of the continuation that gets it. -/
def ContinueNamesPeer (service : PeerService Params AbilityInfo)
    (arrival : Arrival (ContinueCmd AbilityInfo)) : Prop :=
  match service.findContinue arrival.sessionId, arrival.command with
  | none, .start info _ direction _ =>
      direction = .source → info.sourceDeviceId = arrival.peerDeviceId
  | some (_, entry), .data cmd =>
      cmd.callerInfo.sourceDeviceId =
          entry.continuation.continueInfo.sourceDeviceId →
        cmd.callerInfo.sourceDeviceId = arrival.peerDeviceId
  | _, _ => True

/-- A start command for a sink that has not started its ability names the peer,
as the source and as the device of the caller. -/
def CollabNamesPeer (service : PeerService Params AbilityInfo)
    (arrival : Arrival (CollabCmd Params)) : Prop :=
  match arrival.command with
  | .other collabToken (.sinkStart cmd) =>
      ∀ found ∈ service.findCollab arrival.sessionId collabToken,
        found.2.running.AwaitsStart →
          cmd.base.srcDeviceId = arrival.peerDeviceId ∧
            cmd.callerInfo.sourceDeviceId = arrival.peerDeviceId
  | _ => True

instance (service : PeerService Params AbilityInfo) :
    DecidablePred service.ContinueNamesPeer := by
  intro arrival
  unfold ContinueNamesPeer
  split <;> infer_instance

instance (service : PeerService Params AbilityInfo) :
    DecidablePred service.CollabNamesPeer := by
  intro arrival
  unfold CollabNamesPeer
  split <;> infer_instance

def NamesPeer (service : PeerService Params AbilityInfo) :
    ServiceInput Params AbilityInfo → Prop
  | .continueTask _ _ =>
      ∀ arrival ∈ service.continueTasks.head?, service.ContinueNamesPeer arrival
  | .collabTask _ _ _ =>
      ∀ arrival ∈ service.collabTasks.head?, service.CollabNamesPeer arrival
  | _ => True

instance (service : PeerService Params AbilityInfo) :
    DecidablePred service.NamesPeer := by
  intro input
  unfold NamesPeer
  split <;> infer_instance

end PeerService

/-! ## The source of a continuation -/

namespace Continuation.DSchedContinue

variable {continuation : DSchedContinue} {answers : Continuation.Answers}
  {event : Continuation.Event}

theorem sourceDeviceId_execute :
    (continuation.execute answers event).2.2.continueInfo.sourceDeviceId =
      continuation.continueInfo.sourceDeviceId := by
  have hreq : (continuation.executeContinueReq
      answers).2.2.continueInfo.sourceDeviceId =
        continuation.continueInfo.sourceDeviceId := by
    unfold executeContinueReq
    cases continuation.packStartCmd answers <;> (dsimp only; split_ifs <;> rfl)
  have hability : ∀ appVersion, (continuation.executeContinueAbility answers
      appVersion).2.2.continueInfo.sourceDeviceId =
        continuation.continueInfo.sourceDeviceId := by
    intro appVersion
    unfold executeContinueAbility getMissionIdByBundleName
    split_ifs <;> (dsimp only; split_ifs <;> rfl)
  have hreply : (continuation.executeContinueReply
      answers).2.2.continueInfo.sourceDeviceId =
        continuation.continueInfo.sourceDeviceId := by
    unfold executeContinueReply
    split_ifs <;> rfl
  have hsend : ∀ want, (continuation.executeContinueSend answers
      want).2.2.continueInfo.sourceDeviceId =
        continuation.continueInfo.sourceDeviceId := by
    intro want
    unfold executeContinueSend
    split_ifs <;> rfl
  have hdata : (continuation.executeContinueData
      answers).2.2.continueInfo.sourceDeviceId =
        continuation.continueInfo.sourceDeviceId := by
    unfold executeContinueData
    dsimp only
    split_ifs <;> rfl
  have hcomplete : ∀ result, (continuation.executeNotifyComplete answers
      result).2.2.continueInfo.sourceDeviceId =
        continuation.continueInfo.sourceDeviceId := by
    intro result
    unfold executeNotifyComplete
    split_ifs <;> rfl
  have hend : ∀ result, (continuation.executeContinueEnd answers
      result).2.2.continueInfo.sourceDeviceId =
        continuation.continueInfo.sourceDeviceId := by
    intro result
    unfold executeContinueEnd notifyContinuationCallbackResult
    split_ifs <;> rfl
  have herror : ∀ result, (continuation.executeContinueError answers
      result).2.2.continueInfo.sourceDeviceId =
        continuation.continueInfo.sourceDeviceId := fun _ => rfl
  unfold execute
  split
  · exact hreq
  · exact hability _
  · exact hend _
  · exact herror _
  · exact hsend _
  · exact hend _
  · exact herror _
  · exact hcomplete _
  · exact herror _
  · exact hend _
  · exact hreq
  · exact hreply
  · exact hend _
  · exact herror _
  · exact hdata
  · exact hend _
  · exact herror _
  · exact hcomplete _
  · exact herror _
  · exact hend _
  · rfl

theorem sourceDeviceId_processEvent :
    (continuation.processEvent answers event).2.continueInfo.sourceDeviceId =
      continuation.continueInfo.sourceDeviceId := by
  have hexecute : (continuation.execute answers
      event).2.2.continueInfo.sourceDeviceId =
        continuation.continueInfo.sourceDeviceId := sourceDeviceId_execute
  unfold processEvent
  split
  next ret effects next heq =>
    rw [heq] at hexecute
    split_ifs
    · exact hexecute
    · exact hexecute

structure SameSource (continuation next : DSchedContinue) : Prop where
  sourceDeviceId : next.continueInfo.sourceDeviceId =
    continuation.continueInfo.sourceDeviceId
  sided : ∀ direction, continuation.Sided direction → next.Sided direction

theorem sameSource_step (continuation : DSchedContinue) (input : Input) :
    SameSource continuation (continuation.step input).2 := by
  rcases step_cases continuation input with ⟨removed, hstep⟩ |
    ⟨event, -, -, -, hstep⟩ | ⟨result, -, hstep⟩ |
    ⟨answers, event, rest, -, -, -, hstep⟩
  · rw [hstep]
    exact ⟨rfl, fun _ hsided => ⟨hsided.own, hsided.inState⟩⟩
  · rw [hstep]
    exact ⟨rfl, fun _ hsided => hsided.post event⟩
  · rw [hstep]
    exact ⟨rfl, fun _ hsided => hsided.post _⟩
  · rw [hstep]
    exact ⟨sourceDeviceId_processEvent, fun _ hsided =>
      (handled_processEvent (hsided.dequeue rest) answers event).2.sided⟩

theorem sameSource_onDataRecv (continuation : DSchedContinue)
    (cmd : Continuation.Cmd) :
    SameSource continuation (continuation.onDataRecv cmd) := by
  have hpost : ∀ event, SameSource continuation (continuation.post event) :=
    fun event => ⟨rfl, fun _ hsided => hsided.post event⟩
  unfold onDataRecv
  split_ifs
  · exact ⟨rfl, fun _ => id⟩
  · split
    · exact ⟨rfl, fun _ => id⟩
    · exact hpost _
    · exact hpost _
    · exact hpost _
    · exact ⟨rfl, fun _ => id⟩
    · exact hpost _

/-- Whatever a continuation is asked and told, it keeps its source device, and its
states are those of the side it was created on. -/
theorem side_run (origin : Origin) (stimuli : List Stimulus) :
    let next := (EventRun.run Recorded.step (.initial origin) stimuli).2
    next.continuation.continueInfo.sourceDeviceId =
        origin.create.continueInfo.sourceDeviceId ∧
      next.continuation.Sided origin.create.direction := by
  have hstep : ∀ (recorded : Recorded) stimulus,
      SameSource origin.create recorded.continuation →
      SameSource origin.create (recorded.step stimulus).2.continuation := by
    intro recorded stimulus hsame
    have hnext : SameSource recorded.continuation
        (recorded.step stimulus).2.continuation := by
      cases stimulus with
      | input input => exact sameSource_step _ input
      | recv cmd => exact sameSource_onDataRecv _ cmd
    exact ⟨hnext.sourceDeviceId.trans hsame.sourceDeviceId,
      fun direction hsided => hnext.sided direction (hsame.sided direction hsided)⟩
  have hstart : SameSource origin.create (Recorded.initial origin).continuation :=
    ⟨rfl, fun _ => id⟩
  have hsame := EventRun.run_invariant hstep stimuli hstart
  refine ⟨hsame.sourceDeviceId, hsame.sided _ ⟨rfl, ?_⟩⟩
  cases origin with
  | request direction info => cases direction <;> rfl
  | startCmd missionBundle info direction appVersion => cases direction <;> rfl

end Continuation.DSchedContinue

namespace PeerContinue

variable {AbilityInfo : Type} {entry : PeerContinue AbilityInfo}

structure Named (entry : PeerContinue AbilityInfo) : Prop where
  sided : entry.continuation.Sided entry.continuation.direction
  start : entry.continuation.direction = .sink → ∀ peer ∈ entry.startPeer,
    entry.continuation.continueInfo.sourceDeviceId = peer
  data : ∀ kept ∈ entry.dataCmds,
    kept.1.callerInfo.sourceDeviceId =
        entry.continuation.continueInfo.sourceDeviceId →
      kept.1.callerInfo.sourceDeviceId = kept.2

theorem Named.of_sameSource {next : DSchedContinue}
    {dataCmds : List (ContinueDataCmd AbilityInfo × Text)}
    (hnamed : entry.Named) (hsame : entry.continuation.SameSource next)
    (hdata : ∀ kept ∈ dataCmds, kept ∈ entry.dataCmds ∨
      (kept.1.callerInfo.sourceDeviceId =
          entry.continuation.continueInfo.sourceDeviceId →
        kept.1.callerInfo.sourceDeviceId = kept.2))
    (softbusSessionId : ℤ) :
    Named { entry with
      continuation := next
      softbusSessionId := softbusSessionId
      dataCmds := dataCmds } := by
  have hsided := hsame.sided _ hnamed.sided
  refine ⟨⟨rfl, hsided.own.symm ▸ hsided.inState⟩, ?_, ?_⟩
  · intro hsink peer hpeer
    exact hsame.sourceDeviceId.trans
      (hnamed.start (hsided.own.symm.trans hsink) peer hpeer)
  · intro kept hkept hnames
    have hbefore : kept.1.callerInfo.sourceDeviceId =
        entry.continuation.continueInfo.sourceDeviceId :=
      hnames.trans hsame.sourceDeviceId
    rcases hdata kept hkept with hold | hnew
    · exact hnamed.data kept hold hbefore
    · exact hnew hbefore

variable {localDeviceId : Option Text}

theorem sourceDeviceId_of_checkDeviceId {cmd : ContinueDataCmd AbilityInfo}
    (hcheck : entry.checkDeviceId localDeviceId cmd = true) :
    cmd.callerInfo.sourceDeviceId =
      entry.continuation.continueInfo.sourceDeviceId := by
  unfold checkDeviceId at hcheck
  cases localDeviceId with
  | none => cases hcheck
  | some localDevId =>
      simp only [checkDeviceIdFromRemote, Bool.and_eq_true,
        decide_eq_true_eq] at hcheck
      exact hcheck.2

theorem Named.uses (hnamed : entry.Named) {cmd : ContinueDataCmd AbilityInfo}
    {peer : Text} (hstate : entry.continuation.state = .data)
    (hkept : (cmd, peer) ∈ entry.dataCmds) :
    ∀ used ∈ entry.uses localDeviceId cmd peer, ∀ named ∈ used.peer,
      used.sourceDeviceId = named := by
  have hsink : entry.continuation.direction = .sink := by
    rw [← hnamed.sided.inState, hstate]
    rfl
  have hstart := hnamed.start hsink
  intro used hused named hpeer
  unfold PeerContinue.uses at hused
  split_ifs at hused with hcheck
  · rcases List.mem_pair.mp hused with rfl | rfl
    · exact hstart named hpeer
    · rw [← Option.some.inj hpeer]
      exact hnamed.data (cmd, peer) hkept
        (sourceDeviceId_of_checkDeviceId hcheck)
  · rw [List.mem_singleton.mp hused] at hpeer ⊢
    exact hstart named hpeer

theorem Named.process {answers : Continuation.Answers} {sessionId : ℤ}
    (hnamed : entry.Named) :
    (∀ used ∈ (entry.process answers localDeviceId sessionId).1,
        ∀ named ∈ used.peer, used.sourceDeviceId = named) ∧
      (entry.process answers localDeviceId sessionId).2.Named := by
  unfold PeerContinue.process
  split
  · next cmd peer rest hqueue hdata =>
      refine ⟨?_, ?_⟩
      · split_ifs with hstate
        · exact hnamed.uses hstate.1 (by rw [hdata]; exact List.mem_cons_self)
        · simp
      · refine hnamed.of_sameSource
          (DSchedContinue.sameSource_step entry.continuation _) ?_ _
        intro kept hkept
        rw [hdata]
        exact .inl (List.mem_cons_of_mem _ hkept)
  · exact ⟨by simp, hnamed⟩
  · exact ⟨by simp, hnamed.of_sameSource
      (DSchedContinue.sameSource_step entry.continuation _)
      (fun _ => .inl) _⟩

theorem Named.step {input : DSchedContinue.Input}
    {localDeviceId : Option Text} {sessionId : ℤ} (hnamed : entry.Named) :
    (∀ used ∈ (entry.step input localDeviceId sessionId).1,
        ∀ named ∈ used.peer, used.sourceDeviceId = named) ∧
      (entry.step input localDeviceId sessionId).2.Named := by
  unfold PeerContinue.step
  split
  · exact hnamed.process
  · exact ⟨by simp, hnamed.of_sameSource
      (DSchedContinue.sameSource_step entry.continuation _)
      (fun _ => .inl) _⟩

theorem Named.onDataRecv {peer : Text} {command : ContinueCmd AbilityInfo}
    (hnamed : entry.Named)
    (hcommand : ∀ cmd, command = .data cmd →
      cmd.callerInfo.sourceDeviceId =
          entry.continuation.continueInfo.sourceDeviceId →
        cmd.callerInfo.sourceDeviceId = peer) :
    (entry.onDataRecv peer command).Named := by
  refine hnamed.of_sameSource
    (DSchedContinue.sameSource_onDataRecv entry.continuation _) ?_ _
  intro kept hkept
  cases command with
  | data cmd =>
      rcases List.mem_append.mp hkept with hold | hnew
      · exact .inl hold
      · rw [List.mem_singleton.mp hnew]
        exact .inr (hcommand cmd rfl)
  | start info subServiceType direction appVersion => exact .inl hkept
  | reply replyCmd appVersion result => exact .inl hkept
  | ended result => exact .inl hkept

end PeerContinue

/-! ## The source of a collaboration -/

namespace RunningCollab

variable {Params : Type} {running next : RunningCollab Params}

/-- A sink which still awaits its start has awaited it before, with the same
source and caller. -/
def StaysNamed (running next : RunningCollab Params) : Prop :=
  next.AwaitsStart → running.AwaitsStart ∧
    next.record.info.checkedFields = running.record.info.checkedFields

theorem Proceeds.staysNamed (hproceeds : running.Proceeds next) :
    running.StaysNamed next := by
  intro hawaits
  have hmoves := hproceeds.moves
  have hbefore : running.AwaitsStart := by
    unfold AwaitsStart at hawaits ⊢
    generalize running.collab.state = before, next.collab.state = after
      at hmoves hawaits ⊢
    cases hmoves <;> simp_all
  refine ⟨hbefore, hproceeds.checked fun hsource => ?_⟩
  rcases hbefore with hstate | hstate <;> rw [hstate] at hsource <;>
    cases hsource

theorem staysNamed_of_isQuiet {input : CollabInput Params}
    (hquiet : IsQuiet input) : running.StaysNamed (running.step input).2 :=
  (proceeds_of_isQuiet hquiet).staysNamed

theorem staysNamed_exeStartAbility {answers : RunAnswers}
    {rest : List CollabRoles.Event} :
    running.StaysNamed (({ running with collab :=
      { running.collab with queue := rest } } :
        RunningCollab Params).exeStartAbility answers) := by
  unfold exeStartAbility
  split_ifs <;> exact fun hawaits => ⟨hawaits, rfl⟩

theorem staysNamed_step {input : CollabInput Params}
    (hstart : ∀ answers cmd, input ≠ .recv answers (.sinkStart cmd)) :
    running.StaysNamed (running.step input).2 := by
  by_cases hremoved : running.collab.removed = true
  · rw [step_of_removed hremoved]
    exact fun hawaits => ⟨hawaits, rfl⟩
  · cases input with
    | process answers =>
        cases hevent : running.nextEvent with
        | none =>
            rw [step_process_idle hevent]
            exact fun hawaits => ⟨hawaits, rfl⟩
        | some event =>
            obtain ⟨hpresent, hidle, rest, hqueue⟩ := nextEvent_eq_some hevent
            rw [step_process hpresent hidle hqueue]
            by_cases hability :
                running.collab.state = .sinkStart ∧ event = .startAbility
            · rw [processEvent, if_pos hability]
              exact staysNamed_exeStartAbility
            · have hproceeds : Proceeds
                  { running with collab := { running.collab with queue := rest } }
                  (({ running with collab :=
                    { running.collab with queue := rest } } :
                      RunningCollab Params).processEvent answers event).2 :=
                proceeds_processEvent hability
              exact hproceeds.staysNamed
    | collabMission mission =>
        simp only [step, hremoved, Bool.false_eq_true, if_false]
        unfold collabMission
        split
        · intro hawaits
          rcases hawaits with hstate | hstate <;> cases hstate
        · exact fun hawaits => ⟨hawaits, rfl⟩
    | startAbilityReturns result =>
        simp only [step, hremoved, Bool.false_eq_true, if_false]
        split_ifs
        · unfold startAbilityReturns
          split_ifs
          · exact fun hawaits => ⟨hawaits, rfl⟩
          · intro hawaits
            rcases hawaits with hstate | hstate <;> cases hstate
        · exact fun hawaits => ⟨hawaits, rfl⟩
    | recv answers cmd =>
        cases cmd with
        | sinkStart cmd => exact absurd rfl (hstart answers cmd)
        | sourceGetVersion version =>
            exact staysNamed_of_isQuiet trivial
        | notifyResult cmd => exact staysNamed_of_isQuiet trivial
        | disconnect => exact staysNamed_of_isQuiet trivial
        | unmarshalFailed => exact staysNamed_of_isQuiet trivial
        | invalid => exact staysNamed_of_isQuiet trivial
    | notifySinkPrepareResult result session name =>
        exact staysNamed_of_isQuiet trivial
    | notifySinkRejectReason reason =>
        exact staysNamed_of_isQuiet trivial
    | notifyStartAbilityResult result pid uid token =>
        exact staysNamed_of_isQuiet trivial
    | timeout => exact staysNamed_of_isQuiet trivial
    | shutdown => exact staysNamed_of_isQuiet trivial
    | endTask => exact staysNamed_of_isQuiet trivial

end RunningCollab

namespace PeerCollab

variable {Params : Type} {entry : PeerCollab Params}

def Named (entry : PeerCollab Params) : Prop :=
  entry.running.AwaitsStart → ∀ peer ∈ entry.startPeer,
    entry.running.record.info.srcInfo.deviceId = peer ∧
      entry.running.record.info.callerInfo.sourceDeviceId = peer

theorem Named.of_staysNamed {next : RunningCollab Params}
    (hnamed : entry.Named) (hstays : entry.running.StaysNamed next)
    (softbusSessionId : ℤ) :
    Named { entry with
      running := next
      softbusSessionId := softbusSessionId } := by
  intro hawaits peer hpeer
  obtain ⟨hbefore, hfields⟩ := hstays hawaits
  obtain ⟨hsource, hcaller⟩ := hnamed hbefore peer hpeer
  have hsame := congrArg CheckedFields.callerInfo hfields
  exact ⟨(congrArg CheckedFields.srcDeviceId hfields).trans hsource,
    (congrArg CallerInfo.sourceDeviceId hsame).trans hcaller⟩

theorem Named.uses {input : CollabInput Params} (hnamed : entry.Named) :
    ∀ used ∈ entry.uses input, ∀ named ∈ used.peer,
      used.sourceDeviceId = named := by
  intro used hused named hpeer
  unfold PeerCollab.uses at hused
  split at hused
  · split_ifs at hused with hchecks
    · have hawaits : entry.running.AwaitsStart := .inr hchecks.1
      rcases List.mem_pair.mp hused with rfl | rfl
      · exact (hnamed hawaits named hpeer).1
      · exact (hnamed hawaits named hpeer).2
    · cases hused
  · cases hused

theorem Named.step {input : CollabInput Params} {sessionId : ℤ}
    (hnamed : entry.Named) :
    (∀ used ∈ (entry.step input sessionId).1, ∀ named ∈ used.peer,
        used.sourceDeviceId = named) ∧
      (entry.step input sessionId).2.Named := by
  unfold PeerCollab.step
  split
  · exact ⟨by simp, hnamed⟩
  · next hrecv =>
      refine ⟨hnamed.uses, hnamed.of_staysNamed ?_ _⟩
      exact RunningCollab.staysNamed_step
        fun answers cmd heq => hrecv answers (.sinkStart cmd) heq

theorem Named.onDataRecv {answers : RunAnswers} {peer : Text}
    {cmd : ReceivedCmd Params} (hnamed : entry.Named)
    (hcmd : ∀ start, cmd = .sinkStart start → entry.running.AwaitsStart →
      start.base.srcDeviceId = peer ∧ start.callerInfo.sourceDeviceId = peer) :
    (entry.onDataRecv answers peer cmd).Named := by
  unfold PeerCollab.onDataRecv
  split_ifs with hremoved
  · exact hnamed
  · cases cmd with
    | sinkStart start =>
        have hstep : (entry.running.step (.recv answers (.sinkStart start))).2 =
            { entry.running with
              record := entry.running.record.setSinkCollabInfo answers start
              collab := entry.running.collab.post .startAbility } := by
          simp [RunningCollab.step, hremoved, RunningCollab.onDataRecv,
            RunningCollab.post]
        intro hawaits named hpeer
        dsimp only at hawaits hpeer ⊢
        rw [hstep] at hawaits ⊢
        rw [← Option.some.inj hpeer]
        exact hcmd start rfl hawaits
    | sourceGetVersion version =>
        refine hnamed.of_staysNamed (RunningCollab.staysNamed_of_isQuiet ?_) _
        trivial
    | notifyResult cmd =>
        refine hnamed.of_staysNamed (RunningCollab.staysNamed_of_isQuiet ?_) _
        trivial
    | disconnect =>
        refine hnamed.of_staysNamed (RunningCollab.staysNamed_of_isQuiet ?_) _
        trivial
    | unmarshalFailed =>
        refine hnamed.of_staysNamed (RunningCollab.staysNamed_of_isQuiet ?_) _
        trivial
    | invalid =>
        refine hnamed.of_staysNamed (RunningCollab.staysNamed_of_isQuiet ?_) _
        trivial

end PeerCollab

/-! ## Runs -/

namespace PeerService

variable {Params AbilityInfo : Type} {service : PeerService Params AbilityInfo}

structure Invariant (service : PeerService Params AbilityInfo) : Prop where
  continues : ∀ (key : Text) (entry : PeerContinue AbilityInfo),
    service.continues[key]? = some entry → entry.Named
  collabs : ∀ (key : Text) (entry : PeerCollab Params),
    service.collabs[key]? = some entry → entry.Named

theorem invariant_initial : Invariant ({} : PeerService Params AbilityInfo) where
  continues := by simp
  collabs := by simp

section Invariant

variable {key : Text} (hinv : service.Invariant)

include hinv

theorem Invariant.insertContinue {entry : PeerContinue AbilityInfo}
    (hentry : entry.Named) :
    Invariant { service with
      continues := service.continues.insert key entry } where
  continues := by
    intro found value hvalue
    dsimp only at hvalue
    rw [getElem?_insert_eq] at hvalue
    split_ifs at hvalue
    · exact Option.some.inj hvalue ▸ hentry
    · exact hinv.continues found value hvalue
  collabs := hinv.collabs

theorem Invariant.insertCollab {entry : PeerCollab Params} (hentry : entry.Named) :
    Invariant { service with
      collabs := service.collabs.insert key entry } where
  continues := hinv.continues
  collabs := by
    intro found value hvalue
    dsimp only at hvalue
    rw [getElem?_insert_eq] at hvalue
    split_ifs at hvalue
    · exact Option.some.inj hvalue ▸ hentry
    · exact hinv.collabs found value hvalue

theorem Invariant.addContinue {entry : PeerContinue AbilityInfo}
    (hentry : entry.Named) :
    Invariant { service with
      continues := service.continues.insertIfNew key entry } where
  continues := by
    intro found value hvalue
    dsimp only at hvalue
    rw [Std.TreeMap.getElem?_insertIfNew] at hvalue
    split_ifs at hvalue
    · exact Option.some.inj hvalue ▸ hentry
    · exact hinv.continues found value hvalue
  collabs := hinv.collabs

theorem Invariant.addCollab {entry : PeerCollab Params} (hentry : entry.Named) :
    Invariant { service with
      collabs := service.collabs.insertIfNew key entry } where
  continues := hinv.continues
  collabs := by
    intro found value hvalue
    dsimp only at hvalue
    rw [Std.TreeMap.getElem?_insertIfNew] at hvalue
    split_ifs at hvalue
    · exact Option.some.inj hvalue ▸ hentry
    · exact hinv.collabs found value hvalue

end Invariant

theorem named_ofStartCmd {arrival : Arrival (ContinueCmd AbilityInfo)}
    {info : DSchedContinueInfo} {subServiceType : SubType}
    {direction : Direction} {appVersion : ℤ} (missionBundle : Option Text)
    (hnames : direction = .source →
      info.sourceDeviceId = arrival.peerDeviceId) :
    PeerContinue.Named
      ({ continuation := DSchedContinue.ofStartCmd missionBundle info
          subServiceType direction appVersion
         softbusSessionId := arrival.sessionId
         startPeer := some arrival.peerDeviceId } :
        PeerContinue AbilityInfo) where
  sided := by
    refine ⟨rfl, ?_⟩
    cases direction <;> rfl
  start := by
    rintro hsink _ ⟨⟩
    have hsource : direction = .source := by
      cases direction with
      | source => rfl
      | sink => cases hsink
    rw [← hnames hsource]
    dsimp only [DSchedContinue.ofStartCmd, DSchedContinue.fillBundleNames]
    split_ifs
    · split <;> rfl
    · rfl
  data := by simp

section Arriving

variable (hinv : service.Invariant)

include hinv

theorem Invariant.notifyContinueDataRecv {localDevId : Text}
    {answers : ContinueManager.Answers}
    {arrival : Arrival (ContinueCmd AbilityInfo)}
    (hnames : service.ContinueNamesPeer arrival) :
    (service.notifyContinueDataRecv localDevId answers arrival).Invariant := by
  unfold PeerService.notifyContinueDataRecv
  unfold ContinueNamesPeer at hnames
  cases hfind : service.findContinue arrival.sessionId with
  | some found =>
      obtain ⟨key, entry⟩ := found
      obtain ⟨hentry, -, -⟩ := firstMatch_spec hfind
      refine hinv.insertContinue ((hinv.continues key entry hentry).onDataRecv ?_)
      intro cmd hcmd
      rw [hfind, hcmd] at hnames
      exact hnames
  | none =>
      dsimp only
      split
      · next info subServiceType direction appVersion hcommand =>
          rw [hfind, hcommand] at hnames
          split
          · exact hinv
          · exact hinv.addContinue (named_ofStartCmd _ hnames)
      · exact hinv

theorem Invariant.notifyDataRecv {localDevId : Option Text} {answers : RunAnswers}
    {empty : Params} {arrival : Arrival (CollabCmd Params)}
    (hnames : service.CollabNamesPeer arrival) :
    (service.notifyDataRecv localDevId answers empty arrival).Invariant := by
  unfold PeerService.notifyDataRecv
  unfold CollabNamesPeer at hnames
  split
  · split_ifs
    · exact hinv
    · refine hinv.addCollab ?_
      intro _ peer hpeer
      cases hpeer
  · next collabToken cmd hcommand =>
      rw [hcommand] at hnames
      split
      · next key entry hfind =>
          obtain ⟨hentry, -, -⟩ := firstMatch_spec hfind
          refine hinv.insertCollab ((hinv.collabs key entry hentry).onDataRecv ?_)
          rintro start rfl hawaits
          exact hnames (key, entry) hfind hawaits
      · exact hinv

theorem Invariant.continueMission {localDevId : Text}
    {answers : ContinueManager.Answers} {info : DSchedContinueInfo} :
    (service.continueMission localDevId answers info).Invariant := by
  unfold PeerService.continueMission
  split
  · exact hinv
  · next direction hlimit =>
      have hcounted : Invariant { service with
          cntSink := service.cntSink + if direction = .sink then 1 else 0
          cntSource :=
            service.cntSource + if direction = .source then 1 else 0 } :=
        ⟨hinv.continues, hinv.collabs⟩
      refine hcounted.addContinue ⟨?_, ?_, ?_⟩
      · refine ⟨rfl, ?_⟩
        cases direction <;> rfl
      · rintro - peer ⟨⟩
      · simp

theorem Invariant.eraseContinue {key : Text} :
    Invariant { service with continues := service.continues.erase key } where
  continues := by
    intro found value hvalue
    dsimp only at hvalue
    rw [getElem?_erase_eq] at hvalue
    split_ifs at hvalue
    exact hinv.continues found value hvalue
  collabs := hinv.collabs

theorem Invariant.eraseCollab {key : Text} :
    Invariant { service with collabs := service.collabs.erase key } where
  continues := hinv.continues
  collabs := by
    intro found value hvalue
    dsimp only at hvalue
    rw [getElem?_erase_eq] at hvalue
    split_ifs at hvalue
    exact hinv.collabs found value hvalue

theorem Invariant.continueEnd {localDevId : Option Text} {key : Text} :
    (service.continueEnd localDevId key).Invariant := by
  have herased : Invariant { service with
      continues := service.continues.erase key } := hinv.eraseContinue
  unfold PeerService.continueEnd
  split
  · dsimp only
    split_ifs
    · exact hinv
    · exact ⟨herased.continues, herased.collabs⟩
    · exact ⟨herased.continues, herased.collabs⟩
    · exact herased
  · exact hinv

end Arriving

theorem Invariant.step {input : ServiceInput Params AbilityInfo}
    (hinv : service.Invariant) (hnames : service.NamesPeer input) :
    service.Attributed input ∧ (service.step input).2.Invariant := by
  unfold Attributed
  cases input with
  | softbus event =>
      exact ⟨by simp [PeerService.step], hinv.continues, hinv.collabs⟩
  | continueBytes sessionId command =>
      simp only [PeerService.step]
      split
      · exact ⟨by simp, hinv.continues, hinv.collabs⟩
      · exact ⟨by simp, hinv⟩
  | collabBytes sessionId command =>
      simp only [PeerService.step]
      split
      · exact ⟨by simp, hinv.continues, hinv.collabs⟩
      · exact ⟨by simp, hinv⟩
  | continueTask localDevId answers =>
      simp only [PeerService.step]
      split
      · exact ⟨by simp, hinv⟩
      · next arrival rest htasks =>
          have htask := hnames arrival (by rw [htasks]; rfl)
          have hrest : Invariant { service with continueTasks := rest } :=
            ⟨hinv.continues, hinv.collabs⟩
          exact ⟨by simp, hrest.notifyContinueDataRecv htask⟩
  | collabTask localDevId answers empty =>
      simp only [PeerService.step]
      split
      · exact ⟨by simp, hinv⟩
      · next arrival rest htasks =>
          have htask := hnames arrival (by rw [htasks]; rfl)
          have hrest : Invariant { service with collabTasks := rest } :=
            ⟨hinv.continues, hinv.collabs⟩
          exact ⟨by simp, hrest.notifyDataRecv htask⟩
  | continueMission localDevId answers info =>
      exact ⟨by simp [PeerService.step], hinv.continueMission⟩
  | continuation key input localDeviceId sessionId =>
      simp only [PeerService.step]
      split
      · next entry hentry =>
          obtain ⟨huses, hnext⟩ := (hinv.continues key entry hentry).step
          exact ⟨huses, hinv.insertContinue hnext⟩
      · exact ⟨by simp, hinv⟩
  | continueEnd key localDevId =>
      exact ⟨by simp [PeerService.step], hinv.continueEnd⟩
  | getSinkCollabVersion asked =>
      refine ⟨by simp [PeerService.step], hinv.addCollab ?_⟩
      intro _ peer hpeer
      cases hpeer
  | collab collabToken input sessionId =>
      simp only [PeerService.step]
      split
      · next entry hentry =>
          obtain ⟨huses, hnext⟩ := (hinv.collabs collabToken entry hentry).step
          exact ⟨huses, hinv.insertCollab hnext⟩
      · exact ⟨by simp, hinv⟩
  | cleanUpCollab collabToken =>
      exact ⟨by simp [PeerService.step], hinv.eraseCollab⟩

/-- In every run in which the commands name their peers, the checks use the
devices which sent the requests. -/
theorem attributed_run {inputs : List (ServiceInput Params AbilityInfo)}
    (hnames : EventRun.Meets step NamesPeer {} inputs) :
    EventRun.Meets step Attributed {} inputs :=
  hnames.guarantee (fun _ _ hinv hinput => (hinv.step hinput).1)
    (fun _ _ hinv hinput => (hinv.step hinput).2) invariant_initial

/-! ### Requests of one peer -/

/-- A continuation from the device `source`, asked for by the device `P`. -/
def sampleContinuation (source : Text) : List (ServiceInput Unit Unit) :=
  let info : DSchedContinueInfo := ⟨source, ['b'], ['S'], ['b'], [], 0⟩
  let cmd : ContinueDataCmd Unit :=
    { want := { element := { deviceId := ['S'] } }
      abilityInfo := ()
      requestCode := -1
      callerInfo := { sourceDeviceId := source } }
  [.softbus (.onBind 1 "P" true),
    .continueBytes 1 (.start info .push .source 0), .continueTask ['S'] {},
    .continuation info.compareInfo (.process {}) (some ['S']) 1,
    .continueBytes 1 (.data cmd), .continueTask ['S'] {},
    .continuation info.compareInfo (.process {}) (some ['S']) 1]

/-- A collaboration with a source on the device `source`. -/
def sampleCollab (source : Text) : List (ServiceInput Unit Unit) :=
  let answers : RunAnswers := { pack := ⟨none, none, none, none⟩ }
  let cmd : SinkStartCmd Unit :=
    { base := { srcDeviceId := source }
      callerInfo := { sourceDeviceId := source }
      startParams := ()
      messageParams := () }
  [.softbus (.onBind 1 "P" true),
    .collabBytes 1 (.sinkGetVersion
      { base := { collabToken := ['t'], sinkDeviceId := ['S'] } }),
    .collabTask (some ['S']) answers (), .collab ['t'] (.process answers) 1,
    .collabBytes 1 (.other ['t'] (.sinkStart cmd)),
    .collabTask (some ['S']) answers (), .collab ['t'] (.process answers) 1]

theorem attributed_ownNames :
    EventRun.Meets step Attributed {}
        (sampleContinuation ['P'] ++ sampleCollab ['P']) ∧
      (EventRun.run step {}
        (sampleContinuation ['P'] ++ sampleCollab ['P'])).1.flatten =
          List.replicate 4 ⟨['P'], some ['P']⟩ :=
  ⟨attributed_run (by decide +kernel), by decide +kernel⟩

/-- The device `P` is taken for the device `Q`, whose name it writes. -/
theorem not_attributed_otherName :
    ¬EventRun.Meets step Attributed {} (sampleContinuation ['Q']) ∧
      ¬EventRun.Meets step Attributed {} (sampleCollab ['Q']) := by
  decide +kernel

end PeerService

end Dmsfwk
