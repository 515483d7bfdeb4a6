import Dmsfwk.SessionLifecycle
import Dmsfwk.SessionRegistry

/-!
# Connecting a busy session

A second `Connect` of a session fails at the registry or at the status of the
session.  The token has been replaced by then, and a refusal of the registry is
reported by a task which also releases the session, so what the call does is
seen only when its tasks have run.
-/

namespace Dmsfwk
namespace AbilityConnectionManager

open AbilityConnectionSession (Written)

/-! ## The connection of a session -/

structure Connection where
  sessionStatus : SessionStatus
  dmsServerToken : Text
  transChannels : TransChannelType → Option TransChannelInfo
  clientEntry : Option ℤ
  serverEntry : Option ℤ

def connection (manager : AbilityConnectionManager)
    (session : AbilityConnectionSession) : Connection where
  sessionStatus := session.sessionStatus
  dmsServerToken := session.dmsServerToken
  transChannels := session.transChannels
  clientEntry := manager.clientSessionMap[session.sessionInfo.key]?
  serverEntry := manager.serverSessionMap[session.sessionInfo.key]?

def connectionOf (manager : AbilityConnectionManager) (sessionId : ℤ) :
    Option Connection :=
  (manager.getAbilityConnectionSession sessionId).map manager.connection

def pendingTasks (manager : AbilityConnectionManager) (sessionId : ℤ) :
    List ConnectTask :=
  ((manager.getAbilityConnectionSession sessionId).map (·.tasks)).getD []

def runTask (manager : AbilityConnectionManager) (sessionId : ℤ) :
    AbilityConnectionManager :=
  (manager.onSession sessionId fun session => (0, session.step .runTask)).2

def runTasks (manager : AbilityConnectionManager) (sessionId : ℤ) :
    ℕ → AbilityConnectionManager
  | 0 => manager
  | count + 1 => (manager.runTask sessionId).runTasks sessionId count

/-! ## A harmless `Connect` -/

/-- A busy session refuses to connect, no callback gets a failure, and when the
posted tasks have run, behind those which were waiting, the connection is what
it is without the call. -/
def HarmlessConnect (manager : AbilityConnectionManager) (sessionId : ℤ)
    (token : Text) (callback : Bool) (getPeerVersion : ℤ) : Prop :=
  ∀ session, manager.getAbilityConnectionSession sessionId = some session →
    session.sessionStatus ≠ .unconnected →
      let result :=
        manager.connectSession sessionId token callback getPeerVersion
      let posted :=
        (result.2.pendingTasks sessionId).drop session.tasks.length
      let waiting := if posted = [] then 0 else session.tasks.length
      result.1 ≠ 0 ∧
      (∀ task ∈ posted, task.hasCallback = true → task.isConnected = true) ∧
      (result.2.runTasks sessionId (waiting + posted.length)).connectionOf
          sessionId =
        (manager.runTasks sessionId waiting).connectionOf sessionId

/-- The new token of a busy session is its old one, the session has no callback,
and its description is registered. -/
def ConnectsQuietly (manager : AbilityConnectionManager) (sessionId : ℤ)
    (token : Text) : Prop :=
  ∀ session, manager.getAbilityConnectionSession sessionId = some session →
    session.sessionStatus ≠ .unconnected →
      token = session.dmsServerToken ∧ session.connectCallback = false ∧
      (manager.clientSessionMap[session.sessionInfo.key]? ≠ none ∨
        manager.serverSessionMap[session.sessionInfo.key]? ≠ none)

/-! ## The two refusals -/

section Refusals

variable {manager : AbilityConnectionManager} {sessionId : ℤ}
  {session : AbilityConnectionSession}

def refusedSession (session : AbilityConnectionSession) (token : Text) :
    AbilityConnectionSession :=
  { session with
    direction := .collabrateSource
    dmsServerToken := token
    tasks := session.tasks ++ [⟨session.connectCallback, false⟩] }

theorem connectSession_registered
    (hfound : manager.getAbilityConnectionSession sessionId = some session)
    (hregistered : manager.clientSessionMap[session.sessionInfo.key]? ≠ none ∨
      manager.serverSessionMap[session.sessionInfo.key]? ≠ none)
    (token : Text) (callback : Bool) (getPeerVersion : ℤ) :
    manager.connectSession sessionId token callback getPeerVersion =
      (CollabErr.sameSessionIsConnecting.code,
        manager.store sessionId (refusedSession session token)) := by
  unfold connectSession
  rw [hfound]
  simp only
  rcases manager.updateClientSession_cases session.sessionInfo sessionId with
    ⟨-, hrefused⟩ | ⟨hclient, hserver, -⟩
  · rw [hrefused]
    rfl
  · rcases hregistered with hentry | hentry
    · exact absurd hclient hentry
    · exact absurd hserver hentry

theorem connectSession_unregistered
    (hfound : manager.getAbilityConnectionSession sessionId = some session)
    (hbusy : session.sessionStatus ≠ .unconnected)
    (hclient : manager.clientSessionMap[session.sessionInfo.key]? = none)
    (hserver : manager.serverSessionMap[session.sessionInfo.key]? = none)
    (token : Text) (callback : Bool) (getPeerVersion : ℤ) :
    manager.connectSession sessionId token callback getPeerVersion =
      (CollabErr.invalidParametersErr.code,
        { manager with
          clientSessionMap := manager.clientSessionMap.insert
            session.sessionInfo.key sessionId }.store sessionId
          { session with
            direction := .collabrateSource
            dmsServerToken := token }) := by
  unfold connectSession
  rw [hfound]
  simp only
  rcases manager.updateClientSession_cases session.sessionInfo sessionId with
    ⟨hentry | hentry, -⟩ | ⟨-, -, haccepted⟩
  · exact absurd hclient hentry
  · exact absurd hserver hentry
  · rw [haccepted]
    unfold AbilityConnectionSession.connect
    simp only
    rw [if_neg (not_not.mpr rfl), if_pos hbusy]
    rfl

end Refusals

/-! ## The tasks in front -/

section Tasks

variable {manager : AbilityConnectionManager} {sessionId : ℤ}
  {session : AbilityConnectionSession}

theorem runTask_of_found
    (hfound : manager.getAbilityConnectionSession sessionId = some session) :
    manager.runTask sessionId =
      manager.record sessionId (session.step .runTask) := by
  unfold runTask onSession
  rw [hfound]

theorem dmsServerToken_release (session : AbilityConnectionSession) :
    session.release.2.dmsServerToken = session.dmsServerToken := by
  unfold AbilityConnectionSession.release
  split_ifs <;> rfl

theorem dmsServerToken_runTask (session : AbilityConnectionSession) :
    (session.step .runTask).2.dmsServerToken = session.dmsServerToken := by
  simp only [AbilityConnectionSession.step]
  cases session.tasks with
  | nil => rfl
  | cons task rest =>
      simp only [AbilityConnectionSession.runConnectTask]
      split_ifs
      · exact dmsServerToken_release _
      · rfl

theorem dmsServerToken_runTasks
    (hfound : manager.getAbilityConnectionSession sessionId = some session)
    (count : ℕ) :
    ∃ last, (manager.runTasks sessionId count).getAbilityConnectionSession
        sessionId = some last ∧
      last.dmsServerToken = session.dmsServerToken := by
  have hid := pos_of_getAbilityConnectionSession hfound
  induction count generalizing manager session with
  | zero => exact ⟨session, hfound, rfl⟩
  | succ count ih =>
      have hnext : (manager.runTask sessionId).getAbilityConnectionSession
          sessionId = some (session.step .runTask).2 := by
        rw [runTask_of_found hfound]
        exact getAbilityConnectionSession_record_self hid _
      obtain ⟨last, hlast, htoken⟩ := ih hnext
      exact ⟨last, hlast, htoken.trans (dmsServerToken_runTask session)⟩

def trailing (session : AbilityConnectionSession)
    (direction : CollabrateDirection) : AbilityConnectionSession :=
  { session with
    direction := direction
    tasks := session.tasks ++ [⟨false, false⟩] }

theorem release_trailing (session : AbilityConnectionSession)
    (direction : CollabrateDirection) :
    (trailing session direction).release =
      (session.release.1, trailing session.release.2 direction) := by
  unfold AbilityConnectionSession.release trailing
  dsimp only
  split_ifs <;> rfl

variable {rest : List ConnectTask}

theorem runTask_trailing {task : ConnectTask}
    (htasks : session.tasks = task :: rest) (direction : CollabrateDirection) :
    (trailing session direction).step .runTask =
      ((session.step .runTask).1,
        trailing (session.step .runTask).2 direction) := by
  have hrest := release_trailing { session with tasks := rest } direction
  simp only [AbilityConnectionSession.step, trailing, htasks,
    List.cons_append, AbilityConnectionSession.runConnectTask] at hrest ⊢
  split_ifs
  · exact hrest
  · rfl

theorem tasks_runTask {task : ConnectTask} (htasks : session.tasks = task :: rest) :
    (session.step .runTask).2.tasks = rest := by
  simp only [AbilityConnectionSession.step, htasks,
    AbilityConnectionSession.runConnectTask]
  unfold AbilityConnectionSession.release
  split_ifs <;> rfl

structure Follows (sessionId : ℤ) (direction : CollabrateDirection)
    (session : AbilityConnectionSession)
    (manager other : AbilityConnectionManager) : Prop where
  found : manager.getAbilityConnectionSession sessionId = some session
  follower : other.getAbilityConnectionSession sessionId =
    some (trailing session direction)
  client : other.clientSessionMap = manager.clientSessionMap
  server : other.serverSessionMap = manager.serverSessionMap

variable {other : AbilityConnectionManager} {direction : CollabrateDirection}

theorem deleteConnectSession_congr
    (hclient : other.clientSessionMap = manager.clientSessionMap)
    (hserver : other.serverSessionMap = manager.serverSessionMap)
    (sessionInfo : AbilityConnectionSessionInfo) :
    (other.deleteConnectSession sessionInfo sessionId).clientSessionMap =
        (manager.deleteConnectSession sessionInfo
          sessionId).clientSessionMap ∧
      (other.deleteConnectSession sessionInfo sessionId).serverSessionMap =
        (manager.deleteConnectSession sessionInfo
          sessionId).serverSessionMap := by
  unfold deleteConnectSession
  rw [hclient, hserver]
  split_ifs
  · exact ⟨rfl, rfl⟩
  · exact ⟨rfl, rfl⟩
  · exact ⟨hclient, hserver⟩

theorem Follows.runTask
    (hfollows : Follows sessionId direction session manager other)
    {task : ConnectTask} (htasks : session.tasks = task :: rest) :
    Follows sessionId direction (session.step .runTask).2
      (manager.runTask sessionId) (other.runTask sessionId) := by
  obtain ⟨hfound, hfollower, hclient, hserver⟩ := hfollows
  have hid := pos_of_getAbilityConnectionSession hfound
  rw [runTask_of_found hfound, runTask_of_found hfollower,
    runTask_trailing htasks]
  have hmaps := @deleteConnectSession_congr
    (manager.store sessionId (session.step .runTask).2) sessionId
    (other.store sessionId
      (trailing (session.step .runTask).2 direction)) hclient hserver
  refine ⟨getAbilityConnectionSession_record_self hid _,
    getAbilityConnectionSession_record_self hid _, ?_, ?_⟩
  · unfold record
    split_ifs
    · exact (hmaps _).1
    · exact hclient
  · unfold record
    split_ifs
    · exact (hmaps _).2
    · exact hserver

theorem Follows.connectionOf
    (hfollows : Follows sessionId direction session manager other) :
    (other.runTasks sessionId
        (session.tasks.length + 1)).connectionOf sessionId =
      (manager.runTasks sessionId session.tasks.length).connectionOf
        sessionId := by
  generalize hlength : session.tasks.length = count
  induction count generalizing manager other session with
  | zero =>
      obtain ⟨hfound, hfollower, hclient, hserver⟩ := hfollows
      have hid := pos_of_getAbilityConnectionSession hfound
      have htasks : session.tasks = [] := List.length_eq_zero_iff.mp hlength
      have hstep : (trailing session direction).step .runTask =
          ([], { session with direction := direction }) := by
        simp [AbilityConnectionSession.step, trailing, htasks,
          AbilityConnectionSession.runConnectTask]
      simp only [runTasks]
      rw [runTask_of_found hfollower, hstep]
      unfold AbilityConnectionManager.connectionOf
      rw [getAbilityConnectionSession_record_self hid, hfound]
      simp [connection, record, store, hclient, hserver]
  | succ count ih =>
      cases htasks : session.tasks with
      | nil => simp [htasks] at hlength
      | cons task rest =>
          have hrest : (session.step .runTask).2.tasks.length = count := by
            rw [tasks_runTask htasks]
            simpa [htasks] using hlength
          exact ih (hfollows.runTask htasks) hrest

end Tasks

/-! ## Which calls are harmless -/

section Calls

variable {manager : AbilityConnectionManager} {sessionId : ℤ}
  {session : AbilityConnectionSession}

theorem pendingTasks_store (hid : 0 < sessionId) :
    (manager.store sessionId session).pendingTasks sessionId =
      session.tasks := by
  unfold pendingTasks
  rw [getAbilityConnectionSession_store_self hid]
  rfl

section Found

variable (hfound : manager.getAbilityConnectionSession sessionId = some session)

include hfound

theorem follows_refused (hcallback : session.connectCallback = false) :
    Follows sessionId .collabrateSource session manager
      (manager.store sessionId
        (refusedSession session session.dmsServerToken)) := by
  have hid := pos_of_getAbilityConnectionSession hfound
  refine ⟨hfound, ?_, rfl, rfl⟩
  rw [getAbilityConnectionSession_store_self hid]
  simp [refusedSession, trailing, hcallback]

theorem token_of_refused {token : Text} {count waiting : ℕ}
    (hconnection :
      ((manager.store sessionId (refusedSession session token)).runTasks
          sessionId count).connectionOf sessionId =
        (manager.runTasks sessionId waiting).connectionOf sessionId) :
    token = session.dmsServerToken := by
  have hid := pos_of_getAbilityConnectionSession hfound
  obtain ⟨last, hlast, htoken⟩ := dmsServerToken_runTasks
    (@getAbilityConnectionSession_store_self manager _ hid
      (refusedSession session token)) count
  obtain ⟨first, hfirst, hold⟩ := dmsServerToken_runTasks hfound waiting
  unfold connectionOf at hconnection
  rw [hlast, hfirst, Option.map_some, Option.map_some,
    Option.some.injEq] at hconnection
  have htokens := congrArg Connection.dmsServerToken hconnection
  exact htoken.symm.trans (htokens.trans hold)

theorem harmless_registered_iff (token : Text) :
    let task : ConnectTask := ⟨session.connectCallback, false⟩
    let refused := manager.store sessionId (refusedSession session token)
    ((task.hasCallback = true → task.isConnected = true) ∧
        (refused.runTasks sessionId
            (session.tasks.length + 1)).connectionOf sessionId =
          (manager.runTasks sessionId session.tasks.length).connectionOf
            sessionId) ↔
      token = session.dmsServerToken ∧ session.connectCallback = false := by
  intro task refused
  constructor
  · rintro ⟨hreported, hconnection⟩
    refine ⟨token_of_refused hfound hconnection, ?_⟩
    by_contra hcallback
    exact Bool.noConfusion (hreported (Bool.eq_true_of_not_eq_false hcallback))
  · rintro ⟨rfl, hcallback⟩
    refine ⟨?_, (follows_refused hfound hcallback).connectionOf⟩
    intro hhas
    exact Bool.noConfusion (hcallback.symm.trans hhas)

end Found

end Calls

/-- Connecting a busy session is harmless exactly when the registry refuses it,
there is no callback to be told, and the new token is the old one. -/
theorem harmlessConnect_iff (manager : AbilityConnectionManager)
    (sessionId : ℤ) (token : Text) (callback : Bool) (getPeerVersion : ℤ) :
    manager.HarmlessConnect sessionId token callback getPeerVersion ↔
      manager.ConnectsQuietly sessionId token := by
  refine forall_congr' fun session => imp_congr_right fun hfound =>
    imp_congr_right fun hbusy => ?_
  have hid := pos_of_getAbilityConnectionSession hfound
  by_cases hregistered :
      manager.clientSessionMap[session.sessionInfo.key]? ≠ none ∨
        manager.serverSessionMap[session.sessionInfo.key]? ≠ none
  · have hposted : (refusedSession session token).tasks.drop
        session.tasks.length = [⟨session.connectCallback, false⟩] := by
      simp [refusedSession]
    have hcode : CollabErr.sameSessionIsConnecting.code ≠ 0 := by decide
    rw [connectSession_registered hfound hregistered]
    simp only [pendingTasks_store hid, hposted, List.cons_ne_nil, if_false,
      List.length_singleton, List.forall_mem_singleton]
    have hiff := harmless_registered_iff hfound token
    constructor
    · rintro ⟨-, hrest⟩
      obtain ⟨htoken, hcallback⟩ := hiff.mp hrest
      exact ⟨htoken, hcallback, hregistered⟩
    · rintro ⟨htoken, hcallback, -⟩
      exact ⟨hcode, hiff.mpr ⟨htoken, hcallback⟩⟩
  · obtain ⟨hclient, hserver⟩ := not_or.mp hregistered
    rw [not_not] at hclient hserver
    refine iff_of_false ?_ (fun hquiet => hregistered hquiet.2.2)
    rw [connectSession_unregistered hfound hbusy hclient hserver]
    -- No task is posted, and the registry has a new entry at once.
    have hposted : session.tasks.drop session.tasks.length = [] := by simp
    simp only [pendingTasks_store hid, hposted, if_true, List.length_nil,
      runTasks]
    rintro ⟨-, -, hconnection⟩
    unfold connectionOf at hconnection
    rw [getAbilityConnectionSession_store_self hid, hfound, Option.map_some,
      Option.map_some, Option.some.injEq] at hconnection
    have hentry := congrArg Connection.clientEntry hconnection
    simp [connection, store, hclient] at hentry

def connectedNotes : AbilityConnectionManager :=
  (EventRun.run step initial
    [createNotes, .connectSession 100 "b".toList true 0,
      .notifyCollabResult 100 0 "b".toList
        AbilityConnectionSession.goodAnswers,
      .callback 100 .runTask rfl]).2

/-- The second `Connect` of a connected session tells the callback of the first
one of a failure and releases the session. -/
theorem not_harmlessConnect_connectedNotes :
    (connectedNotes.connectionOf 100).map (·.sessionStatus) =
        some .connected ∧
      ¬connectedNotes.HarmlessConnect 100 "c".toList true 0 ∧
      ((connectedNotes.connectSession 100 "c".toList true
          0).2.pendingTasks 100) = [⟨true, false⟩] ∧
      (((connectedNotes.connectSession 100 "c".toList true 0).2.runTask
          100).connectionOf 100).map (·.sessionStatus) =
        some .unconnected := by
  refine ⟨by decide +kernel, ?_, by decide +kernel, by decide +kernel⟩
  intro hharmless
  have hconnected : ∀ session ∈
      connectedNotes.getAbilityConnectionSession 100,
      session.sessionStatus = .connected ∧ session.tasks = [] := by
    decide +kernel
  have hsome : (connectedNotes.getAbilityConnectionSession 100).isSome := by
    decide +kernel
  obtain ⟨session, hfound⟩ := Option.isSome_iff_exists.mp hsome
  obtain ⟨hstatus, htasks⟩ := hconnected session hfound
  have hbusy : session.sessionStatus ≠ .unconnected := by
    rw [hstatus]
    exact SessionStatus.noConfusion
  obtain ⟨-, hreported, -⟩ := hharmless session hfound hbusy
  have hposted : (⟨true, false⟩ : ConnectTask) ∈
      ((connectedNotes.connectSession 100 "c".toList true
        0).2.pendingTasks 100) := by
    decide +kernel
  rw [htasks] at hreported
  exact Bool.noConfusion (hreported ⟨true, false⟩ hposted rfl)

end AbilityConnectionManager
end Dmsfwk
