import Dmsfwk.ChannelManager
import Dmsfwk.EventRun

/-!
# Observing local mission changes for peers

The mission manager listens to local mission changes while peers synchronise
them.  Requests of peers change the set of peers at once, but the listener is
registered and unregistered by tasks of a handler, and the death of the network
service clears the set by a task as well.  A start has two sections: it enters
the set, and posts its task after it has read the local missions.
-/

namespace Dmsfwk

inductive MissionTask where
  | registerListener
  | unregisterListener
  | dnetDied
  deriving DecidableEq, Repr

inductive AdapterCall where
  | registerMissionListener
  | unregisterMissionListener
  deriving DecidableEq, Repr

structure MissionChangeListener where
  remoteSyncDeviceSet : Finset Text := ∅
  isRegMissionChange : Bool := false
  /-- The tasks of the mission handler, first in first out. -/
  queue : List MissionTask := []
  /-- Starts that have entered the set and not yet posted their task. -/
  starting : List Text := []

inductive MissionRequest where
  | startSyncMissionsFromRemote (deviceId : Text)
  | startPosts (deviceId : Text)
  | stopSyncMissionsFromRemote (networkId : Text)
  | onDnetDied
  | runTask

namespace MissionChangeListener

def post (task : MissionTask) (listener : MissionChangeListener) :
    MissionChangeListener :=
  { listener with queue := listener.queue ++ [task] }

def startSync (deviceId : Text) (listener : MissionChangeListener) :
    MissionChangeListener :=
  { listener with
      remoteSyncDeviceSet := insert deviceId listener.remoteSyncDeviceSet
      starting := deviceId :: listener.starting }

def startPosts (deviceId : Text) (listener : MissionChangeListener) :
    MissionChangeListener :=
  if deviceId ∈ listener.starting then
    post .registerListener
      { listener with starting := listener.starting.erase deviceId }
  else listener

def stopSync (networkId : Text) (listener : MissionChangeListener) :
    MissionChangeListener :=
  let rest := listener.remoteSyncDeviceSet.erase networkId
  let listener := { listener with remoteSyncDeviceSet := rest }
  if rest = ∅ then post .unregisterListener listener else listener

def execute (listener : MissionChangeListener) :
    MissionTask → Option AdapterCall × MissionChangeListener
  | .registerListener =>
      if listener.isRegMissionChange then (none, listener)
      else (some .registerMissionListener,
        { listener with isRegMissionChange := true })
  | .unregisterListener =>
      (some .unregisterMissionListener,
        { listener with isRegMissionChange := false })
  | .dnetDied =>
      if listener.isRegMissionChange then
        (some .unregisterMissionListener,
          { listener with
              remoteSyncDeviceSet := ∅
              isRegMissionChange := false })
      else (none, listener)

def runTask (listener : MissionChangeListener) :
    Option AdapterCall × MissionChangeListener :=
  match listener.queue with
  | [] => (none, listener)
  | task :: rest => execute { listener with queue := rest } task

def step (listener : MissionChangeListener) :
    MissionRequest → Option AdapterCall × MissionChangeListener
  | .startSyncMissionsFromRemote deviceId => (none, startSync deviceId listener)
  | .startPosts deviceId => (none, startPosts deviceId listener)
  | .stopSyncMissionsFromRemote networkId => (none, stopSync networkId listener)
  | .onDnetDied => (none, post .dnetDied listener)
  | .runTask => runTask listener

/-! ## What peers are told -/

/-- The listener, and the peers that have started since the last death of the
network service was announced and not stopped: a start counts when it is under
way or has returned after that. -/
structure Watched where
  listener : MissionChangeListener := {}
  started : Finset Text := ∅

namespace Watched

def step (watched : Watched) (request : MissionRequest) :
    Option AdapterCall × Watched :=
  let next := watched.listener.step request
  let started :=
    match request with
    | .startSyncMissionsFromRemote deviceId => insert deviceId watched.started
    | .stopSyncMissionsFromRemote networkId => watched.started.erase networkId
    | .onDnetDied => watched.started.filter (· ∈ watched.listener.starting)
    | .startPosts _ | .runTask => watched.started
  (next.1, { listener := next.2, started := started })

/-- With no task in the queue and no start under way, the listener is registered
just when some peer synchronises; and no peer that has started is dropped. -/
structure ObservesWhileSynced (watched : Watched) : Prop where
  registered : watched.listener.queue = [] → watched.listener.starting = [] →
    (watched.listener.isRegMissionChange = true ↔
      watched.listener.remoteSyncDeviceSet.Nonempty)
  kept : watched.started ⊆ watched.listener.remoteSyncDeviceSet

/-- When the death of the network service clears the set, no registration is to
come behind it; and a stop does not empty the set while a start is under way. -/
def Undisturbed (watched : Watched) : MissionRequest → Prop
  | .runTask =>
      watched.listener.queue.head? = some .dnetDied →
      watched.listener.isRegMissionChange = true →
      watched.listener.starting = [] ∧
        watched.listener.queue.getLast? ≠ some .registerListener
  | .stopSyncMissionsFromRemote networkId =>
      watched.listener.remoteSyncDeviceSet.erase networkId = ∅ →
      watched.listener.starting = []
  | _ => True

instance (watched : Watched) : DecidablePred watched.Undisturbed := by
  intro request
  unfold Undisturbed
  split <;> infer_instance

end Watched

/-! ## What the tasks in the queue will do -/

def drained (registered : Bool) : List MissionTask → Bool
  | [] => registered
  | .registerListener :: tasks => drained true tasks
  | .unregisterListener :: tasks => drained false tasks
  | .dnetDied :: tasks => drained false tasks

def armed (registered : Bool) : List MissionTask → Bool
  | [] => registered
  | .registerListener :: tasks => armed true tasks
  | .unregisterListener :: tasks => armed false tasks
  | .dnetDied :: tasks => armed registered tasks

theorem drained_append (registered : Bool) (tasks : List MissionTask)
    (task : MissionTask) :
    drained registered (tasks ++ [task]) =
      decide (task = .registerListener) := by
  induction tasks generalizing registered with
  | nil => cases task <;> rfl
  | cons first tasks ih => cases first <;> exact ih _

theorem armed_append (registered : Bool) (tasks : List MissionTask)
    (task : MissionTask) :
    armed registered (tasks ++ [task]) =
      armed (armed registered tasks) [task] := by
  induction tasks generalizing registered with
  | nil => rfl
  | cons first tasks ih => cases first <;> exact ih _

/-- A start under way or a registration to come keeps peers in the set, and peers
in the set are registered unless the network service dies. -/
structure Coming (watched : Watched) : Prop where
  peers : watched.listener.starting ≠ [] ∨
      drained watched.listener.isRegMissionChange watched.listener.queue =
        true →
    watched.listener.remoteSyncDeviceSet.Nonempty
  registration : watched.listener.remoteSyncDeviceSet.Nonempty →
    watched.listener.starting ≠ [] ∨
      armed watched.listener.isRegMissionChange watched.listener.queue = true
  started : watched.started.Nonempty →
    watched.listener.starting ≠ [] ∨
      drained watched.listener.isRegMissionChange watched.listener.queue = true
  kept : watched.started ⊆ watched.listener.remoteSyncDeviceSet

theorem Coming.observes {watched : Watched} (hcoming : Coming watched) :
    watched.ObservesWhileSynced where
  registered := by
    intro hqueue hstarting
    have hpeers := hcoming.peers
    have hregistration := hcoming.registration
    rw [hqueue, hstarting] at hpeers hregistration
    constructor
    · intro hregistered
      exact hpeers (.inr hregistered)
    · intro hnonempty
      exact (hregistration hnonempty).resolve_left (not_not.mpr rfl)
  kept := hcoming.kept

theorem drained_false_iff (tasks : List MissionTask) :
    drained false tasks = true ↔
      tasks.getLast? = some .registerListener := by
  rcases List.eq_nil_or_concat tasks with rfl | ⟨before, task, rfl⟩
  · simp [drained]
  · rw [List.concat_eq_append, drained_append, List.getLast?_concat]
    simp

section Coming

variable {watched : Watched} (hcoming : Coming watched)

include hcoming

theorem Coming.startSync (deviceId : Text) :
    Coming (watched.step (.startSyncMissionsFromRemote deviceId)).2 where
  peers _ := Finset.insert_nonempty _ _
  registration _ := .inl (List.cons_ne_nil _ _)
  started _ := .inl (List.cons_ne_nil _ _)
  kept := Finset.insert_subset_insert _ hcoming.kept

theorem Coming.startPosts (deviceId : Text) :
    Coming (watched.step (.startPosts deviceId)).2 := by
  by_cases hstarting : deviceId ∈ watched.listener.starting
  · have hnext : watched.listener.step (.startPosts deviceId) =
        (none, post .registerListener { watched.listener with
          starting := watched.listener.starting.erase deviceId }) := by
      rw [MissionChangeListener.step, MissionChangeListener.startPosts,
        if_pos hstarting]
    have hpeers := hcoming.peers (.inl (List.ne_nil_of_mem hstarting))
    unfold Watched.step
    rw [hnext]
    constructor
    · intro _
      exact hpeers
    · intro _
      right
      exact armed_append _ _ _
    · intro _
      right
      exact drained_append _ _ _
    · exact hcoming.kept
  · have hnext : watched.listener.step (.startPosts deviceId) =
        (none, watched.listener) := by
      rw [MissionChangeListener.step, MissionChangeListener.startPosts,
        if_neg hstarting]
    unfold Watched.step
    rw [hnext]
    exact hcoming

theorem Coming.stopSync {networkId : Text}
    (hundisturbed : watched.Undisturbed
      (.stopSyncMissionsFromRemote networkId)) :
    Coming (watched.step (.stopSyncMissionsFromRemote networkId)).2 := by
  have hkept : watched.started.erase networkId ⊆
      watched.listener.remoteSyncDeviceSet.erase networkId :=
    Finset.erase_subset_erase networkId hcoming.kept
  by_cases hempty : watched.listener.remoteSyncDeviceSet.erase networkId = ∅
  · have hstarting := hundisturbed hempty
    have hnext : watched.listener.step
        (.stopSyncMissionsFromRemote networkId) =
        (none, post .unregisterListener { watched.listener with
          remoteSyncDeviceSet :=
            watched.listener.remoteSyncDeviceSet.erase networkId }) := by
      rw [MissionChangeListener.step, MissionChangeListener.stopSync]
      simp only [hempty, if_true]
    unfold Watched.step
    rw [hnext]
    constructor
    · rintro (hstart | hdrained)
      · exact absurd hstarting hstart
      · have hlast := hdrained.symm.trans (drained_append _ _ _)
        exact absurd hlast (by decide)
    · intro hnonempty
      exact absurd hempty hnonempty.ne_empty
    · intro hstarted
      exact absurd hempty (hstarted.mono hkept).ne_empty
    · exact hkept
  · have hnext : watched.listener.step
        (.stopSyncMissionsFromRemote networkId) =
        (none, { watched.listener with
          remoteSyncDeviceSet :=
            watched.listener.remoteSyncDeviceSet.erase networkId }) := by
      rw [MissionChangeListener.step, MissionChangeListener.stopSync]
      simp only [hempty, if_false]
    unfold Watched.step
    rw [hnext]
    constructor
    · intro _
      exact Finset.nonempty_iff_ne_empty.mpr hempty
    · intro hnonempty
      exact hcoming.registration (hnonempty.mono (Finset.erase_subset _ _))
    · intro hstarted
      exact hcoming.started (hstarted.mono (Finset.erase_subset _ _))
    · exact hkept

theorem Coming.onDnetDied :
    Coming (watched.step .onDnetDied).2 where
  peers := by
    rintro (hstart | hdrained)
    · exact hcoming.peers (.inl hstart)
    · have hlast := hdrained.symm.trans (drained_append _ _ _)
      exact absurd hlast (by decide)
  registration := by
    intro hnonempty
    rcases hcoming.registration hnonempty with hstart | harmed
    · exact .inl hstart
    · right
      exact (armed_append _ _ _).trans harmed
  started := by
    rintro ⟨deviceId, hdevice⟩
    left
    exact List.ne_nil_of_mem (Finset.mem_filter.mp hdevice).2
  kept := (Finset.filter_subset _ _).trans hcoming.kept

theorem Coming.runTask (hundisturbed : watched.Undisturbed .runTask) :
    Coming (watched.step .runTask).2 := by
  obtain ⟨⟨peers, registered, queue, starting⟩, started⟩ := watched
  obtain ⟨hpeers, hregistration, hstarted, hkept⟩ := hcoming
  cases queue with
  | nil => exact ⟨hpeers, hregistration, hstarted, hkept⟩
  | cons task rest =>
      cases task with
      | registerListener =>
          cases registered <;>
            exact ⟨hpeers, hregistration, hstarted, hkept⟩
      | unregisterListener => exact ⟨hpeers, hregistration, hstarted, hkept⟩
      | dnetDied =>
          cases registered with
          | false => exact ⟨hpeers, hregistration, hstarted, hkept⟩
          | true =>
              -- nothing comes behind the task, so the set stays empty
              obtain ⟨hnone, hlast⟩ := hundisturbed rfl rfl
              have hrest : ¬ drained false rest = true := by
                intro hdrained
                apply hlast
                rw [drained_false_iff] at hdrained
                rw [List.getLast?_cons, hdrained]
                rfl
              have hidle : ¬ (starting ≠ [] ∨ drained false rest = true) := by
                rintro (hstart | hdrained)
                · exact hstart hnone
                · exact hrest hdrained
              have hempty : started = ∅ := by
                by_contra hne
                exact hidle (hstarted (Finset.nonempty_iff_ne_empty.mpr hne))
              constructor
              · intro hsome
                exact absurd hsome hidle
              · intro hnonempty
                exact absurd hnonempty Finset.not_nonempty_empty
              · intro hnonempty
                exact absurd hempty hnonempty.ne_empty
              · change started ⊆ ∅
                rw [hempty]

end Coming

theorem Coming.step {watched : Watched} (hcoming : Coming watched)
    {request : MissionRequest} (hundisturbed : watched.Undisturbed request) :
    Coming (watched.step request).2 := by
  cases request with
  | startSyncMissionsFromRemote deviceId => exact hcoming.startSync deviceId
  | startPosts deviceId => exact hcoming.startPosts deviceId
  | stopSyncMissionsFromRemote networkId => exact hcoming.stopSync hundisturbed
  | onDnetDied => exact hcoming.onDnetDied
  | runTask => exact hcoming.runTask hundisturbed

theorem coming_initial : Coming {} where
  peers := by simp [drained]
  registration := by simp
  started := by simp
  kept := by simp

/-- In every undisturbed run local mission changes are observed exactly while
some peer synchronises. -/
theorem observesWhileSynced_run (requests : List MissionRequest)
    (hundisturbed : EventRun.Meets Watched.step Watched.Undisturbed {}
      requests) :
    (EventRun.run Watched.step {} requests).2.ObservesWhileSynced := by
  have hcoming : Coming (EventRun.run Watched.step {} requests).2 :=
    hundisturbed.invariant (fun _ _ hcoming hstep => hcoming.step hstep)
      coming_initial
  exact hcoming.observes

def peerRequests : List MissionRequest :=
  [.startSyncMissionsFromRemote "near".toList, .startPosts "near".toList,
    .runTask, .startSyncMissionsFromRemote "far".toList,
    .stopSyncMissionsFromRemote "near".toList, .startPosts "far".toList,
    .runTask, .onDnetDied, .runTask,
    .startSyncMissionsFromRemote "near".toList, .startPosts "near".toList,
    .runTask]

theorem observesWhileSynced_peerRequests :
    (EventRun.run Watched.step {} peerRequests).2.ObservesWhileSynced :=
  observesWhileSynced_run peerRequests (by decide +kernel)

/-- A peer which starts after the death of the network service was announced is
dropped by the task, and the listener is registered for nobody. -/
def lateDeath : List MissionRequest :=
  [.startSyncMissionsFromRemote "near".toList, .startPosts "near".toList,
    .runTask, .onDnetDied, .startSyncMissionsFromRemote "far".toList,
    .startPosts "far".toList, .runTask, .runTask]

theorem not_observesWhileSynced_lateDeath :
    ¬ (EventRun.run Watched.step {} lateDeath).2.ObservesWhileSynced := by
  intro hobserves
  have hiff := hobserves.registered (by decide +kernel) (by decide +kernel)
  exact absurd (hiff.mp (by decide +kernel)) (by decide +kernel)

end MissionChangeListener

end Dmsfwk
