import Dmsfwk.RemoteMissionSync
import Dmsfwk.EventRun

/-!
# Requests to synchronise missions take effect

A watch keeps, beside the mission manager, the devices whose last exchange since
their entry was created is a successful start, and those whose start is still to
be retried because their service could not be reached.  The flag `called` is to
name the first, and a pending retry every one of the second.
-/

namespace Dmsfwk

namespace RemoteMissionSync

/-! ## What one operation changes -/

theorem mem_listenDeviceMap_iff (networkId : Text)
    (sync : RemoteMissionSync) :
    networkId ∈ sync.listenDeviceMap ↔
      ∃ listenerInfo, sync.listenDeviceMap[networkId]? = some listenerInfo := by
  rw [Std.TreeMap.mem_iff_isSome_getElem?, Option.isSome_iff_exists]

theorem hasSyncListener_iff (networkId : Text) (sync : RemoteMissionSync) :
    hasSyncListener networkId sync = true ↔
      ∃ listenerInfo, sync.listenDeviceMap[networkId]? = some listenerInfo ∧
        listenerInfo.called = true := by
  unfold hasSyncListener
  cases sync.listenDeviceMap[networkId]? <;> simp

theorem hasSyncListener_congr {networkId : Text}
    {sync next : RemoteMissionSync}
    (hentry : next.listenDeviceMap[networkId]? =
      sync.listenDeviceMap[networkId]?) :
    hasSyncListener networkId next = hasSyncListener networkId sync := by
  unfold hasSyncListener
  rw [hentry]

theorem mem_of_hasSyncListener {networkId : Text} {sync : RemoteMissionSync}
    (hcalled : hasSyncListener networkId sync = true) :
    networkId ∈ sync.listenDeviceMap := by
  obtain ⟨listenerInfo, hentry, _⟩ :=
    (hasSyncListener_iff networkId sync).mp hcalled
  exact (mem_listenDeviceMap_iff networkId sync).mpr ⟨listenerInfo, hentry⟩

@[simp] theorem listenDeviceMap_getRemoteDms (answers : SyncAnswers)
    (deviceId : Text) (sync : RemoteMissionSync) :
    (getRemoteDms answers deviceId sync).listenDeviceMap =
      sync.listenDeviceMap := by
  unfold getRemoteDms
  split_ifs <;> rfl

@[simp] theorem tasks_getRemoteDms (answers : SyncAnswers) (deviceId : Text)
    (sync : RemoteMissionSync) :
    (getRemoteDms answers deviceId sync).tasks = sync.tasks := by
  unfold getRemoteDms
  split_ifs <;> rfl

@[simp] theorem listenDeviceMap_retryStartSync (dstDeviceId : Text)
    (retryTimes : ℕ) (sync : RemoteMissionSync) :
    (retryStartSync dstDeviceId retryTimes sync).listenDeviceMap =
      sync.listenDeviceMap := by
  unfold retryStartSync
  split_ifs <;> rfl

theorem tasks_retryStartSync (dstDeviceId : Text) (retryTimes : ℕ)
    (sync : RemoteMissionSync) :
    sync.tasks ⊆ (retryStartSync dstDeviceId retryTimes sync).tasks := by
  unfold retryStartSync
  split_ifs with hmore
  · exact List.subset_append_left _ _
  · exact List.Subset.refl _

@[simp] theorem tasks_setCalled (dstDevId : Text) (sync : RemoteMissionSync) :
    (setCalled dstDevId sync).tasks = sync.tasks := by
  unfold setCalled
  split <;> rfl

theorem hasSyncListener_setCalled (dstDevId networkId : Text)
    (sync : RemoteMissionSync) :
    hasSyncListener networkId (setCalled dstDevId sync) = true ↔
      hasSyncListener networkId sync = true ∨
        networkId = dstDevId ∧ dstDevId ∈ sync.listenDeviceMap := by
  rw [hasSyncListener_iff, hasSyncListener_iff]
  unfold setCalled
  cases hentry : sync.listenDeviceMap[dstDevId]? with
  | none =>
      have habsent : dstDevId ∉ sync.listenDeviceMap :=
        by simp [mem_listenDeviceMap_iff, hentry]
      simp [habsent]
  | some listenerInfo =>
      have hpresent : dstDevId ∈ sync.listenDeviceMap :=
        (mem_listenDeviceMap_iff dstDevId sync).mpr ⟨listenerInfo, hentry⟩
      by_cases hsame : networkId = dstDevId
      · subst hsame
        simp [hpresent]
      · simp [OrderedMap.getElem?_insert_eq, Ne.symm hsame, hsame]

theorem mem_setCalled (dstDevId networkId : Text) (sync : RemoteMissionSync) :
    networkId ∈ (setCalled dstDevId sync).listenDeviceMap ↔
      networkId ∈ sync.listenDeviceMap := by
  unfold setCalled
  cases hentry : sync.listenDeviceMap[dstDevId]? with
  | none => rfl
  | some listenerInfo =>
      rw [Std.TreeMap.mem_insert, Std.compare_eq_iff_eq]
      constructor
      · rintro (rfl | hmem)
        · exact (mem_listenDeviceMap_iff _ sync).mpr ⟨listenerInfo, hentry⟩
        · exact hmem
      · exact .inr

theorem startSyncRemoteMissions_cases (answers : SyncAnswers)
    (dstDevId : Text) (sync : RemoteMissionSync) :
    (∃ result, startSyncRemoteMissions answers dstDevId sync =
        ({ result := result }, sync) ∧
      result ≠ .error .getRemoteDmsFail ∧
      (result = .ok () → dstDevId ∈ sync.listenDeviceMap →
        hasSyncListener dstDevId sync = true)) ∨
    startSyncRemoteMissions answers dstDevId sync =
      ({ result := .error .getRemoteDmsFail },
        retryStartSync dstDevId 0 sync) ∨
    (∃ error exchanges, startSyncRemoteMissions answers dstDevId sync =
        ({ result := .error error, exchanges := exchanges },
          getRemoteDms answers dstDevId sync) ∧
      error ≠ .getRemoteDmsFail ∧
      hasSyncListener dstDevId sync = false ∧
      exchanges ⊆ [.startSyncMissions dstDevId false]) ∨
    startSyncRemoteMissions answers dstDevId sync =
        ({ exchanges := [.startSyncMissions dstDevId true] },
          setCalled dstDevId (getRemoteDms answers dstDevId sync)) ∧
      dstDevId ∈ sync.listenDeviceMap := by
  unfold startSyncRemoteMissions
  by_cases hvalid : answers.validDevice = false
  · left
    exact ⟨_, if_pos hvalid, by simp, by simp⟩
  rw [if_neg hvalid]
  cases hentry : sync.listenDeviceMap[dstDevId]? with
  | none =>
      left
      refine ⟨_, rfl, by simp, ?_⟩
      intro _ hmem
      obtain ⟨listenerInfo, hsome⟩ :=
        (mem_listenDeviceMap_iff dstDevId sync).mp hmem
      exact absurd (hentry.symm.trans hsome) (Option.some_ne_none _).symm
  | some listenerInfo =>
      have hmem : dstDevId ∈ sync.listenDeviceMap :=
        (mem_listenDeviceMap_iff dstDevId sync).mpr ⟨listenerInfo, hentry⟩
      have hcalledIff :
          hasSyncListener dstDevId sync = listenerInfo.called := by
        unfold hasSyncListener
        rw [hentry]
      dsimp only
      by_cases hcalled : listenerInfo.called = true
      · left
        exact ⟨_, if_pos hcalled, by simp,
          fun _ _ => hcalledIff.trans hcalled⟩
      rw [if_neg hcalled]
      right
      by_cases hreaches : sync.reaches answers dstDevId = false
      · left
        exact if_pos hreaches
      rw [if_neg hreaches]
      right
      have hnot : hasSyncListener dstDevId sync = false :=
        hcalledIff.trans (Bool.eq_false_of_not_eq_true hcalled)
      unfold startWith
      split_ifs with hinfo haccepted
      · left
        exact ⟨_, _, rfl, by simp, hnot, by simp⟩
      · right
        exact ⟨rfl, hmem⟩
      · left
        exact ⟨_, _, rfl, by simp, hnot, by simp⟩

theorem stopSyncRemoteMissions_spec (answers : SyncAnswers)
    (dstDevId : Text) (offline : Bool) (sync : RemoteMissionSync) :
    (stopSyncRemoteMissions answers dstDevId offline sync).2.listenDeviceMap =
        sync.listenDeviceMap ∧
      (stopSyncRemoteMissions answers dstDevId offline sync).2.tasks =
        sync.tasks ∧
      ∀ exchange ∈ (stopSyncRemoteMissions answers dstDevId offline
          sync).1.exchanges,
        (sync.reaches answers dstDevId = true ∧
          answers.generateCallerInfo = true) ∧
        ∃ ok, exchange = .stopSyncMissions dstDevId ok := by
  unfold stopSyncRemoteMissions
  dsimp only
  split_ifs <;> simp_all

theorem stops_foldl (answers : SyncAnswers) (devices : List Text)
    (state : SyncOutcome × RemoteMissionSync) :
    let stopped := devices.foldl
      (fun state devId =>
        let (outcome, next) :=
          stopSyncRemoteMissions answers devId false state.2
        ({ exchanges := state.1.exchanges ++ outcome.exchanges }, next))
      state
    stopped.2.listenDeviceMap = state.2.listenDeviceMap ∧
      stopped.2.tasks = state.2.tasks ∧
      ∀ exchange ∈ stopped.1.exchanges, exchange ∈ state.1.exchanges ∨
        ∃ devId ∈ devices, ∃ ok, exchange = .stopSyncMissions devId ok := by
  induction devices generalizing state with
  | nil => exact ⟨rfl, rfl, fun _ => .inl⟩
  | cons devId devices ih =>
      obtain ⟨hmap, htasks, hexchanges⟩ :=
        stopSyncRemoteMissions_spec answers devId false state.2
      obtain ⟨ihMap, ihTasks, ihExchanges⟩ := ih
        ({ exchanges := state.1.exchanges ++ (stopSyncRemoteMissions answers
            devId false state.2).1.exchanges },
          (stopSyncRemoteMissions answers devId false state.2).2)
      refine ⟨ihMap.trans hmap, ihTasks.trans htasks, ?_⟩
      intro exchange hexchange
      rcases ihExchanges exchange hexchange with hbefore | ⟨other, hmem, hstop⟩
      · rcases List.mem_append.mp hbefore with hbefore | hnew
        · exact .inl hbefore
        · exact .inr ⟨devId, List.mem_cons_self, (hexchanges exchange hnew).2⟩
      · exact .inr ⟨other, List.mem_cons_of_mem _ hmem, hstop⟩

theorem onMissionListenerDied_spec (answers : SyncAnswers)
    (remote : RemoteObject) (sync : RemoteMissionSync) :
    (∀ devId : Text,
      (onMissionListenerDied answers remote sync).2.listenDeviceMap[devId]? =
        sync.listenDeviceMap[devId]?.bind (withoutListener remote)) ∧
      (onMissionListenerDied answers remote sync).2.tasks = sync.tasks ∧
      ∀ exchange ∈ (onMissionListenerDied answers remote sync).1.exchanges,
        ∃ devId, devId ∉
            (onMissionListenerDied answers remote sync).2.listenDeviceMap ∧
          ∃ ok, exchange = .stopSyncMissions devId ok := by
  let devices := (sync.listenDeviceMap.toList.filter fun entry =>
    (withoutListener remote entry.2).isNone && entry.2.called).map (·.1)
  obtain ⟨hmap, htasks, hexchanges⟩ := stops_foldl answers devices
    ({}, { sync with
      listenDeviceMap := sync.listenDeviceMap.filterMap
        fun _ listenerInfo => withoutListener remote listenerInfo })
  have hentries : ∀ devId : Text,
      (onMissionListenerDied answers remote sync).2.listenDeviceMap[devId]? =
        sync.listenDeviceMap[devId]?.bind (withoutListener remote) := by
    intro devId
    have hentry := congrArg (·[devId]?) hmap
    exact hentry.trans Std.TreeMap.getElem?_filterMap'
  refine ⟨hentries, htasks, ?_⟩
  intro exchange hexchange
  rcases hexchanges exchange hexchange with hnone | ⟨devId, hmem, hstop⟩
  · exact absurd hnone List.not_mem_nil
  · refine ⟨devId, ?_, hstop⟩
    rw [mem_listenDeviceMap_iff]
    rintro ⟨listenerInfo, hentry⟩
    obtain ⟨⟨_, before⟩, hbefore, rfl⟩ := List.mem_map.mp hmem
    obtain ⟨hentryMem, hdied⟩ := List.mem_filter.mp hbefore
    rw [Std.TreeMap.mem_toList_iff_getElem?_eq_some] at hentryMem
    rw [hentries, hentryMem] at hentry
    simp_all

theorem onRemoteDmsDied_spec (answers : SyncAnswers) (remote : RemoteObject)
    (sync : RemoteMissionSync) :
    (onRemoteDmsDied answers remote sync).listenDeviceMap =
        sync.listenDeviceMap ∧
      sync.tasks ⊆ (onRemoteDmsDied answers remote sync).tasks := by
  unfold onRemoteDmsDied
  split
  · exact ⟨rfl, List.Subset.refl _⟩
  · dsimp only
    split_ifs
    · exact ⟨rfl, List.Subset.refl _⟩
    · exact ⟨listenDeviceMap_retryStartSync _ _ _,
        tasks_retryStartSync _ _ { sync with
          remoteDmsMap := sync.remoteDmsMap.erase _ }⟩
    · exact ⟨rfl, List.Subset.refl _⟩

/-! ## The watch -/

structure SyncWatch where
  sync : RemoteMissionSync := {}
  synced : Finset Text := ∅
  owed : Finset Text := ∅

def exchanged (synced : Finset Text) : SyncExchange → Finset Text
  | .startSyncMissions deviceId true => insert deviceId synced
  | .startSyncMissions deviceId false => synced.erase deviceId
  | .stopSyncMissions deviceId _ => synced.erase deviceId

namespace SyncWatch

/-- A start is owed when its service could not be reached, and no longer when
its last retry has come. -/
def owing (watch : SyncWatch) (result : Except SyncErr Unit) :
    SyncEvent → Finset Text
  | .startSyncRemoteMissions _ dstDevId =>
      match result with
      | .error .getRemoteDmsFail => insert dstDevId watch.owed
      | _ => watch.owed
  | .runTask _ index =>
      match watch.sync.tasks[index]? with
      | some (.retryStartSync dstDeviceId retryTimes) =>
          if retryTimes + 1 < maxRetryTimes then watch.owed
          else watch.owed.erase dstDeviceId
      | _ => watch.owed
  | _ => watch.owed

def after (watch : SyncWatch) (next : SyncOutcome × RemoteMissionSync)
    (owed : Finset Text) : SyncWatch where
  sync := next.2
  synced := (next.1.exchanges.foldl exchanged watch.synced).filter
    (· ∈ next.2.listenDeviceMap)
  owed := owed.filter fun deviceId =>
    deviceId ∈ next.2.listenDeviceMap ∧
      .startSyncMissions deviceId true ∉ next.1.exchanges

def step (watch : SyncWatch) (event : SyncEvent) : SyncOutcome × SyncWatch :=
  let next := watch.sync.step event
  (next.1, watch.after next (watch.owing next.1.result event))

/-- The flag says what the last exchange was; a start that is owed has a retry
pending; and a start that answers `ERR_NONE` leaves its device synchronising. -/
structure TakesEffect (watch : SyncWatch) : Prop where
  called : ∀ devId listenerInfo,
    watch.sync.listenDeviceMap[devId]? = some listenerInfo →
    (listenerInfo.called = true ↔ devId ∈ watch.synced)
  retried : ∀ devId ∈ watch.owed, ∃ retryTimes,
    .retryStartSync devId retryTimes ∈ watch.sync.tasks
  started : ∀ answers devId,
    devId ∈ watch.sync.listenDeviceMap →
    (watch.step (.startSyncRemoteMissions answers devId)).1.result = .ok () →
    devId ∈ (watch.step (.startSyncRemoteMissions answers devId)).2.synced

/-- A stop does not reach a device that was asked to synchronise; a retry runs
for no device whose start is owed, and a service that it reaches accepts. -/
def Accepted (watch : SyncWatch) : SyncEvent → Prop
  | .stopSyncRemoteMissions answers dstDevId =>
      hasSyncListener dstDevId watch.sync = true →
      watch.sync.reaches answers dstDevId = true →
      answers.generateCallerInfo = false
  | .runTask answers index =>
      match watch.sync.tasks[index]? with
      | some (.retryStartSync dstDeviceId _) =>
          dstDeviceId ∉ watch.owed ∧
            (hasSyncListener dstDeviceId watch.sync = true →
              watch.sync.reaches answers dstDeviceId = true →
              answers.generateCallerInfo = true →
              answers.startResult dstDeviceId = 0)
      | _ => True
  | _ => True

instance (watch : SyncWatch) : DecidablePred watch.Accepted := by
  intro event
  unfold Accepted
  split
  · infer_instance
  · split <;> infer_instance
  · infer_instance

end SyncWatch

/-! ## What an accepted run keeps -/

structure Matched (watch : SyncWatch) : Prop where
  called : ∀ devId,
    hasSyncListener devId watch.sync = true ↔ devId ∈ watch.synced
  retried : ∀ devId ∈ watch.owed, ∃ retryTimes,
    .retryStartSync devId retryTimes ∈ watch.sync.tasks

/-- A step keeps the flag and the last exchange of every device whose entry it
leaves, and a pending retry of every start that is owed. -/
theorem Matched.keeps {watch : SyncWatch} (hmatched : Matched watch)
    {next : SyncOutcome × RemoteMissionSync} {owed : Finset Text}
    (hflags : ∀ devId ∈ next.2.listenDeviceMap,
      hasSyncListener devId next.2 = hasSyncListener devId watch.sync)
    (hsynced : ∀ devId ∈ next.2.listenDeviceMap,
      (devId ∈ next.1.exchanges.foldl exchanged watch.synced ↔
        devId ∈ watch.synced))
    (hretried : ∀ devId ∈ owed, ∃ retryTimes,
      .retryStartSync devId retryTimes ∈ next.2.tasks) :
    Matched (watch.after next owed) where
  called := by
    intro devId
    simp only [SyncWatch.after, Finset.mem_filter]
    constructor
    · intro hcalled
      have hmem := mem_of_hasSyncListener hcalled
      rw [hsynced devId hmem, ← hmatched.called devId, ← hflags devId hmem]
      exact ⟨hcalled, hmem⟩
    · rintro ⟨hfold, hmem⟩
      rw [hflags devId hmem, hmatched.called devId, ← hsynced devId hmem]
      exact hfold
  retried := by
    intro devId howed
    exact hretried devId (Finset.mem_filter.mp howed).1

theorem Matched.not_mem_synced {watch : SyncWatch} (hmatched : Matched watch)
    {devId : Text} (hcalled : hasSyncListener devId watch.sync = false) :
    devId ∉ watch.synced := by
  rw [← hmatched.called devId, hcalled]
  exact Bool.false_ne_true

theorem Matched.retried_of_subset {watch : SyncWatch}
    (hmatched : Matched watch) {tasks : List MissionHandlerTask}
    (htasks : watch.sync.tasks ⊆ tasks) :
    ∀ devId ∈ watch.owed, ∃ retryTimes,
      .retryStartSync devId retryTimes ∈ tasks := by
  intro devId howed
  obtain ⟨retryTimes, hmem⟩ := hmatched.retried devId howed
  exact ⟨retryTimes, htasks hmem⟩

theorem foldl_exchanged_eq {synced : Finset Text}
    {exchanges : List SyncExchange}
    (hsame : ∀ exchange ∈ exchanges, exchanged synced exchange = synced) :
    exchanges.foldl exchanged synced = synced := by
  induction exchanges with
  | nil => rfl
  | cons exchange exchanges ih =>
      rw [List.foldl_cons, hsame exchange List.mem_cons_self]
      exact ih fun other hother => hsame other (List.mem_cons_of_mem _ hother)

theorem mem_foldl_exchanged_stops {devId : Text}
    {exchanges : List SyncExchange}
    (hstops : ∀ exchange ∈ exchanges, ∃ other ≠ devId, ∃ ok,
      exchange = .stopSyncMissions other ok) (synced : Finset Text) :
    devId ∈ exchanges.foldl exchanged synced ↔ devId ∈ synced := by
  induction exchanges generalizing synced with
  | nil => rfl
  | cons exchange exchanges ih =>
      obtain ⟨other, hne, ok, rfl⟩ := hstops exchange List.mem_cons_self
      rw [List.foldl_cons,
        ih fun later hlater => hstops later (List.mem_cons_of_mem _ hlater)]
      exact Finset.mem_erase.trans (and_iff_right hne.symm)

/-- An operation that exchanges nothing, keeps the flag of every entry it leaves
and drops no task. -/
structure Quiet (sync : RemoteMissionSync)
    (next : SyncOutcome × RemoteMissionSync) : Prop where
  exchanges : next.1.exchanges = []
  flags : ∀ devId ∈ next.2.listenDeviceMap,
    hasSyncListener devId next.2 = hasSyncListener devId sync
  tasks : sync.tasks ⊆ next.2.tasks

theorem Quiet.of_same {sync next : RemoteMissionSync}
    {result : Except SyncErr Unit}
    (hmap : next.listenDeviceMap = sync.listenDeviceMap)
    (htasks : sync.tasks ⊆ next.tasks) :
    Quiet sync ({ result := result }, next) where
  exchanges := rfl
  flags := by
    intro devId _
    apply hasSyncListener_congr
    rw [hmap]
  tasks := htasks

theorem quiet_self (result : Except SyncErr Unit) (sync : RemoteMissionSync) :
    Quiet sync ({ result := result }, sync) :=
  .of_same rfl (List.Subset.refl _)

theorem Matched.quiet {watch : SyncWatch} (hmatched : Matched watch)
    {next : SyncOutcome × RemoteMissionSync} (hquiet : Quiet watch.sync next) :
    Matched (watch.after next watch.owed) := by
  apply hmatched.keeps hquiet.flags
  · intro devId _
    rw [hquiet.exchanges]
    rfl
  · exact hmatched.retried_of_subset hquiet.tasks

/-! ### Requests -/

theorem quiet_registerMissionListener (answers : SyncAnswers) (devId : Text)
    (listener : RemoteObject) (sync : RemoteMissionSync) :
    Quiet sync (registerMissionListener answers devId listener sync) := by
  unfold registerMissionListener
  dsimp only
  split_ifs with hinvalid hregistered
  · exact quiet_self _ sync
  · exact quiet_self _ sync
  · constructor
    · rfl
    · intro other _
      unfold hasSyncListener
      simp only [OrderedMap.getElem?_insert_eq]
      split_ifs with hsame
      · subst hsame
        cases sync.listenDeviceMap[devId]? <;> rfl
      · rfl
    · exact List.Subset.refl _

theorem quiet_erase (devId : Text) (sync : RemoteMissionSync) :
    Quiet sync ({}, { sync with
      listenDeviceMap := sync.listenDeviceMap.erase devId }) where
  exchanges := rfl
  flags := by
    intro other hmem
    rw [Std.TreeMap.mem_erase] at hmem
    apply hasSyncListener_congr
    rw [OrderedMap.getElem?_erase_eq, if_neg]
    rintro rfl
    exact hmem.1 Std.compare_self
  tasks := List.Subset.refl _

theorem quiet_unRegisterMissionListener (answers : SyncAnswers)
    (devId : Text) (listener : RemoteObject) (sync : RemoteMissionSync) :
    Quiet sync (unRegisterMissionListener answers devId listener sync) := by
  unfold unRegisterMissionListener
  split_ifs with hinvalid
  · exact quiet_self _ sync
  cases hentry : sync.listenDeviceMap[devId]? with
  | none => exact quiet_self _ sync
  | some listenerInfo =>
      dsimp only
      split_ifs with hregistered hlast
      · exact quiet_erase devId sync
      · constructor
        · rfl
        · intro other _
          unfold hasSyncListener
          simp only [OrderedMap.getElem?_insert_eq]
          split_ifs with hsame
          · subst hsame
            rw [hentry]
          · rfl
        · exact List.Subset.refl _
      · exact quiet_self _ sync

theorem quiet_cleanMissionResources (answers : SyncAnswers)
    (networkId : Text) (sync : RemoteMissionSync) :
    Quiet sync (cleanMissionResources answers networkId sync) := by
  unfold cleanMissionResources
  cases sync.listenDeviceMap[networkId]? with
  | none => exact quiet_self _ sync
  | some listenerInfo => exact quiet_erase networkId sync

theorem owing_start {watch : SyncWatch} {result : Except SyncErr Unit}
    (hreached : result ≠ .error .getRemoteDmsFail) (answers : SyncAnswers)
    (dstDevId : Text) :
    watch.owing result (.startSyncRemoteMissions answers dstDevId) =
      watch.owed := by
  unfold SyncWatch.owing
  split <;> simp_all

theorem Matched.startAccepted {watch : SyncWatch} (hmatched : Matched watch)
    (answers : SyncAnswers) {dstDevId : Text}
    (hmem : dstDevId ∈ watch.sync.listenDeviceMap) :
    Matched (watch.after
      ({ exchanges := [.startSyncMissions dstDevId true] },
        setCalled dstDevId (getRemoteDms answers dstDevId watch.sync))
      watch.owed) := by
  constructor
  · intro devId
    have hcached : hasSyncListener devId
        (getRemoteDms answers dstDevId watch.sync) =
          hasSyncListener devId watch.sync := by
      apply hasSyncListener_congr
      simp
    simp only [SyncWatch.after, hasSyncListener_setCalled, hcached,
      listenDeviceMap_getRemoteDms, mem_setCalled, Finset.mem_filter,
      List.foldl_cons, List.foldl_nil, exchanged, Finset.mem_insert]
    rw [← hmatched.called devId]
    constructor
    · rintro (hcalled | ⟨rfl, _⟩)
      · exact ⟨.inr hcalled, mem_of_hasSyncListener hcalled⟩
      · exact ⟨.inl rfl, hmem⟩
    · rintro ⟨rfl | hcalled, _⟩
      · exact .inr ⟨rfl, hmem⟩
      · exact .inl hcalled
  · intro devId howed
    have hpending := hmatched.retried devId (Finset.mem_filter.mp howed).1
    simp only [SyncWatch.after, tasks_setCalled, tasks_getRemoteDms]
    exact hpending

theorem Matched.startSyncRemoteMissions {watch : SyncWatch}
    (hmatched : Matched watch) (answers : SyncAnswers) (dstDevId : Text) :
    Matched (watch.step (.startSyncRemoteMissions answers dstDevId)).2 := by
  unfold SyncWatch.step RemoteMissionSync.step
  dsimp only
  rcases startSyncRemoteMissions_cases answers dstDevId watch.sync with
    ⟨result, hnext, hreached, _⟩ | hnext |
    ⟨error, exchanges, hnext, hreached, hnot, hexchanges⟩ | ⟨hnext, hmem⟩
  · rw [hnext]
    rw [owing_start hreached]
    exact hmatched.quiet (quiet_self result watch.sync)
  · rw [hnext]
    apply hmatched.keeps
    · intro devId _
      apply hasSyncListener_congr
      simp
    · exact fun _ _ => Iff.rfl
    · intro devId howed
      rcases Finset.mem_insert.mp howed with rfl | howed
      · refine ⟨0, ?_⟩
        unfold retryStartSync
        rw [if_pos (by decide)]
        exact List.mem_append_right _ List.mem_cons_self
      · exact hmatched.retried_of_subset (tasks_retryStartSync _ _ _) devId
          howed
  · rw [hnext]
    have hresult : (.error error : Except SyncErr Unit) ≠
        .error .getRemoteDmsFail := by
      intro hsame
      exact hreached (Except.error.inj hsame)
    rw [owing_start hresult]
    apply hmatched.keeps
    · intro devId _
      apply hasSyncListener_congr
      simp
    · intro devId _
      rw [foldl_exchanged_eq]
      intro exchange hexchange
      have hfailed := List.mem_singleton.mp (hexchanges hexchange)
      rw [hfailed]
      exact Finset.erase_eq_of_notMem (hmatched.not_mem_synced hnot)
    · apply hmatched.retried_of_subset
      rw [tasks_getRemoteDms]
      exact List.Subset.refl _
  · rw [hnext]
    exact hmatched.startAccepted answers hmem

theorem Matched.stopSyncRemoteMissions {watch : SyncWatch}
    (hmatched : Matched watch) {answers : SyncAnswers} {dstDevId : Text}
    (haccepted : watch.Accepted
      (.stopSyncRemoteMissions answers dstDevId)) :
    Matched (watch.step (.stopSyncRemoteMissions answers dstDevId)).2 := by
  obtain ⟨hmap, htasks, hexchanges⟩ :=
    stopSyncRemoteMissions_spec answers dstDevId false watch.sync
  apply hmatched.keeps
  · intro devId _
    exact hasSyncListener_congr (congrArg (·[devId]?) hmap)
  · intro devId _
    rw [foldl_exchanged_eq]
    intro exchange hexchange
    obtain ⟨⟨hreaches, hinfo⟩, ok, rfl⟩ := hexchanges exchange hexchange
    apply Finset.erase_eq_of_notMem
    apply hmatched.not_mem_synced
    by_contra hcalled
    have hunsent := haccepted (Bool.eq_true_of_not_eq_false hcalled) hreaches
    rw [hinfo] at hunsent
    exact absurd hunsent (by decide)
  · apply hmatched.retried_of_subset
    exact htasks ▸ List.Subset.refl _

/-! ### Deaths -/

theorem called_withoutListener {remote : RemoteObject}
    {before listenerInfo : ListenerInfo}
    (hleft : withoutListener remote before = some listenerInfo) :
    listenerInfo.called = before.called := by
  unfold withoutListener at hleft
  split_ifs at hleft with habsent hlast
  · rw [← Option.some.inj hleft]
  · rw [Option.some.inj hleft]

section Matched

variable {watch : SyncWatch} (hmatched : Matched watch)

include hmatched

theorem Matched.missionListenerDied (answers : SyncAnswers) (remote : RemoteObject) :
    Matched (watch.step (.missionListenerDied answers remote)).2 := by
  obtain ⟨hentries, htasks, hexchanges⟩ :=
    onMissionListenerDied_spec answers remote watch.sync
  apply hmatched.keeps
  · intro devId hmem
    obtain ⟨listenerInfo, hentry⟩ := (mem_listenDeviceMap_iff _ _).mp hmem
    have hbefore := (hentries devId).symm.trans hentry
    obtain ⟨before, hsome, hleft⟩ := Option.bind_eq_some_iff.mp hbefore
    change hasSyncListener devId
      (onMissionListenerDied answers remote watch.sync).2 = _
    unfold hasSyncListener
    rw [hsome, hentries, hsome, Option.bind_some, hleft]
    exact called_withoutListener hleft
  · intro devId hmem
    apply mem_foldl_exchanged_stops
    intro exchange hexchange
    obtain ⟨other, habsent, hstop⟩ := hexchanges exchange hexchange
    refine ⟨other, ?_, hstop⟩
    rintro rfl
    exact habsent hmem
  · apply hmatched.retried_of_subset
    exact htasks ▸ List.Subset.refl _

/-! ### Tasks -/

theorem Matched.dequeue {index : ℕ} {task : MissionHandlerTask}
    (htask : watch.sync.tasks[index]? = some task)
    (hother : ∀ devId ∈ watch.owed, ∀ retryTimes,
      task ≠ .retryStartSync devId retryTimes) :
    Matched { watch with
      sync := { watch.sync with tasks := watch.sync.tasks.eraseIdx index } }
    where
  called := hmatched.called
  retried := by
    intro devId howed
    obtain ⟨retryTimes, hmem⟩ := hmatched.retried devId howed
    refine ⟨retryTimes, ?_⟩
    obtain ⟨position, hposition⟩ := List.mem_iff_getElem?.mp hmem
    apply List.mem_eraseIdx_iff_getElem?.mpr
    refine ⟨position, ?_, hposition⟩
    rintro rfl
    exact hother devId howed retryTimes
      (Option.some.inj (htask.symm.trans hposition))

theorem Matched.retryTask {answers : SyncAnswers} {dstDeviceId : Text}
    (haccepted : hasSyncListener dstDeviceId watch.sync = true →
      watch.sync.reaches answers dstDeviceId = true →
      answers.generateCallerInfo = true →
      answers.startResult dstDeviceId = 0) (retryTimes : ℕ) :
    Matched (watch.after (RemoteMissionSync.retryTask answers dstDeviceId
      retryTimes watch.sync) watch.owed) := by
  unfold RemoteMissionSync.retryTask
  split_ifs with hcalled hreaches
  · exact hmatched.quiet (quiet_self _ watch.sync)
  · exact hmatched.quiet (.of_same (listenDeviceMap_retryStartSync _ _ _)
      (tasks_retryStartSync _ _ _))
  · rw [Bool.not_eq_true, Bool.not_eq_false'] at hcalled
    rw [Bool.not_eq_false] at hreaches
    apply hmatched.keeps
    · intro devId _
      apply hasSyncListener_congr
      simp
    · intro devId _
      rw [foldl_exchanged_eq]
      intro exchange hexchange
      unfold startWith at hexchange
      split_ifs at hexchange with hinfo hstarted
      · exact absurd hexchange List.not_mem_nil
      · rw [List.mem_singleton.mp hexchange]
        exact Finset.insert_eq_of_mem
          ((hmatched.called dstDeviceId).mp hcalled)
      · rw [Bool.not_eq_true, Bool.not_eq_false'] at hinfo
        exact absurd (haccepted hcalled hreaches hinfo) hstarted
    · apply hmatched.retried_of_subset
      rw [tasks_getRemoteDms]
      exact List.Subset.refl _

theorem Matched.runTask {answers : SyncAnswers} {index : ℕ}
    (haccepted : watch.Accepted (.runTask answers index)) :
    Matched (watch.step (.runTask answers index)).2 := by
  unfold SyncWatch.step RemoteMissionSync.step RemoteMissionSync.runTask
    SyncWatch.owing
  unfold SyncWatch.Accepted at haccepted
  dsimp only at haccepted ⊢
  cases htask : watch.sync.tasks[index]? with
  | none => exact hmatched.quiet (quiet_self _ watch.sync)
  | some task =>
      rw [htask] at haccepted
      cases task with
      | retryStartSync dstDeviceId retryTimes =>
          obtain ⟨howed, hstarted⟩ := haccepted
          have hrest := hmatched.dequeue htask (by
            rintro devId hmem _ hsame
            cases hsame
            exact howed hmem)
          have howing : (if retryTimes + 1 < maxRetryTimes then watch.owed
              else watch.owed.erase dstDeviceId) = watch.owed := by
            rw [Finset.erase_eq_of_notMem howed, ite_self]
          dsimp only
          rw [howing]
          exact hrest.retryTask hstarted retryTimes
      | remoteDmsDied remote =>
          have hrest := hmatched.dequeue htask (by simp)
          obtain ⟨hmap, htasks⟩ := onRemoteDmsDied_spec answers remote
            { watch.sync with tasks := watch.sync.tasks.eraseIdx index }
          exact hrest.quiet (.of_same hmap htasks)

end Matched

theorem Matched.step {watch : SyncWatch} (hmatched : Matched watch)
    {event : SyncEvent} (haccepted : watch.Accepted event) :
    Matched (watch.step event).2 := by
  cases event with
  | registerMissionListener answers devId listener =>
      exact hmatched.quiet
        (quiet_registerMissionListener answers devId listener watch.sync)
  | startSyncRemoteMissions answers dstDevId =>
      exact hmatched.startSyncRemoteMissions answers dstDevId
  | stopSyncRemoteMissions answers dstDevId =>
      exact hmatched.stopSyncRemoteMissions haccepted
  | unRegisterMissionListener answers devId listener =>
      exact hmatched.quiet
        (quiet_unRegisterMissionListener answers devId listener watch.sync)
  | deviceOffline answers networkId =>
      exact hmatched.quiet
        (quiet_cleanMissionResources answers networkId watch.sync)
  | missionListenerDied answers remote =>
      exact hmatched.missionListenerDied answers remote
  | remoteDmsDied remote =>
      exact hmatched.quiet (.of_same rfl (List.subset_append_left _ _))
  | runTask answers index => exact hmatched.runTask haccepted

theorem matched_initial : Matched {} where
  called := by
    intro devId
    simp [hasSyncListener]
  retried := by simp

theorem Matched.takesEffect {watch : SyncWatch} (hmatched : Matched watch) :
    watch.TakesEffect where
  called := by
    intro devId listenerInfo hentry
    rw [← hmatched.called devId]
    unfold hasSyncListener
    rw [hentry]
  retried := hmatched.retried
  started := by
    intro answers devId hmem hresult
    have hnext := hmatched.startSyncRemoteMissions answers devId
    rw [← hnext.called devId]
    rcases startSyncRemoteMissions_cases answers devId watch.sync with
      ⟨result, hstep, _, hcalled⟩ | hstep | ⟨error, exchanges, hstep, _⟩ |
      ⟨hstep, _⟩
    all_goals
      unfold SyncWatch.step RemoteMissionSync.step at hresult ⊢
      dsimp only at hresult ⊢
      rw [hstep] at hresult ⊢
    · exact hcalled hresult hmem
    · exact absurd hresult (by simp)
    · exact absurd hresult (by simp)
    · apply (hasSyncListener_setCalled _ _ _).mpr
      right
      rw [listenDeviceMap_getRemoteDms]
      exact ⟨rfl, hmem⟩

/-- In every run whose steps are accepted, requests to synchronise take
effect. -/
theorem takesEffect_run (events : List SyncEvent)
    (haccepted : EventRun.Meets SyncWatch.step SyncWatch.Accepted {}
      events) :
    (EventRun.run SyncWatch.step {} events).2.TakesEffect := by
  have hmatched : Matched (EventRun.run SyncWatch.step {} events).2 :=
    haccepted.invariant (fun _ _ hmatched hstep => hmatched.step hstep)
      matched_initial
  exact hmatched.takesEffect

def reachable : SyncAnswers where
  checkSystemAbility _ := 3

def unreachable : SyncAnswers where
  checkSystemAbility _ := 0

/-- A start which finds the device at the second attempt, the death of its
service with the retry that follows, and the death of the listener. -/
def sampleEvents : List SyncEvent :=
  [.registerMissionListener reachable "near".toList 1,
    .startSyncRemoteMissions unreachable "near".toList,
    .startSyncRemoteMissions reachable "near".toList,
    .remoteDmsDied 3, .runTask unreachable 1, .runTask unreachable 0,
    .runTask reachable 0, .registerMissionListener reachable "far".toList 1,
    .startSyncRemoteMissions unreachable "far".toList,
    .missionListenerDied reachable 1]

theorem takesEffect_sampleEvents :
    (EventRun.run SyncWatch.step {} sampleEvents).2.TakesEffect :=
  takesEffect_run sampleEvents (by decide +kernel)

def restarted : List SyncEvent :=
  [.registerMissionListener reachable "near".toList 1,
    .startSyncRemoteMissions reachable "near".toList,
    .stopSyncRemoteMissions reachable "near".toList]

def retriedOnce : List SyncEvent :=
  [.registerMissionListener reachable "near".toList 1,
    .startSyncRemoteMissions unreachable "near".toList,
    .runTask reachable 0]

theorem not_takesEffect_restarted :
    ¬ (EventRun.run SyncWatch.step {} restarted).2.TakesEffect ∧
      ¬ (EventRun.run SyncWatch.step {} retriedOnce).2.TakesEffect := by
  constructor
  · intro htakes
    have hsynced := htakes.started reachable "near".toList (by decide +kernel)
      (by decide +kernel)
    exact absurd hsynced (by decide +kernel)
  · intro htakes
    obtain ⟨retryTimes, hpending⟩ :=
      htakes.retried "near".toList (by decide +kernel)
    have hnone : (EventRun.run SyncWatch.step {} retriedOnce).2.sync.tasks =
        [] := by
      decide +kernel
    rw [hnone] at hpending
    exact absurd hpending List.not_mem_nil

end RemoteMissionSync

end Dmsfwk
