import Dmsfwk.DMSContinueRecvMgr
import Dmsfwk.EventRun

/-!
# The dock shows the saved icon

The dock knows what it was told last.  It shows the saved icon as long as every
operation that tells it something also changes what is saved, and the other way
round.
-/

namespace Dmsfwk

structure IconKey where
  networkId : Text
  sinkBundleName : Text
  continueType : Text
  deriving DecidableEq, Repr

namespace CurrentIconInfo

def key (iconInfo : CurrentIconInfo) : IconKey where
  networkId := iconInfo.senderNetworkId
  sinkBundleName := iconInfo.bundleName
  continueType := iconInfo.continueType

def display (iconInfo : CurrentIconInfo) : Option IconKey :=
  if iconInfo.isEmpty then none else some iconInfo.key

end CurrentIconInfo

namespace DMSContinueRecvMgr

structure Dock where
  mgr : DMSContinueRecvMgr := {}
  shown : Option IconKey := none

def told (_shown : Option IconKey) (notification : RecvNotification) :
    Option IconKey :=
  match notification.state with
  | .active => some notification.iconInfo.key
  | .inactive => none

namespace Dock

def step (dock : Dock) (event : RecvEvent) : RecvOutcome × Dock :=
  let next := dock.mgr.step event
  (next.1, {
    mgr := next.2
    shown := next.1.notifications.foldl told dock.shown })

def ShowsSaved (dock : Dock) : Prop :=
  dock.shown = dock.mgr.iconInfo.display

/-- The operation sends at most one notification, and one that takes an icon away
names the one that was shown. -/
def NamesShown (dock : Dock) (event : RecvEvent) : Prop :=
  (dock.step event).1.notifications.length ≤ 1 ∧
    ∀ notification ∈ (dock.step event).1.notifications,
      notification.state = .inactive →
      dock.shown = some notification.iconInfo.key

/-- How a task that deals with a broadcast leaves dock and icon together: it does
not refuse an appearance of the sender whose icon is saved, an icon that it saves
is not empty, and one that it clears is there with the same continue type. -/
def TogetherDeal (mgr : DMSContinueRecvMgr) (answers : RecvAnswers)
    (posted : PostedBroadcast) : Prop :=
  match checkBroadcast answers mgr.isScreenOn posted with
  | .refused _ => posted.broadcast.state = .active →
      posted.senderNetworkId ≠ mgr.iconInfo.senderNetworkId
  | .accepted received =>
      match posted.broadcast.state with
      | .active => received.isEmpty = false
      | .inactive =>
          received.senderNetworkId = mgr.iconInfo.senderNetworkId →
          received.bundleName = mgr.iconInfo.bundleName →
          mgr.iconInfo.isEmpty = false ∧
            received.continueType = mgr.iconInfo.continueType
  | .noRecord | .screenOff => True

/-- The device itself goes offline only while an icon is saved. -/
def Together (dock : Dock) : RecvEvent → Prop
  | .broadcast (.finish answers) =>
      ∀ posted ∈ dock.mgr.running, TogetherDeal dock.mgr answers posted
  | .deviceOffline networkId localNetworkId =>
      networkId ≠ [] → localNetworkId = some networkId →
        dock.mgr.iconInfo.isEmpty = false
  | _ => True

instance (mgr : DMSContinueRecvMgr) (answers : RecvAnswers)
    (posted : PostedBroadcast) : Decidable (TogetherDeal mgr answers posted) := by
  unfold TogetherDeal
  split
  · infer_instance
  · split <;> infer_instance
  · infer_instance
  · infer_instance

instance (dock : Dock) : DecidablePred dock.Together := by
  intro event
  unfold Together
  split <;> infer_instance

end Dock

/-! ## Single operations -/

/-- An operation on a dock that shows the saved icon ends with the saved icon
shown, and names the shown one when it takes it away. -/
structure Coherent (mgr : DMSContinueRecvMgr)
    (next : RecvOutcome × DMSContinueRecvMgr) : Prop where
  shows : next.1.notifications.foldl told mgr.iconInfo.display =
    next.2.iconInfo.display
  single : next.1.notifications.length ≤ 1
  names : ∀ notification ∈ next.1.notifications,
    notification.state = .inactive →
    mgr.iconInfo.display = some notification.iconInfo.key

theorem coherent_silent {mgr next : DMSContinueRecvMgr}
    (hicon : next.iconInfo = mgr.iconInfo) (result : Except RecvErr Unit) :
    Coherent mgr ({ result := result }, next) where
  shows := by
    rw [hicon]
    rfl
  single := Nat.zero_le 1
  names := by simp

theorem display_of_not_isEmpty {iconInfo : CurrentIconInfo}
    (hsaved : iconInfo.isEmpty = false) :
    iconInfo.display = some iconInfo.key := by
  unfold CurrentIconInfo.display
  rw [if_neg (Bool.eq_false_iff.mp hsaved)]

theorem coherent_clearIcon {mgr : DMSContinueRecvMgr}
    (hsaved : mgr.iconInfo.isEmpty = false) : Coherent mgr (clearIcon mgr) where
  shows := rfl
  single := le_rfl
  names := by
    intro notification hmem _
    rw [List.mem_singleton.mp hmem]
    exact display_of_not_isEmpty hsaved

theorem coherent_clearSavedIcon (mgr : DMSContinueRecvMgr) :
    Coherent mgr (clearSavedIcon mgr) := by
  unfold clearSavedIcon
  cases hempty : mgr.iconInfo.isEmpty with
  | true => exact coherent_silent (by rfl) _
  | false => exact coherent_clearIcon hempty

theorem coherent_notifyPackageRemoved (sinkBundleName : Text)
    (mgr : DMSContinueRecvMgr) :
    Coherent mgr (notifyPackageRemoved sinkBundleName mgr) := by
  unfold notifyPackageRemoved
  split_ifs with hname hother
  · exact coherent_silent (by rfl) _
  · exact coherent_silent (by rfl) _
  · apply coherent_clearIcon
    have hbundle := not_not.mp hother
    unfold CurrentIconInfo.isEmpty
    rw [hbundle, decide_eq_false hname, Bool.and_false, Bool.false_and]

theorem coherent_notifyDeviceOffline {networkId : Text}
    {localNetworkId : Option Text} {mgr : DMSContinueRecvMgr}
    (hlocal : networkId ≠ [] → localNetworkId = some networkId →
      mgr.iconInfo.isEmpty = false) :
    Coherent mgr (notifyDeviceOffline networkId localNetworkId mgr) := by
  unfold notifyDeviceOffline
  by_cases hname : networkId = []
  · rw [if_pos hname]
    exact coherent_silent (by rfl) _
  rw [if_neg hname]
  cases localNetworkId with
  | none => exact coherent_silent (by rfl) _
  | some localId =>
      dsimp only
      split_ifs with hother
      · exact coherent_silent (by rfl) _
      · apply coherent_clearIcon
        rcases not_and_or.mp hother with hsender | hself
        · unfold CurrentIconInfo.isEmpty
          rw [← not_not.mp hsender, decide_eq_false hname, Bool.false_and,
            Bool.false_and]
        · exact hlocal hname (congrArg some (not_not.mp hself).symm)

theorem coherent_deal {mgr : DMSContinueRecvMgr} {answers : RecvAnswers}
    {posted : PostedBroadcast}
    (htogether : Dock.TogetherDeal mgr answers posted) :
    Coherent mgr (dealOnBroadcastBusiness answers posted mgr) := by
  unfold Dock.TogetherDeal at htogether
  unfold dealOnBroadcastBusiness
  cases hcheck : checkBroadcast answers mgr.isScreenOn posted with
  | noRecord =>
      unfold retryPostBroadcast
      dsimp only
      split_ifs <;> exact coherent_silent (by rfl) _
  | refused error =>
      rw [hcheck] at htogether
      have hnone : notifyIconDisappear posted mgr = [] := by
        unfold notifyIconDisappear
        rw [if_neg]
        rintro ⟨hactive, hsender⟩
        exact htogether hactive hsender
      dsimp only
      rw [hnone]
      exact coherent_silent (by rfl) _
  | screenOff => exact coherent_silent (by rfl) _
  | accepted received =>
      rw [hcheck] at htogether
      dsimp only at htogether ⊢
      cases hstate : posted.broadcast.state with
      | active =>
          rw [hstate] at htogether
          constructor
          · exact (display_of_not_isEmpty htogether).symm
          · exact le_rfl
          · intro notification hmem hinactive
            rw [List.mem_singleton.mp hmem] at hinactive
            exact absurd hinactive (by simp)
      | inactive =>
          rw [hstate] at htogether
          unfold verifyBroadcastSource
          dsimp only at htogether ⊢
          split_ifs with hsender hbundle
          · exact coherent_silent (by rfl) _
          · exact coherent_silent (by rfl) _
          · have hsender := not_not.mp hsender
            have hbundle := not_not.mp hbundle
            obtain ⟨hsaved, htype⟩ := htogether hsender hbundle
            constructor
            · rfl
            · exact le_rfl
            · intro notification hmem _
              rw [List.mem_singleton.mp hmem, display_of_not_isEmpty hsaved]
              unfold CurrentIconInfo.key
              rw [hsender, hbundle, htype]

/-! ## Runs -/

theorem coherent_step {dock : Dock} {event : RecvEvent}
    (htogether : dock.Together event) :
    Coherent dock.mgr (dock.mgr.step event) := by
  cases event with
  | broadcast event =>
      cases event with
      | arrive senderNetworkId broadcast => exact coherent_silent (by rfl) _
      | take =>
          unfold DMSContinueRecvMgr.step broadcastStep
          dsimp only
          split <;> exact coherent_silent (by rfl) _
      | finish answers =>
          unfold DMSContinueRecvMgr.step broadcastStep
          dsimp only
          cases hrunning : dock.mgr.running with
          | none => exact coherent_silent (by rfl) _
          | some posted =>
              have hdeal := htogether posted hrunning
              have hcoherent := @coherent_deal
                { dock.mgr with running := none } answers posted hdeal
              exact ⟨hcoherent.shows, hcoherent.single, hcoherent.names⟩
  | deviceScreenOff => exact coherent_silent (by rfl) _
  | deviceScreenOn => exact coherent_silent (by rfl) _
  | continueSwitchOff => exact coherent_silent (by rfl) _
  | runClearTask =>
      unfold DMSContinueRecvMgr.step
      dsimp only
      split_ifs
      · exact coherent_silent (by rfl) _
      · have hcoherent := coherent_clearSavedIcon
          { dock.mgr with clearTasks := dock.mgr.clearTasks - 1 }
        exact ⟨hcoherent.shows, hcoherent.single, hcoherent.names⟩
  | userSwitch => exact coherent_clearSavedIcon dock.mgr
  | deviceOffline networkId localNetworkId =>
      exact coherent_notifyDeviceOffline htogether
  | packageRemoved sinkBundleName =>
      exact coherent_notifyPackageRemoved sinkBundleName dock.mgr

theorem Dock.ShowsSaved.step {dock : Dock} (hshows : dock.ShowsSaved)
    {event : RecvEvent} (htogether : dock.Together event) :
    (dock.step event).2.ShowsSaved ∧ dock.NamesShown event := by
  have hcoherent := coherent_step htogether
  unfold Dock.ShowsSaved at hshows
  constructor
  · unfold Dock.ShowsSaved Dock.step
    dsimp only
    rw [hshows]
    exact hcoherent.shows
  · refine ⟨hcoherent.single, ?_⟩
    rw [hshows]
    exact hcoherent.names

/-- In every run whose operations leave dock and icon together, the dock shows the
saved icon between operations and every notification that takes an icon away names
the shown one. -/
theorem dockShowsSaved_run (events : List RecvEvent)
    (htogether : EventRun.Meets Dock.step Dock.Together {} events) :
    (EventRun.run Dock.step {} events).2.ShowsSaved ∧
      EventRun.Meets Dock.step Dock.NamesShown {} events := by
  have hinitial : Dock.ShowsSaved {} := rfl
  constructor
  · exact htogether.invariant
      (fun _ _ hshows hstep => (hshows.step hstep).1) hinitial
  · exact htogether.guarantee (fun _ _ hshows hstep => (hshows.step hstep).2)
      (fun _ _ hshows hstep => (hshows.step hstep).1) hinitial

def answersFor (installed : Bool) : RecvAnswers where
  getDistributedBundleInfo := some {
    bundleName := "mail".toList
    dmsAbilityInfos := [{
      abilityName := "Main".toList
      continueType := ["Main".toList, "Draft".toList] }] }
  getLocalBundleInfo := fun _ =>
    if installed then
      some { abilityInfos := [{
        name := "Main".toList
        continueType := ["Main".toList, "Draft".toList] }] }
    else none

def receive (installed : Bool) (state : ContinueState)
    (continueTypeId : UInt8) : List RecvEvent :=
  [.broadcast (.arrive "near".toList {
      bundleNameId := 1, continueTypeId := continueTypeId, state := state }),
    .broadcast .take, .broadcast (.finish (answersFor installed))]

def sampleDisplay : List RecvEvent :=
  receive true .active 0 ++ receive true .inactive 0 ++
    receive true .active 1 ++
    [.deviceOffline "near".toList (some "self".toList)] ++
    receive true .active 0 ++ [.deviceScreenOff, .runClearTask] ++
    receive true .active 0 ++ [.deviceScreenOn] ++ receive true .active 0 ++
    [.packageRemoved "mail".toList, .userSwitch]

theorem dockShowsSaved_sampleDisplay :
    (EventRun.run Dock.step {} sampleDisplay).2.ShowsSaved ∧
      EventRun.Meets Dock.step Dock.NamesShown {} sampleDisplay :=
  dockShowsSaved_run sampleDisplay (by decide +kernel)

def refusedAppearance : List RecvEvent :=
  receive true .active 0 ++ receive false .active 0

def otherType : List RecvEvent :=
  receive true .active 0 ++ receive true .inactive 1

theorem not_dockShowsSaved_refusedAppearance :
    ¬ (EventRun.run Dock.step {} refusedAppearance).2.ShowsSaved ∧
      ¬ EventRun.Meets Dock.step Dock.NamesShown {} otherType := by
  constructor
  · intro hshows
    unfold Dock.ShowsSaved at hshows
    exact absurd hshows (by decide +kernel)
  · rintro ⟨_, _, _, _, _, ⟨_, hnames⟩, _⟩
    have hshown := hnames _ (List.mem_singleton.mpr rfl) rfl
    exact absurd hshown (by decide +kernel)

end DMSContinueRecvMgr

end Dmsfwk
