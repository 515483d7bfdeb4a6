import Dmsfwk.DMSContinueRecvMgr
import Dmsfwk.EventRun

/-!
# Received broadcasts in the order of their arrival

What is saved when all tasks have run is compared with dealing with the
broadcasts one after another.  The answers of the system to a broadcast stay the
same during the run; only whether its record has come to the store is decided
anew at every attempt.
-/

namespace Dmsfwk

namespace DMSContinueRecvMgr

abbrev RecvEnv := Text → Broadcast → RecvAnswers

def RecvEnv.answers (env : RecvEnv) (posted : PostedBroadcast) : RecvAnswers :=
  env posted.senderNetworkId posted.broadcast

def RecvEnv.attempt (env : RecvEnv) (posted : PostedBroadcast)
    (available : Bool) : RecvAnswers :=
  if available then env.answers posted
  else { env.answers posted with getDistributedBundleInfo := none }

structure Received where
  mgr : DMSContinueRecvMgr
  arrivals : List PostedBroadcast := []

inductive ReceivedEvent where
  | arrive (senderNetworkId : Text) (broadcast : Broadcast)
  | take
  | finish (available : Bool)

/-- `DealOnBroadcastBusiness` for every broadcast, one after another. -/
def inOrder (env : RecvEnv) (isScreenOn : Bool)
    (arrivals : List PostedBroadcast) : DMSContinueRecvMgr :=
  arrivals.foldl
    (fun mgr posted =>
      (dealOnBroadcastBusiness (env.answers posted) posted mgr).2)
    { isScreenOn := isScreenOn }

namespace Received

def step (env : RecvEnv) (received : Received) :
    ReceivedEvent → RecvOutcome × Received
  | .arrive senderNetworkId broadcast =>
      let next := broadcastStep received.mgr
        (.arrive senderNetworkId broadcast)
      let posted :=
        { senderNetworkId := senderNetworkId, broadcast := broadcast }
      (next.1, { mgr := next.2, arrivals := received.arrivals ++ [posted] })
  | .take =>
      let next := broadcastStep received.mgr .take
      (next.1, { received with mgr := next.2 })
  | .finish available =>
      match received.mgr.running with
      | none => ({}, received)
      | some posted =>
          let next := broadcastStep received.mgr
            (.finish (env.attempt posted available))
          (next.1, { received with mgr := next.2 })

def Idle (received : Received) : Prop :=
  received.mgr.pending = none ∧ received.mgr.running = none

/-- When all tasks have run the icon is that of the broadcasts dealt with in the
order of their arrival; and a disappearance of the icon's sender and bundle has
cleared it. -/
structure InOrder (env : RecvEnv) (isScreenOn : Bool) (received : Received) :
    Prop where
  icon : received.Idle → received.mgr.iconInfo =
    (inOrder env isScreenOn received.arrivals).iconInfo
  disappeared : received.Idle → ∀ before posted iconInfo,
    received.arrivals = before ++ [posted] →
    posted.broadcast.state = .inactive →
    checkBroadcast (env.answers posted) isScreenOn posted =
      .accepted iconInfo →
    (inOrder env isScreenOn before).iconInfo.senderNetworkId =
      iconInfo.senderNetworkId →
    (inOrder env isScreenOn before).iconInfo.bundleName =
      iconInfo.bundleName →
    received.mgr.iconInfo.isEmpty = true

def overwrites (env : RecvEnv) (isScreenOn : Bool)
    (posted : PostedBroadcast) : Bool :=
  posted.broadcast.state = .active &&
    match checkBroadcast (env.answers posted) isScreenOn posted with
    | .accepted _ => true
    | _ => false

/-- No pending broadcast is removed, except by one that replaces any icon; and a
record that is there at all is found at the last attempt. -/
def Unremoved (env : RecvEnv) (received : Received) : ReceivedEvent → Prop
  | .arrive senderNetworkId broadcast =>
      received.mgr.pending = none ∨
        overwrites env received.mgr.isScreenOn
          { senderNetworkId := senderNetworkId, broadcast := broadcast } = true
  | .take => True
  | .finish available =>
      ∀ posted ∈ received.mgr.running,
        (env.attempt posted available).getDistributedBundleInfo = none →
        if posted.retry = dbmsRetryMaxTime then
          (env.answers posted).getDistributedBundleInfo = none
        else received.mgr.pending = none

instance (env : RecvEnv) (received : Received) :
    DecidablePred (Unremoved env received) := by
  intro event
  unfold Unremoved
  split <;> infer_instance

end Received

/-! ## What a task does to the icon -/

section DealIcon

variable {env : RecvEnv} {isScreenOn : Bool}

def dealIcon (answers : RecvAnswers) (isScreenOn : Bool)
    (posted : PostedBroadcast) (iconInfo : CurrentIconInfo) :
    CurrentIconInfo :=
  match checkBroadcast answers isScreenOn posted with
  | .accepted received =>
      (verifyBroadcastSource received posted.broadcast.state iconInfo).getD
        iconInfo
  | _ => iconInfo

section Mgr

variable (answers : RecvAnswers) (posted : PostedBroadcast)
  (mgr : DMSContinueRecvMgr)

theorem deal_spec :
    (dealOnBroadcastBusiness answers posted mgr).2.iconInfo =
        dealIcon answers mgr.isScreenOn posted mgr.iconInfo ∧
      (dealOnBroadcastBusiness answers posted mgr).2.isScreenOn =
        mgr.isScreenOn := by
  unfold dealOnBroadcastBusiness dealIcon
  cases checkBroadcast answers mgr.isScreenOn posted with
  | noRecord =>
      unfold retryPostBroadcast
      dsimp only
      split_ifs <;> exact ⟨rfl, rfl⟩
  | refused error => exact ⟨rfl, rfl⟩
  | screenOff => exact ⟨rfl, rfl⟩
  | accepted received =>
      dsimp only
      cases verifyBroadcastSource received posted.broadcast.state
        mgr.iconInfo <;> exact ⟨rfl, rfl⟩

theorem iconInfo_deal :
    (dealOnBroadcastBusiness answers posted mgr).2.iconInfo =
      dealIcon answers mgr.isScreenOn posted mgr.iconInfo :=
  (deal_spec answers posted mgr).1

theorem isScreenOn_deal :
    (dealOnBroadcastBusiness answers posted mgr).2.isScreenOn =
      mgr.isScreenOn :=
  (deal_spec answers posted mgr).2

end Mgr

theorem isScreenOn_inOrder (env : RecvEnv) (isScreenOn : Bool)
    (arrivals : List PostedBroadcast) :
    (inOrder env isScreenOn arrivals).isScreenOn = isScreenOn := by
  induction arrivals using List.reverseRecOn with
  | nil => rfl
  | append_singleton before posted ih =>
      unfold inOrder at ih ⊢
      rw [List.foldl_append, List.foldl_cons, List.foldl_nil,
        isScreenOn_deal, ih]

theorem inOrder_append (env : RecvEnv) (isScreenOn : Bool)
    (before : List PostedBroadcast) (posted : PostedBroadcast) :
    (inOrder env isScreenOn (before ++ [posted])).iconInfo =
      dealIcon (env.answers posted) isScreenOn posted
        (inOrder env isScreenOn before).iconInfo := by
  have hscreen := isScreenOn_inOrder env isScreenOn before
  unfold inOrder at hscreen ⊢
  rw [List.foldl_append, List.foldl_cons, List.foldl_nil, iconInfo_deal,
    hscreen]

theorem dealIcon_of_overwrites {posted : PostedBroadcast}
    (hoverwrites : Received.overwrites env isScreenOn posted = true)
    (first second : CurrentIconInfo) :
    dealIcon (env.answers posted) isScreenOn posted first =
      dealIcon (env.answers posted) isScreenOn posted second := by
  obtain ⟨hactive, haccepted⟩ := Bool.and_eq_true_iff.mp hoverwrites
  have hstate : posted.broadcast.state = .active :=
    of_decide_eq_true hactive
  unfold dealIcon
  cases hcheck : checkBroadcast (env.answers posted) isScreenOn posted with
  | accepted received =>
      dsimp only
      rw [hstate]
      rfl
  | noRecord =>
      rw [hcheck] at haccepted
      exact absurd haccepted Bool.false_ne_true
  | refused error =>
      rw [hcheck] at haccepted
      exact absurd haccepted Bool.false_ne_true
  | screenOff =>
      rw [hcheck] at haccepted
      exact absurd haccepted Bool.false_ne_true

section NoRecord

variable {answers : RecvAnswers} (hnone : answers.getDistributedBundleInfo = none)
  (isScreenOn : Bool) (posted : PostedBroadcast)

include hnone

theorem checkBroadcast_noRecord :
    checkBroadcast answers isScreenOn posted = .noRecord := by
  unfold checkBroadcast
  rw [hnone]

theorem dealIcon_noRecord (iconInfo : CurrentIconInfo) :
    dealIcon answers isScreenOn posted iconInfo = iconInfo := by
  unfold dealIcon
  rw [checkBroadcast_noRecord hnone]

end NoRecord

theorem checkBroadcast_found {answers : RecvAnswers} {info : DmsBundleInfo}
    (hfound : answers.getDistributedBundleInfo = some info)
    (isScreenOn : Bool) (posted : PostedBroadcast) :
    checkBroadcast answers isScreenOn posted ≠ .noRecord := by
  unfold checkBroadcast
  rw [hfound]
  dsimp only
  cases getFinalBundleName answers info with
  | none => simp
  | some final =>
      dsimp only
      split_ifs <;> simp

theorem deal_found {answers : RecvAnswers} {info : DmsBundleInfo}
    (hfound : answers.getDistributedBundleInfo = some info)
    (posted : PostedBroadcast) (mgr : DMSContinueRecvMgr) :
    (dealOnBroadcastBusiness answers posted mgr).2 =
      { mgr with
          iconInfo := dealIcon answers mgr.isScreenOn posted mgr.iconInfo } := by
  unfold dealOnBroadcastBusiness dealIcon
  cases hcheck : checkBroadcast answers mgr.isScreenOn posted with
  | noRecord =>
      exact absurd hcheck (checkBroadcast_found hfound mgr.isScreenOn posted)
  | refused error => rfl
  | screenOff => rfl
  | accepted received =>
      dsimp only
      cases verifyBroadcastSource received posted.broadcast.state
        mgr.iconInfo <;> rfl

end DealIcon

/-! ## What an unremoved run keeps -/

def settled (env : RecvEnv) (mgr : DMSContinueRecvMgr) : CurrentIconInfo :=
  let deal (iconInfo : CurrentIconInfo) (task : Option PostedBroadcast) :=
    match task with
    | some posted =>
        dealIcon (env.answers posted) mgr.isScreenOn posted iconInfo
    | none => iconInfo
  deal (deal mgr.iconInfo mgr.running) mgr.pending

structure Ordered (env : RecvEnv) (isScreenOn : Bool) (received : Received) :
    Prop where
  screen : received.mgr.isScreenOn = isScreenOn
  icon : settled env received.mgr =
    (inOrder env isScreenOn received.arrivals).iconInfo

section Ordered

variable {env : RecvEnv} {isScreenOn : Bool} {received : Received}

theorem Ordered.arrive (hordered : Ordered env isScreenOn received)
    {senderNetworkId : Text} {broadcast : Broadcast}
    (hunremoved : received.Unremoved env
      (.arrive senderNetworkId broadcast)) :
    Ordered env isScreenOn
      (received.step env (.arrive senderNetworkId broadcast)).2 where
  screen := hordered.screen
  icon := by
    have hscreen := hordered.screen
    have hicon := hordered.icon
    unfold Received.step
    dsimp only
    rw [inOrder_append, ← hicon]
    unfold broadcastStep postOnBroadcastBusiness settled
    dsimp only
    rw [hscreen]
    rcases hunremoved with hnone | hoverwrites
    · rw [hnone]
    · rw [hscreen] at hoverwrites
      exact dealIcon_of_overwrites hoverwrites _ _

theorem Ordered.take (hordered : Ordered env isScreenOn received) :
    Ordered env isScreenOn (received.step env .take).2 := by
  obtain ⟨hscreen, hicon⟩ := hordered
  obtain ⟨⟨iconInfo, screen, pending, running, clearTasks⟩, arrivals⟩ :=
    received
  cases running with
  | some posted => exact ⟨hscreen, hicon⟩
  | none =>
      cases pending with
      | none => exact ⟨hscreen, hicon⟩
      | some posted => exact ⟨hscreen, hicon⟩

theorem Ordered.finish (hordered : Ordered env isScreenOn received)
    {available : Bool}
    (hunremoved : received.Unremoved env (.finish available)) :
    Ordered env isScreenOn (received.step env (.finish available)).2 := by
  obtain ⟨⟨iconInfo, screen, pending, running, clearTasks⟩, arrivals⟩ :=
    received
  obtain ⟨hscreen, hicon⟩ := hordered
  cases running with
  | none => exact ⟨hscreen, hicon⟩
  | some posted =>
      have hretry := hunremoved posted rfl
      unfold Received.step broadcastStep
      dsimp only at hretry ⊢
      cases hrecord : (env.attempt posted available).getDistributedBundleInfo
        with
      | some info =>
          have hattempt : env.attempt posted available =
              env.answers posted := by
            cases available with
            | true => rfl
            | false => exact absurd hrecord (Option.some_ne_none _).symm
          rw [deal_found hrecord, hattempt]
          exact ⟨hscreen, hicon⟩
      | none =>
          have hretry := hretry hrecord
          unfold dealOnBroadcastBusiness
          rw [checkBroadcast_noRecord hrecord]
          unfold retryPostBroadcast
          dsimp only
          split_ifs at hretry ⊢ with hlast
          · refine ⟨hscreen, ?_⟩
            rw [← hicon]
            unfold settled
            dsimp only
            rw [dealIcon_noRecord hretry]
          · subst hretry
            exact ⟨hscreen, hicon⟩

theorem Ordered.step (hordered : Ordered env isScreenOn received)
    {event : ReceivedEvent} (hunremoved : received.Unremoved env event) :
    Ordered env isScreenOn (received.step env event).2 := by
  cases event with
  | arrive senderNetworkId broadcast => exact hordered.arrive hunremoved
  | take => exact hordered.take
  | finish available => exact hordered.finish hunremoved

theorem Ordered.inOrder (hordered : Ordered env isScreenOn received) :
    received.InOrder env isScreenOn := by
  have hicon : received.Idle → received.mgr.iconInfo =
      (DMSContinueRecvMgr.inOrder env isScreenOn
        received.arrivals).iconInfo := by
    rintro ⟨hpending, hrunning⟩
    rw [← hordered.icon]
    unfold settled
    rw [hpending, hrunning]
  constructor
  · exact hicon
  · intro hidle before posted iconInfo harrivals hinactive haccepted hsender
      hbundle
    rw [hicon hidle, harrivals, inOrder_append]
    unfold dealIcon verifyBroadcastSource
    rw [haccepted, hinactive]
    dsimp only
    rw [if_neg (not_not.mpr hsender.symm), if_neg (not_not.mpr hbundle.symm)]
    rfl

end Ordered

theorem ordered_initial (env : RecvEnv) (isScreenOn : Bool) :
    Ordered env isScreenOn { mgr := { isScreenOn := isScreenOn } } where
  screen := rfl
  icon := rfl

/-- In every run in which no pending broadcast is removed the received
broadcasts take effect in the order of their arrival. -/
theorem broadcastsInOrder_run (env : RecvEnv) (isScreenOn : Bool)
    (events : List ReceivedEvent)
    (hunremoved : EventRun.Meets (Received.step env) (Received.Unremoved env)
      { mgr := { isScreenOn := isScreenOn } } events) :
    (EventRun.run (Received.step env) { mgr := { isScreenOn := isScreenOn } }
      events).2.InOrder env isScreenOn := by
  have hordered : Ordered env isScreenOn (EventRun.run (Received.step env)
      { mgr := { isScreenOn := isScreenOn } } events).2 :=
    hunremoved.invariant (fun _ _ hordered hstep => hordered.step hstep)
      (ordered_initial env isScreenOn)
  exact hordered.inOrder

def sampleEnv : RecvEnv := fun _ broadcast =>
  { getDistributedBundleInfo := some {
      bundleName := "mail".toList
      dmsAbilityInfos := [{
        abilityName := "Main".toList
        continueType := ["Main".toList] }] }
    getLocalBundleInfo := fun _ =>
      if broadcast.bundleNameId = 9 then none
      else some { abilityInfos := [{
        name := "Main".toList
        continueType := ["Main".toList] }] } }

def appears : Broadcast where
  bundleNameId := 1
  continueTypeId := 0
  state := .active

def disappears : Broadcast := { appears with state := .inactive }

/-- A broadcast is retried, replaced while it waits by one of another sender, and
the second sender's icon disappears again. -/
def sampleEvents : List ReceivedEvent :=
  [.arrive "near".toList appears, .take, .finish false,
    .arrive "far".toList appears, .take, .finish true,
    .arrive "far".toList disappears, .take, .finish true]

theorem broadcastsInOrder_sampleEvents :
    (EventRun.run (Received.step sampleEnv) { mgr := { isScreenOn := true } }
      sampleEvents).2.InOrder sampleEnv true :=
  broadcastsInOrder_run sampleEnv true sampleEvents (by decide +kernel)

/-- The disappearance of the icon that is shown is pending when a broadcast of
another sender arrives, of a bundle that is not installed. -/
def removedDisappearance : List ReceivedEvent :=
  [.arrive "near".toList appears, .take, .finish true,
    .arrive "near".toList disappears,
    .arrive "far".toList { appears with bundleNameId := 9 },
    .take, .finish true]

theorem not_broadcastsInOrder_removedDisappearance :
    ¬ (EventRun.run (Received.step sampleEnv)
      { mgr := { isScreenOn := true } }
      removedDisappearance).2.InOrder sampleEnv true := by
  intro hinOrder
  have hicon := hinOrder.icon ⟨by decide +kernel, by decide +kernel⟩
  exact absurd hicon (by decide +kernel)

end DMSContinueRecvMgr

end Dmsfwk
