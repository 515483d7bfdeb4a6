import Dmsfwk.FocusBookKeeping

/-!
# The mission of a pulled continuation

Another device pulls a bundle, and the condition manager picks the mission: the
focused one if it belongs to the bundle, and otherwise the one of the account
that lost the focus last.  The fallback is a copy that no later event touches,
and without a focused mission the id of the caller is looked up first, so the
pick is right when the copy is current and the caller's id was the last to lose
the focus.
-/

namespace Dmsfwk

namespace ContinueConditionMgr

/-! ## Which missions lost the focus -/

def recordOf (mgr : ContinueConditionMgr) (accountId missionId : Int32) :
    Option MissionRecord :=
  (mgr.missionsOf accountId)[missionId]?

/-- The missions that a step takes the focus from, in the order of their
records. -/
def losesFocus (before after : ContinueConditionMgr) : List (Int32 × Int32) :=
  before.missionMap.toList.flatMap fun account =>
    (account.2.toList.filter fun mission =>
        mission.2.isFocused && (after.recordOf account.1 mission.1).any fun status =>
          !status.isFocused).map
      fun mission => (account.1, mission.1)

def lostAfter (before after : ContinueConditionMgr)
    (lost : List (Int32 × Int32)) : List (Int32 × Int32) :=
  ((losesFocus before after).reverse ++ lost).filter fun mission =>
    (after.recordOf mission.1 mission.2).isSome

def lastLost (lost : List (Int32 × Int32)) (accountId : Int32) : Option Int32 :=
  (lost.find? fun mission => mission.1 = accountId).map (·.2)

def lossStep (zero : ContinueState)
    (tracked : ContinueConditionMgr × List (Int32 × Int32))
    (event : ConditionEvent) :
    ConditionAnswer × ContinueConditionMgr × List (Int32 × Int32) :=
  let stepped := tracked.1.step zero event
  (stepped.1, stepped.2, lostAfter tracked.1 stepped.2 tracked.2)

/-! ## What a query should answer -/

/-- The focused mission if it belongs to the bundle, otherwise the mission of
the account that lost the focus last. -/
def missionToPull (mgr : ContinueConditionMgr) (lost : List (Int32 × Int32))
    (accountId : Int32) (bundleName : Text) : Option Int32 :=
  match focusedMission (mgr.missionsOf accountId) with
  | none => lastLost lost accountId
  | some focused =>
      if (mgr.recordOf accountId focused).any fun status =>
          status.bundleName = bundleName then
        some focused
      else lastLost lost accountId

/-- The mission is recorded, belongs to the bundle, can be continued, and is the
one to pull. -/
def IsLivePick (mgr : ContinueConditionMgr) (lost : List (Int32 × Int32))
    (accountId : Int32) (bundleName : Text) (missionId : Int32) : Prop :=
  (∃ status, mgr.recordOf accountId missionId = some status ∧
    isContinuableOf status bundleName = true) ∧
  mgr.missionToPull lost accountId bundleName = some missionId

structure PicksLiveMission (zero : ContinueState) (mgr : ContinueConditionMgr)
    (lost : List (Int32 × Int32)) (accountId : Int32) (bundleName : Text)
    (missionId : Int32) : Prop where
  live :
    (mgr.getMissionIdByBundleName zero accountId bundleName missionId).1.1 =
        errOk →
      mgr.IsLivePick lost accountId bundleName
        (mgr.getMissionIdByBundleName zero accountId bundleName missionId).1.2
  focused : ∀ focused status,
    focusedMission (mgr.missionsOf accountId) = some focused →
    mgr.recordOf accountId focused = some status →
    isContinuableOf status bundleName = true →
    (mgr.getMissionIdByBundleName zero accountId bundleName missionId).1.1 =
      errOk

def PicksLive (zero : ContinueState)
    (tracked : ContinueConditionMgr × List (Int32 × Int32)) :
    ConditionEvent → Prop
  | .getMissionIdByBundleName accountId bundleName missionId =>
      PicksLiveMission zero tracked.1 tracked.2 accountId bundleName missionId
  | _ => True

/-! ## The condition -/

/-- The copy of the mission reported unfocused last, if it is of the bundle,
names a mission of the account whose record is of the bundle too, and which lost
the focus last. -/
def CopyIsCurrent (mgr : ContinueConditionMgr) (lost : List (Int32 × Int32))
    (accountId : Int32) (bundleName : Text) : Prop :=
  isContinuableOf mgr.lastFocusMission.2 bundleName = true →
    (∃ status,
      mgr.recordOf accountId mgr.lastFocusMission.2.missionId = some status ∧
      isContinuableOf status bundleName = true) ∧
    lastLost lost accountId = some mgr.lastFocusMission.2.missionId

/-- The query finds the focused mission to be of the bundle, or else what it
falls back on is the mission that lost the focus last. -/
def PickSound (mgr : ContinueConditionMgr) (lost : List (Int32 × Int32))
    (accountId : Int32) (bundleName : Text) (missionId : Int32)
    (missions : MissionList) : Prop :=
  match focusedMission missions with
  | some focused =>
      ∀ status : MissionRecord, missions[focused]? = some status →
        isContinuableOf status bundleName = false →
        if status.bundleName = bundleName then
          isContinuableOf mgr.lastFocusMission.2 bundleName = false
        else CopyIsCurrent mgr lost accountId bundleName
  | none =>
      if missions[missionId]?.any (isContinuableOf · bundleName) then
        lastLost lost accountId = some missionId
      else CopyIsCurrent mgr lost accountId bundleName

def QuerySound (mgr : ContinueConditionMgr) (lost : List (Int32 × Int32))
    (accountId : Int32) (bundleName : Text) (missionId : Int32) : Prop :=
  ∀ missions : MissionList, mgr.missionMap[accountId]? = some missions →
    PickSound mgr lost accountId bundleName missionId missions

def QueriesSound (tracked : ContinueConditionMgr × List (Int32 × Int32)) :
    ConditionEvent → Prop
  | .getMissionIdByBundleName accountId bundleName missionId =>
      QuerySound tracked.1 tracked.2 accountId bundleName missionId
  | _ => True

/-! ## One query -/

section Query

variable {mgr : ContinueConditionMgr} {accountId : Int32} {bundleName : Text}
  {lost : List (Int32 × Int32)} {missions : MissionList}

theorem recordOf_eq (hmissions : mgr.missionMap[accountId]? = some missions)
    (missionId : Int32) :
    mgr.recordOf accountId missionId = missions[missionId]? := by
  rw [recordOf, missionsOf_eq hmissions]

theorem isContinuableOf_readMission (zero : ContinueState)
    (mgr : ContinueConditionMgr) (accountId : Int32) (missions : MissionList)
    (missionId : Int32) (bundleName : Text) :
    isContinuableOf (mgr.readMission zero accountId missions missionId).1
        bundleName =
      missions[missionId]?.any (isContinuableOf · bundleName) := by
  unfold readMission
  cases missions[missionId]? with
  | none => simp [isContinuableOf, MissionRecord.valueInitialized]
  | some status => rfl

theorem getMissionIdByBundleName_fst (zero : ContinueState)
    (hmissions : mgr.missionMap[accountId]? = some missions)
    (bundleName : Text) (missionId : Int32) :
    (mgr.getMissionIdByBundleName zero accountId bundleName missionId).1 =
      if missions[(focusedMission missions).getD missionId]?.any
          (isContinuableOf · bundleName) then
        (errOk, (focusedMission missions).getD missionId)
      else if isContinuableOf mgr.lastFocusMission.2 bundleName then
        (errOk, mgr.lastFocusMission.2.missionId)
      else (missionNotFocused, (focusedMission missions).getD missionId) := by
  rw [getMissionIdByBundleName, hmissions,
    ← isContinuableOf_readMission zero mgr accountId]
  simp only
  split_ifs <;> rfl

theorem picksLiveMission_of_none (zero : ContinueState)
    (hmissions : mgr.missionMap[accountId]? = none) (missionId : Int32) :
    PicksLiveMission zero mgr lost accountId bundleName missionId := by
  have hempty : mgr.missionsOf accountId = ∅ := by
    rw [missionsOf, Std.TreeMap.getD_eq_getD_getElem?, hmissions]
    rfl
  constructor
  case live =>
    intro hok
    rw [getMissionIdByBundleName, hmissions] at hok
    cases hok
  case focused =>
    intro focused status hfocused
    rw [hempty] at hfocused
    cases hfocused

theorem picksLiveMission_of_copy (zero : ContinueState)
    {missionId other : Int32}
    (hfound : (mgr.getMissionIdByBundleName zero accountId bundleName
      missionId).1 =
      if isContinuableOf mgr.lastFocusMission.2 bundleName then
        (errOk, mgr.lastFocusMission.2.missionId)
      else (missionNotFocused, other))
    (hfocused : ∀ focused status,
      focusedMission (mgr.missionsOf accountId) = some focused →
      mgr.recordOf accountId focused = some status →
      isContinuableOf status bundleName = false) :
    PicksLiveMission zero mgr lost accountId bundleName missionId ↔
      (isContinuableOf mgr.lastFocusMission.2 bundleName = true →
        mgr.IsLivePick lost accountId bundleName
          mgr.lastFocusMission.2.missionId) := by
  have hnever : ∀ focused status,
      focusedMission (mgr.missionsOf accountId) = some focused →
      mgr.recordOf accountId focused = some status →
      isContinuableOf status bundleName = true →
      (mgr.getMissionIdByBundleName zero accountId bundleName missionId).1.1 =
        errOk := by
    intro focused status hfirst hrecord hcontinuable
    rw [hfocused focused status hfirst hrecord] at hcontinuable
    cases hcontinuable
  constructor
  · intro hpicks hcopy
    have hlive := hpicks.live
    rw [hfound, if_pos hcopy] at hlive
    exact hlive rfl
  · intro hlive
    refine ⟨?_, hnever⟩
    rw [hfound]
    split_ifs with hcopy
    · exact fun _ => hlive hcopy
    · intro hok
      cases hok

theorem missionToPull_of_focused
    (hmissions : mgr.missionMap[accountId]? = some missions) {focused : Int32}
    {status : MissionRecord} (hfocused : focusedMission missions = some focused)
    (hstatus : missions[focused]? = some status) :
    mgr.missionToPull lost accountId bundleName =
      if status.bundleName = bundleName then some focused
      else lastLost lost accountId := by
  rw [missionToPull, missionsOf_eq hmissions, hfocused]
  simp [recordOf_eq hmissions, hstatus]

theorem missionToPull_of_unfocused
    (hmissions : mgr.missionMap[accountId]? = some missions)
    (hfocused : focusedMission missions = none) :
    mgr.missionToPull lost accountId bundleName = lastLost lost accountId := by
  rw [missionToPull, missionsOf_eq hmissions, hfocused]

theorem picksLiveMission_focused_iff (zero : ContinueState)
    (hmissions : mgr.missionMap[accountId]? = some missions) {focused : Int32}
    (hfocused : focusedMission missions = some focused) (missionId : Int32) :
    PicksLiveMission zero mgr lost accountId bundleName missionId ↔
      PickSound mgr lost accountId bundleName missionId missions := by
  obtain ⟨status, hstatus, -⟩ := focusedMission_spec hfocused
  have hpull : mgr.missionToPull lost accountId bundleName = _ :=
    missionToPull_of_focused hmissions hfocused hstatus
  have hfst := getMissionIdByBundleName_fst zero hmissions bundleName missionId
  rw [hfocused, Option.getD_some, hstatus, Option.any_some] at hfst
  rw [PickSound, hfocused]
  simp only [hstatus, Option.some.injEq, forall_eq']
  cases hcontinuable : isContinuableOf status bundleName with
  | true =>
      rw [hcontinuable, if_pos rfl] at hfst
      refine iff_of_true ⟨fun _ => ?_, fun _ _ _ _ _ => by rw [hfst]⟩
        (fun hnot => by cases hnot)
      rw [hfst, IsLivePick, recordOf_eq hmissions, hpull]
      have hbundle : status.bundleName = bundleName := by
        simp [isContinuableOf] at hcontinuable
        exact hcontinuable.1
      exact ⟨⟨status, hstatus, hcontinuable⟩, if_pos hbundle⟩
  | false =>
      rw [hcontinuable, if_neg (by decide)] at hfst
      rw [picksLiveMission_of_copy zero hfst ?_]
      · rw [IsLivePick, hpull]
        by_cases hbundle : status.bundleName = bundleName
        · rw [if_pos hbundle, if_pos hbundle]
          constructor
          · intro hlive _
            cases hcopy : isContinuableOf mgr.lastFocusMission.2 bundleName with
            | false => rfl
            | true =>
                obtain ⟨⟨found, hfound, hyes⟩, hsame⟩ := hlive hcopy
                rw [← Option.some.inj hsame, recordOf_eq hmissions, hstatus]
                  at hfound
                rw [← Option.some.inj hfound, hcontinuable] at hyes
                cases hyes
          · intro hno hcopy
            rw [hno rfl] at hcopy
            cases hcopy
        · rw [if_neg hbundle, if_neg hbundle]
          exact ⟨fun hlive _ => hlive, fun hlive => hlive rfl⟩
      · intro first found hfirst hfound
        rw [missionsOf_eq hmissions, hfocused] at hfirst
        cases hfirst
        rw [recordOf_eq hmissions, hstatus] at hfound
        cases hfound
        exact hcontinuable

theorem picksLiveMission_unfocused_iff (zero : ContinueState)
    (hmissions : mgr.missionMap[accountId]? = some missions)
    (hfocused : focusedMission missions = none) (missionId : Int32) :
    PicksLiveMission zero mgr lost accountId bundleName missionId ↔
      PickSound mgr lost accountId bundleName missionId missions := by
  have hpull : mgr.missionToPull lost accountId bundleName = _ :=
    missionToPull_of_unfocused hmissions hfocused
  have hnone : ∀ focused status,
      focusedMission (mgr.missionsOf accountId) = some focused →
      mgr.recordOf accountId focused = some status →
      isContinuableOf status bundleName = false := by
    intro focused status hfirst
    rw [missionsOf_eq hmissions, hfocused] at hfirst
    cases hfirst
  have hfst := getMissionIdByBundleName_fst zero hmissions bundleName missionId
  rw [hfocused, Option.getD_none] at hfst
  rw [PickSound, hfocused]
  simp only
  cases hrecord : missions[missionId]?.any (isContinuableOf · bundleName) with
  | true =>
      rw [hrecord, if_pos rfl] at hfst
      rw [if_pos rfl, ← hpull]
      obtain ⟨status, hstatus, hcontinuable⟩ :=
        (Option.any_eq_true _ _).mp hrecord
      constructor
      · intro hpicks
        have hlive := hpicks.live
        rw [hfst] at hlive
        exact (hlive rfl).2
      · intro hlast
        refine ⟨fun _ => ?_, fun _ _ _ _ _ => by rw [hfst]⟩
        rw [hfst, IsLivePick, recordOf_eq hmissions]
        exact ⟨⟨status, hstatus, hcontinuable⟩, hlast⟩
  | false =>
      rw [hrecord, if_neg (by decide)] at hfst
      rw [picksLiveMission_of_copy zero hfst hnone, if_neg (by decide),
        CopyIsCurrent, IsLivePick, hpull]

/-- A query picks a live mission exactly when it finds the focused mission to be
of the bundle or falls back on the mission that lost the focus last. -/
theorem picksLiveMission_iff (zero : ContinueState) (missionId : Int32) :
    PicksLiveMission zero mgr lost accountId bundleName missionId ↔
      QuerySound mgr lost accountId bundleName missionId := by
  cases hmissions : mgr.missionMap[accountId]? with
  | none =>
      refine iff_of_true (picksLiveMission_of_none zero hmissions missionId) ?_
      intro missions hfound
      rw [hmissions] at hfound
      cases hfound
  | some missions =>
      simp only [QuerySound, hmissions, Option.some.injEq, forall_eq']
      cases hfocused : focusedMission missions with
      | some focused =>
          exact picksLiveMission_focused_iff zero hmissions hfocused missionId
      | none =>
          exact picksLiveMission_unfocused_iff zero hmissions hfocused missionId

end Query

/-! ## Runs -/

/-- In a run, every query picks a live mission exactly when every query is
sound in the state it is made in. -/
theorem meets_picksLive_iff (zero : ContinueState)
    (events : List ConditionEvent) :
    EventRun.Meets (lossStep zero) (PicksLive zero) (initial zero, []) events ↔
      EventRun.Meets (lossStep zero) QueriesSound (initial zero, []) events := by
  have hgood : ∀ (tracked : ContinueConditionMgr × List (Int32 × Int32))
      (event : ConditionEvent), True →
      (PicksLive zero tracked event ↔ QueriesSound tracked event) := by
    intro tracked event _
    cases event with
    | getMissionIdByBundleName accountId bundleName missionId =>
        exact picksLiveMission_iff zero missionId
    | _ => exact Iff.rfl
  exact EventRun.meets_iff_of_invariant hgood (fun _ _ _ _ => trivial) events
    trivial

/-- The mission is destroyed after it lost the focus, and picked all the
same. -/
theorem not_picksLive_of_destoryed :
    ¬ EventRun.Meets (lossStep .active) (PicksLive .active)
      (initial .active, [])
      [.initMissionStatus 100
        [({ id := 1, bundleName := ['b'], abilityName := ['a'] }, false)] 1,
       .updateMissionStatus 100 1 .unfocused
        (errOk, { id := 1, bundleName := ['b'], abilityName := ['a'] }),
       .updateMissionStatus 100 1 .destoryed
        (errOk, { id := 1, bundleName := ['b'], abilityName := ['a'] }),
       .getMissionIdByBundleName 100 ['b'] (-1)] := by
  rintro ⟨-, -, -, hpicks, -⟩
  obtain ⟨⟨status, hstatus, -⟩, -⟩ := hpicks.live (by decide)
  have hsome := Option.isSome_of_eq_some hstatus
  clear hstatus
  revert hsome
  decide

end ContinueConditionMgr

end Dmsfwk
