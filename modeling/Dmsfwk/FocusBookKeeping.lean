import Dmsfwk.DmsContinueConditionMgr

/-!
# Focus book-keeping

The missions of an account are what the ability manager reported or the window
manager focused, and one of them has the focus.  Three steps can break this: the
first report of an account takes the focus flags from memory that was not
initialized, a focused mission is stored under the id asked for and not under
the id answered, and the query of a bundle makes a record for the id its caller
came with.  Away from these, every step keeps the books, and queries only read.
-/

namespace Dmsfwk

namespace ContinueConditionMgr

def knownAfter (known : Set (Int32 × Int32)) :
    ConditionEvent → Set (Int32 × Int32)
  | .initMissionStatus accountId reports _
  | .onUserSwitched accountId reports _ =>
      known ∪ { mission | mission.1 = accountId ∧
        ∃ report ∈ reports, report.1.id = mission.2 }
  | .updateMissionStatus accountId missionId .focused _ =>
      insert (accountId, missionId) known
  | .updateMissionStatus accountId missionId .destoryed _ =>
      known \ {(accountId, missionId)}
  | _ => known

structure Kept (known : Set (Int32 × Int32)) (accountId : Int32)
    (missions : MissionList) : Prop where
  oneFocused : ∀ (first second : Int32) (status other : MissionRecord),
    missions[first]? = some status → missions[second]? = some other →
    status.isFocused = true → other.isFocused = true → first = second
  keyed : ∀ (missionId : Int32) (status : MissionRecord),
    missions[missionId]? = some status → status.missionId = missionId
  known : ∀ (missionId : Int32) (status : MissionRecord),
    missions[missionId]? = some status → (accountId, missionId) ∈ known

def BookKept (known : Set (Int32 × Int32)) (mgr : ContinueConditionMgr) :
    Prop :=
  ∀ (accountId : Int32) (missions : MissionList),
    mgr.missionMap[accountId]? = some missions → Kept known accountId missions

def trackedStep (zero : ContinueState)
    (tracked : ContinueConditionMgr × Set (Int32 × Int32))
    (event : ConditionEvent) :
    ConditionAnswer × ContinueConditionMgr × Set (Int32 × Int32) :=
  let stepped := tracked.1.step zero event
  (stepped.1, stepped.2, knownAfter tracked.2 event)

/-- After the step the books are right, and a query changed nothing. -/
def KeepsBooks (zero : ContinueState)
    (tracked : ContinueConditionMgr × Set (Int32 × Int32))
    (event : ConditionEvent) : Prop :=
  BookKept (knownAfter tracked.2 event) (tracked.1.step zero event).2 ∧
    (event.isQuery = true → (tracked.1.step zero event).2 = tracked.1)

/-! ## The condition -/

def lastReport (reports : List (ReportedMission × Bool)) (missionId : Int32) :
    Option (ReportedMission × Bool) :=
  reports.reverse.find? fun report => report.1.id = missionId

/-- The last report of the mission has a set bit in its memory, or names the
current mission. -/
def Flagged (reports : List (ReportedMission × Bool))
    (focusedMissionId missionId : Int32) : Prop :=
  ∃ report, lastReport reports missionId = some report ∧
    (report.2 = true ∨ 0 < focusedMissionId ∧ focusedMissionId = missionId)

def EventSound (mgr : ContinueConditionMgr) : ConditionEvent → Prop
  | .initMissionStatus accountId reports focusedMissionId
  | .onUserSwitched accountId reports focusedMissionId =>
      mgr.missionMap[accountId]? = none →
        ∀ first second, Flagged reports focusedMissionId first →
          Flagged reports focusedMissionId second → first = second
  | .updateMissionStatus accountId missionId .focused info =>
      ∀ missions : MissionList, mgr.missionMap[accountId]? = some missions →
        missions[missionId]? = none → info.1 = errOk → info.2.id = missionId
  | .getMissionIdByBundleName accountId _ missionId =>
      ∀ missions : MissionList, mgr.missionMap[accountId]? = some missions →
        missions[missionId]? = none →
        ∃ (focused : Int32) (status : MissionRecord),
          missions[focused]? = some status ∧ status.isFocused = true
  | _ => True

/-! ## What an update leaves under each key -/

theorem getElem?_reportedMissions (reports : List (ReportedMission × Bool))
    (missionId : Int32) :
    (reportedMissions reports)[missionId]? =
      (lastReport reports missionId).map fun report =>
        convertToMissionStatus report.1 report.2 := by
  unfold reportedMissions lastReport
  induction reports using List.reverseRecOn with
  | nil => rfl
  | append_singleton reports report ih =>
      rw [List.foldl_append, List.foldl_cons, List.foldl_nil,
        OrderedMap.getElem?_insert_eq, ih, List.reverse_append,
        List.reverse_singleton, List.singleton_append, List.find?_cons]
      by_cases hid : report.1.id = missionId
      · simp [hid]
      · simp [hid]

theorem getElem?_modify (missions : MissionList) (missionId key : Int32)
    (change : MissionRecord → MissionRecord) :
    (missions.modify missionId change)[key]? =
      if missionId = key then missions[key]?.map change else missions[key]? := by
  rw [Std.TreeMap.getElem?_modify]
  simp only [Std.compare_eq_iff_eq]
  split_ifs with hkey
  · rw [hkey]
  · rfl

theorem getElem?_initialMissions (reports : List (ReportedMission × Bool))
    (focusedMissionId key : Int32) :
    (initialMissions reports focusedMissionId)[key]? =
      (lastReport reports key).map fun report =>
        convertToMissionStatus report.1
          (report.2 || decide (0 < focusedMissionId ∧ focusedMissionId = key)) := by
  unfold initialMissions
  by_cases hpositive : 0 < focusedMissionId
  · rw [if_pos hpositive, getElem?_modify, getElem?_reportedMissions]
    by_cases hkey : focusedMissionId = key
    · subst hkey
      rw [if_pos rfl, Option.map_map]
      congr 1
      funext report
      simp [convertToMissionStatus, hpositive]
    · simp [hkey]
  · rw [if_neg hpositive, getElem?_reportedMissions]
    simp [hpositive]

theorem getElem?_cleanLastFocusedFlagLocked (missions : MissionList)
    (missionId key : Int32) :
    (cleanLastFocusedFlagLocked missions missionId)[key]? =
      missions[key]?.map fun status =>
        if key ≠ missionId ∧ status.isFocused then
          { status with isFocused := false }
        else status := by
  rw [cleanLastFocusedFlagLocked, Std.TreeMap.getElem?_map]

section Missions

variable {mgr : ContinueConditionMgr} {accountId : Int32} {missions : MissionList}
  (hmissions : mgr.missionMap[accountId]? = some missions)

include hmissions

theorem isMissionStatusExistLocked_eq (missionId : Int32) :
    mgr.isMissionStatusExistLocked accountId missionId =
      missions[missionId]?.isSome := by
  rw [isMissionStatusExistLocked, hmissions]
  exact Std.TreeMap.contains_eq_isSome_getElem?

theorem missionsOf_eq : mgr.missionsOf accountId = missions := by
  rw [missionsOf, Std.TreeMap.getD_eq_getD_getElem?, hmissions]
  rfl

end Missions

@[simp] theorem lastFocusMission_setMissions (mgr : ContinueConditionMgr)
    (accountId : Int32) (missions : MissionList) :
    (mgr.setMissions accountId missions).lastFocusMission =
      mgr.lastFocusMission := rfl

theorem getElem?_setMissions (mgr : ContinueConditionMgr)
    (accountId other : Int32) (missions : MissionList) :
    (mgr.setMissions accountId missions).missionMap[other]? =
      if accountId = other then some missions else mgr.missionMap[other]? := by
  exact OrderedMap.getElem?_insert_eq accountId other missions

theorem contains_eq_false_iff (mgr : ContinueConditionMgr) (accountId : Int32) :
    mgr.missionMap.contains accountId = false ↔
      mgr.missionMap[accountId]? = none := by
  rw [Std.TreeMap.contains_eq_isSome_getElem?, Option.isSome_eq_false_iff,
    Option.isNone_iff_eq_none]

/-! ## Books of one account -/

section Account

variable {known known' : Set (Int32 × Int32)} {accountId : Int32}
  {missions missions' : MissionList}

theorem Kept.of_records (hkept : Kept known accountId missions)
    (hrecords : ∀ (key : Int32) (status : MissionRecord),
      missions'[key]? = some status → (accountId, key) ∈ known' ∧
        ∃ old : MissionRecord, missions[key]? = some old ∧
          status.missionId = old.missionId ∧
          (status.isFocused = true → old.isFocused = true)) :
    Kept known' accountId missions' where
  oneFocused first second status other hfirst hsecond hstatus hother := by
    obtain ⟨-, old, hold, -, hfocused⟩ := hrecords first status hfirst
    obtain ⟨-, older, holder, -, hfocused'⟩ := hrecords second other hsecond
    exact hkept.oneFocused first second old older hold holder (hfocused hstatus)
      (hfocused' hother)
  keyed key status hstatus := by
    obtain ⟨-, old, hold, hid, -⟩ := hrecords key status hstatus
    rw [hid]
    exact hkept.keyed key old hold
  known key status hstatus := (hrecords key status hstatus).1

theorem Kept.focus (hkept : Kept known accountId missions)
    {missionId : Int32} (hknown : known ⊆ known')
    (hmission : (accountId, missionId) ∈ known')
    (hself : ∀ status : MissionRecord, missions'[missionId]? = some status →
      status.missionId = missionId)
    (hothers : ∀ key : Int32, key ≠ missionId →
      missions'[key]? =
        (cleanLastFocusedFlagLocked missions missionId)[key]?) :
    Kept known' accountId missions' := by
  have hrecord : ∀ (key : Int32) (status : MissionRecord),
      key ≠ missionId → missions'[key]? = some status →
      ∃ old : MissionRecord, missions[key]? = some old ∧
        status.missionId = old.missionId ∧ status.isFocused = false := by
    intro key status hkey hstatus
    rw [hothers key hkey, getElem?_cleanLastFocusedFlagLocked,
      Option.map_eq_some_iff] at hstatus
    obtain ⟨old, hold, rfl⟩ := hstatus
    refine ⟨old, hold, ?_⟩
    cases hfocused : old.isFocused <;> simp [hkey, hfocused]
  constructor
  case oneFocused =>
    intro first second status other hfirst hsecond hstatus hother
    have hfocused : ∀ (key : Int32) (status : MissionRecord),
        missions'[key]? = some status → status.isFocused = true →
        key = missionId := by
      intro key status hstatus hfocused
      by_contra hkey
      obtain ⟨-, -, -, hnot⟩ := hrecord key status hkey hstatus
      rw [hnot] at hfocused
      cases hfocused
    rw [hfocused first status hfirst hstatus, hfocused second other hsecond hother]
  case keyed =>
    intro key status hstatus
    by_cases hkey : key = missionId
    · subst hkey
      exact hself status hstatus
    · obtain ⟨old, hold, hid, -⟩ := hrecord key status hkey hstatus
      rw [hid]
      exact hkept.keyed key old hold
  case known =>
    intro key status hstatus
    by_cases hkey : key = missionId
    · subst hkey
      exact hmission
    · obtain ⟨old, hold, -, -⟩ := hrecord key status hkey hstatus
      exact hknown (hkept.known key old hold)

end Account

section Books

variable {known known' : Set (Int32 × Int32)} {mgr : ContinueConditionMgr}
  {accountId : Int32}

theorem Kept.mono {missions : MissionList}
    (hkept : Kept known accountId missions)
    (hknown : ∀ missionId, (accountId, missionId) ∈ known →
      (accountId, missionId) ∈ known') :
    Kept known' accountId missions where
  oneFocused := hkept.oneFocused
  keyed := hkept.keyed
  known missionId status hstatus :=
    hknown missionId (hkept.known missionId status hstatus)

theorem bookKept_setMissions (hkept : BookKept known mgr)
    (hknown : ∀ other missionId, other ≠ accountId →
      (other, missionId) ∈ known → (other, missionId) ∈ known')
    (missions : MissionList) :
    BookKept known' (mgr.setMissions accountId missions) ↔
      Kept known' accountId missions := by
  constructor
  · intro hafter
    apply hafter accountId missions
    rw [getElem?_setMissions, if_pos rfl]
  · intro hmissions other found hfound
    rw [getElem?_setMissions] at hfound
    split_ifs at hfound with heq
    · cases hfound
      rw [← heq]
      exact hmissions
    · exact (hkept other found hfound).mono fun missionId =>
        hknown other missionId (Ne.symm heq)

theorem BookKept.mono (hkept : BookKept known mgr) (hknown : known ⊆ known') :
    BookKept known' mgr :=
  fun accountId missions hmissions =>
    (hkept accountId missions hmissions).mono fun _ hmem => hknown hmem

end Books

/-! ## One step -/

section Steps

variable {known : Set (Int32 × Int32)} {mgr : ContinueConditionMgr}
  {accountId missionId : Int32}

theorem lastReport_id {reports : List (ReportedMission × Bool)} {key : Int32}
    {report : ReportedMission × Bool}
    (hlast : lastReport reports key = some report) :
    report ∈ reports ∧ report.1.id = key := by
  refine ⟨List.mem_reverse.mp (List.mem_of_find?_eq_some hlast), ?_⟩
  simpa using List.find?_some hlast

theorem kept_initialMissions_iff {reports : List (ReportedMission × Bool)}
    {focusedMissionId : Int32}
    (hknown : ∀ report ∈ reports, (accountId, report.1.id) ∈ known) :
    Kept known accountId (initialMissions reports focusedMissionId) ↔
      ∀ first second, Flagged reports focusedMissionId first →
        Flagged reports focusedMissionId second → first = second := by
  have hrecord : ∀ (key : Int32) (status : MissionRecord),
      (initialMissions reports focusedMissionId)[key]? = some status →
      ∃ report ∈ reports, report.1.id = key ∧ status.missionId = key ∧
        (status.isFocused = true → Flagged reports focusedMissionId key) := by
    intro key status hstatus
    rw [getElem?_initialMissions, Option.map_eq_some_iff] at hstatus
    obtain ⟨report, hreport, rfl⟩ := hstatus
    obtain ⟨hmem, hid⟩ := lastReport_id hreport
    refine ⟨report, hmem, hid, hid, ?_⟩
    intro hfocused
    refine ⟨report, hreport, ?_⟩
    simpa [convertToMissionStatus] using hfocused
  have hflagged : ∀ key : Int32, Flagged reports focusedMissionId key →
      ∃ status : MissionRecord,
        (initialMissions reports focusedMissionId)[key]? = some status ∧
          status.isFocused = true := by
    rintro key ⟨report, hreport, hflag⟩
    refine ⟨convertToMissionStatus report.1 true, ?_, rfl⟩
    rw [getElem?_initialMissions, hreport]
    simpa [convertToMissionStatus] using hflag
  constructor
  · intro hkept first second hfirst hsecond
    obtain ⟨status, hstatus, hfocused⟩ := hflagged first hfirst
    obtain ⟨other, hother, hfocused'⟩ := hflagged second hsecond
    exact hkept.oneFocused first second status other hstatus hother hfocused
      hfocused'
  · intro hone
    constructor
    case oneFocused =>
      intro first second status other hfirst hsecond hstatus hother
      obtain ⟨-, -, -, -, hflag⟩ := hrecord first status hfirst
      obtain ⟨-, -, -, -, hflag'⟩ := hrecord second other hsecond
      exact hone first second (hflag hstatus) (hflag' hother)
    case keyed =>
      intro key status hstatus
      obtain ⟨-, -, -, hid, -⟩ := hrecord key status hstatus
      exact hid
    case known =>
      intro key status hstatus
      obtain ⟨report, hmem, rfl, -, -⟩ := hrecord key status hstatus
      exact hknown report hmem

theorem bookKept_initMissionStatus_iff (hkept : BookKept known mgr)
    (reports : List (ReportedMission × Bool)) (focusedMissionId : Int32) :
    BookKept (knownAfter known
        (.initMissionStatus accountId reports focusedMissionId))
        (mgr.initMissionStatus accountId reports focusedMissionId) ↔
      mgr.EventSound (.initMissionStatus accountId reports focusedMissionId) := by
  cases hcontains : mgr.missionMap.contains accountId with
  | true =>
      rw [initMissionStatus, if_pos hcontains]
      have hsome : mgr.missionMap[accountId]? ≠ none := by
        rw [ne_eq, ← contains_eq_false_iff, hcontains]
        decide
      refine iff_of_true (hkept.mono Set.subset_union_left) ?_
      intro hnone
      exact absurd hnone hsome
  | false =>
      have hnone := (contains_eq_false_iff mgr accountId).mp hcontains
      rw [initMissionStatus, hcontains, if_neg (by decide), knownAfter,
        bookKept_setMissions hkept
          fun _ _ _ hmem => Set.mem_union_left _ hmem,
        kept_initialMissions_iff]
      · exact ⟨fun hone _ => hone, fun hsound => hsound hnone⟩
      · intro report hmem
        exact Set.mem_union_right _ ⟨rfl, report, hmem, rfl⟩

theorem bookKept_onUserRemoved (hkept : BookKept known mgr) :
    BookKept known (mgr.onUserRemoved accountId) := by
  intro other missions hmissions
  rw [onUserRemoved, OrderedMap.getElem?_erase_eq] at hmissions
  split_ifs at hmissions
  exact hkept other missions hmissions

section BookKept

variable (hkept : BookKept known mgr) {missions : MissionList}
  (hmissions : mgr.missionMap[accountId]? = some missions)

include hkept hmissions

theorem bookKept_onMissionFocused_iff (info : Int32 × ReportedMission) :
    BookKept (insert (accountId, missionId) known)
        (mgr.onMissionFocused accountId missionId info).2 ↔
      (missions[missionId]? = none → info.1 = errOk →
        info.2.id = missionId) := by
  have hmissionsOf := missionsOf_eq hmissions
  have hknown : known ⊆ insert (accountId, missionId) known :=
    Set.subset_insert _ _
  rw [onMissionFocused, isMissionStatusExistLocked_eq hmissions, hmissionsOf]
  cases hstatus : missions[missionId]? with
  | some status =>
      have hid := (hkept accountId missions hmissions).keyed missionId status
        hstatus
      refine iff_of_true ?_ (fun hnone => by cases hnone)
      rw [Option.isSome_some, if_pos rfl, bookKept_setMissions hkept
        fun _ _ _ hmem => hknown hmem]
      refine (hkept accountId missions hmissions).focus hknown
        (Set.mem_insert _ _) ?_ ?_
      · intro status hafter
        rw [getElem?_modify, if_pos rfl, getElem?_cleanLastFocusedFlagLocked,
          hstatus] at hafter
        simp only [ne_eq, not_true_eq_false, false_and, if_false,
          Option.map_some, Option.some.injEq] at hafter
        rw [← hafter]
        exact hid
      · intro key hkey
        rw [getElem?_modify, if_neg (Ne.symm hkey)]
  | none =>
      rw [Option.isSome_none, if_neg (by decide)]
      by_cases hret : info.1 = errOk
      · rw [if_neg (not_not_intro hret), bookKept_setMissions hkept
          fun _ _ _ hmem => hknown hmem]
        constructor
        · intro hafter _ _
          refine hafter.keyed missionId (convertToMissionStatus info.2 true) ?_
          rw [OrderedMap.getElem?_insert_eq, if_pos rfl]
        · intro hid
          refine (hkept accountId missions hmissions).focus hknown
            (Set.mem_insert _ _) ?_ ?_
          · intro status hafter
            rw [OrderedMap.getElem?_insert_eq, if_pos rfl] at hafter
            cases hafter
            exact hid rfl hret
          · intro key hkey
            rw [OrderedMap.getElem?_insert_eq, if_neg (Ne.symm hkey)]
      · rw [if_pos hret]
        exact iff_of_true (hkept.mono hknown) fun _ hok => absurd hok hret

theorem bookKept_onMissionUnfocused :
    BookKept known (mgr.onMissionUnfocused accountId missionId).2 := by
  rw [onMissionUnfocused, missionsOf_eq hmissions]
  cases hstatus : missions[missionId]? with
  | none => exact hkept
  | some status =>
      refine (bookKept_setMissions hkept (fun _ _ _ hmem => hmem) _).mpr
        ((hkept accountId missions hmissions).of_records ?_)
      intro key found hfound
      rw [OrderedMap.getElem?_insert_eq] at hfound
      split_ifs at hfound with hkey
      · subst hkey
        cases hfound
        exact ⟨(hkept accountId missions hmissions).known _ status hstatus,
          status, hstatus, rfl, fun hfocused => by cases hfocused⟩
      · exact ⟨(hkept accountId missions hmissions).known key found hfound,
          found, hfound, rfl, id⟩

theorem bookKept_onMissionDestory :
    BookKept (known \ {(accountId, missionId)})
      (mgr.onMissionDestory accountId missionId).2 := by
  have hother : ∀ other key, other ≠ accountId → (other, key) ∈ known →
      (other, key) ∈ known \ {(accountId, missionId)} := by
    intro other key hne hmem
    refine ⟨hmem, ?_⟩
    rintro ⟨⟩
    exact hne rfl
  have hbooks := hkept accountId missions hmissions
  rw [onMissionDestory, isMissionStatusExistLocked_eq hmissions,
    missionsOf_eq hmissions]
  cases hstatus : missions[missionId]? with
  | none =>
      rw [Option.isSome_none, if_neg (by decide)]
      intro other found hfound
      by_cases hsame : other = accountId
      · subst hsame
        rw [hmissions] at hfound
        cases hfound
        refine hbooks.of_records ?_
        intro key status hkey
        refine ⟨⟨hbooks.known key status hkey, ?_⟩, status, hkey, rfl, id⟩
        rintro ⟨⟩
        rw [hstatus] at hkey
        cases hkey
      · exact (hkept other found hfound).mono fun key =>
          hother other key hsame
  | some status =>
      rw [Option.isSome_some, if_pos rfl, bookKept_setMissions hkept hother]
      refine hbooks.of_records ?_
      intro key found hfound
      rw [OrderedMap.getElem?_erase_eq] at hfound
      split_ifs at hfound with hkey
      refine ⟨⟨hbooks.known key found hfound, ?_⟩, found, hfound, rfl, id⟩
      rintro ⟨⟩
      exact hkey rfl

theorem bookKept_setContinueState (state : ContinueState) :
    BookKept known (mgr.setContinueState accountId missionId state).2 := by
  have hbooks := hkept accountId missions hmissions
  rw [setContinueState, missionsOf_eq hmissions]
  split_ifs
  · refine (bookKept_setMissions hkept (fun _ _ _ hmem => hmem) _).mpr
      (hbooks.of_records ?_)
    intro key found hfound
    rw [getElem?_modify] at hfound
    split_ifs at hfound with hkey
    · obtain ⟨old, hold, rfl⟩ := Option.map_eq_some_iff.mp hfound
      exact ⟨hbooks.known key old hold, old, hold, rfl, id⟩
    · exact ⟨hbooks.known key found hfound, found, hfound, rfl, id⟩
  · exact hkept

end BookKept

end Steps

/-! ## Queries -/

section Queries

variable {mgr : ContinueConditionMgr} {accountId : Int32}
  {missions : MissionList}

theorem focusedMission_eq_none_iff :
    focusedMission missions = none ↔
      ∀ (key : Int32) (status : MissionRecord), missions[key]? = some status →
        status.isFocused = false := by
  rw [focusedMission, Option.map_eq_none_iff, OrderedMap.firstMatch_eq_none]

theorem focusedMission_spec {focused : Int32}
    (hfocused : focusedMission missions = some focused) :
    ∃ status : MissionRecord, missions[focused]? = some status ∧
      status.isFocused = true := by
  rw [focusedMission, Option.map_eq_some_iff] at hfocused
  obtain ⟨⟨key, status⟩, hfirst, rfl⟩ := hfocused
  obtain ⟨hfound, htest, -⟩ := OrderedMap.firstMatch_spec hfirst
  exact ⟨status, hfound, htest⟩

theorem readMission_of_isSome (zero : ContinueState) {missionId : Int32}
    (hsome : missions[missionId]? ≠ none) :
    (mgr.readMission zero accountId missions missionId).2 = mgr := by
  unfold readMission
  cases hstatus : missions[missionId]? with
  | none => exact absurd hstatus hsome
  | some status => rfl

theorem readMission_of_none (zero : ContinueState)
    (hmissions : mgr.missionMap[accountId]? = some missions)
    {missionId : Int32} (hnone : missions[missionId]? = none) :
    (mgr.readMission zero accountId missions missionId).2 ≠ mgr := by
  intro heq
  have hafter := congrArg
    (fun mgr : ContinueConditionMgr => mgr.missionMap[accountId]?) heq
  simp only [readMission, hnone, getElem?_setMissions, if_true, hmissions,
    Option.some.injEq] at hafter
  rw [← hafter, OrderedMap.getElem?_insert_eq, if_pos rfl] at hnone
  cases hnone

theorem getMissionIdByBundleName_snd (zero : ContinueState)
    (hmissions : mgr.missionMap[accountId]? = some missions)
    (bundleName : Text) (missionId : Int32) :
    (mgr.getMissionIdByBundleName zero accountId bundleName missionId).2 =
      (mgr.readMission zero accountId missions
        ((focusedMission missions).getD missionId)).2 := by
  rw [getMissionIdByBundleName, hmissions]
  simp only
  split_ifs <;> rfl

theorem getMissionIdByBundleName_snd_eq_iff (zero : ContinueState)
    (mgr : ContinueConditionMgr) (accountId : Int32) (bundleName : Text)
    (missionId : Int32) :
    (mgr.getMissionIdByBundleName zero accountId bundleName missionId).2 = mgr ↔
      mgr.EventSound
        (.getMissionIdByBundleName accountId bundleName missionId) := by
  cases hmissions : mgr.missionMap[accountId]? with
  | none =>
      refine iff_of_true ?_ ?_
      · rw [getMissionIdByBundleName, hmissions]
      · intro missions hfound
        rw [hmissions] at hfound
        cases hfound
  | some missions =>
      rw [getMissionIdByBundleName_snd zero hmissions]
      have hsound : mgr.EventSound
          (.getMissionIdByBundleName accountId bundleName missionId) ↔
          (missions[missionId]? = none →
            ∃ (focused : Int32) (status : MissionRecord),
              missions[focused]? = some status ∧ status.isFocused = true) := by
        constructor
        · exact fun hall => hall missions hmissions
        · intro hone found hfound
          rw [hmissions] at hfound
          cases hfound
          exact hone
      rw [hsound]
      cases hfocused : focusedMission missions with
      | some focused =>
          obtain ⟨status, hstatus, hflag⟩ := focusedMission_spec hfocused
          refine iff_of_true (readMission_of_isSome zero ?_)
            fun _ => ⟨focused, status, hstatus, hflag⟩
          rw [Option.getD_some, hstatus]
          exact Option.some_ne_none status
      | none =>
          rw [Option.getD_none]
          constructor
          · intro hsame hnone
            exact absurd hsame (readMission_of_none zero hmissions hnone)
          · intro hfocus
            apply readMission_of_isSome
            intro hnone
            obtain ⟨key, status, hstatus, hflag⟩ := hfocus hnone
            rw [focusedMission_eq_none_iff.mp hfocused key status hstatus]
              at hflag
            cases hflag

end Queries

/-! ## Runs -/

section Runs

variable {known : Set (Int32 × Int32)} {mgr : ContinueConditionMgr}

theorem bookKept_updateMissionStatus_iff (hkept : BookKept known mgr)
    (accountId missionId : Int32) (type : MissionEventType)
    (info : Int32 × ReportedMission) :
    BookKept (knownAfter known
        (.updateMissionStatus accountId missionId type info))
        (mgr.updateMissionStatus accountId missionId type info).2 ↔
      mgr.EventSound (.updateMissionStatus accountId missionId type info) := by
  unfold updateMissionStatus
  cases hmissions : mgr.missionMap[accountId]? with
  | none =>
      have hcontains := (contains_eq_false_iff mgr accountId).mpr hmissions
      rw [hcontains, if_pos (by decide)]
      have hbooks : BookKept (knownAfter known
          (.updateMissionStatus accountId missionId type info)) mgr := by
        intro other missions hfound
        have hne : other ≠ accountId := by
          rintro rfl
          rw [hmissions] at hfound
          cases hfound
        refine (hkept other missions hfound).mono fun key hmem => ?_
        cases type with
        | focused => exact Set.mem_insert_of_mem _ hmem
        | destoryed =>
            refine ⟨hmem, ?_⟩
            rintro ⟨⟩
            exact hne rfl
        | _ => exact hmem
      refine iff_of_true hbooks ?_
      cases type with
      | focused =>
          intro missions hfound
          rw [hmissions] at hfound
          cases hfound
      | _ => trivial
  | some missions =>
      have hcontains : mgr.missionMap.contains accountId = true := by
        rw [Std.TreeMap.contains_eq_isSome_getElem?, hmissions]
        rfl
      rw [hcontains, if_neg (by decide)]
      cases type with
      | focused =>
          refine (bookKept_onMissionFocused_iff hkept hmissions info).trans ?_
          constructor
          · intro hone found hfound
            rw [hmissions] at hfound
            cases hfound
            exact hone
          · exact fun hall => hall missions hmissions
      | unfocused =>
          exact iff_of_true (bookKept_onMissionUnfocused hkept hmissions) trivial
      | destoryed =>
          exact iff_of_true (bookKept_onMissionDestory hkept hmissions) trivial
      | active | inactive =>
          exact iff_of_true (bookKept_setContinueState hkept hmissions _) trivial
      | timeout | mmi => exact iff_of_true hkept trivial

theorem keepsBooks_iff (zero : ContinueState) (hkept : BookKept known mgr)
    (event : ConditionEvent) :
    KeepsBooks zero (mgr, known) event ↔ mgr.EventSound event := by
  cases event with
  | initMissionStatus accountId reports focusedMissionId
  | onUserSwitched accountId reports focusedMissionId =>
      refine Iff.trans ?_
        (bookKept_initMissionStatus_iff hkept reports focusedMissionId)
      exact and_iff_left fun hquery => by cases hquery
  | onUserRemoved accountId =>
      exact iff_of_true ⟨bookKept_onUserRemoved hkept, fun hquery => by cases hquery⟩
        trivial
  | updateMissionStatus accountId missionId type info =>
      refine Iff.trans ?_
        (bookKept_updateMissionStatus_iff hkept accountId missionId type info)
      exact and_iff_left fun hquery => by cases hquery
  | getMissionStatus accountId missionId =>
      exact iff_of_true ⟨hkept, fun _ => rfl⟩ trivial
  | getCurrentFocusedMission accountId =>
      exact iff_of_true ⟨hkept, fun _ => rfl⟩ trivial
  | getMissionIdByBundleName accountId bundleName missionId =>
      rw [← getMissionIdByBundleName_snd_eq_iff zero]
      constructor
      · exact fun hkeeps => hkeeps.2 rfl
      · intro hsame
        refine ⟨?_, fun _ => hsame⟩
        intro other missions hfound
        exact hkept other missions
          (by rwa [show (mgr.step zero (.getMissionIdByBundleName accountId
            bundleName missionId)).2 = mgr from hsame] at hfound)

theorem bookKept_initial (zero : ContinueState) :
    BookKept ∅ (initial zero) := by
  intro accountId missions hmissions
  rw [initial, Std.TreeMap.getElem?_emptyc] at hmissions
  cases hmissions

/-- The books are right after every step, and no query changes anything, in
exactly the runs whose steps are sound. -/
theorem meets_keepsBooks_iff (zero : ContinueState)
    (events : List ConditionEvent) :
    EventRun.Meets (trackedStep zero) (KeepsBooks zero) (initial zero, ∅)
        events ↔
      EventRun.Meets (trackedStep zero) (fun tracked => tracked.1.EventSound)
        (initial zero, ∅) events := by
  have hgood : ∀ (tracked : ContinueConditionMgr × Set (Int32 × Int32))
      (event : ConditionEvent), BookKept tracked.2 tracked.1 →
      (KeepsBooks zero tracked event ↔ tracked.1.EventSound event) :=
    fun _ event hkept => keepsBooks_iff zero hkept event
  refine EventRun.meets_iff_of_invariant hgood ?_ events (bookKept_initial zero)
  intro tracked event hkept hsound
  exact ((hgood tracked event hkept).mpr hsound).1

/-- A mission without the focus, and a query with the id -1 that
`DSchedContinueManager` starts from: there is a record for -1 afterwards. -/
theorem not_keepsBooks_of_unfocused_query :
    ¬ EventRun.Meets (trackedStep .active) (KeepsBooks .active)
      (initial .active, ∅)
      [.initMissionStatus 100
        [({ id := 1, bundleName := ['b'], abilityName := ['a'] }, false)] 0,
       .getMissionIdByBundleName 100 ['c'] (-1)] := by
  rintro ⟨-, ⟨-, hquery⟩, -⟩
  have hrecord := congrArg
    (fun mgr : ContinueConditionMgr => (mgr.getMissionStatus 100 (-1)).1)
    (hquery rfl)
  revert hrecord
  decide

end Runs

end ContinueConditionMgr

end Dmsfwk
