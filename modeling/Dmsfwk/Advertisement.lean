import Dmsfwk.DMSContinueSendMgr
import Dmsfwk.EventRun

/-!
# No stale advertisement

The tasks that are posted already decide which broadcast will be the last one:
they carry the status that they send.  The mission which that broadcast lets
appear has the focus and can be continued, from the event that posts the task
until one that posts its disappearance.
-/

namespace Dmsfwk

namespace DMSContinueSendMgr

structure Advertising where
  mgr : DMSContinueSendMgr := {}
  last : Option SentBroadcast := none

namespace Advertising

def initial (missions : List (Int32 × MissionInfo))
    (focusedMissionId : Int32) : Advertising where
  mgr := initMissionStatus missions focusedMissionId

def step (conditions : SendConditions) (advertising : Advertising)
    (event : SendEvent) : Option SentBroadcast × Advertising :=
  let next := advertising.mgr.step conditions event
  (next.1, { mgr := next.2, last := next.1.or advertising.last })

/-- With no task left, a mission whose appearance was sent last has the focus and
can be continued. -/
def NoStale (advertising : Advertising) : Prop :=
  advertising.mgr.posted = [] →
    ∀ sent ∈ advertising.last, sent.type = .appear →
      ∃ status ∈ advertising.mgr.missions[sent.missionId]?,
        status.isFocused = true ∧ status.isContinuable = true ∧
        status.continueState = .active

instance : DecidablePred NoStale := by
  intro advertising
  unfold NoStale
  infer_instance

def settleTask (conditions : SendConditions)
    (settled : Int32 × Option SentBroadcast) :
    SendTask → Int32 × Option SentBroadcast
  | .missionStatus status type =>
      let next := broadcastOf conditions status type settled.1
      (next.2, next.1.or settled.2)
  | .mmi => settled

def settle (conditions : SendConditions) (posted : List SendTask)
    (settled : Int32 × Option SentBroadcast) : Int32 × Option SentBroadcast :=
  posted.foldl (settleTask conditions) settled

def settled (conditions : SendConditions) (advertising : Advertising) :
    Int32 × Option SentBroadcast :=
  settle conditions advertising.mgr.posted
    (advertising.mgr.unfoMissionId, advertising.last)

def canAppear (conditions : SendConditions) (status : MissionStatus) : Bool :=
  isAllowed conditions status .focused &&
    (conditions.queryBroadcastInfo status).isSome

/-- A mission that gets the focus is broadcast, or no mission is advertised; and
the advertised mission becomes inactive only while the screen-locked handler
holds it. -/
def Covered (conditions : SendConditions) (advertising : Advertising) :
    SendEvent → Prop
  | .missionFocused missionId info =>
      ∀ status ∈ statusToFocus missionId info advertising.mgr,
        missionId ≠ invalidMissionId ∧
          (canAppear conditions status = false →
            ∀ sent ∈ (settled conditions advertising).2,
              sent.type ≠ .appear)
  | .continueState missionId .inactive =>
      ∀ sent ∈ (settled conditions advertising).2,
        sent.type = .appear → sent.missionId = missionId →
          (settled conditions advertising).1 = missionId
  | _ => True

instance (conditions : SendConditions) (advertising : Advertising) :
    DecidablePred (advertising.Covered conditions) := by
  intro event
  unfold Covered
  split <;> infer_instance

end Advertising

/-! ## Broadcasts -/

theorem of_mem_broadcastOf {conditions : SendConditions}
    {status : MissionStatus} {type : MissionEventType} {unfoMissionId : Int32}
    {sent : SentBroadcast}
    (hsent : sent ∈ (broadcastOf conditions status type unfoMissionId).1) :
    sent.missionId = status.missionId ∧
      isAllowed conditions status type = true ∧
      (executeSendStrategy conditions status unfoMissionId type).1 =
        some sent.type ∧
      (conditions.queryBroadcastInfo status).isSome = true := by
  unfold broadcastOf at hsent
  cases hallowed : isAllowed conditions status type with
  | false =>
      rw [hallowed] at hsent
      simp at hsent
  | true =>
      rw [hallowed] at hsent
      dsimp only [Bool.not_true] at hsent
      rw [if_neg (by simp)] at hsent
      dsimp only at hsent
      split at hsent
      · rename_i hstrategy hquery
        cases Option.mem_some_iff.mp hsent
        rw [hquery]
        exact ⟨rfl, rfl, hstrategy, rfl⟩
      · simp at hsent

theorem exists_broadcastOf {conditions : SendConditions}
    {status : MissionStatus} {type : MissionEventType} {unfoMissionId : Int32}
    {sendType : BroadcastType}
    (hallowed : isAllowed conditions status type = true)
    (hstrategy : (executeSendStrategy conditions status unfoMissionId type).1 =
      some sendType)
    (hquery : (conditions.queryBroadcastInfo status).isSome = true) :
    ∃ payload, (broadcastOf conditions status type unfoMissionId).1 = some {
      missionId := status.missionId, type := sendType, payload := payload } := by
  obtain ⟨ids, hids⟩ := Option.isSome_iff_exists.mp hquery
  unfold broadcastOf
  rw [hallowed, if_neg (by simp)]
  dsimp only
  rw [hstrategy, hids]
  exact ⟨_, rfl⟩

theorem broadcastOf_mmi_snd (conditions : SendConditions)
    (status : MissionStatus) (unfoMissionId : Int32) :
    (broadcastOf conditions status .mmi unfoMissionId).2 = unfoMissionId := by
  unfold broadcastOf
  split_ifs <;> rfl

theorem broadcastOf_timeout_snd (conditions : SendConditions)
    (status : MissionStatus) (unfoMissionId : Int32) :
    (broadcastOf conditions status .timeout unfoMissionId).2 =
      unfoMissionId := by
  unfold broadcastOf
  split_ifs <;> rfl

namespace Advertising

/-! ## Posted tasks -/

theorem settle_eq (conditions : SendConditions) (posted : List SendTask)
    (unfoMissionId : Int32) (last : Option SentBroadcast) :
    (settle conditions posted (unfoMissionId, last)).2 =
      (settle conditions posted (unfoMissionId, none)).2.or last := by
  induction posted generalizing unfoMissionId last with
  | nil => rfl
  | cons task posted ih =>
      cases task with
      | mmi => exact ih unfoMissionId last
      | missionStatus status type =>
          let next := broadcastOf conditions status type unfoMissionId
          calc (settle conditions posted (next.2, next.1.or last)).2
            _ = (settle conditions posted (next.2, none)).2.or
                  (next.1.or last) := ih next.2 _
            _ = ((settle conditions posted (next.2, none)).2.or
                  (next.1.or none)).or last := by
                rw [Option.or_none, Option.or_assoc]
            _ = (settle conditions posted (next.2, next.1.or none)).2.or
                  last := by rw [← ih next.2]

theorem mem_settle_or {conditions : SendConditions} {posted : List SendTask}
    {unfoMissionId : Int32} {first last : Option SentBroadcast}
    {sent : SentBroadcast}
    (hsent : sent ∈
      (settle conditions posted (unfoMissionId, first.or last)).2) :
    sent ∈ first ∨
      sent ∈ (settle conditions posted (unfoMissionId, last)).2 := by
  rw [settle_eq] at hsent ⊢
  cases hposted : (settle conditions posted (unfoMissionId, none)).2 with
  | some later =>
      rw [hposted] at hsent
      exact Or.inr hsent
  | none =>
      rw [hposted, Option.none_or] at hsent
      cases first with
      | some now => exact Or.inl hsent
      | none => exact Or.inr hsent

def Keyed (missions : Std.TreeMap Int32 MissionStatus) : Prop :=
  ∀ missionId status, missions[missionId]? = some status →
    status.missionId = missionId ∧ missionId ≠ invalidMissionId

def Advertisable (conditions : SendConditions)
    (missions : Std.TreeMap Int32 MissionStatus) (missionId : Int32) : Prop :=
  ∃ status, missions[missionId]? = some status ∧
    status.isFocused = true ∧ canAppear conditions status = true

/-- The last appearance, posted or sent, is that of a mission that can be
advertised. -/
structure Current (conditions : SendConditions) (advertising : Advertising) :
    Prop where
  keyed : Keyed advertising.mgr.missions
  advertised : ∀ sent ∈ (settled conditions advertising).2,
    sent.type = .appear →
      Advertisable conditions advertising.mgr.missions sent.missionId

theorem canAppear_iff {conditions : SendConditions} {status : MissionStatus} :
    canAppear conditions status = true ↔
      conditions.checkSystemSendCondition = true ∧
        (status.isContinuable = true ∧ status.continueState = .active ∧
          conditions.checkBundleContinueConfig status.bundleName = true) ∧
        (conditions.queryBroadcastInfo status).isSome = true := by
  simp only [canAppear, isAllowed, checkMissionSendCondition,
    checkSendFocusedCondition, Bool.and_eq_true, decide_eq_true_eq, and_assoc]

theorem Current.noStale {conditions : SendConditions}
    {advertising : Advertising} (hcurrent : Current conditions advertising) :
    advertising.NoStale := by
  intro hposted sent hsent happear
  have hsettled : (settled conditions advertising).2 = advertising.last := by
    unfold settled
    rw [hposted]
    rfl
  rw [← hsettled] at hsent
  obtain ⟨status, hstatus, hfocused, happears⟩ :=
    hcurrent.advertised sent hsent happear
  obtain ⟨_, ⟨hcontinuable, hactive, _⟩, _⟩ := canAppear_iff.mp happears
  exact ⟨status, hstatus, hfocused, hcontinuable, hactive⟩

/-! ## Missions -/

section Missions

variable {missions : Std.TreeMap Int32 MissionStatus}

theorem Keyed.insert (hkeyed : Keyed missions) {missionId : Int32}
    {status : MissionStatus} (hstatus : status.missionId = missionId)
    (hvalid : missionId ≠ invalidMissionId) :
    Keyed (missions.insert missionId status) := by
  intro found record hrecord
  rw [OrderedMap.getElem?_insert_eq] at hrecord
  split_ifs at hrecord with hfound
  · cases hrecord
    rw [← hfound]
    exact ⟨hstatus, hvalid⟩
  · exact hkeyed found record hrecord

theorem Keyed.modify (hkeyed : Keyed missions) (missionId : Int32)
    {change : MissionStatus → MissionStatus}
    (hchange : ∀ status, (change status).missionId = status.missionId) :
    Keyed (missions.modify missionId change) := by
  intro found record hrecord
  rw [Std.TreeMap.getElem?_modify] at hrecord
  split_ifs at hrecord with hfound
  · obtain ⟨status, hstatus, hrecord⟩ := Option.map_eq_some_iff.mp hrecord
    rw [← hrecord, hchange, ← Std.compare_eq_iff_eq.mp hfound]
    exact hkeyed missionId status hstatus
  · exact hkeyed found record hrecord

theorem Keyed.erase (hkeyed : Keyed missions) (missionId : Int32) :
    Keyed (missions.erase missionId) := by
  intro found record hrecord
  rw [OrderedMap.getElem?_erase_eq] at hrecord
  split_ifs at hrecord
  exact hkeyed found record hrecord

theorem Keyed.focusOn (hkeyed : Keyed missions) {missionId : Int32}
    {status : MissionStatus} (hstatus : status.missionId = missionId)
    (hvalid : missionId ≠ invalidMissionId) :
    Keyed (focusOn missionId status missions) := by
  apply Keyed.insert
  · intro found record hrecord
    rw [Std.TreeMap.getElem?_map] at hrecord
    obtain ⟨old, hold, hrecord⟩ := Option.map_eq_some_iff.mp hrecord
    rw [← hrecord]
    exact hkeyed found old hold
  · exact hstatus
  · exact hvalid

theorem getElem?_modify_self {missionId : Int32} {status : MissionStatus}
    (hstatus : missions[missionId]? = some status)
    (change : MissionStatus → MissionStatus) :
    (missions.modify missionId change)[missionId]? = some (change status) := by
  rw [Std.TreeMap.getElem?_modify_self, hstatus]
  rfl

theorem getElem?_modify_ne {missionId found : Int32} (hne : found ≠ missionId)
    (change : MissionStatus → MissionStatus) :
    (missions.modify missionId change)[found]? = missions[found]? := by
  rw [Std.TreeMap.getElem?_modify, if_neg]
  intro heq
  exact hne (Std.compare_eq_iff_eq.mp heq).symm

end Missions

variable {mgr : DMSContinueSendMgr}

theorem statusToFocus_missionId (hkeyed : Keyed mgr.missions) {missionId : Int32}
    {info : Option MissionInfo} {status : MissionStatus}
    (hstatus : status ∈ statusToFocus missionId info mgr) :
    status.missionId = missionId := by
  unfold statusToFocus at hstatus
  split at hstatus
  · rename_i record hrecord
    rw [← Option.mem_some_iff.mp hstatus]
    exact (hkeyed missionId record hrecord).1
  · obtain ⟨given, _, hgiven⟩ := Option.map_eq_some_iff.mp hstatus
    rw [← hgiven]
    rfl

theorem keyed_initMissionStatus {missions : List (Int32 × MissionInfo)}
    (hids : ∀ mission ∈ missions, mission.1 ≠ invalidMissionId)
    (focusedMissionId : Int32) :
    Keyed (initMissionStatus missions focusedMissionId).missions := by
  have hfold : ∀ start : Std.TreeMap Int32 MissionStatus, Keyed start →
      Keyed (missions.foldl (fun missionList mission =>
        missionList.insert mission.1
          (convertToMissionStatus mission.1 mission.2)) start) := by
    induction missions with
    | nil => exact fun start hstart => hstart
    | cons mission missions ih =>
        obtain ⟨hid, hids⟩ := List.forall_mem_cons.mp hids
        intro start hstart
        exact ih hids _ (hstart.insert rfl hid)
  have hlist := hfold ∅ (by
    intro missionId status hstatus
    simp at hstatus)
  unfold initMissionStatus
  dsimp only
  split_ifs
  · exact hlist.modify focusedMissionId fun _ => rfl
  · exact hlist

theorem current_initial (conditions : SendConditions)
    {missions : List (Int32 × MissionInfo)}
    (hids : ∀ mission ∈ missions, mission.1 ≠ invalidMissionId)
    (focusedMissionId : Int32) :
    Current conditions (initial missions focusedMissionId) where
  keyed := keyed_initMissionStatus hids focusedMissionId
  advertised := by
    intro sent hsent
    cases hsent

/-! ## Snapshots of an advertised mission -/

section Status

variable {conditions : SendConditions} {status : MissionStatus}

theorem isAllowed_of_canAppear (hfocused : status.isFocused = true)
    (happears : canAppear conditions status = true) (type : MissionEventType) :
    isAllowed conditions status type = true := by
  obtain ⟨hsystem, ⟨hcontinuable, hactive, hconfig⟩, _⟩ :=
    canAppear_iff.mp happears
  cases type <;>
    simp [isAllowed, checkMissionSendCondition, checkSendFocusedCondition,
      checkSendUnfocusedCondition, checkSendActiveCondition,
      checkSendInactiveCondition, hsystem, hfocused, hcontinuable, hactive,
      hconfig]

theorem canAppear_of_isAllowed
    (hallowed : isAllowed conditions status .focused = true)
    (hquery : (conditions.queryBroadcastInfo status).isSome = true) :
    canAppear conditions status = true := by
  unfold canAppear
  rw [hallowed, hquery]
  rfl

theorem of_isAllowed_active (hallowed : isAllowed conditions status .active = true)
    (hactive : status.continueState = .active) :
    status.isFocused = true ∧ isAllowed conditions status .focused = true := by
  simp only [isAllowed, checkMissionSendCondition, checkSendActiveCondition,
    Bool.and_eq_true] at hallowed
  obtain ⟨hsystem, ⟨hfocused, hcontinuable⟩, hconfig⟩ := hallowed
  constructor
  · exact hfocused
  · simp [isAllowed, checkMissionSendCondition, checkSendFocusedCondition,
      hsystem, hcontinuable, hactive, hconfig]

end Status

theorem inactive_ne_appear (conditions : SendConditions)
    (status : MissionStatus) (unfoMissionId : Int32) :
    (executeSendStrategy conditions status unfoMissionId .inactive).1 ≠
      some .appear := by
  unfold executeSendStrategy
  dsimp only
  split_ifs <;> simp

/-- A mission for which an event sends nothing is not the advertised one, if the
event does send a broadcast when its check passes. -/
theorem ne_of_broadcastOf_eq_none {conditions : SendConditions}
    {missions : Std.TreeMap Int32 MissionStatus} {missionId found : Int32}
    {status snapshot : MissionStatus} {type : MissionEventType}
    {unfoMissionId : Int32} {sendType : BroadcastType}
    (hstatus : missions[missionId]? = some status)
    (hallowed : isAllowed conditions snapshot type =
      isAllowed conditions status type)
    (hquery : conditions.queryBroadcastInfo snapshot =
      conditions.queryBroadcastInfo status)
    (hstrategy : (executeSendStrategy conditions snapshot unfoMissionId
      type).1 = some sendType)
    (hnone : (broadcastOf conditions snapshot type unfoMissionId).1 = none)
    (hfound : Advertisable conditions missions found) :
    found ≠ missionId := by
  intro heq
  obtain ⟨record, hrecord, hfocused, happears⟩ := hfound
  rw [heq, hstatus] at hrecord
  cases hrecord
  obtain ⟨_, _, hids⟩ := canAppear_iff.mp happears
  rw [← hquery] at hids
  obtain ⟨payload, hsent⟩ := exists_broadcastOf
    (hallowed.trans (isAllowed_of_canAppear hfocused happears type))
    hstrategy hids
  rw [hnone] at hsent
  cases hsent

theorem Advertisable.congr {conditions : SendConditions}
    {missions next : Std.TreeMap Int32 MissionStatus} {missionId : Int32}
    (hadvertisable : Advertisable conditions missions missionId)
    (hnext : next[missionId]? = missions[missionId]?) :
    Advertisable conditions next missionId := by
  unfold Advertisable
  rw [hnext]
  exact hadvertisable

theorem onMissionStatusChanged_some {missionId : Int32} {status : MissionStatus}
    (hstatus : mgr.missions[missionId]? = some status) (type : MissionEventType) :
    onMissionStatusChanged missionId type mgr = { mgr with
      timeouts := mgr.timeouts.erase missionId
      posted := mgr.posted ++ [.missionStatus status type] } := by
  unfold onMissionStatusChanged
  rw [hstatus]

theorem onMissionStatusChanged_none {missionId : Int32}
    (hstatus : mgr.missions[missionId]? = none) (type : MissionEventType) :
    onMissionStatusChanged missionId type mgr = mgr := by
  unfold onMissionStatusChanged
  rw [hstatus]

theorem missions_onMissionStatusChanged (missionId : Int32)
    (type : MissionEventType) (mgr : DMSContinueSendMgr) :
    (onMissionStatusChanged missionId type mgr).missions = mgr.missions := by
  unfold onMissionStatusChanged
  split <;> rfl

/-! ## Events -/

section Events

variable {conditions : SendConditions} {advertising : Advertising}

section Current

variable (hcurrent : Current conditions advertising)

include hcurrent

theorem Current.congr {next : DMSContinueSendMgr}
    (hunfo : next.unfoMissionId = advertising.mgr.unfoMissionId)
    (hposted : next.posted = advertising.mgr.posted)
    (hmissions : ∀ missionId : Int32,
      next.missions[missionId]? = advertising.mgr.missions[missionId]?) :
    Current conditions { mgr := next, last := advertising.last } where
  keyed := by
    intro missionId status hstatus
    rw [hmissions] at hstatus
    exact hcurrent.keyed missionId status hstatus
  advertised := by
    intro sent hsent happear
    unfold settled at hsent
    dsimp only at hsent
    rw [hunfo, hposted] at hsent
    exact (hcurrent.advertised sent hsent happear).congr (hmissions _)

theorem Current.ofUnknown {missionId : Int32}
    {missions : Std.TreeMap Int32 MissionStatus}
    (hunknown : advertising.mgr.missions[missionId]? = none)
    (hstill : missions[missionId]? = none)
    (hother : ∀ found, found ≠ missionId →
      missions[found]? = advertising.mgr.missions[found]?) :
    Current conditions {
      mgr := { advertising.mgr with missions := missions }
      last := advertising.last } := by
  apply hcurrent.congr
  · rfl
  · rfl
  · intro found
    by_cases hfound : found = missionId
    · rw [hfound, hunknown]
      exact hstill
    · exact hother found hfound

/-- A posted snapshot keeps the last appearance current if what it will send is
and, when it will send nothing, what was the last before. -/
theorem Current.post {next : DMSContinueSendMgr} {status : MissionStatus}
    {type : MissionEventType} (hkeyed : Keyed next.missions)
    (hunfo : next.unfoMissionId = advertising.mgr.unfoMissionId)
    (hposted : next.posted =
      advertising.mgr.posted ++ [.missionStatus status type])
    (hsent : ∀ sent ∈ (broadcastOf conditions status type
        (settled conditions advertising).1).1,
      sent.type = .appear →
        Advertisable conditions next.missions sent.missionId)
    (hkept : (broadcastOf conditions status type
        (settled conditions advertising).1).1 = none →
      ∀ sent ∈ (settled conditions advertising).2, sent.type = .appear →
        Advertisable conditions advertising.mgr.missions sent.missionId →
        Advertisable conditions next.missions sent.missionId) :
    Current conditions { mgr := next, last := advertising.last } where
  keyed := hkeyed
  advertised := by
    intro sent hsettled happear
    unfold settled settle at hsettled
    dsimp only at hsettled
    rw [hunfo, hposted, List.foldl_append] at hsettled
    change sent ∈ (broadcastOf conditions status type
      (settled conditions advertising).1).1.or
        (settled conditions advertising).2 at hsettled
    cases hbroadcast : (broadcastOf conditions status type
        (settled conditions advertising).1).1 with
    | some now =>
        rw [hbroadcast] at hsettled
        exact hsent sent (hbroadcast ▸ hsettled) happear
    | none =>
        rw [hbroadcast, Option.none_or] at hsettled
        exact hkept hbroadcast sent hsettled happear
          (hcurrent.advertised sent hsettled happear)

theorem Current.missionFocused {missionId : Int32} {info : Option MissionInfo}
    (hcovered : advertising.Covered conditions
      (.missionFocused missionId info)) :
    Current conditions {
      mgr := onMissionFocused missionId info advertising.mgr
      last := advertising.last } := by
  unfold onMissionFocused updateFocused
  cases hstatus : statusToFocus missionId info advertising.mgr with
  | none =>
      have hmission : advertising.mgr.missions[missionId]? = none := by
        unfold statusToFocus at hstatus
        split at hstatus
        · cases hstatus
        · assumption
      dsimp only
      rw [onMissionStatusChanged_none hmission]
      exact hcurrent
  | some status =>
      obtain ⟨hvalid, hadvertised⟩ := hcovered status hstatus
      have hid := statusToFocus_missionId hcurrent.keyed hstatus
      have hfocused : (focusOn missionId status
          advertising.mgr.missions)[missionId]? =
            some { status with isFocused := true } := by
        unfold focusOn
        rw [OrderedMap.getElem?_insert_eq, if_pos rfl]
      dsimp only
      rw [onMissionStatusChanged_some hfocused]
      apply hcurrent.post
      · exact hcurrent.keyed.focusOn hid hvalid
      · rfl
      · rfl
      · intro sent hsent _
        obtain ⟨hsentId, hallowed, _, hquery⟩ := of_mem_broadcastOf hsent
        rw [hsentId, hid]
        exact ⟨_, hfocused, rfl, canAppear_of_isAllowed hallowed hquery⟩
      · intro hnone sent hsent happear _
        -- nothing is sent for the mission, so nothing was advertised
        have hcannot : canAppear conditions status = false := by
          by_contra happears
          have happears := Bool.not_eq_false _ ▸ happears
          obtain ⟨hallowed, hquery⟩ := Bool.and_eq_true_iff.mp happears
          obtain ⟨payload, hsome⟩ := @exists_broadcastOf conditions
            { status with isFocused := true } .focused
            (settled conditions advertising).1 .appear hallowed rfl hquery
          rw [hnone] at hsome
          cases hsome
        exact absurd happear (hadvertised hcannot sent hsent)

theorem Current.disappear {missionId : Int32} {type : MissionEventType}
    {missions : Std.TreeMap Int32 MissionStatus}
    (hstrategy : ∀ status unfoMissionId,
      (executeSendStrategy conditions status unfoMissionId type).1 =
        some .disappear) (hkeyed : Keyed missions)
    (hother : ∀ found, found ≠ missionId →
      missions[found]? = advertising.mgr.missions[found]?)
    (hunknown : advertising.mgr.missions[missionId]? = none →
      missions[missionId]? = none) :
    Current conditions {
      mgr := { onMissionStatusChanged missionId type advertising.mgr with
        missions := missions }
      last := advertising.last } := by
  cases hstatus : advertising.mgr.missions[missionId]? with
  | none =>
      rw [onMissionStatusChanged_none hstatus]
      exact hcurrent.ofUnknown hstatus (hunknown hstatus) hother
  | some status =>
      rw [onMissionStatusChanged_some hstatus]
      apply hcurrent.post
      · exact hkeyed
      · rfl
      · rfl
      · intro sent hsent happear
        obtain ⟨_, _, hsendType, _⟩ := of_mem_broadcastOf hsent
        rw [hstrategy, happear] at hsendType
        cases hsendType
      · intro hnone sent _ _ hadvertisable
        apply hadvertisable.congr
        apply hother
        exact ne_of_broadcastOf_eq_none hstatus rfl rfl (hstrategy _ _) hnone
          hadvertisable

theorem Current.missionUnfocused (hscreen : conditions.isScreenLocked = false)
    (missionId : Int32) :
    Current conditions {
      mgr := onMissionUnfocused missionId advertising.mgr
      last := advertising.last } := by
  unfold onMissionUnfocused
  dsimp only
  rw [missions_onMissionStatusChanged]
  apply hcurrent.disappear
  · intro status unfoMissionId
    unfold executeSendStrategy
    dsimp only
    rw [hscreen]
    rfl
  · exact hcurrent.keyed.modify missionId fun _ => rfl
  · exact fun found hne => getElem?_modify_ne hne _
  · intro hstatus
    rw [Std.TreeMap.getElem?_modify_self, hstatus]
    rfl

theorem Current.missionDestroyed (missionId : Int32) :
    Current conditions {
      mgr := onMissionDestroyed missionId advertising.mgr
      last := advertising.last } := by
  unfold onMissionDestroyed
  dsimp only
  rw [missions_onMissionStatusChanged]
  apply hcurrent.disappear
  · exact fun _ _ => rfl
  · exact hcurrent.keyed.erase missionId
  · intro found hne
    rw [OrderedMap.getElem?_erase_eq, if_neg hne.symm]
  · intro _
    rw [OrderedMap.getElem?_erase_eq, if_pos rfl]

end Current

theorem setMissionContinueState_some {missionId : Int32} {status : MissionStatus}
    (hstatus : mgr.missions[missionId]? = some status) (state : ContinueState) :
    setMissionContinueState missionId state mgr = { mgr with
      missions := mgr.missions.modify missionId fun status =>
        { status with continueState := state }
      timeouts := mgr.timeouts.erase missionId
      posted := mgr.posted ++ [.missionStatus
        { status with continueState := state }
        (match state with
          | .active => .active
          | .inactive => .inactive)] } := by
  unfold DMSContinueSendMgr.setMissionContinueState
  dsimp only
  exact onMissionStatusChanged_some (getElem?_modify_self hstatus _) _

section Marking

variable (hcurrent : Current conditions advertising) {missionId : Int32}
  {status : MissionStatus}
  (hstatus : advertising.mgr.missions[missionId]? = some status)

include hcurrent hstatus

theorem Current.setActive :
    Current conditions {
      mgr := setMissionContinueState missionId .active advertising.mgr
      last := advertising.last } := by
  have hchanged := getElem?_modify_self hstatus
    fun status => { status with continueState := .active }
  have hid := (hcurrent.keyed missionId status hstatus).1
  rw [setMissionContinueState_some hstatus]
  apply hcurrent.post
  · exact hcurrent.keyed.modify missionId fun _ => rfl
  · rfl
  · rfl
  · intro sent hsent _
    obtain ⟨hsentId, hallowed, _, hquery⟩ := of_mem_broadcastOf hsent
    obtain ⟨hfocused, hallowed⟩ := of_isAllowed_active hallowed rfl
    rw [hsentId, hid]
    exact ⟨_, hchanged, hfocused, canAppear_of_isAllowed hallowed hquery⟩
  · intro hnone sent _ _ hadvertisable
    apply hadvertisable.congr
    apply getElem?_modify_ne
    exact ne_of_broadcastOf_eq_none hstatus (by rfl) (by rfl) (by rfl) hnone
      hadvertisable

theorem Current.setInactive
    (hcovered : advertising.Covered conditions
      (.continueState missionId .inactive)) :
    Current conditions {
      mgr := setMissionContinueState missionId .inactive advertising.mgr
      last := advertising.last } := by
  have hid := (hcurrent.keyed missionId status hstatus).1
  rw [setMissionContinueState_some hstatus]
  apply hcurrent.post
  · exact hcurrent.keyed.modify missionId fun _ => rfl
  · rfl
  · rfl
  · intro sent hsent happear
    obtain ⟨_, _, hsendType, _⟩ := of_mem_broadcastOf hsent
    rw [happear] at hsendType
    exact absurd hsendType (inactive_ne_appear conditions _ _)
  · intro hnone sent hsettled happear hadvertisable
    apply hadvertisable.congr
    apply getElem?_modify_ne
    -- for the mission that the handler holds, a disappearance is sent
    intro heq
    have hheld := hcovered sent hsettled happear heq
    apply ne_of_broadcastOf_eq_none hstatus (by rfl) (by rfl) _ hnone
      hadvertisable heq
    · exact .disappear
    · unfold executeSendStrategy
      dsimp only
      rw [hid, hheld]
      exact if_neg (not_not.mpr rfl)

end Marking

theorem Current.setMissionContinueState
    (hcurrent : Current conditions advertising) {missionId : Int32}
    {state : ContinueState}
    (hcovered : advertising.Covered conditions
      (.continueState missionId state)) :
    Current conditions {
      mgr := setMissionContinueState missionId state advertising.mgr
      last := advertising.last } := by
  cases hstatus : advertising.mgr.missions[missionId]? with
  | none =>
      have hstill : (advertising.mgr.missions.modify missionId fun status =>
          { status with continueState := state })[missionId]? = none := by
        rw [Std.TreeMap.getElem?_modify_self, hstatus]
        rfl
      unfold DMSContinueSendMgr.setMissionContinueState
      dsimp only
      rw [onMissionStatusChanged_none hstill]
      exact hcurrent.ofUnknown hstatus hstill
        fun _ hne => getElem?_modify_ne hne _
  | some status =>
      cases state with
      | active => exact hcurrent.setActive hstatus
      | inactive => exact hcurrent.setInactive hstatus hcovered

/-! ## Tasks -/

theorem Current.send (hcurrent : Current conditions advertising)
    {next : DMSContinueSendMgr} {sent : Option SentBroadcast}
    (hmissions : next.missions = advertising.mgr.missions)
    (hunfo : next.unfoMissionId = advertising.mgr.unfoMissionId)
    (hposted : ∀ settled, settle conditions next.posted settled =
      settle conditions advertising.mgr.posted settled)
    (hsent : ∀ now ∈ sent, now.type = .appear →
      Advertisable conditions next.missions now.missionId) :
    Current conditions { mgr := next, last := sent.or advertising.last } where
  keyed := by
    rw [hmissions]
    exact hcurrent.keyed
  advertised := by
    intro now hsettled happear
    unfold settled at hsettled
    dsimp only at hsettled
    rw [hunfo, hposted] at hsettled
    rcases mem_settle_or hsettled with hnow | hbefore
    · exact hsent now hnow happear
    · dsimp only
      rw [hmissions]
      exact hcurrent.advertised now hbefore happear

theorem getCurrentFocusedMission_isFocused (hkeyed : Keyed mgr.missions)
    {status : MissionStatus}
    (hstatus : mgr.missions[mgr.getCurrentFocusedMission]? = some status) :
    status.isFocused = true := by
  unfold getCurrentFocusedMission at hstatus
  cases hfound : mgr.missions.toList.find? fun record =>
      record.2.isFocused with
  | none =>
      rw [hfound] at hstatus
      exact absurd rfl (hkeyed _ status hstatus).2
  | some record =>
      rw [hfound] at hstatus
      have hmem := List.mem_of_find?_eq_some hfound
      have hfocused := List.find?_some hfound
      rw [Std.TreeMap.mem_toList_iff_getElem?_eq_some.mp hmem] at hstatus
      cases hstatus
      exact hfocused

theorem Current.sendCurrentBroadcast (hcurrent : Current conditions advertising)
    {missionId : Int32} {type : MissionEventType}
    (hmissions : mgr.missions = advertising.mgr.missions)
    (hunfo : mgr.unfoMissionId = advertising.mgr.unfoMissionId)
    (hposted : ∀ settled, settle conditions mgr.posted settled =
      settle conditions advertising.mgr.posted settled)
    (hkeeps : ∀ status,
      (broadcastOf conditions status type mgr.unfoMissionId).2 =
        mgr.unfoMissionId)
    (hsent : ∀ status, mgr.missions[missionId]? = some status →
      ∀ sent ∈ (broadcastOf conditions status type mgr.unfoMissionId).1,
        sent.type = .appear →
        Advertisable conditions mgr.missions sent.missionId) :
    Current conditions {
      mgr := (sendCurrentBroadcast conditions missionId type mgr).2
      last := (sendCurrentBroadcast conditions missionId type mgr).1.or
        advertising.last } := by
  unfold DMSContinueSendMgr.sendCurrentBroadcast
  cases hstatus : mgr.missions[missionId]? with
  | none => exact hcurrent.send hmissions hunfo hposted (by simp)
  | some status =>
      apply hcurrent.send
      · exact hmissions
      · exact (hkeeps status).trans hunfo
      · exact hposted
      · exact hsent status hstatus

theorem Current.runTask (hcurrent : Current conditions advertising) :
    Current conditions {
      mgr := (advertising.mgr.runTask conditions).2
      last := (advertising.mgr.runTask conditions).1.or advertising.last } := by
  unfold DMSContinueSendMgr.runTask
  cases hposted : advertising.mgr.posted with
  | nil => exact hcurrent
  | cons task rest =>
      cases task with
      | missionStatus status type =>
          constructor
          · exact hcurrent.keyed
          · intro sent hsettled happear
            apply hcurrent.advertised sent _ happear
            unfold settled
            rw [hposted]
            exact hsettled
      | mmi =>
          apply hcurrent.sendCurrentBroadcast
          · rfl
          · rfl
          · intro settled
            rw [hposted]
            rfl
          · exact fun status => broadcastOf_mmi_snd conditions status _
          · intro status hstatus sent hsent _
            obtain ⟨hsentId, hallowed, _, hquery⟩ := of_mem_broadcastOf hsent
            have hid := (hcurrent.keyed _ status hstatus).1
            have hfocused := getCurrentFocusedMission_isFocused hcurrent.keyed
              hstatus
            rw [hsentId, hid]
            exact ⟨status, hstatus, hfocused,
              canAppear_of_isAllowed hallowed hquery⟩

theorem Current.runTimeout (hcurrent : Current conditions advertising)
    (missionId : Int32) :
    Current conditions {
      mgr := (advertising.mgr.runTimeout conditions missionId).2
      last := (advertising.mgr.runTimeout conditions missionId).1.or
        advertising.last } := by
  unfold DMSContinueSendMgr.runTimeout
  split_ifs
  · apply hcurrent.sendCurrentBroadcast
    · rfl
    · rfl
    · exact fun _ => rfl
    · exact fun status => broadcastOf_timeout_snd conditions status _
    · intro status _ sent hsent happear
      obtain ⟨_, _, hsendType, _⟩ := of_mem_broadcastOf hsent
      cases hsendType.trans (congrArg some happear)
  · exact hcurrent

theorem Current.step (hcurrent : Current conditions advertising)
    (hscreen : conditions.isScreenLocked = false) {event : SendEvent}
    (hcovered : advertising.Covered conditions event) :
    Current conditions (advertising.step conditions event).2 := by
  cases event with
  | missionFocused missionId info => exact hcurrent.missionFocused hcovered
  | missionUnfocused missionId =>
      exact hcurrent.missionUnfocused hscreen missionId
  | missionDestroyed missionId => exact hcurrent.missionDestroyed missionId
  | continueState missionId state =>
      exact hcurrent.setMissionContinueState hcovered
  | mmi =>
      constructor
      · exact hcurrent.keyed
      · intro sent hsettled happear
        apply hcurrent.advertised sent _ happear
        unfold settled settle at hsettled ⊢
        dsimp only [Advertising.step, DMSContinueSendMgr.step] at hsettled
        rw [List.foldl_append] at hsettled
        exact hsettled
  | runTask => exact hcurrent.runTask
  | runTimeout missionId => exact hcurrent.runTimeout missionId

end Events

/-! ## Runs -/

/-- In every run whose focus events and inactive states are covered, a mission
whose appearance was sent last, with no task left, has the focus and can be
continued. -/
theorem noStale_run (conditions : SendConditions)
    (hscreen : conditions.isScreenLocked = false)
    (missions : List (Int32 × MissionInfo))
    (hids : ∀ mission ∈ missions, mission.1 ≠ invalidMissionId)
    (focusedMissionId : Int32) (events : List SendEvent)
    (hcovered : EventRun.Meets (step conditions) (Covered conditions)
      (initial missions focusedMissionId) events) :
    (EventRun.run (step conditions) (initial missions focusedMissionId)
      events).2.NoStale := by
  have hcurrent := hcovered.invariant
    (fun _ _ hcurrent hstep => hcurrent.step hscreen hstep)
    (current_initial conditions hids focusedMissionId)
  exact hcurrent.noStale

def sampleConditions : SendConditions where
  queryIds := fun _ _ => some (1, 0)

def mail : MissionInfo where
  bundleName := "mail".toList
  abilityName := "Main".toList

def clock : MissionInfo where
  bundleName := "clock".toList
  abilityName := "Main".toList
  continuable := false

/-- A mission is advertised by its focus, by an input event and as the next one
behind another; it ends with a timeout, with the focus, with the mission, and
with an inactive state while the screen-locked handler holds it. -/
def sampleAdvertising : List SendEvent :=
  [.missionFocused 1 none, .runTask, .runTimeout 1, .mmi, .runTask,
    .missionUnfocused 1, .mmi, .missionFocused 2 (some mail), .runTask,
    .runTask, .runTask, .missionDestroyed 2, .runTask,
    .missionFocused 3 (some clock), .missionUnfocused 3, .runTask, .runTask,
    .missionFocused 1 none, .missionUnfocused 1, .continueState 1 .inactive,
    .missionFocused 1 none, .continueState 1 .active, .runTask, .runTask,
    .runTask, .runTask, .runTask, .continueState 1 .inactive, .runTask]

theorem noStale_sampleAdvertising :
    (EventRun.run (step sampleConditions) (initial [(1, mail)] 1)
      sampleAdvertising).2.NoStale :=
  noStale_run sampleConditions rfl [(1, mail)] (by decide) 1 sampleAdvertising
    (by decide +kernel)

def inactiveMission : List SendEvent :=
  [.missionFocused 1 none, .runTask, .continueState 1 .inactive, .runTask]

/-- A mission that cannot be continued takes the focus before the advertised one
is told to lose it. -/
def coveredMission : List SendEvent :=
  [.missionFocused 1 none, .runTask, .missionFocused 2 (some clock), .runTask,
    .missionUnfocused 1, .runTask]

theorem not_noStale_inactiveMission :
    ¬ (EventRun.run (step sampleConditions) (initial [(1, mail)] 1)
        inactiveMission).2.NoStale ∧
      ¬ (EventRun.run (step sampleConditions) (initial [(1, mail)] 1)
        coveredMission).2.NoStale := by
  decide +kernel

end Advertising

end DMSContinueSendMgr

end Dmsfwk
