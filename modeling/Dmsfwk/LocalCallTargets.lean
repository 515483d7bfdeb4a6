import Dmsfwk.DSchedContinueManager

/-!
# The continuations which local calls reach

An ability which has been started, and an ability which is to be continued, call
the manager for their continuation.  Both look-ups take the first continuation
in the order of the keys which fits a part of its identity, and neither looks at
the mission.
-/

namespace Dmsfwk

namespace ContinueManager

open Continuation OrderedMap

/-! ## The look-ups of the manager -/

/-- A continuation, with the bundle of the ability which its `DATA` command has
started. -/
structure LocalContinuation where
  continuation : DSchedContinue
  startedBundle : Option Text
  deriving DecidableEq

abbrev Continues := Std.TreeMap Text (Option LocalContinuation)

namespace LocalContinuation

def info (entry : LocalContinuation) : DSchedContinueInfo :=
  entry.continuation.continueInfo

def post (entry : LocalContinuation) (event : Event) : LocalContinuation :=
  { entry with continuation := entry.continuation.post event }

theorem post_ne (entry : LocalContinuation) (event : Event) :
    entry.post event ≠ entry := by
  intro heq
  have hqueue := congrArg
    (fun entry : LocalContinuation => entry.continuation.queue.length) heq
  simp [post, DSchedContinue.post] at hqueue

end LocalContinuation

def fits (test : DSchedContinueInfo → Bool) :
    Option LocalContinuation → Bool
  | some entry => test entry.info
  | none => false

structure ContinueElement where
  deviceId : Text
  bundleName : Text
  want : SavedWant
  deriving DecidableEq

structure LocalDevice where
  deviceId : Text
  getLocalDeviceId : Bool
  getDeviceInfoById : Text → Bool

namespace Continues

def getDSchedContinueByDevId (continues : Continues) (deviceId : Text)
    (_missionId : ℤ) : Option (Text × Option LocalContinuation) :=
  firstMatch continues
    (fits fun info => deviceId = info.sourceDeviceId)

def handleNotifyCompleteContinuation (continues : Continues)
    (deviceId : Text) (missionId : ℤ) (isSuccess : Bool)
    (callerBundleName : Text) : Continues :=
  match continues.getDSchedContinueByDevId deviceId missionId with
  | some (key, some entry) =>
      if entry.info.sinkBundleName ≠ callerBundleName then continues
      else continues.insert key (some { entry with
        continuation := (entry.continuation.onNotifyComplete
          (DSchedContinue.completionResult missionId isSuccess)).2 })
  | _ => continues

def getDSchedContinueByWant (device : LocalDevice) (continues : Continues)
    (want : ContinueElement) (_missionId : ℤ) :
    Option (Text × Option LocalContinuation) :=
  if !device.getLocalDeviceId then none
  else firstMatch continues (fits fun info =>
    device.deviceId = info.sourceDeviceId ∧
      want.bundleName = info.sourceBundleName ∧
      want.deviceId = info.sinkDeviceId)

def handleStartContinuation (device : LocalDevice) (continues : Continues)
    (want : ContinueElement) (missionId status : ℤ) : Continues :=
  match continues.getDSchedContinueByWant device want missionId with
  | some (key, some entry) =>
      continues.insert key (some { entry with
        continuation :=
          entry.continuation.onStartContinuation status want.want })
  | _ => continues

def startContinuation (device : LocalDevice) (continues : Continues)
    (want : ContinueElement) (missionId status : ℤ) : ℤ × Continues :=
  if !device.getDeviceInfoById want.deviceId then
    (invalidRemoteParametersErr, continues)
  else if (continues.getDSchedContinueByWant device want missionId).isNone then
    (invalidRemoteParametersErr, continues)
  else (errOk, continues.handleStartContinuation device want missionId status)

/-! ## What the callers ask for -/

/-- The event has been posted to the continuation of the key, and to no other
one. -/
def Posted (continues next : Continues) (key : Text)
    (entry : LocalContinuation) (event : Event) : Prop :=
  ∀ found : Text, next[found]? =
    if key = found then some (some (entry.post event)) else continues[found]?

/-- The completion of a started ability is posted to its own continuation. -/
def CompletesOwn (continues : Continues) : Prop :=
  ∀ (key : Text) (entry : LocalContinuation) (bundle : Text),
    continues[key]? = some (some entry) →
    entry.continuation.state = .sinkWaitEnd →
    entry.startedBundle = some bundle →
      ∀ missionId > 0, Posted continues
        (continues.handleNotifyCompleteContinuation entry.info.sourceDeviceId
          missionId true bundle) key entry (.complete errOk)

def startEvent (want : SavedWant) (status : ℤ) : Event :=
  if status ≠ errOk then .ended status else .sendData want

/-- The start of a mission of this device is posted to a continuation of the
mission. -/
def StartsOwn (device : LocalDevice) (continues : Continues) : Prop :=
  ∀ (key : Text) (entry : LocalContinuation),
    continues[key]? = some (some entry) →
    entry.info.sourceDeviceId = device.deviceId →
      ∀ (want : SavedWant) (status : ℤ),
        ∃ (target : Text) (other : LocalContinuation),
          continues[target]? = some (some other) ∧
          other.info.missionId = entry.info.missionId ∧
          Posted continues
            (continues.startContinuation device
              ⟨entry.info.sinkDeviceId, entry.info.sourceBundleName, want⟩
              entry.info.missionId status).2
            target other (startEvent want status)

/-- A continuation from the same bundle of the same device to the same sink. -/
def sameRoute (info other : DSchedContinueInfo) : Bool :=
  info.sourceDeviceId = other.sourceDeviceId ∧
    info.sourceBundleName = other.sourceBundleName ∧
    info.sinkDeviceId = other.sinkDeviceId

theorem sameRoute_self (info : DSchedContinueInfo) :
    sameRoute info info = true := by
  simp [sameRoute]

def Leads (continues : Continues) (test : DSchedContinueInfo → Bool)
    (key : Text) : Prop :=
  ∀ (other : Text) (found : LocalContinuation),
    continues[other]? = some (some found) → test found.info = true →
      (compare key other).isLE

/-! ## One look-up -/

section LookUps

variable {continues : Continues} {test : DSchedContinueInfo → Bool}
  {key : Text} {entry : LocalContinuation}

theorem firstMatch_fits_iff :
    firstMatch continues (fits test) = some (key, some entry) ↔
      continues[key]? = some (some entry) ∧ test entry.info = true ∧
        continues.Leads test key := by
  rw [firstMatch_eq_some_iff]
  refine and_congr_right fun _ => and_congr_right fun _ => ?_
  constructor
  · intro hleast other found hfound htest
    exact hleast other (some found) hfound htest
  · intro hleads other found hfound htest
    cases found with
    | none => cases htest
    | some found => exact hleads other found hfound htest

theorem exists_firstMatch (hentry : continues[key]? = some (some entry))
    (htest : test entry.info = true) :
    ∃ (first : Text) (found : LocalContinuation),
      firstMatch continues (fits test) = some (first, some found) := by
  cases hfirst : firstMatch continues (fits test) with
  | none =>
      have hfails := firstMatch_eq_none.mp hfirst key (some entry) hentry
      change test entry.info = false at hfails
      rw [hfails] at htest
      cases htest
  | some entry =>
      obtain ⟨first, found⟩ := entry
      cases found with
      | none =>
          have hfits := (firstMatch_spec hfirst).2.1
          cases hfits
      | some found => exact ⟨first, found, rfl⟩

theorem posted_insert (continues : Continues) (key : Text)
    (entry : LocalContinuation) (event : Event) :
    Posted continues (continues.insert key (some (entry.post event))) key entry
      event :=
  fun found => getElem?_insert_eq key found _

theorem not_posted_self {event : Event}
    (hentry : continues[key]? = some (some entry)) :
    ¬Posted continues continues key entry event := by
  intro hposted
  have hself := hposted key
  rw [if_pos rfl, hentry] at hself
  exact entry.post_ne event (Option.some.inj (Option.some.inj hself)).symm

theorem posted_unique {other : Text} {found : LocalContinuation}
    {event more : Event} {next : Continues}
    (hentry : continues[key]? = some (some entry))
    (hposted : Posted continues next key entry event)
    (hother : Posted continues next other found more) : key = other := by
  by_contra hne
  have hself := hposted key
  rw [if_pos rfl, hother key, if_neg (Ne.symm hne), hentry] at hself
  exact entry.post_ne event (Option.some.inj (Option.some.inj hself)).symm

end LookUps

/-! ## Completions -/

theorem post_complete (entry : LocalContinuation) (result : ℤ) :
    { entry with
      continuation := (entry.continuation.onNotifyComplete result).2 } =
      entry.post (.complete result) := rfl

section Targets

variable {continues : Continues} {device : LocalDevice}
  {key : Text} {entry : LocalContinuation}

theorem completion_cases (continues : Continues) (deviceId bundle : Text)
    {missionId : ℤ} (hmission : 0 < missionId) :
    (∃ (first : Text) (found : LocalContinuation),
      firstMatch continues (fits fun info => deviceId = info.sourceDeviceId) =
          some (first, some found) ∧
        found.info.sinkBundleName = bundle ∧
        Posted continues (continues.handleNotifyCompleteContinuation deviceId
          missionId true bundle) first found (.complete errOk)) ∨
    (continues.handleNotifyCompleteContinuation deviceId missionId true bundle =
        continues ∧
      ∀ (first : Text) (found : LocalContinuation),
        firstMatch continues
            (fits fun info => deviceId = info.sourceDeviceId) =
          some (first, some found) → found.info.sinkBundleName ≠ bundle) := by
  have hresult : DSchedContinue.completionResult missionId true = errOk := by
    unfold DSchedContinue.completionResult
    rw [if_neg (by simp), if_neg (Int.not_le.mpr hmission)]
  unfold handleNotifyCompleteContinuation getDSchedContinueByDevId
  rw [hresult]
  cases hfirst : firstMatch continues
      (fits fun info => deviceId = info.sourceDeviceId) with
  | none =>
      refine .inr ⟨rfl, ?_⟩
      rintro _ _ ⟨⟩
  | some pair =>
      obtain ⟨first, found⟩ := pair
      cases found with
      | none =>
          refine .inr ⟨rfl, ?_⟩
          rintro _ _ ⟨⟩
      | some found =>
          dsimp only
          by_cases hbundle : found.info.sinkBundleName = bundle
          · rw [if_neg (by simpa using hbundle), post_complete]
            exact .inl ⟨first, found, rfl, hbundle,
              posted_insert continues first found _⟩
          · rw [if_pos hbundle]
            refine .inr ⟨rfl, ?_⟩
            rintro _ _ ⟨⟩
            exact hbundle

theorem completesOwn_iff :
    CompletesOwn continues ↔
      ∀ (key : Text) (entry : LocalContinuation) (bundle : Text),
        continues[key]? = some (some entry) →
        entry.continuation.state = .sinkWaitEnd →
        entry.startedBundle = some bundle →
          entry.info.sinkBundleName = bundle ∧
            continues.Leads
              (fun info => entry.info.sourceDeviceId = info.sourceDeviceId)
              key := by
  refine forall₃_congr fun key entry bundle => ?_
  refine forall₃_congr fun hentry _ _ => ?_
  constructor
  · intro hposted
    have hone := hposted 1 Int.one_pos
    rcases completion_cases continues entry.info.sourceDeviceId bundle
      Int.one_pos with ⟨first, found, hfirst, hbundle, hother⟩ | ⟨hsame, -⟩
    · obtain rfl := posted_unique hentry hone hother
      obtain ⟨hfound, -, hleads⟩ := firstMatch_fits_iff.mp hfirst
      rw [hentry] at hfound
      obtain rfl := Option.some.inj (Option.some.inj hfound)
      exact ⟨hbundle, hleads⟩
    · rw [hsame] at hone
      exact absurd hone (not_posted_self hentry)
  · rintro ⟨hbundle, hleads⟩ missionId hmission
    have hown := firstMatch_fits_iff.mpr ⟨hentry, decide_eq_true rfl, hleads⟩
    rcases completion_cases continues entry.info.sourceDeviceId bundle
      hmission with ⟨first, found, hfirst, -, hposted⟩ | ⟨-, hother⟩
    · rw [hown] at hfirst
      obtain ⟨rfl, heq⟩ := Prod.mk.inj (Option.some.inj hfirst)
      obtain rfl := Option.some.inj heq
      exact hposted
    · exact absurd hbundle (hother key entry hown)

/-! ## Starts -/

theorem post_startEvent (entry : LocalContinuation) (want : SavedWant)
    (status : ℤ) :
    { entry with
      continuation := entry.continuation.onStartContinuation status want } =
      entry.post (startEvent want status) := by
  unfold DSchedContinue.onStartContinuation startEvent LocalContinuation.post
  split_ifs <;> rfl

theorem getDSchedContinueByWant_eq (want : SavedWant) (missionId : ℤ)
    (hlocal : entry.info.sourceDeviceId = device.deviceId)
    (hread : device.getLocalDeviceId = true) :
    continues.getDSchedContinueByWant device
        ⟨entry.info.sinkDeviceId, entry.info.sourceBundleName, want⟩ missionId =
      firstMatch continues (fits (sameRoute entry.info)) := by
  unfold getDSchedContinueByWant sameRoute
  rw [if_neg (by simp [hread]), hlocal]

theorem start_cases (hentry : continues[key]? = some (some entry))
    (hlocal : entry.info.sourceDeviceId = device.deviceId)
    (want : SavedWant) (missionId status : ℤ) :
    (∃ (first : Text) (found : LocalContinuation),
      firstMatch continues (fits (sameRoute entry.info)) =
          some (first, some found) ∧
        (device.getLocalDeviceId = true ∧
          device.getDeviceInfoById entry.info.sinkDeviceId = true) ∧
        Posted continues (continues.startContinuation device
          ⟨entry.info.sinkDeviceId, entry.info.sourceBundleName, want⟩
          missionId status).2 first found (startEvent want status)) ∨
    ((continues.startContinuation device
        ⟨entry.info.sinkDeviceId, entry.info.sourceBundleName, want⟩
        missionId status).2 = continues ∧
      ¬(device.getLocalDeviceId = true ∧
        device.getDeviceInfoById entry.info.sinkDeviceId = true)) := by
  unfold startContinuation
  by_cases hknows : device.getDeviceInfoById entry.info.sinkDeviceId = true
  · rw [if_neg (by simp [hknows])]
    by_cases hread : device.getLocalDeviceId = true
    · obtain ⟨first, found, hfirst⟩ := exists_firstMatch hentry
        (sameRoute_self entry.info)
      have hwant := @getDSchedContinueByWant_eq continues device entry want
        missionId hlocal hread
      refine .inl ⟨first, found, hfirst, ⟨hread, hknows⟩, ?_⟩
      unfold handleStartContinuation
      rw [hwant, hfirst, if_neg (by simp)]
      dsimp only
      rw [post_startEvent]
      exact posted_insert continues first found _
    · have hnone : continues.getDSchedContinueByWant device
          ⟨entry.info.sinkDeviceId, entry.info.sourceBundleName, want⟩
          missionId = none := by
        unfold getDSchedContinueByWant
        rw [if_pos (by simpa using hread)]
      rw [hnone, if_pos Option.isNone_none]
      exact .inr ⟨rfl, fun h => hread h.1⟩
  · rw [if_pos (by simpa using hknows)]
    exact .inr ⟨rfl, fun h => hknows h.2⟩

theorem startsOwn_iff :
    StartsOwn device continues ↔
      ∀ (key : Text) (entry : LocalContinuation),
        continues[key]? = some (some entry) →
        entry.info.sourceDeviceId = device.deviceId →
          (device.getLocalDeviceId = true ∧
            device.getDeviceInfoById entry.info.sinkDeviceId = true) ∧
          ∀ (first : Text) (found : LocalContinuation),
            continues[first]? = some (some found) →
            sameRoute entry.info found.info = true →
            continues.Leads (sameRoute entry.info) first →
              found.info.missionId = entry.info.missionId := by
  refine forall₂_congr fun key entry => forall₂_congr fun hentry hlocal => ?_
  constructor
  · intro hstarts
    obtain ⟨target, other, hother, hmission, hposted⟩ :=
      hstarts ⟨none, true⟩ errOk
    rcases start_cases hentry hlocal ⟨none, true⟩ entry.info.missionId errOk
      with ⟨first, found, hfirst, hknown, hgot⟩ | ⟨hsame, -⟩
    · refine ⟨hknown, fun lead leading hlead hfits hleads => ?_⟩
      have hunique := firstMatch_fits_iff.mpr ⟨hlead, hfits, hleads⟩
      rw [hfirst] at hunique
      obtain ⟨rfl, heq⟩ := Prod.mk.inj (Option.some.inj hunique)
      obtain rfl := Option.some.inj heq
      obtain rfl := posted_unique hother hposted hgot
      rw [hother] at hlead
      obtain rfl := Option.some.inj (Option.some.inj hlead)
      exact hmission
    · rw [hsame] at hposted
      exact absurd hposted (not_posted_self hother)
  · rintro ⟨hknown, hfirst⟩ want status
    rcases start_cases hentry hlocal want entry.info.missionId status with
      ⟨first, found, hfound, -, hposted⟩ | ⟨-, hunknown⟩
    · obtain ⟨hentry', hfits, hleads⟩ := firstMatch_fits_iff.mp hfound
      exact ⟨first, found, hentry', hfirst first found hentry' hfits hleads,
        hposted⟩
    · exact absurd hknown hunknown

/-- Local calls reach their own continuation exactly when every continuation
which waits for its ability has recorded the bundle and is the first one from
its source, and the first continuation of every route from this device has the
mission which is asked for. -/
theorem localCalls_iff (device : LocalDevice) (continues : Continues) :
    CompletesOwn continues ∧ StartsOwn device continues ↔
      (∀ (key : Text) (entry : LocalContinuation) (bundle : Text),
        continues[key]? = some (some entry) →
        entry.continuation.state = .sinkWaitEnd →
        entry.startedBundle = some bundle →
          entry.info.sinkBundleName = bundle ∧
            continues.Leads
              (fun info => entry.info.sourceDeviceId = info.sourceDeviceId)
              key) ∧
      ∀ (key : Text) (entry : LocalContinuation),
        continues[key]? = some (some entry) →
        entry.info.sourceDeviceId = device.deviceId →
          (device.getLocalDeviceId = true ∧
            device.getDeviceInfoById entry.info.sinkDeviceId = true) ∧
          ∀ (first : Text) (found : LocalContinuation),
            continues[first]? = some (some found) →
            sameRoute entry.info found.info = true →
            continues.Leads (sameRoute entry.info) first →
              found.info.missionId = entry.info.missionId :=
  and_congr completesOwn_iff startsOwn_iff

end Targets

/-! ## Two contents -/

/-- A pull which the sink has asked for by the id of a mission, once its ability
is started. -/
def startedById : LocalContinuation where
  continuation :=
    let requested := DSchedContinue.ofRequest .sink
      ((Manager.requestById ['d'] true {} true ['s'] ['d'] 5).getD
        ⟨[], [], [], [], [], 0⟩)
    let asked := (requested.step (.process {})).2
    ((asked.onDataRecv .data).step (.process {})).2
  startedBundle := some ['a']

def sinkContent : Continues :=
  (∅ : Continues).insert startedById.info.compareInfo (some startedById)

def pulled (sinkBundleName : Text) (missionId : ℤ) : LocalContinuation where
  continuation := DSchedContinue.ofStartCmd none
    ⟨['s'], ['a'], ['d'], sinkBundleName, [], missionId⟩ .pull .sink 1
  startedBundle := none

def sourceContent : Continues :=
  ((∅ : Continues).insert (pulled ['a'] 5).info.compareInfo
    (some (pulled ['a'] 5))).insert (pulled ['b'] 6).info.compareInfo
      (some (pulled ['b'] 6))

theorem not_localCalls_contents :
    ¬CompletesOwn sinkContent ∧
      ¬StartsOwn ⟨['s'], true, fun _ => true⟩ sourceContent := by
  constructor
  · intro hcompletes
    have hposted := hcompletes startedById.info.compareInfo startedById ['a']
      (by decide +kernel) (by decide +kernel) rfl 5 (by decide)
      startedById.info.compareInfo
    exact absurd hposted (by decide +kernel)
  · intro hstarts
    obtain ⟨target, other, hother, hmission, hposted⟩ :=
      hstarts (pulled ['b'] 6).info.compareInfo (pulled ['b'] 6)
        (by decide +kernel) rfl ⟨none, true⟩ errOk
    have hfirst := hposted (pulled ['a'] 5).info.compareInfo
    by_cases htarget : target = (pulled ['a'] 5).info.compareInfo
    · have hentry : sourceContent[(pulled ['a'] 5).info.compareInfo]? =
          some (some (pulled ['a'] 5)) := by
        decide +kernel
      rw [htarget, hentry] at hother
      obtain rfl := Option.some.inj (Option.some.inj hother)
      exact absurd hmission (by decide)
    · rw [if_neg htarget] at hfirst
      exact absurd hfirst (by decide +kernel)

end Continues

end ContinueManager

end Dmsfwk
