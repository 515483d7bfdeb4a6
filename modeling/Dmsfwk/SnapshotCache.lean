import Dmsfwk.ChannelManager
import Dmsfwk.DecimalText
import Dmsfwk.EventRun

/-!
# The snapshot cache

The mission manager caches the snapshots that other devices send, at most ten,
under a key made of the device and the mission.  A full cache gives up the
snapshot that was accessed longest ago, and all snapshots of a device go when
its missions are cleaned.  The theorems below say for which steps the cache does
no more than that.
-/

namespace Dmsfwk

structure CachedSnapshot (Content : Type) where
  content : Content
  createdTime : ℤ := 0
  lastAccessTime : ℤ := 0
  deriving DecidableEq, Repr

/-- `cachedSnapshotInfos_`, where a pointer can be null. -/
abbrev SnapshotCache (Content : Type) :=
  Std.TreeMap Text (Option (CachedSnapshot Content))

inductive SnapshotEvent (Content : Type) where
  | enqueue (deviceId : Text) (missionId : Int32)
      (snapshot : Option (CachedSnapshot Content))
  /-- `now` is the answer of `GetTickCount`. -/
  | dequeue (deviceId : Text) (missionId : Int32) (now : ℤ)
  /-- `uuid` is the answer of `GetUuidByNetworkId`. -/
  | delete (networkId uuid : Text)

namespace SnapshotCache

variable {Content : Type}

def maxCachedItem : ℕ := 10

def generateKeyInfo (devId : Text) (missionId : Int32) : Text :=
  devId ++ '_' :: DecimalText.ofInt missionId.toInt

/-- One round of the search for the oldest snapshot: `oldest` is -1 while there
is none. -/
def visit (found : ℤ × Option Text)
    (item : Text × Option (CachedSnapshot Content)) : ℤ × Option Text :=
  match item.2 with
  | none => found
  | some snapshot =>
      if found.1 = -1 ∨ snapshot.lastAccessTime < found.1 then
        (snapshot.lastAccessTime, some item.1)
      else found

def iterOldest (cache : SnapshotCache Content) : Option Text :=
  (cache.toList.foldl visit (-1, none)).2

def eraseOldest (cache : SnapshotCache Content) : SnapshotCache Content :=
  match iterOldest cache with
  | none => cache
  | some oldest => cache.erase oldest

def keepsCached (cached : Option (Option (CachedSnapshot Content)))
    (snapshot : CachedSnapshot Content) : Bool :=
  match cached with
  | none => false
  | some none => true
  | some (some old) => snapshot.createdTime < old.createdTime

def enqueueCachedSnapshotInfo (cache : SnapshotCache Content)
    (deviceId : Text) (missionId : Int32) :
    Option (CachedSnapshot Content) → SnapshotCache Content
  | none => cache
  | some snapshot =>
      let keyInfo := generateKeyInfo deviceId missionId
      if deviceId = [] then cache
      else if keepsCached cache[keyInfo]? snapshot then cache
      else
        (if cache.size = maxCachedItem then eraseOldest cache else cache).insert
          keyInfo (some snapshot)

def dequeueCachedSnapshotInfo (cache : SnapshotCache Content)
    (deviceId : Text) (missionId : Int32) (now : ℤ) :
    Option (CachedSnapshot Content) × SnapshotCache Content :=
  let keyInfo := generateKeyInfo deviceId missionId
  if deviceId = [] then (none, cache)
  else
    match cache[keyInfo]? with
    | none | some none => (none, cache)
    | some (some snapshot) =>
        (some { snapshot with lastAccessTime := now }, cache.erase keyInfo)

def deleteCachedSnapshotInfo (cache : SnapshotCache Content)
    (networkId uuid : Text) : SnapshotCache Content :=
  if networkId = [] ∨ uuid = [] then cache
  else cache.filter fun key _ => ¬ uuid <:+: key

def step (cache : SnapshotCache Content) :
    SnapshotEvent Content →
      Option (CachedSnapshot Content) × SnapshotCache Content
  | .enqueue deviceId missionId snapshot =>
      (none, enqueueCachedSnapshotInfo cache deviceId missionId snapshot)
  | .dequeue deviceId missionId now =>
      dequeueCachedSnapshotInfo cache deviceId missionId now
  | .delete networkId uuid =>
      (none, deleteCachedSnapshotInfo cache networkId uuid)

/-! ## What a step should do -/

structure WithinBounds (cache : SnapshotCache Content) : Prop where
  size_le : cache.size ≤ maxCachedItem
  ne_null : ∀ key : Text, cache[key]? ≠ some none
  keyed : ∀ key : Text, cache[key]? ≠ none →
    ∃ deviceId missionId, deviceId ≠ [] ∧
      key = generateKeyInfo deviceId missionId

def IsOldest (cache : SnapshotCache Content) (key : Text) : Prop :=
  ∀ (other : Text) (snapshot found : CachedSnapshot Content),
    cache[key]? = some (some snapshot) → cache[other]? = some (some found) →
    snapshot.lastAccessTime ≤ found.lastAccessTime

def Accepts (cache : SnapshotCache Content) (deviceId : Text)
    (missionId : Int32) (snapshot : CachedSnapshot Content) : Prop :=
  deviceId ≠ [] ∧
    ∀ old, cache[generateKeyInfo deviceId missionId]? = some (some old) →
      old.createdTime ≤ snapshot.createdTime

structure EnqueueRight (cache after : SnapshotCache Content) (key : Text) :
    Prop where
  never_earlier : ∀ old new : CachedSnapshot Content,
    cache[key]? = some (some old) → after[key]? = some (some new) →
    old.createdTime ≤ new.createdTime
  removes : ∀ other : Text, other ≠ key → after[other]? = cache[other]? ∨
    after[other]? = none ∧ cache[key]? = none ∧
      cache.size = maxCachedItem ∧ IsOldest cache other
  at_most_one : ∀ first second : Text, first ≠ key → second ≠ key →
    after[first]? ≠ cache[first]? → after[second]? ≠ cache[second]? →
    first = second

def KeepsCache (cache : SnapshotCache Content)
    (event : SnapshotEvent Content) : Prop :=
  WithinBounds (step cache event).2 ∧
    match event with
    | .enqueue deviceId missionId snapshot =>
        let key := generateKeyInfo deviceId missionId
        EnqueueRight cache (step cache event).2 key ∧
          ∀ accepted, snapshot = some accepted →
            Accepts cache deviceId missionId accepted →
            (step cache event).2[key]? = some (some accepted)
    | .dequeue .. => True
    | .delete networkId uuid =>
        ∀ deviceId missionId, deviceId ≠ [] →
          (step cache event).2[generateKeyInfo deviceId missionId]? =
            if networkId ≠ [] ∧ deviceId = uuid then none
            else cache[generateKeyInfo deviceId missionId]?

/-! ## The condition -/

/-- The search takes -1 for no snapshot: if that is the smallest time there is,
the last snapshot has it. -/
def NotMistaken (cache : SnapshotCache Content) : Prop :=
  (∃ (key : Text) (snapshot : CachedSnapshot Content),
    cache[key]? = some (some snapshot) ∧ snapshot.lastAccessTime = -1 ∧
    IsOldest cache key) →
  ∃ (key : Text) (snapshot : CachedSnapshot Content),
    cache.toList.getLast? = some (key, some snapshot) ∧
    snapshot.lastAccessTime = -1

/-- An accepted snapshot finds room, or is new to a full cache that can tell its
oldest, or is itself what the search for the oldest finds; the keys that hold
the uuid of a device are of the device. -/
def EventSound (cache : SnapshotCache Content) :
    SnapshotEvent Content → Prop
  | .enqueue deviceId missionId (some snapshot) =>
      Accepts cache deviceId missionId snapshot →
      cache.size = maxCachedItem →
      if cache[generateKeyInfo deviceId missionId]? = none then
        NotMistaken cache
      else iterOldest cache = some (generateKeyInfo deviceId missionId)
  | .delete networkId uuid =>
      networkId ≠ [] → uuid ≠ [] → ∀ deviceId missionId, deviceId ≠ [] →
        deviceId ≠ uuid →
        cache[generateKeyInfo deviceId missionId]? ≠ none →
        ¬ uuid <:+: generateKeyInfo deviceId missionId
  | _ => True

/-! ## The search for the oldest -/

section Search

def timeOf (item : Text × Option (CachedSnapshot Content)) : ℤ :=
  (item.2.map CachedSnapshot.lastAccessTime).getD 0

variable {items : List (Text × Option (CachedSnapshot Content))}

theorem visit_eq {item : Text × Option (CachedSnapshot Content)}
    (hitem : item.2 ≠ none) (found : ℤ × Option Text) :
    visit found item =
      if found.1 = -1 ∨ timeOf item < found.1 then (timeOf item, some item.1)
      else found := by
  unfold visit timeOf
  cases hsnapshot : item.2 with
  | none => exact absurd hsnapshot hitem
  | some snapshot => rfl

theorem foldl_visit_mem (hitems : ∀ item ∈ items, item.2 ≠ none)
    (hne : items ≠ []) :
    ∃ item ∈ items, items.foldl visit (-1, none) = (timeOf item, some item.1) := by
  induction items using List.reverseRecOn with
  | nil => exact absurd rfl hne
  | append_singleton items last ih =>
      have hlast := hitems last (by simp)
      rw [List.foldl_append, List.foldl_cons, List.foldl_nil, visit_eq hlast]
      split_ifs with htakes
      · exact ⟨last, by simp, rfl⟩
      · cases items with
        | nil => exact absurd (Or.inl rfl) htakes
        | cons first items =>
            obtain ⟨item, hmem, hfound⟩ := ih
              (fun item hmem => hitems item (List.mem_append_left _ hmem))
              (List.cons_ne_nil first items)
            exact ⟨item, List.mem_append_left _ hmem, hfound⟩

theorem neg_one_le_foldl_visit (hitems : ∀ item ∈ items, item.2 ≠ none)
    (htimes : ∀ item ∈ items, -1 ≤ timeOf item) :
    -1 ≤ (items.foldl visit (-1, none)).1 := by
  cases items with
  | nil => exact le_rfl
  | cons first items =>
      obtain ⟨item, hmem, hfound⟩ :=
        foldl_visit_mem hitems (List.cons_ne_nil first items)
      rw [hfound]
      exact htimes item hmem

section Round

variable {last : Text × Option (CachedSnapshot Content)}
  {found : ℤ × Option Text}

theorem visit_le (hlast : last.2 ≠ none)
    (hfound : ∀ item ∈ items, found.1 ≤ timeOf item)
    (hminus : found.1 = -1 → items = [] ∨ timeOf last ≤ -1) :
    ∀ item ∈ items ++ [last], (visit found last).1 ≤ timeOf item := by
  intro item hmem
  rw [List.mem_append, List.mem_singleton] at hmem
  rw [visit_eq hlast]
  split_ifs with htake
  · rcases hmem with hmem | rfl
    · have hitem := hfound item hmem
      rcases htake with hnone | hless
      · rcases hminus hnone with rfl | hlow
        · cases hmem
        · exact hlow.trans (hnone ▸ hitem)
      · exact hless.le.trans hitem
    · exact le_rfl
  · rcases hmem with hmem | rfl
    · exact hfound item hmem
    · omega

theorem visit_le_of_lt (hlast : last.2 ≠ none) (hlow : timeOf last < -1)
    (htimes : ∀ item ∈ items, -1 ≤ timeOf item) (hfound : -1 ≤ found.1) :
    ∀ item ∈ items ++ [last], (visit found last).1 ≤ timeOf item := by
  intro item hmem
  rw [List.mem_append, List.mem_singleton] at hmem
  rw [visit_eq hlast, if_pos (Or.inr (hlow.trans_le hfound))]
  rcases hmem with hmem | rfl
  · exact hlow.le.trans (htimes item hmem)
  · exact le_rfl

end Round

theorem foldl_visit_le (hitems : ∀ item ∈ items, item.2 ≠ none)
    (htimes : (∃ item ∈ items, timeOf item < -1) ∨
      ∀ item ∈ items, timeOf item ≠ -1) :
    ∀ item ∈ items, (items.foldl visit (-1, none)).1 ≤ timeOf item := by
  induction items using List.reverseRecOn with
  | nil => simp
  | append_singleton items last ih =>
      have hlast := hitems last (by simp)
      have hfront : ∀ item ∈ items, item.2 ≠ none :=
        fun item hmem => hitems item (List.mem_append_left _ hmem)
      rw [List.foldl_append, List.foldl_cons, List.foldl_nil]
      by_cases hsmall : ∃ item ∈ items, timeOf item < -1
      · have hle := ih hfront (Or.inl hsmall)
        refine visit_le hlast hle ?_
        intro hminus
        obtain ⟨small, hmem, hlow⟩ := hsmall
        have hfound := hle small hmem
        omega
      · simp only [not_exists, not_and, not_lt] at hsmall
        by_cases hlow : timeOf last < -1
        · exact visit_le_of_lt hlast hlow hsmall
            (neg_one_le_foldl_visit hfront hsmall)
        · have hnone : ∀ item ∈ items ++ [last], timeOf item ≠ -1 := by
            refine htimes.resolve_left ?_
            rintro ⟨item, hmem, hless⟩
            rw [List.mem_append, List.mem_singleton] at hmem
            rcases hmem with hmem | rfl
            · exact absurd hless (hsmall item hmem).not_gt
            · exact hlow hless
          have hle := ih hfront (Or.inr fun item hmem =>
            hnone item (List.mem_append_left _ hmem))
          refine visit_le hlast hle ?_
          intro hminus
          by_contra hnot
          obtain ⟨item, hmem, hfound⟩ :=
            foldl_visit_mem hfront fun hnil => hnot (Or.inl hnil)
          rw [hfound] at hminus
          exact hnone item (List.mem_append_left _ hmem) hminus

section Last

variable {last : Text × Option (CachedSnapshot Content)}

theorem foldl_visit_eq_iff (hitems : ∀ item ∈ items ++ [last], item.2 ≠ none)
    (htimes : ∀ item ∈ items ++ [last], -1 ≤ timeOf item) :
    ((items ++ [last]).foldl visit (-1, none)).1 = -1 ↔ timeOf last = -1 := by
  have hlast := htimes last (by simp)
  have hfold : -1 ≤ (items.foldl visit (-1, none)).1 :=
    neg_one_le_foldl_visit
      (fun item hmem => hitems item (List.mem_append_left _ hmem))
      (fun item hmem => htimes item (List.mem_append_left _ hmem))
  rw [List.foldl_append, List.foldl_cons, List.foldl_nil,
    visit_eq (hitems last (by simp))]
  split_ifs with htake
  · exact Iff.rfl
  · omega

theorem foldl_visit_le_iff
    (hitems : ∀ item ∈ items ++ [last], item.2 ≠ none) :
    (∀ item ∈ items ++ [last],
        ((items ++ [last]).foldl visit (-1, none)).1 ≤ timeOf item) ↔
      ((∃ item ∈ items ++ [last], timeOf item = -1) →
        (∀ item ∈ items ++ [last], -1 ≤ timeOf item) → timeOf last = -1) := by
  constructor
  · rintro hle ⟨item, hmem, hminus⟩ htimes
    have hfound := hle item hmem
    have hge := neg_one_le_foldl_visit hitems htimes
    exact (foldl_visit_eq_iff hitems htimes).mp (by omega)
  · intro hright
    by_cases htimes : (∃ item ∈ items ++ [last], timeOf item < -1) ∨
        ∀ item ∈ items ++ [last], timeOf item ≠ -1
    · exact foldl_visit_le hitems htimes
    · simp only [not_or, not_exists, not_and, not_lt, not_forall, not_not]
        at htimes
      obtain ⟨hge, other, hother, hminus⟩ := htimes
      have hlast := hright ⟨other, hother, hminus⟩ hge
      rw [(foldl_visit_eq_iff hitems hge).mpr hlast]
      exact hge

end Last

end Search

/-! ## The oldest of a full cache -/

section Oldest

variable {cache : SnapshotCache Content}

theorem ne_none_of_mem_toList (hbounds : WithinBounds cache)
    {item : Text × Option (CachedSnapshot Content)}
    (hitem : item ∈ cache.toList) : item.2 ≠ none := by
  intro hnull
  have hvalue := Std.TreeMap.mem_toList_iff_getElem?_eq_some.mp hitem
  rw [hnull] at hvalue
  exact hbounds.ne_null item.1 hvalue

theorem mem_toList_iff {key : Text} {snapshot : CachedSnapshot Content} :
    (key, some snapshot) ∈ cache.toList ↔ cache[key]? = some (some snapshot) :=
  Std.TreeMap.mem_toList_iff_getElem?_eq_some

theorem isOldest_iff (hbounds : WithinBounds cache) {key : Text}
    {snapshot : CachedSnapshot Content}
    (hsnapshot : cache[key]? = some (some snapshot)) :
    IsOldest cache key ↔
      ∀ item ∈ cache.toList, snapshot.lastAccessTime ≤ timeOf item := by
  constructor
  · intro holdest item hitem
    obtain ⟨found, hfound⟩ :=
      Option.ne_none_iff_exists'.mp (ne_none_of_mem_toList hbounds hitem)
    have hvalue := Std.TreeMap.mem_toList_iff_getElem?_eq_some.mp hitem
    rw [hfound] at hvalue
    rw [timeOf, hfound]
    exact holdest item.1 snapshot found hsnapshot hvalue
  · intro hle other old found hold hfound
    rw [hsnapshot] at hold
    cases hold
    exact hle (other, some found) (mem_toList_iff.mpr hfound)

theorem notMistaken_iff (hbounds : WithinBounds cache)
    {front : List (Text × Option (CachedSnapshot Content))}
    {last : Text × Option (CachedSnapshot Content)}
    (hsplit : cache.toList = front ++ [last]) :
    NotMistaken cache ↔
      ((∃ item ∈ cache.toList, timeOf item = -1) →
        (∀ item ∈ cache.toList, -1 ≤ timeOf item) → timeOf last = -1) := by
  have hlast : last ∈ cache.toList := by
    rw [hsplit]
    simp
  obtain ⟨newest, hnewest⟩ :=
    Option.ne_none_iff_exists'.mp (ne_none_of_mem_toList hbounds hlast)
  have hgetLast : cache.toList.getLast? = some (last.1, some newest) := by
    rw [hsplit, List.getLast?_append, ← hnewest]
    rfl
  have htime : timeOf last = newest.lastAccessTime := by
    rw [timeOf, hnewest]
    rfl
  constructor
  · rintro hright ⟨⟨key, value⟩, hmem, hminus⟩ htimes
    obtain ⟨old, rfl⟩ :=
      Option.ne_none_iff_exists'.mp (ne_none_of_mem_toList hbounds hmem)
    have hold := mem_toList_iff.mp hmem
    have holdTime : old.lastAccessTime = -1 := hminus
    obtain ⟨found, snapshot, hfound, hsnapshot⟩ := hright ⟨key, old, hold, holdTime,
      (isOldest_iff hbounds hold).mpr (by rw [holdTime]; exact htimes)⟩
    rw [hgetLast] at hfound
    cases hfound
    exact htime.trans hsnapshot
  · rintro hright ⟨key, old, hold, hminus, holdest⟩
    rw [isOldest_iff hbounds hold, hminus] at holdest
    have hlastTime := hright ⟨_, mem_toList_iff.mpr hold, hminus⟩ holdest
    exact ⟨last.1, newest, hgetLast, htime.symm.trans hlastTime⟩

theorem iterOldest_spec (hbounds : WithinBounds cache)
    (hfull : cache.size = maxCachedItem) :
    ∃ key, iterOldest cache = some key ∧ cache[key]? ≠ none ∧
      (IsOldest cache key ↔ NotMistaken cache) := by
  have hitems : ∀ item ∈ cache.toList, item.2 ≠ none :=
    fun item hitem => ne_none_of_mem_toList hbounds hitem
  have hne : cache.toList ≠ [] := by
    intro hnil
    have hlength := Std.TreeMap.length_toList (t := cache)
    rw [hnil, hfull] at hlength
    cases hlength
  obtain ⟨⟨key, value⟩, hmem, hfound⟩ := foldl_visit_mem hitems hne
  obtain ⟨snapshot, rfl⟩ := Option.ne_none_iff_exists'.mp (hitems _ hmem)
  have hsnapshot := mem_toList_iff.mp hmem
  have htime : (cache.toList.foldl visit (-1, none)).1 =
      snapshot.lastAccessTime := by
    rw [hfound]
    rfl
  obtain ⟨front, last, hsplit⟩ :
      ∃ front last, cache.toList = front ++ [last] :=
    ⟨_, _, (List.dropLast_append_getLast hne).symm⟩
  refine ⟨key, by rw [iterOldest, hfound], by rw [hsnapshot]; simp, ?_⟩
  rw [isOldest_iff hbounds hsnapshot, notMistaken_iff hbounds hsplit, ← htime,
    hsplit]
  exact foldl_visit_le_iff (hsplit ▸ hitems)

end Oldest

/-! ## One step -/

section Steps

variable {cache after : SnapshotCache Content} {deviceId : Text}
  {missionId : Int32} {snapshot : CachedSnapshot Content}

theorem WithinBounds.of_entries (hbounds : WithinBounds cache)
    (hsize : after.size ≤ maxCachedItem)
    (hentries : ∀ key : Text, after[key]? = none ∨ after[key]? = cache[key]? ∨
      ∃ deviceId missionId snapshot, deviceId ≠ [] ∧
        key = generateKeyInfo deviceId missionId ∧
        after[key]? = some (some snapshot)) :
    WithinBounds after where
  size_le := hsize
  ne_null key hnull := by
    rcases hentries key with hnone | hold | ⟨_, _, new, -, -, hnew⟩
    · rw [hnone] at hnull
      cases hnull
    · rw [hold] at hnull
      exact hbounds.ne_null key hnull
    · rw [hnew] at hnull
      cases hnull
  keyed key hsome := by
    rcases hentries key with hnone | hold | ⟨deviceId, missionId, _, hdevice, hkey, -⟩
    · exact absurd hnone hsome
    · rw [hold] at hsome
      exact hbounds.keyed key hsome
    · exact ⟨deviceId, missionId, hdevice, hkey⟩

theorem enqueue_of_not_accepts
    (hrefused : ¬ Accepts cache deviceId missionId snapshot) :
    enqueueCachedSnapshotInfo cache deviceId missionId (some snapshot) =
      cache := by
  rw [enqueueCachedSnapshotInfo]
  by_cases hdevice : deviceId = []
  · rw [if_pos hdevice]
  · rw [if_neg hdevice, if_pos]
    unfold keepsCached
    cases hcached : cache[generateKeyInfo deviceId missionId]? with
    | none =>
        refine absurd ⟨hdevice, ?_⟩ hrefused
        intro old hold
        rw [hcached] at hold
        cases hold
    | some cached =>
        cases cached with
        | none => rfl
        | some old =>
            by_contra hnot
            refine hrefused ⟨hdevice, ?_⟩
            intro other hother
            rw [hcached] at hother
            cases hother
            simpa using hnot

theorem enqueue_of_accepts (hbounds : WithinBounds cache)
    (haccepts : Accepts cache deviceId missionId snapshot) :
    enqueueCachedSnapshotInfo cache deviceId missionId (some snapshot) =
      (if cache.size = maxCachedItem then eraseOldest cache else cache).insert
        (generateKeyInfo deviceId missionId) (some snapshot) := by
  rw [enqueueCachedSnapshotInfo, if_neg haccepts.1, if_neg]
  unfold keepsCached
  cases hcached : cache[generateKeyInfo deviceId missionId]? with
  | none => simp
  | some cached =>
      cases cached with
      | none => exact absurd hcached (hbounds.ne_null _)
      | some old => simpa using haccepts.2 old hcached

theorem size_room (hbounds : WithinBounds cache) :
    (if cache.size = maxCachedItem then eraseOldest cache else cache).size <
      maxCachedItem := by
  have hsize := hbounds.size_le
  split_ifs with hfull
  · obtain ⟨oldest, holdest, hsome, -⟩ := iterOldest_spec hbounds hfull
    have hcontains : cache.contains oldest = true := by
      rw [Std.TreeMap.contains_eq_isSome_getElem?]
      exact Option.isSome_iff_ne_none.mpr hsome
    rw [eraseOldest, holdest, Std.TreeMap.size_erase, if_pos hcontains, hfull]
    decide
  · omega

theorem getElem?_room (cache : SnapshotCache Content) (key : Text) :
    (if cache.size = maxCachedItem then eraseOldest cache else cache)[key]? =
      if cache.size = maxCachedItem ∧ iterOldest cache = some key then none
      else cache[key]? := by
  by_cases hfull : cache.size = maxCachedItem
  · rw [if_pos hfull, eraseOldest]
    cases iterOldest cache with
    | none => simp
    | some oldest =>
        simp only [OrderedMap.getElem?_erase_eq, hfull, true_and,
          Option.some.injEq]
  · simp [hfull]

theorem withinBounds_enqueue (hbounds : WithinBounds cache)
    (snapshot : Option (CachedSnapshot Content)) :
    WithinBounds
      (enqueueCachedSnapshotInfo cache deviceId missionId snapshot) := by
  cases snapshot with
  | none => exact hbounds
  | some snapshot =>
      by_cases haccepts : Accepts cache deviceId missionId snapshot
      · rw [enqueue_of_accepts hbounds haccepts]
        refine hbounds.of_entries ?_ ?_
        · exact (Std.TreeMap.size_insert_le).trans (size_room hbounds)
        · intro key
          rw [OrderedMap.getElem?_insert_eq, getElem?_room]
          split_ifs with hkey
          · exact Or.inr (Or.inr
              ⟨deviceId, missionId, snapshot, haccepts.1, hkey.symm, rfl⟩)
          · exact Or.inl rfl
          · exact Or.inr (Or.inl rfl)
      · rw [enqueue_of_not_accepts haccepts]
        exact hbounds

theorem withinBounds_dequeue (hbounds : WithinBounds cache) (now : ℤ) :
    WithinBounds
      (dequeueCachedSnapshotInfo cache deviceId missionId now).2 := by
  rw [dequeueCachedSnapshotInfo]
  split_ifs
  · exact hbounds
  · split
    · exact hbounds
    · exact hbounds
    · refine hbounds.of_entries
        (Std.TreeMap.size_erase_le.trans hbounds.size_le) ?_
      intro key
      rw [OrderedMap.getElem?_erase_eq]
      split_ifs
      · exact Or.inl rfl
      · exact Or.inr (Or.inl rfl)

theorem getElem?_delete {networkId uuid : Text} (hnetwork : networkId ≠ [])
    (huuid : uuid ≠ []) (key : Text) :
    (deleteCachedSnapshotInfo cache networkId uuid)[key]? =
      if uuid <:+: key then none else cache[key]? := by
  rw [deleteCachedSnapshotInfo, if_neg (by simp [hnetwork, huuid]),
    Std.TreeMap.getElem?_filter']
  by_cases hholds : uuid <:+: key
  · cases cache[key]? <;> simp [hholds]
  · cases cache[key]? <;> simp [hholds]

theorem withinBounds_delete (hbounds : WithinBounds cache)
    (networkId uuid : Text) :
    WithinBounds (deleteCachedSnapshotInfo cache networkId uuid) := by
  by_cases hskip : networkId = [] ∨ uuid = []
  · rw [deleteCachedSnapshotInfo, if_pos hskip]
    exact hbounds
  · rw [not_or] at hskip
    refine hbounds.of_entries ?_ ?_
    · rw [deleteCachedSnapshotInfo, if_neg (by simp [hskip])]
      exact Std.TreeMap.size_filter_le_size.trans hbounds.size_le
    · intro key
      rw [getElem?_delete hskip.1 hskip.2]
      split_ifs
      · exact Or.inl rfl
      · exact Or.inr (Or.inl rfl)

end Steps

section Sound

variable {cache : SnapshotCache Content} {deviceId : Text}
  {missionId : Int32} {snapshot : CachedSnapshot Content}

theorem enqueueRight_refl (cache : SnapshotCache Content) (key : Text) :
    EnqueueRight cache cache key where
  never_earlier old new hold hnew := by
    rw [hold] at hnew
    cases hnew
    exact le_rfl
  removes other _ := Or.inl rfl
  at_most_one first second _ _ hfirst := absurd rfl hfirst

theorem getElem?_accepted (hbounds : WithinBounds cache)
    (haccepts : Accepts cache deviceId missionId snapshot) (key : Text) :
    (enqueueCachedSnapshotInfo cache deviceId missionId (some snapshot))[key]? =
      if generateKeyInfo deviceId missionId = key then some (some snapshot)
      else if cache.size = maxCachedItem ∧ iterOldest cache = some key then none
      else cache[key]? := by
  rw [enqueue_of_accepts hbounds haccepts, OrderedMap.getElem?_insert_eq,
    getElem?_room]

theorem enqueueRight_iff_of_gone {after : SnapshotCache Content}
    {key oldest : Text} (hfull : cache.size = maxCachedItem)
    (hnever : ∀ old new : CachedSnapshot Content, cache[key]? = some (some old) →
      after[key]? = some (some new) → old.createdTime ≤ new.createdTime)
    (hsome : cache[oldest]? ≠ none)
    (hothers : ∀ other : Text, other ≠ key →
      after[other]? = if oldest = other then none else cache[other]?) :
    EnqueueRight cache after key ↔
      (oldest ≠ key → cache[key]? = none ∧ IsOldest cache oldest) := by
  have hremoved : ∀ other : Text, other ≠ key →
      after[other]? ≠ cache[other]? → other = oldest := by
    intro other hother hchanged
    by_contra hne
    exact hchanged (by rw [hothers other hother, if_neg (Ne.symm hne)])
  constructor
  · intro henqueue hself
    have hgone : after[oldest]? = none := by
      rw [hothers oldest hself, if_pos rfl]
    rcases henqueue.removes oldest hself with hkept | ⟨-, hnew, -, hleast⟩
    · exact absurd (hkept.symm.trans hgone) hsome
    · exact ⟨hnew, hleast⟩
  · intro hsound
    refine ⟨hnever, ?_, ?_⟩
    · intro other hother
      rw [hothers other hother]
      split_ifs with hgone
      · subst hgone
        obtain ⟨hnew, hleast⟩ := hsound hother
        exact Or.inr ⟨rfl, hnew, hfull, hleast⟩
      · exact Or.inl rfl
    · intro first second hfirst hsecond hchanged hchanged'
      rw [hremoved first hfirst hchanged, hremoved second hsecond hchanged']

/-- An accepted snapshot replaces only what was created before, and the entry
that goes is the one that the search found. -/
theorem enqueueRight_accepted_iff (hbounds : WithinBounds cache)
    (haccepts : Accepts cache deviceId missionId snapshot) :
    EnqueueRight cache
        (enqueueCachedSnapshotInfo cache deviceId missionId (some snapshot))
        (generateKeyInfo deviceId missionId) ↔
      (cache.size = maxCachedItem →
        if cache[generateKeyInfo deviceId missionId]? = none then
          NotMistaken cache
        else iterOldest cache = some (generateKeyInfo deviceId missionId)) := by
  have hafter := getElem?_accepted hbounds haccepts
  have hcreated := haccepts.2
  generalize enqueueCachedSnapshotInfo cache deviceId missionId (some snapshot) =
    after at hafter ⊢
  generalize generateKeyInfo deviceId missionId = key at hafter hcreated ⊢
  have hnever : ∀ old new : CachedSnapshot Content,
      cache[key]? = some (some old) → after[key]? = some (some new) →
      old.createdTime ≤ new.createdTime := by
    intro old new hold hnew
    rw [hafter, if_pos rfl] at hnew
    cases hnew
    exact hcreated old hold
  have hothers : ∀ other : Text, other ≠ key →
      after[other]? =
        if cache.size = maxCachedItem ∧ iterOldest cache = some other then none
        else cache[other]? := by
    intro other hother
    rw [hafter, if_neg (Ne.symm hother)]
  by_cases hfull : cache.size = maxCachedItem
  · obtain ⟨oldest, holdest, hsome, hright⟩ := iterOldest_spec hbounds hfull
    simp only [hfull, true_and, holdest, Option.some.injEq, forall_const]
      at hothers ⊢
    rw [enqueueRight_iff_of_gone hfull hnever hsome hothers, hright]
    split_ifs with hnew
    · have hother : oldest ≠ key := fun hsame => hsome (hsame ▸ hnew)
      simp [hnew, hother]
    · simp [hnew]
  · simp only [hfull, false_and, if_false, false_imp_iff, iff_true] at hothers ⊢
    refine ⟨hnever, fun other hother => Or.inl (hothers other hother), ?_⟩
    intro first second hfirst _ hchanged
    exact absurd (hothers first hfirst) hchanged

theorem keepsCache_enqueue_iff (hbounds : WithinBounds cache)
    (deviceId : Text) (missionId : Int32)
    (snapshot : Option (CachedSnapshot Content)) :
    KeepsCache cache (.enqueue deviceId missionId snapshot) ↔
      EventSound cache (.enqueue deviceId missionId snapshot) := by
  have hafter : WithinBounds (step cache (.enqueue deviceId missionId
      snapshot)).2 := withinBounds_enqueue hbounds snapshot
  cases snapshot with
  | none =>
      refine iff_of_true ⟨hafter, enqueueRight_refl cache _, ?_⟩ trivial
      intro accepted hnone
      cases hnone
  | some snapshot =>
      rw [EventSound]
      by_cases haccepts : Accepts cache deviceId missionId snapshot
      · rw [← enqueueRight_accepted_iff hbounds haccepts]
        constructor
        · exact fun hkeeps _ => hkeeps.2.1
        · intro hright
          refine ⟨hafter, hright haccepts, ?_⟩
          rintro _ ⟨⟩ -
          rw [step, getElem?_accepted hbounds haccepts, if_pos rfl]
      · refine iff_of_true ⟨hafter, ?_, ?_⟩ fun hno => absurd hno haccepts
        · rw [step, enqueue_of_not_accepts haccepts]
          exact enqueueRight_refl cache _
        · rintro _ ⟨⟩ hno
          exact absurd hno haccepts

theorem keepsCache_delete_iff (hbounds : WithinBounds cache)
    (networkId uuid : Text) :
    KeepsCache cache (.delete networkId uuid) ↔
      EventSound cache (.delete networkId uuid) := by
  have hafter : WithinBounds (step cache (.delete networkId uuid)).2 :=
    withinBounds_delete hbounds networkId uuid
  rw [KeepsCache, and_iff_right hafter, EventSound, step]
  by_cases hskip : networkId = [] ∨ uuid = []
  · rw [deleteCachedSnapshotInfo, if_pos hskip]
    refine iff_of_true ?_ ?_
    · intro deviceId missionId hdevice
      rw [if_neg]
      rintro ⟨hnetwork, rfl⟩
      exact hskip.elim hnetwork hdevice
    · intro hnetwork huuid
      exact absurd hskip (not_or.mpr ⟨hnetwork, huuid⟩)
  · obtain ⟨hnetwork, huuid⟩ := not_or.mp hskip
    simp only [ne_eq, hnetwork, huuid, not_false_eq_true, true_and, forall_const,
      getElem?_delete hnetwork huuid]
    constructor
    · intro hright deviceId missionId hdevice hother hsome hholds
      have hgone := hright deviceId missionId hdevice
      rw [if_pos hholds, if_neg hother] at hgone
      exact hsome hgone.symm
    · intro hsound deviceId missionId hdevice
      by_cases hown : deviceId = uuid
      · subst hown
        rw [if_pos rfl, if_pos]
        exact (List.prefix_append deviceId _).isInfix
      · rw [if_neg hown]
        split_ifs with hholds
        · by_contra hsome
          exact hsound deviceId missionId hdevice hown (Ne.symm hsome) hholds
        · rfl

theorem keepsCache_iff (hbounds : WithinBounds cache)
    (event : SnapshotEvent Content) :
    KeepsCache cache event ↔ EventSound cache event := by
  cases event with
  | enqueue deviceId missionId snapshot =>
      exact keepsCache_enqueue_iff hbounds deviceId missionId snapshot
  | dequeue deviceId missionId now =>
      exact iff_of_true ⟨withinBounds_dequeue hbounds now, trivial⟩ trivial
  | delete networkId uuid => exact keepsCache_delete_iff hbounds networkId uuid

end Sound

/-! ## Runs -/

theorem withinBounds_empty : WithinBounds (∅ : SnapshotCache Content) where
  size_le := Nat.zero_le _
  ne_null key := by simp
  keyed key hsome := by simp at hsome

/-- In every run the cache has ten entries at most, each with a snapshot and
under the key of a mission. -/
theorem withinBounds_run (events : List (SnapshotEvent Content)) :
    WithinBounds (EventRun.run step (∅ : SnapshotCache Content) events).2 := by
  refine EventRun.run_invariant (fun cache event hbounds => ?_) events
    withinBounds_empty
  cases event with
  | enqueue deviceId missionId snapshot =>
      exact withinBounds_enqueue hbounds snapshot
  | dequeue deviceId missionId now => exact withinBounds_dequeue hbounds now
  | delete networkId uuid => exact withinBounds_delete hbounds networkId uuid

/-- The steps which keep the cache are, in every run from the empty cache, the
sound ones. -/
theorem meets_keepsCache_iff (events : List (SnapshotEvent Content)) :
    EventRun.Meets step KeepsCache (∅ : SnapshotCache Content) events ↔
      EventRun.Meets step EventSound (∅ : SnapshotCache Content) events := by
  have hgood : ∀ (cache : SnapshotCache Content) (event : SnapshotEvent Content),
      WithinBounds cache → (KeepsCache cache event ↔ EventSound cache event) :=
    fun _ event hbounds => keepsCache_iff hbounds event
  refine EventRun.meets_iff_of_invariant hgood ?_ events withinBounds_empty
  intro cache event hbounds hsound
  exact ((hgood cache event hbounds).mpr hsound).1

/-- Ten missions of one device fill the cache, and the last of them is refreshed:
the first one is lost although no snapshot is new. -/
theorem not_keepsCache_of_refresh :
    ¬ EventRun.Meets step KeepsCache (∅ : SnapshotCache Unit)
      ((List.range 10).map (fun mission =>
        SnapshotEvent.enqueue ['d'] (Int32.ofNat mission)
        (some ⟨(), mission, mission⟩)) ++
      [SnapshotEvent.enqueue ['d'] 9 (some ⟨(), 10, 10⟩)]) := by
  intro hmeets
  have hkeeps := hmeets.last
  rcases hkeeps.2.1.removes (generateKeyInfo ['d'] 0) (by decide) with
    hkept | ⟨-, hnew, -⟩
  · revert hkept
    decide +kernel
  · revert hnew
    decide +kernel

end SnapshotCache

end Dmsfwk
