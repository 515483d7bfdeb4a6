import Dmsfwk.ByteCodec
import Dmsfwk.EventRun

/-!
# The order of cached surface frames

`AVSurfaceBufferCache` numbers the frames which a surface has, and another
thread takes them from a priority queue to the output surface.  The numbers
have 32 bits.
-/

namespace Dmsfwk

open ByteCodec EventRun

/-- What `GetVirAddr` of a buffer leads to, `none` for a null pointer. -/
structure SurfaceBuffer (Config : Type) where
  virAddr : Option Bytes
  config : Config

structure CachedFrame (Config : Type) where
  data : Bytes
  config : Config
  index : UInt32

/-- The frames of the queue, the one at its top first. -/
structure AVSurfaceBufferCache (Config : Type) where
  cacheQueue : List (CachedFrame Config) := []
  lastIndex : UInt32 := 0
  isRunning : Bool := false
  innerSurface : Bool := false

inductive CacheAnswer where
  | errOk | invalidParametersErr | readSurfaceBufferFailed | createSurfaceFailed
  deriving DecidableEq

inductive CacheEvent (Config : Type) where
  | getSurface (created : Bool)
  | start
  | stop
  | addSurfaceBuffer (buffer : Option (SurfaceBuffer Config)) (copied : Bool)
  /-- A round of `Process`; `bufferSize` is what the output surface gives to a
  frame, `none` without a buffer or a copy. -/
  | process (bufferSize : CachedFrame Config → Option ℕ)

namespace AVSurfaceBufferCache

variable {Config : Type}

def maxCacheSize : UInt32 := 3

/-- `CacheCompare` puts the smallest index on top; of two equal ones it puts
none first. -/
def push (cache : CachedFrame Config) :
    List (CachedFrame Config) → List (CachedFrame Config)
  | [] => [cache]
  | first :: rest =>
      if cache.index < first.index then cache :: first :: rest
      else first :: push cache rest

def nextFrame (cache : AVSurfaceBufferCache Config) (data : Bytes)
    (config : Config) : CachedFrame Config :=
  ⟨data, config, cache.lastIndex + 1⟩

def addCache (cache : AVSurfaceBufferCache Config) (data : Bytes)
    (config : Config) : AVSurfaceBufferCache Config :=
  { cache with
    lastIndex := cache.lastIndex + 1
    cacheQueue := push (cache.nextFrame data config) cache.cacheQueue }

/-- The checks and the copy of `AddSurfaceBuffer`, which reads the size as a
signed word. -/
def copyFrame (buffer : Option (SurfaceBuffer Config)) (copied : Bool) :
    Except CacheAnswer (Bytes × Config) :=
  match buffer with
  | none => .error .invalidParametersErr
  | some buffer =>
      match buffer.virAddr with
      | none => .error .invalidParametersErr
      | some data =>
          if data = [] ∨ 2 ^ 31 ≤ data.length then .error .invalidParametersErr
          else if !copied then .error .readSurfaceBufferFailed
          else .ok (data, buffer.config)

def addSurfaceBuffer (cache : AVSurfaceBufferCache Config)
    (buffer : Option (SurfaceBuffer Config)) (copied : Bool) :
    CacheAnswer × AVSurfaceBufferCache Config :=
  match copyFrame buffer copied with
  | .error answer => (answer, cache)
  | .ok (data, config) => (.errOk, cache.addCache data config)

/-- The frames which go to `WriteDataToSurface`. -/
def process (cache : AVSurfaceBufferCache Config) :
    List (CachedFrame Config) × AVSurfaceBufferCache Config :=
  if !cache.isRunning ∨ cache.lastIndex < maxCacheSize then ([], cache)
  else (cache.cacheQueue, { cache with cacheQueue := [] })

def writeDataToSurface (bufferSize : CachedFrame Config → Option ℕ)
    (cacheData : CachedFrame Config) : Bool :=
  match bufferSize cacheData with
  | none => false
  | some size => cacheData.data.length ≤ size

end AVSurfaceBufferCache

/-- The cache beside the frames which were added, and those which left the queue
and got to the output surface. -/
structure SurfaceWriting (Config : Type) where
  cache : AVSurfaceBufferCache Config := {}
  added : List (CachedFrame Config) := []
  taken : List (CachedFrame Config) := []
  flushed : List (CachedFrame Config) := []

namespace SurfaceWriting

open AVSurfaceBufferCache

variable {Config : Type} {writing : SurfaceWriting Config}

def step (writing : SurfaceWriting Config) :
    CacheEvent Config → CacheAnswer × SurfaceWriting Config
  | .getSurface created =>
      (if created then .errOk else .createSurfaceFailed, { writing with
        cache := { writing.cache with innerSurface := created } })
  | .start =>
      (.errOk, if writing.cache.innerSurface then { writing with
        cache := { writing.cache with isRunning := true } } else writing)
  | .stop =>
      (.errOk, { writing with
        cache := { writing.cache with isRunning := false } })
  | .addSurfaceBuffer buffer copied =>
      let next := writing.cache.addSurfaceBuffer buffer copied
      (next.1, { writing with
        cache := next.2
        added := writing.added ++ match copyFrame buffer copied with
          | .error _ => []
          | .ok (data, config) => [writing.cache.nextFrame data config] })
  | .process bufferSize =>
      let next := writing.cache.process
      (.errOk, { writing with
        cache := next.2
        taken := writing.taken ++ next.1
        flushed := writing.flushed ++
          next.1.filter (writeDataToSurface bufferSize) })

/-- While the indices have not come back to zero, the queue has what was added
and not taken, in this order. -/
structure InOrder (writing : SurfaceWriting Config) : Prop where
  lastIndex : writing.cache.lastIndex.toNat = writing.added.length % 2 ^ 32
  kept : writing.added.length < 2 ^ 32 →
    writing.taken ++ writing.cache.cacheQueue = writing.added ∧
      ∀ frame ∈ writing.cache.cacheQueue,
        frame.index.toNat ≤ writing.added.length
  flushed : writing.flushed.Sublist writing.taken
  third : writing.taken ≠ [] → 3 ≤ writing.added.length

theorem push_eq_append (frame : CachedFrame Config)
    {queue : List (CachedFrame Config)}
    (hlast : ∀ queued ∈ queue, queued.index ≤ frame.index) :
    push frame queue = queue ++ [frame] := by
  induction queue with
  | nil => rfl
  | cons first rest ih =>
      obtain ⟨hfirst, hrest⟩ := List.forall_mem_cons.mp hlast
      rw [push, if_neg (UInt32.not_lt.mpr hfirst), ih hrest, List.cons_append]

section Steps

variable (hinOrder : InOrder writing)

include hinOrder

theorem InOrder.add (data : Bytes) (config : Config) :
    InOrder { writing with
      cache := writing.cache.addCache data config
      added := writing.added ++ [writing.cache.nextFrame data config] } where
  lastIndex := by
    simp [addCache, UInt32.toNat_add, hinOrder.lastIndex]
  kept := by
    intro hfew
    rw [List.length_append, List.length_singleton] at hfew
    obtain ⟨hqueue, hindices⟩ := hinOrder.kept (by omega)
    have hnext : (writing.cache.nextFrame data config).index.toNat =
        writing.added.length + 1 := by
      simp only [nextFrame, UInt32.toNat_add, hinOrder.lastIndex,
        UInt32.toNat_one]
      omega
    have hpush := push_eq_append (writing.cache.nextFrame data config)
      fun queued hmem => UInt32.le_iff_toNat_le.mpr (by
        have hle := hindices queued hmem
        omega)
    simp only [addCache, hpush, List.length_append, List.length_singleton,
      ← List.append_assoc, hqueue, List.forall_mem_append,
      List.forall_mem_singleton, hnext, true_and]
    exact ⟨fun queued hmem => Nat.le_succ_of_le (hindices queued hmem), le_rfl⟩
  flushed := hinOrder.flushed
  third := by
    intro htaken
    have hthree := hinOrder.third htaken
    simp only [List.length_append]
    omega

theorem InOrder.afterStep (event : CacheEvent Config) :
    InOrder (writing.step event).2 := by
  obtain ⟨hlast, hkept, hflushed, hthird⟩ := hinOrder
  cases event with
  | getSurface created => exact ⟨hlast, hkept, hflushed, hthird⟩
  | start =>
      simp only [step]
      split_ifs <;> exact ⟨hlast, hkept, hflushed, hthird⟩
  | stop => exact ⟨hlast, hkept, hflushed, hthird⟩
  | addSurfaceBuffer buffer copied =>
      simp only [step, addSurfaceBuffer]
      cases copyFrame buffer copied with
      | error answer => simpa using ⟨hlast, hkept, hflushed, hthird⟩
      | ok frame => exact InOrder.add ⟨hlast, hkept, hflushed, hthird⟩ _ _
  | process bufferSize =>
      simp only [step, process]
      split_ifs with hwaits
      · simpa using (⟨hlast, hkept, hflushed, hthird⟩ : InOrder writing)
      · refine ⟨hlast, fun hfew => ?_,
          hflushed.append (List.filter_sublist), fun _ => ?_⟩
        · simpa using (hkept hfew).1
        · have hthree := UInt32.not_lt.mp (not_or.mp hwaits).2
          rw [UInt32.le_iff_toNat_le, hlast] at hthree
          exact hthree.trans (Nat.mod_le _ _)

end Steps

/-- Whenever frames are added and taken, the first 2 ^ 32 - 1 of them leave the
queue in their order, none of them twice and none before the third one is
there. -/
theorem taken_in_order (events : List (CacheEvent Config))
    (hfew : (run step ({} : SurfaceWriting Config) events).2.added.length <
      2 ^ 32) :
    let writing := (run step ({} : SurfaceWriting Config) events).2
    writing.taken ++ writing.cache.cacheQueue = writing.added ∧
      writing.flushed.Sublist writing.taken ∧
      (writing.taken ≠ [] → 3 ≤ writing.added.length) := by
  have hstart : InOrder ({} : SurfaceWriting Config) :=
    ⟨rfl, by simp, by simp, by simp⟩
  have hstep : ∀ (writing : SurfaceWriting Config) event, InOrder writing →
      InOrder (writing.step event).2 :=
    fun _ event hinOrder => hinOrder.afterStep event
  have hinOrder := run_invariant hstep events hstart
  exact ⟨(hinOrder.kept hfew).1, hinOrder.flushed, hinOrder.third⟩

def threeFrames : List (CacheEvent ℕ) :=
  [.getSurface true, .start, .addSurfaceBuffer (some ⟨some [1], 640⟩) true,
    .process fun _ => some 1, .addSurfaceBuffer (some ⟨some [2, 2], 640⟩) true,
    .addSurfaceBuffer (some ⟨some [3], 640⟩) true, .process fun _ => some 1]

theorem taken_in_order_threeFrames :
    let writing := (run step ({} : SurfaceWriting ℕ) threeFrames).2
    (writing.taken ++ writing.cache.cacheQueue = writing.added ∧
      writing.flushed.Sublist writing.taken ∧
      (writing.taken ≠ [] → 3 ≤ writing.added.length)) ∧
    writing.flushed.map (·.data) = [[1], [3]] :=
  ⟨taken_in_order threeFrames (by decide), by decide⟩

end SurfaceWriting
end Dmsfwk
