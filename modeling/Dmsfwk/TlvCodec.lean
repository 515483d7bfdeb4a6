import Dmsfwk.ByteCodec

/-!
# Type-length-value records

A record is a sequence of items, each a big endian type, a big endian length
and a little endian value.  The writer threads the remaining capacity of its
buffer through the items; the reader scans a window and hands every item to a
field assignment.  The reader is parameterized by its loop condition, since
readers of this shape differ only in when they stop.
-/

namespace TlvCodec

open ByteCodec

structure TlvItem where
  type : ℕ
  len : ℕ
  value : ℕ
  deriving DecidableEq, Repr

def itemHeaderLen : ℕ := 4

def TlvItem.size (item : TlvItem) : ℕ := itemHeaderLen + item.len

def TlvItem.encode (item : TlvItem) : Bytes :=
  be16 item.type ++ be16 item.len ++ leBytes item.len item.value

structure TlvItem.WellFormed (item : TlvItem) : Prop where
  type_lt : item.type < 65536
  len_lt : item.len < 65536
  len_pos : 0 < item.len
  value_lt : item.value < 256 ^ item.len

@[simp] theorem TlvItem.length_encode (item : TlvItem) :
    item.encode.length = item.size := by
  simp [TlvItem.encode, TlvItem.size, itemHeaderLen]
  omega

/-! ## Writing -/

/-- Items written one behind the other; `write` sees the capacity which is
left for its item. -/
def layOut (write : TlvItem → ℕ → Bytes) : ℕ → List TlvItem → Bytes
  | _, [] => []
  | capacity, item :: rest =>
      write item capacity ++ layOut write (capacity - item.size) rest

/-- A writer which encodes every item that fits lays out the plain
concatenation when the buffer is large enough for all items. -/
theorem layOut_eq_flatMap_encode
    {write : TlvItem → ℕ → Bytes} {items : List TlvItem} {capacity : ℕ}
    (hwrite : ∀ item ∈ items, ∀ room,
      item.size ≤ room → write item room = item.encode)
    (hcapacity : (items.map TlvItem.size).sum ≤ capacity) :
    layOut write capacity items = items.flatMap TlvItem.encode := by
  induction items generalizing capacity with
  | nil => rfl
  | cons item rest ih =>
      simp only [List.map_cons, List.sum_cons] at hcapacity
      have hhead : write item capacity = item.encode :=
        hwrite item (by simp) capacity (by omega)
      have htail : layOut write (capacity - item.size) rest =
          rest.flatMap TlvItem.encode := by
        apply ih
        · intro other hmem
          exact hwrite other (List.mem_cons_of_mem item hmem)
        · omega
      simp only [layOut, List.flatMap_cons, hhead, htail]

/-! ## Reading -/

section Scan

variable {σ : Type*}

def splitItem : Bytes → Option (ℕ × Bytes × Bytes)
  | typeHigh :: typeLow :: lenHigh :: lenLow :: rest =>
      if rest.length < be16Value lenHigh lenLow then none
      else some (be16Value typeHigh typeLow,
        rest.take (be16Value lenHigh lenLow),
        rest.drop (be16Value lenHigh lenLow))
  | _ => none

/-- Scan a window.  `done` is the loop condition on the number of bytes left;
every item consumes at least its own header, so fuel equal to the size of the
window is never used up. -/
def scan (done : ℕ → Bool) (assign : σ → ℕ → Bytes → Option σ) :
    ℕ → σ → Bytes → Option σ
  | 0, _, _ => none
  | fuel + 1, state, window =>
      if done window.length then some state
      else
        match splitItem window with
        | none => none
        | some (type, value, rest) =>
            match assign state type value with
            | none => none
            | some next => scan done assign fuel next rest

theorem splitItem_encode_append
    {item : TlvItem} (hitem : item.WellFormed) (rest : Bytes) :
    splitItem (item.encode ++ rest) =
      some (item.type, leBytes item.len item.value, rest) := by
  have htype := be16Value_be16 hitem.type_lt
  have hlen := be16Value_be16 hitem.len_lt
  have htake : (leBytes item.len item.value ++ rest).take item.len =
      leBytes item.len item.value := by
    rw [List.take_append_of_le_length (by simp)]
    exact List.take_of_length_le (by simp)
  have hdrop : (leBytes item.len item.value ++ rest).drop item.len = rest := by
    rw [List.drop_append]
    simp
  simp only [TlvItem.encode, be16, List.cons_append, List.nil_append,
    splitItem, htype, hlen, htake, hdrop]
  simp

theorem scan_flatMap_encode
    {done : ℕ → Bool} {assign : σ → ℕ → Bytes → Option σ}
    (hdone : done 0 = true)
    (hmore : ∀ n, itemHeaderLen < n → done n = false)
    {items : List TlvItem} (hitems : ∀ item ∈ items, item.WellFormed)
    {fuel : ℕ} (hfuel : items.length < fuel) (state : σ) :
    scan done assign fuel state (items.flatMap TlvItem.encode) =
      items.foldlM (fun current item =>
        assign current item.type (leBytes item.len item.value)) state := by
  induction items generalizing fuel state with
  | nil =>
      obtain ⟨fuel, rfl⟩ : ∃ k, fuel = k + 1 := ⟨fuel - 1, by
        simp at hfuel
        omega⟩
      simp [scan, hdone]
  | cons item rest ih =>
      obtain ⟨fuel, rfl⟩ : ∃ k, fuel = k + 1 := ⟨fuel - 1, by
        simp at hfuel
        omega⟩
      have hitem : item.WellFormed := hitems item (by simp)
      have hrest : ∀ other ∈ rest, other.WellFormed :=
        fun other hmem => hitems other (List.mem_cons_of_mem item hmem)
      have hlong : done
          (item.encode ++ rest.flatMap TlvItem.encode).length = false := by
        apply hmore
        have hpos := hitem.len_pos
        simp only [List.length_append, TlvItem.length_encode, TlvItem.size]
        omega
      simp only [List.flatMap_cons, scan, hlong, Bool.false_eq_true, if_false,
        splitItem_encode_append hitem, List.foldlM_cons]
      cases hassign : assign state item.type (leBytes item.len item.value) with
      | none => rfl
      | some next =>
          exact ih hrest (by simpa using hfuel) next

end Scan

end TlvCodec
