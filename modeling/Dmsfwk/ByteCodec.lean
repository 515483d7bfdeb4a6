import Mathlib.Tactic
import Mathlib.Data.List.TakeDrop

/-!
# Byte strings, integer codecs and bounded copies

The vocabulary of a program which lays out integers in byte buffers: little
endian words, big endian half-words, the bounded copy `memcpy_s`, and reads
which may run past the end of a buffer.  Nothing here refers to a particular
wire format.
-/

namespace ByteCodec

abbrev Bytes := List UInt8

/-! ## Little endian words -/

def leBytes : ℕ → ℕ → Bytes
  | 0, _ => []
  | n + 1, v => UInt8.ofNat v :: leBytes n (v / 256)

def leValue : Bytes → ℕ
  | [] => 0
  | b :: rest => b.toNat + 256 * leValue rest

@[simp] theorem length_leBytes (n v : ℕ) : (leBytes n v).length = n := by
  induction n generalizing v with
  | zero => rfl
  | succ n ih => simp [leBytes, ih]

theorem leValue_leBytes {n v : ℕ} (hv : v < 256 ^ n) :
    leValue (leBytes n v) = v := by
  induction n generalizing v with
  | zero =>
      have hzero : v = 0 := by simpa using hv
      simp [leBytes, leValue, hzero]
  | succ n ih =>
      have hdiv : v / 256 < 256 ^ n := by
        apply Nat.div_lt_of_lt_mul
        rw [pow_succ] at hv
        omega
      have hbyte : (UInt8.ofNat v).toNat = v % 256 := by simp
      simp only [leBytes, leValue, ih hdiv, hbyte]
      omega

/-! ## Big endian half-words -/

def be16 (v : ℕ) : Bytes :=
  [UInt8.ofNat (v / 256), UInt8.ofNat v]

def be16Value (high low : UInt8) : ℕ :=
  high.toNat * 256 + low.toNat

@[simp] theorem length_be16 (v : ℕ) : (be16 v).length = 2 := rfl

theorem be16Value_be16 {v : ℕ} (hv : v < 65536) :
    be16Value (UInt8.ofNat (v / 256)) (UInt8.ofNat v) = v := by
  have hhigh : (UInt8.ofNat (v / 256)).toNat = v / 256 % 256 := by simp
  have hlow : (UInt8.ofNat v).toNat = v % 256 := by simp
  simp only [be16Value, hhigh, hlow]
  omega

/-! ## Bounded copies -/

/-- `memcpy_s(dest + pos, destMax, src, |src|)`.  The copy is refused when
there is no room at all or not enough of it; a refused copy yields no
destination, because every caller modelled here throws the buffer away. -/
def memcpyS (dest : Bytes) (pos destMax : ℕ) (src : Bytes) : Option Bytes :=
  if destMax = 0 ∨ destMax < src.length then none
  else some (dest.take pos ++ src ++ dest.drop (pos + src.length))

theorem memcpyS_eq_none_iff {dest src : Bytes} {pos destMax : ℕ} :
    memcpyS dest pos destMax src = none ↔
      destMax = 0 ∨ destMax < src.length := by
  unfold memcpyS
  split <;> simp_all

theorem memcpyS_append_replicate {filled src : Bytes} {capacity : ℕ}
    (hroom : filled.length < capacity)
    (hfits : src.length ≤ capacity - filled.length) :
    memcpyS (filled ++ List.replicate (capacity - filled.length) 0)
        filled.length (capacity - filled.length) src =
      some ((filled ++ src) ++
        List.replicate (capacity - (filled ++ src).length) 0) := by
  have hcond : ¬(capacity - filled.length = 0 ∨
      capacity - filled.length < src.length) := by omega
  have hlength : capacity - (filled ++ src).length =
      capacity - filled.length - src.length := by
    simp only [List.length_append]
    omega
  have hdrop : (filled ++ List.replicate (capacity - filled.length) 0).drop
      (filled.length + src.length) =
      List.replicate (capacity - filled.length - src.length) (0 : UInt8) := by
    rw [List.drop_append, List.drop_eq_nil_of_le (by omega)]
    simp
  rw [memcpyS, if_neg hcond, List.take_left, hdrop, hlength]

/-! ## Writing into an integer -/

/-- `memcpy_s(&field, size, src, |src|)` for an unsigned field of `size`
bytes: the low-order bytes are replaced, the others keep their value. -/
def copyToField (size old : ℕ) (src : Bytes) : Option ℕ :=
  if size < src.length then none
  else some (leValue (src ++ (leBytes size old).drop src.length))

theorem copyToField_leBytes {size old v : ℕ} (hv : v < 256 ^ size) :
    copyToField size old (leBytes size v) = some v := by
  have hdrop : (leBytes size old).drop size = [] :=
    List.drop_eq_nil_of_le (by simp)
  simp [copyToField, hdrop, leValue_leBytes hv]

theorem copyToField_uint8 {old v : ℕ} (hv : v < 2 ^ 8) :
    copyToField 1 old (leBytes 1 v) = some v :=
  copyToField_leBytes (by simpa using hv)

theorem copyToField_uint16 {old v : ℕ} (hv : v < 2 ^ 16) :
    copyToField 2 old (leBytes 2 v) = some v :=
  copyToField_leBytes (by simpa using hv)

theorem copyToField_uint32 {old v : ℕ} (hv : v < 2 ^ 32) :
    copyToField 4 old (leBytes 4 v) = some v :=
  copyToField_leBytes (by simpa using hv)

/-! ## Reads which may leave the buffer -/

/-- `len` bytes from offset `off` of a buffer.  An address behind the end of
the buffer holds whatever the surrounding memory `beyond` holds there. -/
def readBytes (buffer : Bytes) (beyond : ℕ → UInt8) (off len : ℕ) : Bytes :=
  (List.range len).map fun i => (buffer[off + i]?).getD (beyond (off + i))

@[simp] theorem length_readBytes
    (buffer : Bytes) (beyond : ℕ → UInt8) (off len : ℕ) :
    (readBytes buffer beyond off len).length = len := by
  simp [readBytes]

theorem getElem?_readBytes
    (buffer : Bytes) (beyond : ℕ → UInt8) {off len i : ℕ} (hi : i < len) :
    (readBytes buffer beyond off len)[i]? =
      some ((buffer[off + i]?).getD (beyond (off + i))) := by
  simp [readBytes, List.getElem?_map, List.getElem?_range hi]

theorem readBytes_eq_take_drop
    {buffer : Bytes} {beyond : ℕ → UInt8} {off len : ℕ}
    (hbound : off + len ≤ buffer.length) :
    readBytes buffer beyond off len = (buffer.drop off).take len := by
  apply List.ext_getElem?
  intro i
  by_cases hi : i < len
  · have hin : off + i < buffer.length := by omega
    rw [getElem?_readBytes buffer beyond hi, List.getElem?_take_of_lt hi,
      List.getElem?_drop, List.getElem?_eq_getElem hin]
    rfl
  · have hleft : (readBytes buffer beyond off len).length ≤ i := by
      simpa using hi
    have hright : ((buffer.drop off).take len).length ≤ i := by
      rw [List.length_take]
      omega
    rw [List.getElem?_eq_none hleft, List.getElem?_eq_none hright]

theorem take_readBytes
    (buffer : Bytes) (beyond : ℕ → UInt8) (off : ℕ) {len k : ℕ}
    (hk : k ≤ len) :
    (readBytes buffer beyond off len).take k =
      readBytes buffer beyond off k := by
  simp [readBytes, ← List.map_take, List.take_range, min_eq_left hk]

theorem readBytes_append_of_le
    {front body : Bytes} {beyond : ℕ → UInt8} {len : ℕ}
    (hbound : len ≤ body.length) :
    readBytes (front ++ body) beyond front.length len = body.take len := by
  rw [readBytes_eq_take_drop (by simpa using hbound), List.drop_left]

end ByteCodec
