import Mathlib.Data.List.TakeWhile
import Mathlib.Tactic

/-!
# Integers as decimal texts

The text that `std::to_string` makes of an integer, and the integer that `atoi`
and its kin read at the front of a text.
-/

namespace DecimalText

def ofInt (value : ℤ) : List Char :=
  if value < 0 then '-' :: Nat.toDigits 10 value.natAbs
  else Nat.toDigits 10 value.natAbs

def ofDigits (text : List Char) : ℕ :=
  Nat.ofDigitChars 10 (text.takeWhile Char.isDigit) 0

/-- The characters for which `isspace` holds in the C locale. -/
def spaces : List Char := [' ', '\t', '\n', '\x0b', '\x0c', '\r']

def ofSigned : List Char → ℤ
  | '-' :: digits => -(ofDigits digits : ℤ)
  | '+' :: digits => ofDigits digits
  | digits => ofDigits digits

def toInt (text : List Char) : ℤ :=
  ofSigned (text.dropWhile spaces.contains)

theorem isDigit_of_mem_toDigits {value : ℕ} {c : Char}
    (hmem : c ∈ Nat.toDigits 10 value) : c.isDigit = true :=
  Nat.isDigit_of_mem_toDigits (by norm_num) (by norm_num) hmem

theorem ofDigits_toDigits (value : ℕ) :
    ofDigits (Nat.toDigits 10 value) = value := by
  rw [ofDigits, List.takeWhile_eq_self_iff.mpr fun c => isDigit_of_mem_toDigits,
    Nat.ofDigitChars_ten_toDigits]

theorem exists_toDigits (value : ℕ) :
    ∃ first digits, Nat.toDigits 10 value = first :: digits ∧
      first.isDigit = true := by
  obtain ⟨first, digits, hdigits⟩ :=
    List.exists_cons_of_ne_nil (Nat.toDigits_ne_nil (n := value) (b := 10))
  have hmem : first ∈ Nat.toDigits 10 value := by
    rw [hdigits]
    exact List.mem_cons_self
  exact ⟨first, digits, hdigits, isDigit_of_mem_toDigits hmem⟩

theorem ofSigned_cons_of_isDigit {first : Char} (hfirst : first.isDigit = true)
    (digits : List Char) :
    ofSigned (first :: digits) = ofDigits (first :: digits) := by
  have hminus : first ≠ '-' := by
    rintro rfl
    exact absurd hfirst (by decide)
  have hplus : first ≠ '+' := by
    rintro rfl
    exact absurd hfirst (by decide)
  unfold ofSigned
  split
  · simp_all
  · simp_all
  · rfl

theorem contains_spaces_of_isDigit {c : Char} (hdigit : c.isDigit = true) :
    spaces.contains c = false := by
  rw [List.contains_eq_mem, decide_eq_false_iff_not]
  intro hmem
  have hnone : ∀ space ∈ spaces, space.isDigit = false := by
    simp [spaces, Char.isDigit]
  rw [hnone c hmem] at hdigit
  cases hdigit

theorem toInt_ofInt (value : ℤ) : toInt (ofInt value) = value := by
  unfold ofInt
  split_ifs with hneg
  · have hspace : spaces.contains '-' = false := by decide
    rw [toInt, List.dropWhile_cons, hspace]
    change -(ofDigits (Nat.toDigits 10 value.natAbs) : ℤ) = value
    rw [ofDigits_toDigits]
    omega
  · obtain ⟨first, digits, hdigits, hfirst⟩ := exists_toDigits value.natAbs
    rw [toInt, hdigits, List.dropWhile_cons, contains_spaces_of_isDigit hfirst]
    change ofSigned (first :: digits) = value
    rw [ofSigned_cons_of_isDigit hfirst, ← hdigits, ofDigits_toDigits]
    omega

theorem mem_ofInt {value : ℤ} {c : Char} (hmem : c ∈ ofInt value) :
    c = '-' ∨ c.isDigit = true := by
  unfold ofInt at hmem
  split_ifs at hmem
  · exact (List.mem_cons.mp hmem).imp_right isDigit_of_mem_toDigits
  · exact .inr (isDigit_of_mem_toDigits hmem)

end DecimalText
