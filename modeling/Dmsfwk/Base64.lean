import Dmsfwk.ByteCodec
import Dmsfwk.ChannelManager

/-!
# Base64 texts

`Base64Encode` and `Base64Decode` of the scheduling utilities.  The encoder
turns three bytes into four characters of the alphabet and pads the last group;
the decoder reads up to the first character outside the alphabet.  The decoder
inverts the encoder on every byte string.
-/

namespace Dmsfwk

open ByteCodec

def base64Chars : Text :=
  "ABCDEFGHIJKLMNOPQRSTUVWXYZabcdefghijklmnopqrstuvwxyz0123456789+/".toList

def isBase64 (c : Char) : Bool :=
  c.isAlphanum || c == '+' || c == '/'

/-! ## Groups of three bytes and of four indices -/

/-- `charArray4` of the encoder, the indices of the four characters. -/
def charArray4 (first second third : UInt8) : List UInt8 :=
  [UInt8.ofNat ((first.toNat &&& 0xfc) >>> 2),
    UInt8.ofNat (((first.toNat &&& 0x03) <<< 4) +
      ((second.toNat &&& 0xf0) >>> 4)),
    UInt8.ofNat (((second.toNat &&& 0x0f) <<< 2) +
      ((third.toNat &&& 0xc0) >>> 6)),
    UInt8.ofNat (third.toNat &&& 0x3f)]

def charArray3 (first second third forth : UInt8) : Bytes :=
  [UInt8.ofNat ((first.toNat <<< 2) + ((second.toNat &&& 0x30) >>> 4)),
    UInt8.ofNat (((second.toNat &&& 0xf) <<< 4) +
      ((third.toNat &&& 0x3c) >>> 2)),
    UInt8.ofNat (((third.toNat &&& 0x3) <<< 6) + forth.toNat)]

def base64Char (index : UInt8) : Char :=
  base64Chars.getD index.toNat '\x00'

/-- `BASE_64_CHARS.find`, with `npos` cut to one byte. -/
def base64Index (c : Char) : UInt8 :=
  match base64Chars.idxOf? c with
  | some index => UInt8.ofNat index
  | none => 255

/-! ## Texts -/

def base64Encode : Bytes → Text
  | [] => []
  | [a] =>
      ((charArray4 a 0 0).map base64Char).take 2 ++ ['=', '=']
  | [a, b] =>
      ((charArray4 a b 0).map base64Char).take 3 ++ ['=']
  | a :: b :: c :: rest =>
      (charArray4 a b c).map base64Char ++ base64Encode rest

/-- The bytes behind characters of the alphabet; an incomplete last group is
filled with zero characters. -/
def base64Groups : Text → Bytes
  | [] => []
  | [a] =>
      (charArray3 (base64Index a) (base64Index '\x00')
        (base64Index '\x00') (base64Index '\x00')).take 0
  | [a, b] =>
      (charArray3 (base64Index a) (base64Index b)
        (base64Index '\x00') (base64Index '\x00')).take 1
  | [a, b, c] =>
      (charArray3 (base64Index a) (base64Index b)
        (base64Index c) (base64Index '\x00')).take 2
  | a :: b :: c :: d :: rest =>
      charArray3 (base64Index a) (base64Index b)
        (base64Index c) (base64Index d) ++ base64Groups rest

def base64Decode (basicString : Text) : Bytes :=
  base64Groups (basicString.takeWhile fun c => c != '=' && isBase64 c)

/-! ## The alphabet -/

theorem base64Index_base64Char {index : UInt8} (hindex : index.toNat < 64) :
    base64Index (base64Char index) = index := by
  have hall : ∀ i < 64, base64Index (base64Char (UInt8.ofNat i)) =
      UInt8.ofNat i := by decide +kernel
  simpa using hall index.toNat hindex

theorem isBase64_base64Char {index : UInt8} (hindex : index.toNat < 64) :
    (base64Char index != '=' && isBase64 (base64Char index)) = true := by
  have hall : ∀ i < 64, (base64Char (UInt8.ofNat i) != '=' &&
      isBase64 (base64Char (UInt8.ofNat i))) = true := by decide +kernel
  simpa using hall index.toNat hindex

/-! ## Masks of one byte -/

theorem mask_high (n : UInt8) :
    (n.toNat &&& 0xfc) >>> 2 = n.toNat / 4 ∧
      (n.toNat &&& 0xf0) >>> 4 = n.toNat / 16 ∧
      (n.toNat &&& 0xc0) >>> 6 = n.toNat / 64 := by
  have hall : ∀ m < 256, (m &&& 0xfc) >>> 2 = m / 4 ∧
      (m &&& 0xf0) >>> 4 = m / 16 ∧ (m &&& 0xc0) >>> 6 = m / 64 := by decide +kernel
  exact hall n.toNat n.toNat_lt

theorem mask_low (n : UInt8) :
    n.toNat &&& 0x03 = n.toNat % 4 ∧ n.toNat &&& 0x0f = n.toNat % 16 ∧
      n.toNat &&& 0x3f = n.toNat % 64 :=
  ⟨Nat.and_two_pow_sub_one_eq_mod _ 2, Nat.and_two_pow_sub_one_eq_mod _ 4,
    Nat.and_two_pow_sub_one_eq_mod _ 6⟩

theorem mask_middle {n : ℕ} (hn : n < 64) :
    (n &&& 0x30) >>> 4 = n / 16 ∧ (n &&& 0x3c) >>> 2 = n / 4 := by
  have hall : ∀ m < 64, (m &&& 0x30) >>> 4 = m / 16 ∧
      (m &&& 0x3c) >>> 2 = m / 4 := by decide +kernel
  exact hall n hn

/-! ## The decoder inverts the encoder -/

theorem indices_lt (first second third : UInt8) :
    ∀ index ∈ charArray4 first second third, index.toNat < 64 := by
  obtain ⟨hfc, -, -⟩ := mask_high first
  obtain ⟨-, hf0, -⟩ := mask_high second
  obtain ⟨-, -, hc0⟩ := mask_high third
  obtain ⟨h03, -, -⟩ := mask_low first
  obtain ⟨-, h0f, -⟩ := mask_low second
  obtain ⟨-, -, h3f⟩ := mask_low third
  have hfirst := first.toNat_lt
  have hsecond := second.toNat_lt
  have hthird := third.toNat_lt
  simp only [charArray4, hfc, hf0, hc0, h03, h0f, h3f, Nat.shiftLeft_eq,
    List.mem_cons, List.not_mem_nil, or_false, forall_eq_or_imp, forall_eq,
    UInt8.toNat_ofNat']
  refine ⟨?_, ?_, ?_, ?_⟩ <;> omega

theorem charArray3_charArray4 {first second third i j k l : UInt8}
    (hindices : charArray4 first second third = [i, j, k, l]) :
    charArray3 i j k l = [first, second, third] := by
  obtain ⟨hfc, -, -⟩ := mask_high first
  obtain ⟨-, hf0, -⟩ := mask_high second
  obtain ⟨-, -, hc0⟩ := mask_high third
  obtain ⟨h03, -, -⟩ := mask_low first
  obtain ⟨-, h0f, -⟩ := mask_low second
  obtain ⟨-, -, h3f⟩ := mask_low third
  have hfirst := first.toNat_lt
  have hsecond := second.toNat_lt
  have hthird := third.toNat_lt
  simp only [charArray4, hfc, hf0, hc0, h03, h0f, h3f, Nat.shiftLeft_eq,
    List.cons.injEq, and_true] at hindices
  obtain ⟨rfl, rfl, rfl, rfl⟩ := hindices
  have hj : first.toNat % 4 * 2 ^ 4 + second.toNat / 16 < 64 := by omega
  have hk : second.toNat % 16 * 2 ^ 2 + third.toNat / 64 < 64 := by omega
  have hjByte : (first.toNat % 4 * 2 ^ 4 + second.toNat / 16) % 2 ^ 8 =
      first.toNat % 4 * 2 ^ 4 + second.toNat / 16 :=
    Nat.mod_eq_of_lt (by omega)
  have hkByte : (second.toNat % 16 * 2 ^ 2 + third.toNat / 64) % 2 ^ 8 =
      second.toNat % 16 * 2 ^ 2 + third.toNat / 64 :=
    Nat.mod_eq_of_lt (by omega)
  obtain ⟨h30, -⟩ := mask_middle hj
  obtain ⟨-, h3c⟩ := mask_middle hk
  have hlowJ := Nat.and_two_pow_sub_one_eq_mod
    (first.toNat % 4 * 2 ^ 4 + second.toNat / 16) 4
  have hlowK := Nat.and_two_pow_sub_one_eq_mod
    (second.toNat % 16 * 2 ^ 2 + third.toNat / 64) 2
  norm_num only at hlowJ hlowK hjByte hkByte h30 h3c
  simp only [charArray3, UInt8.toNat_ofNat', Nat.shiftLeft_eq]
  norm_num only
  rw [hjByte, hkByte, h30, h3c, hlowJ, hlowK]
  simp only [List.cons.injEq, and_true]
  refine ⟨?_, ?_, ?_⟩ <;>
  · apply UInt8.toNat_inj.mp
    rw [UInt8.toNat_ofNat']
    omega

theorem takeWhile_base64Char {indices : List UInt8}
    (hindices : ∀ index ∈ indices, index.toNat < 64) (rest : Text) :
    (indices.map base64Char ++ rest).takeWhile
        (fun c => c != '=' && isBase64 c) =
      indices.map base64Char ++
        rest.takeWhile (fun c => c != '=' && isBase64 c) := by
  apply List.takeWhile_append_of_pos
  intro c hc
  obtain ⟨index, hmem, rfl⟩ := List.mem_map.mp hc
  exact isBase64_base64Char (hindices index hmem)

theorem base64Index_of_mem {indices : List UInt8}
    (hindices : ∀ index ∈ indices, index.toNat < 64) {index : UInt8}
    (hmem : index ∈ indices) : base64Index (base64Char index) = index :=
  base64Index_base64Char (hindices index hmem)

theorem base64Decode_base64Encode (data : Bytes) :
    base64Decode (base64Encode data) = data := by
  induction data using base64Encode.induct with
  | case1 => rfl
  | case2 a =>
      obtain ⟨i, j, k, l, hgroup⟩ : ∃ i j k l, charArray4 a 0 0 = [i, j, k, l] :=
        ⟨_, _, _, _, rfl⟩
      have hlt := indices_lt a 0 0
      rw [hgroup] at hlt
      have hpair : ∀ index ∈ [i, j], index.toNat < 64 :=
        fun index hmem => hlt index (List.mem_of_mem_take (i := 2) hmem)
      have hbytes := charArray3_charArray4 hgroup
      have htake : (charArray3 i j (base64Index '\x00')
          (base64Index '\x00')).take 1 = (charArray3 i j k l).take 1 := rfl
      have htext : base64Encode [a] =
          [i, j].map base64Char ++ ['=', '='] := by
        simp [base64Encode, hgroup]
      rw [base64Decode, htext, takeWhile_base64Char hpair]
      simp [base64Groups, base64Index_of_mem hpair, htake, hbytes]
  | case3 a b =>
      obtain ⟨i, j, k, l, hgroup⟩ : ∃ i j k l, charArray4 a b 0 = [i, j, k, l] :=
        ⟨_, _, _, _, rfl⟩
      have hlt := indices_lt a b 0
      rw [hgroup] at hlt
      have htriple : ∀ index ∈ [i, j, k], index.toNat < 64 :=
        fun index hmem => hlt index (List.mem_of_mem_take (i := 3) hmem)
      have hbytes := charArray3_charArray4 hgroup
      have htake : (charArray3 i j k (base64Index '\x00')).take 2 =
          (charArray3 i j k l).take 2 := rfl
      have htext : base64Encode [a, b] =
          [i, j, k].map base64Char ++ ['='] := by
        simp [base64Encode, hgroup]
      rw [base64Decode, htext, takeWhile_base64Char htriple]
      simp [base64Groups, base64Index_of_mem htriple, htake, hbytes]
  | case4 a b c rest ih =>
      obtain ⟨i, j, k, l, hgroup⟩ : ∃ i j k l, charArray4 a b c = [i, j, k, l] :=
        ⟨_, _, _, _, rfl⟩
      have hlt := indices_lt a b c
      rw [hgroup] at hlt
      have hbytes := charArray3_charArray4 hgroup
      rw [base64Decode] at ih
      rw [base64Decode, base64Encode, hgroup, takeWhile_base64Char hlt]
      simp [base64Groups, base64Index_of_mem hlt, hbytes, ih]

theorem nul_not_mem_base64Encode (data : Bytes) :
    '\x00' ∉ base64Encode data := by
  have hchar : ∀ first second third : UInt8,
      '\x00' ∉ (charArray4 first second third).map base64Char := by
    intro first second third hmem
    obtain ⟨index, hindex, hnul⟩ := List.mem_map.mp hmem
    have hbase := isBase64_base64Char (indices_lt first second third index hindex)
    rw [hnul] at hbase
    exact absurd hbase (by decide)
  induction data using base64Encode.induct with
  | case1 => simp [base64Encode]
  | case2 a =>
      have htake := fun hmem => hchar a 0 0 (List.mem_of_mem_take (i := 2) hmem)
      simpa [base64Encode] using htake
  | case3 a b =>
      have htake := fun hmem => hchar a b 0 (List.mem_of_mem_take (i := 3) hmem)
      simpa [base64Encode] using htake
  | case4 a b c rest ih =>
      rw [base64Encode, List.mem_append]
      exact not_or.mpr ⟨hchar a b c, ih⟩

end Dmsfwk
