import Dmsfwk.Base64

/-!
# The loops of the Base64 functions

`Base64Encode` and `Base64Decode` with their indices.  The encoder reads as many
bytes as its unsigned length says; the decoder counts the characters of a string
down in an `int`, so it is the codec of groups on strings of less than 2 GiB
only.
-/

namespace Dmsfwk
namespace Base64Loops

open ByteCodec

/-! ## Encoding -/

structure EncodeState where
  charArray3 : Bytes := []
  indices : List UInt8 := []

def encodeStep (state : EncodeState) (byte : UInt8) : EncodeState :=
  match state.charArray3 ++ [byte] with
  | [first, second, third] =>
      { indices := state.indices ++ charArray4 first second third }
  | charArray3 => { state with charArray3 := charArray3 }

def tailIndices : Bytes → List UInt8
  | [first] => (charArray4 first 0 0).take 2
  | [first, second] => (charArray4 first second 0).take 3
  | _ => []

def padding : Bytes → Text
  | [_] => ['=', '=']
  | [_, _] => ['=']
  | _ => []

/-- What the encoder reads of a byte string, whose length it gets as an
`unsigned int`. -/
def encoded (toEncode : Bytes) : Bytes :=
  toEncode.take (UInt32.ofNat toEncode.length).toNat

def tableIndices (toEncode : Bytes) : List UInt8 :=
  let last := (encoded toEncode).foldl encodeStep {}
  last.indices ++ tailIndices last.charArray3

def base64Encode (toEncode : Bytes) : Text :=
  (tableIndices toEncode).map base64Char ++
    padding ((encoded toEncode).foldl encodeStep {}).charArray3

/-! ## Decoding -/

structure DecodeState where
  charArray4 : Text := []
  ret : Bytes := []

def decodeStep (state : DecodeState) (c : Char) : DecodeState :=
  match state.charArray4 ++ [c] with
  | [first, second, third, forth] =>
      { ret := state.ret ++ charArray3 (base64Index first) (base64Index second)
          (base64Index third) (base64Index forth) }
  | charArray4 => { state with charArray4 := charArray4 }

def intMin : ℤ := -2147483648

def isEncoded (c : Char) : Bool :=
  c != '=' && isBase64 c

/-- The loop of the decoder over what is left of the string, with the positions
it reads.  It has no meaning when `len--` overflows. -/
def decodeLoop (state : DecodeState) (index : ℕ) (len : ℤ) :
    Text → Option (List ℕ × DecodeState)
  | [] =>
      if len = intMin then none
      else if len = 0 then some ([], state)
      -- the terminating null character
      else some ([index], state)
  | c :: rest =>
      if len = intMin then none
      else if len = 0 then some ([], state)
      else if isEncoded c then
        (decodeLoop (decodeStep state c) (index + 1) (len - 1) rest).map
          fun read => (index :: read.1, read.2)
      else some ([index], state)

/-- The bytes behind an incomplete group are the ones of `base64Groups`. -/
def DecodeState.bytes (state : DecodeState) : Bytes :=
  state.ret ++ base64Groups state.charArray4

def base64Decode (basicString : Text) : Option (List ℕ × Bytes) :=
  if basicString = [] then some ([], [])
  else
    (decodeLoop {} 0 (Int32.ofNat basicString.length).toInt basicString).map
      fun read => (read.1, read.2.bytes)

/-! ## The groups of the encoder -/

theorem foldl_encodeStep (toEncode : Bytes) (indices : List UInt8) :
    ((toEncode.foldl encodeStep { indices }).indices ++
        tailIndices (toEncode.foldl encodeStep { indices }).charArray3).map
          base64Char ++
      padding (toEncode.foldl encodeStep { indices }).charArray3 =
      indices.map base64Char ++ Dmsfwk.base64Encode toEncode := by
  induction toEncode using Dmsfwk.base64Encode.induct generalizing indices with
  | case1 => simp [tailIndices, padding, Dmsfwk.base64Encode]
  | case2 first =>
      simp [encodeStep, tailIndices, padding, Dmsfwk.base64Encode]
  | case3 first second =>
      simp [encodeStep, tailIndices, padding, Dmsfwk.base64Encode]
  | case4 first second third rest ih =>
      have hgroup := ih (indices ++ charArray4 first second third)
      simp only [List.foldl_cons, encodeStep, List.nil_append,
        List.cons_append] at hgroup ⊢
      rw [hgroup, Dmsfwk.base64Encode, List.map_append, List.append_assoc]

theorem base64Encode_eq (toEncode : Bytes) :
    base64Encode toEncode = Dmsfwk.base64Encode (encoded toEncode) :=
  foldl_encodeStep (encoded toEncode) []

theorem foldl_encodeStep_lt (toEncode : Bytes) {state : EncodeState}
    (hstate : ∀ index ∈ state.indices, index.toNat < 64) :
    ∀ index ∈ (toEncode.foldl encodeStep state).indices, index.toNat < 64 := by
  induction toEncode generalizing state with
  | nil => exact hstate
  | cons byte toEncode ih =>
      apply ih
      intro index hmem
      unfold encodeStep at hmem
      split at hmem
      · rcases List.mem_append.mp hmem with hold | hnew
        · exact hstate index hold
        · exact indices_lt _ _ _ index hnew
      · exact hstate index hmem

theorem indices_foldl_lt (toEncode : Bytes) :
    ∀ index ∈ (toEncode.foldl encodeStep {}).indices ++
      tailIndices (toEncode.foldl encodeStep {}).charArray3,
        index.toNat < 64 := by
  intro index hmem
  rcases List.mem_append.mp hmem with hloop | htail
  · exact foldl_encodeStep_lt _ (by simp) index hloop
  · unfold tailIndices at htail
    split at htail
    · exact indices_lt _ _ _ index (List.mem_of_mem_take htail)
    · exact indices_lt _ _ _ index (List.mem_of_mem_take htail)
    · cases htail

theorem tableIndices_lt (toEncode : Bytes) :
    ∀ index ∈ tableIndices toEncode, index.toNat < 64 :=
  indices_foldl_lt (encoded toEncode)

theorem encoded_of_lt {toEncode : Bytes} (hlt : toEncode.length < 2 ^ 32) :
    encoded toEncode = toEncode := by
  rw [encoded, UInt32.toNat_ofNat', Nat.mod_eq_of_lt hlt, List.take_length]

theorem length_base64Encode (data : Bytes) :
    (Dmsfwk.base64Encode data).length = 4 * ((data.length + 2) / 3) := by
  induction data using Dmsfwk.base64Encode.induct with
  | case1 => rfl
  | case2 first => simp [Dmsfwk.base64Encode, charArray4]
  | case3 first second => simp [Dmsfwk.base64Encode, charArray4]
  | case4 first second third rest ih =>
      rw [Dmsfwk.base64Encode, List.length_append, ih]
      simp only [charArray4, List.map_cons, List.map_nil, List.length_cons,
        List.length_nil]
      omega

/-! ## The groups of the decoder -/

theorem base64Groups_append_four (first second third forth : Char) (rest : Text) :
    base64Groups (first :: second :: third :: forth :: rest) =
      charArray3 (base64Index first) (base64Index second) (base64Index third)
        (base64Index forth) ++ base64Groups rest := rfl

theorem length_charArray4_decodeStep {state : DecodeState}
    (hstate : state.charArray4.length < 4) (c : Char) :
    (decodeStep state c).charArray4.length < 4 := by
  unfold decodeStep
  split
  · exact Nat.zero_lt_succ 3
  · next hgroup =>
      rw [List.length_append, List.length_singleton]
      by_contra hlong
      obtain ⟨first, second, third, hthree⟩ :
          ∃ first second third, state.charArray4 = [first, second, third] :=
        List.length_eq_three.mp (by omega)
      rw [hthree] at hgroup
      exact hgroup first second third c rfl

theorem bytes_decodeStep {state : DecodeState}
    (c : Char) (rest : Text) :
    (decodeStep state c).ret ++
        base64Groups ((decodeStep state c).charArray4 ++ rest) =
      state.ret ++ base64Groups (state.charArray4 ++ c :: rest) := by
  have hopen : state.charArray4 ++ c :: rest =
      (state.charArray4 ++ [c]) ++ rest := by
    simp
  unfold decodeStep
  rw [hopen]
  split
  · next first second third forth hgroup =>
      rw [hgroup]
      simp only [List.cons_append, List.nil_append, base64Groups_append_four,
        List.append_assoc]
  · rfl

theorem decodeLoop_of_nonneg {state : DecodeState}
    (hstate : state.charArray4.length < 4) (index len : ℕ) (rest : Text) :
    ∃ read, decodeLoop state index len rest = some read ∧
      read.2.bytes = state.ret ++ base64Groups (state.charArray4 ++
        (rest.take len).takeWhile isEncoded) ∧
      (len ≤ rest.length → ∀ position ∈ read.1,
        position < index + rest.length) := by
  have hmin : ∀ n : ℕ, (n : ℤ) ≠ intMin := by
    intro n
    unfold intMin
    omega
  induction rest generalizing state index len with
  | nil =>
      rw [decodeLoop, if_neg (hmin len)]
      split_ifs with hzero
      · exact ⟨_, rfl, by simp [DecodeState.bytes], by simp⟩
      · refine ⟨_, rfl, by simp [DecodeState.bytes], fun hle => ?_⟩
        exact absurd (Nat.le_zero.mp hle) (by exact_mod_cast hzero)
  | cons c rest ih =>
      rw [decodeLoop, if_neg (hmin len)]
      cases len with
      | zero => exact ⟨_, rfl, by simp [DecodeState.bytes], by simp⟩
      | succ len =>
          rw [if_neg (by omega), List.take_succ_cons, List.takeWhile_cons]
          split_ifs with hencoded
          · have hlen : ((len + 1 : ℕ) : ℤ) - 1 = (len : ℕ) := by omega
            obtain ⟨read, hread, hbytes, hinside⟩ :=
              ih (length_charArray4_decodeStep hstate c) (index + 1) len
            rw [hlen, hread]
            refine ⟨_, rfl, ?_, ?_⟩
            · rw [← bytes_decodeStep]
              exact hbytes
            · intro hle position hmem
              rw [List.length_cons] at hle ⊢
              rcases List.mem_cons.mp hmem with rfl | hmem
              · omega
              · have hlt := hinside (by omega) position hmem
                omega
          · refine ⟨_, rfl, by simp [DecodeState.bytes], ?_⟩
            intro _ position hmem
            rw [List.mem_singleton.mp hmem, List.length_cons]
            omega

theorem decodeLoop_of_neg {state : DecodeState} (index : ℕ) {len : ℤ}
    (hneg : len < 0) (hmin : intMin ≤ len) (rest : Text) :
    (decodeLoop state index len rest).isSome ↔
      ((rest.takeWhile isEncoded).length : ℤ) < len - intMin := by
  induction rest generalizing state index len with
  | nil =>
      rw [decodeLoop, if_neg hneg.ne]
      split_ifs with hoverflow
      · simp [hoverflow]
      · refine iff_of_true rfl ?_
        have hlt := lt_of_le_of_ne hmin (Ne.symm hoverflow)
        simpa using hlt
  | cons c rest ih =>
      rw [decodeLoop, if_neg hneg.ne, List.takeWhile_cons]
      by_cases hoverflow : len = intMin
      · rw [if_pos hoverflow, hoverflow, sub_self]
        exact iff_of_false Bool.false_ne_true (not_lt.mpr (Int.natCast_nonneg _))
      · have hlt := lt_of_le_of_ne hmin (Ne.symm hoverflow)
        rw [if_neg hoverflow]
        split_ifs with hencoded
        · rw [Option.isSome_map, ih (index + 1) (by omega) (by omega),
            List.length_cons]
          omega
        · refine iff_of_true rfl ?_
          rw [List.length_nil]
          omega

theorem reads_of_neg {state : DecodeState} {index : ℕ} {len : ℤ}
    (hneg : len < 0) (hmin : intMin ≤ len) {rest : Text}
    (hlong : len - intMin ≤ rest.length) {read : List ℕ × DecodeState}
    (hread : decodeLoop state index len rest = some read) :
    ∀ position ∈ read.1, position < index + rest.length := by
  induction rest generalizing state index len read with
  | nil =>
      have hoverflow : len = intMin :=
        le_antisymm (sub_nonpos.mp hlong) hmin
      rw [decodeLoop, if_pos hoverflow] at hread
      cases hread
  | cons c rest ih =>
      intro position hmem
      rw [decodeLoop, if_neg hneg.ne] at hread
      rw [List.length_cons] at hlong ⊢
      split_ifs at hread with hoverflow hencoded
      · obtain ⟨next, hnext, rfl⟩ := Option.map_eq_some_iff.mp hread
        have hlt := lt_of_le_of_ne hmin (Ne.symm hoverflow)
        rcases List.mem_cons.mp hmem with rfl | hmem
        · omega
        · have hinside := ih (by omega) (by omega) (by omega) hnext position hmem
          omega
      · cases hread
        rw [List.mem_singleton.mp hmem]
        omega

/-! ## Strings of every length -/

/-- The count of the loop reaches 0, or a character outside the alphabet comes
before it overflows. -/
def LenFits (basicString : Text) : Prop :=
  basicString.length % 2 ^ 32 < 2 ^ 31 ∨
    (basicString.takeWhile isEncoded).length + 2 ^ 31 <
      basicString.length % 2 ^ 32

theorem toInt_len (size : ℕ) :
    (Int32.ofNat size).toInt =
      if size % 2 ^ 32 < 2 ^ 31 then ((size % 2 ^ 32 : ℕ) : ℤ)
      else ((size % 2 ^ 32 : ℕ) : ℤ) - 2 ^ 32 := by
  have hsize : Int32.size = 2 ^ 32 := rfl
  rw [Int32.toInt_ofNat', Int.bmod_def, hsize]
  split_ifs <;> omega

theorem isSome_base64Decode_iff (basicString : Text) :
    (base64Decode basicString).isSome ↔ LenFits basicString := by
  unfold base64Decode LenFits
  by_cases hempty : basicString = []
  · rw [if_pos hempty, hempty]
    exact iff_of_true rfl (Or.inl (by decide))
  rw [if_neg hempty, toInt_len, Option.isSome_map]
  have hmod := Nat.mod_lt basicString.length (by decide : 0 < 2 ^ 32)
  split_ifs with hsmall
  · obtain ⟨read, hread, -⟩ := decodeLoop_of_nonneg
      (by decide : ({} : DecodeState).charArray4.length < 4) 0
      (basicString.length % 2 ^ 32) basicString
    rw [hread]
    exact iff_of_true rfl (Or.inl hsmall)
  · rw [decodeLoop_of_neg 0 (by omega) (by unfold intMin; omega)]
    unfold intMin
    omega

variable {basicString : Text}

theorem base64Decode_inside {read : List ℕ × Bytes}
    (hdecode : base64Decode basicString = some read) :
    ∀ position ∈ read.1, position < basicString.length := by
  unfold base64Decode at hdecode
  by_cases hempty : basicString = []
  · rw [if_pos hempty] at hdecode
    cases hdecode
    exact nofun
  rw [if_neg hempty, toInt_len] at hdecode
  obtain ⟨found, hfound, rfl⟩ := Option.map_eq_some_iff.mp hdecode
  have hmod := Nat.mod_lt basicString.length (by decide : 0 < 2 ^ 32)
  have hle := Nat.mod_le basicString.length (2 ^ 32)
  intro position hmem
  rw [← Nat.zero_add basicString.length]
  split_ifs at hfound with hsmall
  · obtain ⟨other, hother, -, hinside⟩ := decodeLoop_of_nonneg
      (by decide : ({} : DecodeState).charArray4.length < 4) 0
      (basicString.length % 2 ^ 32) basicString
    obtain rfl := Option.some.inj (hother.symm.trans hfound)
    exact hinside hle position hmem
  · refine reads_of_neg (by omega) ?_ ?_ hfound position hmem
    · unfold intMin
      omega
    · unfold intMin
      omega

theorem base64Decode_of_small (hsmall : basicString.length % 2 ^ 32 < 2 ^ 31) :
    (base64Decode basicString).map Prod.snd =
      some (Dmsfwk.base64Decode
        (basicString.take (basicString.length % 2 ^ 32))) := by
  unfold base64Decode
  by_cases hempty : basicString = []
  · rw [if_pos hempty, hempty]
    rfl
  · obtain ⟨read, hread, hbytes, -⟩ := decodeLoop_of_nonneg
      (by decide : ({} : DecodeState).charArray4.length < 4) 0
      (basicString.length % 2 ^ 32) basicString
    rw [if_neg hempty, toInt_len, if_pos hsmall, hread]
    exact congrArg some hbytes

theorem base64Decode_of_lt (hlt : basicString.length < 2 ^ 31) :
    (base64Decode basicString).map Prod.snd =
      some (Dmsfwk.base64Decode basicString) := by
  have hmod : basicString.length % 2 ^ 32 = basicString.length :=
    Nat.mod_eq_of_lt (by omega)
  rw [base64Decode_of_small (by omega), hmod, List.take_length]

theorem length_base64Groups_le (text : Text) :
    4 * (base64Groups text).length ≤ 3 * text.length := by
  induction text using base64Groups.induct with
  | case1 => exact Nat.le_refl 0
  | case2 first => simp [base64Groups]
  | case3 first second => simp [base64Groups, charArray3]
  | case4 first second third => simp [base64Groups, charArray3]
  | case5 first second third forth rest ih =>
      rw [base64Groups, List.length_append]
      simp only [charArray3, List.length_cons, List.length_nil]
      omega

theorem length_of_long {data : Bytes} (hlong : 2 ^ 31 ≤ basicString.length)
    (hencoded : basicString.length ≤
      (basicString.takeWhile isEncoded).length + 2)
    (hdecode : (base64Decode basicString).map Prod.snd = some data) :
    2 ^ 32 ≤ basicString.length ∧ 4 * data.length < 3 * 2 ^ 31 := by
  obtain ⟨read, hread, hdata⟩ := Option.map_eq_some_iff.mp hdecode
  by_cases hsmall : basicString.length % 2 ^ 32 < 2 ^ 31
  · have hle := length_base64Groups_le
      ((basicString.take (basicString.length % 2 ^ 32)).takeWhile isEncoded)
    have htake := (List.takeWhile_sublist isEncoded (l := basicString.take
      (basicString.length % 2 ^ 32))).length_le
    rw [base64Decode_of_small hsmall] at hdecode
    rw [← Option.some.inj hdecode]
    rw [List.length_take] at htake
    refine ⟨by omega, ?_⟩
    have hgroups : (Dmsfwk.base64Decode (basicString.take
        (basicString.length % 2 ^ 32))).length = (base64Groups
      ((basicString.take (basicString.length % 2 ^ 32)).takeWhile
        isEncoded)).length := rfl
    omega
  · have hle := Nat.mod_le basicString.length (2 ^ 32)
    have hfits : LenFits basicString := (isSome_base64Decode_iff basicString).mp
      (Option.isSome_iff_exists.mpr ⟨read, hread⟩)
    rcases hfits with hfits | hfits
    · exact absurd hfits hsmall
    · omega

/-! ## Canonical strings -/

/-- Groups of four characters of the alphabet, the last one with a padding whose
bits are not used. -/
def Canonical : Text → Prop
  | [] => True
  | [a, b, c, d] =>
      isBase64 a = true ∧ isBase64 b = true ∧
        ((c = '=' ∧ d = '=' ∧ (base64Index b).toNat % 16 = 0) ∨
          (isBase64 c = true ∧ d = '=' ∧ (base64Index c).toNat % 4 = 0) ∨
          (isBase64 c = true ∧ isBase64 d = true))
  | a :: b :: c :: d :: rest =>
      isBase64 a = true ∧ isBase64 b = true ∧ isBase64 c = true ∧
        isBase64 d = true ∧ Canonical rest
  | _ => False

theorem base64Char_base64Index {c : Char} (hbase : isBase64 c = true) :
    base64Char (base64Index c) = c ∧ (base64Index c).toNat < 64 := by
  have hall : ∀ n < 128, isBase64 (Char.ofNat n) = true →
      base64Char (base64Index (Char.ofNat n)) = Char.ofNat n ∧
        (base64Index (Char.ofNat n)).toNat < 64 := by
    decide +kernel
  have hascii : c.toNat < 128 := by
    have hbelow : ∀ {high : UInt32}, high.toNat < 128 → c.val ≤ high →
        c.toNat < 128 :=
      fun hhigh hle => (UInt32.le_iff_toNat_le.mp hle).trans_lt hhigh
    rcases Bool.or_eq_true_iff.mp hbase with hbase | hslash
    · rcases Bool.or_eq_true_iff.mp hbase with halphanum | hplus
      · rcases Bool.or_eq_true_iff.mp halphanum with halpha | hdigit
        · rcases Bool.or_eq_true_iff.mp halpha with hupper | hlower
          · exact hbelow (by decide) (of_decide_eq_true hupper).2
          · have hrange := Bool.and_eq_true_iff.mp hlower
            exact hbelow (by decide) (of_decide_eq_true hrange.2)
        · have hrange := Bool.and_eq_true_iff.mp hdigit
          exact hbelow (by decide) (of_decide_eq_true hrange.2)
      · rw [beq_iff_eq.mp hplus]
        decide
    · rw [beq_iff_eq.mp hslash]
      decide
  have hfound := hall c.toNat hascii
  rw [Char.ofNat_toNat] at hfound
  exact hfound hbase

theorem charArray4_charArray3 {i j k l : UInt8} (hi : i.toNat < 64)
    (hj : j.toNat < 64) (hk : k.toNat < 64) (hl : l.toNat < 64)
    {first second third : UInt8}
    (hbytes : charArray3 i j k l = [first, second, third]) :
    charArray4 first second third = [i, j, k, l] := by
  obtain ⟨hj30, -⟩ := mask_middle hj
  obtain ⟨-, hk3c⟩ := mask_middle hk
  obtain ⟨-, hjf, -⟩ := mask_low j
  obtain ⟨hk3, -, -⟩ := mask_low k
  simp only [charArray3, hj30, hk3c, hjf, hk3, Nat.shiftLeft_eq,
    List.cons.injEq, and_true] at hbytes
  obtain ⟨hfirst, hsecond, hthird⟩ := hbytes
  have hfirstNat := congrArg UInt8.toNat hfirst
  have hsecondNat := congrArg UInt8.toNat hsecond
  have hthirdNat := congrArg UInt8.toNat hthird
  rw [UInt8.toNat_ofNat'] at hfirstNat hsecondNat hthirdNat
  obtain ⟨hfc, -, -⟩ := mask_high first
  obtain ⟨-, hf0, -⟩ := mask_high second
  obtain ⟨-, -, hc0⟩ := mask_high third
  obtain ⟨h03, -, -⟩ := mask_low first
  obtain ⟨-, h0f, -⟩ := mask_low second
  obtain ⟨-, -, h3f⟩ := mask_low third
  simp only [charArray4, hfc, hf0, hc0, h03, h0f, h3f, Nat.shiftLeft_eq,
    List.cons.injEq, and_true]
  refine ⟨?_, ?_, ?_, ?_⟩ <;>
  · apply UInt8.toNat_inj.mp
    rw [UInt8.toNat_ofNat']
    omega

theorem base64Encode_group {a b c d : Char} (ha : isBase64 a = true)
    (hb : isBase64 b = true) (hc : isBase64 c = true) (hd : isBase64 d = true) :
    ∃ first second third, ∀ rest, Dmsfwk.base64Encode
        (first :: second :: third :: rest) =
      [a, b, c, d] ++ Dmsfwk.base64Encode rest := by
  obtain ⟨haChar, ha⟩ := base64Char_base64Index ha
  obtain ⟨hbChar, hb⟩ := base64Char_base64Index hb
  obtain ⟨hcChar, hc⟩ := base64Char_base64Index hc
  obtain ⟨hdChar, hd⟩ := base64Char_base64Index hd
  obtain ⟨first, second, third, hbytes⟩ : ∃ first second third,
      charArray3 (base64Index a) (base64Index b) (base64Index c)
        (base64Index d) = [first, second, third] := ⟨_, _, _, rfl⟩
  refine ⟨first, second, third, fun rest => ?_⟩
  rw [Dmsfwk.base64Encode, charArray4_charArray3 ha hb hc hd hbytes]
  simp only [List.map_cons, List.map_nil, haChar, hbChar, hcChar, hdChar]

theorem Canonical.exists_base64Encode (hcanonical : Canonical basicString) :
    ∃ data, basicString = Dmsfwk.base64Encode data := by
  induction basicString using Canonical.induct with
  | case1 => exact ⟨[], rfl⟩
  | case2 a b c d =>
      obtain ⟨ha, hb, hlast⟩ := hcanonical
      obtain ⟨haChar, haLt⟩ := base64Char_base64Index ha
      obtain ⟨hbChar, hbLt⟩ := base64Char_base64Index hb
      obtain ⟨-, hbf, -⟩ := mask_low (base64Index b)
      rcases hlast with ⟨rfl, rfl, hbits⟩ | ⟨hc, rfl, hbits⟩ | ⟨hc, hd⟩
      · obtain ⟨first, hbytes⟩ : ∃ first,
            charArray3 (base64Index a) (base64Index b) 0 0 = [first, 0, 0] := by
          simp only [charArray3, hbf, hbits]
          exact ⟨_, rfl⟩
        refine ⟨[first], ?_⟩
        rw [Dmsfwk.base64Encode,
          charArray4_charArray3 haLt hbLt (by decide) (by decide) hbytes]
        simp [haChar, hbChar]
      · obtain ⟨hcChar, hcLt⟩ := base64Char_base64Index hc
        obtain ⟨hc3, -, -⟩ := mask_low (base64Index c)
        obtain ⟨first, second, hbytes⟩ : ∃ first second,
            charArray3 (base64Index a) (base64Index b) (base64Index c) 0 =
              [first, second, 0] := by
          simp only [charArray3, hc3, hbits]
          exact ⟨_, _, rfl⟩
        refine ⟨[first, second], ?_⟩
        rw [Dmsfwk.base64Encode,
          charArray4_charArray3 haLt hbLt hcLt (by decide) hbytes]
        simp [haChar, hbChar, hcChar]
      · obtain ⟨first, second, third, hgroup⟩ := base64Encode_group ha hb hc hd
        exact ⟨[first, second, third], (hgroup []).symm⟩
  | case3 a b c d rest hrest ih =>
      rw [Canonical.eq_3 _ _ _ _ _ hrest] at hcanonical
      obtain ⟨ha, hb, hc, hd, hcanonical⟩ := hcanonical
      obtain ⟨data, rfl⟩ := ih hcanonical
      obtain ⟨first, second, third, hgroup⟩ := base64Encode_group ha hb hc hd
      exact ⟨first :: second :: third :: data, (hgroup data).symm⟩
  | case4 basicString hempty hfour hlonger =>
      rw [Canonical.eq_4 _ hempty hfour hlonger] at hcanonical
      exact hcanonical.elim

theorem length_le_takeWhile (data : Bytes) :
    (Dmsfwk.base64Encode data).length ≤
      ((Dmsfwk.base64Encode data).takeWhile isEncoded).length + 2 := by
  have hloop := foldl_encodeStep data []
  rw [List.map_nil, List.nil_append] at hloop
  have hpadding : ∀ filled : Bytes, (padding filled).length ≤ 2 := by
    intro filled
    unfold padding
    split <;> decide
  have htaken := takeWhile_base64Char (indices_foldl_lt data)
    (padding (data.foldl encodeStep {}).charArray3)
  have hlast := hpadding (data.foldl encodeStep {}).charArray3
  rw [← hloop, show isEncoded = fun c => c != '=' && isBase64 c from rfl, htaken,
    List.length_append, List.length_append]
  omega

/-! ## The round trips -/

theorem decode_long {data : Bytes} {read : Bytes}
    (hlong : 2 ^ 31 ≤ (Dmsfwk.base64Encode data).length)
    (hdecode : (base64Decode (Dmsfwk.base64Encode data)).map Prod.snd =
      some read) :
    2 ^ 32 ≤ (Dmsfwk.base64Encode data).length ∧ 4 * read.length < 3 * 2 ^ 31 :=
  length_of_long hlong (length_le_takeWhile data) hdecode

theorem decode_encode_iff (data : Bytes) :
    (base64Decode (base64Encode data)).map Prod.snd = some data ↔
      4 * ((data.length + 2) / 3) < 2 ^ 31 := by
  have hlength := length_base64Encode (encoded data)
  have hencoded : (encoded data).length = data.length % 2 ^ 32 := by
    rw [encoded, List.length_take, UInt32.toNat_ofNat',
      Nat.min_eq_left (Nat.mod_le _ _)]
  rw [base64Encode_eq]
  constructor
  · intro hround
    by_contra hlong
    by_cases hshort : (Dmsfwk.base64Encode (encoded data)).length < 2 ^ 31
    · rw [base64Decode_of_lt hshort, base64Decode_base64Encode] at hround
      have hall := Option.some.inj hround
      rw [hall] at hlength hencoded hshort
      omega
    · have hread := decode_long (not_lt.mp hshort) hround
      omega
  · intro hshort
    have hall : encoded data = data := encoded_of_lt (by omega)
    rw [hall] at hlength ⊢
    rw [base64Decode_of_lt (by omega), base64Decode_base64Encode]

theorem encode_decode_iff (hcanonical : Canonical basicString) :
    (base64Decode basicString).map (fun read => base64Encode read.2) =
        some basicString ↔ basicString.length < 2 ^ 31 := by
  obtain ⟨data, rfl⟩ := hcanonical.exists_base64Encode
  have hlength := length_base64Encode data
  have hmap : (base64Decode (Dmsfwk.base64Encode data)).map
      (fun read => base64Encode read.2) =
        ((base64Decode (Dmsfwk.base64Encode data)).map Prod.snd).map
          base64Encode := by
    rw [Option.map_map]
    rfl
  rw [hmap]
  constructor
  · intro hround
    by_contra hlong
    obtain ⟨read, hread, htext⟩ := Option.map_eq_some_iff.mp hround
    have hshort := decode_long (not_lt.mp hlong) hread
    have hall : encoded read = read := encoded_of_lt (by omega)
    have hreadLength := length_base64Encode read
    rw [base64Encode_eq, hall] at htext
    rw [htext] at hreadLength
    omega
  · intro hshort
    have hall : encoded data = data := encoded_of_lt (by omega)
    rw [base64Decode_of_lt hshort, base64Decode_base64Encode, Option.map_some,
      base64Encode_eq, hall]

/-- The codec inverts itself on texts of less than 2 GiB, and on no others; the
decoder stays inside the string unless its count overflows. -/
theorem base64_iff (data : Bytes) (basicString : Text) :
    ((base64Decode (base64Encode data)).map Prod.snd = some data ↔
      4 * ((data.length + 2) / 3) < 2 ^ 31) ∧
    (∀ index ∈ tableIndices data, index.toNat < 64) ∧
    (Canonical basicString →
      ((base64Decode basicString).map (fun read => base64Encode read.2) =
        some basicString ↔ basicString.length < 2 ^ 31)) ∧
    ((∃ read, base64Decode basicString = some read ∧
        ∀ position ∈ read.1, position < basicString.length) ↔
      LenFits basicString) := by
  refine ⟨decode_encode_iff data, tableIndices_lt data, encode_decode_iff, ?_⟩
  rw [← isSome_base64Decode_iff, Option.isSome_iff_exists]
  exact exists_congr fun read => and_iff_left_of_imp base64Decode_inside

theorem base64_padded :
    (base64Decode ['b', 'g', '=', '=']).map (fun read => base64Encode read.2) =
      some ['b', 'g', '=', '='] :=
  ((base64_iff [110] ['b', 'g', '=', '=']).2.2.1
    (by simp only [Canonical]; decide)).mpr (by decide)

/-- The text of 1.5 GiB of bytes is too long for the count. -/
theorem not_decoded_longData :
    ¬ ∀ data : Bytes, data ≠ [] →
      (base64Decode (base64Encode data)).map Prod.snd = some data := by
  intro hall
  have hlength : (List.replicate 1610612734 (0 : UInt8)).length = 1610612734 :=
    List.length_replicate
  have hround := (decode_encode_iff (List.replicate 1610612734 0)).mp
    (hall _ (List.ne_nil_of_length_pos (by omega)))
  omega

end Base64Loops
end Dmsfwk
