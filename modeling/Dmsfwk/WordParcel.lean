import Dmsfwk.ParcelPrimitives
import Dmsfwk.TlvFields
import Dmsfwk.WantParamsArrival

/-!
# A parcel of words

A parcel whose numbers are words of four or eight bytes and whose strings are
known.  What it takes for a number are the bytes of the number, so that it takes
no byte other than zero for nothing.
-/

namespace Dmsfwk

open StreamCodec ByteCodec
open DistributedWantParams (writeWord readWord refuse carries_wordOf
  shortStr8ToStr16 shortStr16ToStr8)

section Words

variable {T : Type}

def readWordAs (size : ℕ) (ofWord : ℕ → Option T) : Reader T := do
  let some value := ofWord (← readWord size) | failure
  return value

theorem nonzero_eq_zero {bytes : List UInt8} (hzero : nonzero bytes = 0) :
    leValue bytes = 0 := by
  induction bytes with
  | nil => rfl
  | cons byte bytes ih =>
      rw [nonzero, List.countP_eq_zero] at hzero
      obtain ⟨hbyte, hrest⟩ := List.forall_mem_cons.mp hzero
      have hrest : nonzero bytes = 0 := List.countP_eq_zero.mpr hrest
      have hbyte : byte = 0 := by simpa using hbyte
      rw [leValue, ih hrest, hbyte]
      rfl

theorem cost_writeWord (size word : ℕ) :
    cost (writeWord size word) = nonzero (leBytes size word) := rfl

theorem cost_writeWord_eq_zero {size word : ℕ} (hword : word < 256 ^ size)
    (hzero : cost (writeWord size word) = 0) : word = 0 := by
  rw [← leValue_leBytes hword]
  exact nonzero_eq_zero hzero

theorem appends_writeWord (size word : ℕ) :
    Appends (writeWord size word) (cost (writeWord size word)) := by
  rintro data _ ⟨⟩
  exact ⟨leBytes size word, rfl, le_rfl⟩

theorem takes_readWord (size : ℕ) :
    Takes (readWord size) fun word taken =>
      word < 256 ^ size ∧ cost (writeWord size word) = taken := by
  intro data cursor word next hword
  unfold DistributedWantParams.readWord at hword
  split_ifs at hword with hfits
  cases hword
  have hlength : ((data.drop cursor).take size).length = size := by
    rw [List.length_take, List.length_drop]
    omega
  have hbytes := TlvCodec.leBytes_leValue ((data.drop cursor).take size)
  have hlt := TlvCodec.leValue_lt ((data.drop cursor).take size)
  rw [hlength] at hbytes hlt
  refine ⟨Nat.le_add_right _ _, nonzero ((data.drop cursor).take size), ?_, hlt,
    ?_⟩
  · rw [← List.drop_drop, ← nonzero_append, List.take_append_drop]
  · rw [cost_writeWord, hbytes]

theorem nonzero_leBytes_zero (size : ℕ) : nonzero (leBytes size 0) = 0 := by
  induction size with
  | zero => rfl
  | succ size ih =>
      rw [nonzero, List.countP_eq_zero] at ih
      rw [nonzero, List.countP_eq_zero]
      exact List.forall_mem_cons.mpr ⟨by decide, ih⟩

theorem takes_readWordAs {size : ℕ} {toWord : T → ℕ} {ofWord : ℕ → Option T}
    (hback : ∀ word value, word < 256 ^ size → ofWord word = some value →
      toWord value = word) :
    Takes (readWordAs size ofWord) fun value taken =>
      cost (writeWord size (toWord value)) ≤ taken := by
  refine Takes.bind ((takes_readWord size).imp fun word taken hword => ?_)
  cases hvalue : ofWord word with
  | none => exact Takes.failure
  | some value =>
      apply Takes.pure
      rw [hback word value hword.1 hvalue, hword.2]
      exact le_rfl

theorem accounts_word {size : ℕ} {toWord : T → ℕ} {ofWord : ℕ → Option T}
    {default : T} (hdefault : toWord default = 0)
    (hback : ∀ word value, word < 256 ^ size → ofWord word = some value →
      toWord value = word) :
    Accounts (fun value => writeWord size (toWord value))
      (orDefault (readWordAs size ofWord) default) where
  appends value := appends_writeWord size (toWord value)
  takes := by
    apply (takes_readWordAs hback).orDefault
    rw [hdefault, cost_writeWord, nonzero_leBytes_zero]

theorem transfers_word {size word : ℕ} {ofWord : ℕ → Option T} {value : T}
    (hword : word < 256 ^ size) (hvalue : ofWord word = some value) :
    Transfers (writeWord size word) (readWordAs size ofWord) value := by
  have htransfer : Transfers (writeWord size word) (readWord size) word :=
    (DistributedWantParams.carries_word hword).transfers fun _ => rfl
  exact htransfer.bind_pure (by simp only [hvalue])

end Words

/-! ## Known strings -/

def primitiveStrings : List U16String :=
  [[], ['a'], ['b'], ['c'], ['d']].map asciiToStr16

def writeKnown (units : U16String) : Writer :=
  if units ∈ primitiveStrings then appendImage string16Image units else refuse

def readString (data : List UInt8) (cursor : ℕ) : U16String × ℕ :=
  (readKnown string16Image primitiveStrings data cursor).getD ([], cursor)

theorem transfers_primitiveString {units : U16String}
    (hknown : units ∈ primitiveStrings) :
    Transfers (writeKnown units) (fun data cursor => some (readString data cursor))
      units := by
  have hapart : ∀ units ∈ primitiveStrings, ∀ other ∈ primitiveStrings,
      other = units ∨ (¬ string16Image other <+: string16Image units ∧
        ¬ string16Image units <+: string16Image other) := by decide
  have hwrite : writeKnown units = appendImage string16Image units :=
    if_pos hknown
  rw [hwrite]
  exact (transfers_known hknown (hapart units hknown)).orDefault []

theorem takes_readString :
    Takes (fun data cursor => some (readString data cursor))
      fun units taken => units ∈ primitiveStrings ∧
        nonzero (string16Image units) ≤ taken := by
  have hknown : Takes (readKnown string16Image primitiveStrings)
      fun units taken => units ∈ primitiveStrings ∧
        nonzero (string16Image units) ≤ taken := by
    intro data cursor units next hunits
    obtain ⟨found, hfind, heq⟩ := Option.map_eq_some_iff.mp hunits
    cases heq
    refine ⟨Nat.le_add_right _ _, nonzero (string16Image units), ?_,
      List.mem_of_find?_eq_some hfind, le_rfl⟩
    have hfront := List.find?_some hfind
    rw [List.isPrefixOf_iff_prefix] at hfront
    obtain ⟨rest, hrest⟩ := hfront
    rw [← List.drop_drop, ← hrest, List.drop_left, nonzero_append]
  exact hknown.orDefault (by decide)

/-! ## The parcel -/

def boolOfWord : ℕ → Option Bool
  | 0 => some false
  | 1 => some true
  | _ => none

def narrowOfWord {T : Type} (bound : ℕ) (ofNat : ℕ → T) (word : ℕ) : Option T :=
  if word < bound then some (ofNat word) else none

def wordCapacity : ℕ := 204800

def paddedImage (buffer : List UInt8) : List UInt8 :=
  buffer ++ List.replicate (paddedSize buffer.length - buffer.length) 0

def wordPrimitives : ParcelPrimitives U16String where
  str8ToStr16 := shortStr8ToStr16
  str16ToStr8 := shortStr16ToStr8
  writeBool value := writeWord 4 value.toNat
  readBool := readWordAs 4 boolOfWord
  writeUint8 value := writeWord 4 value.toNat
  readUint8 := readWordAs 4 (narrowOfWord 256 UInt8.ofNat)
  writeUint16 value := writeWord 4 value.toNat
  readUint16 := readWordAs 4 (narrowOfWord 65536 UInt16.ofNat)
  writeInt32 value := writeWord 4 value.toUInt32.toNat
  readInt32 := readWordAs 4 fun word => some (UInt32.ofNat word).toInt32
  writeUint32 value := writeWord 4 value.toNat
  readUint32 := readWordAs 4 fun word => some (UInt32.ofNat word)
  writeInt64 value := writeWord 8 value.toUInt64.toNat
  readInt64 := readWordAs 8 fun word => some (UInt64.ofNat word).toInt64
  writeFloat value := writeWord 4 value.toNat
  readFloat := readWordAs 4 fun word => some (UInt32.ofNat word)
  writeString16 := writeKnown
  readString16 := readString
  writeUInt8Vector bytes := if bytes = [] then writeWord 4 0 else refuse
  readUInt8Vector := readWordAs 4 fun word =>
    if word = 0 then some [] else none
  writeBuffer buffer data :=
    if data.length + paddedSize buffer.length ≤ wordCapacity then
      appendImage paddedImage buffer data
    else none
  marshalParams := writeKnown
  unmarshalParams data cursor :=
    (some (readString data cursor).1, (readString data cursor).2)

theorem toNat_ofNat_word {word : ℕ} (hword : word < 256 ^ 4) :
    (UInt32.ofNat word).toNat = word := by
  rw [UInt32.toNat_ofNat']
  exact Nat.mod_eq_of_lt hword

/-! ## What arrives -/

theorem transfers_wordBool (value : Bool) :
    Transfers (wordPrimitives.writeBool value) wordPrimitives.readBool value :=
  transfers_word (by cases value <;> decide) (by cases value <;> rfl)

theorem transfers_wordUint16 (value : UInt16) :
    Transfers (wordPrimitives.writeUint16 value) wordPrimitives.readUint16
      value := by
  have hlt : value.toNat < 65536 := value.toNat_lt
  refine transfers_word (hlt.trans (by decide)) ?_
  rw [narrowOfWord, if_pos hlt, UInt16.ofNat_toNat]

theorem transfers_wordInt32 (value : Int32) :
    Transfers (wordPrimitives.writeInt32 value) wordPrimitives.readInt32 value :=
  @transfers_word _ 4 _ (fun word => some (UInt32.ofNat word).toInt32) value
    value.toUInt32.toNat_lt (by simp)

theorem transfers_wordUint32 (value : UInt32) :
    Transfers (wordPrimitives.writeUint32 value) wordPrimitives.readUint32
      value :=
  @transfers_word _ 4 _ (fun word => some (UInt32.ofNat word)) value
    value.toNat_lt (by simp)

theorem transfers_wordInt64 (value : Int64) :
    Transfers (wordPrimitives.writeInt64 value) wordPrimitives.readInt64 value :=
  @transfers_word _ 8 _ (fun word => some (UInt64.ofNat word).toInt64) value
    value.toUInt64.toNat_lt (by simp)

/-! ## What is taken -/

theorem accounts_text :
    Accounts wordPrimitives.writeText wordPrimitives.readText where
  appends text := by
    intro data written hwritten
    change writeKnown (shortStr8ToStr16 text) data = _ at hwritten
    unfold writeKnown at hwritten
    split_ifs at hwritten with hknown
    · cases hwritten
      refine ⟨_, rfl, ?_⟩
      change _ ≤ cost (writeKnown (shortStr8ToStr16 text))
      rw [writeKnown, if_pos hknown]
      exact le_rfl
    · cases hwritten
  takes := by
    refine Takes.bind (takes_readString.imp fun units taken hunits => ?_)
    obtain ⟨hknown, htaken⟩ := hunits
    apply Takes.pure
    have hback : ∀ units ∈ primitiveStrings,
        shortStr8ToStr16 (shortStr16ToStr8 units) = units := by decide
    change cost (writeKnown (shortStr8ToStr16 (shortStr16ToStr8 units))) ≤ taken
    rw [hback units hknown, writeKnown, if_pos hknown]
    exact htaken

theorem accounted_wordPrimitives : wordPrimitives.Accounted where
  text := accounts_text
  uint8 := by
    refine accounts_word rfl fun word value _ hvalue => ?_
    unfold narrowOfWord at hvalue
    split_ifs at hvalue with hnarrow
    cases hvalue
    exact (UInt8.toNat_ofNat').trans (Nat.mod_eq_of_lt hnarrow)
  int32 := by
    refine @accounts_word Int32 4 (fun value => value.toUInt32.toNat)
      (fun word => some (UInt32.ofNat word).toInt32) 0 rfl
      fun word value hword hvalue => ?_
    cases hvalue
    exact toNat_ofNat_word hword
  uint32 := by
    refine @accounts_word UInt32 4 UInt32.toNat
      (fun word => some (UInt32.ofNat word)) 0 rfl
      fun word value hword hvalue => ?_
    cases hvalue
    exact toNat_ofNat_word hword
  mark value hvalue := by
    have hone : cost (wordPrimitives.writeInt32 1) = 1 := by decide
    rw [hone, Nat.one_le_iff_ne_zero]
    intro hzero
    have hword := cost_writeWord_eq_zero value.toUInt32.toNat_lt hzero
    apply hvalue
    have hzero : value.toUInt32 = 0 := UInt32.toNat_inj.mp hword
    rw [← value.toInt32_toUInt32, hzero]
    rfl
  size value hzero := by
    have hword := cost_writeWord_eq_zero value.toNat_lt hzero
    exact UInt32.toNat_inj.mp hword
  atEnd data cursor hend := by
    have hshort : ¬ cursor + 4 ≤ data.length := by omega
    have hnone : readWord 4 data cursor = none := if_neg hshort
    change (readWord 4 data cursor).bind _ = none
    rw [hnone, Option.bind_none]

/-! ## Whole words -/

theorem carriesWords_word {T : Type} {word : ℕ} {read : Reader T} {value : T}
    (htransfer : Transfers (DistributedWantParams.writeWord 4 word) read value) :
    CarriesWords (DistributedWantParams.writeWord 4 word) read value where
  carries := htransfer.carries
  aligned data written hwritten := by
    cases hwritten
    simp

theorem carriesWords_refused {T : Type} (read : Reader T) (value : T) :
    CarriesWords DistributedWantParams.refuse read value where
  carries := carries_refused read (some value)
  aligned _ _ hwritten := nomatch hwritten

theorem carriesWords_known (units : U16String) :
    CarriesWords (writeKnown units) wordPrimitives.string16 units := by
  by_cases hknown : units ∈ primitiveStrings
  · refine ⟨(transfers_primitiveString hknown).carries, ?_⟩
    intro data written hwritten
    rw [writeKnown, if_pos hknown] at hwritten
    cases hwritten
    have hwords : ∀ units ∈ primitiveStrings,
        (string16Image units).length % 4 = 0 := by decide
    have hlength := hwords units hknown
    rw [List.length_append]
    omega
  · rw [writeKnown, if_neg hknown]
    exact carriesWords_refused _ _

theorem writeBuffer_eq_some {buffer data written : Bytes}
    (hwritten : wordPrimitives.writeBuffer buffer data = some ((), written)) :
    written = data ++ paddedImage buffer ∧
      data.length + paddedSize buffer.length ≤ wordCapacity := by
  simp only [wordPrimitives] at hwritten
  split_ifs at hwritten with hfits
  cases hwritten
  exact ⟨rfl, hfits⟩

theorem length_paddedImage (buffer : Bytes) :
    (paddedImage buffer).length = paddedSize buffer.length := by
  have hle := DistributedWantParams.le_paddedSize buffer.length
  rw [paddedImage, List.length_append, List.length_replicate]
  omega

end Dmsfwk
