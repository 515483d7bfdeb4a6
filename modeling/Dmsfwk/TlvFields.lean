import Dmsfwk.TlvCodec

/-!
# What a record of items writes

A reader assigns the values of its items to the fields of a state which it did
not initialize.  A value shorter than its field leaves the high bytes of the
field as they were, so the result is determined by the window exactly when every
field is written by an item of its full width.
-/

namespace TlvCodec

open ByteCodec

/-! ## The bytes of a field -/

theorem leBytes_leValue (bytes : Bytes) :
    leBytes bytes.length (leValue bytes) = bytes := by
  induction bytes with
  | nil => rfl
  | cons byte bytes ih =>
      have hbyte : byte.toNat < 256 := byte.toNat_lt
      have hlow : UInt8.ofNat (byte.toNat + 256 * leValue bytes) = byte := by
        apply UInt8.toNat_inj.mp
        rw [UInt8.toNat_ofNat']
        omega
      have hhigh : (byte.toNat + 256 * leValue bytes) / 256 = leValue bytes := by
        omega
      rw [List.length_cons, leValue, leBytes, hlow, hhigh, ih]

theorem leValue_lt (bytes : Bytes) : leValue bytes < 256 ^ bytes.length := by
  induction bytes with
  | nil => exact Nat.one_pos
  | cons byte bytes ih =>
      have hbyte : byte.toNat < 256 := byte.toNat_lt
      rw [leValue, List.length_cons, pow_succ]
      omega

theorem leBytes_copyToField {size old new : ℕ} {src : Bytes}
    (hcopy : copyToField size old src = some new) :
    leBytes size new = src ++ (leBytes size old).drop src.length := by
  unfold copyToField at hcopy
  split_ifs at hcopy with hlong
  obtain rfl := Option.some.inj hcopy
  have hlength : (src ++ (leBytes size old).drop src.length).length = size := by
    rw [List.length_append, List.length_drop, length_leBytes]
    omega
  have hbytes := leBytes_leValue (src ++ (leBytes size old).drop src.length)
  rw [hlength] at hbytes
  exact hbytes

theorem copyToField_of_length {size old : ℕ} {src : Bytes}
    (hlength : src.length = size) :
    copyToField size old src = some (leValue src) := by
  have hdrop : (leBytes size old).drop src.length = [] := by
    apply List.drop_eq_nil_of_le
    rw [length_leBytes, hlength]
  rw [copyToField, if_neg (by omega), hdrop, List.append_nil]

@[simp] theorem isSome_copyToField (size old : ℕ) (src : Bytes) :
    (copyToField size old src).isSome = decide (src.length ≤ size) := by
  unfold copyToField
  split_ifs with hlong
  · simp [hlong]
  · simp [Nat.le_of_not_lt hlong]

/-- Bytes behind the copied ones keep their value. -/
theorem getElem?_copyToField {size old new : ℕ} {src : Bytes}
    (hcopy : copyToField size old src = some new) {i : ℕ}
    (hi : src.length ≤ i) :
    (leBytes size new)[i]? = (leBytes size old)[i]? := by
  rw [leBytes_copyToField hcopy, List.getElem?_append_right hi,
    List.getElem?_drop]
  congr 1
  omega

def otherValue (size old : ℕ) : ℕ :=
  leValue ((leBytes size old).map (· + 1))

theorem otherValue_lt (size old : ℕ) : otherValue size old < 256 ^ size := by
  have hlt := leValue_lt ((leBytes size old).map (· + 1))
  rw [List.length_map, length_leBytes] at hlt
  exact hlt

theorem getElem?_otherValue {size old i : ℕ} (hi : i < size) :
    (leBytes size (otherValue size old))[i]? ≠ (leBytes size old)[i]? := by
  have hbytes := leBytes_leValue ((leBytes size old).map (· + 1))
  rw [List.length_map, length_leBytes] at hbytes
  have hlength : i < (leBytes size old).length := by
    rw [length_leBytes]
    exact hi
  rw [otherValue, hbytes, List.getElem?_map, List.getElem?_eq_getElem hlength]
  intro hsame
  have hbyte : (leBytes size old)[i] + 1 = (leBytes size old)[i] :=
    Option.some.inj hsame
  have hnat := congrArg UInt8.toNat hbyte
  rw [UInt8.toNat_add] at hnat
  have hlt := ((leBytes size old)[i]).toNat_lt
  have hone : (1 : UInt8).toNat = 1 := rfl
  omega

/-! ## The items of a window -/

abbrev Item := ℕ × Bytes

def splitItems (done : ℕ → Bool) : ℕ → Bytes → Option (List Item)
  | 0, _ => none
  | fuel + 1, window =>
      if done window.length then some []
      else
        match splitItem window with
        | none => none
        | some (type, value, rest) =>
            (splitItems done fuel rest).map ((type, value) :: ·)

section Scan

variable {σ : Type*} {assign : σ → ℕ → Bytes → Option σ}

def assignItem (assign : σ → ℕ → Bytes → Option σ) (state : σ) (item : Item) :
    Option σ :=
  assign state item.1 item.2

theorem scan_eq_some_iff {done : ℕ → Bool} {fuel : ℕ} {state final : σ}
    {window : Bytes} :
    scan done assign fuel state window = some final ↔
      ∃ items, splitItems done fuel window = some items ∧
        items.foldlM (assignItem assign) state = some final := by
  induction fuel generalizing state window with
  | zero => simp [scan, splitItems]
  | succ fuel ih =>
      rw [scan, splitItems]
      by_cases hdone : done window.length = true
      · simp [hdone]
      · rw [if_neg hdone, if_neg hdone]
        cases hsplit : splitItem window with
        | none => simp
        | some item =>
            obtain ⟨type, value, rest⟩ := item
            dsimp only
            have hfold : ∀ items, ((type, value) :: items).foldlM
                (assignItem assign) state =
                  (assign state type value).bind fun next =>
                    items.foldlM (assignItem assign) next := fun _ => rfl
            constructor
            · intro hscan
              cases hassign : assign state type value with
              | none =>
                  rw [hassign] at hscan
                  cases hscan
              | some next =>
                  rw [hassign] at hscan
                  obtain ⟨items, hitems, hfinal⟩ := ih.mp hscan
                  refine ⟨(type, value) :: items, by rw [hitems]; rfl, ?_⟩
                  rw [hfold, hassign]
                  exact hfinal
            · rintro ⟨_, hitems, hfinal⟩
              obtain ⟨items, hrest, rfl⟩ := Option.map_eq_some_iff.mp hitems
              rw [hfold] at hfinal
              obtain ⟨next, hassign, hfinal⟩ :=
                Option.bind_eq_some_iff.mp hfinal
              rw [hassign]
              exact ih.mpr ⟨items, hrest, hfinal⟩

end Scan

/-! ## Fields -/

structure TlvField {σ : Type*} (assign : σ → ℕ → Bytes → Option σ) where
  type : ℕ
  width : ℕ
  width_pos : 0 < width
  get : σ → ℕ
  get_assign : ∀ {state next : σ} {type' : ℕ} {value : Bytes},
    assign state type' value = some next →
      if type' = type then copyToField width (get state) value = some (get next)
      else get next = get state

def Whole (items : List Item) (type width : ℕ) : Prop :=
  ∃ item ∈ items, item.1 = type ∧ item.2.length = width

instance (items : List Item) (type width : ℕ) :
    Decidable (Whole items type width) :=
  inferInstanceAs (Decidable (∃ item ∈ items, _))

theorem whole_cons {item : Item} {items : List Item} {type width : ℕ} :
    Whole (item :: items) type width ↔
      (item.1 = type ∧ item.2.length = width) ∨ Whole items type width := by
  simp [Whole]

namespace TlvField

variable {σ : Type*} {assign : σ → ℕ → Bytes → Option σ}
  (field : TlvField assign) {items : List Item} {first second last other : σ}

/-- A field which is written as a whole does not depend on the first state. -/
theorem get_eq_of_whole
    (hlast : items.foldlM (assignItem assign) first = some last)
    (hother : items.foldlM (assignItem assign) second = some other)
    (hwhole : field.get first = field.get second ∨
      Whole items field.type field.width) :
    field.get last = field.get other := by
  induction items generalizing first second with
  | nil =>
      obtain rfl := Option.some.inj hlast
      obtain rfl := Option.some.inj hother
      rcases hwhole with hsame | ⟨item, hitem, -⟩
      · exact hsame
      · cases hitem
  | cons item items ih =>
      obtain ⟨next, hnext, hlast⟩ := Option.bind_eq_some_iff.mp hlast
      obtain ⟨next', hnext', hother⟩ := Option.bind_eq_some_iff.mp hother
      apply ih hlast hother
      have hget := field.get_assign hnext
      have hget' := field.get_assign hnext'
      rw [whole_cons] at hwhole
      by_cases htype : item.1 = field.type
      · rw [if_pos htype] at hget hget'
        rcases hwhole with hsame | ⟨-, hlength⟩ | hwhole
        · rw [hsame] at hget
          exact .inl (Option.some.inj (hget.symm.trans hget'))
        · rw [copyToField_of_length hlength] at hget hget'
          exact .inl (Option.some.inj (hget.symm.trans hget'))
        · exact .inr hwhole
      · rw [if_neg htype] at hget hget'
        rw [hget, hget']
        exact hwhole.imp_right fun h => h.resolve_left fun h => htype h.1

/-- The highest byte of a field which no item writes as a whole stays. -/
theorem highByte_eq_of_not_whole
    (hlast : items.foldlM (assignItem assign) first = some last)
    (hwhole : ¬Whole items field.type field.width) :
    (leBytes field.width (field.get last))[field.width - 1]? =
      (leBytes field.width (field.get first))[field.width - 1]? := by
  induction items generalizing first with
  | nil =>
      obtain rfl := Option.some.inj hlast
      rfl
  | cons item items ih =>
      obtain ⟨next, hnext, hlast⟩ := Option.bind_eq_some_iff.mp hlast
      rw [whole_cons, not_or] at hwhole
      rw [ih hlast hwhole.2]
      have hget := field.get_assign hnext
      by_cases htype : item.1 = field.type
      · rw [if_pos htype] at hget
        have hshort : item.2.length ≤ field.width - 1 := by
          have hle : ¬field.width < item.2.length := by
            intro hlong
            rw [copyToField, if_pos hlong] at hget
            cases hget
          have hne : item.2.length ≠ field.width := fun h =>
            hwhole.1 ⟨htype, h⟩
          omega
        exact getElem?_copyToField hget hshort
      · rw [if_neg htype] at hget
        rw [hget]

end TlvField

/-! ## Readers of a state which is not initialized -/

/-- A loop which reads items into a state.  `init` sets the fields which have an
initial value, the `fixed` ones; the `unset` ones hold what the memory held. -/
structure TlvReader (σ : Type*) where
  assign : σ → ℕ → Bytes → Option σ
  done : ℕ → Bool
  fuel : ℕ
  init : σ → σ
  valid : σ → Prop
  check : σ → Bool
  fixed : List (TlvField assign)
  unset : List (TlvField assign)
  uniform : ∀ state other type value,
    (assign state type value).isSome = (assign other type value).isSome
  ext : ∀ state other : σ,
    (∀ field ∈ fixed ++ unset, field.get state = field.get other) →
      state = other
  get_fixed : ∀ field ∈ fixed, ∀ state other,
    field.get (init state) = field.get (init other)
  exists_other : ∀ field ∈ unset, ∀ state, valid state →
    ∃ other, valid other ∧
      field.get (init other) = otherValue field.width (field.get (init state))

namespace TlvReader

variable {σ : Type*} (reader : TlvReader σ)

def read (stack : σ) (window : Bytes) : Option σ :=
  (scan reader.done reader.assign reader.fuel (reader.init stack)
    window).filter reader.check

def HasWhole (window : Bytes) (type width : ℕ) : Prop :=
  ∃ items ∈ splitItems reader.done reader.fuel window, Whole items type width

instance (window : Bytes) (type width : ℕ) :
    Decidable (reader.HasWhole window type width) :=
  decidable_of_iff
    (((splitItems reader.done reader.fuel window).any fun items =>
      Whole items type width) = true) (by simp [HasWhole, Option.any_eq_true])

def WritesUnset (window : Bytes) : Prop :=
  ∀ field ∈ reader.unset, reader.HasWhole window field.type field.width

instance (window : Bytes) : Decidable (reader.WritesUnset window) :=
  inferInstanceAs (Decidable (∀ field ∈ reader.unset, _))

variable {reader} {stack other result : σ} {window : Bytes}

theorem read_eq_some_iff :
    reader.read stack window = some result ↔
      (∃ items, splitItems reader.done reader.fuel window = some items ∧
        items.foldlM (assignItem reader.assign) (reader.init stack) =
          some result) ∧
      reader.check result = true := by
  rw [read, Option.filter_eq_some_iff, scan_eq_some_iff]

theorem exists_foldlM {items : List Item} {first second last : σ}
    (hlast : items.foldlM (assignItem reader.assign) first = some last) :
    ∃ other, items.foldlM (assignItem reader.assign) second = some other := by
  induction items generalizing first second with
  | nil => exact ⟨second, rfl⟩
  | cons item items ih =>
      obtain ⟨next, hnext, hlast⟩ := Option.bind_eq_some_iff.mp hlast
      have hsome : (reader.assign second item.1 item.2).isSome = true := by
        rw [reader.uniform second first, ← Option.isSome_some (a := next),
          ← hnext]
        rfl
      obtain ⟨next', hnext'⟩ := Option.isSome_iff_exists.mp hsome
      obtain ⟨other, hother⟩ := @ih next next' hlast
      exact ⟨other, Option.bind_eq_some_iff.mpr ⟨next', hnext', hother⟩⟩

/-- Another start gives the same result when all unset fields are written. -/
theorem read_of_writesUnset (hread : reader.read stack window = some result)
    (hwhole : reader.WritesUnset window) (other : σ) :
    reader.read other window = some result := by
  obtain ⟨⟨items, hitems, hresult⟩, hcheck⟩ := read_eq_some_iff.mp hread
  obtain ⟨last, hlast⟩ := @exists_foldlM σ reader items _
    (reader.init other) _ hresult
  have hsame : last = result := by
    apply reader.ext
    intro field hfield
    refine field.get_eq_of_whole hlast hresult ?_
    rcases List.mem_append.mp hfield with hfixed | hunset
    · exact .inl (reader.get_fixed field hfixed other stack)
    · obtain ⟨split, hsplit, hwritten⟩ := hwhole field hunset
      obtain rfl := Option.some.inj (hitems.symm.trans hsplit)
      exact .inr hwritten
  rw [hsame] at hlast
  exact read_eq_some_iff.mpr ⟨⟨items, hitems, hlast⟩, hcheck⟩

/-- The result of an accepted window is determined by the window exactly when
every unset field is written as a whole. -/
theorem read_determined_iff (hvalid : reader.valid stack)
    (hread : reader.read stack window = some result) :
    (∀ other, reader.valid other → reader.read other window = some result) ↔
      reader.WritesUnset window := by
  constructor
  · intro hall field hfield
    by_contra hmissing
    obtain ⟨⟨items, hitems, hresult⟩, -⟩ := read_eq_some_iff.mp hread
    have hwhole : ¬Whole items field.type field.width := fun hwritten =>
      hmissing ⟨items, hitems, hwritten⟩
    obtain ⟨other, hother, hget⟩ := reader.exists_other field hfield stack hvalid
    obtain ⟨⟨split, hsplit, hlast⟩, -⟩ :=
      read_eq_some_iff.mp (hall other hother)
    obtain rfl := Option.some.inj (hitems.symm.trans hsplit)
    have hhigh := field.highByte_eq_of_not_whole hresult hwhole
    rw [field.highByte_eq_of_not_whole hlast hwhole, hget] at hhigh
    exact getElem?_otherValue (Nat.sub_lt field.width_pos Nat.one_pos) hhigh
  · intro hwhole other _
    exact read_of_writesUnset hread hwhole other

end TlvReader

end TlvCodec
