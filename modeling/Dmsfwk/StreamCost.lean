import Dmsfwk.StreamCodec

/-!
# What writers and readers of a stream cost

The cost of an image is the number of its bytes other than zero.  A bound on
what a writer appends and a condition on what a reader takes add up along a
sequence, so that a reader of more than was written leaves the stream short.
-/

namespace StreamCodec

variable {α β : Type}

def nonzero (bytes : List UInt8) : ℕ := bytes.countP (· ≠ 0)

@[simp] theorem nonzero_nil : nonzero [] = 0 := rfl

@[simp] theorem nonzero_append (first second : List UInt8) :
    nonzero (first ++ second) = nonzero first + nonzero second :=
  List.countP_append

/-! ## Writers -/

def cost (write : Writer) : ℕ :=
  ((write []).map fun written => nonzero written.2).getD 0

def Appends (write : Writer) (bound : ℕ) : Prop :=
  ∀ data written, write data = some ((), written) →
    ∃ image, written = data ++ image ∧ nonzero image ≤ bound

theorem Appends.pure : Appends (Pure.pure ()) 0 := by
  rintro data _ ⟨⟩
  exact ⟨[], (List.append_nil data).symm, le_rfl⟩

theorem Appends.bind {write next : Writer} {first second : ℕ}
    (hwrite : Appends write first) (hnext : Appends next second) :
    Appends (do write; next) (first + second) := by
  intro data written hwritten
  obtain ⟨middle, hfirst, hsecond⟩ := bind_eq_some hwritten
  obtain ⟨image, rfl, hcost⟩ := hwrite data middle hfirst
  obtain ⟨nextImage, rfl, hnextCost⟩ := hnext _ written hsecond
  refine ⟨image ++ nextImage, List.append_assoc _ _ _, ?_⟩
  rw [nonzero_append]
  omega

theorem Appends.unchecked {write : Writer} {bound : ℕ}
    (hwrite : Appends write bound) :
    Appends (StreamCodec.unchecked write) bound := by
  intro data written hwritten
  unfold StreamCodec.unchecked at hwritten
  cases hresult : write data with
  | none =>
      rw [hresult] at hwritten
      cases hwritten
      exact ⟨[], (List.append_nil data).symm, Nat.zero_le _⟩
  | some result =>
      rw [hresult] at hwritten
      cases hwritten
      exact hwrite data _ hresult

/-! ## Readers -/

def Takes (read : Reader α) (holds : α → ℕ → Prop) : Prop :=
  ∀ data cursor value next, read data cursor = some (value, next) →
    cursor ≤ next ∧ ∃ taken,
      nonzero (data.drop cursor) = taken + nonzero (data.drop next) ∧
      holds value taken

theorem Takes.pure {value : α} {holds : α → ℕ → Prop} (hholds : holds value 0) :
    Takes (Pure.pure value : Reader α) holds := by
  rintro data cursor _ _ ⟨⟩
  exact ⟨le_rfl, 0, (Nat.zero_add _).symm, hholds⟩

theorem Takes.bind {read : Reader α} {readNext : α → Reader β}
    {holds : β → ℕ → Prop}
    (hread : Takes read fun value first =>
      Takes (readNext value) fun result second =>
        holds result (first + second)) :
    Takes (read >>= readNext) holds := by
  intro data cursor result next hresult
  obtain ⟨value, middle, hvalue, hnext⟩ := bind_read_eq_some hresult
  obtain ⟨hmiddle, first, hfirst, hafter⟩ := hread data cursor value middle hvalue
  obtain ⟨hlast, second, hsecond, hholds⟩ := hafter data middle result next hnext
  refine ⟨hmiddle.trans hlast, first + second, ?_, hholds⟩
  omega

theorem Takes.imp {read : Reader α} {holds other : α → ℕ → Prop}
    (hread : Takes read holds)
    (himp : ∀ value taken, holds value taken → other value taken) :
    Takes read other := by
  intro data cursor value next hvalue
  obtain ⟨hle, taken, htaken, hholds⟩ := hread data cursor value next hvalue
  exact ⟨hle, taken, htaken, himp value taken hholds⟩

theorem Takes.failure {holds : α → ℕ → Prop} :
    Takes (failure : Reader α) holds :=
  fun _ _ _ _ hvalue => nomatch hvalue

theorem Takes.of_orDefault {read : Reader α} {default : α}
    {holds : α → ℕ → Prop} (hread : Takes (orDefault read default) holds) :
    Takes read holds := by
  intro data cursor value next hvalue
  apply hread data cursor value next
  rw [orDefault, hvalue, Option.getD_some]

theorem Takes.orDefault {read : Reader α} {default : α}
    {holds : α → ℕ → Prop} (hread : Takes read holds)
    (hdefault : holds default 0) :
    Takes (orDefault read default) holds := by
  intro data cursor value next hvalue
  unfold StreamCodec.orDefault at hvalue
  cases hresult : read data cursor with
  | none =>
      rw [hresult] at hvalue
      cases hvalue
      exact ⟨le_rfl, 0, (Nat.zero_add _).symm, hdefault⟩
  | some result =>
      rw [hresult] at hvalue
      cases hvalue
      exact hread data cursor _ _ hresult

structure Accounts (write : α → Writer) (read : Reader α) : Prop where
  appends : ∀ value, Appends (write value) (cost (write value))
  takes : Takes read fun value taken => cost (write value) ≤ taken

/-! ## Lists -/

def writeEach (write : α → Writer) : List α → Writer
  | [] => Pure.pure ()
  | value :: values => do
      write value
      writeEach write values

def readTimes (read : Reader α) : ℕ → Reader (List α)
  | 0 => return []
  | size + 1 => do
      let value ← read
      let values ← readTimes read size
      return value :: values

theorem Appends.writeEach {write : α → Writer} {bound : α → ℕ}
    (hwrite : ∀ value, Appends (write value) (bound value)) (values : List α) :
    Appends (writeEach write values) (values.map bound).sum := by
  induction values with
  | nil => exact Appends.pure
  | cons value values ih => exact (hwrite value).bind ih

theorem Takes.readTimes {read : Reader α} {bound : α → ℕ}
    (hread : Takes read fun value taken => bound value ≤ taken) (size : ℕ) :
    Takes (readTimes read size) fun values taken =>
      values.length = size ∧ (values.map bound).sum ≤ taken := by
  induction size with
  | zero => exact Takes.pure ⟨rfl, le_rfl⟩
  | succ size ih =>
      apply Takes.bind
      refine hread.imp fun value first hfirst => ?_
      apply Takes.bind
      refine ih.imp fun values second hsecond => ?_
      apply Takes.pure
      simp only [List.length_cons, List.map_cons, List.sum_cons]
      omega

end StreamCodec
