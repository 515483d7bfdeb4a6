import Mathlib.Tactic

/-!
# Writers and readers of one stream

A writer appends to the bytes of a stream and may refuse; a reader takes a value
at the cursor of the stream and moves the cursor.  A value is transferred when
whatever the writer appends makes the reader return that value and leave the
cursor where the writer ended, whichever bytes stand before and behind.  Such
transfers compose in the order in which they are written.

A writer that may refuse carries an answer to a reader: whatever it appends, when
it does, makes the reader give the answer, or fail where there is none.
-/

namespace StreamCodec

abbrev Writer := StateT (List UInt8) Option Unit

abbrev Reader (α : Type) := ReaderT (List UInt8) (StateT ℕ Option) α

variable {α β : Type}

def Transfers (write : Writer) (read : Reader α) (value : α) : Prop :=
  ∀ data : List UInt8, ∃ image : List UInt8,
    write data = some ((), data ++ image) ∧
    ∀ rest, read (data ++ image ++ rest) data.length =
      some (value, (data ++ image).length)

theorem Transfers.pure (value : α) :
    Transfers (pure ()) (pure value : Reader α) value := by
  intro data
  refine ⟨[], ?_, ?_⟩
  · rw [List.append_nil]
    rfl
  · intro rest
    rw [List.append_nil]
    rfl

/-- What is written one after the other is read one after the other. -/
theorem Transfers.bind {write next : Writer} {read : Reader α}
    {readNext : α → Reader β} {value : α} {result : β}
    (hfirst : Transfers write read value)
    (hnext : Transfers next (readNext value) result) :
    Transfers (do write; next) (read >>= readNext) result := by
  intro data
  obtain ⟨image, hwrite, hread⟩ := hfirst data
  obtain ⟨nextImage, hwriteNext, hreadNext⟩ := hnext (data ++ image)
  refine ⟨image ++ nextImage, ?_, ?_⟩
  · change (write data).bind (fun written => next written.2) = _
    rw [hwrite, Option.bind_some, hwriteNext, List.append_assoc]
  · intro rest
    change (read _ _).bind (fun taken => readNext taken.1 _ taken.2) = _
    have hbytes : data ++ (image ++ nextImage) ++ rest =
        data ++ image ++ (nextImage ++ rest) := by
      simp only [List.append_assoc]
    rw [hbytes, hread, Option.bind_some, ← List.append_assoc (data ++ image),
      hreadNext, List.append_assoc data]

section Read

variable {write : Writer} {read : Reader α}

theorem Transfers.map {value : α} (htransfer : Transfers write read value)
    (convert : α → β) :
    Transfers write (do return convert (← read)) (convert value) := by
  intro data
  obtain ⟨image, hwrite, hread⟩ := htransfer data
  refine ⟨image, hwrite, ?_⟩
  intro rest
  change (read _ _).bind (fun taken => some (convert taken.1, taken.2)) = _
  rw [hread]
  rfl

theorem Transfers.bind_pure {readNext : α → Reader β} {value : α} {result : β}
    (htransfer : Transfers write read value)
    (hnext : readNext value = Pure.pure result) :
    Transfers write (read >>= readNext) result := by
  intro data
  obtain ⟨image, hwrite, hread⟩ := htransfer data
  refine ⟨image, hwrite, ?_⟩
  intro rest
  change (read _ _).bind (fun taken => readNext taken.1 _ taken.2) = _
  rw [hread, Option.bind_some, hnext]
  rfl

theorem Transfers.unique {first second : α} (hfirst : Transfers write read first)
    (hsecond : Transfers write read second) : first = second := by
  obtain ⟨image, hwrite, hread⟩ := hfirst []
  obtain ⟨other, hother, hreadOther⟩ := hsecond []
  rw [hwrite] at hother
  cases hother
  have hsame := (hread []).symm.trans (hreadOther [])
  exact (Prod.mk.inj (Option.some.inj hsame)).1

theorem Transfers.arrives {value : α} (htransfer : Transfers write read value) :
    ∃ image, write [] = some ((), image) ∧
      read image 0 = some (value, image.length) := by
  obtain ⟨image, hwrite, hread⟩ := htransfer []
  refine ⟨image, hwrite, ?_⟩
  simpa using hread []

end Read

theorem bind_read_eq_some {read : Reader α} {readNext : α → Reader β}
    {data : List UInt8} {cursor : ℕ} {result : β × ℕ}
    (hread : (read >>= readNext) data cursor = some result) :
    ∃ value middle, read data cursor = some (value, middle) ∧
      readNext value data middle = some result := by
  change (read data cursor).bind (fun taken => readNext taken.1 data taken.2) = _
    at hread
  obtain ⟨⟨value, middle⟩, hfirst, hsecond⟩ := Option.bind_eq_some_iff.mp hread
  exact ⟨value, middle, hfirst, hsecond⟩

/-! ## Answers that are not looked at -/

def unchecked (write : Writer) : Writer :=
  fun data => some ((), ((write data).map Prod.snd).getD data)

def orDefault (read : Reader α) (default : α) : Reader α :=
  fun data cursor => some ((read data cursor).getD (default, cursor))

theorem Transfers.unchecked {write : Writer} {read : Reader α} {value : α}
    (htransfer : Transfers write read value) :
    Transfers (unchecked write) read value := by
  intro data
  obtain ⟨image, hwrite, hread⟩ := htransfer data
  refine ⟨image, ?_, hread⟩
  rw [StreamCodec.unchecked, hwrite]
  rfl

theorem Transfers.orDefault {write : Writer} {read : Reader α} {value : α}
    (htransfer : Transfers write read value) (default : α) :
    Transfers write (orDefault read default) value := by
  intro data
  obtain ⟨image, hwrite, hread⟩ := htransfer data
  refine ⟨image, hwrite, ?_⟩
  intro rest
  rw [StreamCodec.orDefault, hread, Option.getD_some]

/-! ## Writers that may refuse -/

def Carries (write : Writer) (read : Reader α) (answer : Option α) : Prop :=
  ∀ data written : List UInt8, write data = some ((), written) →
    ∃ image : List UInt8, written = data ++ image ∧
      ∀ rest, read (written ++ rest) data.length =
        answer.map (·, written.length)

theorem Transfers.carries {write : Writer} {read : Reader α} {value : α}
    (htransfer : Transfers write read value) :
    Carries write read (some value) := by
  intro data written hwritten
  obtain ⟨image, hwrite, hread⟩ := htransfer data
  rw [hwrite] at hwritten
  cases hwritten
  exact ⟨image, rfl, hread⟩

theorem Carries.transfers {write : Writer} {read : Reader α} {value : α}
    (hcarries : Carries write read (some value))
    (hwrites : ∀ data, (write data).isSome = true) :
    Transfers write read value := by
  intro data
  obtain ⟨⟨_, written⟩, hwritten⟩ := Option.isSome_iff_exists.mp (hwrites data)
  obtain ⟨image, rfl, hread⟩ := hcarries data written hwritten
  exact ⟨image, hwritten, hread⟩

theorem carries_refused (read : Reader α) (answer : Option α) :
    Carries (fun _ => none) read answer :=
  fun _ _ hwritten => nomatch hwritten

theorem carries_pure (value : α) :
    Carries (pure ()) (pure value : Reader α) (some value) :=
  (Transfers.pure value).carries

theorem bind_eq_some {write next : Writer} {data written : List UInt8}
    (hwritten : (do write; next : Writer) data = some ((), written)) :
    ∃ middle, write data = some ((), middle) ∧
      next middle = some ((), written) := by
  change (write data).bind (fun taken => next taken.2) = _ at hwritten
  obtain ⟨⟨_, middle⟩, hfirst, hsecond⟩ := Option.bind_eq_some_iff.mp hwritten
  exact ⟨middle, hfirst, hsecond⟩

theorem Carries.bind {write next : Writer} {read : Reader α}
    {readNext : α → Reader β} {value : α} {answer : Option β}
    (hfirst : Carries write read (some value))
    (hnext : Carries next (readNext value) answer) :
    Carries (do write; next) (read >>= readNext) answer := by
  intro data written hwritten
  obtain ⟨middle, hwrite, hwriteNext⟩ := bind_eq_some hwritten
  obtain ⟨image, rfl, hread⟩ := hfirst data middle hwrite
  obtain ⟨nextImage, rfl, hreadNext⟩ := hnext _ written hwriteNext
  refine ⟨image ++ nextImage, List.append_assoc _ _ _, ?_⟩
  intro rest
  change (read _ _).bind (fun taken => readNext taken.1 _ taken.2) = _
  rw [List.append_assoc (data ++ image), hread, Option.map_some,
    Option.bind_some, ← List.append_assoc (data ++ image), hreadNext]

/-- A value that is passed on, when what follows can be read behind any value. -/
theorem Carries.andThen [Nonempty α] {write next : Writer} {read : Reader α}
    {readNext : α → Reader β} {answer : Option α} {answerNext : α → Option β}
    (hfirst : Carries write read answer)
    (hnext : ∀ value, Carries next (readNext value) (answerNext value)) :
    Carries (do write; next) (read >>= readNext) (answer.bind answerNext) := by
  cases answer with
  | some value => exact hfirst.bind (hnext value)
  | none =>
      intro data written hwritten
      obtain ⟨middle, hwrite, hwriteNext⟩ := bind_eq_some hwritten
      obtain ⟨image, rfl, hread⟩ := hfirst data middle hwrite
      obtain ⟨value⟩ := ‹Nonempty α›
      obtain ⟨nextImage, rfl, -⟩ := hnext value _ written hwriteNext
      refine ⟨image ++ nextImage, List.append_assoc _ _ _, ?_⟩
      intro rest
      change (read _ _).bind (fun taken => readNext taken.1 _ taken.2) = _
      rw [List.append_assoc (data ++ image), hread]
      rfl

theorem Carries.map {write : Writer} {read : Reader α} {answer : Option α}
    (hcarries : Carries write read answer) (convert : α → β) :
    Carries write (do return convert (← read)) (answer.map convert) := by
  intro data written hwritten
  obtain ⟨image, hwrite, hread⟩ := hcarries data written hwritten
  refine ⟨image, hwrite, ?_⟩
  intro rest
  change (read _ _).bind (fun taken => some (convert taken.1, taken.2)) = _
  rw [hread]
  cases answer <;> rfl

theorem Carries.bind_pure {write : Writer} {read : Reader α}
    {readNext : α → Reader β} {value : α} {result : β}
    (hcarries : Carries write read (some value))
    (hnext : readNext value = Pure.pure result) :
    Carries write (read >>= readNext) (some result) := by
  intro data written hwritten
  obtain ⟨image, hwrite, hread⟩ := hcarries data written hwritten
  refine ⟨image, hwrite, ?_⟩
  intro rest
  change (read _ _).bind (fun taken => readNext taken.1 _ taken.2) = _
  rw [hread, Option.map_some, Option.bind_some, hnext]
  rfl

theorem Carries.orDefault {write : Writer} {read : Reader α} {value : α}
    (hcarries : Carries write read (some value)) (default : α) :
    Carries write (orDefault read default) (some value) := by
  intro data written hwritten
  obtain ⟨image, hwrite, hread⟩ := hcarries data written hwritten
  refine ⟨image, hwrite, ?_⟩
  intro rest
  rw [StreamCodec.orDefault, hread, Option.map_some, Option.getD_some]

/-! ## Images of whole words -/

structure CarriesWords (write : Writer) (read : Reader α) (value : α) : Prop where
  carries : Carries write read (some value)
  aligned : ∀ data written, write data = some ((), written) →
    written.length % 4 = data.length % 4

namespace CarriesWords

variable {write next : Writer} {read : Reader α} {readNext : α → Reader β}
  {value : α} {result : β}

theorem bind (hfirst : CarriesWords write read value)
    (hnext : CarriesWords next (readNext value) result) :
    CarriesWords (do write; next) (read >>= readNext) result where
  carries := hfirst.carries.bind hnext.carries
  aligned data written hwritten := by
    obtain ⟨middle, hwrite, hwriteNext⟩ := bind_eq_some hwritten
    exact (hnext.aligned middle written hwriteNext).trans
      (hfirst.aligned data middle hwrite)

theorem bind_pure (hcarries : CarriesWords write read value)
    (hnext : readNext value = Pure.pure result) :
    CarriesWords write (read >>= readNext) result where
  carries := hcarries.carries.bind_pure hnext
  aligned := hcarries.aligned

theorem orDefault (hcarries : CarriesWords write read value) (default : α) :
    CarriesWords write (orDefault read default) value where
  carries := hcarries.carries.orDefault default
  aligned := hcarries.aligned

end CarriesWords

end StreamCodec
