import Dmsfwk.WantParamsParsing

/-!
# Texts that the decoders read to their end

A quote that is opened and never closed sends the cursor back to the start of the
text.  The decoder then reads the text once more, and for good unless the open
text was taken for a type and the second reading closes all quotes.
-/

namespace Dmsfwk
namespace DistributedWantParamWrapper

open DistributedWantParams SortedEntries

/-! ## Reading a text once -/

/-- What one reading leaves: the text that stands open at the end with what it is
taken for, and the texts of the nested objects. -/
structure Reading where
  opened : Option (Phase × Text)
  objects : List Text
  deriving DecidableEq

inductive Mode where
  | between (phase : Phase)
  | inside (phase : Phase) (text : Text)
  | nested (depth : ℤ) (text : Text)
  | behindObject

/-- One reading, character by character.  The character behind a nested object is
not looked at. -/
def read : Mode → Text → Reading
  | .between _, [] => ⟨none, []⟩
  | .between phase, c :: rest =>
      if c = '"' then read (.inside phase []) rest
      else if c = '\x7b' ∧ phase = .object then read (.nested 1 [c]) rest
      else read (.between phase) rest
  | .inside phase text, [] => ⟨some (phase, text), []⟩
  | .inside phase text, c :: rest =>
      if c = '"' then read (.between (phase.behind text)) rest
      else read (.inside phase (text ++ [c])) rest
  | .nested _ _, [] => ⟨none, []⟩
  | .nested depth text, c :: rest =>
      let depth := if c = '\x7b' then depth + 1
        else if c = '\x7d' then depth - 1 else depth
      if depth = 0 then
        { read .behindObject rest with
          objects := (text ++ [c]) :: (read .behindObject rest).objects }
      else read (.nested depth (text ++ [c])) rest
  | .behindObject, [] => ⟨none, []⟩
  | .behindObject, _ :: rest => read (.between .key) rest

/-- The texts that are read to their end: `ValidateStr` refuses them, or a reading
that starts with a key closes every quote, or it leaves a type open and the
reading behind this type closes every quote.  The texts of the objects on the way
are read to their end, too. -/
inductive Readable : Text → Prop
  | refused {str : Text} (hrefused : validateStr str = false) : Readable str
  | once {str : Text} (hclosed : (read (.between .key) str).opened = none)
      (hobjects : ∀ object ∈ (read (.between .key) str).objects,
        Readable object) : Readable str
  | again {str text : Text}
      (hopened : (read (.between .key) str).opened = some (.type, text))
      (hobjects : ∀ object ∈ (read (.between .key) str).objects,
        Readable object)
      (hclosed : (read (.between (phaseOf (atoi text))) str).opened = none)
      (hobjectsAgain : ∀ object ∈
        (read (.between (phaseOf (atoi text))) str).objects,
        Readable object) : Readable str

/-! ## Counting braces -/

def braceWeight (c : Char) : ℤ :=
  if c = '\x7b' then 1 else if c = '\x7d' then -1 else 0

theorem add_braceWeight (count : ℤ) (c : Char) :
    count + braceWeight c =
      if c = '\x7b' then count + 1
      else if c = '\x7d' then count - 1 else count := by
  unfold braceWeight
  split_ifs <;> omega

theorem balancedAt_cons (count : ℤ) (c : Char) (str : Text) :
    balancedAt count (c :: str) =
      if count + braceWeight c = 0 then some 0
      else (balancedAt (count + braceWeight c) str).map (· + 1) := by
  rw [balancedAt, ← add_braceWeight]

theorem neverNegative_cons (counter : ℤ) (c : Char) (str : Text) :
    neverNegative counter (c :: str) =
      if counter + braceWeight c < 0 then false
      else neverNegative (counter + braceWeight c) str := by
  have hsame : (if c = '\x7d' then
      (if c = '\x7b' then counter + 1 else counter) - 1
      else if c = '\x7b' then counter + 1 else counter) =
        counter + braceWeight c := by
    rw [add_braceWeight]
    by_cases hopen : c = '\x7b'
    · subst hopen
      rfl
    · simp [hopen]
  rw [neverNegative, hsame]

def depth (str : Text) : ℤ := str.count '\x7b' - str.count '\x7d'

theorem depth_nil : depth [] = 0 := rfl

theorem depth_cons (c : Char) (str : Text) :
    depth (c :: str) = braceWeight c + depth str := by
  unfold depth braceWeight
  by_cases hopen : c = '\x7b'
  · subst hopen
    simp
    ring
  · by_cases hclose : c = '\x7d'
    · subst hclose
      simp
      ring
    · simp [hopen, hclose]

theorem depth_append (front rest : Text) :
    depth (front ++ rest) = depth front + depth rest := by
  unfold depth
  rw [List.count_append, List.count_append]
  push_cast
  ring

theorem neverNegative_append {counter : ℤ} {front rest : Text}
    (hnever : neverNegative counter (front ++ rest) = true)
    (hcounter : 0 ≤ counter) : 0 ≤ counter + depth front := by
  induction front generalizing counter with
  | nil => simpa [depth] using hcounter
  | cons c front ih =>
      rw [List.cons_append, neverNegative_cons] at hnever
      split_ifs at hnever with hnegative
      rw [depth_cons, ← add_assoc]
      exact ih hnever (not_lt.mp hnegative)

variable {str : Text}

theorem depth_pos_of_balancedAt {count : ℤ} (hnone : balancedAt count str = none)
    (hcount : 0 < count) :
    0 < count + depth str := by
  induction str generalizing count with
  | nil => simpa [depth] using hcount
  | cons c str ih =>
      rw [balancedAt_cons] at hnone
      split_ifs at hnone with hzero
      rw [depth_cons, ← add_assoc]
      apply ih (Option.map_eq_none_iff.mp hnone)
      have hweight : -1 ≤ braceWeight c := by
        unfold braceWeight
        split_ifs <;> omega
      omega

theorem depth_of_balancedAt {count : ℤ} {offset : ℕ}
    (hbalanced : balancedAt count str = some offset) :
    count + depth (str.take (offset + 1)) = 0 := by
  induction str generalizing count offset with
  | nil => cases hbalanced
  | cons c str ih =>
      rw [balancedAt_cons] at hbalanced
      split_ifs at hbalanced with hzero
      · cases hbalanced
        rw [zero_add, List.take_succ_cons, List.take_zero, depth_cons, depth_nil,
          add_zero]
        exact hzero
      · obtain ⟨offset, hrest, rfl⟩ := Option.map_eq_some_iff.mp hbalanced
        rw [List.take_succ_cons, depth_cons, ← add_assoc]
        exact ih hrest

theorem lt_length_of_balancedAt {count : ℤ} {offset : ℕ}
    (hbalanced : balancedAt count str = some offset) : offset < str.length := by
  induction str generalizing count offset with
  | nil => cases hbalanced
  | cons c str ih =>
      rw [balancedAt_cons] at hbalanced
      split_ifs at hbalanced with hzero
      · cases hbalanced
        exact Nat.succ_pos _
      · obtain ⟨offset, hrest, rfl⟩ := Option.map_eq_some_iff.mp hbalanced
        exact Nat.succ_lt_succ (ih hrest)

theorem depth_eq_zero_of_validateStr (hvalid : validateStr str = true) : depth str = 0 := by
  unfold validateStr at hvalid
  split_ifs at hvalid with hempty hquotes hbraces
  unfold depth
  rw [not_not.mp hbraces]
  ring

theorem neverNegative_of_validateStr (hvalid : validateStr str = true) : neverNegative 0 str = true := by
  unfold validateStr at hvalid
  split_ifs at hvalid
  exact hvalid

section Read

variable {phase : Phase} {text rest : Text}

theorem read_inside_quoted (hquote : '"' ∉ text) (taken rest : Text) :
    read (.inside phase taken) (text ++ '"' :: rest) =
      read (.between (phase.behind (taken ++ text))) rest := by
  induction text generalizing taken with
  | nil => simp [read]
  | cons c text ih =>
      rw [List.mem_cons, not_or] at hquote
      rw [List.cons_append, read, if_neg (Ne.symm hquote.1), ih hquote.2]
      simp

theorem read_inside_open (hquote : '"' ∉ text) (taken : Text) :
    read (.inside phase taken) text = ⟨some (phase, taken ++ text), []⟩ := by
  induction text generalizing taken with
  | nil => simp [read]
  | cons c text ih =>
      rw [List.mem_cons, not_or] at hquote
      rw [read, if_neg (Ne.symm hquote.1), ih hquote.2]
      simp

theorem read_quoted (hquote : '"' ∉ text) (rest : Text) :
    read (.between phase) ('"' :: (text ++ '"' :: rest)) =
      read (.between (phase.behind text)) rest := by
  rw [read, if_pos rfl, read_inside_quoted hquote]
  rfl

theorem read_open (hquote : '"' ∉ text) :
    read (.between phase) ('"' :: text) = ⟨some (phase, text), []⟩ := by
  rw [read, if_pos rfl, read_inside_open hquote]
  rfl

theorem read_nested_cons (depth : ℤ) (taken : Text) (c : Char) (rest : Text) :
    read (.nested depth taken) (c :: rest) =
      if depth + braceWeight c = 0 then
        ⟨(read .behindObject rest).opened,
          (taken ++ [c]) :: (read .behindObject rest).objects⟩
      else read (.nested (depth + braceWeight c) (taken ++ [c])) rest := by
  rw [read, ← add_braceWeight]

theorem read_nested {depth : ℤ} {offset : ℕ}
    (hbalanced : balancedAt depth str = some offset) (taken : Text) :
    read (.nested depth taken) str =
      ⟨(read .behindObject (str.drop (offset + 1))).opened,
        (taken ++ str.take (offset + 1)) ::
          (read .behindObject (str.drop (offset + 1))).objects⟩ := by
  induction str generalizing depth offset taken with
  | nil => cases hbalanced
  | cons c str ih =>
      rw [balancedAt_cons] at hbalanced
      rw [read_nested_cons]
      by_cases hzero : depth + braceWeight c = 0
      · rw [if_pos hzero] at hbalanced
        cases hbalanced
        rw [if_pos hzero]
        rfl
      · rw [if_neg hzero] at hbalanced
        obtain ⟨offset, hrest, rfl⟩ := Option.map_eq_some_iff.mp hbalanced
        rw [if_neg hzero, ih hrest]
        simp

theorem read_behindObject (rest : Text) :
    read .behindObject rest = read (.between .key) (rest.drop 1) := by
  cases rest <;> rfl

end Read

/-! ## The text that stays open -/

def Mode.taken : Mode → Text
  | .inside _ text => '"' :: text
  | _ => []

theorem opened_suffix {mode : Mode} {str text : Text} {phase : Phase}
    (hopened : (read mode str).opened = some (phase, text))
    (hmode : '"' ∉ mode.taken.tail) :
    ∃ front, mode.taken ++ str = front ++ '"' :: text ∧ '"' ∉ text := by
  induction mode, str using read.induct with
  | case1 => simp [read] at hopened
  | case2 before rest ih =>
      simp only [read, if_true] at hopened
      obtain ⟨front, hfront, htext⟩ := ih hopened List.not_mem_nil
      exact ⟨front, hfront, htext⟩
  | case3 before c rest hquote hobject ih =>
      simp only [read, if_neg hquote, if_pos hobject] at hopened
      obtain ⟨front, hfront, htext⟩ := ih hopened List.not_mem_nil
      exact ⟨c :: front, congrArg (c :: ·) hfront, htext⟩
  | case4 before c rest hquote hobject ih =>
      simp only [read, if_neg hquote, if_neg hobject] at hopened
      obtain ⟨front, hfront, htext⟩ := ih hopened List.not_mem_nil
      exact ⟨c :: front, congrArg (c :: ·) hfront, htext⟩
  | case5 before taken =>
      simp only [read, Option.some.injEq, Prod.mk.injEq] at hopened
      obtain ⟨rfl, rfl⟩ := hopened
      exact ⟨[], List.append_nil _, hmode⟩
  | case6 before taken rest ih =>
      simp only [read, if_true] at hopened
      obtain ⟨front, hfront, htext⟩ := ih hopened List.not_mem_nil
      refine ⟨'"' :: (taken ++ '"' :: front), ?_, htext⟩
      simpa [Mode.taken] using hfront
  | case7 before taken c rest hquote ih =>
      simp only [read, if_neg hquote] at hopened
      have hnext : '"' ∉ (Mode.inside before (taken ++ [c])).taken.tail := by
        simpa [Mode.taken, Ne.symm hquote] using hmode
      obtain ⟨front, hfront, htext⟩ := ih hopened hnext
      refine ⟨front, ?_, htext⟩
      simpa [Mode.taken] using hfront
  | case8 => simp [read] at hopened
  | case9 depth taken c rest next hzero ih =>
      have hnext : depth + braceWeight c = 0 := add_braceWeight depth c ▸ hzero
      rw [read_nested_cons, if_pos hnext] at hopened
      obtain ⟨front, hfront, htext⟩ := ih hopened List.not_mem_nil
      exact ⟨c :: front, congrArg (c :: ·) hfront, htext⟩
  | case10 depth taken c rest next hzero ih =>
      have hnext : next = depth + braceWeight c := (add_braceWeight depth c).symm
      rw [read_nested_cons, ← hnext, if_neg hzero] at hopened
      obtain ⟨front, hfront, htext⟩ := ih hopened List.not_mem_nil
      exact ⟨c :: front, congrArg (c :: ·) hfront, htext⟩
  | case11 => simp [read] at hopened
  | case12 c rest ih =>
      obtain ⟨front, hfront, htext⟩ := ih hopened List.not_mem_nil
      exact ⟨c :: front, congrArg (c :: ·) hfront, htext⟩

theorem opened_text_unique {str text other : Text} {phase before next last : Phase}
    (hopened : (read (.between phase) str).opened = some (before, text))
    (hother : (read (.between next) str).opened = some (last, other)) :
    other = text := by
  obtain ⟨front, hfront, htext⟩ := opened_suffix hopened List.not_mem_nil
  obtain ⟨init, hinit, hlast⟩ := opened_suffix hother List.not_mem_nil
  have hcut : ∀ {front text : Text}, '"' ∉ text →
      (front ++ '"' :: text).reverse.takeWhile (· ≠ '"') = text.reverse := by
    intro front text htext
    have hkept : ∀ c ∈ text.reverse, decide (c ≠ '"') = true := by
      intro c hc
      rw [decide_eq_true_iff]
      rintro rfl
      exact htext (List.mem_reverse.mp hc)
    rw [List.reverse_append, List.reverse_cons, List.append_assoc,
      List.takeWhile_append_of_pos hkept]
    simp
  rw [← List.reverse_inj, ← hcut htext, ← hcut hlast, ← hfront, ← hinit]
  rfl

/-! ## Matching braces -/

def Matched (str : Text) : Prop :=
  ∀ front rest, str = front ++ '\x7b' :: rest →
    ∃ offset, balancedAt 0 ('\x7b' :: rest) = some offset

theorem matched_of_validateStr (hvalid : validateStr str = true) :
    Matched str := by
  rintro front rest rfl
  have hfront := neverNegative_append (neverNegative_of_validateStr hvalid) le_rfl
  have htotal := depth_eq_zero_of_validateStr hvalid
  by_contra hnone
  rw [← Option.isSome_iff_exists, Option.not_isSome_iff_eq_none,
    balancedAt_cons] at hnone
  have hrest := depth_pos_of_balancedAt (Option.map_eq_none_iff.mp hnone)
    (by decide)
  rw [depth_append, depth_cons] at htotal
  omega

theorem getLast?_of_balancedAt {count : ℤ} {offset : ℕ}
    (hbalanced : balancedAt count str = some offset) (hcount : 0 < count) :
    (str.take (offset + 1)).getLast? = some '\x7d' := by
  induction str generalizing count offset with
  | nil => cases hbalanced
  | cons c str ih =>
      rw [balancedAt_cons] at hbalanced
      split_ifs at hbalanced with hzero
      · cases hbalanced
        have hclose : c = '\x7d' := by
          unfold braceWeight at hzero
          split_ifs at hzero with hopen hclose <;> [omega; exact hclose; omega]
        rw [hclose]
        rfl
      · obtain ⟨offset, hrest, rfl⟩ := Option.map_eq_some_iff.mp hbalanced
        have hweight : -1 ≤ braceWeight c := by
          unfold braceWeight
          split_ifs <;> omega
        rw [List.take_succ_cons, List.getLast?_cons, ih hrest (by omega)]
        rfl

/-! ## What stands at the cursor -/

inductive Ahead (phase : Phase) : Text → Prop
  | finished : Ahead phase []
  | other {c : Char} {rest : Text} (hquote : c ≠ '"')
      (hbrace : c = '\x7b' → phase ≠ .object) : Ahead phase (c :: rest)
  | quoted {text rest : Text} (hquote : '"' ∉ text) :
      Ahead phase ('"' :: (text ++ '"' :: rest))
  | unclosed {text : Text} (hquote : '"' ∉ text) : Ahead phase ('"' :: text)
  | object {object rest : Text} (hphase : phase = .object)
      (hbrace : object.head? = some '\x7b')
      (hbalanced : balancedAt 0 (object ++ rest) = some (object.length - 1)) :
      Ahead phase (object ++ rest)

theorem ahead_of_matched {front rest : Text} (hmatched : Matched (front ++ rest))
    (phase : Phase) : Ahead phase rest := by
  cases rest with
  | nil => exact .finished
  | cons c rest =>
      by_cases hquote : c = '"'
      · subst hquote
        by_cases hclosed : '"' ∈ rest
        · obtain ⟨text, rest, rfl, htext⟩ := List.eq_append_cons_of_mem hclosed
          exact .quoted htext
        · exact .unclosed hclosed
      · by_cases hobject : c = '\x7b' ∧ phase = .object
        · obtain ⟨rfl, hphase⟩ := hobject
          obtain ⟨offset, hbalanced⟩ := hmatched front rest rfl
          have hoffset := lt_length_of_balancedAt hbalanced
          rw [← List.take_append_drop (offset + 1) ('\x7b' :: rest)]
          apply Ahead.object hphase
          · rfl
          · rw [List.take_append_drop, hbalanced, List.length_take]
            congr 1
            omega
        · exact .other hquote fun hc hphase => hobject ⟨hc, hphase⟩

theorem read_other {phase : Phase} {c : Char} {rest : Text} (hquote : c ≠ '"')
    (hbrace : c = '\x7b' → phase ≠ .object) :
    read (.between phase) (c :: rest) = read (.between phase) rest := by
  rw [read, if_neg hquote, if_neg fun hand => hbrace hand.1 hand.2]

theorem read_object {object rest : Text} (hbrace : object.head? = some '\x7b')
    (hbalanced : balancedAt 0 (object ++ rest) = some (object.length - 1)) :
    read (.between .object) (object ++ rest) =
      ⟨(read (.between .key) (rest.drop 1)).opened,
        object :: (read (.between .key) (rest.drop 1)).objects⟩ := by
  obtain ⟨tail, rfl⟩ := List.head?_eq_some_iff.mp hbrace
  rw [List.cons_append, balancedAt_cons, if_neg (by decide)] at hbalanced
  obtain ⟨offset, htail, hoffset⟩ := Option.map_eq_some_iff.mp hbalanced
  have hstart : 0 + braceWeight '\x7b' = 1 := rfl
  rw [hstart] at htail
  have hlength : offset + 1 = tail.length := by simpa using hoffset
  rw [List.cons_append, read, if_neg (by decide), if_pos ⟨rfl, rfl⟩,
    read_nested htail, hlength, List.drop_left, List.take_left,
    read_behindObject]
  rfl

theorem validateStr_dropLast {object rest : Text}
    (hbrace : object.head? = some '\x7b')
    (hbalanced : balancedAt 0 (object ++ rest) = some (object.length - 1)) :
    validateStr object.dropLast = false := by
  obtain ⟨tail, rfl⟩ := List.head?_eq_some_iff.mp hbrace
  have hdepth := depth_of_balancedAt hbalanced
  rw [List.length_cons, Nat.add_sub_cancel, ← List.length_cons,
    List.take_left] at hdepth
  rw [List.cons_append, balancedAt_cons, if_neg (by decide)] at hbalanced
  obtain ⟨offset, htail, hoffset⟩ := Option.map_eq_some_iff.mp hbalanced
  have hlength : offset + 1 = tail.length := by simpa using hoffset
  have hlast := getLast?_of_balancedAt htail (by decide)
  rw [hlength, List.take_left] at hlast
  have hclose : ('\x7b' :: tail).getLast? = some '\x7d' := by
    rw [List.getLast?_cons, hlast]
    rfl
  rw [Bool.eq_false_iff]
  intro hvalid
  rw [← List.dropLast_append_getLast? _ hclose, depth_append,
    depth_eq_zero_of_validateStr hvalid] at hdepth
  exact absurd hdepth (by decide)

end DistributedWantParamWrapper
end Dmsfwk
