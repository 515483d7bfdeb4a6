import Dmsfwk.DistributedWantParamWrapper

/-!
# One round of the decoders

What a round does at the cursor, told by the text before and behind it: a quoted
text is taken for what is wanted next, an open one sends the cursor back to the
start, and the text of a nested object is passed over together with one more
character.
-/

namespace Dmsfwk
namespace DistributedWantParamWrapper

open DistributedWantParams SortedEntries

/-! ## Finding and cutting -/

section Strings

variable {front text rest : Text}

theorem drop_length (front rest : Text) :
    (front ++ rest).drop front.length = rest := List.drop_left

theorem findIdx?_quoted (hquote : '"' ∉ text) (rest : Text) :
    (text ++ '"' :: rest).findIdx? (· = '"') = some text.length := by
  induction text with
  | nil => rfl
  | cons c text ih =>
      rw [List.mem_cons, not_or] at hquote
      obtain ⟨hc, htext⟩ := hquote
      simp [List.findIdx?_cons, Ne.symm hc, ih htext]

theorem find_quoted (front : Text) (hquote : '"' ∉ text) (rest : Text) :
    find (front ++ (text ++ '"' :: rest)) front.length =
      some (front.length + text.length) := by
  rw [find, drop_length, findIdx?_quoted hquote]
  rfl

theorem find_open (front : Text) (hquote : '"' ∉ text) :
    find (front ++ text) front.length = none := by
  rw [find, drop_length, Option.map_eq_none_iff, List.findIdx?_eq_none_iff]
  intro c hc
  rw [decide_eq_false_iff_not]
  rintro rfl
  exact hquote hc

theorem substr_append (front text rest : Text) :
    substr (front ++ (text ++ rest)) front.length (some text.length) =
      some text := by
  rw [substr, if_neg (by simp), drop_length]
  exact congrArg some List.take_left

theorem substr_rest (front text : Text) :
    substr (front ++ text) front.length none = some text := by
  rw [substr, if_neg (by simp), drop_length]

end Strings

/-! ## What is wanted next -/

inductive Phase where
  | key
  | type
  | object
  | value
  deriving DecidableEq, Repr

def phaseOf (typeId : Int32) : Phase :=
  if typeId = 0 then .type
  else if typeId = valueTypeWantParams then .object
  else .value

def Phase.behind : Phase → Text → Phase
  | .key, text => if text = [] then .key else .type
  | .type, text => phaseOf (atoi text)
  | .object, _ => .key
  | .value, _ => .key

namespace ParseState

def phase (state : ParseState) : Phase :=
  if state.key = [] then .key else phaseOf state.typeId

def take (env : WrapperEnv) (state : ParseState) (text : Text) : ParseState :=
  if state.key = [] then { state with key := text }
  else if state.typeId = 0 then { state with typeId := atoi text }
  else
    { state with
      key := []
      typeId := 0
      wantParams := insert state.key
        (getInterfaceByType env.library state.typeId text) state.wantParams }

def takeOpen (decoder : Decoder) (env : WrapperEnv) (state : ParseState)
    (text : Text) : ParseState :=
  if decoder = .parse ∧ state.key = [] then state else state.take env text

def Quits (env : WrapperEnv) (state : ParseState) : Prop :=
  state.phase = .type ∧ env.errno = erange

instance (env : WrapperEnv) (state : ParseState) :
    Decidable (state.Quits env) := by
  unfold Quits
  infer_instance

theorem phase_eq_object {state : ParseState} :
    state.phase = .object ↔
      state.key ≠ [] ∧ state.typeId = valueTypeWantParams := by
  unfold phase phaseOf
  constructor
  · intro hphase
    split_ifs at hphase with hkey hzero htype
    exact ⟨hkey, htype⟩
  · rintro ⟨hkey, htype⟩
    have hzero : valueTypeWantParams ≠ 0 := by decide
    rw [if_neg hkey, htype, if_neg hzero, if_pos rfl]

theorem phase_eq_type {state : ParseState} :
    state.phase = .type ↔ state.key ≠ [] ∧ state.typeId = 0 := by
  unfold phase phaseOf
  constructor
  · intro hphase
    split_ifs at hphase with hkey hzero
    exact ⟨hkey, hzero⟩
  · rintro ⟨hkey, hzero⟩
    rw [if_neg hkey, if_pos hzero]

theorem phase_eq_key {state : ParseState} :
    state.phase = .key ↔ state.key = [] := by
  unfold phase phaseOf
  constructor
  · intro hphase
    split_ifs at hphase with hkey
    exact hkey
  · intro hkey
    rw [if_pos hkey]

theorem take_nil {env : WrapperEnv} {state : ParseState}
    (hkey : state.key = []) : state.take env [] = state := by
  obtain ⟨strnum, key, typeId, wantParams⟩ := state
  cases hkey
  rfl

end ParseState

/-! ## Rounds -/

section Rounds

variable {decoder : Decoder} {env : WrapperEnv} {state : ParseState}
  {front text rest : Text} {c : Char}

theorem getElem?_length (front : Text) (c : Char) (rest : Text) :
    (front ++ c :: rest)[front.length]? = some c := by
  simp

theorem round_other (hstrnum : state.strnum = front.length) (hquote : c ≠ '"')
    (hbrace : c = '\x7b' → state.phase ≠ .object) :
    round decoder env (front ++ c :: rest) state =
      .advance { state with strnum := front.length + 1 } := by
  rw [round, hstrnum, getElem?_length, if_neg, if_pos]
  · simpa using hquote
  · rintro ⟨hc, hobject⟩
    exact hbrace (Option.some.inj hc) (ParseState.phase_eq_object.mpr hobject)

theorem round_quote (hstrnum : state.strnum = front.length) :
    round decoder env (front ++ '"' :: rest) state =
      if state.key = [] then readKey decoder (front ++ '"' :: rest) state
      else if state.typeId = 0 then readType env (front ++ '"' :: rest) state
      else readValue env (front ++ '"' :: rest) state := by
  have hbrace : (some '"' : Option Char) ≠ some '\x7b' := by decide
  rw [round, hstrnum, getElem?_length, if_neg fun hand => hbrace hand.1,
    if_neg (not_not.mpr rfl)]

theorem gerTypedId_of_substr {str : Text} {strnum : ℕ} {pos : Option ℕ}
    (hfind : find str strnum = pos) (hpos : pos.any (· < strnum) = false)
    (hsubstr : substr str strnum (pos.map (· - strnum)) = some text) :
    gerTypedId str strnum = some (atoi text) := by
  rw [gerTypedId, hfind, hpos]
  simp only [Bool.false_eq_true, if_false]
  rw [hsubstr]
  cases text with
  | nil => rfl
  | cons c text => rfl

theorem round_of_substr (text : Text) {pos : Option ℕ}
    (hstrnum : state.strnum = front.length)
    (hfind : find (front ++ '"' :: rest) (front.length + 1) = pos)
    (hpos : pos.any (· < front.length + 1) = false)
    (hsubstr : substr (front ++ '"' :: rest) (front.length + 1)
      (pos.map (· - (front.length + 1))) = some text)
    (hopen : decoder = .parse →
      (pos.any (front.length + 1 < ·) = true ↔ pos ≠ none ∧ text ≠ [])) :
    round decoder env (front ++ '"' :: rest) state =
      if state.Quits env then .quit
      else .advance {
        (if pos = none then state.takeOpen decoder env text
          else state.take env text) with strnum := increment pos } := by
  rw [round_quote hstrnum]
  by_cases hkey : state.key = []
  · have hphase : ¬state.Quits env := by
      rintro ⟨htype, _⟩
      exact (ParseState.phase_eq_type.mp htype).1 hkey
    rw [if_pos hkey, if_neg hphase]
    cases decoder with
    | parse =>
        simp only [readKey, hstrnum, hfind, hsubstr]
        have hiff := hopen rfl
        by_cases hsome : pos = none
        · subst hsome
          simp [ParseState.takeOpen, hkey]
        · by_cases htext : text = []
          · have hfalse : pos.any (front.length + 1 < ·) = false := by
              rw [Bool.eq_false_iff]
              exact fun htrue => (hiff.mp htrue).2 htext
            rw [hfalse, if_neg hsome, htext, ParseState.take_nil hkey]
            rfl
          · simp [hiff.mpr ⟨hsome, htext⟩, hsome, ParseState.take, hkey]
    | parseWantParams =>
        simp only [readKey, hstrnum, hfind, hsubstr, hpos]
        simp [ParseState.takeOpen, ParseState.take, hkey]
  · rw [if_neg hkey]
    have htake : (if pos = none then state.takeOpen decoder env text
        else state.take env text) = state.take env text := by
      simp [ParseState.takeOpen, hkey]
    rw [htake]
    by_cases htype : state.typeId = 0
    · have hphase : state.Quits env ↔ env.errno = erange :=
        and_iff_right (ParseState.phase_eq_type.mpr ⟨hkey, htype⟩)
      rw [if_pos htype, readType, hstrnum,
        gerTypedId_of_substr hfind hpos hsubstr, hfind]
      simp only [hphase, ParseState.take, if_neg hkey, if_pos htype]
    · have hphase : ¬state.Quits env := by
        rintro ⟨hphase, _⟩
        exact htype (ParseState.phase_eq_type.mp hphase).2
      rw [if_neg htype, if_neg hphase]
      simp only [readValue, hstrnum, hfind, hsubstr]
      simp [ParseState.take, hkey, htype]

theorem round_quoted (hstrnum : state.strnum = front.length)
    (hquote : '"' ∉ text) :
    round decoder env (front ++ '"' :: (text ++ '"' :: rest)) state =
      if state.Quits env then .quit
      else .advance { state.take env text with
        strnum := front.length + text.length + 2 } := by
  have hassoc : front ++ '"' :: (text ++ '"' :: rest) =
      (front ++ ['"']) ++ (text ++ '"' :: rest) := by simp
  have hlength : front.length + 1 = (front ++ ['"']).length := by simp
  have hfind : find (front ++ '"' :: (text ++ '"' :: rest)) (front.length + 1) =
      some (front.length + 1 + text.length) := by
    rw [hassoc, hlength, find_quoted _ hquote]
  rw [round_of_substr text hstrnum hfind]
  · simp [increment, Nat.add_right_comm]
  · rw [Option.any_some, decide_eq_false_iff_not]
    omega
  · rw [hassoc, hlength]
    simp only [Option.map_some, Nat.add_sub_cancel_left]
    exact substr_append _ _ _
  · simp [List.length_pos_iff]

theorem round_open (hstrnum : state.strnum = front.length)
    (hquote : '"' ∉ text) :
    round decoder env (front ++ '"' :: text) state =
      if state.Quits env then .quit
      else .advance { state.takeOpen decoder env text with strnum := 0 } := by
  have hassoc : front ++ '"' :: text = (front ++ ['"']) ++ text := by simp
  have hlength : front.length + 1 = (front ++ ['"']).length := by simp
  have hfind : find (front ++ '"' :: text) (front.length + 1) = none := by
    rw [hassoc, hlength, find_open _ hquote]
  rw [round_of_substr text hstrnum hfind]
  · simp [increment]
  · rfl
  · rw [hassoc, hlength]
    exact substr_rest _ _
  · simp

def objectText : Decoder → Text → Text
  | .parse, object => object
  | .parseWantParams, object => object.dropLast

theorem round_object {object : Text} (hstrnum : state.strnum = front.length)
    (hphase : state.phase = .object) (hbrace : object.head? = some '\x7b')
    (hbalanced : balancedAt 0 (object ++ rest) = some (object.length - 1)) :
    round decoder env (front ++ (object ++ rest)) state =
      .object (objectText decoder object) (front.length + object.length + 1) := by
  obtain ⟨tail, rfl⟩ := List.head?_eq_some_iff.mp hbrace
  have hobject := ParseState.phase_eq_object.mp hphase
  have hchar : (front ++ ('\x7b' :: tail ++ rest))[state.strnum]? =
      some '\x7b' := by
    rw [hstrnum]
    exact getElem?_length _ _ _
  have hmatch : findMatchingBrace (front ++ ('\x7b' :: tail ++ rest))
      front.length = front.length + tail.length := by
    rw [findMatchingBrace, drop_length, hbalanced]
    rfl
  have hcut : ∀ text tail : Text, ∀ count, count = text.length →
      substr (front ++ (text ++ tail)) front.length (some count) = some text :=
    fun text tail count hcount => hcount ▸ substr_append front text tail
  rw [round, if_pos ⟨hchar, hobject⟩]
  unfold readObject
  rw [hstrnum, hmatch]
  cases decoder with
  | parse =>
      dsimp only
      rw [hcut ('\x7b' :: tail) rest _ (by simp)]
      simp [objectText, Nat.add_assoc]
  | parseWantParams =>
      have hlast : '\x7b' :: tail ++ rest = ('\x7b' :: tail).dropLast ++
          ([('\x7b' :: tail).getLast (by simp)] ++ rest) := by
        rw [← List.append_assoc, List.dropLast_append_getLast]
      dsimp only
      rw [hlast, hcut _ _ _ (by simp)]
      simp [objectText, Nat.add_assoc]

end Rounds

end DistributedWantParamWrapper
end Dmsfwk
