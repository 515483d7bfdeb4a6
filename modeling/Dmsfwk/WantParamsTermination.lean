import Dmsfwk.WantParamsReading

/-!
# Decoders that return

Both decoders return exactly on the texts that are `Readable`.  A run that
returns uses less fuel for every nested text and for every reading after the
first one, so the texts it reads are `Readable` by induction on the fuel.  The
other way round, the cursor only moves forward within one reading.
-/

namespace Dmsfwk
namespace DistributedWantParamWrapper

open DistributedWantParams SortedEntries

/-! ## Answers -/

def Returned (answer : Option Decoded) : Prop :=
  ∃ decoded, answer = some decoded ∧ decoded ≠ .outOfRange

def Ends (run : ℕ → Option Decoded) : Prop :=
  ∃ fuel, Returned (run fuel)

def Terminates (str : Text) : Prop :=
  ∀ env : WrapperEnv, Ends (fun fuel => parse env fuel str) ∧
    Ends (fun fuel => parseWantParams env fuel str)

section Steps

variable {env : WrapperEnv} {decoder : Decoder} {str : Text}
  {state next : ParseState} {fuel : ℕ}

theorem decode_end (hlength : str.length ≤ state.strnum) :
    decode env (fuel + 1) decoder str state =
      some (finish decoder env state.wantParams) := by
  rw [decode, if_neg (not_lt.mpr hlength)]

theorem decode_advance (hlength : state.strnum < str.length)
    (hround : round decoder env str state = .advance next) :
    decode env (fuel + 1) decoder str state =
      decode env fuel decoder str next := by
  rw [decode, if_pos hlength, hround]

theorem decode_quit (hlength : state.strnum < str.length)
    (hround : round decoder env str state = .quit) :
    decode env (fuel + 1) decoder str state =
      some (quit decoder state.wantParams) := by
  rw [decode, if_pos hlength, hround]

def behindObject (state : ParseState) (value : Decoded) (strnum : ℕ) :
    ParseState where
  strnum := strnum
  wantParams := insert state.key (boxed value) state.wantParams

section Length

variable {text : Text} {strnum : ℕ} (hlength : state.strnum < str.length)
  (hround : round decoder env str state = .object text strnum)

include hlength hround

theorem decode_object :
    decode env (fuel + 1) decoder str state =
      match parse env fuel text with
      | none => none
      | some .outOfRange => some .outOfRange
      | some value =>
          decode env fuel decoder str (behindObject state value strnum) := by
  rw [decode, if_pos hlength, hround]
  rfl

theorem decode_object_of_parse {value : Decoded}
    (hparse : parse env fuel text = some value) (hvalue : value ≠ .outOfRange) :
    decode env (fuel + 1) decoder str state =
      decode env fuel decoder str (behindObject state value strnum) := by
  rw [decode_object hlength hround, hparse]
  cases value <;> first | rfl | exact absurd rfl hvalue

theorem returned_object
    (hreturned : Returned (decode env (fuel + 1) decoder str state)) :
    ∃ value, parse env fuel text = some value ∧ value ≠ .outOfRange ∧
      Returned (decode env fuel decoder str
        (behindObject state value strnum)) := by
  obtain ⟨decoded, hdecoded, hrange⟩ := hreturned
  rw [decode_object hlength hround] at hdecoded
  cases hparse : parse env fuel text with
  | none =>
      rw [hparse] at hdecoded
      cases hdecoded
  | some value =>
      by_cases hvalue : value = .outOfRange
      · rw [hparse, hvalue] at hdecoded
        cases hdecoded
        exact absurd rfl hrange
      · refine ⟨value, rfl, hvalue, decoded, ?_, hrange⟩
        rw [← hdecoded, hparse]
        cases value <;> first | rfl | exact absurd rfl hvalue

end Length

/-! ## More fuel -/

theorem decode_mono {more : ℕ} {decoded : Decoded} (hle : fuel ≤ more)
    (hdecoded : decode env fuel decoder str state = some decoded) :
    decode env more decoder str state = some decoded := by
  induction fuel generalizing more decoder str state decoded with
  | zero => cases hdecoded
  | succ fuel ih =>
      obtain ⟨more, rfl⟩ := Nat.exists_eq_add_of_le' (Nat.one_le_of_lt hle)
      have hle := Nat.le_of_succ_le_succ hle
      have hnested : ∀ {text value}, parse env fuel text = some value →
          parse env more text = some value := by
        intro text value hparse
        unfold parse at hparse ⊢
        split_ifs at hparse ⊢ with hvalid
        · exact ih hle hparse
        · exact hparse
      by_cases hlength : state.strnum < str.length
      · cases hround : round decoder env str state with
        | advance next =>
            rw [decode_advance hlength hround] at hdecoded ⊢
            exact ih hle hdecoded
        | object text strnum =>
            rw [decode_object hlength hround] at hdecoded ⊢
            cases hparse : parse env fuel text with
            | none =>
                rw [hparse] at hdecoded
                cases hdecoded
            | some value =>
                rw [hparse] at hdecoded
                rw [hnested hparse]
                cases value with
                | outOfRange => exact hdecoded
                | null => exact ih hle hdecoded
                | params params => exact ih hle hdecoded
        | quit =>
            rw [decode_quit hlength hround] at hdecoded ⊢
            exact hdecoded
        | outOfRange =>
            rw [decode, if_pos hlength, hround] at hdecoded ⊢
            exact hdecoded
      · rw [decode_end (not_lt.mp hlength)] at hdecoded ⊢
        exact hdecoded

theorem parse_mono {more : ℕ} {text : Text} {value : Decoded}
    (hle : fuel ≤ more) (hparse : parse env fuel text = some value) :
    parse env more text = some value := by
  unfold parse at hparse ⊢
  split_ifs at hparse ⊢ with hvalid
  · exact decode_mono hle hparse
  · exact hparse

end Steps

/-! ## Phases along a run -/

def ParseState.Regular (state : ParseState) : Prop :=
  state.key = [] → state.typeId = 0

def Phase.reopened (decoder : Decoder) (phase : Phase) (text : Text) : Phase :=
  if decoder = .parse ∧ phase = .key then .key else phase.behind text

section Phases

variable {env : WrapperEnv} {decoder : Decoder} {state : ParseState}

theorem phase_take (env : WrapperEnv) (hregular : state.Regular) (text : Text) :
    (state.take env text).phase = state.phase.behind text := by
  unfold ParseState.take
  by_cases hkey : state.key = []
  · rw [if_pos hkey, ParseState.phase_eq_key.mpr hkey]
    simp only [ParseState.phase, Phase.behind, phaseOf, hregular hkey, if_true]
  · rw [if_neg hkey]
    by_cases htype : state.typeId = 0
    · rw [if_pos htype, ParseState.phase_eq_type.mpr ⟨hkey, htype⟩]
      simp only [ParseState.phase, Phase.behind, if_neg hkey]
    · rw [if_neg htype]
      have hphase : state.phase = phaseOf state.typeId := if_neg hkey
      rw [hphase, phaseOf, if_neg htype]
      split_ifs <;> rfl

theorem regular_take (hregular : state.Regular) (text : Text) :
    (state.take env text).Regular := by
  intro htaken
  unfold ParseState.take at htaken ⊢
  split_ifs at htaken ⊢ with hkey htype
  · exact hregular hkey
  · exact absurd htaken hkey
  · rfl

theorem phase_takeOpen (hregular : state.Regular) (text : Text) :
    (state.takeOpen decoder env text).phase =
      state.phase.reopened decoder text := by
  simp only [ParseState.takeOpen, Phase.reopened, ← ParseState.phase_eq_key]
  split_ifs with hparse
  · exact hparse.2
  · exact phase_take env hregular text

theorem regular_takeOpen (hregular : state.Regular) (text : Text) :
    (state.takeOpen decoder env text).Regular := by
  unfold ParseState.takeOpen
  split_ifs
  · exact hregular
  · exact regular_take hregular text

theorem regular_behindObject (value : Decoded) (strnum : ℕ) :
    (behindObject state value strnum).Regular := fun _ => rfl

end Phases

/-! ## Runs that go on to an end -/

section Ends

variable {env : WrapperEnv} {decoder : Decoder} {str : Text}
  {state next : ParseState}

theorem Ends.at_end (hlength : str.length ≤ state.strnum) :
    Ends (fun fuel => decode env fuel decoder str state) := by
  refine ⟨1, _, decode_end hlength, ?_⟩
  cases decoder <;> exact Decoded.noConfusion

theorem Ends.quit (hlength : state.strnum < str.length)
    (hround : round decoder env str state = .quit) :
    Ends (fun fuel => decode env fuel decoder str state) := by
  refine ⟨1, _, decode_quit hlength hround, ?_⟩
  cases decoder <;> exact Decoded.noConfusion

theorem Ends.advance (hlength : state.strnum < str.length)
    (hround : round decoder env str state = .advance next)
    (hends : Ends (fun fuel => decode env fuel decoder str next)) :
    Ends (fun fuel => decode env fuel decoder str state) := by
  obtain ⟨fuel, hreturned⟩ := hends
  refine ⟨fuel + 1, ?_⟩
  dsimp only
  rw [decode_advance hlength hround]
  exact hreturned

theorem Ends.object {text : Text} {strnum : ℕ}
    (hlength : state.strnum < str.length)
    (hround : round decoder env str state = .object text strnum)
    (hparse : Ends (fun fuel => parse env fuel text))
    (hends : ∀ value, Ends (fun fuel => decode env fuel decoder str
      (behindObject state value strnum))) :
    Ends (fun fuel => decode env fuel decoder str state) := by
  obtain ⟨fuel, value, hvalue, hrange⟩ := hparse
  obtain ⟨more, decoded, hdecoded, hreturned⟩ := hends value
  refine ⟨max fuel more + 1, decoded, ?_, hreturned⟩
  dsimp only
  rw [decode_object_of_parse hlength hround
    (parse_mono (le_max_left fuel more) hvalue) hrange]
  exact decode_mono (le_max_right fuel more) hdecoded

theorem Ends.parse_objectText {object rest : Text}
    (hbrace : object.head? = some '\x7b')
    (hbalanced : balancedAt 0 (object ++ rest) = some (object.length - 1))
    (hends : decoder = .parse → Ends (fun fuel => parse env fuel object)) :
    Ends (fun fuel => parse env fuel (objectText decoder object)) := by
  cases decoder with
  | parse => exact hends rfl
  | parseWantParams =>
      refine ⟨0, .null, ?_, Decoded.noConfusion⟩
      have hrefused := validateStr_dropLast hbrace hbalanced
      simp [parse, objectText, hrefused]

/-- Within one reading every round moves the cursor forward, so a run ends when
the runs of `Parse` on the nested texts end and the next reading, if there is one,
ends. -/
theorem ends_of_reading (hmatched : Matched str) (front rest : Text)
    (state : ParseState) (hstr : str = front ++ rest)
    (hstrnum : state.strnum = front.length) (hregular : state.Regular)
    (hobjects : decoder = .parse →
      ∀ object ∈ (read (.between state.phase) rest).objects,
        Ends (fun fuel => parse env fuel object))
    (hopened : ∀ phase text,
      (read (.between state.phase) rest).opened = some (phase, text) →
      ∀ next : ParseState, next.strnum = 0 → next.Regular →
        next.phase = phase.reopened decoder text →
        Ends (fun fuel => decode env fuel decoder str next)) :
    Ends (fun fuel => decode env fuel decoder str state) := by
  induction hlength : rest.length using Nat.strong_induction_on
    generalizing front rest state with
  | h length ih =>
      subst hlength hstr
      have hahead := ahead_of_matched hmatched state.phase
      cases hahead with
      | finished => exact Ends.at_end (by simp [hstrnum])
      | @other c rest hquote hbrace =>
          rw [read_other hquote hbrace] at hobjects hopened
          apply Ends.advance (by simp [hstrnum])
            (round_other hstrnum hquote hbrace)
          exact ih rest.length (by simp) (front ++ [c]) rest
            { state with strnum := front.length + 1 } (by simp) (by simp)
            hregular hobjects hopened rfl
      | @quoted text rest hquote =>
          rw [read_quoted hquote, ← phase_take env hregular] at hobjects hopened
          have hround : round decoder env
              (front ++ '"' :: (text ++ '"' :: rest)) state = _ :=
            round_quoted hstrnum hquote
          split_ifs at hround with hquits
          · exact Ends.quit (by simp [hstrnum]) hround
          · apply Ends.advance (by simp [hstrnum]) hround
            exact ih rest.length (by simp; omega)
              (front ++ '"' :: (text ++ ['"'])) rest
              { state.take env text with
                strnum := front.length + text.length + 2 }
              (by simp) (by simp; omega) (regular_take hregular text)
              hobjects hopened rfl
      | @unclosed text hquote =>
          rw [read_open hquote] at hopened
          have hround : round decoder env (front ++ '"' :: text) state = _ :=
            round_open hstrnum hquote
          split_ifs at hround with hquits
          · exact Ends.quit (by simp [hstrnum]) hround
          · exact Ends.advance (by simp [hstrnum]) hround
              (hopened _ _ rfl _ rfl (regular_takeOpen hregular text)
                (phase_takeOpen hregular text))
      | @object object rest hphase hbrace hbalanced =>
          have hpos : 0 < object.length := by
            obtain ⟨tail, rfl⟩ := List.head?_eq_some_iff.mp hbrace
            exact Nat.succ_pos _
          rw [hphase, read_object hbrace hbalanced] at hobjects hopened
          have hfirst : decoder = .parse →
              Ends (fun fuel => parse env fuel object) :=
            fun hdecoder => hobjects hdecoder object List.mem_cons_self
          apply Ends.object (by simp [hstrnum]; omega)
            (round_object hstrnum hphase hbrace hbalanced)
            (Ends.parse_objectText hbrace hbalanced hfirst)
          intro value
          cases rest with
          | nil => exact Ends.at_end (by simp [behindObject])
          | cons c rest =>
              exact ih rest.length (by simp; omega) (front ++ (object ++ [c]))
                rest (behindObject state value _) (by simp)
                (by simp [behindObject]; omega) (regular_behindObject _ _)
                (fun hdecoder nested hnested => hobjects hdecoder nested
                  (List.mem_cons_of_mem _ hnested)) hopened rfl

end Ends

/-! ## What a run that returns has read -/

section Returns

variable {env : WrapperEnv} {decoder : Decoder} {str : Text} {fuel : ℕ}

/-- A run that returns with this fuel has seen the reading: less fuel was enough
for `Parse` on every object, and for the next reading of an open text. -/
structure Follows (env : WrapperEnv) (decoder : Decoder) (str : Text)
    (fuel : ℕ) (reading : Reading) : Prop where
  objects : ∀ object ∈ reading.objects,
    ∃ less < fuel, Returned (parse env less (objectText decoder object))
  opened : ∀ phase text, reading.opened = some (phase, text) →
    ∃ less < fuel, ∃ next : ParseState, next.strnum = 0 ∧ next.Regular ∧
      next.phase = phase.reopened decoder text ∧
      Returned (decode env less decoder str next)

theorem Follows.succ {reading : Reading}
    (hfollows : Follows env decoder str fuel reading) :
    Follows env decoder str (fuel + 1) reading where
  objects object hobject := by
    obtain ⟨less, hless, hreturned⟩ := hfollows.objects object hobject
    exact ⟨less, Nat.lt_succ_of_lt hless, hreturned⟩
  opened phase text hopened := by
    obtain ⟨less, hless, hnext⟩ := hfollows.opened phase text hopened
    exact ⟨less, Nat.lt_succ_of_lt hless, hnext⟩

theorem Follows.empty : Follows env decoder str fuel ⟨none, []⟩ where
  objects _ hobject := absurd hobject List.not_mem_nil
  opened _ _ hopened := nomatch hopened

theorem Follows.object {object : Text} {opened : Option (Phase × Text)}
    {objects : List Text}
    (hfollows : Follows env decoder str fuel ⟨opened, objects⟩)
    (hreturned : Returned (parse env fuel (objectText decoder object))) :
    Follows env decoder str (fuel + 1) ⟨opened, object :: objects⟩ where
  objects nested hnested := by
    rcases List.mem_cons.mp hnested with rfl | hnested
    · exact ⟨fuel, Nat.lt_succ_self fuel, hreturned⟩
    · exact hfollows.succ.objects nested hnested
  opened := hfollows.succ.opened

theorem follows_of_returned (herrno : env.errno ≠ erange)
    (hmatched : Matched str) (front rest : Text) (state : ParseState)
    (hstr : str = front ++ rest) (hstrnum : state.strnum = front.length)
    (hregular : state.Regular)
    (hreturned : Returned (decode env fuel decoder str state)) :
    Follows env decoder str fuel (read (.between state.phase) rest) := by
  induction fuel generalizing front rest state with
  | zero =>
      obtain ⟨decoded, hdecoded, _⟩ := hreturned
      cases hdecoded
  | succ fuel ih =>
      subst hstr
      have hquits : ¬state.Quits env := fun hquits => herrno hquits.2
      have hahead := ahead_of_matched hmatched state.phase
      cases hahead with
      | finished => exact Follows.empty
      | @other c rest hquote hbrace =>
          rw [decode_advance (by simp [hstrnum])
            (round_other hstrnum hquote hbrace)] at hreturned
          rw [read_other hquote hbrace]
          exact (ih (front ++ [c]) rest
            { state with strnum := front.length + 1 } (by simp) (by simp)
            hregular hreturned).succ
      | @quoted text rest hquote =>
          have hround : round decoder env
              (front ++ '"' :: (text ++ '"' :: rest)) state = _ :=
            round_quoted hstrnum hquote
          rw [if_neg hquits] at hround
          rw [decode_advance (by simp [hstrnum]) hround] at hreturned
          rw [read_quoted hquote, ← phase_take env hregular]
          exact (ih (front ++ '"' :: (text ++ ['"'])) rest
            { state.take env text with
              strnum := front.length + text.length + 2 }
            (by simp) (by simp; omega) (regular_take hregular text)
            hreturned).succ
      | @unclosed text hquote =>
          have hround : round decoder env (front ++ '"' :: text) state = _ :=
            round_open hstrnum hquote
          rw [if_neg hquits] at hround
          rw [decode_advance (by simp [hstrnum]) hround] at hreturned
          rw [read_open hquote]
          refine ⟨fun _ hobject => absurd hobject List.not_mem_nil, ?_⟩
          rintro phase taken ⟨⟩
          exact ⟨fuel, Nat.lt_succ_self fuel,
            { state.takeOpen decoder env text with strnum := 0 }, rfl,
            regular_takeOpen hregular text, phase_takeOpen hregular text,
            hreturned⟩
      | @object object rest hphase hbrace hbalanced =>
          have hpos : 0 < object.length := by
            obtain ⟨tail, rfl⟩ := List.head?_eq_some_iff.mp hbrace
            exact Nat.succ_pos _
          obtain ⟨value, hvalue, hrange, hreturned⟩ := returned_object
            (by simp [hstrnum]; omega)
            (round_object hstrnum hphase hbrace hbalanced) hreturned
          rw [hphase, read_object hbrace hbalanced]
          apply Follows.object _ ⟨value, hvalue, hrange⟩
          cases rest with
          | nil => exact Follows.empty
          | cons c rest =>
              exact ih (front ++ (object ++ [c])) rest
                (behindObject state value _) (by simp)
                (by simp [behindObject]; omega) (regular_behindObject _ _)
                hreturned

theorem not_returned_of_cycle (herrno : env.errno ≠ erange)
    (hmatched : Matched str) {phases : Phase → Prop}
    (hcycle : ∀ phase, phases phase → ∃ next text,
      (read (.between phase) str).opened = some (next, text) ∧
        phases (next.reopened .parse text))
    (state : ParseState) (hstrnum : state.strnum = 0) (hregular : state.Regular)
    (hphase : phases state.phase) (fuel : ℕ) :
    ¬Returned (decode env fuel .parse str state) := by
  induction fuel using Nat.strong_induction_on generalizing state with
  | h fuel ih =>
      intro hreturned
      obtain ⟨phase, text, hopened, hnext⟩ := hcycle state.phase hphase
      have hfollows := follows_of_returned herrno hmatched [] str state rfl
        hstrnum hregular hreturned
      obtain ⟨less, hless, next, hstart, hkept, hreopened, hagain⟩ :=
        hfollows.opened phase text hopened
      exact ih less hless next hstart hkept (hreopened ▸ hnext) hagain

end Returns

/-! ## Cutting inside the string -/

section Inside

variable {env : WrapperEnv} {decoder : Decoder} {str : Text} {state : ParseState}

theorem decode_parseWantParams_ne_null (fuel : ℕ) :
    decode env fuel .parseWantParams str state ≠ some .null := by
  induction fuel generalizing state with
  | zero => nofun
  | succ fuel ih =>
      by_cases hlength : state.strnum < str.length
      · cases hround : round .parseWantParams env str state with
        | advance next =>
            rw [decode_advance hlength hround]
            exact ih
        | object text strnum =>
            rw [decode_object hlength hround]
            split
            · nofun
            · nofun
            · exact ih
        | quit =>
            rw [decode_quit hlength hround]
            nofun
        | outOfRange =>
            rw [decode, if_pos hlength, hround]
            nofun
      · rw [decode_end (not_lt.mp hlength)]
        nofun

theorem returned_parseWantParams {fuel : ℕ}
    (hreturned : Returned (parseWantParams env fuel str)) :
    ∃ params, parseWantParams env fuel str = some (.params params) := by
  obtain ⟨decoded, hdecoded, hrange⟩ := hreturned
  cases decoded with
  | params params => exact ⟨params, hdecoded⟩
  | outOfRange => exact absurd rfl hrange
  | null =>
      unfold parseWantParams at hdecoded
      split_ifs at hdecoded
      · exact absurd hdecoded (decode_parseWantParams_ne_null fuel)
      · cases hdecoded

end Inside

/-! ## The texts on which the decoders return -/

section Terminates

variable {env : WrapperEnv} {decoder : Decoder} {str : Text}

theorem Ends.of_refused (hrefused : validateStr str = false) :
    Ends (fun fuel => parse env fuel str) ∧
      Ends (fun fuel => parseWantParams env fuel str) := by
  constructor
  · refine ⟨0, .null, ?_, Decoded.noConfusion⟩
    simp [parse, hrefused]
  · refine ⟨0, .params [], ?_, Decoded.noConfusion⟩
    simp [parseWantParams, hrefused]

theorem Ends.of_decode (hvalid : validateStr str = true)
    (hends : ∀ decoder, Ends (fun fuel => decode env fuel decoder str {})) :
    Ends (fun fuel => parse env fuel str) ∧
      Ends (fun fuel => parseWantParams env fuel str) := by
  unfold parse parseWantParams
  rw [hvalid]
  exact ⟨hends .parse, hends .parseWantParams⟩

theorem terminates_of_readable (hreadable : Readable str) : Terminates str := by
  intro env
  induction hreadable with
  | refused hrefused => exact Ends.of_refused hrefused
  | @once str hclosed hobjects ih =>
      cases hvalid : validateStr str with
      | false => exact Ends.of_refused hvalid
      | true =>
          apply Ends.of_decode hvalid
          intro decoder
          apply ends_of_reading (matched_of_validateStr hvalid) [] str {} rfl rfl
            (fun _ => rfl) (fun _ object hobject => (ih object hobject).1)
          intro phase text hopened
          rw [show (ParseState.phase {}) = .key from rfl, hclosed] at hopened
          cases hopened
  | @again str text hopened hobjects hclosed hobjectsAgain ih ihAgain =>
      cases hvalid : validateStr str with
      | false => exact Ends.of_refused hvalid
      | true =>
          have hmatched := matched_of_validateStr hvalid
          apply Ends.of_decode hvalid
          intro decoder
          apply ends_of_reading hmatched [] str {} rfl rfl
            (fun _ => rfl) (fun _ object hobject => (ih object hobject).1)
          intro phase taken htaken next hstrnum hregular hphase
          rw [show (ParseState.phase {}) = .key from rfl, hopened] at htaken
          cases htaken
          have hbehind : next.phase = phaseOf (atoi text) := by
            rw [hphase]
            simp [Phase.reopened, Phase.behind]
          apply ends_of_reading hmatched [] str next rfl hstrnum hregular
          · rw [hbehind]
            exact fun _ object hobject => (ihAgain object hobject).1
          · intro phase taken htaken
            rw [hbehind, hclosed] at htaken
            cases htaken

theorem reopened_of_ne_type {phase : Phase} (hphase : phase ≠ .type)
    (text : Text) : phase.reopened .parse text = .key := by
  cases phase with
  | key => rfl
  | type => exact absurd rfl hphase
  | object => rfl
  | value => rfl

/-- When a reading that starts with a key leaves nothing but a type open, and
the reading behind this type leaves the same text open, `Parse` reads on for
good. -/
theorem not_returned_of_open_type (herrno : env.errno ≠ erange)
    (hmatched : Matched str) {text : Text} {last : Phase}
    (hopened : (read (.between .key) str).opened = some (.type, text))
    (hagain : (read (.between (phaseOf (atoi text))) str).opened =
      some (last, text)) (state : ParseState) (hstrnum : state.strnum = 0)
    (hregular : state.Regular)
    (hphase : state.phase = .key ∨ state.phase = phaseOf (atoi text))
    (fuel : ℕ) : ¬Returned (decode env fuel .parse str state) := by
  let phases : Phase → Prop := fun phase =>
    phase = .key ∨ phase = phaseOf (atoi text)
  have hcycle : ∀ phase, phases phase → ∃ next taken,
      (read (.between phase) str).opened = some (next, taken) ∧
        phases (next.reopened .parse taken) := by
    rintro phase (rfl | rfl)
    · exact ⟨.type, text, hopened, Or.inr rfl⟩
    · refine ⟨last, text, hagain, ?_⟩
      by_cases hlast : last = .type
      · subst hlast
        exact Or.inr rfl
      · exact Or.inl (reopened_of_ne_type hlast text)
  exact not_returned_of_cycle herrno hmatched hcycle state hstrnum hregular
    hphase fuel

theorem readable_of_returned (herrno : env.errno ≠ erange) {fuel : ℕ}
    (hreturned : Returned (parse env fuel str)) : Readable str := by
  induction fuel using Nat.strong_induction_on generalizing str with
  | h fuel ih =>
      cases hvalid : validateStr str with
      | false => exact .refused hvalid
      | true =>
          have hmatched := matched_of_validateStr hvalid
          rw [parse, if_pos hvalid] at hreturned
          have hfollows := follows_of_returned herrno hmatched [] str {} rfl rfl
            (fun _ => rfl) hreturned
          have hobjects : ∀ object ∈ (read (.between .key) str).objects,
              Readable object := by
            intro object hobject
            obtain ⟨less, hless, hparsed⟩ := hfollows.objects object hobject
            exact ih less hless hparsed
          cases hopened : (read (.between .key) str).opened with
          | none => exact .once hopened hobjects
          | some unclosed =>
              obtain ⟨phase, text⟩ := unclosed
              by_cases htype : phase = .type
              · subst htype
                obtain ⟨less, hless, next, hstrnum, hregular, hnext, hagain⟩ :=
                  hfollows.opened _ _ hopened
                have hbehind : next.phase = phaseOf (atoi text) := hnext
                have hsecond := follows_of_returned herrno hmatched [] str next
                  rfl hstrnum hregular hagain
                rw [hbehind] at hsecond
                cases hclosed :
                    (read (.between (phaseOf (atoi text))) str).opened with
                | none =>
                    refine .again hopened hobjects hclosed ?_
                    intro object hobject
                    obtain ⟨least, hleast, hparsed⟩ :=
                      hsecond.objects object hobject
                    exact ih least (hleast.trans hless) hparsed
                | some last =>
                    obtain ⟨last, other⟩ := last
                    cases opened_text_unique hopened hclosed
                    exact absurd hreturned
                      (not_returned_of_open_type herrno hmatched hopened hclosed
                        {} rfl (fun _ => rfl) (Or.inl rfl) fuel)
              · have hcycle : ∀ start, start = .key → ∃ next taken,
                    (read (.between start) str).opened = some (next, taken) ∧
                      next.reopened .parse taken = .key := by
                  rintro start rfl
                  exact ⟨phase, text, hopened, reopened_of_ne_type htype text⟩
                exact absurd hreturned (not_returned_of_cycle herrno hmatched
                  hcycle {} rfl (fun _ => rfl) rfl fuel)

/-- The decoders return exactly on the texts of which a reading closes every
quote. -/
theorem terminates_iff (str : Text) : Terminates str ↔ Readable str := by
  constructor
  · intro hterminates
    obtain ⟨fuel, hreturned⟩ := (hterminates ⟨⟨fun _ => [], fun _ _ => none,
      fun _ _ => false⟩, false, 0⟩).1
    exact readable_of_returned (by decide) hreturned
  · exact terminates_of_readable

/-! ### `ParseWantParams` alone -/

/-- The readings of `ParseWantParams`, each for what is wanted behind the open text
of the one before, come to one that closes every quote. -/
inductive Closing (str : Text) : Phase → Prop
  | closed {phase : Phase}
      (hclosed : (read (.between phase) str).opened = none) : Closing str phase
  | again {phase next : Phase} {text : Text}
      (hopened : (read (.between phase) str).opened = some (next, text))
      (hnext : Closing str (next.behind text)) : Closing str phase

theorem reopened_parseWantParams (phase : Phase) (text : Text) :
    phase.reopened .parseWantParams text = phase.behind text := by
  simp [Phase.reopened]

theorem ends_of_closing (env : WrapperEnv) (hmatched : Matched str) {phase : Phase}
    (hclosing : Closing str phase) (state : ParseState)
    (hstrnum : state.strnum = 0) (hregular : state.Regular)
    (hphase : state.phase = phase) :
    Ends (fun fuel => decode env fuel .parseWantParams str state) := by
  induction hclosing generalizing state with
  | closed hclosed =>
      subst hphase
      refine ends_of_reading hmatched [] str state rfl hstrnum hregular
        (fun hdecoder => nomatch hdecoder) ?_
      intro next text hopened
      rw [hclosed] at hopened
      cases hopened
  | again hopened _ ih =>
      subst hphase
      refine ends_of_reading hmatched [] str state rfl hstrnum hregular
        (fun hdecoder => nomatch hdecoder) ?_
      intro next text hnext again hstart hkept hagain
      rw [hopened] at hnext
      cases hnext
      exact ih again hstart hkept (by rw [hagain, reopened_parseWantParams])

theorem closing_of_returned (herrno : env.errno ≠ erange)
    (hmatched : Matched str) (fuel : ℕ) (state : ParseState)
    (hstrnum : state.strnum = 0) (hregular : state.Regular)
    (hreturned : Returned (decode env fuel .parseWantParams str state)) :
    Closing str state.phase := by
  induction fuel using Nat.strong_induction_on generalizing state with
  | h fuel ih =>
      have hfollows := follows_of_returned herrno hmatched [] str state rfl
        hstrnum hregular hreturned
      cases hopened : (read (.between state.phase) str).opened with
      | none => exact .closed hopened
      | some unclosed =>
          obtain ⟨next, text⟩ := unclosed
          obtain ⟨less, hless, again, hstart, hkept, hagain, hreturned⟩ :=
            hfollows.opened next text hopened
          have hclosing := ih less hless again hstart hkept hreturned
          rw [hagain, reopened_parseWantParams] at hclosing
          exact .again hopened hclosing

theorem parseWantParams_ends_iff (str : Text) :
    (∀ env, Ends (fun fuel => parseWantParams env fuel str)) ↔
      (validateStr str = true → Closing str .key) := by
  unfold parseWantParams
  cases hvalid : validateStr str with
  | false =>
      refine iff_of_true (fun env => ?_) nofun
      exact ⟨0, .params [], rfl, Decoded.noConfusion⟩
  | true =>
      have hmatched := matched_of_validateStr hvalid
      constructor
      · intro hends _
        obtain ⟨fuel, hreturned⟩ := hends ⟨⟨fun _ => [], fun _ _ => none,
          fun _ _ => false⟩, false, 0⟩
        exact closing_of_returned (by decide) hmatched fuel {} rfl
          (fun _ => rfl) hreturned
      · intro hclosing env
        exact ends_of_closing env hmatched (hclosing rfl) {} rfl (fun _ => rfl)
          rfl

def unclosedText : Text := "\"k\"\"101\"\x7b\x7d\"\"".toList

theorem not_terminates_unclosedText : ¬Terminates unclosedText := by
  intro hterminates
  obtain ⟨fuel, hreturned⟩ := (hterminates ⟨⟨fun _ => [], fun _ _ => none,
    fun _ _ => false⟩, false, 0⟩).1
  have hopened : (read (.between .key) unclosedText).opened =
      some (.key, []) := by decide
  cases readable_of_returned (by decide) hreturned with
  | refused hrefused => exact absurd hrefused (by decide)
  | once hclosed =>
      rw [hopened] at hclosed
      cases hclosed
  | again htype =>
      rw [hopened] at htype
      cases htype

end Terminates

end DistributedWantParamWrapper
end Dmsfwk
