import Dmsfwk.DistributedWantCopies
import Dmsfwk.WantParamsTermination

/-!
# Printed parameters

What `ToString` prints has its braces in pairs, so `Parse` finds the text of each
nested object and reads it by the same rules.  `ParseWantParams` passes the text
of a nested object on without its last brace, and `Parse` answers null.
-/

namespace Dmsfwk
namespace DistributedWantParamWrapper

open DistributedWantParams SortedEntries

variable {library : WrapperLibrary}

/-! ## Texts with paired braces -/

def NoBrace (text : Text) : Prop := '\x7b' ∉ text ∧ '\x7d' ∉ text

instance (text : Text) : Decidable (NoBrace text) := by
  unfold NoBrace
  infer_instance

inductive Bracketed : Text → Prop
  | plain {text : Text} (hplain : NoBrace text) : Bracketed text
  | append {front rest : Text} (hfront : Bracketed front)
      (hrest : Bracketed rest) : Bracketed (front ++ rest)
  | nested {text : Text} (htext : Bracketed text) :
      Bracketed ('\x7b' :: (text ++ ['\x7d']))

section Bracketed

variable {text : Text} {count : ℤ}

theorem braceWeight_of_ne {c : Char} (hopen : c ≠ '\x7b') (hclose : c ≠ '\x7d') :
    braceWeight c = 0 := by
  rw [braceWeight, if_neg hopen, if_neg hclose]

theorem neverNegative_plain (hplain : NoBrace text) (hcount : 0 ≤ count)
    (rest : Text) :
    neverNegative count (text ++ rest) = neverNegative count rest := by
  induction text with
  | nil => rfl
  | cons c text ih =>
      simp only [NoBrace, List.mem_cons, not_or] at hplain
      obtain ⟨⟨hopen, hopens⟩, hclose, hcloses⟩ := hplain
      rw [List.cons_append, neverNegative_cons,
        braceWeight_of_ne (Ne.symm hopen) (Ne.symm hclose), add_zero,
        if_neg (not_lt.mpr hcount), ih ⟨hopens, hcloses⟩]

theorem Bracketed.neverNegative_append (hbracketed : Bracketed text)
    (hcount : 0 ≤ count) (rest : Text) :
    neverNegative count (text ++ rest) = neverNegative count rest := by
  induction hbracketed generalizing count rest with
  | plain hplain => exact neverNegative_plain hplain hcount rest
  | append _ _ ihFront ihRest =>
      rw [List.append_assoc, ihFront hcount, ihRest hcount]
  | @nested text _ ih =>
      have hopen : braceWeight '\x7b' = 1 := rfl
      have hclose : braceWeight '\x7d' = -1 := rfl
      rw [List.cons_append, List.append_assoc, neverNegative_cons, hopen,
        if_neg (by omega), ih (by omega), List.singleton_append,
        neverNegative_cons, hclose, add_neg_cancel_right,
        if_neg (not_lt.mpr hcount)]

theorem balancedAt_plain (hplain : NoBrace text) (hcount : 0 < count)
    (rest : Text) :
    balancedAt count (text ++ rest) =
      (balancedAt count rest).map (· + text.length) := by
  induction text with
  | nil => simp
  | cons c text ih =>
      simp only [NoBrace, List.mem_cons, not_or] at hplain
      obtain ⟨⟨hopen, hopens⟩, hclose, hcloses⟩ := hplain
      rw [List.cons_append, balancedAt_cons,
        braceWeight_of_ne (Ne.symm hopen) (Ne.symm hclose), add_zero,
        if_neg (ne_of_gt hcount), ih ⟨hopens, hcloses⟩, Option.map_map]
      rfl

theorem Bracketed.balancedAt_append (hbracketed : Bracketed text)
    (hcount : 0 < count) (rest : Text) :
    balancedAt count (text ++ rest) =
      (balancedAt count rest).map (· + text.length) := by
  induction hbracketed generalizing count rest with
  | plain hplain => exact balancedAt_plain hplain hcount rest
  | append _ _ ihFront ihRest =>
      rw [List.append_assoc, ihFront hcount, ihRest hcount, Option.map_map]
      congr 1
      funext offset
      simp only [Function.comp_apply, List.length_append]
      omega
  | @nested text _ ih =>
      have hopen : braceWeight '\x7b' = 1 := rfl
      have hclose : braceWeight '\x7d' = -1 := rfl
      rw [List.cons_append, List.append_assoc, balancedAt_cons, hopen,
        if_neg (by omega), ih (by omega), List.singleton_append,
        balancedAt_cons, hclose, add_neg_cancel_right, if_neg (ne_of_gt hcount),
        Option.map_map, Option.map_map]
      congr 1
      funext offset
      simp only [Function.comp_apply, List.length_cons, List.length_append,
        List.length_nil]
      omega

theorem Bracketed.count_eq (hbracketed : Bracketed text) :
    text.count '\x7b' = text.count '\x7d' := by
  induction hbracketed with
  | plain hplain =>
      rw [List.count_eq_zero_of_not_mem hplain.1,
        List.count_eq_zero_of_not_mem hplain.2]
  | append _ _ ihFront ihRest =>
      rw [List.count_append, List.count_append, ihFront, ihRest]
  | nested _ ih => simp [ih]

theorem Bracketed.balancedAt_object (hbracketed : Bracketed text) (rest : Text) :
    balancedAt 0 ('\x7b' :: (text ++ ['\x7d']) ++ rest) =
      some (('\x7b' :: (text ++ ['\x7d'])).length - 1) := by
  have hopen : 0 + braceWeight '\x7b' = 1 := rfl
  have hclose : 1 + braceWeight '\x7d' = 0 := rfl
  rw [List.cons_append, List.append_assoc, balancedAt_cons, hopen,
    if_neg one_ne_zero, hbracketed.balancedAt_append one_pos,
    List.singleton_append, balancedAt_cons, hclose, if_pos rfl]
  simp

end Bracketed

/-! ## The printed entries -/

def entryText (library : WrapperLibrary) (key : Text) (value : Interface) : Text :=
  '"' :: (key ++ '"' :: ':' :: '\x7b' :: '"' :: (dataTypeText value ++
    '"' :: ':' :: (valueText library value ++ ['\x7d'])))

theorem entriesText_cons (key : Text) (value : Interface) (params : ParamMap) :
    entriesText library ((key, value) :: params) =
      entryText library key value ++
        (if params.isEmpty then [] else [',']) ++ entriesText library params := by
  have hcomma : (if params.isEmpty then "\x7d".toList else "\x7d,".toList) =
      '\x7d' :: if params.isEmpty then [] else [','] := by
    split_ifs <;> rfl
  rw [entriesText, hcomma, entryText]
  simp

theorem toString_eq (params : ParamMap) :
    toString library params =
      '\x7b' :: (entriesText library params ++ ['\x7d']) := by
  unfold toString
  cases params with
  | nil =>
      rw [entriesText]
      rfl
  | cons entry params =>
      rw [if_pos (by simp)]
      rfl

theorem toString_nil : toString library [] = "\x7b\x7d".toList := by
  rw [toString_eq, entriesText]
  rfl

theorem valueText_wrapper (object : Wrapper) :
    valueText library (.wrapper object) =
      '"' :: (library.toString object ++ ['"']) := by
  rw [valueText]
  · simp [getStringByType]
  · exact fun _ => Interface.noConfusion

theorem valueText_wantParams (params : ParamMap) :
    valueText library (.wantParams params) = toString library params := by
  rw [valueText]

/-! ## Parameters that are printed without loss -/

def NoMark (text : Text) : Prop := '"' ∉ text ∧ NoBrace text

instance (text : Text) : Decidable (NoMark text) := by
  unfold NoMark
  infer_instance

/-- An object of a class for one value, from whose text the class makes it again,
or parameters with such keys as the text can carry.  The text of an array has
braces. -/
def TextNode (library : WrapperLibrary) : Interface → Prop
  | .wrapper (.array _) => False
  | .wrapper object =>
      library.parse (wrapperDataType object) (library.toString object) =
        some object ∧ NoMark (library.toString object)
  | .wantParams params => ∀ entry ∈ params, entry.1 ≠ [] ∧ NoMark entry.1
  | .null => False
  | .remoteObject _ => False

instance : DecidablePred (TextNode library)
  | .wrapper (.array _) | .null | .remoteObject _ => .isFalse id
  | .wrapper object => by
      cases object <;> unfold TextNode <;> infer_instance
  | .wantParams params =>
      inferInstanceAs
        (Decidable (∀ entry ∈ params, entry.1 ≠ [] ∧ NoMark entry.1))

theorem NoMark.of_mem_ofInt {text : Text}
    (hmem : ∀ c ∈ text, c = '-' ∨ c.isDigit = true) : NoMark text := by
  have hnot : ∀ c : Char, c ≠ '-' → c.isDigit = false → c ∉ text := by
    intro c hminus hdigit hc
    rcases hmem c hc with heq | heq
    · exact hminus heq
    · rw [hdigit] at heq
      cases heq
  exact ⟨hnot _ (by decide) (by decide), hnot _ (by decide) (by decide),
    hnot _ (by decide) (by decide)⟩

theorem noMark_dataTypeText (value : Interface) : NoMark (dataTypeText value) :=
  NoMark.of_mem_ofInt fun _ hc => DecimalText.mem_ofInt hc

theorem atoi_dataTypeText (value : Interface) :
    atoi (dataTypeText value) = getDataType value := by
  rw [atoi, dataTypeText, DecimalText.toInt_ofInt, Int32.ofInt_toInt]

theorem TextNode.wrapper {object : Wrapper}
    (hnode : TextNode library (.wrapper object)) :
    library.parse (wrapperDataType object) (library.toString object) =
      some object ∧ NoMark (library.toString object) := by
  cases object with
  | array array => exact hnode.elim
  | _ => exact hnode

structure Printed (text : Text) : Prop where
  bracketed : Bracketed text
  quotes : text.count '"' % 2 = 0

theorem NoMark.count {text : Text} (hmark : NoMark text) :
    text.count '"' = 0 := List.count_eq_zero_of_not_mem hmark.1

theorem Bracketed.cons {c : Char} {text : Text} (hopen : c ≠ '\x7b')
    (hclose : c ≠ '\x7d') (htext : Bracketed text) : Bracketed (c :: text) := by
  have hsingle : Bracketed [c] := .plain
    ⟨fun hmem => hopen (List.mem_singleton.mp hmem).symm,
      fun hmem => hclose (List.mem_singleton.mp hmem).symm⟩
  exact hsingle.append htext

theorem printed_entryText {key : Text} {value : Interface} (hkey : NoMark key)
    (hvalue : Printed (valueText library value)) :
    Printed (entryText library key value) := by
  have htype := noMark_dataTypeText value
  have hbehind : Bracketed ('"' :: (dataTypeText value ++
      '"' :: ':' :: valueText library value)) :=
    .cons (by decide) (by decide) (.append (.plain htype.2)
      (.cons (by decide) (by decide)
        (.cons (by decide) (by decide) hvalue.bracketed)))
  constructor
  · have hentry : entryText library key value =
        '"' :: (key ++ '"' :: ':' :: '\x7b' :: ('"' :: (dataTypeText value ++
          '"' :: ':' :: valueText library value) ++ ['\x7d'])) := by
      simp [entryText]
    rw [hentry]
    exact .cons (by decide) (by decide) (.append (.plain hkey.2)
      (.cons (by decide) (by decide) (.cons (by decide) (by decide)
        (.nested hbehind))))
  · have hquotes := hvalue.quotes
    simp only [entryText, List.count_append, List.count_cons, hkey.count,
      htype.count, List.count_nil]
    simp
    omega

theorem printed_entriesText {params : ParamMap}
    (hentries : ∀ entry ∈ params,
      NoMark entry.1 ∧ Printed (valueText library entry.2)) :
    Printed (entriesText library params) := by
  induction params with
  | nil =>
      rw [entriesText]
      exact ⟨.plain (by decide), rfl⟩
  | cons entry params ih =>
      obtain ⟨key, value⟩ := entry
      obtain ⟨⟨hkey, hvalue⟩, hrest⟩ := List.forall_mem_cons.mp hentries
      have hentry : Printed (entryText library key value) :=
        printed_entryText hkey hvalue
      have hparams := ih hrest
      have hcomma : Printed (if params.isEmpty then [] else [',']) := by
        split_ifs
        · exact ⟨.plain (by decide), rfl⟩
        · exact ⟨.plain (by decide), rfl⟩
      rw [entriesText_cons]
      refine ⟨(hentry.bracketed.append hcomma.bracketed).append
        hparams.bracketed, ?_⟩
      rw [List.count_append, List.count_append]
      have hfirst := hentry.quotes
      have hsecond := hcomma.quotes
      have hthird := hparams.quotes
      omega

theorem printed_valueText {value : Interface}
    (hvalue : value.Every (TextNode library)) :
    Printed (valueText library value) := by
  induction value with
  | null => exact hvalue.elim
  | wrapper object =>
      obtain ⟨_, htext⟩ := TextNode.wrapper hvalue
      rw [valueText_wrapper]
      refine ⟨.cons (by decide) (by decide)
        (.append (.plain htext.2) (.plain (by decide))), ?_⟩
      simp [htext.count]
  | remoteObject handle => exact hvalue.elim
  | wantParams params ih =>
      obtain ⟨hkeys, hentries⟩ := Interface.every_wantParams.mp hvalue
      have hprinted : Printed (entriesText library params) :=
        printed_entriesText fun entry hentry =>
          ⟨(hkeys entry hentry).2, ih entry hentry (hentries entry hentry)⟩
      rw [valueText_wantParams, toString_eq]
      refine ⟨.nested hprinted.bracketed, ?_⟩
      simpa using hprinted.quotes

theorem printed_entries {params : ParamMap}
    (hparams : (Interface.wantParams params).Every (TextNode library)) :
    Printed (entriesText library params) := by
  obtain ⟨hkeys, hentries⟩ := Interface.every_wantParams.mp hparams
  exact printed_entriesText fun entry hentry =>
    ⟨(hkeys entry hentry).2, printed_valueText (hentries entry hentry)⟩

theorem validateStr_toString {params : ParamMap}
    (hparams : (Interface.wantParams params).Every (TextNode library))
    (hentries : params ≠ []) : validateStr (toString library params) = true := by
  have hprinted := printed_entries hparams
  obtain ⟨entry, rest, rfl⟩ := List.exists_cons_of_ne_nil hentries
  obtain ⟨key, value⟩ := entry
  obtain ⟨hkey, hmark⟩ := (Interface.every_wantParams.mp hparams).1 _
    List.mem_cons_self
  obtain ⟨c, key, rfl⟩ := List.exists_cons_of_ne_nil hkey
  have hc : c ≠ '"' := by
    rintro rfl
    exact hmark.1 List.mem_cons_self
  have hshort : ¬(toString library ((c :: key, value) :: rest) = [] ∨
      toString library ((c :: key, value) :: rest) = "\x7b\x7d".toList ∨
      toString library ((c :: key, value) :: rest) =
        "\x7b\"\"\x7d".toList) := by
    rw [toString_eq, entriesText_cons, entryText]
    simp [hc]
  rw [toString_eq] at hshort ⊢
  have hquotes : ('\x7b' :: (entriesText library ((c :: key, value) :: rest) ++
      ['\x7d'])).count '"' % 2 = 0 := by
    simpa using hprinted.quotes
  have hnested := Bracketed.nested hprinted.bracketed
  have hnever := hnested.neverNegative_append le_rfl []
  rw [List.append_nil] at hnever
  rw [validateStr, if_neg hshort, if_neg (not_not.mpr hquotes),
    if_neg (not_not.mpr hnested.count_eq), hnever]
  rfl

/-! ## Runs over printed texts -/

def ParseState.at (state : ParseState) (strnum : ℕ) : ParseState :=
  { state with strnum := strnum }

def Yields (env : WrapperEnv) (decoder : Decoder) (front rest : Text)
    (state : ParseState) (decoded : Decoded) : Prop :=
  ∃ fuel, decode env fuel decoder (front ++ rest) (state.at front.length) =
    some decoded

section Yields

variable {env : WrapperEnv} {decoder : Decoder} {front rest text : Text}
  {state : ParseState} {decoded : Decoded}

theorem take_at (state : ParseState) (env : WrapperEnv) (text : Text)
    (strnum before : ℕ) :
    ((state.at before).take env text).at strnum =
      (state.take env text).at strnum := by
  unfold ParseState.take
  split_ifs <;> first | rfl | contradiction

theorem round_quoted_at (env : WrapperEnv) (decoder : Decoder)
    (front rest : Text) (state : ParseState) (hquote : '"' ∉ text) :
    round decoder env (front ++ '"' :: (text ++ '"' :: rest))
        (state.at front.length) =
      if state.Quits env then .quit
      else .advance ((state.take env text).at
        (front ++ '"' :: (text ++ ['"'])).length) := by
  have hlength : (front ++ '"' :: (text ++ ['"'])).length =
      front.length + text.length + 2 := by
    simp
    omega
  rw [hlength, ← take_at state env text _ front.length]
  exact round_quoted rfl hquote

theorem Yields.at_end :
    Yields env decoder front [] state
      (finish decoder env state.wantParams) :=
  ⟨1, decode_end (by simp [ParseState.at])⟩

theorem Yields.other {c : Char} (hquote : c ≠ '"')
    (hbrace : c = '\x7b' → state.phase ≠ .object)
    (hyields : Yields env decoder (front ++ [c]) rest state decoded) :
    Yields env decoder front (c :: rest) state decoded := by
  obtain ⟨fuel, hfuel⟩ := hyields
  refine ⟨fuel + 1, ?_⟩
  have hround : round decoder env (front ++ c :: rest) (state.at front.length) =
      .advance (state.at (front.length + 1)) := round_other rfl hquote hbrace
  rw [decode_advance (by simp [ParseState.at]) hround]
  simpa using hfuel

theorem Yields.quoted (hquote : '"' ∉ text) (hquits : ¬state.Quits env)
    (hyields : Yields env decoder (front ++ '"' :: (text ++ ['"'])) rest
      (state.take env text) decoded) :
    Yields env decoder front ('"' :: (text ++ '"' :: rest)) state decoded := by
  obtain ⟨fuel, hfuel⟩ := hyields
  refine ⟨fuel + 1, ?_⟩
  have hround := round_quoted_at env decoder front rest state hquote
  rw [if_neg hquits] at hround
  rw [decode_advance (by simp [ParseState.at]) hround]
  simpa using hfuel

theorem Yields.quit (hquote : '"' ∉ text) (hquits : state.Quits env) :
    Yields env decoder front ('"' :: (text ++ '"' :: rest)) state
      (quit decoder state.wantParams) := by
  have hround := round_quoted_at env decoder front rest state hquote
  rw [if_pos hquits] at hround
  exact ⟨1, decode_quit (by simp [ParseState.at]) hround⟩

theorem Yields.object {object : Text} {c : Char} {fuel : ℕ} {value : Decoded}
    (hphase : state.phase = .object) (hbrace : object.head? = some '\x7b')
    (hbalanced : balancedAt 0 (object ++ c :: rest) = some (object.length - 1))
    (hparse : parse env fuel (objectText decoder object) = some value)
    (hrange : value ≠ .outOfRange)
    (hyields : Yields env decoder (front ++ (object ++ [c])) rest
      (behindObject state value 0) decoded) :
    Yields env decoder front (object ++ c :: rest) state decoded := by
  obtain ⟨more, hmore⟩ := hyields
  refine ⟨max fuel more + 1, ?_⟩
  have hround : round decoder env (front ++ (object ++ c :: rest))
      (state.at front.length) = .object (objectText decoder object)
        (front.length + object.length + 1) :=
    round_object rfl hphase hbrace hbalanced
  have hlength : (front ++ (object ++ [c])).length =
      front.length + object.length + 1 := by
    simp
    omega
  rw [hlength, List.append_assoc, List.append_assoc, List.singleton_append]
    at hmore
  rw [decode_object_of_parse (by simp [ParseState.at]) hround
    (parse_mono (le_max_left fuel more) hparse) hrange]
  exact decode_mono (le_max_right fuel more) hmore

theorem Yields.unique {other : Decoded} {fuel : ℕ}
    (hyields : Yields env decoder front rest state decoded)
    (hdecoded : decode env fuel decoder (front ++ rest)
      (state.at front.length) = some other) : decoded = other := by
  obtain ⟨more, hmore⟩ := hyields
  have hfirst := decode_mono (le_max_left fuel more) hdecoded
  have hsecond := decode_mono (le_max_right fuel more) hmore
  exact Option.some.inj (hsecond.symm.trans hfirst)

end Yields

/-! ## Reading the entries -/

inductive Reads (env : WrapperEnv) (decoder : Decoder) :
    Interface → Interface → Prop
  | wrapper {object : Wrapper}
      (hnode : TextNode env.library (.wrapper object)) :
      Reads env decoder (.wrapper object) (.wrapper object)
  | wantParams {params : ParamMap} {fuel : ℕ} {decoded : Decoded}
      (hbracketed : Bracketed (entriesText env.library params))
      (hparse : parse env fuel
        (objectText decoder (toString env.library params)) = some decoded)
      (hrange : decoded ≠ .outOfRange) :
      Reads env decoder (.wantParams params) (boxed decoded)

section Entries

variable {env : WrapperEnv} {decoder : Decoder} {front rest key : Text}
  {value result : Interface} {wantParams : ParamMap} {decoded : Decoded}

theorem getDataType_ne_zero (value : Interface) : getDataType value ≠ 0 := by
  have htypes : ∀ type ∈ [1, 2, 3, 4, 5, 6, 7, 8, 9, valueTypeArray,
      valueTypeWantParams, valueTypeNull], type ≠ (0 : Int32) := by
    simp [valueTypeArray, valueTypeWantParams, valueTypeNull]
  apply htypes
  cases value with
  | wrapper object => cases object <;> simp [getDataType, wrapperDataType]
  | _ => simp [getDataType]

theorem Yields.quotedKey (hkey : key ≠ []) (hmark : NoMark key)
    (hyields : Yields env decoder (front ++ '"' :: (key ++ ['"', ':', '\x7b']))
      rest { key := key, wantParams := wantParams } decoded) :
    Yields env decoder front ('"' :: (key ++ '"' :: ':' :: '\x7b' :: rest))
      { wantParams := wantParams } decoded := by
  apply Yields.quoted hmark.1 (fun hquits => Phase.noConfusion hquits.1)
  have htaken : ({ wantParams := wantParams } : ParseState).take env key =
      { key := key, wantParams := wantParams } := rfl
  rw [htaken]
  apply Yields.other (by decide) (fun hc => absurd hc (by decide))
  apply Yields.other (by decide)
  · rw [ParseState.phase_eq_type.mpr ⟨hkey, rfl⟩]
    exact fun _ => Phase.noConfusion
  simpa using hyields

theorem Yields.header (herrno : env.errno ≠ erange) (hkey : key ≠ [])
    (hmark : NoMark key)
    (hyields : Yields env decoder
      (front ++ ('"' :: (key ++ '"' :: ':' :: '\x7b' :: '"' ::
        (dataTypeText value ++ ['"', ':']))))
      rest { key := key, typeId := getDataType value, wantParams := wantParams }
      decoded) :
    Yields env decoder front
      ('"' :: (key ++ '"' :: ':' :: '\x7b' :: '"' :: (dataTypeText value ++
        '"' :: ':' :: rest)))
      { wantParams := wantParams } decoded := by
  apply Yields.quotedKey hkey hmark
  apply Yields.quoted (noMark_dataTypeText value).1
    (fun hquits => herrno hquits.2)
  have htyped : ({ key := key, wantParams := wantParams } : ParseState).take env
      (dataTypeText value) =
        { key := key, typeId := getDataType value, wantParams := wantParams } := by
    rw [ParseState.take, if_neg hkey, if_pos rfl, atoi_dataTypeText]
  rw [htyped]
  apply Yields.other (by decide) (fun hc => absurd hc (by decide))
  simpa using hyields

theorem getInterfaceByType_wrapper {object : Wrapper}
    (hparse : env.library.parse (wrapperDataType object)
      (env.library.toString object) = some object) :
    getInterfaceByType env.library (wrapperDataType object)
      (env.library.toString object) = .wrapper object := by
  have hcontains : parsedTypes.contains (wrapperDataType object) = true := by
    cases object <;> rfl
  rw [getInterfaceByType, if_pos hcontains, hparse]

theorem Yields.entry (herrno : env.errno ≠ erange) (hkey : key ≠ [])
    (hmark : NoMark key) (hreads : Reads env decoder value result)
    (hyields : Yields env decoder (front ++ entryText env.library key value) rest
      { wantParams := insert key result wantParams } decoded) :
    Yields env decoder front (entryText env.library key value ++ rest)
      { wantParams := wantParams } decoded := by
  have htext : entryText env.library key value ++ rest =
      '"' :: (key ++ '"' :: ':' :: '\x7b' :: '"' :: (dataTypeText value ++
        '"' :: ':' :: (valueText env.library value ++ '\x7d' :: rest))) := by
    simp [entryText]
  rw [htext]
  apply Yields.header herrno hkey hmark
  cases hreads with
  | @wrapper object hnode =>
      obtain ⟨hparse, hobject⟩ := hnode.wrapper
      have hphase : ¬({ key := key
                        typeId := getDataType (.wrapper object)
                        wantParams := wantParams } : ParseState).Quits env :=
        fun hquits => herrno hquits.2
      rw [valueText_wrapper, List.cons_append, List.append_assoc,
        List.singleton_append]
      apply Yields.quoted hobject.1 hphase
      have htaken : ({ key := key
                       typeId := getDataType (.wrapper object)
                       wantParams := wantParams } : ParseState).take env
          (env.library.toString object) =
            { wantParams := insert key (.wrapper object) wantParams } := by
        rw [ParseState.take, if_neg hkey, if_neg (getDataType_ne_zero _)]
        simp only [getDataType, getInterfaceByType_wrapper hparse]
      rw [htaken]
      apply Yields.other (by decide) (fun hc => absurd hc (by decide))
      simpa [entryText, valueText_wrapper] using hyields
  | @wantParams params fuel decoded' hbracketed hparse hrange =>
      rw [valueText_wantParams]
      have hbalanced := hbracketed.balancedAt_object ('\x7d' :: rest)
      rw [← toString_eq] at hbalanced
      have hbrace : (toString env.library params).head? = some '\x7b' := by
        rw [toString_eq]
        rfl
      apply Yields.object (ParseState.phase_eq_object.mpr ⟨hkey, rfl⟩) hbrace
        hbalanced hparse hrange
      simpa [entryText, valueText_wantParams, behindObject] using hyields

theorem Yields.entries (herrno : env.errno ≠ erange) {params : ParamMap}
    (hkeys : ∀ entry ∈ params, entry.1 ≠ [] ∧ NoMark entry.1)
    {result : Interface → Interface}
    (hreads : ∀ entry ∈ params, Reads env decoder entry.2 (result entry.2)) :
    Yields env decoder front (entriesText env.library params ++ ['\x7d'])
      { wantParams := wantParams }
      (finish decoder env (params.foldl (fun wantParams entry =>
        insert entry.1 (result entry.2) wantParams) wantParams)) := by
  induction params generalizing front wantParams with
  | nil =>
      rw [entriesText]
      exact Yields.other (by decide) (fun hc => absurd hc (by decide))
        Yields.at_end
  | cons entry params ih =>
      obtain ⟨key, value⟩ := entry
      obtain ⟨⟨hkey, hmark⟩, hkeys⟩ := List.forall_mem_cons.mp hkeys
      obtain ⟨hfirst, hreads⟩ := List.forall_mem_cons.mp hreads
      rw [entriesText_cons, List.append_assoc, List.append_assoc]
      apply Yields.entry herrno hkey hmark hfirst
      rw [List.foldl_cons]
      split_ifs with hlast
      · exact ih hkeys hreads
      · exact Yields.other (by decide) (fun hc => absurd hc (by decide))
          (ih hkeys hreads)

theorem decode_toString (herrno : env.errno ≠ erange) {params : ParamMap}
    (hsorted : Sorted params)
    (hkeys : ∀ entry ∈ params, entry.1 ≠ [] ∧ NoMark entry.1)
    {result : Interface → Interface}
    (hreads : ∀ entry ∈ params, Reads env decoder entry.2 (result entry.2)) :
    Yields env decoder [] (toString env.library params) {}
      (finish decoder env
        (params.map fun entry => (entry.1, result entry.2))) := by
  have hmap : Sorted ([] ++ params.map fun entry => (entry.1, result entry.2)) := by
    rw [List.nil_append, Sorted, List.pairwise_map]
    exact hsorted
  have hfold := foldl_insert hmap
  rw [List.foldl_map, List.nil_append] at hfold
  rw [toString_eq, ← hfold]
  exact Yields.other (by decide) (fun _ => Phase.noConfusion)
    (Yields.entries herrno hkeys hreads)

end Entries

/-! ## Round trips -/

structure RoundTrips (env : WrapperEnv) (params : ParamMap) : Prop where
  parseWantParams : ∃ fuel,
    parseWantParams env fuel (toString env.library params) =
      some (.params params)
  parse : params ≠ [] → ∃ fuel,
    parse env fuel (toString env.library params) = some (.params params)

/-- What `ParseWantParams` makes of a value. -/
def withoutNested : Interface → Interface
  | .wantParams _ => .null
  | value => value

/-- Nested parameters that `ValidateStr` lets pass. -/
def NotEmpty : Interface → Prop
  | .wantParams params => params ≠ []
  | _ => True

section RoundTrips

variable {env : WrapperEnv} {params : ParamMap}

theorem reads_parseWantParams {value : Interface}
    (hvalue : value.Every (TextNode env.library)) :
    Reads env .parseWantParams value (withoutNested value) := by
  cases value with
  | null => exact hvalue.elim
  | wrapper object => exact .wrapper hvalue
  | remoteObject handle => exact hvalue.elim
  | wantParams params =>
      have hbracketed := (printed_entries hvalue).bracketed
      have hbalanced := hbracketed.balancedAt_object []
      have hrefused := validateStr_dropLast rfl hbalanced
      have hparse : parse env 0 (objectText .parseWantParams
          (toString env.library params)) = some .null := by
        rw [parse, objectText, toString_eq, hrefused]
        rfl
      exact .wantParams hbracketed hparse Decoded.noConfusion

theorem decode_parseWantParams (herrno : env.errno ≠ erange)
    (hordered : (Interface.wantParams params).Every Interface.Ordered)
    (hdomain : (Interface.wantParams params).Every (TextNode env.library)) :
    Yields env .parseWantParams [] (toString env.library params) {}
      (.params (params.map fun entry => (entry.1, withoutNested entry.2))) := by
  obtain ⟨hkeys, hentries⟩ := Interface.every_wantParams.mp hdomain
  exact decode_toString herrno (Interface.every_wantParams.mp hordered).1 hkeys
    fun entry hentry => reads_parseWantParams (hentries entry hentry)

theorem TextNode.kept {charSigned : Bool} {value : Interface}
    (hnode : TextNode env.library value) : KeptNode charSigned value := by
  cases value with
  | null => exact hnode.elim
  | wrapper object =>
      cases object with
      | array array => exact hnode.elim
      | _ => trivial
  | _ => trivial

theorem newParams_eq_self
    (hordered : (Interface.wantParams params).Every Interface.Ordered)
    (hdomain : (Interface.wantParams params).Every (TextNode env.library)) :
    newParams env.charSigned params [] = params := by
  rw [newParams_eq_self_iff_kept ⟨params, [], hordered⟩]
  intro entry hentry
  exact ((Interface.every_wantParams.mp hdomain).2 entry hentry).imp
    fun _ => TextNode.kept

theorem parse_toString (herrno : env.errno ≠ erange)
    (hordered : (Interface.wantParams params).Every Interface.Ordered)
    (hdomain : (Interface.wantParams params).Every (TextNode env.library))
    (hnotEmpty : (Interface.wantParams params).Every NotEmpty) :
    ∃ fuel, parse env fuel (toString env.library params) =
      some (.params params) := by
  generalize hvalue : Interface.wantParams params = value at *
  induction value generalizing params with
  | wantParams entries ih =>
      obtain rfl : params = entries := Interface.wantParams.inj hvalue
      obtain ⟨hsorted, hentriesOrdered⟩ := Interface.every_wantParams.mp hordered
      obtain ⟨hkeys, hentries⟩ := Interface.every_wantParams.mp hdomain
      obtain ⟨hsome, hentriesNotEmpty⟩ := Interface.every_wantParams.mp hnotEmpty
      have hreads : ∀ entry ∈ params, Reads env .parse entry.2 (id entry.2) := by
        rintro ⟨key, value⟩ hentry
        have hnode := hentries _ hentry
        cases value with
        | null => exact hnode.elim
        | wrapper object => exact .wrapper hnode
        | remoteObject handle => exact hnode.elim
        | wantParams nested =>
            obtain ⟨fuel, hfuel⟩ := ih _ hentry rfl (hentriesOrdered _ hentry)
              hnode (hentriesNotEmpty _ hentry)
            have hnested : Reads env .parse (.wantParams nested)
                (boxed (.params nested)) :=
              .wantParams (printed_entries hnode).bracketed hfuel
                Decoded.noConfusion
            exact hnested
      obtain ⟨fuel, hfuel⟩ := decode_toString herrno hsorted hkeys hreads
      refine ⟨fuel, ?_⟩
      have hsame : params.map (fun entry => (entry.1, id entry.2)) = params :=
        List.map_id' params
      rw [hsame, finish, newParams_eq_self hordered hdomain] at hfuel
      rw [parse, validateStr_toString hdomain hsome]
      exact hfuel
  | _ => cases hvalue

theorem decode_erange (herrno : env.errno = erange)
    (hdomain : (Interface.wantParams params).Every (TextNode env.library))
    (hsome : params ≠ []) :
    Yields env .parseWantParams [] (toString env.library params) {}
      (.params []) := by
  obtain ⟨⟨key, value⟩, params, rfl⟩ := List.exists_cons_of_ne_nil hsome
  obtain ⟨hkey, hmark⟩ := (Interface.every_wantParams.mp hdomain).1 _
    List.mem_cons_self
  rw [toString_eq, entriesText_cons, entryText]
  simp only [List.cons_append, List.append_assoc]
  apply Yields.other (by decide) (fun _ => Phase.noConfusion)
  apply Yields.quotedKey hkey hmark
  exact Yields.quit (noMark_dataTypeText value).1
    ⟨ParseState.phase_eq_type.mpr ⟨hkey, rfl⟩, herrno⟩

theorem map_withoutNested_eq_self_iff :
    params.map (fun entry => (entry.1, withoutNested entry.2)) = params ↔
      ∀ entry ∈ params, ∀ nested, entry.2 ≠ .wantParams nested := by
  have hmap : params.map (fun entry => (entry.1, withoutNested entry.2)) =
      params.map id ↔ ∀ entry ∈ params,
        (entry.1, withoutNested entry.2) = id entry := List.map_inj_left
  rw [List.map_id] at hmap
  rw [hmap]
  refine forall₂_congr fun entry _ => ?_
  obtain ⟨key, value⟩ := entry
  cases value <;> simp [withoutNested]

theorem Yields.eq_of_parseWantParams {decoded other : Decoded} {fuel : ℕ}
    (hyields : Yields env .parseWantParams [] (toString env.library params) {}
      decoded)
    (hdomain : (Interface.wantParams params).Every (TextNode env.library))
    (hsome : params ≠ [])
    (hother : parseWantParams env fuel (toString env.library params) =
      some other) : decoded = other := by
  rw [parseWantParams, validateStr_toString hdomain hsome] at hother
  exact hyields.unique hother

theorem parseWantParams_toString_nil (env : WrapperEnv) (fuel : ℕ) :
    parseWantParams env fuel (toString env.library []) = some (.params []) := by
  rw [toString_nil]
  rfl

theorem parseWantParams_toString_of_flat (herrno : env.errno ≠ erange)
    (hordered : (Interface.wantParams params).Every Interface.Ordered)
    (hdomain : (Interface.wantParams params).Every (TextNode env.library))
    (hflat : ∀ entry ∈ params, ∀ nested, entry.2 ≠ .wantParams nested) :
    ∃ fuel, parseWantParams env fuel (toString env.library params) =
      some (.params params) := by
  by_cases hsome : params = []
  · subst hsome
    exact ⟨0, parseWantParams_toString_nil env 0⟩
  obtain ⟨fuel, hfuel⟩ := decode_parseWantParams herrno hordered hdomain
  rw [map_withoutNested_eq_self_iff.mpr hflat] at hfuel
  refine ⟨fuel, ?_⟩
  rw [parseWantParams, validateStr_toString hdomain hsome]
  exact hfuel

theorem every_notEmpty_of_flat (hsome : params ≠ [])
    (hflat : ∀ entry ∈ params, ∀ nested, entry.2 ≠ .wantParams nested) :
    (Interface.wantParams params).Every NotEmpty := by
  refine Interface.every_wantParams.mpr ⟨hsome, ?_⟩
  rintro ⟨key, value⟩ hentry
  cases value with
  | wantParams nested => exact absurd rfl (hflat _ hentry nested)
  | _ => trivial

/-- The text is read back by both decoders when there is nothing in it, and
otherwise when no call left a number out of range in `errno` and no parameters
are nested. -/
theorem roundTrips_iff (env : WrapperEnv) (source : DistributedWantParams)
    (hdomain : (Interface.wantParams source.params).Every
      (TextNode env.library)) :
    RoundTrips env source.params ↔
      source.params = [] ∨ (env.errno ≠ erange ∧
        ∀ entry ∈ source.params, ∀ nested, entry.2 ≠ .wantParams nested) := by
  by_cases hsome : source.params = []
  · rw [hsome]
    refine iff_of_true ?_ (.inl rfl)
    exact ⟨⟨0, parseWantParams_toString_nil env 0⟩, fun hnot => absurd rfl hnot⟩
  rw [or_iff_right hsome]
  constructor
  · intro hround
    obtain ⟨fuel, hfuel⟩ := hround.parseWantParams
    by_cases herrno : env.errno = erange
    · have hempty := (decode_erange herrno hdomain hsome).eq_of_parseWantParams
        hdomain hsome hfuel
      exact absurd (Decoded.params.inj hempty).symm hsome
    · have hsame := (decode_parseWantParams herrno source.ordered
        hdomain).eq_of_parseWantParams hdomain hsome hfuel
      exact ⟨herrno, map_withoutNested_eq_self_iff.mp
        (Decoded.params.inj hsame)⟩
  · rintro ⟨herrno, hflat⟩
    exact ⟨parseWantParams_toString_of_flat herrno source.ordered hdomain hflat,
      fun _ => parse_toString herrno source.ordered hdomain
        (every_notEmpty_of_flat hsome hflat)⟩

end RoundTrips

/-! ## Parameters in parameters -/

def plainLibrary : WrapperLibrary where
  toString
    | .integer value => DecimalText.ofInt value.toInt
    | .string value => value
    | _ => []
  parse typeId text :=
    if typeId = 5 then some (.integer (atoi text))
    else if typeId = 9 then some (.string text)
    else none
  equals object other := object = other

def plainEnv : WrapperEnv where
  library := plainLibrary

def nestedSource : DistributedWantParams where
  params := [(['k'], .wantParams [(['i'], .wrapper (.integer 1))])]

theorem domain_nestedSource :
    (Interface.wantParams nestedSource.params).Every
      (TextNode plainEnv.library) := by
  decide

/-- Nested parameters come out of `ParseWantParams` as null. -/
theorem not_roundTrips_nestedSource :
    ¬RoundTrips plainEnv nestedSource.params := by
  intro hround
  obtain ⟨fuel, hfuel⟩ := hround.parseWantParams
  have hnull := (decode_parseWantParams (by decide) nestedSource.ordered
    domain_nestedSource).eq_of_parseWantParams domain_nestedSource (by decide)
    hfuel
  exact absurd (Decoded.params.inj hnull) (by decide)

def flatSource : DistributedWantParams where
  params := [(['i'], .wrapper (.integer (-1))),
    (['s'], .wrapper (.string ['t', 'e', 'x', 't']))]

theorem roundTrips_flatSource : RoundTrips plainEnv flatSource.params := by
  refine (roundTrips_iff plainEnv flatSource (by decide)).mpr
    (.inr ⟨by decide, ?_⟩)
  intro entry hentry nested hnested
  simp only [flatSource, List.mem_cons, List.not_mem_nil, or_false] at hentry
  rcases hentry with rfl | rfl <;> cases hnested

end DistributedWantParamWrapper
end Dmsfwk
