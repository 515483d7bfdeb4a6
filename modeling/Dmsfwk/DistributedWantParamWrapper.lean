import Dmsfwk.DecimalText
import Dmsfwk.DistributedWantParams

/-!
# Parameters as text

`DistributedWantParamWrapper` prints parameters as nested objects, the value of
a key standing behind its type, and has two decoders for such texts.  Both move a
cursor over the text, take a quoted text for the key, the type or the value,
whichever is wanted next, and pass the text of a nested object to `Parse`.

A position is `none` for `std::string::npos`.  That is the largest `size_t`, so
the increment of the loop turns it into 0.
-/

namespace Dmsfwk

open SortedEntries

/-- What the decoders depend on besides the text: the wrapper classes, whether
`char` is signed, and the `errno` that earlier calls left behind. -/
structure WrapperEnv where
  library : WrapperLibrary
  charSigned : Bool := false
  errno : ℤ := 0

namespace DistributedWantParamWrapper

open DistributedWantParams

def erange : ℤ := 34

/-! ## Printing -/

def getStringByType (library : WrapperLibrary) : Interface → Text
  | .wrapper object => library.toString object
  | _ => []

def dataTypeText (value : Interface) : Text :=
  DecimalText.ofInt (getDataType value).toInt

mutual
def valueText (library : WrapperLibrary) : Interface → Text
  | .wantParams params => toString library params
  | value => ['"'] ++ getStringByType library value ++ ['"']

def entriesText (library : WrapperLibrary) : ParamMap → Text
  | [] => []
  | (key, value) :: params =>
      ['"'] ++ key ++ "\":\x7b\"".toList ++ dataTypeText value ++ "\":".toList ++
        valueText library value ++
        (if params.isEmpty then "\x7d".toList else "\x7d,".toList) ++
        entriesText library params

def toString (library : WrapperLibrary) (params : ParamMap) : Text :=
  if params.length ≠ 0 then
    "\x7b".toList ++ entriesText library params ++ "\x7d".toList
  else "\x7b\x7d".toList
end

/-! ## Strings -/

def find (str : Text) (start : ℕ) : Option ℕ :=
  ((str.drop start).findIdx? (· = '"')).map (start + ·)

/-- `str.substr(pos, count)`, which throws when it starts behind the end. -/
def substr (str : Text) (pos : ℕ) (count : Option ℕ) : Option Text :=
  if str.length < pos then none
  else match count with
    | some count => some ((str.drop pos).take count)
    | none => some (str.drop pos)

def increment : Option ℕ → ℕ
  | some pos => pos + 1
  | none => 0

/-- A number out of range wraps around; `errno` is left alone. -/
def atoi (text : Text) : Int32 :=
  Int32.ofInt (DecimalText.toInt text)

def neverNegative : ℤ → Text → Bool
  | _, [] => true
  | counter, c :: str =>
      let counter := if c = '\x7b' then counter + 1 else counter
      let counter := if c = '\x7d' then counter - 1 else counter
      if counter < 0 then false else neverNegative counter str

def validateStr (str : Text) : Bool :=
  if str = [] ∨ str = "\x7b\x7d".toList ∨ str = "\x7b\"\"\x7d".toList then false
  else if str.count '"' % 2 ≠ 0 then false
  else if str.count '\x7b' ≠ str.count '\x7d' then false
  else neverNegative 0 str

def balancedAt : ℤ → Text → Option ℕ
  | _, [] => none
  | count, c :: str =>
      let count := if c = '\x7b' then count + 1
        else if c = '\x7d' then count - 1 else count
      if count = 0 then some 0 else (balancedAt count str).map (· + 1)

def findMatchingBrace (str : Text) (strnum : ℕ) : ℕ :=
  match balancedAt 0 (str.drop strnum) with
  | some offset => strnum + offset
  | none => strnum

/-- `GerTypedId`; no answer stands for an exception. -/
def gerTypedId (str : Text) (strnum : ℕ) : Option Int32 :=
  let nIdx := find str strnum
  if nIdx.any (· < strnum) then some 0
  else match substr str strnum (nIdx.map (· - strnum)) with
    | none => none
    | some [] => some 0
    | some typeIdStr => some (atoi typeIdStr)

def parsedTypes : List Int32 := [1, 2, 3, 4, 5, 6, 7, 8, 9, valueTypeArray]

def getInterfaceByType (library : WrapperLibrary) (typeId : Int32)
    (value : Text) : Interface :=
  if parsedTypes.contains typeId then
    match library.parse typeId value with
    | some object => .wrapper object
    | none => .null
  else .null

/-! ## Decoding -/

inductive Decoder where
  | parse
  | parseWantParams
  deriving DecidableEq, Repr

structure ParseState where
  strnum : ℕ := 0
  key : Text := []
  typeId : Int32 := 0
  wantParams : ParamMap := []

/-- What one round of the loop comes to: another one, another one after `Parse`
has read the text of a nested object, the end for a number out of range, or an
exception. -/
inductive Round where
  | advance (state : ParseState)
  | object (text : Text) (strnum : ℕ)
  | quit
  | outOfRange

/-- The first quoted text.  `Parse` leaves an empty or open one, `ParseWantParams`
takes it. -/
def readKey (decoder : Decoder) (str : Text) (state : ParseState) : Round :=
  let strnum := state.strnum + 1
  let pos := find str strnum
  match decoder with
  | .parse =>
      if pos.any (strnum < ·) then
        match substr str strnum (pos.map (· - strnum)) with
        | some key =>
            .advance { state with key := key, strnum := increment pos }
        | none => .outOfRange
      else .advance { state with strnum := increment pos }
  | .parseWantParams =>
      if pos.any (· < strnum) then
        .advance { state with strnum := strnum + 1 }
      else
        match substr str strnum (pos.map (· - strnum)) with
        | some key =>
            .advance { state with key := key, strnum := increment pos }
        | none => .outOfRange

def readType (env : WrapperEnv) (str : Text) (state : ParseState) : Round :=
  let strnum := state.strnum + 1
  match gerTypedId str strnum with
  | none => .outOfRange
  | some typeId =>
      if env.errno = erange then .quit
      else .advance { state with
        typeId := typeId, strnum := increment (find str strnum) }

def readValue (env : WrapperEnv) (str : Text) (state : ParseState) : Round :=
  let strnum := state.strnum + 1
  let pos := find str strnum
  match substr str strnum (pos.map (· - strnum)) with
  | none => .outOfRange
  | some text =>
      .advance {
        strnum := increment pos
        key := []
        typeId := 0
        wantParams := insert state.key
          (getInterfaceByType env.library state.typeId text) state.wantParams }

/-- The text of a nested object; `ParseWantParams` leaves its last brace out. -/
def readObject (decoder : Decoder) (str : Text) (state : ParseState) : Round :=
  let num := findMatchingBrace str state.strnum
  let count := match decoder with
    | .parse => num - state.strnum + 1
    | .parseWantParams => num - state.strnum
  match substr str state.strnum (some count) with
  | some text => .object text (num + 2)
  | none => .outOfRange

def round (decoder : Decoder) (env : WrapperEnv) (str : Text)
    (state : ParseState) : Round :=
  if str[state.strnum]? = some '\x7b' ∧ state.key ≠ [] ∧
      state.typeId = valueTypeWantParams then
    readObject decoder str state
  else if str[state.strnum]? ≠ some '"' then
    .advance { state with strnum := state.strnum + 1 }
  else if state.key = [] then readKey decoder str state
  else if state.typeId = 0 then readType env str state
  else readValue env str state

inductive Decoded where
  | null
  | params (params : ParamMap)
  | outOfRange
  deriving DecidableEq, Repr

def finish (decoder : Decoder) (env : WrapperEnv) (wantParams : ParamMap) :
    Decoded :=
  match decoder with
  | .parse => .params (newParams env.charSigned wantParams [])
  | .parseWantParams => .params wantParams

def quit (decoder : Decoder) (wantParams : ParamMap) : Decoded :=
  match decoder with
  | .parse => .null
  | .parseWantParams => .params wantParams

def boxed : Decoded → Interface
  | .params params => .wantParams params
  | _ => .null

def decode (env : WrapperEnv) :
    ℕ → Decoder → Text → ParseState → Option Decoded
  | 0, _, _, _ => none
  | fuel + 1, decoder, str, state =>
      if state.strnum < str.length then
        match round decoder env str state with
        | .advance next => decode env fuel decoder str next
        | .object text strnum =>
            let nested := if validateStr text then
                decode env fuel .parse text {}
              else some .null
            match nested with
            | none => none
            | some .outOfRange => some .outOfRange
            | some value =>
                decode env fuel decoder str {
                  strnum := strnum
                  wantParams := insert state.key (boxed value)
                    state.wantParams }
        | .quit => some (quit decoder state.wantParams)
        | .outOfRange => some .outOfRange
      else some (finish decoder env state.wantParams)

def parse (env : WrapperEnv) (fuel : ℕ) (str : Text) : Option Decoded :=
  if validateStr str then decode env fuel .parse str {} else some .null

def parseWantParams (env : WrapperEnv) (fuel : ℕ) (str : Text) :
    Option Decoded :=
  if validateStr str then decode env fuel .parseWantParams str {}
  else some (.params [])

end DistributedWantParamWrapper

end Dmsfwk
