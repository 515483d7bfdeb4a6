import Mathlib.Data.List.TakeWhile
import Mathlib.Tactic

/-!
# JSON values and their accessors

JSON values as the C library stores them, the accessors by which a program reads
a parsed value, and the printer and parser of the library.  The printer and the
parser are parameters; what a program relies on is that a printed value is read
back.
-/

namespace CJson

inductive Json where
  | null
  | bool (value : Bool)
  | number (value : ℚ)
  | string (value : List Char)
  | array (items : List Json)
  | object (members : List (String × Json))

def cStr (text : List Char) : List Char :=
  text.takeWhile fun c => c != '\x00'

theorem cStr_of_nul_not_mem {text : List Char} (htext : '\x00' ∉ text) :
    cStr text = text := by
  rw [cStr, List.takeWhile_eq_self_iff]
  intro c hc
  have hne : c ≠ '\x00' := fun heq => htext (heq ▸ hc)
  simpa using hne

/-! ## Numbers -/

/-- The saturated and truncated integer which the library keeps beside a
number. -/
def toValueint (value : ℚ) : Int32 :=
  if (Int32.maxValue.toInt : ℚ) ≤ value then Int32.maxValue
  else if value ≤ (Int32.minValue.toInt : ℚ) then Int32.minValue
  else Int32.ofInt (value.num.tdiv value.den)

theorem toValueint_intCast (n : Int32) : toValueint (n.toInt : ℚ) = n := by
  unfold toValueint
  have hlarge := n.toInt_le
  have hsmall := n.minValue_le_toInt
  split_ifs with hmax hmin
  · have hle : Int32.maxValue.toInt ≤ n.toInt := by exact_mod_cast hmax
    exact Int32.toInt_inj.mp (le_antisymm hle hlarge)
  · have hle : n.toInt ≤ Int32.minValue.toInt := by exact_mod_cast hmin
    exact Int32.toInt_inj.mp (le_antisymm hsmall hle)
  · simp

namespace Json

def ofInt32 (n : Int32) : Json :=
  .number (n.toInt : ℚ)

def ofTexts (texts : List (List Char)) : Json :=
  .array (texts.map fun text => .string (cStr text))

/-! ## Accessors -/

def getObjectItemCaseSensitive : Json → String → Option Json
  | .object members, key => (members.find? fun m => m.1 == key).map Prod.snd
  | _, _ => none

def valuestring : Json → Option (List Char)
  | .string value => some value
  | _ => none

def isString : Json → Bool
  | .string _ => true
  | _ => false

def getNumber (json : Json) (key : String) : Option Int32 :=
  match json.getObjectItemCaseSensitive key with
  | some (.number value) => some (toValueint value)
  | _ => none

def getString (json : Json) (key : String) : Option (List Char) :=
  match json.getObjectItemCaseSensitive key with
  | some (.string value) => some value
  | _ => none

def getBool (json : Json) (key : String) : Option Bool :=
  match json.getObjectItemCaseSensitive key with
  | some (.bool value) => some value
  | _ => none

def children : Option Json → List Json
  | some (.array items) => items
  | some (.object members) => members.map Prod.snd
  | _ => []

def getStrings (json : Json) (key : String) : Option (List (List Char)) :=
  (children (json.getObjectItemCaseSensitive key)).mapM valuestring

theorem getString_string {json : Json} {key : String} {text : List Char}
    (hitem : json.getObjectItemCaseSensitive key = some (.string text)) :
    json.getString key = some text := by
  simp [getString, hitem]

theorem getStrings_ofTexts {json : Json} {key : String} {texts : List (List Char)}
    (hitem : json.getObjectItemCaseSensitive key = some (ofTexts texts))
    (htexts : ∀ text ∈ texts, '\x00' ∉ text) :
    json.getStrings key = some texts := by
  have hcStr : texts.map (fun text => Json.string (cStr text)) =
      texts.map Json.string := by
    apply List.map_congr_left
    intro text hmem
    rw [cStr_of_nul_not_mem (htexts text hmem)]
  have hread : ∀ l : List (List Char), (l.map Json.string).mapM valuestring = some l := by
    intro l
    induction l with
    | nil => rfl
    | cons text rest ih => simp [List.mapM_cons, valuestring, ih]
  rw [getStrings, hitem, ofTexts, children, hcStr, hread]

end Json

/-! ## Printer and parser -/

structure Library where
  print : Json → Option (List Char)
  parse : List Char → Option Json

/-- The library prints the value as a C string and reads it back. -/
def Library.Keeps (library : Library) (json : Json) : Prop :=
  ∃ text, library.print json = some text ∧ '\x00' ∉ text ∧
    library.parse text = some json

end CJson
