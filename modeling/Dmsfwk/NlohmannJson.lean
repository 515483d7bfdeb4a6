import Dmsfwk.CJson

/-!
# JSON objects that are written member by member

A member is set under its key and found by it, whatever was set before or after
under other keys; only a null value or an object takes members.  A reader takes
a member when it has the type that is expected.
-/

namespace Nlohmann

open CJson

/-! ## Printing and parsing -/

/-- `dump` and `parse` without exceptions; a discarded value is none. -/
structure NlohmannJson where
  dump : Json → List Char
  parse : List Char → Option Json
  parse_nil : parse [] = none

def NlohmannJson.Keeps (library : NlohmannJson) (json : Json) : Prop :=
  library.parse (library.dump json) = some json

theorem NlohmannJson.Keeps.dump_ne_nil {library : NlohmannJson} {json : Json}
    (hkeeps : library.Keeps json) : library.dump json ≠ [] := by
  intro hempty
  unfold NlohmannJson.Keeps at hkeeps
  rw [hempty, library.parse_nil] at hkeeps
  cases hkeeps

/-! ## Members -/

def insertMember (key : String) (value : Json) :
    List (String × Json) → List (String × Json)
  | [] => [(key, value)]
  | (other, found) :: members =>
      if key = other then (key, value) :: members
      else if key < other then (key, value) :: (other, found) :: members
      else (other, found) :: insertMember key value members

/-- `json[key] = value`, which makes an object of a null value and throws on any
other one. -/
def setMember (key : String) (value : Json) : Json → Json
  | .null => .object [(key, value)]
  | .object members => .object (insertMember key value members)
  | json => json

def memberIf (test : Json → Bool) (key : String) (json : Json) : Option Json :=
  (json.getObjectItemCaseSensitive key).filter test

def copyMember (key : String) (source json : Json) : Json :=
  match source.getObjectItemCaseSensitive key with
  | some value => setMember key value json
  | none => json

theorem find?_insertMember (key : String) (value : Json)
    (members : List (String × Json)) (other : String) :
    (insertMember key value members).find? (fun member => member.1 == other) =
      if key = other then some (key, value)
      else members.find? fun member => member.1 == other := by
  induction members with
  | nil =>
      by_cases hsame : key = other
      · simp [insertMember, hsame]
      · simp [insertMember, hsame]
  | cons member members ih =>
      obtain ⟨first, found⟩ := member
      unfold insertMember
      by_cases hfirst : key = first
      · subst hfirst
        rw [if_pos rfl]
        by_cases hsame : key = other
        · simp [hsame]
        · simp [hsame]
      rw [if_neg hfirst]
      by_cases hbefore : key < first
      · rw [if_pos hbefore]
        by_cases hsame : key = other
        · simp [hsame]
        · simp [List.find?_cons, hsame]
      · rw [if_neg hbefore, List.find?_cons, ih]
        by_cases hsame : key = other
        · subst hsame
          have hother : (first == key) = false := by
            simpa using Ne.symm hfirst
          rw [if_pos rfl, hother]
          simp
        · simp only [List.find?_cons, if_neg hsame]

def isAssignable : Json → Bool
  | .null => true
  | .object _ => true
  | _ => false

@[simp] theorem isAssignable_null : isAssignable .null = true := rfl

@[simp] theorem isAssignable_setMember (key : String) (value json : Json) :
    isAssignable (setMember key value json) = isAssignable json := by
  cases json <;> rfl

@[simp] theorem getObjectItem_null (key : String) :
    Json.null.getObjectItemCaseSensitive key = none := rfl

@[simp] theorem getObjectItem_setMember (key : String) (value json : Json)
    (other : String) :
    (setMember key value json).getObjectItemCaseSensitive other =
      if isAssignable json = true ∧ key = other then some value
      else json.getObjectItemCaseSensitive other := by
  cases json with
  | null =>
      by_cases hsame : key = other <;>
        simp [setMember, Json.getObjectItemCaseSensitive, hsame]
  | object members =>
      have hobject : isAssignable (.object members) = true := rfl
      simp only [setMember, Json.getObjectItemCaseSensitive, find?_insertMember,
        hobject, true_and]
      by_cases hsame : key = other <;> simp [hsame]
  | bool value => simp [setMember, isAssignable]
  | number value => simp [setMember, isAssignable]
  | string value => simp [setMember, isAssignable]
  | array items => simp [setMember, isAssignable]

@[simp] theorem getObjectItem_copyMember (key : String) (source json : Json)
    (other : String) :
    (copyMember key source json).getObjectItemCaseSensitive other =
      if isAssignable json = true ∧ key = other then
        (source.getObjectItemCaseSensitive key).or
          (json.getObjectItemCaseSensitive other)
      else json.getObjectItemCaseSensitive other := by
  unfold copyMember
  cases source.getObjectItemCaseSensitive key with
  | none => simp
  | some value => simp

section Found

variable {json : Json}

theorem memberIf_of_some {test : Json → Bool} {key : String} {value : Json}
    (hmember : json.getObjectItemCaseSensitive key = some value)
    (htest : test value = true) : memberIf test key json = some value := by
  rw [memberIf, hmember, Option.filter_some, if_pos htest]

theorem memberIf_of_none {key : String}
    (hmember : json.getObjectItemCaseSensitive key = none)
    (test : Json → Bool) : memberIf test key json = none := by
  rw [memberIf, hmember, Option.filter_none]

end Found

/-! ## Types of members -/

def isNumber : Json → Bool
  | .number _ => true
  | _ => false

def isNumberInteger : Json → Bool
  | .number value => value.den = 1
  | _ => false

def isNumberUnsigned : Json → Bool
  | .number value => value.den = 1 ∧ 0 ≤ value
  | _ => false

def ofUInt32 (value : UInt32) : Json := .number (value.toNat : ℚ)

def toUInt32 : Json → UInt32
  | .number value => UInt32.ofNat value.num.toNat
  | _ => 0

def toInt32 : Json → Int32
  | .number value => Int32.ofInt (value.num.tdiv value.den)
  | _ => 0

def toText : Json → List Char
  | .string value => value
  | _ => []

@[simp] theorem isNumberUnsigned_ofUInt32 (value : UInt32) :
    isNumberUnsigned (ofUInt32 value) = true := by
  simp [isNumberUnsigned, ofUInt32]

@[simp] theorem toUInt32_ofUInt32 (value : UInt32) :
    toUInt32 (ofUInt32 value) = value := by
  simp [toUInt32, ofUInt32]

@[simp] theorem isNumber_ofInt32 (value : Int32) :
    isNumber (.ofInt32 value) = true := rfl

@[simp] theorem isNumberInteger_ofInt32 (value : Int32) :
    isNumberInteger (.ofInt32 value) = true := by
  simp [isNumberInteger, Json.ofInt32]

@[simp] theorem toInt32_ofInt32 (value : Int32) :
    toInt32 (.ofInt32 value) = value := by
  simp [toInt32, Json.ofInt32]

@[simp] theorem isString_string (text : List Char) :
    Json.isString (.string text) = true := rfl

@[simp] theorem toText_string (text : List Char) : toText (.string text) = text :=
  rfl

end Nlohmann
