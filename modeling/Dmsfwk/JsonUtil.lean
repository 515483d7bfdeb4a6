import Dmsfwk.NlohmannJson

/-!
# Reading the members of a document

A document is read member by member: each member that is there is tested for its
type, an array for its length and the types of its items too, and is then taken.
The first error is kept and nothing is read behind it.  A text that is too long
is an error after it was taken, and an empty array is not taken at all.
-/

namespace JsonUtil

open CJson Nlohmann

inductive JsonType where
  | nullable
  | boolean
  | number
  | object
  | array
  | string
  deriving DecidableEq, Repr

inductive ArrayType where
  | number
  | object
  | string
  | notArray
  deriving DecidableEq, Repr

/-- `ERR_OK` and the errors of the profile parser. -/
inductive ParseResult where
  | errOk
  | propTypeError
  | propSizeCheckError
  | missingProp
  deriving DecidableEq, Repr

/-- `MAX_JSON_ELEMENT_LENGTH` and `MAX_JSON_ARRAY_LENGTH`. -/
structure JsonLimits where
  maxElementLength : ℕ
  maxArrayLength : ℕ

def byteLength (text : List Char) : ℕ :=
  (text.map Char.utf8Size).sum

def isObject : Json → Bool
  | .object _ => true
  | _ => false

def ArrayType.admits (items : List Json) : ArrayType → Bool
  | .number => items.all isNumber
  | .object => items.all isObject
  | .string => items.all Json.isString
  | .notArray => false

def checkArrayType (limits : JsonLimits) (arrayType : ArrayType)
    (items : List Json) : Bool × ParseResult :=
  if items = [] then (false, .errOk)
  else if limits.maxArrayLength < items.length then (false, .propSizeCheckError)
  else if arrayType = .notArray then (false, .errOk)
  else if arrayType.admits items then (true, .errOk)
  else (false, .propTypeError)

def checkValue (limits : JsonLimits) (jsonType : JsonType)
    (arrayType : ArrayType) (value : Json) : Bool × ParseResult :=
  match jsonType, value with
  | .boolean, .bool _ => (true, .errOk)
  | .number, .number _ => (true, .errOk)
  | .object, .object _ => (true, .errOk)
  | .array, .array items => checkArrayType limits arrayType items
  | .string, .string text =>
      (true, if limits.maxElementLength < byteLength text then
        .propSizeCheckError else .errOk)
  | .nullable, _ => (false, .errOk)
  | _, _ => (false, .propTypeError)

def isOfType (jsonType : JsonType) (arrayType : ArrayType) (value : Json) :
    Bool :=
  match jsonType, value with
  | .boolean, .bool _ => true
  | .number, .number _ => true
  | .object, .object _ => true
  | .array, .array items => arrayType.admits items
  | .string, .string _ => true
  | _, _ => false

/-- A field of a record: the type its member is tested for, and `get`, which
throws on values of other types only. -/
structure JsonField (T : Type) where
  jsonType : JsonType
  arrayType : ArrayType := .notArray
  get : Json → Option T
  isTested : jsonType ≠ .nullable ∧ (jsonType = .array → arrayType ≠ .notArray)
  get_isSome : ∀ value, isOfType jsonType arrayType value = true →
    (get value).isSome = true

def JsonField.admits {T : Type} (field : JsonField T) (value : Json) : Bool :=
  isOfType field.jsonType field.arrayType value

variable {T : Type}

/-- `GetValueIfFindKey` on the variable `data` and the result so far; no answer
stands for an exception. -/
def getValueIfFindKey (limits : JsonLimits) (field : JsonField T)
    (jsonObject : Json) (key : String) (isNecessary : Bool) (data : T)
    (parseResult : ParseResult) : Option (T × ParseResult) :=
  if parseResult ≠ .errOk then some (data, parseResult)
  else
    match jsonObject.getObjectItemCaseSensitive key with
    | none => some (data, if isNecessary then .missingProp else parseResult)
    | some value =>
        let check := checkValue limits field.jsonType field.arrayType value
        if check.1 then (field.get value).map (·, check.2)
        else some (data, check.2)

/-! ## Fields -/

def getText : Json → Option (List Char)
  | .string text => some text
  | _ => none

def getNumber (cast : ℤ → T) : Json → Option T
  | .number value => some (cast (value.num.tdiv value.den))
  | _ => none

def getBool : Json → Option Bool
  | .bool value => some value
  | _ => none

def getItems (get : Json → Option T) : Json → Option (List T)
  | .array items => items.mapM get
  | _ => none

theorem getItems_isSome {get : Json → Option T} {items : List Json}
    (hitems : ∀ item ∈ items, (get item).isSome = true) :
    (getItems get (.array items)).isSome = true := by
  rw [getItems]
  induction items with
  | nil => rfl
  | cons item items ih =>
      obtain ⟨hitem, hrest⟩ := List.forall_mem_cons.mp hitems
      obtain ⟨value, hvalue⟩ := Option.isSome_iff_exists.mp hitem
      obtain ⟨values, hvalues⟩ := Option.isSome_iff_exists.mp (ih hrest)
      simp [List.mapM_cons, hvalue, hvalues]

def textField : JsonField (List Char) where
  jsonType := .string
  get := getText
  isTested := by decide
  get_isSome value htype := by
    cases value <;> simp [isOfType] at htype
    rfl

def boolField : JsonField Bool where
  jsonType := .boolean
  get := getBool
  isTested := by decide
  get_isSome value htype := by
    cases value <;> simp [isOfType] at htype
    rfl

def numberField (cast : ℤ → T) : JsonField T where
  jsonType := .number
  get := getNumber cast
  isTested := by decide
  get_isSome value htype := by
    cases value <;> simp [isOfType] at htype
    rfl

def textsField : JsonField (List (List Char)) where
  jsonType := .array
  arrayType := .string
  get := getItems getText
  isTested := by decide
  get_isSome value htype := by
    cases value <;> simp only [isOfType, Bool.false_eq_true] at htype
    refine getItems_isSome fun item hitem => ?_
    have hstring := List.all_eq_true.mp htype item hitem
    cases item <;> simp [Json.isString] at hstring
    rfl

def numbersField (cast : ℤ → T) : JsonField (List T) where
  jsonType := .array
  arrayType := .number
  get := getItems (getNumber cast)
  isTested := by decide
  get_isSome value htype := by
    cases value <;> simp only [isOfType, Bool.false_eq_true] at htype
    refine getItems_isSome fun item hitem => ?_
    have hnumber := List.all_eq_true.mp htype item hitem
    cases item <;> simp [isNumber] at hnumber
    rfl

def objectsField (get : Json → Option T)
    (hget : ∀ value, (get value).isSome = true) : JsonField (List T) where
  jsonType := .array
  arrayType := .object
  get := getItems get
  isTested := by decide
  get_isSome value htype := by
    cases value <;> simp only [isOfType, Bool.false_eq_true] at htype
    exact getItems_isSome fun item _ => hget item

/-! ## What a member leaves -/

def isTooLong (limits : JsonLimits) : Json → Bool
  | .string text => limits.maxElementLength < byteLength text
  | .array items => limits.maxArrayLength < items.length
  | _ => false

def isClean (limits : JsonLimits) (field : JsonField T) (json : Json)
    (key : String) : Bool :=
  (json.getObjectItemCaseSensitive key).all fun value =>
    field.admits value && !isTooLong limits value

def Reads (field : JsonField T) (json : Json) (key : String) (data : T) :
    Prop :=
  ∀ value, json.getObjectItemCaseSensitive key = some value →
    field.admits value = true ∧ field.get value = some data

def IsEmptyValue (field : JsonField T) (data : T) : Prop :=
  ∀ items, field.admits (.array items) = true →
    (field.get (.array items) = some data ↔ items = [])

/-- The member, if it is there, is of the type; behind an error it is empty, and
an array is within its limit otherwise. -/
def MemberKept (limits : JsonLimits) (field : JsonField T) (json : Json)
    (key : String) (data : T) (isFine : Bool) : Prop :=
  ∀ value, json.getObjectItemCaseSensitive key = some value →
    field.admits value = true ∧
      if isFine then
        ∀ items, value = .array items → items.length ≤ limits.maxArrayLength
      else field.get value = some data

section Members

variable {limits : JsonLimits} {field : JsonField T} {json : Json}
  {key : String} {data : T} {parseResult : ParseResult}

theorem checkValue_snd (limits : JsonLimits) (field : JsonField T)
    (value : Json) :
    (checkValue limits field.jsonType field.arrayType value).2 = .errOk ↔
      field.admits value = true ∧ isTooLong limits value = false := by
  obtain ⟨hnullable, harray⟩ := field.isTested
  unfold JsonField.admits
  cases htype : field.jsonType with
  | nullable => exact absurd htype hnullable
  | boolean | number | object =>
      cases value <;> simp [checkValue, isOfType, isTooLong]
  | string =>
      cases value <;> simp [checkValue, isOfType, isTooLong]
  | array =>
      have hitems := harray htype
      cases value with
      | array items =>
          rw [checkValue, checkArrayType, isOfType, isTooLong]
          split_ifs with hempty hlong htested
          · subst hempty
            cases harrayType : field.arrayType <;>
              simp_all [ArrayType.admits]
          · simp [hlong]
          · simp [htested, hlong]
          · simp [htested]
      | _ => simp [checkValue, isOfType]

theorem checkValue_fst (limits : JsonLimits) (field : JsonField T)
    (value : Json) :
    (checkValue limits field.jsonType field.arrayType value).1 = true ↔
      field.admits value = true ∧ ∀ items, value = .array items →
        items ≠ [] ∧ items.length ≤ limits.maxArrayLength := by
  obtain ⟨hnullable, harray⟩ := field.isTested
  unfold JsonField.admits
  cases htype : field.jsonType with
  | nullable => exact absurd htype hnullable
  | boolean | number | object | string =>
      cases value <;> simp [checkValue, isOfType]
  | array =>
      have hitems := harray htype
      cases value with
      | array items =>
          rw [checkValue, checkArrayType, isOfType]
          split_ifs with hempty hlong htested
          · simp [hempty]
          · simp [hlong]
          · simp [htested, hempty, not_lt.mp hlong]
          · simp [htested]
      | _ => simp [checkValue, isOfType]

theorem getValueIfFindKey_isSome (limits : JsonLimits) (field : JsonField T)
    (json : Json) (key : String) (data : T) (parseResult : ParseResult) :
    ∃ data' result, getValueIfFindKey limits field json key false data
        parseResult = some (data', result) ∧
      (result = .errOk ↔
        parseResult = .errOk ∧ isClean limits field json key = true) := by
  unfold getValueIfFindKey isClean
  by_cases hfine : parseResult = .errOk
  · subst hfine
    rw [if_neg (by simp)]
    cases hvalue : json.getObjectItemCaseSensitive key with
    | none => exact ⟨data, .errOk, by simp⟩
    | some value =>
        have hsnd := checkValue_snd limits field value
        simp only
        split_ifs with htaken
        · obtain ⟨taken, htaken⟩ := Option.isSome_iff_exists.mp
            (field.get_isSome value
              ((checkValue_fst limits field value).mp htaken).1)
          refine ⟨taken, _, by rw [htaken, Option.map_some], ?_⟩
          rw [hsnd]
          simp
        · refine ⟨data, _, rfl, ?_⟩
          rw [hsnd]
          simp
  · rw [if_pos hfine]
    exact ⟨data, parseResult, rfl, by simp [hfine]⟩

section Read

variable {data' : T} {result : ParseResult}
  (hread : getValueIfFindKey limits field json key false data parseResult = some (data', result))
  (hempty : IsEmptyValue field data)

include hread hempty

theorem reads_iff :
    Reads field json key data' ↔
      MemberKept limits field json key data (parseResult = .errOk) := by
  unfold getValueIfFindKey at hread
  by_cases hfine : parseResult = .errOk
  · subst hfine
    rw [if_neg (by simp)] at hread
    unfold Reads MemberKept
    cases hvalue : json.getObjectItemCaseSensitive key with
    | none => simp
    | some value =>
        simp only [hvalue] at hread
        simp only [Option.some.injEq, forall_eq', decide_true, if_true]
        refine and_congr_right fun htype => ?_
        have hfst := checkValue_fst limits field value
        split_ifs at hread with htaken
        · obtain ⟨taken, hget, heq⟩ := Option.map_eq_some_iff.mp hread
          cases heq
          refine iff_of_true hget ?_
          intro items harray
          exact ((hfst.mp htaken).2 items harray).2
        · cases hread
          have hnot : ¬ ∀ items, value = .array items →
              items ≠ [] ∧ items.length ≤ limits.maxArrayLength :=
            fun hall => htaken (hfst.mpr ⟨htype, hall⟩)
          cases value with
          | array items =>
              rw [hempty items htype]
              constructor
              · rintro rfl _ ⟨⟩
                exact Nat.zero_le _
              · intro hlength
                by_contra hne
                refine hnot fun other hother => ?_
                cases hother
                exact ⟨hne, hlength items rfl⟩
          | _ => exact absurd (fun items hitems => by cases hitems) hnot
  · rw [if_pos hfine] at hread
    cases hread
    unfold Reads MemberKept
    simp [hfine]

theorem reads_of_isClean (hfine : parseResult = .errOk)
    (hclean : isClean limits field json key = true) :
    Reads field json key data' := by
  rw [reads_iff hread hempty]
  intro value hvalue
  rw [isClean, hvalue, Option.all_some, Bool.and_eq_true,
    Bool.not_eq_true'] at hclean
  refine ⟨hclean.1, ?_⟩
  rw [if_pos (by simpa using hfine)]
  rintro items rfl
  simpa [isTooLong] using hclean.2

end Read

/-! ### Members in a row -/

variable {R : Type} {next : T × ParseResult → Option R} {read : R}

theorem readMember_isSome {before : Prop} {holds : R → Prop}
    (hbefore : parseResult = .errOk ↔ before)
    (hnext : ∀ data' result,
      (result = .errOk ↔ before ∧ isClean limits field json key = true) →
      ∃ read, next (data', result) = some read ∧ holds read) :
    ∃ read, (getValueIfFindKey limits field json key false data
      parseResult).bind next = some read ∧ holds read := by
  obtain ⟨data', result, hvalue, hresult⟩ :=
    getValueIfFindKey_isSome limits field json key data parseResult
  rw [hbefore] at hresult
  obtain ⟨read, hread, hholds⟩ := hnext data' result hresult
  exact ⟨read, Option.bind_eq_some_iff.mpr ⟨_, hvalue, hread⟩, hholds⟩

theorem readMember_iff {before : Bool}
    (hread : (getValueIfFindKey limits field json key false data
      parseResult).bind next = some read)
    (hempty : IsEmptyValue field data)
    (hbefore : decide (parseResult = .errOk) = before) :
    ∃ data' result, next (data', result) = some read ∧
      decide (result = .errOk) = (before && isClean limits field json key) ∧
      (Reads field json key data' ↔
        MemberKept limits field json key data before) := by
  obtain ⟨data', result, hvalue, hresult⟩ :=
    getValueIfFindKey_isSome limits field json key data parseResult
  rw [hvalue, Option.bind_some] at hread
  refine ⟨data', result, hread, ?_, ?_⟩
  · rw [← hbefore, Bool.eq_iff_iff, decide_eq_true_iff, hresult,
      Bool.and_eq_true, decide_eq_true_iff]
  · rw [← hbefore]
    exact reads_iff hvalue hempty

theorem readMember_of_isClean
    (hread : (getValueIfFindKey limits field json key false data .errOk).bind
      next = some read)
    (hempty : IsEmptyValue field data)
    (hclean : isClean limits field json key = true) :
    ∃ data', next (data', .errOk) = some read ∧
      Reads field json key data' := by
  obtain ⟨data', result, hvalue, hresult⟩ :=
    getValueIfFindKey_isSome limits field json key data .errOk
  have hfine : result = .errOk := hresult.mpr ⟨rfl, hclean⟩
  subst hfine
  rw [hvalue, Option.bind_some] at hread
  exact ⟨data', hread, reads_of_isClean hvalue hempty rfl hclean⟩

end Members

section Empty

theorem isEmptyValue_of_not_array {field : JsonField T}
    (hfield : field.jsonType ≠ .array) (data : T) : IsEmptyValue field data := by
  intro items htype
  unfold JsonField.admits isOfType at htype
  cases hjson : field.jsonType <;> simp_all

theorem mapM_eq_some_nil_iff {get : Json → Option T} {items : List Json} :
    items.mapM get = some [] ↔ items = [] := by
  cases items with
  | nil => simp
  | cons item items =>
      simp only [List.mapM_cons, Option.bind_eq_bind, Option.pure_def,
        reduceCtorEq, iff_false]
      cases get item with
      | none => simp
      | some value => cases items.mapM get <;> simp

theorem isEmptyValue_texts : IsEmptyValue textsField [] :=
  fun _ _ => mapM_eq_some_nil_iff

theorem isEmptyValue_numbers (cast : ℤ → T) :
    IsEmptyValue (numbersField cast) [] :=
  fun _ _ => mapM_eq_some_nil_iff

theorem isEmptyValue_objects (get : Json → Option T)
    (hget : ∀ value, (get value).isSome = true) :
    IsEmptyValue (objectsField get hget) [] :=
  fun _ _ => mapM_eq_some_nil_iff

theorem getValueIfFindKey_of_value {limits : JsonLimits} {field : JsonField T}
    {json value : Json} {key : String} {data taken : T}
    (hempty : IsEmptyValue field data)
    (hvalue : json.getObjectItemCaseSensitive key = some value)
    (htype : field.admits value = true) (hshort : isTooLong limits value = false)
    (hget : field.get value = some taken) :
    getValueIfFindKey limits field json key false data .errOk =
      some (taken, .errOk) := by
  obtain ⟨found, result, hread, hresult⟩ :=
    getValueIfFindKey_isSome limits field json key data .errOk
  have hclean : isClean limits field json key = true := by
    simp [isClean, hvalue, htype, hshort]
  have hfine : result = .errOk := hresult.mpr ⟨rfl, hclean⟩
  have hfound := (reads_of_isClean hread hempty rfl hclean value hvalue).2
  rw [hget] at hfound
  rw [hread, hfine, Option.some.inj hfound]

end Empty

/-! ## Values as JSON -/

section Values

def ofNumber (value : ℤ) : Json := .number (value : ℚ)

def ofTexts (texts : List (List Char)) : Json := .array (texts.map .string)

@[simp] theorem getNumber_ofNumber (cast : ℤ → T) (value : ℤ) :
    getNumber cast (ofNumber value) = some (cast value) := by
  simp [getNumber, ofNumber]

theorem mapM_map_eq_some {α : Type} {get : Json → Option T} {put : α → Json}
    {cast : α → T} (hget : ∀ value, get (put value) = some (cast value))
    (values : List α) : (values.map put).mapM get = some (values.map cast) := by
  induction values with
  | nil => rfl
  | cons value values ih => simp [List.mapM_cons, hget, ih]

theorem getItems_ofTexts (texts : List (List Char)) :
    getItems getText (ofTexts texts) = some texts := by
  have hget : ∀ text, getText (.string text) = some (id text) := fun _ => rfl
  have hmapM : (texts.map Json.string).mapM getText = some (texts.map id) :=
    mapM_map_eq_some hget texts
  rw [List.map_id] at hmapM
  exact hmapM

end Values

end JsonUtil
