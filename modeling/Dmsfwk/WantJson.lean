import Dmsfwk.WantParamsText

/-!
# Wants as JSON documents

`DistributedWant` prints itself as a JSON object with nine members, the
parameters among them as one text, and reads such objects.  The reader tests the
types of eight members before it takes them; the entities are only looked for.
-/

namespace Dmsfwk

open DistributedWantParams DistributedWantParamWrapper SortedEntries

/-! ## JSON values -/

inductive JsonValue where
  | null
  | boolean (value : Bool)
  | numberInteger (value : Int64)
  | numberUnsigned (value : UInt64)
  | numberFloat (bits : UInt64)
  | string (text : Text)
  | array (items : List JsonValue)
  | object (members : List (Text × JsonValue))

structure JsonLibrary where
  dump : JsonValue → Text
  parse : Text → Option JsonValue
  parse_nil : parse [] = none

/-- What is printed is read back. -/
def JsonLibrary.Keeps (library : JsonLibrary) (json : JsonValue) : Prop :=
  library.parse (library.dump json) = some json

namespace JsonValue

def find (key : Text) : JsonValue → Option JsonValue
  | .object members => lookup key members
  | _ => none

def isString : JsonValue → Bool
  | .string _ => true
  | _ => false

def isNumberUnsigned : JsonValue → Bool
  | .numberUnsigned _ => true
  | _ => false

def getString : JsonValue → Option Text
  | .string text => some text
  | _ => none

def getUnsigned : JsonValue → Option UInt32
  | .numberUnsigned value => some value.toUInt32
  | _ => none

def getStrings : JsonValue → Option (List Text)
  | .array items => items.mapM getString
  | _ => none

def stringAt (key : Text) (json : JsonValue) : Option Text :=
  (json.find key).bind getString

theorem getString_eq_some_iff {json : JsonValue} {text : Text} :
    json.getString = some text ↔ json = .string text := by
  cases json <;> simp [getString]

theorem mapM_getString_eq_some_iff {items : List JsonValue} {texts : List Text} :
    items.mapM getString = some texts ↔ items = texts.map .string := by
  induction items generalizing texts with
  | nil =>
      cases texts <;> simp [List.mapM_nil]
  | cons json items ih =>
      simp only [List.mapM_cons, Option.bind_eq_bind, Option.bind_eq_some_iff,
        Option.pure_def, Option.some.injEq, getString_eq_some_iff]
      cases texts with
      | nil => simp
      | cons text texts =>
          constructor
          · rintro ⟨_, rfl, _, hrest, heq⟩
            cases heq
            rw [ih.mp hrest]
            rfl
          · intro heq
            rw [List.map_cons, List.cons.injEq] at heq
            exact ⟨text, heq.1, texts, ih.mpr heq.2, rfl⟩

theorem getStrings_eq_some_iff {json : JsonValue} {texts : List Text} :
    json.getStrings = some texts ↔ json = .array (texts.map .string) := by
  cases json <;> simp [getStrings, mapM_getString_eq_some_iff]

end JsonValue

/-! ## The want -/

/-- The members of `DistributedWant`, with the parameters as a map of objects. -/
structure ParamWant where
  operation : DistributedOperation := {}
  parameters : ParamMap := []

namespace ParamWant

def setElementName (want : ParamWant) (deviceId bundleName abilityName : Text) :
    ParamWant :=
  { want with operation :=
      { want.operation with deviceId, bundleName, abilityName } }

def setUri (uris : UriLibrary) (want : ParamWant) (uri : Text) : ParamWant :=
  { want with operation := { want.operation with uri := uris.parse uri } }

/-- `String::Parse` answers for the type 9. -/
def setType (env : WrapperEnv) (want : ParamWant) (type : Text) : ParamWant :=
  { want with
    parameters :=
      insert mimeType (getInterfaceByType env.library 9 type) want.parameters }

def setFlags (want : ParamWant) (flags : UInt32) : ParamWant :=
  { want with operation := { want.operation with flags } }

def setAction (want : ParamWant) (action : Text) : ParamWant :=
  { want with operation := { want.operation with action } }

def setParams (env : WrapperEnv) (want : ParamWant) (parameters : ParamMap) :
    ParamWant :=
  { want with
    parameters := newParams env.charSigned parameters [] }

def addEntity (want : ParamWant) (entity : Text) : ParamWant :=
  { want with operation := { want.operation with entities :=
      if entity ∈ want.operation.entities then want.operation.entities
      else want.operation.entities ++ [entity] } }

def getType (want : ParamWant) : Text :=
  match lookup mimeType want.parameters with
  | some (.wrapper (.string type)) => type
  | _ => []

/-! ## Writing -/

def entitiesJson (entities : List Text) : JsonValue :=
  if entities = [] then .null else .array (entities.map .string)

def jsonMembers (env : WrapperEnv) (want : ParamWant) : List (Text × JsonValue) :=
  [("deviceId".toList, .string want.operation.deviceId),
    ("bundleName".toList, .string want.operation.bundleName),
    ("abilityName".toList, .string want.operation.abilityName),
    ("uri".toList, .string want.operation.uri),
    ("type".toList, .string want.getType),
    ("flags".toList, .numberUnsigned want.operation.flags.toUInt64),
    ("action".toList, .string want.operation.action),
    ("parameters".toList, .string (toString env.library
      (newParams env.charSigned want.parameters []))),
    ("entities".toList, entitiesJson want.operation.entities)]

def toJson (env : WrapperEnv) (want : ParamWant) : JsonValue :=
  .object ((want.jsonMembers env).foldl
    (fun members member => insert member.1 member.2 members) [])

def toText (library : JsonLibrary) (env : WrapperEnv) (want : ParamWant) : Text :=
  library.dump (want.toJson env)

/-! ## Reading -/

/-- What reading comes to; an exception is one that leaves `FromString`. -/
inductive FromString where
  | nullptr
  | want (want : ParamWant)
  | exception

def canReadFromJson (wantJson : JsonValue) : Bool :=
  ["deviceId", "bundleName", "abilityName", "uri", "type", "flags", "action",
      "parameters", "entities"].all
    (fun key => (wantJson.find key.toList).isSome) &&
  ["deviceId", "bundleName", "abilityName", "uri", "type"].all
    (fun key => (wantJson.find key.toList).any JsonValue.isString) &&
  (wantJson.find "flags".toList).any JsonValue.isNumberUnsigned &&
  ["action", "parameters"].all
    (fun key => (wantJson.find key.toList).any JsonValue.isString)

def readOperation (env : WrapperEnv) (uris : UriLibrary) (wantJson : JsonValue)
    (want : ParamWant) : Option ParamWant := do
  let deviceId ← wantJson.stringAt "deviceId".toList
  let bundleName ← wantJson.stringAt "bundleName".toList
  let abilityName ← wantJson.stringAt "abilityName".toList
  let want := want.setElementName deviceId bundleName abilityName
  let uri ← wantJson.stringAt "uri".toList
  let want := want.setUri uris uri
  let type ← wantJson.stringAt "type".toList
  let want := want.setType env type
  let flags ← (wantJson.find "flags".toList).bind JsonValue.getUnsigned
  let want := want.setFlags flags
  let action ← wantJson.stringAt "action".toList
  return want.setAction action

def readEntities (wantJson : JsonValue) (want : ParamWant) : FromString :=
  match wantJson.find "entities".toList with
  | none => .exception
  | some .null => .want want
  | some value =>
      match value.getStrings with
      | none => .exception
      | some entities => .want (entities.foldl addEntity want)

/-- `ReadFromJson` on a new want, as far as the fuel lasts for the parameters. -/
def readFromJson (env : WrapperEnv) (uris : UriLibrary) (fuel : ℕ)
    (wantJson : JsonValue) : Option FromString :=
  if canReadFromJson wantJson then
    match readOperation env uris wantJson {},
        wantJson.stringAt "parameters".toList with
    | some want, some parametersString =>
        match parseWantParams env fuel parametersString with
        | none => none
        | some (.params parameters) =>
            some (readEntities wantJson (want.setParams env parameters))
        | some _ => some .exception
    | _, _ => some .exception
  else some .nullptr

def fromString (library : JsonLibrary) (env : WrapperEnv) (uris : UriLibrary)
    (fuel : ℕ) (string : Text) : Option FromString :=
  if string = [] then some .nullptr
  else match library.parse string with
    | none => some .nullptr
    | some wantJson => readFromJson env uris fuel wantJson

/-! ## Members of documents -/

section Members

variable {wantJson : JsonValue} {key : Text}

theorem stringAt_eq_some_iff {text : Text} :
    wantJson.stringAt key = some text ↔
      wantJson.find key = some (.string text) := by
  simp only [JsonValue.stringAt, Option.bind_eq_some_iff,
    JsonValue.getString_eq_some_iff]
  constructor
  · rintro ⟨_, hfind, rfl⟩
    exact hfind
  · intro hfind
    exact ⟨_, hfind, rfl⟩

theorem any_isString_iff :
    (wantJson.find key).any JsonValue.isString = true ↔
      ∃ text, wantJson.stringAt key = some text := by
  simp only [stringAt_eq_some_iff]
  cases hfind : wantJson.find key with
  | none => simp
  | some value => cases value <;> simp [JsonValue.isString]

structure Testable (wantJson : JsonValue) : Prop where
  strings : ∀ key ∈ ["deviceId", "bundleName", "abilityName", "uri", "type",
      "action", "parameters"],
    ∃ text, wantJson.stringAt key.toList = some text
  flags : ∃ flags, wantJson.find "flags".toList = some (.numberUnsigned flags)
  entities : ∃ value, wantJson.find "entities".toList = some value

theorem any_isNumberUnsigned_iff :
    (wantJson.find key).any JsonValue.isNumberUnsigned = true ↔
      ∃ value, wantJson.find key = some (.numberUnsigned value) := by
  cases hfind : wantJson.find key with
  | none => simp
  | some value => cases value <;> simp [JsonValue.isNumberUnsigned]

theorem isSome_of_stringAt {text : Text}
    (hstring : wantJson.stringAt key = some text) :
    (wantJson.find key).isSome = true := by
  rw [stringAt_eq_some_iff.mp hstring]
  rfl

theorem canReadFromJson_iff :
    canReadFromJson wantJson = true ↔ Testable wantJson := by
  simp only [canReadFromJson, Bool.and_eq_true, List.all_eq_true,
    any_isString_iff, any_isNumberUnsigned_iff, and_assoc]
  constructor
  · rintro ⟨hfound, hfirst, hflags, hlast⟩
    refine ⟨?_, hflags, Option.isSome_iff_exists.mp (hfound _ (by simp))⟩
    intro key hkey
    by_cases hmem : key ∈ ["deviceId", "bundleName", "abilityName", "uri", "type"]
    · exact hfirst key hmem
    · refine hlast key ?_
      simp only [List.mem_cons, List.not_mem_nil, or_false] at hkey hmem ⊢
      tauto
  · rintro ⟨hstrings, hflags, hentities⟩
    refine ⟨?_, fun key hkey => hstrings key ?_, hflags,
      fun key hkey => hstrings key ?_⟩
    · intro key hkey
      by_cases hflag : key = "flags"
      · obtain ⟨flags, hfind⟩ := hflags
        rw [hflag, hfind]
        rfl
      by_cases hentity : key = "entities"
      · rw [hentity]
        exact Option.isSome_iff_exists.mpr hentities
      · obtain ⟨text, htext⟩ := hstrings key (by
          simp only [List.mem_cons, List.not_mem_nil, or_false] at hkey ⊢
          tauto)
        exact isSome_of_stringAt htext
    · simp only [List.mem_cons, List.not_mem_nil, or_false] at hkey ⊢
      tauto
    · simp only [List.mem_cons, List.not_mem_nil, or_false] at hkey ⊢
      tauto

theorem Testable.exists_readOperation (htest : Testable wantJson) (env : WrapperEnv)
    (uris : UriLibrary) (want : ParamWant) :
    ∃ read, readOperation env uris wantJson want = some read := by
  obtain ⟨deviceId, hdevice⟩ := htest.strings "deviceId" (by simp)
  obtain ⟨bundleName, hbundle⟩ := htest.strings "bundleName" (by simp)
  obtain ⟨abilityName, hability⟩ := htest.strings "abilityName" (by simp)
  obtain ⟨uri, huri⟩ := htest.strings "uri" (by simp)
  obtain ⟨type, htype⟩ := htest.strings "type" (by simp)
  obtain ⟨action, haction⟩ := htest.strings "action" (by simp)
  obtain ⟨flags, hflags⟩ := htest.flags
  rw [ParamWant.readOperation, hdevice, hbundle, hability, huri, htype, haction,
    hflags]
  exact ⟨_, rfl⟩

end Members

/-! ## Documents that are read without an exception -/

/-- Whatever the wrapper classes and `errno` are, there is a null pointer or a want
in the end. -/
def Total (library : JsonLibrary) (uris : UriLibrary) (string : Text) : Prop :=
  ∀ env, ∃ fuel answer,
    fromString library env uris fuel string = some answer ∧ answer ≠ .exception

def EntitiesReadable (wantJson : JsonValue) : Prop :=
  ∀ value, wantJson.find "entities".toList = some value →
    value = .null ∨ ∃ texts : List Text, value = .array (texts.map .string)

/-- `ValidateStr` refuses the text of the parameters, or the readings of
`ParseWantParams` come to one that closes every quote. -/
def ParametersReadable (wantJson : JsonValue) : Prop :=
  ∀ text, wantJson.find "parameters".toList = some (.string text) →
    validateStr text = true → Closing text .key

theorem readEntities_ne_exception_iff {wantJson : JsonValue}
    (htest : Testable wantJson) (want : ParamWant) :
    readEntities wantJson want ≠ .exception ↔ EntitiesReadable wantJson := by
  obtain ⟨value, hvalue⟩ := htest.entities
  have hreadable : EntitiesReadable wantJson ↔
      value = .null ∨ ∃ texts, value.getStrings = some texts := by
    simp only [EntitiesReadable, hvalue, Option.some.injEq, forall_eq',
      JsonValue.getStrings_eq_some_iff]
  rw [hreadable, readEntities, hvalue]
  cases value with
  | null => simp
  | array items =>
      cases hstrings : (JsonValue.array items).getStrings <;> simp [hstrings]
  | _ => simp [JsonValue.getStrings]

theorem fromString_eq (library : JsonLibrary) (env : WrapperEnv)
    (uris : UriLibrary) (fuel : ℕ) (string : Text) :
    fromString library env uris fuel string =
      match library.parse string with
      | none => some .nullptr
      | some wantJson => readFromJson env uris fuel wantJson := by
  unfold fromString
  split_ifs with hempty
  · rw [hempty, library.parse_nil]
  · rfl

theorem Testable.exists_readFromJson {wantJson : JsonValue} (htest : Testable wantJson)
    (env : WrapperEnv) (uris : UriLibrary) {text : Text}
    (htext : wantJson.find "parameters".toList = some (.string text)) :
    ∃ want, readOperation env uris wantJson {} = some want ∧
      ∀ fuel, readFromJson env uris fuel wantJson =
        match parseWantParams env fuel text with
        | none => none
        | some (.params parameters) =>
            some (readEntities wantJson (want.setParams env parameters))
        | some _ => some .exception := by
  obtain ⟨want, hwant⟩ := htest.exists_readOperation env uris {}
  refine ⟨want, hwant, fun fuel => ?_⟩
  rw [ParamWant.readFromJson, if_pos (canReadFromJson_iff.mpr htest), hwant,
    stringAt_eq_some_iff.mpr htext]

/-- A document that passes the tests is read without an exception when
`ParseWantParams` returns and the entities are texts. -/
theorem readFromJson_total_iff {wantJson : JsonValue} (htest : Testable wantJson)
    (uris : UriLibrary) :
    (∀ env, ∃ fuel answer, readFromJson env uris fuel wantJson = some answer ∧
        answer ≠ .exception) ↔
      EntitiesReadable wantJson ∧ ParametersReadable wantJson := by
  obtain ⟨text, htext⟩ := htest.strings "parameters" (by simp)
  rw [stringAt_eq_some_iff] at htext
  have hparameters : ParametersReadable wantJson ↔
      ∀ env, Ends (fun fuel => parseWantParams env fuel text) := by
    simp only [ParametersReadable, htext, Option.some.injEq,
      JsonValue.string.injEq, forall_eq', parseWantParams_ends_iff]
  rw [hparameters]
  constructor
  · intro htotal
    have hends : ∀ env, ∃ want fuel, Returned (parseWantParams env fuel text) ∧
        readEntities wantJson want ≠ .exception := by
      intro env
      obtain ⟨want, _, hread⟩ := htest.exists_readFromJson env uris htext
      obtain ⟨fuel, answer, hanswer, hexception⟩ := htotal env
      rw [hread] at hanswer
      cases hparse : parseWantParams env fuel text with
      | none =>
          rw [hparse] at hanswer
          cases hanswer
      | some decoded =>
          rw [hparse] at hanswer
          cases decoded with
          | params parameters =>
              cases hanswer
              exact ⟨_, fuel, ⟨_, hparse, Decoded.noConfusion⟩, hexception⟩
          | null =>
              cases hanswer
              exact absurd rfl hexception
          | outOfRange =>
              cases hanswer
              exact absurd rfl hexception
    refine ⟨?_, fun env => ?_⟩
    · obtain ⟨want, _, _, hentities⟩ := hends ⟨⟨fun _ => [], fun _ _ => none,
        fun _ _ => false⟩, false, 0⟩
      exact (readEntities_ne_exception_iff htest want).mp hentities
    · obtain ⟨_, fuel, hreturned, _⟩ := hends env
      exact ⟨fuel, hreturned⟩
  · rintro ⟨hentities, hends⟩ env
    obtain ⟨want, _, hread⟩ := htest.exists_readFromJson env uris htext
    obtain ⟨fuel, hreturned⟩ := hends env
    obtain ⟨parameters, hparse⟩ := returned_parseWantParams hreturned
    refine ⟨fuel, readEntities wantJson (want.setParams env parameters), ?_,
      (readEntities_ne_exception_iff htest _).mpr hentities⟩
    rw [hread, hparse]

theorem total_iff (library : JsonLibrary) (uris : UriLibrary) (string : Text) :
    Total library uris string ↔
      ∀ wantJson, library.parse string = some wantJson →
        canReadFromJson wantJson = true →
          EntitiesReadable wantJson ∧ ParametersReadable wantJson := by
  unfold Total
  simp only [fromString_eq]
  cases hparse : library.parse string with
  | none => exact iff_of_true (fun env => ⟨0, .nullptr, rfl, nofun⟩) nofun
  | some wantJson =>
      simp only [Option.some.injEq, forall_eq']
      by_cases htest : canReadFromJson wantJson = true
      · rw [readFromJson_total_iff (canReadFromJson_iff.mp htest)]
        exact ⟨fun hand _ => hand, fun himp => himp htest⟩
      · refine iff_of_true (fun env => ⟨0, .nullptr, ?_, nofun⟩)
          (fun hcan => absurd hcan htest)
        rw [readFromJson, if_neg htest]

/-! ## Wants that are read back -/

structure Same (want result : ParamWant) : Prop where
  deviceId : result.operation.deviceId = want.operation.deviceId
  bundleName : result.operation.bundleName = want.operation.bundleName
  abilityName : result.operation.abilityName = want.operation.abilityName
  uri : result.operation.uri = want.operation.uri
  type : result.getType = want.getType
  flags : result.operation.flags = want.operation.flags
  action : result.operation.action = want.operation.action
  entities : result.operation.entities =
    WantLibrary.addEntities [] want.operation.entities
  parameters : result.parameters = want.parameters

def ReadsBack (library : JsonLibrary) (env : WrapperEnv) (uris : UriLibrary)
    (want : ParamWant) : Prop :=
  ∃ fuel result,
    fromString library env uris fuel (want.toText library env) =
      some (.want result) ∧ want.Same result

section ReadsBack

variable {library : JsonLibrary} {env : WrapperEnv} {uris : UriLibrary}
  {want : ParamWant}

theorem find_toJson {key : Text} {value : JsonValue}
    (hmem : (key, value) ∈ want.jsonMembers env) :
    (want.toJson env).find key = some value := by
  have hnodup : ((want.jsonMembers env).map Prod.fst).Nodup := by
    have hkeys : (want.jsonMembers env).map Prod.fst =
        ["deviceId", "bundleName", "abilityName", "uri", "type", "flags",
          "action", "parameters", "entities"].map String.toList := rfl
    rw [hkeys]
    decide
  rw [toJson, JsonValue.find, lookup_foldl_insert hnodup,
    lookup_of_mem_of_nodup hnodup hmem]
  rfl

theorem stringAt_toJson {key text : Text}
    (hmem : (key, .string text) ∈ want.jsonMembers env) :
    (want.toJson env).stringAt key = some text :=
  stringAt_eq_some_iff.mpr (find_toJson hmem)

theorem foldl_addEntity (entities : List Text) (want : ParamWant) :
    entities.foldl addEntity want =
      { want with
        operation := { want.operation with
          entities :=
            WantLibrary.addEntities want.operation.entities entities } } := by
  induction entities generalizing want with
  | nil => rfl
  | cons entity entities ih =>
      rw [List.foldl_cons, ih]
      rfl

theorem readEntities_of_find {wantJson : JsonValue} {entities : List Text}
    (hentities : wantJson.find "entities".toList = some (entitiesJson entities))
    (want : ParamWant) :
    readEntities wantJson want = .want (entities.foldl addEntity want) := by
  rw [readEntities, hentities, entitiesJson]
  by_cases hempty : entities = []
  · rw [if_pos hempty, hempty]
    rfl
  · have hstrings : (JsonValue.array (entities.map .string)).getStrings =
        some entities := JsonValue.getStrings_eq_some_iff.mpr rfl
    rw [if_neg hempty]
    dsimp only
    rw [hstrings]

def received (env : WrapperEnv) (want : ParamWant) (parameters : ParamMap) :
    ParamWant where
  operation := { want.operation with
    moduleName := []
    entities := WantLibrary.addEntities [] want.operation.entities }
  parameters := newParams env.charSigned parameters []

theorem same_received_iff {parameters : ParamMap} :
    want.Same (want.received env parameters) ↔
      newParams env.charSigned parameters [] = want.parameters := by
  constructor
  · exact Same.parameters
  · intro hsame
    refine ⟨rfl, rfl, rfl, rfl, ?_, rfl, rfl, rfl, hsame⟩
    rw [getType, getType, received, hsame]

theorem readFromJson_toJson (huri : uris.parse want.operation.uri =
      want.operation.uri) (fuel : ℕ) :
    readFromJson env uris fuel (want.toJson env) =
      match parseWantParams env fuel (toString env.library
          (newParams env.charSigned want.parameters [])) with
      | none => none
      | some (.params parameters) =>
          some (.want (want.received env parameters))
      | some _ => some .exception := by
  have hdevice : (want.toJson env).stringAt "deviceId".toList =
      some want.operation.deviceId := stringAt_toJson (by simp [jsonMembers])
  have hbundle : (want.toJson env).stringAt "bundleName".toList =
      some want.operation.bundleName := stringAt_toJson (by simp [jsonMembers])
  have hability : (want.toJson env).stringAt "abilityName".toList =
      some want.operation.abilityName := stringAt_toJson (by simp [jsonMembers])
  have huriText : (want.toJson env).stringAt "uri".toList =
      some want.operation.uri := stringAt_toJson (by simp [jsonMembers])
  have htype : (want.toJson env).stringAt "type".toList = some want.getType :=
    stringAt_toJson (by simp [jsonMembers])
  have haction : (want.toJson env).stringAt "action".toList =
      some want.operation.action := stringAt_toJson (by simp [jsonMembers])
  have hparameters : (want.toJson env).stringAt "parameters".toList =
      some (toString env.library
        (newParams env.charSigned want.parameters [])) :=
    stringAt_toJson (by simp [jsonMembers])
  have hflags : (want.toJson env).find "flags".toList =
      some (.numberUnsigned want.operation.flags.toUInt64) :=
    find_toJson (by simp [jsonMembers])
  have hentities : (want.toJson env).find "entities".toList =
      some (entitiesJson want.operation.entities) :=
    find_toJson (by simp [jsonMembers])
  have htest : Testable (want.toJson env) := by
    refine ⟨?_, ⟨_, hflags⟩, ⟨_, hentities⟩⟩
    intro key hkey
    simp only [List.mem_cons, List.not_mem_nil, or_false] at hkey
    rcases hkey with rfl | rfl | rfl | rfl | rfl | rfl | rfl
    · exact ⟨_, hdevice⟩
    · exact ⟨_, hbundle⟩
    · exact ⟨_, hability⟩
    · exact ⟨_, huriText⟩
    · exact ⟨_, htype⟩
    · exact ⟨_, haction⟩
    · exact ⟨_, hparameters⟩
  obtain ⟨read, hread, hresult⟩ := htest.exists_readFromJson env uris
    (stringAt_eq_some_iff.mp hparameters)
  rw [readOperation, hdevice, hbundle, hability, huriText, htype, haction,
    hflags] at hread
  have hoperation : read.operation =
      { want.operation with moduleName := [], entities := [] } := by
    rw [← Option.some.inj hread]
    simp [setElementName, setUri, setType, setFlags, setAction, huri]
  rw [hresult]
  cases parseWantParams env fuel (toString env.library
      (newParams env.charSigned want.parameters [])) with
  | none => rfl
  | some decoded =>
      cases decoded with
      | params parameters =>
          have hkept : (read.setParams env parameters).operation =
              { want.operation with moduleName := [], entities := [] } :=
            hoperation
          dsimp only
          rw [readEntities_of_find hentities, foldl_addEntity, hkept]
          rfl
      | null => rfl
      | outOfRange => rfl

theorem newParams_withoutNested_eq_iff {params : ParamMap}
    (hordered : (Interface.wantParams params).Every Interface.Ordered)
    (hdomain : (Interface.wantParams params).Every (TextNode env.library)) :
    newParams env.charSigned
        (params.map fun entry => (entry.1, withoutNested entry.2)) [] = params ↔
      ∀ entry ∈ params, ∀ nested, entry.2 ≠ .wantParams nested := by
  have hsorted := (Interface.every_wantParams.mp hordered).1
  have hmapSorted : Sorted (params.map fun entry =>
      (entry.1, withoutNested entry.2)) := by
    rw [Sorted, List.pairwise_map]
    exact hsorted
  constructor
  · intro hsame entry hentry nested hnested
    rw [← hsame, newParams_eq_convert hmapSorted] at hentry
    obtain ⟨value, hmem, hcopied⟩ := mem_convert.mp hentry
    obtain ⟨source, _, hsource⟩ := List.mem_map.mp hmem
    have hvalue : withoutNested source.2 = value := congrArg Prod.snd hsource
    rw [hnested, ← hvalue] at hcopied
    cases hsourceValue : source.2 with
    | wrapper object =>
        rw [hsourceValue] at hcopied
        cases object with
        | array array =>
            obtain ⟨_, _, hwrapper⟩ := Option.map_eq_some_iff.mp hcopied
            cases hwrapper
        | _ => cases hcopied
    | _ =>
        rw [hsourceValue] at hcopied
        cases hcopied
  · intro hflat
    rw [map_withoutNested_eq_self_iff.mpr hflat]
    exact newParams_eq_self hordered hdomain

theorem readsBack_iff_parseWantParams
    (huri : uris.parse want.operation.uri = want.operation.uri)
    (hkeeps : library.Keeps (want.toJson env)) :
    ReadsBack library env uris want ↔
      ∃ fuel parameters,
        parseWantParams env fuel (toString env.library
          (newParams env.charSigned want.parameters [])) =
            some (.params parameters) ∧
        newParams env.charSigned parameters [] = want.parameters := by
  have hkept : library.parse (want.toText library env) = some (want.toJson env) :=
    hkeeps
  unfold ReadsBack
  simp only [fromString_eq, hkept, readFromJson_toJson huri, ← same_received_iff]
  constructor
  · rintro ⟨fuel, result, hresult, hsame⟩
    refine ⟨fuel, ?_⟩
    cases hparse : parseWantParams env fuel (toString env.library
        (newParams env.charSigned want.parameters [])) with
    | none =>
        rw [hparse] at hresult
        cases hresult
    | some decoded =>
        rw [hparse] at hresult
        cases decoded with
        | params parameters =>
            cases hresult
            exact ⟨parameters, rfl, hsame⟩
        | null => cases hresult
        | outOfRange => cases hresult
  · rintro ⟨fuel, parameters, hparse, hsame⟩
    refine ⟨fuel, _, ?_, hsame⟩
    rw [hparse]

theorem readsBack_iff
    (hordered : (Interface.wantParams want.parameters).Every Interface.Ordered)
    (hdomain : (Interface.wantParams want.parameters).Every
      (TextNode env.library))
    (huri : uris.parse want.operation.uri = want.operation.uri)
    (hkeeps : library.Keeps (want.toJson env)) :
    ReadsBack library env uris want ↔
      want.parameters = [] ∨ (env.errno ≠ erange ∧
        ∀ entry ∈ want.parameters, ∀ nested, entry.2 ≠ .wantParams nested) := by
  rw [readsBack_iff_parseWantParams huri hkeeps, newParams_eq_self hordered hdomain]
  by_cases hsome : want.parameters = []
  · rw [hsome]
    exact iff_of_true ⟨0, [], parseWantParams_toString_nil env 0, rfl⟩ (.inl rfl)
  rw [or_iff_right hsome]
  constructor
  · rintro ⟨fuel, parameters, hparse, hsame⟩
    by_cases herrno : env.errno = erange
    · have hempty := (decode_erange herrno hdomain hsome).eq_of_parseWantParams
        hdomain hsome hparse
      rw [← Decoded.params.inj hempty] at hsame
      exact absurd hsame.symm hsome
    · have hdecoded := (decode_parseWantParams herrno hordered
        hdomain).eq_of_parseWantParams hdomain hsome hparse
      rw [← Decoded.params.inj hdecoded,
        newParams_withoutNested_eq_iff hordered hdomain] at hsame
      exact ⟨herrno, hsame⟩
  · rintro ⟨herrno, hflat⟩
    obtain ⟨fuel, hparse⟩ := parseWantParams_toString_of_flat herrno hordered
      hdomain hflat
    exact ⟨fuel, _, hparse, newParams_eq_self hordered hdomain⟩

end ReadsBack

/-- Which texts are read to an end without an exception, and which wants are read
back from what the writer made of them. -/
theorem wantJson_iff (library : JsonLibrary) (uris : UriLibrary) :
    (∀ string, Total library uris string ↔
      ∀ wantJson, library.parse string = some wantJson →
        canReadFromJson wantJson = true →
          EntitiesReadable wantJson ∧ ParametersReadable wantJson) ∧
    ∀ (env : WrapperEnv) (want : ParamWant),
      (Interface.wantParams want.parameters).Every Interface.Ordered →
      (Interface.wantParams want.parameters).Every (TextNode env.library) →
      uris.parse want.operation.uri = want.operation.uri →
      library.Keeps (want.toJson env) →
      (ReadsBack library env uris want ↔
        want.parameters = [] ∨ (env.errno ≠ erange ∧
          ∀ entry ∈ want.parameters, ∀ nested,
            entry.2 ≠ .wantParams nested)) :=
  ⟨total_iff library uris, fun _ _ hordered hdomain huri hkeeps =>
    readsBack_iff hordered hdomain huri hkeeps⟩

/-! ## Documents -/

section Sample

def printString (text : Text) : Text :=
  '"' :: (text.flatMap fun c =>
    if c = '"' ∨ c = '\\' then ['\\', c] else [c]) ++ ['"']

mutual
def printJson : JsonValue → Text
  | .null => "null".toList
  | .boolean value => if value then "true".toList else "false".toList
  | .numberInteger value => DecimalText.ofInt value.toInt
  | .numberUnsigned value => DecimalText.ofInt value.toNat
  | .numberFloat _ => []
  | .string text => printString text
  | .array items => "[".toList ++ printItems items ++ "]".toList
  | .object members => "\x7b".toList ++ printMembers members ++ "\x7d".toList

def printItems : List JsonValue → Text
  | [] => []
  | item :: items =>
      printJson item ++ (if items.isEmpty then [] else [',']) ++ printItems items

def printMembers : List (Text × JsonValue) → Text
  | [] => []
  | (key, value) :: members =>
      printString key ++ [':'] ++ printJson value ++
        (if members.isEmpty then [] else [',']) ++ printMembers members
end

def printedLibrary (known : JsonValue) : JsonLibrary where
  dump := printJson
  parse text := if text ≠ [] ∧ text = printJson known then some known else none
  parse_nil := if_neg fun hand => hand.1 rfl

theorem parse_printedLibrary {known : JsonValue} (hsome : printJson known ≠ []) :
    (printedLibrary known).parse (printJson known) = some known :=
  if_pos ⟨hsome, rfl⟩

def numberForEntities : JsonValue :=
  .object [("abilityName".toList, .string []), ("action".toList, .string []),
    ("bundleName".toList, .string []), ("deviceId".toList, .string []),
    ("entities".toList, .numberUnsigned 1),
    ("flags".toList, .numberUnsigned 0), ("parameters".toList, .string []),
    ("type".toList, .string []), ("uri".toList, .string [])]

/-- A number in the place of the entities is not expected. -/
theorem not_total_numberForEntities :
    ¬Total (printedLibrary numberForEntities) plainUris
      (printJson numberForEntities) := by
  intro htotal
  have hsome : printJson numberForEntities ≠ [] := List.cons_ne_nil _ _
  have hparse := parse_printedLibrary hsome
  obtain ⟨hentities, _⟩ := (total_iff _ _ _).mp htotal _ hparse (by decide)
  rcases hentities _ rfl with hnull | ⟨texts, htexts⟩
  · cases hnull
  · cases htexts

def sampleWant : ParamWant where
  operation := sampleOperation
  parameters := flatSource.params

theorem readsBack_sampleWant :
    ReadsBack (printedLibrary (sampleWant.toJson plainEnv)) plainEnv plainUris
      sampleWant := by
  have hkeeps : (printedLibrary (sampleWant.toJson plainEnv)).Keeps
      (sampleWant.toJson plainEnv) :=
    parse_printedLibrary (List.cons_ne_nil _ _)
  refine ((wantJson_iff _ plainUris).2 plainEnv sampleWant (by decide) (by decide)
    rfl hkeeps).mpr (.inr ⟨by decide, ?_⟩)
  intro entry hentry nested hnested
  simp only [sampleWant, flatSource, List.mem_cons, List.not_mem_nil, or_false]
    at hentry
  rcases hentry with rfl | rfl <;> cases hnested

end Sample

end ParamWant

end Dmsfwk
