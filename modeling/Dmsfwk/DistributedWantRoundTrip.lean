import Dmsfwk.ByteCodec
import Dmsfwk.DistributedWant

/-!
# Wants arrive at other devices

What the receiver of a want puts together.  The parcel carries every member of
the operation and the parameters, and it is read to its end.  Neither class has
a place for the module of the element, and the want of the system takes each
entity once.
-/

namespace Dmsfwk

open StreamCodec

/-! ## Sections of the parcel -/

/-- The parcel carries the members of a want: its strings survive the conversion
and what is written of it is read back. -/
structure WantParcels.Carries {Value : Type} (parcels : WantParcels Value)
    (want : WantMembers Value) : Prop where
  conversion : ∀ text ∈ want.operation.action :: want.operation.uri ::
      want.operation.bundleName :: want.operation.entities,
    parcels.str16ToStr8 (parcels.str8ToStr16 text) = text
  string : ∀ text ∈ [want.operation.action, want.operation.uri,
      want.operation.bundleName],
    Transfers (parcels.writeString16 (parcels.str8ToStr16 text))
      (fun data cursor => some (parcels.readString16 data cursor))
      (parcels.str8ToStr16 text)
  entities : Transfers
    (parcels.writeString16Vector
      (want.operation.entities.map parcels.str8ToStr16))
    parcels.readString16Vector
    (want.operation.entities.map parcels.str8ToStr16)
  flags : Transfers (parcels.writeUint32 want.operation.flags)
    parcels.readUint32 want.operation.flags
  mark : ∀ mark ∈ [valueNull, valueObject],
    Transfers (parcels.writeInt32 mark) parcels.readInt32 mark
  element : Transfers (parcels.writeElement want.getElement)
    parcels.readElement want.getElement
  params : Transfers (parcels.writeParams want.parameters) parcels.readParams
    want.parameters

namespace WantMembers

section Sections

variable {Value : Type} {parcels : WantParcels Value}
  {want start : WantMembers Value}

theorem transfers_text {text : Text}
    (hstring : Transfers (parcels.writeString16 (parcels.str8ToStr16 text))
      (fun data cursor => some (parcels.readString16 data cursor))
      (parcels.str8ToStr16 text))
    (hconversion : parcels.str16ToStr8 (parcels.str8ToStr16 text) = text) :
    Transfers (writeText parcels text) (readText parcels) text := by
  have hmap := hstring.map parcels.str16ToStr8
  rw [hconversion] at hmap
  exact hmap

section Carries

variable (hcarries : parcels.Carries want)

include hcarries

theorem transfers_marked {write : Writer} {absent : Prop} [Decidable absent]
    {read : Int32 → Reader (WantMembers Value)} {result : WantMembers Value}
    (habsent : absent → read valueNull = pure result)
    (hpresent : ¬ absent → Transfers write (read valueObject) result) :
    Transfers
      (if absent then parcels.writeInt32 valueNull
        else do
          parcels.writeInt32 valueObject
          write)
      (do
        let mark ← parcels.readInt32
        read mark) result := by
  by_cases hcase : absent
  · rw [if_pos hcase]
    have hnull := hcarries.mark valueNull (by simp)
    have hrest : Transfers (pure ()) (read valueNull) result := by
      rw [habsent hcase]
      exact Transfers.pure result
    simpa using hnull.bind hrest
  · rw [if_neg hcase]
    have hobject := hcarries.mark valueObject (by simp)
    exact hobject.bind (hpresent hcase)

theorem transfers_uri (hstart : start.operation.uri = []) :
    Transfers (marshallingWriteUri parcels want)
      (readUriFromParcel parcels start)
      { start with operation :=
          { start.operation with uri := want.operation.uri } } := by
  have htext : Transfers (writeText parcels want.operation.uri)
      (readText parcels) want.operation.uri :=
    transfers_text (hcarries.string _ (by simp))
      (hcarries.conversion _ (by simp))
  apply transfers_marked hcarries
  · intro hempty
    rw [List.isEmpty_iff.mp hempty, ← hstart]
    rfl
  · intro _
    exact htext.map _

theorem transfers_entities :
    Transfers (marshallingWriteEntities parcels want)
      (readEntitiesFromParcel parcels start)
      { start with operation :=
          { start.operation with entities := want.operation.entities } } := by
  have hback : (want.operation.entities.map parcels.str8ToStr16).map
      parcels.str16ToStr8 = want.operation.entities := by
    have hsame : ∀ text ∈ want.operation.entities,
        (parcels.str16ToStr8 ∘ parcels.str8ToStr16) text = text := by
      intro text htext
      exact hcarries.conversion text (by simp [htext])
    rw [List.map_map, List.map_congr_left hsame, List.map_id']
  apply transfers_marked hcarries
  · intro hempty
    rw [List.length_map, List.length_eq_zero_iff] at hempty
    rw [hempty]
    rfl
  · intro _
    have hread := hcarries.entities.map fun entityU16 =>
      { start with operation :=
          { start.operation with
              entities := entityU16.map parcels.str16ToStr8 } }
    rw [hback] at hread
    exact hread

theorem transfers_element (hstart : start.getElement = {}) :
    Transfers (marshallingWriteElement parcels want)
      (readElementFromParcel parcels start)
      (start.setElement want.getElement) := by
  apply transfers_marked hcarries
  · intro hempty
    rw [hempty, ← hstart]
    rfl
  · intro _
    exact hcarries.element.map start.setElement

theorem transfers_parameters (hstart : start.parameters = ∅) :
    Transfers (marshallingWriteParameters parcels want)
      (readParametersFromParcel parcels start)
      { start with parameters := want.parameters } := by
  apply transfers_marked hcarries
  · intro hempty
    rw [Std.ExtTreeMap.eq_empty_iff_size_eq_zero.mpr hempty, ← hstart]
    rfl
  · intro _
    exact hcarries.params.map _

theorem transfers_marshalling (hmodule : want.operation.moduleName = []) :
    Transfers (marshalling parcels want) (unmarshalling parcels) want := by
  have haction : Transfers (writeText parcels want.operation.action)
      (readText parcels) want.operation.action :=
    transfers_text (hcarries.string _ (by simp))
      (hcarries.conversion _ (by simp))
  have hbundle : Transfers (writeText parcels want.operation.bundleName)
      (readText parcels) want.operation.bundleName :=
    transfers_text (hcarries.string _ (by simp))
      (hcarries.conversion _ (by simp))
  refine haction.bind ?_
  refine (transfers_uri hcarries rfl).bind ?_
  refine (transfers_entities hcarries).bind ?_
  refine hcarries.flags.bind ?_
  refine (transfers_element hcarries rfl).bind ?_
  refine (transfers_parameters hcarries rfl).bind ?_
  have hread := hbundle.map fun bundleName =>
    { want with operation := { want.operation with bundleName } }
  obtain ⟨⟨_, _, _, _, moduleName, _, _, _⟩, _⟩ := want
  cases hmodule
  exact hread

end Carries

end Sections

end WantMembers

/-! ## The want of the system -/

structure WantView (Value : Type) where
  action : Text
  uri : Text
  entities : List Text
  flags : UInt32
  element : ElementName
  params : WantParams Value

namespace WantLibrary

variable {Want Value : Type}

def view (wants : WantLibrary Want Value) (want : Want) : WantView Value where
  action := wants.getAction want
  uri := wants.getUri want
  entities := wants.getEntities want
  flags := wants.getFlags want
  element := wants.getElement want
  params := wants.getParams want

/-- Each setter changes its own member: the bundle is a part of the element, the
type is a parameter, and an entity is added once. -/
structure Lawful (wants : WantLibrary Want Value)
    (values : ValueLibrary Value) : Prop where
  fresh : wants.getEntities wants.fresh = []
  setFlags : ∀ want flags, wants.view (wants.setFlags want flags) =
    { wants.view want with flags := flags }
  setElement : ∀ want element, wants.view (wants.setElement want element) =
    { wants.view want with element := element }
  setUri : ∀ want uri, wants.view (wants.setUri want uri) =
    { wants.view want with uri := uri }
  setAction : ∀ want action, wants.view (wants.setAction want action) =
    { wants.view want with action := action }
  setBundle : ∀ want bundleName,
    wants.view (wants.setBundle want bundleName) =
      { wants.view want with element :=
          { (wants.view want).element with bundleName := bundleName } }
  setType : ∀ want type, wants.view (wants.setType want type) =
    { wants.view want with params :=
        (wants.view want).params.insert mimeType (values.parseString type) }
  addEntity : ∀ want entity, wants.view (wants.addEntity want entity) =
    { wants.view want with entities :=
        if entity ∈ (wants.view want).entities then (wants.view want).entities
        else (wants.view want).entities ++ [entity] }
  setParams : ∀ want params, wants.view (wants.setParams want params) =
    { wants.view want with params := params }
  getType : ∀ want, wants.getType want =
    (((wants.view want).params[mimeType]?).bind values.queryString).getD []

variable {wants : WantLibrary Want Value} {values : ValueLibrary Value}

def addEntities (entities added : List Text) : List Text :=
  added.foldl (fun entities entity =>
    if entity ∈ entities then entities else entities ++ [entity]) entities

theorem Lawful.foldl_addEntity (hlawful : wants.Lawful values)
    (added : List Text) (want : Want) :
    wants.view (added.foldl wants.addEntity want) =
      { wants.view want with
          entities := addEntities (wants.view want).entities added } := by
  induction added generalizing want with
  | nil => rfl
  | cons entity added ih =>
      rw [List.foldl_cons, ih, hlawful.addEntity]
      rfl

theorem length_addEntities_le (added entities : List Text) :
    (addEntities entities added).length ≤ entities.length + added.length := by
  induction added generalizing entities with
  | nil => exact le_refl _
  | cons entity added ih =>
      have hrest := ih (if entity ∈ entities then entities
        else entities ++ [entity])
      have hfirst : (if entity ∈ entities then entities
          else entities ++ [entity]).length ≤ entities.length + 1 := by
        split_ifs
        · exact Nat.le_succ _
        · simp
      calc (addEntities entities (entity :: added)).length
          ≤ _ := hrest
        _ ≤ entities.length + 1 + added.length :=
            Nat.add_le_add_right hfirst _
        _ = entities.length + (entity :: added).length := by
            rw [List.length_cons, Nat.add_right_comm, Nat.add_assoc]

theorem addEntities_eq_iff {entities : List Text} (hnodup : entities.Nodup)
    (added : List Text) :
    addEntities entities added = entities ++ added ↔
      (entities ++ added).Nodup := by
  induction added generalizing entities with
  | nil => simpa [addEntities] using hnodup
  | cons entity added ih =>
      by_cases hmem : entity ∈ entities
      · have hskip : addEntities entities (entity :: added) =
            addEntities entities added := by
          rw [addEntities, List.foldl_cons, if_pos hmem]
          rfl
        rw [hskip]
        constructor
        · intro heq
          have hlength := length_addEntities_le added entities
          rw [heq, List.length_append, List.length_cons] at hlength
          omega
        · intro hall
          have hdisjoint := (List.nodup_append.mp hall).2.2
          exact absurd rfl
            (hdisjoint entity hmem entity List.mem_cons_self)
      · have hadd : addEntities entities (entity :: added) =
            addEntities (entities ++ [entity]) added := by
          rw [addEntities, List.foldl_cons, if_neg hmem]
          rfl
        have hnext : (entities ++ [entity]).Nodup := by
          rw [← List.concat_eq_append]
          exact hnodup.concat hmem
        rw [hadd, List.append_cons entities entity added]
        exact ih hnext

theorem Lawful.view_toWant (hlawful : wants.Lawful values)
    (members : WantMembers Value) (params : WantParams Value) :
    wants.view (members.toWant wants values params) =
      { action := members.operation.action
        uri := members.operation.uri
        entities := addEntities [] members.operation.entities
        flags := members.operation.flags
        element := members.getElement
        params := params } := by
  have hfresh : (wants.view wants.fresh).entities = [] := hlawful.fresh
  unfold WantMembers.toWant
  dsimp only
  rw [hlawful.setParams, hlawful.foldl_addEntity, hlawful.setType,
    hlawful.setBundle, hlawful.setAction, hlawful.setUri, hlawful.setElement,
    hlawful.setFlags]
  simp [hfresh, WantMembers.getElement]

end WantLibrary

/-! ## Arrival -/

section Arrival

variable {Want Value : Type} {wants : WantLibrary Want Value}
  {values : ValueLibrary Value} {parcels : WantParcels Value} {want : Want}

/-- The members which the sender made of the want are read from the end of
nothing to the end of the parcel, and what the receiver puts together shows the
want. -/
def Arrives (wants : WantLibrary Want Value) (parcels : WantParcels Value)
    (sent : WantMembers Value) (toWant : WantMembers Value → Want)
    (want : Want) : Prop :=
  ∃ parcel received,
    WantMembers.marshalling parcels sent [] = some ((), parcel) ∧
    WantMembers.unmarshalling parcels parcel 0 =
      some (received, parcel.length) ∧
    wants.view (toWant received) = wants.view want ∧
    wants.getType (toWant received) = wants.getType want

def DistributedWant.Arrives (wants : WantLibrary Want Value)
    (values : ValueLibrary Value) (parcels : WantParcels Value) (want : Want) :
    Prop :=
  Dmsfwk.Arrives wants parcels (ofWant wants values want)
    (toWant wants values) want

def DistributedWantV2.Arrives (wants : WantLibrary Want Value)
    (values : ValueLibrary Value) (parcels : WantParcels Value) (want : Want) :
    Prop :=
  Dmsfwk.Arrives wants parcels (ofWant wants want) (toWant wants values) want

/-- No module is named and no entity repeated. -/
def Restorable (wants : WantLibrary Want Value) (want : Want) : Prop :=
  (wants.getElement want).moduleName = [] ∧ (wants.getEntities want).Nodup

theorem arrives_iff (hlawful : wants.Lawful values) {sent : WantMembers Value}
    (hcarries : parcels.Carries sent)
    (hsent : sent.operation = WantMembers.operationOf wants want)
    (copyBack : WantParams Value → WantParams Value) :
    Arrives wants parcels sent
        (fun members => members.toWant wants values
          (copyBack members.parameters)) want ↔
      Restorable wants want ∧
        copyBack sent.parameters = wants.getParams want := by
  have hmodule : sent.operation.moduleName = [] := by
    rw [hsent]
    rfl
  obtain ⟨parcel, hwrite, hread⟩ :=
    (WantMembers.transfers_marshalling hcarries hmodule).arrives
  have hview := hlawful.view_toWant sent (copyBack sent.parameters)
  have hsame : wants.view (sent.toWant wants values
        (copyBack sent.parameters)) = wants.view want ↔
      Restorable wants want ∧
        copyBack sent.parameters = wants.getParams want := by
    have hentities := WantLibrary.addEntities_eq_iff List.nodup_nil
      (wants.getEntities want)
    rw [List.nil_append] at hentities
    rw [hview, hsent, WantLibrary.view, Restorable, ← hentities]
    simp only [WantView.mk.injEq, WantMembers.getElement,
      WantMembers.operationOf, hsent, true_and]
    rcases helement : wants.getElement want with ⟨_, _, _, moduleName⟩
    simp only [ElementName.mk.injEq, true_and, eq_comm (a := moduleName)]
    tauto
  rw [← hsame]
  constructor
  · rintro ⟨_, received, hwritten, hreceived, harrived, _⟩
    rw [hwrite] at hwritten
    cases hwritten
    rw [hread] at hreceived
    cases hreceived
    exact harrived
  · intro harrived
    refine ⟨parcel, sent, hwrite, hread, harrived, ?_⟩
    rw [hlawful.getType, hlawful.getType]
    exact congrArg (fun view : WantView Value =>
      ((view.params[mimeType]?).bind values.queryString).getD []) harrived

theorem toWantParams_eq (params : WantParams Value) :
    DistributedWant.toWantParams params = params := by
  have hcopy := OrderedMap.copy_eq_iff params fun _ => True
  simp only [if_true, implies_true, iff_true] at hcopy
  exact hcopy

/-- A want arrives through `DistributedWant` just when it names no module,
repeats no entity and each parameter has a type that is copied, and through
`DistributedWantV2` whatever its parameters are. -/
theorem wants_arrive_iff (hlawful : wants.Lawful values)
    (parcelsV2 : WantParcels Value)
    (hcarries : parcels.Carries (DistributedWant.ofWant wants values want))
    (hcarriesV2 : parcelsV2.Carries (DistributedWantV2.ofWant wants want)) :
    (DistributedWant.Arrives wants values parcels want ↔
      Restorable wants want ∧ ∀ entry ∈ (wants.getParams want).toList,
        values.dataType entry.2 ∈ DistributedWant.copiedTypes) ∧
    (DistributedWantV2.Arrives wants values parcelsV2 want ↔
      Restorable wants want) := by
  constructor
  · rw [← OrderedMap.copy_eq_iff (wants.getParams want) fun entry =>
      values.dataType entry.2 ∈ DistributedWant.copiedTypes]
    have hiff := arrives_iff hlawful hcarries rfl DistributedWant.toWantParams
    rw [toWantParams_eq] at hiff
    exact hiff
  · have hiff := arrives_iff hlawful hcarriesV2 rfl id
    exact hiff.trans (and_iff_left rfl)

end Arrival

/-! ## A want on the wire -/

section Sample

open ByteCodec

def appendImage {α : Type} (image : α → Bytes) (value : α) : Writer :=
  fun data => some ((), data ++ image value)

def readKnown {α : Type} (image : α → Bytes) (known : List α) : Reader α :=
  fun data cursor =>
    (known.find? fun value => (image value).isPrefixOf (data.drop cursor)).map
      fun value => (value, cursor + (image value).length)

theorem transfers_known {α : Type} {image : α → Bytes} {known : List α}
    {value : α} (hknown : value ∈ known)
    (hapart : ∀ other ∈ known, other = value ∨
      (¬ image other <+: image value ∧ ¬ image value <+: image other)) :
    Transfers (appendImage image value) (readKnown image known) value := by
  intro data
  refine ⟨image value, rfl, ?_⟩
  intro rest
  have hdrop : (data ++ image value ++ rest).drop data.length =
      image value ++ rest := by
    rw [List.append_assoc, List.drop_left]
  have hself : (image value).isPrefixOf (image value ++ rest) = true := by
    rw [List.isPrefixOf_iff_prefix]
    exact List.prefix_append _ _
  have hfind : known.find? (fun other =>
      (image other).isPrefixOf (image value ++ rest)) = some value := by
    have hsome : (known.find? fun other =>
        (image other).isPrefixOf (image value ++ rest)).isSome = true := by
      rw [List.find?_isSome]
      exact ⟨value, hknown, hself⟩
    obtain ⟨found, hfound⟩ := Option.isSome_iff_exists.mp hsome
    have hprefix := List.find?_some hfound
    rw [List.isPrefixOf_iff_prefix] at hprefix
    rcases hapart found (List.mem_of_find?_eq_some hfound) with rfl | ⟨hl, hr⟩
    · exact hfound
    · rcases List.prefix_or_prefix_of_prefix hprefix
        (List.prefix_append (image value) rest) with hle | hge
      · exact absurd hle hl
      · exact absurd hge hr
  change ((known.find? _).map _) = _
  rw [hdrop, hfind, List.length_append]
  rfl

theorem transfers_only {α : Type} (image : α → Bytes) (value : α) :
    Transfers (appendImage image value) (readKnown image [value]) value := by
  apply transfers_known (List.mem_singleton.mpr rfl)
  intro other hother
  exact .inl (List.mem_singleton.mp hother)

def string16Image (text : U16String) : Bytes :=
  leBytes 4 text.length ++ text.flatMap (fun unit => leBytes 2 unit.toNat) ++
    [0, 0] ++ if text.length % 2 = 0 then [0, 0] else []

def asciiToStr16 (text : Text) : U16String :=
  text.map fun char => char.toNat.toUInt16

def str16ToAscii (text : U16String) : Text :=
  text.map fun unit => Char.ofNat unit.toNat

def textImage (text : Text) : Bytes :=
  string16Image (asciiToStr16 text)

def elementImage (element : ElementName) : Bytes :=
  leBytes 4 1 ++ textImage element.bundleName ++
    textImage element.abilityName ++ textImage element.deviceId ++
    textImage element.moduleName

def paramsImage (params : WantParams Text) : Bytes :=
  leBytes 4 1 ++ leBytes 4 params.size ++ params.toList.flatMap fun entry =>
    textImage entry.1 ++ leBytes 4 9 ++ textImage entry.2

def sampleParams : WantParams Text :=
  (∅ : WantParams Text).insert "key".toList "value".toList

def sampleWant (moduleName : Text) : WantView Text where
  action := "action".toList
  uri := "uri".toList
  entities := ["home".toList, "video".toList]
  flags := 3
  element :=
    { deviceId := "peer".toList
      bundleName := "app".toList
      abilityName := "main".toList
      moduleName := moduleName }
  params := sampleParams

def stringValues : ValueLibrary Text where
  dataType _ := 9
  queryString value := some value
  parseString text := text

def plainWants : WantLibrary (WantView Text) Text where
  fresh :=
    { action := [], uri := [], entities := [], flags := 0, element := {}
      params := ∅ }
  getAction want := want.action
  getUri want := want.uri
  getEntities want := want.entities
  getFlags want := want.flags
  getElement want := want.element
  getType want := (want.params[mimeType]?).getD []
  getParams want := want.params
  setFlags want flags := { want with flags := flags }
  setElement want element := { want with element := element }
  setUri want uri := { want with uri := uri }
  setAction want action := { want with action := action }
  setBundle want bundleName :=
    { want with element := { want.element with bundleName := bundleName } }
  setType want type := { want with params := want.params.insert mimeType type }
  addEntity want entity := { want with entities :=
    if entity ∈ want.entities then want.entities
    else want.entities ++ [entity] }
  setParams want params := { want with params := params }

theorem lawful_plainWants : plainWants.Lawful stringValues where
  fresh := rfl
  setFlags _ _ := rfl
  setElement _ _ := rfl
  setUri _ _ := rfl
  setAction _ _ := rfl
  setBundle _ _ := rfl
  setType _ _ := rfl
  addEntity _ _ := rfl
  setParams _ _ := rfl
  getType want := by
    change (want.params[mimeType]?).getD [] =
      ((want.params[mimeType]?).bind some).getD []
    rw [Option.bind_fun_some]

def sampleStrings : List Text :=
  ["action".toList, "uri".toList, "app".toList]

def sampleMembers : WantMembers Text :=
  DistributedWantV2.ofWant plainWants (sampleWant [])

def markImage (value : Int32) : Bytes :=
  leBytes 4 value.toUInt32.toNat

def flagsImage (flags : UInt32) : Bytes :=
  leBytes 4 flags.toNat

def string16VectorImage (texts : List U16String) : Bytes :=
  leBytes 4 texts.length ++ texts.flatMap string16Image

def sampleParcels : WantParcels Text where
  str8ToStr16 := asciiToStr16
  str16ToStr8 := str16ToAscii
  writeInt32 := appendImage markImage
  readInt32 := readKnown markImage [valueNull, valueObject]
  writeUint32 := appendImage flagsImage
  readUint32 := readKnown flagsImage [sampleMembers.operation.flags]
  writeString16 := appendImage string16Image
  readString16 data cursor :=
    (readKnown string16Image (sampleStrings.map asciiToStr16) data
      cursor).getD ([], cursor)
  writeString16Vector := appendImage string16VectorImage
  readString16Vector := readKnown string16VectorImage
    [sampleMembers.operation.entities.map asciiToStr16]
  writeElement := appendImage elementImage
  readElement := readKnown elementImage [sampleMembers.getElement]
  writeParams := appendImage paramsImage
  readParams := readKnown paramsImage [sampleParams]

theorem transfers_sampleString {text : Text} (htext : text ∈ sampleStrings) :
    Transfers (sampleParcels.writeString16 (asciiToStr16 text))
      (fun data cursor => some (sampleParcels.readString16 data cursor))
      (asciiToStr16 text) := by
  have hapart : ∀ text ∈ sampleStrings,
      ∀ other ∈ sampleStrings.map asciiToStr16, other = asciiToStr16 text ∨
        (¬ string16Image other <+: string16Image (asciiToStr16 text) ∧
          ¬ string16Image (asciiToStr16 text) <+: string16Image other) := by
    decide
  have hread := transfers_known (List.mem_map_of_mem htext) (hapart text htext)
  intro data
  obtain ⟨image, hwrite, hread⟩ := hread data
  refine ⟨image, hwrite, ?_⟩
  intro rest
  change some ((readKnown _ _ _ _).getD _) = _
  rw [hread, Option.getD_some]

theorem carries_sampleMembers : sampleParcels.Carries sampleMembers where
  conversion := by decide
  string _ htext := transfers_sampleString htext
  entities := transfers_only _ _
  flags := transfers_only _ _
  mark mark hmark := by
    have hapart : ∀ mark ∈ [valueNull, valueObject],
        ∀ other ∈ [valueNull, valueObject], other = mark ∨
          (¬ markImage other <+: markImage mark ∧
            ¬ markImage mark <+: markImage other) := by
      -- one by one: the type of marks is finite, but too large to go through
      intro mark hmark other hother
      rcases List.mem_pair.mp hmark with rfl | rfl <;>
        rcases List.mem_pair.mp hother with rfl | rfl <;> decide
    exact transfers_known hmark (hapart mark hmark)
  element := transfers_only _ _
  params := transfers_only _ _

theorem dataType_stringValues (value : Text) :
    stringValues.dataType value ∈ DistributedWant.copiedTypes := by
  change 9 ∈ DistributedWant.copiedTypes
  decide

theorem ofWant_sampleWant (moduleName : Text) :
    DistributedWant.ofWant plainWants stringValues (sampleWant moduleName) =
      sampleMembers := by
  have hcopy : (DistributedWant.ofWant plainWants stringValues
      (sampleWant moduleName)).parameters = sampleParams := by
    apply (OrderedMap.copy_eq_iff _ _).mpr
    intro entry _
    exact dataType_stringValues entry.2
  exact congrArg (WantMembers.mk sampleMembers.operation) hcopy

theorem carries_sampleWant (moduleName : Text) :
    sampleParcels.Carries
        (DistributedWant.ofWant plainWants stringValues
          (sampleWant moduleName)) ∧
      sampleParcels.Carries
        (DistributedWantV2.ofWant plainWants (sampleWant moduleName)) := by
  rw [ofWant_sampleWant]
  exact ⟨carries_sampleMembers, carries_sampleMembers⟩

theorem wants_arrive_sample :
    DistributedWant.Arrives plainWants stringValues sampleParcels
        (sampleWant []) ∧
      DistributedWantV2.Arrives plainWants stringValues sampleParcels
        (sampleWant []) := by
  have hcarries := carries_sampleWant []
  have hiff := wants_arrive_iff lawful_plainWants sampleParcels hcarries.1
    hcarries.2
  have hrestorable : Restorable plainWants (sampleWant []) := by
    constructor
    · rfl
    · decide
  constructor
  · apply hiff.1.mpr
    constructor
    · exact hrestorable
    · intro entry _
      exact dataType_stringValues entry.2
  · exact hiff.2.mpr hrestorable

/-- The module is lost, although the parcel carries all that is written. -/
theorem not_arrives_namedModule :
    plainWants.Lawful stringValues ∧
      sampleParcels.Carries (DistributedWant.ofWant plainWants stringValues
        (sampleWant "entry".toList)) ∧
      sampleParcels.Carries (DistributedWantV2.ofWant plainWants
        (sampleWant "entry".toList)) ∧
      ¬ DistributedWant.Arrives plainWants stringValues sampleParcels
        (sampleWant "entry".toList) ∧
      ¬ DistributedWantV2.Arrives plainWants stringValues sampleParcels
        (sampleWant "entry".toList) := by
  have hcarries := carries_sampleWant "entry".toList
  have hlost : ¬ Restorable plainWants (sampleWant "entry".toList) := by
    intro hrestorable
    exact absurd hrestorable.1 (by decide)
  refine ⟨lawful_plainWants, hcarries.1, hcarries.2, ?_, ?_⟩
  · intro harrives
    have hiff := arrives_iff lawful_plainWants hcarries.1 rfl
      DistributedWant.toWantParams
    exact hlost (hiff.mp harrives).1
  · intro harrives
    have hiff := arrives_iff lawful_plainWants hcarries.2 rfl id
    exact hlost (hiff.mp harrives).1

end Sample

end Dmsfwk
