import Dmsfwk.DecimalText
import Dmsfwk.NlohmannJson
import Mathlib.Data.Prod.Lex

/-!
# The DMS version of a peer

The device profile of a peer lists its packages and their versions in two texts.
Each text is split by itself, and what is empty is dropped, so the lists are only
aligned when as many names as versions are left in front of the DMS package.
-/

namespace Dmsfwk
namespace DmsVersionManager

open CJson Nlohmann

abbrev Text := List Char

def ERR_OK : Int32 := 0

def DMS_VERSION_EMPTY : Int32 := 29360217

def DMS_VERSION_PARSE_EXCEPTION : Int32 := 29360218

def DMS_NAME : Text := "dmsfwk".toList

def PACKAGE_NAMES : String := "packageNames"

def VERSIONS : String := "versions"

@[ext] structure DmsVersion where
  majorVersionNum : UInt32 := 0
  minorVersionNum : UInt32 := 0
  featureVersionNum : UInt32 := 0
deriving DecidableEq

def kept (items : List Text) : List Text :=
  items.filter fun item => item ≠ []

def splitStr (sep : Char) (text : Text) : List Text :=
  kept (text.splitOn sep)

/-- `none` is an exception. -/
def parseAppInfo (library : NlohmannJson) (appInfoJsonData : Text) :
    Option (Except Int32 (Text × Text)) :=
  if appInfoJsonData = [] then some (.error DMS_VERSION_EMPTY)
  else
    match library.parse (cStr appInfoJsonData) with
    | none => some (.error DMS_VERSION_EMPTY)
    | some appInfoJson =>
        let member (key : String) := appInfoJson.getObjectItemCaseSensitive key
        if memberIf Json.isString PACKAGE_NAMES appInfoJson = none then
          some (.error DMS_VERSION_EMPTY)
        else do
          let packageNamesData ← (← member PACKAGE_NAMES).valuestring
          if memberIf Json.isString VERSIONS appInfoJson = none then
            return .error DMS_VERSION_EMPTY
          let versionsData ← (← member VERSIONS).valuestring
          return .ok (packageNamesData, versionsData)

/-- The loop over the names; `none` is an index outside the versions. -/
def versionOf (versionsList : List Text) (i : ℕ) :
    List Text → Option (Except Int32 Text)
  | [] => some (.error DMS_VERSION_EMPTY)
  | packageName :: packageNameList =>
      if packageName = DMS_NAME then versionsList[i]?.map .ok
      else versionOf versionsList (i + 1) packageNameList

def getDmsVersionDataFromAppInfo (packageNamesData versionsData : Text) :
    Option (Except Int32 Text) :=
  if packageNamesData = [] ∨ versionsData = [] then
    some (.error DMS_VERSION_EMPTY)
  else if (splitStr ',' packageNamesData).length ≠
      (splitStr ',' versionsData).length then
    some (.error DMS_VERSION_PARSE_EXCEPTION)
  else versionOf (splitStr ',' versionsData) 0 (splitStr ',' packageNamesData)

section StrToInt

-- `StrToInt` of c_utils, which says whether a text is a number
variable (strToInt : Text → Option Int32)

def versionNum (text : Text) : Option UInt32 :=
  (strToInt text).bind fun num => if num < 0 then none else some num.toUInt32

def parseDmsVersion (dmsVersionData : Text) (dmsVersion : DmsVersion) :
    Bool × DmsVersion :=
  match splitStr '.' dmsVersionData with
  | [major, minor, feature] =>
      match versionNum strToInt major with
      | none => (false, dmsVersion)
      | some majorVersionNum =>
          let dmsVersion := { dmsVersion with majorVersionNum }
          match versionNum strToInt minor with
          | none => (false, dmsVersion)
          | some minorVersionNum =>
              let dmsVersion := { dmsVersion with minorVersionNum }
              match versionNum strToInt feature with
              | none => (false, dmsVersion)
              | some featureVersionNum =>
                  (true, { dmsVersion with featureVersionNum })
  | _ => (false, dmsVersion)

/-- The first argument is what `GetAppInfoFromDP` gives. -/
def getRemoteDmsVersion (library : NlohmannJson) (appInfo : Int32 × Text)
    (dmsVersion : DmsVersion) : Option (Int32 × DmsVersion) :=
  if appInfo.1 ≠ ERR_OK then some (appInfo.1, dmsVersion)
  else do
    match ← parseAppInfo library appInfo.2 with
    | .error result => return (result, dmsVersion)
    | .ok (packageNamesData, versionsData) =>
        match ← getDmsVersionDataFromAppInfo packageNamesData versionsData with
        | .error result => return (result, dmsVersion)
        | .ok dmsVersionData =>
            match parseDmsVersion strToInt dmsVersionData dmsVersion with
            | (false, dmsVersion) =>
                return (DMS_VERSION_PARSE_EXCEPTION, dmsVersion)
            | (true, dmsVersion) => return (ERR_OK, dmsVersion)

def compareDmsVersion (dmsVersion thresholdDmsVersion : DmsVersion) : Bool :=
  if dmsVersion.majorVersionNum < thresholdDmsVersion.majorVersionNum then true
  else if dmsVersion.majorVersionNum = thresholdDmsVersion.majorVersionNum ∧
      dmsVersion.minorVersionNum < thresholdDmsVersion.minorVersionNum then true
  else if dmsVersion.majorVersionNum = thresholdDmsVersion.majorVersionNum ∧
      dmsVersion.minorVersionNum = thresholdDmsVersion.minorVersionNum ∧
      dmsVersion.featureVersionNum < thresholdDmsVersion.featureVersionNum then
    true
  else false

def isRemoteDmsVersionLower (library : NlohmannJson) (appInfo : Int32 × Text)
    (thresholdDmsVersion : DmsVersion) : Option Bool := do
  let (result, dmsVersion) ← getRemoteDmsVersion strToInt library appInfo {}
  if result ≠ ERR_OK then return false
  return compareDmsVersion dmsVersion thresholdDmsVersion

end StrToInt

/-! ## The order of the versions -/

def DmsVersion.numbers (version : DmsVersion) : UInt32 ×ₗ UInt32 ×ₗ UInt32 :=
  toLex (version.majorVersionNum,
    toLex (version.minorVersionNum, version.featureVersionNum))

theorem compareDmsVersion_iff (version threshold : DmsVersion) :
    compareDmsVersion version threshold = true ↔
      version.numbers < threshold.numbers := by
  unfold compareDmsVersion DmsVersion.numbers
  rw [Prod.Lex.toLex_lt_toLex, Prod.Lex.toLex_lt_toLex]
  split_ifs <;> simp_all

/-! ## What the parse finds -/

def Lists (library : NlohmannJson) (appInfoJsonData names versions : Text) :
    Prop :=
  ∃ json, library.parse (cStr appInfoJsonData) = some json ∧
    json.getObjectItemCaseSensitive PACKAGE_NAMES = some (.string names) ∧
    json.getObjectItemCaseSensitive VERSIONS = some (.string versions)

def ItemOf (names versions item : Text) : Prop :=
  (splitStr ',' names).length = (splitStr ',' versions).length ∧
    DMS_NAME ∈ splitStr ',' names ∧
    (splitStr ',' versions)[(splitStr ',' names).idxOf DMS_NAME]? = some item

def VersionItem (library : NlohmannJson) (appInfoJsonData item : Text) : Prop :=
  ∃ names versions, Lists library appInfoJsonData names versions ∧
    ItemOf names versions item

variable {library : NlohmannJson}

theorem Lists.unique {appInfoJsonData names versions names' versions' : Text}
    (hlists : Lists library appInfoJsonData names versions)
    (hother : Lists library appInfoJsonData names' versions') :
    names = names' ∧ versions = versions' := by
  obtain ⟨json, hjson, hnames, hversions⟩ := hlists
  obtain ⟨json', hjson', hnames', hversions'⟩ := hother
  obtain rfl := Option.some.inj (hjson.symm.trans hjson')
  exact ⟨Json.string.inj (Option.some.inj (hnames.symm.trans hnames')),
    Json.string.inj (Option.some.inj (hversions.symm.trans hversions'))⟩

theorem versionItem_iff {appInfoJsonData names versions : Text}
    (hlists : Lists library appInfoJsonData names versions) (item : Text) :
    VersionItem library appInfoJsonData item ↔ ItemOf names versions item := by
  constructor
  · rintro ⟨names', versions', hother, hitem⟩
    obtain ⟨rfl, rfl⟩ := hlists.unique hother
    exact hitem
  · exact fun hitem => ⟨names, versions, hlists, hitem⟩

theorem VersionItem.unique {appInfoJsonData item other : Text}
    (hitem : VersionItem library appInfoJsonData item)
    (hother : VersionItem library appInfoJsonData other) : item = other := by
  obtain ⟨names, versions, hlists, -, -, hfound⟩ := hitem
  obtain ⟨-, -, hfound'⟩ := (versionItem_iff hlists other).mp hother
  exact Option.some.inj (hfound.symm.trans hfound')

theorem versionOf_eq (versionsList : List Text) (i : ℕ) (names : List Text) :
    versionOf versionsList i names =
      if DMS_NAME ∈ names then
        versionsList[i + names.idxOf DMS_NAME]?.map .ok
      else some (.error DMS_VERSION_EMPTY) := by
  induction names generalizing i with
  | nil => rfl
  | cons name names ih =>
      rw [versionOf, List.idxOf_cons, ih]
      by_cases hname : name = DMS_NAME
      · simp [hname]
      · have hne : (name == DMS_NAME) = false := beq_false_of_ne hname
        simp [hname, Ne.symm hname, hne, Nat.add_assoc, Nat.add_comm 1]

theorem getDmsVersionDataFromAppInfo_cases (names versions : Text) :
    (∃ item, ItemOf names versions item ∧
      getDmsVersionDataFromAppInfo names versions = some (.ok item)) ∨
    (∃ result ≠ ERR_OK, (∀ item, ¬ ItemOf names versions item) ∧
      getDmsVersionDataFromAppInfo names versions = some (.error result)) := by
  unfold getDmsVersionDataFromAppInfo
  split_ifs with hempty hlength
  · refine .inr ⟨_, by decide, ?_, rfl⟩
    rintro item ⟨-, hmem, hitem⟩
    rcases hempty with rfl | rfl
    · cases hmem
    · cases hitem
  · exact .inr ⟨_, by decide, fun item hitem => hlength hitem.1, rfl⟩
  · rw [versionOf_eq, Nat.zero_add]
    split_ifs with hmem
    · have hlt := List.idxOf_lt_length_of_mem hmem
      rw [not_not.mp hlength] at hlt
      have hfound := List.getElem?_eq_getElem hlt
      refine .inl ⟨_, ⟨not_not.mp hlength, hmem, hfound⟩, ?_⟩
      rw [hfound]
      rfl
    · exact .inr ⟨_, by decide, fun item hitem => hmem hitem.2.1, rfl⟩

theorem memberIf_isString (json : Json) (key : String) :
    memberIf Json.isString key json = none ∧
        (∀ text, json.getObjectItemCaseSensitive key ≠ some (.string text)) ∨
      ∃ text, json.getObjectItemCaseSensitive key = some (.string text) ∧
        memberIf Json.isString key json = some (.string text) := by
  unfold memberIf
  cases json.getObjectItemCaseSensitive key with
  | none => simp
  | some value => cases value <;> simp [Json.isString]

theorem parseAppInfo_cases (library : NlohmannJson) (appInfoJsonData : Text) :
    (∃ names versions, Lists library appInfoJsonData names versions ∧
      parseAppInfo library appInfoJsonData = some (.ok (names, versions))) ∨
    (∀ names versions, ¬ Lists library appInfoJsonData names versions) ∧
      parseAppInfo library appInfoJsonData =
        some (.error DMS_VERSION_EMPTY) := by
  unfold parseAppInfo
  split_ifs with hempty
  · refine .inr ⟨?_, rfl⟩
    rintro names versions ⟨json, hjson, -⟩
    rw [hempty, cStr, List.takeWhile_nil, library.parse_nil] at hjson
    cases hjson
  cases hjson : library.parse (cStr appInfoJsonData) with
  | none =>
      refine .inr ⟨?_, rfl⟩
      rintro names versions ⟨json, hparsed, -⟩
      rw [hjson] at hparsed
      cases hparsed
  | some json =>
      rcases memberIf_isString json PACKAGE_NAMES with
        ⟨hnone, hnames⟩ | ⟨names, hnames, hfound⟩
      · refine .inr ⟨?_, if_pos hnone⟩
        rintro names versions ⟨other, hparsed, hmember, -⟩
        obtain rfl := Option.some.inj (hjson.symm.trans hparsed)
        exact hnames names hmember
      rcases memberIf_isString json VERSIONS with
        ⟨hnone, hversions⟩ | ⟨versions, hversions, hother⟩
      · refine .inr ⟨?_, by simp [hfound, hnames, hnone, Json.valuestring]⟩
        rintro names versions ⟨other, hparsed, -, hmember⟩
        obtain rfl := Option.some.inj (hjson.symm.trans hparsed)
        exact hversions versions hmember
      · refine .inl ⟨names, versions, ⟨json, hjson, hnames, hversions⟩, ?_⟩
        simp [hfound, hother, hnames, hversions, Json.valuestring]

section StrToInt

variable (strToInt : Text → Option Int32)

/-- A request goes on to `ParseDmsVersion` with the item that is found, and
fails with the caller's version as it was when there is none. -/
theorem getRemoteDmsVersion_cases (library : NlohmannJson)
    (appInfo : Int32 × Text) :
    (∃ item, appInfo.1 = ERR_OK ∧ VersionItem library appInfo.2 item ∧
      ∀ caller, getRemoteDmsVersion strToInt library appInfo caller =
        some (if (parseDmsVersion strToInt item caller).1 then ERR_OK
          else DMS_VERSION_PARSE_EXCEPTION,
          (parseDmsVersion strToInt item caller).2)) ∨
    ((appInfo.1 = ERR_OK → ∀ item, ¬ VersionItem library appInfo.2 item) ∧
      ∃ result ≠ ERR_OK, ∀ caller,
        getRemoteDmsVersion strToInt library appInfo caller =
          some (result, caller)) := by
  unfold getRemoteDmsVersion
  by_cases hanswer : appInfo.1 = ERR_OK
  · obtain ⟨names, versions, hlists, hparse⟩ | ⟨hnone, hparse⟩ :=
      parseAppInfo_cases library appInfo.2
    · obtain ⟨item, hitem, hread⟩ | ⟨result, hresult, hnone, hread⟩ :=
        getDmsVersionDataFromAppInfo_cases names versions
      · refine .inl ⟨item, hanswer, (versionItem_iff hlists item).mpr hitem,
          fun caller => ?_⟩
        simp only [hanswer, hparse, hread, ne_eq, not_true_eq_false, if_false,
          Option.bind_eq_bind, Option.bind_some]
        rcases parseDmsVersion strToInt item caller with ⟨_ | _, left⟩
        · rfl
        · rfl
      · refine .inr ⟨fun _ item hitem => ?_, result, hresult, fun caller => ?_⟩
        · exact hnone item ((versionItem_iff hlists item).mp hitem)
        · simp [hanswer, hparse, hread]
    · refine .inr ⟨?_, DMS_VERSION_EMPTY, by decide, fun caller => ?_⟩
      · rintro - item ⟨names, versions, hlists, -⟩
        exact hnone names versions hlists
      · simp [hanswer, hparse]
  · exact .inr ⟨fun h => absurd h hanswer, appInfo.1, hanswer, fun caller =>
      if_pos hanswer⟩

/-! ## Three numbers -/

def Reads (item : Text) (version : DmsVersion) : Prop :=
  ∃ major minor feature, splitStr '.' item = [major, minor, feature] ∧
    versionNum strToInt major = some version.majorVersionNum ∧
    versionNum strToInt minor = some version.minorVersionNum ∧
    versionNum strToInt feature = some version.featureVersionNum

/-- The item has three parts; the first is a number, and one of the others is
none. -/
def HalfReads (item : Text) : Prop :=
  ∃ major minor feature, splitStr '.' item = [major, minor, feature] ∧
    (versionNum strToInt major).isSome ∧
    (versionNum strToInt minor = none ∨ versionNum strToInt feature = none)

theorem parseDmsVersion_iff_reads (item : Text) (caller version : DmsVersion) :
    parseDmsVersion strToInt item caller = (true, version) ↔
      Reads strToInt item version := by
  unfold parseDmsVersion Reads
  split
  · next major minor feature hparts =>
      rw [hparts]
      cases hmajor : versionNum strToInt major <;>
        cases hminor : versionNum strToInt minor <;>
          cases hfeature : versionNum strToInt feature <;>
            simp_all [DmsVersion.ext_iff]
  · next hparts =>
      refine iff_of_false nofun ?_
      rintro ⟨major, minor, feature, hthree, -⟩
      exact hparts major minor feature hthree

theorem parseDmsVersion_keeps_iff (item : Text) :
    (∀ caller, (parseDmsVersion strToInt item caller).1 = false →
        (parseDmsVersion strToInt item caller).2 = caller) ↔
      ¬ HalfReads strToInt item := by
  unfold parseDmsVersion HalfReads
  split
  · next major minor feature hparts =>
      rw [hparts]
      cases hmajor : versionNum strToInt major with
      | none => simp_all
      | some number =>
          have hchanged : number + 1 ≠ number := by
            rw [ne_eq, ← UInt32.toNat_inj, UInt32.toNat_add]
            have hlt := number.toNat_lt
            change ¬ (number.toNat + 1) % 2 ^ 32 = number.toNat
            omega
          cases hminor : versionNum strToInt minor with
          | none =>
              refine iff_of_false (fun hall => ?_) (by simp_all)
              have hkept := hall { majorVersionNum := number + 1 } rfl
              exact hchanged (congrArg DmsVersion.majorVersionNum hkept).symm
          | some second =>
              cases hfeature : versionNum strToInt feature with
              | none =>
                  refine iff_of_false (fun hall => ?_) (by simp_all)
                  have hkept := hall { majorVersionNum := number + 1 } rfl
                  exact hchanged (congrArg DmsVersion.majorVersionNum hkept).symm
              | some third => simp_all
  · next hparts =>
      refine iff_of_true (fun _ _ => rfl) ?_
      rintro ⟨major, minor, feature, hthree, -⟩
      exact hparts major minor feature hthree

end StrToInt

/-! ## The lists of a peer -/

structure Numeral where
  text : Text
  ne_nil : text ≠ []
  isDigit : ∀ c ∈ text, c.isDigit = true
  lt : DecimalText.ofDigits text < 2 ^ 31

def Numeral.value (numeral : Numeral) : UInt32 :=
  .ofNat (DecimalText.ofDigits numeral.text)

/-- A name and a version for each package, the first DMS among them. -/
structure PeerItems where
  front : List (Text × Text)
  major : Numeral
  minor : Numeral
  feature : Numeral
  back : List (Text × Text)
  first : ∀ item ∈ front, item.1 ≠ DMS_NAME
  no_comma : ∀ item ∈ front ++ back, ',' ∉ item.1 ∧ ',' ∉ item.2

namespace PeerItems

variable (items : PeerItems)

def version : DmsVersion :=
  ⟨items.major.value, items.minor.value, items.feature.value⟩

def versionData : Text :=
  ['.'].intercalate [items.major.text, items.minor.text, items.feature.text]

def names : List Text :=
  items.front.map Prod.fst ++ DMS_NAME :: items.back.map Prod.fst

def versions : List Text :=
  items.front.map Prod.snd ++ items.versionData :: items.back.map Prod.snd

/-- As many names as versions are left, and the version that is left where DMS
is left among the names has the numbers of its own. -/
def Aligned (strToInt : Text → Option Int32) : Prop :=
  (kept items.names).length = (kept items.versions).length ∧
    ∃ item, (kept items.versions)[(kept (items.front.map Prod.fst)).length]? =
        some item ∧
      Reads strToInt item items.version

theorem comma_not_mem_versionData : ',' ∉ items.versionData := by
  have hdigits : ∀ numeral : Numeral, ',' ∉ numeral.text := fun numeral hmem =>
    absurd (numeral.isDigit ',' hmem) (by decide)
  simp [versionData, List.intercalate, hdigits]

theorem splitStr_intercalate {f : Text × Text → Text} {own : Text}
    (hcomma : ∀ item ∈ items.front ++ items.back, ',' ∉ f item)
    (hown : ',' ∉ own) :
    splitStr ',' ([','].intercalate
        (items.front.map f ++ own :: items.back.map f)) =
      kept (items.front.map f ++ own :: items.back.map f) := by
  unfold splitStr
  rw [List.splitOn_intercalate]
  · intro text hmem
    rcases List.mem_append.mp hmem with hfront | hmem
    · obtain ⟨item, hitem, rfl⟩ := List.mem_map.mp hfront
      exact hcomma item (List.mem_append_left _ hitem)
    · rcases List.mem_cons.mp hmem with rfl | hback
      · exact hown
      · obtain ⟨item, hitem, rfl⟩ := List.mem_map.mp hback
        exact hcomma item (List.mem_append_right _ hitem)
  · exact List.append_ne_nil_of_right_ne_nil _ (List.cons_ne_nil _ _)

theorem kept_append_cons {own : Text} (hown : own ≠ []) (front back : List Text) :
    kept (front ++ own :: back) = kept front ++ own :: kept back := by
  rw [kept, List.filter_append, List.filter_cons_of_pos (by simpa using hown)]
  rfl

theorem idxOf_kept_names :
    DMS_NAME ∈ kept items.names ∧ (kept items.names).idxOf DMS_NAME =
      (kept (items.front.map Prod.fst)).length := by
  have hfront : DMS_NAME ∉ kept (items.front.map Prod.fst) := by
    intro hmem
    obtain ⟨item, hitem, hname⟩ := List.mem_map.mp (List.mem_filter.mp hmem).1
    exact items.first item hitem hname
  rw [names, kept_append_cons (by decide), List.idxOf_append_of_notMem hfront,
    List.idxOf_cons_self]
  exact ⟨List.mem_append_right _ List.mem_cons_self, rfl⟩

theorem itemOf_iff (item : Text) :
    ItemOf ([','].intercalate items.names) ([','].intercalate items.versions)
        item ↔
      (kept items.names).length = (kept items.versions).length ∧
        (kept items.versions)[(kept (items.front.map Prod.fst)).length]? =
          some item := by
  obtain ⟨hmem, hindex⟩ := items.idxOf_kept_names
  have hnames : splitStr ',' ([','].intercalate items.names) =
      kept items.names :=
    items.splitStr_intercalate (fun item hitem => (items.no_comma item hitem).1)
      (by decide)
  have hversions : splitStr ',' ([','].intercalate items.versions) =
      kept items.versions :=
    items.splitStr_intercalate (fun item hitem => (items.no_comma item hitem).2)
      items.comma_not_mem_versionData
  rw [ItemOf, hnames, hversions, hindex]
  simp [hmem]

end PeerItems

/-! ## The version of the peer -/

/-- The version is read whatever the caller had before, and is lower than a
threshold when its numbers are. -/
def OwnVersion (strToInt : Text → Option Int32) (library : NlohmannJson)
    (appInfoJsonData : Text) (version : DmsVersion) : Prop :=
  (∀ caller, getRemoteDmsVersion strToInt library (ERR_OK, appInfoJsonData)
      caller = some (ERR_OK, version)) ∧
    ∀ threshold, ∃ lower, isRemoteDmsVersionLower strToInt library
        (ERR_OK, appInfoJsonData) threshold = some lower ∧
      (lower = true ↔ version.numbers < threshold.numbers)

theorem ownVersion_iff_item (strToInt : Text → Option Int32)
    (library : NlohmannJson) (appInfoJsonData : Text) (version : DmsVersion) :
    OwnVersion strToInt library appInfoJsonData version ↔
      ∃ item, VersionItem library appInfoJsonData item ∧
        Reads strToInt item version := by
  obtain ⟨item, -, hitem, hrun⟩ | ⟨hnone, result, hresult, hrun⟩ :=
    getRemoteDmsVersion_cases strToInt library (ERR_OK, appInfoJsonData)
  · constructor
    · intro hown
      have hread := (hrun {}).symm.trans (hown.1 {})
      refine ⟨item, hitem, (parseDmsVersion_iff_reads strToInt item {} _).mp ?_⟩
      rcases hparse : parseDmsVersion strToInt item {} with ⟨_ | _, left⟩
      · rw [hparse] at hread
        cases hread
      · rw [hparse] at hread
        cases hread
        rfl
    · rintro ⟨other, hother, hreads⟩
      obtain rfl : item = other := hitem.unique hother
      have hok : ∀ caller, getRemoteDmsVersion strToInt library
          (ERR_OK, appInfoJsonData) caller = some (ERR_OK, version) := by
        intro caller
        rw [hrun, (parseDmsVersion_iff_reads strToInt item caller version).mpr
          hreads]
        rfl
      refine ⟨hok, fun threshold => ?_⟩
      rw [isRemoteDmsVersionLower, hok]
      exact ⟨_, rfl, compareDmsVersion_iff version threshold⟩
  · refine iff_of_false (fun hown => ?_) ?_
    · have hread := (hrun {}).symm.trans (hown.1 {})
      exact hresult (Prod.mk.inj (Option.some.inj hread)).1
    · rintro ⟨item, hitem, -⟩
      exact hnone rfl item hitem

theorem getRemoteDmsVersion_keeps_iff (strToInt : Text → Option Int32)
    (library : NlohmannJson) (appInfo : Int32 × Text) :
    (∀ caller, ∃ result after,
      getRemoteDmsVersion strToInt library appInfo caller =
        some (result, after) ∧ (result ≠ ERR_OK → after = caller)) ↔
    ∀ item, appInfo.1 = ERR_OK → VersionItem library appInfo.2 item →
      ¬ HalfReads strToInt item := by
  have hcode : DMS_VERSION_PARSE_EXCEPTION ≠ ERR_OK := by decide
  obtain ⟨item, hanswer, hitem, hrun⟩ | ⟨hnone, result, hresult, hrun⟩ :=
    getRemoteDmsVersion_cases strToInt library appInfo
  · have hone : (∀ other, appInfo.1 = ERR_OK →
        VersionItem library appInfo.2 other → ¬ HalfReads strToInt other) ↔
          ¬ HalfReads strToInt item :=
      ⟨fun hall => hall item hanswer hitem, fun hitemOnly other _ hother =>
        hitem.unique hother ▸ hitemOnly⟩
    rw [hone, ← parseDmsVersion_keeps_iff]
    refine forall_congr' fun caller => ?_
    rw [hrun]
    cases (parseDmsVersion strToInt item caller).1
    · simp [hcode]
    · simp
  · refine iff_of_true (fun caller => ⟨result, caller, hrun caller, fun _ => rfl⟩)
      fun item hanswer hitem => absurd hitem (hnone hanswer item)

/-- The version of a peer is its own exactly when the lists that are left are
aligned; a failure keeps the caller's version exactly when no number was read
before one that is none. -/
theorem peerVersion_iff (strToInt : Text → Option Int32)
    (library : NlohmannJson) :
    (∀ items : PeerItems, ∀ appInfoJsonData,
      Lists library appInfoJsonData ([','].intercalate items.names)
        ([','].intercalate items.versions) →
      (OwnVersion strToInt library appInfoJsonData items.version ↔
        items.Aligned strToInt)) ∧
    ∀ appInfo : Int32 × Text,
      ((∀ caller, ∃ result after,
        getRemoteDmsVersion strToInt library appInfo caller =
          some (result, after) ∧ (result ≠ ERR_OK → after = caller)) ↔
      ∀ item, appInfo.1 = ERR_OK → VersionItem library appInfo.2 item →
        ¬ HalfReads strToInt item) := by
  refine ⟨fun items appInfoJsonData hlists => ?_,
    getRemoteDmsVersion_keeps_iff strToInt library⟩
  rw [ownVersion_iff_item, PeerItems.Aligned]
  simp only [versionItem_iff hlists, items.itemOf_iff]
  constructor
  · rintro ⟨item, ⟨hlength, hitem⟩, hreads⟩
    exact ⟨hlength, item, hitem, hreads⟩
  · rintro ⟨hlength, item, hitem, hreads⟩
    exact ⟨item, ⟨hlength, hitem⟩, hreads⟩

/-! ## A peer with another package -/

def readInt (text : Text) : Option Int32 :=
  if text ≠ [] ∧ text.all Char.isDigit ∧ DecimalText.ofDigits text < 2 ^ 31 then
    some (.ofNat (DecimalText.ofDigits text))
  else none

def digit (text : Text) (h : text = ['5'] ∨ text = ['1'] ∨ text = ['0']) :
    Numeral where
  text := text
  ne_nil := by rcases h with rfl | rfl | rfl <;> decide
  isDigit := by
    rcases h with rfl | rfl | rfl <;>
      exact List.forall_mem_singleton.mpr (by decide)
  lt := by rcases h with rfl | rfl | rfl <;> decide

def pairItems (other : Text) (hother : ',' ∉ other) : PeerItems where
  front := [(['a'], other)]
  major := digit ['5'] (.inl rfl)
  minor := digit ['1'] (.inr (.inl rfl))
  feature := digit ['0'] (.inr (.inr rfl))
  back := []
  first := by simp [DMS_NAME]
  no_comma := by simp [hother]

def pairJson (other : Text) : Json :=
  .object [(PACKAGE_NAMES, .string "a,dmsfwk".toList),
    (VERSIONS, .string (other ++ ",5.1.0".toList))]

def pairText (other : Text) : Text :=
  "\x7b\"packageNames\":\"a,dmsfwk\",\"versions\":\"".toList ++ other ++
    ",5.1.0\"\x7d".toList

def pairLibrary (other : Text) : NlohmannJson where
  dump _ := pairText other
  parse text := if text = pairText other then some (pairJson other) else none
  parse_nil := rfl

theorem pairLists {other : Text} (htext : cStr (pairText other) = pairText other) :
    Lists (pairLibrary other) (pairText other) "a,dmsfwk".toList
      (other ++ ",5.1.0".toList) := by
  refine ⟨pairJson other, ?_, rfl, rfl⟩
  rw [htext]
  exact if_pos rfl

/-- The package in front has a version. -/
theorem ownVersion_two :
    OwnVersion readInt (pairLibrary ['2']) (pairText ['2']) ⟨5, 1, 0⟩ :=
  ((peerVersion_iff readInt (pairLibrary ['2'])).1
    (pairItems ['2'] (by decide)) (pairText ['2'])
    (pairLists (by decide))).mpr
    ⟨by decide, "5.1.0".toList, by decide, ['5'], ['1'], ['0'], by decide,
      by decide, by decide, by decide⟩

/-- The package in front has none, and the lists that are left have different
lengths. -/
theorem not_ownVersion_empty :
    ¬ ∀ (strToInt : Text → Option Int32) (library : NlohmannJson)
      (items : PeerItems) (appInfoJsonData : Text),
      (∀ numeral : Numeral,
        strToInt numeral.text = some numeral.value.toInt32) →
      Lists library appInfoJsonData ([','].intercalate items.names)
        ([','].intercalate items.versions) →
      OwnVersion strToInt library appInfoJsonData items.version := by
  intro hall
  have hown := hall readInt (pairLibrary []) (pairItems [] (by decide))
    (pairText []) (fun numeral => ?_) (pairLists (by decide))
  · have hread : getRemoteDmsVersion readInt (pairLibrary [])
        (ERR_OK, pairText []) {} =
          some (DMS_VERSION_PARSE_EXCEPTION, {}) := by decide
    exact absurd (hread.symm.trans (hown.1 {})) (by decide)
  · have hdigits : numeral.text.all Char.isDigit = true :=
      List.all_eq_true.mpr numeral.isDigit
    rw [readInt, if_pos ⟨numeral.ne_nil, hdigits, numeral.lt⟩]
    rfl

end DmsVersionManager
end Dmsfwk
