import Dmsfwk.DmsBundleParcel

/-!
# Mission lists in a parcel

A list of missions stands behind a mark and its length.  The mark of an empty
list leaves the vector of the reader as it was, and the reader refuses more
missions than the writer lets through.
-/

namespace Dmsfwk
namespace MissionInfoParcel

open StreamCodec

def VALUE_NULL : Int32 := -1

def VALUE_OBJECT : Int32 := 1

def GET_MAX_MISSIONS : ℕ := 20

structure DstbMissionInfo (Want ElementName : Type) where
  id : Int32 := -1
  runingState : Int32 := -1
  userId : Int32 := 0
  missionStackId : Int32 := -1
  combinedMissionIds : List Int32 := []
  windowMode : Int32 := 0
  boundsLeft : Int32 := 0
  boundsTop : Int32 := 0
  boundsRight : Int32 := 0
  boundsBottom : Int32 := 0
  baseWant : Option Want := none
  topAbility : Option ElementName := none
  baseAbility : Option ElementName := none
  reservedAbility : Option ElementName := none
  lastMissionActiveTime : Int64 := 0
  displayId : Int32 := 0
  label : Text := []
  size : Int32 := 0
  iconPath : Text := []
  continuable : Int32 := 0
  windowType : Int32 := 0
  lockedState : Bool := false
  missionType : Int32 := 2147483647
  windowTypeMode : Int32 := 0
  deriving DecidableEq

structure MissionParcels (Params Want ElementName : Type) extends
    ParcelPrimitives Params where
  writeInt32Vector : List Int32 → Writer
  readInt32Vector : Reader (List Int32)
  marshallingWant : Want → Writer
  unmarshallingWant : Reader (Option Want)
  marshallingElement : ElementName → Writer
  unmarshallingElement : Reader (Option ElementName)

section Functions

variable {Params Want ElementName : Type}
  (parcels : MissionParcels Params Want ElementName)

namespace DstbMissionInfo

def marshalling (info : DstbMissionInfo Want ElementName) : Writer := do
  parcels.writeInt32 info.id
  parcels.writeInt32 info.runingState
  parcels.writeInt32 info.userId
  parcels.writeInt32 info.missionStackId
  parcels.writeInt32Vector info.combinedMissionIds
  parcels.writeInt32 info.windowMode
  parcels.writeInt32 info.boundsLeft
  parcels.writeInt32 info.boundsTop
  parcels.writeInt32 info.boundsRight
  parcels.writeInt32 info.boundsBottom
  parcels.writeParcelable parcels.marshallingWant info.baseWant
  parcels.writeParcelable parcels.marshallingElement info.topAbility
  parcels.writeParcelable parcels.marshallingElement info.baseAbility
  parcels.writeParcelable parcels.marshallingElement info.reservedAbility
  parcels.writeInt64 info.lastMissionActiveTime
  parcels.writeInt32 info.displayId
  parcels.writeText info.label
  parcels.writeInt32 info.size
  parcels.writeText info.iconPath
  parcels.writeInt32 info.continuable
  parcels.writeInt32 info.windowType
  parcels.writeBool info.lockedState
  parcels.writeInt32 info.missionType
  parcels.writeInt32 info.windowTypeMode

def readInt32 : Reader Int32 :=
  orDefault parcels.readInt32 0

def readFromParcel : Reader (DstbMissionInfo Want ElementName) := do
  let id ← readInt32 parcels
  let runingState ← readInt32 parcels
  let userId ← readInt32 parcels
  let missionStackId ← readInt32 parcels
  let combinedMissionIds ← parcels.readInt32Vector
  let windowMode ← readInt32 parcels
  let boundsLeft ← readInt32 parcels
  let boundsTop ← readInt32 parcels
  let boundsRight ← readInt32 parcels
  let boundsBottom ← readInt32 parcels
  let baseWant ← parcels.readParcelable parcels.unmarshallingWant
  let topAbility ← parcels.readParcelable parcels.unmarshallingElement
  let baseAbility ← parcels.readParcelable parcels.unmarshallingElement
  let reservedAbility ← parcels.readParcelable parcels.unmarshallingElement
  let lastMissionActiveTime ← orDefault parcels.readInt64 0
  let displayId ← readInt32 parcels
  let label ← parcels.readText
  let size ← readInt32 parcels
  let iconPath ← parcels.readText
  let continuable ← readInt32 parcels
  let windowType ← readInt32 parcels
  let lockedState ← orDefault parcels.readBool false
  let missionType ← readInt32 parcels
  let windowTypeMode ← readInt32 parcels
  return {
    id, runingState, userId, missionStackId, combinedMissionIds, windowMode,
    boundsLeft, boundsTop, boundsRight, boundsBottom, baseWant, topAbility,
    baseAbility, reservedAbility, lastMissionActiveTime, displayId, label, size,
    iconPath, continuable, windowType, lockedState, missionType,
    windowTypeMode }

def unmarshalling : Reader (Option (DstbMissionInfo Want ElementName)) :=
  nullable (readFromParcel parcels)

def readParcelable : Reader (DstbMissionInfo Want ElementName) := do
  let some ptr ← parcels.readParcelable (unmarshalling parcels) | failure
  return ptr

def readMissions : Reader (List (DstbMissionInfo Want ElementName)) := do
  let len ← readInt32 parcels
  if len < 0 then failure
  if GET_MAX_MISSIONS < len.toInt.toNat then failure
  readTimes (readParcelable parcels) len.toInt.toNat

def readDstbMissionInfosFromParcel
    (missionInfos : List (DstbMissionInfo Want ElementName)) :
    Reader (List (DstbMissionInfo Want ElementName)) := do
  let empty ← readInt32 parcels
  if empty = VALUE_OBJECT then readMissions parcels
  else return missionInfos

def writeDstbMissionInfosToParcel
    (missionInfos : List (DstbMissionInfo Want ElementName)) : Writer :=
  if missionInfos.length = 0 then parcels.writeInt32 VALUE_NULL
  else do
    parcels.writeInt32 VALUE_OBJECT
    parcels.writeInt32 (.ofNat missionInfos.length)
    writeEach (fun info => parcels.writeParcelable (marshalling parcels)
      (some info)) missionInfos

end DstbMissionInfo

end Functions

/-! ## What arrives -/

section Arrival

open DstbMissionInfo

variable {Params Want ElementName : Type}

/-- What is written of the mission, if it is, is read again. -/
structure MissionParcels.RoundTrip
    (parcels : MissionParcels Params Want ElementName)
    (info : DstbMissionInfo Want ElementName) : Prop where
  int32Vector : Carries (parcels.writeInt32Vector info.combinedMissionIds)
    parcels.readInt32Vector (some info.combinedMissionIds)
  int64 : Carries (parcels.writeInt64 info.lastMissionActiveTime)
    parcels.readInt64 (some info.lastMissionActiveTime)
  bool : Carries (parcels.writeBool info.lockedState) parcels.readBool
    (some info.lockedState)
  text : ∀ text ∈ [info.label, info.iconPath],
    Carries (parcels.writeText text) parcels.readText (some text)
  want : ∀ want, info.baseWant = some want →
    Carries (parcels.marshallingWant want) parcels.unmarshallingWant
      (some (some want))
  element : ∀ pointer ∈
      [info.topAbility, info.baseAbility, info.reservedAbility],
    ∀ element, pointer = some element →
      Carries (parcels.marshallingElement element) parcels.unmarshallingElement
        (some (some element))

variable {parcels : MissionParcels Params Want ElementName}
  (hint32 : ∀ value, Carries (parcels.writeInt32 value) parcels.readInt32
    (some value))

include hint32

theorem carries_readInt32 (value : Int32) :
    Carries (parcels.writeInt32 value) (readInt32 parcels) (some value) :=
  (hint32 value).orDefault 0

theorem carries_parcelable {T : Type} {marshalling : T → Writer}
    {unmarshalling : Reader (Option T)} {pointer : Option T}
    (hobject : ∀ object, pointer = some object →
      Carries (marshalling object) unmarshalling (some (some object))) :
    Carries (parcels.writeParcelable marshalling pointer)
      (parcels.readParcelable unmarshalling) (some pointer) := by
  cases pointer with
  | none => exact ((hint32 0).orDefault 0).bind_pure rfl
  | some object => exact ((hint32 1).orDefault 0).bind (hobject object rfl)

theorem carries_readFromParcel {info : DstbMissionInfo Want ElementName}
    (hinfo : parcels.RoundTrip info) :
    Carries (info.marshalling parcels) (readFromParcel parcels) (some info) := by
  have hnum := carries_readInt32 hint32
  have hwant := carries_parcelable hint32 hinfo.want
  have helement := fun pointer hmem =>
    carries_parcelable hint32 (hinfo.element pointer hmem)
  obtain ⟨hlabel, hicon, -⟩ := List.forall_mem_cons.mp hinfo.text |>.imp_right
    List.forall_mem_cons.mp
  exact (hnum _).bind <| (hnum _).bind <| (hnum _).bind <| (hnum _).bind <|
    hinfo.int32Vector.bind <|
    (hnum _).bind <| (hnum _).bind <| (hnum _).bind <| (hnum _).bind <|
    (hnum _).bind <| hwant.bind <|
    (helement _ (by simp)).bind <| (helement _ (by simp)).bind <|
    (helement _ (by simp)).bind <|
    (hinfo.int64.orDefault 0).bind <| (hnum _).bind <| hlabel.bind <|
    (hnum _).bind <| hicon.bind <| (hnum _).bind <| (hnum _).bind <|
    (hinfo.bool.orDefault false).bind <| (hnum _).bind <| (hnum _).bind_pure rfl

theorem carries_readParcelable {info : DstbMissionInfo Want ElementName}
    (hinfo : parcels.RoundTrip info) :
    Carries (parcels.writeParcelable (marshalling parcels) (some info))
      (readParcelable parcels) (some info) := by
  refine (carries_parcelable hint32 ?_).bind_pure rfl
  rintro _ ⟨⟩ data written hwritten
  obtain ⟨image, hwrite, hread⟩ :=
    carries_readFromParcel hint32 hinfo data written hwritten
  refine ⟨image, hwrite, fun rest => ?_⟩
  unfold unmarshalling nullable
  rw [hread rest]
  rfl

theorem carries_missions {missions : List (DstbMissionInfo Want ElementName)}
    (hmissions : ∀ info ∈ missions, parcels.RoundTrip info) :
    Carries (writeEach (fun info => parcels.writeParcelable (marshalling parcels)
        (some info)) missions)
      (readTimes (readParcelable parcels) missions.length) (some missions) := by
  induction missions with
  | nil => exact carries_pure []
  | cons info missions ih =>
      obtain ⟨hinfo, hrest⟩ := List.forall_mem_cons.mp hmissions
      exact (carries_readParcelable hint32 hinfo).bind
        ((ih hrest).bind_pure rfl)

end Arrival

/-! ## Lists -/

section Lists

open DstbMissionInfo

variable {Params Want ElementName : Type}
  {parcels : MissionParcels Params Want ElementName}

theorem length_of_readTimes {α : Type} {read : Reader α} {size : ℕ}
    {data : List UInt8} {cursor next : ℕ} {values : List α}
    (hread : readTimes read size data cursor = some (values, next)) :
    values.length = size := by
  induction size generalizing cursor values next with
  | zero =>
      cases hread
      rfl
  | succ size ih =>
      obtain ⟨value, middle, -, hrest⟩ := bind_read_eq_some hread
      obtain ⟨others, after, hothers, hresult⟩ := bind_read_eq_some hrest
      cases hresult
      rw [List.length_cons, ih hothers]

theorem length_of_readMissions {data : List UInt8} {cursor next : ℕ}
    {missions : List (DstbMissionInfo Want ElementName)}
    (hread : readMissions parcels data cursor = some (missions, next)) :
    missions.length ≤ GET_MAX_MISSIONS := by
  obtain ⟨len, middle, -, hrest⟩ := bind_read_eq_some hread
  by_cases hneg : len < 0
  · simp only [hneg, if_true] at hrest
    cases hrest
  by_cases hmany : GET_MAX_MISSIONS < len.toInt.toNat
  · simp only [hneg, hmany, if_true, if_false] at hrest
    cases hrest
  · simp only [hneg, hmany, if_false] at hrest
    exact (length_of_readTimes hrest).trans_le (not_lt.mp hmany)

/-- The reader answers true with the list, and took what was written. -/
def Survives (parcels : MissionParcels Params Want ElementName)
    (missions target : List (DstbMissionInfo Want ElementName))
    (data written : List UInt8) : Prop :=
  ∃ image, written = data ++ image ∧ ∀ rest,
    readDstbMissionInfosFromParcel parcels target (written ++ rest)
      data.length = some (missions, written.length)

theorem carries_empty
    (hint32 : ∀ value, Carries (parcels.writeInt32 value) parcels.readInt32
      (some value)) (target : List (DstbMissionInfo Want ElementName)) :
    Carries (writeDstbMissionInfosToParcel parcels [])
      (readDstbMissionInfosFromParcel parcels target) (some target) :=
  (carries_readInt32 hint32 VALUE_NULL).bind_pure rfl

/-- A list survives exactly when it has no more missions than the reader takes,
and the vector of the reader is empty if the list is. -/
theorem missionInfo_survives_iff
    (hint32 : ∀ value, Carries (parcels.writeInt32 value) parcels.readInt32
      (some value))
    {missions : List (DstbMissionInfo Want ElementName)}
    (hmissions : ∀ info ∈ missions, parcels.RoundTrip info)
    (target : List (DstbMissionInfo Want ElementName))
    {data written : List UInt8}
    (hwritten : writeDstbMissionInfosToParcel parcels missions data =
      some ((), written)) :
    Survives parcels missions target data written ↔
      missions.length ≤ GET_MAX_MISSIONS ∧ (missions = [] → target = []) := by
  unfold writeDstbMissionInfosToParcel at hwritten
  by_cases hempty : missions = []
  · subst hempty
    obtain ⟨image, himage, hread⟩ :=
      carries_empty hint32 target data written hwritten
    constructor
    · rintro ⟨-, -, hsurvives⟩
      have hsame := (hread []).symm.trans (hsurvives [])
      exact ⟨Nat.zero_le _, fun _ => (Prod.mk.inj (Option.some.inj hsame)).1⟩
    · rintro ⟨-, htarget⟩
      obtain rfl := htarget rfl
      exact ⟨image, himage, hread⟩
  · rw [if_neg (mt List.length_eq_zero_iff.mp hempty)] at hwritten
    have hmark := carries_readInt32 hint32 VALUE_OBJECT
    constructor
    · rintro ⟨image, himage, hread⟩
      refine ⟨?_, fun h => absurd h hempty⟩
      obtain ⟨middle, hwrite, hrest⟩ := bind_eq_some hwritten
      obtain ⟨front, rfl, hfront⟩ := hmark data middle hwrite
      have hbehind : Carries _ (do
          let _ ← readInt32 parcels
          readTimes (readParcelable parcels) missions.length) (some missions) :=
        (carries_readInt32 hint32 (.ofNat missions.length)).bind
          (carries_missions hint32 hmissions)
      obtain ⟨back, rfl, -⟩ := hbehind _ written hrest
      obtain ⟨value, cursor, hvalue, hread⟩ := bind_read_eq_some (hread [])
      rw [List.append_assoc, hfront] at hvalue
      cases hvalue
      exact length_of_readMissions hread
    · rintro ⟨hfew, -⟩
      have hnum : (Int32.ofNat missions.length).toInt = missions.length :=
        Int32.toInt_ofNat_of_lt (hfew.trans_lt (by decide))
      have hneg : ¬ Int32.ofNat missions.length < 0 := by
        rw [Int32.lt_iff_toInt_lt, hnum]
        exact not_lt.mpr (Int.natCast_nonneg _)
      have hlist : Carries (do
            parcels.writeInt32 (.ofNat missions.length)
            writeEach (fun info => parcels.writeParcelable (marshalling parcels)
              (some info)) missions)
          (readMissions parcels) (some missions) := by
        refine (carries_readInt32 hint32 _).bind ?_
        simp only [hneg, hnum, Int.toNat_natCast, not_lt.mpr hfew, if_false]
        exact carries_missions hint32 hmissions
      have hcarries : Carries (do
            parcels.writeInt32 VALUE_OBJECT
            parcels.writeInt32 (.ofNat missions.length)
            writeEach (fun info => parcels.writeParcelable (marshalling parcels)
              (some info)) missions)
          (readDstbMissionInfosFromParcel parcels target) (some missions) :=
        hmark.bind hlist
      exact hcarries data written hwritten

end Lists

/-! ## Lists in a parcel of words -/

section Sample

open DstbMissionInfo

def wordParcels : MissionParcels U16String U16String U16String where
  toParcelPrimitives := wordPrimitives
  writeInt32Vector ids :=
    if ids = [] then wordPrimitives.writeInt32 0 else DistributedWantParams.refuse
  readInt32Vector := do
    if (← wordPrimitives.readInt32) = 0 then return []
    failure
  marshallingWant := writeKnown
  unmarshallingWant := do return some (← wordPrimitives.string16)
  marshallingElement := writeKnown
  unmarshallingElement := do return some (← wordPrimitives.string16)

def pulledMission : DstbMissionInfo U16String U16String where
  id := 7
  baseWant := some (asciiToStr16 "a".toList)
  topAbility := some (asciiToStr16 "b".toList)
  label := "c".toList
  lockedState := true

theorem roundTrip_pulledMission : wordParcels.RoundTrip pulledMission where
  int32Vector := (transfers_wordInt32 0).carries.bind_pure rfl
  int64 := (transfers_wordInt64 0).carries
  bool := (transfers_wordBool true).carries
  text := by
    have hknown : ∀ text ∈ [pulledMission.label, pulledMission.iconPath],
        wordPrimitives.str8ToStr16 text ∈ primitiveStrings ∧
          wordPrimitives.str16ToStr8 (wordPrimitives.str8ToStr16 text) =
            text := by decide
    intro text hmem
    obtain ⟨hstring, hconvert⟩ := hknown text hmem
    exact (ParcelPrimitives.transfers_text (transfers_primitiveString hstring)
      hconvert).carries
  want := by
    rintro _ ⟨⟩
    have hknown : asciiToStr16 "a".toList ∈ primitiveStrings := by decide
    exact (transfers_primitiveString hknown).carries.map some
  element := by
    intro pointer hmem element hpointer
    have hone : element = asciiToStr16 "b".toList := by
      simpa [pulledMission, hpointer, eq_comm] using hmem
    subst hone
    have hknown : asciiToStr16 "b".toList ∈ primitiveStrings := by decide
    exact (transfers_primitiveString hknown).carries.map some

theorem survives_pulledMission :
    ∃ written, writeDstbMissionInfosToParcel wordParcels [pulledMission] [] =
        some ((), written) ∧
      Survives wordParcels [pulledMission] [{}, {}] [] written := by
  obtain ⟨⟨_, written⟩, hwritten⟩ : ∃ result,
      writeDstbMissionInfosToParcel wordParcels [pulledMission] [] =
        some result := Option.isSome_iff_exists.mp (by decide +kernel)
  refine ⟨written, hwritten, (missionInfo_survives_iff
    (fun value => (transfers_wordInt32 value).carries) ?_ _ hwritten).mpr
      ⟨by decide, nofun⟩⟩
  intro info hmem
  rw [List.mem_singleton.mp hmem]
  exact roundTrip_pulledMission

/-- An empty list leaves a mission in the vector of the reader. -/
theorem not_missionInfo_survives_empty :
    ¬ ∀ (missions target : List (DstbMissionInfo U16String U16String))
      (data written : List UInt8),
      (∀ info ∈ missions, wordParcels.RoundTrip info) →
      writeDstbMissionInfosToParcel wordParcels missions data =
        some ((), written) →
      Survives wordParcels missions target data written := by
  intro hall
  obtain ⟨⟨_, written⟩, hwritten⟩ : ∃ result,
      writeDstbMissionInfosToParcel wordParcels [] [] = some result :=
    Option.isSome_iff_exists.mp (by decide +kernel)
  obtain ⟨_, -, hsurvives⟩ := hall [] [pulledMission] [] written nofun hwritten
  obtain ⟨_, -, hread⟩ := carries_empty
    (fun value => (transfers_wordInt32 value).carries) [pulledMission] []
    written hwritten
  have hsame := (hread []).symm.trans (hsurvives [])
  cases (Prod.mk.inj (Option.some.inj hsame)).1

end Sample

end MissionInfoParcel
end Dmsfwk
