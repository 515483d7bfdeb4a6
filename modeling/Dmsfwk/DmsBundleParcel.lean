import Dmsfwk.DmsBundleJson
import Dmsfwk.WordParcel

/-!
# Bundle records in a parcel

The reader of a record expects the developer and the sizes of all lists, which
the writer leaves out.  What the writer appends behind the last field that both
have costs too little for the reader, unless there is nothing there at all.
-/

namespace Dmsfwk

open StreamCodec
open DistributedWantParams (shortStr8ToStr16 shortStr16ToStr8)

section Functions

variable {Params : Type} (parcels : ParcelPrimitives Params)
  (verify : List UInt8 → ℕ → ℤ → Bool)

def containerSecurityVerify (size : ℤ) : Reader Unit :=
  fun data cursor => if verify data cursor size then some ((), cursor) else none

def nullable {T : Type} (readFromParcel : Reader T) : Reader (Option T) :=
  fun data cursor => some <|
    match readFromParcel data cursor with
    | some (object, next) => (some object, next)
    | none => (none, cursor)

namespace DmsAbilityInfo

def marshalling (info : DmsAbilityInfo) : Writer := do
  unchecked (parcels.writeText info.abilityName)
  writeEach (fun ele => unchecked (parcels.writeText ele)) info.continueType
  writeEach (fun ele => unchecked (parcels.writeUint8 ele)) info.continueTypeId
  unchecked (parcels.writeText info.moduleName)

def readFromParcel : Reader DmsAbilityInfo := do
  let abilityName ← parcels.readText
  let continueTypeSize ← parcels.readInt32
  containerSecurityVerify verify continueTypeSize.toInt
  let continueType ← readTimes parcels.readText continueTypeSize.toInt.toNat
  let continueTypeIdSize ← parcels.readInt32
  containerSecurityVerify verify continueTypeIdSize.toInt
  let continueTypeId ← readTimes (orDefault parcels.readUint8 0)
    continueTypeIdSize.toInt.toNat
  let moduleName ← parcels.readText
  return { abilityName, continueType, continueTypeId, moduleName }

def readParcelable : Reader DmsAbilityInfo := do
  let some dmsAbilityInfo ← parcels.readParcelable
    (nullable (readFromParcel parcels verify)) | failure
  return dmsAbilityInfo

end DmsAbilityInfo

namespace DmsBundleRecord

def marshallingHead (info : DmsBundleRecord) : Writer := do
  unchecked (parcels.writeUint32 info.version)
  unchecked (parcels.writeUint32 info.versionCode)
  unchecked (parcels.writeUint32 info.compatibleVersionCode)
  unchecked (parcels.writeUint32 info.minCompatibleVersion)
  unchecked (parcels.writeUint32 info.targetVersionCode)
  unchecked (parcels.writeText info.bundleName)
  unchecked (parcels.writeText info.versionName)
  unchecked (parcels.writeText info.appId)
  unchecked (parcels.writeBool info.enabled)
  unchecked (parcels.writeUint16 info.bundleNameId)
  unchecked (parcels.writeInt64 info.updateTime)

def marshallingLists (info : DmsBundleRecord) : Writer := do
  writeEach (fun dmsAbilityInfo => unchecked (parcels.writeParcelable
    (DmsAbilityInfo.marshalling parcels) (some dmsAbilityInfo)))
    info.dmsAbilityInfos
  writeEach (fun userId => unchecked (parcels.writeUint8 userId)) info.userIdArr

def marshalling (info : DmsBundleRecord) : Writer := do
  info.marshallingHead parcels
  info.marshallingLists parcels

def readHead : Reader DmsBundleRecord := do
  let version ← orDefault parcels.readUint32 0
  let versionCode ← orDefault parcels.readUint32 0
  let compatibleVersionCode ← orDefault parcels.readUint32 0
  let minCompatibleVersion ← orDefault parcels.readUint32 0
  let targetVersionCode ← orDefault parcels.readUint32 0
  let bundleName ← parcels.readText
  let versionName ← parcels.readText
  let appId ← parcels.readText
  let enabled ← orDefault parcels.readBool false
  let bundleNameId ← orDefault parcels.readUint16 0
  let updateTime ← orDefault parcels.readInt64 0
  return {
    version, versionCode, compatibleVersionCode, minCompatibleVersion,
    targetVersionCode, bundleName, versionName, appId, enabled, bundleNameId,
    updateTime }

def readLists (info : DmsBundleRecord) : Reader DmsBundleRecord := do
  let developerId ← parcels.readText
  let abilityInfosSize ← parcels.readUint32
  containerSecurityVerify verify abilityInfosSize.toNat
  let dmsAbilityInfos ← readTimes
    (DmsAbilityInfo.readParcelable parcels verify) abilityInfosSize.toNat
  let userIdArrSize ← parcels.readUint32
  containerSecurityVerify verify userIdArrSize.toNat
  let userIdArr ← readTimes (orDefault parcels.readUint8 0) userIdArrSize.toNat
  return { info with developerId, dmsAbilityInfos, userIdArr }

def readFromParcel : Reader DmsBundleRecord := do
  let info ← readHead parcels
  readLists parcels verify info

def Survives (info : DmsBundleRecord) (front : List UInt8) : Prop :=
  ∃ written, info.marshalling parcels front = some ((), written) ∧
    readFromParcel parcels verify written front.length =
      some (info, written.length)

end DmsBundleRecord

end Functions

/-! ## What the parcel does -/

namespace ParcelPrimitives

variable {Params : Type}

structure CarriesHead (parcels : ParcelPrimitives Params)
    (info : DmsBundleRecord) : Prop where
  string : ∀ text ∈ [info.bundleName, info.versionName, info.appId],
    Transfers (parcels.writeString16 (parcels.str8ToStr16 text))
      parcels.string16 (parcels.str8ToStr16 text)
  conversion : ∀ text ∈ [info.bundleName, info.versionName, info.appId],
    parcels.str16ToStr8 (parcels.str8ToStr16 text) = text
  uint32 : ∀ value,
    Transfers (parcels.writeUint32 value) parcels.readUint32 value
  uint16 : ∀ value,
    Transfers (parcels.writeUint16 value) parcels.readUint16 value
  int64 : ∀ value, Transfers (parcels.writeInt64 value) parcels.readInt64 value
  bool : ∀ value, Transfers (parcels.writeBool value) parcels.readBool value

end ParcelPrimitives

/-! ## What a record costs -/

section Costs

variable {Params : Type} {parcels : ParcelPrimitives Params}
  {verify : List UInt8 → ℕ → ℤ → Bool}

theorem takes_containerSecurityVerify (size : ℤ) :
    Takes (containerSecurityVerify verify size) fun _ _ => True := by
  intro data cursor value next hvalue
  rw [containerSecurityVerify] at hvalue
  split_ifs at hvalue
  cases hvalue
  exact ⟨le_rfl, 0, (Nat.zero_add _).symm, trivial⟩

theorem takes_nullable {T : Type} {readFromParcel : Reader T}
    {holds : T → ℕ → Prop} (hread : Takes readFromParcel holds) :
    Takes (nullable readFromParcel) fun object taken =>
      ∀ value, object = some value → holds value taken := by
  intro data cursor object next hobject
  unfold nullable at hobject
  cases hresult : readFromParcel data cursor with
  | none =>
      rw [hresult] at hobject
      cases hobject
      exact ⟨le_rfl, 0, (Nat.zero_add _).symm, fun _ hvalue => nomatch hvalue⟩
  | some result =>
      rw [hresult] at hobject
      cases hobject
      obtain ⟨hle, taken, htaken, hholds⟩ := hread data cursor _ _ hresult
      refine ⟨hle, taken, htaken, ?_⟩
      rintro _ ⟨⟩
      exact hholds

namespace DmsAbilityInfo

def writtenCost (parcels : ParcelPrimitives Params) (info : DmsAbilityInfo) :
    ℕ :=
  cost (parcels.writeInt32 1) +
    (cost (parcels.writeText info.abilityName) +
      ((info.continueType.map fun ele => cost (parcels.writeText ele)).sum +
        ((info.continueTypeId.map fun ele => cost (parcels.writeUint8 ele)).sum +
          cost (parcels.writeText info.moduleName))))

theorem appends_ability (haccounted : parcels.Accounted)
    (info : DmsAbilityInfo) :
    Appends (unchecked (parcels.writeParcelable (marshalling parcels)
      (some info))) (info.writtenCost parcels) := by
  have htext : ∀ text, Appends (unchecked (parcels.writeText text))
      (cost (parcels.writeText text)) :=
    fun text => (haccounted.text.appends text).unchecked
  have hid : ∀ id, Appends (unchecked (parcels.writeUint8 id))
      (cost (parcels.writeUint8 id)) :=
    fun id => (haccounted.uint8.appends id).unchecked
  exact ((haccounted.int32.appends 1).bind ((htext info.abilityName).bind
    ((Appends.writeEach htext info.continueType).bind
      ((Appends.writeEach hid info.continueTypeId).bind
        (htext info.moduleName))))).unchecked

theorem takes_readFromParcel (haccounted : parcels.Accounted) :
    Takes (readFromParcel parcels verify) fun info taken =>
      info.writtenCost parcels ≤ cost (parcels.writeInt32 1) + taken := by
  have hsize := haccounted.int32.takes.of_orDefault
  refine Takes.bind (haccounted.text.takes.imp fun abilityName _ hname => ?_)
  refine Takes.bind (hsize.imp fun continueTypeSize _ _ => ?_)
  refine Takes.bind ((takes_containerSecurityVerify _).imp fun _ _ _ => ?_)
  refine Takes.bind ((haccounted.text.takes.readTimes _).imp
    fun continueType _ htypes => ?_)
  refine Takes.bind (hsize.imp fun continueTypeIdSize _ _ => ?_)
  refine Takes.bind ((takes_containerSecurityVerify _).imp fun _ _ _ => ?_)
  refine Takes.bind ((haccounted.uint8.takes.readTimes _).imp
    fun continueTypeId _ hids => ?_)
  refine Takes.bind (haccounted.text.takes.imp fun moduleName _ hmodule => ?_)
  apply Takes.pure
  have htypes := htypes.2
  have hids := hids.2
  simp only [writtenCost]
  omega

theorem takes_readParcelable (haccounted : parcels.Accounted) :
    Takes (readParcelable parcels verify) fun info taken =>
      info.writtenCost parcels ≤ taken := by
  refine Takes.bind (Takes.bind (haccounted.int32.takes.imp
    fun mark first hmark => ?_))
  by_cases hnull : mark = 0
  · rw [if_pos hnull]
    exact Takes.pure Takes.failure
  rw [if_neg hnull]
  have hone := haccounted.mark mark hnull
  refine (takes_nullable (takes_readFromParcel haccounted)).imp
    fun object second hobject => ?_
  cases object with
  | none => exact Takes.failure
  | some info =>
      apply Takes.pure
      have hinfo := hobject info rfl
      omega

end DmsAbilityInfo

namespace DmsBundleRecord

def listsCost (parcels : ParcelPrimitives Params) (info : DmsBundleRecord) : ℕ :=
  (info.dmsAbilityInfos.map (DmsAbilityInfo.writtenCost parcels)).sum +
    (info.userIdArr.map fun userId => cost (parcels.writeUint8 userId)).sum

theorem appends_marshallingLists (haccounted : parcels.Accounted)
    (info : DmsBundleRecord) :
    Appends (info.marshallingLists parcels) (info.listsCost parcels) := by
  have hid : ∀ id, Appends (unchecked (parcels.writeUint8 id))
      (cost (parcels.writeUint8 id)) :=
    fun id => (haccounted.uint8.appends id).unchecked
  exact (Appends.writeEach (DmsAbilityInfo.appends_ability haccounted)
    info.dmsAbilityInfos).bind (Appends.writeEach hid info.userIdArr)

theorem takes_readLists (haccounted : parcels.Accounted)
    (head : DmsBundleRecord) :
    Takes (readLists parcels verify head) fun info taken =>
      ∃ abilityInfosSize userIdArrSize : UInt32,
        info.dmsAbilityInfos.length = abilityInfosSize.toNat ∧
        info.userIdArr.length = userIdArrSize.toNat ∧
        info.listsCost parcels + cost (parcels.writeUint32 abilityInfosSize) +
          cost (parcels.writeUint32 userIdArrSize) ≤ taken := by
  have hsize := haccounted.uint32.takes.of_orDefault
  refine Takes.bind (haccounted.text.takes.imp fun developerId _ _ => ?_)
  refine Takes.bind (hsize.imp fun abilityInfosSize _ hfirst => ?_)
  refine Takes.bind ((takes_containerSecurityVerify _).imp fun _ _ _ => ?_)
  refine Takes.bind (((DmsAbilityInfo.takes_readParcelable
    haccounted).readTimes _).imp fun dmsAbilityInfos _ habilities => ?_)
  refine Takes.bind (hsize.imp fun userIdArrSize _ hsecond => ?_)
  refine Takes.bind ((takes_containerSecurityVerify _).imp fun _ _ _ => ?_)
  refine Takes.bind ((haccounted.uint8.takes.readTimes _).imp
    fun userIdArr _ hids => ?_)
  apply Takes.pure
  refine ⟨abilityInfosSize, userIdArrSize, habilities.1, hids.1, ?_⟩
  have habilities := habilities.2
  have hids := hids.2
  simp only [listsCost]
  omega

theorem readLists_atEnd (haccounted : parcels.Accounted) (head : DmsBundleRecord)
    {data : List UInt8} {cursor : ℕ} (hend : data.length ≤ cursor) :
    readLists parcels verify head data cursor = none := by
  refine Option.eq_none_iff_forall_not_mem.mpr fun result hresult => ?_
  obtain ⟨developerId, next, htext, hrest⟩ := bind_read_eq_some hresult
  obtain ⟨hnext, -⟩ := haccounted.text.takes data cursor developerId next htext
  obtain ⟨size, after, hsize, -⟩ := bind_read_eq_some hrest
  have hnone := haccounted.atEnd data next (hend.trans hnext)
  rw [hnone] at hsize
  cases hsize

def head (info : DmsBundleRecord) : DmsBundleRecord :=
  { info with developerId := [], dmsAbilityInfos := [], userIdArr := [] }

theorem transfers_head {info : DmsBundleRecord}
    (hcarries : parcels.CarriesHead info) :
    Transfers (info.marshallingHead parcels) (readHead parcels) info.head := by
  have htext : ∀ text ∈ [info.bundleName, info.versionName, info.appId],
      Transfers (unchecked (parcels.writeText text)) parcels.readText text := by
    intro text htext
    exact (ParcelPrimitives.transfers_text (hcarries.string text htext)
      (hcarries.conversion text htext)).unchecked
  simp only [List.forall_mem_cons] at htext
  obtain ⟨hbundle, hversion, happ, -⟩ := htext
  have huint32 : ∀ value, Transfers (unchecked (parcels.writeUint32 value))
      (orDefault parcels.readUint32 0) value :=
    fun value => ((hcarries.uint32 value).orDefault 0).unchecked
  have hbool := ((hcarries.bool info.enabled).orDefault false).unchecked
  have huint16 := ((hcarries.uint16 info.bundleNameId).orDefault 0).unchecked
  have hint64 := ((hcarries.int64 info.updateTime).orDefault 0).unchecked
  exact (huint32 _).bind ((huint32 _).bind ((huint32 _).bind ((huint32 _).bind
    ((huint32 _).bind (hbundle.bind (hversion.bind (happ.bind (hbool.bind
      (huint16.bind (hint64.bind_pure rfl))))))))))

/-- No record survives: its reader finds no size behind a record without lists,
and too little behind any other one. -/
theorem not_survives (haccounted : parcels.Accounted)
    (info : DmsBundleRecord) (hcarries : parcels.CarriesHead info)
    (front : List UInt8) : ¬ Survives parcels verify info front := by
  rintro ⟨written, hwritten, hread⟩
  obtain ⟨image, hhead, hreadHead⟩ := transfers_head hcarries front
  obtain ⟨middle, hfirst, hlists⟩ := bind_eq_some hwritten
  rw [hhead] at hfirst
  cases hfirst
  obtain ⟨lists, rfl, hcost⟩ :=
    appends_marshallingLists haccounted info _ _ hlists
  obtain ⟨head, cursor, hfound, hrest⟩ := bind_read_eq_some hread
  rw [hreadHead] at hfound
  cases hfound
  -- all that is left is what the lists were written with
  obtain ⟨-, taken, htaken, size, ids, hsize, hids, hneeded⟩ :=
    takes_readLists haccounted _ _ _ _ _ hrest
  rw [List.drop_left, List.drop_length, nonzero_nil, Nat.add_zero] at htaken
  have hnoSize : size = 0 := haccounted.size size (by omega)
  have hnoIds : ids = 0 := haccounted.size ids (by omega)
  subst hnoSize hnoIds
  have hnoAbilities := List.length_eq_zero_iff.mp hsize
  have hnoUsers := List.length_eq_zero_iff.mp hids
  -- so there is nothing left
  have hnothing : lists = [] := by
    rw [marshallingLists, hnoAbilities, hnoUsers] at hlists
    have hsame : front ++ image = front ++ image ++ lists :=
      (Prod.mk.inj (Option.some.inj hlists)).2
    simpa using hsame
  subst hnothing
  rw [List.append_nil] at hrest
  rw [readLists_atEnd haccounted _ le_rfl] at hrest
  cases hrest

end DmsBundleRecord

end Costs

/-! ## A record with an ability -/

section Sample

namespace DmsBundleRecord

def verifyReadable (data : List UInt8) (cursor : ℕ) (size : ℤ) : Bool :=
  0 ≤ size ∧ size ≤ data.length - cursor

def sampleRecord : DmsBundleRecord where
  bundleName := "a".toList
  dmsAbilityInfos := [{
    abilityName := "b".toList
    continueType := ["c".toList]
    continueTypeId := [1] }]
  userIdArr := [100]

theorem carriesHead_words {info : DmsBundleRecord}
    (hknown : ∀ text ∈ [info.bundleName, info.versionName, info.appId],
      shortStr8ToStr16 text ∈ primitiveStrings ∧
        shortStr16ToStr8 (shortStr8ToStr16 text) = text) :
    wordPrimitives.CarriesHead info where
  string text htext := transfers_primitiveString (hknown text htext).1
  conversion text htext := (hknown text htext).2
  uint32 := transfers_wordUint32
  uint16 := transfers_wordUint16
  int64 := transfers_wordInt64
  bool := transfers_wordBool

theorem not_survives_sampleRecord :
    wordPrimitives.Accounted ∧ wordPrimitives.CarriesHead sampleRecord ∧
      ¬ Survives wordPrimitives verifyReadable sampleRecord [] := by
  refine ⟨accounted_wordPrimitives, carriesHead_words (by decide), ?_⟩
  rintro ⟨written, hwritten, hread⟩
  have hlost : ((sampleRecord.marshalling wordPrimitives []).bind fun written =>
      readFromParcel wordPrimitives verifyReadable written.2 0) = none := by
    decide +kernel
  rw [hwritten, Option.bind_some] at hlost
  have hfound := hread.symm.trans hlost
  cases hfound

/-- The record without lists. -/
theorem not_survives_empty :
    ¬ Survives wordPrimitives verifyReadable {} [] :=
  not_survives accounted_wordPrimitives {} (carriesHead_words (by decide)) []

end DmsBundleRecord

end Sample

end Dmsfwk
