import Dmsfwk.WordParcel

/-!
# Snapshots on the wire

A snapshot travels as two blocks behind their lengths: the parcel of its fields
and the bytes of its picture.  The writer fills a block up to whole words and
the reader goes on by the length that stands in front of it; they agree because
a parcel of fields is of whole words and the picture comes last.
-/

namespace Dmsfwk

open StreamCodec ByteCodec

structure Rect where
  left : Int32 := 0
  top : Int32 := 0
  right : Int32 := 0
  bottom : Int32 := 0
  deriving DecidableEq, Repr

/-- `Snapshot`, without its picture and the two times. -/
structure Snapshot where
  version : Int32 := 0
  orientation : Int32 := 0
  rect : Option Rect := none
  reducedResolution : Bool := true
  scale : UInt32 := 0
  isRealSnapshot : Bool := true
  windowingMode : Int32 := 0
  systemUiVisibility : Int32 := 0
  isTranslucent : Bool := true
  windowBounds : Option Rect := none
  appLabel : U16String := []
  abilityLabel : U16String := []
  icon : List UInt8 := []
  secAppLabel : U16String := []
  secAbilityLabel : U16String := []
  secIcon : List UInt8 := []
  sourceDeviceTips : U16String := []
  deriving DecidableEq, Repr

/-- What `Create` did with a vector: the offsets and the lengths it read, the
block it handed to `CreatePixelMap`, and the snapshot, which may be null. -/
structure Created where
  accesses : List (ℕ × ℕ)
  pixelBlock : Option Bytes := none
  snapshot : Option Snapshot := none
  deriving DecidableEq

section Functions

variable {Params : Type} (parcels : ParcelPrimitives Params)

namespace Rect

def marshalling (rect : Rect) : Writer := do
  parcels.writeInt32 rect.left
  parcels.writeInt32 rect.top
  parcels.writeInt32 rect.right
  parcels.writeInt32 rect.bottom

def unmarshalling : Reader (Option Rect) := do
  let left ← orDefault parcels.readInt32 0
  let top ← orDefault parcels.readInt32 0
  let right ← orDefault parcels.readInt32 0
  let bottom ← orDefault parcels.readInt32 0
  return some { left, top, right, bottom }

end Rect

namespace Snapshot

def fillSnapshot : Reader Snapshot := do
  let version ← parcels.readInt32
  let orientation ← parcels.readInt32
  let rect ← parcels.readParcelable (Rect.unmarshalling parcels)
  let reducedResolution ← parcels.readBool
  let scale ← parcels.readFloat
  let isRealSnapshot ← parcels.readBool
  let windowingMode ← parcels.readInt32
  let systemUiVisibility ← parcels.readInt32
  let isTranslucent ← parcels.readBool
  let windowBounds ← parcels.readParcelable (Rect.unmarshalling parcels)
  let appLabel ← parcels.string16
  let abilityLabel ← parcels.string16
  let icon ← parcels.readUInt8Vector
  let secAppLabel ← parcels.string16
  let secAbilityLabel ← parcels.string16
  let secIcon ← parcels.readUInt8Vector
  let sourceDeviceTips ← parcels.string16
  return {
    version, orientation, rect, reducedResolution, scale, isRealSnapshot,
    windowingMode, systemUiVisibility, isTranslucent, windowBounds, appLabel,
    abilityLabel, icon, secAppLabel, secAbilityLabel, secIcon,
    sourceDeviceTips }

def writeFields (snapshot : Snapshot) : Writer := do
  parcels.writeInt32 snapshot.version
  parcels.writeInt32 snapshot.orientation
  parcels.writeParcelable (Rect.marshalling parcels) snapshot.rect
  parcels.writeBool snapshot.reducedResolution
  parcels.writeFloat snapshot.scale
  parcels.writeBool snapshot.isRealSnapshot
  parcels.writeInt32 snapshot.windowingMode
  parcels.writeInt32 snapshot.systemUiVisibility
  parcels.writeBool snapshot.isTranslucent
  parcels.writeParcelable (Rect.marshalling parcels) snapshot.windowBounds
  parcels.writeString16 snapshot.appLabel
  parcels.writeString16 snapshot.abilityLabel
  parcels.writeUInt8Vector snapshot.icon
  parcels.writeString16 snapshot.secAppLabel
  parcels.writeString16 snapshot.secAbilityLabel
  parcels.writeUInt8Vector snapshot.secIcon
  parcels.writeString16 snapshot.sourceDeviceTips

def writeBlock (block : Bytes) : Writer := do
  parcels.writeUint32 (UInt32.ofNat block.length)
  parcels.writeBuffer block

def writeSnapshotInfo (snapshot : Snapshot) : Writer := fun data => do
  let (_, info) ← snapshot.writeFields parcels []
  writeBlock parcels info data

def pixelMapMaxBufferSize : ℕ := 600 * 1024

/-- `WritePixelMap` of the compressed picture; the two functions answer for
`GetDataCapacity` and `SetDataCapacity`. -/
def writePixelMap (getDataCapacity : Bytes → ℕ)
    (setDataCapacity : Bytes → ℕ → Bool) (picture : Bytes) : Writer :=
  fun data =>
    if pixelMapMaxBufferSize < picture.length then none
    else
      let minCapacity := data.length + picture.length + 4
      let minCapacity :=
        if minCapacity % 4 ≠ 0 then minCapacity + 4 else minCapacity
      if getDataCapacity data < minCapacity ∧
          setDataCapacity data minCapacity = false then none
      else writeBlock parcels picture data

def createPicture (beyond : ℕ → UInt8) (data : Bytes) (msgSize : ℕ)
    (snapshot : Snapshot) : Created :=
  let accesses := [(0, 4), (4, msgSize)]
  let remainSize := ((data.length - msgSize - 4 : ℤ) % 2 ^ 32).toNat
  if remainSize < 4 then { accesses }
  else
    let pixelmapLen := leValue (readBytes data beyond (4 + msgSize) 4)
    let accesses := accesses ++ [(4 + msgSize, 4)]
    if remainSize ≤ pixelmapLen ∨ remainSize < (pixelmapLen + 4) % 2 ^ 64 then
      { accesses }
    else {
      accesses := accesses ++ [(4 + msgSize + 4, pixelmapLen)]
      pixelBlock := some (readBytes data beyond (4 + msgSize + 4) pixelmapLen)
      snapshot }

def create (beyond : ℕ → UInt8) (data : Bytes) : Created :=
  let totalSize := data.length
  if totalSize < 4 then { accesses := [] }
  else
    let msgSize := leValue (readBytes data beyond 0 4)
    if totalSize ≤ msgSize ∨ totalSize ≤ (msgSize + 4) % 2 ^ 64 then
      { accesses := [(0, 4)] }
    else
      match parcels.writeBuffer (readBytes data beyond 4 msgSize) [] with
      | none => { accesses := [(0, 4), (4, msgSize)] }
      | some (_, dataParcel) =>
          match fillSnapshot parcels dataParcel 0 with
          | none => { accesses := [(0, 4), (4, msgSize)] }
          | some (snapshot, _) => createPicture beyond data msgSize snapshot

end Snapshot

end Functions

/-! ## What is read of a vector -/

section Bounds

variable {Params : Type} {parcels : ParcelPrimitives Params}

namespace Snapshot

def ReadsInside (accesses : List (ℕ × ℕ)) (data : Bytes) : Prop :=
  ∀ access ∈ accesses, access.1 + access.2 ≤ data.length

theorem leValue_readBytes_lt (data : Bytes) (beyond : ℕ → UInt8) (off : ℕ) :
    leValue (readBytes data beyond off 4) < 2 ^ 32 := by
  have hlt := TlvCodec.leValue_lt (readBytes data beyond off 4)
  rw [length_readBytes] at hlt
  exact hlt

variable {data : Bytes}

theorem readsInside_createPicture (beyond : ℕ → UInt8) {msgSize : ℕ}
    (hlength : data.length < 2 ^ 32) (hroom : msgSize + 4 < data.length)
    (snapshot : Snapshot) :
    ReadsInside (createPicture beyond data msgSize snapshot).accesses data := by
  have hpicture := leValue_readBytes_lt data beyond (4 + msgSize)
  have hremain : ((data.length - msgSize - 4 : ℤ) % 2 ^ 32).toNat =
      data.length - msgSize - 4 := by omega
  unfold createPicture ReadsInside
  dsimp only
  rw [hremain]
  split_ifs with hshort hbroken
  all_goals
    simp only [List.cons_append, List.nil_append, List.forall_mem_cons,
      List.not_mem_nil, false_implies, implies_true, and_true]
    omega

theorem readsInside_create (beyond : ℕ → UInt8) (hlength : data.length < 2 ^ 32) :
    ReadsInside (create parcels beyond data).accesses data := by
  have hmsg := leValue_readBytes_lt data beyond 0
  unfold create
  dsimp only
  split_ifs with hshort hinfo
  · simp [ReadsInside]
  · simp only [ReadsInside, List.forall_mem_cons, List.not_mem_nil,
      false_implies, implies_true, and_true]
    omega
  · have hroom : leValue (readBytes data beyond 0 4) + 4 < data.length := by
      omega
    have hfields : ReadsInside
        [(0, 4), (4, leValue (readBytes data beyond 0 4))] data := by
      simp only [ReadsInside, List.forall_mem_cons, List.not_mem_nil,
        false_implies, implies_true, and_true]
      omega
    cases parcels.writeBuffer _ [] with
    | none => exact hfields
    | some dataParcel =>
        dsimp only
        cases fillSnapshot parcels dataParcel.2 0 with
        | none => exact hfields
        | some filled =>
            exact readsInside_createPicture beyond hlength hroom filled.1

theorem readBytes_beyond {off len : ℕ} (hbound : off + len ≤ data.length)
    (beyond other : ℕ → UInt8) :
    readBytes data beyond off len = readBytes data other off len := by
  rw [readBytes_eq_take_drop hbound, readBytes_eq_take_drop hbound]

theorem createPicture_beyond {msgSize : ℕ} (hlength : data.length < 2 ^ 32)
    (hroom : msgSize + 4 < data.length) (snapshot : Snapshot)
    (beyond other : ℕ → UInt8) :
    createPicture beyond data msgSize snapshot =
      createPicture other data msgSize snapshot := by
  have hremain : ((data.length - msgSize - 4 : ℤ) % 2 ^ 32).toNat =
      data.length - msgSize - 4 := by omega
  unfold createPicture
  dsimp only
  rw [hremain]
  by_cases hshort : data.length - msgSize - 4 < 4
  · rw [if_pos hshort, if_pos hshort]
  rw [if_neg hshort, if_neg hshort, readBytes_beyond (by omega) beyond other]
  have hpicture := leValue_readBytes_lt data other (4 + msgSize)
  split_ifs with hbroken
  · rfl
  rw [readBytes_beyond (by omega) beyond other]

theorem create_beyond (hlength : data.length < 2 ^ 32) (beyond other : ℕ → UInt8) :
    create parcels beyond data = create parcels other data := by
  have hmsg := leValue_readBytes_lt data other 0
  unfold create
  dsimp only
  by_cases hshort : data.length < 4
  · rw [if_pos hshort, if_pos hshort]
  rw [if_neg hshort, if_neg hshort,
    readBytes_beyond (not_lt.mp hshort) beyond other]
  split_ifs with hinfo
  · rfl
  have hroom : leValue (readBytes data other 0 4) + 4 < data.length := by
    omega
  rw [readBytes_beyond (by omega) beyond other]
  simp only [createPicture_beyond hlength hroom _ beyond other]

end Snapshot

end Bounds

/-! ## What is written and read -/

/-- Values take whole words and are read out of the parcel.  A number is its
four bytes, the lowest first, and a buffer is filled up to whole words.  A
buffer that a parcel takes behind other data is taken by an empty one, and no
parcel grows to a size that four bytes cannot tell. -/
structure ParcelPrimitives.CarriesSnapshot {Params : Type}
    (parcels : ParcelPrimitives Params) : Prop where
  int32 : ∀ value,
    CarriesWords (parcels.writeInt32 value) parcels.readInt32 value
  bool : ∀ value, CarriesWords (parcels.writeBool value) parcels.readBool value
  float : ∀ value,
    CarriesWords (parcels.writeFloat value) parcels.readFloat value
  string16 : ∀ text,
    CarriesWords (parcels.writeString16 text) parcels.string16 text
  uint8Vector : ∀ values,
    CarriesWords (parcels.writeUInt8Vector values) parcels.readUInt8Vector values
  uint32 : ∀ value data written,
    parcels.writeUint32 value data = some ((), written) →
    written = data ++ leBytes 4 value.toNat
  buffer : ∀ buffer data written,
    parcels.writeBuffer buffer data = some ((), written) →
    ∃ padding, written = data ++ buffer ++ padding ∧
      (buffer ++ padding).length = paddedSize buffer.length
  accepts : ∀ buffer data written,
    parcels.writeBuffer buffer data = some ((), written) →
    (parcels.writeBuffer buffer []).isSome = true
  capacity : ∀ buffer data written,
    parcels.writeBuffer buffer data = some ((), written) →
    written.length < 2 ^ 32

section Written

variable {Params : Type} {parcels : ParcelPrimitives Params}

theorem Rect.carriesWords (hcarries : parcels.CarriesSnapshot) (rect : Rect) :
    CarriesWords (rect.marshalling parcels) (Rect.unmarshalling parcels)
      (some rect) := by
  have hint : ∀ value, CarriesWords (parcels.writeInt32 value)
      (orDefault parcels.readInt32 0) value :=
    fun value => (hcarries.int32 value).orDefault 0
  exact (hint _).bind ((hint _).bind ((hint _).bind ((hint _).bind_pure rfl)))

theorem Rect.carriesWords_parcelable (hcarries : parcels.CarriesSnapshot)
    (rect : Option Rect) :
    CarriesWords (parcels.writeParcelable (Rect.marshalling parcels) rect)
      (parcels.readParcelable (Rect.unmarshalling parcels)) rect := by
  cases rect with
  | none => exact ((hcarries.int32 0).orDefault 0).bind_pure rfl
  | some rect =>
      exact ((hcarries.int32 1).orDefault 0).bind (rect.carriesWords hcarries)

namespace Snapshot

theorem carriesWords_fields (hcarries : parcels.CarriesSnapshot)
    (snapshot : Snapshot) :
    CarriesWords (snapshot.writeFields parcels) (fillSnapshot parcels)
      snapshot := by
  have hint := hcarries.int32
  have hbool := hcarries.bool
  have hstring := hcarries.string16
  have hvector := hcarries.uint8Vector
  have hrect := Rect.carriesWords_parcelable hcarries
  refine (hint _).bind ((hint _).bind ((hrect _).bind ?_))
  refine (hbool _).bind ((hcarries.float _).bind ((hbool _).bind ?_))
  refine (hint _).bind ((hint _).bind ((hbool _).bind ((hrect _).bind ?_)))
  refine (hstring _).bind ((hstring _).bind ((hvector _).bind ?_))
  exact (hstring _).bind ((hstring _).bind ((hvector _).bind
    ((hstring _).bind_pure rfl)))

theorem writeBlock_eq_some (hcarries : parcels.CarriesSnapshot)
    {block data written : Bytes}
    (hwritten : writeBlock parcels block data = some ((), written)) :
    ∃ padding, written = data ++ leBytes 4 block.length ++ block ++ padding ∧
      (block ++ padding).length = paddedSize block.length ∧
      written.length < 2 ^ 32 ∧ (parcels.writeBuffer block []).isSome = true := by
  obtain ⟨middle, hsize, hblock⟩ := bind_eq_some hwritten
  obtain ⟨padding, rfl, hpadded⟩ := hcarries.buffer block middle written hblock
  have hcapacity := hcarries.capacity block middle _ hblock
  have hsize := hcarries.uint32 _ data middle hsize
  have hlength : (UInt32.ofNat block.length).toNat = block.length := by
    rw [UInt32.toNat_ofNat']
    simp only [List.length_append] at hcapacity
    omega
  rw [hlength] at hsize
  exact ⟨padding, by rw [hsize], hpadded, hcapacity,
    hcarries.accepts block middle _ hblock⟩

variable {setDataCapacity : Bytes → ℕ → Bool} {getDataCapacity : Bytes → ℕ}

theorem writeBlock_of_writePixelMap {picture data written : Bytes}
    (hwritten : writePixelMap parcels getDataCapacity setDataCapacity picture
      data = some ((), written)) :
    writeBlock parcels picture data = some ((), written) := by
  unfold writePixelMap at hwritten
  dsimp only at hwritten
  split_ifs at hwritten <;> exact hwritten

theorem readBytes_block {data front block rest : Bytes} {off len : ℕ}
    (hdata : data = front ++ block ++ rest) (hoff : front.length = off)
    (hlen : block.length = len) (beyond : ℕ → UInt8) :
    readBytes data beyond off len = block := by
  rw [hdata, ← hoff, ← hlen, List.append_assoc,
    readBytes_append_of_le (by simp), List.take_left]

theorem written_eq (hcarries : parcels.CarriesSnapshot) {snapshot : Snapshot}
    {picture written : Bytes}
    (hwritten : (do
        snapshot.writeSnapshotInfo parcels
        writePixelMap parcels getDataCapacity setDataCapacity picture : Writer)
      [] = some ((), written)) :
    ∃ info padding, fillSnapshot parcels info 0 = some (snapshot, info.length) ∧
      parcels.writeBuffer info [] = some ((), info) ∧
      written = leBytes 4 info.length ++ info ++ leBytes 4 picture.length ++
        picture ++ padding ∧ written.length < 2 ^ 32 := by
  obtain ⟨first, hinfo, hpicture⟩ := bind_eq_some hwritten
  obtain ⟨⟨_, info⟩, hfields, hblock⟩ := Option.bind_eq_some_iff.mp hinfo
  obtain ⟨padding, rfl, hpadded, -, haccepts⟩ :=
    writeBlock_eq_some hcarries hblock
  have hwords := carriesWords_fields hcarries snapshot
  obtain ⟨image, himage, hread⟩ := hwords.carries [] info hfields
  have haligned : info.length % 4 = 0 := hwords.aligned [] info hfields
  have hwhole : paddedSize info.length = info.length := by
    unfold paddedSize
    omega
  -- nothing is filled up behind the fields
  have hpadding : padding = [] := by
    rw [hwhole, List.length_append] at hpadded
    exact List.length_eq_zero_iff.mp (by omega)
  subst hpadding
  -- a parcel that takes the fields takes them unchanged
  obtain ⟨⟨_, taken⟩, htaken⟩ := Option.isSome_iff_exists.mp haccepts
  obtain ⟨filling, rfl, hfilled⟩ := hcarries.buffer info [] taken htaken
  have hfilling : filling = [] := by
    rw [hwhole, List.length_append] at hfilled
    exact List.length_eq_zero_iff.mp (by omega)
  subst hfilling
  obtain ⟨padding, rfl, -, hlength, -⟩ :=
    writeBlock_eq_some hcarries (writeBlock_of_writePixelMap hpicture)
  have hfilled := hread []
  rw [List.append_nil] at hfilled
  refine ⟨info, padding, hfilled, by simpa using htaken, by simp, hlength⟩

theorem create_written (hcarries : parcels.CarriesSnapshot) {snapshot : Snapshot}
    {picture written : Bytes}
    (hwritten : (do
        snapshot.writeSnapshotInfo parcels
        writePixelMap parcels getDataCapacity setDataCapacity picture : Writer)
      [] = some ((), written)) (beyond : ℕ → UInt8) :
    (create parcels beyond written).snapshot = some snapshot ∧
      (create parcels beyond written).pixelBlock = some picture := by
  obtain ⟨info, padding, hfilled, hbuffer, hbytes, hlength⟩ :=
    written_eq hcarries hwritten
  have hsize : written.length =
      4 + info.length + 4 + picture.length + padding.length := by
    rw [hbytes]
    simp only [List.length_append, length_leBytes]
  have hmsg : readBytes written beyond 0 4 = leBytes 4 info.length := by
    have hdata : written = [] ++ leBytes 4 info.length ++
        (info ++ leBytes 4 picture.length ++ picture ++ padding) := by
      rw [hbytes]
      simp only [List.append_assoc, List.nil_append]
    exact readBytes_block hdata rfl (length_leBytes 4 _) beyond
  have hinfo : readBytes written beyond 4 info.length = info := by
    have hdata : written = leBytes 4 info.length ++ info ++
        (leBytes 4 picture.length ++ picture ++ padding) := by
      rw [hbytes]
      simp only [List.append_assoc]
    exact readBytes_block hdata (length_leBytes 4 _) rfl beyond
  have hlen : readBytes written beyond (4 + info.length) 4 =
      leBytes 4 picture.length := by
    have hdata : written = leBytes 4 info.length ++ info ++
        leBytes 4 picture.length ++ (picture ++ padding) := by
      rw [hbytes]
      simp only [List.append_assoc]
    exact readBytes_block hdata (by simp) (length_leBytes 4 _) beyond
  have hpicture : readBytes written beyond (4 + info.length + 4)
      picture.length = picture :=
    readBytes_block hbytes (by simp; omega) rfl beyond
  have hmsgSize : leValue (leBytes 4 info.length) = info.length :=
    leValue_leBytes (by omega)
  have hpictureSize : leValue (leBytes 4 picture.length) = picture.length :=
    leValue_leBytes (by omega)
  unfold create
  dsimp only
  rw [if_neg (by omega), hmsg, hmsgSize, if_neg (by omega), hinfo, hbuffer]
  dsimp only
  rw [hfilled]
  dsimp only
  have hremain : ((written.length - info.length - 4 : ℤ) % 2 ^ 32).toNat =
      4 + picture.length + padding.length := by omega
  unfold createPicture
  dsimp only
  rw [hremain, if_neg (by omega), hlen, hpictureSize, if_neg (by omega),
    hpicture]
  exact ⟨rfl, rfl⟩

/-- A vector is read inside only, whatever it holds, and the parcel of a
snapshot gives back its fields and hands on its picture. -/
theorem create_reads_restores (parcels : ParcelPrimitives Params)
    (getDataCapacity : Bytes → ℕ) (setDataCapacity : Bytes → ℕ → Bool) :
    (∀ (data : Bytes) (beyond other : ℕ → UInt8), data.length < 2 ^ 32 →
      ReadsInside (create parcels beyond data).accesses data ∧
        create parcels beyond data = create parcels other data) ∧
    (parcels.CarriesSnapshot →
      ∀ (snapshot : Snapshot) (picture written : Bytes) (beyond : ℕ → UInt8),
        (do
          snapshot.writeSnapshotInfo parcels
          writePixelMap parcels getDataCapacity setDataCapacity picture : Writer)
        [] = some ((), written) →
        (create parcels beyond written).snapshot = some snapshot ∧
          (create parcels beyond written).pixelBlock = some picture) := by
  constructor
  · intro data beyond other hlength
    exact ⟨readsInside_create beyond hlength,
      create_beyond hlength beyond other⟩
  · intro hcarries snapshot picture written beyond hwritten
    exact create_written hcarries hwritten beyond

end Snapshot

end Written

/-! ## A picture of three bytes -/

section Sample

theorem carriesSnapshot_wordPrimitives : wordPrimitives.CarriesSnapshot where
  int32 value := carriesWords_word (transfers_wordInt32 value)
  bool value := carriesWords_word (transfers_wordBool value)
  float value := carriesWords_word (transfers_wordUint32 value)
  string16 := carriesWords_known
  uint8Vector values := by
    by_cases hempty : values = []
    · subst hempty
      exact carriesWords_word (transfers_word (by decide) rfl)
    · have hrefused : wordPrimitives.writeUInt8Vector values =
          DistributedWantParams.refuse := if_neg hempty
      rw [hrefused]
      exact carriesWords_refused _ _
  uint32 value data written hwritten := by
    cases hwritten
    rfl
  buffer buffer data written hwritten := by
    obtain ⟨rfl, -⟩ := writeBuffer_eq_some hwritten
    exact ⟨_, (List.append_assoc _ _ _).symm, length_paddedImage buffer⟩
  accepts buffer data written hwritten := by
    obtain ⟨-, hfits⟩ := writeBuffer_eq_some hwritten
    have hempty : ([] : Bytes).length + paddedSize buffer.length ≤ wordCapacity :=
      (Nat.add_le_add_right (Nat.zero_le data.length) _).trans hfits
    simp only [wordPrimitives]
    rw [if_pos hempty]
    rfl
  capacity buffer data written hwritten := by
    obtain ⟨rfl, hfits⟩ := writeBuffer_eq_some hwritten
    rw [List.length_append, length_paddedImage]
    exact hfits.trans_lt (by decide)

def sampleSnapshot : Snapshot where
  version := 1
  rect := some { right := 720, bottom := 1280 }
  scale := 1065353216
  appLabel := asciiToStr16 "a".toList
  sourceDeviceTips := asciiToStr16 "b".toList

def sampleBytes : Bytes :=
  (((do
      sampleSnapshot.writeSnapshotInfo wordPrimitives
      Snapshot.writePixelMap wordPrimitives (fun _ => 0) (fun _ _ => true)
        [1, 2, 3] : Writer) []).map Prod.snd).getD []

theorem create_sample :
    Snapshot.ReadsInside
        (Snapshot.create wordPrimitives (fun _ => 7) sampleBytes).accesses
        sampleBytes ∧
      (Snapshot.create wordPrimitives (fun _ => 7) sampleBytes).snapshot =
        some sampleSnapshot ∧
      (Snapshot.create wordPrimitives (fun _ => 7) sampleBytes).pixelBlock =
        some [1, 2, 3] := by
  have hcreate := Snapshot.create_reads_restores wordPrimitives (fun _ => 0)
    fun _ _ => true
  have hlength : sampleBytes.length < 2 ^ 32 := by decide +kernel
  refine ⟨(hcreate.1 sampleBytes (fun _ => 7) (fun _ => 7) hlength).1, ?_⟩
  refine hcreate.2 carriesSnapshot_wordPrimitives _ _ _ _ ?_
  rfl

end Sample

end Dmsfwk
