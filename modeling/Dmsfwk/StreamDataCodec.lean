import Dmsfwk.AVStreamFilters
import Dmsfwk.DecimalText
import Dmsfwk.SinkStartRoundTrip

/-!
# The extension of a frame as JSON

A frame travels with its flag, its index and what the flag selects.  The flag
and the index are JSON numbers which the receiver takes from `valueint`, the
sizes of a pixel map are read from the number itself, and the times are decimal
texts.
-/

namespace Dmsfwk
namespace StreamDataCodec

open CJson

/-! ## The extension -/

/-- The enumerations of the source have `uint32_t` below them, and a received
number is cast to them whatever it is. -/
structure SurfaceParam where
  rotate : UInt32 := 0
  filp : UInt32 := 0
  deriving DecidableEq, Repr

structure AVTransStreamDataExt where
  flag : UInt32 := 4
  index : UInt32 := 0
  pts : UInt64 := 0
  startEncodeT : UInt64 := 0
  finishEncodeT : UInt64 := 0
  sendEncodeT : UInt64 := 0
  pixelMapOption : PixelMapPackOption := {}
  surfaceParam : SurfaceParam := {}
  deriving DecidableEq, Repr

def avcodecBufferFlagPixelMap : UInt32 := 5

def avcodecBufferFlagSurfaceParam : UInt32 := 6

/-! ## Writing -/

def numberItem (key : String) (value : ℕ) : String × Json :=
  (key, .number (value : ℚ))

def timeItem (key : String) (time : UInt64) : String × Json :=
  (key, .string (cStr (DecimalText.ofInt time.toNat)))

def writeExtPixelMapPackOption (ext : AVTransStreamDataExt) : String × Json :=
  ("pixel_map", .object [
    numberItem "quality" ext.pixelMapOption.quality.toNat,
    numberItem "width" ext.pixelMapOption.width.toNat,
    numberItem "height" ext.pixelMapOption.height.toNat])

def writeExtSurfaceParam (ext : AVTransStreamDataExt) : String × Json :=
  ("surface_param", .object [
    numberItem "rotate" ext.surfaceParam.rotate.toNat,
    numberItem "filp" ext.surfaceParam.filp.toNat])

def serializeStreamDataExt (ext : AVTransStreamDataExt) : Json :=
  let selected :=
    if ext.flag = avcodecBufferFlagPixelMap then
      [writeExtPixelMapPackOption ext]
    else if ext.flag = avcodecBufferFlagSurfaceParam then
      [writeExtSurfaceParam ext]
    else
      [timeItem "pts" ext.pts, timeItem "startEncodeT" ext.startEncodeT,
        timeItem "finishEncodeT" ext.finishEncodeT,
        timeItem "sendEncodeT" ext.sendEncodeT]
  .object (numberItem "flag" ext.flag.toNat ::
    numberItem "index" ext.index.toNat :: selected)

/-! ## Reading -/

/-- `strtoull` with base ten: a value that does not fit is the largest one, a
negative one wraps. -/
def strtoull (text : List Char) : UInt64 :=
  let value := DecimalText.toInt text
  if 2 ^ 64 ≤ value.natAbs then UInt64.ofNat (2 ^ 64 - 1)
  else UInt64.ofInt value

/-- A member that is a number, from its `valueint`; any other leaves what was
there. -/
def readValueint (json : Json) (key : String) (before : UInt32) : UInt32 :=
  match json.getObjectItemCaseSensitive key with
  | some (.number value) => (toValueint value).toUInt32
  | _ => before

/-- A member that is a number, truncated.  The language leaves open what the
cast of a value out of range is. -/
def readNumberValue {T : Type} (cast : ℤ → T) (json : Json) (key : String)
    (before : T) : T :=
  match json.getObjectItemCaseSensitive key with
  | some (.number value) => cast (value.num.tdiv value.den)
  | _ => before

def readTime (json : Json) (key : String) (before : UInt64) : UInt64 :=
  match json.getObjectItemCaseSensitive key with
  | some (.string text) => strtoull (cStr text)
  | _ => before

def readExtPixelMapPackOption (json : Json) (before : PixelMapPackOption) :
    PixelMapPackOption :=
  match json.getObjectItemCaseSensitive "pixel_map" with
  | none => before
  | some item => {
      quality := readNumberValue UInt8.ofInt item "quality" before.quality
      width := readNumberValue UInt32.ofInt item "width" before.width
      height := readNumberValue UInt32.ofInt item "height" before.height }

def readExtSurfaceParam (json : Json) (before : SurfaceParam) : SurfaceParam :=
  match json.getObjectItemCaseSensitive "surface_param" with
  | some (.object members) => {
      rotate := readValueint (.object members) "rotate" before.rotate
      filp := readValueint (.object members) "filp" before.filp }
  | _ => before

def deserializeExtFromJson (root : Json) (before : AVTransStreamDataExt) :
    AVTransStreamDataExt :=
  let dataExt := { before with
    flag := readValueint root "flag" before.flag
    index := readValueint root "index" before.index }
  if dataExt.flag = avcodecBufferFlagPixelMap then
    { dataExt with
      pixelMapOption := readExtPixelMapPackOption root before.pixelMapOption }
  else if dataExt.flag = avcodecBufferFlagSurfaceParam then
    { dataExt with
      surfaceParam := readExtSurfaceParam root before.surfaceParam }
  else
    { dataExt with
      pts := readTime root "pts" before.pts
      startEncodeT := readTime root "startEncodeT" before.startEncodeT
      finishEncodeT := readTime root "finishEncodeT" before.finishEncodeT
      sendEncodeT := readTime root "sendEncodeT" before.sendEncodeT }

def deserializeStreamDataExt (library : Library) (data : Option (List Char))
    (before : AVTransStreamDataExt) : CollabErr × AVTransStreamDataExt :=
  match data with
  | none => (.nullPointerError, before)
  | some text =>
      match library.parse (cStr text) with
      | none => (.parseAvTransStreamExtFailed, before)
      | some root => (.errOk, deserializeExtFromJson root before)

/-! ## What should come back -/

def SelectedEq (sent received : AVTransStreamDataExt) : Prop :=
  if sent.flag = avcodecBufferFlagPixelMap then
    received.pixelMapOption = sent.pixelMapOption
  else if sent.flag = avcodecBufferFlagSurfaceParam then
    received.surfaceParam = sent.surfaceParam
  else
    received.pts = sent.pts ∧ received.startEncodeT = sent.startEncodeT ∧
      received.finishEncodeT = sent.finishEncodeT ∧
      received.sendEncodeT = sent.sendEncodeT

structure Restored (sent received : AVTransStreamDataExt) : Prop where
  flag : received.flag = sent.flag
  index : received.index = sent.index
  selected : SelectedEq sent received

def Restores (library : Library) (ext : AVTransStreamDataExt) : Prop :=
  ∀ before, ∃ received,
    deserializeStreamDataExt library
      (library.print (serializeStreamDataExt ext)) before =
        (.errOk, received) ∧
    Restored ext received

def intMax : ℕ := 2147483647

/-- Every number that is read from `valueint` fits it. -/
structure FitsValueint (ext : AVTransStreamDataExt) : Prop where
  flag : ext.flag.toNat ≤ intMax
  index : ext.index.toNat ≤ intMax
  surfaceParam : ext.flag = avcodecBufferFlagSurfaceParam →
    ext.surfaceParam.rotate.toNat ≤ intMax ∧
      ext.surfaceParam.filp.toNat ≤ intMax

/-! ## Numbers and times -/

/-- What comes back of a number which is read from `valueint`. -/
def throughValueint (word : UInt32) : UInt32 :=
  (toValueint (word.toNat : ℚ)).toUInt32

theorem throughValueint_of_le {word : UInt32} (hfits : word.toNat ≤ intMax) :
    throughValueint word = word := by
  have hint : (Int32.ofInt word.toNat).toInt = word.toNat := by
    refine Int32.toInt_ofInt_of_le ?_ ?_ <;> unfold intMax at hfits <;> omega
  have hvalue := toValueint_intCast (Int32.ofInt word.toNat)
  rw [hint, Int.cast_natCast] at hvalue
  rw [throughValueint, hvalue]
  apply UInt32.toBitVec_inj.mp
  change BitVec.ofInt 32 (word.toBitVec.toNat : ℤ) = word.toBitVec
  rw [BitVec.ofInt_natCast, BitVec.ofNat_toNat, BitVec.setWidth_eq]

theorem throughValueint_of_lt {word : UInt32} (hlarge : intMax < word.toNat) :
    throughValueint word = 2147483647 := by
  have hmax : (Int32.maxValue.toInt : ℚ) ≤ word.toNat := by
    have hle : Int32.maxValue.toInt ≤ (word.toNat : ℤ) := by
      have hvalue : Int32.maxValue.toInt = 2147483647 := by decide
      unfold intMax at hlarge
      omega
    exact_mod_cast hle
  rw [throughValueint, toValueint, if_pos hmax]
  rfl

theorem throughValueint_eq_iff (word : UInt32) :
    throughValueint word = word ↔ word.toNat ≤ intMax := by
  refine ⟨fun hsame => ?_, throughValueint_of_le⟩
  by_contra hlarge
  rw [throughValueint_of_lt (not_le.mp hlarge)] at hsame
  exact hlarge (by rw [← hsame]; decide)

theorem ofInt_toNat8 (word : UInt8) : UInt8.ofInt word.toNat = word := by
  have hlt := word.toNat_lt
  rw [UInt8.ofInt, Int.emod_eq_of_lt (by omega) (by omega), Int.toNat_natCast,
    UInt8.ofNat_toNat]

theorem ofInt_toNat32 (word : UInt32) : UInt32.ofInt word.toNat = word := by
  have hlt := word.toNat_lt
  rw [UInt32.ofInt, Int.emod_eq_of_lt (by omega) (by omega), Int.toNat_natCast,
    UInt32.ofNat_toNat]

theorem strtoull_ofInt (time : UInt64) :
    strtoull (DecimalText.ofInt time.toNat) = time := by
  have hlt := time.toNat_lt
  rw [strtoull, DecimalText.toInt_ofInt, Int.natAbs_natCast,
    if_neg (by omega), UInt64.ofInt, Int.emod_eq_of_lt (by omega) (by omega),
    Int.toNat_natCast, UInt64.ofNat_toNat]

theorem cStr_ofInt (value : ℤ) :
    cStr (DecimalText.ofInt value) = DecimalText.ofInt value := by
  refine cStr_of_nul_not_mem fun hnul => ?_
  rcases DecimalText.mem_ofInt hnul with heq | hdigit
  · exact absurd heq (by decide)
  · exact absurd hdigit (by decide)

/-! ## Members that are read back -/

section Members

variable {json : Json} {key : String}

theorem readValueint_numberItem {word : UInt32} (before : UInt32)
    (hitem : json.getObjectItemCaseSensitive key =
      some (numberItem key word.toNat).2) :
    readValueint json key before = throughValueint word := by
  rw [readValueint, hitem]
  rfl

theorem readNumberValue_numberItem {T : Type} (cast : ℤ → T) {value : ℕ}
    (before : T)
    (hitem : json.getObjectItemCaseSensitive key =
      some (numberItem key value).2) :
    readNumberValue cast json key before = cast value := by
  rw [readNumberValue, hitem]
  simp only [numberItem, Rat.num_natCast, Rat.den_natCast, Nat.cast_one,
    Int.tdiv_one]

theorem readTime_timeItem {time : UInt64} (before : UInt64)
    (hitem : json.getObjectItemCaseSensitive key =
      some (timeItem key time).2) :
    readTime json key before = time := by
  rw [readTime, hitem]
  simp only [timeItem, cStr_ofInt, strtoull_ofInt]

end Members

section Reading

variable (ext before : AVTransStreamDataExt)

theorem readValueint_flag (value : UInt32) :
    readValueint (serializeStreamDataExt ext) "flag" value =
      throughValueint ext.flag :=
  readValueint_numberItem value rfl

theorem readValueint_index (value : UInt32) :
    readValueint (serializeStreamDataExt ext) "index" value =
      throughValueint ext.index :=
  readValueint_numberItem value rfl

theorem readExtPixelMapPackOption_serialize
    (hflag : ext.flag = avcodecBufferFlagPixelMap) (option : PixelMapPackOption) :
    readExtPixelMapPackOption (serializeStreamDataExt ext) option =
      ext.pixelMapOption := by
  have hitem : (serializeStreamDataExt ext).getObjectItemCaseSensitive
      "pixel_map" = some (writeExtPixelMapPackOption ext).2 := by
    rw [serializeStreamDataExt, if_pos hflag]
    rfl
  let item := (writeExtPixelMapPackOption ext).2
  have hquality : readNumberValue UInt8.ofInt item "quality" option.quality =
      ext.pixelMapOption.quality :=
    (readNumberValue_numberItem UInt8.ofInt _ rfl).trans (ofInt_toNat8 _)
  have hwidth : readNumberValue UInt32.ofInt item "width" option.width =
      ext.pixelMapOption.width :=
    (readNumberValue_numberItem UInt32.ofInt _ rfl).trans (ofInt_toNat32 _)
  have hheight : readNumberValue UInt32.ofInt item "height" option.height =
      ext.pixelMapOption.height :=
    (readNumberValue_numberItem UInt32.ofInt _ rfl).trans (ofInt_toNat32 _)
  rw [readExtPixelMapPackOption, hitem]
  dsimp only
  rw [hquality, hwidth, hheight]

theorem readExtSurfaceParam_serialize
    (hflag : ext.flag = avcodecBufferFlagSurfaceParam) (param : SurfaceParam) :
    readExtSurfaceParam (serializeStreamDataExt ext) param =
      { rotate := throughValueint ext.surfaceParam.rotate
        filp := throughValueint ext.surfaceParam.filp } := by
  have hother : ¬ ext.flag = avcodecBufferFlagPixelMap := by
    rw [hflag]
    decide
  have hitem : (serializeStreamDataExt ext).getObjectItemCaseSensitive
      "surface_param" = some (writeExtSurfaceParam ext).2 := by
    rw [serializeStreamDataExt, if_neg hother, if_pos hflag]
    rfl
  rw [readExtSurfaceParam, hitem]
  rfl

theorem readTime_serialize (hpixelMap : ¬ ext.flag = avcodecBufferFlagPixelMap)
    (hsurfaceParam : ¬ ext.flag = avcodecBufferFlagSurfaceParam)
    (before : AVTransStreamDataExt) :
    let root := serializeStreamDataExt ext
    readTime root "pts" before.pts = ext.pts ∧
      readTime root "startEncodeT" before.startEncodeT = ext.startEncodeT ∧
      readTime root "finishEncodeT" before.finishEncodeT = ext.finishEncodeT ∧
      readTime root "sendEncodeT" before.sendEncodeT = ext.sendEncodeT := by
  dsimp only
  rw [serializeStreamDataExt, if_neg hpixelMap, if_neg hsurfaceParam]
  exact ⟨readTime_timeItem _ rfl, readTime_timeItem _ rfl,
    readTime_timeItem _ rfl, readTime_timeItem _ rfl⟩

theorem deserializeExtFromJson_heads :
    let received := deserializeExtFromJson (serializeStreamDataExt ext) before
    received.flag = throughValueint ext.flag ∧
      received.index = throughValueint ext.index := by
  dsimp only [deserializeExtFromJson]
  rw [readValueint_flag, readValueint_index]
  split_ifs <;> exact ⟨rfl, rfl⟩

theorem selectedEq_iff (hflag : throughValueint ext.flag = ext.flag) :
    SelectedEq ext
        (deserializeExtFromJson (serializeStreamDataExt ext) before) ↔
      (ext.flag = avcodecBufferFlagSurfaceParam →
        ext.surfaceParam.rotate.toNat ≤ intMax ∧
          ext.surfaceParam.filp.toNat ≤ intMax) := by
  dsimp only [deserializeExtFromJson, SelectedEq]
  rw [readValueint_flag, readValueint_index, hflag]
  by_cases hpixelMap : ext.flag = avcodecBufferFlagPixelMap
  · have hother : ¬ ext.flag = avcodecBufferFlagSurfaceParam := by
      rw [hpixelMap]
      decide
    rw [if_pos hpixelMap, if_pos hpixelMap,
      readExtPixelMapPackOption_serialize ext hpixelMap]
    exact iff_of_true rfl fun h => absurd h hother
  · rw [if_neg hpixelMap, if_neg hpixelMap]
    by_cases hsurfaceParam : ext.flag = avcodecBufferFlagSurfaceParam
    · rw [if_pos hsurfaceParam, if_pos hsurfaceParam,
        readExtSurfaceParam_serialize ext hsurfaceParam,
        imp_iff_right hsurfaceParam, ← throughValueint_eq_iff,
        ← throughValueint_eq_iff]
      cases ext.surfaceParam
      exact Iff.of_eq (SurfaceParam.mk.injEq ..)
    · rw [if_neg hsurfaceParam, if_neg hsurfaceParam]
      exact iff_of_true
        (readTime_serialize ext hpixelMap hsurfaceParam before)
        fun h => absurd h hsurfaceParam

theorem restored_iff :
    Restored ext (deserializeExtFromJson (serializeStreamDataExt ext) before) ↔
      FitsValueint ext := by
  obtain ⟨hflag, hindex⟩ := deserializeExtFromJson_heads ext before
  constructor
  · intro hrestored
    have hsame : throughValueint ext.flag = ext.flag :=
      hflag.symm.trans hrestored.flag
    exact {
      flag := (throughValueint_eq_iff _).mp hsame
      index := (throughValueint_eq_iff _).mp (hindex.symm.trans hrestored.index)
      surfaceParam := (selectedEq_iff ext before hsame).mp hrestored.selected }
  · intro hfits
    have hsame := throughValueint_of_le hfits.flag
    exact {
      flag := hflag.trans hsame
      index := hindex.trans (throughValueint_of_le hfits.index)
      selected := (selectedEq_iff ext before hsame).mpr hfits.surfaceParam }

end Reading

/-! ## The codec -/

open SinkStartCmd

section Codec

variable {library : Library} {ext : AVTransStreamDataExt}

theorem deserializeStreamDataExt_of_keeps
    (hkeeps : library.Keeps (serializeStreamDataExt ext))
    (before : AVTransStreamDataExt) :
    deserializeStreamDataExt library
        (library.print (serializeStreamDataExt ext)) before =
      (.errOk, deserializeExtFromJson (serializeStreamDataExt ext) before) := by
  obtain ⟨text, hprint, hnul, hparse⟩ := hkeeps
  rw [hprint, deserializeStreamDataExt, cStr_of_nul_not_mem hnul, hparse]

/-- An extension comes back exactly when what is read from `valueint` fits
it. -/
theorem restores_iff_fitsValueint
    (hkeeps : library.Keeps (serializeStreamDataExt ext)) :
    Restores library ext ↔ FitsValueint ext := by
  constructor
  · intro hrestores
    obtain ⟨received, hreceived, hrestored⟩ := hrestores {}
    rw [deserializeStreamDataExt_of_keeps hkeeps] at hreceived
    obtain rfl := (Prod.mk.inj hreceived).2
    exact (restored_iff ext {}).mp hrestored
  · intro hfits before
    exact ⟨_, deserializeStreamDataExt_of_keeps hkeeps before,
      (restored_iff ext before).mpr hfits⟩

end Codec

theorem keeps_single {ext : AVTransStreamDataExt}
    (hnul : NulFree [formatted.printObject (serializeStreamDataExt ext)]) :
    (flatLibrary [serializeStreamDataExt ext]).Keeps
      (serializeStreamDataExt ext) :=
  keeps_flatLibrary (List.pairwise_singleton _ _) hnul List.mem_cons_self

theorem restores_firstFrame :
    Restores (flatLibrary [serializeStreamDataExt { index := 1, pts := 40 }])
      { index := 1, pts := 40 } :=
  (restores_iff_fitsValueint (keeps_single (by decide +kernel))).mpr {
    flag := by decide
    index := by decide
    surfaceParam := fun h => absurd h (by decide) }

/-- The index after 2147483647. -/
theorem not_restores_largeIndex :
    ¬ ∀ (library : Library) (ext : AVTransStreamDataExt),
      library.Keeps (serializeStreamDataExt ext) → Restores library ext := by
  intro hall
  let ext : AVTransStreamDataExt := { index := 2147483648 }
  have hkeeps : (flatLibrary [serializeStreamDataExt ext]).Keeps
      (serializeStreamDataExt ext) := keeps_single (by decide +kernel)
  obtain ⟨received, hreceived, hrestored⟩ := hall _ ext hkeeps {}
  rw [deserializeStreamDataExt_of_keeps hkeeps] at hreceived
  obtain rfl := (Prod.mk.inj hreceived).2
  have hindex : throughValueint 2147483648 = 2147483648 :=
    (deserializeExtFromJson_heads ext {}).2.symm.trans hrestored.index
  rw [throughValueint_of_lt (by decide)] at hindex
  exact absurd hindex (by decide)

end StreamDataCodec

end Dmsfwk
