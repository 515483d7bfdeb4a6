import Dmsfwk.DSchedContinueEvent
import Dmsfwk.SinkStartRoundTrip

/-!
# Continuation commands on the wire

What `Unmarshal` restores of a continuation command which `Marshal` wrote.  The
base reader skips the number of the command.  A data command loses more: the two
sides disagree on the key of the group list, and the extra information of the
caller is written but not read back.
-/

namespace Dmsfwk

open ByteCodec CJson

theorem exists_read_iff {α : Type} {marshalled : Option Text}
    {read : Text → Option α} {text : Text} {arrived cmd : α}
    (hmarshal : marshalled = some text) (hread : read text = some arrived) :
    (∃ sent, marshalled = some sent ∧ read sent = some cmd) ↔
      arrived = cmd := by
  simp [hmarshal, hread]

/-! ## Base command -/

namespace DSchedContinueCmdBase

def texts (cmd : DSchedContinueCmdBase) : List Text :=
  [cmd.srcDeviceId, cmd.srcBundleName, cmd.srcDeveloperId, cmd.dstDeviceId,
    cmd.dstBundleName, cmd.dstDeveloperId, cmd.continueType]

theorem read_json {cmd : DSchedContinueCmdBase} (hnul : NulFree cmd.texts)
    (initial : DSchedContinueCmdBase) :
    initial.read cmd.json =
      some { cmd with command := initial.command } := by
  simp only [NulFree, texts, List.mem_cons, List.not_mem_nil, or_false,
    forall_eq_or_imp, forall_eq] at hnul
  obtain ⟨hsrcDevice, hsrcBundle, hsrcDeveloper, hdstDevice, hdstBundle,
    hdstDeveloper, htype⟩ := hnul
  simp [read, json, Json.getNumber, Json.getString,
    Json.getObjectItemCaseSensitive, Json.ofInt32, toValueint_intCast,
    cStr_of_nul_not_mem, *]

def restored (cmd : DSchedContinueCmdBase) : DSchedContinueCmdBase :=
  { cmd with command := 0 }

theorem restored_eq_iff {cmd : DSchedContinueCmdBase} :
    cmd.restored = cmd ↔ cmd.command = 0 := by
  constructor
  · intro heq
    rw [← heq]
    rfl
  · intro hcommand
    rw [restored, ← hcommand]

theorem unmarshal_marshal {cjson : Library} {cmd : DSchedContinueCmdBase}
    (hnul : NulFree cmd.texts) (hkeeps : cjson.Keeps cmd.json) :
    ∃ text, cmd.marshal cjson = some text ∧ '\x00' ∉ text ∧
      ({} : DSchedContinueCmdBase).unmarshal cjson text =
        some cmd.restored := by
  obtain ⟨text, hprint, htext, hparse⟩ := hkeeps
  refine ⟨text, hprint, htext, ?_⟩
  rw [unmarshal, cStr_of_nul_not_mem htext, hparse, Option.bind_eq_bind,
    Option.bind_some, read_json hnul]
  rfl

end DSchedContinueCmdBase

theorem exists_read_iff_command {α : Type} {base : α → DSchedContinueCmdBase}
    {marshalled : Option Text} {read : Text → Option α} {text : Text}
    {arrived cmd : α} (hmarshal : marshalled = some text)
    (hread : read text = some arrived)
    (hbase : base arrived = (base cmd).restored)
    (hrest : (base cmd).restored = base cmd → arrived = cmd) :
    (∃ sent, marshalled = some sent ∧ read sent = some cmd) ↔
      (base cmd).command = 0 := by
  rw [exists_read_iff hmarshal hread, ← DSchedContinueCmdBase.restored_eq_iff]
  constructor
  · intro heq
    rw [← hbase, heq]
  · exact hrest

/-! ## Parcels -/

/-- The value round-trips through a parcel of its own, of which it takes exactly
the bytes it wrote. -/
def ParcelLibrary.Keeps {α : Type} (parcels : ParcelLibrary α) (value : α) :
    Prop :=
  ∃ data : Bytes,
    parcels.marshalling value {} = some { data := data } ∧
    parcels.setDataCapacity {} data.length = true ∧
    data.length ≤ parcels.maxCapacity ∧
    parcels.unmarshalling { data := data } = some (value, ⟨data, data.length⟩)

theorem ParcelLibrary.Keeps.ofImage_image {α : Type}
    {parcels : ParcelLibrary α} {value : α} (hkeeps : parcels.Keeps value) :
    ∃ text, parcels.image value = some text ∧
      parcels.ofImage (cStr text) = some value := by
  obtain ⟨data, hmarshal, hcapacity, hmax, hunmarshal⟩ := hkeeps
  refine ⟨base64Encode data, ?_, ?_⟩
  · rw [image, hmarshal]
    rfl
  · rw [ofImage, base64StrToParcel_image parcels data {} hcapacity hmax]
    simp [hunmarshal]

/-! ## Start command -/

namespace DSchedContinueStartCmd

variable {Params : Type} {cjson : Library} {parcels : ParcelLibrary Params}
  {cmd : DSchedContinueStartCmd Params}

/-- The libraries carry every part of the command: its strings are C strings,
the JSON values printed for it are read back, and its parameters round-trip
through a parcel. -/
structure Carried (cjson : Library) (parcels : ParcelLibrary Params)
    (cmd : DSchedContinueStartCmd Params) : Prop where
  nulFree : NulFree cmd.base.texts
  base : cjson.Keeps cmd.base.json
  root : ∀ root, cmd.document cjson parcels = some root → cjson.Keeps root
  params : parcels.Keeps cmd.wantParams

def RoundTrips (cjson : Library) (parcels : ParcelLibrary Params)
    (empty : Params) (cmd : DSchedContinueStartCmd Params) : Prop :=
  ∃ text, cmd.marshal cjson parcels = some text ∧
    ({ wantParams := empty } : DSchedContinueStartCmd Params).unmarshal cjson
      parcels text = some cmd

theorem unmarshal_marshal (hcarried : cmd.Carried cjson parcels)
    (empty : Params) :
    ∃ text, cmd.marshal cjson parcels = some text ∧
      ({ wantParams := empty } : DSchedContinueStartCmd Params).unmarshal
        cjson parcels text = some { cmd with base := cmd.base.restored } := by
  obtain ⟨baseText, hbaseMarshal, hbaseText, hbase⟩ :=
    DSchedContinueCmdBase.unmarshal_marshal hcarried.nulFree hcarried.base
  obtain ⟨paramsText, himage, hparams⟩ := hcarried.params.ofImage_image
  have hdocument : cmd.document cjson parcels =
      some (cmd.root baseText paramsText) := by
    rw [document, hbaseMarshal, himage]
    rfl
  obtain ⟨text, hprint, htext, hparse⟩ := hcarried.root _ hdocument
  refine ⟨text, ?_, ?_⟩
  · rw [marshal, hdocument]
    exact hprint
  · rw [unmarshal, cStr_of_nul_not_mem htext, hparse]
    simp [root, Json.getNumber, Json.getString,
      Json.getObjectItemCaseSensitive, Json.ofInt32, toValueint_intCast,
      cStr_of_nul_not_mem hbaseText, hbase, hparams]

theorem roundTrips_command_iff (hcarried : cmd.Carried cjson parcels)
    (empty : Params) :
    cmd.RoundTrips cjson parcels empty ↔ cmd.base.command = 0 := by
  obtain ⟨text, hmarshal, hunmarshal⟩ := unmarshal_marshal hcarried empty
  apply exists_read_iff_command hmarshal hunmarshal rfl
  intro hrestored
  rw [hrestored]

end DSchedContinueStartCmd

/-! ## Reply command -/

namespace DSchedContinueReplyCmd

variable {cjson : Library} {cmd : DSchedContinueReplyCmd}

structure Carried (cjson : Library) (cmd : DSchedContinueReplyCmd) :
    Prop where
  nulFree : NulFree (cmd.reason :: cmd.base.texts)
  base : cjson.Keeps cmd.base.json
  root : ∀ root, cmd.document cjson = some root → cjson.Keeps root

def RoundTrips (cjson : Library) (cmd : DSchedContinueReplyCmd) : Prop :=
  ∃ text, cmd.marshal cjson = some text ∧
    ({} : DSchedContinueReplyCmd).unmarshal cjson text = some cmd

theorem unmarshal_marshal (hcarried : cmd.Carried cjson) :
    ∃ text, cmd.marshal cjson = some text ∧
      ({} : DSchedContinueReplyCmd).unmarshal cjson text =
        some { cmd with base := cmd.base.restored } := by
  have hbaseNul : NulFree cmd.base.texts := fun text hmem =>
    hcarried.nulFree text (List.mem_cons_of_mem _ hmem)
  have hreason : cStr cmd.reason = cmd.reason :=
    cStr_of_nulFree hcarried.nulFree List.mem_cons_self
  obtain ⟨baseText, hbaseMarshal, hbaseText, hbase⟩ :=
    DSchedContinueCmdBase.unmarshal_marshal hbaseNul hcarried.base
  obtain ⟨text, hprint, htext, hparse⟩ :=
    hcarried.root _ (by rw [document, hbaseMarshal]; rfl)
  refine ⟨text, ?_, ?_⟩
  · rw [marshal, document, hbaseMarshal]
    exact hprint
  · rw [unmarshal, cStr_of_nul_not_mem htext, hparse]
    simp [Json.getNumber, Json.getString, Json.getObjectItemCaseSensitive,
      Json.ofInt32, toValueint_intCast, cStr_of_nul_not_mem hbaseText, hbase,
      hreason]

theorem roundTrips_command_iff (hcarried : cmd.Carried cjson) :
    cmd.RoundTrips cjson ↔ cmd.base.command = 0 := by
  obtain ⟨text, hmarshal, hunmarshal⟩ := unmarshal_marshal hcarried
  apply exists_read_iff_command hmarshal hunmarshal rfl
  intro hrestored
  rw [hrestored]

end DSchedContinueReplyCmd

/-! ## End command -/

namespace DSchedContinueEndCmd

variable {cjson : Library} {cmd : DSchedContinueEndCmd}

structure Carried (cjson : Library) (cmd : DSchedContinueEndCmd) : Prop where
  nulFree : NulFree cmd.base.texts
  base : cjson.Keeps cmd.base.json
  root : ∀ root, cmd.document cjson = some root → cjson.Keeps root

/-- The result of a fresh command has no initial value. -/
def RoundTrips (cjson : Library) (unset : Int32)
    (cmd : DSchedContinueEndCmd) : Prop :=
  ∃ text, cmd.marshal cjson = some text ∧
    ({ result := unset } : DSchedContinueEndCmd).unmarshal cjson text =
      some cmd

theorem unmarshal_marshal (hcarried : cmd.Carried cjson) (unset : Int32) :
    ∃ text, cmd.marshal cjson = some text ∧
      ({ result := unset } : DSchedContinueEndCmd).unmarshal cjson text =
        some { cmd with base := cmd.base.restored } := by
  obtain ⟨baseText, hbaseMarshal, hbaseText, hbase⟩ :=
    DSchedContinueCmdBase.unmarshal_marshal hcarried.nulFree hcarried.base
  obtain ⟨text, hprint, htext, hparse⟩ :=
    hcarried.root _ (by rw [document, hbaseMarshal]; rfl)
  refine ⟨text, ?_, ?_⟩
  · rw [marshal, document, hbaseMarshal]
    exact hprint
  · rw [unmarshal, cStr_of_nul_not_mem htext, hparse]
    simp [Json.getNumber, Json.getString, Json.getObjectItemCaseSensitive,
      Json.ofInt32, toValueint_intCast, cStr_of_nul_not_mem hbaseText, hbase]

theorem roundTrips_command_iff (hcarried : cmd.Carried cjson) (unset : Int32) :
    cmd.RoundTrips cjson unset ↔ cmd.base.command = 0 := by
  obtain ⟨text, hmarshal, hunmarshal⟩ := unmarshal_marshal hcarried unset
  apply exists_read_iff_command hmarshal hunmarshal rfl
  intro hrestored
  rw [hrestored]

end DSchedContinueEndCmd

/-! ## Data command -/

theorem int32Size_of_size {size : ℕ} :
    (size < 2 ^ 31 → int32Size size = size) ∧
      (2 ^ 31 ≤ size → int32Size size < size) := by
  have hsize : Int32.size = 2 ^ 32 := rfl
  rw [int32Size, Int32.toInt_ofNat', Int.bmod_def, hsize]
  constructor
  · intro hsmall
    split_ifs <;> omega
  · intro hlarge
    split_ifs <;> omega

theorem countedTexts_eq_iff (texts : List Text) :
    countedTexts texts = texts ↔ texts.length < 2 ^ 31 := by
  rw [countedTexts, List.take_eq_self_iff]
  constructor
  · intro hcounted
    by_contra hlarge
    have hless := int32Size_of_size.2 (not_lt.mp hlarge)
    omega
  · intro hsmall
    rw [int32Size_of_size.1 hsmall]

namespace DSchedContinueDataCmd

variable {Want AbilityInfo : Type} {cjson : Library} {dump : Json → Text}
  {wants : ParcelLibrary Want} {abilities : ParcelLibrary AbilityInfo}
  {cmd : DSchedContinueDataCmd Want AbilityInfo}

structure Carried (cjson : Library) (dump : Json → Text)
    (wants : ParcelLibrary Want) (abilities : ParcelLibrary AbilityInfo)
    (cmd : DSchedContinueDataCmd Want AbilityInfo) : Prop where
  nulFree : NulFree cmd.base.texts
  callerNulFree : NulFree cmd.callerInfo.texts
  accountNulFree : NulFree cmd.accountInfo.texts
  base : cjson.Keeps cmd.base.json
  caller : cjson.Keeps (cmd.callerJson dump)
  account : cjson.Keeps cmd.accountJson
  root : ∀ root, cmd.document cjson dump wants abilities = some root →
    cjson.Keeps root
  want : wants.Keeps cmd.want
  ability : abilities.Keeps cmd.abilityInfo

def fresh (want : Want) (abilityInfo : AbilityInfo) (unset : Int32) :
    DSchedContinueDataCmd Want AbilityInfo :=
  { want, abilityInfo, requestCode := unset }

def RoundTrips (cjson : Library) (dump : Json → Text)
    (wants : ParcelLibrary Want) (abilities : ParcelLibrary AbilityInfo)
    (initial cmd : DSchedContinueDataCmd Want AbilityInfo) : Prop :=
  ∃ text, cmd.marshal cjson dump wants abilities = some text ∧
    initial.unmarshal cjson wants abilities text = some cmd

/-- The command as it arrives, where `extra` is the parsed extra information of
the caller. -/
def restored (cmd : DSchedContinueDataCmd Want AbilityInfo) (extra : Json) :
    DSchedContinueDataCmd Want AbilityInfo :=
  { cmd with
    base := cmd.base.restored
    callerInfo :=
      { cmd.callerInfo with
        bundleNames := countedTexts cmd.callerInfo.bundleNames }.restored extra
    accountInfo := cmd.accountInfo.restored }

theorem root_getString (cmd : DSchedContinueDataCmd Want AbilityInfo)
    (baseText wantText abilityText callerText accountText : Text) :
    let root := cmd.root baseText wantText abilityText callerText accountText
    root.getString "BaseCmd" = some (cStr baseText) ∧
      root.getString "Want" = some (cStr wantText) ∧
      root.getString "AbilityInfo" = some (cStr abilityText) ∧
      root.getNumber "RequestCode" = some cmd.requestCode ∧
      root.getString "CallerInfo" = some (cStr callerText) ∧
      root.getString "AccountInfo" = some (cStr accountText) := by
  simp [DSchedContinueDataCmd.root, Json.getNumber, Json.getString,
    Json.getObjectItemCaseSensitive, Json.ofInt32, toValueint_intCast]

/-- What arrives of a data command: nothing if the extra information of the
caller does not parse, and else the restored command. -/
theorem unmarshal_marshal
    (hcarried : cmd.Carried cjson dump wants abilities) (want : Want)
    (abilityInfo : AbilityInfo) (unset : Int32) :
    ∃ text, cmd.marshal cjson dump wants abilities = some text ∧
      (fresh want abilityInfo unset).unmarshal cjson wants abilities text =
        (cjson.parse (cStr (dump cmd.callerInfo.extraInfoJson))).map
          cmd.restored := by
  obtain ⟨baseText, hbaseMarshal, hbaseText, hbase⟩ :=
    DSchedContinueCmdBase.unmarshal_marshal hcarried.nulFree hcarried.base
  obtain ⟨wantText, hwantImage, hwant⟩ := hcarried.want.ofImage_image
  obtain ⟨abilityText, habilityImage, hability⟩ :=
    hcarried.ability.ofImage_image
  obtain ⟨callerText, hcallerPrint, hcallerText, hcallerParse⟩ :=
    hcarried.caller
  obtain ⟨accountText, haccountPrint, haccountText, haccountParse⟩ :=
    hcarried.account
  have hcallerNul : NulFree
      { cmd.callerInfo with
        bundleNames := countedTexts cmd.callerInfo.bundleNames }.texts := by
    intro text hmem
    apply hcarried.callerNulFree
    simp only [CallerInfo.texts, List.mem_cons] at hmem ⊢
    exact hmem.imp_right (Or.imp_right List.mem_of_mem_take)
  have haccountNul : NulFree
      { cmd.accountInfo with
        groupIdList := countedTexts cmd.accountInfo.groupIdList }.texts := by
    intro text hmem
    apply hcarried.accountNulFree
    simp only [AccountInfo.texts, List.mem_cons] at hmem ⊢
    exact hmem.imp_right List.mem_of_mem_take
  have hcaller :=
    CallerInfo.unmarshal_json hcallerNul hcallerText hcallerParse
  have haccount :=
    AccountInfo.unmarshal_json haccountNul haccountText haccountParse
  have hdocument : cmd.document cjson dump wants abilities =
      some (cmd.root baseText wantText abilityText callerText accountText) := by
    simp only [document, hbaseMarshal, hwantImage, habilityImage, hcallerPrint,
      haccountPrint, Option.bind_eq_bind, Option.bind_some]
    rfl
  obtain ⟨text, hprint, htext, hparse⟩ := hcarried.root _ hdocument
  obtain ⟨hbaseStr, hwantStr, habilityStr, hrequestCode, hcallerStr,
    haccountStr⟩ := cmd.root_getString baseText wantText abilityText callerText
      accountText
  rw [cStr_of_nul_not_mem hbaseText] at hbaseStr
  rw [cStr_of_nul_not_mem hcallerText] at hcallerStr
  rw [cStr_of_nul_not_mem haccountText] at haccountStr
  refine ⟨text, ?_, ?_⟩
  · rw [marshal, hdocument]
    exact hprint
  · have hparcels : unmarshalParcel cjson wants abilities text =
        some (cmd.want, cmd.abilityInfo) := by
      rw [unmarshalParcel, cStr_of_nul_not_mem htext, hparse]
      simp only [Option.bind_eq_bind, Option.bind_some, hwantStr, hwant,
        habilityStr, hability]
      rfl
    simp only [unmarshal, fresh, cStr_of_nul_not_mem htext, hparse,
      Option.bind_eq_bind, Option.bind_some, hbaseStr, hbase, hparcels,
      hrequestCode, hcallerStr, hcaller, haccountStr, haccount]
    cases cjson.parse (cStr (dump cmd.callerInfo.extraInfoJson)) <;> rfl

/-- What `Unmarshal` cannot restore has its default value, and the bundle names
can be counted. -/
def Restorable (cmd : DSchedContinueDataCmd Want AbilityInfo) : Prop :=
  cmd.base.command = 0 ∧ cmd.callerInfo.bundleNames.length < 2 ^ 31 ∧
    cmd.callerInfo.dmsVersion = -1 ∧ cmd.callerInfo.accessToken = 0 ∧
    cmd.callerInfo.extraInfoJson = .null ∧ cmd.accountInfo.groupIdList = []

theorem restored_null_eq_iff : cmd.restored .null = cmd ↔ cmd.Restorable := by
  constructor
  · intro heq
    refine ⟨?_, ?_, ?_, ?_, ?_, ?_⟩
    · exact DSchedContinueCmdBase.restored_eq_iff.mp (congrArg base heq)
    · rw [← countedTexts_eq_iff]
      exact congrArg (fun arrived => arrived.callerInfo.bundleNames) heq
    · rw [← heq]
      rfl
    · rw [← heq]
      rfl
    · rw [← heq]
      rfl
    · rw [← heq]
      rfl
  · rintro ⟨hcommand, hnames, hdms, htoken, hextra, hgroups⟩
    have hbase := DSchedContinueCmdBase.restored_eq_iff.mpr hcommand
    have hcaller : { cmd.callerInfo with
        bundleNames :=
          countedTexts cmd.callerInfo.bundleNames }.restored .null =
        cmd.callerInfo := by
      have htokenNull : extraToken .null = cmd.callerInfo.accessToken :=
        htoken.symm
      rw [CallerInfo.restored, htokenNull, ← hextra, ← hdms,
        (countedTexts_eq_iff _).mpr hnames]
    have haccount : cmd.accountInfo.restored = cmd.accountInfo := by
      rw [AccountInfo.restored, ← hgroups]
    rw [restored, hbase, hcaller, haccount]

theorem roundTrips_command_iff (hcarried : cmd.Carried cjson dump wants abilities)
    (hdump : dump .null = "null".toList)
    (hnull : cjson.parse "null".toList = some .null) (want : Want)
    (abilityInfo : AbilityInfo) (unset : Int32) :
    RoundTrips cjson dump wants abilities (fresh want abilityInfo unset) cmd ↔
      cmd.Restorable := by
  have hnullText := SinkStartCmd.parse_dump_null hdump hnull
  obtain ⟨text, hmarshal, hunmarshal⟩ :=
    unmarshal_marshal hcarried want abilityInfo unset
  constructor
  · rintro ⟨sent, hsent, hread⟩
    obtain rfl := Option.some.inj (hmarshal.symm.trans hsent)
    rw [hunmarshal] at hread
    obtain ⟨extra, hextra, hrestored⟩ := Option.map_eq_some_iff.mp hread
    have hjson : cmd.callerInfo.extraInfoJson = .null := by
      rw [← hrestored]
      rfl
    rw [hjson, hnullText] at hextra
    obtain rfl := Option.some.inj hextra
    exact restored_null_eq_iff.mp hrestored
  · intro hrestorable
    refine ⟨text, hmarshal, ?_⟩
    rw [hunmarshal, hrestorable.2.2.2.2.1, hnullText, Option.map_some,
      restored_null_eq_iff.mpr hrestorable]

inductive SenderBuilt : Json → Prop where
  | version (dmsVersion : Int32) :
      SenderBuilt (.object [("dmsVersion", .ofInt32 dmsVersion)])
  | token (accessTokenID dmsVersion : Int32) :
      SenderBuilt (.object [("accessTokenID", .ofInt32 accessTokenID),
        ("dmsVersion", .ofInt32 dmsVersion)])

theorem not_restorable_of_senderBuilt
    (hbuilt : SenderBuilt cmd.callerInfo.extraInfoJson) :
    ¬cmd.Restorable := by
  rintro ⟨-, -, -, -, hextra, -⟩
  rw [hextra] at hbuilt
  cases hbuilt

end DSchedContinueDataCmd

/-! ## All commands -/

/-- A start, reply or end command survives the wire exactly when its number is
the initial one, and a data command exactly when it is restorable. -/
theorem survive_iff_restorable {Params Want AbilityInfo : Type}
    {cjson : Library} {dump : Json → Text} (params : ParcelLibrary Params)
    (wants : ParcelLibrary Want) (abilities : ParcelLibrary AbilityInfo)
    (hdump : dump .null = "null".toList)
    (hnull : cjson.parse "null".toList = some .null) :
    (∀ (cmd : DSchedContinueStartCmd Params) (empty : Params),
      cmd.Carried cjson params →
      (cmd.RoundTrips cjson params empty ↔ cmd.base.command = 0)) ∧
    (∀ (cmd : DSchedContinueDataCmd Want AbilityInfo) (want : Want)
      (abilityInfo : AbilityInfo) (unset : Int32),
      cmd.Carried cjson dump wants abilities →
      (DSchedContinueDataCmd.RoundTrips cjson dump wants abilities
        (DSchedContinueDataCmd.fresh want abilityInfo unset) cmd ↔
        cmd.Restorable)) ∧
    (∀ cmd : DSchedContinueReplyCmd, cmd.Carried cjson →
      (cmd.RoundTrips cjson ↔ cmd.base.command = 0)) ∧
    (∀ (cmd : DSchedContinueEndCmd) (unset : Int32), cmd.Carried cjson →
      (cmd.RoundTrips cjson unset ↔ cmd.base.command = 0)) := by
  refine ⟨?_, ?_, ?_, ?_⟩
  · intro cmd empty hcarried
    exact DSchedContinueStartCmd.roundTrips_command_iff hcarried empty
  · intro cmd want abilityInfo unset hcarried
    exact DSchedContinueDataCmd.roundTrips_command_iff hcarried hdump hnull want
      abilityInfo unset
  · intro cmd hcarried
    exact DSchedContinueReplyCmd.roundTrips_command_iff hcarried
  · intro cmd unset hcarried
    exact DSchedContinueEndCmd.roundTrips_command_iff hcarried unset

/-! ### Commands between two devices -/

open SinkStartCmd

def singleParcels (image : Bytes) : ParcelLibrary Unit where
  maxCapacity := 204800
  setDataCapacity := fun parcel newCapacity => parcel.data.length < newCapacity
  marshalling := fun _ parcel =>
    some { parcel with data := parcel.data ++ image }
  unmarshalling := fun parcel =>
    if (parcel.data.drop parcel.readCursor).take image.length = image then
      some ((), { parcel with readCursor := parcel.readCursor + image.length })
    else none

theorem keeps_singleParcels {image : Bytes} (hne : image ≠ [])
    (hmax : image.length ≤ 204800) : (singleParcels image).Keeps () :=
  ⟨image, rfl, by simpa [singleParcels] using List.length_pos_iff.mpr hne,
    hmax, by simp [singleParcels]⟩

def emptyString16 : Bytes := List.replicate 8 0

def emptyWant : Bytes :=
  emptyString16 ++ List.replicate 8 255 ++ List.replicate 4 0 ++
    List.replicate 8 255 ++ emptyString16

abbrev ParamList := List (Text × Text)

def sampleBase : DSchedContinueCmdBase where
  serviceType := 1
  srcDeviceId := "a".toList
  srcBundleName := "app".toList
  dstDeviceId := "b".toList
  dstBundleName := "app".toList
  continueType := "page".toList
  sourceMissionId := 7
  dmsVersion := 5

def sampleStart : DSchedContinueStartCmd ParamList where
  base := sampleBase
  direction := 1
  appVersion := 1000000
  wantParams := []

def sampleData : DSchedContinueDataCmd Unit Unit where
  base := sampleBase
  want := ()
  abilityInfo := ()
  requestCode := -1
  callerInfo := { uid := 20010010, pid := 100, bundleNames := ["app".toList] }
  accountInfo := { accountType := 0, userId := 100 }

def sampleReply : DSchedContinueReplyCmd where
  base := sampleBase
  replyCmd := 1
  appVersion := 1000000
  reason := "ExecuteContinueReply".toList

def sampleEnd : DSchedContinueEndCmd where
  base := sampleBase
  result := 29360227

/-- The same data command as `PackDataCmd` fills it, for an account with a
group. -/
def groupedData : DSchedContinueDataCmd Unit Unit :=
  { sampleData with
    base := { sampleBase with command := 2 }
    callerInfo :=
      { sampleData.callerInfo with
        extraInfoJson := .object [("dmsVersion", .ofInt32 5)] }
    accountInfo := { sampleData.accountInfo with groupIdList := ["g".toList] } }

def printedForData (cmd : DSchedContinueDataCmd Unit Unit) : List Json :=
  [.null, cmd.base.json, cmd.callerJson compact.printObject,
    cmd.accountJson] ++
    (cmd.document (flatLibrary []) compact.printObject
      (singleParcels emptyWant) (singleParcels emptyString16)).toList

def sampleKnown : List Json :=
  printedForData sampleData ++
    (sampleStart.document (flatLibrary []) emptySetParcels).toList ++
    (sampleReply.document (flatLibrary [])).toList ++
    (sampleEnd.document (flatLibrary [])).toList

def groupedKnown : List Json :=
  groupedData.callerInfo.extraInfoJson :: printedForData groupedData

theorem keeps_document {known : List Json}
    (hdistinct : known.Pairwise Distinct)
    (hprinted : NulFree (known.map formatted.printObject))
    {document : Option Json} (hknown : document.toList ⊆ known) (root : Json)
    (hroot : document = some root) : (flatLibrary known).Keeps root := by
  apply keeps_flatLibrary hdistinct hprinted
  apply hknown
  rw [hroot]
  exact List.mem_singleton_self root

theorem carried_singleParcels {cmd : DSchedContinueDataCmd Unit Unit}
    {known : List Json} (hknown : printedForData cmd ⊆ known)
    (hbase : NulFree cmd.base.texts) (hcaller : NulFree cmd.callerInfo.texts)
    (haccount : NulFree cmd.accountInfo.texts)
    (hdistinct : known.Pairwise Distinct)
    (hprinted : NulFree (known.map formatted.printObject)) :
    cmd.Carried (flatLibrary known) compact.printObject
      (singleParcels emptyWant) (singleParcels emptyString16) where
  nulFree := hbase
  callerNulFree := hcaller
  accountNulFree := haccount
  base := keeps_flatLibrary hdistinct hprinted
    (hknown (by simp [printedForData]))
  caller := keeps_flatLibrary hdistinct hprinted
    (hknown (by simp [printedForData]))
  account := keeps_flatLibrary hdistinct hprinted
    (hknown (by simp [printedForData]))
  root := @keeps_document known hdistinct hprinted
    (cmd.document (flatLibrary []) compact.printObject
      (singleParcels emptyWant) (singleParcels emptyString16))
    fun _ hmem => hknown (List.mem_append_right _ hmem)
  want := keeps_singleParcels (by decide) (by decide)
  ability := keeps_singleParcels (by decide) (by decide)

theorem distinct_sampleKnown : sampleKnown.Pairwise Distinct := by
  decide +kernel

theorem nulFree_sampleKnown :
    NulFree (sampleKnown.map formatted.printObject) := by
  decide +kernel

theorem carried_sampleData :
    sampleData.Carried (flatLibrary sampleKnown) compact.printObject
      (singleParcels emptyWant) (singleParcels emptyString16) :=
  carried_singleParcels (fun _ hmem => by simp [sampleKnown, hmem])
    (by decide +kernel) (by decide +kernel) (by decide +kernel)
    distinct_sampleKnown nulFree_sampleKnown

theorem keeps_emptySetParcels : emptySetParcels.Keeps [] :=
  ⟨[0, 0, 0, 0], by decide, by decide, by decide, by decide⟩

theorem carried_sampleStart :
    sampleStart.Carried (flatLibrary sampleKnown) emptySetParcels where
  nulFree := carried_sampleData.nulFree
  base := carried_sampleData.base
  root := @keeps_document _ distinct_sampleKnown nulFree_sampleKnown
    (sampleStart.document (flatLibrary []) emptySetParcels)
    fun _ hmem => by simp [sampleKnown, hmem]
  params := keeps_emptySetParcels

theorem carried_sampleReply :
    sampleReply.Carried (flatLibrary sampleKnown) where
  nulFree := by decide +kernel
  base := carried_sampleData.base
  root := @keeps_document _ distinct_sampleKnown nulFree_sampleKnown
    (sampleReply.document (flatLibrary []))
    fun _ hmem => by simp [sampleKnown, hmem]

theorem carried_sampleEnd :
    sampleEnd.Carried (flatLibrary sampleKnown) where
  nulFree := carried_sampleData.nulFree
  base := carried_sampleData.base
  root := @keeps_document _ distinct_sampleKnown nulFree_sampleKnown
    (sampleEnd.document (flatLibrary []))
    fun _ hmem => by simp [sampleKnown, hmem]

theorem survive_samples :
    sampleStart.RoundTrips (flatLibrary sampleKnown) emptySetParcels [] ∧
    DSchedContinueDataCmd.RoundTrips (flatLibrary sampleKnown)
      compact.printObject (singleParcels emptyWant)
      (singleParcels emptyString16) (.fresh () () 0) sampleData ∧
    sampleReply.RoundTrips (flatLibrary sampleKnown) ∧
    sampleEnd.RoundTrips (flatLibrary sampleKnown) 0 := by
  have hdump : compact.printObject .null = "null".toList := rfl
  have hnull : (flatLibrary sampleKnown).parse "null".toList = some .null := rfl
  obtain ⟨hstart, hdata, hreply, hend⟩ := survive_iff_restorable
    emptySetParcels (singleParcels emptyWant) (singleParcels emptyString16)
    hdump hnull
  refine ⟨?_, ?_, ?_, ?_⟩
  · exact (hstart sampleStart [] carried_sampleStart).mpr rfl
  · exact (hdata sampleData () () 0 carried_sampleData).mpr
      ⟨rfl, by decide, rfl, rfl, rfl, rfl⟩
  · exact (hreply sampleReply carried_sampleReply).mpr rfl
  · exact (hend sampleEnd 0 carried_sampleEnd).mpr rfl

/-- A data command as the sender builds it does not survive, although the
libraries carry all of its parts. -/
theorem not_survives_groupedData :
    groupedData.Carried (flatLibrary groupedKnown) compact.printObject
        (singleParcels emptyWant) (singleParcels emptyString16) ∧
      (flatLibrary groupedKnown).parse
          (compact.printObject groupedData.callerInfo.extraInfoJson) =
        some groupedData.callerInfo.extraInfoJson ∧
      DSchedContinueDataCmd.SenderBuilt groupedData.callerInfo.extraInfoJson ∧
      ¬DSchedContinueDataCmd.RoundTrips (flatLibrary groupedKnown)
        compact.printObject (singleParcels emptyWant)
        (singleParcels emptyString16) (.fresh () () 0) groupedData := by
  have hcarried : groupedData.Carried (flatLibrary groupedKnown)
      compact.printObject (singleParcels emptyWant)
      (singleParcels emptyString16) :=
    carried_singleParcels (fun _ hmem => List.mem_cons_of_mem _ hmem)
      (by decide +kernel) (by decide +kernel) (by decide +kernel)
      (by decide +kernel) (by decide +kernel)
  refine ⟨hcarried, rfl, .version 5, fun hround => ?_⟩
  have hrestorable := (DSchedContinueDataCmd.roundTrips_command_iff hcarried rfl rfl
    () () 0).mp hround
  exact DSchedContinueDataCmd.not_restorable_of_senderBuilt (.version 5)
    hrestorable

end Dmsfwk
