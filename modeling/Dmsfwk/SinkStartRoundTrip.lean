import Dmsfwk.DSchedCollabEvent

/-!
# A start command on the wire

What `SinkStartCmd::Unmarshal` restores of a command which `Marshal` wrote.  The
two sides disagree on the key of the group list, the extra information of the
caller is written but not read back, and three numbers are not written at all.
Everything else survives, in particular the two parameter sets which share a
parcel.
-/

namespace Dmsfwk

open ByteCodec CJson

def NulFree (texts : List Text) : Prop :=
  ∀ text ∈ texts, '\x00' ∉ text

theorem cStr_of_nulFree {texts : List Text} (hnul : NulFree texts)
    {text : Text} (hmem : text ∈ texts) : cStr text = text :=
  cStr_of_nul_not_mem (hnul text hmem)

def BaseCmd.texts (cmd : BaseCmd) : List Text :=
  [cmd.collabToken, cmd.srcDeviceId, cmd.srcBundleName, cmd.srcAbilityName,
    cmd.srcModuleName, cmd.srcServerId, cmd.sinkDeviceId, cmd.sinkBundleName,
    cmd.sinkAbilityName, cmd.sinkModuleName, cmd.sinkServerId]

def CallerInfo.texts (info : CallerInfo) : List Text :=
  info.sourceDeviceId :: info.callerAppId :: info.bundleNames

def AccountInfo.texts (info : AccountInfo) : List Text :=
  info.activeAccountId :: info.groupIdList

/-! ## Base command -/

theorem BaseCmd.read_json {cmd : BaseCmd} (hnul : NulFree cmd.texts)
    (initial : BaseCmd) :
    initial.read cmd.json =
      some { cmd with appVersion := initial.appVersion } := by
  simp only [NulFree, BaseCmd.texts, List.mem_cons, List.not_mem_nil, or_false,
    forall_eq_or_imp, forall_eq] at hnul
  obtain ⟨htoken, hsrcDevice, hsrcBundle, hsrcAbility, hsrcModule, hsrcServer,
    hsinkDevice, hsinkBundle, hsinkAbility, hsinkModule, hsinkServer⟩ := hnul
  simp [BaseCmd.read, BaseCmd.json, Json.getNumber, Json.getString,
    Json.getBool, Json.getObjectItemCaseSensitive, Json.ofInt32,
    toValueint_intCast, cStr_of_nul_not_mem, *]

def BaseCmd.restored (cmd : BaseCmd) : BaseCmd :=
  { cmd with appVersion := -1 }

theorem BaseCmd.unmarshal_marshal {cjson : Library} {cmd : BaseCmd}
    (hnul : NulFree cmd.texts) (hkeeps : cjson.Keeps cmd.json) :
    ∃ text, cmd.marshal cjson = some text ∧ '\x00' ∉ text ∧
      ({} : BaseCmd).unmarshal cjson text = some cmd.restored := by
  obtain ⟨text, hprint, htext, hparse⟩ := hkeeps
  refine ⟨text, hprint, htext, ?_⟩
  have hread := BaseCmd.read_json hnul {}
  rw [BaseCmd.unmarshal, cStr_of_nul_not_mem htext, hparse,
    Option.bind_eq_bind, Option.bind_some, hread]
  rfl

/-! ## Version command -/

theorem GetSinkCollabVersionCmd.unmarshal_marshal {cjson : Library}
    {cmd : GetSinkCollabVersionCmd} (hnul : NulFree cmd.base.texts)
    (hbase : cjson.Keeps cmd.base.json)
    (hroot : ∀ root, cmd.document cjson = some root → cjson.Keeps root) :
    ∃ text, cmd.marshal cjson = some text ∧
      ({} : GetSinkCollabVersionCmd).unmarshal cjson text =
        some { cmd with base := cmd.base.restored } := by
  obtain ⟨baseText, hmarshal, hbaseText, hunmarshal⟩ :=
    BaseCmd.unmarshal_marshal hnul hbase
  have hdocument := hroot _ (by rw [document, hmarshal]; rfl)
  obtain ⟨text, hprint, htext, hparse⟩ := hdocument
  refine ⟨text, ?_, ?_⟩
  · rw [marshal, document, hmarshal]
    exact hprint
  · rw [unmarshal, cStr_of_nul_not_mem htext, hparse]
    simp [Json.getNumber, Json.getString, Json.getObjectItemCaseSensitive,
      Json.ofInt32, toValueint_intCast, cStr_of_nul_not_mem hbaseText,
      hunmarshal]

/-! ## Caller and account -/

def extraToken (extra : Json) : UInt32 :=
  (extra.getNumber "accessTokenID").elim 0 Int32.toUInt32

def CallerInfo.restored (info : CallerInfo) (extra : Json) : CallerInfo :=
  { info with
    dmsVersion := -1, accessToken := extraToken extra, extraInfoJson := .null }

@[simp] theorem CallerInfo.readExtraInfoJson_eq (initial extra : Json) :
    readExtraInfoJson initial extra = initial := by
  unfold readExtraInfoJson
  cases extra.getObjectItemCaseSensitive "dmsVersion" with
  | none => rfl
  | some version => cases version <;> rfl

theorem CallerInfo.unmarshalExtra_json {cjson : Library} {dump : Json → Text}
    {info initial : CallerInfo} (hnul : NulFree info.texts) {text : Text}
    (htext : '\x00' ∉ text)
    (hparse : cjson.parse text = some (info.json dump)) :
    initial.unmarshalExtra cjson text =
      (cjson.parse (cStr (dump info.extraInfoJson))).map fun extra =>
        { initial with
          bundleNames := info.bundleNames
          accessToken := (extra.getNumber "accessTokenID").elim
            initial.accessToken Int32.toUInt32 } := by
  have hbundles : (info.json dump).getStrings "BundleNames" =
      some info.bundleNames := by
    apply Json.getStrings_ofTexts
    · simp [CallerInfo.json, Json.getObjectItemCaseSensitive]
    · intro name hname
      exact hnul name (List.mem_cons_of_mem _ (List.mem_cons_of_mem _ hname))
  have hextra : (info.json dump).getString "ExtraInfo" =
      some (cStr (dump info.extraInfoJson)) := by
    apply Json.getString_string
    simp [CallerInfo.json, Json.getObjectItemCaseSensitive]
  rw [CallerInfo.unmarshalExtra, cStr_of_nul_not_mem htext, hparse]
  simp only [Option.bind_eq_bind, Option.bind_some, hbundles, hextra,
    readExtraInfoJson_eq]
  cases cjson.parse (cStr (dump info.extraInfoJson)) <;> rfl

theorem CallerInfo.unmarshal_json {cjson : Library} {dump : Json → Text}
    {info : CallerInfo} (hnul : NulFree info.texts) {text : Text}
    (htext : '\x00' ∉ text)
    (hparse : cjson.parse text = some (info.json dump)) :
    ({} : CallerInfo).unmarshal cjson text =
      (cjson.parse (cStr (dump info.extraInfoJson))).map info.restored := by
  have hdevice := cStr_of_nulFree hnul (List.mem_cons_self (a := info.sourceDeviceId))
  have happ := cStr_of_nulFree hnul
    (List.mem_cons_of_mem info.sourceDeviceId (List.mem_cons_self (a := info.callerAppId)))
  rw [CallerInfo.unmarshal, cStr_of_nul_not_mem htext, hparse]
  simp only [Option.bind_eq_bind, Option.bind_some,
    CallerInfo.unmarshalExtra_json hnul htext hparse]
  simp [CallerInfo.json, Json.getNumber, Json.getString,
    Json.getObjectItemCaseSensitive, Json.ofInt32, toValueint_intCast, hdevice,
    happ]
  rfl

def AccountInfo.restored (info : AccountInfo) : AccountInfo :=
  { info with groupIdList := [] }

theorem AccountInfo.unmarshal_json {cjson : Library} {info : AccountInfo}
    (hnul : NulFree info.texts) {text : Text} (htext : '\x00' ∉ text)
    (hparse : cjson.parse text = some info.json) :
    ({} : AccountInfo).unmarshal cjson text = some info.restored := by
  have haccount := cStr_of_nulFree hnul (List.mem_cons_self (a := info.activeAccountId))
  rw [AccountInfo.unmarshal, cStr_of_nul_not_mem htext, hparse]
  simp [AccountInfo.json, AccountInfo.restored, Json.getNumber, Json.getString,
    Json.getStrings, Json.children, Json.getObjectItemCaseSensitive,
    Json.ofInt32, toValueint_intCast, haccount]

/-! ## The two parameter sets -/

/-- Both parameter sets round-trip through one parcel: each is read back from
exactly the bytes which were written for it, and a parcel as large as the
written one can be set up. -/
def ParcelLibrary.Carries {Params : Type} (parcels : ParcelLibrary Params)
    (start message : Params) : Prop :=
  ∃ first second : Bytes,
    parcels.marshalling start {} = some { data := first } ∧
    parcels.marshalling message { data := first } =
      some { data := first ++ second } ∧
    parcels.setDataCapacity {} first.length = true ∧
    parcels.setDataCapacity ⟨first, first.length⟩ (first ++ second).length =
      true ∧
    (first ++ second).length ≤ parcels.maxCapacity ∧
    parcels.unmarshalling { data := first } =
      some (start, ⟨first, first.length⟩) ∧
    parcels.unmarshalling ⟨first ++ second, first.length⟩ =
      some (message, ⟨first ++ second, (first ++ second).length⟩)

theorem base64StrToParcel_image {Params : Type} (parcels : ParcelLibrary Params)
    (data : Bytes) (parcel : Parcel)
    (hcapacity : parcels.setDataCapacity parcel data.length = true)
    (hmax : data.length ≤ parcels.maxCapacity) :
    base64StrToParcel parcels (cStr (base64Encode data)) parcel =
      some { parcel with data := data } := by
  have hnul := cStr_of_nul_not_mem (nul_not_mem_base64Encode data)
  simp [base64StrToParcel, hnul, base64Decode_base64Encode, hcapacity,
    Nat.not_lt.mpr hmax]

namespace SinkStartCmd

variable {Params : Type} {cjson : Library} {dump : Json → Text}
  {parcels : ParcelLibrary Params} {cmd : SinkStartCmd Params}

def texts (cmd : SinkStartCmd Params) : List Text :=
  cmd.base.texts ++ cmd.callerInfo.texts ++ cmd.accountInfo.texts

/-- The libraries carry every part of the command: its strings are C strings,
the JSON values printed for it are read back, and its parameter sets round-trip
through a parcel. -/
structure Carried (cjson : Library) (dump : Json → Text)
    (parcels : ParcelLibrary Params) (cmd : SinkStartCmd Params) : Prop where
  nulFree : NulFree cmd.texts
  base : cjson.Keeps cmd.base.json
  caller : cjson.Keeps (cmd.callerInfo.json dump)
  account : cjson.Keeps cmd.accountInfo.json
  root : ∀ root, cmd.document cjson dump parcels = some root → cjson.Keeps root
  params : parcels.Carries cmd.startParams cmd.messageParams

def fresh (empty : Params) : SinkStartCmd Params :=
  { startParams := empty, messageParams := empty }

/-- The command as it arrives, where `extra` is the parsed extra information of
the caller. -/
def restored (cmd : SinkStartCmd Params) (extra : Json) : SinkStartCmd Params :=
  { cmd with
    base := cmd.base.restored
    callerInfo := cmd.callerInfo.restored extra
    accountInfo := cmd.accountInfo.restored }

theorem root_getString (cmd : SinkStartCmd Params)
    (baseText startText wantText callerText accountText : Text) :
    let root := cmd.root baseText startText wantText callerText accountText
    root.getString "BaseCmd" = some (cStr baseText) ∧
      root.getString "StartParams" = some (cStr startText) ∧
      root.getString "WantParams" = some (cStr wantText) ∧
      root.getString "CallerInfo" = some (cStr callerText) ∧
      root.getString "AccountInfo" = some (cStr accountText) := by
  simp [SinkStartCmd.root, Json.getString, Json.getObjectItemCaseSensitive]

theorem root_getNumber (cmd : SinkStartCmd Params)
    (baseText startText wantText callerText accountText : Text) :
    let root := cmd.root baseText startText wantText callerText accountText
    root.getNumber "AppVersion" = some cmd.appVersion ∧
      root.getNumber "SrcPid" = some cmd.srcPid ∧
      root.getNumber "SrcUid" = some cmd.srcUid ∧
      root.getNumber "SrcAccessToken" = some cmd.srcAccessToken := by
  simp [SinkStartCmd.root, Json.getNumber, Json.getObjectItemCaseSensitive,
    Json.ofInt32, toValueint_intCast]

theorem unmarshalOptParams_image {first second : Bytes} {root : Json}
    {start message : Params} {finished : Parcel}
    (hstartStr : root.getString "StartParams" = some (cStr (base64Encode first)))
    (hwantStr : root.getString "WantParams" =
      some (cStr (base64Encode (first ++ second))))
    (hfirst : parcels.setDataCapacity {} first.length = true)
    (hsecond : parcels.setDataCapacity ⟨first, first.length⟩
      (first ++ second).length = true)
    (hmax : (first ++ second).length ≤ parcels.maxCapacity)
    (hstart : parcels.unmarshalling { data := first } =
      some (start, ⟨first, first.length⟩))
    (hmessage : parcels.unmarshalling ⟨first ++ second, first.length⟩ =
      some (message, finished)) (initial : SinkStartCmd Params) :
    initial.unmarshalOptParams parcels root =
      some { initial with startParams := start, messageParams := message } := by
  have hfits : first.length ≤ parcels.maxCapacity := by
    rw [List.length_append] at hmax
    omega
  have hfirstParcel := base64StrToParcel_image parcels first {} hfirst hfits
  have hsecondParcel := base64StrToParcel_image parcels (first ++ second)
    ⟨first, first.length⟩ hsecond hmax
  simp only [unmarshalOptParams, Option.bind_eq_bind, Option.bind_some,
    hstartStr, hfirstParcel, hstart, hwantStr, hsecondParcel, hmessage]
  rfl

/-- What arrives of a command: nothing if the extra information of the caller
does not parse, and else the restored command. -/
theorem unmarshal_marshal (hcarried : cmd.Carried cjson dump parcels)
    (empty : Params) :
    ∃ text, cmd.marshal cjson dump parcels = some text ∧
      (fresh empty).unmarshal cjson parcels text =
        (cjson.parse (cStr (dump cmd.callerInfo.extraInfoJson))).map
          cmd.restored := by
  have hnul := hcarried.nulFree
  have hbaseNul : NulFree cmd.base.texts := fun text hmem =>
    hnul text (List.mem_append_left _ (List.mem_append_left _ hmem))
  have hcallerNul : NulFree cmd.callerInfo.texts := fun text hmem =>
    hnul text (List.mem_append_left _ (List.mem_append_right _ hmem))
  have haccountNul : NulFree cmd.accountInfo.texts := fun text hmem =>
    hnul text (List.mem_append_right _ hmem)
  obtain ⟨baseText, hbaseMarshal, hbaseText, hbase⟩ :=
    BaseCmd.unmarshal_marshal hbaseNul hcarried.base
  obtain ⟨callerText, hcallerPrint, hcallerText, hcallerParse⟩ := hcarried.caller
  obtain ⟨accountText, haccountPrint, haccountText, haccountParse⟩ :=
    hcarried.account
  obtain ⟨first, second, hfirst, hsecond, hfirstSize, hsecondSize, hmax, hstart,
    hmessage⟩ := hcarried.params
  have hcaller := CallerInfo.unmarshal_json hcallerNul hcallerText hcallerParse
  have haccount :=
    AccountInfo.unmarshal_json haccountNul haccountText haccountParse
  have hdocument : cmd.document cjson dump parcels =
      some (cmd.root baseText (base64Encode first)
        (base64Encode (first ++ second)) callerText accountText) := by
    simp only [document, hbaseMarshal, hfirst, hsecond, hcallerPrint,
      haccountPrint, Option.bind_eq_bind, Option.bind_some]
    rfl
  obtain ⟨text, hprint, htext, hparse⟩ := hcarried.root _ hdocument
  obtain ⟨hbaseStr, hstartStr, hwantStr, hcallerStr, haccountStr⟩ :=
    cmd.root_getString baseText (base64Encode first)
      (base64Encode (first ++ second)) callerText accountText
  obtain ⟨happVersion, hsrcPid, hsrcUid, hsrcToken⟩ :=
    cmd.root_getNumber baseText (base64Encode first)
      (base64Encode (first ++ second)) callerText accountText
  have hparams := unmarshalOptParams_image hstartStr hwantStr hfirstSize
    hsecondSize hmax hstart hmessage
  rw [cStr_of_nul_not_mem hbaseText] at hbaseStr
  rw [cStr_of_nul_not_mem hcallerText] at hcallerStr
  rw [cStr_of_nul_not_mem haccountText] at haccountStr
  refine ⟨text, ?_, ?_⟩
  · rw [marshal, hdocument]
    exact hprint
  · simp only [unmarshal, unmarshalPartParcel, fresh,
      cStr_of_nul_not_mem htext, hparse, Option.bind_eq_bind, Option.bind_some,
      hbaseStr, hbase, happVersion, hsrcPid, hsrcUid, hsrcToken, hparams,
      hcallerStr, hcaller, haccountStr, haccount]
    cases cjson.parse (cStr (dump cmd.callerInfo.extraInfoJson)) <;> rfl

/-! ## When a command survives -/

/-- What `Unmarshal` cannot restore has its default value. -/
def Restorable (cmd : SinkStartCmd Params) : Prop :=
  cmd.base.appVersion = -1 ∧ cmd.callerInfo.dmsVersion = -1 ∧
    cmd.callerInfo.accessToken = 0 ∧ cmd.callerInfo.extraInfoJson = .null ∧
    cmd.accountInfo.groupIdList = []

def RoundTrips (cjson : Library) (dump : Json → Text)
    (parcels : ParcelLibrary Params) (empty : Params)
    (cmd : SinkStartCmd Params) : Prop :=
  ∃ text, cmd.marshal cjson dump parcels = some text ∧
    (fresh empty).unmarshal cjson parcels text = some cmd

theorem restored_null_eq_iff :
    cmd.restored .null = cmd ↔ cmd.Restorable := by
  constructor
  · intro heq
    refine ⟨?_, ?_, ?_, ?_, ?_⟩ <;>
    · rw [← heq]
      rfl
  · rintro ⟨hversion, hdms, htoken, hextra, hgroups⟩
    have hbase : cmd.base.restored = cmd.base := by
      rw [BaseCmd.restored, ← hversion]
    have hcaller : cmd.callerInfo.restored .null = cmd.callerInfo := by
      have htokenNull : extraToken .null = cmd.callerInfo.accessToken :=
        htoken.symm
      rw [CallerInfo.restored, htokenNull, ← hextra, ← hdms]
    have haccount : cmd.accountInfo.restored = cmd.accountInfo := by
      rw [AccountInfo.restored, ← hgroups]
    rw [restored, hbase, hcaller, haccount]

theorem roundTrips_iff_restored (hcarried : cmd.Carried cjson dump parcels)
    (empty : Params) :
    cmd.RoundTrips cjson dump parcels empty ↔
      (cjson.parse (cStr (dump cmd.callerInfo.extraInfoJson))).map
        cmd.restored = some cmd := by
  obtain ⟨text, hmarshal, hunmarshal⟩ := unmarshal_marshal hcarried empty
  unfold RoundTrips
  simp [hmarshal, hunmarshal]

theorem groupIdList_of_roundTrips (hcarried : cmd.Carried cjson dump parcels)
    {empty : Params} (hround : cmd.RoundTrips cjson dump parcels empty) :
    cmd.accountInfo.groupIdList = [] := by
  have hsome := (roundTrips_iff_restored hcarried empty).mp hround
  obtain ⟨extra, -, hrestored⟩ := Option.map_eq_some_iff.mp hsome
  rw [← hrestored]
  rfl

theorem parse_dump_null (hdump : dump .null = "null".toList)
    (hnull : cjson.parse "null".toList = some .null) :
    cjson.parse (cStr (dump .null)) = some .null := by
  rw [hdump, cStr_of_nul_not_mem (by decide), hnull]

/-- A start command survives the wire exactly when the members which the reader
drops have their default values. -/
theorem roundTrips_iff_restorable
    (hcarried : cmd.Carried cjson dump parcels)
    (hdump : dump .null = "null".toList)
    (hnull : cjson.parse "null".toList = some .null) (empty : Params) :
    cmd.RoundTrips cjson dump parcels empty ↔ cmd.Restorable := by
  have hnullText := parse_dump_null hdump hnull
  rw [roundTrips_iff_restored hcarried]
  constructor
  · intro hsome
    obtain ⟨extra, hextra, hrestored⟩ := Option.map_eq_some_iff.mp hsome
    have hjson : cmd.callerInfo.extraInfoJson = .null := by
      rw [← hrestored]
      rfl
    rw [hjson, hnullText] at hextra
    obtain rfl := Option.some.inj hextra
    exact restored_null_eq_iff.mp hrestored
  · intro hrestorable
    rw [hrestorable.2.2.2.1, hnullText, Option.map_some,
      restored_null_eq_iff.mpr hrestorable]

/-! ### A library which prints flat values

The printer lays out objects of scalars and of string arrays as the library
does, and the parser knows the texts of a list of values. -/

def escapeChar (c : Char) : Text :=
  if c = '"' then ['\\', '"']
  else if c = '\\' then ['\\', '\\']
  else if c = '\n' then ['\\', 'n']
  else if c = '\t' then ['\\', 't']
  else [c]

def printScalar : Json → Text
  | .null => "null".toList
  | .bool true => "true".toList
  | .bool false => "false".toList
  | .number value =>
      (if value.num < 0 then ['-'] else []) ++ Nat.toDigits 10 value.num.natAbs
  | .string value => ['"'] ++ value.flatMap escapeChar ++ ['"']
  | _ => []

structure Layout where
  itemSep : Text
  opening : Text
  memberSep : Text
  colon : Text
  closing : Text

def Layout.printMember (layout : Layout) : Json → Text
  | .array items =>
      ['['] ++ layout.itemSep.intercalate (items.map printScalar) ++ [']']
  | value => printScalar value

def Layout.printObject (layout : Layout) : Json → Text
  | .object members =>
      layout.opening ++ layout.memberSep.intercalate (members.map fun m =>
        ['"'] ++ m.1.toList ++ ['"'] ++ layout.colon ++
          layout.printMember m.2) ++ layout.closing
  | value => layout.printMember value

def formatted : Layout where
  itemSep := ", ".toList
  opening := "\x7b\n\t".toList
  memberSep := ",\n\t".toList
  colon := ":\t".toList
  closing := "\n\x7d".toList

def compact : Layout where
  itemSep := ",".toList
  opening := "\x7b".toList
  memberSep := ",".toList
  colon := ":".toList
  closing := "\x7d".toList

def flatLibrary (known : List Json) : Library where
  print := fun json => some (formatted.printObject json)
  parse := fun text => known.find? fun json =>
    formatted.printObject json == text || compact.printObject json == text

def Distinct (first second : Json) : Prop :=
  formatted.printObject first ≠ formatted.printObject second ∧
    compact.printObject first ≠ formatted.printObject second

instance : DecidableRel Distinct := fun first second =>
  inferInstanceAs (Decidable
    (formatted.printObject first ≠ formatted.printObject second ∧
      compact.printObject first ≠ formatted.printObject second))

theorem keeps_flatLibrary {known : List Json}
    (hdistinct : known.Pairwise Distinct)
    (hnul : NulFree (known.map formatted.printObject)) {json : Json}
    (hmem : json ∈ known) : (flatLibrary known).Keeps json := by
  refine ⟨formatted.printObject json, rfl,
    hnul _ (List.mem_map_of_mem hmem), ?_⟩
  change known.find? (fun other =>
    formatted.printObject other == formatted.printObject json ||
      compact.printObject other == formatted.printObject json) = some json
  induction known with
  | nil => cases hmem
  | cons head rest ih =>
      rw [List.pairwise_cons] at hdistinct
      rcases List.mem_cons.mp hmem with rfl | hrest
      · simp
      · obtain ⟨hformatted, hcompact⟩ := hdistinct.1 json hrest
        rw [List.find?_cons_of_neg (by simp [hformatted, hcompact])]
        exact ih hdistinct.2
          (fun text htext => hnul text (List.mem_cons_of_mem _ htext)) hrest

def emptySetParcels : ParcelLibrary (List (Text × Text)) where
  maxCapacity := 204800
  setDataCapacity := fun parcel newCapacity => parcel.data.length < newCapacity
  marshalling := fun params parcel =>
    if params = [] then some { parcel with data := parcel.data ++ [0, 0, 0, 0] }
    else none
  unmarshalling := fun parcel =>
    if (parcel.data.drop parcel.readCursor).take 4 = [0, 0, 0, 0] then
      some ([], { parcel with readCursor := parcel.readCursor + 4 })
    else none

theorem carries_emptySetParcels : emptySetParcels.Carries [] [] :=
  ⟨[0, 0, 0, 0], [0, 0, 0, 0], by decide, by decide, by decide, by decide,
    by decide, by decide, by decide⟩

def printedFor (cmd : SinkStartCmd (List (Text × Text))) : List Json :=
  [.null, cmd.base.json, cmd.callerInfo.json compact.printObject,
    cmd.accountInfo.json] ++
    (cmd.document (flatLibrary []) compact.printObject emptySetParcels).toList

theorem carried_flatLibrary {cmd : SinkStartCmd (List (Text × Text))}
    {known : List Json} (hknown : cmd.printedFor ⊆ known)
    (hstart : cmd.startParams = []) (hmessage : cmd.messageParams = [])
    (hnul : NulFree cmd.texts) (hdistinct : known.Pairwise Distinct)
    (hprinted : NulFree (known.map formatted.printObject)) :
    cmd.Carried (flatLibrary known) compact.printObject emptySetParcels where
  nulFree := hnul
  base := keeps_flatLibrary hdistinct hprinted
    (hknown (by simp [printedFor]))
  caller := keeps_flatLibrary hdistinct hprinted
    (hknown (by simp [printedFor]))
  account := keeps_flatLibrary hdistinct hprinted
    (hknown (by simp [printedFor]))
  root := by
    intro root hroot
    have hsame : cmd.document (flatLibrary []) compact.printObject
        emptySetParcels = some root := hroot
    apply keeps_flatLibrary hdistinct hprinted
    apply hknown
    simp [printedFor, hsame]
  params := by
    rw [hstart, hmessage]
    exact carries_emptySetParcels

def plainStart : SinkStartCmd (List (Text × Text)) where
  base :=
    { command := 3, collabVersion := 1, dmsVersion := 5
      srcCollabSessionId := 1, collabToken := "token".toList
      srcDeviceId := "a".toList, sinkDeviceId := "b".toList
      needSendBigData := true }
  srcPid := 100
  srcUid := 20010010
  srcAccessToken := 537000000
  appVersion := 1000000
  callerInfo := { uid := 20010010, pid := 100, bundleNames := ["app".toList] }
  accountInfo := { accountType := 0, userId := 100 }
  startParams := []
  messageParams := []

def groupedStart : SinkStartCmd (List (Text × Text)) :=
  { plainStart with
    accountInfo := { plainStart.accountInfo with groupIdList := ["g".toList] } }

instance (texts : List Text) : Decidable (NulFree texts) :=
  inferInstanceAs (Decidable (∀ text ∈ texts, '\x00' ∉ text))

theorem carried_plainStart :
    plainStart.Carried (flatLibrary plainStart.printedFor)
      compact.printObject emptySetParcels :=
  carried_flatLibrary (List.Subset.refl _) rfl rfl (by decide +kernel)
    (by decide +kernel) (by decide +kernel)

theorem carried_groupedStart :
    groupedStart.Carried (flatLibrary groupedStart.printedFor)
      compact.printObject emptySetParcels :=
  carried_flatLibrary (List.Subset.refl _) rfl rfl (by decide +kernel)
    (by decide +kernel) (by decide +kernel)

theorem roundTrips_plainStart :
    plainStart.RoundTrips (flatLibrary plainStart.printedFor)
      compact.printObject emptySetParcels [] :=
  (roundTrips_iff_restorable carried_plainStart rfl rfl []).mpr
    ⟨rfl, rfl, rfl, rfl, rfl⟩

/-- A command with one group does not survive, although the libraries carry all
of its parts. -/
theorem not_roundTrips_groupedStart :
    groupedStart.Carried (flatLibrary groupedStart.printedFor)
        compact.printObject emptySetParcels ∧
      ¬groupedStart.RoundTrips (flatLibrary groupedStart.printedFor)
        compact.printObject emptySetParcels [] := by
  refine ⟨carried_groupedStart, fun hround => ?_⟩
  have hempty := groupIdList_of_roundTrips carried_groupedStart hround
  exact absurd hempty (by decide)

end SinkStartCmd

end Dmsfwk
