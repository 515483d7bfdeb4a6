import Dmsfwk.SinkStartRoundTrip

/-!
# What two ends of a collaboration agree on

The source describes a collaboration in its `DSchedCollabInfo`, tells the sink
a part of it with the version command and the rest with the start command.
This file follows both records through the exchange: the commands as they are
packed, marshalled and read, and the setters at both ends.
-/

namespace Dmsfwk

open CJson

/-! ## Data model -/

structure CollabMessage where
  pid : Int32 := -1
  uid : Int32 := -1
  accessToken : Int32 := -1
  deviceId : Text := []
  bundleName : Text := []
  abilityName : Text := []
  moduleName : Text := []
  serverId : Text := []
  deriving DecidableEq

structure ConnectOpt (Params : Type) where
  needSendBigData : Bool := false
  needSendStream : Bool := false
  needRecvStream : Bool := false
  startParams : Params
  messageParams : Params

/-- The members of `DSchedCollabInfo` which the handshake reads or writes. -/
structure DSchedCollabInfo (Params : Type) where
  srcCollabSessionId : Int32 := -1
  srcCollabVersion : Int32 := 0
  srcAppVersion : Int32 := 0
  collabToken : Text := []
  callerInfo : CallerInfo := {}
  srcAccountInfo : AccountInfo := {}
  srcInfo : CollabMessage := {}
  sinkInfo : CollabMessage := {}
  srcOpt : ConnectOpt Params

structure PackAnswers where
  versionCode : Option Int32
  callerAppId : Option Text
  bundleNames : Option (List Text)
  accountInfo : Option AccountInfo

namespace DSchedCollabInfo

variable {Params : Type}

def dschedCollabProtocolVersion : Int32 := 1
def dmsVersion : Int32 := 5
def sinkGetVersionCmd : Int32 := 1
def sinkStartCmd : Int32 := 3

/-! ## The source -/

def createSource (collabToken : Text) (info : DSchedCollabInfo Params) :
    DSchedCollabInfo Params :=
  { info with
    collabToken := collabToken
    srcCollabVersion := dschedCollabProtocolVersion }

def packGetPeerVersionCmd (source : DSchedCollabInfo Params) :
    GetSinkCollabVersionCmd where
  base :=
    { command := sinkGetVersionCmd
      srcCollabSessionId := source.srcCollabSessionId
      collabToken := source.collabToken
      sinkDeviceId := source.sinkInfo.deviceId
      srcDeviceId := source.srcInfo.deviceId }

def packedCaller (source : DSchedCollabInfo Params) (callerAppId : Text)
    (bundleNames : List Text) : CallerInfo :=
  { sourceDeviceId := source.srcInfo.deviceId
    uid := source.srcInfo.uid
    accessToken := source.srcInfo.accessToken.toUInt32
    callerAppId := callerAppId
    bundleNames := bundleNames
    extraInfoJson := .object [("dmsVersion", .ofInt32 dmsVersion)] }

def packedStart (source : DSchedCollabInfo Params) (appVersion : Int32)
    (callerInfo : CallerInfo) (accountInfo : AccountInfo) :
    SinkStartCmd Params where
  base :=
    { collabVersion := source.srcCollabVersion
      dmsVersion := dmsVersion
      command := sinkStartCmd
      srcCollabSessionId := source.srcCollabSessionId
      collabToken := source.collabToken
      srcServerId := source.srcInfo.serverId
      sinkServerId := source.sinkInfo.serverId
      srcDeviceId := source.srcInfo.deviceId
      sinkDeviceId := source.sinkInfo.deviceId
      srcBundleName := source.srcInfo.bundleName
      sinkBundleName := source.sinkInfo.bundleName
      srcAbilityName := source.srcInfo.abilityName
      sinkAbilityName := source.sinkInfo.abilityName
      srcModuleName := source.srcInfo.moduleName
      sinkModuleName := source.sinkInfo.moduleName
      needSendBigData := source.srcOpt.needSendBigData
      needSendStream := source.srcOpt.needSendStream
      needRecvStream := source.srcOpt.needRecvStream }
  srcPid := source.srcInfo.pid
  srcUid := source.srcInfo.uid
  srcAccessToken := source.srcInfo.accessToken
  startParams := source.srcOpt.startParams
  messageParams := source.srcOpt.messageParams
  appVersion := appVersion
  callerInfo := callerInfo
  accountInfo := accountInfo

def packStartCmd (source : DSchedCollabInfo Params) (answers : PackAnswers) :
    Option (SinkStartCmd Params × DSchedCollabInfo Params) := do
  let appVersion ← answers.versionCode
  let callerAppId ← answers.callerAppId
  let bundleNames ← answers.bundleNames
  let callerInfo := source.packedCaller callerAppId bundleNames
  let accountInfo ← answers.accountInfo
  return (source.packedStart appVersion callerInfo accountInfo,
    { source with callerInfo, srcAccountInfo := accountInfo })

def ValidMission (info : DSchedCollabInfo Params) : Prop :=
  info.srcInfo.bundleName ≠ [] ∧ info.sinkInfo.bundleName ≠ [] ∧
    info.srcInfo.moduleName ≠ [] ∧ info.sinkInfo.moduleName ≠ [] ∧
    info.srcInfo.abilityName ≠ [] ∧ info.sinkInfo.abilityName ≠ []

instance (info : DSchedCollabInfo Params) : Decidable info.ValidMission := by
  unfold ValidMission
  infer_instance

/-- `CollabMission` with `SetSrcCollabInfo`: the collaboration is found by its
token and its whole record is replaced. -/
def collabMission (source started : DSchedCollabInfo Params) :
    Option (DSchedCollabInfo Params) :=
  if started.ValidMission ∧ started.collabToken = source.collabToken then
    some started
  else none

/-! ## The sink -/

def createSink (cmd : GetSinkCollabVersionCmd) (empty : Params) :
    DSchedCollabInfo Params :=
  { srcCollabSessionId := cmd.base.srcCollabSessionId
    collabToken := cmd.base.collabToken
    srcInfo :=
      { pid := cmd.srcPid, uid := cmd.srcUid, accessToken := cmd.srcAccessToken }
    srcOpt := { startParams := empty, messageParams := empty } }

def setSinkCollabInfo (sink : DSchedCollabInfo Params)
    (cmd : SinkStartCmd Params) : DSchedCollabInfo Params :=
  { sink with
    srcCollabVersion := cmd.base.collabVersion
    srcOpt :=
      { needSendBigData := cmd.base.needSendBigData
        needSendStream := cmd.base.needSendStream
        needRecvStream := cmd.base.needRecvStream
        startParams := cmd.startParams
        messageParams := cmd.messageParams }
    srcInfo :=
      { deviceId := cmd.base.srcDeviceId
        bundleName := cmd.base.srcBundleName
        abilityName := cmd.base.srcAbilityName
        moduleName := cmd.base.srcModuleName
        serverId := cmd.base.srcServerId
        pid := cmd.srcPid
        uid := cmd.srcUid
        accessToken := cmd.srcAccessToken }
    sinkInfo :=
      { sink.sinkInfo with
        deviceId := cmd.base.sinkDeviceId
        bundleName := cmd.base.sinkBundleName
        abilityName := cmd.base.sinkAbilityName }
    srcAppVersion := cmd.appVersion
    callerInfo := cmd.callerInfo
    srcAccountInfo := cmd.accountInfo }

/-! ## The exchange -/

structure Ends (Params : Type) where
  source : DSchedCollabInfo Params
  sink : DSchedCollabInfo Params

/-- A run of both commands.  The source is created from `asked`; the client
then starts the mission described by `started`, which replaces the record of
the source. -/
def exchange (cjson : Library) (dump : Json → Text)
    (parcels : ParcelLibrary Params) (empty : Params) (answers : PackAnswers)
    (asked started : DSchedCollabInfo Params) : Option (Ends Params) := do
  let source := createSource asked.collabToken asked
  let versionText ← source.packGetPeerVersionCmd.marshal cjson
  let versionCmd ← ({} : GetSinkCollabVersionCmd).unmarshal cjson versionText
  let sink := createSink versionCmd empty
  let source ← source.collabMission started
  let (startCmd, source) ← source.packStartCmd answers
  let startText ← startCmd.marshal cjson dump parcels
  let receivedCmd ← (SinkStartCmd.fresh empty).unmarshal cjson parcels startText
  return { source, sink := sink.setSinkCollabInfo receivedCmd }

/-- The sink has what the source has, on every field which the start command
carries. -/
structure Ends.Agree (ends : Ends Params) : Prop where
  collabToken : ends.sink.collabToken = ends.source.collabToken
  srcCollabSessionId :
    ends.sink.srcCollabSessionId = ends.source.srcCollabSessionId
  srcCollabVersion : ends.sink.srcCollabVersion = ends.source.srcCollabVersion
  srcAppVersion : ends.sink.srcAppVersion = ends.source.srcAppVersion
  srcInfo : ends.sink.srcInfo = ends.source.srcInfo
  sinkDeviceId : ends.sink.sinkInfo.deviceId = ends.source.sinkInfo.deviceId
  sinkBundleName :
    ends.sink.sinkInfo.bundleName = ends.source.sinkInfo.bundleName
  sinkModuleName :
    ends.sink.sinkInfo.moduleName = ends.source.sinkInfo.moduleName
  sinkAbilityName :
    ends.sink.sinkInfo.abilityName = ends.source.sinkInfo.abilityName
  sinkServerId : ends.sink.sinkInfo.serverId = ends.source.sinkInfo.serverId
  srcOpt : ends.sink.srcOpt = ends.source.srcOpt
  callerInfo : ends.sink.callerInfo = ends.source.callerInfo
  srcAccountInfo : ends.sink.srcAccountInfo = ends.source.srcAccountInfo

variable {cjson : Library} {dump : Json → Text}
  {parcels : ParcelLibrary Params} {empty : Params} {answers : PackAnswers}
  {asked started : DSchedCollabInfo Params} {ends : Ends Params}

/-! ## The steps of an exchange -/

theorem collabMission_eq_some {source mission : DSchedCollabInfo Params}
    (hmission : source.collabMission started = some mission) :
    started.ValidMission ∧ started.collabToken = source.collabToken ∧
      mission = started := by
  unfold collabMission at hmission
  split at hmission
  · next hvalid => exact ⟨hvalid.1, hvalid.2, (Option.some.inj hmission).symm⟩
  · cases hmission

theorem exchange_cases
    (hexchange : exchange cjson dump parcels empty answers asked started =
      some ends) :
    ∃ versionText versionCmd startCmd startText receivedCmd,
      (createSource asked.collabToken asked).packGetPeerVersionCmd.marshal
        cjson = some versionText ∧
      ({} : GetSinkCollabVersionCmd).unmarshal cjson versionText =
        some versionCmd ∧
      started.ValidMission ∧ started.collabToken = asked.collabToken ∧
      started.packStartCmd answers = some (startCmd, ends.source) ∧
      startCmd.marshal cjson dump parcels = some startText ∧
      (SinkStartCmd.fresh empty).unmarshal cjson parcels startText =
        some receivedCmd ∧
      ends.sink = (createSink versionCmd empty).setSinkCollabInfo
        receivedCmd := by
  simp only [exchange, Option.bind_eq_bind, Option.bind_eq_some_iff,
    Option.pure_def, Option.some.injEq] at hexchange
  obtain ⟨versionText, hversionText, versionCmd, hversionCmd, mission, hmission,
    ⟨startCmd, source⟩, hpack, startText, hstartText, receivedCmd, hreceived,
    rfl⟩ := hexchange
  obtain ⟨hvalid, htoken, rfl⟩ := collabMission_eq_some hmission
  exact ⟨versionText, versionCmd, startCmd, startText, receivedCmd,
    hversionText, hversionCmd, hvalid, htoken, hpack, hstartText, hreceived,
    rfl⟩

theorem sinkNames_exchange
    (hexchange : exchange cjson dump parcels empty answers asked started =
      some ends) :
    ends.sink.sinkInfo.moduleName = [] ∧ ends.sink.sinkInfo.serverId = [] := by
  obtain ⟨-, versionCmd, -, -, receivedCmd, -, -, -, -, -, -, -, hsink⟩ :=
    exchange_cases hexchange
  rw [hsink]
  exact ⟨rfl, rfl⟩

theorem packStartCmd_eq_some {source mission : DSchedCollabInfo Params}
    {cmd : SinkStartCmd Params}
    (hpack : mission.packStartCmd answers = some (cmd, source)) :
    ∃ appVersion callerInfo accountInfo,
      cmd = mission.packedStart appVersion callerInfo accountInfo ∧
      source = { mission with
        callerInfo := callerInfo, srcAccountInfo := accountInfo } := by
  simp only [packStartCmd, Option.bind_eq_bind, Option.bind_eq_some_iff,
    Option.pure_def, Option.some.injEq, Prod.mk.injEq] at hpack
  obtain ⟨appVersion, -, callerAppId, -, bundleNames, -, accountInfo, -, hcmd,
    hsource⟩ := hpack
  exact ⟨appVersion, mission.packedCaller callerAppId bundleNames, accountInfo,
    hcmd.symm, hsource.symm⟩

structure Ends.AgreeBesides (ends : Ends Params) : Prop where
  collabToken : ends.sink.collabToken = ends.source.collabToken
  srcCollabSessionId :
    ends.sink.srcCollabSessionId = ends.source.srcCollabSessionId
  srcCollabVersion : ends.sink.srcCollabVersion = ends.source.srcCollabVersion
  srcInfo : ends.sink.srcInfo = ends.source.srcInfo
  sinkDeviceId : ends.sink.sinkInfo.deviceId = ends.source.sinkInfo.deviceId
  sinkBundleName :
    ends.sink.sinkInfo.bundleName = ends.source.sinkInfo.bundleName
  sinkAbilityName :
    ends.sink.sinkInfo.abilityName = ends.source.sinkInfo.abilityName
  srcOpt : ends.sink.srcOpt = ends.source.srcOpt
  bundleNames :
    ends.sink.callerInfo.bundleNames = ends.source.callerInfo.bundleNames
  userId : ends.sink.srcAccountInfo.userId = ends.source.srcAccountInfo.userId

structure VersionCarried (cjson : Library) (source : DSchedCollabInfo Params) :
    Prop where
  nulFree : NulFree source.packGetPeerVersionCmd.base.texts
  base : cjson.Keeps source.packGetPeerVersionCmd.base.json
  root : ∀ root, source.packGetPeerVersionCmd.document cjson = some root →
    cjson.Keeps root

def finalEnds (empty : Params) (asked started : DSchedCollabInfo Params)
    (appVersion : Int32) (callerInfo : CallerInfo) (accountInfo : AccountInfo)
    (extra : Json) : Ends Params where
  source := { started with
    callerInfo := callerInfo, srcAccountInfo := accountInfo }
  sink := (createSink
      { (createSource asked.collabToken asked).packGetPeerVersionCmd with
        base := (createSource asked.collabToken
          asked).packGetPeerVersionCmd.base.restored } empty).setSinkCollabInfo
    ((started.packedStart appVersion callerInfo accountInfo).restored extra)

theorem exchange_of_carried {appVersion : Int32} {callerAppId : Text}
    {bundleNames : List Text} {accountInfo : AccountInfo} {extra : Json}
    (hvalid : started.ValidMission)
    (htoken : started.collabToken = asked.collabToken)
    (hversion : VersionCarried cjson (createSource asked.collabToken asked))
    (hstart : (started.packedStart appVersion
      (started.packedCaller callerAppId bundleNames) accountInfo).Carried
      cjson dump parcels)
    (hextra : cjson.parse (cStr (dump
      (started.packedCaller callerAppId bundleNames).extraInfoJson)) =
        some extra) :
    exchange cjson dump parcels empty
        ⟨some appVersion, some callerAppId, some bundleNames, some accountInfo⟩
        asked started =
      some (finalEnds empty asked started appVersion
        (started.packedCaller callerAppId bundleNames) accountInfo extra) := by
  obtain ⟨versionText, hversionText, hversionCmd⟩ :=
    GetSinkCollabVersionCmd.unmarshal_marshal hversion.nulFree hversion.base
      hversion.root
  obtain ⟨startText, hstartText, hstartCmd⟩ :=
    SinkStartCmd.unmarshal_marshal hstart empty
  have hparse : cjson.parse (cStr (dump (started.packedStart appVersion
      (started.packedCaller callerAppId bundleNames)
      accountInfo).callerInfo.extraInfoJson)) = some extra := hextra
  rw [hparse, Option.map_some] at hstartCmd
  have hmission : (createSource asked.collabToken asked).collabMission started =
      some started := if_pos ⟨hvalid, htoken⟩
  simp only [exchange, packStartCmd, Option.bind_eq_bind, Option.bind_some,
    Option.pure_def, hversionText, hversionCmd, hmission, hstartText, hstartCmd]
  rfl

/-- The two ends never agree: the mission names a module of the sink, which the
record of the sink leaves empty. -/
theorem not_agree_exchange
    (hexchange : exchange cjson dump parcels empty answers asked started =
      some ends) : ¬ends.Agree := by
  intro hagree
  obtain ⟨hmodule, -⟩ := sinkNames_exchange hexchange
  obtain ⟨-, -, startCmd, -, -, -, -, hvalid, -, hpack, -, -, -⟩ :=
    exchange_cases hexchange
  obtain ⟨_, _, _, -, hsource⟩ := packStartCmd_eq_some hpack
  have hmission : ends.source.sinkInfo.moduleName ≠ [] := by
    rw [hsource]
    exact hvalid.2.2.2.1
  exact hmission (hagree.sinkModuleName ▸ hmodule)

/-! ### One exchange -/

def sampleAsked : DSchedCollabInfo (List (Text × Text)) where
  srcCollabSessionId := 1
  collabToken := "t".toList
  srcInfo := { deviceId := "a".toList }
  sinkInfo := { deviceId := "b".toList }
  srcOpt := { startParams := [], messageParams := [] }

def sampleStarted : DSchedCollabInfo (List (Text × Text)) :=
  { sampleAsked with
    srcInfo :=
      { pid := 100, uid := 20010010, accessToken := 537000000
        deviceId := "a".toList, bundleName := "app".toList
        moduleName := "entry".toList, abilityName := "Main".toList }
    sinkInfo :=
      { deviceId := "b".toList, bundleName := "app".toList
        moduleName := "entry".toList, abilityName := "Main".toList } }

def sampleCaller : CallerInfo :=
  sampleStarted.packedCaller "id".toList ["app".toList]

def sampleStart : SinkStartCmd (List (Text × Text)) :=
  sampleStarted.packedStart 1000000 sampleCaller {}

def sampleVersion : GetSinkCollabVersionCmd :=
  (createSource sampleAsked.collabToken sampleAsked).packGetPeerVersionCmd

def sampleKnown : List Json :=
  sampleStart.printedFor ++
    (sampleCaller.extraInfoJson :: sampleVersion.base.json ::
      (sampleVersion.document (SinkStartCmd.flatLibrary [])).toList)

theorem distinct_sampleKnown :
    sampleKnown.Pairwise SinkStartCmd.Distinct := by
  decide +kernel

theorem nulFree_sampleKnown :
    NulFree (sampleKnown.map SinkStartCmd.formatted.printObject) := by
  decide +kernel

theorem carried_sampleStart :
    sampleStart.Carried (SinkStartCmd.flatLibrary sampleKnown)
      SinkStartCmd.compact.printObject SinkStartCmd.emptySetParcels :=
  SinkStartCmd.carried_flatLibrary (List.subset_append_left _ _) rfl rfl
    (by decide +kernel) distinct_sampleKnown nulFree_sampleKnown

theorem versionCarried_sampleAsked :
    VersionCarried (SinkStartCmd.flatLibrary sampleKnown)
      (createSource sampleAsked.collabToken sampleAsked) where
  nulFree := by decide +kernel
  base := by
    apply SinkStartCmd.keeps_flatLibrary distinct_sampleKnown
      nulFree_sampleKnown
    have hmem : sampleVersion.base.json ∈ sampleKnown := by
      simp [sampleKnown]
    exact hmem
  root := by
    intro root hroot
    apply SinkStartCmd.keeps_flatLibrary distinct_sampleKnown
      nulFree_sampleKnown
    have hsame : sampleVersion.document (SinkStartCmd.flatLibrary []) =
        some root := hroot
    simp [sampleKnown, hsame]

theorem exchange_sample :
    exchange (SinkStartCmd.flatLibrary sampleKnown)
        SinkStartCmd.compact.printObject SinkStartCmd.emptySetParcels []
        ⟨some 1000000, some "id".toList, some ["app".toList], some {}⟩
        sampleAsked sampleStarted =
      some (finalEnds [] sampleAsked sampleStarted 1000000 sampleCaller {}
        sampleCaller.extraInfoJson) :=
  exchange_of_carried (by decide) rfl versionCarried_sampleAsked
    carried_sampleStart (by rfl)

theorem not_agree_sample :
    ¬(finalEnds [] sampleAsked sampleStarted 1000000 sampleCaller {}
      sampleCaller.extraInfoJson).Agree :=
  not_agree_exchange exchange_sample

/-- In the sample the source has a module name for the sink and the sink has
none. -/
theorem sinkModuleName_sample :
    ∃ ends, exchange (SinkStartCmd.flatLibrary sampleKnown)
        SinkStartCmd.compact.printObject SinkStartCmd.emptySetParcels []
        ⟨some 1000000, some "id".toList, some ["app".toList], some {}⟩
        sampleAsked sampleStarted = some ends ∧ ¬ends.Agree := by
  refine ⟨_, exchange_sample, fun hagree => ?_⟩
  have hmodule := hagree.sinkModuleName
  exact absurd hmodule (by decide)

end DSchedCollabInfo

end Dmsfwk
