import Dmsfwk.AbilityConnectionInfo
import Dmsfwk.CollabHandshake
import Dmsfwk.WordParcel

/-!
# Peers and connect options in a parcel

An application writes the two peers and the options of a collaboration with the
classes of the ability connection library.  The service reads them with classes
of its own, the library with those that wrote them.  The two flags of file
transfers are in no parcel.
-/

namespace Dmsfwk

open StreamCodec

/-- `ConnectOption` with its parameters. -/
structure ConnectOptionParams (Params : Type) extends ConnectOption where
  options : Params
  parameters : Params
  deriving DecidableEq

/-! ## Peers -/

section Peers

variable {Params : Type}

def PeerInfo.marshalling (parcels : ParcelPrimitives Params) (info : PeerInfo) :
    Writer := do
  unchecked (parcels.writeText info.deviceId)
  unchecked (parcels.writeText info.bundleName)
  unchecked (parcels.writeText info.moduleName)
  unchecked (parcels.writeText info.abilityName)
  unchecked (parcels.writeText info.serverId)

def PeerInfo.unmarshalling (parcels : ParcelPrimitives Params) :
    Reader PeerInfo := do
  let deviceId ← parcels.readText
  let bundleName ← parcels.readText
  let moduleName ← parcels.readText
  let abilityName ← parcels.readText
  let serverId ← parcels.readText
  return { deviceId, bundleName, moduleName, abilityName, serverId }

def CollabMessage.unmarshalling (parcels : ParcelPrimitives Params) :
    Reader CollabMessage := do
  let deviceId ← parcels.readText
  let bundleName ← parcels.readText
  let moduleName ← parcels.readText
  let abilityName ← parcels.readText
  let serverId ← parcels.readText
  return { deviceId, bundleName, abilityName, moduleName, serverId }

def PeerInfo.texts (info : PeerInfo) : List Text :=
  [info.deviceId, info.bundleName, info.moduleName, info.abilityName,
    info.serverId]

def PeerInfo.toCollabMessage (info : PeerInfo) : CollabMessage where
  deviceId := info.deviceId
  bundleName := info.bundleName
  abilityName := info.abilityName
  moduleName := info.moduleName
  serverId := info.serverId

end Peers

/-! ## Options -/

section Options

variable {Params : Type}

def ConnectOptionParams.marshalling (parcels : ParcelPrimitives Params)
    (option : ConnectOptionParams Params) : Writer := do
  unchecked (parcels.writeBool option.needSendData)
  unchecked (parcels.writeBool option.needSendStream)
  unchecked (parcels.writeBool option.needReceiveStream)
  unchecked (parcels.writeParams option.options)
  unchecked (parcels.writeParams option.parameters)

/-- The members that are not read are those of a new object. -/
def ConnectOptionParams.unmarshalling [Inhabited Params]
    (parcels : ParcelPrimitives Params) : Reader (ConnectOptionParams Params) := do
  let needSendData ← orDefault parcels.readBool false
  let needSendStream ← orDefault parcels.readBool false
  let needReceiveStream ← orDefault parcels.readBool false
  let optionsPtr ← parcels.readParams
  let parametersPtr ← parcels.readParams
  return {
    needSendData, needSendStream, needReceiveStream
    needSendFile := false
    needReceiveFile := false
    options := optionsPtr.getD default
    parameters := parametersPtr.getD default }

def ConnectOpt.unmarshalling (parcels : ParcelPrimitives Params) :
    Reader (ConnectOpt Params) := do
  let needSendBigData ← orDefault parcels.readBool false
  let needSendStream ← orDefault parcels.readBool false
  let needRecvStream ← orDefault parcels.readBool false
  let some startParams ← parcels.readParams | failure
  let some messageParams ← parcels.readParams | failure
  return {
    needSendBigData, needSendStream, needRecvStream, startParams,
    messageParams }

def ConnectOptionParams.toConnectOpt (option : ConnectOptionParams Params) :
    ConnectOpt Params where
  needSendBigData := option.needSendData
  needSendStream := option.needSendStream
  needRecvStream := option.needReceiveStream
  startParams := option.options
  messageParams := option.parameters

end Options

/-! ## What arrives -/

section Arrival

variable {Params : Type}

/-- The parcel gives back the texts of the peer and the flags and the parameters
of the option. -/
structure ParcelPrimitives.CarriesConnect (parcels : ParcelPrimitives Params)
    (info : PeerInfo) (option : ConnectOptionParams Params) : Prop where
  string : ∀ text ∈ info.texts,
    Transfers (parcels.writeString16 (parcels.str8ToStr16 text))
      parcels.string16 (parcels.str8ToStr16 text)
  conversion : ∀ text ∈ info.texts,
    parcels.str16ToStr8 (parcels.str8ToStr16 text) = text
  bool : ∀ value, Transfers (parcels.writeBool value) parcels.readBool value
  mark : Transfers (parcels.writeInt32 1) parcels.readInt32 1
  params : ∀ params ∈ [option.options, option.parameters],
    Transfers (parcels.marshalParams params)
      (fun data cursor => some (parcels.unmarshalParams data cursor))
      (some params)

variable {parcels : ParcelPrimitives Params} {info : PeerInfo}
  {option : ConnectOptionParams Params}

section CarriesConnect

variable (hcarries : parcels.CarriesConnect info option)

include hcarries

theorem transfers_params :
    Transfers (unchecked (parcels.writeParams option.options))
        parcels.readParams (some option.options) ∧
      Transfers (unchecked (parcels.writeParams option.parameters))
        parcels.readParams (some option.parameters) := by
  have hparams : ∀ params ∈ [option.options, option.parameters],
      Transfers (unchecked (parcels.writeParams params)) parcels.readParams
        (some params) := by
    intro params hparams
    exact (ParcelPrimitives.transfers_parcelable hcarries.mark
      (hcarries.params params hparams)).unchecked
  simp only [List.forall_mem_cons] at hparams
  exact ⟨hparams.1, hparams.2.1⟩

theorem transfers_peer {T : Type} (build : PeerInfo → T) :
    Transfers (info.marshalling parcels) (do
        let deviceId ← parcels.readText
        let bundleName ← parcels.readText
        let moduleName ← parcels.readText
        let abilityName ← parcels.readText
        let serverId ← parcels.readText
        return build { deviceId, bundleName, moduleName, abilityName, serverId })
      (build info) := by
  have htext : ∀ text ∈ info.texts,
      Transfers (unchecked (parcels.writeText text)) parcels.readText text := by
    intro text htext
    exact (ParcelPrimitives.transfers_text (hcarries.string text htext)
      (hcarries.conversion text htext)).unchecked
  simp only [PeerInfo.texts, List.forall_mem_cons] at htext
  obtain ⟨hdevice, hbundle, hmodule, hability, hserver, -⟩ := htext
  exact hdevice.bind (hbundle.bind (hmodule.bind (hability.bind
    (hserver.bind_pure rfl))))

theorem transfers_flags {T : Type} {value : T}
    {readRest : Bool → Bool → Bool → Reader T}
    (hrest : Transfers (do
        unchecked (parcels.writeParams option.options)
        unchecked (parcels.writeParams option.parameters))
      (readRest option.needSendData option.needSendStream
        option.needReceiveStream) value) :
    Transfers (option.marshalling parcels) (do
        let sendData ← orDefault parcels.readBool false
        let sendStream ← orDefault parcels.readBool false
        let receiveStream ← orDefault parcels.readBool false
        readRest sendData sendStream receiveStream) value := by
  have hflag (flag : Bool) :
      Transfers (unchecked (parcels.writeBool flag))
        (orDefault parcels.readBool false) flag :=
    ((hcarries.bool flag).orDefault false).unchecked
  exact (hflag _).bind ((hflag _).bind ((hflag _).bind hrest))

theorem transfers_option [Inhabited Params] :
    Transfers (option.marshalling parcels)
      (ConnectOptionParams.unmarshalling parcels)
      { option with needSendFile := false, needReceiveFile := false } := by
  obtain ⟨hoptions, hparameters⟩ := transfers_params hcarries
  exact transfers_flags hcarries (hoptions.bind (hparameters.map _))

theorem transfers_connectOpt :
    Transfers (option.marshalling parcels) (ConnectOpt.unmarshalling parcels)
      option.toConnectOpt := by
  obtain ⟨hoptions, hparameters⟩ := transfers_params hcarries
  exact transfers_flags hcarries (hoptions.bind (hparameters.bind_pure rfl))

end CarriesConnect

/-- The peers arrive on either side and the options at the service; the library
gets back the options just when they ask for no file transfer. -/
theorem connect_transfers_iff [Inhabited Params]
    (hcarries : parcels.CarriesConnect info option) :
    (Transfers (option.marshalling parcels)
        (ConnectOptionParams.unmarshalling parcels) option ↔
      option.needSendFile = false ∧ option.needReceiveFile = false) ∧
    Transfers (info.marshalling parcels) (PeerInfo.unmarshalling parcels)
      info ∧
    Transfers (option.marshalling parcels) (ConnectOpt.unmarshalling parcels)
      option.toConnectOpt ∧
    Transfers (info.marshalling parcels) (CollabMessage.unmarshalling parcels)
      info.toCollabMessage := by
  refine ⟨⟨?_, ?_⟩, transfers_peer hcarries id, transfers_connectOpt hcarries,
    transfers_peer hcarries PeerInfo.toCollabMessage⟩
  · intro htransfer
    have hsame := (transfers_option hcarries).unique htransfer
    rw [← hsame]
    exact ⟨rfl, rfl⟩
  · rintro ⟨hsend, hreceive⟩
    have hsame : ({ option with
        needSendFile := false, needReceiveFile := false } :
          ConnectOptionParams Params) = option := by
      obtain ⟨⟨_, _, _, _, _⟩, _, _⟩ := option
      cases hsend
      cases hreceive
      rfl
    have htransfer := transfers_option hcarries
    rw [hsame] at htransfer
    exact htransfer

end Arrival

/-! ## An option that asks for files -/

section Sample

def samplePeer : PeerInfo where
  deviceId := "a".toList
  bundleName := "b".toList
  moduleName := "c".toList
  abilityName := "d".toList
  serverId := "a".toList

def sampleOption (needSendFile : Bool) : ConnectOptionParams U16String where
  needSendData := true
  needSendStream := false
  needReceiveStream := true
  needSendFile
  needReceiveFile := false
  options := asciiToStr16 "a".toList
  parameters := asciiToStr16 "b".toList

theorem carriesConnect_sample (needSendFile : Bool) :
    wordPrimitives.CarriesConnect samplePeer (sampleOption needSendFile) where
  string := by
    have hknown : ∀ text ∈ samplePeer.texts,
        wordPrimitives.str8ToStr16 text ∈ primitiveStrings := by decide
    intro text htext
    exact transfers_primitiveString (hknown text htext)
  conversion := by decide
  bool := transfers_wordBool
  mark := transfers_wordInt32 1
  params := by
    have hknown : ∀ params ∈ [(sampleOption needSendFile).options,
        (sampleOption needSendFile).parameters],
        params ∈ primitiveStrings := by
      cases needSendFile <;> decide
    intro params hparams
    exact (transfers_primitiveString (hknown params hparams)).map some

theorem connect_transfers_sample :
    Transfers ((sampleOption false).marshalling wordPrimitives)
      (ConnectOptionParams.unmarshalling wordPrimitives) (sampleOption false) :=
  (connect_transfers_iff (carriesConnect_sample false)).1.mpr ⟨rfl, rfl⟩

/-- The flag of an option that asks to send files is lost. -/
theorem not_transfers_sendFile :
    wordPrimitives.CarriesConnect samplePeer (sampleOption true) ∧
      ¬ Transfers ((sampleOption true).marshalling wordPrimitives)
        (ConnectOptionParams.unmarshalling wordPrimitives)
        (sampleOption true) := by
  refine ⟨carriesConnect_sample true, ?_⟩
  intro htransfer
  obtain ⟨image, hwrite, hread⟩ := htransfer.arrives
  have hlost : (((sampleOption true).marshalling wordPrimitives []).bind
      fun written => ConnectOptionParams.unmarshalling wordPrimitives written.2
        0).map (fun found => found.1.needSendFile) = some false := by
    decide +kernel
  rw [hwrite, Option.bind_some, hread, Option.map_some] at hlost
  cases hlost

end Sample

end Dmsfwk
