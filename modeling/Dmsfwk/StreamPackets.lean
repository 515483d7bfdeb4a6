import Dmsfwk.DataSenderReceiver
import Dmsfwk.StreamDataCodec

/-!
# Stream data in one packet of bytes

The header is the text that cJSON finds behind the three fixed fields; it is not
terminated, and the raw data follows it at once.  Which bytes are read depends on
the length of the packet, the length of the header in it and the length of the
raw data in the header.
-/

namespace Dmsfwk
namespace StreamPackets

open ByteCodec CJson StreamDataCodec AVTransDataBuffer

structure AVTransStreamData where
  data : Bytes
  ext : StreamDataCodec.AVTransStreamDataExt
  deriving DecidableEq

/-! ## The text of the header -/

def textOf (bytes : Bytes) : List Char :=
  bytes.map fun byte => Char.ofNat byte.toNat

def bytesOf (text : List Char) : Bytes :=
  text.map fun c => UInt8.ofNat c.toNat

variable {text : List Char}

theorem textOf_bytesOf (htext : ∀ c ∈ text, c.toNat < 256) :
    textOf (bytesOf text) = text := by
  simp only [textOf, bytesOf, List.map_map]
  conv_rhs => rw [← List.map_id text]
  apply List.map_congr_left
  intro c hc
  have hbyte : (UInt8.ofNat c.toNat).toNat = c.toNat := by
    simp [Nat.mod_eq_of_lt (htext c hc)]
  simp [hbyte, Char.ofNat_toNat]

/-- The library, and the texts behind which it reads nothing more because a value
is complete. -/
structure Parser extends Library where
  complete : List Char → Bool

namespace Parser

/-- `cJSON_Parse` has read these bytes and reads no other. -/
def ends (parser : Parser) (read : Bytes) : Bool :=
  read.getLast? == some 0 || parser.complete (textOf read)

def headerText (parser : Parser) (dataHeader : Bytes) : Option Bytes :=
  dataHeader.inits.find? parser.ends

/-- The library prints the value as a text that it reads back, and which is
complete at its end only. -/
structure Delimits (parser : Parser) (json : Json) (text : List Char) : Prop where
  print : parser.print json = some text
  parse : parser.parse text = some json
  byte : ∀ c ∈ text, c ≠ '\x00' ∧ c.toNat < 256
  complete_iff : ∀ first, first <+: text →
    (parser.complete first = true ↔ first = text)

end Parser

/-! ## Sending -/

inductive SendErr where
  | getSerializedDataFailed
  | memcpy
  deriving DecidableEq

/-- The copies of `WriteDataToBuffer`, each behind the one before. -/
def writeAll (capacity : ℕ) (data : Bytes) (offset : ℕ) :
    List Bytes → Option Bytes
  | [] => some data
  | src :: rest =>
      (memcpyS data offset (capacity - offset) src).bind fun data =>
        writeAll capacity data (offset + src.length) rest

def version : ℕ := 0

def transType : ℕ := 0

def writeDataToBuffer (headerStr : Bytes) (streamData : AVTransStreamData) :
    Option Bytes :=
  let headerLen := headerStr.length % 2 ^ 32
  let buffer := ofCapacity (12 + headerStr.length + streamData.data.length)
  writeAll buffer.data.length buffer.data 0
    [leBytes 4 version, leBytes 4 transType, leBytes 4 headerLen, headerStr,
      streamData.data]

def addNumberToObject (json : Json) (key : String) (value : ℕ) : Json :=
  match json with
  | .object members => .object (members ++ [numberItem key value])
  | other => other

def headerJson (streamData : AVTransStreamData) : Json :=
  addNumberToObject (serializeStreamDataExt streamData.ext) "dataLen"
    streamData.data.length

def sendStreamDataByBytes (parser : Parser) (streamData : AVTransStreamData) :
    Except SendErr Bytes :=
  match parser.print (headerJson streamData) with
  | none => .error .getSerializedDataFailed
  | some headerStr =>
      match writeDataToBuffer (bytesOf headerStr) streamData with
      | none => .error .memcpy
      | some buffer => .ok buffer

/-! ## Receiving -/

structure Reading where
  accesses : List (ℕ × ℕ)
  stream : Option AVTransStreamData

/-- The header with its `dataLen`, which is cast from a signed number. -/
def parsedHeader (parser : Parser) (text : Bytes) : Option (Json × ℕ) := do
  let headerJson ← parser.parse (cStr (textOf text))
  let _ ← parser.print headerJson
  let valueint ← headerJson.getNumber "dataLen"
  return (headerJson, valueint.toUInt32.toNat)

/-- `dataHeader` goes on behind the buffer to the end of the memory. -/
def readStreamDataFromBuffer (parser : Parser) (dataHeader : Bytes)
    (headerLen totalLen : ℕ) : Reading :=
  match parser.headerText dataHeader with
  | none => ⟨[(0, dataHeader.length + 1)], none⟩
  | some text =>
      match parsedHeader parser text with
      | none => ⟨[(0, text.length)], none⟩
      | some (headerJson, rawDataLen) =>
          if totalLen - headerLen < rawDataLen then ⟨[(0, text.length)], none⟩
          else
            let buffer := ofCapacity rawDataLen
            let rawData := (dataHeader.drop headerLen).take rawDataLen
            match memcpyS buffer.data 0 buffer.size rawData with
            | none => ⟨[(0, text.length)], none⟩
            | some data =>
                ⟨[(0, text.length), (headerLen, rawDataLen)],
                  some ⟨data, deserializeExtFromJson headerJson {}⟩⟩

def receivedHeaderLen (received : Bytes) : ℕ :=
  leValue ((received.drop 8).take 4)

/-- `stream` is what a running filter adds to its queue. -/
def onBytes (parser : Parser) (received behind : Bytes) : Reading :=
  let headerLen := receivedHeaderLen received
  if received.length < 12 then ⟨[], none⟩
  else if received.length < 12 + headerLen then
    ⟨[(0, 4), (4, 4), (8, 4)], none⟩
  else
    let reading := readStreamDataFromBuffer parser ((received ++ behind).drop 12)
      headerLen received.length
    ⟨[(0, 4), (4, 4), (8, 4)] ++
      reading.accesses.map fun access => (12 + access.1, access.2),
      reading.stream⟩

/-! ## Reading inside -/

def ReadsInside (parser : Parser) (received behind : Bytes) : Prop :=
  ∀ access ∈ (onBytes parser received behind).accesses,
    access.1 + access.2 ≤ received.length

/-- The text ends in the packet, and so does raw data which the length of the
packet admits and a buffer can hold. -/
def HeaderFits (parser : Parser) (received : Bytes) : Prop :=
  12 + receivedHeaderLen received ≤ received.length →
    ∃ text, parser.headerText (received.drop 12) = some text ∧
      ∀ json rawDataLen, parsedHeader parser text = some (json, rawDataLen) →
        rawDataLen ≤ received.length - receivedHeaderLen received →
        rawDataLen < dschedMaxBufferSize →
          12 + receivedHeaderLen received + rawDataLen ≤ received.length

section Receiving

variable {parser : Parser}

theorem headerText_append (front behind : Bytes) :
    parser.headerText (front ++ behind) =
      (parser.headerText front).or
        ((behind.inits.tail.map (front ++ ·)).find? parser.ends) := by
  rw [Parser.headerText, List.inits_append, List.find?_append]
  rfl

theorem length_headerText_le {dataHeader text : Bytes}
    (htext : parser.headerText dataHeader = some text) :
    text.length ≤ dataHeader.length :=
  ((List.mem_inits _ _).mp (List.mem_of_find?_eq_some htext)).length_le

theorem lt_length_headerText {front behind text : Bytes}
    (hfront : parser.headerText front = none)
    (htext : parser.headerText (front ++ behind) = some text) :
    front.length < text.length := by
  rw [headerText_append, hfront, Option.none_or] at htext
  obtain ⟨first, hfirst, rfl⟩ :=
    List.mem_map.mp (List.mem_of_find?_eq_some htext)
  cases behind with
  | nil => simp at hfirst
  | cons byte behind =>
      simp only [List.inits_cons, List.tail_cons, List.mem_map] at hfirst
      obtain ⟨rest, -, rfl⟩ := hfirst
      simp

theorem memcpyS_rawData_eq_none_iff {rawData : Bytes} {rawDataLen : ℕ}
    (hrawData : rawData.length ≤ rawDataLen) :
    memcpyS (ofCapacity rawDataLen).data 0 (ofCapacity rawDataLen).size rawData =
        none ↔ rawDataLen = 0 ∨ dschedMaxBufferSize ≤ rawDataLen := by
  rw [memcpyS_eq_none_iff, ofCapacity]
  split_ifs with hcapacity
  · simp only [size]
    omega
  · exact iff_of_true (.inl rfl) (by omega)

theorem readsInside_cons_iff {start length : ℕ} {accesses : List (ℕ × ℕ)}
    {received : Bytes} :
    (∀ access ∈ [(0, 4), (4, 4), (8, 4)] ++
        ((start, length) :: accesses).map fun access =>
          (12 + access.1, access.2),
      access.1 + access.2 ≤ received.length) ↔
    12 ≤ received.length ∧ 12 + start + length ≤ received.length ∧
      ∀ access ∈ accesses, 12 + access.1 + access.2 ≤ received.length := by
  simp only [List.cons_append, List.nil_append, List.map_cons,
    List.forall_mem_cons, List.forall_mem_map]
  constructor
  · rintro ⟨-, -, hfields, haccess, hrest⟩
    exact ⟨by omega, haccess, hrest⟩
  · rintro ⟨hfields, haccess, hrest⟩
    exact ⟨by omega, by omega, by omega, haccess, hrest⟩

theorem accesses_of_headerText {dataHeader text : Bytes}
    (htext : parser.headerText dataHeader = some text) (headerLen totalLen : ℕ) :
    (readStreamDataFromBuffer parser dataHeader headerLen totalLen).accesses =
      (0, text.length) :: match parsedHeader parser text with
        | none => []
        | some (_, rawDataLen) =>
            if rawDataLen ≤ totalLen - headerLen ∧ rawDataLen ≠ 0 ∧
                rawDataLen < dschedMaxBufferSize
            then [(headerLen, rawDataLen)] else [] := by
  rw [readStreamDataFromBuffer, htext]
  dsimp only
  cases parsedHeader parser text with
  | none => rfl
  | some parsed =>
      obtain ⟨json, rawDataLen⟩ := parsed
      dsimp only
      have hcopied := @memcpyS_rawData_eq_none_iff
        ((dataHeader.drop headerLen).take rawDataLen) rawDataLen
        (List.length_take_le _ _)
      split_ifs with hlong hread hread
      · omega
      · rfl
      · cases hdata : memcpyS (ofCapacity rawDataLen).data 0
            (ofCapacity rawDataLen).size
            ((dataHeader.drop headerLen).take rawDataLen) with
        | none =>
            have := hcopied.mp hdata
            omega
        | some data => rfl
      · rw [hcopied.mpr (by omega)]

theorem readsInside_iff (received behind : Bytes) :
    ReadsInside parser received behind ↔ HeaderFits parser received := by
  rw [ReadsInside, HeaderFits, onBytes]
  dsimp only
  split_ifs with hshort hheader
  · exact iff_of_true (by simp) (by omega)
  · refine iff_of_true ?_ fun hfits => absurd hfits (by omega)
    simp only [List.forall_mem_cons, List.not_mem_nil, false_implies, implies_true,
      and_true]
    omega
  rw [not_lt] at hshort hheader
  rw [List.drop_append_of_le_length hshort, imp_iff_right hheader]
  have htail : (received.drop 12).length = received.length - 12 :=
    List.length_drop
  cases hfront : parser.headerText (received.drop 12) with
  | some text =>
      have htext : parser.headerText (received.drop 12 ++ behind) = some text := by
        rw [headerText_append, hfront, Option.some_or]
      have hlength := length_headerText_le hfront
      rw [accesses_of_headerText htext, readsInside_cons_iff]
      simp only [Option.some.injEq, exists_eq_left']
      cases parsedHeader parser text with
      | none => simp; omega
      | some parsed =>
          obtain ⟨json, rawDataLen⟩ := parsed
          simp only [Option.some.injEq, Prod.mk.injEq, and_imp, forall_apply_eq_imp_iff,
            forall_eq']
          split_ifs with hread
          · simp
            omega
          · simp
            omega
  | none =>
      refine iff_of_false ?_ (by simp)
      cases htext : parser.headerText (received.drop 12 ++ behind) with
      | none =>
          rw [readStreamDataFromBuffer, htext, readsInside_cons_iff]
          simp only [List.length_append]
          omega
      | some text =>
          have hlength := lt_length_headerText hfront htext
          rw [accesses_of_headerText htext, readsInside_cons_iff]
          omega

end Receiving

/-! ## The round trip -/

section Sending

variable {parser : Parser}

theorem writeAll_append {capacity : ℕ} {last : Bytes} (hlast : last ≠ [])
    {writes : List Bytes} {filled : Bytes}
    (hroom : (filled ++ writes.flatten ++ last).length ≤ capacity) :
    writeAll capacity (filled ++ List.replicate (capacity - filled.length) 0)
        filled.length (writes ++ [last]) =
      some (filled ++ writes.flatten ++ last ++ List.replicate
        (capacity - (filled ++ writes.flatten ++ last).length) 0) := by
  have hpos := List.length_pos_of_ne_nil hlast
  induction writes generalizing filled with
  | nil =>
      simp only [List.flatten_nil, List.append_nil, List.length_append] at hroom
      rw [List.nil_append, writeAll,
        memcpyS_append_replicate (by omega) (by omega), Option.bind_some, writeAll,
        List.flatten_nil, List.append_nil]
  | cons src writes ih =>
      simp only [List.flatten_cons, ← List.append_assoc] at hroom ⊢
      have hsrc := hroom
      simp only [List.length_append] at hsrc
      rw [List.cons_append, writeAll,
        memcpyS_append_replicate (by omega) (by omega), Option.bind_some,
        ← List.length_append, ih hroom]

variable {streamData : AVTransStreamData}

theorem writeDataToBuffer_eq {headerStr : Bytes} (hdata : streamData.data ≠ [])
    (htotal : 12 + headerStr.length + streamData.data.length <
      dschedMaxBufferSize) :
    writeDataToBuffer headerStr streamData = some (leBytes 4 version ++
      leBytes 4 transType ++ leBytes 4 headerStr.length ++ headerStr ++
        streamData.data) := by
  have hheaderLen : headerStr.length % 2 ^ 32 = headerStr.length := by
    rw [dschedMaxBufferSize] at htotal
    exact Nat.mod_eq_of_lt (by omega)
  rw [writeDataToBuffer, hheaderLen, ofCapacity, if_pos ⟨by omega, htotal⟩]
  have hwritten := @writeAll_append
    (12 + headerStr.length + streamData.data.length) _ hdata
    [leBytes 4 version, leBytes 4 transType, leBytes 4 headerStr.length, headerStr]
    [] (by simp; omega)
  simpa [Nat.sub_eq_zero_of_le, ← Nat.add_assoc] using hwritten

theorem ends_bytesOf_iff {json : Json} (hdelimits : parser.Delimits json text)
    {first : Bytes} (hfirst : first <+: bytesOf text) :
    parser.ends first = true ↔ first = bytesOf text := by
  rw [List.prefix_iff_eq_take, bytesOf, ← List.map_take] at hfirst
  have hprefix : text.take first.length <+: text := List.take_prefix _ _
  have htext : textOf first = text.take first.length := by
    conv_lhs => rw [hfirst]
    exact textOf_bytesOf fun c hc => (hdelimits.byte c (List.mem_of_mem_take hc)).2
  have hlast : first.getLast? ≠ some 0 := by
    intro hzero
    have hmem := List.mem_of_getLast? hzero
    rw [hfirst, List.mem_map] at hmem
    obtain ⟨c, hc, hnul⟩ := hmem
    obtain ⟨hne, hbyte⟩ := hdelimits.byte c (List.mem_of_mem_take hc)
    have hvalue : c.toNat = 0 := by
      have := congrArg UInt8.toNat hnul
      simpa [Nat.mod_eq_of_lt hbyte] using this
    exact hne (by rw [← Char.ofNat_toNat c, hvalue])
  rw [Parser.ends, beq_eq_false_iff_ne.mpr hlast, Bool.false_or, htext,
    hdelimits.complete_iff _ hprefix]
  constructor
  · intro hwhole
    rw [hfirst, hwhole, bytesOf]
  · intro hwhole
    rw [← htext, hwhole, textOf_bytesOf fun c hc => (hdelimits.byte c hc).2]

theorem headerText_bytesOf {json : Json} (hdelimits : parser.Delimits json text)
    (rest : Bytes) :
    parser.headerText (bytesOf text ++ rest) = some (bytesOf text) := by
  have hends : ∀ first, first <+: bytesOf text →
      (parser.ends first = true ↔ first = bytesOf text) :=
    fun first hfirst => ends_bytesOf_iff hdelimits hfirst
  have hfound : (parser.headerText (bytesOf text)).isSome :=
    List.find?_isSome.mpr ⟨bytesOf text,
      (List.mem_inits _ _).mpr (List.prefix_refl _),
      (hends _ (List.prefix_refl _)).mpr rfl⟩
  obtain ⟨first, hfirst⟩ := Option.isSome_iff_exists.mp hfound
  have hprefix := (List.mem_inits _ _).mp (List.mem_of_find?_eq_some hfirst)
  obtain rfl := (hends first hprefix).mp (List.find?_some hfirst)
  rw [headerText_append, hfirst, Option.some_or]

theorem getNumber_dataLen (streamData : AVTransStreamData)
    (hlength : streamData.data.length ≤ intMax) :
    ∃ valueint, (headerJson streamData).getNumber "dataLen" = some valueint ∧
      valueint.toUInt32.toNat = streamData.data.length := by
  have hitem : (headerJson streamData).getObjectItemCaseSensitive "dataLen" =
      some (numberItem "dataLen" streamData.data.length).2 := by
    rw [headerJson, serializeStreamDataExt]
    split_ifs <;> rfl
  have hword : (UInt32.ofNat streamData.data.length).toNat =
      streamData.data.length := by
    rw [intMax] at hlength
    exact Nat.mod_eq_of_lt (by omega)
  have hback := throughValueint_of_le (hword.trans_le hlength)
  rw [throughValueint, hword] at hback
  refine ⟨toValueint streamData.data.length, ?_, by rw [hback, hword]⟩
  rw [Json.getNumber, hitem]
  rfl

theorem parsedHeader_bytesOf {headerStr : List Char}
    (hdelimits : parser.Delimits (headerJson streamData) headerStr)
    (hlength : streamData.data.length ≤ intMax) :
    parsedHeader parser (bytesOf headerStr) =
      some (headerJson streamData, streamData.data.length) := by
  obtain ⟨valueint, hnumber, hvalue⟩ := getNumber_dataLen streamData hlength
  have htext : cStr (textOf (bytesOf headerStr)) = headerStr := by
    rw [textOf_bytesOf fun c hc => (hdelimits.byte c hc).2]
    exact cStr_of_nul_not_mem fun hnul => (hdelimits.byte _ hnul).1 rfl
  simp [parsedHeader, htext, hdelimits.parse, hdelimits.print, hnumber, hvalue]

theorem memcpyS_ofCapacity {data : Bytes} (hdata : data ≠ [])
    (hfits : data.length < dschedMaxBufferSize) :
    memcpyS (ofCapacity data.length).data 0 (ofCapacity data.length).size data =
      some data := by
  have hpos := List.length_pos_of_ne_nil hdata
  rw [ofCapacity, if_pos ⟨by omega, hfits⟩, memcpyS, if_neg (by simp [size, hdata])]
  simp

theorem readStreamDataFromBuffer_eq {headerStr : List Char}
    (hdelimits : parser.Delimits (headerJson streamData) headerStr)
    (hdata : streamData.data ≠ [])
    (htotal : 12 + headerStr.length + streamData.data.length <
      dschedMaxBufferSize) (behind : Bytes) :
    (readStreamDataFromBuffer parser
        (bytesOf headerStr ++ streamData.data ++ behind) headerStr.length
        (12 + headerStr.length + streamData.data.length)).stream =
      some ⟨streamData.data, deserializeExtFromJson (headerJson streamData) {}⟩ := by
  rw [dschedMaxBufferSize] at htotal
  have hheader := headerText_bytesOf hdelimits (streamData.data ++ behind)
  have hparsed := parsedHeader_bytesOf hdelimits (by rw [intMax]; omega)
  have hlength : (bytesOf headerStr).length = headerStr.length :=
    List.length_map _
  rw [readStreamDataFromBuffer, List.append_assoc, hheader]
  dsimp only
  rw [hparsed]
  dsimp only
  rw [if_neg (by omega), ← hlength, List.drop_left, List.take_left,
    memcpyS_ofCapacity hdata (by rw [dschedMaxBufferSize]; omega)]

theorem stream_onBytes {headerLen : ℕ} {rest : Bytes} (hlen : headerLen < 2 ^ 32)
    (hrest : headerLen ≤ rest.length) (behind : Bytes) :
    (onBytes parser (leBytes 4 version ++ leBytes 4 transType ++
        leBytes 4 headerLen ++ rest) behind).stream =
      (readStreamDataFromBuffer parser (rest ++ behind) headerLen
        (12 + rest.length)).stream := by
  have hreceived : receivedHeaderLen (leBytes 4 version ++ leBytes 4 transType ++
      leBytes 4 headerLen ++ rest) = headerLen := by
    rw [receivedHeaderLen, List.append_assoc,
      List.drop_left' (by simp), List.take_left' (by simp), leValue_leBytes hlen]
  have hdrop : (leBytes 4 version ++ leBytes 4 transType ++ leBytes 4 headerLen ++
      rest ++ behind).drop 12 = rest ++ behind := by
    rw [List.append_assoc _ rest behind, List.drop_left' (by simp)]
  simp only [onBytes, hreceived, hdrop, List.length_append, length_leBytes]
  rw [if_neg (by omega), if_neg (by omega)]

/-- A packet is read inside exactly when it fits, and what the sender packs is
what the receiver unpacks. -/
theorem streamPackets_iff (parser : Parser) :
    (∀ received behind,
      ReadsInside parser received behind ↔ HeaderFits parser received) ∧
    ∀ (streamData : AVTransStreamData) (headerStr : List Char),
      parser.Delimits (headerJson streamData) headerStr →
      streamData.data ≠ [] →
      12 + headerStr.length + streamData.data.length < dschedMaxBufferSize →
      ∃ packet ext, sendStreamDataByBytes parser streamData = .ok packet ∧
        deserializeStreamDataExt parser.toLibrary (some headerStr) {} =
          (.errOk, ext) ∧
        ∀ behind, (onBytes parser packet behind).stream =
          some ⟨streamData.data, ext⟩ := by
  refine ⟨readsInside_iff, ?_⟩
  intro streamData headerStr hdelimits hdata htotal
  have hlength : (bytesOf headerStr).length = headerStr.length :=
    List.length_map _
  have hnul : '\x00' ∉ headerStr := fun hnul => (hdelimits.byte _ hnul).1 rfl
  have hwritten := writeDataToBuffer_eq hdata (hlength.symm ▸ htotal)
  refine ⟨leBytes 4 version ++ leBytes 4 transType ++ leBytes 4 headerStr.length ++
    (bytesOf headerStr ++ streamData.data),
    deserializeExtFromJson (headerJson streamData) {}, ?_, ?_, ?_⟩
  · rw [sendStreamDataByBytes, hdelimits.print]
    dsimp only
    rw [hwritten, hlength, List.append_assoc]
  · rw [deserializeStreamDataExt, cStr_of_nul_not_mem hnul, hdelimits.parse]
  · intro behind
    have hread := readStreamDataFromBuffer_eq hdelimits hdata htotal behind
    rw [dschedMaxBufferSize] at htotal
    rw [stream_onBytes (by omega) (by simp [hlength]), List.length_append, hlength,
      ← Nat.add_assoc, hread]

end Sending

/-! ## Two packets -/

def singleParser (json : Json) (text : List Char) : Parser where
  print _ := some text
  parse read := if read = text then some json else none
  complete read := read == text

theorem delimits_singleParser (json : Json)
    (hbyte : ∀ c ∈ text, c ≠ '\x00' ∧ c.toNat < 256) :
    (singleParser json text).Delimits json text where
  print := rfl
  parse := if_pos rfl
  byte := hbyte
  complete_iff := by simp [singleParser]

def sampleText : List Char :=
  ("\x7b\"flag\":4,\"index\":1,\"pts\":\"40\",\"startEncodeT\":\"0\"," ++
    "\"finishEncodeT\":\"0\",\"sendEncodeT\":\"0\",\"dataLen\":1\x7d").toList

theorem byte_sampleText :
    ∀ c ∈ sampleText, c ≠ '\x00' ∧ c.toNat < 256 := by
  have hall : (sampleText.all fun c => decide (c ≠ '\x00' ∧ c.toNat < 256)) =
      true := by decide +kernel
  exact fun c hmem => of_decide_eq_true (List.all_eq_true.mp hall c hmem)

theorem streamPackets_firstFrame :
    let streamData : AVTransStreamData := ⟨[7], { index := 1, pts := 40 }⟩
    let parser := singleParser (headerJson streamData) sampleText
    ∃ packet ext, sendStreamDataByBytes parser streamData = .ok packet ∧
      deserializeStreamDataExt parser.toLibrary (some sampleText) {} =
        (.errOk, ext) ∧
      ∀ behind, (onBytes parser packet behind).stream = some ⟨[7], ext⟩ :=
  (streamPackets_iff _).2 ⟨[7], { index := 1, pts := 40 }⟩ sampleText
    (delimits_singleParser _ byte_sampleText) (by decide)
    (by decide +kernel)

/-- Nine bytes of raw data where the packet holds one. -/
theorem not_readsInside_longDataLen :
    ¬ ∀ (parser : Parser) (received behind : Bytes),
      ReadsInside parser received behind := by
  intro hall
  let text := "\x7b\"dataLen\":9\x7d".toList
  let received := leBytes 4 version ++ leBytes 4 transType ++
    leBytes 4 text.length ++ bytesOf text ++ [7]
  have hinside := hall (singleParser (.object [("dataLen", .number 9)]) text)
    received [] (25, 9) (by decide +kernel)
  exact absurd hinside (by decide)

end StreamPackets
end Dmsfwk
