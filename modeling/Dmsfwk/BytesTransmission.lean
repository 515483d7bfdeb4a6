import Dmsfwk.BytesReassembly

/-!
# Transmissions on the bytes channel

A transmission is a well-formed fragmentation of one payload.  This module
says what a receiver in any reachable state makes of the packets of a complete
transmission, and when the packets of transmissions that may have been cut
anywhere are kept apart.
-/

namespace Dmsfwk

open ByteCodec
open SessionDataHeader
open AVTransDataBuffer

structure Transmission where
  dataType : ℕ
  fragments : List Bytes
  dataType_lt : dataType < 2 ^ 32
  nonempty : fragments ≠ []
  count_le : fragments.length ≤ 2 ^ 16
  fragment_pos : ∀ fragment ∈ fragments, 0 < fragment.length
  fragment_le : ∀ fragment ∈ fragments,
    fragment.length ≤ binaryPayloadMaxLen
  size_lt : fragments.flatten.length < dschedMaxBufferSize

namespace Transmission

def payload (t : Transmission) : Bytes := t.fragments.flatten

def count (t : Transmission) : ℕ := t.fragments.length

/-- A payload sent in one packet counts its header, a fragmented one does
not. -/
def totalLen (t : Transmission) : ℕ :=
  if t.count = 1 then t.payload.length + headerLen else t.payload.length

def flagAt (t : Transmission) (index : ℕ) : FragType :=
  if t.count = 1 then .fragStartEnd
  else if index = 0 then .fragStart
  else if index + 1 = t.count then .fragEnd
  else .fragMid

def header (t : Transmission) (index : ℕ) (fragment : Bytes) :
    SessionDataHeader where
  version := protocolVersion
  fragFlag := (t.flagAt index).code
  dataType := t.dataType
  seqNum := 0
  totalLen := t.totalLen
  packetLen := fragment.length + headerLen
  payloadLen := fragment.length
  subSeq := index

def packet (t : Transmission) (index : ℕ) (fragment : Bytes) : Bytes :=
  (t.header index fragment).serialize ++ fragment

def packetsFrom (t : Transmission) : ℕ → List Bytes → List Bytes
  | _, [] => []
  | index, fragment :: rest =>
      t.packet index fragment :: t.packetsFrom (index + 1) rest

def packets (t : Transmission) : List Bytes := t.packetsFrom 0 t.fragments

/-- `Deserialize` wants the packet, header included, to be no longer than the
whole message. -/
def Accepted (t : Transmission) (fragment : Bytes) : Prop :=
  fragment.length + headerLen ≤ t.totalLen

instance (t : Transmission) (fragment : Bytes) :
    Decidable (t.Accepted fragment) :=
  inferInstanceAs (Decidable (_ ≤ _))

/-! ## One packet -/

variable {fragment : Bytes}

section Layout

variable (t : Transmission)

theorem length_le_payload (hmem : fragment ∈ t.fragments) :
    fragment.length ≤ t.payload.length := by
  unfold payload
  rw [List.length_flatten]
  exact List.le_sum_of_mem (List.mem_map_of_mem hmem)

theorem totalLen_lt : t.totalLen < dschedMaxBufferSize := by
  have hsize : t.payload.length < dschedMaxBufferSize := t.size_lt
  unfold totalLen
  split_ifs with hcount
  · obtain ⟨fragment, hfragment⟩ := List.length_eq_one_iff.mp hcount
    have hle := t.fragment_le fragment (by simp [hfragment])
    have hpayload : t.payload = fragment := by simp [payload, hfragment]
    rw [hpayload]
    simp only [binaryPayloadMaxLen, dschedMaxBufferSize, headerLen_eq] at *
    omega
  · exact hsize

theorem header_inRange {index : ℕ} (hindex : index < t.count)
    (hmem : fragment ∈ t.fragments) :
    (t.header index fragment).InRange := by
  have htotal := t.totalLen_lt
  have hcount := t.count_le
  have hfragment := t.fragment_le fragment hmem
  simp only [dschedMaxBufferSize, binaryPayloadMaxLen] at htotal hfragment
  refine ⟨by simp [header, protocolVersion], ?_, t.dataType_lt,
    by simp [header], ?_, ?_, ?_, ?_⟩
  · cases hflag : t.flagAt index <;> simp [header, hflag, FragType.code]
  · simp only [header]
    omega
  · simp only [header, headerLen_eq]
    omega
  · simp only [header]
    omega
  · simp only [header]
    exact hindex.trans_le hcount

theorem checkLengths_header (index : ℕ) (hmem : fragment ∈ t.fragments) :
    (t.header index fragment).checkLengths = true ↔ t.Accepted fragment := by
  have hfragment := t.fragment_le fragment hmem
  rw [checkLengths_iff]
  simp only [header, Accepted, binaryPayloadMaxLen, binaryDataMaxTotalLen,
    headerLen_eq] at *
  omega

theorem packetPayload_packet (index : ℕ) (fragment : Bytes) (beyond : ℕ → UInt8) :
    DataSenderReceiver.packetPayload beyond (t.packet index fragment)
      (t.header index fragment) = fragment := by
  have hoffset : (t.header index fragment).packetLen -
      (t.header index fragment).payloadLen =
      (t.header index fragment).serialize.length := by
    simp [header]
  unfold DataSenderReceiver.packetPayload packet
  rw [hoffset, readBytes_append_of_le (by simp [header])]
  simp [header]

theorem recv_packet {index : ℕ} (hindex : index < t.count)
    (hmem : fragment ∈ t.fragments) (state : Assembly) (memory : RecvMemory) :
    state.recv (memory, t.packet index fragment) =
      if t.Accepted fragment then
        state.step (t.header index fragment) fragment
      else ((.writeSessionHeaderFailed, none), state) := by
  have hread : deserialize memory.stack (t.packet index fragment) =
      if (t.header index fragment).checkLengths then
        some (t.header index fragment)
      else none :=
    deserialize_serialize_append (t.header_inRange hindex hmem)
      memory.stack fragment
  unfold Assembly.recv
  simp only [hread, checkLengths_header t index hmem]
  by_cases haccepted : t.Accepted fragment
  · simp only [if_pos haccepted, packetPayload_packet]
  · simp only [if_neg haccepted]

/-! ## The steps a transmission can cause -/

theorem step_unexpected {index : ℕ} (fragment : Bytes) {state : Assembly}
    (hsub : ¬state.ExpectsSub index) :
    state.step (t.header index fragment) fragment =
      ((.invalidSessionHeaderSubSeq, none), state) := by
  have hsub' : ¬state.ExpectsSub (t.header index fragment).subSeq := hsub
  unfold Assembly.step
  rw [if_neg (by simp [header]), if_neg hsub']

theorem step_expected {index : ℕ} (fragment : Bytes) {state : Assembly}
    (hsub : state.ExpectsSub index) :
    state.step (t.header index fragment) fragment =
      state.stepByFlag (t.header index fragment) fragment := by
  have hsub' : state.ExpectsSub (t.header index fragment).subSeq := hsub
  unfold Assembly.step
  rw [if_neg (by simp [header]), if_pos hsub']

theorem flag_header (index : ℕ) (fragment : Bytes) :
    FragType.ofCode? (t.header index fragment).fragFlag =
      some (t.flagAt index) := by
  simp [header]

theorem step_single (hfragments : t.fragments = [fragment]) :
    Assembly.idle.step (t.header 0 fragment) fragment =
      ((.errOk, some fragment), .idle) := by
  have hcount : t.count = 1 := by simp [count, hfragments]
  have htotal := t.totalLen_lt
  have hpos := t.fragment_pos fragment (by simp [hfragments])
  have hpayload : t.payload = fragment := by simp [payload, hfragments]
  have hopens : Assembly.Opens (t.header 0 fragment).totalLen fragment := by
    refine ⟨htotal, ?_⟩
    simp only [header, Assembly.Fits, totalLen, hcount, hpayload,
      List.length_nil, if_true]
    omega
  have hflag : t.flagAt 0 = .fragStartEnd := by simp [flagAt, hcount]
  rw [step_expected t fragment (.inl ⟨rfl, rfl⟩)]
  simp only [Assembly.stepByFlag, flag_header, hflag, if_pos hopens]

theorem step_start (hcount : t.count ≠ 1) (hmem : fragment ∈ t.fragments) :
    Assembly.idle.step (t.header 0 fragment) fragment =
      ((.errOk, none), .collecting t.totalLen fragment 0) := by
  have hpos := t.fragment_pos fragment hmem
  have hle := t.length_le_payload hmem
  have hopens : Assembly.Opens (t.header 0 fragment).totalLen fragment := by
    refine ⟨t.totalLen_lt, ?_⟩
    simp only [header, Assembly.Fits, totalLen, hcount, List.length_nil,
      if_false]
    omega
  have hflag : t.flagAt 0 = .fragStart := by simp [flagAt, hcount]
  rw [step_expected t fragment (.inl ⟨rfl, rfl⟩)]
  simp only [Assembly.stepByFlag, flag_header, hflag, if_pos hopens]
  rfl

theorem step_next {lastSub : ℕ} {received fragment : Bytes}
    (hindex : lastSub + 1 < t.count)
    (hfits : Assembly.Fits t.totalLen received fragment) :
    (Assembly.collecting t.totalLen received lastSub).step
        (t.header (lastSub + 1) fragment) fragment =
      if lastSub + 2 = t.count then
        ((.errOk, some (received ++ fragment)), .idle)
      else ((.errOk, none),
        .collecting t.totalLen (received ++ fragment) (lastSub + 1)) := by
  have hcount : t.count ≠ 1 := by omega
  have htotal : (t.header (lastSub + 1) fragment).totalLen = t.totalLen := rfl
  have hsub : (Assembly.collecting t.totalLen received lastSub).ExpectsSub
      (lastSub + 1) := .inr rfl
  rw [step_expected t fragment hsub]
  by_cases hlast : lastSub + 2 = t.count
  · have hflag : t.flagAt (lastSub + 1) = .fragEnd := by
      simp [flagAt, hcount, hlast]
    simp only [Assembly.stepByFlag, flag_header, hflag, htotal, ne_eq,
      not_true_eq_false, if_false, if_pos hfits, if_pos hlast]
  · have hflag : t.flagAt (lastSub + 1) = .fragMid := by
      simp [flagAt, hcount, hlast]
    simp only [Assembly.stepByFlag, flag_header, hflag, htotal, ne_eq,
      not_true_eq_false, if_false, if_pos hfits, if_neg hlast]
    rfl

/-- A fragment with the expected number which does not belong to the message
under construction, by its total length or by its size, ends that message. -/
theorem step_misfit {total lastSub : ℕ} {received fragment : Bytes}
    (hindex : lastSub + 1 < t.count)
    (hmisfit : ¬(total = t.totalLen ∧
      Assembly.Fits t.totalLen received fragment)) :
    ∃ error, (Assembly.collecting total received lastSub).step
        (t.header (lastSub + 1) fragment) fragment =
      ((error, none), .idle) := by
  have hcount : t.count ≠ 1 := by omega
  have htotal : (t.header (lastSub + 1) fragment).totalLen = t.totalLen := rfl
  have hsub : (Assembly.collecting total received lastSub).ExpectsSub
      (lastSub + 1) := .inr rfl
  rw [step_expected t fragment hsub]
  have hflag : t.flagAt (lastSub + 1) = .fragEnd ∨
      t.flagAt (lastSub + 1) = .fragMid := by
    by_cases hlast : lastSub + 2 = t.count
    · left
      simp [flagAt, hcount, hlast]
    · right
      simp [flagAt, hcount, hlast]
  by_cases heq : total = t.totalLen
  · have hfits : ¬Assembly.Fits total received fragment := by
      rw [heq]
      exact fun hfits => hmisfit ⟨heq, hfits⟩
    refine ⟨.writePayloadToBufferFailed, ?_⟩
    rcases hflag with hflag | hflag <;>
      simp only [Assembly.stepByFlag, flag_header, hflag, htotal, heq, ne_eq,
        not_true_eq_false, if_false] <;>
      rw [if_neg (heq ▸ hfits)]
  · refine ⟨.invalidSessionHeaderTotalLen, ?_⟩
    rcases hflag with hflag | hflag <;>
      simp only [Assembly.stepByFlag, flag_header, hflag, htotal, ne_eq, heq,
        not_false_eq_true, if_true]

theorem step_first_collecting (fragment : Bytes) (total lastSub : ℕ)
    (received : Bytes) :
    (Assembly.collecting total received lastSub).step
        (t.header 0 fragment) fragment =
      if lastSub = 0 then ((.flagTypeNotMatchBufferState, none), .idle)
      else ((.invalidSessionHeaderSubSeq, none),
        .collecting total received lastSub) := by
  by_cases hzero : lastSub = 0
  · have hflag : t.flagAt 0 = .fragStartEnd ∨ t.flagAt 0 = .fragStart := by
      by_cases hcount : t.count = 1
      · left
        simp [flagAt, hcount]
      · right
        simp [flagAt, hcount]
    have hsub : (Assembly.collecting total received lastSub).ExpectsSub 0 :=
      .inl ⟨hzero, rfl⟩
    rw [step_expected t fragment hsub, if_pos hzero]
    rcases hflag with hflag | hflag <;>
      simp only [Assembly.stepByFlag, flag_header, hflag]
  · have hsub : ¬(Assembly.collecting total received lastSub).ExpectsSub 0 := by
      rintro (hsub | hsub)
      · exact hzero hsub.1
      · exact absurd hsub (Nat.succ_ne_zero _)
    rw [step_unexpected t fragment hsub, if_neg hzero]

theorem step_late_idle (fragment : Bytes) {index : ℕ} (hpos : 0 < index)
    (hindex : index < t.count) :
    ∃ error, Assembly.idle.step (t.header index fragment) fragment =
      ((error, none), .idle) := by
  by_cases hone : index = 1
  · subst hone
    have hcount : t.count ≠ 1 := by omega
    have hsub : Assembly.idle.ExpectsSub 1 := .inr rfl
    refine ⟨.flagTypeNotMatchBufferState, ?_⟩
    rw [step_expected t fragment hsub]
    by_cases hlast : 2 = t.count
    · have hflag : t.flagAt 1 = .fragEnd := by simp [flagAt, hcount, hlast]
      simp only [Assembly.stepByFlag, flag_header, hflag]
    · have hflag : t.flagAt 1 = .fragMid := by simp [flagAt, hcount, hlast]
      simp only [Assembly.stepByFlag, flag_header, hflag]
  · have hsub : ¬Assembly.idle.ExpectsSub index := by
      simp only [Assembly.ExpectsSub, Assembly.lastSub]
      omega
    exact ⟨_, step_unexpected t fragment hsub⟩

end Layout

/-! ## A complete transmission -/

def DeliveredLast (results : List DataSenderReceiver.RecvResult)
    (payload : Bytes) : Prop :=
  results = List.replicate (results.length - 1) (.errOk, none) ++
    [(.errOk, some payload)]

instance (results : List DataSenderReceiver.RecvResult) (payload : Bytes) :
    Decidable (DeliveredLast results payload) :=
  inferInstanceAs (Decidable (_ = _))

theorem deliveredLast_replicate (n : ℕ) (payload : Bytes) :
    DeliveredLast (List.replicate n (CollabErr.errOk, none) ++
      [(CollabErr.errOk, some payload)]) payload := by
  simp [DeliveredLast]

variable {results : List DataSenderReceiver.RecvResult}

theorem DeliveredLast.errOk {payload : Bytes} (h : DeliveredLast results payload) :
    ∀ result ∈ results, result.1 = .errOk := by
  intro result hresult
  rw [h] at hresult
  rcases List.mem_append.mp hresult with hresult | hresult
  · rw [List.eq_of_mem_replicate hresult]
  · rw [List.mem_singleton.mp hresult]

theorem DeliveredLast.getLast?_eq {payload : Bytes}
    (h : DeliveredLast results payload) :
    results.getLast? = some (.errOk, some payload) := by
  rw [h, List.getLast?_append]
  rfl

theorem fits_of_fragments {t : Transmission} {done rest : List Bytes}
    (hfragments : t.fragments = done ++ fragment :: rest) (hcount : t.count ≠ 1) :
    Assembly.Fits t.totalLen done.flatten fragment := by
  have hpos := t.fragment_pos fragment (by simp [hfragments])
  have hlength : done.flatten.length + fragment.length ≤ t.totalLen := by
    rw [totalLen, if_neg hcount, payload, hfragments, List.flatten_append,
      List.flatten_cons, List.length_append, List.length_append]
    omega
  unfold Assembly.Fits
  omega

theorem recvAll_rest
    {t : Transmission}
    (haccepted : ∀ fragment ∈ t.fragments, t.Accepted fragment)
    {memories : List RecvMemory} {done rest : List Bytes} {lastSub : ℕ}
    (hfragments : t.fragments = done ++ rest) (hdone : done.length = lastSub + 1)
    (hrest : rest ≠ []) (hlength : memories.length = rest.length) :
    (Assembly.collecting t.totalLen done.flatten lastSub).recvAll
        (memories.zip (t.packetsFrom (lastSub + 1) rest)) =
      (List.replicate (rest.length - 1) (CollabErr.errOk, none) ++
        [(CollabErr.errOk, some t.payload)], .idle) := by
  induction rest generalizing memories done lastSub with
  | nil => exact absurd rfl hrest
  | cons fragment rest ih =>
      obtain ⟨memory, memories, rfl⟩ :=
        List.exists_cons_of_length_eq_add_one hlength
      have hcount : t.count = lastSub + 2 + rest.length := by
        simp only [count, hfragments, List.length_append, List.length_cons,
          hdone]
        omega
      have hmem : fragment ∈ t.fragments := by simp [hfragments]
      have hfits := fits_of_fragments hfragments (by omega)
      have hrecv := t.recv_packet (by omega : lastSub + 1 < t.count) hmem
        (.collecting t.totalLen done.flatten lastSub) memory
      rw [if_pos (haccepted fragment hmem),
        step_next t (by omega) hfits] at hrecv
      simp only [packetsFrom, List.zip_cons_cons, Assembly.recvAll,
        EventRun.run_cons, hrecv]
      cases rest with
      | nil =>
          have hlast : lastSub + 2 = t.count := by simp [hcount]
          have hpayload : t.payload = done.flatten ++ fragment := by
            simp [payload, hfragments]
          simp [if_pos hlast, packetsFrom, hpayload]
      | cons next rest =>
          have hlast : lastSub + 2 ≠ t.count := by
            simp only [hcount, List.length_cons]
            omega
          have hnext := @ih memories (done ++ [fragment]) (lastSub + 1)
            (by simp [hfragments]) (by simp [hdone]) (by simp)
            (by simpa using hlength)
          simp only [Assembly.recvAll, List.flatten_append,
            List.flatten_cons, List.flatten_nil, List.append_nil] at hnext
          simp only [if_neg hlast, hnext]
          simp [List.replicate_succ]

variable {memories : List RecvMemory}

theorem recvAll_idle {t : Transmission}
    (haccepted : ∀ fragment ∈ t.fragments, t.Accepted fragment)
    (hlength : memories.length = t.count) :
    Assembly.idle.recvAll (memories.zip t.packets) =
      (List.replicate (t.count - 1) (CollabErr.errOk, none) ++
        [(CollabErr.errOk, some t.payload)], .idle) := by
  cases hfragments : t.fragments with
  | nil => exact absurd hfragments t.nonempty
  | cons fragment rest =>
      have hcount : t.count = rest.length + 1 := by simp [count, hfragments]
      obtain ⟨memory, memories, rfl⟩ :=
        List.exists_cons_of_length_eq_add_one (hlength.trans hcount)
      have hmem : fragment ∈ t.fragments := by simp [hfragments]
      have hrecv := t.recv_packet (by omega : 0 < t.count) hmem .idle memory
      rw [if_pos (haccepted fragment hmem)] at hrecv
      unfold packets
      rw [hfragments]
      simp only [packetsFrom, List.zip_cons_cons, Assembly.recvAll,
        EventRun.run_cons]
      cases rest with
      | nil =>
          rw [step_single t hfragments] at hrecv
          have hpayload : t.payload = fragment := by simp [payload, hfragments]
          simp [hrecv, packetsFrom, hcount, hpayload]
      | cons next rest =>
          rw [step_start t (by simp [hcount]) hmem] at hrecv
          have hnext := @recvAll_rest t haccepted memories [fragment]
            (next :: rest) 0 (by simp [hfragments]) rfl (by simp)
            (by simpa [hcount] using hlength)
          simp only [Assembly.recvAll, List.flatten_cons, List.flatten_nil,
            List.append_nil] at hnext
          simp only [hrecv, hnext]
          simp [hcount, List.replicate_succ]

theorem accepted_of_errOk {t : Transmission} {rest : List Bytes} {index : ℕ}
    (state : Assembly) (hrest : ∀ fragment ∈ rest, fragment ∈ t.fragments)
    (hindex : index + rest.length ≤ t.count)
    (hlength : memories.length = rest.length)
    (herrOk : ∀ result ∈ (state.recvAll
        (memories.zip (t.packetsFrom index rest))).1, result.1 = .errOk) :
    ∀ fragment ∈ rest, t.Accepted fragment := by
  induction rest generalizing memories index state with
  | nil => simp
  | cons fragment rest ih =>
      obtain ⟨memory, memories, rfl⟩ :=
        List.exists_cons_of_length_eq_add_one hlength
      simp only [List.length_cons] at hindex hlength
      have hmem := hrest fragment List.mem_cons_self
      have hrecv := t.recv_packet (by omega : index < t.count) hmem state memory
      simp only [packetsFrom, List.zip_cons_cons, Assembly.recvAll,
        EventRun.run_cons, List.forall_mem_cons] at herrOk
      intro other hother
      rcases List.mem_cons.mp hother with rfl | hother
      · by_contra hrejected
        rw [if_neg hrejected] at hrecv
        rw [hrecv] at herrOk
        exact absurd herrOk.1 (by simp)
      · exact ih _ (fun fragment hfragment =>
          hrest fragment (List.mem_cons_of_mem _ hfragment)) (by omega)
          (by omega) herrOk.2 other hother

theorem idle_of_errOk {t : Transmission} {state : Assembly}
    (hlength : memories.length = t.count)
    (herrOk : ∀ result ∈ (state.recvAll (memories.zip t.packets)).1,
      result.1 = .errOk) :
    state = .idle := by
  cases hfragments : t.fragments with
  | nil => exact absurd hfragments t.nonempty
  | cons fragment rest =>
      have hcount : t.count = rest.length + 1 := by simp [count, hfragments]
      obtain ⟨memory, memories, rfl⟩ :=
        List.exists_cons_of_length_eq_add_one (hlength.trans hcount)
      have hmem : fragment ∈ t.fragments := by simp [hfragments]
      have hrecv := t.recv_packet (by omega : 0 < t.count) hmem state memory
      have hfirst : (state.recv (memory, t.packet 0 fragment)).1.1 =
          .errOk := by
        apply herrOk
        simp [packets, hfragments, packetsFrom, Assembly.recvAll]
      cases state with
      | idle => rfl
      | collecting total received lastSub =>
          rw [hrecv, step_first_collecting] at hfirst
          split_ifs at hfirst

/-- Exactly an idle receiver delivers a complete transmission, and only if
none of its packets is longer than the announced message. -/
theorem deliveredLast_iff
    (t : Transmission) (inputs : List (RecvMemory × Bytes))
    (memories : List RecvMemory) (hlength : memories.length = t.count) :
    let receiver :=
      (DataSenderReceiver.processAll .initial inputs).2
    DeliveredLast
        (DataSenderReceiver.processAll receiver (memories.zip t.packets)).1
        t.payload ↔
      receiver.packBuffer = none ∧
        ∀ fragment ∈ t.fragments, t.Accepted fragment := by
  intro receiver
  have hreachable : receiver = (Assembly.idle.recvAll inputs).2.receiver :=
    congrArg Prod.snd (Assembly.processAll_initial inputs)
  rw [hreachable, Assembly.processAll_receiver,
    Assembly.receiver_packBuffer_eq_none]
  constructor
  · intro hdelivered
    exact ⟨idle_of_errOk hlength hdelivered.errOk,
      accepted_of_errOk _ (fun _ h => h) (by simp [count]) hlength
        hdelivered.errOk⟩
  · rintro ⟨hidle, haccepted⟩
    rw [hidle, recvAll_idle haccepted hlength]
    exact deliveredLast_replicate _ _

def threeBlocks (byte : UInt8) : Transmission where
  dataType := DataSenderReceiver.bytesDataType
  fragments := List.replicate 3 (List.replicate 30 byte)
  dataType_lt := DataSenderReceiver.bytesDataType_lt
  nonempty := by simp
  count_le := by simp
  fragment_pos := by simp
  fragment_le := by simp [binaryPayloadMaxLen]
  size_lt := by simp [dschedMaxBufferSize]

def quietMemory : RecvMemory := ⟨⟨0, 0, 0, 0, 0, 0, 0, 0⟩, fun _ => 0⟩

theorem deliveredLast_threeBlocks_fresh :
    DeliveredLast
      (DataSenderReceiver.processAll .initial
        ((List.replicate 3 quietMemory).zip (threeBlocks 1).packets)).1
      (threeBlocks 1).payload :=
  (deliveredLast_iff (threeBlocks 1) [] (List.replicate 3 quietMemory)
    rfl).mpr ⟨rfl, by decide⟩

/-- After two packets of a cut message the receiver rejects the next good
message. -/
theorem not_deliveredLast_threeBlocks_after_cut :
    let receiver := (DataSenderReceiver.processAll .initial
      ((List.replicate 2 quietMemory).zip (threeBlocks 1).packets)).2
    (∀ fragment ∈ (threeBlocks 2).fragments,
        (threeBlocks 2).Accepted fragment) ∧
      ¬DeliveredLast
        (DataSenderReceiver.processAll receiver
          ((List.replicate 3 quietMemory).zip (threeBlocks 2).packets)).1
        (threeBlocks 2).payload := by
  decide +kernel

/-! ## Transmissions which may have been cut -/

def DeliversOnly (payload : Bytes)
    (results : List DataSenderReceiver.RecvResult) : Prop :=
  ∀ result ∈ results, ∀ buffer ∈ result.2, buffer = payload

theorem deliversOnly_cons {payload : Bytes} {code : CollabErr}
    {delivered : Option Bytes} :
    DeliversOnly payload ((code, delivered) :: results) ↔
      (∀ buffer ∈ delivered, buffer = payload) ∧
        DeliversOnly payload results := by
  simp [DeliversOnly]

theorem deliversOnly_of_stuck
    {t : Transmission} {state : Assembly} (memories : List RecvMemory)
    {rest : List Bytes} {index : ℕ}
    (hstuck : ∀ i fragment memory, index ≤ i → i < t.count →
      fragment ∈ t.fragments →
        ∃ error, state.recv (memory, t.packet i fragment) =
          ((error, none), state))
    (hrest : ∀ fragment ∈ rest, fragment ∈ t.fragments)
    (hindex : index + rest.length ≤ t.count) :
    DeliversOnly t.payload
      (state.recvAll (memories.zip (t.packetsFrom index rest))).1 := by
  induction rest generalizing memories index with
  | nil => simp [packetsFrom, DeliversOnly, Assembly.recvAll]
  | cons fragment rest ih =>
      cases memories with
      | nil => simp [DeliversOnly, Assembly.recvAll]
      | cons memory memories =>
          simp only [List.length_cons] at hindex
          obtain ⟨error, hrecv⟩ := hstuck index fragment memory le_rfl
            (by omega) (hrest fragment List.mem_cons_self)
          have hnext := @ih memories (index + 1)
            (fun i other memory hi => hstuck i other memory (by omega))
            (fun other hother => hrest other (List.mem_cons_of_mem _ hother))
            (by omega)
          simp only [packetsFrom, List.zip_cons_cons, Assembly.recvAll,
            EventRun.run_cons, hrecv, deliversOnly_cons]
          exact ⟨by simp, hnext⟩

theorem idle_stuck
    (t : Transmission) {index : ℕ} (hpos : 0 < index) :
    ∀ i fragment memory, index ≤ i → i < t.count → fragment ∈ t.fragments →
      ∃ error, Assembly.idle.recv (memory, t.packet i fragment) =
        ((error, none), .idle) := by
  intro i fragment memory hi hlt hmem
  rw [t.recv_packet hlt hmem]
  split_ifs
  · exact step_late_idle t fragment (by omega) hlt
  · exact ⟨_, rfl⟩

theorem passed_stuck
    (t : Transmission) {index lastSub : ℕ} (total : ℕ) (received : Bytes)
    (hpassed : lastSub + 1 < index) :
    ∀ i fragment memory, index ≤ i → i < t.count → fragment ∈ t.fragments →
      ∃ error, (Assembly.collecting total received lastSub).recv
          (memory, t.packet i fragment) =
        ((error, none), .collecting total received lastSub) := by
  intro i fragment memory hi hlt hmem
  have hsub :
      ¬(Assembly.collecting total received lastSub).ExpectsSub i := by
    simp only [Assembly.ExpectsSub, Assembly.lastSub]
    omega
  rw [t.recv_packet hlt hmem, step_unexpected t fragment hsub]
  split_ifs
  · exact ⟨_, rfl⟩
  · exact ⟨_, rfl⟩

theorem deliversOnly_own
    {t : Transmission} (memories : List RecvMemory) {done rest : List Bytes}
    {lastSub : ℕ} (hfragments : t.fragments = done ++ rest)
    (hdone : done.length = lastSub + 1) :
    DeliversOnly t.payload
      ((Assembly.collecting t.totalLen done.flatten lastSub).recvAll
        (memories.zip (t.packetsFrom (lastSub + 1) rest))).1 := by
  induction rest generalizing memories done lastSub with
  | nil => simp [packetsFrom, DeliversOnly, Assembly.recvAll]
  | cons fragment rest ih =>
      cases memories with
      | nil => simp [DeliversOnly, Assembly.recvAll]
      | cons memory memories =>
          have hcount : t.count = lastSub + 2 + rest.length := by
            simp only [count, hfragments, List.length_append,
              List.length_cons, hdone]
            omega
          have hrest : ∀ other ∈ rest, other ∈ t.fragments := by
            intro other hother
            simp [hfragments, hother]
          have hmem : fragment ∈ t.fragments := by simp [hfragments]
          have hrecv := t.recv_packet (by omega : lastSub + 1 < t.count) hmem
            (.collecting t.totalLen done.flatten lastSub) memory
          simp only [packetsFrom, List.zip_cons_cons, Assembly.recvAll,
            EventRun.run_cons, hrecv]
          by_cases haccepted : t.Accepted fragment
          · rw [if_pos haccepted, step_next t (by omega)
              (fits_of_fragments hfragments (by omega))]
            by_cases hlast : lastSub + 2 = t.count
            · have hempty : rest = [] := by
                apply List.eq_nil_of_length_eq_zero
                omega
              have hpayload : done.flatten ++ fragment = t.payload := by
                simp [payload, hfragments, hempty]
              rw [if_pos hlast, hempty, hpayload]
              simp [packetsFrom, DeliversOnly]
            · have hnext := @ih memories (done ++ [fragment]) (lastSub + 1)
                (by simp [hfragments]) (by simp [hdone])
              simp only [List.flatten_append, List.flatten_cons,
                List.flatten_nil, List.append_nil] at hnext
              rw [if_neg hlast, deliversOnly_cons]
              exact ⟨by simp, hnext⟩
          · rw [if_neg haccepted, deliversOnly_cons]
            exact ⟨by simp, deliversOnly_of_stuck memories
              (t.passed_stuck _ _ (by omega)) hrest (by omega)⟩

theorem deliversOnly_fresh (t : Transmission) (memories : List RecvMemory) :
    DeliversOnly t.payload
      (Assembly.idle.recvAll (memories.zip t.packets)).1 := by
  unfold packets
  cases hfragments : t.fragments with
  | nil => exact absurd hfragments t.nonempty
  | cons fragment rest =>
      cases memories with
      | nil => simp [DeliversOnly, Assembly.recvAll]
      | cons memory memories =>
          have hcount : t.count = rest.length + 1 := by
            simp [count, hfragments]
          have hmem : fragment ∈ t.fragments := by simp [hfragments]
          have hrest : ∀ other ∈ rest, other ∈ t.fragments := by
            intro other hother
            simp [hfragments, hother]
          have hrecv := t.recv_packet (by omega : 0 < t.count) hmem .idle
            memory
          simp only [packetsFrom, List.zip_cons_cons, Assembly.recvAll,
            EventRun.run_cons, hrecv]
          by_cases haccepted : t.Accepted fragment
          · rw [if_pos haccepted]
            by_cases hsingle : rest = []
            · have hpayload : t.payload = fragment := by
                simp [payload, hfragments, hsingle]
              rw [step_single t (by rw [hfragments, hsingle]), hsingle,
                hpayload]
              simp [packetsFrom, DeliversOnly]
            · have hpos : 0 < rest.length := List.length_pos_iff.mpr hsingle
              have hnext := @deliversOnly_own t memories [fragment] rest 0
                (by simp [hfragments]) rfl
              simp only [List.flatten_cons, List.flatten_nil,
                List.append_nil] at hnext
              rw [step_start t (by omega) hmem, deliversOnly_cons]
              exact ⟨by simp, hnext⟩
          · rw [if_neg haccepted, deliversOnly_cons]
            exact ⟨by simp, deliversOnly_of_stuck memories
              (t.idle_stuck (by omega)) hrest (by omega)⟩

end Transmission

/-- The packets of a transmission that were sent before the sender returned,
each with the memory the receiver finds around it. -/
structure Sending where
  transmission : Transmission
  memories : List RecvMemory

namespace Sending

def inputs (sending : Sending) : List (RecvMemory × Bytes) :=
  sending.memories.zip sending.transmission.packets

/-- The receiver still holds a message and would take a fragment of this
transmission for the next one of it: the totals agree, the number fits, the
fragment was sent, is accepted and has room, and no first packet has reset the
receiver before. -/
def Resumes (receiver : DataSenderReceiver) (sending : Sending) : Prop :=
  ∃ buffer ∈ receiver.packBuffer,
    ∃ fragment ∈ sending.transmission.fragments[receiver.nowSubSeq + 1]?,
      buffer.size = sending.transmission.totalLen ∧
        receiver.nowSubSeq + 1 < sending.memories.length ∧
        sending.transmission.Accepted fragment ∧
        receiver.currentPos + fragment.length ≤ buffer.size ∧
        ¬(receiver.nowSubSeq = 0 ∧ ∃ first ∈
          sending.transmission.fragments.head?,
            sending.transmission.Accepted first)

instance (receiver : DataSenderReceiver) (sending : Sending) :
    Decidable (Resumes receiver sending) :=
  inferInstanceAs (Decidable (∃ _ ∈ _, ∃ _ ∈ _, _))

def feed (receiver : DataSenderReceiver) (sending : Sending) :
    List DataSenderReceiver.RecvResult × DataSenderReceiver :=
  receiver.processAll sending.inputs

/-- A receiver waiting for a fragment number that the transmission reaches
with a misfit, or not at all, delivers nothing. -/
theorem deliversOnly_waiting
    {t : Transmission} (memories : List RecvMemory) (done : List Bytes)
    {rest : List Bytes} {total lastSub index : ℕ} {received : Bytes}
    (hfragments : t.fragments = done ++ rest) (hdone : done.length = index)
    (hpos : 0 < index) (hwaiting : index ≤ lastSub + 1)
    (hmisfit : ∀ fragment, t.fragments[lastSub + 1]? = some fragment →
      lastSub + 1 < index + memories.length → t.Accepted fragment →
        ¬(total = t.totalLen ∧
          Assembly.Fits t.totalLen received fragment)) :
    Transmission.DeliversOnly t.payload
      ((Assembly.collecting total received lastSub).recvAll
        (memories.zip (t.packetsFrom index rest))).1 := by
  induction rest generalizing memories done index with
  | nil => simp [Transmission.packetsFrom, Transmission.DeliversOnly,
      Assembly.recvAll]
  | cons fragment rest ih =>
      cases memories with
      | nil => simp [Transmission.DeliversOnly, Assembly.recvAll]
      | cons memory memories =>
          have hcount : t.count = index + 1 + rest.length := by
            simp only [Transmission.count, hfragments, List.length_append,
              List.length_cons, hdone]
            omega
          have hrest : ∀ other ∈ rest, other ∈ t.fragments := by
            intro other hother
            simp [hfragments, hother]
          have hmem : fragment ∈ t.fragments := by simp [hfragments]
          have hrecv := t.recv_packet (by omega : index < t.count) hmem
            (.collecting total received lastSub) memory
          simp only [Transmission.packetsFrom, List.zip_cons_cons,
            Assembly.recvAll, EventRun.run_cons, hrecv]
          by_cases hnow : index = lastSub + 1
          · subst hnow
            by_cases haccepted : t.Accepted fragment
            · have hget : t.fragments[lastSub + 1]? = some fragment := by
                rw [hfragments, ← hdone]
                simp
              obtain ⟨error, hstep⟩ := t.step_misfit
                (by omega : lastSub + 1 < t.count)
                (hmisfit fragment hget (by simp) haccepted)
              rw [if_pos haccepted, hstep, Transmission.deliversOnly_cons]
              exact ⟨by simp, Transmission.deliversOnly_of_stuck memories
                (t.idle_stuck (by omega)) hrest (by omega)⟩
            · rw [if_neg haccepted, Transmission.deliversOnly_cons]
              exact ⟨by simp, Transmission.deliversOnly_of_stuck memories
                (t.passed_stuck _ _ (by omega)) hrest (by omega)⟩
          · have hsub : ¬(Assembly.collecting total received
                lastSub).ExpectsSub index := by
              simp only [Assembly.ExpectsSub, Assembly.lastSub]
              omega
            have hnext := @ih memories (done ++ [fragment]) (index + 1)
              (by simp [hfragments]) (by simp [hdone]) (by omega) (by omega)
              (fun other hget hlt => hmisfit other hget
                (by simp only [List.length_cons]; omega))
            rw [t.step_unexpected fragment hsub]
            split_ifs
            · exact Transmission.deliversOnly_cons.mpr ⟨by simp, hnext⟩
            · exact Transmission.deliversOnly_cons.mpr ⟨by simp, hnext⟩

theorem deliversOnly_collecting
    {sending : Sending} {total lastSub : ℕ} {received : Bytes}
    (hguard : ¬Resumes (Assembly.collecting total received lastSub).receiver
      sending) :
    Transmission.DeliversOnly sending.transmission.payload
      ((Assembly.collecting total received lastSub).recvAll
        sending.inputs).1 := by
  obtain ⟨t, memories⟩ := sending
  unfold inputs Transmission.packets
  cases hfragments : t.fragments with
  | nil => exact absurd hfragments t.nonempty
  | cons first rest =>
      cases memories with
      | nil => simp [Transmission.DeliversOnly, Assembly.recvAll]
      | cons memory memories =>
          have hcount : t.count = rest.length + 1 := by
            simp [Transmission.count, hfragments]
          have hmem : first ∈ t.fragments := by simp [hfragments]
          have hrest : ∀ other ∈ rest, other ∈ t.fragments := by
            intro other hother
            simp [hfragments, hother]
          have hrecv := t.recv_packet (by omega : 0 < t.count) hmem
            (.collecting total received lastSub) memory
          have hwait : ¬(lastSub = 0 ∧ t.Accepted first) →
              Transmission.DeliversOnly t.payload
                ((Assembly.collecting total received lastSub).recvAll
                  (memories.zip (t.packetsFrom 1 rest))).1 := by
            intro hfirst
            refine deliversOnly_waiting memories [first] hfragments rfl
              one_pos (by omega) ?_
            intro fragment hget hsent haccepted hfits
            apply hguard
            obtain ⟨htotal, hlt, hroom⟩ := hfits
            refine ⟨_, rfl, fragment, hget, htotal, ?_, haccepted, ?_, ?_⟩
            · simp only [Assembly.receiver, List.length_cons]
              omega
            · simp only [Assembly.receiver, AVTransDataBuffer.size]
              omega
            · simpa [Assembly.receiver, hfragments] using hfirst
          simp only [Transmission.packetsFrom, List.zip_cons_cons,
            Assembly.recvAll, EventRun.run_cons, hrecv]
          by_cases haccepted : t.Accepted first
          · rw [if_pos haccepted, t.step_first_collecting]
            by_cases hzero : lastSub = 0
            · rw [if_pos hzero, Transmission.deliversOnly_cons]
              exact ⟨by simp, Transmission.deliversOnly_of_stuck memories
                (t.idle_stuck (by omega)) hrest (by omega)⟩
            · rw [if_neg hzero, Transmission.deliversOnly_cons]
              exact ⟨by simp, hwait (fun h => hzero h.1)⟩
          · rw [if_neg haccepted, Transmission.deliversOnly_cons]
            exact ⟨by simp, hwait (fun h => haccepted h.2)⟩

theorem deliversOnly_feed
    {state : Assembly} {sending : Sending}
    (hguard : ¬Resumes state.receiver sending) :
    Transmission.DeliversOnly sending.transmission.payload
      (feed state.receiver sending).1 := by
  unfold feed
  rw [Assembly.processAll_receiver]
  cases state with
  | idle => exact sending.transmission.deliversOnly_fresh sending.memories
  | collecting total received lastSub => exact deliversOnly_collecting hguard

/-- In a run in which no transmission resumes the message of an earlier one,
every delivered buffer is the payload of the transmission being received. -/
theorem deliversOnly_run
    (sendings : List Sending)
    (hguard : EventRun.Meets feed
      (fun receiver sending => ¬Resumes receiver sending)
      .initial sendings) :
    ∀ entry ∈ sendings.zip
        (EventRun.run feed DataSenderReceiver.initial sendings).1,
      Transmission.DeliversOnly entry.1.transmission.payload entry.2 := by
  have hstart : ∃ state : Assembly,
      DataSenderReceiver.initial = state.receiver := ⟨.idle, rfl⟩
  have hstep : ∀ (receiver : DataSenderReceiver) (sending : Sending),
      (∃ state : Assembly, receiver = state.receiver) →
      ¬Resumes receiver sending →
        Transmission.DeliversOnly sending.transmission.payload
            (feed receiver sending).1 ∧
          ∃ state : Assembly, (feed receiver sending).2 = state.receiver := by
    rintro receiver sending ⟨state, rfl⟩ hresumes
    refine ⟨deliversOnly_feed hresumes, (state.recvAll sending.inputs).2, ?_⟩
    exact congrArg Prod.snd (state.processAll_receiver sending.inputs)
  exact EventRun.Meets.outputs hstep hstart hguard

def separatedSendings : List Sending :=
  [⟨Transmission.threeBlocks 1, [Transmission.quietMemory]⟩,
    ⟨Transmission.threeBlocks 2,
      List.replicate 3 Transmission.quietMemory⟩,
    ⟨Transmission.threeBlocks 3,
      List.replicate 3 Transmission.quietMemory⟩]

theorem deliversOnly_separatedSendings :
    ((EventRun.run feed DataSenderReceiver.initial separatedSendings).1.map
        fun results => results.filterMap Prod.snd) =
          [[], [], [(Transmission.threeBlocks 3).payload]] ∧
      ∀ entry ∈ separatedSendings.zip
          (EventRun.run feed DataSenderReceiver.initial separatedSendings).1,
        Transmission.DeliversOnly entry.1.transmission.payload entry.2 :=
  ⟨by decide +kernel, deliversOnly_run separatedSendings (by decide +kernel)⟩

/-- A message cut after two packets and a complete message of the same length:
the receiver delivers the beginning of the one with the end of the other. -/
def splicedSendings : List Sending :=
  [⟨Transmission.threeBlocks 1,
      List.replicate 2 Transmission.quietMemory⟩,
    ⟨Transmission.threeBlocks 2,
      List.replicate 3 Transmission.quietMemory⟩]

theorem splicedSendings_delivers_mixture :
    let delivered :=
      (EventRun.run feed DataSenderReceiver.initial splicedSendings).1.flatMap
        fun results => results.filterMap Prod.snd
    delivered = [List.replicate 60 1 ++ List.replicate 30 2] ∧
      ¬∀ buffer ∈ delivered, ∃ sending ∈ splicedSendings,
        buffer = sending.transmission.payload := by
  decide +kernel

end Sending

end Dmsfwk
