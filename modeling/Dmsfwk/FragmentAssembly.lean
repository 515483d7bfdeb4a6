import Dmsfwk.SoftbusSessionDelivery

/-!
# The messages which a softbus session assembles

The session is run beside the fragments it has copied for the current message.
`CheckUnPackBuffer` bounds a later fragment by the total length of the first
one and compares nothing else, so an end may come before the buffer is full
and a later fragment may carry another total length or another type.
-/

namespace Dmsfwk

open ByteCodec
open TlvCodec
open AVTransDataBuffer

namespace DSchedSoftbusSession

/-! ## The session and its fragments -/

structure Fragment where
  header : SessionDataHeader
  body : Bytes
  deriving DecidableEq

structure Assembling where
  session : DSchedSoftbusSession
  fragments : List Fragment
  deriving DecidableEq

/-- A call of `OnDataReady` in `AssembleFrag`, with the session at that moment
and the fragments of its message. -/
structure Delivery where
  ready : DataReady
  session : DSchedSoftbusSession
  fragments : List Fragment
  deriving DecidableEq

def fragmentHeader (stack : SessionDataHeader) (packet : Bytes) :
    Option SessionDataHeader :=
  if packet.length < binaryHeaderFragLen then none
  else
    match getFragDataHeader stack packet with
    | none => none
    | some header =>
        if packet.length ≠ (header.dataLen + binaryHeaderFragLen) % 2 ^ 32 ∨
            header.totalLen < header.dataLen ∨
            binaryDataMaxLen < header.dataLen ∨
            binaryDataMaxTotalLen < header.totalLen then
          none
        else if header.fragFlag = FragType.fragStartEnd.code then none
        else some header

def fragmentOf (packet : Bytes) (header : SessionDataHeader) : Fragment where
  header := header
  body := packet.drop binaryHeaderFragLen

namespace Assembling

def idle : Assembling := ⟨initial, []⟩

def collect (state : Assembling) (packet : Bytes)
    (header : SessionDataHeader) : Option Delivery × Assembling :=
  match FragType.ofCode? header.fragFlag with
  | some .fragStart =>
      (none, ⟨startFrag packet header, [fragmentOf packet header]⟩)
  | some .fragMid =>
      match state.session.appendFrag packet header with
      | none => (none, ⟨state.session.resetAssembleFrag, []⟩)
      | some (appended, _) =>
          (none, ⟨appended, state.fragments ++ [fragmentOf packet header]⟩)
  | some .fragEnd =>
      match state.session.appendFrag packet header with
      | none => (none, ⟨state.session.resetAssembleFrag, []⟩)
      | some (appended, packBuffer) =>
          (some ⟨(packBuffer.bytes, header.dataType), appended,
              state.fragments ++ [fragmentOf packet header]⟩,
            ⟨appended.resetAssembleFrag, []⟩)
  | _ => (none, state)

def recv (state : Assembling) (input : SessionDataHeader × Bytes) :
    Option Delivery × Assembling :=
  match fragmentHeader input.1 input.2 with
  | none => (none, state)
  | some header => state.collect input.2 header

end Assembling

/-! ## The session is that of the source -/

section Session

variable {state : Assembling} {stack header : SessionDataHeader}
  {packet : Bytes}

theorem collect_assembleFrag :
    ((state.collect packet header).1.map Delivery.ready,
        (state.collect packet header).2.session) =
      state.session.assembleFrag packet header := by
  unfold Assembling.collect assembleFrag
  cases FragType.ofCode? header.fragFlag with
  | none => rfl
  | some flag =>
      cases flag with
      | fragMid => cases state.session.appendFrag packet header <;> rfl
      | fragEnd => cases state.session.appendFrag packet header <;> rfl
      | fragNull | fragStart | fragStartEnd => rfl

theorem packRecvData_of_fragmentHeader
    (hheader : fragmentHeader stack packet = some header) :
    packRecvData stack state.session packet =
      state.session.assembleFrag packet header := by
  unfold fragmentHeader at hheader
  unfold packRecvData
  split_ifs at hheader ⊢ with hshort
  cases hread : getFragDataHeader stack packet with
  | none =>
      rw [hread] at hheader
      cases hheader
  | some read =>
      rw [hread] at hheader
      dsimp only at hheader ⊢
      split_ifs at hheader ⊢ with hlengths hwhole
      rw [Option.some.inj hheader]

theorem packRecvData_of_fragmentHeader_none
    (hheader : fragmentHeader stack packet = none) :
    (packRecvData stack state.session packet).2 = state.session := by
  unfold fragmentHeader at hheader
  unfold packRecvData
  split_ifs at hheader ⊢ with hshort
  · rfl
  · cases hread : getFragDataHeader stack packet with
    | none => rfl
    | some read =>
        rw [hread] at hheader
        dsimp only at hheader ⊢
        split_ifs at hheader ⊢ with hlengths hwhole
        · rfl
        · rfl

theorem recv_ready (hheader : fragmentHeader stack packet = some header) :
    (state.recv (stack, packet)).1.map Delivery.ready =
      (packRecvData stack state.session packet).1 := by
  rw [packRecvData_of_fragmentHeader hheader, ← collect_assembleFrag]
  simp only [Assembling.recv, hheader]

theorem recv_session :
    (state.recv (stack, packet)).2.session =
      (packRecvData stack state.session packet).2 := by
  cases hheader : fragmentHeader stack packet with
  | none =>
      rw [packRecvData_of_fragmentHeader_none hheader]
      simp only [Assembling.recv, hheader]
  | some header =>
      rw [packRecvData_of_fragmentHeader hheader, ← collect_assembleFrag]
      simp only [Assembling.recv, hheader]

theorem run_session (state : Assembling)
    (inputs : List (SessionDataHeader × Bytes)) :
    (EventRun.run Assembling.recv state inputs).2.session =
      (packRecvAll state.session inputs).2 := by
  induction inputs generalizing state with
  | nil => rfl
  | cons input inputs ih =>
      unfold packRecvAll at ih ⊢
      rw [EventRun.run_cons, EventRun.run_cons, ih, recv_session]

end Session

/-! ## Complete messages -/

def written (fragments : List Fragment) : Bytes :=
  fragments.flatMap Fragment.body

/-- The fragments of one message: the first is a `FRAG_START`, and all carry
its total length and its type. -/
structure OneMessage (start : Fragment) (fragments : List Fragment) : Prop where
  head : fragments.head? = some start
  flag : start.header.fragFlag = FragType.fragStart.code
  totalLen : ∀ fragment ∈ fragments,
    fragment.header.totalLen = start.header.totalLen
  dataType : ∀ fragment ∈ fragments,
    fragment.header.dataType = start.header.dataType

structure Delivery.Complete (delivery : Delivery) : Prop where
  full : delivery.session.offset = delivery.session.totalLen
  bytes : delivery.ready.1 = written delivery.fragments
  length : delivery.ready.1.length = delivery.session.totalLen
  message : ∃ start, OneMessage start delivery.fragments ∧
    start.header.totalLen = delivery.session.totalLen ∧
    start.header.dataType = delivery.ready.2

/-- `CheckUnPackBuffer` lets the fragment pass and the buffer has room. -/
def Accepts (session : DSchedSoftbusSession) (header : SessionDataHeader) :
    Prop :=
  session.checkUnPackBuffer header = true ∧ session.offset < session.totalLen

/-- What `CheckUnPackBuffer` does not ask of a later fragment which it lets
pass: the total length and the type of the first one, and of an end that it
fills the buffer. -/
def Assembling.Checked (state : Assembling)
    (input : SessionDataHeader × Bytes) : Prop :=
  ∀ header ∈ fragmentHeader input.1 input.2,
    header.fragFlag = FragType.fragMid.code ∨
      header.fragFlag = FragType.fragEnd.code →
    Accepts state.session header →
      header.totalLen = state.session.totalLen ∧
      (∀ start ∈ state.fragments.head?,
        header.dataType = start.header.dataType) ∧
      (header.fragFlag = FragType.fragEnd.code →
        state.session.offset + header.dataLen = state.session.totalLen)

instance (session : DSchedSoftbusSession) (header : SessionDataHeader) :
    Decidable (Accepts session header) :=
  inferInstanceAs (Decidable (_ ∧ _))

instance (state : Assembling) (input : SessionDataHeader × Bytes) :
    Decidable (state.Checked input) :=
  inferInstanceAs (Decidable (∀ header ∈ fragmentHeader input.1 input.2, _))

/-! ## The buffer of the current message -/

/-- What holds of a waiting session: the buffer starts with the data of the
fragments and is zero behind it. -/
structure Collected (session : DSchedSoftbusSession)
    (fragments : List Fragment) (start : Fragment) : Prop where
  message : OneMessage start fragments
  totalLen : session.totalLen = start.header.totalLen
  bound : session.totalLen ≤ binaryDataMaxTotalLen
  offset : session.offset = (written fragments).length
  inside : session.offset ≤ session.totalLen
  buffer : session.packBuffer = some ⟨written fragments ++
    List.replicate (session.totalLen - (written fragments).length) 0, 0,
      session.totalLen⟩

def Assembling.Sound (state : Assembling) : Prop :=
  state.session.isWaiting = true →
    ∃ start, Collected state.session state.fragments start

theorem written_append (fragments : List Fragment) (fragment : Fragment) :
    written (fragments ++ [fragment]) = written fragments ++ fragment.body := by
  simp [written]

theorem OneMessage.append {start fragment : Fragment}
    {fragments : List Fragment} (hmessage : OneMessage start fragments)
    (htotal : fragment.header.totalLen = start.header.totalLen)
    (htype : fragment.header.dataType = start.header.dataType) :
    OneMessage start (fragments ++ [fragment]) where
  head := by
    rw [List.head?_append, hmessage.head]
    rfl
  flag := hmessage.flag
  totalLen := by
    rw [List.forall_mem_append, List.forall_mem_singleton]
    exact ⟨hmessage.totalLen, htotal⟩
  dataType := by
    rw [List.forall_mem_append, List.forall_mem_singleton]
    exact ⟨hmessage.dataType, htype⟩

section Steps

variable {state : Assembling} {session appended : DSchedSoftbusSession}
  {stack header : SessionDataHeader} {packet : Bytes} {start : Fragment}
  {fragments : List Fragment} {packBuffer : DSchedDataBuffer}

theorem lengths_of_fragmentHeader
    (hheader : fragmentHeader stack packet = some header) :
    (fragmentOf packet header).body.length = header.dataLen ∧
      header.dataLen ≤ header.totalLen ∧
      header.totalLen ≤ binaryDataMaxTotalLen := by
  unfold fragmentHeader at hheader
  split_ifs at hheader with hshort
  split at hheader
  · cases hheader
  · next header' hread =>
      split_ifs at hheader with hlengths hwhole
      obtain rfl := Option.some.inj hheader
      simp only [not_or, not_not, Nat.not_lt] at hlengths
      obtain ⟨hlength, hle, hdata, htotal⟩ := hlengths
      refine ⟨?_, hle, htotal⟩
      simp only [fragmentOf, List.length_drop, hlength]
      simp only [binaryDataMaxLen, binaryHeaderFragLen] at *
      omega

theorem sound_startFrag
    (hheader : fragmentHeader stack packet = some header)
    (hflag : header.fragFlag = FragType.fragStart.code) :
    Assembling.Sound
      ⟨startFrag packet header, [fragmentOf packet header]⟩ := by
  obtain ⟨hbody, hle, htotal⟩ := lengths_of_fragmentHeader hheader
  intro hwaiting
  refine ⟨fragmentOf packet header, ?_⟩
  have hwritten : written [fragmentOf packet header] =
      packet.drop binaryHeaderFragLen := by
    simp [written, fragmentOf]
  unfold startFrag at hwaiting ⊢
  dsimp only at hwaiting ⊢
  by_cases hmade : header.totalLen ≠ 0 ∧ header.totalLen < dschedMaxBufferSize
  · have hcopy := @memcpyS_append_replicate [] (packet.drop binaryHeaderFragLen)
      header.totalLen (Nat.pos_of_ne_zero hmade.1) (hbody.trans_le hle)
    simp only [List.nil_append, List.length_nil, Nat.sub_zero] at hcopy
    simp only [ofCapacity, if_pos hmade, AVTransDataBuffer.size, hcopy]
    constructor
    · constructor
      · rfl
      · exact hflag
      · simp
      · simp
    · rfl
    · exact htotal
    · rw [hwritten]
      exact hbody.symm
    · exact hle
    · rw [hwritten]
  · simp [ofCapacity, if_neg hmade, AVTransDataBuffer.size, memcpyS,
      initial] at hwaiting

theorem appendFrag_accepts (hcollected : Collected session fragments start)
    (happend : session.appendFrag packet header = some (appended, packBuffer)) :
    Accepts session header := by
  unfold appendFrag at happend
  rw [hcollected.buffer] at happend
  split at happend
  · next buffer hcheck hbuffer =>
      obtain rfl := Option.some.inj hbuffer
      refine ⟨hcheck, ?_⟩
      by_contra hfull
      have hnone := @memcpyS_eq_none_iff (written fragments ++
        List.replicate (session.totalLen - (written fragments).length) 0)
        (packet.drop binaryHeaderFragLen) session.offset
        (session.totalLen - session.offset)
      simp only [AVTransDataBuffer.size, hnone.mpr (.inl (by omega))] at happend
      cases happend
  · cases happend

theorem appendFrag_eq (hcollected : Collected session fragments start)
    (hheader : fragmentHeader stack packet = some header)
    (haccepts : Accepts session header) :
    session.offset + header.dataLen ≤ session.totalLen ∧
      session.appendFrag packet header = some (
        { session with
          nowSubSeq := header.subSeq
          offset := session.offset + header.dataLen
          packBuffer := some ⟨written (fragments ++ [fragmentOf packet header]) ++
            List.replicate (session.totalLen -
              (written (fragments ++ [fragmentOf packet header])).length) 0,
            0, session.totalLen⟩ },
        ⟨written (fragments ++ [fragmentOf packet header]) ++
          List.replicate (session.totalLen -
            (written (fragments ++ [fragmentOf packet header])).length) 0,
          0, session.totalLen⟩) := by
  obtain ⟨hbody, hle, htotal⟩ := lengths_of_fragmentHeader hheader
  obtain ⟨hcheck, hroom⟩ := haccepts
  have hinside := hcollected.inside
  have hbound := hcollected.bound
  have hoffset := hcollected.offset
  have hmod : (header.dataLen + session.offset) % 2 ^ 32 =
      header.dataLen + session.offset := by
    refine Nat.mod_eq_of_lt ?_
    simp only [binaryDataMaxTotalLen] at hbound htotal
    omega
  have hfits : session.offset + header.dataLen ≤ session.totalLen := by
    unfold checkUnPackBuffer at hcheck
    rw [hmod] at hcheck
    simp only [Bool.and_eq_true, Bool.not_eq_true', decide_eq_false_iff_not]
      at hcheck
    omega
  refine ⟨hfits, ?_⟩
  have hcopy := @memcpyS_append_replicate (written fragments)
    (fragmentOf packet header).body session.totalLen (by omega) (by omega)
  rw [← hoffset] at hcopy
  unfold appendFrag
  rw [hcheck, hcollected.buffer, written_append, ← hoffset]
  simp only [AVTransDataBuffer.size]
  rw [show packet.drop binaryHeaderFragLen = (fragmentOf packet header).body
    from rfl, hcopy]
  simp only [Nat.add_comm session.offset, hmod]

theorem collected_appendFrag (hcollected : Collected session fragments start)
    (hheader : fragmentHeader stack packet = some header)
    (htotal : header.totalLen = session.totalLen)
    (htype : header.dataType = start.header.dataType)
    (happend : session.appendFrag packet header = some (appended, packBuffer)) :
    Collected appended (fragments ++ [fragmentOf packet header]) start ∧
      appended.packBuffer = some packBuffer := by
  have haccepts := appendFrag_accepts hcollected happend
  obtain ⟨hfits, heq⟩ := appendFrag_eq hcollected hheader haccepts
  obtain ⟨hbody, -, -⟩ := lengths_of_fragmentHeader hheader
  rw [heq] at happend
  obtain ⟨rfl, rfl⟩ := Prod.mk.inj (Option.some.inj happend)
  refine ⟨⟨?_, hcollected.totalLen, hcollected.bound, ?_, hfits, rfl⟩, rfl⟩
  · exact hcollected.message.append (htotal.trans hcollected.totalLen) htype
  · rw [written_append, List.length_append, hbody, ← hcollected.offset]

theorem complete_of_collected
    (hcollected : Collected appended fragments start)
    (hbuffer : appended.packBuffer = some packBuffer)
    (hfull : appended.offset = appended.totalLen)
    (htype : header.dataType = start.header.dataType) :
    Delivery.Complete
      ⟨(packBuffer.bytes, header.dataType), appended, fragments⟩ := by
  have hlength := hcollected.offset
  have hbytes : packBuffer.bytes = written fragments := by
    rw [hcollected.buffer] at hbuffer
    obtain rfl := Option.some.inj hbuffer
    rw [← hlength, hfull, Nat.sub_self, List.replicate_zero, List.append_nil]
    simp only [AVTransDataBuffer.bytes, List.drop_zero]
    exact List.take_of_length_le (by omega)
  constructor
  · exact hfull
  · exact hbytes
  · rw [hbytes]
    exact hlength.symm.trans hfull
  · exact ⟨start, hcollected.message, hcollected.totalLen.symm, htype.symm⟩

theorem isWaiting_of_appendFrag
    (happend : session.appendFrag packet header = some (appended, packBuffer)) :
    session.isWaiting = true := by
  unfold appendFrag at happend
  split at happend
  · next hcheck hbuffer =>
      unfold checkUnPackBuffer at hcheck
      simp only [Bool.and_eq_true] at hcheck
      exact hcheck.1.1.1
  · cases happend

end Steps

/-! ## Every run -/

theorem FragType.code_of_ofCode? {code : ℕ} {flag : FragType}
    (hflag : FragType.ofCode? code = some flag) : code = flag.code := by
  unfold FragType.ofCode? at hflag
  split at hflag <;> cases hflag <;> rfl

theorem sound_reset (session : DSchedSoftbusSession) :
    Assembling.Sound ⟨session.resetAssembleFrag, []⟩ :=
  fun hwaiting => nomatch hwaiting

theorem Assembling.Sound.appendFrag {state : Assembling}
    {input : SessionDataHeader × Bytes} {header : SessionDataHeader}
    {appended : DSchedSoftbusSession} {packBuffer : DSchedDataBuffer}
    (hsound : state.Sound) (hchecked : state.Checked input)
    (hheader : fragmentHeader input.1 input.2 = some header)
    (hflag : header.fragFlag = FragType.fragMid.code ∨
      header.fragFlag = FragType.fragEnd.code)
    (happend : state.session.appendFrag input.2 header =
      some (appended, packBuffer)) :
    ∃ start, Collected appended
        (state.fragments ++ [fragmentOf input.2 header]) start ∧
      appended.packBuffer = some packBuffer ∧
      header.dataType = start.header.dataType ∧
      (header.fragFlag = FragType.fragEnd.code →
        appended.offset = appended.totalLen) := by
  obtain ⟨start, hcollected⟩ := hsound (isWaiting_of_appendFrag happend)
  have haccepts := appendFrag_accepts hcollected happend
  obtain ⟨htotal, htype, hfull⟩ := hchecked header hheader hflag haccepts
  have hsame := htype start hcollected.message.head
  obtain ⟨hnext, hbuffer⟩ := collected_appendFrag hcollected hheader htotal hsame
    happend
  refine ⟨start, hnext, hbuffer, hsame, ?_⟩
  intro hend
  obtain ⟨-, heq⟩ := appendFrag_eq hcollected hheader haccepts
  rw [heq] at happend
  obtain ⟨rfl, -⟩ := Prod.mk.inj (Option.some.inj happend)
  exact hfull hend

theorem recv_step (state : Assembling) (input : SessionDataHeader × Bytes)
    (hsound : state.Sound) (hchecked : state.Checked input) :
    (∀ delivery ∈ (state.recv input).1, delivery.Complete) ∧
      (state.recv input).2.Sound := by
  unfold Assembling.recv
  cases hheader : fragmentHeader input.1 input.2 with
  | none => exact ⟨nofun, hsound⟩
  | some header =>
      dsimp only [Assembling.collect]
      cases hflag : FragType.ofCode? header.fragFlag with
      | none => exact ⟨nofun, hsound⟩
      | some flag =>
          have hcode := FragType.code_of_ofCode? hflag
          cases flag with
          | fragNull => exact ⟨nofun, hsound⟩
          | fragStartEnd => exact ⟨nofun, hsound⟩
          | fragStart => exact ⟨nofun, sound_startFrag hheader hcode⟩
          | fragMid =>
              cases happend : state.session.appendFrag input.2 header with
              | none => exact ⟨nofun, sound_reset _⟩
              | some next =>
                  obtain ⟨start, hnext, -⟩ := hsound.appendFrag hchecked hheader
                    (.inl hcode) happend
                  exact ⟨nofun, fun _ => ⟨start, hnext⟩⟩
          | fragEnd =>
              cases happend : state.session.appendFrag input.2 header with
              | none => exact ⟨nofun, sound_reset _⟩
              | some next =>
                  obtain ⟨start, hnext, hbuffer, htype, hfull⟩ :=
                    hsound.appendFrag hchecked hheader (.inr hcode) happend
                  refine ⟨?_, sound_reset _⟩
                  rintro delivery ⟨⟩
                  exact complete_of_collected hnext hbuffer (hfull hcode) htype

/-- Every message which is assembled from its fragments is complete. -/
def DeliversComplete (inputs : List (SessionDataHeader × Bytes)) : Prop :=
  ∀ delivery, some delivery ∈
    (EventRun.run Assembling.recv Assembling.idle inputs).1 → delivery.Complete

theorem deliversComplete_of_checked
    {inputs : List (SessionDataHeader × Bytes)}
    (hchecked : EventRun.Meets Assembling.recv Assembling.Checked
      Assembling.idle inputs) :
    DeliversComplete inputs := by
  have hidle : Assembling.idle.Sound := sound_reset initial
  have houtputs : ∀ output ∈
      (EventRun.run Assembling.recv Assembling.idle inputs).1,
        ∀ delivery ∈ output, delivery.Complete :=
    EventRun.Meets.forall_output recv_step hidle hchecked
  intro delivery hdelivery
  exact houtputs _ hdelivery delivery rfl

def packetOf (header : SessionDataHeader) (body : Bytes) : Bytes :=
  makeFragDataHeader header ++ body

def sampleHeader (flag : FragType) (dataType totalLen subSeq dataLen : ℕ) :
    SessionDataHeader :=
  ⟨protocolVersion, flag.code, dataType, 0, totalLen, subSeq, dataLen⟩

def sampleInput (header : SessionDataHeader) (body : Bytes) :
    SessionDataHeader × Bytes :=
  (⟨0, 0, 0, 0, 0, 0, 0⟩, packetOf header body)

def wholeMessage : List (SessionDataHeader × Bytes) :=
  [sampleInput (sampleHeader .fragStart 1 3 0 1) [10],
    sampleInput (sampleHeader .fragEnd 1 3 1 2) [11, 12]]

def shortMessage : List (SessionDataHeader × Bytes) :=
  [sampleInput (sampleHeader .fragStart 1 10 0 1) [10],
    sampleInput (sampleHeader .fragEnd 1 10 1 1) [11]]

def mixedMessage : List (SessionDataHeader × Bytes) :=
  [sampleInput (sampleHeader .fragStart 1 2 0 1) [10],
    sampleInput (sampleHeader .fragEnd 7 5 1 1) [11]]


theorem deliversComplete_wholeMessage : DeliversComplete wholeMessage := by
  apply deliversComplete_of_checked
  decide +kernel

/-- Two of ten bytes, and two fragments of different types. -/
theorem not_deliversComplete_shortMessage :
    ¬DeliversComplete shortMessage ∧ ¬DeliversComplete mixedMessage := by
  constructor
  · intro hcomplete
    have hshort : ((EventRun.run Assembling.recv Assembling.idle
        shortMessage).1.any fun output => output.any fun delivery =>
          delivery.session.offset != delivery.session.totalLen) = true := by
      decide +kernel
    obtain ⟨output, hmem, houtput⟩ := List.any_eq_true.mp hshort
    obtain ⟨delivery, rfl, hne⟩ := (Option.any_eq_true _ _).mp houtput
    exact bne_iff_ne.mp hne (hcomplete delivery hmem).full
  · intro hcomplete
    have hmixed : ((EventRun.run Assembling.recv Assembling.idle
        mixedMessage).1.any fun output => output.any fun delivery =>
          delivery.fragments.head?.map (·.header.dataType) !=
            some delivery.ready.2) = true := by
      decide +kernel
    obtain ⟨output, hmem, houtput⟩ := List.any_eq_true.mp hmixed
    obtain ⟨delivery, rfl, hne⟩ := (Option.any_eq_true _ _).mp houtput
    obtain ⟨start, hmessage, -, htype⟩ := (hcomplete delivery hmem).message
    rw [hmessage.head] at hne
    exact bne_iff_ne.mp hne (congrArg some htype)

end DSchedSoftbusSession

end Dmsfwk
