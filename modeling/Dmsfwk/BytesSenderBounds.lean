import Dmsfwk.BytesRoundTrip

/-!
# What the bytes sender reads

The calls of `DoSendPacket` which one `SendUnpackData` makes, with the ranges of
the buffer which they read and the lengths in their headers.  The size of the
ranges is that of the first answer of `GetSessionOption`, the headers follow the
latest one, and the last range is as long as the others.
-/

namespace Dmsfwk

open ByteCodec
open SessionDataHeader
open AVTransDataBuffer

namespace DataSenderReceiver

/-! ## The calls -/

structure PacketCall where
  header : SessionDataHeader
  current : ℕ
  dataLen : ℕ

def PacketCall.send (env : SendEnv) (index : ℕ) (data : Bytes)
    (call : PacketCall) : Except CollabErr Bytes :=
  doSendPacket env index call.header data call.current call.dataLen

def nextHeader (data : Bytes) (payloadLen maxSendSize current : ℕ)
    (header : SessionDataHeader) : SessionDataHeader :=
  { header with
      packetLen := maxSendSize
      payloadLen := subUint32 maxSendSize headerLen
      fragFlag :=
        if payloadLen < data.length - current then FragType.fragMid.code
        else FragType.fragEnd.code
      subSeq := (header.subSeq + 1) % 2 ^ 16 }

def remainingCalls (env : SendEnv) (data : Bytes) (payloadLen : ℕ) :
    ℕ → ℕ → SessionDataHeader → ℕ → List PacketCall
  | 0, _, _, _ => []
  | fuel + 1, index, header, current =>
      if current < data.length then
        match env.sessionOption index with
        | none => []
        | some maxSendSize =>
            let next := nextHeader data payloadLen maxSendSize current header
            let call : PacketCall := ⟨next, current, payloadLen⟩
            match call.send env index data with
            | .error _ => [call]
            | .ok _ => call :: remainingCalls env data payloadLen fuel
                (index + 1) next (current + payloadLen)
      else []

def startEndCall (data : Bytes) (dataType : ℕ) : PacketCall where
  header := {
    version := protocolVersion
    fragFlag := FragType.fragStartEnd.code
    dataType := dataType
    seqNum := 0
    totalLen := data.length + headerLen
    packetLen := data.length + headerLen
    payloadLen := data.length
    subSeq := 0 }
  current := 0
  dataLen := data.length

def startCall (data : Bytes) (dataType maxSendSize payloadLen : ℕ) :
    PacketCall where
  header := {
    version := protocolVersion
    fragFlag := FragType.fragStart.code
    dataType := dataType
    seqNum := 0
    totalLen := data.length
    packetLen := maxSendSize
    payloadLen := payloadLen
    subSeq := 0 }
  current := 0
  dataLen := payloadLen

def unpackCalls (env : SendEnv) (data : Bytes) (dataType : ℕ) :
    List PacketCall :=
  match env.sessionOption 0 with
  | none => []
  | some maxSendSize =>
      if data.length + headerLen ≤ maxSendSize then [startEndCall data dataType]
      else
        let payloadLen := subUint32 maxSendSize headerLen
        let call := startCall data dataType maxSendSize payloadLen
        match call.send env 0 data with
        | .error _ => [call]
        | .ok _ => call :: remainingCalls env data payloadLen data.length 1
            call.header payloadLen

def sentPackets (env : SendEnv) (data : Bytes) : ℕ → List PacketCall → List Bytes
  | _, [] => []
  | index, call :: calls =>
      match call.send env index data with
      | .error _ => []
      | .ok packet => packet :: sentPackets env data (index + 1) calls

/-! ## The calls make the packets -/

variable {env : SendEnv} {data : Bytes} {payloadLen fuel index : ℕ}
  {header : SessionDataHeader} {current maxSendSize : ℕ}

theorem sendRemaining_succ (hcurrent : current < data.length)
    (hoption : env.sessionOption index = some maxSendSize) :
    sendRemaining env data payloadLen (fuel + 1) index header current =
      match doSendPacket env index
          (nextHeader data payloadLen maxSendSize current header) data current
          payloadLen with
      | .error error => (error, [])
      | .ok packet =>
          let sent := sendRemaining env data payloadLen fuel (index + 1)
            (nextHeader data payloadLen maxSendSize current header)
            (current + payloadLen)
          (sent.1, packet :: sent.2) := by
  rw [sendRemaining, if_pos hcurrent, hoption]
  rfl

theorem remainingCalls_succ (hcurrent : current < data.length)
    (hoption : env.sessionOption index = some maxSendSize) :
    remainingCalls env data payloadLen (fuel + 1) index header current =
      match doSendPacket env index
          (nextHeader data payloadLen maxSendSize current header) data current
          payloadLen with
      | .error _ =>
          [⟨nextHeader data payloadLen maxSendSize current header, current,
            payloadLen⟩]
      | .ok _ =>
          ⟨nextHeader data payloadLen maxSendSize current header, current,
            payloadLen⟩ ::
          remainingCalls env data payloadLen fuel (index + 1)
            (nextHeader data payloadLen maxSendSize current header)
            (current + payloadLen) := by
  rw [remainingCalls, if_pos hcurrent, hoption]
  rfl

theorem sentPackets_remainingCalls :
    sentPackets env data index
        (remainingCalls env data payloadLen fuel index header current) =
      (sendRemaining env data payloadLen fuel index header current).2 := by
  induction fuel generalizing index header current with
  | zero => rfl
  | succ fuel ih =>
      by_cases hcurrent : current < data.length
      · cases hoption : env.sessionOption index with
        | none =>
            rw [remainingCalls, sendRemaining, if_pos hcurrent,
              if_pos hcurrent, hoption]
            rfl
        | some maxSendSize =>
            rw [remainingCalls_succ hcurrent hoption,
              sendRemaining_succ hcurrent hoption]
            cases hsend : doSendPacket env index
                (nextHeader data payloadLen maxSendSize current header) data
                current payloadLen with
            | error error =>
                dsimp only
                rw [sentPackets, PacketCall.send, hsend]
            | ok packet =>
                dsimp only
                rw [sentPackets, PacketCall.send, hsend, ih]
      · rw [remainingCalls, sendRemaining, if_neg hcurrent, if_neg hcurrent]
        rfl

theorem sendAllPackets_eq (env : SendEnv) (data : Bytes) (dataType : ℕ) :
    sendAllPackets env data dataType =
      match (startEndCall data dataType).send env 0 data with
      | .error error => (error, [])
      | .ok packet => (.errOk, [packet]) := by
  unfold sendAllPackets PacketCall.send startEndCall
  rfl

theorem sendUnpackData_long (dataType : ℕ)
    (hoption : env.sessionOption 0 = some maxSendSize)
    (hpayload : subUint32 maxSendSize headerLen = payloadLen)
    (hlong : ¬data.length + headerLen ≤ maxSendSize) :
    sendUnpackData env data dataType =
      match (startCall data dataType maxSendSize payloadLen).send env 0 data with
      | .error error => (error, [])
      | .ok packet =>
          let sent := sendRemaining env data payloadLen data.length 1
            (startCall data dataType maxSendSize payloadLen).header payloadLen
          (sent.1, packet :: sent.2) := by
  unfold sendUnpackData
  rw [hoption]
  simp only [if_neg hlong, hpayload]
  rfl

theorem unpackCalls_long (dataType : ℕ)
    (hoption : env.sessionOption 0 = some maxSendSize)
    (hpayload : subUint32 maxSendSize headerLen = payloadLen)
    (hlong : ¬data.length + headerLen ≤ maxSendSize) :
    unpackCalls env data dataType =
      match (startCall data dataType maxSendSize payloadLen).send env 0 data with
      | .error _ => [startCall data dataType maxSendSize payloadLen]
      | .ok _ => startCall data dataType maxSendSize payloadLen ::
          remainingCalls env data payloadLen data.length 1
            (startCall data dataType maxSendSize payloadLen).header
            payloadLen := by
  unfold unpackCalls
  rw [hoption]
  simp only [if_neg hlong, hpayload]

theorem unpackCalls_short (dataType : ℕ)
    (hoption : env.sessionOption 0 = some maxSendSize)
    (hshort : data.length + headerLen ≤ maxSendSize) :
    unpackCalls env data dataType = [startEndCall data dataType] := by
  unfold unpackCalls
  rw [hoption]
  exact if_pos hshort

theorem sentPackets_unpackCalls (env : SendEnv) (data : Bytes)
    (dataType : ℕ) :
    sentPackets env data 0 (unpackCalls env data dataType) =
      (sendUnpackData env data dataType).2 := by
  cases hoption : env.sessionOption 0 with
  | none =>
      unfold unpackCalls sendUnpackData
      rw [hoption]
      rfl
  | some maxSendSize =>
      by_cases hshort : data.length + headerLen ≤ maxSendSize
      · rw [unpackCalls_short dataType hoption hshort,
          BytesFragments.sendUnpackData_small dataType hoption hshort,
          sendAllPackets_eq, sentPackets]
        cases (startEndCall data dataType).send env 0 data <;> rfl
      · obtain ⟨payloadLen, hpayload⟩ :
            ∃ payloadLen, subUint32 maxSendSize headerLen = payloadLen :=
          ⟨_, rfl⟩
        rw [unpackCalls_long dataType hoption hpayload hshort,
          sendUnpackData_long dataType hoption hpayload hshort]
        cases hsend : (startCall data dataType maxSendSize payloadLen).send env 0
            data with
        | error error =>
            dsimp only
            rw [sentPackets, hsend]
        | ok packet =>
            dsimp only
            rw [sentPackets, hsend, sentPackets_remainingCalls]

/-! ## What is to hold -/

def Consecutive : ℕ → List PacketCall → Prop
  | _, [] => True
  | start, call :: calls =>
      call.current = start ∧ Consecutive (start + call.dataLen) calls

/-- Every call reads inside of the buffer and has the lengths of what it reads
in its header; the ranges follow each other, and they are the whole buffer when
the send succeeds. -/
structure StaysInside (env : SendEnv) (data : Bytes) (dataType : ℕ) :
    Prop where
  inside : ∀ call ∈ unpackCalls env data dataType,
    call.current + call.dataLen ≤ data.length
  lengths : ∀ call ∈ unpackCalls env data dataType,
    call.header.payloadLen = call.dataLen ∧
      call.header.packetLen = call.dataLen + headerLen
  consecutive : Consecutive 0 (unpackCalls env data dataType)
  covers : (sendUnpackData env data dataType).1 = .errOk →
    ((unpackCalls env data dataType).map PacketCall.dataLen).sum = data.length

/-- The answers of `GetSessionOption` have room behind the header, in 32 bits. -/
def AdmitsHeader (env : SendEnv) : Prop :=
  ∀ index maxSendSize, env.sessionOption index = some maxSendSize →
    headerLen < maxSendSize ∧ maxSendSize < 2 ^ 32

/-- The first `index` packets of this size are sent. -/
def Reaches (env : SendEnv) (maxSendSize index : ℕ) : Prop :=
  0 < index → maxSendSize < dschedMaxBufferSize ∧
    ∀ earlier < index, env.sendBytes earlier = true ∧
      (env.sessionOption earlier).isSome

/-- The buffer fits into one packet; or all answers are the first one as long as
something is left, and the size of the payloads divides what is sent. -/
def KeepsSize (env : SendEnv) (data : Bytes) : Prop :=
  ∀ first, env.sessionOption 0 = some first →
    data.length + headerLen ≤ first ∨
    ∀ index maxSendSize, 0 < index →
      index * (first - headerLen) < data.length → Reaches env first index →
      env.sessionOption index = some maxSendSize →
      maxSendSize = first ∧ (index + 1) * (first - headerLen) ≤ data.length

/-! ## One packet -/

theorem doSendPacket_ne_errOk (env : SendEnv) (index : ℕ)
    (header : SessionDataHeader) (data : Bytes) (current dataLen : ℕ) :
    doSendPacket env index header data current dataLen ≠ .error .errOk := by
  unfold doSendPacket
  dsimp only
  split
  · simp
  · split
    · simp
    · split_ifs <;> simp

theorem doSendPacket_isOk_iff (hpos : 0 < payloadLen)
    (hlt : headerLen + payloadLen < 2 ^ 32) :
    (∃ packet, doSendPacket env index header data current payloadLen =
        .ok packet) ↔
      headerLen + payloadLen < dschedMaxBufferSize ∧
        env.sendBytes index = true := by
  constructor
  · rintro ⟨packet, hsend⟩
    unfold doSendPacket at hsend
    rw [Nat.mod_eq_of_lt hlt] at hsend
    dsimp only at hsend
    by_cases hsize : headerLen + payloadLen < dschedMaxBufferSize
    · refine ⟨hsize, ?_⟩
      split at hsend
      · cases hsend
      · split at hsend
        · cases hsend
        · by_contra hrefused
          rw [if_neg hrefused] at hsend
          cases hsend
    · have hnull : ofCapacity (headerLen + payloadLen) = ⟨[], 0, 0⟩ :=
        if_neg fun hcapacity => hsize hcapacity.2
      have hnone : memcpyS (ofCapacity (headerLen + payloadLen)).data 0
          (ofCapacity (headerLen + payloadLen)).size header.serialize =
          none := by
        rw [hnull]
        exact if_pos (.inl rfl)
      rw [hnone] at hsend
      cases hsend
  · rintro ⟨hsize, hsends⟩
    exact ⟨_, BytesFragments.doSendPacket_ok header data current hpos hsize
      hsends⟩

theorem subUint32_headerLen (hlow : headerLen < maxSendSize)
    (hhigh : maxSendSize < 2 ^ 32) :
    subUint32 maxSendSize headerLen = maxSendSize - headerLen := by
  simp only [subUint32, headerLen_eq] at *
  omega

/-! ## The ranges -/

theorem consecutive_remainingCalls :
    Consecutive current
      (remainingCalls env data payloadLen fuel index header current) := by
  induction fuel generalizing index header current with
  | zero => trivial
  | succ fuel ih =>
      by_cases hcurrent : current < data.length
      · cases hoption : env.sessionOption index with
        | none =>
            rw [remainingCalls, if_pos hcurrent, hoption]
            trivial
        | some maxSendSize =>
            rw [remainingCalls_succ hcurrent hoption]
            split
            · exact ⟨rfl, trivial⟩
            · exact ⟨rfl, ih⟩
      · rw [remainingCalls, if_neg hcurrent]
        trivial

theorem sum_le_of_inside {calls : List PacketCall} {start : ℕ}
    (hconsecutive : Consecutive start calls) (hstart : start ≤ data.length)
    (hinside : ∀ call ∈ calls, call.current + call.dataLen ≤ data.length) :
    start + (calls.map PacketCall.dataLen).sum ≤ data.length := by
  induction calls generalizing start with
  | nil => simpa using hstart
  | cons call calls ih =>
      obtain ⟨rfl, hrest⟩ := hconsecutive
      obtain ⟨hcall, hcalls⟩ := List.forall_mem_cons.mp hinside
      have hle := ih hrest hcall hcalls
      rw [List.map_cons, List.sum_cons]
      omega

theorem length_le_of_errOk (hpos : 0 < payloadLen)
    (hfuel : data.length ≤ fuel + current)
    (hret : (sendRemaining env data payloadLen fuel index header current).1 =
      .errOk) :
    data.length ≤ current +
      ((remainingCalls env data payloadLen fuel index header current).map
        PacketCall.dataLen).sum := by
  induction fuel generalizing index header current with
  | zero => omega
  | succ fuel ih =>
      by_cases hcurrent : current < data.length
      · cases hoption : env.sessionOption index with
        | none =>
            rw [sendRemaining, if_pos hcurrent, hoption] at hret
            cases hret
        | some maxSendSize =>
            rw [sendRemaining_succ hcurrent hoption] at hret
            rw [remainingCalls_succ hcurrent hoption]
            cases hsend : doSendPacket env index
                (nextHeader data payloadLen maxSendSize current header) data
                current payloadLen with
            | error error =>
                rw [hsend] at hret
                obtain rfl : error = .errOk := hret
                exact absurd hsend (doSendPacket_ne_errOk _ _ _ _ _ _)
            | ok packet =>
                rw [hsend] at hret
                have hle := ih (by omega) hret
                simp only [List.map_cons, List.sum_cons]
                omega
      · omega

def PacketCall.Sound (data : Bytes) (call : PacketCall) : Prop :=
  call.current + call.dataLen ≤ data.length ∧
    call.header.payloadLen = call.dataLen ∧
    call.header.packetLen = call.dataLen + headerLen

theorem sound_remainingCalls_iff {first : ℕ} (fuel index : ℕ)
    (header : SessionDataHeader) (hadmits : AdmitsHeader env)
    (hfirst : headerLen < first) (hsize : first < dschedMaxBufferSize)
    (hfuel : data.length ≤ fuel + index * (first - headerLen)) :
    (∀ call ∈ remainingCalls env data (first - headerLen) fuel index header
        (index * (first - headerLen)), call.Sound data) ↔
      ∀ later maxSendSize, index ≤ later →
        later * (first - headerLen) < data.length →
        (∀ earlier, index ≤ earlier → earlier < later →
          env.sendBytes earlier = true ∧ (env.sessionOption earlier).isSome) →
        env.sessionOption later = some maxSendSize →
        maxSendSize = first ∧
          (later + 1) * (first - headerLen) ≤ data.length := by
  have hpos : 0 < first - headerLen := by omega
  have hfits : headerLen + (first - headerLen) < dschedMaxBufferSize := by omega
  have hword : headerLen + (first - headerLen) < 2 ^ 32 := by
    simp only [dschedMaxBufferSize] at hfits
    omega
  induction fuel generalizing index header with
  | zero =>
      refine iff_of_true (by simp [remainingCalls]) ?_
      intro later _ hlater hmore
      have hle := Nat.mul_le_mul_right (first - headerLen) hlater
      omega
  | succ fuel ih =>
      by_cases hcurrent : index * (first - headerLen) < data.length
      swap
      · rw [remainingCalls, if_neg hcurrent]
        refine iff_of_true (by simp) ?_
        intro later _ hlater hmore
        have hle := Nat.mul_le_mul_right (first - headerLen) hlater
        omega
      cases hoption : env.sessionOption index with
      | none =>
          rw [remainingCalls, if_pos hcurrent, hoption]
          refine iff_of_true (by simp) ?_
          intro later maxSendSize hlater _ hearlier hlast
          rcases hlater.eq_or_lt with rfl | hlt
          · rw [hoption] at hlast
            cases hlast
          · have hsome := (hearlier index le_rfl hlt).2
            rw [hoption] at hsome
            cases hsome
      | some maxSendSize =>
          obtain ⟨hlow, hhigh⟩ := hadmits index maxSendSize hoption
          have hnext : (index + 1) * (first - headerLen) =
              index * (first - headerLen) + (first - headerLen) := by ring
          have hcall (next : SessionDataHeader)
              (hpacketLen : next.packetLen = maxSendSize)
              (hpayloadLen :
                next.payloadLen = subUint32 maxSendSize headerLen) :
              PacketCall.Sound data
                  ⟨next, index * (first - headerLen), first - headerLen⟩ ↔
                maxSendSize = first ∧
                  (index + 1) * (first - headerLen) ≤ data.length := by
            rw [subUint32_headerLen hlow hhigh] at hpayloadLen
            unfold PacketCall.Sound
            dsimp only
            rw [hpacketLen, hpayloadLen, hnext]
            omega
          have hhead := hcall (nextHeader data (first - headerLen) maxSendSize
            (index * (first - headerLen)) header) rfl rfl
          rw [remainingCalls_succ hcurrent hoption]
          cases hsend : doSendPacket env index
              (nextHeader data (first - headerLen) maxSendSize
                (index * (first - headerLen)) header) data
              (index * (first - headerLen)) (first - headerLen) with
          | error error =>
              have hrefused : env.sendBytes index ≠ true := by
                intro hsends
                obtain ⟨packet, hok⟩ :=
                  (doSendPacket_isOk_iff hpos hword).mpr ⟨hfits, hsends⟩
                rw [hok] at hsend
                cases hsend
              rw [List.forall_mem_singleton, hhead]
              constructor
              · intro hsound later maxSendSize' hlater _ hearlier hlast
                rcases hlater.eq_or_lt with rfl | hlt
                · rw [hoption] at hlast
                  exact Option.some.inj hlast ▸ hsound
                · exact absurd (hearlier index le_rfl hlt).1 hrefused
              · intro hlater
                exact hlater index maxSendSize le_rfl hcurrent
                  (fun earlier hle hlt => absurd hlt (by omega)) hoption
          | ok packet =>
              have hsends := ((doSendPacket_isOk_iff hpos hword).mp
                ⟨packet, hsend⟩).2
              have hrest := ih (index + 1) (nextHeader data (first - headerLen)
                maxSendSize (index * (first - headerLen)) header) (by omega)
              rw [List.forall_mem_cons, ← hnext]
              refine (and_congr hhead hrest).trans ?_
              constructor
              · rintro ⟨hsound, hrest⟩ later maxSendSize' hlater hmore hearlier
                  hlast
                rcases hlater.eq_or_lt with rfl | hlt
                · rw [hoption] at hlast
                  exact Option.some.inj hlast ▸ hsound
                · exact hrest later maxSendSize' hlt hmore
                    (fun earlier hle => hearlier earlier (by omega)) hlast
              · intro hlater
                refine ⟨hlater index maxSendSize le_rfl hcurrent
                  (fun earlier hle hlt => absurd hlt (by omega)) hoption, ?_⟩
                intro later maxSendSize' hle hmore hearlier hlast
                refine hlater later maxSendSize' (by omega) hmore ?_ hlast
                intro earlier hindex hlt
                rcases hindex.eq_or_lt with rfl | hindex
                · exact ⟨hsends, by rw [hoption]; rfl⟩
                · exact hearlier earlier hindex hlt

/-! ## The whole send -/

theorem staysInside_of_sound {dataType : ℕ}
    (hsound : ∀ call ∈ unpackCalls env data dataType, call.Sound data)
    (hconsecutive : Consecutive 0 (unpackCalls env data dataType))
    (hcovers : (sendUnpackData env data dataType).1 = .errOk →
      data.length ≤
        ((unpackCalls env data dataType).map PacketCall.dataLen).sum) :
    StaysInside env data dataType where
  inside := fun call hcall => (hsound call hcall).1
  lengths := fun call hcall => (hsound call hcall).2
  consecutive := hconsecutive
  covers := by
    intro hret
    have hle := sum_le_of_inside hconsecutive (Nat.zero_le _)
      fun call hcall => (hsound call hcall).1
    have hge := hcovers hret
    omega

theorem StaysInside.sound {dataType : ℕ} (hstays : StaysInside env data dataType)
    {call : PacketCall} (hcall : call ∈ unpackCalls env data dataType) :
    call.Sound data :=
  ⟨hstays.inside call hcall, hstays.lengths call hcall⟩

theorem staysInside_short {dataType : ℕ}
    (hoption : env.sessionOption 0 = some maxSendSize)
    (hshort : data.length + headerLen ≤ maxSendSize) :
    StaysInside env data dataType := by
  have hcalls := unpackCalls_short dataType hoption hshort
  refine staysInside_of_sound ?_ ?_ ?_
  · rw [hcalls, List.forall_mem_singleton]
    exact ⟨by simp [startEndCall], rfl, rfl⟩
  · rw [hcalls]
    exact ⟨rfl, trivial⟩
  · intro _
    rw [hcalls]
    simp [startEndCall]

/-- The sender stays inside of its buffer exactly when the answers keep the size
of the first packet and the payloads divide the buffer. -/
theorem staysInside_iff {dataType : ℕ} (hadmits : AdmitsHeader env) :
    StaysInside env data dataType ↔ KeepsSize env data := by
  cases hoption : env.sessionOption 0 with
  | none =>
      have hcalls : unpackCalls env data dataType = [] := by
        unfold unpackCalls
        rw [hoption]
      have hret : (sendUnpackData env data dataType).1 =
          .getSessionOptionFailed := by
        unfold sendUnpackData
        rw [hoption]
      refine iff_of_true (staysInside_of_sound ?_ ?_ ?_) ?_
      · rw [hcalls]
        simp
      · rw [hcalls]
        trivial
      · intro herr
        rw [hret] at herr
        cases herr
      · intro first hfirst
        rw [hoption] at hfirst
        cases hfirst
  | some first =>
      obtain ⟨hlow, hhigh⟩ := hadmits 0 first hoption
      by_cases hshort : data.length + headerLen ≤ first
      · refine iff_of_true (staysInside_short hoption hshort) ?_
        intro other hother
        rw [hoption] at hother
        exact .inl (Option.some.inj hother ▸ hshort)
      · have hpayload := subUint32_headerLen hlow hhigh
        have hpos : 0 < first - headerLen := by omega
        have hcalls := unpackCalls_long dataType hoption hpayload hshort
        have hsends := sendUnpackData_long dataType hoption hpayload hshort
        have hstart : PacketCall.Sound data
            (startCall data dataType first (first - headerLen)) := by
          refine ⟨?_, rfl, ?_⟩
          · simp only [startCall]
            omega
          · simp only [startCall]
            omega
        have hword : headerLen + (first - headerLen) < 2 ^ 32 := by omega
        cases hsend : (startCall data dataType first (first - headerLen)).send
            env 0 data with
        | error error =>
            rw [hsend] at hcalls hsends
            dsimp only at hcalls hsends
            refine iff_of_true (staysInside_of_sound ?_ ?_ ?_) ?_
            · rw [hcalls, List.forall_mem_singleton]
              exact hstart
            · rw [hcalls]
              exact ⟨rfl, trivial⟩
            · intro herr
              rw [hsends] at herr
              obtain rfl : error = .errOk := herr
              exact absurd hsend (doSendPacket_ne_errOk _ _ _ _ _ _)
            · intro other hother
              rw [hoption] at hother
              obtain rfl := Option.some.inj hother
              refine .inr fun index _ hindex _ hreaches _ => ?_
              obtain ⟨hsize, hearlier⟩ := hreaches hindex
              obtain ⟨packet, hok⟩ := (doSendPacket_isOk_iff hpos hword).mpr
                ⟨by omega, (hearlier 0 hindex).1⟩
              rw [PacketCall.send] at hsend
              exact absurd (hsend.symm.trans hok) (by simp)
        | ok packet =>
            rw [hsend] at hcalls hsends
            dsimp only at hcalls hsends
            obtain ⟨hfits, hzero⟩ :=
              (doSendPacket_isOk_iff hpos hword).mp ⟨packet, hsend⟩
            have hsize : first < dschedMaxBufferSize := by omega
            have hcover : data.length ≤ data.length + 1 * (first - headerLen) := by
              omega
            have hrest := sound_remainingCalls_iff data.length 1
              (startCall data dataType first (first - headerLen)).header hadmits
              hlow hsize hcover
            rw [one_mul] at hrest
            constructor
            · intro hstays other hother
              rw [hoption] at hother
              obtain rfl := Option.some.inj hother
              refine .inr fun index maxSendSize hindex hmore hreaches hlast => ?_
              refine hrest.mp (fun call hcall => hstays.sound ?_) index
                maxSendSize hindex hmore ?_ hlast
              · rw [hcalls]
                exact List.mem_cons_of_mem _ hcall
              · exact fun earlier _ hlt => (hreaches hindex).2 earlier hlt
            · intro hkeeps
              have hlater := (hkeeps first hoption).resolve_left hshort
              refine staysInside_of_sound ?_ ?_ ?_
              · rw [hcalls, List.forall_mem_cons]
                refine ⟨hstart, hrest.mpr fun later maxSendSize hle hmore
                  hearlier hlast => ?_⟩
                refine hlater later maxSendSize hle hmore (fun _ => ⟨hsize, ?_⟩)
                  hlast
                intro earlier hlt
                rcases Nat.eq_zero_or_pos earlier with rfl | hpositive
                · exact ⟨hzero, by rw [hoption]; rfl⟩
                · exact hearlier earlier hpositive hlt
              · rw [hcalls]
                refine ⟨rfl, ?_⟩
                rw [zero_add]
                exact consecutive_remainingCalls
              · intro herr
                rw [hsends] at herr
                have hle := length_le_of_errOk hpos (by omega) herr
                rw [hcalls, List.map_cons, List.sum_cons]
                exact hle

def answering (options : ℕ → ℕ) : SendEnv :=
  .ofOptions options fun _ => 0

/-- Two packets of 43 bytes each. -/
theorem staysInside_twoPackets :
    StaysInside (answering fun _ => 100) (List.replicate 86 7) 1 := by
  have hadmits : AdmitsHeader (answering fun _ => 100) := by
    intro index maxSendSize hoption
    obtain rfl : 100 = maxSendSize := Option.some.inj hoption
    decide
  refine (staysInside_iff hadmits).mpr ?_
  intro first hfirst
  obtain rfl : 100 = first := Option.some.inj hfirst
  refine .inr fun index maxSendSize hindex hmore _ hoption => ?_
  obtain rfl : 100 = maxSendSize := Option.some.inj hoption
  rw [List.length_replicate, headerLen_eq] at *
  exact ⟨rfl, by omega⟩

/-- One byte more: the third range ends 42 bytes behind the buffer.  With a
second answer of 120 the header announces 63 bytes for a range of 43. -/
theorem not_staysInside_lastPacket :
    ¬StaysInside (answering fun _ => 100) (List.replicate 87 7) 1 ∧
      ¬StaysInside (answering fun index => if index = 0 then 100 else 120)
        (List.replicate 86 7) 1 := by
  constructor
  · intro hstays
    have hinside := hstays.inside
    revert hinside
    decide +kernel
  · intro hstays
    have hlengths := hstays.lengths
    revert hlengths
    decide +kernel

end DataSenderReceiver

end Dmsfwk
