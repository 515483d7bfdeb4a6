import Dmsfwk.AbilityConnectionInfo
import Dmsfwk.ChannelRegistry
import Dmsfwk.EventRun

/-!
# Routing incoming sockets to sessions

A sink session that accepts a connection creates its server channels under the
name which it derives from module and ability names; its peer derives the same
name for its sockets.  A process may have any number of sink sessions, which
come and go while sockets arrive.  Sockets find the channels of their own
session exactly when the hashed texts of the live sessions differ.
-/

namespace Dmsfwk

/-! ## Creating the channels of a session -/

namespace ChannelManager

def createChannel (manager : ChannelManager) (name : Text)
    (peerInfo : ChannelPeerInfo) (isClientChannel : Bool)
    (socket : TransChannelType → ℤ) (transType : TransChannelType) :
    ℤ × ChannelManager :=
  if transType.isClient isClientChannel then
    manager.createClientChannel (transType.channelName name)
      transType.dataType peerInfo (socket transType)
  else
    manager.createServerChannel (transType.channelName name)
      transType.dataType peerInfo

def initChannels (manager : ChannelManager) (name : Text)
    (peerInfo : ChannelPeerInfo) (isClientChannel : Bool)
    (socket : TransChannelType → ℤ) :
    List TransChannelType →
      CollabErr × List (TransChannelType × ℤ) × ChannelManager
  | [] => (.errOk, [], manager)
  | transType :: rest =>
      match manager.createChannel name peerInfo isClientChannel socket
          transType with
      | (channelId, next) =>
          if isValidChannelId channelId then
            match next.initChannels name peerInfo isClientChannel socket
                rest with
            | (err, channels, last) =>
                (err, (transType, channelId) :: channels, last)
          else (transType.failure, [], next)

end ChannelManager

/-! ## Sink sessions of one process -/

structure SinkSession where
  info : AbilityConnectionSessionInfo
  option : ConnectOption
  channels : List (TransChannelType × ℤ)
  deriving DecidableEq, Repr

structure SinkProcess where
  manager : ChannelManager
  sessions : List SinkSession

inductive SinkEvent where
  | acceptConnect (info : AbilityConnectionSessionInfo)
      (option : ConnectOption) (notifyPrepareResult : ℤ)
  | release (index : ℕ)
  | updateChannel (socketId channelId setFileSchema : ℤ)
  deriving DecidableEq, Repr

namespace SinkProcess

variable (sha256 : Text → List UInt8)

def initial (ownerName : Text) : SinkProcess :=
  ⟨ChannelManager.initial ownerName, []⟩

def acceptConnect (process : SinkProcess)
    (info : AbilityConnectionSessionInfo) (option : ConnectOption)
    (notifyPrepareResult : ℤ) : SinkProcess :=
  match process.manager.initChannels
      (getChannelName sha256 .collabrateSink info)
      ⟨[], info.peerInfo.deviceId⟩ false (fun _ => 0)
      (initChannelTypes option false) with
  | (err, channels, next) =>
      if err = .errOk ∧ notifyPrepareResult = 0 then
        ⟨next, process.sessions ++ [⟨info, option, channels⟩]⟩
      else
        { process with manager := next.deleteChannels (channels.map (·.2)) }

def release (process : SinkProcess) (index : ℕ) : SinkProcess :=
  match process.sessions[index]? with
  | none => process
  | some session =>
      ⟨process.manager.deleteChannels (session.channels.map (·.2)),
        process.sessions.eraseIdx index⟩

def step (process : SinkProcess) : SinkEvent → Unit × SinkProcess
  | .acceptConnect info option notifyPrepareResult =>
      ((), process.acceptConnect sha256 info option notifyPrepareResult)
  | .release index => ((), process.release index)
  | .updateChannel socketId channelId setFileSchema =>
      ((), { process with
        manager := (process.manager.updateChannel socketId channelId
          setFileSchema).2 })

def reached (ownerName : Text) (events : List SinkEvent) : SinkProcess :=
  (EventRun.run (step sha256) (initial ownerName) events).2

end SinkProcess

/-! ## The live channels of a process -/

def liveChannels (name : Text) (channels : List (TransChannelType × ℤ)) :
    List LiveChannel :=
  channels.map fun channel =>
    ⟨channel.1.channelName name, channel.1.dataType, channel.2⟩

@[simp] theorem map_channelId_liveChannels (name : Text)
    (channels : List (TransChannelType × ℤ)) :
    (liveChannels name channels).map (·.channelId) =
      channels.map (·.2) := by
  simp [liveChannels]

theorem ChannelManager.Represents.initChannels {manager : ChannelManager}
    {live : List LiveChannel} (hrepresents : manager.Represents live)
    (name : Text) (peerInfo : ChannelPeerInfo)
    (socket : TransChannelType → ℤ) {transTypes : List TransChannelType}
    (hserver : .sendFile ∉ transTypes) :
    (manager.initChannels name peerInfo false socket
        transTypes).2.2.Represents
      (live ++ liveChannels name
        (manager.initChannels name peerInfo false socket
          transTypes).2.1) ∧
      ((manager.initChannels name peerInfo false socket transTypes).1 =
          .errOk →
        (manager.initChannels name peerInfo false socket
          transTypes).2.1.map (·.1) = transTypes) := by
  induction transTypes generalizing manager live with
  | nil =>
      refine ⟨?_, fun _ => rfl⟩
      simpa [ChannelManager.initChannels, liveChannels] using hrepresents
  | cons transType rest ih =>
      have hkind : transType.isClient false = false := by
        cases transType <;> simp_all [TransChannelType.isClient]
      have hrest : .sendFile ∉ rest := fun hmem =>
        hserver (List.mem_cons_of_mem transType hmem)
      by_cases hroom : manager.HasRoom transType.dataType
      · obtain ⟨hid, hcreated⟩ := hrepresents.createServerChannel
          (transType.channelName name) peerInfo hroom
        have hvalid := hcreated.isValidChannelId
          (List.mem_append_right live List.mem_cons_self)
        obtain ⟨hlast, htypes⟩ := ih hcreated hrest
        rw [List.append_assoc] at hlast
        simp only [ChannelManager.initChannels,
          ChannelManager.createChannel, hkind, Bool.false_eq_true, if_false,
          hid, hvalid, if_true]
        refine ⟨hlast, fun herr => ?_⟩
        rw [List.map_cons, htypes herr]
      · have hinvalid : ChannelManager.isValidChannelId
            CollabErr.createServerChannelFailed.code = false := by
          decide
        simp only [ChannelManager.initChannels,
          ChannelManager.createChannel, hkind, Bool.false_eq_true, if_false,
          ChannelManager.createServerChannel_full hroom, hinvalid]
        refine ⟨by simpa [liveChannels] using hrepresents, fun herr => ?_⟩
        cases transType <;> simp [TransChannelType.failure] at herr

namespace SinkSession

variable (sha256 : Text → List UInt8)

def name (session : SinkSession) : Text :=
  getChannelName sha256 .collabrateSink session.info

def hashedText (session : SinkSession) : Text :=
  channelNameInput .collabrateSink session.info

def live (session : SinkSession) : List LiveChannel :=
  liveChannels (session.name sha256) session.channels

end SinkSession

namespace SinkProcess

variable {sha256 : Text → List UInt8} {process : SinkProcess}

/-- The registry holds the channels of the live sessions, and each session has
the channels that its options ask for. -/
structure Consistent (sha256 : Text → List UInt8) (process : SinkProcess) :
    Prop where
  represents : process.manager.Represents
    (process.sessions.flatMap (·.live sha256))
  complete : ∀ session ∈ process.sessions,
    session.channels.map (·.1) = initChannelTypes session.option false

theorem sendFile_not_mem_initChannelTypes (option : ConnectOption) :
    .sendFile ∉ initChannelTypes option false := by
  unfold initChannelTypes
  split_ifs <;> simp_all

theorem Consistent.initial (ownerName : Text) :
    (initial ownerName).Consistent sha256 where
  represents := ChannelManager.represents_initial ownerName
  complete := by simp [SinkProcess.initial]

theorem filter_channelIds {before removed after : List LiveChannel}
    (hnodup : ((before ++ removed ++ after).map (·.channelId)).Nodup) :
    (before ++ removed ++ after).filter
        (·.channelId ∉ removed.map (·.channelId)) = before ++ after := by
  rw [List.map_append, List.map_append, List.nodup_append,
    List.nodup_append] at hnodup
  obtain ⟨⟨-, -, hbefore⟩, -, hafter⟩ := hnodup
  have hkeep : ∀ channel : LiveChannel,
      channel.channelId ∉ removed.map (·.channelId) →
        decide (channel.channelId ∉ removed.map (·.channelId)) = true :=
    fun _ hnotMem => decide_eq_true hnotMem
  rw [List.filter_append, List.filter_append, List.filter_eq_self.mpr,
    List.filter_eq_nil_iff.mpr, List.filter_eq_self.mpr, List.append_nil]
  · intro channel hchannel
    refine hkeep channel fun hmem => ?_
    exact hafter _ (List.mem_append_right _ hmem) _
      (List.mem_map_of_mem hchannel) rfl
  · intro channel hchannel
    simpa using ⟨channel, hchannel, rfl⟩
  · intro channel hchannel
    refine hkeep channel fun hmem => ?_
    exact hbefore _ (List.mem_map_of_mem hchannel) _ hmem rfl

theorem represents_deleteChannels {manager : ChannelManager}
    {before removed after : List LiveChannel}
    (hrepresents : manager.Represents (before ++ removed ++ after)) :
    (manager.deleteChannels (removed.map (·.channelId))).Represents
      (before ++ after) := by
  have hnodup := hrepresents.nodup
  have hremoved : (removed.map (·.channelId)).Nodup := by
    rw [List.map_append, List.map_append] at hnodup
    exact hnodup.of_append_left.of_append_right
  rw [← filter_channelIds hnodup]
  refine hrepresents.deleteChannels hremoved ?_
  intro channelId hmem
  obtain ⟨channel, hchannel, rfl⟩ := List.mem_map.mp hmem
  exact ⟨channel, by simp [hchannel], rfl⟩

theorem Consistent.acceptConnect (hconsistent : process.Consistent sha256)
    (info : AbilityConnectionSessionInfo) (option : ConnectOption)
    (notifyPrepareResult : ℤ) :
    (process.acceptConnect sha256 info option
      notifyPrepareResult).Consistent sha256 := by
  obtain ⟨hrepresents, htypes⟩ := hconsistent.represents.initChannels
    (getChannelName sha256 .collabrateSink info)
    ⟨[], info.peerInfo.deviceId⟩ (fun _ => 0)
    (sendFile_not_mem_initChannelTypes option)
  unfold SinkProcess.acceptConnect
  generalize process.manager.initChannels
    (getChannelName sha256 .collabrateSink info)
    ⟨[], info.peerInfo.deviceId⟩ false (fun _ => 0)
    (initChannelTypes option false) = result at hrepresents htypes
  obtain ⟨err, channels, next⟩ := result
  simp only at hrepresents htypes ⊢
  split_ifs with haccepted
  · refine ⟨?_, ?_⟩
    · rw [List.flatMap_append, List.flatMap_singleton]
      exact hrepresents
    · intro session hsession
      rcases List.mem_append.mp hsession with hold | hadded
      · exact hconsistent.complete session hold
      · obtain rfl := List.mem_singleton.mp hadded
        exact htypes haccepted.1
  · refine ⟨?_, hconsistent.complete⟩
    rw [← List.append_nil (_ ++ liveChannels _ channels)] at hrepresents
    have hdeleted := represents_deleteChannels hrepresents
    rw [map_channelId_liveChannels, List.append_nil] at hdeleted
    exact hdeleted

theorem Consistent.release (hconsistent : process.Consistent sha256)
    (index : ℕ) : (process.release index).Consistent sha256 := by
  unfold SinkProcess.release
  cases hsession : process.sessions[index]? with
  | none => exact hconsistent
  | some session =>
      have hsplit : process.sessions =
          process.sessions.take index ++
            session :: process.sessions.drop (index + 1) := by
        obtain ⟨hindex, rfl⟩ := List.getElem?_eq_some_iff.mp hsession
        rw [List.getElem_cons_drop, List.take_append_drop]
      have hrest : process.sessions.eraseIdx index =
          process.sessions.take index ++
            process.sessions.drop (index + 1) :=
        List.eraseIdx_eq_take_drop_succ _ _
      refine ⟨?_, ?_⟩
      · have hrepresents := hconsistent.represents
        rw [hsplit, List.flatMap_append, List.flatMap_cons,
          ← List.append_assoc] at hrepresents
        have hdeleted := represents_deleteChannels hrepresents
        rw [SinkSession.live, map_channelId_liveChannels] at hdeleted
        simp only [hrest, List.flatMap_append]
        exact hdeleted
      · intro other hother
        exact hconsistent.complete other (List.mem_of_mem_eraseIdx hother)

theorem consistent_reached (ownerName : Text) (events : List SinkEvent) :
    (reached sha256 ownerName events).Consistent sha256 := by
  refine EventRun.run_invariant ?_ events (Consistent.initial ownerName)
  intro start event hstart
  cases event with
  | acceptConnect info option notifyPrepareResult =>
      exact hstart.acceptConnect info option notifyPrepareResult
  | release index => exact hstart.release index
  | updateChannel socketId channelId setFileSchema =>
      exact ⟨hstart.represents.updateChannel socketId channelId
        setFileSchema, hstart.complete⟩

end SinkProcess

/-! ## Whose channel a socket finds -/

def clientTypes : List TransChannelType :=
  [.message, .data, .streamBytes, .stream, .sendFile]

namespace SinkSession

def ownChannel (session : SinkSession) (clientType : TransChannelType) :
    Option ℤ :=
  session.channels.lookup clientType.peerType

def peerSocketName (sha256 : Text → List UInt8) (session : SinkSession)
    (peerOwnerName : Text) (clientType : TransChannelType) : Text :=
  ChannelManager.clientSocketName peerOwnerName clientType.dataType
    (clientType.channelName
      (getChannelName sha256 .collabrateSource session.info.mirrored))

end SinkSession

namespace SinkProcess

/-- Every incoming socket of the session's peer is registered with the
session's own channel, or rejected when the session has no such channel. -/
def RoutesToOwn (sha256 : Text → List UInt8) (process : SinkProcess)
    (session : SinkSession) : Prop :=
  ∀ (socketId setFileSchema : ℤ) (userId pid bundle : Text),
    ∀ clientType ∈ clientTypes, 0 < socketId →
      let verdict := process.manager.onSocketConnected socketId
        (session.peerSocketName sha256
          (getServerSocketName sha256 userId pid bundle) clientType)
      match session.ownChannel clientType with
      | some channelId =>
          verdict = .updateChannel channelId ∧
            (process.manager.updateChannel socketId channelId
              setFileSchema).2.socketChannelMap[socketId]? = some channelId
      | none => verdict = .rejected

variable {sha256 : Text → List UInt8} {process : SinkProcess}

theorem eq_peerType {serverType clientType : TransChannelType}
    (hserver : serverType ≠ .sendFile) (hclient : clientType ∈ clientTypes)
    (hdataType : serverType.dataType = clientType.dataType)
    (hstream : (serverType = .streamBytes ∨ serverType = .stream) ↔
      (clientType = .streamBytes ∨ clientType = .stream)) :
    serverType = clientType.peerType := by
  revert hserver hclient hdataType hstream
  cases serverType <;> cases clientType <;> decide

theorem channelName_eq {first second : Text}
    (hlength : first.length = second.length)
    {firstType secondType : TransChannelType}
    (hname : firstType.channelName first = secondType.channelName second) :
    first = second ∧
      ((firstType = .streamBytes ∨ firstType = .stream) ↔
        (secondType = .streamBytes ∨ secondType = .stream)) := by
  have hlengths := congrArg List.length hname
  cases firstType <;> cases secondType <;>
    simp [TransChannelType.channelName, streamChannelName, hlength]
      at hname hlengths ⊢ <;>
    exact hname

theorem nodup_initChannelTypes (option : ConnectOption) :
    (initChannelTypes option false).Nodup := by
  unfold initChannelTypes
  split_ifs <;> simp_all

theorem lookup_of_mem {channels : List (TransChannelType × ℤ)}
    (hnodup : (channels.map (·.1)).Nodup) {transType : TransChannelType}
    {channelId : ℤ} (hmem : (transType, channelId) ∈ channels) :
    channels.lookup transType = some channelId := by
  obtain ⟨before, after, rfl⟩ := List.append_of_mem hmem
  rw [List.lookup_eq_some_iff]
  refine ⟨before, after, rfl, ?_⟩
  intro other hother
  rw [List.map_append, List.nodup_append] at hnodup
  have hdiffers := hnodup.2.2 other.1 (List.mem_map_of_mem hother) transType
    (by simp)
  simpa using Ne.symm hdiffers

theorem mem_of_lookup {channels : List (TransChannelType × ℤ)}
    {transType : TransChannelType} {channelId : ℤ}
    (hlookup : channels.lookup transType = some channelId) :
    (transType, channelId) ∈ channels := by
  obtain ⟨before, after, rfl, -⟩ := List.lookup_eq_some_iff.mp hlookup
  simp

theorem own_mem_live (sha256 : Text → List UInt8) {session : SinkSession}
    {clientType : TransChannelType} (hclient : clientType ∈ clientTypes)
    {channelId : ℤ} (hown : session.ownChannel clientType = some channelId) :
    (⟨clientType.channelName (session.name sha256), clientType.dataType,
      channelId⟩ : LiveChannel) ∈ session.live sha256 := by
  refine List.mem_map.mpr ⟨_, mem_of_lookup hown, ?_⟩
  revert hclient
  cases clientType <;> simp [clientTypes, TransChannelType.peerType,
    TransChannelType.channelName, TransChannelType.dataType]

section Routing

variable (hconsistent : process.Consistent sha256)

include hconsistent

theorem Consistent.exists_message {session : SinkSession}
    (hsession : session ∈ process.sessions) :
    ∃ channelId, session.ownChannel .message = some channelId := by
  have htypes := hconsistent.complete session hsession
  have hmessage : .message ∈ session.channels.map (·.1) := by
    rw [htypes]
    simp [initChannelTypes]
  obtain ⟨⟨transType, channelId⟩, hchannel, rfl⟩ :=
    List.mem_map.mp hmessage
  refine ⟨channelId, lookup_of_mem ?_ hchannel⟩
  rw [htypes]
  exact nodup_initChannelTypes session.option

variable (hdigest : ∀ text, (sha256 text).length = sha256DigestLength)

include hdigest

theorem Consistent.find?_live
    (hinjective : ∀ first ∈ process.sessions, ∀ second ∈ process.sessions,
      first.name sha256 = second.name sha256 →
        first.hashedText = second.hashedText)
    (hdistinct : (process.sessions.map (·.hashedText)).Nodup)
    {session : SinkSession} (hsession : session ∈ process.sessions)
    {clientType : TransChannelType} (hclient : clientType ∈ clientTypes) :
    (process.sessions.flatMap (·.live sha256)).find?
        (LiveChannel.matching
          (clientType.channelName (session.name sha256))
          clientType.dataType) =
      (session.ownChannel clientType).map fun channelId =>
        ⟨clientType.channelName (session.name sha256), clientType.dataType,
          channelId⟩ := by
  cases hfind : (process.sessions.flatMap (·.live sha256)).find?
      (LiveChannel.matching (clientType.channelName (session.name sha256))
        clientType.dataType) with
  | none =>
      cases hown : session.ownChannel clientType with
      | none => rfl
      | some channelId =>
          have hmem := List.mem_flatMap.mpr
            ⟨session, hsession, own_mem_live sha256 hclient hown⟩
          have hfails := List.find?_eq_none.mp hfind _ hmem
          simp [LiveChannel.matching] at hfails
  | some found =>
      have hmatches := List.find?_some hfind
      have hlive := List.mem_of_find?_eq_some hfind
      rw [LiveChannel.matching, decide_eq_true_eq] at hmatches
      obtain ⟨other, hother, hfound⟩ := List.mem_flatMap.mp hlive
      obtain ⟨⟨serverType, channelId⟩, hchannel, rfl⟩ :=
        List.mem_map.mp hfound
      obtain ⟨hname, hdataType⟩ := hmatches
      have hlength : (other.name sha256).length =
          (session.name sha256).length := by
        rw [SinkSession.name, SinkSession.name,
          length_getChannelName hdigest, length_getChannelName hdigest]
      obtain ⟨hsame, hstream⟩ := channelName_eq hlength hname
      obtain rfl : other = session :=
        List.inj_on_of_nodup_map hdistinct hother hsession
          (hinjective other hother session hsession hsame)
      have htypes := hconsistent.complete other hother
      have hserver : serverType ≠ .sendFile := by
        rintro rfl
        apply sendFile_not_mem_initChannelTypes other.option
        rw [← htypes]
        exact List.mem_map_of_mem hchannel
      obtain rfl := eq_peerType hserver hclient hdataType hstream
      have hlookup : other.ownChannel clientType = some channelId := by
        refine lookup_of_mem ?_ hchannel
        rw [htypes]
        exact nodup_initChannelTypes other.option
      rw [hlookup, Option.map_some, ← hname, ← hdataType]

theorem Consistent.onSocketConnected {socketId : ℤ} (hsocket : 0 < socketId)
    (session : SinkSession) (userId pid bundle : Text)
    (clientType : TransChannelType) :
    process.manager.onSocketConnected socketId
        (session.peerSocketName sha256
          (getServerSocketName sha256 userId pid bundle) clientType) =
      match (process.sessions.flatMap (·.live sha256)).find?
          (LiveChannel.matching
            (clientType.channelName (session.name sha256))
            clientType.dataType) with
      | some channel => .updateChannel channel.channelId
      | none => .rejected := by
  refine hconsistent.represents.onSocketConnected hsocket
    (length_getServerSocketName hdigest userId pid bundle) ?_ _ _
  intro hmem
  exact splitFlag_not_mem_hexText _ (List.mem_of_mem_take hmem)

/-- Two live sessions with one text share their message channel name, and the
later one loses its sockets to the earlier one. -/
theorem Consistent.nodup_hashedText
    (hroutes : ∀ session ∈ process.sessions,
      process.RoutesToOwn sha256 session) :
    (process.sessions.map (·.hashedText)).Nodup := by
  rw [List.Nodup, List.pairwise_map, List.pairwise_iff_getElem]
  intro i j hi hj hij hsame
  have hearlier : process.sessions[i] ∈ process.sessions.take j :=
    List.mem_take_iff_getElem.mpr ⟨i, by omega, rfl⟩
  have hlater : process.sessions[j] ∈ process.sessions.drop j :=
    List.mem_drop_iff_getElem.mpr ⟨0, by omega, by simp⟩
  have hnames : process.sessions[i].name sha256 =
      process.sessions[j].name sha256 := by
    have hhash := congrArg
      (fun text => (hexText (sha256 text)).take channelNameLength) hsame
    exact hhash
  obtain ⟨first, hfirst⟩ := hconsistent.exists_message
    (List.getElem_mem hi)
  obtain ⟨second, hsecond⟩ := hconsistent.exists_message
    (List.getElem_mem hj)
  have hmessage : .message ∈ clientTypes := by decide
  have hfirstLive := own_mem_live sha256 hmessage hfirst
  have hsecondLive := own_mem_live sha256 hmessage hsecond
  have hsplit : process.sessions.flatMap (·.live sha256) =
      (process.sessions.take j).flatMap (·.live sha256) ++
        (process.sessions.drop j).flatMap (·.live sha256) := by
    rw [← List.flatMap_append, List.take_append_drop]
  have hnodup := hconsistent.represents.nodup
  rw [hsplit, List.map_append, List.nodup_append] at hnodup
  have hverdict := hroutes _ (List.getElem_mem hj) 1 0 [] [] [] .message
    hmessage one_pos
  simp only [hsecond, hconsistent.onSocketConnected hdigest one_pos,
    hsplit, List.find?_append] at hverdict
  cases hfind : ((process.sessions.take j).flatMap (·.live sha256)).find?
      (LiveChannel.matching
        (TransChannelType.message.channelName
          (process.sessions[j].name sha256))
        TransChannelType.message.dataType) with
  | none =>
      have hfails := List.find?_eq_none.mp hfind _
        (List.mem_flatMap.mpr ⟨_, hearlier, hfirstLive⟩)
      simp [LiveChannel.matching, hnames] at hfails
  | some found =>
      rw [hfind] at hverdict
      have hid : found.channelId = second := by
        simpa using hverdict.1
      exact hnodup.2.2 _
        (List.mem_map_of_mem (List.mem_of_find?_eq_some hfind)) _
        (List.mem_map_of_mem
          (List.mem_flatMap.mpr ⟨_, hlater, hsecondLive⟩)) hid

end Routing

/-- In every state that a process reaches, the sockets of all peers find the
channels of their own sessions if and only if the hashed texts of the live
sessions are pairwise different. -/
theorem routesToOwn_iff (sha256 : Text → List UInt8) (ownerName : Text)
    (events : List SinkEvent)
    (hdigest : ∀ text, (sha256 text).length = sha256DigestLength)
    (hinjective : ∀ first ∈ (reached sha256 ownerName events).sessions,
      ∀ second ∈ (reached sha256 ownerName events).sessions,
        first.name sha256 = second.name sha256 →
          first.hashedText = second.hashedText) :
    (∀ session ∈ (reached sha256 ownerName events).sessions,
        (reached sha256 ownerName events).RoutesToOwn sha256 session) ↔
      ((reached sha256 ownerName events).sessions.map
        (·.hashedText)).Nodup := by
  have hconsistent :
      (reached sha256 ownerName events).Consistent sha256 :=
    consistent_reached ownerName events
  constructor
  · intro hroutes
    exact hconsistent.nodup_hashedText hdigest hroutes
  · intro hdistinct session hsession socketId setFileSchema userId pid bundle
      clientType hclient hsocket
    have hfind := hconsistent.find?_live hdigest hinjective hdistinct
      hsession hclient
    simp only [hconsistent.onSocketConnected hdigest hsocket, hfind]
    cases hown : session.ownChannel clientType with
    | none => rfl
    | some channelId =>
        refine ⟨rfl, ?_⟩
        have hmem := List.mem_flatMap.mpr
          ⟨session, hsession, own_mem_live sha256 hclient hown⟩
        exact hconsistent.represents.socketChannelMap_updateChannel hmem
          socketId setFileSchema

def knownSha256 (text : Text) : List UInt8 :=
  if text = "entryEntryAbilityentryEntryAbility".toList then
    [0x8e, 0x73, 0x25, 0xdf, 0x49, 0x61, 0xd0, 0x08, 0xd3, 0xd9, 0xa5, 0x4b,
      0x33, 0x44, 0x6a, 0x76, 0x4c, 0xf0, 0x76, 0x1b, 0xeb, 0x8d, 0x11,
      0x53, 0xca, 0x04, 0x58, 0x0d, 0xf6, 0x90, 0x1e, 0x9d]
  else if text = "entrySideAbilityentryEntryAbility".toList then
    [0x69, 0xe8, 0x8a, 0xb1, 0xcd, 0x34, 0x34, 0x7d, 0x5f, 0x58, 0x0c, 0xd0,
      0x44, 0x28, 0x3e, 0x54, 0x24, 0xfb, 0x13, 0xe9, 0x7a, 0x67, 0x56,
      0x53, 0x31, 0xe9, 0x5d, 0xd8, 0xda, 0x53, 0xa3, 0x41]
  else if text = "410020010044com.demo.notes".toList then
    [0xc7, 0x65, 0x95, 0x7b, 0xd1, 0xcd, 0x6a, 0x5f, 0xbd, 0xc4, 0xc8, 0xbe,
      0x78, 0xac, 0xbb, 0x91, 0x02, 0x3b, 0x1b, 0x79, 0x6a, 0x0e, 0xb7,
      0xa9, 0x85, 0x05, 0xca, 0xd6, 0x77, 0xe2, 0x41, 0x6f]
  else List.replicate 32 0

def notesSession (deviceId abilityName : Text) :
    AbilityConnectionSessionInfo :=
  ⟨"notes".toList,
    ⟨[], "com.demo.notes".toList, "entry".toList, "EntryAbility".toList,
      "notes".toList⟩,
    ⟨deviceId, "com.demo.notes".toList, "entry".toList, abilityName,
      "notes".toList⟩⟩

def dataOption : ConnectOption := ⟨true, false, false, false, false⟩

def differentAbilities : List SinkEvent :=
  [.acceptConnect
      (notesSession "deviceA".toList "EntryAbility".toList) dataOption 0,
    .acceptConnect
      (notesSession "deviceB".toList "SideAbility".toList) dataOption 0]

theorem routesToOwn_differentAbilities :
    (reached knownSha256 [] differentAbilities).sessions.length = 2 ∧
      ∀ session ∈ (reached knownSha256 [] differentAbilities).sessions,
        (reached knownSha256 [] differentAbilities).RoutesToOwn knownSha256
          session := by
  refine ⟨by decide +kernel, ?_⟩
  refine (routesToOwn_iff knownSha256 [] differentAbilities ?_ ?_).mpr ?_
  · intro text
    unfold knownSha256
    split_ifs <;> rfl
  · decide +kernel
  · decide +kernel

def sameAbility : List SinkEvent :=
  [.acceptConnect
      (notesSession "deviceA".toList "EntryAbility".toList) dataOption 0,
    .acceptConnect
      (notesSession "deviceB".toList "EntryAbility".toList) dataOption 0]

/-- The message socket of the second device, whose session has channel `1002`,
is given to channel `1001` of the first. -/
theorem not_routesToOwn_sameAbility :
    (∀ session ∈ (reached knownSha256 [] sameAbility).sessions,
        session.info = notesSession "deviceB".toList "EntryAbility".toList →
        session.ownChannel .message = some 1002 ∧
          (reached knownSha256 [] sameAbility).manager.onSocketConnected 7
            (session.peerSocketName knownSha256
              (getServerSocketName knownSha256 "4100".toList
                "20010044".toList "com.demo.notes".toList) .message) =
            .updateChannel 1001) ∧
      ¬ ∀ session ∈ (reached knownSha256 [] sameAbility).sessions,
        (reached knownSha256 [] sameAbility).RoutesToOwn knownSha256
          session := by
  have hverdict : ∀ session ∈ (reached knownSha256 [] sameAbility).sessions,
      session.info = notesSession "deviceB".toList "EntryAbility".toList →
      session.ownChannel .message = some 1002 ∧
        (reached knownSha256 [] sameAbility).manager.onSocketConnected 7
          (session.peerSocketName knownSha256
            (getServerSocketName knownSha256 "4100".toList
              "20010044".toList "com.demo.notes".toList) .message) =
          .updateChannel 1001 := by
    decide +kernel
  refine ⟨hverdict, ?_⟩
  intro hroutes
  have hsecond : ∃ session ∈ (reached knownSha256 [] sameAbility).sessions,
      session.info =
        notesSession "deviceB".toList "EntryAbility".toList := by
    decide +kernel
  obtain ⟨session, hsession, hinfo⟩ := hsecond
  obtain ⟨hown, hfirst⟩ := hverdict session hsession hinfo
  have hrouted := hroutes session hsession 7 0 "4100".toList
    "20010044".toList "com.demo.notes".toList .message (by decide)
    (by decide)
  simp only [hown, hfirst] at hrouted
  exact absurd hrouted.1 (by decide)

end SinkProcess

end Dmsfwk
