import Dmsfwk.ChannelRecords

/-!
# The socket of a new client channel

`RegisterSocket` enters the socket of a client channel with `emplace`, which
keeps an entry that is there already.  Closing a socket forgets it only
together with its channel, so that the entry of a closed socket stays while
another socket of the channel is connected, and softbus may hand out its id
again.
-/

namespace Dmsfwk
namespace ChannelManager

def receivingChannel (manager : ChannelManager) (socketId : ℤ) : Option ℤ :=
  if socketId ≤ 0 then none
  else
    let channelId := manager.getSocketChannelId socketId
    if isValidChannelId channelId then some channelId else none

def OwnsSocket (manager : ChannelManager) (channelId socketId : ℤ) : Prop :=
  manager.getSocketChannelId socketId = channelId ∧
    manager.getSocketStatus socketId = .unconnected ∧
    manager.receivingChannel socketId = some channelId

instance (manager : ChannelManager) (channelId socketId : ℤ) :
    Decidable (manager.OwnsSocket channelId socketId) :=
  inferInstanceAs (Decidable (_ ∧ _ ∧ _))

/-! ## Creating a client channel -/

section Create

variable {manager : ChannelManager} {channelName : Text}
  {dataType : ChannelDataType} {peerInfo : ChannelPeerInfo} {socket : ℤ}

theorem Tracked.created_of_valid (htracked : manager.Tracked)
    (hvalid : isValidChannelId (manager.createClientChannel channelName
      dataType peerInfo socket).1 = true) :
    let result :=
      manager.createClientChannel channelName dataType peerInfo socket
    0 < socket ∧ result.1 = manager.nextIds dataType ∧
      result.2.socketChannelMap = manager.socketChannelMap.insertIfNew socket
        (manager.nextIds dataType) ∧
      result.2.socketStatusMap =
        manager.socketStatusMap.insertIfNew socket .unconnected := by
  by_cases hroom : manager.HasRoom dataType
  · have hlower := (htracked.numbered.next dataType).1
    by_cases hfailed : createClientSocket channelName socket ≤ 0
    · rw [createClientChannel_failed hlower hroom channelName peerInfo hfailed]
        at hvalid
      exact absurd hvalid (by decide : ¬ChannelManager.isValidChannelId
        CollabErr.createSocketFailed.code = true)
    · rw [createClientChannel_eq hlower hroom channelName peerInfo hfailed]
      rw [createClientSocket_eq hfailed, not_le] at hfailed
      exact ⟨hfailed, rfl, rfl, rfl⟩
  · rw [createClientChannel_full hroom] at hvalid
    exact absurd hvalid (by decide : ¬ChannelManager.isValidChannelId
      CollabErr.createClientChannelFailed.code = true)

theorem Tracked.ownsSocket_iff (htracked : manager.Tracked)
    (hvalid : isValidChannelId (manager.createClientChannel channelName
      dataType peerInfo socket).1 = true) :
    (manager.createClientChannel channelName dataType peerInfo
        socket).2.OwnsSocket
        (manager.createClientChannel channelName dataType peerInfo socket).1
        socket ↔
      manager.socketChannelMap[socket]? = none := by
  obtain ⟨hpositive, hid, hchannels, hstatuses⟩ :=
    htracked.created_of_valid hvalid
  rw [hid] at hvalid ⊢
  constructor
  · rintro ⟨hchannel, -, -⟩
    unfold getSocketChannelId at hchannel
    rw [hchannels, OrderedMap.getElem?_insertIfNew] at hchannel
    by_contra hsome
    -- the channel of a registered socket exists, and the new one did not
    obtain ⟨channelId, hold⟩ := Option.ne_none_iff_exists'.mp hsome
    obtain ⟨info, hinfo⟩ := htracked.known socket channelId hold
    rw [if_neg (fun h => hsome h.2), hold] at hchannel
    rw [show channelId = manager.nextIds dataType from hchannel,
      htracked.numbered.fresh dataType] at hinfo
    cases hinfo
  · intro hfree
    have hstatus := (htracked.sockets socket).mp hfree
    have hchannel : (manager.createClientChannel channelName dataType peerInfo
        socket).2.getSocketChannelId socket = manager.nextIds dataType := by
      unfold getSocketChannelId
      rw [hchannels, OrderedMap.getElem?_insertIfNew_eq hfree, if_pos rfl]
      rfl
    refine ⟨hchannel, ?_, ?_⟩
    · unfold getSocketStatus
      rw [hstatuses, OrderedMap.getElem?_insertIfNew_eq hstatus, if_pos rfl]
      rfl
    · unfold receivingChannel
      rw [if_neg (not_le.mpr hpositive), hchannel]
      exact if_pos hvalid

end Create

/-- In every state of every run, the channel created for a socket owns it
exactly when the socket was not registered before. -/
theorem ownsSocket_run (ownerName : Text) (events : List ChannelEvent)
    (channelName : Text) (dataType : ChannelDataType)
    (peerInfo : ChannelPeerInfo) (socket : ℤ)
    (hvalid : isValidChannelId
      ((EventRun.run step (initial ownerName) events).2.createClientChannel
        channelName dataType peerInfo socket).1 = true) :
    ((EventRun.run step (initial ownerName) events).2.createClientChannel
        channelName dataType peerInfo socket).2.OwnsSocket
        ((EventRun.run step (initial ownerName) events).2.createClientChannel
          channelName dataType peerInfo socket).1 socket ↔
      (EventRun.run step (initial ownerName) events).2.socketChannelMap[
        socket]? = none :=
  (tracked_run ownerName events).ownsSocket_iff hvalid

def oneSocketClosed : List ChannelEvent :=
  [.createServerChannel "notes".toList .bytes ⟨[], []⟩,
    .updateChannel 7 2001 0, .onSocketClosed 7]

theorem ownsSocket_forgottenSocket :
    (EventRun.run step (initial []) oneSocketClosed).2.socketChannelMap[
        (7 : ℤ)]? = none ∧
      ((EventRun.run step (initial []) oneSocketClosed).2.createClientChannel
        "chat".toList .message ⟨[], []⟩ 7).2.OwnsSocket
        ((EventRun.run step (initial []) oneSocketClosed).2.createClientChannel
          "chat".toList .message ⟨[], []⟩ 7).1 7 := by
  have hfree : (EventRun.run step (initial [])
      oneSocketClosed).2.socketChannelMap[(7 : ℤ)]? = none := by
    decide +kernel
  have hvalid : isValidChannelId
      ((EventRun.run step (initial []) oneSocketClosed).2.createClientChannel
        "chat".toList .message ⟨[], []⟩ 7).1 = true := by
    decide +kernel
  exact ⟨hfree, (ownsSocket_run [] oneSocketClosed "chat".toList .message
    ⟨[], []⟩ 7 hvalid).mpr hfree⟩

def oneOfTwoClosed : List ChannelEvent :=
  [.createServerChannel "notes".toList .bytes ⟨[], []⟩,
    .updateChannel 7 2001 0, .updateChannel 8 2001 0, .onSocketClosed 7]

/-- The id of the closed socket is handed out again, and what arrives there goes
to the old channel. -/
theorem not_ownsSocket_reusedSocket :
    let result := (EventRun.run step (initial [])
      oneOfTwoClosed).2.createClientChannel "chat".toList .message ⟨[], []⟩ 7
    isValidChannelId result.1 = true ∧ ¬result.2.OwnsSocket result.1 7 ∧
      result.1 = 1001 ∧ result.2.receivingChannel 7 = some 2001 := by
  decide +kernel

end ChannelManager

end Dmsfwk
