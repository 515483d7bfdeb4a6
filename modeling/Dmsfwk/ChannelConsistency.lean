import Dmsfwk.ChannelRecords

/-!
# The registries of the channel manager agree

The channel manager keeps the channels under their ids and under their names,
and the sockets with their channel and with their status; a channel lists its
sockets once more, together with a sender and receiver for each of them.
Every operation updates several of these maps, also on its failure exits.
-/

namespace Dmsfwk
namespace ChannelManager

def FreshSocket (manager : ChannelManager) : ChannelEvent → Prop
  | .createClientChannel _ _ _ socket =>
      manager.socketChannelMap[socket]? = none
  | .updateChannel socketId _ _ =>
      manager.socketChannelMap[socketId]? = none
  | _ => True

instance (manager : ChannelManager) :
    ∀ event, Decidable (manager.FreshSocket event)
  | .createClientChannel _ _ _ _ => inferInstanceAs (Decidable (_ = _))
  | .updateChannel _ _ _ => inferInstanceAs (Decidable (_ = _))
  | .createServerChannel _ _ _ => .isTrue trivial
  | .deleteChannel _ => .isTrue trivial
  | .bindSocket _ _ _ _ => .isTrue trivial
  | .onSocketClosed _ => .isTrue trivial
  | .deInit => .isTrue trivial

/-! ## Agreement -/

structure Agree (manager : ChannelManager) : Prop where
  sockets : ∀ socketId : ℤ, manager.socketChannelMap[socketId]? = none ↔
    manager.socketStatusMap[socketId]? = none
  owned : ∀ socketId channelId : ℤ,
    manager.socketChannelMap[socketId]? = some channelId ↔
      ∃ info, manager.channelInfoMap[channelId]? = some info ∧
        socketId ∈ info.clientSockets ∧
        socketId ∈ info.dataSenderReceivers
  receivers : ∀ (channelId : ℤ) info,
    manager.channelInfoMap[channelId]? = some info →
    ∀ socketId, socketId ∈ info.clientSockets ↔
      socketId ∈ info.dataSenderReceivers
  named : ∀ (channelId : ℤ) (channelName : Text),
    channelId ∈ manager.idsOf channelName ↔
      ∃ info, manager.channelInfoMap[channelId]? = some info ∧
        info.channelName = channelName
  once : ∀ channelName, (manager.idsOf channelName).Nodup

structure Kept (manager : ChannelManager) : Prop where
  agree : manager.Agree
  numbered : manager.Numbered

section Operations

variable {manager : ChannelManager}

theorem Kept.tracked (hkept : manager.Kept) : manager.Tracked where
  sockets := hkept.agree.sockets
  known := by
    intro socketId channelId hchannel
    obtain ⟨info, hinfo, -⟩ :=
      (hkept.agree.owned socketId channelId).mp hchannel
    exact ⟨info, hinfo⟩
  named := hkept.agree.named
  once := hkept.agree.once
  numbered := hkept.numbered

theorem Tracked.kept (htracked : manager.Tracked)
    (howned : ∀ socketId channelId : ℤ,
      manager.socketChannelMap[socketId]? = some channelId ↔
        ∃ info, manager.channelInfoMap[channelId]? = some info ∧
          socketId ∈ info.clientSockets ∧
          socketId ∈ info.dataSenderReceivers)
    (hreceivers : ∀ (channelId : ℤ) info,
      manager.channelInfoMap[channelId]? = some info →
      ∀ socketId, socketId ∈ info.clientSockets ↔
        socketId ∈ info.dataSenderReceivers) : manager.Kept :=
  ⟨⟨htracked.sockets, howned, hreceivers, htracked.named, htracked.once⟩,
    htracked.numbered⟩

theorem kept_initial (ownerName : Text) : (initial ownerName).Kept :=
  (tracked_initial ownerName).kept (by simp [initial]) (by simp [initial])

/-! ## Creating channels -/

section Register

variable {next : ChannelManager} {info : ChannelInfo} (hkept : manager.Kept)
  (hinfos : next.channelInfoMap = manager.channelInfoMap)
  (hnew : manager.channelInfoMap[info.channelId]? = none)

include hinfos hnew in
theorem Agree.owned_registerChannel (hagree : manager.Agree)
    (hreceivers : info.dataSenderReceivers = info.clientSockets)
    (hfree : ∀ socketId ∈ info.clientSockets,
      manager.socketChannelMap[socketId]? = none)
    (hchannels : ∀ socketId : ℤ, next.socketChannelMap[socketId]? =
      if socketId ∈ info.clientSockets then some info.channelId
      else manager.socketChannelMap[socketId]?) (socketId channelId : ℤ) :
    (next.registerChannel info).socketChannelMap[socketId]? =
        some channelId ↔
      ∃ found,
        (next.registerChannel info).channelInfoMap[channelId]? = some found ∧
          socketId ∈ found.clientSockets ∧
          socketId ∈ found.dataSenderReceivers := by
  change next.socketChannelMap[socketId]? = some channelId ↔ _
  rw [hchannels, getElem?_registerChannel hinfos hnew]
  by_cases hmem : socketId ∈ info.clientSockets
  · rw [if_pos hmem]
    split_ifs with hsame
    · subst hsame
      simp [hmem, hreceivers]
    · constructor
      · intro hchannel
        exact absurd (Option.some.inj hchannel) hsame
      · intro hold
        have hused := (hagree.owned socketId channelId).mpr hold
        rw [hfree socketId hmem] at hused
        cases hused
  · rw [if_neg hmem]
    split_ifs with hsame
    · subst hsame
      constructor
      · intro hold
        obtain ⟨found, hexists, -⟩ :=
          (hagree.owned socketId info.channelId).mp hold
        rw [hnew] at hexists
        cases hexists
      · rintro ⟨found, hexists, hsocket, -⟩
        cases hexists
        exact absurd hsocket hmem
    · exact hagree.owned socketId channelId

include hkept hinfos hnew in
theorem Kept.registerChannel
    (htracked : (next.registerChannel info).Tracked)
    (hreceivers : info.dataSenderReceivers = info.clientSockets)
    (hfree : ∀ socketId ∈ info.clientSockets,
      manager.socketChannelMap[socketId]? = none)
    (hchannels : ∀ socketId : ℤ, next.socketChannelMap[socketId]? =
      if socketId ∈ info.clientSockets then some info.channelId
      else manager.socketChannelMap[socketId]?) :
    (next.registerChannel info).Kept := by
  apply htracked.kept
  · exact hkept.agree.owned_registerChannel hinfos hnew hreceivers hfree
      hchannels
  · intro channelId found hexists socketId
    rw [getElem?_registerChannel hinfos hnew] at hexists
    split_ifs at hexists with hsame
    · cases hexists
      rw [hreceivers]
    · exact hkept.agree.receivers channelId found hexists socketId

end Register

theorem Kept.createServerChannel (hkept : manager.Kept) (channelName : Text)
    (dataType : ChannelDataType) (peerInfo : ChannelPeerInfo) :
    (manager.createServerChannel channelName dataType peerInfo).2.Kept := by
  have htracked :=
    hkept.tracked.createServerChannel channelName dataType peerInfo
  by_cases hroom : manager.HasRoom dataType
  · rw [createServerChannel_eq (hkept.numbered.next dataType).1 hroom]
      at htracked ⊢
    have hregistered : ((manager.advance dataType).registerChannel
        ⟨manager.nextIds dataType, .unconnected, dataType, channelName,
          peerInfo, [], []⟩).Kept :=
      hkept.registerChannel rfl (hkept.numbered.fresh dataType)
        ⟨htracked.sockets, htracked.known, htracked.named, htracked.once,
          htracked.numbered.given, htracked.numbered.next⟩ rfl (by simp)
        (by simp [ChannelManager.advance])
    exact htracked.kept hregistered.agree.owned hregistered.agree.receivers
  · rw [createServerChannel_full hroom]
    exact hkept

theorem Kept.createClientChannel (hkept : manager.Kept) (channelName : Text)
    (dataType : ChannelDataType) (peerInfo : ChannelPeerInfo) {socket : ℤ}
    (hfresh : manager.socketChannelMap[socket]? = none) :
    (manager.createClientChannel channelName dataType peerInfo
      socket).2.Kept := by
  have htracked :=
    hkept.tracked.createClientChannel channelName dataType peerInfo socket
  by_cases hroom : manager.HasRoom dataType
  · have hlower := (hkept.numbered.next dataType).1
    by_cases hfailed : createClientSocket channelName socket ≤ 0
    · rw [createClientChannel_failed hlower hroom channelName peerInfo hfailed]
        at htracked ⊢
      exact htracked.kept hkept.agree.owned hkept.agree.receivers
    · rw [createClientChannel_eq hlower hroom channelName peerInfo hfailed]
        at htracked ⊢
      refine hkept.registerChannel rfl (hkept.numbered.fresh dataType)
        htracked rfl ?_ ?_
      · intro socketId hmem
        rw [List.mem_singleton.mp hmem]
        exact hfresh
      · intro socketId
        simp only [OrderedMap.getElem?_insertIfNew_eq hfresh,
          List.mem_singleton, eq_comm]
  · rw [createClientChannel_full hroom]
    exact hkept

/-! ## Deleting channels -/

theorem Kept.deleteChannel (hkept : manager.Kept) (channelId : ℤ) :
    (manager.deleteChannel channelId).2.Kept := by
  by_cases hvalid : ChannelManager.isValidChannelId channelId = true
  · have hinfos := @channelInfoMap_deleteChannel manager channelId hvalid
    apply (hkept.tracked.deleteChannel channelId).kept
    · intro socketId other
      rw [socketChannelMap_deleteChannel hvalid, hinfos]
      by_cases hsame : channelId = other
      · subst hsame
        rw [if_pos rfl]
        split_ifs with hown
        · simp
        · simp [hown]
      · rw [if_neg hsame]
        split_ifs with hown
        · have hdiffers : manager.socketChannelMap[socketId]? ≠
              some other := by
            rw [hown]
            intro hinj
            exact hsame (Option.some.inj hinj)
          rw [← hkept.agree.owned socketId other]
          exact ⟨nofun, fun hother => absurd hother hdiffers⟩
        · exact hkept.agree.owned socketId other
    · intro other info hinfo
      rw [hinfos] at hinfo
      split_ifs at hinfo
      exact hkept.agree.receivers other info hinfo
  · rw [deleteChannel_of_invalid hvalid]
    exact hkept

theorem Kept.deInit (hkept : manager.Kept) : manager.deInit.Kept := by
  have hdeleted := @deleteChannels_preserves manager Kept
    (fun _ channelId hkept => hkept.deleteChannel channelId)
    (manager.channelIdMap.toList.flatMap (·.2)).dedup hkept
  exact hkept.tracked.deInit.kept hdeleted.agree.owned hdeleted.agree.receivers

/-! ## Sockets -/

theorem Agree.socketChannelMap_iff (hagree : manager.Agree) {channelId : ℤ}
    {info : ChannelInfo}
    (hinfo : manager.channelInfoMap[channelId]? = some info)
    (socketId : ℤ) :
    manager.socketChannelMap[socketId]? = some channelId ↔
      socketId ∈ info.clientSockets := by
  rw [hagree.owned socketId channelId, hinfo]
  constructor
  · rintro ⟨found, hfound, hmem, -⟩
    cases hfound
    exact hmem
  · intro hmem
    exact ⟨info, rfl, hmem,
      (hagree.receivers channelId info hinfo socketId).mp hmem⟩

theorem Kept.replaceInfo (hkept : manager.Kept) {next : ChannelManager}
    {channelId : ℤ} {replacement : ChannelInfo} (htracked : next.Tracked)
    (hinfos : ∀ other : ℤ, next.channelInfoMap[other]? =
      if channelId = other then some replacement
      else manager.channelInfoMap[other]?)
    (hreceivers : ∀ socketId, socketId ∈ replacement.clientSockets ↔
      socketId ∈ replacement.dataSenderReceivers)
    (howned : ∀ socketId : ℤ,
      next.socketChannelMap[socketId]? = some channelId ↔
        socketId ∈ replacement.clientSockets)
    (hothers : ∀ socketId other : ℤ, channelId ≠ other →
      (next.socketChannelMap[socketId]? = some other ↔
        manager.socketChannelMap[socketId]? = some other)) :
    next.Kept := by
  apply htracked.kept
  · intro socketId other
    rw [hinfos]
    by_cases hsame : channelId = other
    · subst hsame
      rw [if_pos rfl, howned]
      constructor
      · intro hmem
        exact ⟨replacement, rfl, hmem, (hreceivers socketId).mp hmem⟩
      · rintro ⟨found, hfound, hmem, -⟩
        cases hfound
        exact hmem
    · rw [if_neg hsame, hothers socketId other hsame]
      exact hkept.agree.owned socketId other
  · intro other found hfound
    rw [hinfos] at hfound
    split_ifs at hfound
    · cases hfound
      exact hreceivers
    · exact hkept.agree.receivers other found hfound

theorem Kept.registerSocket (hkept : manager.Kept) {socketId channelId : ℤ}
    (hown : manager.socketChannelMap[socketId]? = none ∨
      manager.socketChannelMap[socketId]? = some channelId)
    (setFileSchema : ℤ) :
    (manager.registerSocket socketId channelId setFileSchema).2.Kept := by
  have htracked :=
    hkept.tracked.registerSocket socketId channelId setFileSchema
  cases hinfo : manager.channelInfoMap[channelId]? with
  | none =>
      rw [registerSocket_of_unknown hinfo]
      exact hkept
  | some info =>
      rw [registerSocket_entered hinfo] at htracked ⊢
      refine hkept.replaceInfo htracked
        (fun other => OrderedMap.getElem?_insert_eq channelId other _) ?_ ?_ ?_
      · intro other
        simp only [withSocket]
        rw [List.mem_append, List.mem_singleton, List.mem_insert_iff,
          hkept.agree.receivers channelId info hinfo other, or_comm]
      · intro other
        simp only [entered, withSocket, OrderedMap.getElem?_insert_eq]
        rw [List.mem_append, List.mem_singleton]
        split_ifs with hsame
        · simp [hsame]
        · rw [hkept.agree.socketChannelMap_iff hinfo]
          simp [Ne.symm hsame]
      · intro other otherChannel hdiffers
        simp only [entered, OrderedMap.getElem?_insert_eq]
        split_ifs with hsame
        · rw [← hsame]
          rcases hown with hfresh | hown
          · simp [hfresh, hdiffers]
          · simp [hown, hdiffers]
        · rfl

theorem Kept.setSocketStatus (hkept : manager.Kept) (socketId : ℤ)
    (status : ChannelStatus) :
    (manager.setSocketStatus socketId status).2.Kept := by
  have htracked := hkept.tracked.setSocketStatus socketId status
  rcases hkept.tracked.setSocketStatus_cases socketId status with
    ⟨-, hset⟩ | ⟨channelId, info, -, hinfo, hset⟩
  · rw [hset]
    exact hkept
  · rw [hset] at htracked ⊢
    exact hkept.replaceInfo htracked
      (fun other => OrderedMap.getElem?_insert_eq channelId other _)
      (hkept.agree.receivers channelId info hinfo)
      (fun other => hkept.agree.socketChannelMap_iff hinfo other)
      (fun _ _ _ => Iff.rfl)

theorem Kept.updateChannel (hkept : manager.Kept) {socketId channelId : ℤ}
    (hown : manager.socketChannelMap[socketId]? = none ∨
      manager.socketChannelMap[socketId]? = some channelId)
    (setFileSchema : ℤ) :
    (manager.updateChannel socketId channelId setFileSchema).2.Kept :=
  updateChannel_preserves
    (fun _ socketId status hkept => hkept.setSocketStatus socketId status)
    socketId channelId setFileSchema (hkept.registerSocket hown setFileSchema)

theorem Kept.step (hkept : manager.Kept) {event : ChannelEvent}
    (hfresh : manager.FreshSocket event) : (manager.step event).2.Kept := by
  cases event with
  | createServerChannel channelName dataType peerInfo =>
      exact hkept.createServerChannel channelName dataType peerInfo
  | createClientChannel channelName dataType peerInfo socket =>
      exact hkept.createClientChannel channelName dataType peerInfo hfresh
  | deleteChannel channelId => exact hkept.deleteChannel channelId
  | bindSocket socketId dataType bind setFileSchema =>
      exact bindSocket_preserves
        (fun _ socketId status hkept => hkept.setSocketStatus socketId status)
        socketId dataType bind setFileSchema hkept
  | updateChannel socketId channelId setFileSchema =>
      exact hkept.updateChannel (.inl hfresh) setFileSchema
  | onSocketClosed socketId =>
      exact onSocketClosed_preserves
        (fun _ socketId status hkept => hkept.setSocketStatus socketId status)
        (fun _ channelId hkept => hkept.deleteChannel channelId) socketId hkept
  | deInit => exact hkept.deInit

end Operations

/-! ## Every run -/

/-- In every run in which softbus reuses no registered socket id, the
registries agree after every operation. -/
theorem agree_run (ownerName : Text) (events : List ChannelEvent)
    (hmeets : EventRun.Meets step FreshSocket (initial ownerName) events)
    (first : List ChannelEvent) (hfirst : first <+: events) :
    (EventRun.run step (initial ownerName) first).2.Agree := by
  have hstep : ∀ manager event, Kept manager → FreshSocket manager event →
      (manager.step event).2.Kept := fun _ _ hkept hfresh =>
    hkept.step hfresh
  have hkept := (hmeets.of_prefix hfirst).invariant hstep
    (kept_initial ownerName)
  exact hkept.agree

def oneRound : List ChannelEvent :=
  [.createServerChannel "notes".toList .bytes ⟨[], []⟩,
    .updateChannel 7 2001 0,
    .createClientChannel "notes".toList .message
      ⟨"peer".toList, "network".toList⟩ 8,
    .bindSocket 8 .message 0 0, .onSocketClosed 7, .deInit]

theorem agree_oneRound :
    EventRun.Meets step FreshSocket (initial "owner".toList) oneRound ∧
      (EventRun.run step (initial "owner".toList) oneRound).2.Agree := by
  have hmeets : EventRun.Meets step FreshSocket (initial "owner".toList)
      oneRound := by
    decide +kernel
  exact ⟨hmeets, agree_run "owner".toList oneRound hmeets oneRound
    (List.prefix_refl oneRound)⟩

end ChannelManager

end Dmsfwk
