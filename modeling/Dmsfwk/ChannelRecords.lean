import Dmsfwk.ChannelManager
import Dmsfwk.EventRun

/-!
# The records of the channel manager

Softbus decides which id an incoming or a new socket gets, and it may hand out
the id of a closed socket again.  Whatever it does, the names lead to the
channels, the ids given out stay in the range of their data type, and every
registered socket has a status and an existing channel.
-/

namespace Dmsfwk
namespace ChannelManager

/-! ## Runs -/

inductive ChannelEvent where
  | createServerChannel (channelName : Text) (dataType : ChannelDataType)
      (peerInfo : ChannelPeerInfo)
  | createClientChannel (channelName : Text) (dataType : ChannelDataType)
      (peerInfo : ChannelPeerInfo) (socket : ℤ)
  | deleteChannel (channelId : ℤ)
  | bindSocket (socketId : ℤ) (dataType : ChannelDataType)
      (bind setFileSchema : ℤ)
  | updateChannel (socketId channelId setFileSchema : ℤ)
  | onSocketClosed (socketId : ℤ)
  | deInit

def step (manager : ChannelManager) :
    ChannelEvent → Unit × ChannelManager
  | .createServerChannel channelName dataType peerInfo =>
      ((), (manager.createServerChannel channelName dataType peerInfo).2)
  | .createClientChannel channelName dataType peerInfo socket =>
      ((), (manager.createClientChannel channelName dataType peerInfo
        socket).2)
  | .deleteChannel channelId => ((), (manager.deleteChannel channelId).2)
  | .bindSocket socketId dataType bind setFileSchema =>
      ((), (manager.bindSocket socketId dataType bind setFileSchema).2)
  | .updateChannel socketId channelId setFileSchema =>
      ((), (manager.updateChannel socketId channelId setFileSchema).2)
  | .onSocketClosed socketId => ((), manager.onSocketClosed socketId)
  | .deInit => ((), manager.deInit)

/-! ## What the records say -/

def idsOf (manager : ChannelManager) (channelName : Text) : List ℤ :=
  manager.channelIdMap[channelName]?.getD []

/-- Ids lie in the range of their data type, and those given out are below
the next one. -/
structure Numbered (manager : ChannelManager) : Prop where
  given : ∀ (channelId : ℤ) info,
    manager.channelInfoMap[channelId]? = some info →
    channelIdGap * (info.dataType.index + 1) < channelId ∧
      channelId < manager.nextIds info.dataType
  next : ∀ dataType : ChannelDataType,
    channelIdGap * (dataType.index + 1) < manager.nextIds dataType ∧
      manager.nextIds dataType ≤ channelIdGap * (dataType.index + 2)

structure Tracked (manager : ChannelManager) : Prop where
  sockets : ∀ socketId : ℤ, manager.socketChannelMap[socketId]? = none ↔
    manager.socketStatusMap[socketId]? = none
  known : ∀ socketId channelId : ℤ,
    manager.socketChannelMap[socketId]? = some channelId →
    ∃ info, manager.channelInfoMap[channelId]? = some info
  named : ∀ (channelId : ℤ) (channelName : Text),
    channelId ∈ manager.idsOf channelName ↔
      ∃ info, manager.channelInfoMap[channelId]? = some info ∧
        info.channelName = channelName
  once : ∀ channelName, (manager.idsOf channelName).Nodup
  numbered : manager.Numbered

theorem startIds_range (dataType : ChannelDataType) :
    channelIdGap * (dataType.index + 1) < startIds dataType ∧
      startIds dataType ≤ channelIdGap * (dataType.index + 2) := by
  cases dataType <;> decide

theorem tracked_initial (ownerName : Text) : (initial ownerName).Tracked where
  sockets := by simp [initial]
  known := by simp [initial]
  named := by simp [initial, idsOf]
  once := by simp [initial, idsOf]
  numbered :=
    { given := by simp [initial]
      next := startIds_range }

section Operations

variable {manager : ChannelManager}

/-! ## Creating channels -/

theorem Numbered.fresh (hnumbered : manager.Numbered)
    (dataType : ChannelDataType) :
    manager.channelInfoMap[manager.nextIds dataType]? = none := by
  by_contra hsome
  obtain ⟨info, hinfo⟩ := Option.ne_none_iff_exists'.mp hsome
  obtain ⟨hlower, hupper⟩ := hnumbered.given _ info hinfo
  exact given_ne_nextIds hnumbered.next hlower hupper dataType rfl

theorem Numbered.isValidChannelId (hnumbered : manager.Numbered)
    {channelId : ℤ} {info : ChannelInfo}
    (hinfo : manager.channelInfoMap[channelId]? = some info) :
    ChannelManager.isValidChannelId channelId = true := by
  obtain ⟨hlower, hupper⟩ := hnumbered.given channelId info hinfo
  exact isValidChannelId_of_range hlower
    (hupper.le.trans (hnumbered.next info.dataType).2)

theorem Numbered.advance (hnumbered : manager.Numbered)
    {dataType : ChannelDataType} (hroom : manager.HasRoom dataType) :
    (manager.advance dataType).Numbered where
  given := by
    intro channelId info hinfo
    obtain ⟨hlower, hupper⟩ := hnumbered.given channelId info hinfo
    exact ⟨hlower, lt_nextIds_update hupper dataType⟩
  next := nextIds_update_range hnumbered.next hroom

theorem Tracked.advance (htracked : manager.Tracked)
    {dataType : ChannelDataType} (hroom : manager.HasRoom dataType) :
    (manager.advance dataType).Tracked :=
  ⟨htracked.sockets, htracked.known, htracked.named, htracked.once,
    htracked.numbered.advance hroom⟩

section Register

variable {next : ChannelManager} {info : ChannelInfo}
  (htracked : manager.Tracked)
  (hids : next.channelIdMap = manager.channelIdMap)
  (hinfos : next.channelInfoMap = manager.channelInfoMap)
  (hnew : manager.channelInfoMap[info.channelId]? = none)

include hinfos hnew in
theorem getElem?_registerChannel (channelId : ℤ) :
    (next.registerChannel info).channelInfoMap[channelId]? =
      if info.channelId = channelId then some info
      else manager.channelInfoMap[channelId]? := by
  simp only [registerChannel, hinfos]
  exact OrderedMap.getElem?_insertIfNew_eq hnew channelId info

include htracked hnew in
theorem Tracked.not_mem_idsOf (channelName : Text) :
    info.channelId ∉ manager.idsOf channelName := by
  intro hmem
  obtain ⟨found, hexists, -⟩ :=
    (htracked.named info.channelId channelName).mp hmem
  rw [hnew] at hexists
  cases hexists

include hids in
theorem idsOf_registerChannel (channelName : Text) :
    (next.registerChannel info).idsOf channelName =
      if info.channelName = channelName then
        manager.idsOf channelName ++ [info.channelId]
      else manager.idsOf channelName := by
  simp only [idsOf, registerChannel, hids, OrderedMap.getElem?_insert_eq]
  split_ifs with hname
  · rw [hname]
    rfl
  · rfl

include htracked hids hinfos hnew

theorem Tracked.named_registerChannel (channelId : ℤ) (channelName : Text) :
    channelId ∈ (next.registerChannel info).idsOf channelName ↔
      ∃ found,
        (next.registerChannel info).channelInfoMap[channelId]? = some found ∧
          found.channelName = channelName := by
  rw [idsOf_registerChannel hids, getElem?_registerChannel hinfos hnew]
  by_cases hsame : info.channelId = channelId
  · subst hsame
    rw [if_pos rfl]
    split_ifs with hname
    · simp [hname]
    · simp [htracked.not_mem_idsOf hnew channelName, hname]
  · rw [if_neg hsame]
    split_ifs with hname
    · rw [List.mem_append, List.mem_singleton]
      constructor
      · rintro (hold | hnewId)
        · exact (htracked.named channelId channelName).mp hold
        · exact absurd hnewId.symm hsame
      · intro hold
        exact Or.inl ((htracked.named channelId channelName).mpr hold)
    · exact htracked.named channelId channelName

omit hinfos in
theorem Tracked.once_registerChannel (channelName : Text) :
    ((next.registerChannel info).idsOf channelName).Nodup := by
  rw [idsOf_registerChannel hids]
  split_ifs
  · rw [List.nodup_append]
    refine ⟨htracked.once channelName, List.nodup_singleton _, ?_⟩
    intro channelId hmem added hadded hsame
    rw [List.mem_singleton.mp hadded] at hsame
    rw [hsame] at hmem
    exact htracked.not_mem_idsOf hnew channelName hmem
  · exact htracked.once channelName

theorem Tracked.registerChannel
    (hnextIds : next.nextIds = manager.nextIds)
    (hlower : channelIdGap * (info.dataType.index + 1) < info.channelId)
    (hupper : info.channelId < manager.nextIds info.dataType)
    (hknown : ∀ socketId channelId : ℤ,
      next.socketChannelMap[socketId]? = some channelId →
      channelId = info.channelId ∨
        manager.socketChannelMap[socketId]? = some channelId)
    (hsockets : ∀ socketId : ℤ, next.socketChannelMap[socketId]? = none ↔
      next.socketStatusMap[socketId]? = none) :
    (next.registerChannel info).Tracked := by
  have hfound := getElem?_registerChannel hinfos hnew
  refine ⟨hsockets, ?_, htracked.named_registerChannel hids hinfos hnew,
    htracked.once_registerChannel hids hnew, ?_, ?_⟩
  · intro socketId channelId hchannel
    rw [hfound]
    split_ifs with hsame
    · exact ⟨info, rfl⟩
    · rcases hknown socketId channelId hchannel with heq | hold
      · exact absurd heq.symm hsame
      · exact htracked.known socketId channelId hold
  · intro channelId found hexists
    change _ ∧ channelId < next.nextIds found.dataType
    rw [hfound] at hexists
    rw [hnextIds]
    split_ifs at hexists with hsame
    · cases hexists
      rw [← hsame]
      exact ⟨hlower, hupper⟩
    · exact htracked.numbered.given channelId found hexists
  · intro dataType
    change _ < next.nextIds dataType ∧ next.nextIds dataType ≤ _
    rw [hnextIds]
    exact htracked.numbered.next dataType

end Register

theorem lt_nextIds_advance (manager : ChannelManager)
    (dataType : ChannelDataType) :
    manager.nextIds dataType < (manager.advance dataType).nextIds dataType := by
  simp

theorem Tracked.createServerChannel (htracked : manager.Tracked)
    (channelName : Text) (dataType : ChannelDataType)
    (peerInfo : ChannelPeerInfo) :
    (manager.createServerChannel channelName dataType
      peerInfo).2.Tracked := by
  by_cases hroom : manager.HasRoom dataType
  · have hadvanced := htracked.advance hroom
    have hregistered : ((manager.advance dataType).registerChannel
        ⟨manager.nextIds dataType, .unconnected, dataType, channelName,
          peerInfo, [], []⟩).Tracked :=
      hadvanced.registerChannel rfl rfl (htracked.numbered.fresh dataType) rfl
        (htracked.numbered.next dataType).1
        (manager.lt_nextIds_advance dataType) (fun _ _ => .inr)
        hadvanced.sockets
    rw [createServerChannel_eq (htracked.numbered.next dataType).1 hroom]
    exact ⟨hregistered.sockets, hregistered.known, hregistered.named,
      hregistered.once, hregistered.numbered.given, hregistered.numbered.next⟩
  · rw [createServerChannel_full hroom]
    exact htracked

theorem Tracked.createClientChannel (htracked : manager.Tracked)
    (channelName : Text) (dataType : ChannelDataType)
    (peerInfo : ChannelPeerInfo) (socket : ℤ) :
    (manager.createClientChannel channelName dataType peerInfo
      socket).2.Tracked := by
  by_cases hroom : manager.HasRoom dataType
  · have hadvanced := htracked.advance hroom
    have hlower := (htracked.numbered.next dataType).1
    by_cases hfailed : createClientSocket channelName socket ≤ 0
    · rw [createClientChannel_failed hlower hroom channelName peerInfo hfailed]
      exact hadvanced
    · rw [createClientChannel_eq hlower hroom channelName peerInfo hfailed]
      refine hadvanced.registerChannel rfl rfl
        (htracked.numbered.fresh dataType) rfl hlower
        (manager.lt_nextIds_advance dataType) ?_ ?_
      · intro socketId channelId hchannel
        dsimp only at hchannel
        rw [OrderedMap.getElem?_insertIfNew] at hchannel
        split_ifs at hchannel
        · exact .inl (Option.some.inj hchannel).symm
        · exact .inr hchannel
      · intro socketId
        dsimp only
        simp only [OrderedMap.getElem?_insertIfNew,
          ← htracked.sockets socket]
        split_ifs
        · simp
        · exact htracked.sockets socketId
  · rw [createClientChannel_full hroom]
    exact htracked

/-! ## Deleting channels -/

theorem Tracked.idsOf_clearRegisterChannel (htracked : manager.Tracked)
    (channelId : ℤ) (channelName : Text) :
    (manager.clearRegisterChannel channelId).idsOf channelName =
      (manager.idsOf channelName).filter (· ≠ channelId) := by
  unfold ChannelManager.clearRegisterChannel idsOf
  simp only
  generalize hown :
    (manager.channelInfoMap[channelId]?.map (·.channelName)).getD [] = own
  by_cases hname : own = channelName
  · subst hname
    cases hids : manager.channelIdMap[own]? with
    | none => simp [hids]
    | some ids => simp
  · have hother : channelId ∉ manager.channelIdMap[channelName]?.getD [] := by
      intro hmem
      obtain ⟨info, hinfo, hinfoName⟩ :=
        (htracked.named channelId channelName).mp hmem
      rw [hinfo] at hown
      exact hname (hown.symm.trans hinfoName)
    have hsame : (manager.channelIdMap[channelName]?.getD []).filter
        (· ≠ channelId) = manager.channelIdMap[channelName]?.getD [] := by
      rw [List.filter_eq_self]
      intro found hmem
      rw [decide_eq_true_eq]
      rintro rfl
      exact hother hmem
    rw [hsame]
    cases manager.channelIdMap[own]? with
    | none => rfl
    | some ids =>
        simp only [OrderedMap.getElem?_insert_eq, if_neg hname]

theorem getElem?_clearRegisterSocket (channelId socketId : ℤ) :
    (manager.clearRegisterSocket channelId).socketChannelMap[socketId]? =
        (if manager.socketChannelMap[socketId]? = some channelId then none
        else manager.socketChannelMap[socketId]?) ∧
      (manager.clearRegisterSocket channelId).socketStatusMap[socketId]? =
        (if manager.socketChannelMap[socketId]? = some channelId then none
        else manager.socketStatusMap[socketId]?) := by
  have hmem : socketId ∈ manager.socketsOf channelId ↔
      manager.socketChannelMap[socketId]? = some channelId :=
    OrderedMap.mem_keys_filter channelId socketId
  simp only [clearRegisterSocket, OrderedMap.getElem?_foldl_erase, hmem,
    and_self]

section Delete

variable {channelId : ℤ} (hvalid : isValidChannelId channelId = true)

include hvalid

theorem channelInfoMap_deleteChannel (other : ℤ) :
    (manager.deleteChannel channelId).2.channelInfoMap[other]? =
      if channelId = other then none else manager.channelInfoMap[other]? := by
  unfold deleteChannel
  rw [if_pos hvalid]
  exact OrderedMap.getElem?_erase_eq channelId other

theorem socketChannelMap_deleteChannel (socketId : ℤ) :
    (manager.deleteChannel channelId).2.socketChannelMap[socketId]? =
      if manager.socketChannelMap[socketId]? = some channelId then none
      else manager.socketChannelMap[socketId]? := by
  unfold deleteChannel
  rw [if_pos hvalid]
  exact (getElem?_clearRegisterSocket channelId socketId).1

theorem socketStatusMap_deleteChannel (socketId : ℤ) :
    (manager.deleteChannel channelId).2.socketStatusMap[socketId]? =
      if manager.socketChannelMap[socketId]? = some channelId then none
      else manager.socketStatusMap[socketId]? := by
  unfold deleteChannel
  rw [if_pos hvalid]
  exact (getElem?_clearRegisterSocket channelId socketId).2

theorem Tracked.idsOf_deleteChannel (htracked : manager.Tracked)
    (channelName : Text) :
    (manager.deleteChannel channelId).2.idsOf channelName =
      (manager.idsOf channelName).filter (· ≠ channelId) := by
  unfold ChannelManager.deleteChannel
  rw [if_pos hvalid]
  exact htracked.idsOf_clearRegisterChannel channelId channelName

end Delete

theorem deleteChannel_of_invalid {channelId : ℤ}
    (hinvalid : ¬isValidChannelId channelId = true) :
    (manager.deleteChannel channelId).2 = manager := by
  unfold deleteChannel
  rw [if_neg hinvalid]

theorem nextIds_deleteChannel (channelId : ℤ) :
    (manager.deleteChannel channelId).2.nextIds = manager.nextIds := by
  unfold deleteChannel
  split_ifs
  · rfl
  · rfl

theorem Tracked.deleteChannel (htracked : manager.Tracked) (channelId : ℤ) :
    (manager.deleteChannel channelId).2.Tracked := by
  by_cases hvalid : ChannelManager.isValidChannelId channelId = true
  · have hinfos := @channelInfoMap_deleteChannel manager channelId hvalid
    refine ⟨?_, ?_, ?_, ?_, ?_, ?_⟩
    · intro socketId
      rw [socketChannelMap_deleteChannel hvalid,
        socketStatusMap_deleteChannel hvalid]
      split_ifs
      · simp
      · exact htracked.sockets socketId
    · intro socketId other hchannel
      rw [socketChannelMap_deleteChannel hvalid] at hchannel
      rw [hinfos]
      split_ifs at hchannel with hown
      rw [hchannel] at hown
      rw [if_neg (fun hsame => hown (congrArg some hsame.symm))]
      exact htracked.known socketId other hchannel
    · intro other channelName
      rw [htracked.idsOf_deleteChannel hvalid, List.mem_filter, hinfos,
        htracked.named other channelName, decide_eq_true_eq]
      split_ifs with hsame
      · simp [hsame]
      · simp [Ne.symm hsame]
    · intro channelName
      rw [htracked.idsOf_deleteChannel hvalid]
      exact (htracked.once channelName).filter _
    · intro other info hinfo
      rw [hinfos] at hinfo
      rw [nextIds_deleteChannel]
      split_ifs at hinfo
      exact htracked.numbered.given other info hinfo
    · rw [nextIds_deleteChannel]
      exact htracked.numbered.next
  · rw [deleteChannel_of_invalid hvalid]
    exact htracked

theorem deleteChannels_preserves {kept : ChannelManager → Prop}
    (hdelete : ∀ (manager : ChannelManager) channelId, kept manager →
      kept (manager.deleteChannel channelId).2)
    (channelIds : List ℤ) (hkept : kept manager) :
    kept (manager.deleteChannels channelIds) := by
  induction channelIds generalizing manager with
  | nil => exact hkept
  | cons channelId rest ih => exact ih (hdelete manager channelId hkept)

theorem Tracked.deleteChannels (htracked : manager.Tracked)
    (channelIds : List ℤ) : (manager.deleteChannels channelIds).Tracked :=
  deleteChannels_preserves (fun _ channelId htracked =>
    htracked.deleteChannel channelId) channelIds htracked

theorem Tracked.channelInfoMap_deleteChannels (htracked : manager.Tracked)
    (channelIds : List ℤ) (channelId : ℤ) {info : ChannelInfo}
    (hinfo : (manager.deleteChannels channelIds).channelInfoMap[channelId]? =
      some info) :
    manager.channelInfoMap[channelId]? = some info ∧
      channelId ∉ channelIds := by
  induction channelIds generalizing manager with
  | nil => exact ⟨hinfo, List.not_mem_nil⟩
  | cons deleted rest ih =>
      obtain ⟨hleft, hrest⟩ := ih (htracked.deleteChannel deleted) hinfo
      rw [List.mem_cons, not_or]
      by_cases hvalid : isValidChannelId deleted = true
      · rw [channelInfoMap_deleteChannel hvalid] at hleft
        split_ifs at hleft with hsame
        exact ⟨hleft, Ne.symm hsame, hrest⟩
      · rw [deleteChannel_of_invalid hvalid] at hleft
        refine ⟨hleft, ?_, hrest⟩
        rintro rfl
        exact hvalid (htracked.numbered.isValidChannelId hleft)

theorem Tracked.channelInfoMap_deInit (htracked : manager.Tracked)
    (channelId : ℤ) : manager.deInit.channelInfoMap[channelId]? = none := by
  by_contra hsome
  obtain ⟨info, hinfo⟩ := Option.ne_none_iff_exists'.mp hsome
  obtain ⟨hregistered, hleft⟩ :=
    htracked.channelInfoMap_deleteChannels _ channelId hinfo
  apply hleft
  have hmem : channelId ∈ manager.idsOf info.channelName :=
    (htracked.named channelId info.channelName).mpr ⟨info, hregistered, rfl⟩
  unfold idsOf at hmem
  cases hids : manager.channelIdMap[info.channelName]? with
  | none =>
      rw [hids] at hmem
      cases hmem
  | some ids =>
      rw [hids] at hmem
      rw [List.mem_dedup, List.mem_flatMap]
      exact ⟨(info.channelName, ids),
        Std.TreeMap.mem_toList_iff_getElem?_eq_some.mpr hids, hmem⟩

theorem Tracked.deInit (htracked : manager.Tracked) :
    manager.deInit.Tracked := by
  have hdeleted := htracked.deleteChannels
    (manager.channelIdMap.toList.flatMap (·.2)).dedup
  refine ⟨hdeleted.sockets, hdeleted.known, hdeleted.named, hdeleted.once,
    ?_, startIds_range⟩
  intro channelId info hinfo
  rw [htracked.channelInfoMap_deInit] at hinfo
  cases hinfo

/-! ## Sockets -/

section Replace

variable {next : ChannelManager} {channelId : ℤ}
  {info replacement : ChannelInfo}

/-- Replacing a channel by one with other sockets or another status keeps the
records, if only its own sockets are new. -/
theorem Tracked.replaceInfo (htracked : manager.Tracked)
    (hinfo : manager.channelInfoMap[channelId]? = some info)
    (hids : next.channelIdMap = manager.channelIdMap)
    (hinfos : ∀ other : ℤ, next.channelInfoMap[other]? =
      if channelId = other then some replacement
      else manager.channelInfoMap[other]?)
    (hnextIds : next.nextIds = manager.nextIds)
    (hname : replacement.channelName = info.channelName)
    (htype : replacement.dataType = info.dataType)
    (hsockets : ∀ socketId : ℤ, next.socketChannelMap[socketId]? = none ↔
      next.socketStatusMap[socketId]? = none)
    (hknown : ∀ socketId other : ℤ, channelId ≠ other →
      next.socketChannelMap[socketId]? = some other →
      manager.socketChannelMap[socketId]? = some other) :
    next.Tracked := by
  refine ⟨hsockets, ?_, ?_, ?_, ?_, ?_⟩
  · intro socketId other hchannel
    rw [hinfos]
    split_ifs with hsame
    · exact ⟨replacement, rfl⟩
    · exact htracked.known socketId other
        (hknown socketId other hsame hchannel)
  · intro other channelName
    have hold := htracked.named other channelName
    unfold idsOf at hold ⊢
    rw [hids, hinfos, hold]
    split_ifs with hsame
    · rw [← hsame, hinfo]
      simp [hname]
    · rfl
  · intro channelName
    unfold idsOf
    rw [hids]
    exact htracked.once channelName
  · intro other found hfound
    rw [hinfos] at hfound
    rw [hnextIds]
    split_ifs at hfound with hsame
    · cases hfound
      rw [← hsame, htype]
      exact htracked.numbered.given channelId info hinfo
    · exact htracked.numbered.given other found hfound
  · rw [hnextIds]
    exact htracked.numbered.next

end Replace

def withSocket (info : ChannelInfo) (socketId : ℤ) : ChannelInfo :=
  { info with
    clientSockets := info.clientSockets ++ [socketId]
    dataSenderReceivers := info.dataSenderReceivers.insert socketId }

def entered (manager : ChannelManager) (socketId channelId : ℤ)
    (info : ChannelInfo) : ChannelManager :=
  { manager with
    channelInfoMap :=
      manager.channelInfoMap.insert channelId (withSocket info socketId)
    socketChannelMap := manager.socketChannelMap.insert socketId channelId
    socketStatusMap := manager.socketStatusMap.insert socketId .connected }

def withSocketStatus (manager : ChannelManager) (socketId : ℤ)
    (status : ChannelStatus) : ChannelManager :=
  { manager with
    socketStatusMap := manager.socketStatusMap.insert socketId status }

def summarized (manager : ChannelManager) (info : ChannelInfo) : ChannelInfo :=
  { info with
    status :=
      if info.clientSockets.any
          fun socket => manager.getSocketStatus socket = .connected
      then .connected else .unconnected }

section Sockets

variable {socketId channelId : ℤ} {status old : ChannelStatus}
  {info : ChannelInfo}

theorem registerSocket_of_unknown
    (hinfo : manager.channelInfoMap[channelId]? = none) (setFileSchema : ℤ) :
    manager.registerSocket socketId channelId setFileSchema =
      (.invalidChannelId, manager) := by
  unfold registerSocket
  rw [hinfo]

theorem registerSocket_entered
    (hinfo : manager.channelInfoMap[channelId]? = some info)
    (setFileSchema : ℤ) :
    (manager.registerSocket socketId channelId setFileSchema).2 =
      manager.entered socketId channelId info := by
  unfold registerSocket
  rw [hinfo]
  dsimp only
  split_ifs
  · rfl
  · rfl

theorem status_summarized :
    (manager.summarized info).status = .connected ↔
      ∃ socketId ∈ info.clientSockets,
        manager.getSocketStatus socketId = .connected := by
  unfold summarized
  dsimp only
  by_cases hany : info.clientSockets.any
      fun socket => manager.getSocketStatus socket = .connected
  · rw [if_pos hany]
    simpa using hany
  · rw [if_neg hany]
    simpa using hany

theorem updateChannelStatus_eq
    (hinfo : manager.channelInfoMap[channelId]? = some info) :
    manager.updateChannelStatus channelId =
      (.errOk, { manager with
        channelInfoMap := manager.channelInfoMap.insert channelId
          (manager.summarized info) }) := by
  unfold updateChannelStatus
  rw [hinfo]
  rfl

theorem setSocketStatus_eq
    (hstatus : manager.socketStatusMap[socketId]? = some old)
    (hchannel : manager.socketChannelMap[socketId]? = some channelId)
    (hinfo : manager.channelInfoMap[channelId]? = some info) :
    manager.setSocketStatus socketId status =
      (.errOk, { manager.withSocketStatus socketId status with
        channelInfoMap := manager.channelInfoMap.insert channelId
          ((manager.withSocketStatus socketId status).summarized info) }) := by
  unfold setSocketStatus
  rw [hstatus]
  dsimp only
  rw [hchannel]
  exact @updateChannelStatus_eq (manager.withSocketStatus socketId status)
    channelId info hinfo

theorem Tracked.setSocketStatus_cases (htracked : manager.Tracked)
    (socketId : ℤ) (status : ChannelStatus) :
    (manager.socketChannelMap[socketId]? = none ∧
        manager.setSocketStatus socketId status =
          (.invalidSocketId, manager)) ∨
      ∃ channelId info,
        manager.socketChannelMap[socketId]? = some channelId ∧
          manager.channelInfoMap[channelId]? = some info ∧
          manager.setSocketStatus socketId status =
            (.errOk, { manager.withSocketStatus socketId status with
              channelInfoMap := manager.channelInfoMap.insert channelId
                ((manager.withSocketStatus socketId
                  status).summarized info) }) := by
  cases hchannel : manager.socketChannelMap[socketId]? with
  | none =>
      refine .inl ⟨rfl, ?_⟩
      unfold setSocketStatus
      rw [(htracked.sockets socketId).mp hchannel]
  | some channelId =>
      obtain ⟨info, hinfo⟩ := htracked.known socketId channelId hchannel
      obtain ⟨old, hstatus⟩ :=
        Option.ne_none_iff_exists'.mp fun hnone => by
          rw [(htracked.sockets socketId).mpr hnone] at hchannel
          cases hchannel
      exact .inr ⟨channelId, info, rfl, hinfo,
        setSocketStatus_eq hstatus hchannel hinfo⟩

end Sockets

theorem Tracked.registerSocket (htracked : manager.Tracked)
    (socketId channelId setFileSchema : ℤ) :
    (manager.registerSocket socketId channelId setFileSchema).2.Tracked := by
  cases hinfo : manager.channelInfoMap[channelId]? with
  | none =>
      rw [registerSocket_of_unknown hinfo]
      exact htracked
  | some info =>
      rw [registerSocket_entered hinfo]
      refine htracked.replaceInfo hinfo rfl
        (fun other => OrderedMap.getElem?_insert_eq channelId other _) rfl
        rfl rfl ?_ ?_
      · intro other
        simp only [entered, OrderedMap.getElem?_insert_eq]
        split_ifs
        · simp
        · exact htracked.sockets other
      · intro other otherChannel hdiffers hchannel
        simp only [entered, OrderedMap.getElem?_insert_eq] at hchannel
        split_ifs at hchannel
        · exact absurd (Option.some.inj hchannel) hdiffers
        · exact hchannel

theorem Tracked.setSocketStatus (htracked : manager.Tracked) (socketId : ℤ)
    (status : ChannelStatus) :
    (manager.setSocketStatus socketId status).2.Tracked := by
  rcases htracked.setSocketStatus_cases socketId status with
    ⟨-, hset⟩ | ⟨channelId, info, hchannel, hinfo, hset⟩
  · rw [hset]
    exact htracked
  · rw [hset]
    refine htracked.replaceInfo hinfo rfl
      (fun other => OrderedMap.getElem?_insert_eq channelId other _) rfl rfl
      rfl ?_ (fun _ _ _ => id)
    intro other
    simp only [withSocketStatus, OrderedMap.getElem?_insert_eq]
    split_ifs with hsame
    · rw [← hsame, hchannel]
      simp
    · exact htracked.sockets other

section Preserves

variable {kept : ChannelManager → Prop}
  (hset : ∀ (manager : ChannelManager) socketId status, kept manager →
    kept (manager.setSocketStatus socketId status).2)
  (hdelete : ∀ (manager : ChannelManager) channelId, kept manager →
    kept (manager.deleteChannel channelId).2)

include hset

theorem updateChannel_preserves (socketId channelId setFileSchema : ℤ)
    (hregistered : kept
      (manager.registerSocket socketId channelId setFileSchema).2) :
    kept (manager.updateChannel socketId channelId setFileSchema).2 := by
  unfold updateChannel
  split
  · next next hresult =>
      rw [hresult] at hregistered
      exact hset next socketId .connected hregistered
  · exact hregistered

theorem bindSocket_preserves (socketId : ℤ) (dataType : ChannelDataType)
    (bind setFileSchema : ℤ) (hkept : kept manager) :
    kept (manager.bindSocket socketId dataType bind setFileSchema).2 := by
  unfold bindSocket
  split_ifs
  · exact hkept
  · exact hkept
  · exact hset manager socketId .connected hkept

include hdelete

theorem onSocketClosed_preserves (socketId : ℤ) (hkept : kept manager) :
    kept (manager.onSocketClosed socketId) := by
  have hclosed := hset manager socketId .unconnected hkept
  unfold onSocketClosed
  dsimp only
  split_ifs
  · exact hkept
  · exact hkept
  · split
    · next next hresult =>
        rw [hresult] at hclosed
        split_ifs
        · exact hdelete next _ hclosed
        · exact hclosed
    · next next _ hresult =>
        rw [hresult] at hclosed
        exact hclosed

end Preserves

theorem Tracked.step (htracked : manager.Tracked) (event : ChannelEvent) :
    (manager.step event).2.Tracked := by
  cases event with
  | createServerChannel channelName dataType peerInfo =>
      exact htracked.createServerChannel channelName dataType peerInfo
  | createClientChannel channelName dataType peerInfo socket =>
      exact htracked.createClientChannel channelName dataType peerInfo socket
  | deleteChannel channelId => exact htracked.deleteChannel channelId
  | bindSocket socketId dataType bind setFileSchema =>
      exact bindSocket_preserves
        (fun _ socketId status htracked =>
          htracked.setSocketStatus socketId status) socketId dataType bind
        setFileSchema htracked
  | updateChannel socketId channelId setFileSchema =>
      exact updateChannel_preserves
        (fun _ socketId status htracked =>
          htracked.setSocketStatus socketId status)
        socketId channelId setFileSchema
        (htracked.registerSocket socketId channelId setFileSchema)
  | onSocketClosed socketId =>
      exact onSocketClosed_preserves
        (fun _ socketId status htracked =>
          htracked.setSocketStatus socketId status)
        (fun _ channelId htracked => htracked.deleteChannel channelId)
        socketId htracked
  | deInit => exact htracked.deInit

end Operations

theorem tracked_run (ownerName : Text) (events : List ChannelEvent) :
    (EventRun.run step (initial ownerName) events).2.Tracked :=
  EventRun.run_invariant (fun _ event htracked => htracked.step event) events
    (tracked_initial ownerName)

end ChannelManager

end Dmsfwk
