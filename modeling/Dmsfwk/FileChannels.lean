import Dmsfwk.ChannelRecords

/-!
# The channel that is asked for receive paths

Softbus asks for the path of a file before its socket has a channel, so the
manager keeps the id of one channel that stands for all file channels.  Every
server channel is stored there, whatever its data type, and deleting the channel
does not reset it.
-/

namespace Dmsfwk
namespace ChannelManager

open EventRun

inductive FileEventType where
  | sendProcess
  | sendFinish
  | sendError
  | recvStart
  | recvFinish
  | recvProcess
  | recvError
  | recvUpdatePath
  | butt
  deriving DecidableEq, Repr

/-- The channel to which `OnFileEventReceived` dispatches an event. -/
def onFileEventReceived (manager : ChannelManager) (socketId : ℤ)
    (type : FileEventType) : Option ℤ :=
  if socketId ≤ 0 then none
  else if type = .recvUpdatePath then some manager.fileChannelId
  else
    let channelId := manager.getSocketChannelId socketId
    if isValidChannelId channelId then some channelId else none

inductive FileChannelEvent where
  | createServerChannel (channelName : Text) (dataType : ChannelDataType)
      (peerInfo : ChannelPeerInfo)
  | createClientChannel (channelName : Text) (dataType : ChannelDataType)
      (peerInfo : ChannelPeerInfo) (socket : ℤ)
  | deleteChannel (channelId : ℤ)

def fileStep (manager : ChannelManager) :
    FileChannelEvent → ℤ × ChannelManager
  | .createServerChannel channelName dataType peerInfo =>
      manager.createServerChannel channelName dataType peerInfo
  | .createClientChannel channelName dataType peerInfo socket =>
      manager.createClientChannel channelName dataType peerInfo socket
  | .deleteChannel channelId => manager.deleteChannel channelId

/-! ## What should be asked -/

/-- The live server channels with their data types, after a step that returned
`ret`. -/
def serversAfter (servers : Set (ℤ × ChannelDataType))
    (event : FileChannelEvent) (ret : ℤ) : Set (ℤ × ChannelDataType) :=
  match event with
  | .createServerChannel _ dataType _ =>
      if isValidChannelId ret then insert (ret, dataType) servers else servers
  | .createClientChannel _ _ _ _ => servers
  | .deleteChannel channelId =>
      if isValidChannelId ret then { server ∈ servers | server.1 ≠ channelId }
      else servers

def fileTrackedStep (tracked : ChannelManager × Set (ℤ × ChannelDataType))
    (event : FileChannelEvent) :
    ℤ × ChannelManager × Set (ℤ × ChannelDataType) :=
  let stepped := tracked.1.fileStep event
  (stepped.1, stepped.2, serversAfter tracked.2 event stepped.1)

/-- While there is a server channel for files, the stored one is. -/
def FileChannelRight (tracked : ChannelManager × Set (ℤ × ChannelDataType)) :
    Prop :=
  (∃ channelId, (channelId, .file) ∈ tracked.2) →
    (tracked.1.fileChannelId, .file) ∈ tracked.2

/-- A server channel for other data is created while there is none for files,
and the stored channel is deleted while there is no other one for files. -/
def FileEventSound (tracked : ChannelManager × Set (ℤ × ChannelDataType)) :
    FileChannelEvent → Prop
  | .createServerChannel _ dataType _ =>
      dataType ≠ .file → tracked.1.HasRoom dataType →
        ∀ channelId, (channelId, .file) ∉ tracked.2
  | .createClientChannel _ _ _ _ => True
  | .deleteChannel channelId =>
      channelId = tracked.1.fileChannelId →
        ∀ other, (other, .file) ∈ tracked.2 → other = channelId

variable {channelId : ℤ}

structure ServersKnown (tracked : ChannelManager × Set (ℤ × ChannelDataType)) :
    Prop where
  records : tracked.1.Tracked
  known : ∀ server ∈ tracked.2,
    tracked.1.channelInfoMap[server.1]? ≠ none

section Steps

variable {tracked : ChannelManager × Set (ℤ × ChannelDataType)}

theorem ServersKnown.fresh (hknown : ServersKnown tracked)
    (dataType other : ChannelDataType) :
    (tracked.1.nextIds dataType, other) ∉ tracked.2 := fun hmem =>
  hknown.known _ hmem (hknown.records.numbered.fresh dataType)

theorem ServersKnown.isValidChannelId (hknown : ServersKnown tracked)
    {server : ℤ × ChannelDataType} (hmem : server ∈ tracked.2) :
    ChannelManager.isValidChannelId server.1 = true := by
  obtain ⟨info, hinfo⟩ :=
    Option.ne_none_iff_exists'.mp (hknown.known server hmem)
  exact hknown.records.numbered.isValidChannelId hinfo

theorem fileTrackedStep_created (hknown : ServersKnown tracked)
    {dataType : ChannelDataType} (hroom : tracked.1.HasRoom dataType)
    (channelName : Text) (peerInfo : ChannelPeerInfo) :
    (fileTrackedStep tracked
        (.createServerChannel channelName dataType peerInfo)).2.2 =
        insert (tracked.1.nextIds dataType, dataType) tracked.2 ∧
      (fileTrackedStep tracked (.createServerChannel channelName dataType
        peerInfo)).2.1.fileChannelId = tracked.1.nextIds dataType := by
  have hlower := (hknown.records.numbered.next dataType).1
  have hvalid := isValidChannelId_of_range hlower hroom.le
  dsimp only [fileTrackedStep, fileStep, serversAfter]
  rw [createServerChannel_eq hlower hroom, if_pos hvalid]
  exact ⟨rfl, rfl⟩

theorem fileTrackedStep_full {dataType : ChannelDataType}
    (hfull : ¬ tracked.1.HasRoom dataType) (channelName : Text)
    (peerInfo : ChannelPeerInfo) :
    (fileTrackedStep tracked
      (.createServerChannel channelName dataType peerInfo)).2 = tracked := by
  dsimp only [fileTrackedStep, fileStep, serversAfter]
  have hinvalid :
      ¬ isValidChannelId CollabErr.createServerChannelFailed.code = true := by
    decide
  rw [createServerChannel_full hfull, if_neg hinvalid]

theorem channelInfoMap_registerChannel_ne_none {manager : ChannelManager}
    (info : ChannelInfo) (hchannel : manager.channelInfoMap[channelId]? ≠ none) :
    (manager.registerChannel info).channelInfoMap[channelId]? ≠ none := by
  rw [registerChannel, OrderedMap.getElem?_insertIfNew]
  split_ifs
  · exact Option.some_ne_none info
  · exact hchannel

theorem createClientChannel_keeps {manager : ChannelManager}
    (hnumbered : manager.Numbered) (channelName : Text)
    (dataType : ChannelDataType) (peerInfo : ChannelPeerInfo) (socket : ℤ) :
    (manager.createClientChannel channelName dataType peerInfo
        socket).2.fileChannelId = manager.fileChannelId ∧
      ∀ channelId : ℤ, manager.channelInfoMap[channelId]? ≠ none →
        (manager.createClientChannel channelName dataType peerInfo
          socket).2.channelInfoMap[channelId]? ≠ none := by
  by_cases hroom : manager.HasRoom dataType
  · have hlower := (hnumbered.next dataType).1
    by_cases hcreated : createClientSocket channelName socket ≤ 0
    · rw [createClientChannel_failed hlower hroom channelName peerInfo hcreated]
      exact ⟨rfl, fun _ => id⟩
    · rw [createClientChannel_eq hlower hroom channelName peerInfo hcreated]
      exact ⟨rfl, fun _ => channelInfoMap_registerChannel_ne_none _⟩
  · rw [createClientChannel_full hroom]
    exact ⟨rfl, fun _ => id⟩

theorem fileChannelId_deleteChannel (manager : ChannelManager) (channelId : ℤ) :
    (manager.deleteChannel channelId).2.fileChannelId =
      manager.fileChannelId := by
  unfold deleteChannel
  split_ifs <;> rfl

theorem fileTrackedStep_deleted (hvalid : isValidChannelId channelId = true) :
    (fileTrackedStep tracked (.deleteChannel channelId)).2.2 =
      { server ∈ tracked.2 | server.1 ≠ channelId } := by
  dsimp only [fileTrackedStep, fileStep, serversAfter]
  rw [deleteChannel, if_pos hvalid]
  exact if_pos hvalid

theorem fileTrackedStep_invalid (hinvalid : ¬ isValidChannelId channelId = true) :
    (fileTrackedStep tracked (.deleteChannel channelId)).2 = tracked := by
  dsimp only [fileTrackedStep, fileStep, serversAfter]
  have hcode : ¬ isValidChannelId CollabErr.invalidChannelId.code = true := by
    decide
  rw [deleteChannel, if_neg hinvalid, if_neg hcode]

theorem fileChannelRight_step_iff (hknown : ServersKnown tracked)
    (hright : FileChannelRight tracked) (event : FileChannelEvent) :
    FileChannelRight (fileTrackedStep tracked event).2 ↔
      FileEventSound tracked event := by
  cases event with
  | createServerChannel channelName dataType peerInfo =>
      by_cases hroom : tracked.1.HasRoom dataType
      · obtain ⟨hservers, hstored⟩ :=
          fileTrackedStep_created hknown hroom channelName peerInfo
        rw [FileChannelRight, hservers, hstored, FileEventSound,
          imp_iff_right hroom]
        constructor
        · intro hnext htype channelId hlive
          rcases hnext ⟨channelId, Or.inr hlive⟩ with hnew | hold
          · exact htype (Prod.mk.inj hnew).2.symm
          · exact hknown.fresh dataType .file hold
        · intro hnone
          by_cases htype : dataType = .file
          · exact fun _ => Or.inl (by rw [htype])
          · rintro ⟨channelId, hnew | hlive⟩
            · exact absurd (Prod.mk.inj hnew).2.symm htype
            · exact absurd hlive (hnone htype channelId)
      · rw [fileTrackedStep_full hroom]
        exact iff_of_true hright fun _ h => absurd h hroom
  | createClientChannel channelName dataType peerInfo socket =>
      refine iff_of_true ?_ trivial
      intro hlive
      dsimp only [fileTrackedStep, fileStep]
      rw [(createClientChannel_keeps hknown.records.numbered channelName dataType
        peerInfo socket).1]
      exact hright hlive
  | deleteChannel channelId =>
      by_cases hvalid : isValidChannelId channelId = true
      · rw [FileChannelRight, fileTrackedStep_deleted hvalid]
        dsimp only [fileTrackedStep, fileStep, FileEventSound]
        rw [fileChannelId_deleteChannel]
        constructor
        · rintro hnext rfl other hlive
          by_contra hother
          exact (hnext ⟨other, hlive, hother⟩).2 rfl
        · rintro honly ⟨other, hlive, hother⟩
          refine ⟨hright ⟨other, hlive⟩, ?_⟩
          intro hstored
          exact hother (honly hstored.symm other hlive)
      · rw [fileTrackedStep_invalid hvalid]
        refine iff_of_true hright ?_
        rintro rfl other hlive
        exact absurd (hknown.isValidChannelId (hright ⟨other, hlive⟩)) hvalid

theorem ServersKnown.step (hknown : ServersKnown tracked)
    (event : FileChannelEvent) :
    ServersKnown (fileTrackedStep tracked event).2 := by
  cases event with
  | createServerChannel channelName dataType peerInfo =>
      have hrecords :=
        hknown.records.createServerChannel channelName dataType peerInfo
      by_cases hroom : tracked.1.HasRoom dataType
      · obtain ⟨hservers, -⟩ :=
          fileTrackedStep_created hknown hroom channelName peerInfo
        have hlower := (hknown.records.numbered.next dataType).1
        refine ⟨hrecords, ?_⟩
        rw [hservers]
        dsimp only [fileTrackedStep, fileStep]
        rw [createServerChannel_eq hlower hroom]
        rintro server (rfl | hmem)
        · dsimp only [registerChannel]
          rw [OrderedMap.getElem?_insertIfNew,
            if_pos ⟨rfl, hknown.records.numbered.fresh dataType⟩]
          exact Option.some_ne_none _
        · exact channelInfoMap_registerChannel_ne_none _
            (hknown.known server hmem)
      · rw [fileTrackedStep_full hroom]
        exact hknown
  | createClientChannel channelName dataType peerInfo socket =>
      refine ⟨hknown.records.createClientChannel channelName dataType peerInfo
        socket, ?_⟩
      intro server hmem
      exact (createClientChannel_keeps hknown.records.numbered channelName
        dataType peerInfo socket).2 server.1 (hknown.known server hmem)
  | deleteChannel channelId =>
      by_cases hvalid : ChannelManager.isValidChannelId channelId = true
      · refine ⟨hknown.records.deleteChannel channelId, ?_⟩
        rw [fileTrackedStep_deleted hvalid]
        rintro server ⟨hmem, hother⟩
        dsimp only [fileTrackedStep, fileStep]
        rw [channelInfoMap_deleteChannel hvalid, if_neg (Ne.symm hother)]
        exact hknown.known server hmem
      · rw [fileTrackedStep_invalid hvalid]
        exact hknown

end Steps

/-! ## Runs -/

/-- The stored channel is right in every state on the way of exactly the runs
whose steps are sound. -/
theorem fileChannelRight_run_iff (ownerName : Text)
    (events : List FileChannelEvent) :
    (∀ first, first <+: events → FileChannelRight
        (run fileTrackedStep (initial ownerName, ∅) first).2) ↔
      Meets fileTrackedStep FileEventSound (initial ownerName, ∅) events := by
  have hknown : ServersKnown (initial ownerName, ∅) :=
    ⟨tracked_initial ownerName, fun _ hmem => absurd hmem (by simp)⟩
  have hright : FileChannelRight (initial ownerName, ∅) := by
    rintro ⟨_, hmem⟩
    exact absurd hmem (by simp)
  refine forall_prefix_iff ?_ ?_ events hknown hright
  · intro _ event hknown hright
    exact fileChannelRight_step_iff hknown hright event
  · intro _ event hknown _ _
    exact hknown.step event

/-- A file channel, and then a message channel of the next session. -/
theorem not_fileChannelRight_twoSessions :
    ¬ ∀ first, first <+: ([.createServerChannel ['a'] .file ⟨[], []⟩,
        .createServerChannel ['b'] .message ⟨[], []⟩] :
          List FileChannelEvent) →
      FileChannelRight (run fileTrackedStep (initial [], ∅) first).2 := by
  intro hall
  have hservers : (run fileTrackedStep (initial [], ∅)
      [.createServerChannel ['a'] .file ⟨[], []⟩,
        .createServerChannel ['b'] .message ⟨[], []⟩]).2.2 =
      insert (1001, .message) (insert (4001, .file) ∅) := rfl
  have hright := hall _ List.prefix_rfl
  rw [FileChannelRight, hservers] at hright
  rcases hright ⟨4001, Or.inr (Or.inl rfl)⟩ with hstored | hstored | hstored
  · exact absurd (Prod.mk.inj hstored).2 (by decide)
  · exact absurd (Prod.mk.inj hstored).1 (by decide)
  · exact hstored

end ChannelManager

end Dmsfwk
