import Dmsfwk.ChannelConsistency

/-!
# Binding an incoming socket

`RegisterSocket` enters a socket into three maps before it sets the file schema,
and does not take it out again when that fails.  The status of a channel is a
summary of its sockets, which `UpdateChannel` computes only after the
registration succeeded.
-/

namespace Dmsfwk
namespace ChannelManager

/-! ## All or nothing -/

def BindsSocket (manager : ChannelManager) (socketId channelId : ℤ) : Prop :=
  manager.socketChannelMap[socketId]? = some channelId ∧
    manager.socketStatusMap[socketId]? = some .connected ∧
    ∃ info, manager.channelInfoMap[channelId]? = some info ∧
      socketId ∈ info.clientSockets ∧ info.status = .connected

def SameMaps (manager next : ChannelManager) : Prop :=
  next.channelInfoMap = manager.channelInfoMap ∧
    next.socketChannelMap = manager.socketChannelMap ∧
    next.socketStatusMap = manager.socketStatusMap

def BindsOrLeaves (manager : ChannelManager)
    (socketId channelId setFileSchema : ℤ) : Prop :=
  let result := manager.updateChannel socketId channelId setFileSchema
  (result.1 = .errOk ∧ result.2.BindsSocket socketId channelId) ∨
    (result.1 ≠ .errOk ∧ manager.SameMaps result.2)

def SetsSchema (manager : ChannelManager) (channelId setFileSchema : ℤ) :
    Prop :=
  ∀ info, manager.channelInfoMap[channelId]? = some info →
    info.dataType = .file → setFileSchema = 0

section Binding

variable {manager : ChannelManager} {socketId channelId setFileSchema : ℤ}
  {info : ChannelInfo}

theorem updateChannel_of_unknown
    (hinfo : manager.channelInfoMap[channelId]? = none) :
    manager.updateChannel socketId channelId setFileSchema =
      (.invalidChannelId, manager) := by
  unfold updateChannel
  rw [registerSocket_of_unknown hinfo]

theorem updateChannel_of_schema_failed
    (hinfo : manager.channelInfoMap[channelId]? = some info)
    (hfile : info.dataType = .file) (hschema : setFileSchema ≠ 0) :
    manager.updateChannel socketId channelId setFileSchema =
      (.registerFileSchemaFailed, manager.entered socketId channelId info) := by
  unfold updateChannel registerSocket
  rw [hinfo]
  dsimp only
  rw [if_pos ⟨hfile, hschema⟩]
  rfl

theorem registerSocket_of_setsSchema
    (hinfo : manager.channelInfoMap[channelId]? = some info)
    (hsets : manager.SetsSchema channelId setFileSchema) :
    manager.registerSocket socketId channelId setFileSchema =
      (.errOk, manager.entered socketId channelId info) := by
  unfold registerSocket
  rw [hinfo]
  dsimp only
  rw [if_neg (fun h => h.2 (hsets info hinfo h.1))]
  rfl

theorem updateChannel_of_setsSchema
    (hinfo : manager.channelInfoMap[channelId]? = some info)
    (hsets : manager.SetsSchema channelId setFileSchema) :
    manager.updateChannel socketId channelId setFileSchema =
      (manager.entered socketId channelId info).setSocketStatus socketId
        .connected := by
  unfold updateChannel
  rw [registerSocket_of_setsSchema hinfo hsets]

end Binding

/-! ## The status of a channel -/

section Status

variable {manager : ChannelManager} {socketId channelId setFileSchema : ℤ}
  {status old : ChannelStatus} {info : ChannelInfo}

theorem bindsSocket_updateChannel
    (hinfo : manager.channelInfoMap[channelId]? = some info)
    (hsets : manager.SetsSchema channelId setFileSchema) :
    (manager.updateChannel socketId channelId setFileSchema).1 = .errOk ∧
      (manager.updateChannel socketId channelId setFileSchema).2.BindsSocket
        socketId channelId := by
  have hbound := @setSocketStatus_eq
    (manager.entered socketId channelId info) socketId channelId .connected
    .connected (withSocket info socketId) Std.TreeMap.getElem?_insert_self
    Std.TreeMap.getElem?_insert_self Std.TreeMap.getElem?_insert_self
  have hmem : socketId ∈ (withSocket info socketId).clientSockets :=
    List.mem_append_right _ (List.mem_singleton_self socketId)
  rw [updateChannel_of_setsSchema hinfo hsets, hbound]
  refine ⟨rfl, Std.TreeMap.getElem?_insert_self,
    Std.TreeMap.getElem?_insert_self, _, Std.TreeMap.getElem?_insert_self,
    hmem, status_summarized.mpr ⟨socketId, hmem, ?_⟩⟩
  unfold getSocketStatus withSocketStatus
  rw [Std.TreeMap.getElem?_insert_self]
  rfl

theorem bindsOrLeaves_iff
    (hfresh : manager.socketChannelMap[socketId]? = none) :
    manager.BindsOrLeaves socketId channelId setFileSchema ↔
      manager.SetsSchema channelId setFileSchema := by
  constructor
  · intro hbinds info hinfo hfile
    by_contra hschema
    unfold BindsOrLeaves at hbinds
    rw [updateChannel_of_schema_failed hinfo hfile hschema] at hbinds
    rcases hbinds with ⟨herr, -⟩ | ⟨-, -, hsockets, -⟩
    · cases herr
    · have hentered :
          (manager.socketChannelMap.insert socketId channelId)[socketId]? =
            some channelId := Std.TreeMap.getElem?_insert_self
      have hsame : manager.socketChannelMap.insert socketId channelId =
          manager.socketChannelMap := hsockets
      rw [hsame, hfresh] at hentered
      cases hentered
  · intro hsets
    unfold BindsOrLeaves
    cases hinfo : manager.channelInfoMap[channelId]? with
    | none =>
        rw [updateChannel_of_unknown hinfo]
        exact .inr ⟨nofun, rfl, rfl, rfl⟩
    | some info => exact .inl (bindsSocket_updateChannel hinfo hsets)

/-! ## Agreement of the statuses -/

def StatusAt (manager : ChannelManager) (channelId : ℤ) : Prop :=
  ∀ info, manager.channelInfoMap[channelId]? = some info →
    (info.status = .connected ↔ ∃ socketId ∈ info.clientSockets,
      manager.socketStatusMap[socketId]? = some .connected)

def StatusAgrees (manager : ChannelManager) : Prop :=
  ∀ channelId, manager.StatusAt channelId

theorem StatusAt.of_same {next : ChannelManager}
    (hstatus : manager.StatusAt channelId)
    (hinfo : next.channelInfoMap[channelId]? =
      manager.channelInfoMap[channelId]?)
    (hsockets : ∀ info, manager.channelInfoMap[channelId]? = some info →
      ∀ socketId ∈ info.clientSockets,
        next.socketStatusMap[socketId]? = manager.socketStatusMap[socketId]?) :
    next.StatusAt channelId := by
  intro info hfound
  rw [hinfo] at hfound
  rw [hstatus info hfound]
  constructor
  · rintro ⟨socketId, hmem, hconnected⟩
    exact ⟨socketId, hmem, (hsockets info hfound socketId hmem).trans hconnected⟩
  · rintro ⟨socketId, hmem, hconnected⟩
    exact ⟨socketId, hmem,
      (hsockets info hfound socketId hmem).symm.trans hconnected⟩

theorem getSocketStatus_iff
    (hknown : manager.socketStatusMap[socketId]? ≠ none) :
    manager.getSocketStatus socketId = .connected ↔
      manager.socketStatusMap[socketId]? = some .connected := by
  unfold getSocketStatus
  cases hstatus : manager.socketStatusMap[socketId]? with
  | none => exact absurd hstatus hknown
  | some status => simp

theorem Agree.status_known (hagree : manager.Agree)
    (hinfo : manager.channelInfoMap[channelId]? = some info)
    (hmem : socketId ∈ info.clientSockets) :
    manager.socketStatusMap[socketId]? ≠ none := by
  have hchannel := (hagree.socketChannelMap_iff hinfo socketId).mpr hmem
  rw [ne_eq, ← hagree.sockets socketId, hchannel]
  exact nofun

theorem withSocketStatus_known {socket : ℤ}
    (hknown : manager.socketStatusMap[socket]? ≠ none) :
    (manager.withSocketStatus socketId status).socketStatusMap[socket]? ≠
      none := by
  unfold withSocketStatus
  rw [OrderedMap.getElem?_insert_eq]
  split_ifs
  · exact nofun
  · exact hknown

theorem Kept.statusAgrees_setSocketStatus (hkept : manager.Kept)
    (hothers : ∀ other, manager.socketChannelMap[socketId]? ≠ some other →
      manager.StatusAt other) :
    (manager.setSocketStatus socketId status).2.StatusAgrees := by
  rcases hkept.tracked.setSocketStatus_cases socketId status with
    ⟨hfree, hset⟩ | ⟨channelId, info, hchannel, hinfo, hset⟩
  · rw [hset]
    intro other
    exact hothers other (by rw [hfree]; exact nofun)
  · rw [hset]
    intro other
    by_cases hsame : channelId = other
    · subst hsame
      intro found hfound
      obtain rfl : _ = found :=
        Option.some.inj (Std.TreeMap.getElem?_insert_self.symm.trans hfound)
      rw [status_summarized]
      refine exists_congr fun socket => and_congr_right fun hmem => ?_
      apply getSocketStatus_iff
      exact withSocketStatus_known (hkept.agree.status_known hinfo hmem)
    · refine (hothers other ?_).of_same ?_ ?_
      · rw [hchannel]
        exact fun h => hsame (Option.some.inj h)
      · exact (OrderedMap.getElem?_insert_eq channelId other _).trans
          (if_neg hsame)
      · intro found hfound socket hmem
        have hown := (hkept.agree.socketChannelMap_iff hfound socket).mpr hmem
        refine (OrderedMap.getElem?_insert_eq socketId socket _).trans
          (if_neg ?_)
        rintro rfl
        exact hsame (Option.some.inj (hchannel.symm.trans hown))

theorem StatusAgrees.registerChannel (hagrees : manager.StatusAgrees)
    {next : ChannelManager}
    (hinfos : next.channelInfoMap = manager.channelInfoMap)
    (hnew : manager.channelInfoMap[info.channelId]? = none)
    (hstatus : info.status = .unconnected)
    (hsockets : ∀ socketId ∈ info.clientSockets,
      next.socketStatusMap[socketId]? = some .unconnected)
    (hothers : ∀ (channelId : ℤ) found,
      manager.channelInfoMap[channelId]? = some found →
      ∀ socketId ∈ found.clientSockets,
        next.socketStatusMap[socketId]? = manager.socketStatusMap[socketId]?) :
    (next.registerChannel info).StatusAgrees := by
  have hfound := getElem?_registerChannel hinfos hnew
  intro channelId
  by_cases hsame : info.channelId = channelId
  · intro found hregistered
    rw [hfound, if_pos hsame] at hregistered
    obtain rfl := Option.some.inj hregistered
    rw [hstatus]
    refine iff_of_false nofun ?_
    rintro ⟨socketId, hmem, hconnected⟩
    have hunconnected := hsockets socketId hmem
    rw [show next.socketStatusMap[socketId]? = some .connected from hconnected]
      at hunconnected
    cases hunconnected
  · refine (hagrees channelId).of_same ?_ (hothers channelId)
    rw [hfound, if_neg hsame]

section Kept

variable (hkept : manager.Kept) (hagrees : manager.StatusAgrees)

include hkept hagrees

theorem Kept.statusAgrees_createServerChannel (channelName : Text)
    (dataType : ChannelDataType) (peerInfo : ChannelPeerInfo) :
    (manager.createServerChannel channelName dataType
      peerInfo).2.StatusAgrees := by
  by_cases hroom : manager.HasRoom dataType
  · have hregistered : ((manager.advance dataType).registerChannel
        ⟨manager.nextIds dataType, .unconnected, dataType, channelName,
          peerInfo, [], []⟩).StatusAgrees :=
      hagrees.registerChannel rfl (hkept.numbered.fresh dataType) rfl
        (by simp) (fun _ _ _ _ _ => rfl)
    rw [createServerChannel_eq (hkept.numbered.next dataType).1 hroom]
    exact hregistered
  · rw [createServerChannel_full hroom]
    exact hagrees

theorem Kept.statusAgrees_createClientChannel (channelName : Text)
    (dataType : ChannelDataType) (peerInfo : ChannelPeerInfo) {socket : ℤ}
    (hfresh : manager.socketChannelMap[socket]? = none) :
    (manager.createClientChannel channelName dataType peerInfo
      socket).2.StatusAgrees := by
  by_cases hroom : manager.HasRoom dataType
  · have hlower := (hkept.numbered.next dataType).1
    by_cases hfailed : createClientSocket channelName socket ≤ 0
    · rw [createClientChannel_failed hlower hroom channelName peerInfo hfailed]
      exact hagrees
    · have hstatus : manager.socketStatusMap[socket]? = none :=
        (hkept.agree.sockets socket).mp hfresh
      rw [createClientChannel_eq hlower hroom channelName peerInfo hfailed]
      refine hagrees.registerChannel rfl (hkept.numbered.fresh dataType) rfl
        ?_ ?_
      · intro socketId hmem
        rw [List.mem_singleton.mp hmem]
        exact (OrderedMap.getElem?_insertIfNew_eq hstatus socket _).trans
          (if_pos rfl)
      · intro channelId found hfound socketId hmem
        refine (OrderedMap.getElem?_insertIfNew_eq hstatus socketId _).trans
          (if_neg ?_)
        rintro rfl
        exact hkept.agree.status_known hfound hmem hstatus
  · rw [createClientChannel_full hroom]
    exact hagrees

theorem Kept.statusAgrees_deleteChannel (channelId : ℤ) :
    (manager.deleteChannel channelId).2.StatusAgrees := by
  by_cases hvalid : ChannelManager.isValidChannelId channelId = true
  · have hinfos := @channelInfoMap_deleteChannel manager channelId hvalid
    intro other
    by_cases hsame : channelId = other
    · intro found hfound
      have hnone := (hinfos other).trans (if_pos hsame)
      cases hnone.symm.trans hfound
    · refine (hagrees other).of_same ((hinfos other).trans (if_neg hsame)) ?_
      intro found hfound socketId hmem
      have hown := (hkept.agree.socketChannelMap_iff hfound socketId).mpr hmem
      rw [socketStatusMap_deleteChannel hvalid, hown]
      exact if_neg fun h => hsame (Option.some.inj h).symm
  · rw [deleteChannel_of_invalid hvalid]
    exact hagrees

theorem Kept.statusAgrees_updateChannel
    (hown : manager.socketChannelMap[socketId]? = none ∨
      manager.socketChannelMap[socketId]? = some channelId)
    (hsets : manager.SetsSchema channelId setFileSchema) :
    (manager.updateChannel socketId channelId
      setFileSchema).2.StatusAgrees := by
  cases hinfo : manager.channelInfoMap[channelId]? with
  | none =>
      rw [updateChannel_of_unknown hinfo]
      exact hagrees
  | some info =>
      have hentered := hkept.registerSocket hown setFileSchema
      rw [registerSocket_of_setsSchema hinfo hsets] at hentered
      rw [updateChannel_of_setsSchema hinfo hsets]
      apply hentered.statusAgrees_setSocketStatus
      intro other hother
      have hdiffers : channelId ≠ other := by
        rintro rfl
        exact hother Std.TreeMap.getElem?_insert_self
      refine (hagrees other).of_same
        ((OrderedMap.getElem?_insert_eq channelId other _).trans
          (if_neg hdiffers)) ?_
      intro found hfound socket hmem
      have hsocket := (hkept.agree.socketChannelMap_iff hfound socket).mpr hmem
      refine (OrderedMap.getElem?_insert_eq socketId socket _).trans
        (if_neg ?_)
      rintro rfl
      rcases hown with hfree | hown
      · cases hfree.symm.trans hsocket
      · exact hdiffers (Option.some.inj (hown.symm.trans hsocket))

end Kept

end Status

/-! ## Every run -/

/-- A socket is registered with one channel only, and the file schema of an
incoming socket can be set. -/
def KeepsBinding (manager : ChannelManager) : ChannelEvent → Prop
  | .createClientChannel _ _ _ socket =>
      manager.socketChannelMap[socket]? = none
  | .updateChannel socketId channelId setFileSchema =>
      (manager.socketChannelMap[socketId]? = none ∨
        manager.socketChannelMap[socketId]? = some channelId) ∧
      manager.SetsSchema channelId setFileSchema
  | _ => True

instance (manager : ChannelManager) (channelId setFileSchema : ℤ) :
    Decidable (manager.SetsSchema channelId setFileSchema) :=
  inferInstanceAs (Decidable (∀ info ∈ manager.channelInfoMap[channelId]?, _))

instance (manager : ChannelManager) :
    ∀ event, Decidable (manager.KeepsBinding event)
  | .createClientChannel _ _ _ _ => inferInstanceAs (Decidable (_ = _))
  | .updateChannel _ _ _ => inferInstanceAs (Decidable ((_ ∨ _) ∧ _))
  | .createServerChannel _ _ _ => .isTrue trivial
  | .deleteChannel _ => .isTrue trivial
  | .bindSocket _ _ _ _ => .isTrue trivial
  | .onSocketClosed _ => .isTrue trivial
  | .deInit => .isTrue trivial

structure Bound (manager : ChannelManager) : Prop where
  kept : manager.Kept
  status : manager.StatusAgrees

theorem bound_initial (ownerName : Text) : (initial ownerName).Bound := by
  refine ⟨kept_initial ownerName, fun channelId info hinfo => ?_⟩
  simp [initial] at hinfo

theorem Bound.setSocketStatus {manager : ChannelManager}
    (hbound : manager.Bound) (socketId : ℤ) (status : ChannelStatus) :
    (manager.setSocketStatus socketId status).2.Bound :=
  ⟨hbound.kept.setSocketStatus socketId status,
    hbound.kept.statusAgrees_setSocketStatus fun other _ =>
      hbound.status other⟩

theorem Bound.deleteChannel {manager : ChannelManager}
    (hbound : manager.Bound) (channelId : ℤ) :
    (manager.deleteChannel channelId).2.Bound :=
  ⟨hbound.kept.deleteChannel channelId,
    hbound.kept.statusAgrees_deleteChannel hbound.status channelId⟩

theorem Bound.step {manager : ChannelManager} (hbound : manager.Bound)
    {event : ChannelEvent} (hkeeps : manager.KeepsBinding event) :
    (manager.step event).2.Bound := by
  have hkept := hbound.kept
  have hstatus := hbound.status
  cases event with
  | createServerChannel channelName dataType peerInfo =>
      exact ⟨hkept.createServerChannel channelName dataType peerInfo,
        hkept.statusAgrees_createServerChannel hstatus _ _ _⟩
  | createClientChannel channelName dataType peerInfo socket =>
      exact ⟨hkept.createClientChannel channelName dataType peerInfo hkeeps,
        hkept.statusAgrees_createClientChannel hstatus _ _ _ hkeeps⟩
  | deleteChannel channelId => exact hbound.deleteChannel channelId
  | bindSocket socketId dataType bind setFileSchema =>
      exact bindSocket_preserves
        (fun _ socketId status hbound =>
          hbound.setSocketStatus socketId status)
        socketId dataType bind setFileSchema hbound
  | updateChannel socketId channelId setFileSchema =>
      exact ⟨hkept.updateChannel hkeeps.1 setFileSchema,
        hkept.statusAgrees_updateChannel hstatus hkeeps.1 hkeeps.2⟩
  | onSocketClosed socketId =>
      exact onSocketClosed_preserves
        (fun _ socketId status hbound =>
          hbound.setSocketStatus socketId status)
        (fun _ channelId hbound => hbound.deleteChannel channelId) socketId
        hbound
  | deInit =>
      have hdeleted := deleteChannels_preserves
        (fun _ channelId hbound => hbound.deleteChannel channelId)
        (manager.channelIdMap.toList.flatMap (·.2)).dedup hbound
      exact ⟨hkept.deInit, hdeleted.status⟩

/-- In every state an unregistered socket is bound as a whole or not at all
exactly when the file schema can be set, and the statuses agree in every state
of a run which keeps the bindings. -/
theorem binding_run (ownerName : Text) (events : List ChannelEvent)
    (first : List ChannelEvent) (hfirst : first <+: events) :
    (∀ socketId channelId setFileSchema,
      (EventRun.run step (initial ownerName) first).2.socketChannelMap[
          socketId]? = none →
        ((EventRun.run step (initial ownerName) first).2.BindsOrLeaves
            socketId channelId setFileSchema ↔
          (EventRun.run step (initial ownerName) first).2.SetsSchema
            channelId setFileSchema)) ∧
      (EventRun.Meets step KeepsBinding (initial ownerName) events →
        (EventRun.run step (initial ownerName) first).2.StatusAgrees) := by
  constructor
  · intro socketId channelId setFileSchema hfresh
    exact bindsOrLeaves_iff hfresh
  · intro hmeets
    have hstep : ∀ manager event, Bound manager → KeepsBinding manager event →
        (manager.step event).2.Bound := fun _ _ hbound hkeeps =>
      hbound.step hkeeps
    have hbound := (hmeets.of_prefix hfirst).invariant hstep
      (bound_initial ownerName)
    exact hbound.status

def twoFileSockets : List ChannelEvent :=
  [.createServerChannel "files".toList .file ⟨[], []⟩,
    .updateChannel 7 4001 0, .updateChannel 8 4001 0, .onSocketClosed 7]

theorem statusAgrees_twoFileSockets :
    EventRun.Meets step KeepsBinding (initial []) twoFileSockets ∧
      (EventRun.run step (initial []) twoFileSockets).2.StatusAgrees := by
  have hmeets : EventRun.Meets step KeepsBinding (initial [])
      twoFileSockets := by
    decide +kernel
  exact ⟨hmeets, (binding_run [] twoFileSockets twoFileSockets
    (List.prefix_refl twoFileSockets)).2 hmeets⟩

def fileServer : ChannelManager :=
  ((initial []).createServerChannel "files".toList .file ⟨[], []⟩).2

/-- The file schema of the first socket cannot be set: the call fails, the
socket is registered and connected, and its channel is not. -/
theorem not_bindsOrLeaves_schemaFailed :
    ¬fileServer.BindsOrLeaves 7 4001 (-1) ∧
      ¬(fileServer.updateChannel 7 4001 (-1)).2.StatusAgrees := by
  have hfresh : fileServer.socketChannelMap[(7 : ℤ)]? = none := by
    decide +kernel
  have hschema : ¬fileServer.SetsSchema 4001 (-1) := by decide +kernel
  refine ⟨mt (bindsOrLeaves_iff hfresh).mp hschema, fun hagrees => ?_⟩
  have hinfo : (fileServer.updateChannel 7 4001
      (-1)).2.channelInfoMap[(4001 : ℤ)]? =
        some ⟨4001, .unconnected, .file, "files".toList, ⟨[], []⟩, [7], [7]⟩ := by
    decide +kernel
  have hsocket : (fileServer.updateChannel 7 4001
      (-1)).2.socketStatusMap[(7 : ℤ)]? = some .connected := by
    decide +kernel
  cases (hagrees 4001 _ hinfo).mpr ⟨7, List.mem_singleton_self 7, hsocket⟩

end ChannelManager

end Dmsfwk
