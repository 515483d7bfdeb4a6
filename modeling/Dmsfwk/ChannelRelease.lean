import Dmsfwk.SessionLifecycle
import Mathlib.Data.List.TakeWhile

/-!
# The channels which a session releases

`Release` deletes the channels which a session has recorded by their type, and
it does nothing for a session which is not connected.  A channel is created in
three operations and recorded only when its type is still free, so it may happen
that the channel manager goes on holding a channel which nobody can delete.
-/

namespace Dmsfwk

structure ChannelOwner where
  session : AbilityConnectionSession
  held : List ℤ

/-- An event of the session, or the channel manager deletes a channel whose last
socket has been closed. -/
inductive OwnerEvent where
  | session (event : AbilityConnectionSession.SessionEvent)
  | socketClosed (channelId : ℤ)

namespace AbilityConnectionSession

/-! ## Created channels -/

abbrev Created := List (TransChannelType × ℤ)

def createChannels (createChannel : TransChannelType → ℤ)
    (transTypes : List TransChannelType) : Created :=
  (transTypes.takeWhile fun transType =>
    ChannelManager.isValidChannelId (createChannel transType)).map
      fun transType => (transType, createChannel transType)

def created (session : AbilityConnectionSession) : SessionEvent → Created
  | .acceptConnect _ updateServerSession createChannel _ =>
      if updateServerSession = .errOk ∧
          session.sessionStatus = .unconnected then
        createChannels createChannel
          (initChannelTypes session.connectOption false)
      else []
  | .handleCollabResult result _ answers =>
      if result = 0 then
        createChannels answers.createChannel
          (initChannelTypes session.connectOption
            (session.direction = .collabrateSource))
      else []
  | .onMessageReceived channelId dataType answers =>
      if session.isVaildChannel channelId ∧
          dataType.bind MessageType.ofCode? = some .connectFileChannel then
        createChannels answers.createChannel [.sendFile]
      else []
  | _ => []

def openChannels (session : AbilityConnectionSession) (channels : Created) :
    AbilityConnectionSession :=
  channels.foldl (fun next channel => next.emplaceChannel channel.1 channel.2)
    session

/-- The channels which are held after the event: a release in it deletes those
which are recorded then. -/
def heldAfter (session : AbilityConnectionSession) (held : List ℤ)
    (event : SessionEvent) : List ℤ :=
  let opened := session.openChannels (session.created event)
  let holding := held ++ (session.created event).map (·.2)
  if .unconnected ∈ (session.step event).1 then
    holding.filter fun channelId => !opened.isVaildChannel channelId
  else holding

end AbilityConnectionSession

namespace ChannelOwner

open AbilityConnectionSession (SessionEvent Created)

def create (sessionInfo : AbilityConnectionSessionInfo)
    (connectOption : ConnectOption) : ChannelOwner :=
  ⟨.create sessionInfo connectOption, []⟩

def step (owner : ChannelOwner) : OwnerEvent → Unit × ChannelOwner
  | .session event =>
      ((), ⟨(owner.session.step event).2,
        owner.session.heldAfter owner.held event⟩)
  | .socketClosed channelId =>
      ((), ⟨owner.session, owner.held.filter (· ≠ channelId)⟩)

/-! ## What a release should do -/

/-- Every channel which is held has been recorded, and none is held after
`Release`. -/
structure ReleasesAll (owner : ChannelOwner) : Prop where
  recorded : ∀ channelId ∈ owner.held,
    owner.session.isVaildChannel channelId = true
  released : (owner.step (.session .disconnect)).2.held = []

/-- Every new channel has a type which is still free, or it has an id which is
recorded anyway. -/
def Recordable (session : AbilityConnectionSession) (channels : Created) :
    Prop :=
  ∀ channel ∈ channels, session.isVaildChannel channel.2 = true ∨
    ∃ other ∈ channels, other.2 = channel.2 ∧
      session.transChannels other.1 = none

structure Connects (session : AbilityConnectionSession)
    (answers : ChannelAnswers) : Prop where
  needReceiveFile : session.connectOption.needReceiveFile = false
  createChannel : ∀ transType ∈ initChannelTypes session.connectOption
      (session.direction = .collabrateSource),
    ChannelManager.isValidChannelId (answers.createChannel transType) = true
  connectChannel : ∀ transType ∈
      AbilityConnectionSession.connectChannelTypes session.connectOption,
    transType ∈ initChannelTypes session.connectOption
        (session.direction = .collabrateSource) ∧
      answers.connectChannel transType = 0

/-- A released session which gets a positive result creates no channel, or it is
connected at once. -/
def NotStranded (session : AbilityConnectionSession) : SessionEvent → Prop
  | .handleCollabResult result _ answers =>
      session.sessionStatus = .unconnected → result = 0 →
      ChannelManager.isValidChannelId (answers.createChannel .message) = true →
      Connects session answers
  | _ => True

def Accountable (owner : ChannelOwner) : OwnerEvent → Prop
  | .session event =>
      Recordable owner.session (owner.session.created event) ∧
        NotStranded owner.session event
  | .socketClosed _ => True

end ChannelOwner

/-! ## Recorded ids -/

namespace AbilityConnectionSession

section Ids

variable (session : AbilityConnectionSession)

def ids (transType : TransChannelType) : Option ℤ :=
  (session.transChannels transType).map (·.channelId)

theorem isVaildChannel_iff (channelId : ℤ) :
    session.isVaildChannel channelId = true ↔
      ∃ transType, session.ids transType = some channelId := by
  have hall : ∀ transType, transType ∈ allTransChannelTypes := by
    intro transType
    cases transType <;> decide
  simp only [isVaildChannel, List.any_eq_true, Option.any_eq_true,
    decide_eq_true_eq, ids, Option.map_eq_some_iff]
  constructor
  · rintro ⟨transType, -, info, hinfo, hid⟩
    exact ⟨transType, info, hinfo, hid⟩
  · rintro ⟨transType, info, hinfo, hid⟩
    exact ⟨transType, hall transType, info, hinfo, hid⟩

theorem isVaildChannel_congr {session other : AbilityConnectionSession}
    (hids : session.ids = other.ids) (channelId : ℤ) :
    session.isVaildChannel channelId = other.isVaildChannel channelId := by
  rw [Bool.eq_iff_iff, isVaildChannel_iff, isVaildChannel_iff, hids]

theorem ids_updateTransChannelStatus (channelId : ℤ) (isConnected : Bool) :
    (session.updateTransChannelStatus channelId isConnected).ids =
      session.ids := by
  funext transType
  simp only [ids, updateTransChannelStatus, Option.map_map]
  congr 1
  funext info
  simp only [Function.comp]
  split_ifs <;> rfl

theorem ids_connectTransChannel (connectChannel : TransChannelType → ℤ)
    (transType : TransChannelType) :
    (session.connectTransChannel connectChannel transType).2.ids =
      session.ids := by
  unfold connectTransChannel
  cases session.transChannels transType with
  | none => rfl
  | some info =>
      dsimp only
      split_ifs
      · exact session.ids_updateTransChannelStatus _ _
      · rfl

theorem ids_connectChannels (connectChannel : TransChannelType → ℤ)
    (transTypes : List TransChannelType) :
    (session.connectChannels connectChannel transTypes).2.ids =
      session.ids := by
  induction transTypes generalizing session with
  | nil => rfl
  | cons transType rest ih =>
      have hone := session.ids_connectTransChannel connectChannel transType
      rw [connectChannels]
      rcases hbound : session.connectTransChannel connectChannel transType with
        ⟨_ | _, next⟩
      · rw [hbound] at hone
        exact hone
      · rw [hbound] at hone
        exact (ih next).trans hone

theorem ids_emplaceChannel (transType : TransChannelType) (channelId : ℤ) :
    (session.emplaceChannel transType channelId).ids =
      if session.ids transType = none then
        Function.update session.ids transType (some channelId)
      else session.ids := by
  unfold emplaceChannel
  cases hinfo : session.transChannels transType with
  | some info => simp [ids, hinfo]
  | none =>
      rw [if_neg (by simp), if_pos (by simp [ids, hinfo])]
      funext other
      by_cases hother : other = transType
      · subst hother
        simp [ids]
      · simp [ids, hother]

theorem exists_ids_emplaceChannel (transType : TransChannelType)
    (newId channelId : ℤ) :
    (∃ other, (session.emplaceChannel transType newId).ids other =
        some channelId) ↔
      (∃ other, session.ids other = some channelId) ∨
        newId = channelId ∧ session.ids transType = none := by
  rw [ids_emplaceChannel]
  by_cases hfree : session.ids transType = none
  · rw [if_pos hfree]
    constructor
    · rintro ⟨other, hother⟩
      by_cases hsame : other = transType
      · subst hsame
        rw [Function.update_self, Option.some.injEq] at hother
        exact Or.inr ⟨hother, hfree⟩
      · rw [Function.update_of_ne hsame] at hother
        exact Or.inl ⟨other, hother⟩
    · rintro (⟨other, hother⟩ | ⟨hnew, -⟩)
      · have hne : other ≠ transType := by
          rintro rfl
          exact Option.some_ne_none _ (hother.symm.trans hfree)
        exact ⟨other, by rw [Function.update_of_ne hne, hother]⟩
      · exact ⟨transType, by rw [Function.update_self, hnew]⟩
  · rw [if_neg hfree]
    exact ⟨Or.inl, fun hids => hids.resolve_right fun hnew => hfree hnew.2⟩

theorem ids_emplaceChannel_of_ne {transType other : TransChannelType}
    (hne : other ≠ transType) (newId : ℤ) :
    (session.emplaceChannel transType newId).ids other =
      session.ids other := by
  rw [ids_emplaceChannel]
  split_ifs
  · exact Function.update_of_ne hne _ _
  · rfl

theorem exists_ids_openChannels {channels : Created}
    (hnodup : (channels.map (·.1)).Nodup) (channelId : ℤ) :
    (∃ transType, (session.openChannels channels).ids transType =
        some channelId) ↔
      (∃ transType, session.ids transType = some channelId) ∨
        ∃ channel ∈ channels, channel.2 = channelId ∧
          session.ids channel.1 = none := by
  induction channels generalizing session with
  | nil => simp [openChannels]
  | cons channel channels ih =>
      obtain ⟨hnew, hrest⟩ := List.nodup_cons.mp hnodup
      have hopen : session.openChannels (channel :: channels) =
          (session.emplaceChannel channel.1 channel.2).openChannels
            channels := rfl
      have hlater : (∃ other ∈ channels, other.2 = channelId ∧
            (session.emplaceChannel channel.1 channel.2).ids other.1 =
              none) ↔
          ∃ other ∈ channels, other.2 = channelId ∧
            session.ids other.1 = none := by
        refine exists_congr fun other => and_congr_right fun hother => ?_
        have hne : other.1 ≠ channel.1 := by
          intro heq
          exact hnew (List.mem_map.mpr ⟨other, hother, heq⟩)
        rw [session.ids_emplaceChannel_of_ne hne]
      rw [hopen, ih _ hrest, exists_ids_emplaceChannel, hlater, or_assoc,
        List.exists_mem_cons_iff]

theorem ids_openChannels_congr {session other : AbilityConnectionSession}
    (hids : session.ids = other.ids) (channels : Created) :
    (session.openChannels channels).ids =
      (other.openChannels channels).ids := by
  induction channels generalizing session other with
  | nil => exact hids
  | cons channel channels ih =>
      refine ih ?_
      rw [ids_emplaceChannel, ids_emplaceChannel, hids]

theorem initChannels_openChannels (createChannel : TransChannelType → ℤ)
    (transTypes : List TransChannelType) :
    (session.initChannels createChannel transTypes).2 =
      session.openChannels (createChannels createChannel transTypes) := by
  induction transTypes generalizing session with
  | nil => rfl
  | cons transType rest ih =>
      rw [initChannels]
      split_ifs with hvalid
      · rw [ih]
        simp [createChannels, openChannels, hvalid]
      · simp [createChannels, openChannels, hvalid]

theorem ids_initChannels {other : AbilityConnectionSession}
    (hids : other.ids = session.ids) (createChannel : TransChannelType → ℤ)
    (transTypes : List TransChannelType) :
    (other.initChannels createChannel transTypes).2.ids =
      (session.openChannels (createChannels createChannel transTypes)).ids := by
  rw [initChannels_openChannels]
  exact ids_openChannels_congr hids _

theorem nodup_createChannels (createChannel : TransChannelType → ℤ)
    {transTypes : List TransChannelType} (hnodup : transTypes.Nodup) :
    ((createChannels createChannel transTypes).map (·.1)).Nodup := by
  have hmap : (createChannels createChannel transTypes).map (·.1) =
      transTypes.takeWhile fun transType =>
        ChannelManager.isValidChannelId (createChannel transType) := by
    simp [createChannels, Function.comp_def]
  rw [hmap]
  exact hnodup.sublist (List.takeWhile_sublist _)

theorem nodup_initChannelTypes (option : ConnectOption)
    (isClientChannel : Bool) :
    (initChannelTypes option isClientChannel).Nodup := by
  obtain ⟨data, sendStream, receiveStream, sendFile, receiveFile⟩ := option
  cases data <;> cases sendStream <;> cases receiveStream <;>
    cases sendFile <;> cases receiveFile <;> cases isClientChannel <;> decide

theorem nodup_created (event : SessionEvent) :
    ((session.created event).map (·.1)).Nodup := by
  cases event with
  | acceptConnect token updateServerSession createChannel
      notifyPrepareResult =>
      simp only [created]
      split_ifs
      · exact nodup_createChannels _ (nodup_initChannelTypes _ _)
      · exact List.nodup_nil
  | handleCollabResult result dmsServerToken answers =>
      simp only [created]
      split_ifs
      · exact nodup_createChannels _ (nodup_initChannelTypes _ _)
      · exact List.nodup_nil
  | onMessageReceived channelId dataType answers =>
      simp only [created]
      split_ifs
      · exact nodup_createChannels _ (List.nodup_singleton _)
      · exact List.nodup_nil
  | _ => exact List.nodup_nil

end Ids

/-! ## What a step leaves recorded -/

/-- A release forgets every channel; without one the opened channels are
recorded. -/
structure Settles (opened : AbilityConnectionSession) (written : Written) :
    Prop where
  released : .unconnected ∈ written.1 →
    ∀ transType, written.2.ids transType = none
  kept : .unconnected ∉ written.1 → written.2.ids = opened.ids

section Settling

variable {session opened : AbilityConnectionSession}

section Unmoved

variable (hids : session.ids = opened.ids)

include hids

theorem settles_unwritten :
    Settles opened ([], session) :=
  ⟨fun hmem => absurd hmem List.not_mem_nil, fun _ => hids⟩

theorem settles_release : Settles opened session.release := by
  unfold release
  split_ifs
  · exact settles_unwritten hids
  · refine ⟨fun _ _ => rfl, fun hkept => ?_⟩
    exact absurd (List.mem_singleton_self _) hkept

theorem settles_connected :
    Settles opened (session.setStatus .connected) :=
  ⟨fun hmem => absurd (List.mem_singleton.mp hmem) (by decide), fun _ => hids⟩

theorem settles_notifyAppConnectResult (isConnected : Bool) :
    Settles opened (session.notifyAppConnectResult isConnected) := by
  cases isConnected with
  | false =>
      have hrelease := settles_release hids
      exact ⟨hrelease.released, hrelease.kept⟩
  | true =>
      have hconnected := settles_connected hids
      exact ⟨hconnected.released, hconnected.kept⟩

theorem settles_handleSessionConnect :
    Settles opened session.handleSessionConnect := by
  unfold handleSessionConnect
  split_ifs
  · exact settles_unwritten hids
  · exact settles_connected hids

end Unmoved

theorem Settles.connecting {written : Written}
    (hsettles : Settles opened written) :
    Settles opened (.connecting :: written.1, written.2) := by
  refine ⟨fun hmem => ?_, fun hkept => ?_⟩
  · exact hsettles.released (List.mem_of_ne_of_mem SessionStatus.noConfusion hmem)
  · exact hsettles.kept fun hmem => hkept (List.mem_cons_of_mem _ hmem)

variable (session)

theorem settles_acceptConnect (token : Text)
    (updateServerSession : CollabErr) (createChannel : TransChannelType → ℤ)
    (notifyPrepareResult : ℤ) :
    Settles (session.openChannels (session.created (.acceptConnect token
        updateServerSession createChannel notifyPrepareResult)))
      (session.acceptConnect token updateServerSession createChannel
        notifyPrepareResult).2 := by
  unfold acceptConnect
  dsimp only [created]
  by_cases hrefused : updateServerSession ≠ .errOk
  · rw [if_pos hrefused, if_neg fun haccepted => hrefused haccepted.1]
    exact settles_unwritten rfl
  by_cases hbusy : session.sessionStatus ≠ .unconnected
  · rw [if_neg hrefused, if_pos hbusy,
      if_neg fun haccepted => hbusy haccepted.2]
    exact settles_unwritten rfl
  rw [not_not] at hrefused hbusy
  rw [if_neg (not_not.mpr hrefused), if_neg (not_not.mpr hbusy),
    if_pos ⟨hrefused, hbusy⟩]
  have hids := session.ids_initChannels
    (show ({ session with
      dmsServerToken := token
      direction := .collabrateSink }.setStatus .connecting).2.ids =
        session.ids from rfl)
    createChannel (initChannelTypes session.connectOption false)
  split_ifs
  · exact (settles_release hids).connecting
  · exact (settles_release hids).connecting
  · exact (settles_unwritten hids).connecting

theorem settles_handleCollabResult (result : ℤ) (dmsServerToken : Text)
    (answers : ChannelAnswers) :
    Settles (session.openChannels (session.created (.handleCollabResult result
        dmsServerToken answers)))
      (session.handleCollabResult result dmsServerToken answers).2 := by
  unfold handleCollabResult
  dsimp only [created]
  by_cases hresult : result ≠ 0
  · rw [if_pos hresult, if_neg hresult]
    refine settles_notifyAppConnectResult ?_ false
    rfl
  rw [not_not] at hresult
  rw [if_neg (not_not.mpr hresult), if_pos hresult]
  have hids := session.ids_initChannels
    (show { session with dmsServerToken := dmsServerToken }.ids =
      session.ids from rfl)
    answers.createChannel (initChannelTypes session.connectOption
      (session.direction = .collabrateSource))
  rcases hinit : initChannels answers.createChannel
      { session with dmsServerToken := dmsServerToken }
      (initChannelTypes session.connectOption
        (session.direction = .collabrateSource)) with ⟨err, opened⟩
  rw [hinit] at hids
  dsimp only at hids ⊢
  by_cases herr : err ≠ .errOk
  · rw [if_pos herr]
    exact settles_notifyAppConnectResult hids false
  rw [if_neg herr]
  have hbound := opened.ids_connectChannels answers.connectChannel
    (connectChannelTypes session.connectOption)
  rcases hconnect : opened.connectChannels answers.connectChannel
      (connectChannelTypes session.connectOption) with ⟨_ | _, bound⟩
  · rw [hconnect] at hbound
    exact settles_notifyAppConnectResult (hbound.trans hids) false
  · rw [hconnect] at hbound
    dsimp only
    split_ifs
    · exact settles_notifyAppConnectResult (hbound.trans hids) false
    · exact settles_unwritten (hbound.trans hids)
    · exact settles_notifyAppConnectResult (hbound.trans hids) true

theorem settles_connectFileChannel (answers : ChannelAnswers) :
    Settles (session.openChannels
        (createChannels answers.createChannel [.sendFile]))
      (session.connectFileChannel answers) := by
  unfold connectFileChannel
  split_ifs with hvalid
  · have hopen : session.openChannels
        (createChannels answers.createChannel [.sendFile]) =
        session.emplaceChannel .sendFile
          (answers.createChannel .sendFile) := by
      simp [createChannels, openChannels, hvalid]
    rw [hopen]
    have hbound := (session.emplaceChannel .sendFile
      (answers.createChannel .sendFile)).ids_connectTransChannel
      answers.connectChannel .sendFile
    rcases hconnect : (session.emplaceChannel .sendFile
        (answers.createChannel .sendFile)).connectTransChannel
        answers.connectChannel .sendFile with ⟨_ | _, next⟩
    · rw [hconnect] at hbound
      exact settles_unwritten hbound
    · rw [hconnect] at hbound
      exact settles_handleSessionConnect hbound
  · have hopen : session.openChannels
        (createChannels answers.createChannel [.sendFile]) = session := by
      simp [createChannels, openChannels, hvalid]
    rw [hopen]
    exact settles_unwritten rfl

theorem settles_onMessageReceived (channelId : ℤ) (dataType : Option ℕ)
    (answers : ChannelAnswers) :
    Settles (session.openChannels (session.created (.onMessageReceived
        channelId dataType answers)))
      (session.onMessageReceived channelId dataType answers) := by
  unfold onMessageReceived
  dsimp only [created]
  generalize dataType.bind MessageType.ofCode? = message
  by_cases hvalid : session.isVaildChannel channelId = true
  · by_cases hfile : message = some .connectFileChannel
    · subst hfile
      rw [if_pos hvalid, if_pos ⟨hvalid, rfl⟩]
      exact session.settles_connectFileChannel answers
    · rw [if_pos hvalid, if_neg fun hboth => hfile hboth.2]
      split
      · exact absurd rfl hfile
      · exact settles_notifyAppConnectResult rfl true
      · exact settles_notifyAppConnectResult rfl false
      · exact settles_handleSessionConnect rfl
      · exact settles_unwritten rfl
  · rw [if_neg hvalid, if_neg fun hboth => hvalid hboth.1]
    exact settles_unwritten rfl

theorem settles_step (event : SessionEvent) :
    Settles (session.openChannels (session.created event))
      (session.step event) := by
  cases event with
  | connect token callback updateClientSession getPeerVersion =>
      have hkept : ∀ next : AbilityConnectionSession,
          next.ids = session.ids → Settles session ([.connecting], next) :=
        fun next hids => (settles_unwritten hids).connecting
      simp only [step, connect]
      split_ifs
      · exact settles_unwritten rfl
      · exact settles_unwritten rfl
      · exact hkept _ rfl
      · exact hkept _ rfl
  | acceptConnect token updateServerSession createChannel
      notifyPrepareResult =>
      exact session.settles_acceptConnect token updateServerSession
        createChannel notifyPrepareResult
  | handlePeerVersion collabMission =>
      simp only [step, handlePeerVersion]
      split_ifs
      · exact settles_unwritten rfl
      · exact settles_unwritten rfl
  | handleCollabResult result dmsServerToken answers =>
      exact session.settles_handleCollabResult result dmsServerToken answers
  | disconnect => exact settles_release rfl
  | handleDisconnect => exact settles_release rfl
  | onChannelConnect channelId =>
      have hids := session.ids_updateTransChannelStatus channelId true
      simp only [step, onChannelConnect]
      split_ifs
      · exact settles_handleSessionConnect hids
      · exact settles_unwritten hids
      · exact settles_unwritten rfl
  | onChannelClosed channelId =>
      simp only [step, onChannelClosed]
      split_ifs
      · exact settles_release rfl
      · exact settles_unwritten rfl
  | onMessageReceived channelId dataType answers =>
      exact session.settles_onMessageReceived channelId dataType answers
  | streamChannelBound channelId =>
      exact settles_unwritten
        (session.ids_updateTransChannelStatus channelId true)
  | timeout => exact settles_release rfl
  | runTask =>
      simp only [step]
      cases session.tasks with
      | nil => exact settles_unwritten rfl
      | cons task rest =>
          simp only [runConnectTask]
          split_ifs
          · exact settles_release rfl
          · exact settles_unwritten rfl

end Settling

/-! ## A late result -/

section Late

variable {session : AbilityConnectionSession}

theorem failure_ne_errOk (transType : TransChannelType) :
    transType.failure ≠ .errOk := by
  cases transType <;> decide

section Session

variable (session : AbilityConnectionSession)

theorem initChannels_errOk_iff (createChannel : TransChannelType → ℤ)
    (transTypes : List TransChannelType) :
    (session.initChannels createChannel transTypes).1 = .errOk ↔
      ∀ transType ∈ transTypes,
        ChannelManager.isValidChannelId (createChannel transType) = true := by
  induction transTypes generalizing session with
  | nil => simp [initChannels]
  | cons transType rest ih =>
      rw [initChannels, List.forall_mem_cons]
      split_ifs with hvalid
      · rw [ih]
        simp [hvalid]
      · simp [hvalid, failure_ne_errOk]

theorem connectTransChannel_iff (connectChannel : TransChannelType → ℤ)
    (transType : TransChannelType) :
    (session.connectTransChannel connectChannel transType).1 = true ↔
      session.ids transType ≠ none ∧ connectChannel transType = 0 := by
  unfold connectTransChannel ids
  cases session.transChannels transType with
  | none => simp
  | some info =>
      dsimp only
      split_ifs with hbound
      · simp [hbound]
      · simp [hbound]

theorem connectChannels_iff (connectChannel : TransChannelType → ℤ)
    (transTypes : List TransChannelType) :
    (session.connectChannels connectChannel transTypes).1 = true ↔
      ∀ transType ∈ transTypes,
        session.ids transType ≠ none ∧ connectChannel transType = 0 := by
  induction transTypes generalizing session with
  | nil => simp [connectChannels]
  | cons transType rest ih =>
      have hone := session.connectTransChannel_iff connectChannel transType
      have hids := session.ids_connectTransChannel connectChannel transType
      rw [connectChannels, List.forall_mem_cons, ← hone]
      rcases hbound : session.connectTransChannel connectChannel transType with
        ⟨_ | _, next⟩
      · simp
      · rw [hbound] at hids
        rw [← hids]
        simpa using ih next

theorem ids_openChannels_ne_none (channels : Created)
    (transType : TransChannelType) :
    (session.openChannels channels).ids transType ≠ none ↔
      session.ids transType ≠ none ∨ transType ∈ channels.map (·.1) := by
  induction channels generalizing session with
  | nil => simp [openChannels]
  | cons channel channels ih =>
      have hopen : session.openChannels (channel :: channels) =
          (session.emplaceChannel channel.1 channel.2).openChannels
            channels := rfl
      have hone : (session.emplaceChannel channel.1 channel.2).ids transType ≠
            none ↔
          session.ids transType ≠ none ∨ transType = channel.1 := by
        by_cases hsame : transType = channel.1
        · subst hsame
          rw [ids_emplaceChannel]
          split_ifs with hfree
          · simp
          · simp [hfree]
        · rw [ids_emplaceChannel_of_ne _ hsame]
          simp [hsame]
      rw [hopen, ih, hone, List.map_cons, List.mem_cons, or_assoc]

end Session

theorem createChannels_of_valid {createChannel : TransChannelType → ℤ}
    {transTypes : List TransChannelType}
    (hvalid : ∀ transType ∈ transTypes,
      ChannelManager.isValidChannelId (createChannel transType) = true) :
    (createChannels createChannel transTypes).map (·.1) = transTypes := by
  have htake := List.takeWhile_eq_self_iff.mpr hvalid
  simp [createChannels, htake, Function.comp_def]

theorem Clean.ids (hclean : session.Clean)
    (hstatus : session.sessionStatus = .unconnected) :
    session.ids = fun _ => none := by
  funext transType
  simp [AbilityConnectionSession.ids, hclean hstatus transType]

theorem created_late_iff (dmsServerToken : Text) (answers : ChannelAnswers) :
    session.created (.handleCollabResult 0 dmsServerToken answers) = [] ↔
      ChannelManager.isValidChannelId
        (answers.createChannel .message) = false := by
  have hfirst : ∃ rest, initChannelTypes session.connectOption
      (session.direction = .collabrateSource) = .message :: rest :=
    ⟨_, rfl⟩
  obtain ⟨rest, hrest⟩ := hfirst
  simp only [created, if_true, hrest, createChannels]
  cases hvalid : ChannelManager.isValidChannelId
      (answers.createChannel .message) with
  | false => simp [hvalid]
  | true => simp [hvalid]

theorem sessionStatus_initChannels (session : AbilityConnectionSession)
    (createChannel : TransChannelType → ℤ)
    (transTypes : List TransChannelType) :
    (session.initChannels createChannel transTypes).2.sessionStatus =
      session.sessionStatus := by
  obtain ⟨err, channels, hopened⟩ :=
    session.initChannels_eq createChannel transTypes
  rw [hopened]

theorem sessionStatus_connectChannels (session : AbilityConnectionSession)
    (connectChannel : TransChannelType → ℤ)
    (transTypes : List TransChannelType) :
    (session.connectChannels connectChannel transTypes).2.sessionStatus =
      session.sessionStatus := by
  obtain ⟨success, channels, hbound⟩ :=
    session.connectChannels_eq connectChannel transTypes
  rw [hbound]

theorem status_late_iff (hclean : session.Clean)
    (hstatus : session.sessionStatus = .unconnected) (dmsServerToken : Text)
    (answers : ChannelAnswers) :
    (session.handleCollabResult 0 dmsServerToken
        answers).2.2.sessionStatus ≠ .unconnected ↔
      ChannelOwner.Connects session answers := by
  have hids := session.ids_initChannels
    (show { session with dmsServerToken := dmsServerToken }.ids =
      session.ids from rfl)
    answers.createChannel (initChannelTypes session.connectOption
      (session.direction = .collabrateSource))
  have hinitStatus := sessionStatus_initChannels
    { session with dmsServerToken := dmsServerToken } answers.createChannel
    (initChannelTypes session.connectOption
      (session.direction = .collabrateSource))
  have hcreated := initChannels_errOk_iff
    { session with dmsServerToken := dmsServerToken } answers.createChannel
    (initChannelTypes session.connectOption
      (session.direction = .collabrateSource))
  unfold handleCollabResult
  rw [if_neg (not_not.mpr rfl)]
  rcases hinit : initChannels answers.createChannel
      { session with dmsServerToken := dmsServerToken }
      (initChannelTypes session.connectOption
        (session.direction = .collabrateSource)) with ⟨err, opened⟩
  rw [hinit] at hids hinitStatus hcreated
  dsimp only at hids hinitStatus hcreated ⊢
  by_cases herr : err ≠ .errOk
  · rw [if_pos herr]
    refine iff_of_false (not_not.mpr opened.released_release) ?_
    exact fun hconnects => herr (hcreated.mpr hconnects.createChannel)
  rw [if_neg herr]
  have hvalid := hcreated.mp (not_not.mp herr)
  have hrecorded : ∀ transType, opened.ids transType ≠ none ↔
      transType ∈ initChannelTypes session.connectOption
        (session.direction = .collabrateSource) := by
    intro transType
    rw [hids, ids_openChannels_ne_none, createChannels_of_valid hvalid,
      hclean.ids hstatus]
    simp
  have hbound := opened.connectChannels_iff answers.connectChannel
    (connectChannelTypes session.connectOption)
  have hboundStatus := opened.sessionStatus_connectChannels
    answers.connectChannel (connectChannelTypes session.connectOption)
  simp only [hrecorded] at hbound
  rcases hconnect : opened.connectChannels answers.connectChannel
      (connectChannelTypes session.connectOption) with ⟨_ | _, bound⟩
  · rw [hconnect] at hbound
    refine iff_of_false (not_not.mpr bound.released_release) ?_
    intro hconnects
    exact Bool.false_ne_true (hbound.mpr hconnects.connectChannel)
  · rw [hconnect] at hbound hboundStatus
    dsimp only at hboundStatus ⊢
    by_cases hfile : session.connectOption.needReceiveFile = true
    · rw [if_pos hfile]
      refine iff_of_false (not_not.mpr ?_) ?_
      · split_ifs
        · exact bound.released_release
        · exact hboundStatus.trans (hinitStatus.trans hstatus)
      · intro hconnects
        exact Bool.false_ne_true
          (hconnects.needReceiveFile.symm.trans hfile)
    · rw [if_neg hfile]
      refine iff_of_true SessionStatus.noConfusion ?_
      exact ⟨Bool.eq_false_of_not_eq_true hfile, hvalid, hbound.mp rfl⟩

theorem unconnected_not_mem_late
    (hstatus : session.sessionStatus = .unconnected) (result : ℤ)
    (dmsServerToken : Text) (answers : ChannelAnswers) :
    .unconnected ∉ (session.handleCollabResult result dmsServerToken
      answers).2.1 := by
  have hfailed : ∀ next : AbilityConnectionSession,
      next.sessionStatus = .unconnected →
      .unconnected ∉ (next.notifyAppConnectResult false).1 := by
    intro next hnext
    simp [notifyAppConnectResult, release, hnext]
  rcases session.handleCollabResult_cases result dmsServerToken answers with
    ⟨-, hexit⟩ | ⟨-, channels, hexit | hexit | hexit⟩
  · rw [hexit]
    exact hfailed _ hstatus
  · rw [hexit]
    exact hfailed _ hstatus
  · rw [hexit]
    exact List.not_mem_nil
  · rw [hexit]
    simp [notifyAppConnectResult, setStatus]

end Late

/-! ## Channels of a session which stays released -/

section Stranded

open ChannelOwner (NotStranded)

variable {session : AbilityConnectionSession}

theorem notStranded_of_released {event : SessionEvent}
    (hreleased : .unconnected ∈ (session.step event).1) :
    NotStranded session event := by
  cases event with
  | handleCollabResult result dmsServerToken answers =>
      intro hstatus
      exact absurd hreleased
        (unconnected_not_mem_late hstatus result dmsServerToken answers)
  | _ => trivial

theorem stranded_acceptConnect {token : Text}
    {updateServerSession : CollabErr} {createChannel : TransChannelType → ℤ}
    {notifyPrepareResult : ℤ}
    (hkept : .unconnected ∉ (session.acceptConnect token updateServerSession
      createChannel notifyPrepareResult).2.1)
    (hstatus : (session.acceptConnect token updateServerSession createChannel
      notifyPrepareResult).2.2.sessionStatus = .unconnected) :
    session.created (.acceptConnect token updateServerSession createChannel
      notifyPrepareResult) = [] := by
  rcases session.acceptConnect_cases token updateServerSession createChannel
    notifyPrepareResult with
    ⟨hrefused, -⟩ | ⟨-, -, channels, hexit | hexit⟩
  · refine if_neg ?_
    rintro ⟨haccepted, hunconnected⟩
    exact hrefused.elim (· haccepted) (· hunconnected)
  · rw [hexit] at hkept
    simp [release, accepting, setStatus] at hkept
  · rw [hexit] at hstatus
    exact SessionStatus.noConfusion hstatus

/-- A session which is not connected after a step has no channels of the step,
unless it was released and gets a positive result. -/
theorem stranded_iff (hclean : session.Clean) {event : SessionEvent}
    (hkept : .unconnected ∉ (session.step event).1) :
    ((session.step event).2.sessionStatus = .unconnected →
        session.created event = []) ↔
      NotStranded session event := by
  cases event with
  | acceptConnect token updateServerSession createChannel
      notifyPrepareResult =>
      exact iff_of_true (stranded_acceptConnect hkept) trivial
  | handleCollabResult result dmsServerToken answers =>
      simp only [NotStranded]
      by_cases hlive : session.sessionStatus ≠ .unconnected
      · have hnext := session.status_ne_step hlive hkept
        exact iff_of_true (fun hstatus => absurd hstatus hnext)
          (fun hstatus => absurd hstatus hlive)
      have hstatus := not_not.mp hlive
      by_cases hresult : result = 0
      · subst hresult
        have hconnects := status_late_iff hclean hstatus dmsServerToken answers
        rw [created_late_iff, ← hconnects]
        constructor
        · intro hstranded _ _ hvalid hunconnected
          exact Bool.false_ne_true ((hstranded hunconnected).symm.trans hvalid)
        · intro hnotStranded hunconnected
          by_contra hvalid
          exact hnotStranded hstatus rfl (Bool.eq_true_of_not_eq_false hvalid)
            hunconnected
      · refine iff_of_true (fun _ => if_neg hresult) ?_
        exact fun _ hzero => absurd hzero hresult
  | onMessageReceived channelId dataType answers =>
      refine iff_of_true (fun hstatus => if_neg ?_) trivial
      rintro ⟨hvalid, -⟩
      exact session.status_ne_step (hclean.of_isVaildChannel hvalid) hkept
        hstatus
  | _ => exact iff_of_true (fun _ => rfl) trivial

end Stranded

end AbilityConnectionSession

/-! ## Runs -/

namespace ChannelOwner

open AbilityConnectionSession (SessionEvent Created Clean)

section Steps

variable {owner : ChannelOwner}

theorem held_release :
    (owner.step (.session .disconnect)).2.held =
      if owner.session.sessionStatus = .unconnected then owner.held
      else owner.held.filter fun channelId =>
        !owner.session.isVaildChannel channelId := by
  change owner.session.heldAfter owner.held .disconnect = _
  have hwrites : (owner.session.step .disconnect).1 =
      if owner.session.sessionStatus = .unconnected then []
      else [.unconnected] := by
    change owner.session.release.1 = _
    unfold AbilityConnectionSession.release
    split_ifs <;> rfl
  unfold AbilityConnectionSession.heldAfter
  simp only [hwrites, AbilityConnectionSession.created, List.map_nil,
    List.append_nil]
  split_ifs <;> simp_all [AbilityConnectionSession.openChannels]

theorem releasesAll_iff :
    owner.ReleasesAll ↔
      (∀ channelId ∈ owner.held,
        owner.session.isVaildChannel channelId = true) ∧
      (owner.session.sessionStatus = .unconnected → owner.held = []) := by
  constructor
  · rintro ⟨hrecorded, hreleased⟩
    refine ⟨hrecorded, fun hstatus => ?_⟩
    rwa [held_release, if_pos hstatus] at hreleased
  · rintro ⟨hrecorded, hunconnected⟩
    refine ⟨hrecorded, ?_⟩
    rw [held_release]
    split_ifs with hstatus
    · exact hunconnected hstatus
    · rw [List.filter_eq_nil_iff]
      intro channelId hheld
      simp [hrecorded channelId hheld]

theorem recordable_iff (hrecorded : ∀ channelId ∈ owner.held,
      owner.session.isVaildChannel channelId = true)
    (event : SessionEvent) :
    (∀ channelId ∈ owner.held ++ (owner.session.created event).map (·.2),
        (owner.session.openChannels
          (owner.session.created event)).isVaildChannel channelId = true) ↔
      Recordable owner.session (owner.session.created event) := by
  have hfree : ∀ transType, owner.session.ids transType = none ↔
      owner.session.transChannels transType = none :=
    fun transType => Option.map_eq_none_iff
  simp only [AbilityConnectionSession.isVaildChannel_iff] at hrecorded
  simp only [Recordable, AbilityConnectionSession.isVaildChannel_iff,
    AbilityConnectionSession.exists_ids_openChannels _
      (owner.session.nodup_created event), hfree]
  rw [List.forall_mem_append]
  constructor
  · rintro ⟨-, hcreated⟩ channel hchannel
    exact hcreated channel.2 (List.mem_map.mpr ⟨channel, hchannel, rfl⟩)
  · intro hcreated
    refine ⟨fun channelId hheld => Or.inl (hrecorded channelId hheld), ?_⟩
    intro channelId hmem
    obtain ⟨channel, hchannel, rfl⟩ := List.mem_map.mp hmem
    exact hcreated channel hchannel

theorem releasesAll_released_iff (event : SessionEvent)
    (hreleased : .unconnected ∈ (owner.session.step event).1) :
    (owner.step (.session event)).2.ReleasesAll ↔
      ∀ channelId ∈ owner.held ++ (owner.session.created event).map (·.2),
        (owner.session.openChannels
          (owner.session.created event)).isVaildChannel channelId = true := by
  have hforgotten : ∀ channelId,
      (owner.session.step event).2.isVaildChannel channelId = false := by
    intro channelId
    have hnone := (owner.session.settles_step event).released hreleased
    rw [Bool.eq_false_iff, ne_eq,
      AbilityConnectionSession.isVaildChannel_iff]
    rintro ⟨transType, hrecorded⟩
    exact Option.some_ne_none _ (hrecorded.symm.trans (hnone transType))
  have hheld : (owner.step (.session event)).2.held = [] ↔
      ∀ channelId ∈ owner.held ++ (owner.session.created event).map (·.2),
        (owner.session.openChannels
          (owner.session.created event)).isVaildChannel channelId = true := by
    simp only [step, AbilityConnectionSession.heldAfter, if_pos hreleased,
      List.filter_eq_nil_iff, Bool.not_eq_true, Bool.not_eq_false']
  rw [← hheld, releasesAll_iff]
  constructor
  · rintro ⟨hrecorded, -⟩
    refine List.eq_nil_iff_forall_not_mem.mpr fun channelId hmem => ?_
    have htrue := hrecorded channelId hmem
    exact Bool.false_ne_true ((hforgotten channelId).symm.trans htrue)
  · intro hnil
    rw [hnil]
    exact ⟨fun _ hmem => absurd hmem List.not_mem_nil, fun _ => rfl⟩

theorem releasesAll_session_iff (hclean : owner.session.Clean)
    (hreleases : owner.ReleasesAll) (event : SessionEvent) :
    (owner.step (.session event)).2.ReleasesAll ↔
      owner.Accountable (.session event) := by
  obtain ⟨hrecorded, hunconnected⟩ := releasesAll_iff.mp hreleases
  have hrecordable := recordable_iff hrecorded event
  by_cases hreleased : .unconnected ∈ (owner.session.step event).1
  · rw [releasesAll_released_iff event hreleased, hrecordable]
    refine ⟨fun hcreated => ⟨hcreated, ?_⟩, fun hboth => hboth.1⟩
    exact AbilityConnectionSession.notStranded_of_released hreleased
  · have hids := (owner.session.settles_step event).kept hreleased
    have hstranded :=
      AbilityConnectionSession.stranded_iff hclean hreleased
    have hheld : (owner.step (.session event)).2.held =
        owner.held ++ (owner.session.created event).map (·.2) :=
      if_neg hreleased
    rw [releasesAll_iff, hheld, Accountable, ← hrecordable, ← hstranded]
    refine and_congr ?_ (imp_congr_right fun hstatus => ?_)
    · refine forall₂_congr fun channelId _ => ?_
      rw [← AbilityConnectionSession.isVaildChannel_congr hids]
      rfl
    · have hold : owner.session.sessionStatus = .unconnected := by
        by_contra hlive
        exact owner.session.status_ne_step hlive hreleased hstatus
      simp [hunconnected hold]

theorem releasesAll_closed (hreleases : owner.ReleasesAll) (channelId : ℤ) :
    (owner.step (.socketClosed channelId)).2.ReleasesAll := by
  obtain ⟨hrecorded, hunconnected⟩ := releasesAll_iff.mp hreleases
  refine releasesAll_iff.mpr ⟨?_, ?_⟩
  · intro other hother
    exact hrecorded other (List.mem_of_mem_filter hother)
  · intro hstatus
    have hnil : owner.held.filter (· ≠ channelId) = [] := by
      rw [hunconnected hstatus]
      rfl
    exact hnil

theorem releasesAll_step_iff (hclean : owner.session.Clean)
    (hreleases : owner.ReleasesAll) (event : OwnerEvent) :
    (owner.step event).2.ReleasesAll ↔ owner.Accountable event := by
  cases event with
  | session event => exact releasesAll_session_iff hclean hreleases event
  | socketClosed channelId =>
      exact iff_of_true (releasesAll_closed hreleases channelId) trivial

theorem clean_step (hclean : owner.session.Clean) {event : OwnerEvent}
    (haccountable : owner.Accountable event) :
    (owner.step event).2.session.Clean := by
  cases event with
  | socketClosed channelId => exact hclean
  | session event =>
      intro hstatus transType
      have hsettles := owner.session.settles_step event
      have hnone : (owner.session.step event).2.ids transType = none := by
        by_cases hreleased : .unconnected ∈ (owner.session.step event).1
        · exact hsettles.released hreleased transType
        · have hcreated :=
            (AbilityConnectionSession.stranded_iff hclean hreleased).mpr
              haccountable.2 hstatus
          have hold : owner.session.sessionStatus = .unconnected := by
            by_contra hlive
            exact owner.session.status_ne_step hlive hreleased hstatus
          have hids := hsettles.kept hreleased
          rw [hcreated] at hids
          rw [hids]
          exact congrFun (hclean.ids hold) transType
      exact Option.map_eq_none_iff.mp hnone

end Steps

/-- In every state of a run all channels of the session are recorded and can be
released exactly when each of its channels gets a free type, and no late result
leaves channels in a released session. -/
theorem releasesAll_run_iff (sessionInfo : AbilityConnectionSessionInfo)
    (connectOption : ConnectOption) (events : List OwnerEvent) :
    (∀ first, first <+: events →
        (EventRun.run step (create sessionInfo connectOption)
          first).2.ReleasesAll) ↔
      EventRun.Meets step Accountable (create sessionInfo connectOption)
        events := by
  have hstep : ∀ (owner : ChannelOwner) (event : OwnerEvent),
      owner.session.Clean → owner.ReleasesAll →
      ((owner.step event).2.ReleasesAll ↔ owner.Accountable event) :=
    fun _ event hclean hreleases => releasesAll_step_iff hclean hreleases event
  have hnext : ∀ (owner : ChannelOwner) (event : OwnerEvent),
      owner.session.Clean → owner.ReleasesAll → owner.Accountable event →
      (owner.step event).2.session.Clean :=
    fun _ _ hclean _ haccountable => clean_step hclean haccountable
  have hclean : (create sessionInfo connectOption).session.Clean :=
    fun _ _ => rfl
  have hreleases : (create sessionInfo connectOption).ReleasesAll :=
    releasesAll_iff.mpr
      ⟨fun _ hmem => absurd hmem List.not_mem_nil, fun _ => rfl⟩
  exact EventRun.forall_prefix_iff hstep hnext events hclean hreleases

def fileChannelTwice : List OwnerEvent :=
  let answers : ℤ → ChannelAnswers :=
    fun fileChannel => ⟨fun transType =>
      if transType = .sendFile then fileChannel else 1001, fun _ => 0, 0⟩
  [.session (.connect "token".toList true .errOk 0),
    .session (.handleCollabResult 0 "token".toList (answers 4001)),
    .session (.onMessageReceived 1001 (some 6) (answers 4001)),
    .session (.onMessageReceived 1001 (some 6) (answers 4002))]

theorem not_releasesAll_fileChannelTwice :
    let owner := (EventRun.run step
      (create AbilityConnectionSession.plainInfo
        AbilityConnectionSession.plainOption) fileChannelTwice).2
    owner.held = [1001, 4001, 4002] ∧
      owner.session.isVaildChannel 4002 = false ∧
      (owner.step (.session .disconnect)).2.held = [4002] ∧
      ¬owner.ReleasesAll := by
  refine ⟨by decide +kernel, by decide +kernel, by decide +kernel, ?_⟩
  intro hreleases
  have hleft := hreleases.released
  revert hleft
  decide +kernel

end ChannelOwner

end Dmsfwk
