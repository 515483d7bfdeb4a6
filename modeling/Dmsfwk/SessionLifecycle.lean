import Dmsfwk.AbilityConnectionSession
import Dmsfwk.EventRun

/-!
# A released session is not revived

The status of a session is written in many places, some of which do not look
at it first.  A session without channels cannot be reached by the callbacks of
channels, and releasing a session removes its channels; what remains is the
collaboration result of the service, which a session may receive after it was
released.
-/

namespace Dmsfwk
namespace AbilityConnectionSession

/-! ## Allowed writes -/

/-- A write may leave `UNCONNECTED` only to `CONNECTING` and only in `Connect`
or `AcceptConnect`, and may reach `CONNECTED` only from `CONNECTING`. -/
def AllowedWrite (opens : Bool) (old new : SessionStatus) : Prop :=
  (old = .unconnected → new ≠ .unconnected →
    opens = true ∧ new = .connecting) ∧
  (old ≠ .connected → new = .connected → old = .connecting)

def AllowedWrites (opens : Bool) (old : SessionStatus) :
    List SessionStatus → Prop
  | [] => True
  | new :: writes =>
      AllowedWrite opens old new ∧ AllowedWrites opens new writes

/-- Every write of the step is allowed, and the writes account for the status
after it. -/
def NeverRevives (session : AbilityConnectionSession)
    (event : SessionEvent) : Prop :=
  AllowedWrites event.opens session.sessionStatus (session.step event).1 ∧
    (session.step event).2.sessionStatus =
      (session.step event).1.getLastD session.sessionStatus

/-- The condition on a step: no positive collaboration result is handled by a
session that is not connecting or connected. -/
def NoLateResult (session : AbilityConnectionSession) :
    SessionEvent → Prop
  | .handleCollabResult result _ _ =>
      result = 0 → session.sessionStatus ≠ .unconnected
  | _ => True

instance (opens : Bool) (old new : SessionStatus) :
    Decidable (AllowedWrite opens old new) :=
  inferInstanceAs (Decidable (_ ∧ _))

instance (opens : Bool) : ∀ (old : SessionStatus)
    (writes : List SessionStatus), Decidable (AllowedWrites opens old writes)
  | _, [] => .isTrue trivial
  | _, new :: writes =>
      have := instDecidableAllowedWrites opens new writes
      inferInstanceAs (Decidable (_ ∧ _))

instance (session : AbilityConnectionSession) (event : SessionEvent) :
    Decidable (session.NeverRevives event) :=
  inferInstanceAs (Decidable (_ ∧ _))

instance (session : AbilityConnectionSession) :
    ∀ event, Decidable (session.NoLateResult event)
  | .handleCollabResult _ _ _ => inferInstanceAs (Decidable (_ → _))
  | .connect _ _ _ _ => .isTrue trivial
  | .acceptConnect _ _ _ _ => .isTrue trivial
  | .handlePeerVersion _ => .isTrue trivial
  | .disconnect => .isTrue trivial
  | .handleDisconnect => .isTrue trivial
  | .onChannelConnect _ => .isTrue trivial
  | .onChannelClosed _ => .isTrue trivial
  | .onMessageReceived _ _ _ => .isTrue trivial
  | .streamChannelBound _ => .isTrue trivial
  | .timeout => .isTrue trivial
  | .runTask => .isTrue trivial

def Clean (session : AbilityConnectionSession) : Prop :=
  session.sessionStatus = .unconnected →
    ∀ transType, session.transChannels transType = none

structure Sound (opens : Bool) (old : SessionStatus) (result : Written) :
    Prop where
  allowed : AllowedWrites opens old result.1
  clean : result.2.Clean

section Steps

variable {session : AbilityConnectionSession} {opens : Bool}

theorem sound_unwritten {old : SessionStatus} (hclean : session.Clean) :
    Sound opens old ([], session) :=
  ⟨trivial, hclean⟩

theorem clean_of_ne (hstatus : session.sessionStatus ≠ .unconnected) :
    session.Clean :=
  fun hunconnected => absurd hunconnected hstatus

theorem sound_release (hclean : session.Clean) :
    Sound opens session.sessionStatus session.release := by
  unfold release
  split_ifs with hstatus
  · exact sound_unwritten hclean
  · refine ⟨⟨⟨?_, ?_⟩, trivial⟩, ?_⟩
    · intro hunconnected
      exact absurd hunconnected hstatus
    · intro _ hconnected
      cases hconnected
    · intro _ transType
      rfl

theorem sound_connected (hopen : session.sessionStatus ≠ .unconnected) :
    Sound opens session.sessionStatus (session.setStatus .connected) := by
  refine ⟨⟨⟨?_, ?_⟩, trivial⟩, ?_⟩
  · intro hunconnected
    exact absurd hunconnected hopen
  · intro hconnected _
    cases hstatus : session.sessionStatus with
    | unconnected => exact absurd hstatus hopen
    | connecting => rfl
    | connected => exact absurd hstatus hconnected
  · intro hunconnected
    cases hunconnected

theorem Sound.exeuteConnectCallback {old : SessionStatus} {result : Written}
    (hsound : Sound opens old result) (isConnected : Bool) :
    Sound opens old
      (result.1, result.2.exeuteConnectCallback isConnected) :=
  ⟨hsound.allowed, hsound.clean⟩

theorem sound_notifyAppConnectResult_false (hclean : session.Clean) :
    Sound opens session.sessionStatus
      (session.notifyAppConnectResult false) :=
  (sound_release hclean).exeuteConnectCallback false

theorem sound_notifyAppConnectResult_true
    (hopen : session.sessionStatus ≠ .unconnected) :
    Sound opens session.sessionStatus
      (session.notifyAppConnectResult true) :=
  (sound_connected hopen).exeuteConnectCallback true

theorem sound_handleSessionConnect
    (hopen : session.sessionStatus ≠ .unconnected) :
    Sound opens session.sessionStatus session.handleSessionConnect := by
  unfold handleSessionConnect
  split_ifs
  · exact sound_unwritten (clean_of_ne hopen)
  · exact sound_connected hopen

section Clean

variable (hclean : session.Clean)

include hclean

theorem Clean.updateTransChannelStatus (channelId : ℤ) (isConnected : Bool) :
    (session.updateTransChannelStatus channelId isConnected).Clean := by
  intro hstatus transType
  have hnone := hclean hstatus transType
  simp [AbilityConnectionSession.updateTransChannelStatus, hnone]

theorem Clean.of_isVaildChannel {channelId : ℤ}
    (hvalid : session.isVaildChannel channelId = true) :
    session.sessionStatus ≠ .unconnected := by
  intro hstatus
  have hnone := hclean hstatus
  simp [isVaildChannel, hnone] at hvalid

/-! ## The operations are sound -/

theorem sound_connect (token : Text) (callback : Bool)
    (updateClientSession : CollabErr) (getPeerVersion : ℤ) :
    Sound true session.sessionStatus
      (session.connect token callback updateClientSession
        getPeerVersion).2 := by
  unfold connect
  simp only
  by_cases hrefused : updateClientSession ≠ .errOk
  · rw [if_pos hrefused]
    exact sound_unwritten hclean
  rw [if_neg hrefused]
  by_cases hbusy : session.sessionStatus ≠ .unconnected
  · rw [if_pos hbusy]
    exact sound_unwritten hclean
  rw [if_neg hbusy]
  have hunconnected : session.sessionStatus = .unconnected :=
    not_not.mp hbusy
  have hallowed : AllowedWrite true session.sessionStatus .connecting := by
    rw [hunconnected]
    decide
  split_ifs
  · exact ⟨⟨hallowed, trivial⟩, fun h => by cases h⟩
  · exact ⟨⟨hallowed, trivial⟩, fun h => by cases h⟩

theorem sound_acceptConnect (token : Text) (updateServerSession : CollabErr)
    (createChannel : TransChannelType → ℤ) (notifyPrepareResult : ℤ) :
    Sound true session.sessionStatus
      (session.acceptConnect token updateServerSession createChannel
        notifyPrepareResult).2 := by
  rcases session.acceptConnect_cases token updateServerSession createChannel
    notifyPrepareResult with
    ⟨-, hexit⟩ | ⟨-, hunconnected, channels, hexit⟩
  · rw [hexit]
    exact @sound_unwritten { session with dmsServerToken := token } _ _
      hclean
  have hallowed : AllowedWrite true session.sessionStatus .connecting := by
    rw [hunconnected]
    decide
  have hnext : (session.accepting token channels).Clean :=
    clean_of_ne (by simp [accepting])
  have hreleased : Sound true .connecting
      (session.accepting token channels).release := sound_release hnext
  rcases hexit with hexit | hexit
  · rw [hexit]
    exact ⟨⟨hallowed, hreleased.allowed⟩, hreleased.clean⟩
  · rw [hexit]
    exact ⟨⟨hallowed, trivial⟩, hnext⟩

theorem sound_handleCollabResult {result : ℤ}
    (hresult : result = 0 → session.sessionStatus ≠ .unconnected)
    (dmsServerToken : Text) (answers : ChannelAnswers) :
    Sound opens session.sessionStatus
      (session.handleCollabResult result dmsServerToken answers).2 := by
  rcases session.handleCollabResult_cases result dmsServerToken answers with
    ⟨-, hexit⟩ | ⟨hpositive, channels, hexit⟩
  · rw [hexit]
    exact @sound_notifyAppConnectResult_false
      { session with dmsServerToken := dmsServerToken } _ hclean
  have hopen : { session with
      dmsServerToken := dmsServerToken
      transChannels := channels }.sessionStatus ≠ .unconnected :=
    hresult hpositive
  rcases hexit with hexit | hexit | hexit
  · rw [hexit]
    exact sound_notifyAppConnectResult_false (clean_of_ne hopen)
  · rw [hexit]
    exact sound_unwritten (clean_of_ne hopen)
  · rw [hexit]
    exact sound_notifyAppConnectResult_true hopen

theorem sound_onChannelConnect (channelId : ℤ) :
    Sound opens session.sessionStatus
      (session.onChannelConnect channelId) := by
  unfold onChannelConnect
  by_cases hvalid : session.isVaildChannel channelId = true
  · have hopen := hclean.of_isVaildChannel hvalid
    have hupdated := hclean.updateTransChannelStatus channelId true
    rw [if_pos hvalid]
    simp only
    split_ifs
    · exact @sound_handleSessionConnect
        (session.updateTransChannelStatus channelId true) opens hopen
    · exact sound_unwritten hupdated
  · rw [if_neg hvalid]
    exact sound_unwritten hclean

end Clean

theorem sound_connectFileChannel
    (hopen : session.sessionStatus ≠ .unconnected)
    (answers : ChannelAnswers) :
    Sound opens session.sessionStatus
      (session.connectFileChannel answers) := by
  obtain ⟨channels, hexit⟩ := session.connectFileChannel_cases answers
  have hnext : { session with
      transChannels := channels }.sessionStatus ≠ .unconnected := hopen
  rcases hexit with hexit | hexit
  · rw [hexit]
    exact sound_unwritten (clean_of_ne hnext)
  · rw [hexit]
    exact sound_handleSessionConnect hnext

theorem sound_onMessageReceived (hclean : session.Clean) (channelId : ℤ)
    (dataType : Option ℕ) (answers : ChannelAnswers) :
    Sound opens session.sessionStatus
      (session.onMessageReceived channelId dataType answers) := by
  unfold onMessageReceived
  by_cases hvalid : session.isVaildChannel channelId = true
  · have hopen := hclean.of_isVaildChannel hvalid
    rw [if_pos hvalid]
    split
    · exact sound_connectFileChannel hopen answers
    · exact sound_notifyAppConnectResult_true hopen
    · exact sound_notifyAppConnectResult_false hclean
    · exact sound_handleSessionConnect hopen
    · exact sound_unwritten hclean
  · rw [if_neg hvalid]
    exact sound_unwritten hclean

theorem sound_step (hclean : session.Clean) {event : SessionEvent}
    (hevent : session.NoLateResult event) :
    Sound event.opens session.sessionStatus (session.step event) := by
  cases event with
  | connect token callback updateClientSession getPeerVersion =>
      exact sound_connect hclean token callback updateClientSession
        getPeerVersion
  | acceptConnect token updateServerSession createChannel
      notifyPrepareResult =>
      exact sound_acceptConnect hclean token updateServerSession
        createChannel notifyPrepareResult
  | handlePeerVersion collabMission =>
      simp only [step, handlePeerVersion]
      split_ifs
      · exact sound_unwritten hclean
      · exact sound_unwritten hclean
  | handleCollabResult result dmsServerToken answers =>
      exact sound_handleCollabResult hclean hevent dmsServerToken answers
  | disconnect => exact sound_release hclean
  | handleDisconnect => exact sound_release hclean
  | onChannelConnect channelId =>
      exact sound_onChannelConnect hclean channelId
  | onChannelClosed channelId =>
      simp only [step, onChannelClosed]
      split_ifs
      · exact sound_release hclean
      · exact sound_unwritten hclean
  | onMessageReceived channelId dataType answers =>
      exact sound_onMessageReceived hclean channelId dataType answers
  | streamChannelBound channelId =>
      exact sound_unwritten
        (hclean.updateTransChannelStatus channelId true)
  | timeout => exact sound_release hclean
  | runTask =>
      simp only [step]
      cases session.tasks with
      | nil => exact sound_unwritten hclean
      | cons task rest =>
          simp only [runConnectTask]
          split_ifs
          · exact @sound_release { session with tasks := rest } _ hclean
          · exact sound_unwritten hclean

end Steps

/-- In every run without late results, from the creation of a session on, the
status leaves `UNCONNECTED` only through `Connect` or `AcceptConnect` and
reaches `CONNECTED` only from `CONNECTING`. -/
theorem neverRevives_run (sessionInfo : AbilityConnectionSessionInfo)
    (connectOption : ConnectOption) (events : List SessionEvent)
    (hmeets : EventRun.Meets step NoLateResult
      (create sessionInfo connectOption) events) :
    EventRun.Meets step NeverRevives (create sessionInfo connectOption)
      events := by
  have hcreated : (create sessionInfo connectOption).Clean := by
    intro _ transType
    rfl
  have hgood : ∀ session event, Clean session → NoLateResult session event →
      NeverRevives session event := fun session event hclean hevent =>
    ⟨(sound_step hclean hevent).allowed, status_step session event⟩
  have hkept : ∀ session event, Clean session → NoLateResult session event →
      (session.step event).2.Clean := fun _ _ hclean hevent =>
    (sound_step hclean hevent).clean
  exact hmeets.guarantee hgood hkept hcreated

def plainInfo : AbilityConnectionSessionInfo :=
  ⟨"notes".toList,
    ⟨[], "com.demo.notes".toList, "entry".toList, "EntryAbility".toList,
      "notes".toList⟩,
    ⟨"deviceB".toList, "com.demo.notes".toList, "entry".toList,
      "EntryAbility".toList, "notes".toList⟩⟩

def plainOption : ConnectOption := ⟨false, false, false, false, false⟩

def goodAnswers : ChannelAnswers := ⟨fun _ => 1001, fun _ => 0, 0⟩

def regularSession : List SessionEvent :=
  [.connect "token".toList true .errOk 0,
    .handleCollabResult 0 "token".toList goodAnswers, .runTask, .disconnect,
    .acceptConnect "other".toList .errOk (fun _ => 1002) 0,
    .onChannelConnect 1002, .handleDisconnect]

theorem neverRevives_regularSession :
    EventRun.Meets step NoLateResult (create plainInfo plainOption)
        regularSession ∧
      EventRun.Meets step NeverRevives (create plainInfo plainOption)
        regularSession := by
  have hmeets : EventRun.Meets step NoLateResult
      (create plainInfo plainOption) regularSession := by
    decide
  exact ⟨hmeets,
    neverRevives_run plainInfo plainOption regularSession hmeets⟩

def lateResult : List SessionEvent :=
  [.connect "token".toList true .errOk 0, .disconnect,
    .handleCollabResult 0 "token".toList goodAnswers]

theorem not_neverRevives_lateResult :
    (EventRun.run step (create plainInfo plainOption) lateResult).1 =
        [[.connecting], [.unconnected], [.connected]] ∧
      ¬ EventRun.Meets step NeverRevives (create plainInfo plainOption)
        lateResult := by
  decide

end AbilityConnectionSession

end Dmsfwk
