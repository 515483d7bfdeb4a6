import Dmsfwk.DSchedContinueManager
import Dmsfwk.EventRun

/-!
# Commands between two devices

Two devices with the sessions between them and the commands under way.  A
session has the same name at both ends.  `ConnectDevice` may hand out a session
which another continuation uses, while a received command is handed to the first
continuation with its session.
-/

namespace Dmsfwk
namespace ContinueManager

open Continuation OrderedMap

/-! ## Two devices -/

inductive Device where
  | a
  | b
  deriving DecidableEq, Repr

def Device.other : Device → Device
  | .a => .b
  | .b => .a

structure Message where
  receiver : Device
  sessionId : ℤ
  sender : DSchedContinueInfo
  command : CmdType
  deriving DecidableEq, Repr

structure Network where
  a : Manager
  b : Manager
  sessions : List ℤ
  wire : List Message

def Network.initial : Network := ⟨.initial, .initial, [], []⟩

inductive NetworkMove where
  | request (device : Device) (info : DSchedContinueInfo) (answers : Answers)
  | connect (device : Device) (compareInfo : Text) (sessionId : ℤ)
      (sent : Bool)
  | send (device : Device) (compareInfo : Text) (command : CmdType)
  | deliver (message : Message) (answers : Answers)
  | continueEnd (device : Device) (info : DSchedContinueInfo)
      (getLocalDeviceId : Bool)
  | openSession (sessionId : ℤ)
  | closeSession (sessionId : ℤ)

namespace Network

def manager (network : Network) : Device → Manager
  | .a => network.a
  | .b => network.b

def setManager (network : Network) : Device → Manager → Network
  | .a, manager => { network with a := manager }
  | .b, manager => { network with b := manager }

def openSession (network : Network) (sessionId : ℤ) : Network :=
  if sessionId ≤ 0 ∨ sessionId ∈ network.sessions then network
  else { network with sessions := sessionId :: network.sessions }

def peerDeviceId (localDevId : Text) (info : DSchedContinueInfo) : Text :=
  if info.sinkDeviceId = localDevId then info.sourceDeviceId
  else info.sinkDeviceId

def connect (deviceId : Device → Text) (network : Network) (device : Device)
    (compareInfo : Text) (sessionId : ℤ) (sent : Bool) : Network :=
  match (network.manager device).continues[compareInfo]? with
  | none => network
  | some entry =>
      if entry.sessionId = invalidSessionId ∧ 0 < sessionId ∧
          peerDeviceId (deviceId device) entry.info =
            deviceId device.other then
        let connected := (network.setManager device
          ((network.manager device).setSession compareInfo
            sessionId)).openSession sessionId
        if sent then
          { connected with
            wire := connected.wire ++
              [⟨device.other, sessionId, entry.info, .start⟩] }
        else connected
      else network

def send (network : Network) (device : Device) (compareInfo : Text)
    (command : CmdType) : Network :=
  match (network.manager device).continues[compareInfo]? with
  | none => network
  | some entry =>
      if entry.sessionId ∈ network.sessions ∧ command ≠ .start then
        { network with
          wire := network.wire ++
            [⟨device.other, entry.sessionId, entry.info, command⟩] }
      else network

def startInfo (message : Message) : Option DSchedContinueInfo :=
  if message.command = .start then some message.sender else none

def receive (deviceId : Device → Text) (network : Network)
    (message : Message) (answers : Answers) : Outcome × Manager :=
  (network.manager message.receiver).notifyContinueDataRecv
    (deviceId message.receiver) answers message.sessionId (startInfo message)

def step (deviceId : Device → Text) (network : Network) :
    NetworkMove → Outcome × Network
  | .request device info answers =>
      let result := (network.manager device).handleContinueMissionWithBundleName
        (deviceId device) answers info
      (result.1, network.setManager device result.2)
  | .connect device compareInfo sessionId sent =>
      (.ignored, network.connect deviceId device compareInfo sessionId sent)
  | .send device compareInfo command =>
      (.ignored, network.send device compareInfo command)
  | .deliver message answers =>
      if message ∈ network.wire then
        let result := network.receive deviceId message answers
        (result.1, { network with
          wire := network.wire.erase message }.setManager message.receiver
            result.2)
      else (.ignored, network)
  | .continueEnd device info getLocalDeviceId =>
      (.ignored, network.setManager device
        ((network.manager device).handleContinueEnd (deviceId device)
          getLocalDeviceId info))
  | .openSession sessionId => (.ignored, network.openSession sessionId)
  | .closeSession sessionId =>
      (.ignored, { network with
        sessions := network.sessions.filter (· ≠ sessionId)
        wire := network.wire.filter (·.sessionId ≠ sessionId) })

end Network

/-! ## Commands reach their own continuation -/

structure SameIdentity (info other : DSchedContinueInfo) : Prop where
  sourceDeviceId : info.sourceDeviceId = other.sourceDeviceId
  sourceBundleName : info.sourceBundleName = other.sourceBundleName
  sinkDeviceId : info.sinkDeviceId = other.sinkDeviceId
  sinkBundleName : info.sinkBundleName = other.sinkBundleName

instance (info other : DSchedContinueInfo) :
    Decidable (SameIdentity info other) :=
  decidable_of_iff
    (info.sourceDeviceId = other.sourceDeviceId ∧
      info.sourceBundleName = other.sourceBundleName ∧
      info.sinkDeviceId = other.sinkDeviceId ∧
      info.sinkBundleName = other.sinkBundleName)
    ⟨fun ⟨hsource, hsourceBundle, hsink, hsinkBundle⟩ =>
        ⟨hsource, hsourceBundle, hsink, hsinkBundle⟩,
      fun hsame => ⟨hsame.sourceDeviceId, hsame.sourceBundleName,
        hsame.sinkDeviceId, hsame.sinkBundleName⟩⟩

def Manager.NewIdentity (manager : Manager) (info : DSchedContinueInfo) :
    Prop :=
  ∀ (key : Text) (entry : Entry), manager.continues[key]? = some entry →
    ¬SameIdentity entry.info info

/-- A command under way is handled only by a continuation of its identity, and
the start of a new one registers it or is refused. -/
structure ReachesOwn (deviceId : Device → Text) (network : Network)
    (message : Message) (answers : Answers) : Prop where
  handled : ∀ info,
    (network.receive deviceId message answers).1 = .handled info →
      SameIdentity info message.sender
  created : ∀ info,
    (network.receive deviceId message answers).1 = .created info →
      SameIdentity info message.sender
  started : message.command = .start →
    (network.manager message.receiver).NewIdentity message.sender →
    (∃ ret, (network.receive deviceId message answers).1 = .refused ret) ∨
    ∃ info, (network.receive deviceId message answers).1 = .created info ∧
      (network.receive deviceId message answers).2.continues[
        info.compareInfo]? = some ⟨info, message.sessionId⟩

def Network.DispatchesOwn (deviceId : Device → Text) (network : Network) :
    NetworkMove → Prop
  | .deliver message answers =>
      message ∈ network.wire → ReachesOwn deviceId network message answers
  | _ => True

def Network.Unused (network : Network) (sessionId : ℤ) : Prop :=
  (∀ entry ∈ network.a.continues.toList, entry.2.sessionId ≠ sessionId) ∧
    (∀ entry ∈ network.b.continues.toList, entry.2.sessionId ≠ sessionId) ∧
    ∀ message ∈ network.wire, message.sessionId ≠ sessionId

instance (network : Network) : DecidablePred network.Unused :=
  fun _ => inferInstanceAs (Decidable (_ ∧ _ ∧ _))

/-- Each continuation gets a session of its own, and a start command which
creates a continuation keeps its identity and does not meet the key of another
one. -/
def Network.Exclusive (deviceId : Device → Text) (network : Network) :
    NetworkMove → Prop
  | .connect _ _ sessionId _ => network.Unused sessionId
  | .deliver message answers =>
      (network.manager message.receiver).findSession message.sessionId = none →
      ∀ info ∈ startInfo message,
        ∀ _direction ∈ ((network.manager
            message.receiver).checkContinuationLimit
              (deviceId message.receiver) answers info.sourceDeviceId
              info.sinkDeviceId).toOption,
          SameIdentity
            (DSchedContinue.fillBundleNames answers.getMissionInfo info) info ∧
          ∀ entry ∈ (network.manager message.receiver).continues[
              (DSchedContinue.fillBundleNames answers.getMissionInfo
                info).compareInfo]?,
            SameIdentity entry.info info
  | _ => True

instance (deviceId : Device → Text) (network : Network) :
    DecidablePred (network.Exclusive deviceId) := by
  intro move
  unfold Network.Exclusive
  split <;> infer_instance

/-! ## Users of a session -/

theorem SameIdentity.refl (info : DSchedContinueInfo) :
    SameIdentity info info := ⟨rfl, rfl, rfl, rfl⟩

theorem SameIdentity.symm {info other : DSchedContinueInfo}
    (hsame : SameIdentity info other) : SameIdentity other info :=
  ⟨hsame.sourceDeviceId.symm, hsame.sourceBundleName.symm,
    hsame.sinkDeviceId.symm, hsame.sinkBundleName.symm⟩

theorem SameIdentity.trans {info other last : DSchedContinueInfo}
    (hsame : SameIdentity info other) (hnext : SameIdentity other last) :
    SameIdentity info last :=
  ⟨hsame.sourceDeviceId.trans hnext.sourceDeviceId,
    hsame.sourceBundleName.trans hnext.sourceBundleName,
    hsame.sinkDeviceId.trans hnext.sinkDeviceId,
    hsame.sinkBundleName.trans hnext.sinkBundleName⟩

def Manager.Uses (manager : Manager) (sessionId : ℤ)
    (info : DSchedContinueInfo) : Prop :=
  ∃ (key : Text) (entry : Entry), manager.continues[key]? = some entry ∧
    entry.sessionId = sessionId ∧ entry.info = info

def Network.Uses (network : Network) (sessionId : ℤ)
    (info : DSchedContinueInfo) : Prop :=
  (∃ device, (network.manager device).Uses sessionId info) ∨
    ∃ message ∈ network.wire,
      message.sessionId = sessionId ∧ message.sender = info

structure Network.Owned (network : Network) : Prop where
  same : ∀ sessionId, 0 < sessionId → ∀ info other,
    network.Uses sessionId info → network.Uses sessionId other →
      SameIdentity info other
  wire : ∀ message ∈ network.wire, 0 < message.sessionId
  sessions : ∀ sessionId ∈ network.sessions, 0 < sessionId

namespace Manager

section Uses

variable {manager : Manager} {sessionId : ℤ} {info : DSchedContinueInfo}

theorem uses_register {entry : Entry}
    (huses : (manager.register entry).Uses sessionId info) :
    manager.Uses sessionId info ∨
      (entry.sessionId = sessionId ∧ entry.info = info) := by
  obtain ⟨key, found, hfound, hsession, hinfo⟩ := huses
  simp only [register, Std.TreeMap.getElem?_insertIfNew] at hfound
  split_ifs at hfound with hnew
  · cases hfound
    exact .inr ⟨hsession, hinfo⟩
  · exact .inl ⟨key, found, hfound, hsession, hinfo⟩

theorem uses_request {localDevId : Text} {answers : Answers}
    {request : DSchedContinueInfo} (hsession : 0 < sessionId)
    (huses : (manager.handleContinueMissionWithBundleName localDevId answers
      request).2.Uses sessionId info) :
    manager.Uses sessionId info := by
  have hcountUp : ∀ direction, (manager.countUp direction).continues =
      manager.continues := by
    intro direction
    cases direction <;> rfl
  unfold handleContinueMissionWithBundleName at huses
  split at huses
  · exact huses
  · next direction hcheck =>
      dsimp only at huses
      split_ifs at huses with hold
      · simpa only [Uses, hcountUp] using huses
      · rcases uses_register huses with hused | hentry
        · simpa only [Uses, hcountUp] using hused
        · rw [← hentry.1] at hsession
          simp [invalidSessionId] at hsession

theorem uses_handleContinueEnd {localDevId : Text} {getLocalDeviceId : Bool}
    {ended : DSchedContinueInfo}
    (huses : (manager.handleContinueEnd localDevId getLocalDeviceId
      ended).Uses sessionId info) :
    manager.Uses sessionId info := by
  have herased : ∀ (key : Text) (entry : Entry),
      (manager.continues.erase ended.compareInfo)[key]? = some entry →
        manager.continues[key]? = some entry := by
    intro key entry hentry
    rw [getElem?_erase_eq] at hentry
    split_ifs at hentry
    exact hentry
  obtain ⟨key, entry, hentry, hused⟩ := huses
  refine ⟨key, entry, ?_, hused⟩
  unfold handleContinueEnd at hentry
  split_ifs at hentry
  · exact hentry
  all_goals exact herased key entry hentry

theorem uses_setSession {compareInfo : Text} {given : ℤ} {entry : Entry}
    (hentry : manager.continues[compareInfo]? = some entry)
    (huses : (manager.setSession compareInfo given).Uses sessionId info) :
    manager.Uses sessionId info ∨
      (given = sessionId ∧ entry.info = info) := by
  obtain ⟨key, found, hfound, hused⟩ := huses
  unfold setSession at hfound
  rw [hentry] at hfound
  dsimp only at hfound
  rw [getElem?_insert_eq] at hfound
  split_ifs at hfound
  · cases hfound
    exact .inr hused
  · exact .inl ⟨key, found, hfound, hused⟩

end Uses

end Manager

namespace Network

section Steps

variable {deviceId : Device → Text} {network : Network} {device : Device}
  {sessionId : ℤ} {info : DSchedContinueInfo}

@[simp] theorem manager_setManager_self (manager : Manager) :
    (network.setManager device manager).manager device = manager := by
  cases device <;> rfl

theorem manager_setManager_other (manager : Manager) {other : Device}
    (hother : other ≠ device) :
    (network.setManager device manager).manager other =
      network.manager other := by
  cases device <;> cases other
  · exact absurd rfl hother
  · rfl
  · rfl
  · exact absurd rfl hother

@[simp] theorem wire_setManager (manager : Manager) :
    (network.setManager device manager).wire = network.wire := by
  cases device <;> rfl

@[simp] theorem sessions_setManager (manager : Manager) :
    (network.setManager device manager).sessions = network.sessions := by
  cases device <;> rfl

theorem uses_setManager {manager : Manager}
    (huses : (network.setManager device manager).Uses sessionId info) :
    manager.Uses sessionId info ∨ network.Uses sessionId info := by
  rcases huses with ⟨other, hused⟩ | hwire
  · by_cases hother : other = device
    · subst hother
      rw [manager_setManager_self] at hused
      exact .inl hused
    · rw [manager_setManager_other manager hother] at hused
      exact .inr (.inl ⟨other, hused⟩)
  · rw [wire_setManager] at hwire
    exact .inr (.inr hwire)

theorem Owned.of_covered {next : Network} (howned : network.Owned)
    (hcovered : ∀ sessionId, 0 < sessionId → ∀ info,
      next.Uses sessionId info →
        ∃ other, network.Uses sessionId other ∧ SameIdentity info other)
    (hwire : ∀ message ∈ next.wire, 0 < message.sessionId)
    (hsessions : ∀ sessionId ∈ next.sessions, 0 < sessionId) :
    next.Owned where
  same := by
    intro sessionId hpositive info other hinfo hother
    obtain ⟨first, hfirst, hsame⟩ := hcovered sessionId hpositive info hinfo
    obtain ⟨second, hsecond, hsame'⟩ :=
      hcovered sessionId hpositive other hother
    exact (hsame.trans (howned.same sessionId hpositive first second hfirst
      hsecond)).trans hsame'.symm
  wire := hwire
  sessions := hsessions

theorem Owned.setManager (howned : network.Owned) {manager : Manager}
    (hkept : ∀ sessionId, 0 < sessionId → ∀ info,
      manager.Uses sessionId info →
        ∃ other, network.Uses sessionId other ∧ SameIdentity info other) :
    (network.setManager device manager).Owned := by
  refine howned.of_covered ?_ (by simpa using howned.wire)
    (by simpa using howned.sessions)
  intro sessionId hpositive info huses
  rcases uses_setManager huses with hnew | hold
  · exact hkept sessionId hpositive info hnew
  · exact ⟨info, hold, .refl info⟩

theorem owned_initial : Owned .initial where
  same := by
    intro sessionId hpositive info other huses
    rcases huses with ⟨device, key, entry, hentry, -⟩ | ⟨message, hmem, -⟩
    · cases device <;> simp [manager, initial, Manager.initial] at hentry
    · exact absurd hmem List.not_mem_nil
  wire := by simp [initial]
  sessions := by simp [initial]

theorem Owned.openSession (howned : network.Owned) (opened : ℤ) :
    (network.openSession opened).Owned := by
  unfold Network.openSession
  split_ifs with hopened
  · exact howned
  · rw [not_or, not_le] at hopened
    refine ⟨howned.same, howned.wire, ?_⟩
    intro sessionId hmem
    rcases List.mem_cons.mp hmem with rfl | hold
    · exact hopened.1
    · exact howned.sessions sessionId hold

theorem Owned.addMessage (howned : network.Owned) {message : Message}
    (hpositive : 0 < message.sessionId)
    (hused : network.Uses message.sessionId message.sender) :
    Owned { network with wire := network.wire ++ [message] } := by
  refine howned.of_covered ?_ ?_ howned.sessions
  · intro sessionId _ info huses
    rcases huses with hregistered | ⟨other, hmem, hsession, hinfo⟩
    · exact ⟨info, .inl hregistered, .refl info⟩
    · rcases List.mem_append.mp hmem with hold | hnew
      · exact ⟨info, .inr ⟨other, hold, hsession, hinfo⟩, .refl info⟩
      · obtain rfl := List.mem_singleton.mp hnew
        subst hsession hinfo
        exact ⟨other.sender, hused, .refl other.sender⟩
  · intro other hmem
    rcases List.mem_append.mp hmem with hold | hnew
    · exact howned.wire other hold
    · rw [List.mem_singleton.mp hnew]
      exact hpositive

theorem Owned.send (howned : network.Owned) (compareInfo : Text)
    (command : CmdType) : (network.send device compareInfo command).Owned := by
  unfold Network.send
  split
  · exact howned
  · next entry hentry =>
      split_ifs with hsession
      · exact howned.addMessage (howned.sessions _ hsession.1)
          (.inl ⟨device, compareInfo, entry, hentry, rfl, rfl⟩)
      · exact howned

theorem not_uses_of_unused (hunused : network.Unused sessionId) :
    ¬network.Uses sessionId info := by
  rintro (⟨device, key, entry, hentry, hsession, -⟩ | ⟨message, hmem, hsession, -⟩)
  · have hmem := Std.TreeMap.mem_toList_iff_getElem?_eq_some.mpr hentry
    cases device
    · exact hunused.1 _ hmem hsession
    · exact hunused.2.1 _ hmem hsession
  · exact hunused.2.2 message hmem hsession

theorem Owned.giveSession (howned : network.Owned) {compareInfo : Text}
    {entry : Entry}
    (hentry : (network.manager device).continues[compareInfo]? = some entry)
    (hunused : network.Unused sessionId) :
    (network.setManager device ((network.manager device).setSession
      compareInfo sessionId)).Owned := by
  have hcases : ∀ session info, (network.setManager device
      ((network.manager device).setSession compareInfo sessionId)).Uses
        session info →
      network.Uses session info ∨
        (sessionId = session ∧ entry.info = info) := by
    intro session info huses
    rcases uses_setManager huses with hnew | hold
    · rcases Manager.uses_setSession hentry hnew with hkept | hgiven
      · exact .inl (.inl ⟨device, hkept⟩)
      · exact .inr hgiven
    · exact .inl hold
  refine ⟨?_, by simpa using howned.wire, by simpa using howned.sessions⟩
  intro session hpositive info other hinfo hother
  rcases hcases session info hinfo with hold | ⟨rfl, rfl⟩
  · rcases hcases session other hother with hold' | ⟨rfl, rfl⟩
    · exact howned.same session hpositive info other hold hold'
    · exact absurd hold (not_uses_of_unused hunused)
  · rcases hcases _ other hother with hold' | ⟨-, rfl⟩
    · exact absurd hold' (not_uses_of_unused hunused)
    · exact .refl entry.info

theorem uses_setSession_self {compareInfo : Text} {entry : Entry}
    (hentry : (network.manager device).continues[compareInfo]? = some entry) :
    (network.setManager device ((network.manager device).setSession
      compareInfo sessionId)).Uses sessionId entry.info := by
  refine .inl ⟨device, compareInfo, { entry with sessionId := sessionId }, ?_,
    rfl, rfl⟩
  rw [manager_setManager_self, Manager.setSession, hentry]
  dsimp only
  rw [getElem?_insert_eq, if_pos rfl]

theorem uses_openSession (opened : ℤ)
    (huses : network.Uses sessionId info) :
    (network.openSession opened).Uses sessionId info := by
  unfold Network.openSession
  split_ifs
  · exact huses
  · exact huses.imp (fun ⟨device, hused⟩ => ⟨device, by cases device <;> exact hused⟩)
      id

theorem Owned.connect (howned : network.Owned) (compareInfo : Text)
    (sent : Bool) (hunused : network.Unused sessionId) :
    (network.connect deviceId device compareInfo sessionId sent).Owned := by
  unfold Network.connect
  split
  · exact howned
  · next entry hentry =>
      split_ifs with hconnect hsent
      · have hconnected :=
          (howned.giveSession hentry hunused).openSession sessionId
        exact hconnected.addMessage hconnect.2.1
          (uses_openSession sessionId (uses_setSession_self hentry))
      · exact (howned.giveSession hentry hunused).openSession sessionId
      · exact howned

/-- A received command is handled by a continuation with its session, is not
for anyone, is refused, or creates a continuation. -/
theorem receive_cases (deviceId : Device → Text) (network : Network)
    (message : Message) (answers : Answers) :
    (∃ key entry, (network.manager message.receiver).findSession
        message.sessionId = some (key, entry) ∧
      network.receive deviceId message answers =
        (.handled entry.info, network.manager message.receiver)) ∨
    ((network.manager message.receiver).findSession message.sessionId = none ∧
      startInfo message = none ∧
      network.receive deviceId message answers =
        (.ignored, network.manager message.receiver)) ∨
    (∃ ret, network.receive deviceId message answers =
        (.refused ret, network.manager message.receiver)) ∨
    ∃ info direction,
      (network.manager message.receiver).findSession message.sessionId = none ∧
      startInfo message = some info ∧
      (network.manager message.receiver).checkContinuationLimit
        (deviceId message.receiver) answers info.sourceDeviceId
        info.sinkDeviceId = .ok direction ∧
      network.receive deviceId message answers =
        (.created
            (DSchedContinue.fillBundleNames answers.getMissionInfo info),
          (network.manager message.receiver).register
            ⟨DSchedContinue.fillBundleNames answers.getMissionInfo info,
              message.sessionId⟩) := by
  unfold receive Manager.notifyContinueDataRecv
  split
  · next key entry hfind => exact .inl ⟨key, entry, hfind, rfl⟩
  · next hfind =>
      split
      · next hstart => exact .inr (.inl ⟨hfind, hstart, rfl⟩)
      · next info hstart =>
          split
          · next ret hcheck => exact .inr (.inr (.inl ⟨ret, rfl⟩))
          · next direction hcheck =>
              exact .inr (.inr (.inr
                ⟨info, direction, hfind, hstart, hcheck, rfl⟩))

theorem startInfo_eq_some {message : Message}
    (hstart : startInfo message = some info) :
    message.command = .start ∧ message.sender = info := by
  unfold startInfo at hstart
  split_ifs at hstart with hcommand
  exact ⟨hcommand, Option.some.inj hstart⟩

theorem Owned.deliver (howned : network.Owned) {message : Message}
    {answers : Answers} (hmem : message ∈ network.wire)
    (hexclusive : network.Exclusive deviceId (.deliver message answers)) :
    (Network.setManager
      { network with wire := network.wire.erase message } message.receiver
      (network.receive deviceId message answers).2).Owned := by
  refine howned.of_covered ?_ ?_ (by simpa using howned.sessions)
  · intro sessionId _ info huses
    rcases uses_setManager huses with hnew | hold
    · have hkept : (network.manager message.receiver).Uses sessionId info →
          ∃ other, network.Uses sessionId other ∧ SameIdentity info other :=
        fun hused => ⟨info, .inl ⟨message.receiver, hused⟩, .refl info⟩
      rcases receive_cases deviceId network message answers with
        ⟨key, entry, -, hreceive⟩ | ⟨-, -, hreceive⟩ | ⟨ret, hreceive⟩ |
        ⟨start, direction, hfind, hstart, hcheck, hreceive⟩
      · rw [hreceive] at hnew
        exact hkept hnew
      · rw [hreceive] at hnew
        exact hkept hnew
      · rw [hreceive] at hnew
        exact hkept hnew
      · rw [hreceive] at hnew
        rcases Manager.uses_register hnew with hused | ⟨rfl, rfl⟩
        · exact hkept hused
        · -- the start command used the session before its continuation does
          have hidentity := (hexclusive hfind start hstart direction
            (by rw [hcheck]; rfl)).1
          have hsender := (startInfo_eq_some hstart).2
          exact ⟨start, .inr ⟨message, hmem, rfl, hsender⟩, hidentity⟩
    · refine ⟨info, hold.imp_right ?_, .refl info⟩
      rintro ⟨other, hother, hused⟩
      exact ⟨other, List.mem_of_mem_erase hother, hused⟩
  · intro other hother
    rw [wire_setManager] at hother
    exact howned.wire other (List.mem_of_mem_erase hother)

theorem Owned.closeSession (howned : network.Owned) (closed : ℤ) :
    Owned { network with
      sessions := network.sessions.filter (· ≠ closed)
      wire := network.wire.filter (·.sessionId ≠ closed) } := by
  refine howned.of_covered ?_
    (fun message hmem => howned.wire message (List.mem_filter.mp hmem).1)
    (fun sessionId hmem => howned.sessions sessionId (List.mem_filter.mp hmem).1)
  intro sessionId _ info huses
  refine ⟨info, huses.imp_right ?_, .refl info⟩
  rintro ⟨message, hmem, hused⟩
  exact ⟨message, (List.mem_filter.mp hmem).1, hused⟩

theorem owned_step (howned : network.Owned) {move : NetworkMove}
    (hexclusive : network.Exclusive deviceId move) :
    (network.step deviceId move).2.Owned := by
  cases move with
  | request device request answers =>
      apply howned.setManager
      intro sessionId hpositive info huses
      exact ⟨info, .inl ⟨device, Manager.uses_request hpositive huses⟩,
        .refl info⟩
  | connect device compareInfo sessionId sent =>
      exact howned.connect compareInfo sent hexclusive
  | send device compareInfo command => exact howned.send compareInfo command
  | deliver message answers =>
      simp only [step]
      split_ifs with hmem
      · exact howned.deliver hmem hexclusive
      · exact howned
  | continueEnd device ended getLocalDeviceId =>
      apply howned.setManager
      intro sessionId _ info huses
      exact ⟨info, .inl ⟨device, Manager.uses_handleContinueEnd huses⟩,
        .refl info⟩
  | openSession sessionId => exact howned.openSession sessionId
  | closeSession sessionId => exact howned.closeSession sessionId

theorem uses_of_findSession {manager : Manager} {key : Text} {entry : Entry}
    (hfind : manager.findSession sessionId = some (key, entry)) :
    manager.Uses sessionId entry.info := by
  obtain ⟨hentry, htest, -⟩ := firstMatch_spec hfind
  exact ⟨key, entry, hentry, by simpa using htest, rfl⟩

theorem Owned.reachesOwn (howned : network.Owned) {message : Message}
    {answers : Answers} (hmem : message ∈ network.wire)
    (hexclusive : network.Exclusive deviceId (.deliver message answers)) :
    ReachesOwn deviceId network message answers := by
  have hpositive := howned.wire message hmem
  have hsender : network.Uses message.sessionId message.sender :=
    .inr ⟨message, hmem, rfl, rfl⟩
  rcases receive_cases deviceId network message answers with
    ⟨key, entry, hfind, hreceive⟩ | ⟨hfind, hstart, hreceive⟩ |
    ⟨ret, hreceive⟩ | ⟨start, direction, hfind, hstart, hcheck, hreceive⟩
  · have huses := uses_of_findSession hfind
    have hsame : SameIdentity entry.info message.sender :=
      howned.same _ hpositive _ _ (.inl ⟨message.receiver, huses⟩) hsender
    constructor
    · intro info hinfo
      rw [hreceive] at hinfo
      cases hinfo
      exact hsame
    · intro info hinfo
      rw [hreceive] at hinfo
      cases hinfo
    · intro _ hnew
      obtain ⟨found, registered, hregistered, -, hinfo⟩ := huses
      exact absurd (hinfo ▸ hsame) (hnew found registered hregistered)
  · constructor
    · intro info hinfo
      rw [hreceive] at hinfo
      cases hinfo
    · intro info hinfo
      rw [hreceive] at hinfo
      cases hinfo
    · intro hcommand
      simp [startInfo, hcommand] at hstart
  · constructor
    · intro info hinfo
      rw [hreceive] at hinfo
      cases hinfo
    · intro info hinfo
      rw [hreceive] at hinfo
      cases hinfo
    · exact fun _ _ => .inl ⟨ret, by rw [hreceive]⟩
  · obtain ⟨-, rfl⟩ := startInfo_eq_some hstart
    obtain ⟨hsame, hkey⟩ := hexclusive hfind _ hstart direction
      (by rw [hcheck]; rfl)
    constructor
    · intro info hinfo
      rw [hreceive] at hinfo
      cases hinfo
    · intro info hinfo
      rw [hreceive] at hinfo
      cases hinfo
      exact hsame
    · intro _ hnew
      refine .inr ⟨_, by rw [hreceive], ?_⟩
      have hfresh : (network.manager message.receiver).continues[
          (DSchedContinue.fillBundleNames answers.getMissionInfo
            message.sender).compareInfo]? = none := by
        rw [Option.eq_none_iff_forall_ne_some]
        intro entry hentry
        exact hnew _ entry hentry (hkey entry hentry)
      rw [hreceive]
      simp only [Manager.register]
      rw [getElem?_insertIfNew_eq hfresh, if_pos rfl]

end Steps

/-- When every continuation has a session of its own, the commands reach their
own continuations. -/
theorem dispatchesOwn_run (deviceId : Device → Text)
    (moves : List NetworkMove)
    (hexclusive : EventRun.Meets (step deviceId) (Exclusive deviceId) .initial
      moves) :
    EventRun.Meets (step deviceId) (DispatchesOwn deviceId) .initial moves := by
  have hgood : ∀ network move, Owned network →
      network.Exclusive deviceId move → network.DispatchesOwn deviceId move := by
    intro network move howned hexclusive
    cases move with
    | deliver message answers =>
        exact fun hmem => howned.reachesOwn hmem hexclusive
    | _ => trivial
  have hstep : ∀ network move, Owned network →
      network.Exclusive deviceId move → (network.step deviceId move).2.Owned :=
    fun _ _ howned hexclusive => owned_step howned hexclusive
  exact hexclusive.guarantee hgood hstep owned_initial

def sampleDeviceId : Device → Text
  | .a => "A".toList
  | .b => "B".toList

def pushed : DSchedContinueInfo where
  sourceDeviceId := "A".toList
  sourceBundleName := "app".toList
  sinkDeviceId := "B".toList
  sinkBundleName := "app".toList
  continueType := []

def pushedBack : DSchedContinueInfo where
  sourceDeviceId := "B".toList
  sourceBundleName := "other".toList
  sinkDeviceId := "A".toList
  sinkBundleName := "other".toList
  continueType := []

def pushMoves : List NetworkMove :=
  [.request .a pushed {}, .connect .a pushed.compareInfo 1 true,
    .deliver ⟨.b, 1, pushed, .start⟩ {}]

theorem dispatchesOwn_push :
    EventRun.Meets (step sampleDeviceId) (DispatchesOwn sampleDeviceId)
      .initial (pushMoves ++
        [.send .b pushed.compareInfo .reply,
          .deliver ⟨.a, 1, pushed, .reply⟩ {}]) ∧
    (EventRun.run (step sampleDeviceId) .initial (pushMoves ++
        [.send .b pushed.compareInfo .reply,
          .deliver ⟨.a, 1, pushed, .reply⟩ {}])).1 =
      [.created pushed, .ignored, .created pushed, .ignored,
        .handled pushed] :=
  ⟨dispatchesOwn_run sampleDeviceId _ (by decide +kernel), by decide +kernel⟩

/-- A push back on the session of a running push: its start command is handed
to that push, which ignores it. -/
theorem not_dispatchesOwn_shared :
    ¬EventRun.Meets (step sampleDeviceId) (DispatchesOwn sampleDeviceId)
      .initial (pushMoves ++
        [.request .b pushedBack {}, .connect .b pushedBack.compareInfo 1 true,
          .deliver ⟨.a, 1, pushedBack, .start⟩ {}]) := by
  rintro ⟨-, -, -, -, -, hdispatches, -⟩
  have hreaches := hdispatches (by decide +kernel)
  have hsame := hreaches.handled pushed (by decide +kernel)
  revert hsame
  decide +kernel

end Network

end ContinueManager
end Dmsfwk
