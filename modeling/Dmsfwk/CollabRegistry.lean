import Dmsfwk.CollabRedirection
import Dmsfwk.PeerRequests

/-!
# The registry of collaborations

The manager keeps each collaboration in a map under its token, which a local
application or a peer has chosen.  It does not look whether the token is in use:
an insertion leaves the entry that is there, and the new collaboration runs on
without an entry of its own.  The theorems below say for which requests every
collaboration is the one that is registered under its token.
-/

namespace Dmsfwk

open OrderedMap EventRun

/-! ## Data model -/

/-- Collaborations are numbered in the order of their creation. -/
structure CollabRegistry (Params : Type) where
  collabs : Std.TreeMap Text ℕ := ∅
  objects : List (PeerCollab Params) := []
  -- held by the function of the manager that created it
  creating : Option ℕ := none

/-- `localDevId` is the answer of `GetLocalDeviceId`. -/
inductive RegistryEvent (Params : Type) where
  | getSinkCollabVersion (asked : DSchedCollabInfo Params) (srcClientCB : Bool)
      (localDevId : Option Text)
  | notifyDataRecv (softbusSessionId : ℤ) (peer : Text)
      (command : CollabCmd Params) (localDevId : Option Text)
      (answers : RunAnswers) (empty : Params)
  /-- The function that created a collaboration returns. -/
  | release
  /-- `sessionId` is the session which `ConnectDevice` returns. -/
  | collab (id : ℕ) (input : CollabInput Params) (sessionId : ℤ)

def PeerCollab.collabToken {Params : Type} (entry : PeerCollab Params) : Text :=
  entry.running.record.info.collabToken

def PeerCollab.removed {Params : Type} (entry : PeerCollab Params) : Bool :=
  entry.running.collab.removed

namespace CollabRegistry

variable {Params : Type}

/-! ## Steps -/

def getDSchedCollabByTokenId (registry : CollabRegistry Params)
    (tokenId : Text) : Option ℕ :=
  if tokenId = [] then none else registry.collabs[tokenId]?

def cleanUpSession (registry : CollabRegistry Params) (collabToken : Text) :
    CollabRegistry Params :=
  match registry.getDSchedCollabByTokenId collabToken with
  | none => registry
  | some _ => { registry with collabs := registry.collabs.erase collabToken }

def findCollab (registry : CollabRegistry Params) (softbusSessionId : ℤ)
    (collabToken : Text) : Option ℕ :=
  (firstMatch registry.collabs fun id =>
    (registry.objects[id]?).any fun entry =>
      softbusSessionId = entry.softbusSessionId ∧
        collabToken = entry.collabToken).map Prod.snd

/-- The checks of `GetSinkCollabVersion`, with the data that its task gets. -/
def getSinkCollabVersion (asked : DSchedCollabInfo Params) (srcClientCB : Bool)
    (localDevId : Option Text) : Option (DSchedCollabInfo Params) :=
  if asked.srcCollabSessionId < 0 ∨ asked.sinkInfo.deviceId = [] ∨ !srcClientCB
  then none
  else
    localDevId.map fun deviceId =>
      { asked with srcInfo := { asked.srcInfo with deviceId } }

/-- The collaboration that `HandleGetSinkCollabVersion` and `NotifyDataRecv`
make; both are tasks of one thread. -/
def newCollab (registry : CollabRegistry Params) :
    RegistryEvent Params → Option (PeerCollab Params)
  | .getSinkCollabVersion asked srcClientCB localDevId =>
      if registry.creating.isSome then none
      else
        (getSinkCollabVersion asked srcClientCB localDevId).map fun info =>
          { running := RunningCollab.createSource info }
  | .notifyDataRecv softbusSessionId _ (.sinkGetVersion cmd) localDevId _ empty =>
      if registry.creating.isSome then none
      else if (registry.findCollab softbusSessionId
          cmd.base.collabToken).isSome then none
      else if localDevId ≠ some cmd.base.sinkDeviceId then none
      else some {
        running := RunningCollab.createSink cmd empty
        softbusSessionId }
  | _ => none

def create (registry : CollabRegistry Params) (entry : PeerCollab Params) :
    CollabRegistry Params where
  collabs := registry.collabs.insertIfNew entry.collabToken
    registry.objects.length
  objects := registry.objects ++ [entry]
  creating := some registry.objects.length

/-- A collaboration goes on, and takes out the entry of its token when it cleans
up its session. -/
def update (registry : CollabRegistry Params) (id : ℕ)
    (change : PeerCollab Params → PeerCollab Params) : CollabRegistry Params :=
  match registry.objects[id]? with
  | none => registry
  | some entry =>
      let next := { registry with
        objects := registry.objects.set id (change entry) }
      if (change entry).removed && !entry.removed then
        next.cleanUpSession (change entry).collabToken
      else next

def isHeld (registry : CollabRegistry Params) (id : ℕ) : Bool :=
  registry.creating = some id ∨
    (registry.objects[id]?).any fun entry =>
      registry.collabs[entry.collabToken]? = some id

def next (registry : CollabRegistry Params) (event : RegistryEvent Params) :
    CollabRegistry Params :=
  match registry.newCollab event with
  | some entry => registry.create entry
  | none =>
      match event with
      | .notifyDataRecv softbusSessionId peer (.other collabToken cmd) _ answers
          _ =>
          if registry.creating.isSome then registry
          else
            match registry.findCollab softbusSessionId collabToken with
            | some id => registry.update id (·.onDataRecv answers peer cmd)
            | none => registry
      | .release => { registry with creating := none }
      | .collab id input sessionId =>
          if registry.isHeld id then
            registry.update id fun entry => (entry.step input sessionId).2
          else registry
      | _ => registry

def step (registry : CollabRegistry Params) (event : RegistryEvent Params) :
    Unit × CollabRegistry Params :=
  ((), registry.next event)

/-! ## Collaborations that are registered -/

/-- The collaboration is the value at its own token, and cleaning up its session
takes out its own entry alone. -/
structure Owns (registry : CollabRegistry Params) (id : ℕ)
    (entry : PeerCollab Params) : Prop where
  registered : registry.collabs[entry.collabToken]? = some id
  cleanUp : ∀ key : Text,
    (registry.cleanUpSession entry.collabToken).collabs[key]? =
      if key = entry.collabToken then none else registry.collabs[key]?

def Registered (registry : CollabRegistry Params) : Prop :=
  ∀ (id : ℕ) (entry : PeerCollab Params), registry.objects[id]? = some entry →
    entry.removed = false → registry.Owns id entry

/-- The token of a new collaboration is not empty and not in use. -/
def TokenFree (registry : CollabRegistry Params) (event : RegistryEvent Params) :
    Prop :=
  ∀ entry, registry.newCollab event = some entry →
    entry.collabToken ≠ [] ∧ registry.collabs[entry.collabToken]? = none

def Keyed (registry : CollabRegistry Params) : Prop :=
  ∀ (key : Text) (id : ℕ), registry.collabs[key]? = some id →
    ∃ entry, registry.objects[id]? = some entry ∧ entry.collabToken = key

section CleanUp

variable {registry : CollabRegistry Params}

@[simp] theorem objects_cleanUpSession (collabToken : Text) :
    (registry.cleanUpSession collabToken).objects = registry.objects := by
  unfold cleanUpSession
  split <;> rfl

theorem getElem?_cleanUpSession (collabToken key : Text) :
    (registry.cleanUpSession collabToken).collabs[key]? =
      if collabToken = key ∧ key ≠ [] then none else registry.collabs[key]? := by
  unfold cleanUpSession getDSchedCollabByTokenId
  by_cases hempty : collabToken = []
  · have hnot : ¬(collabToken = key ∧ key ≠ []) := by
      rintro ⟨rfl, hkey⟩
      exact hkey hempty
    rw [if_pos hempty, if_neg hnot]
  · rw [if_neg hempty]
    split
    · next hnone =>
        split_ifs with hkey
        · rw [← hkey.1, hnone]
        · rfl
    · dsimp only
      rw [getElem?_erase_eq]
      by_cases hkey : collabToken = key
      · rw [if_pos hkey, if_pos ⟨hkey, hkey ▸ hempty⟩]
      · rw [if_neg hkey, if_neg (fun h => hkey h.1)]

theorem owns_iff {id : ℕ} {entry : PeerCollab Params} :
    registry.Owns id entry ↔ entry.collabToken ≠ [] ∧
      registry.collabs[entry.collabToken]? = some id := by
  constructor
  · rintro ⟨hregistered, hcleanUp⟩
    refine ⟨?_, hregistered⟩
    intro hempty
    have hnone := hcleanUp entry.collabToken
    rw [getElem?_cleanUpSession, if_neg (fun h => h.2 hempty), hregistered,
      if_pos rfl] at hnone
    cases hnone
  · rintro ⟨hnonempty, hregistered⟩
    refine ⟨hregistered, ?_⟩
    intro key
    rw [getElem?_cleanUpSession]
    by_cases hkey : key = entry.collabToken
    · rw [if_pos hkey, if_pos ⟨hkey.symm, hkey ▸ hnonempty⟩]
    · rw [if_neg hkey, if_neg (fun h => hkey h.1.symm)]

end CleanUp

end CollabRegistry

/-! ## The token of a collaboration -/

namespace RunningCollab

variable {Params : Type} {running : RunningCollab Params}

theorem collabToken_processEvent {answers : RunAnswers}
    {event : CollabRoles.Event} :
    (running.processEvent answers event).2.record.info.collabToken =
      running.record.info.collabToken := by
  unfold processEvent exeStartAbility
  split_ifs
  · rfl
  · rfl
  · rfl
  · dsimp only
    unfold exeRecord
    split
    · split_ifs
      · rfl
      · split
        · next hpack =>
            obtain ⟨_, _, _, -, rfl⟩ :=
              DSchedCollabInfo.packStartCmd_eq_some hpack
            rfl
        · rfl
    · split_ifs <;> rfl
    · rfl

theorem collabToken_onDataRecv {answers : RunAnswers}
    {cmd : ReceivedCmd Params} :
    (running.onDataRecv answers cmd).2.record.info.collabToken =
      running.record.info.collabToken := by
  cases cmd with
  | notifyResult cmd =>
      dsimp only [onDataRecv]
      split_ifs <;> rfl
  | _ => rfl

theorem collabToken_collabMission {mission : DSchedCollabInfo Params} :
    (running.collabMission mission).record.info.collabToken =
      running.record.info.collabToken := by
  unfold RunningCollab.collabMission DSchedCollabInfo.collabMission
  by_cases hmission : mission.ValidMission ∧
      mission.collabToken = running.record.info.collabToken
  · rw [if_pos hmission]
    exact hmission.2
  · rw [if_neg hmission]

theorem collabToken_step {input : CollabInput Params} :
    (running.step input).2.record.info.collabToken =
      running.record.info.collabToken := by
  by_cases hremoved : running.collab.removed = true
  · rw [step_of_removed hremoved]
  · unfold step
    rw [if_neg hremoved]
    cases input with
    | collabMission mission => exact collabToken_collabMission
    | notifyStartAbilityResult result pid uid accessToken =>
        dsimp only
        split_ifs <;> rfl
    | recv answers cmd => exact collabToken_onDataRecv
    | process answers =>
        dsimp only
        split_ifs
        · rfl
        · split
          · rfl
          · exact collabToken_processEvent
    | startAbilityReturns result =>
        dsimp only [startAbilityReturns]
        split_ifs <;> rfl
    | _ => rfl

end RunningCollab

namespace PeerCollab

variable {Params : Type}

structure Continues (change : PeerCollab Params → PeerCollab Params) : Prop where
  collabToken : ∀ entry, (change entry).collabToken = entry.collabToken
  removed : ∀ entry, entry.removed = true → (change entry).removed = true

theorem continues_step (input : CollabInput Params) (sessionId : ℤ) :
    Continues fun entry : PeerCollab Params =>
      (entry.step input sessionId).2 := by
  constructor
  · intro entry
    cases input with
    | recv answers cmd => rfl
    | _ => exact RunningCollab.collabToken_step
  · intro entry hremoved
    have hkept (input : CollabInput Params) :
        (entry.running.step input).2 = entry.running := by
      rw [RunningCollab.step_of_removed hremoved]
    cases input with
    | recv answers cmd => exact hremoved
    | _ =>
        unfold PeerCollab.removed step
        dsimp only
        rw [hkept]
        exact hremoved

theorem continues_onDataRecv (answers : RunAnswers) (peer : Text)
    (cmd : ReceivedCmd Params) :
    Continues fun entry : PeerCollab Params =>
      entry.onDataRecv answers peer cmd := by
  constructor
  · intro entry
    dsimp only [onDataRecv]
    split_ifs
    · rfl
    · exact RunningCollab.collabToken_step
  · intro entry hremoved
    unfold PeerCollab.removed at hremoved
    dsimp only [onDataRecv]
    rw [if_pos hremoved]
    exact hremoved

end PeerCollab

/-! ## What a step does to the registry -/

namespace CollabRegistry

variable {Params : Type} {registry : CollabRegistry Params}

inductive Moves (registry : CollabRegistry Params) :
    Option (PeerCollab Params) → CollabRegistry Params → Prop
  | create (entry : PeerCollab Params) (hlive : entry.removed = false) :
      Moves registry (some entry) (registry.create entry)
  | update (id : ℕ) (change : PeerCollab Params → PeerCollab Params)
      (hchange : PeerCollab.Continues change) :
      Moves registry none (registry.update id change)
  | hold (creating : Option ℕ) : Moves registry none { registry with creating }

theorem newCollab_removed {event : RegistryEvent Params}
    {entry : PeerCollab Params} (hnew : registry.newCollab event = some entry) :
    entry.removed = false := by
  unfold newCollab at hnew
  split at hnew
  · split_ifs at hnew
    obtain ⟨info, -, rfl⟩ := Option.map_eq_some_iff.mp hnew
    rfl
  · split_ifs at hnew
    cases hnew
    rfl
  · cases hnew

theorem moves_next (registry : CollabRegistry Params)
    (event : RegistryEvent Params) :
    registry.Moves (registry.newCollab event) (registry.next event) := by
  unfold next
  cases hnew : registry.newCollab event with
  | some entry => exact .create entry (newCollab_removed hnew)
  | none =>
      dsimp only
      split
      · split_ifs
        · exact .hold registry.creating
        · split
          · exact .update _ _ (PeerCollab.continues_onDataRecv _ _ _)
          · exact .hold registry.creating
      · exact .hold none
      · split_ifs
        · exact .update _ _ (PeerCollab.continues_step _ _)
        · exact .hold registry.creating
      · exact .hold registry.creating

/-! ### Creation -/

theorem keyed_create (hkeyed : registry.Keyed) (entry : PeerCollab Params) :
    (registry.create entry).Keyed := by
  intro key id hid
  dsimp only [create] at hid ⊢
  rw [getElem?_insertIfNew] at hid
  split_ifs at hid with hnew
  · cases hid
    exact ⟨entry, List.getElem?_concat_length, hnew.1⟩
  · obtain ⟨found, hfound, hkey⟩ := hkeyed key id hid
    have hold : id < registry.objects.length :=
      (List.getElem?_eq_some_iff.mp hfound).1
    exact ⟨found, (List.getElem?_append_left hold).trans hfound, hkey⟩

theorem registered_create_iff (hkeyed : registry.Keyed)
    (hregistered : registry.Registered) {entry : PeerCollab Params}
    (hlive : entry.removed = false) :
    (registry.create entry).Registered ↔ entry.collabToken ≠ [] ∧
      registry.collabs[entry.collabToken]? = none := by
  constructor
  · intro hall
    obtain ⟨hnonempty, hvalue⟩ := owns_iff.mp
      (hall registry.objects.length entry List.getElem?_concat_length hlive)
    refine ⟨hnonempty, ?_⟩
    by_contra hused
    dsimp only [create] at hvalue
    rw [getElem?_insertIfNew, if_neg (fun hnew => hused hnew.2)] at hvalue
    obtain ⟨found, hfound, -⟩ := hkeyed _ _ hvalue
    exact absurd (List.getElem?_eq_some_iff.mp hfound).1 (lt_irrefl _)
  · rintro ⟨hnonempty, hnew⟩ id found hfound hfoundLive
    rw [owns_iff]
    dsimp only [create] at hfound ⊢
    rw [getElem?_insertIfNew_eq hnew]
    rcases Nat.lt_or_ge id registry.objects.length with hold | hlast
    · rw [List.getElem?_append_left hold] at hfound
      obtain ⟨hfoundNonempty, hvalue⟩ :=
        owns_iff.mp (hregistered id found hfound hfoundLive)
      have hother : ¬entry.collabToken = found.collabToken := by
        intro hsame
        rw [← hsame, hnew] at hvalue
        cases hvalue
      rw [if_neg hother]
      exact ⟨hfoundNonempty, hvalue⟩
    · rw [List.getElem?_append_right hlast, List.getElem?_singleton] at hfound
      split_ifs at hfound with hzero
      cases hfound
      have hid : id = registry.objects.length := by omega
      rw [if_pos rfl, hid]
      exact ⟨hnonempty, rfl⟩

/-! ### Changes of one collaboration -/

section Update

variable {change : PeerCollab Params → PeerCollab Params} {id : ℕ}
variable {entry : PeerCollab Params}

theorem update_of_none (hnone : registry.objects[id]? = none) :
    registry.update id change = registry := by
  unfold update
  rw [hnone]

theorem getElem?_objects_update (hentry : registry.objects[id]? = some entry)
    (index : ℕ) :
    (registry.update id change).objects[index]? =
      if id = index then some (change entry) else registry.objects[index]? := by
  have hid : id < registry.objects.length :=
    (List.getElem?_eq_some_iff.mp hentry).1
  have hset : (registry.update id change).objects =
      registry.objects.set id (change entry) := by
    unfold update
    rw [hentry]
    dsimp only
    split_ifs
    · rw [objects_cleanUpSession]
    · rfl
  rw [hset, List.getElem?_set, if_pos hid]

theorem getElem?_update (hentry : registry.objects[id]? = some entry)
    (key : Text) :
    (registry.update id change).collabs[key]? =
      if ((change entry).removed = true ∧ entry.removed = false) ∧
          (change entry).collabToken = key ∧ key ≠ [] then none
      else registry.collabs[key]? := by
  unfold update
  rw [hentry]
  dsimp only
  by_cases hcleanUp : (change entry).removed = true ∧ entry.removed = false
  · rw [if_pos (by simp [hcleanUp]), getElem?_cleanUpSession]
    simp only [hcleanUp, and_self, true_and]
  · rw [if_neg (by simpa using hcleanUp), if_neg (fun h => hcleanUp h.1)]

theorem getElem?_update_of_some
    (hentry : registry.objects[id]? = some entry) {key : Text} {found : ℕ}
    (hvalue : (registry.update id change).collabs[key]? = some found) :
    registry.collabs[key]? = some found := by
  rw [getElem?_update hentry] at hvalue
  split_ifs at hvalue
  exact hvalue

theorem keyed_update (hchange : PeerCollab.Continues change)
    (hkeyed : registry.Keyed) : (registry.update id change).Keyed := by
  cases hentry : registry.objects[id]? with
  | none =>
      rw [update_of_none hentry]
      exact hkeyed
  | some entry =>
      intro key index hvalue
      obtain ⟨found, hfound, hkey⟩ :=
        hkeyed key index (getElem?_update_of_some hentry hvalue)
      rw [getElem?_objects_update hentry]
      by_cases hsame : id = index
      · subst hsame
        rw [hentry] at hfound
        cases hfound
        exact ⟨change entry, if_pos rfl, (hchange.collabToken entry).trans hkey⟩
      · rw [if_neg hsame]
        exact ⟨found, hfound, hkey⟩

theorem registered_update (hchange : PeerCollab.Continues change)
    (hregistered : registry.Registered) :
    (registry.update id change).Registered := by
  cases hentry : registry.objects[id]? with
  | none =>
      rw [update_of_none hentry]
      exact hregistered
  | some entry =>
      intro index found hfound hlive
      rw [owns_iff, getElem?_update hentry]
      rw [getElem?_objects_update hentry] at hfound
      by_cases hsame : id = index
      · subst hsame
        rw [if_pos rfl] at hfound
        cases hfound
        have hentryLive : entry.removed = false := by
          by_contra hremoved
          rw [Bool.not_eq_false] at hremoved
          have hdead : (change entry).removed = true :=
            hchange.removed entry hremoved
          rw [hlive] at hdead
          cases hdead
        rw [hlive, if_neg (by simp), hchange.collabToken]
        exact owns_iff.mp (hregistered id entry hentry hentryLive)
      · rw [if_neg hsame] at hfound
        obtain ⟨hnonempty, hvalue⟩ :=
          owns_iff.mp (hregistered index found hfound hlive)
        rw [if_neg]
        · exact ⟨hnonempty, hvalue⟩
        · rintro ⟨⟨-, hentryLive⟩, htoken, -⟩
          obtain ⟨-, hown⟩ :=
            owns_iff.mp (hregistered id entry hentry hentryLive)
          rw [← hchange.collabToken, htoken, hvalue] at hown
          exact hsame (Option.some.inj hown).symm

end Update

/-! ## Runs -/

theorem keyed_next (event : RegistryEvent Params) (hkeyed : registry.Keyed) :
    (registry.next event).Keyed := by
  have hmoves := registry.moves_next event
  generalize registry.newCollab event = created,
    registry.next event = next at hmoves ⊢
  cases hmoves with
  | create entry hlive => exact keyed_create hkeyed entry
  | update id change hchange => exact keyed_update hchange hkeyed
  | hold creating => exact hkeyed

theorem registered_hold (hregistered : registry.Registered)
    (creating : Option ℕ) :
    ({ registry with creating } : CollabRegistry Params).Registered := by
  intro id entry hentry hlive
  have hown := hregistered id entry hentry hlive
  rw [owns_iff] at hown ⊢
  exact hown

theorem registered_next_iff {event : RegistryEvent Params}
    (hkeyed : registry.Keyed) (hregistered : registry.Registered) :
    (registry.next event).Registered ↔ registry.TokenFree event := by
  unfold TokenFree
  have hmoves := registry.moves_next event
  generalize registry.newCollab event = created,
    registry.next event = next at hmoves ⊢
  cases hmoves with
  | create entry hlive =>
      rw [registered_create_iff hkeyed hregistered hlive]
      simp only [Option.some.injEq, forall_eq']
  | update id change hchange =>
      refine iff_of_true (registered_update hchange hregistered) ?_
      intro entry hentry
      cases hentry
  | hold creating =>
      refine iff_of_true (registered_hold hregistered creating) ?_
      intro entry hentry
      cases hentry

/-- In every state on the way the collaborations which run are the registered
ones exactly when each new token is not empty and not in use. -/
theorem registered_run_iff (events : List (RegistryEvent Params)) :
    (∀ first, first <+: events →
      (run step ({} : CollabRegistry Params) first).2.Registered) ↔
      Meets step TokenFree ({} : CollabRegistry Params) events := by
  have hkeyed : ({} : CollabRegistry Params).Keyed := by
    intro key id hvalue
    cases hvalue
  have hregistered : ({} : CollabRegistry Params).Registered := by
    intro id entry hentry _
    cases hentry
  refine forall_prefix_iff ?_ ?_ events hkeyed hregistered
  · intro registry event hkeyed hregistered
    exact registered_next_iff hkeyed hregistered
  · intro registry event hkeyed _ _
    exact keyed_next event hkeyed

def sameToken : List (RegistryEvent Unit) :=
  let asked : DSchedCollabInfo Unit :=
    { srcCollabSessionId := 1
      collabToken := ['t']
      sinkInfo := { deviceId := ['b'] }
      srcOpt := { startParams := (), messageParams := () } }
  [.getSinkCollabVersion asked true (some ['a']), .release,
    .getSinkCollabVersion { asked with srcCollabSessionId := 2 } true
      (some ['a'])]

theorem not_registered_sameToken :
    ¬(run step ({} : CollabRegistry Unit) sameToken).2.Registered := by
  have hnext : (run step ({} : CollabRegistry Unit) sameToken).2.objects[1]? =
      some {
        running := RunningCollab.createSource {
          srcCollabSessionId := 2
          collabToken := ['t']
          srcInfo := { deviceId := ['a'] }
          sinkInfo := { deviceId := ['b'] }
          srcOpt := { startParams := (), messageParams := () } } } := by
    rfl
  have hvalue :
      (run step ({} : CollabRegistry Unit) sameToken).2.collabs[['t']]? =
        some 0 := by
    decide
  intro hregistered
  have hown := (hregistered 1 _ hnext rfl).registered
  exact absurd (hvalue.symm.trans hown) (by decide)

end CollabRegistry

end Dmsfwk
