import Dmsfwk.DistributedAbilityManagerService

/-!
# Tokens and their notifiers

A token holds while it is in the list of an access token, and refers to the
notifiers set for it.  As long as a notifier belongs to one token, and a token
to one notifier, the recipient of a notifier stays until its token is gone, and
the death of a notifier finds the only token there is to clean.
-/

namespace Dmsfwk

open SchedErr

namespace DistributedAbilityManagerService

variable {service : DistributedAbilityManagerService}

def Holds (service : DistributedAbilityManagerService) (accessToken : UInt32)
    (token : Int32) : Prop :=
  ∃ tokens, service.tokenMap[accessToken]? = some tokens ∧ token ∈ tokens

def Refers (service : DistributedAbilityManagerService) (token : Int32)
    (notifier : RemoteObject) : Prop :=
  ∃ info, service.callbackMap[token]? = some info ∧
    ∃ cbType : Text, info.notifierMap[cbType]? = some notifier

structure WellRegistered (service : DistributedAbilityManagerService) :
    Prop where
  once : ∀ (accessToken : UInt32) (tokens : List Int32),
    service.tokenMap[accessToken]? = some tokens → tokens.Nodup
  unique : ∀ accessToken other token, service.Holds accessToken token →
    service.Holds other token → accessToken = other
  registered : ∀ token ∈ service.callbackMap,
    (∃ accessToken, service.Holds accessToken token) ∧
      ∃ notifier, service.Refers token notifier
  carries : ∀ token notifier, service.Refers token notifier →
    notifier ∉ service.objects.dead →
      notifier ∈ service.objects.deathRecipients
  /-- The task of a death is still to run as long as a token refers to it. -/
  forgotten : ∀ token notifier, service.Refers token notifier →
    notifier ∈ service.objects.dead → notifier ∈ service.tasks

/-- The task of a death leaves no token which referred to the notifier. -/
def Forgets (service : DistributedAbilityManagerService)
    (event : RegistrationEvent) : Prop :=
  event = .runTask → ∀ notifier ∈ service.tasks.head?, ∀ token,
    service.Refers token notifier →
      token ∉ (service.step event).2.callbackMap ∧
        ∀ accessToken, ¬ (service.step event).2.Holds accessToken token

/-- A registration gets a token that is free; a notifier is set for a token that
has no other one, and belongs to no other token; a type is removed only when the
other type of the token is not set. -/
def Guard (service : DistributedAbilityManagerService) :
    RegistrationEvent → Prop
  | .register accessToken continuationMode =>
      continuationMode.all isContinuationModeValid = true →
        service.isExceededRegisterMaxNum accessToken = false →
          ∀ entry ∈ service.tokenMap.toList, service.nextToken ∉ entry.2
  | .registerDeviceSelectionCallback accessToken token cbType notifier =>
      (cbType = eventConnect ∨ cbType = eventDisconnect) →
        service.isTokenRegistered accessToken token = true →
          service.isNotifierRegisteredLocked token cbType = false →
            notifier ∉ service.objects.dead ∧
            (∀ entry ∈ service.callbackMap.toList,
              entry.2.queryNotifier notifier = true → entry.1 = token) ∧
            ∀ info ∈ service.callbackMap[token]?,
              ∀ entry ∈ info.notifierMap.toList, entry.2 = notifier
  | .unregisterDeviceSelectionCallback accessToken token cbType =>
      service.isTokenRegistered accessToken token = true →
        ∀ info ∈ service.callbackMap[token]?,
          ∀ entry ∈ info.notifierMap.toList, entry.1 ≠ cbType →
            info.getNotifier cbType ≠ some entry.2
  | _ => True

instance (service : DistributedAbilityManagerService)
    (event : RegistrationEvent) : Decidable (service.Guard event) := by
  cases event <;> unfold Guard <;> infer_instance

/-! ## The loop over the access tokens -/

def cut (token : Int32) (tokens : List Int32) : Option (List Int32) :=
  if tokens.filter (· ≠ token) = [] then none
  else some (tokens.filter (· ≠ token))

theorem cut_of_not_mem {token : Int32} {tokens : List Int32}
    (hne : tokens ≠ []) (hmem : token ∉ tokens) : cut token tokens = some tokens := by
  have hkept : tokens.filter (· ≠ token) = tokens := by
    rw [List.filter_eq_self]
    intro other hother
    simp only [ne_eq, decide_eq_true_eq]
    rintro rfl
    exact hmem hother
  rw [cut, hkept, if_neg hne]

theorem mem_of_filter_eq_nil {token : Int32} {tokens : List Int32}
    (hne : tokens ≠ []) (hkept : tokens.filter (· ≠ token) = []) :
    token ∈ tokens := by
  obtain ⟨other, hother⟩ := List.exists_mem_of_ne_nil tokens hne
  have hnot := List.filter_eq_nil_iff.mp hkept other hother
  simp only [ne_eq, decide_eq_true_eq, not_not] at hnot
  exact hnot ▸ hother

structure InOneList (token : Int32)
    (tokenMap : Std.TreeMap UInt32 (List Int32)) : Prop where
  nonempty : ∀ (accessToken : UInt32) (tokens : List Int32),
    tokenMap[accessToken]? = some tokens → tokens ≠ []
  unique : ∀ (accessToken other : UInt32) (tokens others : List Int32),
    tokenMap[accessToken]? = some tokens → tokenMap[other]? = some others →
      token ∈ tokens → token ∈ others → accessToken = other

section Lists

variable {token : Int32} {tokenMap : Std.TreeMap UInt32 (List Int32)}
  {accessToken : UInt32} {tokens : List Int32}

theorem InOneList.bind_cut (hone : InOneList token tokenMap)
    (htokens : tokenMap[accessToken]? = some tokens) (hmem : token ∈ tokens)
    {other : UInt32} (hne : accessToken ≠ other) :
    (tokenMap[other]?).bind (cut token) = tokenMap[other]? := by
  cases hfound : tokenMap[other]? with
  | none => rfl
  | some others =>
      apply cut_of_not_mem (hone.nonempty _ _ hfound)
      intro hother
      exact hne (hone.unique _ _ _ _ htokens hfound hmem hother)

theorem getElem?_insert_filter (token : Int32)
    (tokenMap : Std.TreeMap UInt32 (List Int32)) (accessToken : UInt32)
    (tokens : List Int32) (other : UInt32) :
    (tokenMap.insert accessToken (tokens.filter (· ≠ token)))[other]? =
      if accessToken = other then some (tokens.filter (· ≠ token))
      else tokenMap[other]? :=
  OrderedMap.getElem?_insert_eq accessToken other _

theorem InOneList.insert (hone : InOneList token tokenMap)
    (hkept : tokens.filter (· ≠ token) ≠ []) :
    InOneList token
      (tokenMap.insert accessToken (tokens.filter (· ≠ token))) := by
  constructor
  case nonempty =>
    intro other others hothers
    rw [getElem?_insert_filter] at hothers
    split at hothers
    · obtain rfl := Option.some.inj hothers
      exact hkept
    · exact hone.nonempty other others hothers
  case unique =>
    intro first other firsts others hfirst hother hmem hmem'
    rw [getElem?_insert_filter] at hfirst hother
    split at hfirst
    · obtain rfl := Option.some.inj hfirst
      simp at hmem
    · split at hother
      · obtain rfl := Option.some.inj hother
        simp at hmem'
      · exact hone.unique first other firsts others hfirst hother hmem hmem'

theorem getElem?_eraseToken {accessTokens : List UInt32}
    (honce : accessTokens.Nodup) (hone : InOneList token tokenMap)
    (found : UInt32) :
    (eraseToken token accessTokens tokenMap)[found]? =
      if found ∈ accessTokens then (tokenMap[found]?).bind (cut token)
      else tokenMap[found]? := by
  induction accessTokens generalizing tokenMap with
  | nil => rfl
  | cons accessToken rest ih =>
      obtain ⟨hnotRest, honce⟩ := List.nodup_cons.mp honce
      cases htokens : tokenMap[accessToken]? with
      | none =>
          rw [eraseToken, htokens]
          simp only []
          rw [ih honce hone]
          by_cases heq : found = accessToken
          · rw [heq, if_neg hnotRest, htokens, if_pos List.mem_cons_self]
            rfl
          · simp only [List.mem_cons, heq, false_or]
      | some tokens =>
          rw [eraseToken, htokens]
          simp only []
          split
          next hkept =>
            have hmem :=
              mem_of_filter_eq_nil (hone.nonempty _ _ htokens) hkept
            rw [OrderedMap.getElem?_erase_eq]
            split
            next heq =>
              rw [if_pos (by rw [heq]; exact List.mem_cons_self), ← heq,
                htokens, Option.bind_some, cut, if_pos hkept]
            next hother => rw [hone.bind_cut htokens hmem hother, ite_self]
          next hkept =>
            rw [ih honce (hone.insert hkept), getElem?_insert_filter]
            by_cases heq : found = accessToken
            · rw [heq, if_neg hnotRest, if_pos rfl, if_pos List.mem_cons_self,
                htokens, Option.bind_some, cut, if_neg hkept]
            · simp only [List.mem_cons, heq, Ne.symm heq, false_or, if_false]

end Lists

/-! ## What a removed token leaves -/

variable {notifier : RemoteObject}

theorem mem_values_iff {info : NotifierInfo} :
    notifier ∈ info.notifierMap.toList.map Prod.snd ↔
      ∃ cbType : Text, info.notifierMap[cbType]? = some notifier := by
  rw [List.mem_map]
  constructor
  · rintro ⟨entry, hentry, rfl⟩
    exact ⟨entry.1, Std.TreeMap.mem_toList_iff_getElem?_eq_some.mp hentry⟩
  · rintro ⟨cbType, hfound⟩
    exact ⟨(cbType, notifier),
      Std.TreeMap.mem_toList_iff_getElem?_eq_some.mpr hfound, rfl⟩

theorem queryNotifier_iff {info : NotifierInfo} :
    info.queryNotifier notifier = true ↔
      ∃ cbType : Text, info.notifierMap[cbType]? = some notifier := by
  rw [NotifierInfo.queryNotifier, List.any_eq_true]
  constructor
  · rintro ⟨entry, hentry, heq⟩
    obtain rfl := of_decide_eq_true heq
    exact ⟨entry.1, Std.TreeMap.mem_toList_iff_getElem?_eq_some.mp hentry⟩
  · rintro ⟨cbType, hfound⟩
    exact ⟨(cbType, notifier),
      Std.TreeMap.mem_toList_iff_getElem?_eq_some.mpr hfound,
      decide_eq_true rfl⟩

theorem dead_removeDeathRecipients (info : NotifierInfo)
    (objects : NotifierObjects) :
    (objects.removeDeathRecipients info).dead = objects.dead := by
  unfold NotifierObjects.removeDeathRecipients
  induction info.notifierMap.toList.map Prod.snd generalizing objects with
  | nil => rfl
  | cons notifier rest ih =>
      rw [List.foldl_cons, ih]
      rfl

variable {objects : NotifierObjects}

theorem mem_removeDeathRecipients {info : NotifierInfo}
    (hmem : notifier ∈ objects.deathRecipients)
    (hother : notifier ∉ info.notifierMap.toList.map Prod.snd) :
    notifier ∈ (objects.removeDeathRecipients info).deathRecipients := by
  unfold NotifierObjects.removeDeathRecipients
  generalize info.notifierMap.toList.map Prod.snd = notifiers at hother
  induction notifiers generalizing objects with
  | nil => exact hmem
  | cons removed rest ih =>
      rw [List.mem_cons, not_or] at hother
      rw [List.foldl_cons]
      apply ih _ hother.2
      exact (List.mem_erase_of_ne hother.1).mpr hmem

/-- What the guarded runs keep: every notifier belongs to one token and every
token to one notifier. -/
structure Paired (service : DistributedAbilityManagerService) : Prop where
  once : ∀ (accessToken : UInt32) (tokens : List Int32),
    service.tokenMap[accessToken]? = some tokens →
      tokens ≠ [] ∧ tokens.Nodup
  unique : ∀ accessToken other token, service.Holds accessToken token →
    service.Holds other token → accessToken = other
  registered : ∀ token ∈ service.callbackMap,
    (∃ accessToken, service.Holds accessToken token) ∧
      ∃ notifier, service.Refers token notifier
  single : ∀ token other notifier, service.Refers token notifier →
    service.Refers other notifier → token = other
  same : ∀ token notifier other, service.Refers token notifier →
    service.Refers token other → notifier = other
  carries : ∀ token notifier, service.Refers token notifier →
    notifier ∉ service.objects.dead →
      notifier ∈ service.objects.deathRecipients
  forgotten : ∀ token notifier, service.Refers token notifier →
    notifier ∈ service.objects.dead → notifier ∈ service.tasks

theorem Paired.wellRegistered (hpaired : service.Paired) :
    service.WellRegistered := by
  constructor
  · intro accessToken tokens htokens
    exact (hpaired.once accessToken tokens htokens).2
  · exact hpaired.unique
  · exact hpaired.registered
  · exact hpaired.carries
  · exact hpaired.forgotten

theorem paired_initial (token : Int32) :
    ({ token := token } : DistributedAbilityManagerService).Paired := by
  have hrefers : ∀ other notifier,
      ¬ Refers { token := token } other notifier := by
    rintro other notifier ⟨info, hinfo, _⟩
    simp at hinfo
  constructor
  · intro accessToken tokens htokens
    simp at htokens
  · rintro accessToken other held ⟨tokens, htokens, _⟩
    simp at htokens
  · intro held hheld
    simp at hheld
  · intro held other notifier hheld
    exact absurd hheld (hrefers held notifier)
  · intro held notifier other hheld
    exact absurd hheld (hrefers held notifier)
  · intro held notifier hheld
    exact absurd hheld (hrefers held notifier)
  · intro held notifier hheld
    exact absurd hheld (hrefers held notifier)

/-- Without the callbacks of a token the others keep what they have; a notifier
which only that token referred to may lose its recipient and its task. -/
theorem Paired.dropCallbacks (hpaired : service.Paired) (token : Int32)
    {tasks : List RemoteObject} (hdead : objects.dead = service.objects.dead)
    (hkept : ∀ notifier ∈ service.objects.deathRecipients,
      ¬ service.Refers token notifier → notifier ∈ objects.deathRecipients)
    (htasks : ∀ other notifier, other ≠ token →
      service.Refers other notifier → notifier ∈ service.tasks →
        notifier ∈ tasks) :
    ({ service with
        callbackMap := service.callbackMap.erase token
        objects := objects
        tasks := tasks } : DistributedAbilityManagerService).Paired := by
  have hrefers : ∀ other notifier,
      Refers { service with
        callbackMap := service.callbackMap.erase token
        objects := objects
        tasks := tasks } other notifier ↔
        other ≠ token ∧ service.Refers other notifier := by
    intro other notifier
    unfold Refers
    simp only [OrderedMap.getElem?_erase_eq]
    constructor
    · rintro ⟨info, hinfo, hfound⟩
      split at hinfo
      · cases hinfo
      next hne => exact ⟨Ne.symm hne, info, hinfo, hfound⟩
    · rintro ⟨hne, info, hinfo, hfound⟩
      exact ⟨info, by rw [if_neg (Ne.symm hne)]; exact hinfo, hfound⟩
  constructor
  · exact hpaired.once
  · exact hpaired.unique
  · intro other hother
    have hmem : other ∈ service.callbackMap.erase token := hother
    rw [Std.TreeMap.mem_erase, ne_eq, Std.compare_eq_iff_eq] at hmem
    obtain ⟨howner, notifier, hrefer⟩ := hpaired.registered other hmem.2
    exact ⟨howner, notifier, (hrefers _ _).mpr ⟨Ne.symm hmem.1, hrefer⟩⟩
  · intro first other notifier hfirst hother
    exact hpaired.single first other notifier ((hrefers _ _).mp hfirst).2
      ((hrefers _ _).mp hother).2
  · intro held notifier other hheld hheld'
    exact hpaired.same held notifier other ((hrefers _ _).mp hheld).2
      ((hrefers _ _).mp hheld').2
  · intro held notifier hheld halive
    obtain ⟨hne, hrefer⟩ := (hrefers _ _).mp hheld
    simp only [hdead] at halive
    apply hkept notifier (hpaired.carries held notifier hrefer halive)
    intro hcontra
    exact hne (hpaired.single held token notifier hrefer hcontra)
  · intro held notifier hheld hdied
    obtain ⟨hne, hrefer⟩ := (hrefers _ _).mp hheld
    simp only [hdead] at hdied
    exact htasks held notifier hne hrefer
      (hpaired.forgotten held notifier hrefer hdied)

theorem getElem?_tokenMap_removeToken (hpaired : service.Paired)
    (token : Int32) (accessToken : UInt32) :
    (service.removeToken token).tokenMap[accessToken]? =
      (service.tokenMap[accessToken]?).bind (cut token) := by
  have hone : InOneList token service.tokenMap := by
    constructor
    · exact fun accessToken tokens h => (hpaired.once accessToken tokens h).1
    · intro accessToken other tokens others h h' hmem hmem'
      exact hpaired.unique accessToken other token ⟨tokens, h, hmem⟩
        ⟨others, h', hmem'⟩
  have herase := @getElem?_eraseToken token service.tokenMap
    service.tokenMap.keys Std.TreeMap.nodup_keys hone accessToken
  rw [removeToken]
  simp only [herase, Std.TreeMap.mem_keys]
  split
  · rfl
  next hnot => rw [Std.TreeMap.getElem?_eq_none hnot, Option.bind_none]

theorem holds_removeToken_iff (hpaired : service.Paired)
    {token other : Int32} {accessToken : UInt32} :
    (service.removeToken token).Holds accessToken other ↔
      other ≠ token ∧ service.Holds accessToken other := by
  unfold Holds
  rw [getElem?_tokenMap_removeToken hpaired]
  cases htokens : service.tokenMap[accessToken]? with
  | none => simp
  | some tokens =>
      rw [Option.bind_some, cut]
      simp only [Option.some_inj, exists_eq_left']
      split
      next hkept =>
        constructor
        · rintro ⟨kept, hcontra, _⟩
          cases hcontra
        · rintro ⟨hne, hmem⟩
          have hfilter : other ∈ tokens.filter (· ≠ token) := by
            simp [hmem, hne]
          rw [hkept] at hfilter
          cases hfilter
      · simp [and_comm]

theorem mem_deathRecipients_removeToken {token : Int32}
    (hmem : notifier ∈ service.objects.deathRecipients)
    (hother : ¬ service.Refers token notifier) :
    notifier ∈ (service.removeToken token).objects.deathRecipients := by
  simp only [removeToken]
  split
  next info hinfo =>
    apply mem_removeDeathRecipients hmem
    intro hvalue
    exact hother ⟨info, hinfo, mem_values_iff.mp hvalue⟩
  · exact hmem

theorem dead_removeToken (token : Int32) :
    (service.removeToken token).objects.dead = service.objects.dead := by
  simp only [removeToken]
  split
  · exact dead_removeDeathRecipients _ _
  · rfl

theorem Paired.removeToken (hpaired : service.Paired) (token : Int32)
    (tasks : List RemoteObject)
    (htasks : ∀ other notifier, other ≠ token →
      service.Refers other notifier → notifier ∈ service.tasks →
        notifier ∈ tasks) :
    ({ service.removeToken token with tasks := tasks } :
      DistributedAbilityManagerService).Paired := by
  have hdropped := hpaired.dropCallbacks token (dead_removeToken token)
    (fun _ => mem_deathRecipients_removeToken) htasks
  have hholds : ∀ accessToken other,
      Holds { service.removeToken token with tasks := tasks } accessToken
          other ↔ other ≠ token ∧ service.Holds accessToken other :=
    fun _ _ => holds_removeToken_iff hpaired
  constructor
  · intro accessToken tokens htokens
    simp only [getElem?_tokenMap_removeToken hpaired] at htokens
    obtain ⟨before, hbefore, hcut⟩ := Option.bind_eq_some_iff.mp htokens
    rw [cut] at hcut
    split at hcut
    · cases hcut
    next hkept =>
      obtain rfl := Option.some.inj hcut
      exact ⟨hkept, (hpaired.once accessToken before hbefore).2.filter _⟩
  · intro accessToken other held hheld hheld'
    exact hpaired.unique accessToken other held ((hholds _ _).mp hheld).2
      ((hholds _ _).mp hheld').2
  · intro other hother
    obtain ⟨⟨accessToken, howner⟩, hrefers⟩ := hdropped.registered other hother
    have hmem : other ∈ service.callbackMap.erase token := hother
    rw [Std.TreeMap.mem_erase, ne_eq, Std.compare_eq_iff_eq] at hmem
    exact ⟨⟨accessToken, (hholds _ _).mpr ⟨Ne.symm hmem.1, howner⟩⟩, hrefers⟩
  · exact hdropped.single
  · exact hdropped.same
  · exact hdropped.carries
  · exact hdropped.forgotten

/-! ## One lemma for each call -/

theorem getElem?_register (token : Int32) (accessToken other : UInt32) :
    (service.tokenMap.insert accessToken
        ((service.tokenMap[accessToken]?).getD [] ++ [token]))[other]? =
      if accessToken = other then
        some ((service.tokenMap[accessToken]?).getD [] ++ [token])
      else service.tokenMap[other]? :=
  OrderedMap.getElem?_insert_eq accessToken other _

theorem holds_register_iff {token held : Int32} {accessToken other : UInt32} :
    Holds { service with
        token := token
        tokenMap := service.tokenMap.insert accessToken
          ((service.tokenMap[accessToken]?).getD [] ++ [token]) } other held ↔
      service.Holds other held ∨ (accessToken = other ∧ held = token) := by
  unfold Holds
  simp only [getElem?_register]
  by_cases heq : accessToken = other
  · subst heq
    cases htokens : service.tokenMap[accessToken]? with
    | none => simp
    | some tokens => simp
  · simp [heq]

theorem Paired.once_register (hpaired : service.Paired) {token : Int32}
    {accessToken : UInt32} (hfree : ¬ service.Holds accessToken token) :
    ((service.tokenMap[accessToken]?).getD [] ++ [token]).Nodup := by
  cases hbefore : service.tokenMap[accessToken]? with
  | none => simp
  | some before =>
      rw [Option.getD_some]
      apply List.Nodup.append (hpaired.once _ _ hbefore).2
        (List.nodup_singleton token)
      rw [List.disjoint_singleton]
      intro hmem
      exact hfree ⟨before, hbefore, hmem⟩

theorem Paired.addToken (hpaired : service.Paired) {token : Int32}
    (hfree : ∀ other, ¬ service.Holds other token) (accessToken : UInt32) :
    ({ service with
        token := token
        tokenMap := service.tokenMap.insert accessToken
          ((service.tokenMap[accessToken]?).getD [] ++ [token]) } :
      DistributedAbilityManagerService).Paired := by
  constructor
  case once =>
    intro other tokens htokens
    simp only [getElem?_register] at htokens
    split at htokens
    next heq =>
      obtain rfl := Option.some.inj htokens
      exact ⟨by simp, hpaired.once_register (hfree accessToken)⟩
    · exact hpaired.once other tokens htokens
  case unique =>
    intro first other held hfirst hother
    rcases holds_register_iff.mp hfirst with hfirst | ⟨hcaller, heq⟩
    · rcases holds_register_iff.mp hother with hother | ⟨_, heq⟩
      · exact hpaired.unique first other held hfirst hother
      · rw [heq] at hfirst
        exact absurd hfirst (hfree first)
    · rcases holds_register_iff.mp hother with hother | ⟨hcaller', _⟩
      · rw [heq] at hother
        exact absurd hother (hfree other)
      · exact hcaller.symm.trans hcaller'
  case registered =>
    intro held hheld
    obtain ⟨⟨owner, howner⟩, hrefers⟩ := hpaired.registered held hheld
    exact ⟨⟨owner, holds_register_iff.mpr (Or.inl howner)⟩, hrefers⟩
  case single => exact hpaired.single
  case same => exact hpaired.same
  case carries => exact hpaired.carries
  case forgotten => exact hpaired.forgotten

theorem Paired.register (hpaired : service.Paired) (accessToken : UInt32)
    (continuationMode : Option Int32)
    (hguard : service.Guard (.register accessToken continuationMode)) :
    (service.register accessToken continuationMode).2.Paired := by
  unfold DistributedAbilityManagerService.register
  split
  · exact hpaired
  next hmode =>
  split
  · exact hpaired
  next hexceeded =>
  have hmode : continuationMode.all isContinuationModeValid = true := by
    cases continuationMode with
    | none => rfl
    | some mode => simpa using hmode
  have hfree : ∀ other, ¬ service.Holds other service.nextToken := by
    rintro other ⟨tokens, htokens, hmem⟩
    exact hguard hmode (Bool.eq_false_iff.mpr hexceeded) (other, tokens)
      (Std.TreeMap.mem_toList_iff_getElem?_eq_some.mpr htokens) hmem
  exact hpaired.addToken hfree accessToken

theorem holds_of_isTokenRegistered {accessToken : UInt32} {token : Int32}
    (hregistered : service.isTokenRegistered accessToken token = true) :
    service.Holds accessToken token := by
  unfold isTokenRegistered at hregistered
  split at hregistered
  next tokens htokens =>
    exact ⟨tokens, htokens, by simpa using hregistered⟩
  · cases hregistered

theorem refers_setCallbacks {token : Int32} {info : NotifierInfo}
    {objects : NotifierObjects} {notifier : RemoteObject}
    (honly : ∀ (cbType : Text) (found : RemoteObject),
      info.notifierMap[cbType]? = some found → found = notifier)
    (hothers : ∀ other, other ≠ token → ¬ service.Refers other notifier)
    {other : Int32} {found : RemoteObject}
    (hrefers : Refers { service with
        callbackMap := service.callbackMap.insert token info
        objects := objects } other found) :
    (other = token ∧ found = notifier) ∨
      (other ≠ token ∧ service.Refers other found ∧ found ≠ notifier) := by
  obtain ⟨foundInfo, hinfo, cbType, hfound⟩ := hrefers
  simp only [OrderedMap.getElem?_insert_eq] at hinfo
  split at hinfo
  next heq =>
    obtain rfl := Option.some.inj hinfo
    exact Or.inl ⟨heq.symm, honly cbType found hfound⟩
  next hne =>
    have hrefer : service.Refers other found :=
      ⟨foundInfo, hinfo, cbType, hfound⟩
    refine Or.inr ⟨Ne.symm hne, hrefer, ?_⟩
    rintro rfl
    exact hothers other (Ne.symm hne) hrefer

theorem Paired.registered_setCallbacks (hpaired : service.Paired) {token : Int32}
    {info : NotifierInfo} (objects : NotifierObjects)
    (hheld : ∃ accessToken, service.Holds accessToken token)
    (hsome : ∃ cbType : Text, info.notifierMap[cbType]? = some notifier)
    {other : Int32} (hother : other ∈ service.callbackMap.insert token info) :
    (∃ accessToken, service.Holds accessToken other) ∧
      ∃ found, Refers { service with
        callbackMap := service.callbackMap.insert token info
        objects := objects } other found := by
  by_cases heq : other = token
  · subst heq
    exact ⟨hheld, notifier, info, Std.TreeMap.getElem?_insert_self, hsome⟩
  · have hmem : other ∈ service.callbackMap := by
      rw [Std.TreeMap.mem_insert, Std.compare_eq_iff_eq] at hother
      exact hother.resolve_left fun h => heq h.symm
    obtain ⟨howner, found, foundInfo, hinfo, hfound⟩ :=
      hpaired.registered other hmem
    refine ⟨howner, found, foundInfo, ?_, hfound⟩
    simp only [OrderedMap.getElem?_insert_eq]
    rw [if_neg (Ne.symm heq)]
    exact hinfo

theorem Paired.setCallbacks (hpaired : service.Paired) {token : Int32}
    {info : NotifierInfo} (hheld : ∃ accessToken, service.Holds accessToken token)
    (hsome : ∃ cbType : Text, info.notifierMap[cbType]? = some notifier)
    (honly : ∀ (cbType : Text) (found : RemoteObject),
      info.notifierMap[cbType]? = some found → found = notifier)
    (hothers : ∀ other, other ≠ token → ¬ service.Refers other notifier)
    (hdead : objects.dead = service.objects.dead)
    (halive : notifier ∉ service.objects.dead)
    (hcarries : notifier ∈ objects.deathRecipients)
    (hkept : ∀ found ∈ service.objects.deathRecipients,
      found ∈ objects.deathRecipients) :
    ({ service with
        callbackMap := service.callbackMap.insert token info
        objects := objects } : DistributedAbilityManagerService).Paired := by
  have hrefers := fun other found =>
    @refers_setCallbacks service token info objects notifier honly hothers
      other found
  constructor
  case once => exact hpaired.once
  case unique => exact hpaired.unique
  case registered =>
    intro other hother
    exact hpaired.registered_setCallbacks objects hheld hsome hother
  case single =>
    intro first other found hfirst hother
    rcases hrefers _ _ hfirst with ⟨rfl, rfl⟩ | ⟨_, hfirst, hne⟩
    · rcases hrefers _ _ hother with ⟨rfl, _⟩ | ⟨_, _, hne⟩
      · rfl
      · exact absurd rfl hne
    · rcases hrefers _ _ hother with ⟨_, rfl⟩ | ⟨_, hother, _⟩
      · exact absurd rfl hne
      · exact hpaired.single first other found hfirst hother
  case same =>
    intro held found other hfound hother
    rcases hrefers _ _ hfound with ⟨rfl, rfl⟩ | ⟨hne, hfound, _⟩
    · rcases hrefers _ _ hother with ⟨_, rfl⟩ | ⟨hne, _, _⟩
      · rfl
      · exact absurd rfl hne
    · rcases hrefers _ _ hother with ⟨heq, _⟩ | ⟨_, hother, _⟩
      · exact absurd heq hne
      · exact hpaired.same held found other hfound hother
  case carries =>
    intro held found hfound hlives
    rcases hrefers _ _ hfound with ⟨_, rfl⟩ | ⟨_, hfound, _⟩
    · exact hcarries
    · simp only [hdead] at hlives
      exact hkept found (hpaired.carries held found hfound hlives)
  case forgotten =>
    intro held found hfound hdied
    simp only [hdead] at hdied
    rcases hrefers _ _ hfound with ⟨_, rfl⟩ | ⟨_, hfound, _⟩
    · exact absurd hdied halive
    · exact hpaired.forgotten held found hfound hdied

theorem eq_of_setNotifier {info : NotifierInfo}
    (honly : ∀ (found : Text) (other : RemoteObject),
      info.notifierMap[found]? = some other → other = notifier)
    {cbType found : Text} {other : RemoteObject}
    (hfound : (info.setNotifier cbType notifier).notifierMap[found]? =
      some other) : other = notifier := by
  simp only [NotifierInfo.setNotifier, OrderedMap.getElem?_insert_eq] at hfound
  split at hfound
  · exact (Option.some.inj hfound).symm
  · exact honly found other hfound

theorem Paired.registerCallback (hpaired : service.Paired) {accessToken : UInt32}
    {token : Int32} {cbType : Text}
    (hguard : service.Guard (.registerDeviceSelectionCallback accessToken token
      cbType notifier)) :
    (service.registerDeviceSelectionCallback accessToken token cbType
      notifier).2.Paired := by
  unfold registerDeviceSelectionCallback
  split
  · exact hpaired
  next htype =>
  split
  · exact hpaired
  next hregistered =>
  split
  · exact hpaired
  next hfree =>
  have hregistered := Bool.eq_true_of_not_eq_false hregistered
  have htype : cbType = eventConnect ∨ cbType = eventDisconnect := by
    rwa [not_and_or, not_not, not_not] at htype
  obtain ⟨halive, hothers, hsame⟩ :=
    hguard htype hregistered (Bool.eq_false_iff.mpr hfree)
  have hheld : ∃ accessToken, service.Holds accessToken token :=
    ⟨accessToken, holds_of_isTokenRegistered hregistered⟩
  have hothers : ∀ other, other ≠ token → ¬ service.Refers other notifier := by
    rintro other hne ⟨info, hinfo, hfound⟩
    exact hne (hothers (other, info)
      (Std.TreeMap.mem_toList_iff_getElem?_eq_some.mpr hinfo)
      (queryNotifier_iff.mpr hfound))
  have hset : ∀ info : NotifierInfo,
      ∃ found : Text, (info.setNotifier cbType notifier).notifierMap[found]? =
        some notifier :=
    fun info => ⟨cbType, Std.TreeMap.getElem?_insert_self⟩
  split
  next info hinfo =>
    have hentries : ∀ (found : Text) (other : RemoteObject),
        info.notifierMap[found]? = some other → other = notifier :=
      fun found other hother => hsame info hinfo (found, other)
        (Std.TreeMap.mem_toList_iff_getElem?_eq_some.mpr hother)
    obtain ⟨_, known, foundInfo, hfoundInfo, found, hfound⟩ :=
      hpaired.registered token
        (Std.TreeMap.getElem?_eq_some_iff.mp hinfo).1
    rw [hinfo] at hfoundInfo
    obtain rfl := Option.some.inj hfoundInfo
    obtain rfl := hentries found known hfound
    exact hpaired.setCallbacks hheld (hset info)
      (fun _ _ => eq_of_setNotifier hentries) hothers rfl halive
      (hpaired.carries token known ⟨info, hinfo, found, hfound⟩ halive)
      (fun _ hmem => hmem)
  next hnone =>
    have hadded : service.objects.addDeathRecipient notifier =
        { deathRecipients := service.objects.deathRecipients ++ [notifier]
          dead := service.objects.dead } := if_neg halive
    have hentries : ∀ (found : Text) (other : RemoteObject),
        ({} : NotifierInfo).notifierMap[found]? = some other →
          other = notifier := by
      intro found other hother
      simp at hother
    rw [hadded]
    exact hpaired.setCallbacks hheld (hset {})
      (fun _ _ => eq_of_setNotifier hentries) hothers rfl halive
      (List.mem_append_right _ (List.mem_singleton_self notifier))
      (fun _ hmem => List.mem_append_left _ hmem)

theorem Paired.unregisterCallback (hpaired : service.Paired)
    {accessToken : UInt32} {token : Int32} {cbType : Text}
    (hguard : service.Guard (.unregisterDeviceSelectionCallback accessToken
      token cbType)) :
    (service.unregisterDeviceSelectionCallback accessToken token
      cbType).2.Paired := by
  unfold unregisterDeviceSelectionCallback
  split
  · exact hpaired
  split
  · exact hpaired
  next hregistered =>
  split
  · exact hpaired
  next hset =>
  have hregistered := Bool.eq_true_of_not_eq_false hregistered
  split
  · exact hpaired
  next info hinfo =>
  obtain ⟨notifier, hnotifier⟩ :
      ∃ notifier, info.getNotifier cbType = some notifier := by
    rw [isNotifierRegisteredLocked, hinfo] at hset
    exact Option.isSome_iff_exists.mp (Bool.eq_true_of_not_eq_false hset)
  have honly : ∀ (found : Text) (other : RemoteObject),
      info.notifierMap[found]? = some other → found = cbType := by
    intro found other hother
    by_contra hne
    have heq := hpaired.same token other notifier ⟨info, hinfo, found, hother⟩
      ⟨info, hinfo, cbType, hnotifier⟩
    apply hguard hregistered info hinfo (found, other)
      (Std.TreeMap.mem_toList_iff_getElem?_eq_some.mpr hother) hne
    rw [hnotifier, heq]
  have hempty : (info.deleteNotifier cbType).isNotifierMapEmpty = true := by
    rw [NotifierInfo.isNotifierMapEmpty, NotifierInfo.deleteNotifier,
      Std.TreeMap.isEmpty_iff_forall_not_mem]
    intro found hmem
    rw [Std.TreeMap.mem_iff_isSome_getElem?, OrderedMap.getElem?_erase_eq] at hmem
    split at hmem
    · cases hmem
    next hne =>
      obtain ⟨other, hother⟩ := Option.isSome_iff_exists.mp hmem
      exact hne (honly found other hother).symm
  simp only [hempty, if_true, hnotifier]
  have hkept : ∀ other ∈ service.objects.deathRecipients,
      ¬ service.Refers token other → other ∈
        (service.objects.removeDeathRecipient notifier).deathRecipients := by
    intro other hmem hother
    apply (List.mem_erase_of_ne _).mpr hmem
    rintro rfl
    exact hother ⟨info, hinfo, cbType, hnotifier⟩
  exact hpaired.dropCallbacks token rfl hkept (fun _ _ _ _ hmem => hmem)

theorem Paired.notifierDied (hpaired : service.Paired)
    (notifier : RemoteObject) : (service.notifierDied notifier).Paired := by
  constructor
  · exact hpaired.once
  · exact hpaired.unique
  · exact hpaired.registered
  · exact hpaired.single
  · exact hpaired.same
  · intro token other hrefers halive
    simp only [DistributedAbilityManagerService.notifierDied, List.mem_append,
      List.mem_singleton, not_or] at halive
    have hmem := hpaired.carries token other hrefers halive.1
    simp [DistributedAbilityManagerService.notifierDied, hmem, halive.2]
  · intro token other hrefers hdead
    simp only [DistributedAbilityManagerService.notifierDied, List.mem_append,
      List.mem_singleton, List.mem_filter, decide_eq_true_eq] at hdead ⊢
    by_cases halive : other ∈ service.objects.dead
    · exact Or.inl (hpaired.forgotten token other hrefers halive)
    · -- it dies with this event, and its recipient posts the task
      exact Or.inr ⟨hpaired.carries token other hrefers halive,
        hdead.resolve_left halive⟩

theorem queryTokenByNotifier_cases (notifier : RemoteObject) :
    (service.queryTokenByNotifier notifier = none ∧
      ∀ token, ¬ service.Refers token notifier) ∨
    ∃ token, service.queryTokenByNotifier notifier = some token ∧
      service.Refers token notifier := by
  unfold queryTokenByNotifier
  cases hfound : OrderedMap.firstMatch service.callbackMap
      (·.queryNotifier notifier) with
  | none =>
      left
      refine ⟨rfl, ?_⟩
      rintro token ⟨info, hinfo, hquery⟩
      have hnone := OrderedMap.firstMatch_eq_none.mp hfound token info hinfo
      rw [queryNotifier_iff.mpr hquery] at hnone
      cases hnone
  | some entry =>
      right
      obtain ⟨hentry, hquery, _⟩ := OrderedMap.firstMatch_spec hfound
      exact ⟨entry.1, rfl, entry.2, hentry, queryNotifier_iff.mp hquery⟩

theorem Paired.runTask (hpaired : service.Paired) : service.runTask.Paired := by
  unfold DistributedAbilityManagerService.runTask
  split
  · exact hpaired
  next notifier rest htasks =>
  unfold handleNotifierDied
  have hrest : ∀ other : RemoteObject, other ≠ notifier →
      other ∈ service.tasks → other ∈ rest := by
    intro other hne hmem
    rw [htasks, List.mem_cons] at hmem
    exact hmem.resolve_left hne
  rcases @queryTokenByNotifier_cases { service with tasks := rest }
      notifier with ⟨hquery, hnone⟩ | ⟨token, hquery, hrefers⟩
  · rw [hquery]
    constructor
    · exact hpaired.once
    · exact hpaired.unique
    · exact hpaired.registered
    · exact hpaired.single
    · exact hpaired.same
    · exact hpaired.carries
    · intro token other hother hdead
      apply hrest other _ (hpaired.forgotten token other hother hdead)
      rintro rfl
      exact hnone token hother
  · rw [hquery]
    apply hpaired.removeToken token rest
    intro other object hne hobject hmem
    apply hrest object _ hmem
    rintro rfl
    exact hne (hpaired.single other token object hobject hrefers)

theorem Paired.forgets (hpaired : service.Paired) (event : RegistrationEvent) :
    service.Forgets event := by
  rintro rfl notifier hhead token hrefers
  obtain ⟨rest, htasks⟩ : ∃ rest, service.tasks = notifier :: rest := by
    cases hlist : service.tasks with
    | nil =>
        rw [hlist] at hhead
        cases hhead
    | cons first rest =>
        rw [hlist] at hhead
        obtain rfl := Option.mem_some_iff.mp hhead
        exact ⟨rest, rfl⟩
  have hnext : service.runTask =
      { service.removeToken token with tasks := rest } := by
    unfold DistributedAbilityManagerService.runTask
    rw [htasks]
    simp only [handleNotifierDied]
    rcases @queryTokenByNotifier_cases { service with tasks := rest }
        notifier with
      ⟨_, hnone⟩ | ⟨found, hquery, hfound⟩
    · exact absurd hrefers (hnone token)
    · rw [hquery, hpaired.single token found notifier hrefers hfound]
      rfl
  simp only [step, hnext]
  constructor
  · intro hmem
    have herased : token ∈ service.callbackMap.erase token := hmem
    rw [Std.TreeMap.mem_erase] at herased
    exact herased.1 Std.ReflCmp.compare_self
  · intro accessToken hholds
    exact ((holds_removeToken_iff hpaired).mp hholds).1 rfl

theorem Paired.afterStep (hpaired : service.Paired) {event : RegistrationEvent}
    (hguard : service.Guard event) : (service.step event).2.Paired := by
  cases event with
  | register accessToken continuationMode =>
      exact hpaired.register accessToken continuationMode hguard
  | unregister accessToken token =>
      simp only [step, unregister]
      split
      · exact hpaired
      · exact hpaired.removeToken token service.tasks
          (fun _ _ _ _ hmem => hmem)
  | registerDeviceSelectionCallback accessToken token cbType notifier =>
      exact hpaired.registerCallback hguard
  | unregisterDeviceSelectionCallback accessToken token cbType =>
      exact hpaired.unregisterCallback hguard
  | notifierDied notifier => exact hpaired.notifierDied notifier
  | runTask => exact hpaired.runTask

/-- In a run whose tokens are free when they are given out, and whose notifiers
belong to one token each, the registrations stay well formed, and a death leaves
no token that referred to the notifier. -/
theorem wellRegistered_run (token : Int32) (events : List RegistrationEvent)
    (hmeets : EventRun.Meets step Guard { token := token } events) :
    (EventRun.run step { token := token } events).2.WellRegistered ∧
      EventRun.Meets step Forgets { token := token } events := by
  have hstep : ∀ service event, Paired service → Guard service event →
      (step service event).2.Paired :=
    fun _ _ hpaired hguard => hpaired.afterStep hguard
  constructor
  · exact (hmeets.invariant hstep (paired_initial token)).wellRegistered
  · exact hmeets.guarantee (fun _ event hpaired _ => hpaired.forgets event)
      hstep (paired_initial token)

def sampleEvents : List RegistrationEvent :=
  [.register 10 none,
    .registerDeviceSelectionCallback 10 100000000 eventConnect 7,
    .register 20 (some 1),
    .registerDeviceSelectionCallback 20 1 eventDisconnect 8,
    .registerDeviceSelectionCallback 20 1 eventConnect 8,
    .notifierDied 7, .runTask,
    .unregister 20 1, .register 20 none,
    .registerDeviceSelectionCallback 20 2 eventConnect 9,
    .unregisterDeviceSelectionCallback 20 2 eventConnect]

theorem wellRegistered_sampleEvents :
    EventRun.Meets step Guard { token := 99999999 } sampleEvents ∧
      (EventRun.run step { token := 99999999 } sampleEvents).1 =
        List.replicate 11 errOk ∧
      (EventRun.run step { token := 99999999 } sampleEvents).2.WellRegistered ∧
      EventRun.Meets step Forgets { token := 99999999 } sampleEvents := by
  have hmeets : EventRun.Meets step Guard { token := 99999999 }
      sampleEvents := by
    decide +kernel
  exact ⟨hmeets, by decide +kernel,
    wellRegistered_run 99999999 sampleEvents hmeets⟩

def twoNotifierEvents : List RegistrationEvent :=
  [.register 10 none, .registerDeviceSelectionCallback 10 1 eventConnect 7,
    .registerDeviceSelectionCallback 10 1 eventDisconnect 8]

theorem not_wellRegistered_twoNotifierEvents :
    ¬ (EventRun.run step {} twoNotifierEvents).2.WellRegistered := by
  intro hregistered
  have hset : ((EventRun.run step {} twoNotifierEvents).2.callbackMap[
      (1 : Int32)]?).bind (·.getNotifier eventDisconnect) = some 8 := by
    decide +kernel
  obtain ⟨info, hinfo, hnotifier⟩ := Option.bind_eq_some_iff.mp hset
  have hcarries := hregistered.carries 1 8
    ⟨info, hinfo, eventDisconnect, hnotifier⟩ (by decide +kernel)
  revert hcarries
  decide +kernel

end DistributedAbilityManagerService

end Dmsfwk
