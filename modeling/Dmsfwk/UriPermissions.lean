import Dmsfwk.RemoteObjectRemoval

/-!
# Uris that a want may grant

The list of uris with a permission is made from the streams and the uri of a
want.  It takes the place of a list that the caller wrote, unless a round ends
the call or none begins.
-/

namespace Dmsfwk
namespace UriPermissions

open SortedEntries RemoteObjectRemoval

def PARAMS_URI : Text := "ability.verify.uri".toList

def PARAMS_STREAM : Text := "ability.params.stream".toList

def DISTRIBUTED_FILES_PATH : Text := "/data/storage/el2/distributedfiles/".toList

def FLAG_AUTH_READ_URI_PERMISSION : UInt32 := 1

def FLAG_AUTH_WRITE_URI_PERMISSION : UInt32 := 2

structure Want where
  flags : UInt32
  uri : Text
  params : ParamMap
  sorted : Sorted params

def getStringArrayParam (key : Text) (params : ParamMap) : List Text :=
  match lookup key params with
  | some (.wrapper (.array (.strings values))) => values
  | _ => []

def setParam (key : Text) (values : List Text) (params : ParamMap) : ParamMap :=
  insert key (.wrapper (.array (.strings values))) params

structure UriServices where
  getPath : Text → Text
  getAuthority : Text → Text
  hasBundleManager : Bool
  osAccountPart : Bool
  queryActiveOsAccountIds : ℕ → Option (List Int32)
  getBundleInfo : ℕ → Text → Int32 → Option UInt32

def isDistributedFile (path : Text) : Bool :=
  path.take DISTRIBUTED_FILES_PATH.length = DISTRIBUTED_FILES_PATH

section Functions

variable (services : UriServices) (accessToken : UInt32)

def activeAccountId (i : ℕ) : Option Int32 :=
  if services.osAccountPart then
    (services.queryActiveOsAccountIds i).bind List.head?
  else some 0

def uriVecPermission (i : ℕ) : List Text → Option (List Text)
  | [] => some []
  | str :: uriVec =>
      if !isDistributedFile (services.getPath str) then
        uriVecPermission (i + 1) uriVec
      else
        match activeAccountId services i with
        | none => none
        | some accountId =>
            if services.getBundleInfo i (services.getAuthority str) accountId =
                some accessToken then
              (uriVecPermission (i + 1) uriVec).map (str :: ·)
            else uriVecPermission (i + 1) uriVec

def hasAuthFlag (want : Want) : Prop :=
  want.flags &&& (FLAG_AUTH_READ_URI_PERMISSION |||
    FLAG_AUTH_WRITE_URI_PERMISSION) ≠ 0

instance (want : Want) : Decidable (hasAuthFlag want) :=
  inferInstanceAs (Decidable (_ ≠ _))

def uriVec (want : Want) : List Text :=
  getStringArrayParam PARAMS_STREAM want.params ++ [want.uri]

def markUriPermission (want : Want) : ParamMap :=
  if ¬ hasAuthFlag want ∨ services.hasBundleManager = false then want.params
  else
    match uriVecPermission services accessToken 0 (uriVec want) with
    | none => want.params
    | some uriVecPermission => setParam PARAMS_URI uriVecPermission want.params

end Functions

def removed (want : Want) : Want where
  flags := want.flags
  uri := want.uri
  params := want.params.filter fun entry => !isRemoteObject entry.2
  sorted := want.sorted.sublist List.filter_sublist

/-- The parameters with which `StartRemoteAbility` is called, when it is; what
is read from the parcel may be missing. -/
def startRemoteAbilityInner (services : UriServices) (isFoundationCall : Bool)
    (want : Option Want) (callerUid requestCode : Option Int32)
    (accessToken : Option UInt32) : Option ParamMap := do
  if !isFoundationCall then none
  let want ← want
  let _ ← callerUid
  let _ ← requestCode
  let accessToken ← accessToken
  return markUriPermission services accessToken (removed want)

/-! ## The uris that may be granted -/

section Grants

variable (services : UriServices) (accessToken : UInt32)

/-- The uri has a path of distributed files, and in its round an authority with
the token. -/
def allowed (entry : Text × ℕ) : Bool :=
  isDistributedFile (services.getPath entry.1) &&
    ((activeAccountId services entry.2).bind
      (services.getBundleInfo entry.2 (services.getAuthority entry.1)) ==
        some accessToken)

def granted (i : ℕ) (uriVec : List Text) : List Text :=
  ((uriVec.zipIdx i).filter (allowed services accessToken)).map Prod.fst

def Answered (i : ℕ) (uriVec : List Text) : Prop :=
  ∀ entry ∈ uriVec.zipIdx i, isDistributedFile (services.getPath entry.1) →
    (activeAccountId services entry.2).isSome

variable {services accessToken}

theorem uriVecPermission_eq_some_iff {i : ℕ} {uriVec found : List Text} :
    uriVecPermission services accessToken i uriVec = some found ↔
      Answered services i uriVec ∧
        granted services accessToken i uriVec = found := by
  induction uriVec generalizing i found with
  | nil => simp [uriVecPermission, Answered, granted]
  | cons str uriVec ih =>
      unfold Answered granted at ih ⊢
      rw [uriVecPermission, List.zipIdx_cons, List.forall_mem_cons,
        List.filter_cons]
      cases hpath : isDistributedFile (services.getPath str) with
      | false => simp [allowed, hpath, ih]
      | true =>
          cases haccount : activeAccountId services i with
          | none => simp
          | some accountId =>
              by_cases htoken : services.getBundleInfo i
                (services.getAuthority str) accountId = some accessToken
              · simp [allowed, hpath, haccount, htoken, ih]
              · simp [allowed, hpath, haccount, htoken, ih]

theorem uriVecPermission_eq_none {i : ℕ} {uriVec : List Text}
    (hmissing : ¬ Answered services i uriVec) :
    uriVecPermission services accessToken i uriVec = none := by
  by_contra hsome
  obtain ⟨found, hfound⟩ := Option.ne_none_iff_exists'.mp hsome
  exact hmissing (uriVecPermission_eq_some_iff.mp hfound).1

end Grants

/-! ## Every exit -/

section Exits

variable (services : UriServices) (accessToken : UInt32)

def Grantable (want : Want) (str : Text) : Prop :=
  str ∈ granted services accessToken 0 (uriVec want)

def Completes (want : Want) : Prop :=
  hasAuthFlag want ∧ services.hasBundleManager = true ∧
    Answered services 0 (uriVec want)

structure OnlyGrants (want : Want) : Prop where
  entries : ∀ str ∈ getStringArrayParam PARAMS_URI
    (markUriPermission services accessToken want),
      Grantable services accessToken want str
  exactly : Completes services want → getStringArrayParam PARAMS_URI
    (markUriPermission services accessToken want) =
      granted services accessToken 0 (uriVec want)
  forwarded : ∀ isFoundationCall callerUid requestCode sent,
    startRemoteAbilityInner services isFoundationCall (some want) callerUid
        requestCode (some accessToken) = some sent →
      ∀ str ∈ getStringArrayParam PARAMS_URI sent,
        Grantable services accessToken want str

variable {services accessToken} {want : Want}

theorem mem_stream_or_eq_uri {str : Text}
    (hgrant : Grantable services accessToken want str) :
    str ∈ getStringArrayParam PARAMS_STREAM want.params ∨ str = want.uri := by
  obtain ⟨⟨entry, i⟩, hmem, rfl⟩ := List.mem_map.mp hgrant
  have hentry := List.fst_mem_of_mem_zipIdx (List.mem_filter.mp hmem).1
  rcases List.mem_append.mp hentry with hstream | huri
  · exact .inl hstream
  · exact .inr (List.mem_singleton.mp huri)

theorem getStringArrayParam_mark_of_completes (hcompletes : Completes services want) :
    getStringArrayParam PARAMS_URI (markUriPermission services accessToken want) =
      granted services accessToken 0 (uriVec want) := by
  obtain ⟨hflag, hmanager, hanswered⟩ := hcompletes
  have hloop := uriVecPermission_eq_some_iff.mpr
    ⟨hanswered, @rfl _ (granted services accessToken 0 (uriVec want))⟩
  unfold markUriPermission
  rw [if_neg (by simp [hflag, hmanager]), hloop]
  simp [getStringArrayParam, setParam, lookup_insert]

theorem markUriPermission_of_not_completes (hreturns : ¬ Completes services want) :
    markUriPermission services accessToken want = want.params := by
  unfold markUriPermission
  split_ifs with hguard
  · rfl
  · rw [not_or, not_not, Bool.not_eq_false] at hguard
    have hmissing : ¬ Answered services 0 (uriVec want) := fun hanswered =>
      hreturns ⟨hguard.1, hguard.2, hanswered⟩
    rw [uriVecPermission_eq_none hmissing]

theorem lookup_filter {params : ParamMap} (hsorted : Sorted params) (key : Text)
    (test : Text × Interface → Bool) :
    lookup key (params.filter test) =
      (lookup key params).filter fun value => test (key, value) := by
  ext value
  rw [Option.filter_eq_some_iff]
  constructor
  · intro hfound
    obtain ⟨hmem, htest⟩ := List.mem_filter.mp (mem_of_lookup hfound)
    exact ⟨lookup_of_mem hsorted hmem, htest⟩
  · rintro ⟨hfound, htest⟩
    exact lookup_of_mem (hsorted.sublist List.filter_sublist)
      (List.mem_filter.mpr ⟨mem_of_lookup hfound, htest⟩)

theorem getStringArrayParam_removed (key : Text) (want : Want) :
    getStringArrayParam key (removed want).params =
      getStringArrayParam key want.params := by
  unfold getStringArrayParam
  rw [removed, lookup_filter want.sorted]
  cases lookup key want.params with
  | none => rfl
  | some value =>
      cases value with
      | wantParams params =>
          cases hremote : isRemoteObject (.wantParams params) <;>
            simp [Option.filter, hremote]
      | _ => rfl

theorem getStringArrayParam_mark_removed :
    getStringArrayParam PARAMS_URI
        (markUriPermission services accessToken (removed want)) =
      getStringArrayParam PARAMS_URI
        (markUriPermission services accessToken want) := by
  have hvec : uriVec (removed want) = uriVec want := by
    rw [uriVec, getStringArrayParam_removed]
    rfl
  by_cases hcompletes : Completes services want
  · have hother : Completes services (removed want) := by
      unfold Completes
      rw [hvec]
      exact hcompletes
    rw [getStringArrayParam_mark_of_completes hcompletes,
      getStringArrayParam_mark_of_completes hother, hvec]
  · have hother : ¬ Completes services (removed want) := by
      unfold Completes
      rw [hvec]
      exact hcompletes
    rw [markUriPermission_of_not_completes hcompletes,
      markUriPermission_of_not_completes hother, getStringArrayParam_removed]

/-- The list names nothing else exactly when the call gets to its end, or the
list that the caller wrote named nothing else already. -/
theorem onlyGrants_iff (services : UriServices) (accessToken : UInt32)
    (want : Want) :
    OnlyGrants services accessToken want ↔
      Completes services want ∨
        ∀ str ∈ getStringArrayParam PARAMS_URI want.params,
          Grantable services accessToken want str := by
  constructor
  · intro hgrants
    by_cases hcompletes : Completes services want
    · exact .inl hcompletes
    · have hentries := hgrants.entries
      rw [markUriPermission_of_not_completes hcompletes] at hentries
      exact .inr hentries
  · intro hwant
    have hentries : ∀ str ∈ getStringArrayParam PARAMS_URI
        (markUriPermission services accessToken want),
          Grantable services accessToken want str := by
      by_cases hcompletes : Completes services want
      · rw [getStringArrayParam_mark_of_completes hcompletes]
        exact fun str hmem => hmem
      · rw [markUriPermission_of_not_completes hcompletes]
        exact hwant.resolve_left hcompletes
    refine ⟨hentries, getStringArrayParam_mark_of_completes, ?_⟩
    intro isFoundationCall callerUid requestCode sent hsent
    have hmark : sent = markUriPermission services accessToken (removed want) := by
      cases isFoundationCall <;> cases callerUid <;> cases requestCode <;>
        simp_all [startRemoteAbilityInner]
    rw [hmark, getStringArrayParam_mark_removed]
    exact hentries

end Exits

/-! ## A list without a flag -/

def silentServices : UriServices where
  getPath str := str
  getAuthority _ := []
  hasBundleManager := true
  osAccountPart := true
  queryActiveOsAccountIds _ := some [100]
  getBundleInfo _ _ _ := none

def presetWant : Want where
  flags := 0
  uri := []
  params := setParam PARAMS_URI ["file://other/secret".toList] []
  sorted := by decide

/-- No flag is set, and the list of the caller stays. -/
theorem not_onlyGrants_preset :
    ¬ ∀ (services : UriServices) (accessToken : UInt32) (want : Want),
      OnlyGrants services accessToken want := by
  intro hall
  have hentry := (hall silentServices 7 presetWant).entries
    "file://other/secret".toList (by decide)
  exact absurd (mem_stream_or_eq_uri hentry) (by decide)

end UriPermissions
end Dmsfwk
