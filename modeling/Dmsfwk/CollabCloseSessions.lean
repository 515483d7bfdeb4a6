import Dmsfwk.CollabHandshake

/-!
# Collaborations of a dead process

`DSchedCollabManager` closes the collaborations of a process which has died and
of one which has gone to the background.  Both handlers walk through the map of
collaborations and post the end event to the entries which their filters
select.
-/

namespace Dmsfwk
namespace DSchedCollabManager

open OrderedMap

abbrev Collabs (Params : Type) :=
  Std.TreeMap Text (Option (DSchedCollabInfo Params))

variable {Params : Type}

def isSource (bundleName : Text) (pid : Int32)
    (info : DSchedCollabInfo Params) : Bool :=
  bundleName == info.srcInfo.bundleName && pid == info.srcInfo.pid

/-- The filter of both handlers for the sink, which looks at the bundle of the
source. -/
def isSink (bundleName : Text) (pid : Int32)
    (info : DSchedCollabInfo Params) : Bool :=
  bundleName == info.srcInfo.bundleName && pid == info.sinkInfo.pid

def selects (bundleName : Text) (pid : Int32)
    (info : DSchedCollabInfo Params) : Bool :=
  isSource bundleName pid info || isSink bundleName pid info

def selectsEntry (bundleName : Text) (pid : Int32) :
    Option (DSchedCollabInfo Params) → Bool
  | none => false
  | some info => selects bundleName pid info

/-- The tokens to which `HandleCloseSessions` posts the end event; it returns
after the first one. -/
def handleCloseSessions (collabs : Collabs Params) (bundleName : Text)
    (pid : Int32) : List Text :=
  ((firstMatch collabs (selectsEntry bundleName pid)).map Prod.fst).toList

def handleReleaseAbilityLink (collabs : Collabs Params) (bundleName : Text)
    (pid : Int32) : List Text :=
  collabs.toList.flatMap fun entry =>
    match entry.2 with
    | none => []
    | some info =>
        (if isSource bundleName pid info then [entry.1] else []) ++
          (if isSink bundleName pid info then [entry.1] else [])

/-! ## The collaborations of a process -/

def TakesPart (bundleName : Text) (pid : Int32)
    (info : DSchedCollabInfo Params) : Prop :=
  (info.srcInfo.bundleName = bundleName ∧ info.srcInfo.pid = pid) ∨
    (info.sinkInfo.bundleName = bundleName ∧ info.sinkInfo.pid = pid)

def Participates (collabs : Collabs Params) (bundleName : Text) (pid : Int32)
    (token : Text) : Prop :=
  ∃ info, collabs[token]? = some (some info) ∧ TakesPart bundleName pid info

/-- Both handlers end exactly the collaborations of the process. -/
def ClosesAll (collabs : Collabs Params) (bundleName : Text) (pid : Int32) :
    Prop :=
  (∀ token, token ∈ handleCloseSessions collabs bundleName pid ↔
    Participates collabs bundleName pid token) ∧
  ∀ token, token ∈ handleReleaseAbilityLink collabs bundleName pid ↔
    Participates collabs bundleName pid token

/-- Where the sink has the pid and the process is not the source, the bundle of
the source tells whether the process is the sink. -/
def SinkTold (collabs : Collabs Params) (bundleName : Text) (pid : Int32) :
    Prop :=
  ∀ (token : Text) (info : DSchedCollabInfo Params),
    collabs[token]? = some (some info) → info.sinkInfo.pid = pid →
    ¬(info.srcInfo.bundleName = bundleName ∧ info.srcInfo.pid = pid) →
    (info.srcInfo.bundleName = bundleName ↔
      info.sinkInfo.bundleName = bundleName)

def Alone (collabs : Collabs Params) (bundleName : Text) (pid : Int32) : Prop :=
  ∀ first second, Participates collabs bundleName pid first →
    Participates collabs bundleName pid second → first = second

/-! ## What the filters select -/

variable {collabs : Collabs Params} {bundleName : Text} {pid : Int32}

theorem selects_eq_true {info : DSchedCollabInfo Params} :
    selects bundleName pid info = true ↔
      info.srcInfo.bundleName = bundleName ∧
        (info.srcInfo.pid = pid ∨ info.sinkInfo.pid = pid) := by
  simp only [selects, isSource, isSink, Bool.or_eq_true, Bool.and_eq_true,
    beq_iff_eq, eq_comm (a := bundleName), eq_comm (a := pid)]
  tauto

theorem selects_iff_takesPart {info : DSchedCollabInfo Params} :
    (selects bundleName pid info = true ↔ TakesPart bundleName pid info) ↔
      (info.sinkInfo.pid = pid →
        ¬(info.srcInfo.bundleName = bundleName ∧ info.srcInfo.pid = pid) →
        (info.srcInfo.bundleName = bundleName ↔
          info.sinkInfo.bundleName = bundleName)) := by
  rw [selects_eq_true, TakesPart]
  tauto

theorem mem_handleReleaseAbilityLink {token : Text} :
    token ∈ handleReleaseAbilityLink collabs bundleName pid ↔
      ∃ info, collabs[token]? = some (some info) ∧
        selects bundleName pid info = true := by
  simp only [handleReleaseAbilityLink, List.mem_flatMap]
  constructor
  · rintro ⟨⟨found, entry⟩, hentry, hmem⟩
    cases entry with
    | none => cases hmem
    | some info =>
        have hfound := Std.TreeMap.mem_toList_iff_getElem?_eq_some.mp hentry
        have hsame : token = found ∧ selects bundleName pid info = true := by
          dsimp only at hmem
          simp only [selects, Bool.or_eq_true]
          split_ifs at hmem <;> simp_all
        exact ⟨info, hsame.1 ▸ hfound, hsame.2⟩
  · rintro ⟨info, hfound, hselects⟩
    refine ⟨(token, some info),
      Std.TreeMap.mem_toList_iff_getElem?_eq_some.mpr hfound, ?_⟩
    simp only [selects, Bool.or_eq_true] at hselects
    rcases hselects with hsource | hsink
    · simp [hsource]
    · simp [hsink]

theorem selects_of_mem_handleCloseSessions {token : Text}
    (hmem : token ∈ handleCloseSessions collabs bundleName pid) :
    ∃ info, collabs[token]? = some (some info) ∧
      selects bundleName pid info = true := by
  obtain ⟨⟨key, entry⟩, hfound, rfl⟩ :=
    Option.map_eq_some_iff.mp (Option.mem_toList.mp hmem)
  obtain ⟨hget, htest, -⟩ := firstMatch_spec hfound
  cases entry with
  | none => cases htest
  | some info => exact ⟨info, hget, htest⟩

theorem mem_handleCloseSessions_unique {first second : Text}
    (hfirst : first ∈ handleCloseSessions collabs bundleName pid)
    (hsecond : second ∈ handleCloseSessions collabs bundleName pid) :
    first = second :=
  Option.some.inj ((Option.mem_toList.mp hfirst).symm.trans
    (Option.mem_toList.mp hsecond))

theorem exists_mem_handleCloseSessions {token : Text}
    {info : DSchedCollabInfo Params}
    (hget : collabs[token]? = some (some info))
    (hselects : selects bundleName pid info = true) :
    ∃ closed, closed ∈ handleCloseSessions collabs bundleName pid := by
  cases hfound : firstMatch collabs (selectsEntry bundleName pid) with
  | none =>
      have hfails := firstMatch_eq_none.mp hfound token (some info) hget
      rw [selectsEntry, hselects] at hfails
      cases hfails
  | some found =>
      refine ⟨found.1, ?_⟩
      simp [handleCloseSessions, hfound]

/-- The release handler ends the collaborations of the process if and only if
the bundle of the source tells its sinks. -/
theorem release_iff_sinkTold :
    (∀ token, token ∈ handleReleaseAbilityLink collabs bundleName pid ↔
      Participates collabs bundleName pid token) ↔
      SinkTold collabs bundleName pid := by
  simp only [mem_handleReleaseAbilityLink, Participates]
  constructor
  · intro hsame token info hget
    apply selects_iff_takesPart.mp
    have htoken := hsame token
    simpa [hget] using htoken
  · intro htold token
    constructor
    · rintro ⟨info, hget, hselects⟩
      exact ⟨info, hget,
        (selects_iff_takesPart.mpr (htold token info hget)).mp hselects⟩
    · rintro ⟨info, hget, hpart⟩
      exact ⟨info, hget,
        (selects_iff_takesPart.mpr (htold token info hget)).mpr hpart⟩

/-- Both handlers end exactly the collaborations of the process if and only if
there is at most one of them and the bundle of the source tells the sinks. -/
theorem closesAll_iff (collabs : Collabs Params) (bundleName : Text)
    (pid : Int32) :
    ClosesAll collabs bundleName pid ↔
      Alone collabs bundleName pid ∧ SinkTold collabs bundleName pid := by
  constructor
  · rintro ⟨hclose, hrelease⟩
    refine ⟨fun first second hfirst hsecond => ?_,
      release_iff_sinkTold.mp hrelease⟩
    exact mem_handleCloseSessions_unique ((hclose first).mpr hfirst)
      ((hclose second).mpr hsecond)
  · rintro ⟨halone, htold⟩
    have hrelease := release_iff_sinkTold.mpr htold
    refine ⟨fun token => ⟨fun hmem => ?_, fun hpart => ?_⟩, hrelease⟩
    · exact (hrelease token).mp (mem_handleReleaseAbilityLink.mpr
        (selects_of_mem_handleCloseSessions hmem))
    · obtain ⟨info, hget, hselects⟩ :=
        mem_handleReleaseAbilityLink.mp ((hrelease token).mpr hpart)
      obtain ⟨closed, hclosed⟩ := exists_mem_handleCloseSessions hget hselects
      have hsame : closed = token :=
        halone closed token ((hrelease closed).mp
          (mem_handleReleaseAbilityLink.mpr
            (selects_of_mem_handleCloseSessions hclosed))) hpart
      exact hsame ▸ hclosed

/-! ### Two collaborations of one process -/

def sharedInfo : DSchedCollabInfo Unit where
  srcInfo := { bundleName := "app".toList, pid := 100 }
  sinkInfo := { bundleName := "app".toList, pid := 200 }
  srcOpt := { startParams := (), messageParams := () }

def sharedCollabs : Collabs Unit :=
  ((∅ : Collabs Unit).insert "t1".toList (some sharedInfo)).insert "t2".toList
    (some sharedInfo)

/-- The second collaboration of a dead process is left open. -/
theorem not_closesAll_shared :
    ¬ClosesAll sharedCollabs "app".toList 100 := by
  rintro ⟨hclose, -⟩
  have hsecond : Participates sharedCollabs "app".toList 100 "t2".toList :=
    ⟨sharedInfo, by simp [sharedCollabs], .inl ⟨rfl, rfl⟩⟩
  have hopen : "t2".toList ∉
      handleCloseSessions sharedCollabs "app".toList 100 := by
    decide +kernel
  exact hopen ((hclose _).mpr hsecond)

end DSchedCollabManager
end Dmsfwk
