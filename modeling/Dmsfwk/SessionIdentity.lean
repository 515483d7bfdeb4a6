import Dmsfwk.AbilityConnectionManager
import Mathlib.Data.Char
import Mathlib.Data.List.Lex
import Mathlib.Order.RelClasses

/-!
# The identity of a collaboration session

The session maps are keyed by the description of a session.  Its operators
compare the five texts of a peer as one text, without a mark between them, so
that they cannot tell where one field ends and the next begins.
-/

namespace Dmsfwk

namespace PeerInfo

def equals (info index : PeerInfo) : Bool :=
  decide (info.compareInfo = index.compareInfo)

def lessThan (info index : PeerInfo) : Bool :=
  decide (info.compareInfo < index.compareInfo)

def fieldLengths (info : PeerInfo) : List ℕ :=
  [info.deviceId.length, info.bundleName.length, info.moduleName.length,
    info.abilityName.length]

theorem equals_iff {info index : PeerInfo} :
    info.equals index = true ↔ info.compareInfo = index.compareInfo :=
  decide_eq_true_iff

theorem lessThan_iff {info index : PeerInfo} :
    info.lessThan index = true ↔ info.compareInfo < index.compareInfo :=
  decide_eq_true_iff

theorem eq_of_compareInfo {info index : PeerInfo}
    (hcompare : info.compareInfo = index.compareInfo)
    (hlengths : info.fieldLengths = index.fieldLengths) : info = index := by
  simp only [fieldLengths, List.cons.injEq, and_true] at hlengths
  obtain ⟨hdevice, hbundle, hmodule, hability⟩ := hlengths
  simp only [compareInfo, List.append_assoc] at hcompare
  obtain ⟨hdeviceId, hcompare⟩ := List.append_inj hcompare hdevice
  obtain ⟨hbundleName, hcompare⟩ := List.append_inj hcompare hbundle
  obtain ⟨hmoduleName, hcompare⟩ := List.append_inj hcompare hmodule
  obtain ⟨habilityName, hserverId⟩ := List.append_inj hcompare hability
  cases info
  cases index
  simp_all

end PeerInfo

namespace AbilityConnectionSessionInfo

def equals (info index : AbilityConnectionSessionInfo) : Bool :=
  decide (info.serverId = index.serverId) &&
    info.localInfo.equals index.localInfo && info.peerInfo.equals index.peerInfo

def lessThan (info index : AbilityConnectionSessionInfo) : Bool :=
  if info.serverId ≠ index.serverId then
    decide (info.serverId < index.serverId)
  else if info.localInfo.equals index.localInfo then
    info.peerInfo.lessThan index.peerInfo
  else info.localInfo.lessThan index.localInfo

/-- Neither is less, so that a map takes them for the same key. -/
def SameKey (info index : AbilityConnectionSessionInfo) : Prop :=
  ¬info.lessThan index = true ∧ ¬index.lessThan info = true

instance (info index : AbilityConnectionSessionInfo) :
    Decidable (info.SameKey index) :=
  inferInstanceAs (Decidable (_ ∧ _))

def SplitsAs (info index : AbilityConnectionSessionInfo) : Prop :=
  info.serverId = index.serverId →
    info.localInfo.compareInfo = index.localInfo.compareInfo →
    info.peerInfo.compareInfo = index.peerInfo.compareInfo →
    info.localInfo.fieldLengths = index.localInfo.fieldLengths ∧
      info.peerInfo.fieldLengths = index.peerInfo.fieldLengths

/-! ## The key of the model -/

theorem equals_iff_key {info index : AbilityConnectionSessionInfo} :
    info.equals index = true ↔ info.key = index.key := by
  unfold equals key
  simp only [Bool.and_eq_true, decide_eq_true_iff, PeerInfo.equals_iff,
    List.cons.injEq, and_true, and_assoc]

theorem lessThan_iff_key {info index : AbilityConnectionSessionInfo} :
    info.lessThan index = true ↔ info.key < index.key := by
  unfold lessThan key
  simp only [List.cons_lt_cons_iff, List.lt_irrefl, and_false, or_false]
  by_cases hserver : info.serverId = index.serverId
  · rw [if_neg (not_not.mpr hserver), hserver]
    by_cases hlocal : info.localInfo.equals index.localInfo = true
    · rw [if_pos hlocal, PeerInfo.lessThan_iff, PeerInfo.equals_iff.mp hlocal]
      simp
    · rw [if_neg hlocal, PeerInfo.lessThan_iff]
      rw [PeerInfo.equals_iff] at hlocal
      simp [hlocal]
  · rw [if_pos hserver, decide_eq_true_iff]
    simp [hserver]

theorem sameKey_iff {info index : AbilityConnectionSessionInfo} :
    info.SameKey index ↔ info.equals index = true := by
  unfold SameKey
  rw [equals_iff_key, lessThan_iff_key, lessThan_iff_key, not_lt, not_lt]
  exact ⟨fun h => le_antisymm h.2 h.1, fun h => ⟨h.ge, h.le⟩⟩

theorem isStrictWeakOrder_lessThan :
    IsStrictWeakOrder AbilityConnectionSessionInfo
      fun info index => info.lessThan index = true := by
  have hkeys : IsStrictWeakOrder SessionKey (· < ·) :=
    isStrictWeakOrder_of_isOrderConnected
  have hsame : (fun info index : AbilityConnectionSessionInfo =>
      info.lessThan index = true) = Order.Preimage key (· < ·) := by
    funext info index
    exact propext lessThan_iff_key
  rw [hsame]
  exact Order.Preimage.instIsStrictWeakOrder

/-- `operator ==` compares the fields exactly when equal texts are split into
the same fields; the maps always agree with it. -/
theorem identity_iff (info index : AbilityConnectionSessionInfo) :
    ((info.equals index = true ↔ info = index) ↔ info.SplitsAs index) ∧
      (info.SameKey index ↔ info.equals index = true) ∧
      IsStrictWeakOrder AbilityConnectionSessionInfo
        fun first second => first.lessThan second = true := by
  refine ⟨?_, sameKey_iff, isStrictWeakOrder_lessThan⟩
  rw [equals_iff_key]
  constructor
  · intro hfields hserver hlocal hpeer
    have hkey : info.key = index.key := by
      unfold key
      rw [hserver, hlocal, hpeer]
    rw [hfields.mp hkey]
    exact ⟨rfl, rfl⟩
  · intro hsplits
    refine ⟨fun hkey => ?_, congrArg key⟩
    simp only [key, List.cons.injEq, and_true] at hkey
    obtain ⟨hserver, hlocal, hpeer⟩ := hkey
    obtain ⟨hlocalSplit, hpeerSplit⟩ := hsplits hserver hlocal hpeer
    have hlocalInfo := PeerInfo.eq_of_compareInfo hlocal hlocalSplit
    have hpeerInfo := PeerInfo.eq_of_compareInfo hpeer hpeerSplit
    cases info
    cases index
    simp_all

def sessionWith (bundleName moduleName : Text) : AbilityConnectionSessionInfo :=
  ⟨"share".toList,
    ⟨[], "com.notes".toList, "entry".toList, "Main".toList, "share".toList⟩,
    ⟨"peer".toList, bundleName, moduleName, "Main".toList, "share".toList⟩⟩

/-- The bundles `com.notes` and `com.note` of the peer with the modules `entry`
and `sentry`. -/
theorem equals_otherBundle :
    (sessionWith "com.notes".toList "entry".toList).equals
        (sessionWith "com.note".toList "sentry".toList) = true ∧
      (sessionWith "com.notes".toList "entry".toList).SameKey
        (sessionWith "com.note".toList "sentry".toList) ∧
      sessionWith "com.notes".toList "entry".toList ≠
        sessionWith "com.note".toList "sentry".toList := by
  decide

end AbilityConnectionSessionInfo

end Dmsfwk
