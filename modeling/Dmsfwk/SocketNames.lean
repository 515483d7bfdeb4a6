import Dmsfwk.ChannelRegistry

/-!
# The names of incoming sockets

`OnSocketConnected` looks for the split flag behind a fixed position, reads the
letter of the data type after it and cuts off two characters.  A name which ends
with the letter has only one to cut.
-/

namespace Dmsfwk

namespace ChannelManager

theorem getChannelDataTypeFromName_eq_some_iff {channelName : Text}
    {dataType : ChannelDataType} :
    getChannelDataTypeFromName channelName = some dataType ↔
      ∃ rest, channelName = dataType.nameFlag :: rest := by
  constructor
  · intro hfound
    unfold getChannelDataTypeFromName at hfound
    have hdecided := List.find?_some hfound
    have hflag := of_decide_eq_true hdecided
    cases channelName with
    | nil => cases hflag
    | cons char rest =>
        exact ⟨rest, congrArg (· :: rest) (List.head_eq_of_cons_eq hflag)⟩
  · rintro ⟨rest, rfl⟩
    exact getChannelDataTypeFromName_nameFlag dataType rest

def parseSocketName (socketName : Text) : Option (ChannelDataType × Text) :=
  match getChannelNameFromSocket socketName with
  | none => none
  | some channelName =>
      match getChannelDataTypeFromName channelName with
      | none => none
      | some dataType =>
          if channelName.length < 2 then none
          else some (dataType, channelName.drop 2)

theorem onSocketConnected_of_parseSocketName {manager : ChannelManager}
    {socketId : ℤ} {socketName channelName : Text} {dataType : ChannelDataType}
    (hsocket : 0 < socketId)
    (hparse : parseSocketName socketName = some (dataType, channelName)) :
    manager.onSocketConnected socketId socketName =
      if isValidChannelId (manager.getChannelId channelName dataType) then
        .updateChannel (manager.getChannelId channelName dataType)
      else .rejected := by
  unfold parseSocketName at hparse
  rw [onSocketConnected, if_neg (not_le.mpr hsocket)]
  cases hname : getChannelNameFromSocket socketName with
  | none =>
      rw [hname] at hparse
      cases hparse
  | some name =>
      rw [hname] at hparse
      dsimp only at hparse ⊢
      cases htype : getChannelDataTypeFromName name with
      | none =>
          rw [htype] at hparse
          cases hparse
      | some type =>
          rw [htype] at hparse
          dsimp only at hparse ⊢
          split_ifs at hparse with hshort
          obtain ⟨rfl, rfl⟩ := Prod.mk.inj (Option.some.inj hparse)
          rw [if_neg hshort]

/-! ## Names which throw -/

def EndsWithFlag (socketName : Text) : Prop :=
  ∃ front, ∃ dataType : ChannelDataType,
    socketName = front ++ [splitFlag, dataType.nameFlag] ∧
      channelNamePrefixLength ≤ front.length ∧
      splitFlag ∉ front.drop channelNamePrefixLength

theorem onSocketConnected_eq_outOfRange_iff {manager : ChannelManager}
    {socketId : ℤ} {socketName : Text} :
    manager.onSocketConnected socketId socketName = .outOfRange ↔
      0 < socketId ∧ EndsWithFlag socketName := by
  constructor
  · intro hthrows
    unfold onSocketConnected at hthrows
    split_ifs at hthrows with hsocket
    refine ⟨not_le.mp hsocket, ?_⟩
    cases hname : getChannelNameFromSocket socketName with
    | none =>
        rw [hname] at hthrows
        cases hthrows
    | some channelName =>
        rw [hname] at hthrows
        dsimp only at hthrows
        cases htype : getChannelDataTypeFromName channelName with
        | none =>
            rw [htype] at hthrows
            cases hthrows
        | some dataType =>
            rw [htype] at hthrows
            dsimp only at hthrows
            split_ifs at hthrows with hshort
            obtain ⟨front, hsplit, hlength, hflag⟩ :=
              getChannelNameFromSocket_eq_some_iff.mp hname
            obtain ⟨rest, rfl⟩ :=
              getChannelDataTypeFromName_eq_some_iff.mp htype
            obtain rfl : rest = [] := by
              rw [List.length_cons] at hshort
              exact List.eq_nil_of_length_eq_zero (by omega)
            exact ⟨front, dataType, hsplit, hlength, hflag⟩
  · rintro ⟨hsocket, front, dataType, hsplit, hlength, hflag⟩
    have hname := getChannelNameFromSocket_eq_some_iff.mpr
      ⟨front, hsplit, hlength, hflag⟩
    rw [onSocketConnected, if_neg (not_le.mpr hsocket), hname]
    dsimp only
    rw [getChannelDataTypeFromName_nameFlag]
    rfl

def IsHexName (name : Text) : Prop :=
  name.length = 64 ∧ ∀ char ∈ name, char ∈ "0123456789abcdefABCDEF".toList

theorem IsHexName.splitFlag_not_mem {name : Text} (hname : IsHexName name) :
    splitFlag ∉ name := by
  intro hflag
  exact absurd (hname.2 _ hflag) (by decide)

theorem parseSocketName_clientSocketName {ownerName : Text}
    (howner : IsHexName ownerName) (dataType : ChannelDataType)
    (channelName : Text) :
    parseSocketName (clientSocketName ownerName dataType channelName) =
      some (dataType, channelName) := by
  rw [parseSocketName, getChannelNameFromSocket_clientSocketName howner.1
    howner.splitFlag_not_mem]
  simp [getChannelDataTypeFromName_nameFlag]

/-- The handling of a name throws for names which end with a letter, and the
names which a client makes are read back. -/
theorem socketNames_handled_iff (manager : ChannelManager) (socketId : ℤ)
    (socketName : Text) :
    (manager.onSocketConnected socketId socketName ≠ .outOfRange ↔
        socketId ≤ 0 ∨ ¬EndsWithFlag socketName) ∧
      ∀ (ownerName : Text) (dataType : ChannelDataType) (channelName : Text),
        IsHexName ownerName →
          parseSocketName (clientSocketName ownerName dataType channelName) =
            some (dataType, channelName) := by
  constructor
  · rw [ne_eq, onSocketConnected_eq_outOfRange_iff, not_and_or, not_lt]
  · intro ownerName dataType channelName howner
    exact parseSocketName_clientSocketName howner dataType channelName

theorem socketNames_handled_sample :
    parseSocketName (clientSocketName (List.replicate 64 'a') .file
      "64_F".toList) = some (.file, "64_F".toList) := by
  apply (socketNames_handled_iff (initial []) 7 []).2
  refine ⟨List.length_replicate, fun char hchar => ?_⟩
  rw [List.eq_of_mem_replicate hchar]
  decide

/-- A peer whose socket name stops behind the letter of the data type. -/
theorem onSocketConnected_truncatedName :
    (initial []).onSocketConnected 7
        (List.replicate 64 'a' ++ [splitFlag, 'M']) = .outOfRange := by
  decide

end ChannelManager

end Dmsfwk
