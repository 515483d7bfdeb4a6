import Dmsfwk.ChannelManager
import Mathlib.Data.List.Nodup
import Mathlib.Data.List.TakeWhile

/-!
# The registry as a list of channels

What `OnSocketConnected` looks up is determined by the channels that are
currently registered, in the order of their creation: the channel of a name
and a data type is the first one with both.  The maps of the channel manager
represent this list, creating a channel appends to it and deleting one removes
it.
-/

namespace Dmsfwk

structure LiveChannel where
  channelName : Text
  dataType : ChannelDataType
  channelId : ℤ
  deriving DecidableEq, Repr

namespace LiveChannel

def matching (channelName : Text) (dataType : ChannelDataType)
    (channel : LiveChannel) : Bool :=
  decide (channel.channelName = channelName ∧ channel.dataType = dataType)

def describes (channel : LiveChannel) (info : ChannelInfo) : Prop :=
  info.channelId = channel.channelId ∧
    info.channelName = channel.channelName ∧ info.dataType = channel.dataType

end LiveChannel

namespace ChannelManager

structure Represents (manager : ChannelManager) (live : List LiveChannel) :
    Prop where
  ids : ∀ channelName : Text,
    manager.channelIdMap[channelName]?.getD [] =
      (live.filter (·.channelName = channelName)).map (·.channelId)
  infos : ∀ channel ∈ live, ∃ info,
    manager.channelInfoMap[channel.channelId]? = some info ∧
      channel.describes info
  complete : ∀ (channelId : ℤ) (info : ChannelInfo),
    manager.channelInfoMap[channelId]? = some info →
      ∃ channel ∈ live, channel.channelId = channelId
  nodup : (live.map (·.channelId)).Nodup
  given : ∀ channel ∈ live,
    channelIdGap * (channel.dataType.index + 1) < channel.channelId ∧
      channel.channelId < manager.nextIds channel.dataType
  next : ∀ dataType : ChannelDataType,
    channelIdGap * (dataType.index + 1) < manager.nextIds dataType ∧
      manager.nextIds dataType ≤ channelIdGap * (dataType.index + 2)

theorem represents_initial (ownerName : Text) :
    (initial ownerName).Represents [] where
  ids := by
    intro channelName
    simp [initial]
  infos := by simp
  complete := by
    intro channelId info hinfo
    simp [initial] at hinfo
  nodup := by simp
  given := by simp
  next := by
    intro dataType
    show _ < startIds dataType ∧ startIds dataType ≤ _
    cases dataType <;> decide

section Registered

variable {manager : ChannelManager} {live : List LiveChannel}
  {channel : LiveChannel}

section Represents

variable (hrepresents : manager.Represents live)

include hrepresents

theorem Represents.fresh (dataType : ChannelDataType) :
    ∀ channel ∈ live, channel.channelId ≠ manager.nextIds dataType := by
  intro channel hchannel
  obtain ⟨hlower, hupper⟩ := hrepresents.given channel hchannel
  exact given_ne_nextIds hrepresents.next hlower hupper dataType

theorem Represents.eq_of_channelId {first second : LiveChannel}
    (hfirst : first ∈ live) (hsecond : second ∈ live)
    (hid : first.channelId = second.channelId) :
    first = second :=
  List.inj_on_of_nodup_map hrepresents.nodup hfirst hsecond hid

theorem Represents.isValidChannelId (hchannel : channel ∈ live) :
    ChannelManager.isValidChannelId channel.channelId = true := by
  obtain ⟨hlower, hupper⟩ := hrepresents.given channel hchannel
  exact isValidChannelId_of_range hlower
    (hupper.le.trans (hrepresents.next channel.dataType).2)

/-! ## Lookup -/

theorem Represents.findByDataType (dataType : ChannelDataType)
    (channels : List LiveChannel) (hsub : ∀ channel ∈ channels, channel ∈ live) :
    manager.findByDataType dataType (channels.map (·.channelId)) =
      ((channels.find? (·.dataType = dataType)).map (·.channelId)).getD
        CollabErr.noSuchChannel.code := by
  induction channels with
  | nil => rfl
  | cons channel channels ih =>
      obtain ⟨info, hinfo, hid, -, htype⟩ :=
        hrepresents.infos channel (hsub channel List.mem_cons_self)
      have hrest := ih fun other hother =>
        hsub other (List.mem_cons_of_mem channel hother)
      rw [List.map_cons, ChannelManager.findByDataType, hinfo,
        List.find?_cons]
      by_cases hmatch : channel.dataType = dataType
      · simp [hmatch, htype, hid]
      · simp [hmatch, htype, hrest]

theorem Represents.getChannelId (channelName : Text) (dataType : ChannelDataType) :
    (∃ channel,
        live.find? (LiveChannel.matching channelName dataType) =
          some channel ∧
        manager.getChannelId channelName dataType = channel.channelId) ∨
      live.find? (LiveChannel.matching channelName dataType) = none ∧
        ChannelManager.isValidChannelId
          (manager.getChannelId channelName dataType) = false := by
  have hids := hrepresents.ids channelName
  have hfind :
      live.find? (LiveChannel.matching channelName dataType) =
        (live.filter (·.channelName = channelName)).find?
          (·.dataType = dataType) := by
    rw [List.find?_filter]
    congr 1
    funext channel
    simp [LiveChannel.matching]
  have hloop := hrepresents.findByDataType dataType
    (live.filter (·.channelName = channelName))
    (fun channel hchannel => (List.mem_filter.mp hchannel).1)
  rw [hfind]
  unfold ChannelManager.getChannelId
  cases hname : manager.channelIdMap[channelName]? with
  | none =>
      rw [hname] at hids
      have hempty : live.filter (·.channelName = channelName) = [] :=
        List.map_eq_nil_iff.mp hids.symm
      have hinvalid : ChannelManager.isValidChannelId
          CollabErr.invalidChannelName.code = false := by
        decide
      rw [hempty]
      exact Or.inr ⟨rfl, hinvalid⟩
  | some ids =>
      rw [hname] at hids
      simp only [Option.getD_some] at hids
      simp only [hids, hloop]
      cases (live.filter (·.channelName = channelName)).find?
          (·.dataType = dataType) with
      | none => exact Or.inr ⟨rfl, by decide⟩
      | some channel => exact Or.inl ⟨channel, rfl, rfl⟩

end Represents

/-! ## Creating and deleting -/

def nextChannel (manager : ChannelManager) (channelName : Text)
    (dataType : ChannelDataType) : LiveChannel :=
  ⟨channelName, dataType, manager.nextIds dataType⟩

section Changes

variable (hrepresents : manager.Represents live)

include hrepresents

theorem Represents.getElem?_nextIds (dataType : ChannelDataType) :
    manager.channelInfoMap[manager.nextIds dataType]? = none := by
  by_contra hsome
  obtain ⟨info, hinfo⟩ := Option.ne_none_iff_exists'.mp hsome
  obtain ⟨channel, hchannel, hid⟩ := hrepresents.complete _ info hinfo
  exact hrepresents.fresh dataType channel hchannel hid

theorem Represents.createServerChannel (channelName : Text)
    (peerInfo : ChannelPeerInfo) {dataType : ChannelDataType}
    (hroom : manager.HasRoom dataType) :
    (manager.createServerChannel channelName dataType peerInfo).1 =
        (manager.nextChannel channelName dataType).channelId ∧
      (manager.createServerChannel channelName dataType
        peerInfo).2.Represents
        (live ++ [manager.nextChannel channelName dataType]) := by
  rw [createServerChannel_eq (hrepresents.next dataType).1 hroom]
  refine ⟨rfl, ?_⟩
  have hfresh := hrepresents.fresh dataType
  have hnew := hrepresents.getElem?_nextIds dataType
  constructor
  · intro name
    have hids := hrepresents.ids name
    simp only [registerChannel, OrderedMap.getElem?_insert_eq, nextChannel,
      channelIdMap_advance, List.filter_append, List.map_append]
    by_cases hname : channelName = name
    · subst hname
      simp [hids]
    · simp [hname, hids]
  · intro channel hchannel
    simp only [registerChannel, channelInfoMap_advance,
      OrderedMap.getElem?_insertIfNew_eq hnew]
    rcases List.mem_append.mp hchannel with hold | hadded
    · rw [if_neg (hfresh channel hold).symm]
      exact hrepresents.infos channel hold
    · obtain rfl := List.mem_singleton.mp hadded
      exact ⟨_, if_pos rfl, rfl, rfl, rfl⟩
  · intro channelId info hinfo
    simp only [registerChannel, channelInfoMap_advance,
      OrderedMap.getElem?_insertIfNew_eq hnew] at hinfo
    split_ifs at hinfo with hsame
    · exact ⟨manager.nextChannel channelName dataType, by simp, hsame⟩
    · obtain ⟨channel, hchannel, hid⟩ :=
        hrepresents.complete channelId info hinfo
      exact ⟨channel, List.mem_append_left _ hchannel, hid⟩
  · rw [List.map_append, List.nodup_append]
    refine ⟨hrepresents.nodup, List.nodup_singleton _, ?_⟩
    intro channelId hchannelId added hadded
    obtain ⟨channel, hchannel, rfl⟩ := List.mem_map.mp hchannelId
    obtain rfl := List.mem_singleton.mp hadded
    exact hfresh channel hchannel
  · intro channel hchannel
    simp only [registerChannel, nextIds_advance]
    rcases List.mem_append.mp hchannel with hold | hadded
    · obtain ⟨hlower, hupper⟩ := hrepresents.given channel hold
      exact ⟨hlower, lt_nextIds_update hupper dataType⟩
    · obtain rfl := List.mem_singleton.mp hadded
      simp only [nextChannel, Function.update_self]
      exact ⟨(hrepresents.next dataType).1, by omega⟩
  · exact nextIds_update_range hrepresents.next hroom

theorem Represents.ids_clearRegisterChannel (hchannel : channel ∈ live)
    (name : Text) :
    (manager.clearRegisterChannel
        channel.channelId).channelIdMap[name]?.getD [] =
      (manager.channelIdMap[name]?.getD []).filter
        (· ≠ channel.channelId) := by
  obtain ⟨info, hinfo, -, hname, -⟩ := hrepresents.infos channel hchannel
  have hothers : channel.channelName ≠ name →
      (manager.channelIdMap[name]?.getD []).filter
        (· ≠ channel.channelId) = manager.channelIdMap[name]?.getD [] := by
    intro hdiffers
    rw [List.filter_eq_self, hrepresents.ids name]
    intro channelId hmem
    obtain ⟨other, hother, rfl⟩ := List.mem_map.mp hmem
    obtain ⟨hlive, hnamed⟩ := List.mem_filter.mp hother
    rw [decide_eq_true_eq] at hnamed ⊢
    intro hsame
    obtain rfl := hrepresents.eq_of_channelId hlive hchannel hsame
    exact hdiffers hnamed
  simp only [ChannelManager.clearRegisterChannel, hinfo, Option.map_some,
    Option.getD_some, hname]
  cases hids : manager.channelIdMap[channel.channelName]? with
  | none =>
      by_cases hsame : channel.channelName = name
      · rw [← hsame, hids]
        rfl
      · exact (hothers hsame).symm
  | some ids =>
      simp only [OrderedMap.getElem?_insert_eq]
      by_cases hsame : channel.channelName = name
      · rw [if_pos hsame, ← hsame, hids]
        rfl
      · rw [if_neg hsame]
        exact (hothers hsame).symm

theorem Represents.clearRegisterChannel (hchannel : channel ∈ live) :
    (manager.clearRegisterChannel channel.channelId).Represents
      (live.filter (·.channelId ≠ channel.channelId)) := by
  constructor
  · intro name
    rw [hrepresents.ids_clearRegisterChannel hchannel, hrepresents.ids,
      List.filter_map, List.filter_filter, List.filter_filter]
    congr 2
    funext other
    simp only [Function.comp_apply, Bool.and_comm]
  · intro other hother
    obtain ⟨hlive, hdiffers⟩ := List.mem_filter.mp hother
    obtain ⟨found, hfound, hdescribes⟩ := hrepresents.infos other hlive
    refine ⟨found, ?_, hdescribes⟩
    simp only [ChannelManager.clearRegisterChannel,
      OrderedMap.getElem?_erase_eq]
    rw [if_neg]
    · exact hfound
    · intro hsame
      simp [hsame] at hdiffers
  · intro channelId found hfound
    simp only [ChannelManager.clearRegisterChannel,
      OrderedMap.getElem?_erase_eq] at hfound
    split_ifs at hfound with hsame
    obtain ⟨other, hother, rfl⟩ :=
      hrepresents.complete channelId found hfound
    refine ⟨other, List.mem_filter.mpr ⟨hother, ?_⟩, rfl⟩
    simpa using Ne.symm hsame
  · exact (hrepresents.nodup.sublist
      (List.filter_sublist.map _))
  · intro other hother
    exact hrepresents.given other (List.mem_filter.mp hother).1
  · exact hrepresents.next

theorem Represents.deleteChannel (hchannel : channel ∈ live) :
    (manager.deleteChannel channel.channelId).2.Represents
      (live.filter (·.channelId ≠ channel.channelId)) := by
  have hcleared := hrepresents.clearRegisterChannel hchannel
  rw [ChannelManager.deleteChannel,
    if_pos (hrepresents.isValidChannelId hchannel)]
  exact ⟨hcleared.ids, hcleared.infos, hcleared.complete, hcleared.nodup,
    hcleared.given, hcleared.next⟩

theorem Represents.deleteChannels {channelIds : List ℤ} (hnodup : channelIds.Nodup)
    (hlive : ∀ channelId ∈ channelIds,
      ∃ channel ∈ live, channel.channelId = channelId) :
    (manager.deleteChannels channelIds).Represents
      (live.filter (·.channelId ∉ channelIds)) := by
  induction channelIds generalizing manager live with
  | nil => simpa [ChannelManager.deleteChannels] using hrepresents
  | cons channelId rest ih =>
      obtain ⟨hnotMem, hrest⟩ := List.nodup_cons.mp hnodup
      obtain ⟨channel, hchannel, rfl⟩ := hlive channelId List.mem_cons_self
      have hdeleted := hrepresents.deleteChannel hchannel
      have hleft := ih hdeleted hrest (by
        intro other hother
        obtain ⟨found, hfound, rfl⟩ :=
          hlive other (List.mem_cons_of_mem _ hother)
        refine ⟨found, List.mem_filter.mpr ⟨hfound, ?_⟩, rfl⟩
        rw [decide_eq_true_eq]
        intro hsame
        rw [hsame] at hother
        exact hnotMem hother)
      rw [List.filter_filter] at hleft
      have hfilter :
          live.filter (·.channelId ∉ channel.channelId :: rest) =
            live.filter (fun other =>
              decide (other.channelId ∉ rest) &&
                decide (other.channelId ≠ channel.channelId)) := by
        congr 1
        funext other
        simp [not_or, Bool.and_comm]
      rw [hfilter]
      exact hleft

/-! ## Registering sockets -/

theorem Represents.replaceInfo {next : ChannelManager} {channelId : ℤ}
    {info replacement : ChannelInfo}
    (hinfo : manager.channelInfoMap[channelId]? = some info)
    (hids : next.channelIdMap = manager.channelIdMap)
    (hinfos : next.channelInfoMap =
      manager.channelInfoMap.insert channelId replacement)
    (hnext : next.nextIds = manager.nextIds)
    (hsame : replacement.channelId = info.channelId ∧
      replacement.channelName = info.channelName ∧
      replacement.dataType = info.dataType) :
    next.Represents live := by
  constructor
  · rw [hids]
    exact hrepresents.ids
  · intro channel hchannel
    obtain ⟨found, hfound, hdescribes⟩ := hrepresents.infos channel hchannel
    rw [hinfos, OrderedMap.getElem?_insert_eq]
    split_ifs with hcase
    · rw [← hcase, hinfo] at hfound
      obtain rfl := Option.some.inj hfound
      obtain ⟨hid, hname, htype⟩ := hsame
      exact ⟨replacement, rfl, hid.trans hdescribes.1,
        hname.trans hdescribes.2.1, htype.trans hdescribes.2.2⟩
    · exact ⟨found, hfound, hdescribes⟩
  · intro other found hfound
    rw [hinfos, OrderedMap.getElem?_insert_eq] at hfound
    split_ifs at hfound with hcase
    · exact hrepresents.complete other info (hcase ▸ hinfo)
    · exact hrepresents.complete other found hfound
  · exact hrepresents.nodup
  · rw [hnext]
    exact hrepresents.given
  · rw [hnext]
    exact hrepresents.next

theorem Represents.registerSocket (socketId channelId setFileSchema : ℤ) :
    (manager.registerSocket socketId channelId
      setFileSchema).2.Represents live := by
  unfold ChannelManager.registerSocket
  cases hinfo : manager.channelInfoMap[channelId]? with
  | none => exact hrepresents
  | some info =>
      simp only
      split_ifs
      · exact hrepresents.replaceInfo hinfo rfl rfl rfl ⟨rfl, rfl, rfl⟩
      · exact hrepresents.replaceInfo hinfo rfl rfl rfl ⟨rfl, rfl, rfl⟩

theorem Represents.setSocketStatus (socketId : ℤ) (status : ChannelStatus) :
    (manager.setSocketStatus socketId status).2.Represents live := by
  have hstatus : ∀ statuses,
      ({ manager with socketStatusMap := statuses }).Represents live := by
    intro statuses
    exact ⟨hrepresents.ids, hrepresents.infos, hrepresents.complete,
      hrepresents.nodup, hrepresents.given, hrepresents.next⟩
  unfold ChannelManager.setSocketStatus
  cases manager.socketStatusMap[socketId]? with
  | none => exact hrepresents
  | some _ =>
      simp only
      cases manager.socketChannelMap[socketId]? with
      | none => exact hstatus _
      | some channelId =>
          simp only [updateChannelStatus]
          cases hinfo : manager.channelInfoMap[channelId]? with
          | none => exact hstatus _
          | some info =>
              exact (hstatus _).replaceInfo hinfo rfl rfl rfl
                ⟨rfl, rfl, rfl⟩

theorem Represents.updateChannel (socketId channelId setFileSchema : ℤ) :
    (manager.updateChannel socketId channelId
      setFileSchema).2.Represents live := by
  have hregistered :=
    hrepresents.registerSocket socketId channelId setFileSchema
  unfold ChannelManager.updateChannel
  split
  · next next hregister =>
      rw [hregister] at hregistered
      exact hregistered.setSocketStatus socketId .connected
  · exact hregistered

end Changes

theorem socketChannelMap_setSocketStatus (socketId : ℤ)
    (status : ChannelStatus) :
    (manager.setSocketStatus socketId status).2.socketChannelMap =
      manager.socketChannelMap := by
  unfold ChannelManager.setSocketStatus
  cases manager.socketStatusMap[socketId]? with
  | none => rfl
  | some _ =>
      simp only
      cases manager.socketChannelMap[socketId]? with
      | none => rfl
      | some channelId =>
          simp only [updateChannelStatus]
          cases manager.channelInfoMap[channelId]? with
          | none => rfl
          | some info => rfl

theorem Represents.socketChannelMap_updateChannel
    (hrepresents : manager.Represents live) (hchannel : channel ∈ live)
    (socketId setFileSchema : ℤ) :
    (manager.updateChannel socketId channel.channelId
      setFileSchema).2.socketChannelMap[socketId]? =
        some channel.channelId := by
  obtain ⟨info, hinfo, -⟩ := hrepresents.infos channel hchannel
  have hregistered :
      (manager.registerSocket socketId channel.channelId
        setFileSchema).2.socketChannelMap[socketId]? =
          some channel.channelId := by
    simp only [ChannelManager.registerSocket, hinfo]
    split_ifs
    · exact Std.TreeMap.getElem?_insert_self
    · exact Std.TreeMap.getElem?_insert_self
  unfold ChannelManager.updateChannel
  split
  · next next hregister =>
      rw [hregister] at hregistered
      rw [socketChannelMap_setSocketStatus]
      exact hregistered
  · exact hregistered

/-! ## Routing -/

theorem dropWhile_ne_eq_cons_iff {α : Type*} [DecidableEq α]
    {separator first : α} {list rest : List α} :
    list.dropWhile (· ≠ separator) = first :: rest ↔
      first = separator ∧
        ∃ front, list = front ++ separator :: rest ∧ separator ∉ front := by
  constructor
  · intro hrest
    have hhead := List.head_dropWhile_not (· ≠ separator) (l := list)
      (by rw [hrest]; exact List.cons_ne_nil _ _)
    simp only [hrest, List.head_cons, decide_eq_false_iff_not,
      not_not] at hhead
    have hsplit := List.takeWhile_append_dropWhile
      (p := (· ≠ separator)) (l := list)
    rw [hrest, hhead] at hsplit
    refine ⟨hhead, list.takeWhile (· ≠ separator), hsplit.symm, fun hmem => ?_⟩
    have hkept := List.mem_takeWhile_imp hmem
    exact of_decide_eq_true hkept rfl
  · rintro ⟨rfl, front, rfl, hfront⟩
    rw [List.dropWhile_append_of_pos]
    · simp
    · intro member hmember
      rw [decide_eq_true_eq]
      intro hsame
      exact hfront (hsame ▸ hmember)

theorem getChannelNameFromSocket_eq_some_iff {socketName channelName : Text} :
    getChannelNameFromSocket socketName = some channelName ↔
      ∃ front, socketName = front ++ splitFlag :: channelName ∧
        channelNamePrefixLength ≤ front.length ∧
        splitFlag ∉ front.drop channelNamePrefixLength := by
  unfold getChannelNameFromSocket
  constructor
  · intro hname
    cases hrest : (socketName.drop channelNamePrefixLength).dropWhile
        (· ≠ splitFlag) with
    | nil =>
        rw [hrest] at hname
        cases hname
    | cons flag rest =>
        rw [hrest] at hname
        obtain rfl := Option.some.inj hname
        obtain ⟨-, front, hdrop, hfront⟩ := dropWhile_ne_eq_cons_iff.mp hrest
        have hlong : channelNamePrefixLength < socketName.length := by
          by_contra hshort
          rw [List.drop_eq_nil_of_le (Nat.le_of_not_lt hshort)] at hrest
          cases hrest
        have hstart : (socketName.take channelNamePrefixLength).length =
            channelNamePrefixLength := List.length_take_of_le hlong.le
        refine ⟨socketName.take channelNamePrefixLength ++ front, ?_, ?_, ?_⟩
        · rw [List.append_assoc, ← hdrop, List.take_append_drop]
        · rw [List.length_append, hstart]
          exact Nat.le_add_right _ _
        · rw [List.drop_append, hstart, Nat.sub_self, List.drop_zero,
            List.drop_of_length_le hstart.le, List.nil_append]
          exact hfront
  · rintro ⟨front, rfl, hlength, hflag⟩
    rw [List.drop_append_of_le_length hlength,
      dropWhile_ne_eq_cons_iff.mpr ⟨rfl, _, rfl, hflag⟩]

theorem getChannelNameFromSocket_clientSocketName {ownerName : Text}
    (hlength : ownerName.length = 64) (hflag : splitFlag ∉ ownerName)
    (dataType : ChannelDataType) (channelName : Text) :
    getChannelNameFromSocket
        (clientSocketName ownerName dataType channelName) =
      some (dataType.nameFlag :: splitFlag :: channelName) := by
  have hstart : sessionNamePrefix.drop channelNamePrefixLength = [] := by
    decide
  apply getChannelNameFromSocket_eq_some_iff.mpr
  refine ⟨sessionNamePrefix ++ ownerName, ?_, ?_, ?_⟩
  · simp [clientSocketName]
  · rw [List.length_append, hlength]
    exact Nat.le_add_left _ _
  · rw [List.drop_append, hstart, List.nil_append]
    exact fun hmem => hflag (List.mem_of_mem_drop hmem)

theorem getChannelDataTypeFromName_nameFlag (dataType : ChannelDataType)
    (rest : Text) :
    getChannelDataTypeFromName (dataType.nameFlag :: rest) =
      some dataType := by
  cases dataType <;> rfl

theorem Represents.onSocketConnected (hrepresents : manager.Represents live)
    {socketId : ℤ} (hsocket : 0 < socketId) {ownerName : Text}
    (hlength : ownerName.length = 64) (hflag : splitFlag ∉ ownerName)
    (dataType : ChannelDataType) (channelName : Text) :
    manager.onSocketConnected socketId
        (clientSocketName ownerName dataType channelName) =
      match live.find? (LiveChannel.matching channelName dataType) with
      | some channel => .updateChannel channel.channelId
      | none => .rejected := by
  have hlookup := hrepresents.getChannelId channelName dataType
  rw [ChannelManager.onSocketConnected, if_neg (not_le.mpr hsocket),
    getChannelNameFromSocket_clientSocketName hlength hflag]
  simp only [getChannelDataTypeFromName_nameFlag, List.length_cons,
    List.drop_succ_cons, List.drop_zero]
  rw [if_neg (by omega)]
  rcases hlookup with ⟨channel, hfind, hid⟩ | ⟨hfind, hinvalid⟩
  · have hmem := List.mem_of_find?_eq_some hfind
    rw [hfind, hid, hrepresents.isValidChannelId hmem]
    rfl
  · rw [hfind, hinvalid]
    rfl

end Registered

end ChannelManager

end Dmsfwk
