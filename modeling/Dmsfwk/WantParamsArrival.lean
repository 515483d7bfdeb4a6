import Dmsfwk.WantParamsParcelRoundTrip
import Dmsfwk.WantParamsText

/-!
# Which parameters survive a parcel

The reader sets only values that have a type, so a value without one does not
come back.  Where it keeps as many entries as bytes as were written, it has moved
over them without their padding, so it is at the end only if there is none.
-/

namespace Dmsfwk

open StreamCodec SortedEntries

namespace DistributedWantParams

variable {parcels : ParamParcels} {stringSize : U16String → ℕ}
  {env : WrapperEnv} {fuel : ℕ}

/-! ## What one reading can do -/

section Reading

variable {key : Text} {type : Int32} {members result : ParamMembers}
  {data : List UInt8} {cursor next : ℕ}

theorem ite_eq_some {condition : Prop} [Decidable condition]
    {read other : Reader ParamMembers}
    (hread : (if condition then read else other) data cursor =
      some (result, next)) :
    (condition ∧ read data cursor = some (result, next)) ∨
      (¬ condition ∧ other data cursor = some (result, next)) := by
  by_cases hcondition : condition
  · rw [if_pos hcondition] at hread
    exact .inl ⟨hcondition, hread⟩
  · rw [if_neg hcondition] at hread
    exact .inr ⟨hcondition, hread⟩

theorem setRead_eq_some {α : Type} {read : Reader α} {box : α → Interface}
    (hread : setRead read box key members data cursor = some (result, next))
    (htype : ∀ value, HasType (box value)) :
    ∃ intf, (∀ value, intf = some value → HasType value) ∧
      result = members.setNonNull key intf := by
  obtain ⟨value, middle, -, hset⟩ := bind_read_eq_some hread
  cases hset
  refine ⟨some (box value), ?_, rfl⟩
  intro other hother
  cases hother
  exact htype value

theorem readFromParcelParam_cases
    (hread : readFromParcelParam parcels env fuel key type members data cursor =
      some (result, next)) :
    (∃ intf, (∀ value, intf = some value → HasType value) ∧
      result = members.setNonNull key intf) ∨
    (unsupportedTypes.contains type = true ∧
      readUnsupportedData parcels key type members data cursor =
        some (result, next)) := by
  unfold readFromParcelParam at hread
  iterate 9
    rcases ite_eq_some hread with ⟨-, hread⟩ | ⟨-, hread⟩
    · exact .inl (setRead_eq_some hread fun _ => trivial)
  rcases ite_eq_some hread with ⟨-, hread⟩ | ⟨-, hread⟩
  · iterate 2
      rcases ite_eq_some hread with ⟨-, hread⟩ | ⟨-, hread⟩
      · exact .inl (setRead_eq_some hread fun _ => trivial)
    obtain ⟨value, middle, -, hset⟩ := bind_read_eq_some hread
    cases hparsed : parsedText env fuel (parcels.str16ToStr8 value) with
    | none =>
        rw [hparsed] at hset
        cases hset
    | some intf =>
        rw [hparsed] at hset
        cases hset
        refine .inl ⟨intf, ?_, rfl⟩
        intro other hother
        subst hother
        unfold parsedText at hparsed
        split at hparsed <;> cases hparsed
        trivial
  rcases ite_eq_some hread with ⟨-, hread⟩ | ⟨-, hread⟩
  · cases hread
    refine .inl ⟨none, ?_, rfl⟩
    intro other hother
    cases hother
  rcases ite_eq_some hread with ⟨hknown, hread⟩ | ⟨-, hread⟩
  · exact .inr ⟨hknown, hread⟩
  obtain ⟨ao, middle, -, hset⟩ := bind_read_eq_some hread
  cases hset
  refine .inl ⟨ao.map fun ao => .wrapper (.array ao), ?_, rfl⟩
  intro other hother
  obtain ⟨array, -, rfl⟩ := Option.map_eq_some_iff.mp hother
  trivial

theorem readUnsupportedData_eq_some (hlawful : parcels.Lawful)
    (hsized : parcels.Sized stringSize)
    (htype : unsupportedTypes.contains type = true)
    (hread : readUnsupportedData parcels key type members data cursor =
      some (result, next)) :
    ∃ dData, result = members.emplaceBack dData ∧
      dData.key = parcels.str8ToStr16 key ∧ AsRead parcels dData ∧
      next ≤ cursor + 8 + dData.buffer.length := by
  obtain ⟨bufferSize, behindSize, hsize, hread⟩ := bind_read_eq_some hread
  rcases ite_eq_some hread with ⟨-, hread⟩ | ⟨hrange, hread⟩
  · cases hread
  obtain ⟨length, behindLength, hlength, hread⟩ := bind_read_eq_some hread
  obtain ⟨buffer, behindBuffer, hbuffer, hread⟩ := bind_read_eq_some hread
  rcases ite_eq_some hread with ⟨-, hread⟩ | ⟨hzero, hread⟩
  · cases hread
  cases hread
  have hmax : maxAllowedSize.toInt = 100 * 1024 * 1024 := rfl
  simp only [Int32.lt_iff_toInt_lt, hmax, Int32.toInt_zero] at hrange
  have hnonzero : bufferSize.toInt ≠ 0 := by
    intro hsame
    exact hzero (Int32.toInt_inj.mp hsame)
  have hpos : 0 < bufferSize.toInt.toNat := by omega
  rw [hlawful.readUnpadBuffer _ _ _ hpos] at hbuffer
  split_ifs at hbuffer with hfits
  cases hbuffer
  have htaken : ((data.drop behindLength).take bufferSize.toInt.toNat).length =
      bufferSize.toInt.toNat := by
    rw [List.length_take, List.length_drop]
    omega
  have hmovedSize := hsized.movedInt32 _ _ _ _ hsize
  have hmovedLength := hsized.movedInt32 _ _ _ _ hlength
  refine ⟨_, rfl, rfl, ⟨⟨key, rfl⟩, htype, ?_, ?_⟩, ?_⟩
  · change 0 < ((data.drop behindLength).take bufferSize.toInt.toNat).length
    omega
  · change ((data.drop behindLength).take bufferSize.toInt.toNat).length ≤ _
    omega
  · change _ ≤ _ + ((data.drop behindLength).take bufferSize.toInt.toNat).length
    omega

/-- Where a string cannot be converted the key is empty, and then the reader may
have moved further than the key says. -/
theorem readParam_cases (hlawful : parcels.Lawful)
    (hsized : parcels.Sized stringSize)
    (hread : readParam parcels env fuel members data cursor =
      some (result, next)) :
    (∃ key intf, (∀ value, intf = some value → HasType value) ∧
      result = members.setNonNull key intf) ∨
    ∃ dData, result = members.emplaceBack dData ∧ AsRead parcels dData ∧
      (dData.key ≠ [] →
        next ≤ cursor + unsupportedSize stringSize id dData) := by
  obtain ⟨key, behindKey, hkey, hread⟩ := bind_read_eq_some hread
  obtain ⟨type, behindType, htype, hread⟩ := bind_read_eq_some hread
  rcases readFromParcelParam_cases hread with ⟨intf, hintf, hset⟩ | ⟨hknown, hread⟩
  · exact .inl ⟨_, intf, hintf, hset⟩
  · obtain ⟨dData, hresult, hdKey, hasRead, hnext⟩ :=
      readUnsupportedData_eq_some hlawful hsized hknown hread
    refine .inr ⟨dData, hresult, hasRead, ?_⟩
    intro hnonempty
    have hmoved : behindKey ≤ cursor + stringSize key := by
      have hle := hsized.movedString16 data cursor
      rw [Option.some.inj hkey] at hle
      exact hle
    have hmovedType := hsized.movedInt32 _ _ _ _ htype
    rw [hdKey] at hnonempty
    rw [unsupportedSize, hdKey, hsized.conversion _ hnonempty]
    simp only [id_eq]
    omega

structure ReadRun (parcels : ParamParcels) (stringSize : U16String → ℕ)
    (count : ℕ) (members : ParamMembers) (cursor : ℕ)
    (added : List DistributedUnsupportedData) (result : ParamMembers)
    (next : ℕ) : Prop where
  cached : result.cachedUnsupportedData = members.cachedUnsupportedData ++ added
  length_le : added.length ≤ count
  asRead : ∀ dData ∈ added, AsRead parcels dData
  types : (∀ entry ∈ members.params, HasType entry.2) →
    ∀ entry ∈ result.params, HasType entry.2
  params : added.length = count → result.params = members.params
  moved : added.length = count → (∀ dData ∈ added, dData.key ≠ []) →
    next ≤ cursor + (added.map (unsupportedSize stringSize id)).sum

theorem readRun (hlawful : parcels.Lawful) (hsized : parcels.Sized stringSize)
    {count : ℕ} (hread : readParams parcels env fuel count members data cursor =
      some (result, next)) :
    ∃ added, ReadRun parcels stringSize count members cursor added result next := by
  induction count generalizing members cursor with
  | zero =>
      cases hread
      exact ⟨[], {
        cached := (List.append_nil _).symm
        length_le := le_rfl
        asRead := fun _ hmem => nomatch hmem
        types := id
        params := fun _ => rfl
        moved := fun _ _ => le_rfl }⟩
  | succ count ih =>
      obtain ⟨middle, behind, hfirst, hrest⟩ := bind_read_eq_some hread
      obtain ⟨added, hrun⟩ := ih hrest
      rcases readParam_cases hlawful hsized hfirst with
        ⟨key, intf, hintf, rfl⟩ | ⟨dData, rfl, hasRead, hmoved⟩
      · have hshorter : added.length ≠ count + 1 := by
          have hle := hrun.length_le
          omega
        refine ⟨added, ?_, ?_, hrun.asRead, ?_, ?_, ?_⟩
        · rw [hrun.cached]
          cases intf <;> rfl
        · exact hrun.length_le.trans (Nat.le_succ count)
        · intro htypes
          apply hrun.types
          cases intf with
          | none => exact htypes
          | some value =>
              intro entry hentry
              rcases mem_insert hentry with rfl | hentry
              · exact hintf value rfl
              · exact htypes entry hentry
        · exact fun hlength => absurd hlength hshorter
        · exact fun hlength => absurd hlength hshorter
      · have hcount : (dData :: added).length = count + 1 →
            added.length = count := Nat.succ.inj
        refine ⟨dData :: added, ?_, ?_, ?_, ?_, ?_, ?_⟩
        · rw [hrun.cached]
          exact List.append_assoc _ _ _
        · exact Nat.succ_le_succ hrun.length_le
        · exact List.forall_mem_cons.mpr ⟨hasRead, hrun.asRead⟩
        · exact hrun.types
        · exact fun hlength => hrun.params (hcount hlength)
        · intro hlength hkeys
          obtain ⟨hkey, hkeys⟩ := List.forall_mem_cons.mp hkeys
          have hbehind := hmoved hkey
          have hnext := hrun.moved (hcount hlength) hkeys
          rw [List.map_cons, List.sum_cons]
          omega

end Reading

theorem asRead_of_unmarshalling (hlawful : parcels.Lawful)
    (hsized : parcels.Sized stringSize) {data : List UInt8} {cursor next : ℕ}
    {members : ParamMembers}
    (hread : unmarshalling parcels env fuel data cursor = some (members, next)) :
    (∀ dData ∈ members.cachedUnsupportedData, AsRead parcels dData) ∧
      ∀ entry ∈ members.params, HasType entry.2 := by
  obtain ⟨size, behindSize, -, hread⟩ := bind_read_eq_some hread
  obtain ⟨dataSize, behind, -, hread⟩ := bind_read_eq_some hread
  rcases ite_eq_some hread with ⟨-, hread⟩ | ⟨-, hread⟩
  · cases hread
  obtain ⟨added, hrun⟩ := readRun hlawful hsized hread
  have hcached : members.cachedUnsupportedData = added := hrun.cached
  exact ⟨hcached ▸ hrun.asRead, hrun.types fun _ hmem => nomatch hmem⟩

/-! ## Survival -/

/-- Longs are seen by `GetLongParam` and `GetLongArrayParam`, a descriptor under
its number at the receiver, other values as they are. -/
def SeenAs (parcels : ParamParcels) : Interface → Interface → Prop
  | .wrapper (.long value), other => getLongParam other = some value
  | .wrapper (.array (.longs values)), other => getLongArrayParam other = values
  | .wantParams params, other => other = .wantParams params ∨
      ∃ fd, params = fdParams fd ∧
        other = .wantParams (fdParams (parcels.receivedDescriptor fd))
  | value, other => other = value

structure SameParams (parcels : ParamParcels)
    (wantParams : DistributedWantParams) (members : ParamMembers) : Prop where
  keys : SameKeys wantParams.params members.params
  values : ∀ key value other, lookup key wantParams.params = some value →
    lookup key members.params = some other → SeenAs parcels value other
  cached : members.cachedUnsupportedData = wantParams.cachedUnsupportedData

/-- What was written behind the front is read, whatever follows, up to its end. -/
def Survives (parcels : ParamParcels) (env : WrapperEnv)
    (wantParams : DistributedWantParams) (front written rest : List UInt8) :
    Prop :=
  ∃ fuel members, unmarshalling parcels env fuel (written ++ rest)
      front.length = some (members, written.length) ∧
    SameParams parcels wantParams members

/-- Nested parameters are the ones that the reader makes for a descriptor or a
remote object, or `Parse` has to read them back from their text. -/
def PortableValue (env : WrapperEnv) : Interface → Prop
  | .null => False
  | .remoteObject _ => False
  | .wrapper _ => True
  | .wantParams o =>
      let value := newParams env.charSigned o []
      if typeValue value = some fdText then ∃ fd, o = fdParams fd
      else if typeValue value = some remoteObjectText then
        ∃ handle, o = remoteObjectParams handle
      else ∃ fuel, DistributedWantParamWrapper.parse env fuel
        (DistributedWantParamWrapper.toString env.library o) = some (.params o)

structure Portable (env : WrapperEnv) (wantParams : DistributedWantParams) :
    Prop where
  values : ∀ entry ∈ wantParams.params, PortableValue env entry.2
  buffers : ∀ dData ∈ wantParams.cachedUnsupportedData,
    dData.buffer.length % 4 = 0

theorem PortableValue.hasType {o : Interface} (hportable : PortableValue env o) :
    HasType o := by
  cases o <;> first | exact hportable | trivial

theorem isUnsignedNumber_toDigits (value : ℕ) :
    isUnsignedNumber (Nat.toDigits 10 value) = true := by
  have hdigit : ∀ c ∈ Nat.toDigits 10 value, c.isDigit = true :=
    fun c hmem => DecimalText.isDigit_of_mem_toDigits hmem
  have hdrop : (Nat.toDigits 10 value).dropWhile Char.isDigit = [] :=
    List.dropWhile_eq_nil_iff.mpr hdigit
  rw [isUnsignedNumber, List.takeWhile_eq_self_iff.mpr hdigit, hdrop]
  simp [Nat.toDigits_ne_nil]

theorem isNumber_ofInt (value : ℤ) :
    isNumber (DecimalText.ofInt value) = true := by
  have hnumber := isUnsignedNumber_toDigits value.natAbs
  unfold DecimalText.ofInt
  split_ifs with hneg
  · exact hnumber
  · unfold isNumber
    split
    · rename_i hminus
      have hmem := DecimalText.isDigit_of_mem_toDigits (hminus ▸ List.mem_cons_self)
      exact absurd hmem (by decide)
    · rename_i hplus
      have hmem := DecimalText.isDigit_of_mem_toDigits (hplus ▸ List.mem_cons_self)
      exact absurd hmem (by decide)
    · exact hnumber

theorem numberOf_ofInt (value : Int64) :
    numberOf (DecimalText.ofInt value.toInt) = some value := by
  rw [numberOf, if_pos (isNumber_ofInt _), atoll, DecimalText.toInt_ofInt,
    Int64.ofInt_toInt]

def Arrives (parcels : ParamParcels) (env : WrapperEnv) (fuel : ℕ)
    (o : Interface) : Prop :=
  ∃ other, received parcels env fuel o = some (some other) ∧
    SeenAs parcels o other

theorem arrives_wrapper (object : Wrapper) :
    Arrives parcels env fuel (.wrapper object) := by
  cases object with
  | long value => exact ⟨_, rfl, numberOf_ofInt value⟩
  | array array =>
      cases array with
      | longs values =>
          refine ⟨_, rfl, ?_⟩
          simp [SeenAs, getLongArrayParam, List.filterMap_map, numberOf_ofInt]
      | _ => exact ⟨_, rfl, rfl⟩
  | _ => exact ⟨_, rfl, rfl⟩

theorem arrives_mono {more : ℕ} {o : Interface} (hle : fuel ≤ more)
    (harrives : Arrives parcels env fuel o) : Arrives parcels env more o := by
  cases o with
  | wrapper object => exact arrives_wrapper object
  | wantParams o =>
      obtain ⟨other, hreceived, hseen⟩ := harrives
      refine ⟨other, ?_, hseen⟩
      simp only [received] at hreceived ⊢
      split_ifs at hreceived ⊢
      · exact hreceived
      · exact hreceived
      · unfold parsedText at hreceived ⊢
        cases hparse : DistributedWantParamWrapper.parse env fuel
            (DistributedWantParamWrapper.toString env.library o) with
        | none =>
            rw [hparse] at hreceived
            cases hreceived
        | some decoded =>
            rw [DistributedWantParamWrapper.parse_mono hle hparse]
            rwa [hparse] at hreceived
  | null => exact harrives
  | remoteObject handle => exact harrives

theorem arrives_iff_of_fd {o : ParamMap}
    (hfd : typeValue (newParams env.charSigned o []) = some fdText) :
    Arrives parcels env fuel (.wantParams o) ↔ ∃ fd, o = fdParams fd := by
  simp only [Arrives, received, if_pos hfd, SeenAs]
  constructor
  · rintro ⟨other, hreceived, hseen⟩
    obtain ⟨fd, -, hother⟩ := Option.map_eq_some_iff.mp hreceived
    cases hother
    rcases hseen with hsame | ⟨sent, rfl, -⟩
    · exact ⟨_, (Interface.wantParams.inj hsame).symm⟩
    · exact ⟨sent, rfl⟩
  · rintro ⟨fd, rfl⟩
    exact ⟨_, rfl, .inr ⟨fd, rfl, rfl⟩⟩

theorem arrives_iff_of_remoteObject {o : ParamMap}
    (hfd : typeValue (newParams env.charSigned o []) ≠ some fdText)
    (hremote : typeValue (newParams env.charSigned o []) = some remoteObjectText) :
    Arrives parcels env fuel (.wantParams o) ↔
      ∃ handle, o = remoteObjectParams handle := by
  simp only [Arrives, received, if_neg hfd, if_pos hremote, SeenAs]
  constructor
  · rintro ⟨other, hreceived, hseen⟩
    obtain ⟨handle, -, hother⟩ := Option.map_eq_some_iff.mp hreceived
    cases hother
    rcases hseen with hsame | ⟨sent, rfl, -⟩
    · exact ⟨_, (Interface.wantParams.inj hsame).symm⟩
    · exact absurd rfl hfd
  · rintro ⟨handle, rfl⟩
    exact ⟨_, rfl, .inl rfl⟩

theorem arrives_iff_of_nested {o : ParamMap}
    (hfd : typeValue (newParams env.charSigned o []) ≠ some fdText)
    (hremote : typeValue (newParams env.charSigned o []) ≠ some remoteObjectText) :
    Arrives parcels env fuel (.wantParams o) ↔
      DistributedWantParamWrapper.parse env fuel
        (DistributedWantParamWrapper.toString env.library o) =
          some (.params o) := by
  simp only [Arrives, received, if_neg hfd, if_neg hremote, SeenAs, parsedText]
  constructor
  · rintro ⟨other, hreceived, hseen⟩
    split at hreceived
    · rename_i params hparse
      cases hreceived
      rcases hseen with hsame | ⟨sent, rfl, -⟩
      · rw [hparse, Interface.wantParams.inj hsame]
      · exact absurd rfl hfd
    · cases hreceived
    · cases hreceived
  · intro hparse
    rw [hparse]
    exact ⟨_, rfl, .inl rfl⟩

theorem arrives_iff (o : Interface) :
    (∃ fuel, Arrives parcels env fuel o) ↔ PortableValue env o := by
  cases o with
  | wrapper object => exact ⟨fun _ => trivial, fun _ => ⟨0, arrives_wrapper object⟩⟩
  | wantParams o =>
      simp only [PortableValue]
      split_ifs with hfd hremote
      · simp only [arrives_iff_of_fd hfd, exists_const]
      · simp only [arrives_iff_of_remoteObject hfd hremote, exists_const]
      · simp only [arrives_iff_of_nested hfd hremote]
  | null =>
      refine ⟨?_, False.elim⟩
      rintro ⟨fuel, other, hreceived, -⟩
      cases hreceived
  | remoteObject handle =>
      refine ⟨?_, False.elim⟩
      rintro ⟨fuel, other, hreceived, -⟩
      cases hreceived

variable {params : ParamMap}

theorem exists_fuel_of_portable
    (hportable : ∀ entry ∈ params, PortableValue env entry.2) :
    ∃ fuel, ∀ entry ∈ params, Arrives parcels env fuel entry.2 := by
  induction params with
  | nil => exact ⟨0, fun _ hmem => nomatch hmem⟩
  | cons entry params ih =>
      obtain ⟨hfirst, hrest⟩ := List.forall_mem_cons.mp hportable
      obtain ⟨fuel, harrives⟩ : ∃ fuel, Arrives parcels env fuel entry.2 :=
        (arrives_iff _).mpr hfirst
      obtain ⟨more, hall⟩ := ih hrest
      refine ⟨max fuel more, List.forall_mem_cons.mpr ⟨?_, ?_⟩⟩
      · exact arrives_mono (le_max_left _ _) harrives
      · exact fun entry hentry =>
          arrives_mono (le_max_right _ _) (hall entry hentry)

/-! ## The map as it arrives -/

def arrivedParams (parcels : ParamParcels) (env : WrapperEnv) (fuel : ℕ)
    (params : ParamMap) : ParamMap :=
  convert (fun o => (received parcels env fuel o).join) params

theorem receivedParams_eq_foldl {members result : ParamMembers}
    (hreceived : receivedParams parcels env fuel params members = some result) :
    result = { members with
      params := params.foldl (fun dest entry =>
        (received parcels env fuel entry.2).join.elim dest fun converted =>
          insert entry.1 converted dest) members.params } := by
  induction params generalizing members with
  | nil =>
      cases hreceived
      rfl
  | cons entry params ih =>
      obtain ⟨key, o⟩ := entry
      obtain ⟨intf, hfirst, hrest⟩ := Option.bind_eq_some_iff.mp hreceived
      rw [ih hrest, List.foldl_cons, hfirst]
      cases intf <;> rfl

theorem receivedParams_eq {wantParams : DistributedWantParams}
    {result : ParamMembers}
    (hreceived : receivedParams parcels env fuel wantParams.params {} =
      some result) :
    result = { params := arrivedParams parcels env fuel wantParams.params } := by
  have hsorted : Sorted wantParams.params := wantParams.ordered.here
  have hparams := foldl_insert_convert hsorted
    (fun _ hother => absurd hother List.not_mem_nil)
    fun o => (received parcels env fuel o).join
  rw [receivedParams_eq_foldl hreceived]
  exact congrArg (fun params => ({ params } : ParamMembers)) hparams

theorem mem_arrivedParams {entry : Text × Interface} :
    entry ∈ arrivedParams parcels env fuel params ↔
      ∃ value, (entry.1, value) ∈ params ∧
        received parcels env fuel value = some (some entry.2) := by
  simp only [arrivedParams, mem_convert, Option.join_eq_some_iff]

theorem receivedParams_isSome
    (harrives : ∀ entry ∈ params, Arrives parcels env fuel entry.2)
    (members : ParamMembers) :
    (receivedParams parcels env fuel params members).isSome := by
  induction params generalizing members with
  | nil => rfl
  | cons entry params ih =>
      obtain ⟨⟨other, hreceived, -⟩, hrest⟩ := List.forall_mem_cons.mp harrives
      rw [receivedParams, hreceived, Option.bind_some]
      exact ih hrest _

theorem sameParams_arrivedParams_iff {wantParams : DistributedWantParams}
    {cached : List DistributedUnsupportedData} :
    SameParams parcels wantParams {
        params := arrivedParams parcels env fuel wantParams.params
        cachedUnsupportedData := cached } ↔
      (∀ entry ∈ wantParams.params, Arrives parcels env fuel entry.2) ∧
        cached = wantParams.cachedUnsupportedData := by
  have hsorted : Sorted wantParams.params := wantParams.ordered.here
  have harrived : Sorted (arrivedParams parcels env fuel wantParams.params) :=
    sorted_convert hsorted _
  constructor
  · intro hsame
    refine ⟨?_, hsame.cached⟩
    rintro ⟨key, o⟩ hentry
    have hlookup := lookup_of_mem_of_nodup hsorted.nodup_keys hentry
    have hfound := hsame.keys key
    rw [hlookup, Option.isSome_some] at hfound
    obtain ⟨other, hother⟩ := Option.isSome_iff_exists.mp hfound.symm
    obtain ⟨value, hvalue, hreceived⟩ :=
      mem_arrivedParams.mp (mem_of_lookup hother)
    have hsameValue : value = o := Option.some.inj <|
      (lookup_of_mem_of_nodup hsorted.nodup_keys hvalue).symm.trans hlookup
    subst hsameValue
    exact ⟨other, hreceived, hsame.values key value other hlookup hother⟩
  · rintro ⟨harrives, rfl⟩
    have hmem : ∀ {key value}, lookup key wantParams.params = some value →
        ∃ other, lookup key (arrivedParams parcels env fuel wantParams.params) =
          some other ∧ SeenAs parcels value other := by
      intro key value hlookup
      have hentry := mem_of_lookup hlookup
      obtain ⟨other, hreceived, hseen⟩ := harrives _ hentry
      refine ⟨other, lookup_of_mem_of_nodup harrived.nodup_keys ?_, hseen⟩
      exact mem_arrivedParams.mpr ⟨value, hentry, hreceived⟩
    refine ⟨?_, ?_, rfl⟩
    · intro key
      cases hlookup : lookup key wantParams.params with
      | some value =>
          obtain ⟨other, hother, -⟩ := hmem hlookup
          exact (congrArg Option.isSome hother).symm
      | none =>
          symm
          rw [Option.isSome_none, ← Bool.not_eq_true, isSome_lookup]
          intro hkey
          obtain ⟨⟨_, other⟩, hother, rfl⟩ := List.mem_map.mp hkey
          obtain ⟨value, hvalue, -⟩ := mem_arrivedParams.mp hother
          rw [lookup_of_mem_of_nodup hsorted.nodup_keys hvalue] at hlookup
          cases hlookup
    · intro key value other hlookup hother
      obtain ⟨found, hfound, hseen⟩ := hmem hlookup
      cases hfound.symm.trans hother
      exact hseen

/-! ## Which parameters survive -/

section Survival

variable {wantParams : DistributedWantParams} {front written rest : List UInt8}

theorem Survives.hasType (hlawful : parcels.Lawful)
    (hsized : parcels.Sized stringSize)
    (hsurvives : Survives parcels env wantParams front written rest) :
    ∀ entry ∈ wantParams.params, HasType entry.2 := by
  obtain ⟨fuel, members, hread, hsame⟩ := hsurvives
  obtain ⟨-, htypes⟩ := asRead_of_unmarshalling hlawful hsized hread
  have hsorted : Sorted wantParams.params := wantParams.ordered.here
  rintro ⟨key, o⟩ hentry
  have hlookup := lookup_of_mem_of_nodup hsorted.nodup_keys hentry
  have hfound := hsame.keys key
  rw [hlookup, Option.isSome_some] at hfound
  obtain ⟨other, hother⟩ := Option.isSome_iff_exists.mp hfound.symm
  have hseen := hsame.values key o other hlookup hother
  have htype := htypes _ (mem_of_lookup hother)
  cases o with
  | null =>
      have hnull : other = .null := hseen
      exact (hnull ▸ htype : HasType .null)
  | remoteObject handle =>
      have hremote : other = .remoteObject handle := hseen
      exact (hremote ▸ htype : HasType (.remoteObject handle))
  | wrapper object => trivial
  | wantParams params => trivial

theorem le_paddedSize (size : ℕ) : size ≤ paddedSize size := by
  unfold paddedSize
  omega

theorem aligned_of_sum_le {cached : List DistributedUnsupportedData}
    (hsum : (cached.map (unsupportedSize stringSize paddedSize)).sum ≤
      (cached.map (unsupportedSize stringSize id)).sum) :
    ∀ dData ∈ cached, dData.buffer.length % 4 = 0 := by
  by_contra hpadded
  simp only [not_forall] at hpadded
  obtain ⟨dData, hmem, hrest⟩ := hpadded
  have hless := List.sum_lt_sum
    (unsupportedSize stringSize id) (unsupportedSize stringSize paddedSize)
    (fun other _ => Nat.add_le_add_left (le_paddedSize _) _)
    ⟨dData, hmem, by
      unfold unsupportedSize paddedSize
      simp only [id_eq]
      omega⟩
  omega

section Lawful

variable (hlawful : parcels.Lawful) (hsized : parcels.Sized stringSize)
  (hread : ∀ dData ∈ wantParams.cachedUnsupportedData, AsRead parcels dData)
  (hwritten : marshalling parcels env wantParams front = some ((), written))
  (hfits : (written ++ rest).length < 2 ^ 31)

include hlawful hsized hread hwritten hfits

theorem survives_of_portable (hportable : Portable env wantParams) :
    Survives parcels env wantParams front written rest := by
  have htypes : ∀ entry ∈ wantParams.params, HasType entry.2 :=
    fun entry hentry => (hportable.values entry hentry).hasType
  obtain ⟨fuel, harrives⟩ : ∃ fuel, ∀ entry ∈ wantParams.params,
      Arrives parcels env fuel entry.2 := exists_fuel_of_portable hportable.values
  obtain ⟨middle, hcached, hrun⟩ :=
    unmarshalling_eq hlawful hsized hread htypes hwritten
  obtain ⟨members, hmembers⟩ :=
    Option.isSome_iff_exists.mp (receivedParams_isSome harrives {})
  have hcarries : Carries (writeCachedUnsupportedData parcels
      wantParams.cachedUnsupportedData) (readParams parcels env fuel _ members) _ :=
    carries_cachedUnsupportedData hlawful hread hportable.buffers members
  obtain ⟨image, -, hreadCached⟩ := hcarries _ _ hcached
  refine ⟨fuel, { members with
    cachedUnsupportedData := members.cachedUnsupportedData ++
      wantParams.cachedUnsupportedData }, ?_, ?_⟩
  · rw [hrun fuel rest hfits, hmembers, Option.bind_some, hreadCached]
    rfl
  · rw [receivedParams_eq hmembers]
    exact sameParams_arrivedParams_iff.mpr ⟨harrives, rfl⟩

theorem Survives.inv
    (hsurvives : Survives parcels env wantParams front written rest) :
    (∀ entry ∈ wantParams.params, PortableValue env entry.2) ∧
      ((∀ dData ∈ wantParams.cachedUnsupportedData, dData.key ≠ []) →
        ∀ dData ∈ wantParams.cachedUnsupportedData,
          dData.buffer.length % 4 = 0) := by
  have htypes := hsurvives.hasType hlawful hsized
  obtain ⟨middle, hcached, hrun⟩ :=
    unmarshalling_eq hlawful hsized hread htypes hwritten
  obtain ⟨fuel, members, hunmarshalling, hsame⟩ := hsurvives
  rw [hrun fuel rest hfits] at hunmarshalling
  obtain ⟨behind, hbehind, hreadCached⟩ :=
    Option.bind_eq_some_iff.mp hunmarshalling
  have hbehind := receivedParams_eq hbehind
  subst hbehind
  obtain ⟨added, hadded⟩ := readRun hlawful hsized hreadCached
  have hkept : added = wantParams.cachedUnsupportedData :=
    hadded.cached.symm.trans hsame.cached
  subst hkept
  have hparams := hadded.params rfl
  have hmembers : members = {
      params := arrivedParams parcels env fuel wantParams.params
      cachedUnsupportedData := wantParams.cachedUnsupportedData } := by
    cases members
    cases hparams
    cases hsame.cached
    rfl
  rw [hmembers] at hsame
  refine ⟨?_, ?_⟩
  · intro entry hentry
    exact (arrives_iff entry.2).mp
      ⟨fuel, (sameParams_arrivedParams_iff.mp hsame).1 entry hentry⟩
  · intro hkeys
    have hmoved := hadded.moved rfl hkeys
    have hspace := length_writeCachedUnsupportedData hlawful hsized hcached
    have hsum : (wantParams.cachedUnsupportedData.map
          (unsupportedSize stringSize paddedSize)).sum ≤
        (wantParams.cachedUnsupportedData.map
          (unsupportedSize stringSize id)).sum := by omega
    exact aligned_of_sum_le hsum

end Lawful

end Survival

/-- Parameters survive a parcel that took them when each of their values does and
no buffer is padded.  An entry with an empty key may also be the end of a string
that could not be converted. -/
theorem survivesParcel_iff (hlawful : parcels.Lawful)
    (hsized : parcels.Sized stringSize) (wantParams : DistributedWantParams)
    (hread : ∀ dData ∈ wantParams.cachedUnsupportedData, AsRead parcels dData)
    (front written rest : List UInt8)
    (hwritten : marshalling parcels env wantParams front = some ((), written))
    (hfits : (written ++ rest).length < 2 ^ 31) :
    (Portable env wantParams → Survives parcels env wantParams front written rest) ∧
      (Survives parcels env wantParams front written rest →
        ∀ entry ∈ wantParams.params, PortableValue env entry.2) ∧
      ((∀ dData ∈ wantParams.cachedUnsupportedData, dData.key ≠ []) →
        (Survives parcels env wantParams front written rest ↔
          Portable env wantParams)) := by
  have hsurvives := survives_of_portable hlawful hsized hread hwritten hfits
  have hinv := Survives.inv hlawful hsized hread hwritten hfits
  refine ⟨hsurvives, fun hsame => (hinv hsame).1, ?_⟩
  intro hkeys
  refine ⟨?_, hsurvives⟩
  intro hsame
  obtain ⟨hvalues, hbuffers⟩ := hinv hsame
  exact ⟨hvalues, hbuffers hkeys⟩

/-! ## A parcel of words -/

section Sample

open ByteCodec
open DistributedWantParamWrapper (plainEnv)

def writeWord (size : ℕ) (word : ℕ) : Writer := appendImage (leBytes size) word

def readWord (size : ℕ) : Reader ℕ := fun data cursor =>
  if cursor + size ≤ data.length then
    some (leValue ((data.drop cursor).take size), cursor + size)
  else none

theorem carries_word {size word : ℕ} (hword : word < 256 ^ size) :
    Carries (writeWord size word) (readWord size) (some word) := by
  intro data written hwritten
  cases hwritten
  refine ⟨leBytes size word, rfl, ?_⟩
  intro rest
  have hfits : data.length + size ≤ (data ++ leBytes size word ++ rest).length := by
    simp only [List.length_append, length_leBytes]
    omega
  have htaken : (((data ++ leBytes size word ++ rest).drop data.length).take
      size) = leBytes size word := by
    rw [List.append_assoc, List.drop_left,
      List.take_left' (length_leBytes size word)]
  rw [readWord, if_pos hfits, htaken, leValue_leBytes hword]
  simp

theorem carries_wordOf {α : Type} (size : ℕ) (toWord : α → ℕ) (ofWord : ℕ → α)
    {value : α} (hword : toWord value < 256 ^ size)
    (hback : ofWord (toWord value) = value) :
    Carries (writeWord size (toWord value)) (do return ofWord (← readWord size))
      (some value) := by
  have hcarries := (carries_word hword).map ofWord
  rw [Option.map_some, hback] at hcarries
  exact hcarries

theorem carries_withDefault {α : Type} {write : Writer} {read : Reader α}
    {value : α} (hcarries : Carries write read (some value)) (none : α) :
    Carries write
      (withDefault fun data cursor => (read data cursor).getD (none, cursor))
      (some value) := by
  intro data written hwritten
  obtain ⟨image, himage, hread⟩ := hcarries data written hwritten
  refine ⟨image, himage, ?_⟩
  intro rest
  change some ((read (written ++ rest) data.length).getD _) = _
  rw [hread]
  rfl

/-! ## Strings of short characters -/

def isShort (c : Char) : Bool := c.toNat < 0xd800

def shortStr8ToStr16 (text : Text) : U16String :=
  if text.all isShort then asciiToStr16 text else []

def shortStr16ToStr8 (units : U16String) : Text :=
  if units.all (· < 0xd800) then str16ToAscii units else []

theorem toNat_ofNat_of_short {unit : UInt16} (hshort : unit < 0xd800) :
    (Char.ofNat unit.toNat).toNat = unit.toNat := by
  have hvalid : unit.toNat.isValidChar := .inl hshort
  rw [Char.ofNat, dif_pos hvalid]
  rfl

theorem asciiToStr16_str16ToAscii {units : U16String}
    (hshort : units.all (· < 0xd800) = true) :
    asciiToStr16 (str16ToAscii units) = units ∧
      (str16ToAscii units).all isShort = true := by
  induction units with
  | nil => exact ⟨rfl, rfl⟩
  | cons unit units ih =>
      rw [List.all_cons, Bool.and_eq_true, decide_eq_true_eq] at hshort
      obtain ⟨hunit, hunits⟩ := hshort
      obtain ⟨hback, hall⟩ := ih hunits
      have hnat := toNat_ofNat_of_short hunit
      refine ⟨?_, ?_⟩
      · change (Char.ofNat unit.toNat).toNat.toUInt16 ::
          asciiToStr16 (str16ToAscii units) = _
        rw [hnat, hback]
        simp
      · rw [str16ToAscii, List.map_cons, List.all_cons, Bool.and_eq_true]
        refine ⟨?_, hall⟩
        rw [isShort, hnat]
        exact decide_eq_true hunit

theorem str16ToAscii_asciiToStr16 {text : Text}
    (hshort : text.all isShort = true) :
    str16ToAscii (asciiToStr16 text) = text ∧
      (asciiToStr16 text).all (· < 0xd800) = true := by
  induction text with
  | nil => exact ⟨rfl, rfl⟩
  | cons c text ih =>
      rw [List.all_cons, Bool.and_eq_true, isShort, decide_eq_true_eq] at hshort
      obtain ⟨hc, htext⟩ := hshort
      obtain ⟨hback, hall⟩ := ih htext
      have hnat : c.toNat.toUInt16.toNat = c.toNat := by
        simp only [Nat.toUInt16, UInt16.toNat_ofNat']
        omega
      refine ⟨?_, ?_⟩
      · change Char.ofNat c.toNat.toUInt16.toNat ::
          str16ToAscii (asciiToStr16 text) = _
        rw [hnat, hback, Char.ofNat_toNat]
      · rw [asciiToStr16, List.map_cons, List.all_cons, Bool.and_eq_true]
        refine ⟨decide_eq_true ?_, hall⟩
        rw [UInt16.lt_iff_toNat_lt, hnat]
        exact hc

theorem shortStr8ToStr16_shortStr16ToStr8 {units : U16String}
    (hunits : shortStr8ToStr16 (shortStr16ToStr8 units) ≠ []) :
    shortStr8ToStr16 (shortStr16ToStr8 units) = units := by
  by_cases hshort : units.all (· < 0xd800) = true
  · obtain ⟨hback, hall⟩ := asciiToStr16_str16ToAscii hshort
    rw [shortStr16ToStr8, if_pos hshort, shortStr8ToStr16, if_pos hall, hback]
  · rw [shortStr16ToStr8, if_neg hshort] at hunits
    exact absurd rfl hunits

theorem shortStr16ToStr8_shortStr8ToStr16 {text : Text}
    (htext : shortStr8ToStr16 text ≠ []) :
    shortStr16ToStr8 (shortStr8ToStr16 text) = text := by
  by_cases hshort : text.all isShort = true
  · obtain ⟨hback, hall⟩ := str16ToAscii_asciiToStr16 hshort
    rw [shortStr8ToStr16, if_pos hshort, shortStr16ToStr8, if_pos hall, hback]
  · rw [shortStr8ToStr16, if_neg hshort] at htext
    exact absurd rfl htext

/-! ## Parameters in the parcel -/

def nestedText : Text := "\x7b\"k\":\x7b\"9\":\"v\"\x7d\x7d".toList

def knownStrings : List U16String :=
  [['a'], ['b'], ['c'], ['u'], nestedText].map asciiToStr16

def wordParcels : ParamParcels where
  str8ToStr16 := shortStr8ToStr16
  str16ToStr8 := shortStr16ToStr8
  writeInt8 _ := refuse
  readInt8 := failure
  writeInt16 _ := refuse
  readInt16 := failure
  writeInt32 value := writeWord 4 value.toUInt32.toNat
  readInt32 := do return (UInt32.ofNat (← readWord 4)).toInt32
  writeInt64 value := writeWord 8 value.toUInt64.toNat
  readInt64 := do return (UInt64.ofNat (← readWord 8)).toInt64
  writeFloat _ := refuse
  readFloat := failure
  writeDouble _ := refuse
  readDouble := failure
  writeString16 units :=
    if units ∈ knownStrings then appendImage string16Image units else refuse
  readString16 data cursor :=
    (readKnown string16Image knownStrings data cursor).getD ([], cursor)
  writeInt8Vector _ := refuse
  readInt8Vector := failure
  writeInt16Vector _ := refuse
  readInt16Vector := failure
  writeInt32Vector _ := refuse
  readInt32Vector := failure
  writeInt64Vector _ := refuse
  readInt64Vector := failure
  writeFloatVector _ := refuse
  readFloatVector := failure
  writeDoubleVector _ := refuse
  readDoubleVector := failure
  writeString16Vector _ := refuse
  readString16Vector := failure
  writeFileDescriptor _ := refuse
  readFileDescriptor _ cursor := (-1, cursor)
  receivedDescriptor fd := fd
  writeRemoteObject _ := refuse
  readRemoteObject _ cursor := (0, cursor)
  writeBuffer := appendImage fun buffer => buffer ++
    List.replicate (paddedSize buffer.length - buffer.length) 0
  readUnpadBuffer size data cursor :=
    if cursor + size ≤ data.length then
      some ((data.drop cursor).take size, cursor + size)
    else none

theorem carries_knownString {units : U16String} (hknown : units ∈ knownStrings) :
    Carries (appendImage string16Image units) (readString16 wordParcels)
      (some units) := by
  have hapart : ∀ units ∈ knownStrings, ∀ other ∈ knownStrings,
      other = units ∨ (¬ string16Image other <+: string16Image units ∧
        ¬ string16Image units <+: string16Image other) := by decide
  exact carries_withDefault
    (transfers_known hknown (hapart units hknown)).carries []

theorem lawful_wordParcels : wordParcels.Lawful where
  text text := by
    change Carries (if shortStr8ToStr16 text ∈ knownStrings then
      appendImage string16Image (shortStr8ToStr16 text) else refuse) _ _
    split_ifs with hknown
    · have hback : shortStr16ToStr8 (shortStr8ToStr16 text) = text := by
        apply shortStr16ToStr8_shortStr8ToStr16
        intro hempty
        rw [hempty] at hknown
        revert hknown
        decide
      have hcarries := (carries_knownString hknown).map shortStr16ToStr8
      rw [Option.map_some, hback] at hcarries
      exact hcarries
    · exact carries_refused _ _
  texts _ := carries_refused _ _
  int8 _ := carries_refused _ _
  int16 _ := carries_refused _ _
  int32 value := carries_wordOf 4 (fun value : Int32 => value.toUInt32.toNat)
    (fun word => (UInt32.ofNat word).toInt32) value.toUInt32.toNat_lt (by simp)
  int64 value := carries_wordOf 8 (fun value : Int64 => value.toUInt64.toNat)
    (fun word => (UInt64.ofNat word).toInt64) value.toUInt64.toNat_lt (by simp)
  float _ := carries_refused _ _
  double _ := carries_refused _ _
  int8Vector _ := carries_refused _ _
  int16Vector _ := carries_refused _ _
  int32Vector _ := carries_refused _ _
  int64Vector _ := carries_refused _ _
  floatVector _ := carries_refused _ _
  doubleVector _ := carries_refused _ _
  fileDescriptor _ := carries_refused _ _
  remoteObject _ := carries_refused _ _
  writeBuffer buffer data written hwritten := by
    cases hwritten
    refine ⟨_, rfl, ?_⟩
    have hle := le_paddedSize buffer.length
    simp only [List.length_append, List.length_replicate]
    omega
  readUnpadBuffer _ _ _ _ := rfl

def wordStringSize (units : U16String) : ℕ := (string16Image units).length

theorem sized_wordParcels : wordParcels.Sized wordStringSize where
  conversion units hunits := shortStr8ToStr16_shortStr16ToStr8 hunits
  writtenInt32 value data written hwritten := by
    cases hwritten
    simp
  writtenString16 text data written hwritten := by
    change (if text ∈ knownStrings then appendImage string16Image text
      else refuse) data = _ at hwritten
    split_ifs at hwritten with hknown
    · cases hwritten
      exact List.length_append
    · cases hwritten
  movedInt32 data cursor value next hread := by
    obtain ⟨word, behind, hword, hvalue⟩ := bind_read_eq_some hread
    cases hvalue
    unfold readWord at hword
    split_ifs at hword
    cases hword
    exact le_rfl
  movedString16 data cursor := by
    change ((readKnown string16Image knownStrings data cursor).getD _).2 ≤
      cursor + wordStringSize
        ((readKnown string16Image knownStrings data cursor).getD _).1
    unfold readKnown
    cases List.find? _ knownStrings with
    | none => exact Nat.le_add_right _ _
    | some units => exact le_rfl
  stringSize_pos text := by
    simp [wordStringSize, string16Image]

def portableSource : DistributedWantParams where
  params := [(['a'], .wrapper (.integer 7)), (['b'], .wrapper (.long (-5))),
    (['c'], .wantParams [(['k'], .wrapper (.string ['v']))])]
  cachedUnsupportedData := [{
    key := asciiToStr16 ['u']
    type := valueTypeSerializable
    buffer := [1, 2, 3, 4] }]

def portableImage : Bytes :=
  leBytes 4 4 ++
    string16Image (asciiToStr16 ['a']) ++ leBytes 4 5 ++ leBytes 4 7 ++
    string16Image (asciiToStr16 ['b']) ++ leBytes 4 6 ++
      leBytes 8 (2 ^ 64 - 5) ++
    string16Image (asciiToStr16 ['c']) ++ leBytes 4 101 ++
      string16Image (asciiToStr16 nestedText) ++
    string16Image (asciiToStr16 ['u']) ++ leBytes 4 23 ++ leBytes 4 4 ++
      leBytes 4 4 ++ [1, 2, 3, 4]

theorem dataTypeText_string (value : Text) :
    DistributedWantParamWrapper.dataTypeText (.wrapper (.string value)) =
      ['9'] := by
  change DecimalText.ofInt 9 = ['9']
  rw [DecimalText.ofInt, if_neg (by decide)]
  exact Nat.toDigits_of_lt_base (by decide)

theorem toString_nested :
    DistributedWantParamWrapper.toString plainEnv.library
      [(['k'], .wrapper (.string ['v']))] = nestedText := by
  simp only [DistributedWantParamWrapper.toString,
    DistributedWantParamWrapper.entriesText, dataTypeText_string,
    DistributedWantParamWrapper.valueText]
  rfl

theorem marshalling_portableSource :
    marshalling wordParcels plainEnv portableSource [] =
      some ((), portableImage) := by
  have hnested : writeMarshalling wordParcels plainEnv
        (.wantParams [(['k'], .wrapper (.string ['v']))]) =
      writeTyped wordParcels valueTypeWantParams
        (wordParcels.writeString16 (wordParcels.str8ToStr16 nestedText)) := by
    rw [writeMarshalling, writeToParcelWantParams, toString_nested]
    rfl
  simp only [marshalling, doMarshalling, portableSource, writeParams, writeParam,
    hnested]
  decide +kernel

theorem asRead_shortKey (buffer : List UInt8) (hpos : 0 < buffer.length)
    (hle : buffer.length ≤ 100 * 1024 * 1024) :
    AsRead wordParcels {
      key := asciiToStr16 ['u']
      type := valueTypeSerializable
      buffer := buffer } where
  key := ⟨['u'], rfl⟩
  type := rfl
  size_pos := hpos
  size_le := hle

theorem asRead_portableSource :
    ∀ dData ∈ portableSource.cachedUnsupportedData, AsRead wordParcels dData := by
  intro dData hmem
  cases List.mem_singleton.mp hmem
  exact asRead_shortKey [1, 2, 3, 4] (by decide) (by decide)

theorem portable_portableSource : Portable plainEnv portableSource where
  values := by
    simp only [portableSource, List.forall_mem_cons, List.not_mem_nil,
      false_implies, implies_true, and_true]
    refine ⟨trivial, trivial, 100, ?_⟩
    rw [toString_nested]
    decide +kernel
  buffers := by decide

theorem survives_portableSource :
    Survives wordParcels plainEnv portableSource [] portableImage [] :=
  (survivesParcel_iff lawful_wordParcels sized_wordParcels portableSource
    asRead_portableSource [] portableImage [] marshalling_portableSource
    (by decide +kernel)).1 portable_portableSource

def nullSource : DistributedWantParams where
  params := [(['a'], .null)]

def paddedSource : DistributedWantParams where
  cachedUnsupportedData := [{
    key := asciiToStr16 ['u']
    type := valueTypeSerializable
    buffer := [1] }]
  ordered := Interface.ordered_nil

def imageOf (wantParams : DistributedWantParams) : Bytes :=
  (marshalling wordParcels plainEnv wantParams []).elim [] Prod.snd

/-- A null value and a single byte are written and do not come back. -/
theorem not_survives_samples :
    (marshalling wordParcels plainEnv nullSource [] =
        some ((), imageOf nullSource) ∧
      ¬ Survives wordParcels plainEnv nullSource [] (imageOf nullSource) []) ∧
    (marshalling wordParcels plainEnv paddedSource [] =
        some ((), imageOf paddedSource) ∧
      ¬ Survives wordParcels plainEnv paddedSource [] (imageOf paddedSource)
        []) := by
  have hpadded : marshalling wordParcels plainEnv paddedSource [] =
      some ((), imageOf paddedSource) := by decide +kernel
  refine ⟨⟨by decide +kernel, ?_⟩, hpadded, ?_⟩
  · intro hsurvives
    exact hsurvives.hasType lawful_wordParcels sized_wordParcels
      (['a'], .null) List.mem_cons_self
  · intro hsurvives
    have hread : ∀ dData ∈ paddedSource.cachedUnsupportedData,
        AsRead wordParcels dData := by
      intro dData hmem
      cases List.mem_singleton.mp hmem
      exact asRead_shortKey [1] (by decide) (by decide)
    have haligned := (hsurvives.inv lawful_wordParcels sized_wordParcels hread
      hpadded (by decide +kernel)).2 (by decide) _ List.mem_cons_self
    exact absurd haligned (by decide)

end Sample

end DistributedWantParams

end Dmsfwk
