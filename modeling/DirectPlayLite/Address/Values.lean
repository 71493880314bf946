import DirectPlayLite.Address.Components

/-!
# Values of components

A string is kept with its length and copied out with `wcsncpy`, which takes the
first zero unit for the end.  What is read back is what was added unless some
other unit stands behind a zero.
-/

namespace DirectPlayLite

open LittleEndian

/-!
## The copy of a string
-/

def ZerosTrail (value : WString) : Prop :=
  forall i j : Nat, i < j -> value[i]? = some 0 -> forall unit,
    value[j]? = some unit -> unit = 0

theorem zerosTrail_cons_of_ne {first : UInt16} {rest : WString}
    (h : first ≠ 0) : ZerosTrail (first :: rest) ↔ ZerosTrail rest := by
  constructor
  · intro hall i j hij hi unit hj
    exact hall (i + 1) (j + 1) (by omega) hi unit hj
  · intro hrest i j hij hi unit hj
    cases i with
    | zero => exact absurd (Option.some.inj hi) h
    | succ i =>
        cases j with
        | zero => exact absurd hij (by omega)
        | succ j => exact hrest i j (by omega) hi unit hj

theorem zerosTrail_cons_zero {rest : WString} :
    ZerosTrail (0 :: rest) ↔ rest = List.replicate rest.length 0 := by
  rw [List.eq_replicate_iff]
  constructor
  · intro hall
    constructor
    · rfl
    · intro unit hunit
      rcases List.getElem?_of_mem hunit with ⟨j, hj⟩
      exact hall 0 (j + 1) (by omega) rfl unit hj
  · intro hzeros i j hij hi unit hj
    cases j with
    | zero => exact absurd hij (by omega)
    | succ j => exact hzeros.2 unit (List.mem_of_getElem? hj)

@[simp] theorem wcsncpy_length (value : WString) :
    (wcsncpy value).length = value.length := by
  have hle := (List.takeWhile_sublist (· != 0) (l := value)).length_le
  rw [wcsncpy, List.length_append, List.length_replicate]
  omega

theorem wcsncpy_eq_iff (value : WString) :
    wcsncpy value = value ↔ ZerosTrail value := by
  induction value with
  | nil =>
      constructor
      · intro _ i j _ hi
        cases hi
      · intro _
        rfl
  | cons first rest ih =>
      by_cases hfirst : first = 0
      · subst hfirst
        have hcopy : wcsncpy (0 :: rest) = 0 :: List.replicate rest.length 0 := by
          simp [wcsncpy, List.replicate_succ]
        rw [zerosTrail_cons_zero, hcopy, List.cons.injEq]
        constructor
        · intro h
          exact h.2.symm
        · intro h
          exact ⟨rfl, h.symm⟩
      · have hcopy : wcsncpy (first :: rest) = first :: wcsncpy rest := by
          simp [wcsncpy, hfirst]
        rw [zerosTrail_cons_of_ne hfirst, hcopy, List.cons.injEq, ← ih]
        constructor
        · intro h
          exact h.2
        · intro h
          exact ⟨rfl, h⟩

/-!
## What is read back
-/

namespace DirectPlay8Address

section Reading

/--
Data `AddComponent` takes as they are: a string of whole units, a `DWORD` or a
`GUID`.
-/
inductive Addable : DWORD -> DWORD -> Prop where
  | string {dataSize : DWORD} :
      dataSize.toNat % 2 = 0 -> Addable dataSize dpnaDatatypeString
  | dword : Addable 4 dpnaDatatypeDword
  | guid : Addable 16 dpnaDatatypeGuid

def Suffices (hasBuffer : Bool) (bufferSize dataSize : DWORD) : Prop :=
  hasBuffer = true ∧ dataSize.toNat ≤ bufferSize.toNat

def valueRead (bytes : List UInt8) (dataSize dataType : DWORD) : Reported :=
  { result := sOk, bufferSize := dataSize, dataType, buffer := some bytes }

/-- A buffer that was too small: the size is reported and nothing written. -/
def valueTooLarge (dataSize dataType : DWORD) : Reported :=
  { result := dpnErrBufferTooSmall, bufferSize := dataSize, dataType
    buffer := none }

/--
A component is read back, by its name and by its index, as it was added: into
buffers that suffice exactly, and into others not at all.
-/
structure ReadBack (address : DirectPlay8Address) (name : WString)
    (bytes : List UInt8) (dataSize dataType : DWORD) : Prop where
  size : bytes.length = dataSize.toNat
  byName : forall (hasBuffer : Bool) (bufferSize : DWORD),
    Suffices hasBuffer bufferSize dataSize ->
    address.getComponentByName name hasBuffer bufferSize =
      some (valueRead bytes dataSize dataType)
  byNameTooSmall : forall (hasBuffer : Bool) (bufferSize : DWORD),
    ¬ Suffices hasBuffer bufferSize dataSize ->
    address.getComponentByName name hasBuffer bufferSize =
      some (valueTooLarge dataSize dataType)
  byIndex : forall (index : DWORD) (hasName : Bool) (nameLen : DWORD)
    (hasBuffer : Bool) (bufferSize : DWORD),
    index.toNat = address.names.idxOf name ->
    hasName = true -> name.length < nameLen.toNat ->
    Suffices hasBuffer bufferSize dataSize ->
    address.getComponentByIndex index hasName nameLen hasBuffer bufferSize =
      some ⟨valueRead bytes dataSize dataType, UInt32.ofNat (name.length + 1),
        some name⟩
  byIndexTooSmall : forall (index : DWORD) (hasName : Bool) (nameLen : DWORD)
    (hasBuffer : Bool) (bufferSize : DWORD),
    index.toNat = address.names.idxOf name ->
    ¬ Suffices hasBuffer bufferSize dataSize ->
    (address.getComponentByIndex index hasName nameLen hasBuffer
      bufferSize).map ReportedByIndex.reported =
        some (valueTooLarge dataSize dataType)

variable {multiByteToWideChar : Memory -> DWORD -> WString}

theorem newComponent_addable (multiByteToWideChar : Memory -> DWORD -> WString)
    (data : Memory) {dataSize dataType : DWORD} (h : Addable dataSize dataType) :
    exists value,
      newComponent multiByteToWideChar data dataSize dataType = .ok value ∧
        value.size = dataSize.toNat ∧ value.dataType = dataType ∧
        (value.bytes = data.read 0 dataSize.toNat ↔
          (dataType = dpnaDatatypeString ->
            ZerosTrail (bytesToUnits (data.read 0 dataSize.toNat)))) := by
  cases h with
  | string heven =>
      have hwhole : 2 * (dataSize.toNat / 2) = dataSize.toNat := by omega
      have hlength : (data.read 0 dataSize.toNat).length =
          2 * (dataSize.toNat / 2) := by
        rw [Memory.read_length, hwhole]
      have hunits := unitsToBytes_bytesToUnits hlength
      have hcount := congrArg List.length hunits
      rw [unitsToBytes_length, Memory.read_length] at hcount
      refine ⟨.string (bytesToUnits (data.read 0 dataSize.toNat)), ?_, hcount, rfl,
        ?_⟩
      · rw [newComponent, if_pos rfl, hwhole]
      · rw [← wcsncpy_eq_iff, ComponentValue.bytes]
        constructor
        · intro hbytes _
          exact unitsToBytes_inj (hbytes.trans hunits.symm)
        · intro hcopy
          rw [hcopy rfl, hunits]
  | dword =>
      refine ⟨.dword (word32 (data.read 0 4)), rfl, rfl, rfl, ?_⟩
      constructor
      · intro _ hstring
        exact absurd hstring (by decide)
      · intro _
        exact bytes32_word32 (Memory.read_length data 0 4)
  | guid =>
      refine ⟨.guid (Vector.ofFn fun i => data i.val), rfl, rfl, rfl, ?_⟩
      constructor
      · intro _ hstring
        exact absurd hstring (by decide)
      · intro _
        apply List.ext_getElem (by simp [ComponentValue.bytes])
        intro i _ _
        simp [ComponentValue.bytes, Memory.read]

theorem place_splits (components : List Component) (c : Component) :
    exists before behind,
      place components c = before ++ c :: behind ∧
        forall other, other ∈ before -> other.name ≠ c.name := by
  rw [place]
  split
  · refine ⟨components.takeWhile (·.name != c.name), _, rfl, ?_⟩
    intro other hother
    simpa using List.all_eq_true.mp List.all_takeWhile other hother
  · rename_i hnew
    split
    · refine ⟨[], components, rfl, ?_⟩
      intro other hother
      cases hother
    · refine ⟨components, [], rfl, ?_⟩
      intro other hother hname
      apply hnew
      rw [List.any_eq_true]
      exact ⟨other, hother, by simpa using hname⟩

theorem find_place (components : List Component) (c : Component) :
    (place components c).find? (·.name == c.name) = some c := by
  rcases place_splits components c with ⟨before, behind, hplace, hbefore⟩
  have hnone : before.find? (·.name == c.name) = none := by
    rw [List.find?_eq_none]
    intro other hother
    simpa using hbefore other hother
  rw [hplace, List.find?_append, hnone]
  simp

theorem getElem?_place (components : List Component) (c : Component) :
    (place components c)[((place components c).map Component.name).idxOf c.name]? =
      some c := by
  rcases place_splits components c with ⟨before, behind, hplace, hbefore⟩
  have hnew : c.name ∉ before.map Component.name := by
    intro hthere
    rcases List.mem_map.mp hthere with ⟨other, hother, hname⟩
    exact hbefore other hother hname
  rw [hplace, List.map_append, List.idxOf_append_of_notMem hnew, List.map_cons,
    List.idxOf_cons_self, List.length_map]
  simp

theorem getComponent_eq (c : Component) (hasBuffer : Bool) (bufferSize : DWORD)
    {dataSize : DWORD} (h : c.value.size = dataSize.toNat) :
    (Suffices hasBuffer bufferSize dataSize ->
      c.getComponent hasBuffer bufferSize =
        valueRead c.value.bytes dataSize c.value.dataType) ∧
    (¬ Suffices hasBuffer bufferSize dataSize ->
      c.getComponent hasBuffer bufferSize =
        valueTooLarge dataSize c.value.dataType) := by
  rw [Component.getComponent, h, UInt32.ofNat_toNat]
  constructor
  · intro hfits
    rw [if_pos ⟨hfits.2, hfits.1⟩, if_pos ⟨hfits.2, hfits.1⟩, valueRead]
  · intro hsmall
    have hnot : ¬ (dataSize.toNat ≤ bufferSize.toNat ∧ hasBuffer = true) := by
      intro hfits
      exact hsmall ⟨hfits.2, hfits.1⟩
    rw [if_neg hnot, if_neg hnot, valueTooLarge]

theorem place_readBack (address : DirectPlay8Address) (c : Component)
    {bytes : List UInt8} {dataSize : DWORD} (hlength : bytes.length = dataSize.toNat)
    (hsize : c.value.size = dataSize.toNat) :
    ReadBack { address with components := place address.components c } c.name bytes
        dataSize c.value.dataType ↔
      c.value.bytes = bytes := by
  have hfind := find_place address.components c
  have hindexed := getElem?_place address.components c
  constructor
  · intro hread
    have hfits : Suffices true dataSize dataSize := ⟨rfl, Nat.le_refl _⟩
    have hsome := hread.byName true dataSize hfits
    rw [getComponentByName, hfind, Option.map_some,
      (getComponent_eq c true dataSize hsize).1 hfits] at hsome
    have hbuffer := congrArg Reported.buffer (Option.some.inj hsome)
    exact Option.some.inj hbuffer
  · intro hsame
    constructor
    · exact hlength
    · intro hasBuffer bufferSize hfits
      rw [getComponentByName, hfind, Option.map_some,
        (getComponent_eq c hasBuffer bufferSize hsize).1 hfits, hsame]
    · intro hasBuffer bufferSize hsmall
      rw [getComponentByName, hfind, Option.map_some,
        (getComponent_eq c hasBuffer bufferSize hsize).2 hsmall]
    · intro index hasName nameLen hasBuffer bufferSize hindex hname hlong hfits
      rw [getComponentByIndex, hindex, names, hindexed, Option.map_some,
        if_pos ⟨hlong, hname⟩, (getComponent_eq c hasBuffer bufferSize hsize).1 hfits,
        hsame]
    · intro index hasName nameLen hasBuffer bufferSize hindex hsmall
      rw [getComponentByIndex, hindex, names, hindexed, Option.map_some,
        (getComponent_eq c hasBuffer bufferSize hsize).2 hsmall]
      split
      · rfl
      · rfl

/--
Data that has been added is read back exactly when it is not a string with a
unit other than zero behind a zero.
-/
theorem addComponent_readBack (address : DirectPlay8Address) (name : WString)
    (data : Memory) {dataSize dataType : DWORD} (h : Addable dataSize dataType) :
    (address.addComponent multiByteToWideChar name data dataSize dataType).1 = sOk ∧
      (ReadBack (address.addComponent multiByteToWideChar name data dataSize
          dataType).2 name (data.read 0 dataSize.toNat) dataSize dataType ↔
        (dataType = dpnaDatatypeString ->
          ZerosTrail (bytesToUnits (data.read 0 dataSize.toNat)))) := by
  rcases newComponent_addable multiByteToWideChar data h with
    ⟨value, hnew, hsize, htype, hbytes⟩
  have hadd : address.addComponent multiByteToWideChar name data dataSize dataType =
      (sOk, { address with components := place address.components ⟨name, value⟩ }) := by
    rw [addComponent, hnew]
  have hread := place_readBack address ⟨name, value⟩
    (Memory.read_length data 0 dataSize.toNat) hsize
  rw [htype] at hread
  rw [hadd, ← hbytes]
  exact ⟨rfl, hread⟩

/-- A string of three units, a zero between an `a` and a `b`. -/
def embeddedNul : Memory := bufferOf (unitsToBytes [97, 0, 98]) fun _ => 0

theorem addComponent_readBack_string :
    (empty.addComponent (fun _ _ => []) [110] embeddedNul 6 dpnaDatatypeString).1 =
        sOk ∧
      (ReadBack (empty.addComponent (fun _ _ => []) [110] embeddedNul 6
          dpnaDatatypeString).2 [110] (embeddedNul.read 0 6) 6 dpnaDatatypeString ↔
        (dpnaDatatypeString = dpnaDatatypeString ->
          ZerosTrail (bytesToUnits (embeddedNul.read 0 6)))) :=
  addComponent_readBack empty [110] embeddedNul (.string rfl)

/-- What stands behind a zero unit is not read back. -/
theorem embeddedNul_lost :
    ¬ forall (multiByteToWideChar : Memory -> DWORD -> WString)
        (address : DirectPlay8Address) (name : WString) (data : Memory)
        (dataSize dataType : DWORD), Addable dataSize dataType ->
      ReadBack (address.addComponent multiByteToWideChar name data dataSize
        dataType).2 name (data.read 0 dataSize.toNat) dataSize dataType := by
  intro hall
  have hread := hall (fun _ _ => []) empty [110] embeddedNul 6 dpnaDatatypeString
    (.string rfl)
  have hsome := hread.byName true 6 ⟨rfl, by decide⟩
  revert hsome
  decide

end Reading
end DirectPlay8Address
end DirectPlayLite
