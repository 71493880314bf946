import Mathlib.Data.List.Forall2
import DirectPlayLite.Lib.Scanning
import DirectPlayLite.Lib.Stores
import DirectPlayLite.Address.Components
import DirectPlayLite.Peer.State

/-!
# Descriptions in the buffers of the caller

`GetApplicationDesc`, `GetGroupInfo` and `GetPeerInfo` fill in a structure and put the
strings and the data it points to behind it.  The caller says how large its buffer is;
where that is not enough, it is told what would be.
-/

namespace DirectPlayLite

open LittleEndian Scanning Stores

/-- What a method leaves: its result, the memory, and the size behind the pointer to it. -/
structure Filling where
  result : HRESULT
  memory : Memory
  size : DWORD

def pointerNull : DWORD := 0

def Memory.dword (memory : Memory) (address : Nat) : DWORD := word32 (memory.read address 4)

/-- The units of a `WCHAR` string up to its terminator, and the terminator. -/
def terminated (text : WString) : List UInt8 := unitsToBytes (cString text ++ [0])

def putDword (address : Nat) (value : DWORD) : Store UInt8 := ⟨address, bytes32 value⟩

/-- `wcscpy` from the `c_str()` of a string, which ends at its first terminator. -/
def wcscpy (address : Nat) (text : WString) : Store UInt8 := ⟨address, terminated text⟩

/-- `memcpy` of the `c_str()` of a string, with all of its units. -/
def memcpyText (address : Nat) (text : WString) : Store UInt8 :=
  ⟨address, unitsToBytes (text ++ [0])⟩

def nameWrites (copy : Nat -> WString -> Store UInt8) (extraAt pointer : Nat)
    (name : WString) : List (Store UInt8) :=
  if name = [] then [putDword pointer pointerNull]
  else [copy extraAt name, putDword pointer (UInt32.ofNat extraAt)]

/-- How data is put behind a structure that points to it and has its size. -/
def dataWrites (extraAt pointer count : Nat) (data : List UInt8) : List (Store UInt8) :=
  if data = [] then [putDword pointer pointerNull, putDword count 0]
  else
    [⟨extraAt, data⟩, putDword pointer (UInt32.ofNat extraAt),
      putDword count (UInt32.ofNat data.length)]

/-- `(length() + 1) * sizeof(wchar_t)`, for a string that is not empty. -/
def nameSize (name : WString) : Nat := if name = [] then 0 else (name.length + 1) * 2

/-!
## `GetApplicationDesc`

The members of `DPN_APPLICATION_DESC` lie at these offsets on Win32.
-/

namespace ApplicationDescBuffer

def dwSize : Nat := 0
def dwFlags : Nat := 4
def guidInstance : Nat := 8
def guidApplication : Nat := 24
def dwMaxPlayers : Nat := 40
def dwCurrentPlayers : Nat := 44
def pwszSessionName : Nat := 48
def pwszPassword : Nat := 52
def pvReservedData : Nat := 56
def dwReservedDataSize : Nat := 60
def pvApplicationReservedData : Nat := 64
def dwApplicationReservedDataSize : Nat := 68
def sizeof : Nat := 72

end ApplicationDescBuffer

namespace DirectPlay8Peer

def applicationDescSize (s : DirectPlay8Peer) : DWORD :=
  UInt32.ofNat (ApplicationDescBuffer.sizeof + (s.sessionName.length + 1) * 2 +
    (s.password.length + (if s.password = [] then 0 else 1)) * 2 +
    s.applicationData.length)

section ApplicationDesc

open ApplicationDescBuffer

/-- How the password is put, with the flag that goes with it. -/
def passwordWrites (buffer extraAt : Nat) (password : WString) : List (Store UInt8) :=
  if password = [] then [putDword (buffer + pwszPassword) pointerNull]
  else
    [wcscpy extraAt password,
      -- added to the flags, which are 0 so far
      putDword (buffer + dwFlags) (0 ||| dpnSessionRequirePassword),
      putDword (buffer + pwszPassword) (UInt32.ofNat extraAt)]

def applicationDescWrites (s : DirectPlay8Peer) (buffer : Nat) : List (Store UInt8) :=
  let nameAt := buffer + sizeof
  let passwordAt := nameAt + (s.sessionName.length + 1) * 2
  let dataAt :=
    if s.password = [] then passwordAt else passwordAt + (s.password.length + 1) * 2
  [putDword (buffer + dwFlags) 0,
    ⟨buffer + guidInstance, s.instanceGuid.toList⟩,
    ⟨buffer + guidApplication, s.applicationGuid.toList⟩,
    putDword (buffer + dwMaxPlayers) s.maxPlayers,
    putDword (buffer + dwCurrentPlayers) (UInt32.ofNat (s.playerToPeerId.size + 1))] ++
  [wcscpy nameAt s.sessionName,
    putDword (buffer + pwszSessionName) (UInt32.ofNat nameAt)] ++
  passwordWrites buffer passwordAt s.password ++
  [putDword (buffer + pvReservedData) pointerNull,
    putDword (buffer + dwReservedDataSize) 0] ++
  dataWrites dataAt (buffer + pvApplicationReservedData)
    (buffer + dwApplicationReservedDataSize) s.applicationData

def getApplicationDesc (s : DirectPlay8Peer) (memory : Memory) (buffer : Nat)
    (size : DWORD) : Filling :=
  let filled (result : HRESULT) : Filling := { result, memory, size }
  match s.state with
  | .new => filled dpnErrUninitialized
  | .connectingToHost | .connectingToPeers => filled dpnErrConnecting
  | .hosting | .connected =>
      if sizeof ≤ size.toNat ∧
          memory.dword (buffer + dwSize) ≠ UInt32.ofNat sizeof then
        filled dpnErrInvalidParam
      else if s.applicationDescSize ≤ size then
        { filled sOk with memory := storeAll memory (s.applicationDescWrites buffer) }
      else { filled dpnErrBufferTooSmall with size := s.applicationDescSize }
  | _ => filled dpnErrNoConnection

end ApplicationDesc

end DirectPlay8Peer

/-!
## `GetGroupInfo` and `GetPeerInfo`

The members of `DPN_GROUP_INFO` and `DPN_PLAYER_INFO` lie at these offsets on Win32.
-/

namespace GroupInfoBuffer

def dwSize : Nat := 0
def dwInfoFlags : Nat := 4
def pwszName : Nat := 8
def pvData : Nat := 12
def dwDataSize : Nat := 16
def dwGroupFlags : Nat := 20
def sizeof : Nat := 24

end GroupInfoBuffer

namespace PlayerInfoBuffer

def dwSize : Nat := 0
def dwInfoFlags : Nat := 4
def pwszName : Nat := 8
def pvData : Nat := 12
def dwDataSize : Nat := 16
def dwPlayerFlags : Nat := 20
def sizeof : Nat := 24

end PlayerInfoBuffer

namespace DirectPlay8Peer

section GroupInfo

open GroupInfoBuffer

def groupInfoSize (group : Group) : DWORD :=
  UInt32.ofNat (sizeof + nameSize group.name +
    (if group.data = [] then 0 else group.data.length))

def groupInfoWrites (group : Group) (buffer : Nat) : List (Store UInt8) :=
  let nameAt := buffer + sizeof
  [putDword (buffer + dwInfoFlags) (dpnInfoName ||| dpnInfoData)] ++
  nameWrites wcscpy nameAt (buffer + pwszName) group.name ++
  dataWrites (nameAt + nameSize group.name) (buffer + pvData) (buffer + dwDataSize)
    group.data ++
  [putDword (buffer + dwGroupFlags) 0]

def getGroupInfo (s : DirectPlay8Peer) (dpnid : DPNID) (memory : Memory) (buffer : Nat)
    (size : DWORD) : Filling :=
  let filled (result : HRESULT) : Filling := { result, memory, size }
  match s.state with
  | .new => filled dpnErrUninitialized
  | .initialised => filled dpnErrNoConnection
  | _ =>
      match s.getGroupById dpnid with
      | none => filled dpnErrInvalidGroup
      | some group =>
          if size < groupInfoSize group then
            { filled dpnErrBufferTooSmall with size := groupInfoSize group }
          else if memory.dword (buffer + dwSize) ≠ UInt32.ofNat sizeof then
            filled dpnErrInvalidParam
          else { filled sOk with memory := storeAll memory (groupInfoWrites group buffer) }

end GroupInfo

section PeerInfo

open PlayerInfoBuffer

def playerInfo (s : DirectPlay8Peer) (dpnid : DPNID) : Option (WString × List UInt8) :=
  if dpnid = s.localPlayerId then some (s.localPlayerName, s.localPlayerData)
  else (s.getPeerByPlayerId dpnid).map fun peer => (peer.playerName, peer.playerData)

def peerInfoSize (name : WString) (data : List UInt8) : DWORD :=
  UInt32.ofNat (sizeof + data.length + (name.length + (if name = [] then 0 else 1)) * 2)

def peerInfoWrites (s : DirectPlay8Peer) (dpnid : DPNID) (name : WString)
    (data : List UInt8) (buffer : Nat) : List (Store UInt8) :=
  let nameAt := buffer + sizeof
  let localFlag : DWORD := if dpnid = s.localPlayerId then dpnPlayerLocal else 0
  [putDword (buffer + dwInfoFlags) (dpnInfoName ||| dpnInfoData),
    putDword (buffer + dwPlayerFlags) 0] ++
  nameWrites memcpyText nameAt (buffer + pwszName) name ++
  dataWrites (nameAt + nameSize name) (buffer + pvData) (buffer + dwDataSize) data ++
  -- the flags are read back and added to
  (if dpnid = s.localPlayerId then [putDword (buffer + dwPlayerFlags) localFlag] else []) ++
  (if dpnid = s.hostPlayerId then
    [putDword (buffer + dwPlayerFlags) (localFlag ||| dpnPlayerHost)] else [])

def getPeerInfo (s : DirectPlay8Peer) (dpnid : DPNID) (memory : Memory) (buffer : Nat)
    (size : DWORD) : Filling :=
  let filled (result : HRESULT) : Filling := { result, memory, size }
  match s.playerInfo dpnid with
  | none => filled dpnErrInvalidPlayer
  | some (name, data) =>
      if buffer ≠ 0 ∧ sizeof ≤ size.toNat ∧
          memory.dword (buffer + dwSize) ≠ UInt32.ofNat sizeof then
        filled dpnErrInvalidFlags
      else if buffer = 0 ∨ size < peerInfoSize name data then
        { filled dpnErrBufferTooSmall with size := peerInfoSize name data }
      else { filled sOk with memory := storeAll memory (s.peerInfoWrites dpnid name data buffer) }

end PeerInfo

end DirectPlay8Peer

/-!
## What a caller may expect
-/

/-- Something behind a structure, which a member points to. -/
structure Block where
  member : Nat
  length : Nat
  /-- What is found where the member points to. -/
  cells : List UInt8

/-- The block of a string, of which all units are counted. -/
def textBlock (text : Nat × WString) : Block :=
  ⟨text.1, (text.2.length + 1) * 2, terminated text.2⟩

def dataBlocks (pointer : Nat) (data : List UInt8) : List Block :=
  if data = [] then [] else [⟨pointer, data.length, data⟩]

structure Description where
  /-- The size of the structure. -/
  fixed : Nat
  /-- The strings, with the members that point to them. -/
  texts : List (Nat × WString)
  /-- The members for the data and its size. -/
  pointer : Nat
  count : Nat
  data : List UInt8
  /-- The members that point to nothing. -/
  nulls : List Nat

namespace Description

def blocks (d : Description) : List Block :=
  d.texts.map textBlock ++ dataBlocks d.pointer d.data

def total (d : Description) : Nat := d.fixed + (d.blocks.map Block.length).sum

/-- The structure and what its members point to. -/
def regions (d : Description) (buffer : Nat) (memory : Memory) : List Region :=
  ⟨buffer, d.fixed⟩ ::
    d.blocks.map fun block => ⟨(memory.dword (buffer + block.member)).toNat, block.length⟩

/-- What is stored in a buffer of some size by a call that succeeds. -/
structure Filled (d : Description) (buffer : Nat) (size : DWORD)
    (memory memory' : Memory) : Prop where
  outside : forall address, address < buffer ∨ buffer + d.total ≤ address ->
    memory' address = memory address
  fits : d.total ≤ size.toNat
  apart : (d.regions buffer memory').Pairwise Region.Apart
  inside : forall r, r ∈ d.regions buffer memory' -> r.Within ⟨buffer, size.toNat⟩
  texts : forall member text, (member, text) ∈ d.texts ->
    memory'.Holds (memory'.dword (buffer + member)).toNat (terminated text)
  data : memory'.read (memory'.dword (buffer + d.pointer)).toNat
    (memory'.dword (buffer + d.count)).toNat = d.data
  nulls : forall member, member ∈ d.nulls ->
    memory'.dword (buffer + member) = pointerNull

end Description

def Block.PutAt (block : Block) (writes : List (Store UInt8)) (buffer start : Nat) :
    Prop :=
  Isolated writes (putDword (buffer + block.member) (UInt32.ofNat start)) ∧
    exists behind, (block.cells ++ behind).length ≤ block.length ∧
      Isolated writes ⟨start, block.cells ++ behind⟩

namespace Description

/--
Stores that put everything behind the structure, one behind another, and point to it
from the members, without one touching another.
-/
structure Packs (d : Description) (buffer : Nat) (writes : List (Store UInt8)) : Prop where
  within : forall w, w ∈ writes -> w.region.Within ⟨buffer, d.total⟩
  blocks : List.Forall₂ (fun block start => block.PutAt writes buffer start)
    d.blocks (starts (buffer + d.fixed) (d.blocks.map Block.length))
  count : Isolated writes (putDword (buffer + d.count) (UInt32.ofNat d.data.length))
  nulls : forall member, member ∈ d.nulls ->
    Isolated writes (putDword (buffer + member) pointerNull)

section Packing

variable {d : Description} {buffer : Nat} {writes : List (Store UInt8)} {memory : Memory}
  {size : DWORD}

theorem dword_isolated {address : Nat} {value : DWORD}
    (h : Isolated writes (putDword address value)) :
    Memory.dword (storeAll memory writes) address = value := by
  have hregion : (putDword address value).region = ⟨address, 4⟩ :=
    congrArg (Region.mk address) (bytes32_length value)
  have hload := h.load (m := memory)
  rw [hregion] at hload
  exact (congrArg word32 hload).trans (word32_bytes32 value)

theorem holds_isolated {start : Nat} {cells behind : List UInt8}
    (h : Isolated writes ⟨start, cells ++ behind⟩) :
    Memory.Holds (storeAll memory writes) start cells :=
  (Memory.holds_append.mp h.load).1

theorem blocks_pos {block : Block} (h : block ∈ d.blocks) : 0 < block.length := by
  rcases List.mem_append.mp h with htext | hdata
  · rcases List.mem_map.mp htext with ⟨text, _, rfl⟩
    exact Nat.mul_pos (Nat.succ_pos _) Nat.two_pos
  · unfold dataBlocks at hdata
    split at hdata
    · cases hdata
    · rename_i hsome
      rw [List.mem_singleton.mp hdata]
      exact List.length_pos_of_ne_nil hsome

theorem data_le_total : d.data.length ≤ d.total := by
  unfold total blocks dataBlocks
  rw [List.map_append, List.sum_append]
  split
  · rename_i hnone
    rw [hnone]
    exact Nat.zero_le _
  · rw [List.map_singleton, List.sum_singleton]
    exact Nat.le_add_left_of_le (Nat.le_add_left _ _)

variable (memory) in
theorem pointed {blocks : List Block} {start : Nat}
    (h : List.Forall₂ (fun block start => block.PutAt writes buffer start)
      blocks (starts start (blocks.map Block.length)))
    (hpos : forall block, block ∈ blocks -> 0 < block.length)
    (hend : start + (blocks.map Block.length).sum ≤ 2 ^ 32) :
    (blocks.map fun block =>
        (⟨(Memory.dword (storeAll memory writes) (buffer + block.member)).toNat,
          block.length⟩ : Region)) =
      laid start (blocks.map Block.length) ∧
    forall block, block ∈ blocks ->
      Memory.Holds (storeAll memory writes)
        (Memory.dword (storeAll memory writes) (buffer + block.member)).toNat
        block.cells := by
  induction blocks generalizing start with
  | nil => exact ⟨rfl, by simp⟩
  | cons block rest ih =>
      rw [List.map_cons, List.sum_cons] at hend
      rcases List.forall₂_cons.mp h with ⟨⟨hpointer, _, _, hcells⟩, hrest⟩
      have hlength := hpos block List.mem_cons_self
      have hstart :
          (Memory.dword (storeAll memory writes) (buffer + block.member)).toNat =
            start := by
        rw [dword_isolated hpointer, UInt32.toNat_ofNat']
        exact Nat.mod_eq_of_lt (by omega)
      have hrest := ih hrest (fun other hother => hpos other (List.mem_cons_of_mem _ hother))
        (by omega)
      constructor
      · rw [List.map_cons, List.map_cons, laid, hstart, hrest.1]
      · intro other hother
        rcases List.mem_cons.mp hother with rfl | hother
        · rw [hstart]
          exact holds_isolated hcells
        · exact hrest.2 other hother

theorem Packs.filled (h : d.Packs buffer writes) (hfits : d.total ≤ size.toNat)
    (hbuffer : buffer + size.toNat ≤ 2 ^ 32) :
    d.Filled buffer size memory (storeAll memory writes) := by
  have hend : buffer + d.fixed + (d.blocks.map Block.length).sum ≤ 2 ^ 32 := by
    rw [Nat.add_assoc]
    exact Nat.le_trans (Nat.add_le_add_left hfits buffer) hbuffer
  rcases pointed memory h.blocks (fun _ => blocks_pos) hend with
    ⟨hpointed, hcells⟩
  have hregions : d.regions buffer (storeAll memory writes) =
      laid buffer (d.fixed :: d.blocks.map Block.length) := by
    rw [regions, hpointed, laid]
  constructor
  · intro address houtside
    exact storeAll_outside h.within houtside
  · exact hfits
  · rw [hregions]
    exact laid_pairwise _ _
  · intro r hr
    rw [hregions] at hr
    have hwithin := laid_within hr
    rw [List.sum_cons] at hwithin
    exact ⟨hwithin.1, Nat.le_trans hwithin.2 (Nat.add_le_add_left hfits buffer)⟩
  · intro member text htext
    exact hcells (textBlock (member, text))
      (List.mem_append_left _ (List.mem_map_of_mem htext))
  · rw [dword_isolated h.count, UInt32.toNat_ofNat']
    by_cases hnone : d.data = []
    · rw [hnone]
      rfl
    · have hblock : (⟨d.pointer, d.data.length, d.data⟩ : Block) ∈ d.blocks := by
        apply List.mem_append_right
        rw [dataBlocks, if_neg hnone]
        exact List.mem_singleton_self _
      have hlength : d.data.length < 2 ^ 32 :=
        Nat.lt_of_le_of_lt (Nat.le_trans data_le_total hfits) size.toNat_lt
      have hheld : Memory.Holds (storeAll memory writes)
          (Memory.dword (storeAll memory writes) (buffer + d.pointer)).toNat d.data :=
        hcells ⟨d.pointer, d.data.length, d.data⟩ hblock
      rw [Nat.mod_eq_of_lt hlength]
      exact hheld
  · intro member hmember
    exact dword_isolated (h.nulls member hmember)

end Packing

end Description

/-!
## What the methods describe
-/

/-- A string that a member points to unless it is empty. -/
def textFor (member : Nat) (text : WString) : List (Nat × WString) :=
  if text = [] then [] else [(member, text)]

def nullFor {α : Type} (member : Nat) (part : List α) : List Nat :=
  if part = [] then [member] else []

theorem mem_nullFor {α : Type} {member member' : Nat} {part : List α} :
    member' ∈ nullFor member part ↔ member' = member ∧ part = [] := by
  unfold nullFor
  split
  · rename_i hnone
    rw [List.mem_singleton, and_iff_left hnone]
  · rename_i hsome
    exact ⟨by simp, fun h => absurd h.2 hsome⟩

/-!
## Stores that put one thing
-/

def Copies (copy : Nat -> WString -> Store UInt8) : Prop :=
  forall start text, exists behind,
    (terminated text ++ behind).length ≤ (text.length + 1) * 2 ∧
      copy start text = ⟨start, terminated text ++ behind⟩

section Putting

variable {copy : Nat -> WString -> Store UInt8} {buffer member start : Nat}
  {name : WString} {data : List UInt8} {block : Block} {writes : List (Store UInt8)}

theorem terminated_length_le (text : WString) :
    (terminated text).length ≤ (text.length + 1) * 2 := by
  have hle := (List.takeWhile_sublist (fun c : UInt16 => c != 0) (l := text)).length_le
  have hlength : (terminated text).length = 2 * ((cString text).length + 1) := by
    rw [terminated, unitsToBytes_length, List.length_append, List.length_singleton]
  unfold cString at hlength
  omega

theorem wcscpy_copies : Copies wcscpy := by
  intro start text
  refine ⟨[], ?_, ?_⟩
  · rw [List.append_nil]
    exact terminated_length_le text
  · rw [List.append_nil]
    rfl

theorem memcpyText_copies : Copies memcpyText := by
  intro start text
  rcases exists_behind_cString text with ⟨rest, hrest⟩
  have hcells : unitsToBytes (text ++ [0]) = terminated text ++ unitsToBytes rest := by
    rw [hrest, terminated, unitsToBytes, unitsToBytes, unitsToBytes, ← List.flatMap_append,
      List.append_assoc, List.singleton_append]
  refine ⟨unitsToBytes rest, ?_, ?_⟩
  · rw [← hcells, unitsToBytes_length, List.length_append, List.length_singleton,
      Nat.mul_comm]
  · rw [← hcells]
    rfl

theorem Apart.shorten {r : Region} {length length' : Nat}
    (h : r.Apart ⟨start, length⟩) (hle : length' ≤ length) : r.Apart ⟨start, length'⟩ :=
  h.imp_right fun hbefore => Nat.le_trans (Nat.add_le_add_left hle start) hbefore

theorem dword_between {address : Nat} {value : DWORD} {before behind : List (Store UInt8)}
    {regions regions' : List Region} (h : Isolated writes (putDword address value))
    (hbefore : Touch before regions) (hbehind : Touch behind regions')
    (hapart : forall r, r ∈ regions ++ regions' -> r.Apart ⟨address, 4⟩) :
    Isolated (before ++ writes ++ behind) (putDword address value) := by
  apply h.between hbefore hbehind
  intro r hr
  exact Apart.shorten (hapart r hr) (bytes32_length _).le

theorem Block.PutAt.between {before behind : List (Store UInt8)}
    {regions regions' : List Region} (h : block.PutAt writes buffer start)
    (hbefore : Touch before regions) (hbehind : Touch behind regions')
    (hapart : forall r, r ∈ regions ++ regions' ->
      r.Apart ⟨buffer + block.member, 4⟩ ∧ r.Apart ⟨start, block.length⟩) :
    block.PutAt (before ++ writes ++ behind) buffer start := by
  rcases h with ⟨hpointer, rest, hlength, hcells⟩
  refine ⟨dword_between hpointer hbefore hbehind fun r hr => (hapart r hr).1, rest, hlength,
    hcells.between hbefore hbehind ?_⟩
  intro r hr
  exact Apart.shorten (hapart r hr).2 hlength

theorem put_pair (hcopy : Copies copy) (hapart : buffer + member + 4 ≤ start) :
    (textBlock (member, name)).PutAt
      [copy start name, putDword (buffer + member) (UInt32.ofNat start)] buffer start := by
  rcases hcopy start name with ⟨behind, hlength, hcells⟩
  have hpair : [copy start name, putDword (buffer + member) (UInt32.ofNat start)].Pairwise
      fun w w' => w.region.Apart w'.region := by
    apply List.pairwise_pair.mpr
    rw [hcells]
    exact Or.inr hapart
  refine ⟨isolated_of_pairwise hpair (by simp [textBlock]), behind, hlength,
    isolated_of_pairwise hpair ?_⟩
  rw [hcells]
  exact List.mem_cons_self

theorem putDword_touch (address : Nat) (value : DWORD) :
    Touch [putDword address value] [⟨address, 4⟩] := by
  intro w hw
  rw [List.mem_singleton.mp hw]
  exact ⟨_, List.mem_singleton_self _, Nat.le_refl _, Nat.le_refl _⟩

theorem copy_touch (hcopy : Copies copy) (start : Nat) (name : WString) :
    Touch [copy start name] [⟨start, (name.length + 1) * 2⟩] := by
  intro w hw
  rcases hcopy start name with ⟨behind, hlength, hcells⟩
  rw [List.mem_singleton.mp hw, hcells]
  exact ⟨_, List.mem_singleton_self _, Nat.le_refl _, Nat.add_le_add_left hlength start⟩

theorem nameWrites_touch (hcopy : Copies copy) (start pointer : Nat) (name : WString) :
    Touch (nameWrites copy start pointer name) [⟨start, nameSize name⟩, ⟨pointer, 4⟩] := by
  unfold nameWrites nameSize
  split
  · exact (Touch.nil [⟨start, 0⟩]).append (putDword_touch _ _)
  · exact (copy_touch hcopy _ _).append (putDword_touch _ _)

theorem dataWrites_touch (start pointer count : Nat) (data : List UInt8) :
    Touch (dataWrites start pointer count data)
      [⟨start, data.length⟩, ⟨pointer, 4⟩, ⟨count, 4⟩] := by
  have hdata : Touch [(⟨start, data⟩ : Store UInt8)] [⟨start, data.length⟩] := by
    intro w hw
    rw [List.mem_singleton.mp hw]
    exact ⟨_, List.mem_singleton_self _, Nat.le_refl _, Nat.le_refl _⟩
  unfold dataWrites
  split
  · exact (Touch.nil [⟨start, data.length⟩]).append
      ((putDword_touch _ _).append (putDword_touch _ _))
  · exact hdata.append ((putDword_touch _ _).append (putDword_touch _ _))

theorem nameWrites_put (hcopy : Copies copy) (hapart : buffer + member + 4 ≤ start)
    (hname : name ≠ []) :
    (textBlock (member, name)).PutAt (nameWrites copy start (buffer + member) name) buffer
      start := by
  rw [nameWrites, if_neg hname]
  exact put_pair hcopy hapart

theorem nameWrites_null (copy : Nat -> WString -> Store UInt8) (start pointer : Nat) :
    Isolated (nameWrites copy start pointer []) (putDword pointer pointerNull) :=
  isolated_of_pairwise (List.pairwise_singleton _ _) List.mem_cons_self

theorem dataWrites_put (data : List UInt8) {pointer count : Nat} (hpointer : pointer + 4 ≤ count)
    (hcount : buffer + count + 4 ≤ start) :
    (data ≠ [] -> (⟨pointer, data.length, data⟩ : Block).PutAt
      (dataWrites start (buffer + pointer) (buffer + count) data) buffer start) ∧
    Isolated (dataWrites start (buffer + pointer) (buffer + count) data)
      (putDword (buffer + count) (UInt32.ofNat data.length)) ∧
    (data = [] -> Isolated (dataWrites start (buffer + pointer) (buffer + count) data)
      (putDword (buffer + pointer) pointerNull)) := by
  have hmembers : forall value value' : DWORD,
      (putDword (buffer + pointer) value).region.Apart
        (putDword (buffer + count) value').region := by
    intro value value'
    apply Or.inl
    show buffer + pointer + 4 ≤ buffer + count
    omega
  have hbehind : forall (address : Nat) (value : DWORD), address + 4 ≤ start ->
      (⟨start, data⟩ : Store UInt8).region.Apart (putDword address value).region :=
    fun _ _ h => Or.inr h
  by_cases hnone : data = []
  · subst hnone
    have hpair : (dataWrites start (buffer + pointer) (buffer + count) []).Pairwise
        fun w w' => w.region.Apart w'.region :=
      List.pairwise_pair.mpr (hmembers _ _)
    exact ⟨fun hsome => absurd rfl hsome, isolated_of_pairwise hpair (by simp [dataWrites]),
      fun _ => isolated_of_pairwise hpair (by simp [dataWrites])⟩
  · rw [dataWrites, if_neg hnone]
    have hall : [⟨start, data⟩, putDword (buffer + pointer) (UInt32.ofNat start),
          putDword (buffer + count) (UInt32.ofNat data.length)].Pairwise
        fun w w' : Store UInt8 => w.region.Apart w'.region := by
      apply List.Pairwise.cons
      · intro w hw
        rcases List.mem_pair.mp hw with rfl | rfl
        · exact hbehind _ _ (by omega)
        · exact hbehind _ _ hcount
      · exact List.pairwise_pair.mpr (hmembers _ _)
    refine ⟨fun _ => ⟨isolated_of_pairwise hall (by simp), [], ?_, ?_⟩,
      isolated_of_pairwise hall (by simp), fun hdata => absurd hdata hnone⟩
    · exact (congrArg List.length (List.append_nil data)).le
    · rw [List.append_nil]
      exact isolated_of_pairwise hall List.mem_cons_self

theorem textFor_puts
    (h : name ≠ [] -> (textBlock (member, name)).PutAt writes buffer start) :
    List.Forall₂ (fun block start => block.PutAt writes buffer start)
      ((textFor member name).map textBlock)
      (starts start (((textFor member name).map textBlock).map Block.length)) := by
  unfold textFor
  split
  · exact .nil
  · rename_i hname
    exact .cons (h hname) .nil

theorem textFor_sum (member : Nat) (name : WString) :
    (((textFor member name).map textBlock).map Block.length).sum = nameSize name := by
  unfold textFor nameSize
  split
  · rfl
  · exact Nat.add_zero _

theorem dataBlocks_puts {pointer : Nat}
    (h : data ≠ [] -> (⟨pointer, data.length, data⟩ : Block).PutAt writes buffer start) :
    List.Forall₂ (fun block start => block.PutAt writes buffer start)
      (dataBlocks pointer data)
      (starts start ((dataBlocks pointer data).map Block.length)) := by
  unfold dataBlocks
  split
  · exact .nil
  · rename_i hdata
    exact .cons (h hdata) .nil

theorem dataBlocks_sum (pointer : Nat) (data : List UInt8) :
    ((dataBlocks pointer data).map Block.length).sum = data.length := by
  unfold dataBlocks
  split
  · rename_i hnone
    rw [hnone]
    rfl
  · exact Nat.add_zero _

end Putting

/-!
## What the three methods store
-/

/-- What `GetGroupInfo` and `GetPeerInfo` describe, whose structures are laid out alike. -/
def infoDescription (name : WString) (data : List UInt8) : Description where
  fixed := GroupInfoBuffer.sizeof
  texts := textFor GroupInfoBuffer.pwszName name
  pointer := GroupInfoBuffer.pvData
  count := GroupInfoBuffer.dwDataSize
  data := data
  nulls := nullFor GroupInfoBuffer.pwszName name ++ nullFor GroupInfoBuffer.pvData data

theorem infoDescription_total (name : WString) (data : List UInt8) :
    (infoDescription name data).total = 24 + (nameSize name + data.length) := by
  show 24 + (List.map Block.length (List.map textBlock (textFor 8 name) ++
    dataBlocks 12 data)).sum = _
  rw [List.map_append, List.sum_append, textFor_sum, dataBlocks_sum]

section Info

variable {copy : Nat -> WString -> Store UInt8} {buffer : Nat} {name : WString}
  {data : List UInt8} {before behind : List (Store UInt8)}

theorem info_packs (hcopy : Copies copy)
    (hbefore : Touch before [⟨buffer + 4, 4⟩, ⟨buffer + 20, 4⟩])
    (hbehind : Touch behind [⟨buffer + 20, 4⟩]) :
    (infoDescription name data).Packs buffer
      (before ++ nameWrites copy (buffer + 24) (buffer + 8) name ++
        dataWrites (buffer + 24 + nameSize name) (buffer + 12) (buffer + 16) data ++
        behind) := by
  have hnames := nameWrites_touch hcopy (buffer + 24) (buffer + 8) name
  have hdatas := dataWrites_touch (buffer + 24 + nameSize name) (buffer + 12) (buffer + 16)
    data
  have hcount : buffer + 16 + 4 ≤ buffer + 24 + nameSize name := by omega
  have hput := dataWrites_put data (show 12 + 4 ≤ 16 by decide) hcount
  have hassoc : before ++ nameWrites copy (buffer + 24) (buffer + 8) name ++
        dataWrites (buffer + 24 + nameSize name) (buffer + 12) (buffer + 16) data ++ behind =
      before ++ nameWrites copy (buffer + 24) (buffer + 8) name ++
        (dataWrites (buffer + 24 + nameSize name) (buffer + 12) (buffer + 16) data ++
          behind) := List.append_assoc _ _ _
  have hname : name ≠ [] -> nameSize name = (name.length + 1) * 2 := fun h => if_neg h
  constructor
  · apply (((hbefore.append hnames).append hdatas).append hbehind).within
    rw [infoDescription_total]
    simp
    omega
  · show List.Forall₂ _ (List.map textBlock (textFor 8 name) ++ dataBlocks 12 data)
      (starts (buffer + 24) ((List.map textBlock (textFor 8 name) ++
        dataBlocks 12 data).map Block.length))
    rw [List.map_append, starts_append, textFor_sum]
    apply List.rel_append
    · apply textFor_puts
      intro hsome
      rw [hassoc]
      apply (nameWrites_put hcopy (by omega) hsome).between hbefore (hdatas.append hbehind)
      have hsize := hname hsome
      simp [textBlock]
      omega
    · apply dataBlocks_puts
      intro hsome
      apply (hput.1 hsome).between (hbefore.append hnames) hbehind
      simp
      omega
  · apply dword_between hput.2.1 (hbefore.append hnames) hbehind
    simp
  · intro member hmember
    rcases List.mem_append.mp hmember with hmember | hmember
    · rcases mem_nullFor.mp hmember with ⟨rfl, rfl⟩
      rw [hassoc]
      apply dword_between (nameWrites_null copy _ _) hbefore (hdatas.append hbehind)
      simp
      omega
    · rcases mem_nullFor.mp hmember with ⟨rfl, hnone⟩
      apply dword_between (hput.2.2 hnone) (hbefore.append hnames) hbehind
      simp

end Info

theorem groupInfo_packs (group : Group) (buffer : Nat) :
    (infoDescription group.name group.data).Packs buffer
      (DirectPlay8Peer.groupInfoWrites group buffer) := by
  have hbefore : Touch [putDword (buffer + 4) (dpnInfoName ||| dpnInfoData)]
      [⟨buffer + 4, 4⟩, ⟨buffer + 20, 4⟩] :=
    (putDword_touch _ _).append (Touch.nil [⟨buffer + 20, 4⟩])
  exact info_packs wcscpy_copies hbefore (putDword_touch (buffer + 20) 0)

theorem onlyIf_touch {condition : Prop} [Decidable condition] (address : Nat)
    (value : DWORD) :
    Touch (if condition then [putDword address value] else []) [⟨address, 4⟩] := by
  split
  · exact putDword_touch _ _
  · exact Touch.nil _

theorem peerInfo_packs (s : DirectPlay8Peer) (dpnid : DPNID) (name : WString)
    (data : List UInt8) (buffer : Nat) :
    (infoDescription name data).Packs buffer (s.peerInfoWrites dpnid name data buffer) := by
  have hbefore : Touch [putDword (buffer + 4) (dpnInfoName ||| dpnInfoData),
      putDword (buffer + 20) 0] [⟨buffer + 4, 4⟩, ⟨buffer + 20, 4⟩] :=
    (putDword_touch _ _).append (putDword_touch _ _)
  unfold DirectPlay8Peer.peerInfoWrites
  dsimp only
  rw [List.append_assoc _ (if dpnid = s.localPlayerId then _ else _)]
  apply info_packs memcpyText_copies hbefore
  intro w hw
  rcases (onlyIf_touch _ _).append (onlyIf_touch _ _) w hw with ⟨r, hr, hwithin⟩
  rcases List.mem_pair.mp hr with rfl | rfl
  · exact ⟨_, List.mem_singleton_self _, hwithin⟩
  · exact ⟨_, List.mem_singleton_self _, hwithin⟩

section ApplicationDesc

open ApplicationDescBuffer

def applicationDescription (s : DirectPlay8Peer) : Description where
  fixed := sizeof
  texts := (pwszSessionName, s.sessionName) :: textFor pwszPassword s.password
  pointer := pvApplicationReservedData
  count := dwApplicationReservedDataSize
  data := s.applicationData
  nulls :=
    nullFor pwszPassword s.password ++ nullFor pvApplicationReservedData s.applicationData

theorem applicationDescription_total (s : DirectPlay8Peer) :
    (applicationDescription s).total =
      72 + ((s.sessionName.length + 1) * 2 +
        (nameSize s.password + s.applicationData.length)) := by
  show 72 + (List.map Block.length (textBlock (48, s.sessionName) ::
    (List.map textBlock (textFor 52 s.password) ++ dataBlocks 64 s.applicationData))).sum = _
  rw [List.map_cons, List.sum_cons, List.map_append, List.sum_append, textFor_sum,
    dataBlocks_sum]
  rfl

variable {buffer start : Nat} {password : WString}

open DirectPlay8Peer (passwordWrites)

theorem passwordWrites_touch (buffer start : Nat) (password : WString) :
    Touch (passwordWrites buffer start password)
      [⟨start, nameSize password⟩, ⟨buffer + 4, 4⟩, ⟨buffer + 52, 4⟩] := by
  unfold passwordWrites nameSize
  split
  · exact (Touch.nil [⟨start, 0⟩, ⟨buffer + 4, 4⟩]).append
      (putDword_touch _ _)
  · exact (copy_touch wcscpy_copies _ _).append
      ((putDword_touch _ _).append (putDword_touch _ _))

theorem passwordWrites_put (hapart : buffer + 56 ≤ start) (hpassword : password ≠ []) :
    (textBlock (52, password)).PutAt (passwordWrites buffer start password) buffer start := by
  rw [passwordWrites, if_neg hpassword, pwszPassword, dwFlags]
  have hall : [wcscpy start password,
        putDword (buffer + 4) (0 ||| dpnSessionRequirePassword),
        putDword (buffer + 52) (UInt32.ofNat start)].Pairwise
      fun w w' : Store UInt8 => w.region.Apart w'.region := by
    apply List.Pairwise.cons
    · intro w hw
      rcases List.mem_pair.mp hw with rfl | rfl
      · exact Or.inr (show buffer + 4 + 4 ≤ start by omega)
      · exact Or.inr (show buffer + 52 + 4 ≤ start by omega)
    · exact List.pairwise_pair.mpr (Or.inl (show buffer + 4 + 4 ≤ buffer + 52 by omega))
  refine ⟨isolated_of_pairwise hall (by simp [textBlock]), [], ?_, ?_⟩
  · rw [List.append_nil]
    exact terminated_length_le password
  · rw [List.append_nil]
    exact isolated_of_pairwise hall List.mem_cons_self

theorem header_touch (s : DirectPlay8Peer) (buffer : Nat) :
    Touch [putDword (buffer + 4) 0,
      ⟨buffer + 8, s.instanceGuid.toList⟩,
      ⟨buffer + 24, s.applicationGuid.toList⟩,
      putDword (buffer + 40) s.maxPlayers,
      putDword (buffer + 44) (UInt32.ofNat (s.playerToPeerId.size + 1))]
      [⟨buffer + 4, 44⟩] := by
  intro w hw
  refine ⟨_, List.mem_singleton_self _, ?_⟩
  simp only [List.mem_cons, List.not_mem_nil, or_false] at hw
  rcases hw with rfl | rfl | rfl | rfl | rfl <;>
    simp [putDword, Store.region, Region.Within, Region.stop]

theorem description_packs {s : DirectPlay8Peer} {header reserved : List (Store UInt8)}
    {nameAt passwordAt dataAt : Nat} (hnameAt : nameAt = buffer + 72)
    (hpasswordAt : passwordAt = nameAt + (s.sessionName.length + 1) * 2)
    (hdataAt : dataAt = passwordAt + nameSize s.password)
    (hheader : Touch header [⟨buffer + 4, 44⟩])
    (hreserved : Touch reserved [⟨buffer + 56, 8⟩]) :
    (applicationDescription s).Packs buffer
      (header ++
        [wcscpy nameAt s.sessionName, putDword (buffer + 48) (UInt32.ofNat nameAt)] ++
        passwordWrites buffer passwordAt s.password ++ reserved ++
        dataWrites dataAt (buffer + 64) (buffer + 68) s.applicationData) := by
  let nameWrites := [wcscpy nameAt s.sessionName, putDword (buffer + 48) (UInt32.ofNat nameAt)]
  let password := passwordWrites buffer passwordAt s.password
  let data := dataWrites dataAt (buffer + 64) (buffer + 68) s.applicationData
  have hname : Touch nameWrites
      [⟨nameAt, (s.sessionName.length + 1) * 2⟩, ⟨buffer + 48, 4⟩] :=
    (copy_touch wcscpy_copies _ _).append (putDword_touch _ _)
  have hpassword := passwordWrites_touch buffer passwordAt s.password
  have hdata := dataWrites_touch dataAt (buffer + 64) (buffer + 68) s.applicationData
  have hput := dataWrites_put s.applicationData (show 64 + 4 ≤ 68 by decide)
    (show buffer + 68 + 4 ≤ dataAt by omega)
  -- the same stores, around the name, around the password, and around the data
  show (applicationDescription s).Packs buffer
    (header ++ nameWrites ++ password ++ reserved ++ data)
  have haroundName : header ++ nameWrites ++ password ++ reserved ++ data =
      header ++ nameWrites ++ (password ++ (reserved ++ data)) := by
    simp only [List.append_assoc]
  have haroundPassword : header ++ nameWrites ++ password ++ reserved ++ data =
      header ++ nameWrites ++ password ++ (reserved ++ data) := List.append_assoc _ _ _
  have haroundData : header ++ nameWrites ++ password ++ reserved ++ data =
      header ++ nameWrites ++ password ++ reserved ++ data ++ [] := (List.append_nil _).symm
  have hbeforeData := ((hheader.append hname).append hpassword).append hreserved
  constructor
  · apply (hbeforeData.append hdata).within
    rw [applicationDescription_total]
    simp
    omega
  · show List.Forall₂ _ (textBlock (48, s.sessionName) ::
        (List.map textBlock (textFor 52 s.password) ++ dataBlocks 64 s.applicationData))
      (starts (buffer + 72) ((textBlock (48, s.sessionName) ::
        (List.map textBlock (textFor 52 s.password) ++
          dataBlocks 64 s.applicationData)).map Block.length))
    rw [List.map_cons, starts, List.map_append, starts_append, textFor_sum, ← hnameAt]
    apply List.Forall₂.cons
    · rw [haroundName]
      apply (put_pair wcscpy_copies (by omega)).between hheader
        (hpassword.append (hreserved.append hdata))
      simp [textBlock]
      omega
    · apply List.rel_append
      · apply textFor_puts
        intro hsome
        have hsize : nameSize s.password = (s.password.length + 1) * 2 := if_neg hsome
        show Block.PutAt _ _ _ (nameAt + (s.sessionName.length + 1) * 2)
        rw [haroundPassword, ← hpasswordAt]
        apply (passwordWrites_put (by omega) hsome).between (hheader.append hname)
          (hreserved.append hdata)
        simp [textBlock]
        omega
      · apply dataBlocks_puts
        intro hsome
        show Block.PutAt _ _ _ (nameAt + (s.sessionName.length + 1) * 2 +
          nameSize s.password)
        rw [haroundData, ← hpasswordAt, ← hdataAt]
        apply (hput.1 hsome).between hbeforeData (Touch.nil [])
        simp
        omega
  · rw [haroundData]
    apply dword_between hput.2.1 hbeforeData (Touch.nil [])
    simp
    omega
  · intro member hmember
    rcases List.mem_append.mp hmember with hmember | hmember
    · rcases mem_nullFor.mp hmember with ⟨rfl, hnone⟩
      rw [haroundPassword]
      have hnull : Isolated password (putDword (buffer + 52) pointerNull) := by
        show Isolated (passwordWrites buffer passwordAt s.password) _
        rw [passwordWrites, if_pos hnone]
        exact isolated_of_pairwise (List.pairwise_singleton _ _) List.mem_cons_self
      apply dword_between hnull (hheader.append hname) (hreserved.append hdata)
      simp
      omega
    · rcases mem_nullFor.mp hmember with ⟨rfl, hnone⟩
      rw [haroundData]
      apply dword_between (hput.2.2 hnone) hbeforeData (Touch.nil [])
      simp
      omega

theorem applicationDesc_packs (s : DirectPlay8Peer) (buffer : Nat) :
    (applicationDescription s).Packs buffer (s.applicationDescWrites buffer) := by
  have hreserved : Touch [putDword (buffer + 56) pointerNull, putDword (buffer + 60) 0]
      [⟨buffer + 56, 8⟩] := by
    intro w hw
    refine ⟨_, List.mem_singleton_self _, ?_⟩
    rcases List.mem_pair.mp hw with rfl | rfl <;>
      simp [putDword, Store.region, Region.Within, Region.stop]
  apply description_packs rfl rfl ?_ (header_touch s buffer) hreserved
  unfold nameSize
  split <;> rfl

end ApplicationDesc

/-!
## Any of the three methods
-/

inductive InfoCall where
  | getApplicationDesc
  | getGroupInfo (dpnid : DPNID)
  | getPeerInfo (dpnid : DPNID)

namespace InfoCall

def run (s : DirectPlay8Peer) : InfoCall -> Memory -> Nat -> DWORD -> Filling
  | .getApplicationDesc => s.getApplicationDesc
  | .getGroupInfo dpnid => s.getGroupInfo dpnid
  | .getPeerInfo dpnid => s.getPeerInfo dpnid

/-- What a method describes, in a state that permits it. -/
def description (s : DirectPlay8Peer) : InfoCall -> Option Description
  | .getApplicationDesc =>
      if s.state = .hosting ∨ s.state = .connected then some (applicationDescription s)
      else none
  | .getGroupInfo dpnid =>
      if s.state = .new ∨ s.state = .initialised then none
      else (s.getGroupById dpnid).map fun group => infoDescription group.name group.data
  | .getPeerInfo dpnid =>
      (s.playerInfo dpnid).map fun (name, data) => infoDescription name data

def declines : InfoCall -> Nat -> Bool
  | .getPeerInfo _, buffer => buffer == 0
  | _, _ => false

/-- The caller has been given what is described. -/
structure Fills (d : Description) (memory : Memory) (buffer : Nat) (size : DWORD)
    (filling : Filling) : Prop where
  result : filling.result = sOk
  kept : filling.size = size
  filled : d.Filled buffer size memory filling.memory

/-- The caller has been told the size that is required, with which the call succeeds. -/
structure TellsSize (call : InfoCall) (s : DirectPlay8Peer) (d : Description)
    (memory : Memory) (filling : Filling) : Prop where
  result : filling.result = dpnErrBufferTooSmall
  size : filling.size.toNat = d.total
  memory : filling.memory = memory
  again : forall (memory' : Memory) (buffer' : Nat), buffer' ≠ 0 ->
    buffer' + d.total ≤ 2 ^ 32 -> memory'.dword buffer' = UInt32.ofNat d.fixed ->
    Fills d memory' buffer' filling.size (call.run s memory' buffer' filling.size)

section Calls

variable {call : InfoCall} {s : DirectPlay8Peer} {d : Description} {memory : Memory}
  {buffer : Nat} {size : DWORD}

def outcome (call : InfoCall) (d : Description) (memory : Memory) (buffer : Nat)
    (size : DWORD) (writes : List (Store UInt8)) : Filling :=
  if call.declines buffer ∨ size.toNat < d.total then
    ⟨dpnErrBufferTooSmall, memory, UInt32.ofNat d.total⟩
  else ⟨sOk, storeAll memory writes, size⟩

theorem nameSize_eq (name : WString) :
    (name.length + (if name = [] then 0 else 1)) * 2 = nameSize name := by
  unfold nameSize
  split
  · rename_i hnone
    rw [hnone]
    rfl
  · rfl

theorem le_ofNat {n : Nat} (h : n < 2 ^ 32) : UInt32.ofNat n ≤ size ↔ n ≤ size.toNat := by
  rw [UInt32.le_iff_toNat_le, UInt32.toNat_ofNat', Nat.mod_eq_of_lt h]

theorem lt_ofNat {n : Nat} (h : n < 2 ^ 32) : size < UInt32.ofNat n ↔ size.toNat < n := by
  rw [UInt32.lt_iff_toNat_lt, UInt32.toNat_ofNat', Nat.mod_eq_of_lt h]

theorem getApplicationDesc_eq (hstate : s.state = .hosting ∨ s.state = .connected)
    (htotal : (applicationDescription s).total < 2 ^ 32)
    (hsize : 72 ≤ size.toNat -> memory.dword buffer = UInt32.ofNat 72) :
    s.getApplicationDesc memory buffer size =
      outcome .getApplicationDesc (applicationDescription s) memory buffer size
        (s.applicationDescWrites buffer) := by
  have hneeded : s.applicationDescSize = UInt32.ofNat (applicationDescription s).total := by
    rw [applicationDescription_total, ← nameSize_eq]
    unfold DirectPlay8Peer.applicationDescSize
    apply congrArg UInt32.ofNat
    dsimp only [ApplicationDescBuffer.sizeof]
    omega
  have hright : ¬ (ApplicationDescBuffer.sizeof ≤ size.toNat ∧
      memory.dword (buffer + ApplicationDescBuffer.dwSize) ≠
        UInt32.ofNat ApplicationDescBuffer.sizeof) :=
    fun h => h.2 (hsize h.1)
  have hcall : s.getApplicationDesc memory buffer size =
      if s.applicationDescSize ≤ size then
        ⟨sOk, storeAll memory (s.applicationDescWrites buffer), size⟩
      else ⟨dpnErrBufferTooSmall, memory, s.applicationDescSize⟩ := by
    unfold DirectPlay8Peer.getApplicationDesc
    rcases hstate with hstate | hstate
    · rw [hstate]
      exact if_neg hright
    · rw [hstate]
      exact if_neg hright
  rw [hcall, hneeded, outcome]
  by_cases hfits : (applicationDescription s).total ≤ size.toNat
  · rw [if_pos ((le_ofNat htotal).mpr hfits), if_neg]
    simp [declines, hfits]
  · rw [if_neg (mt (le_ofNat htotal).mp hfits), if_pos (Or.inr (Nat.lt_of_not_le hfits))]

theorem getGroupInfo_eq {dpnid : DPNID} {group : Group}
    (hstate : ¬ (s.state = .new ∨ s.state = .initialised))
    (hgroup : s.getGroupById dpnid = some group)
    (htotal : (infoDescription group.name group.data).total < 2 ^ 32)
    (hsize : 24 ≤ size.toNat -> memory.dword buffer = UInt32.ofNat 24) :
    s.getGroupInfo dpnid memory buffer size =
      outcome (.getGroupInfo dpnid) (infoDescription group.name group.data) memory buffer
        size (DirectPlay8Peer.groupInfoWrites group buffer) := by
  have hneeded : DirectPlay8Peer.groupInfoSize group =
      UInt32.ofNat (infoDescription group.name group.data).total := by
    have hdata : (if group.data = [] then 0 else group.data.length) = group.data.length := by
      split
      · rename_i hnone
        rw [hnone]
        rfl
      · rfl
    rw [infoDescription_total, DirectPlay8Peer.groupInfoSize, hdata, Nat.add_assoc]
    rfl
  have hcall : s.getGroupInfo dpnid memory buffer size =
      if size < DirectPlay8Peer.groupInfoSize group then
        ⟨dpnErrBufferTooSmall, memory, DirectPlay8Peer.groupInfoSize group⟩
      else if memory.dword buffer ≠ UInt32.ofNat 24 then ⟨dpnErrInvalidParam, memory, size⟩
      else ⟨sOk, storeAll memory (DirectPlay8Peer.groupInfoWrites group buffer), size⟩ := by
    unfold DirectPlay8Peer.getGroupInfo
    cases hs : s.state with
    | new => exact absurd (Or.inl hs) hstate
    | initialised => exact absurd (Or.inr hs) hstate
    | _ =>
        rw [hgroup]
        rfl
  rw [hcall, hneeded, outcome]
  by_cases hless : size.toNat < (infoDescription group.name group.data).total
  · rw [if_pos ((lt_ofNat htotal).mpr hless), if_pos (Or.inr hless)]
  · have hstructure : 24 ≤ size.toNat := by
      rw [infoDescription_total] at hless
      omega
    rw [if_neg (mt (lt_ofNat htotal).mp hless), if_neg (not_not.mpr (hsize hstructure)),
      if_neg]
    simp [declines, hless]

theorem getPeerInfo_eq {dpnid : DPNID} {name : WString} {data : List UInt8}
    (hplayer : s.playerInfo dpnid = some (name, data))
    (htotal : (infoDescription name data).total < 2 ^ 32)
    (hsize : 24 ≤ size.toNat -> memory.dword buffer = UInt32.ofNat 24) :
    s.getPeerInfo dpnid memory buffer size =
      outcome (.getPeerInfo dpnid) (infoDescription name data) memory buffer size
        (s.peerInfoWrites dpnid name data buffer) := by
  have hneeded : DirectPlay8Peer.peerInfoSize name data =
      UInt32.ofNat (infoDescription name data).total := by
    rw [infoDescription_total, ← nameSize_eq]
    unfold DirectPlay8Peer.peerInfoSize
    apply congrArg UInt32.ofNat
    dsimp only [PlayerInfoBuffer.sizeof]
    omega
  have hright : ¬ (buffer ≠ 0 ∧ PlayerInfoBuffer.sizeof ≤ size.toNat ∧
      memory.dword (buffer + PlayerInfoBuffer.dwSize) ≠
        UInt32.ofNat PlayerInfoBuffer.sizeof) :=
    fun h => h.2.2 (hsize h.2.1)
  unfold DirectPlay8Peer.getPeerInfo outcome
  rw [hplayer]
  dsimp only
  rw [if_neg hright, hneeded]
  by_cases hsmall : buffer = 0 ∨ size.toNat < (infoDescription name data).total
  · rw [if_pos (hsmall.imp_right (lt_ofNat htotal).mpr), if_pos]
    simpa [declines] using hsmall
  · rw [if_neg (mt (Or.imp_right (lt_ofNat htotal).mp) hsmall), if_neg]
    simpa [declines] using hsmall

theorem run_eq (h : call.description s = some d) (htotal : d.total < 2 ^ 32)
    (buffer : Nat) : exists writes, d.Packs buffer writes ∧
      forall (memory : Memory) (size : DWORD),
        (d.fixed ≤ size.toNat -> memory.dword buffer = UInt32.ofNat d.fixed) ->
        call.run s memory buffer size = outcome call d memory buffer size writes := by
  cases call with
  | getApplicationDesc =>
      rw [description] at h
      split at h
      · rename_i hstate
        cases h
        exact ⟨_, applicationDesc_packs s buffer,
          fun _ _ => getApplicationDesc_eq hstate htotal⟩
      · cases h
  | getGroupInfo dpnid =>
      rw [description] at h
      split at h
      · cases h
      · rename_i hstate
        rcases Option.map_eq_some_iff.mp h with ⟨group, hgroup, rfl⟩
        exact ⟨_, groupInfo_packs group buffer,
          fun _ _ => getGroupInfo_eq hstate hgroup htotal⟩
  | getPeerInfo dpnid =>
      rcases Option.map_eq_some_iff.mp h with ⟨⟨name, data⟩, hplayer, rfl⟩
      exact ⟨_, peerInfo_packs s dpnid name data buffer,
        fun _ _ => getPeerInfo_eq hplayer htotal⟩

theorem run_fills (h : call.description s = some d) (htotal : d.total < 2 ^ 32)
    (hdeclines : call.declines buffer = false) (hfits : d.total ≤ size.toNat)
    (hbuffer : buffer + size.toNat ≤ 2 ^ 32)
    (hright : memory.dword buffer = UInt32.ofNat d.fixed) :
    Fills d memory buffer size (call.run s memory buffer size) := by
  rcases run_eq h htotal buffer with ⟨writes, hpacks, hrun⟩
  have hcondition : ¬ (call.declines buffer = true ∨ size.toNat < d.total) := by
    rw [hdeclines]
    exact fun hsmall => Nat.not_lt_of_le hfits (hsmall.resolve_left Bool.false_ne_true)
  rw [hrun memory size fun _ => hright, outcome, if_neg hcondition]
  exact ⟨rfl, rfl, hpacks.filled hfits hbuffer⟩

/--
The three methods tell the size that is required and leave the buffer alone, or they fill
it in; with the size they tell, they succeed.
-/
theorem info_buffers (call : InfoCall) (s : DirectPlay8Peer) (d : Description)
    (h : call.description s = some d) (htotal : d.total < 2 ^ 32) (memory : Memory)
    (buffer : Nat) (size : DWORD) (hbuffer : buffer + size.toNat ≤ 2 ^ 32)
    (hright : d.fixed ≤ size.toNat -> memory.dword buffer = UInt32.ofNat d.fixed) :
    TellsSize call s d memory (call.run s memory buffer size) ∨
      Fills d memory buffer size (call.run s memory buffer size) := by
  rcases run_eq h htotal buffer with ⟨writes, hpacks, hrun⟩
  have htold : (UInt32.ofNat d.total).toNat = d.total := by
    rw [UInt32.toNat_ofNat', Nat.mod_eq_of_lt htotal]
  rw [hrun memory size hright, outcome]
  split
  · left
    constructor
    · rfl
    · exact htold
    · rfl
    · intro memory' buffer' hnonnull hroom hright'
      apply run_fills h htotal ?_ htold.ge ?_ hright'
      · cases call <;> first | rfl | exact beq_false_of_ne hnonnull
      · show buffer' + (UInt32.ofNat d.total).toNat ≤ 2 ^ 32
        rw [htold]
        exact hroom
  · rename_i hlarge
    right
    have hfits : d.total ≤ size.toNat := Nat.le_of_not_lt fun hless => hlarge (Or.inr hless)
    exact ⟨rfl, rfl, hpacks.filled hfits hbuffer⟩

end Calls

/-- A session with a name, a password and data. -/
def describedSession : DirectPlay8Peer :=
  { DirectPlay8Peer.zeroed with
    state := .hosting
    sessionName := [65]
    password := [66, 67]
    applicationData := [1, 2, 3] }

/-- A memory with the size of the structure at the address of a buffer. -/
def describedMemory : Memory := fun address => if address = 4096 then 72 else 0

/-- A buffer that is large enough for the session is filled in. -/
theorem info_buffers_session :
    exists d, InfoCall.description describedSession .getApplicationDesc = some d ∧
      d.total = 85 ∧ d.data = [1, 2, 3] ∧
      Fills d describedMemory 4096 100
        (InfoCall.run describedSession .getApplicationDesc describedMemory 4096 100) := by
  refine ⟨_, rfl, by decide, rfl, ?_⟩
  have hanswer := info_buffers .getApplicationDesc describedSession _ rfl (by decide)
    describedMemory 4096 100 (by decide) (fun _ => by decide)
  rcases hanswer with htold | hfilled
  · exact absurd htold.result (by decide)
  · exact hfilled

end InfoCall

end DirectPlayLite
