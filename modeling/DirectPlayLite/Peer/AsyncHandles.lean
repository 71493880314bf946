import DirectPlayLite.Lib.TaggedCounters
import DirectPlayLite.Lib.Monitor.Traces
import DirectPlayLite.Peer.Machine

/-!
# Handles of asynchronous operations

`AsyncHandleAllocator` has a counter of 29 bits for each of eight types of operations,
and puts the type into the three bits above it, where `CancelAsyncOperation` looks.
-/

namespace DirectPlayLite

open Monitor Tagged

def HandleType.index : HandleType -> Nat
  | .enum => 0
  | .connect => 1
  | .send => 2
  | .pinfo => 3
  | .cgroup => 4
  | .dgroup => 5
  | .apgroup => 6
  | .rpgroup => 7

namespace HandleType

theorem index_lt (type : HandleType) : type.index < 2 ^ 3 := by
  cases type <;> decide

theorem index_inj {type type' : HandleType} (h : type.index = type'.index) :
    type = type' := by
  cases type <;> cases type' <;> first | rfl | cases h

end HandleType

namespace HandleAllocator

def constructed : HandleAllocator := ⟨1, 1, 1, 1, 1, 1, 1, 1⟩

def newHandle (alloc : HandleAllocator) (type : HandleType) :
    DPNHANDLE × HandleAllocator :=
  (alloc.handle type, alloc.advance type)

def allocate : HandleAllocator -> List HandleType -> List DPNHANDLE
  | _, [] => []
  | alloc, type :: types =>
      (alloc.newHandle type).1 :: allocate (alloc.newHandle type).2 types

/-!
## The counters
-/

section Counters

variable {alloc : HandleAllocator} {type : HandleType} {types : List HandleType}
  {counts : HandleType -> Nat} {i : Nat} {h : DPNHANDLE}

theorem typeBits_toNat (type : HandleType) :
    (typeBits type).toNat = 2 ^ 29 * type.index := by
  cases type <;> rfl

theorem bump_toNat (counter : DPNHANDLE) :
    (bump counter).toNat = following 29 counter.toNat := by
  have hlow : ((counter + 1) &&& ~~~typeMask).toNat = (counter.toNat + 1) % 2 ^ 29 := by
    have hmask : (~~~typeMask).toNat = 2 ^ 29 - 1 := rfl
    rw [UInt32.toNat_and, hmask, Nat.and_two_pow_sub_one_eq_mod, UInt32.toNat_add]
    exact Nat.mod_mod_of_dvd _ (by decide)
  unfold bump following
  rw [← hlow]
  by_cases hzero : (counter + 1) &&& ~~~typeMask = 0
  · rw [if_pos hzero, hzero]
    rfl
  · have hnat : ((counter + 1) &&& ~~~typeMask).toNat ≠ 0 :=
      fun hnat => hzero (UInt32.toNat_inj.mp hnat)
    rw [if_neg hzero, if_neg hnat]

theorem handle_toNat :
    (alloc.handle type).toNat = number 29 type.index (alloc.next type).toNat := by
  rw [handle, UInt32.toNat_or, typeBits_toNat, Nat.or_comm]
  rfl

theorem next_advance (type other : HandleType) :
    (alloc.advance type).next other =
      if type = other then bump (alloc.next other) else alloc.next other := by
  cases type <;> cases other <;> rfl

def Taken (alloc : HandleAllocator) (counts : HandleType -> Nat) : Prop :=
  forall type, (alloc.next type).toNat = reading 29 (counts type)

theorem constructed_taken : constructed.Taken fun _ => 0 := by
  intro type
  cases type <;> rfl

theorem Taken.advance (htaken : alloc.Taken counts) (type : HandleType) :
    (alloc.advance type).Taken fun other =>
      if type = other then counts other + 1 else counts other := by
  intro other
  dsimp only
  rw [next_advance]
  by_cases hsame : type = other
  · rw [if_pos hsame, if_pos hsame, bump_toNat, htaken, following_reading (by decide)]
  · rw [if_neg hsame, if_neg hsame, htaken]

theorem allocate_toNat (htaken : alloc.Taken counts) (htype : types[i]? = some type)
    (hhandle : (alloc.allocate types)[i]? = some h) :
    h.toNat = number 29 type.index
      (reading 29 (counts type + (types.take i).count type)) := by
  induction types generalizing alloc counts i with
  | nil => cases htype
  | cons first rest ih =>
      cases i with
      | zero =>
          cases htype
          cases hhandle
          rw [newHandle, handle_toNat, htaken]
          rfl
      | succ i =>
          rw [ih (htaken.advance first) htype hhandle, List.take_succ_cons, List.count_cons]
          by_cases hsame : first = type
          · rw [if_pos hsame, if_pos (beq_iff_eq.mpr hsame)]
            congr 2
            omega
          · rw [if_neg hsame, if_neg fun hbeq => hsame (beq_iff_eq.mp hbeq), Nat.add_zero]

theorem constructed_allocate (htype : types[i]? = some type)
    (hhandle : (constructed.allocate types)[i]? = some h) :
    h.toNat = number 29 type.index (reading 29 ((types.take i).count type)) := by
  rw [allocate_toNat constructed_taken htype hhandle, Nat.zero_add]

theorem allocate_length (alloc : HandleAllocator) (types : List HandleType) :
    (alloc.allocate types).length = types.length := by
  induction types generalizing alloc with
  | nil => rfl
  | cons first rest ih => exact congrArg (· + 1) (ih _)

theorem exists_type (hhandle : (alloc.allocate types)[i]? = some h) :
    exists type, types[i]? = some type := by
  have hlt := (List.getElem?_eq_some_iff.mp hhandle).1
  rw [allocate_length] at hlt
  exact ⟨_, List.getElem?_eq_getElem hlt⟩

theorem exists_handle (alloc : HandleAllocator) (htype : types[i]? = some type) :
    exists h, (alloc.allocate types)[i]? = some h := by
  have hlt := (List.getElem?_eq_some_iff.mp htype).1
  rw [← allocate_length alloc] at hlt
  exact ⟨_, List.getElem?_eq_getElem hlt⟩

end Counters

/-!
## The allocator of an object
-/

def allocatedType : StepLabel -> Option HandleType
  | .exec _ (.allocHandle type) => some type
  | _ => none

def allocatedTypes (past : Past DirectPlay8Peer Command Query Answer Proc Fault) :
    List HandleType :=
  (past.filterMap fun deed => allocatedType deed.2).reverse

theorem apply_handleAlloc (command : Command) (s : DirectPlay8Peer) :
    (command.apply s).handleAlloc =
      (match command with
        | .allocHandle type => s.handleAlloc.advance type
        | _ => s.handleAlloc) := by
  cases command with
  | peer peerId change =>
      show (Command.applyPeer s peerId change).handleAlloc = s.handleAlloc
      unfold Command.applyPeer
      split <;> rfl
  | setSocket which sock => cases which <;> rfl
  | session change => cases change <;> rfl
  | connect change => cases change <;> rfl
  | «local» change => cases change <;> rfl
  | _ => rfl

theorem run_handleAlloc {past : Past DirectPlay8Peer Command Query Answer Proc Fault}
    {c : Run} (h : Traced machine DirectPlay8Peer.Constructed past c) :
    c.state.handleAlloc = (allocatedTypes past).foldl advance constructed := by
  refine Traced.always (I := fun s past =>
    s.handleAlloc = (allocatedTypes past).foldl advance constructed) ?_ ?_ ?_ h
  · intro s hs
    exact hs.handleAlloc
  · intro past c c' p command _ _ hsame
    show (command.apply c.state).handleAlloc = _
    rw [apply_handleAlloc]
    cases command with
    | allocHandle type =>
        rw [hsame]
        simp [allocatedTypes, allocatedType]
    | _ => exact hsame
  · intro s past label hlabel hsame
    have hnone : allocatedType label = none := by
      unfold allocatedType
      split
      · exact absurd rfl (hlabel _ _)
      · rfl
    rw [hsame, allocatedTypes, allocatedTypes, List.filterMap_cons, hnone]

theorem allocate_append {alloc : HandleAllocator} {types : List HandleType}
    {type : HandleType} :
    alloc.allocate (types ++ [type]) =
      alloc.allocate types ++ [(types.foldl advance alloc).handle type] := by
  induction types generalizing alloc with
  | nil => rfl
  | cons first rest ih => exact congrArg (_ :: ·) ih

theorem run_handle {past : Past DirectPlay8Peer Command Query Answer Proc Fault}
    {c : Run} (h : Traced machine DirectPlay8Peer.Constructed past c) (type : HandleType) :
    constructed.allocate (allocatedTypes past ++ [type]) =
      constructed.allocate (allocatedTypes past) ++ [c.state.handleAlloc.handle type] := by
  rw [allocate_append, run_handleAlloc h]

/-!
## Impossible values
-/

theorem exists_count_take {α : Type} [BEq α] [LawfulBEq α] {list : List α} {a : α}
    (count : Nat) (h : count < list.count a) :
    exists i, list[i]? = some a ∧ (list.take i).count a = count := by
  induction list generalizing count with
  | nil => cases h
  | cons head rest ih =>
      rw [List.count_cons] at h
      by_cases hsame : (head == a) = true
      · rw [if_pos hsame] at h
        cases count with
        | zero => exact ⟨0, congrArg some (beq_iff_eq.mp hsame), rfl⟩
        | succ count =>
            rcases ih _ (Nat.lt_of_succ_lt_succ h) with ⟨i, hget, hcount⟩
            refine ⟨i + 1, hget, ?_⟩
            rw [List.take_succ_cons, List.count_cons, if_pos hsame, hcount]
      · rw [if_neg hsame, Nat.add_zero] at h
        rcases ih _ h with ⟨i, hget, hcount⟩
        refine ⟨i + 1, hget, ?_⟩
        rw [List.take_succ_cons, List.count_cons, if_neg hsame, Nat.add_zero, hcount]

theorem count_take_lt {α : Type} [BEq α] [LawfulBEq α] {list : List α} {a : α} {i : Nat}
    (h : list[i]? = some a) : (list.take i).count a < list.count a := by
  have hnext : (list.take (i + 1)).count a = (list.take i).count a + 1 := by
    rw [List.take_add_one, h, List.count_append]
    simp
  have hle := (List.take_sublist (i + 1) list).count_le a
  rw [hnext] at hle
  exact hle

/-- The two values with a meaning of their own are not handles. -/
def Possible (h : DPNHANDLE) : Prop := h ≠ 0x00000000 ∧ h ≠ 0xFFFFFFFF

theorem possible_iff {h : DPNHANDLE} {type : HandleType} {count : Nat}
    (hmade : h.toNat = number 29 type.index (reading 29 count)) :
    Possible h ↔ ¬ (type = .rpgroup ∧ reading 29 count = 2 ^ 29 - 1) := by
  have hlt : reading 29 count < 2 ^ 29 := reading_lt (by decide)
  have hpos : 0 < reading 29 count := Nat.succ_pos _
  have hzero : h ≠ 0x00000000 := by
    intro hzero
    rw [hzero, number_eq_add hlt] at hmade
    have hnat : (0x00000000 : DPNHANDLE).toNat = 0 := rfl
    omega
  have hlast : h = 0xFFFFFFFF ↔ type = .rpgroup ∧ reading 29 count = 2 ^ 29 - 1 := by
    have hnat : (0xFFFFFFFF : DPNHANDLE).toNat = number 29 7 (2 ^ 29 - 1) := rfl
    rw [← UInt32.toNat_inj, hmade, hnat, number_inj hlt (by decide)]
    constructor
    · intro hsame
      exact ⟨HandleType.index_inj hsame.1, hsame.2⟩
    · intro hsame
      rw [hsame.1]
      exact ⟨rfl, hsame.2⟩
  rw [Possible, ← hlast]
  exact ⟨fun hboth => hboth.2, fun hother => ⟨hzero, hother⟩⟩

/-- The handles are as the header declares them until the last type has been used up. -/
theorem handles_possible_iff (types : List HandleType) :
    (forall h, h ∈ constructed.allocate types -> Possible h) ↔
      types.count .rpgroup < 2 ^ 29 - 1 := by
  constructor
  · intro hpossible
    apply Nat.lt_of_not_le
    intro hmany
    rcases exists_count_take (2 ^ 29 - 2) hmany with ⟨i, htype, hcount⟩
    rcases exists_handle constructed htype with ⟨h, hhandle⟩
    have hmade := constructed_allocate htype hhandle
    rw [hcount] at hmade
    exact (possible_iff hmade).mp (hpossible h (List.mem_of_getElem? hhandle)) ⟨rfl, rfl⟩
  · intro hfew h hmem
    rcases List.mem_iff_getElem?.mp hmem with ⟨i, hhandle⟩
    rcases exists_type hhandle with ⟨type, htype⟩
    apply (possible_iff (constructed_allocate htype hhandle)).mpr
    rintro ⟨rfl, hreading⟩
    have hmod := Nat.mod_le ((types.take i).count .rpgroup) (period 29)
    have hless := count_take_lt htype
    unfold reading at hreading
    omega

/-- The last handle of the last type is the second of the two values. -/
theorem handles_not_possible :
    ¬ forall (types : List HandleType) (h : DPNHANDLE),
      h ∈ constructed.allocate types -> Possible h := by
  intro hclaim
  have hlast : forall count, (List.replicate (count + 1) HandleType.rpgroup)[count]? =
      some .rpgroup := fun count => List.getElem?_replicate_of_lt (Nat.lt_succ_self count)
  have htype := hlast (2 ^ 29 - 2)
  rcases exists_handle constructed htype with ⟨h, hhandle⟩
  have hmade := constructed_allocate htype hhandle
  rw [List.take_replicate, List.count_replicate_self, Nat.min_eq_left (Nat.le_succ _)] at hmade
  exact (possible_iff hmade).mp (hclaim _ h (List.mem_of_getElem? hhandle)) ⟨rfl, rfl⟩

/-!
## Types and operations
-/

/-- How many handles of a type are allocated from one allocation to another. -/
def between (types : List HandleType) (i j : Nat) (type : HandleType) : Nat :=
  ((types.drop i).take (j - i)).count type

end HandleAllocator

namespace Action

def cancelIn (handle : DPNHANDLE) (type : HandleType) : Action Unit := do
  let s ← get
  match type with
  | .enum =>
      if s.asyncHostEnums.contains handle then returns .cancelAsyncOperation sOk
      else returns .cancelAsyncOperation dpnErrInvalidHandle
  | .connect =>
      if handle ≠ s.connectHandle then
        returns .cancelAsyncOperation dpnErrInvalidHandle
      else if s.state = .connectingToHost ∨ s.state = .connectingToPeers then do
        invoke (.connectFail dpnErrUserCancel [])
        returns .cancelAsyncOperation sOk
      else returns .cancelAsyncOperation dpnErrCannotCancel
  | .send => do
      perform (.udpRemoveQueued handle)
      if s.udpSq.handleIsPending handle then
        returns .cancelAsyncOperation dpnErrCannotCancel
      else
        cancelSend handle ((s.udpSq.removeQueuedByHandle handle).map Prod.fst) s.peers.keys
  | .pinfo | .cgroup | .dgroup | .apgroup | .rpgroup =>
      returns .cancelAsyncOperation dpnErrInvalidHandle

def CancelsHandle (flags : DWORD) : Prop :=
  hasFlag flags dpnCancelPlayerSends = false ∧
    hasFlag flags (dpnCancelEnum ||| dpnCancelConnect ||| dpnCancelAllOperations) = false

theorem cancelAsyncOperation_type {handle : DPNHANDLE} {flags : DWORD} {type : HandleType}
    (hflags : CancelsHandle flags)
    (htype : handle &&& HandleAllocator.typeMask = HandleAllocator.typeBits type) :
    cancelAsyncOperation handle flags = cancelIn handle type := by
  unfold cancelAsyncOperation
  simp only [hflags.1, hflags.2, htype, decide_eq_true_eq]
  cases type <;> rfl

end Action

namespace HandleAllocator

/-- What the handles of a new allocator tell of the operations they are for. -/
structure HandlesTell (types : List HandleType) : Prop where
  masked : forall (i : Nat) (type : HandleType) (h : DPNHANDLE), types[i]? = some type ->
    (constructed.allocate types)[i]? = some h -> h &&& typeMask = typeBits type
  apart : forall (i j : Nat) (type type' : HandleType) (h : DPNHANDLE),
    types[i]? = some type -> types[j]? = some type' ->
    (constructed.allocate types)[i]? = some h ->
    (constructed.allocate types)[j]? = some h -> type = type'
  cycle : forall (i j : Nat) (type : HandleType) (h h' : DPNHANDLE), i ≤ j ->
    types[i]? = some type -> types[j]? = some type ->
    (constructed.allocate types)[i]? = some h ->
    (constructed.allocate types)[j]? = some h' ->
      (h = h' ↔ 2 ^ 29 - 1 ∣ between types i j type)
  /-- Within the window, the handle is that of one allocation. -/
  single : forall (i j : Nat) (type : HandleType) (h : DPNHANDLE), i ≤ j ->
    types[i]? = some type -> types[j]? = some type ->
    (constructed.allocate types)[i]? = some h ->
    (constructed.allocate types)[j]? = some h ->
    between types i j type < 2 ^ 29 - 1 -> i = j
  /-- `CancelAsyncOperation` looks in the table of the type. -/
  cancels : forall (i : Nat) (type : HandleType) (h : DPNHANDLE) (flags : DWORD),
    types[i]? = some type -> (constructed.allocate types)[i]? = some h ->
    Action.CancelsHandle flags ->
      Action.cancelAsyncOperation h flags = Action.cancelIn h type

section Telling

variable {types : List HandleType} {type : HandleType} {i j : Nat} {h h' : DPNHANDLE}

theorem handle_masked (htype : types[i]? = some type)
    (hhandle : (constructed.allocate types)[i]? = some h) :
    h &&& typeMask = typeBits type := by
  apply UInt32.toNat_inj.mp
  rw [UInt32.toNat_and, constructed_allocate htype hhandle, typeBits_toNat]
  exact number_and_mask (reading_lt (by decide)) type.index_lt

theorem count_take_between (hle : i ≤ j) :
    (types.take j).count type = (types.take i).count type + between types i j type := by
  rw [between, ← List.count_append, ← List.take_add, Nat.add_sub_of_le hle]

theorem handle_cycle (hle : i ≤ j) (htype : types[i]? = some type)
    (htype' : types[j]? = some type)
    (hhandle : (constructed.allocate types)[i]? = some h)
    (hhandle' : (constructed.allocate types)[j]? = some h') :
    h = h' ↔ 2 ^ 29 - 1 ∣ between types i j type := by
  have hsame : h = h' ↔ reading 29 ((types.take i).count type) =
      reading 29 ((types.take j).count type) := by
    rw [← UInt32.toNat_inj, constructed_allocate htype hhandle,
      constructed_allocate htype' hhandle',
      number_inj (reading_lt (by decide)) (reading_lt (by decide))]
    exact ⟨And.right, fun hreading => ⟨rfl, hreading⟩⟩
  rw [hsame, count_take_between hle, reading_eq_iff (Nat.le_add_right _ _),
    Nat.add_sub_cancel_left]
  rfl

theorem between_pos (hlt : i < j) (htype : types[i]? = some type) :
    0 < between types i j type := by
  have hearlier : (types.take j)[i]? = some type :=
    (List.getElem?_take_of_lt hlt).trans htype
  have hless := count_take_lt hearlier
  rw [List.take_take, Nat.min_eq_left (Nat.le_of_lt hlt),
    count_take_between (Nat.le_of_lt hlt)] at hless
  exact Nat.pos_of_lt_add_right hless

theorem handles_tell (types : List HandleType) : HandlesTell types where
  masked := fun _ _ _ => handle_masked
  apart := by
    intro i j type type' h htype htype' hhandle hhandle'
    have hmade := constructed_allocate htype hhandle
    rw [constructed_allocate htype' hhandle',
      number_inj (reading_lt (by decide)) (reading_lt (by decide))] at hmade
    exact (HandleType.index_inj hmade.1).symm
  cycle := fun _ _ _ _ _ => handle_cycle
  single := by
    intro i j type h hle htype htype' hhandle hhandle' hfew
    rcases Nat.lt_or_eq_of_le hle with hlt | rfl
    · have hdvd := (handle_cycle hle htype htype' hhandle hhandle').mp rfl
      exact absurd (Nat.le_of_dvd (between_pos hlt htype) hdvd) (Nat.not_le_of_lt hfew)
    · rfl
  cancels := fun _ _ _ _ htype hhandle hflags =>
    Action.cancelAsyncOperation_type hflags (handle_masked htype hhandle)

end Telling

end HandleAllocator

end DirectPlayLite
