import DirectPlayLite.Lib.SwapRemove
import Mathlib.Data.List.Induction
import Mathlib.Data.Multiset.AddSub

/-!
# The handles of a pool

A `HandleHandlingPool` keeps its handles and their callbacks in two vectors, with
`spin_workers` in front of every block, and gives each block to its own workers.
-/

namespace DirectPlayLite

open SwapRemove

def maximumWaitObjects : Nat := 64

structure HandleHandlingPool (Handle Callback : Type) where
  threadsPerPool : Nat
  /-- The length of a block, `spin_workers` included. -/
  maxHandlesPerPool : Nat
  spinWorkers : Handle
  handles : List Handle
  callbacks : List Callback

inductive PoolRequest (Handle Callback : Type) where
  | addHandle (handle : Handle) (callback : Callback)
  | removeHandle (handle : Handle)

variable {Handle Callback : Type}

def PoolRequest.handle : PoolRequest Handle Callback -> Handle
  | addHandle handle _ => handle
  | removeHandle handle => handle

namespace HandleHandlingPool

/-- The constructor; both arguments are checked. -/
def create (threadsPerPool maxHandlesPerPool : Nat) (spinWorkers : Handle) :
    Option (HandleHandlingPool Handle Callback) :=
  if threadsPerPool < 1 then none
  else if maxHandlesPerPool < 1 ∨ maximumWaitObjects ≤ maxHandlesPerPool then none
  else some
    { threadsPerPool
      maxHandlesPerPool := maxHandlesPerPool + 1
      spinWorkers, handles := [], callbacks := [] }

def opensBlock (pool : HandleHandlingPool Handle Callback) : Prop :=
  pool.handles.length % pool.maxHandlesPerPool = 0

instance (pool : HandleHandlingPool Handle Callback) :
    Decidable pool.opensBlock :=
  inferInstanceAs (Decidable (_ = _))

def addHandle (abort : Callback) (pool : HandleHandlingPool Handle Callback)
    (handle : Handle) (callback : Callback) :
    HandleHandlingPool Handle Callback :=
  if pool.opensBlock then
    { pool with
      handles := pool.handles ++ [pool.spinWorkers] ++ [handle]
      callbacks := pool.callbacks ++ [abort] ++ [callback] }
  else
    { pool with
      handles := pool.handles ++ [handle]
      callbacks := pool.callbacks ++ [callback] }

section Removing

variable [DecidableEq Handle]

/-- Drop a `spin_workers` which has lost the last handle of its block. -/
def dropSeparator (pool : HandleHandlingPool Handle Callback) :
    HandleHandlingPool Handle Callback :=
  if pool.handles.getLast? = some pool.spinWorkers then
    { pool with
      handles := pool.handles.dropLast
      callbacks := pool.callbacks.dropLast }
  else pool

def removeHandle (pool : HandleHandlingPool Handle Callback) (handle : Handle) :
    HandleHandlingPool Handle Callback :=
  let removeIndex := pool.handles.findIdx (· == handle)
  if pool.handles.length ≤ removeIndex then pool
  else
    let pool := pool.dropSeparator
    { pool with
      handles := swapRemove pool.handles removeIndex
      callbacks := swapRemove pool.callbacks removeIndex }

def request (abort : Callback) (pool : HandleHandlingPool Handle Callback) :
    PoolRequest Handle Callback -> HandleHandlingPool Handle Callback
  | .addHandle handle callback => pool.addHandle abort handle callback
  | .removeHandle handle => pool.removeHandle handle

def run (abort : Callback) (pool : HandleHandlingPool Handle Callback)
    (history : List (PoolRequest Handle Callback)) :
    HandleHandlingPool Handle Callback :=
  history.foldl (request abort) pool

end Removing

/-- The number of handles a worker waits for. -/
def numHandles (pool : HandleHandlingPool Handle Callback) (base : Nat) : Nat :=
  min (pool.handles.length - base) pool.maxHandlesPerPool

def waitRange (pool : HandleHandlingPool Handle Callback) (base : Nat) :
    List Handle :=
  (pool.handles.drop base).take (pool.numHandles base)

def slots (pool : HandleHandlingPool Handle Callback) :
    List (Handle × Callback) :=
  pool.handles.zip pool.callbacks

/-- The pairs at the indexes which are no multiples of the length of a block. -/
def registered (pool : HandleHandlingPool Handle Callback) :
    List (Handle × Callback) :=
  (pool.slots.zipIdx.filter fun slot =>
    ¬ pool.maxHandlesPerPool ∣ slot.2).map Prod.fst

/-!
## Layout
-/

/-- `spin_workers` stands at the multiples of the length of a block. -/
structure Layout (pool : HandleHandlingPool Handle Callback) : Prop where
  two_le : 2 ≤ pool.maxHandlesPerPool
  aligned : pool.handles.length = pool.callbacks.length
  separators : forall (index : Nat) (handle : Handle),
    pool.handles[index]? = some handle ->
    (handle = pool.spinWorkers ↔ pool.maxHandlesPerPool ∣ index)

theorem create_eq_some {threadsPerPool maxHandlesPerPool : Nat}
    {spinWorkers : Handle} {pool : HandleHandlingPool Handle Callback}
    (h : create threadsPerPool maxHandlesPerPool spinWorkers = some pool) :
    1 ≤ threadsPerPool ∧ 1 ≤ maxHandlesPerPool ∧
      maxHandlesPerPool < maximumWaitObjects ∧
      pool =
        { threadsPerPool
          maxHandlesPerPool := maxHandlesPerPool + 1
          spinWorkers, handles := [], callbacks := [] } := by
  unfold create at h
  split at h
  · cases h
  · split at h
    · cases h
    · cases h
      exact ⟨by omega, by omega, by omega, rfl⟩

theorem create_layout {threadsPerPool maxHandlesPerPool : Nat}
    {spinWorkers : Handle} {pool : HandleHandlingPool Handle Callback}
    (h : create threadsPerPool maxHandlesPerPool spinWorkers = some pool) :
    pool.Layout := by
  obtain ⟨hthreads, hone, hmax, rfl⟩ := create_eq_some h
  constructor
  · exact Nat.succ_le_succ hone
  · rfl
  · intro index handle hhandle
    cases hhandle

theorem Layout.concat {pool : HandleHandlingPool Handle Callback}
    (h : pool.Layout) {handle : Handle} {callback : Callback}
    (hplace : handle = pool.spinWorkers ↔
      pool.maxHandlesPerPool ∣ pool.handles.length) :
    Layout { pool with
      handles := pool.handles ++ [handle]
      callbacks := pool.callbacks ++ [callback] } := by
  constructor
  · exact h.two_le
  · show (pool.handles ++ [handle]).length =
      (pool.callbacks ++ [callback]).length
    rw [List.length_append, List.length_append, h.aligned]
    rfl
  · intro index other hother
    replace hother : (pool.handles ++ [handle])[index]? = some other := hother
    rw [List.getElem?_append] at hother
    split at hother
    · exact h.separators index other hother
    · have hindex : index = pool.handles.length := by
        have hlt := (List.getElem?_eq_some_iff.mp hother).1
        rw [List.length_singleton] at hlt
        omega
      subst hindex
      rw [Nat.sub_self] at hother
      cases hother
      exact hplace

theorem Layout.addHandle {pool : HandleHandlingPool Handle Callback}
    (h : pool.Layout) (abort : Callback) {handle : Handle}
    (hhandle : handle ≠ pool.spinWorkers) (callback : Callback) :
    (pool.addHandle abort handle callback).Layout := by
  unfold HandleHandlingPool.addHandle
  split
  · rename_i hopens
    have hdvd : pool.maxHandlesPerPool ∣ pool.handles.length :=
      Nat.dvd_of_mod_eq_zero hopens
    have hspin : Layout { pool with
        handles := pool.handles ++ [pool.spinWorkers]
        callbacks := pool.callbacks ++ [abort] } :=
      h.concat (iff_of_true rfl hdvd)
    refine hspin.concat (iff_of_false hhandle ?_)
    show ¬ pool.maxHandlesPerPool ∣ (pool.handles ++ [pool.spinWorkers]).length
    rw [List.length_append, List.length_singleton, Nat.dvd_add_right hdvd,
      Nat.dvd_one]
    have htwo := h.two_le
    omega
  · rename_i hroom
    refine h.concat (iff_of_false hhandle ?_)
    intro hdvd
    exact hroom (Nat.mod_eq_zero_of_dvd hdvd)

theorem slots_concat {pool : HandleHandlingPool Handle Callback}
    (h : pool.Layout) {handle : Handle}
    (hlast : pool.handles.getLast? = some handle) :
    exists callback, pool.slots =
      pool.handles.dropLast.zip pool.callbacks.dropLast ++ [(handle, callback)] := by
  have haligned := h.aligned
  obtain ⟨before, hbefore⟩ := List.getLast?_eq_some_iff.mp hlast
  unfold slots
  rw [hbefore] at haligned ⊢
  rcases List.eq_nil_or_concat' pool.callbacks with hnone | ⟨callbacks, callback, hcallbacks⟩
  · rw [hnone] at haligned
    simp at haligned
  · rw [hcallbacks] at haligned ⊢
    refine ⟨callback, ?_⟩
    rw [List.dropLast_concat, List.dropLast_concat, List.zip_append]
    · rfl
    · simpa using haligned

section Removing

variable [DecidableEq Handle]

theorem dropSeparator_maxHandlesPerPool
    (pool : HandleHandlingPool Handle Callback) :
    pool.dropSeparator.maxHandlesPerPool = pool.maxHandlesPerPool := by
  unfold dropSeparator
  split <;> rfl

theorem dropSeparator_spinWorkers
    (pool : HandleHandlingPool Handle Callback) :
    pool.dropSeparator.spinWorkers = pool.spinWorkers := by
  unfold dropSeparator
  split <;> rfl

theorem Layout.dropSeparator {pool : HandleHandlingPool Handle Callback}
    (h : pool.Layout) : pool.dropSeparator.Layout := by
  unfold HandleHandlingPool.dropSeparator
  split
  · constructor
    · exact h.two_le
    · show pool.handles.dropLast.length = pool.callbacks.dropLast.length
      rw [List.length_dropLast, List.length_dropLast, h.aligned]
    · intro index handle hhandle
      replace hhandle : pool.handles.dropLast[index]? = some handle := hhandle
      rw [List.getElem?_dropLast] at hhandle
      split at hhandle
      · exact h.separators index handle hhandle
      · cases hhandle
  · exact h

theorem Layout.getLast?_dropSeparator
    {pool : HandleHandlingPool Handle Callback} (h : pool.Layout)
    {handle : Handle} (hlast : pool.dropSeparator.handles.getLast? = some handle) :
    handle ≠ pool.spinWorkers := by
  unfold HandleHandlingPool.dropSeparator at hlast
  split at hlast
  · rename_i hspin
    have htwo := h.two_le
    rw [List.getLast?_eq_getElem?] at hlast hspin
    have hdvd := (h.separators _ _ hspin).mp rfl
    replace hlast : pool.handles.dropLast[pool.handles.dropLast.length - 1]? =
      some handle := hlast
    rw [List.getElem?_dropLast] at hlast
    split at hlast
    · rename_i hlt
      intro hhandle
      have hbefore := (h.separators _ _ hlast).mp hhandle
      rw [List.length_dropLast] at hbefore hlt
      have hone := (Nat.dvd_sub hdvd hbefore)
      have hdiff : pool.handles.length - 1 - (pool.handles.length - 1 - 1) = 1 := by
        omega
      rw [hdiff, Nat.dvd_one] at hone
      omega
    · cases hlast
  · rename_i hspin
    rintro rfl
    exact hspin hlast

theorem Layout.removeHandle {pool : HandleHandlingPool Handle Callback}
    (h : pool.Layout) {handle : Handle} (hhandle : handle ≠ pool.spinWorkers) :
    (pool.removeHandle handle).Layout := by
  unfold HandleHandlingPool.removeHandle
  dsimp only
  split
  · exact h
  · rename_i hfound
    have hdrop := h.dropSeparator
    have hremoved : pool.handles[pool.handles.findIdx (· == handle)]? =
        some handle := by
      have hlt := Nat.lt_of_not_le hfound
      rw [List.getElem?_eq_getElem hlt]
      have hsame := List.findIdx_getElem (w := hlt)
      rw [beq_iff_eq.mp hsame]
    have hindex : ¬ pool.maxHandlesPerPool ∣
        pool.handles.findIdx (· == handle) :=
      mt (h.separators _ _ hremoved).mpr hhandle
    constructor
    · exact hdrop.two_le
    · show (swapRemove _ _).length = (swapRemove _ _).length
      rw [swapRemove_length, swapRemove_length, hdrop.aligned]
    · intro index other hother
      rcases getElem?_swapRemove hother with hkept | ⟨hsame, hlast⟩
      · exact hdrop.separators index other hkept
      · show other = pool.dropSeparator.spinWorkers ↔
          pool.dropSeparator.maxHandlesPerPool ∣ index
        rw [hsame, dropSeparator_maxHandlesPerPool, dropSeparator_spinWorkers]
        exact iff_of_false (h.getLast?_dropSeparator hlast) hindex

end Removing

/-!
## Registered handles
-/

theorem filter_zipIdx {α : Type} (atIndex : Nat -> Bool) (ofItem : α -> Bool)
    (xs : List α) (start : Nat)
    (h : forall (index : Nat) (x : α), xs[index]? = some x ->
      atIndex (start + index) = ofItem x) :
    ((xs.zipIdx start).filter fun slot => atIndex slot.2).map Prod.fst =
      xs.filter ofItem := by
  induction xs generalizing start with
  | nil => rfl
  | cons x xs ih =>
      have hrest := ih (start + 1) fun index y hy => by
        rw [Nat.add_assoc, Nat.add_comm 1]
        exact h (index + 1) y hy
      have hhead : atIndex start = ofItem x := h 0 x rfl
      rw [List.zipIdx_cons, List.filter_cons, List.filter_cons, hhead]
      split
      · rw [List.map_cons, hrest]
      · exact hrest

section Registered

variable [DecidableEq Handle]

def pairs (pool : HandleHandlingPool Handle Callback) :
    List (Handle × Callback) :=
  pool.slots.filter fun slot => slot.1 ≠ pool.spinWorkers

theorem Layout.registered_eq {pool : HandleHandlingPool Handle Callback}
    (h : pool.Layout) : pool.registered = pool.pairs := by
  refine filter_zipIdx (fun index => ¬ pool.maxHandlesPerPool ∣ index)
    (fun slot => slot.1 ≠ pool.spinWorkers) pool.slots 0 ?_
  intro index slot hslot
  have hhandle : pool.handles[index]? = some slot.1 := by
    have hzip := List.getElem?_zip_eq_some.mp hslot
    exact hzip.1
  have hiff := h.separators index slot.1 hhandle
  rw [Nat.zero_add, decide_eq_decide]
  exact (not_congr hiff).symm

theorem pairs_addHandle {pool : HandleHandlingPool Handle Callback}
    (h : pool.Layout) (abort : Callback) {handle : Handle}
    (hhandle : handle ≠ pool.spinWorkers) (callback : Callback) :
    (pool.addHandle abort handle callback).pairs =
      pool.pairs ++ [(handle, callback)] := by
  unfold addHandle
  split
  · have hspin : (pool.handles ++ [pool.spinWorkers]).length =
        (pool.callbacks ++ [abort]).length := by
      rw [List.length_append, List.length_append, h.aligned]
      rfl
    unfold pairs slots
    dsimp only
    rw [List.zip_append hspin, List.zip_append h.aligned, List.filter_append,
      List.filter_append]
    simp [hhandle]
  · unfold pairs slots
    dsimp only
    rw [List.zip_append h.aligned, List.filter_append]
    simp [hhandle]

theorem Layout.pairs_dropSeparator {pool : HandleHandlingPool Handle Callback}
    (h : pool.Layout) : pool.dropSeparator.pairs = pool.pairs := by
  unfold HandleHandlingPool.dropSeparator
  split
  · rename_i hlast
    obtain ⟨callback, hslots⟩ := slots_concat h hlast
    have hall : pool.pairs = (pool.slots.filter fun slot =>
      slot.1 ≠ pool.spinWorkers) := rfl
    rw [hall, hslots, List.filter_append]
    simp [pairs, slots]
  · rfl

theorem getElem?_dropSeparator {pool : HandleHandlingPool Handle Callback}
    {index : Nat} {handle : Handle} (hhandle : handle ≠ pool.spinWorkers)
    (hindex : pool.handles[index]? = some handle) :
    pool.dropSeparator.handles[index]? = some handle := by
  unfold dropSeparator
  split
  · rename_i hlast
    rw [List.getLast?_eq_getElem?] at hlast
    have hlt := (List.getElem?_eq_some_iff.mp hindex).1
    have hother : index ≠ pool.handles.length - 1 := by
      rintro rfl
      exact hhandle (Option.some.inj (hindex.symm.trans hlast))
    show pool.handles.dropLast[index]? = some handle
    rw [List.getElem?_dropLast, if_pos (by omega), hindex]
  · exact hindex

theorem pairs_removeHandle {pool : HandleHandlingPool Handle Callback}
    (h : pool.Layout) {handle : Handle} (hhandle : handle ≠ pool.spinWorkers) :
    (exists callback,
      pool.pairs.Perm ((handle, callback) :: (pool.removeHandle handle).pairs)) ∨
    ((forall callback, (handle, callback) ∉ pool.pairs) ∧
      pool.removeHandle handle = pool) := by
  unfold removeHandle
  dsimp only
  split
  · rename_i hmissing
    refine Or.inr ⟨?_, rfl⟩
    intro callback hpair
    have hmem : handle ∈ pool.handles :=
      (List.of_mem_zip (List.mem_filter.mp hpair).1).1
    have hlt := List.findIdx_lt_length_of_exists
      (p := (· == handle)) ⟨handle, hmem, beq_self_eq_true handle⟩
    omega
  · rename_i hfound
    have hlt := Nat.lt_of_not_le hfound
    have hremoved : pool.handles[pool.handles.findIdx (· == handle)]? =
        some handle := by
      rw [List.getElem?_eq_getElem hlt]
      have hsame := List.findIdx_getElem (w := hlt)
      rw [beq_iff_eq.mp hsame]
    have hdrop := h.dropSeparator
    have hthere := getElem?_dropSeparator hhandle hremoved
    have hlength := (List.getElem?_eq_some_iff.mp hthere).1
    rw [hdrop.aligned] at hlength
    have hslot : pool.dropSeparator.slots[pool.handles.findIdx (· == handle)]? =
        some (handle, pool.dropSeparator.callbacks[pool.handles.findIdx
          (· == handle)]) := by
      rw [slots, List.getElem?_zip_eq_some]
      exact ⟨hthere, List.getElem?_eq_getElem hlength⟩
    refine Or.inl ⟨pool.dropSeparator.callbacks[pool.handles.findIdx
      (· == handle)], ?_⟩
    rw [← h.pairs_dropSeparator]
    have hperm := (perm_swapRemove hslot).filter fun slot =>
      decide (slot.1 ≠ pool.dropSeparator.spinWorkers)
    rw [List.filter_cons_of_pos] at hperm
    · rw [slots, ← zip_swapRemove hdrop.aligned] at hperm
      exact hperm
    · rw [dropSeparator_spinWorkers]
      exact decide_eq_true hhandle

end Registered

/-!
## Histories
-/

/-- What has been added by some requests and not been removed again. -/
inductive Remaining : List (PoolRequest Handle Callback) ->
    Multiset (Handle × Callback) -> Prop where
  | nil : Remaining [] 0
  | addHandle {history : List (PoolRequest Handle Callback)}
      {rest : Multiset (Handle × Callback)} (handle : Handle)
      (callback : Callback) : Remaining history rest ->
      Remaining (history ++ [.addHandle handle callback])
        ((handle, callback) ::ₘ rest)
  | removeHandle {history : List (PoolRequest Handle Callback)}
      {rest : Multiset (Handle × Callback)} {handle : Handle}
      {callback : Callback} : Remaining history ((handle, callback) ::ₘ rest) ->
      Remaining (history ++ [.removeHandle handle]) rest
  | notFound {history : List (PoolRequest Handle Callback)}
      {rest : Multiset (Handle × Callback)} {handle : Handle} :
      Remaining history rest ->
      (forall callback, (handle, callback) ∉ rest) ->
      Remaining (history ++ [.removeHandle handle]) rest

/-- What holds of the vectors after some requests. -/
structure HandlesOk (blockLength : Nat) (spinWorkers : Handle)
    (history : List (PoolRequest Handle Callback))
    (pool : HandleHandlingPool Handle Callback) : Prop where
  aligned : pool.handles.length = pool.callbacks.length
  separators : forall (index : Nat) (handle : Handle),
    pool.handles[index]? = some handle ->
    (handle = spinWorkers ↔ blockLength ∣ index)
  remaining : Remaining history (pool.registered : Multiset (Handle × Callback))
  /-- Only the last block can be without handles. -/
  trailing : forall (base : Nat), blockLength ∣ base ->
    pool.waitRange base = [spinWorkers] -> base + 1 = pool.handles.length
  /-- What a worker waits for. -/
  waits : forall (base : Nat), blockLength ∣ base ->
    base < pool.handles.length ->
    (pool.waitRange base).length = min (pool.handles.length - base) blockLength ∧
      (pool.waitRange base).head? = some spinWorkers ∧
      (pool.waitRange base).length ≤ maximumWaitObjects
  /-- The callback a worker copies for a signalled handle. -/
  signalled : forall (base waitRes : Nat), blockLength ∣ base ->
    1 ≤ waitRes -> waitRes < pool.numHandles base ->
    exists handle callback,
      (pool.waitRange base)[waitRes]? = some handle ∧
      pool.callbacks[base + waitRes]? = some callback ∧
      (handle, callback) ∈ pool.registered

theorem addHandle_fixed (abort : Callback)
    (pool : HandleHandlingPool Handle Callback) (handle : Handle)
    (callback : Callback) :
    (pool.addHandle abort handle callback).maxHandlesPerPool =
        pool.maxHandlesPerPool ∧
      (pool.addHandle abort handle callback).spinWorkers = pool.spinWorkers ∧
      (pool.addHandle abort handle callback).threadsPerPool =
        pool.threadsPerPool := by
  unfold addHandle
  split <;> exact ⟨rfl, rfl, rfl⟩

theorem old_block {pool : HandleHandlingPool Handle Callback}
    (h : pool.Layout) {abort : Callback} {handle : Handle} {callback : Callback}
    {base : Nat} (hdvd : pool.maxHandlesPerPool ∣ base)
    (hlt : base < (pool.addHandle abort handle callback).handles.length)
    (hold : pool.opensBlock -> base ≠ pool.handles.length) :
    base < pool.handles.length := by
  have htwo := h.two_le
  unfold addHandle at hlt
  split at hlt
  · rename_i hopens
    have hother := hold hopens
    simp only [List.length_append, List.length_singleton] at hlt
    have hsecond : base ≠ pool.handles.length + 1 := by
      rintro rfl
      rw [Nat.dvd_add_right (Nat.dvd_of_mod_eq_zero hopens), Nat.dvd_one] at hdvd
      omega
    omega
  · rename_i hroom
    simp only [List.length_append, List.length_singleton] at hlt
    have hother : base ≠ pool.handles.length := by
      rintro rfl
      exact hroom (Nat.mod_eq_zero_of_dvd hdvd)
    omega

theorem waitRange_length (pool : HandleHandlingPool Handle Callback)
    (base : Nat) :
    (pool.waitRange base).length = pool.numHandles base := by
  rw [waitRange, List.length_take, List.length_drop, numHandles]
  omega

theorem getElem?_waitRange {pool : HandleHandlingPool Handle Callback}
    {base waitRes : Nat} (h : waitRes < pool.numHandles base) :
    (pool.waitRange base)[waitRes]? = pool.handles[base + waitRes]? := by
  rw [waitRange, List.getElem?_take_of_lt h, List.getElem?_drop]

section Runs

variable [DecidableEq Handle]

theorem removeHandle_fixed (pool : HandleHandlingPool Handle Callback)
    (handle : Handle) :
    (pool.removeHandle handle).maxHandlesPerPool = pool.maxHandlesPerPool ∧
      (pool.removeHandle handle).spinWorkers = pool.spinWorkers ∧
      (pool.removeHandle handle).threadsPerPool = pool.threadsPerPool := by
  unfold removeHandle dropSeparator
  dsimp only
  split
  · exact ⟨rfl, rfl, rfl⟩
  · split <;> exact ⟨rfl, rfl, rfl⟩

theorem removeHandle_length_le (pool : HandleHandlingPool Handle Callback)
    (handle : Handle) :
    (pool.removeHandle handle).handles.length ≤ pool.handles.length := by
  unfold removeHandle dropSeparator
  dsimp only
  split
  · exact Nat.le_refl _
  · split
    · simp only [swapRemove_length, List.length_dropLast]
      omega
    · simp only [swapRemove_length]
      omega

structure Kept (start : HandleHandlingPool Handle Callback)
    (history : List (PoolRequest Handle Callback))
    (pool : HandleHandlingPool Handle Callback) : Prop where
  layout : pool.Layout
  maxHandlesPerPool : pool.maxHandlesPerPool = start.maxHandlesPerPool
  spinWorkers : pool.spinWorkers = start.spinWorkers
  remaining : Remaining history (pool.pairs : Multiset (Handle × Callback))

theorem Kept.request {start pool : HandleHandlingPool Handle Callback}
    {history : List (PoolRequest Handle Callback)}
    (h : Kept start history pool) (abort : Callback)
    {request : PoolRequest Handle Callback}
    (hrequest : request.handle ≠ start.spinWorkers) :
    Kept start (history ++ [request]) (pool.request abort request) := by
  rw [← h.spinWorkers] at hrequest
  cases request with
  | addHandle handle callback =>
      replace hrequest : handle ≠ pool.spinWorkers := hrequest
      obtain ⟨hmax, hspin, hthreads⟩ :=
        addHandle_fixed abort pool handle callback
      constructor
      · exact h.layout.addHandle abort hrequest callback
      · exact hmax.trans h.maxHandlesPerPool
      · exact hspin.trans h.spinWorkers
      · have hpairs : (pool.pairs ++ [(handle, callback)] :
            Multiset (Handle × Callback)) =
            (handle, callback) ::ₘ (pool.pairs : Multiset _) := by
          rw [Multiset.cons_coe, Multiset.coe_eq_coe]
          exact List.perm_append_comm
        show Remaining _ ((pool.addHandle abort handle callback).pairs :
          Multiset (Handle × Callback))
        rw [pairs_addHandle h.layout abort hrequest, hpairs]
        exact h.remaining.addHandle handle callback
  | removeHandle handle =>
      replace hrequest : handle ≠ pool.spinWorkers := hrequest
      obtain ⟨hmax, hspin, hthreads⟩ := removeHandle_fixed pool handle
      constructor
      · exact h.layout.removeHandle hrequest
      · exact hmax.trans h.maxHandlesPerPool
      · exact hspin.trans h.spinWorkers
      · show Remaining _ ((pool.removeHandle handle).pairs :
          Multiset (Handle × Callback))
        rcases pairs_removeHandle h.layout hrequest with
          ⟨callback, hperm⟩ | ⟨hnone, hsame⟩
        · have hremaining := h.remaining
          rw [Multiset.coe_eq_coe.mpr hperm, ← Multiset.cons_coe] at hremaining
          exact hremaining.removeHandle
        · rw [hsame]
          exact h.remaining.notFound hnone

theorem run_kept {start : HandleHandlingPool Handle Callback}
    (hlayout : start.Layout) (hstart : start.pairs = []) (abort : Callback)
    {history : List (PoolRequest Handle Callback)}
    (hspin : forall request, request ∈ history ->
      request.handle ≠ start.spinWorkers) :
    Kept start history (start.run abort history) := by
  induction history using List.reverseRecOn with
  | nil =>
      refine ⟨hlayout, rfl, rfl, ?_⟩
      show Remaining [] (start.pairs : Multiset (Handle × Callback))
      rw [hstart]
      exact Remaining.nil
  | append_singleton history request ih =>
      have hbefore := ih fun other hother =>
        hspin other (List.mem_append_left _ hother)
      rw [run, List.foldl_append]
      exact hbefore.request abort
        (hspin request (List.mem_append_right _ (List.mem_singleton_self _)))

theorem not_dvd_between {blockLength base waitRes : Nat}
    (hbase : blockLength ∣ base) (hpos : 1 ≤ waitRes)
    (hlt : waitRes < blockLength) : ¬ blockLength ∣ base + waitRes := by
  rw [Nat.dvd_add_right hbase]
  exact Nat.not_dvd_of_pos_of_lt hpos hlt

theorem Kept.handlesOk {start pool : HandleHandlingPool Handle Callback}
    {history : List (PoolRequest Handle Callback)}
    (h : Kept start history pool)
    (hmax : start.maxHandlesPerPool ≤ maximumWaitObjects) :
    HandlesOk start.maxHandlesPerPool start.spinWorkers history pool := by
  rw [← h.maxHandlesPerPool] at hmax ⊢
  rw [← h.spinWorkers]
  have htwo := h.layout.two_le
  constructor
  · exact h.layout.aligned
  · exact h.layout.separators
  · rw [h.layout.registered_eq]
    exact h.remaining
  · intro base hbase halone
    have hlength := waitRange_length pool base
    rw [halone, List.length_singleton, numHandles] at hlength
    omega
  · intro base hbase hlt
    refine ⟨waitRange_length pool base, ?_, ?_⟩
    · have hpos : 0 < pool.numHandles base := by
        rw [numHandles]
        omega
      rw [List.head?_eq_getElem?, getElem?_waitRange hpos, Nat.add_zero,
        List.getElem?_eq_getElem hlt]
      have hspin := (h.layout.separators base _
        (List.getElem?_eq_getElem hlt)).mpr hbase
      rw [hspin]
    · rw [waitRange_length, numHandles]
      omega
  · intro base waitRes hbase hpos hlt
    have hbounds : base + waitRes < pool.handles.length ∧
        waitRes < pool.maxHandlesPerPool := by
      rw [numHandles] at hlt
      omega
    have hcallbacks := hbounds.1
    rw [h.layout.aligned] at hcallbacks
    refine ⟨pool.handles[base + waitRes], pool.callbacks[base + waitRes], ?_,
      List.getElem?_eq_getElem hcallbacks, ?_⟩
    · rw [getElem?_waitRange hlt, List.getElem?_eq_getElem hbounds.1]
    · rw [h.layout.registered_eq, pairs, List.mem_filter, slots]
      have hhandle := List.getElem?_eq_getElem hbounds.1
      constructor
      · apply List.mem_of_getElem? (i := base + waitRes)
        rw [List.getElem?_zip_eq_some]
        exact ⟨hhandle, List.getElem?_eq_getElem hcallbacks⟩
      · have hiff := h.layout.separators _ _ hhandle
        have hother := not_dvd_between hbase hpos hbounds.2
        exact decide_eq_true (mt hiff.mp hother)

/--
Whatever handles are added and removed, the two vectors stay aligned, in blocks
that begin with `spin_workers`, and hold what has been added and not removed.
-/
theorem handles_kept (abort : Callback) {threadsPerPool maxHandlesPerPool : Nat}
    {spinWorkers : Handle} {start : HandleHandlingPool Handle Callback}
    (hcreate : create threadsPerPool maxHandlesPerPool spinWorkers = some start)
    (history : List (PoolRequest Handle Callback))
    (hspin : forall request, request ∈ history ->
      request.handle ≠ spinWorkers) :
    HandlesOk (maxHandlesPerPool + 1) spinWorkers history
      (start.run abort history) := by
  have hlayout := create_layout hcreate
  obtain ⟨hthreads, hone, hmax, rfl⟩ := create_eq_some hcreate
  have hkept := run_kept hlayout rfl abort hspin
  exact hkept.handlesOk (Nat.succ_le_of_lt hmax)

/-- Blocks of one handle, one of them emptied and another handle removed. -/
theorem handles_kept_removed :
    HandlesOk 2 0 [.addHandle 1 10, .addHandle 2 20, .removeHandle 2,
        .removeHandle 1]
      (run 99 { threadsPerPool := 4, maxHandlesPerPool := 2, spinWorkers := 0
                handles := [], callbacks := [] }
        [.addHandle (1 : Nat) (10 : Nat), .addHandle 2 20, .removeHandle 2,
          .removeHandle 1]) :=
  handles_kept 99 (by rfl : create 4 1 0 = some _) _ (by
    intro request hrequest
    simp only [List.mem_cons, List.not_mem_nil, or_false] at hrequest
    rcases hrequest with rfl | rfl | rfl | rfl <;> decide)

end Runs

end HandleHandlingPool

end DirectPlayLite
