import DirectPlayLite.Pool.Handles
import Mathlib.Logic.Function.Basic

/-!
# The workers of a pool

Workers read the vectors under a shared `wait_lock`; `add_handle` and
`remove_handle` change them under an exclusive one.  Every block has its workers,
which leave when they find that their block is gone.
-/

namespace DirectPlayLite

variable {Thread Handle Callback : Type}

/-!
## States
-/

inductive WorkerPhase (Callback : Type) where
  | looping
  /-- Waits for `pending_writer` to be false. -/
  | awaiting
  | locking
  | checking
  /-- In `WaitForMultipleObjects`. -/
  | waiting
  /-- In `worker_exit`, and still active. -/
  | exiting
  | calling (callback : Callback)

def WorkerPhase.holdsShared : WorkerPhase Callback -> Prop
  | checking => True
  | waiting => True
  | exiting => True
  | _ => False

structure Worker (Callback : Type) where
  baseIndex : Nat
  phase : WorkerPhase Callback

/-- How far a writer is, up to the change it makes to the vectors. -/
inductive Stage where
  | claiming
  | claimed
  | announced
  | locking
  | locked
  | reset
  | cleared
  | writing

/-- Where a thread stands in `add_handle` or `remove_handle`. -/
inductive WriterPhase (Handle Callback : Type) where
  | idle
  | entering (stage : Stage) (request : PoolRequest Handle Callback)
  /-- Counts the workers which a block that has gone away has left. -/
  | counting (base : Nat)
  | spawning (base : Nat) (left : Int)
  | leaving

namespace WriterPhase

def holdsPending : WriterPhase Handle Callback -> Prop
  | entering .claiming _ => False
  | entering .writing _ => False
  | entering _ _ => True
  | _ => False

def holdsWait : WriterPhase Handle Callback -> Prop
  | idle => False
  | entering .claiming _ => False
  | entering .claimed _ => False
  | entering .announced _ => False
  | entering .locking _ => False
  | _ => True

def staffs : WriterPhase Handle Callback -> Nat -> Prop
  | counting base, block => base = block
  | spawning base _, block => base = block
  | _, _ => False

theorem staffs.holdsWait {phase : WriterPhase Handle Callback} {block : Nat}
    (h : phase.staffs block) : phase.holdsWait := by
  cases phase with
  | counting base => trivial
  | spawning base left => trivial
  | _ => cases h

end WriterPhase

structure PoolState (Thread Handle Callback : Type) where
  pool : HandleHandlingPool Handle Callback
  /-- `active_workers`. -/
  workers : List (Worker Callback)
  /-- The threads which are not active any more and still have `wait_lock`. -/
  exited : Nat
  writer : Thread -> WriterPhase Handle Callback
  pendingWriter : Bool
  /-- Whether `spin_workers` is signalled. -/
  spinning : Bool

namespace PoolState

def start (pool : HandleHandlingPool Handle Callback) :
    PoolState Thread Handle Callback :=
  { pool, workers := [], exited := 0, writer := fun _ => .idle
    pendingWriter := false, spinning := false }

def Unwritten (s : PoolState Thread Handle Callback) : Prop :=
  forall thread, ¬ (s.writer thread).holdsWait

def Unshared (s : PoolState Thread Handle Callback) : Prop :=
  s.exited = 0 ∧ forall worker, worker ∈ s.workers -> ¬ worker.phase.holdsShared

def workersOf (s : PoolState Thread Handle Callback) (base : Nat) : Nat :=
  s.workers.countP (·.baseIndex = base)

/-- The loop over `active_workers`; a `size_t` would wrap below zero. -/
def threadsToSpawn (s : PoolState Thread Handle Callback) (base : Nat) : Int :=
  s.workers.foldl (fun left worker =>
    if worker.baseIndex = base then left - 1 else left) s.pool.threadsPerPool

/-!
## Steps
-/

inductive WorkerStep (s : PoolState Thread Handle Callback) (base : Nat) :
    WorkerPhase Callback -> WorkerPhase Callback -> Prop where
  | pass : s.pendingWriter = false -> WorkerStep s base .looping .locking
  | await : s.pendingWriter = true -> WorkerStep s base .looping .awaiting
  | awaited : s.pendingWriter = false ->
      (forall thread, ¬ (s.writer thread).holdsPending) ->
      WorkerStep s base .awaiting .locking
  | lock : s.Unwritten -> WorkerStep s base .locking .checking
  | unneeded : s.pool.handles.length ≤ base ->
      WorkerStep s base .checking .exiting
  | wait : base < s.pool.handles.length -> WorkerStep s base .checking .waiting
  | spun : s.spinning = true -> WorkerStep s base .waiting .looping
  | signalled {waitRes : Nat} {callback : Callback} :
      s.spinning = false -> 1 ≤ waitRes -> waitRes < s.pool.numHandles base ->
      s.pool.callbacks[base + waitRes]? = some callback ->
      WorkerStep s base .waiting (.calling callback)
  | called {callback : Callback} : WorkerStep s base (.calling callback) .looping

/-- How a writer enters, with `pending_writer` and `spin_workers` afterwards. -/
inductive StageStep (s : PoolState Thread Handle Callback) :
    Stage -> Stage -> Bool -> Bool -> Prop where
  | claim : (forall thread, ¬ (s.writer thread).holdsPending) ->
      StageStep s .claiming .claimed s.pendingWriter s.spinning
  | announce : StageStep s .claimed .announced true s.spinning
  | signal : StageStep s .announced .locking s.pendingWriter true
  | lock : s.Unwritten -> s.Unshared ->
      StageStep s .locking .locked s.pendingWriter s.spinning
  | reset : StageStep s .locked .reset s.pendingWriter false
  | clear : StageStep s .reset .cleared false s.spinning
  | unlock : StageStep s .cleared .writing s.pendingWriter s.spinning

def spawns (s : PoolState Thread Handle Callback) (base : Nat) :
    PoolState Thread Handle Callback :=
  { s with workers := s.workers ++ [⟨base, .looping⟩] }

section Steps

variable [DecidableEq Thread] [DecidableEq Handle]

def writes (s : PoolState Thread Handle Callback) (thread : Thread)
    (phase : WriterPhase Handle Callback) : PoolState Thread Handle Callback :=
  { s with writer := Function.update s.writer thread phase }

/-- The change `add_handle` makes, and whether workers are missing then. -/
def adds (abort : Callback) (s : PoolState Thread Handle Callback)
    (thread : Thread) (handle : Handle) (callback : Callback) :
    PoolState Thread Handle Callback :=
  { s.writes thread
      (if s.pool.opensBlock then .counting s.pool.handles.length else .leaving) with
    pool := s.pool.addHandle abort handle callback }

def removes (s : PoolState Thread Handle Callback) (thread : Thread)
    (handle : Handle) : PoolState Thread Handle Callback :=
  { s.writes thread .leaving with pool := s.pool.removeHandle handle }

/--
The steps of all threads.  Waiting for the thread that has exited before is left
out of `worker_exit`, and so is every notification: both only delay.
-/
inductive Step (abort : Callback) : PoolState Thread Handle Callback ->
    PoolState Thread Handle Callback -> Prop where
  | worker {s : PoolState Thread Handle Callback}
      {before after : List (Worker Callback)} {base : Nat}
      {phase phase' : WorkerPhase Callback} :
      s.workers = before ++ ⟨base, phase⟩ :: after ->
      WorkerStep s base phase phase' ->
      Step abort s { s with workers := before ++ ⟨base, phase'⟩ :: after }
  | exit {s : PoolState Thread Handle Callback}
      {before after : List (Worker Callback)} {base : Nat} :
      s.workers = before ++ ⟨base, .exiting⟩ :: after ->
      Step abort s
        { s with workers := before ++ after, exited := s.exited + 1 }
  | unlock {s : PoolState Thread Handle Callback} {exited : Nat} :
      s.exited = exited + 1 -> Step abort s { s with exited }
  | call {s : PoolState Thread Handle Callback} {thread : Thread}
      {request : PoolRequest Handle Callback} :
      s.writer thread = .idle -> request.handle ≠ s.pool.spinWorkers ->
      Step abort s (s.writes thread (.entering .claiming request))
  | stage {s : PoolState Thread Handle Callback} {thread : Thread}
      {stage stage' : Stage} {request : PoolRequest Handle Callback}
      {pendingWriter spinning : Bool} :
      s.writer thread = .entering stage request ->
      StageStep s stage stage' pendingWriter spinning ->
      Step abort s { s.writes thread (.entering stage' request) with
        pendingWriter, spinning }
  | add {s : PoolState Thread Handle Callback} {thread : Thread}
      {handle : Handle} {callback : Callback} :
      s.writer thread = .entering .writing (.addHandle handle callback) ->
      Step abort s (s.adds abort thread handle callback)
  | remove {s : PoolState Thread Handle Callback} {thread : Thread}
      {handle : Handle} :
      s.writer thread = .entering .writing (.removeHandle handle) ->
      Step abort s (s.removes thread handle)
  | count {s : PoolState Thread Handle Callback} {thread : Thread}
      {base : Nat} :
      s.writer thread = .counting base ->
      Step abort s (s.writes thread (.spawning base (s.threadsToSpawn base)))
  | spawn {s : PoolState Thread Handle Callback} {thread : Thread}
      {base : Nat} {left : Int} :
      s.writer thread = .spawning base left -> left ≠ 0 ->
      Step abort s ((s.spawns base).writes thread (.spawning base (left - 1)))
  | spawned {s : PoolState Thread Handle Callback} {thread : Thread}
      {base : Nat} :
      s.writer thread = .spawning base 0 ->
      Step abort s (s.writes thread .leaving)
  | return {s : PoolState Thread Handle Callback} {thread : Thread} :
      s.writer thread = .leaving -> Step abort s (s.writes thread .idle)

inductive Reaches (abort : Callback)
    (pool : HandleHandlingPool Handle Callback) :
    PoolState Thread Handle Callback -> Prop where
  | start : Reaches abort pool (start pool)
  | step {s s' : PoolState Thread Handle Callback} :
      Reaches abort pool s -> Step abort s s' -> Reaches abort pool s'

end Steps

/-!
## Counting
-/

theorem threadsToSpawn_eq (s : PoolState Thread Handle Callback) (base : Nat) :
    s.threadsToSpawn base = s.pool.threadsPerPool - s.workersOf base := by
  have hfold : forall (workers : List (Worker Callback)) (left : Int),
      workers.foldl (fun left worker =>
        if worker.baseIndex = base then left - 1 else left) left =
        left - workers.countP (·.baseIndex = base) := by
    intro workers
    induction workers with
    | nil => simp
    | cons worker rest ih =>
        intro left
        rw [List.foldl_cons, ih, List.countP_cons]
        by_cases hbase : worker.baseIndex = base
        · simp [hbase]
          omega
        · simp [hbase]
  exact hfold s.workers _

theorem workersOf_moved {s : PoolState Thread Handle Callback}
    {before after : List (Worker Callback)} {base : Nat}
    {phase : WorkerPhase Callback}
    (h : s.workers = before ++ ⟨base, phase⟩ :: after)
    (phase' : WorkerPhase Callback) (block : Nat) :
    (before ++ ⟨base, phase'⟩ :: after).countP (·.baseIndex = block) =
      s.workersOf block := by
  rw [workersOf, h]
  simp [List.countP_append, List.countP_cons]

theorem workersOf_exit {s : PoolState Thread Handle Callback}
    {before after : List (Worker Callback)} {base : Nat}
    {phase : WorkerPhase Callback}
    (h : s.workers = before ++ ⟨base, phase⟩ :: after) (block : Nat) :
    s.workersOf block =
      (before ++ after).countP (·.baseIndex = block) +
        if base = block then 1 else 0 := by
  rw [workersOf, h]
  simp [List.countP_append, List.countP_cons, Nat.add_assoc]

theorem workersOf_spawns (s : PoolState Thread Handle Callback)
    (base block : Nat) :
    (s.spawns base).workersOf block =
      s.workersOf block + if base = block then 1 else 0 := by
  rw [workersOf, spawns, List.countP_append, workersOf]
  simp [List.countP_cons]

/-!
## The invariant
-/

structure Invariant (start : HandleHandlingPool Handle Callback)
    (s : PoolState Thread Handle Callback) : Prop where
  layout : s.pool.Layout
  threads : s.pool.threadsPerPool = start.threadsPerPool
  blocks : s.pool.maxHandlesPerPool = start.maxHandlesPerPool
  separator : s.pool.spinWorkers = start.spinWorkers
  requests : forall {thread : Thread} {stage : Stage}
    {request : PoolRequest Handle Callback},
    s.writer thread = .entering stage request ->
    request.handle ≠ s.pool.spinWorkers
  /-- A writer shares `wait_lock` with nobody. -/
  alone : forall {thread other : Thread}, (s.writer thread).holdsWait ->
    (s.writer other).holdsWait -> thread = other
  unshared : forall {thread : Thread}, (s.writer thread).holdsWait -> s.Unshared
  /-- A worker only exits when its block is gone. -/
  unneeded : forall {base : Nat}, (⟨base, .exiting⟩ : Worker Callback) ∈ s.workers ->
    s.pool.handles.length ≤ base
  atMost : forall base, s.workersOf base ≤ s.pool.threadsPerPool
  staffed : forall base, s.pool.maxHandlesPerPool ∣ base ->
    base < s.pool.handles.length ->
    (forall thread, ¬ (s.writer thread).staffs base) ->
    s.workersOf base = s.pool.threadsPerPool
  /-- What a writer has still to spawn is what is missing. -/
  spawning : forall {thread : Thread} {base : Nat} {left : Int},
    s.writer thread = .spawning base left ->
    s.workersOf base + left = s.pool.threadsPerPool

theorem start_invariant {pool : HandleHandlingPool Handle Callback}
    (hlayout : pool.Layout) (hempty : pool.handles = []) :
    Invariant pool (start pool : PoolState Thread Handle Callback) where
  layout := hlayout
  threads := rfl
  blocks := rfl
  separator := rfl
  requests := by
    intro thread stage request hwriter
    cases hwriter
  alone := by
    intro thread other hwait
    cases hwait
  unshared := by
    intro thread hwait
    cases hwait
  unneeded := by
    intro base hworker
    cases hworker
  atMost := fun base => Nat.zero_le _
  staffed := by
    intro base hdvd hlt
    replace hlt : base < pool.handles.length := hlt
    rw [hempty] at hlt
    cases hlt
  spawning := by
    intro thread base left hwriter
    cases hwriter

theorem Invariant.worker {start : HandleHandlingPool Handle Callback}
    {s : PoolState Thread Handle Callback} (h : Invariant start s)
    {before after : List (Worker Callback)} {base : Nat}
    {phase phase' : WorkerPhase Callback}
    (hworkers : s.workers = before ++ ⟨base, phase⟩ :: after)
    (hstep : WorkerStep s base phase phase') :
    Invariant start
      { s with workers := before ++ ⟨base, phase'⟩ :: after } where
  layout := h.layout
  threads := h.threads
  blocks := h.blocks
  separator := h.separator
  requests := h.requests
  alone := h.alone
  unshared := by
    intro thread hwait
    have hunshared := h.unshared hwait
    refine ⟨hunshared.1, ?_⟩
    have hphase : ¬ phase.holdsShared := by
      apply hunshared.2 ⟨base, phase⟩
      rw [hworkers]
      exact List.mem_append_right _ List.mem_cons_self
    intro worker hworker
    rcases List.mem_append.mp hworker with hbefore | hrest
    · apply hunshared.2
      rw [hworkers]
      exact List.mem_append_left _ hbefore
    · rcases List.mem_cons.mp hrest with rfl | hafter
      · cases hstep with
        | lock hunwritten => exact absurd hwait (hunwritten thread)
        | unneeded => exact absurd trivial hphase
        | wait => exact absurd trivial hphase
        | _ => exact id
      · apply hunshared.2
        rw [hworkers]
        exact List.mem_append_right _ (List.mem_cons_of_mem _ hafter)
  unneeded := by
    intro block hblock
    rcases List.mem_append.mp hblock with hbefore | hrest
    · apply h.unneeded
      rw [hworkers]
      exact List.mem_append_left _ hbefore
    · rcases List.mem_cons.mp hrest with hsame | hafter
      · cases hsame
        cases hstep with
        | unneeded hgone => exact hgone
      · apply h.unneeded
        rw [hworkers]
        exact List.mem_append_right _ (List.mem_cons_of_mem _ hafter)
  atMost := by
    intro block
    show List.countP _ _ ≤ _
    rw [workersOf_moved hworkers]
    exact h.atMost block
  staffed := by
    intro block hdvd hlt hnobody
    show List.countP _ _ = _
    rw [workersOf_moved hworkers]
    exact h.staffed block hdvd hlt hnobody
  spawning := by
    intro thread block left hwriter
    show (List.countP _ _ : Int) + left = _
    rw [workersOf_moved hworkers]
    exact h.spawning hwriter

theorem Invariant.unlock {start : HandleHandlingPool Handle Callback}
    {s : PoolState Thread Handle Callback} (h : Invariant start s)
    {exited : Nat} (hexited : s.exited = exited + 1) :
    Invariant start { s with exited } := by
  have hunwritten : s.Unwritten := by
    intro thread hwait
    have hnone := (h.unshared hwait).1
    omega
  exact { h with
    unshared := fun {thread} hwait => absurd hwait (hunwritten thread) }

theorem Invariant.exit {start : HandleHandlingPool Handle Callback}
    {s : PoolState Thread Handle Callback} (h : Invariant start s)
    {before after : List (Worker Callback)} {base : Nat}
    (hworkers : s.workers = before ++ ⟨base, .exiting⟩ :: after) :
    Invariant start
      { s with workers := before ++ after, exited := s.exited + 1 } := by
  have hexiting : (⟨base, .exiting⟩ : Worker Callback) ∈ s.workers := by
    rw [hworkers]
    exact List.mem_append_right _ List.mem_cons_self
  have hgone := h.unneeded hexiting
  have hunwritten : s.Unwritten := fun thread hwait =>
    (h.unshared hwait).2 _ hexiting trivial
  constructor
  · exact h.layout
  · exact h.threads
  · exact h.blocks
  · exact h.separator
  · exact h.requests
  · exact h.alone
  · intro thread hwait
    exact absurd hwait (hunwritten thread)
  · intro block hblock
    apply h.unneeded
    rw [hworkers]
    rcases List.mem_append.mp hblock with hbefore | hafter
    · exact List.mem_append_left _ hbefore
    · exact List.mem_append_right _ (List.mem_cons_of_mem _ hafter)
  · intro block
    have hcount := workersOf_exit hworkers block
    have hmost := h.atMost block
    have hless : (before ++ after).countP (·.baseIndex = block) ≤
        s.workersOf block := by omega
    exact hless.trans hmost
  · intro block hdvd hlt hnobody
    have hcount := workersOf_exit hworkers block
    have hother : base ≠ block := by
      rintro rfl
      exact absurd hgone (Nat.not_le_of_lt hlt)
    rw [if_neg hother] at hcount
    show List.countP _ _ = _
    rw [← h.staffed block hdvd hlt hnobody, hcount]
    rfl
  · intro thread block left hwriter
    have hwait : (s.writer thread).holdsWait := by
      rw [show s.writer thread = .spawning block left from hwriter]
      trivial
    exact absurd hwait (hunwritten thread)

/--
A writer moves on within its calls: it takes `wait_lock` only from nobody, and
neither before nor afterwards it is giving workers to a block.
-/
structure Moves (s : PoolState Thread Handle Callback) (thread : Thread)
    (phase : WriterPhase Handle Callback) : Prop where
  requests : forall stage request, phase = .entering stage request ->
    request.handle ≠ s.pool.spinWorkers
  locks : phase.holdsWait ->
    (s.writer thread).holdsWait ∨ s.Unwritten ∧ s.Unshared
  before : forall base, ¬ (s.writer thread).staffs base
  afterwards : forall base, ¬ phase.staffs base

theorem Invariant.calls {s : PoolState Thread Handle Callback}
    {thread : Thread} {request : PoolRequest Handle Callback}
    (hidle : s.writer thread = .idle)
    (hrequest : request.handle ≠ s.pool.spinWorkers) :
    s.Moves thread (.entering .claiming request) where
  requests := by
    intro stage other hsame
    cases hsame
    exact hrequest
  locks := False.elim
  before := by
    rw [hidle]
    exact fun _ => id
  afterwards := fun _ => id

theorem Invariant.stage {start : HandleHandlingPool Handle Callback}
    {s : PoolState Thread Handle Callback} (h : Invariant start s)
    {thread : Thread} {stage stage' : Stage}
    {request : PoolRequest Handle Callback} {pendingWriter spinning : Bool}
    (hwriter : s.writer thread = .entering stage request)
    (hstep : StageStep s stage stage' pendingWriter spinning) :
    s.Moves thread (.entering stage' request) where
  requests := by
    intro other request' hsame
    cases hsame
    exact h.requests hwriter
  locks := by
    rw [hwriter]
    intro hwait
    cases hstep with
    | lock hunwritten hunshared => exact Or.inr ⟨hunwritten, hunshared⟩
    | claim => cases hwait
    | announce => cases hwait
    | signal => cases hwait
    | _ => exact Or.inl trivial
  before := by
    rw [hwriter]
    exact fun _ => id
  afterwards := fun _ => id

section Writing

variable [DecidableEq Thread]

theorem writes_self (s : PoolState Thread Handle Callback) (thread : Thread)
    (phase : WriterPhase Handle Callback) :
    (s.writes thread phase).writer thread = phase :=
  Function.update_self ..

theorem writes_of_ne {s : PoolState Thread Handle Callback}
    {thread other : Thread} (h : other ≠ thread)
    (phase : WriterPhase Handle Callback) :
    (s.writes thread phase).writer other = s.writer other :=
  Function.update_of_ne h ..

theorem Invariant.alone_writes {start : HandleHandlingPool Handle Callback}
    {s : PoolState Thread Handle Callback} (h : Invariant start s)
    {thread : Thread} {phase : WriterPhase Handle Callback}
    (hlocks : phase.holdsWait ->
      (s.writer thread).holdsWait ∨ s.Unwritten ∧ s.Unshared)
    {first second : Thread}
    (hfirst : ((s.writes thread phase).writer first).holdsWait)
    (hsecond : ((s.writes thread phase).writer second).holdsWait) :
    first = second := by
  by_cases hone : first = thread
  · by_cases htwo : second = thread
    · rw [hone, htwo]
    · rw [writes_of_ne htwo] at hsecond
      rw [hone, writes_self] at hfirst
      rcases hlocks hfirst with hhad | hfree
      · rw [hone]
        exact h.alone hhad hsecond
      · exact absurd hsecond (hfree.1 second)
  · rw [writes_of_ne hone] at hfirst
    by_cases htwo : second = thread
    · rw [htwo, writes_self] at hsecond
      rcases hlocks hsecond with hhad | hfree
      · rw [htwo]
        exact h.alone hfirst hhad
      · exact absurd hfirst (hfree.1 first)
    · rw [writes_of_ne htwo] at hsecond
      exact h.alone hfirst hsecond

theorem Invariant.unshared_writes {start : HandleHandlingPool Handle Callback}
    {s : PoolState Thread Handle Callback} (h : Invariant start s)
    {thread : Thread} {phase : WriterPhase Handle Callback}
    (hlocks : phase.holdsWait ->
      (s.writer thread).holdsWait ∨ s.Unwritten ∧ s.Unshared)
    {other : Thread}
    (hother : ((s.writes thread phase).writer other).holdsWait) :
    s.Unshared := by
  by_cases hsame : other = thread
  · rw [hsame, writes_self] at hother
    rcases hlocks hother with hhad | hfree
    · exact h.unshared hhad
    · exact hfree.2
  · rw [writes_of_ne hsame] at hother
    exact h.unshared hother

theorem Invariant.requests_writes {start : HandleHandlingPool Handle Callback}
    {s : PoolState Thread Handle Callback} (h : Invariant start s)
    {thread : Thread} {phase : WriterPhase Handle Callback}
    (hrequests : forall stage request, phase = .entering stage request ->
      request.handle ≠ s.pool.spinWorkers)
    {other : Thread} {stage : Stage} {request : PoolRequest Handle Callback}
    (hother : (s.writes thread phase).writer other = .entering stage request) :
    request.handle ≠ s.pool.spinWorkers := by
  by_cases hsame : other = thread
  · rw [hsame, writes_self] at hother
    exact hrequests stage request hother
  · rw [writes_of_ne hsame] at hother
    exact h.requests hother

theorem Invariant.moves {start : HandleHandlingPool Handle Callback}
    {s : PoolState Thread Handle Callback} (h : Invariant start s)
    {thread : Thread} {phase : WriterPhase Handle Callback}
    (hmoves : s.Moves thread phase) (pendingWriter spinning : Bool) :
    Invariant start
      { s.writes thread phase with pendingWriter, spinning } where
  layout := h.layout
  threads := h.threads
  blocks := h.blocks
  separator := h.separator
  requests := h.requests_writes hmoves.requests
  alone := h.alone_writes hmoves.locks
  unshared := h.unshared_writes hmoves.locks
  unneeded := h.unneeded
  atMost := h.atMost
  staffed := by
    intro base hdvd hlt hnobody
    apply h.staffed base hdvd hlt
    intro other
    by_cases hsame : other = thread
    · rw [hsame]
      exact hmoves.before base
    · have hother := hnobody other
      replace hother : ¬ ((s.writes thread phase).writer other).staffs base :=
        hother
      rwa [writes_of_ne hsame] at hother
  spawning := by
    intro other base left hwriter
    replace hwriter : (s.writes thread phase).writer other =
      .spawning base left := hwriter
    by_cases hsame : other = thread
    · rw [hsame, writes_self] at hwriter
      subst hwriter
      exact absurd rfl (hmoves.afterwards base)
    · rw [writes_of_ne hsame] at hwriter
      exact h.spawning hwriter

end Writing

/-!
## Giving a block its workers
-/

section Staffing

variable [DecidableEq Thread]

theorem Invariant.continues {start : HandleHandlingPool Handle Callback}
    {s : PoolState Thread Handle Callback} (h : Invariant start s)
    {thread : Thread} {phase : WriterPhase Handle Callback}
    (hwait : (s.writer thread).holdsWait)
    (hphase : forall stage request, phase ≠ .entering stage request)
    (hstaffed : forall base, (s.writer thread).staffs base ->
      phase.staffs base ∨ s.workersOf base = s.pool.threadsPerPool)
    (hspawning : forall base left, phase = .spawning base left ->
      s.workersOf base + left = s.pool.threadsPerPool) :
    Invariant start (s.writes thread phase) where
  layout := h.layout
  threads := h.threads
  blocks := h.blocks
  separator := h.separator
  requests := h.requests_writes fun stage request hsame =>
    absurd hsame (hphase stage request)
  alone := h.alone_writes fun _ => Or.inl hwait
  unshared := h.unshared_writes fun _ => Or.inl hwait
  unneeded := h.unneeded
  atMost := h.atMost
  staffed := by
    intro base hdvd hlt hnobody
    by_cases hthis : (s.writer thread).staffs base
    · rcases hstaffed base hthis with hstill | hready
      · have hself := hnobody thread
        rw [writes_self] at hself
        exact absurd hstill hself
      · exact hready
    · apply h.staffed base hdvd hlt
      intro other
      by_cases hsame : other = thread
      · rw [hsame]
        exact hthis
      · have hother := hnobody other
        rwa [writes_of_ne hsame] at hother
  spawning := by
    intro other base left hother
    by_cases hsame : other = thread
    · rw [hsame, writes_self] at hother
      exact hspawning base left hother
    · rw [writes_of_ne hsame] at hother
      exact h.spawning hother

theorem Invariant.count {start : HandleHandlingPool Handle Callback}
    {s : PoolState Thread Handle Callback} (h : Invariant start s)
    {thread : Thread} {base : Nat} (hwriter : s.writer thread = .counting base) :
    Invariant start
      (s.writes thread (.spawning base (s.threadsToSpawn base))) := by
  apply h.continues
  · rw [hwriter]
    trivial
  · intro stage request hsame
    cases hsame
  · rw [hwriter]
    exact fun _ => Or.inl
  · intro block left hsame
    cases hsame
    rw [threadsToSpawn_eq]
    omega

theorem Invariant.spawned {start : HandleHandlingPool Handle Callback}
    {s : PoolState Thread Handle Callback} (h : Invariant start s)
    {thread : Thread} {base : Nat}
    (hwriter : s.writer thread = .spawning base 0) :
    Invariant start (s.writes thread .leaving) := by
  apply h.continues
  · rw [hwriter]
    trivial
  · intro stage request hsame
    cases hsame
  · rw [hwriter]
    rintro block rfl
    have hcount := h.spawning hwriter
    exact Or.inr (by omega)
  · intro block left hsame
    cases hsame

theorem Invariant.return {start : HandleHandlingPool Handle Callback}
    {s : PoolState Thread Handle Callback} (h : Invariant start s)
    {thread : Thread} (hwriter : s.writer thread = .leaving) :
    Invariant start (s.writes thread .idle) := by
  apply h.continues
  · rw [hwriter]
    trivial
  · intro stage request hsame
    cases hsame
  · rw [hwriter]
    exact fun _ => False.elim
  · intro block left hsame
    cases hsame

theorem Invariant.spawn {start : HandleHandlingPool Handle Callback}
    {s : PoolState Thread Handle Callback} (h : Invariant start s)
    {thread : Thread} {base : Nat} {left : Int}
    (hwriter : s.writer thread = .spawning base left) (hleft : left ≠ 0) :
    Invariant start
      ((s.spawns base).writes thread (.spawning base (left - 1))) := by
  have hwait : (s.writer thread).holdsWait := by
    rw [hwriter]
    trivial
  have hcount := h.spawning hwriter
  have hmost := h.atMost base
  constructor
  · exact h.layout
  · exact h.threads
  · exact h.blocks
  · exact h.separator
  · intro other stage request hother
    refine h.requests_writes ?_ hother
    intro stage request hsame
    cases hsame
  · exact h.alone_writes fun _ => Or.inl hwait
  · intro other hother
    have hunshared := h.unshared hwait
    refine ⟨hunshared.1, ?_⟩
    intro worker hworker
    rcases List.mem_append.mp hworker with hold | hnew
    · exact hunshared.2 worker hold
    · rw [List.mem_singleton.mp hnew]
      exact id
  · intro block hblock
    rcases List.mem_append.mp hblock with hold | hnew
    · exact h.unneeded hold
    · cases List.mem_singleton.mp hnew
  · intro block
    have hblock := h.atMost block
    show (s.spawns base).workersOf block ≤ s.pool.threadsPerPool
    rw [workersOf_spawns]
    split
    · rename_i hsame
      subst hsame
      omega
    · exact hblock
  · intro block hdvd hlt hnobody
    show (s.spawns base).workersOf block = s.pool.threadsPerPool
    have hself := hnobody thread
    rw [writes_self] at hself
    rw [workersOf_spawns, if_neg (show base ≠ block from hself)]
    apply h.staffed block hdvd hlt
    intro other
    by_cases hsame : other = thread
    · rw [hsame, hwriter]
      exact hself
    · have hother := hnobody other
      rwa [writes_of_ne hsame] at hother
  · intro other block rest hother
    show ((s.spawns base).workersOf block : Int) + rest = s.pool.threadsPerPool
    by_cases hsame : other = thread
    · rw [hsame, writes_self] at hother
      cases hother
      rw [workersOf_spawns, if_pos rfl]
      omega
    · rw [writes_of_ne hsame] at hother
      have hholds : (s.writer other).holdsWait := by
        rw [show s.writer other = .spawning block rest from hother]
        trivial
      exact absurd (h.alone hholds hwait) hsame

end Staffing

/-!
## Changes of the vectors
-/

section Changing

variable [DecidableEq Thread]

theorem Invariant.adds {start : HandleHandlingPool Handle Callback}
    {s : PoolState Thread Handle Callback} (h : Invariant start s)
    {thread : Thread} {handle : Handle} {callback : Callback}
    (hwriter : s.writer thread =
      .entering .writing (.addHandle handle callback)) (abort : Callback) :
    Invariant start (s.adds abort thread handle callback) := by
  obtain ⟨hmax, hspin, hthreads⟩ :=
    HandleHandlingPool.addHandle_fixed abort s.pool handle callback
  have hhandle : handle ≠ s.pool.spinWorkers := h.requests hwriter
  have hwait : (s.writer thread).holdsWait := by
    rw [hwriter]
    trivial
  constructor
  · exact h.layout.addHandle abort hhandle callback
  · exact hthreads.trans h.threads
  · exact hmax.trans h.blocks
  · exact hspin.trans h.separator
  · intro other stage request hother
    show request.handle ≠ (s.pool.addHandle abort handle callback).spinWorkers
    rw [hspin]
    refine h.requests_writes ?_ hother
    intro stage request hsame
    split at hsame <;> cases hsame
  · exact h.alone_writes fun _ => Or.inl hwait
  · exact h.unshared_writes fun _ => Or.inl hwait
  · intro base hbase
    exact absurd trivial ((h.unshared hwait).2 _ hbase)
  · intro base
    show s.workersOf base ≤ (s.pool.addHandle abort handle callback).threadsPerPool
    rw [hthreads]
    exact h.atMost base
  · intro base hdvd hlt hnobody
    show s.workersOf base = (s.pool.addHandle abort handle callback).threadsPerPool
    replace hdvd : (s.pool.addHandle abort handle callback).maxHandlesPerPool ∣
      base := hdvd
    replace hlt : base <
      (s.pool.addHandle abort handle callback).handles.length := hlt
    rw [hmax] at hdvd
    rw [hthreads]
    have hself := hnobody thread
    replace hself : ¬ ((s.writes thread _).writer thread).staffs base := hself
    rw [writes_self] at hself
    apply h.staffed base hdvd
    · exact HandleHandlingPool.old_block h.layout hdvd hlt
        fun hopens hsame => hself (by rw [if_pos hopens]; exact hsame.symm)
    · intro other
      by_cases hsame : other = thread
      · rw [hsame, hwriter]
        exact id
      · have hother := hnobody other
        replace hother : ¬ ((s.writes thread _).writer other).staffs base := hother
        rwa [writes_of_ne hsame] at hother
  · intro other base left hother
    replace hother : (s.writes thread _).writer other = .spawning base left :=
      hother
    show (s.workersOf base : Int) + left =
      (s.pool.addHandle abort handle callback).threadsPerPool
    rw [hthreads]
    by_cases hsame : other = thread
    · rw [hsame, writes_self] at hother
      split at hother <;> cases hother
    · rw [writes_of_ne hsame] at hother
      exact h.spawning hother

variable [DecidableEq Handle]

theorem Invariant.removes {start : HandleHandlingPool Handle Callback}
    {s : PoolState Thread Handle Callback} (h : Invariant start s)
    {thread : Thread} {handle : Handle}
    (hwriter : s.writer thread = .entering .writing (.removeHandle handle)) :
    Invariant start (s.removes thread handle) := by
  obtain ⟨hmax, hspin, hthreads⟩ :=
    HandleHandlingPool.removeHandle_fixed s.pool handle
  have hhandle : handle ≠ s.pool.spinWorkers := h.requests hwriter
  have hwait : (s.writer thread).holdsWait := by
    rw [hwriter]
    trivial
  have hless := HandleHandlingPool.removeHandle_length_le s.pool handle
  constructor
  · exact h.layout.removeHandle hhandle
  · exact hthreads.trans h.threads
  · exact hmax.trans h.blocks
  · exact hspin.trans h.separator
  · intro other stage request hother
    show request.handle ≠ (s.pool.removeHandle handle).spinWorkers
    rw [hspin]
    refine h.requests_writes ?_ hother
    intro stage request hsame
    cases hsame
  · exact h.alone_writes fun _ => Or.inl hwait
  · exact h.unshared_writes fun _ => Or.inl hwait
  · intro base hbase
    exact absurd trivial ((h.unshared hwait).2 _ hbase)
  · intro base
    show s.workersOf base ≤ (s.pool.removeHandle handle).threadsPerPool
    rw [hthreads]
    exact h.atMost base
  · intro base hdvd hlt hnobody
    show s.workersOf base = (s.pool.removeHandle handle).threadsPerPool
    replace hdvd : (s.pool.removeHandle handle).maxHandlesPerPool ∣ base := hdvd
    replace hlt : base < (s.pool.removeHandle handle).handles.length := hlt
    rw [hmax] at hdvd
    rw [hthreads]
    apply h.staffed base hdvd (Nat.lt_of_lt_of_le hlt hless)
    intro other
    by_cases hsame : other = thread
    · rw [hsame, hwriter]
      exact id
    · have hother := hnobody other
      replace hother : ¬ ((s.writes thread _).writer other).staffs base := hother
      rwa [writes_of_ne hsame] at hother
  · intro other base left hother
    replace hother : (s.writes thread _).writer other = .spawning base left :=
      hother
    show (s.workersOf base : Int) + left =
      (s.pool.removeHandle handle).threadsPerPool
    rw [hthreads]
    by_cases hsame : other = thread
    · rw [hsame, writes_self] at hother
      cases hother
    · rw [writes_of_ne hsame] at hother
      exact h.spawning hother

theorem Invariant.step {start : HandleHandlingPool Handle Callback}
    {s s' : PoolState Thread Handle Callback} (h : Invariant start s)
    {abort : Callback} (hstep : Step abort s s') : Invariant start s' := by
  cases hstep with
  | worker hworkers hmove => exact h.worker hworkers hmove
  | exit hworkers => exact h.exit hworkers
  | unlock hexited => exact h.unlock hexited
  | call hidle hrequest => exact h.moves (Invariant.calls hidle hrequest) _ _
  | stage hwriter hmove => exact h.moves (h.stage hwriter hmove) _ _
  | add hwriter => exact h.adds hwriter abort
  | remove hwriter => exact h.removes hwriter
  | count hwriter => exact h.count hwriter
  | spawn hwriter hleft => exact h.spawn hwriter hleft
  | spawned hwriter => exact h.spawned hwriter
  | «return» hwriter => exact h.return hwriter

theorem Reaches.invariant {start : HandleHandlingPool Handle Callback}
    {s : PoolState Thread Handle Callback} {abort : Callback}
    (h : Reaches abort start s) (hlayout : start.Layout)
    (hempty : start.handles = []) : Invariant start s := by
  induction h with
  | start => exact start_invariant hlayout hempty
  | step _ hstep ih => exact ih.step hstep

end Changing

/-!
## Every block has its workers
-/

structure Staffed (threadsPerPool blockLength : Nat) (spinWorkers : Handle)
    (s : PoolState Thread Handle Callback) : Prop where
  blocks : forall base, blockLength ∣ base -> base < s.pool.handles.length ->
    s.workersOf base = threadsPerPool
  others : forall base, ¬ (blockLength ∣ base ∧ base < s.pool.handles.length) ->
    s.workersOf base ≤ threadsPerPool
  served : forall (index : Nat) (handle : Handle),
    s.pool.handles[index]? = some handle -> handle ≠ spinWorkers ->
    exists worker, worker ∈ s.workers ∧
      handle ∈ s.pool.waitRange worker.baseIndex

theorem Invariant.served {start : HandleHandlingPool Handle Callback}
    {s : PoolState Thread Handle Callback} (h : Invariant start s)
    (hunwritten : s.Unwritten) (hthreads : 1 ≤ s.pool.threadsPerPool)
    {index : Nat} {handle : Handle}
    (hhandle : s.pool.handles[index]? = some handle) :
    exists worker, worker ∈ s.workers ∧
      handle ∈ s.pool.waitRange worker.baseIndex := by
  have htwo := h.layout.two_le
  have hlt := (List.getElem?_eq_some_iff.mp hhandle).1
  let blockLength := s.pool.maxHandlesPerPool
  let base := blockLength * (index / blockLength)
  have hsplit : base + index % blockLength = index :=
    Nat.div_add_mod index blockLength
  have hmod : index % blockLength < blockLength := Nat.mod_lt _ (by omega)
  have hcount := h.staffed base (Nat.dvd_mul_right _ _) (by omega)
    fun thread hstaffs => hunwritten thread hstaffs.holdsWait
  have hpos : 0 < s.workersOf base := by omega
  obtain ⟨worker, hworker, hbase⟩ := List.countP_pos_iff.mp hpos
  refine ⟨worker, hworker, ?_⟩
  rw [of_decide_eq_true hbase]
  have hrange : index % blockLength < s.pool.numHandles base := by
    rw [HandleHandlingPool.numHandles]
    omega
  apply List.mem_of_getElem? (i := index % blockLength)
  rw [HandleHandlingPool.getElem?_waitRange hrange, hsplit, hhandle]

section Runs

variable [DecidableEq Thread] [DecidableEq Handle]

/--
Whenever no writer has `wait_lock`, every block has its workers and every handle
somebody who waits for it; the workers to spawn never number less than none.
-/
theorem workers_kept {abort : Callback} {threadsPerPool maxHandlesPerPool : Nat}
    {spinWorkers : Handle} {start : HandleHandlingPool Handle Callback}
    (hcreate : HandleHandlingPool.create threadsPerPool maxHandlesPerPool
      spinWorkers = some start)
    {s : PoolState Thread Handle Callback} (hreach : Reaches abort start s) :
    (s.Unwritten ->
      s.Staffed threadsPerPool (maxHandlesPerPool + 1) spinWorkers) ∧
    (forall thread base, s.writer thread = .counting base ->
      0 ≤ s.threadsToSpawn base) ∧
    forall thread base left, s.writer thread = .spawning base left ->
      0 ≤ left := by
  have hlayout := HandleHandlingPool.create_layout hcreate
  obtain ⟨hpos, hone, hmax, rfl⟩ :=
    HandleHandlingPool.create_eq_some hcreate
  have h := hreach.invariant hlayout rfl
  refine ⟨?_, ?_, ?_⟩
  · intro hunwritten
    have hnobody : forall base thread, ¬ (s.writer thread).staffs base :=
      fun base thread hstaffs => hunwritten thread hstaffs.holdsWait
    have hall : s.pool.threadsPerPool = threadsPerPool := h.threads
    have hblocks : s.pool.maxHandlesPerPool = maxHandlesPerPool + 1 := h.blocks
    constructor
    · intro base hdvd hlt
      rw [← hblocks] at hdvd
      rw [h.staffed base hdvd hlt (hnobody base), hall]
    · intro base hother
      rw [← hall]
      exact h.atMost base
    · intro index handle hhandle hreal
      refine h.served hunwritten ?_ hhandle
      rw [h.threads]
      exact hpos
  · intro thread base hcounting
    have hmost := h.atMost base
    rw [threadsToSpawn_eq]
    omega
  · intro thread base left hspawning
    have hcount := h.spawning hspawning
    have hmost := h.atMost base
    omega

def adding (phase : WriterPhase Nat Nat) (pendingWriter spinning : Bool)
    (handles callbacks : List Nat) (workers : List (Worker Nat)) :
    PoolState Unit Nat Nat :=
  { pool :=
      { threadsPerPool := 1, maxHandlesPerPool := 2, spinWorkers := 0
        handles, callbacks }
    workers, exited := 0, writer := fun _ => phase, pendingWriter, spinning }

theorem adding_stage {stage stage' : Stage} {request : PoolRequest Nat Nat}
    {pendingWriter spinning pendingWriter' spinning' : Bool}
    (h : StageStep
      (adding (.entering stage request) pendingWriter spinning [] [] [])
      stage stage' pendingWriter' spinning') :
    Step 9 (adding (.entering stage request) pendingWriter spinning [] [] [])
      (adding (.entering stage' request) pendingWriter' spinning' [] [] []) :=
  @Step.stage _ _ _ _ _ _
    (adding (.entering stage request) pendingWriter spinning [] [] []) ()
    stage stage' request pendingWriter' spinning' rfl h

theorem reaches_writing {request : PoolRequest Nat Nat}
    (hreal : request.handle ≠ 0) :
    Reaches 9 (adding .idle false false [] [] []).pool
      (adding (.entering .writing request) false false [] [] []) := by
  have hcall : Step 9 (adding .idle false false [] [] [])
      (adding (.entering .claiming request) false false [] [] []) :=
    @Step.call _ _ _ _ _ _ (adding .idle false false [] [] []) () request rfl
      hreal
  have hunshared :
      (adding (.entering .locking request) true true [] [] []).Unshared :=
    ⟨rfl, fun _ => List.not_mem_nil.elim⟩
  have hclaimed := (Reaches.start.step hcall).step
    (adding_stage (.claim fun _ => id))
  have hlocking := (hclaimed.step (adding_stage .announce)).step
    (adding_stage .signal)
  have hlocked := hlocking.step (adding_stage (.lock (fun _ => id) hunshared))
  exact ((hlocked.step (adding_stage .reset)).step (adding_stage .clear)).step
    (adding_stage .unlock)

theorem reaches_added :
    Reaches 9 (adding .idle false false [] [] []).pool
      (adding .idle false false [0, 5] [9, 7] [⟨0, .looping⟩]) := by
  have hadd : Step 9
      (adding (.entering .writing (.addHandle 5 7)) false false [] [] [])
      (adding (.counting 0) false false [0, 5] [9, 7] []) :=
    @Step.add _ _ _ _ _ _
      (adding (.entering .writing (.addHandle 5 7)) false false [] [] []) ()
      5 7 rfl
  have hcount : Step 9 (adding (.counting 0) false false [0, 5] [9, 7] [])
      (adding (.spawning 0 1) false false [0, 5] [9, 7] []) :=
    @Step.count _ _ _ _ _ _
      (adding (.counting 0) false false [0, 5] [9, 7] []) () 0 rfl
  have hspawn : Step 9 (adding (.spawning 0 1) false false [0, 5] [9, 7] [])
      (adding (.spawning 0 0) false false [0, 5] [9, 7] [⟨0, .looping⟩]) :=
    @Step.spawn _ _ _ _ _ _
      (adding (.spawning 0 1) false false [0, 5] [9, 7] []) () 0 1 rfl
      (by decide)
  have hspawned : Step 9
      (adding (.spawning 0 0) false false [0, 5] [9, 7] [⟨0, .looping⟩])
      (adding .leaving false false [0, 5] [9, 7] [⟨0, .looping⟩]) :=
    @Step.spawned _ _ _ _ _ _
      (adding (.spawning 0 0) false false [0, 5] [9, 7] [⟨0, .looping⟩]) ()
      0 rfl
  have hreturn : Step 9
      (adding .leaving false false [0, 5] [9, 7] [⟨0, .looping⟩])
      (adding .idle false false [0, 5] [9, 7] [⟨0, .looping⟩]) :=
    @Step.return _ _ _ _ _ _
      (adding .leaving false false [0, 5] [9, 7] [⟨0, .looping⟩]) () rfl
  have hreal : (PoolRequest.addHandle 5 7).handle ≠ 0 := by decide
  have hwriting := reaches_writing hreal
  exact ((((hwriting.step hadd).step hcount).step hspawn).step
    hspawned).step hreturn

/-- A handle has been added, and its worker is there. -/
theorem workers_kept_added :
    Staffed 1 2 0 (adding .idle false false [0, 5] [9, 7] [⟨0, .looping⟩]) :=
  (workers_kept (by rfl : HandleHandlingPool.create 1 1 0 = some _)
    reaches_added).1 fun _ => id

end Runs

end PoolState

end DirectPlayLite
