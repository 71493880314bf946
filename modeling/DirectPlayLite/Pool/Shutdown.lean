import DirectPlayLite.Pool.Handles
import Mathlib.Algebra.BigOperators.Group.Finset.Basic
import Mathlib.Algebra.Order.BigOperators.Group.Finset
import Mathlib.Order.Interval.Finset.Nat
import Mathlib.Logic.Function.Basic

/-!
# The end of a pool

The destructor of a pool tells its workers to stop and waits until all of them have left.
A worker that leaves joins the thread that left before it and puts itself into its place;
the last one is joined by the destructor.  `add_handle` and `remove_handle` have `wait_lock`
for themselves when they change the pool, which is one step here.
-/

namespace DirectPlayLite

variable {Handle Callback : Type}

/-!
## States
-/

inductive ExitStage where
  | locking
  | locked
  /-- Has joined the thread that left before it, if there was one. -/
  | reaped
  | swapped
  /-- Is no active worker any more. -/
  | erased
  | unlocked
  /-- Has notified `workers_cv`. -/
  | leaving
deriving DecidableEq

inductive ThreadPhase (Callback : Type) where
  | unstarted
  | looping
  | checking
  /-- In `WaitForMultipleObjects`. -/
  | waiting
  /-- Has its result, if it has not failed. -/
  | woken (waitRes : Option Nat)
  | calling (callback : Callback)
  | exiting (stage : ExitStage)
  | ended

inductive DestructorPhase where
  | idle
  | stopping
  | locking
  | locked
  /-- Waits for `workers_cv`. -/
  | waiting
  | reaping
  | closing
  | done
deriving DecidableEq

namespace ThreadPhase

def isActive : ThreadPhase Callback -> Bool
  | unstarted | exiting .erased | exiting .unlocked | exiting .leaving | ended => false
  | _ => true

def holdsShared : ThreadPhase Callback -> Bool
  | checking | waiting | woken _ | exiting _ => true
  | _ => false

def holdsLock : ThreadPhase Callback -> Bool
  | exiting .locked | exiting .reaped | exiting .swapped | exiting .erased => true
  | _ => false

def isGone : ThreadPhase Callback -> Bool
  | exiting .swapped | exiting .erased | exiting .unlocked | exiting .leaving | ended => true
  | _ => false

def hasNotified : ThreadPhase Callback -> Bool
  | exiting .leaving | ended => true
  | _ => false

variable {phase : ThreadPhase Callback}

theorem notifies_of_isActive (h : phase.isActive = true) :
    phase ≠ .unstarted ∧ phase.hasNotified = false := by
  cases phase with
  | exiting stage => cases stage <;> first | exact ⟨by simp, rfl⟩ | cases h
  | unstarted => cases h
  | ended => cases h
  | _ => exact ⟨by simp, rfl⟩

theorem gone_of_inactive (hstarted : phase ≠ .unstarted)
    (h : phase.isActive = false) : phase.isGone = true := by
  cases phase with
  | unstarted => exact absurd rfl hstarted
  | exiting stage => cases stage <;> first | rfl | cases h
  | ended => rfl
  | _ => cases h

theorem hasNotified_of_isGone (h : phase.isGone = false) : phase.hasNotified = false := by
  cases phase with
  | exiting stage => cases stage <;> first | rfl | cases h
  | ended => cases h
  | _ => rfl

end ThreadPhase

namespace DestructorPhase

def holdsLock : DestructorPhase -> Bool
  | locked | reaping | closing => true
  | _ => false

def hasSignalled : DestructorPhase -> Bool
  | idle | stopping => false
  | _ => true

def isAlone : DestructorPhase -> Bool
  | reaping | closing | done => true
  | _ => false

def hasReaped : DestructorPhase -> Bool
  | closing | done => true
  | _ => false

theorem alone_of_hasReaped {phase : DestructorPhase}
    (h : phase.hasReaped = true) : phase.isAlone = true := by
  cases phase <;> first | rfl | cases h

end DestructorPhase

inductive LockHolder where
  | worker (thread : Nat)
  | destructor
deriving DecidableEq

/-- A pool with its threads, which are numbered as they are spawned. -/
structure LivePool (Handle Callback : Type) where
  pool : HandleHandlingPool Handle Callback
  spawned : Nat
  baseIndex : Nat -> Nat
  phase : Nat -> ThreadPhase Callback
  activeWorkers : Finset Nat
  /-- The thread that the `thread` of a worker can join. -/
  ownThread : Nat -> Option Nat
  /-- The thread that `join_worker` can join. -/
  joinWorker : Option Nat
  workersLock : Option LockHolder
  /-- The threads that have been joined. -/
  joined : List Nat
  stopping : Bool
  /-- Whether `spin_workers` is signalled. -/
  spinning : Bool
  destructor : DestructorPhase

namespace LivePool

def start (pool : HandleHandlingPool Handle Callback) : LivePool Handle Callback where
  pool := pool
  spawned := 0
  baseIndex := fun _ => 0
  phase := fun _ => .unstarted
  activeWorkers := ∅
  ownThread := fun _ => none
  joinWorker := none
  workersLock := none
  joined := []
  stopping := false
  spinning := false
  destructor := .idle

def move (s : LivePool Handle Callback) (thread : Nat) (phase : ThreadPhase Callback) :
    LivePool Handle Callback :=
  { s with phase := Function.update s.phase thread phase }

/-- The workers that a new block has to get, as a block that has gone away has left some. -/
def threadsToSpawn (s : LivePool Handle Callback) (base : Nat) : Nat :=
  s.pool.threadsPerPool - (s.activeWorkers.filter fun thread => s.baseIndex thread = base).card

def spawn (s : LivePool Handle Callback) (base count : Nat) : LivePool Handle Callback :=
  let isNew := fun thread => s.spawned ≤ thread ∧ thread < s.spawned + count
  { s with
    spawned := s.spawned + count
    baseIndex := fun thread => if isNew thread then base else s.baseIndex thread
    phase := fun thread => if isNew thread then .looping else s.phase thread
    ownThread := fun thread => if isNew thread then some thread else s.ownThread thread
    activeWorkers := s.activeWorkers ∪ Finset.Ico s.spawned (s.spawned + count) }

def addHandle (abort : Callback) (s : LivePool Handle Callback) (handle : Handle)
    (callback : Callback) : LivePool Handle Callback :=
  let base := s.pool.handles.length
  let count := if s.pool.opensBlock then s.threadsToSpawn base else 0
  { s.spawn base count with
    pool := s.pool.addHandle abort handle callback
    spinning := false }

def removeHandle [DecidableEq Handle] (s : LivePool Handle Callback) (handle : Handle) :
    LivePool Handle Callback :=
  { s with
    pool := s.pool.removeHandle handle
    spinning := false }

/-!
## Steps
-/

inductive LifeLabel (Handle Callback : Type) where
  | worker (thread : Nat)
  /-- A writer signals `spin_workers`. -/
  | announce
  | request (request : PoolRequest Handle Callback)
  | destructor
  /-- The destructor stops waiting for `workers_cv` although nobody has notified it. -/
  | spurious

def LifeLabel.isSpurious : LifeLabel Handle Callback -> Bool
  | .spurious => true
  | _ => false

inductive LoopStep (s : LivePool Handle Callback) (base : Nat) :
    ThreadPhase Callback -> ThreadPhase Callback -> Prop where
  | lock : LoopStep s base .looping .checking
  | unneeded : s.pool.handles.length ≤ base ->
      LoopStep s base .checking (.exiting .locking)
  | wait : base < s.pool.handles.length -> LoopStep s base .checking .waiting
  | spun : s.spinning = true -> LoopStep s base .waiting (.woken (some 0))
  | signalled {waitRes : Nat} : s.spinning = false -> 1 ≤ waitRes ->
      waitRes < s.pool.numHandles base -> LoopStep s base .waiting (.woken (some waitRes))
  /-- `WAIT_FAILED`. -/
  | failed : LoopStep s base .waiting (.woken none)
  | stop {waitRes : Option Nat} : s.stopping = true ->
      LoopStep s base (.woken waitRes) (.exiting .locking)
  | again : s.stopping = false -> LoopStep s base (.woken (some 0)) .looping
  | call {waitRes : Nat} {callback : Callback} : s.stopping = false -> 1 ≤ waitRes ->
      s.pool.callbacks[base + waitRes]? = some callback ->
      LoopStep s base (.woken (some waitRes)) (.calling callback)
  | fail : s.stopping = false -> LoopStep s base (.woken none) (.exiting .locking)
  | called {callback : Callback} : LoopStep s base (.calling callback) .looping

inductive ExitStep (s : LivePool Handle Callback) (thread : Nat) :
    ExitStage -> LivePool Handle Callback -> Prop where
  | lock : s.workersLock = none ->
      ExitStep s thread .locking
        { s.move thread (.exiting .locked) with workersLock := some (.worker thread) }
  | reap {other : Nat} : s.joinWorker = some other -> s.phase other = .ended ->
      ExitStep s thread .locked
        { s.move thread (.exiting .reaped) with
          joinWorker := none
          joined := s.joined ++ [other] }
  | unjoined : s.joinWorker = none ->
      ExitStep s thread .locked (s.move thread (.exiting .reaped))
  | swap :
      ExitStep s thread .reaped
        { s.move thread (.exiting .swapped) with
          joinWorker := s.ownThread thread
          ownThread := Function.update s.ownThread thread s.joinWorker }
  | erase :
      ExitStep s thread .swapped
        { s.move thread (.exiting .erased) with
          activeWorkers := s.activeWorkers.erase thread }
  | unlock :
      ExitStep s thread .erased
        { s.move thread (.exiting .unlocked) with workersLock := none }
  | notify :
      ExitStep s thread .unlocked
        { s.move thread (.exiting .leaving) with
          destructor := if s.destructor = .waiting then .locking else s.destructor }
  | leave : ExitStep s thread .leaving (s.move thread .ended)

inductive DestructorStep (s : LivePool Handle Callback) :
    DestructorPhase -> LivePool Handle Callback -> Prop where
  /-- No call of another method is under way. -/
  | stop : s.spinning = false ->
      DestructorStep s .idle { s with stopping := true, destructor := .stopping }
  | signal : DestructorStep s .stopping { s with spinning := true, destructor := .locking }
  | lock : s.workersLock = none ->
      DestructorStep s .locking
        { s with workersLock := some .destructor, destructor := .locked }
  | wait : s.activeWorkers ≠ ∅ ->
      DestructorStep s .locked { s with workersLock := none, destructor := .waiting }
  | proceed : s.activeWorkers = ∅ ->
      DestructorStep s .locked { s with destructor := .reaping }
  | reap {other : Nat} : s.joinWorker = some other -> s.phase other = .ended ->
      DestructorStep s .reaping
        { s with joinWorker := none, joined := s.joined ++ [other], destructor := .closing }
  | unjoined : s.joinWorker = none ->
      DestructorStep s .reaping { s with destructor := .closing }
  | close : DestructorStep s .closing { s with workersLock := none, destructor := .done }

section Steps

variable [DecidableEq Handle]

inductive Step (abort : Callback) (s : LivePool Handle Callback) :
    LifeLabel Handle Callback -> LivePool Handle Callback -> Prop where
  | loop {thread : Nat} {phase : ThreadPhase Callback} :
      LoopStep s (s.baseIndex thread) (s.phase thread) phase ->
      Step abort s (.worker thread) (s.move thread phase)
  | exit {thread : Nat} {stage : ExitStage} {s' : LivePool Handle Callback} :
      s.phase thread = .exiting stage -> ExitStep s thread stage s' ->
      Step abort s (.worker thread) s'
  | announce : s.destructor = .idle ->
      Step abort s .announce { s with spinning := true }
  | add {handle : Handle} {callback : Callback} : s.destructor = .idle ->
      s.spinning = true -> (forall thread, (s.phase thread).holdsShared = false) ->
      Step abort s (.request (.addHandle handle callback)) (s.addHandle abort handle callback)
  | remove {handle : Handle} : s.destructor = .idle -> s.spinning = true ->
      (forall thread, (s.phase thread).holdsShared = false) ->
      Step abort s (.request (.removeHandle handle)) (s.removeHandle handle)
  | destructor {s' : LivePool Handle Callback} : DestructorStep s s.destructor s' ->
      Step abort s .destructor s'
  | spurious : s.destructor = .waiting ->
      Step abort s .spurious { s with destructor := .locking }

inductive Reaches (abort : Callback) (pool : HandleHandlingPool Handle Callback) :
    LivePool Handle Callback -> Prop where
  | start : Reaches abort pool (start pool)
  | step {s s' : LivePool Handle Callback} {label : LifeLabel Handle Callback} :
      Reaches abort pool s -> Step abort s label s' -> Reaches abort pool s'

end Steps

/-!
## What every step keeps
-/

structure Orderly (s : LivePool Handle Callback) : Prop where
  started : forall thread, s.phase thread = .unstarted ↔ s.spawned ≤ thread
  active : forall thread, thread ∈ s.activeWorkers ↔ (s.phase thread).isActive = true
  locks : forall thread, (s.phase thread).holdsLock = true ↔
    s.workersLock = some (.worker thread)
  destroys : s.destructor.holdsLock = true ↔ s.workersLock = some .destructor
  once : s.joined.Nodup
  dead : forall thread, thread ∈ s.joined -> s.phase thread = .ended
  gone : forall thread, (s.phase thread).isGone = true ↔
    s.joinWorker = some thread ∨ thread ∈ s.joined
  apart : forall thread, s.joinWorker = some thread -> thread ∉ s.joined
  own : forall thread, s.phase thread ≠ .unstarted -> (s.phase thread).isGone = false ->
    s.ownThread thread = some thread
  /-- A worker that is deleted has no thread left to be joined. -/
  bare : forall thread, s.phase thread = .exiting .swapped -> s.ownThread thread = none
  vacant : forall thread, s.phase thread = .exiting .reaped -> s.joinWorker = none
  closed : s.destructor.hasReaped = true -> s.joinWorker = none
  alone : s.destructor.isAlone = true -> s.activeWorkers = ∅
  told : s.destructor ≠ .idle -> s.stopping = true
  signalled : s.destructor.hasSignalled = true -> s.spinning = true
  /-- Somebody will notify the destructor. -/
  awaited : s.destructor = .waiting -> exists thread, s.phase thread ≠ .unstarted ∧
    (s.phase thread).hasNotified = false

section Invariant

variable {s s' : LivePool Handle Callback} {thread other : Nat}
  {phase : ThreadPhase Callback} {abort : Callback} {pool : HandleHandlingPool Handle Callback}

theorem start_orderly : (start pool : LivePool Handle Callback).Orderly where
  started := fun _ => ⟨fun _ => Nat.zero_le _, fun _ => rfl⟩
  active := fun _ => by simp [start, ThreadPhase.isActive]
  locks := fun _ => by simp [start, ThreadPhase.holdsLock]
  destroys := by simp [start, DestructorPhase.holdsLock]
  once := List.nodup_nil
  dead := fun _ h => by cases h
  gone := fun _ => by simp [start, ThreadPhase.isGone]
  apart := fun _ h => by cases h
  own := fun _ h => absurd rfl h
  bare := fun _ h => by cases h
  vacant := fun _ h => by cases h
  closed := fun h => by cases h
  alone := fun h => by cases h
  told := fun h => absurd rfl h
  signalled := fun h => by cases h
  awaited := fun h => by cases h

structure Quiet (before after : ThreadPhase Callback) : Prop where
  before_active : before.isActive = true
  after_active : after.isActive = true
  before_lock : before.holdsLock = false
  after_lock : after.holdsLock = false
  before_gone : before.isGone = false
  after_gone : after.isGone = false

theorem LoopStep.quiet {base : Nat} {before after : ThreadPhase Callback}
    (h : LoopStep s base before after) : Quiet before after := by
  cases h <;> exact ⟨rfl, rfl, rfl, rfl, rfl, rfl⟩

attribute [local grind] ThreadPhase.isActive ThreadPhase.holdsLock ThreadPhase.isGone
  ThreadPhase.hasNotified DestructorPhase.holdsLock DestructorPhase.hasSignalled
  DestructorPhase.isAlone DestructorPhase.hasReaped

attribute [local grind =] Function.update_apply

theorem Orderly.not_alone (h : s.Orderly) (hactive : (s.phase thread).isActive = true) :
    s.destructor.isAlone = false := by
  have hmem := (h.active thread).mpr hactive
  cases halone : s.destructor.isAlone with
  | false => rfl
  | true =>
    rw [h.alone halone] at hmem
    cases hmem

theorem Orderly.exists_active (h : s.Orderly) (hactive : s.activeWorkers ≠ ∅) :
    exists thread, s.phase thread ≠ .unstarted ∧ (s.phase thread).hasNotified = false := by
  rcases Finset.nonempty_iff_ne_empty.mpr hactive with ⟨thread, hmem⟩
  exact ⟨thread, ThreadPhase.notifies_of_isActive ((h.active thread).mp hmem)⟩

theorem awaited_move (hstarted : phase ≠ .unstarted) (hnotified : phase.hasNotified = false) :
    exists other, Function.update s.phase thread phase other ≠ .unstarted ∧
      (Function.update s.phase thread phase other).hasNotified = false := by
  refine ⟨thread, ?_⟩
  rw [Function.update_self]
  exact ⟨hstarted, hnotified⟩

theorem Orderly.loop (h : s.Orderly) (hquiet : Quiet (s.phase thread) phase) :
    (s.move thread phase).Orderly := by
  have hnotified := ThreadPhase.hasNotified_of_isGone hquiet.after_gone
  rcases hquiet with ⟨hactive, hactive', hlock, hlock', hgone, hgone'⟩
  have hstarted : phase ≠ .unstarted := by
    rintro rfl
    cases hactive'
  have hstarted' : s.phase thread ≠ .unstarted := by
    intro hphase
    rw [hphase] at hactive
    cases hactive
  cases h
  unfold move
  constructor
  case awaited => exact fun _ => awaited_move hstarted hnotified
  all_goals first | assumption | grind

theorem Orderly.lockWorkers (h : s.Orderly) (hphase : s.phase thread = .exiting .locking)
    (hfree : s.workersLock = none) :
    ({ s.move thread (.exiting .locked) with workersLock := some (.worker thread) } :
      LivePool Handle Callback).Orderly := by
  cases h
  unfold move
  constructor
  case awaited => exact fun _ => awaited_move (by simp) rfl
  all_goals first | assumption | grind

theorem Orderly.reapZombie (h : s.Orderly) (hphase : s.phase thread = .exiting .locked)
    (hjoin : s.joinWorker = some other) (hended : s.phase other = .ended) :
    ({ s.move thread (.exiting .reaped) with
        joinWorker := none
        joined := s.joined ++ [other] } : LivePool Handle Callback).Orderly := by
  have hnew := h.apart other hjoin
  cases h
  unfold move
  constructor
  case awaited => exact fun _ => awaited_move (by simp) rfl
  all_goals first | assumption | grind

theorem Orderly.leaveVacant (h : s.Orderly) (hphase : s.phase thread = .exiting .locked)
    (hjoin : s.joinWorker = none) : (s.move thread (.exiting .reaped)).Orderly := by
  cases h
  unfold move
  constructor
  case awaited => exact fun _ => awaited_move (by simp) rfl
  all_goals first | assumption | grind

theorem Orderly.swapThread (h : s.Orderly) (hphase : s.phase thread = .exiting .reaped) :
    ({ s.move thread (.exiting .swapped) with
        joinWorker := s.ownThread thread
        ownThread := Function.update s.ownThread thread s.joinWorker } :
      LivePool Handle Callback).Orderly := by
  have hvacant : s.joinWorker = none := h.vacant thread hphase
  have hown : s.ownThread thread = some thread := by
    apply h.own thread
    · rw [hphase]
      simp
    · rw [hphase]
      rfl
  have hnobody : s.destructor.hasReaped = false := by
    have hactive : (s.phase thread).isActive = true := by
      rw [hphase]
      rfl
    have halone := h.not_alone hactive
    exact Bool.eq_false_iff.mpr (mt DestructorPhase.alone_of_hasReaped (by simp [halone]))
  cases h
  unfold move
  constructor
  case awaited => exact fun _ => awaited_move (by simp) rfl
  all_goals first | assumption | grind

theorem Orderly.eraseWorker (h : s.Orderly) (hphase : s.phase thread = .exiting .swapped) :
    ({ s.move thread (.exiting .erased) with
        activeWorkers := s.activeWorkers.erase thread } : LivePool Handle Callback).Orderly := by
  cases h
  unfold move
  constructor
  case awaited => exact fun _ => awaited_move (by simp) rfl
  all_goals first | assumption | grind

theorem Orderly.unlockWorkers (h : s.Orderly) (hphase : s.phase thread = .exiting .erased) :
    ({ s.move thread (.exiting .unlocked) with workersLock := none } :
      LivePool Handle Callback).Orderly := by
  cases h
  unfold move
  constructor
  case awaited => exact fun _ => awaited_move (by simp) rfl
  all_goals first | assumption | grind

theorem Orderly.notifyDestructor (h : s.Orderly)
    (hphase : s.phase thread = .exiting .unlocked) :
    ({ s.move thread (.exiting .leaving) with
        destructor := if s.destructor = .waiting then .locking else s.destructor } :
      LivePool Handle Callback).Orderly := by
  cases h
  unfold move
  constructor <;> first | assumption | grind

theorem Orderly.leave (h : s.Orderly) (hphase : s.phase thread = .exiting .leaving) :
    (s.move thread .ended).Orderly := by
  rcases h with ⟨_, _, _, _, _, _, _, _, _, _, _, _, _, _, _, hawaited⟩
  unfold move
  constructor
  case awaited =>
    intro hwaiting
    rcases hawaited hwaiting with ⟨other, hother⟩
    exact ⟨other, by grind⟩
  all_goals first | assumption | grind

theorem Orderly.exitStep {stage : ExitStage} (h : s.Orderly)
    (hphase : s.phase thread = .exiting stage) (hstep : ExitStep s thread stage s') :
    s'.Orderly := by
  cases hstep with
  | lock hfree => exact h.lockWorkers hphase hfree
  | reap hjoin hended => exact h.reapZombie hphase hjoin hended
  | unjoined hjoin => exact h.leaveVacant hphase hjoin
  | swap => exact h.swapThread hphase
  | erase => exact h.eraseWorker hphase
  | unlock => exact h.unlockWorkers hphase
  | notify => exact h.notifyDestructor hphase
  | leave => exact h.leave hphase

theorem Orderly.advance {lock : Option LockHolder} {stopping spinning : Bool}
    {destructor : DestructorPhase} (h : s.Orderly)
    (hlocks : forall thread, s.workersLock = some (.worker thread) ↔
      lock = some (.worker thread))
    (hdestroys : destructor.holdsLock = true ↔ lock = some .destructor)
    (hclosed : destructor.hasReaped = true -> s.joinWorker = none)
    (halone : destructor.isAlone = true -> s.activeWorkers = ∅)
    (htold : destructor ≠ .idle -> stopping = true)
    (hsignalled : destructor.hasSignalled = true -> spinning = true)
    (hawaited : destructor = .waiting -> exists thread, s.phase thread ≠ .unstarted ∧
      (s.phase thread).hasNotified = false) :
    ({ s with
        workersLock := lock
        stopping := stopping
        spinning := spinning
        destructor := destructor } : LivePool Handle Callback).Orderly :=
  { h with
    locks := fun thread => (h.locks thread).trans (hlocks thread)
    destroys := hdestroys
    closed := hclosed
    alone := halone
    told := htold
    signalled := hsignalled
    awaited := hawaited }

theorem Orderly.reapLast (h : s.Orderly) (hphase : s.destructor = .reaping)
    (hjoin : s.joinWorker = some other) (hended : s.phase other = .ended) :
    ({ s with
        joinWorker := none
        joined := s.joined ++ [other]
        destructor := .closing } : LivePool Handle Callback).Orderly := by
  have hnew := h.apart other hjoin
  have hdestroys := h.destroys
  have halone := h.alone
  have htold := h.told
  have hsignalled := h.signalled
  rw [hphase] at hdestroys halone htold hsignalled
  exact
    { h with
      destroys := hdestroys
      once := List.nodup_append.mpr ⟨h.once, List.nodup_singleton other, by
        intro thread hthread last hlast
        rintro rfl
        rw [List.mem_singleton] at hlast
        exact hnew (hlast ▸ hthread)⟩
      dead := by
        intro thread hthread
        rcases List.mem_append.mp hthread with hthread | hlast
        · exact h.dead thread hthread
        · rw [List.mem_singleton.mp hlast]
          exact hended
      gone := by
        intro thread
        rw [h.gone thread, hjoin, List.mem_append, List.mem_singleton, Option.some_inj]
        simp [or_comm, eq_comm]
      apart := fun _ hnone => by cases hnone
      vacant := fun _ _ => rfl
      closed := fun _ => rfl
      alone := fun _ => halone rfl
      told := fun _ => htold (by simp)
      signalled := fun _ => hsignalled rfl
      awaited := fun hwaiting => by cases hwaiting }

theorem Orderly.destructorStep (h : s.Orderly) (hstep : DestructorStep s s.destructor s') :
    s'.Orderly := by
  have hdestroys := h.destroys
  have hclosed := h.closed
  have halone := h.alone
  have htold := h.told
  have hsignalled := h.signalled
  generalize hphase : s.destructor = phase at *
  cases hstep with
  | stop hspinning =>
    exact h.advance (fun _ => Iff.rfl) hdestroys hclosed halone (fun _ => rfl) hsignalled
      (by simp)
  | signal =>
    exact h.advance (fun _ => Iff.rfl) hdestroys hclosed halone (fun _ => htold (by simp))
      (fun _ => rfl) (by simp)
  | lock hfree =>
    exact h.advance (by simp [hfree]) (by simp [DestructorPhase.holdsLock]) hclosed halone
      (fun _ => htold (by simp)) (fun _ => hsignalled rfl) (by simp)
  | wait hactive =>
    exact h.advance (by simp [hdestroys.mp rfl]) (by simp [DestructorPhase.holdsLock]) hclosed
      halone (fun _ => htold (by simp)) (fun _ => hsignalled rfl)
      (fun _ => h.exists_active hactive)
  | proceed hactive =>
    exact h.advance (fun _ => Iff.rfl) hdestroys hclosed (fun _ => hactive)
      (fun _ => htold (by simp)) (fun _ => hsignalled rfl) (by simp)
  | reap hjoin hended => exact h.reapLast hphase hjoin hended
  | unjoined hjoin =>
    exact h.advance (fun _ => Iff.rfl) hdestroys (fun _ => hjoin) (fun _ => halone rfl)
      (fun _ => htold (by simp)) (fun _ => hsignalled rfl) (by simp)
  | close =>
    exact h.advance (by simp [hdestroys.mp rfl]) (by simp [DestructorPhase.holdsLock])
      (fun _ => hclosed rfl) (fun _ => halone rfl) (fun _ => htold (by simp))
      (fun _ => hsignalled rfl) (by simp)

theorem Orderly.spawn (h : s.Orderly) (base count : Nat) (hidle : s.destructor = .idle) :
    (s.spawn base count).Orderly := by
  have hfresh : forall other, s.spawned ≤ other -> s.phase other = .unstarted :=
    fun other => (h.started other).mpr
  cases h
  unfold LivePool.spawn
  constructor <;> first | assumption | grind

theorem Orderly.change (h : s.Orderly) (hidle : s.destructor = .idle)
    (pool : HandleHandlingPool Handle Callback) (spinning : Bool) :
    ({ s with pool := pool, spinning := spinning } : LivePool Handle Callback).Orderly := by
  cases h
  constructor <;> first | assumption | grind

theorem Orderly.step [DecidableEq Handle] {label : LifeLabel Handle Callback} (h : s.Orderly)
    (hstep : Step abort s label s') : s'.Orderly := by
  cases hstep with
  | loop hloop => exact h.loop hloop.quiet
  | exit hphase hexit => exact h.exitStep hphase hexit
  | announce hidle => exact h.change hidle s.pool true
  | add hidle hspinning hnobody => exact (h.spawn _ _ hidle).change hidle _ false
  | remove hidle hspinning hnobody => exact h.change hidle _ false
  | destructor hdestructor => exact h.destructorStep hdestructor
  | spurious hwaiting =>
    cases h
    constructor <;> first | assumption | grind

theorem Reaches.orderly [DecidableEq Handle] (h : Reaches abort pool s) : s.Orderly := by
  induction h with
  | start => exact start_orderly
  | step _ hstep ih => exact ih.step hstep

end Invariant

/-!
A pool with two workers for its block, which wait for their handle when the destructor
begins; the second that leaves joins the first.
-/

def twoPool : HandleHandlingPool Nat Nat where
  threadsPerPool := 2
  maxHandlesPerPool := 2
  spinWorkers := 0
  handles := []
  callbacks := []

theorem reaches_done : exists s s', Reaches 0 twoPool s ∧ s.destructor = .waiting ∧
    s.phase 0 = .waiting ∧ s.phase 1 = .waiting ∧ Reaches 0 twoPool s' ∧
      s'.destructor = .done ∧ s'.joined = [0, 1] := by
  have h0 : Reaches 0 twoPool (start twoPool) := .start
  have h1 := h0.step (.announce rfl)
  have h2 := h1.step (.add rfl rfl fun _ => rfl : Step 0 _ (.request (.addHandle 7 8)) _)
  have h3 := h2.step (.loop .lock : Step 0 _ (.worker 0) _)
  have h4 := h3.step (.loop (.wait (by decide)) : Step 0 _ (.worker 0) _)
  have h5 := h4.step (.loop .lock : Step 0 _ (.worker 1) _)
  have h6 := h5.step (.loop (.wait (by decide)) : Step 0 _ (.worker 1) _)
  have h7 := h6.step (.destructor (.stop rfl))
  have h8 := h7.step (.destructor .signal)
  have h9 := h8.step (.destructor (.lock rfl))
  have h10 := h9.step (.destructor (.wait (by decide)))
  have h11 := h10.step (.loop (.spun rfl) : Step 0 _ (.worker 0) _)
  have h12 := h11.step (.loop (.stop rfl) : Step 0 _ (.worker 0) _)
  have h13 := h12.step (.exit rfl (.lock rfl) : Step 0 _ (.worker 0) _)
  have h14 := h13.step (.exit rfl (.unjoined rfl) : Step 0 _ (.worker 0) _)
  have h15 := h14.step (.exit rfl .swap : Step 0 _ (.worker 0) _)
  have h16 := h15.step (.exit rfl .erase : Step 0 _ (.worker 0) _)
  have h17 := h16.step (.exit rfl .unlock : Step 0 _ (.worker 0) _)
  have h18 := h17.step (.exit rfl .notify : Step 0 _ (.worker 0) _)
  have h19 := h18.step (.exit rfl .leave : Step 0 _ (.worker 0) _)
  have h20 := h19.step (.loop (.spun rfl) : Step 0 _ (.worker 1) _)
  have h21 := h20.step (.loop (.stop rfl) : Step 0 _ (.worker 1) _)
  have h22 := h21.step (.exit rfl (.lock rfl) : Step 0 _ (.worker 1) _)
  have h23 := h22.step (.exit rfl (.reap rfl rfl) : Step 0 _ (.worker 1) _)
  have h24 := h23.step (.exit rfl .swap : Step 0 _ (.worker 1) _)
  have h25 := h24.step (.exit rfl .erase : Step 0 _ (.worker 1) _)
  have h26 := h25.step (.exit rfl .unlock : Step 0 _ (.worker 1) _)
  have h27 := h26.step (.exit rfl .notify : Step 0 _ (.worker 1) _)
  have h28 := h27.step (.exit rfl .leave : Step 0 _ (.worker 1) _)
  have h29 := h28.step (.destructor (.lock rfl))
  have h30 := h29.step (.destructor (.proceed rfl))
  have h31 := h30.step (.destructor (.reap rfl rfl))
  have h32 := h31.step (.destructor .close)
  exact ⟨_, _, h10, rfl, rfl, rfl, h32, rfl, rfl⟩

/-!
## No thread is lost
-/

/-- The workers of a block are never more than it is to have. -/
def Staffed (s : LivePool Handle Callback) : Prop :=
  forall base, (s.activeWorkers.filter fun thread => s.baseIndex thread = base).card ≤
    s.pool.threadsPerPool

structure ThreadsKept (s : LivePool Handle Callback) : Prop where
  /-- `threads_to_spawn` does not wrap. -/
  counted : s.Staffed
  /-- A worker that is deleted has no thread that could be joined. -/
  deleted : forall thread, s.phase thread = .exiting .swapped -> s.ownThread thread = none
  once : s.joined.Nodup
  ended : forall thread, thread ∈ s.joined -> s.phase thread = .ended
  /-- At most one thread that has ended waits to be joined. -/
  zombie : forall thread, s.phase thread = .ended ->
    s.joinWorker = some thread ∨ thread ∈ s.joined
  /-- No thread is left when the destructor closes `spin_workers`. -/
  closed : s.destructor.hasReaped = true -> s.activeWorkers = ∅ ∧ s.joinWorker = none ∧
    forall thread, thread < s.spawned -> s.phase thread = .ended ∧ thread ∈ s.joined

section Threads

variable {s s' : LivePool Handle Callback} {thread other : Nat}
  {phase : ThreadPhase Callback} {abort : Callback} {pool : HandleHandlingPool Handle Callback}

theorem Staffed.of_subset (h : s.Staffed) (hactive : s'.activeWorkers ⊆ s.activeWorkers)
    (hbase : s'.baseIndex = s.baseIndex)
    (hpool : s'.pool.threadsPerPool = s.pool.threadsPerPool) : s'.Staffed := by
  intro base
  rw [hbase, hpool]
  exact le_trans (Finset.card_le_card (Finset.filter_subset_filter _ hactive)) (h base)

theorem ExitStep.staffed {stage : ExitStage} (h : s.Staffed)
    (hstep : ExitStep s thread stage s') : s'.Staffed := by
  cases hstep with
  | erase => exact h.of_subset (Finset.erase_subset _ _) rfl rfl
  | _ => exact h.of_subset (Finset.Subset.refl _) rfl rfl

theorem DestructorStep.staffed (h : s.Staffed) (hstep : DestructorStep s s.destructor s') :
    s'.Staffed := by
  generalize s.destructor = phase at hstep
  cases hstep <;> exact h.of_subset (Finset.Subset.refl _) rfl rfl

theorem Staffed.spawn (h : s.Staffed) (horderly : s.Orderly) {base count : Nat}
    (hcount : count ≤ s.threadsToSpawn base) : (s.spawn base count).Staffed := by
  intro block
  have hold : forall thread, thread ∈ s.activeWorkers -> thread < s.spawned := by
    intro thread hmem
    have hactive := (horderly.active thread).mp hmem
    have hstarted := (ThreadPhase.notifies_of_isActive hactive).left
    exact Nat.lt_of_not_le (mt (horderly.started thread).mpr hstarted)
  have hblock := h block
  by_cases hsame : block = base
  · subst hsame
    have hsub : ((s.spawn block count).activeWorkers.filter fun thread =>
        (s.spawn block count).baseIndex thread = block) ⊆
        (s.activeWorkers.filter fun thread => s.baseIndex thread = block) ∪
          Finset.Ico s.spawned (s.spawned + count) := by
      intro thread hmem
      simp only [LivePool.spawn, Finset.mem_filter, Finset.mem_union, Finset.mem_Ico] at hmem ⊢
      grind
    have hcard := Finset.card_le_card hsub
    have hunion := Finset.card_union_le
      (s.activeWorkers.filter fun thread => s.baseIndex thread = block)
      (Finset.Ico s.spawned (s.spawned + count))
    rw [Nat.card_Ico] at hunion
    simp only [threadsToSpawn] at hcount
    change _ ≤ s.pool.threadsPerPool
    omega
  · have hsub : ((s.spawn base count).activeWorkers.filter fun thread =>
        (s.spawn base count).baseIndex thread = block) ⊆
        s.activeWorkers.filter fun thread => s.baseIndex thread = block := by
      intro thread hmem
      simp only [LivePool.spawn, Finset.mem_filter] at hmem ⊢
      grind
    exact le_trans (Finset.card_le_card hsub) hblock

theorem Staffed.step [DecidableEq Handle] {label : LifeLabel Handle Callback} (h : s.Staffed)
    (horderly : s.Orderly) (hstep : Step abort s label s') : s'.Staffed := by
  cases hstep with
  | loop hloop => exact h.of_subset (Finset.Subset.refl _) rfl rfl
  | exit hphase hexit => exact hexit.staffed h
  | add hidle hspinning hnobody =>
    have hcount : (if s.pool.opensBlock then s.threadsToSpawn s.pool.handles.length else 0) ≤
        s.threadsToSpawn s.pool.handles.length := by
      split <;> omega
    exact (h.spawn horderly hcount).of_subset (Finset.Subset.refl _) rfl
      (HandleHandlingPool.addHandle_fixed abort s.pool _ _).2.2
  | remove hidle hspinning hnobody =>
    exact h.of_subset (Finset.Subset.refl _) rfl
      (HandleHandlingPool.removeHandle_fixed s.pool _).2.2
  | destructor hdestructor => exact hdestructor.staffed h
  | _ => exact h.of_subset (Finset.Subset.refl _) rfl rfl

theorem Reaches.staffed [DecidableEq Handle] (h : Reaches abort pool s) : s.Staffed := by
  induction h with
  | start => exact fun _ => Nat.zero_le _
  | step hreaches hstep ih => exact ih.step hreaches.orderly hstep

theorem Orderly.gone_of_empty (h : s.Orderly) (hactive : s.activeWorkers = ∅)
    (hthread : thread < s.spawned) : (s.phase thread).isGone = true := by
  have hstarted : s.phase thread ≠ .unstarted := mt (h.started thread).mp (by omega)
  have hinactive : (s.phase thread).isActive = false := by
    have hmem := h.active thread
    rw [hactive] at hmem
    grind
  exact ThreadPhase.gone_of_inactive hstarted hinactive

theorem Orderly.threadsKept (h : s.Orderly) (hstaffed : s.Staffed) : s.ThreadsKept where
  counted := hstaffed
  deleted := h.bare
  once := h.once
  ended := h.dead
  zombie := by
    intro thread hended
    apply (h.gone thread).mp
    rw [hended]
    rfl
  closed := by
    intro hreaped
    have hactive := h.alone (DestructorPhase.alone_of_hasReaped hreaped)
    have hjoin := h.closed hreaped
    refine ⟨hactive, hjoin, ?_⟩
    intro thread hthread
    have hjoined : thread ∈ s.joined := by
      rcases (h.gone thread).mp (h.gone_of_empty hactive hthread) with hzombie | hjoined
      · rw [hjoin] at hzombie
        cases hzombie
      · exact hjoined
    exact ⟨h.dead thread hjoined, hjoined⟩

/-- In every state of every run, no thread object is destroyed while it can be joined, each
thread is joined at most once, and none is left when the pool is gone. -/
theorem threads_kept [DecidableEq Handle] (h : Reaches abort pool s) : s.ThreadsKept := by
  exact h.orderly.threadsKept h.staffed

theorem threads_kept_done : exists s, Reaches 0 twoPool s ∧ s.destructor = .done ∧
    s.joined = [0, 1] ∧ s.ThreadsKept := by
  rcases reaches_done with ⟨_, s, _, _, _, _, hreaches, hdone, hjoined⟩
  exact ⟨s, hreaches, hdone, hjoined, threads_kept hreaches⟩

end Threads

/-!
## The destructor returns
-/

end LivePool

/-- The most steps that a thread has left once the pool is stopping; the one that notifies
the destructor pays for another look of it at `active_workers`. -/
def ThreadPhase.stepsLeft : ThreadPhase Callback -> Nat
  | unstarted => 0
  | calling _ => 15
  | looping => 14
  | checking => 13
  | waiting => 12
  | woken _ => 11
  | exiting .locking => 10
  | exiting .locked => 9
  | exiting .reaped => 8
  | exiting .swapped => 7
  | exiting .erased => 6
  | exiting .unlocked => 5
  | exiting .leaving => 1
  | ended => 0

def DestructorPhase.stepsLeft : DestructorPhase -> Nat
  | idle => 7
  | stopping => 6
  | locking => 5
  | locked => 4
  | waiting => 3
  | reaping => 2
  | closing => 1
  | done => 0

namespace LivePool

def stepsLeft (s : LivePool Handle Callback) : Nat :=
  (Finset.range s.spawned).sum (fun thread => (s.phase thread).stepsLeft) +
    s.destructor.stepsLeft

section Returns

variable {s s' : LivePool Handle Callback} {thread other : Nat}
  {phase : ThreadPhase Callback} {abort : Callback} {pool : HandleHandlingPool Handle Callback}

theorem sum_stepsLeft (phase : ThreadPhase Callback) (hthread : thread < s.spawned) :
    (Finset.range s.spawned).sum (fun other =>
        (Function.update s.phase thread phase other).stepsLeft) + (s.phase thread).stepsLeft =
      (Finset.range s.spawned).sum (fun other => (s.phase other).stepsLeft) +
        phase.stepsLeft := by
  have hmem : thread ∈ Finset.range s.spawned := Finset.mem_range.mpr hthread
  have hothers : forall other, other ∈ (Finset.range s.spawned).erase thread ->
      (Function.update s.phase thread phase other).stepsLeft = (s.phase other).stepsLeft := by
    intro other hother
    rw [Function.update_of_ne (Finset.ne_of_mem_erase hother)]
  rw [← Finset.add_sum_erase _ _ hmem, ← Finset.add_sum_erase _ _ hmem,
    Finset.sum_congr rfl hothers, Function.update_self]
  omega

theorem Orderly.spawned_of_started (h : s.Orderly) (hphase : s.phase thread ≠ .unstarted) :
    thread < s.spawned := by
  exact Nat.lt_of_not_le (mt (h.started thread).mpr hphase)

theorem LoopStep.stepsLeft_lt {base : Nat} {before after : ThreadPhase Callback}
    (hstopping : s.stopping = true) (h : LoopStep s base before after) :
    after.stepsLeft < before.stepsLeft := by
  cases h with
  | again hgoes => rw [hstopping] at hgoes; cases hgoes
  | call hgoes => rw [hstopping] at hgoes; cases hgoes
  | fail hgoes => rw [hstopping] at hgoes; cases hgoes
  | _ => simp [ThreadPhase.stepsLeft]

theorem stepsLeft_moved (hthread : thread < s.spawned) (hspawned : s'.spawned = s.spawned)
    (hphases : s'.phase = Function.update s.phase thread phase)
    (h : phase.stepsLeft + s'.destructor.stepsLeft <
      (s.phase thread).stepsLeft + s.destructor.stepsLeft) : s'.stepsLeft < s.stepsLeft := by
  have hsum := sum_stepsLeft phase hthread
  rw [stepsLeft, stepsLeft, hspawned, hphases]
  omega

theorem ExitStep.stepsLeft_lt {stage : ExitStage} (hthread : thread < s.spawned)
    (hphase : s.phase thread = .exiting stage) (h : ExitStep s thread stage s') :
    s'.stepsLeft < s.stepsLeft := by
  cases h with
  | notify =>
    refine stepsLeft_moved hthread rfl rfl ?_
    -- The destructor has to look once more, for which the thread has been given steps.
    rw [hphase]
    dsimp only
    split
    · rename_i hwaiting
      simp [hwaiting, ThreadPhase.stepsLeft, DestructorPhase.stepsLeft]
    · exact Nat.add_lt_add_right (by simp [ThreadPhase.stepsLeft]) _
  | _ =>
    refine stepsLeft_moved hthread rfl rfl ?_
    rw [hphase]
    exact Nat.add_lt_add_right (by simp [ThreadPhase.stepsLeft]) _

theorem DestructorStep.stepsLeft_lt (h : DestructorStep s s.destructor s') :
    s'.stepsLeft < s.stepsLeft := by
  generalize hphase : s.destructor = phase at h
  cases h <;>
    exact Nat.add_lt_add_left (by simp [hphase, DestructorPhase.stepsLeft]) _

theorem Step.stepsLeft_lt [DecidableEq Handle] {label : LifeLabel Handle Callback}
    (h : s.Orderly) (hbegun : s.destructor ≠ .idle) (hstep : Step abort s label s') :
    s'.stepsLeft < s.stepsLeft ∨ label = .spurious ∧ s'.stepsLeft = s.stepsLeft + 2 := by
  cases hstep with
  | @loop thread phase hloop =>
    left
    have hstarted := (ThreadPhase.notifies_of_isActive hloop.quiet.before_active).left
    refine stepsLeft_moved (h.spawned_of_started hstarted) rfl rfl ?_
    exact Nat.add_lt_add_right (hloop.stepsLeft_lt (h.told hbegun)) _
  | @exit thread stage _ hphase hexit =>
    left
    have hstarted : s.phase thread ≠ .unstarted := by
      rw [hphase]
      simp
    exact hexit.stepsLeft_lt (h.spawned_of_started hstarted) hphase
  | announce hidle => exact absurd hidle hbegun
  | add hidle => exact absurd hidle hbegun
  | remove hidle => exact absurd hidle hbegun
  | destructor hdestructor => exact Or.inl hdestructor.stepsLeft_lt
  | spurious hwaiting =>
    right
    simp [stepsLeft, hwaiting, DestructorPhase.stepsLeft]

/-!
## Somebody can always go on
-/

/--
A step that nothing outside has to bring about: no waking of the destructor out of nothing,
and of a worker in `WaitForMultipleObjects` only its return because `spin_workers` is
signalled, not one because a handle is or because waiting fails.
-/
def Owed (s s' : LivePool Handle Callback) : LifeLabel Handle Callback -> Prop
  | .worker thread => s.phase thread = .waiting -> s'.phase thread = .woken (some 0)
  | .spurious => False
  | _ => True

def Goes [DecidableEq Handle] (abort : Callback) (s : LivePool Handle Callback) : Prop :=
  exists label s', Step abort s label s' ∧ Owed s s' label

variable [DecidableEq Handle]

theorem goes_exit {stage : ExitStage} (hphase : s.phase thread = .exiting stage)
    (h : ExitStep s thread stage s') : s.Goes abort := by
  refine ⟨.worker thread, s', .exit hphase h, ?_⟩
  intro hwaiting
  rw [hphase] at hwaiting
  cases hwaiting

theorem goes_loop {before : ThreadPhase Callback} (hphase : s.phase thread = before)
    (hnot : before ≠ .waiting) (h : LoopStep s (s.baseIndex thread) before phase) :
    s.Goes abort := by
  subst hphase
  exact ⟨.worker thread, _, .loop h, fun hwaiting => absurd hwaiting hnot⟩

theorem goes_spun (hphase : s.phase thread = .waiting) (hspinning : s.spinning = true) :
    s.Goes abort := by
  have hloop : LoopStep s (s.baseIndex thread) (s.phase thread) (.woken (some 0)) := by
    rw [hphase]
    exact .spun hspinning
  exact ⟨.worker thread, _, .loop hloop, fun _ => Function.update_self ..⟩

theorem goes_destructor {before : DestructorPhase} (hphase : s.destructor = before)
    (h : DestructorStep s before s') : s.Goes abort := by
  subst hphase
  exact ⟨.destructor, s', .destructor h, trivial⟩

theorem Orderly.goes_zombie (h : s.Orderly) (hjoin : s.joinWorker = some other)
    (hlock : s.workersLock ≠ some (.worker other)) (hleft : s.phase other ≠ .ended) :
    s.Goes abort := by
  have hgone := (h.gone other).mpr (.inl hjoin)
  have hunlocked := mt (h.locks other).mp hlock
  generalize hphase : s.phase other = phase at *
  cases phase with
  | exiting stage =>
    cases stage with
    | unlocked => exact goes_exit hphase .notify
    | leaving => exact goes_exit hphase .leave
    | locking => cases hgone
    | locked => cases hgone
    | reaped => cases hgone
    | _ => exact absurd rfl hunlocked
  | ended => exact absurd rfl hleft
  | _ => cases hgone

theorem Orderly.goes_locked (h : s.Orderly)
    (hlock : s.workersLock = some (.worker thread)) : s.Goes abort := by
  have hlocks := (h.locks thread).mpr hlock
  generalize hphase : s.phase thread = phase at hlocks
  cases phase with
  | exiting stage =>
    cases stage with
    | locked =>
      cases hjoin : s.joinWorker with
      | none => exact goes_exit hphase (.unjoined hjoin)
      | some other =>
        by_cases hended : s.phase other = .ended
        · exact goes_exit hphase (.reap hjoin hended)
        · apply h.goes_zombie hjoin _ hended
          rw [hlock]
          rintro ⟨⟩
          have hgone := (h.gone thread).mpr (.inl hjoin)
          rw [hphase] at hgone
          cases hgone
    | reaped => exact goes_exit hphase .swap
    | swapped => exact goes_exit hphase .erase
    | erased => exact goes_exit hphase .unlock
    | _ => cases hlocks
  | _ => cases hlocks

theorem Orderly.goes_or_free (h : s.Orderly) (hdestroys : s.destructor.holdsLock = false) :
    s.workersLock = none ∨ s.Goes abort := by
  cases hlock : s.workersLock with
  | none => exact Or.inl rfl
  | some holder =>
    cases holder with
    | worker thread => exact Or.inr (h.goes_locked hlock)
    | destructor =>
      rw [h.destroys.mpr hlock] at hdestroys
      cases hdestroys

theorem Orderly.goes_thread (h : s.Orderly) (hwaiting : s.destructor = .waiting)
    (hstarted : s.phase thread ≠ .unstarted)
    (hnotified : (s.phase thread).hasNotified = false) : s.Goes abort := by
  have hstopping : s.stopping = true := h.told (by rw [hwaiting]; simp)
  have hspinning : s.spinning = true := h.signalled (by rw [hwaiting]; rfl)
  have hfree : s.workersLock = none ∨ s.Goes abort :=
    h.goes_or_free (by rw [hwaiting]; rfl)
  generalize hphase : s.phase thread = phase at *
  cases phase with
  | unstarted => exact absurd rfl hstarted
  | looping => exact goes_loop hphase (by simp) .lock
  | checking =>
    by_cases hneeded : s.baseIndex thread < s.pool.handles.length
    · exact goes_loop hphase (by simp) (.wait hneeded)
    · exact goes_loop hphase (by simp) (.unneeded (Nat.not_lt.mp hneeded))
  | waiting => exact goes_spun hphase hspinning
  | woken waitRes => exact goes_loop hphase (by simp) (.stop hstopping)
  | calling callback => exact goes_loop hphase (by simp) .called
  | exiting stage =>
    rcases hfree with hfree | hgoes
    · cases stage with
      | locking => exact goes_exit hphase (.lock hfree)
      | unlocked => exact goes_exit hphase .notify
      | leaving => cases hnotified
      | _ =>
        have hlock := (h.locks thread).mp (by rw [hphase]; rfl)
        rw [hfree] at hlock
        cases hlock
    · exact hgoes
  | ended => cases hnotified

theorem Orderly.goes (h : s.Orderly) (hbegun : s.destructor ≠ .idle)
    (hleft : s.destructor ≠ .done) : s.Goes abort := by
  generalize hphase : s.destructor = phase at *
  cases phase with
  | idle => exact absurd rfl hbegun
  | stopping => exact goes_destructor hphase .signal
  | locking =>
    have hfree : s.workersLock = none ∨ s.Goes abort :=
      h.goes_or_free (by rw [hphase]; rfl)
    rcases hfree with hfree | hgoes
    · exact goes_destructor hphase (.lock hfree)
    · exact hgoes
  | locked =>
    by_cases hactive : s.activeWorkers = ∅
    · exact goes_destructor hphase (.proceed hactive)
    · exact goes_destructor hphase (.wait hactive)
  | waiting =>
    rcases h.awaited hphase with ⟨thread, hstarted, hnotified⟩
    exact h.goes_thread hphase hstarted hnotified
  | reaping =>
    have hlock := h.destroys.mp (by rw [hphase]; rfl)
    cases hjoin : s.joinWorker with
    | none => exact goes_destructor hphase (.unjoined hjoin)
    | some other =>
      by_cases hended : s.phase other = .ended
      · exact goes_destructor hphase (.reap hjoin hended)
      · exact h.goes_zombie hjoin (by rw [hlock]; simp) hended
  | closing => exact goes_destructor hphase .close
  | done => exact absurd rfl hleft

/-!
## Runs
-/

variable {labels : List (LifeLabel Handle Callback)}

inductive Runs (abort : Callback) (s : LivePool Handle Callback) :
    List (LifeLabel Handle Callback) -> LivePool Handle Callback -> Prop where
  | nil : Runs abort s [] s
  | step {labels : List (LifeLabel Handle Callback)} {s' s'' : LivePool Handle Callback}
      {label : LifeLabel Handle Callback} :
      Runs abort s labels s' -> Step abort s' label s'' -> Runs abort s (labels ++ [label]) s''

theorem Reaches.runs (h : Reaches abort pool s) (hruns : Runs abort s labels s') :
    Reaches abort pool s' := by
  induction hruns with
  | nil => exact h
  | step _ hstep ih => exact ih.step hstep

theorem Step.begun {label : LifeLabel Handle Callback} (hbegun : s.destructor ≠ .idle)
    (hstep : Step abort s label s') : s'.destructor ≠ .idle := by
  cases hstep with
  | loop => exact hbegun
  | exit _ hexit =>
    cases hexit with
    | notify =>
      dsimp only
      split
      · simp
      · exact hbegun
    | _ => exact hbegun
  | destructor hdestructor =>
    generalize s.destructor = phase at hdestructor
    cases hdestructor <;> simp
  | spurious => simp
  | announce hidle => exact absurd hidle hbegun
  | add hidle => exact absurd hidle hbegun
  | remove hidle => exact absurd hidle hbegun

theorem Runs.begun (hbegun : s.destructor ≠ .idle) (hruns : Runs abort s labels s') :
    s'.destructor ≠ .idle := by
  induction hruns with
  | nil => exact hbegun
  | step _ hstep ih => exact hstep.begun ih

theorem Runs.stepsLeft_le (h : Reaches abort pool s) (hbegun : s.destructor ≠ .idle)
    (hruns : Runs abort s labels s') :
    labels.countP (! ·.isSpurious) + s'.stepsLeft ≤
      s.stepsLeft + 2 * labels.countP (·.isSpurious) := by
  induction hruns with
  | nil => exact Nat.le_of_eq (Nat.zero_add _)
  | @step labels s' s'' label hruns hstep ih =>
    rw [List.countP_append, List.countP_append, List.countP_singleton, List.countP_singleton]
    rcases hstep.stepsLeft_lt (h.runs hruns).orderly (hruns.begun hbegun) with hless | hspurious
    · cases label.isSpurious <;> simp only [Bool.not_true, Bool.not_false, if_true, if_false,
        Bool.false_eq_true] <;> omega
    · rcases hspurious with ⟨rfl, hmore⟩
      have hcosts : (.spurious : LifeLabel Handle Callback).isSpurious = true := rfl
      simp only [hcosts, Bool.not_true, if_true, if_false, Bool.false_eq_true]
      omega

/-- What becomes of the destructor of a pool, however the steps of its workers come. -/
structure DestructorReturns (abort : Callback) (s : LivePool Handle Callback) : Prop where
  /-- Only so many steps come before the end, if spurious wakings are not counted. -/
  bounded : forall {labels s'}, Runs abort s labels s' ->
    labels.countP (! ·.isSpurious) ≤ s.stepsLeft + 2 * labels.countP (·.isSpurious)
  /-- No run gets stuck before, nor comes to depend on a handle or on a failure. -/
  returned : forall {labels s'}, Runs abort s labels s' -> s'.destructor = .done ∨ s'.Goes abort
  /-- Afterwards no thread is left to use the pool. -/
  afterwards : forall {labels s'}, Runs abort s labels s' -> s'.destructor = .done ->
    forall label s'', ¬ Step abort s' label s''

theorem Orderly.finished {label : LifeLabel Handle Callback} (h : s.Orderly)
    (hdone : s.destructor = .done) : ¬ Step abort s label s' := by
  have hactive := h.alone (by rw [hdone]; rfl)
  have hjoin := h.closed (by rw [hdone]; rfl)
  intro hstep
  cases hstep with
  | @loop thread phase hloop =>
    have hmem := (h.active thread).mpr hloop.quiet.before_active
    rw [hactive] at hmem
    cases hmem
  | @exit thread stage _ hphase hexit =>
    have hended : s.phase thread = .ended := by
      have hstarted : s.phase thread ≠ .unstarted := by
        rw [hphase]
        simp
      have hgone := h.gone_of_empty hactive (h.spawned_of_started hstarted)
      rcases (h.gone thread).mp hgone with hzombie | hjoined
      · rw [hjoin] at hzombie
        cases hzombie
      · exact h.dead thread hjoined
    rw [hphase] at hended
    cases hended
  | announce hidle => rw [hdone] at hidle; cases hidle
  | add hidle => rw [hdone] at hidle; cases hidle
  | remove hidle => rw [hdone] at hidle; cases hidle
  | destructor hdestructor => rw [hdone] at hdestructor; cases hdestructor
  | spurious hwaiting => rw [hdone] at hwaiting; cases hwaiting

/-- Once the destructor of a pool has begun it returns. -/
theorem destructor_returns (h : Reaches abort pool s) (hbegun : s.destructor ≠ .idle) :
    DestructorReturns abort s where
  bounded := by
    intro labels s' hruns
    have hleft := hruns.stepsLeft_le h hbegun
    omega
  returned := by
    intro labels s' hruns
    by_cases hdone : s'.destructor = .done
    · exact Or.inl hdone
    · exact Or.inr ((h.runs hruns).orderly.goes (hruns.begun hbegun) hdone)
  afterwards := by
    intro labels s' hruns hdone label s''
    exact (h.runs hruns).orderly.finished hdone

theorem destructor_returns_waiting : exists s, Reaches 0 twoPool s ∧
    s.destructor = .waiting ∧ s.phase 0 = .waiting ∧ s.phase 1 = .waiting ∧
      DestructorReturns 0 s := by
  rcases reaches_done with ⟨s, _, hreaches, hdestructor, hfirst, hsecond, _⟩
  refine ⟨s, hreaches, hdestructor, hfirst, hsecond, destructor_returns hreaches ?_⟩
  rw [hdestructor]
  simp

end Returns

end LivePool

end DirectPlayLite
