import Mathlib.Logic.Function.Basic
import Mathlib.Data.Fintype.BigOperators

/-!
# Work for the workers of a pool

`queue_work` puts an item into `work_queue` and signals `work_ready`, an event that is
reset by the worker that gets the signal.  That worker runs `handle_work`: it takes one
item, and signals the event again when it leaves others behind.  What a thread does with
the lock held is one step; the event is waited for without the lock.
-/

namespace DirectPlayLite

/-- Something that has been queued, with the number of items queued before it. -/
structure WorkItem (Work : Type) where
  number : Nat
  work : Work
deriving DecidableEq

inductive ServingPhase (Work : Type) where
  /-- In `WaitForMultipleObjects`, or on its way there. -/
  | waiting
  /-- In the callback of another handle. -/
  | elsewhere
  /-- Has got the signal, and has not taken the lock in `handle_work` yet. -/
  | woken
  /-- Has taken an item and given up the lock. -/
  | holding (item : WorkItem Work)
  /-- Runs the item, which has not called the message handler yet. -/
  | running (item : WorkItem Work)
  /-- Runs the item, which has called the message handler. -/
  | called (item : WorkItem Work)
deriving DecidableEq

namespace ServingPhase

variable {Work : Type}

def unrun : ServingPhase Work -> Option (WorkItem Work)
  | .holding item => some item
  | _ => none

/-- The item a worker has taken and not called the message handler for. -/
def uncalled : ServingPhase Work -> Option (WorkItem Work)
  | .holding item => some item
  | .running item => some item
  | _ => none

end ServingPhase

structure WorkState (Worker Work : Type) where
  workQueue : List (WorkItem Work)
  /-- Whether `work_ready` is signalled. -/
  workReady : Bool
  phase : Worker -> ServingPhase Work
  /-- How many items have been queued. -/
  queued : Nat
  /-- The items that have been run, in order. -/
  executed : List Nat
  /-- The items the message handler has been called for, in order. -/
  received : List Nat

inductive WorkLabel (Worker Work : Type) where
  | queueWork (work : Work)
  /-- A worker gets the signal of another handle, or is done with it. -/
  | turn (worker : Worker)
  | wake (worker : Worker)
  | handleWork (worker : Worker)
  | run (worker : Worker)
  | receive (worker : Worker)
  | finish (worker : Worker)

namespace WorkState

variable {Worker Work : Type}

def start : WorkState Worker Work where
  workQueue := []
  workReady := false
  phase := fun _ => .waiting
  queued := 0
  executed := []
  received := []

def queueWork (s : WorkState Worker Work) (work : Work) : WorkState Worker Work :=
  { s with
    workQueue := s.workQueue ++ [⟨s.queued, work⟩]
    workReady := true
    queued := s.queued + 1 }

section Steps

variable [DecidableEq Worker]

def move (s : WorkState Worker Work) (worker : Worker) (phase : ServingPhase Work) :
    WorkState Worker Work :=
  { s with phase := Function.update s.phase worker phase }

def handleWork (s : WorkState Worker Work) (worker : Worker) : WorkState Worker Work :=
  match s.workQueue with
  | [] => s.move worker .waiting
  | item :: rest =>
      { s.move worker (.holding item) with
        workQueue := rest
        -- another thread is woken up for what is left
        workReady := s.workReady || !rest.isEmpty }

inductive Step : WorkState Worker Work -> WorkLabel Worker Work ->
    WorkState Worker Work -> Prop where
  | queueWork {s work} : Step s (.queueWork work) (s.queueWork work)
  | leave {s worker} : s.phase worker = .waiting ->
      Step s (.turn worker) (s.move worker .elsewhere)
  | return {s worker} : s.phase worker = .elsewhere ->
      Step s (.turn worker) (s.move worker .waiting)
  | wake {s worker} : s.phase worker = .waiting -> s.workReady = true ->
      Step s (.wake worker) { s.move worker .woken with workReady := false }
  | handleWork {s worker} : s.phase worker = .woken ->
      Step s (.handleWork worker) (s.handleWork worker)
  | run {s worker item} : s.phase worker = .holding item ->
      Step s (.run worker)
        { s.move worker (.running item) with executed := s.executed ++ [item.number] }
  | receive {s worker item} : s.phase worker = .running item ->
      Step s (.receive worker)
        { s.move worker (.called item) with received := s.received ++ [item.number] }
  | finish {s worker item} : s.phase worker = .called item ->
      Step s (.finish worker) (s.move worker .waiting)

/-- The states of the runs whose steps all meet a condition. -/
inductive Reaches (cond : WorkState Worker Work -> WorkLabel Worker Work -> Prop) :
    WorkState Worker Work -> Prop where
  | start : Reaches cond .start
  | step {s s' label} : Reaches cond s -> Step s label s' -> cond s label ->
      Reaches cond s'

end Steps

section Phases

variable [DecidableEq Worker] {s s' : WorkState Worker Work} {worker other : Worker}
  {phase phase' : ServingPhase Work} {item : WorkItem Work}

theorem phase_move_self : (s.move worker phase).phase worker = phase :=
  Function.update_self _ _ _

theorem phase_move_of_ne (h : other ≠ worker) :
    (s.move worker phase).phase other = s.phase other :=
  Function.update_of_ne h _ _

theorem phase_move_iff (hleft : s.phase worker ≠ phase') (hcome : phase ≠ phase') :
    (s.move worker phase).phase other = phase' ↔ s.phase other = phase' := by
  by_cases hsame : other = worker
  · subst hsame
    rw [phase_move_self]
    exact ⟨fun h => absurd h hcome, fun h => absurd h hleft⟩
  · rw [phase_move_of_ne hsame]

end Phases

/-!
## Runs by their labels
-/

section Playing

variable [DecidableEq Worker]

/-- The step with a label, if a worker stands where it can take it. -/
def next (s : WorkState Worker Work) : WorkLabel Worker Work ->
    Option (WorkState Worker Work)
  | .queueWork work => some (s.queueWork work)
  | .turn worker =>
      match s.phase worker with
      | .waiting => some (s.move worker .elsewhere)
      | .elsewhere => some (s.move worker .waiting)
      | _ => none
  | .wake worker =>
      match s.phase worker, s.workReady with
      | .waiting, true => some { s.move worker .woken with workReady := false }
      | _, _ => none
  | .handleWork worker =>
      match s.phase worker with
      | .woken => some (s.handleWork worker)
      | _ => none
  | .run worker =>
      match s.phase worker with
      | .holding item =>
          some { s.move worker (.running item) with executed := s.executed ++ [item.number] }
      | _ => none
  | .receive worker =>
      match s.phase worker with
      | .running item =>
          some { s.move worker (.called item) with received := s.received ++ [item.number] }
      | _ => none
  | .finish worker =>
      match s.phase worker with
      | .called _ => some (s.move worker .waiting)
      | _ => none

theorem next_step {s s' : WorkState Worker Work} {label : WorkLabel Worker Work}
    (h : s.next label = some s') : Step s label s' := by
  cases label with
  | queueWork work =>
      cases h
      exact .queueWork
  | turn worker =>
      simp only [next] at h
      split at h
      · rename_i hphase
        cases h
        exact .leave hphase
      · rename_i hphase
        cases h
        exact .return hphase
      · cases h
  | wake worker =>
      simp only [next] at h
      split at h
      · rename_i hphase hready
        cases h
        exact .wake hphase hready
      · cases h
  | handleWork worker =>
      simp only [next] at h
      split at h
      · rename_i hphase
        cases h
        exact .handleWork hphase
      · cases h
  | run worker =>
      simp only [next] at h
      split at h
      · rename_i item hphase
        cases h
        exact .run hphase
      · cases h
  | receive worker =>
      simp only [next] at h
      split at h
      · rename_i item hphase
        cases h
        exact .receive hphase
      · cases h
  | finish worker =>
      simp only [next] at h
      split at h
      · rename_i item hphase
        cases h
        exact .finish hphase
      · cases h

variable (cond : WorkState Worker Work -> WorkLabel Worker Work -> Prop)
  [forall s label, Decidable (cond s label)]

def play (s : WorkState Worker Work) : List (WorkLabel Worker Work) ->
    Option (WorkState Worker Work)
  | [] => some s
  | label :: labels =>
      if cond s label then (s.next label).bind fun s' => s'.play labels else none

variable {cond}

theorem play_reaches {s s' : WorkState Worker Work} {labels : List (WorkLabel Worker Work)}
    (hs : Reaches cond s) (h : s.play cond labels = some s') : Reaches cond s' := by
  induction labels generalizing s with
  | nil =>
      cases h
      exact hs
  | cons label labels ih =>
      rw [play] at h
      split at h
      · rename_i hcond
        rcases Option.bind_eq_some_iff.mp h with ⟨s₁, hnext, hrest⟩
        exact ih (hs.step (next_step hnext) hcond) hrest
      · cases h

end Playing

/-!
## Every item once
-/

def Holds (s : WorkState Worker Work) (due : ServingPhase Work -> Option (WorkItem Work))
    (worker : Worker) (number : Nat) : Prop :=
  exists item, due (s.phase worker) = some item ∧ item.number = number

def taken (s : WorkState Worker Work) : Nat := s.queued - s.workQueue.length

/--
What is due has been done with the items that have been taken, or a worker holds them;
all others are in the queue.
-/
structure Accounted (s : WorkState Worker Work)
    (due : ServingPhase Work -> Option (WorkItem Work)) (done : List Nat) : Prop where
  le : s.workQueue.length ≤ s.queued
  queue : s.workQueue.map WorkItem.number = List.range' s.taken s.workQueue.length
  held : forall worker number, s.Holds due worker number ->
    number < s.taken ∧ number ∉ done
  apart : forall worker other number, s.Holds due worker number ->
    s.Holds due other number -> worker = other
  before : forall number, number ∈ done -> number < s.taken
  once : done.Nodup
  covered : forall number, number < s.taken ->
    number ∈ done ∨ exists worker, s.Holds due worker number

section Accounting

variable {s s' : WorkState Worker Work} {worker : Worker} {item : WorkItem Work}
  {phase : ServingPhase Work} {label : WorkLabel Worker Work}
  {due : ServingPhase Work -> Option (WorkItem Work)} {done : List Nat}

theorem start_accounted (hdue : due .waiting = none) :
    (start : WorkState Worker Work).Accounted due [] where
  le := Nat.le_refl 0
  queue := rfl
  held := by
    intro worker number h
    rcases h with ⟨item, hitem, _⟩
    cases hdue.symm.trans hitem
  apart := by
    intro worker other number h
    rcases h with ⟨item, hitem, _⟩
    cases hdue.symm.trans hitem
  before := by simp
  once := List.nodup_nil
  covered := by intro _ h; cases h

theorem taken_congr (hqueue : s'.workQueue = s.workQueue) (hqueued : s'.queued = s.queued) :
    s'.taken = s.taken := by
  unfold taken
  rw [hqueue, hqueued]

theorem Accounted.congr (h : s.Accounted due done) (hqueue : s'.workQueue = s.workQueue)
    (hqueued : s'.queued = s.queued)
    (hholds : forall worker number,
      s'.Holds due worker number ↔ s.Holds due worker number) :
    s'.Accounted due done where
  le := by
    rw [hqueue, hqueued]
    exact h.le
  queue := by
    rw [taken_congr hqueue hqueued, hqueue]
    exact h.queue
  held := by
    intro worker number hheld
    rw [taken_congr hqueue hqueued]
    exact h.held worker number ((hholds worker number).mp hheld)
  apart := by
    intro worker other number hheld hother
    exact h.apart worker other number ((hholds worker number).mp hheld)
      ((hholds other number).mp hother)
  before := by
    rw [taken_congr hqueue hqueued]
    exact h.before
  once := h.once
  covered := by
    intro number hless
    rw [taken_congr hqueue hqueued] at hless
    apply (h.covered number hless).imp_right
    intro hheld
    rcases hheld with ⟨worker, hworker⟩
    exact ⟨worker, (hholds worker number).mpr hworker⟩

theorem taken_queueWork (work : Work) : (s.queueWork work).taken = s.taken := by
  simp [taken, WorkState.queueWork]

theorem Accounted.queueWork (h : s.Accounted due done) (work : Work) :
    (s.queueWork work).Accounted due done := by
  have htaken : s.taken + s.workQueue.length = s.queued := Nat.sub_add_cancel h.le
  constructor
  · show (s.workQueue ++ [_]).length ≤ s.queued + 1
    rw [List.length_append]
    exact Nat.succ_le_succ h.le
  · rw [taken_queueWork]
    show (s.workQueue ++ [_]).map WorkItem.number =
      List.range' s.taken (s.workQueue ++ [_]).length
    rw [List.map_append, h.queue, List.length_append, List.length_singleton,
      List.range'_1_concat, htaken]
    rfl
  · rw [taken_queueWork]
    exact h.held
  · exact h.apart
  · rw [taken_queueWork]
    exact h.before
  · exact h.once
  · rw [taken_queueWork]
    exact h.covered

theorem Accounted.first (h : s.Accounted due done) {rest : List (WorkItem Work)}
    (hqueue : s.workQueue = item :: rest) :
    item.number = s.taken ∧ rest.length < s.queued ∧
      s.queued - rest.length = s.taken + 1 ∧
      rest.map WorkItem.number = List.range' (s.taken + 1) rest.length := by
  have hnumbers := h.queue
  have hle := h.le
  rw [hqueue, List.length_cons] at hle
  have htaken : s.queued - rest.length = s.taken + 1 := by
    unfold taken
    rw [hqueue, List.length_cons]
    omega
  rw [hqueue, List.length_cons, List.range'_succ] at hnumbers
  injection hnumbers with hfirst hrest
  exact ⟨hfirst, hle, htaken, hrest⟩

section Taking

variable [DecidableEq Worker]

theorem holds_move (hsame : due phase = due (s.phase worker)) (other : Worker)
    (number : Nat) :
    (s.move worker phase).Holds due other number ↔ s.Holds due other number := by
  unfold Holds
  by_cases hother : other = worker
  · subst hother
    rw [phase_move_self, hsame]
  · rw [phase_move_of_ne hother]

theorem holds_move_some (hfree : due (s.phase worker) = none) (hdue : due phase = some item)
    {other : Worker} {number : Nat} :
    (s.move worker phase).Holds due other number ↔
      other = worker ∧ number = item.number ∨ s.Holds due other number := by
  unfold Holds
  by_cases hsame : other = worker
  · subst hsame
    rw [phase_move_self, hdue, hfree]
    constructor
    · intro hheld
      rcases hheld with ⟨_, hitem, hnumber⟩
      cases hitem
      exact Or.inl ⟨rfl, hnumber.symm⟩
    · intro hheld
      rcases hheld with ⟨_, hnumber⟩ | ⟨_, hitem, _⟩
      · exact ⟨item, rfl, hnumber.symm⟩
      · cases hitem
  · simp only [phase_move_of_ne hsame, hsame, false_and, false_or]

theorem holds_move_none (hdue : due phase = none) {other : Worker} {number : Nat} :
    (s.move worker phase).Holds due other number ↔
      other ≠ worker ∧ s.Holds due other number := by
  unfold Holds
  by_cases hsame : other = worker
  · subst hsame
    rw [phase_move_self, hdue]
    simp only [reduceCtorEq, false_and, exists_false, ne_eq, not_true_eq_false]
  · simp only [phase_move_of_ne hsame, ne_eq, hsame, not_false_eq_true, true_and]

theorem Accounted.take (h : s.Accounted due done) (hfree : due (s.phase worker) = none)
    (hdue : due (.holding item) = some item) {rest : List (WorkItem Work)}
    (hqueue : s.workQueue = item :: rest) (ready : Bool) :
    ({ s.move worker (.holding item) with workQueue := rest, workReady := ready } :
      WorkState Worker Work).Accounted due done := by
  rcases h.first hqueue with ⟨hnumber, hless, htaken, hrest⟩
  have hholds : forall other number,
      (s.move worker (.holding item)).Holds due other number ↔
        other = worker ∧ number = s.taken ∨ s.Holds due other number := by
    intro other number
    rw [← hnumber]
    exact holds_move_some hfree hdue
  constructor
  · exact Nat.le_of_lt hless
  · show rest.map WorkItem.number = List.range' (s.queued - rest.length) rest.length
    rw [htaken]
    exact hrest
  · intro other number hheld
    show number < s.queued - rest.length ∧ number ∉ done
    rw [htaken]
    rcases (hholds other number).mp hheld with ⟨_, rfl⟩ | hbefore
    · exact ⟨Nat.lt_succ_self _, fun hdone => Nat.lt_irrefl _ (h.before _ hdone)⟩
    · exact ⟨Nat.lt_succ_of_lt (h.held other number hbefore).1,
        (h.held other number hbefore).2⟩
  · intro first second number hfirst hsecond
    rcases (hholds first number).mp hfirst with ⟨hnew, hlast⟩ | hearlier
    · rcases (hholds second number).mp hsecond with ⟨hsame, _⟩ | hother
      · exact hnew.trans hsame.symm
      · exact absurd hlast (Nat.ne_of_lt (h.held second number hother).1)
    · rcases (hholds second number).mp hsecond with ⟨_, hlast⟩ | hother
      · exact absurd hlast (Nat.ne_of_lt (h.held first number hearlier).1)
      · exact h.apart first second number hearlier hother
  · intro number hdone
    show number < s.queued - rest.length
    rw [htaken]
    exact Nat.lt_succ_of_lt (h.before number hdone)
  · exact h.once
  · intro number hbefore
    change number < s.queued - rest.length at hbefore
    rw [htaken] at hbefore
    rcases Nat.lt_or_eq_of_le (Nat.le_of_lt_succ hbefore) with hearlier | hlast
    · apply (h.covered number hearlier).imp_right
      intro hheld
      rcases hheld with ⟨other, hother⟩
      exact ⟨other, (hholds other number).mpr (Or.inr hother)⟩
    · exact Or.inr ⟨worker, (hholds worker _).mpr (Or.inl ⟨rfl, hlast⟩)⟩

theorem Accounted.move (h : s.Accounted due done) (hitem : due (s.phase worker) = some item)
    (hdue : due phase = none) :
    (s.move worker phase).Accounted due (done ++ [item.number]) := by
  have hworker : s.Holds due worker item.number := ⟨item, hitem, rfl⟩
  have hholds : forall other number, (s.move worker phase).Holds due other number ↔
      other ≠ worker ∧ s.Holds due other number :=
    fun other number => holds_move_none hdue
  rcases h.held worker item.number hworker with ⟨hless, hnew⟩
  constructor
  · exact h.le
  · exact h.queue
  · intro other number hheld
    rcases (hholds other number).mp hheld with ⟨hne, hother⟩
    refine ⟨(h.held other number hother).1, ?_⟩
    intro hdone
    rcases List.mem_append.mp hdone with hbefore | hnow
    · exact (h.held other number hother).2 hbefore
    · rw [List.mem_singleton.mp hnow] at hother
      exact hne (h.apart other worker item.number hother hworker)
  · intro first second number hfirst hsecond
    exact h.apart first second number ((hholds first number).mp hfirst).2
      ((hholds second number).mp hsecond).2
  · intro number hdone
    rcases List.mem_append.mp hdone with hbefore | hnow
    · exact h.before number hbefore
    · rw [List.mem_singleton.mp hnow]
      exact hless
  · apply List.nodup_append.mpr
    refine ⟨h.once, List.nodup_singleton _, ?_⟩
    rintro number hbefore _ hnow rfl
    rw [List.mem_singleton.mp hnow] at hbefore
    exact hnew hbefore
  · intro number hbefore
    rcases h.covered number hbefore with hdone | ⟨other, hother⟩
    · exact Or.inl (List.mem_append_left _ hdone)
    · by_cases hsame : other = worker
      · subst hsame
        rcases hother with ⟨found, hfound, rfl⟩
        rw [hitem] at hfound
        cases hfound
        exact Or.inl (List.mem_append_right _ (List.mem_singleton_self _))
      · exact Or.inr ⟨other, (hholds other number).mpr ⟨hsame, hother⟩⟩

theorem Accounted.step (h : s.Accounted ServingPhase.unrun s.executed)
    (hstep : Step s label s') : s'.Accounted ServingPhase.unrun s'.executed := by
  cases hstep with
  | queueWork => exact h.queueWork _
  | leave hphase => exact h.congr rfl rfl (holds_move (by rw [hphase]; rfl))
  | «return» hphase => exact h.congr rfl rfl (holds_move (by rw [hphase]; rfl))
  | wake hphase _ => exact h.congr rfl rfl (holds_move (by rw [hphase]; rfl))
  | handleWork hphase =>
      unfold WorkState.handleWork
      split
      · exact h.congr rfl rfl (holds_move (by rw [hphase]; rfl))
      · rename_i item rest hqueue
        exact h.take (by rw [hphase]; rfl) rfl hqueue _
  | run hphase => exact (h.move (by rw [hphase]; rfl) rfl).congr rfl rfl fun _ _ => Iff.rfl
  | receive hphase => exact h.congr rfl rfl (holds_move (by rw [hphase]; rfl))
  | finish hphase => exact h.congr rfl rfl (holds_move (by rw [hphase]; rfl))

end Taking

end Accounting

/-!
## No wake-up is lost
-/

def Awake (s : WorkState Worker Work) : Prop :=
  s.workQueue ≠ [] -> s.workReady = true ∨ exists worker, s.phase worker = .woken

theorem start_awake : (start : WorkState Worker Work).Awake :=
  fun hqueue => absurd rfl hqueue

section Waking

variable [DecidableEq Worker] {s s' : WorkState Worker Work} {worker : Worker}
  {phase : ServingPhase Work} {label : WorkLabel Worker Work}

theorem Awake.move (h : s.Awake) (hleft : s.phase worker ≠ .woken)
    (hcome : phase ≠ .woken) : (s.move worker phase).Awake := by
  intro hqueue
  apply (h hqueue).imp_right
  intro hwoken
  rcases hwoken with ⟨other, hother⟩
  exact ⟨other, (phase_move_iff hleft hcome).mpr hother⟩

theorem Awake.step (h : s.Awake) (hstep : Step s label s') : s'.Awake := by
  cases hstep with
  | queueWork => exact fun _ => Or.inl rfl
  | leave hphase => exact h.move (by simp [hphase]) (by simp)
  | «return» hphase => exact h.move (by simp [hphase]) (by simp)
  | wake hphase hready => exact fun _ => Or.inr ⟨_, phase_move_self⟩
  | handleWork hphase =>
      intro hqueue
      unfold WorkState.handleWork at hqueue ⊢
      split at hqueue
      · rename_i hnil
        exact absurd hnil hqueue
      · rename_i item rest hitems
        left
        simp only [Bool.or_eq_true, Bool.not_eq_true', List.isEmpty_eq_false_iff]
        exact Or.inr hqueue
  | run hphase => exact h.move (by simp [hphase]) (by simp)
  | receive hphase => exact h.move (by simp [hphase]) (by simp)
  | finish hphase => exact h.move (by simp [hphase]) (by simp)

end Waking

/-!
## Progress
-/

def Serves : WorkLabel Worker Work -> Prop
  | .queueWork _ => False
  | .turn _ => False
  | _ => True

/-- How much a worker has left to do where it stands. -/
def workLeft : ServingPhase Work -> Nat
  | .waiting => 0
  | .elsewhere => 0
  | .woken => 1
  | .holding _ => 3
  | .running _ => 2
  | .called _ => 1

def left [Fintype Worker] (s : WorkState Worker Work) : Nat :=
  6 * s.workQueue.length + (if s.workReady then 2 else 0) +
    ∑ worker, workLeft (s.phase worker)

section Left

variable [Fintype Worker]

theorem left_tail (s : WorkState Worker Work) {item : WorkItem Work}
    {rest : List (WorkItem Work)} (hqueue : s.workQueue = item :: rest) (ready : Bool) :
    ({ s with workQueue := rest, workReady := ready } : WorkState Worker Work).left + 4 ≤
      s.left := by
  unfold left
  rw [hqueue, List.length_cons]
  cases ready <;> simp only [if_true, Bool.false_eq_true, if_false] <;> omega

theorem left_reset (s : WorkState Worker Work) (hready : s.workReady = true) :
    ({ s with workReady := false } : WorkState Worker Work).left + 2 = s.left := by
  unfold left
  rw [hready]
  simp only [if_true, Bool.false_eq_true, if_false]
  omega

end Left

section Progress

variable [DecidableEq Worker] [Fintype Worker] {s s' : WorkState Worker Work}
  {worker : Worker} {phase : ServingPhase Work} {label : WorkLabel Worker Work}

theorem sum_move (s : WorkState Worker Work) (worker : Worker)
    (phase : ServingPhase Work) : (∑ other, workLeft ((s.move worker phase).phase other)) +
      workLeft (s.phase worker) =
    (∑ other, workLeft (s.phase other)) + workLeft phase := by
  have hrest : ∑ other ∈ Finset.univ.erase worker,
        workLeft ((s.move worker phase).phase other) =
      ∑ other ∈ Finset.univ.erase worker, workLeft (s.phase other) := by
    apply Finset.sum_congr rfl
    intro other hother
    rw [phase_move_of_ne (Finset.ne_of_mem_erase hother)]
  rw [← Finset.add_sum_erase _ _ (Finset.mem_univ worker), hrest, phase_move_self,
    ← Finset.add_sum_erase _ (fun other => workLeft (s.phase other))
      (Finset.mem_univ worker)]
  omega

theorem left_move (s : WorkState Worker Work) (worker : Worker)
    (phase : ServingPhase Work) :
    (s.move worker phase).left + workLeft (s.phase worker) = s.left + workLeft phase := by
  have hsum := s.sum_move worker phase
  show 6 * s.workQueue.length + (if s.workReady then 2 else 0) + _ + _ = _
  unfold left
  omega

theorem Step.left_lt (hstep : Step s label s') (hserves : Serves label) :
    s'.left < s.left := by
  cases hstep with
  | queueWork => exact hserves.elim
  | leave hphase => exact hserves.elim
  | «return» hphase => exact hserves.elim
  | @wake worker hphase hready =>
      have hmove := s.left_move worker .woken
      have hreset := (s.move worker .woken).left_reset hready
      rw [hphase] at hmove
      simp only [workLeft] at hmove
      dsimp only
      omega
  | @handleWork worker hphase =>
      unfold WorkState.handleWork
      split
      · have hmove := s.left_move worker .waiting
        rw [hphase] at hmove
        simp only [workLeft] at hmove
        omega
      · rename_i item rest hqueue
        have hmove := s.left_move worker (.holding item)
        have htail := (s.move worker (.holding item)).left_tail hqueue
          (s.workReady || !rest.isEmpty)
        rw [hphase] at hmove
        simp only [workLeft] at hmove
        dsimp only
        omega
  | @run worker item hphase =>
      have hmove := s.left_move worker (.running item)
      rw [hphase] at hmove
      simp only [workLeft] at hmove
      show (s.move worker (.running item)).left < s.left
      omega
  | @receive worker item hphase =>
      have hmove := s.left_move worker (.called item)
      rw [hphase] at hmove
      simp only [workLeft] at hmove
      show (s.move worker (.called item)).left < s.left
      omega
  | @finish worker item hphase =>
      have hmove := s.left_move worker .waiting
      rw [hphase] at hmove
      exact Nat.lt_of_succ_le hmove.le

end Progress

/-!
## The queue is served
-/

/-- What is true of the items in every state of a run. -/
structure Served [DecidableEq Worker] [Fintype Worker] (s : WorkState Worker Work) :
    Prop where
  /-- No item is run twice. -/
  once : s.executed.Nodup
  queued : forall number, number ∈ s.executed -> number < s.queued
  /-- No item is lost. -/
  kept : forall number, number < s.queued ->
    number ∈ s.workQueue.map WorkItem.number ∨
      (exists worker, s.Holds ServingPhase.unrun worker number) ∨
      number ∈ s.executed
  /-- An item that is going to be run is run by one worker, and has not been run. -/
  apart : forall worker number, s.Holds ServingPhase.unrun worker number ->
    number ∉ s.workQueue.map WorkItem.number ∧ number ∉ s.executed ∧
      forall other, s.Holds ServingPhase.unrun other number -> other = worker
  waits : forall number, number ∈ s.workQueue.map WorkItem.number ->
    number ∉ s.executed
  /-- No wake-up is lost. -/
  awake : s.workQueue ≠ [] ->
    s.workReady = true ∨ exists worker, s.phase worker = .woken
  /-- Serving the queue comes to an end. -/
  progress : forall label s', Step s label s' -> Serves label -> s'.left < s.left
  /-- Where it has come to an end, everything that has been queued has been run. -/
  settled : (forall label s', Step s label s' -> ¬ Serves label) ->
    (exists worker, s.phase worker ≠ .elsewhere) ->
    forall number, number < s.queued -> number ∈ s.executed

section Serving

variable [DecidableEq Worker] {s : WorkState Worker Work}
  {cond : WorkState Worker Work -> WorkLabel Worker Work -> Prop}

theorem Reaches.accounted (h : Reaches cond s) :
    s.Accounted ServingPhase.unrun s.executed := by
  induction h with
  | start => exact start_accounted rfl
  | step _ hstep _ ih => exact ih.step hstep

theorem Reaches.awake (h : Reaches cond s) : s.Awake := by
  induction h with
  | start => exact start_awake
  | step _ hstep _ ih => exact ih.step hstep

theorem Reaches.anyhow (h : Reaches cond s) : Reaches (fun _ _ => True) s := by
  induction h with
  | start => exact .start
  | step _ hstep _ ih => exact ih.step hstep trivial

theorem waiting_of_stuck (hstuck : forall label s', Step s label s' -> ¬ Serves label)
    {worker : Worker} : s.phase worker = .waiting ∨ s.phase worker = .elsewhere := by
  cases hphase : s.phase worker with
  | waiting => exact Or.inl rfl
  | elsewhere => exact Or.inr rfl
  | woken => exact absurd trivial (hstuck _ _ (.handleWork hphase))
  | holding item => exact absurd trivial (hstuck _ _ (.run hphase))
  | running item => exact absurd trivial (hstuck _ _ (.receive hphase))
  | called item => exact absurd trivial (hstuck _ _ (.finish hphase))

theorem Accounted.settled (h : s.Accounted ServingPhase.unrun s.executed) (hawake : s.Awake)
    (hstuck : forall label s', Step s label s' -> ¬ Serves label)
    (hserving : exists worker, s.phase worker ≠ .elsewhere) {number : Nat}
    (hqueued : number < s.queued) : number ∈ s.executed := by
  rcases hserving with ⟨worker, hworker⟩
  have hwaiting : s.phase worker = .waiting :=
    (waiting_of_stuck hstuck).resolve_right hworker
  have hempty : s.workQueue = [] := by
    by_contra hsome
    rcases hawake hsome with hready | ⟨other, hother⟩
    · exact hstuck _ _ (.wake hwaiting hready) trivial
    · exact hstuck _ _ (.handleWork hother) trivial
  have htaken : number < s.taken := by
    rw [taken, hempty]
    exact hqueued
  rcases h.covered number htaken with hdone | ⟨other, item, hother, _⟩
  · exact hdone
  · rcases waiting_of_stuck hstuck with hrest | hrest
    · rw [hrest] at hother
      cases hother
    · rw [hrest] at hother
      cases hother

/-- Every item is run once, and the workers are woken up for it. -/
theorem queue_served [Fintype Worker] (h : Reaches cond s) : s.Served := by
  have haccounted := h.accounted
  have htaken : s.taken + s.workQueue.length = s.queued :=
    Nat.sub_add_cancel haccounted.le
  have hwaits : forall {number}, number ∈ s.workQueue.map WorkItem.number ->
      s.taken ≤ number := by
    intro number hmem
    rw [haccounted.queue] at hmem
    exact (List.mem_range'_1.mp hmem).1
  constructor
  · exact haccounted.once
  · intro number hdone
    exact Nat.lt_of_lt_of_le (haccounted.before number hdone) (Nat.sub_le _ _)
  · intro number hqueued
    by_cases hbefore : number < s.taken
    · exact Or.inr ((haccounted.covered number hbefore).symm)
    · left
      rw [haccounted.queue, List.mem_range'_1]
      omega
  · intro worker number hheld
    rcases haccounted.held worker number hheld with ⟨hless, hnew⟩
    exact ⟨fun hmem => Nat.not_lt_of_le (hwaits hmem) hless, hnew,
      fun other hother => haccounted.apart other worker number hother hheld⟩
  · intro number hmem hdone
    exact Nat.not_lt_of_le (hwaits hmem) (haccounted.before number hdone)
  · exact h.awake
  · intro label s' hstep hserves
    exact hstep.left_lt hserves
  · intro hstuck hserving number hqueued
    exact haccounted.settled h.awake hstuck hserving hqueued

end Serving

/-- Two items that are queued before a worker is woken up are run by two workers. -/
theorem queue_served_two :
    exists s : WorkState (Fin 4) Nat, Reaches (fun _ _ => True) s ∧ s.queued = 2 ∧
      s.executed = [1, 0] ∧ s.Served := by
  have hrun : ((start : WorkState (Fin 4) Nat).play (fun _ _ => True)
      [.queueWork 10, .queueWork 20, .wake 0, .handleWork 0, .wake 1, .handleWork 1,
        .run 1, .run 0]).any
      (fun s => decide (s.queued = 2 ∧ s.executed = [1, 0])) = true := by
    decide
  rcases (Option.any_eq_true _ _).mp hrun with ⟨s, hplay, htest⟩
  rcases of_decide_eq_true htest with ⟨hqueued, hexecuted⟩
  have hreaches : Reaches (fun _ _ => True) s := play_reaches .start hplay
  exact ⟨s, hreaches, hqueued, hexecuted, queue_served hreaches⟩

end WorkState

end DirectPlayLite
