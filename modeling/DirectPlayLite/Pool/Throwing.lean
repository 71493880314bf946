import DirectPlayLite.Pool.Handles

/-!
# Adding a handle that cannot be added

`add_handle` pushes onto two vectors and starts threads, and each of these steps can
throw.  Its nested `catch` blocks undo what was pushed before, and throw again.
-/

namespace DirectPlayLite

/-!
## Exceptions
-/

inductive Thrown where
  /-- Caught as a `const std::exception &`. -/
  | standard
  | other
deriving Repr, DecidableEq

/-- The steps of `add_handle` that can throw. -/
inductive AddStep where
  | pushSpinWorkers
  | pushAbort
  | pushHandle
  /-- The growth of the vector, or the copy of the callback. -/
  | pushCallback
  | newWorker (i : Nat)
  | insertWorker (i : Nat)
  | startThread (i : Nat)
deriving Repr, DecidableEq

/-- What the steps throw, if they are reached. -/
structure Failures where
  thrown : AddStep -> Option Thrown
  /-- Only the copy of a callback throws what it likes. -/
  standard : forall step, step ≠ .pushCallback -> thrown step ≠ some .other

namespace Failures

def Throws (fails : Failures) (step : AddStep) : Prop := fails.thrown step ≠ none

instance {fails : Failures} {step : AddStep} : Decidable (fails.Throws step) :=
  inferInstanceAs (Decidable (_ ≠ _))

theorem not_throws {fails : Failures} {step : AddStep} :
    ¬ fails.Throws step ↔ fails.thrown step = none := not_ne_iff

theorem throws_iff {fails : Failures} {step : AddStep} (hstep : step ≠ .pushCallback) :
    fails.Throws step ↔ fails.thrown step = some .standard := by
  constructor
  · intro h
    cases hthrown : fails.thrown step with
    | none => exact absurd hthrown h
    | some thrown =>
        cases thrown with
        | standard => rfl
        | other => exact absurd hthrown (fails.standard step hstep)
  · intro h hnone
    rw [h] at hnone
    cases hnone

end Failures

structure AddState (Handle Callback : Type) where
  pool : HandleHandlingPool Handle Callback
  /-- The base indices of `active_workers`. -/
  workers : List Nat

/-- The workers the block at a base index is short of, which never has too many. -/
def AddState.threadsToSpawn {Handle Callback : Type} (s : AddState Handle Callback)
    (base : Nat) : Nat :=
  s.pool.threadsPerPool - s.workers.count base

/-- Programs that may throw; what was changed before stays changed. -/
abbrev Adding (Handle Callback : Type) := EStateM Thrown (AddState Handle Callback)

namespace Adding

variable {Handle Callback : Type}

def attempt (fails : Failures) (step : AddStep) : Adding Handle Callback Unit :=
  match fails.thrown step with
  | none => pure ()
  | some thrown => throw thrown

def caught (body handler : Adding Handle Callback Unit) :
    Adding Handle Callback Unit := fun s =>
  match body s with
  | .error .standard s' => handler s'
  | result => result

/-- Undo something and throw again what was caught. -/
def undoing (body undo : Adding Handle Callback Unit) :
    Adding Handle Callback Unit :=
  caught body do
    undo
    throw .standard

/-!
## The vectors
-/

def pushHandle (fails : Failures) (step : AddStep) (handle : Handle) :
    Adding Handle Callback Unit := do
  attempt fails step
  modify fun s => { s with pool.handles := s.pool.handles ++ [handle] }

def popHandle : Adding Handle Callback Unit :=
  modify fun s => { s with pool.handles := s.pool.handles.dropLast }

def pushCallback (fails : Failures) (step : AddStep) (callback : Callback) :
    Adding Handle Callback Unit := do
  attempt fails step
  modify fun s => { s with pool.callbacks := s.pool.callbacks ++ [callback] }

def popCallback : Adding Handle Callback Unit :=
  modify fun s => { s with pool.callbacks := s.pool.callbacks.dropLast }

def pushBoth (fails : Failures) (handle : Handle) (callback : Callback) :
    Adding Handle Callback Unit := do
  pushHandle fails .pushHandle handle
  undoing (pushCallback fails .pushCallback callback) popHandle

def openBlock (fails : Failures) (spinWorkers : Handle) (abort : Callback)
    (handle : Handle) (callback : Callback) : Adding Handle Callback Unit := do
  pushHandle fails .pushSpinWorkers spinWorkers
  undoing (do
    pushCallback fails .pushAbort abort
    pushBoth fails handle callback) popHandle

/-!
## The workers
-/

def spawnWorker (fails : Failures) (base i : Nat) : Adding Handle Callback Unit := do
  attempt fails (.newWorker i)
  caught (do
      attempt fails (.insertWorker i)
      modify fun s => { s with workers := base :: s.workers }
      undoing (attempt fails (.startThread i))
        (modify fun s => { s with workers := s.workers.erase base }))
    (if i = 0 then do
      popHandle
      popCallback
      popHandle
      popCallback
      throw .standard
    else pure ())

/-- The rounds that are left, from the round `i` on. -/
def spawnWorkers (fails : Failures) (base : Nat) :
    (i left : Nat) -> Adding Handle Callback Unit
  | _, 0 => pure ()
  | i, left + 1 => do
      spawnWorker fails base i
      spawnWorkers fails base (i + 1) left

def addHandle (fails : Failures) (abort : Callback) (handle : Handle)
    (callback : Callback) : Adding Handle Callback Unit := do
  let s ← get
  if s.pool.opensBlock then do
    openBlock fails s.pool.spinWorkers abort handle callback
    spawnWorkers fails s.pool.handles.length 0
      (s.threadsToSpawn s.pool.handles.length)
  else pushBoth fails handle callback

/-!
## What each part comes to
-/

section Parts

variable {fails : Failures} {step : AddStep} {s s' : AddState Handle Callback}
  {thrown : Thrown} {handle spinWorkers : Handle} {callback abort : Callback}
  {body undo : Adding Handle Callback Unit}

theorem attempt_ok (h : ¬ fails.Throws step) :
    attempt fails step s = .ok () s := by
  unfold attempt
  rw [Failures.not_throws.mp h]
  rfl

theorem attempt_error (h : fails.thrown step = some thrown) :
    attempt fails step s = .error thrown s := by
  unfold attempt
  rw [h]
  rfl

theorem bind_ok {next : Unit -> Adding Handle Callback Unit}
    (h : body s = .ok () s') : (body >>= next) s = next () s' := by
  show EStateM.bind body next s = _
  unfold EStateM.bind
  rw [h]

theorem bind_error {next : Unit -> Adding Handle Callback Unit}
    (h : body s = .error thrown s') : (body >>= next) s = .error thrown s' := by
  show EStateM.bind body next s = _
  unfold EStateM.bind
  rw [h]

theorem caught_ok {handler : Adding Handle Callback Unit} (h : body s = .ok () s') :
    caught body handler s = .ok () s' := by
  unfold caught
  rw [h]

theorem caught_standard {handler : Adding Handle Callback Unit}
    (h : body s = .error .standard s') : caught body handler s = handler s' := by
  unfold caught
  rw [h]

theorem caught_other {handler : Adding Handle Callback Unit}
    (h : body s = .error .other s') : caught body handler s = .error .other s' := by
  unfold caught
  rw [h]

theorem undoing_standard (h : body s = .error .standard s') :
    undoing body undo s =
      (do
        undo
        throw Thrown.standard : Adding Handle Callback Unit) s' :=
  caught_standard h

theorem undoing_other (h : body s = .error .other s') :
    undoing body undo s = .error .other s' := caught_other h

theorem pushHandle_ok (h : ¬ fails.Throws step) :
    pushHandle fails step handle s =
      .ok () { s with pool.handles := s.pool.handles ++ [handle] } :=
  bind_ok (attempt_ok h)

theorem pushHandle_error (h : fails.thrown step = some thrown) :
    pushHandle fails step handle s = .error thrown s :=
  bind_error (attempt_error h)

theorem pushCallback_ok (h : ¬ fails.Throws step) :
    pushCallback fails step callback s =
      .ok () { s with pool.callbacks := s.pool.callbacks ++ [callback] } :=
  bind_ok (attempt_ok h)

theorem pushCallback_error (h : fails.thrown step = some thrown) :
    pushCallback fails step callback s = .error thrown s :=
  bind_error (attempt_error h)

theorem pushBoth_ok (hhandle : ¬ fails.Throws .pushHandle)
    (hcallback : ¬ fails.Throws .pushCallback) :
    pushBoth fails handle callback s =
      .ok () { s with
        pool.handles := s.pool.handles ++ [handle]
        pool.callbacks := s.pool.callbacks ++ [callback] } := by
  unfold pushBoth
  rw [bind_ok (pushHandle_ok hhandle)]
  exact caught_ok (pushCallback_ok hcallback)

theorem pushBoth_handle (h : fails.Throws .pushHandle) :
    pushBoth fails handle callback s = .error .standard s :=
  bind_error (pushHandle_error ((Failures.throws_iff (by simp)).mp h))

theorem pushBoth_callback (hhandle : ¬ fails.Throws .pushHandle)
    (hcallback : fails.thrown .pushCallback = some .standard) :
    pushBoth fails handle callback s = .error .standard s := by
  unfold pushBoth
  rw [bind_ok (pushHandle_ok hhandle)]
  rw [undoing_standard (pushCallback_error hcallback)]
  show EStateM.Result.error Thrown.standard { s with
    pool.handles := (s.pool.handles ++ [handle]).dropLast } = _
  rw [List.dropLast_concat]

theorem pushBoth_other (hhandle : ¬ fails.Throws .pushHandle)
    (hcallback : fails.thrown .pushCallback = some .other) :
    pushBoth fails handle callback s =
      .error .other { s with pool.handles := s.pool.handles ++ [handle] } := by
  unfold pushBoth
  rw [bind_ok (pushHandle_ok hhandle)]
  exact caught_other (pushCallback_error hcallback)

theorem pushBoth_fails (handle : Handle) (callback : Callback)
    (s : AddState Handle Callback)
    (hfails : fails.Throws .pushHandle ∨ fails.Throws .pushCallback) :
    exists thrown s', pushBoth fails handle callback s = .error thrown s' ∧
      s'.pool.callbacks = s.pool.callbacks := by
  by_cases hhandle : fails.Throws .pushHandle
  · exact ⟨_, _, pushBoth_handle hhandle, rfl⟩
  · cases hthrown : fails.thrown .pushCallback with
    | none => exact absurd hthrown (hfails.resolve_left hhandle)
    | some thrown =>
        cases thrown with
        | standard => exact ⟨_, _, pushBoth_callback hhandle hthrown, rfl⟩
        | other => exact ⟨_, _, pushBoth_other hhandle hthrown, rfl⟩

theorem openBlock_ok (hspin : ¬ fails.Throws .pushSpinWorkers)
    (habort : ¬ fails.Throws .pushAbort) (hhandle : ¬ fails.Throws .pushHandle)
    (hcallback : ¬ fails.Throws .pushCallback) :
    openBlock fails spinWorkers abort handle callback s =
      .ok () { s with
        pool.handles := s.pool.handles ++ [spinWorkers] ++ [handle]
        pool.callbacks := s.pool.callbacks ++ [abort] ++ [callback] } := by
  unfold openBlock
  rw [bind_ok (pushHandle_ok hspin)]
  apply caught_ok
  rw [bind_ok (pushCallback_ok habort)]
  exact pushBoth_ok hhandle hcallback

theorem openBlock_spin (h : fails.Throws .pushSpinWorkers) :
    openBlock fails spinWorkers abort handle callback s = .error .standard s :=
  bind_error (pushHandle_error ((Failures.throws_iff (by simp)).mp h))

theorem openBlock_abort (hspin : ¬ fails.Throws .pushSpinWorkers)
    (habort : fails.Throws .pushAbort) :
    openBlock fails spinWorkers abort handle callback s = .error .standard s := by
  have hthrown := (Failures.throws_iff (by simp)).mp habort
  unfold openBlock
  rw [bind_ok (pushHandle_ok hspin)]
  rw [undoing_standard (bind_error (pushCallback_error hthrown))]
  show EStateM.Result.error Thrown.standard { s with
    pool.handles := (s.pool.handles ++ [spinWorkers]).dropLast } = _
  rw [List.dropLast_concat]

theorem openBlock_both (spinWorkers : Handle) (abort : Callback) (handle : Handle)
    (callback : Callback) (s : AddState Handle Callback)
    (hspin : ¬ fails.Throws .pushSpinWorkers)
    (habort : ¬ fails.Throws .pushAbort)
    (hfails : fails.Throws .pushHandle ∨ fails.Throws .pushCallback) :
    exists thrown s', openBlock fails spinWorkers abort handle callback s =
        .error thrown s' ∧
      s'.pool.callbacks = s.pool.callbacks ++ [abort] := by
  unfold openBlock
  rw [bind_ok (pushHandle_ok hspin)]
  generalize hpushed : ({ s with
    pool.handles := s.pool.handles ++ [spinWorkers] } : AddState Handle Callback) = pushed
  have hsame : pushed.pool.callbacks = s.pool.callbacks := by
    rw [← hpushed]
  rcases pushBoth_fails handle callback
      { pushed with pool.callbacks := pushed.pool.callbacks ++ [abort] } hfails with
    ⟨thrown, s', herror, hcallbacks⟩
  have hbody : (do
      pushCallback fails .pushAbort abort
      pushBoth fails handle callback : Adding Handle Callback Unit) pushed =
        .error thrown s' := (bind_ok (pushCallback_ok habort)).trans herror
  rw [← hsame]
  cases thrown with
  | standard => exact ⟨_, _, undoing_standard hbody, hcallbacks⟩
  | other => exact ⟨_, _, undoing_other hbody, hcallbacks⟩

theorem openBlock_fails (spinWorkers : Handle) (abort : Callback) (handle : Handle)
    (callback : Callback) (s : AddState Handle Callback)
    (hfails : fails.Throws .pushSpinWorkers ∨ fails.Throws .pushAbort ∨
      fails.Throws .pushHandle ∨ fails.Throws .pushCallback) :
    exists thrown s', openBlock fails spinWorkers abort handle callback s =
      .error thrown s' := by
  by_cases hspin : fails.Throws .pushSpinWorkers
  · exact ⟨_, _, openBlock_spin hspin⟩
  by_cases habort : fails.Throws .pushAbort
  · exact ⟨_, _, openBlock_abort hspin habort⟩
  have hboth := (hfails.resolve_left hspin).resolve_left habort
  rcases openBlock_both spinWorkers abort handle callback s hspin habort hboth with
    ⟨thrown, s', herror, _⟩
  exact ⟨thrown, s', herror⟩

end Parts

section Workers

variable {fails : Failures} {base i left : Nat} {s : AddState Handle Callback}

theorem spawnWorker_new (h : fails.Throws (.newWorker i)) :
    spawnWorker fails base i s = .error .standard s :=
  bind_error (attempt_error ((Failures.throws_iff (by simp)).mp h))

theorem spawnWorker_ok (hnew : ¬ fails.Throws (.newWorker i))
    (hinsert : ¬ fails.Throws (.insertWorker i))
    (hstart : ¬ fails.Throws (.startThread i)) :
    spawnWorker fails base i s = .ok () { s with workers := base :: s.workers } := by
  unfold spawnWorker
  rw [bind_ok (attempt_ok hnew)]
  apply caught_ok
  rw [bind_ok (attempt_ok hinsert)]
  exact caught_ok (attempt_ok hstart)

theorem spawnWorker_caught (hnew : ¬ fails.Throws (.newWorker i))
    (hfails : fails.Throws (.insertWorker i) ∨ fails.Throws (.startThread i)) :
    spawnWorker fails base i s =
      (if i = 0 then do
        popHandle
        popCallback
        popHandle
        popCallback
        throw Thrown.standard
      else pure () : Adding Handle Callback Unit) s := by
  unfold spawnWorker
  rw [bind_ok (attempt_ok hnew)]
  apply caught_standard
  by_cases hinsert : fails.Throws (.insertWorker i)
  · exact bind_error (attempt_error ((Failures.throws_iff (by simp)).mp hinsert))
  · have hstart := (Failures.throws_iff (by simp)).mp (hfails.resolve_left hinsert)
    rw [bind_ok (attempt_ok hinsert)]
    show undoing _ _ { s with workers := base :: s.workers } = _
    rw [undoing_standard (attempt_error hstart)]
    show EStateM.Result.error Thrown.standard
      { s with workers := (base :: s.workers).erase base } = _
    rw [List.erase_cons_head]

theorem spawnWorkers_later (fails : Failures) (base left : Nat)
    (s : AddState Handle Callback) (hi : i ≠ 0) :
    (exists workers,
        spawnWorkers fails base i left s = .ok () { s with workers } ∧
        forall j, i ≤ j -> j < i + left -> ¬ fails.Throws (.newWorker j)) ∨
      exists workers j,
        spawnWorkers fails base i left s = .error .standard { s with workers } ∧
          i ≤ j ∧ j < i + left ∧ fails.Throws (.newWorker j) := by
  induction left generalizing i s with
  | zero =>
      refine Or.inl ⟨s.workers, rfl, ?_⟩
      intro j hle hlt
      omega
  | succ left ih =>
      unfold spawnWorkers
      by_cases hnew : fails.Throws (.newWorker i)
      · rw [bind_error (spawnWorker_new hnew)]
        exact Or.inr ⟨s.workers, i, rfl, Nat.le_refl i, by omega, hnew⟩
      -- the round leaves the vectors alone, whether its worker runs or not
      have hround : exists workers,
          spawnWorker fails base i s = .ok () { s with workers } := by
        by_cases hfails : fails.Throws (.insertWorker i) ∨ fails.Throws (.startThread i)
        · refine ⟨s.workers, ?_⟩
          rw [spawnWorker_caught hnew hfails, if_neg hi]
          rfl
        · rcases not_or.mp hfails with ⟨hinsert, hstart⟩
          exact ⟨_, spawnWorker_ok hnew hinsert hstart⟩
      rcases hround with ⟨workers, hround⟩
      rw [bind_ok hround]
      have hrest := ih (i := i + 1) { s with workers } (Nat.succ_ne_zero i)
      rcases hrest with ⟨workers', hok, hall⟩ | ⟨workers', j, herror, hle, hlt, hthrows⟩
      · refine Or.inl ⟨workers', hok, ?_⟩
        intro j hle hlt
        by_cases hsame : j = i
        · subst hsame
          exact hnew
        · exact hall j (by omega) (by omega)
      · exact Or.inr ⟨workers', j, herror, by omega, by omega, hthrows⟩

/-- The first worker of a block is allocated, and is not registered or not started. -/
def FirstWorkerFails (fails : Failures) : Prop :=
  ¬ fails.Throws (.newWorker 0) ∧
    (fails.Throws (.insertWorker 0) ∨ fails.Throws (.startThread 0))

def unpushed (s : AddState Handle Callback) : AddState Handle Callback :=
  { s with
    pool.handles := s.pool.handles.dropLast.dropLast
    pool.callbacks := s.pool.callbacks.dropLast.dropLast }

theorem spawnWorkers_cases (fails : Failures) (base count : Nat)
    (s : AddState Handle Callback) :
    (exists workers,
        spawnWorkers fails base 0 count s = .ok () { s with workers } ∧
        forall i, i < count -> ¬ fails.Throws (.newWorker i)) ∨
      (exists workers i,
        spawnWorkers fails base 0 count s = .error .standard { s with workers } ∧
        i < count ∧ fails.Throws (.newWorker i) ∧ ¬ FirstWorkerFails fails) ∨
      spawnWorkers fails base 0 count s = .error .standard (unpushed s) ∧
        0 < count ∧ FirstWorkerFails fails := by
  cases count with
  | zero =>
      refine Or.inl ⟨s.workers, rfl, ?_⟩
      intro i hi
      cases hi
  | succ n =>
      unfold spawnWorkers
      by_cases hnew : fails.Throws (.newWorker 0)
      · rw [bind_error (spawnWorker_new hnew)]
        exact Or.inr (Or.inl ⟨s.workers, 0, rfl, Nat.succ_pos n, hnew,
          fun hfirst => hfirst.1 hnew⟩)
      by_cases hfirst : fails.Throws (.insertWorker 0) ∨ fails.Throws (.startThread 0)
      · refine Or.inr (Or.inr ⟨?_, Nat.succ_pos n, hnew, hfirst⟩)
        apply bind_error
        rw [spawnWorker_caught hnew hfirst, if_pos rfl]
        rfl
      · rcases not_or.mp hfirst with ⟨hinsert, hstart⟩
        rw [bind_ok (spawnWorker_ok hnew hinsert hstart)]
        rcases spawnWorkers_later fails base n
            { s with workers := base :: s.workers } Nat.one_ne_zero with
          ⟨workers, hok, hall⟩ | ⟨workers, j, herror, hle, hlt, hthrows⟩
        · refine Or.inl ⟨workers, hok, ?_⟩
          intro i hi
          by_cases hzero : i = 0
          · subst hzero
            exact hnew
          · exact hall i (by omega) (by omega)
        · exact Or.inr (Or.inl ⟨workers, j, herror, by omega, hthrows,
            fun hfails => hfirst hfails.2⟩)

end Workers

/-!
## The whole call
-/

section Calls

variable {fails : Failures} {s s' : AddState Handle Callback} {thrown : Thrown}
  {handle : Handle} {callback abort : Callback}

/-- A call that throws leaves the vectors as they were, and of equal length. -/
def Restores (fails : Failures) (abort : Callback) (handle : Handle)
    (callback : Callback) (s : AddState Handle Callback) : Prop :=
  forall thrown s', addHandle fails abort handle callback s = .error thrown s' ->
    s'.pool.handles = s.pool.handles ∧ s'.pool.callbacks = s.pool.callbacks ∧
      s'.pool.handles.length = s'.pool.callbacks.length

/-- What is thrown, if anything, is thrown where the vectors are restored. -/
def UndoneIn (fails : Failures) (s : AddState Handle Callback) : Prop :=
  if s.pool.opensBlock then
    fails.Throws .pushSpinWorkers ∨ fails.Throws .pushAbort ∨
      ((¬ fails.Throws .pushHandle ∧ ¬ fails.Throws .pushCallback) ∧
        ((0 < s.threadsToSpawn s.pool.handles.length ∧ FirstWorkerFails fails) ∨
          forall i, i < s.threadsToSpawn s.pool.handles.length ->
            ¬ fails.Throws (.newWorker i)))
  else fails.Throws .pushHandle ∨ fails.thrown .pushCallback ≠ some .other

theorem restores_of_ok (h : addHandle fails abort handle callback s = .ok () s') :
    Restores fails abort handle callback s := by
  intro thrown s'' herror
  rw [h] at herror
  cases herror

theorem restores_of_error (hlayout : s.pool.Layout)
    (h : addHandle fails abort handle callback s = .error thrown s)  :
    Restores fails abort handle callback s := by
  intro thrown' s'' herror
  rw [h] at herror
  cases herror
  exact ⟨rfl, rfl, hlayout.aligned⟩

theorem not_restores (h : addHandle fails abort handle callback s = .error thrown s')
    (hchanged : s'.pool.handles ≠ s.pool.handles ∨
      s'.pool.callbacks ≠ s.pool.callbacks) :
    ¬ Restores fails abort handle callback s := by
  intro hrestores
  rcases hrestores thrown s' h with ⟨hhandles, hcallbacks, _⟩
  rcases hchanged with hchanged | hchanged
  · exact hchanged hhandles
  · exact hchanged hcallbacks

theorem append_singleton_ne {α : Type} (xs : List α) (x : α) : xs ++ [x] ≠ xs := by
  simp

theorem addHandle_room (fails : Failures) (abort : Callback) (handle : Handle)
    (callback : Callback) (hroom : ¬ s.pool.opensBlock) :
    addHandle fails abort handle callback s = pushBoth fails handle callback s := by
  show (if s.pool.opensBlock then _ else pushBoth fails handle callback :
    Adding Handle Callback Unit) s = _
  rw [if_neg hroom]

theorem addHandle_opens (fails : Failures) (abort : Callback) (handle : Handle)
    (callback : Callback) (hopens : s.pool.opensBlock) :
    addHandle fails abort handle callback s =
      (do
        openBlock fails s.pool.spinWorkers abort handle callback
        spawnWorkers fails s.pool.handles.length 0
          (s.threadsToSpawn s.pool.handles.length) :
        Adding Handle Callback Unit) s := by
  show (if s.pool.opensBlock then _ else pushBoth fails handle callback :
    Adding Handle Callback Unit) s = _
  rw [if_pos hopens]

theorem restores_room (hlayout : s.pool.Layout) (hroom : ¬ s.pool.opensBlock) :
    Restores fails abort handle callback s ↔ UndoneIn fails s := by
  unfold UndoneIn
  rw [if_neg hroom]
  have hcall := addHandle_room fails abort handle callback hroom
  by_cases hhandle : fails.Throws .pushHandle
  · exact iff_of_true
      (restores_of_error hlayout (hcall.trans (pushBoth_handle hhandle)))
      (Or.inl hhandle)
  · cases hthrown : fails.thrown .pushCallback with
    | none =>
        have hcallback : ¬ fails.Throws .pushCallback := Failures.not_throws.mpr hthrown
        exact iff_of_true
          (restores_of_ok (hcall.trans (pushBoth_ok hhandle hcallback)))
          (Or.inr (by simp))
    | some thrown =>
        cases thrown with
        | standard =>
            exact iff_of_true
              (restores_of_error hlayout
                (hcall.trans (pushBoth_callback hhandle hthrown)))
              (Or.inr (by simp))
        | other =>
            apply iff_of_false
            · exact not_restores (hcall.trans (pushBoth_other hhandle hthrown))
                (Or.inl (append_singleton_ne _ _))
            · simp [hhandle]

theorem restores_spawning (hlayout : s.pool.Layout) (hopens : s.pool.opensBlock)
    (hspin : ¬ fails.Throws .pushSpinWorkers) (habort : ¬ fails.Throws .pushAbort)
    (hhandle : ¬ fails.Throws .pushHandle)
    (hcallback : ¬ fails.Throws .pushCallback) :
    Restores fails abort handle callback s ↔
      (0 < s.threadsToSpawn s.pool.handles.length ∧ FirstWorkerFails fails) ∨
        forall i, i < s.threadsToSpawn s.pool.handles.length ->
          ¬ fails.Throws (.newWorker i) := by
  have hcall := (addHandle_opens fails abort handle callback hopens).trans
      (bind_ok (openBlock_ok hspin habort hhandle hcallback))
  generalize hpushed : ({ s with
    pool.handles := s.pool.handles ++ [s.pool.spinWorkers] ++ [handle]
    pool.callbacks := s.pool.callbacks ++ [abort] ++ [callback] } :
      AddState Handle Callback) = pushed at hcall
  have hchanged : pushed.pool.callbacks ≠ s.pool.callbacks := by
    rw [← hpushed]
    simp
  rcases spawnWorkers_cases fails s.pool.handles.length
      (s.threadsToSpawn s.pool.handles.length) pushed with
    ⟨workers, hok, hall⟩ | ⟨workers, i, herror, hi, hthrows, hnot⟩ |
      ⟨herror, hcount, hfirst⟩
  · exact iff_of_true (restores_of_ok (hcall.trans hok)) (Or.inr hall)
  · apply iff_of_false
    · exact not_restores (hcall.trans herror) (Or.inr hchanged)
    · intro hundone
      rcases hundone with ⟨_, hfirst⟩ | hall
      · exact hnot hfirst
      · exact hall i hi hthrows
  · apply iff_of_true _ (Or.inl ⟨hcount, hfirst⟩)
    have hback : unpushed pushed = s := by
      rw [← hpushed]
      unfold unpushed
      simp only [List.dropLast_concat]
    rw [hback] at herror
    exact restores_of_error hlayout (hcall.trans herror)

theorem restores_opening (hlayout : s.pool.Layout) (hopens : s.pool.opensBlock) :
    Restores fails abort handle callback s ↔ UndoneIn fails s := by
  unfold UndoneIn
  rw [if_pos hopens]
  have hcall := addHandle_opens fails abort handle callback hopens
  by_cases hspin : fails.Throws .pushSpinWorkers
  · exact iff_of_true
      (restores_of_error hlayout (hcall.trans (bind_error (openBlock_spin hspin))))
      (Or.inl hspin)
  by_cases habort : fails.Throws .pushAbort
  · exact iff_of_true
      (restores_of_error hlayout
        (hcall.trans (bind_error (openBlock_abort hspin habort))))
      (Or.inr (Or.inl habort))
  by_cases hfails : fails.Throws .pushHandle ∨ fails.Throws .pushCallback
  · apply iff_of_false
    · rcases openBlock_both s.pool.spinWorkers abort handle callback s hspin habort
          hfails with
        ⟨thrown, s', herror, hcallbacks⟩
      apply not_restores (hcall.trans (bind_error herror))
      rw [hcallbacks]
      exact Or.inr (append_singleton_ne _ _)
    · intro hundone
      rcases hundone with hspin' | habort' | ⟨hnot, _⟩
      · exact hspin hspin'
      · exact habort habort'
      · rcases hfails with hhandle | hcallback
        · exact hnot.1 hhandle
        · exact hnot.2 hcallback
  · rcases not_or.mp hfails with ⟨hhandle, hcallback⟩
    rw [restores_spawning hlayout hopens hspin habort hhandle hcallback]
    simp only [hspin, habort, hhandle, hcallback, false_or, not_false_eq_true,
      true_and]

theorem addHandle_pool (h : addHandle fails abort handle callback s = .ok () s') :
    s'.pool = s.pool.addHandle abort handle callback := by
  unfold HandleHandlingPool.addHandle
  split
  · rename_i hopens
    rw [addHandle_opens fails abort handle callback hopens] at h
    by_cases hfails : fails.Throws .pushSpinWorkers ∨ fails.Throws .pushAbort ∨
        fails.Throws .pushHandle ∨ fails.Throws .pushCallback
    · rcases openBlock_fails s.pool.spinWorkers abort handle callback s hfails with
        ⟨thrown, s'', herror⟩
      rw [bind_error herror] at h
      cases h
    · rcases not_or.mp hfails with ⟨hspin, hfails⟩
      rcases not_or.mp hfails with ⟨habort, hfails⟩
      rcases not_or.mp hfails with ⟨hhandle, hcallback⟩
      rw [bind_ok (openBlock_ok hspin habort hhandle hcallback)] at h
      rcases spawnWorkers_cases fails s.pool.handles.length
          (s.threadsToSpawn s.pool.handles.length)
          { s with
            pool.handles := s.pool.handles ++ [s.pool.spinWorkers] ++ [handle]
            pool.callbacks := s.pool.callbacks ++ [abort] ++ [callback] } with
        ⟨workers, hok, _⟩ | ⟨workers, i, herror, _⟩ | ⟨herror, _⟩
      · rw [hok] at h
        cases h
        rfl
      · rw [herror] at h
        cases h
      · rw [herror] at h
        cases h
  · rename_i hroom
    rw [addHandle_room fails abort handle callback hroom] at h
    by_cases hfails : fails.Throws .pushHandle ∨ fails.Throws .pushCallback
    · rcases pushBoth_fails handle callback s hfails with ⟨thrown, s'', herror, _⟩
      rw [herror] at h
      cases h
    · rcases not_or.mp hfails with ⟨hhandle, hcallback⟩
      rw [pushBoth_ok hhandle hcallback] at h
      cases h
      rfl

/--
A call of `add_handle` that throws leaves the vectors as they were if and only if it
throws where they are restored: not between the push of the callback of a new
`spin_workers` and that of the callback of the handle, not where a worker is
allocated, and nothing that is not a `std::exception` in the copy of a callback.
-/
theorem restores_iff (hlayout : s.pool.Layout) :
    Restores fails abort handle callback s ↔ UndoneIn fails s := by
  by_cases hopens : s.pool.opensBlock
  · exact restores_opening hlayout hopens
  · exact restores_room hlayout hopens

end Calls

/-!
## The first handle of a pool
-/

/-- One step throws a `std::exception`, wherever it is reached. -/
def failsAt (step : AddStep) : Failures where
  thrown := fun other => if other = step then some .standard else none
  standard := by
    intro other _
    split <;> simp

/-- A pool of one thread for each block of two handles, with `spin_workers` 0. -/
def freshPool : AddState Nat Nat where
  pool :=
    { threadsPerPool := 1, maxHandlesPerPool := 3, spinWorkers := 0
      handles := [], callbacks := [] }
  workers := []

theorem freshPool_layout : freshPool.pool.Layout :=
  HandleHandlingPool.create_layout
    (show HandleHandlingPool.create 1 2 0 = some freshPool.pool from rfl)

/-- The pool with a block that has its worker and both of its handles. -/
def filledPool : AddState Nat Nat where
  pool := (freshPool.pool.addHandle 0 1 10).addHandle 0 2 20
  workers := [0]

theorem filledPool_layout : filledPool.pool.Layout := by
  have hfirst : (1 : Nat) ≠ freshPool.pool.spinWorkers := by decide
  have hsecond : (2 : Nat) ≠ (freshPool.pool.addHandle 0 1 10).spinWorkers := by decide
  exact (freshPool_layout.addHandle 0 hfirst 10).addHandle 0 hsecond 20

/-- The thread for the second block is not started, and all is taken back. -/
theorem restores_iff_start :
    filledPool.pool.handles = [0, 1, 2] ∧
      (Restores (failsAt (.startThread 0)) 0 3 30 filledPool ↔
        UndoneIn (failsAt (.startThread 0)) filledPool) :=
  ⟨rfl, restores_iff filledPool_layout⟩

/-- There is no memory for the first handle behind its `spin_workers`. -/
theorem not_restores_handle :
    ¬ forall (fails : Failures) (abort handle callback : Nat) (s : AddState Nat Nat),
      s.pool.Layout -> Restores fails abort handle callback s := by
  intro hclaim
  have hrestores := hclaim (failsAt .pushHandle) 0 1 10 freshPool freshPool_layout
  have hcall : exists s', addHandle (failsAt .pushHandle) 0 1 10 freshPool =
      .error .standard s' ∧ s'.pool.callbacks = [0] ∧ s'.pool.handles = [] :=
    ⟨_, rfl, rfl, rfl⟩
  rcases hcall with ⟨s', herror, hcallbacks, hhandles⟩
  have hlength := (hrestores .standard s' herror).2.2
  rw [hcallbacks, hhandles] at hlength
  cases hlength

end Adding
end DirectPlayLite
