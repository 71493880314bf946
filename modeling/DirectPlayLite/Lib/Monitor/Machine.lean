import DirectPlayLite.Lib.Monitor.Program
import Mathlib.Data.Multiset.AddSub

/-!
# Threads around one lock

A machine gives commands, queries and procedures their meaning.  Its threads run
programs one at a time: only the holder of the lock takes steps, a thread that has
released the lock is parked until its query is answered, and new threads enter at
procedures when the lock is free.
-/

namespace Monitor

structure Machine (S C Q A P F : Type) where
  /-- The effect of a command. -/
  apply : C -> S -> S
  /-- The answers the environment may give to a query. -/
  answers : S -> Q -> A -> Bool
  body : P -> Program S C Q A P F Unit
  /-- The procedures a new thread may start with. -/
  entry : P -> S -> Bool

/-- A running thread: its innermost procedure and the calls it returns to. -/
structure Thread (S C Q A P F : Type) where
  proc : P
  code : Program S C Q A P F Unit
  callers : List (P × Program S C Q A P F Unit)

inductive Parked (S C Q A P F : Type) where
  | spawned (proc : P)
  | released (proc : P) (callers : List (P × Program S C Q A P F Unit))
      (query : Q) (ready : S -> Bool) (next : A -> Program S C Q A P F Unit)

structure Config (S C Q A P F : Type) where
  state : S
  running : Option (Thread S C Q A P F)
  parked : List (Parked S C Q A P F)
  fault : Option F

/-- What a step does, with the innermost procedure of the thread that takes it. -/
inductive Label (C Q A P F : Type) where
  | start (proc : P)
  | wake (proc : P)
  | resume (proc : P) (query : Q) (answer : A)
  | answer (proc : P) (query : Q) (answer : A)
  | exec (proc : P) (command : C)
  | call (proc callee : P)
  | spawn (proc child : P)
  | abort (proc : P) (fault : F)
  | silent (proc : P)
deriving Repr, DecidableEq

variable {S C Q A P F : Type}

/-- The procedures a thread is inside of, innermost first. -/
def Thread.stack (t : Thread S C Q A P F) : List P :=
  t.proc :: t.callers.map Prod.fst

def Parked.stack : Parked S C Q A P F -> List P
  | spawned proc => [proc]
  | released proc callers _ _ _ => proc :: callers.map Prod.fst

namespace Config

/-- The lock is free and the program has not ended. -/
def Free (c : Config S C Q A P F) : Prop :=
  c.running = none ∧ c.fault = none

instance {c : Config S C Q A P F} : Decidable c.Free :=
  decidable_of_iff (c.running.isNone ∧ c.fault.isNone) (by simp [Free])

def runningStack (c : Config S C Q A P F) : List P :=
  match c.running with
  | none => []
  | some t => t.stack

/-- All the procedures that have been entered and not been left. -/
def activations (c : Config S C Q A P F) : Multiset P :=
  c.runningStack + (c.parked.flatMap Parked.stack : Multiset P)

/-- The configuration before any thread has started. -/
def initial (s : S) : Config S C Q A P F :=
  { state := s, running := none, parked := [], fault := none }

end Config

/-!
## Steps
-/

inductive Step (m : Machine S C Q A P F) :
    Config S C Q A P F -> Label C Q A P F -> Config S C Q A P F -> Prop where
  | start {s parked proc} :
      m.entry proc s = true ->
      Step m ⟨s, none, parked, none⟩ (.start proc)
        ⟨s, some ⟨proc, m.body proc, []⟩, parked, none⟩
  | wake {s before after proc} :
      Step m ⟨s, none, before ++ .spawned proc :: after, none⟩ (.wake proc)
        ⟨s, some ⟨proc, m.body proc, []⟩, before ++ after, none⟩
  | resume {s before after proc callers query ready next answer} :
      ready s = true ->
      m.answers s query answer = true ->
      Step m
        ⟨s, none,
          before ++ .released proc callers query ready next :: after, none⟩
        (.resume proc query answer)
        ⟨s, some ⟨proc, next answer, callers⟩, before ++ after, none⟩
  | read {s parked proc callers next} :
      Step m ⟨s, some ⟨proc, .read next, callers⟩, parked, none⟩
        (.silent proc)
        ⟨s, some ⟨proc, next s, callers⟩, parked, none⟩
  | exec {s parked proc callers command next} :
      Step m ⟨s, some ⟨proc, .exec command next, callers⟩, parked, none⟩
        (.exec proc command)
        ⟨m.apply command s, some ⟨proc, next, callers⟩, parked, none⟩
  | answer {s parked proc callers query next answer} :
      m.answers s query answer = true ->
      Step m ⟨s, some ⟨proc, .ask query next, callers⟩, parked, none⟩
        (.answer proc query answer)
        ⟨s, some ⟨proc, next answer, callers⟩, parked, none⟩
  | release {s parked proc callers query ready next} :
      Step m
        ⟨s, some ⟨proc, .release query ready next, callers⟩, parked, none⟩
        (.silent proc)
        ⟨s, none, parked ++ [.released proc callers query ready next], none⟩
  | call {s parked proc callers callee next} :
      Step m ⟨s, some ⟨proc, .call callee next, callers⟩, parked, none⟩
        (.call proc callee)
        ⟨s, some ⟨callee, m.body callee, (proc, next) :: callers⟩, parked,
          none⟩
  | spawn {s parked proc callers child next} :
      Step m ⟨s, some ⟨proc, .spawn child next, callers⟩, parked, none⟩
        (.spawn proc child)
        ⟨s, some ⟨proc, next, callers⟩, parked ++ [.spawned child], none⟩
  | return {s parked proc caller next callers} :
      Step m
        ⟨s, some ⟨proc, .ret (), (caller, next) :: callers⟩, parked, none⟩
        (.silent proc)
        ⟨s, some ⟨caller, next, callers⟩, parked, none⟩
  | finish {s parked proc} :
      Step m ⟨s, some ⟨proc, .ret (), []⟩, parked, none⟩ (.silent proc)
        ⟨s, none, parked, none⟩
  | abort {s parked proc callers fault} :
      Step m ⟨s, some ⟨proc, .abort fault, callers⟩, parked, none⟩
        (.abort proc fault)
        ⟨s, none, parked, some fault⟩

/--
The configurations of runs from an initial state in which every step meets a
condition on the state before it, the entered procedures and its label.
-/
inductive Reaches (m : Machine S C Q A P F) (initial : S -> Prop)
    (cond : S -> Multiset P -> Label C Q A P F -> Prop) :
    Config S C Q A P F -> Prop where
  | initial {s : S} : initial s -> Reaches m initial cond (Config.initial s)
  | step {c c' : Config S C Q A P F} {label : Label C Q A P F} :
      Reaches m initial cond c ->
      Step m c label c' ->
      cond c.state c.activations label ->
      Reaches m initial cond c'

def Unrestricted : S -> Multiset P -> Label C Q A P F -> Prop :=
  fun _ _ _ => True

instance {s : S} {M : Multiset P} {label : Label C Q A P F} :
    Decidable (Unrestricted s M label) := inferInstanceAs (Decidable True)

/-!
## Footprints of steps

What a thread does next is in the footprint of its innermost procedure, and so is
what its callers will do.
-/

section Footprints

variable (fp : P -> Program.Footprint C P F)

def CallersKeepTo (callers : List (P × Program S C Q A P F Unit)) : Prop :=
  forall caller, caller ∈ callers -> caller.2.Uses (fp caller.1)

def Thread.KeepsTo (t : Thread S C Q A P F) : Prop :=
  t.code.Uses (fp t.proc) ∧ CallersKeepTo fp t.callers

def Parked.KeepsTo : Parked S C Q A P F -> Prop
  | spawned _ => True
  | released proc callers _ _ next =>
      (forall answer, (next answer).Uses (fp proc)) ∧ CallersKeepTo fp callers

structure Config.KeepsTo (c : Config S C Q A P F) : Prop where
  running : forall t, c.running = some t -> t.KeepsTo fp
  parked : forall t, t ∈ c.parked -> t.KeepsTo fp

variable {fp} {m : Machine S C Q A P F}

theorem Config.KeepsTo.run {s : S} {t : Thread S C Q A P F}
    {parked : List (Parked S C Q A P F)} (hrunning : t.KeepsTo fp)
    (hparked : forall other, other ∈ parked -> other.KeepsTo fp) :
    Config.KeepsTo fp ⟨s, some t, parked, none⟩ where
  running := by
    intro t' ht'
    cases ht'
    exact hrunning
  parked := hparked

theorem Config.KeepsTo.park {s : S} {parked : List (Parked S C Q A P F)}
    {fault : Option F}
    (hparked : forall other, other ∈ parked -> other.KeepsTo fp) :
    Config.KeepsTo fp ⟨s, none, parked, fault⟩ where
  running := by
    intro t ht
    cases ht
  parked := hparked

theorem Config.KeepsTo.step (hbody : forall p, (m.body p).Uses (fp p))
    {c c' : Config S C Q A P F} {label : Label C Q A P F}
    (h : c.KeepsTo fp) (hstep : Step m c label c') : c'.KeepsTo fp := by
  have hcallers : CallersKeepTo (S := S) (Q := Q) (A := A) fp [] := by
    intro caller hcaller
    cases hcaller
  cases hstep with
  | start => exact run ⟨hbody _, hcallers⟩ h.parked
  | wake =>
      refine run ⟨hbody _, hcallers⟩ fun other hother => h.parked other ?_
      simp at hother ⊢
      tauto
  | @resume s before after proc callers query ready next answer =>
      have hthread : (Parked.released proc callers query ready next).KeepsTo fp :=
        h.parked _ (by simp)
      refine run ⟨hthread.1 _, hthread.2⟩ fun other hother =>
        h.parked other ?_
      simp at hother ⊢
      tauto
  | read =>
      have hthread := h.running _ rfl
      exact run ⟨hthread.1 _, hthread.2⟩ h.parked
  | exec =>
      have hthread := h.running _ rfl
      exact run ⟨hthread.1.2, hthread.2⟩ h.parked
  | answer =>
      have hthread := h.running _ rfl
      exact run ⟨hthread.1 _, hthread.2⟩ h.parked
  | release =>
      have hthread := h.running _ rfl
      refine park fun other hother => ?_
      rcases List.mem_append.mp hother with hold | hnew
      · exact h.parked other hold
      · cases List.mem_singleton.mp hnew
        exact ⟨hthread.1.2, hthread.2⟩
  | call =>
      have hthread := h.running _ rfl
      refine run ⟨hbody _, ?_⟩ h.parked
      intro caller hcaller
      rcases List.mem_cons.mp hcaller with rfl | hrest
      · exact hthread.1.2
      · exact hthread.2 caller hrest
  | spawn =>
      have hthread := h.running _ rfl
      refine run ⟨hthread.1.2, hthread.2⟩ fun other hother => ?_
      rcases List.mem_append.mp hother with hold | hnew
      · exact h.parked other hold
      · cases List.mem_singleton.mp hnew
        trivial
  | «return» =>
      have hthread := h.running _ rfl
      exact run ⟨hthread.2 _ List.mem_cons_self, fun caller hcaller =>
        hthread.2 caller (List.mem_cons_of_mem _ hcaller)⟩ h.parked
  | finish => exact park h.parked
  | abort => exact park h.parked

theorem Reaches.mono {initial : S -> Prop}
    {cond cond' : S -> Multiset P -> Label C Q A P F -> Prop}
    {c : Config S C Q A P F} (h : Reaches m initial cond c)
    (hcond : forall s M label, cond s M label -> cond' s M label) :
    Reaches m initial cond' c := by
  induction h with
  | initial hs => exact .initial hs
  | step _ hstep hallowed ih => exact ih.step hstep (hcond _ _ _ hallowed)

theorem Reaches.keepsTo {initial : S -> Prop}
    {cond : S -> Multiset P -> Label C Q A P F -> Prop}
    (hbody : forall p, (m.body p).Uses (fp p)) {c : Config S C Q A P F}
    (h : Reaches m initial cond c) : c.KeepsTo fp := by
  induction h with
  | initial => exact Config.KeepsTo.park fun other hother => by cases hother
  | step _ hstep _ ih => exact ih.step hbody hstep

theorem Reaches.exec_uses {initial : S -> Prop}
    {cond : S -> Multiset P -> Label C Q A P F -> Prop}
    (hbody : forall p, (m.body p).Uses (fp p)) {c c' : Config S C Q A P F}
    {p : P} {command : C} (h : Reaches m initial cond c)
    (hstep : Step m c (.exec p command) c') : (fp p).commands command := by
  have hkeeps := h.keepsTo hbody
  cases hstep with
  | exec => exact (hkeeps.running _ rfl).1.1

end Footprints

/-!
## A scheduler

Runs are computed from the choices the environment makes: which thread takes the
lock next, and how queries are answered.  The steps in between are forced.
-/

inductive Choice (A P : Type) where
  | start (proc : P)
  | resume (index : Nat) (answer : A)
  | answer (answer : A)
deriving Repr, DecidableEq

/-- The step the holder of the lock takes by itself. -/
def advance (m : Machine S C Q A P F) (s : S) (t : Thread S C Q A P F)
    (parked : List (Parked S C Q A P F)) :
    Option (Label C Q A P F × Config S C Q A P F) :=
  match t with
  | ⟨proc, .read next, callers⟩ =>
      some (.silent proc, ⟨s, some ⟨proc, next s, callers⟩, parked, none⟩)
  | ⟨proc, .exec command next, callers⟩ =>
      some (.exec proc command,
        ⟨m.apply command s, some ⟨proc, next, callers⟩, parked, none⟩)
  | ⟨_, .ask _ _, _⟩ => none
  | ⟨proc, .release query ready next, callers⟩ =>
      some (.silent proc,
        ⟨s, none, parked ++ [.released proc callers query ready next], none⟩)
  | ⟨proc, .call callee next, callers⟩ =>
      some (.call proc callee,
        ⟨s, some ⟨callee, m.body callee, (proc, next) :: callers⟩, parked,
          none⟩)
  | ⟨proc, .spawn child next, callers⟩ =>
      some (.spawn proc child,
        ⟨s, some ⟨proc, next, callers⟩, parked ++ [.spawned child], none⟩)
  | ⟨proc, .ret (), (caller, next) :: callers⟩ =>
      some (.silent proc, ⟨s, some ⟨caller, next, callers⟩, parked, none⟩)
  | ⟨proc, .ret (), []⟩ => some (.silent proc, ⟨s, none, parked, none⟩)
  | ⟨proc, .abort fault, _⟩ =>
      some (.abort proc fault, ⟨s, none, parked, some fault⟩)

def choose (m : Machine S C Q A P F) (s : S)
    (running : Option (Thread S C Q A P F))
    (parked : List (Parked S C Q A P F)) (choice : Choice A P) :
    Option (Label C Q A P F × Config S C Q A P F) :=
  match choice, running with
  | .start proc, none =>
      if m.entry proc s then
        some (.start proc, ⟨s, some ⟨proc, m.body proc, []⟩, parked, none⟩)
      else none
  | .resume index answer, none =>
      match parked.splitAt index with
      | (before, .spawned proc :: after) =>
          some (.wake proc,
            ⟨s, some ⟨proc, m.body proc, []⟩, before ++ after, none⟩)
      | (before, .released proc callers query ready next :: after) =>
          if ready s ∧ m.answers s query answer then
            some (.resume proc query answer,
              ⟨s, some ⟨proc, next answer, callers⟩, before ++ after, none⟩)
          else none
      | (_, []) => none
  | .answer answer, some ⟨proc, .ask query next, callers⟩ =>
      if m.answers s query answer then
        some (.answer proc query answer,
          ⟨s, some ⟨proc, next answer, callers⟩, parked, none⟩)
      else none
  | _, _ => none

theorem advance_step {m : Machine S C Q A P F} {s : S}
    {t : Thread S C Q A P F} {parked : List (Parked S C Q A P F)}
    {c' : Config S C Q A P F} {label : Label C Q A P F}
    (h : advance m s t parked = some (label, c')) :
    Step m ⟨s, some t, parked, none⟩ label c' := by
  rcases t with ⟨proc, code, callers⟩
  cases code with
  | ret value =>
      cases callers with
      | nil => cases h; exact Step.finish
      | cons caller callers => cases h; exact Step.return
  | read next => cases h; exact Step.read
  | exec command next => cases h; exact Step.exec
  | ask query next => cases h
  | release query ready next => cases h; exact Step.release
  | call callee next => cases h; exact Step.call
  | spawn child next => cases h; exact Step.spawn
  | abort fault => cases h; exact Step.abort

theorem choose_step {m : Machine S C Q A P F} {s : S}
    {running : Option (Thread S C Q A P F)}
    {parked : List (Parked S C Q A P F)} {choice : Choice A P}
    {c' : Config S C Q A P F} {label : Label C Q A P F}
    (h : choose m s running parked choice = some (label, c')) :
    Step m ⟨s, running, parked, none⟩ label c' := by
  unfold choose at h
  split at h
  · split at h
    · rename_i hentry
      cases h
      exact Step.start hentry
    · cases h
  · rename_i index answer
    have hparked : parked = (parked.splitAt index).1 ++ (parked.splitAt index).2 := by
      simp
    split at h
    · rename_i before proc after hsplit
      rw [hsplit] at hparked
      cases h
      rw [hparked]
      exact Step.wake
    · rename_i before proc callers query ready next after hsplit
      rw [hsplit] at hparked
      split at h
      · rename_i hready
        cases h
        rw [hparked]
        exact Step.resume hready.1 hready.2
      · cases h
    · cases h
  · split at h
    · rename_i hanswer
      cases h
      exact Step.answer hanswer
    · cases h
  · cases h

section Scheduler

variable (m : Machine S C Q A P F)
  (cond : S -> Multiset P -> Label C Q A P F -> Prop)
  [forall s M label, Decidable (cond s M label)]

def allowed (c : Config S C Q A P F)
    (taken : Option (Label C Q A P F × Config S C Q A P F)) :
    Option (Config S C Q A P F) :=
  taken.bind fun (label, c') =>
    if cond c.state c.activations label then some c' else none

def settle : Nat -> Config S C Q A P F -> Option (Config S C Q A P F)
  | 0, _ => none
  | fuel + 1, ⟨s, running, parked, fault⟩ =>
      match running, fault with
      | some ⟨proc, .ask query next, callers⟩, none =>
          some ⟨s, some ⟨proc, .ask query next, callers⟩, parked, none⟩
      | some t, none =>
          (allowed cond ⟨s, some t, parked, none⟩ (advance m s t parked)).bind
            (settle fuel)
      | running, fault => some ⟨s, running, parked, fault⟩

def schedule (fuel : Nat) :
    Config S C Q A P F -> List (Choice A P) -> Option (Config S C Q A P F)
  | c, [] => some c
  | ⟨s, running, parked, none⟩, choice :: rest =>
      (allowed cond ⟨s, running, parked, none⟩
        (choose m s running parked choice)).bind fun c' =>
          (settle m cond fuel c').bind fun c'' => schedule fuel c'' rest
  | ⟨_, _, _, some _⟩, _ :: _ => none

def settleTo (wanted : Label C Q A P F -> Bool) :
    Nat -> Config S C Q A P F -> Option (Config S C Q A P F × Config S C Q A P F)
  | fuel + 1, ⟨s, some t, parked, none⟩ =>
      (advance m s t parked).bind fun (label, c') =>
        if wanted label then some (⟨s, some t, parked, none⟩, c')
        else
          (allowed cond ⟨s, some t, parked, none⟩ (some (label, c'))).bind
            (settleTo wanted fuel)
  | _, _ => none

def chooseTo (wanted : Label C Q A P F -> Bool) (fuel : Nat)
    (c : Config S C Q A P F) (choice : Choice A P) :
    Option (Config S C Q A P F × Config S C Q A P F) :=
  match c with
  | ⟨s, running, parked, none⟩ =>
      (allowed cond ⟨s, running, parked, none⟩
        (choose m s running parked choice)).bind (settleTo m cond wanted fuel)
  | ⟨_, _, _, some _⟩ => none

variable {m cond} {initial : S -> Prop}

theorem allowed_reaches {c c' : Config S C Q A P F}
    {taken : Option (Label C Q A P F × Config S C Q A P F)}
    (hc : Reaches m initial cond c)
    (hstep : forall label c'', taken = some (label, c'') -> Step m c label c'')
    (h : allowed cond c taken = some c') : Reaches m initial cond c' := by
  rcases Option.bind_eq_some_iff.mp h with ⟨⟨label, c''⟩, htaken, hallowed⟩
  simp only at hallowed
  split at hallowed
  · rename_i hcond
    cases hallowed
    exact Reaches.step hc (hstep label c' htaken) hcond
  · cases hallowed

theorem settle_reaches {fuel : Nat} {c c' : Config S C Q A P F}
    (hc : Reaches m initial cond c) (h : settle m cond fuel c = some c') :
    Reaches m initial cond c' := by
  induction fuel generalizing c with
  | zero => cases h
  | succ fuel ih =>
      rcases c with ⟨s, running, parked, fault⟩
      simp only [settle] at h
      split at h
      · cases h
        exact hc
      · rcases Option.bind_eq_some_iff.mp h with ⟨c'', hallowed, hsettle⟩
        exact ih (allowed_reaches hc (fun _ _ => advance_step) hallowed) hsettle
      · cases h
        exact hc

theorem schedule_reaches {fuel : Nat} {c c' : Config S C Q A P F}
    {choices : List (Choice A P)} (hc : Reaches m initial cond c)
    (h : schedule m cond fuel c choices = some c') :
    Reaches m initial cond c' := by
  induction choices generalizing c with
  | nil =>
      cases h
      exact hc
  | cons choice rest ih =>
      rcases c with ⟨s, running, parked, fault⟩
      cases fault with
      | some fault => cases h
      | none =>
          rw [schedule] at h
          rcases Option.bind_eq_some_iff.mp h with ⟨c₁, hallowed, h⟩
          rcases Option.bind_eq_some_iff.mp h with ⟨c₂, hsettle, hrest⟩
          have hc₁ := allowed_reaches hc (fun _ _ => choose_step) hallowed
          exact ih (settle_reaches hc₁ hsettle) hrest

theorem settleTo_step {wanted : Label C Q A P F -> Bool} {fuel : Nat}
    {c c₁ c₂ : Config S C Q A P F} (hc : Reaches m initial cond c)
    (h : settleTo m cond wanted fuel c = some (c₁, c₂)) :
    Reaches m initial cond c₁ ∧
      exists label, wanted label = true ∧ Step m c₁ label c₂ := by
  induction fuel generalizing c with
  | zero => cases h
  | succ fuel ih =>
      rcases c with ⟨s, running | t, parked, fault | fault⟩
      · cases h
      · cases h
      · rw [settleTo] at h
        rcases Option.bind_eq_some_iff.mp h with ⟨⟨label, c'⟩, hadvance, h⟩
        simp only at h
        split at h
        · rename_i hwanted
          cases h
          exact ⟨hc, label, hwanted, advance_step hadvance⟩
        · rcases Option.bind_eq_some_iff.mp h with ⟨c'', hallowed, h⟩
          refine ih (allowed_reaches hc ?_ hallowed) h
          rintro _ _ ⟨⟩
          exact advance_step hadvance
      · cases h

theorem chooseTo_step {wanted : Label C Q A P F -> Bool} {fuel : Nat}
    {c c₁ c₂ : Config S C Q A P F} {choice : Choice A P}
    (hc : Reaches m initial cond c)
    (h : chooseTo m cond wanted fuel c choice = some (c₁, c₂)) :
    Reaches m initial cond c₁ ∧
      exists label, wanted label = true ∧ Step m c₁ label c₂ := by
  rcases c with ⟨s, running, parked, fault | fault⟩
  · rcases Option.bind_eq_some_iff.mp h with ⟨c', hallowed, h⟩
    exact settleTo_step
      (allowed_reaches hc (fun _ _ => choose_step) hallowed) h
  · cases h

end Scheduler

end Monitor
