/-!
# Programs under a monitor lock

A program runs while it holds one lock.  It reads the shared state, changes it by
commands, asks its environment for answers, and may release the lock for as long
as the environment takes to answer.  Calls and spawned threads are named by
procedures, whose bodies a machine supplies, so that programs can be recursive.
-/

namespace Monitor

/--
Programs over states `S`, commands `C`, queries `Q` with answers `A`, procedures
`P` and faults `F`, returning a value of type `α`.
-/
inductive Program (S C Q A P F α : Type) where
  | ret (value : α)
  | read (next : S -> Program S C Q A P F α)
  | exec (command : C) (next : Program S C Q A P F α)
  | ask (query : Q) (next : A -> Program S C Q A P F α)
  | release (query : Q) (ready : S -> Bool)
      (next : A -> Program S C Q A P F α)
  | call (proc : P) (next : Program S C Q A P F α)
  | spawn (proc : P) (next : Program S C Q A P F α)
  | abort (fault : F)

namespace Program

variable {S C Q A P F α β : Type}

/-- Run one program and then another on its result. -/
def bind (prog : Program S C Q A P F α) (f : α -> Program S C Q A P F β) :
    Program S C Q A P F β :=
  match prog with
  | ret value => f value
  | read next => read fun s => (next s).bind f
  | exec command next => exec command (next.bind f)
  | ask query next => ask query fun a => (next a).bind f
  | release query ready next => release query ready fun a => (next a).bind f
  | call proc next => call proc (next.bind f)
  | spawn proc next => spawn proc (next.bind f)
  | abort fault => abort fault

instance : Monad (Program S C Q A P F) where
  pure := ret
  bind := bind

/-!
## Single steps as programs
-/

def get : Program S C Q A P F S := read ret

def perform (command : C) : Program S C Q A P F Unit :=
  exec command (ret ())

/-- Put a query to the environment while holding the lock. -/
def query (query : Q) : Program S C Q A P F A := ask query ret

/--
Release the lock, put a query to the environment, and take the lock again once
the query is answered and the state is ready.
-/
def unlocked (query : Q) (ready : S -> Bool) : Program S C Q A P F A :=
  release query ready ret

def invoke (proc : P) : Program S C Q A P F Unit := call proc (ret ())

/-- Start a procedure on a thread of its own. -/
def detach (proc : P) : Program S C Q A P F Unit := spawn proc (ret ())

def onlyIf (condition : Prop) [Decidable condition]
    (prog : Program S C Q A P F Unit) : Program S C Q A P F Unit :=
  if condition then prog else ret ()

def forEach {ι : Type} (f : ι -> Program S C Q A P F Unit) :
    List ι -> Program S C Q A P F Unit
  | [] => ret ()
  | x :: rest => (f x).bind fun _ => forEach f rest

/-!
## The monad operations
-/

@[simp] theorem pure_eq (value : α) :
    (pure value : Program S C Q A P F α) = ret value := rfl

@[simp] theorem bind_eq (prog : Program S C Q A P F α)
    (f : α -> Program S C Q A P F β) : prog >>= f = prog.bind f := rfl

@[simp] theorem ret_bind (value : α) (f : α -> Program S C Q A P F β) :
    (ret value).bind f = f value := rfl

@[simp] theorem get_bind (f : S -> Program S C Q A P F β) :
    get.bind f = read f := rfl

@[simp] theorem perform_bind (command : C)
    (f : Unit -> Program S C Q A P F β) :
    (perform command).bind f = exec command (f ()) := rfl

@[simp] theorem query_bind (q : Q) (f : A -> Program S C Q A P F β) :
    (query q).bind f = ask q f := rfl

@[simp] theorem unlocked_bind (q : Q) (ready : S -> Bool)
    (f : A -> Program S C Q A P F β) :
    (unlocked q ready).bind f = release q ready f := rfl

@[simp] theorem invoke_bind (proc : P) (f : Unit -> Program S C Q A P F β) :
    (invoke proc).bind f = call proc (f ()) := rfl

@[simp] theorem detach_bind (proc : P) (f : Unit -> Program S C Q A P F β) :
    (detach proc).bind f = spawn proc (f ()) := rfl

@[simp] theorem abort_bind (fault : F) (f : α -> Program S C Q A P F β) :
    (abort fault).bind f = abort fault := rfl

@[simp] theorem bind_ret (prog : Program S C Q A P F α) :
    prog.bind ret = prog := by
  induction prog <;> simp_all [bind]

theorem bind_assoc {γ : Type} (prog : Program S C Q A P F α)
    (f : α -> Program S C Q A P F β) (g : β -> Program S C Q A P F γ) :
    (prog.bind f).bind g = prog.bind fun value => (f value).bind g := by
  induction prog <;> simp_all [bind]

/-!
## What a program can do

A program keeps to a footprint whatever state it reads and whatever it is
answered.
-/

structure Footprint (C P F : Type) where
  commands : C -> Prop
  releases : Prop
  calls : P -> Prop
  spawns : P -> Prop
  faults : F -> Prop

namespace Footprint

variable {commands : C -> Prop} {calls spawns : P -> Prop}

def within (commands : C -> Prop) (calls spawns : P -> Prop) : Footprint C P F where
  commands := commands
  releases := True
  calls := calls
  spawns := spawns
  faults := fun _ => True

/-- Any calls and threads, but commands of some kind only. -/
abbrev running (commands : C -> Prop) : Footprint C P F :=
  within commands (fun _ => True) (fun _ => True)

@[simp] theorem within_commands :
    (within commands calls spawns : Footprint C P F).commands = commands := rfl

@[simp] theorem within_releases :
    (within commands calls spawns : Footprint C P F).releases = True := rfl

@[simp] theorem within_calls :
    (within commands calls spawns : Footprint C P F).calls = calls := rfl

@[simp] theorem within_spawns :
    (within commands calls spawns : Footprint C P F).spawns = spawns := rfl

@[simp] theorem within_faults :
    (within commands calls spawns : Footprint C P F).faults = fun _ => True := rfl

end Footprint

def Uses (fp : Footprint C P F) : Program S C Q A P F α -> Prop
  | ret _ => True
  | read next => forall s, (next s).Uses fp
  | exec command next => fp.commands command ∧ next.Uses fp
  | ask _ next => forall a, (next a).Uses fp
  | release _ _ next => fp.releases ∧ forall a, (next a).Uses fp
  | call proc next => fp.calls proc ∧ next.Uses fp
  | spawn proc next => fp.spawns proc ∧ next.Uses fp
  | abort fault => fp.faults fault

section Uses

variable {fp : Footprint C P F}

theorem Uses.bind {prog : Program S C Q A P F α}
    {f : α -> Program S C Q A P F β} (hprog : prog.Uses fp)
    (hf : forall value, (f value).Uses fp) : (prog.bind f).Uses fp := by
  induction prog with
  | ret value => exact hf value
  | read next ih => exact fun s => ih s (hprog s)
  | exec command next ih => exact ⟨hprog.1, ih hprog.2⟩
  | ask q next ih => exact fun a => ih a (hprog a)
  | release q ready next ih =>
      exact ⟨hprog.1, fun a => ih a (hprog.2 a)⟩
  | call proc next ih => exact ⟨hprog.1, ih hprog.2⟩
  | spawn proc next ih => exact ⟨hprog.1, ih hprog.2⟩
  | abort fault => exact hprog

theorem Uses.mono {fp' : Footprint C P F} {prog : Program S C Q A P F α}
    (h : prog.Uses fp)
    (hcommands : forall command, fp.commands command -> fp'.commands command)
    (hreleases : fp.releases -> fp'.releases)
    (hcalls : forall p, fp.calls p -> fp'.calls p)
    (hspawns : forall p, fp.spawns p -> fp'.spawns p)
    (hfaults : forall f, fp.faults f -> fp'.faults f) : prog.Uses fp' := by
  induction prog with
  | ret value => trivial
  | read next ih => exact fun s => ih s (h s)
  | exec command next ih => exact ⟨hcommands _ h.1, ih h.2⟩
  | ask q next ih => exact fun a => ih a (h a)
  | release q ready next ih => exact ⟨hreleases h.1, fun a => ih a (h.2 a)⟩
  | call proc next ih => exact ⟨hcalls _ h.1, ih h.2⟩
  | spawn proc next ih => exact ⟨hspawns _ h.1, ih h.2⟩
  | abort fault => exact hfaults _ h

theorem Uses.within {prog : Program S C Q A P F α} {commands : C -> Prop}
    {calls spawns : P -> Prop} (h : prog.Uses fp)
    (hcommands : forall command, fp.commands command -> commands command)
    (hcalls : forall p, fp.calls p -> calls p)
    (hspawns : forall p, fp.spawns p -> spawns p) :
    prog.Uses (.within commands calls spawns) :=
  h.mono hcommands (fun _ => trivial) hcalls hspawns fun _ _ => trivial

theorem Uses.running {prog : Program S C Q A P F α} {commands : C -> Prop}
    (h : prog.Uses fp)
    (hcommands : forall command, fp.commands command -> commands command) :
    prog.Uses (.running commands) :=
  h.within hcommands (fun _ _ => trivial) fun _ _ => trivial

def Footprint.meet (fp fp' : Footprint C P F) : Footprint C P F where
  commands := fun command => fp.commands command ∧ fp'.commands command
  releases := fp.releases ∧ fp'.releases
  calls := fun p => fp.calls p ∧ fp'.calls p
  spawns := fun p => fp.spawns p ∧ fp'.spawns p
  faults := fun f => fp.faults f ∧ fp'.faults f

theorem Uses.meet {fp' : Footprint C P F} {prog : Program S C Q A P F α}
    (h : prog.Uses fp) (h' : prog.Uses fp') : prog.Uses (fp.meet fp') := by
  induction prog with
  | ret value => trivial
  | read next ih => exact fun s => ih s (h s) (h' s)
  | exec command next ih => exact ⟨⟨h.1, h'.1⟩, ih h.2 h'.2⟩
  | ask q next ih => exact fun a => ih a (h a) (h' a)
  | release q ready next ih =>
      exact ⟨⟨h.1, h'.1⟩, fun a => ih a (h.2 a) (h'.2 a)⟩
  | call proc next ih => exact ⟨⟨h.1, h'.1⟩, ih h.2 h'.2⟩
  | spawn proc next ih => exact ⟨⟨h.1, h'.1⟩, ih h.2 h'.2⟩
  | abort fault => exact ⟨h, h'⟩

theorem Uses.onlyIf {condition : Prop} [Decidable condition]
    {prog : Program S C Q A P F Unit} (h : condition -> prog.Uses fp) :
    (onlyIf condition prog).Uses fp := by
  unfold Program.onlyIf
  split
  · rename_i hcondition
    exact h hcondition
  · trivial

theorem Uses.forEach {ι : Type} {f : ι -> Program S C Q A P F Unit}
    {xs : List ι} (h : forall x, x ∈ xs -> (f x).Uses fp) :
    (forEach f xs).Uses fp := by
  induction xs with
  | nil => trivial
  | cons x rest ih =>
      exact (h x (by simp)).bind fun _ =>
        ih fun y hy => h y (List.mem_cons_of_mem _ hy)

end Uses

end Program
end Monitor
