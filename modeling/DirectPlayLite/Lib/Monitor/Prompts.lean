import DirectPlayLite.Lib.Monitor.Observers

/-!
# What is done at once

A procedure that is called can have commands to carry out before the lock is given up.  What
has been carried out in a run is then what its calls have asked for, in their order.
-/

namespace Monitor

variable {S C Q A P F : Type}

/-- What called procedures have to carry out at once. -/
structure Prompt (S C P : Type) where
  /-- Of the commands of a procedure, those that are looked at. -/
  watched : P -> C -> Bool
  /-- Those that it has to carry out when it is called in a state. -/
  due : S -> P -> List C

namespace Prompt

variable [DecidableEq C] (K : Prompt S C P)

def observer : Observer S C P (List C) where
  start := []
  observe p command _ left :=
    if K.watched p command then
      if left.head? = some command then some left.tail else none
    else some left
  hand _ callee s left := if left = [] then some (K.due s callee) else none
  meets _ _ _ := True
  begins callee s left := left = K.due s callee
  resting _ left := left = []

def lastCall : Past S C Q A P F -> Option (S × P × P)
  | [] => none
  | (s, .call p callee) :: _ => some (s, p, callee)
  | _ :: past => lastCall past

/-- The watched commands that have been carried out behind calls of a kind. -/
def carriedOut (kind : S × P × P -> Bool) : Past S C Q A P F -> List C
  | [] => []
  | (_, .exec p command) :: past =>
      carriedOut kind past ++
        if K.watched p command && (lastCall past).any kind then [command] else []
  | _ :: past => carriedOut kind past

def callsOf (kind : S × P × P -> Bool) : Past S C Q A P F -> List (S × P × P)
  | [] => []
  | (s, .call p callee) :: past =>
      callsOf kind past ++ if kind (s, p, callee) then [(s, p, callee)] else []
  | _ :: past => callsOf kind past

variable {K} {m : Machine S C Q A P F} {kind : S × P × P -> Bool} {p : P} {s : S}
  {left : List C}

theorem minds {fp : Program.Footprint C P F}
    (hquiet : forall command, fp.commands command -> K.watched p command = false)
    (hspawn : forall child s, fp.spawns child -> K.due s child = []) :
    Observer.Minds K.observer m p fp where
  commands := by
    intro command s left hfits hrest
    refine ⟨?_, hrest⟩
    show (if K.watched p command then _ else some left) = some left
    rw [hquiet command hfits]
    rfl
  calls := by
    rintro callee s left _ rfl
    exact ⟨K.due s callee, rfl, rfl⟩
  spawns := by
    intro child s left hchild hrest
    exact hrest.trans (hspawn child s hchild).symm

theorem follows_due {α : Type} {command : C} {next : Program S C Q A P F α}
    {post : α -> S -> List C -> Prop} (hwatched : K.watched p command = true)
    (h : K.observer.follows m p next post (m.apply command s) left) :
    K.observer.follows m p (.exec command next) post s (command :: left) := by
  refine ⟨left, ?_, h⟩
  show (if K.watched p command then _ else _) = some left
  rw [hwatched]
  simp

section Runs

variable {past : Past S C Q A P F} {c : Config S C Q A P F}

/-- What has been carried out behind calls of a kind, and what is left, is what was due. -/
def Keeps (kind : S × P × P -> Bool) (past : Past S C Q A P F) (left : List C) : Prop :=
  K.carriedOut kind past ++ (if (lastCall past).any kind then left else []) =
    (callsOf kind past).flatMap fun call => K.due call.1 call.2.2

theorem Keeps.exec {command : C} {left' : List C} (h : K.Keeps kind past left)
    (hlook : K.observer.observe p command s left = some left') :
    K.Keeps kind ((s, .exec p command) :: past) left' := by
  have hobserve : (if K.watched p command then
      if left.head? = some command then some left.tail else none
    else some left) = some left' := hlook
  show (K.carriedOut kind past ++
      if K.watched p command && (lastCall past).any kind then [command] else []) ++
    (if (lastCall past).any kind then left' else []) =
      (callsOf kind past).flatMap fun call => K.due call.1 call.2.2
  rw [← h]
  cases hwatched : K.watched p command with
  | false =>
      rw [hwatched] at hobserve
      cases hobserve
      simp
  | true =>
      rw [hwatched, if_pos rfl] at hobserve
      split at hobserve
      · rename_i hhead
        cases hobserve
        rcases List.head?_eq_some_iff.mp hhead with ⟨rest, rfl⟩
        cases (lastCall past).any kind <;> simp
      · cases hobserve

theorem Keeps.call {callee : P} {left' : List C} (h : K.Keeps kind past left)
    (hlook : K.observer.hand p callee s left = some left') :
    K.Keeps kind ((s, .call p callee) :: past) left' := by
  have hhand : (if left = [] then some (K.due s callee) else none) = some left' := hlook
  split at hhand
  · rename_i hnone
    cases hhand
    cases hnone
    have hbefore : K.carriedOut kind past =
        (callsOf kind past).flatMap fun call => K.due call.1 call.2.2 := by
      simpa [Keeps] using h
    show K.carriedOut kind past ++ (if kind (s, p, callee) then K.due s callee else []) =
      (callsOf kind past ++ if kind (s, p, callee) then [(s, p, callee)] else []).flatMap
        fun call => K.due call.1 call.2.2
    rw [hbefore]
    cases kind (s, p, callee) <;> simp
  · cases hhand

theorem Keeps.step {label : Label C Q A P F} {left' : List C} (h : K.Keeps kind past left)
    (hlook : K.observer.look s label left = some left') :
    K.Keeps kind ((s, label) :: past) left' := by
  cases label with
  | exec p command => exact h.exec hlook
  | call p callee => exact h.call hlook
  | _ =>
      cases hlook
      exact h

theorem carriedOut_always {initial : S -> Prop} (kind : S × P × P -> Bool)
    (hbody : K.observer.Followed m) (h : Traced m initial past c) :
    exists left, K.Keeps kind past left ∧ (c.Free -> left = []) := by
  have hkeeps : forall past : Past S C Q A P F, forall left,
      K.observer.seen past = some left -> K.Keeps kind past left := by
    intro past
    induction past with
    | nil =>
        intro left hstart
        cases hstart
        rfl
    | cons deed past ih =>
        intro left hnext
        rcases Option.bind_eq_some_iff.mp hnext with ⟨before, hbefore, hlook⟩
        exact (ih before hbefore).step hlook
  rcases Observer.traced_seen hbody (fun _ _ => rfl) h (fun _ _ _ _ => trivial) with
    ⟨left, hleft, hsees⟩
  exact ⟨left, hkeeps past left hleft, hsees.free⟩

end Runs

end Prompt

end Monitor
