import DirectPlayLite.Lib.Monitor.Total

/-!
# Runs with their pasts

A run is told with all its steps, latest first, each with the state before it, so that
what holds of a state can be said of what has led to it.
-/

namespace Monitor

variable {S C Q A P F : Type}

inductive Traced (m : Machine S C Q A P F) (initial : S -> Prop) :
    Past S C Q A P F -> Config S C Q A P F -> Prop where
  | initial {s : S} : initial s -> Traced m initial [] (Config.initial s)
  | step {past : Past S C Q A P F} {c c' : Config S C Q A P F}
      {label : Label C Q A P F} :
      Traced m initial past c ->
      Step m c label c' ->
      Traced m initial ((c.state, label) :: past) c'

section Runs

variable {m : Machine S C Q A P F} {initial : S -> Prop} {past : Past S C Q A P F}
  {c c' : Config S C Q A P F}

theorem Traced.reaches (h : Traced m initial past c) :
    Reaches m initial Unrestricted c := by
  induction h with
  | initial hs => exact .initial hs
  | step _ hstep ih => exact .step ih hstep trivial

theorem Traced.before {behind : Past S C Q A P F} {s : S} {label : Label C Q A P F}
    (h : Traced m initial (behind ++ (s, label) :: past) c) :
    exists before after, Traced m initial past before ∧ before.state = s ∧
      Step m before label after := by
  generalize hall : behind ++ (s, label) :: past = all at h
  induction h generalizing behind with
  | initial => simp at hall
  | @step _ c c' _ htraced hstep ih =>
      cases behind with
      | nil =>
          cases hall
          exact ⟨c, c', htraced, rfl, hstep⟩
      | cons deed behind =>
          cases hall
          exact ih rfl

theorem Reaches.traced {cond : S -> Multiset P -> Label C Q A P F -> Prop}
    (h : Reaches m initial cond c) :
    exists past, Traced m initial past c ∧
      forall s label, (s, label) ∈ past -> exists M, cond s M label := by
  induction h with
  | initial hs => exact ⟨[], .initial hs, by simp⟩
  | step _ hstep hcond ih =>
      rcases ih with ⟨past, htraced, hpast⟩
      refine ⟨_, htraced.step hstep, ?_⟩
      intro s label hmem
      rcases List.mem_cons.mp hmem with heq | hmem
      · cases heq
        exact ⟨_, hcond⟩
      · exact hpast s label hmem

theorem Step.state_cases {label : Label C Q A P F} (h : Step m c label c') :
    (exists p command, label = .exec p command ∧
      c'.state = m.apply command c.state) ∨
    (forall p command, label ≠ .exec p command) ∧ c'.state = c.state := by
  cases h with
  | exec => exact Or.inl ⟨_, _, rfl, rfl⟩
  | _ => exact Or.inr ⟨(fun _ _ heq => by cases heq), rfl⟩

theorem Traced.always {I : S -> Past S C Q A P F -> Prop}
    (hinitial : forall s, initial s -> I s [])
    (hexec : forall past c c' p command, Traced m initial past c ->
      Step m c (.exec p command) c' -> I c.state past ->
        I (m.apply command c.state) ((c.state, .exec p command) :: past))
    (hother : forall s past label, (forall p command, label ≠ .exec p command) ->
      I s past -> I s ((s, label) :: past))
    (h : Traced m initial past c) : I c.state past := by
  induction h with
  | initial hs => exact hinitial _ hs
  | @step past c c' label htraced hstep ih =>
      rcases hstep.state_cases with ⟨p, command, rfl, happlied⟩ | ⟨hlabel, hsame⟩
      · rw [happlied]
        exact hexec past c c' p command htraced hstep ih
      · rw [hsame]
        exact hother c.state past label hlabel ih

end Runs

/-!
## Runs by their choices
-/

section Retelling

variable {m : Machine S C Q A P F} {initial : S -> Prop} {past : Past S C Q A P F}
  {c : Config S C Q A P F} {choices : List (Choice A P)} {fuel : Nat}

def retell (m : Machine S C Q A P F) : Nat -> List (Choice A P) ->
    Past S C Q A P F -> Config S C Q A P F ->
    Option (Past S C Q A P F × Config S C Q A P F)
  | fuel + 1, choices, past, ⟨s, running, parked, none⟩ =>
      match running.bind (fun t => advance m s t parked), choices with
      | some (label, c'), choices => retell m fuel choices ((s, label) :: past) c'
      | none, [] => some (past, ⟨s, running, parked, none⟩)
      | none, choice :: rest =>
          (choose m s running parked choice).bind fun (label, c') =>
            retell m fuel rest ((s, label) :: past) c'
  | _, _, _, _ => none

theorem retell_traced {told : Past S C Q A P F × Config S C Q A P F}
    (hc : Traced m initial past c) (h : retell m fuel choices past c = some told) :
    Traced m initial told.1 told.2 := by
  induction fuel generalizing choices past c with
  | zero => cases h
  | succ fuel ih =>
      rcases c with ⟨s, running, parked, fault | fault⟩
      · unfold retell at h
        split at h
        · rename_i label c' _ hadvance
          rcases Option.bind_eq_some_iff.mp hadvance with ⟨t, rfl, hforced⟩
          exact ih (hc.step (advance_step hforced)) h
        · cases h
          exact hc
        · rename_i choice rest _
          rcases Option.bind_eq_some_iff.mp h with ⟨⟨label, c'⟩, hchoose, hrest⟩
          exact ih (hc.step (choose_step hchoose)) hrest
      · cases h

theorem retell_run {s : S} {test : Past S C Q A P F × Config S C Q A P F -> Bool}
    (hs : initial s)
    (h : (retell m fuel choices [] (Config.initial s)).any test = true) :
    exists past c, Traced m initial past c ∧ test (past, c) = true := by
  rcases (Option.any_eq_true test _).mp h with ⟨⟨past, c⟩, hretell, htest⟩
  exact ⟨past, c, retell_traced (.initial hs) hretell, htest⟩

end Retelling

end Monitor
