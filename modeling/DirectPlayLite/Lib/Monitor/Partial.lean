import DirectPlayLite.Lib.Monitor.Total

/-!
# Partial correctness around one lock

What a thread has done when it comes to its end, if it does: it may run into a fault,
or wait for something that never happens.  A procedure that is called is known by
what it is specified to do, also inside of itself.
-/

namespace Monitor

variable {S C Q A P F α β : Type}

/--
A program of procedure `p` is run in a state and comes to its end in another, having
done what is written down.
-/
def Runs (m : Machine S C Q A P F) (E : Surroundings S P) (p : P)
    (code : Program S C Q A P F Unit) (s s' : S) (past : Past S C Q A P F) : Prop :=
  exists proc, Moves m E ⟨s, [], ⟨p, code, []⟩⟩ ⟨s', past, ⟨proc, .ret (), []⟩⟩

/-- A procedure called in a state returns in another. -/
abbrev Returns (m : Machine S C Q A P F) (E : Surroundings S P) (p : P) :=
  Runs m E p (m.body p)

abbrev Specs (S C Q A P F : Type) :=
  P -> S -> Past S C Q A P F -> S -> Past S C Q A P F -> Prop

def allows (m : Machine S C Q A P F) (E : Surroundings S P)
    (specs : Specs S C Q A P F) (p : P) :
    Program S C Q A P F α -> (α -> S -> Past S C Q A P F -> Prop) ->
      S -> Past S C Q A P F -> Prop
  | .ret value, post, s, past => post value s past
  | .read next, post, s, past => allows m E specs p (next s) post s past
  | .exec command next, post, s, past =>
      allows m E specs p next post (m.apply command s)
        ((s, .exec p command) :: past)
  | .ask query next, post, s, past =>
      forall answer, m.answers s query answer = true ->
        allows m E specs p (next answer) post s ((s, .answer p query answer) :: past)
  | .release query ready next, post, s, past =>
      forall s' answer, E.others s s' -> ready s' = true ->
        m.answers s' query answer = true ->
        allows m E specs p (next answer) post s'
          ((s', .resume p query answer) :: past)
  | .call callee next, post, s, past =>
      (E.foreign callee -> forall s', E.others s s' ->
          allows m E specs p next post s' ((s, .call p callee) :: past)) ∧
        (¬ E.foreign callee -> forall s' past',
          specs callee s ((s, .call p callee) :: past) s' past' ->
          allows m E specs p next post s' past')
  | .spawn child next, post, s, past =>
      allows m E specs p next post s ((s, .spawn p child) :: past)
  | .abort _, _, _, _ => True

def allowsTo (m : Machine S C Q A P F) (E : Surroundings S P)
    (specs : Specs S C Q A P F) (post : S -> Past S C Q A P F -> Prop) :
    List (P × Program S C Q A P F Unit) -> S -> Past S C Q A P F -> Prop
  | [] => post
  | (caller, next) :: callers =>
      allows m E specs caller next fun _ => allowsTo m E specs post callers

section Rules

variable {m : Machine S C Q A P F} {E : Surroundings S P} {specs : Specs S C Q A P F}
  {p : P} {s : S} {past : Past S C Q A P F}

theorem allows_mono {prog : Program S C Q A P F α}
    {post post' : α -> S -> Past S C Q A P F -> Prop}
    (h : allows m E specs p prog post s past)
    (hpost : forall value s past, post value s past -> post' value s past) :
    allows m E specs p prog post' s past := by
  induction prog generalizing s past with
  | ret value => exact hpost value s past h
  | read next ih => exact ih s h
  | exec command next ih => exact ih h
  | ask query next ih =>
      intro answer hanswer
      exact ih answer (h answer hanswer)
  | release query ready next ih =>
      intro s' answer hothers hready hanswer
      exact ih answer (h s' answer hothers hready hanswer)
  | call callee next ih =>
      constructor
      · intro hforeign s' hothers
        exact ih (h.1 hforeign s' hothers)
      · intro hown s' past' hcallee
        exact ih (h.2 hown s' past' hcallee)
  | spawn child next ih => exact ih h
  | abort fault => trivial

theorem allows_bind {prog : Program S C Q A P F α} {f : α -> Program S C Q A P F β}
    {post : β -> S -> Past S C Q A P F -> Prop} :
    allows m E specs p (prog.bind f) post s past ↔
      allows m E specs p prog
        (fun value => allows m E specs p (f value) post) s past := by
  induction prog generalizing s past with
  | ret value => rfl
  | read next ih => exact ih s
  | exec command next ih => exact ih
  | ask query next ih => simp only [Program.bind, allows, ih]
  | release query ready next ih => simp only [Program.bind, allows, ih]
  | call callee next ih => simp only [Program.bind, allows, ih]
  | spawn child next ih => exact ih
  | abort fault => rfl

theorem allows_onlyIf {condition : Prop} [Decidable condition]
    {prog : Program S C Q A P F Unit}
    {post : Unit -> S -> Past S C Q A P F -> Prop}
    (hholds : condition -> allows m E specs p prog post s past)
    (hfails : ¬ condition -> post () s past) :
    allows m E specs p (Program.onlyIf condition prog) post s past := by
  unfold Program.onlyIf
  split
  · rename_i hcondition
    exact hholds hcondition
  · rename_i hcondition
    exact hfails hcondition

theorem allows_of_uses {prog : Program S C Q A P F α} {fp : Program.Footprint C P F}
    {J : S -> Past S C Q A P F -> Prop} (huses : prog.Uses fp)
    (hstable : Stable m E fp.commands J)
    (hcalls : forall callee s past s' past', fp.calls callee -> J s past ->
      specs callee s past s' past' -> J s' past')
    (h : J s past) : allows m E specs p prog (fun _ => J) s past := by
  induction prog generalizing s past with
  | ret value => exact h
  | read next ih => exact ih s (huses s) h
  | exec command next ih => exact ih huses.2 (hstable.exec _ _ _ _ huses.1 h)
  | ask query next ih =>
      intro answer _
      exact ih answer (huses answer)
        (hstable.noted _ _ _ _ (by simp [Label.IsQuiet]) h)
  | release query ready next ih =>
      intro s' answer hothers _ _
      exact ih answer (huses.2 answer)
        (hstable.noted _ _ _ _ (by simp [Label.IsQuiet]) (hstable.others _ _ _ hothers h))
  | call callee next ih =>
      have hcalled : J s ((s, .call p callee) :: past) :=
        hstable.noted _ _ _ _ (by simp [Label.IsQuiet]) h
      constructor
      · intro _ s' hothers
        exact ih huses.2 (hstable.others _ _ _ hothers hcalled)
      · intro _ s' past' hcallee
        exact ih huses.2 (hcalls callee s _ s' past' huses.1 hcalled hcallee)
  | spawn child next ih =>
      exact ih huses.2 (hstable.noted _ _ _ _ (by simp [Label.IsQuiet]) h)
  | abort fault => trivial

theorem allows_of_leads {prog : Program S C Q A P F α} {fp : Program.Footprint C P F}
    {post : α -> S -> Past S C Q A P F -> Prop} (huses : prog.Uses fp)
    (hcalls : forall callee, ¬ fp.calls callee) (h : leads m E p prog post s past) :
    allows m E specs p prog post s past := by
  induction prog generalizing s past with
  | ret value => exact h
  | read next ih => exact ih s (huses s) h
  | exec command next ih => exact ih huses.2 h
  | ask query next ih =>
      intro answer hanswer
      exact ih answer (huses answer) (h.2 answer hanswer)
  | release query ready next ih =>
      intro s' answer hothers hready hanswer
      exact ih answer (huses.2 answer) (h.2 s' answer hothers hready hanswer)
  | call callee next ih => exact absurd huses.1 (hcalls callee)
  | spawn child next ih => exact ih huses.2 h
  | abort fault => trivial

theorem allows_trivial (prog : Program S C Q A P F α)
    {post : α -> S -> Past S C Q A P F -> Prop}
    (hpost : forall value s past, post value s past) :
    allows m E specs p prog post s past := by
  induction prog generalizing s past with
  | ret value => exact hpost value s past
  | read next ih => exact ih s
  | exec command next ih => exact ih
  | ask query next ih =>
      intro answer _
      exact ih answer
  | release query ready next ih =>
      intro s' answer _ _ _
      exact ih answer
  | call callee next ih => exact ⟨fun _ _ _ => ih, fun _ _ _ _ => ih⟩
  | spawn child next ih => exact ih
  | abort fault => trivial

end Rules

/-!
## Soundness
-/

section Soundness

variable {m : Machine S C Q A P F} {E : Surroundings S P} {specs : Specs S C Q A P F}
  {post : S -> Past S C Q A P F -> Prop}

def Specified (m : Machine S C Q A P F) (E : Surroundings S P)
    (specs : Specs S C Q A P F) : Prop :=
  forall p s past, ¬ E.foreign p ->
    allows m E specs p (m.body p) (fun _ => specs p s past) s past

def View.Allowed (m : Machine S C Q A P F) (E : Surroundings S P)
    (specs : Specs S C Q A P F) (post : S -> Past S C Q A P F -> Prop)
    (v : View S C Q A P F) : Prop :=
  allows m E specs v.thread.proc v.thread.code
    (fun _ => allowsTo m E specs post v.thread.callers) v.state v.past

theorem View.Allowed.move (hspecs : Specified m E specs) {v w : View S C Q A P F}
    (h : v.Allowed m E specs post) (hmove : Move m E v w) :
    w.Allowed m E specs post := by
  cases hmove with
  | read => exact h
  | exec => exact h
  | answer hanswer => exact h _ hanswer
  | resume hothers hready hanswer => exact h _ _ hothers hready hanswer
  | call hown => exact allows_mono (hspecs _ _ _ hown) fun _ _ _ hcallee => h.2 hown _ _ hcallee
  | foreign hforeign hothers => exact h.1 hforeign _ hothers
  | spawn => exact h
  | «return» => exact h

theorem Runs.allowed (hspecs : Specified m E specs) {p : P}
    {code : Program S C Q A P F Unit} {s s' : S} {past : Past S C Q A P F}
    (hruns : Runs m E p code s s' past)
    (h : allows m E specs p code (fun _ => post) s []) : post s' past := by
  rcases hruns with ⟨proc, hmoves⟩
  have hkept : forall w, Moves m E ⟨s, [], ⟨p, code, []⟩⟩ w ->
      w.Allowed m E specs post := by
    intro w hw
    induction hw with
    | refl => exact h
    | tail _ hmove ih => exact ih.move hspecs hmove
  exact hkept _ hmoves

theorem Runs.led {p : P} {code : Program S C Q A P F Unit} {s s' : S}
    {past : Past S C Q A P F} (hruns : Runs m E p code s s' past)
    (h : leads m E p code (fun _ => post) s []) : post s' past := by
  rcases hruns with ⟨proc, hmoves⟩
  have hends : Ends m E post ⟨s, [], ⟨p, code, []⟩⟩ :=
    Ends.of_leads h fun _ _ hdone => .finished hdone
  have hleads := (hends.along hmoves).leads
  exact hleads

end Soundness

end Monitor
