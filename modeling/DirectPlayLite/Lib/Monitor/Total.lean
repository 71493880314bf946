import DirectPlayLite.Lib.Monitor.Machine
import Mathlib.Logic.Relation

/-!
# Total correctness around one lock

One thread is followed from a procedure to its end.  While it does not hold the
lock, and inside of procedures that are left aside, the state changes as its
surroundings allow; what it does itself is written down.  A thread ends in a
postcondition if it gets there whatever its surroundings do, in finitely many
moves and without a fault.
-/

namespace Monitor

variable {S C Q A P F α β : Type}

/-!
## Moves of a thread
-/

/-- What happens to the state apart from what the thread itself does. -/
structure Surroundings (S P : Type) where
  /-- What others may do while the thread does not hold the lock. -/
  others : S -> S -> Prop
  /-- Procedures that count as something the others do. -/
  foreign : P -> Prop
  refl : forall s, others s s

/-- What a thread has done, latest first, each with the state before it. -/
abbrev Past (S C Q A P F : Type) := List (S × Label C Q A P F)

/-- A thread with the state it runs on and what it has done. -/
structure View (S C Q A P F : Type) where
  state : S
  past : Past S C Q A P F
  thread : Thread S C Q A P F

def View.start (m : Machine S C Q A P F) (p : P) (s : S)
    (past : Past S C Q A P F) : View S C Q A P F :=
  ⟨s, past, ⟨p, m.body p, []⟩⟩

inductive Move (m : Machine S C Q A P F) (E : Surroundings S P) :
    View S C Q A P F -> View S C Q A P F -> Prop where
  | read {s past proc next callers} :
      Move m E ⟨s, past, ⟨proc, .read next, callers⟩⟩
        ⟨s, past, ⟨proc, next s, callers⟩⟩
  | exec {s past proc command next callers} :
      Move m E ⟨s, past, ⟨proc, .exec command next, callers⟩⟩
        ⟨m.apply command s, (s, .exec proc command) :: past,
          ⟨proc, next, callers⟩⟩
  | answer {s past proc query next callers answer} :
      m.answers s query answer = true ->
      Move m E ⟨s, past, ⟨proc, .ask query next, callers⟩⟩
        ⟨s, (s, .answer proc query answer) :: past,
          ⟨proc, next answer, callers⟩⟩
  | resume {s past proc query ready next callers s' answer} :
      E.others s s' ->
      ready s' = true ->
      m.answers s' query answer = true ->
      Move m E ⟨s, past, ⟨proc, .release query ready next, callers⟩⟩
        ⟨s', (s', .resume proc query answer) :: past,
          ⟨proc, next answer, callers⟩⟩
  | call {s past proc callee next callers} :
      ¬ E.foreign callee ->
      Move m E ⟨s, past, ⟨proc, .call callee next, callers⟩⟩
        ⟨s, (s, .call proc callee) :: past,
          ⟨callee, m.body callee, (proc, next) :: callers⟩⟩
  | foreign {s past proc callee next callers s'} :
      E.foreign callee ->
      E.others s s' ->
      Move m E ⟨s, past, ⟨proc, .call callee next, callers⟩⟩
        ⟨s', (s, .call proc callee) :: past, ⟨proc, next, callers⟩⟩
  | spawn {s past proc child next callers} :
      Move m E ⟨s, past, ⟨proc, .spawn child next, callers⟩⟩
        ⟨s, (s, .spawn proc child) :: past, ⟨proc, next, callers⟩⟩
  | return {s past proc caller next callers} :
      Move m E ⟨s, past, ⟨proc, .ret (), (caller, next) :: callers⟩⟩
        ⟨s, past, ⟨caller, next, callers⟩⟩

inductive Ends (m : Machine S C Q A P F) (E : Surroundings S P)
    (post : S -> Past S C Q A P F -> Prop) : View S C Q A P F -> Prop where
  | finished {s past proc} :
      post s past -> Ends m E post ⟨s, past, ⟨proc, .ret (), []⟩⟩
  | moves {v : View S C Q A P F} :
      (exists w, Move m E v w) ->
      (forall w, Move m E v w -> Ends m E post w) ->
      Ends m E post v

section Moves

variable {m : Machine S C Q A P F} {E : Surroundings S P}
  {post post' : S -> Past S C Q A P F -> Prop} {v : View S C Q A P F}

theorem Ends.mono (h : Ends m E post v)
    (hpost : forall s past, post s past -> post' s past) : Ends m E post' v := by
  induction h with
  | finished hdone => exact .finished (hpost _ _ hdone)
  | moves hsome _ ih => exact .moves hsome ih

theorem not_ends_false : ¬ Ends m E (fun _ _ => False) v := by
  intro h
  induction h with
  | finished hdone => exact hdone
  | moves hsome _ ih =>
      rcases hsome with ⟨w, hw⟩
      exact ih w hw

theorem not_ends_of_kept {I : View S C Q A P F -> Prop}
    (hstep : forall v w, I v -> Move m E v w -> I w)
    (hfinal : forall s past proc, ¬ I ⟨s, past, ⟨proc, .ret (), []⟩⟩)
    (hv : I v) : ¬ Ends m E post v := by
  intro h
  induction h with
  | finished => exact hfinal _ _ _ hv
  | moves hsome _ ih =>
      rcases hsome with ⟨w, hw⟩
      exact ih w hw (hstep _ _ hv hw)

theorem Ends.under {mid : S -> Past S C Q A P F -> Prop}
    {s : S} {past : Past S C Q A P F} {t : Thread S C Q A P F}
    {caller : P} {next : Program S C Q A P F Unit}
    {callers : List (P × Program S C Q A P F Unit)}
    (h : Ends m E mid ⟨s, past, t⟩)
    (hnext : forall s' past', mid s' past' ->
      Ends m E post ⟨s', past', ⟨caller, next, callers⟩⟩) :
    Ends m E post
      ⟨s, past, ⟨t.proc, t.code, t.callers ++ (caller, next) :: callers⟩⟩ := by
  generalize hv : (⟨s, past, t⟩ : View S C Q A P F) = v at h
  induction h generalizing s past t with
  | finished hdone =>
      cases hv
      refine .moves ⟨_, .return⟩ fun w hw => ?_
      cases hw
      exact hnext _ _ hdone
  | moves hsome _ ih =>
      subst hv
      rcases hsome with ⟨w₀, hw₀⟩
      cases hw₀ with
      | read =>
          refine .moves ⟨_, .read⟩ fun w hw => ?_
          cases hw
          exact ih _ .read rfl
      | exec =>
          refine .moves ⟨_, .exec⟩ fun w hw => ?_
          cases hw
          exact ih _ .exec rfl
      | answer hanswer =>
          refine .moves ⟨_, .answer hanswer⟩ fun w hw => ?_
          cases hw with
          | answer hanswer' => exact ih _ (.answer hanswer') rfl
      | resume hothers hready hanswer =>
          refine .moves ⟨_, .resume hothers hready hanswer⟩ fun w hw => ?_
          cases hw with
          | resume hothers' hready' hanswer' =>
              exact ih _ (.resume hothers' hready' hanswer') rfl
      | call hown =>
          refine .moves ⟨_, .call hown⟩ fun w hw => ?_
          cases hw with
          | call hown' => exact ih _ (.call hown') rfl
          | foreign hforeign => exact absurd hforeign hown
      | foreign hforeign hothers =>
          refine .moves ⟨_, .foreign hforeign hothers⟩ fun w hw => ?_
          cases hw with
          | call hown => exact absurd hforeign hown
          | foreign hforeign' hothers' =>
              exact ih _ (.foreign hforeign' hothers') rfl
      | spawn =>
          refine .moves ⟨_, .spawn⟩ fun w hw => ?_
          cases hw
          exact ih _ .spawn rfl
      | «return» =>
          refine .moves ⟨_, .return⟩ fun w hw => ?_
          cases hw
          exact ih _ .return rfl

end Moves

/-!
## What leads to a postcondition
-/

def leads (m : Machine S C Q A P F) (E : Surroundings S P) (p : P) :
    Program S C Q A P F α -> (α -> S -> Past S C Q A P F -> Prop) ->
      S -> Past S C Q A P F -> Prop
  | .ret value, post, s, past => post value s past
  | .read next, post, s, past => leads m E p (next s) post s past
  | .exec command next, post, s, past =>
      leads m E p next post (m.apply command s) ((s, .exec p command) :: past)
  | .ask query next, post, s, past =>
      (exists answer, m.answers s query answer = true) ∧
        forall answer, m.answers s query answer = true ->
          leads m E p (next answer) post s ((s, .answer p query answer) :: past)
  | .release query ready next, post, s, past =>
      (exists s' answer, E.others s s' ∧ ready s' = true ∧
          m.answers s' query answer = true) ∧
        forall s' answer, E.others s s' -> ready s' = true ->
          m.answers s' query answer = true ->
          leads m E p (next answer) post s' ((s', .resume p query answer) :: past)
  | .call callee next, post, s, past =>
      (E.foreign callee -> forall s', E.others s s' ->
          leads m E p next post s' ((s, .call p callee) :: past)) ∧
        (¬ E.foreign callee ->
          Ends m E (fun s' past' => leads m E p next post s' past')
            (.start m callee s ((s, .call p callee) :: past)))
  | .spawn child next, post, s, past =>
      leads m E p next post s ((s, .spawn p child) :: past)
  | .abort _, _, _, _ => False

def returnsTo (m : Machine S C Q A P F) (E : Surroundings S P)
    (post : S -> Past S C Q A P F -> Prop) :
    List (P × Program S C Q A P F Unit) -> S -> Past S C Q A P F -> Prop
  | [] => post
  | (caller, next) :: callers =>
      leads m E caller next fun _ => returnsTo m E post callers

section Leads

variable {m : Machine S C Q A P F} {E : Surroundings S P} {p : P}
  {s : S} {past : Past S C Q A P F}

theorem Ends.of_leads {code : Program S C Q A P F Unit}
    {mid : Unit -> S -> Past S C Q A P F -> Prop}
    {post : S -> Past S C Q A P F -> Prop}
    {callers : List (P × Program S C Q A P F Unit)}
    (h : leads m E p code mid s past)
    (hdone : forall s' past', mid () s' past' ->
      Ends m E post ⟨s', past', ⟨p, .ret (), callers⟩⟩) :
    Ends m E post ⟨s, past, ⟨p, code, callers⟩⟩ := by
  induction code generalizing s past with
  | ret value => exact hdone s past h
  | read next ih =>
      refine .moves ⟨_, .read⟩ fun w hw => ?_
      cases hw
      exact ih s h
  | exec command next ih =>
      refine .moves ⟨_, .exec⟩ fun w hw => ?_
      cases hw
      exact ih h
  | ask query next ih =>
      rcases h with ⟨⟨answer, hanswer⟩, hnext⟩
      refine .moves ⟨_, .answer hanswer⟩ fun w hw => ?_
      cases hw with
      | answer hanswer' => exact ih _ (hnext _ hanswer')
  | release query ready next ih =>
      rcases h with ⟨⟨s', answer, hothers, hready, hanswer⟩, hnext⟩
      refine .moves ⟨_, .resume hothers hready hanswer⟩ fun w hw => ?_
      cases hw with
      | resume hothers' hready' hanswer' =>
          exact ih _ (hnext _ _ hothers' hready' hanswer')
  | call callee next ih =>
      by_cases hforeign : E.foreign callee
      · refine .moves ⟨_, .foreign hforeign (E.refl s)⟩ fun w hw => ?_
        cases hw with
        | call hown => exact absurd hforeign hown
        | foreign _ hothers => exact ih (h.1 hforeign _ hothers)
      · refine .moves ⟨_, .call hforeign⟩ fun w hw => ?_
        cases hw with
        | call _ => exact Ends.under (h.2 hforeign) fun s' past' hmid => ih hmid
        | foreign hforeign' => exact absurd hforeign' hforeign
  | spawn child next ih =>
      refine .moves ⟨_, .spawn⟩ fun w hw => ?_
      cases hw
      exact ih h
  | abort fault => exact h.elim

theorem returnsTo_ends {post : S -> Past S C Q A P F -> Prop}
    {callers : List (P × Program S C Q A P F Unit)}
    (h : returnsTo m E post callers s past) :
    Ends m E post ⟨s, past, ⟨p, .ret (), callers⟩⟩ := by
  induction callers generalizing p s past with
  | nil => exact .finished h
  | cons caller callers ih =>
      refine .moves ⟨_, .return⟩ fun w hw => ?_
      cases hw
      exact Ends.of_leads h fun s' past' hmid => ih hmid

theorem Ends.leads {post : S -> Past S C Q A P F -> Prop} {v : View S C Q A P F}
    (h : Ends m E post v) :
    leads m E v.thread.proc v.thread.code
      (fun _ => returnsTo m E post v.thread.callers) v.state v.past := by
  induction h with
  | finished hdone => exact hdone
  | @moves v hsome _ ih =>
      rcases v with ⟨s, past, proc, code, callers⟩
      cases code with
      | ret value =>
          cases callers with
          | nil =>
              rcases hsome with ⟨w, hw⟩
              cases hw
          | cons caller callers =>
              have hnext := ih _ .return
              exact hnext
      | read next =>
          have hnext := ih _ .read
          exact hnext
      | exec command next =>
          have hnext := ih _ .exec
          exact hnext
      | ask query next =>
          constructor
          · rcases hsome with ⟨w, hw⟩
            cases hw with
            | answer hanswer => exact ⟨_, hanswer⟩
          · intro answer hanswer
            have hnext := ih _ (.answer hanswer)
            exact hnext
      | release query ready next =>
          constructor
          · rcases hsome with ⟨w, hw⟩
            cases hw with
            | resume hothers hready hanswer =>
                exact ⟨_, _, hothers, hready, hanswer⟩
          · intro s' answer hothers hready hanswer
            have hnext := ih _ (.resume hothers hready hanswer)
            exact hnext
      | call callee next =>
          constructor
          · intro hforeign s' hothers
            have hnext := ih _ (.foreign hforeign hothers)
            exact hnext
          · intro hown
            have hcallee := ih _ (.call hown)
            exact Ends.of_leads hcallee fun s' past' hmid => .finished hmid
      | spawn child next =>
          have hnext := ih _ .spawn
          exact hnext
      | abort fault =>
          rcases hsome with ⟨w, hw⟩
          cases hw

theorem ends_iff_leads {post : S -> Past S C Q A P F -> Prop}
    {t : Thread S C Q A P F} :
    Ends m E post ⟨s, past, t⟩ ↔
      Monitor.leads m E t.proc t.code (fun _ => returnsTo m E post t.callers) s past := by
  constructor
  · intro h
    exact h.leads
  · intro h
    exact Ends.of_leads h fun s' past' hmid => returnsTo_ends hmid

theorem ends_start {post : S -> Past S C Q A P F -> Prop} :
    Ends m E post (.start m p s past) ↔
      leads m E p (m.body p) (fun _ => post) s past :=
  ends_iff_leads

theorem leads_call {callee : P} {next : Program S C Q A P F α}
    {post : α -> S -> Past S C Q A P F -> Prop} (hown : ¬ E.foreign callee) :
    leads m E p (.call callee next) post s past ↔
      leads m E callee (m.body callee)
        (fun _ s' past' => leads m E p next post s' past') s
        ((s, .call p callee) :: past) := by
  rw [← ends_start]
  constructor
  · intro h
    exact h.2 hown
  · intro h
    exact ⟨fun hforeign => absurd hforeign hown, fun _ => h⟩

theorem leads_foreign {callee : P} {next : Program S C Q A P F α}
    {post : α -> S -> Past S C Q A P F -> Prop} (hforeign : E.foreign callee) :
    leads m E p (.call callee next) post s past ↔
      forall s', E.others s s' ->
        leads m E p next post s' ((s, .call p callee) :: past) := by
  constructor
  · intro h
    exact h.1 hforeign
  · intro h
    exact ⟨fun _ => h, fun hown => absurd hforeign hown⟩

end Leads

/-!
## Rules
-/

section Rules

variable {m : Machine S C Q A P F} {E : Surroundings S P} {p : P}
  {s : S} {past : Past S C Q A P F}

theorem leads_mono {prog : Program S C Q A P F α}
    {post post' : α -> S -> Past S C Q A P F -> Prop}
    (h : leads m E p prog post s past)
    (hpost : forall value s past, post value s past -> post' value s past) :
    leads m E p prog post' s past := by
  induction prog generalizing s past with
  | ret value => exact hpost value s past h
  | read next ih => exact ih s h
  | exec command next ih => exact ih h
  | ask query next ih => exact ⟨h.1, fun answer hanswer => ih answer (h.2 answer hanswer)⟩
  | release query ready next ih =>
      refine ⟨h.1, ?_⟩
      intro s' answer hothers hready hanswer
      exact ih answer (h.2 s' answer hothers hready hanswer)
  | call callee next ih =>
      constructor
      · intro hforeign s' hothers
        exact ih (h.1 hforeign s' hothers)
      · intro hown
        exact (h.2 hown).mono fun s' past' hmid => ih hmid
  | spawn child next ih => exact ih h
  | abort fault => exact h

theorem leads_bind {prog : Program S C Q A P F α}
    {f : α -> Program S C Q A P F β}
    {post : β -> S -> Past S C Q A P F -> Prop} :
    leads m E p (prog.bind f) post s past ↔
      leads m E p prog (fun value => leads m E p (f value) post) s past := by
  induction prog generalizing s past with
  | ret value => rfl
  | read next ih => exact ih s
  | exec command next ih => exact ih
  | ask query next ih => simp only [Program.bind, leads, ih]
  | release query ready next ih => simp only [Program.bind, leads, ih]
  | call callee next ih => simp only [Program.bind, leads, ih]
  | spawn child next ih => exact ih
  | abort fault => rfl

theorem not_leads_false {prog : Program S C Q A P F α} :
    ¬ leads m E p prog (fun _ _ _ => False) s past := by
  intro h
  induction prog generalizing s past with
  | ret value => exact h
  | read next ih => exact ih s h
  | exec command next ih => exact ih h
  | ask query next ih =>
      rcases h with ⟨⟨answer, hanswer⟩, hnext⟩
      exact ih answer (hnext answer hanswer)
  | release query ready next ih =>
      rcases h with ⟨⟨s', answer, hothers, hready, hanswer⟩, hnext⟩
      exact ih answer (hnext s' answer hothers hready hanswer)
  | call callee next ih =>
      by_cases hforeign : E.foreign callee
      · exact ih (h.1 hforeign s (E.refl s))
      · exact not_ends_false ((h.2 hforeign).mono fun s' past' hmid => ih hmid)
  | spawn child next ih => exact ih h
  | abort fault => exact h

theorem not_leads_bind {prog : Program S C Q A P F α}
    {f : α -> Program S C Q A P F β} {post : β -> S -> Past S C Q A P F -> Prop}
    (h : forall value s' past', ¬ leads m E p (f value) post s' past') :
    ¬ leads m E p (prog.bind f) post s past := by
  intro hleads
  rw [leads_bind] at hleads
  exact not_leads_false (leads_mono hleads h)

theorem leads_onlyIf {condition : Prop} [Decidable condition]
    {prog : Program S C Q A P F Unit}
    {post : Unit -> S -> Past S C Q A P F -> Prop}
    (hholds : condition -> leads m E p prog post s past)
    (hfails : ¬ condition -> post () s past) :
    leads m E p (Program.onlyIf condition prog) post s past := by
  unfold Program.onlyIf
  split
  · rename_i hcondition
    exact hholds hcondition
  · rename_i hcondition
    exact hfails hcondition

theorem leads_forEach {ι : Type} {f : ι -> Program S C Q A P F Unit}
    {xs : List ι} {I : List ι -> S -> Past S C Q A P F -> Prop}
    (hround : forall x rest s past, x ∈ xs -> I (x :: rest) s past ->
      leads m E p (f x) (fun _ => I rest) s past)
    (h : I xs s past) :
    leads m E p (Program.forEach f xs) (fun _ => I []) s past := by
  induction xs generalizing s past with
  | nil => exact h
  | cons x rest ih =>
      rw [Program.forEach, leads_bind]
      apply leads_mono (hround x rest s past List.mem_cons_self h)
      intro _ s' past' h'
      exact ih (fun y rest' s past hy => hround y rest' s past
        (List.mem_cons_of_mem _ hy)) h'

end Rules

/-!
## What a thread keeps
-/

def Label.IsQuiet (label : Label C Q A P F) : Prop :=
  forall p command, label ≠ .exec p command

def Locked (commands : C -> Prop) : Program.Footprint C P F where
  commands := commands
  releases := False
  calls := fun _ => False
  spawns := fun _ => False
  faults := fun _ => False

theorem leads_locked {m : Machine S C Q A P F} {E : Surroundings S P} {p : P}
    {commands : C -> Prop} {J : S -> Past S C Q A P F -> Prop}
    {prog : Program S C Q A P F α} (huses : prog.Uses (Locked commands))
    (hanswers : forall s query, exists answer, m.answers s query answer = true)
    (hexec : forall command s past, commands command -> J s past ->
      J (m.apply command s) ((s, .exec p command) :: past))
    (hnoted : forall s past label, Label.IsQuiet label -> J s past ->
      J s ((s, label) :: past))
    {s : S} {past : Past S C Q A P F} (h : J s past) :
    leads m E p prog (fun _ => J) s past := by
  induction prog generalizing s past with
  | ret value => exact h
  | read next ih => exact ih s (huses s) h
  | exec command next ih => exact ih huses.2 (hexec command s past huses.1 h)
  | ask query next ih =>
      refine ⟨hanswers s query, ?_⟩
      intro answer _
      exact ih answer (huses answer)
        (hnoted _ _ _ (by simp [Label.IsQuiet]) h)
  | release query ready next ih => exact huses.1.elim
  | call callee next ih => exact huses.1.elim
  | spawn child next ih => exact huses.1.elim
  | abort fault => exact huses.elim

/--
What the commands of some procedures, and whatever happens around them, leave as it
is.
-/
structure Stable (m : Machine S C Q A P F) (E : Surroundings S P)
    (commands : C -> Prop) (J : S -> Past S C Q A P F -> Prop) : Prop where
  exec : forall p command s past, commands command -> J s past ->
    J (m.apply command s) ((s, .exec p command) :: past)
  others : forall s s' past, E.others s s' -> J s past -> J s' past
  noted : forall s s' past label, Label.IsQuiet label -> J s past ->
    J s ((s', label) :: past)

/-!
## Threads of a run
-/

inductive Path (m : Machine S C Q A P F) :
    Config S C Q A P F -> Config S C Q A P F -> Prop where
  | refl (c : Config S C Q A P F) : Path m c c
  | step {c c' c'' : Config S C Q A P F} {label : Label C Q A P F} :
      Path m c c' -> Step m c' label c'' -> Path m c c''

/-- What a thread has done behind a step of its own. -/
def Past.after (past : Past S C Q A P F) (s : S) :
    Label C Q A P F -> Past S C Q A P F
  | .silent _ => past
  | label => (s, label) :: past

/--
A thread of a run is followed from its start: by its own steps, over the steps the
others take while it does not hold the lock, and over the calls that are left aside.
-/
inductive Follows (m : Machine S C Q A P F) (E : Surroundings S P) (p : P) (s₀ : S) :
    Config S C Q A P F -> View S C Q A P F -> Prop where
  | start {parked} :
      Follows m E p s₀ ⟨s₀, some ⟨p, m.body p, []⟩, parked, none⟩
        (.start m p s₀ [])
  | own {s past t parked label s' t' parked'} :
      Follows m E p s₀ ⟨s, some t, parked, none⟩ ⟨s, past, t⟩ ->
      Step m ⟨s, some t, parked, none⟩ label ⟨s', some t', parked', none⟩ ->
      (forall callee, label = .call t.proc callee -> ¬ E.foreign callee) ->
      Follows m E p s₀ ⟨s', some t', parked', none⟩ ⟨s', past.after s label, t'⟩
  | away {s past proc query ready next callers parked s' before after answer} :
      Follows m E p s₀
        ⟨s, some ⟨proc, .release query ready next, callers⟩, parked, none⟩
        ⟨s, past, ⟨proc, .release query ready next, callers⟩⟩ ->
      Path m ⟨s, none, parked ++ [.released proc callers query ready next], none⟩
        ⟨s', none, before ++ .released proc callers query ready next :: after,
          none⟩ ->
      E.others s s' ->
      ready s' = true ->
      m.answers s' query answer = true ->
      Follows m E p s₀
        ⟨s', some ⟨proc, next answer, callers⟩, before ++ after, none⟩
        ⟨s', (s', .resume proc query answer) :: past, ⟨proc, next answer, callers⟩⟩
  | aside {s past proc callee next callers parked s' parked'} :
      Follows m E p s₀ ⟨s, some ⟨proc, .call callee next, callers⟩, parked, none⟩
        ⟨s, past, ⟨proc, .call callee next, callers⟩⟩ ->
      E.foreign callee ->
      Path m ⟨s, some ⟨callee, m.body callee, (proc, next) :: callers⟩, parked, none⟩
        ⟨s', some ⟨callee, .ret (), (proc, next) :: callers⟩, parked', none⟩ ->
      E.others s s' ->
      Follows m E p s₀ ⟨s', some ⟨proc, next, callers⟩, parked', none⟩
        ⟨s', (s, .call proc callee) :: past, ⟨proc, next, callers⟩⟩

section Runs

variable {m : Machine S C Q A P F} {E : Surroundings S P} {p : P} {s₀ : S}
  {post : S -> Past S C Q A P F -> Prop}

theorem Ends.move {v w : View S C Q A P F} (h : Ends m E post v)
    (hmove : Move m E v w) : Ends m E post w := by
  cases h with
  | finished => cases hmove
  | moves _ hnext => exact hnext w hmove

abbrev Moves (m : Machine S C Q A P F) (E : Surroundings S P) :=
  Relation.ReflTransGen (Move m E)

theorem Ends.along {v w : View S C Q A P F} (h : Ends m E post v)
    (hmoves : Moves m E v w) : Ends m E post w := by
  induction hmoves with
  | refl => exact h
  | tail _ hmove ih => exact ih.move hmove

theorem Step.move {s s' : S} {past : Past S C Q A P F} {t t' : Thread S C Q A P F}
    {parked parked' : List (Parked S C Q A P F)} {label : Label C Q A P F}
    (hstep : Step m ⟨s, some t, parked, none⟩ label ⟨s', some t', parked', none⟩)
    (hown : forall callee, label = .call t.proc callee -> ¬ E.foreign callee) :
    Move m E ⟨s, past, t⟩ ⟨s', past.after s label, t'⟩ := by
  cases hstep with
  | read => exact .read
  | exec => exact .exec
  | answer hanswer => exact .answer hanswer
  | call => exact .call (hown _ rfl)
  | spawn => exact .spawn
  | «return» => exact .return

theorem Follows.moves {c : Config S C Q A P F} {v : View S C Q A P F}
    (h : Follows m E p s₀ c v) : Moves m E (.start m p s₀ []) v := by
  induction h with
  | start => exact .refl
  | own _ hstep hown ih => exact ih.tail (hstep.move hown)
  | away _ _ hothers hready hanswer ih =>
      exact ih.tail (.resume hothers hready hanswer)
  | aside _ hforeign _ hothers ih => exact ih.tail (.foreign hforeign hothers)

theorem Ends.followed (h : Ends m E post (.start m p s₀ []))
    {c : Config S C Q A P F} {v : View S C Q A P F} (hv : Follows m E p s₀ c v) :
    (forall fault, v.thread.code ≠ .abort fault) ∧
      (v.thread.code = .ret () -> v.thread.callers = [] -> post v.state v.past) := by
  have hends := (h.along hv.moves).leads
  rcases v with ⟨s, past, proc, code, callers⟩
  constructor
  · intro fault hcode
    simp only at hcode
    subst hcode
    exact hends
  · intro hcode hcallers
    simp only at hcode hcallers
    subst hcode hcallers
    exact hends

end Runs

/-!
## Threads that can be computed
-/

section Computing

variable (m : Machine S C Q A P F) (aside : P -> Bool) (answer : Q -> A)

/-- One move of a thread among others that do nothing, with the answers given. -/
def View.advance : View S C Q A P F -> Option (View S C Q A P F)
  | ⟨s, past, ⟨proc, code, callers⟩⟩ =>
      match code with
      | .read next => some ⟨s, past, ⟨proc, next s, callers⟩⟩
      | .exec command next =>
          some ⟨m.apply command s, (s, .exec proc command) :: past,
            ⟨proc, next, callers⟩⟩
      | .ask query next =>
          if m.answers s query (answer query) then
            some ⟨s, (s, .answer proc query (answer query)) :: past,
              ⟨proc, next (answer query), callers⟩⟩
          else none
      | .release query ready next =>
          if ready s ∧ m.answers s query (answer query) then
            some ⟨s, (s, .resume proc query (answer query)) :: past,
              ⟨proc, next (answer query), callers⟩⟩
          else none
      | .call callee next =>
          if aside callee then
            some ⟨s, (s, .call proc callee) :: past, ⟨proc, next, callers⟩⟩
          else
            some ⟨s, (s, .call proc callee) :: past,
              ⟨callee, m.body callee, (proc, next) :: callers⟩⟩
      | .spawn child next =>
          some ⟨s, (s, .spawn proc child) :: past, ⟨proc, next, callers⟩⟩
      | .ret _ =>
          match callers with
          | [] => none
          | (caller, next) :: callers => some ⟨s, past, ⟨caller, next, callers⟩⟩
      | .abort _ => none

def View.final : Nat -> View S C Q A P F -> Option (View S C Q A P F)
  | 0, v =>
      match v.thread.code, v.thread.callers with
      | .ret _, [] => some v
      | _, _ => none
  | fuel + 1, v =>
      match v.advance m aside answer with
      | some w => w.final fuel
      | none =>
          match v.thread.code, v.thread.callers with
          | .ret _, [] => some v
          | _, _ => none

variable {m aside answer} {E : Surroundings S P} {v w : View S C Q A P F}

theorem View.advance_move (haside : forall q, aside q = true ↔ E.foreign q)
    (h : v.advance m aside answer = some w) : Move m E v w := by
  rcases v with ⟨s, past, proc, code, callers⟩
  cases code with
  | ret value =>
      cases callers with
      | nil => cases h
      | cons caller callers =>
          cases h
          exact .return
  | read next =>
      cases h
      exact .read
  | exec command next =>
      cases h
      exact .exec
  | ask query next =>
      simp only [View.advance] at h
      split at h
      · rename_i hanswer
        cases h
        exact .answer hanswer
      · cases h
  | release query ready next =>
      simp only [View.advance] at h
      split at h
      · rename_i hboth
        cases h
        exact .resume (E.refl s) hboth.1 hboth.2
      · cases h
  | call callee next =>
      simp only [View.advance] at h
      split at h
      · rename_i hforeign
        cases h
        exact .foreign ((haside callee).mp hforeign) (E.refl s)
      · rename_i hown
        cases h
        exact .call fun hforeign => hown ((haside callee).mpr hforeign)
  | spawn child next =>
      cases h
      exact .spawn
  | abort fault => cases h

theorem View.final_moves (haside : forall q, aside q = true ↔ E.foreign q)
    {fuel : Nat} (hfinal : v.final m aside answer fuel = some w) :
    Moves m E v w ∧ w.thread.code = .ret () ∧ w.thread.callers = [] := by
  have hdone : forall (v : View S C Q A P F),
      (match v.thread.code, v.thread.callers with
        | .ret _, [] => some v
        | _, _ => none) = some w ->
      Moves m E v w ∧ w.thread.code = .ret () ∧ w.thread.callers = [] := by
    intro v hlast
    split at hlast
    · rename_i hcode hcallers
      cases hlast
      exact ⟨.refl, hcode, hcallers⟩
    · cases hlast
  induction fuel generalizing v with
  | zero => exact hdone v hfinal
  | succ fuel ih =>
      rw [View.final] at hfinal
      split at hfinal
      · rename_i next hnext
        have hrest := ih hfinal
        exact ⟨.head (View.advance_move haside hnext) hrest.1, hrest.2⟩
      · exact hdone v hfinal

theorem Ends.final {post : S -> Past S C Q A P F -> Prop}
    (haside : forall q, aside q = true ↔ E.foreign q) {fuel : Nat}
    (h : Ends m E post v) (hfinal : v.final m aside answer fuel = some w) :
    post w.state w.past := by
  rcases View.final_moves haside hfinal with ⟨hmoves, hcode, hcallers⟩
  have hleads := (h.along hmoves).leads
  rw [hcode, hcallers] at hleads
  exact hleads

end Computing

end Monitor
