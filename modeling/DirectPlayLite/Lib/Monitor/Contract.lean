import DirectPlayLite.Lib.Monitor.Machine

/-!
# Rely and guarantee around one lock

A contract names what holds whenever the lock is free, what each procedure may
rely on while other threads hold the lock, and what it takes and leaves.  When
every body meets its contract, the invariant holds in every run.

What a procedure relies on is respected by every other activation, also by the
procedures it calls.
-/

namespace Monitor

variable {S C Q A P F α β : Type} [DecidableEq P]

structure Contract (m : Machine S C Q A P F) where
  /-- What is assumed of every step. -/
  cond : S -> Multiset P -> Label C Q A P F -> Prop
  /-- What holds whenever the lock is free, and whenever a procedure returns. -/
  inv : S -> Multiset P -> Prop
  /-- What holds besides whenever the lock is free. -/
  free : S -> Prop
  /-- What holds of every command of a procedure and the state it changes. -/
  guar : P -> C -> S -> Prop
  /-- What an activation may rely on of the steps that are not its own. -/
  rely : P -> S -> S -> Prop
  pre : P -> S -> Multiset P -> Prop
  post : P -> S -> S -> Multiset P -> Prop
  /-- The faults a program may end in. -/
  faults : F -> Prop
  rely_refl : forall p s, rely p s s
  rely_trans : forall p s s' s'', rely p s s' -> rely p s' s'' -> rely p s s''

namespace Contract

variable {m : Machine S C Q A P F} (K : Contract m)

def Agrees (p : P) (command : C) (M : Multiset P) (s : S) : Prop :=
  K.guar p command s ∧ forall r, r ∈ M.erase p -> K.rely r s (m.apply command s)

/--
A thread that has left the lock in state `s` finds what it needs when it is
resumed: others have kept the invariant and what its activations rely on.
-/
def Resumes (p : P) (callers : List P) (query : Q) (ready : S -> Bool)
    (after : A -> S -> Multiset P -> Prop) (s : S) : Prop :=
  forall s' M' answer,
    (p :: callers : Multiset P) ≤ M' ->
    K.inv s' M' ->
    K.free s' ->
    (forall r, r ∈ p :: callers -> K.rely r s s') ->
    ready s' = true ->
    m.answers s' query answer = true ->
    K.cond s' M' (.resume p query answer) ->
    after answer s' M'

/-- A spawned thread can start whenever it gets the lock. -/
def Wakes (p : P) (s : S) : Prop :=
  forall s' M', p ∈ M' -> K.inv s' M' -> K.free s' -> K.rely p s s' ->
    K.cond s' M' (.wake p) -> K.pre p s' M'

/--
What a program of procedure `p`, called from `callers`, needs in order to keep
the contract and to end in `post`.
-/
def wp (p : P) (callers : List P) :
    Program S C Q A P F α -> (α -> S -> Multiset P -> Prop) ->
      S -> Multiset P -> Prop
  | .ret value, post, s, M => post value s M
  | .read next, post, s, M => wp p callers (next s) post s M
  | .exec command next, post, s, M =>
      K.cond s M (.exec p command) ->
        K.Agrees p command M s ∧
          wp p callers next post (m.apply command s) M
  | .ask query next, post, s, M =>
      forall answer, m.answers s query answer = true ->
        K.cond s M (.answer p query answer) ->
          wp p callers (next answer) post s M
  | .release query ready next, post, s, M =>
      (K.inv s M ∧ K.free s) ∧
        K.Resumes p callers query ready
          (fun answer => wp p callers (next answer) post) s
  | .call callee next, post, s, M =>
      K.cond s M (.call p callee) ->
        K.pre callee s (callee ::ₘ M) ∧
          forall s' M', (p :: callers : Multiset P) ≤ M' -> K.inv s' M' ->
            (forall r, r ∈ p :: callers -> K.rely r s s') ->
            K.post callee s s' M' -> wp p callers next post s' M'
  | .spawn child next, post, s, M =>
      K.cond s M (.spawn p child) ->
        K.Wakes child s ∧ wp p callers next post s (child ::ₘ M)
  | .abort fault, _, s, M => K.cond s M (.abort p fault) -> K.faults fault

structure Valid (initial : S -> Prop) : Prop where
  initial : forall s, initial s -> K.inv s 0 ∧ K.free s
  start : forall p s M, m.entry p s = true -> K.inv s M -> K.free s ->
    K.cond s M (.start p) -> K.pre p s (p ::ₘ M)
  body : forall p callers s M, (p :: callers : Multiset P) ≤ M ->
    K.pre p s M ->
    K.wp p callers (m.body p)
      (fun _ s' M' => (K.inv s' (M'.erase p) ∧ K.post p s s' (M'.erase p)) ∧
        (callers = [] -> K.free s -> K.free s')) s M

/-!
## Rules
-/

section Rules

variable {K} {p : P} {callers : List P}

theorem wp_mono {prog : Program S C Q A P F α}
    {post post' : α -> S -> Multiset P -> Prop} {s : S} {M : Multiset P}
    (h : K.wp p callers prog post s M)
    (hpost : forall value s M, post value s M -> post' value s M) :
    K.wp p callers prog post' s M := by
  induction prog generalizing s M with
  | ret value => exact hpost value s M h
  | read next ih => exact ih s h
  | exec command next ih =>
      intro hcond
      exact ⟨(h hcond).1, ih (h hcond).2⟩
  | ask query next ih =>
      intro answer hanswer hcond
      exact ih answer (h answer hanswer hcond)
  | release query ready next ih =>
      refine ⟨h.1, ?_⟩
      intro s' M' answer hown hinv hfree hrely hready hanswer hcond
      exact ih answer
        (h.2 s' M' answer hown hinv hfree hrely hready hanswer hcond)
  | call callee next ih =>
      intro hcond
      refine ⟨(h hcond).1, ?_⟩
      intro s' M' hown hinv hrely hcallee
      exact ih ((h hcond).2 s' M' hown hinv hrely hcallee)
  | spawn child next ih =>
      intro hcond
      exact ⟨(h hcond).1, ih (h hcond).2⟩
  | abort fault => exact h

theorem wp_bind {prog : Program S C Q A P F α}
    {f : α -> Program S C Q A P F β} {post : β -> S -> Multiset P -> Prop}
    {s : S} {M : Multiset P} :
    K.wp p callers (prog.bind f) post s M ↔
      K.wp p callers prog
        (fun value => K.wp p callers (f value) post) s M := by
  induction prog generalizing s M with
  | ret value => rfl
  | read next ih => exact ih s
  | exec command next ih => simp only [Program.bind, wp, ih]
  | ask query next ih => simp only [Program.bind, wp, ih]
  | release query ready next ih => simp only [Program.bind, wp, Resumes, ih]
  | call callee next ih => simp only [Program.bind, wp, ih]
  | spawn child next ih => simp only [Program.bind, wp, ih]
  | abort fault => rfl

theorem wp_get {f : S -> Program S C Q A P F α}
    {post : α -> S -> Multiset P -> Prop} {s : S} {M : Multiset P}
    (h : K.wp p callers (f s) post s M) :
    K.wp p callers (Program.get.bind f) post s M := h

theorem wp_onlyIf {condition : Prop} [Decidable condition]
    {prog : Program S C Q A P F Unit}
    {post : Unit -> S -> Multiset P -> Prop} {s : S} {M : Multiset P}
    (hholds : condition -> K.wp p callers prog post s M)
    (hfails : ¬ condition -> post () s M) :
    K.wp p callers (Program.onlyIf condition prog) post s M := by
  unfold Program.onlyIf
  split
  · rename_i hcondition
    exact hholds hcondition
  · rename_i hcondition
    exact hfails hcondition

theorem wp_of_uses {prog : Program S C Q A P F α}
    {fp : Program.Footprint C P F} {I : S -> Multiset P -> Prop}
    (huses : prog.Uses fp)
    (hreleases : fp.releases -> forall s M, I s M -> K.inv s M ∧ K.free s)
    (hresumes : forall s M, K.inv s M -> K.free s -> I s M)
    (hcommands : forall command s M, fp.commands command ->
      (p :: callers : Multiset P) ≤ M -> I s M ->
      K.cond s M (.exec p command) ->
      K.Agrees p command M s ∧ I (m.apply command s) M)
    (hcalls : forall callee s M, fp.calls callee ->
      I s M -> K.cond s M (.call p callee) ->
      K.pre callee s (callee ::ₘ M) ∧
        forall s' M', K.inv s' M' -> K.post callee s s' M' -> I s' M')
    (hspawns : forall child s M, fp.spawns child ->
      I s M -> K.cond s M (.spawn p child) ->
      K.Wakes child s ∧ I s (child ::ₘ M))
    (hfaults : forall fault, fp.faults fault -> K.faults fault)
    {s : S} {M : Multiset P} (hown : (p :: callers : Multiset P) ≤ M)
    (h : I s M) :
    K.wp p callers prog
      (fun _ s' M' => (p :: callers : Multiset P) ≤ M' ∧ I s' M') s M := by
  induction prog generalizing s M with
  | ret value => exact ⟨hown, h⟩
  | read next ih => exact ih s (huses s) hown h
  | exec command next ih =>
      intro hcond
      rcases hcommands command s M huses.1 hown h hcond with ⟨hagrees, h'⟩
      exact ⟨hagrees, ih huses.2 hown h'⟩
  | ask query next ih =>
      intro answer _ _
      exact ih answer (huses answer) hown h
  | release query ready next ih =>
      refine ⟨hreleases huses.1 s M h, ?_⟩
      intro s' M' answer hown' hinv' hfree' _ _ _ _
      exact ih answer (huses.2 answer) hown' (hresumes s' M' hinv' hfree')
  | call callee next ih =>
      intro hcond
      rcases hcalls callee s M huses.1 h hcond with ⟨hpre, hafter⟩
      refine ⟨hpre, ?_⟩
      intro s' M' hown' hinv' _ hpost
      exact ih huses.2 hown' (hafter s' M' hinv' hpost)
  | spawn child next ih =>
      intro hcond
      rcases hspawns child s M huses.1 h hcond with ⟨hwakes, h'⟩
      exact ⟨hwakes, ih huses.2 (hown.trans (Multiset.le_cons_self _ _)) h'⟩
  | abort fault =>
      intro _
      exact hfaults fault huses

theorem wp_locked {prog : Program S C Q A P F α}
    {fp : Program.Footprint C P F} (huses : prog.Uses fp)
    (hreleases : ¬ fp.releases) (hcalls : forall callee, ¬ fp.calls callee)
    (hspawns : forall child, ¬ fp.spawns child)
    (hfaults : forall fault, fp.faults fault -> K.faults fault)
    {I : S -> Prop} {M : Multiset P}
    (hcommands : forall command s, fp.commands command -> I s ->
      K.cond s M (.exec p command) ->
      K.Agrees p command M s ∧ I (m.apply command s))
    {s : S} (h : I s) :
    K.wp p callers prog (fun _ s' M' => M' = M ∧ I s') s M := by
  induction prog generalizing s with
  | ret value => exact ⟨rfl, h⟩
  | read next ih => exact ih s (huses s) h
  | exec command next ih =>
      intro hcond
      rcases hcommands command s huses.1 h hcond with ⟨hagrees, h'⟩
      exact ⟨hagrees, ih huses.2 h'⟩
  | ask query next ih =>
      intro answer _ _
      exact ih answer (huses answer) h
  | release query ready next ih => exact absurd huses.1 hreleases
  | call callee next ih => exact absurd huses.1 (hcalls callee)
  | spawn child next ih => exact absurd huses.1 (hspawns child)
  | abort fault =>
      intro _
      exact hfaults fault huses

theorem wp_rely {prog : Program S C Q A P F α}
    {post : α -> S -> Multiset P -> Prop} {s₀ s : S} {M : Multiset P}
    (hown : (p :: callers : Multiset P) ≤ M)
    (hrely : forall r, r ∈ callers -> K.rely r s₀ s)
    (h : K.wp p callers prog post s M) :
    K.wp p callers prog
      (fun value s' M' =>
        post value s' M' ∧ forall r, r ∈ callers -> K.rely r s₀ s') s M := by
  induction prog generalizing s M with
  | ret value => exact ⟨h, hrely⟩
  | read next ih => exact ih s hown hrely h
  | exec command next ih =>
      intro hcond
      rcases h hcond with ⟨hagrees, hnext⟩
      have hcallers : (callers : Multiset P) ≤ M.erase p := by
        have herase := Multiset.erase_le_erase p hown
        rwa [← Multiset.cons_coe, Multiset.erase_cons_head] at herase
      refine ⟨hagrees, ih hown ?_ hnext⟩
      intro r hr
      have hmem : r ∈ M.erase p := Multiset.mem_of_le hcallers (by simpa using hr)
      exact K.rely_trans r _ _ _ (hrely r hr) (hagrees.2 r hmem)
  | ask query next ih =>
      intro answer hanswer hcond
      exact ih answer hown hrely (h answer hanswer hcond)
  | release query ready next ih =>
      refine ⟨h.1, ?_⟩
      intro s' M' answer hown' hinv hfree hothers hready hanswer hcond
      refine ih answer hown' ?_
        (h.2 s' M' answer hown' hinv hfree hothers hready hanswer hcond)
      intro r hr
      exact K.rely_trans r _ _ _ (hrely r hr)
        (hothers r (List.mem_cons_of_mem _ hr))
  | call callee next ih =>
      intro hcond
      refine ⟨(h hcond).1, ?_⟩
      intro s' M' hown' hinv hothers hcallee
      refine ih hown' ?_ ((h hcond).2 s' M' hown' hinv hothers hcallee)
      intro r hr
      exact K.rely_trans r _ _ _ (hrely r hr)
        (hothers r (List.mem_cons_of_mem _ hr))
  | spawn child next ih =>
      intro hcond
      exact ⟨(h hcond).1, ih (hown.trans (Multiset.le_cons_self _ _)) hrely
        (h hcond).2⟩
  | abort fault => exact h

theorem wp_stable {prog : Program S C Q A P F α}
    {fp : Program.Footprint C P F} {J : S -> Prop}
    {post : α -> S -> Multiset P -> Prop} (huses : prog.Uses fp)
    (hrely : forall s s', K.rely p s s' -> J s -> J s')
    (hcommands : forall command s, fp.commands command -> J s ->
      J (m.apply command s))
    {s : S} {M : Multiset P} (h : K.wp p callers prog post s M) (hJ : J s) :
    K.wp p callers prog (fun value s' M' => post value s' M' ∧ J s') s M := by
  induction prog generalizing s M with
  | ret value => exact ⟨h, hJ⟩
  | read next ih => exact ih s (huses s) h hJ
  | exec command next ih =>
      intro hcond
      exact ⟨(h hcond).1,
        ih huses.2 (h hcond).2 (hcommands command s huses.1 hJ)⟩
  | ask query next ih =>
      intro answer hanswer hcond
      exact ih answer (huses answer) (h answer hanswer hcond) hJ
  | release query ready next ih =>
      refine ⟨h.1, ?_⟩
      intro s' M' answer hown hinv hfree hothers hready hanswer hcond
      exact ih answer (huses.2 answer)
        (h.2 s' M' answer hown hinv hfree hothers hready hanswer hcond)
        (hrely s s' (hothers p List.mem_cons_self) hJ)
  | call callee next ih =>
      intro hcond
      refine ⟨(h hcond).1, ?_⟩
      intro s' M' hown hinv hothers hcallee
      exact ih huses.2 ((h hcond).2 s' M' hown hinv hothers hcallee)
        (hrely s s' (hothers p List.mem_cons_self) hJ)
  | spawn child next ih =>
      intro hcond
      exact ⟨(h hcond).1, ih huses.2 (h hcond).2 hJ⟩
  | abort fault => exact h

end Rules

/-!
## Soundness

Every thread of a configuration is ready to go on: the holder of the lock meets
the contract from where it stands, and every parked thread will when it is
resumed.
-/

/-- The calls a procedure returns to can go on from the states in `post`. -/
def Returns (p : P) :
    List (P × Program S C Q A P F Unit) -> (S -> Multiset P -> Prop) -> Prop
  | [], post => forall s M, post s M ->
      K.inv s (M.erase p) ∧ K.free s
  | (caller, next) :: callers, post =>
      exists post', Returns caller callers post' ∧
        forall s M,
          (caller :: callers.map Prod.fst : Multiset P) ≤ M.erase p ->
          post s M ->
          K.wp caller (callers.map Prod.fst) next (fun _ => post') s (M.erase p)

def RunningOk (t : Thread S C Q A P F) (s : S) (M : Multiset P) : Prop :=
  exists post, K.Returns t.proc t.callers post ∧
    K.wp t.proc (t.callers.map Prod.fst) t.code (fun _ => post) s M

def ParkedOk (s : S) : Parked S C Q A P F -> Prop
  | .spawned proc => K.Wakes proc s
  | .released proc callers query ready next =>
      exists post, K.Returns proc callers post ∧
        K.Resumes proc (callers.map Prod.fst) query ready
          (fun answer =>
            K.wp proc (callers.map Prod.fst) (next answer) fun _ => post) s

structure ConfigOk (c : Config S C Q A P F) : Prop where
  free : c.Free ->
    K.inv c.state c.activations ∧ K.free c.state
  running : forall t, c.running = some t -> K.RunningOk t c.state c.activations
  parked : forall t, t ∈ c.parked -> K.ParkedOk c.state t
  fault : forall f, c.fault = some f -> K.faults f

section Soundness

variable {K}

theorem ParkedOk.later {t : Parked S C Q A P F} {s s' : S}
    (h : K.ParkedOk s t) (hrely : forall r, r ∈ t.stack -> K.rely r s s') :
    K.ParkedOk s' t := by
  cases t with
  | spawned proc =>
      intro s'' M hmem hinv hfree hothers
      exact h s'' M hmem hinv hfree
        (K.rely_trans proc _ _ _ (hrely proc (by simp [Parked.stack])) hothers)
  | released proc callers query ready next =>
      rcases h with ⟨post, hreturns, hresumes⟩
      refine ⟨post, hreturns, ?_⟩
      intro s'' M answer hown hinv hfree hothers
      refine hresumes s'' M answer hown hinv hfree ?_
      intro r hr
      exact K.rely_trans r _ _ _ (hrely r hr) (hothers r hr)

omit [DecidableEq P] in
theorem stack_le_activations {s : S} {t : Thread S C Q A P F}
    {parked : List (Parked S C Q A P F)} {fault : Option F} :
    (t.stack : Multiset P) ≤
      Config.activations ⟨s, some t, parked, fault⟩ :=
  Multiset.le_add_right _ _

omit [DecidableEq P] in
theorem parked_stack_le {t : Parked S C Q A P F}
    {parked : List (Parked S C Q A P F)} (ht : t ∈ parked) :
    (t.stack : Multiset P) ≤ (parked.flatMap Parked.stack : Multiset P) := by
  rcases List.append_of_mem ht with ⟨before, after, rfl⟩
  rw [Multiset.coe_le, List.flatMap_append, List.flatMap_cons]
  exact (List.sublist_append_left _ _).subperm.trans
    (List.sublist_append_right _ _).subperm

theorem ConfigOk.initial {initial : S -> Prop} (hvalid : K.Valid initial)
    {s : S} (hs : initial s) : K.ConfigOk (Config.initial s) where
  free := fun _ => hvalid.initial s hs
  running := by
    intro t ht
    cases ht
  parked := by
    intro t ht
    cases ht
  fault := by
    intro f hf
    cases hf

theorem ParkedOk.agrees {s : S} {command : C} {t : Thread S C Q A P F}
    {parked : List (Parked S C Q A P F)} {fault : Option F}
    (hagrees : K.Agrees t.proc command
      (Config.activations ⟨s, some t, parked, fault⟩) s)
    {other : Parked S C Q A P F} (hother : other ∈ parked)
    (h : K.ParkedOk s other) : K.ParkedOk (m.apply command s) other := by
  refine h.later ?_
  intro r hr
  apply hagrees.2
  have hrest : r ∈ (parked.flatMap Parked.stack : Multiset P) :=
    Multiset.mem_of_le (parked_stack_le hother) (by simpa using hr)
  have hsplit : Config.activations ⟨s, some t, parked, fault⟩ =
      t.proc ::ₘ ((t.callers.map Prod.fst : Multiset P) +
        (parked.flatMap Parked.stack : Multiset P)) := rfl
  rw [hsplit, Multiset.erase_cons_head]
  exact Multiset.mem_add.mpr (Or.inr hrest)

theorem RunningOk.body {initial : S -> Prop} (hvalid : K.Valid initial)
    {p : P} {s : S} {M : Multiset P} (hmem : p ∈ M) (hpre : K.pre p s M)
    (hfree : K.free s) : K.RunningOk ⟨p, m.body p, []⟩ s M := by
  refine ⟨fun s' M' => K.inv s' (M'.erase p) ∧ K.free s',
    fun s' M' h => h, ?_⟩
  have hown : (p :: [] : Multiset P) ≤ M := by simpa using hmem
  exact wp_mono (hvalid.body p [] s M hown hpre)
    fun _ s' M' h => ⟨h.1.1, h.2 rfl hfree⟩

theorem ConfigOk.ofRunning {s : S} {t : Thread S C Q A P F}
    {parked : List (Parked S C Q A P F)}
    (hrunning : K.RunningOk t s (Config.activations ⟨s, some t, parked, none⟩))
    (hparked : forall other, other ∈ parked -> K.ParkedOk s other) :
    K.ConfigOk ⟨s, some t, parked, none⟩ where
  free := by
    rintro ⟨hnone, _⟩
    cases hnone
  running := by
    intro t' ht'
    cases ht'
    exact hrunning
  parked := hparked
  fault := by
    intro f hf
    cases hf

theorem ConfigOk.ofFree {s : S} {parked : List (Parked S C Q A P F)}
    (hinv : K.inv s (Config.activations ⟨s, none, parked, none⟩) ∧ K.free s)
    (hparked : forall other, other ∈ parked -> K.ParkedOk s other) :
    K.ConfigOk ⟨s, none, parked, none⟩ where
  free := fun _ => hinv
  running := by
    intro t ht
    cases ht
  parked := hparked
  fault := by
    intro f hf
    cases hf

omit [DecidableEq P] in
theorem activations_resumed (s : S) (fault : Option F)
    (before after : List (Parked S C Q A P F)) {t : Thread S C Q A P F}
    {other : Parked S C Q A P F} (hstack : t.stack = other.stack) :
    Config.activations ⟨s, some t, before ++ after, fault⟩ =
      Config.activations ⟨s, none, before ++ other :: after, fault⟩ := by
  simp only [Config.activations, Config.runningStack, hstack, List.flatMap_append,
    List.flatMap_cons, ← Multiset.coe_add, Multiset.coe_nil, Multiset.zero_add]
  rw [← Multiset.add_assoc, ← Multiset.add_assoc, Multiset.add_comm (other.stack : Multiset P)]

omit [DecidableEq P] in
theorem activations_parked {s : S} {t : Thread S C Q A P F}
    {other : Parked S C Q A P F} {parked : List (Parked S C Q A P F)}
    {fault : Option F} (hstack : t.stack = other.stack) :
    Config.activations ⟨s, none, parked ++ [other], fault⟩ =
      Config.activations ⟨s, some t, parked, fault⟩ := by
  simp only [Config.activations, Config.runningStack, hstack, List.flatMap_append,
    List.flatMap_cons, List.flatMap_nil, List.append_nil, ← Multiset.coe_add,
    Multiset.coe_nil, Multiset.zero_add]
  rw [Multiset.add_comm]

theorem ConfigOk.step {initial : S -> Prop} (hvalid : K.Valid initial)
    {c c' : Config S C Q A P F} {label : Label C Q A P F}
    (h : K.ConfigOk c) (hstep : Step m c label c')
    (hcond : K.cond c.state c.activations label) : K.ConfigOk c' := by
  cases hstep with
  | @start s parked proc hentry =>
      have hinv := h.free ⟨rfl, rfl⟩
      have hpre := hvalid.start proc s _ hentry hinv.1 hinv.2 hcond
      refine ofRunning (RunningOk.body hvalid ?_ hpre hinv.2) h.parked
      exact Multiset.mem_of_le stack_le_activations (by simp [Thread.stack])
  | @wake s before after proc =>
      have hinv := h.free ⟨rfl, rfl⟩
      have hwakes : K.Wakes proc s := h.parked (.spawned proc) (by simp)
      have hsame := activations_resumed s (none : Option F) before after
        (show (Thread.mk proc (m.body proc) []).stack =
          (Parked.spawned proc : Parked S C Q A P F).stack from rfl)
      have hmem : proc ∈ Config.activations
          ⟨s, some ⟨proc, m.body proc, []⟩, before ++ after, none⟩ :=
        Multiset.mem_of_le stack_le_activations (by simp [Thread.stack])
      refine ofRunning (RunningOk.body hvalid hmem ?_ hinv.2) ?_
      · rw [hsame] at hmem ⊢
        exact hwakes s _ hmem hinv.1 hinv.2 (K.rely_refl proc s) hcond
      · intro other hother
        exact h.parked other (by simp at hother ⊢; tauto)
  | @resume s before after proc callers query ready next answer hready hanswer =>
      have hinv := h.free ⟨rfl, rfl⟩
      have hparked : K.ParkedOk s (.released proc callers query ready next) :=
        h.parked _ (by simp)
      rcases hparked with ⟨post, hreturns, hresumes⟩
      have hsame := activations_resumed s (none : Option F) before after
        (show (Thread.mk proc (next answer) callers).stack =
          (Parked.released proc callers query ready next).stack from rfl)
      have hown : (proc :: callers.map Prod.fst : Multiset P) ≤
          Config.activations
            ⟨s, some ⟨proc, next answer, callers⟩, before ++ after, none⟩ :=
        stack_le_activations
      refine ofRunning ⟨post, hreturns, ?_⟩ ?_
      · rw [hsame] at hown ⊢
        exact hresumes s _ answer hown hinv.1 hinv.2 (fun r _ => K.rely_refl r s)
          hready hanswer hcond
      · intro other hother
        exact h.parked other (by simp at hother ⊢; tauto)
  | read =>
      rcases h.running _ rfl with ⟨post, hreturns, hwp⟩
      exact ofRunning ⟨post, hreturns, hwp⟩ h.parked
  | exec =>
      rcases h.running _ rfl with ⟨post, hreturns, hwp⟩
      rcases hwp hcond with ⟨hagrees, hnext⟩
      exact ofRunning ⟨post, hreturns, hnext⟩ fun other hother =>
        (h.parked other hother).agrees hagrees hother
  | answer hanswer =>
      rcases h.running _ rfl with ⟨post, hreturns, hwp⟩
      exact ofRunning ⟨post, hreturns, hwp _ hanswer hcond⟩ h.parked
  | @release s parked proc callers query ready next =>
      rcases h.running _ rfl with ⟨post, hreturns, hinv, hresumes⟩
      refine ofFree ?_ ?_
      · rw [activations_parked (t := ⟨proc, .release query ready next, callers⟩) rfl]
        exact hinv
      · intro other hother
        rcases List.mem_append.mp hother with hold | hnew
        · exact h.parked other hold
        · cases List.mem_singleton.mp hnew
          exact ⟨post, hreturns, hresumes⟩
  | @call s parked proc callers callee next =>
      rcases h.running _ rfl with ⟨post, hreturns, hwp⟩
      rcases hwp hcond with ⟨hpre, hafter⟩
      have hown : (callee :: proc :: callers.map Prod.fst : Multiset P) ≤
          callee ::ₘ Config.activations
            ⟨s, some ⟨proc, .call callee next, callers⟩, parked, none⟩ := by
        rw [← Multiset.cons_coe]
        exact Multiset.cons_le_cons _ stack_le_activations
      have hbody := wp_rely hown (fun r _ => K.rely_refl r s)
        (hvalid.body callee _ s _ hown hpre)
      refine ofRunning ⟨_, ?_, hbody⟩ h.parked
      refine ⟨post, hreturns, ?_⟩
      intro s' M' hle hdone
      exact hafter s' _ hle hdone.1.1.1 hdone.2 hdone.1.1.2
  | @spawn s parked proc callers child next =>
      rcases h.running _ rfl with ⟨post, hreturns, hwp⟩
      rcases hwp hcond with ⟨hwakes, hnext⟩
      refine ofRunning ⟨post, hreturns, ?_⟩ ?_
      · have hsame : Config.activations ⟨s, some ⟨proc, next, callers⟩,
              parked ++ [.spawned child], none⟩ =
            child ::ₘ Config.activations
              ⟨s, some ⟨proc, .spawn child next, callers⟩, parked, none⟩ := by
          simp only [Config.activations, Config.runningStack, Thread.stack,
            List.flatMap_append, List.flatMap_cons, List.flatMap_nil,
            Parked.stack, List.append_nil, ← Multiset.coe_add]
          rw [← Multiset.add_assoc, Multiset.add_comm, Multiset.coe_singleton,
            Multiset.singleton_add]
        rw [hsame]
        exact hnext
      · intro other hother
        rcases List.mem_append.mp hother with hold | hnew
        · exact h.parked other hold
        · cases List.mem_singleton.mp hnew
          exact hwakes
  | @«return» s parked proc caller next callers =>
      rcases h.running _ rfl with ⟨post, hreturns, hdone⟩
      rcases hreturns with ⟨post', hreturns, hnext⟩
      have hrest : Config.activations
            ⟨s, some ⟨caller, next, callers⟩, parked, none⟩ =
          (Config.activations
            ⟨s, some ⟨proc, .ret (), (caller, next) :: callers⟩, parked,
              none⟩).erase proc := by
        have hcons : Config.activations
            ⟨s, some ⟨proc, .ret (), (caller, next) :: callers⟩, parked, none⟩ =
          proc ::ₘ Config.activations
            ⟨s, some ⟨caller, next, callers⟩, parked, none⟩ := rfl
        rw [hcons, Multiset.erase_cons_head]
      refine ofRunning ⟨post', hreturns, ?_⟩ h.parked
      rw [hrest]
      refine hnext s _ ?_ hdone
      rw [← hrest]
      exact stack_le_activations
  | @finish s parked proc =>
      rcases h.running _ rfl with ⟨post, hreturns, hdone⟩
      refine ofFree ?_ h.parked
      have hcons : Config.activations
            ⟨s, some ⟨proc, .ret (), []⟩, parked, (none : Option F)⟩ =
          proc ::ₘ Config.activations (F := F) ⟨s, none, parked, none⟩ := rfl
      have hinv := hreturns s _ hdone
      rw [hcons, Multiset.erase_cons_head] at hinv
      exact hinv
  | abort =>
      rcases h.running _ rfl with ⟨post, hreturns, hwp⟩
      exact
        { free := by
            rintro ⟨_, hnone⟩
            cases hnone
          running := by
            intro t ht
            cases ht
          parked := h.parked
          fault := by
            intro f hf
            cases hf
            exact hwp hcond }

theorem Valid.configOk {initial : S -> Prop} (hvalid : K.Valid initial)
    {c : Config S C Q A P F} (h : Reaches m initial K.cond c) : K.ConfigOk c := by
  induction h with
  | initial hs => exact ConfigOk.initial hvalid hs
  | step _ hstep hcond ih => exact ih.step hvalid hstep hcond

theorem Valid.inv {initial : S -> Prop} (hvalid : K.Valid initial)
    {c : Config S C Q A P F} (h : Reaches m initial K.cond c)
    (hfree : c.Free) : K.inv c.state c.activations :=
  ((hvalid.configOk h).free hfree).1

theorem Valid.free {initial : S -> Prop} (hvalid : K.Valid initial)
    {c : Config S C Q A P F} (h : Reaches m initial K.cond c)
    (hfree : c.Free) : K.free c.state :=
  ((hvalid.configOk h).free hfree).2

theorem Valid.fault {initial : S -> Prop} (hvalid : K.Valid initial)
    {c : Config S C Q A P F} (h : Reaches m initial K.cond c) {f : F}
    (hfault : c.fault = some f) : K.faults f :=
  (hvalid.configOk h).fault f hfault

theorem Valid.exec {initial : S -> Prop} (hvalid : K.Valid initial)
    {c c' : Config S C Q A P F} {p : P} {command : C}
    (h : Reaches m initial K.cond c) (hstep : Step m c (.exec p command) c')
    (hcond : K.cond c.state c.activations (.exec p command)) :
    K.guar p command c.state ∧ c'.state = m.apply command c.state := by
  have hok := hvalid.configOk h
  cases hstep with
  | exec =>
      rcases hok.running _ rfl with ⟨post, _, hwp⟩
      exact ⟨(hwp hcond).1.1, rfl⟩

theorem Valid.call {initial : S -> Prop} (hvalid : K.Valid initial)
    {c c' : Config S C Q A P F} {p callee : P}
    (h : Reaches m initial K.cond c) (hstep : Step m c (.call p callee) c')
    (hcond : K.cond c.state c.activations (.call p callee)) :
    K.pre callee c.state (callee ::ₘ c.activations) := by
  have hok := hvalid.configOk h
  cases hstep with
  | call =>
      rcases hok.running _ rfl with ⟨post, _, hwp⟩
      exact (hwp hcond).1

theorem Valid.guar {initial : S -> Prop} (hvalid : K.Valid initial)
    {c c' : Config S C Q A P F} {label : Label C Q A P F}
    (h : Reaches m initial K.cond c) (hstep : Step m c label c')
    (hcond : K.cond c.state c.activations label) :
    c'.state = c.state ∨
      exists p command, label = .exec p command ∧
        K.guar p command c.state ∧ c'.state = m.apply command c.state := by
  cases hstep with
  | exec => exact Or.inr ⟨_, _, rfl, hvalid.exec h .exec hcond⟩
  | _ => exact Or.inl rfl

def Guaranteed (K : Contract m) (label : Label C Q A P F) (s : S) : Prop :=
  forall p command, label = .exec p command -> K.guar p command s

theorem Valid.reaches {initial : S -> Prop} (hvalid : K.Valid initial)
    {cond : S -> Multiset P -> Label C Q A P F -> Prop}
    (hcond : forall s M label, cond s M label -> K.cond s M label)
    {c : Config S C Q A P F} (h : Reaches m initial cond c) :
    Reaches m initial
      (fun s M label => cond s M label ∧ K.Guaranteed label s) c := by
  induction h with
  | initial hs => exact .initial hs
  | step hc hstep hallowed ih =>
      refine ih.step hstep ⟨hallowed, ?_⟩
      rintro p command rfl
      exact (hvalid.exec (hc.mono hcond) hstep (hcond _ _ _ hallowed)).1

theorem Valid.always {initial : S -> Prop} (hvalid : K.Valid initial)
    {I : S -> Prop} (hinitial : forall s, initial s -> I s)
    (hkeeps : forall p command s, K.guar p command s -> I s ->
      I (m.apply command s))
    {c : Config S C Q A P F} (h : Reaches m initial K.cond c) : I c.state := by
  induction h with
  | initial hs => exact hinitial _ hs
  | step hc hstep hcond ih =>
      rcases hvalid.guar hc hstep hcond with
        hsame | ⟨p, command, _, hguar, happlied⟩
      · rw [hsame]
        exact ih
      · rw [happlied]
        exact hkeeps p command _ hguar ih

end Soundness

/-!
## Watching single commands
-/

def watching (guar : P -> C -> S -> Prop) : Contract m where
  cond := Unrestricted
  inv := fun _ _ => True
  free := fun _ => True
  guar := guar
  rely := fun _ _ _ => True
  pre := fun _ _ _ => True
  post := fun _ _ _ _ => True
  faults := fun _ => True
  rely_refl := fun _ _ => trivial
  rely_trans := fun _ _ _ _ _ _ => trivial

section Watching

variable {guar : P -> C -> S -> Prop} {p : P} {callers : List P} {s : S}
  {M : Multiset P}

theorem watching_agrees {command : C} (h : guar p command s) :
    (watching (m := m) guar).Agrees p command M s :=
  ⟨h, fun _ _ => trivial⟩

theorem watching_uses {prog : Program S C Q A P F α}
    {fp : Program.Footprint C P F} (huses : prog.Uses fp)
    (hcommands : forall command s, fp.commands command -> guar p command s)
    (hown : (p :: callers : Multiset P) ≤ M) :
    (watching (m := m) guar).wp p callers prog
      (fun _ _ M' => (p :: callers : Multiset P) ≤ M') s M := by
  refine wp_mono (wp_of_uses (I := fun _ _ => True) huses
    (fun _ _ _ _ => ⟨trivial, trivial⟩) (fun _ _ _ _ => trivial) ?_ ?_ ?_
    (fun _ _ => trivial) hown trivial) fun _ _ _ h => h.1
  · intro command s M hcommand _ _ _
    exact ⟨watching_agrees (hcommands command s hcommand), trivial⟩
  · exact fun _ _ _ _ _ _ => ⟨trivial, fun _ _ _ _ => trivial⟩
  · exact fun _ _ _ _ _ _ => ⟨fun _ _ _ _ _ _ _ => trivial, trivial⟩

theorem watching_valid {initial : S -> Prop}
    (hbody : forall p callers s M, (p :: callers : Multiset P) ≤ M ->
      (watching (m := m) guar).wp p callers (m.body p) (fun _ _ _ => True) s M) :
    (watching (m := m) guar).Valid initial where
  initial := fun _ _ => ⟨trivial, trivial⟩
  start := fun _ _ _ _ _ _ _ => trivial
  body := by
    intro p callers s M hown _
    exact wp_mono (hbody p callers s M hown)
      fun _ _ _ _ => ⟨⟨trivial, trivial⟩, fun _ _ => trivial⟩

end Watching

end Contract
end Monitor
