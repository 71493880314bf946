import DirectPlayLite.Lib.Monitor.Traces

/-!
# Observers

An observer looks at the commands and the calls of a run, each with the procedure and the
state it is made in, and tells whether they come in order.  It is at rest whenever a thread
gives up the lock or a procedure returns, so that only what happens in between has to be
followed.
-/

namespace Monitor

variable {S C Q A P F G α β : Type}

structure Observer (S C P G : Type) where
  start : G
  /-- What it makes of a command. -/
  observe : P -> C -> S -> G -> Option G
  /-- What it makes of a call. -/
  hand : P -> P -> S -> G -> Option G
  /-- What is known of the calls of the runs that are watched. -/
  meets : P -> P -> S -> Prop
  /-- Where a procedure may begin. -/
  begins : P -> S -> G -> Prop
  resting : S -> G -> Prop

namespace Observer

variable (O : Observer S C P G) (m : Machine S C Q A P F)

def look (s : S) : Label C Q A P F -> G -> Option G
  | .exec p command, g => O.observe p command s g
  | .call p callee, g => O.hand p callee s g
  | _, g => some g

def seen : Past S C Q A P F -> Option G
  | [] => some O.start
  | (s, label) :: past => (seen past).bind (O.look s label)

theorem seen_mem {O : Observer S C P G} {past : Past S C Q A P F} {g : G} {s : S}
    {label : Label C Q A P F} (h : O.seen past = some g) (hmem : (s, label) ∈ past) :
    exists g₀ g₁, O.look s label g₀ = some g₁ := by
  induction past generalizing g with
  | nil => cases hmem
  | cons deed past ih =>
      rcases Option.bind_eq_some_iff.mp h with ⟨g₀, hbefore, hlook⟩
      rcases List.mem_cons.mp hmem with rfl | hmem
      · exact ⟨g₀, g, hlook⟩
      · exact ih hbefore hmem

def Met (past : Past S C Q A P F) : Prop :=
  forall s p callee, (s, .call p callee) ∈ past -> O.meets p callee s

/--
The steps of a program of procedure `p` come in order, and the observer rests wherever
others can come in between.
-/
def follows (p : P) : Program S C Q A P F α -> (α -> S -> G -> Prop) ->
    S -> G -> Prop
  | .ret value, post, s, g => post value s g
  | .read next, post, s, g => follows p (next s) post s g
  | .exec command next, post, s, g =>
      exists g', O.observe p command s g = some g' ∧
        follows p next post (m.apply command s) g'
  | .ask query next, post, s, g =>
      forall answer, m.answers s query answer = true ->
        follows p (next answer) post s g
  | .release query ready next, post, s, g =>
      O.resting s g ∧ forall s' g' answer, O.resting s' g' -> ready s' = true ->
        m.answers s' query answer = true -> follows p (next answer) post s' g'
  | .call callee next, post, s, g =>
      (O.meets p callee s ->
        exists g', O.hand p callee s g = some g' ∧ O.begins callee s g') ∧
      forall s' g', O.resting s' g' -> follows p next post s' g'
  | .spawn child next, post, s, g =>
      (forall s' g', O.resting s' g' -> O.begins child s' g') ∧
        follows p next post s g
  | .abort _, _, _, _ => True

structure Followed : Prop where
  entry : forall p s g, m.entry p s = true -> O.resting s g -> O.begins p s g
  body : forall p s g, O.begins p s g ->
    O.follows m p (m.body p) (fun _ s' g' => O.resting s' g') s g

/-!
## Rules
-/

section Rules

variable {O m} {p : P} {s : S} {g : G}

theorem follows_mono {prog : Program S C Q A P F α}
    {post post' : α -> S -> G -> Prop} (h : O.follows m p prog post s g)
    (hpost : forall value s g, post value s g -> post' value s g) :
    O.follows m p prog post' s g := by
  induction prog generalizing s g with
  | ret value => exact hpost _ _ _ h
  | read next ih => exact ih s h
  | exec command next ih =>
      rcases h with ⟨g', hobserve, hnext⟩
      exact ⟨g', hobserve, ih hnext⟩
  | ask query next ih => exact fun answer hanswer => ih answer (h answer hanswer)
  | release query ready next ih =>
      exact ⟨h.1, fun s' g' answer hrest hready hanswer =>
        ih answer (h.2 s' g' answer hrest hready hanswer)⟩
  | call callee next ih => exact ⟨h.1, fun s' g' hrest => ih (h.2 s' g' hrest)⟩
  | spawn child next ih => exact ⟨h.1, ih h.2⟩
  | abort fault => trivial

theorem follows_bind {prog : Program S C Q A P F α}
    {f : α -> Program S C Q A P F β} {post : β -> S -> G -> Prop} :
    O.follows m p (prog.bind f) post s g ↔
      O.follows m p prog
        (fun value s' g' => O.follows m p (f value) post s' g') s g := by
  induction prog generalizing s g with
  | ret value => exact Iff.rfl
  | read next ih => exact ih s
  | exec command next ih => exact exists_congr fun g' => and_congr_right fun _ => ih
  | ask query next ih => exact forall_congr' fun answer => imp_congr_right fun _ => ih answer
  | release query ready next ih =>
      exact and_congr_right fun _ => forall_congr' fun s' => forall_congr' fun g' =>
        forall_congr' fun answer => imp_congr_right fun _ => imp_congr_right fun _ =>
          imp_congr_right fun _ => ih answer
  | call callee next ih =>
      exact and_congr_right fun _ => forall_congr' fun s' => forall_congr' fun g' =>
        imp_congr_right fun _ => ih
  | spawn child next ih => exact and_congr_right fun _ => ih
  | abort fault => exact Iff.rfl

theorem follows_get {f : S -> Program S C Q A P F α} {post : α -> S -> G -> Prop}
    (h : O.follows m p (f s) post s g) :
    O.follows m p (Program.get.bind f) post s g := h

theorem follows_forEach {ι : Type} {f : ι -> Program S C Q A P F Unit} {xs : List ι}
    (inv : List ι -> S -> G -> Prop)
    (hround : forall x rest s g, inv (x :: rest) s g ->
      O.follows m p (f x) (fun _ => inv rest) s g)
    (h : inv xs s g) : O.follows m p (Program.forEach f xs) (fun _ => inv []) s g := by
  induction xs generalizing s g with
  | nil => exact h
  | cons x rest ih =>
      exact follows_bind.mpr
        (follows_mono (hround x rest s g h) fun _ _ _ hinv => ih hinv)

structure Bears (O : Observer S C P G) (m : Machine S C Q A P F) (p : P)
    (fp : Program.Footprint C P F) : Prop where
  commands : forall command s g, fp.commands command -> O.resting s g ->
    exists g', O.observe p command s g = some g' ∧ O.resting (m.apply command s) g'
  calls : forall callee s g, fp.calls callee -> O.resting s g ->
    exists g', O.hand p callee s g = some g' ∧ O.begins callee s g'
  spawns : forall child s g, fp.spawns child -> O.resting s g -> O.begins child s g

theorem follows_bears {prog : Program S C Q A P F α} {fp : Program.Footprint C P F}
    (huses : prog.Uses fp) (hbears : Bears O m p fp) (hrest : O.resting s g) :
    O.follows m p prog (fun _ s' g' => O.resting s' g') s g := by
  induction prog generalizing s g with
  | ret value => exact hrest
  | read next ih => exact ih s (huses s) hrest
  | exec command next ih =>
      rcases hbears.commands command s g huses.1 hrest with ⟨g', hobserve, hafter⟩
      exact ⟨g', hobserve, ih huses.2 hafter⟩
  | ask query next ih => exact fun answer _ => ih answer (huses answer) hrest
  | release query ready next ih =>
      exact ⟨hrest, fun s' g' answer hrest' _ _ => ih answer (huses.2 answer) hrest'⟩
  | call callee next ih =>
      exact ⟨fun _ => hbears.calls callee s g huses.1 hrest,
        fun s' g' hrest' => ih huses.2 hrest'⟩
  | spawn child next ih =>
      exact ⟨fun s' g' hrest' => hbears.spawns child s' g' huses.1 hrest',
        ih huses.2 hrest⟩
  | abort fault => trivial

structure Minds (O : Observer S C P G) (m : Machine S C Q A P F) (p : P)
    (fp : Program.Footprint C P F) : Prop where
  commands : forall command s g, fp.commands command -> O.resting s g ->
    O.observe p command s g = some g ∧ O.resting (m.apply command s) g
  calls : forall callee s g, fp.calls callee -> O.resting s g ->
    exists g', O.hand p callee s g = some g' ∧ O.begins callee s g'
  spawns : forall child s g, fp.spawns child -> O.resting s g -> O.begins child s g

theorem Minds.bears {fp : Program.Footprint C P F} (h : Minds O m p fp) : Bears O m p fp where
  commands command s g hfits hrest := ⟨g, h.commands command s g hfits hrest⟩
  calls := h.calls
  spawns := h.spawns

theorem follows_uses {prog : Program S C Q A P F α} {fp : Program.Footprint C P F}
    (huses : prog.Uses fp) (hminds : Minds O m p fp) (hrest : O.resting s g) :
    O.follows m p prog (fun _ s' g' => O.resting s' g') s g :=
  follows_bears huses hminds.bears hrest

theorem follows_before {prog : Program S C Q A P F α}
    {f : α -> Program S C Q A P F β} {post : β -> S -> G -> Prop}
    {fp : Program.Footprint C P F} (huses : prog.Uses fp) (hminds : Minds O m p fp)
    (hrest : O.resting s g)
    (hnext : forall value s' g', O.resting s' g' ->
      O.follows m p (f value) post s' g') :
    O.follows m p (prog.bind f) post s g :=
  follows_bind.mpr (follows_mono (follows_uses huses hminds hrest) hnext)

end Rules

/-!
## Runs
-/

section Runs

variable {m}

def CallersFollow (callers : List (P × Program S C Q A P F Unit)) : Prop :=
  forall caller, caller ∈ callers -> forall s g, O.resting s g ->
    O.follows m caller.1 caller.2 (fun _ s' g' => O.resting s' g') s g

def ParkedFollows : Parked S C Q A P F -> Prop
  | .spawned child => forall s g, O.resting s g -> O.begins child s g
  | .released proc callers query ready next =>
      (forall s g answer, O.resting s g -> ready s = true ->
        m.answers s query answer = true ->
        O.follows m proc (next answer) (fun _ s' g' => O.resting s' g') s g) ∧
      CallersFollow O (m := m) callers

structure Sees (c : Config S C Q A P F) (g : G) : Prop where
  free : c.Free -> O.resting c.state g
  running : forall t, c.running = some t ->
    O.follows m t.proc t.code (fun _ s' g' => O.resting s' g') c.state g ∧
      CallersFollow O (m := m) t.callers
  parked : forall t, t ∈ c.parked -> ParkedFollows O (m := m) t

variable {O} {s : S} {g : G} {parked : List (Parked S C Q A P F)}

theorem Sees.run {t : Thread S C Q A P F}
    (hcode : O.follows m t.proc t.code (fun _ s' g' => O.resting s' g') s g)
    (hcallers : CallersFollow O (m := m) t.callers)
    (hparked : forall other, other ∈ parked -> ParkedFollows O (m := m) other) :
    Sees O (m := m) ⟨s, some t, parked, none⟩ g where
  free := by
    intro hfree
    cases hfree.1
  running := by
    intro t' ht'
    cases ht'
    exact ⟨hcode, hcallers⟩
  parked := hparked

theorem Sees.park (hrest : O.resting s g)
    (hparked : forall other, other ∈ parked -> ParkedFollows O (m := m) other) :
    Sees O (m := m) ⟨s, none, parked, none⟩ g where
  free := fun _ => hrest
  running := by
    intro t ht
    cases ht
  parked := hparked

theorem Sees.step {c c' : Config S C Q A P F} {label : Label C Q A P F}
    (hbody : O.Followed m) (h : Sees O (m := m) c g) (hstep : Step m c label c')
    (hmeets : forall p callee, label = .call p callee -> O.meets p callee c.state) :
    exists g', O.look c.state label g = some g' ∧ Sees O (m := m) c' g' := by
  have hcallers : CallersFollow (S := S) (Q := Q) (A := A) (F := F) O (m := m) [] := by
    intro caller hcaller
    cases hcaller
  cases hstep with
  | @start s parked proc hentry =>
      have hrest := hbody.entry proc s g hentry (h.free ⟨rfl, rfl⟩)
      exact ⟨g, rfl, .run (hbody.body proc s g hrest) hcallers h.parked⟩
  | @wake s before after proc =>
      have hthread : ParkedFollows O (m := m) (.spawned proc) := h.parked _ (by simp)
      have hrest := hthread s g (h.free ⟨rfl, rfl⟩)
      refine ⟨g, rfl, .run (hbody.body proc s g hrest) hcallers fun other hother => ?_⟩
      exact h.parked other (by simp at hother ⊢; tauto)
  | @resume s before after proc callers query ready next answer hready hanswer =>
      have hrest := h.free ⟨rfl, rfl⟩
      have hthread : ParkedFollows O (m := m)
          (.released proc callers query ready next) := h.parked _ (by simp)
      refine ⟨g, rfl, .run (hthread.1 s g answer hrest hready hanswer) hthread.2
        fun other hother => ?_⟩
      exact h.parked other (by simp at hother ⊢; tauto)
  | read =>
      rcases h.running _ rfl with ⟨hcode, hrest⟩
      exact ⟨g, rfl, .run hcode hrest h.parked⟩
  | exec =>
      rcases h.running _ rfl with ⟨⟨g', hobserve, hnext⟩, hrest⟩
      exact ⟨g', hobserve, .run hnext hrest h.parked⟩
  | answer hanswer =>
      rcases h.running _ rfl with ⟨hcode, hrest⟩
      exact ⟨g, rfl, .run (hcode _ hanswer) hrest h.parked⟩
  | release =>
      rcases h.running _ rfl with ⟨⟨hresting, hnext⟩, hrest⟩
      refine ⟨g, rfl, .park hresting fun other hother => ?_⟩
      rcases List.mem_append.mp hother with hold | hnew
      · exact h.parked other hold
      · cases List.mem_singleton.mp hnew
        exact ⟨fun s g answer hg hready hanswer => hnext s g answer hg hready hanswer,
          hrest⟩
  | @call s parked proc callers callee next =>
      rcases h.running _ rfl with ⟨⟨hcall, hnext⟩, hrest⟩
      rcases hcall (hmeets proc callee rfl) with ⟨g', hhand, hbegins⟩
      refine ⟨g', hhand, .run (hbody.body callee s g' hbegins) ?_ h.parked⟩
      intro caller hcaller
      rcases List.mem_cons.mp hcaller with rfl | hold
      · exact hnext
      · exact hrest caller hold
  | spawn =>
      rcases h.running _ rfl with ⟨⟨hchild, hcode⟩, hrest⟩
      refine ⟨g, rfl, .run hcode hrest fun other hother => ?_⟩
      rcases List.mem_append.mp hother with hold | hnew
      · exact h.parked other hold
      · cases List.mem_singleton.mp hnew
        exact hchild
  | «return» =>
      rcases h.running _ rfl with ⟨hresting, hrest⟩
      exact ⟨g, rfl, .run (hrest _ List.mem_cons_self _ _ hresting)
        (fun caller hcaller => hrest caller (List.mem_cons_of_mem _ hcaller)) h.parked⟩
  | finish =>
      rcases h.running _ rfl with ⟨hresting, _⟩
      exact ⟨g, rfl, .park hresting h.parked⟩
  | abort =>
      refine ⟨g, rfl, { free := ?_, running := ?_, parked := h.parked }⟩
      · intro hfree
        cases hfree.2
      · intro t ht
        cases ht

theorem traced_seen {initial : S -> Prop} {past : Past S C Q A P F}
    {c : Config S C Q A P F} (hbody : O.Followed m)
    (hinitial : forall s, initial s -> O.resting s O.start)
    (h : Traced m initial past c) :
    O.Met past -> exists g, O.seen past = some g ∧ Sees O (m := m) c g := by
  induction h with
  | @initial s hs =>
      intro _
      refine ⟨O.start, rfl, .park (hinitial s hs) fun other hother => ?_⟩
      cases hother
  | @step past c c' label _ hstep ih =>
      intro hmet
      have hbefore : O.Met past := fun s p callee hmem =>
        hmet s p callee (List.mem_cons_of_mem _ hmem)
      rcases ih hbefore with ⟨g, hseen, hsees⟩
      have hmeets : forall p callee, label = .call p callee ->
          O.meets p callee c.state := by
        rintro p callee rfl
        exact hmet c.state p callee List.mem_cons_self
      rcases hsees.step hbody hstep hmeets with ⟨g', hlook, hsees'⟩
      refine ⟨g', ?_, hsees'⟩
      rw [seen, hseen, Option.bind_some, hlook]

end Runs

end Observer

end Monitor
