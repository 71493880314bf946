import DirectPlayLite.Lib.Monitor.Traces

/-!
# Tokens in custody

A run is written down event by event, and its threads hold tokens that nobody else has.
Whoever holds a token may rely on the steps of the others, also while it waits inside of
a call or has given up the lock, and hands its tokens on to the procedures it calls.
-/

namespace Monitor

variable {S C Q A P F E T α β : Type}

/-- How runs are written down, and what their threads owe each other. -/
structure Custody (S C Q A P F E T : Type) where
  /-- What is written down of a command. -/
  ofCommand : P -> C -> S -> Option E
  /-- What is written down of an answer that is given under the lock. -/
  ofAnswer : P -> Q -> A -> S -> Option E
  /-- What is assumed of a step, with what has been written down before it. -/
  cond : S -> List E -> Label C Q A P F -> Prop
  /-- What is promised of a command. -/
  command : P -> C -> S -> List E -> Prop
  /-- What is promised of an answer that is given under the lock. -/
  answer : P -> Q -> A -> S -> List E -> Prop
  /-- What holds whenever the lock is free or a procedure returns, with all tokens. -/
  inv : S -> List E -> Multiset T -> Prop
  /-- What the holder of a token may rely on. -/
  rely : T -> S -> List E -> S -> List E -> Prop
  /-- Where a procedure begins, with the tokens it is given and those of all others. -/
  pre : P -> S -> List E -> Multiset T -> Multiset T -> Prop
  rely_refl : forall t s es, rely t s es s es
  rely_trans : forall t s es s' es' s'' es'',
    rely t s es s' es' -> rely t s' es' s'' es'' -> rely t s es s'' es''

namespace Custody

variable (K : Custody S C Q A P F E T) (m : Machine S C Q A P F)

def event (s : S) : Label C Q A P F -> Option E
  | .exec p command => K.ofCommand p command s
  | .answer p query answer => K.ofAnswer p query answer s
  | _ => none

def promise (s : S) (es : List E) : Label C Q A P F -> Prop
  | .exec p command => K.command p command s es
  | .answer p query answer => K.answer p query answer s es
  | _ => True

/-- What has been written down once a step is taken. -/
def note (s : S) (label : Label C Q A P F) (es : List E) : List E :=
  (K.event s label).toList ++ es

/-- What is written down of a past, latest first. -/
def record : Past S C Q A P F -> List E
  | [] => []
  | (s, label) :: past => K.note s label (record past)

def Each (R : S -> List E -> Label C Q A P F -> Prop) : Past S C Q A P F -> Prop
  | [] => True
  | (s, label) :: past => R s (K.record past) label ∧ Each R past

/-- A step leaves the holders of tokens what they rely on. -/
def Spares (tokens : Multiset T) (s : S) (es : List E) (s' : S) (es' : List E) : Prop :=
  forall t, t ∈ tokens -> K.rely t s es s' es'

/-- A thread of its own can start whenever the lock is free. -/
def Starts (p : P) : Prop :=
  forall s es held, K.inv s es held -> K.cond s es (.wake p) -> K.pre p s es 0 held

/--
What a program of procedure `p` needs with its own tokens and those of all others, in
order to keep what is promised and to end in `post`.
-/
def wp (p : P) : Program S C Q A P F α ->
    (α -> S -> List E -> Multiset T -> Multiset T -> Prop) ->
      S -> List E -> Multiset T -> Multiset T -> Prop
  | .ret value, post, s, es, own, rest => post value s es own rest
  | .read next, post, s, es, own, rest => wp p (next s) post s es own rest
  | .exec command next, post, s, es, _, rest =>
      K.cond s es (.exec p command) ->
        (K.command p command s es ∧
          K.Spares rest s es (m.apply command s) (K.note s (.exec p command) es)) ∧
          exists own', wp p next post (m.apply command s)
            (K.note s (.exec p command) es) own' rest
  | .ask query next, post, s, es, _, rest =>
      forall answer, m.answers s query answer = true ->
        K.cond s es (.answer p query answer) ->
          (K.answer p query answer s es ∧
            K.Spares rest s es s (K.note s (.answer p query answer) es)) ∧
            exists own', wp p (next answer) post s
              (K.note s (.answer p query answer) es) own' rest
  | .release query ready next, post, s, es, own, rest =>
      K.inv s es (own + rest) ∧
        forall s' es' rest' answer, K.inv s' es' (own + rest') ->
          K.Spares own s es s' es' -> ready s' = true ->
          m.answers s' query answer = true -> K.cond s' es' (.resume p query answer) ->
          wp p (next answer) post s' es' own rest'
  | .call callee next, post, s, es, own, rest =>
      K.cond s es (.call p callee) ->
        exists given kept, own = given + kept ∧ K.pre callee s es given (kept + rest) ∧
          forall s' es' rest', K.inv s' es' (kept + rest') ->
            K.Spares kept s es s' es' -> wp p next post s' es' kept rest'
  | .spawn child next, post, s, es, own, rest =>
      K.cond s es (.spawn p child) -> K.Starts child ∧ wp p next post s es own rest
  | .abort _, _, _, _, _, _ => True

/-- A procedure returns: what it still holds is given up. -/
def ended : Unit -> S -> List E -> Multiset T -> Multiset T -> Prop :=
  fun _ s es _ rest => K.inv s es rest

structure Valid (initial : S -> Prop) : Prop where
  initial : forall s, initial s -> K.inv s [] 0
  start : forall p s es held, m.entry p s = true -> K.inv s es held ->
    K.cond s es (.start p) -> K.pre p s es 0 held
  body : forall p s es given rest, K.pre p s es given rest ->
    K.wp m p (m.body p) K.ended s es given rest

/-!
## Rules
-/

section Rules

variable {K m} {p : P} {s : S} {es : List E} {own rest : Multiset T}

theorem spares_refl {tokens : Multiset T} : K.Spares tokens s es s es :=
  fun t _ => K.rely_refl t s es

theorem Spares.trans {tokens : Multiset T} {s' s'' : S} {es' es'' : List E}
    (h : K.Spares tokens s es s' es') (h' : K.Spares tokens s' es' s'' es'') :
    K.Spares tokens s es s'' es'' :=
  fun t ht => K.rely_trans t _ _ _ _ _ _ (h t ht) (h' t ht)

theorem spares_add {tokens others : Multiset T} {s' : S} {es' : List E} :
    K.Spares (tokens + others) s es s' es' ↔
      K.Spares tokens s es s' es' ∧ K.Spares others s es s' es' := by
  constructor
  · intro h
    exact ⟨fun t ht => h t (Multiset.mem_add.mpr (Or.inl ht)),
      fun t ht => h t (Multiset.mem_add.mpr (Or.inr ht))⟩
  · intro h t ht
    rcases Multiset.mem_add.mp ht with hleft | hright
    · exact h.1 t hleft
    · exact h.2 t hright

theorem wp_mono {prog : Program S C Q A P F α}
    {post post' : α -> S -> List E -> Multiset T -> Multiset T -> Prop}
    (h : K.wp m p prog post s es own rest)
    (hpost : forall value s es own rest, post value s es own rest ->
      post' value s es own rest) :
    K.wp m p prog post' s es own rest := by
  induction prog generalizing s es own rest with
  | ret value => exact hpost value s es own rest h
  | read next ih => exact ih s h
  | exec command next ih =>
      intro hcond
      rcases h hcond with ⟨hstep, own', hnext⟩
      exact ⟨hstep, own', ih hnext⟩
  | ask query next ih =>
      intro answer hanswer hcond
      rcases h answer hanswer hcond with ⟨hstep, own', hnext⟩
      exact ⟨hstep, own', ih answer hnext⟩
  | release query ready next ih =>
      refine ⟨h.1, ?_⟩
      intro s' es' rest' answer hinv hspares hready hanswer hcond
      exact ih answer (h.2 s' es' rest' answer hinv hspares hready hanswer hcond)
  | call callee next ih =>
      intro hcond
      rcases h hcond with ⟨given, kept, hown, hpre, hnext⟩
      refine ⟨given, kept, hown, hpre, ?_⟩
      intro s' es' rest' hinv hspares
      exact ih (hnext s' es' rest' hinv hspares)
  | spawn child next ih =>
      intro hcond
      exact ⟨(h hcond).1, ih (h hcond).2⟩
  | abort fault => trivial

theorem wp_bind {prog : Program S C Q A P F α} {f : α -> Program S C Q A P F β}
    {post : β -> S -> List E -> Multiset T -> Multiset T -> Prop} :
    K.wp m p (prog.bind f) post s es own rest ↔
      K.wp m p prog
        (fun value => K.wp m p (f value) post) s es own rest := by
  induction prog generalizing s es own rest with
  | ret value => rfl
  | read next ih => exact ih s
  | exec command next ih => simp only [Program.bind, wp, ih]
  | ask query next ih => simp only [Program.bind, wp, ih]
  | release query ready next ih => simp only [Program.bind, wp, ih]
  | call callee next ih => simp only [Program.bind, wp, ih]
  | spawn child next ih => simp only [Program.bind, wp, ih]
  | abort fault => rfl

theorem wp_get {f : S -> Program S C Q A P F α}
    {post : α -> S -> List E -> Multiset T -> Multiset T -> Prop}
    (h : K.wp m p (f s) post s es own rest) :
    K.wp m p (Program.get.bind f) post s es own rest := h

theorem wp_onlyIf {condition : Prop} [Decidable condition]
    {prog : Program S C Q A P F Unit}
    {post : Unit -> S -> List E -> Multiset T -> Multiset T -> Prop}
    (hholds : condition -> K.wp m p prog post s es own rest)
    (hfails : ¬ condition -> post () s es own rest) :
    K.wp m p (Program.onlyIf condition prog) post s es own rest := by
  unfold Program.onlyIf
  split
  · rename_i hcondition
    exact hholds hcondition
  · rename_i hcondition
    exact hfails hcondition

structure Harmless (K : Custody S C Q A P F E T) (m : Machine S C Q A P F) (p : P)
    (fp : Program.Footprint C P F) : Prop where
  commands : forall command s es held, fp.commands command -> K.inv s es held ->
    K.cond s es (.exec p command) ->
    (K.command p command s es ∧
      K.Spares held s es (m.apply command s) (K.note s (.exec p command) es)) ∧
      K.inv (m.apply command s) (K.note s (.exec p command) es) held
  answers : forall query answer s es held, K.inv s es held ->
    K.cond s es (.answer p query answer) ->
    (K.answer p query answer s es ∧
      K.Spares held s es s (K.note s (.answer p query answer) es)) ∧
      K.inv s (K.note s (.answer p query answer) es) held
  calls : forall callee s es held, fp.calls callee -> K.inv s es held ->
    K.cond s es (.call p callee) -> K.pre callee s es 0 held
  spawns : forall child, fp.spawns child -> K.Starts child

theorem wp_of_uses {prog : Program S C Q A P F α} {fp : Program.Footprint C P F}
    (huses : prog.Uses fp) (hharmless : Harmless K m p fp) (hinv : K.inv s es rest) :
    K.wp m p prog (fun _ s' es' own' rest' => own' = 0 ∧ K.inv s' es' rest')
      s es 0 rest := by
  induction prog generalizing s es rest with
  | ret value => exact ⟨rfl, hinv⟩
  | read next ih => exact ih s (huses s) hinv
  | exec command next ih =>
      intro hcond
      rcases hharmless.commands command s es rest huses.1 hinv hcond with ⟨hstep, hafter⟩
      exact ⟨hstep, 0, ih huses.2 hafter⟩
  | ask query next ih =>
      intro answer _ hcond
      rcases hharmless.answers query answer s es rest hinv hcond with ⟨hstep, hafter⟩
      exact ⟨hstep, 0, ih answer (huses answer) hafter⟩
  | release query ready next ih =>
      rw [wp, Multiset.zero_add]
      refine ⟨hinv, ?_⟩
      intro s' es' rest' answer hinv' _ _ _ _
      rw [Multiset.zero_add] at hinv'
      exact ih answer (huses.2 answer) hinv'
  | call callee next ih =>
      intro hcond
      refine ⟨0, 0, rfl, ?_, ?_⟩
      · rw [Multiset.zero_add]
        exact hharmless.calls callee s es rest huses.1 hinv hcond
      · intro s' es' rest' hinv' _
        rw [Multiset.zero_add] at hinv'
        exact ih huses.2 hinv'
  | spawn child next ih =>
      intro _
      exact ⟨hharmless.spawns child huses.1, ih huses.2 hinv⟩
  | abort fault => trivial

end Rules

/-!
## Soundness
-/

inductive CallersOk (s : S) (es : List E) :
    List (P × Program S C Q A P F Unit) -> Multiset T -> Prop where
  | nil : CallersOk s es [] 0
  | cons {caller : P} {next : Program S C Q A P F Unit}
      {callers : List (P × Program S C Q A P F Unit)} {kept others : Multiset T} :
      (forall s' es' rest, K.inv s' es' (kept + rest) -> K.Spares kept s es s' es' ->
        K.wp m caller next K.ended s' es' kept rest) ->
      CallersOk s es callers others ->
      CallersOk s es ((caller, next) :: callers) (kept + others)

inductive ParkedOk (s : S) (es : List E) :
    Parked S C Q A P F -> Multiset T -> Prop where
  | spawned {child : P} : K.Starts child -> ParkedOk s es (.spawned child) 0
  | released {p : P} {callers : List (P × Program S C Q A P F Unit)} {query : Q}
      {ready : S -> Bool} {next : A -> Program S C Q A P F Unit}
      {own others : Multiset T} :
      (forall s' es' rest answer, K.inv s' es' (own + rest) ->
        K.Spares own s es s' es' -> ready s' = true ->
        m.answers s' query answer = true -> K.cond s' es' (.resume p query answer) ->
        K.wp m p (next answer) K.ended s' es' own rest) ->
      CallersOk K m s es callers others ->
      ParkedOk s es (.released p callers query ready next) (own + others)

inductive AllParked (s : S) (es : List E) :
    List (Parked S C Q A P F) -> Multiset T -> Prop where
  | nil : AllParked s es [] 0
  | cons {t : Parked S C Q A P F} {parked : List (Parked S C Q A P F)}
      {tokens others : Multiset T} :
      ParkedOk K m s es t tokens -> AllParked s es parked others ->
      AllParked s es (t :: parked) (tokens + others)

/-- A configuration of a run, with what has been written down of it. -/
inductive Holds : Config S C Q A P F -> List E -> Prop where
  | free {s : S} {es : List E} {parked : List (Parked S C Q A P F)}
      {held : Multiset T} :
      K.inv s es held -> AllParked K m s es parked held ->
      Holds ⟨s, none, parked, none⟩ es
  | running {s : S} {es : List E} {p : P} {code : Program S C Q A P F Unit}
      {callers : List (P × Program S C Q A P F Unit)}
      {parked : List (Parked S C Q A P F)} {own kept held : Multiset T} :
      K.wp m p code K.ended s es own (kept + held) ->
      CallersOk K m s es callers kept -> AllParked K m s es parked held ->
      Holds ⟨s, some ⟨p, code, callers⟩, parked, none⟩ es
  | faulted {s : S} {es : List E} {parked : List (Parked S C Q A P F)} {fault : F} :
      Holds ⟨s, none, parked, some fault⟩ es

section Soundness

variable {K m} {s s' : S} {es es' : List E}

theorem CallersOk.later {callers : List (P × Program S C Q A P F Unit)}
    {kept : Multiset T} (h : CallersOk K m s es callers kept)
    (hspares : K.Spares kept s es s' es') : CallersOk K m s' es' callers kept := by
  induction h with
  | nil => exact .nil
  | cons hnext _ ih =>
      rcases spares_add.mp hspares with ⟨hown, hothers⟩
      refine .cons ?_ (ih hothers)
      intro s'' es'' rest hinv hlater
      exact hnext s'' es'' rest hinv (hown.trans hlater)

theorem ParkedOk.later {t : Parked S C Q A P F} {tokens : Multiset T}
    (h : ParkedOk K m s es t tokens) (hspares : K.Spares tokens s es s' es') :
    ParkedOk K m s' es' t tokens := by
  cases h with
  | spawned hstarts => exact .spawned hstarts
  | released hnext hcallers =>
      rcases spares_add.mp hspares with ⟨hown, hothers⟩
      refine .released ?_ (hcallers.later hothers)
      intro s'' es'' rest answer hinv hlater
      exact hnext s'' es'' rest answer hinv (hown.trans hlater)

theorem AllParked.later {parked : List (Parked S C Q A P F)} {held : Multiset T}
    (h : AllParked K m s es parked held) (hspares : K.Spares held s es s' es') :
    AllParked K m s' es' parked held := by
  induction h with
  | nil => exact .nil
  | cons ht _ ih =>
      rcases spares_add.mp hspares with ⟨hown, hothers⟩
      exact .cons (ht.later hown) (ih hothers)

theorem AllParked.append {parked : List (Parked S C Q A P F)} {held tokens : Multiset T}
    {t : Parked S C Q A P F} (h : AllParked K m s es parked held)
    (ht : ParkedOk K m s es t tokens) :
    AllParked K m s es (parked ++ [t]) (held + tokens) := by
  induction h with
  | nil =>
      rw [Multiset.zero_add, ← Multiset.add_zero tokens]
      exact .cons ht .nil
  | cons hother _ ih =>
      rw [Multiset.add_assoc]
      exact .cons hother ih

theorem AllParked.split {before after : List (Parked S C Q A P F)}
    {t : Parked S C Q A P F} {held : Multiset T}
    (h : AllParked K m s es (before ++ t :: after) held) :
    exists tokens others, held = tokens + others ∧ ParkedOk K m s es t tokens ∧
      AllParked K m s es (before ++ after) others := by
  induction before generalizing held with
  | nil =>
      cases h with
      | cons ht hafter => exact ⟨_, _, rfl, ht, hafter⟩
  | cons first before ih =>
      cases h with
      | @cons _ _ firstTokens _ hfirst hrest =>
          rcases ih hrest with ⟨tokens, others, rfl, ht, hothers⟩
          refine ⟨tokens, firstTokens + others, ?_, ht, .cons hfirst hothers⟩
          rw [← Multiset.add_assoc, ← Multiset.add_assoc,
            Multiset.add_comm firstTokens tokens]

theorem note_none {label : Label C Q A P F} (h : K.event s label = none) :
    K.note s label es = es := by
  rw [note, h]
  rfl

theorem mem_record {past : Past S C Q A P F} {e : E} (h : e ∈ K.record past) :
    exists s label, (s, label) ∈ past ∧ K.event s label = some e := by
  induction past with
  | nil => cases h
  | cons deed past ih =>
      rcases deed with ⟨s, label⟩
      rcases List.mem_append.mp h with hnew | hold
      · exact ⟨s, label, List.mem_cons_self, Option.mem_toList.mp hnew⟩
      · rcases ih hold with ⟨s', label', hmem, hevent⟩
        exact ⟨s', label', List.mem_cons_of_mem _ hmem, hevent⟩

theorem Holds.step {initial : S -> Prop} (hvalid : K.Valid m initial)
    {c c' : Config S C Q A P F} {label : Label C Q A P F} (h : K.Holds m c es)
    (hstep : Step m c label c') (hcond : K.cond c.state es label) :
    K.promise c.state es label ∧ K.Holds m c' (K.note c.state label es) := by
  cases hstep with
  | @start s parked p hentry =>
      cases h with
      | @free _ _ _ held hinv hparked =>
          have hbody := hvalid.body p s es 0 _ (hvalid.start p s es _ hentry hinv hcond)
          rw [← Multiset.zero_add held] at hbody
          exact ⟨trivial, .running hbody .nil hparked⟩
  | @wake s before after p =>
      cases h with
      | free hinv hparked =>
          rcases hparked.split with ⟨tokens, others, rfl, hthread, hothers⟩
          cases hthread with
          | spawned hstarts =>
              rw [Multiset.zero_add] at hinv
              have hbody := hvalid.body p s es 0 _ (hstarts s es others hinv hcond)
              rw [← Multiset.zero_add others] at hbody
              exact ⟨trivial, .running hbody .nil hothers⟩
  | @resume s before after p callers query ready next answer hready hanswer =>
      cases h with
      | free hinv hparked =>
          rcases hparked.split with ⟨tokens, others, rfl, hthread, hothers⟩
          cases hthread with
          | released hnext hcallers =>
              rw [Multiset.add_assoc] at hinv
              exact ⟨trivial, .running
                (hnext s es _ answer hinv spares_refl hready hanswer hcond)
                hcallers hothers⟩
  | read =>
      cases h with
      | running hcode hcallers hparked => exact ⟨trivial, .running hcode hcallers hparked⟩
  | exec =>
      cases h with
      | running hcode hcallers hparked =>
          rcases hcode hcond with ⟨⟨hpromise, hspares⟩, own', hnext⟩
          rcases spares_add.mp hspares with ⟨hkept, hheld⟩
          exact ⟨hpromise, .running hnext (hcallers.later hkept) (hparked.later hheld)⟩
  | answer hanswer =>
      cases h with
      | running hcode hcallers hparked =>
          rcases hcode _ hanswer hcond with ⟨⟨hpromise, hspares⟩, own', hnext⟩
          rcases spares_add.mp hspares with ⟨hkept, hheld⟩
          exact ⟨hpromise, .running hnext (hcallers.later hkept) (hparked.later hheld)⟩
  | release =>
      cases h with
      | @running _ _ _ _ _ _ own kept held hcode hcallers hparked =>
          refine ⟨trivial, .free ?_ (hparked.append (.released hcode.2 hcallers))⟩
          have hinv := hcode.1
          rwa [← Multiset.add_assoc, Multiset.add_comm] at hinv
  | @call s parked p callers callee next =>
      cases h with
      | @running _ _ _ _ _ _ own kept held hcode hcallers hparked =>
          rcases hcode hcond with ⟨given, kept', rfl, hpre, hnext⟩
          have hbody := hvalid.body callee s es given _ hpre
          rw [← Multiset.add_assoc] at hbody
          exact ⟨trivial, .running hbody (.cons hnext hcallers) hparked⟩
  | spawn =>
      cases h with
      | @running _ _ _ _ _ _ own kept held hcode hcallers hparked =>
          rcases hcode hcond with ⟨hstarts, hnext⟩
          refine ⟨trivial, .running hnext hcallers ?_⟩
          rw [← Multiset.add_zero held]
          exact hparked.append (.spawned hstarts)
  | «return» =>
      cases h with
      | running hcode hcallers hparked =>
          cases hcallers with
          | cons hnext hrest =>
              have hinv : K.inv _ es _ := hcode
              rw [Multiset.add_assoc] at hinv
              exact ⟨trivial, .running (hnext _ es _ hinv spares_refl) hrest hparked⟩
  | finish =>
      cases h with
      | running hcode hcallers hparked =>
          cases hcallers with
          | nil =>
              have hinv : K.inv _ es _ := hcode
              rw [Multiset.zero_add] at hinv
              exact ⟨trivial, .free hinv hparked⟩
  | abort => exact ⟨trivial, .faulted⟩

theorem traced_holds {initial : S -> Prop} (hvalid : K.Valid m initial)
    {past : Past S C Q A P F} {c : Config S C Q A P F} (h : Traced m initial past c)
    (hcond : K.Each K.cond past) :
    K.Each K.promise past ∧ K.Holds m c (K.record past) := by
  induction h with
  | initial hs => exact ⟨trivial, .free (hvalid.initial _ hs) .nil⟩
  | step _ hstep ih =>
      rcases ih hcond.2 with ⟨hpast, hholds⟩
      rcases hholds.step hvalid hstep hcond.1 with ⟨hpromise, hnext⟩
      exact ⟨⟨hpromise, hpast⟩, hnext⟩

theorem Holds.free_inv {c : Config S C Q A P F} (h : K.Holds m c es) (hfree : c.Free) :
    exists held, K.inv c.state es held := by
  cases h with
  | free hinv _ => exact ⟨_, hinv⟩
  | running => cases hfree.1
  | faulted => cases hfree.2

theorem Each.all {R : S -> List E -> Label C Q A P F -> Prop}
    {behind past : Past S C Q A P F} {label : Label C Q A P F}
    (h : K.Each R (behind ++ (s, label) :: past)) : R s (K.record past) label := by
  induction behind with
  | nil => exact h.1
  | cons deed behind ih => exact ih h.2

theorem Each.of_forall {R : S -> List E -> Label C Q A P F -> Prop}
    {past : Past S C Q A P F}
    (h : forall behind s label before, past = behind ++ (s, label) :: before ->
      R s (K.record before) label) : K.Each R past := by
  induction past with
  | nil => trivial
  | cons deed past ih =>
      refine ⟨h [] deed.1 deed.2 past rfl, ih ?_⟩
      intro behind s label before hsplit
      exact h (deed :: behind) s label before (by rw [hsplit]; rfl)

end Soundness

end Custody

end Monitor
