import DirectPlayLite.Lib.Monitor.Partial
import DirectPlayLite.Peer.Contracts

/-!
# Threads of the object followed to their end

What the actions of the object lead to, when the thread that runs them is followed:
the message handler is called with the lock released, a peer that is looked up is
there or the thread is lost, and packets are queued with the lock held.
-/

namespace DirectPlayLite

open Monitor Program

abbrev Around := Surroundings DirectPlay8Peer Proc

abbrev Deeds := Past DirectPlay8Peer Command Query Answer Proc Fault

/-- A step a thread has taken, with the state before it. -/
abbrev Deed := DirectPlay8Peer × StepLabel

/-- A procedure called in a state ends in a postcondition. -/
def Proc.EndsIn (E : Around) (proc : Proc) (s : DirectPlay8Peer)
    (post : DirectPlay8Peer -> Deeds -> Prop) : Prop :=
  Ends machine E post (.start machine proc s [])

theorem Proc.endsIn_iff {E : Around} {proc : Proc} {s : DirectPlay8Peer}
    {post : DirectPlay8Peer -> Deeds -> Prop} :
    proc.EndsIn E s post ↔
      leads machine E proc proc.body (fun _ => post) s [] :=
  ends_start

/-!
## What a thread has done
-/

namespace Deeds

def Never (test : Deed -> Prop) (past : Deeds) : Prop :=
  forall deed, deed ∈ past -> ¬ test deed

/-- Exactly one step of the thread passes the test. -/
def Once (test : Deed -> Prop) (past : Deeds) : Prop :=
  exists behind deed before, past = behind ++ deed :: before ∧ test deed ∧
    Never test behind ∧ Never test before

def returned (past : Deeds) : List (Method × HRESULT) :=
  past.filterMap fun deed =>
    match deed.2 with
    | .exec _ (.log (.returned method result)) => some (method, result)
    | _ => none

/-- The state in which the thread has last come back from a condition variable. -/
def woken (past : Deeds) : Option DirectPlay8Peer :=
  past.findSome? fun deed =>
    match deed.2 with
    | .resume _ .wait _ => some deed.1
    | _ => none

section Counting

variable {test : Deed -> Prop} {past : Deeds} {deed : Deed}

theorem never_nil : Never test [] := by
  intro deed hdeed
  cases hdeed

theorem Never.cons (hdeed : ¬ test deed) (h : Never test past) :
    Never test (deed :: past) := by
  intro other hother
  rcases List.mem_cons.mp hother with rfl | hbefore
  · exact hdeed
  · exact h other hbefore

theorem Never.once (hdeed : test deed) (h : Never test past) :
    Once test (deed :: past) :=
  ⟨[], deed, past, rfl, hdeed, never_nil, h⟩

theorem Once.cons (hdeed : ¬ test deed) (h : Once test past) :
    Once test (deed :: past) := by
  rcases h with ⟨behind, found, before, rfl, hfound, hbehind, hbefore⟩
  exact ⟨deed :: behind, found, before, rfl, hfound, hbehind.cons hdeed, hbefore⟩

theorem not_once_nil : ¬ Once test [] := by
  intro h
  rcases h with ⟨behind, deed, before, hnil, _⟩
  cases behind <;> cases hnil

end Counting

end Deeds

/-!
## Surroundings
-/

/-- No procedure is left aside, and the others do what a relation says. -/
def Around.ofOthers (others : DirectPlay8Peer -> DirectPlay8Peer -> Prop)
    (refl : forall s, others s s) : Around where
  others := others
  foreign := fun _ => False
  refl := refl

def Around.still : Around := Around.ofOthers Eq fun _ => rfl

theorem answers_some (s : DirectPlay8Peer) (q : Query) :
    exists answer, answers s q answer = true := by
  refine ⟨{}, ?_⟩
  cases q <;> simp [answers]

theorem Command.getElem?_peer (s : DirectPlay8Peer) (peerId other : UInt32)
    (change : PeerCommand) :
    ((Command.peer peerId change).apply s).peers[other]? =
      if peerId = other then (s.peers[peerId]?).map (change.apply s.nextAddr)
      else s.peers[other]? := by
  show (Command.applyPeer s peerId change).peers[other]? = _
  unfold Command.applyPeer
  cases hpeer : s.peers[peerId]? with
  | none =>
      by_cases hsame : peerId = other
      · subst hsame
        simp [hpeer]
      · simp [hsame]
  | some peer =>
      dsimp only
      rw [Std.ExtTreeMap.getElem?_insert]
      by_cases hsame : peerId = other
      · simp [hsame]
      · simp [hsame]

/-!
## Actions
-/

section Actions

variable {E : Around} {p : Proc} {α β : Type} {s : DirectPlay8Peer} {past : Deeds}

theorem leads_raise {notification : Notification} {f : Answer -> Action β}
    {post : β -> DirectPlay8Peer -> Deeds -> Prop} :
    leads machine E p (Action.raise notification >>= f) post s past ↔
      forall s' answer,
        E.others ((Command.log (.raised notification)).apply s) s' ->
        leads machine E p (f answer) post s'
          ((s', .resume p (.messageHandler notification) answer) ::
            (s, .exec p (.log (.raised notification))) :: past) := by
  constructor
  · intro h s' answer hothers
    exact h.2 s' answer hothers rfl rfl
  · intro h
    refine ⟨⟨_, {}, E.refl _, rfl, rfl⟩, ?_⟩
    intro s' answer hothers _ _
    exact h s' answer hothers

theorem leads_perform {command : Command} {f : Unit -> Action β}
    {post : β -> DirectPlay8Peer -> Deeds -> Prop} :
    leads machine E p (Action.perform command >>= f) post s past ↔
      leads machine E p (f ()) post (command.apply s)
        ((s, .exec p command) :: past) := Iff.rfl

theorem leads_get {f : DirectPlay8Peer -> Action β}
    {post : β -> DirectPlay8Peer -> Deeds -> Prop} :
    leads machine E p (Action.get >>= f) post s past ↔
      leads machine E p (f s) post s past := Iff.rfl

theorem leads_peerAt {peerId : UInt32} {missing : Fault} {f : Peer -> Action β}
    {post : β -> DirectPlay8Peer -> Deeds -> Prop} :
    leads machine E p (Action.peerAt peerId missing >>= f) post s past ↔
      exists peer, s.peers[peerId]? = some peer ∧
        leads machine E p (f peer) post s past := by
  rw [bind_eq, leads_bind, Action.peerAt, leads_get]
  cases hpeer : s.peers[peerId]? with
  | none =>
      constructor
      · intro h
        exact h.elim
      · intro h
        rcases h with ⟨_, hsome, _⟩
        cases hsome
  | some peer =>
      constructor
      · intro h
        exact ⟨peer, rfl, h⟩
      · intro h
        rcases h with ⟨_, hsome, hnext⟩
        cases hsome
        exact hnext

theorem leads_peerAt_some {peerId : UInt32} {missing : Fault} {peer : Peer}
    {f : Peer -> Action β} {post : β -> DirectPlay8Peer -> Deeds -> Prop}
    (hpeer : s.peers[peerId]? = some peer) :
    leads machine E p (Action.peerAt peerId missing >>= f) post s past ↔
      leads machine E p (f peer) post s past := by
  rw [leads_peerAt, hpeer]
  constructor
  · intro h
    rcases h with ⟨_, hsome, hnext⟩
    cases hsome
    exact hnext
  · intro h
    exact ⟨peer, rfl, h⟩

theorem leads_assertedPeer {peerId : UInt32} {peer : Peer} {f : Peer -> Action β}
    {post : β -> DirectPlay8Peer -> Deeds -> Prop}
    (hpeer : s.peers[peerId]? = some peer) :
    leads machine E p (Action.assertedPeer peerId >>= f) post s past ↔
      leads machine E p (f peer) post s past := by
  rw [bind_eq, leads_bind]
  have hlooked : leads machine E p (Action.assertedPeer peerId)
      (fun value => leads machine E p (f value) post) s past ↔
        leads machine E p (Action.peerAt peerId .nullDereference)
          (fun value => leads machine E p (f value) post) s past := by
    have hthere : s.peers[peerId]? ≠ none := by
      rw [hpeer]
      exact Option.some_ne_none peer
    show leads machine E p (Action.assertThat .peerNotNull
      (s.peers[peerId]? ≠ none) >>= fun _ =>
        Action.peerAt peerId .nullDereference) _ s past ↔ _
    rw [bind_eq, leads_bind, Action.assertThat, Action.onlyIf, if_neg (not_not.mpr hthere)]
    rfl
  rw [hlooked, ← leads_bind, ← bind_eq, leads_peerAt_some hpeer]

theorem leads_keeping {prog : Action α} {commands : Command -> Prop}
    {J : DirectPlay8Peer -> Deeds -> Prop} (huses : prog.Uses (Locked commands))
    (hexec : forall command s past, commands command -> J s past ->
      J (command.apply s) ((s, .exec p command) :: past))
    (hnoted : forall s past (label : StepLabel), label.IsQuiet -> J s past ->
      J s ((s, label) :: past))
    (h : J s past) :
    leads machine E p prog (fun _ => J) s past :=
  leads_locked huses answers_some hexec hnoted h

end Actions

/-!
## Actions that may not come to their end
-/

section Partial

variable {E : Around} {specs : Specs DirectPlay8Peer Command Query Answer Proc Fault}
  {p : Proc} {α β : Type} {s : DirectPlay8Peer} {past : Deeds}

theorem allows_perform {command : Command} {f : Unit -> Action β}
    {post : β -> DirectPlay8Peer -> Deeds -> Prop} :
    allows machine E specs p (Action.perform command >>= f) post s past ↔
      allows machine E specs p (f ()) post (command.apply s)
        ((s, .exec p command) :: past) := Iff.rfl

theorem allows_get {f : DirectPlay8Peer -> Action β}
    {post : β -> DirectPlay8Peer -> Deeds -> Prop} :
    allows machine E specs p (Action.get >>= f) post s past ↔
      allows machine E specs p (f s) post s past := Iff.rfl

theorem allows_query {query : Query} {f : Answer -> Action β}
    {post : β -> DirectPlay8Peer -> Deeds -> Prop}
    (h : forall answer, allows machine E specs p (f answer) post s
      ((s, .answer p query answer) :: past)) :
    allows machine E specs p (Action.query query >>= f) post s past :=
  fun answer _ => h answer

theorem allows_raise {notification : Notification} {f : Answer -> Action β}
    {post : β -> DirectPlay8Peer -> Deeds -> Prop}
    (h : forall s' answer,
      E.others ((Command.log (.raised notification)).apply s) s' ->
      allows machine E specs p (f answer) post s'
        ((s', .resume p (.messageHandler notification) answer) ::
          (s, .exec p (.log (.raised notification))) :: past)) :
    allows machine E specs p (Action.raise notification >>= f) post s past :=
  fun s' answer hothers _ _ => h s' answer hothers

theorem allows_invoke {callee : Proc} {f : Unit -> Action β}
    {post : β -> DirectPlay8Peer -> Deeds -> Prop} (hown : ¬ E.foreign callee)
    (h : forall s' past', specs callee s ((s, .call p callee) :: past) s' past' ->
      allows machine E specs p (f ()) post s' past') :
    allows machine E specs p (Action.invoke callee >>= f) post s past :=
  ⟨fun hforeign => absurd hforeign hown, fun _ => h⟩

theorem allows_peerAt {peerId : UInt32} {missing : Fault} {f : Peer -> Action β}
    {post : β -> DirectPlay8Peer -> Deeds -> Prop}
    (h : forall peer, s.peers[peerId]? = some peer ->
      allows machine E specs p (f peer) post s past) :
    allows machine E specs p (Action.peerAt peerId missing >>= f) post s past := by
  rw [bind_eq, allows_bind, Action.peerAt, allows_get]
  cases hpeer : s.peers[peerId]? with
  | none => trivial
  | some peer => exact h peer hpeer

theorem allows_assertThat (J : DirectPlay8Peer -> Deeds -> Prop) {assertion : Assertion}
    {condition : Prop} [Decidable condition] {f : Unit -> Action β}
    {post : β -> DirectPlay8Peer -> Deeds -> Prop} (h : J s past)
    (hnoted : J ((Command.log (.assertionFailed assertion)).apply s)
      ((s, .exec p (.log (.assertionFailed assertion))) :: past))
    (hnext : forall s' past', J s' past' ->
      allows machine E specs p (f ()) post s' past') :
    allows machine E specs p (Action.assertThat assertion condition >>= f) post
      s past := by
  rw [Action.assertThat, bind_eq, allows_bind]
  apply allows_onlyIf
  · intro _
    exact hnext _ _ hnoted
  · intro _
    exact hnext s past h

theorem allows_assertedPeer (J : DirectPlay8Peer -> Deeds -> Prop) {peerId : UInt32}
    {f : Peer -> Action β} {post : β -> DirectPlay8Peer -> Deeds -> Prop} (h : J s past)
    (hnoted : J ((Command.log (.assertionFailed .peerNotNull)).apply s)
      ((s, .exec p (.log (.assertionFailed .peerNotNull))) :: past))
    (hnext : forall s' past' peer, J s' past' -> s'.peers[peerId]? = some peer ->
      allows machine E specs p (f peer) post s' past') :
    allows machine E specs p (Action.assertedPeer peerId >>= f) post s past := by
  rw [bind_eq, allows_bind, Action.assertedPeer, allows_get]
  apply allows_assertThat J h hnoted
  intro s' past' h'
  rw [← allows_bind, ← bind_eq]
  apply allows_peerAt
  intro peer hpeer
  exact hnext s' past' peer h' hpeer

end Partial

/-!
## Calls that return
-/

theorem unspecified (E : Around) :
    Specified machine E fun _ _ _ _ _ => True :=
  fun _ _ _ _ => allows_trivial _ fun _ _ _ => trivial

def Run.calls (c : Run) (proc : Proc) (answer : Query -> Answer) :
    Option (View DirectPlay8Peer Command Query Answer Proc Fault) :=
  (View.start machine proc c.state []).final machine (fun _ => false) answer 200

theorem Run.calls_returns {c : Run} {proc : Proc} {answer : Query -> Answer}
    {v : View DirectPlay8Peer Command Query Answer Proc Fault}
    (h : c.calls proc answer = some v) :
    Returns machine Around.still proc c.state v.state v.past := by
  have haside : forall q : Proc, false = true ↔ Around.still.foreign q := by
    intro q
    constructor
    · intro hfalse
      cases hfalse
    · intro hforeign
      exact hforeign.elim
  rcases View.final_moves haside h with ⟨hmoves, hcode, hcallers⟩
  rcases v with ⟨s, past, proc', code, callers⟩
  cases hcode
  cases hcallers
  exact ⟨proc', hmoves⟩

end DirectPlayLite
