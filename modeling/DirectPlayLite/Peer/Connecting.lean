import DirectPlayLite.Peer.Contracts

/-!
# Connection attempts

`Connect` promises one `DPN_MSGID_CONNECT_COMPLETE` for every connection it
starts.  An observer reads the history for attempts, and an invariant ties what
it sees to the state of the object and to `connect_fail`, which gives up the lock
between failing an attempt and reporting it.
-/

namespace DirectPlayLite

open Monitor Program

/-!
## What is promised
-/

namespace Event

def completesConnect : Event -> Bool
  | raised (.connectComplete ..) => true
  | _ => false

@[simp] def reportsSuccess : Event -> Bool
  | raised (.connectComplete _ _ result _ _) => result == sOk
  | _ => false

/-- The next call of `Connect` starts connecting, or a call of `Close` ends. -/
def endsAttempt : Event -> Bool
  | entered .connectingToHost => true
  | returned .close _ => true
  | _ => false

end Event

/-- The events, earliest first, that still belong to an attempt. -/
def attemptEvents (events : List Event) : List Event :=
  events.takeWhile fun event => ! event.endsAttempt

/-- A result of `S_OK` comes behind `STATE_CONNECTED`. -/
def SucceedsConnected (events : List Event) : Prop :=
  forall event, event ∈ events.takeWhile (· != .entered .connected) ->
    event.reportsSuccess = false

/--
One `DPN_MSGID_CONNECT_COMPLETE` is raised before the next attempt or the end of
`Close`, never a second one, and one with `S_OK` only behind `STATE_CONNECTED`.
-/
def AttemptCompletes (events : List Event) : Prop :=
  (attemptEvents events).countP Event.completesConnect ≤ 1 ∧
    (events.any Event.endsAttempt = true ->
      (attemptEvents events).countP Event.completesConnect = 1) ∧
    SucceedsConnected (attemptEvents events)

/-- So it goes whenever `Connect` has started a connection. -/
def CompletesOnce : List Event -> Prop
  | [] => True
  | event :: rest =>
      (event = .connectStarted -> AttemptCompletes rest) ∧ CompletesOnce rest

instance {events : List Event} : Decidable (SucceedsConnected events) :=
  inferInstanceAs (Decidable (forall event,
    event ∈ events.takeWhile (· != .entered .connected) ->
      event.reportsSuccess = false))

instance {events : List Event} : Decidable (AttemptCompletes events) :=
  inferInstanceAs (Decidable
    ((attemptEvents events).countP Event.completesConnect ≤ 1 ∧
      (events.any Event.endsAttempt = true ->
        (attemptEvents events).countP Event.completesConnect = 1) ∧
      SucceedsConnected (attemptEvents events)))

instance decidableCompletesOnce : (events : List Event) ->
    Decidable (CompletesOnce events)
  | [] => .isTrue trivial
  | event :: rest =>
      have := decidableCompletesOnce rest
      inferInstanceAs (Decidable
        ((event = .connectStarted -> AttemptCompletes rest) ∧
          CompletesOnce rest))

/-!
## The observer
-/

/-- An attempt is open until its completion is reported. -/
inductive Attempt where
  | idle
  | open (started connected : Bool)
deriving Repr, DecidableEq

namespace Attempt

def observe : Event -> Attempt -> Option Attempt
  | .entered .connectingToHost, idle => some (.open false false)
  | .entered .connectingToHost, .open .. => none
  | .entered .connected, .open started _ => some (.open started true)
  | .connectStarted, .open false false => some (.open true false)
  | .connectStarted, _ => none
  | .raised (.connectComplete _ _ result _ _), .open _ connected =>
      if result = sOk ∧ connected = false then none else some idle
  | .raised (.connectComplete ..), idle => none
  | .returned .close _, .open .. => none
  | _, attempt => some attempt

def observeAll : List Event -> Attempt -> Option Attempt
  | [], attempt => some attempt
  | event :: rest, attempt => (observe event attempt).bind (observeAll rest)

theorem observeAll_append (before after : List Event) (attempt : Attempt) :
    observeAll (before ++ after) attempt =
      (observeAll before attempt).bind (observeAll after) := by
  induction before generalizing attempt with
  | nil => rfl
  | cons event rest ih =>
      rw [List.cons_append, observeAll, observeAll, Option.bind_assoc]
      congr
      funext next
      exact ih next

theorem observe_open {event : Event} {connected : Bool} {next : Attempt}
    (h : observe event (.open true connected) = some next) :
    event.endsAttempt = false ∧
      ((exists handle ctx result localId reply,
          event = .raised (.connectComplete handle ctx result localId reply) ∧
            (result = sOk -> connected = true) ∧ next = .idle) ∨
        (event = .entered .connected ∧ next = .open true true) ∨
        (event.completesConnect = false ∧ event ≠ .entered .connected ∧
          next = .open true connected)) := by
  cases event with
  | entered state =>
      cases state <;>
        simp_all [observe, Event.completesConnect, Event.endsAttempt]
  | raised notification =>
      cases notification <;>
        simp_all [observe, Event.completesConnect, Event.endsAttempt]
  | returned method result =>
      cases method <;>
        simp_all [observe, Event.completesConnect, Event.endsAttempt]
  | _ => simp_all [observe, Event.completesConnect, Event.endsAttempt]

theorem observe_idle {event : Event} {next : Attempt}
    (h : observe event .idle = some next) :
    event.completesConnect = false ∧
      (event.endsAttempt = true ∨ next = .idle) := by
  cases event with
  | entered state =>
      cases state <;>
        simp_all [observe, Event.completesConnect, Event.endsAttempt]
  | raised notification =>
      cases notification <;>
        simp_all [observe, Event.completesConnect, Event.endsAttempt]
  | returned method result =>
      cases method <;>
        simp_all [observe, Event.completesConnect, Event.endsAttempt]
  | _ => simp_all [observe, Event.completesConnect, Event.endsAttempt]

end Attempt

section Attempts

variable {event : Event} {events : List Event} {next : Attempt}

theorem attemptEvents_cons_of_ends (h : event.endsAttempt = true) :
    attemptEvents (event :: events) = [] := by
  simp [attemptEvents, h]

theorem attemptEvents_cons (h : event.endsAttempt = false) :
    attemptEvents (event :: events) = event :: attemptEvents events := by
  simp [attemptEvents, h]

theorem succeedsConnected_nil : SucceedsConnected [] := by
  intro event hevent
  cases hevent

theorem succeedsConnected_cons (hfails : event.reportsSuccess = false)
    (h : SucceedsConnected events) : SucceedsConnected (event :: events) := by
  intro other hother
  rw [List.takeWhile_cons] at hother
  split at hother
  · rcases List.mem_cons.mp hother with rfl | hrest
    · exact hfails
    · exact h other hrest
  · cases hother

theorem succeedsConnected_connected :
    SucceedsConnected (.entered .connected :: events) := by
  intro other hother
  simp at hother

theorem reportsSuccess_of_completes (h : event.completesConnect = false) :
    event.reportsSuccess = false := by
  cases event with
  | raised notification => cases notification <;> first | rfl | cases h
  | _ => rfl

theorem observeAll_idle (h : Attempt.observeAll events .idle = some next) :
    (attemptEvents events).countP Event.completesConnect = 0 ∧
      SucceedsConnected (attemptEvents events) := by
  induction events with
  | nil => exact ⟨rfl, succeedsConnected_nil⟩
  | cons event rest ih =>
      rcases Option.bind_eq_some_iff.mp h with ⟨attempt, hobserve, hrest⟩
      rcases Attempt.observe_idle hobserve with ⟨hcompletes, hends | rfl⟩
      · rw [attemptEvents_cons_of_ends hends]
        exact ⟨rfl, succeedsConnected_nil⟩
      · cases hends : event.endsAttempt with
        | true =>
            rw [attemptEvents_cons_of_ends hends]
            exact ⟨rfl, succeedsConnected_nil⟩
        | false =>
            rw [attemptEvents_cons hends]
            refine ⟨?_, succeedsConnected_cons
              (reportsSuccess_of_completes hcompletes) (ih hrest).2⟩
            rw [List.countP_cons_of_neg (by simp [hcompletes])]
            exact (ih hrest).1

theorem observeAll_open {connected : Bool}
    (h : Attempt.observeAll events (.open true connected) = some next) :
    (attemptEvents events).countP Event.completesConnect ≤ 1 ∧
      (events.any Event.endsAttempt = true ->
        (attemptEvents events).countP Event.completesConnect = 1) ∧
      (connected = false -> SucceedsConnected (attemptEvents events)) := by
  induction events generalizing connected with
  | nil => exact ⟨Nat.zero_le 1, by simp, fun _ => succeedsConnected_nil⟩
  | cons event rest ih =>
      rcases Option.bind_eq_some_iff.mp h with ⟨attempt, hobserve, hrest⟩
      rcases Attempt.observe_open hobserve with ⟨hends, hcases⟩
      rw [attemptEvents_cons hends, List.any_cons, hends, Bool.false_or]
      rcases hcases with ⟨_, _, result, _, _, rfl, hresult, rfl⟩ |
        ⟨rfl, rfl⟩ | ⟨hcompletes, hother, rfl⟩
      · have hrest := observeAll_idle hrest
        rw [List.countP_cons_of_pos rfl, hrest.1]
        refine ⟨Nat.le_refl 1, fun _ => rfl, ?_⟩
        intro hconnected
        refine succeedsConnected_cons ?_ hrest.2
        rw [Event.reportsSuccess, beq_eq_false_iff_ne]
        intro hok
        rw [hresult hok] at hconnected
        cases hconnected
      · have hrest := ih hrest
        rw [List.countP_cons_of_neg (by decide)]
        exact ⟨hrest.1, hrest.2.1, fun _ => succeedsConnected_connected⟩
      · have hrest := ih hrest
        rw [List.countP_cons_of_neg (by simp [hcompletes])]
        exact ⟨hrest.1, hrest.2.1, fun hconnected =>
          succeedsConnected_cons (reportsSuccess_of_completes hcompletes)
            (hrest.2.2 hconnected)⟩

theorem observeAll_completesOnce {attempt : Attempt}
    (h : Attempt.observeAll events attempt = some next) :
    CompletesOnce events := by
  induction events generalizing attempt with
  | nil => trivial
  | cons event rest ih =>
      rcases Option.bind_eq_some_iff.mp h with ⟨attempt', hobserve, hrest⟩
      refine ⟨?_, ih hrest⟩
      rintro rfl
      have hopen : attempt' = .open true false := by
        rcases attempt with _ | ⟨started, connected⟩
        · cases hobserve
        · cases started <;> cases connected <;> cases hobserve
          rfl
      subst hopen
      have hwindow := observeAll_open hrest
      exact ⟨hwindow.1, hwindow.2.1, hwindow.2.2 rfl⟩

end Attempts

/-!
## The invariant
-/

namespace DirectPlay8Peer

/-- The attempt the history leads to, unless it breaks the promise. -/
def attempt (s : DirectPlay8Peer) : Option Attempt :=
  Attempt.observeAll s.history.reverse .idle

/-- `Connect` has started connecting, and no completion has been reported. -/
def Attempting (s : DirectPlay8Peer) : Prop :=
  exists started connected, s.attempt = some (.open started connected)

/-- The states `connect_check` and `connect_fail` assert. -/
def Connecting (s : DirectPlay8Peer) : Prop :=
  s.state = .connectingToHost ∨ s.state = .connectingToPeers

end DirectPlay8Peer

/-- `connect_fail` is destroying the players. -/
@[simp] def Proc.isUnwinding (p : Proc) : Bool := p matches .connectUnwind ..

/--
While an attempt is open, only `connect_check`, `connect_fail` and
`handle_host_connect_ok` change the state, and these only in the states they
assert; `connect_fail` is called with a failure.
-/
def AttemptGuarded (s : DirectPlay8Peer) (_ : Multiset Proc) :
    StepLabel -> Prop
  | .exec (.connectFail ..) (.setState .connectFailed)
  | .exec .connectCheck (.setState _)
  | .exec (.handleHostConnectOk ..) (.setState _) => s.Connecting
  | .exec _ (.setState _) => ¬ s.Attempting
  | .call _ (.connectFail result _) => result ≠ sOk
  | _ => True

instance {s : DirectPlay8Peer} : Decidable s.Attempting :=
  inferInstanceAs (Decidable (exists started connected,
    s.attempt = some (.open started connected)))

instance {s : DirectPlay8Peer} : Decidable s.Connecting :=
  inferInstanceAs (Decidable (_ ∨ _))

instance {s : DirectPlay8Peer} {M : Multiset Proc} {label : StepLabel} :
    Decidable (AttemptGuarded s M label) := by
  unfold AttemptGuarded
  split <;> infer_instance

structure AttemptOk (s : DirectPlay8Peer) (M : Multiset Proc) : Prop where
  attempt :
    (s.attempt = some .idle ∧ ¬ s.Connecting) ∨
      exists started, s.attempt = some (.open started false) ∧
        (s.Connecting ∨ s.state = .connectFailed)
  unwinding :
    tokens Proc.isUnwinding M = 0 ∨
      (tokens Proc.isUnwinding M = 1 ∧ s.state = .connectFailed ∧
        s.attempt ≠ some .idle)

/-- A failed attempt is not reported as a success. -/
def Proc.Fails : Proc -> Prop
  | .connectFail result _ => result ≠ sOk
  | _ => True

def Proc.Unwound (s : DirectPlay8Peer) (M : Multiset Proc) : Proc -> Prop
  | .connectUnwind .. =>
      s.state = .connectFailed ∧
        (exists started, s.attempt = some (.open started false)) ∧
        tokens Proc.isUnwinding M = 0
  | _ => True

def attemptContract : Contract machine where
  cond := AttemptGuarded
  inv := AttemptOk
  free := fun _ => True
  guar := fun _ command s =>
    s.attempt ≠ none -> (command.apply s).attempt ≠ none
  rely := fun _ _ _ => True
  pre := fun p s M => AttemptOk s M ∧ p.Fails
  post := fun p _ s' M' => p.Unwound s' M'
  faults := fun _ => True
  rely_refl := fun _ _ => trivial
  rely_trans := fun _ _ _ _ _ _ => trivial

/-!
## Steps that leave attempts alone
-/

@[simp] def CommandKind.isQuiet (kind : CommandKind) : Bool :=
  kind != .state && kind != .connectStarted && kind != .connectComplete &&
    kind != .closeReturned

section Quiet

variable {s s' : DirectPlay8Peer} {M : Multiset Proc} {command : Command}
  {event : Event} {p : Proc}

theorem attempt_log (h : s'.history = event :: s.history) :
    s'.attempt = s.attempt.bind (Attempt.observe event) := by
  unfold DirectPlay8Peer.attempt
  rw [h, List.reverse_cons, Attempt.observeAll_append]
  congr
  funext attempt
  simp [Attempt.observeAll]

theorem observe_quiet (h : event.kind.isQuiet = true) (attempt : Attempt) :
    Attempt.observe event attempt = some attempt := by
  cases event with
  | entered state => cases h
  | raised notification => cases notification <;> first | rfl | cases h
  | returned method result => cases method <;> first | rfl | cases h
  | connectStarted => cases h
  | _ => rfl

theorem attempt_quiet (events : List Event)
    (h : forall event, event ∈ events -> event.kind.isQuiet = true)
    (hhistory : s'.history = events ++ s.history) : s'.attempt = s.attempt := by
  induction events generalizing s' with
  | nil =>
      rw [DirectPlay8Peer.attempt, hhistory]
      rfl
  | cons event rest ih =>
      have hlog : s'.attempt = (DirectPlay8Peer.attempt
          { s with history := rest ++ s.history }).bind
            (Attempt.observe event) := attempt_log hhistory
      rw [hlog, ih (fun other hother => h other (by simp [hother])) rfl]
      rw [funext (observe_quiet (h event (by simp)))]
      simp

theorem Command.apply_attempt (h : command.kind.isQuiet = true) :
    (command.apply s).attempt = s.attempt := by
  by_cases hlog : exists event, command = .log event
  · rcases hlog with ⟨event, rfl⟩
    exact attempt_quiet [event] (by simpa using h) rfl
  · have hstate : command.kind ≠ .state := by
      intro hkind
      rw [hkind] at h
      cases h
    rcases Command.apply_history (s := s) hstate (by simpa using hlog) with
      ⟨records, hhistory, hrecords⟩
    refine attempt_quiet records ?_ hhistory
    intro event hevent
    have hrecord := hrecords event hevent
    cases event <;> first
      | rfl
      | cases hrecord

theorem AttemptOk.congr (h : AttemptOk s M) (hstate : s'.state = s.state)
    (hattempt : s'.attempt = s.attempt) : AttemptOk s' M where
  attempt := by
    rw [hattempt, hstate, DirectPlay8Peer.Connecting, hstate]
    exact h.attempt
  unwinding := by
    rw [hattempt, hstate]
    exact h.unwinding

theorem AttemptOk.quiet (h : AttemptOk s M)
    (hquiet : command.kind.isQuiet = true) : AttemptOk (command.apply s) M := by
  refine h.congr (Command.apply_state ?_) (Command.apply_attempt hquiet)
  intro hkind
  rw [hkind] at hquiet
  cases hquiet

theorem AttemptOk.cons (h : AttemptOk s M) (hp : p.isUnwinding = false) :
    AttemptOk s (p ::ₘ M) where
  attempt := h.attempt
  unwinding := by
    rw [tokens_cons_of_false hp]
    exact h.unwinding

theorem AttemptOk.erase (h : AttemptOk s M) (hp : p.isUnwinding = false) :
    AttemptOk s (M.erase p) where
  attempt := h.attempt
  unwinding := by
    rw [tokens_erase_of_false hp]
    exact h.unwinding

theorem AttemptOk.idle (h : AttemptOk s M) (hnone : ¬ s.Attempting) :
    s.attempt = some .idle ∧ tokens Proc.isUnwinding M = 0 := by
  have hidle : s.attempt = some .idle := by
    rcases h.attempt with ⟨hidle, _⟩ | ⟨started, hopen, _⟩
    · exact hidle
    · exact absurd ⟨started, false, hopen⟩ hnone
  rcases h.unwinding with htokens | ⟨_, _, hopen⟩
  · exact ⟨hidle, htokens⟩
  · exact absurd hidle hopen

theorem AttemptOk.assign (h : AttemptOk s M) (state : State)
    (hnone : ¬ s.Attempting) (hhost : state ≠ .connectingToHost)
    (hpeers : state ≠ .connectingToPeers) :
    AttemptOk ((Command.setState state).apply s) M := by
  rcases h.idle hnone with ⟨hidle, htokens⟩
  refine ⟨Or.inl ⟨?_, ?_⟩, Or.inl htokens⟩
  · rw [attempt_log (s := s) rfl, hidle]
    cases state <;> first
      | rfl
      | exact absurd rfl hhost
  · rintro (hconnecting | hconnecting)
    · exact hhost hconnecting
    · exact hpeers hconnecting

theorem AttemptOk.connecting (h : AttemptOk s M) (hs : s.Connecting) :
    (exists started, s.attempt = some (.open started false)) ∧
      tokens Proc.isUnwinding M = 0 := by
  constructor
  · rcases h.attempt with ⟨_, hnot⟩ | ⟨started, hopen, _⟩
    · exact absurd hs hnot
    · exact ⟨started, hopen⟩
  · rcases h.unwinding with hnone | ⟨_, hfailed, _⟩
    · exact hnone
    · rcases hs with hs | hs
      · rw [hs] at hfailed
        cases hfailed
      · rw [hs] at hfailed
        cases hfailed

end Quiet

/-!
## Procedures
-/

abbrev withoutAttempts : Footprint Command Proc Fault :=
  .within (fun command => command.kind.isQuiet = true)
    (fun callee => callee.isUnwinding = false)
    fun child => child.isDetached = true

def Proc.endsAttempts : Proc -> Bool
  | .connect .. | .connectFail .. | .connectCheck | .close .. | .closing .. =>
      true
  | _ => false

section Rules

variable {p : Proc} {callers : List Proc} {s s' : DirectPlay8Peer}
  {M : Multiset Proc} {α : Type}

abbrev AttemptsKept (p : Proc) (callers : List Proc) (prog : Action α)
    (s : DirectPlay8Peer) (M : Multiset Proc) : Prop :=
  attemptContract.wp p callers prog
    (fun _ s' M' => (p :: callers : Multiset Proc) ≤ M' ∧ AttemptOk s' M') s M

theorem attempts_agree {command : Command} {attempt : Attempt}
    (h : (command.apply s).attempt = some attempt) :
    attemptContract.Agrees p command M s := by
  refine ⟨fun _ => ?_, fun _ _ => trivial⟩
  rw [h]
  simp

theorem AttemptOk.agrees {command : Command} {M' : Multiset Proc}
    (h : AttemptOk (command.apply s) M') :
    attemptContract.Agrees p command M s := by
  rcases h.attempt with ⟨hidle, _⟩ | ⟨started, hopen, _⟩
  · exact attempts_agree hidle
  · exact attempts_agree hopen

theorem attempts_called {callee : Proc} (hcall : callee.isUnwinding = false)
    (h : AttemptOk s M) (hcond : AttemptGuarded s M (.call p callee)) :
    AttemptOk s (callee ::ₘ M) ∧ callee.Fails := by
  refine ⟨h.cons hcall, ?_⟩
  cases callee <;> trivial

theorem attempts_spawned {child : Proc} (hspawn : child.isDetached = true)
    (h : AttemptOk s M) :
    attemptContract.Wakes child s ∧ AttemptOk s (child ::ₘ M) := by
  have hchild : child.isUnwinding = false ∧ child.Fails := by
    cases child <;> first
      | exact ⟨rfl, trivial⟩
      | cases hspawn
  refine ⟨?_, h.cons hchild.1⟩
  intro s' M' _ hinv' _ _ _
  exact ⟨hinv', hchild.2⟩

theorem attempts_rest {prog : Action α} (huses : prog.Uses withoutAttempts)
    (hown : (p :: callers : Multiset Proc) ≤ M) (h : AttemptOk s M) :
    AttemptsKept p callers prog s M := by
  refine Contract.wp_of_uses huses (fun _ _ _ h => ⟨h, trivial⟩)
    (fun _ _ h _ => h) ?_ ?_ ?_ (fun _ _ => trivial) hown h
  · intro command s M hquiet _ hinv _
    have h' := AttemptOk.quiet hinv hquiet
    exact ⟨h'.agrees, h'⟩
  · intro callee s M hcall hinv hcond
    exact ⟨attempts_called hcall hinv hcond, fun _ _ h _ => h⟩
  · intro child s M hspawn hinv _
    exact attempts_spawned hspawn hinv

theorem attempts_before {prog : Action α} {f : α -> Action Unit}
    {post : Unit -> DirectPlay8Peer -> Multiset Proc -> Prop}
    (huses : prog.Uses withoutAttempts) (hown : (p :: callers : Multiset Proc) ≤ M)
    (h : AttemptOk s M)
    (hnext : forall value s' M', (p :: callers : Multiset Proc) ≤ M' ->
      AttemptOk s' M' -> attemptContract.wp p callers (f value) post s' M') :
    attemptContract.wp p callers (prog >>= f) post s M := by
  rw [bind_eq, Contract.wp_bind]
  refine Contract.wp_mono (attempts_rest huses hown h) ?_
  intro value s' M' h'
  exact hnext value s' M' h'.1 h'.2

theorem attempts_kept {prog : Action α} {f : α -> Action Unit}
    {post : Unit -> DirectPlay8Peer -> Multiset Proc -> Prop}
    (huses : prog.Uses (Kept fun command => command.kind.isQuiet = true))
    (h : forall value s', s'.state = s.state -> s'.attempt = s.attempt ->
      attemptContract.wp p callers (f value) post s' M) :
    attemptContract.wp p callers (prog >>= f) post s M := by
  rw [bind_eq, Contract.wp_bind]
  refine Contract.wp_mono (wp_kept huses (fun _ => trivial)
    (I := fun s' => s'.state = s.state ∧ s'.attempt = s.attempt) ?_ ⟨rfl, rfl⟩)
    ?_
  · intro command s' hquiet hsame _
    have hstate : (command.apply s').state = s'.state := by
      apply Command.apply_state
      intro hkind
      rw [hkind] at hquiet
      cases hquiet
    have hattempt : (command.apply s').attempt = s'.attempt :=
      Command.apply_attempt hquiet
    refine ⟨⟨fun hsome => ?_, fun _ _ => trivial⟩, hstate.trans hsame.1,
      hattempt.trans hsame.2⟩
    rwa [← hattempt] at hsome
  · rintro value s' M' ⟨rfl, hstate, hattempt⟩
    exact h value s' hstate hattempt

theorem attempts_complete {handle : DPNHANDLE} {ctx : Context}
    {result : HRESULT} {localId : DPNID} {reply : List UInt8}
    {f : Answer -> Action Unit}
    {post : Unit -> DirectPlay8Peer -> Multiset Proc -> Prop}
    {started connected : Bool}
    (hopen : s.attempt = some (.open started connected))
    (hresult : result = sOk -> connected = true) (hnot : ¬ s.Connecting)
    (hunwinding : tokens Proc.isUnwinding M = 0)
    (hnext : forall s' M' answer, (p :: callers : Multiset Proc) ≤ M' ->
      AttemptOk s' M' -> attemptContract.wp p callers (f answer) post s' M') :
    attemptContract.wp p callers
      (Action.raise (.connectComplete handle ctx result localId reply) >>= f)
      post s M := by
  intro _
  have hidle : ((Command.log (.raised
      (.connectComplete handle ctx result localId reply))).apply s).attempt =
        some .idle := by
    rw [attempt_log (s := s) rfl, hopen, Option.bind_some, Attempt.observe,
      if_neg]
    rintro ⟨hok, hfalse⟩
    rw [hresult hok] at hfalse
    cases hfalse
  refine ⟨attempts_agree hidle,
    ⟨⟨Or.inl ⟨hidle, hnot⟩, Or.inl hunwinding⟩, trivial⟩, ?_⟩
  intro s' M' answer hown hinv _ _ _ _ _
  exact hnext s' M' answer hown hinv

end Rules

section Procedures

variable {callers : List Proc} {s : DirectPlay8Peer} {M : Multiset Proc}

theorem connectTo_attempts {args : ConnectArgs} {address : SockAddr}
    (hown : (.connect args :: callers : Multiset Proc) ≤ M)
    (h : AttemptOk s M) :
    AttemptsKept (.connect args) callers (Action.connectTo args address) s
      M := by
  apply attempts_before (by simp) hown h
  intro counter s₁ M₁ hown₁ h₁
  apply attempts_before (Action.uses_createAutoSockets (by simp) (by simp))
    hown₁ h₁
  intro _ s₂ M₂ hown₂ h₂
  apply Contract.wp_get
  split
  · exact attempts_rest (by simp) hown₂ h₂
  apply attempts_before (Uses.onlyIf fun _ => by simp) hown₂ h₂
  intro _ s₃ M₃ hown₃ h₃
  apply attempts_before (by simp) hown₃ h₃
  intro _ s₄ M₄ hown₄ h₄ hcond
  -- the attempt is open, its connection has still to be started
  rcases h₄.idle hcond with ⟨hidle, hnone⟩
  have hopened : ((Command.setState .connectingToHost).apply s₄).attempt =
      some (.open false false) := by
    rw [attempt_log (s := s₄) rfl, hidle]
    rfl
  refine ⟨attempts_agree hopened, ?_⟩
  apply attempts_kept (Action.uses_peerConnect (by simp) (by simp) (by simp))
  intro started s₅ hs₅ hattempt₅
  have hconnecting : s₅.state = .connectingToHost := hs₅
  have h₅ : AttemptOk s₅ M₄ :=
    ⟨Or.inr ⟨false, hattempt₅.trans hopened, Or.inl (Or.inl hconnecting)⟩,
      Or.inl hnone⟩
  split
  · refine attempts_rest ?_ hown₄ h₅
    unfold Action.closeMainSocket
    repeat' with_reducible first
      | apply Action.uses_bind
      | intro _
    all_goals simp
  · intro _
    have hstarted : ((Command.log .connectStarted).apply s₅).attempt =
        some (.open true false) := by
      rw [attempt_log (s := s₅) rfl, hattempt₅.trans hopened]
      rfl
    refine ⟨attempts_agree hstarted, ?_⟩
    refine attempts_rest ?_ hown₄
      ⟨Or.inr ⟨true, hstarted, Or.inl (Or.inl hconnecting)⟩, Or.inl hnone⟩
    · repeat' with_reducible first
        | apply Action.uses_selectMainSockets
        | apply Action.uses_bind
        | apply Uses.bind
        | intro _
        | split
      all_goals simp

theorem connect_attempts {args : ConnectArgs}
    (hown : (.connect args :: callers : Multiset Proc) ≤ M)
    (h : AttemptOk s M) :
    AttemptsKept (.connect args) callers (Action.connect args) s M := by
  apply Contract.wp_get
  split
  case h_6 | h_7 | h_8 | h_9 =>
    apply attempts_before (by simp) hown h
    intro _ s₁ M₁ hown₁ h₁
    apply attempts_before (by simp) hown₁ h₁
    intro _ s₂ M₂ hown₂ h₂
    apply attempts_before (by simp) hown₂ h₂
    intro _ s₃ M₃ hown₃ h₃
    apply attempts_before (by simp) hown₃ h₃
    intro _ s₄ M₄ hown₄ h₄
    split
    · exact attempts_rest (by simp) hown₄ h₄
    · exact connectTo_attempts hown₄ h₄
  all_goals exact attempts_rest (by simp) hown h

theorem connectUnwind_attempts {toPeers : Bool}
    (hown : (.connectUnwind toPeers :: callers : Multiset Proc) ≤ M)
    (h : AttemptOk s M) :
    attemptContract.wp (.connectUnwind toPeers) callers
      (Action.connectUnwind toPeers)
      (fun _ s' M' => AttemptOk s' (M'.erase (.connectUnwind toPeers)) ∧
        Proc.Unwound s' (M'.erase (.connectUnwind toPeers))
          (.connectUnwind toPeers)) s M := by
  have hrest : AttemptsKept (.connectUnwind toPeers) callers
      (Action.connectUnwind toPeers) s M := by
    apply attempts_rest _ hown h
    apply Action.uses_bind (by simp)
    intro _
    exact Uses.onlyIf fun _ => Action.uses_dispatchDestroyLocalPlayer (by simp)
  refine Contract.wp_mono hrest ?_
  rintro _ s' M' ⟨hown', h'⟩
  have hmem : Proc.connectUnwind toPeers ∈ M' :=
    Multiset.mem_of_le hown' (by simp)
  have hpos : 0 < tokens Proc.isUnwinding M' := tokens_pos hmem rfl
  have herase : tokens Proc.isUnwinding (M'.erase (.connectUnwind toPeers)) + 1
      = tokens Proc.isUnwinding M' := tokens_erase_of_true hmem rfl
  rcases h'.unwinding with hnone | ⟨hone, hfailed, hopen⟩
  · omega
  have hnone : tokens Proc.isUnwinding
      (M'.erase (.connectUnwind toPeers)) = 0 := by omega
  refine ⟨⟨h'.attempt, Or.inl hnone⟩, hfailed, ?_, hnone⟩
  rcases h'.attempt with ⟨hidle, _⟩ | ⟨started, hopened, _⟩
  · exact absurd hidle hopen
  · exact ⟨started, hopened⟩

theorem connectFail_attempts {result : HRESULT} {reply : List UInt8}
    (h : AttemptOk s M) (hresult : result ≠ sOk) :
    AttemptsKept (.connectFail result reply) callers
      (Action.connectFail result reply) s M := by
  apply Contract.wp_get
  apply attempts_kept (Action.uses_assertThat (by simp))
  intro _ s₁ hs₁ hattempt₁ hcond
  have h₁ : AttemptOk s₁ M := h.congr hs₁ hattempt₁
  rcases h₁.connecting hcond with ⟨⟨started, hopen⟩, hnone⟩
  have hfailed : ((Command.setState .connectFailed).apply s₁).attempt =
      some (.open started false) := by
    rw [attempt_log (s := s₁) rfl, hopen]
    rfl
  refine ⟨attempts_agree hfailed, ?_⟩
  apply attempts_kept (Action.uses_closeMainSockets (by simp))
  intro _ s₂ hs₂ hattempt₂ _
  have hattempt : s₂.attempt = some (.open started false) :=
    hattempt₂.trans hfailed
  refine ⟨⟨⟨Or.inr ⟨started, hattempt, Or.inr hs₂⟩, Or.inr ⟨?_, hs₂, ?_⟩⟩,
    trivial⟩, ?_⟩
  · rw [tokens_cons_of_true rfl, hnone]
  · rw [hattempt]
    simp
  -- the players are destroyed, the attempt is the same
  rintro s₃ M₃ hown₃ h₃ _ ⟨hfailed₃, ⟨started₃, hopen₃⟩, hnone₃⟩
  apply Contract.wp_get
  refine attempts_complete hopen₃ (absurd · hresult) ?_ hnone₃ ?_
  · rintro (hconnecting | hconnecting)
    · cases hfailed₃.symm.trans hconnecting
    · cases hfailed₃.symm.trans hconnecting
  intro s₄ M₄ _ hown₄ h₄
  apply attempts_before (by simp) hown₄ h₄
  intro _ s₅ M₅ hown₅ h₅ hcond
  have h₆ := h₅.assign .initialised hcond (by simp) (by simp)
  exact ⟨h₆.agrees, hown₅, h₆⟩

theorem connectCheck_attempts
    (hown : (.connectCheck :: callers : Multiset Proc) ≤ M)
    (h : AttemptOk s M) :
    AttemptsKept .connectCheck callers Action.connectCheck s M := by
  apply Contract.wp_get
  apply attempts_kept (Action.uses_assertThat (by simp))
  intro _ s₁ hs₁ hattempt₁
  have h₁ : AttemptOk s₁ M := h.congr hs₁ hattempt₁
  split
  · exact attempts_rest (by simp) hown h₁
  intro hcond
  rcases h₁.connecting hcond with ⟨⟨started, hopen⟩, hnone⟩
  have hconnected : ((Command.setState .connected).apply s₁).attempt =
      some (.open started true) := by
    rw [attempt_log (s := s₁) rfl, hopen]
    rfl
  refine ⟨attempts_agree hconnected, ?_⟩
  refine attempts_complete hconnected (fun _ => rfl) ?_ hnone ?_
  · rintro (hconnecting | hconnecting) <;> cases hconnecting
  intro s₂ M₂ _ hown₂ h₂
  exact attempts_rest (by simp) hown₂ h₂

theorem AttemptOk.close (h : AttemptOk s M) (result : HRESULT)
    (hs : s.state = .new ∨ s.state = .closing) :
    AttemptOk ((Command.log (.returned .close result)).apply s) M := by
  have hidle : s.attempt = some .idle := by
    rcases h.attempt with ⟨hidle, _⟩ | ⟨started, _, (hhost | hpeers) | hfailed⟩
    · exact hidle
    all_goals simp_all
  refine h.congr rfl ?_
  rw [attempt_log (s := s) rfl, hidle]
  rfl

theorem close_attempts {flags : DWORD}
    (hown : (.close flags :: callers : Multiset Proc) ≤ M)
    (h : AttemptOk s M) :
    AttemptsKept (.close flags) callers (Action.close flags) s M := by
  apply Contract.wp_get
  split
  · rename_i hnew
    intro _
    have h₁ := h.close dpnErrUninitialized (Or.inl hnew)
    exact ⟨h₁.agrees, hown, h₁⟩
  split
  · rename_i hclosing
    intro _
    have h₁ := h.close dpnErrAlreadyClosing (Or.inr hclosing)
    exact ⟨h₁.agrees, hown, h₁⟩
  apply attempts_before (Action.uses_closeMainSockets (by simp)) hown h
  intro _ s₁ M₁ hown₁ h₁
  apply attempts_before (Uses.onlyIf fun _ => by simp) hown₁ h₁
  intro _ s₂ M₂ hown₂ h₂ hcond
  have h₃ := h₂.assign .closing hcond (by simp) (by simp)
  exact ⟨h₃.agrees, attempts_rest (by simp) hown₂ h₃⟩

theorem closing_attempts {flags : DWORD} {wasHosting wasConnected : Bool}
    (hown : (.closing flags wasHosting wasConnected :: callers :
      Multiset Proc) ≤ M) (h : AttemptOk s M) :
    AttemptsKept (.closing flags wasHosting wasConnected) callers
      (Action.closing flags wasHosting wasConnected) s M := by
  apply attempts_before
    (Uses.onlyIf fun _ => Action.uses_dispatchDestroyLocalPlayer (by simp))
    hown h
  intro _ s₁ M₁ hown₁ h₁
  apply attempts_before (Action.uses_closePeers (by simp) (by simp) (by simp))
    hown₁ h₁
  intro _ s₂ M₂ hown₂ h₂
  apply attempts_before
    (Uses.onlyIf fun _ => Action.uses_dispatchDestroyLocalPlayer (by simp))
    hown₂ h₂
  intro _ s₃ M₃ hown₃ h₃
  apply attempts_before (by simp) hown₃ h₃
  intro _ s₄ M₄ hown₄ h₄
  apply attempts_before (by simp) hown₄ h₄
  intro _ s₅ M₅ hown₅ h₅
  apply attempts_before (by simp) hown₅ h₅
  intro _ s₆ M₆ hown₆ h₆
  apply attempts_before (by simp) hown₆ h₆
  intro _ s₇ M₇ hown₇ h₇
  apply attempts_before (by simp) hown₇ h₇
  intro _ s₈ M₈ hown₈ h₈ hcond
  have hnew := h₈.assign .new hcond (by simp) (by simp)
  refine ⟨hnew.agrees, ?_⟩
  intro _
  have hended := hnew.close sOk (Or.inl rfl)
  exact ⟨hended.agrees, hown₈, hended⟩

theorem Proc.quiet_or_state {p : Proc} {kind : CommandKind}
    (hp : p.endsAttempts = false) (h : kind ∈ p.kinds) :
    kind.isQuiet = true ∨ kind = .state := by
  revert hp kind
  cases p <;> simp [Proc.endsAttempts]

theorem AttemptOk.command {p : Proc} {command : Command}
    (h : AttemptOk s M) (hp : p.endsAttempts = false)
    (hcommand : command.kind ∈ p.kinds ∧ p.Fits command)
    (hcond : AttemptGuarded s M (.exec p command)) :
    AttemptOk (command.apply s) M := by
  by_cases hquiet : command.kind.isQuiet = true
  · exact h.quiet hquiet
  have hkind := (Proc.quiet_or_state hp hcommand.1).resolve_left hquiet
  rcases Command.kind_eq_state hkind with ⟨state, rfl | rfl⟩
  · have hassigns : state ∈ p.assigns := hcommand.2
    by_cases hpeers : state = .connectingToPeers
    · subst hpeers
      have hs : s.Connecting := by
        cases p <;> first
          | exact hcond
          | simp at hassigns
      rcases h.connecting hs with ⟨⟨started, hopen⟩, hnone⟩
      refine ⟨Or.inr ⟨started, ?_, Or.inl (Or.inr rfl)⟩, Or.inl hnone⟩
      rw [attempt_log (s := s) rfl, hopen]
      rfl
    · refine h.assign state ?_ ?_ hpeers
      · cases p <;> first
          | exact hcond
          | simp at hassigns hpeers; contradiction
      · rintro rfl
        cases p <;> first
          | (simp at hassigns; done)
          | cases hp
  · exact absurd hcommand.2 (by simp)

theorem Proc.callees_unwinding {p : Proc} {toPeers : Bool}
    (h : p.callees (.connectUnwind toPeers) = true) :
    exists result reply, p = .connectFail result reply := by
  cases p <;> first
    | exact ⟨_, _, rfl⟩
    | cases h

theorem attempts_body {p : Proc}
    (hown : (p :: callers : Multiset Proc) ≤ M) (h : AttemptOk s M)
    (hfails : p.Fails) :
    attemptContract.wp p callers p.body
      (fun _ s' M' => AttemptOk s' (M'.erase p) ∧ p.Unwound s' (M'.erase p)) s
      M := by
  by_cases hunwinding : p.isUnwinding = true
  · cases p <;> try cases hunwinding
    exact connectUnwind_attempts hown h
  rw [Bool.not_eq_true] at hunwinding
  have hkept : AttemptsKept p callers p.body s M := by
    cases hp : p.endsAttempts with
    | true =>
        cases p <;> try cases hp
        · exact connect_attempts hown h
        · exact close_attempts hown h
        · exact closing_attempts hown h
        · exact connectCheck_attempts hown h
        · exact connectFail_attempts h hfails
    | false =>
        refine Contract.wp_of_uses p.body_uses (fun _ _ _ h => ⟨h, trivial⟩)
          (fun _ _ h _ => h) ?_ ?_ ?_ (fun _ _ => trivial) hown h
        · intro command s M hcommand _ hinv hcond
          have h' := AttemptOk.command hinv hp hcommand hcond
          exact ⟨h'.agrees, h'⟩
        · intro callee s M hcall hinv hcond
          refine ⟨attempts_called ?_ hinv hcond, fun _ _ h _ => h⟩
          cases hcallee : callee.isUnwinding with
          | false => rfl
          | true =>
              cases callee <;> try cases hcallee
              rcases Proc.callees_unwinding hcall.1 with ⟨_, _, rfl⟩
              cases hp
        · intro child s M hspawn hinv _
          exact attempts_spawned hspawn hinv
  refine Contract.wp_mono hkept ?_
  rintro _ s' M' ⟨_, h'⟩
  refine ⟨h'.erase hunwinding, ?_⟩
  cases p <;> trivial

end Procedures

theorem attemptContract_valid :
    attemptContract.Valid DirectPlay8Peer.Constructed where
  initial := by
    intro s hs
    refine ⟨⟨Or.inl ⟨?_, ?_⟩, Or.inl rfl⟩, trivial⟩
    · rw [DirectPlay8Peer.attempt, hs.history]
      rfl
    · simp [DirectPlay8Peer.Connecting, hs.state]
  start := by
    intro p s M hentry hinv _ _
    have hunwinding : p.isUnwinding = false := by
      cases p <;> first
        | rfl
        | cases hentry
    refine ⟨AttemptOk.cons hinv hunwinding, ?_⟩
    cases p <;> trivial
  body := fun _ _ _ _ hown hpre =>
    Contract.wp_mono (attempts_body hown hpre.1 hpre.2)
      fun _ _ _ h => ⟨h, fun _ _ => trivial⟩

/-!
## Runs
-/

/-- Every connection that was started is completed once, in time and honestly. -/
theorem connect_completes_once {c : Run}
    (h : Reaches machine DirectPlay8Peer.Constructed AttemptGuarded c) :
    CompletesOnce c.state.history.reverse := by
  have hattempt : c.state.attempt ≠ none := by
    refine attemptContract_valid.always (I := fun s => s.attempt ≠ none) ?_ ?_ h
    · intro s hs
      rw [DirectPlay8Peer.attempt, hs.history]
      simp [Attempt.observeAll]
    · intro p command s hguar
      exact hguar
  rcases Option.ne_none_iff_exists'.mp hattempt with ⟨attempt, hsome⟩
  exact observeAll_completesOnce hsome

/-- A call of `Connect` that is cancelled. -/
theorem cancelledConnect_completes_once :
    exists c : Run,
      Reaches machine DirectPlay8Peer.Constructed AttemptGuarded c ∧
        c.state.history.countP Event.completesConnect = 1 ∧
        CompletesOnce c.state.history.reverse := by
  have hrun : (replay AttemptGuarded (choicesInitialise ++ choicesConnect ++
      [.start (.cancelAsyncOperation 0 dpnCancelConnect), .resume 0 {}])).any
      (fun c => c.state.history.countP Event.completesConnect == 1) = true := by
    decide +kernel
  rcases replay_reaches hrun with ⟨c, hc, hcount⟩
  exact ⟨c, hc, by simpa using hcount, connect_completes_once hc⟩

/--
`Connect` is called while `DPN_MSGID_CONNECT_COMPLETE` is being handled; the
second attempt is never completed.
-/
theorem connect_never_completed :
    ¬ forall c : Run,
      Reaches machine DirectPlay8Peer.Constructed Unrestricted c ->
      CompletesOnce c.state.history.reverse := by
  intro hclaim
  have hrun : (replay Unrestricted (choicesInitialise ++ choicesConnect ++
      [.start (.cancelAsyncOperation 0 dpnCancelConnect)] ++ choicesConnect ++
      [.resume 0 {}, .start (.close dpnCloseImmediate), .resume 0 {},
        .resume 0 {}])).any
      (fun c => ! decide (CompletesOnce c.state.history.reverse)) = true := by
    decide +kernel
  rcases replay_reaches hrun with ⟨c, hc, hbroken⟩
  simp at hbroken
  exact hbroken (hclaim c hc)

end DirectPlayLite
