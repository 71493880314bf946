import DirectPlayLite.Peer.Contracts

/-!
# The states of the object

Which changes of `state` can be seen in runs with any number of threads.  The
changes the design allows are edges of a graph; the conditions under which the
object keeps to it name the functions that assign the state without looking at
what it has become.
-/

namespace DirectPlayLite

open Monitor Program

/-- The changes of state the object is meant to make. -/
inductive State.Edge : State -> State -> Prop where
  | initialised : Edge .new .initialised
  | hosted : Edge .initialised .hosting
  | connecting : Edge .initialised .connectingToHost
  | welcomed : Edge .connectingToHost .connectingToPeers
  | completed : Edge .connectingToPeers .connected
  | hostFailed : Edge .connectingToHost .connectFailed
  | peersFailed : Edge .connectingToPeers .connectFailed
  | reset : Edge .connectFailed .initialised
  | hostingEnded : Edge .hosting .terminated
  | connectionEnded : Edge .connected .terminated
  | closing {state : State} : state ≠ .new -> state ≠ .closing ->
      Edge state .closing
  | closed : Edge .closing .new

/-- `Close` has changed the state and not yet ended. -/
@[simp] def Proc.isClosing (p : Proc) : Bool := p matches .closing ..

/-!
## Conditions
-/

namespace DirectPlay8Peer

/-- The peer waits for the host's answer, and the packet can be read as one. -/
def Welcomes (s : DirectPlay8Peer) (peerId : UInt32)
    (pd : PacketDeserialiser) : Prop :=
  ((s.peers[peerId]?).any fun peer => peer.state == .requestingHost) = true ∧
    (Action.decodeConnectHostOk pd).toOption.isSome = true

/-- The packet comes from the host and ends the session. -/
def TerminatedBy (s : DirectPlay8Peer) (peerId : UInt32)
    (pd : PacketDeserialiser) : Prop :=
  ((s.peers[peerId]?).any fun peer =>
      peer.state == .connected && peer.playerId == s.hostPlayerId) = true ∧
    (pd.getData 0).toOption.isSome = true

/-- The packet comes from the host, or names its sender, and removes us. -/
def RemovedBy (s : DirectPlay8Peer) (peerId : UInt32)
    (pd : PacketDeserialiser) : Prop :=
  ((s.peers[peerId]?).any fun peer =>
      peer.state == .connected &&
        (peer.playerId == s.hostPlayerId ||
          peer.playerId == s.localPlayerId)) = true ∧
    (pd.getDword 0).toOption = some s.localPlayerId ∧
    (pd.getData 1).toOption.isSome = true

/-- Some outgoing connection has neither completed nor failed. -/
def Awaits (s : DirectPlay8Peer) : Prop :=
  (s.peers.toList.any fun (_, peer) =>
    Action.PeerState.isOutgoing peer.state) = true

end DirectPlay8Peer

/-- The state in which a procedure that assigns it is called. -/
def Proc.Entered (s : DirectPlay8Peer) : Proc -> Prop
  | .handleHostConnectOk peerId pd => s.Welcomes peerId pd ->
      s.state = .connectingToHost ∨ s.state = .connectingToPeers
  | .handleTerminateSession peerId pd => s.TerminatedBy peerId pd ->
      s.state = .hosting ∨ s.state = .connected ∨ s.state = .terminated
  | .handleDestroyPeer peerId pd => s.RemovedBy peerId pd ->
      s.state = .hosting ∨ s.state = .connected ∨ s.state = .terminated
  | .connectCheck => ¬ s.Awaits ->
      s.state = .connectingToPeers ∨ s.state = .connected
  | .connectFail .. =>
      s.state = .connectingToHost ∨ s.state = .connectingToPeers ∨
        s.state = .connectFailed
  | _ => True

/--
`Host` and `Connect` start no session from the states their `switch` does not
list, the functions that follow an answer of a peer are called in the states they
assert, and `connect_fail` finds the failure it reports when it has reported it.
-/
def StatesGuarded (s : DirectPlay8Peer) (_ : Multiset Proc) :
    StepLabel -> Prop
  | .exec (.host ..) (.setState _) | .exec (.connect ..) (.setState _) =>
      s.state ≠ .connectFailed ∧ s.state ≠ .closing ∧ s.state ≠ .terminated
  | .call _ callee => callee.Entered s
  | .resume (.connectFail ..) _ _ =>
      s.state = .connectFailed ∨ s.state = .initialised ∨ s.state = .new
  | _ => True

instance {s : DirectPlay8Peer} {p : Proc} : Decidable (p.Entered s) := by
  apply Proc.casesOn (motive := fun p => Decidable (p.Entered s))
  all_goals
    intros
    dsimp only [Proc.Entered, DirectPlay8Peer.Welcomes, DirectPlay8Peer.TerminatedBy,
      DirectPlay8Peer.RemovedBy, DirectPlay8Peer.Awaits]
    infer_instance

instance {s : DirectPlay8Peer} {M : Multiset Proc} {label : StepLabel} :
    Decidable (StatesGuarded s M label) := by
  apply Label.casesOn (motive := fun label => Decidable (StatesGuarded s M label))
  case' exec =>
    intro p command
    apply Proc.casesOn (motive := fun p =>
      Decidable (StatesGuarded s M (.exec p command)))
    case' connect =>
      intro args
      apply Command.casesOn (motive := fun command =>
        Decidable (StatesGuarded s M (.exec (.connect args) command)))
    case' host =>
      intro args
      apply Command.casesOn (motive := fun command =>
        Decidable (StatesGuarded s M (.exec (.host args) command)))
  case' resume =>
    intro p query answer
    apply Proc.casesOn (motive := fun p =>
      Decidable (StatesGuarded s M (.resume p query answer)))
  all_goals
    intros
    dsimp only [StatesGuarded]
    infer_instance

def Proc.Left (s : DirectPlay8Peer) : Proc -> Prop
  | .connectFail .. => s.state = .initialised
  | _ => True

def ClosingOnce (s : DirectPlay8Peer) (M : Multiset Proc) : Prop :=
  tokens Proc.isClosing M = if s.state = .closing then 1 else 0

def statesContract : Contract machine where
  cond := StatesGuarded
  inv := ClosingOnce
  free := fun _ => True
  guar := fun _ command s =>
    (command.apply s).state = s.state ∨ s.state.Edge (command.apply s).state
  rely := fun _ _ _ => True
  pre := fun p s M => ClosingOnce s M ∧ p.Entered s
  post := fun p _ s' _ => p.Left s'
  faults := fun _ => True
  rely_refl := fun _ _ => trivial
  rely_trans := fun _ _ _ _ _ _ => trivial

section Tokens

variable {p : Proc} {s s' : DirectPlay8Peer} {M : Multiset Proc}

theorem ClosingOnce.congr (h : ClosingOnce s M) (hstate : s'.state = s.state) :
    ClosingOnce s' M := by
  unfold ClosingOnce
  rwa [hstate]

theorem ClosingOnce.cons (h : ClosingOnce s M) (hp : p.isClosing = false) :
    ClosingOnce s (p ::ₘ M) := by
  unfold ClosingOnce
  rwa [tokens_cons_of_false hp]

theorem ClosingOnce.erase (h : ClosingOnce s M) (hp : p.isClosing = false) :
    ClosingOnce s (M.erase p) := by
  unfold ClosingOnce
  rwa [tokens_erase_of_false hp]

theorem ClosingOnce.assign (h : ClosingOnce s M) (hs : s.state ≠ .closing)
    (hs' : s'.state ≠ .closing) : ClosingOnce s' M := by
  unfold ClosingOnce at h ⊢
  rw [h, if_neg hs, if_neg hs']

theorem ClosingOnce.enter (h : ClosingOnce s M) (hs : s.state ≠ .closing)
    (hs' : s'.state = .closing) (hp : p.isClosing = true) :
    ClosingOnce s' (p ::ₘ M) := by
  unfold ClosingOnce at h ⊢
  rw [tokens_cons_of_true hp, h, if_neg hs, if_pos hs']

theorem ClosingOnce.state_eq (h : ClosingOnce s M) (hmem : p ∈ M)
    (hp : p.isClosing = true) : s.state = .closing := by
  by_contra hs
  rw [ClosingOnce, if_neg hs] at h
  exact absurd (tokens_pos hmem hp) (by omega)

theorem ClosingOnce.leave (h : ClosingOnce s M) (hmem : p ∈ M)
    (hp : p.isClosing = true) (hs' : s'.state ≠ .closing) :
    ClosingOnce s' (M.erase p) := by
  have hs := h.state_eq hmem hp
  have hcount := tokens_erase_of_true hmem hp
  unfold ClosingOnce at h ⊢
  rw [if_pos hs] at h
  rw [if_neg hs']
  omega

end Tokens

/-!
## Steps that leave the state alone
-/

abbrev withoutStates : Footprint Command Proc Fault :=
  .within (fun command => command.kind ≠ .state)
    (fun callee => callee.isClosing = false)
    fun child => child.isDetached = true

theorem Proc.callees_closing {p : Proc} {flags : DWORD}
    {wasHosting wasConnected : Bool}
    (h : p.callees (.closing flags wasHosting wasConnected) = true) :
    exists flags, p = .close flags := by
  cases p <;> first
    | exact ⟨_, rfl⟩
    | cases h

theorem Proc.body_stateless {p : Proc} (hkinds : .state ∉ p.kinds)
    (hclose : forall flags, p ≠ .close flags) : p.body.Uses withoutStates := by
  refine p.body_uses.mono ?_ (fun _ => trivial) ?_ (fun _ h => h)
    (fun _ _ => trivial)
  · intro command hcommand hkind
    exact hkinds (hkind ▸ hcommand.1)
  · intro callee hcall
    cases hclosing : callee.isClosing with
    | false => exact hclosing
    | true =>
        cases callee <;> try cases hclosing
        rcases Proc.callees_closing hcall.1 with ⟨flags, hp⟩
        exact absurd hp (hclose flags)

section Rules

variable {p : Proc} {callers : List Proc} {s s' : DirectPlay8Peer}
  {M : Multiset Proc}

abbrev StatesKept (p : Proc) (callers : List Proc) (prog : Action Unit)
    (s : DirectPlay8Peer) (M : Multiset Proc) : Prop :=
  statesContract.wp p callers prog
    (fun _ s' M' => (p :: callers : Multiset Proc) ≤ M' ∧ ClosingOnce s' M') s M

theorem statesContract_agrees {command : Command}
    (h : (command.apply s).state = s.state ∨
      s.state.Edge (command.apply s).state) :
    statesContract.Agrees p command M s := ⟨h, fun _ _ => trivial⟩

theorem states_rest {prog : Action Unit} (huses : prog.Uses withoutStates)
    (hown : (p :: callers : Multiset Proc) ≤ M) (h : ClosingOnce s M) :
    StatesKept p callers prog s M := by
  refine Contract.wp_of_uses huses (fun _ _ _ h => ⟨h, trivial⟩)
    (fun _ _ h _ => h) ?_ ?_ ?_ (fun _ _ => trivial) hown h
  · intro command s M hcommand _ hinv _
    have hstate : (command.apply s).state = s.state :=
      Command.apply_state hcommand
    exact ⟨statesContract_agrees (Or.inl hstate), hinv.congr hstate⟩
  · intro callee s M hcall hinv hcond
    exact ⟨⟨hinv.cons hcall, hcond⟩, fun _ _ h _ => h⟩
  · intro child s M hspawn hinv _
    have hclosing : child.isClosing = false := by
      cases child <;> first
        | rfl
        | cases hspawn
    refine ⟨?_, hinv.cons hclosing⟩
    intro s' M' _ hinv' _ _ _
    refine ⟨hinv', ?_⟩
    cases child <;> trivial

theorem states_kept {α : Type} {prog : Action α} {f : α -> Action Unit}
    {post : Unit -> DirectPlay8Peer -> Multiset Proc -> Prop}
    (huses : prog.Uses (Kept fun command => command.kind ≠ .state))
    (h : forall value s', s'.state = s.state ->
      statesContract.wp p callers (f value) post s' M) :
    statesContract.wp p callers (prog >>= f) post s M := by
  rw [bind_eq, Contract.wp_bind]
  refine Contract.wp_mono (wp_kept huses (fun _ => trivial)
    (I := fun s' => s'.state = s.state) ?_ rfl) ?_
  · intro command s' hcommand hstate _
    have hsame : (command.apply s').state = s'.state :=
      Command.apply_state hcommand
    exact ⟨statesContract_agrees (Or.inl hsame), hsame.trans hstate⟩
  · rintro value s' M' ⟨rfl, hstate⟩
    exact h value s' hstate

theorem states_get {f : DirectPlay8Peer -> Action Unit}
    {post : Unit -> DirectPlay8Peer -> Multiset Proc -> Prop}
    (h : statesContract.wp p callers (f s) post s M) :
    statesContract.wp p callers (get >>= f) post s M := h

theorem states_before {prog : Action Unit} {f : Unit -> Action Unit}
    {post : Unit -> DirectPlay8Peer -> Multiset Proc -> Prop}
    (huses : prog.Uses withoutStates) (hown : (p :: callers : Multiset Proc) ≤ M)
    (h : ClosingOnce s M)
    (hnext : forall s' M', (p :: callers : Multiset Proc) ≤ M' ->
      ClosingOnce s' M' -> statesContract.wp p callers (f ()) post s' M') :
    statesContract.wp p callers (prog >>= f) post s M := by
  rw [bind_eq, Contract.wp_bind]
  refine Contract.wp_mono (states_rest huses hown h) ?_
  intro _ s' M' h'
  exact hnext s' M' h'.1 h'.2

theorem states_unlocked {query : Query} {ready : DirectPlay8Peer -> Bool}
    {f : Answer -> Action Unit}
    {post : Unit -> DirectPlay8Peer -> Multiset Proc -> Prop}
    (h : ClosingOnce s M)
    (hnext : forall s' M' answer, (p :: callers : Multiset Proc) ≤ M' ->
      ClosingOnce s' M' ->
      statesContract.cond s' M' (.resume p query answer) ->
      statesContract.wp p callers (f answer) post s' M') :
    statesContract.wp p callers (unlocked query ready >>= f) post s M :=
  ⟨⟨h, trivial⟩, fun s' M' answer hown hinv _ _ _ _ hcond =>
    hnext s' M' answer hown hinv hcond⟩

theorem states_raise {notification : Notification} {f : Answer -> Action Unit}
    {post : Unit -> DirectPlay8Peer -> Multiset Proc -> Prop}
    (h : ClosingOnce s M)
    (hnext : forall s' M' answer, (p :: callers : Multiset Proc) ≤ M' ->
      ClosingOnce s' M' ->
      statesContract.cond s' M'
        (.resume p (.messageHandler notification) answer) ->
      statesContract.wp p callers (f answer) post s' M') :
    statesContract.wp p callers (Action.raise notification >>= f) post s M :=
  fun _ => ⟨statesContract_agrees (Or.inl rfl),
    ⟨h, trivial⟩, fun s' M' answer hown hinv _ _ _ _ hcond =>
      hnext s' M' answer hown hinv hcond⟩

theorem states_assign {state : State} {next : Unit -> Action Unit}
    {post : Unit -> DirectPlay8Peer -> Multiset Proc -> Prop}
    (h : ClosingOnce s M) (hstate : state ≠ .closing)
    (hedge : statesContract.cond s M (.exec p (.setState state)) ->
      s.state ≠ .closing ∧ (s.state = state ∨ s.state.Edge state))
    (hnext : forall s', s'.state = state -> ClosingOnce s' M ->
      statesContract.wp p callers (next ()) post s' M) :
    statesContract.wp p callers (perform (.setState state) >>= next) post s
      M := by
  intro hcond
  rcases hedge hcond with ⟨hs, hedge⟩
  refine ⟨statesContract_agrees (hedge.imp_left Eq.symm), ?_⟩
  exact hnext _ rfl (h.assign hs hstate)

end Rules

/-!
## Functions that assign the state
-/

section Assigning

variable {callers : List Proc} {s : DirectPlay8Peer} {M : Multiset Proc}

theorem initialiseObject_states
    (hown : (.initialiseObject :: callers : Multiset Proc) ≤ M)
    (h : ClosingOnce s M) :
    StatesKept .initialiseObject callers Action.initialiseObject s M := by
  apply states_get
  split
  · exact states_rest (by simp) hown h
  · rename_i hnew
    apply states_kept (by simp)
    intro startup s₁ hs₁
    split
    · exact states_rest (by simp) hown (h.congr hs₁)
    · apply states_kept (by simp)
      intro _ s₂ hs₂
      have hs : s₂.state = .new := by
        rw [hs₂, hs₁]
        exact not_ne_iff.mp hnew
      apply states_assign (h.congr (hs₂.trans hs₁)) (by simp)
      · intro _
        rw [hs]
        exact ⟨by simp, Or.inr .initialised⟩
      · intro s₃ _ h₃
        exact states_rest (by simp) hown h₃

def Idle (s : DirectPlay8Peer) : Prop :=
  s.state = .initialised ∨ s.state = .connectFailed ∨ s.state = .closing ∨
    s.state = .terminated

theorem Idle.initialised {s : DirectPlay8Peer} (h : Idle s)
    (hguarded : s.state ≠ .connectFailed ∧ s.state ≠ .closing ∧
      s.state ≠ .terminated) : s.state = .initialised := by
  rcases h with h | h | h | h
  · exact h
  · exact absurd h hguarded.1
  · exact absurd h hguarded.2.1
  · exact absurd h hguarded.2.2

theorem connectTo_states {args : ConnectArgs} {address : SockAddr}
    (hown : (.connect args :: callers : Multiset Proc) ≤ M)
    (h : ClosingOnce s M) (hs : Idle s) :
    StatesKept (.connect args) callers (Action.connectTo args address) s M := by
  apply states_kept (by simp)
  intro counter s₁ hs₁
  apply states_kept (Action.uses_createAutoSockets (by simp) (by simp))
  intro _ s₂ hs₂
  apply states_get
  split
  · exact states_rest (by simp) hown (h.congr (hs₂.trans hs₁))
  · apply states_kept (Uses.onlyIf fun _ => by simp)
    intro _ s₃ hs₃
    apply states_kept (by simp)
    intro _ s₄ hs₄
    have hsame : s₄.state = s.state :=
      hs₄.trans (hs₃.trans (hs₂.trans hs₁))
    apply states_assign (h.congr hsame) (by simp)
    · intro hcond
      have hidle : Idle s₄ := by
        rwa [Idle, hsame]
      rw [hidle.initialised hcond]
      exact ⟨by simp, Or.inr .connecting⟩
    · intro s₅ _ h₅
      refine states_rest ?_ hown h₅
      unfold Action.closeMainSocket
      repeat' with_reducible first
        | apply Action.uses_peerConnect
        | apply Action.uses_selectMainSockets
        | apply Action.uses_bind
        | intro _
        | split
      all_goals simp

theorem connect_states {args : ConnectArgs}
    (hown : (.connect args :: callers : Multiset Proc) ≤ M)
    (h : ClosingOnce s M) :
    StatesKept (.connect args) callers (Action.connect args) s M := by
  apply states_get
  split
  case h_6 hs | h_7 hs | h_8 hs | h_9 hs =>
    apply states_kept (by simp)
    intro _ s₁ hs₁
    apply states_kept (by simp)
    intro _ s₂ hs₂
    apply states_kept (by simp)
    intro _ s₃ hs₃
    apply states_kept (by simp)
    intro _ s₄ hs₄
    have hsame : s₄.state = s.state :=
      hs₄.trans (hs₃.trans (hs₂.trans hs₁))
    split
    · exact states_rest (by simp) hown (h.congr hsame)
    · refine connectTo_states hown (h.congr hsame) ?_
      rw [Idle, hsame, hs]
      decide
  all_goals exact states_rest (by simp) hown h

theorem startHosting_states {args : HostArgs}
    (hown : (.host args :: callers : Multiset Proc) ≤ M)
    (h : ClosingOnce s M) (hs : Idle s) :
    StatesKept (.host args) callers (Action.startHosting args.playerCtx) s
      M := by
  apply states_kept (by simp)
  intro _ s₁ hs₁
  apply states_kept (by simp)
  intro _ s₂ hs₂
  apply states_kept (by simp)
  intro _ s₃ hs₃
  apply states_kept (by simp)
  intro _ s₄ hs₄
  apply states_kept (by simp)
  intro _ s₅ hs₅
  have hsame : s₅.state = s.state :=
    hs₅.trans (hs₄.trans (hs₃.trans (hs₂.trans hs₁)))
  apply states_assign (h.congr hsame) (by simp)
  · intro hcond
    have hidle : Idle s₅ := by
      rwa [Idle, hsame]
    rw [hidle.initialised hcond]
    exact ⟨by simp, Or.inr .hosted⟩
  · intro s₆ _ h₆
    refine states_rest ?_ hown h₆
    repeat' with_reducible first
      | apply Action.uses_bind
      | intro _
    all_goals simp

theorem hostOn_states {args : HostArgs} {port : UInt16}
    (hown : (.host args :: callers : Multiset Proc) ≤ M)
    (h : ClosingOnce s M) (hs : Idle s) :
    StatesKept (.host args) callers (Action.hostOn args port) s M := by
  apply states_kept (Action.uses_createHostSockets (by simp) (by simp))
  intro _ s₁ hs₁
  apply states_get
  split
  · exact states_rest (by simp) hown (h.congr hs₁)
  apply states_kept Action.uses_selectMainSockets
  intro selected s₂ hs₂
  split
  · exact states_rest (by simp) hown (h.congr (hs₂.trans hs₁))
  apply states_kept (Action.uses_openDiscovery (by simp))
  intro opened s₃ hs₃
  have hsame : s₃.state = s.state := hs₃.trans (hs₂.trans hs₁)
  split
  · exact states_rest (by simp) hown (h.congr hsame)
  · refine startHosting_states hown (h.congr hsame) ?_
    rwa [Idle, hsame]

theorem host_states {args : HostArgs}
    (hown : (.host args :: callers : Multiset Proc) ≤ M)
    (h : ClosingOnce s M) :
    StatesKept (.host args) callers (Action.host args) s M := by
  apply states_get
  split
  case h_6 hs | h_7 hs | h_8 hs | h_9 hs =>
    split
    · exact states_rest (by simp) hown h
    apply states_kept (by simp)
    intro created s₁ hs₁
    apply states_kept (by simp)
    intro _ s₂ hs₂
    split
    · exact states_rest (by simp) hown (h.congr (hs₂.trans hs₁))
    apply states_kept (by simp)
    intro _ s₃ hs₃
    apply states_kept (Action.uses_setDescription (by simp) (by simp))
    intro _ s₄ hs₄
    have hs₄ : s₄.state = s.state :=
      hs₄.trans (hs₃.trans (hs₂.trans hs₁))
    split
    · exact states_rest (by simp) hown (h.congr hs₄)
    apply states_kept (by simp)
    intro _ s₅ hs₅
    have hsame : s₅.state = s.state := hs₅.trans hs₄
    refine hostOn_states hown (h.congr hsame) ?_
    rw [Idle, hsame, hs]
    decide
  all_goals exact states_rest (by simp) hown h

theorem connectFail_states {result : HRESULT} {reply : List UInt8}
    (hown : (.connectFail result reply :: callers : Multiset Proc) ≤ M)
    (h : ClosingOnce s M)
    (hs : s.state = .connectingToHost ∨ s.state = .connectingToPeers ∨
      s.state = .connectFailed) :
    statesContract.wp (.connectFail result reply) callers
      (Action.connectFail result reply)
      (fun _ s' M' => ClosingOnce s' M' ∧ s'.state = .initialised) s M := by
  apply states_get
  apply states_kept (Action.uses_assertThat (by simp))
  intro _ s₁ hs₁
  apply states_assign (h.congr hs₁) (by simp)
  · intro _
    rw [hs₁]
    rcases hs with hs | hs | hs <;> rw [hs]
    · exact ⟨by simp, Or.inr .hostFailed⟩
    · exact ⟨by simp, Or.inr .peersFailed⟩
    · exact ⟨by simp, Or.inl rfl⟩
  intro s₂ _ h₂
  apply states_kept (Action.uses_closeMainSockets (by simp))
  intro _ s₃ hs₃
  apply states_before (by simp) hown (h₂.congr hs₃)
  intro s₄ M₄ _ h₄
  apply states_get
  apply states_raise h₄
  -- the message has been handled: the state must not have been left meanwhile
  intro s₅ M₅ answer _ h₅ hcond
  apply states_kept (by simp)
  intro _ s₆ hs₆ _
  have hedge : s₆.state = .initialised ∨ s₆.state.Edge .initialised := by
    rw [hs₆]
    rcases hcond with hs₅ | hs₅ | hs₅ <;> rw [hs₅]
    · exact Or.inr .reset
    · exact Or.inl rfl
    · exact Or.inr .initialised
  have hclosing : s₆.state ≠ .closing := by
    rw [hs₆]
    rcases hcond with hs₅ | hs₅ | hs₅ <;> simp [hs₅]
  refine ⟨statesContract_agrees (hedge.imp_left Eq.symm), ?_, rfl⟩
  exact (h₅.congr hs₆).assign hclosing (by simp [machine, Command.apply])

theorem close_states {flags : DWORD}
    (hown : (.close flags :: callers : Multiset Proc) ≤ M)
    (h : ClosingOnce s M) :
    StatesKept (.close flags) callers (Action.close flags) s M := by
  apply states_get
  split
  · exact states_rest (by simp) hown h
  split
  · exact states_rest (by simp) hown h
  rename_i hnew hclosing
  -- the second part of `Close`, from any state that it can be entered in
  have hgo : forall s₁ M₁, (.close flags :: callers : Multiset Proc) ≤ M₁ ->
      ClosingOnce s₁ M₁ -> s₁.state ≠ .new -> s₁.state ≠ .closing ->
      StatesKept (.close flags) callers (do
        perform (.setState .closing)
        invoke (.closing flags (s.state == .hosting) (s.state == .connected)))
        s₁ M₁ := by
    intro s₁ M₁ _ h₁ hnew₁ hclosing₁ _
    refine ⟨statesContract_agrees (Or.inr (.closing hnew₁ hclosing₁)), ?_⟩
    intro hcond
    refine ⟨⟨h₁.enter hclosing₁ rfl rfl, hcond⟩, ?_⟩
    intro s₂ M₂ hown₂ h₂ _ _
    exact ⟨hown₂, h₂⟩
  apply states_kept (Action.uses_closeMainSockets (by simp))
  intro _ s₁ hs₁
  rw [bind_eq, Contract.wp_bind]
  apply Contract.wp_onlyIf
  · intro _ hcond
    refine ⟨⟨(h.congr hs₁).cons rfl, hcond⟩, ?_⟩
    intro s₂ M₂ hown₂ h₂ _ hleft
    have hs₂ : s₂.state = .initialised := hleft
    exact hgo s₂ M₂ hown₂ h₂ (by simp [hs₂]) (by simp [hs₂])
  · intro _
    exact hgo s₁ M hown (h.congr hs₁) (by rwa [hs₁]) (by rwa [hs₁])

theorem closing_states {flags : DWORD} {wasHosting wasConnected : Bool}
    (hown : (.closing flags wasHosting wasConnected :: callers :
      Multiset Proc) ≤ M) (h : ClosingOnce s M) :
    statesContract.wp (.closing flags wasHosting wasConnected) callers
      (Action.closing flags wasHosting wasConnected)
      (fun _ s' M' => ClosingOnce s'
        (M'.erase (.closing flags wasHosting wasConnected))) s M := by
  apply states_before
    (Uses.onlyIf fun _ => Action.uses_dispatchDestroyLocalPlayer (by simp))
    hown h
  intro s₁ M₁ hown₁ h₁
  apply states_before (Action.uses_closePeers (by simp) (by simp) (by simp))
    hown₁ h₁
  intro s₂ M₂ hown₂ h₂
  apply states_before
    (Uses.onlyIf fun _ => Action.uses_dispatchDestroyLocalPlayer (by simp))
    hown₂ h₂
  intro s₃ M₃ hown₃ h₃
  apply states_before (by simp) hown₃ h₃
  intro s₄ M₄ hown₄ h₄
  apply states_before (by simp) hown₄ h₄
  intro s₅ M₅ hown₅ h₅
  apply states_unlocked h₅
  intro s₆ M₆ _ hown₆ h₆ _
  apply states_kept (by simp)
  intro _ s₇ hs₇
  apply states_kept (by simp)
  intro _ s₈ hs₈ _
  have hmem : Proc.closing flags wasHosting wasConnected ∈ M₆ :=
    Multiset.mem_of_le hown₆ (by simp)
  have hclosing : s₈.state = .closing := by
    rw [hs₈, hs₇]
    exact h₆.state_eq hmem rfl
  refine ⟨statesContract_agrees (Or.inr ?_), ?_⟩
  · rw [hclosing]
    exact .closed
  · intro _
    refine ⟨statesContract_agrees (Or.inl rfl), ?_⟩
    exact h₆.leave hmem rfl (by simp [machine, Command.apply])

theorem terminateSession_states {data : List UInt8}
    (hown : (.terminateSession data :: callers : Multiset Proc) ≤ M)
    (h : ClosingOnce s M) :
    StatesKept (.terminateSession data) callers
      (Action.terminateSession data) s M := by
  apply states_get
  split
  · exact states_rest (by simp) hown h
  rename_i hnone
  have hs : s.state = .hosting := by
    cases hstate : s.state <;> simp [hstate, Action.hostStateError] at hnone ⊢
  apply states_kept (Action.uses_closeMainSockets (by simp))
  intro _ s₁ hs₁
  apply states_kept
  · apply Uses.forEach
    intro peerId _
    exact Action.uses_bind (by simp) fun _ => by simp
  intro _ s₂ hs₂
  have hsame : s₂.state = s.state := hs₂.trans hs₁
  apply states_assign (h.congr hsame) (by simp)
  · intro _
    rw [hsame, hs]
    exact ⟨by simp, Or.inr .hostingEnded⟩
  intro s₃ _ h₃
  refine states_rest ?_ hown h₃
  repeat' with_reducible first
    | apply Action.uses_dispatchDestroyLocalPlayer
    | apply Uses.forEach
    | apply Action.uses_bind
    | intro _
    | split
  all_goals simp

theorem hostLost_states {p : Proc} {result : HRESULT} {reason : DWORD}
    (hown : (p :: callers : Multiset Proc) ≤ M) (h : ClosingOnce s M)
    (hs : s.state = .connected) :
    StatesKept p callers (Action.hostLost result reason) s M := by
  apply states_assign h (by simp)
  · intro _
    rw [hs]
    exact ⟨by simp, Or.inr .connectionEnded⟩
  intro s₁ _ h₁
  refine states_rest ?_ hown h₁
  repeat' with_reducible first
    | apply Action.uses_dispatchDestroyLocalPlayer
    | apply Action.uses_bind
    | intro _
  all_goals simp

theorem peerDestroyDrained_states {peerId : UInt32} {result : HRESULT}
    {reason : DWORD}
    (hown : (.peerDestroyDrained peerId result reason :: callers :
      Multiset Proc) ≤ M) (h : ClosingOnce s M) :
    StatesKept (.peerDestroyDrained peerId result reason) callers
      (Action.peerDestroyDrained peerId result reason) s M := by
  have hremove : (Action.removePeer peerId).Uses withoutStates := by
    unfold Action.removePeer
    repeat' with_reducible first
      | apply Action.uses_bind
      | intro _
      | split
    all_goals simp
  apply states_kept (Action.uses_peerAt (by simp))
  intro peer s₁ hs₁
  apply states_get
  split
  · apply states_kept (by simp)
    intro _ s₂ hs₂
    apply states_kept (by simp)
    intro _ s₃ hs₃
    have h₃ := h.congr (hs₃.trans (hs₂.trans hs₁))
    apply states_before (by simp) hown h₃
    intro s₄ M₄ hown₄ h₄
    apply states_before (by simp) hown₄ h₄
    intro s₅ M₅ hown₅ h₅
    apply states_get
    rw [bind_eq, Contract.wp_bind]
    have hlast : forall s' M',
        (.peerDestroyDrained peerId result reason :: callers :
          Multiset Proc) ≤ M' -> ClosingOnce s' M' ->
        StatesKept (.peerDestroyDrained peerId result reason) callers
          (Action.renewPeer peerId fun _ => Action.removePeer peerId) s' M' :=
      fun s' M' hown' h' =>
        states_rest (Action.uses_renewPeer fun _ => hremove) hown' h'
    apply Contract.wp_onlyIf
    · intro hhost
      refine Contract.wp_mono (hostLost_states hown₅ h₅ hhost.1) ?_
      intro _ s₆ M₆ h₆
      exact hlast s₆ M₆ h₆.1 h₆.2
    · intro _
      exact hlast s₅ M₅ hown₅ h₅
  · refine states_rest ?_ hown (h.congr hs₁)
    repeat' with_reducible first
      | exact hremove
      | apply Action.uses_renewPeer
      | apply Action.uses_bind
      | intro _
      | split
    all_goals simp

theorem connectCheck_states
    (hown : (.connectCheck :: callers : Multiset Proc) ≤ M)
    (h : ClosingOnce s M) (hs : Proc.connectCheck.Entered s) :
    StatesKept .connectCheck callers Action.connectCheck s M := by
  apply states_get
  apply states_kept (Action.uses_assertThat (by simp))
  intro _ s₁ hs₁
  split
  · exact states_rest (by simp) hown (h.congr hs₁)
  rename_i hawaits
  apply states_assign (h.congr hs₁) (by simp)
  · intro _
    rw [hs₁]
    rcases hs hawaits with hs | hs <;> rw [hs]
    · exact ⟨by simp, Or.inr .completed⟩
    · exact ⟨by simp, Or.inl rfl⟩
  intro s₂ _ h₂
  refine states_rest ?_ hown h₂
  repeat' with_reducible first
    | apply Action.uses_bind
    | intro _
  all_goals simp

theorem sessionTerminated_states {p : Proc} {data : List UInt8}
    {farewell : Action Unit} (hfarewell : farewell.Uses withoutStates)
    (hown : (p :: callers : Multiset Proc) ≤ M) (h : ClosingOnce s M)
    (hs : s.state = .hosting ∨ s.state = .connected ∨ s.state = .terminated) :
    StatesKept p callers (Action.sessionTerminated data farewell) s M := by
  apply states_assign h (by simp)
  · intro _
    rcases hs with hs | hs | hs <;> rw [hs]
    · exact ⟨by simp, Or.inr .hostingEnded⟩
    · exact ⟨by simp, Or.inr .connectionEnded⟩
    · exact ⟨by simp, Or.inl rfl⟩
  intro s₁ _ h₁
  refine states_rest ?_ hown h₁
  repeat' with_reducible first
    | exact hfarewell
    | apply Action.uses_dispatchDestroyLocalPlayer
    | apply Action.uses_bind
    | intro _
  all_goals simp

theorem handleTerminateSession_states {peerId : UInt32}
    {pd : PacketDeserialiser}
    (hown : (.handleTerminateSession peerId pd :: callers :
      Multiset Proc) ≤ M) (h : ClosingOnce s M)
    (hs : (Proc.handleTerminateSession peerId pd).Entered s) :
    StatesKept (.handleTerminateSession peerId pd) callers
      (Action.handleTerminateSession peerId pd) s M := by
  apply wp_assertedPeer trivial (statesContract_agrees (Or.inl rfl))
  intro peer hpeer
  apply states_get
  apply wp_caught
  · intro data hdata
    split
    · exact states_rest (by simp) hown h
    split
    · exact states_rest (by simp) hown h
    rename_i hconnected hhost
    refine sessionTerminated_states (by simp) hown h (hs ⟨?_, ?_⟩)
    · simp_all
    · simp [hdata, Except.toOption]
  · intro _ _
    exact ⟨hown, h⟩

theorem handleDestroyPeer_states {peerId : UInt32} {pd : PacketDeserialiser}
    (hown : (.handleDestroyPeer peerId pd :: callers : Multiset Proc) ≤ M)
    (h : ClosingOnce s M) (hs : (Proc.handleDestroyPeer peerId pd).Entered s) :
    StatesKept (.handleDestroyPeer peerId pd) callers
      (Action.handleDestroyPeer peerId pd) s M := by
  apply wp_assertedPeer trivial (statesContract_agrees (Or.inl rfl))
  intro peer hpeer
  apply states_get
  apply wp_caught
  · intro destroyPlayerId hdestroyed
    split
    · exact states_rest (by simp) hown h
    split
    · exact states_rest (by simp) hown h
    rename_i hconnected hallowed
    split
    · rename_i hlocal
      apply wp_caught
      · intro data hdata
        refine sessionTerminated_states ?_ hown h (hs ⟨?_, ?_, ?_⟩)
        · apply Action.uses_bind (by simp)
          intro _
          exact Action.uses_sendToConnected (by simp)
        · simp_all
          tauto
        · simp [hdestroyed, hlocal, Except.toOption]
        · simp [hdata, Except.toOption]
      · intro _ _
        exact ⟨hown, h⟩
    · refine states_rest ?_ hown h
      split <;> simp
  · intro _ _
    exact ⟨hown, h⟩

theorem handleHostConnectOk_states {peerId : UInt32} {pd : PacketDeserialiser}
    (hown : (.handleHostConnectOk peerId pd :: callers : Multiset Proc) ≤ M)
    (h : ClosingOnce s M)
    (hs : (Proc.handleHostConnectOk peerId pd).Entered s) :
    StatesKept (.handleHostConnectOk peerId pd) callers
      (Action.handleHostConnectOk peerId pd) s M := by
  apply wp_assertedPeer trivial (statesContract_agrees (Or.inl rfl))
  intro peer hpeer
  apply states_get
  split
  · exact states_rest (by simp) hown h
  rename_i hrequesting
  apply states_kept (Action.uses_assertThat (by simp))
  intro _ s₁ hs₁
  apply wp_fetch (fun _ => trivial)
  intro ok hok
  have hstate : s.state = .connectingToHost ∨ s.state = .connectingToPeers := by
    apply hs
    refine ⟨?_, ?_⟩
    · simp_all
    · simp [hok, Except.toOption]
  have hconnecting : s₁.state = .connectingToHost ∨
      s₁.state = .connectingToPeers := by rwa [hs₁]
  have h₁ := h.congr hs₁
  clear hs₁ hstate
  -- everything the host tells us is stored before the state changes
  iterate 12
    apply states_kept (by simp)
    intro _ s₂ hs₂
    rw [← hs₂] at hconnecting
    replace h₁ := h₁.congr hs₂
    clear hs₂
    rename DirectPlay8Peer => s₁
  apply states_assign h₁ (by simp)
  · intro _
    rcases hconnecting with hs | hs <;> rw [hs]
    · exact ⟨by simp, Or.inr .welcomed⟩
    · exact ⟨by simp, Or.inl rfl⟩
  intro s₃ _ h₃
  refine states_rest ?_ hown h₃
  repeat' with_reducible first
    | apply Action.uses_peerAt
    | apply Action.uses_renewPeer
    | apply Action.uses_joinGroups
    | apply Action.uses_connectToPeers
    | apply Action.uses_bind
    | intro _
  all_goals simp

theorem states_body {p : Proc}
    (hown : (p :: callers : Multiset Proc) ≤ M) (h : ClosingOnce s M)
    (hs : p.Entered s) :
    statesContract.wp p callers p.body
      (fun _ s' M' => ClosingOnce s' (M'.erase p) ∧ p.Left s') s M := by
  -- what ends where the lock can be given up, outside of `Close`
  have hends : p.isClosing = false -> (forall s', p.Left s') ->
      StatesKept p callers p.body s M ->
      statesContract.wp p callers p.body
        (fun _ s' M' => ClosingOnce s' (M'.erase p) ∧ p.Left s') s M := by
    intro hclosing hleft hbody
    refine Contract.wp_mono hbody ?_
    intro _ s' M' h'
    exact ⟨h'.2.erase hclosing, hleft s'⟩
  cases p with
  | initialiseObject =>
      exact hends rfl (fun _ => trivial) (initialiseObject_states hown h)
  | connect args =>
      exact hends rfl (fun _ => trivial) (connect_states hown h)
  | host args => exact hends rfl (fun _ => trivial) (host_states hown h)
  | close flags => exact hends rfl (fun _ => trivial) (close_states hown h)
  | terminateSession data =>
      exact hends rfl (fun _ => trivial) (terminateSession_states hown h)
  | peerDestroyDrained peerId result reason =>
      exact hends rfl (fun _ => trivial) (peerDestroyDrained_states hown h)
  | connectCheck =>
      exact hends rfl (fun _ => trivial) (connectCheck_states hown h hs)
  | handleTerminateSession peerId pd =>
      exact hends rfl (fun _ => trivial)
        (handleTerminateSession_states hown h hs)
  | handleDestroyPeer peerId pd =>
      exact hends rfl (fun _ => trivial) (handleDestroyPeer_states hown h hs)
  | handleHostConnectOk peerId pd =>
      exact hends rfl (fun _ => trivial) (handleHostConnectOk_states hown h hs)
  | closing flags wasHosting wasConnected =>
      refine Contract.wp_mono (closing_states hown h) ?_
      intro _ s' M' h'
      exact ⟨h', trivial⟩
  | connectFail result reply =>
      refine Contract.wp_mono (connectFail_states hown h hs) ?_
      intro _ s' M' h'
      exact ⟨h'.1.erase rfl, h'.2⟩
  | _ =>
      exact hends rfl (fun _ => trivial)
        (states_rest (Proc.body_stateless (by simp) (by simp)) hown h)

end Assigning

theorem statesContract_valid :
    statesContract.Valid DirectPlay8Peer.Constructed where
  initial := by
    intro s hs
    simp [statesContract, ClosingOnce, hs.state]
  start := by
    intro p s M hentry hinv _ _
    have hclosing : p.isClosing = false := by
      cases p <;> first
        | rfl
        | cases hentry
    refine ⟨ClosingOnce.cons hinv hclosing, ?_⟩
    cases p <;> trivial
  body := fun _ _ _ _ hown hpre =>
    Contract.wp_mono (states_body hown hpre.1 hpre.2)
      fun _ _ _ h => ⟨h, fun _ _ => trivial⟩

/-!
## Runs
-/

section Runs

variable {c c' : Run} {label : StepLabel}

theorem step_assigns (hstep : Step machine c label c')
    (hchange : c'.state.state ≠ c.state.state) :
    exists p state, label = .exec p (.setState state) ∧ c'.state.state = state := by
  cases hstep with
  | @exec s parked p callers command next =>
      have hkind : command.kind = .state := by
        by_contra hother
        exact hchange (Command.apply_state hother)
      rcases Command.kind_eq_state hkind with ⟨state, rfl | rfl⟩
      · exact ⟨p, state, rfl, rfl⟩
      · exact absurd rfl hchange
  | _ => exact absurd rfl hchange

/-- `Close` leaves `STATE_CLOSING`, and nothing else does. -/
theorem state_changes_along_edges
    (h : Reaches machine DirectPlay8Peer.Constructed StatesGuarded c)
    (hstep : Step machine c label c')
    (hguarded : StatesGuarded c.state c.activations label) :
    (c'.state.state = c.state.state ∨
        c.state.state.Edge c'.state.state) ∧
      (c.state.state = .closing -> c'.state.state ≠ .closing ->
        exists flags wasHosting wasConnected,
          label = .exec (.closing flags wasHosting wasConnected)
            (.setState .new)) := by
  have hedge : c'.state.state = c.state.state ∨
      c.state.state.Edge c'.state.state := by
    rcases statesContract_valid.guar h hstep hguarded with
      hsame | ⟨p, command, _, hguar, happlied⟩
    · exact Or.inl (congrArg _ hsame)
    · rw [happlied]
      exact hguar
  refine ⟨hedge, ?_⟩
  intro hclosing hleft
  rw [hclosing] at hedge
  have hnew : c'.state.state = .new := by
    rcases hedge with hsame | hedge
    · exact absurd hsame hleft
    · generalize c'.state.state = state at hedge hleft
      cases hedge with
      | closing _ hnot => exact absurd rfl hnot
      | closed => rfl
  rcases step_assigns hstep (by rwa [hclosing]) with ⟨p, state, hlabel, hstate⟩
  rw [hnew] at hstate
  subst hstate
  subst hlabel
  have hassigns : State.new ∈ p.assigns := by
    have huses := h.exec_uses Proc.body_uses hstep
    exact huses.2
  cases p with
  | closing flags wasHosting wasConnected =>
      exact ⟨flags, wasHosting, wasConnected, rfl⟩
  | _ => simp at hassigns

def StepLabel.terminates : StepLabel -> Bool
  | .exec (.terminateSession _) (.setState _) => true
  | _ => false

theorem StepLabel.terminates_iff {label : StepLabel} (h : label.terminates = true) :
    exists data state, label = .exec (.terminateSession data) (.setState state) := by
  unfold StepLabel.terminates at h
  split at h
  · exact ⟨_, _, rfl⟩
  · cases h

/-- A host lets a client in and ends its session. -/
theorem terminated_along_edge :
    exists (c c' : Run) (label : StepLabel),
      Reaches machine DirectPlay8Peer.Constructed StatesGuarded c ∧
        Step machine c label c' ∧
        c.state.state = .hosting ∧ c'.state.state = .terminated ∧
        (c'.state.state = c.state.state ∨
            c.state.state.Edge c'.state.state) ∧
          (c.state.state = .closing -> c'.state.state ≠ .closing ->
            exists flags wasHosting wasConnected,
              label = .exec (.closing flags wasHosting wasConnected)
                (.setState .new)) := by
  have hrun : (replayTo StatesGuarded StepLabel.terminates choicesAdmit
      (.start (.terminateSession []))).any
      (fun q => q.1.state.state == .hosting && q.2.state.state == .terminated)
      = true := by decide +kernel
  rcases replayTo_step hrun with ⟨c, c', label, hc, hwanted, hstep, hstates⟩
  simp only [Bool.and_eq_true, beq_iff_eq] at hstates
  rcases StepLabel.terminates_iff hwanted with ⟨data, state, rfl⟩
  exact ⟨c, c', _, hc, hstep, hstates.1, hstates.2,
    state_changes_along_edges hc hstep trivial⟩

def StepLabel.setsState : StepLabel -> Bool
  | .exec _ (.setState _) => true
  | _ => false

/-- `Host` starts a session from `STATE_TERMINATED`. -/
theorem state_changes_off_edges :
    ¬ forall (c c' : Run) (label : StepLabel),
      Reaches machine DirectPlay8Peer.Constructed Unrestricted c ->
      Step machine c label c' ->
      c'.state.state = c.state.state ∨ c.state.state.Edge c'.state.state := by
  intro hclaim
  have hrun : (replayTo Unrestricted StepLabel.setsState
      (choicesInitialise ++ choicesHost ++
        [.answer {}, .resume 0 {}, .start (.terminateSession []), .resume 0 {},
          .resume 0 {}] ++ choicesHost) (.answer {})).any
      (fun q => q.1.state.state == .terminated && q.2.state.state == .hosting)
      = true := by decide +kernel
  rcases replayTo_step hrun with ⟨c, c', label, hc, _, hstep, hstates⟩
  simp only [Bool.and_eq_true, beq_iff_eq] at hstates
  have hedge := hclaim c c' label hc hstep
  rw [hstates.1, hstates.2] at hedge
  rcases hedge with hsame | hedge
  · cases hsame
  · cases hedge

end Runs

end DirectPlayLite
