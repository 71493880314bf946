import DirectPlayLite.Peer.Connecting
import DirectPlayLite.Peer.States

/-!
# Outgoing connections

A peer that is connecting to the host, or to another peer, is there only in the
state in which the object waits for it.  `connect_fail` changes the state first
and destroys the peers afterwards; as long as it keeps the lock nobody can see
that, and the contract tells its procedures apart from all others.
-/

namespace DirectPlayLite

open Monitor Program

/-!
## What is promised
-/

@[simp] def PeerState.awaitedIn : PeerState -> Option State
  | .connectingHost | .requestingHost => some .connectingToHost
  | .connectingPeer | .requestingPeer => some .connectingToPeers
  | _ => none

namespace DirectPlay8Peer

def AwaitedIn (s : DirectPlay8Peer) (peerId : UInt32) (state : State) : Prop :=
  exists peer, s.peers[peerId]? = some peer ∧
    peer.state.awaitedIn = some state

/-- Peers are only awaited in the state the object is in. -/
def OutgoingOk (s : DirectPlay8Peer) : Prop :=
  forall peerId state, s.AwaitedIn peerId state -> s.state = state

def HostOnce (s : DirectPlay8Peer) : Prop :=
  forall peerId other, s.AwaitedIn peerId .connectingToHost ->
    s.AwaitedIn other .connectingToHost -> peerId = other

instance {s : DirectPlay8Peer} : Decidable s.Awaits :=
  inferInstanceAs (Decidable (_ = true))

end DirectPlay8Peer

/-!
## Conditions
-/

/--
`connect_fail` calls the application only when no outgoing connection is left,
and no other attempt has been started when it, or `Close`, comes back from its
last wait; the host does not end the session while the other peers are being
connected to; a handler goes on with an attempt, behind the messages it raises,
only if it has not failed.
-/
def OutgoingGuarded (s : DirectPlay8Peer) (M : Multiset Proc) :
    StepLabel -> Prop
  | .exec _ (.log (.raised _)) =>
      tokens Proc.isUnwinding M = 0 ∨ s.state ≠ .connectFailed ∨ ¬ s.Awaits
  | .exec (.handleTerminateSession ..) (.setState _)
  | .exec (.handleDestroyPeer ..) (.setState _)
  | .resume (.connectFail ..) _ _
  | .resume (.closing ..) .deleteWorkerPool _ => ¬ s.Awaits
  | .answer (.handleHostConnectOk ..) _ _ => s.state = .connectingToPeers
  | .call (.handleHostConnectOk ..) .connectCheck
  | .call (.handleConnectPeerOk ..) .connectCheck => s.Connecting
  | _ => True

@[simp] def Proc.unwinds : Proc -> Bool
  | .peerDestroyAll .. | .peerDestroy .. | .peerDestroySends ..
  | .peerDestroyAcks .. | .peerDestroyDrained .. | .invokeCallback ..
  | .invokeAck .. | .dispatchDestroyPlayer .. | .connectUnwind .. => true
  | _ => false

/--
Peers are awaited in the state of the object; or the attempt has just failed, if
that may be, and the players are being destroyed.
-/
structure OutgoingInv (exempt : Prop) (s : DirectPlay8Peer)
    (M : Multiset Proc) : Prop where
  once : s.HostOnce
  awaited : s.OutgoingOk ∨
    (exempt ∧ s.state = .connectFailed ∧ 0 < tokens Proc.isUnwinding M)

def Proc.Asserted (s : DirectPlay8Peer) : Proc -> Prop
  | .connectCheck | .connectFail .. | .ioPeerConnected .. => s.Connecting
  | .connectUnwind .. => s.state = .connectFailed
  | _ => True

/-- What is left of the outgoing connections. -/
def Proc.Cleared (s : DirectPlay8Peer) : Proc -> Prop
  | .connectFail .. => ¬ s.Awaits
  | .connectUnwind .. | .peerDestroyAll .. => s.OutgoingOk
  | _ => True

def Command.failsState : Command -> Bool
  | .log (.assertionFailed assertion) => assertion.isAboutState
  | _ => false

def outgoingContract : Contract machine where
  cond := OutgoingGuarded
  inv := OutgoingInv True
  free := DirectPlay8Peer.OutgoingOk
  guar := fun _ command _ => command.failsState = false
  rely := fun _ _ _ => True
  pre := fun p s M => OutgoingInv (p.unwinds = true) s M ∧ p.Asserted s
  post := fun p s s' _ => (s.OutgoingOk -> s'.OutgoingOk) ∧ p.Cleared s'
  faults := fun _ => True
  rely_refl := fun _ _ => trivial
  rely_trans := fun _ _ _ _ _ _ => trivial

/-!
## Changes that await nobody new
-/

namespace DirectPlay8Peer

variable {s s' s'' : DirectPlay8Peer} {peerId : UInt32} {peer : Peer}

theorem not_awaits :
    ¬ s.Awaits ↔ forall peerId state, ¬ s.AwaitedIn peerId state := by
  constructor
  · rintro hnone peerId state ⟨peer, hpeer, hawaited⟩
    apply hnone
    rw [Awaits, List.any_eq_true]
    refine ⟨(peerId, peer),
      Std.ExtTreeMap.mem_toList_iff_getElem?_eq_some.mpr hpeer, ?_⟩
    cases hstate : peer.state <;> simp_all [Action.PeerState.isOutgoing]
  · intro hnone hawaits
    rw [Awaits, List.any_eq_true] at hawaits
    rcases hawaits with ⟨⟨peerId, peer⟩, hmem, houtgoing⟩
    have hpeer := Std.ExtTreeMap.mem_toList_iff_getElem?_eq_some.mp hmem
    cases hawaited : peer.state.awaitedIn with
    | some state => exact hnone peerId state ⟨peer, hpeer, hawaited⟩
    | none =>
        cases hstate : peer.state <;>
          simp_all [Action.PeerState.isOutgoing]

theorem outgoingOk_of_not_awaits (h : ¬ s.Awaits) : s.OutgoingOk :=
  fun peerId state hawaited => absurd hawaited (not_awaits.mp h peerId state)

theorem hostOnce_of_not_awaits (h : ¬ s.Awaits) : s.HostOnce :=
  fun peerId _ hawaited _ => absurd hawaited (not_awaits.mp h peerId _)

theorem OutgoingOk.idle (h : s.OutgoingOk) (hs : ¬ s.Connecting) :
    ¬ s.Awaits := by
  rw [not_awaits]
  intro peerId state hawaited
  have hstate := h peerId state hawaited
  rcases hawaited with ⟨peer, _, hpeer⟩
  apply hs
  cases hpeerState : peer.state <;> simp_all [Connecting]

structure Calm (s s' : DirectPlay8Peer) : Prop where
  state : s'.state = s.state
  awaited : forall peerId state, s'.AwaitedIn peerId state ->
    s.AwaitedIn peerId state

theorem Calm.refl (s : DirectPlay8Peer) : Calm s s := ⟨rfl, fun _ _ h => h⟩

theorem Calm.trans (h : Calm s s') (h' : Calm s' s'') : Calm s s'' where
  state := h'.state.trans h.state
  awaited := fun peerId state hawaited =>
    h.awaited peerId state (h'.awaited peerId state hawaited)

theorem OutgoingOk.calm (h : s.OutgoingOk) (hcalm : Calm s s') :
    s'.OutgoingOk := fun peerId state hawaited =>
  hcalm.state.trans (h peerId state (hcalm.awaited peerId state hawaited))

theorem HostOnce.calm (h : s.HostOnce) (hcalm : Calm s s') : s'.HostOnce :=
  fun peerId other hawaited hother =>
    h peerId other (hcalm.awaited peerId _ hawaited)
      (hcalm.awaited other _ hother)

theorem Calm.not_awaits (h : Calm s s') (hnone : ¬ s.Awaits) : ¬ s'.Awaits := by
  rw [DirectPlay8Peer.not_awaits] at hnone ⊢
  exact fun peerId state hawaited =>
    hnone peerId state (h.awaited peerId state hawaited)

end DirectPlay8Peer

def Command.isCalm : Command -> Bool
  | .setState _ => false
  | .log (.entered _) => false
  | .log (.assertionFailed assertion) => ! assertion.isAboutState
  | .peer _ (.setState state) => state.awaitedIn.isNone
  | .insertPeer _ state _ _ _ _ => state.awaitedIn.isNone
  | _ => true

namespace Command

variable {command : Command} {s : DirectPlay8Peer}

theorem kind_ne_of_isCalm (h : command.isCalm = true) :
    command.kind ≠ .state := by
  intro hkind
  rcases kind_eq_state hkind with ⟨state, rfl | rfl⟩ <;> cases h

theorem failsState_of_isCalm (h : command.isCalm = true) :
    command.failsState = false := by
  unfold failsState
  split
  · simpa [isCalm] using h
  · rfl

theorem calm_of_isCalm (h : command.isCalm = true) :
    s.Calm (command.apply s) where
  state := apply_state (kind_ne_of_isCalm h)
  awaited := by
    rintro peerId state ⟨peer, hpeer, hawaited⟩
    rcases peer_cases hpeer with hsame | ⟨change, before, rfl, hwas, rfl⟩ |
      ⟨inserted, _, _, _, _, rfl, _, rfl⟩
    · exact ⟨peer, hsame, hawaited⟩
    · rcases change.apply_state s.nextAddr before with ⟨assigned, rfl⟩ | hkept
      · have hnone : assigned.awaitedIn = none := by
          simpa [isCalm] using h
        cases hnone.symm.trans hawaited
      · exact ⟨before, hwas, hkept ▸ hawaited⟩
    · have hnone : inserted.awaitedIn = none := by
        simpa [isCalm] using h
      cases hnone.symm.trans hawaited

end Command

section Invariant

variable {exempt exempt' : Prop} {s s' : DirectPlay8Peer} {M : Multiset Proc}
  {p : Proc}

theorem OutgoingInv.calm (h : OutgoingInv exempt s M) (hcalm : s.Calm s') :
    OutgoingInv exempt s' M where
  once := h.once.calm hcalm
  awaited := by
    rcases h.awaited with hok | ⟨hexempt, hs, htokens⟩
    · exact Or.inl (hok.calm hcalm)
    · exact Or.inr ⟨hexempt, hcalm.state.trans hs, htokens⟩

theorem OutgoingInv.mono (h : OutgoingInv exempt s M)
    (himp : exempt -> exempt') : OutgoingInv exempt' s M :=
  ⟨h.once, h.awaited.imp_right fun hrest => ⟨himp hrest.1, hrest.2⟩⟩

theorem OutgoingInv.ok (h : OutgoingInv exempt s M) (hexempt : ¬ exempt) :
    s.OutgoingOk := by
  rcases h.awaited with hok | hrest
  · exact hok
  · exact absurd hrest.1 hexempt

theorem OutgoingInv.ofOk (hok : s.OutgoingOk) (honce : s.HostOnce) :
    OutgoingInv exempt s M := ⟨honce, Or.inl hok⟩

theorem OutgoingInv.ofNone (h : ¬ s.Awaits) : OutgoingInv exempt s M :=
  .ofOk (DirectPlay8Peer.outgoingOk_of_not_awaits h)
    (DirectPlay8Peer.hostOnce_of_not_awaits h)

theorem OutgoingInv.cons (h : OutgoingInv exempt s M) :
    OutgoingInv exempt s (p ::ₘ M) where
  once := h.once
  awaited := by
    rcases h.awaited with hok | ⟨hexempt, hs, htokens⟩
    · exact Or.inl hok
    · have hle : tokens Proc.isUnwinding M ≤ tokens Proc.isUnwinding (p ::ₘ M) :=
        tokens_le (Multiset.le_cons_self M p)
      exact Or.inr ⟨hexempt, hs, htokens.trans_le hle⟩

theorem OutgoingInv.erase (h : OutgoingInv exempt s M)
    (hp : p.isUnwinding = false) : OutgoingInv exempt s (M.erase p) where
  once := h.once
  awaited := by
    rcases h.awaited with hok | ⟨hexempt, hs, htokens⟩
    · exact Or.inl hok
    · rw [← tokens_erase_of_false hp] at htokens
      exact Or.inr ⟨hexempt, hs, htokens⟩

end Invariant

/-!
## Rules
-/

@[simp] def Proc.isUnasserted : Proc -> Bool
  | .connectCheck | .connectFail .. | .ioPeerConnected ..
  | .connectUnwind .. => false
  | _ => true

theorem Proc.asserted_of_isUnasserted {p : Proc} {s : DirectPlay8Peer}
    (h : p.isUnasserted = true) : p.Asserted s := by
  cases p <;> trivial

def calming (exempt : Prop) : Footprint Command Proc Fault where
  commands := fun command => command.isCalm = true
  releases := ¬ exempt
  calls := fun callee => callee.isUnasserted = true ∧
    (exempt -> callee.unwinds = true)
  spawns := fun child => child.isDetached = true
  faults := fun _ => True

section Rules

variable {exempt : Prop} {p : Proc} {callers : List Proc}
  {s : DirectPlay8Peer} {M : Multiset Proc} {α β : Type} {fault : Fault}
  {command : Command} {callee : Proc}

@[simp] theorem calming_commands :
    (calming exempt).commands command ↔ command.isCalm = true := Iff.rfl

@[simp] theorem calming_releases : (calming exempt).releases ↔ ¬ exempt :=
  Iff.rfl

@[simp] theorem calming_calls :
    (calming exempt).calls callee ↔ callee.isUnasserted = true ∧
      (exempt -> callee.unwinds = true) := Iff.rfl

@[simp] theorem calming_spawns :
    (calming exempt).spawns callee ↔ callee.isDetached = true := Iff.rfl

@[simp] theorem calming_faults : (calming exempt).faults fault ↔ True := Iff.rfl

abbrev OutgoingKept (exempt : Prop) (p : Proc) (callers : List Proc)
    (prog : Action α) (s : DirectPlay8Peer) (M : Multiset Proc) : Prop :=
  outgoingContract.wp p callers prog
    (fun _ s' M' => (p :: callers : Multiset Proc) ≤ M' ∧
      OutgoingInv exempt s' M') s M

theorem outgoing_agrees (h : command.isCalm = true) :
    outgoingContract.Agrees p command M s :=
  ⟨Command.failsState_of_isCalm h, fun _ _ => trivial⟩

theorem OutgoingInv.called {s' : DirectPlay8Peer} {M' : Multiset Proc}
    (h : OutgoingInv exempt s M) (h' : OutgoingInv True s' M')
    (hpost : s.OutgoingOk -> s'.OutgoingOk) : OutgoingInv exempt s' M' := by
  rcases h.awaited with hok | hexempt
  · exact .ofOk (hpost hok) h'.once
  · exact h'.mono fun _ => hexempt.1

theorem outgoing_rest {prog : Action α} (huses : prog.Uses (calming exempt))
    (hown : (p :: callers : Multiset Proc) ≤ M)
    (h : OutgoingInv exempt s M) : OutgoingKept exempt p callers prog s M := by
  refine Contract.wp_of_uses huses ?_ ?_ ?_ ?_ ?_ (fun _ _ => trivial) hown h
  · intro hexempt s M h
    exact ⟨h.mono fun _ => trivial, h.ok hexempt⟩
  · intro s M h hfree
    exact .ofOk hfree (OutgoingInv.once h)
  · intro command s M hcalm _ h _
    exact ⟨outgoing_agrees hcalm, h.calm (Command.calm_of_isCalm hcalm)⟩
  · intro callee s M hcall h _
    refine ⟨⟨(h.mono hcall.2).cons, Proc.asserted_of_isUnasserted hcall.1⟩, ?_⟩
    intro s' M' h' hpost
    exact h.called h' hpost.1
  · intro child s M hspawn h _
    have hchild : child.isUnasserted = true := by
      cases child <;> first
        | rfl
        | cases hspawn
    refine ⟨?_, h.cons⟩
    intro s' M' _ h' hfree _ _
    exact ⟨.ofOk hfree (OutgoingInv.once h'), Proc.asserted_of_isUnasserted hchild⟩

theorem outgoing_before {prog : Action α} {f : α -> Action β}
    {post : β -> DirectPlay8Peer -> Multiset Proc -> Prop}
    (huses : prog.Uses (calming exempt))
    (hown : (p :: callers : Multiset Proc) ≤ M) (h : OutgoingInv exempt s M)
    (hnext : forall value s' M', (p :: callers : Multiset Proc) ≤ M' ->
      OutgoingInv exempt s' M' ->
      outgoingContract.wp p callers (f value) post s' M') :
    outgoingContract.wp p callers (prog >>= f) post s M := by
  rw [bind_eq, Contract.wp_bind]
  refine Contract.wp_mono (outgoing_rest huses hown h) ?_
  intro value s' M' h'
  exact hnext value s' M' h'.1 h'.2

theorem outgoing_kept {prog : Action α} {f : α -> Action β}
    {post : β -> DirectPlay8Peer -> Multiset Proc -> Prop}
    (huses : prog.Uses (Kept fun command => command.isCalm = true))
    (hnext : forall value s', s.Calm s' ->
      outgoingContract.wp p callers (f value) post s' M) :
    outgoingContract.wp p callers (prog >>= f) post s M := by
  rw [bind_eq, Contract.wp_bind]
  refine Contract.wp_mono (wp_kept huses (fun _ => trivial)
    (I := fun s' => s.Calm s') ?_ (.refl s)) ?_
  · intro command s' hcalm hbefore _
    exact ⟨outgoing_agrees hcalm, hbefore.trans (Command.calm_of_isCalm hcalm)⟩
  · rintro value s' M' ⟨rfl, hcalm⟩
    exact hnext value s' hcalm

theorem outgoing_assert {assertion : Assertion} {condition : Prop}
    [Decidable condition] {f : Unit -> Action β}
    {post : β -> DirectPlay8Peer -> Multiset Proc -> Prop}
    (hholds : condition) (hnext : outgoingContract.wp p callers (f ()) post s M) :
    outgoingContract.wp p callers
      (Action.assertThat assertion condition >>= f) post s M := by
  rw [bind_eq, Contract.wp_bind]
  apply Contract.wp_onlyIf
  · intro hfails
    exact absurd hholds hfails
  · exact fun _ => hnext

theorem outgoing_assign {state : State} {f : Unit -> Action β}
    {post : β -> DirectPlay8Peer -> Multiset Proc -> Prop}
    (hnone : OutgoingGuarded s M (.exec p (.setState state)) -> ¬ s.Awaits)
    (hnext : forall s', s'.state = state -> ¬ s'.Awaits ->
      outgoingContract.wp p callers (f ()) post s' M) :
    outgoingContract.wp p callers (perform (.setState state) >>= f) post s
      M := by
  intro hcond
  exact ⟨⟨rfl, fun _ _ => trivial⟩, hnext _ rfl (hnone hcond)⟩

theorem outgoing_raise {notification : Notification} {f : Answer -> Action β}
    {post : β -> DirectPlay8Peer -> Multiset Proc -> Prop}
    (h : OutgoingInv exempt s M)
    (hnext : forall answer s' M', (p :: callers : Multiset Proc) ≤ M' ->
      OutgoingInv False s' M' ->
      OutgoingGuarded s' M' (.resume p (.messageHandler notification) answer) ->
      outgoingContract.wp p callers (f answer) post s' M') :
    outgoingContract.wp p callers (Action.raise notification >>= f) post s
      M := by
  intro hcond
  have hcalm : s.Calm ((Command.log (.raised notification)).apply s) :=
    Command.calm_of_isCalm rfl
  have hok : s.OutgoingOk := by
    rcases h.awaited with hok | ⟨_, hfailed, htokens⟩
    · exact hok
    · rcases hcond with hnone | hother | hnobody
      · omega
      · exact absurd hfailed hother
      · exact DirectPlay8Peer.outgoingOk_of_not_awaits hnobody
  refine ⟨outgoing_agrees rfl,
    ⟨.ofOk (hok.calm hcalm) (h.once.calm hcalm), hok.calm hcalm⟩, ?_⟩
  intro s' M' answer hown hinv hfree _ _ _ hresume
  exact hnext answer s' M' hown (.ofOk hfree (OutgoingInv.once hinv)) hresume

theorem outgoing_query {query : Query} {f : Answer -> Action β}
    {post : β -> DirectPlay8Peer -> Multiset Proc -> Prop}
    (hnext : forall answer, OutgoingGuarded s M (.answer p query answer) ->
      outgoingContract.wp p callers (f answer) post s M) :
    outgoingContract.wp p callers (Action.query query >>= f) post s M :=
  fun answer _ hcond => hnext answer hcond

theorem outgoing_invoke {f : Unit -> Action β}
    {post : β -> DirectPlay8Peer -> Multiset Proc -> Prop}
    (h : OutgoingInv exempt s M) (hexempt : exempt -> callee.unwinds = true)
    (hasserted : OutgoingGuarded s M (.call p callee) -> callee.Asserted s)
    (hnext : forall s' M', (p :: callers : Multiset Proc) ≤ M' ->
      OutgoingInv exempt s' M' -> callee.Cleared s' ->
      outgoingContract.wp p callers (f ()) post s' M') :
    outgoingContract.wp p callers (Action.invoke callee >>= f) post s M := by
  intro hcond
  refine ⟨⟨(h.mono hexempt).cons, hasserted hcond⟩, ?_⟩
  intro s' M' hown hinv _ hpost
  exact hnext s' M' hown (h.called hinv hpost.1) hpost.2

/-!
Programs that raise messages keep the contract wherever they are run.
-/

def OutgoingProg (exempt : Prop) (p : Proc) (callers : List Proc)
    (prog : Action α) : Prop :=
  forall s M, (p :: callers : Multiset Proc) ≤ M -> OutgoingInv exempt s M ->
    OutgoingKept exempt p callers prog s M

theorem OutgoingProg.ofUses {prog : Action α}
    (huses : prog.Uses (calming exempt)) :
    OutgoingProg exempt p callers prog :=
  fun _ _ hown h => outgoing_rest huses hown h

theorem OutgoingProg.bind {prog : Action α} {f : α -> Action β}
    (h : OutgoingProg exempt p callers prog)
    (hf : forall value, OutgoingProg exempt p callers (f value)) :
    OutgoingProg exempt p callers (prog >>= f) := by
  intro s M hown hinv
  unfold OutgoingKept
  rw [bind_eq, Contract.wp_bind]
  refine Contract.wp_mono (h s M hown hinv) ?_
  intro value s' M' h'
  exact hf value s' M' h'.1 h'.2

theorem OutgoingProg.onlyIf {condition : Prop} [Decidable condition]
    {prog : Action Unit}
    (h : condition -> OutgoingProg exempt p callers prog) :
    OutgoingProg exempt p callers (onlyIf condition prog) := by
  intro s M hown hinv
  apply Contract.wp_onlyIf
  · exact fun hcondition => h hcondition s M hown hinv
  · exact fun _ => ⟨hown, hinv⟩

theorem OutgoingProg.raise {notification : Notification} :
    OutgoingProg exempt p callers (Action.raise notification) := by
  intro s M hown hinv
  have h : OutgoingKept exempt p callers
      (Action.raise notification >>= Program.ret) s M :=
    outgoing_raise hinv fun _ s' M' hown' h' _ => ⟨hown', h'.mono False.elim⟩
  rwa [bind_eq, bind_ret] at h

end Rules

/-!
## Destroying players
-/

section Unwinding

variable {exempt : Prop} {p : Proc} {callers : List Proc}
  {s : DirectPlay8Peer} {M : Multiset Proc} {peerId : UInt32}
  {result : HRESULT} {reason : DWORD}

theorem complete_outgoing {addr : Nat} :
    OutgoingProg exempt p callers (Action.complete addr result) := by
  unfold Action.complete
  repeat' with_reducible first
    | apply OutgoingProg.raise
    | apply OutgoingProg.onlyIf
    | apply OutgoingProg.bind
    | intro _
    | split
  all_goals exact OutgoingProg.ofUses (by simp [Command.isCalm])

theorem invokeCallback_outgoing {callback : SendCallback} :
    OutgoingProg exempt p callers (Action.invokeCallback callback result) := by
  unfold Action.invokeCallback Action.registerAck
  repeat' with_reducible first
    | apply complete_outgoing
    | apply OutgoingProg.bind
    | intro _
    | split
  all_goals apply OutgoingProg.ofUses
  all_goals with_reducible first
    | apply Action.uses_peerAt
    | apply Action.uses_assertedPeer
    | apply Action.uses_assertThat
    | skip
  all_goals simp [Command.isCalm]

theorem invokeAck_outgoing {callback : AckCallback} {data : List UInt8} :
    OutgoingProg exempt p callers (Action.invokeAck callback result data) := by
  unfold Action.invokeAck
  repeat' with_reducible first
    | apply complete_outgoing
    | split
  apply OutgoingProg.ofUses
  apply Action.uses_createTheGroup <;> simp [Command.isCalm]

theorem dispatchDestroyPlayer_outgoing {player : DPNID} {ctx : Context} :
    OutgoingProg exempt p callers
      (Action.dispatchDestroyPlayer player ctx reason) := by
  unfold Action.dispatchDestroyPlayer
  repeat' with_reducible first
    | apply OutgoingProg.raise
    | apply OutgoingProg.bind
    | intro _
    | split
  all_goals exact OutgoingProg.ofUses (by simp [Command.isCalm])

theorem peerDestroy_outgoing :
    OutgoingProg exempt p callers
      (Action.peerDestroy peerId result reason) ∧
    OutgoingProg exempt p callers
      (Action.peerDestroySends peerId result reason) ∧
    OutgoingProg exempt p callers
      (Action.peerDestroyAcks peerId result reason) := by
  unfold Action.peerDestroy Action.peerDestroySends Action.peerDestroyAcks
  refine ⟨.ofUses ?_, .ofUses ?_, .ofUses ?_⟩
  all_goals
    repeat' with_reducible first
      | apply Action.uses_peerAt
      | apply Action.uses_assertedPeer
      | apply Action.uses_renewPeer
      | apply Action.uses_bind
      | intro _
      | split
  all_goals simp [Command.isCalm]

theorem removePeer_outgoing :
    OutgoingProg exempt p callers
      (Action.renewPeer peerId fun _ => Action.removePeer peerId) := by
  apply OutgoingProg.ofUses
  apply Action.uses_renewPeer
  intro _
  unfold Action.removePeer
  repeat' with_reducible first
    | apply Action.uses_bind
    | intro _
    | split
  all_goals simp [Command.isCalm]

theorem hostLost_outgoing (hnone : ¬ s.Awaits) :
    OutgoingKept False p callers (Action.hostLost result reason) s M := by
  apply outgoing_assign (fun _ => hnone)
  intro s₁ _ hnone₁
  apply outgoing_raise (.ofNone hnone₁ : OutgoingInv False s₁ M)
  intro _ s₂ M₂ hown₂ h₂ _
  refine outgoing_rest ?_ hown₂ h₂
  repeat' with_reducible first
    | apply Action.uses_dispatchDestroyLocalPlayer
    | apply Action.uses_bind
    | intro _
  all_goals simp

theorem peerDestroyDrained_outgoing
    (hown : (p :: callers : Multiset Proc) ≤ M)
    (h : OutgoingInv exempt s M) :
    OutgoingKept exempt p callers
      (Action.peerDestroyDrained peerId result reason) s M := by
  have hremove : OutgoingProg exempt p callers
      (Action.renewPeer peerId fun _ => Action.removePeer peerId) :=
    removePeer_outgoing
  apply wp_peerAt trivial
  intro peer hpeer
  apply Contract.wp_get
  split
  · apply outgoing_kept (by simp [Command.isCalm])
    intro _ s₁ hcalm₁
    apply outgoing_kept (by simp [Command.isCalm])
    intro _ s₂ hcalm₂
    have h₂ := h.calm (hcalm₁.trans hcalm₂)
    apply outgoing_invoke h₂ (fun _ => rfl)
    · exact fun _ => trivial
    intro s₃ M₃ hown₃ h₃ _
    apply outgoing_before (by simp [Command.isCalm]) hown₃ h₃
    intro _ s₄ M₄ hown₄ h₄
    apply Contract.wp_get
    rw [bind_eq, Contract.wp_bind]
    apply Contract.wp_onlyIf
    · intro hhost
      have hok : s₄.OutgoingOk := by
        rcases h₄.awaited with hok | ⟨_, hfailed, _⟩
        · exact hok
        · cases hhost.1.symm.trans hfailed
      have hnone := hok.idle (by simp [DirectPlay8Peer.Connecting, hhost.1])
      refine Contract.wp_mono (hostLost_outgoing hnone) ?_
      intro _ s₅ M₅ h₅
      exact hremove s₅ M₅ h₅.1 (h₅.2.mono False.elim)
    · intro _
      exact hremove s₄ M₄ hown₄ h₄
  have hfail : forall reported, s.Connecting ->
      OutgoingKept exempt p callers (do
        Action.invoke (.connectFail reported [])
        Action.renewPeer peerId fun _ => Action.removePeer peerId) s M := by
    intro reported hconnecting
    have hok : s.OutgoingOk := by
      rcases h.awaited with hok | ⟨_, hfailed, _⟩
      · exact hok
      · rcases hconnecting with hs | hs <;> cases hs.symm.trans hfailed
    apply outgoing_invoke (.ofOk hok h.once : OutgoingInv False s M) False.elim
    · exact fun _ => hconnecting
    intro s₁ M₁ hown₁ h₁ _
    exact hremove s₁ M₁ hown₁ (h₁.mono False.elim)
  split
  · rename_i hhost
    exact hfail _ (Or.inl hhost.1)
  split
  · rename_i hpeers
    exact hfail _ (Or.inr hpeers.1)
  · apply outgoing_rest _ hown h
    unfold Action.removePeer
    repeat' with_reducible first
      | apply Action.uses_bind
      | intro _
      | split
    all_goals simp [Command.isCalm]

theorem peerDestroyAll_outgoing
    (hown : (p :: callers : Multiset Proc) ≤ M)
    (h : OutgoingInv exempt s M) :
    outgoingContract.wp p callers (Action.peerDestroyAll result reason)
      (fun _ s' M' => (p :: callers : Multiset Proc) ≤ M' ∧
        OutgoingInv False s' M') s M := by
  apply Contract.wp_get
  split
  · rename_i hempty
    have hnone : ¬ s.Awaits := by
      rw [DirectPlay8Peer.Awaits, List.head?_eq_none_iff.mp hempty]
      simp
    exact ⟨hown, .ofNone hnone⟩
  · apply outgoing_invoke h (fun _ => rfl)
    · exact fun _ => trivial
    intro s₁ M₁ hown₁ h₁ _ _
    refine ⟨⟨(h₁.mono fun _ => rfl).cons, trivial⟩, ?_⟩
    intro s₂ M₂ hown₂ h₂ _ hpost
    exact ⟨hown₂, .ofOk hpost.2 (OutgoingInv.once h₂)⟩

end Unwinding

/-!
## Starting and ending sessions
-/

section Sessions

variable {p : Proc} {callers : List Proc} {s : DirectPlay8Peer}
  {M : Multiset Proc} {peerId : UInt32} {result : HRESULT} {reason : DWORD}

theorem OutgoingInv.idle (h : OutgoingInv False s M)
    (hs : ¬ s.Connecting) : ¬ s.Awaits := (h.ok id).idle hs

theorem outgoing_unlocked {query : Query} {ready : DirectPlay8Peer -> Bool}
    {f : Answer -> Action Unit}
    {post : Unit -> DirectPlay8Peer -> Multiset Proc -> Prop}
    (h : OutgoingInv False s M)
    (hnext : forall answer s' M', (p :: callers : Multiset Proc) ≤ M' ->
      OutgoingInv False s' M' ->
      OutgoingGuarded s' M' (.resume p query answer) ->
      outgoingContract.wp p callers (f answer) post s' M') :
    outgoingContract.wp p callers (unlocked query ready >>= f) post s M := by
  refine ⟨⟨h.mono False.elim, h.ok id⟩, ?_⟩
  intro s' M' answer hown hinv hfree _ _ _ hresume
  exact hnext answer s' M' hown (.ofOk hfree (OutgoingInv.once hinv)) hresume

theorem initialiseObject_outgoing
    (hown : (.initialiseObject :: callers : Multiset Proc) ≤ M)
    (h : OutgoingInv False s M) :
    OutgoingKept False .initialiseObject callers Action.initialiseObject s
      M := by
  apply Contract.wp_get
  split
  · exact outgoing_rest (by simp [Command.isCalm]) hown h
  rename_i hnew
  have hnone : ¬ s.Awaits :=
    h.idle (by simp_all [DirectPlay8Peer.Connecting])
  apply outgoing_kept (by simp)
  intro startup s₁ hcalm₁
  split
  · exact outgoing_rest (by simp [Command.isCalm]) hown (h.calm hcalm₁)
  apply outgoing_kept (by simp [Command.isCalm])
  intro _ s₂ hcalm₂
  apply outgoing_assign fun _ => (hcalm₁.trans hcalm₂).not_awaits hnone
  intro s₃ _ hnone₃
  exact outgoing_rest (by simp [Command.isCalm]) hown (.ofNone hnone₃)

theorem OutgoingInv.insert {state : PeerState} {awaited : State} {sock : Int}
    {ip : UInt32} {port : UInt16} {playerId : DPNID}
    (h : OutgoingInv False s M) (hawaited : state.awaitedIn = some awaited)
    (hs : s.state = awaited)
    (honce : awaited = .connectingToHost -> ¬ s.Awaits) :
    OutgoingInv False
      ((Command.insertPeer peerId state sock ip port playerId).apply s) M := by
  have hcases : forall other expected, DirectPlay8Peer.AwaitedIn
      ((Command.insertPeer peerId state sock ip port playerId).apply s) other
        expected ->
      s.AwaitedIn other expected ∨ (other = peerId ∧ expected = awaited) := by
    rintro other expected ⟨peer, hpeer, hexpected⟩
    rcases Command.peer_cases hpeer with hsame | ⟨_, _, himpossible, _⟩ |
      ⟨_, _, _, _, _, hinserted, _, rfl⟩
    · exact Or.inl ⟨peer, hsame, hexpected⟩
    · cases himpossible
    · cases hinserted
      exact Or.inr ⟨rfl, Option.some.inj (hexpected.symm.trans hawaited)⟩
  refine .ofOk ?_ ?_
  · intro other expected hother
    rcases hcases other expected hother with hbefore | ⟨_, rfl⟩
    · exact h.ok id other expected hbefore
    · exact hs
  · intro one other hone hother
    rcases hcases one _ hone with hbefore | ⟨rfl, hhost⟩
    · rcases hcases other _ hother with hbefore' | ⟨_, hhost⟩
      · exact h.once one other hbefore hbefore'
      · exact absurd hbefore (DirectPlay8Peer.not_awaits.mp (honce hhost.symm) _ _)
    · rcases hcases other _ hother with hbefore' | ⟨rfl, _⟩
      · exact absurd hbefore'
          (DirectPlay8Peer.not_awaits.mp (honce hhost.symm) _ _)
      · rfl

theorem peerConnect_outgoing {state : PeerState} {awaited : State}
    {address : SockAddr} {playerId : DPNID}
    (h : OutgoingInv False s M) (hawaited : state.awaitedIn = some awaited)
    (hs : forall query answer, OutgoingGuarded s M (.answer p query answer) ->
      s.state = awaited)
    (honce : awaited = .connectingToHost -> ¬ s.Awaits) :
    outgoingContract.wp p callers (Action.peerConnect state address playerId)
      (fun _ s' M' => M' = M ∧ OutgoingInv False s' M' ∧ s'.state = awaited)
      s M := by
  apply Contract.wp_get
  apply outgoing_query
  intro sock hcond
  have hs := hs _ _ hcond
  split
  · exact ⟨rfl, h, hs⟩
  apply outgoing_kept (by simp [Command.isCalm])
  intro _ s₁ hcalm₁
  apply outgoing_kept (by simp)
  intro events s₂ hcalm₂
  have hcalm := hcalm₁.trans hcalm₂
  split
  · exact ⟨rfl, h.calm hcalm, hcalm.state.trans hs⟩
  apply outgoing_kept (by simp)
  intro started s₃ hcalm₃
  replace hcalm := hcalm.trans hcalm₃
  split
  · exact ⟨rfl, h.calm hcalm, hcalm.state.trans hs⟩
  intro _
  have hinsert : OutgoingInv False ((Command.insertPeer s.nextPeerId state
      sock.ret address.ip address.port playerId).apply s₃) M :=
    (h.calm hcalm).insert hawaited (hcalm.state.trans hs)
      fun hhost => hcalm.not_awaits (honce hhost)
  refine ⟨⟨rfl, fun _ _ => trivial⟩, ?_⟩
  apply Contract.wp_get
  rw [Contract.wp_bind]
  apply Contract.wp_onlyIf
  · exact fun _ _ => trivial
  · exact fun _ => ⟨rfl, hinsert, hcalm.state.trans hs⟩

theorem connectTo_outgoing {args : ConnectArgs} {address : SockAddr}
    (hown : (.connect args :: callers : Multiset Proc) ≤ M)
    (hnone : ¬ s.Awaits) :
    OutgoingKept False (.connect args) callers (Action.connectTo args address) s
      M := by
  apply outgoing_kept (by simp)
  intro counter s₁ hcalm₁
  apply outgoing_kept (Action.uses_createAutoSockets (by simp [Command.isCalm])
    (by simp [Command.isCalm]))
  intro _ s₂ hcalm₂
  have hnone₂ := (hcalm₁.trans hcalm₂).not_awaits hnone
  apply Contract.wp_get
  split
  · exact outgoing_rest (by simp [Command.isCalm]) hown (.ofNone hnone₂)
  apply outgoing_kept (Uses.onlyIf fun _ => by simp [Command.isCalm])
  intro _ s₃ hcalm₃
  apply outgoing_kept (by simp [Command.isCalm])
  intro _ s₄ hcalm₄
  apply outgoing_assign fun _ => (hcalm₃.trans hcalm₄).not_awaits hnone₂
  intro s₅ hs₅ hnone₅
  rw [bind_eq, Contract.wp_bind]
  refine Contract.wp_mono (peerConnect_outgoing (.ofNone hnone₅) rfl
    (fun _ _ _ => hs₅) fun _ => hnone₅) ?_
  rintro started s₆ M' ⟨rfl, h₆, _⟩
  refine outgoing_rest ?_ hown h₆
  unfold Action.closeMainSocket
  repeat' with_reducible first
    | apply Action.uses_selectMainSockets
    | apply Action.uses_bind
    | intro _
    | split
  all_goals simp [Command.isCalm]

theorem connect_outgoing {args : ConnectArgs}
    (hown : (.connect args :: callers : Multiset Proc) ≤ M)
    (h : OutgoingInv False s M) :
    OutgoingKept False (.connect args) callers (Action.connect args) s M := by
  apply Contract.wp_get
  split
  case h_6 | h_7 | h_8 | h_9 =>
    rename_i hstate
    have hnone : ¬ s.Awaits :=
      h.idle (by simp [DirectPlay8Peer.Connecting, hstate])
    apply outgoing_kept (by simp [Command.isCalm])
    intro _ s₁ hcalm₁
    apply outgoing_kept (by simp [Command.isCalm])
    intro _ s₂ hcalm₂
    apply outgoing_kept (by simp [Command.isCalm])
    intro _ s₃ hcalm₃
    apply outgoing_kept (by simp [Command.isCalm])
    intro _ s₄ hcalm₄
    have hcalm := hcalm₁.trans (hcalm₂.trans (hcalm₃.trans hcalm₄))
    split
    · exact outgoing_rest (by simp [Command.isCalm]) hown (h.calm hcalm)
    · exact connectTo_outgoing hown (hcalm.not_awaits hnone)
  all_goals exact outgoing_rest (by simp [Command.isCalm]) hown h

theorem startHosting_outgoing {args : HostArgs}
    (hown : (.host args :: callers : Multiset Proc) ≤ M)
    (hnone : ¬ s.Awaits) :
    OutgoingKept False (.host args) callers
      (Action.startHosting args.playerCtx) s M := by
  iterate 5
    apply outgoing_kept (by simp [Command.isCalm])
    intro _ s' hcalm
    replace hnone := hcalm.not_awaits hnone
    clear hcalm
    rename DirectPlay8Peer => s
  apply outgoing_assign fun _ => hnone
  intro s₁ _ hnone₁
  refine outgoing_rest ?_ hown (.ofNone hnone₁)
  repeat' with_reducible first
    | apply Action.uses_bind
    | intro _
  all_goals simp [Command.isCalm]

theorem hostOn_outgoing {args : HostArgs} {port : UInt16}
    (hown : (.host args :: callers : Multiset Proc) ≤ M)
    (hnone : ¬ s.Awaits) :
    OutgoingKept False (.host args) callers (Action.hostOn args port) s M := by
  apply outgoing_kept (Action.uses_createHostSockets (by simp [Command.isCalm])
    (by simp [Command.isCalm]))
  intro _ s₁ hcalm₁
  replace hnone := hcalm₁.not_awaits hnone
  apply Contract.wp_get
  split
  · exact outgoing_rest (by simp [Command.isCalm]) hown (.ofNone hnone)
  apply outgoing_kept Action.uses_selectMainSockets
  intro selected s₂ hcalm₂
  replace hnone := hcalm₂.not_awaits hnone
  split
  · exact outgoing_rest (by simp [Command.isCalm]) hown (.ofNone hnone)
  apply outgoing_kept (Action.uses_openDiscovery (by simp [Command.isCalm]))
  intro opened s₃ hcalm₃
  replace hnone := hcalm₃.not_awaits hnone
  split
  · exact outgoing_rest (by simp [Command.isCalm]) hown (.ofNone hnone)
  · exact startHosting_outgoing hown hnone

theorem host_outgoing {args : HostArgs}
    (hown : (.host args :: callers : Multiset Proc) ≤ M)
    (h : OutgoingInv False s M) :
    OutgoingKept False (.host args) callers (Action.host args) s M := by
  apply Contract.wp_get
  split
  case h_6 | h_7 | h_8 | h_9 =>
    rename_i hstate
    have hnone : ¬ s.Awaits :=
      h.idle (by simp [DirectPlay8Peer.Connecting, hstate])
    split
    · exact outgoing_rest (by simp [Command.isCalm]) hown h
    apply outgoing_kept (by simp)
    intro created s₁ hcalm₁
    replace hnone := hcalm₁.not_awaits hnone
    apply outgoing_kept (by simp [Command.isCalm])
    intro _ s₂ hcalm₂
    replace hnone := hcalm₂.not_awaits hnone
    split
    · exact outgoing_rest (by simp [Command.isCalm]) hown (.ofNone hnone)
    apply outgoing_kept (by simp [Command.isCalm])
    intro _ s₃ hcalm₃
    replace hnone := hcalm₃.not_awaits hnone
    apply outgoing_kept
      (Action.uses_setDescription (by simp [Command.isCalm]) (by simp))
    intro _ s₄ hcalm₄
    replace hnone := hcalm₄.not_awaits hnone
    split
    · exact outgoing_rest (by simp [Command.isCalm]) hown (.ofNone hnone)
    apply outgoing_kept (by simp [Command.isCalm])
    intro _ s₅ hcalm₅
    exact hostOn_outgoing hown (hcalm₅.not_awaits hnone)
  all_goals exact outgoing_rest (by simp [Command.isCalm]) hown h

theorem close_outgoing {flags : DWORD}
    (hown : (.close flags :: callers : Multiset Proc) ≤ M)
    (h : OutgoingInv False s M) :
    OutgoingKept False (.close flags) callers (Action.close flags) s M := by
  have hend : forall s' M' wasHosting wasConnected,
      (.close flags :: callers : Multiset Proc) ≤ M' -> ¬ s'.Awaits ->
      OutgoingKept False (.close flags) callers (do
        perform (.setState .closing)
        Action.invoke (.closing flags wasHosting wasConnected)) s' M' := by
    intro s' M' wasHosting wasConnected hown' hnone'
    apply outgoing_assign fun _ => hnone'
    intro s'' _ hnone''
    exact outgoing_rest (by simp) hown' (.ofNone hnone'')
  apply Contract.wp_get
  split
  · exact outgoing_rest (by simp [Command.isCalm]) hown h
  split
  · exact outgoing_rest (by simp [Command.isCalm]) hown h
  apply outgoing_kept (Action.uses_closeMainSockets (by simp [Command.isCalm]))
  intro _ s₁ hcalm₁
  rw [bind_eq, Contract.wp_bind]
  apply Contract.wp_onlyIf
  · intro hconnecting _
    have hconnecting₁ : s₁.Connecting := by
      rwa [DirectPlay8Peer.Connecting, hcalm₁.state]
    refine ⟨⟨((h.calm hcalm₁).mono False.elim).cons, hconnecting₁⟩, ?_⟩
    intro s₂ M₂ hown₂ _ _ hpost
    exact hend s₂ M₂ _ _ hown₂ hpost.2
  · intro hidle
    exact hend s₁ M _ _ hown (hcalm₁.not_awaits (h.idle hidle))

theorem closing_outgoing {flags : DWORD} {wasHosting wasConnected : Bool}
    (hown : (.closing flags wasHosting wasConnected :: callers :
      Multiset Proc) ≤ M) (h : OutgoingInv False s M) :
    OutgoingKept False (.closing flags wasHosting wasConnected) callers
      (Action.closing flags wasHosting wasConnected) s M := by
  apply outgoing_before
    (Uses.onlyIf fun _ => Action.uses_dispatchDestroyLocalPlayer (by simp))
    hown h
  intro _ s₁ M₁ hown₁ h₁
  apply outgoing_before (Action.uses_closePeers (by simp) (by simp) (by simp))
    hown₁ h₁
  intro _ s₂ M₂ hown₂ h₂
  apply outgoing_before
    (Uses.onlyIf fun _ => Action.uses_dispatchDestroyLocalPlayer (by simp))
    hown₂ h₂
  intro _ s₃ M₃ hown₃ h₃
  apply outgoing_before (by simp) hown₃ h₃
  intro _ s₄ M₄ hown₄ h₄
  apply outgoing_before (by simp) hown₄ h₄
  intro _ s₅ M₅ hown₅ h₅
  apply outgoing_unlocked h₅
  intro _ s₆ M₆ hown₆ h₆ hnone
  apply outgoing_kept (by simp [Command.isCalm])
  intro _ s₇ hcalm₇
  apply outgoing_kept (by simp [Command.isCalm])
  intro _ s₈ hcalm₈
  apply outgoing_assign fun _ => (hcalm₇.trans hcalm₈).not_awaits hnone
  intro s₉ _ hnone₉
  exact outgoing_rest (by simp [Command.isCalm]) hown₆ (.ofNone hnone₉)

theorem terminateSession_outgoing {data : List UInt8}
    (hown : (.terminateSession data :: callers : Multiset Proc) ≤ M)
    (h : OutgoingInv False s M) :
    OutgoingKept False (.terminateSession data) callers
      (Action.terminateSession data) s M := by
  apply Contract.wp_get
  split
  · exact outgoing_rest (by simp [Command.isCalm]) hown h
  rename_i hnone
  have hidle : ¬ s.Connecting := by
    rintro (hs | hs) <;> simp [hs, Action.hostStateError] at hnone
  apply outgoing_kept (Action.uses_closeMainSockets (by simp [Command.isCalm]))
  intro _ s₁ hcalm₁
  apply outgoing_kept
  · apply Uses.forEach
    intro peerId _
    exact Action.uses_bind (by simp [Command.isCalm]) fun _ => by
      simp [Command.isCalm]
  intro _ s₂ hcalm₂
  apply outgoing_assign
    fun _ => (hcalm₁.trans hcalm₂).not_awaits (h.idle hidle)
  intro s₃ _ hnone₃
  refine outgoing_rest ?_ hown (.ofNone hnone₃)
  repeat' with_reducible first
    | apply Action.uses_dispatchDestroyLocalPlayer
    | apply Uses.forEach
    | apply Action.uses_bind
    | intro _
    | split
  all_goals simp [Command.isCalm]

theorem sessionTerminated_outgoing {data : List UInt8} {farewell : Action Unit}
    (hown : (p :: callers : Multiset Proc) ≤ M)
    (hnone : OutgoingGuarded s M (.exec p (.setState .terminated)) ->
      ¬ s.Awaits) (hfarewell : farewell.Uses (calming False)) :
    OutgoingKept False p callers (Action.sessionTerminated data farewell) s
      M := by
  apply outgoing_assign hnone
  intro s₁ _ hnone₁
  refine outgoing_rest ?_ hown (.ofNone hnone₁)
  repeat' with_reducible first
    | apply Action.uses_dispatchDestroyLocalPlayer
    | apply Action.uses_bind
    | intro _
  all_goals simp [Command.isCalm, hfarewell]

theorem handleTerminateSession_outgoing {pd : PacketDeserialiser}
    (hown : (.handleTerminateSession peerId pd :: callers :
      Multiset Proc) ≤ M) (h : OutgoingInv False s M) :
    OutgoingKept False (.handleTerminateSession peerId pd) callers
      (Action.handleTerminateSession peerId pd) s M := by
  apply wp_assertedPeer trivial (outgoing_agrees rfl)
  intro peer hpeer
  apply Contract.wp_get
  apply wp_caught
  · intro data _
    split
    · exact ⟨hown, h⟩
    split
    · exact ⟨hown, h⟩
    · exact sessionTerminated_outgoing hown (fun hnone => hnone) (by simp)
  · exact fun _ _ => ⟨hown, h⟩

theorem handleDestroyPeer_outgoing {pd : PacketDeserialiser}
    (hown : (.handleDestroyPeer peerId pd :: callers : Multiset Proc) ≤ M)
    (h : OutgoingInv False s M) :
    OutgoingKept False (.handleDestroyPeer peerId pd) callers
      (Action.handleDestroyPeer peerId pd) s M := by
  apply wp_assertedPeer trivial (outgoing_agrees rfl)
  intro peer hpeer
  apply Contract.wp_get
  apply wp_caught
  · intro playerId _
    split
    · exact ⟨hown, h⟩
    split
    · exact ⟨hown, h⟩
    split
    · apply wp_caught
      · intro data _
        apply sessionTerminated_outgoing hown (fun hnone => hnone)
        apply Action.uses_bind (by simp)
        intro _
        exact Action.uses_sendToConnected (by simp [Command.isCalm])
      · exact fun _ _ => ⟨hown, h⟩
    split
    · exact ⟨hown, h⟩
    · exact outgoing_rest (by simp) hown h
  · exact fun _ _ => ⟨hown, h⟩

end Sessions

/-!
## Connecting
-/

section Joining

variable {callers : List Proc} {s : DirectPlay8Peer} {M : Multiset Proc}
  {peerId : UInt32} {pd : PacketDeserialiser}

theorem connectCheck_outgoing
    (hown : (.connectCheck :: callers : Multiset Proc) ≤ M)
    (h : OutgoingInv False s M) (hs : s.Connecting) :
    OutgoingKept False .connectCheck callers Action.connectCheck s M := by
  apply Contract.wp_get
  apply outgoing_assert hs
  split
  · exact ⟨hown, h⟩
  rename_i hnone
  apply outgoing_assign fun _ => hnone
  intro s₁ _ hnone₁
  refine outgoing_rest ?_ hown (.ofNone hnone₁)
  repeat' with_reducible first
    | apply Action.uses_bind
    | intro _
  all_goals simp [Command.isCalm]

theorem connectFail_outgoing {result : HRESULT} {reply : List UInt8}
    (h : OutgoingInv False s M) (hs : s.Connecting) :
    outgoingContract.wp (.connectFail result reply) callers
      (Action.connectFail result reply)
      (fun _ s' M' =>
        (.connectFail result reply :: callers : Multiset Proc) ≤ M' ∧
          ¬ s'.Awaits) s M := by
  apply Contract.wp_get
  apply outgoing_assert hs
  intro _
  refine ⟨⟨rfl, fun _ _ => trivial⟩, ?_⟩
  apply outgoing_kept (Action.uses_closeMainSockets (by simp [Command.isCalm]))
  intro _ s₁ hcalm₁ _
  -- those who are still awaited are destroyed before the lock is given up
  have honce : s₁.HostOnce :=
    DirectPlay8Peer.HostOnce.calm (s := (Command.setState .connectFailed).apply s)
      h.once hcalm₁
  have hfailed : s₁.state = .connectFailed := hcalm₁.state
  refine ⟨⟨⟨honce, Or.inr ⟨rfl, hfailed, ?_⟩⟩, hfailed⟩, ?_⟩
  · rw [tokens_cons_of_true rfl]
    omega
  intro s₂ M₂ hown₂ h₂ _ hpost
  apply Contract.wp_get
  apply outgoing_raise (.ofOk hpost.2 (OutgoingInv.once h₂) :
    OutgoingInv False s₂ M₂)
  intro _ s₃ M₃ hown₃ _ hnone
  apply outgoing_kept (by simp [Command.isCalm])
  intro _ s₄ hcalm₄ _
  exact ⟨⟨rfl, fun _ _ => trivial⟩, hown₃, hcalm₄.not_awaits hnone⟩

theorem connectUnwind_outgoing {toPeers : Bool}
    (h : OutgoingInv True s M) :
    OutgoingKept False (.connectUnwind toPeers) callers
      (Action.connectUnwind toPeers) s M := by
  apply outgoing_invoke h (fun _ => rfl)
  · exact fun _ => trivial
  intro s₁ M₁ hown₁ h₁ hok
  exact outgoing_rest
    (Uses.onlyIf fun _ => Action.uses_dispatchDestroyLocalPlayer (by simp))
    hown₁ (.ofOk hok h₁.once)

theorem cancelAsyncOperation_outgoing {handle : DPNHANDLE} {flags : DWORD}
    (hown : (.cancelAsyncOperation handle flags :: callers :
      Multiset Proc) ≤ M) (h : OutgoingInv False s M) :
    OutgoingKept False (.cancelAsyncOperation handle flags) callers
      (Action.cancelAsyncOperation handle flags) s M := by
  apply Contract.wp_get
  split
  · refine outgoing_rest ?_ hown h
    repeat' with_reducible first
      | apply Action.uses_bind
      | intro _
      | split
    all_goals simp [Command.isCalm]
  split
  · have hall : OutgoingProg False (.cancelAsyncOperation handle flags) callers
        (do
          onlyIf (hasFlag flags dpnCancelAllOperations)
            (Action.invoke .cancelAllSends)
          Action.returns .cancelAsyncOperation sOk) := by
      apply OutgoingProg.ofUses
      exact Action.uses_bind (Uses.onlyIf fun _ => by simp) fun _ => by
        simp [Command.isCalm]
    rw [bind_eq, Contract.wp_bind]
    apply Contract.wp_onlyIf
    · rintro ⟨_, hconnecting, _⟩ _
      have hs : s.Connecting := of_decide_eq_true hconnecting
      refine ⟨⟨(h.mono False.elim).cons, hs⟩, ?_⟩
      intro s₁ M₁ hown₁ h₁ _ hpost
      exact hall s₁ M₁ hown₁ (h.called h₁ hpost.1)
    · exact fun _ => hall s M hown h
  by_cases henum : handle &&& HandleAllocator.typeMask =
      HandleAllocator.typeBits .enum
  · rw [if_pos henum]
    refine outgoing_rest ?_ hown h
    split <;> simp [Command.isCalm]
  rw [if_neg henum]
  by_cases hconnect : handle &&& HandleAllocator.typeMask =
      HandleAllocator.typeBits .connect
  · rw [if_pos hconnect]
    split
    · exact outgoing_rest (by simp [Command.isCalm]) hown h
    split
    · rename_i hconnecting
      have hs : s.Connecting := of_decide_eq_true hconnecting
      apply outgoing_invoke h False.elim
      · exact fun _ => hs
      intro s₁ M₁ hown₁ h₁ _
      exact outgoing_rest (by simp [Command.isCalm]) hown₁ h₁
    · exact outgoing_rest (by simp [Command.isCalm]) hown h
  rw [if_neg hconnect]
  refine outgoing_rest ?_ hown h
  repeat' with_reducible first
    | apply Action.uses_cancelSend
    | apply Action.uses_bind
    | intro _
    | split
  all_goals simp [Command.isCalm]

theorem joinGroups_outgoing {p : Proc} {next : Action Unit}
    {groups : List DPNID} (hnext : OutgoingProg False p callers next) :
    OutgoingProg False p callers (Action.joinGroups peerId next groups) := by
  induction groups with
  | nil => exact hnext
  | cons groupId rest ih =>
      unfold Action.joinGroups Action.renewPeer
      repeat' with_reducible first
        | exact ih
        | apply OutgoingProg.raise
        | apply OutgoingProg.bind
        | intro _
        | split
      all_goals apply OutgoingProg.ofUses
      all_goals with_reducible first
        | apply Action.uses_peerAt
        | skip
      all_goals simp [Command.isCalm]

theorem connectToPeers_outgoing {entries : List Action.PeerEntry} :
    OutgoingProg False (.handleHostConnectOk peerId pd) callers
      (Action.connectToPeers entries) := by
  induction entries with
  | nil =>
      intro s M hown h
      have hcheck : OutgoingKept False (.handleHostConnectOk peerId pd) callers
          (Action.invoke .connectCheck >>= Program.ret) s M :=
        outgoing_invoke h False.elim (fun hs => hs)
          fun s' M' hown' h' _ => ⟨hown', h'⟩
      exact hcheck
  | cons entry rest ih =>
      intro s M hown h
      unfold Action.connectToPeers OutgoingKept
      rw [bind_eq, Contract.wp_bind]
      refine Contract.wp_mono (peerConnect_outgoing h rfl (fun _ _ hs => hs)
        (by simp)) ?_
      rintro started s₁ M' ⟨rfl, h₁, hs₁⟩
      split
      · exact ih s₁ M' hown h₁
      · have hfail : OutgoingKept False (.handleHostConnectOk peerId pd) callers
            (Action.invoke (.connectFail dpnErrPlayerNotReachable []) >>=
              Program.ret) s₁ M' :=
          outgoing_invoke h₁ False.elim (fun _ => Or.inr hs₁)
            fun s' M' hown' h' _ => ⟨hown', h'⟩
        exact hfail

theorem OutgoingInv.state_eq (h : OutgoingInv False s M) {peer : Peer}
    (hpeer : s.peers[peerId]? = some peer) {state : State}
    (hstate : peer.state.awaitedIn = some state) : s.state = state :=
  h.ok id peerId state ⟨peer, hpeer, hstate⟩

theorem calm_request {state : PeerState} {before : Peer}
    (hbefore : s.peers[peerId]? = some before)
    (hsame : state.awaitedIn = before.state.awaitedIn) :
    s.Calm ((Command.peer peerId (.setState state)).apply s) where
  state := Command.applyPeer_state peerId _
  awaited := by
    rintro other expected ⟨peer, hpeer, hexpected⟩
    rcases Command.peer_cases hpeer with hkept | ⟨_, found, hcommand, hfound, rfl⟩ |
      ⟨_, _, _, _, _, himpossible, _⟩
    · exact ⟨peer, hkept, hexpected⟩
    · cases hcommand
      cases hbefore.symm.trans hfound
      exact ⟨before, hbefore, hsame ▸ hexpected⟩
    · cases himpossible

theorem request_outgoing {p : Proc} {priority : SendPriority}
    {packet : PacketSerialiser} {state : PeerState} {before : Peer}
    (hown : (p :: callers : Multiset Proc) ≤ M)
    (h : OutgoingInv False s M) (hbefore : s.peers[peerId]? = some before)
    (hsame : state.awaitedIn = before.state.awaitedIn) :
    OutgoingKept False p callers (do
      Action.sendPacket peerId priority packet .nothing
      Action.ofPeer peerId (.setState state)) s M := by
  intro _
  have hcalm₁ : s.Calm ((Command.peer peerId
      (.send priority packet.rawPacket 0 .nothing)).apply s) :=
    Command.calm_of_isCalm rfl
  have hafter : ((Command.peer peerId
      (.send priority packet.rawPacket 0 .nothing)).apply s).peers[peerId]? =
        some (PeerCommand.apply s.nextAddr before
          (.send priority packet.rawPacket 0 .nothing)) := by
    simp [Command.apply, Command.applyPeer, hbefore]
  refine ⟨outgoing_agrees rfl, ?_⟩
  intro _
  exact ⟨⟨rfl, fun _ _ => trivial⟩, hown,
    (h.calm hcalm₁).calm (calm_request hafter hsame)⟩

theorem ioPeerConnected_outgoing
    (hown : (.ioPeerConnected peerId :: callers : Multiset Proc) ≤ M)
    (h : OutgoingInv False s M) (hs : s.Connecting) :
    OutgoingKept False (.ioPeerConnected peerId) callers
      (Action.ioPeerConnected peerId) s M := by
  have hfail : forall s' M' reported,
      (.ioPeerConnected peerId :: callers : Multiset Proc) ≤ M' ->
      OutgoingInv False s' M' -> s'.Connecting ->
      OutgoingKept False (.ioPeerConnected peerId) callers
        (Action.invoke (.connectFail reported [])) s' M' := by
    intro s' M' reported hown' h' hs' _
    refine ⟨⟨(h'.mono False.elim).cons, hs'⟩, ?_⟩
    intro s'' M'' hown'' h'' _ hpost
    exact ⟨hown'', h'.called h'' hpost.1⟩
  have hrest : forall s' M' (option : Answer),
      (.ioPeerConnected peerId :: callers : Multiset Proc) ≤ M' ->
      OutgoingInv False s' M' ->
      OutgoingKept False (.ioPeerConnected peerId) callers (do
        let peer ← Action.peerAt peerId .useAfterFree
        let s ← get
        if option.err = 0 then
          if peer.state = .connectingHost then do
            Action.sendPacket peerId .medium (Action.connectHostPacket s) .nothing
            Action.ofPeer peerId (.setState .requestingHost)
          else if peer.state = .connectingPeer then do
            Action.sendPacket peerId .high (Action.connectPeerPacket s) .nothing
            Action.ofPeer peerId (.setState .requestingPeer)
          else pure ()
        else
          if peer.state = .connectingHost then
            Action.invoke (.connectFail dpnErrNoConnection [])
          else if peer.state = .connectingPeer then
            Action.invoke (.connectFail dpnErrPlayerNotReachable [])
          else pure ()) s' M' := by
    intro s' M' option hown' h'
    apply wp_peerAt trivial
    intro peer hpeer
    apply Contract.wp_get
    split
    · split
      · rename_i hstate
        exact request_outgoing hown' h' hpeer (by rw [hstate]; rfl)
      split
      · rename_i hstate
        exact request_outgoing hown' h' hpeer (by rw [hstate]; rfl)
      · exact ⟨hown', h'⟩
    · split
      · rename_i hstate
        exact hfail s' M' _ hown' h'
          (Or.inl (h'.state_eq hpeer (by rw [hstate]; rfl)))
      split
      · rename_i hstate
        exact hfail s' M' _ hown' h'
          (Or.inr (h'.state_eq hpeer (by rw [hstate]; rfl)))
      · exact ⟨hown', h'⟩
  apply wp_assertedPeer trivial (outgoing_agrees rfl)
  intro peer hpeer
  apply outgoing_query
  intro option _
  rw [bind_eq, Contract.wp_bind]
  apply Contract.wp_onlyIf
  · intro _
    refine Contract.wp_mono (hfail s M _ hown h hs) ?_
    intro _ s₁ M₁ h₁
    exact hrest s₁ M₁ option h₁.1 h₁.2
  · exact fun _ => hrest s M option hown h

theorem ioPeerTriggered_outgoing
    (hown : (.ioPeerTriggered peerId :: callers : Multiset Proc) ≤ M)
    (h : OutgoingInv False s M) :
    OutgoingKept False (.ioPeerTriggered peerId) callers
      (Action.workerCallback (Action.ioPeerTriggered peerId)) s M := by
  have hleave : OutgoingProg False (.ioPeerTriggered peerId) callers
      (perform .leaveWorker) := .ofUses (by simp [Command.isCalm])
  apply outgoing_kept (by simp [Command.isCalm])
  intro _ s₁ hcalm₁
  have h₁ := h.calm hcalm₁
  rw [bind_eq, Contract.wp_bind]
  apply wp_renewPeer
  · intro peer hpeer
    apply Contract.wp_get
    have hconnected : s₁.Connecting -> outgoingContract.wp
        (.ioPeerTriggered peerId) callers
        (Action.invoke (.ioPeerConnected peerId))
        (fun _ => OutgoingKept False (.ioPeerTriggered peerId) callers
          (perform .leaveWorker)) s₁ M := by
      intro hs₁ _
      refine ⟨⟨(h₁.mono False.elim).cons, hs₁⟩, ?_⟩
      intro s₂ M₂ hown₂ h₂ _ hpost
      exact hleave s₂ M₂ hown₂ (h₁.called h₂ hpost.1)
    split
    · rename_i hstate
      have hs₁ := h₁.state_eq hpeer (show peer.state.awaitedIn = _ by rw [hstate]; rfl)
      exact outgoing_assert hs₁ (hconnected (Or.inl hs₁))
    split
    · rename_i hstate
      have hs₁ := h₁.state_eq hpeer (show peer.state.awaitedIn = _ by rw [hstate]; rfl)
      exact outgoing_assert hs₁ (hconnected (Or.inr hs₁))
    · apply outgoing_before (by simp) hown h₁
      intro _ s₂ M₂ hown₂ h₂
      refine Contract.wp_mono (outgoing_rest (by simp) hown₂ h₂) ?_
      intro _ s₃ M₃ h₃
      exact hleave s₃ M₃ h₃.1 h₃.2
  · exact fun _ => hleave s₁ M hown h₁

theorem handleHostConnectFail_outgoing
    (hown : (.handleHostConnectFail peerId pd :: callers : Multiset Proc) ≤ M)
    (h : OutgoingInv False s M) :
    OutgoingKept False (.handleHostConnectFail peerId pd) callers
      (Action.handleHostConnectFail peerId pd) s M := by
  apply wp_assertedPeer trivial (outgoing_agrees rfl)
  intro peer hpeer
  apply Contract.wp_get
  split
  · exact ⟨hown, h⟩
  rename_i hstate
  have hs : s.state = .connectingToHost :=
    h.state_eq hpeer (by rw [not_ne_iff.mp hstate]; rfl)
  apply outgoing_assert hs
  intro _
  refine ⟨⟨(h.mono False.elim).cons, Or.inl hs⟩, ?_⟩
  intro s₁ M₁ hown₁ h₁ _ hpost
  exact ⟨hown₁, h.called h₁ hpost.1⟩

theorem handleConnectPeerFail_outgoing
    (hown : (.handleConnectPeerFail peerId pd :: callers : Multiset Proc) ≤ M)
    (h : OutgoingInv False s M) :
    OutgoingKept False (.handleConnectPeerFail peerId pd) callers
      (Action.handleConnectPeerFail peerId pd) s M := by
  apply wp_assertedPeer trivial (outgoing_agrees rfl)
  intro peer hpeer
  apply Contract.wp_get
  split
  · exact ⟨hown, h⟩
  rename_i hstate
  have hs : s.state = .connectingToPeers :=
    h.state_eq hpeer (by rw [not_ne_iff.mp hstate]; rfl)
  apply outgoing_assert hs
  intro _
  refine ⟨⟨(h.mono False.elim).cons, Or.inr hs⟩, ?_⟩
  intro s₁ M₁ hown₁ h₁ _ hpost
  exact ⟨hown₁, h.called h₁ hpost.1⟩

theorem handleConnectPeerOk_outgoing
    (hown : (.handleConnectPeerOk peerId pd :: callers : Multiset Proc) ≤ M)
    (h : OutgoingInv False s M) :
    OutgoingKept False (.handleConnectPeerOk peerId pd) callers
      (Action.handleConnectPeerOk peerId pd) s M := by
  have hcheck : OutgoingProg False (.handleConnectPeerOk peerId pd) callers
      (Action.invoke .connectCheck) := by
    intro s' M' hown' h' hs'
    refine ⟨⟨(h'.mono False.elim).cons, hs'⟩, ?_⟩
    intro s'' M'' hown'' h'' _ hpost
    exact ⟨hown'', h'.called h'' hpost.1⟩
  apply wp_assertedPeer trivial (outgoing_agrees rfl)
  intro peer hpeer
  apply Contract.wp_get
  split
  · exact ⟨hown, h⟩
  rename_i hstate
  have hs : s.state = .connectingToPeers :=
    h.state_eq hpeer (by rw [not_ne_iff.mp hstate]; rfl)
  apply outgoing_assert hs
  apply wp_fetch (fun _ => trivial)
  intro ok hok
  apply outgoing_kept (by simp [Command.isCalm])
  intro _ s₁ hcalm₁
  apply outgoing_kept (by simp [Command.isCalm])
  intro _ s₂ hcalm₂
  apply outgoing_kept (by simp [Command.isCalm])
  intro _ s₃ hcalm₃
  apply outgoing_raise (h.calm (hcalm₁.trans (hcalm₂.trans hcalm₃)))
  intro cp s₄ M₄ hown₄ h₄ _
  apply wp_renewPeer
  · intro renewed _
    apply outgoing_before (by simp [Command.isCalm]) hown₄ h₄
    intro _ s₅ M₅ hown₅ h₅
    exact joinGroups_outgoing hcheck s₅ M₅ hown₅ h₅
  · exact fun _ => ⟨hown₄, h₄⟩

theorem welcomed_not_awaits {s₁ : DirectPlay8Peer}
    (h : OutgoingInv False s M) {peer : Peer}
    (hpeer : s.peers[peerId]? = some peer)
    (hstate : peer.state = .requestingHost) (hcalm : s.Calm s₁) :
    ¬ ((Command.peer peerId (.setState .connected)).apply s₁).Awaits := by
  have hs : s.state = .connectingToHost :=
    h.state_eq hpeer (by rw [hstate]; rfl)
  rw [DirectPlay8Peer.not_awaits]
  rintro other state ⟨found, hfound, hawaited⟩
  rcases Command.peer_cases hfound with hkept | ⟨_, before, hcommand, _, rfl⟩ |
    ⟨_, _, _, _, _, himpossible, _⟩
  · have hbefore := hcalm.awaited other state ?_
    · have hhost : state = .connectingToHost :=
        (h.ok id other state hbefore).symm.trans hs
      subst hhost
      have hself : s.AwaitedIn peerId .connectingToHost :=
        ⟨peer, hpeer, by rw [hstate]; rfl⟩
      have hsame : other = peerId := h.once other peerId hbefore hself
      subst hsame
      have hassigned : found.state = .connected := by
        simp only [Command.apply, Command.applyPeer, hkept] at hfound
        rw [Std.ExtTreeMap.getElem?_insert_self] at hfound
        rw [← Option.some.inj hfound]
        rfl
      rw [hassigned] at hawaited
      cases hawaited
    · exact ⟨found, hkept, hawaited⟩
  · cases hcommand
    cases hawaited
  · cases himpossible

theorem handleHostConnectOk_outgoing
    (hown : (.handleHostConnectOk peerId pd :: callers : Multiset Proc) ≤ M)
    (h : OutgoingInv False s M) :
    OutgoingKept False (.handleHostConnectOk peerId pd) callers
      (Action.handleHostConnectOk peerId pd) s M := by
  apply wp_assertedPeer trivial (outgoing_agrees rfl)
  intro peer hpeer
  apply Contract.wp_get
  split
  · exact ⟨hown, h⟩
  rename_i hstate
  have hrequesting : peer.state = .requestingHost := not_ne_iff.mp hstate
  have hs : s.state = .connectingToHost :=
    h.state_eq hpeer (by rw [hrequesting]; rfl)
  apply outgoing_assert hs
  apply wp_fetch (fun _ => trivial)
  intro ok hok
  apply outgoing_kept (by simp [Command.isCalm])
  intro _ s₁ hcalm
  iterate 10
    apply outgoing_kept (by simp [Command.isCalm])
    intro _ s₂ hcalm₂
    replace hcalm := hcalm.trans hcalm₂
    clear hcalm₂
    rename DirectPlay8Peer => s₁
  intro _
  refine ⟨outgoing_agrees rfl, ?_⟩
  apply outgoing_assign fun _ => welcomed_not_awaits h hpeer hrequesting hcalm
  intro s₂ _ hnone₂
  apply Contract.wp_get
  apply outgoing_raise (.ofNone hnone₂ : OutgoingInv False s₂ M)
  intro cp s₃ M₃ hown₃ h₃ _
  apply outgoing_before (by simp [Command.isCalm]) hown₃ h₃
  intro _ s₄ M₄ hown₄ h₄
  apply wp_peerAt trivial
  intro renewed _
  apply outgoing_raise h₄
  intro cp' s₅ M₅ hown₅ h₅ _
  apply wp_renewPeer
  · intro _ _
    apply outgoing_before (by simp [Command.isCalm]) hown₅ h₅
    intro _ s₆ M₆ hown₆ h₆
    exact joinGroups_outgoing connectToPeers_outgoing s₆ M₆ hown₆ h₆
  · exact fun _ => ⟨hown₅, h₅⟩

end Joining

/-!
## Every procedure
-/

def Proc.leadsAttempts : Proc -> Bool
  | .initialiseObject | .connect .. | .host .. | .close .. | .closing ..
  | .terminateSession .. | .cancelAsyncOperation .. | .ioPeerTriggered ..
  | .ioPeerConnected .. | .handleHostConnectOk .. | .handleHostConnectFail ..
  | .handleConnectPeerOk .. | .handleConnectPeerFail ..
  | .handleDestroyPeer .. | .handleTerminateSession .. | .connectCheck
  | .connectFail .. => true
  | _ => false

section Bodies

variable {exempt : Prop} {p : Proc} {callers : List Proc}
  {s : DirectPlay8Peer} {M : Multiset Proc}

theorem Proc.assigns_of_leads (hleads : p.leadsAttempts = false)
    (hunwinds : p.unwinds = false) :
    p.assigns = [] ∧ p.assertsState = false ∧
      (forall state, state ∈ p.assignsPeer ++ p.inserts ->
        state.awaitedIn = none) := by
  cases p <;> first
    | (simp; done)
    | (cases hleads; done)
    | cases hunwinds

theorem Proc.isUnasserted_of_callees {callee : Proc}
    (hleads : p.leadsAttempts = false) (hunwinds : p.unwinds = false)
    (hcall : p.callees callee = true) : callee.isUnasserted = true := by
  cases callee <;> try rfl
  all_goals cases p <;> first
    | (cases hcall; done)
    | (cases hleads; done)
    | cases hunwinds

theorem Proc.isCalm_of_footprint {command : Command}
    (hleads : p.leadsAttempts = false) (hunwinds : p.unwinds = false)
    (hfits : p.Fits command) : command.isCalm = true := by
  rcases Proc.assigns_of_leads hleads hunwinds with
    ⟨hassigns, hasserts, hpeers⟩
  unfold Command.isCalm
  split
  · rename_i state
    have hassigned : state ∈ p.assigns := hfits
    rw [hassigns] at hassigned
    cases hassigned
  · exact absurd hfits id
  · rename_i assertion
    cases habout : assertion.isAboutState with
    | false => rfl
    | true => cases hasserts.symm.trans (hfits habout)
  · rw [hpeers _ (List.mem_append_left _ hfits)]
    rfl
  · rw [hpeers _ (List.mem_append_right _ hfits)]
    rfl
  · rfl

theorem ordinary_outgoing (hleads : p.leadsAttempts = false)
    (hunwinds : p.unwinds = false) :
    OutgoingProg False p callers p.body := by
  apply OutgoingProg.ofUses
  refine p.body_uses.mono ?_ ?_ ?_ ?_ ?_
  · exact fun _ hcommand => Proc.isCalm_of_footprint hleads hunwinds hcommand.2
  · exact fun _ => id
  · exact fun _ hcall =>
      ⟨Proc.isUnasserted_of_callees hleads hunwinds hcall.1, False.elim⟩
  · exact fun _ hspawn => hspawn
  · exact fun _ _ => trivial

theorem cleared_outgoing {prog : Action Unit}
    (hcleared : forall s', p.Cleared s')
    (h : OutgoingKept exempt p callers prog s M) :
    outgoingContract.wp p callers prog
      (fun _ s' M' => ((p :: callers : Multiset Proc) ≤ M' ∧
        OutgoingInv exempt s' M') ∧ p.Cleared s') s M :=
  Contract.wp_mono h fun _ s' _ h' => ⟨h', hcleared s'⟩

theorem leading_kept (hleads : p.leadsAttempts = true)
    (hown : (p :: callers : Multiset Proc) ≤ M) (h : OutgoingInv False s M)
    (hasserted : p.Asserted s) :
    OutgoingKept False p callers p.body s M := by
  cases p <;> try cases hleads
  · exact initialiseObject_outgoing hown h
  · exact cancelAsyncOperation_outgoing hown h
  · exact connect_outgoing hown h
  · exact host_outgoing hown h
  · exact close_outgoing hown h
  · exact terminateSession_outgoing hown h
  · exact ioPeerTriggered_outgoing hown h
  · exact ioPeerConnected_outgoing hown h hasserted
  · exact closing_outgoing hown h
  · exact handleHostConnectOk_outgoing hown h
  · exact handleHostConnectFail_outgoing hown h
  · exact handleConnectPeerOk_outgoing hown h
  · exact handleConnectPeerFail_outgoing hown h
  · exact handleDestroyPeer_outgoing hown h
  · exact handleTerminateSession_outgoing hown h
  · exact connectCheck_outgoing hown h hasserted
  · exact Contract.wp_mono (connectFail_outgoing h hasserted)
      fun _ _ _ h' => ⟨h'.1, .ofNone h'.2⟩

theorem leading_outgoing (hleads : p.leadsAttempts = true)
    (hown : (p :: callers : Multiset Proc) ≤ M) (h : OutgoingInv False s M)
    (hasserted : p.Asserted s) :
    outgoingContract.wp p callers p.body
      (fun _ s' M' => ((p :: callers : Multiset Proc) ≤ M' ∧
        OutgoingInv False s' M') ∧ p.Cleared s') s M := by
  cases p with
  | connectFail result reply =>
      refine Contract.wp_mono (connectFail_outgoing h hasserted) ?_
      rintro _ s' M' ⟨hown', hnone⟩
      exact ⟨⟨hown', .ofNone hnone⟩, hnone⟩
  | connectUnwind => cases hleads
  | peerDestroyAll => cases hleads
  | _ =>
      exact cleared_outgoing (fun _ => trivial)
        (leading_kept hleads hown h hasserted)

theorem unwinding_outgoing (hunwinds : p.unwinds = true)
    (hown : (p :: callers : Multiset Proc) ≤ M) (h : OutgoingInv exempt s M) :
    outgoingContract.wp p callers p.body
      (fun _ s' M' => ((p :: callers : Multiset Proc) ≤ M' ∧
        OutgoingInv exempt s' M') ∧ p.Cleared s') s M := by
  cases p with
  | peerDestroyAll result reason =>
      refine Contract.wp_mono (peerDestroyAll_outgoing hown h) ?_
      rintro _ s' M' ⟨hown', h'⟩
      exact ⟨⟨hown', h'.mono False.elim⟩, h'.ok id⟩
  | connectUnwind toPeers =>
      refine Contract.wp_mono
        (connectUnwind_outgoing (h.mono fun _ => trivial)) ?_
      rintro _ s' M' ⟨hown', h'⟩
      exact ⟨⟨hown', h'.mono False.elim⟩, h'.ok id⟩
  | peerDestroyDrained peerId result reason =>
      exact cleared_outgoing (fun _ => trivial)
        (peerDestroyDrained_outgoing hown h)
  | peerDestroy peerId result reason =>
      exact cleared_outgoing (fun _ => trivial)
        (peerDestroy_outgoing.1 s M hown h)
  | peerDestroySends peerId result reason =>
      exact cleared_outgoing (fun _ => trivial)
        (peerDestroy_outgoing.2.1 s M hown h)
  | peerDestroyAcks peerId result reason =>
      exact cleared_outgoing (fun _ => trivial)
        (peerDestroy_outgoing.2.2 s M hown h)
  | invokeCallback callback result =>
      exact cleared_outgoing (fun _ => trivial)
        (invokeCallback_outgoing s M hown h)
  | invokeAck callback result data =>
      exact cleared_outgoing (fun _ => trivial)
        (invokeAck_outgoing s M hown h)
  | dispatchDestroyPlayer player ctx reason =>
      exact cleared_outgoing (fun _ => trivial)
        (dispatchDestroyPlayer_outgoing s M hown h)
  | _ => cases hunwinds

theorem outgoing_procedure (hexempt : exempt -> p.unwinds = true)
    (hown : (p :: callers : Multiset Proc) ≤ M) (h : OutgoingInv exempt s M)
    (hasserted : p.Asserted s) :
    outgoingContract.wp p callers p.body
      (fun _ s' M' => ((p :: callers : Multiset Proc) ≤ M' ∧
        OutgoingInv exempt s' M') ∧ p.Cleared s') s M := by
  by_cases hunwinds : p.unwinds = true
  · exact unwinding_outgoing hunwinds hown h
  have h' : OutgoingInv False s M := h.mono fun he => hunwinds (hexempt he)
  have hkept : outgoingContract.wp p callers p.body
      (fun _ s' M' => ((p :: callers : Multiset Proc) ≤ M' ∧
        OutgoingInv False s' M') ∧ p.Cleared s') s M := by
    rw [Bool.not_eq_true] at hunwinds
    cases hleads : p.leadsAttempts with
    | true => exact leading_outgoing hleads hown h' hasserted
    | false =>
        refine cleared_outgoing ?_ (ordinary_outgoing hleads hunwinds s M hown h')
        intro s'
        cases p <;> trivial
  refine Contract.wp_mono hkept ?_
  rintro _ s' M' ⟨⟨hown', hinv⟩, hcleared⟩
  exact ⟨⟨hown', hinv.mono False.elim⟩, hcleared⟩

end Bodies

theorem outgoingContract_valid :
    outgoingContract.Valid DirectPlay8Peer.Constructed where
  initial := by
    intro s hs
    have hnone : ¬ s.Awaits := by
      rw [DirectPlay8Peer.not_awaits]
      rintro peerId state ⟨peer, hpeer, _⟩
      simp [hs.peers] at hpeer
    exact ⟨.ofNone hnone, DirectPlay8Peer.outgoingOk_of_not_awaits hnone⟩
  start := by
    intro p s M hentry hinv hfree _
    have hunasserted : p.isUnasserted = true := by
      cases p <;> first
        | rfl
        | cases hentry
    exact ⟨.ofOk hfree (OutgoingInv.once hinv),
      Proc.asserted_of_isUnasserted hunasserted⟩
  body := by
    intro p callers s M hown hpre
    -- a procedure that starts in order is not exempt
    have hinv : OutgoingInv (p.unwinds = true ∧ ¬ s.OutgoingOk) s M := by
      refine ⟨hpre.1.once, ?_⟩
      by_cases hok : s.OutgoingOk
      · exact Or.inl hok
      · exact hpre.1.awaited.imp_right fun hrest => ⟨⟨hrest.1, hok⟩, hrest.2⟩
    refine Contract.wp_mono
      (outgoing_procedure (fun he => he.1) hown hinv hpre.2) ?_
    rintro _ s' M' ⟨⟨hown', h'⟩, hcleared⟩
    have hkept : s.OutgoingOk -> s'.OutgoingOk :=
      fun hok => h'.ok fun he => he.2 hok
    refine ⟨⟨?_, hkept, hcleared⟩, fun _ => hkept⟩
    cases hunwinding : p.isUnwinding with
    | false => exact (h'.mono fun _ => trivial).erase hunwinding
    | true =>
        cases p <;> first
          | (cases hunwinding; done)
          | exact .ofOk hcleared h'.once

/-!
## Runs
-/

namespace DirectPlay8Peer

def AssertionsHeld (s : DirectPlay8Peer) : Prop :=
  forall assertion, assertion.isAboutState = true ->
    .assertionFailed assertion ∉ s.history

theorem AssertionsHeld.apply {s : DirectPlay8Peer} {command : Command}
    (h : s.AssertionsHeld) (hcommand : command.failsState = false) :
    (command.apply s).AssertionsHeld := by
  intro assertion habout hmem
  cases hcase : command with
  | setState state =>
      subst hcase
      rcases List.mem_cons.mp hmem with himpossible | hbefore
      · cases himpossible
      · exact h assertion habout hbefore
  | log event =>
      subst hcase
      rcases List.mem_cons.mp hmem with hnow | hbefore
      · subst hnow
        cases habout.symm.trans hcommand
      · exact h assertion habout hbefore
  | _ =>
      have hhistory : exists records, (command.apply s).history =
          records ++ s.history ∧
          forall event, event ∈ records -> event.isRecord = true := by
        refine Command.apply_history ?_ ?_
        · intro hkind
          rcases Command.kind_eq_state hkind with ⟨state, hstate | hstate⟩ <;>
            cases hcase.symm.trans hstate
        · intro event hlog
          cases hcase.symm.trans hlog
      rcases hhistory with ⟨records, hhistory, hrecords⟩
      rw [hhistory] at hmem
      rcases List.mem_append.mp hmem with hrecord | hbefore
      · cases hrecords _ hrecord
      · exact h assertion habout hbefore

end DirectPlay8Peer

/--
Outgoing connections are there in the states that wait for them, and the
assertions on the state do not fail.
-/
theorem outgoing_only_awaited {c : Run}
    (h : Reaches machine DirectPlay8Peer.Constructed OutgoingGuarded c) :
    (c.Free -> c.state.OutgoingOk) ∧ c.state.AssertionsHeld := by
  refine ⟨outgoingContract_valid.free h, ?_⟩
  refine outgoingContract_valid.always (I := DirectPlay8Peer.AssertionsHeld)
    ?_ ?_ h
  · intro s hs assertion _ hmem
    simp [hs.history] at hmem
  · intro p command s hguar hheld
    exact hheld.apply hguar

instance {s : DirectPlay8Peer} {M : Multiset Proc} {label : StepLabel} :
    Decidable (OutgoingGuarded s M label) := by
  unfold OutgoingGuarded
  split <;> infer_instance

/-- An attempt that is cancelled while the connection is being made. -/
theorem outgoing_only_awaited_cancelled :
    exists c : Run,
      Reaches machine DirectPlay8Peer.Constructed OutgoingGuarded c ∧
        c.Free ∧ c.state.state = .initialised ∧ c.state.OutgoingOk ∧
        c.state.AssertionsHeld := by
  have hrun : (replay OutgoingGuarded (choicesInitialise ++ choicesConnect ++
      [.start (.cancelAsyncOperation 0 dpnCancelConnect), .resume 0 {}])).any
      (fun c => decide (c.Free ∧ c.state.state = .initialised)) = true := by
    decide +kernel
  rcases replay_reaches hrun with ⟨c, hc, htest⟩
  rcases of_decide_eq_true htest with ⟨hfree, hstate⟩
  have hkept := outgoing_only_awaited hc
  exact ⟨c, hc, hfree, hstate, hkept.1 hfree, hkept.2⟩

/--
`Connect` is called while `DPN_MSGID_CONNECT_COMPLETE` is being handled; when
`connect_fail` comes back, the second attempt goes on in `STATE_INITIALISED`.
-/
theorem outgoing_not_awaited :
    ¬ forall c : Run,
      Reaches machine DirectPlay8Peer.Constructed Unrestricted c ->
      (c.Free -> c.state.OutgoingOk) ∧ c.state.AssertionsHeld := by
  intro hclaim
  have hrun : (replay Unrestricted (choicesInitialise ++ choicesConnect ++
      [.start (.cancelAsyncOperation 0 dpnCancelConnect)] ++ choicesConnect ++
      [.resume 0 {}])).any
      (fun c => decide (c.Free ∧ c.state.state = .initialised ∧
        c.state.Awaits)) = true := by
    decide +kernel
  rcases replay_reaches hrun with ⟨c, hc, htest⟩
  rcases of_decide_eq_true htest with ⟨hfree, hstate, hawaits⟩
  have hok : c.state.OutgoingOk := (hclaim c hc).1 hfree
  exact hok.idle (by simp [DirectPlay8Peer.Connecting, hstate]) hawaits

end DirectPlayLite
