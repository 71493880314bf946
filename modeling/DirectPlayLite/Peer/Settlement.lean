import DirectPlayLite.Peer.Accounts

/-!
# Settling what is owed

Whoever takes an op or an ack out of a peer calls its callback before the lock is
free again.  `peer_destroy` does so for all that is there when its loops run, but
not for what is handed to the peer behind them.
-/

namespace DirectPlayLite

open Monitor Program

/-!
## Conditions
-/

namespace Proc

/-- The part of `peer_destroy` behind the loop over the send queue. -/
def isPastSends (peerId : UInt32) : Proc -> Bool
  | peerDestroyAcks destroyed _ _ | peerDestroyDrained destroyed _ _ =>
      destroyed == peerId
  | _ => false

/-- The part of `peer_destroy` behind the loop over the acks. -/
def isPastAcks (peerId : UInt32) : Proc -> Bool
  | peerDestroyDrained destroyed _ _ => destroyed == peerId
  | _ => false

def Drained (p : Proc) (s : DirectPlay8Peer) : Prop :=
  forall (peerId : UInt32) (peer : Peer), s.peers[peerId]? = some peer ->
    (p.isPastSends peerId = true -> peer.sq.ops = []) ∧
      (p.isPastAcks peerId = true -> peer.pendingAcks = ∅)

def isBefore : Proc -> Bool
  | peerDestroyAcks .. | peerDestroyDrained .. => false
  | _ => true

theorem drained_of_isBefore {p : Proc} {s : DirectPlay8Peer}
    (h : p.isBefore = true) : p.Drained s := by
  intro peerId peer _
  cases p <;> first
    | exact ⟨fun hpast => absurd hpast Bool.false_ne_true,
        fun hpast => absurd hpast Bool.false_ne_true⟩
    | cases h

end Proc

/--
Nothing is handed to a peer behind the loops of `peer_destroy`, no ack gets the ID
of one that is pending, and no op is cancelled by a handle that an op being sent
has as well.
-/
def AccountGuarded (s : DirectPlay8Peer) (M : Multiset Proc) :
    StepLabel -> Prop
  | .exec _ (.peer peerId (.send ..)) =>
      (s.peers[peerId]?).all
        (fun _ => tokens (Proc.isPastSends peerId) M == 0) = true
  | .exec _ (.peer peerId (.registerAck ackId _)) =>
      (s.peers[peerId]?).all (fun peer => (peer.pendingAcks[ackId]?).isNone &&
        tokens (Proc.isPastAcks peerId) M == 0) = true
  | .exec _ (.peer peerId (.removeQueued (.handle handle))) =>
      (s.peers[peerId]?).all (fun peer => !peer.sq.handleIsPending handle ||
        (peer.sq.removeQueuedByHandle handle).isNone) = true
  | _ => True

def DirectPlay8Peer.Unsent (s : DirectPlay8Peer) : Prop :=
  forall (peerId : UInt32) (peer : Peer), s.peers[peerId]? = some peer ->
    peer.Unsent

structure AccountsIn (transit : Option Due) (s : DirectPlay8Peer)
    (M : Multiset Proc) : Prop where
  ledger : Ledger transit s
  drained : forall p, p ∈ M -> p.Drained s
  /-- A datagram cannot be cancelled. -/
  datagrams : forall op, op ∈ s.udpSq.ops -> op.asyncHandle = 0

structure AccountsOk (s : DirectPlay8Peer) (M : Multiset Proc) : Prop
    extends AccountsIn none s M where
  unsent : s.Unsent

def accountContract : Contract machine where
  cond := AccountGuarded
  inv := AccountsOk
  free := fun _ => True
  guar := fun _ command s => exists transit, Ledger transit (command.apply s)
  rely := fun _ _ _ => True
  pre := fun p s M => AccountsOk s M ∧ p.CancelsWithError
  post := fun _ _ _ _ => True
  faults := fun _ => True
  rely_refl := fun _ _ => trivial
  rely_trans := fun _ _ _ _ _ _ => trivial

/-!
## Commands
-/

def CommandKind.settles : CommandKind -> Bool
  | .popPending | .removeQueued | .eraseAck | .incSentData | .resolved
  | .ackResolved | .erasePeer => true
  | _ => false

def Command.keepsAccounts : Command -> Bool
  | .peer _ (.popPending) | .peer _ (.removeQueued _) | .peer _ (.eraseAck _)
  | .peer _ (.incSentData _) | .erasePeer _ => false
  | .peer _ (.send _ packet _ _) => packet != []
  | .log event => event.isQuiet
  | _ => true

section Commands

variable {transit : Option Due} {s : DirectPlay8Peer} {M : Multiset Proc}
  {p r : Proc} {peerId : UInt32} {peer : Peer} {change : PeerCommand}
  {command : Command}

theorem Proc.Drained.apply (h : r.Drained s) (hmem : r ∈ M) (command : Command)
    (hcond : AccountGuarded s M (.exec p command)) :
    r.Drained (command.apply s) := by
  intro peerId peer hpeer
  rcases Command.peer_cases hpeer with hsame | ⟨change, before, rfl, hwas, rfl⟩ |
    ⟨state, sock, ip, port, playerId, rfl, _, rfl⟩
  · exact h peerId peer hsame
  · rcases h peerId before hwas with ⟨hops, hacks⟩
    constructor
    · intro hpast
      have hempty := hops hpast
      cases change with
      | send =>
          have hnone : tokens (Proc.isPastSends peerId) M = 0 := by
            simpa [AccountGuarded, hwas] using hcond
          cases hpast.symm.trans (tokens_eq_zero.mp hnone r hmem)
      | getPending => simpa [PeerCommand.apply] using hempty
      | popPending =>
          rw [List.eq_nil_iff_forall_not_mem] at hempty ⊢
          intro op hop
          exact hempty op (List.mem_append_right _
            (by simpa [PeerCommand.apply, SendQueue.ops, SendQueue.popPending]
              using hop))
      | incSentData sent =>
          have hcurrent : before.sq.current = none := by
            cases hcurrent : before.sq.current with
            | none => rfl
            | some op => simp [SendQueue.ops, hcurrent] at hempty
          simpa [PeerCommand.apply, SendQueue.incSentData, SendQueue.ops,
            hcurrent] using hempty
      | removeQueued wanted =>
          rw [List.eq_nil_iff_forall_not_mem] at hempty ⊢
          intro op hop
          exact hempty op (SendQueue.mem_of_remove wanted hop)
      | _ => exact hempty
    · intro hpast
      have hempty := hacks hpast
      cases change with
      | registerAck ackId callback =>
          have hnone : tokens (Proc.isPastAcks peerId) M = 0 := by
            have hboth := hcond
            simp only [AccountGuarded, hwas, Option.all_some, Bool.and_eq_true,
              beq_iff_eq] at hboth
            exact hboth.2
          cases hpast.symm.trans (tokens_eq_zero.mp hnone r hmem)
      | eraseAck ackId => simp [PeerCommand.apply, hempty]
      | _ => exact hempty
  · exact ⟨fun _ => rfl, fun _ => rfl⟩

theorem DirectPlay8Peer.Unsent.apply (h : s.Unsent) (command : Command)
    (hleaves : forall peerId change peer, command = .peer peerId change ->
      s.peers[peerId]? = some peer -> change.LeavesUnsent peer) :
    (command.apply s).Unsent := by
  intro peerId peer hpeer
  rcases Command.peer_cases hpeer with hsame | ⟨change, before, rfl, hwas, rfl⟩ |
    ⟨state, sock, ip, port, playerId, rfl, _, rfl⟩
  · exact h peerId peer hsame
  · exact PeerCommand.unsent_after (h peerId before hwas)
      (hleaves peerId change before rfl hwas)
  · intro op hop
    cases hop

theorem DirectPlay8Peer.Unsent.ofChange (h : s.Unsent)
    (hleaves : forall peer, change.LeavesUnsent peer) :
    ((Command.peer peerId change).apply s).Unsent := by
  refine h.apply _ ?_
  rintro _ _ peer ⟨⟩ _
  exact hleaves peer

theorem DirectPlay8Peer.Unsent.popped (h : s.Unsent) (peerId : UInt32)
    (sent : Nat) :
    ((Command.peer peerId .popPending).apply
      ((Command.peer peerId (.incSentData sent)).apply s)).Unsent := by
  intro other found hfound
  by_cases hsame : other = peerId
  · subst hsame
    cases hpeer : s.peers[other]? with
    | none =>
        have hnone : (Command.peer other (.incSentData sent)).apply s = s := by
          simp only [Command.apply, Command.applyPeer, hpeer]
        rw [hnone] at hfound
        simp only [Command.apply, Command.applyPeer, hpeer] at hfound
        cases hfound
    | some peer =>
        have hafter := DirectPlay8Peer.peer_changed .popPending
          (DirectPlay8Peer.peer_changed (.incSentData sent) hpeer)
        cases hfound.symm.trans hafter
        intro op hop
        refine h other peer hpeer op (List.mem_append_right _ ?_)
        simpa [PeerCommand.apply, SendQueue.ops, SendQueue.popPending,
          SendQueue.incSentData] using hop
  · rw [DirectPlay8Peer.peer_unchanged hsame,
      DirectPlay8Peer.peer_unchanged hsame] at hfound
    exact h other found hfound

theorem Ledger.ofChange (h : Ledger transit s) (peerId : UInt32)
    (change : PeerCommand)
    (hproper : forall peer, s.peers[peerId]? = some peer -> change.Proper peer)
    (htakes : forall peer, s.peers[peerId]? = some peer ->
      change.takes peer = none) :
    Ledger transit ((Command.peer peerId change).apply s) := by
  cases hpeer : s.peers[peerId]? with
  | none =>
      have hsame : (Command.peer peerId change).apply s = s := by
        simp only [Command.apply, Command.applyPeer, hpeer]
      rw [hsame]
      exact h
  | some peer =>
      have hafter := h.ofPeer hpeer (hproper peer hpeer) (Or.inl (htakes peer hpeer))
      rwa [htakes peer hpeer] at hafter

theorem Ledger.apply (h : Ledger transit s) (command : Command)
    (hkeeps : command.keepsAccounts = true)
    (hcond : AccountGuarded s M (.exec p command)) :
    Ledger transit (command.apply s) := by
  cases command with
  | peer peerId change =>
      refine h.ofChange peerId change ?_ ?_
      · intro peer hpeer
        cases change with
        | registerAck ackId callback =>
            simp only [AccountGuarded, hpeer, Option.all_some, Bool.and_eq_true]
              at hcond
            exact Option.isNone_iff_eq_none.mp hcond.1
        | _ => trivial
      · intro peer _
        cases change <;> first
          | rfl
          | cases hkeeps
  | erasePeer peerId => cases hkeeps
  | insertPeer => exact h.insertPeer
  | log event =>
      refine h.quiet [event] rfl (Nat.le_refl _) rfl ?_
      intro other hother
      cases List.mem_singleton.mp hother
      exact hkeeps
  | setState state =>
      refine h.quiet [.entered state] rfl (Nat.le_refl _) rfl ?_
      intro other hother
      cases List.mem_singleton.mp hother
      rfl
  | setSocket which sock =>
      cases which <;> exact h.quiet [] rfl (Nat.le_refl _) rfl (by simp)
  | «local» change =>
      cases change <;> exact h.quiet [] rfl (Nat.le_refl _) rfl (by simp)
  | session change =>
      cases change <;> exact h.quiet [] rfl (Nat.le_refl _) rfl (by simp)
  | connect change =>
      cases change <;> exact h.quiet [] rfl (Nat.le_refl _) rfl (by simp)
  | newCompletion | udpSend =>
      exact h.quiet [] rfl (Nat.le_succ _) rfl (by simp)
  | _ => exact h.quiet [] rfl (Nat.le_refl _) rfl (by simp)

theorem AccountsIn.apply (h : AccountsIn transit s M) (command : Command)
    (hcond : AccountGuarded s M (.exec p command)) {transit' : Option Due}
    (hledger : Ledger transit' (command.apply s)) :
    AccountsIn transit' (command.apply s) M where
  ledger := hledger
  drained := fun r hr => (h.drained r hr).apply hr command hcond
  datagrams := fun op hop =>
    (Command.datagram_cases hop).elim (h.datagrams op) And.right

theorem AccountsOk.apply (h : AccountsOk s M) (command : Command)
    (hkeeps : command.keepsAccounts = true)
    (hcond : AccountGuarded s M (.exec p command)) :
    AccountsOk (command.apply s) M where
  toAccountsIn := h.toAccountsIn.apply command hcond
    (h.ledger.apply command hkeeps hcond)
  unsent := by
    refine h.unsent.apply command ?_
    rintro peerId change peer rfl _
    cases change with
    | send => exact bne_iff_ne.mp hkeeps
    | incSentData => cases hkeeps
    | _ => trivial

theorem Command.keepsAccounts_of (hsettles : command.kind.settles = false)
    (hfits : p.Fits command) : command.keepsAccounts = true := by
  cases command with
  | peer peerId change =>
      cases change with
      | send => exact bne_iff_ne.mpr hfits.1
      | _ => first
          | rfl
          | cases hsettles
  | log event =>
      cases event <;> first
        | rfl
        | exact hfits.elim
        | cases hsettles
  | erasePeer => cases hsettles
  | _ => rfl

end Commands

/-!
## Rules
-/

section Rules

variable {p : Proc} {callers : List Proc} {s : DirectPlay8Peer}
  {M : Multiset Proc} {α β : Type} {transit : Option Due} {peerId : UInt32}

abbrev AccountsKept (p : Proc) (callers : List Proc) (prog : Action α)
    (s : DirectPlay8Peer) (M : Multiset Proc) : Prop :=
  accountContract.wp p callers prog
    (fun _ s' M' => (p :: callers : Multiset Proc) ≤ M' ∧ AccountsOk s' M') s M

theorem AccountsOk.called {callee : Proc} (h : AccountsOk s M)
    (hdrained : callee.Drained s) : AccountsOk s (callee ::ₘ M) where
  ledger := h.ledger
  drained := by
    intro r hr
    rcases Multiset.mem_cons.mp hr with rfl | hbefore
    · exact hdrained
    · exact h.drained r hbefore
  datagrams := h.datagrams
  unsent := h.unsent

abbrev withoutAccounts : Footprint Command Proc Fault :=
  .within (fun command => command.keepsAccounts = true)
    (fun callee => callee.isBefore = true ∧ callee.CancelsWithError)
    fun child => child.isDetached = true

theorem accounts_rest {fp : Footprint Command Proc Fault} {prog : Action α}
    (huses : prog.Uses fp)
    (hcommands : forall command s M, fp.commands command -> p ∈ M ->
      AccountsOk s M -> AccountGuarded s M (.exec p command) ->
      AccountsOk (command.apply s) M)
    (hcalls : forall callee, fp.calls callee ->
      callee.isBefore = true ∧ callee.CancelsWithError)
    (hspawns : forall child, fp.spawns child -> child.isDetached = true)
    (hown : (p :: callers : Multiset Proc) ≤ M) (h : AccountsOk s M) :
    AccountsKept p callers prog s M := by
  refine Contract.wp_of_uses huses (fun _ _ _ h => ⟨h, trivial⟩)
    (fun _ _ h _ => h) ?_ ?_ ?_ (fun _ _ => trivial) hown h
  · intro command s M hcommand hmine hok hcond
    have hafter := hcommands command s M hcommand
      (Multiset.mem_of_le hmine (by simp)) hok hcond
    exact ⟨⟨⟨none, hafter.ledger⟩, fun _ _ => trivial⟩, hafter⟩
  · intro callee s M hcall hok _
    rcases hcalls callee hcall with ⟨hbefore, hcancels⟩
    exact ⟨⟨hok.called (Proc.drained_of_isBefore hbefore), hcancels⟩,
      fun _ _ hok' _ => hok'⟩
  · intro child s M hspawn hok _
    have hdetached := hspawns child hspawn
    have hbefore : child.isBefore = true := by
      cases child <;> first
        | rfl
        | cases hdetached
    refine ⟨fun s' M' _ hok' _ _ _ => ⟨hok', ?_⟩,
      hok.called (Proc.drained_of_isBefore hbefore)⟩
    cases child <;> trivial

theorem accounts_balanced {prog : Action α} (huses : prog.Uses withoutAccounts)
    (hown : (p :: callers : Multiset Proc) ≤ M) (h : AccountsOk s M) :
    AccountsKept p callers prog s M :=
  accounts_rest huses (fun command _ _ hkeeps _ hok hcond =>
    hok.apply command hkeeps hcond) (fun _ h => h) (fun _ h => h) hown h

theorem accounts_exec {command : Command} {f : Unit -> Action β}
    {post : β -> DirectPlay8Peer -> Multiset Proc -> Prop}
    (hledger : AccountGuarded s M (.exec p command) ->
      Ledger transit (command.apply s))
    (hnext : AccountGuarded s M (.exec p command) ->
      accountContract.wp p callers (f ()) post (command.apply s) M) :
    accountContract.wp p callers (perform command >>= f) post s M :=
  fun hcond => ⟨⟨⟨transit, hledger hcond⟩, fun _ _ => trivial⟩, hnext hcond⟩

theorem accounts_keep {command : Command} {f : Unit -> Action β}
    {post : β -> DirectPlay8Peer -> Multiset Proc -> Prop}
    (h : AccountsOk s M) (hkeeps : command.keepsAccounts = true)
    (hnext : AccountsOk (command.apply s) M ->
      accountContract.wp p callers (f ()) post (command.apply s) M) :
    accountContract.wp p callers (perform command >>= f) post s M :=
  accounts_exec (fun hcond => (h.apply command hkeeps hcond).ledger)
    fun hcond => hnext (h.apply command hkeeps hcond)

theorem accounts_take {change : PeerCommand} {peer : Peer} {due : Due}
    {f : Unit -> Action β}
    {post : β -> DirectPlay8Peer -> Multiset Proc -> Prop}
    (h : AccountsIn none s M) (hpeer : s.peers[peerId]? = some peer)
    (htakes : change.takes peer = some due)
    (hnext : AccountGuarded s M (.exec p (.peer peerId change)) ->
      AccountsIn (some due) ((Command.peer peerId change).apply s) M ->
      accountContract.wp p callers (f ()) post
        ((Command.peer peerId change).apply s) M) :
    accountContract.wp p callers (Action.ofPeer peerId change >>= f) post s
      M := by
  have hproper : change.Proper peer := by
    cases change <;> first
      | exact trivial
      | cases htakes
  have hledger : Ledger (some due) ((Command.peer peerId change).apply s) := by
    have hafter := h.ledger.ofPeer hpeer hproper (Or.inr rfl)
    rwa [htakes] at hafter
  exact accounts_exec (fun _ => hledger) fun hcond =>
    hnext hcond (h.apply _ hcond hledger)

theorem accounts_settle {event : Event} {due : Due} {f : Unit -> Action β}
    {post : β -> DirectPlay8Peer -> Multiset Proc -> Prop}
    (h : AccountsIn (some due) s M) (hunsent : s.Unsent)
    (hsettled : event.settled = some due)
    (hresult : forall op result sentAll, event = .resolved op result sentAll ->
      (result = sOk ↔ sentAll = true))
    (hnext : AccountsOk ((Command.log event).apply s) M ->
      accountContract.wp p callers (f ()) post ((Command.log event).apply s) M) :
    accountContract.wp p callers (Action.log event >>= f) post s M := by
  have hledger := h.ledger.settle hsettled hresult
  have hkept : ((Command.log event).apply s).Unsent := hunsent
  exact accounts_exec (fun _ => hledger) fun hcond =>
    hnext ⟨h.apply _ hcond hledger, hkept⟩

theorem accounts_query {query : Query} {f : Answer -> Action β}
    {post : β -> DirectPlay8Peer -> Multiset Proc -> Prop}
    (hnext : forall answer, answers s query answer = true ->
      accountContract.wp p callers (f answer) post s M) :
    accountContract.wp p callers (Action.query query >>= f) post s M :=
  fun answer hanswer _ => hnext answer hanswer

theorem accounts_invoke {callee : Proc} {f : Unit -> Action β}
    {post : β -> DirectPlay8Peer -> Multiset Proc -> Prop} (h : AccountsOk s M)
    (hdrained : callee.Drained s) (hcancels : callee.CancelsWithError)
    (hnext : forall s' M', (p :: callers : Multiset Proc) ≤ M' ->
      AccountsOk s' M' -> accountContract.wp p callers (f ()) post s' M') :
    accountContract.wp p callers (Action.invoke callee >>= f) post s M := by
  intro _
  refine ⟨⟨h.called hdrained, hcancels⟩, ?_⟩
  intro s' M' hown hok _ _
  exact hnext s' M' hown hok

theorem accounts_called {callee : Proc} (h : AccountsOk s M)
    (hdrained : callee.Drained s) (hcancels : callee.CancelsWithError) :
    AccountsKept p callers (Action.invoke callee) s M := by
  intro _
  exact ⟨⟨h.called hdrained, hcancels⟩, fun _ _ hown hok _ _ => ⟨hown, hok⟩⟩

theorem accounts_asserted {f : Peer -> Action Unit} (h : AccountsOk s M)
    (hnext : forall peer, s.peers[peerId]? = some peer ->
      AccountsKept p callers (f peer) s M) :
    AccountsKept p callers (Action.assertedPeer peerId >>= f) s M :=
  wp_assertedPeer trivial
    ⟨⟨none, h.ledger.quiet [_] rfl (Nat.le_refl _) rfl (by simp [Event.isQuiet])⟩,
      fun _ _ => trivial⟩ hnext

end Rules

/-!
## Bodies
-/

section Bodies

variable {p : Proc} {callers : List Proc} {s : DirectPlay8Peer}
  {M : Multiset Proc} {peerId : UInt32} {peer : Peer} {pd : PacketDeserialiser}
  {result : HRESULT} {reason : DWORD} {op : SendOp SendCallback}

theorem ack_has_no_result {ack : Nat} :
    forall addr result all, Event.ackResolved ack = .resolved addr result all ->
      (result = sOk ↔ all = true) := by
  rintro addr result all ⟨⟩

theorem handleAck_accounts
    (hown : (.handleAck peerId pd :: callers : Multiset Proc) ≤ M)
    (h : AccountsOk s M) :
    AccountsKept (.handleAck peerId pd) callers (Action.handleAck peerId pd) s
      M := by
  apply accounts_asserted h
  intro peer hpeer
  apply wp_caught
  · rintro ⟨ackId, result, data⟩ _
    dsimp only
    split
    · exact ⟨hown, h⟩
    · rename_i ack hack
      have htakes : (PeerCommand.eraseAck ackId).takes peer =
          some (.ack ack.addr) := by
        simp [PeerCommand.takes, hack]
      apply accounts_take h.toAccountsIn hpeer htakes
      intro _ h₁
      apply accounts_settle h₁ (h.unsent.ofChange fun _ => trivial) rfl
        ack_has_no_result
      intro h₂
      exact accounts_called h₂ (Proc.drained_of_isBefore rfl) trivial
  · intro _ _
    exact ⟨hown, h⟩

theorem peerDestroyAcks_accounts
    (hown : (.peerDestroyAcks peerId result reason :: callers :
      Multiset Proc) ≤ M) (hresult : result ≠ sOk) (h : AccountsOk s M) :
    AccountsKept (.peerDestroyAcks peerId result reason) callers
      (Action.peerDestroyAcks peerId result reason) s M := by
  apply wp_peerAt trivial
  intro peer hpeer
  split
  · rename_i ackId ack hhead
    have hack : peer.pendingAcks[ackId]? = some ack :=
      Std.ExtTreeMap.mem_toList_iff_getElem?_eq_some.mp
        (List.mem_of_mem_head? hhead)
    have htakes : (PeerCommand.eraseAck ackId).takes peer =
        some (.ack ack.addr) := by
      simp [PeerCommand.takes, hack]
    apply accounts_take h.toAccountsIn hpeer htakes
    intro _ h₁
    apply accounts_settle h₁ (h.unsent.ofChange fun _ => trivial) rfl
      ack_has_no_result
    intro h₂
    refine accounts_invoke h₂ (Proc.drained_of_isBefore rfl) trivial ?_
    intro s₃ M₃ hown₃ h₃
    apply wp_renewPeer
    · intro _ _
      exact accounts_called h₃
        (h₃.drained _ (Multiset.mem_of_le hown₃ (by simp))) hresult
    · intro _
      exact ⟨hown₃, h₃⟩
  · rename_i hhead
    have hempty : peer.pendingAcks = ∅ :=
      Std.ExtTreeMap.toList_eq_nil_iff.mp (List.head?_eq_none_iff.mp hhead)
    refine accounts_called h ?_ hresult
    intro other found hfound
    have hmine : .peerDestroyAcks peerId result reason ∈ M :=
      Multiset.mem_of_le hown (by simp)
    refine ⟨(h.drained _ hmine other found hfound).1, ?_⟩
    intro hpast
    have hsame : peerId = other := by simpa [Proc.isPastAcks] using hpast
    subst hsame
    cases hpeer.symm.trans hfound
    exact hempty

theorem sentAll_of_left (hleft : op.sentData < op.data.length)
    (hresult : result ≠ sOk) :
    forall addr other all, Event.resolved op.addr result (Action.sentAll op) =
      .resolved addr other all -> (other = sOk ↔ all = true) := by
  rintro addr other all ⟨⟩
  simp [hresult, Action.sentAll, Nat.ne_of_lt hleft]

theorem peerDestroySends_accounts (hresult : result ≠ sOk) (h : AccountsOk s M) :
    AccountsKept (.peerDestroySends peerId result reason) callers
      (Action.peerDestroySends peerId result reason) s M := by
  apply accounts_keep h rfl
  intro h₁
  apply wp_peerAt trivial
  intro peer hpeer
  split
  · rename_i op hop
    have hleft : op.sentData < op.data.length :=
      h₁.unsent peerId peer hpeer op (by simp [SendQueue.ops, hop])
    have htakes : PeerCommand.popPending.takes peer = some (.op op.addr) := by
      simp [PeerCommand.takes, hop]
    apply accounts_take h₁.toAccountsIn hpeer htakes
    intro _ h₂
    apply accounts_settle h₂ (h₁.unsent.ofChange fun _ => trivial) rfl
      (sentAll_of_left hleft hresult)
    intro h₃
    refine accounts_invoke h₃ (Proc.drained_of_isBefore rfl) trivial ?_
    intro s₄ M₄ hown₄ h₄
    apply wp_renewPeer
    · intro _ _
      exact accounts_called h₄ (Proc.drained_of_isBefore rfl) hresult
    · intro _
      exact ⟨hown₄, h₄⟩
  · rename_i hnone
    refine accounts_called h₁ ?_ hresult
    intro other found hfound
    refine ⟨?_, by intro h; cases h⟩
    intro hpast
    have hsame : peerId = other := by simpa [Proc.isPastSends] using hpast
    subst hsame
    cases hpeer.symm.trans hfound
    cases hbefore : s.peers[peerId]? with
    | none =>
        simp only [Command.apply, Command.applyPeer, hbefore] at hpeer
        cases hpeer
    | some before =>
        have hafter := DirectPlay8Peer.peer_changed .getPending hbefore
        cases hpeer.symm.trans hafter
        exact (SendQueue.getPending_ops _).trans (SendQueue.getPending_none hnone)

def destroying (peerId : UInt32) : Footprint Command Proc Fault :=
  { withoutAccounts with
    commands := fun command =>
      command.keepsAccounts = true ∨ command = .erasePeer peerId }

theorem destroying_uses (hresult : result ≠ sOk) :
    (Action.peerDestroyDrained peerId result reason).Uses (destroying peerId) := by
  have hremove : (Action.removePeer peerId).Uses (destroying peerId) := by
    unfold Action.removePeer
    repeat' with_reducible first
      | apply Action.uses_bind
      | intro _
      | split
    all_goals simp [destroying, withoutAccounts]
  unfold Action.peerDestroyDrained Action.hostLost
  repeat' with_reducible first
    | exact hremove
    | apply Action.uses_peerAt
    | apply Action.uses_renewPeer
    | apply Action.uses_dispatchDestroyLocalPlayer
    | apply Uses.onlyIf
    | apply Action.uses_bind
    | intro _
    | split
  all_goals simp [destroying, withoutAccounts, Command.keepsAccounts, Event.isQuiet,
    Proc.isBefore, hresult]

theorem peerDestroyDrained_accounts
    (hown : (.peerDestroyDrained peerId result reason :: callers :
      Multiset Proc) ≤ M) (hresult : result ≠ sOk) (h : AccountsOk s M) :
    AccountsKept (.peerDestroyDrained peerId result reason) callers
      (Action.peerDestroyDrained peerId result reason) s M := by
  refine accounts_rest (destroying_uses hresult) ?_ (fun _ h => h)
    (fun _ h => h) hown h
  rintro command s₁ M₁ (hkeeps | rfl) hmine hok hcond
  · exact hok.apply command hkeeps hcond
  · refine ⟨hok.toAccountsIn.apply _ hcond ?_, hok.unsent.apply _ ?_⟩
    rotate_left
    · rintro _ _ _ ⟨⟩
    cases hpeer : s₁.peers[peerId]? with
    | none =>
        refine hok.ledger.quiet [] ?_ (Nat.le_refl _)
          (by simp [Command.apply, hpeer]) (by simp)
        simp only [Command.apply]
        apply Std.ExtTreeMap.ext_getElem?
        intro other
        rw [Std.ExtTreeMap.getElem?_erase]
        split
        · rename_i herased
          have hsame : peerId = other := by simpa using herased
          subst hsame
          exact hpeer.symm
        · rfl
    | some peer =>
        refine hok.ledger.erasePeer hpeer ?_
        have hdrained := hok.drained _ hmine peerId peer hpeer
        rintro (addr | addr) howes
        · simp [Peer.Owes, SendQueue.addrs,
            hdrained.1 (by simp [Proc.isPastSends])] at howes
        · simp [Peer.Owes, hdrained.2 (by simp [Proc.isPastAcks])] at howes

theorem ioPeerSend_accounts
    (hown : (.ioPeerSend peerId :: callers : Multiset Proc) ≤ M)
    (h : AccountsOk s M) :
    AccountsKept (.ioPeerSend peerId) callers (Action.ioPeerSend peerId) s M := by
  apply wp_renewPeer
  · intro _ _
    apply accounts_keep h rfl
    intro h₁
    apply wp_peerAt trivial
    intro peer hpeer
    split
    · rename_i op hop
      have hleft : op.sentData < op.data.length :=
        h₁.unsent peerId peer hpeer op (by simp [SendQueue.ops, hop])
      apply accounts_query
      intro answer hanswer
      split
      · split
        · exact ⟨hown, h₁⟩
        · exact accounts_called h₁ (Proc.drained_of_isBefore rfl)
            dpnErrConnectionLost_ne
      have hsent : answer.ret.toNat ≤ op.data.length - op.sentData := by
        have hret : answer.ret ≤ op.getPendingData.length :=
          of_decide_eq_true hanswer
        simp only [SendOp.getPendingData, List.length_drop] at hret
        omega
      have hledger := h₁.ledger.ofChange peerId
        (.incSentData answer.ret.toNat) (fun _ _ => trivial)
        (fun _ _ => rfl)
      apply accounts_exec fun _ => hledger
      intro hcond
      have h₂ := h₁.toAccountsIn.apply _ hcond hledger
      rw [bind_eq, Contract.wp_bind]
      apply Contract.wp_onlyIf
      · intro hall
        have hpeer₂ := DirectPlay8Peer.peer_changed
          (.incSentData answer.ret.toNat) hpeer
        have htakes : PeerCommand.popPending.takes
            ((PeerCommand.incSentData answer.ret.toNat).apply
              ((Command.peer peerId .getPending).apply s).nextAddr peer) =
            some (.op op.addr) := by
          simp [PeerCommand.takes, PeerCommand.apply, SendQueue.incSentData, hop,
            SendOp.incSentData]
        apply accounts_take h₂ hpeer₂ htakes
        intro _ h₃
        have hunsent₃ := h₁.unsent.popped peerId answer.ret.toNat
        have hledger₃ := h₃.ledger.ofChange peerId .getPending
          (fun _ _ => trivial) (fun _ _ => rfl)
        apply accounts_exec fun _ => hledger₃
        intro hcond₃
        apply accounts_settle (h₃.apply _ hcond₃ hledger₃)
          (hunsent₃.ofChange fun _ => trivial) rfl
        · rintro addr result all ⟨⟩
          simp only [SendOp.getPendingData, List.length_drop] at hall
          simp only [Action.sentAll, SendOp.incSentData, beq_iff_eq, true_iff]
          omega
        intro h₄
        refine Contract.wp_mono
          (accounts_called h₄ (Proc.drained_of_isBefore rfl) trivial) ?_
        rintro _ s₅ M₅ ⟨_, h₅⟩
        exact accounts_called h₅ (Proc.drained_of_isBefore rfl) trivial
      · intro hpart
        refine accounts_called ⟨h₂, h₁.unsent.apply _ ?_⟩
          (Proc.drained_of_isBefore rfl) trivial
        rintro _ _ found ⟨⟩ hfound current hcurrent
        cases hpeer.symm.trans hfound
        cases hop.symm.trans hcurrent
        simp only [SendOp.getPendingData, List.length_drop] at hpart
        omega
    · refine accounts_balanced ?_ hown h₁
      repeat' with_reducible first
        | apply Action.uses_bind
        | intro _
        | split
      all_goals simp [Command.keepsAccounts, Proc.isBefore]
  · intro _
    exact ⟨hown, h⟩

theorem cancelOp_accounts (h : AccountsIn (some (.op op.addr)) s M)
    (hunsent : s.Unsent)
    (hleft : op.sentData < op.data.length) :
    AccountsKept p callers (Action.cancelOp op) s M := by
  apply accounts_settle h hunsent rfl
    (sentAll_of_left hleft dpnErrUserCancel_ne)
  intro h₁
  exact accounts_called h₁ (Proc.drained_of_isBefore rfl) trivial

theorem cancelQueued_accounts (wanted : SendQueue.Wanted)
    {rest : SendQueue SendCallback} (h : AccountsOk s M)
    (hpeer : s.peers[peerId]? = some peer)
    (hremove : peer.sq.remove wanted = some (op, rest)) :
    AccountsKept p callers (Action.cancelQueued peerId wanted op) s M := by
  have htakes : (PeerCommand.removeQueued wanted).takes peer =
      some (.op op.addr) := by
    simp [PeerCommand.takes, hremove]
  have hmem : op ∈ peer.sq.ops :=
    (SendQueue.remove_eq_some hremove).2.ops_perm.mem_iff.mpr List.mem_cons_self
  apply accounts_take h.toAccountsIn hpeer htakes
  intro _ h₁
  exact cancelOp_accounts h₁ (h.unsent.ofChange fun _ => trivial)
    (h.unsent peerId peer hpeer op hmem)

theorem cancelPlayerSends_accounts {player : DPNID} {flags : DWORD}
    (hown : (.cancelPlayerSends player flags :: callers : Multiset Proc) ≤ M)
    (h : AccountsOk s M) :
    AccountsKept (.cancelPlayerSends player flags) callers
      (Action.cancelPlayerSends player flags) s M := by
  apply Contract.wp_get
  split
  · exact ⟨hown, h⟩
  · rename_i peerId peer hfound
    rcases Option.bind_eq_some_iff.mp hfound with ⟨mapped, _, hmapped⟩
    rcases Option.map_eq_some_iff.mp hmapped with ⟨found, hpeer, heq⟩
    cases heq
    dsimp only
    split
    · exact ⟨hown, h⟩
    · rename_i priority op hop
      rcases List.exists_of_findSome?_eq_some hop with ⟨first, _, hmap⟩
      rcases Option.map_eq_some_iff.mp hmap with ⟨⟨taken, rest⟩, hremove, heq⟩
      cases heq
      rw [bind_eq, Contract.wp_bind]
      refine Contract.wp_mono (cancelQueued_accounts (.priority priority) h hpeer
        hremove) ?_
      rintro _ s₁ M₁ ⟨_, h₁⟩
      exact accounts_called h₁ (Proc.drained_of_isBefore rfl) trivial

theorem cancelAllSends_accounts
    (hown : (.cancelAllSends :: callers : Multiset Proc) ≤ M)
    (h : AccountsOk s M) :
    AccountsKept .cancelAllSends callers Action.cancelAllSends s M := by
  apply Contract.wp_get
  dsimp only
  split
  · exact ⟨hown, h⟩
  · rename_i peerId op hop
    rcases List.exists_of_findSome?_eq_some hop with ⟨⟨found, peer⟩, hmem, hmap⟩
    rcases Option.map_eq_some_iff.mp hmap with ⟨⟨taken, rest⟩, hremove, heq⟩
    cases heq
    have hpeer := Std.ExtTreeMap.mem_toList_iff_getElem?_eq_some.mp hmem
    rw [bind_eq, Contract.wp_bind]
    refine Contract.wp_mono (cancelQueued_accounts .any h hpeer hremove) ?_
    rintro _ s₁ M₁ ⟨_, h₁⟩
    exact accounts_called h₁ (Proc.drained_of_isBefore rfl) trivial

theorem cancelSend_accounts {handle : DPNHANDLE} {peerIds : List UInt32}
    (hown : (p :: callers : Multiset Proc) ≤ M) (h : AccountsOk s M) :
    AccountsKept p callers (Action.cancelSend handle none peerIds) s M := by
  induction peerIds generalizing s with
  | nil =>
      refine accounts_balanced ?_ hown h
      simp [Action.cancelSend, Command.keepsAccounts, Event.isQuiet]
  | cons peerId rest ih =>
      apply wp_peerAt trivial
      intro peer hpeer
      cases hremoved : peer.sq.removeQueuedByHandle handle with
      | none =>
          have hledger := h.ledger.ofChange peerId
            (.removeQueued (.handle handle)) (fun _ _ => trivial) (by
              intro found hfound
              cases hpeer.symm.trans hfound
              simp [PeerCommand.takes, SendQueue.remove, hremoved])
          apply accounts_exec fun _ => hledger
          intro hcond
          have h₁ : AccountsOk _ M :=
            ⟨h.toAccountsIn.apply _ hcond hledger,
              h.unsent.ofChange fun _ => trivial⟩
          split
          · refine accounts_balanced ?_ hown h₁
            simp [Command.keepsAccounts, Event.isQuiet]
          · exact ih h₁
      | some found =>
          have htakes : (PeerCommand.removeQueued (.handle handle)).takes peer =
              some (.op found.1.addr) := by
            simp [PeerCommand.takes, SendQueue.remove, hremoved]
          have hremove : peer.sq.remove (.handle handle) = some found := hremoved
          have hmem : found.1 ∈ peer.sq.ops :=
            (SendQueue.remove_eq_some hremove).2.ops_perm.mem_iff.mpr
              List.mem_cons_self
          apply accounts_take h.toAccountsIn hpeer htakes
          intro hcond h₁
          split
          · rename_i hpending
            simp [AccountGuarded, hpeer, hpending, hremoved] at hcond
          · rw [Option.map_some, Action.cancelSend, bind_eq, Contract.wp_bind]
            refine Contract.wp_mono (cancelOp_accounts h₁
              (h.unsent.ofChange fun _ => trivial)
              (h.unsent peerId peer hpeer found.1 hmem)) ?_
            rintro _ s₂ M₂ ⟨hown₂, h₂⟩
            refine accounts_balanced ?_ hown₂ h₂
            simp [Command.keepsAccounts, Event.isQuiet]

theorem cancelAsyncOperation_accounts {handle : DPNHANDLE} {flags : DWORD}
    (hown : (.cancelAsyncOperation handle flags :: callers : Multiset Proc) ≤ M)
    (h : AccountsOk s M) :
    AccountsKept (.cancelAsyncOperation handle flags) callers
      (Action.cancelAsyncOperation handle flags) s M := by
  apply Contract.wp_get
  dsimp only
  split
  · refine accounts_balanced ?_ hown h
    repeat' with_reducible first
      | apply Action.uses_bind
      | intro _
      | split
    all_goals simp [Command.keepsAccounts, Event.isQuiet, Proc.isBefore]
  split
  · refine accounts_balanced ?_ hown h
    repeat' with_reducible first
      | apply Uses.onlyIf
      | apply Action.uses_bind
      | intro _
    all_goals simp [Command.keepsAccounts, Event.isQuiet, Proc.isBefore]
  split
  · refine accounts_balanced ?_ hown h
    split <;> simp [Command.keepsAccounts, Event.isQuiet]
  split
  · refine accounts_balanced ?_ hown h
    repeat' with_reducible first
      | apply Action.uses_bind
      | intro _
      | split
    all_goals simp [Command.keepsAccounts, Event.isQuiet, Proc.isBefore]
  split
  · apply accounts_keep h rfl
    intro h₁
    split
    · refine accounts_balanced ?_ hown h₁
      simp [Command.keepsAccounts, Event.isQuiet]
    · have hnone : s.udpSq.remove (.handle handle) = none := by
        refine SendQueue.remove_eq_none.mpr ?_
        rintro op ⟨hqueued, hhandle, _⟩
        exact hhandle (h.datagrams op (List.mem_append_right _ hqueued))
      rw [show s.udpSq.removeQueuedByHandle handle = none from hnone]
      exact cancelSend_accounts hown h₁
  · refine accounts_balanced ?_ hown h
    simp [Command.keepsAccounts, Event.isQuiet]

def Proc.settles : Proc -> Bool
  | .handleAck .. | .peerDestroyAcks .. | .peerDestroySends ..
  | .peerDestroyDrained .. | .ioPeerSend .. | .cancelPlayerSends ..
  | .cancelAllSends | .cancelAsyncOperation .. => true
  | _ => false

theorem accounts_body (hown : (p :: callers : Multiset Proc) ≤ M)
    (h : AccountsOk s M) (hcancels : p.CancelsWithError) :
    AccountsKept p callers p.body s M := by
  cases hp : p.settles with
  | true =>
      cases p <;> try cases hp
      · exact cancelAsyncOperation_accounts hown h
      · exact ioPeerSend_accounts hown h
      · exact peerDestroySends_accounts hcancels h
      · exact peerDestroyAcks_accounts hown hcancels h
      · exact peerDestroyDrained_accounts hown hcancels h
      · exact handleAck_accounts hown h
      · exact cancelPlayerSends_accounts hown h
      · exact cancelAllSends_accounts hown h
  | false =>
      have hkinds : p.kinds.all (fun kind => !kind.settles) = true := by
        cases p <;> first
          | rfl
          | cases hp
      refine accounts_rest p.body_uses ?_ ?_ (fun _ h => h) hown h
      · rintro command s₁ M₁ ⟨hkind, hfits⟩ _ hok hcond
        refine hok.apply command (Command.keepsAccounts_of ?_ hfits) hcond
        simpa using List.all_eq_true.mp hkinds _ hkind
      · intro callee hcall
        refine ⟨?_, hcall.2.1 hcancels⟩
        have hcallee := hcall.1
        cases callee <;> first
          | rfl
          | (cases p <;> first
              | (cases hcallee; done)
              | cases hp)

end Bodies

theorem accountContract_valid :
    accountContract.Valid DirectPlay8Peer.Constructed where
  initial := by
    intro s hs
    refine ⟨⟨⟨.initial hs, by simp, ?_⟩, ?_⟩, trivial⟩
    · intro op hop
      simp [hs.udpSq] at hop
    · intro peerId peer hpeer
      simp [hs.peers] at hpeer
  start := by
    intro p s M hentry hok _ _
    have hbefore : p.isBefore = true := by
      cases p <;> first
        | rfl
        | simp [machine, Proc.entry, Proc.isMethod, Proc.isWorkerEvent] at hentry
    refine ⟨hok.called (Proc.drained_of_isBefore hbefore), ?_⟩
    cases p <;> trivial
  body := by
    intro p callers s M hown hpre
    refine Contract.wp_mono (accounts_body hown hpre.1 hpre.2) ?_
    rintro _ s' M' ⟨_, hok⟩
    refine ⟨⟨⟨⟨hok.ledger, ?_, hok.datagrams⟩, hok.unsent⟩, trivial⟩,
      fun _ _ => trivial⟩
    exact fun r hr => hok.drained r (Multiset.mem_of_mem_erase hr)

/-!
## Runs
-/

/-- What is promised to whoever hands something to a peer. -/
structure Settled (s : DirectPlay8Peer) : Prop where
  /-- Its callback is called at most once. -/
  atMostOnce : forall event, event ∈ s.history -> forall (peer : Nat) (due : Due),
    event.placed = some (peer, due) -> s.settlements due ≤ 1
  /-- It has been called when the peer is gone. -/
  deleted : forall event, event ∈ s.history -> forall (peer : Nat) (due : Due),
    event.placed = some (peer, due) -> .peerDeleted peer ∈ s.history ->
    s.settlements due = 1
  /-- It is told `S_OK` if and only if everything has been sent. -/
  results : forall (op : Nat) (result : HRESULT) (sentAll : Bool),
    .resolved op result sentAll ∈ s.history -> (result = sOk ↔ sentAll = true)

theorem Ledger.settled {transit : Option Due} {s : DirectPlay8Peer}
    (h : Ledger transit s) : Settled s where
  atMostOnce := by
    intro event hevent peer due hplaced
    rcases h.placed event hevent peer due hplaced with hone | htransit |
      ⟨peerId, found, hfound, _, howes⟩
    · exact hone.le
    · simp [(h.inTransit due htransit).1]
    · simp [(h.owed peerId found due hfound howes).1]
  deleted := by
    intro event hevent peer due hplaced hdeleted
    rcases h.placed event hevent peer due hplaced with hone | htransit |
      ⟨peerId, found, hfound, howner, _⟩
    · exact hone
    · exact absurd hplaced
        ((h.inTransit due htransit).2.2 peer hdeleted event hevent)
    · exact absurd howner ((h.gone peer hdeleted).2 peerId found hfound)
  results := h.results

/-- Whatever is handed to a peer has been settled once when the peer is gone. -/
theorem settled_once {c : Run}
    (h : Reaches machine DirectPlay8Peer.Constructed AccountGuarded c) :
    Settled c.state := by
  rcases accountContract_valid.always
    (I := fun s => exists transit, Ledger transit s)
    (fun s hs => ⟨none, .initial hs⟩) (fun _ _ _ hguar _ => hguar) h with
    ⟨transit, hledger⟩
  exact hledger.settled

instance {s : DirectPlay8Peer} {M : Multiset Proc} {label : StepLabel} :
    Decidable (AccountGuarded s M label) := by
  unfold AccountGuarded
  split <;> infer_instance

/-- A host has lost the connection to a client with `CONNECT_HOST_OK` unsent. -/
theorem settled_once_deleted :
    exists c : Run,
      Reaches machine DirectPlay8Peer.Constructed AccountGuarded c ∧
        .queued 0 1 ∈ c.state.history ∧ .peerDeleted 0 ∈ c.state.history ∧
        Settled c.state := by
  have hrun : (replay AccountGuarded (choicesAdmit ++
      [.start (.ioPeerTriggered 0), .answer { ret := -1 }, .resume 0 {}])).any
      (fun c => decide (.queued 0 1 ∈ c.state.history ∧
        .peerDeleted 0 ∈ c.state.history)) = true := by
    decide +kernel
  rcases replay_reaches hrun with ⟨c, hc, htest⟩
  rcases of_decide_eq_true htest with ⟨hqueued, hdeleted⟩
  exact ⟨c, hc, hqueued, hdeleted, settled_once hc⟩

/-- Another thread calls `SendTo` while the application is told of the loss. -/
theorem not_settled_once :
    ¬ forall c : Run,
      Reaches machine DirectPlay8Peer.Constructed Unrestricted c ->
      Settled c.state := by
  intro hclaim
  have hrun : (replay Unrestricted (choicesAdmit ++
      [.start (.ioPeerTriggered 0), .answer { ret := -1 },
        .start (.sendTo 2 [1] contextNull 0), .resume 0 {}])).any
      (fun c => decide (.queued 0 3 ∈ c.state.history ∧
        .peerDeleted 0 ∈ c.state.history ∧
        c.state.settlements (.op 3) = 0)) = true := by
    decide +kernel
  rcases replay_reaches hrun with ⟨c, hc, htest⟩
  rcases of_decide_eq_true htest with ⟨hqueued, hdeleted, hzero⟩
  have hone := (hclaim c hc).deleted _ hqueued 0 (.op 3) rfl hdeleted
  cases hzero.symm.trans hone

end DirectPlayLite
