import DirectPlayLite.Lib.Monitor.Contract
import DirectPlayLite.Lib.Monitor.Tokens
import DirectPlayLite.Peer.Behaviour

/-!
# Contracts for the peer object

What the contracts of the object share: which commands leave which members alone,
and programs that hold the lock from their first step to their last.
-/

namespace DirectPlayLite

open Monitor Program

noncomputable instance : DecidableEq Proc := Classical.decEq Proc

/-!
## Frames
-/

def Event.isRecord : Event -> Bool
  | peerDeleted .. | queued .. | ackRegistered .. | received .. => true
  | _ => false

namespace Command

variable {command : Command} {s : DirectPlay8Peer}

theorem kind_eq_state (h : command.kind = .state) :
    exists state, command = .setState state ∨
      command = .log (.entered state) := by
  cases command with
  | setState state => exact ⟨state, Or.inl rfl⟩
  | log event =>
      cases event with
      | entered state => exact ⟨state, Or.inr rfl⟩
      | raised notification => cases notification <;> cases h
      | returned method result => cases method <;> cases h
      | _ => cases h
  | peer peerId change => cases change <;> cases h
  | «local» change => cases change <;> cases h
  | _ => cases h

theorem applyPeer_state (peerId : UInt32) (change : PeerCommand) :
    (applyPeer s peerId change).state = s.state := by
  unfold applyPeer
  split <;> rfl

theorem apply_state (h : command.kind ≠ .state) :
    (command.apply s).state = s.state := by
  cases command with
  | setState state => exact absurd rfl h
  | peer peerId change => exact applyPeer_state peerId change
  | setSocket which sock => cases which <;> rfl
  | «local» change => cases change <;> rfl
  | session change => cases change <;> rfl
  | connect change => cases change <;> rfl
  | _ => rfl

theorem apply_history (hstate : command.kind ≠ .state)
    (hlog : forall event, command ≠ .log event) :
    exists records, (command.apply s).history = records ++ s.history ∧
      forall event, event ∈ records -> event.isRecord = true := by
  cases command with
  | setState state => exact absurd rfl hstate
  | log event => exact absurd rfl (hlog event)
  | peer peerId change =>
      simp only [apply, applyPeer]
      split
      · exact ⟨[], rfl, by simp⟩
      · refine ⟨_, rfl, ?_⟩
        cases change <;> simp [PeerCommand.events, Event.isRecord]
  | erasePeer peerId =>
      refine ⟨_, rfl, ?_⟩
      cases s.peers[peerId]? <;> simp [Event.isRecord]
  | setSocket which sock => exact ⟨[], by cases which <;> rfl, by simp⟩
  | «local» change => exact ⟨[], by cases change <;> rfl, by simp⟩
  | session change => exact ⟨[], by cases change <;> rfl, by simp⟩
  | connect change => exact ⟨[], by cases change <;> rfl, by simp⟩
  | _ => exact ⟨[], rfl, by simp⟩

theorem apply_peers (command : Command) (s : DirectPlay8Peer) :
    (exists peerId change, command = .peer peerId change) ∨
    (exists peerId state sock ip port playerId,
      command = .insertPeer peerId state sock ip port playerId) ∨
    (exists peerId, command = .erasePeer peerId) ∨
    (command.apply s).peers = s.peers := by
  cases command with
  | peer peerId change => exact Or.inl ⟨peerId, change, rfl⟩
  | insertPeer => exact Or.inr (Or.inl ⟨_, _, _, _, _, _, rfl⟩)
  | erasePeer peerId => exact Or.inr (Or.inr (Or.inl ⟨peerId, rfl⟩))
  | setSocket which sock => exact Or.inr (Or.inr (Or.inr (by cases which <;> rfl)))
  | «local» change => exact Or.inr (Or.inr (Or.inr (by cases change <;> rfl)))
  | session change => exact Or.inr (Or.inr (Or.inr (by cases change <;> rfl)))
  | connect change => exact Or.inr (Or.inr (Or.inr (by cases change <;> rfl)))
  | _ => exact Or.inr (Or.inr (Or.inr rfl))

theorem peer_cases {peerId : UInt32} {peer : Peer}
    (h : (command.apply s).peers[peerId]? = some peer) :
    s.peers[peerId]? = some peer ∨
    (exists change before, command = .peer peerId change ∧
      s.peers[peerId]? = some before ∧
      peer = change.apply s.nextAddr before) ∨
    (exists state sock ip port playerId,
      command = .insertPeer peerId state sock ip port playerId ∧
      s.peers[peerId]? = none ∧
      peer = { Peer.new s.nextAddr state sock ip port with playerId }) := by
  rcases command.apply_peers s with ⟨changed, change, rfl⟩ |
    ⟨inserted, state, sock, ip, port, playerId, rfl⟩ | ⟨erased, rfl⟩ | hsame
  · simp only [apply, applyPeer] at h
    split at h
    · exact Or.inl h
    · rename_i found hfound
      rw [Std.ExtTreeMap.getElem?_insert] at h
      split at h
      · rename_i hchanged
        have hsame : changed = peerId := by simpa using hchanged
        subst hsame
        exact Or.inr (Or.inl ⟨change, found, rfl, hfound, (Option.some.inj h).symm⟩)
      · exact Or.inl h
  · simp only [apply] at h
    rw [Std.ExtTreeMap.getElem?_insertIfNew] at h
    split at h
    · rename_i hinserted
      have hsame : inserted = peerId := by simpa using hinserted.1
      subst hsame
      exact Or.inr (Or.inr ⟨state, sock, ip, port, playerId, rfl,
        by simpa using hinserted.2, (Option.some.inj h).symm⟩)
    · exact Or.inl h
  · simp only [apply] at h
    rw [Std.ExtTreeMap.getElem?_erase] at h
    split at h
    · cases h
    · exact Or.inl h
  · rw [hsame] at h
    exact Or.inl h

end Command

theorem PeerCommand.apply_state (change : PeerCommand) (addr : Nat)
    (peer : Peer) :
    (exists state, change = .setState state) ∨
      (change.apply addr peer).state = peer.state := by
  cases change with
  | setState state => exact Or.inl ⟨state, rfl⟩
  | _ => exact Or.inr rfl

/-!
## Programs that keep the lock
-/

/-- Hold the lock, and run commands of some kinds only. -/
def Kept (commands : Command -> Prop) : Footprint Command Proc Fault where
  commands := commands
  releases := False
  calls := fun _ => False
  spawns := fun _ => False
  faults := fun _ => True

section Kept

variable {commands : Command -> Prop} {command : Command} {fault : Fault}

@[simp] theorem kept_commands :
    (Kept commands).commands command ↔ commands command := Iff.rfl

@[simp] theorem kept_faults : (Kept commands).faults fault ↔ True := Iff.rfl

variable {K : Contract machine} {p : Proc} {callers : List Proc} {α : Type}

theorem wp_kept {prog : Action α} (huses : prog.Uses (Kept commands))
    (hfaults : forall fault, K.faults fault) {I : DirectPlay8Peer -> Prop}
    {M : Multiset Proc}
    (hcommands : forall command s, commands command -> I s ->
      K.cond s M (.exec p command) ->
      K.Agrees p command M s ∧ I (command.apply s))
    {s : DirectPlay8Peer} (h : I s) :
    K.wp p callers prog (fun _ s' M' => M' = M ∧ I s') s M :=
  Contract.wp_locked huses (fun h => h) (fun _ h => h) (fun _ h => h)
    (fun fault _ => hfaults fault) hcommands h

end Kept

/-!
## Looking up peers and fields
-/

def DirectPlay8Peer.PeerIn (s : DirectPlay8Peer) (peerId : UInt32)
    (state : PeerState) : Prop :=
  (s.peers[peerId]?).any (fun peer => peer.state == state) = true

instance {s : DirectPlay8Peer} {peerId : UInt32} {state : PeerState} :
    Decidable (s.PeerIn peerId state) := inferInstanceAs (Decidable (_ = true))

theorem DirectPlay8Peer.peerIn {s : DirectPlay8Peer} {peerId : UInt32} {peer : Peer}
    (h : s.peers[peerId]? = some peer) : s.PeerIn peerId peer.state := by
  simp [PeerIn, h]

section Lookups

variable {K : Contract machine} {p : Proc} {callers : List Proc} {α β : Type}
  {post : β -> DirectPlay8Peer -> Multiset Proc -> Prop}
  {s : DirectPlay8Peer} {M : Multiset Proc} {peerId : UInt32}

theorem wp_peerAt {missing : Fault} {f : Peer -> Action β}
    (hfaults : K.faults missing)
    (h : forall peer, s.peers[peerId]? = some peer ->
      K.wp p callers (f peer) post s M) :
    K.wp p callers (Action.peerAt peerId missing >>= f) post s M := by
  rw [bind_eq, Contract.wp_bind]
  apply Contract.wp_get
  split
  · rename_i peer hpeer
    exact h peer hpeer
  · intro _
    exact hfaults

theorem wp_assertedPeer {f : Peer -> Action β}
    (hfaults : K.faults .nullDereference)
    (hnote : K.Agrees p (.log (.assertionFailed .peerNotNull)) M s)
    (h : forall peer, s.peers[peerId]? = some peer ->
      K.wp p callers (f peer) post s M) :
    K.wp p callers (Action.assertedPeer peerId >>= f) post s M := by
  rw [bind_eq, Contract.wp_bind]
  apply Contract.wp_get
  rw [bind_eq, Contract.wp_bind]
  apply Contract.wp_onlyIf
  · intro hnone _
    refine ⟨hnote, ?_⟩
    have hmissing : s.peers[peerId]? = none := not_ne_iff.mp hnone
    apply Contract.wp_get
    split
    · rename_i peer hpeer
      cases hmissing.symm.trans hpeer
    · intro _
      exact hfaults
  · intro _
    apply Contract.wp_get
    split
    · rename_i peer hpeer
      exact h peer hpeer
    · intro _
      exact hfaults

theorem wp_renewPeer {next : Peer -> Action Unit}
    {post : Unit -> DirectPlay8Peer -> Multiset Proc -> Prop}
    (hsome : forall peer, s.peers[peerId]? = some peer ->
      K.wp p callers (next peer) post s M)
    (hnone : s.peers[peerId]? = none -> post () s M) :
    K.wp p callers (Action.renewPeer peerId next) post s M := by
  apply Contract.wp_get
  split
  · rename_i peer hpeer
    exact hsome peer hpeer
  · rename_i hmissing
    exact hnone hmissing

theorem wp_caught {fields : Except PacketError α} {next : α -> Action Unit}
    {post : Unit -> DirectPlay8Peer -> Multiset Proc -> Prop}
    (hok : forall value, fields = .ok value ->
      K.wp p callers (next value) post s M)
    (herror : forall error, fields = .error error -> post () s M) :
    K.wp p callers (Action.caught fields next) post s M := by
  unfold Action.caught
  split
  · exact herror _ rfl
  · exact hok _ rfl

theorem wp_fetch {field : Except PacketError α} {f : α -> Action β}
    (hfaults : forall error, K.faults (.unhandledException error))
    (h : forall value, field = .ok value ->
      K.wp p callers (f value) post s M) :
    K.wp p callers (Action.fetch field >>= f) post s M := by
  rw [bind_eq, Contract.wp_bind]
  unfold Action.fetch
  split
  · exact h _ rfl
  · intro _
    exact hfaults _

end Lookups

end DirectPlayLite
