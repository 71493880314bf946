import DirectPlayLite.Peer.Contracts

/-!
# The table of the players

`player_to_peer_id` and the peers describe each other: an entry names a peer that
is a player or on its way out, and whoever is connected has an entry.  What each
command does to the two is said here; who runs it when is left to the procedures.
-/

namespace DirectPlayLite

open Monitor Program

namespace DirectPlay8Peer

variable {s s' s'' : DirectPlay8Peer} {peerId : UInt32} {playerId : DPNID}

def IsNamed (s : DirectPlay8Peer) (peerId : UInt32) : Prop :=
  (s.playerToPeerId.toList.any fun (_, named) => named == peerId) = true

instance : Decidable (s.IsNamed peerId) := inferInstanceAs (Decidable (_ = true))

theorem isNamed_iff :
    s.IsNamed peerId ↔
      exists playerId : DPNID, s.playerToPeerId[playerId]? = some peerId := by
  rw [IsNamed, List.any_eq_true]
  constructor
  · rintro ⟨⟨playerId, named⟩, hmem, hnamed⟩
    have hentry := Std.ExtTreeMap.mem_toList_iff_getElem?_eq_some.mp hmem
    exact ⟨playerId, by simpa using hentry.trans (congrArg some (by simpa using hnamed))⟩
  · rintro ⟨playerId, hentry⟩
    exact ⟨(playerId, peerId),
      Std.ExtTreeMap.mem_toList_iff_getElem?_eq_some.mpr hentry, by simp⟩

def Known (s : DirectPlay8Peer) (playerId : DPNID) : Prop :=
  playerId = s.localPlayerId ∨ playerId ∈ s.playerToPeerId

instance : Decidable (s.Known playerId) := inferInstanceAs (Decidable (_ ∨ _))

structure PlayersDescribed (s : DirectPlay8Peer) : Prop where
  named : forall (playerId : DPNID) (peerId : UInt32),
    s.playerToPeerId[playerId]? = some peerId ->
    exists peer : Peer, s.peers[peerId]? = some peer ∧
      peer.playerId = playerId ∧
      (peer.state = .connected ∨ peer.state = .closing)
  mapped : forall (peerId : UInt32) (peer : Peer), s.peers[peerId]? = some peer ->
    peer.state = .connected ->
    s.playerToPeerId[peer.playerId]? = some peerId
  unmapped : s.playerToPeerId[s.localPlayerId]? = none

def Numbered (s : DirectPlay8Peer) : Prop :=
  s.state = .hosting ->
    forall playerId, s.Known playerId -> playerId.toNat < s.nextPlayerId.toNat

end DirectPlay8Peer

def Peer.role (peer : Peer) : Nat × PeerState × DPNID :=
  (peer.addr, peer.state, peer.playerId)

/-!
## Frames
-/

namespace DirectPlay8Peer

variable {s s' s'' : DirectPlay8Peer} {peerId : UInt32} {playerId : DPNID}

structure Alike (s s' : DirectPlay8Peer) : Prop where
  peers : forall peerId : UInt32,
    (s'.peers[peerId]?).map Peer.role = (s.peers[peerId]?).map Peer.role
  playerToPeerId : s'.playerToPeerId = s.playerToPeerId
  nextAddr : s.nextAddr ≤ s'.nextAddr

structure Aside (s s' : DirectPlay8Peer) : Prop extends Alike s s' where
  localPlayerId : s'.localPlayerId = s.localPlayerId
  hosting : s'.state = .hosting -> s.state = .hosting
  nextPlayerId : s'.state = .hosting ->
    s.nextPlayerId.toNat ≤ s'.nextPlayerId.toNat

theorem Alike.before (h : Alike s s') {peer : Peer}
    (hpeer : s'.peers[peerId]? = some peer) :
    exists before, s.peers[peerId]? = some before ∧ before.addr = peer.addr ∧
      before.state = peer.state ∧ before.playerId = peer.playerId := by
  have hrole := h.peers peerId
  rw [hpeer] at hrole
  rcases Option.map_eq_some_iff.mp hrole.symm with ⟨before, hbefore, hsame⟩
  simp only [Peer.role, Prod.mk.injEq] at hsame
  exact ⟨before, hbefore, hsame.1, hsame.2.1, hsame.2.2⟩

theorem Alike.after (h : Alike s s') {peer : Peer}
    (hpeer : s.peers[peerId]? = some peer) :
    exists later, s'.peers[peerId]? = some later ∧ later.addr = peer.addr ∧
      later.state = peer.state ∧ later.playerId = peer.playerId := by
  have hrole := h.peers peerId
  rw [hpeer] at hrole
  rcases Option.map_eq_some_iff.mp hrole with ⟨later, hlater, hsame⟩
  simp only [Peer.role, Prod.mk.injEq] at hsame
  exact ⟨later, hlater, hsame.1, hsame.2.1, hsame.2.2⟩

theorem Alike.isNamed (h : Alike s s') : s'.IsNamed peerId ↔ s.IsNamed peerId := by
  rw [IsNamed, IsNamed, h.playerToPeerId]

theorem Aside.refl (s : DirectPlay8Peer) : Aside s s where
  peers := fun _ => rfl
  playerToPeerId := rfl
  nextAddr := le_rfl
  localPlayerId := rfl
  hosting := id
  nextPlayerId := fun _ => le_rfl

theorem Aside.trans (h : Aside s s') (h' : Aside s' s'') : Aside s s'' where
  peers := fun peerId => (h'.peers peerId).trans (h.peers peerId)
  playerToPeerId := h'.playerToPeerId.trans h.playerToPeerId
  nextAddr := h.nextAddr.trans h'.nextAddr
  localPlayerId := h'.localPlayerId.trans h.localPlayerId
  hosting := h.hosting ∘ h'.hosting
  nextPlayerId := fun hhosting =>
    (h.nextPlayerId (h'.hosting hhosting)).trans (h'.nextPlayerId hhosting)

theorem Aside.known (h : Aside s s') : s'.Known playerId ↔ s.Known playerId := by
  rw [Known, Known, h.localPlayerId, h.playerToPeerId]

theorem Aside.described (haside : Aside s s') (h : s.PlayersDescribed) :
    s'.PlayersDescribed where
  named := by
    intro playerId peerId hentry
    rw [haside.playerToPeerId] at hentry
    rcases h.named playerId peerId hentry with ⟨peer, hpeer, hplayer, hstate⟩
    rcases haside.after hpeer with ⟨later, hlater, _, hsame, hplayer'⟩
    exact ⟨later, hlater, hplayer'.trans hplayer, by rwa [hsame]⟩
  mapped := by
    intro peerId peer hpeer hconnected
    rcases haside.before hpeer with ⟨before, hbefore, _, hsame, hplayer⟩
    rw [haside.playerToPeerId, ← hplayer]
    exact h.mapped peerId before hbefore (hsame.trans hconnected)
  unmapped := by
    rw [haside.playerToPeerId, haside.localPlayerId]
    exact h.unmapped

theorem Aside.numbered (haside : Aside s s') (h : s.Numbered) : s'.Numbered := by
  intro hhosting playerId hknown
  exact lt_of_lt_of_le (h (haside.hosting hhosting) playerId (haside.known.mp hknown))
    (haside.nextPlayerId hhosting)

end DirectPlay8Peer

/-!
## Commands
-/

namespace PeerCommand

variable {change : PeerCommand} {addr : Nat} {peer : Peer}

theorem apply_playerId (change : PeerCommand) (addr : Nat) (peer : Peer) :
    (exists playerId, change = .setPlayerId playerId) ∨
      (change.apply addr peer).playerId = peer.playerId := by
  cases change with
  | setPlayerId playerId => exact Or.inl ⟨playerId, rfl⟩
  | _ => exact Or.inr rfl

theorem apply_addr : (change.apply addr peer).addr = peer.addr := by
  cases change <;> rfl

@[simp] def affectsRole : PeerCommand -> Bool
  | .setState _ | .setPlayerId _ => true
  | _ => false

theorem apply_role (h : change.affectsRole = false) :
    (change.apply addr peer).role = peer.role := by
  cases change <;> first
    | rfl
    | cases h

end PeerCommand

@[simp] def Command.affectsPlayers : Command -> Bool
  | .allocPlayerId | .setState .hosting | .insertPeer .. | .erasePeer _
  | .mapPlayer .. | .unmapPlayer _ | .setNextPlayerId _
  | .local (.setPlayerId _) => true
  | .peer _ change => change.affectsRole
  | _ => false

namespace Command

variable {command : Command} {s : DirectPlay8Peer}

theorem apply_players (command : Command) (s : DirectPlay8Peer) :
    (exists playerId peerId, command = .mapPlayer playerId peerId) ∨
    (exists playerId, command = .unmapPlayer playerId) ∨
    (command.apply s).playerToPeerId = s.playerToPeerId := by
  cases command with
  | mapPlayer playerId peerId => exact Or.inl ⟨playerId, peerId, rfl⟩
  | unmapPlayer playerId => exact Or.inr (Or.inl ⟨playerId, rfl⟩)
  | peer peerId change =>
      refine Or.inr (Or.inr ?_)
      simp only [apply, applyPeer]
      split <;> rfl
  | setSocket which sock => exact Or.inr (Or.inr (by cases which <;> rfl))
  | «local» change => exact Or.inr (Or.inr (by cases change <;> rfl))
  | session change => exact Or.inr (Or.inr (by cases change <;> rfl))
  | connect change => exact Or.inr (Or.inr (by cases change <;> rfl))
  | _ => exact Or.inr (Or.inr rfl)

theorem apply_localPlayerId (command : Command) (s : DirectPlay8Peer) :
    (exists playerId, command = .local (.setPlayerId playerId)) ∨
    (command.apply s).localPlayerId = s.localPlayerId := by
  cases command with
  | «local» change =>
      cases change with
      | setPlayerId playerId => exact Or.inl ⟨playerId, rfl⟩
      | _ => exact Or.inr rfl
  | peer peerId change =>
      refine Or.inr ?_
      simp only [apply, applyPeer]
      split <;> rfl
  | setSocket which sock => exact Or.inr (by cases which <;> rfl)
  | session change => exact Or.inr (by cases change <;> rfl)
  | connect change => exact Or.inr (by cases change <;> rfl)
  | _ => exact Or.inr rfl

theorem peer_after (command : Command) {peerId : UInt32} {peer : Peer}
    (h : s.peers[peerId]? = some peer) :
    (command.apply s).peers[peerId]? = some peer ∨
    (exists change, command = .peer peerId change ∧
      (command.apply s).peers[peerId]? =
        some (change.apply s.nextAddr peer)) ∨
    command = .erasePeer peerId := by
  rcases command.apply_peers s with ⟨changed, change, rfl⟩ |
    ⟨inserted, state, sock, ip, port, playerId, rfl⟩ | ⟨erased, rfl⟩ | hsame
  · by_cases hchanged : changed = peerId
    · subst hchanged
      refine Or.inr (Or.inl ⟨change, rfl, ?_⟩)
      simp [apply, applyPeer, h]
    · refine Or.inl ?_
      simp only [apply, applyPeer]
      split
      · exact h
      · rw [Std.ExtTreeMap.getElem?_insert, if_neg (by simpa using hchanged)]
        exact h
  · refine Or.inl ?_
    simp only [apply]
    rw [Std.ExtTreeMap.getElem?_insertIfNew, if_neg]
    · exact h
    · rintro ⟨hinserted, hnew⟩
      have hsame : inserted = peerId := by simpa using hinserted
      subst hsame
      exact hnew (Std.ExtTreeMap.mem_iff_isSome_getElem?.mpr (by simp [h]))
  · by_cases herased : erased = peerId
    · subst herased
      exact Or.inr (Or.inr rfl)
    · refine Or.inl ?_
      simp only [apply]
      rw [Std.ExtTreeMap.getElem?_erase, if_neg (by simpa using herased)]
      exact h
  · exact Or.inl (hsame ▸ h)

theorem apply_nextAddr (command : Command) (s : DirectPlay8Peer) :
    s.nextAddr ≤ (command.apply s).nextAddr := by
  cases command with
  | peer peerId change =>
      simp only [apply, applyPeer]
      split
      · exact le_rfl
      · split
        · exact Nat.le_succ _
        · exact le_rfl
  | setSocket which sock => cases which <;> exact le_rfl
  | «local» change => cases change <;> exact le_rfl
  | session change => cases change <;> exact le_rfl
  | connect change => cases change <;> exact le_rfl
  | _ => first
      | exact le_rfl
      | exact Nat.le_succ _

end Command

namespace DirectPlay8Peer

variable {s : DirectPlay8Peer} {peerId : UInt32} {change : PeerCommand}

theorem peer_changed (change : PeerCommand) {peer : Peer}
    (hpeer : s.peers[peerId]? = some peer) :
    ((Command.peer peerId change).apply s).peers[peerId]? =
      some (change.apply s.nextAddr peer) := by
  simp [Command.apply, Command.applyPeer, hpeer]

theorem peer_unchanged {other : UInt32} (hother : other ≠ peerId) :
    ((Command.peer peerId change).apply s).peers[other]? = s.peers[other]? := by
  simp only [Command.apply, Command.applyPeer]
  split
  · rfl
  · rw [Std.ExtTreeMap.getElem?_insert, if_neg (by simpa using hother.symm)]

theorem players_unchanged :
    ((Command.peer peerId change).apply s).playerToPeerId =
      s.playerToPeerId := by
  simp only [Command.apply, Command.applyPeer]
  split <;> rfl

theorem local_unchanged :
    ((Command.peer peerId change).apply s).localPlayerId = s.localPlayerId := by
  simp only [Command.apply, Command.applyPeer]
  split <;> rfl

theorem numbering_unchanged :
    ((Command.peer peerId change).apply s).nextPlayerId = s.nextPlayerId := by
  simp only [Command.apply, Command.applyPeer]
  split <;> rfl

theorem known_unchanged {playerId : DPNID} :
    ((Command.peer peerId change).apply s).Known playerId ↔ s.Known playerId := by
  rw [Known, Known, players_unchanged, local_unchanged]

theorem isNamed_unchanged {other : UInt32} :
    ((Command.peer peerId change).apply s).IsNamed other ↔ s.IsNamed other := by
  rw [IsNamed, IsNamed, players_unchanged]

end DirectPlay8Peer

namespace Command

variable {command : Command} {s : DirectPlay8Peer}

theorem alike (hpeers : (command.apply s).peers = s.peers)
    (hentries : (command.apply s).playerToPeerId = s.playerToPeerId) :
    s.Alike (command.apply s) where
  peers := fun peerId => by rw [hpeers]
  playerToPeerId := hentries
  nextAddr := command.apply_nextAddr s

theorem peer_aside {peerId : UInt32} {change : PeerCommand}
    (h : forall peer, s.peers[peerId]? = some peer ->
      (change.apply s.nextAddr peer).role = peer.role) :
    s.Aside ((Command.peer peerId change).apply s) where
  peers := by
    intro other
    by_cases hother : other = peerId
    · subst hother
      cases hpeer : s.peers[other]? with
      | none => simp [apply, applyPeer, hpeer]
      | some peer =>
          rw [DirectPlay8Peer.peer_changed change hpeer]
          exact congrArg some (h peer hpeer)
    · rw [DirectPlay8Peer.peer_unchanged hother]
  playerToPeerId := DirectPlay8Peer.players_unchanged
  nextAddr := apply_nextAddr _ s
  localPlayerId := DirectPlay8Peer.local_unchanged
  hosting := by
    rw [show (Command.peer peerId change).apply s = applyPeer s peerId change from rfl,
      applyPeer_state]
    exact id
  nextPlayerId := fun _ => le_of_eq (congrArg _ DirectPlay8Peer.numbering_unchanged.symm)

theorem aside (h : command.affectsPlayers = false) :
    s.Aside (command.apply s) := by
  cases command with
  | peer peerId change => exact peer_aside fun _ _ => PeerCommand.apply_role h
  | setState state =>
      have hother : state ≠ .hosting := by
        rintro rfl
        cases h
      exact { DirectPlay8Peer.Aside.refl s with
        hosting := fun hhosting => absurd hhosting hother
        nextPlayerId := fun hhosting => absurd hhosting hother }
  | newCompletion | udpSend =>
      exact { DirectPlay8Peer.Aside.refl s with nextAddr := Nat.le_succ _ }
  | setSocket which sock =>
      cases which <;> exact { DirectPlay8Peer.Aside.refl s with }
  | «local» change =>
      cases change <;> first
        | exact { DirectPlay8Peer.Aside.refl s with }
        | cases h
  | session change => cases change <;> exact { DirectPlay8Peer.Aside.refl s with }
  | connect change => cases change <;> exact { DirectPlay8Peer.Aside.refl s with }
  | _ => first
      | exact { DirectPlay8Peer.Aside.refl s with }
      | cases h

end Command

/-!
## Who comes back to a peer
-/

namespace Proc

@[simp] def destroys (peerId : UInt32) : Proc -> Bool
  | .peerDestroyDrained destroyed .. => destroyed == peerId
  | _ => false

@[simp] def requests (peerId : UInt32) : Proc -> Bool
  | .handleHostConnectRequest requesting _ => requesting == peerId
  | _ => false

/-- Behind a message the procedure goes on with the peer. -/
@[simp] def holds (peerId : UInt32) : Proc -> Bool
  | .peerDestroyDrained held .. | .peerShutdown held ..
  | .handleHostConnectRequest held _ => held == peerId
  | _ => false

theorem holds_of_destroys {p : Proc} {peerId : UInt32}
    (h : p.destroys peerId = true) : p.holds peerId = true := by
  cases p <;> simp_all

theorem holds_of_requests {p : Proc} {peerId : UInt32}
    (h : p.requests peerId = true) : p.holds peerId = true := by
  cases p <;> simp_all

end Proc

namespace DirectPlay8Peer

variable {s s' : DirectPlay8Peer} {peerId : UInt32} {playerId : DPNID} {addr : Nat}

def Gone (s : DirectPlay8Peer) (peerId : UInt32) : Prop :=
  forall peer, s.peers[peerId]? = some peer -> peer.state = .closing

def Left (s : DirectPlay8Peer) (peerId : UInt32) : Prop :=
  s.Gone peerId ∧ ¬ s.IsNamed peerId

structure Leaving (s : DirectPlay8Peer) (peerId : UInt32) (playerId : DPNID) :
    Prop where
  closing : exists peer, s.peers[peerId]? = some peer ∧ peer.state = .closing ∧
    peer.playerId = playerId
  entry : s.playerToPeerId[playerId]? = some peerId

def HeldAt (s : DirectPlay8Peer) (peerId : UInt32) (addr : Nat) : Prop :=
  forall peer, s.peers[peerId]? = some peer -> peer.addr = addr

def Waiting (s : DirectPlay8Peer) (peerId : UInt32) : Prop :=
  forall peer, s.peers[peerId]? = some peer -> peer.state = .indicating

def Since (s : DirectPlay8Peer) (addr : Nat) : Prop :=
  addr ≤ s.nextAddr ∧
    forall (peerId : UInt32) (peer : Peer), s.peers[peerId]? = some peer ->
      addr ≤ peer.addr

theorem Since.apply (h : s.Since addr) (command : Command) :
    (command.apply s).Since addr := by
  refine ⟨h.1.trans (command.apply_nextAddr s), ?_⟩
  intro peerId peer hpeer
  rcases Command.peer_cases hpeer with hsame | ⟨change, before, _, hbefore, rfl⟩ |
    ⟨_, _, _, _, _, _, _, rfl⟩
  · exact h.2 peerId peer hsame
  · rw [PeerCommand.apply_addr]
    exact h.2 peerId before hbefore
  · exact h.1

theorem Since.mono {earlier : Nat} (h : s.Since addr) (hearlier : earlier ≤ addr) :
    s.Since earlier :=
  ⟨hearlier.trans h.1, fun peerId peer hpeer => hearlier.trans (h.2 peerId peer hpeer)⟩

theorem Leaving.gone (h : s.Leaving peerId playerId) : s.Gone peerId := by
  rcases h.closing with ⟨found, hfound, hclosing, _⟩
  intro peer hpeer
  cases hfound.symm.trans hpeer
  exact hclosing

theorem Alike.gone (h : Alike s s') (hgone : s.Gone peerId) : s'.Gone peerId := by
  intro peer hpeer
  rcases h.before hpeer with ⟨before, hbefore, _, hsame, _⟩
  exact hsame.symm.trans (hgone before hbefore)

end DirectPlay8Peer

inductive Proc.Expects : Proc -> (DirectPlay8Peer -> Prop) -> Prop where
  | counted (p : Proc) (addr : Nat) : p.Expects fun s => addr ≤ s.nextAddr
  | since (p : Proc) (addr : Nat) : p.Expects fun s => s.Since addr
  | gone {p : Proc} {peerId : UInt32} (h : p.holds peerId = true) :
      p.Expects fun s => s.Gone peerId
  | left {p : Proc} {peerId : UInt32} (h : p.destroys peerId = true) :
      p.Expects fun s => s.Left peerId
  | leaving {p : Proc} {peerId : UInt32} (h : p.destroys peerId = true)
      (playerId : DPNID) : p.Expects fun s => s.Leaving peerId playerId
  | heldAt {p : Proc} {peerId : UInt32} (h : p.holds peerId = true)
      (addr : Nat) : p.Expects fun s => s.HeldAt peerId addr
  | waiting {p : Proc} {peerId : UInt32} (h : p.requests peerId = true) :
      p.Expects fun s => s.Waiting peerId

namespace Proc.Expects

variable {r : Proc} {J : DirectPlay8Peer -> Prop} {s : DirectPlay8Peer}
  {peerId : UInt32} {playerId : DPNID} {peer : Peer} {change : PeerCommand}

theorem alike {command : Command} (h : r.Expects J)
    (halike : s.Alike (command.apply s)) (hJ : J s) : J (command.apply s) := by
  cases h with
  | counted addr => exact Nat.le_trans hJ (command.apply_nextAddr s)
  | since addr => exact hJ.apply command
  | gone hholds => exact halike.gone hJ
  | left hdestroys => exact ⟨halike.gone hJ.1, fun hnamed => hJ.2 (halike.isNamed.mp hnamed)⟩
  | leaving hdestroys playerId =>
      rcases hJ.closing with ⟨peer, hpeer, hclosing, hplayer⟩
      rcases halike.after hpeer with ⟨later, hlater, _, hsame, hsame'⟩
      exact ⟨⟨later, hlater, hsame.trans hclosing, hsame'.trans hplayer⟩,
        halike.playerToPeerId ▸ hJ.entry⟩
  | heldAt hholds addr =>
      intro peer hpeer
      rcases halike.before hpeer with ⟨before, hbefore, hsame, _⟩
      exact hsame.symm.trans (hJ before hbefore)
  | waiting hrequests =>
      intro peer hpeer
      rcases halike.before hpeer with ⟨before, hbefore, _, hsame, _⟩
      exact hsame.symm.trans (hJ before hbefore)

theorem ofPeer (h : r.Expects J) (hpeer : s.peers[peerId]? = some peer)
    (hclosing : peer.state = .closing -> change = .setState .closing)
    (hwaiting : peer.state = .indicating -> r.requests peerId = false)
    (hJ : J s) : J ((Command.peer peerId change).apply s) := by
  have hchanged := DirectPlay8Peer.peer_changed change hpeer
  have hgone : forall other, s.Gone other ->
      ((Command.peer peerId change).apply s).Gone other := by
    intro other hgone found hfound
    by_cases hother : other = peerId
    · subst hother
      cases hchanged.symm.trans hfound
      rw [hclosing (hgone peer hpeer)]
      rfl
    · rw [DirectPlay8Peer.peer_unchanged hother] at hfound
      exact hgone found hfound
  cases h with
  | counted addr => exact Nat.le_trans hJ (Command.apply_nextAddr _ s)
  | since addr => exact hJ.apply _
  | gone hholds => exact hgone _ hJ
  | left hdestroys =>
      exact ⟨hgone _ hJ.1, fun hnamed => hJ.2 (DirectPlay8Peer.isNamed_unchanged.mp hnamed)⟩
  | @leaving other hdestroys playerId =>
      refine ⟨?_, DirectPlay8Peer.players_unchanged.symm ▸ hJ.entry⟩
      rcases hJ.closing with ⟨found, hfound, hstate, hplayer⟩
      by_cases hother : other = peerId
      · subst hother
        cases hpeer.symm.trans hfound
        refine ⟨_, hchanged, ?_⟩
        rw [hclosing hstate]
        exact ⟨rfl, hplayer⟩
      · exact ⟨found, (DirectPlay8Peer.peer_unchanged hother).trans hfound, hstate, hplayer⟩
  | @heldAt other hholds addr =>
      intro found hfound
      by_cases hother : other = peerId
      · subst hother
        cases hchanged.symm.trans hfound
        exact PeerCommand.apply_addr.trans (hJ peer hpeer)
      · rw [DirectPlay8Peer.peer_unchanged hother] at hfound
        exact hJ found hfound
  | @waiting other hrequests =>
      intro found hfound
      by_cases hother : other = peerId
      · subst hother
        cases (hwaiting (hJ peer hpeer)).symm.trans hrequests
      · rw [DirectPlay8Peer.peer_unchanged hother] at hfound
        exact hJ found hfound

theorem insertPeer (h : r.Expects J) (hholds : r.holds peerId = false)
    {state : PeerState} {sock : Int} {ip : UInt32} {port : UInt16} (hJ : J s) :
    J ((Command.insertPeer peerId state sock ip port playerId).apply s) := by
  have hothers : forall {other : UInt32}, r.holds other = true ->
      ((Command.insertPeer peerId state sock ip port playerId).apply s).peers[other]? =
        s.peers[other]? := by
    intro other hother
    have hne : peerId ≠ other := by
      rintro rfl
      cases hholds.symm.trans hother
    simp only [Command.apply]
    rw [Std.ExtTreeMap.getElem?_insertIfNew, if_neg]
    rintro ⟨hsame, _⟩
    exact hne (by simpa using hsame)
  cases h with
  | counted addr => exact Nat.le_trans hJ (Command.apply_nextAddr _ s)
  | since addr => exact hJ.apply _
  | gone hother =>
      intro found hfound
      rw [hothers hother] at hfound
      exact hJ found hfound
  | left hother =>
      refine ⟨?_, hJ.2⟩
      intro found hfound
      rw [hothers (holds_of_destroys hother)] at hfound
      exact hJ.1 found hfound
  | leaving hother playerId =>
      refine ⟨?_, hJ.entry⟩
      rw [hothers (holds_of_destroys hother)]
      exact hJ.closing
  | heldAt hother addr =>
      intro found hfound
      rw [hothers hother] at hfound
      exact hJ found hfound
  | waiting hother =>
      intro found hfound
      rw [hothers (holds_of_requests hother)] at hfound
      exact hJ found hfound

theorem erasePeer (h : r.Expects J) (hunnamed : ¬ s.IsNamed peerId) (hJ : J s) :
    J ((Command.erasePeer peerId).apply s) := by
  have hbefore : forall {other : UInt32} {found : Peer},
      ((Command.erasePeer peerId).apply s).peers[other]? = some found ->
      s.peers[other]? = some found := by
    intro other found hfound
    simp only [Command.apply] at hfound
    rw [Std.ExtTreeMap.getElem?_erase] at hfound
    split at hfound
    · cases hfound
    · exact hfound
  cases h with
  | counted addr => exact Nat.le_trans hJ (Command.apply_nextAddr _ s)
  | since addr => exact hJ.apply _
  | gone hother => exact fun found hfound => hJ found (hbefore hfound)
  | left hother => exact ⟨fun found hfound => hJ.1 found (hbefore hfound), hJ.2⟩
  | @leaving other hother playerId =>
      have hne : peerId ≠ other := by
        rintro rfl
        exact hunnamed (DirectPlay8Peer.isNamed_iff.mpr ⟨playerId, hJ.entry⟩)
      refine ⟨?_, hJ.entry⟩
      simp only [Command.apply]
      rw [Std.ExtTreeMap.getElem?_erase, if_neg (by simpa using hne)]
      exact hJ.closing
  | heldAt hother addr => exact fun found hfound => hJ found (hbefore hfound)
  | waiting hother => exact fun found hfound => hJ found (hbefore hfound)

theorem unmapPlayer (h : r.Expects J)
    (hdestroys : forall other : UInt32, s.playerToPeerId[playerId]? = some other ->
      r.destroys other = false) (hJ : J s) :
    J ((Command.unmapPlayer playerId).apply s) := by
  cases h with
  | counted addr => exact Nat.le_trans hJ (Command.apply_nextAddr _ s)
  | since addr => exact hJ.apply _
  | gone hother => exact hJ
  | left hother =>
      refine ⟨hJ.1, fun hnamed => hJ.2 ?_⟩
      rcases DirectPlay8Peer.isNamed_iff.mp hnamed with ⟨other, hentry⟩
      simp only [Command.apply] at hentry
      rw [Std.ExtTreeMap.getElem?_erase] at hentry
      split at hentry
      · cases hentry
      · exact DirectPlay8Peer.isNamed_iff.mpr ⟨other, hentry⟩
  | leaving hother player =>
      refine ⟨hJ.closing, ?_⟩
      simp only [Command.apply]
      rw [Std.ExtTreeMap.getElem?_erase, if_neg]
      · exact hJ.entry
      · intro hsame
        have hsame : playerId = player := by simpa using hsame
        subst hsame
        cases (hdestroys _ hJ.entry).symm.trans hother
  | heldAt hother addr => exact hJ
  | waiting hother => exact hJ

theorem mapPlayer (h : r.Expects J) (hfree : s.playerToPeerId[playerId]? = none)
    (hpeer : s.peers[peerId]? = some peer) (hclosing : peer.state ≠ .closing)
    (hJ : J s) : J ((Command.mapPlayer playerId peerId).apply s) := by
  cases h with
  | counted addr => exact Nat.le_trans hJ (Command.apply_nextAddr _ s)
  | since addr => exact hJ.apply _
  | gone hother => exact hJ
  | left hother =>
      refine ⟨hJ.1, fun hnamed => hJ.2 ?_⟩
      rcases DirectPlay8Peer.isNamed_iff.mp hnamed with ⟨other, hentry⟩
      simp only [Command.apply] at hentry
      rw [Std.ExtTreeMap.getElem?_insert] at hentry
      split at hentry
      · cases hentry
        exact absurd (hJ.1 peer hpeer) hclosing
      · exact DirectPlay8Peer.isNamed_iff.mpr ⟨other, hentry⟩
  | leaving hother player =>
      refine ⟨hJ.closing, ?_⟩
      simp only [Command.apply]
      rw [Std.ExtTreeMap.getElem?_insert, if_neg]
      · exact hJ.entry
      · intro hsame
        have hsame : playerId = player := by simpa using hsame
        subst hsame
        cases hfree.symm.trans hJ.entry
  | heldAt hother addr => exact hJ
  | waiting hother => exact hJ

end Proc.Expects

/-!
## The invariant
-/

/--
How many may be about to let a peer in and to delete it, by its state and whether an
entry names it.
-/
def Phased (named : Prop) (requests destroys : Nat) : PeerState -> Prop
  | .accepted => requests = 0 ∧ destroys = 0
  | .indicating => requests ≤ 1 ∧ destroys = 0
  | .connected => destroys = 0
  | .closing => named -> destroys ≤ 1
  | .connectingHost | .requestingHost | .connectingPeer | .requestingPeer => True

theorem Phased.mono {named named' : Prop} {requests requests' destroys destroys' : Nat}
    {state : PeerState} (h : Phased named requests destroys state)
    (hnamed : named' -> named) (hrequests : requests' ≤ requests)
    (hdestroys : destroys' ≤ destroys) : Phased named' requests' destroys' state := by
  cases state with
  | accepted =>
      exact ⟨Nat.le_zero.mp (h.1 ▸ hrequests), Nat.le_zero.mp (h.2 ▸ hdestroys)⟩
  | indicating => exact ⟨hrequests.trans h.1, Nat.le_zero.mp (h.2 ▸ hdestroys)⟩
  | connected =>
      have hnone : destroys = 0 := h
      exact Nat.le_zero.mp (hnone ▸ hdestroys)
  | closing => exact fun hn => hdestroys.trans (h (hnamed hn))
  | _ => trivial

structure TableInv (s : DirectPlay8Peer) (M : Multiset Proc) : Prop where
  players : s.PlayersDescribed
  numbered : s.Numbered
  placed : forall (peerId : UInt32) (peer : Peer), s.peers[peerId]? = some peer ->
    peer.addr < s.nextAddr
  phased : forall (peerId : UInt32) (peer : Peer), s.peers[peerId]? = some peer ->
    Phased (s.IsNamed peerId) (tokens (Proc.requests peerId) M)
      (tokens (Proc.destroys peerId) M) peer.state

namespace DirectPlay8Peer

variable {s : DirectPlay8Peer} {peerId : UInt32} {playerId : DPNID} {peer : Peer}
  {change : PeerCommand}

theorem PlayersDescribed.not_isNamed (h : s.PlayersDescribed)
    (hpeer : s.peers[peerId]? = some peer) (hconnected : peer.state ≠ .connected)
    (hclosing : peer.state ≠ .closing) : ¬ s.IsNamed peerId := by
  rw [isNamed_iff]
  rintro ⟨playerId, hentry⟩
  rcases h.named playerId peerId hentry with ⟨found, hfound, _, hstate⟩
  cases hpeer.symm.trans hfound
  simp_all

theorem PlayersDescribed.unnamed (h : s.PlayersDescribed) (change : PeerCommand)
    (hunnamed : ¬ s.IsNamed peerId)
    (hafter : forall peer, s.peers[peerId]? = some peer ->
      (change.apply s.nextAddr peer).state ≠ .connected) :
    ((Command.peer peerId change).apply s).PlayersDescribed where
  named := by
    intro playerId other hentry
    rw [players_unchanged] at hentry
    have hother : other ≠ peerId := by
      rintro rfl
      exact hunnamed (isNamed_iff.mpr ⟨playerId, hentry⟩)
    rw [peer_unchanged hother]
    exact h.named playerId other hentry
  mapped := by
    intro other found hfound hconnected
    rw [players_unchanged]
    by_cases hother : other = peerId
    · subst hother
      cases hpeer : s.peers[other]? with
      | none => simp [Command.apply, Command.applyPeer, hpeer] at hfound
      | some peer =>
          cases hfound.symm.trans (peer_changed _ hpeer)
          exact absurd hconnected (hafter peer hpeer)
    · rw [peer_unchanged hother] at hfound
      exact h.mapped other found hfound hconnected
  unmapped := by
    rw [players_unchanged, local_unchanged]
    exact h.unmapped

theorem PlayersDescribed.close (h : s.PlayersDescribed) (peerId : UInt32) :
    ((Command.peer peerId (.setState .closing)).apply s).PlayersDescribed where
  named := by
    intro playerId other hentry
    rw [players_unchanged] at hentry
    rcases h.named playerId other hentry with ⟨peer, hpeer, hplayer, hstate⟩
    by_cases hother : other = peerId
    · subst hother
      exact ⟨_, peer_changed _ hpeer, hplayer, Or.inr rfl⟩
    · exact ⟨peer, (peer_unchanged hother).trans hpeer, hplayer, hstate⟩
  mapped := by
    intro other found hfound hconnected
    rw [players_unchanged]
    by_cases hother : other = peerId
    · subst hother
      cases hpeer : s.peers[other]? with
      | none => simp [Command.apply, Command.applyPeer, hpeer] at hfound
      | some peer =>
          cases hfound.symm.trans (peer_changed _ hpeer)
          cases hconnected
    · rw [peer_unchanged hother] at hfound
      exact h.mapped other found hfound hconnected
  unmapped := by
    rw [players_unchanged, local_unchanged]
    exact h.unmapped

end DirectPlay8Peer

namespace TableInv

variable {s s' : DirectPlay8Peer} {M N : Multiset Proc} {peerId : UInt32}
  {playerId : DPNID} {peer : Peer} {change : PeerCommand} {p : Proc}

theorem anti (h : TableInv s M) (hle : N ≤ M) : TableInv s N where
  players := h.players
  numbered := h.numbered
  placed := h.placed
  phased := fun peerId peer hpeer =>
    (h.phased peerId peer hpeer).mono id (tokens_le hle) (tokens_le hle)

theorem add (h : TableInv s (M.erase p))
    (hheld : forall peerId peer, s.peers[peerId]? = some peer ->
      p.requests peerId = true ∨ p.destroys peerId = true ->
      Phased (s.IsNamed peerId) (tokens (Proc.requests peerId) M)
        (tokens (Proc.destroys peerId) M) peer.state) : TableInv s M where
  players := h.players
  numbered := h.numbered
  placed := h.placed
  phased := by
    intro peerId peer hpeer
    cases hrequests : p.requests peerId with
    | true => exact hheld peerId peer hpeer (Or.inl hrequests)
    | false =>
        cases hdestroys : p.destroys peerId with
        | true => exact hheld peerId peer hpeer (Or.inr hdestroys)
        | false =>
            have hphased := h.phased peerId peer hpeer
            rwa [tokens_erase_of_false hrequests, tokens_erase_of_false hdestroys]
              at hphased

theorem aside (h : TableInv s M) (haside : s.Aside s') : TableInv s' M where
  players := haside.described h.players
  numbered := haside.numbered h.numbered
  placed := by
    intro peerId peer hpeer
    rcases haside.before hpeer with ⟨before, hbefore, haddr, _⟩
    rw [← haddr]
    exact (h.placed peerId before hbefore).trans_le haside.nextAddr
  phased := by
    intro peerId peer hpeer
    rcases haside.before hpeer with ⟨before, hbefore, _, hstate, _⟩
    rw [← hstate]
    exact (h.phased peerId before hbefore).mono haside.isNamed.mp le_rfl le_rfl

theorem role (h : TableInv s M) (peerId : UInt32) (change : PeerCommand)
    (hrole : change.affectsRole = false) :
    TableInv ((Command.peer peerId change).apply s) M :=
  h.aside (Command.peer_aside fun _ _ => PeerCommand.apply_role hrole)

theorem ofPeer (h : TableInv s M)
    (hplayers : ((Command.peer peerId change).apply s).PlayersDescribed)
    (hphased : forall peer, s.peers[peerId]? = some peer ->
      Phased (s.IsNamed peerId) (tokens (Proc.requests peerId) M)
        (tokens (Proc.destroys peerId) M) (change.apply s.nextAddr peer).state) :
    TableInv ((Command.peer peerId change).apply s) M where
  players := hplayers
  numbered := by
    intro hhosting playerId hknown
    rw [Command.apply_state (by cases change <;> simp)] at hhosting
    rw [DirectPlay8Peer.numbering_unchanged]
    exact h.numbered hhosting playerId (DirectPlay8Peer.known_unchanged.mp hknown)
  placed := by
    intro other found hfound
    refine lt_of_lt_of_le ?_ (Command.apply_nextAddr (.peer peerId change) s)
    by_cases hother : other = peerId
    · subst hother
      cases hpeer : s.peers[other]? with
      | none => simp [Command.apply, Command.applyPeer, hpeer] at hfound
      | some peer =>
          cases hfound.symm.trans (DirectPlay8Peer.peer_changed _ hpeer)
          rw [PeerCommand.apply_addr]
          exact h.placed other peer hpeer
    · rw [DirectPlay8Peer.peer_unchanged hother] at hfound
      exact h.placed other found hfound
  phased := by
    intro other found hfound
    by_cases hother : other = peerId
    · subst hother
      cases hpeer : s.peers[other]? with
      | none => simp [Command.apply, Command.applyPeer, hpeer] at hfound
      | some peer =>
          cases hfound.symm.trans (DirectPlay8Peer.peer_changed _ hpeer)
          exact (hphased peer hpeer).mono DirectPlay8Peer.isNamed_unchanged.mp le_rfl le_rfl
    · rw [DirectPlay8Peer.peer_unchanged hother] at hfound
      exact (h.phased other found hfound).mono DirectPlay8Peer.isNamed_unchanged.mp
        le_rfl le_rfl

theorem close (h : TableInv s M) (peerId : UInt32) :
    TableInv ((Command.peer peerId (.setState .closing)).apply s) M := by
  apply h.ofPeer (h.players.close peerId)
  intro peer hpeer hnamed
  have hphased := h.phased peerId peer hpeer
  rcases DirectPlay8Peer.isNamed_iff.mp hnamed with ⟨playerId, hentry⟩
  rcases h.players.named playerId peerId hentry with ⟨found, hfound, _, hstate⟩
  cases hpeer.symm.trans hfound
  rcases hstate with hconnected | hclosing
  · rw [hconnected] at hphased
    have hnone : tokens (Proc.destroys peerId) M = 0 := hphased
    omega
  · rw [hclosing] at hphased
    exact hphased hnamed

theorem unnamed (h : TableInv s M) (hunnamed : ¬ s.IsNamed peerId)
    (hafter : forall peer, s.peers[peerId]? = some peer ->
      (change.apply s.nextAddr peer).state ≠ .connected ∧
        Phased (s.IsNamed peerId) (tokens (Proc.requests peerId) M)
          (tokens (Proc.destroys peerId) M) (change.apply s.nextAddr peer).state) :
    TableInv ((Command.peer peerId change).apply s) M :=
  h.ofPeer (h.players.unnamed change hunnamed fun peer hpeer => (hafter peer hpeer).1)
    fun peer hpeer => (hafter peer hpeer).2

theorem setPlayerId {peer : Peer} (h : TableInv s M)
    (hpeer : s.peers[peerId]? = some peer) (hconnected : peer.state ≠ .connected)
    (hclosing : peer.state ≠ .closing) :
    TableInv ((Command.peer peerId (.setPlayerId playerId)).apply s) M := by
  apply h.unnamed (h.players.not_isNamed hpeer hconnected hclosing)
  intro found hfound
  cases hpeer.symm.trans hfound
  exact ⟨hconnected, h.phased peerId peer hpeer⟩

theorem insertPeer (h : TableInv s M) (hholds : tokens (Proc.holds peerId) M = 0)
    {state : PeerState} (hconnected : state ≠ .connected) {sock : Int} {ip : UInt32}
    {port : UInt16} :
    TableInv ((Command.insertPeer peerId state sock ip port playerId).apply s) M := by
  have hnone := tokens_eq_zero.mp hholds
  have hrequests : tokens (Proc.requests peerId) M = 0 :=
    tokens_eq_zero.mpr fun r hr => by
      cases hcase : r.requests peerId with
      | true => exact ((hnone r hr).symm.trans (Proc.holds_of_requests hcase)).symm
      | false => rfl
  have hdestroys : tokens (Proc.destroys peerId) M = 0 :=
    tokens_eq_zero.mpr fun r hr => by
      cases hcase : r.destroys peerId with
      | true => exact ((hnone r hr).symm.trans (Proc.holds_of_destroys hcase)).symm
      | false => rfl
  refine ⟨⟨?_, ?_, h.players.unmapped⟩, h.numbered, ?_, ?_⟩
  · intro player other hentry
    rcases h.players.named player other hentry with ⟨found, hfound, hplayer, hstate⟩
    rcases Command.peer_after (.insertPeer peerId state sock ip port playerId) hfound with
      hsame | ⟨_, himpossible, _⟩ | himpossible
    · exact ⟨found, hsame, hplayer, hstate⟩
    · cases himpossible
    · cases himpossible
  all_goals
    intro other found hfound
    rcases Command.peer_cases hfound with hsame | ⟨_, _, himpossible, _, _⟩ |
      ⟨_, _, _, _, _, hinserted, _, rfl⟩
  · exact h.players.mapped other found hsame
  · cases himpossible
  · cases hinserted
    exact fun hstate => absurd hstate hconnected
  · exact (h.placed other found hsame).trans (Nat.lt_succ_self _)
  · cases himpossible
  · exact Nat.lt_succ_self _
  · exact h.phased other found hsame
  · cases himpossible
  · cases hinserted
    rw [hrequests, hdestroys]
    show Phased _ 0 0 state
    cases state <;> simp [Phased]

theorem erasePeer (h : TableInv s M) (hunnamed : ¬ s.IsNamed peerId) :
    TableInv ((Command.erasePeer peerId).apply s) M := by
  have hbefore : forall {other : UInt32} {found : Peer},
      ((Command.erasePeer peerId).apply s).peers[other]? = some found ->
      s.peers[other]? = some found := by
    intro other found hfound
    simp only [Command.apply] at hfound
    rw [Std.ExtTreeMap.getElem?_erase] at hfound
    split at hfound
    · cases hfound
    · exact hfound
  refine ⟨⟨?_, fun other found hfound => h.players.mapped other found (hbefore hfound),
      h.players.unmapped⟩, h.numbered,
    fun other found hfound => h.placed other found (hbefore hfound),
    fun other found hfound => h.phased other found (hbefore hfound)⟩
  intro player other hentry
  rcases h.players.named player other hentry with ⟨found, hfound, hplayer, hstate⟩
  refine ⟨found, ?_, hplayer, hstate⟩
  simp only [Command.apply]
  rw [Std.ExtTreeMap.getElem?_erase, if_neg]
  · exact hfound
  · intro hsame
    have hsame : peerId = other := by simpa using hsame
    subst hsame
    exact hunnamed (DirectPlay8Peer.isNamed_iff.mpr ⟨player, hentry⟩)

theorem unmapPlayer (h : TableInv s M)
    (hgone : forall other, s.playerToPeerId[playerId]? = some other -> s.Gone other) :
    TableInv ((Command.unmapPlayer playerId).apply s) M := by
  have hbefore : forall {player : DPNID} {other : UInt32},
      ((Command.unmapPlayer playerId).apply s).playerToPeerId[player]? = some other ->
      s.playerToPeerId[player]? = some other := by
    intro player other hentry
    simp only [Command.apply] at hentry
    rw [Std.ExtTreeMap.getElem?_erase] at hentry
    split at hentry
    · cases hentry
    · exact hentry
  refine ⟨⟨fun player other hentry => h.players.named player other (hbefore hentry),
    ?_, ?_⟩, ?_, h.placed, ?_⟩
  · intro other found hfound hconnected
    have hentry := h.players.mapped other found hfound hconnected
    simp only [Command.apply]
    rw [Std.ExtTreeMap.getElem?_erase, if_neg]
    · exact hentry
    · intro hsame
      have hsame : playerId = found.playerId := by simpa using hsame
      subst hsame
      cases hconnected.symm.trans (hgone other hentry found hfound)
  · cases hentry : ((Command.unmapPlayer playerId).apply s).playerToPeerId[
        ((Command.unmapPlayer playerId).apply s).localPlayerId]? with
    | none => rfl
    | some other => cases h.players.unmapped.symm.trans (hbefore hentry)
  · intro hhosting player hknown
    refine h.numbered hhosting player (hknown.imp id fun hmem => ?_)
    exact Std.ExtTreeMap.mem_of_mem_erase hmem
  · intro other found hfound
    refine (h.phased other found hfound).mono ?_ le_rfl le_rfl
    intro hnamed
    rcases DirectPlay8Peer.isNamed_iff.mp hnamed with ⟨player, hentry⟩
    exact DirectPlay8Peer.isNamed_iff.mpr ⟨player, hbefore hentry⟩

end TableInv

/-!
## Players that are let in
-/

namespace DirectPlay8Peer

variable {s s' s'' : DirectPlay8Peer} {M : Multiset Proc} {peerId : UInt32}
  {playerId : DPNID} {state : PeerState}

structure Entered (peerId : UInt32) (playerId : DPNID) (state : PeerState)
    (s s' : DirectPlay8Peer) : Prop where
  peer : exists peer, s'.peers[peerId]? = some peer ∧ peer.state = state ∧
    peer.playerId = playerId ∧ peer.addr < s'.nextAddr
  others : forall other : UInt32, other ≠ peerId ->
    (s'.peers[other]?).map Peer.role = (s.peers[other]?).map Peer.role
  playerToPeerId : s'.playerToPeerId = s.playerToPeerId.insert playerId peerId
  nextAddr : s.nextAddr ≤ s'.nextAddr

theorem Entered.alike (h : Entered peerId playerId state s s') (h' : Alike s' s'') :
    Entered peerId playerId state s s'' where
  peer := by
    rcases h.peer with ⟨peer, hpeer, hstate, hplayer, haddr⟩
    rcases h'.after hpeer with ⟨later, hlater, haddr', hstate', hplayer'⟩
    exact ⟨later, hlater, hstate'.trans hstate, hplayer'.trans hplayer,
      haddr' ▸ haddr.trans_le h'.nextAddr⟩
  others := fun other hother => (h'.peers other).trans (h.others other hother)
  playerToPeerId := h'.playerToPeerId.trans h.playerToPeerId
  nextAddr := h.nextAddr.trans h'.nextAddr

theorem Entered.setState (h : Entered peerId playerId state s s') (state' : PeerState) :
    Entered peerId playerId state' s
      ((Command.peer peerId (.setState state')).apply s') where
  peer := by
    rcases h.peer with ⟨peer, hpeer, _, hplayer, haddr⟩
    refine ⟨_, peer_changed _ hpeer, rfl, hplayer, ?_⟩
    exact haddr.trans_le (Command.apply_nextAddr _ s')
  others := by
    intro other hother
    rw [peer_unchanged hother]
    exact h.others other hother
  playerToPeerId := players_unchanged.trans h.playerToPeerId
  nextAddr := h.nextAddr.trans (Command.apply_nextAddr _ s')

theorem Entered.setLocal (h : Entered peerId playerId state s s') (localId : DPNID) :
    Entered peerId playerId state s
      ((Command.local (.setPlayerId localId)).apply s') :=
  h.alike ⟨fun _ => rfl, rfl, le_rfl⟩

theorem Entered.map {peer : Peer} (hpeer : s.peers[peerId]? = some peer)
    (hplaced : peer.addr < s.nextAddr) :
    Entered peerId peer.playerId peer.state s
      ((Command.mapPlayer peer.playerId peerId).apply s) where
  peer := ⟨peer, hpeer, rfl, rfl, hplaced⟩
  others := fun _ _ => rfl
  playerToPeerId := rfl
  nextAddr := le_rfl

theorem Entered.of_peer {change : PeerCommand}
    (h : Entered peerId playerId state ((Command.peer peerId change).apply s) s') :
    Entered peerId playerId state s s' where
  peer := h.peer
  others := by
    intro other hother
    rw [h.others other hother, peer_unchanged hother]
  playerToPeerId := by
    rw [h.playerToPeerId, players_unchanged]
  nextAddr := (Command.apply_nextAddr _ s).trans h.nextAddr

theorem Entered.isNamed (h : Entered peerId playerId state s s') {other : UInt32}
    (hother : other ≠ peerId) (hnamed : s'.IsNamed other) : s.IsNamed other := by
  rcases isNamed_iff.mp hnamed with ⟨player, hentry⟩
  rw [h.playerToPeerId, Std.ExtTreeMap.getElem?_insert] at hentry
  split at hentry
  · cases hentry
    exact absurd rfl hother
  · exact isNamed_iff.mpr ⟨player, hentry⟩

theorem Entered.before (h : Entered peerId playerId state s s') {other : UInt32}
    (hother : other ≠ peerId) {found : Peer} (hfound : s'.peers[other]? = some found) :
    exists before, s.peers[other]? = some before ∧ before.addr = found.addr ∧
      before.state = found.state ∧ before.playerId = found.playerId := by
  have hrole := h.others other hother
  rw [hfound] at hrole
  rcases Option.map_eq_some_iff.mp hrole.symm with ⟨before, hbefore, hsame⟩
  simp only [Peer.role, Prod.mk.injEq] at hsame
  exact ⟨before, hbefore, hsame.1, hsame.2.1, hsame.2.2⟩

theorem Entered.tableInv (h : Entered peerId playerId .connected s s')
    (hinv : TableInv s M) (hunnamed : ¬ s.IsNamed peerId)
    (hfree : s.playerToPeerId[playerId]? = none)
    (hdestroys : tokens (Proc.destroys peerId) M = 0)
    (hlocal : s'.playerToPeerId[s'.localPlayerId]? = none) (hnumbered : s'.Numbered) :
    TableInv s' M where
  players :=
    { named := by
        intro player other hentry
        rw [h.playerToPeerId, Std.ExtTreeMap.getElem?_insert] at hentry
        split at hentry
        · rename_i hsame
          cases hentry
          have hsame : playerId = player := by simpa using hsame
          rcases h.peer with ⟨peer, hpeer, hstate, hplayer, _⟩
          exact ⟨peer, hpeer, hplayer.trans hsame, Or.inl hstate⟩
        · have hother : other ≠ peerId := by
            rintro rfl
            exact hunnamed (isNamed_iff.mpr ⟨player, hentry⟩)
          rcases hinv.players.named player other hentry with
            ⟨found, hfound, hplayer, hstate⟩
          have hrole := h.others other hother
          rw [hfound] at hrole
          rcases Option.map_eq_some_iff.mp hrole with ⟨later, hlater, hsame⟩
          simp only [Peer.role, Prod.mk.injEq] at hsame
          exact ⟨later, hlater, hsame.2.2.trans hplayer, by rwa [hsame.2.1]⟩
      mapped := by
        intro other found hfound hconnected
        rw [h.playerToPeerId, Std.ExtTreeMap.getElem?_insert]
        by_cases hother : other = peerId
        · subst hother
          rcases h.peer with ⟨peer, hpeer, _, hplayer, _⟩
          cases hpeer.symm.trans hfound
          rw [if_pos (by simp [hplayer])]
        · rcases h.before hother hfound with ⟨before, hbefore, _, hstate, hplayer⟩
          have hentry := hinv.players.mapped other before hbefore
            (hstate.trans hconnected)
          rw [hplayer] at hentry
          rw [if_neg]
          · exact hentry
          · intro hsame
            have hsame : playerId = found.playerId := by simpa using hsame
            rw [← hsame, hfree] at hentry
            cases hentry
      unmapped := hlocal }
  numbered := hnumbered
  placed := by
    intro other found hfound
    by_cases hother : other = peerId
    · subst hother
      rcases h.peer with ⟨peer, hpeer, _, _, haddr⟩
      cases hpeer.symm.trans hfound
      exact haddr
    · rcases h.before hother hfound with ⟨before, hbefore, haddr, _⟩
      rw [← haddr]
      exact (hinv.placed other before hbefore).trans_le h.nextAddr
  phased := by
    intro other found hfound
    by_cases hother : other = peerId
    · subst hother
      rcases h.peer with ⟨peer, hpeer, hstate, _⟩
      cases hpeer.symm.trans hfound
      rw [hstate]
      exact hdestroys
    · rcases h.before hother hfound with ⟨before, hbefore, _, hstate, _⟩
      rw [← hstate]
      exact (hinv.phased other before hbefore).mono (h.isNamed hother) le_rfl le_rfl

end DirectPlay8Peer

end DirectPlayLite
