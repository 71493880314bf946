import DirectPlayLite.Peer.Endings
import DirectPlayLite.Peer.Exceptions

/-!
# Packets that are dropped

The handlers that read their packet inside of a `try` block run all the getters
they call before they do anything else, also the one that is only called on a
branch.  A packet on which a getter throws changes nothing.
-/

namespace DirectPlayLite

open Monitor Program

/-!
## Getters
-/

inductive Getter where
  | dword (index : Nat)
  | wstring (index : Nat)
  | data (index : Nat)
deriving Repr, DecidableEq

/-- The field is missing, of another type, or of a wrong length. -/
def Getter.Throws (pd : PacketDeserialiser) : Getter -> Prop
  | dword index => ¬ Readable (pd.getDword index)
  | wstring index => ¬ Readable (pd.getWstring index)
  | data index => ¬ Readable (pd.getData index)

/-- The packet a handler reads inside of a `try` block. -/
def Proc.triedPacket : Proc -> Option PacketDeserialiser
  | .handleMessage pd | .handlePlayerinfo _ pd | .handleAck _ pd
  | .handleAppdesc _ pd | .handleDestroyPeer _ pd
  | .handleTerminateSession _ pd | .handleGroupAllocate _ pd
  | .handleGroupCreate _ pd | .handleGroupDestroy _ pd | .handleGroupJoin _ pd
  | .handleGroupJoined _ pd | .handleGroupLeave _ pd
  | .handleGroupLeft _ pd => some pd
  | _ => none

/-- The host, or the player itself, has the local player destroyed. -/
def DirectPlay8Peer.destroysUs (s : DirectPlay8Peer) (peerId : UInt32)
    (pd : PacketDeserialiser) : Bool :=
  match s.peers[peerId]?, pd.getDword 0 with
  | some peer, .ok player =>
      peer.state == .connected &&
        (peer.playerId == s.hostPlayerId || peer.playerId == player) &&
        player == s.localPlayerId
  | _, _ => false

/-- The getters such a handler calls in a state, as long as none of them throws. -/
def Proc.getters (s : DirectPlay8Peer) : Proc -> List Getter
  | .handleMessage _ => [.dword 0, .data 1, .dword 2]
  | .handlePlayerinfo .. => [.dword 0, .wstring 1, .data 2, .dword 3]
  | .handleAck .. => [.dword 0, .dword 1, .data 2]
  | .handleAppdesc .. => [.dword 0, .wstring 1, .wstring 2, .data 3]
  | .handleDestroyPeer peerId pd =>
      if s.destroysUs peerId pd then [.dword 0, .data 1] else [.dword 0]
  | .handleTerminateSession .. => [.data 0]
  | .handleGroupAllocate .. => [.dword 0]
  | .handleGroupCreate .. => [.dword 0, .wstring 1, .data 2]
  | .handleGroupDestroy .. => [.dword 0]
  | .handleGroupJoin .. => [.dword 0, .dword 1, .wstring 2, .data 3]
  | .handleGroupJoined .. => [.dword 0, .wstring 1, .data 2]
  | .handleGroupLeave .. => [.dword 0, .dword 1]
  | .handleGroupLeft .. => [.dword 0]
  | _ => []

/-!
## The peers of handlers
-/

/-- The peer a handler is called for and looks up. -/
def Proc.sender : Proc -> Option UInt32
  | .handleHostConnectRequest peerId _ | .handleHostConnectOk peerId _
  | .handleHostConnectFail peerId _ | .handleConnectPeer peerId _
  | .handleConnectPeerOk peerId _ | .handleConnectPeerFail peerId _
  | .handlePlayerinfo peerId _ | .handleAck peerId _ | .handleAppdesc peerId _
  | .handleDestroyPeer peerId _ | .handleTerminateSession peerId _
  | .handleGroupAllocate peerId _ | .handleGroupCreate peerId _
  | .handleGroupDestroy peerId _ | .handleGroupJoin peerId _
  | .handleGroupJoined peerId _ | .handleGroupLeave peerId _
  | .handleGroupLeft peerId _ => some peerId
  | _ => none

def Proc.FindsPeer (s : DirectPlay8Peer) (p : Proc) : Prop :=
  forall peerId, p.sender = some peerId ->
    exists peer, s.peers[peerId]? = some peer

theorem Proc.findsPeer_of_other {s : DirectPlay8Peer} {p : Proc}
    (h : p.isPacketHandler = false) : p.FindsPeer s := by
  intro peerId hsender
  have hhandler : p.isPacketHandler = true := by
    cases p <;> first | rfl | cases hsender
  rw [h] at hhandler
  cases hhandler

def senderContract : Contract machine where
  cond := Unrestricted
  inv := fun _ _ => True
  free := fun _ => True
  guar := fun _ _ _ => True
  rely := fun _ _ _ => True
  pre := fun p s _ => p.FindsPeer s
  post := fun _ _ _ _ => True
  faults := fun _ => True
  rely_refl := fun _ _ => trivial
  rely_trans := fun _ _ _ _ _ _ => trivial

section Senders

variable {p : Proc} {callers : List Proc} {s : DirectPlay8Peer} {M : Multiset Proc}
  {α : Type}

theorem senders_rest {prog : Action α} {fp : Footprint Command Proc Fault}
    (huses : prog.Uses fp)
    (hcalls : forall callee, fp.calls callee -> callee.isPacketHandler = false)
    (hspawns : forall child, fp.spawns child -> child.isDetached = true)
    (hown : (p :: callers : Multiset Proc) ≤ M) :
    senderContract.wp p callers prog (fun _ _ _ => True) s M := by
  refine Contract.wp_mono (Contract.wp_of_uses (I := fun _ _ => True) huses
    (fun _ _ _ _ => ⟨trivial, trivial⟩) (fun _ _ _ _ => trivial) ?_ ?_ ?_
    (fun _ _ => trivial) hown trivial) fun _ _ _ _ => trivial
  · intro command s M _ _ _ _
    exact ⟨⟨trivial, fun _ _ => trivial⟩, trivial⟩
  · intro callee s M hcall _ _
    exact ⟨Proc.findsPeer_of_other (hcalls callee hcall), fun _ _ _ _ => trivial⟩
  · intro child s M hspawn _ _
    refine ⟨fun _ _ _ _ _ _ _ => Proc.findsPeer_of_other ?_, trivial⟩
    cases child <;> first | rfl | cases hspawns _ hspawn

theorem packetHandler_sender {peerId : UInt32} {pd : PacketDeserialiser}
    {handler : Proc} (h : Action.packetHandler peerId pd = some handler)
    {other : UInt32} (hsender : handler.sender = some other) : other = peerId := by
  unfold Action.packetHandler at h
  split at h <;> cases h <;> cases hsender <;> rfl

theorem ioPeerRecvPackets_senders {peerId : UInt32}
    (hown : (.ioPeerRecvPackets peerId :: callers : Multiset Proc) ≤ M) :
    senderContract.wp (.ioPeerRecvPackets peerId) callers
      (Action.ioPeerRecvPackets peerId) (fun _ _ _ => True) s M := by
  have hother : forall callee : Proc, callee.isPacketHandler = false ->
      callee.FindsPeer s := fun _ => Proc.findsPeer_of_other
  apply wp_peerAt trivial
  intro peer hpeer
  dsimp only
  split
  · exact fun _ => ⟨hother _ rfl, fun _ _ _ _ _ _ => trivial⟩
  split
  · exact fun _ => ⟨hother _ rfl, fun _ _ _ _ _ _ => trivial⟩
  split
  · exact fun _ => ⟨hother _ rfl, fun _ _ _ _ _ _ => trivial⟩
  intro behind _ _
  dsimp only
  rw [ret_bind]
  split
  · exact fun _ => trivial
  · exact fun _ => ⟨hother _ rfl, fun _ _ _ _ _ _ => trivial⟩
  intro _
  refine ⟨⟨trivial, fun _ _ => trivial⟩, ?_⟩
  rw [bind_eq, Contract.wp_bind]
  have hrest : forall s' M', (.ioPeerRecvPackets peerId :: callers : Multiset Proc) ≤ M' ->
      senderContract.wp (.ioPeerRecvPackets peerId) callers
        (Action.renewPeer peerId fun renewed =>
          if renewed.recvBuf.length < Action.fullPacketSize peer.recvBuf then
            .abort .outOfBounds
          else do
            Action.ofPeer peerId (.shiftRecv (Action.fullPacketSize peer.recvBuf))
            Action.invoke (.ioPeerRecvPackets peerId))
        (fun _ _ _ => True) s' M' := by
    intro s' M' hown'
    apply wp_renewPeer
    · intro renewed _
      split
      · exact fun _ => trivial
      · intro _
        refine ⟨⟨trivial, fun _ _ => trivial⟩, ?_⟩
        intro _
        exact ⟨Proc.findsPeer_of_other rfl, fun _ _ _ _ _ _ => trivial⟩
    · intro _
      trivial
  split
  · rename_i handler hhandler
    intro _
    constructor
    · intro other hsender
      rw [packetHandler_sender hhandler hsender]
      exact ⟨peer, hpeer⟩
    · intro s' M' hown' _ _ _
      exact hrest s' M' hown'
  · exact hrest _ M hown

theorem senderContract_valid :
    senderContract.Valid DirectPlay8Peer.Constructed where
  initial := fun _ _ => ⟨trivial, trivial⟩
  start := by
    intro p s M hentry _ _ _
    apply Proc.findsPeer_of_other
    cases p <;> first | rfl | cases hentry
  body := by
    intro p callers s M hown _
    suffices senderContract.wp p callers p.body (fun _ _ _ => True) s M from
      Contract.wp_mono this fun _ _ _ _ => ⟨⟨trivial, trivial⟩, fun _ _ => trivial⟩
    by_cases hpackets : exists peerId, p = .ioPeerRecvPackets peerId
    · rcases hpackets with ⟨peerId, rfl⟩
      exact ioPeerRecvPackets_senders hown
    · apply senders_rest p.body_uses _ (fun _ hspawn => hspawn) hown
      intro callee hcall
      cases p with
      | ioPeerRecvPackets peerId => exact absurd ⟨peerId, rfl⟩ hpackets
      | _ => cases callee <;> first | rfl | cases hcall.1

end Senders

theorem handler_findsPeer {c c' : Run} {caller p : Proc}
    (hc : Reaches machine DirectPlay8Peer.Constructed Unrestricted c)
    (hcall : Step machine c (.call caller p) c') : p.FindsPeer c.state :=
  senderContract_valid.call hc hcall trivial

/-!
## Packets on which a getter throws
-/

section Fields

variable {α β : Type} {fields : Except PacketError α}
  {f : α -> Except PacketError β}

theorem not_readable_iff :
    ¬ Readable fields ↔ exists error, fields = .error error := by
  cases fields <;> simp [Readable, Except.toOption]

theorem readable_bind (h : Readable (fields >>= f)) :
    Readable fields ∧ exists value, Readable (f value) := by
  cases fields with
  | error error => cases h
  | ok value => exact ⟨rfl, value, h⟩

variable {γ δ ε : Type} {second : Except PacketError β} {third : Except PacketError γ}
  {fourth : Except PacketError δ}

theorem readable_two {g : α -> β -> ε}
    (h : Readable (do
      let a ← fields
      let b ← second
      return g a b)) : Readable fields ∧ Readable second := by
  rcases readable_bind h with ⟨hfirst, a, hrest⟩
  exact ⟨hfirst, (readable_bind hrest).1⟩

theorem readable_three {g : α -> β -> γ -> ε}
    (h : Readable (do
      let a ← fields
      let b ← second
      let c ← third
      return g a b c)) :
    Readable fields ∧ Readable second ∧ Readable third := by
  rcases readable_bind h with ⟨hfirst, a, hrest⟩
  exact ⟨hfirst, readable_two hrest⟩

theorem readable_four {g : α -> β -> γ -> δ -> ε}
    (h : Readable (do
      let a ← fields
      let b ← second
      let c ← third
      let d ← fourth
      return g a b c d)) :
    Readable fields ∧ Readable second ∧ Readable third ∧ Readable fourth := by
  rcases readable_bind h with ⟨hfirst, a, hrest⟩
  exact ⟨hfirst, readable_three hrest⟩

end Fields

section Dropped

variable {E : Around} {p : Proc} {s : DirectPlay8Peer} {α : Type}

def Drops (E : Around) (p : Proc) (s : DirectPlay8Peer) (prog : Action Unit) : Prop :=
  leads machine E p prog (fun _ s' past => s' = s ∧ past = []) s []

theorem drops_caught {fields : Except PacketError α} {next : α -> Action Unit}
    (h : ¬ Readable fields) : Drops E p s (Action.caught fields next) := by
  rcases not_readable_iff.mp h with ⟨error, rfl⟩
  exact ⟨rfl, rfl⟩

theorem drops_unread {pd : PacketDeserialiser} {getters : List Getter} {getter : Getter}
    {fields : Except PacketError α} {next : α -> Action Unit}
    (hgetter : getter ∈ getters) (hthrows : getter.Throws pd)
    (hall : Readable fields -> forall g, g ∈ getters -> ¬ g.Throws pd) :
    Drops E p s (Action.caught fields next) := by
  apply drops_caught
  intro hreadable
  exact hall hreadable getter hgetter hthrows

theorem drops_get {f : DirectPlay8Peer -> Action Unit} (h : Drops E p s (f s)) :
    Drops E p s (Action.get >>= f) := h

theorem drops_asserted {peerId : UInt32} {f : Peer -> Action Unit} {peer : Peer}
    (hpeer : s.peers[peerId]? = some peer) (h : Drops E p s (f peer)) :
    Drops E p s (Action.assertedPeer peerId >>= f) :=
  (leads_assertedPeer hpeer).mpr h

end Dropped

theorem handleDestroyPeer_drops {E : Around} {s : DirectPlay8Peer} {peerId : UInt32}
    {pd : PacketDeserialiser} {getter : Getter} {peer : Peer}
    (hpeer : s.peers[peerId]? = some peer)
    (hgetter : getter ∈ (Proc.handleDestroyPeer peerId pd).getters s)
    (hthrows : getter.Throws pd) :
    Drops E (.handleDestroyPeer peerId pd) s (Action.handleDestroyPeer peerId pd) := by
  apply drops_asserted hpeer
  apply drops_get
  by_cases hread : Readable (pd.getDword 0)
  · have hfirst : getter ≠ .dword 0 := by
      intro hsame
      subst hsame
      exact hthrows hread
    have hus : s.destroysUs peerId pd = true ∧ getter = .data 1 := by
      change getter ∈ (if s.destroysUs peerId pd = true then
        [Getter.dword 0, .data 1] else [.dword 0]) at hgetter
      split at hgetter
      · rename_i hbranch
        have hmem := (List.mem_cons.mp hgetter).resolve_left hfirst
        exact ⟨hbranch, List.mem_singleton.mp hmem⟩
      · exact absurd (List.mem_singleton.mp hgetter) hfirst
    rcases hus with ⟨hbranch, rfl⟩
    cases hplayer : pd.getDword 0 with
    | error error =>
        rw [hplayer] at hread
        cases hread
    | ok player =>
        unfold DirectPlay8Peer.destroysUs at hbranch
        rw [hpeer, hplayer] at hbranch
        simp only [Bool.and_eq_true, Bool.or_eq_true, beq_iff_eq] at hbranch
        rcases hbranch with ⟨⟨hconnected, hhost⟩, hlocal⟩
        unfold Action.caught
        dsimp only
        rw [if_neg (not_not.mpr hconnected), if_neg (by tauto), if_pos hlocal]
        exact drops_caught hthrows
  · exact drops_caught hread

/--
A packet on which a getter of its handler throws is dropped: the handler returns and
has done nothing, it has run no command and called nothing.  The handler finds its
peer wherever it is called.
-/
theorem malformed_dropped (E : Around) {s : DirectPlay8Peer} {p : Proc}
    {pd : PacketDeserialiser} {getter : Getter} (hfinds : p.FindsPeer s)
    (hpacket : p.triedPacket = some pd) (hgetter : getter ∈ p.getters s)
    (hthrows : getter.Throws pd) :
    p.EndsIn E s fun s' past => s' = s ∧ past = [] := by
  rw [Proc.endsIn_iff]
  show Drops E p s p.body
  cases p <;> cases hpacket
  case handleMessage =>
    exact drops_unread hgetter hthrows fun h => by
      simpa [Proc.getters, Getter.Throws] using readable_three h
  all_goals
    rcases hfinds _ rfl with ⟨peer, hpeer⟩
  case handleDestroyPeer => exact handleDestroyPeer_drops hpeer hgetter hthrows
  all_goals
    apply drops_asserted hpeer
  case handlePlayerinfo =>
    exact drops_unread hgetter hthrows fun h => by
      simpa [Proc.getters, Getter.Throws] using readable_four h
  case handleAck =>
    exact drops_unread hgetter hthrows fun h => by
      simpa [Proc.getters, Getter.Throws] using readable_three h
  all_goals
    apply drops_get
  case handleAppdesc | handleGroupJoin =>
    exact drops_unread hgetter hthrows fun h => by
      simpa [Proc.getters, Getter.Throws] using readable_four h
  case handleGroupCreate | handleGroupJoined =>
    exact drops_unread hgetter hthrows fun h => by
      simpa [Proc.getters, Getter.Throws] using readable_three h
  case handleGroupLeave =>
    exact drops_unread hgetter hthrows fun h => by
      simpa [Proc.getters, Getter.Throws] using readable_two h
  all_goals
    exact drops_unread hgetter hthrows fun h => by
      simpa [Proc.getters, Getter.Throws] using h

def PacketDeserialiser.bare : PacketDeserialiser where
  memory := fun _ => 0
  header := 0
  fields := []

/-- A client of a host says that it has joined a group, and does not say which. -/
theorem malformed_dropped_joined :
    exists c : Run, Reaches machine DirectPlay8Peer.Constructed Unrestricted c ∧
      c.state.PeerIn 0 .connected ∧
      (Proc.handleGroupJoined 0 .bare).EndsIn Around.still c.state
        fun s' past => s' = c.state ∧ past = [] := by
  have hrun : (replay Unrestricted choicesAdmit).any
      (fun c => decide (c.state.PeerIn 0 .connected)) = true := by
    decide +kernel
  rcases replay_reaches hrun with ⟨c, hc, htest⟩
  have hpeer : c.state.PeerIn 0 .connected := of_decide_eq_true htest
  refine ⟨c, hc, hpeer, ?_⟩
  have hfinds : (Proc.handleGroupJoined 0 .bare).FindsPeer c.state := by
    intro peerId hsender
    cases hsender
    rcases Option.any_eq_true _ _ |>.mp hpeer with ⟨peer, hthere, _⟩
    exact ⟨peer, hthere⟩
  have hthrows : (Getter.dword 0).Throws .bare := by
    intro hreadable
    cases hreadable
  exact malformed_dropped Around.still hfinds rfl List.mem_cons_self hthrows

end DirectPlayLite
