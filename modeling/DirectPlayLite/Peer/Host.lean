import DirectPlayLite.Peer.Players
import DirectPlayLite.Peer.Queueing

/-!
# The host of a session

A peer that has been let in looks the host up by its player ID.  The entry has to
outlive the session, and a request for a group ID that is still queued has to
name the peer it is queued for.
-/

namespace DirectPlayLite

open Monitor Program

/-!
## Callbacks in a queue
-/

namespace SendQueue

variable {Callback : Type} {test : Callback -> Bool} {sq : SendQueue Callback}

def holds (test : Callback -> Bool) (sq : SendQueue Callback) : Bool :=
  sq.ops.any fun op => test op.callback

theorem holds_iff :
    sq.holds test = true ↔ exists op, op ∈ sq.ops ∧ test op.callback = true :=
  List.any_eq_true

theorem holds_send {priority : SendPriority} {op : SendOp Callback}
    (h : (sq.send priority op).holds test = true) :
    test op.callback = true ∨ sq.holds test = true := by
  rcases holds_iff.mp h with ⟨found, hmem, htest⟩
  rcases List.mem_cons.mp ((send_ops priority op sq).mem_iff.mp hmem) with
    rfl | hbefore
  · exact Or.inl htest
  · exact Or.inr (holds_iff.mpr ⟨found, hbefore, htest⟩)

@[simp] theorem holds_getPending : sq.getPending.holds test = sq.holds test := by
  simp [holds]

theorem holds_popPending (h : sq.popPending.holds test = true) :
    sq.holds test = true := by
  rcases holds_iff.mp h with ⟨op, hmem, htest⟩
  refine holds_iff.mpr ⟨op, ?_, htest⟩
  exact List.mem_append_right _ (by simpa [ops, popPending] using hmem)

@[simp] theorem holds_incSentData {sent : Nat} :
    (sq.incSentData sent).holds test = sq.holds test := by
  unfold holds ops incSentData
  cases sq.current <;> rfl

theorem holds_remove (wanted : Wanted)
    (h : (((sq.remove wanted).map Prod.snd).getD sq).holds test = true) :
    sq.holds test = true := by
  rcases holds_iff.mp h with ⟨op, hmem, htest⟩
  exact holds_iff.mpr ⟨op, mem_of_remove wanted hmem, htest⟩

end SendQueue

/-- A request for a group ID from a player is queued for the peer. -/
def Peer.asks (peer : Peer) (hostId : DPNID) : Bool :=
  peer.sq.holds fun callback => callback.allocatesAt == some hostId

theorem PeerCommand.asks_cases {change : PeerCommand} {addr : Nat} {peer : Peer}
    {hostId : DPNID} (h : (change.apply addr peer).asks hostId = true) :
    peer.asks hostId = true ∨
      exists priority packet handle callback,
        change = .send priority packet handle callback ∧
          callback.allocatesAt = some hostId := by
  cases change with
  | send priority packet handle callback =>
      rcases SendQueue.holds_send h with hasks | hbefore
      · exact Or.inr ⟨priority, packet, handle, callback, rfl,
          by simpa using hasks⟩
      · exact Or.inl hbefore
  | getPending => exact Or.inl (by simpa [Peer.asks, apply] using h)
  | popPending => exact Or.inl (SendQueue.holds_popPending h)
  | incSentData sent => exact Or.inl (by simpa [Peer.asks, apply] using h)
  | removeQueued wanted => exact Or.inl (SendQueue.holds_remove wanted h)
  | _ => exact Or.inl h

/-!
## Conditions
-/

namespace DirectPlay8Peer

variable {s s' s'' : DirectPlay8Peer} {playerId : DPNID} {peerId : UInt32}

def Joined (s : DirectPlay8Peer) : Prop :=
  s.state = .connectingToPeers ∨ s.state = .connected

instance : Decidable s.Joined := inferInstanceAs (Decidable (_ ∨ _))

def Finds (s : DirectPlay8Peer) (playerId : DPNID) : Prop :=
  exists peerId, s.playerToPeerId[playerId]? = some peerId ∧
    s.peers[peerId]? ≠ none

theorem Finds.found (h : s.Finds playerId) :
    s.getPeerByPlayerId playerId ≠ none := by
  rcases h with ⟨peerId, hentry, hpeer⟩
  simpa [getPeerByPlayerId, findPlayer, hentry] using hpeer

/-- A request for a group ID from a player is queued for some other peer. -/
def AsksBut (s : DirectPlay8Peer) (except : Option UInt32)
    (hostId : DPNID) : Prop :=
  (s.peers.toList.any fun (peerId, peer) =>
    some peerId != except && peer.asks hostId) = true

instance {except : Option UInt32} : Decidable (s.AsksBut except playerId) :=
  inferInstanceAs (Decidable (_ = true))

theorem asksBut {except : Option UInt32} {peer : Peer}
    (hpeer : s.peers[peerId]? = some peer) (hasks : peer.asks playerId = true)
    (hother : some peerId ≠ except) : s.AsksBut except playerId := by
  rw [AsksBut, List.any_eq_true]
  refine ⟨(peerId, peer),
    Std.ExtTreeMap.mem_toList_iff_getElem?_eq_some.mpr hpeer, ?_⟩
  simp [hother, hasks]

end DirectPlay8Peer

/-- The end of a peer, which is the end of the session if it was the host. -/
def Proc.endsSession : Proc -> Bool
  | .peerDestroyDrained .. => true
  | _ => false

/--
While the object is in a session its host stays the same, and is neither deleted
nor out of the table until the session ends with it.  No entry is taken away or
over while a request for a group ID to the player is queued, and nobody is
connected who has not been let in before.
-/
def HostGuarded (s : DirectPlay8Peer) (_ : Multiset Proc) : StepLabel -> Prop
  | .exec _ (.erasePeer peerId) =>
      s.Joined -> s.playerToPeerId[s.hostPlayerId]? ≠ some peerId
  | .exec p (.unmapPlayer playerId) =>
      (s.Joined -> playerId = s.hostPlayerId ->
        s.state = .connected ∧ p.endsSession = true) ∧
        ¬ s.AsksBut none playerId
  | .exec _ (.mapPlayer playerId peerId) =>
      (s.Joined -> playerId ≠ s.hostPlayerId) ∧
        ¬ s.AsksBut (some peerId) playerId
  | .exec _ (.setHostPlayerId _) => ¬ s.Joined
  | .exec _ (.setState .connected) => s.state = .connectingToPeers
  | _ => True

structure HostOk (s : DirectPlay8Peer) : Prop where
  host : s.Joined -> s.Finds s.hostPlayerId
  asked : forall (peerId : UInt32) (peer : Peer) (hostId : DPNID),
    s.peers[peerId]? = some peer -> peer.asks hostId = true ->
    s.playerToPeerId[hostId]? = some peerId
  /-- Nothing hangs on a datagram. -/
  datagrams : forall op, op ∈ s.udpSq.ops -> op.callback = .nothing

def Proc.Reachable (s : DirectPlay8Peer) : Proc -> Prop
  | .invokeCallback callback result =>
      forall hostId, result = sOk -> callback.allocatesAt = some hostId ->
        s.Finds hostId
  | _ => True

def hostContract : Contract machine where
  cond := HostGuarded
  inv := fun s _ => HostOk s
  free := fun _ => True
  guar := fun _ _ _ => True
  rely := fun _ _ _ => True
  pre := fun p s _ => HostOk s ∧ p.CancelsWithError ∧ p.Reachable s
  post := fun _ _ _ _ => True
  faults := fun _ => True
  rely_refl := fun _ _ => trivial
  rely_trans := fun _ _ _ _ _ _ => trivial

/-!
## Commands
-/

def Command.isOrdinary : Command -> Bool
  | .setState state => state != .connectingToPeers
  | .unmapPlayer _ => false
  | .peer _ (.send _ _ _ callback) => callback.allocatesAt == none
  | _ => true

namespace Command

variable {command : Command} {s : DirectPlay8Peer}

theorem apply_hostPlayerId (command : Command) (s : DirectPlay8Peer) :
    (exists playerId, command = .setHostPlayerId playerId) ∨
    (command.apply s).hostPlayerId = s.hostPlayerId := by
  cases command with
  | setHostPlayerId playerId => exact Or.inl ⟨playerId, rfl⟩
  | peer peerId change =>
      refine Or.inr ?_
      simp only [apply, applyPeer]
      split <;> rfl
  | setSocket which sock => exact Or.inr (by cases which <;> rfl)
  | «local» change => exact Or.inr (by cases change <;> rfl)
  | session change => exact Or.inr (by cases change <;> rfl)
  | connect change => exact Or.inr (by cases change <;> rfl)
  | _ => exact Or.inr rfl

theorem datagram_cases {op : SendOp SendCallback}
    (h : op ∈ (command.apply s).udpSq.ops) :
    op ∈ s.udpSq.ops ∨ (op.callback = .nothing ∧ op.asyncHandle = 0) := by
  cases command with
  | udpSend packet dest =>
      rcases List.mem_cons.mp ((SendQueue.send_ops _ _ _).mem_iff.mp h) with
        rfl | hbefore
      · exact Or.inr ⟨rfl, rfl⟩
      · exact Or.inl hbefore
  | udpGetPending => exact Or.inl (by simpa [apply] using h)
  | udpPopPending =>
      exact Or.inl (List.mem_append_right _
        (by simpa [apply, SendQueue.ops, SendQueue.popPending] using h))
  | udpRemoveQueued handle =>
      exact Or.inl (SendQueue.mem_of_remove (.handle handle) h)
  | peer peerId change =>
      refine Or.inl ?_
      simp only [apply, applyPeer] at h
      split at h <;> exact h
  | setSocket which sock => exact Or.inl (by cases which <;> exact h)
  | «local» change => exact Or.inl (by cases change <;> exact h)
  | session change => exact Or.inl (by cases change <;> exact h)
  | connect change => exact Or.inl (by cases change <;> exact h)
  | _ => exact Or.inl h

theorem joined_before (hordinary : command.isOrdinary = true)
    {p : Proc} {M : Multiset Proc} (hcond : HostGuarded s M (.exec p command))
    (h : (command.apply s).Joined) : s.Joined := by
  have hsame (hstate : (command.apply s).state = s.state) : s.Joined := by
    rwa [DirectPlay8Peer.Joined, hstate] at h
  by_cases hkind : command.kind = .state
  · rcases kind_eq_state hkind with ⟨state, rfl | rfl⟩
    · rcases h with hjoining | rfl
      · have hother : state ≠ .connectingToPeers := by
          simpa [isOrdinary] using hordinary
        exact absurd hjoining hother
      · exact Or.inl hcond
    · exact hsame rfl
  · exact hsame (apply_state hkind)

theorem asks_before (hordinary : command.isOrdinary = true)
    {peerId : UInt32} {peer : Peer} {hostId : DPNID}
    (hpeer : (command.apply s).peers[peerId]? = some peer)
    (hasks : peer.asks hostId = true) :
    exists before, s.peers[peerId]? = some before ∧
      before.asks hostId = true := by
  rcases peer_cases hpeer with hsame | ⟨change, before, rfl, hwas, rfl⟩ |
    ⟨state, sock, ip, port, playerId, rfl, _, rfl⟩
  · exact ⟨peer, hsame, hasks⟩
  · rcases PeerCommand.asks_cases hasks with hbefore |
      ⟨priority, packet, handle, callback, rfl, hallocates⟩
    · exact ⟨before, hwas, hbefore⟩
    · have hnone : callback.allocatesAt = none := by
        simpa [isOrdinary] using hordinary
      cases hnone.symm.trans hallocates
  · cases hasks

end Command

theorem HostOk.apply {s : DirectPlay8Peer} {p : Proc} {M : Multiset Proc}
    (h : HostOk s) (command : Command) (hordinary : command.isOrdinary = true)
    (hcond : HostGuarded s M (.exec p command)) :
    HostOk (command.apply s) where
  host := by
    intro hjoined
    have hbefore := Command.joined_before hordinary hcond hjoined
    rcases h.host hbefore with ⟨peerId, hentry, hpeer⟩
    rcases command.apply_hostPlayerId s with ⟨_, rfl⟩ | hhost
    · exact absurd hbefore hcond
    refine ⟨peerId, ?_, ?_⟩
    · rw [hhost]
      rcases command.apply_players s with ⟨playerId, _, rfl⟩ | ⟨_, rfl⟩ | hsame
      · have hother := hcond.1 hbefore
        simp only [Command.apply]
        rw [Std.ExtTreeMap.getElem?_insert, if_neg (by simpa using hother)]
        exact hentry
      · cases hordinary
      · exact hsame ▸ hentry
    · rcases Option.ne_none_iff_exists'.mp hpeer with ⟨peer, hpeer⟩
      rcases command.peer_after hpeer with hsame | ⟨change, rfl, hafter⟩ | rfl
      · simp [hsame]
      · simp [hafter]
      · exact absurd hentry (hcond hbefore)
  asked := by
    intro peerId peer hostId hpeer hasks
    rcases Command.asks_before hordinary hpeer hasks with ⟨before, hwas, hasked⟩
    have hentry := h.asked peerId before hostId hwas hasked
    rcases command.apply_players s with ⟨playerId, mapped, rfl⟩ | ⟨_, rfl⟩ | hsame
    · simp only [Command.apply]
      rw [Std.ExtTreeMap.getElem?_insert]
      split
      · rename_i hplayer
        have hplayer : playerId = hostId := by simpa using hplayer
        subst hplayer
        by_cases hother : some peerId = some mapped
        · exact hother.symm
        · exact absurd (DirectPlay8Peer.asksBut hwas hasked hother) hcond.2
      · exact hentry
    · cases hordinary
    · exact hsame ▸ hentry
  datagrams := fun op hop =>
    (Command.datagram_cases hop).elim (h.datagrams op) And.left

theorem HostOk.unmapped {s : DirectPlay8Peer} {p : Proc} {M : Multiset Proc}
    {playerId hostId : DPNID} {peerId : UInt32} {peer : Peer} (h : HostOk s)
    (hcond : HostGuarded s M (.exec p (.unmapPlayer playerId)))
    (hpeer : s.peers[peerId]? = some peer) (hasks : peer.asks hostId = true) :
    (s.playerToPeerId.erase playerId)[hostId]? = some peerId := by
  rw [Std.ExtTreeMap.getElem?_erase, if_neg]
  · exact h.asked peerId peer hostId hpeer hasks
  · intro hplayer
    have hplayer : playerId = hostId := by simpa using hplayer
    subst hplayer
    exact hcond.2 (DirectPlay8Peer.asksBut hpeer hasks (by simp))

theorem HostOk.unmap {s : DirectPlay8Peer} {p : Proc} {M : Multiset Proc}
    {playerId : DPNID} (h : HostOk s)
    (hcond : HostGuarded s M (.exec p (.unmapPlayer playerId)))
    (hother : s.Joined -> playerId ≠ s.hostPlayerId) :
    HostOk ((Command.unmapPlayer playerId).apply s) where
  host := by
    intro hjoined
    rcases h.host hjoined with ⟨peerId, hentry, hpeer⟩
    refine ⟨peerId, ?_, hpeer⟩
    simp only [Command.apply]
    rw [Std.ExtTreeMap.getElem?_erase, if_neg (by simpa using hother hjoined)]
    exact hentry
  asked := fun _ _ _ => h.unmapped hcond
  datagrams := h.datagrams

theorem HostOk.lose {s : DirectPlay8Peer} {p : Proc} {M : Multiset Proc}
    {playerId : DPNID} (h : HostOk s)
    (hcond : HostGuarded s M (.exec p (.unmapPlayer playerId))) :
    HostOk ((Command.setState .terminated).apply
      ((Command.unmapPlayer playerId).apply s)) where
  host := by
    rintro (himpossible | himpossible) <;> cases himpossible
  asked := fun _ _ _ => h.unmapped hcond
  datagrams := h.datagrams

theorem HostOk.join {s : DirectPlay8Peer} (h : HostOk s)
    (hhost : s.Finds s.hostPlayerId) :
    HostOk ((Command.setState .connectingToPeers).apply s) where
  host := fun _ => hhost
  asked := h.asked
  datagrams := h.datagrams

theorem HostOk.ask {s : DirectPlay8Peer} (h : HostOk s) {peerId : UInt32}
    {hostId : DPNID} {priority : SendPriority} {packet : List UInt8}
    {handle : DPNHANDLE} {callback : SendCallback}
    (hentry : s.playerToPeerId[hostId]? = some peerId)
    (hallocates : callback.allocatesAt = some hostId) :
    HostOk ((Command.peer peerId
      (.send priority packet handle callback)).apply s) where
  host := by
    intro hjoined
    rw [DirectPlay8Peer.Joined] at hjoined
    rw [show ((Command.peer peerId
      (.send priority packet handle callback)).apply s).state = s.state from
        Command.applyPeer_state _ _] at hjoined
    rcases h.host hjoined with ⟨found, hfound, hpeer⟩
    rcases Option.ne_none_iff_exists'.mp hpeer with ⟨peer, hpeer⟩
    refine ⟨found, ?_, ?_⟩
    · rw [DirectPlay8Peer.players_unchanged]
      rcases (Command.peer peerId (.send priority packet handle
        callback)).apply_hostPlayerId s with ⟨_, himpossible⟩ | hhost
      · cases himpossible
      · rw [hhost]
        exact hfound
    · rcases Command.peer_after (.peer peerId (.send priority packet handle
        callback)) hpeer with hsame | ⟨change, _, hafter⟩ | himpossible
      · simp [hsame]
      · simp [hafter]
      · cases himpossible
  asked := by
    intro other peer asked hpeer hasks
    rw [DirectPlay8Peer.players_unchanged]
    rcases Command.peer_cases hpeer with hsame | ⟨change, before, heq, hwas, rfl⟩ |
      ⟨_, _, _, _, _, himpossible, _⟩
    · exact h.asked other peer asked hsame hasks
    · cases heq
      rcases PeerCommand.asks_cases hasks with hbefore | ⟨_, _, _, _, heq, hasked⟩
      · exact h.asked _ before asked hwas hbefore
      · cases heq
        cases hallocates.symm.trans hasked
        exact hentry
    · cases himpossible
  datagrams := fun op hop =>
    (Command.datagram_cases hop).elim (h.datagrams op) And.left

def Command.keepsPlaces (command : Command) : Bool :=
  command.isOrdinary && (command.kind != .mapPlayer &&
    (command.kind != .hostPlayerId && command.kind != .erasePeer))

structure DirectPlay8Peer.SamePlaces (s s' : DirectPlay8Peer) : Prop where
  hostPlayerId : s'.hostPlayerId = s.hostPlayerId
  playerToPeerId : s'.playerToPeerId = s.playerToPeerId
  peers : forall peerId : UInt32, s.peers[peerId]? ≠ none ->
    s'.peers[peerId]? ≠ none

namespace DirectPlay8Peer.SamePlaces

variable {s s' s'' : DirectPlay8Peer} {command : Command}

theorem refl (s : DirectPlay8Peer) : s.SamePlaces s := ⟨rfl, rfl, fun _ => id⟩

theorem trans (h : s.SamePlaces s') (h' : s'.SamePlaces s'') :
    s.SamePlaces s'' where
  hostPlayerId := h'.hostPlayerId.trans h.hostPlayerId
  playerToPeerId := h'.playerToPeerId.trans h.playerToPeerId
  peers := fun peerId => h'.peers peerId ∘ h.peers peerId

theorem finds (h : s.SamePlaces s') {playerId : DPNID}
    (hfinds : s.Finds playerId) : s'.Finds playerId := by
  rcases hfinds with ⟨peerId, hentry, hpeer⟩
  exact ⟨peerId, h.playerToPeerId ▸ hentry, h.peers peerId hpeer⟩

theorem apply (h : command.keepsPlaces = true) :
    s.SamePlaces (command.apply s) where
  hostPlayerId := by
    rcases command.apply_hostPlayerId s with ⟨_, rfl⟩ | hsame
    · cases h
    · exact hsame
  playerToPeerId := by
    rcases command.apply_players s with ⟨_, _, rfl⟩ | ⟨_, rfl⟩ | hsame
    · cases h
    · cases h
    · exact hsame
  peers := by
    intro peerId hpeer
    rcases Option.ne_none_iff_exists'.mp hpeer with ⟨peer, hpeer⟩
    rcases command.peer_after hpeer with hsame | ⟨change, rfl, hafter⟩ | rfl
    · simp [hsame]
    · simp [hafter]
    · cases h

end DirectPlay8Peer.SamePlaces

theorem Command.isOrdinary_of_keepsPlaces {command : Command}
    (h : command.keepsPlaces = true) : command.isOrdinary = true :=
  (Bool.and_eq_true_iff.mp h).1

/-!
## Rules
-/

section Rules

variable {p : Proc} {callers : List Proc} {s : DirectPlay8Peer}
  {M : Multiset Proc} {α β : Type}

theorem Proc.reachable_of_fails (h : ¬ p.ReportsSuccess) : p.Reachable s := by
  cases p with
  | invokeCallback callback result => exact fun _ hok _ => absurd hok h
  | _ => trivial

def HostKept (p : Proc) (callers : List Proc) (prog : Action α)
    (s : DirectPlay8Peer) (M : Multiset Proc) : Prop :=
  hostContract.wp p callers prog
    (fun _ s' M' => (p :: callers : Multiset Proc) ≤ M' ∧ HostOk s') s M

theorem host_rest {fp : Footprint Command Proc Fault} {prog : Action α}
    (huses : prog.Uses fp)
    (hcommands : forall command s M, fp.commands command -> HostOk s ->
      HostGuarded s M (.exec p command) -> HostOk (command.apply s))
    (hcalls : forall callee, fp.calls callee ->
      callee.CancelsWithError ∧ ¬ callee.ReportsSuccess)
    (hspawns : forall child, fp.spawns child -> child.isDetached = true)
    (hown : (p :: callers : Multiset Proc) ≤ M) (h : HostOk s) :
    HostKept p callers prog s M := by
  refine Contract.wp_of_uses (I := fun s _ => HostOk s) huses
    (fun _ _ _ h => ⟨h, trivial⟩) (fun _ _ h _ => h) ?_ ?_ ?_
    (fun _ _ => trivial) hown h
  · intro command s M hcommand _ hok hcond
    exact ⟨⟨trivial, fun _ _ => trivial⟩,
      hcommands command s M hcommand hok hcond⟩
  · intro callee s M hcall hok _
    have hcallee := hcalls callee hcall
    exact ⟨⟨hok, hcallee.1, Proc.reachable_of_fails hcallee.2⟩,
      fun _ _ hok' _ => hok'⟩
  · intro child s M hspawn hok _
    refine ⟨fun s' M' _ hok' _ _ _ => ⟨hok', ?_⟩, hok⟩
    have hdetached := hspawns child hspawn
    cases child <;> first
      | exact ⟨trivial, trivial⟩
      | cases hdetached

abbrev withoutSends : Footprint Command Proc Fault :=
  .within (fun command => command.isOrdinary = true)
    (fun callee => callee.CancelsWithError ∧ ¬ callee.ReportsSuccess)
    fun child => child.isDetached = true

theorem host_ordinary {prog : Action α} (huses : prog.Uses withoutSends)
    (hown : (p :: callers : Multiset Proc) ≤ M) (h : HostOk s) :
    HostKept p callers prog s M :=
  host_rest huses (fun _ _ _ hordinary hok hcond => hok.apply _ hordinary hcond)
    (fun _ h => h) (fun _ h => h) hown h

theorem host_kept {prog : Action α} {f : α -> Action β}
    {post : β -> DirectPlay8Peer -> Multiset Proc -> Prop}
    (huses : prog.Uses (Kept fun command => command.keepsPlaces = true))
    (h : HostOk s)
    (hnext : forall value s', HostOk s' -> s.SamePlaces s' ->
      hostContract.wp p callers (f value) post s' M) :
    hostContract.wp p callers (prog >>= f) post s M := by
  rw [bind_eq, Contract.wp_bind]
  refine Contract.wp_mono (wp_kept huses (fun _ => trivial)
    (I := fun s' => HostOk s' ∧ s.SamePlaces s') ?_ ⟨h, .refl s⟩) ?_
  · rintro command s' hkeeps ⟨hok, hsame⟩ hcond
    exact ⟨⟨trivial, fun _ _ => trivial⟩,
      hok.apply (M := M) command (Command.isOrdinary_of_keepsPlaces hkeeps) hcond,
      hsame.trans (.apply hkeeps)⟩
  · rintro value s' M' ⟨rfl, hok, hsame⟩
    exact hnext value s' hok hsame

theorem host_exec {command : Command} {f : Unit -> Action β}
    {post : β -> DirectPlay8Peer -> Multiset Proc -> Prop}
    (hnext : HostGuarded s M (.exec p command) ->
      hostContract.wp p callers (f ()) post (command.apply s) M) :
    hostContract.wp p callers (perform command >>= f) post s M :=
  fun hcond => ⟨⟨trivial, fun _ _ => trivial⟩, hnext hcond⟩

theorem host_query {query : Query} {f : Answer -> Action β}
    {post : β -> DirectPlay8Peer -> Multiset Proc -> Prop}
    (hnext : forall answer, hostContract.wp p callers (f answer) post s M) :
    hostContract.wp p callers (Action.query query >>= f) post s M :=
  fun answer _ _ => hnext answer

theorem host_invoke {callee : Proc} {f : Unit -> Action β}
    {post : β -> DirectPlay8Peer -> Multiset Proc -> Prop} (h : HostOk s)
    (hcancels : callee.CancelsWithError) (hreachable : callee.Reachable s)
    (hnext : forall s' M', (p :: callers : Multiset Proc) ≤ M' ->
      HostOk s' -> hostContract.wp p callers (f ()) post s' M') :
    hostContract.wp p callers (Action.invoke callee >>= f) post s M := by
  intro _
  refine ⟨⟨h, hcancels, hreachable⟩, ?_⟩
  intro s' M' hown hok _ _
  exact hnext s' M' hown hok

theorem host_called {callee : Proc} (h : HostOk s)
    (hcancels : callee.CancelsWithError) (hreachable : callee.Reachable s) :
    HostKept p callers (Action.invoke callee) s M := by
  intro _
  exact ⟨⟨h, hcancels, hreachable⟩, fun _ _ hown hok _ _ => ⟨hown, hok⟩⟩

end Rules

/-!
## Bodies
-/

section Bodies

variable {p : Proc} {callers : List Proc} {s : DirectPlay8Peer}
  {M : Multiset Proc} {peerId : UInt32} {pd : PacketDeserialiser}
  {result : HRESULT} {reason : DWORD}

theorem createGroup_host {info : Option GroupInfo} {groupCtx asyncCtx : Context}
    {flags : DWORD}
    (hown : (.createGroup info groupCtx asyncCtx flags :: callers :
      Multiset Proc) ≤ M) (h : HostOk s) :
    HostKept (.createGroup info groupCtx asyncCtx flags) callers
      (Action.createGroup info groupCtx asyncCtx flags) s M := by
  apply Contract.wp_get
  split
  · exact host_ordinary (by simp [Command.isOrdinary]) hown h
  · exact host_ordinary (by simp [Command.isOrdinary]) hown h
  split
  · exact host_ordinary (by simp [Command.isOrdinary]) hown h
  apply host_kept (Action.uses_beginOperation
    (by simp [Command.keepsPlaces, Command.isOrdinary])
    (by simp [Command.keepsPlaces, Command.isOrdinary])) h
  intro completion s₁ h₁ hsame₁
  dsimp only
  generalize GroupRequest.mk _ _ groupCtx completion = request
  split
  · refine host_ordinary ?_ hown h₁
    repeat' with_reducible first
      | apply Action.uses_createTheGroup
      | apply Action.uses_endOperation
      | apply Action.uses_bind
      | intro _
    all_goals simp [Command.isOrdinary]
  · apply host_kept (Action.uses_assertThat
      (by simp [Command.keepsPlaces, Command.isOrdinary])) h₁
    intro _ s₂ h₂ hsame₂
    split
    · intro _
      trivial
    · rename_i hostPeerId host hfound
      rcases Option.bind_eq_some_iff.mp hfound with ⟨mapped, hentry, hpeer⟩
      rcases Option.map_eq_some_iff.mp hpeer with ⟨_, _, heq⟩
      cases heq
      rw [← (hsame₁.trans hsame₂).playerToPeerId] at hentry
      refine Contract.wp_bind.mpr ?_
      apply host_kept (Action.uses_peerAt (by simp)) h₂
      intro peer s₃ h₃ hsame₃
      apply host_kept (by simp [Command.keepsPlaces, Command.isOrdinary]) h₃
      intro _ s₄ h₄ hsame₄
      rw [← (hsame₃.trans hsame₄).playerToPeerId] at hentry
      apply host_exec
      intro _
      refine host_ordinary ?_ hown (h₄.ask hentry rfl)
      exact Action.uses_endOperation (by simp [Command.isOrdinary])
        (by simp [Command.isOrdinary]) (by simp)

theorem handleHostConnectOk_host
    (hown : (.handleHostConnectOk peerId pd :: callers : Multiset Proc) ≤ M)
    (h : HostOk s) :
    HostKept (.handleHostConnectOk peerId pd) callers
      (Action.handleHostConnectOk peerId pd) s M := by
  apply wp_assertedPeer trivial ⟨trivial, fun _ _ => trivial⟩
  intro peer hpeer
  apply Contract.wp_get
  split
  · exact ⟨hown, h⟩
  apply host_kept (Action.uses_assertThat
    (by simp [Command.keepsPlaces, Command.isOrdinary])) h
  intro _ s₁ h₁ hsame₁
  apply wp_fetch (fun _ => trivial)
  intro ok _
  apply host_kept (by simp [Command.keepsPlaces, Command.isOrdinary]) h₁
  intro _ s₂ h₂ hsame₂
  apply host_exec
  intro hcond₂
  have h₃ := h₂.apply (M := M) (p := .handleHostConnectOk peerId pd)
    (.setHostPlayerId ok.hostPlayerId) rfl hcond₂
  have hhere : ((Command.setHostPlayerId ok.hostPlayerId).apply
      s₂).peers[peerId]? ≠ none :=
    (hsame₁.trans hsame₂).peers peerId (by simp [hpeer])
  apply host_kept (by simp [Command.keepsPlaces, Command.isOrdinary]) h₃
  intro _ s₄ h₄ hsame₄
  apply host_exec
  intro hcond₄
  have h₅ := h₄.apply (M := M) (p := .handleHostConnectOk peerId pd)
    (.mapPlayer ok.hostPlayerId peerId) rfl hcond₄
  have hfinds : ((Command.mapPlayer ok.hostPlayerId peerId).apply s₄).Finds
      ((Command.mapPlayer ok.hostPlayerId peerId).apply s₄).hostPlayerId := by
    refine ⟨peerId, ?_, hsame₄.peers peerId hhere⟩
    simp [Command.apply, hsame₄.hostPlayerId]
  -- everything else the host tells us moves nobody
  apply host_kept (by simp [Command.keepsPlaces, Command.isOrdinary]) h₅
  intro _ s₆ h₆ hsame₆
  replace hfinds := hsame₆.hostPlayerId ▸ hsame₆.finds hfinds
  iterate 7
    apply host_kept (by simp [Command.keepsPlaces, Command.isOrdinary]) h₆
    clear h₆
    intro _ s₇ h₆ hsame₇
    replace hfinds := hsame₇.hostPlayerId ▸ hsame₇.finds hfinds
    clear hsame₇
  apply host_exec
  intro _
  refine host_ordinary ?_ hown (h₆.join hfinds)
  repeat' with_reducible first
    | apply Action.uses_peerAt
    | apply Action.uses_renewPeer
    | apply Action.uses_joinGroups
    | apply Action.uses_connectToPeers
    | apply Action.uses_bind
    | intro _
  all_goals simp [Command.isOrdinary]

theorem peerDestroyDrained_host
    (hown : (.peerDestroyDrained peerId result reason :: callers :
      Multiset Proc) ≤ M) (hresult : result ≠ sOk) (h : HostOk s) :
    HostKept (.peerDestroyDrained peerId result reason) callers
      (Action.peerDestroyDrained peerId result reason) s M := by
  have hremove : (Action.removePeer peerId).Uses withoutSends := by
    unfold Action.removePeer
    repeat' with_reducible first
      | apply Action.uses_bind
      | intro _
      | split
    all_goals simp [Command.isOrdinary]
  apply wp_peerAt trivial
  intro peer hpeer
  apply Contract.wp_get
  split
  · apply host_kept (by simp [Command.keepsPlaces, Command.isOrdinary]) h
    intro _ s₁ h₁ _
    apply host_kept (by simp [Command.keepsPlaces, Command.isOrdinary]) h₁
    intro _ s₂ h₂ _
    refine host_invoke h₂ (by trivial) (by trivial) ?_
    intro s₃ M₃ hown₃ h₃
    apply host_exec
    intro hcond₃
    apply Contract.wp_get
    rw [bind_eq, Contract.wp_bind]
    apply Contract.wp_onlyIf
    · intro _
      apply host_exec
      intro _
      refine Contract.wp_mono (host_ordinary ?_ hown₃ (h₃.lose hcond₃)) ?_
      · repeat' with_reducible first
          | apply Action.uses_dispatchDestroyLocalPlayer
          | apply Action.uses_bind
          | intro _
        all_goals simp [Command.isOrdinary, hresult]
      · rintro _ s₄ M₄ ⟨hown₄, h₄⟩
        exact host_ordinary (Action.uses_renewPeer fun _ => hremove) hown₄ h₄
    · intro hhost
      refine host_ordinary (Action.uses_renewPeer fun _ => hremove) hown₃ ?_
      refine h₃.unmap hcond₃ ?_
      intro hjoined hplayer
      exact hhost ⟨(hcond₃.1 hjoined hplayer).1, hplayer⟩
  · refine host_ordinary ?_ hown h
    repeat' with_reducible first
      | exact hremove
      | apply Action.uses_renewPeer
      | apply Action.uses_bind
      | intro _
      | split
    all_goals simp

theorem HostOk.finds {peer : Peer} {op : SendOp SendCallback} {hostId : DPNID}
    (h : HostOk s) (hpeer : s.peers[peerId]? = some peer)
    (hop : peer.sq.current = some op)
    (hallocates : op.callback.allocatesAt = some hostId) : s.Finds hostId := by
  refine ⟨peerId, h.asked peerId peer hostId hpeer ?_, by simp [hpeer]⟩
  refine SendQueue.holds_iff.mpr ⟨op, ?_, beq_iff_eq.mpr hallocates⟩
  simp [SendQueue.ops, hop]

theorem ioPeerSend_host
    (hown : (.ioPeerSend peerId :: callers : Multiset Proc) ≤ M) (h : HostOk s) :
    HostKept (.ioPeerSend peerId) callers (Action.ioPeerSend peerId) s M := by
  apply wp_renewPeer
  · intro _ _
    apply host_kept (by simp [Command.keepsPlaces, Command.isOrdinary]) h
    intro _ s₁ h₁ _
    apply wp_peerAt trivial
    intro peer hpeer
    split
    · rename_i op hop
      apply host_query
      intro sent
      split
      · split
        · exact ⟨hown, h₁⟩
        · exact host_called h₁ dpnErrConnectionLost_ne trivial
      apply host_kept (by simp [Command.keepsPlaces, Command.isOrdinary]) h₁
      intro _ s₂ h₂ hsame₂
      rw [bind_eq, Contract.wp_bind]
      apply Contract.wp_onlyIf
      · intro _
        apply host_kept (by simp [Command.keepsPlaces, Command.isOrdinary]) h₂
        intro _ s₃ h₃ hsame₃
        apply host_kept (by simp [Command.keepsPlaces, Command.isOrdinary]) h₃
        intro _ s₄ h₄ hsame₄
        apply host_kept (by simp [Command.keepsPlaces, Command.isOrdinary]) h₄
        intro _ s₅ h₅ hsame₅
        have hsame := hsame₂.trans (hsame₃.trans (hsame₄.trans hsame₅))
        refine Contract.wp_mono (host_called h₅ trivial ?_) ?_
        · exact fun hostId _ hallocates =>
            hsame.finds (h₁.finds hpeer hop hallocates)
        · rintro _ s₆ M₆ ⟨_, h₆⟩
          exact host_called h₆ trivial trivial
      · intro _
        exact host_called h₂ trivial trivial
    · refine host_ordinary ?_ hown h₁
      repeat' with_reducible first
        | apply Action.uses_bind
        | intro _
        | split
      all_goals simp [Command.isOrdinary]
  · intro _
    exact ⟨hown, h⟩

theorem ioUdpSend_host
    (hown : (.ioUdpSend :: callers : Multiset Proc) ≤ M) (h : HostOk s) :
    HostKept .ioUdpSend callers Action.ioUdpSend s M := by
  apply Contract.wp_get
  split
  · exact ⟨hown, h⟩
  apply host_kept (by simp [Command.keepsPlaces, Command.isOrdinary]) h
  intro _ s₁ h₁ _
  apply Contract.wp_get
  split
  · exact ⟨hown, h₁⟩
  · rename_i op hop
    apply host_query
    intro sent
    split
    · exact ⟨hown, h₁⟩
    apply host_kept (by simp [Command.keepsPlaces, Command.isOrdinary]) h₁
    intro _ s₂ h₂ _
    have hplain : op.callback = .nothing :=
      h₁.datagrams op (by simp [SendQueue.ops, hop])
    refine host_invoke h₂ (by trivial) ?_ ?_
    · rw [hplain]
      intro hostId _ hallocates
      cases hallocates
    · intro s₃ M₃ _ h₃
      exact host_called h₃ trivial trivial

theorem peerDestroySends_host
    (hown : (.peerDestroySends peerId result reason :: callers :
      Multiset Proc) ≤ M) (hresult : result ≠ sOk) (h : HostOk s) :
    HostKept (.peerDestroySends peerId result reason) callers
      (Action.peerDestroySends peerId result reason) s M := by
  refine host_ordinary ?_ hown h
  unfold Action.peerDestroySends
  repeat' with_reducible first
    | apply Action.uses_peerAt
    | apply Action.uses_renewPeer
    | apply Action.uses_bind
    | intro _
    | split
  all_goals simp [Command.isOrdinary, hresult]

def Proc.concernsHost : Proc -> Bool
  | .createGroup .. | .handleHostConnectOk .. | .peerDestroyDrained ..
  | .ioPeerSend .. | .ioUdpSend | .peerDestroySends .. => true
  | _ => false

theorem HostOk.others {p : Proc} (hp : p.concernsHost = false)
    {command : Command} (hcommand : p.footprint.commands command)
    (h : HostOk s) (hcond : HostGuarded s M (.exec p command)) :
    HostOk (command.apply s) := by
  by_cases hunmap : exists playerId, command = .unmapPlayer playerId
  · rcases hunmap with ⟨playerId, rfl⟩
    refine h.unmap hcond ?_
    intro hjoined hplayer
    have hends := (hcond.1 hjoined hplayer).2
    cases p <;> first
      | (cases hends; done)
      | cases hp
  · refine h.apply command ?_ hcond
    rcases hcommand with ⟨_, hfits⟩
    cases command with
    | setState state =>
        simp only [Command.isOrdinary, bne_iff_ne]
        rintro rfl
        cases p <;> first
          | (simp at hfits; done)
          | cases hp
    | unmapPlayer playerId => exact absurd ⟨playerId, rfl⟩ hunmap
    | peer peerId change =>
        cases change with
        | send priority packet handle callback =>
            simp only [Command.isOrdinary, beq_iff_eq]
            by_contra hallocates
            have hcreates := hfits.2.2 hallocates
            cases p <;> first
              | (cases hcreates; done)
              | cases hp
        | _ => rfl
    | _ => rfl

theorem host_body {p : Proc} (hown : (p :: callers : Multiset Proc) ≤ M)
    (h : HostOk s) (hcancels : p.CancelsWithError) :
    HostKept p callers p.body s M := by
  cases hp : p.concernsHost with
  | true =>
      cases p <;> try cases hp
      · exact createGroup_host hown h
      · exact ioUdpSend_host hown h
      · exact ioPeerSend_host hown h
      · exact peerDestroySends_host hown hcancels h
      · exact peerDestroyDrained_host hown hcancels h
      · exact handleHostConnectOk_host hown h
  | false =>
      refine host_rest p.body_uses
        (fun _ _ _ hcommand hok hcond => hok.others hp hcommand hcond) ?_
        (fun _ h => h) hown h
      intro callee hcall
      refine ⟨hcall.2.1 hcancels, ?_⟩
      intro hreports
      have hcompletes := hcall.2.2 hreports
      cases p <;> first
        | (cases hcompletes; done)
        | cases hp

end Bodies

theorem hostContract_valid :
    hostContract.Valid DirectPlay8Peer.Constructed where
  initial := by
    intro s hs
    refine ⟨⟨?_, ?_, ?_⟩, trivial⟩
    · rintro (hjoining | hconnected)
      · simp [hs.state] at hjoining
      · simp [hs.state] at hconnected
    · intro peerId peer hostId hpeer
      simp [hs.peers] at hpeer
    · intro op hop
      simp [hs.udpSq] at hop
  start := by
    intro p s M hentry hok _ _
    refine ⟨hok, ?_⟩
    cases p <;> first
      | exact ⟨trivial, trivial⟩
      | simp [machine, Proc.entry, Proc.isMethod, Proc.isWorkerEvent] at hentry
  body := fun _ _ _ _ hown hpre =>
    Contract.wp_mono (host_body hown hpre.1 hpre.2.1)
      fun _ _ _ h => ⟨⟨h.2, trivial⟩, fun _ _ => trivial⟩

/-!
## Runs
-/

/-- The host can be looked up where the source asserts so. -/
structure HostKnown (c : Run) : Prop where
  connected : c.Free -> c.state.state = .connected ->
    c.state.getPeerByPlayerId c.state.hostPlayerId ≠ none
  /-- The send of a `DPLITE_MSGID_GROUP_ALLOCATE` completes with `S_OK`. -/
  requested : forall (c' : Run) (p : Proc) (hostId : DPNID) (ackId : DWORD)
    (request : GroupRequest),
    Step machine c
      (.call p (.invokeCallback (.groupRequested hostId ackId request) sOk)) c' ->
    c.state.getPeerByPlayerId hostId ≠ none

/-- A host that stays in the session can be looked up. -/
theorem host_known {c : Run}
    (h : Reaches machine DirectPlay8Peer.Constructed HostGuarded c) :
    HostKnown c where
  connected := by
    intro hfree hconnected
    exact ((hostContract_valid.inv h hfree).host (Or.inr hconnected)).found
  requested := by
    intro c' p hostId ackId request hstep
    have hpre := hostContract_valid.call h hstep trivial
    exact (hpre.2.2 hostId rfl rfl).found

instance {s : DirectPlay8Peer} {M : Multiset Proc} {label : StepLabel} :
    Decidable (HostGuarded s M label) := by
  apply Label.casesOn (motive := fun label => Decidable (HostGuarded s M label))
  case' exec =>
    intro p command
    apply Command.casesOn (motive := fun command =>
      Decidable (HostGuarded s M (.exec p command)))
    case' setState =>
      intro state
      apply State.casesOn (motive := fun state =>
        Decidable (HostGuarded s M (.exec p (.setState state))))
  all_goals
    intros
    dsimp only [HostGuarded]
    infer_instance

def plainHostOk (others : List Append) : List UInt8 :=
  (serialise msgidConnectHostOk
    ([.guid guidNull, .dword 1, .dword 2, .dword (UInt32.ofNat (others.length / 3))]
      ++ others ++
      [.null, .wstring [], .data [], .dword 0, .wstring [], .wstring [], .data [],
        .dword 0])).rawPacket

def choicesJoin (others : List Append) : List (Choice Answer Proc) :=
  choicesInitialise ++ choicesConnect ++
    [.start (.ioPeerTriggered 0), .answer {}, .start (.ioPeerTriggered 0),
      .answer { ret := (Action.connectHostPacket .zeroed).rawPacket.length },
      .answer { ret := (plainHostOk others).length, bytes := plainHostOk others },
      .answer {}, .answer {}, .resume 0 {}, .resume 0 {}]

def StepLabel.requestsGroup : StepLabel -> Bool
  | .call _ (.invokeCallback (.groupRequested 1 ..) 0) => true
  | _ => false

/-- A client has joined, and asks its host for a group ID. -/
theorem host_known_asked :
    exists (c c' : Run) (p : Proc) (callback : SendCallback),
      Reaches machine DirectPlay8Peer.Constructed HostGuarded c ∧
        Step machine c (.call p (.invokeCallback callback sOk)) c' ∧
        callback.allocatesAt = some 1 ∧ c.state.state = .connected ∧
        HostKnown c := by
  have hrun : (replayTo HostGuarded StepLabel.requestsGroup
      (choicesJoin [] ++ [.resume 0 {},
        .answer { ret := -1, err := wsaEWouldBlock }, .answer {},
        .start (.createGroup
          (some { infoFlags := 0, name := [], data := [], groupFlags := 0 })
          contextNull contextNull 0),
        .start (.ioPeerTriggered 0)]) (.answer { ret := 20 })).any
      (fun q => decide (q.1.state.state = .connected)) = true := by
    decide +kernel
  rcases replayTo_step hrun with ⟨c, c', label, hc, hwanted, hstep, htest⟩
  unfold StepLabel.requestsGroup at hwanted
  split at hwanted
  · exact ⟨c, c', _, _, hc, hstep, rfl, of_decide_eq_true htest, host_known hc⟩
  · cases hwanted

/--
The connection to the host is lost while the client connects to the player 3;
when that connection has been made, the client is connected without a host.
-/
theorem host_not_known :
    ¬ forall c : Run,
      Reaches machine DirectPlay8Peer.Constructed Unrestricted c ->
      HostKnown c := by
  intro hclaim
  have hrun : (replay Unrestricted (choicesJoin [.dword 3, .dword 0, .dword 0] ++
      [.answer {}, .answer {}, .answer { ret := -1, err := wsaEWouldBlock },
        .answer { ret := -1, err := wsaEWouldBlock }, .answer {},
        .start (.ioPeerTriggered 0), .answer {}, .answer {}, .resume 0 {},
        .start (.ioPeerTriggered 1), .answer {}, .start (.ioPeerTriggered 1),
        .answer { ret := -1, err := wsaEWouldBlock },
        .answer
          { ret := 36,
            bytes := (serialise msgidConnectPeerOk
              [.wstring [], .data [], .dword 0]).rawPacket },
        .answer {}, .answer {}, .resume 0 {}])).any
      (fun c => decide (c.Free ∧ c.state.state = .connected ∧
        c.state.hostPlayerId = 1 ∧
        c.state.playerToPeerId[(1 : DPNID)]? = none)) = true := by
    decide +kernel
  rcases replay_reaches hrun with ⟨c, hc, htest⟩
  rcases of_decide_eq_true htest with ⟨hfree, hconnected, hhost, hgone⟩
  apply (hclaim c hc).connected hfree hconnected
  simp [DirectPlay8Peer.getPeerByPlayerId, DirectPlay8Peer.findPlayer, hhost,
    hgone]

end DirectPlayLite
