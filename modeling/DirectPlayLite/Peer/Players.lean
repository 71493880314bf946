import DirectPlayLite.Peer.States
import DirectPlayLite.Peer.Table

/-!
# Players

Who writes the table of the players when.  Handlers let peers in under IDs they count
themselves or read in packets, `peer_destroy` removes the entry of a player before it
deletes the peer, and `peer_shutdown` removes one by the ID of the peer.
-/

namespace DirectPlayLite

open Monitor Program

/-!
## Conditions
-/

def Action.ConnectPeer.playerId : Action.ConnectPeer -> Option DPNID
  | .rejected _ => none
  | .accepted playerId .. => some playerId

/--
`peer_destroy` does not come to a peer that is on its way out with its entry still
there.  A peer whose answer is acted on is not being destroyed, nor is there a host to
act on it, and the IDs in the packet and in the list of the host are new.
-/
def CallGuarded (s : DirectPlay8Peer) (M : Multiset Proc) : Proc -> Prop
  | .peerDestroyDrained peerId .. =>
      s.PeerIn peerId .closing -> ¬ s.IsNamed peerId
  | .handleHostConnectOk peerId pd =>
      s.PeerIn peerId .requestingHost ->
        forall ok, ok ∈ (Action.decodeConnectHostOk pd).toOption ->
          s.state ≠ .hosting ∧ tokens (Proc.destroys peerId) M = 0 ∧
            ok.hostPlayerId ∉ s.playerToPeerId ∧
            ok.localPlayerId ∉ s.playerToPeerId ∧
            ok.localPlayerId ≠ ok.hostPlayerId
  | .handleConnectPeer peerId pd =>
      s.PeerIn peerId .accepted -> s.state = .connected ->
        (Action.decodeConnectPeer s pd).toOption.bind Action.ConnectPeer.playerId ≠
          some s.localPlayerId
  | .handleConnectPeerOk peerId pd =>
      forall peer, peer ∈ s.peers[peerId]? -> peer.state = .requestingPeer ->
        forall ok, ok ∈ (Action.decodeConnectPeerOk pd).toOption ->
          s.state ≠ .hosting ∧ tokens (Proc.destroys peerId) M = 0 ∧
            ¬ s.Known peer.playerId
  | _ => True

/--
The entry `peer_shutdown` removes is that of the peer or of nobody.  Peer IDs and, while
the object is hosting, player IDs are not given twice; a host that is no host any more
when the application answers has not taken over the ID it gives.
-/
def PlayersGuarded (s : DirectPlay8Peer) (M : Multiset Proc) :
    StepLabel -> Prop
  | .exec (.peerShutdown peerId ..) (.unmapPlayer key) =>
      key ∈ s.playerToPeerId ->
        s.playerToPeerId[key]? = some peerId ∧ tokens (Proc.destroys peerId) M = 0
  | .exec _ (.insertPeer peerId ..) => tokens (Proc.holds peerId) M = 0
  | .exec (.handleHostConnectRequest ..) .allocPlayerId =>
      if s.state = .hosting then s.nextPlayerId + 1 ≠ 0 else ¬ s.Known s.nextPlayerId
  | .exec _ .allocPlayerId => s.state = .hosting -> s.nextPlayerId + 1 ≠ 0
  | .exec (.host _) (.setNextPlayerId _) => s.playerToPeerId.isEmpty = true
  | .call _ callee => CallGuarded s M callee
  | _ => True

instance {s : DirectPlay8Peer} {M : Multiset Proc} {callee : Proc} :
    Decidable (CallGuarded s M callee) := by
  apply Proc.casesOn (motive := fun callee => Decidable (CallGuarded s M callee))
  all_goals
    intros
    dsimp only [CallGuarded]
    infer_instance

instance {s : DirectPlay8Peer} {M : Multiset Proc} {label : StepLabel} :
    Decidable (PlayersGuarded s M label) := by
  unfold PlayersGuarded
  split <;> infer_instance

/-!
## The contract
-/

def Command.isWatched (command : Command) : Bool :=
  command.kind == .group || command.kind == .closeReturned

def Timely (p : Proc) (s : DirectPlay8Peer) : Command -> Prop
  | .unmapPlayer playerId =>
      s.PlayersDescribed ∧
        (forall peerId, p.destroys peerId = true -> s.Leaving peerId playerId) ∧
        forall peerId, p.holds peerId = true -> s.Gone peerId
  | .mapPlayer _ peerId | .peer peerId (.setPlayerId _) =>
      forall peer, s.peers[peerId]? = some peer -> peer.state ≠ .closing
  | .peer peerId (.setState state) =>
      forall peer, s.peers[peerId]? = some peer ->
        peer.addr < s.nextAddr ∧ (peer.state = .closing -> state = .closing)
  | _ => True

def Proc.Leaves (p : Proc) (s s' : DirectPlay8Peer) : Prop :=
  match p with
  | .peerDestroyAll .. => s'.peers = ∅
  | .connectUnwind .. | .connectFail .. => s'.Since s.nextAddr
  | _ => True

def playersContract : Contract machine where
  cond := PlayersGuarded
  inv := TableInv
  free := fun _ => True
  -- such commands are only run where the players are in order
  guar := fun p command s =>
    (command.isWatched = true -> s.PlayersDescribed) ∧ Timely p s command
  rely := fun p s s' => forall J, p.Expects J -> J s -> J s'
  pre := fun p s M => TableInv s (M.erase p) ∧ CallGuarded s (M.erase p) p
  post := fun p s s' _ => p.Leaves s s'
  faults := fun _ => True
  rely_refl := fun _ _ _ _ hJ => hJ
  rely_trans := fun _ _ _ _ h h' J hexpects hJ => h' J hexpects (h J hexpects hJ)

/-!
## Rules
-/

@[simp] def Command.isOrderly : Command -> Bool
  | .allocPlayerId => true
  | .setState .hosting | .erasePeer _ | .mapPlayer .. | .unmapPlayer _
  | .setNextPlayerId _ | .local (.setPlayerId _) => false
  | .insertPeer _ state .. => state != .connected
  | .peer _ change => ! change.affectsRole
  | _ => true

theorem Command.isOrderly_cases {command : Command} (h : command.isOrderly = true) :
    command.affectsPlayers = false ∨ command = .allocPlayerId ∨
      exists peerId state sock ip port playerId,
        command = .insertPeer peerId state sock ip port playerId ∧
          state ≠ .connected := by
  cases command with
  | insertPeer peerId state sock ip port playerId =>
      exact Or.inr (Or.inr ⟨_, _, _, _, _, _, rfl, by simpa using h⟩)
  | allocPlayerId => exact Or.inr (Or.inl rfl)
  | setState state =>
      refine Or.inl ?_
      cases state <;> first
        | rfl
        | cases h
  | «local» change =>
      refine Or.inl ?_
      cases change <;> first
        | rfl
        | cases h
  | peer peerId change => exact Or.inl (by simpa using h)
  | _ => first
      | exact Or.inl rfl
      | cases h

theorem Command.isOrderly_of_plain {command : Command}
    (h : command.affectsPlayers = false) : command.isOrderly = true := by
  cases command with
  | setState state =>
      cases state <;> first
        | rfl
        | cases h
  | «local» change =>
      cases change <;> first
        | rfl
        | cases h
  | peer peerId change => simpa using h
  | _ => first
      | rfl
      | cases h

abbrev orderly : Footprint Command Proc Fault :=
  .within (fun command => command.isOrderly = true) (fun _ => True)
    fun child => child.isDetached = true

abbrev withoutPlayers : Footprint Command Proc Fault :=
  Kept fun command => command.affectsPlayers = false ∧ command.isWatched = false

section Rules

variable {p : Proc} {callers : List Proc} {s : DirectPlay8Peer} {command : Command}
  {M : Multiset Proc} {α β : Type}

theorem PlayersGuarded.counts (h : PlayersGuarded s M (.exec p .allocPlayerId))
    (hhosting : s.state = .hosting) : s.nextPlayerId + 1 ≠ 0 := by
  cases p with
  | handleHostConnectRequest =>
      simp only [PlayersGuarded, if_pos hhosting] at h
      exact h
  | _ => exact h hhosting

theorem toNat_lt_succ {counter : UInt32} (h : counter + 1 ≠ 0) :
    counter.toNat < (counter + 1).toNat := by
  have hsum := UInt32.toNat_add counter 1
  have hbound := counter.toNat_lt
  have hone : (1 : UInt32).toNat = 1 := rfl
  rw [hone] at hsum
  have hwraps : counter.toNat + 1 ≠ 2 ^ 32 := by
    intro hlast
    rw [hlast, Nat.mod_self] at hsum
    exact h (UInt32.toNat_inj.mp hsum)
  omega

theorem PlayersGuarded.inserts {peerId : UInt32} {state : PeerState} {sock : Int}
    {ip : UInt32} {port : UInt16} {playerId : DPNID}
    (h : PlayersGuarded s M
      (.exec p (.insertPeer peerId state sock ip port playerId))) :
    tokens (Proc.holds peerId) M = 0 := by
  cases p <;> exact h

theorem DirectPlay8Peer.aside_alloc
    (h : s.state = .hosting -> s.nextPlayerId + 1 ≠ 0) :
    s.Aside (Command.allocPlayerId.apply s) :=
  { Aside.refl s with
    nextPlayerId := fun hhosting => le_of_lt (toNat_lt_succ (h hhosting)) }

theorem players_agree
    (hwatched : command.isWatched = true -> s.PlayersDescribed)
    (htimely : Timely p s command)
    (hkeeps : forall r, r ∈ M.erase p -> forall J, r.Expects J -> J s ->
      J (command.apply s)) : playersContract.Agrees p command M s :=
  ⟨⟨hwatched, htimely⟩, hkeeps⟩

theorem Timely.of_plain (h : command.affectsPlayers = false) : Timely p s command := by
  unfold Timely
  split <;> trivial

theorem players_plain (hplain : command.affectsPlayers = false)
    (hwatched : command.isWatched = true -> s.PlayersDescribed) :
    playersContract.Agrees p command M s :=
  players_agree hwatched (.of_plain hplain) fun _ _ _ hexpects hJ =>
    hexpects.alike (Command.aside hplain).toAlike hJ

theorem players_alike (halike : s.Alike (command.apply s))
    (hwatched : command.isWatched = false) (htimely : Timely p s command) :
    playersContract.Agrees p command M s :=
  players_agree (absurd · (by simp [hwatched])) htimely fun _ _ _ hexpects hJ =>
    hexpects.alike halike hJ

theorem TableInv.orderly (h : TableInv s M) (horderly : command.isOrderly = true)
    (hcond : PlayersGuarded s M (.exec p command)) :
    playersContract.Agrees p command M s ∧ TableInv (command.apply s) M := by
  rcases Command.isOrderly_cases horderly with
    hplain | rfl | ⟨peerId, state, sock, ip, port, playerId, rfl, hconnected⟩
  · exact ⟨players_plain hplain fun _ => h.players, h.aside (Command.aside hplain)⟩
  · have haside := DirectPlay8Peer.aside_alloc hcond.counts
    exact ⟨players_agree (fun _ => h.players) trivial fun _ _ _ hexpects hJ =>
      hexpects.alike haside.toAlike hJ, h.aside haside⟩
  · refine ⟨players_agree (fun _ => h.players) trivial ?_,
      h.insertPeer hcond.inserts hconnected⟩
    intro r hr J hexpects hJ
    have hnone := tokens_eq_zero.mp hcond.inserts r (Multiset.mem_of_mem_erase hr)
    exact hexpects.insertPeer hnone hJ

theorem TableInv.spawn (h : TableInv s M) {child : Proc}
    (hdetached : child.isDetached = true) : TableInv s (child ::ₘ M) := by
  apply TableInv.add (p := child)
  · rwa [Multiset.erase_cons_head]
  · intro peerId _ _ hheld
    cases child <;> simp at hdetached hheld

theorem callGuarded_detached {child : Proc} (h : child.isDetached = true) :
    CallGuarded s M child := by
  unfold CallGuarded
  split
  · cases h
  · cases h
  · cases h
  · cases h
  · trivial

theorem players_uses {prog : Action α} (huses : prog.Uses orderly)
    (hown : (p :: callers : Multiset Proc) ≤ M) (h : TableInv s M) :
    playersContract.wp p callers prog
      (fun _ s' M' => (p :: callers : Multiset Proc) ≤ M' ∧ TableInv s' M') s M := by
  refine Contract.wp_of_uses huses (fun _ _ _ h => ⟨h, trivial⟩) (fun _ _ h _ => h)
    ?_ ?_ ?_ (fun _ _ => trivial) hown h
  · exact fun command s M horderly _ hinv hcond => hinv.orderly horderly hcond
  · intro callee s M _ hinv hcond
    refine ⟨⟨?_, ?_⟩, fun _ _ hinv' _ => hinv'⟩
    · rwa [Multiset.erase_cons_head]
    · rwa [Multiset.erase_cons_head]
  · intro child s M hdetached hinv _
    refine ⟨?_, hinv.spawn hdetached⟩
    intro s' M' _ hinv' _ _ _
    exact ⟨hinv'.anti (Multiset.erase_le _ _), callGuarded_detached hdetached⟩

theorem players_rest {prog : Action α} (huses : prog.Uses orderly)
    (hown : (p :: callers : Multiset Proc) ≤ M) (h : TableInv s M) :
    playersContract.wp p callers prog (fun _ s' M' => TableInv s' M') s M :=
  Contract.wp_mono (players_uses huses hown h) fun _ _ _ h => h.2

theorem players_bind {prog : Action α} {f : α -> Action β}
    {post : β -> DirectPlay8Peer -> Multiset Proc -> Prop}
    (huses : prog.Uses orderly) (hown : (p :: callers : Multiset Proc) ≤ M)
    (h : TableInv s M)
    (hnext : forall value s' M', (p :: callers : Multiset Proc) ≤ M' ->
      TableInv s' M' -> playersContract.wp p callers (f value) post s' M') :
    playersContract.wp p callers (prog >>= f) post s M := by
  rw [bind_eq, Contract.wp_bind]
  exact Contract.wp_mono (players_uses huses hown h)
    fun value s' M' h => hnext value s' M' h.1 h.2

theorem players_kept {prog : Action α} {f : α -> Action β}
    {post : β -> DirectPlay8Peer -> Multiset Proc -> Prop}
    (huses : prog.Uses withoutPlayers)
    (hnext : forall value s', s.Aside s' ->
      playersContract.wp p callers (f value) post s' M) :
    playersContract.wp p callers (prog >>= f) post s M := by
  rw [bind_eq, Contract.wp_bind]
  refine Contract.wp_mono (wp_kept huses (fun _ => trivial)
    (I := fun s' => s.Aside s') ?_ (.refl s)) ?_
  · rintro command s' ⟨hplain, hwatched⟩ haside _
    exact ⟨players_plain hplain (absurd · (by simp [hwatched])),
      haside.trans (Command.aside hplain)⟩
  · rintro value s' M' ⟨rfl, haside⟩
    exact hnext value s' haside

theorem players_exec {f : Unit -> Action β}
    {post : β -> DirectPlay8Peer -> Multiset Proc -> Prop}
    (hagrees : PlayersGuarded s M (.exec p command) ->
      playersContract.Agrees p command M s)
    (hnext : PlayersGuarded s M (.exec p command) ->
      playersContract.wp p callers (f ()) post (command.apply s) M) :
    playersContract.wp p callers (perform command >>= f) post s M :=
  fun hcond => ⟨hagrees hcond, hnext hcond⟩

theorem players_raise {notification : Notification} {f : Answer -> Action β}
    {post : β -> DirectPlay8Peer -> Multiset Proc -> Prop} (h : TableInv s M)
    (hnext : forall answer s' M', (p :: callers : Multiset Proc) ≤ M' ->
      TableInv s' M' -> (forall J, p.Expects J -> J s -> J s') ->
      playersContract.wp p callers (f answer) post s' M') :
    playersContract.wp p callers (Action.raise notification >>= f) post s M := by
  intro hcond
  have hplain : (Command.log (.raised notification)).affectsPlayers = false := rfl
  have haside := Command.aside (s := s) hplain
  refine ⟨players_plain hplain fun _ => h.players, ⟨h.aside haside, trivial⟩, ?_⟩
  intro s' M' answer hown hinv _ hrely _ _ _
  refine hnext answer s' M' hown hinv fun J hexpects hJ => ?_
  exact hrely p List.mem_cons_self J hexpects (hexpects.alike haside.toAlike hJ)

theorem players_call {callee : Proc}
    {post : Unit -> DirectPlay8Peer -> Multiset Proc -> Prop} (h : TableInv s M)
    (hpost : forall s' M', (p :: callers : Multiset Proc) ≤ M' -> TableInv s' M' ->
      (forall J, p.Expects J -> J s -> J s') -> callee.Leaves s s' -> post () s' M') :
    playersContract.wp p callers (Action.invoke callee) post s M := by
  intro hcond
  refine ⟨⟨?_, ?_⟩, ?_⟩
  · rwa [Multiset.erase_cons_head]
  · rwa [Multiset.erase_cons_head]
  · intro s' M' hown hinv hrely hleaves
    exact hpost s' M' hown hinv (hrely p List.mem_cons_self) hleaves

theorem players_invoke {callee : Proc} {f : Unit -> Action β}
    {post : β -> DirectPlay8Peer -> Multiset Proc -> Prop} (h : TableInv s M)
    (hnext : forall s' M', (p :: callers : Multiset Proc) ≤ M' -> TableInv s' M' ->
      (forall J, p.Expects J -> J s -> J s') -> callee.Leaves s s' ->
      playersContract.wp p callers (f ()) post s' M') :
    playersContract.wp p callers (Action.invoke callee >>= f) post s M := by
  rw [bind_eq, Contract.wp_bind]
  exact players_call h hnext

theorem players_query {query : Query} {f : Answer -> Action β}
    {post : β -> DirectPlay8Peer -> Multiset Proc -> Prop}
    (hnext : forall answer, playersContract.wp p callers (f answer) post s M) :
    playersContract.wp p callers (Action.query query >>= f) post s M :=
  fun answer _ _ => hnext answer

theorem players_assert {assertion : Assertion} {condition : Prop}
    [Decidable condition] {f : Unit -> Action β}
    {post : β -> DirectPlay8Peer -> Multiset Proc -> Prop}
    (hnext : forall s', s.Aside s' ->
      playersContract.wp p callers (f ()) post s' M) :
    playersContract.wp p callers
      (Action.assertThat assertion condition >>= f) post s M := by
  apply players_kept
  · exact Action.uses_assertThat ⟨rfl, rfl⟩
  · exact fun _ s' haside => hnext s' haside

theorem players_rely {s s' : DirectPlay8Peer} {J : DirectPlay8Peer -> Prop}
    (h : playersContract.rely p s s') (hexpects : p.Expects J) (hJ : J s) : J s' :=
  h J hexpects hJ

abbrev besidesPlayers : Footprint Command Proc Fault :=
  .within (fun command => command.affectsPlayers = false) (fun _ => True)
    fun child => child.isDetached = true

theorem players_expecting {prog : Action α} {J : DirectPlay8Peer -> Prop}
    (huses : prog.Uses besidesPlayers) (hexpects : p.Expects J)
    (hown : (p :: callers : Multiset Proc) ≤ M) (h : TableInv s M) (hJ : J s) :
    playersContract.wp p callers prog (fun _ s' M' =>
      ((p :: callers : Multiset Proc) ≤ M' ∧ TableInv s' M') ∧ J s') s M := by
  have horderly : prog.Uses orderly :=
    huses.within (fun command hplain => Command.isOrderly_of_plain hplain)
      (fun _ _ => trivial) fun _ hchild => hchild
  exact Contract.wp_stable (J := J) huses
    (fun _ _ hrely hJ => players_rely hrely hexpects hJ)
    (fun command s hplain hJ => hexpects.alike (Command.aside hplain).toAlike hJ)
    (players_uses horderly hown h) hJ

end Rules

/-!
## Letting players in
-/

section Handlers

variable {p : Proc} {callers : List Proc} {s s' : DirectPlay8Peer}
  {M : Multiset Proc} {peerId : UInt32} {playerId : DPNID} {peer : Peer}
  {pd : PacketDeserialiser}

theorem sendGroups_orderly : (Action.sendGroups peerId).Uses orderly := by
  unfold Action.sendGroups
  repeat' with_reducible first
    | apply Uses.forEach
    | apply Action.uses_bind
    | intro _
  all_goals simp

theorem joinGroups_orderly {next : Action Unit} {groups : List DPNID}
    (hnext : next.Uses orderly) :
    (Action.joinGroups peerId next groups).Uses orderly :=
  Action.uses_joinGroups (fun _ _ => rfl) (fun _ _ _ _ => rfl) trivial trivial
    hnext

theorem connectToPeers_orderly {entries : List Action.PeerEntry} :
    (Action.connectToPeers entries).Uses orderly :=
  Action.uses_connectToPeers rfl (fun _ _ _ _ _ => rfl) trivial trivial trivial

theorem players_setState {state : PeerState}
    (hpeer : s.peers[peerId]? = some peer) (hplaced : peer.addr < s.nextAddr)
    (hclosing : peer.state ≠ .closing)
    (hwaiting : peer.state = .indicating -> forall r, r ∈ M.erase p ->
      r.requests peerId = false) :
    playersContract.Agrees p (.peer peerId (.setState state)) M s := by
  refine players_agree (by intro h; cases h) ?_ ?_
  · intro found hfound
    cases hpeer.symm.trans hfound
    exact ⟨hplaced, fun hstate => absurd hstate hclosing⟩
  · intro r hr J hexpects hJ
    exact hexpects.ofPeer hpeer (fun hstate => absurd hstate hclosing)
      (fun hstate => hwaiting hstate r hr) hJ

theorem players_setPlayerId (hpeer : s.peers[peerId]? = some peer)
    (hclosing : peer.state ≠ .closing)
    (hwaiting : peer.state = .indicating -> forall r, r ∈ M.erase p ->
      r.requests peerId = false) :
    playersContract.Agrees p (.peer peerId (.setPlayerId playerId)) M s := by
  refine players_agree (by intro h; cases h) ?_ ?_
  · intro found hfound
    cases hpeer.symm.trans hfound
    exact hclosing
  · intro r hr J hexpects hJ
    exact hexpects.ofPeer hpeer (fun hstate => absurd hstate hclosing)
      (fun hstate => hwaiting hstate r hr) hJ

theorem players_refuse {priority : SendPriority} {packet : PacketSerialiser}
    {N : Multiset Proc} (h : TableInv s N) (hpeer : s.peers[peerId]? = some peer)
    (hclosing : peer.state ≠ .closing)
    (hwaiting : peer.state = .indicating -> forall r, r ∈ M.erase p ->
      r.requests peerId = false) :
    playersContract.wp p callers (do
      Action.sendPacket peerId priority packet .nothing
      Action.ofPeer peerId (.setState .closing))
      (fun _ s' M' => M' = M ∧ TableInv s' N) s M := by
  have hinv := h.role peerId (.send priority packet.rawPacket 0 .nothing) rfl
  apply players_exec
  · exact fun _ => players_plain rfl fun _ => h.players
  intro _ _
  have hsent := DirectPlay8Peer.peer_changed
    (.send priority packet.rawPacket 0 .nothing) hpeer
  exact ⟨players_setState hsent (hinv.placed _ _ hsent) hclosing hwaiting, rfl,
    hinv.close peerId⟩

theorem players_request {priority : SendPriority} {packet : PacketSerialiser}
    {state : PeerState} (h : TableInv s M) (hpeer : s.peers[peerId]? = some peer)
    (hbefore : Action.PeerState.isOutgoing peer.state = true)
    (hafter : Action.PeerState.isOutgoing state = true) :
    playersContract.wp p callers (do
      Action.sendPacket peerId priority packet .nothing
      Action.ofPeer peerId (.setState state)) (fun _ s' M' => TableInv s' M') s M := by
  have hinv := h.role peerId (.send priority packet.rawPacket 0 .nothing) rfl
  have hsent := DirectPlay8Peer.peer_changed
    (.send priority packet.rawPacket 0 .nothing) hpeer
  have hconnected : peer.state ≠ .connected := by
    intro hstate
    rw [hstate] at hbefore
    cases hbefore
  have hclosing : peer.state ≠ .closing := by
    intro hstate
    rw [hstate] at hbefore
    cases hbefore
  have hindicating : peer.state ≠ .indicating := by
    intro hstate
    rw [hstate] at hbefore
    cases hbefore
  apply players_exec
  · exact fun _ => players_plain rfl fun _ => h.players
  intro _ _
  refine ⟨players_setState hsent (hinv.placed _ _ hsent) hclosing
    fun hstate => absurd hstate hindicating, ?_⟩
  apply hinv.unnamed (hinv.players.not_isNamed hsent hconnected hclosing)
  intro found _
  show state ≠ .connected ∧ Phased _ _ _ state
  cases state <;> first
    | exact ⟨by decide, trivial⟩
    | cases hafter

theorem ioPeerConnected_players
    (hown : (.ioPeerConnected peerId :: callers : Multiset Proc) ≤ M)
    (h : TableInv s M) :
    playersContract.wp (.ioPeerConnected peerId) callers
      (Action.ioPeerConnected peerId) (fun _ s' M' => TableInv s' M') s M := by
  apply wp_assertedPeer trivial (players_plain rfl fun _ => h.players)
  intro peer hpeer
  apply players_query
  intro answer
  refine players_bind ?_ hown h ?_
  · exact Uses.onlyIf fun _ => by simp
  intro _ s₁ M₁ hown₁ h₁
  apply wp_peerAt trivial
  intro peer₁ hpeer₁
  apply Contract.wp_get
  split
  · split
    · rename_i hstate
      exact players_request h₁ hpeer₁ (by rw [hstate]; rfl) rfl
    split
    · rename_i hstate
      exact players_request h₁ hpeer₁ (by rw [hstate]; rfl) rfl
    · exact h₁
  · refine players_rest ?_ hown₁ h₁
    repeat' split
    all_goals simp

theorem greeting_orderly {priority : SendPriority} {packet : PacketSerialiser}
    {notification : Notification} :
    (do
      Action.sendPacket peerId priority packet .nothing
      let cp ← Action.raise notification
      Action.renewPeer peerId fun _ =>
        Action.ofPeer peerId (.setPlayerCtx cp.ctx)).Uses orderly := by
  repeat' with_reducible first
    | apply Action.uses_renewPeer
    | apply Action.uses_bind
    | intro _
  all_goals simp

theorem players_admit {rest : Action Unit}
    (hown : (p :: callers : Multiset Proc) ≤ M) (h : TableInv s M)
    (hpeer : s.peers[peerId]? = some peer) (hconnected : peer.state ≠ .connected)
    (hclosing : peer.state ≠ .closing) (hplayer : peer.playerId = playerId)
    (hwaiting : peer.state = .indicating -> forall r, r ∈ M.erase p ->
      r.requests peerId = false)
    (hfree : ¬ s.Known playerId) (hdestroys : tokens (Proc.destroys peerId) M = 0)
    (hnumbered : s.state = .hosting -> playerId.toNat < s.nextPlayerId.toNat)
    (hrest : rest.Uses orderly) :
    playersContract.wp p callers (do
      perform (.mapPlayer playerId peerId)
      Action.ofPeer peerId (.setState .connected)
      rest) (fun _ s' M' => TableInv s' M') s M := by
  subst hplayer
  rw [DirectPlay8Peer.Known, not_or] at hfree
  have hentry : s.playerToPeerId[peer.playerId]? = none := by
    simpa using hfree.2
  apply players_exec
  · intro _
    refine players_agree (by intro h; cases h) ?_ ?_
    · intro found hfound
      cases hpeer.symm.trans hfound
      exact hclosing
    · exact fun r _ J hexpects hJ => hexpects.mapPlayer hentry hpeer hclosing hJ
  intro _
  apply players_exec
  · exact fun _ => players_setState hpeer (h.placed _ _ hpeer) hclosing hwaiting
  intro _
  refine players_rest hrest hown ?_
  have hentered := (DirectPlay8Peer.Entered.map hpeer (h.placed _ _ hpeer)).setState
    .connected
  refine hentered.tableInv h (h.players.not_isNamed hpeer hconnected hclosing) hentry
    hdestroys ?_ ?_
  · rw [DirectPlay8Peer.players_unchanged, DirectPlay8Peer.local_unchanged]
    simp only [Command.apply]
    rw [Std.ExtTreeMap.getElem?_insert, if_neg (by simpa using hfree.1)]
    exact h.players.unmapped
  · intro hhosting player hknown
    rw [Command.apply_state (by simp)] at hhosting
    rw [DirectPlay8Peer.numbering_unchanged]
    rcases DirectPlay8Peer.known_unchanged.mp hknown with hself | hmem
    · exact h.numbered hhosting player (Or.inl hself)
    · rcases Std.ExtTreeMap.mem_insert.mp hmem with hsame | hbefore
      · have hsame : peer.playerId = player := by simpa using hsame
        exact hsame ▸ hnumbered hhosting
      · exact h.numbered hhosting player (Or.inr hbefore)

theorem handleConnectPeer_players
    (hown : (.handleConnectPeer peerId pd :: callers : Multiset Proc) ≤ M)
    (h : TableInv s M) (hcalled : CallGuarded s (M.erase (.handleConnectPeer peerId pd))
      (.handleConnectPeer peerId pd)) :
    playersContract.wp (.handleConnectPeer peerId pd) callers
      (Action.handleConnectPeer peerId pd) (fun _ s' M' => TableInv s' M') s M := by
  apply wp_assertedPeer trivial (players_plain rfl fun _ => h.players)
  intro peer hpeer
  apply Contract.wp_get
  split
  · exact h
  rename_i haccepted
  have haccepted : peer.state = .accepted := not_ne_iff.mp haccepted
  have hconnected : peer.state ≠ .connected := by rw [haccepted]; decide
  have hclosing : peer.state ≠ .closing := by rw [haccepted]; decide
  have hindicating : peer.state ≠ .indicating := by rw [haccepted]; decide
  have hrefuse : forall {s' : DirectPlay8Peer} {found : Peer} {packet : PacketSerialiser},
      TableInv s' M -> s'.peers[peerId]? = some found -> found.state = .accepted ->
      playersContract.wp (.handleConnectPeer peerId pd) callers (do
        Action.sendPacket peerId .high packet .nothing
        Action.ofPeer peerId (.setState .closing)) (fun _ s' M' => TableInv s' M') s' M := by
    intro s' found packet h' hfound hstate
    refine Contract.wp_mono (players_refuse h' hfound (by rw [hstate]; decide) ?_) ?_
    · intro himpossible
      rw [hstate] at himpossible
      cases himpossible
    · rintro _ s'' M'' ⟨rfl, h''⟩
      exact h''
  split
  · exact hrefuse h hpeer haccepted
  rename_i hstate
  have hstate : s.state = .connected := not_ne_iff.mp hstate
  apply wp_fetch (fun _ => trivial)
  intro connecting hconnecting
  split
  · exact hrefuse h hpeer haccepted
  rename_i playerId name playerData
  have hself : playerId ≠ s.localPlayerId := by
    have hasked := hcalled (haccepted ▸ DirectPlay8Peer.peerIn hpeer) hstate
    rw [hconnecting] at hasked
    exact fun hsame => hasked (congrArg some hsame)
  have hphased := h.phased peerId peer hpeer
  rw [haccepted] at hphased
  apply players_exec
  · exact fun _ => players_setPlayerId hpeer hclosing
      fun hstate => absurd hstate hindicating
  intro _
  have h₁ : TableInv ((Command.peer peerId (.setPlayerId playerId)).apply s) M :=
    h.setPlayerId hpeer hconnected hclosing
  have hpeer₁ := DirectPlay8Peer.peer_changed (.setPlayerId playerId) hpeer
  apply players_exec
  · exact fun _ => players_plain rfl fun _ => h₁.players
  intro _
  have h₂ := h₁.role peerId (.setPlayerInfo name playerData) rfl
  have hpeer₂ := DirectPlay8Peer.peer_changed (.setPlayerInfo name playerData) hpeer₁
  split
  · exact hrefuse h₂ hpeer₂ haccepted
  rename_i hfree
  refine players_admit hown h₂ hpeer₂ hconnected hclosing rfl
    (fun hstate => absurd hstate hindicating) ?_ hphased.2 ?_
    (Action.uses_bind sendGroups_orderly fun _ => greeting_orderly)
  · rw [DirectPlay8Peer.known_unchanged, DirectPlay8Peer.known_unchanged]
    rintro (hsame | hmem)
    · exact hself hsame
    · exact hfree (Std.ExtTreeMap.contains_iff_mem.mpr hmem)
  · intro hhosting
    rw [Command.apply_state (by simp), Command.apply_state (by simp), hstate] at hhosting
    cases hhosting

theorem TableInv.requests_unique {request : PacketDeserialiser} (h : TableInv s M)
    (hpeer : s.peers[peerId]? = some peer) (hindicating : peer.state = .indicating)
    (hmem : .handleHostConnectRequest peerId request ∈ M) :
    forall r, r ∈ M.erase (.handleHostConnectRequest peerId request) ->
      r.requests peerId = false := by
  have hphased := h.phased peerId peer hpeer
  rw [hindicating] at hphased
  have herased : tokens (Proc.requests peerId) (M.erase _) + 1 = _ :=
    tokens_erase_of_true hmem (by simp)
  exact tokens_eq_zero.mp (by have := hphased.1; omega)

theorem admitPlayer_players {ic : Answer}
    (hown : (.handleHostConnectRequest peerId pd :: callers : Multiset Proc) ≤ M)
    (h : TableInv s M) (hpeer : s.peers[peerId]? = some peer)
    (hindicating : peer.state = .indicating) :
    playersContract.wp (.handleHostConnectRequest peerId pd) callers
      (Action.admitPlayer peerId ic) (fun _ s' M' => TableInv s' M') s M := by
  have hconnected : peer.state ≠ .connected := by rw [hindicating]; decide
  have hclosing : peer.state ≠ .closing := by rw [hindicating]; decide
  have hmem : .handleHostConnectRequest peerId pd ∈ M := Multiset.mem_of_le hown (by simp)
  have hunique := h.requests_unique hpeer hindicating hmem
  have hphased := h.phased peerId peer hpeer
  rw [hindicating] at hphased
  apply Contract.wp_get
  intro (hcond : PlayersGuarded s M
    (.exec (.handleHostConnectRequest peerId pd) .allocPlayerId))
  have haside := DirectPlay8Peer.aside_alloc hcond.counts
  have hfree : ¬ s.Known s.nextPlayerId := by
    intro hknown
    by_cases hhosting : s.state = .hosting
    · exact absurd (h.numbered hhosting _ hknown) (lt_irrefl _)
    · simp only [PlayersGuarded, if_neg hhosting] at hcond
      exact hcond hknown
  have h₁ := h.aside haside
  refine ⟨players_agree (fun _ => h.players) trivial fun _ _ _ hexpects hJ =>
    hexpects.alike haside.toAlike hJ, ?_⟩
  apply players_exec
  · exact fun _ => players_setPlayerId hpeer hclosing fun _ => hunique
  intro _
  have hpeer₁ : (Command.allocPlayerId.apply s).peers[peerId]? = some peer := hpeer
  have h₂ : TableInv ((Command.peer peerId (.setPlayerId s.nextPlayerId)).apply
      (Command.allocPlayerId.apply s)) M :=
    h₁.setPlayerId hpeer₁ hconnected hclosing
  have hpeer₂ := DirectPlay8Peer.peer_changed (.setPlayerId s.nextPlayerId) hpeer₁
  apply players_exec
  · exact fun _ => players_plain rfl fun _ => h₂.players
  intro _
  have h₃ := h₂.role peerId (.setPlayerCtx ic.ctx) rfl
  have hpeer₃ := DirectPlay8Peer.peer_changed (.setPlayerCtx ic.ctx) hpeer₂
  refine players_admit hown h₃ hpeer₃ hconnected hclosing rfl (fun _ => hunique) ?_
    hphased.2 ?_ ?_
  · rw [DirectPlay8Peer.known_unchanged, DirectPlay8Peer.known_unchanged]
    exact hfree
  · intro hhosting
    rw [DirectPlay8Peer.numbering_unchanged, DirectPlay8Peer.numbering_unchanged]
    rw [Command.apply_state (by simp), Command.apply_state (by simp)] at hhosting
    exact toNat_lt_succ (hcond.counts hhosting)
  · exact Action.uses_bind sendGroups_orderly fun _ =>
      Action.uses_bind (by simp) fun _ => greeting_orderly

theorem answered_players {ic : Answer}
    (hown : (.handleHostConnectRequest peerId pd :: callers : Multiset Proc) ≤ M)
    (h : TableInv s M) (hwaiting : s.Waiting peerId) :
    playersContract.wp (.handleHostConnectRequest peerId pd) callers
      (Action.renewPeer peerId fun _ =>
        if ic.result = dpnOk then Action.admitPlayer peerId ic
        else Action.sendConnectHostFail peerId dpnErrHostRejectedConnection
          ic.bytes) (fun _ s' M' => TableInv s' M') s M := by
  apply wp_renewPeer
  · intro peer hpeer
    have hindicating := hwaiting peer hpeer
    split
    · exact admitPlayer_players hown h hpeer hindicating
    · have hmem : .handleHostConnectRequest peerId pd ∈ M :=
        Multiset.mem_of_le hown (by simp)
      have hunique := h.requests_unique hpeer hindicating hmem
      refine Contract.wp_mono (players_refuse h hpeer (by rw [hindicating]; decide)
        fun _ => hunique) ?_
      rintro _ s' M' ⟨rfl, h'⟩
      exact h'
  · exact fun _ => h

theorem handleHostConnectRequest_players
    (hown : (.handleHostConnectRequest peerId pd :: callers : Multiset Proc) ≤ M)
    (h : TableInv s (M.erase (.handleHostConnectRequest peerId pd))) :
    playersContract.wp (.handleHostConnectRequest peerId pd) callers
      (Action.handleHostConnectRequest peerId pd)
      (fun _ s' M' => TableInv s' (M'.erase (.handleHostConnectRequest peerId pd))) s
      M := by
  have hmem : .handleHostConnectRequest peerId pd ∈ M := Multiset.mem_of_le hown (by simp)
  apply wp_assertedPeer trivial (players_plain rfl fun _ => h.players)
  intro peer hpeer
  apply Contract.wp_get
  split
  · exact h
  rename_i haccepted
  have haccepted : peer.state = .accepted := not_ne_iff.mp haccepted
  have hconnected : peer.state ≠ .connected := by rw [haccepted]; decide
  have hclosing : peer.state ≠ .closing := by rw [haccepted]; decide
  have hindicating : peer.state ≠ .indicating := by rw [haccepted]; decide
  have hrefuse : forall error data,
      playersContract.wp (.handleHostConnectRequest peerId pd) callers
        (Action.sendConnectHostFail peerId error data) (fun _ s' M' =>
          TableInv s' (M'.erase (.handleHostConnectRequest peerId pd))) s M := by
    intro error data
    refine Contract.wp_mono (players_refuse h hpeer hclosing
      fun hstate => absurd hstate hindicating) ?_
    rintro _ s' M' ⟨rfl, h'⟩
    exact h'
  split
  · exact hrefuse _ _
  apply wp_fetch (fun _ => trivial)
  intro connecting _
  split
  · exact hrefuse _ _
  rename_i name playerData connectData _
  have hphased := h.phased peerId peer hpeer
  rw [haccepted] at hphased
  rcases hphased with ⟨hrequests, hdestroys⟩
  apply players_exec
  · exact fun _ => players_plain rfl fun _ => h.players
  intro _
  have h₁ := h.role peerId (.setPlayerInfo name playerData) rfl
  have hpeer₁ := DirectPlay8Peer.peer_changed (.setPlayerInfo name playerData) hpeer
  apply players_exec
  · exact fun _ => players_setState hpeer₁ (h₁.placed _ _ hpeer₁) hclosing
      fun hstate => absurd hstate hindicating
  intro _
  have h₂ : TableInv ((Command.peer peerId (.setState .indicating)).apply _) _ :=
    h₁.unnamed (h₁.players.not_isNamed hpeer₁ hconnected hclosing) fun _ _ =>
    ⟨fun himpossible => (by cases himpossible), hrequests.le.trans (Nat.zero_le _),
      hdestroys⟩
  have hpeer₂ := DirectPlay8Peer.peer_changed (.setState .indicating) hpeer₁
  -- the request itself is under way from now on
  have h₃ : TableInv _ M := h₂.add (by
    intro other found hfound hheld
    rcases hheld with hrequests | hdestroys
    · have hother : peerId = other := by simpa using hrequests
      subst hother
      cases hpeer₂.symm.trans hfound
      have herased : tokens (Proc.requests peerId) (M.erase _) + 1 = _ :=
        tokens_erase_of_true hmem (by simp)
      have hkept : tokens (Proc.destroys peerId)
          (M.erase (.handleHostConnectRequest peerId pd)) = _ :=
        tokens_erase_of_false rfl
      exact ⟨by omega, by omega⟩
    · cases hdestroys)
  apply players_raise h₃
  intro ic s₄ M₄ hown₄ h₄ hrely₄
  have hwaiting₄ : s₄.Waiting peerId := by
    refine hrely₄ _ (.waiting (by simp)) ?_
    intro found hfound
    cases hpeer₂.symm.trans hfound
    rfl
  have hanswered : forall {s' : DirectPlay8Peer} {M' : Multiset Proc},
      (.handleHostConnectRequest peerId pd :: callers : Multiset Proc) ≤ M' ->
      TableInv s' M' -> s'.Waiting peerId ->
      playersContract.wp (.handleHostConnectRequest peerId pd) callers
        (Action.renewPeer peerId fun _ =>
          if ic.result = dpnOk then Action.admitPlayer peerId ic
          else Action.sendConnectHostFail peerId dpnErrHostRejectedConnection
            ic.bytes) (fun _ s' M' =>
              TableInv s' (M'.erase (.handleHostConnectRequest peerId pd))) s' M' := by
    intro s' M' hown' h' hwaiting'
    exact Contract.wp_mono (answered_players hown' h' hwaiting')
      fun _ _ _ h'' => h''.anti (Multiset.erase_le _ _)
  rw [bind_eq, Contract.wp_bind]
  apply Contract.wp_onlyIf
  · intro _
    apply players_raise h₄
    intro _ s₅ M₅ hown₅ h₅ hrely₅
    exact hanswered hown₅ h₅ (hrely₅ _ (.waiting (by simp)) hwaiting₄)
  · exact fun _ => hanswered hown₄ h₄ hwaiting₄

theorem handleConnectPeerOk_players
    (hown : (.handleConnectPeerOk peerId pd :: callers : Multiset Proc) ≤ M)
    (h : TableInv s M) (hcalled : CallGuarded s (M.erase (.handleConnectPeerOk peerId pd))
      (.handleConnectPeerOk peerId pd)) :
    playersContract.wp (.handleConnectPeerOk peerId pd) callers
      (Action.handleConnectPeerOk peerId pd) (fun _ s' M' => TableInv s' M') s M := by
  apply wp_assertedPeer trivial (players_plain rfl fun _ => h.players)
  intro peer hpeer
  apply Contract.wp_get
  split
  · exact h
  rename_i hrequesting
  have hrequesting : peer.state = .requestingPeer := not_ne_iff.mp hrequesting
  have hconnected : peer.state ≠ .connected := by rw [hrequesting]; decide
  have hclosing : peer.state ≠ .closing := by rw [hrequesting]; decide
  have hindicating : peer.state ≠ .indicating := by rw [hrequesting]; decide
  apply players_assert
  intro s₁ haside₁
  apply wp_fetch (fun _ => trivial)
  intro ok hok
  rcases hcalled peer hpeer hrequesting ok (by rw [hok]; rfl) with
    ⟨hstate, hdestroys, hfree⟩
  rw [tokens_erase_of_false rfl] at hdestroys
  apply players_kept (by simp [Command.isWatched])
  intro _ s₂ haside₂
  have haside := haside₁.trans haside₂
  have h₂ := h.aside haside
  rcases haside.after hpeer with ⟨found, hfound, _, hsame, hplayer⟩
  rw [← hsame] at hconnected hclosing hindicating
  rw [← haside.known, ← hplayer, DirectPlay8Peer.Known, not_or] at hfree
  have hentry : s₂.playerToPeerId[found.playerId]? = none := by simpa using hfree.2
  have hunnamed := h₂.players.not_isNamed hfound hconnected hclosing
  apply players_exec
  · exact fun _ => players_setState hfound (h₂.placed _ _ hfound) hclosing
      fun hstate => absurd hstate hindicating
  intro _
  -- the peer is connected first and gets its entry afterwards
  have hfound₃ := DirectPlay8Peer.peer_changed (.setState .connected) hfound
  have hstays₃ : ((Command.peer peerId (.setState .connected)).apply s₂).playerToPeerId[
      peer.playerId]? = none := by
    rw [DirectPlay8Peer.players_unchanged, ← hplayer]
    exact hentry
  apply players_exec
  · intro _
    refine players_agree (by intro h; cases h) ?_ ?_
    · intro other hother
      cases hfound₃.symm.trans hother
      intro himpossible
      cases himpossible
    · exact fun r _ J hexpects hJ =>
        hexpects.mapPlayer hstays₃ hfound₃ (by intro himpossible; cases himpossible) hJ
  intro _
  refine players_rest ?_ hown ?_
  · repeat' with_reducible first
      | apply joinGroups_orderly
      | apply Action.uses_renewPeer
      | apply Action.uses_bind
      | intro _
    all_goals simp
  · have hplaced := (h₂.placed peerId found hfound).trans_le
      (Command.apply_nextAddr (.peer peerId (.setState .connected)) s₂)
    have hentered := (DirectPlay8Peer.Entered.map hfound₃ hplaced).of_peer
    have hentered : DirectPlay8Peer.Entered peerId found.playerId .connected s₂ _ := hentered
    rw [← hplayer]
    refine hentered.tableInv h₂ hunnamed hentry hdestroys ?_ ?_
    · rw [hentered.playerToPeerId, Std.ExtTreeMap.getElem?_insert, if_neg]
      · exact (congrArg _ DirectPlay8Peer.local_unchanged).trans h₂.players.unmapped
      · intro hsame
        have hself : ((Command.peer peerId (.setState .connected)).apply
            s₂).localPlayerId = s₂.localPlayerId := DirectPlay8Peer.local_unchanged
        exact hfree.1 ((Std.LawfulEqCmp.eq_of_compare hsame).trans hself)
    · intro hhosting
      have hbefore : s₂.state = .hosting :=
        (Command.applyPeer_state peerId (.setState .connected)).symm.trans hhosting
      exact absurd (haside.hosting hbefore) hstate

theorem handleHostConnectOk_players
    (hown : (.handleHostConnectOk peerId pd :: callers : Multiset Proc) ≤ M)
    (h : TableInv s M) (hcalled : CallGuarded s (M.erase (.handleHostConnectOk peerId pd))
      (.handleHostConnectOk peerId pd)) :
    playersContract.wp (.handleHostConnectOk peerId pd) callers
      (Action.handleHostConnectOk peerId pd) (fun _ s' M' => TableInv s' M') s M := by
  apply wp_assertedPeer trivial (players_plain rfl fun _ => h.players)
  intro peer hpeer
  apply Contract.wp_get
  split
  · exact h
  rename_i hrequesting
  have hrequesting : peer.state = .requestingHost := not_ne_iff.mp hrequesting
  apply players_assert
  intro s₁ haside₁
  apply wp_fetch (fun _ => trivial)
  intro ok hok
  rcases hcalled (hrequesting ▸ DirectPlay8Peer.peerIn hpeer) ok (by rw [hok]; rfl) with
    ⟨hstate, hdestroys, hhost, hlocal, hdiffers⟩
  rw [tokens_erase_of_false rfl] at hdestroys
  apply players_kept (by simp [Command.isWatched])
  intro _ s₂ haside₂
  apply players_kept (by simp [Command.isWatched])
  intro _ s₃ haside₃
  have haside := (haside₁.trans haside₂).trans haside₃
  have h₃ := h.aside haside
  rcases haside.after hpeer with ⟨found, hfound, _, hsame, _⟩
  have hrequesting := hsame.trans hrequesting
  have hconnected : found.state ≠ .connected := by rw [hrequesting]; decide
  have hclosing : found.state ≠ .closing := by rw [hrequesting]; decide
  have hindicating : found.state ≠ .indicating := by rw [hrequesting]; decide
  have hunnamed := h₃.players.not_isNamed hfound hconnected hclosing
  clear haside₁ haside₂ haside₃
  apply players_exec
  · exact fun _ => players_setPlayerId hfound hclosing
      fun hstate => absurd hstate hindicating
  intro _
  have h₄ : TableInv ((Command.peer peerId (.setPlayerId ok.hostPlayerId)).apply s₃) M :=
    h₃.setPlayerId hfound hconnected hclosing
  have hfound₄ := DirectPlay8Peer.peer_changed (.setPlayerId ok.hostPlayerId) hfound
  have hentries₄ : ((Command.peer peerId (.setPlayerId ok.hostPlayerId)).apply
      s₃).playerToPeerId = s.playerToPeerId :=
    DirectPlay8Peer.players_unchanged.trans haside.playerToPeerId
  have haway₄ : ((Command.peer peerId (.setPlayerId ok.hostPlayerId)).apply
      s₃).state ≠ .hosting := by
    rw [Command.apply_state (by simp)]
    exact fun hhosting => hstate (haside.hosting hhosting)
  have hunnamed₄ : ¬ ((Command.peer peerId (.setPlayerId ok.hostPlayerId)).apply
      s₃).IsNamed peerId := by
    rwa [DirectPlay8Peer.isNamed_unchanged]
  generalize (Command.peer peerId (.setPlayerId ok.hostPlayerId)).apply s₃ = s₄ at *
  rw [← hentries₄] at hhost hlocal
  have hfree := Std.ExtTreeMap.getElem?_eq_none hhost
  apply players_exec
  · intro _
    refine players_agree (by intro h; cases h) ?_ ?_
    · intro other hother
      cases hfound₄.symm.trans hother
      exact hclosing
    · exact fun r _ J hexpects hJ => hexpects.mapPlayer hfree hfound₄ hclosing hJ
  intro _
  have hentered₅ : DirectPlay8Peer.Entered peerId ok.hostPlayerId .requestingHost s₄
      ((Command.mapPlayer ok.hostPlayerId peerId).apply s₄) :=
    hrequesting ▸ DirectPlay8Peer.Entered.map hfound₄ (h₄.placed _ _ hfound₄)
  -- the ID of the host may be the one the local player had before
  apply players_exec
  · intro _
    exact players_agree (by intro h; cases h) trivial fun r _ J hexpects hJ =>
      hexpects.alike ⟨fun _ => rfl, rfl, le_rfl⟩ hJ
  intro _
  have hentered₆ := hentered₅.setLocal ok.localPlayerId
  have haway₆ : ((Command.local (.setPlayerId ok.localPlayerId)).apply
      ((Command.mapPlayer ok.hostPlayerId peerId).apply s₄)).state ≠ .hosting := haway₄
  apply players_kept (by simp [Command.isWatched])
  intro _ s₇ haside₇
  iterate 5
    apply players_kept (by simp [Command.isWatched])
    intro _ s₈ haside₈
    replace haside₇ := haside₇.trans haside₈
    clear haside₈
    rename DirectPlay8Peer => s₇
  have hentered₇ := hentered₆.alike haside₇.toAlike
  rcases hentered₇.peer with ⟨found₇, hfound₇, hrequesting₇, _, hplaced₇⟩
  apply players_exec
  · intro _
    exact players_setState hfound₇ hplaced₇ (by rw [hrequesting₇]; decide) fun himpossible => by
      rw [hrequesting₇] at himpossible
      cases himpossible
  intro _
  have hentered₈ := hentered₇.setState .connected
  refine players_rest ?_ hown
    (hentered₈.tableInv h₄ hunnamed₄ hfree hdestroys ?_ ?_)
  · repeat' with_reducible first
      | apply joinGroups_orderly
      | apply connectToPeers_orderly
      | apply Action.uses_peerAt
      | apply Action.uses_renewPeer
      | apply Action.uses_bind
      | intro _
    all_goals simp
  · rw [hentered₈.playerToPeerId, DirectPlay8Peer.local_unchanged,
      haside₇.localPlayerId, Std.ExtTreeMap.getElem?_insert, if_neg]
    · exact Std.ExtTreeMap.getElem?_eq_none hlocal
    · intro hsame
      exact hdiffers (Std.LawfulEqCmp.eq_of_compare hsame).symm
  · intro hhosting
    rw [Command.apply_state (by simp)] at hhosting
    exact absurd (haside₇.hosting hhosting) haway₆

end Handlers

/-!
## Destroying peers
-/

section Teardown

variable {callers : List Proc} {s : DirectPlay8Peer} {M : Multiset Proc}
  {peerId : UInt32} {result : HRESULT} {reason : DWORD}

theorem peerDestroyAll_players
    (h : TableInv s M) :
    playersContract.wp (.peerDestroyAll result reason) callers
      (Action.peerDestroyAll result reason)
      (fun _ s' M' => TableInv s' M' ∧ s'.peers = ∅) s M := by
  apply Contract.wp_get
  split
  · rename_i hempty
    have hnil : s.peers.toList = [] := List.head?_eq_none_iff.mp hempty
    exact ⟨h, Std.ExtTreeMap.toList_eq_nil_iff.mp hnil⟩
  · apply players_invoke h
    intro s₁ M₁ _ h₁ _ _
    apply players_call h₁
    exact fun s₂ M₂ _ h₂ _ hempty => ⟨h₂, hempty⟩

theorem DirectPlay8Peer.Since.of_empty {addr : Nat} (hcounted : addr ≤ s.nextAddr)
    (hempty : s.peers = ∅) : s.Since addr := by
  refine ⟨hcounted, ?_⟩
  intro peerId peer hpeer
  rw [hempty] at hpeer
  simp at hpeer

theorem connectUnwind_players {toPeers : Bool}
    (h : TableInv s M) :
    playersContract.wp (.connectUnwind toPeers) callers (Action.connectUnwind toPeers)
      (fun _ s' M' => TableInv s' M' ∧ s'.Since s.nextAddr) s M := by
  apply players_invoke h
  intro s₁ M₁ hown₁ h₁ hrely₁ hempty
  have hsince : s₁.Since s.nextAddr :=
    .of_empty (hrely₁ _ (.counted _ _) le_rfl) hempty
  refine Contract.wp_mono (players_expecting ?_ (.since _ _) hown₁ h₁ hsince)
    fun _ _ _ h => ⟨h.1.2, h.2⟩
  exact Uses.onlyIf fun _ => Action.uses_dispatchDestroyLocalPlayer (by simp)

theorem connectFail_players {reply : List UInt8}
    (h : TableInv s M) :
    playersContract.wp (.connectFail result reply) callers
      (Action.connectFail result reply)
      (fun _ s' M' => TableInv s' M' ∧ s'.Since s.nextAddr) s M := by
  apply Contract.wp_get
  apply players_assert
  intro s₁ haside₁
  apply players_kept (by simp [Command.isWatched])
  intro _ s₂ haside₂
  apply players_kept
  · exact Action.uses_closeMainSockets fun _ => ⟨rfl, rfl⟩
  intro _ s₃ haside₃
  have haside := (haside₁.trans haside₂).trans haside₃
  apply players_invoke (h.aside haside)
  intro s₄ M₄ hown₄ h₄ _ hsince
  refine Contract.wp_mono (players_expecting ?_ (.since _ _) hown₄ h₄
    (hsince.mono haside.nextAddr)) fun _ _ _ h => ⟨h.1.2, h.2⟩
  repeat' with_reducible first
    | apply Action.uses_bind
    | intro _
  all_goals simp

theorem peerShutdown_players
    (h : TableInv s M) :
    playersContract.wp (.peerShutdown peerId result reason) callers
      (Action.peerShutdown peerId result reason) (fun _ s' M' => TableInv s' M') s M := by
  apply wp_assertedPeer trivial (players_plain rfl fun _ => h.players)
  intro peer hpeer
  split
  · rename_i hconnected
    apply players_exec
    · intro _
      refine players_setState hpeer (h.placed _ _ hpeer) (by rw [hconnected]; decide)
        fun himpossible => ?_
      rw [hconnected] at himpossible
      cases himpossible
    intro _
    have hclosing := DirectPlay8Peer.peer_changed (.setState .closing) hpeer
    apply players_invoke (h.close peerId)
    intro s₁ M₁ _ h₁ hrely₁ _
    have hgone : s₁.Gone peerId := by
      refine hrely₁ _ (.gone (by simp)) ?_
      intro found hfound
      cases hclosing.symm.trans hfound
      rfl
    -- the table is keyed by player IDs, the entry removed is looked up by a peer ID
    intro hcond
    have hown : forall other, s₁.playerToPeerId[peerId]? = some other ->
        other = peerId ∧ tokens (Proc.destroys peerId) M₁ = 0 := by
      intro other hentry
      have hmem : peerId ∈ s₁.playerToPeerId :=
        Std.ExtTreeMap.mem_iff_isSome_getElem?.mpr (by simp [hentry])
      rcases hcond hmem with ⟨hsame, hnone⟩
      exact ⟨Option.some.inj (hentry.symm.trans hsame), hnone⟩
    refine ⟨players_agree (by intro h; cases h) ⟨h₁.players, ?_, ?_⟩ ?_,
      h₁.unmapPlayer ?_⟩
    · intro other hdestroys
      cases hdestroys
    · intro other hholds
      have hsame : peerId = other := by simpa using hholds
      exact hsame ▸ hgone
    · intro r hr J hexpects hJ
      refine hexpects.unmapPlayer (fun other hentry => ?_) hJ
      rcases hown other hentry with ⟨rfl, hnone⟩
      exact tokens_eq_zero.mp hnone r (Multiset.mem_of_mem_erase hr)
    · intro other hentry
      exact (hown other hentry).1 ▸ hgone
  split
  · exact h
  · exact players_call h fun _ _ _ h' _ _ => h'

theorem connectFailed_players {code : HRESULT} {peer : Peer}
    (h : TableInv s M) (hpeer : s.peers[peerId]? = some peer) :
    playersContract.wp (.peerDestroyDrained peerId result reason) callers (do
      Action.invoke (.connectFail code [])
      Action.renewPeer peerId fun _ => Action.removePeer peerId)
      (fun _ s' M' => TableInv s'
        (M'.erase (.peerDestroyDrained peerId result reason))) s M := by
  apply players_invoke h
  intro s₁ M₁ _ h₁ hrely₁ hsince
  have hheld : s₁.HeldAt peerId peer.addr := by
    refine hrely₁ _ (.heldAt (by simp) _) ?_
    intro found hfound
    cases hpeer.symm.trans hfound
    rfl
  apply wp_renewPeer
  · intro found hfound
    have hnew := hsince.2 peerId found hfound
    rw [hheld found hfound] at hnew
    exact absurd (h.placed peerId peer hpeer) (Nat.not_lt.mpr hnew)
  · exact fun _ => h₁.anti (Multiset.erase_le _ _)

theorem removePeer_players {N : Multiset Proc} (h : TableInv s N)
    (hunnamed : ¬ s.IsNamed peerId) :
    playersContract.wp (.peerDestroyDrained peerId result reason) callers
      (Action.removePeer peerId) (fun _ s' M' => M' = M ∧ TableInv s' N) s M := by
  apply Contract.wp_get
  split
  · intro _
    exact ⟨players_agree (by intro h; cases h) trivial fun r _ J hexpects hJ =>
      hexpects.erasePeer hunnamed hJ, rfl, h.erasePeer hunnamed⟩
  · exact fun _ => trivial

theorem add_drained (h : TableInv s (M.erase (.peerDestroyDrained peerId result reason)))
    (hphased : forall peer, s.peers[peerId]? = some peer ->
      Phased (s.IsNamed peerId) (tokens (Proc.requests peerId) M)
        (tokens (Proc.destroys peerId) M) peer.state) : TableInv s M := by
  apply h.add
  intro other found hfound hheld
  have hsame : peerId = other := by
    rcases hheld with himpossible | hdestroys
    · cases himpossible
    · simpa using hdestroys
  subst hsame
  exact hphased found hfound

theorem add_outgoing {peer : Peer}
    (h : TableInv s (M.erase (.peerDestroyDrained peerId result reason)))
    (hpeer : s.peers[peerId]? = some peer)
    (hstate : Action.PeerState.isOutgoing peer.state = true) : TableInv s M := by
  apply add_drained h
  intro found hfound
  cases hpeer.symm.trans hfound
  cases hcase : peer.state <;> first
    | trivial
    | (rw [hcase] at hstate; cases hstate)

/-- Nobody else is about to remove the entry of a player that is leaving. -/
theorem destroys_alone (hmem : .peerDestroyDrained peerId result reason ∈ M)
    (h : TableInv s M) {playerId : DPNID} (hleaving : s.Leaving peerId playerId) :
    forall r, r ∈ M.erase (.peerDestroyDrained peerId result reason) ->
      r.destroys peerId = false := by
  rcases hleaving.closing with ⟨found, hfound, hclosing, _⟩
  have hphased := h.phased peerId found hfound
  rw [hclosing] at hphased
  have hone := hphased (DirectPlay8Peer.isNamed_iff.mpr ⟨_, hleaving.entry⟩)
  have hcount : tokens (Proc.destroys peerId) (M.erase _) + 1 = _ :=
    tokens_erase_of_true hmem (by simp)
  exact tokens_eq_zero.mp (by omega)

theorem unmapPlayer_left (h : TableInv s M) {playerId : DPNID}
    (hleaving : s.Leaving peerId playerId) :
    ((Command.unmapPlayer playerId).apply s).Left peerId := by
  rcases hleaving.closing with ⟨found, hfound, _, hplayer⟩
  refine ⟨hleaving.gone, ?_⟩
  rw [DirectPlay8Peer.isNamed_iff]
  rintro ⟨player, hother⟩
  simp only [Command.apply] at hother
  rw [Std.ExtTreeMap.getElem?_erase] at hother
  split at hother
  · cases hother
  · rename_i hdiffers
    rcases h.players.named player peerId hother with ⟨same, hsame, hplayer', _⟩
    cases hfound.symm.trans hsame
    exact hdiffers (by simp [← hplayer, hplayer'])

/-- Behind its last message `peer_destroy` erases the entry, and then the peer. -/
theorem forgetPlayer_players {playerId : DPNID}
    (hown : (.peerDestroyDrained peerId result reason :: callers : Multiset Proc) ≤ M)
    (h : TableInv s M) (hleaving : s.Leaving peerId playerId) :
    playersContract.wp (.peerDestroyDrained peerId result reason) callers (do
      perform (.unmapPlayer playerId)
      let s ← get
      Action.onlyIf (s.state = .connected ∧ playerId = s.hostPlayerId)
        (Action.hostLost result reason)
      Action.renewPeer peerId fun _ => Action.removePeer peerId)
      (fun _ s' M' => TableInv s'
        (M'.erase (.peerDestroyDrained peerId result reason))) s M := by
  have hmem : .peerDestroyDrained peerId result reason ∈ M :=
    Multiset.mem_of_le hown (by simp)
  have hothers : forall other,
      s.playerToPeerId[playerId]? = some other -> other = peerId :=
    fun other hother => Option.some.inj (hother.symm.trans hleaving.entry)
  apply players_exec
  · intro _
    refine players_agree (by intro h; cases h) ⟨h.players, ?_, ?_⟩ ?_
    · intro other hdestroys
      have hsame : peerId = other := by simpa using hdestroys
      exact hsame ▸ hleaving
    · intro other hholds
      have hsame : peerId = other := by simpa using hholds
      exact hsame ▸ hleaving.gone
    · intro r hr J hexpects hJ
      refine hexpects.unmapPlayer (fun other hother => ?_) hJ
      rw [hothers other hother]
      exact destroys_alone hmem h hleaving r hr
  intro _
  have h₁ : TableInv ((Command.unmapPlayer playerId).apply s) M :=
    h.unmapPlayer fun other hother => hothers other hother ▸ hleaving.gone
  apply Contract.wp_get
  rw [bind_eq, Contract.wp_bind]
  refine Contract.wp_mono
    (players_expecting ?_ (.left (by simp)) hown h₁ (unmapPlayer_left h hleaving)) ?_
  · apply Uses.onlyIf
    intro _
    unfold Action.hostLost
    repeat' with_reducible first
      | apply Action.uses_dispatchDestroyLocalPlayer
      | apply Action.uses_bind
      | intro _
    all_goals simp
  · rintro _ s₂ M₂ ⟨⟨_, h₂⟩, hleft₂⟩
    apply wp_renewPeer
    · intro _ _
      refine Contract.wp_mono (removePeer_players h₂ hleft₂.2) ?_
      rintro _ s₃ M₃ ⟨rfl, h₃⟩
      exact h₃.anti (Multiset.erase_le _ _)
    · exact fun _ => h₂.anti (Multiset.erase_le _ _)

theorem peerDestroyDrained_players
    (hown : (.peerDestroyDrained peerId result reason :: callers : Multiset Proc) ≤ M)
    (h : TableInv s (M.erase (.peerDestroyDrained peerId result reason)))
    (hcalled : CallGuarded s (M.erase (.peerDestroyDrained peerId result reason))
      (.peerDestroyDrained peerId result reason)) :
    playersContract.wp (.peerDestroyDrained peerId result reason) callers
      (Action.peerDestroyDrained peerId result reason)
      (fun _ s' M' => TableInv s'
        (M'.erase (.peerDestroyDrained peerId result reason))) s M := by
  have hmem : .peerDestroyDrained peerId result reason ∈ M :=
    Multiset.mem_of_le hown (by simp)
  have hcount : tokens (Proc.destroys peerId) (M.erase _) + 1 = _ :=
    tokens_erase_of_true hmem (by simp)
  apply wp_peerAt trivial
  intro peer hpeer
  have hphased := h.phased peerId peer hpeer
  apply Contract.wp_get
  split
  · rename_i hconnected
    rw [hconnected] at hphased
    have hnone : tokens (Proc.destroys peerId)
        (M.erase (.peerDestroyDrained peerId result reason)) = 0 := hphased
    apply players_exec
    · exact fun _ => players_plain rfl fun _ => h.players
    intro _
    have h₁ := h.role peerId (.setSendOpen false) rfl
    have hpeer₁ := DirectPlay8Peer.peer_changed (.setSendOpen false) hpeer
    have hconnected₁ : ((PeerCommand.setSendOpen false).apply s.nextAddr peer).state =
      .connected := hconnected
    apply players_exec
    · intro _
      refine players_setState hpeer₁ (h₁.placed _ _ hpeer₁) (by rw [hconnected₁]; decide)
        fun himpossible => ?_
      rw [hconnected₁] at himpossible
      cases himpossible
    intro _
    have hpeer₂ := DirectPlay8Peer.peer_changed (.setState .closing) hpeer₁
    have hentry := h₁.players.mapped peerId _ hpeer₁ hconnected₁
    have h₂ : TableInv _ M := add_drained (h₁.close peerId) (by
      intro found hfound
      cases hpeer₂.symm.trans hfound
      intro _
      omega)
    apply players_invoke h₂
    intro s₃ M₃ hown₃ h₃ hrely₃ _
    have hleaving : s₃.Leaving peerId peer.playerId := by
      refine hrely₃ _ (.leaving (by simp) _) ⟨⟨_, hpeer₂, rfl, rfl⟩, ?_⟩
      rw [DirectPlay8Peer.players_unchanged]
      exact hentry
    exact forgetPlayer_players hown₃ h₃ hleaving
  rename_i hconnected
  -- a peer that is still on its way in only has to be found again
  split
  · rename_i hstate
    refine connectFailed_players (add_outgoing h hpeer ?_) hpeer
    rcases hstate.2 with hstate | hstate <;> rw [hstate] <;> rfl
  split
  · rename_i hstate
    refine connectFailed_players (add_outgoing h hpeer ?_) hpeer
    rcases hstate.2 with hstate | hstate <;> rw [hstate] <;> rfl
  · have hunnamed : ¬ s.IsNamed peerId := by
      by_cases hclosing : peer.state = .closing
      · exact hcalled (hclosing ▸ DirectPlay8Peer.peerIn hpeer)
      · exact h.players.not_isNamed hpeer hconnected hclosing
    refine Contract.wp_mono (removePeer_players h hunnamed) ?_
    rintro _ s₁ M₁ ⟨rfl, h₁⟩
    exact h₁

end Teardown

/-!
## Sessions
-/

section Sessions

variable {p : Proc} {callers : List Proc} {s : DirectPlay8Peer} {M : Multiset Proc}

theorem closeConnected_players {packet : PacketSerialiser} {peerIds : List UInt32}
    (h : TableInv s M)
    (hpeers : forall peerId, peerId ∈ peerIds ->
      exists peer, s.peers[peerId]? = some peer ∧ peer.state ≠ .indicating) :
    playersContract.wp p callers
      (forEach (fun peerId => do
        Action.sendPacket peerId .high packet .nothing
        Action.ofPeer peerId (.setState .closing)) peerIds)
      (fun _ s' M' => M' = M ∧ TableInv s' M) s M := by
  induction peerIds generalizing s with
  | nil => exact ⟨rfl, h⟩
  | cons peerId rest ih =>
      rcases hpeers peerId (by simp) with ⟨peer, hpeer, hindicating⟩
      show playersContract.wp p callers (Program.bind _ _) _ s M
      rw [Contract.wp_bind]
      apply players_exec
      · exact fun _ => players_plain rfl fun _ => h.players
      intro _
      have h₁ := h.role peerId (.send .high packet.rawPacket 0 .nothing) rfl
      have hpeer₁ := DirectPlay8Peer.peer_changed
        (.send .high packet.rawPacket 0 .nothing) hpeer
      intro _
      refine ⟨players_agree (by intro h; cases h)
        (fun _ hfound => ⟨h₁.placed _ _ hfound, fun _ => rfl⟩) ?_, ?_⟩
      · exact fun r _ J hexpects hJ => hexpects.ofPeer hpeer₁ (fun _ => rfl)
          (fun hstate => absurd hstate hindicating) hJ
      apply ih (h₁.close peerId)
      intro other hother
      rcases hpeers other (List.mem_cons_of_mem _ hother) with ⟨found, hfound, hstate⟩
      by_cases hsame : other = peerId
      · subst hsame
        refine ⟨_, DirectPlay8Peer.peer_changed _ hpeer₁, ?_⟩
        intro himpossible
        cases himpossible
      · rw [DirectPlay8Peer.peer_unchanged hsame, DirectPlay8Peer.peer_unchanged hsame]
        exact ⟨found, hfound, hstate⟩

theorem terminateSession_players {data : List UInt8}
    (hown : (.terminateSession data :: callers : Multiset Proc) ≤ M) (h : TableInv s M) :
    playersContract.wp (.terminateSession data) callers (Action.terminateSession data)
      (fun _ s' M' => TableInv s' M') s M := by
  apply Contract.wp_get
  split
  · exact players_rest (by simp) hown h
  apply players_kept
  · exact Action.uses_closeMainSockets fun _ => ⟨rfl, rfl⟩
  intro _ s₁ haside₁
  rw [bind_eq, Contract.wp_bind]
  refine Contract.wp_mono (closeConnected_players (h.aside haside₁) ?_) ?_
  · intro peerId hmem
    rw [DirectPlay8Peer.peerIdsIn, List.mem_map] at hmem
    rcases hmem with ⟨⟨found, peer⟩, hfiltered, rfl⟩
    rcases List.mem_filter.mp hfiltered with ⟨hfound, hconnected⟩
    have hpeer := Std.ExtTreeMap.mem_toList_iff_getElem?_eq_some.mp hfound
    rcases haside₁.after hpeer with ⟨later, hlater, _, hstate, _⟩
    refine ⟨later, hlater, ?_⟩
    rw [hstate, eq_of_beq hconnected]
    decide
  rintro _ s₂ M₂ ⟨rfl, h₂⟩
  refine players_rest ?_ hown h₂
  repeat' with_reducible first
    | apply Action.uses_dispatchDestroyLocalPlayer
    | apply Uses.forEach
    | apply Action.uses_bind
    | intro _
    | split
  all_goals simp

theorem TableInv.startHosting {s' : DirectPlay8Peer} (h : TableInv s M)
    (hempty : s.playerToPeerId = ∅) (hpeers : s'.peers = s.peers)
    (hentries : s'.playerToPeerId = s.playerToPeerId)
    (hnextAddr : s'.nextAddr = s.nextAddr)
    (hcounted : s'.localPlayerId.toNat < s'.nextPlayerId.toNat) : TableInv s' M where
  players :=
    { named := by
        intro playerId peerId hentry
        rw [hentries, hempty] at hentry
        simp at hentry
      mapped := by
        intro peerId peer hpeer hconnected
        rw [hpeers] at hpeer
        have hentry := h.players.mapped peerId peer hpeer hconnected
        rw [hempty] at hentry
        simp at hentry
      unmapped := by
        rw [hentries, hempty]
        simp }
  numbered := by
    intro _ playerId hknown
    rcases hknown with rfl | hmem
    · exact hcounted
    · rw [hentries, hempty] at hmem
      simp at hmem
  placed := by
    rw [hpeers, hnextAddr]
    exact h.placed
  phased := by
    rw [hpeers]
    simp only [DirectPlay8Peer.IsNamed, hentries]
    exact h.phased

theorem startHosting_players {args : HostArgs} {ctx : Context}
    (hown : (.host args :: callers : Multiset Proc) ≤ M) (h : TableInv s M) :
    playersContract.wp (.host args) callers (Action.startHosting ctx)
      (fun _ s' M' => TableInv s' M') s M := by
  intro hcond
  have hempty := Std.ExtTreeMap.isEmpty_iff.mp hcond
  refine ⟨players_alike (Command.alike rfl rfl) rfl trivial, ?_⟩
  iterate 5
    intro _
    refine ⟨players_alike (Command.alike rfl rfl) rfl trivial, ?_⟩
  refine players_rest ?_ hown (h.startHosting hempty ?_ ?_ ?_ ?_)
  · repeat' first
      | apply Action.uses_bind
      | intro _
    all_goals simp
  all_goals simp only [machine, Command.apply, LocalCommand.apply]
  decide

theorem hostOn_players {args : HostArgs} {port : UInt16}
    (hown : (.host args :: callers : Multiset Proc) ≤ M) (h : TableInv s M) :
    playersContract.wp (.host args) callers (Action.hostOn args port)
      (fun _ s' M' => TableInv s' M') s M := by
  apply players_bind (Action.uses_createHostSockets (by simp) (by simp)) hown h
  intro _ s₁ M₁ hown₁ h₁
  apply Contract.wp_get
  split
  · exact players_rest (by simp) hown₁ h₁
  apply players_bind Action.uses_selectMainSockets hown₁ h₁
  intro selected s₂ M₂ hown₂ h₂
  split
  · exact players_rest (by simp) hown₂ h₂
  apply players_bind (Action.uses_openDiscovery (by simp)) hown₂ h₂
  intro opened s₃ M₃ hown₃ h₃
  split
  · exact players_rest (by simp) hown₃ h₃
  · exact startHosting_players hown₃ h₃

theorem host_players {args : HostArgs}
    (hown : (.host args :: callers : Multiset Proc) ≤ M) (h : TableInv s M) :
    playersContract.wp (.host args) callers (Action.host args)
      (fun _ s' M' => TableInv s' M') s M := by
  apply Contract.wp_get
  split
  case h_6 | h_7 | h_8 | h_9 =>
    split
    · exact players_rest (by simp) hown h
    apply players_query
    intro created
    apply players_bind (by simp) hown h
    intro _ s₁ M₁ hown₁ h₁
    split
    · exact players_rest (by simp) hown₁ h₁
    apply players_bind (by simp) hown₁ h₁
    intro _ s₂ M₂ hown₂ h₂
    apply players_bind (Action.uses_setDescription (by simp) (by simp)) hown₂ h₂
    intro _ s₃ M₃ hown₃ h₃
    split
    · exact players_rest (by simp) hown₃ h₃
    apply players_bind (by simp) hown₃ h₃
    intro _ s₄ M₄ hown₄ h₄
    exact hostOn_players hown₄ h₄
  all_goals exact players_rest (by simp) hown h

end Sessions

@[simp] def Proc.writesPlayers : Proc -> Bool
  | .host .. | .terminateSession .. | .ioPeerConnected .. | .peerDestroyDrained ..
  | .peerShutdown .. | .handleHostConnectRequest .. | .handleHostConnectOk ..
  | .handleConnectPeer .. | .handleConnectPeerOk .. => true
  | _ => false

section Bodies

variable {p : Proc} {callers : List Proc} {s : DirectPlay8Peer}
  {M : Multiset Proc}

theorem Proc.isOrderly_of_others {command : Command} (hp : p.writesPlayers = false)
    (hcommand : command.kind ∈ p.kinds ∧ p.Fits command) :
    command.isOrderly = true := by
  have hkinds : .peerPlayerId ∉ p.kinds ∧ .mapPlayer ∉ p.kinds ∧
      .unmapPlayer ∉ p.kinds ∧ .erasePeer ∉ p.kinds ∧ .localPlayerId ∉ p.kinds ∧
      p.numbersAnew = false ∧ .hosting ∉ p.assigns ∧ p.assignsPeer = [] ∧
      .connected ∉ p.inserts := by
    cases p <;> first
      | (simp; done)
      | cases hp
  rcases hkinds with
    ⟨hplayerId, hmap, hunmap, herase, hlocal, hnumbers, hhosting, hassigns, hinserts⟩
  unfold Command.isOrderly
  split
  · rfl
  · exact absurd hcommand.2 hhosting
  · exact absurd hcommand.1 herase
  · exact absurd hcommand.1 hmap
  · exact absurd hcommand.1 hunmap
  · have hanew : p.numbersAnew = true := hcommand.2
    cases hnumbers.symm.trans hanew
  · exact absurd hcommand.1 hlocal
  · rename_i state _ _ _ _
    have hinserted : state ∈ p.inserts := hcommand.2
    have hconnected : state ≠ .connected := by
      rintro rfl
      exact hinserts hinserted
    simpa using hconnected
  · rename_i change
    cases change with
    | setState state =>
        have hassigned : state ∈ p.assignsPeer := hcommand.2
        rw [hassigns] at hassigned
        cases hassigned
    | setPlayerId playerId => exact absurd hcommand.1 hplayerId
    | _ => rfl
  · rfl

theorem players_others (hp : p.writesPlayers = false)
    (hown : (p :: callers : Multiset Proc) ≤ M) (h : TableInv s M) :
    playersContract.wp p callers p.body (fun _ s' M' => TableInv s' M') s M := by
  refine players_rest ?_ hown h
  exact (Proc.body_uses p).within
    (fun command hcommand => Proc.isOrderly_of_others hp hcommand)
    (fun _ _ => trivial) fun _ hchild => hchild

theorem players_body (hown : (p :: callers : Multiset Proc) ≤ M)
    (h : TableInv s (M.erase p)) (hcalled : CallGuarded s (M.erase p) p) :
    playersContract.wp p callers p.body
      (fun _ s' M' => TableInv s' (M'.erase p) ∧ p.Leaves s s') s M := by
  have hplain : forall {prog : Action Unit}, p.Leaves s = (fun _ => True) ->
      playersContract.wp p callers prog (fun _ s' M' => TableInv s' M') s M ->
      playersContract.wp p callers prog
        (fun _ s' M' => TableInv s' (M'.erase p) ∧ p.Leaves s s') s M := by
    intro prog hleaves hprog
    refine Contract.wp_mono hprog fun _ s' M' h' => ⟨h'.anti (Multiset.erase_le _ _), ?_⟩
    rw [hleaves]
    trivial
  have hemptied : forall {prog : Action Unit},
      playersContract.wp p callers prog
        (fun _ s' M' => TableInv s' M' ∧ p.Leaves s s') s M ->
      playersContract.wp p callers prog
        (fun _ s' M' => TableInv s' (M'.erase p) ∧ p.Leaves s s') s M :=
    fun hprog => Contract.wp_mono hprog fun _ _ _ h' =>
      ⟨h'.1.anti (Multiset.erase_le _ _), h'.2⟩
  have hadd : (forall peerId, p.requests peerId = false ∧ p.destroys peerId = false) ->
      TableInv s M := by
    intro hnone
    apply h.add
    intro peerId _ _ hheld
    rcases hheld with himpossible | himpossible
    · cases (hnone peerId).1.symm.trans himpossible
    · cases (hnone peerId).2.symm.trans himpossible
  cases p with
  | host => exact hplain rfl (host_players hown (hadd fun _ => ⟨rfl, rfl⟩))
  | terminateSession =>
      exact hplain rfl (terminateSession_players hown (hadd fun _ => ⟨rfl, rfl⟩))
  | ioPeerConnected =>
      exact hplain rfl (ioPeerConnected_players hown (hadd fun _ => ⟨rfl, rfl⟩))
  | peerShutdown =>
      exact hplain rfl (peerShutdown_players (hadd fun _ => ⟨rfl, rfl⟩))
  | handleConnectPeer =>
      exact hplain rfl (handleConnectPeer_players hown (hadd fun _ => ⟨rfl, rfl⟩) hcalled)
  | handleConnectPeerOk =>
      exact hplain rfl
        (handleConnectPeerOk_players hown (hadd fun _ => ⟨rfl, rfl⟩) hcalled)
  | handleHostConnectOk =>
      exact hplain rfl
        (handleHostConnectOk_players hown (hadd fun _ => ⟨rfl, rfl⟩) hcalled)
  | peerDestroyAll => exact hemptied (peerDestroyAll_players (hadd fun _ => ⟨rfl, rfl⟩))
  | connectUnwind => exact hemptied (connectUnwind_players (hadd fun _ => ⟨rfl, rfl⟩))
  | connectFail => exact hemptied (connectFail_players (hadd fun _ => ⟨rfl, rfl⟩))
  | handleHostConnectRequest =>
      exact Contract.wp_mono (handleHostConnectRequest_players hown h)
        fun _ _ _ h' => ⟨h', trivial⟩
  | peerDestroyDrained =>
      exact Contract.wp_mono (peerDestroyDrained_players hown h hcalled)
        fun _ _ _ h' => ⟨h', trivial⟩
  | _ => exact hplain rfl (players_others rfl hown (hadd fun _ => ⟨rfl, rfl⟩))

end Bodies

theorem playersContract_valid :
    playersContract.Valid DirectPlay8Peer.Constructed where
  initial := by
    intro s hs
    refine ⟨⟨⟨?_, ?_, ?_⟩, ?_, ?_, ?_⟩, trivial⟩
    · intro playerId peerId hentry
      simp [hs.playerToPeerId] at hentry
    · intro peerId peer hpeer
      simp [hs.peers] at hpeer
    · simp [hs.playerToPeerId]
    · intro hhosting
      cases hs.state.symm.trans hhosting
    · intro peerId peer hpeer
      simp [hs.peers] at hpeer
    · intro peerId peer hpeer
      simp [hs.peers] at hpeer
  start := by
    intro p s M hentry hinv _ _
    refine ⟨?_, ?_⟩
    · rwa [Multiset.erase_cons_head]
    · cases p <;> trivial
  body := fun _ _ _ _ hown hpre =>
    Contract.wp_mono (players_body hown hpre.1 hpre.2)
      fun _ _ _ h => ⟨h, fun _ _ => trivial⟩

/-!
## Runs
-/

/-- Whenever the lock is free, the table describes the peers. -/
theorem players_described {c : Run}
    (h : Reaches machine DirectPlay8Peer.Constructed PlayersGuarded c)
    (hfree : c.Free) : c.state.PlayersDescribed :=
  (playersContract_valid.inv h hfree).players

def choicesAdmitTwo : List (Choice Answer Proc) :=
  choicesAdmit ++ choicesAccept ++ choicesAccept ++
    choicesReceive 2 (Action.connectHostPacket .zeroed).rawPacket ++
    [.resume 0 {}, .resume 0 {}, .answer { ret := -1, err := wsaEWouldBlock },
      .answer {}]

/-- The connection to the first of two clients has failed, and its entry is gone. -/
theorem players_described_hosting :
    exists c : Run,
      Reaches machine DirectPlay8Peer.Constructed PlayersGuarded c ∧
        c.Free ∧ c.state.playerToPeerId[(3 : DPNID)]? = some 2 ∧
        c.state.playerToPeerId[(2 : DPNID)]? = none ∧
        .raised (.destroyPlayer 2 contextNull destroyPlayerReasonConnectionLost) ∈
          c.state.history ∧
        c.state.PlayersDescribed := by
  have hrun : (replay PlayersGuarded (choicesAdmitTwo ++
      [.start (.ioPeerTriggered 0), .answer { ret := -1, err := 10054 },
        .resume 0 {}])).any
      (fun c => decide (c.Free ∧ c.state.playerToPeerId[(3 : DPNID)]? = some 2 ∧
        c.state.playerToPeerId[(2 : DPNID)]? = none ∧
        .raised (.destroyPlayer 2 contextNull destroyPlayerReasonConnectionLost) ∈
          c.state.history)) = true := by
    decide +kernel
  rcases replay_reaches hrun with ⟨c, hc, htest⟩
  rcases of_decide_eq_true htest with ⟨hfree, hentry, hgone, hraised⟩
  exact ⟨c, hc, hfree, hentry, hgone, hraised, players_described hc hfree⟩

/-- A player that has been shut down is gone, and its entry is still there. -/
theorem players_not_described :
    ¬ forall c : Run,
      Reaches machine DirectPlay8Peer.Constructed Unrestricted c ->
      c.Free -> c.state.PlayersDescribed := by
  intro hclaim
  have hrun : (replay Unrestricted (choicesAdmit ++
      [.start (.destroyPeer 2 []), .resume 0 {}, .start (.ioPeerTriggered 0),
        .answer { ret := -1, err := 10054 }])).any
      (fun c => decide (c.Free ∧
        c.state.playerToPeerId[(2 : DPNID)]? = some 0 ∧
        (c.state.peers[(0 : UInt32)]?).isNone)) = true := by
    decide +kernel
  rcases replay_reaches hrun with ⟨c, hc, htest⟩
  rcases of_decide_eq_true htest with ⟨hfree, hentry, hgone⟩
  rcases (hclaim c hc hfree).named _ _ hentry with ⟨peer, hpeer, _⟩
  rw [hpeer] at hgone
  cases hgone

end DirectPlayLite
