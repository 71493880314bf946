import Mathlib.Data.Finset.Card
import DirectPlayLite.Lib.Monitor.Traces
import DirectPlayLite.Peer.Contracts

/-!
# The limit of a session

A host compares a new limit with the players it has, but lets in whom the application
lets in, whatever the limit is.
-/

namespace DirectPlayLite

open Monitor Program

namespace DirectPlay8Peer

variable {s : DirectPlay8Peer} {peerId : UInt32}

def connectedPeers (s : DirectPlay8Peer) : Finset UInt32 :=
  ((s.peers.toList.filter fun (_, peer) => peer.state == .connected).map
    Prod.fst).toFinset

theorem mem_connectedPeers :
    peerId ∈ s.connectedPeers ↔
      exists peer, s.peers[peerId]? = some peer ∧ peer.state = .connected := by
  rw [connectedPeers, List.mem_toFinset, List.mem_map]
  constructor
  · intro h
    rcases h with ⟨⟨found, peer⟩, hmem, rfl⟩
    rcases List.mem_filter.mp hmem with ⟨hfound, hconnected⟩
    exact ⟨peer, Std.ExtTreeMap.mem_toList_iff_getElem?_eq_some.mp hfound,
      eq_of_beq hconnected⟩
  · intro h
    rcases h with ⟨peer, hpeer, hconnected⟩
    exact ⟨(peerId, peer), List.mem_filter.mpr
      ⟨Std.ExtTreeMap.mem_toList_iff_getElem?_eq_some.mpr hpeer,
        beq_iff_eq.mpr hconnected⟩, rfl⟩

end DirectPlay8Peer

def Allows (limit : DWORD) (players : Finset UInt32) : Prop :=
  limit = 0 ∨ players.card + 1 ≤ limit.toNat

instance {limit : DWORD} {players : Finset UInt32} : Decidable (Allows limit players) :=
  inferInstanceAs (Decidable (_ ∨ _))

theorem Allows.subset {limit : DWORD} {players fewer : Finset UInt32}
    (h : Allows limit players) (hfewer : fewer ⊆ players) : Allows limit fewer := by
  rcases h with hnone | hlimit
  · exact Or.inl hnone
  · have hcard := Finset.card_le_card hfewer
    exact Or.inr (by omega)

theorem Allows.alone {limit : DWORD} : Allows limit ∅ := by
  by_cases hnone : limit = 0
  · exact Or.inl hnone
  · have hpositive : 0 < limit.toNat :=
      UInt32.lt_iff_toNat_lt.mp (UInt32.pos_iff_ne_zero.mpr hnone)
    exact Or.inr (by simpa using Nat.succ_le_of_lt hpositive)

/-- A host has no more players than it has set as its limit. -/
def WithinLimit (s : DirectPlay8Peer) : Prop :=
  s.state = .hosting -> Allows s.maxPlayers s.connectedPeers

instance {s : DirectPlay8Peer} : Decidable (WithinLimit s) :=
  inferInstanceAs (Decidable (_ -> _))

def DirectPlay8Peer.Full (s : DirectPlay8Peer) : Prop :=
  s.maxPlayers ≠ 0 ∧ s.maxPlayers.toNat ≤ s.connectedPeers.card + 1

instance {s : DirectPlay8Peer} : Decidable s.Full :=
  inferInstanceAs (Decidable (_ ∧ _))

/-- A packet of a host or another peer that its handler does not pass over. -/
def DirectPlay8Peer.actsOn (s : DirectPlay8Peer) : Proc -> Bool
  | .handleHostConnectOk peerId _ =>
      s.peers[peerId]?.any fun peer => peer.state == .requestingHost
  | .handleConnectPeerOk peerId _ =>
      s.peers[peerId]?.any fun peer => peer.state == .requestingPeer
  | .handleAppdesc peerId _ =>
      s.peers[peerId]?.any fun peer =>
        peer.state == .connected && peer.playerId == s.hostPlayerId
  | _ => false

/--
The application of a host lets nobody into a full session, and hosts a new one only
when nobody is connected any more.  When it sets a limit the table has an entry for
every connected peer.  A host has no connection on which it goes by what others say.
-/
def RoomGuarded (s : DirectPlay8Peer) (_ : Multiset Proc) : StepLabel -> Prop
  | .exec (.handleHostConnectRequest ..) .allocPlayerId =>
      s.state = .hosting -> ¬ s.Full
  | .exec (.host _) (.setNextPlayerId _) => s.connectedPeers = ∅
  | .exec (.setApplicationDesc _) (.session (.setMaxPlayers _)) =>
      s.connectedPeers.card ≤ s.playerToPeerId.size
  | .call _ handler => s.actsOn handler = true -> s.state ≠ .hosting
  | _ => True

instance {s : DirectPlay8Peer} {M : Multiset Proc} {label : StepLabel} :
    Decidable (RoomGuarded s M label) := by
  apply Label.casesOn (motive := fun label => Decidable (RoomGuarded s M label))
  case' exec =>
    intro p command
    apply Proc.casesOn (motive := fun p => Decidable (RoomGuarded s M (.exec p command)))
    case' handleHostConnectRequest =>
      intro peerId pd
      apply Command.casesOn (motive := fun command =>
        Decidable (RoomGuarded s M (.exec (.handleHostConnectRequest peerId pd) command)))
    case' host =>
      intro args
      apply Command.casesOn (motive := fun command =>
        Decidable (RoomGuarded s M (.exec (.host args) command)))
    case' setApplicationDesc =>
      intro desc
      apply Command.casesOn (motive := fun command =>
        Decidable (RoomGuarded s M (.exec (.setApplicationDesc desc) command)))
      case' session =>
        intro change
        apply SessionCommand.casesOn (motive := fun change =>
          Decidable (RoomGuarded s M (.exec (.setApplicationDesc desc) (.session change))))
  all_goals
    intros
    dsimp only [RoomGuarded]
    infer_instance

/-!
## Commands
-/

section Commands

variable {command : Command} {s : DirectPlay8Peer} {peerId : UInt32}

theorem Command.apply_maxPlayers
    (h : forall limit, command ≠ .session (.setMaxPlayers limit)) :
    (command.apply s).maxPlayers = s.maxPlayers := by
  cases command with
  | peer peerId change =>
      simp only [apply, applyPeer]
      split <;> rfl
  | setSocket which sock => cases which <;> rfl
  | «local» change => cases change <;> rfl
  | connect change => cases change <;> rfl
  | session change =>
      cases change with
      | setMaxPlayers limit => exact absurd rfl (h limit)
      | _ => rfl
  | _ => rfl

theorem Command.apply_connected {p : Proc} (hfits : p.Fits command)
    (h : peerId ∈ (command.apply s).connectedPeers) :
    peerId ∈ s.connectedPeers ∨ command = .peer peerId (.setState .connected) := by
  rcases DirectPlay8Peer.mem_connectedPeers.mp h with ⟨peer, hpeer, hconnected⟩
  rcases Command.peer_cases hpeer with hsame |
    ⟨change, before, rfl, hbefore, rfl⟩ |
    ⟨state, sock, ip, port, playerId, rfl, _, rfl⟩
  · exact Or.inl (DirectPlay8Peer.mem_connectedPeers.mpr ⟨peer, hsame, hconnected⟩)
  · rcases change.apply_state s.nextAddr before with ⟨state, rfl⟩ | hkept
    · have hstate : state = .connected := hconnected
      rw [hstate]
      exact Or.inr rfl
    · rw [hkept] at hconnected
      exact Or.inl
        (DirectPlay8Peer.mem_connectedPeers.mpr ⟨before, hbefore, hconnected⟩)
  · have hstate : state = .connected := hconnected
    have hinserted : state ∈ p.inserts := hfits
    rw [hstate] at hinserted
    cases p <;> simp at hinserted

end Commands

@[simp] def Command.affectsRoom : Command -> Bool
  | .setState .hosting | .peer _ (.setState .connected)
  | .session (.setMaxPlayers _) => true
  | _ => false

def KeepsRoom (s : DirectPlay8Peer) : Command -> Prop
  | .setState .hosting => Allows s.maxPlayers s.connectedPeers
  | .peer peerId (.setState .connected) =>
      s.state = .hosting -> Allows s.maxPlayers (insert peerId s.connectedPeers)
  | .session (.setMaxPlayers limit) =>
      s.state = .hosting -> Allows limit s.connectedPeers
  | _ => True

section Room

variable {command : Command} {s : DirectPlay8Peer} {peerId : UInt32}

theorem KeepsRoom.of_plain (h : command.affectsRoom = false) : KeepsRoom s command := by
  unfold KeepsRoom
  split <;> trivial

theorem KeepsRoom.of_away (haway : s.state ≠ .hosting)
    (hstart : command ≠ .setState .hosting) : KeepsRoom s command := by
  unfold KeepsRoom
  split <;> first
    | trivial
    | exact fun hhosting => absurd hhosting haway

theorem Command.state_ne_hosting (haway : s.state ≠ .hosting)
    (hstart : command ≠ .setState .hosting) : (command.apply s).state ≠ .hosting := by
  by_cases hkind : command.kind = .state
  · rcases Command.kind_eq_state hkind with ⟨state, rfl | rfl⟩
    · intro hstate
      exact hstart (congrArg Command.setState hstate)
    · exact haway
  · rw [Command.apply_state hkind]
    exact haway

def HasRoom (s : DirectPlay8Peer) : Prop := s.state = .hosting -> ¬ s.Full

theorem HasRoom.allows (h : HasRoom s) (hhosting : s.state = .hosting) :
    Allows s.maxPlayers (insert peerId s.connectedPeers) := by
  have hcard := Finset.card_insert_le peerId s.connectedPeers
  by_cases hnone : s.maxPlayers = 0
  · exact Or.inl hnone
  · have hless := not_le.mp fun hfull => h hhosting ⟨hnone, hfull⟩
    exact Or.inr (by omega)

theorem HasRoom.apply {p : Proc} (h : HasRoom s) (hfits : p.Fits command)
    (hplain : command.affectsRoom = false) (hkind : command.kind ≠ .state) :
    HasRoom (command.apply s) := by
  have hlimit : (command.apply s).maxPlayers = s.maxPlayers := by
    apply Command.apply_maxPlayers
    rintro limit rfl
    simp at hplain
  have hfewer : (command.apply s).connectedPeers ⊆ s.connectedPeers := by
    intro player hplayer
    rcases Command.apply_connected hfits hplayer with hsame | rfl
    · exact hsame
    · simp at hplain
  intro hhosting hfull
  rw [Command.apply_state hkind] at hhosting
  rw [DirectPlay8Peer.Full, hlimit] at hfull
  exact h hhosting ⟨hfull.1, hfull.2.trans (by
    have hcard := Finset.card_le_card hfewer
    omega)⟩

end Room

/-!
## The contract
-/

def roomContract : Contract machine where
  cond := RoomGuarded
  inv := fun _ _ => True
  free := fun _ => True
  guar := fun _ command s => KeepsRoom s command
  rely := fun _ _ _ => True
  pre := fun p s _ => s.actsOn p = true -> s.state ≠ .hosting
  post := fun _ _ _ _ => True
  faults := fun _ => True
  rely_refl := fun _ _ => trivial
  rely_trans := fun _ _ _ _ _ _ => trivial

abbrev withoutRoom : Footprint Command Proc Fault :=
  .within (fun command => command.affectsRoom = false) (fun _ => True)
    fun child => child.isDetached = true

section Rules

variable {p : Proc} {callers : List Proc} {command : Command}
  {s : DirectPlay8Peer} {M : Multiset Proc} {α β : Type} {prog : Action α}

theorem room_agrees (h : KeepsRoom s command) : roomContract.Agrees p command M s :=
  ⟨h, fun _ _ => trivial⟩

theorem room_uses (huses : prog.Uses withoutRoom)
    (hown : (p :: callers : Multiset Proc) ≤ M) :
    roomContract.wp p callers prog
      (fun _ _ M' => (p :: callers : Multiset Proc) ≤ M') s M := by
  refine Contract.wp_mono (Contract.wp_of_uses (I := fun _ _ => True) huses
    (fun _ _ _ _ => ⟨trivial, trivial⟩) (fun _ _ _ _ => trivial) ?_ ?_ ?_
    (fun _ _ => trivial) hown trivial) fun _ _ _ h => h.1
  · intro command s M hplain _ _ _
    exact ⟨room_agrees (.of_plain hplain), trivial⟩
  · intro callee s M _ _ hcond
    exact ⟨hcond, fun _ _ _ _ => trivial⟩
  · intro child s M hdetached _ _
    refine ⟨?_, trivial⟩
    intro s' M' _ _ _ _ _ hacts
    cases child <;> first
      | cases hacts
      | cases hdetached

theorem room_rest {prog : Action Unit} (huses : prog.Uses withoutRoom)
    (hown : (p :: callers : Multiset Proc) ≤ M) :
    roomContract.wp p callers prog (fun _ _ _ => True) s M :=
  Contract.wp_mono (room_uses huses hown) fun _ _ _ _ => trivial

theorem room_bind {f : α -> Action β}
    {post : β -> DirectPlay8Peer -> Multiset Proc -> Prop}
    (huses : prog.Uses withoutRoom) (hown : (p :: callers : Multiset Proc) ≤ M)
    (hnext : forall value s' M', (p :: callers : Multiset Proc) ≤ M' ->
      roomContract.wp p callers (f value) post s' M') :
    roomContract.wp p callers (prog >>= f) post s M := by
  rw [bind_eq, Contract.wp_bind]
  exact Contract.wp_mono (room_uses huses hown) hnext

theorem room_away {f : α -> Action β}
    {post : β -> DirectPlay8Peer -> Multiset Proc -> Prop}
    (huses : prog.Uses (Kept (· ≠ .setState .hosting))) (haway : s.state ≠ .hosting)
    (hnext : forall value s', s'.state ≠ .hosting ->
      roomContract.wp p callers (f value) post s' M) :
    roomContract.wp p callers (prog >>= f) post s M := by
  rw [bind_eq, Contract.wp_bind]
  refine Contract.wp_mono (wp_kept huses (fun _ => trivial)
    (I := fun s => s.state ≠ .hosting) ?_ haway) ?_
  · intro command s hstart haway _
    exact ⟨room_agrees (.of_away haway hstart), Command.state_ne_hosting haway hstart⟩
  · rintro value s' M' ⟨rfl, haway'⟩
    exact hnext value s' haway'

theorem room_step {f : Unit -> Action α}
    {post : α -> DirectPlay8Peer -> Multiset Proc -> Prop}
    (hkeeps : RoomGuarded s M (.exec p command) -> KeepsRoom s command)
    (hnext : RoomGuarded s M (.exec p command) ->
      roomContract.wp p callers (f ()) post (command.apply s) M) :
    roomContract.wp p callers (Action.perform command >>= f) post s M := by
  intro hcond
  exact ⟨room_agrees (hkeeps hcond), hnext hcond⟩

theorem room_left {f : Unit -> Action α}
    {post : α -> DirectPlay8Peer -> Multiset Proc -> Prop} (h : HasRoom s)
    (hfits : p.Fits command) (hplain : command.affectsRoom = false)
    (hkind : command.kind ≠ .state)
    (hnext : forall s', HasRoom s' -> roomContract.wp p callers (f ()) post s' M) :
    roomContract.wp p callers (Action.perform command >>= f) post s M := by
  apply room_step fun _ => .of_plain hplain
  intro _
  exact hnext _ (h.apply hfits hplain hkind)

end Rules

/-!
## Who connects peers, and who sets limits
-/

section Procedures

variable {callers : List Proc} {s : DirectPlay8Peer} {M : Multiset Proc}
  {peerId : UInt32} {pd : PacketDeserialiser}

theorem sendConnectHostFail_withoutRoom {error : HRESULT} {data : List UInt8} :
    (Action.sendConnectHostFail peerId error data).Uses withoutRoom :=
  Action.uses_bind (by simp) fun _ => by simp

theorem sendConnectPeerFail_withoutRoom {error : HRESULT} :
    (Action.sendConnectPeerFail peerId error).Uses withoutRoom :=
  Action.uses_bind (by simp) fun _ => by simp

theorem admitPlayer_room {ic : Answer}
    (hown : (.handleHostConnectRequest peerId pd :: callers : Multiset Proc) ≤ M) :
    roomContract.wp (.handleHostConnectRequest peerId pd) callers
      (Action.admitPlayer peerId ic) (fun _ _ _ => True) s M := by
  apply Contract.wp_get
  apply room_step (by exact fun _ => trivial)
  intro hroom
  have hleft : HasRoom (Command.allocPlayerId.apply s) := hroom
  apply room_left hleft (by simp) rfl (by simp)
  intro s₁ hleft₁
  apply room_left hleft₁ (by simp) rfl (by simp)
  intro s₂ hleft₂
  apply room_left hleft₂ (by simp) rfl (by simp)
  intro s₃ hleft₃
  apply room_step (by exact fun _ => hleft₃.allows)
  intro _
  apply room_rest _ hown
  unfold Action.sendGroups
  repeat' with_reducible first
    | apply Action.uses_renewPeer
    | apply Uses.forEach
    | apply Action.uses_bind
    | intro _
  all_goals simp

theorem handleHostConnectRequest_room
    (hown : (.handleHostConnectRequest peerId pd :: callers : Multiset Proc) ≤ M) :
    roomContract.wp (.handleHostConnectRequest peerId pd) callers
      (Action.handleHostConnectRequest peerId pd) (fun _ _ _ => True) s M := by
  apply wp_assertedPeer trivial (room_agrees trivial)
  intro peer _
  apply Contract.wp_get
  split
  · trivial
  split
  · exact room_rest sendConnectHostFail_withoutRoom hown
  apply wp_fetch fun _ => trivial
  intro value _
  cases value with
  | rejected error => exact room_rest sendConnectHostFail_withoutRoom hown
  | accepted name playerData connectData =>
      apply room_bind (by simp) hown
      intro _ s₁ M₁ hown₁
      apply room_bind (by simp) hown₁
      intro _ s₂ M₂ hown₂
      apply room_bind (by simp) hown₂
      intro ic s₃ M₃ hown₃
      apply room_bind (Uses.onlyIf fun _ =>
        Action.uses_bind (by simp) fun _ => by simp) hown₃
      intro _ s₄ M₄ hown₄
      apply wp_renewPeer
      · intro _ _
        split
        · exact admitPlayer_room hown₄
        · exact room_rest sendConnectHostFail_withoutRoom hown₄
      · intro _
        trivial

theorem handleHostConnectOk_room
    (hown : (.handleHostConnectOk peerId pd :: callers : Multiset Proc) ≤ M)
    (hpre : roomContract.pre (.handleHostConnectOk peerId pd) s M) :
    roomContract.wp (.handleHostConnectOk peerId pd) callers
      (Action.handleHostConnectOk peerId pd) (fun _ _ _ => True) s M := by
  apply wp_assertedPeer trivial (room_agrees trivial)
  intro peer hpeer
  apply Contract.wp_get
  split
  · trivial
  rename_i hstate
  have haway : s.state ≠ .hosting :=
    hpre (by simpa [DirectPlay8Peer.actsOn, hpeer] using hstate)
  apply room_away (Uses.onlyIf fun _ => by simp) haway
  intro _ s₁ haway₁
  apply wp_fetch fun _ => trivial
  intro ok _
  iterate 13
    apply room_away (by simp) (by assumption)
    intro _ _ _
  apply Contract.wp_get
  apply room_rest _ hown
  repeat' with_reducible first
    | apply Action.uses_peerAt
    | apply Action.uses_renewPeer
    | apply Action.uses_joinGroups
    | apply Action.uses_connectToPeers
    | apply Action.uses_bind
    | intro _
  all_goals simp

theorem handleConnectPeer_room
    (hown : (.handleConnectPeer peerId pd :: callers : Multiset Proc) ≤ M) :
    roomContract.wp (.handleConnectPeer peerId pd) callers
      (Action.handleConnectPeer peerId pd) (fun _ _ _ => True) s M := by
  apply wp_assertedPeer trivial (room_agrees trivial)
  intro peer _
  apply Contract.wp_get
  split
  · trivial
  split
  · exact room_rest sendConnectPeerFail_withoutRoom hown
  rename_i hconnected
  have haway : s.state ≠ .hosting := by
    rw [not_ne_iff.mp hconnected]
    simp
  apply wp_fetch fun _ => trivial
  intro value _
  cases value with
  | rejected error => exact room_rest sendConnectPeerFail_withoutRoom hown
  | accepted playerId name playerData =>
      apply room_away (by simp) haway
      intro _ s₁ haway₁
      apply room_away (by simp) haway₁
      intro _ s₂ haway₂
      split
      · exact room_rest sendConnectPeerFail_withoutRoom hown
      · apply room_away (by simp) haway₂
        intro _ s₃ haway₃
        apply room_away (by simp) haway₃
        intro _ s₄ _
        apply room_rest _ hown
        unfold Action.sendGroups
        repeat' with_reducible first
          | apply Action.uses_renewPeer
          | apply Uses.forEach
          | apply Action.uses_bind
          | intro _
        all_goals simp

theorem handleConnectPeerOk_room
    (hown : (.handleConnectPeerOk peerId pd :: callers : Multiset Proc) ≤ M)
    (hpre : roomContract.pre (.handleConnectPeerOk peerId pd) s M) :
    roomContract.wp (.handleConnectPeerOk peerId pd) callers
      (Action.handleConnectPeerOk peerId pd) (fun _ _ _ => True) s M := by
  apply wp_assertedPeer trivial (room_agrees trivial)
  intro peer hpeer
  apply Contract.wp_get
  split
  · trivial
  rename_i hstate
  have haway : s.state ≠ .hosting :=
    hpre (by simpa [DirectPlay8Peer.actsOn, hpeer] using hstate)
  apply room_away (Uses.onlyIf fun _ => by simp) haway
  intro _ s₁ haway₁
  apply wp_fetch fun _ => trivial
  intro ok _
  apply room_away (by simp) haway₁
  intro _ s₂ haway₂
  apply room_away (by simp) haway₂
  intro _ s₃ _
  apply room_rest _ hown
  repeat' with_reducible first
    | apply Action.uses_renewPeer
    | apply Action.uses_joinGroups
    | apply Action.uses_bind
    | intro _
  all_goals simp

theorem handleAppdesc_room
    (hown : (.handleAppdesc peerId pd :: callers : Multiset Proc) ≤ M)
    (hpre : roomContract.pre (.handleAppdesc peerId pd) s M) :
    roomContract.wp (.handleAppdesc peerId pd) callers
      (Action.handleAppdesc peerId pd) (fun _ _ _ => True) s M := by
  apply wp_assertedPeer trivial (room_agrees trivial)
  intro peer hpeer
  apply Contract.wp_get
  apply wp_caught
  · rintro ⟨maxPlayers, sessionName, password, applicationData⟩ _
    dsimp only
    split
    · trivial
    rename_i hconnected
    split
    · trivial
    rename_i hhost
    have haway : s.state ≠ .hosting :=
      hpre (by simp [DirectPlay8Peer.actsOn, hpeer, not_ne_iff.mp hconnected,
        not_ne_iff.mp hhost])
    apply room_away (by simp) haway
    intro _ s₁ _
    apply room_rest _ hown
    repeat' with_reducible first
      | apply Action.uses_bind
      | intro _
    all_goals simp
  · intro _ _
    trivial

theorem setDescription_room {p : Proc} {name : WString} {desc : ApplicationDesc}
    {f : Unit -> Action Unit}
    (hsets : RoomGuarded s M (.exec p (.session (.setMaxPlayers desc.maxPlayers))) ->
      s.state = .hosting -> Allows desc.maxPlayers s.connectedPeers)
    (hown : (p :: callers : Multiset Proc) ≤ M)
    (hnext : forall s' M', (p :: callers : Multiset Proc) ≤ M' ->
      roomContract.wp p callers (f ()) (fun _ _ _ => True) s' M') :
    roomContract.wp p callers (Action.setDescription name desc >>= f)
      (fun _ _ _ => True) s M := by
  rw [bind_eq, Contract.wp_bind]
  intro hcond
  refine ⟨room_agrees (hsets hcond), ?_⟩
  apply Contract.wp_mono (room_uses _ hown)
  · intro _ s' M' hown'
    exact hnext s' M' hown'
  · split
    · split <;> simp [Uses]
    · simp [Uses]

theorem setApplicationDesc_room {desc : ApplicationDesc}
    (hown : (.setApplicationDesc desc :: callers : Multiset Proc) ≤ M) :
    roomContract.wp (.setApplicationDesc desc) callers
      (Action.setApplicationDesc desc) (fun _ _ _ => True) s M := by
  apply Contract.wp_get
  split
  · exact room_rest (by simp) hown
  split
  · exact room_rest (by simp) hown
  split
  · exact room_rest (by simp) hown
  rename_i hlimit
  split
  · exact room_rest (by simp) hown
  · apply setDescription_room _ hown
    · intro s' M' hown'
      apply room_rest _ hown'
      repeat' with_reducible first
        | apply Action.uses_sendToConnected
        | apply Action.uses_bind
        | intro _
      all_goals simp
    · intro htable _
      have htable : s.connectedPeers.card ≤ s.playerToPeerId.size := htable
      by_cases hzero : desc.maxPlayers = 0
      · exact Or.inl hzero
      · have hpositive : desc.maxPlayers > 0 := UInt32.pos_iff_ne_zero.mpr hzero
        have hlarger := Nat.not_le.mp fun hle => hlimit ⟨hpositive, hle⟩
        exact Or.inr (by omega)

theorem room_alone {p : Proc} {command : Command} {f : Unit -> Action Unit}
    (halone : s.connectedPeers = ∅) (hfits : p.Fits command)
    (hplain : command.affectsRoom = false)
    (hnext : forall s', s'.connectedPeers = ∅ ->
      roomContract.wp p callers (f ()) (fun _ _ _ => True) s' M) :
    roomContract.wp p callers (Action.perform command >>= f) (fun _ _ _ => True)
      s M := by
  apply room_step fun _ => .of_plain hplain
  intro _
  apply hnext
  rw [Finset.eq_empty_iff_forall_notMem]
  intro player hplayer
  rcases Command.apply_connected hfits hplayer with hbefore | rfl
  · simp [halone] at hbefore
  · simp at hplain

theorem startHosting_room {args : HostArgs} {playerCtx : Context}
    (hown : (.host args :: callers : Multiset Proc) ≤ M) :
    roomContract.wp (.host args) callers (Action.startHosting playerCtx)
      (fun _ _ _ => True) s M := by
  apply room_step (by exact fun _ => trivial)
  intro halone
  have halone₁ : (Command.apply (.setNextPlayerId 1) s).connectedPeers = ∅ := halone
  apply room_alone halone₁ (by simp) rfl
  intro s₂ halone₂
  apply room_alone halone₂ (by simp) rfl
  intro s₃ halone₃
  apply room_alone halone₃ (by simp) rfl
  intro s₄ halone₄
  apply room_alone halone₄ (by simp) rfl
  intro s₅ halone₅
  apply room_step
  · intro _
    show Allows s₅.maxPlayers s₅.connectedPeers
    rw [halone₅]
    exact .alone
  · intro _
    apply room_rest _ hown
    repeat' with_reducible first
      | apply Action.uses_bind
      | intro _
    all_goals simp

theorem hostOn_room {args : HostArgs} {port : UInt16}
    (hown : (.host args :: callers : Multiset Proc) ≤ M) :
    roomContract.wp (.host args) callers (Action.hostOn args port)
      (fun _ _ _ => True) s M := by
  apply room_bind (Action.uses_createHostSockets (by simp) (by simp)) hown
  intro _ s₁ M₁ hown₁
  apply Contract.wp_get
  split
  · exact room_rest (by simp) hown₁
  apply room_bind (Action.uses_selectMainSockets) hown₁
  intro selected s₂ M₂ hown₂
  split
  · exact room_rest (by simp) hown₂
  apply room_bind (Action.uses_openDiscovery (by simp)) hown₂
  intro opened s₃ M₃ hown₃
  split
  · exact room_rest (by simp) hown₃
  · exact startHosting_room hown₃

theorem host_room {args : HostArgs}
    (hown : (.host args :: callers : Multiset Proc) ≤ M) :
    roomContract.wp (.host args) callers (Action.host args) (fun _ _ _ => True)
      s M := by
  apply Contract.wp_get
  split
  case h_6 | h_7 | h_8 | h_9 =>
    rename_i hstate
    have haway : s.state ≠ .hosting := by
      rw [hstate]
      simp
    split
    · exact room_rest (by simp) hown
    apply room_away (by simp) haway
    intro created s₁ haway₁
    apply room_away (by simp) haway₁
    intro _ s₂ haway₂
    split
    · exact room_rest (by simp) hown
    apply room_away (by simp) haway₂
    intro _ s₃ haway₃
    apply setDescription_room (fun _ hhosting => absurd hhosting haway₃) hown
    intro s₄ M₄ hown₄
    split
    · exact room_rest (by simp) hown₄
    · apply room_bind (by simp) hown₄
      intro _ s₅ M₅ hown₅
      exact hostOn_room hown₅
  all_goals exact room_rest (by simp) hown

theorem connect_withoutRoom {args : ConnectArgs} :
    (Action.connect args).Uses withoutRoom := by
  unfold Action.connect Action.connectTo Action.closeMainSocket
  repeat' with_reducible first
    | apply Action.uses_createAutoSockets
    | apply Action.uses_selectMainSockets
    | apply Action.uses_peerConnect
    | apply Uses.onlyIf
    | apply Action.uses_bind
    | intro _
    | split
  all_goals simp

theorem withoutRoom_of_footprint {p : Proc} (hpeers : PeerState.connected ∉ p.assignsPeer)
    (hstates : State.hosting ∉ p.assigns) (hsession : CommandKind.session ∉ p.kinds) :
    p.body.Uses withoutRoom := by
  refine Uses.within p.body_uses ?_ (fun _ _ => trivial) fun _ h => h
  rintro command ⟨hkind, hfits⟩
  unfold Command.affectsRoom
  split
  · exact absurd hfits hstates
  · exact absurd hfits hpeers
  · exact absurd hkind hsession
  · rfl

theorem body_room {p : Proc} (hown : (p :: callers : Multiset Proc) ≤ M)
    (hpre : roomContract.pre p s M) :
    roomContract.wp p callers p.body (fun _ _ _ => True) s M := by
  cases p with
  | connect => exact room_rest connect_withoutRoom hown
  | host => exact host_room hown
  | setApplicationDesc => exact setApplicationDesc_room hown
  | handleHostConnectRequest => exact handleHostConnectRequest_room hown
  | handleHostConnectOk => exact handleHostConnectOk_room hown hpre
  | handleConnectPeer => exact handleConnectPeer_room hown
  | handleConnectPeerOk => exact handleConnectPeerOk_room hown hpre
  | handleAppdesc => exact handleAppdesc_room hown hpre
  | _ => exact room_rest (withoutRoom_of_footprint (by simp) (by simp) (by simp)) hown

end Procedures

theorem roomContract_valid : roomContract.Valid DirectPlay8Peer.Constructed where
  initial := fun _ _ => ⟨trivial, trivial⟩
  start := by
    intro p s M hentry _ _ _ hacts
    cases p <;> first
      | cases hacts
      | cases hentry
  body := fun _ _ _ _ hown hpre =>
    Contract.wp_mono (body_room hown hpre) fun _ _ _ _ =>
      ⟨⟨trivial, trivial⟩, fun _ _ => trivial⟩

/-!
## Runs
-/

section Runs

variable {c c' : Run}

theorem players_allowed {p : Proc} {command : Command} {s : DirectPlay8Peer}
    (hfits : p.Fits command) (hkeeps : KeepsRoom s command)
    (hwithin : WithinLimit s) (hhosting : (command.apply s).state = .hosting) :
    Allows s.maxPlayers (command.apply s).connectedPeers := by
  by_cases hconnects : exists peerId, command = .peer peerId (.setState .connected)
  · rcases hconnects with ⟨peerId, rfl⟩
    have hbefore : s.state = .hosting :=
      (Command.applyPeer_state peerId _).symm.trans hhosting
    refine Allows.subset (hkeeps hbefore) ?_
    intro player hplayer
    rcases Command.apply_connected hfits hplayer with hsame | hconnected
    · exact Finset.mem_insert_of_mem hsame
    · cases hconnected
      exact Finset.mem_insert_self _ _
  · have hplayers : (command.apply s).connectedPeers ⊆ s.connectedPeers := by
      intro player hplayer
      rcases Command.apply_connected hfits hplayer with hsame | hconnected
      · exact hsame
      · exact absurd ⟨player, hconnected⟩ hconnects
    refine Allows.subset ?_ hplayers
    by_cases hstarts : command = .setState .hosting
    · rw [hstarts] at hkeeps
      exact hkeeps
    · apply hwithin
      by_contra haway
      exact Command.state_ne_hosting haway hstarts hhosting

theorem withinLimit_step {p : Proc} {command : Command} {s : DirectPlay8Peer}
    (hfits : p.Fits command) (hkeeps : KeepsRoom s command) (hwithin : WithinLimit s) :
    WithinLimit (command.apply s) := by
  intro hhosting
  by_cases hlimits : exists limit, command = .session (.setMaxPlayers limit)
  · rcases hlimits with ⟨limit, rfl⟩
    exact hkeeps hhosting
  · have hnot : forall limit, command ≠ .session (.setMaxPlayers limit) :=
      fun limit hcommand => hlimits ⟨limit, hcommand⟩
    rw [Command.apply_maxPlayers hnot]
    exact players_allowed hfits hkeeps hwithin hhosting

/--
In every run in which the application lets nobody into a full session, and goes by
no packet of others while it is the host, a host is within its limit.
-/
theorem players_within_limit
    (h : Reaches machine DirectPlay8Peer.Constructed RoomGuarded c) :
    WithinLimit c.state := by
  induction h with
  | initial hs =>
      intro hhosting
      cases hs.state.symm.trans hhosting
  | step hc hstep hroom ih =>
      rcases hstep.state_cases with ⟨p, command, rfl, happlied⟩ | ⟨_, hsame⟩
      · have huses : p.footprint.commands command := hc.exec_uses Proc.body_uses hstep
        rw [happlied]
        exact withinLimit_step huses.2 (roomContract_valid.exec hc hstep hroom).1 ih
      · rw [hsame]
        exact ih

def limitedSession (limit : DWORD) : HostArgs :=
  { plainSession with
    appDesc := { plainSession.appDesc with maxPlayers := limit } }

def choicesFill (limit : DWORD) : List (Choice Answer Proc) :=
  choicesInitialise ++ .start (.host (limitedSession limit)) :: choicesHost.tail ++
    [.answer {}, .resume 0 {}] ++ choicesAccept ++
    choicesReceive 0 (Action.connectHostPacket .zeroed).rawPacket ++
    [.resume 0 {}, .resume 0 {}, .answer { ret := -1, err := wsaEWouldBlock },
      .answer {}]

/-- The lock is free, and a host has a limit and a number of connected peers. -/
def hostsPlayers (limit : DWORD) (count : Nat) (c : Run) : Bool :=
  c.running.isNone && c.fault.isNone && c.state.state == .hosting &&
    c.state.maxPlayers == limit && c.state.connectedPeers.card == count

/-- A host with room for two lets in one. -/
theorem players_within_limit_two :
    exists c : Run, Reaches machine DirectPlay8Peer.Constructed RoomGuarded c ∧
      hostsPlayers 2 1 c = true ∧ WithinLimit c.state := by
  have hrun : (replay RoomGuarded (choicesFill 2)).any (hostsPlayers 2 1) = true := by
    decide +kernel
  rcases replay_reaches hrun with ⟨c, hc, htest⟩
  exact ⟨c, hc, htest, players_within_limit hc⟩

/-- A host that is full with itself lets in another player. -/
theorem not_players_within_limit :
    ¬ forall c : Run, Reaches machine DirectPlay8Peer.Constructed Unrestricted c ->
      c.Free -> WithinLimit c.state := by
  intro hclaim
  have hrun : (replay Unrestricted (choicesFill 1)).any (fun c =>
      decide (c.Free ∧ ¬ WithinLimit c.state)) = true := by
    decide +kernel
  rcases replay_reaches hrun with ⟨c, hc, htest⟩
  have hfull := of_decide_eq_true htest
  exact hfull.2 (hclaim c hc hfull.1)

end Runs

end DirectPlayLite
