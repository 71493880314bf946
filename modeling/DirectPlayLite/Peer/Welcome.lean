import DirectPlayLite.Packet.RoundTrip
import DirectPlayLite.Peer.Admission
import DirectPlayLite.Peer.Players

/-!
# What a host tells a new player

`CONNECT_HOST_OK` lists the other players behind a count that is taken from
another table.  A client finds the fields behind the list where they are if and
only if the two agree.
-/

namespace DirectPlayLite

/-!
## Reading fields one after another
-/

namespace PacketDeserialiser

variable {pd : PacketDeserialiser} {index : Nat}

/-- The fields from an index on are those of a sequence of appends. -/
def Reads (pd : PacketDeserialiser) (index : Nat) : List Append -> Prop
  | [] => True
  | call :: rest => pd.ReadsBack index call ∧ Reads pd (index + 1) rest

theorem reads_append {first second : List Append} :
    pd.Reads index (first ++ second) ↔
      pd.Reads index first ∧ pd.Reads (index + first.length) second := by
  induction first generalizing index with
  | nil => simp [Reads]
  | cons call rest ih =>
      simp only [List.cons_append, Reads, ih, and_assoc, List.length_cons]
      rw [show index + 1 + rest.length = index + (rest.length + 1) by omega]

theorem reads_of_readsBack {calls : List Append}
    (h : forall (i : Nat) (hi : i < calls.length),
      pd.ReadsBack (index + i) calls[i]) : pd.Reads index calls := by
  induction calls generalizing index with
  | nil => trivial
  | cons call rest ih =>
      refine ⟨h 0 (by simp), ih ?_⟩
      intro i hi
      rw [show index + 1 + i = index + (i + 1) by omega]
      exact h (i + 1) (by simpa using hi)

end PacketDeserialiser

namespace Action

variable {pd : PacketDeserialiser} {index : Nat}

theorem readDwords_reads {words : List DWORD}
    (h : pd.Reads index (words.map .dword)) :
    readDwords pd index words.length = .ok words := by
  induction words generalizing index with
  | nil => rfl
  | cons word rest ih =>
      rcases h with ⟨hword, hrest⟩
      simp only [List.length_cons, readDwords, hword.getDword, ih hrest]
      rfl

def entryOf (peer : Peer) : PeerEntry :=
  ⟨peer.playerId, peer.ip, peer.port.toUInt32⟩

theorem readPeers_reads {peers : List Peer}
    (h : pd.Reads index (peers.flatMap fun peer =>
      [.dword peer.playerId, .dword peer.ip, .dword peer.port.toUInt32])) :
    readPeers pd index peers.length = .ok (peers.map entryOf) := by
  induction peers generalizing index with
  | nil => rfl
  | cons peer rest ih =>
      rcases h with ⟨hplayer, hip, hport, hrest⟩
      simp only [List.length_cons, readPeers, hplayer.getDword, hip.getDword, hport.getDword,
        ih hrest]
      rfl

theorem of_bind_ok {α β : Type} {first : Except PacketError α}
    {next : α -> Except PacketError β} {result : β}
    (h : (first >>= next) = .ok result) :
    exists value, first = .ok value ∧ next value = .ok result := by
  cases first with
  | error error => cases h
  | ok value => exact ⟨value, rfl, h⟩

theorem readPeers_length {count : Nat} {entries : List PeerEntry}
    (h : readPeers pd index count = .ok entries) : entries.length = count := by
  induction count generalizing index entries with
  | zero =>
      cases h
      rfl
  | succ count ih =>
      rw [readPeers] at h
      rcases of_bind_ok h with ⟨playerId, _, h⟩
      rcases of_bind_ok h with ⟨ip, _, h⟩
      rcases of_bind_ok h with ⟨port, _, h⟩
      rcases of_bind_ok h with ⟨rest, hrest, h⟩
      cases h
      simp [ih hrest]

/-!
## The packet of a new player
-/

variable {s : DirectPlay8Peer} {peerId : UInt32} {playerId : DPNID}
  {replyData : List UInt8}

def hostOkFor (s : DirectPlay8Peer) (peerId : UInt32) (playerId : DPNID)
    (replyData : List UInt8) : ConnectHostOk where
  instanceGuid := s.instanceGuid
  hostPlayerId := s.hostPlayerId
  localPlayerId := playerId
  otherPeers := (otherPeers s peerId).map entryOf
  replyData := replyData
  hostName := s.localPlayerName
  hostData := s.localPlayerData
  maxPlayers := s.maxPlayers
  sessionName := s.sessionName
  password := s.password
  applicationData := s.applicationData
  groups := memberGroupIds s

/-- The table of the players has an entry for the new player and for each other. -/
def CountsPeers (s : DirectPlay8Peer) (peerId : UInt32) : Prop :=
  (UInt32.ofNat s.playerToPeerId.size - 1).toNat = (otherPeers s peerId).length

instance : Decidable (CountsPeers s peerId) := inferInstanceAs (Decidable (_ = _))

theorem nullOr_reads {absent : List UInt8} (hempty : absent = [])
    (h : pd.ReadsBack index
      (if replyData ≠ [] then .data replyData else .null)) :
    nullOr pd index absent (pd.getData index) = .ok replyData := by
  subst hempty
  split at h
  · simp [nullOr, h.1, h.getData, bind, Except.bind]
  · rename_i hnone
    simp [nullOr, h.1, bind, Except.bind, pure, Except.pure, not_ne_iff.mp hnone]

theorem listed_length (peers : List Peer) :
    (peers.flatMap fun peer => ([.dword peer.playerId, .dword peer.ip,
      .dword peer.port.toUInt32] : List Append)).length = peers.length * 3 := by
  induction peers with
  | nil => rfl
  | cons peer rest ih =>
      rw [List.flatMap_cons, List.length_append, ih, List.length_cons]
      simp only [List.length_cons, List.length_nil]
      omega

theorem decodeConnectHostOk_reads
    (h : pd.Reads 0 (connectHostOkFields s peerId playerId replyData))
    (hcounts : CountsPeers s peerId)
    (hgroups : (memberGroupIds s).length < 2 ^ 32) :
    decodeConnectHostOk pd = .ok (hostOkFor s peerId playerId replyData) := by
  rw [connectHostOkFields, PacketDeserialiser.reads_append,
    PacketDeserialiser.reads_append, PacketDeserialiser.reads_append] at h
  simp only [List.length_append, listed_length, List.length_cons,
    List.length_nil, Nat.zero_add, Nat.reduceAdd] at h
  rcases h with ⟨⟨⟨⟨hguid, hhost, hplayer, hcount, _⟩, hpeers⟩,
    hreply, hname, hdata, hmax, hsession, hpassword, happdata, hgroupCount, _⟩,
    hmembers⟩
  have hcounted : (UInt32.ofNat (memberGroupIds s).length).toNat =
      (memberGroupIds s).length := by
    rw [UInt32.toNat_ofNat', Nat.mod_eq_of_lt hgroups]
  rw [decodeConnectHostOk, hguid.getGuid]
  simp only [hhost.getDword, hplayer.getDword, hcount.getDword]
  rw [CountsPeers] at hcounts
  simp only [bind, Except.bind, hcounts, readPeers_reads hpeers,
    nullOr_reads rfl hreply, hname.getWstring, hdata.getData, hmax.getDword,
    hsession.getWstring, hpassword.getWstring, happdata.getData, hgroupCount.getDword,
    hcounted, readDwords_reads hmembers]
  rfl

theorem decodeConnectHostOk_count {count : DWORD} {ok : ConnectHostOk}
    (hcount : pd.getDword 3 = .ok count) (h : decodeConnectHostOk pd = .ok ok) :
    ok.otherPeers.length = count.toNat := by
  rw [decodeConnectHostOk] at h
  rcases of_bind_ok h with ⟨_, _, h⟩
  rcases of_bind_ok h with ⟨_, _, h⟩
  rcases of_bind_ok h with ⟨_, _, h⟩
  rcases of_bind_ok h with ⟨found, hfound, h⟩
  cases hcount.symm.trans hfound
  rcases of_bind_ok h with ⟨entries, hentries, h⟩
  rcases of_bind_ok h with ⟨_, _, h⟩
  rcases of_bind_ok h with ⟨_, _, h⟩
  rcases of_bind_ok h with ⟨_, _, h⟩
  rcases of_bind_ok h with ⟨_, _, h⟩
  rcases of_bind_ok h with ⟨_, _, h⟩
  rcases of_bind_ok h with ⟨_, _, h⟩
  rcases of_bind_ok h with ⟨_, _, h⟩
  rcases of_bind_ok h with ⟨_, _, h⟩
  rcases of_bind_ok h with ⟨_, _, h⟩
  cases h
  exact readPeers_length hentries

/-- A client that gets the packet reads from it what was meant. -/
def DecodesAs (packet : List UInt8) (ok : ConnectHostOk) : Prop :=
  forall (extra : List UInt8) (beyond : Memory), exists pd,
    PacketDeserialiser.Constructs 32 (bufferOf (packet ++ extra) beyond)
        (packet ++ extra).length (.ok pd) ∧
      pd.packetType = msgidConnectHostOk ∧ decodeConnectHostOk pd = .ok ok

theorem length_le_encodeAll (calls : List Append) :
    calls.length ≤ (Append.encodeAll calls).length := by
  induction calls with
  | nil => simp
  | cons call rest ih =>
      rw [Append.encodeAll_cons, List.length_append, Append.encode_length,
        List.length_cons]
      omega

theorem connectHostOkPacket_decodes
    (h32 : (connectHostOkPacket s peerId playerId replyData).rawPacket.length <
      2 ^ 32) :
    DecodesAs (connectHostOkPacket s peerId playerId replyData).rawPacket
        (hostOkFor s peerId playerId replyData) ↔
      CountsPeers s peerId := by
  have hback := PacketDeserialiser.serialise_readsBack (Nat.le_refl 32)
    msgidConnectHostOk (connectHostOkFields s peerId playerId replyData) h32
  constructor
  · intro hdecodes
    rcases hdecodes [] (fun _ => 0) with ⟨pd, hpd, _, hok⟩
    rcases hback [] (fun _ => 0) with ⟨pd', hpd', _, _, hreads⟩
    cases hpd.unique hpd'
    have hcount := (hreads 3 (by simp [connectHostOkFields])).getDword
    exact (decodeConnectHostOk_count hcount hok).symm.trans
      (by simp [hostOkFor])
  · intro hcounts extra beyond
    rcases hback extra beyond with ⟨pd, hpd, htype, _, hreads⟩
    refine ⟨pd, hpd, htype, decodeConnectHostOk_reads ?_ hcounts ?_⟩
    · exact PacketDeserialiser.reads_of_readsBack (by simpa using hreads)
    · rw [connectHostOkPacket, serialise_rawPacket_length] at h32
      have hle := length_le_encodeAll
        (connectHostOkFields s peerId playerId replyData)
      have hgroups : (memberGroupIds s).length ≤
          (connectHostOkFields s peerId playerId replyData).length := by
        simp [connectHostOkFields]
        omega
      omega

end Action

/-!
## The packet a host builds
-/

section Welcoming

open Monitor Program

def isHostOk (packet : List UInt8) : Bool :=
  LittleEndian.word32 (packet.take 4) == msgidConnectHostOk

theorem isHostOk_success {packet : List UInt8} (h : isHostOk packet = true) :
    isSuccessReply packet = true := by
  simp [isSuccessReply, isSuccessType, eq_of_beq h]

def BuiltFor (s : DirectPlay8Peer) (peerId : UInt32) (packet : List UInt8) :
    Prop :=
  exists (playerId : DPNID) (replyData : List UInt8),
    s.playerToPeerId[playerId]? = some peerId ∧
      packet = (Action.connectHostOkPacket s peerId playerId replyData).rawPacket

/-- How a host tells a peer that it has been let in. -/
def Welcomes (p : Proc) (command : Command) (s : DirectPlay8Peer) : Prop :=
  match p, command with
  | .handleHostConnectRequest peerId _, .peer target (.send _ packet _ _) =>
      isHostOk packet = true -> target = peerId ∧ BuiltFor s peerId packet
  | _, _ => True

def welcomeContract : Contract machine where
  cond := Unrestricted
  inv := fun _ _ => True
  free := fun _ => True
  guar := Welcomes
  rely := fun _ _ _ => True
  pre := fun _ _ _ => True
  post := fun _ _ _ _ => True
  faults := fun _ => True
  rely_refl := fun _ _ => trivial
  rely_trans := fun _ _ _ _ _ _ => trivial

def Command.isSilent : Command -> Bool
  | .peer _ (.send _ packet _ _) => ! isSuccessReply packet
  | _ => true

theorem Command.welcomes_of_isSilent {p : Proc} {command : Command}
    {s : DirectPlay8Peer} (h : command.isSilent = true) :
    Welcomes p command s := by
  unfold Welcomes
  split
  · intro hok
    simp [isSilent, isHostOk_success hok] at h
  · trivial

variable {p : Proc} {callers : List Proc} {s : DirectPlay8Peer}
  {M : Multiset Proc} {peerId : UInt32} {pd : PacketDeserialiser} {α β : Type}

theorem welcome_rest {fp : Footprint Command Proc Fault} {prog : Action α}
    (huses : prog.Uses fp)
    (hwelcomes : forall command s, fp.commands command -> Welcomes p command s)
    (hown : (p :: callers : Multiset Proc) ≤ M) :
    welcomeContract.wp p callers prog
      (fun _ _ M' => (p :: callers : Multiset Proc) ≤ M') s M := by
  refine Contract.wp_mono (Contract.wp_of_uses (I := fun _ _ => True) huses
    (fun _ _ _ _ => ⟨trivial, trivial⟩) (fun _ _ _ _ => trivial) ?_ ?_ ?_
    (fun _ _ => trivial) hown trivial) fun _ _ _ h => h.1
  · intro command s M hcommand _ _ _
    exact ⟨⟨hwelcomes command s hcommand, fun _ _ => trivial⟩, trivial⟩
  · exact fun _ _ _ _ _ _ => ⟨trivial, fun _ _ _ _ => trivial⟩
  · exact fun _ _ _ _ _ _ => ⟨fun _ _ _ _ _ _ _ => trivial, trivial⟩

abbrev withoutAdmissions : Footprint Command Proc Fault :=
  .running fun command => command.isSilent = true

theorem welcome_silent {prog : Action α} (huses : prog.Uses withoutAdmissions)
    (hown : (p :: callers : Multiset Proc) ≤ M) :
    welcomeContract.wp p callers prog
      (fun _ _ M' => (p :: callers : Multiset Proc) ≤ M') s M :=
  welcome_rest huses (fun _ _ h => Command.welcomes_of_isSilent h) hown

theorem welcome_before {prog : Action α} {f : α -> Action β}
    {post : β -> DirectPlay8Peer -> Multiset Proc -> Prop}
    (huses : prog.Uses withoutAdmissions) (hown : (p :: callers : Multiset Proc) ≤ M)
    (hnext : forall value s' M', (p :: callers : Multiset Proc) ≤ M' ->
      welcomeContract.wp p callers (f value) post s' M') :
    welcomeContract.wp p callers (prog >>= f) post s M := by
  rw [bind_eq, Contract.wp_bind]
  exact Contract.wp_mono (welcome_silent huses hown) hnext

theorem welcome_kept {prog : Action α} {f : α -> Action β}
    {post : β -> DirectPlay8Peer -> Multiset Proc -> Prop}
    (huses : prog.Uses (Kept fun command => command.isSilent = true ∧
      command.kind ≠ .mapPlayer ∧ command.kind ≠ .unmapPlayer))
    (hnext : forall value s', s'.playerToPeerId = s.playerToPeerId ->
      welcomeContract.wp p callers (f value) post s' M) :
    welcomeContract.wp p callers (prog >>= f) post s M := by
  rw [bind_eq, Contract.wp_bind]
  refine Contract.wp_mono (wp_kept huses (fun _ => trivial)
    (I := fun s' => s'.playerToPeerId = s.playerToPeerId) ?_ rfl) ?_
  · rintro command s' ⟨hsilent, hmap, hunmap⟩ hentries _
    refine ⟨⟨Command.welcomes_of_isSilent hsilent, fun _ _ => trivial⟩, ?_⟩
    rcases command.apply_players s' with ⟨_, _, rfl⟩ | ⟨_, rfl⟩ | hsame
    · exact absurd rfl hmap
    · exact absurd rfl hunmap
    · exact hsame.trans hentries
  · rintro value s' M' ⟨rfl, hentries⟩
    exact hnext value s' hentries

theorem welcome_exec {command : Command} {f : Unit -> Action β}
    {post : β -> DirectPlay8Peer -> Multiset Proc -> Prop}
    (hwelcomes : Welcomes p command s)
    (hnext : welcomeContract.wp p callers (f ()) post (command.apply s) M) :
    welcomeContract.wp p callers (perform command >>= f) post s M :=
  fun _ => ⟨⟨hwelcomes, fun _ _ => trivial⟩, hnext⟩

theorem admitPlayer_welcomes {ic : Answer}
    (hown : (.handleHostConnectRequest peerId pd :: callers :
      Multiset Proc) ≤ M) :
    welcomeContract.wp (.handleHostConnectRequest peerId pd) callers
      (Action.admitPlayer peerId ic)
      (fun _ _ M' => (.handleHostConnectRequest peerId pd :: callers :
        Multiset Proc) ≤ M') s M := by
  apply Contract.wp_get
  apply welcome_kept (by simp [Command.isSilent])
  intro _ s₁ _
  apply welcome_kept (by simp [Command.isSilent])
  intro _ s₂ _
  apply welcome_kept (by simp [Command.isSilent])
  intro _ s₃ _
  refine welcome_exec (by trivial) ?_
  have hentry : ((Command.mapPlayer s.nextPlayerId peerId).apply
      s₃).playerToPeerId[s.nextPlayerId]? = some peerId := by
    simp [Command.apply]
  apply welcome_kept (by simp [Command.isSilent])
  intro _ s₄ hentries₄
  apply welcome_kept (sendGroups_kept fun packet hsilent => by
    simp [Command.isSilent, hsilent])
  intro _ s₅ hentries₅
  rw [← hentries₅.trans hentries₄] at hentry
  apply Contract.wp_get
  apply welcome_exec
  · exact fun _ => ⟨rfl, s.nextPlayerId, ic.bytes, hentry, rfl⟩
  refine welcome_silent ?_ hown
  repeat' with_reducible first
    | apply Action.uses_renewPeer
    | apply Action.uses_bind
    | intro _
  all_goals simp [Command.isSilent]

theorem handleHostConnectRequest_welcomes
    (hown : (.handleHostConnectRequest peerId pd :: callers :
      Multiset Proc) ≤ M) :
    welcomeContract.wp (.handleHostConnectRequest peerId pd) callers
      (Action.handleHostConnectRequest peerId pd) (fun _ _ _ => True) s M := by
  have hfail : forall error data,
      (Action.sendConnectHostFail peerId error data).Uses withoutAdmissions := by
    intro error data
    unfold Action.sendConnectHostFail
    exact Action.uses_bind (by simp [Command.isSilent]) fun _ => by
      simp [Command.isSilent]
  apply wp_assertedPeer trivial ⟨trivial, fun _ _ => trivial⟩
  intro peer hpeer
  apply Contract.wp_get
  split
  · trivial
  split
  · exact Contract.wp_mono (welcome_silent (hfail _ _) hown)
      fun _ _ _ _ => trivial
  apply wp_fetch (fun _ => trivial)
  intro request hrequest
  split
  · exact Contract.wp_mono (welcome_silent (hfail _ _) hown)
      fun _ _ _ _ => trivial
  apply welcome_before (by simp [Command.isSilent]) hown
  intro _ s₁ M₁ hown₁
  apply welcome_before (by simp [Command.isSilent]) hown₁
  intro _ s₂ M₂ hown₂
  apply welcome_before (by simp [Command.isSilent]) hown₂
  intro ic s₃ M₃ hown₃
  apply welcome_before _ hown₃
  · intro _ s₄ M₄ hown₄
    apply wp_renewPeer
    · intro renewed _
      split
      · exact Contract.wp_mono (admitPlayer_welcomes hown₄)
          fun _ _ _ _ => trivial
      · exact Contract.wp_mono (welcome_silent (hfail _ _) hown₄)
          fun _ _ _ _ => trivial
    · exact fun _ => trivial
  · unfold Action.returnBuffer
    apply Uses.onlyIf
    intro _
    exact Action.uses_bind (by simp [Command.isSilent]) fun _ => by simp

theorem welcomeContract_valid :
    welcomeContract.Valid DirectPlay8Peer.Constructed where
  initial := fun _ _ => ⟨trivial, trivial⟩
  start := fun _ _ _ _ _ _ _ => trivial
  body := by
    intro p callers s M hown _
    have hbody : welcomeContract.wp p callers p.body (fun _ _ _ => True) s M := by
      cases p with
      | handleHostConnectRequest => exact handleHostConnectRequest_welcomes hown
      | _ =>
          refine Contract.wp_mono (welcome_rest (Proc.body_uses _)
            (fun command s _ => ?_) hown) fun _ _ _ _ => trivial
          unfold Welcomes
          split <;> trivial
    exact Contract.wp_mono hbody
      fun _ _ _ _ => ⟨⟨trivial, trivial⟩, fun _ _ => trivial⟩

end Welcoming

/-!
## Runs
-/

section Runs

open Monitor

/-- A new player reads from the packet what the host means to tell it. -/
def ToldAsMeant (s : DirectPlay8Peer) (peerId : UInt32)
    (packet : List UInt8) : Prop :=
  exists (playerId : DPNID) (replyData : List UInt8),
    s.playerToPeerId[playerId]? = some peerId ∧
      packet = (Action.connectHostOkPacket s peerId playerId
        replyData).rawPacket ∧
      Action.DecodesAs packet (Action.hostOkFor s peerId playerId replyData)

theorem ToldAsMeant.counts {s : DirectPlay8Peer} {peerId : UInt32}
    {packet : List UInt8} (h : ToldAsMeant s peerId packet)
    (h32 : packet.length < 2 ^ 32) : Action.CountsPeers s peerId := by
  rcases h with ⟨playerId, replyData, _, rfl, hdecodes⟩
  exact (Action.connectHostOkPacket_decodes h32).mp hdecodes

variable {c c' : Run} {peerId target : UInt32} {pd : PacketDeserialiser}
  {priority : SendPriority} {packet : List UInt8} {handle : DPNHANDLE}
  {callback : SendCallback}

/-- Whom a host lets in is told as meant if and only if the tables agree. -/
theorem player_told_as_meant
    (h : Reaches machine DirectPlay8Peer.Constructed Unrestricted c)
    (hstep : Step machine c (.exec (.handleHostConnectRequest peerId pd)
      (.peer target (.send priority packet handle callback))) c')
    (hok : isHostOk packet = true) (h32 : packet.length < 2 ^ 32) :
    target = peerId ∧
      (ToldAsMeant c.state peerId packet ↔
        Action.CountsPeers c.state peerId) := by
  rcases (welcomeContract_valid.exec h hstep trivial).1 hok with
    ⟨htarget, playerId, replyData, hentry, hpacket⟩
  refine ⟨htarget, fun htold => htold.counts h32, ?_⟩
  intro hcounts
  refine ⟨playerId, replyData, hentry, hpacket, ?_⟩
  subst hpacket
  exact (Action.connectHostOkPacket_decodes h32).mpr hcounts

def StepLabel.welcomes (peerId : UInt32) : StepLabel -> Bool
  | .exec (.handleHostConnectRequest accepted _)
      (.peer _ (.send _ packet _ _)) =>
      accepted == peerId && (isHostOk packet && packet.length < 2 ^ 32)
  | _ => false

theorem StepLabel.welcomes_iff {label : StepLabel}
    (h : StepLabel.welcomes peerId label = true) :
    exists pd target priority packet handle callback,
      label = .exec (.handleHostConnectRequest peerId pd)
          (.peer target (.send priority packet handle callback)) ∧
        isHostOk packet = true ∧ packet.length < 2 ^ 32 := by
  unfold StepLabel.welcomes at h
  split at h
  · rename_i accepted pd target priority packet handle callback
    simp only [Bool.and_eq_true, beq_iff_eq, decide_eq_true_eq] at h
    rcases h with ⟨rfl, hok, h32⟩
    exact ⟨pd, target, priority, packet, handle, callback, rfl, hok, h32⟩
  · cases h

/-- A host lets its second client in, and tells it of the first. -/
theorem player_told_second :
    exists (c c' : Run) (pd : PacketDeserialiser) (target : UInt32)
      (priority : SendPriority) (packet : List UInt8) (handle : DPNHANDLE)
      (callback : SendCallback),
      Reaches machine DirectPlay8Peer.Constructed Unrestricted c ∧
        Step machine c (.exec (.handleHostConnectRequest 1 pd)
          (.peer target (.send priority packet handle callback))) c' ∧
        isHostOk packet = true ∧ target = 1 ∧
        (Action.otherPeers c.state 1).length = 1 ∧
        ToldAsMeant c.state 1 packet := by
  have hrun : (replayTo Unrestricted (StepLabel.welcomes 1) (choicesAdmit ++
      choicesAccept ++ choicesReceive 1 (Action.connectHostPacket .zeroed).rawPacket)
      (.resume 0 {})).any
      (fun q => decide (Action.CountsPeers q.1.state 1 ∧
        (Action.otherPeers q.1.state 1).length = 1)) = true := by
    decide +kernel
  rcases replayTo_step hrun with ⟨c, c', label, hc, hwanted, hstep, htest⟩
  rcases of_decide_eq_true htest with ⟨hcounts, hothers⟩
  rcases StepLabel.welcomes_iff hwanted with
    ⟨pd, target, priority, packet, handle, callback, rfl, hok, h32⟩
  have htold := player_told_as_meant hc hstep hok h32
  exact ⟨c, c', pd, target, priority, packet, handle, callback, hc, hstep, hok,
    htold.1, hothers, htold.2.mpr hcounts⟩

/--
A player that has been shut down keeps its entry; the next client is told of one
player more than the packet lists.
-/
theorem player_not_told_as_meant :
    ¬ forall (c c' : Run) (peerId target : UInt32) (pd : PacketDeserialiser)
      (priority : SendPriority) (packet : List UInt8) (handle : DPNHANDLE)
      (callback : SendCallback),
      Reaches machine DirectPlay8Peer.Constructed Unrestricted c ->
      Step machine c (.exec (.handleHostConnectRequest peerId pd)
        (.peer target (.send priority packet handle callback))) c' ->
      isHostOk packet = true -> ToldAsMeant c.state peerId packet := by
  intro hclaim
  have hrun : (replayTo Unrestricted (StepLabel.welcomes 1) (choicesAdmit ++
      [.start (.destroyPeer 2 []), .resume 0 {}, .start (.ioPeerTriggered 0),
        .answer { ret := -1, err := 10054 }] ++ choicesAccept ++
      choicesReceive 1 (Action.connectHostPacket .zeroed).rawPacket)
      (.resume 0 {})).any
      (fun q => decide (¬ Action.CountsPeers q.1.state 1)) = true := by
    decide +kernel
  rcases replayTo_step hrun with ⟨c, c', label, hc, hwanted, hstep, htest⟩
  rcases StepLabel.welcomes_iff hwanted with
    ⟨pd, target, priority, packet, handle, callback, rfl, hok, h32⟩
  exact of_decide_eq_true htest
    ((hclaim c c' 1 target pd priority packet handle callback hc hstep hok).counts
      h32)

end Runs

end DirectPlayLite
