import DirectPlayLite.Peer.Allocation
import DirectPlayLite.Peer.Host
import DirectPlayLite.Peer.Notices
import DirectPlayLite.Peer.Players
import DirectPlayLite.Peer.Tombstones
import DirectPlayLite.Peer.Welcome

/-!
# What the IDs name

A peer knows players and groups by the IDs it has been told, which are the IDs the host
has given.
-/

namespace DirectPlayLite

open Monitor Program

/-- The local player has been given an ID; before that it is not initialised. -/
def LocalNamed (past : Deeds) : Prop :=
  exists s p playerId, (s, .exec p (.local (.setPlayerId playerId))) ∈ past

def NamesLocal (past : Deeds) (s : DirectPlay8Peer) (id : DPNID) : Prop :=
  LocalNamed past ∧ s.localPlayerId = id

def NamesOther (s : DirectPlay8Peer) (id : DPNID) : Prop := id ∈ s.playerToPeerId

def NamesGroup (s : DirectPlay8Peer) (id : DPNID) : Prop := id ∈ s.groups

/-!
## Honest peers
-/

section Honest

variable (own others groups : DPNID -> Prop)

/--
The IDs in a packet have been given to other players, or to groups; only the host tells a
peer its own.
-/
def TellsTruth : Proc -> Prop
  | .handleHostConnectOk _ pd => forall ok, Action.decodeConnectHostOk pd = .ok ok ->
      others ok.hostPlayerId ∧ own ok.localPlayerId ∧
        forall entry, entry ∈ ok.otherPeers -> others entry.playerId
  | .handleConnectPeer _ pd => forall playerId, pd.getDword 3 = .ok playerId ->
      others playerId
  | .handleGroupCreate _ pd | .handleGroupJoin _ pd | .handleGroupJoined _ pd =>
      forall groupId, pd.getDword 0 = .ok groupId -> groups groupId
  | .invokeAck (.groupAllocated _) _ data =>
      data.length = 4 -> groups (LittleEndian.word32 data)
  | _ => True

def NamesGiven : Command -> Prop
  | .mapPlayer playerId _ | .peer _ (.setPlayerId playerId) => others playerId
  | .local (.setPlayerId playerId) => own playerId
  | .emplaceGroup groupId .. => groups groupId
  | _ => True

/-- The procedures that give IDs of their own. -/
def Proc.givesIds : Proc -> Bool
  | host .. | handleHostConnectRequest .. | createGroup .. => true
  | _ => false

/-- Whoever gives IDs gives those; what all others have been told is the truth. -/
def Truthful : StepLabel -> Prop
  | .exec p command =>
      if p.givesIds then NamesGiven own others groups command
      else TellsTruth own others groups p
  | _ => True

/-- All that has been done was done upon the truth. -/
def ToldTruly (past : Deeds) : Prop :=
  forall step, step ∈ past -> Truthful own others groups step.2

section Deciding

variable [DecidablePred own] [DecidablePred others] [DecidablePred groups]

instance decidableOfRead {ε α : Type} {read : Except ε α} {P : α -> Prop} [DecidablePred P] :
    Decidable (forall value, read = .ok value -> P value) :=
  match read with
  | .ok value => decidable_of_iff (P value) (by simp)
  | .error _ => .isTrue (by simp)

instance {p : Proc} : Decidable (TellsTruth own others groups p) := by
  apply Proc.casesOn (motive := fun p => Decidable (TellsTruth own others groups p))
  case' invokeAck =>
    intro callback result data
    apply AckCallback.casesOn (motive := fun callback =>
      Decidable (TellsTruth own others groups (.invokeAck callback result data)))
  all_goals
    intros
    dsimp only [TellsTruth]
    infer_instance

instance {command : Command} : Decidable (NamesGiven own others groups command) := by
  unfold NamesGiven
  split <;> infer_instance

instance {label : StepLabel} : Decidable (Truthful own others groups label) := by
  apply Label.casesOn (motive := fun label => Decidable (Truthful own others groups label))
  all_goals
    intros
    dsimp only [Truthful]
    infer_instance

instance {past : Deeds} : Decidable (ToldTruly own others groups past) :=
  inferInstanceAs (Decidable (forall step, step ∈ past -> _))

end Deciding

structure KnowsGiven (past : Deeds) (s : DirectPlay8Peer) : Prop where
  entries : forall playerId : DPNID, playerId ∈ s.playerToPeerId ->
    playerId = 0 ∨ others playerId
  peers : forall (peerId : UInt32) (peer : Peer), s.peers[peerId]? = some peer ->
    peer.playerId = 0 ∨ others peer.playerId
  localPlayer : LocalNamed past -> own s.localPlayerId
  groups : forall groupId : DPNID, groupId ∈ s.groups -> groups groupId

/-!
## Where names come from
-/

def NamesKnown (command : Command) (s : DirectPlay8Peer) : Prop :=
  match command with
  | .mapPlayer playerId _ => others playerId ∨
      exists (peerId : UInt32) (peer : Peer),
        s.peers[peerId]? = some peer ∧ peer.playerId = playerId
  | .peer _ (.setPlayerId playerId) => others playerId
  | .local (.setPlayerId playerId) => own playerId
  | .insertPeer _ _ _ _ _ playerId => playerId = 0 ∨ others playerId
  | .emplaceGroup groupId .. => groups groupId
  | _ => True

def NamesTold (p : Proc) (command : Command) (s : DirectPlay8Peer) : Prop :=
  p.givesIds = false -> TellsTruth own others groups p ->
    NamesKnown own others groups command s

@[simp] def Command.isNameless : Command -> Bool
  | .mapPlayer .. | .peer _ (.setPlayerId _) | .local (.setPlayerId _)
  | .insertPeer .. | .emplaceGroup .. => false
  | _ => true

abbrev withoutNames : Footprint Command Proc Fault :=
  .running fun command => command.isNameless = true

variable {own others groups} {p : Proc} {callers : List Proc} {s : DirectPlay8Peer}
  {M : Multiset Proc} {command : Command} {peerId : UInt32} {pd : PacketDeserialiser}
  {α β : Type}

theorem namesTold_nameless (h : withoutNames.commands command) :
    NamesTold own others groups p command s := by
  intro _ _
  unfold NamesKnown
  split
  · cases h
  · cases h
  · cases h
  · cases h
  · cases h
  · trivial

abbrev namingContract (own others groups : DPNID -> Prop) : Contract machine :=
  Contract.watching (NamesTold own others groups)

theorem naming_nameless {prog : Action α} (huses : prog.Uses withoutNames)
    (hown : (p :: callers : Multiset Proc) ≤ M) :
    (namingContract own others groups).wp p callers prog
      (fun _ _ M' => (p :: callers : Multiset Proc) ≤ M') s M :=
  Contract.watching_uses huses (fun _ _ h => namesTold_nameless h) hown

theorem naming_exec {f : Unit -> Action β}
    {post : β -> DirectPlay8Peer -> Multiset Proc -> Prop}
    (hnames : NamesTold own others groups p command s)
    (hnext : (namingContract own others groups).wp p callers (f ()) post
      (command.apply s) M) :
    (namingContract own others groups).wp p callers (perform command >>= f) post s M :=
  fun _ => ⟨Contract.watching_agrees hnames, hnext⟩

theorem naming_rest {prog : Action Unit} (huses : prog.Uses withoutNames)
    (hown : (p :: callers : Multiset Proc) ≤ M) :
    (namingContract own others groups).wp p callers prog (fun _ _ _ => True) s M :=
  Contract.wp_mono (naming_nameless huses hown) fun _ _ _ _ => trivial

theorem naming_emplace {groupId : DPNID} {name : WString} {data : List UInt8}
    {ctx : Context} {f : Unit -> Action β}
    {post : β -> DirectPlay8Peer -> Multiset Proc -> Prop}
    (hgroup : TellsTruth own others groups p -> groups groupId)
    (hnext : (namingContract own others groups).wp p callers (f ()) post
      ((Command.emplaceGroup groupId name data ctx).apply s) M) :
    (namingContract own others groups).wp p callers
      (perform (.emplaceGroup groupId name data ctx) >>= f) post s M :=
  naming_exec (fun _ htruth => hgroup htruth) hnext

theorem handleGroupCreate_names
    (hown : (.handleGroupCreate peerId pd :: callers : Multiset Proc) ≤ M) :
    (namingContract own others groups).wp (.handleGroupCreate peerId pd) callers
      (Action.handleGroupCreate peerId pd) (fun _ _ _ => True) s M := by
  apply wp_assertedPeer trivial (Contract.watching_agrees (fun _ _ => trivial))
  intro peer _
  apply Contract.wp_get
  apply wp_caught
  · intro value hvalue
    rcases Action.of_bind_ok hvalue with ⟨groupId, hgroup, hrest⟩
    rcases Action.of_bind_ok hrest with ⟨name, _, hrest⟩
    rcases Action.of_bind_ok hrest with ⟨data, _, hrest⟩
    cases hrest
    dsimp only
    split
    · trivial
    split
    · trivial
    split
    · trivial
    refine naming_emplace (fun htruth => ?_) ?_
    · exact htruth groupId hgroup
    apply naming_rest _ hown
    exact Action.uses_bind (by simp) fun _ => by simp
  · exact fun _ _ => trivial

theorem handleGroupJoin_names
    (hown : (.handleGroupJoin peerId pd :: callers : Multiset Proc) ≤ M) :
    (namingContract own others groups).wp (.handleGroupJoin peerId pd) callers
      (Action.handleGroupJoin peerId pd) (fun _ _ _ => True) s M := by
  apply wp_assertedPeer trivial (Contract.watching_agrees (fun _ _ => trivial))
  intro peer _
  apply Contract.wp_get
  apply wp_caught
  · intro value hvalue
    rcases Action.of_bind_ok hvalue with ⟨groupId, hgroup, hrest⟩
    rcases Action.of_bind_ok hrest with ⟨ackId, _, hrest⟩
    rcases Action.of_bind_ok hrest with ⟨name, _, hrest⟩
    rcases Action.of_bind_ok hrest with ⟨data, _, hrest⟩
    cases hrest
    dsimp only
    split
    · trivial
    split
    · exact naming_rest (by simp [Action.sendAck]) hown
    split
    · refine naming_emplace (fun htruth => ?_) ?_
      · exact htruth groupId hgroup
      apply naming_rest _ hown
      repeat' with_reducible first
        | apply Action.uses_peerAt
        | apply Action.uses_bind
        | intro _
        | split
      all_goals simp [Action.sendAck]
    · apply naming_rest _ hown
      repeat' with_reducible first
        | apply Action.uses_sendToConnected
        | apply Action.uses_bind
        | intro _
        | split
      all_goals simp [Action.sendAck]
  · exact fun _ _ => trivial

theorem handleGroupJoined_names
    (hown : (.handleGroupJoined peerId pd :: callers : Multiset Proc) ≤ M) :
    (namingContract own others groups).wp (.handleGroupJoined peerId pd) callers
      (Action.handleGroupJoined peerId pd) (fun _ _ _ => True) s M := by
  apply wp_assertedPeer trivial (Contract.watching_agrees (fun _ _ => trivial))
  intro peer _
  apply Contract.wp_get
  apply wp_caught
  · intro value hvalue
    rcases Action.of_bind_ok hvalue with ⟨groupId, hgroup, hrest⟩
    rcases Action.of_bind_ok hrest with ⟨name, _, hrest⟩
    rcases Action.of_bind_ok hrest with ⟨data, _, hrest⟩
    cases hrest
    dsimp only
    split
    · trivial
    split
    · trivial
    split
    · refine naming_emplace (fun htruth => ?_) ?_
      · exact htruth groupId hgroup
      apply naming_rest _ hown
      repeat' with_reducible first
        | apply Action.uses_bind
        | intro _
        | split
      all_goals simp
    · apply naming_rest _ hown
      repeat' with_reducible first
        | apply Action.uses_bind
        | intro _
        | split
      all_goals simp
  · exact fun _ _ => trivial

theorem invokeAck_names {callback : AckCallback} {result : HRESULT}
    {data : List UInt8}
    (hown : (.invokeAck callback result data :: callers : Multiset Proc) ≤ M) :
    (namingContract own others groups).wp (.invokeAck callback result data) callers
      (Action.invokeAck callback result data) (fun _ _ _ => True) s M := by
  have hcomplete : forall completion result',
      (Action.complete completion result').Uses withoutNames :=
    fun _ _ => Action.uses_complete (by simp) (by simp)
      trivial trivial
  unfold Action.invokeAck
  split
  · exact naming_rest (hcomplete _ _) hown
  · rename_i request
    split
    · rename_i hread
      refine naming_emplace (fun htruth => ?_) ?_
      · exact htruth hread.2
      apply naming_rest _ hown
      exact Action.uses_bind
        (Action.uses_notifyConnected (by simp) (by simp)
          (by simp))
        fun _ => by simp
    · exact naming_rest (hcomplete _ _) hown

theorem decodeConnectPeer_playerId {playerId : DPNID} {name : WString}
    {playerData : List UInt8}
    (h : Action.decodeConnectPeer s pd = .ok (.accepted playerId name playerData)) :
    pd.getDword 3 = .ok playerId := by
  unfold Action.decodeConnectPeer at h
  rcases Action.of_bind_ok h with ⟨reqInstance, _, h⟩
  split at h
  · cases h
  rcases Action.of_bind_ok h with ⟨reqApplication, _, h⟩
  split at h
  · cases h
  rcases Action.of_bind_ok h with ⟨reqPassword, _, h⟩
  split at h
  · cases h
  rcases Action.of_bind_ok h with ⟨readId, hread, h⟩
  rcases Action.of_bind_ok h with ⟨_, _, h⟩
  rcases Action.of_bind_ok h with ⟨_, _, h⟩
  cases h
  exact hread

theorem handleConnectPeer_names
    (hown : (.handleConnectPeer peerId pd :: callers : Multiset Proc) ≤ M) :
    (namingContract own others groups).wp (.handleConnectPeer peerId pd) callers
      (Action.handleConnectPeer peerId pd) (fun _ _ _ => True) s M := by
  have hfail : forall error, (Action.sendConnectPeerFail peerId error).Uses
      withoutNames := by
    intro error
    exact Action.uses_bind (by simp) fun _ => by simp
  apply wp_assertedPeer trivial (Contract.watching_agrees (fun _ _ => trivial))
  intro peer _
  apply Contract.wp_get
  split
  · trivial
  split
  · exact naming_rest (hfail _) hown
  apply wp_fetch (fun _ => trivial)
  intro request hrequest
  split
  · exact naming_rest (hfail _) hown
  · rename_i playerId name playerData
    have hread : pd.getDword 3 = .ok playerId := decodeConnectPeer_playerId hrequest
    refine naming_exec (fun _ htruth => htruth playerId hread) ?_
    refine naming_exec (namesTold_nameless rfl) ?_
    split
    · exact naming_rest (hfail _) hown
    refine naming_exec (fun _ htruth => Or.inl (htruth playerId hread)) ?_
    apply naming_rest _ hown
    unfold Action.sendGroups
    repeat' with_reducible first
      | apply Action.uses_renewPeer
      | apply Uses.forEach
      | apply Action.uses_bind
      | intro _
      | split
    all_goals simp

theorem naming_assert {assertion : Assertion} {condition : Prop} [Decidable condition]
    {f : Unit -> Action β} {post : β -> DirectPlay8Peer -> Multiset Proc -> Prop}
    (hnext : forall s', s'.peers = s.peers ->
      (namingContract own others groups).wp p callers (f ()) post s' M) :
    (namingContract own others groups).wp p callers
      (Action.assertThat assertion condition >>= f) post s M := by
  have huses : (Action.assertThat assertion condition).Uses
      (Kept fun command => exists event, command = .log event) :=
    Action.uses_assertThat ⟨_, rfl⟩
  rw [bind_eq, Contract.wp_bind]
  refine Contract.wp_mono (wp_kept huses (fun _ => trivial)
    (I := fun s' => s'.peers = s.peers) ?_ rfl) ?_
  · intro command s' hcommand hpeers _
    rcases hcommand with ⟨event, rfl⟩
    exact ⟨Contract.watching_agrees (namesTold_nameless rfl), hpeers⟩
  · intro _ s' M' hkept
    rw [hkept.1]
    exact hnext s' hkept.2

theorem handleConnectPeerOk_names
    (hown : (.handleConnectPeerOk peerId pd :: callers : Multiset Proc) ≤ M) :
    (namingContract own others groups).wp (.handleConnectPeerOk peerId pd) callers
      (Action.handleConnectPeerOk peerId pd) (fun _ _ _ => True) s M := by
  apply wp_assertedPeer trivial (Contract.watching_agrees (fun _ _ => trivial))
  intro peer hpeer
  apply Contract.wp_get
  split
  · trivial
  apply naming_assert
  intro s₁ hsame
  rw [← hsame] at hpeer
  apply wp_fetch (fun _ => trivial)
  intro ok _
  refine naming_exec (namesTold_nameless rfl) ?_
  refine naming_exec (namesTold_nameless rfl) ?_
  have hlater := DirectPlay8Peer.peer_changed (.setState .connected)
    (DirectPlay8Peer.peer_changed (.setPlayerInfo ok.name ok.playerData) hpeer)
  refine naming_exec (fun _ _ => Or.inr ⟨peerId, _, hlater, rfl⟩) ?_
  apply naming_rest _ hown
  repeat' with_reducible first
    | apply Action.uses_renewPeer
    | apply Action.uses_joinGroups
    | apply Action.uses_bind
    | intro _
  all_goals simp

theorem uses_listed {fp : Footprint Command Proc Fault} {entries : List Action.PeerEntry}
    (halloc : fp.commands .allocPeerId)
    (hinsert : forall entry, entry ∈ entries -> forall peerId sock, fp.commands
      (.insertPeer peerId .connectingPeer sock entry.ip entry.port.toUInt16
        entry.playerId))
    (hfault : fp.faults .nullDereference)
    (hcalls : forall callee, fp.calls callee) :
    (Action.connectToPeers entries).Uses fp := by
  induction entries with
  | nil => exact Action.uses_invoke.mpr (hcalls _)
  | cons entry rest ih =>
      unfold Action.connectToPeers
      apply Action.uses_bind
      · exact Action.uses_peerConnect halloc (hinsert entry List.mem_cons_self) hfault
      · intro started
        split
        · exact ih fun other hother => hinsert other (List.mem_cons_of_mem _ hother)
        · exact Action.uses_invoke.mpr (hcalls _)

abbrev namingListed (entries : List Action.PeerEntry) : Footprint Command Proc Fault :=
  .running fun command => command.isNameless = true ∨
    exists peerId state sock ip port, exists entry, entry ∈ entries ∧
      command = .insertPeer peerId state sock ip port entry.playerId

theorem handleHostConnectOk_names
    (hown : (.handleHostConnectOk peerId pd :: callers : Multiset Proc) ≤ M) :
    (namingContract own others groups).wp (.handleHostConnectOk peerId pd) callers
      (Action.handleHostConnectOk peerId pd) (fun _ _ _ => True) s M := by
  apply wp_assertedPeer trivial (Contract.watching_agrees (fun _ _ => trivial))
  intro peer _
  apply Contract.wp_get
  split
  · trivial
  apply naming_assert
  intro s₁ _
  apply wp_fetch (fun _ => trivial)
  intro ok hok
  refine naming_exec (namesTold_nameless rfl) ?_
  refine naming_exec (namesTold_nameless rfl) ?_
  refine naming_exec (fun _ htruth => (htruth ok hok).1) ?_
  refine naming_exec (fun _ htruth => Or.inl (htruth ok hok).1) ?_
  refine naming_exec (fun _ htruth => (htruth ok hok).2.1) ?_
  have hlist : forall command s, (namingListed ok.otherPeers).commands command ->
      NamesTold own others groups (.handleHostConnectOk peerId pd) command s := by
    intro command s hcommand
    rcases hcommand with hnameless | ⟨_, _, _, _, _, entry, hentry, rfl⟩
    · exact namesTold_nameless hnameless
    · exact fun _ htruth => Or.inr ((htruth ok hok).2.2 entry hentry)
  refine Contract.wp_mono (Contract.watching_uses ?_ hlist hown) fun _ _ _ _ => trivial
  have hconnect : (Action.connectToPeers ok.otherPeers).Uses
      (namingListed ok.otherPeers) := by
    refine uses_listed (Or.inl rfl) ?_ trivial fun _ => trivial
    intro entry hentry peerId sock
    exact Or.inr ⟨peerId, _, sock, _, _, entry, hentry, rfl⟩
  repeat' with_reducible first
    | apply Action.uses_peerAt
    | apply Action.uses_renewPeer
    | apply Action.uses_joinGroups
    | apply Action.uses_bind
    | intro _
  all_goals simp [hconnect]

theorem Command.isNameless_of_kind
    (hkind : command.kind ∉ [CommandKind.mapPlayer, .peerPlayerId, .localPlayerId,
      .insertPeer])
    (hnotice : command.notice ≠ some .emplaceGroup) : command.isNameless = true := by
  unfold isNameless
  split
  · simp at hkind
  · simp at hkind
  · simp at hkind
  · simp at hkind
  · simp at hnotice
  · rfl

theorem body_nameless
    (hkinds : forall kind, kind ∈ p.kinds ->
      kind ∉ [CommandKind.mapPlayer, .peerPlayerId, .localPlayerId, .insertPeer])
    (hnotices : Notice.emplaceGroup ∉ p.notices) : p.body.Uses withoutNames := by
  refine Uses.mono (Uses.meet p.body_uses p.body_keepsNotices) ?_ (fun _ => trivial)
    (fun _ _ => trivial) (fun _ _ => trivial) (fun _ _ => trivial)
  intro command hcommand
  apply Command.isNameless_of_kind
  · exact hkinds _ hcommand.1.1
  · intro hnotice
    exact hnotices (hcommand.2 _ hnotice)

abbrev namingNobody : Footprint Command Proc Fault :=
  .running fun command => command.isNameless = true ∨
    exists peerId state sock ip port,
      command = .insertPeer peerId state sock ip port 0

theorem namesTold_unnamed (h : namingNobody.commands command) :
    NamesTold own others groups p command s := by
  rcases h with hnameless | ⟨_, _, _, _, _, rfl⟩
  · exact namesTold_nameless hnameless
  · exact fun _ _ => Or.inl rfl

theorem connect_unnamed (args : ConnectArgs) :
    (Proc.connect args).body.Uses namingNobody := by
  unfold Proc.body
  simp only [Action.connect, Action.connectTo, Action.closeMainSocket]
  repeat' with_reducible first
    | apply Action.uses_createAutoSockets
    | apply Action.uses_selectMainSockets
    | apply Action.uses_peerConnect
    | apply Uses.onlyIf
    | apply Action.uses_bind
    | intro _
    | split
  all_goals simp [namingNobody]

theorem peerAccept_unnamed : Proc.peerAccept.body.Uses namingNobody := by
  unfold Proc.body
  simp only [Action.peerAccept]
  repeat' with_reducible first
    | apply Action.uses_addPeer
    | apply Action.uses_bind
    | intro _
    | split
  all_goals simp [namingNobody]

theorem naming_valid :
    (namingContract own others groups).Valid DirectPlay8Peer.Constructed := by
  apply Contract.watching_valid
  intro p callers s M hown
  have hunnamed : p.body.Uses namingNobody ->
      (namingContract own others groups).wp p callers p.body (fun _ _ _ => True) s M := by
    intro huses
    refine Contract.wp_mono (Contract.watching_uses huses ?_ hown) fun _ _ _ _ => trivial
    exact fun _ _ hcommand => namesTold_unnamed hcommand
  have hnameless : p.body.Uses withoutNames ->
      (namingContract own others groups).wp p callers p.body (fun _ _ _ => True) s M :=
    fun huses => naming_rest huses hown
  have hgives : p.givesIds = true ->
      (namingContract own others groups).wp p callers p.body (fun _ _ _ => True) s M := by
    intro hgive
    refine Contract.wp_mono (Contract.watching_uses p.body_uses ?_ hown)
      fun _ _ _ _ => trivial
    intro command s' _ hnot
    rw [hgive] at hnot
    cases hnot
  cases p with
  | connect args => exact hunnamed (connect_unnamed args)
  | peerAccept => exact hunnamed peerAccept_unnamed
  | host | handleHostConnectRequest | createGroup => exact hgives rfl
  | invokeAck callback result data => exact invokeAck_names hown
  | handleHostConnectOk peerId pd => exact handleHostConnectOk_names hown
  | handleConnectPeer peerId pd => exact handleConnectPeer_names hown
  | handleConnectPeerOk peerId pd => exact handleConnectPeerOk_names hown
  | handleGroupCreate peerId pd => exact handleGroupCreate_names hown
  | handleGroupJoin peerId pd => exact handleGroupJoin_names hown
  | handleGroupJoined peerId pd => exact handleGroupJoined_names hown
  | _ => exact hnameless (body_nameless (by simp) (by simp))

/-!
## What is known
-/

theorem LocalNamed.cons_cases {past : Deeds} {label : StepLabel}
    (h : LocalNamed ((s, label) :: past)) :
    (exists p playerId, label = .exec p (.local (.setPlayerId playerId))) ∨
      LocalNamed past := by
  rcases h with ⟨s', p, playerId, hmem⟩
  rcases List.mem_cons.mp hmem with heq | hrest
  · exact Or.inl ⟨p, playerId, (congrArg Prod.snd heq).symm⟩
  · exact Or.inr ⟨s', p, playerId, hrest⟩

theorem KnowsGiven.exec {past : Deeds} (h : KnowsGiven own others groups past s)
    (hnames : NamesKnown own others groups command s) :
    KnowsGiven own others groups ((s, .exec p command) :: past) (command.apply s) where
  entries := by
    intro playerId hmem
    rcases command.apply_players s with ⟨mapped, peerId, rfl⟩ | ⟨erased, rfl⟩ | hsame
    · rcases Std.ExtTreeMap.mem_insert.mp hmem with heq | hbefore
      · have heq' : mapped = playerId := by simpa using heq
        rw [← heq']
        rcases hnames with hgiven | ⟨peerId, peer, hpeer, hid⟩
        · exact Or.inr hgiven
        · rw [← hid]
          exact h.peers peerId peer hpeer
      · exact h.entries playerId hbefore
    · exact h.entries playerId (Std.ExtTreeMap.mem_erase.mp hmem).2
    · rw [hsame] at hmem
      exact h.entries playerId hmem
  peers := by
    intro peerId peer hpeer
    rcases Command.peer_cases hpeer with hsame | ⟨change, before, rfl, hbefore, rfl⟩ |
      ⟨state, sock, ip, port, playerId, rfl, _, rfl⟩
    · exact h.peers peerId peer hsame
    · rcases change.apply_playerId s.nextAddr before with ⟨playerId, rfl⟩ | hkept
      · exact Or.inr hnames
      · rw [hkept]
        exact h.peers peerId before hbefore
    · exact hnames
  localPlayer := by
    intro hnamed
    rcases hnamed.cons_cases with ⟨q, playerId, hlabel⟩ | hbefore
    · cases hlabel
      exact hnames
    · rcases command.apply_localPlayerId s with ⟨playerId, rfl⟩ | hsame
      · exact hnames
      · rw [hsame]
        exact h.localPlayer hbefore
  groups := by
    intro groupId hmem
    rcases Command.mem_groups_after hmem with hbefore | ⟨name, data, ctx, rfl⟩
    · exact h.groups groupId hbefore
    · exact hnames

theorem namesKnown_of_given (hkind : command.kind ≠ .insertPeer)
    (h : NamesGiven own others groups command) : NamesKnown own others groups command s := by
  cases command with
  | mapPlayer => exact Or.inl h
  | insertPeer => exact absurd rfl hkind
  | emplaceGroup => exact h
  | peer peerId change =>
      cases change with
      | setPlayerId => exact h
      | _ => trivial
  | «local» change =>
      cases change with
      | setPlayerId => exact h
      | _ => trivial
  | _ => trivial

theorem constructed_knows (hs : s.Constructed) : KnowsGiven own others groups [] s where
  entries := by
    intro playerId hmem
    rw [hs.playerToPeerId] at hmem
    cases hmem
  peers := by
    intro peerId peer hpeer
    rw [hs.peers] at hpeer
    cases hpeer
  localPlayer := by
    rintro ⟨_, _, _, hmem⟩
    cases hmem
  groups := by
    intro groupId hmem
    rw [hs.groups] at hmem
    cases hmem

theorem KnowsGiven.other {past : Deeds} {label : StepLabel}
    (h : KnowsGiven own others groups past s)
    (hlabel : forall p command, label ≠ .exec p command) :
    KnowsGiven own others groups ((s, label) :: past) s where
  entries := h.entries
  peers := h.peers
  localPlayer := by
    intro hnamed
    rcases hnamed.cons_cases with ⟨q, playerId, heq⟩ | hbefore
    · exact absurd heq (hlabel q _)
    · exact h.localPlayer hbefore
  groups := h.groups

theorem ToldTruly.before {past : Deeds} {step : DirectPlay8Peer × StepLabel}
    (h : ToldTruly own others groups (step :: past)) : ToldTruly own others groups past :=
  fun earlier hmem => h earlier (List.mem_cons_of_mem _ hmem)

theorem toldTruly_knows {past : Deeds} {c : Run}
    (h : Traced machine DirectPlay8Peer.Constructed past c) :
    ToldTruly own others groups past -> KnowsGiven own others groups past c.state := by
  apply Traced.always (I := fun s past => ToldTruly own others groups past ->
    KnowsGiven own others groups past s) _ _ _ h
  · exact fun s hs _ => constructed_knows hs
  · intro past c c' p command htraced hstep hknows htold
    apply (hknows htold.before).exec
    have htruth := htold (c.state, .exec p command) List.mem_cons_self
    dsimp only [Truthful] at htruth
    cases hgives : p.givesIds with
    | true =>
        rw [hgives] at htruth
        apply namesKnown_of_given _ htruth
        intro hkind
        have huses : p.footprint.commands command :=
          htraced.reaches.exec_uses Proc.body_uses hstep
        have hkinds := huses.1
        rw [hkind] at hkinds
        cases p with
        | host => simp at hkinds
        | handleHostConnectRequest => simp at hkinds
        | createGroup => simp at hkinds
        | _ => cases hgives
    | false =>
        rw [hgives] at htruth
        exact (naming_valid.exec htraced.reaches hstep trivial).1 hgives htruth
  · exact fun s past label hlabel hknows htold => (hknows htold.before).other hlabel

end Honest

/-!
## The IDs of a session
-/

/--
The IDs a host has given to players and to groups are all different and never
`DPNID_ALL_PLAYERS_GROUP`, so that an ID names one of them at most at a peer that is told
of no others.
-/
theorem ids_name_one {past past' : Deeds} {c c' : Run} {own : DPNID}
    (h : Traced machine DirectPlay8Peer.Constructed past c) (hhosts : Hosts past)
    (hfew : allocations past < 2 ^ 32 - 1)
    (hpeer : Traced machine DirectPlay8Peer.Constructed past' c')
    (hown : own ∈ sinceHost playerGiven past)
    (htold : ToldTruly (· = own) (fun id => id ∈ sinceHost playerGiven past ∧ id ≠ own)
      (· ∈ sinceHost groupGiven past) past') :
    (sinceHost playerGiven past ++ sinceHost groupGiven past).Nodup ∧
      dpnidAllPlayersGroup ∉ sinceHost playerGiven past ++ sinceHost groupGiven past ∧
      forall id, ¬ (NamesLocal past' c'.state id ∧ NamesOther c'.state id) ∧
        ¬ (NamesLocal past' c'.state id ∧ NamesGroup c'.state id) ∧
        ¬ (NamesOther c'.state id ∧ NamesGroup c'.state id) := by
  rcases ids_distinct h hhosts hfew with ⟨hnodup, hzero⟩
  refine ⟨hnodup, hzero, ?_⟩
  have hknows := toldTruly_knows hpeer htold
  have hapart : forall id, id ∈ sinceHost playerGiven past ->
      id ∉ sinceHost groupGiven past :=
    fun id hplayer hgroup => List.disjoint_of_nodup_append hnodup hplayer hgroup
  intro id
  refine ⟨?_, ?_, ?_⟩
  · rintro ⟨⟨hnamed, rfl⟩, hentry⟩
    have hlocal : c'.state.localPlayerId = own := hknows.localPlayer hnamed
    rcases hknows.entries _ hentry with hnone | hother
    · rw [← hlocal, hnone] at hown
      exact hzero (List.mem_append_left _ hown)
    · exact hother.2 hlocal
  · rintro ⟨⟨hnamed, rfl⟩, hgroup⟩
    rw [← show c'.state.localPlayerId = own from hknows.localPlayer hnamed] at hown
    exact hapart _ hown (hknows.groups _ hgroup)
  · rintro ⟨hentry, hgroup⟩
    have hgiven : id ∈ sinceHost groupGiven past := hknows.groups id hgroup
    rcases hknows.entries id hentry with rfl | hother
    · exact hzero (List.mem_append_right _ hgiven)
    · exact hapart id hother.1 hgiven

def choicesGive : List (Choice Answer Proc) :=
  choicesAdmit ++
    [.start (.createGroup
      (some { infoFlags := 0, name := [], data := [], groupFlags := 0 })
      contextNull contextNull 0)]

def StepLabel.setsFirstId : StepLabel -> Bool
  | .exec _ (.setNextPlayerId 1) => true
  | _ => false

/-- The host has given three IDs, and the client has been told of two. -/
theorem ids_name_one_three :
    exists (past past' : Deeds) (c c' : Run),
      Traced machine DirectPlay8Peer.Constructed past c ∧
        Traced machine DirectPlay8Peer.Constructed past' c' ∧
        sinceHost playerGiven past = [2, 1] ∧ sinceHost groupGiven past = [3] ∧
        NamesOther c'.state 1 ∧ ¬ NamesLocal past' c'.state 1 ∧
        ¬ NamesGroup c'.state 1 := by
  have hhost : (retell machine 400 choicesGive [] (Config.initial .zeroed)).any
      (fun q => decide (sinceHost playerGiven q.1 = [2, 1] ∧
        sinceHost groupGiven q.1 = [3] ∧ allocations q.1 = 3 ∧
        q.1.any (fun step => StepLabel.setsFirstId step.2) = true)) = true := by
    decide +kernel
  have hclient : (retell machine 400 (choicesJoin []) [] (Config.initial .zeroed)).any
      (fun q => decide ((1 : DPNID) ∈ q.2.state.playerToPeerId ∧
        ToldTruly (· = 2) (fun id => id ∈ [(2 : DPNID), 1] ∧ id ≠ 2)
          (· ∈ [(3 : DPNID)]) q.1)) = true := by
    decide +kernel
  rcases retell_run DirectPlay8Peer.zeroed_constructed hhost with
    ⟨past, c, htraced, htest⟩
  rcases of_decide_eq_true htest with ⟨hplayers, hgroups, hcount, hset⟩
  rcases retell_run DirectPlay8Peer.zeroed_constructed hclient with
    ⟨past', c', htraced', htest'⟩
  rcases of_decide_eq_true htest' with ⟨hother, htold⟩
  have hhosts : Hosts past := by
    rcases List.any_eq_true.mp hset with ⟨⟨s, label⟩, hmem, hlabel⟩
    have hlabel : StepLabel.setsFirstId label = true := hlabel
    unfold StepLabel.setsFirstId at hlabel
    split at hlabel
    · exact ⟨s, _, hmem⟩
    · cases hlabel
  have hfew : allocations past < 2 ^ 32 - 1 := by
    rw [hcount]
    decide
  have hown : 2 ∈ sinceHost playerGiven past := by
    rw [hplayers]
    decide
  rw [← hplayers, ← hgroups] at htold
  rcases (ids_name_one htraced hhosts hfew htraced' hown htold).2.2 1 with
    ⟨hlocal, _, hgroup⟩
  exact ⟨past, past', c, c', htraced, htraced', hplayers, hgroups, hother,
    fun h => hlocal ⟨h, hother⟩, fun h => hgroup ⟨hother, h⟩⟩

end DirectPlayLite
