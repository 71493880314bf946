import DirectPlayLite.Peer.Players

/-!
# The members of groups

A member of a group is the local player or has an entry in the table of the
players.  Players are added to groups by the handlers that let them in and by
those of the group messages, and `dispatch_destroy_player` takes them out of all
groups before their entries are removed.
-/

namespace DirectPlayLite

open Monitor Program

namespace DirectPlay8Peer

variable {s : DirectPlay8Peer} {playerId : DPNID}

def IsMember (s : DirectPlay8Peer) (playerId : DPNID) : Prop :=
  (s.groups.toList.any fun (_, group) =>
    group.playerIds.contains playerId) = true

instance : Decidable (s.IsMember playerId) := inferInstanceAs (Decidable (_ = true))

theorem isMember_iff :
    s.IsMember playerId ↔ exists (groupId : DPNID) (group : Group),
      s.groups[groupId]? = some group ∧ playerId ∈ group.playerIds := by
  rw [IsMember, List.any_eq_true]
  constructor
  · rintro ⟨⟨groupId, group⟩, hmem, hcontains⟩
    exact ⟨groupId, group,
      Std.ExtTreeMap.mem_toList_iff_getElem?_eq_some.mp hmem, hcontains⟩
  · rintro ⟨groupId, group, hgroup, hmem⟩
    exact ⟨(groupId, group),
      Std.ExtTreeMap.mem_toList_iff_getElem?_eq_some.mpr hgroup, hmem⟩

def MembersOk (s : DirectPlay8Peer) : Prop :=
  forall playerId, s.IsMember playerId -> s.Known playerId

end DirectPlay8Peer

/-!
## Conditions
-/

/--
A handler that lets a peer in and comes back to it behind a message only adds it to a
group if it is still connected.  The local player is in no group when it gets another
ID.
-/
def MembersGuarded (s : DirectPlay8Peer) : StepLabel -> Prop
  | .exec _ (.local (.setPlayerId playerId)) =>
      s.IsMember s.localPlayerId -> playerId = s.localPlayerId
  | .exec (.handleHostConnectOk peerId _) (.group _ (.insertPlayer _))
  | .exec (.handleConnectPeerOk peerId _) (.group _ (.insertPlayer _)) =>
      s.PeerIn peerId .connected
  | _ => True

/-- The table of the players is kept in order, too. -/
def GroupsGuarded (s : DirectPlay8Peer) (M : Multiset Proc)
    (label : StepLabel) : Prop :=
  PlayersGuarded s M label ∧ MembersGuarded s label

/-!
## Commands
-/

namespace Command

variable {command : Command} {s : DirectPlay8Peer}

theorem member_cases {playerId : DPNID}
    (h : (command.apply s).IsMember playerId) :
    s.IsMember playerId ∨
      exists groupId, command = .group groupId (.insertPlayer playerId) := by
  rw [DirectPlay8Peer.isMember_iff] at h ⊢
  rcases h with ⟨groupId, group, hgroup, hmem⟩
  cases command with
  | group changed change =>
      simp only [apply] at hgroup
      rw [Std.ExtTreeMap.getElem?_modify] at hgroup
      split at hgroup
      · rename_i hchanged
        have hsame : changed = groupId := by simpa using hchanged
        subst hsame
        rcases Option.map_eq_some_iff.mp hgroup with ⟨before, hbefore, rfl⟩
        cases change with
        | setCtx ctx => exact Or.inl ⟨changed, before, hbefore, hmem⟩
        | insertPlayer player =>
            rcases Std.ExtTreeSet.mem_insert.mp hmem with hplayer | hwas
            · have hsame : player = playerId := by simpa using hplayer
              subst hsame
              exact Or.inr ⟨changed, rfl⟩
            · exact Or.inl ⟨changed, before, hbefore, hwas⟩
        | erasePlayer player =>
            exact Or.inl ⟨changed, before, hbefore,
              (Std.ExtTreeSet.mem_erase.mp hmem).2⟩
      · exact Or.inl ⟨groupId, group, hgroup, hmem⟩
  | emplaceGroup emplaced name data ctx =>
      simp only [apply] at hgroup
      rw [Std.ExtTreeMap.getElem?_insertIfNew] at hgroup
      split at hgroup
      · cases hgroup
        simp [Group.new] at hmem
      · exact Or.inl ⟨groupId, group, hgroup, hmem⟩
  | eraseGroup erased =>
      simp only [apply] at hgroup
      rw [Std.ExtTreeMap.getElem?_erase] at hgroup
      split at hgroup
      · cases hgroup
      · exact Or.inl ⟨groupId, group, hgroup, hmem⟩
  | peer peerId change =>
      refine Or.inl ⟨groupId, group, ?_, hmem⟩
      simp only [apply, applyPeer] at hgroup
      split at hgroup <;> exact hgroup
  | setSocket which sock =>
      exact Or.inl ⟨groupId, group, by cases which <;> exact hgroup, hmem⟩
  | «local» change =>
      exact Or.inl ⟨groupId, group, by cases change <;> exact hgroup, hmem⟩
  | session change =>
      exact Or.inl ⟨groupId, group, by cases change <;> exact hgroup, hmem⟩
  | connect change =>
      exact Or.inl ⟨groupId, group, by cases change <;> exact hgroup, hmem⟩
  | _ => exact Or.inl ⟨groupId, group, hgroup, hmem⟩

theorem known_after {playerId : DPNID} (h : s.Known playerId)
    (hunmap : command = .unmapPlayer playerId -> playerId = s.localPlayerId)
    (hlocal : forall assigned, command = .local (.setPlayerId assigned) ->
      playerId = s.localPlayerId -> playerId = assigned) :
    (command.apply s).Known playerId := by
  rcases command.apply_localPlayerId s with ⟨assigned, rfl⟩ | hkept
  · rcases h with hself | hentry
    · exact Or.inl (hlocal assigned rfl hself)
    · exact Or.inr hentry
  · rw [DirectPlay8Peer.Known, hkept]
    rcases h with hself | hentry
    · exact Or.inl hself
    · rcases command.apply_players s with ⟨_, _, rfl⟩ | ⟨erased, rfl⟩ | hsame
      · exact Or.inr (Std.ExtTreeMap.mem_insert.mpr (Or.inr hentry))
      · by_cases herased : erased = playerId
        · subst herased
          exact Or.inl (hunmap rfl)
        · exact Or.inr (Std.ExtTreeMap.mem_erase.mpr
            ⟨by simpa using herased, hentry⟩)
      · rw [hsame]
        exact Or.inr hentry

end Command

def KeepsMembers (s : DirectPlay8Peer) : Command -> Prop
  | .group _ (.insertPlayer playerId) =>
      playerId = s.localPlayerId ∨
        exists (peerId : UInt32) (peer : Peer), s.peers[peerId]? = some peer ∧
          peer.state = .connected ∧ peer.playerId = playerId
  | .unmapPlayer playerId =>
      playerId ∈ s.playerToPeerId -> ¬ s.IsMember playerId
  | _ => True

@[simp] def Command.leavesMembers : Command -> Bool
  | .group _ (.insertPlayer _) | .unmapPlayer _ => false
  | _ => true

theorem KeepsMembers.of_leaves {command : Command} {s : DirectPlay8Peer}
    (h : command.leavesMembers = true) : KeepsMembers s command := by
  unfold KeepsMembers
  split
  · cases h
  · cases h
  · trivial

/-!
## Players on their way out
-/

namespace DirectPlay8Peer

variable {s : DirectPlay8Peer} {peerId : UInt32} {addr : Nat} {playerId : DPNID}
  {p : Proc} {command : Command}

structure Departs (s : DirectPlay8Peer) (peerId : UInt32) (addr : Nat)
    (playerId : DPNID) : Prop where
  placed : addr < s.nextAddr
  closing : forall peer, s.peers[peerId]? = some peer -> peer.addr = addr ->
    peer.state = .closing ∧ peer.playerId = playerId

structure Shed (s : DirectPlay8Peer) (peerId : UInt32) (addr : Nat)
    (playerId : DPNID) : Prop extends Departs s peerId addr playerId where
  removed : forall peer, s.peers[peerId]? = some peer -> peer.addr = addr ->
    s.playerToPeerId[playerId]? = some peerId -> ¬ s.IsMember playerId

theorem Departs.apply (h : s.Departs peerId addr playerId)
    (htimely : Timely p s command) :
    (command.apply s).Departs peerId addr playerId where
  placed := h.placed.trans_le (command.apply_nextAddr s)
  closing := by
    intro peer hpeer haddr
    rcases Command.peer_cases hpeer with hsame | ⟨change, before, rfl, hbefore, rfl⟩ |
      ⟨_, _, _, _, _, _, _, rfl⟩
    · exact h.closing peer hsame haddr
    · rw [PeerCommand.apply_addr] at haddr
      rcases h.closing before hbefore haddr with ⟨hclosing, hplayer⟩
      rcases change.apply_state s.nextAddr before with ⟨state, rfl⟩ | hstate
      · exact ⟨(htimely before hbefore).2 hclosing, hplayer⟩
      · rcases change.apply_playerId s.nextAddr before with ⟨_, rfl⟩ | hkept
        · exact absurd hclosing (htimely before hbefore)
        · exact ⟨hstate.trans hclosing, hkept.trans hplayer⟩
    · exact absurd haddr (ne_of_gt h.placed)

theorem Shed.apply (h : s.Shed peerId addr playerId) (htimely : Timely p s command)
    (hplayers : forall groupId playerId,
      command = .group groupId (.insertPlayer playerId) -> s.PlayersDescribed)
    (hkeeps : KeepsMembers s command) :
    (command.apply s).Shed peerId addr playerId where
  toDeparts := h.toDeparts.apply htimely
  removed := by
    intro peer hpeer haddr hentry hmember
    have hbefore : exists before, s.peers[peerId]? = some before ∧
        before.addr = addr := by
      rcases Command.peer_cases hpeer with hsame | ⟨change, before, _, hbefore, rfl⟩ |
        ⟨_, _, _, _, _, _, _, rfl⟩
      · exact ⟨peer, hsame, haddr⟩
      · exact ⟨before, hbefore, PeerCommand.apply_addr.symm.trans haddr⟩
      · exact absurd haddr (ne_of_gt h.placed)
    rcases hbefore with ⟨before, hbefore, haddr⟩
    have hclosing := (h.closing before hbefore haddr).1
    have hwas : s.playerToPeerId[playerId]? = some peerId := by
      rcases command.apply_players s with ⟨mapped, other, rfl⟩ | ⟨erased, rfl⟩ | hsame
      · simp only [Command.apply] at hentry
        rw [Std.ExtTreeMap.getElem?_insert] at hentry
        split at hentry
        · cases hentry
          exact absurd hclosing (htimely before hbefore)
        · exact hentry
      · simp only [Command.apply] at hentry
        rw [Std.ExtTreeMap.getElem?_erase] at hentry
        split at hentry
        · cases hentry
        · exact hentry
      · exact hsame ▸ hentry
    rcases Command.member_cases hmember with hmember | ⟨groupId, rfl⟩
    · exact h.removed before hbefore haddr hwas hmember
    · have hdescribed := hplayers groupId playerId rfl
      rcases hkeeps with rfl | ⟨other, found, hfound, hconnected, rfl⟩
      · cases hdescribed.unmapped.symm.trans hwas
      · cases hwas.symm.trans (hdescribed.mapped other found hfound hconnected)
        cases hbefore.symm.trans hfound
        cases hclosing.symm.trans hconnected

theorem HeldAt.apply (h : s.HeldAt peerId addr)
    (hinserts : forall state sock ip port playerId,
      command ≠ .insertPeer peerId state sock ip port playerId) :
    (command.apply s).HeldAt peerId addr := by
  intro peer hpeer
  rcases Command.peer_cases hpeer with hsame | ⟨change, before, _, hbefore, rfl⟩ |
    ⟨_, _, _, _, _, himpossible, _, _⟩
  · exact h peer hsame
  · exact PeerCommand.apply_addr.trans (h before hbefore)
  · exact absurd himpossible (hinserts _ _ _ _ _)

end DirectPlay8Peer

/-!
## The contract
-/

structure KeepsDeparting (p : Proc) (s s' : DirectPlay8Peer) : Prop where
  departs : forall peerId addr playerId, s.Departs peerId addr playerId ->
    s'.Departs peerId addr playerId
  shed : forall peerId addr playerId, s.Shed peerId addr playerId ->
    s'.Shed peerId addr playerId
  heldAt : forall peerId addr, p.holds peerId = true -> s.HeldAt peerId addr ->
    s'.HeldAt peerId addr

def Proc.Sheds (p : Proc) (s s' : DirectPlay8Peer) : Prop :=
  match p with
  | .dispatchDestroyPlayer player .. =>
      forall peerId addr, s.Departs peerId addr player -> s'.Shed peerId addr player
  | _ => True

def membersContract : Contract machine where
  cond := fun s M label =>
    GroupsGuarded s M label ∧ playersContract.Guaranteed label s
  inv := fun _ _ => True
  free := fun _ => True
  guar := fun _ command s => KeepsMembers s command
  rely := KeepsDeparting
  pre := fun _ _ _ => True
  post := fun p s s' _ => p.Sheds s s'
  faults := fun _ => True
  rely_refl := fun _ _ => ⟨fun _ _ _ h => h, fun _ _ _ h => h, fun _ _ _ h => h⟩
  rely_trans := fun _ _ _ _ h h' =>
    ⟨fun _ _ _ hdeparts => h'.departs _ _ _ (h.departs _ _ _ hdeparts),
      fun _ _ _ hshed => h'.shed _ _ _ (h.shed _ _ _ hshed),
      fun _ _ hholds hheld => h'.heldAt _ _ hholds (h.heldAt _ _ hholds hheld)⟩

abbrev withoutMembers : Footprint Command Proc Fault :=
  .running fun command => command.leavesMembers = true

section Rules

variable {p : Proc} {callers : List Proc} {s : DirectPlay8Peer}
  {M : Multiset Proc} {α β : Type} {command : Command}

theorem keeps_departing {r : Proc} (htimely : Timely p s command)
    (hplayers : forall groupId playerId,
      command = .group groupId (.insertPlayer playerId) -> s.PlayersDescribed)
    (hkeeps : KeepsMembers s command)
    (hinserts : forall peerId state sock ip port playerId,
      command = .insertPeer peerId state sock ip port playerId ->
      r.holds peerId = false) : KeepsDeparting r s (command.apply s) where
  departs := fun _ _ _ hdeparts => hdeparts.apply htimely
  shed := fun _ _ _ hshed => hshed.apply htimely hplayers hkeeps
  heldAt := by
    intro peerId addr hholds hheld
    apply hheld.apply
    rintro state sock ip port playerId rfl
    cases (hinserts peerId state sock ip port playerId rfl).symm.trans hholds

theorem members_agree (hkeeps : KeepsMembers s command)
    (hcond : membersContract.cond s M (.exec p command)) :
    membersContract.Agrees p command M s := by
  rcases hcond.2 p command rfl with ⟨hplayers, htimely⟩
  refine ⟨hkeeps, fun r hr => keeps_departing htimely ?_ hkeeps ?_⟩
  · rintro groupId playerId rfl
    exact hplayers rfl
  rintro peerId state sock ip port playerId rfl
  exact tokens_eq_zero.mp hcond.1.1.inserts r (Multiset.mem_of_mem_erase hr)

theorem keeps_log {r : Proc} (event : Event) :
    KeepsDeparting r s ((Command.log event).apply s) := by
  refine keeps_departing (p := r) trivial ?_ trivial ?_
  · rintro _ _ ⟨⟩
  · rintro _ _ _ _ _ _ ⟨⟩

theorem members_log (event : Event) :
    membersContract.Agrees p (.log event) M s :=
  ⟨trivial, fun _ _ => keeps_log event⟩

theorem members_uses {prog : Action α} (huses : prog.Uses withoutMembers)
    (hown : (p :: callers : Multiset Proc) ≤ M) :
    membersContract.wp p callers prog
      (fun _ _ M' => (p :: callers : Multiset Proc) ≤ M') s M := by
  refine Contract.wp_mono (Contract.wp_of_uses (I := fun _ _ => True) huses
    (fun _ _ _ _ => ⟨trivial, trivial⟩) (fun _ _ _ _ => trivial) ?_ ?_ ?_
    (fun _ _ => trivial) hown trivial) fun _ _ _ h => h.1
  · intro command s M hleaves _ _ hcond
    exact ⟨members_agree (.of_leaves hleaves) hcond, trivial⟩
  · exact fun _ _ _ _ _ _ => ⟨trivial, fun _ _ _ _ => trivial⟩
  · exact fun _ _ _ _ _ _ => ⟨fun _ _ _ _ _ _ _ => trivial, trivial⟩

theorem members_rest {prog : Action α} (huses : prog.Uses withoutMembers)
    (hown : (p :: callers : Multiset Proc) ≤ M) :
    membersContract.wp p callers prog (fun _ _ _ => True) s M :=
  Contract.wp_mono (members_uses huses hown) fun _ _ _ _ => trivial

theorem members_bind {prog : Action α} {f : α -> Action β}
    {post : β -> DirectPlay8Peer -> Multiset Proc -> Prop}
    (huses : prog.Uses withoutMembers) (hown : (p :: callers : Multiset Proc) ≤ M)
    (hnext : forall value s' M', (p :: callers : Multiset Proc) ≤ M' ->
      membersContract.wp p callers (f value) post s' M') :
    membersContract.wp p callers (prog >>= f) post s M := by
  rw [bind_eq, Contract.wp_bind]
  exact Contract.wp_mono (members_uses huses hown) hnext

theorem members_kept {prog : Action α} {f : α -> Action β}
    {post : β -> DirectPlay8Peer -> Multiset Proc -> Prop}
    (huses : prog.Uses (Kept fun command => command.leavesMembers = true ∧
      command.kind ≠ .localPlayerId))
    (hnext : forall value s', s'.localPlayerId = s.localPlayerId ->
      membersContract.wp p callers (f value) post s' M) :
    membersContract.wp p callers (prog >>= f) post s M := by
  rw [bind_eq, Contract.wp_bind]
  refine Contract.wp_mono (wp_kept huses (fun _ => trivial)
    (I := fun s' => s'.localPlayerId = s.localPlayerId) ?_ rfl) ?_
  · rintro command s' ⟨hleaves, hkind⟩ hlocal hcond
    refine ⟨members_agree (.of_leaves hleaves) hcond, ?_⟩
    rcases command.apply_localPlayerId s' with ⟨_, rfl⟩ | hsame
    · exact absurd rfl hkind
    · exact hsame.trans hlocal
  · rintro value s' M' ⟨rfl, hlocal⟩
    exact hnext value s' hlocal

theorem members_exec {f : Unit -> Action β}
    {post : β -> DirectPlay8Peer -> Multiset Proc -> Prop}
    (hkeeps : membersContract.cond s M (.exec p command) -> KeepsMembers s command)
    (hnext : membersContract.cond s M (.exec p command) ->
      membersContract.wp p callers (f ()) post (command.apply s) M) :
    membersContract.wp p callers (perform command >>= f) post s M :=
  fun hcond => ⟨members_agree (hkeeps hcond) hcond, hnext hcond⟩

theorem members_raise {notification : Notification} {f : Answer -> Action β}
    {post : β -> DirectPlay8Peer -> Multiset Proc -> Prop}
    (hnext : forall answer s' M', (p :: callers : Multiset Proc) ≤ M' ->
      KeepsDeparting p s s' ->
      membersContract.wp p callers (f answer) post s' M') :
    membersContract.wp p callers (Action.raise notification >>= f) post s M := by
  intro _
  refine ⟨members_log _, ⟨trivial, trivial⟩, ?_⟩
  intro s' M' answer hown _ _ hrely _ _ _
  exact hnext answer s' M' hown
    (membersContract.rely_trans p _ _ _ (keeps_log _) (hrely p List.mem_cons_self))

theorem members_call {callee : Proc}
    {post : Unit -> DirectPlay8Peer -> Multiset Proc -> Prop}
    (hpost : forall s' M', (p :: callers : Multiset Proc) ≤ M' ->
      KeepsDeparting p s s' -> callee.Sheds s s' -> post () s' M') :
    membersContract.wp p callers (Action.invoke callee) post s M := by
  intro _
  refine ⟨trivial, ?_⟩
  intro s' M' hown _ hrely hsheds
  exact hpost s' M' hown (hrely p List.mem_cons_self) hsheds

theorem members_invoke {callee : Proc} {f : Unit -> Action β}
    {post : β -> DirectPlay8Peer -> Multiset Proc -> Prop}
    (hnext : forall s' M', (p :: callers : Multiset Proc) ≤ M' ->
      KeepsDeparting p s s' -> callee.Sheds s s' ->
      membersContract.wp p callers (f ()) post s' M') :
    membersContract.wp p callers (Action.invoke callee >>= f) post s M := by
  rw [bind_eq, Contract.wp_bind]
  exact members_call hnext

end Rules

/-!
## Who is added
-/

section Adding

variable {p : Proc} {callers : List Proc} {s : DirectPlay8Peer}
  {M : Multiset Proc} {peerId : UInt32} {pd : PacketDeserialiser}

theorem handleGroupJoined_members
    (hown : (.handleGroupJoined peerId pd :: callers : Multiset Proc) ≤ M) :
    membersContract.wp (.handleGroupJoined peerId pd) callers
      (Action.handleGroupJoined peerId pd) (fun _ _ _ => True) s M := by
  apply wp_assertedPeer trivial (members_log _)
  intro peer hpeer
  apply Contract.wp_get
  apply wp_caught
  · rintro ⟨groupId, name, data⟩ _
    dsimp only
    split
    · trivial
    rename_i hconnected
    split
    · trivial
    split
    · refine members_rest ?_ hown
      repeat' with_reducible first
        | apply Action.uses_bind
        | intro _
        | split
      all_goals simp
    · split
      · trivial
      apply members_exec
      · exact fun _ => Or.inr ⟨peerId, peer, hpeer, not_ne_iff.mp hconnected, rfl⟩
      intro _
      refine members_rest ?_ hown
      repeat' with_reducible first
        | apply Action.uses_bind
        | intro _
      all_goals simp
  · exact fun _ _ => trivial

theorem handleGroupJoin_members
    (hown : (.handleGroupJoin peerId pd :: callers : Multiset Proc) ≤ M) :
    membersContract.wp (.handleGroupJoin peerId pd) callers
      (Action.handleGroupJoin peerId pd) (fun _ _ _ => True) s M := by
  apply wp_assertedPeer trivial (members_log _)
  intro peer hpeer
  apply Contract.wp_get
  apply wp_caught
  · rintro ⟨groupId, ackId, name, data⟩ _
    dsimp only
    split
    · trivial
    split
    · exact members_rest (by simp [Action.sendAck]) hown
    split
    · refine members_rest ?_ hown
      unfold Action.sendAck
      repeat' with_reducible first
        | apply Action.uses_peerAt
        | apply Action.uses_bind
        | intro _
        | split
      all_goals simp
    · split
      · exact members_rest (by simp [Action.sendAck]) hown
      apply members_kept (Action.uses_sendToConnected (by simp))
      intro _ s₁ hlocal₁
      apply members_kept (by simp [Action.sendAck])
      intro _ s₂ hlocal₂
      apply members_exec
      · exact fun _ => Or.inl (hlocal₂.trans hlocal₁).symm
      intro _
      refine members_rest ?_ hown
      repeat' with_reducible first
        | apply Action.uses_bind
        | intro _
      all_goals simp
  · exact fun _ _ => trivial

theorem addPlayerToGroup_members {groupId client : DPNID} {ctx : Context}
    {flags : DWORD}
    (hown : (.addPlayerToGroup groupId client ctx flags :: callers :
      Multiset Proc) ≤ M) :
    membersContract.wp (.addPlayerToGroup groupId client ctx flags) callers
      (Action.addPlayerToGroup groupId client ctx flags) (fun _ _ _ => True) s
      M := by
  apply Contract.wp_get
  split
  · exact members_rest (by simp) hown
  · exact members_rest (by simp) hown
  split
  · exact members_rest (by simp) hown
  split
  · exact members_rest (by simp) hown
  apply members_kept (Action.uses_beginOperation (by simp) (by simp))
  intro completion s₁ hlocal₁
  split
  · apply members_kept (Action.uses_notifyConnected (by simp) (by simp) (by simp))
    intro _ s₂ hlocal₂
    apply members_exec
    · exact fun _ => Or.inl (hlocal₂.trans hlocal₁).symm
    intro _
    refine members_rest ?_ hown
    repeat' with_reducible first
      | apply Action.uses_endOperation
      | apply Action.uses_bind
      | intro _
    all_goals simp
  · refine members_rest ?_ hown
    repeat' with_reducible first
      | apply Action.uses_endOperation
      | apply Action.uses_sendRequest
      | apply Action.uses_bind
      | intro _
      | split
    all_goals simp

theorem joinGroups_members {next : Action Unit} {groups : List DPNID}
    (hjoins : forall s M groupId playerId,
      membersContract.cond s M (.exec p (.group groupId (.insertPlayer playerId))) ->
      s.PeerIn peerId .connected)
    (hnext : next.Uses withoutMembers)
    (hown : (p :: callers : Multiset Proc) ≤ M) :
    membersContract.wp p callers (Action.joinGroups peerId next groups)
      (fun _ _ _ => True) s M := by
  induction groups generalizing s M with
  | nil => exact members_rest hnext hown
  | cons groupId rest ih =>
      apply wp_peerAt trivial
      intro peer hpeer
      apply Contract.wp_get
      split
      · exact ih hown
      split
      · exact ih hown
      apply members_exec
      · intro hcond
        have hconnected := hjoins s M groupId peer.playerId hcond
        refine Or.inr ⟨peerId, peer, hpeer, ?_, rfl⟩
        simpa [DirectPlay8Peer.PeerIn, hpeer] using hconnected
      intro _
      apply members_bind (by simp) hown
      intro _ s₁ M₁ hown₁
      apply wp_renewPeer
      · exact fun _ _ => ih hown₁
      · exact fun _ => trivial

theorem handleHostConnectOk_members
    (hown : (.handleHostConnectOk peerId pd :: callers : Multiset Proc) ≤ M) :
    membersContract.wp (.handleHostConnectOk peerId pd) callers
      (Action.handleHostConnectOk peerId pd) (fun _ _ _ => True) s M := by
  apply wp_assertedPeer trivial (members_log _)
  intro peer hpeer
  apply Contract.wp_get
  split
  · trivial
  apply members_bind (Action.uses_assertThat rfl) hown
  intro _ s₁ M₁ hown₁
  apply wp_fetch (fun _ => trivial)
  intro ok _
  iterate 13
    apply members_bind (by simp) (by assumption)
    clear hown₁
    intro _ s₁ M₁ hown₁
  apply Contract.wp_get
  iterate 2
    apply members_bind (by simp) (by assumption)
    clear hown₁
    intro _ s₁ M₁ hown₁
  apply wp_peerAt trivial
  intro peer₂ hpeer₂
  apply members_bind (by simp) hown₁
  intro cp s₂ M₂ hown₂
  apply wp_renewPeer
  · intro _ _
    apply members_bind (by simp) hown₂
    intro _ s₃ M₃ hown₃
    refine joinGroups_members (fun _ _ _ _ hcond => hcond.1.2) ?_ hown₃
    exact Action.uses_connectToPeers rfl (fun _ _ _ _ _ => rfl) trivial trivial trivial
  · exact fun _ => trivial

theorem handleConnectPeerOk_members
    (hown : (.handleConnectPeerOk peerId pd :: callers : Multiset Proc) ≤ M) :
    membersContract.wp (.handleConnectPeerOk peerId pd) callers
      (Action.handleConnectPeerOk peerId pd) (fun _ _ _ => True) s M := by
  apply wp_assertedPeer trivial (members_log _)
  intro peer hpeer
  apply Contract.wp_get
  split
  · trivial
  apply members_bind (Action.uses_assertThat rfl) hown
  intro _ s₁ M₁ hown₁
  apply wp_fetch (fun _ => trivial)
  intro ok _
  iterate 4
    apply members_bind (by simp) (by assumption)
    clear hown₁
    intro _ s₁ M₁ hown₁
  apply wp_renewPeer
  · intro _ _
    apply members_bind (by simp) hown₁
    intro _ s₂ M₂ hown₂
    exact joinGroups_members (fun _ _ _ _ hcond => hcond.1.2) (by simp) hown₂
  · exact fun _ => trivial

end Adding

/-!
## Who is taken out
-/

section Leaving

variable {callers : List Proc} {s : DirectPlay8Peer} {M : Multiset Proc}
  {peerId : UInt32} {player : DPNID} {ctx : Context} {result : HRESULT}
  {reason : DWORD}

theorem DirectPlay8Peer.not_isMember_of_firstGroup
    (h : Action.firstGroupOf s player = none) : ¬ s.IsMember player := by
  rw [isMember_iff]
  rintro ⟨groupId, group, hgroup, hmem⟩
  have hnone := List.find?_eq_none.mp h (groupId, group)
    (Std.ExtTreeMap.mem_toList_iff_getElem?_eq_some.mpr hgroup)
  exact hnone (Std.ExtTreeSet.contains_iff_mem.mpr hmem)

theorem dispatchDestroyPlayer_members :
    membersContract.wp (.dispatchDestroyPlayer player ctx reason) callers
      (Action.dispatchDestroyPlayer player ctx reason)
      (fun _ s' _ => (Proc.dispatchDestroyPlayer player ctx reason).Sheds s s') s M := by
  apply Contract.wp_get
  split
  · rename_i groupId group _
    intro hcond
    rcases hcond.2 _ _ rfl with ⟨_, htimely⟩
    refine ⟨members_agree trivial hcond, ?_⟩
    apply members_raise
    intro _ s₁ M₁ _ hkept₁
    apply members_call
    intro s₂ M₂ _ _ hsheds peerId addr hdeparts
    exact hsheds peerId addr (hkept₁.departs _ _ _ (hdeparts.apply htimely))
  · rename_i hnone
    apply members_raise
    intro _ s₁ M₁ _ hkept₁ peerId addr hdeparts
    exact hkept₁.shed _ _ _ ⟨hdeparts, fun _ _ _ _ =>
      DirectPlay8Peer.not_isMember_of_firstGroup hnone⟩

theorem Departs.of_close {s : DirectPlay8Peer} {peer : Peer}
    (hpeer : s.peers[peerId]? = some peer) (hplaced : peer.addr < s.nextAddr) :
    ((Command.peer peerId (.setState .closing)).apply s).Departs peerId peer.addr
      peer.playerId where
  placed := hplaced.trans_le (Command.apply_nextAddr _ s)
  closing := by
    intro found hfound _
    cases hfound.symm.trans (DirectPlay8Peer.peer_changed _ hpeer)
    exact ⟨rfl, rfl⟩

theorem HeldAt.of_peer {s : DirectPlay8Peer} {peer : Peer}
    (hpeer : s.peers[peerId]? = some peer) : s.HeldAt peerId peer.addr := by
  intro found hfound
  cases hpeer.symm.trans hfound
  rfl

theorem peerDestroyDrained_members
    (hown : (.peerDestroyDrained peerId result reason :: callers : Multiset Proc) ≤ M) :
    membersContract.wp (.peerDestroyDrained peerId result reason) callers
      (Action.peerDestroyDrained peerId result reason) (fun _ _ _ => True) s M := by
  apply wp_peerAt trivial
  intro peer hpeer
  apply Contract.wp_get
  split
  · rename_i hconnected
    apply members_exec
    · exact fun _ => trivial
    intro _
    have hpeer₁ := DirectPlay8Peer.peer_changed (.setSendOpen false) hpeer
    apply members_exec
    · exact fun _ => trivial
    intro hcond
    have hplaced := ((hcond.2 _ _ rfl).2 _ hpeer₁).1
    have hdeparts := Departs.of_close hpeer₁ hplaced
    have hheld := HeldAt.of_peer (DirectPlay8Peer.peer_changed (.setState .closing) hpeer₁)
    apply members_invoke
    intro s₂ M₂ hown₂ hkept₂ hsheds
    have hshed := hsheds _ _ hdeparts
    have hheld₂ := hkept₂.heldAt _ _ (by simp) hheld
    apply members_exec
    · intro hcond hentry
      have hleaving := (hcond.2 _ _ rfl).2.2.1 peerId (by simp)
      rcases hleaving.closing with ⟨found, hfound, _⟩
      exact hshed.removed found hfound (hheld₂ found hfound) hleaving.entry
    intro _
    refine members_rest ?_ hown₂
    unfold Action.hostLost Action.removePeer
    repeat' with_reducible first
      | apply Action.uses_dispatchDestroyLocalPlayer
      | apply Action.uses_renewPeer
      | apply Uses.onlyIf
      | apply Action.uses_bind
      | intro _
      | split
    all_goals simp
  · refine members_rest ?_ hown
    unfold Action.removePeer
    repeat' with_reducible first
      | apply Action.uses_renewPeer
      | apply Action.uses_bind
      | intro _
      | split
    all_goals simp

theorem peerShutdown_members
    (hown : (.peerShutdown peerId result reason :: callers : Multiset Proc) ≤ M) :
    membersContract.wp (.peerShutdown peerId result reason) callers
      (Action.peerShutdown peerId result reason) (fun _ _ _ => True) s M := by
  apply wp_assertedPeer trivial (members_log _)
  intro peer hpeer
  split
  · apply members_exec
    · exact fun _ => trivial
    intro hcond
    have hplaced := ((hcond.2 _ _ rfl).2 _ hpeer).1
    have hdeparts := Departs.of_close hpeer hplaced
    have hheld := HeldAt.of_peer (DirectPlay8Peer.peer_changed (.setState .closing) hpeer)
    apply members_invoke
    intro s₁ M₁ hown₁ hkept₁ hsheds
    have hshed := hsheds _ _ hdeparts
    have hheld₁ := hkept₁.heldAt _ _ (by simp) hheld
    intro hcond
    refine ⟨members_agree ?_ hcond, trivial⟩
    -- the entry of the peer itself, should it have the player ID it has as a peer
    intro hmem
    have hentry := (hcond.1.1 hmem).1
    rcases (hcond.2 _ _ rfl).2.1.named _ _ hentry with ⟨found, hfound, hplayer, _⟩
    have haddr := hheld₁ found hfound
    have hsame := (hshed.closing found hfound haddr).2
    have hkey : peerId = peer.playerId := hplayer.symm.trans hsame
    exact hkey ▸ hshed.removed found hfound haddr (hkey ▸ hentry)
  · refine members_rest ?_ hown
    split <;> simp

end Leaving

@[simp] def Proc.writesMembers : Proc -> Bool
  | .handleGroupJoined .. | .handleGroupJoin .. | .addPlayerToGroup ..
  | .handleHostConnectOk .. | .handleConnectPeerOk .. | .peerDestroyDrained ..
  | .peerShutdown .. => true
  | _ => false

theorem Proc.leavesMembers_of_others {p : Proc} {command : Command}
    (hp : p.writesMembers = false)
    (hcommand : command.kind ∈ p.kinds ∧ p.Fits command) :
    command.leavesMembers = true := by
  have hkinds : .unmapPlayer ∉ p.kinds ∧ p.insertsMembers = false := by
    cases p <;> first
      | (simp; done)
      | cases hp
  unfold Command.leavesMembers
  split
  · have hinserts : p.insertsMembers = true := hcommand.2
    cases hkinds.2.symm.trans hinserts
  · exact absurd hcommand.1 hkinds.1
  · rfl

theorem members_others {p : Proc} {callers : List Proc} {s : DirectPlay8Peer}
    {M : Multiset Proc} (hp : p.writesMembers = false)
    (hown : (p :: callers : Multiset Proc) ≤ M) :
    membersContract.wp p callers p.body (fun _ _ _ => True) s M := by
  refine members_rest ?_ hown
  exact (Proc.body_uses p).within
    (fun _ hcommand => Proc.leavesMembers_of_others hp hcommand)
    (fun _ _ => trivial) fun _ _ => trivial

theorem membersContract_valid :
    membersContract.Valid DirectPlay8Peer.Constructed where
  initial := fun _ _ => ⟨trivial, trivial⟩
  start := fun _ _ _ _ _ _ _ => trivial
  body := by
    intro p callers s M hown _
    have hplain : p.Sheds s = (fun _ => True) ->
        membersContract.wp p callers p.body (fun _ _ _ => True) s M ->
        membersContract.wp p callers p.body (fun _ s' _ => p.Sheds s s') s M := by
      intro hsheds hbody
      rw [hsheds]
      exact hbody
    have hbody : membersContract.wp p callers p.body (fun _ s' _ => p.Sheds s s') s M := by
      cases p with
      | handleGroupJoined => exact hplain rfl (handleGroupJoined_members hown)
      | handleGroupJoin => exact hplain rfl (handleGroupJoin_members hown)
      | addPlayerToGroup => exact hplain rfl (addPlayerToGroup_members hown)
      | handleHostConnectOk => exact hplain rfl (handleHostConnectOk_members hown)
      | handleConnectPeerOk => exact hplain rfl (handleConnectPeerOk_members hown)
      | peerDestroyDrained => exact hplain rfl (peerDestroyDrained_members hown)
      | peerShutdown => exact hplain rfl (peerShutdown_members hown)
      | dispatchDestroyPlayer => exact dispatchDestroyPlayer_members
      | _ => exact hplain rfl (members_others rfl hown)
    exact Contract.wp_mono hbody
      fun _ _ _ hsheds => ⟨⟨trivial, hsheds⟩, fun _ _ => trivial⟩

theorem DirectPlay8Peer.MembersOk.exec {s : DirectPlay8Peer} {p : Proc}
    {command : Command} (h : s.MembersOk)
    (hcond : MembersGuarded s (.exec p command)) (hkeeps : KeepsMembers s command)
    (hplayers : command.isWatched = true -> s.PlayersDescribed) :
    (command.apply s).MembersOk := by
  intro playerId hmember
  rcases Command.member_cases hmember with hbefore | ⟨groupId, rfl⟩
  · refine Command.known_after (h playerId hbefore) ?_ ?_
    · rintro rfl
      exact (h playerId hbefore).resolve_right fun hentry => hkeeps hentry hbefore
    · rintro assigned rfl rfl
      exact (hcond hbefore).symm
  · rcases hkeeps with rfl | ⟨peerId, peer, hpeer, hconnected, rfl⟩
    · exact Or.inl rfl
    · have hentry := (hplayers rfl).mapped peerId peer hpeer hconnected
      refine Or.inr (Std.ExtTreeMap.mem_iff_isSome_getElem?.mpr ?_)
      simp [Command.apply, hentry]

/-!
## Runs
-/

namespace DirectPlay8Peer

/-- Every member of a group is the local player or can be looked up. -/
def MembersFound (s : DirectPlay8Peer) : Prop :=
  forall (groupId : DPNID) (group : Group) (playerId : DPNID),
    s.groups[groupId]? = some group -> playerId ∈ group.playerIds ->
    playerId = s.localPlayerId ∨ s.getPeerByPlayerId playerId ≠ none

theorem MembersOk.found {s : DirectPlay8Peer} (h : s.MembersOk)
    (hplayers : s.PlayersDescribed) : s.MembersFound := by
  intro groupId group playerId hgroup hmem
  rcases h playerId (isMember_iff.mpr ⟨groupId, group, hgroup, hmem⟩) with
    hlocal | hentry
  · exact Or.inl hlocal
  · refine Or.inr ?_
    rw [Std.ExtTreeMap.mem_iff_isSome_getElem?, Option.isSome_iff_exists] at hentry
    rcases hentry with ⟨peerId, hentry⟩
    rcases hplayers.named playerId peerId hentry with ⟨peer, hpeer, _⟩
    simp [getPeerByPlayerId, findPlayer, hentry, hpeer]

end DirectPlay8Peer

theorem members_known {c : Run}
    (h : Reaches machine DirectPlay8Peer.Constructed GroupsGuarded c) :
    c.state.MembersOk := by
  have hguaranteed := playersContract_valid.reaches (fun _ _ _ h => h.1) h
  clear h
  induction hguaranteed with
  | initial hs =>
      intro playerId hmember
      rw [DirectPlay8Peer.isMember_iff] at hmember
      rcases hmember with ⟨groupId, group, hgroup, _⟩
      simp [Config.initial, hs.groups] at hgroup
  | step hc hstep hcond ih =>
      cases hstep with
      | exec =>
          have hkeeps := (membersContract_valid.exec hc .exec hcond).1
          exact ih.exec hcond.1.2 hkeeps (hcond.2 _ _ rfl).1
      | _ => exact ih

/-- Whenever the lock is free, the members of all groups can be looked up. -/
theorem members_found {c : Run}
    (h : Reaches machine DirectPlay8Peer.Constructed GroupsGuarded c)
    (hfree : c.Free) : c.state.MembersFound :=
  (members_known h).found
    (players_described (h.mono fun _ _ _ h => h.1) hfree)

instance {s : DirectPlay8Peer} {label : StepLabel} :
    Decidable (MembersGuarded s label) := by
  unfold MembersGuarded
  split <;> infer_instance

instance {s : DirectPlay8Peer} {M : Multiset Proc} {label : StepLabel} :
    Decidable (GroupsGuarded s M label) :=
  inferInstanceAs (Decidable (_ ∧ _))

def choicesJoined (peerId : UInt32) : List (Choice Answer Proc) :=
  [.start (.ioPeerTriggered peerId), .answer { ret := -1, err := wsaEWouldBlock },
    .answer
      { ret := 36,
        bytes := (serialise msgidGroupJoined
          [.dword 4, .wstring [], .data []]).rawPacket },
    .answer {}, .answer {}, .resume 1 {},
    .answer { ret := -1, err := wsaEWouldBlock }, .answer {}]

/--
A host has let two clients in, as the players 2 and 3 with the peer IDs 0 and 2,
and created the group 4, which the first of them has joined.
-/
def choicesMember : List (Choice Answer Proc) :=
  choicesAdmitTwo ++
    [.start (.createGroup
        (some { infoFlags := 0, name := [], data := [], groupFlags := 0 })
        contextNull contextNull 0)] ++
    choicesJoined 0

/--
Both clients have joined the group, and the connection to the first has failed, which
took it out of the group and then out of the table.
-/
theorem members_found_joined :
    exists c : Run,
      Reaches machine DirectPlay8Peer.Constructed GroupsGuarded c ∧
        c.Free ∧ c.state.IsMember 3 ∧ ¬ c.state.IsMember 2 ∧
        c.state.playerToPeerId[(2 : DPNID)]? = none ∧
        .raised (.removePlayerFromGroup 4 contextNull 2 contextNull) ∈
          c.state.history ∧
        c.state.MembersFound := by
  have hrun : (replay GroupsGuarded (choicesMember ++ choicesJoined 2 ++
      [.start (.ioPeerTriggered 0), .answer { ret := -1, err := 10054 },
        .resume 1 {}, .resume 1 {}])).any
      (fun c => decide (c.Free ∧ c.state.IsMember 3 ∧ ¬ c.state.IsMember 2 ∧
        c.state.playerToPeerId[(2 : DPNID)]? = none ∧
        .raised (.removePlayerFromGroup 4 contextNull 2 contextNull) ∈
          c.state.history)) = true := by
    decide +kernel
  rcases replay_reaches hrun with ⟨c, hc, htest⟩
  rcases of_decide_eq_true htest with ⟨hfree, hmember, hleft, hentry, hraised⟩
  exact ⟨c, hc, hfree, hmember, hleft, hentry, hraised, members_found hc hfree⟩

/--
The player 3 is shut down; its peer ID is the player ID of the member, which
loses its entry.
-/
theorem members_not_found :
    ¬ forall c : Run,
      Reaches machine DirectPlay8Peer.Constructed Unrestricted c ->
      c.Free -> c.state.MembersFound := by
  intro hclaim
  have hrun : (replay Unrestricted (choicesMember ++
      [.start (.destroyPeer 3 []), .resume 1 {}])).any
      (fun c => decide (c.Free ∧ c.state.IsMember 2 ∧
        c.state.localPlayerId = 1 ∧
        c.state.playerToPeerId[(2 : DPNID)]? = none)) = true := by
    decide +kernel
  rcases replay_reaches hrun with ⟨c, hc, htest⟩
  rcases of_decide_eq_true htest with ⟨hfree, hmember, hlocal, hentry⟩
  rcases DirectPlay8Peer.isMember_iff.mp hmember with
    ⟨groupId, group, hgroup, hmem⟩
  rcases hclaim c hc hfree groupId group 2 hgroup hmem with hself | hfound
  · rw [hlocal] at hself
    cases hself
  · exact hfound (by
      simp [DirectPlay8Peer.getPeerByPlayerId, DirectPlay8Peer.findPlayer,
        hentry])

end DirectPlayLite
