import DirectPlayLite.Peer.Endings
import DirectPlayLite.Peer.Groups

/-!
# Terminating a session

`TerminateSession` tells the connected peers, raises the messages about players and
groups, and destroys the peers that were not fully connected in a loop that never
moves on from the first of them.
-/

namespace DirectPlayLite

open Monitor Program

/-!
## Winding up
-/

/--
What the others do while a session ends: peers, groups and members go away, and
peers become closing.
-/
structure Winding (s s' : DirectPlay8Peer) : Prop where
  peers : forall (peerId : UInt32) (peer' : Peer), s'.peers[peerId]? = some peer' ->
    exists peer, s.peers[peerId]? = some peer ∧
      (peer'.state = peer.state ∨ peer'.state = .closing)
  groups : forall (groupId : DPNID) (group' : Group),
    s'.groups[groupId]? = some group' ->
    exists group, s.groups[groupId]? = some group ∧
      forall player, player ∈ group'.playerIds -> player ∈ group.playerIds

theorem Winding.refl (s : DirectPlay8Peer) : Winding s s where
  peers := fun _ peer' hpeer => ⟨peer', hpeer, Or.inl rfl⟩
  groups := fun _ group' hgroup => ⟨group', hgroup, fun _ hplayer => hplayer⟩

/-- Surroundings that call nothing of their own and only wind up. -/
def Around.Winds (E : Around) : Prop :=
  (forall q, ¬ E.foreign q) ∧ forall s s', E.others s s' -> Winding s s'

theorem still_winds : Around.still.Winds := by
  constructor
  · intro q hforeign
    exact hforeign
  · intro s s' hsame
    cases hsame
    exact Winding.refl s

def Deed.Destroys (peerId : UInt32) (deed : Deed) : Prop :=
  exists p result reason, deed.2 = .call p (.peerDestroy peerId result reason)

/-- A note that a peer to be looked up is not there. -/
def Deed.Misses (deed : Deed) : Prop :=
  exists p, deed.2 = .exec p (.log (.assertionFailed .peerNotNull))

def PeerState.isHalfOpen (state : PeerState) : Bool :=
  state != .connected && state != .closing

structure TerminatedWell (s s' : DirectPlay8Peer) (past : Deeds) : Prop where
  present : forall deed peerId, deed ∈ past -> Deed.Destroys peerId deed ->
    peerId ∈ deed.1.peers
  asserted : Deeds.Never Deed.Misses past
  once : forall (peerId : UInt32) (peer : Peer), s.peers[peerId]? = some peer ->
    PeerState.isHalfOpen peer.state = true ->
    Deeds.Never (Deed.Destroys peerId) past ∨ Deeds.Once (Deed.Destroys peerId) past
  closing : forall (peerId : UInt32) (peer : Peer), s'.peers[peerId]? = some peer ->
    peer.state = .closing

/-- `TerminateSession` returns and has done what it is there for. -/
def TerminatesWell (s : DirectPlay8Peer) (data : List UInt8) : Prop :=
  forall E : Around, E.Winds ->
    (Proc.terminateSession data).EndsIn E s (TerminatedWell s)

/-!
## The last loop
-/

def InLastLoop (peerId : UInt32)
    (v : View DirectPlay8Peer Command Query Answer Proc Fault) : Prop :=
  (v.thread.proc = .terminateDestroyPeers peerId ∧
      (v.thread.code = Action.terminateDestroyPeers peerId ∨
        v.thread.code = .call (.terminateDestroyPeers peerId) (.ret ()))) ∨
    (Proc.terminateDestroyPeers peerId,
      .call (.terminateDestroyPeers peerId) (.ret ())) ∈ v.thread.callers

theorem InLastLoop.move {peerId : UInt32} {E : Around}
    (hown : forall q, ¬ E.foreign q)
    {v w : View DirectPlay8Peer Command Query Answer Proc Fault}
    (hv : InLastLoop peerId v) (hmove : Move machine E v w) :
    InLastLoop peerId w := by
  rcases hv with ⟨hproc, hcode⟩ | hcaller
  · cases hmove with
    | call =>
        dsimp only at hproc hcode
        subst hproc
        rcases hcode with hbody | hcall
        · cases hbody
          exact Or.inr List.mem_cons_self
        · cases hcall
          exact Or.inl ⟨rfl, Or.inl rfl⟩
    | foreign hforeign => exact absurd hforeign (hown _)
    | _ => rcases hcode with hcode | hcode <;> cases hcode
  · cases hmove with
    | call => exact Or.inr (List.mem_cons_of_mem _ hcaller)
    | foreign hforeign => exact absurd hforeign (hown _)
    | «return» =>
        rcases List.mem_cons.mp hcaller with hsame | hrest
        · cases hsame
          exact Or.inl ⟨rfl, Or.inr rfl⟩
        · exact Or.inr hrest
    | _ => exact Or.inr hcaller

theorem terminateDestroyPeers_endless {E : Around} (hown : forall q, ¬ E.foreign q)
    {peerId : UInt32} {post : DirectPlay8Peer -> Deeds -> Prop}
    {s : DirectPlay8Peer} {past : Deeds} :
    ¬ Ends machine E post (.start machine (.terminateDestroyPeers peerId) s past) := by
  have hstep : forall v w, InLastLoop peerId v -> Move machine E v w ->
      InLastLoop peerId w := fun v w hv hmove => hv.move hown hmove
  apply not_ends_of_kept hstep
  · intro s past proc hfinal
    rcases hfinal with ⟨_, hcode⟩ | hcaller
    · rcases hcode with hcode | hcode <;> cases hcode
    · cases hcaller
  · exact Or.inl ⟨rfl, Or.inl rfl⟩

/-!
## Players and groups that go away
-/

structure Tidy (past : Deeds) : Prop where
  destroyed : forall peerId, Deeds.Never (Deed.Destroys peerId) past
  asserted : Deeds.Never Deed.Misses past

structure WoundUp (s : DirectPlay8Peer) (past : Deeds) : Prop where
  closing : forall (peerId : UInt32) (peer : Peer), s.peers[peerId]? = some peer ->
    peer.state = .closing
  tidy : Tidy past

section WindingUp

variable {E : Around} {p : Proc} {s s' : DirectPlay8Peer} {past : Deeds}
  {player : DPNID} {ctx : Context} {reason : DWORD}

theorem Tidy.cons (h : Tidy past) {label : StepLabel}
    (hcall : forall p peerId result reason,
      label ≠ .call p (.peerDestroy peerId result reason))
    (hnote : forall p, label ≠ .exec p (.log (.assertionFailed .peerNotNull))) :
    Tidy ((s, label) :: past) := by
  constructor
  · intro peerId
    apply (h.destroyed peerId).cons
    intro hdestroys
    rcases hdestroys with ⟨_, _, _, hdeed⟩
    exact hcall _ _ _ _ hdeed
  · apply h.asserted.cons
    intro hmisses
    rcases hmisses with ⟨_, hdeed⟩
    exact hnote _ hdeed

theorem WoundUp.others (h : WoundUp s past) (hothers : Winding s s') :
    WoundUp s' past := by
  constructor
  · intro peerId peer' hpeer'
    rcases hothers.peers peerId peer' hpeer' with ⟨peer, hpeer, hsame | hclosing⟩
    · exact hsame.trans (h.closing peerId peer hpeer)
    · exact hclosing
  · exact h.tidy

theorem WoundUp.exec (h : WoundUp s past) (p : Proc) (command : Command)
    (hpeers : (command.apply s).peers = s.peers)
    (hnote : command ≠ .log (.assertionFailed .peerNotNull)) :
    WoundUp (command.apply s) ((s, .exec p command) :: past) := by
  constructor
  · intro peerId peer hpeer
    rw [hpeers] at hpeer
    exact h.closing peerId peer hpeer
  · exact h.tidy.cons (by simp) (by simpa using hnote)

theorem leads_raise_winding (hE : E.Winds) {notification : Notification}
    {f : Answer -> Action Unit} {post : Unit -> DirectPlay8Peer -> Deeds -> Prop}
    (h : WoundUp s past)
    (hnext : forall s' past' answer, Winding s s' -> WoundUp s' past' ->
      leads machine E p (f answer) post s' past') :
    leads machine E p (Action.raise notification >>= f) post s past := by
  rw [leads_raise]
  intro s' answer hothers
  have hwinds : Winding s s' :=
    ⟨(hE.2 _ _ hothers).peers, (hE.2 _ _ hothers).groups⟩
  have hlogged := (h.exec p (.log (.raised notification)) rfl (by simp)).others
    (hE.2 _ _ hothers)
  exact hnext s' _ answer hwinds
    ⟨hlogged.closing, hlogged.tidy.cons (by simp) (by simp)⟩

theorem leads_again (hE : E.Winds) {next : Proc}
    (hother : forall peerId result reason, next ≠ .peerDestroy peerId result reason)
    (h : WoundUp s past)
    (hnext : forall past', WoundUp s past' ->
      leads machine E next next.body (fun _ => WoundUp) s past') :
    leads machine E p (Action.invoke next) (fun _ => WoundUp) s past := by
  show leads machine E p (.call next (.ret ())) _ s past
  rw [leads_call (hE.1 _)]
  apply hnext
  constructor
  · exact h.closing
  · apply h.tidy.cons
    · intro q peerId result reason hcall
      cases hcall
      exact hother peerId result reason rfl
    · simp

def MemberIn (player : DPNID) (groups : List DPNID) (s : DirectPlay8Peer) : Prop :=
  forall (groupId : DPNID) (group : Group), s.groups[groupId]? = some group ->
    player ∈ group.playerIds -> groupId ∈ groups

theorem MemberIn.winding {groups : List DPNID} (h : MemberIn player groups s)
    (hwinds : Winding s s') : MemberIn player groups s' := by
  intro groupId group' hgroup' hplayer
  rcases hwinds.groups groupId group' hgroup' with ⟨group, hgroup, hmembers⟩
  exact h groupId group hgroup (hmembers player hplayer)

theorem MemberIn.left {groups : List DPNID} (h : MemberIn player groups s)
    (groupId : DPNID) :
    MemberIn player (groups.erase groupId)
      ((Command.group groupId (.erasePlayer player)).apply s) := by
  intro other group' hgroup' hplayer
  simp only [Command.apply] at hgroup'
  rw [Std.ExtTreeMap.getElem?_modify] at hgroup'
  split at hgroup'
  · rcases Option.map_eq_some_iff.mp hgroup' with ⟨group, _, rfl⟩
    simp [GroupCommand.apply] at hplayer
  · rename_i hother
    have hne : other ≠ groupId := by
      intro hsame
      subst hsame
      simp at hother
    exact (List.mem_erase_of_ne hne).mpr (h other group' hgroup' hplayer)

theorem memberIn_keys (player : DPNID) (s : DirectPlay8Peer) :
    MemberIn player s.groups.keys s := by
  intro groupId group hgroup _
  rw [Std.ExtTreeMap.mem_keys, Std.ExtTreeMap.mem_iff_isSome_getElem?, hgroup]
  rfl

theorem firstGroupOf_some {groupId : DPNID} {group : Group}
    (h : Action.firstGroupOf s player = some (groupId, group)) :
    s.groups[groupId]? = some group ∧ player ∈ group.playerIds := by
  have hfound := List.find?_some h
  have hmem := List.mem_of_find?_eq_some h
  exact ⟨Std.ExtTreeMap.mem_toList_iff_getElem?_eq_some.mp hmem, hfound⟩

theorem length_erase_lt {groups : List DPNID} {groupId : DPNID} (hmem : groupId ∈ groups) :
    (groups.erase groupId).length < groups.length := by
  rw [List.length_erase_of_mem hmem]
  exact Nat.sub_one_lt_of_lt (List.length_pos_of_mem hmem)

theorem dispatchDestroyPlayer_ends (hE : E.Winds) {groups : List DPNID}
    (hgroups : MemberIn player groups s) (h : WoundUp s past) :
    leads machine E (.dispatchDestroyPlayer player ctx reason)
      (Action.dispatchDestroyPlayer player ctx reason) (fun _ => WoundUp) s past := by
  induction hcount : groups.length using Nat.strong_induction_on
    generalizing groups s past with
  | _ count ih =>
      rw [Action.dispatchDestroyPlayer, leads_get]
      cases hfirst : Action.firstGroupOf s player with
      | none =>
          apply leads_raise_winding hE h
          intro s' past' answer _ h'
          exact h'
      | some found =>
          rcases found with ⟨groupId, group⟩
          rcases firstGroupOf_some hfirst with ⟨hgroup, hplayer⟩
          have hless : (groups.erase groupId).length < count := by
            rw [← hcount]
            exact length_erase_lt (hgroups groupId group hgroup hplayer)
          rw [leads_perform]
          apply leads_raise_winding hE (h.exec _ _ rfl (by simp))
          intro s' past' answer hwinds h'
          apply leads_again hE (by simp) h'
          intro past'' h''
          exact ih _ hless ((hgroups.left groupId).winding hwinds) h'' rfl

theorem leads_dispatchDestroyPlayer (hE : E.Winds) (h : WoundUp s past) :
    leads machine E p (Action.invoke (.dispatchDestroyPlayer player ctx reason))
      (fun _ => WoundUp) s past := by
  apply leads_again hE (by simp) h
  intro past' h'
  exact dispatchDestroyPlayer_ends hE (memberIn_keys player s) h'

def GroupsIn (groups : List DPNID) (s : DirectPlay8Peer) : Prop :=
  forall (groupId : DPNID) (group : Group), s.groups[groupId]? = some group ->
    groupId ∈ groups

theorem GroupsIn.winding {groups : List DPNID} (h : GroupsIn groups s)
    (hwinds : Winding s s') : GroupsIn groups s' := by
  intro groupId group' hgroup'
  rcases hwinds.groups groupId group' hgroup' with ⟨group, hgroup, _⟩
  exact h groupId group hgroup

theorem GroupsIn.erased {groups : List DPNID} (h : GroupsIn groups s)
    (groupId : DPNID) :
    GroupsIn (groups.erase groupId) ((Command.eraseGroup groupId).apply s) := by
  intro other group hgroup
  simp only [Command.apply] at hgroup
  rw [Std.ExtTreeMap.getElem?_erase] at hgroup
  split at hgroup
  · cases hgroup
  · rename_i hother
    have hne : other ≠ groupId := by
      intro hsame
      subst hsame
      simp at hother
    exact (List.mem_erase_of_ne hne).mpr (h other group hgroup)

theorem groupsIn_keys (s : DirectPlay8Peer) : GroupsIn s.groups.keys s := by
  intro groupId group hgroup
  rw [Std.ExtTreeMap.mem_keys, Std.ExtTreeMap.mem_iff_isSome_getElem?, hgroup]
  rfl

theorem groupDestroyAll_ends (hE : E.Winds) {groups : List DPNID}
    (hgroups : GroupsIn groups s) (h : WoundUp s past) :
    leads machine E (.groupDestroyAll reason) (Action.groupDestroyAll reason)
      (fun _ => WoundUp) s past := by
  induction hcount : groups.length using Nat.strong_induction_on
    generalizing groups s past with
  | _ count ih =>
      rw [Action.groupDestroyAll, leads_get]
      cases hfirst : s.groups.toList.head? with
      | none => exact h
      | some found =>
          rcases found with ⟨groupId, group⟩
          have hgroup : s.groups[groupId]? = some group :=
            Std.ExtTreeMap.mem_toList_iff_getElem?_eq_some.mp
              (List.mem_of_head? hfirst)
          have hless : (groups.erase groupId).length < count := by
            rw [← hcount]
            exact length_erase_lt (hgroups groupId group hgroup)
          dsimp only
          rw [bind_eq, leads_bind]
          have htold : leads machine E (.groupDestroyAll reason)
              (Action.onlyIf (¬ s.destroyedGroups.contains groupId)
                (Action.perform (.insertDestroyedGroup groupId) >>= fun _ =>
                  Action.raise (.destroyGroup groupId group.ctx reason) >>=
                    fun _ => pure ()))
              (fun _ s' past' => GroupsIn groups s' ∧ WoundUp s' past') s past := by
            apply leads_onlyIf
            · intro _
              rw [leads_perform]
              apply leads_raise_winding hE (h.exec _ _ rfl (by simp))
              intro s' past' answer hwinds h'
              exact ⟨GroupsIn.winding hgroups ⟨hwinds.peers, hwinds.groups⟩, h'⟩
            · intro _
              exact ⟨hgroups, h⟩
          apply leads_mono htold
          intro _ s' past' hleft
          rw [leads_perform]
          apply leads_again hE (by simp) (hleft.2.exec _ _ rfl (by simp))
          intro past'' h''
          exact ih _ hless (hleft.1.erased groupId) h'' rfl

theorem leads_groupDestroyAll (hE : E.Winds) (h : WoundUp s past) :
    leads machine E p (Action.invoke (.groupDestroyAll reason)) (fun _ => WoundUp)
      s past := by
  apply leads_again hE (by simp) h
  intro past' h'
  exact groupDestroyAll_ends hE (groupsIn_keys s) h'

/-!
## The connected peers
-/

structure Telling (rest : List UInt32) (s : DirectPlay8Peer) (past : Deeds) :
    Prop where
  closing : forall (peerId : UInt32) (peer : Peer), s.peers[peerId]? = some peer ->
    peer.state = .closing ∨ peerId ∈ rest
  tidy : Tidy past

theorem Telling.done (h : Telling [] s past) : WoundUp s past where
  closing := fun peerId peer hpeer =>
    (h.closing peerId peer hpeer).resolve_right List.not_mem_nil
  tidy := h.tidy

theorem Telling.exec {rest : List UInt32} (h : Telling rest s past) (p : Proc)
    (command : Command) (hpeers : (command.apply s).peers = s.peers)
    (hnote : command ≠ .log (.assertionFailed .peerNotNull)) :
    Telling rest (command.apply s) ((s, .exec p command) :: past) := by
  constructor
  · intro peerId peer hpeer
    rw [hpeers] at hpeer
    exact h.closing peerId peer hpeer
  · exact h.tidy.cons (by simp) (by simpa using hnote)

theorem leads_closeMainSockets {rest : List UInt32} (h : Telling rest s past) :
    leads machine E p Action.closeMainSockets (fun _ => Telling rest) s past := by
  have hdiscovery := h.exec p (.setSocket .discovery (-1)) rfl (by simp)
  have hlistener := hdiscovery.exec p (.setSocket .listener (-1)) rfl (by simp)
  exact hlistener.exec p (.setSocket .udp (-1)) rfl (by simp)

theorem leads_told {peerId : UInt32} {rest : List UInt32}
    {packet : PacketSerialiser} (h : Telling (peerId :: rest) s past) :
    leads machine E p
      (Action.sendPacket peerId .high packet .nothing >>= fun _ =>
        Action.ofPeer peerId (.setState .closing))
      (fun _ => Telling rest) s past := by
  constructor
  · intro other peer hpeer
    change ((Command.peer peerId (.setState .closing)).apply
      ((Command.peer peerId (.send .high packet.rawPacket 0 .nothing)).apply
        s)).peers[other]? = some peer at hpeer
    rw [Command.getElem?_peer, Command.getElem?_peer] at hpeer
    split at hpeer
    · rcases Option.map_eq_some_iff.mp hpeer with ⟨sent, _, rfl⟩
      exact Or.inl rfl
    · rename_i hother
      rw [Command.getElem?_peer, if_neg hother] at hpeer
      rcases h.closing other peer hpeer with hclosing | hmem
      · exact Or.inl hclosing
      · rcases List.mem_cons.mp hmem with hsame | hrest
        · exact absurd hsame.symm hother
        · exact Or.inr hrest
  · exact (h.tidy.cons (by simp) (by simp)).cons (by simp) (by simp)

theorem leads_allTold {peerIds : List UInt32} {packet : PacketSerialiser}
    (h : Telling peerIds s past) :
    leads machine E p
      (Action.forEach (fun peerId =>
        Action.sendPacket peerId .high packet .nothing >>= fun _ =>
          Action.ofPeer peerId (.setState .closing)) peerIds)
      (fun _ => Telling []) s past :=
  leads_forEach (fun _ _ _ _ _ htelling => leads_told htelling) h

theorem telling_connected (h : forall (peerId : UInt32) (peer : Peer),
    s.peers[peerId]? = some peer -> PeerState.isHalfOpen peer.state = false)
    (htidy : Tidy past) : Telling (s.peerIdsIn .connected) s past where
  closing := by
    intro peerId peer hpeer
    cases hstate : peer.state with
    | closing => exact Or.inl rfl
    | connected =>
        apply Or.inr
        apply List.mem_map.mpr
        refine ⟨(peerId, peer), List.mem_filter.mpr ⟨?_, by simp [hstate]⟩, rfl⟩
        exact Std.ExtTreeMap.mem_toList_iff_getElem?_eq_some.mpr hpeer
    | _ =>
        have hopen := h peerId peer hpeer
        rw [hstate] at hopen
        cases hopen
  tidy := htidy

end WindingUp

/-!
## The method
-/

def DirectPlay8Peer.halfOpenPeers (s : DirectPlay8Peer) : List (UInt32 × Peer) :=
  s.peers.toList.filter fun (_, peer) => PeerState.isHalfOpen peer.state

theorem DirectPlay8Peer.halfOpenPeers_eq_nil {s : DirectPlay8Peer} :
    s.halfOpenPeers = [] ↔ forall (peerId : UInt32) (peer : Peer),
      s.peers[peerId]? = some peer -> PeerState.isHalfOpen peer.state = false := by
  rw [halfOpenPeers, List.filter_eq_nil_iff]
  constructor
  · intro h peerId peer hpeer
    have hnot := h (peerId, peer)
      (Std.ExtTreeMap.mem_toList_iff_getElem?_eq_some.mpr hpeer)
    exact Bool.eq_false_iff.mpr hnot
  · intro h entry hentry
    exact Bool.eq_false_iff.mp (h entry.1 entry.2
      (Std.ExtTreeMap.mem_toList_iff_getElem?_eq_some.mp hentry))

theorem halfOpenPeers_eq_nil_iff {s : DirectPlay8Peer} :
    s.halfOpenPeers = [] ↔ forall (peerId : UInt32) (peer : Peer),
      s.peers[peerId]? = some peer ->
        peer.state = .connected ∨ peer.state = .closing := by
  rw [DirectPlay8Peer.halfOpenPeers_eq_nil]
  simp only [PeerState.isHalfOpen, bne, Bool.and_eq_false_iff, Bool.not_eq_false',
    beq_iff_eq]

section Method

variable {E : Around} {s : DirectPlay8Peer} {data : List UInt8}

theorem terminateSession_ends (hE : E.Winds) (hhosting : s.state = .hosting)
    (hclosed : s.halfOpenPeers = []) :
    leads machine E (.terminateSession data) (Action.terminateSession data)
      (fun _ => WoundUp) s [] := by
  have htidy : Tidy [] := ⟨fun _ => Deeds.never_nil, Deeds.never_nil⟩
  rw [Action.terminateSession, leads_get, hhosting]
  have htold := telling_connected (DirectPlay8Peer.halfOpenPeers_eq_nil.mp hclosed)
    htidy
  dsimp only [Action.hostStateError]
  rw [bind_eq, leads_bind]
  apply leads_mono (leads_closeMainSockets htold)
  intro _ s₁ past₁ h₁
  -- the connected peers are told
  rw [bind_eq, leads_bind]
  apply leads_mono (leads_allTold h₁)
  intro _ s₂ past₂ h₂
  -- the application is told, and then about the local player
  rw [leads_perform]
  apply leads_raise_winding hE (h₂.done.exec _ _ rfl (by simp))
  intro s₃ past₃ _ _ h₃
  rw [bind_eq, leads_bind]
  apply leads_mono (leads_dispatchDestroyPlayer hE h₃)
  intro _ s₄ past₄ h₄
  -- about every player that was connected
  rw [bind_eq, leads_bind]
  have hplayers : leads machine E (.terminateSession data)
      (Action.forEach (fun entry : UInt32 × Peer =>
        Action.invoke (.dispatchDestroyPlayer entry.2.playerId entry.2.playerCtx
          destroyPlayerReasonSessionTerminated))
        (s.peers.toList.filter fun entry => entry.2.state == .connected))
      (fun _ => WoundUp) s₄ past₄ :=
    leads_forEach (fun _ _ _ _ _ h => leads_dispatchDestroyPlayer hE h) h₄
  apply leads_mono hplayers
  intro _ s₅ past₅ h₅
  -- and about the groups
  rw [bind_eq, leads_bind]
  apply leads_mono (leads_groupDestroyAll hE h₅)
  intro _ s₆ past₆ h₆
  have hnone : (s.peers.toList.filter fun entry => entry.2.state != .connected &&
      entry.2.state != .closing).head? = none := by
    show s.halfOpenPeers.head? = none
    rw [hclosed]
    rfl
  rw [hnone]
  exact h₆.exec _ (.log (.returned .terminateSession sOk)) rfl (by simp)

theorem terminateSession_endless (hE : E.Winds) (hhosting : s.state = .hosting)
    (hopen : s.halfOpenPeers ≠ [])
    {post : Unit -> DirectPlay8Peer -> Deeds -> Prop} :
    ¬ leads machine E (.terminateSession data) (Action.terminateSession data)
      post s [] := by
  rcases List.exists_cons_of_ne_nil hopen with ⟨⟨peerId, peer⟩, rest, hfirst⟩
  rw [Action.terminateSession, leads_get, hhosting]
  dsimp only [Action.hostStateError]
  iterate 7
    apply not_leads_bind
    intro _ _ _
  have hsome : (s.peers.toList.filter fun entry => entry.2.state != .connected &&
      entry.2.state != .closing).head? = some (peerId, peer) := by
    show s.halfOpenPeers.head? = _
    rw [hfirst]
    rfl
  rw [hsome]
  dsimp only
  rw [bind_eq, leads_bind]
  intro h
  exact terminateDestroyPeers_endless hE.1 (h.2 (hE.1 _))

end Method

/--
`TerminateSession` of a host returns and has done what it is there for, whatever
the others wind up meanwhile, if and only if every peer is connected or closing when
it is called.
-/
theorem terminatesWell_iff {s : DirectPlay8Peer} (hhosting : s.state = .hosting)
    (data : List UInt8) :
    TerminatesWell s data ↔ forall (peerId : UInt32) (peer : Peer),
      s.peers[peerId]? = some peer ->
        peer.state = .connected ∨ peer.state = .closing := by
  rw [← halfOpenPeers_eq_nil_iff]
  constructor
  · intro hwell
    by_contra hopen
    have hstill := hwell Around.still still_winds
    rw [Proc.endsIn_iff] at hstill
    exact terminateSession_endless still_winds hhosting hopen hstill
  · intro hclosed E hE
    rw [Proc.endsIn_iff]
    apply leads_mono (terminateSession_ends hE hhosting hclosed)
    intro _ s' past' hdone
    constructor
    · intro deed peerId hdeed hdestroys
      exact absurd hdestroys (hdone.tidy.destroyed peerId deed hdeed)
    · exact hdone.tidy.asserted
    · intro peerId peer _ _
      exact Or.inl (hdone.tidy.destroyed peerId)
    · exact hdone.closing

/-- A host ends the session it has let a client into. -/
theorem terminatesWell_iff_admitted :
    exists c : Run, Reaches machine DirectPlay8Peer.Constructed Unrestricted c ∧
      c.Free ∧ c.state.state = .hosting ∧ TerminatesWell c.state [] := by
  have hrun : (replay Unrestricted choicesAdmit).any
      (fun c => decide (c.Free ∧ c.state.state = .hosting ∧
        c.state.halfOpenPeers.isEmpty = true)) = true := by
    decide +kernel
  rcases replay_reaches hrun with ⟨c, hc, htest⟩
  rcases of_decide_eq_true htest with ⟨hfree, hhosting, hclosed⟩
  refine ⟨c, hc, hfree, hhosting, (terminatesWell_iff hhosting []).mpr ?_⟩
  exact halfOpenPeers_eq_nil_iff.mp (List.isEmpty_iff.mp hclosed)

/-- A host ends its session while a client has connected, but has not asked yet. -/
theorem terminateSession_not_well :
    ¬ forall (c : Run) (data : List UInt8),
      Reaches machine DirectPlay8Peer.Constructed Unrestricted c -> c.Free ->
      c.state.state = .hosting -> TerminatesWell c.state data := by
  intro hclaim
  have hrun : (replay Unrestricted (choicesAdmit ++ choicesAccept)).any
      (fun c => decide (c.Free ∧ c.state.state = .hosting ∧
        c.state.halfOpenPeers.isEmpty = false)) = true := by
    decide +kernel
  rcases replay_reaches hrun with ⟨c, hc, htest⟩
  rcases of_decide_eq_true htest with ⟨hfree, hhosting, hopen⟩
  have hstill := hclaim c [] hc hfree hhosting Around.still still_winds
  rw [Proc.endsIn_iff] at hstill
  apply terminateSession_endless still_winds hhosting _ hstill
  intro hnil
  rw [hnil] at hopen
  cases hopen

end DirectPlayLite
