import DirectPlayLite.Packet.RoundTrip
import DirectPlayLite.Peer.Endings
import DirectPlayLite.Peer.Groups

/-!
# Requests that want an answer

A peer that asks for something waits for the ack with the ID it has sent along.
The handlers of the requests about groups look the group up first, and what they
do when it is unknown differs: one of them forgets the answer, two of them use the
pointer the lookup has left NULL.
-/

namespace DirectPlayLite

open Monitor Program

/-!
## Packets by their type
-/

theorem serialise_rawPacket_take (type : UInt32) (calls : List Append) :
    (serialise type calls).rawPacket.take 4 = LittleEndian.bytes32 type := by
  rw [serialise_rawPacket, tlvHeader, List.append_assoc]
  exact List.take_left' (LittleEndian.bytes32_length type)

theorem serialise_type_inj {type type' : UInt32} {calls calls' : List Append}
    (h : (serialise type calls).rawPacket = (serialise type' calls').rawPacket) :
    type = type' := by
  have hbytes : LittleEndian.bytes32 type = LittleEndian.bytes32 type' := by
    rw [← serialise_rawPacket_take type calls, h, serialise_rawPacket_take]
  rw [← LittleEndian.word32_bytes32 type, hbytes, LittleEndian.word32_bytes32]

/-!
## The requests
-/

/-- A request that carries an ack ID, with what is read of its packet. -/
inductive AckedRequest where
  | playerinfo (player : DPNID) (name : WString) (data : List UInt8) (ackId : DWORD)
  | groupAllocate (ackId : DWORD)
  | groupJoin (group : DPNID) (ackId : DWORD) (name : WString) (data : List UInt8)
  | groupLeave (group : DPNID) (ackId : DWORD)

namespace AckedRequest

def ackId : AckedRequest -> DWORD
  | playerinfo _ _ _ ackId => ackId
  | groupAllocate ackId => ackId
  | groupJoin _ ackId _ _ => ackId
  | groupLeave _ ackId => ackId

def handler (peerId : UInt32) (pd : PacketDeserialiser) : AckedRequest -> Proc
  | playerinfo .. => .handlePlayerinfo peerId pd
  | groupAllocate .. => .handleGroupAllocate peerId pd
  | groupJoin .. => .handleGroupJoin peerId pd
  | groupLeave .. => .handleGroupLeave peerId pd

/-- The packet is the request, which a PLAYERINFO makes for its own player. -/
def ReadFrom (pd : PacketDeserialiser) (peer : Peer) : AckedRequest -> Prop
  | playerinfo player name data ackId =>
      pd.packetType = msgidPlayerinfo ∧ pd.getDword 0 = .ok player ∧
        pd.getWstring 1 = .ok name ∧ pd.getData 2 = .ok data ∧
        pd.getDword 3 = .ok ackId ∧ player = peer.playerId
  | groupAllocate ackId =>
      pd.packetType = msgidGroupAllocate ∧ pd.getDword 0 = .ok ackId
  | groupJoin group ackId name data =>
      pd.packetType = msgidGroupJoin ∧ pd.getDword 0 = .ok group ∧
        pd.getDword 1 = .ok ackId ∧ pd.getWstring 2 = .ok name ∧
        pd.getData 3 = .ok data
  | groupLeave group ackId =>
      pd.packetType = msgidGroupLeave ∧ pd.getDword 0 = .ok group ∧
        pd.getDword 1 = .ok ackId

def GroupKnown (s : DirectPlay8Peer) : AckedRequest -> Prop
  | playerinfo .. => True
  | groupAllocate .. => True
  | groupJoin group .. => group ∈ s.groups ∨ group ∈ s.destroyedGroups
  | groupLeave group .. => group ∈ s.groups ∨ group ∈ s.destroyedGroups

theorem packetHandler_eq {request : AckedRequest} {pd : PacketDeserialiser}
    {peer : Peer} (peerId : UInt32) (h : request.ReadFrom pd peer) :
    Action.packetHandler peerId pd = some (request.handler peerId pd) := by
  cases request with
  | playerinfo => rw [Action.packetHandler, h.1]; rfl
  | groupAllocate => rw [Action.packetHandler, h.1]; rfl
  | groupJoin => rw [Action.packetHandler, h.1]; rfl
  | groupLeave => rw [Action.packetHandler, h.1]; rfl

end AckedRequest

/-!
## Acks
-/

def IsAck (ackId : DWORD) (packet : List UInt8) : Prop :=
  exists result data, packet = (Action.ackPacket ackId result data).rawPacket

/-- The step places an ack with the ID on the send queue of the peer. -/
def Acknowledges (peerId : UInt32) (ackId : DWORD) (deed : Deed) : Prop :=
  exists proc priority packet handle callback,
    deed.2 = .exec proc (.peer peerId (.send priority packet handle callback)) ∧
      IsAck ackId packet ∧ peerId ∈ deed.1.peers

def IsConnected (peerId : UInt32) (s : DirectPlay8Peer) : Prop :=
  exists peer, s.peers[peerId]? = some peer ∧ peer.state = .connected

/--
Whatever the others do as long as they leave the peer connected, the handler ends
and has queued exactly one ack to it.
-/
def AckedRequest.Answered (s : DirectPlay8Peer) (peerId : UInt32)
    (pd : PacketDeserialiser) (request : AckedRequest) : Prop :=
  forall E : Around,
    (forall s s', E.others s s' -> IsConnected peerId s -> IsConnected peerId s') ->
    exists handler, Action.packetHandler peerId pd = some handler ∧
      handler.EndsIn E s fun _ past =>
        Deeds.Once (Acknowledges peerId request.ackId) past

theorem not_isAck {ackId : DWORD} {type : UInt32} {calls : List Append}
    (h : type ≠ msgidAck) : ¬ IsAck ackId (serialise type calls).rawPacket := by
  intro hack
  rcases hack with ⟨result, data, hsame⟩
  exact h (serialise_type_inj hsame)

section Answering

variable {E : Around} {p : Proc} {s : DirectPlay8Peer} {past : Deeds}
  {peerId : UInt32} {ackId : DWORD}

theorem acknowledges_sendAck (h : IsConnected peerId s) (result : HRESULT)
    (data : List UInt8) :
    Acknowledges peerId ackId (s, .exec p (.peer peerId
      (.send .high (Action.ackPacket ackId result data).rawPacket 0 .nothing))) := by
  refine ⟨p, .high, _, 0, .nothing, rfl, ⟨result, data, rfl⟩, ?_⟩
  rcases h with ⟨peer, hpeer, _⟩
  exact Std.ExtTreeMap.mem_iff_isSome_getElem?.mpr (by rw [hpeer]; rfl)

theorem not_acknowledges {command : Command}
    (h : forall other priority packet handle callback,
      command = .peer other (.send priority packet handle callback) ->
      ¬ IsAck ackId packet) :
    ¬ Acknowledges peerId ackId (s, .exec p command) := by
  intro hack
  rcases hack with ⟨proc, priority, packet, handle, callback, hdeed, hpacket, _⟩
  cases hdeed
  exact h _ _ _ _ _ rfl hpacket

theorem not_acknowledges_quiet {label : StepLabel} (h : label.IsQuiet) :
    ¬ Acknowledges peerId ackId (s, label) := by
  intro hack
  rcases hack with ⟨proc, priority, packet, handle, callback, hdeed, _⟩
  exact h _ _ hdeed

theorem IsConnected.changed (h : IsConnected peerId s) {other : UInt32}
    {change : PeerCommand}
    (hstate : forall addr peer, (change.apply addr peer).state = peer.state) :
    IsConnected peerId ((Command.peer other change).apply s) := by
  rcases h with ⟨peer, hpeer, hconnected⟩
  by_cases hsame : other = peerId
  · refine ⟨change.apply s.nextAddr peer, ?_, (hstate _ _).trans hconnected⟩
    rw [Command.getElem?_peer, if_pos hsame, hsame, hpeer]
    rfl
  · refine ⟨peer, ?_, hconnected⟩
    rw [Command.getElem?_peer, if_neg hsame]
    exact hpeer

def Unanswered (peerId : UInt32) (ackId : DWORD) (s : DirectPlay8Peer)
    (past : Deeds) : Prop :=
  IsConnected peerId s ∧ Deeds.Never (Acknowledges peerId ackId) past

theorem leads_toldConnected {type : UInt32} {calls : List Append}
    {f : Unit -> Action Unit} {post : Unit -> DirectPlay8Peer -> Deeds -> Prop}
    (htype : type ≠ msgidAck) (h : Unanswered peerId ackId s past)
    (hnext : forall s' past', Unanswered peerId ackId s' past' ->
      leads machine E p (f ()) post s' past') :
    leads machine E p
      (Action.sendToConnected .high (serialise type calls) .nothing >>= f)
      post s past := by
  rw [bind_eq, leads_bind]
  have huses : (Action.sendToConnected .high (serialise type calls) .nothing).Uses
      (Locked fun command => exists other, command = .peer other
        (.send .high (serialise type calls).rawPacket 0 .nothing)) :=
    Action.uses_sendToConnected fun other => ⟨other, rfl⟩
  have hkept : leads machine E p
      (Action.sendToConnected .high (serialise type calls) .nothing)
      (fun _ => Unanswered peerId ackId) s past := by
    apply leads_keeping huses _ _ h
    · intro command s past hcommand hopen
      rcases hcommand with ⟨other, rfl⟩
      constructor
      · exact hopen.1.changed fun _ _ => rfl
      · apply hopen.2.cons
        apply not_acknowledges
        intro _ _ _ _ _ hsame
        cases hsame
        exact not_isAck htype
    · intro s past label hquiet hopen
      exact ⟨hopen.1, hopen.2.cons (not_acknowledges_quiet hquiet)⟩
  apply leads_mono hkept
  intro _ s' past' hopen
  exact hnext s' past' hopen

theorem leads_sentAck {result : HRESULT} {data : List UInt8}
    {f : Unit -> Action Unit} {post : Unit -> DirectPlay8Peer -> Deeds -> Prop}
    (h : Unanswered peerId ackId s past)
    (hnext : forall s' past', Deeds.Once (Acknowledges peerId ackId) past' ->
      leads machine E p (f ()) post s' past') :
    leads machine E p (Action.sendAck peerId ackId result data >>= f) post
      s past := by
  show leads machine E p (f ()) post _ _
  exact hnext _ _ (h.2.once (acknowledges_sendAck h.1 result data))

theorem leads_raised_answered {notification : Notification}
    (h : Deeds.Once (Acknowledges peerId ackId) past) :
    leads machine E p
      (Action.raise notification >>= fun _ => (pure () : Action Unit))
      (fun _ _ past => Deeds.Once (Acknowledges peerId ackId) past) s past := by
  rw [leads_raise]
  intro s' answer _
  apply Deeds.Once.cons (not_acknowledges_quiet (by simp [Label.IsQuiet]))
  exact h.cons (not_acknowledges (by simp))

/-!
## The handlers
-/

theorem leads_caught {α : Type} {fields : Except PacketError α}
    {next : α -> Action Unit} {post : Unit -> DirectPlay8Peer -> Deeds -> Prop}
    (value : α) (hfields : fields = .ok value) :
    leads machine E p (Action.caught fields next) post s past ↔
      leads machine E p (next value) post s past := by
  subst hfields
  rfl

variable {pd : PacketDeserialiser} {peer : Peer}

theorem handlePlayerinfo_answers {player : DPNID} {name : WString}
    {data : List UInt8} (hpeer : s.peers[peerId]? = some peer)
    (hstate : peer.state = .connected)
    (hread : (AckedRequest.playerinfo player name data ackId).ReadFrom pd peer)
    (h : Unanswered peerId ackId s past) :
    leads machine E p (Action.handlePlayerinfo peerId pd)
      (fun _ _ past => Deeds.Once (Acknowledges peerId ackId) past) s past := by
  rcases hread with ⟨_, hplayer, hname, hdata, hack, hown⟩
  rw [Action.handlePlayerinfo, leads_assertedPeer hpeer,
    leads_caught (player, name, data, ackId)
      (by rw [hplayer, hname, hdata, hack]; rfl)]
  dsimp only
  rw [if_neg (not_not.mpr hstate), if_neg (not_not.mpr hown)]
  have hinfo : Unanswered peerId ackId
      ((Command.peer peerId (.setPlayerInfo name data)).apply s)
      ((s, .exec p (.peer peerId (.setPlayerInfo name data))) :: past) :=
    ⟨h.1.changed fun _ _ => rfl, h.2.cons (not_acknowledges (by simp))⟩
  apply leads_sentAck hinfo
  intro s' past' honce
  exact leads_raised_answered honce

theorem sendAck_answers (h : Unanswered peerId ackId s past) (result : HRESULT)
    (data : List UInt8) :
    leads machine E p (Action.sendAck peerId ackId result data)
      (fun _ _ past => Deeds.Once (Acknowledges peerId ackId) past) s past :=
  h.2.once (acknowledges_sendAck h.1 result data)

theorem handleGroupAllocate_answers (hpeer : s.peers[peerId]? = some peer)
    (hstate : peer.state = .connected)
    (hread : (AckedRequest.groupAllocate ackId).ReadFrom pd peer)
    (h : Unanswered peerId ackId s past) :
    leads machine E p (Action.handleGroupAllocate peerId pd)
      (fun _ _ past => Deeds.Once (Acknowledges peerId ackId) past) s past := by
  rw [Action.handleGroupAllocate, leads_assertedPeer hpeer, leads_get,
    leads_caught ackId hread.2, if_neg (not_not.mpr hstate)]
  have hallocated : Unanswered peerId ackId (Command.allocPlayerId.apply s)
      ((s, .exec p .allocPlayerId) :: past) :=
    ⟨h.1, h.2.cons (not_acknowledges (by simp))⟩
  rw [leads_perform]
  exact sendAck_answers hallocated sOk _

theorem leads_group_answered {groupId : DPNID} {change : GroupCommand}
    {notification : Notification}
    (h : Deeds.Once (Acknowledges peerId ackId) past) :
    leads machine E p (Action.perform (.group groupId change) >>= fun _ =>
        Action.raise notification >>= fun _ => (pure () : Action Unit))
      (fun _ _ past => Deeds.Once (Acknowledges peerId ackId) past) s past := by
  rw [leads_perform]
  exact leads_raised_answered (h.cons (not_acknowledges (by simp)))

theorem handleGroupJoin_answers {group : DPNID} {name : WString}
    {data : List UInt8} (hpeer : s.peers[peerId]? = some peer)
    (hstate : peer.state = .connected)
    (hread : (AckedRequest.groupJoin group ackId name data).ReadFrom pd peer)
    (hknown : group ∈ s.groups ∨ group ∈ s.destroyedGroups)
    (h : Unanswered peerId ackId s past) :
    leads machine E p (Action.handleGroupJoin peerId pd)
      (fun _ _ past => Deeds.Once (Acknowledges peerId ackId) past) s past := by
  rcases hread with ⟨_, hgroup, hack, hname, hdata⟩
  rw [Action.handleGroupJoin, leads_assertedPeer hpeer, leads_get,
    leads_caught (group, ackId, name, data)
      (by rw [hgroup, hack, hname, hdata]; rfl)]
  dsimp only
  rw [if_neg (not_not.mpr hstate)]
  split
  · exact sendAck_answers h dpnErrInvalidGroup []
  rename_i hlive
  split
  · rename_i hmissing
    rcases hknown with hthere | hdestroyed
    · rw [Std.ExtTreeMap.mem_iff_isSome_getElem?, hmissing] at hthere
      cases hthere
    · exact absurd hdestroyed hlive
  · split
    · exact sendAck_answers h dpnErrPlayerAlreadyInGroup []
    · apply leads_toldConnected (by decide) h
      intro s₁ past₁ h₁
      apply leads_sentAck h₁
      intro s₂ past₂ h₂
      exact leads_group_answered h₂

theorem handleGroupLeave_answers {group : DPNID}
    (hpeer : s.peers[peerId]? = some peer) (hstate : peer.state = .connected)
    (hread : (AckedRequest.groupLeave group ackId).ReadFrom pd peer)
    (hknown : group ∈ s.groups ∨ group ∈ s.destroyedGroups)
    (h : Unanswered peerId ackId s past) :
    leads machine E p (Action.handleGroupLeave peerId pd)
      (fun _ _ past => Deeds.Once (Acknowledges peerId ackId) past) s past := by
  rcases hread with ⟨_, hgroup, hack⟩
  rw [Action.handleGroupLeave, leads_assertedPeer hpeer, leads_get,
    leads_caught (group, ackId) (by rw [hgroup, hack]; rfl)]
  dsimp only
  rw [if_neg (not_not.mpr hstate)]
  split
  · exact sendAck_answers h dpnErrInvalidGroup []
  rename_i hlive
  split
  · rename_i hmissing
    rcases hknown with hthere | hdestroyed
    · rw [Std.ExtTreeMap.mem_iff_isSome_getElem?, hmissing] at hthere
      cases hthere
    · exact absurd hdestroyed hlive
  · split
    · exact sendAck_answers h dpnErrPlayerNotInGroup []
    · apply leads_toldConnected (by decide) h
      intro s₁ past₁ h₁
      apply leads_sentAck h₁
      intro s₂ past₂ h₂
      exact leads_group_answered h₂

/-!
## Groups that are not there
-/

/-- The group has neither been created nor destroyed here. -/
def GroupUnknown (group : DPNID) (s : DirectPlay8Peer) : Prop :=
  group ∉ s.groups ∧ group ∉ s.destroyedGroups

theorem GroupUnknown.missing {group : DPNID} (h : GroupUnknown group s) :
    s.groups[group]? = none := by
  rw [← Option.not_isSome_iff_eq_none, ← Std.ExtTreeMap.mem_iff_isSome_getElem?]
  exact h.1

theorem GroupUnknown.notDestroyed {group : DPNID} (h : GroupUnknown group s) :
    ¬ s.destroyedGroups.contains group = true := h.2

theorem contains_created {group : DPNID} {name : WString} {data : List UInt8}
    {ctx : Context} {notification : Notification} :
    ((Command.log (.raised notification)).apply
      ((Command.emplaceGroup group name data ctx).apply s)).groups.contains
        group = true := by
  show (s.groups.insertIfNew group (Group.new name data ctx)).contains group = true
  simp

theorem not_leads_created {group : DPNID} {name : WString} {data : List UInt8}
    {ctx : Context} {notification : Notification} {destroyed : Action Unit}
    {post : Unit -> DirectPlay8Peer -> Deeds -> Prop} :
    ¬ leads machine Around.still p
      (Action.perform (.emplaceGroup group name data ctx) >>= fun _ =>
        Action.raise notification >>= fun cg =>
        Action.get >>= fun s =>
        if s.groups.contains group then
          Action.perform (.group group (.setCtx cg.ctx)) >>= fun _ =>
            .abort .nullDereference
        else destroyed) post s past := by
  intro h
  rw [leads_perform, leads_raise] at h
  have hnext := h _ {} rfl
  rw [leads_get, if_pos contains_created] at hnext
  exact hnext

theorem handleGroupJoin_unknown {group : DPNID} {name : WString}
    {data : List UInt8} {post : Unit -> DirectPlay8Peer -> Deeds -> Prop}
    (hpeer : s.peers[peerId]? = some peer) (hstate : peer.state = .connected)
    (hread : (AckedRequest.groupJoin group ackId name data).ReadFrom pd peer)
    (hunknown : GroupUnknown group s) :
    ¬ leads machine Around.still p (Action.handleGroupJoin peerId pd) post
      s past := by
  intro h
  rcases hread with ⟨_, hgroup, hack, hname, hdata⟩
  rw [Action.handleGroupJoin, leads_assertedPeer hpeer, leads_get,
    leads_caught (group, ackId, name, data)
      (by rw [hgroup, hack, hname, hdata]; rfl)] at h
  dsimp only at h
  rw [if_neg (not_not.mpr hstate), if_neg hunknown.notDestroyed,
    hunknown.missing] at h
  exact not_leads_created h

theorem handleGroupJoined_unknown {group : DPNID} {name : WString}
    {data : List UInt8} {post : Unit -> DirectPlay8Peer -> Deeds -> Prop}
    (hpeer : s.peers[peerId]? = some peer) (hstate : peer.state = .connected)
    (hgroup : pd.getDword 0 = .ok group) (hname : pd.getWstring 1 = .ok name)
    (hdata : pd.getData 2 = .ok data) (hunknown : GroupUnknown group s) :
    ¬ leads machine Around.still p (Action.handleGroupJoined peerId pd) post
      s past := by
  intro h
  rw [Action.handleGroupJoined, leads_assertedPeer hpeer, leads_get,
    leads_caught (group, name, data) (by rw [hgroup, hname, hdata]; rfl)] at h
  dsimp only at h
  rw [if_neg (not_not.mpr hstate), if_neg hunknown.notDestroyed,
    hunknown.missing] at h
  exact not_leads_created h

theorem handleGroupLeave_unknown {group : DPNID} {E : Around}
    {post : Unit -> DirectPlay8Peer -> Deeds -> Prop}
    (hpeer : s.peers[peerId]? = some peer) (hstate : peer.state = .connected)
    (hread : (AckedRequest.groupLeave group ackId).ReadFrom pd peer)
    (hunknown : GroupUnknown group s) :
    leads machine E p (Action.handleGroupLeave peerId pd) post s past ↔
      post () s past := by
  rcases hread with ⟨_, hgroup, hack⟩
  rw [Action.handleGroupLeave, leads_assertedPeer hpeer, leads_get,
    leads_caught (group, ackId) (by rw [hgroup, hack]; rfl)]
  dsimp only
  rw [if_neg (not_not.mpr hstate), if_neg hunknown.notDestroyed, hunknown.missing]
  rfl

end Answering

/--
A request of a connected peer that stays connected is answered by exactly one ack,
if and only if the group it is about, where it is about one, is there or has been
destroyed.
-/
theorem answered_iff {s : DirectPlay8Peer} {peerId : UInt32} {peer : Peer}
    {pd : PacketDeserialiser} {request : AckedRequest}
    (hpeer : s.peers[peerId]? = some peer) (hstate : peer.state = .connected)
    (hread : request.ReadFrom pd peer) :
    request.Answered s peerId pd ↔ request.GroupKnown s := by
  constructor
  · intro h
    rcases h Around.still (fun s s' hsame hconnected => hsame ▸ hconnected) with
      ⟨handler, hhandler, hstill⟩
    rw [request.packetHandler_eq peerId hread] at hhandler
    cases hhandler
    rw [Proc.endsIn_iff] at hstill
    cases request with
    | playerinfo => trivial
    | groupAllocate => trivial
    | groupJoin group ackId name data =>
        by_contra hunknown
        exact handleGroupJoin_unknown hpeer hstate hread (not_or.mp hunknown) hstill
    | groupLeave group ackId =>
        by_contra hunknown
        have hnone := (handleGroupLeave_unknown hpeer hstate hread
          (not_or.mp hunknown)).mp hstill
        exact Deeds.not_once_nil hnone
  · intro hknown E _
    refine ⟨_, request.packetHandler_eq peerId hread, ?_⟩
    rw [Proc.endsIn_iff]
    have hopen : Unanswered peerId request.ackId s [] :=
      ⟨⟨peer, hpeer, hstate⟩, Deeds.never_nil⟩
    cases request with
    | playerinfo => exact handlePlayerinfo_answers hpeer hstate hread hopen
    | groupAllocate => exact handleGroupAllocate_answers hpeer hstate hread hopen
    | groupJoin => exact handleGroupJoin_answers hpeer hstate hread hknown hopen
    | groupLeave => exact handleGroupLeave_answers hpeer hstate hread hknown hopen

theorem groupLeave_readFrom (group : DPNID) (ackId : DWORD) (peer : Peer) :
    exists pd, (AckedRequest.groupLeave group ackId).ReadFrom pd peer := by
  rcases PacketDeserialiser.serialise_readsBack (Nat.le_refl 32) msgidGroupLeave
      [.dword group, .dword ackId]
      (by simp [serialise_rawPacket_length, Append.encodeAll_cons, Append.value]) []
      fun _ => 0 with ⟨pd, _, htype, _, hreads⟩
  exact ⟨pd, htype, (hreads 0 (by simp)).getDword, (hreads 1 (by simp)).getDword⟩

/-- The player 2 asks its host to leave the group 4, in which the host is not. -/
theorem answered_iff_member :
    exists (c : Run) (pd : PacketDeserialiser),
      Reaches machine DirectPlay8Peer.Constructed Unrestricted c ∧ c.Free ∧
        (AckedRequest.groupLeave 4 7).Answered c.state 0 pd := by
  have hrun : (replay Unrestricted choicesMember).any
      (fun c => decide (c.Free ∧ (4 : DPNID) ∈ c.state.groups ∧
        (c.state.peers[(0 : UInt32)]?).map Peer.state = some .connected)) =
          true := by
    decide +kernel
  rcases replay_reaches hrun with ⟨c, hc, htest⟩
  rcases of_decide_eq_true htest with ⟨hfree, hgroup, hconnected⟩
  rcases Option.map_eq_some_iff.mp hconnected with ⟨peer, hpeer, hstate⟩
  rcases groupLeave_readFrom 4 7 peer with ⟨pd, hread⟩
  exact ⟨c, pd, hc, hfree, (answered_iff hpeer hstate hread).mpr (Or.inl hgroup)⟩

theorem admitted_without_group :
    exists (c : Run) (peer : Peer),
      Reaches machine DirectPlay8Peer.Constructed Unrestricted c ∧ c.Free ∧
        c.state.peers[(0 : UInt32)]? = some peer ∧ peer.state = .connected ∧
        GroupUnknown 9 c.state := by
  have hrun : (replay Unrestricted choicesAdmit).any
      (fun c => decide (c.Free ∧ (9 : DPNID) ∉ c.state.groups ∧
        (9 : DPNID) ∉ c.state.destroyedGroups ∧
        (c.state.peers[(0 : UInt32)]?).map Peer.state = some .connected)) =
          true := by
    decide +kernel
  rcases replay_reaches hrun with ⟨c, hc, htest⟩
  rcases of_decide_eq_true htest with ⟨hfree, hmissing, hlive, hconnected⟩
  rcases Option.map_eq_some_iff.mp hconnected with ⟨peer, hpeer, hstate⟩
  exact ⟨c, peer, hc, hfree, hpeer, hstate, hmissing, hlive⟩

/-- The player 2 asks its host to leave the group 9, which the host does not know. -/
theorem groupLeave_not_answered :
    ¬ forall (c : Run) (peerId : UInt32) (peer : Peer) (pd : PacketDeserialiser)
      (request : AckedRequest),
      Reaches machine DirectPlay8Peer.Constructed Unrestricted c -> c.Free ->
      c.state.peers[peerId]? = some peer -> peer.state = .connected ->
      request.ReadFrom pd peer -> request.Answered c.state peerId pd := by
  intro hclaim
  rcases admitted_without_group with
    ⟨c, peer, hc, hfree, hpeer, hstate, hunknown⟩
  rcases groupLeave_readFrom 9 7 peer with ⟨pd, hread⟩
  rcases hclaim c 0 peer pd _ hc hfree hpeer hstate hread Around.still
    (fun s s' hsame hconnected => hsame ▸ hconnected) with
    ⟨handler, hhandler, hstill⟩
  rw [AckedRequest.packetHandler_eq 0 hread] at hhandler
  cases hhandler
  rw [Proc.endsIn_iff] at hstill
  exact Deeds.not_once_nil
    ((handleGroupLeave_unknown hpeer hstate hread hunknown).mp hstill)

/-!
## Groups heard of for the first time
-/

/-- A packet that tells of a member of a group. -/
inductive GroupNews where
  | join (group : DPNID) (ackId : DWORD) (name : WString) (data : List UInt8)
  | joined (group : DPNID) (name : WString) (data : List UInt8)

namespace GroupNews

def group : GroupNews -> DPNID
  | join group _ _ _ => group
  | joined group _ _ => group

def name : GroupNews -> WString
  | join _ _ name _ => name
  | joined _ name _ => name

def data : GroupNews -> List UInt8
  | join _ _ _ data => data
  | joined _ _ data => data

/-- Who is in the group: the local player, or the one that sends the packet. -/
def member (s : DirectPlay8Peer) (peer : Peer) : GroupNews -> DPNID
  | join .. => s.localPlayerId
  | joined .. => peer.playerId

def handler (peerId : UInt32) (pd : PacketDeserialiser) : GroupNews -> Proc
  | join .. => .handleGroupJoin peerId pd
  | joined .. => .handleGroupJoined peerId pd

def ReadFrom (pd : PacketDeserialiser) : GroupNews -> Prop
  | join group ackId name data =>
      pd.packetType = msgidGroupJoin ∧ pd.getDword 0 = .ok group ∧
        pd.getDword 1 = .ok ackId ∧ pd.getWstring 2 = .ok name ∧
        pd.getData 3 = .ok data
  | joined group name data =>
      pd.packetType = msgidGroupJoined ∧ pd.getDword 0 = .ok group ∧
        pd.getWstring 1 = .ok name ∧ pd.getData 2 = .ok data

theorem packetHandler_eq {news : GroupNews} {pd : PacketDeserialiser}
    (peerId : UInt32) (h : news.ReadFrom pd) :
    Action.packetHandler peerId pd = some (news.handler peerId pd) := by
  cases news with
  | join => rw [Action.packetHandler, h.1]; rfl
  | joined => rw [Action.packetHandler, h.1]; rfl

end GroupNews

/-- The messages to the application, latest first. -/
def Deeds.raised (past : Deeds) : List Notification :=
  past.filterMap fun deed =>
    match deed.2 with
    | .exec _ (.log (.raised notification)) => some notification
    | _ => none

/-- The step places a packet on the send queue of the peer. -/
def Deed.Sends (peerId : UInt32) (packet : PacketSerialiser) (deed : Deed) : Prop :=
  exists proc priority handle callback,
    deed.2 = .exec proc
        (.peer peerId (.send priority packet.rawPacket handle callback)) ∧
      peerId ∈ deed.1.peers

/--
The group has been created with its member, the application has been told, and all
the connected peers before the one that has asked.
-/
structure GroupNews.Instantiated (news : GroupNews) (s : DirectPlay8Peer)
    (peerId : UInt32) (peer : Peer) (s' : DirectPlay8Peer) (past : Deeds) :
    Prop where
  created : exists group, s'.groups[news.group]? = some group ∧
    group.name = news.name ∧ group.data = news.data ∧
    news.member s peer ∈ group.playerIds
  told : exists groupCtx ownerCtx ctx playerCtx,
    Deeds.raised past =
      [.addPlayerToGroup news.group ctx (news.member s peer) playerCtx,
        .createGroup news.group groupCtx ownerCtx]
  announced : forall group ackId name data, news = .join group ackId name data ->
    exists later ack earlier, past = later ++ ack :: earlier ∧
      Deed.Sends peerId (Action.ackPacket ackId sOk []) ack ∧
      forall other, IsConnected other s -> exists deed, deed ∈ earlier ∧
        Deed.Sends other (Action.groupJoinedPacket group (.new name data contextNull))
          deed

/-- The handler creates the group, with a message handler that changes nothing. -/
def GroupNews.Instantiates (news : GroupNews) (s : DirectPlay8Peer)
    (peerId : UInt32) (peer : Peer) (pd : PacketDeserialiser) : Prop :=
  exists handler, Action.packetHandler peerId pd = some handler ∧
    handler.EndsIn Around.still s (news.Instantiated s peerId peer)

/--
A group that has not been heard of is never created by the news of a member: the
handler uses the group it has not found.
-/
theorem groupNews_not_instantiates {s : DirectPlay8Peer} {peerId : UInt32}
    {peer : Peer} {pd : PacketDeserialiser} {news : GroupNews}
    (hpeer : s.peers[peerId]? = some peer) (hstate : peer.state = .connected)
    (hread : news.ReadFrom pd) (hunknown : GroupUnknown news.group s) :
    ¬ news.Instantiates s peerId peer pd := by
  intro h
  rcases h with ⟨handler, hhandler, hends⟩
  rw [news.packetHandler_eq peerId hread] at hhandler
  cases hhandler
  rw [Proc.endsIn_iff] at hends
  cases news with
  | join => exact handleGroupJoin_unknown hpeer hstate hread hunknown hends
  | joined =>
      rcases hread with ⟨_, hgroup, hname, hdata⟩
      exact handleGroupJoined_unknown hpeer hstate hgroup hname hdata
        hunknown hends

theorem groupJoined_readFrom (group : DPNID) :
    exists pd, (GroupNews.joined group [] []).ReadFrom pd := by
  rcases PacketDeserialiser.serialise_readsBack (Nat.le_refl 32) msgidGroupJoined
      [.dword group, .wstring [], .data []]
      (by simp [serialise_rawPacket_length, Append.encodeAll_cons, Append.value]) []
      fun _ => 0 with ⟨pd, _, htype, _, hreads⟩
  exact ⟨pd, htype, (hreads 0 (by simp)).getDword, (hreads 1 (by simp)).getWstring,
    (hreads 2 (by simp)).getData⟩

/-- The player 2 tells its host of the group 9, which the host does not know. -/
theorem groupNews_not_instantiates_joined :
    exists (c : Run) (peer : Peer) (pd : PacketDeserialiser),
      Reaches machine DirectPlay8Peer.Constructed Unrestricted c ∧ c.Free ∧
        c.state.peers[(0 : UInt32)]? = some peer ∧
        (GroupNews.joined 9 [] []).ReadFrom pd ∧
        ¬ (GroupNews.joined 9 [] []).Instantiates c.state 0 peer pd := by
  rcases admitted_without_group with
    ⟨c, peer, hc, hfree, hpeer, hstate, hunknown⟩
  rcases groupJoined_readFrom 9 with ⟨pd, hread⟩
  exact ⟨c, peer, pd, hc, hfree, hpeer, hread,
    groupNews_not_instantiates hpeer hstate hread hunknown⟩

theorem groupJoined_not_instantiated :
    ¬ forall (c : Run) (peerId : UInt32) (peer : Peer) (pd : PacketDeserialiser)
      (news : GroupNews),
      Reaches machine DirectPlay8Peer.Constructed Unrestricted c -> c.Free ->
      c.state.peers[peerId]? = some peer -> peer.state = .connected ->
      news.ReadFrom pd -> GroupUnknown news.group c.state ->
      news.Instantiates c.state peerId peer pd := by
  intro hclaim
  rcases admitted_without_group with
    ⟨c, peer, hc, hfree, hpeer, hstate, hunknown⟩
  rcases groupJoined_readFrom 9 with ⟨pd, hread⟩
  rcases hclaim c 0 peer pd _ hc hfree hpeer hstate hread hunknown with
    ⟨handler, hhandler, hends⟩
  rw [GroupNews.packetHandler_eq 0 hread] at hhandler
  cases hhandler
  rw [Proc.endsIn_iff] at hends
  rcases hread with ⟨_, hgroup, hname, hdata⟩
  exact handleGroupJoined_unknown hpeer hstate hgroup hname hdata hunknown hends

end DirectPlayLite
