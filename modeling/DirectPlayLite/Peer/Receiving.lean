import DirectPlayLite.Peer.Notices

/-!
# Who a message is from

A packet with a message names its sender.  `handle_message` looks the player up,
and never at the connection the packet came from.
-/

namespace DirectPlayLite

open Monitor Program

/-!
## Messages given to the application
-/

/--
The holder of the lock gives the application a message of a sender while it is in
a procedure, before it releases the lock.
-/
inductive Gives (proc : Proc) (callers : List (Proc × Action Unit))
    (sender : DPNID) : Run -> Prop where
  | now {c c' : Run} {ctx : Context} {payload : List UInt8} {flags : DWORD} :
      Step machine c
        (.exec proc (.log (.raised (.receive sender ctx payload flags)))) c' ->
      Gives proc callers sender c
  | later {c c' : Run} {label : StepLabel} {code : Action Unit} :
      Step machine c label c' -> c'.running = some ⟨proc, code, callers⟩ ->
      Gives proc callers sender c' -> Gives proc callers sender c

/-- A message of a sender is given by the procedure that has just been entered. -/
def GivesReceive (c : Run) (sender : DPNID) : Prop :=
  exists t, c.running = some t ∧ Gives t.proc t.callers sender c

def DirectPlay8Peer.OwnPlayer (s : DirectPlay8Peer) (peerId : UInt32)
    (player : DPNID) : Prop :=
  exists peer, s.peers[peerId]? = some peer ∧ peer.state = .connected ∧
    peer.playerId = player

/-- What `handle_message` reads of a packet: the sender and the payload. -/
def messageFields (pd : PacketDeserialiser) :
    Except PacketError (DPNID × List UInt8) := do
  let fromPlayerId ← pd.getDword 0
  let payload ← pd.getData 1
  let _ ← pd.getDword 2
  return (fromPlayerId, payload)

/-- The sender a packet names is not known, or the peer's own player. -/
def NamesItself (s : DirectPlay8Peer) (peerId : UInt32)
    (pd : PacketDeserialiser) : Prop :=
  forall sender payload, messageFields pd = .ok (sender, payload) ->
    s.getPeerByPlayerId sender ≠ none -> s.OwnPlayer peerId sender

namespace Action

def giveTo (fromPlayerId : DPNID) (payload : List UInt8) :
    Option Peer -> Action Unit
  | none => pure ()
  | some peer => do
      let _ ← raise (.receive fromPlayerId peer.playerCtx payload 0)
      pure ()

theorem handleMessage_eq (pd : PacketDeserialiser) :
    handleMessage pd =
      caught (messageFields pd) fun fields =>
        .read fun s => giveTo fields.1 fields.2 (s.getPeerByPlayerId fields.1) :=
  rfl

end Action

section Giving

variable {s : DirectPlay8Peer} {proc : Proc}
  {callers : List (Proc × Action Unit)}
  {parked : List (Parked DirectPlay8Peer Command Query Answer Proc Fault)}
  {sender : DPNID}

theorem Gives.not_ret
    (h : Gives proc callers sender ⟨s, some ⟨proc, .ret (), callers⟩, parked, none⟩) :
    False := by
  cases h with
  | now hstep => cases hstep
  | later hstep hrunning =>
      cases hstep with
      | «return» =>
          injection hrunning with hthread
          have hcallers := congrArg Thread.callers hthread
          exact List.cons_ne_self _ _ hcallers.symm
      | finish => cases hrunning

theorem Gives.read {next : DirectPlay8Peer -> Action Unit}
    (h : Gives proc callers sender
      ⟨s, some ⟨proc, .read next, callers⟩, parked, none⟩) :
    Gives proc callers sender
      ⟨s, some ⟨proc, next s, callers⟩, parked, none⟩ := by
  cases h with
  | now hstep => cases hstep
  | later hstep _ hgives =>
      cases hstep with
      | read => exact hgives

theorem Gives.receive {player : DPNID} {ctx : Context} {payload : List UInt8}
    {flags : DWORD} {next : Answer -> Action Unit} {query : Query}
    {ready : DirectPlay8Peer -> Bool}
    (h : Gives proc callers sender
      ⟨s, some ⟨proc, .exec (.log (.raised (.receive player ctx payload flags)))
        (.release query ready next), callers⟩, parked, none⟩) :
    sender = player := by
  cases h with
  | now hstep =>
      cases hstep with
      | exec => rfl
  | later hstep _ hgives =>
      cases hstep with
      | exec =>
          cases hgives with
          | now hstep => cases hstep
          | later hstep hrunning =>
              cases hstep with
              | release => cases hrunning

theorem gives_handleMessage_iff {pd : PacketDeserialiser} :
    Gives (.handleMessage pd) callers sender
        ⟨s, some ⟨.handleMessage pd, Action.handleMessage pd, callers⟩, parked,
          none⟩ ↔
      exists payload, messageFields pd = .ok (sender, payload) ∧
        s.getPeerByPlayerId sender ≠ none := by
  rw [Action.handleMessage_eq]
  cases hfields : messageFields pd with
  | error error =>
      constructor
      · intro hgives
        exact hgives.not_ret.elim
      · rintro ⟨payload, himpossible, _⟩
        cases himpossible
  | ok fields =>
      obtain ⟨named, payload⟩ := fields
      constructor
      · intro hgives
        have hread : Gives (.handleMessage pd) callers sender
            ⟨s, some ⟨.handleMessage pd,
              Action.giveTo named payload (s.getPeerByPlayerId named), callers⟩,
              parked, none⟩ := Gives.read hgives
        cases hfound : s.getPeerByPlayerId named with
        | none =>
            rw [hfound] at hread
            exact hread.not_ret.elim
        | some peer =>
            rw [hfound] at hread
            have hsender := Gives.receive hread
            subst hsender
            refine ⟨payload, rfl, ?_⟩
            rw [hfound]
            exact Option.some_ne_none peer
      · rintro ⟨other, hsame, hknown⟩
        cases hsame
        obtain ⟨peer, hpeer⟩ := Option.ne_none_iff_exists'.mp hknown
        refine .later .read rfl ?_
        show Gives _ _ _ ⟨s, some ⟨.handleMessage pd,
          Action.giveTo sender payload (s.getPeerByPlayerId sender), callers⟩,
          parked, none⟩
        rw [hpeer]
        exact .now .exec

end Giving

/-- The application's own messages come back to it without a connection. -/
def Proc.loopsBack : Proc -> Bool
  | sendTo .. | handleWork => true
  | _ => false

theorem Proc.receives {p : Proc} (h : Notice.receive ∈ p.notices) :
    p.loopsBack = true ∨ exists pd, p = .handleMessage pd := by
  cases p with
  | sendTo => exact Or.inl rfl
  | handleWork => exact Or.inl rfl
  | handleMessage pd => exact Or.inr ⟨pd, rfl⟩
  | _ => simp at h

theorem givesReceive_iff {c c' : Run} {p : Proc} {pd : PacketDeserialiser}
    (hstep : Step machine c (.call p (.handleMessage pd)) c') (sender : DPNID) :
    GivesReceive c' sender ↔
      exists payload, messageFields pd = .ok (sender, payload) ∧
        c.state.getPeerByPlayerId sender ≠ none := by
  cases hstep with
  | call =>
      rw [← gives_handleMessage_iff]
      constructor
      · rintro ⟨t, hrunning, hgives⟩
        cases hrunning
        exact hgives
      · intro hgives
        exact ⟨_, rfl, hgives⟩

/--
The packets of a connection give the application messages of the connection's own
player alone, exactly as far as they name it or nobody; and messages come from
nowhere else but the application itself.
-/
theorem receives_own_player {c c' : Run} {peerId : UInt32}
    {pd : PacketDeserialiser}
    (hstep : Step machine c
      (.call (.ioPeerRecvPackets peerId) (.handleMessage pd)) c') :
    ((forall sender, GivesReceive c' sender ->
        c.state.OwnPlayer peerId sender) ↔
      NamesItself c.state peerId pd) ∧
    forall (run run' : Run) (p : Proc) (sender : DPNID) (ctx : Context)
      (payload : List UInt8) (flags : DWORD),
      Reaches machine DirectPlay8Peer.Constructed Unrestricted run ->
      Step machine run
        (.exec p (.log (.raised (.receive sender ctx payload flags)))) run' ->
      p.loopsBack = true ∨ exists pd, p = .handleMessage pd := by
  constructor
  · constructor
    · intro hown sender payload hfields hknown
      exact hown sender ((givesReceive_iff hstep sender).mpr
        ⟨payload, hfields, hknown⟩)
    · intro hnames sender hgives
      obtain ⟨payload, hfields, hknown⟩ :=
        (givesReceive_iff hstep sender).mp hgives
      exact hnames sender payload hfields hknown
  · intro run run' p sender ctx payload flags hrun hstep
    have hnotices := hrun.exec_uses Proc.body_keepsNotices hstep
    exact p.receives (hnotices .receive rfl)

/-!
## Two messages
-/

def choicesMessage (peerId : UInt32) (sender : DPNID) :
    List (Choice Answer Proc) :=
  (choicesReceive peerId (serialise msgidMessage
    [.dword sender, .data [], .dword 0]).rawPacket).dropLast

def StepLabel.handsMessage (peerId : UInt32) : StepLabel -> Bool
  | .call (.ioPeerRecvPackets receiver) (.handleMessage _) => receiver == peerId
  | _ => false

theorem StepLabel.handsMessage_iff {peerId : UInt32} {label : StepLabel}
    (h : label.handsMessage peerId = true) :
    exists pd, label = .call (.ioPeerRecvPackets peerId) (.handleMessage pd) := by
  unfold handsMessage at h
  split at h
  · rename_i receiver pd
    rw [beq_iff_eq] at h
    subst h
    exact ⟨pd, rfl⟩
  · cases h

def Run.handlesMessageOf (c : Run) (sender : DPNID) : Bool :=
  match c.running with
  | some ⟨.handleMessage pd, _, _⟩ =>
      match messageFields pd with
      | .ok (named, _) => named == sender
      | .error _ => false
  | _ => false

theorem Run.handlesMessageOf_iff {c c' : Run} {p : Proc}
    {pd : PacketDeserialiser} {sender : DPNID}
    (hstep : Step machine c (.call p (.handleMessage pd)) c')
    (h : Run.handlesMessageOf c' sender = true) :
    exists payload, messageFields pd = .ok (sender, payload) := by
  cases hstep with
  | call =>
      unfold handlesMessageOf at h
      dsimp only at h
      split at h
      · rename_i named payload hfields
        rw [beq_iff_eq] at h
        subst h
        exact ⟨payload, hfields⟩
      · cases h

/-- A client that has been let in sends a message of its own, its host nothing. -/
theorem receives_own_player_own :
    exists (c c' : Run) (pd : PacketDeserialiser),
      Reaches machine DirectPlay8Peer.Constructed Unrestricted c ∧
        Step machine c (.call (.ioPeerRecvPackets 0) (.handleMessage pd)) c' ∧
        GivesReceive c' 2 ∧ c.state.OwnPlayer 0 2 := by
  have hrun : (replayTo Unrestricted (StepLabel.handsMessage 0)
      (choicesAdmit ++ [.start (.ioPeerTriggered 0),
        .answer { ret := -1, err := wsaEWouldBlock }] ++
        (choicesMessage 0 2).drop 1) (.answer {})).any
      (fun q => Run.handlesMessageOf q.2 2 &&
        ((q.1.state.getPeerByPlayerId 2).isSome &&
          decide ((q.1.state.peers[(0 : UInt32)]?).map
            (fun peer => (peer.state, peer.playerId)) =
              some (.connected, 2)))) = true := by
    decide +kernel
  rcases replayTo_step hrun with ⟨c, c', label, hc, hwanted, hstep, htest⟩
  obtain ⟨pd, rfl⟩ := StepLabel.handsMessage_iff hwanted
  rw [Bool.and_eq_true, Bool.and_eq_true] at htest
  obtain ⟨hnamed, hknown, hconnected⟩ := htest
  obtain ⟨payload, hfields⟩ := Run.handlesMessageOf_iff hstep hnamed
  have hgives := (givesReceive_iff hstep 2).mpr
    ⟨payload, hfields, Option.isSome_iff_ne_none.mp hknown⟩
  obtain ⟨peer, hpeer, hboth⟩ :=
    Option.map_eq_some_iff.mp (of_decide_eq_true hconnected)
  have hown : c.state.OwnPlayer 0 2 :=
    ⟨peer, hpeer, congrArg Prod.fst hboth, congrArg Prod.snd hboth⟩
  have hnames : NamesItself c.state 0 pd := by
    intro sender other hsame _
    rw [hfields] at hsame
    cases hsame
    exact hown
  exact ⟨c, c', pd, hc, hstep, hgives,
    (receives_own_player hstep).1.mpr hnames 2 hgives⟩

/-- A connection that has only been accepted sends a message of another player. -/
theorem receives_other_player :
    ¬ forall (c c' : Run) (peerId : UInt32) (pd : PacketDeserialiser)
      (sender : DPNID),
      Reaches machine DirectPlay8Peer.Constructed Unrestricted c ->
      Step machine c (.call (.ioPeerRecvPackets peerId) (.handleMessage pd)) c' ->
      GivesReceive c' sender -> c.state.OwnPlayer peerId sender := by
  intro hclaim
  have hrun : (replayTo Unrestricted (StepLabel.handsMessage 1)
      (choicesAdmit ++ choicesAccept ++ choicesMessage 1 2) (.answer {})).any
      (fun q => Run.handlesMessageOf q.2 2 &&
        ((q.1.state.getPeerByPlayerId 2).isSome &&
          decide ((q.1.state.peers[(1 : UInt32)]?).map Peer.state =
            some .accepted))) = true := by
    decide +kernel
  rcases replayTo_step hrun with ⟨c, c', label, hc, hwanted, hstep, htest⟩
  obtain ⟨pd, rfl⟩ := StepLabel.handsMessage_iff hwanted
  rw [Bool.and_eq_true, Bool.and_eq_true] at htest
  obtain ⟨hnamed, hknown, haccepted⟩ := htest
  obtain ⟨payload, hfields⟩ := Run.handlesMessageOf_iff hstep hnamed
  have hgives := (givesReceive_iff hstep 2).mpr
    ⟨payload, hfields, Option.isSome_iff_ne_none.mp hknown⟩
  obtain ⟨peer, hpeer, hconnected, _⟩ := hclaim c c' 1 pd 2 hc hstep hgives
  have hstate := of_decide_eq_true haccepted
  rw [hpeer, Option.map_some, hconnected] at hstate
  cases hstate

end DirectPlayLite
