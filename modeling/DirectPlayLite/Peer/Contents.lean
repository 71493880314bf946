import DirectPlayLite.Lib.Monitor.Prompts
import DirectPlayLite.Peer.Handling

/-!
# What is in the packets

The deserialiser makes the same of a packet at both ends of a connection.  What the calls
of handlers at one end are about can so be read off the ops that have been queued at the
other.
-/

namespace DirectPlayLite

open Monitor Program

/-!
## One packet
-/

namespace PacketDeserialiser

theorem Constructs.fuel {w : Nat} {mem : Memory} {size : Nat} {pd : PacketDeserialiser}
    (h : Constructs w mem size (.ok pd)) :
    construct w (pd.fields.length + 1) mem size = some (.ok pd) := by
  rcases constructs_ok_iff.mp h with ⟨hlong, hsize, hmemory, hheader, hchain⟩
  cases pd
  cases hmemory
  cases hheader
  unfold construct
  rw [if_neg (by omega), hchain.fieldLoop]
  rfl

end PacketDeserialiser

def parsed (packet : List UInt8) : Option PacketDeserialiser :=
  (PacketDeserialiser.construct 32 (packet.length + 1) (bufferOf packet fun _ => 0)
    packet.length).bind Except.toOption

def Proc.packetType : Proc -> Option DWORD
  | .handleHostConnectRequest .. => some msgidConnectHost
  | .handleHostConnectOk .. => some msgidConnectHostOk
  | .handleHostConnectFail .. => some msgidConnectHostFail
  | .handleMessage .. => some msgidMessage
  | .handlePlayerinfo .. => some msgidPlayerinfo
  | .handleAck .. => some msgidAck
  | .handleAppdesc .. => some msgidAppdesc
  | .handleConnectPeer .. => some msgidConnectPeer
  | .handleConnectPeerOk .. => some msgidConnectPeerOk
  | .handleConnectPeerFail .. => some msgidConnectPeerFail
  | .handleDestroyPeer .. => some msgidDestroyPeer
  | .handleTerminateSession .. => some msgidTerminateSession
  | .handleGroupAllocate .. => some msgidGroupAllocate
  | .handleGroupCreate .. => some msgidGroupCreate
  | .handleGroupDestroy .. => some msgidGroupDestroy
  | .handleGroupJoin .. => some msgidGroupJoin
  | .handleGroupJoined .. => some msgidGroupJoined
  | .handleGroupLeave .. => some msgidGroupLeave
  | .handleGroupLeft .. => some msgidGroupLeft
  | _ => none

section Packets

variable {packet : List UInt8} {pd : PacketDeserialiser}

theorem parsed_type (h : parsed packet = some pd) : pd.packetType = typeOfPacket packet := by
  rcases Option.bind_eq_some_iff.mp h with ⟨result, hresult, hok⟩
  cases result with
  | error error => cases hok
  | ok found =>
      cases hok
      exact packetType_of_constructs ⟨_, hresult⟩

theorem parsed_serialise {type : UInt32} {calls : List Append}
    (h32 : (serialise type calls).rawPacket.length < 2 ^ 32)
    (hpd : PacketDeserialiser.Constructs 32 (bufferOf (serialise type calls).rawPacket fun _ => 0)
      (serialise type calls).rawPacket.length (.ok pd)) :
    parsed (serialise type calls).rawPacket = some pd := by
  have hholds := bufferOf_holds (serialise type calls).rawPacket [] fun _ => 0
  rw [List.append_nil] at hholds
  have hfields : pd.fields.length = calls.length := by
    cases hpd.unique (PacketDeserialiser.constructs_serialise (Nat.le_refl 32) h32 hholds
      (Nat.le_refl _))
    exact Append.offsets_length _ _
  have hfew : pd.fields.length + 1 ≤ (serialise type calls).rawPacket.length + 1 := by
    have hle := Action.length_le_encodeAll calls
    rw [serialise_rawPacket_length]
    omega
  rw [parsed, PacketDeserialiser.construct_mono hfew hpd.fuel]
  rfl

theorem parsed_message {m : Message} {s : DirectPlay8Peer} (hmeant : m.MeantFor s)
    (h32 : m.packet.rawPacket.length < 2 ^ 32) :
    exists pd, parsed m.packet.rawPacket = some pd ∧ pd.packetType = m.msgid ∧
      m.Recovered s pd := by
  rcases Message.arrives hmeant h32 0 [] fun _ => 0 with ⟨pd, hpd, htype, _, hrecovered⟩
  rw [List.append_nil, Message.packet_eq] at hpd
  rw [Message.packet_eq] at h32
  refine ⟨pd, ?_, htype, hrecovered⟩
  rw [Message.packet_eq]
  exact parsed_serialise h32 hpd

theorem Hands.packetType {peerId : UInt32} {handler : Proc} (h : Hands packet peerId handler) :
    handler.packetType = some (typeOfPacket packet) := by
  rcases h with ⟨pd, beyond, hpd, hhandler⟩
  rw [← packetType_of_constructs hpd]
  unfold Action.packetHandler at hhandler
  split at hhandler
  case h_20 => cases hhandler
  all_goals
    rename_i heq
    cases hhandler
    exact congrArg some (UInt32.toNat_inj.mp heq.symm)

end Packets

/-!
## What has been queued
-/

section Queued

variable {past : Deeds} {s : DirectPlay8Peer} {label : StepLabel} {addr : Nat}
  {choice : SendPriority × Sending}

def queuedBy (addr : Nat) (s : DirectPlay8Peer) (label : StepLabel) :
    Option (SendPriority × Sending) :=
  (writing.event s label).bind (WritingEvent.queuedOf addr)

theorem opsQueued_cons_deed : opsQueued addr (writingRecord ((s, label) :: past)) =
    opsQueued addr (writingRecord past) ++ (queuedBy addr s label).toList := by
  show opsQueued addr (writing.note s label (writingRecord past)) = _
  rw [Custody.note, queuedBy]
  cases writing.event s label with
  | none => simp
  | some event => simp

theorem queuedBy_mem (hdeed : (s, label) ∈ past) (h : queuedBy addr s label = some choice) :
    choice ∈ opsQueued addr (writingRecord past) := by
  induction past with
  | nil => cases hdeed
  | cons deed past ih =>
      rcases deed with ⟨s', label'⟩
      rw [opsQueued_cons_deed]
      rcases List.mem_cons.mp hdeed with heq | hdeed
      · cases heq
        exact List.mem_append_right _ (Option.mem_toList.mpr h)
      · exact List.mem_append_left _ (ih hdeed)

theorem queuedBy_some (h : queuedBy addr s label = some choice) :
    exists p peerId peer handle callback,
      label = .exec p (.peer peerId (.send choice.1 choice.2.data handle callback)) ∧
        choice.2.asyncHandle = handle ∧ s.peers[peerId]? = some peer ∧ peer.addr = addr := by
  rcases choice with ⟨priority, op⟩
  rcases Option.bind_eq_some_iff.mp h with ⟨event, hevent, hqueued⟩
  cases queuedOf_eq_some hqueued
  rcases writing_event hevent with ⟨p, command, rfl, hwrites⟩ |
    ⟨_, _, _, _, _, _, _, _, _, himpossible⟩
  · rcases writes_queued hwrites with ⟨peerId, peer, handle, callback, rfl, hpeer, haddr⟩
    refine ⟨p, peerId, peer, handle, callback, rfl, ?_, hpeer, haddr⟩
    have hsome : (s.peers[peerId]?).bind (fun found =>
        (PeerCommand.send priority op.data handle callback).writes found s.nextAddr) =
          some (.queued addr priority op) := hwrites
    rw [hpeer] at hsome
    injection Option.some.inj hsome with _ _ hop
    rw [← hop]
  · cases himpossible

theorem opsQueued_filterMap {β : Type} {f : SendPriority × Sending -> Option β}
    {g : DirectPlay8Peer -> StepLabel -> Option β}
    (h : forall s label, (s, label) ∈ past -> (queuedBy addr s label).bind f = g s label) :
    (opsQueued addr (writingRecord past)).filterMap f =
      past.reverse.filterMap fun deed => g deed.1 deed.2 := by
  induction past with
  | nil => rfl
  | cons deed past ih =>
      rcases deed with ⟨s, label⟩
      have hnow := h s label List.mem_cons_self
      rw [opsQueued_cons_deed, List.filterMap_append, List.reverse_cons, List.filterMap_append,
        ih fun s label hdeed => h s label (List.mem_cons_of_mem _ hdeed)]
      congr 1
      show _ = (g s label).toList
      rw [← hnow]
      cases queuedBy addr s label with
      | none => rfl
      | some choice =>
          show [choice].filterMap f = (f choice).toList
          cases hf : f choice <;> simp [hf]

end Queued

/-!
## What has been called
-/

/-- The calls of handlers for a peer, with the state they are made in. -/
def handlesFor (addr : Nat) (call : DirectPlay8Peer × Proc × Proc) : Bool :=
  (handlerOf addr call.1 (.call call.2.1 call.2.2)).isSome

section Calls

variable {past : Deeds} {addr : Nat}

theorem handlerOf_callee {s : DirectPlay8Peer} {p callee : Proc} {call : UInt32 × Proc}
    (h : handlerOf addr s (.call p callee) = some call) : call.2 = callee := by
  cases p with
  | ioPeerRecvPackets peerId =>
      rw [handlerOf] at h
      split at h
      · cases h
        rfl
      · cases h
  | _ => cases h

theorem handlersCalled_eq : (handlersCalled addr past).map Prod.snd =
    (Prompt.callsOf (handlesFor addr) past).map fun call => call.2.2 := by
  induction past with
  | nil => rfl
  | cons deed past ih =>
      rcases deed with ⟨s, label⟩
      rw [handlersCalled_cons, List.map_append, ih]
      cases label with
      | call p callee =>
          show _ = (Prompt.callsOf (handlesFor addr) past ++
            if handlesFor addr (s, p, callee) then [(s, p, callee)] else []).map _
          rw [List.map_append]
          congr 1
          cases hcalled : handlerOf addr s (.call p callee) with
          | none => simp [handlesFor, hcalled]
          | some call =>
              simp [handlesFor, hcalled, handlerOf_callee hcalled]
      | _ => exact List.append_nil _

end Calls

/-!
## Two ends of a connection
-/

/-- Both ends of a connection have come to rest, and everything written has been read. -/
structure AllRead (a : Nat) (sender : Deeds) (c : Run) (b : Nat) (receiver : Deeds) (d : Run) :
    Prop where
  read : bytesRead b (readingRecord receiver) = bytesAccepted a (writingRecord sender)
  whole : AllWhole a (writingRecord sender)
  free : c.Free ∧ d.Free
  sent : exists (peerId : UInt32) (peer : Peer),
    c.state.peers[peerId]? = some peer ∧ peer.addr = a ∧ peer.HasSentAll
  idle : exists (peerId : UInt32) (peer : Peer),
    d.state.peers[peerId]? = some peer ∧ peer.addr = b ∧ peer.recvBusy = false

section Connection

variable {sender receiver : Deeds} {c d : Run} {a b : Nat}

theorem AllRead.settled (h : AllRead a sender c b receiver d)
    (hs : Traced machine DirectPlay8Peer.Constructed sender c)
    (hr : Traced machine DirectPlay8Peer.Constructed receiver d)
    (hfew : (takenPeerIds receiver).length ≤ 2 ^ 32) (hjoined : Joined a sender b receiver) :
    packetsRead b (readingRecord receiver) = packetsChosen a (writingRecord sender) ∧
      forall priority,
        (atPriority priority (opsChosen a (writingRecord sender))).filter SendOp.isOwn =
          (atPriority priority (opsQueued a (writingRecord sender))).filter SendOp.isOwn := by
  rcases h.sent with ⟨peerId, peer, hpeer, rfl, hsent⟩
  rcases h.idle with ⟨peerId', peer', hpeer', rfl, hidle⟩
  rcases packetsRead_all hs hr hfew hjoined h.read h.free.1 hpeer hsent h.whole h.free.2 hpeer'
    hidle with ⟨hpackets, _, hown⟩
  exact ⟨hpackets, hown⟩

theorem handled_calls (hs : Traced machine DirectPlay8Peer.Constructed sender c)
    (hr : Traced machine DirectPlay8Peer.Constructed receiver d)
    (hfew : (takenPeerIds receiver).length ≤ 2 ^ 32) (hjoined : Joined a sender b receiver) :
    exists choices, choices <+: opsChosen a (writingRecord sender) ∧
      List.Forall₂ (fun choice call => choice ∈ opsQueued a (writingRecord sender) ∧
        exists peerId, Hands choice.2.data peerId call.2.2) choices
        (Prompt.callsOf (handlesFor b) receiver) ∧
      (AllRead a sender c b receiver d -> choices = opsChosen a (writingRecord sender)) := by
  rcases handled_choices hs hr hfew hjoined with ⟨choices, hchoices, hhands, hread⟩
  have hhandlers : List.Forall₂ (fun choice handler => exists peerId,
      Hands choice.2.data peerId handler) choices
      ((handlersCalled b receiver).map Prod.snd) :=
    List.forall₂_map_right_iff.mpr (hhands.imp fun choice call h => ⟨_, h.2⟩)
  rw [handlersCalled_eq] at hhandlers
  refine ⟨choices, hchoices, ?_, ?_⟩
  · exact (List.forall₂_and_left choices _).mpr
      ⟨fun choice hchoice => chosen_queued hs (hchoices.subset hchoice),
        List.forall₂_map_right_iff.mp hhandlers⟩
  · intro hall
    apply hchoices.eq_of_length
    have hpackets := (hall.settled hs hr hfew hjoined).1
    have hlengths := congrArg List.length ((hread hall.free.2).symm.trans hpackets)
    simpa [packetsChosen] using hlengths

end Connection

end DirectPlayLite
