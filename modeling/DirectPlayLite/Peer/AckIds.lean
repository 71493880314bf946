import DirectPlayLite.Lib.Monitor.Observers
import DirectPlayLite.Peer.Accounts
import DirectPlayLite.Peer.Endings
import DirectPlayLite.Peer.Welcome

/-!
# The IDs of acks

Whoever asks a peer for something takes an ID, and puts the request on the send queue
under the same lock.  The callback of the answer is registered when the request has been
sent, before anybody else can take the lock.
-/

namespace DirectPlayLite

open Monitor Program

/-!
## Requests
-/

namespace SendCallback

/-- The ID of the ack that is waited for once the packet has been sent. -/
@[simp] def ackId : SendCallback -> Option DWORD
  | requested _ ackId _ | groupRequested _ ackId _ => some ackId
  | _ => none

@[simp] def answer : SendCallback -> Option AckCallback
  | requested _ _ completion => some (.complete completion)
  | groupRequested _ _ request => some (.groupAllocated request)
  | _ => none

@[simp] def IsFor (peerId : UInt32) : SendCallback -> Prop
  | requested target _ _ => target = peerId
  | _ => True

@[simp] def registersWith (s : DirectPlay8Peer) : SendCallback -> Option UInt32
  | requested target _ _ => some target
  | groupRequested hostId _ _ => s.playerToPeerId[hostId]?
  | _ => none

end SendCallback

/-- The packet is a request whose answer is to have an ID. -/
inductive CarriesAckId : List UInt8 -> DWORD -> Prop where
  | playerinfo (playerId : DPNID) (name : WString) (data : List UInt8) (ackId : DWORD) :
      CarriesAckId (serialise msgidPlayerinfo
        [.dword playerId, .wstring name, .data data, .dword ackId]).rawPacket ackId
  | groupJoin (groupId : DPNID) (ackId : DWORD) (name : WString) (data : List UInt8) :
      CarriesAckId (serialise msgidGroupJoin
        [.dword groupId, .dword ackId, .wstring name, .data data]).rawPacket ackId
  | groupLeave (groupId : DPNID) (ackId : DWORD) :
      CarriesAckId (serialise msgidGroupLeave
        [.dword groupId, .dword ackId]).rawPacket ackId
  | groupAllocate (ackId : DWORD) :
      CarriesAckId (serialise msgidGroupAllocate [.dword ackId]).rawPacket ackId

namespace Command

def IsAddressed : Command -> Prop
  | peer peerId (.send _ packet _ callback) =>
      callback.IsFor peerId ∧
        forall ackId, callback.ackId = some ackId -> CarriesAckId packet ackId
  | _ => True

/-- A request is placed on a send queue, or `register_ack` finds its ID in use. -/
@[simp] def asks : Command -> Bool
  | peer _ (.send _ _ _ callback) => callback.ackId.isSome
  | log (.assertionFailed .registerAck) => true
  | _ => false

end Command

/-- The procedures that ask for something, or register what has been asked for. -/
@[simp] def Proc.asks : Proc -> Bool
  | createGroup .. | addPlayerToGroup .. | removePlayerFromGroup .. | setPeerInfo ..
  | invokeCallback .. => true
  | _ => false

/-!
## Who asks
-/

abbrev withoutRequests : Footprint Command Proc Fault :=
  .running fun command => command.asks = false

namespace Action

theorem sendTo_withoutRequests (player : DPNID) (payload : List UInt8) (ctx : Context)
    (flags : DWORD) : (Proc.sendTo player payload ctx flags).body.Uses withoutRequests := by
  unfold Proc.body
  simp only [sendTo, sendSync, sendAsync]
  repeat' with_reducible first
    | apply Uses.onlyIf
    | apply Uses.forEach
    | apply uses_bind
    | intro _
    | split
  all_goals simp

theorem setApplicationDesc_withoutRequests (desc : ApplicationDesc) :
    (Proc.setApplicationDesc desc).body.Uses withoutRequests := by
  unfold Proc.body
  simp only [setApplicationDesc]
  repeat' with_reducible first
    | apply uses_sendToConnected
    | apply uses_setDescription
    | apply uses_bind
    | intro _
    | split
  all_goals simp

theorem destroyGroup_withoutRequests (groupId : DPNID) (ctx : Context) (flags : DWORD) :
    (Proc.destroyGroup groupId ctx flags).body.Uses withoutRequests := by
  unfold Proc.body
  simp only [destroyGroup]
  repeat' with_reducible first
    | apply uses_beginOperation
    | apply uses_endOperation
    | apply uses_notifyConnected
    | apply uses_bind
    | intro _
    | split
  all_goals simp

theorem lifetime_withoutRequests {p : Proc} (h : p.subject = .lifetime) :
    p.body.Uses withoutRequests := by
  cases p <;> cases h
  all_goals simp only [Proc.body, initialiseObject, enumHosts, closing, closePeers,
    close, destroyPeer, terminateSession, dispatchDestroyLocalPlayer, closeMainSockets,
    closeMainSocket]
  repeat' with_reducible first
    | apply uses_sendToConnected
    | apply Uses.onlyIf
    | apply Uses.forEach
    | apply uses_bind
    | intro _
    | split
  all_goals simp

theorem sending_withoutRequests {p : Proc} (h : p.subject = .sending) :
    p.body.Uses withoutRequests := by
  cases p <;> cases h
  all_goals simp only [Proc.body, ioUdpSend, ioPeerConnected, ioPeerSend]
  repeat' with_reducible first
    | apply uses_peerAt
    | apply uses_assertedPeer
    | apply uses_renewPeer
    | apply Uses.onlyIf
    | apply uses_bind
    | intro _
    | split
  all_goals simp

theorem workerEvents_withoutRequests {p : Proc} (h : p.subject = .workerEvents) :
    p.body.Uses withoutRequests := by
  cases p <;> cases h
  all_goals simp only [Proc.body, workerCallback, handleUdpSocketEvent,
    handleOtherSocketEvent, handleWork, ioPeerTriggered, receiveDatagram, peerAccept]
  repeat' with_reducible first
    | apply uses_complete
    | apply uses_addPeer
    | apply uses_renewPeer
    | apply uses_assertThat
    | apply Uses.onlyIf
    | apply uses_bind
    | intro _
    | split
  all_goals simp_all

theorem teardown_withoutRequests {p : Proc} (h : p.subject = .teardown) :
    p.body.Uses withoutRequests := by
  cases p <;> cases h
  all_goals simp only [Proc.body, peerDestroy, peerDestroySends, peerDestroyAcks,
    peerDestroyAll, peerShutdown, peerShutdownAll, terminateDestroyPeers]
  repeat' with_reducible first
    | apply uses_peerAt
    | apply uses_assertedPeer
    | apply uses_renewPeer
    | apply uses_assertThat
    | apply uses_bind
    | intro _
    | split
  all_goals simp

theorem connectEnd_withoutRequests {p : Proc} (h : p.subject = .connectEnd) :
    p.body.Uses withoutRequests := by
  cases p <;> cases h
  all_goals simp only [Proc.body, connectFail, connectUnwind, connectCheck,
    dispatchDestroyLocalPlayer, closeMainSockets, closeMainSocket]
  repeat' with_reducible first
    | apply uses_assertThat
    | apply Uses.onlyIf
    | apply uses_bind
    | intro _
    | split
  all_goals simp

theorem joining_withoutRequests {p : Proc} (h : p.subject = .joining) :
    p.body.Uses withoutRequests := by
  cases p <;> cases h
  all_goals simp only [Proc.body, handleHostEnumRequest, handleHostConnectRequest,
    handleHostConnectOk, handleHostConnectFail, returnBuffer, sendConnectHostFail,
    sendGroups, admitPlayer]
  repeat' with_reducible first
    | apply uses_peerAt
    | apply uses_assertedPeer
    | apply uses_renewPeer
    | apply uses_assertThat
    | apply uses_fetch
    | apply uses_joinGroups
    | apply uses_connectToPeers
    | apply Uses.onlyIf
    | apply Uses.forEach
    | apply uses_bind
    | intro _
    | split
  all_goals simp

theorem peerJoining_withoutRequests {p : Proc} (h : p.subject = .peerJoining) :
    p.body.Uses withoutRequests := by
  cases p <;> cases h
  all_goals simp only [Proc.body, handleConnectPeer, handleConnectPeerOk,
    handleConnectPeerFail, sendConnectPeerFail, sendGroups]
  repeat' with_reducible first
    | apply uses_assertedPeer
    | apply uses_renewPeer
    | apply uses_assertThat
    | apply uses_fetch
    | apply uses_joinGroups
    | apply Uses.forEach
    | apply uses_bind
    | intro _
    | split
  all_goals simp

theorem messages_withoutRequests {p : Proc} (h : p.subject = .messages) :
    p.body.Uses withoutRequests := by
  cases p <;> cases h
  all_goals simp only [Proc.body, handleMessage, handlePlayerinfo, handleAck,
    handleAppdesc, handleDestroyPeer, handleTerminateSession, sessionTerminated,
    dispatchDestroyLocalPlayer]
  repeat' with_reducible first
    | apply uses_assertedPeer
    | apply uses_caught
    | apply uses_sendToConnected
    | apply uses_bind
    | intro _
    | split
  all_goals simp

theorem groupMessages_withoutRequests {p : Proc} (h : p.subject = .groupMessages) :
    p.body.Uses withoutRequests := by
  cases p <;> cases h
  all_goals simp only [Proc.body, handleGroupAllocate, handleGroupCreate,
    handleGroupDestroy, handleGroupJoin, handleGroupJoined, handleGroupLeave,
    handleGroupLeft, sendAck]
  repeat' with_reducible first
    | apply uses_peerAt
    | apply uses_assertedPeer
    | apply uses_caught
    | apply uses_sendToConnected
    | apply uses_bind
    | intro _
    | split
  all_goals simp

theorem invokeAck_withoutRequests (callback : AckCallback) (result : HRESULT)
    (data : List UInt8) :
    (Proc.invokeAck callback result data).body.Uses withoutRequests := by
  unfold Proc.body
  simp only [invokeAck]
  repeat' with_reducible first
    | apply uses_complete
    | apply uses_createTheGroup
    | split
  all_goals simp

end Action

theorem withoutRequests_of_kinds {p : Proc} (hsend : CommandKind.send ∉ p.kinds)
    (hnote : CommandKind.note ∉ p.kinds) : p.body.Uses withoutRequests := by
  refine Uses.mono p.body_uses ?_ (fun _ => trivial) (fun _ _ => trivial)
    (fun _ _ => trivial) (fun _ _ => trivial)
  intro command hcommand
  cases command with
  | peer peerId change =>
      cases change with
      | send => exact absurd hcommand.1 hsend
      | _ => rfl
  | log event =>
      cases event with
      | assertionFailed => exact absurd hcommand.1 hnote
      | _ => rfl
  | _ => rfl

theorem body_withoutRequests {p : Proc} (h : p.asks = false) : p.body.Uses withoutRequests := by
  cases p with
  | createGroup | addPlayerToGroup | removePlayerFromGroup | setPeerInfo
  | invokeCallback => cases h
  | sendTo player payload ctx flags =>
      exact Action.sendTo_withoutRequests player payload ctx flags
  | setApplicationDesc desc => exact Action.setApplicationDesc_withoutRequests desc
  | destroyGroup groupId ctx flags =>
      exact Action.destroyGroup_withoutRequests groupId ctx flags
  | invokeAck callback result data =>
      exact Action.invokeAck_withoutRequests callback result data
  | destroyPeer | terminateSession => exact Action.lifetime_withoutRequests rfl
  | ioPeerConnected => exact Action.sending_withoutRequests rfl
  | ioPeerTriggered => exact Action.workerEvents_withoutRequests rfl
  | peerDestroy | peerShutdown | peerShutdownAll =>
      exact Action.teardown_withoutRequests rfl
  | connectFail | connectCheck => exact Action.connectEnd_withoutRequests rfl
  | handleHostConnectRequest | handleHostConnectOk | handleHostConnectFail =>
      exact Action.joining_withoutRequests rfl
  | handleConnectPeer | handleConnectPeerOk | handleConnectPeerFail =>
      exact Action.peerJoining_withoutRequests rfl
  | handlePlayerinfo | handleAck | handleAppdesc | handleDestroyPeer
  | handleTerminateSession => exact Action.messages_withoutRequests rfl
  | handleGroupAllocate | handleGroupCreate | handleGroupDestroy | handleGroupJoin
  | handleGroupJoined | handleGroupLeave | handleGroupLeft =>
      exact Action.groupMessages_withoutRequests rfl
  | _ => exact withoutRequests_of_kinds (by simp) (by simp)

/-!
## What is asked
-/

theorem Command.isAddressed_of_asks {command : Command} (h : command.asks = false) :
    command.IsAddressed := by
  cases command with
  | peer peerId change =>
      cases change with
      | send priority packet handle callback =>
          cases callback with
          | requested | groupRequested => cases h
          | _ => exact ⟨trivial, by simp⟩
      | _ => trivial
  | _ => trivial

abbrev addressed : Footprint Command Proc Fault :=
  .running Command.IsAddressed

theorem addressing_of_asks {command : Command} (h : command.asks = false) :
    addressed.commands command := Command.isAddressed_of_asks h

theorem requested_addressed {peerId : UInt32} {priority : SendPriority}
    {packet : PacketSerialiser} {handle : DPNHANDLE} {ackId : DWORD} {completion : Nat}
    (h : CarriesAckId packet.rawPacket ackId) :
    (Command.peer peerId (.send priority packet.rawPacket handle
      (.requested peerId ackId completion))).IsAddressed := by
  refine ⟨rfl, ?_⟩
  intro asked hasked
  cases hasked
  exact h

theorem groupRequested_addressed {peerId : UInt32} {priority : SendPriority}
    {handle : DPNHANDLE} {hostId : DPNID} {ackId : DWORD} {request : GroupRequest} :
    (Command.peer peerId (.send priority
      (serialise msgidGroupAllocate [.dword ackId]).rawPacket handle
      (.groupRequested hostId ackId request))).IsAddressed := by
  refine ⟨trivial, ?_⟩
  intro asked hasked
  cases hasked
  exact .groupAllocate ackId

namespace Action

theorem sendRequest_addressing {peerId : UInt32} {packet : DWORD -> PacketSerialiser}
    {callback : DWORD -> SendCallback}
    (h : forall ackId, (Command.peer peerId
      (.send .high (packet ackId).rawPacket 0 (callback ackId))).IsAddressed) :
    (sendRequest peerId packet callback).Uses addressed :=
  uses_sendRequest (addressing_of_asks rfl) h trivial

theorem notifyConnected_addressing {packet : PacketSerialiser} {completion : Nat} :
    (notifyConnected packet completion).Uses addressed :=
  uses_notifyConnected (addressing_of_asks rfl) (fun _ => addressing_of_asks rfl) trivial

theorem createTheGroup_addressing {groupId : DPNID} {request : GroupRequest} :
    (createTheGroup groupId request).Uses addressed :=
  uses_createTheGroup (addressing_of_asks rfl) (addressing_of_asks rfl)
    (fun _ => addressing_of_asks rfl) trivial trivial

theorem beginOperation_addressing {operation : Operation} {type : HandleType}
    {ctx : Context} {flags : DWORD} :
    (beginOperation operation type ctx flags).Uses addressed :=
  uses_beginOperation (addressing_of_asks rfl) fun _ => addressing_of_asks rfl

theorem endOperation_addressing {method : Method} {completion : Nat} {flags : DWORD} :
    (endOperation method completion flags).Uses addressed :=
  uses_endOperation (addressing_of_asks rfl) (fun _ => addressing_of_asks rfl) trivial

theorem createGroup_addressing (info : Option GroupInfo) (groupCtx ctx : Context)
    (flags : DWORD) : (Proc.createGroup info groupCtx ctx flags).body.Uses addressed := by
  unfold Proc.body
  simp only [createGroup]
  repeat' with_reducible first
    | exact createTheGroup_addressing
    | exact beginOperation_addressing
    | exact endOperation_addressing
    | exact sendRequest_addressing fun _ => groupRequested_addressed
    | exact uses_assertThat (addressing_of_asks rfl)
    | apply uses_bind
    | intro _
    | split
  all_goals simp [Command.IsAddressed]

theorem membership_addressing {p : Proc} (h : p.subject = .membership) :
    p.body.Uses addressed := by
  cases p <;> cases h
  all_goals simp only [Proc.body, addPlayerToGroup, removePlayerFromGroup]
  repeat' with_reducible first
    | exact beginOperation_addressing
    | exact endOperation_addressing
    | exact notifyConnected_addressing
    | exact sendRequest_addressing fun _ => requested_addressed (.groupJoin _ _ _ _)
    | exact sendRequest_addressing fun _ => requested_addressed (.groupLeave _ _)
    | apply uses_bind
    | intro _
    | split
  all_goals simp [Command.IsAddressed]

theorem setPeerInfo_addressing (info : PlayerInfo) (ctx : Context) (flags : DWORD) :
    (Proc.setPeerInfo info ctx flags).body.Uses addressed := by
  have hsend : forall peerId playerId name data ackId completion,
      (sendPacket peerId .medium (serialise msgidPlayerinfo
        [.dword playerId, .wstring name, .data data, .dword ackId])
        (.requested peerId ackId completion)).Uses addressed := by
    intro peerId playerId name data ackId completion
    rw [uses_sendPacket, Footprint.within_commands]
    exact requested_addressed (.playerinfo playerId name data ackId)
  unfold Proc.body
  simp only [setPeerInfo]
  repeat' with_reducible first
    | exact hsend _ _ _ _ _ _
    | apply uses_complete
    | apply uses_peerAt
    | apply uses_ofCompletion
    | apply Uses.onlyIf
    | apply Uses.forEach
    | apply uses_bind
    | intro _
    | split
  all_goals simp [Command.IsAddressed]

end Action

theorem addressing_of_kinds {p : Proc} (h : CommandKind.send ∉ p.kinds) :
    p.body.Uses addressed := by
  refine Uses.mono p.body_uses ?_ (fun _ => trivial) (fun _ _ => trivial)
    (fun _ _ => trivial) (fun _ _ => trivial)
  intro command hcommand
  cases command with
  | peer peerId change =>
      cases change with
      | send => exact absurd hcommand.1 h
      | _ => trivial
  | _ => trivial

theorem body_addressing (p : Proc) : p.body.Uses addressed := by
  cases hasks : p.asks with
  | false =>
      refine Uses.mono (body_withoutRequests hasks) ?_ (fun _ => trivial) (fun _ _ => trivial)
        (fun _ _ => trivial) (fun _ _ => trivial)
      exact fun _ hcommand => Command.isAddressed_of_asks hcommand
  | true =>
      cases p with
      | createGroup info groupCtx ctx flags =>
          exact Action.createGroup_addressing info groupCtx ctx flags
      | addPlayerToGroup | removePlayerFromGroup =>
          exact Action.membership_addressing rfl
      | setPeerInfo info ctx flags => exact Action.setPeerInfo_addressing info ctx flags
      | invokeCallback => exact addressing_of_kinds (by simp)
      | _ => cases hasks

/-!
## Queues
-/

def Peer.callbacks (peer : Peer) : List SendCallback := peer.sq.ops.map (·.callback)

theorem PeerCommand.callbacks_cases (change : PeerCommand) (addr : Nat) (peer : Peer) :
    (exists priority packet handle callback,
      change = .send priority packet handle callback ∧
        (change.apply addr peer).callbacks.Perm (callback :: peer.callbacks)) ∨
    ((exists callback,
        peer.callbacks.Perm (callback :: (change.apply addr peer).callbacks)) ∧
      forall op, change = .popPending -> peer.sq.current = some op ->
        peer.callbacks.Perm (op.callback :: (change.apply addr peer).callbacks)) ∨
    ((change.apply addr peer).callbacks = peer.callbacks ∧
      (change = .popPending -> peer.sq.current = none)) := by
  cases change with
  | send priority packet handle callback =>
      refine Or.inl ⟨priority, packet, handle, callback, rfl, ?_⟩
      exact (SendQueue.send_ops priority _ peer.sq).map (·.callback)
  | popPending =>
      refine Or.inr ?_
      cases hcurrent : peer.sq.current with
      | none =>
          have hsame : peer.sq.popPending = peer.sq := by
            rw [SendQueue.popPending, ← hcurrent]
          refine Or.inr ⟨?_, fun _ => rfl⟩
          rw [apply, Peer.callbacks, Peer.callbacks, hsame]
      | some op =>
          have hperm : peer.callbacks.Perm
              (op.callback :: (PeerCommand.popPending.apply addr peer).callbacks) := by
            rw [Peer.callbacks, SendQueue.popPending_ops hcurrent]
            exact List.Perm.refl _
          refine Or.inl ⟨⟨op.callback, hperm⟩, ?_⟩
          intro op' _ hop
          cases hop
          exact hperm
  | removeQueued wanted =>
      refine Or.inr ?_
      cases hremoved : peer.sq.remove wanted with
      | none =>
          refine Or.inr ⟨?_, by simp⟩
          simp only [apply, Peer.callbacks, hremoved, Option.map_none, Option.getD_none]
      | some found =>
          have hperm := (SendQueue.remove_eq_some hremoved).2.ops_perm
          refine Or.inl ⟨⟨found.1.callback, ?_⟩, by simp⟩
          simp only [apply, Peer.callbacks, hremoved, Option.map_some, Option.getD_some]
          exact hperm.map (·.callback)
  | getPending => exact Or.inr (Or.inr ⟨by simp [apply, Peer.callbacks], by simp⟩)
  | incSentData sent =>
      refine Or.inr (Or.inr ⟨?_, by simp⟩)
      simp only [apply, Peer.callbacks, SendQueue.ops, SendQueue.incSentData]
      cases peer.sq.current <;> rfl
  | _ => exact Or.inr (Or.inr ⟨rfl, by simp⟩)

structure DirectPlay8Peer.Addressed (s : DirectPlay8Peer) : Prop where
  datagrams : forall op, op ∈ s.udpSq.ops -> op.callback = .nothing
  queues : forall (peerId : UInt32) (peer : Peer), s.peers[peerId]? = some peer ->
    forall callback, callback ∈ peer.callbacks -> callback.IsFor peerId

theorem DirectPlay8Peer.Addressed.apply {s : DirectPlay8Peer} {command : Command}
    (h : s.Addressed) (hcommand : command.IsAddressed) :
    (command.apply s).Addressed where
  datagrams := fun op hop =>
    (Command.datagram_cases hop).elim (h.datagrams op) And.left
  queues := by
    intro peerId peer hpeer callback hcallback
    rcases Command.peer_cases hpeer with hsame | ⟨change, before, rfl, hwas, rfl⟩ |
      ⟨state, sock, ip, port, playerId, rfl, _, rfl⟩
    · exact h.queues peerId peer hsame callback hcallback
    · rcases change.callbacks_cases s.nextAddr before with
        ⟨priority, packet, handle, sent, rfl, hperm⟩ | ⟨⟨taken, hperm⟩, _⟩ | ⟨hkept, _⟩
      · rcases List.mem_cons.mp (hperm.mem_iff.mp hcallback) with rfl | hbefore
        · exact hcommand.1
        · exact h.queues peerId before hwas callback hbefore
      · exact h.queues peerId before hwas callback
          (hperm.mem_iff.mpr (List.mem_cons_of_mem _ hcallback))
      · rw [hkept] at hcallback
        exact h.queues peerId before hwas callback hcallback
    · cases hcallback

/-!
## From taking an ID to registering it
-/

/-- An ack that is pending and has come in, with what came. -/
structure AckArrival where
  peerId : UInt32
  ackId : DWORD
  callback : AckCallback
  result : HRESULT
  data : List UInt8
deriving DecidableEq

inductive AckTransit where
  | idle
  /-- An ID has been taken for a peer. -/
  | taken (peerId : UInt32) (ackId : DWORD)
  /-- A request has been sent, and its callback is to be called. -/
  | popped (peerId : UInt32) (callback : SendCallback)
  /-- An ack has come, and is to be taken off the pending ones. -/
  | expecting (arrival : AckArrival)
  /-- It has been taken off, and its callback is to be called. -/
  | answering (arrival : AckArrival)
deriving DecidableEq

/-- The ID, the result and the data of an ack. -/
def PacketDeserialiser.ack (pd : PacketDeserialiser) :
    Except PacketError (DWORD × HRESULT × List UInt8) := do
  let ackId ← pd.getDword 0
  let result ← pd.getDword 1
  let data ← pd.getData 2
  return (ackId, result, data)

def PacketDeserialiser.Brings (pd : PacketDeserialiser) (arrival : AckArrival) : Prop :=
  pd.ack = .ok (arrival.ackId, arrival.result, arrival.data)

instance {pd : PacketDeserialiser} {arrival : AckArrival} :
    Decidable (pd.Brings arrival) :=
  inferInstanceAs (Decidable (_ = _))

def DirectPlay8Peer.arrival (s : DirectPlay8Peer) (peerId : UInt32)
    (pd : PacketDeserialiser) : Option AckArrival :=
  match s.peers[peerId]?, pd.ack with
  | some peer, .ok (ackId, result, data) =>
      (peer.pendingAcks[ackId]?).map fun ack =>
        ⟨peerId, ackId, ack.callback, result, data⟩
  | _, _ => none

def DirectPlay8Peer.expected (s : DirectPlay8Peer) (peerId : UInt32)
    (pd : PacketDeserialiser) : AckTransit :=
  match s.arrival peerId pd with
  | some arrival => .expecting arrival
  | none => .idle

def PeerCommand.transit (p : Proc) (peerId : UInt32) (peer : Peer)
    (transit : AckTransit) : PeerCommand -> Option AckTransit
  | allocAckId =>
      if transit = .idle then some (.taken peerId peer.nextAckId) else none
  | send _ _ _ callback =>
      match callback.ackId with
      | none => some transit
      | some ackId => if transit = .taken peerId ackId then some .idle else none
  | popPending =>
      match p, peer.sq.current with
      | .ioPeerSend _, some op =>
          if op.callback.ackId = none then some transit
          else if transit = .idle then some (.popped peerId op.callback) else none
      | _, _ => some transit
  | registerAck ackId answer =>
      match transit with
      | .popped target callback =>
          if target = peerId ∧ callback.ackId = some ackId ∧
              callback.answer = some answer then some .idle
          else none
      | _ => none
  | eraseAck ackId =>
      match p, transit with
      | .handleAck target pd, .expecting arrival =>
          if target = peerId ∧ pd.Brings arrival ∧ arrival.peerId = peerId ∧
              arrival.ackId = ackId ∧
              (peer.pendingAcks[ackId]?).map (·.callback) = some arrival.callback then
            some (.answering arrival)
          else none
      | .handleAck .., _ => none
      | _, _ => some transit
  | _ => some transit

def DirectPlay8Peer.Repeats (s : DirectPlay8Peer) (peerId : UInt32)
    (callback : SendCallback) : Bool :=
  match s.peers[peerId]?, callback.ackId with
  | some peer, some ackId => peer.pendingAcks.contains ackId
  | _, _ => false

def Event.transit (p : Proc) (s : DirectPlay8Peer) (transit : AckTransit) :
    Event -> Option AckTransit
  | assertionFailed assertion =>
      match p, assertion with
      | .invokeCallback callback _, .registerAck =>
          match transit with
          | .popped target sent =>
              if sent = callback ∧ callback.registersWith s = some target ∧
                  s.Repeats target callback then some transit
              else none
          | _ => none
      | .invokeCallback .., .peerNotNull => none
      | .handleAck peerId _, .peerNotNull =>
          if s.peers[peerId]? = none then some transit else none
      | .handleAck .., _ => none
      | _, .registerAck => none
      | _, _ => some transit
  | ackResolved _ =>
      match p, transit with
      | .handleAck peerId pd, .answering arrival =>
          if arrival.peerId = peerId ∧ pd.Brings arrival then some transit else none
      | .handleAck .., _ => none
      | _, _ => some transit
  | _ => some transit

def ackObserver : Observer DirectPlay8Peer Command Proc AckTransit where
  start := .idle
  observe := fun p command s transit =>
    match command with
    | .peer peerId change =>
        match s.peers[peerId]? with
        | some peer => change.transit p peerId peer transit
        | none =>
            match p, change with
            | .handleAck .., .eraseAck _ => none
            | _, _ => some transit
    | .insertPeer .. | .erasePeer _ => if transit = .idle then some .idle else none
    | .log event => event.transit p s transit
    | _ => some transit
  hand := fun p callee s transit =>
    match p, callee with
    | .ioPeerSend peerId, .invokeCallback callback _ =>
        if callback.ackId = none ∨ transit = .popped peerId callback then some transit
        else none
    | .handleAck peerId pd, .invokeAck callback result data =>
        match transit with
        | .answering arrival =>
            if arrival.peerId = peerId ∧ pd.Brings arrival ∧
                arrival.callback = callback ∧ arrival.result = result ∧
                arrival.data = data then
              some .idle
            else none
        | _ => none
    | .handleAck .., _ => none
    | _, .handleAck peerId pd =>
        if transit = .idle then some (s.expected peerId pd) else none
    | _, _ => some transit
  meets := fun p callee s =>
    match p, callee with
    | .ioPeerSend peerId, .invokeCallback (.groupRequested hostId _ _) _ =>
        s.playerToPeerId[hostId]? = some peerId
    | _, _ => True
  begins := fun callee s transit =>
    s.Addressed ∧
      match callee with
      | .invokeCallback callback result =>
          if result = sOk ∧ callback.ackId ≠ none then
            exists peerId peer, transit = .popped peerId callback ∧
              s.peers[peerId]? = some peer ∧ callback.registersWith s = some peerId
          else transit = .idle
      | .handleAck peerId pd => transit = s.expected peerId pd
      | _ => transit = .idle ∧ callee.CancelsWithError
  resting := fun s transit => transit = .idle ∧ s.Addressed

section Following

variable {p : Proc} {s : DirectPlay8Peer} {command : Command} {peerId : UInt32}
  {transit : AckTransit} {α β : Type}

@[simp] def Proc.opening (s : DirectPlay8Peer) : Proc -> AckTransit
  | handleAck peerId pd => s.expected peerId pd
  | _ => .idle

abbrev withoutAckIds (p : Proc) : Footprint Command Proc Fault :=
  .within
    (fun command => command.IsAddressed ∧
      forall s, ackObserver.observe p command s .idle = some .idle)
    (fun callee =>
      (forall s, ackObserver.hand p callee s .idle = some (callee.opening s)) ∧
        callee.CancelsWithError ∧ ¬ callee.ReportsSuccess)
    fun child => child.isDetached = true

theorem unconcerned_minds : ackObserver.Minds machine p (withoutAckIds p) where
  commands := by
    rintro command s _ ⟨haddressed, hobserve⟩ ⟨rfl, hstate⟩
    exact ⟨hobserve s, rfl, hstate.apply haddressed⟩
  calls := by
    rintro callee s _ ⟨hhand, hcancels, hfails⟩ ⟨rfl, hstate⟩
    refine ⟨callee.opening s, hhand s, hstate, ?_⟩
    cases callee with
    | invokeCallback callback result =>
        have hresult : ¬ result = sOk := hfails
        simp [hresult]
    | handleAck => rfl
    | _ => exact ⟨rfl, hcancels⟩
  spawns := by
    rintro child s _ hspawn ⟨rfl, hstate⟩
    refine ⟨hstate, ?_⟩
    cases child <;> first
      | exact ⟨rfl, trivial⟩
      | cases hspawn

theorem unconcerned_of_kind (hasks : command.asks = false)
    (hkind : command.kind ∉ [CommandKind.allocAckId, .registerAck])
    (hpop : command.kind = .popPending -> forall peerId, p ≠ .ioPeerSend peerId)
    (herase : command.kind ∈ [CommandKind.eraseAck, .ackResolved, .note] ->
      forall peerId pd, p ≠ .handleAck peerId pd)
    (hnote : command.kind = .note -> forall callback result,
      p ≠ .invokeCallback callback result) :
    (withoutAckIds p).commands command := by
  refine ⟨Command.isAddressed_of_asks hasks, ?_⟩
  intro s
  cases command with
  | peer peerId change =>
      simp only [ackObserver]
      split
      · cases change with
        | allocAckId => simp at hkind
        | registerAck => simp at hkind
        | send priority packet handle callback =>
            have hnone : callback.ackId = none := by simpa using hasks
            simp only [PeerCommand.transit, hnone]
        | popPending =>
            simp only [PeerCommand.transit]
            split
            · exact absurd rfl (hpop rfl _)
            · rfl
        | eraseAck ackId =>
            have hother := herase (by simp)
            simp only [PeerCommand.transit]
        | _ => rfl
      · split
        · exact absurd rfl (herase (by simp) _ _)
        · rfl
  | log event =>
      show event.transit p s .idle = some .idle
      cases event with
      | assertionFailed assertion =>
          simp only [Event.transit]
          split
          · exact absurd rfl (hnote rfl _ _)
          · exact absurd rfl (hnote rfl _ _)
          · exact absurd rfl (herase (by simp) _ _)
          · exact absurd rfl (herase (by simp) _ _)
          · cases hasks
          · rfl
      | ackResolved ack =>
          simp only [Event.transit]
          split
          · exact absurd rfl (herase (by simp) _ _)
          · exact absurd rfl (herase (by simp) _ _)
          · rfl
      | _ => rfl
  | _ => rfl

theorem unconcerned_callee {callee : Proc}
    (hhand : forall s, ackObserver.hand p callee s .idle = some (callee.opening s))
    (hcancels : callee.CancelsWithError) (hfails : ¬ callee.ReportsSuccess) :
    (withoutAckIds p).calls callee := ⟨hhand, hcancels, hfails⟩

theorem acks_after {prog : Action α} {f : α -> Action β}
    {post : β -> DirectPlay8Peer -> AckTransit -> Prop} (huses : prog.Uses (withoutAckIds p))
    (h : s.Addressed)
    (hnext : forall value s', s'.Addressed ->
      ackObserver.follows machine p (f value) post s' .idle) :
    ackObserver.follows machine p (prog >>= f) post s .idle := by
  refine Observer.follows_before huses unconcerned_minds ⟨rfl, h⟩ ?_
  intro value s' transit' hrest
  rw [show transit' = .idle from hrest.1]
  exact hnext value s' hrest.2

theorem acks_rest {prog : Action Unit} (huses : prog.Uses (withoutAckIds p))
    (h : s.Addressed) :
    ackObserver.follows machine p prog (fun _ => ackObserver.resting) s .idle :=
  Observer.follows_uses huses unconcerned_minds ⟨rfl, h⟩

theorem acks_exec {transit' : AckTransit} {f : Unit -> Action β}
    {post : β -> DirectPlay8Peer -> AckTransit -> Prop}
    (hobserve : ackObserver.observe p command s transit = some transit')
    (hnext : ackObserver.follows machine p (f ()) post (command.apply s) transit') :
    ackObserver.follows machine p (perform command >>= f) post s transit :=
  ⟨transit', hobserve, hnext⟩

theorem acks_peerAt {missing : Fault} {f : Peer -> Action β}
    {post : β -> DirectPlay8Peer -> AckTransit -> Prop}
    (hnext : forall peer, s.peers[peerId]? = some peer ->
      ackObserver.follows machine p (f peer) post s transit) :
    ackObserver.follows machine p (Action.peerAt peerId missing >>= f) post s transit := by
  show ackObserver.follows machine p
    ((match s.peers[peerId]? with
      | some peer => .ret peer
      | none => .abort missing : Action Peer).bind f) post s transit
  split
  · rename_i peer hpeer
    exact hnext peer hpeer
  · trivial

theorem acks_renewPeer {next : Peer -> Action Unit} (h : s.Addressed)
    (hnext : forall peer, s.peers[peerId]? = some peer ->
      ackObserver.follows machine p (next peer) (fun _ => ackObserver.resting) s .idle) :
    ackObserver.follows machine p (Action.renewPeer peerId next)
      (fun _ => ackObserver.resting) s .idle := by
  show ackObserver.follows machine p
    (match s.peers[peerId]? with
      | some peer => next peer
      | none => .ret ()) _ s .idle
  split
  · rename_i peer hpeer
    exact hnext peer hpeer
  · exact ⟨rfl, h⟩

theorem acks_asked {peer : Peer} {priority : SendPriority} {packet : PacketSerialiser}
    {callback : SendCallback} {f : Unit -> Action β}
    {post : β -> DirectPlay8Peer -> AckTransit -> Prop}
    (hpeer : s.peers[peerId]? = some peer)
    (hid : callback.ackId = some peer.nextAckId)
    (haddressed : (Command.peer peerId
      (.send priority packet.rawPacket 0 callback)).IsAddressed)
    (h : s.Addressed)
    (hnext : forall s', s'.Addressed ->
      ackObserver.follows machine p (f ()) post s' .idle) :
    ackObserver.follows machine p
      (Action.ofPeer peerId .allocAckId >>= fun _ =>
        Action.sendPacket peerId priority packet callback >>= f) post s .idle := by
  have halloc : ackObserver.observe p (.peer peerId .allocAckId) s .idle =
      some (.taken peerId peer.nextAckId) := by
    simp [ackObserver, hpeer, PeerCommand.transit]
  refine acks_exec halloc ⟨.idle, ?_, hnext _ ?_⟩
  · have hafter := DirectPlay8Peer.peer_changed .allocAckId hpeer
    simp only [ackObserver, hafter, PeerCommand.transit, hid, if_true]
  · have hstate : ((Command.peer peerId .allocAckId).apply s).Addressed :=
      h.apply (Command.isAddressed_of_asks rfl)
    exact hstate.apply haddressed

theorem sendRequest_acks {packet : DWORD -> PacketSerialiser}
    {callback : DWORD -> SendCallback} (hid : forall ackId, (callback ackId).ackId = some ackId)
    (haddressed : forall ackId, (Command.peer peerId
      (.send .high (packet ackId).rawPacket 0 (callback ackId))).IsAddressed)
    (h : s.Addressed) :
    ackObserver.follows machine p (Action.sendRequest peerId packet callback)
      (fun _ => ackObserver.resting) s .idle := by
  apply acks_peerAt
  intro peer hpeer
  exact acks_asked hpeer (hid _) (haddressed _) h fun s' h' => ⟨rfl, h'⟩

@[simp] def Proc.passesIds : Proc -> Bool
  | ioPeerSend .. | handleAck .. | invokeCallback .. => false
  | _ => true

theorem opening_handed {callee : Proc} (hp : p.passesIds = true) :
    ackObserver.hand p callee s .idle = some (callee.opening s) := by
  simp only [ackObserver]
  split
  · cases hp
  · cases hp
  · cases hp
  · rfl
  · rename_i hother _ _
    cases callee with
    | handleAck peerId pd => exact (hother peerId pd rfl).elim
    | _ => rfl

theorem unconcerned_of_passes (hp : p.passesIds = true) (hasks : command.asks = false)
    (hkind : command.kind ∉ [CommandKind.allocAckId, .registerAck]) :
    (withoutAckIds p).commands command := by
  refine unconcerned_of_kind hasks hkind ?_ ?_ ?_
  · rintro _ peerId rfl
    cases hp
  · rintro _ peerId pd rfl
    cases hp
  · rintro _ callback result rfl
    cases hp

theorem acks_then {prog : Action α} {f : α -> Action β}
    {post : β -> DirectPlay8Peer -> AckTransit -> Prop}
    (hprog : ackObserver.follows machine p prog (fun _ => ackObserver.resting) s .idle)
    (hnext : forall value s', s'.Addressed ->
      ackObserver.follows machine p (f value) post s' .idle) :
    ackObserver.follows machine p (prog >>= f) post s .idle := by
  rw [bind_eq, Observer.follows_bind]
  refine Observer.follows_mono hprog ?_
  intro value s' transit' hrest
  rw [show transit' = .idle from hrest.1]
  exact hnext value s' hrest.2

theorem acks_get {f : DirectPlay8Peer -> Action β}
    {post : β -> DirectPlay8Peer -> AckTransit -> Prop}
    (h : ackObserver.follows machine p (f s) post s transit) :
    ackObserver.follows machine p (get >>= f) post s transit := h

theorem complete_unconcerned {addr : Nat} {result : HRESULT} :
    (Action.complete addr result).Uses (withoutAckIds p) := by
  have hplain : forall command, command.asks = false ->
      command.kind = .completion ∨ command.kind = .raised ->
      (withoutAckIds p).commands command := by
    intro command hasks hkind
    apply unconcerned_of_kind hasks
    all_goals rcases hkind with hkind | hkind <;> rw [hkind]
    all_goals simp
  exact Action.uses_complete (fun _ => hplain _ rfl (Or.inl rfl))
    (fun _ hraised => hplain _ rfl (Or.inr hraised)) trivial trivial

section Operations

variable {operation : Operation} {type : HandleType} {method : Method} {ctx : Context}
  {completion : Nat} {flags : DWORD} {packet : PacketSerialiser}

theorem returns_unconcerned {result : HRESULT} (hp : p.passesIds = true) :
    (Action.returns method result).Uses (withoutAckIds p) := by
  rw [Action.uses_returns]
  exact unconcerned_of_passes hp rfl (by cases method <;> simp)

theorem beginOperation_unconcerned (hp : p.passesIds = true) :
    (Action.beginOperation operation type ctx flags).Uses (withoutAckIds p) :=
  Action.uses_beginOperation (unconcerned_of_passes hp rfl (by simp))
    fun _ => unconcerned_of_passes hp rfl (by simp)

theorem endOperation_unconcerned (hp : p.passesIds = true) :
    (Action.endOperation method completion flags).Uses (withoutAckIds p) :=
  Action.uses_endOperation (unconcerned_of_passes hp rfl (by simp))
    (fun _ => unconcerned_of_passes hp rfl (by cases method <;> simp)) trivial

theorem notifyConnected_unconcerned (hp : p.passesIds = true) :
    (Action.notifyConnected packet completion).Uses (withoutAckIds p) :=
  Action.uses_notifyConnected (unconcerned_of_passes hp rfl (by simp))
    (fun _ => unconcerned_of_passes hp rfl (by simp)) trivial

theorem membership_unconcerned {groupId : DPNID} {change : GroupCommand} {child : Proc}
    (hp : p.passesIds = true) (hchild : child.isDetached = true) :
    (do
      Action.notifyConnected packet completion
      perform (.group groupId change)
      detach child
      Action.endOperation method completion flags : Action Unit).Uses
        (withoutAckIds p) := by
  refine Action.uses_bind (notifyConnected_unconcerned hp) fun _ => ?_
  refine Action.uses_bind ?_ fun _ => ?_
  · exact Action.uses_perform.mpr (unconcerned_of_passes hp rfl (by simp))
  · exact Action.uses_bind (Action.uses_detach.mpr hchild)
      fun _ => endOperation_unconcerned hp

end Operations

theorem createGroup_acks {info : Option GroupInfo} {groupCtx ctx : Context}
    {flags : DWORD} (h : s.Addressed) :
    ackObserver.follows machine (.createGroup info groupCtx ctx flags)
      (Action.createGroup info groupCtx ctx flags) (fun _ => ackObserver.resting)
      s .idle := by
  apply acks_get
  split
  · exact acks_rest (returns_unconcerned rfl) h
  · exact acks_rest (returns_unconcerned rfl) h
  · rename_i info _
    split
    · exact acks_rest (returns_unconcerned rfl) h
    apply acks_after (beginOperation_unconcerned rfl) h
    intro completion s₁ h₁
    dsimp only
    split
    · apply acks_rest _ h₁
      refine Action.uses_bind ?_ fun _ => ?_
      · exact Action.uses_perform.mpr (unconcerned_of_passes rfl rfl (by simp))
      refine Action.uses_bind ?_ fun _ => endOperation_unconcerned rfl
      exact Action.uses_createTheGroup (unconcerned_of_passes rfl rfl (by simp))
        (unconcerned_of_passes rfl rfl (by simp))
        (fun _ => unconcerned_of_passes rfl rfl (by simp)) rfl trivial
    · apply acks_after (Action.uses_assertThat
        (unconcerned_of_passes rfl rfl (by simp))) h₁
      intro _ s₂ h₂
      split
      · trivial
      · apply acks_then (sendRequest_acks (fun _ => rfl)
          (fun _ => groupRequested_addressed) h₂)
        exact fun _ s' h' => acks_rest (endOperation_unconcerned rfl) h'

theorem addPlayerToGroup_acks {groupId client : DPNID} {ctx : Context} {flags : DWORD}
    (h : s.Addressed) :
    ackObserver.follows machine (.addPlayerToGroup groupId client ctx flags)
      (Action.addPlayerToGroup groupId client ctx flags)
      (fun _ => ackObserver.resting) s .idle := by
  apply acks_get
  split
  · exact acks_rest (returns_unconcerned rfl) h
  · exact acks_rest (returns_unconcerned rfl) h
  · split
    · exact acks_rest (returns_unconcerned rfl) h
    split
    · exact acks_rest (returns_unconcerned rfl) h
    apply acks_after (beginOperation_unconcerned rfl) h
    intro completion s₁ h₁
    split
    · exact acks_rest (membership_unconcerned rfl rfl) h₁
    · split
      · exact acks_rest (returns_unconcerned rfl) h₁
      · apply acks_then (sendRequest_acks (fun _ => rfl)
          (fun _ => requested_addressed (.groupJoin _ _ _ _)) h₁)
        exact fun _ s' h' => acks_rest (endOperation_unconcerned rfl) h'

theorem removePlayerFromGroup_acks {groupId client : DPNID} {ctx : Context}
    {flags : DWORD} (h : s.Addressed) :
    ackObserver.follows machine (.removePlayerFromGroup groupId client ctx flags)
      (Action.removePlayerFromGroup groupId client ctx flags)
      (fun _ => ackObserver.resting) s .idle := by
  apply acks_get
  split
  · exact acks_rest (returns_unconcerned rfl) h
  · exact acks_rest (returns_unconcerned rfl) h
  · split
    · exact acks_rest (returns_unconcerned rfl) h
    apply acks_after (beginOperation_unconcerned rfl) h
    intro completion s₁ h₁
    split
    · exact acks_rest (membership_unconcerned rfl rfl) h₁
    · split
      · exact acks_rest (returns_unconcerned rfl) h₁
      · apply acks_then (sendRequest_acks (fun _ => rfl)
          (fun _ => requested_addressed (.groupLeave _ _)) h₁)
        exact fun _ s' h' => acks_rest (endOperation_unconcerned rfl) h'

theorem acks_forEach {ι : Type} {f : ι -> Action Unit} {xs : List ι}
    (hround : forall x s', s'.Addressed -> ackObserver.follows machine p (f x)
      (fun _ => ackObserver.resting) s' .idle) (h : s.Addressed) :
    ackObserver.follows machine p (forEach f xs) (fun _ => ackObserver.resting)
      s .idle := by
  induction xs generalizing s with
  | nil => exact ⟨rfl, h⟩
  | cons x rest ih => exact acks_then (hround x s h) fun _ s' h' => ih h'

theorem setPeerInfo_acks {info : PlayerInfo} {ctx : Context} {flags : DWORD}
    (h : s.Addressed) :
    ackObserver.follows machine (.setPeerInfo info ctx flags)
      (Action.setPeerInfo info ctx flags) (fun _ => ackObserver.resting) s .idle := by
  have hplain : forall command, command.asks = false ->
      command.kind ∉ [CommandKind.allocAckId, .registerAck] ->
      (withoutAckIds (.setPeerInfo info ctx flags)).commands command :=
    fun _ => unconcerned_of_passes rfl
  unfold Action.setPeerInfo
  split
  · exact acks_rest (returns_unconcerned rfl) h
  apply acks_after (Uses.onlyIf fun _ =>
    Action.uses_perform.mpr (hplain _ rfl (by simp))) h
  intro _ s₁ h₁
  apply acks_after (Uses.onlyIf fun _ =>
    Action.uses_perform.mpr (hplain _ rfl (by simp))) h₁
  intro _ s₂ h₂
  apply acks_get
  split
  · exact acks_rest (returns_unconcerned rfl) h₂
  dsimp only
  apply acks_after (Action.uses_perform.mpr (hplain _ rfl (by simp))) h₂
  intro _ s₃ h₃
  apply acks_after (Action.uses_perform.mpr (hplain _ rfl (by simp))) h₃
  intro _ s₄ h₄
  refine acks_then (acks_forEach ?_ h₄) ?_
  · intro peerId s₅ h₅
    apply acks_peerAt
    intro peer hpeer
    refine acks_asked hpeer rfl (requested_addressed (.playerinfo _ _ _ _)) h₅ ?_
    intro s₆ h₆
    exact acks_rest (Action.uses_ofCompletion (hplain _ rfl (by simp)) trivial) h₆
  · intro _ s₅ h₅
    apply acks_rest _ h₅
    refine Action.uses_bind ?_ fun _ => Action.uses_bind ?_ fun _ => ?_
    · exact Action.uses_raise.mpr ⟨hplain _ rfl (by simp), trivial⟩
    · exact complete_unconcerned
    · split
      · refine Action.uses_bind (Action.uses_waitUntil.mpr trivial) fun _ => ?_
        refine Action.uses_bind (by simp) fun _ => ?_
        refine Action.uses_bind ?_ fun _ => returns_unconcerned rfl
        exact Action.uses_perform.mpr (hplain _ rfl (by simp))
      · exact returns_unconcerned rfl

/-!
## Sending and registering
-/

theorem registerAck_acks {ackId : DWORD} {peer : Peer} {callback : SendCallback}
    {result : HRESULT} {answer : AckCallback} (hpeer : s.peers[peerId]? = some peer)
    (hpeerId : callback.registersWith s = some peerId)
    (hid : callback.ackId = some ackId) (hanswer : callback.answer = some answer)
    (h : s.Addressed) :
    ackObserver.follows machine (.invokeCallback callback result)
      (Action.registerAck peerId ackId answer) (fun _ => ackObserver.resting)
      s (.popped peerId callback) := by
  have hregister : forall s', s'.Addressed -> s'.peers[peerId]? = some peer ->
      ackObserver.follows machine (.invokeCallback callback result)
        (Action.ofPeer peerId (.registerAck ackId answer))
        (fun _ => ackObserver.resting) s' (.popped peerId callback) := by
    intro s' h' hpeer'
    have hafter : ((Command.peer peerId (.registerAck ackId answer)).apply s').Addressed :=
      h'.apply (Command.isAddressed_of_asks rfl)
    refine ⟨.idle, ?_, rfl, hafter⟩
    simp only [ackObserver, hpeer', PeerCommand.transit, hid, hanswer, and_self, if_true]
  apply acks_peerAt
  intro found hfound
  cases hpeer.symm.trans hfound
  show ackObserver.follows machine (.invokeCallback callback result)
    ((onlyIf (¬ peer.pendingAcks[ackId]? = none) _ : Action Unit).bind _) _ s _
  unfold onlyIf
  split
  · rename_i hpending
    refine ⟨.popped peerId callback, ?_, hregister _ ⟨h.datagrams, h.queues⟩ hpeer⟩
    have hrepeats : s.Repeats peerId callback = true := by
      simp only [DirectPlay8Peer.Repeats, hpeer, hid]
      rw [Std.ExtTreeMap.contains_eq_isSome_getElem?]
      exact Option.isSome_iff_ne_none.mpr hpending
    exact if_pos ⟨rfl, hpeerId, hrepeats⟩
  · exact hregister s h hpeer

theorem begins_sent {callback : SendCallback} {result : HRESULT} (hsent : result = sOk)
    (hasks : callback.ackId ≠ none)
    (h : ackObserver.begins (.invokeCallback callback result) s transit) :
    exists peerId peer, transit = .popped peerId callback ∧
      s.peers[peerId]? = some peer ∧ callback.registersWith s = some peerId := by
  have hbegins := h.2
  dsimp only at hbegins
  rwa [if_pos ⟨hsent, hasks⟩] at hbegins

theorem begins_idle {callback : SendCallback} {result : HRESULT}
    (hother : ¬ (result = sOk ∧ callback.ackId ≠ none))
    (h : ackObserver.begins (.invokeCallback callback result) s transit) :
    transit = .idle := by
  have hbegins := h.2
  dsimp only at hbegins
  rwa [if_neg hother] at hbegins

theorem invokeCallback_acks {callback : SendCallback} {result : HRESULT}
    (h : ackObserver.begins (.invokeCallback callback result) s transit) :
    ackObserver.follows machine (.invokeCallback callback result)
      (Action.invokeCallback callback result) (fun _ => ackObserver.resting)
      s transit := by
  have hcompletes : ¬ (result = sOk ∧ callback.ackId ≠ none) -> forall addr result',
      ackObserver.follows machine (.invokeCallback callback result)
        (Action.complete addr result') (fun _ => ackObserver.resting) s transit := by
    intro hother addr result'
    rw [begins_idle hother h]
    exact acks_rest complete_unconcerned h.1
  cases callback with
  | nothing => exact ⟨begins_idle (fun hboth => hboth.2 rfl) h, h.1⟩
  | sent completion => exact hcompletes (fun hboth => hboth.2 rfl) completion result
  | notified completion => exact hcompletes (fun hboth => hboth.2 rfl) completion sOk
  | requested peerId ackId completion =>
      simp only [Action.invokeCallback]
      split
      · rename_i hsent
        rcases begins_sent hsent (by simp) h with ⟨target, peer, rfl, hpeer, htarget⟩
        cases htarget
        show ackObserver.follows machine _
          (((onlyIf (¬ s.peers[peerId]? ≠ none) _ : Action Unit) >>= fun _ =>
            Action.peerAt peerId .nullDereference) >>= fun _ => _) _ s _
        rw [hpeer]
        apply acks_peerAt
        exact fun found _ => registerAck_acks hpeer rfl rfl rfl h.1
      · rename_i hfailed
        exact hcompletes (fun hboth => hfailed hboth.1) completion result
  | groupRequested hostId ackId request =>
      simp only [Action.invokeCallback]
      split
      · rename_i hsent
        rcases begins_sent hsent (by simp) h with ⟨target, peer, rfl, hpeer, htarget⟩
        have hfound : s.findPlayer hostId = some (target, peer) := by
          rw [DirectPlay8Peer.findPlayer, show s.playerToPeerId[hostId]? = _ from htarget,
            Option.bind_some, hpeer, Option.map_some]
        apply acks_get
        rw [hfound]
        exact registerAck_acks hpeer htarget rfl rfl h.1
      · rename_i hfailed
        exact hcompletes (fun hboth => hfailed hboth.1) request.completion result

theorem answered_acks {pd : PacketDeserialiser} {peer : Peer} {ackId : DWORD}
    {result : HRESULT} {data : List UInt8} {ack : PendingAck}
    (hpeer : s.peers[peerId]? = some peer) (hfields : pd.ack = .ok (ackId, result, data))
    (hpending : peer.pendingAcks[ackId]? = some ack) (h : s.Addressed) :
    ackObserver.follows machine (.handleAck peerId pd)
      (do
        Action.ofPeer peerId (.eraseAck ackId)
        Action.log (.ackResolved ack.addr)
        invoke (.invokeAck ack.callback result data))
      (fun _ => ackObserver.resting) s
      (.expecting ⟨peerId, ackId, ack.callback, result, data⟩) := by
  have herased : ((Command.peer peerId (.eraseAck ackId)).apply s).Addressed :=
    h.apply (Command.isAddressed_of_asks rfl)
  refine ⟨.answering ⟨peerId, ackId, ack.callback, result, data⟩, ?_,
    .answering ⟨peerId, ackId, ack.callback, result, data⟩, if_pos ⟨rfl, hfields⟩, ?_, ?_⟩
  · simp only [ackObserver, hpeer, PeerCommand.transit]
    exact if_pos ⟨trivial, hfields, trivial, trivial, by rw [hpending, Option.map_some]⟩
  · intro _
    refine ⟨.idle, ?_, ⟨herased.datagrams, herased.queues⟩, rfl, trivial⟩
    exact if_pos ⟨rfl, hfields, rfl, rfl, rfl⟩
  · exact fun s' transit' hrest => hrest

theorem handleAck_acks {pd : PacketDeserialiser} (h : s.Addressed) :
    ackObserver.follows machine (.handleAck peerId pd) (Action.handleAck peerId pd)
      (fun _ => ackObserver.resting) s (s.expected peerId pd) := by
  show ackObserver.follows machine (.handleAck peerId pd)
    (((onlyIf (¬ s.peers[peerId]? ≠ none) _ : Action Unit).bind fun _ =>
      Action.peerAt peerId .nullDereference).bind fun peer =>
        Action.caught pd.ack _) _ s _
  rw [bind_assoc]
  unfold onlyIf
  cases hpeer : s.peers[peerId]? with
  | none =>
      have hidle : s.expected peerId pd = .idle := by
        rw [DirectPlay8Peer.expected, DirectPlay8Peer.arrival, hpeer]
      rw [hidle, if_pos (by simp)]
      refine ⟨.idle, if_pos hpeer, acks_peerAt ?_⟩
      intro found hfound
      cases hpeer.symm.trans hfound
  | some peer =>
      rw [if_neg (by simp)]
      apply acks_peerAt
      intro found hfound
      cases hpeer.symm.trans hfound
      unfold Action.caught
      split
      · rename_i error herror
        have hidle : s.expected peerId pd = .idle := by
          rw [DirectPlay8Peer.expected, DirectPlay8Peer.arrival, hpeer, herror]
        exact ⟨hidle, h⟩
      · rename_i fields hfields
        rcases fields with ⟨ackId, result, data⟩
        have harrival : s.arrival peerId pd = (peer.pendingAcks[ackId]?).map
            fun ack => ⟨peerId, ackId, ack.callback, result, data⟩ := by
          rw [DirectPlay8Peer.arrival, hpeer, hfields]
        dsimp only
        split
        · rename_i hnone
          rw [DirectPlay8Peer.expected, harrival, hnone]
          exact ⟨rfl, h⟩
        · rename_i ack hpending
          rw [DirectPlay8Peer.expected, harrival, hpending, Option.map_some]
          exact answered_acks hpeer hfields hpending h

theorem unconcerned_of_plain (hasks : command.asks = false)
    (hkind : command.kind ∉ [CommandKind.allocAckId, .registerAck, .popPending,
      .eraseAck, .ackResolved, .note]) : (withoutAckIds p).commands command := by
  refine unconcerned_of_kind hasks ?_ ?_ ?_ ?_
  all_goals
    intro h
    simp_all

theorem ioUdpSend_acks (h : s.Addressed) :
    ackObserver.follows machine .ioUdpSend Action.ioUdpSend
      (fun _ => ackObserver.resting) s .idle := by
  apply acks_get
  split
  · exact ⟨rfl, h⟩
  refine acks_exec rfl ?_
  have h₁ : (Command.udpGetPending.apply s).Addressed :=
    h.apply (Command.isAddressed_of_asks rfl)
  apply acks_get
  split
  · exact ⟨rfl, h₁⟩
  · rename_i op hop
    intro answer _
    dsimp only
    rw [ret_bind]
    split
    · exact ⟨rfl, h₁⟩
    have hnothing : op.callback = .nothing := by
      refine h₁.datagrams op ?_
      rw [SendQueue.ops, hop]
      exact List.mem_cons_self
    have h₂ : (Command.udpPopPending.apply
        (Command.udpGetPending.apply s)).Addressed :=
      h₁.apply (Command.isAddressed_of_asks rfl)
    refine acks_exec rfl ⟨?_, ?_⟩
    · intro _
      refine ⟨.idle, rfl, h₂, ?_⟩
      simp [hnothing]
    · intro s' transit' hrest
      rw [show transit' = .idle from hrest.1]
      refine acks_rest (Action.uses_invoke.mpr ?_) hrest.2
      exact unconcerned_callee (fun _ => rfl) trivial (by simp)

theorem peerDestroySends_acks {result : HRESULT} {reason : DWORD}
    (hresult : result ≠ sOk) (h : s.Addressed) :
    ackObserver.follows machine (.peerDestroySends peerId result reason)
      (Action.peerDestroySends peerId result reason)
      (fun _ => ackObserver.resting) s .idle := by
  have hplain : forall change : PeerCommand, change = .getPending ∨ change = .popPending ->
      (withoutAckIds (.peerDestroySends peerId result reason)).commands
        (.peer peerId change) := by
    rintro _ (rfl | rfl)
    all_goals exact unconcerned_of_passes rfl rfl (by simp)
  have hcalls : forall callee : Proc, callee.CancelsWithError -> ¬ callee.ReportsSuccess ->
      (withoutAckIds (.peerDestroySends peerId result reason)).calls callee :=
    fun callee => unconcerned_callee fun _ => opening_handed rfl
  apply acks_rest _ h
  refine Action.uses_bind (Action.uses_ofPeer.mpr (hplain _ (Or.inl rfl))) fun _ => ?_
  refine Action.uses_bind (Action.uses_peerAt trivial) fun peer => ?_
  split
  · refine Action.uses_bind (Action.uses_ofPeer.mpr (hplain _ (Or.inr rfl))) fun _ => ?_
    refine Action.uses_bind ?_ fun _ => Action.uses_bind ?_ fun _ => ?_
    · exact Action.uses_log.mpr (unconcerned_of_plain rfl (by simp))
    · exact Action.uses_invoke.mpr (hcalls _ trivial hresult)
    · exact Action.uses_renewPeer fun _ =>
        Action.uses_invoke.mpr (hcalls _ hresult (by simp))
  · exact Action.uses_invoke.mpr (hcalls _ hresult (by simp))

theorem popped_acks {peer : Peer} {op : SendOp SendCallback} {callback : SendCallback}
    {addr : Nat} {sentAll : Bool} (hpeer : s.peers[peerId]? = some peer)
    (hop : peer.sq.current = some op) (hcallback : op.callback = callback)
    (h : s.Addressed) :
    ackObserver.follows machine (.ioPeerSend peerId)
      (do
        Action.ofPeer peerId .popPending
        Action.ofPeer peerId .getPending
        Action.log (.resolved addr sOk sentAll)
        invoke (.invokeCallback callback sOk))
      (fun _ => ackObserver.resting) s .idle := by
  have hpopped := DirectPlay8Peer.peer_changed .popPending hpeer
  have hgot := DirectPlay8Peer.peer_changed .getPending hpopped
  have h₁ : ((Command.peer peerId .popPending).apply s).Addressed :=
    h.apply (Command.isAddressed_of_asks rfl)
  have h₂ : ((Command.peer peerId .getPending).apply
      ((Command.peer peerId .popPending).apply s)).Addressed :=
    h₁.apply (Command.isAddressed_of_asks rfl)
  have hfor : callback.IsFor peerId := by
    refine h.queues peerId peer hpeer callback (List.mem_map.mpr ⟨op, ?_, hcallback⟩)
    rw [SendQueue.popPending_ops hop]
    exact List.mem_cons_self
  have hkept : forall transit, ackObserver.observe (.ioPeerSend peerId)
      (.peer peerId .getPending) ((Command.peer peerId .popPending).apply s) transit =
        some transit := by
    intro transit
    simp only [ackObserver, hpopped, PeerCommand.transit]
  subst hcallback
  by_cases hasks : op.callback.ackId = none
  · refine ⟨.idle, ?_, .idle, hkept .idle, .idle, rfl, fun _ =>
      ⟨.idle, ?_, ⟨h₂.datagrams, h₂.queues⟩, ?_⟩, fun _ _ hrest => hrest⟩
    · simp only [ackObserver, hpeer, PeerCommand.transit, hop, hasks, if_true]
    · simp only [ackObserver, hasks, true_or, if_true]
    · dsimp only
      rw [if_neg (fun hboth => hboth.2 hasks)]
  · refine ⟨.popped peerId op.callback, ?_, .popped peerId op.callback,
      hkept (.popped peerId op.callback), .popped peerId op.callback, rfl, fun hmeets =>
        ⟨.popped peerId op.callback, ?_, ⟨h₂.datagrams, h₂.queues⟩, ?_⟩,
      fun _ _ hrest => hrest⟩
    · simp only [ackObserver, hpeer, PeerCommand.transit, hop, hasks, if_false, if_true]
    · simp only [ackObserver, or_true, if_true]
    · dsimp only
      rw [if_pos ⟨rfl, hasks⟩]
      refine ⟨peerId, _, rfl, hgot, ?_⟩
      cases hcallback : op.callback with
      | requested target _ _ =>
          rw [hcallback] at hfor
          exact congrArg some hfor
      | groupRequested hostId _ _ =>
          rw [hcallback] at hmeets
          exact hmeets
      | _ => exact absurd (by rw [hcallback]; rfl) hasks

theorem ioPeerSend_acks (h : s.Addressed) :
    ackObserver.follows machine (.ioPeerSend peerId) (Action.ioPeerSend peerId)
      (fun _ => ackObserver.resting) s .idle := by
  have hplain : forall change : PeerCommand, (Command.peer peerId change).asks = false ->
      change.kind ∉ [CommandKind.allocAckId, .registerAck, .popPending, .eraseAck] ->
      (withoutAckIds (.ioPeerSend peerId)).commands (.peer peerId change) := by
    intro change hasks hkind
    refine unconcerned_of_plain hasks ?_
    cases change <;> simp_all
  have hends : forall s', s'.Addressed -> forall callee : Proc,
      (forall callback result, callee ≠ .invokeCallback callback result) ->
      callee.CancelsWithError ->
      ackObserver.follows machine (.ioPeerSend peerId) (invoke callee)
        (fun _ => ackObserver.resting) s' .idle := by
    intro s' h' callee hother hcancels
    refine acks_rest (Action.uses_invoke.mpr ?_) h'
    cases callee with
    | invokeCallback callback result => exact absurd rfl (hother callback result)
    | _ => exact unconcerned_callee (fun _ => rfl) hcancels (by simp)
  refine acks_renewPeer h fun _ _ => ?_
  apply acks_after (Action.uses_ofPeer.mpr (hplain _ rfl (by simp))) h
  intro _ s₁ h₁
  apply acks_peerAt
  intro peer hpeer
  split
  · rename_i op hop
    intro answer _
    dsimp only
    rw [ret_bind]
    split
    · split
      · exact ⟨rfl, h₁⟩
      · exact hends s₁ h₁ _ (by simp) (by simp)
    refine acks_exec ((hplain (.incSentData _) rfl (by simp)).2 s₁) ?_
    have h₂ : ((Command.peer peerId (.incSentData answer.ret.toNat)).apply s₁).Addressed :=
      h₁.apply (Command.isAddressed_of_asks rfl)
    have hcounted := DirectPlay8Peer.peer_changed (.incSentData answer.ret.toNat) hpeer
    have hcurrent : ((PeerCommand.incSentData answer.ret.toNat).apply s₁.nextAddr
        peer).sq.current = some (op.incSentData answer.ret.toNat) := by
      simp only [PeerCommand.apply, SendQueue.incSentData, hop, Option.map_some]
    refine acks_then ?_ fun _ s' h' => hends s' h' _ (by simp) trivial
    unfold onlyIf
    split
    · exact popped_acks hcounted hcurrent rfl h₂
    · exact ⟨rfl, h₂⟩
  · split
    · intro answer _
      dsimp only
      rw [ret_bind]
      split
      · exact hends s₁ h₁ _ (by simp) (by simp)
      · exact acks_rest (Action.uses_ofPeer.mpr (hplain _ rfl (by simp))) h₁
    · exact ⟨rfl, h₁⟩

theorem kinds_of_asks (h : p.asks = false) :
    CommandKind.allocAckId ∉ p.kinds ∧ CommandKind.registerAck ∉ p.kinds := by
  cases p with
  | createGroup | addPlayerToGroup | removePlayerFromGroup | setPeerInfo
  | invokeCallback => cases h
  | _ => exact ⟨by simp, by simp⟩

theorem plain_acks (hasks : p.asks = false) (hcompletes : p.completesSends = false)
    (hpasses : p.passesIds = true) (hcancels : p.CancelsWithError) (h : s.Addressed) :
    ackObserver.follows machine p p.body (fun _ => ackObserver.resting) s .idle := by
  refine acks_rest (Uses.mono (p.body_uses.meet (body_withoutRequests hasks)) ?_
    (fun _ => trivial) ?_ (fun _ hspawn => hspawn.1) (fun _ _ => trivial)) h
  · rintro command ⟨⟨hkind, _⟩, hplain⟩
    apply unconcerned_of_passes hpasses hplain
    intro hmem
    rcases List.mem_pair.mp hmem with hid | hid
    · exact (kinds_of_asks hasks).1 (hid ▸ hkind)
    · exact (kinds_of_asks hasks).2 (hid ▸ hkind)
  · rintro callee ⟨⟨_, hcallee, hreports⟩, _⟩
    refine unconcerned_callee (fun _ => opening_handed hpasses) (hcallee hcancels) ?_
    · intro hsuccess
      rw [hreports hsuccess] at hcompletes
      cases hcompletes

theorem acks_followed : ackObserver.Followed machine := by
  constructor
  · rintro p s _ hentry ⟨rfl, hstate⟩
    refine ⟨hstate, ?_⟩
    cases p <;> first
      | exact ⟨rfl, trivial⟩
      | cases hentry
  intro p s transit hbegins
  show ackObserver.follows machine p p.body (fun _ => ackObserver.resting) s transit
  by_cases hinvoke : exists callback result, p = .invokeCallback callback result
  · rcases hinvoke with ⟨callback, result, rfl⟩
    exact invokeCallback_acks hbegins
  · rcases hbegins with ⟨h, hbegins⟩
    cases p with
    | invokeCallback callback result => exact absurd ⟨callback, result, rfl⟩ hinvoke
    | createGroup info groupCtx ctx flags =>
        rw [show transit = .idle from hbegins.1]
        exact createGroup_acks h
    | addPlayerToGroup group client ctx flags =>
        rw [show transit = .idle from hbegins.1]
        exact addPlayerToGroup_acks h
    | removePlayerFromGroup group client ctx flags =>
        rw [show transit = .idle from hbegins.1]
        exact removePlayerFromGroup_acks h
    | setPeerInfo info ctx flags =>
        rw [show transit = .idle from hbegins.1]
        exact setPeerInfo_acks h
    | ioUdpSend =>
        rw [show transit = .idle from hbegins.1]
        exact ioUdpSend_acks h
    | ioPeerSend peerId =>
        rw [show transit = .idle from hbegins.1]
        exact ioPeerSend_acks h
    | peerDestroySends peerId result reason =>
        rw [show transit = .idle from hbegins.1]
        exact peerDestroySends_acks hbegins.2 h
    | handleAck peerId pd =>
        rw [show transit = s.expected peerId pd from hbegins]
        exact handleAck_acks h
    | _ =>
        rw [show transit = .idle from hbegins.1]
        exact plain_acks rfl rfl rfl hbegins.2 h

end Following

theorem acks_initial (s : DirectPlay8Peer) (h : s.Constructed) :
    ackObserver.resting s ackObserver.start := by
  refine ⟨rfl, ?_, ?_⟩
  · intro op hop
    simp [h.udpSq] at hop
  · intro peerId peer hpeer
    simp [h.peers] at hpeer

end DirectPlayLite
