import DirectPlayLite.Peer.Machine

/-!
# Footprints

What each procedure of the object can do by itself, whatever it reads and
whatever it is answered: the kinds of its commands, the procedures it calls or
starts, and the faults it may end in.
-/

namespace DirectPlayLite

open Monitor Program

/-!
## Kinds of commands
-/

inductive CommandKind where
  | state
  | connectStarted
  | connectComplete
  | createPlayer
  | destroyPlayer
  | raised
  | closeReturned
  | returned
  | resolved
  | ackResolved
  | recvCalled
  | delivered
  | note
  | peerState
  | peerPlayerId
  | peerPlayer
  | sendOpen
  | recvBusy
  | recvBuf
  | send
  | getPending
  | popPending
  | incSentData
  | removeQueued
  | allocAckId
  | registerAck
  | eraseAck
  | insertPeer
  | erasePeer
  | allocPeerId
  | mapPlayer
  | unmapPlayer
  | nextPlayerId
  | hostPlayerId
  | localPlayerId
  | localPlayer
  | group
  | session
  | connect
  | socket
  | workerPool
  | worker
  | completion
  | work
  | udp
  | handle
  | hostEnum
deriving Repr, DecidableEq

namespace Notification

@[simp] def kind : Notification -> CommandKind
  | connectComplete .. => .connectComplete
  | createPlayer .. => .createPlayer
  | destroyPlayer .. => .destroyPlayer
  | addPlayerToGroup .. | applicationDesc | asyncOpComplete .. | createGroup ..
  | destroyGroup .. | enumHostsQuery .. | indicateConnect .. | peerInfo ..
  | receive .. | removePlayerFromGroup .. | returnBuffer | sendComplete ..
  | terminateSession .. => .raised

end Notification

namespace Event

@[simp] def kind : Event -> CommandKind
  | raised notification => notification.kind
  | returned .close _ => .closeReturned
  | returned .. => .returned
  | connectStarted => .connectStarted
  | resolved .. => .resolved
  | ackResolved .. => .ackResolved
  | recvCalled .. => .recvCalled
  | delivered .. => .delivered
  | entered .. => .state
  | assertionFailed .. | peerDeleted .. | queued .. | ackRegistered ..
  | received .. => .note

end Event

namespace PeerCommand

@[simp] def kind : PeerCommand -> CommandKind
  | setState .. => .peerState
  | setPlayerId .. => .peerPlayerId
  | setPlayerCtx .. | setPlayerInfo .. => .peerPlayer
  | setSendOpen .. => .sendOpen
  | setRecvBusy .. => .recvBusy
  | appendRecv .. | shiftRecv .. => .recvBuf
  | send .. => .send
  | getPending => .getPending
  | popPending => .popPending
  | incSentData .. => .incSentData
  | removeQueued .. => .removeQueued
  | allocAckId => .allocAckId
  | registerAck .. => .registerAck
  | eraseAck .. => .eraseAck

end PeerCommand

namespace Command

@[simp] def kind : Command -> CommandKind
  | setState .. => .state
  | log event => event.kind
  | peer _ change => change.kind
  | insertPeer .. => .insertPeer
  | erasePeer .. => .erasePeer
  | allocPeerId => .allocPeerId
  | mapPlayer .. => .mapPlayer
  | unmapPlayer .. => .unmapPlayer
  | allocPlayerId | setNextPlayerId .. => .nextPlayerId
  | setHostPlayerId .. => .hostPlayerId
  | «local» (.setPlayerId _) => .localPlayerId
  | «local» _ => .localPlayer
  | group .. | emplaceGroup .. | eraseGroup .. | insertDestroyedGroup ..
  | clearDestroyedGroups => .group
  | session .. => .session
  | connect .. => .connect
  | setSocket .. | setLocalAddress .. => .socket
  | setWorkerPool .. => .workerPool
  | enterWorker | leaveWorker => .worker
  | newCompletion .. | completion .. => .completion
  | pushWork .. | popWork => .work
  | udpSend .. | udpGetPending | udpPopPending | udpRemoveQueued .. => .udp
  | allocHandle .. => .handle
  | insertHostEnum .. | eraseHostEnum .. | addSyncHostEnum
  | removeSyncHostEnum => .hostEnum

end Command

/-!
## The table
-/

namespace Proc

@[simp] def kinds : Proc -> List CommandKind
  | initialiseObject => [.returned, .workerPool, .state]
  | cancelAsyncOperation .. => [.returned, .udp, .resolved, .removeQueued]
  | connect .. =>
      [.returned, .session, .connect, .localPlayer, .socket, .handle, .state,
        .allocPeerId, .insertPeer, .connectStarted]
  | sendTo .. => [.returned, .note, .completion, .send, .raised, .handle, .work]
  | host .. =>
      [.returned, .session, .socket, .nextPlayerId, .hostPlayerId,
        .localPlayerId, .localPlayer, .state, .createPlayer]
  | setApplicationDesc .. => [.returned, .session, .send, .raised]
  | createGroup .. =>
      [.returned, .handle, .completion, .nextPlayerId, .group, .send, .note,
        .allocAckId]
  | destroyGroup .. => [.returned, .handle, .completion, .group, .send]
  | addPlayerToGroup .. =>
      [.returned, .handle, .completion, .group, .send, .allocAckId]
  | removePlayerFromGroup .. =>
      [.returned, .handle, .completion, .group, .send, .allocAckId]
  | setPeerInfo .. =>
      [.returned, .localPlayer, .handle, .completion, .allocAckId, .send,
        .raised]
  | close .. => [.closeReturned, .socket, .state]
  | enumHosts .. => [.returned, .hostEnum, .handle]
  | destroyPeer .. => [.returned, .send]
  | terminateSession .. =>
      [.returned, .socket, .send, .peerState, .state, .raised]
  | handleUdpSocketEvent => [.worker]
  | handleOtherSocketEvent => [.worker]
  | handleWork => [.worker, .work, .raised, .completion]
  | ioPeerTriggered .. => [.worker, .note]
  | sendCompleteThread .. => [.completion, .raised]
  | createGroupThread .. => [.group, .completion, .raised]
  | destroyGroupThread .. => [.group, .completion, .raised]
  | addPlayerThread .. => [.completion, .raised]
  | removePlayerThread .. => [.completion, .raised]
  | enumHostsThread .. => [.raised, .hostEnum]
  | ioUdpSend => [.udp]
  | ioPeerConnected .. => [.note, .send, .peerState]
  | ioPeerSend .. =>
      [.getPending, .popPending, .incSentData, .resolved, .sendOpen]
  | ioPeerRecv .. => [.recvCalled]
  | ioPeerRecvClaimed .. => [.recvBusy, .recvBuf]
  | ioPeerRecvNext .. => [.recvCalled, .recvBusy, .recvBuf]
  | ioPeerRecvPackets .. => [.delivered, .recvBuf]
  | peerAccept => [.allocPeerId, .insertPeer]
  | peerDestroy .. => [.note]
  | peerDestroySends .. => [.getPending, .popPending, .resolved]
  | peerDestroyAcks .. => [.eraseAck, .ackResolved]
  | peerDestroyDrained .. =>
      [.sendOpen, .peerState, .unmapPlayer, .state, .raised, .erasePeer]
  | peerDestroyAll .. => []
  | peerShutdown .. => [.note, .peerState, .unmapPlayer]
  | peerShutdownAll .. => [.note]
  | groupDestroyAll .. => [.group, .raised]
  | terminateDestroyPeers .. => []
  | closing .. => [.workerPool, .group, .state, .closeReturned]
  | handleHostEnumRequest .. => [.raised, .udp]
  | handleHostConnectRequest .. =>
      [.note, .send, .peerState, .peerPlayer, .raised, .nextPlayerId,
        .peerPlayerId, .mapPlayer, .createPlayer]
  | handleHostConnectOk .. =>
      [.note, .session, .hostPlayerId, .peerPlayerId, .mapPlayer,
        .localPlayerId, .connect, .peerPlayer, .peerState, .state,
        .createPlayer, .localPlayer, .group, .raised, .allocPeerId, .insertPeer]
  | handleHostConnectFail .. => [.note]
  | handleConnectPeer .. =>
      [.note, .send, .peerState, .peerPlayerId, .peerPlayer, .mapPlayer,
        .createPlayer]
  | handleConnectPeerOk .. =>
      [.note, .peerPlayer, .peerState, .mapPlayer, .createPlayer, .group,
        .raised]
  | handleConnectPeerFail .. => [.note]
  | handleMessage .. => [.raised]
  | handlePlayerinfo .. => [.note, .peerPlayer, .send, .raised]
  | handleAck .. => [.note, .eraseAck, .ackResolved]
  | handleAppdesc .. => [.note, .session, .raised]
  | handleDestroyPeer .. => [.note, .state, .raised, .send]
  | handleTerminateSession .. => [.note, .state, .raised]
  | handleGroupAllocate .. => [.note, .nextPlayerId, .send]
  | handleGroupCreate .. => [.note, .group, .raised]
  | handleGroupDestroy .. => [.note, .group, .raised]
  | handleGroupJoin .. => [.note, .group, .raised, .send]
  | handleGroupJoined .. => [.note, .group, .raised]
  | handleGroupLeave .. => [.note, .group, .raised, .send]
  | handleGroupLeft .. => [.note, .group, .raised]
  | connectCheck => [.note, .state, .connectComplete, .connect]
  | connectFail .. => [.note, .state, .socket, .connectComplete, .connect]
  | connectUnwind .. => []
  | invokeCallback .. => [.completion, .raised, .note, .registerAck]
  | invokeAck .. => [.completion, .raised, .group, .send]
  | dispatchDestroyPlayer .. => [.group, .raised, .destroyPlayer]
  | cancelPlayerSends .. => [.removeQueued, .resolved]
  | cancelAllSends => [.removeQueued, .resolved]

def isPacketHandler : Proc -> Bool
  | handleHostConnectRequest .. | handleHostConnectOk ..
  | handleHostConnectFail .. | handleConnectPeer .. | handleConnectPeerOk ..
  | handleConnectPeerFail .. | handleMessage .. | handlePlayerinfo ..
  | handleAck .. | handleAppdesc .. | handleDestroyPeer ..
  | handleTerminateSession .. | handleGroupAllocate .. | handleGroupCreate ..
  | handleGroupDestroy .. | handleGroupJoin .. | handleGroupJoined ..
  | handleGroupLeave .. | handleGroupLeft .. => true
  | _ => false

@[simp] def isDetached : Proc -> Bool
  | sendCompleteThread .. | createGroupThread .. | destroyGroupThread ..
  | addPlayerThread .. | removePlayerThread .. | enumHostsThread .. => true
  | _ => false

@[simp] def callees : Proc -> Proc -> Bool
  | cancelAsyncOperation .., q =>
      (q matches .cancelPlayerSends .. | .cancelAllSends | .connectFail ..
        | .invokeCallback ..)
  | close .., q =>
      (q matches .connectFail .. | .closing ..)
  | destroyPeer .., q => (q matches .peerShutdown ..)
  | terminateSession .., q =>
      (q matches .dispatchDestroyPlayer .. | .groupDestroyAll ..
        | .terminateDestroyPeers ..)
  | handleUdpSocketEvent, q =>
      (q matches .handleHostEnumRequest .. | .ioUdpSend)
  | handleOtherSocketEvent, q =>
      (q matches .handleHostEnumRequest .. | .peerAccept)
  | ioPeerTriggered .., q =>
      (q matches .ioPeerConnected .. | .ioPeerSend .. | .ioPeerRecv ..)
  | ioUdpSend, q =>
      (q matches .invokeCallback .. | .ioUdpSend)
  | ioPeerConnected .., q => (q matches .connectFail ..)
  | ioPeerSend .., q =>
      (q matches .peerDestroy .. | .invokeCallback .. | .ioPeerSend ..)
  | ioPeerRecv .., q => (q matches .ioPeerRecvClaimed ..)
  | ioPeerRecvClaimed .., q | ioPeerRecvNext .., q =>
      (q matches .peerDestroy .. | .ioPeerRecvNext .. | .ioPeerRecvPackets ..)
  | ioPeerRecvPackets .., q =>
      (q matches .peerDestroy .. | .ioPeerRecvNext .. | .ioPeerRecvPackets ..)
        || q.isPacketHandler
  | peerDestroy .., q => (q matches .peerDestroySends ..)
  | peerDestroySends .., q =>
      (q matches .invokeCallback .. | .peerDestroySends ..
        | .peerDestroyAcks ..)
  | peerDestroyAcks .., q =>
      (q matches .invokeAck .. | .peerDestroyAcks .. | .peerDestroyDrained ..)
  | peerDestroyDrained .., q =>
      (q matches .dispatchDestroyPlayer .. | .peerDestroyAll ..
        | .groupDestroyAll .. | .connectFail ..)
  | peerDestroyAll .., q =>
      (q matches .peerDestroy .. | .peerDestroyAll ..)
  | peerShutdown .., q =>
      (q matches .dispatchDestroyPlayer .. | .peerDestroy ..)
  | peerShutdownAll .., q =>
      (q matches .peerShutdown .. | .peerShutdownAll ..)
  | groupDestroyAll .., q => (q matches .groupDestroyAll ..)
  | terminateDestroyPeers .., q =>
      (q matches .peerDestroy .. | .terminateDestroyPeers ..)
  | closing .., q =>
      (q matches .dispatchDestroyPlayer .. | .peerDestroyAll ..
        | .peerShutdownAll .. | .groupDestroyAll ..)
  | handleHostConnectOk .., q =>
      (q matches .connectCheck | .connectFail ..)
  | handleHostConnectFail .., q => (q matches .connectFail ..)
  | handleConnectPeerOk .., q => (q matches .connectCheck)
  | handleConnectPeerFail .., q => (q matches .connectFail ..)
  | handleAck .., q => (q matches .invokeAck ..)
  | handleDestroyPeer .., q =>
      (q matches .dispatchDestroyPlayer .. | .peerShutdownAll ..
        | .groupDestroyAll .. | .peerDestroy ..)
  | handleTerminateSession .., q =>
      (q matches .dispatchDestroyPlayer .. | .peerShutdownAll ..
        | .groupDestroyAll ..)
  | connectFail .., q => (q matches .connectUnwind ..)
  | connectUnwind .., q =>
      (q matches .peerDestroyAll .. | .dispatchDestroyPlayer ..)
  | dispatchDestroyPlayer .., q => (q matches .dispatchDestroyPlayer ..)
  | cancelPlayerSends .., q =>
      (q matches .invokeCallback .. | .cancelPlayerSends ..)
  | cancelAllSends, q =>
      (q matches .invokeCallback .. | .cancelAllSends)
  | _, _ => false

@[simp] def CancelsWithError : Proc -> Prop
  | peerDestroy _ result _ | peerDestroySends _ result _
  | peerDestroyAcks _ result _ | peerDestroyDrained _ result _
  | peerDestroyAll result _ | peerShutdown _ result _
  | peerShutdownAll result _ => result ≠ sOk
  | _ => True

@[simp] def readsUnguarded : Proc -> Bool
  | handleHostEnumRequest .. | handleHostConnectRequest ..
  | handleHostConnectOk .. | handleConnectPeer .. | handleConnectPeerOk .. =>
      true
  | _ => false

end Proc

@[simp] def Proc.assigns : Proc -> List State
  | .initialiseObject => [.initialised]
  | .connect .. => [.connectingToHost]
  | .host .. => [.hosting]
  | .close .. => [.closing]
  | .closing .. => [.new]
  | .terminateSession .. | .peerDestroyDrained .. | .handleDestroyPeer ..
  | .handleTerminateSession .. => [.terminated]
  | .handleHostConnectOk .. => [.connectingToPeers]
  | .connectCheck => [.connected]
  | .connectFail .. => [.connectFailed, .initialised]
  | _ => []

@[simp] def Proc.assignsPeer : Proc -> List PeerState
  | .terminateSession .. | .peerDestroyDrained .. | .peerShutdown .. =>
      [.closing]
  | .ioPeerConnected .. => [.requestingHost, .requestingPeer]
  | .handleHostConnectRequest .. => [.indicating, .connected, .closing]
  | .handleConnectPeer .. => [.connected, .closing]
  | .handleHostConnectOk .. | .handleConnectPeerOk .. => [.connected]
  | _ => []

@[simp] def Proc.inserts : Proc -> List PeerState
  | .peerAccept => [.accepted]
  | .connect .. => [.connectingHost]
  | .handleHostConnectOk .. => [.connectingPeer]
  | _ => []

@[simp] def Assertion.isAboutState : Assertion -> Bool
  | .ioPeerTriggered | .handleHostConnectOk | .handleHostConnectFail
  | .handleConnectPeerOk | .handleConnectPeerFail | .connectCheck
  | .connectFail => true
  | .peerNotNull | .registerAck | .peerShutdownAll => false

@[simp] def Proc.assertsState : Proc -> Bool
  | .ioPeerTriggered .. | .handleHostConnectOk .. | .handleHostConnectFail ..
  | .handleConnectPeerOk .. | .handleConnectPeerFail .. | .connectCheck
  | .connectFail .. => true
  | _ => false

/-- The types of the packets that tell a peer it has been accepted. -/
def isSuccessType (type : UInt32) : Bool :=
  type == msgidConnectHostOk || type == msgidConnectPeerOk

/-- The packet tells a peer it has been accepted. -/
def isSuccessReply (packet : List UInt8) : Bool :=
  isSuccessType (LittleEndian.word32 (packet.take 4))

@[simp] def Proc.accepts : Proc -> Bool
  | .handleHostConnectRequest .. | .handleConnectPeer .. => true
  | _ => false

@[simp] def Proc.insertsMembers : Proc -> Bool
  | .addPlayerToGroup .. | .handleHostConnectOk .. | .handleConnectPeerOk ..
  | .handleGroupJoin .. | .handleGroupJoined .. => true
  | _ => false

/-- The player a request for a group ID is sent to, if the callback is of one. -/
@[simp] def SendCallback.allocatesAt : SendCallback -> Option DPNID
  | .groupRequested hostId _ _ => some hostId
  | _ => none

@[simp] def Proc.allocatesGroups : Proc -> Bool
  | .createGroup .. => true
  | _ => false

@[simp] def Proc.numbersAnew : Proc -> Bool
  | .host .. => true
  | _ => false

/-- What holds of the arguments of a command of a procedure. -/
@[simp] def Proc.Fits (p : Proc) : Command -> Prop
  | .setState state => state ∈ p.assigns
  | .log (.entered _) | .log (.peerDeleted _) | .log (.queued ..)
  | .log (.ackRegistered ..) | .log (.received ..) => False
  | .log (.assertionFailed assertion) =>
      assertion.isAboutState = true -> p.assertsState = true
  | .peer _ (.setState state) => state ∈ p.assignsPeer
  | .peer _ (.send _ packet _ callback) =>
      packet ≠ [] ∧ (isSuccessReply packet = true -> p.accepts = true) ∧
        (callback.allocatesAt ≠ none -> p.allocatesGroups = true)
  | .insertPeer _ state _ _ _ _ => state ∈ p.inserts
  | .group _ (.insertPlayer _) => p.insertsMembers = true
  | .setNextPlayerId _ => p.numbersAnew = true
  | _ => True

@[simp] def Proc.ReportsSuccess : Proc -> Prop
  | .invokeCallback _ result => result = sOk
  | _ => False

@[simp] def Proc.completesSends : Proc -> Bool
  | .ioPeerSend .. | .ioUdpSend | .peerDestroySends .. => true
  | _ => false

@[simp] def Fault.IsException : Fault -> Prop
  | .unhandledException _ => True
  | _ => False

def Proc.footprint (p : Proc) : Footprint Command Proc Fault where
  commands := fun command => command.kind ∈ p.kinds ∧ p.Fits command
  releases := True
  calls := fun q =>
    p.callees q = true ∧ (p.CancelsWithError -> q.CancelsWithError) ∧
      (q.ReportsSuccess -> p.completesSends = true)
  spawns := fun q => q.isDetached = true
  faults := fun fault => fault.IsException -> p.readsUnguarded = true

/-!
## Rules
-/

namespace Action

section Rules

variable {fp : Footprint Command Proc Fault} {α β : Type}

theorem uses_bind {prog : Action α} {f : α -> Action β} (hprog : prog.Uses fp)
    (hf : forall value, (f value).Uses fp) : (prog >>= f).Uses fp :=
  hprog.bind hf

@[simp] theorem uses_ret {value : α} :
    (.ret value : Action α).Uses fp ↔ True := Iff.rfl

@[simp] theorem uses_abort {fault : Fault} :
    (.abort fault : Action α).Uses fp ↔ fp.faults fault := Iff.rfl

@[simp] theorem uses_get : (get : Action DirectPlay8Peer).Uses fp ↔ True := by
  show (DirectPlay8Peer -> True) ↔ True
  simp

@[simp] theorem uses_perform {command : Command} :
    (perform command : Action Unit).Uses fp ↔ fp.commands command := by
  show fp.commands command ∧ True ↔ _
  simp

@[simp] theorem uses_query {q : Query} :
    (query q : Action Answer).Uses fp ↔ True := by
  show (Answer -> True) ↔ True
  simp

@[simp] theorem uses_unlocked {q : Query} {ready : DirectPlay8Peer -> Bool} :
    (unlocked q ready : Action Answer).Uses fp ↔ fp.releases := by
  show fp.releases ∧ (Answer -> True) ↔ _
  simp

@[simp] theorem uses_invoke {callee : Proc} :
    (invoke callee : Action Unit).Uses fp ↔ fp.calls callee := by
  show fp.calls callee ∧ True ↔ _
  simp

@[simp] theorem uses_detach {child : Proc} :
    (detach child : Action Unit).Uses fp ↔ fp.spawns child := by
  show fp.spawns child ∧ True ↔ _
  simp

@[simp] theorem uses_log {event : Event} :
    (log event).Uses fp ↔ fp.commands (.log event) := by
  simp [log]

@[simp] theorem uses_ofPeer {peerId : UInt32} {change : PeerCommand} :
    (ofPeer peerId change).Uses fp ↔ fp.commands (.peer peerId change) := by
  simp [ofPeer]

@[simp] theorem uses_sendPacket {peerId : UInt32} {priority : SendPriority}
    {packet : PacketSerialiser} {callback : SendCallback} :
    (sendPacket peerId priority packet callback).Uses fp ↔
      fp.commands
        (.peer peerId (.send priority packet.rawPacket 0 callback)) := by
  simp [sendPacket]

@[simp] theorem uses_returns {method : Method} {result : HRESULT} :
    (returns method result).Uses fp ↔
      fp.commands (.log (.returned method result)) := by
  simp [returns]

@[simp] theorem uses_raise {notification : Notification} :
    (raise notification).Uses fp ↔
      fp.commands (.log (.raised notification)) ∧ fp.releases := by
  show fp.commands (.log (.raised notification)) ∧
    fp.releases ∧ (Answer -> True) ↔ _
  simp

@[simp] theorem uses_waitUntil {ready : DirectPlay8Peer -> Bool} :
    (waitUntil ready).Uses fp ↔ fp.releases := by
  show fp.releases ∧ (Answer -> True) ↔ _
  simp

theorem uses_assertThat {assertion : Assertion} {condition : Prop}
    [Decidable condition]
    (hnote : fp.commands (.log (.assertionFailed assertion))) :
    (assertThat assertion condition).Uses fp :=
  Uses.onlyIf fun _ => by simpa using hnote

theorem uses_peerAt {peerId : UInt32} {missing : Fault}
    (hfault : fp.faults missing) : (peerAt peerId missing).Uses fp := by
  apply uses_bind (by simp)
  intro s
  split
  · trivial
  · exact hfault

theorem uses_assertedPeer {peerId : UInt32}
    (hnote : fp.commands (.log (.assertionFailed .peerNotNull)))
    (hfault : fp.faults .nullDereference) : (assertedPeer peerId).Uses fp := by
  apply uses_bind (by simp)
  intro s
  exact uses_bind (uses_assertThat hnote) fun _ => uses_peerAt hfault

theorem uses_renewPeer {peerId : UInt32} {next : Peer -> Action Unit}
    (hnext : forall peer, (next peer).Uses fp) :
    (renewPeer peerId next).Uses fp := by
  apply uses_bind (by simp)
  intro s
  split
  · exact hnext _
  · trivial

theorem uses_fetch {field : Except PacketError α}
    (hfault : forall error, fp.faults (.unhandledException error)) :
    (fetch field).Uses fp := by
  unfold fetch
  split
  · trivial
  · exact hfault _

theorem uses_caught {fields : Except PacketError α} {next : α -> Action Unit}
    (hnext : forall value, (next value).Uses fp) :
    (caught fields next).Uses fp := by
  unfold caught
  split
  · trivial
  · exact hnext _

theorem uses_sendToConnected {priority : SendPriority}
    {packet : PacketSerialiser} {callback : SendCallback}
    (hsend : forall peerId, fp.commands
      (.peer peerId (.send priority packet.rawPacket 0 callback))) :
    (sendToConnected priority packet callback).Uses fp := by
  apply uses_bind (by simp)
  intro s
  exact Uses.forEach fun peerId _ => by simpa using hsend peerId

theorem uses_closeMainSockets
    (hsocket : forall which, fp.commands (.setSocket which (-1))) :
    closeMainSockets.Uses fp := by
  unfold closeMainSockets closeMainSocket
  repeat' with_reducible first
    | apply uses_bind
    | intro _
  all_goals simp [hsocket]

theorem uses_dispatchDestroyLocalPlayer {reason : DWORD}
    (hcall : forall player ctx,
      fp.calls (.dispatchDestroyPlayer player ctx reason)) :
    (dispatchDestroyLocalPlayer reason).Uses fp := by
  apply uses_bind (by simp)
  intro s
  simpa using hcall _ _

theorem uses_closePeers {flags : DWORD} (hreleases : fp.releases)
    (hdestroy : fp.calls
      (.peerDestroyAll dpnErrUserCancel destroyPlayerReasonNormal))
    (hshutdown : fp.calls
      (.peerShutdownAll dpnErrUserCancel destroyPlayerReasonNormal)) :
    (closePeers flags).Uses fp := by
  unfold closePeers
  repeat' with_reducible first
    | apply uses_bind
    | intro _
    | split
  all_goals simp [hreleases, hdestroy, hshutdown]

theorem uses_ofCompletion {addr : Nat} {change : CompletionCommand}
    (hcommand : fp.commands (.completion addr change))
    (hfault : fp.faults .useAfterFree) : (ofCompletion addr change).Uses fp := by
  apply uses_bind (by simp)
  intro s
  split
  · simpa using hcommand
  · exact hfault

theorem uses_notifyConnected {packet : PacketSerialiser} {completion : Nat}
    (hcommand : fp.commands (.completion completion .increment))
    (hsend : forall peerId, fp.commands (.peer peerId
      (.send .high packet.rawPacket 0 (.notified completion))))
    (hfault : fp.faults .useAfterFree) :
    (notifyConnected packet completion).Uses fp := by
  apply uses_bind (by simp)
  intro s
  apply Uses.forEach
  intro peerId _
  exact uses_bind (uses_ofCompletion hcommand hfault) fun _ => by
    simpa using hsend peerId

end Rules

end Action

@[simp] theorem dpnErrGeneric_ne : dpnErrGeneric ≠ sOk := by decide
@[simp] theorem dpnErrUserCancel_ne : dpnErrUserCancel ≠ sOk := by decide
@[simp] theorem dpnErrConnectionLost_ne : dpnErrConnectionLost ≠ sOk := by
  decide
@[simp] theorem dpnErrHostTerminatedSession_ne :
    dpnErrHostTerminatedSession ≠ sOk := by decide

@[simp] theorem serialise_rawPacket_ne_nil (type : UInt32)
    (calls : List Append) : (serialise type calls).rawPacket ≠ [] := by
  intro hnil
  have hlength := serialise_rawPacket_length type calls
  rw [hnil, List.length_nil] at hlength
  omega

@[simp] theorem isSuccessType_others :
    isSuccessType msgidConnectHost = false ∧
    isSuccessType msgidConnectHostFail = false ∧
    isSuccessType msgidMessage = false ∧
    isSuccessType msgidPlayerinfo = false ∧
    isSuccessType msgidAck = false ∧
    isSuccessType msgidAppdesc = false ∧
    isSuccessType msgidConnectPeer = false ∧
    isSuccessType msgidConnectPeerFail = false ∧
    isSuccessType msgidDestroyPeer = false ∧
    isSuccessType msgidTerminateSession = false ∧
    isSuccessType msgidGroupAllocate = false ∧
    isSuccessType msgidGroupCreate = false ∧
    isSuccessType msgidGroupDestroy = false ∧
    isSuccessType msgidGroupJoin = false ∧
    isSuccessType msgidGroupJoined = false ∧
    isSuccessType msgidGroupLeave = false ∧
    isSuccessType msgidGroupLeft = false := by decide

@[simp] theorem isSuccessReply_serialise (type : UInt32)
    (calls : List Append) :
    isSuccessReply (serialise type calls).rawPacket = isSuccessType type := by
  rw [isSuccessReply, serialise_rawPacket, tlvHeader, List.append_assoc,
    List.take_append_of_le_length (by simp), List.take_of_length_le (by simp),
    LittleEndian.word32_bytes32]

namespace Proc

variable {p : Proc}

@[simp] theorem footprint_commands {command : Command} :
    p.footprint.commands command ↔
      command.kind ∈ p.kinds ∧ p.Fits command := Iff.rfl

@[simp] theorem footprint_releases : p.footprint.releases ↔ True := Iff.rfl

@[simp] theorem footprint_calls {q : Proc} :
    p.footprint.calls q ↔
      p.callees q = true ∧ (p.CancelsWithError -> q.CancelsWithError) ∧
        (q.ReportsSuccess -> p.completesSends = true) := Iff.rfl

@[simp] theorem footprint_spawns {q : Proc} :
    p.footprint.spawns q ↔ q.isDetached = true := Iff.rfl

@[simp] theorem footprint_faults {fault : Fault} :
    p.footprint.faults fault ↔
      (fault.IsException -> p.readsUnguarded = true) := Iff.rfl

end Proc

end DirectPlayLite
