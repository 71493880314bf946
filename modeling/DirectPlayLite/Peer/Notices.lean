import DirectPlayLite.Peer.Behaviour

/-!
# Notices

A finer table than that of the footprints: which procedures tell the application
of messages and of groups, which make groups, mark them as destroyed and erase
them, and which end a session.
-/

namespace DirectPlayLite

open Monitor Program

inductive Notice where
  | receive
  | createGroup
  | destroyGroup
  | emplaceGroup
  | insertDestroyedGroup
  | eraseGroup
  | clearDestroyedGroups
  /-- `Close` has succeeded. -/
  | closed
deriving Repr, DecidableEq

@[simp] def Notification.notice : Notification -> Option Notice
  | receive .. => some .receive
  | createGroup .. => some .createGroup
  | destroyGroup .. => some .destroyGroup
  | addPlayerToGroup .. | applicationDesc | asyncOpComplete ..
  | connectComplete .. | createPlayer .. | destroyPlayer .. | enumHostsQuery ..
  | indicateConnect .. | peerInfo .. | removePlayerFromGroup .. | returnBuffer
  | sendComplete .. | terminateSession .. => none

@[simp] def Event.notice : Event -> Option Notice
  | raised notification => notification.notice
  | returned .close result => if result = sOk then some .closed else none
  | returned .. | connectStarted | resolved .. | ackResolved .. | recvCalled ..
  | delivered .. | entered .. | assertionFailed .. | peerDeleted .. | queued ..
  | ackRegistered .. | received .. => none

namespace Command

@[simp] def notice : Command -> Option Notice
  | log event => event.notice
  | emplaceGroup .. => some .emplaceGroup
  | insertDestroyedGroup .. => some .insertDestroyedGroup
  | eraseGroup .. => some .eraseGroup
  | clearDestroyedGroups => some .clearDestroyedGroups
  | setState .. | peer .. | insertPeer .. | erasePeer .. | allocPeerId
  | mapPlayer .. | unmapPlayer .. | allocPlayerId | setNextPlayerId ..
  | setHostPlayerId .. | «local» .. | group .. | session .. | connect ..
  | setSocket .. | setLocalAddress .. | setWorkerPool .. | enterWorker
  | leaveWorker | newCompletion .. | completion .. | pushWork .. | popWork
  | udpSend .. | udpGetPending | udpPopPending | udpRemoveQueued ..
  | allocHandle .. | insertHostEnum .. | eraseHostEnum .. | addSyncHostEnum
  | removeSyncHostEnum => none

end Command

namespace Proc

@[simp] def notices : Proc -> List Notice
  | sendTo .. | handleWork | handleMessage .. => [.receive]
  | createGroup .. | invokeAck .. => [.emplaceGroup]
  | destroyGroup .. => [.insertDestroyedGroup]
  | createGroupThread .. => [.createGroup]
  | destroyGroupThread .. => [.destroyGroup, .eraseGroup]
  | groupDestroyAll .. | handleGroupDestroy .. =>
      [.insertDestroyedGroup, .destroyGroup, .eraseGroup]
  | closing .. => [.clearDestroyedGroups, .closed]
  | handleGroupCreate .. | handleGroupJoin .. | handleGroupJoined .. =>
      [.emplaceGroup, .createGroup]
  | _ => []

/-- The thread that tells the application of the end of a group. -/
@[simp] def isDestroyThread : Proc -> Bool
  | destroyGroupThread .. => true
  | _ => false

@[simp] def isDestroyGroup : Proc -> Bool
  | destroyGroup .. => true
  | _ => false

def noticeFootprint (p : Proc) : Footprint Command Proc Fault where
  commands := fun command =>
    forall notice, command.notice = some notice -> notice ∈ p.notices
  releases := True
  calls := fun q => q.isDestroyThread = false
  spawns := fun q => q.isDestroyThread = true -> p.isDestroyGroup = true
  faults := fun _ => True

def KeepsNotices (p : Proc) : Prop := p.body.Uses p.noticeFootprint

section Table

variable {p q : Proc} {command : Command}

@[simp] theorem noticeFootprint_commands :
    p.noticeFootprint.commands command ↔
      forall notice, command.notice = some notice -> notice ∈ p.notices :=
  Iff.rfl

@[simp] theorem noticeFootprint_releases : p.noticeFootprint.releases := trivial

@[simp] theorem noticeFootprint_calls :
    p.noticeFootprint.calls q ↔ q.isDestroyThread = false := Iff.rfl

@[simp] theorem noticeFootprint_spawns :
    p.noticeFootprint.spawns q ↔
      (q.isDestroyThread = true -> p.isDestroyGroup = true) := Iff.rfl

@[simp] theorem noticeFootprint_faults (fault : Fault) :
    p.noticeFootprint.faults fault := trivial

end Table

end Proc

namespace Action

/-!
## The procedures
-/

theorem complete_notices (p : Proc) (addr : Nat) (result : HRESULT) :
    (complete addr result).Uses p.noticeFootprint := by
  unfold complete
  repeat' with_reducible first
    | apply Uses.onlyIf
    | apply uses_bind
    | intro _
    | split
  all_goals simp

theorem threads_keepNotices {p : Proc} (h : p.subject = .threads) : p.KeepsNotices := by
  unfold Proc.KeepsNotices
  cases p <;> cases h
  all_goals simp only [Proc.body, sendCompleteThread, createGroupThread,
    destroyGroupThread, addPlayerThread, removePlayerThread, enumHostsThread]
  repeat' with_reducible first
    | apply complete_notices
    | apply uses_bind
    | intro _
    | split
  all_goals simp

theorem callbacks_keepNotices {p : Proc} (h : p.subject = .callbacks) : p.KeepsNotices := by
  unfold Proc.KeepsNotices
  cases p <;> cases h
  all_goals simp only [Proc.body, invokeCallback, invokeAck, dispatchDestroyPlayer,
    groupDestroyAll, registerAck]
  repeat' with_reducible first
    | apply complete_notices
    | apply uses_createTheGroup
    | apply uses_peerAt
    | apply uses_assertedPeer
    | apply uses_assertThat
    | apply Uses.onlyIf
    | apply uses_bind
    | intro _
    | split
  all_goals simp

theorem teardown_keepNotices {p : Proc} (h : p.subject = .teardown) : p.KeepsNotices := by
  unfold Proc.KeepsNotices
  cases p <;> cases h
  all_goals simp only [Proc.body, peerDestroy, peerDestroySends, peerDestroyAcks,
    peerDestroyAll, peerShutdown, peerShutdownAll, terminateDestroyPeers]
  repeat' with_reducible first
    | apply uses_peerAt
    | apply uses_assertedPeer
    | apply uses_renewPeer
    | apply uses_assertThat
    | apply uses_bind
    | intro _
    | split
  all_goals simp

theorem peerDestroyDrained_keepsNotices (peerId : UInt32) (result : HRESULT)
    (reason : DWORD) :
    (Proc.peerDestroyDrained peerId result reason).KeepsNotices := by
  unfold Proc.KeepsNotices Proc.body
  simp only [peerDestroyDrained, removePeer, hostLost,
    dispatchDestroyLocalPlayer]
  repeat' with_reducible first
    | apply uses_peerAt
    | apply uses_renewPeer
    | apply Uses.onlyIf
    | apply uses_bind
    | intro _
    | split
  all_goals simp

theorem connectEnd_keepNotices {p : Proc} (h : p.subject = .connectEnd) : p.KeepsNotices := by
  unfold Proc.KeepsNotices
  cases p <;> cases h
  all_goals simp only [Proc.body, connectFail, connectUnwind, connectCheck,
    dispatchDestroyLocalPlayer, closeMainSockets, closeMainSocket]
  repeat' with_reducible first
    | apply uses_assertThat
    | apply Uses.onlyIf
    | apply uses_bind
    | intro _
    | split
  all_goals simp

theorem sending_keepNotices {p : Proc} (h : p.subject = .sending) : p.KeepsNotices := by
  unfold Proc.KeepsNotices
  cases p <;> cases h
  all_goals simp only [Proc.body, ioUdpSend, ioPeerConnected, ioPeerSend]
  repeat' with_reducible first
    | apply uses_peerAt
    | apply uses_assertedPeer
    | apply uses_renewPeer
    | apply Uses.onlyIf
    | apply uses_bind
    | intro _
    | split
  all_goals simp

theorem receiving_keepNotices {p : Proc} (h : p.subject = .receiving) : p.KeepsNotices := by
  unfold Proc.KeepsNotices
  cases p <;> cases h
  all_goals simp only [Proc.body, ioPeerRecv, ioPeerRecvClaimed, ioPeerRecvNext,
    recvMore, recvResult]
  repeat' with_reducible first
    | apply uses_peerAt
    | apply uses_renewPeer
    | apply uses_bind
    | intro _
    | split
  all_goals simp

theorem handler_not_destroyThread {peerId : UInt32} {pd : PacketDeserialiser}
    {handler : Proc} (h : packetHandler peerId pd = some handler) :
    handler.isDestroyThread = false := by
  have hkind := packetHandler_isPacketHandler h
  cases handler <;> first
    | rfl
    | cases hkind

theorem ioPeerRecvPackets_keepsNotices (peerId : UInt32) :
    (Proc.ioPeerRecvPackets peerId).KeepsNotices := by
  unfold Proc.KeepsNotices Proc.body
  simp only [ioPeerRecvPackets]
  repeat' with_reducible first
    | apply uses_peerAt
    | apply uses_renewPeer
    | apply uses_bind
    | intro _
    | split
  case h_1.hprog handler hfound =>
    exact uses_invoke.mpr (handler_not_destroyThread hfound)
  all_goals simp

theorem workerEvents_keepNotices {p : Proc} (h : p.subject = .workerEvents) : p.KeepsNotices := by
  unfold Proc.KeepsNotices
  cases p <;> cases h
  all_goals simp only [Proc.body, workerCallback, handleUdpSocketEvent,
    handleOtherSocketEvent, handleWork, ioPeerTriggered, receiveDatagram, peerAccept]
  repeat' with_reducible first
    | apply complete_notices
    | apply uses_addPeer
    | apply uses_renewPeer
    | apply uses_assertThat
    | apply Uses.onlyIf
    | apply uses_bind
    | intro _
    | split
  all_goals simp

theorem joining_keepNotices {p : Proc} (h : p.subject = .joining) : p.KeepsNotices := by
  unfold Proc.KeepsNotices
  cases p <;> cases h
  all_goals simp only [Proc.body, handleHostEnumRequest, handleHostConnectRequest,
    handleHostConnectOk, handleHostConnectFail, returnBuffer, sendConnectHostFail,
    sendGroups, admitPlayer]
  repeat' with_reducible first
    | apply uses_peerAt
    | apply uses_assertedPeer
    | apply uses_renewPeer
    | apply uses_assertThat
    | apply uses_fetch
    | apply uses_joinGroups
    | apply uses_connectToPeers
    | apply Uses.onlyIf
    | apply Uses.forEach
    | apply uses_bind
    | intro _
    | split
  all_goals simp

theorem peerJoining_keepNotices {p : Proc} (h : p.subject = .peerJoining) : p.KeepsNotices := by
  unfold Proc.KeepsNotices
  cases p <;> cases h
  all_goals simp only [Proc.body, handleConnectPeer, handleConnectPeerOk,
    handleConnectPeerFail, sendConnectPeerFail, sendGroups]
  repeat' with_reducible first
    | apply uses_assertedPeer
    | apply uses_renewPeer
    | apply uses_assertThat
    | apply uses_fetch
    | apply uses_joinGroups
    | apply Uses.forEach
    | apply uses_bind
    | intro _
    | split
  all_goals simp

theorem messages_keepNotices {p : Proc} (h : p.subject = .messages) : p.KeepsNotices := by
  unfold Proc.KeepsNotices
  cases p <;> cases h
  all_goals simp only [Proc.body, handleMessage, handlePlayerinfo, handleAck,
    handleAppdesc, handleDestroyPeer, handleTerminateSession, sessionTerminated,
    dispatchDestroyLocalPlayer]
  repeat' with_reducible first
    | apply uses_assertedPeer
    | apply uses_caught
    | apply uses_sendToConnected
    | apply uses_bind
    | intro _
    | split
  all_goals simp

theorem groupMessages_keepNotices {p : Proc} (h : p.subject = .groupMessages) : p.KeepsNotices := by
  unfold Proc.KeepsNotices
  cases p <;> cases h
  all_goals simp only [Proc.body, handleGroupAllocate, handleGroupCreate,
    handleGroupDestroy, handleGroupJoin, handleGroupJoined, handleGroupLeave,
    handleGroupLeft, sendAck]
  repeat' with_reducible first
    | apply uses_peerAt
    | apply uses_assertedPeer
    | apply uses_caught
    | apply uses_sendToConnected
    | apply uses_bind
    | intro _
    | split
  all_goals simp

theorem cancelling_keepNotices {p : Proc} (h : p.subject = .cancelling) : p.KeepsNotices := by
  unfold Proc.KeepsNotices
  cases p <;> cases h
  all_goals simp only [Proc.body, cancelAsyncOperation, cancelPlayerSends,
    cancelAllSends, cancelQueued, cancelOp]
  repeat' with_reducible first
    | apply uses_cancelSend
    | apply Uses.onlyIf
    | apply uses_bind
    | intro _
    | split
  all_goals simp

theorem connect_keepsNotices (args : ConnectArgs) :
    (Proc.connect args).KeepsNotices := by
  unfold Proc.KeepsNotices Proc.body
  simp only [connect, connectTo, closeMainSocket]
  repeat' with_reducible first
    | apply uses_createAutoSockets
    | apply uses_selectMainSockets
    | apply uses_peerConnect
    | apply Uses.onlyIf
    | apply uses_bind
    | intro _
    | split
  all_goals simp

theorem setApplicationDesc_keepsNotices (desc : ApplicationDesc) :
    (Proc.setApplicationDesc desc).KeepsNotices := by
  unfold Proc.KeepsNotices Proc.body
  simp only [setApplicationDesc]
  repeat' with_reducible first
    | apply uses_sendToConnected
    | apply uses_setDescription
    | apply uses_bind
    | intro _
    | split
  all_goals simp

theorem host_keepsNotices (args : HostArgs) : (Proc.host args).KeepsNotices := by
  unfold Proc.KeepsNotices Proc.body
  simp only [host, hostOn, startHosting]
  repeat' with_reducible first
    | apply uses_setDescription
    | apply uses_createHostSockets
    | apply uses_selectMainSockets
    | apply uses_openDiscovery
    | apply uses_bind
    | intro _
    | split
  all_goals simp

theorem sendTo_keepsNotices (player : DPNID) (payload : List UInt8) (ctx : Context)
    (flags : DWORD) : (Proc.sendTo player payload ctx flags).KeepsNotices := by
  unfold Proc.KeepsNotices Proc.body
  simp only [sendTo, sendSync, sendAsync]
  repeat' with_reducible first
    | apply Uses.onlyIf
    | apply Uses.forEach
    | apply uses_bind
    | intro _
    | split
  all_goals simp

theorem setPeerInfo_keepsNotices (info : PlayerInfo) (ctx : Context)
    (flags : DWORD) : (Proc.setPeerInfo info ctx flags).KeepsNotices := by
  unfold Proc.KeepsNotices Proc.body
  simp only [setPeerInfo]
  repeat' with_reducible first
    | apply complete_notices
    | apply uses_peerAt
    | apply uses_ofCompletion
    | apply Uses.onlyIf
    | apply Uses.forEach
    | apply uses_bind
    | intro _
    | split
  all_goals simp

theorem groups_keepNotices {p : Proc} (h : p.subject = .groups) : p.KeepsNotices := by
  unfold Proc.KeepsNotices
  cases p <;> cases h
  all_goals simp only [Proc.body, createGroup, destroyGroup]
  repeat' with_reducible first
    | apply uses_createTheGroup
    | apply uses_beginOperation
    | apply uses_endOperation
    | apply uses_sendRequest
    | apply uses_notifyConnected
    | apply uses_assertThat
    | apply uses_bind
    | intro _
    | split
  all_goals simp

theorem membership_keepNotices {p : Proc} (h : p.subject = .membership) : p.KeepsNotices := by
  unfold Proc.KeepsNotices
  cases p <;> cases h
  all_goals simp only [Proc.body, addPlayerToGroup, removePlayerFromGroup]
  repeat' with_reducible first
    | apply uses_beginOperation
    | apply uses_endOperation
    | apply uses_sendRequest
    | apply uses_notifyConnected
    | apply uses_bind
    | intro _
    | split
  all_goals simp

theorem lifetime_keepNotices {p : Proc} (h : p.subject = .lifetime) : p.KeepsNotices := by
  have huninitialized : dpnErrUninitialized ≠ sOk := by decide
  have hclosing : dpnErrAlreadyClosing ≠ sOk := by decide
  unfold Proc.KeepsNotices
  cases p <;> cases h
  all_goals simp only [Proc.body, initialiseObject, enumHosts, closing, closePeers,
    close, destroyPeer, terminateSession, dispatchDestroyLocalPlayer, closeMainSockets,
    closeMainSocket]
  repeat' with_reducible first
    | apply uses_sendToConnected
    | apply Uses.onlyIf
    | apply Uses.forEach
    | apply uses_bind
    | intro _
    | split
  all_goals simp [huninitialized, hclosing]

end Action

theorem Proc.body_keepsNotices (p : Proc) : p.KeepsNotices := by
  cases p with
  | connect args => exact Action.connect_keepsNotices args
  | sendTo player payload ctx flags => exact Action.sendTo_keepsNotices player payload ctx flags
  | host args => exact Action.host_keepsNotices args
  | setApplicationDesc desc => exact Action.setApplicationDesc_keepsNotices desc
  | setPeerInfo info ctx flags => exact Action.setPeerInfo_keepsNotices info ctx flags
  | ioPeerRecvPackets peerId => exact Action.ioPeerRecvPackets_keepsNotices peerId
  | peerDestroyDrained peerId result reason =>
      exact Action.peerDestroyDrained_keepsNotices peerId result reason
  | sendCompleteThread | createGroupThread | destroyGroupThread | addPlayerThread
  | removePlayerThread | enumHostsThread => exact Action.threads_keepNotices rfl
  | invokeCallback | invokeAck | dispatchDestroyPlayer | groupDestroyAll =>
      exact Action.callbacks_keepNotices rfl
  | peerDestroy | peerDestroySends | peerDestroyAcks | peerDestroyAll | peerShutdown
  | peerShutdownAll | terminateDestroyPeers => exact Action.teardown_keepNotices rfl
  | connectFail | connectUnwind | connectCheck => exact Action.connectEnd_keepNotices rfl
  | ioUdpSend | ioPeerConnected | ioPeerSend => exact Action.sending_keepNotices rfl
  | ioPeerRecv | ioPeerRecvClaimed | ioPeerRecvNext => exact Action.receiving_keepNotices rfl
  | handleUdpSocketEvent | handleOtherSocketEvent | handleWork | ioPeerTriggered
  | peerAccept => exact Action.workerEvents_keepNotices rfl
  | handleHostEnumRequest | handleHostConnectRequest | handleHostConnectOk
  | handleHostConnectFail => exact Action.joining_keepNotices rfl
  | handleConnectPeer | handleConnectPeerOk | handleConnectPeerFail =>
      exact Action.peerJoining_keepNotices rfl
  | handleMessage | handlePlayerinfo | handleAck | handleAppdesc | handleDestroyPeer
  | handleTerminateSession => exact Action.messages_keepNotices rfl
  | handleGroupAllocate | handleGroupCreate | handleGroupDestroy | handleGroupJoin
  | handleGroupJoined | handleGroupLeave | handleGroupLeft =>
      exact Action.groupMessages_keepNotices rfl
  | cancelAsyncOperation | cancelPlayerSends | cancelAllSends =>
      exact Action.cancelling_keepNotices rfl
  | createGroup | destroyGroup => exact Action.groups_keepNotices rfl
  | addPlayerToGroup | removePlayerFromGroup => exact Action.membership_keepNotices rfl
  | initialiseObject | enumHosts | closing | close | destroyPeer | terminateSession =>
      exact Action.lifetime_keepNotices rfl

end DirectPlayLite
