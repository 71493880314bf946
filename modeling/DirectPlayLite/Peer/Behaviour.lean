import DirectPlayLite.Peer.Footprints

/-!
# Every procedure keeps to its footprint

The programs are taken apart along their structure; what is left are single
commands, calls and faults, which are looked up in the table.
-/

namespace DirectPlayLite

open Monitor Program

inductive Subject where
  | threads
  | callbacks
  | teardown
  | connectEnd
  | sending
  | receiving
  | workerEvents
  | joining
  | peerJoining
  | messages
  | groupMessages
  | cancelling
  | groups
  | membership
  | lifetime
  | other
deriving DecidableEq

@[simp] def Proc.subject : Proc -> Subject
  | .sendCompleteThread .. | .createGroupThread .. | .destroyGroupThread ..
  | .addPlayerThread .. | .removePlayerThread .. | .enumHostsThread .. => .threads
  | .invokeCallback .. | .invokeAck .. | .dispatchDestroyPlayer ..
  | .groupDestroyAll .. => .callbacks
  | .peerDestroy .. | .peerDestroySends .. | .peerDestroyAcks .. | .peerDestroyAll ..
  | .peerShutdown .. | .peerShutdownAll .. | .terminateDestroyPeers .. => .teardown
  | .connectFail .. | .connectUnwind .. | .connectCheck .. => .connectEnd
  | .ioUdpSend .. | .ioPeerConnected .. | .ioPeerSend .. => .sending
  | .ioPeerRecv .. | .ioPeerRecvClaimed .. | .ioPeerRecvNext .. => .receiving
  | .handleUdpSocketEvent .. | .handleOtherSocketEvent .. | .handleWork ..
  | .ioPeerTriggered .. | .peerAccept .. => .workerEvents
  | .handleHostEnumRequest .. | .handleHostConnectRequest .. | .handleHostConnectOk ..
  | .handleHostConnectFail .. => .joining
  | .handleConnectPeer .. | .handleConnectPeerOk .. | .handleConnectPeerFail .. => .peerJoining
  | .handleMessage .. | .handlePlayerinfo .. | .handleAck .. | .handleAppdesc ..
  | .handleDestroyPeer .. | .handleTerminateSession .. => .messages
  | .handleGroupAllocate .. | .handleGroupCreate .. | .handleGroupDestroy ..
  | .handleGroupJoin .. | .handleGroupJoined .. | .handleGroupLeave ..
  | .handleGroupLeft .. => .groupMessages
  | .cancelAsyncOperation .. | .cancelPlayerSends .. | .cancelAllSends .. => .cancelling
  | .createGroup .. | .destroyGroup .. => .groups
  | .addPlayerToGroup .. | .removePlayerFromGroup .. => .membership
  | .initialiseObject .. | .enumHosts .. | .closing .. | .close .. | .destroyPeer ..
  | .terminateSession .. => .lifetime
  | _ => .other

def Proc.KeepsFootprint (p : Proc) : Prop := p.body.Uses p.footprint

namespace Action

/-!
## Programs several procedures share
-/

section Shared

variable {fp : Footprint Command Proc Fault}

theorem uses_complete {addr : Nat} {result : HRESULT}
    (hcommand : forall change, fp.commands (.completion addr change))
    (hraise : forall notification : Notification,
      notification.kind = .raised ->
        fp.commands (.log (.raised notification)))
    (hreleases : fp.releases) (hfault : fp.faults .useAfterFree) :
    (complete addr result).Uses fp := by
  unfold complete
  repeat' with_reducible first
    | apply Uses.onlyIf
    | apply uses_bind
    | intro _
    | split
  all_goals simp only [uses_get, uses_perform, uses_raise, uses_abort,
    uses_ret, pure_eq, hcommand, hfault, hreleases, and_true]
  all_goals exact hraise _ rfl

theorem uses_createTheGroup {groupId : DPNID} {request : GroupRequest}
    (hgroup : fp.commands
      (.emplaceGroup groupId request.name request.data request.ctx))
    (hcommand : fp.commands (.completion request.completion .increment))
    (hsend : forall peerId, fp.commands (.peer peerId (.send .high
      (groupCreatePacket groupId request.name request.data).rawPacket 0
      (.notified request.completion))))
    (hspawn : fp.spawns
      (.createGroupThread groupId request.ctx request.completion))
    (hfault : fp.faults .useAfterFree) :
    (createTheGroup groupId request).Uses fp := by
  apply uses_bind (by simpa using hgroup)
  intro _
  apply uses_bind (uses_notifyConnected hcommand hsend hfault)
  intro _
  simpa using hspawn

theorem uses_addPeer {peerId : UInt32} {state : PeerState} {sock : Int}
    {address : SockAddr} {playerId : DPNID}
    (hinsert : fp.commands
      (.insertPeer peerId state sock address.ip address.port playerId))
    (hfault : fp.faults .nullDereference) :
    (addPeer peerId state sock address playerId).Uses fp := by
  apply uses_bind (by simpa using hinsert)
  intro _
  apply uses_bind (by simp)
  intro s
  exact Uses.onlyIf fun _ => hfault

theorem uses_peerConnect {state : PeerState} {address : SockAddr}
    {playerId : DPNID} (halloc : fp.commands .allocPeerId)
    (hinsert : forall peerId sock, fp.commands
      (.insertPeer peerId state sock address.ip address.port playerId))
    (hfault : fp.faults .nullDereference) :
    (peerConnect state address playerId).Uses fp := by
  unfold peerConnect
  repeat' with_reducible first
    | apply uses_addPeer
    | apply uses_bind
    | intro _
    | split
  all_goals simp [halloc, hinsert, hfault]

theorem uses_joinGroups {peerId : UInt32} {next : Action Unit}
    {groups : List DPNID}
    (hinsert : forall groupId player,
      fp.commands (.group groupId (.insertPlayer player)))
    (hraise : forall groupId groupCtx player ctx, fp.commands
      (.log (.raised (.addPlayerToGroup groupId groupCtx player ctx))))
    (hreleases : fp.releases) (hfault : fp.faults .useAfterFree)
    (hnext : next.Uses fp) :
    (joinGroups peerId next groups).Uses fp := by
  induction groups with
  | nil => exact hnext
  | cons groupId rest ih =>
      unfold joinGroups
      repeat' with_reducible first
        | apply uses_peerAt
        | apply uses_renewPeer
        | apply uses_bind
        | intro _
        | split
      all_goals simp [hinsert, hraise, hreleases, hfault, ih]

theorem uses_connectToPeers {entries : List PeerEntry}
    (halloc : fp.commands .allocPeerId)
    (hinsert : forall peerId sock ip port playerId, fp.commands
      (.insertPeer peerId .connectingPeer sock ip port playerId))
    (hfault : fp.faults .nullDereference)
    (hcheck : fp.calls .connectCheck)
    (hfail : fp.calls (.connectFail dpnErrPlayerNotReachable [])) :
    (connectToPeers entries).Uses fp := by
  induction entries with
  | nil => simpa [connectToPeers] using hcheck
  | cons entry rest ih =>
      unfold connectToPeers
      apply uses_bind
      · apply uses_peerConnect halloc (fun _ _ => hinsert _ _ _ _ _) hfault
      · intro started
        split
        · exact ih
        · simpa using hfail

theorem uses_cancelSend {handle : DPNHANDLE}
    {found : Option (SendOp SendCallback)} {peerIds : List UInt32}
    (hreturns : forall result,
      fp.commands (.log (.returned .cancelAsyncOperation result)))
    (hresolved : forall op result all,
      fp.commands (.log (.resolved op result all)))
    (hcall : forall callback,
      fp.calls (.invokeCallback callback dpnErrUserCancel))
    (hremove : forall peerId,
      fp.commands (.peer peerId (.removeQueued (.handle handle))))
    (hfault : fp.faults .nullDereference) :
    (cancelSend handle found peerIds).Uses fp := by
  have hcancel : forall op : SendOp SendCallback, (cancelOp op).Uses fp := by
    intro op
    apply uses_bind
    · simpa using hresolved _ _ _
    · intro _
      simpa using hcall _
  induction peerIds generalizing found with
  | nil =>
      cases found with
      | none => simpa [cancelSend] using hreturns _
      | some op =>
          apply uses_bind (hcancel op)
          intro _
          simpa using hreturns _
  | cons peerId rest ih =>
      cases found with
      | some op =>
          apply uses_bind (hcancel op)
          intro _
          simpa using hreturns _
      | none =>
          apply uses_bind (uses_peerAt hfault)
          intro peer
          apply uses_bind (by simpa using hremove peerId)
          intro _
          split
          · simpa using hreturns _
          · exact ih

theorem uses_createSockets {ip : UInt32} {port : UInt16} {failed : Action Unit}
    (hsocket : forall which sock, fp.commands (.setSocket which sock))
    (haddress : fp.commands (.setLocalAddress ip port))
    (hfailed : failed.Uses fp) : (createSockets ip port failed).Uses fp := by
  unfold createSockets closeMainSocket
  repeat' with_reducible first
    | apply uses_bind
    | intro _
    | split
  all_goals simp [hsocket, haddress, hfailed]

theorem uses_createAutoSockets {ip : UInt32} {portAt : Nat -> UInt16}
    {count p : Nat}
    (hsocket : forall which sock, fp.commands (.setSocket which sock))
    (haddress : forall port, fp.commands (.setLocalAddress ip port)) :
    (createAutoSockets ip portAt count p).Uses fp := by
  induction count generalizing p with
  | zero => trivial
  | succ count ih => exact uses_createSockets hsocket (haddress _) ih

theorem uses_createHostSockets {port : UInt16}
    (hsocket : forall which sock, fp.commands (.setSocket which sock))
    (haddress : forall port, fp.commands (.setLocalAddress 0 port)) :
    (createHostSockets port).Uses fp := by
  unfold createHostSockets
  split
  · exact uses_createAutoSockets hsocket haddress
  · exact uses_createSockets hsocket (haddress _) (by simp)

theorem uses_selectMainSockets : selectMainSockets.Uses fp := by
  unfold selectMainSockets
  repeat' with_reducible first
    | apply uses_bind
    | intro _
    | split
  all_goals simp

theorem uses_openDiscovery {desc : ApplicationDesc}
    (hsocket : forall which sock, fp.commands (.setSocket which sock)) :
    (openDiscovery desc).Uses fp := by
  unfold openDiscovery
  repeat' with_reducible first
    | apply uses_bind
    | intro _
    | split
  all_goals simp [hsocket]

theorem uses_setDescription {name : WString} {desc : ApplicationDesc}
    (hsession : forall change, fp.commands (.session change))
    (hfault : fp.faults .nullDereference) :
    (setDescription name desc).Uses fp := by
  unfold setDescription
  repeat' with_reducible first
    | apply uses_bind
    | intro _
    | split
  all_goals simp [hsession, hfault]

theorem uses_beginOperation {operation : Operation} {type : HandleType}
    {ctx : Context} {flags : DWORD} (halloc : fp.commands (.allocHandle type))
    (hnew : forall made, fp.commands (.newCompletion made)) :
    (beginOperation operation type ctx flags).Uses fp := by
  unfold beginOperation
  repeat' with_reducible first
    | apply Uses.onlyIf
    | apply uses_bind
    | intro _
  all_goals simp [halloc, hnew]

theorem uses_endOperation {method : Method} {completion : Nat} {flags : DWORD}
    (hdelete : fp.commands (.completion completion .delete))
    (hreturns : forall result, fp.commands (.log (.returned method result)))
    (hreleases : fp.releases) :
    (endOperation method completion flags).Uses fp := by
  unfold endOperation
  repeat' with_reducible first
    | apply uses_bind
    | intro _
    | split
  all_goals simp [hdelete, hreturns, hreleases]

theorem uses_sendRequest {peerId : UInt32} {packet : DWORD -> PacketSerialiser}
    {callback : DWORD -> SendCallback}
    (halloc : fp.commands (.peer peerId .allocAckId))
    (hsend : forall ackId, fp.commands
      (.peer peerId (.send .high (packet ackId).rawPacket 0 (callback ackId))))
    (hfault : fp.faults .nullDereference) :
    (sendRequest peerId packet callback).Uses fp := by
  unfold sendRequest
  repeat' with_reducible first
    | apply uses_peerAt
    | apply uses_bind
    | intro _
  all_goals simp [halloc, hsend, hfault]

end Shared

/-!
## The procedures
-/

theorem threads_keep {p : Proc} (h : p.subject = .threads) : p.KeepsFootprint := by
  unfold Proc.KeepsFootprint
  cases p <;> cases h
  all_goals simp only [Proc.body, sendCompleteThread, createGroupThread,
    destroyGroupThread, addPlayerThread, removePlayerThread, enumHostsThread]
  repeat' with_reducible first
    | apply uses_complete
    | apply uses_bind
    | intro _
    | split
  all_goals simp_all

theorem callbacks_keep {p : Proc} (h : p.subject = .callbacks) : p.KeepsFootprint := by
  unfold Proc.KeepsFootprint
  cases p <;> cases h
  all_goals simp only [Proc.body, invokeCallback, invokeAck, dispatchDestroyPlayer,
    groupDestroyAll, registerAck]
  repeat' with_reducible first
    | apply uses_complete
    | apply uses_createTheGroup
    | apply uses_peerAt
    | apply uses_assertedPeer
    | apply uses_assertThat
    | apply Uses.onlyIf
    | apply uses_bind
    | intro _
    | split
  all_goals simp_all [groupCreatePacket]

theorem teardown_keep {p : Proc} (h : p.subject = .teardown) : p.KeepsFootprint := by
  unfold Proc.KeepsFootprint
  cases p <;> cases h
  all_goals simp only [Proc.body, peerDestroy, peerDestroySends, peerDestroyAcks,
    peerDestroyAll, peerShutdown, peerShutdownAll, terminateDestroyPeers]
  repeat' with_reducible first
    | apply uses_peerAt
    | apply uses_assertedPeer
    | apply uses_renewPeer
    | apply uses_assertThat
    | apply uses_bind
    | intro _
    | split
  all_goals simp

theorem peerDestroyDrained_keeps (peerId : UInt32) (result : HRESULT)
    (reason : DWORD) :
    (Proc.peerDestroyDrained peerId result reason).KeepsFootprint := by
  unfold Proc.KeepsFootprint Proc.body
  simp only [peerDestroyDrained, removePeer, hostLost,
    dispatchDestroyLocalPlayer]
  repeat' with_reducible first
    | apply uses_peerAt
    | apply uses_renewPeer
    | apply Uses.onlyIf
    | apply uses_bind
    | intro _
    | split
  all_goals simp

theorem connectEnd_keep {p : Proc} (h : p.subject = .connectEnd) : p.KeepsFootprint := by
  unfold Proc.KeepsFootprint
  cases p <;> cases h
  all_goals simp only [Proc.body, connectFail, connectUnwind, connectCheck,
    dispatchDestroyLocalPlayer, closeMainSockets, closeMainSocket]
  repeat' with_reducible first
    | apply uses_assertThat
    | apply Uses.onlyIf
    | apply uses_bind
    | intro _
    | split
  all_goals simp

theorem sending_keep {p : Proc} (h : p.subject = .sending) : p.KeepsFootprint := by
  unfold Proc.KeepsFootprint
  cases p <;> cases h
  all_goals simp only [Proc.body, ioUdpSend, ioPeerConnected, ioPeerSend]
  repeat' with_reducible first
    | apply uses_peerAt
    | apply uses_assertedPeer
    | apply uses_renewPeer
    | apply Uses.onlyIf
    | apply uses_bind
    | intro _
    | split
  all_goals simp [connectHostPacket, connectPeerPacket]

theorem receiving_keep {p : Proc} (h : p.subject = .receiving) : p.KeepsFootprint := by
  unfold Proc.KeepsFootprint
  cases p <;> cases h
  all_goals simp only [Proc.body, ioPeerRecv, ioPeerRecvClaimed, ioPeerRecvNext,
    recvMore, recvResult]
  repeat' with_reducible first
    | apply uses_peerAt
    | apply uses_renewPeer
    | apply uses_bind
    | intro _
    | split
  all_goals simp

theorem packetHandler_isPacketHandler {peerId : UInt32}
    {pd : PacketDeserialiser} {handler : Proc}
    (h : packetHandler peerId pd = some handler) :
    handler.isPacketHandler = true := by
  unfold packetHandler at h
  split at h <;> cases h <;> rfl

theorem isPacketHandler_called {handler : Proc}
    (h : handler.isPacketHandler = true) (peerId : UInt32) :
    (Proc.ioPeerRecvPackets peerId).footprint.calls handler := by
  cases handler <;> first
    | exact ⟨rfl, fun _ => trivial, False.elim⟩
    | cases h

theorem ioPeerRecvPackets_keeps (peerId : UInt32) :
    (Proc.ioPeerRecvPackets peerId).KeepsFootprint := by
  unfold Proc.KeepsFootprint Proc.body
  simp only [ioPeerRecvPackets]
  repeat' with_reducible first
    | apply uses_peerAt
    | apply uses_renewPeer
    | apply uses_bind
    | intro _
    | split
  case h_1.hprog handler hfound =>
    have hkind := packetHandler_isPacketHandler hfound
    exact uses_invoke.mpr (isPacketHandler_called hkind peerId)
  all_goals simp

theorem workerEvents_keep {p : Proc} (h : p.subject = .workerEvents) : p.KeepsFootprint := by
  unfold Proc.KeepsFootprint
  cases p <;> cases h
  all_goals simp only [Proc.body, workerCallback, handleUdpSocketEvent,
    handleOtherSocketEvent, handleWork, ioPeerTriggered, receiveDatagram, peerAccept]
  repeat' with_reducible first
    | apply uses_complete
    | apply uses_addPeer
    | apply uses_renewPeer
    | apply uses_assertThat
    | apply Uses.onlyIf
    | apply uses_bind
    | intro _
    | split
  all_goals simp_all

theorem joining_keep {p : Proc} (h : p.subject = .joining) : p.KeepsFootprint := by
  unfold Proc.KeepsFootprint
  cases p <;> cases h
  all_goals simp only [Proc.body, handleHostEnumRequest, handleHostConnectRequest,
    handleHostConnectOk, handleHostConnectFail, returnBuffer, sendConnectHostFail,
    sendGroups, admitPlayer]
  repeat' with_reducible first
    | apply uses_peerAt
    | apply uses_assertedPeer
    | apply uses_renewPeer
    | apply uses_assertThat
    | apply uses_fetch
    | apply uses_joinGroups
    | apply uses_connectToPeers
    | apply Uses.onlyIf
    | apply Uses.forEach
    | apply uses_bind
    | intro _
    | split
  all_goals
    simp [groupCreatePacket, groupDestroyPacket, connectHostOkPacket]

theorem peerJoining_keep {p : Proc} (h : p.subject = .peerJoining) : p.KeepsFootprint := by
  unfold Proc.KeepsFootprint
  cases p <;> cases h
  all_goals simp only [Proc.body, handleConnectPeer, handleConnectPeerOk,
    handleConnectPeerFail, sendConnectPeerFail, sendGroups]
  repeat' with_reducible first
    | apply uses_assertedPeer
    | apply uses_renewPeer
    | apply uses_assertThat
    | apply uses_fetch
    | apply uses_joinGroups
    | apply Uses.forEach
    | apply uses_bind
    | intro _
    | split
  all_goals
    simp [groupCreatePacket, groupDestroyPacket, connectPeerOkPacket]

theorem messages_keep {p : Proc} (h : p.subject = .messages) : p.KeepsFootprint := by
  unfold Proc.KeepsFootprint
  cases p <;> cases h
  all_goals simp only [Proc.body, handleMessage, handlePlayerinfo, handleAck,
    handleAppdesc, handleDestroyPeer, handleTerminateSession, sessionTerminated,
    dispatchDestroyLocalPlayer]
  repeat' with_reducible first
    | apply uses_assertedPeer
    | apply uses_caught
    | apply uses_sendToConnected
    | apply uses_bind
    | intro _
    | split
  all_goals simp [ackPacket, destroyPeerPacket]

theorem groupMessages_keep {p : Proc} (h : p.subject = .groupMessages) : p.KeepsFootprint := by
  unfold Proc.KeepsFootprint
  cases p <;> cases h
  all_goals simp only [Proc.body, handleGroupAllocate, handleGroupCreate,
    handleGroupDestroy, handleGroupJoin, handleGroupJoined, handleGroupLeave,
    handleGroupLeft, sendAck]
  repeat' with_reducible first
    | apply uses_peerAt
    | apply uses_assertedPeer
    | apply uses_caught
    | apply uses_sendToConnected
    | apply uses_bind
    | intro _
    | split
  all_goals simp [ackPacket, groupJoinedPacket, groupLeftPacket]

theorem cancelling_keep {p : Proc} (h : p.subject = .cancelling) : p.KeepsFootprint := by
  unfold Proc.KeepsFootprint
  cases p <;> cases h
  all_goals simp only [Proc.body, cancelAsyncOperation, cancelPlayerSends,
    cancelAllSends, cancelQueued, cancelOp]
  repeat' with_reducible first
    | apply uses_cancelSend
    | apply Uses.onlyIf
    | apply uses_bind
    | intro _
    | split
  all_goals simp

theorem connect_keeps (args : ConnectArgs) :
    (Proc.connect args).KeepsFootprint := by
  unfold Proc.KeepsFootprint Proc.body
  simp only [connect, connectTo, closeMainSocket]
  repeat' with_reducible first
    | apply uses_createAutoSockets
    | apply uses_selectMainSockets
    | apply uses_peerConnect
    | apply Uses.onlyIf
    | apply uses_bind
    | intro _
    | split
  all_goals simp

theorem setApplicationDesc_keeps (desc : ApplicationDesc) :
    (Proc.setApplicationDesc desc).KeepsFootprint := by
  unfold Proc.KeepsFootprint Proc.body
  simp only [setApplicationDesc]
  repeat' with_reducible first
    | apply uses_sendToConnected
    | apply uses_setDescription
    | apply uses_bind
    | intro _
    | split
  all_goals simp [appdescPacket]

theorem host_keeps (args : HostArgs) : (Proc.host args).KeepsFootprint := by
  unfold Proc.KeepsFootprint Proc.body
  simp only [host, hostOn, startHosting]
  repeat' with_reducible first
    | apply uses_setDescription
    | apply uses_createHostSockets
    | apply uses_selectMainSockets
    | apply uses_openDiscovery
    | apply uses_bind
    | intro _
    | split
  all_goals simp

theorem sendTo_keeps (player : DPNID) (payload : List UInt8) (ctx : Context)
    (flags : DWORD) : (Proc.sendTo player payload ctx flags).KeepsFootprint := by
  unfold Proc.KeepsFootprint Proc.body
  simp only [sendTo, sendSync, sendAsync]
  repeat' with_reducible first
    | apply Uses.onlyIf
    | apply Uses.forEach
    | apply uses_bind
    | intro _
    | split
  all_goals simp [messagePacket]

theorem setPeerInfo_keeps (info : PlayerInfo) (ctx : Context)
    (flags : DWORD) : (Proc.setPeerInfo info ctx flags).KeepsFootprint := by
  unfold Proc.KeepsFootprint Proc.body
  simp only [setPeerInfo]
  repeat' with_reducible first
    | apply uses_complete
    | apply uses_peerAt
    | apply uses_ofCompletion
    | apply Uses.onlyIf
    | apply Uses.forEach
    | apply uses_bind
    | intro _
    | split
  all_goals simp_all

theorem groups_keep {p : Proc} (h : p.subject = .groups) : p.KeepsFootprint := by
  unfold Proc.KeepsFootprint
  cases p <;> cases h
  all_goals simp only [Proc.body, createGroup, destroyGroup]
  repeat' with_reducible first
    | apply uses_createTheGroup
    | apply uses_beginOperation
    | apply uses_endOperation
    | apply uses_sendRequest
    | apply uses_notifyConnected
    | apply uses_assertThat
    | apply uses_bind
    | intro _
    | split
  all_goals simp [groupCreatePacket, groupDestroyPacket]

theorem membership_keep {p : Proc} (h : p.subject = .membership) : p.KeepsFootprint := by
  unfold Proc.KeepsFootprint
  cases p <;> cases h
  all_goals simp only [Proc.body, addPlayerToGroup, removePlayerFromGroup]
  repeat' with_reducible first
    | apply uses_beginOperation
    | apply uses_endOperation
    | apply uses_sendRequest
    | apply uses_notifyConnected
    | apply uses_bind
    | intro _
    | split
  all_goals simp [groupJoinedPacket, groupLeftPacket]

theorem lifetime_keep {p : Proc} (h : p.subject = .lifetime) : p.KeepsFootprint := by
  unfold Proc.KeepsFootprint
  cases p <;> cases h
  all_goals simp only [Proc.body, initialiseObject, enumHosts, closing, closePeers,
    close, destroyPeer, terminateSession, dispatchDestroyLocalPlayer, closeMainSockets,
    closeMainSocket]
  repeat' with_reducible first
    | apply uses_sendToConnected
    | apply Uses.onlyIf
    | apply Uses.forEach
    | apply uses_bind
    | intro _
    | split
  all_goals simp [destroyPeerPacket]

end Action

theorem Proc.body_uses (p : Proc) : p.body.Uses p.footprint := by
  cases p with
  | connect args => exact Action.connect_keeps args
  | sendTo player payload ctx flags => exact Action.sendTo_keeps player payload ctx flags
  | host args => exact Action.host_keeps args
  | setApplicationDesc desc => exact Action.setApplicationDesc_keeps desc
  | setPeerInfo info ctx flags => exact Action.setPeerInfo_keeps info ctx flags
  | ioPeerRecvPackets peerId => exact Action.ioPeerRecvPackets_keeps peerId
  | peerDestroyDrained peerId result reason =>
      exact Action.peerDestroyDrained_keeps peerId result reason
  | sendCompleteThread | createGroupThread | destroyGroupThread | addPlayerThread
  | removePlayerThread | enumHostsThread => exact Action.threads_keep rfl
  | invokeCallback | invokeAck | dispatchDestroyPlayer | groupDestroyAll =>
      exact Action.callbacks_keep rfl
  | peerDestroy | peerDestroySends | peerDestroyAcks | peerDestroyAll | peerShutdown
  | peerShutdownAll | terminateDestroyPeers => exact Action.teardown_keep rfl
  | connectFail | connectUnwind | connectCheck => exact Action.connectEnd_keep rfl
  | ioUdpSend | ioPeerConnected | ioPeerSend => exact Action.sending_keep rfl
  | ioPeerRecv | ioPeerRecvClaimed | ioPeerRecvNext => exact Action.receiving_keep rfl
  | handleUdpSocketEvent | handleOtherSocketEvent | handleWork | ioPeerTriggered
  | peerAccept => exact Action.workerEvents_keep rfl
  | handleHostEnumRequest | handleHostConnectRequest | handleHostConnectOk
  | handleHostConnectFail => exact Action.joining_keep rfl
  | handleConnectPeer | handleConnectPeerOk | handleConnectPeerFail =>
      exact Action.peerJoining_keep rfl
  | handleMessage | handlePlayerinfo | handleAck | handleAppdesc | handleDestroyPeer
  | handleTerminateSession => exact Action.messages_keep rfl
  | handleGroupAllocate | handleGroupCreate | handleGroupDestroy | handleGroupJoin
  | handleGroupJoined | handleGroupLeave | handleGroupLeft =>
      exact Action.groupMessages_keep rfl
  | cancelAsyncOperation | cancelPlayerSends | cancelAllSends =>
      exact Action.cancelling_keep rfl
  | createGroup | destroyGroup => exact Action.groups_keep rfl
  | addPlayerToGroup | removePlayerFromGroup => exact Action.membership_keep rfl
  | initialiseObject | enumHosts | closing | close | destroyPeer | terminateSession =>
      exact Action.lifetime_keep rfl

end DirectPlayLite
