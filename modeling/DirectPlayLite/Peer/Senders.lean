import DirectPlayLite.Peer.Wire

/-!
# Who sends what

Every packet that is put into a send queue is one of the messages, and the table
below says which procedure sends which of them.
-/

namespace DirectPlayLite

open Monitor Program

/-- The messages of a procedure, with what it was called with. -/
inductive Sends : Proc -> Message -> Prop where
  | sendTo {player : DPNID} {payload : List UInt8} {ctx : Context}
      {flags : DWORD} (sender : DirectPlay8Peer) :
      Sends (.sendTo player payload ctx flags) (.message sender payload flags)
  | setApplicationDesc {desc : ApplicationDesc} (sender : DirectPlay8Peer) :
      Sends (.setApplicationDesc desc) (.appdesc sender)
  | setPeerInfo {info : PlayerInfo} {ctx : Context} {flags : DWORD}
      (sender : DirectPlay8Peer) (ackId : DWORD) :
      Sends (.setPeerInfo info ctx flags)
        (.playerinfo sender.localPlayerId sender.localPlayerName
          sender.localPlayerData ackId)
  | createGroup {info : GroupInfo} {groupCtx ctx : Context} {flags : DWORD}
      (groupId : DPNID) :
      Sends (.createGroup (some info) groupCtx ctx flags)
        (.groupCreate groupId
          (if hasFlag info.infoFlags dpnInfoName then info.name else [])
          (if hasFlag info.infoFlags dpnInfoData then info.data else []))
  | createGroupAllocate {info : GroupInfo} {groupCtx ctx : Context}
      {flags : DWORD} (ackId : DWORD) :
      Sends (.createGroup (some info) groupCtx ctx flags) (.groupAllocate ackId)
  | invokeAck {request : GroupRequest} {result : HRESULT} {data : List UInt8} :
      Sends (.invokeAck (.groupAllocated request) result data)
        (.groupCreate (LittleEndian.word32 data) request.name request.data)
  | destroyGroup {groupId : DPNID} {ctx : Context} {flags : DWORD} :
      Sends (.destroyGroup groupId ctx flags) (.groupDestroy groupId)
  | addPlayerToGroup {groupId client : DPNID} {ctx : Context} {flags : DWORD}
      (group : Group) :
      Sends (.addPlayerToGroup groupId client ctx flags)
        (.groupJoined groupId group)
  | addPlayerToGroupJoin {groupId client : DPNID} {ctx : Context}
      {flags : DWORD} (group : Group) (ackId : DWORD) :
      Sends (.addPlayerToGroup groupId client ctx flags)
        (.groupJoin groupId ackId group.name group.data)
  | removePlayerFromGroup {groupId client : DPNID} {ctx : Context}
      {flags : DWORD} :
      Sends (.removePlayerFromGroup groupId client ctx flags)
        (.groupLeft groupId)
  | removePlayerFromGroupLeave {groupId client : DPNID} {ctx : Context}
      {flags : DWORD} (ackId : DWORD) :
      Sends (.removePlayerFromGroup groupId client ctx flags)
        (.groupLeave groupId ackId)
  | destroyPeerFull {client : DPNID} {data : List UInt8} (playerId : DPNID) :
      Sends (.destroyPeer client data) (.destroyPeer playerId (some data))
  | destroyPeerBase {client : DPNID} {data : List UInt8} (playerId : DPNID) :
      Sends (.destroyPeer client data) (.destroyPeer playerId none)
  | terminateSession {data : List UInt8} :
      Sends (.terminateSession data) (.terminateSession data)
  | ioPeerConnectedHost {peerId : UInt32} (sender : DirectPlay8Peer) :
      Sends (.ioPeerConnected peerId) (.connectHost sender)
  | ioPeerConnectedPeer {peerId : UInt32} (sender : DirectPlay8Peer) :
      Sends (.ioPeerConnected peerId) (.connectPeer sender)
  | handleHostEnumRequest {pd : PacketDeserialiser} {address : SockAddr}
      (sender : DirectPlay8Peer) (responseData : List UInt8) (tick : DWORD) :
      Sends (.handleHostEnumRequest pd address)
        (.hostEnumResponse sender responseData tick)
  | handleHostConnectRequestFail {peerId : UInt32} {pd : PacketDeserialiser}
      (error : HRESULT) (data : List UInt8) :
      Sends (.handleHostConnectRequest peerId pd) (.connectHostFail error data)
  | handleHostConnectRequestDestroy {peerId : UInt32} {pd : PacketDeserialiser}
      (groupId : DPNID) :
      Sends (.handleHostConnectRequest peerId pd) (.groupDestroy groupId)
  | handleHostConnectRequestCreate {peerId : UInt32} {pd : PacketDeserialiser}
      (groupId : DPNID) (group : Group) :
      Sends (.handleHostConnectRequest peerId pd)
        (.groupCreate groupId group.name group.data)
  | handleConnectPeerFail {peerId : UInt32} {pd : PacketDeserialiser}
      (error : HRESULT) :
      Sends (.handleConnectPeer peerId pd) (.connectPeerFail error)
  | handleConnectPeerDestroy {peerId : UInt32} {pd : PacketDeserialiser}
      (groupId : DPNID) :
      Sends (.handleConnectPeer peerId pd) (.groupDestroy groupId)
  | handleConnectPeerCreate {peerId : UInt32} {pd : PacketDeserialiser}
      (groupId : DPNID) (group : Group) :
      Sends (.handleConnectPeer peerId pd)
        (.groupCreate groupId group.name group.data)
  | handleConnectPeerOk {peerId : UInt32} {pd : PacketDeserialiser}
      (sender : DirectPlay8Peer) :
      Sends (.handleConnectPeer peerId pd) (.connectPeerOk sender)
  | handlePlayerinfo {peerId : UInt32} {pd : PacketDeserialiser}
      (ackId : DWORD) :
      Sends (.handlePlayerinfo peerId pd) (.ack ackId sOk [])
  | handleDestroyPeer {peerId : UInt32} {pd : PacketDeserialiser}
      (sender : DirectPlay8Peer) :
      Sends (.handleDestroyPeer peerId pd)
        (.destroyPeer sender.localPlayerId none)
  | handleGroupAllocate {peerId : UInt32} {pd : PacketDeserialiser}
      (ackId : DWORD) (sender : DirectPlay8Peer) :
      Sends (.handleGroupAllocate peerId pd)
        (.ack ackId sOk (LittleEndian.bytes32 sender.nextPlayerId))
  | handleGroupJoin {peerId : UInt32} {pd : PacketDeserialiser}
      (groupId : DPNID) (group : Group) :
      Sends (.handleGroupJoin peerId pd) (.groupJoined groupId group)
  | handleGroupJoinAck {peerId : UInt32} {pd : PacketDeserialiser}
      (ackId : DWORD) (result : HRESULT) :
      Sends (.handleGroupJoin peerId pd) (.ack ackId result [])
  | handleGroupLeave {peerId : UInt32} {pd : PacketDeserialiser}
      (groupId : DPNID) :
      Sends (.handleGroupLeave peerId pd) (.groupLeft groupId)
  | handleGroupLeaveAck {peerId : UInt32} {pd : PacketDeserialiser}
      (ackId : DWORD) (result : HRESULT) :
      Sends (.handleGroupLeave peerId pd) (.ack ackId result [])

/-- The answer of a host to a client, for a new player of its session. -/
def SendsConnectHostOk (p : Proc) (packet : List UInt8) : Prop :=
  exists (peerId : UInt32) (pd : PacketDeserialiser) (sender : DirectPlay8Peer)
    (playerId : DPNID) (replyData : List UInt8),
    p = .handleHostConnectRequest peerId pd ∧
      packet = (Action.connectHostOkPacket sender peerId playerId
        replyData).rawPacket

def Proc.Puts (p : Proc) (packet : List UInt8) : Prop :=
  (exists m, Sends p m ∧ packet = m.packet.rawPacket) ∨
    SendsConnectHostOk p packet

@[simp] def PeerCommand.packet : PeerCommand -> Option (List UInt8)
  | send _ packet _ _ => some packet
  | setState .. | setPlayerId .. | setPlayerCtx .. | setPlayerInfo ..
  | setSendOpen .. | setRecvBusy .. | appendRecv .. | shiftRecv ..
  | getPending | popPending | incSentData .. | removeQueued .. | allocAckId
  | registerAck .. | eraseAck .. => none

@[simp] def Command.packet : Command -> Option (List UInt8)
  | peer _ change => change.packet
  | udpSend packet _ => some packet
  | setState .. | log .. | insertPeer .. | erasePeer .. | allocPeerId
  | mapPlayer .. | unmapPlayer .. | allocPlayerId | setNextPlayerId ..
  | setHostPlayerId .. | «local» .. | group .. | emplaceGroup .. | eraseGroup ..
  | insertDestroyedGroup .. | clearDestroyedGroups | session .. | connect ..
  | setSocket .. | setLocalAddress .. | setWorkerPool .. | enterWorker
  | leaveWorker | newCompletion .. | completion .. | pushWork .. | popWork
  | udpGetPending | udpPopPending | udpRemoveQueued .. | allocHandle ..
  | insertHostEnum .. | eraseHostEnum .. | addSyncHostEnum
  | removeSyncHostEnum => none

namespace Proc

abbrev sendFootprint (p : Proc) : Footprint Command Proc Fault :=
  .running fun command => forall packet, command.packet = some packet -> p.Puts packet

def KeepsMessages (p : Proc) : Prop := p.body.Uses p.sendFootprint

section Table

variable {p q : Proc} {command : Command}

@[simp] theorem sendFootprint_commands :
    p.sendFootprint.commands command ↔
      forall packet, command.packet = some packet -> p.Puts packet := Iff.rfl

@[simp] theorem sendFootprint_releases : p.sendFootprint.releases := trivial

@[simp] theorem sendFootprint_calls : p.sendFootprint.calls q := trivial

@[simp] theorem sendFootprint_spawns : p.sendFootprint.spawns q := trivial

@[simp] theorem sendFootprint_faults (fault : Fault) :
    p.sendFootprint.faults fault := trivial

theorem sends_command {m : Message} {peerId : UInt32} {priority : SendPriority}
    {handle : DPNHANDLE} {callback : SendCallback} (h : Sends p m) :
    p.sendFootprint.commands
      (.peer peerId (.send priority m.packet.rawPacket handle callback)) := by
  rintro packet ⟨⟩
  exact Or.inl ⟨m, h, rfl⟩

end Table

theorem keepsMessages_of_kinds {p : Proc} (hsend : CommandKind.send ∉ p.kinds)
    (hudp : CommandKind.udp ∉ p.kinds) : p.KeepsMessages := by
  refine Uses.mono p.body_uses ?_ (fun _ => trivial) (fun _ _ => trivial)
    (fun _ _ => trivial) (fun _ _ => trivial)
  intro command hcommand packet hpacket
  have hkind := hcommand.1
  cases command with
  | peer peerId change =>
      cases change with
      | send =>
          have hkind' : CommandKind.send ∈ p.kinds := hkind
          exact absurd hkind' hsend
      | _ => cases hpacket
  | udpSend =>
      have hkind' : CommandKind.udp ∈ p.kinds := hkind
      exact absurd hkind' hudp
  | _ => cases hpacket

end Proc

namespace Action

/-!
## The procedures that send
-/

-- two messages are told apart by their senders and types, not by their bytes
attribute [local irreducible] serialise

theorem sendTo_messages (player : DPNID) (payload : List UInt8) (ctx : Context)
    (flags : DWORD) : (Proc.sendTo player payload ctx flags).KeepsMessages := by
  unfold Proc.KeepsMessages Proc.body
  simp only [sendTo, sendSync, sendAsync]
  repeat' with_reducible first
    | apply Uses.onlyIf
    | apply Uses.forEach
    | apply uses_bind
    | intro _
    | split
  all_goals try (simp; done)
  all_goals first
    | exact uses_sendPacket.mpr (Proc.sends_command (.sendTo _))
    | exact uses_ofPeer.mpr (Proc.sends_command (.sendTo _))

theorem setApplicationDesc_messages (desc : ApplicationDesc) :
    (Proc.setApplicationDesc desc).KeepsMessages := by
  unfold Proc.KeepsMessages Proc.body
  simp only [setApplicationDesc]
  repeat' with_reducible first
    | apply uses_sendToConnected
    | apply uses_setDescription
    | apply uses_bind
    | intro _
    | split
  all_goals try (simp; done)
  all_goals first
    | exact Proc.sends_command (.setApplicationDesc _)

theorem complete_messages (p : Proc) (addr : Nat) (result : HRESULT) :
    (complete addr result).Uses p.sendFootprint := by
  unfold complete
  repeat' with_reducible first
    | apply Uses.onlyIf
    | apply uses_bind
    | intro _
    | split
  all_goals simp

theorem setPeerInfo_messages (info : PlayerInfo) (ctx : Context)
    (flags : DWORD) : (Proc.setPeerInfo info ctx flags).KeepsMessages := by
  unfold Proc.KeepsMessages Proc.body
  simp only [setPeerInfo]
  repeat' with_reducible first
    | apply complete_messages
    | apply uses_peerAt
    | apply uses_ofCompletion
    | apply Uses.onlyIf
    | apply Uses.forEach
    | apply uses_bind
    | intro _
    | split
  all_goals try (simp; done)
  all_goals first
    | exact uses_sendPacket.mpr (Proc.sends_command (.setPeerInfo _ _))

theorem createGroup_messages (info : Option GroupInfo)
    (groupCtx ctx : Context) (flags : DWORD) :
    (Proc.createGroup info groupCtx ctx flags).KeepsMessages := by
  apply uses_bind (by simp)
  intro s
  split
  · simp
  · simp
  rename_i info _
  by_cases hflag : hasFlag info.groupFlags dpnGroupAutodestruct = true
  · rw [if_pos hflag]
    simp
  rw [if_neg hflag]
  apply uses_bind (uses_beginOperation (by simp) (by simp))
  intro completion
  have hend : (endOperation .createGroup completion flags).Uses
      (Proc.createGroup (some info) groupCtx ctx flags).sendFootprint :=
    uses_endOperation (by simp) (by simp) (by simp)
  dsimp only
  by_cases hhost : s.localPlayerId = s.hostPlayerId
  · rw [if_pos hhost]
    apply uses_bind (by simp)
    intro _
    refine uses_bind (uses_createTheGroup (by simp) (by simp) ?_ (by simp)
      (by simp)) fun _ => hend
    intro peerId
    exact Proc.sends_command (.createGroup _)
  · rw [if_neg hhost]
    apply uses_bind (uses_assertThat (by simp))
    intro _
    split
    · exact uses_bind (by simp) fun _ => hend
    · refine uses_bind (uses_sendRequest (by simp) ?_ (by simp)) fun _ => hend
      intro ackId
      exact Proc.sends_command (.createGroupAllocate _)

theorem destroyGroup_messages (group : DPNID) (ctx : Context) (flags : DWORD) :
    (Proc.destroyGroup group ctx flags).KeepsMessages := by
  unfold Proc.KeepsMessages Proc.body
  simp only [destroyGroup]
  repeat' with_reducible first
    | apply uses_beginOperation
    | apply uses_endOperation
    | apply uses_notifyConnected
    | apply uses_bind
    | intro _
    | split
  all_goals try (simp; done)
  all_goals exact Proc.sends_command .destroyGroup

theorem addPlayerToGroup_messages (group client : DPNID) (ctx : Context)
    (flags : DWORD) :
    (Proc.addPlayerToGroup group client ctx flags).KeepsMessages := by
  unfold Proc.KeepsMessages Proc.body
  simp only [addPlayerToGroup]
  repeat' with_reducible first
    | apply uses_beginOperation
    | apply uses_endOperation
    | apply uses_sendRequest
    | apply uses_notifyConnected
    | apply uses_bind
    | intro _
    | split
  all_goals try (simp; done)
  all_goals first
    | exact Proc.sends_command (.addPlayerToGroup _)
    | exact Proc.sends_command (.addPlayerToGroupJoin _ _)

theorem removePlayerFromGroup_messages (group client : DPNID) (ctx : Context)
    (flags : DWORD) :
    (Proc.removePlayerFromGroup group client ctx flags).KeepsMessages := by
  unfold Proc.KeepsMessages Proc.body
  simp only [removePlayerFromGroup]
  repeat' with_reducible first
    | apply uses_beginOperation
    | apply uses_endOperation
    | apply uses_sendRequest
    | apply uses_notifyConnected
    | apply uses_bind
    | intro _
    | split
  all_goals try (simp; done)
  all_goals first
    | exact Proc.sends_command .removePlayerFromGroup
    | exact Proc.sends_command (.removePlayerFromGroupLeave _)

theorem invokeAck_messages (callback : AckCallback) (result : HRESULT)
    (data : List UInt8) :
    (Proc.invokeAck callback result data).KeepsMessages := by
  unfold Proc.KeepsMessages Proc.body
  simp only [invokeAck]
  repeat' with_reducible first
    | apply complete_messages
    | apply uses_createTheGroup
    | intro _
    | split
  all_goals try (simp; done)
  all_goals first
    | exact Proc.sends_command .invokeAck

theorem destroyPeer_messages (client : DPNID) (data : List UInt8) :
    (Proc.destroyPeer client data).KeepsMessages := by
  unfold Proc.KeepsMessages Proc.body
  simp only [destroyPeer]
  repeat' with_reducible first
    | apply uses_sendToConnected
    | apply Uses.forEach
    | apply uses_bind
    | intro _
    | split
  all_goals try (simp; done)
  all_goals first
    | exact uses_sendPacket.mpr (Proc.sends_command (.destroyPeerFull _))
    | exact Proc.sends_command (.destroyPeerBase _)

theorem terminateSession_messages (data : List UInt8) :
    (Proc.terminateSession data).KeepsMessages := by
  unfold Proc.KeepsMessages Proc.body
  simp only [terminateSession, dispatchDestroyLocalPlayer, closeMainSockets, closeMainSocket]
  repeat' with_reducible first
    | apply uses_sendToConnected
    | apply Uses.onlyIf
    | apply Uses.forEach
    | apply uses_bind
    | intro _
    | split
  all_goals try (simp; done)
  all_goals exact uses_sendPacket.mpr (Proc.sends_command .terminateSession)

theorem ioPeerConnected_messages (peerId : UInt32) :
    (Proc.ioPeerConnected peerId).KeepsMessages := by
  unfold Proc.KeepsMessages Proc.body
  simp only [ioPeerConnected]
  repeat' with_reducible first
    | apply uses_peerAt
    | apply uses_assertedPeer
    | apply Uses.onlyIf
    | apply uses_bind
    | intro _
    | split
  all_goals try (simp; done)
  all_goals first
    | exact uses_sendPacket.mpr (Proc.sends_command (.ioPeerConnectedHost _))
    | exact uses_sendPacket.mpr (Proc.sends_command (.ioPeerConnectedPeer _))

theorem ioUdpSend_messages :
    (Proc.ioUdpSend).KeepsMessages := by
  unfold Proc.KeepsMessages Proc.body
  simp only [ioUdpSend]
  repeat' with_reducible first
    | apply Uses.onlyIf
    | apply uses_bind
    | intro _
    | split
  all_goals simp

theorem cancelAsyncOperation_messages (handle : DPNHANDLE) (flags : DWORD) :
    (Proc.cancelAsyncOperation handle flags).KeepsMessages := by
  unfold Proc.KeepsMessages Proc.body
  simp only [cancelAsyncOperation]
  repeat' with_reducible first
    | apply uses_cancelSend
    | apply Uses.onlyIf
    | apply uses_bind
    | intro _
    | split
  all_goals simp

theorem handleHostEnumRequest_messages (pd : PacketDeserialiser)
    (sender : SockAddr) :
    (Proc.handleHostEnumRequest pd sender).KeepsMessages := by
  unfold Proc.KeepsMessages Proc.body
  simp only [handleHostEnumRequest, returnBuffer]
  repeat' with_reducible first
    | apply uses_fetch
    | apply Uses.onlyIf
    | apply uses_bind
    | intro _
    | split
  all_goals try (simp; done)
  all_goals first
    | rw [uses_perform]
      rintro packet ⟨⟩
      exact Or.inl ⟨_, .handleHostEnumRequest _ _ _, rfl⟩

theorem sendConnectHostFail_messages (peerId receiver : UInt32)
    (pd : PacketDeserialiser) (error : HRESULT) (data : List UInt8) :
    (sendConnectHostFail receiver error data).Uses
      (Proc.handleHostConnectRequest peerId pd).sendFootprint := by
  refine uses_bind (uses_sendPacket.mpr ?_) fun _ => by simp
  exact Proc.sends_command (.handleHostConnectRequestFail _ _)

theorem handleHostConnectRequest_messages (peerId : UInt32)
    (pd : PacketDeserialiser) :
    (Proc.handleHostConnectRequest peerId pd).KeepsMessages := by
  unfold Proc.KeepsMessages Proc.body
  simp only [handleHostConnectRequest, returnBuffer, sendGroups,
    admitPlayer]
  repeat' with_reducible first
    | apply sendConnectHostFail_messages
    | apply uses_assertedPeer
    | apply uses_renewPeer
    | apply uses_fetch
    | apply Uses.onlyIf
    | apply Uses.forEach
    | apply uses_bind
    | intro _
    | split
  all_goals try (simp; done)
  all_goals first
    | exact uses_sendPacket.mpr
        (Proc.sends_command (.handleHostConnectRequestDestroy _))
    | exact uses_sendPacket.mpr
        (Proc.sends_command (.handleHostConnectRequestCreate _ _))
    | rw [uses_sendPacket]
      rintro packet ⟨⟩
      exact Or.inr ⟨_, _, _, _, _, rfl, rfl⟩

theorem handleConnectPeer_messages (peerId : UInt32)
    (pd : PacketDeserialiser) :
    (Proc.handleConnectPeer peerId pd).KeepsMessages := by
  unfold Proc.KeepsMessages Proc.body
  simp only [handleConnectPeer, sendConnectPeerFail, sendGroups]
  repeat' with_reducible first
    | apply uses_assertedPeer
    | apply uses_renewPeer
    | apply uses_fetch
    | apply Uses.forEach
    | apply uses_bind
    | intro _
    | split
  all_goals try (simp; done)
  all_goals first
    | exact uses_sendPacket.mpr (Proc.sends_command (.handleConnectPeerFail _))
    | exact uses_sendPacket.mpr
        (Proc.sends_command (.handleConnectPeerDestroy _))
    | exact uses_sendPacket.mpr
        (Proc.sends_command (.handleConnectPeerCreate _ _))
    | exact uses_sendPacket.mpr (Proc.sends_command (.handleConnectPeerOk _))

theorem handlePlayerinfo_messages (peerId : UInt32) (pd : PacketDeserialiser) :
    (Proc.handlePlayerinfo peerId pd).KeepsMessages := by
  unfold Proc.KeepsMessages Proc.body
  simp only [handlePlayerinfo]
  repeat' with_reducible first
    | apply uses_peerAt
    | apply uses_assertedPeer
    | apply uses_caught
    | apply uses_bind
    | intro _
    | split
  all_goals try (simp; done)
  all_goals exact uses_sendPacket.mpr (Proc.sends_command (.handlePlayerinfo _))

theorem handleDestroyPeer_messages (peerId : UInt32) (pd : PacketDeserialiser) :
    (Proc.handleDestroyPeer peerId pd).KeepsMessages := by
  unfold Proc.KeepsMessages Proc.body
  simp only [handleDestroyPeer, sessionTerminated, dispatchDestroyLocalPlayer]
  repeat' with_reducible first
    | apply uses_peerAt
    | apply uses_assertedPeer
    | apply uses_caught
    | apply uses_sendToConnected
    | apply uses_bind
    | intro _
    | split
  all_goals try (simp; done)
  all_goals exact Proc.sends_command (.handleDestroyPeer _)

theorem handleGroupAllocate_messages (peerId : UInt32) (pd : PacketDeserialiser) :
    (Proc.handleGroupAllocate peerId pd).KeepsMessages := by
  unfold Proc.KeepsMessages Proc.body
  simp only [handleGroupAllocate]
  repeat' with_reducible first
    | apply uses_peerAt
    | apply uses_assertedPeer
    | apply uses_caught
    | apply uses_bind
    | intro _
    | split
  all_goals first
    | exact uses_sendPacket.mpr (Proc.sends_command (.handleGroupAllocate _ _))
    | simp

theorem handleGroupJoin_messages (peerId : UInt32) (pd : PacketDeserialiser) :
    (Proc.handleGroupJoin peerId pd).KeepsMessages := by
  unfold Proc.KeepsMessages Proc.body
  simp only [handleGroupJoin, sendAck]
  repeat' with_reducible first
    | apply uses_peerAt
    | apply uses_assertedPeer
    | apply uses_caught
    | apply uses_sendToConnected
    | apply uses_bind
    | intro _
    | split
  all_goals try (simp; done)
  all_goals first
    | exact Proc.sends_command (.handleGroupJoin _ _)
    | exact uses_sendPacket.mpr (Proc.sends_command (.handleGroupJoinAck _ _))

theorem handleGroupLeave_messages (peerId : UInt32) (pd : PacketDeserialiser) :
    (Proc.handleGroupLeave peerId pd).KeepsMessages := by
  unfold Proc.KeepsMessages Proc.body
  simp only [handleGroupLeave, sendAck]
  repeat' with_reducible first
    | apply uses_peerAt
    | apply uses_assertedPeer
    | apply uses_caught
    | apply uses_sendToConnected
    | apply uses_bind
    | intro _
    | split
  all_goals try (simp; done)
  all_goals first
    | exact Proc.sends_command (.handleGroupLeave _)
    | exact uses_sendPacket.mpr (Proc.sends_command (.handleGroupLeaveAck _ _))

end Action

theorem Proc.body_keepsMessages (p : Proc) : p.KeepsMessages := by
  cases p with
  | sendTo player payload ctx flags =>
      exact Action.sendTo_messages player payload ctx flags
  | setApplicationDesc desc => exact Action.setApplicationDesc_messages desc
  | setPeerInfo info ctx flags => exact Action.setPeerInfo_messages info ctx flags
  | createGroup info groupCtx ctx flags =>
      exact Action.createGroup_messages info groupCtx ctx flags
  | destroyGroup group ctx flags =>
      exact Action.destroyGroup_messages group ctx flags
  | addPlayerToGroup group client ctx flags =>
      exact Action.addPlayerToGroup_messages group client ctx flags
  | removePlayerFromGroup group client ctx flags =>
      exact Action.removePlayerFromGroup_messages group client ctx flags
  | invokeAck callback result data =>
      exact Action.invokeAck_messages callback result data
  | destroyPeer client data => exact Action.destroyPeer_messages client data
  | terminateSession data => exact Action.terminateSession_messages data
  | ioPeerConnected peerId => exact Action.ioPeerConnected_messages peerId
  | ioUdpSend => exact Action.ioUdpSend_messages
  | cancelAsyncOperation handle flags =>
      exact Action.cancelAsyncOperation_messages handle flags
  | handleHostEnumRequest pd sender =>
      exact Action.handleHostEnumRequest_messages pd sender
  | handleHostConnectRequest peerId pd =>
      exact Action.handleHostConnectRequest_messages peerId pd
  | handleConnectPeer peerId pd =>
      exact Action.handleConnectPeer_messages peerId pd
  | handlePlayerinfo peerId pd => exact Action.handlePlayerinfo_messages peerId pd
  | handleDestroyPeer peerId pd => exact Action.handleDestroyPeer_messages peerId pd
  | handleGroupAllocate peerId pd =>
      exact Action.handleGroupAllocate_messages peerId pd
  | handleGroupJoin peerId pd =>
      exact Action.handleGroupJoin_messages peerId pd
  | handleGroupLeave peerId pd =>
      exact Action.handleGroupLeave_messages peerId pd
  | _ => exact keepsMessages_of_kinds (by simp) (by simp)

theorem puts_messages {c c' : Run} {p : Proc} {command : Command}
    {packet : List UInt8}
    (hc : Reaches machine DirectPlay8Peer.Constructed Unrestricted c)
    (hstep : Step machine c (.exec p command) c')
    (hpacket : command.packet = some packet) : p.Puts packet :=
  hc.exec_uses Proc.body_keepsMessages hstep packet hpacket

/-!
## What was sent arrives
-/

/--
Whatever a procedure puts into a queue is one of the messages, or the answer to a
client that has been let in.  The handlers read their packet through its fields
alone, and at a receiver it is meant for, the packet of a message is accepted and
decoded to what the sender has put in.
-/
theorem messages_arrive {m : Message} {s : DirectPlay8Peer}
    (hmeant : m.MeantFor s) (h32 : m.packet.rawPacket.length < 2 ^ 32)
    (peerId : UInt32) (sender : SockAddr) (extra : List UInt8)
    (beyond : Memory) :
    (forall (c c' : Run) (p : Proc) (command : Command) (packet : List UInt8),
      Reaches machine DirectPlay8Peer.Constructed Unrestricted c ->
      Step machine c (.exec p command) c' -> command.packet = some packet ->
      p.Puts packet) ∧
    HandlersRead peerId sender ∧
    exists pd,
      PacketDeserialiser.Constructs 32
        (bufferOf (m.packet.rawPacket ++ extra) beyond)
        (m.packet.rawPacket ++ extra).length (.ok pd) ∧
      pd.packetType = m.msgid ∧
      Action.packetHandler peerId pd = m.handler peerId pd ∧
      m.Recovered s pd := by
  refine ⟨?_, handlersRead peerId sender, ?_⟩
  · intro c c' p command packet hc hstep hpacket
    exact puts_messages hc hstep hpacket
  · exact Message.arrives hmeant h32 peerId extra beyond

/-- The request of a client with a name, at a host with no session of its own. -/
theorem messages_arrive_connectHost :
    exists pd,
      Action.packetHandler 7 pd = some (.handleHostConnectRequest 7 pd) ∧
      Action.decodeConnectHost .zeroed pd =
        .ok (.accepted [65] [] []) := by
  obtain ⟨_, _, pd, _, _, hhandler, hrecovered⟩ := messages_arrive
    (m := .connectHost { DirectPlay8Peer.zeroed with localPlayerName := [65] })
    (s := .zeroed) trivial (by decide) 7 ⟨0, 0⟩ [] fun _ => 0
  refine ⟨pd, hhandler, ?_⟩
  have hanswer : Message.connectHostAnswer
      { DirectPlay8Peer.zeroed with localPlayerName := [65] } .zeroed =
        .accepted [65] [] [] := by decide
  rw [← hanswer]
  exact hrecovered

/-- `DESTROY_PEER` without data, at the very player it names. -/
theorem destroyPeer_does_not_arrive :
    ¬ forall (m : Message) (s : DirectPlay8Peer) (extra : List UInt8)
      (beyond : Memory), exists pd,
      PacketDeserialiser.Constructs 32
        (bufferOf (m.packet.rawPacket ++ extra) beyond)
        (m.packet.rawPacket ++ extra).length (.ok pd) ∧
      m.Recovered s pd := by
  intro hclaim
  obtain ⟨pd, _, hrecovered⟩ := hclaim (.destroyPeer 2 none)
    { DirectPlay8Peer.zeroed with localPlayerId := 2 } [] fun _ => 0
  have hfields : Message.destroyPeerFields pd
      { DirectPlay8Peer.zeroed with localPlayerId := 2 } = .ok (2, none) :=
    hrecovered
  unfold Message.destroyPeerFields at hfields
  cases hplayer : pd.getDword 0 with
  | error error =>
      rw [hplayer] at hfields
      cases hfields
  | ok playerId =>
      rw [hplayer] at hfields
      simp only [Bind.bind, Except.bind] at hfields
      split at hfields
      · cases hdata : pd.getData 1 with
        | error error =>
            rw [hdata] at hfields
            cases hfields
        | ok data =>
            rw [hdata] at hfields
            cases hfields
      · rename_i hother
        cases hfields
        exact hother rfl

end DirectPlayLite
