import DirectPlayLite.Peer.Joining

/-!
# Messages between players

The packets players exchange once they have joined.  These handlers read their
packet inside a `try` block and drop it when a field cannot be read.
-/

namespace DirectPlayLite

open Monitor

namespace Action

def caught {α : Type} (fields : Except PacketError α)
    (next : α -> Action Unit) : Action Unit :=
  match fields with
  | .error _ => pure ()
  | .ok value => next value

def handleMessage (pd : PacketDeserialiser) : Action Unit :=
  caught (do
    let fromPlayerId ← pd.getDword 0
    let payload ← pd.getData 1
    let _ ← pd.getDword 2
    return (fromPlayerId, payload)) fun (fromPlayerId, payload) => do
  let s ← get
  match s.getPeerByPlayerId fromPlayerId with
  | none => pure ()
  | some peer => do
      let _ ← raise (.receive fromPlayerId peer.playerCtx payload 0)
      pure ()

def handlePlayerinfo (peerId : UInt32) (pd : PacketDeserialiser) :
    Action Unit := do
  let peer ← assertedPeer peerId
  caught (do
    let playerId ← pd.getDword 0
    let name ← pd.getWstring 1
    let data ← pd.getData 2
    let ackId ← pd.getDword 3
    return (playerId, name, data, ackId)) fun (playerId, name, data, ackId) =>
  if peer.state ≠ .connected then pure ()
  else if playerId ≠ peer.playerId then pure ()
  else do
    ofPeer peerId (.setPlayerInfo name data)
    sendPacket peerId .high (ackPacket ackId sOk []) .nothing
    let _ ← raise (.peerInfo peer.playerId peer.playerCtx)
    pure ()

def handleAck (peerId : UInt32) (pd : PacketDeserialiser) : Action Unit := do
  let peer ← assertedPeer peerId
  caught (do
    let ackId ← pd.getDword 0
    let result ← pd.getDword 1
    let data ← pd.getData 2
    return (ackId, result, data)) fun (ackId, result, data) =>
  match peer.pendingAcks[ackId]? with
  | none => pure ()
  | some ack => do
      ofPeer peerId (.eraseAck ackId)
      log (.ackResolved ack.addr)
      invoke (.invokeAck ack.callback result data)

def handleAppdesc (peerId : UInt32) (pd : PacketDeserialiser) :
    Action Unit := do
  let peer ← assertedPeer peerId
  let s ← get
  caught (do
    let maxPlayers ← pd.getDword 0
    let sessionName ← pd.getWstring 1
    let password ← pd.getWstring 2
    let applicationData ← pd.getData 3
    return (maxPlayers, sessionName, password, applicationData))
    fun (maxPlayers, sessionName, password, applicationData) =>
  if peer.state ≠ .connected then pure ()
  else if peer.playerId ≠ s.hostPlayerId then pure ()
  else do
    perform (.session (.setMaxPlayers maxPlayers))
    perform (.session (.setSessionName sessionName))
    perform (.session (.setPassword password))
    perform (.session (.setApplicationData applicationData))
    let _ ← raise .applicationDesc
    pure ()

def destroyPeerPacket (playerId : DPNID) : PacketSerialiser :=
  serialise msgidDestroyPeer [.dword playerId]

/-- The host has ended the session, or our part in it. -/
def sessionTerminated (terminateData : List UInt8) (farewell : Action Unit) :
    Action Unit := do
  perform (.setState .terminated)
  let _ ← raise (.terminateSession dpnErrHostTerminatedSession terminateData)
  dispatchDestroyLocalPlayer destroyPlayerReasonSessionTerminated
  farewell
  invoke (.peerShutdownAll dpnErrHostTerminatedSession
    destroyPlayerReasonSessionTerminated)
  invoke (.groupDestroyAll destroyGroupReasonSessionTerminated)

def handleDestroyPeer (peerId : UInt32) (pd : PacketDeserialiser) :
    Action Unit := do
  let peer ← assertedPeer peerId
  let s ← get
  caught (pd.getDword 0) fun destroyPlayerId =>
  if peer.state ≠ .connected then pure ()
  else if peer.playerId ≠ s.hostPlayerId ∧ peer.playerId ≠ destroyPlayerId then
    pure ()
  else if destroyPlayerId = s.localPlayerId then
    caught (pd.getData 1) fun terminateData =>
      sessionTerminated terminateData do
        let s ← get
        sendToConnected .high (destroyPeerPacket s.localPlayerId) .nothing
  else
    match s.playerToPeerId[destroyPlayerId]? with
    | none => pure ()
    | some destroyPeerId =>
        invoke (.peerDestroy destroyPeerId dpnErrConnectionLost
          destroyPlayerReasonHostDestroyedPlayer)

def handleTerminateSession (peerId : UInt32) (pd : PacketDeserialiser) :
    Action Unit := do
  let peer ← assertedPeer peerId
  let s ← get
  caught (pd.getData 0) fun terminateData =>
  if peer.state ≠ .connected then pure ()
  else if peer.playerId ≠ s.hostPlayerId then pure ()
  else sessionTerminated terminateData (pure ())

/-!
## Groups
-/

def handleGroupAllocate (peerId : UInt32) (pd : PacketDeserialiser) :
    Action Unit := do
  let peer ← assertedPeer peerId
  let s ← get
  caught (pd.getDword 0) fun ackId =>
  if peer.state ≠ .connected then pure ()
  else do
    perform .allocPlayerId
    sendAck peerId ackId sOk (LittleEndian.bytes32 s.nextPlayerId)

def PeerState.tellsGroups : PeerState -> Bool
  | .connected | .requestingHost | .requestingPeer => true
  | _ => false

def handleGroupCreate (peerId : UInt32) (pd : PacketDeserialiser) :
    Action Unit := do
  let peer ← assertedPeer peerId
  let s ← get
  caught (do
    let groupId ← pd.getDword 0
    let name ← pd.getWstring 1
    let data ← pd.getData 2
    return (groupId, name, data)) fun (groupId, name, data) =>
  if PeerState.tellsGroups peer.state = false then pure ()
  else if s.groups.contains groupId then pure ()
  else if s.destroyedGroups.contains groupId then pure ()
  else do
    perform (.emplaceGroup groupId name data contextNull)
    let cg ← raise (.createGroup groupId contextNull peer.playerCtx)
    -- the group may have gone away in the meantime
    perform (.group groupId (.setCtx cg.ctx))

def handleGroupDestroy (peerId : UInt32) (pd : PacketDeserialiser) :
    Action Unit := do
  let peer ← assertedPeer peerId
  let s ← get
  caught (pd.getDword 0) fun groupId =>
  if PeerState.tellsGroups peer.state = false then pure ()
  else if s.destroyedGroups.contains groupId then pure ()
  else do
    perform (.insertDestroyedGroup groupId)
    match s.groups[groupId]? with
    | none => pure ()
    | some group => do
        let _ ← raise
          (.destroyGroup groupId group.ctx destroyGroupReasonNormal)
        perform (.eraseGroup groupId)

/--
`handle_group_join`.  The pointer to a group that had to be created stays in an
inner variable, and the outer one, still NULL, is used behind it.
-/
def handleGroupJoin (peerId : UInt32) (pd : PacketDeserialiser) :
    Action Unit := do
  let peer ← assertedPeer peerId
  let s ← get
  caught (do
    let groupId ← pd.getDword 0
    let ackId ← pd.getDword 1
    let name ← pd.getWstring 2
    let data ← pd.getData 3
    return (groupId, ackId, name, data)) fun (groupId, ackId, name, data) =>
  if peer.state ≠ .connected then pure ()
  else if s.destroyedGroups.contains groupId then
    sendAck peerId ackId dpnErrInvalidGroup []
  else
    match s.groups[groupId]? with
    | none => do
        perform (.emplaceGroup groupId name data contextNull)
        let cg ← raise (.createGroup groupId contextNull peer.playerCtx)
        let s ← get
        if s.groups.contains groupId then do
          perform (.group groupId (.setCtx cg.ctx))
          .abort .nullDereference
        else do
          let _ ← peerAt peerId .useAfterFree
          sendAck peerId ackId dpnErrInvalidGroup []
    | some group =>
        if group.playerIds.contains s.localPlayerId then
          sendAck peerId ackId dpnErrPlayerAlreadyInGroup []
        else do
          sendToConnected .high (groupJoinedPacket groupId group) .nothing
          sendAck peerId ackId sOk []
          perform (.group groupId (.insertPlayer s.localPlayerId))
          let _ ← raise (.addPlayerToGroup groupId group.ctx s.localPlayerId
            s.localPlayerCtx)
          pure ()

def handleGroupJoined (peerId : UInt32) (pd : PacketDeserialiser) :
    Action Unit := do
  let peer ← assertedPeer peerId
  let s ← get
  caught (do
    let groupId ← pd.getDword 0
    let name ← pd.getWstring 1
    let data ← pd.getData 2
    return (groupId, name, data)) fun (groupId, name, data) =>
  if peer.state ≠ .connected then pure ()
  else if s.destroyedGroups.contains groupId then pure ()
  else
    match s.groups[groupId]? with
    | none => do
        perform (.emplaceGroup groupId name data contextNull)
        let cg ← raise (.createGroup groupId contextNull peer.playerCtx)
        let s ← get
        if s.groups.contains groupId then do
          perform (.group groupId (.setCtx cg.ctx))
          .abort .nullDereference
        else pure ()
    | some group =>
        if group.playerIds.contains peer.playerId then pure ()
        else do
          perform (.group groupId (.insertPlayer peer.playerId))
          let _ ← raise (.addPlayerToGroup groupId group.ctx peer.playerId
            peer.playerCtx)
          pure ()

def handleGroupLeave (peerId : UInt32) (pd : PacketDeserialiser) :
    Action Unit := do
  let peer ← assertedPeer peerId
  let s ← get
  caught (do
    let groupId ← pd.getDword 0
    let ackId ← pd.getDword 1
    return (groupId, ackId)) fun (groupId, ackId) =>
  if peer.state ≠ .connected then pure ()
  else if s.destroyedGroups.contains groupId then
    sendAck peerId ackId dpnErrInvalidGroup []
  else
    match s.groups[groupId]? with
    | none => pure ()
    | some group =>
        if ¬ group.playerIds.contains s.localPlayerId then
          sendAck peerId ackId dpnErrPlayerNotInGroup []
        else do
          sendToConnected .high (groupLeftPacket groupId) .nothing
          sendAck peerId ackId sOk []
          perform (.group groupId (.erasePlayer s.localPlayerId))
          let _ ← raise (.removePlayerFromGroup groupId group.ctx
            s.localPlayerId s.localPlayerCtx)
          pure ()

def handleGroupLeft (peerId : UInt32) (pd : PacketDeserialiser) :
    Action Unit := do
  let peer ← assertedPeer peerId
  let s ← get
  caught (pd.getDword 0) fun groupId =>
  if peer.state ≠ .connected then pure ()
  else if s.destroyedGroups.contains groupId then pure ()
  else
    match s.groups[groupId]? with
    | none => pure ()
    | some group =>
        if ¬ group.playerIds.contains peer.playerId then pure ()
        else do
          perform (.group groupId (.erasePlayer peer.playerId))
          let _ ← raise (.removePlayerFromGroup groupId group.ctx peer.playerId
            peer.playerCtx)
          pure ()

end Action
end DirectPlayLite
