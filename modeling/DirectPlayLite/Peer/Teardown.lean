import DirectPlayLite.Peer.Callbacks

/-!
# Destroying peers

`peer_destroy` cancels what is outstanding on a peer, raises the messages its
state calls for and deletes it; `peer_shutdown` lets a connected peer flush its
queue first.  Loops that release the lock look at the peers again every round.
-/

namespace DirectPlayLite

open Monitor

namespace Action

/-- `peer_destroy`: the loop over the send queue follows. -/
def peerDestroy (peerId : UInt32) (result : HRESULT)
    (reason : DWORD) : Action Unit := do
  let _ ← assertedPeer peerId
  invoke (.peerDestroySends peerId result reason)

def sentAll (op : SendOp SendCallback) : Bool := op.sentData == op.data.length

def peerDestroySends (peerId : UInt32) (result : HRESULT)
    (reason : DWORD) : Action Unit := do
  ofPeer peerId .getPending
  let peer ← peerAt peerId .nullDereference
  match peer.sq.current with
  | some op => do
      ofPeer peerId .popPending
      log (.resolved op.addr result (sentAll op))
      invoke (.invokeCallback op.callback result)
      renewPeer peerId fun _ => invoke (.peerDestroySends peerId result reason)
  | none => invoke (.peerDestroyAcks peerId result reason)

def peerDestroyAcks (peerId : UInt32) (result : HRESULT)
    (reason : DWORD) : Action Unit := do
  let peer ← peerAt peerId .nullDereference
  match peer.pendingAcks.toList.head? with
  | some (ackId, ack) => do
      ofPeer peerId (.eraseAck ackId)
      log (.ackResolved ack.addr)
      invoke (.invokeAck ack.callback result [])
      renewPeer peerId fun _ => invoke (.peerDestroyAcks peerId result reason)
  | none => invoke (.peerDestroyDrained peerId result reason)

/-- Take the peer out of the pool and of `peers` and delete it. -/
def removePeer (peerId : UInt32) : Action Unit := do
  let s ← get
  if s.workerPool then
    perform (.erasePeer peerId)
  else .abort .nullDereference

/-- The host has gone: end the session and dump all other peers. -/
def hostLost (result : HRESULT) (reason : DWORD) : Action Unit := do
  perform (.setState .terminated)
  let _ ← raise (.terminateSession result [])
  dispatchDestroyLocalPlayer destroyPlayerReasonNormal
  invoke (.peerDestroyAll result reason)
  invoke (.groupDestroyAll destroyGroupReasonNormal)

def peerDestroyDrained (peerId : UInt32) (result : HRESULT)
    (reason : DWORD) : Action Unit := do
  let peer ← peerAt peerId .nullDereference
  let s ← get
  if peer.state = .connected then do
    let killedPlayerId := peer.playerId
    ofPeer peerId (.setSendOpen false)
    ofPeer peerId (.setState .closing)
    invoke (.dispatchDestroyPlayer peer.playerId peer.playerCtx reason)
    perform (.unmapPlayer killedPlayerId)
    let s ← get
    onlyIf (s.state = .connected ∧ killedPlayerId = s.hostPlayerId)
      (hostLost result reason)
    renewPeer peerId fun _ => removePeer peerId
  else if s.state = .connectingToHost ∧
      (peer.state = .connectingHost ∨ peer.state = .requestingHost) then do
    invoke (.connectFail result [])
    renewPeer peerId fun _ => removePeer peerId
  else if s.state = .connectingToPeers ∧
      (peer.state = .connectingPeer ∨ peer.state = .requestingPeer) then do
    invoke (.connectFail dpnErrPlayerNotReachable [])
    renewPeer peerId fun _ => removePeer peerId
  else removePeer peerId

def peerDestroyAll (result : HRESULT) (reason : DWORD) : Action Unit := do
  let s ← get
  match s.peers.toList.head? with
  | none => pure ()
  | some (peerId, _) => do
      invoke (.peerDestroy peerId result reason)
      invoke (.peerDestroyAll result reason)

def peerShutdown (peerId : UInt32) (result : HRESULT)
    (reason : DWORD) : Action Unit := do
  let peer ← assertedPeer peerId
  if peer.state = .connected then do
    ofPeer peerId (.setState .closing)
    invoke (.dispatchDestroyPlayer peer.playerId peer.playerCtx reason)
    -- the table is keyed by player IDs, the source erases the peer ID
    perform (.unmapPlayer peerId)
  else if peer.state = .closing then pure ()
  else invoke (.peerDestroy peerId result reason)

def peerShutdownAll (result : HRESULT) (reason : DWORD) : Action Unit := do
  let s ← get
  match s.peers.toList.find? fun (_, peer) => peer.state != .closing with
  | none => pure ()
  | some (peerId, _) => do
      invoke (.peerShutdown peerId result reason)
      let s ← get
      assertThat .peerShutdownAll
        ((s.peers[peerId]?).all fun peer => peer.state == .closing)
      invoke (.peerShutdownAll result reason)

/--
The last loop of `TerminateSession`, which never moves on from the first of the
peers it is given.
-/
def terminateDestroyPeers (peerId : UInt32) : Action Unit := do
  invoke (.peerDestroy peerId dpnErrUserCancel destroyPlayerReasonNormal)
  invoke (.terminateDestroyPeers peerId)

/-!
## The end of connecting
-/

/-- An outgoing connection that has neither completed nor failed. -/
def PeerState.isOutgoing : PeerState -> Bool
  | .connectingHost | .requestingHost | .connectingPeer | .requestingPeer => true
  | _ => false

def connectCheck : Action Unit := do
  let s ← get
  assertThat .connectCheck
    (s.state = .connectingToHost ∨ s.state = .connectingToPeers)
  if s.peers.toList.any fun (_, peer) => PeerState.isOutgoing peer.state then
    pure ()
  else do
    perform (.setState .connected)
    let s ← get
    let _ ← raise (.connectComplete s.connectHandle s.connectCtx sOk
      s.localPlayerId s.connectReplyData)
    perform (.connect (.setResult sOk))

/-- The part of `connect_fail` that destroys the players. -/
def connectUnwind (toPeers : Bool) : Action Unit := do
  invoke (.peerDestroyAll dpnErrGeneric destroyPlayerReasonConnectionLost)
  onlyIf toPeers (dispatchDestroyLocalPlayer destroyPlayerReasonNormal)

def connectFail (result : HRESULT) (reply : List UInt8) : Action Unit := do
  let s ← get
  assertThat .connectFail
    (s.state = .connectingToHost ∨ s.state = .connectingToPeers)
  perform (.setState .connectFailed)
  closeMainSockets
  invoke (.connectUnwind (s.state == .connectingToPeers))
  let s ← get
  let _ ← raise
    (.connectComplete s.connectHandle s.connectCtx result 0 reply)
  perform (.connect (.setResult result))
  perform (.setState .initialised)

end Action
end DirectPlayLite
