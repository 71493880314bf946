import DirectPlayLite.Peer.Teardown

/-!
# Sockets

Accepting, opening, reading and writing connections.  Packets are cut out of the
receive buffer of a peer by the length in their header and handed to the handlers
one at a time, by one thread at a time.
-/

namespace DirectPlayLite

open Monitor LittleEndian

namespace Action

/-!
## Sending
-/

def ioUdpSend : Action Unit := do
  let s ← get
  if s.udpSocket = -1 then pure ()
  else do
    perform .udpGetPending
    let s ← get
    match s.udpSq.current with
    | none => pure ()
    | some op => do
        let sent ← query
          (.sendto s.udpSocket op.data (op.destAddr.getD ⟨0, 0⟩))
        if sent.ret = -1 ∧ sent.err = wsaEWouldBlock then pure ()
        else do
          perform .udpPopPending
          invoke (.invokeCallback op.callback
            (if sent.ret < 0 then dpnErrGeneric else sOk))
          invoke .ioUdpSend

def ioPeerSend (peerId : UInt32) : Action Unit :=
  renewPeer peerId fun _ => do
    ofPeer peerId .getPending
    let peer ← peerAt peerId .nullDereference
    match peer.sq.current with
    | some op => do
        let sent ← query (.send peer.sock op.getPendingData)
        if sent.ret < 0 then
          if sent.err = wsaEWouldBlock then pure ()
          else invoke (.peerDestroy peerId dpnErrConnectionLost
            destroyPlayerReasonConnectionLost)
        else do
          ofPeer peerId (.incSentData sent.ret.toNat)
          onlyIf (sent.ret.toNat = op.getPendingData.length) do
            ofPeer peerId .popPending
            ofPeer peerId .getPending
            log (.resolved op.addr sOk (sentAll (op.incSentData sent.ret.toNat)))
            invoke (.invokeCallback op.callback sOk)
          invoke (.ioPeerSend peerId)
    | none =>
        if peer.state = .closing ∧ peer.sendOpen then do
          let ended ← query (.shutdown peer.sock)
          if ended.ret ≠ 0 then
            invoke (.peerDestroy peerId dpnErrConnectionLost
              destroyPlayerReasonConnectionLost)
          else ofPeer peerId (.setSendOpen false)
        else pure ()

/-!
## Receiving
-/

/-- `sizeof(TLVChunk) + header->value_length`, in a 32-bit `size_t`. -/
def fullPacketSize (recvBuf : List UInt8) : Nat :=
  (sizeofTLVChunk + (word32 ((recvBuf.drop 4).take 4)).toNat) % 2 ^ 32

/-- `recv` on the free part of the receive buffer. -/
def recvMore (peer : Peer) : Action Answer := do
  log (.recvCalled peer.addr (maxPacketSize - peer.recvBuf.length))
  query (.recv peer.sock (maxPacketSize - peer.recvBuf.length))

def wouldBlock (received : Answer) : Bool :=
  received.ret < 0 && received.err == wsaEWouldBlock

/-- `io_peer_recv`, up to where it claims the receive buffer. -/
def ioPeerRecv (peerId : UInt32) : Action Unit :=
  renewPeer peerId fun peer =>
    if peer.recvBusy then pure ()
    else do
      let received ← recvMore peer
      if wouldBlock received then pure ()
      else invoke (.ioPeerRecvClaimed peerId received)

def recvResult (peerId : UInt32) (received : Answer) : Action Unit :=
  if received.ret = 0 then
    invoke (.peerDestroy peerId dpnErrConnectionLost destroyPlayerReasonNormal)
  else if received.ret < 0 then
    invoke (.peerDestroy peerId dpnErrConnectionLost
      destroyPlayerReasonConnectionLost)
  else do
    let peer ← peerAt peerId .nullDereference
    if peer.state = .closing then
      -- everything read from a closing peer is discarded
      invoke (.ioPeerRecvNext peerId)
    else do
      ofPeer peerId (.appendRecv received.bytes)
      invoke (.ioPeerRecvPackets peerId)

/-- Claim the receive buffer and disable further read events. -/
def ioPeerRecvClaimed (peerId : UInt32) (received : Answer) : Action Unit := do
  let peer ← peerAt peerId .nullDereference
  ofPeer peerId (.setRecvBusy true)
  let _ ← query (.eventSelect peer.sock)
  recvResult peerId received

/-- The next round of the outer loop, with the receive buffer claimed. -/
def ioPeerRecvNext (peerId : UInt32) : Action Unit :=
  renewPeer peerId fun peer => do
    let received ← recvMore peer
    if wouldBlock received then do
      let _ ← query (.eventSelect peer.sock)
      ofPeer peerId (.setRecvBusy false)
    else recvResult peerId received

def packetHandler (peerId : UInt32) (pd : PacketDeserialiser) : Option Proc :=
  match pd.packetType.toNat with
  | 3 => some (.handleHostConnectRequest peerId pd)
  | 4 => some (.handleHostConnectOk peerId pd)
  | 5 => some (.handleHostConnectFail peerId pd)
  | 6 => some (.handleMessage pd)
  | 7 => some (.handlePlayerinfo peerId pd)
  | 8 => some (.handleAck peerId pd)
  | 9 => some (.handleAppdesc peerId pd)
  | 10 => some (.handleConnectPeer peerId pd)
  | 11 => some (.handleConnectPeerOk peerId pd)
  | 12 => some (.handleConnectPeerFail peerId pd)
  | 13 => some (.handleDestroyPeer peerId pd)
  | 14 => some (.handleTerminateSession peerId pd)
  | 15 => some (.handleGroupAllocate peerId pd)
  | 16 => some (.handleGroupCreate peerId pd)
  | 17 => some (.handleGroupDestroy peerId pd)
  | 18 => some (.handleGroupJoin peerId pd)
  | 19 => some (.handleGroupJoined peerId pd)
  | 20 => some (.handleGroupLeave peerId pd)
  | 21 => some (.handleGroupLeft peerId pd)
  | _ => none

/-- The inner loop: handle the packet at the front of the receive buffer. -/
def ioPeerRecvPackets (peerId : UInt32) : Action Unit := do
  let peer ← peerAt peerId .nullDereference
  let size := fullPacketSize peer.recvBuf
  if peer.recvBuf.length < sizeofTLVChunk then
    invoke (.ioPeerRecvNext peerId)
  else if size > maxPacketSize then
    invoke (.peerDestroy peerId dpnErrConnectionLost
      destroyPlayerReasonConnectionLost)
  else if peer.recvBuf.length < size then
    invoke (.ioPeerRecvNext peerId)
  else do
    let behind ← query .memory
    match PacketDeserialiser.construct 32 (size + 1)
        (bufferOf peer.recvBuf behind.memory) size with
    | none => .abort .outOfMemory
    | some (.error _) =>
        invoke (.peerDestroy peerId dpnErrConnectionLost
          destroyPlayerReasonConnectionLost)
    | some (.ok pd) => do
        log (.delivered peer.addr (peer.recvBuf.take size))
        match packetHandler peerId pd with
        | some handler => invoke handler
        | none => pure ()
        renewPeer peerId fun renewed =>
          if renewed.recvBuf.length < size then .abort .outOfBounds
          else do
            ofPeer peerId (.shiftRecv size)
            invoke (.ioPeerRecvPackets peerId)

/-!
## Opening connections
-/

/-- `peers.insert` and `worker_pool->add_handle`. -/
def addPeer (peerId : UInt32) (state : PeerState) (sock : Int)
    (address : SockAddr) (playerId : DPNID) : Action Unit := do
  perform (.insertPeer peerId state sock address.ip address.port playerId)
  let s ← get
  onlyIf (s.workerPool = false) (.abort .nullDereference)

def peerAccept : Action Unit := do
  let s ← get
  if s.listenerSocket = -1 then pure ()
  else do
    let conn ← query (.accept s.listenerSocket)
    if conn.ret = -1 then pure ()
    else do
      let nonBlocking ← query (.ioctlsocket conn.ret)
      if nonBlocking.ret ≠ 0 then pure ()
      else do
        perform .allocPeerId
        let events ← query (.eventSelect conn.ret)
        if events.ret ≠ 0 then pure ()
        else addPeer s.nextPeerId .accepted conn.ret conn.from_ 0

def peerConnect (initialState : PeerState) (address : SockAddr)
    (playerId : DPNID) : Action Bool := do
  let s ← get
  let sock ← query (.createClientSocket s.localIp s.localPort)
  if sock.ret = -1 then pure false
  else do
    perform .allocPeerId
    let events ← query (.eventSelect sock.ret)
    if events.ret ≠ 0 then pure false
    else do
      let started ← query (.connect sock.ret address.ip address.port)
      if started.ret ≠ -1 ∨ started.err ≠ wsaEWouldBlock then pure false
      else do
        addPeer s.nextPeerId initialState sock.ret address playerId
        pure true

/-!
## Connections that have been opened
-/

def connectHostPacket (s : DirectPlay8Peer) : PacketSerialiser :=
  serialise msgidConnectHost
    [if s.instanceGuid ≠ guidNull then .guid s.instanceGuid else .null,
     .guid s.applicationGuid,
     if s.password ≠ [] then .wstring s.password else .null,
     if s.connectReqData ≠ [] then .data s.connectReqData else .null,
     .wstring s.localPlayerName,
     .data s.localPlayerData]

def connectPeerPacket (s : DirectPlay8Peer) : PacketSerialiser :=
  serialise msgidConnectPeer
    [.guid s.instanceGuid, .guid s.applicationGuid, .wstring s.password,
     .dword s.localPlayerId, .wstring s.localPlayerName,
     .data s.localPlayerData]

def ioPeerConnected (peerId : UInt32) : Action Unit := do
  let peer ← assertedPeer peerId
  let option ← query (.getsockopt peer.sock)
  -- a failure of `getsockopt` does not end the function
  onlyIf (option.ret ≠ 0) (invoke (.connectFail dpnErrGeneric []))
  let peer ← peerAt peerId .useAfterFree
  let s ← get
  if option.err = 0 then
    if peer.state = .connectingHost then do
      sendPacket peerId .medium (connectHostPacket s) .nothing
      ofPeer peerId (.setState .requestingHost)
    else if peer.state = .connectingPeer then do
      sendPacket peerId .high (connectPeerPacket s) .nothing
      ofPeer peerId (.setState .requestingPeer)
    else pure ()
  else
    if peer.state = .connectingHost then
      invoke (.connectFail dpnErrNoConnection [])
    else if peer.state = .connectingPeer then
      invoke (.connectFail dpnErrPlayerNotReachable [])
    else pure ()

/-!
## Events of the worker threads
-/

def workerCallback (callback : Action Unit) : Action Unit := do
  perform .enterWorker
  callback
  perform .leaveWorker

def ioPeerTriggered (peerId : UInt32) : Action Unit :=
  renewPeer peerId fun peer => do
    let s ← get
    if peer.state = .connectingHost then do
      assertThat .ioPeerTriggered (s.state = .connectingToHost)
      invoke (.ioPeerConnected peerId)
    else if peer.state = .connectingPeer then do
      assertThat .ioPeerTriggered (s.state = .connectingToPeers)
      invoke (.ioPeerConnected peerId)
    else do
      invoke (.ioPeerSend peerId)
      invoke (.ioPeerRecv peerId)

/-- Receive a packet on a UDP socket and hand it to its handler. -/
def receiveDatagram (sock : Int) (next : Action Unit) : Action Unit := do
  let received ← query (.recvfrom sock)
  if received.ret ≤ 0 then next
  else do
    let behind ← query .memory
    match PacketDeserialiser.construct 32 (received.bytes.length + 1)
        (bufferOf received.bytes behind.memory) received.bytes.length with
    | none => .abort .outOfMemory
    | some (.error _) => pure ()
    | some (.ok pd) => do
        onlyIf (pd.packetType = msgidHostEnumRequest)
          (invoke (.handleHostEnumRequest pd received.from_))
        next

def handleUdpSocketEvent : Action Unit := do
  let s ← get
  if s.udpSocket = -1 then pure ()
  else receiveDatagram s.udpSocket (invoke .ioUdpSend)

def handleOtherSocketEvent : Action Unit := do
  let s ← get
  if s.discoverySocket ≠ -1 then
    receiveDatagram s.discoverySocket (invoke .peerAccept)
  else invoke .peerAccept

def handleWork : Action Unit := do
  let s ← get
  match s.workQueue with
  | [] => pure ()
  | work :: _ => do
      perform .popWork
      -- the lock is given up before the work takes it again
      let _ ← unlocked .wait fun _ => true
      let s ← get
      let _ ← raise (.receive s.localPlayerId s.localPlayerCtx work.payload
        (receiveFlags work.flags))
      complete work.completion sOk

end Action
end DirectPlayLite
