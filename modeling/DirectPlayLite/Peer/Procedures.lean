import DirectPlayLite.Lib.Monitor.Program
import DirectPlayLite.Packet.Deserialiser
import DirectPlayLite.Peer.Commands

/-!
# Procedures of the peer object

The methods of the interface, the event handlers the worker threads call, the
detached threads, and the functions and loops that call each other.  Their bodies
are programs that hold the object's lock; a call of the application's message
handler, or a wait, releases it.
-/

namespace DirectPlayLite

open Monitor

def clsidDP8SPTcpip : GUID :=
  #v[0xa0, 0x7b, 0xfe, 0xeb, 0x8d, 0x62, 0xd2, 0x11, 0xae, 0x0f, 0x00, 0x60,
    0x97, 0xb0, 0x14, 0x11]

def clsidDP8SPIpx : GUID :=
  #v[0x90, 0x42, 0x93, 0x53, 0x8d, 0x62, 0xd2, 0x11, 0xae, 0x0f, 0x00, 0x60,
    0x97, 0xb0, 0x14, 0x11]

/-!
## Arguments of the methods
-/

structure ApplicationDesc where
  /-- `dwSize == sizeof(DPN_APPLICATION_DESC)`. -/
  sizeOk : Bool
  flags : DWORD
  guidApplication : GUID
  maxPlayers : DWORD
  sessionName : Option WString
  password : Option WString
  /-- Empty when the pointer is NULL. -/
  applicationReservedData : List UInt8
deriving Repr, DecidableEq

/-- What `Host` reads of a device address: its provider and its DWORD port. -/
structure DeviceInfo where
  serviceProvider : Option GUID
  port : Option DWORD
deriving Repr, DecidableEq

structure HostArgs where
  appDesc : ApplicationDesc
  devices : List DeviceInfo
  playerCtx : Context
deriving Repr, DecidableEq

structure ConnectArgs where
  guidApplication : GUID
  guidInstance : GUID
  /-- `pwszPassword`, empty when there is none.  `Connect` does not look at it. -/
  password : WString := []
  /-- The address taken from `pHostAddr` and the environment, if it is valid. -/
  hostAddress : Option SockAddr
  userConnectData : List UInt8
  playerCtx : Context
  asyncCtx : Context
  flags : DWORD
deriving Repr, DecidableEq

structure GroupInfo where
  groupFlags : DWORD
  infoFlags : DWORD
  name : WString
  data : List UInt8
deriving Repr, DecidableEq

structure PlayerInfo where
  sizeOk : Bool
  infoFlags : DWORD
  /-- Empty when the pointer is NULL. -/
  name : WString
  data : List UInt8
deriving Repr, DecidableEq

/-!
## Queries
-/

/-- What a program asks of the system and the application. -/
inductive Query where
  | messageHandler (notification : Notification)
  | wait
  | deleteWorkerPool
  | wsaStartup
  | coCreateGuid
  | performanceCounter
  | createUdpSocket (ip : UInt32) (port : UInt16)
  | createListenerSocket (ip : UInt32) (port : UInt16)
  | createClientSocket (ip : UInt32) (port : UInt16)
  | createDiscoverySocket
  | eventSelect (sock : Int)
  | accept (sock : Int)
  | ioctlsocket (sock : Int)
  | connect (sock : Int) (ip : UInt32) (port : UInt16)
  | getsockopt (sock : Int)
  | recvfrom (sock : Int)
  | recv (sock : Int) (space : Nat)
  /-- The memory behind the bytes that were received. -/
  | memory
  | send (sock : Int) (data : List UInt8)
  | sendto (sock : Int) (data : List UInt8) (dest : SockAddr)
  | shutdown (sock : Int)
  | createHostEnumerator

/-- An answer, with the parts a query may use. -/
structure Answer where
  /-- The return value of a system call. -/
  ret : Int := 0
  /-- `WSAGetLastError()`, or the `SO_ERROR` of a socket. -/
  err : DWORD := 0
  /-- What a function of the application or the system returns. -/
  result : HRESULT := sOk
  /-- A context the message handler has set. -/
  ctx : Context := contextNull
  bytes : List UInt8 := []
  from_ : SockAddr := ⟨0, 0⟩
  guid : GUID := guidNull
  memory : Memory := fun _ => 0

/-- What the system promises about the number of bytes it moves. -/
def answers (_ : DirectPlay8Peer) : Query -> Answer -> Bool
  | .recv _ space, a => a.ret ≤ space && (a.ret ≤ 0 || a.bytes.length == a.ret.toNat)
  | .recvfrom _, a =>
      a.ret ≤ maxPacketSize && (a.ret ≤ 0 || a.bytes.length == a.ret.toNat)
  | .send _ data, a => a.ret ≤ data.length
  | _, _ => true

inductive Fault where
  | unhandledException (error : PacketError)
  | nullDereference
  | useAfterFree
  | outOfBounds
  /-- The field loop of a `PacketDeserialiser` goes on until memory runs out. -/
  | outOfMemory
deriving Repr, DecidableEq

/-!
## Procedures
-/

inductive Proc where
  -- methods of the interface
  | initialiseObject
  | cancelAsyncOperation (handle : DPNHANDLE) (flags : DWORD)
  | connect (args : ConnectArgs)
  | sendTo (player : DPNID) (payload : List UInt8) (ctx : Context)
      (flags : DWORD)
  | host (args : HostArgs)
  | setApplicationDesc (desc : ApplicationDesc)
  | createGroup (info : Option GroupInfo) (groupCtx asyncCtx : Context)
      (flags : DWORD)
  | destroyGroup (group : DPNID) (ctx : Context) (flags : DWORD)
  | addPlayerToGroup (group client : DPNID) (ctx : Context) (flags : DWORD)
  | removePlayerFromGroup (group client : DPNID) (ctx : Context)
      (flags : DWORD)
  | setPeerInfo (info : PlayerInfo) (ctx : Context) (flags : DWORD)
  | close (flags : DWORD)
  | enumHosts (ctx : Context) (flags : DWORD)
  | destroyPeer (client : DPNID) (data : List UInt8)
  | terminateSession (data : List UInt8)
  -- events of the worker threads
  | handleUdpSocketEvent
  | handleOtherSocketEvent
  | handleWork
  | ioPeerTriggered (peerId : UInt32)
  -- detached threads
  | sendCompleteThread (completion : Nat)
  | createGroupThread (group : DPNID) (ctx : Context) (completion : Nat)
  | destroyGroupThread (group : DPNID) (completion : Nat)
  | addPlayerThread (group : DPNID) (groupCtx : Context) (completion : Nat)
  | removePlayerThread (group : DPNID) (groupCtx : Context) (completion : Nat)
  | enumHostsThread (handle : DPNHANDLE) (ctx : Context)
  -- sockets
  | ioUdpSend
  | ioPeerConnected (peerId : UInt32)
  | ioPeerSend (peerId : UInt32)
  | ioPeerRecv (peerId : UInt32)
  /-- `io_peer_recv` once it has claimed the receive buffer. -/
  | ioPeerRecvClaimed (peerId : UInt32) (received : Answer)
  | ioPeerRecvNext (peerId : UInt32)
  | ioPeerRecvPackets (peerId : UInt32)
  | peerAccept
  -- teardown
  | peerDestroy (peerId : UInt32) (result : HRESULT) (reason : DWORD)
  | peerDestroySends (peerId : UInt32) (result : HRESULT) (reason : DWORD)
  | peerDestroyAcks (peerId : UInt32) (result : HRESULT) (reason : DWORD)
  /-- `peer_destroy` behind the loops that cancel sends and acks. -/
  | peerDestroyDrained (peerId : UInt32) (result : HRESULT) (reason : DWORD)
  | peerDestroyAll (result : HRESULT) (reason : DWORD)
  | peerShutdown (peerId : UInt32) (result : HRESULT) (reason : DWORD)
  | peerShutdownAll (result : HRESULT) (reason : DWORD)
  | groupDestroyAll (reason : DWORD)
  | terminateDestroyPeers (peerId : UInt32)
  /-- `Close` behind its change to `STATE_CLOSING`. -/
  | closing (flags : DWORD) (wasHosting wasConnected : Bool)
  -- packets
  | handleHostEnumRequest (pd : PacketDeserialiser) (sender : SockAddr)
  | handleHostConnectRequest (peerId : UInt32) (pd : PacketDeserialiser)
  | handleHostConnectOk (peerId : UInt32) (pd : PacketDeserialiser)
  | handleHostConnectFail (peerId : UInt32) (pd : PacketDeserialiser)
  | handleConnectPeer (peerId : UInt32) (pd : PacketDeserialiser)
  | handleConnectPeerOk (peerId : UInt32) (pd : PacketDeserialiser)
  | handleConnectPeerFail (peerId : UInt32) (pd : PacketDeserialiser)
  | handleMessage (pd : PacketDeserialiser)
  | handlePlayerinfo (peerId : UInt32) (pd : PacketDeserialiser)
  | handleAck (peerId : UInt32) (pd : PacketDeserialiser)
  | handleAppdesc (peerId : UInt32) (pd : PacketDeserialiser)
  | handleDestroyPeer (peerId : UInt32) (pd : PacketDeserialiser)
  | handleTerminateSession (peerId : UInt32) (pd : PacketDeserialiser)
  | handleGroupAllocate (peerId : UInt32) (pd : PacketDeserialiser)
  | handleGroupCreate (peerId : UInt32) (pd : PacketDeserialiser)
  | handleGroupDestroy (peerId : UInt32) (pd : PacketDeserialiser)
  | handleGroupJoin (peerId : UInt32) (pd : PacketDeserialiser)
  | handleGroupJoined (peerId : UInt32) (pd : PacketDeserialiser)
  | handleGroupLeave (peerId : UInt32) (pd : PacketDeserialiser)
  | handleGroupLeft (peerId : UInt32) (pd : PacketDeserialiser)
  -- the end of connecting
  | connectCheck
  | connectFail (result : HRESULT) (reply : List UInt8)
  /-- The part of `connect_fail` that destroys the players. -/
  | connectUnwind (toPeers : Bool)
  -- callbacks
  | invokeCallback (callback : SendCallback) (result : HRESULT)
  | invokeAck (callback : AckCallback) (result : HRESULT) (data : List UInt8)
  | dispatchDestroyPlayer (player : DPNID) (ctx : Context) (reason : DWORD)
  -- loops of CancelAsyncOperation
  | cancelPlayerSends (player : DPNID) (flags : DWORD)
  | cancelAllSends

abbrev Action (α : Type) :=
  Program DirectPlay8Peer Command Query Answer Proc Fault α

namespace Action

export Program (get perform query unlocked invoke detach onlyIf forEach)

def log (event : Event) : Action Unit := perform (.log event)

/-- `assert`, which only leaves a note and goes on. -/
def assertThat (assertion : Assertion) (condition : Prop)
    [Decidable condition] : Action Unit :=
  onlyIf (¬ condition) (log (.assertionFailed assertion))

/-- Call the message handler without the lock. -/
def raise (notification : Notification) : Action Answer := do
  log (.raised notification)
  unlocked (.messageHandler notification) fun _ => true

def waitUntil (ready : DirectPlay8Peer -> Bool) : Action Unit := do
  let _ ← unlocked .wait ready
  pure ()

def fetch {α : Type} (field : Except PacketError α) : Action α :=
  match field with
  | .ok value => pure value
  | .error error => .abort (.unhandledException error)

/-- The peer with an ID, which the caller does not check. -/
def peerAt (peerId : UInt32) (missing : Fault) : Action Peer := do
  let s ← get
  match s.peers[peerId]? with
  | some peer => pure peer
  | none => .abort missing

def assertedPeer (peerId : UInt32) : Action Peer := do
  let s ← get
  assertThat .peerNotNull (s.peers[peerId]? ≠ none)
  peerAt peerId .nullDereference

def renewPeer (peerId : UInt32) (next : Peer -> Action Unit) : Action Unit := do
  let s ← get
  match s.peers[peerId]? with
  | some peer => next peer
  | none => pure ()

def ofPeer (peerId : UInt32) (change : PeerCommand) : Action Unit :=
  perform (.peer peerId change)

def sendPacket (peerId : UInt32) (priority : SendPriority)
    (packet : PacketSerialiser) (callback : SendCallback) : Action Unit :=
  ofPeer peerId (.send priority packet.rawPacket 0 callback)

def sendToConnected (priority : SendPriority) (packet : PacketSerialiser)
    (callback : SendCallback) : Action Unit := do
  let s ← get
  forEach (fun peerId => sendPacket peerId priority packet callback)
    (s.peerIdsIn .connected)

def returns (method : Method) (result : HRESULT) : Action Unit :=
  log (.returned method result)

def closeMainSocket (which : MainSocket) : Action Unit :=
  perform (.setSocket which (-1))

def closeMainSockets : Action Unit := do
  closeMainSocket .discovery
  closeMainSocket .listener
  closeMainSocket .udp

end Action
end DirectPlayLite
