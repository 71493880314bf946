import DirectPlayLite.Peer.Codes
import DirectPlayLite.Peer.SendQueue
import Std.Data.ExtTreeMap
import Std.Data.ExtTreeSet

/-!
# The state of a `DirectPlay8Peer`

The members of the class, its peers and groups.  Function objects are kept as
data, with what their lambdas capture; what `new` allocates is known by an
address that is never used again.  The state also records, in `history`, what
has happened so far.
-/

namespace DirectPlayLite

open Std

inductive State where
  | new
  | initialised
  | hosting
  | connectingToHost
  | connectingToPeers
  | connectFailed
  | connected
  | closing
  | terminated
deriving Repr, DecidableEq

inductive PeerState where
  | accepted
  | connectingHost
  | requestingHost
  | connectingPeer
  | requestingPeer
  | indicating
  | connected
  | closing
deriving Repr, DecidableEq

/-!
## Callbacks
-/

structure GroupRequest where
  name : WString
  data : List UInt8
  ctx : Context
  completion : Nat
deriving Repr, DecidableEq

inductive SendCallback where
  | nothing
  /-- Part of a `SendTo`: pass the result on. -/
  | sent (completion : Nat)
  /-- A notification of the other peers: count it, whatever the result. -/
  | notified (completion : Nat)
  /-- A request to a peer: wait for its ack, if it was sent. -/
  | requested (peerId : UInt32) (ackId : DWORD) (completion : Nat)
  /-- A request for a group ID: wait for the ack of the host. -/
  | groupRequested (hostId : DPNID) (ackId : DWORD) (request : GroupRequest)
deriving Repr, DecidableEq

inductive AckCallback where
  | complete (completion : Nat)
  | groupAllocated (request : GroupRequest)
deriving Repr, DecidableEq

structure PendingAck where
  addr : Nat
  callback : AckCallback
deriving Repr, DecidableEq

inductive Operation where
  | sendTo (flags : DWORD)
  | setPeerInfo
  | createGroup
  | destroyGroup
  | addPlayerToGroup
  | removePlayerFromGroup
deriving Repr, DecidableEq

/-- The counter and result the callbacks of one call share. -/
structure Completion where
  operation : Operation
  sync : Bool
  pending : UInt32
  result : HRESULT
  handle : DPNHANDLE
  ctx : Context
deriving Repr, DecidableEq

structure Work where
  payload : List UInt8
  flags : DWORD
  completion : Nat
deriving Repr, DecidableEq

/-!
## What happens
-/

/-- A message to the application's message handler, with the fields that are set. -/
inductive Notification where
  | addPlayerToGroup (group : DPNID) (groupCtx : Context) (player : DPNID)
      (playerCtx : Context)
  | applicationDesc
  | asyncOpComplete (handle : DPNHANDLE) (ctx : Context) (result : HRESULT)
  | connectComplete (handle : DPNHANDLE) (ctx : Context) (result : HRESULT)
      (localId : DPNID) (reply : List UInt8)
  | createGroup (group : DPNID) (groupCtx ownerCtx : Context)
  | createPlayer (player : DPNID) (playerCtx : Context)
  | destroyGroup (group : DPNID) (groupCtx : Context) (reason : DWORD)
  | destroyPlayer (player : DPNID) (playerCtx : Context) (reason : DWORD)
  | enumHostsQuery (sender : SockAddr) (data : List UInt8)
  | indicateConnect (sender : SockAddr) (data : List UInt8)
  | peerInfo (player : DPNID) (playerCtx : Context)
  | receive (sender : DPNID) (senderCtx : Context) (data : List UInt8)
      (flags : DWORD)
  | removePlayerFromGroup (group : DPNID) (groupCtx : Context) (player : DPNID)
      (playerCtx : Context)
  | returnBuffer
  | sendComplete (handle : DPNHANDLE) (ctx : Context) (result : HRESULT)
      (flags : DWORD)
  | terminateSession (result : HRESULT) (data : List UInt8)
deriving Repr, DecidableEq

/-- The assertions of the modelled functions, by the function they stand in. -/
inductive Assertion where
  | peerNotNull
  | ioPeerTriggered
  | handleHostConnectOk
  | handleHostConnectFail
  | handleConnectPeerOk
  | handleConnectPeerFail
  | connectCheck
  | connectFail
  | registerAck
  | peerShutdownAll
deriving Repr, DecidableEq

/-- The methods of the interface that change the state. -/
inductive Method where
  | initialiseObject
  | cancelAsyncOperation
  | connect
  | sendTo
  | host
  | setApplicationDesc
  | createGroup
  | destroyGroup
  | addPlayerToGroup
  | removePlayerFromGroup
  | setPeerInfo
  | close
  | enumHosts
  | destroyPeer
  | terminateSession
deriving Repr, DecidableEq

inductive Event where
  | entered (state : State)
  | raised (notification : Notification)
  | returned (method : Method) (result : HRESULT)
  | assertionFailed (assertion : Assertion)
  /-- `Connect` has got through `peer_connect`. -/
  | connectStarted
  | peerDeleted (peer : Nat)
  /-- An op was placed on the send queue of a peer. -/
  | queued (peer op : Nat)
  /-- The callback of an op was invoked, all its bytes having been sent or not. -/
  | resolved (op : Nat) (result : HRESULT) (sentAll : Bool)
  | ackRegistered (peer ack : Nat)
  | ackResolved (ack : Nat)
  /-- `recv` was called for a peer with so much room behind `recv_buf_cur`. -/
  | recvCalled (peer space : Nat)
  /-- `recv` has added bytes to the receive buffer of a peer. -/
  | received (peer : Nat) (bytes : List UInt8)
  /-- A packet from a peer was handed to its handler. -/
  | delivered (peer : Nat) (packet : List UInt8)
deriving Repr, DecidableEq

/-!
## Peers, groups and the object
-/

structure Peer where
  addr : Nat
  state : PeerState
  sock : Int
  ip : UInt32
  port : UInt16
  playerId : DPNID
  playerCtx : Context
  playerName : WString
  playerData : List UInt8
  recvBusy : Bool
  /-- The first `recv_buf_cur` bytes of `recv_buf`. -/
  recvBuf : List UInt8
  sq : SendQueue SendCallback
  sendOpen : Bool
  nextAckId : DWORD
  pendingAcks : ExtTreeMap DWORD PendingAck

/-- `Peer::Peer`.  The player ID and context are not initialised by the source. -/
def Peer.new (addr : Nat) (state : PeerState) (sock : Int) (ip : UInt32)
    (port : UInt16) : Peer where
  addr := addr
  state := state
  sock := sock
  ip := ip
  port := port
  playerId := 0
  playerCtx := contextNull
  playerName := []
  playerData := []
  recvBusy := false
  recvBuf := []
  sq := SendQueue.empty
  sendOpen := true
  nextAckId := 1
  pendingAcks := ∅

structure Group where
  name : WString
  data : List UInt8
  ctx : Context
  playerIds : ExtTreeSet DPNID

def Group.new (name : WString) (data : List UInt8)
    (ctx : Context) : Group where
  name := name
  data := data
  ctx := ctx
  playerIds := ∅

structure HandleAllocator where
  nextEnumId : DPNHANDLE
  nextConnectId : DPNHANDLE
  nextSendId : DPNHANDLE
  nextPinfoId : DPNHANDLE
  nextCgroupId : DPNHANDLE
  nextDgroupId : DPNHANDLE
  nextApgroupId : DPNHANDLE
  nextRpgroupId : DPNHANDLE
deriving Repr, DecidableEq

structure DirectPlay8Peer where
  state : State
  handleAlloc : HandleAllocator
  asyncHostEnums : ExtTreeSet DPNHANDLE
  syncHostEnums : Nat
  instanceGuid : GUID
  applicationGuid : GUID
  maxPlayers : DWORD
  sessionName : WString
  password : WString
  applicationData : List UInt8
  serviceProvider : GUID
  localIp : UInt32
  localPort : UInt16
  udpSocket : Int
  listenerSocket : Int
  discoverySocket : Int
  /-- `worker_pool != NULL`. -/
  workerPool : Bool
  /-- Worker threads that are inside a callback of the pool. -/
  activeWorkers : Nat
  workQueue : List Work
  udpSq : SendQueue SendCallback
  localPlayerId : DPNID
  localPlayerCtx : Context
  localPlayerName : WString
  localPlayerData : List UInt8
  nextPlayerId : DPNID
  hostPlayerId : DPNID
  nextPeerId : UInt32
  peers : ExtTreeMap UInt32 Peer
  playerToPeerId : ExtTreeMap DPNID UInt32
  groups : ExtTreeMap DPNID Group
  destroyedGroups : ExtTreeSet DPNID
  connectCtx : Context
  connectHandle : DPNHANDLE
  connectReqData : List UInt8
  connectResult : HRESULT
  connectReplyData : List UInt8
  /-- The shared counters of calls that have not completed. -/
  completions : ExtTreeMap Nat Completion
  /-- The next address `new` returns. -/
  nextAddr : Nat
  /-- What has happened, latest first. -/
  history : List Event

namespace DirectPlay8Peer

def getPeerByPeerId (s : DirectPlay8Peer) (peerId : UInt32) : Option Peer :=
  s.peers[peerId]?

def findPlayer (s : DirectPlay8Peer) (playerId : DPNID) :
    Option (UInt32 × Peer) :=
  s.playerToPeerId[playerId]?.bind fun peerId =>
    s.peers[peerId]?.map fun peer => (peerId, peer)

theorem findPlayer_peer {s : DirectPlay8Peer} {player : DPNID} {peerId : UInt32}
    {peer : Peer} (h : s.findPlayer player = some (peerId, peer)) :
    s.peers[peerId]? = some peer := by
  rcases Option.bind_eq_some_iff.mp h with ⟨found, _, hpeer⟩
  rcases Option.map_eq_some_iff.mp hpeer with ⟨peer', hpeer', hsame⟩
  cases hsame
  exact hpeer'

def getPeerByPlayerId (s : DirectPlay8Peer) (playerId : DPNID) :
    Option Peer :=
  (s.findPlayer playerId).map Prod.snd

def getGroupById (s : DirectPlay8Peer) (groupId : DPNID) : Option Group :=
  s.groups[groupId]?

def peerIdsIn (s : DirectPlay8Peer) (state : PeerState) : List UInt32 :=
  (s.peers.toList.filter fun (_, peer) => peer.state == state).map Prod.fst

/--
What the constructor of `DirectPlay8Peer` leaves.  The members it does not
initialise have any value.
-/
structure Constructed (s : DirectPlay8Peer) : Prop where
  state : s.state = .new
  handleAlloc : s.handleAlloc = ⟨1, 1, 1, 1, 1, 1, 1, 1⟩
  asyncHostEnums : s.asyncHostEnums = ∅
  syncHostEnums : s.syncHostEnums = 0
  sessionName : s.sessionName = []
  password : s.password = []
  applicationData : s.applicationData = []
  udpSocket : s.udpSocket = -1
  listenerSocket : s.listenerSocket = -1
  discoverySocket : s.discoverySocket = -1
  workerPool : s.workerPool = false
  activeWorkers : s.activeWorkers = 0
  workQueue : s.workQueue = []
  udpSq : s.udpSq = SendQueue.empty
  localPlayerName : s.localPlayerName = []
  localPlayerData : s.localPlayerData = []
  peers : s.peers = ∅
  playerToPeerId : s.playerToPeerId = ∅
  groups : s.groups = ∅
  destroyedGroups : s.destroyedGroups = ∅
  connectReqData : s.connectReqData = []
  connectReplyData : s.connectReplyData = []
  completions : s.completions = ∅
  history : s.history = []

/-- An object whose uninitialised members happen to be zero. -/
def zeroed : DirectPlay8Peer where
  state := .new
  handleAlloc := ⟨1, 1, 1, 1, 1, 1, 1, 1⟩
  asyncHostEnums := ∅
  syncHostEnums := 0
  instanceGuid := guidNull
  applicationGuid := guidNull
  maxPlayers := 0
  sessionName := []
  password := []
  applicationData := []
  serviceProvider := guidNull
  localIp := 0
  localPort := 0
  udpSocket := -1
  listenerSocket := -1
  discoverySocket := -1
  workerPool := false
  activeWorkers := 0
  workQueue := []
  udpSq := SendQueue.empty
  localPlayerId := 0
  localPlayerCtx := contextNull
  localPlayerName := []
  localPlayerData := []
  nextPlayerId := 0
  hostPlayerId := 0
  nextPeerId := 0
  peers := ∅
  playerToPeerId := ∅
  groups := ∅
  destroyedGroups := ∅
  connectCtx := contextNull
  connectHandle := 0
  connectReqData := []
  connectResult := sOk
  connectReplyData := []
  completions := ∅
  nextAddr := 0
  history := []

theorem zeroed_constructed : zeroed.Constructed := by
  constructor <;> rfl

end DirectPlay8Peer
end DirectPlayLite
