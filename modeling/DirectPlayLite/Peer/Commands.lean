import DirectPlayLite.Peer.State

/-!
# Changes of the state

Every assignment the source makes to a member, a peer or a group is one command.
What a command allocates gets the next address, and what it does to send queues,
acks and receive buffers it also writes into the history.
-/

namespace DirectPlayLite

open Std

inductive PeerCommand where
  | setState (state : PeerState)
  | setPlayerId (playerId : DPNID)
  | setPlayerCtx (ctx : Context)
  | setPlayerInfo (name : WString) (data : List UInt8)
  | setSendOpen (isOpen : Bool)
  | setRecvBusy (busy : Bool)
  /-- `recv_buf_cur += r`, for the bytes `recv` has put there. -/
  | appendRecv (bytes : List UInt8)
  /-- Drop a packet from the front of the receive buffer. -/
  | shiftRecv (size : Nat)
  | send (priority : SendPriority) (packet : List UInt8) (handle : DPNHANDLE)
      (callback : SendCallback)
  | getPending
  | popPending
  | incSentData (sent : Nat)
  | removeQueued (wanted : SendQueue.Wanted)
  | allocAckId
  | registerAck (ackId : DWORD) (callback : AckCallback)
  | eraseAck (ackId : DWORD)
deriving Repr, DecidableEq

inductive GroupCommand where
  | setCtx (ctx : Context)
  | insertPlayer (player : DPNID)
  | erasePlayer (player : DPNID)
deriving Repr, DecidableEq

/-- Changes of the counter and result of a call. -/
inductive CompletionCommand where
  | increment
  | decrement
  | setResult (result : HRESULT)
  | delete
deriving Repr, DecidableEq

inductive SessionCommand where
  | setInstanceGuid (guid : GUID)
  | setApplicationGuid (guid : GUID)
  | setMaxPlayers (count : DWORD)
  | setSessionName (name : WString)
  | setPassword (password : WString)
  | setApplicationData (data : List UInt8)
  | setServiceProvider (guid : GUID)
deriving Repr, DecidableEq

/-- Changes of what belongs to a `Connect` call. -/
inductive ConnectCommand where
  | setCall (ctx : Context) (handle : DPNHANDLE)
  | setReqData (data : List UInt8)
  | setResult (result : HRESULT)
  | setReplyData (data : List UInt8)
deriving Repr, DecidableEq

/-- Changes of what describes the local player. -/
inductive LocalCommand where
  | setPlayerId (playerId : DPNID)
  | setPlayerCtx (ctx : Context)
  | setPlayerName (name : WString)
  | setPlayerData (data : List UInt8)
deriving Repr, DecidableEq

inductive MainSocket where
  | udp
  | listener
  | discovery
deriving Repr, DecidableEq

inductive HandleType where
  | enum
  | connect
  | send
  | pinfo
  | cgroup
  | dgroup
  | apgroup
  | rpgroup
deriving Repr, DecidableEq

inductive Command where
  | setState (state : State)
  | log (event : Event)
  | peer (peerId : UInt32) (change : PeerCommand)
  /-- `peers.insert`, with the peer `new` has made. -/
  | insertPeer (peerId : UInt32) (state : PeerState) (sock : Int) (ip : UInt32)
      (port : UInt16) (playerId : DPNID)
  | erasePeer (peerId : UInt32)
  | allocPeerId
  | mapPlayer (playerId : DPNID) (peerId : UInt32)
  | unmapPlayer (playerId : DPNID)
  | allocPlayerId
  | setNextPlayerId (playerId : DPNID)
  | setHostPlayerId (playerId : DPNID)
  | local (change : LocalCommand)
  | group (groupId : DPNID) (change : GroupCommand)
  /-- `groups.emplace`. -/
  | emplaceGroup (groupId : DPNID) (name : WString) (data : List UInt8)
      (ctx : Context)
  | eraseGroup (groupId : DPNID)
  | insertDestroyedGroup (groupId : DPNID)
  | clearDestroyedGroups
  | session (change : SessionCommand)
  | connect (change : ConnectCommand)
  | setSocket (which : MainSocket) (sock : Int)
  | setLocalAddress (ip : UInt32) (port : UInt16)
  | setWorkerPool (present : Bool)
  | enterWorker
  | leaveWorker
  | newCompletion (completion : Completion)
  | completion (addr : Nat) (change : CompletionCommand)
  | pushWork (work : Work)
  | popWork
  | udpSend (packet : List UInt8) (dest : SockAddr)
  | udpGetPending
  | udpPopPending
  | udpRemoveQueued (handle : DPNHANDLE)
  | allocHandle (type : HandleType)
  | insertHostEnum (handle : DPNHANDLE)
  | eraseHostEnum (handle : DPNHANDLE)
  | addSyncHostEnum
  | removeSyncHostEnum
deriving Repr, DecidableEq

/-!
## Their effect
-/

namespace PeerCommand

/-- The address the change gives to what it allocates, if it does. -/
def allocates : PeerCommand -> Bool
  | send .. => true
  | registerAck .. => true
  | _ => false

def events (peer addr : Nat) : PeerCommand -> List Event
  | send .. => [.queued peer addr]
  | registerAck .. => [.ackRegistered peer addr]
  | appendRecv bytes => [.received peer bytes]
  | _ => []

def apply (addr : Nat) (peer : Peer) : PeerCommand -> Peer
  | setState state => { peer with state := state }
  | setPlayerId playerId => { peer with playerId := playerId }
  | setPlayerCtx ctx => { peer with playerCtx := ctx }
  | setPlayerInfo name data =>
      { peer with playerName := name, playerData := data }
  | setSendOpen isOpen => { peer with sendOpen := isOpen }
  | setRecvBusy busy => { peer with recvBusy := busy }
  | appendRecv bytes => { peer with recvBuf := peer.recvBuf ++ bytes }
  | shiftRecv size => { peer with recvBuf := peer.recvBuf.drop size }
  | send priority packet handle callback =>
      { peer with
        sq := peer.sq.send priority ⟨addr, packet, 0, none, handle, callback⟩ }
  | getPending => { peer with sq := peer.sq.getPending }
  | popPending => { peer with sq := peer.sq.popPending }
  | incSentData sent => { peer with sq := peer.sq.incSentData sent }
  | removeQueued wanted =>
      { peer with sq := ((peer.sq.remove wanted).map Prod.snd).getD peer.sq }
  | allocAckId =>
      -- the ID 0 is skipped when the counter wraps
      { peer with
        nextAckId :=
          if peer.nextAckId + 1 = 0 then 1 else peer.nextAckId + 1 }
  | registerAck ackId callback =>
      { peer with
        pendingAcks := peer.pendingAcks.insertIfNew ackId ⟨addr, callback⟩ }
  | eraseAck ackId => { peer with pendingAcks := peer.pendingAcks.erase ackId }

end PeerCommand

namespace GroupCommand

def apply (group : Group) : GroupCommand -> Group
  | setCtx ctx => { group with ctx := ctx }
  | insertPlayer player =>
      { group with playerIds := group.playerIds.insert player }
  | erasePlayer player =>
      { group with playerIds := group.playerIds.erase player }

end GroupCommand

namespace CompletionCommand

def apply (completion : Completion) : CompletionCommand -> Option Completion
  | increment => some { completion with pending := completion.pending + 1 }
  | decrement => some { completion with pending := completion.pending - 1 }
  | setResult result => some { completion with result := result }
  | delete => none

end CompletionCommand

namespace SessionCommand

def apply (s : DirectPlay8Peer) : SessionCommand -> DirectPlay8Peer
  | setInstanceGuid guid => { s with instanceGuid := guid }
  | setApplicationGuid guid => { s with applicationGuid := guid }
  | setMaxPlayers count => { s with maxPlayers := count }
  | setSessionName name => { s with sessionName := name }
  | setPassword password => { s with password := password }
  | setApplicationData data => { s with applicationData := data }
  | setServiceProvider guid => { s with serviceProvider := guid }

end SessionCommand

namespace ConnectCommand

def apply (s : DirectPlay8Peer) : ConnectCommand -> DirectPlay8Peer
  | setCall ctx handle => { s with connectCtx := ctx, connectHandle := handle }
  | setReqData data => { s with connectReqData := data }
  | setResult result => { s with connectResult := result }
  | setReplyData data => { s with connectReplyData := data }

end ConnectCommand

namespace LocalCommand

def apply (s : DirectPlay8Peer) : LocalCommand -> DirectPlay8Peer
  | setPlayerId playerId => { s with localPlayerId := playerId }
  | setPlayerCtx ctx => { s with localPlayerCtx := ctx }
  | setPlayerName name => { s with localPlayerName := name }
  | setPlayerData data => { s with localPlayerData := data }

end LocalCommand

namespace HandleAllocator

def typeMask : DPNHANDLE := 0xE0000000

def typeBits : HandleType -> DPNHANDLE
  | .enum => 0x00000000
  | .connect => 0x20000000
  | .send => 0x40000000
  | .pinfo => 0x60000000
  | .cgroup => 0x80000000
  | .dgroup => 0xA0000000
  | .apgroup => 0xC0000000
  | .rpgroup => 0xE0000000

def next (alloc : HandleAllocator) : HandleType -> DPNHANDLE
  | .enum => alloc.nextEnumId
  | .connect => alloc.nextConnectId
  | .send => alloc.nextSendId
  | .pinfo => alloc.nextPinfoId
  | .cgroup => alloc.nextCgroupId
  | .dgroup => alloc.nextDgroupId
  | .apgroup => alloc.nextApgroupId
  | .rpgroup => alloc.nextRpgroupId

def handle (alloc : HandleAllocator) (type : HandleType) : DPNHANDLE :=
  alloc.next type ||| typeBits type

def bump (counter : DPNHANDLE) : DPNHANDLE :=
  if (counter + 1) &&& ~~~typeMask = 0 then 1 else (counter + 1) &&& ~~~typeMask

def advance (alloc : HandleAllocator) : HandleType -> HandleAllocator
  | .enum => { alloc with nextEnumId := bump alloc.nextEnumId }
  | .connect => { alloc with nextConnectId := bump alloc.nextConnectId }
  | .send => { alloc with nextSendId := bump alloc.nextSendId }
  | .pinfo => { alloc with nextPinfoId := bump alloc.nextPinfoId }
  | .cgroup => { alloc with nextCgroupId := bump alloc.nextCgroupId }
  | .dgroup => { alloc with nextDgroupId := bump alloc.nextDgroupId }
  | .apgroup => { alloc with nextApgroupId := bump alloc.nextApgroupId }
  | .rpgroup => { alloc with nextRpgroupId := bump alloc.nextRpgroupId }

end HandleAllocator

namespace Command

def applyPeer (s : DirectPlay8Peer) (peerId : UInt32)
    (change : PeerCommand) : DirectPlay8Peer :=
  match s.peers[peerId]? with
  | none => s
  | some found =>
      { s with
        peers := s.peers.insert peerId (change.apply s.nextAddr found)
        nextAddr := if change.allocates then s.nextAddr + 1 else s.nextAddr
        history := change.events found.addr s.nextAddr ++ s.history }

def apply (command : Command) (s : DirectPlay8Peer) : DirectPlay8Peer :=
  match command with
  | setState state =>
      { s with state := state, history := .entered state :: s.history }
  | log event => { s with history := event :: s.history }
  | peer peerId change => applyPeer s peerId change
  | insertPeer peerId state sock ip port playerId =>
      -- `insert` keeps a peer that already has the ID
      { s with
        peers := s.peers.insertIfNew peerId
          { Peer.new s.nextAddr state sock ip port with playerId := playerId }
        nextAddr := s.nextAddr + 1 }
  | erasePeer peerId =>
      { s with
        peers := s.peers.erase peerId
        history :=
          ((s.peers[peerId]?).map fun found => Event.peerDeleted found.addr).toList
            ++ s.history }
  | allocPeerId => { s with nextPeerId := s.nextPeerId + 1 }
  | mapPlayer playerId peerId =>
      { s with playerToPeerId := s.playerToPeerId.insert playerId peerId }
  | unmapPlayer playerId =>
      { s with playerToPeerId := s.playerToPeerId.erase playerId }
  | allocPlayerId => { s with nextPlayerId := s.nextPlayerId + 1 }
  | setNextPlayerId playerId => { s with nextPlayerId := playerId }
  | setHostPlayerId playerId => { s with hostPlayerId := playerId }
  | .local change => change.apply s
  | group groupId change =>
      { s with groups := s.groups.modify groupId (change.apply ·) }
  | emplaceGroup groupId name data ctx =>
      { s with groups := s.groups.insertIfNew groupId (Group.new name data ctx) }
  | eraseGroup groupId => { s with groups := s.groups.erase groupId }
  | insertDestroyedGroup groupId =>
      { s with destroyedGroups := s.destroyedGroups.insert groupId }
  | clearDestroyedGroups => { s with destroyedGroups := ∅ }
  | session change => change.apply s
  | connect change => change.apply s
  | setSocket .udp sock => { s with udpSocket := sock }
  | setSocket .listener sock => { s with listenerSocket := sock }
  | setSocket .discovery sock => { s with discoverySocket := sock }
  | setLocalAddress ip port => { s with localIp := ip, localPort := port }
  | setWorkerPool present => { s with workerPool := present }
  | enterWorker => { s with activeWorkers := s.activeWorkers + 1 }
  | leaveWorker => { s with activeWorkers := s.activeWorkers - 1 }
  | newCompletion made =>
      { s with
        completions := s.completions.insert s.nextAddr made
        nextAddr := s.nextAddr + 1 }
  | completion addr change =>
      { s with
        completions := s.completions.alter addr (·.bind (change.apply ·)) }
  | pushWork work => { s with workQueue := s.workQueue ++ [work] }
  | popWork => { s with workQueue := s.workQueue.tail }
  | udpSend packet dest =>
      { s with
        udpSq := s.udpSq.send .medium ⟨s.nextAddr, packet, 0, some dest, 0, .nothing⟩
        nextAddr := s.nextAddr + 1 }
  | udpGetPending => { s with udpSq := s.udpSq.getPending }
  | udpPopPending => { s with udpSq := s.udpSq.popPending }
  | udpRemoveQueued handle =>
      { s with
        udpSq := ((s.udpSq.removeQueuedByHandle handle).map Prod.snd).getD s.udpSq }
  | allocHandle type => { s with handleAlloc := s.handleAlloc.advance type }
  | insertHostEnum handle =>
      { s with asyncHostEnums := s.asyncHostEnums.insert handle }
  | eraseHostEnum handle =>
      { s with asyncHostEnums := s.asyncHostEnums.erase handle }
  | addSyncHostEnum => { s with syncHostEnums := s.syncHostEnums + 1 }
  | removeSyncHostEnum => { s with syncHostEnums := s.syncHostEnums - 1 }

end Command
end DirectPlayLite
