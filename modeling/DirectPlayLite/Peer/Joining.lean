import DirectPlayLite.Peer.Sockets

/-!
# Joining a session

The packets by which hosts are found, a client joins at the host and then
connects to the other peers.  The handlers of `CONNECT_HOST`, `CONNECT_HOST_OK`,
`CONNECT_PEER` and `CONNECT_PEER_OK` read the packet without a `try` block, and
all of it before they first release the lock.
-/

namespace DirectPlayLite

open Monitor Std

namespace Action

def nullOr {α : Type} (pd : PacketDeserialiser) (index : Nat) (absent : α)
    (field : Except PacketError α) : Except PacketError α := do
  if ← pd.isNull index then pure absent else field

/-!
## Finding hosts
-/

def hostEnumResponsePacket (s : DirectPlay8Peer) (responseData : List UInt8)
    (reqTick : DWORD) : PacketSerialiser :=
  serialise msgidHostEnumResponse
    [.dword (if s.password = [] then 0 else dpnSessionRequirePassword),
     .guid s.instanceGuid,
     .guid s.applicationGuid,
     .dword s.maxPlayers,
     .dword (UInt32.ofNat (s.playerToPeerId.size + 1)),
     .wstring s.sessionName,
     if s.applicationData ≠ [] then .data s.applicationData else .null,
     if responseData ≠ [] then .data responseData else .null,
     .dword reqTick]

def returnBuffer (supplied : List UInt8) : Action Unit :=
  onlyIf (supplied ≠ []) do
    let _ ← raise .returnBuffer
    pure ()

def handleHostEnumRequest (pd : PacketDeserialiser)
    (sender : SockAddr) : Action Unit := do
  let s ← get
  if s.state ≠ .hosting then pure ()
  else do
    let wanted ← fetch (nullOr pd 0 s.applicationGuid (pd.getGuid 0))
    if s.applicationGuid ≠ wanted then pure ()
    else do
      let data ← fetch (nullOr pd 1 [] (pd.getData 1))
      let reqTick ← fetch (pd.getDword 2)
      let ehq ← raise (.enumHostsQuery sender data)
      returnBuffer ehq.bytes
      let s ← get
      if s.state ≠ .hosting then pure ()
      else do
        let response := hostEnumResponsePacket s ehq.bytes reqTick
        onlyIf (ehq.result = dpnOk) (perform (.udpSend response.rawPacket sender))

/-!
## A client joins at the host
-/

def sendConnectHostFail (peerId : UInt32) (error : HRESULT)
    (data : List UInt8) : Action Unit := do
  sendPacket peerId .medium
    (serialise msgidConnectHostFail
      [.dword error, if data ≠ [] then .data data else .null])
    .nothing
  ofPeer peerId (.setState .closing)

def liveGroups (s : DirectPlay8Peer) : List (DPNID × Group) :=
  s.groups.toList.filter fun (groupId, _) => ! s.destroyedGroups.contains groupId

/-- The groups among them that the local player is in. -/
def memberGroupIds (s : DirectPlay8Peer) : List DPNID :=
  ((liveGroups s).filter fun (_, group) =>
    group.playerIds.contains s.localPlayerId).map Prod.fst

/-- Tell a new player about the groups that are gone and those that exist. -/
def sendGroups (peerId : UInt32) : Action Unit := do
  let s ← get
  forEach (fun groupId =>
      sendPacket peerId .high (groupDestroyPacket groupId) .nothing)
    s.destroyedGroups.toList
  forEach (fun (groupId, group) =>
      sendPacket peerId .high (groupCreatePacket groupId group.name group.data)
        .nothing)
    (liveGroups s)

def otherPeers (s : DirectPlay8Peer) (peerId : UInt32) : List Peer :=
  (s.peers.toList.filter fun (otherId, peer) =>
    otherId != peerId && peer.state == .connected).map Prod.snd

def connectHostOkFields (s : DirectPlay8Peer) (peerId : UInt32)
    (playerId : DPNID) (replyData : List UInt8) : List Append :=
  [.guid s.instanceGuid,
   .dword s.hostPlayerId,
   .dword playerId,
   .dword (UInt32.ofNat s.playerToPeerId.size - 1)]
  ++ (otherPeers s peerId).flatMap (fun peer =>
    [.dword peer.playerId, .dword peer.ip, .dword peer.port.toUInt32])
  ++ [if replyData ≠ [] then .data replyData else .null,
   .wstring s.localPlayerName,
   .data s.localPlayerData,
   .dword s.maxPlayers,
   .wstring s.sessionName,
   .wstring s.password,
   .data s.applicationData,
   .dword (UInt32.ofNat (memberGroupIds s).length)]
  ++ (memberGroupIds s).map .dword

def connectHostOkPacket (s : DirectPlay8Peer) (peerId : UInt32)
    (playerId : DPNID) (replyData : List UInt8) : PacketSerialiser :=
  serialise msgidConnectHostOk (connectHostOkFields s peerId playerId replyData)

inductive ConnectHost where
  | rejected (error : HRESULT)
  | accepted (name : WString) (playerData connectData : List UInt8)
deriving Repr, DecidableEq

/-- Check the GUIDs and the password, then read the rest of the packet. -/
def decodeConnectHost (s : DirectPlay8Peer) (pd : PacketDeserialiser) :
    Except PacketError ConnectHost := do
  let reqInstance ← nullOr pd 0 s.instanceGuid (pd.getGuid 0)
  if reqInstance ≠ s.instanceGuid then
    return .rejected dpnErrInvalidInstance
  let reqApplication ← pd.getGuid 1
  if reqApplication ≠ s.applicationGuid then
    return .rejected dpnErrInvalidApplication
  let reqPassword ← nullOr pd 2 [] (pd.getWstring 2)
  if reqPassword ≠ s.password then
    return .rejected dpnErrInvalidPassword
  let name ← pd.getWstring 4
  let playerData ← pd.getData 5
  let connectData ← nullOr pd 3 [] (pd.getData 3)
  return .accepted name playerData connectData

def admitPlayer (peerId : UInt32) (ic : Answer) : Action Unit := do
  let s ← get
  let playerId := s.nextPlayerId
  perform .allocPlayerId
  ofPeer peerId (.setPlayerId playerId)
  ofPeer peerId (.setPlayerCtx ic.ctx)
  perform (.mapPlayer playerId peerId)
  ofPeer peerId (.setState .connected)
  sendGroups peerId
  let s ← get
  sendPacket peerId .medium (connectHostOkPacket s peerId playerId ic.bytes)
    .nothing
  let cp ← raise (.createPlayer playerId ic.ctx)
  renewPeer peerId fun _ => ofPeer peerId (.setPlayerCtx cp.ctx)

def handleHostConnectRequest (peerId : UInt32)
    (pd : PacketDeserialiser) : Action Unit := do
  let peer ← assertedPeer peerId
  let s ← get
  if peer.state ≠ .accepted then pure ()
  else if s.state ≠ .hosting then
    sendConnectHostFail peerId dpnErrNotHost []
  else do
    match ← fetch (decodeConnectHost s pd) with
    | .rejected error => sendConnectHostFail peerId error []
    | .accepted name playerData connectData => do
        ofPeer peerId (.setPlayerInfo name playerData)
        ofPeer peerId (.setState .indicating)
        let ic ← raise (.indicateConnect ⟨peer.ip, peer.port⟩ connectData)
        returnBuffer ic.bytes
        renewPeer peerId fun _ =>
          if ic.result = dpnOk then admitPlayer peerId ic
          else sendConnectHostFail peerId dpnErrHostRejectedConnection ic.bytes

/-!
## The host has accepted us
-/

def readDwords (pd : PacketDeserialiser) (index : Nat) :
    Nat -> Except PacketError (List DWORD)
  | 0 => pure []
  | count + 1 => do
      let word ← pd.getDword index
      let rest ← readDwords pd (index + 1) count
      pure (word :: rest)

/-- Another peer of the session, as the host lists it. -/
structure PeerEntry where
  playerId : DPNID
  ip : UInt32
  port : DWORD
deriving Repr, DecidableEq

def readPeers (pd : PacketDeserialiser) (index : Nat) :
    Nat -> Except PacketError (List PeerEntry)
  | 0 => pure []
  | count + 1 => do
      let playerId ← pd.getDword index
      let ip ← pd.getDword (index + 1)
      let port ← pd.getDword (index + 2)
      let rest ← readPeers pd (index + 3) count
      pure (⟨playerId, ip, port⟩ :: rest)

structure ConnectHostOk where
  instanceGuid : GUID
  hostPlayerId : DPNID
  localPlayerId : DPNID
  otherPeers : List PeerEntry
  replyData : List UInt8
  hostName : WString
  hostData : List UInt8
  maxPlayers : DWORD
  sessionName : WString
  password : WString
  applicationData : List UInt8
  groups : List DPNID
deriving Repr, DecidableEq

def decodeConnectHostOk (pd : PacketDeserialiser) :
    Except PacketError ConnectHostOk := do
  let instanceGuid ← pd.getGuid 0
  let hostPlayerId ← pd.getDword 1
  let localPlayerId ← pd.getDword 2
  let nOtherPeers ← pd.getDword 3
  let otherPeers ← readPeers pd 4 nOtherPeers.toNat
  let afterPeersBase := 4 + nOtherPeers.toNat * 3
  let replyData ← nullOr pd afterPeersBase [] (pd.getData afterPeersBase)
  let hostName ← pd.getWstring (afterPeersBase + 1)
  let hostData ← pd.getData (afterPeersBase + 2)
  let maxPlayers ← pd.getDword (afterPeersBase + 3)
  let sessionName ← pd.getWstring (afterPeersBase + 4)
  let password ← pd.getWstring (afterPeersBase + 5)
  let applicationData ← pd.getData (afterPeersBase + 6)
  let peerGroupCount ← pd.getDword (afterPeersBase + 7)
  let groups ← readDwords pd (afterPeersBase + 8) peerGroupCount.toNat
  return { instanceGuid, hostPlayerId, localPlayerId, otherPeers, replyData,
           hostName, hostData, maxPlayers, sessionName, password,
           applicationData, groups }

/-- Put a new player into the groups it has named, one after another. -/
def joinGroups (peerId : UInt32) (next : Action Unit) :
    List DPNID -> Action Unit
  | [] => next
  | groupId :: rest => do
      let peer ← peerAt peerId .useAfterFree
      let s ← get
      match s.groups[groupId]? with
      | none => joinGroups peerId next rest
      | some group =>
          if s.destroyedGroups.contains groupId ∨
              group.playerIds.contains peer.playerId then
            joinGroups peerId next rest
          else do
            perform (.group groupId (.insertPlayer peer.playerId))
            let _ ← raise (.addPlayerToGroup groupId group.ctx peer.playerId
              peer.playerCtx)
            renewPeer peerId fun _ => joinGroups peerId next rest

/-- The distinct group IDs of a packet in ascending order. -/
def groupSet (groups : List DPNID) : List DPNID :=
  (ExtTreeSet.ofList groups).toList

def connectToPeers : List PeerEntry -> Action Unit
  | [] => invoke .connectCheck
  | entry :: rest => do
      let started ← peerConnect .connectingPeer
        ⟨entry.ip, entry.port.toUInt16⟩ entry.playerId
      if started then connectToPeers rest
      else invoke (.connectFail dpnErrPlayerNotReachable [])

def handleHostConnectOk (peerId : UInt32)
    (pd : PacketDeserialiser) : Action Unit := do
  let peer ← assertedPeer peerId
  let s ← get
  if peer.state ≠ .requestingHost then pure ()
  else do
    assertThat .handleHostConnectOk (s.state = .connectingToHost)
    let ok ← fetch (decodeConnectHostOk pd)
    perform (.session (.setInstanceGuid ok.instanceGuid))
    perform (.setHostPlayerId ok.hostPlayerId)
    ofPeer peerId (.setPlayerId ok.hostPlayerId)
    perform (.mapPlayer ok.hostPlayerId peerId)
    perform (.local (.setPlayerId ok.localPlayerId))
    perform (.connect (.setReplyData ok.replyData))
    ofPeer peerId (.setPlayerInfo ok.hostName ok.hostData)
    perform (.session (.setMaxPlayers ok.maxPlayers))
    perform (.session (.setSessionName ok.sessionName))
    perform (.session (.setPassword ok.password))
    perform (.session (.setApplicationData ok.applicationData))
    ofPeer peerId (.setState .connected)
    perform (.setState .connectingToPeers)
    let s ← get
    let cp ← raise (.createPlayer s.localPlayerId s.localPlayerCtx)
    perform (.local (.setPlayerCtx cp.ctx))
    -- the peer is used again without checking that it is still there
    let peer ← peerAt peerId .useAfterFree
    let cp ← raise (.createPlayer peer.playerId contextNull)
    renewPeer peerId fun _ => do
      ofPeer peerId (.setPlayerCtx cp.ctx)
      joinGroups peerId (connectToPeers ok.otherPeers) (groupSet ok.groups)

def decodeConnectHostFail (pd : PacketDeserialiser) : HRESULT × List UInt8 :=
  match pd.getDword 0 with
  | .error _ => (dpnErrGeneric, [])
  | .ok result =>
      match nullOr pd 1 [] (pd.getData 1) with
      | .error _ => (result, [])
      | .ok reply => (result, reply)

def handleHostConnectFail (peerId : UInt32)
    (pd : PacketDeserialiser) : Action Unit := do
  let peer ← assertedPeer peerId
  let s ← get
  if peer.state ≠ .requestingHost then pure ()
  else do
    assertThat .handleHostConnectFail (s.state = .connectingToHost)
    invoke (.connectFail (decodeConnectHostFail pd).1
      (decodeConnectHostFail pd).2)

/-!
## Connections between peers
-/

def sendConnectPeerFail (peerId : UInt32) (error : HRESULT) : Action Unit := do
  sendPacket peerId .high (serialise msgidConnectPeerFail [.dword error]) .nothing
  ofPeer peerId (.setState .closing)

inductive ConnectPeer where
  | rejected (error : HRESULT)
  | accepted (playerId : DPNID) (name : WString) (playerData : List UInt8)
deriving Repr, DecidableEq

def decodeConnectPeer (s : DirectPlay8Peer) (pd : PacketDeserialiser) :
    Except PacketError ConnectPeer := do
  let reqInstance ← pd.getGuid 0
  if reqInstance ≠ s.instanceGuid then
    return .rejected dpnErrInvalidInstance
  let reqApplication ← pd.getGuid 1
  if reqApplication ≠ s.applicationGuid then
    return .rejected dpnErrInvalidApplication
  let reqPassword ← pd.getWstring 2
  if reqPassword ≠ s.password then
    return .rejected dpnErrInvalidPassword
  let playerId ← pd.getDword 3
  let name ← pd.getWstring 4
  let playerData ← pd.getData 5
  return .accepted playerId name playerData

def connectPeerOkPacket (s : DirectPlay8Peer) : PacketSerialiser :=
  serialise msgidConnectPeerOk
    ([.wstring s.localPlayerName, .data s.localPlayerData,
      .dword (UInt32.ofNat (memberGroupIds s).length)]
      ++ (memberGroupIds s).map .dword)

def handleConnectPeer (peerId : UInt32)
    (pd : PacketDeserialiser) : Action Unit := do
  let peer ← assertedPeer peerId
  let s ← get
  if peer.state ≠ .accepted then pure ()
  else if s.state ≠ .connected then sendConnectPeerFail peerId dpnErrGeneric
  else do
    match ← fetch (decodeConnectPeer s pd) with
    | .rejected error => sendConnectPeerFail peerId error
    | .accepted playerId name playerData => do
        ofPeer peerId (.setPlayerId playerId)
        ofPeer peerId (.setPlayerInfo name playerData)
        if s.playerToPeerId.contains playerId then
          sendConnectPeerFail peerId dpnErrAlreadyConnected
        else do
          perform (.mapPlayer playerId peerId)
          ofPeer peerId (.setState .connected)
          sendGroups peerId
          sendPacket peerId .high (connectPeerOkPacket s) .nothing
          let cp ← raise (.createPlayer playerId contextNull)
          renewPeer peerId fun _ => ofPeer peerId (.setPlayerCtx cp.ctx)

structure ConnectPeerOk where
  name : WString
  playerData : List UInt8
  groups : List DPNID
deriving Repr, DecidableEq

def decodeConnectPeerOk (pd : PacketDeserialiser) :
    Except PacketError ConnectPeerOk := do
  let name ← pd.getWstring 0
  let playerData ← pd.getData 1
  let peerGroupCount ← pd.getDword 2
  let groups ← readDwords pd 3 peerGroupCount.toNat
  return { name, playerData, groups }

def handleConnectPeerOk (peerId : UInt32)
    (pd : PacketDeserialiser) : Action Unit := do
  let peer ← assertedPeer peerId
  let s ← get
  if peer.state ≠ .requestingPeer then pure ()
  else do
    assertThat .handleConnectPeerOk (s.state = .connectingToPeers)
    let ok ← fetch (decodeConnectPeerOk pd)
    ofPeer peerId (.setPlayerInfo ok.name ok.playerData)
    ofPeer peerId (.setState .connected)
    perform (.mapPlayer peer.playerId peerId)
    let cp ← raise (.createPlayer peer.playerId contextNull)
    renewPeer peerId fun _ => do
      ofPeer peerId (.setPlayerCtx cp.ctx)
      joinGroups peerId (invoke .connectCheck) (groupSet ok.groups)

def handleConnectPeerFail (peerId : UInt32)
    (_ : PacketDeserialiser) : Action Unit := do
  let peer ← assertedPeer peerId
  let s ← get
  if peer.state ≠ .requestingPeer then pure ()
  else do
    assertThat .handleConnectPeerFail (s.state = .connectingToPeers)
    invoke (.connectFail dpnErrPlayerNotReachable [])

end Action
end DirectPlayLite
