import DirectPlayLite.Peer.Messages

/-!
# Methods of the interface

The methods of `IDirectPlay8Peer` that change the object.  Those that only read
it (the `Get` and `Enum` methods) and those that are not implemented are left
out.
-/

namespace DirectPlayLite

open Monitor

namespace Action

def initialiseObject : Action Unit := do
  let s ← get
  if s.state ≠ .new then returns .initialiseObject dpnErrAlreadyInitialized
  else do
    let startup ← query .wsaStartup
    if startup.ret ≠ 0 then returns .initialiseObject dpnErrGeneric
    else do
      perform (.setWorkerPool true)
      perform (.setState .initialised)
      returns .initialiseObject sOk

/-!
## Cancelling
-/

/-- Invoke the callback of an op that was taken out of a queue. -/
def cancelOp (op : SendOp SendCallback) : Action Unit := do
  log (.resolved op.addr dpnErrUserCancel (sentAll op))
  invoke (.invokeCallback op.callback dpnErrUserCancel)

def cancelQueued (peerId : UInt32) (wanted : SendQueue.Wanted)
    (op : SendOp SendCallback) : Action Unit := do
  ofPeer peerId (.removeQueued wanted)
  cancelOp op

/-- The priorities `DPNCANCEL_PLAYER_SENDS` flags select, in the order tried. -/
def cancelledPriorities (flags : DWORD) : List SendPriority :=
  let sendFlags := flags &&& (dpnCancelPlayerSendsPriorityLow |||
    dpnCancelPlayerSendsPriorityNormal ||| dpnCancelPlayerSendsPriorityHigh)
  let selects := fun flag : DWORD =>
    sendFlags = dpnCancelPlayerSends ∨ sendFlags &&& flag = flag
  (if selects dpnCancelPlayerSendsPriorityLow then [.low] else [])
    ++ (if selects dpnCancelPlayerSendsPriorityNormal then [.medium] else [])
    ++ (if selects dpnCancelPlayerSendsPriorityHigh then [.high] else [])

/-- The loop of `CancelAsyncOperation` over the sends to one player. -/
def cancelPlayerSends (player : DPNID) (flags : DWORD) : Action Unit := do
  let s ← get
  match s.findPlayer player with
  | none => pure ()
  | some (peerId, peer) =>
      let found := (cancelledPriorities flags).findSome? fun priority =>
        (peer.sq.removeQueuedByPriority priority).map fun (op, _) =>
          (priority, op)
      match found with
      | none => pure ()
      | some (priority, op) => do
          cancelQueued peerId (.priority priority) op
          invoke (.cancelPlayerSends player flags)

/-- The loop of `CancelAsyncOperation` over the sends to all peers. -/
def cancelAllSends : Action Unit := do
  let s ← get
  let found := s.peers.toList.findSome? fun (peerId, peer) =>
    peer.sq.removeQueued.map fun (op, _) => (peerId, op)
  match found with
  | none => pure ()
  | some (peerId, op) => do
      cancelQueued peerId .any op
      invoke .cancelAllSends

def cancelSend (handle : DPNHANDLE) :
    Option (SendOp SendCallback) -> List UInt32 -> Action Unit
  | some op, _ => do
      cancelOp op
      returns .cancelAsyncOperation sOk
  | none, [] => returns .cancelAsyncOperation dpnErrInvalidHandle
  | none, peerId :: rest => do
      let peer ← peerAt peerId .nullDereference
      ofPeer peerId (.removeQueued (.handle handle))
      if peer.sq.handleIsPending handle then
        returns .cancelAsyncOperation dpnErrCannotCancel
      else
        cancelSend handle ((peer.sq.removeQueuedByHandle handle).map Prod.fst) rest

def cancelAsyncOperation (handle : DPNHANDLE) (flags : DWORD) :
    Action Unit := do
  let s ← get
  let handleType := handle &&& HandleAllocator.typeMask
  let connecting : Bool :=
    s.state = .connectingToHost ∨ s.state = .connectingToPeers
  if hasFlag flags dpnCancelPlayerSends then
    if handle = s.localPlayerId then returns .cancelAsyncOperation sOk
    else if s.getPeerByPlayerId handle = none then
      returns .cancelAsyncOperation dpnErrInvalidPlayer
    else do
      invoke (.cancelPlayerSends handle flags)
      returns .cancelAsyncOperation sOk
  else if hasFlag flags
      (dpnCancelEnum ||| dpnCancelConnect ||| dpnCancelAllOperations) then do
    onlyIf (hasFlag flags (dpnCancelConnect ||| dpnCancelAllOperations)
        ∧ connecting ∧ s.connectHandle ≠ 0)
      (invoke (.connectFail dpnErrUserCancel []))
    onlyIf (hasFlag flags dpnCancelAllOperations) (invoke .cancelAllSends)
    returns .cancelAsyncOperation sOk
  else if handleType = HandleAllocator.typeBits .enum then
    if s.asyncHostEnums.contains handle then returns .cancelAsyncOperation sOk
    else returns .cancelAsyncOperation dpnErrInvalidHandle
  else if handleType = HandleAllocator.typeBits .connect then
    if handle ≠ s.connectHandle then
      returns .cancelAsyncOperation dpnErrInvalidHandle
    else if connecting then do
      invoke (.connectFail dpnErrUserCancel [])
      returns .cancelAsyncOperation sOk
    else returns .cancelAsyncOperation dpnErrCannotCancel
  else if handleType = HandleAllocator.typeBits .send then do
    perform (.udpRemoveQueued handle)
    if s.udpSq.handleIsPending handle then
      returns .cancelAsyncOperation dpnErrCannotCancel
    else
      cancelSend handle ((s.udpSq.removeQueuedByHandle handle).map Prod.fst)
        s.peers.keys
  else returns .cancelAsyncOperation dpnErrInvalidHandle

/-!
## Starting a session
-/

def autoPortMin : Nat := 49152
def autoPortMax : Nat := 65535

/-- Create the UDP and listener sockets on a port; both or none stay open. -/
def createSockets (ip : UInt32) (port : UInt16) (failed : Action Unit) :
    Action Unit := do
  let udp ← query (.createUdpSocket ip port)
  perform (.setSocket .udp udp.ret)
  if udp.ret = -1 then failed
  else do
    let listener ← query (.createListenerSocket ip port)
    perform (.setSocket .listener listener.ret)
    if listener.ret = -1 then do
      closeMainSocket .udp
      failed
    else perform (.setLocalAddress ip port)

def createAutoSockets (ip : UInt32) (portAt : Nat -> UInt16) :
    (count p : Nat) -> Action Unit
  | 0, _ => pure ()
  | count + 1, p =>
      createSockets ip (portAt p) (createAutoSockets ip portAt count (p + 1))

/-- The number of ports in the ephemeral range. -/
def autoPortCount : Nat := autoPortMax - autoPortMin + 1

def selectMainSockets : Action Bool := do
  let s ← get
  let udp ← query (.eventSelect s.udpSocket)
  if udp.ret ≠ 0 then pure false
  else do
    let listener ← query (.eventSelect s.listenerSocket)
    pure (listener.ret = 0)

/-- `connect_cv.wait`: the connection has been made or has failed. -/
def connectEnded (s : DirectPlay8Peer) : Bool :=
  s.state != .connectingToHost && s.state != .connectingToPeers
    && s.state != .connectFailed

def connectTo (args : ConnectArgs) (address : SockAddr) : Action Unit := do
  let counter ← query .performanceCounter
  let basePort := counter.ret.toNat % (autoPortMax - autoPortMin)
  createAutoSockets 0
    (fun p => UInt16.ofNat (autoPortMin + (basePort + p) % autoPortCount))
    autoPortCount autoPortMin
  let s ← get
  if s.udpSocket = -1 then returns .connect dpnErrGeneric
  else do
    let sync := hasFlag args.flags dpnOpSync
    onlyIf (sync = false) (perform (.allocHandle .connect))
    perform (.connect (.setCall args.asyncCtx
      (if sync then 0 else s.handleAlloc.handle .connect)))
    perform (.setState .connectingToHost)
    let started ← peerConnect .connectingHost address 0
    if started = false then do
      closeMainSocket .listener
      closeMainSocket .udp
      returns .connect dpnErrGeneric
    else do
      log .connectStarted
      let selected ← selectMainSockets
      if selected = false then returns .connect dpnErrGeneric
      else if sync then do
        waitUntil connectEnded
        let s ← get
        returns .connect s.connectResult
      else returns .connect dpnSuccessPending

/-- `Connect`.  Its `switch` does not list the last three states. -/
def connect (args : ConnectArgs) : Action Unit := do
  let s ← get
  match s.state with
  | .new => returns .connect dpnErrUninitialized
  | .hosting => returns .connect dpnErrHosting
  | .connectingToHost | .connectingToPeers => returns .connect dpnErrConnecting
  | .connected => returns .connect dpnErrAlreadyConnected
  | .initialised | .connectFailed | .closing | .terminated => do
      perform (.session (.setApplicationGuid args.guidApplication))
      perform (.session (.setInstanceGuid args.guidInstance))
      perform (.connect (.setReqData args.userConnectData))
      perform (.local (.setPlayerCtx args.playerCtx))
      match args.hostAddress with
      | none => returns .connect dpnErrInvalidHostAddress
      | some address => connectTo args address

def nullSessionName : WString := [0x28, 0x6e, 0x75, 0x6c, 0x6c, 0x29]

/-- The service provider and port the device addresses of `Host` name. -/
def readDevices (sp : GUID) (port : UInt16) :
    List DeviceInfo -> Except HRESULT (GUID × UInt16)
  | [] => .ok (sp, port)
  | device :: rest =>
      match device.serviceProvider with
      | none => .error dpnErrInvalidDeviceAddress
      | some thisSp =>
          if sp ≠ guidNull ∧ thisSp ≠ sp then .error eNotImpl
          else if thisSp ≠ clsidDP8SPTcpip ∧ thisSp ≠ clsidDP8SPIpx then
            .error dpnErrInvalidDeviceAddress
          else
            match device.port with
            | none => readDevices thisSp port rest
            | some addrPort =>
                if port ≠ 0 ∧ port.toUInt32 ≠ addrPort then
                  .error dpnErrInvalidParam
                else readDevices thisSp addrPort.toUInt16 rest

/-- Store the name, password and data of a session. -/
def setDescription (name : WString) (desc : ApplicationDesc) :
    Action Unit := do
  perform (.session (.setMaxPlayers desc.maxPlayers))
  perform (.session (.setSessionName name))
  if hasFlag desc.flags dpnSessionRequirePassword then
    match desc.password with
    | none => .abort .nullDereference
    | some password => perform (.session (.setPassword password))
  else perform (.session (.setPassword []))
  perform (.session (.setApplicationData desc.applicationReservedData))

/-- The discovery socket of `Host`, if one is wanted. -/
def openDiscovery (desc : ApplicationDesc) : Action Bool :=
  if hasFlag desc.flags dpnSessionNoDpnsvr then pure true
  else do
    let discovery ← query .createDiscoverySocket
    perform (.setSocket .discovery discovery.ret)
    if discovery.ret = -1 then pure false
    else do
      let events ← query (.eventSelect discovery.ret)
      pure (events.ret = 0)

/-- `Host` with its sockets open: become the host. -/
def startHosting (playerCtx : Context) : Action Unit := do
  perform (.setNextPlayerId 1)
  perform (.setHostPlayerId 1)
  perform .allocPlayerId
  perform (.local (.setPlayerId 1))
  perform (.local (.setPlayerCtx playerCtx))
  perform (.setState .hosting)
  let s ← get
  let cp ← raise (.createPlayer s.localPlayerId s.localPlayerCtx)
  perform (.local (.setPlayerCtx cp.ctx))
  returns .host sOk

def createHostSockets (port : UInt16) : Action Unit :=
  if port = 0 then
    createAutoSockets 0 UInt16.ofNat autoPortCount autoPortMin
  else createSockets 0 port (pure ())

/-- `Host`, from its valid device addresses on. -/
def hostOn (args : HostArgs) (port : UInt16) : Action Unit := do
  createHostSockets port
  let s ← get
  if s.udpSocket = -1 then returns .host dpnErrGeneric
  else do
    let selected ← selectMainSockets
    if selected = false then returns .host dpnErrGeneric
    else do
      let opened ← openDiscovery args.appDesc
      if opened = false then returns .host dpnErrGeneric
      else startHosting args.playerCtx

/-- `Host`.  Its `switch` does not list the last three states. -/
def host (args : HostArgs) : Action Unit := do
  let s ← get
  match s.state with
  | .new => returns .host dpnErrUninitialized
  | .hosting => returns .host dpnErrAlreadyConnected
  | .connectingToHost | .connectingToPeers => returns .host dpnErrConnecting
  | .connected => returns .host dpnErrAlreadyConnected
  | .initialised | .connectFailed | .closing | .terminated =>
      if args.appDesc.sizeOk = false ∨
          hasFlag args.appDesc.flags dpnSessionClientServer ∨
          args.devices = [] then
        returns .host dpnErrInvalidParam
      else do
        let created ← query .coCreateGuid
        perform (.session (.setInstanceGuid created.guid))
        if created.result ≠ sOk then returns .host created.result
        else do
          perform (.session (.setApplicationGuid args.appDesc.guidApplication))
          setDescription (args.appDesc.sessionName.getD nullSessionName)
            args.appDesc
          match readDevices guidNull 0 args.devices with
          | .error error => returns .host error
          | .ok (sp, port) => do
              perform (.session (.setServiceProvider sp))
              hostOn args port

/-!
## Changing the session
-/

def appdescPacket (s : DirectPlay8Peer) : PacketSerialiser :=
  serialise msgidAppdesc
    [.dword s.maxPlayers, .wstring s.sessionName, .wstring s.password,
     .data s.applicationData]

def setApplicationDesc (desc : ApplicationDesc) : Action Unit := do
  let s ← get
  if s.state = .new then returns .setApplicationDesc dpnErrUninitialized
  else if s.state ≠ .hosting then returns .setApplicationDesc dpnErrNotHost
  else if desc.maxPlayers > 0 ∧
      desc.maxPlayers.toNat ≤ s.playerToPeerId.size then
    returns .setApplicationDesc dpnErrInvalidParam
  else
    match desc.sessionName with
    | none => .abort .nullDereference
    | some name => do
        setDescription name desc
        let s ← get
        sendToConnected .medium (appdescPacket s) .nothing
        let _ ← raise .applicationDesc
        returns .setApplicationDesc sOk

def setPeerInfo (info : PlayerInfo) (ctx : Context) (flags : DWORD) :
    Action Unit := do
  if info.sizeOk = false then returns .setPeerInfo dpnErrInvalidParam
  else do
    onlyIf (hasFlag info.infoFlags dpnInfoName)
      (perform (.local (.setPlayerName info.name)))
    onlyIf (hasFlag info.infoFlags dpnInfoData)
      (perform (.local (.setPlayerData info.data)))
    let s ← get
    if s.state ≠ .hosting ∧ s.state ≠ .connected then
      returns .setPeerInfo sOk
    else do
      let sync := hasFlag flags dpnOpSync
      let completion := s.nextAddr
      perform (.allocHandle .pinfo)
      perform (.newCompletion
        { operation := .setPeerInfo, sync, pending := 1, result := sOk,
          handle := s.handleAlloc.handle .pinfo, ctx })
      forEach
        (fun peerId => do
          let peer ← peerAt peerId .nullDereference
          ofPeer peerId .allocAckId
          sendPacket peerId .medium
            (serialise msgidPlayerinfo
              [.dword s.localPlayerId, .wstring s.localPlayerName,
               .data s.localPlayerData, .dword peer.nextAckId])
            (.requested peerId peer.nextAckId completion)
          ofCompletion completion .increment)
        (s.peerIdsIn .connected)
      let _ ← raise (.peerInfo s.localPlayerId s.localPlayerCtx)
      complete completion sOk
      if sync then do
        waitUntil fun s => (s.completions[completion]?).all (·.pending == 0)
        let s ← get
        perform (.completion completion .delete)
        returns .setPeerInfo
          (((s.completions[completion]?).map (·.result)).getD sOk)
      else returns .setPeerInfo dpnSuccessPending

/-!
## Sending
-/

def sendPriority (flags : DWORD) : SendPriority :=
  if hasFlag flags dpnSendPriorityHigh then .high
  else if hasFlag flags dpnSendPriorityLow then .low
  else .medium

/-- Whom a `SendTo` goes to: peers, in order, and ourselves. -/
inductive SendTargets where
  | invalid
  /-- A group has a member that is no known player. -/
  | unknownMember
  | targets (peerIds : List UInt32) (toSelf : Bool)
deriving Repr, DecidableEq

def sendTargets (s : DirectPlay8Peer) (player : DPNID)
    (flags : DWORD) : SendTargets :=
  let loopback := ! hasFlag flags dpnSendNoLoopback
  if player = dpnidAllPlayersGroup then
    .targets (s.peerIdsIn .connected) loopback
  else if player = s.localPlayerId then .targets [] true
  else
    match s.findPlayer player, s.groups[player]? with
    | some (peerId, _), _ => .targets [peerId] false
    | none, none => .invalid
    | none, some group =>
        let others := group.playerIds.toList.filter (· != s.localPlayerId)
        let found := others.filterMap fun member =>
          (s.findPlayer member).map Prod.fst
        if found.length = others.length then
          .targets found
            (loopback && group.playerIds.contains s.localPlayerId)
        else .unknownMember

def messagePacket (s : DirectPlay8Peer) (payload : List UInt8)
    (flags : DWORD) : PacketSerialiser :=
  serialise msgidMessage
    [.dword s.localPlayerId, .data payload,
     .dword (flags &&& (dpnSendGuaranteed ||| dpnSendCoalesce
       ||| dpnSendCompleteOnProcess))]

def sendSync (payload : List UInt8) (flags : DWORD) (peerIds : List UInt32)
    (toSelf : Bool) : Action Unit := do
  let s ← get
  let completion := s.nextAddr
  perform (.newCompletion
    { operation := .sendTo flags, sync := true,
      pending := UInt32.ofNat peerIds.length, result := sOk, handle := 0,
      ctx := contextNull })
  forEach
    (fun peerId => sendPacket peerId (sendPriority flags)
      (messagePacket s payload flags) (.sent completion))
    peerIds
  onlyIf toSelf do
    let _ ← raise (.receive s.localPlayerId s.localPlayerCtx payload
      (receiveFlags flags))
    pure ()
  waitUntil fun s => (s.completions[completion]?).all (·.pending == 0)
  let s ← get
  perform (.completion completion .delete)
  returns .sendTo (((s.completions[completion]?).map (·.result)).getD sOk)

def sendAsync (payload : List UInt8) (ctx : Context) (flags : DWORD)
    (peerIds : List UInt32) (toSelf : Bool) : Action Unit := do
  let s ← get
  let completion := s.nextAddr
  let handle := s.handleAlloc.handle .send
  let pending := peerIds.length + (if toSelf then 1 else 0)
  perform (.allocHandle .send)
  perform (.newCompletion
    { operation := .sendTo flags, sync := false,
      pending := UInt32.ofNat (if pending = 0 then 1 else pending),
      result := sOk, handle, ctx })
  onlyIf (pending = 0) (detach (.sendCompleteThread completion))
  forEach
    (fun peerId => ofPeer peerId
      (.send (sendPriority flags) (messagePacket s payload flags).rawPacket
        handle (.sent completion)))
    peerIds
  onlyIf toSelf (perform (.pushWork { payload, flags, completion }))
  returns .sendTo dpnSuccessPending

def sendTo (player : DPNID) (payload : List UInt8) (ctx : Context)
    (flags : DWORD) : Action Unit := do
  let s ← get
  match s.state with
  | .new => returns .sendTo dpnErrUninitialized
  | .initialised => returns .sendTo dpnErrNotReady
  | .connectFailed | .closing | .terminated =>
      returns .sendTo dpnErrNoConnection
  | .hosting | .connectingToHost | .connectingToPeers | .connected =>
      if hasFlag flags dpnSendCompleteOnProcess then
        returns .sendTo dpnErrGeneric
      else
        match sendTargets s player flags with
        | .invalid => returns .sendTo dpnErrInvalidPlayer
        | .unknownMember => do
            log (.assertionFailed .peerNotNull)
            .abort .nullDereference
        | .targets peerIds toSelf =>
            if hasFlag flags dpnOpSync then
              sendSync payload flags peerIds toSelf
            else sendAsync payload ctx flags peerIds toSelf

/-!
## Groups
-/

/-- Why a group method cannot be called in a state. -/
def groupStateError : State -> Option HRESULT
  | .new => some dpnErrUninitialized
  | .initialised => some dpnErrNoConnection
  | .hosting => none
  | .connectingToHost => some dpnErrConnecting
  | .connectingToPeers => some dpnErrConnecting
  | .connectFailed => some dpnErrConnecting
  | .connected => none
  | .closing => some dpnErrConnectionLost
  | .terminated => some dpnErrConnectionLost

/-- Allocate the counter and, for an asynchronous call, the handle of a method. -/
def beginOperation (operation : Operation) (type : HandleType) (ctx : Context)
    (flags : DWORD) : Action Nat := do
  let s ← get
  let sync := hasFlag flags dpnOpSync
  onlyIf (sync = false) (perform (.allocHandle type))
  perform (.newCompletion
    { operation, sync, pending := 1, result := sOk,
      handle := if sync then 0 else s.handleAlloc.handle type, ctx })
  pure s.nextAddr

/-- Wait for a synchronous call to complete; leave an asynchronous one pending. -/
def endOperation (method : Method) (completion : Nat) (flags : DWORD) :
    Action Unit :=
  if hasFlag flags dpnOpSync then do
    waitUntil fun s => (s.completions[completion]?).all (·.pending == 0)
    let s ← get
    perform (.completion completion .delete)
    returns method (((s.completions[completion]?).map (·.result)).getD sOk)
  else returns method dpnSuccessPending

def sendRequest (peerId : UInt32) (packet : DWORD -> PacketSerialiser)
    (callback : DWORD -> SendCallback) : Action Unit := do
  let peer ← peerAt peerId .nullDereference
  ofPeer peerId .allocAckId
  sendPacket peerId .high (packet peer.nextAckId) (callback peer.nextAckId)

def createGroup (info : Option GroupInfo) (groupCtx asyncCtx : Context)
    (flags : DWORD) : Action Unit := do
  let s ← get
  match groupStateError s.state, info with
  | some error, _ => returns .createGroup error
  | none, none => returns .createGroup dpnErrInvalidParam
  | none, some info =>
      if hasFlag info.groupFlags dpnGroupAutodestruct then
        returns .createGroup eNotImpl
      else do
        let completion ← beginOperation .createGroup .cgroup asyncCtx flags
        let request : GroupRequest :=
          { name := if hasFlag info.infoFlags dpnInfoName then info.name else [],
            data := if hasFlag info.infoFlags dpnInfoData then info.data else [],
            ctx := groupCtx, completion }
        if s.localPlayerId = s.hostPlayerId then do
          perform .allocPlayerId
          createTheGroup s.nextPlayerId request
        else do
          assertThat .peerNotNull (s.findPlayer s.hostPlayerId ≠ none)
          match s.findPlayer s.hostPlayerId with
          | none => .abort .nullDereference
          | some (peerId, _) =>
              sendRequest peerId
                (fun ackId => serialise msgidGroupAllocate [.dword ackId])
                (fun ackId => .groupRequested s.hostPlayerId ackId request)
        endOperation .createGroup completion flags

def destroyGroup (groupId : DPNID) (ctx : Context) (flags : DWORD) :
    Action Unit := do
  let s ← get
  match groupStateError s.state with
  | some error => returns .destroyGroup error
  | none =>
      if ¬ s.groups.contains groupId ∨ s.destroyedGroups.contains groupId then
        returns .destroyGroup dpnErrInvalidGroup
      else do
        let completion ← beginOperation .destroyGroup .dgroup ctx flags
        perform (.insertDestroyedGroup groupId)
        notifyConnected (groupDestroyPacket groupId) completion
        detach (.destroyGroupThread groupId completion)
        endOperation .destroyGroup completion flags

def addPlayerToGroup (groupId client : DPNID) (ctx : Context)
    (flags : DWORD) : Action Unit := do
  let s ← get
  match groupStateError s.state, s.groups[groupId]? with
  | some error, _ => returns .addPlayerToGroup error
  | none, none => returns .addPlayerToGroup dpnErrInvalidGroup
  | none, some group =>
      if s.destroyedGroups.contains groupId then
        returns .addPlayerToGroup dpnErrInvalidGroup
      else if group.playerIds.contains client then
        returns .addPlayerToGroup dpnErrPlayerAlreadyInGroup
      else do
        let completion ← beginOperation .addPlayerToGroup .apgroup ctx flags
        if client = s.localPlayerId then do
          notifyConnected (groupJoinedPacket groupId group) completion
          perform (.group groupId (.insertPlayer s.localPlayerId))
          detach (.addPlayerThread groupId group.ctx completion)
          endOperation .addPlayerToGroup completion flags
        else
          match s.findPlayer client with
          | none => returns .addPlayerToGroup dpnErrInvalidPlayer
          | some (peerId, _) => do
              sendRequest peerId
                (fun ackId => serialise msgidGroupJoin
                  [.dword groupId, .dword ackId, .wstring group.name,
                   .data group.data])
                (fun ackId => .requested peerId ackId completion)
              endOperation .addPlayerToGroup completion flags

def removePlayerFromGroup (groupId client : DPNID) (ctx : Context)
    (flags : DWORD) : Action Unit := do
  let s ← get
  match groupStateError s.state, s.groups[groupId]? with
  | some error, _ => returns .removePlayerFromGroup error
  | none, none => returns .removePlayerFromGroup dpnErrInvalidGroup
  | none, some group =>
      if ¬ group.playerIds.contains client then
        returns .removePlayerFromGroup dpnErrPlayerNotInGroup
      else do
        let completion ←
          beginOperation .removePlayerFromGroup .rpgroup ctx flags
        if client = s.localPlayerId then do
          notifyConnected (groupLeftPacket groupId) completion
          perform (.group groupId (.erasePlayer s.localPlayerId))
          detach (.removePlayerThread groupId group.ctx completion)
          endOperation .removePlayerFromGroup completion flags
        else
          match s.findPlayer client with
          | none => returns .removePlayerFromGroup dpnErrInvalidPlayer
          | some (peerId, _) => do
              sendRequest peerId
                (fun ackId => serialise msgidGroupLeave
                  [.dword groupId, .dword ackId])
                (fun ackId => .requested peerId ackId completion)
              endOperation .removePlayerFromGroup completion flags

/-!
## Finding hosts
-/

def enumHosts (ctx : Context) (flags : DWORD) : Action Unit := do
  let s ← get
  if s.state = .new then returns .enumHosts dpnErrUninitialized
  else if hasFlag flags dpnOpSync then do
    let created ← query .createHostEnumerator
    if created.result ≠ sOk then returns .enumHosts created.result
    else do
      perform .addSyncHostEnum
      let ended ← unlocked .wait fun _ => true
      perform .removeSyncHostEnum
      returns .enumHosts ended.result
  else do
    perform (.allocHandle .enum)
    let created ← query .createHostEnumerator
    if created.result ≠ sOk then returns .enumHosts created.result
    else do
      perform (.insertHostEnum (s.handleAlloc.handle .enum))
      detach (.enumHostsThread (s.handleAlloc.handle .enum) ctx)
      returns .enumHosts dpnSuccessPending

/-!
## Ending a session
-/

/-- Destroy all peers at once, or let them flush their queues first. -/
def closePeers (flags : DWORD) : Action Unit :=
  if hasFlag flags dpnCloseImmediate then
    invoke (.peerDestroyAll dpnErrUserCancel destroyPlayerReasonNormal)
  else do
    invoke (.peerShutdownAll dpnErrUserCancel destroyPlayerReasonNormal)
    waitUntil fun s => s.peers.isEmpty

/-- `Close` behind its change to `STATE_CLOSING`. -/
def closing (flags : DWORD) (wasHosting wasConnected : Bool) :
    Action Unit := do
  onlyIf wasHosting (dispatchDestroyLocalPlayer destroyPlayerReasonNormal)
  closePeers flags
  onlyIf wasConnected (dispatchDestroyLocalPlayer destroyPlayerReasonNormal)
  invoke (.groupDestroyAll destroyGroupReasonNormal)
  waitUntil fun s => s.asyncHostEnums.isEmpty && s.syncHostEnums == 0
  let _ ← unlocked .deleteWorkerPool fun s => s.activeWorkers == 0
  perform (.setWorkerPool false)
  perform .clearDestroyedGroups
  perform (.setState .new)
  returns .close sOk

def close (flags : DWORD) : Action Unit := do
  let s ← get
  if s.state = .new then returns .close dpnErrUninitialized
  else if s.state = .closing then returns .close dpnErrAlreadyClosing
  else do
    closeMainSockets
    onlyIf (s.state = .connectingToHost ∨ s.state = .connectingToPeers)
      (invoke (.connectFail dpnErrNoConnection []))
    perform (.setState .closing)
    invoke (.closing flags (s.state == .hosting) (s.state == .connected))

/-- Why the host methods `DestroyPeer` and `TerminateSession` cannot be called. -/
def hostStateError : State -> Option HRESULT
  | .new => some dpnErrUninitialized
  | .initialised => some dpnErrNoConnection
  | .hosting => none
  | .connectingToHost => some dpnErrConnecting
  | .connectingToPeers => some dpnErrConnecting
  | .connectFailed => some dpnErrConnecting
  | .connected => some dpnErrNotHost
  | .closing => some dpnErrConnectionLost
  | .terminated => some dpnErrHostTerminatedSession

def destroyPeer (client : DPNID) (destroyData : List UInt8) :
    Action Unit := do
  let s ← get
  match hostStateError s.state with
  | some error => returns .destroyPeer error
  | none =>
      if client = s.localPlayerId then returns .destroyPeer dpnErrInvalidParam
      else
        match s.findPlayer client with
        | none => returns .destroyPeer dpnErrInvalidPlayer
        | some (peerId, peer) => do
            sendPacket peerId .high
              (serialise msgidDestroyPeer
                [.dword peer.playerId, .data destroyData])
              .nothing
            invoke (.peerShutdown peerId dpnErrHostTerminatedSession
              destroyPlayerReasonHostDestroyedPlayer)
            sendToConnected .high (destroyPeerPacket peer.playerId) .nothing
            returns .destroyPeer sOk

def terminateSession (terminateData : List UInt8) : Action Unit := do
  let s ← get
  match hostStateError s.state with
  | some error => returns .terminateSession error
  | none => do
      closeMainSockets
      let packet := serialise msgidTerminateSession [.data terminateData]
      forEach
        (fun peerId => do
          sendPacket peerId .high packet .nothing
          ofPeer peerId (.setState .closing))
        (s.peerIdsIn .connected)
      perform (.setState .terminated)
      let _ ← raise
        (.terminateSession dpnErrHostTerminatedSession terminateData)
      dispatchDestroyLocalPlayer destroyPlayerReasonSessionTerminated
      forEach
        (fun (_, peer) => invoke (.dispatchDestroyPlayer peer.playerId
          peer.playerCtx destroyPlayerReasonSessionTerminated))
        (s.peers.toList.filter fun (_, peer) => peer.state == .connected)
      invoke (.groupDestroyAll destroyGroupReasonNormal)
      match (s.peers.toList.filter fun (_, peer) =>
          peer.state != .connected && peer.state != .closing).head? with
      | none => pure ()
      | some (peerId, _) => invoke (.terminateDestroyPeers peerId)
      returns .terminateSession sOk

end Action
end DirectPlayLite
