import DirectPlayLite.Peer.Procedures

/-!
# Completions, callbacks and dispatch

What happens when a packet has been sent, an ack has come back or a detached
thread runs, and the messages to the application that several functions raise.
-/

namespace DirectPlayLite

open Monitor LittleEndian

namespace Action

/-!
## Completions
-/

/-- Change the counter of a call, which must not have been freed. -/
def ofCompletion (addr : Nat) (change : CompletionCommand) : Action Unit := do
  let s ← get
  match s.completions[addr]? with
  | some _ => perform (.completion addr change)
  | none => .abort .useAfterFree

/-- `dwSendCompleteFlags`, and `dwReceiveFlags` of a loopback message. -/
def receiveFlags (flags : DWORD) : DWORD :=
  (if hasFlag flags dpnSendGuaranteed then dpnReceiveGuaranteed else 0)
    ||| (if hasFlag flags dpnSendCoalesce then dpnReceiveCoalesced else 0)

/--
The `complete` lambdas of the methods: count one part of a call as done, and
report its result with the last.  `SendTo` and `SetPeerInfo` report the first
failure and free the counter before they call the application, the other methods
report the last result and free it behind the call.
-/
def complete (addr : Nat) (result : HRESULT) : Action Unit := do
  let s ← get
  match s.completions[addr]? with
  | none => .abort .useAfterFree
  | some c =>
      let firstResult :=
        if result ≠ sOk ∧ c.result = sOk then result else c.result
      match c.operation with
      | .sendTo flags =>
          perform (.completion addr (.setResult firstResult))
          perform (.completion addr .decrement)
          onlyIf (c.pending - 1 = 0 ∧ c.sync = false) do
            perform (.completion addr .delete)
            onlyIf (hasFlag flags dpnSendNoComplete = false) do
              let _ ← raise
                (.sendComplete c.handle c.ctx firstResult (receiveFlags flags))
              pure ()
      | .setPeerInfo =>
          perform (.completion addr (.setResult firstResult))
          perform (.completion addr .decrement)
          onlyIf (c.pending - 1 = 0 ∧ c.sync = false) do
            perform (.completion addr .delete)
            let _ ← raise (.asyncOpComplete c.handle c.ctx firstResult)
            pure ()
      | .createGroup | .destroyGroup | .addPlayerToGroup
      | .removePlayerFromGroup =>
          perform (.completion addr .decrement)
          onlyIf (c.pending - 1 = 0) do
            if c.sync then
              perform (.completion addr (.setResult result))
            else do
              let _ ← raise (.asyncOpComplete c.handle c.ctx result)
              perform (.completion addr .delete)

/-!
## Packets several functions send
-/

def groupCreatePacket (groupId : DPNID) (name : WString)
    (data : List UInt8) : PacketSerialiser :=
  serialise msgidGroupCreate [.dword groupId, .wstring name, .data data]

def groupDestroyPacket (groupId : DPNID) : PacketSerialiser :=
  serialise msgidGroupDestroy [.dword groupId]

def groupJoinedPacket (groupId : DPNID) (group : Group) : PacketSerialiser :=
  serialise msgidGroupJoined
    [.dword groupId, .wstring group.name, .data group.data]

def groupLeftPacket (groupId : DPNID) : PacketSerialiser :=
  serialise msgidGroupLeft [.dword groupId]

def ackPacket (ackId : DWORD) (result : HRESULT)
    (data : List UInt8) : PacketSerialiser :=
  serialise msgidAck [.dword ackId, .dword result, .data data]

def sendAck (peerId : UInt32) (ackId : DWORD) (result : HRESULT)
    (data : List UInt8) : Action Unit :=
  sendPacket peerId .high (ackPacket ackId result data) .nothing

def notifyConnected (packet : PacketSerialiser) (completion : Nat) :
    Action Unit := do
  let s ← get
  forEach
    (fun peerId => do
      ofCompletion completion .increment
      sendPacket peerId .high packet (.notified completion))
    (s.peerIdsIn .connected)

/-!
## Callbacks of packets and acks
-/

def createTheGroup (groupId : DPNID) (request : GroupRequest) : Action Unit := do
  perform (.emplaceGroup groupId request.name request.data request.ctx)
  notifyConnected (groupCreatePacket groupId request.name request.data)
    request.completion
  detach (.createGroupThread groupId request.ctx request.completion)

def registerAck (peerId : UInt32) (ackId : DWORD)
    (callback : AckCallback) : Action Unit := do
  let peer ← peerAt peerId .nullDereference
  assertThat .registerAck (peer.pendingAcks[ackId]? = none)
  ofPeer peerId (.registerAck ackId callback)

def invokeCallback (callback : SendCallback) (result : HRESULT) : Action Unit :=
  match callback with
  | .nothing => pure ()
  | .sent completion => complete completion result
  | .notified completion => complete completion sOk
  | .requested peerId ackId completion =>
      if result = sOk then do
        let _ ← assertedPeer peerId
        registerAck peerId ackId (.complete completion)
      else complete completion result
  | .groupRequested hostId ackId request =>
      if result = sOk then do
        let s ← get
        assertThat .peerNotNull (s.findPlayer hostId ≠ none)
        match s.findPlayer hostId with
        | none => .abort .nullDereference
        | some (peerId, _) =>
            registerAck peerId ackId (.groupAllocated request)
      else complete request.completion result

def invokeAck (callback : AckCallback) (result : HRESULT)
    (data : List UInt8) : Action Unit :=
  match callback with
  | .complete completion => complete completion result
  | .groupAllocated request =>
      if result = sOk ∧ data.length = 4 then
        createTheGroup (word32 data) request
      else complete request.completion result

/-!
## Detached threads
-/

def sendCompleteThread (completion : Nat) : Action Unit :=
  complete completion sOk

def createGroupThread (groupId : DPNID) (ctx : Context)
    (completion : Nat) : Action Unit := do
  let s ← get
  let cg ← raise (.createGroup groupId ctx s.localPlayerCtx)
  -- the group may have gone away in the meantime
  perform (.group groupId (.setCtx cg.ctx))
  complete completion sOk

def destroyGroupThread (groupId : DPNID) (completion : Nat) : Action Unit := do
  let s ← get
  match s.groups[groupId]? with
  | none => pure ()
  | some group => do
      let _ ← raise
        (.destroyGroup groupId group.ctx destroyGroupReasonNormal)
      perform (.eraseGroup groupId)
  complete completion sOk

def addPlayerThread (groupId : DPNID) (groupCtx : Context)
    (completion : Nat) : Action Unit := do
  let s ← get
  let _ ← raise
    (.addPlayerToGroup groupId groupCtx s.localPlayerId s.localPlayerCtx)
  complete completion sOk

def removePlayerThread (groupId : DPNID) (groupCtx : Context)
    (completion : Nat) : Action Unit := do
  let s ← get
  let _ ← raise
    (.removePlayerFromGroup groupId groupCtx s.localPlayerId s.localPlayerCtx)
  complete completion sOk

/-- The callback of an asynchronous `HostEnumerator`. -/
def enumHostsThread (handle : DPNHANDLE) (ctx : Context) : Action Unit := do
  let ended ← unlocked .wait fun _ => true
  let _ ← raise (.asyncOpComplete handle ctx ended.result)
  perform (.eraseHostEnum handle)

/-!
## Players and groups that go away
-/

def firstGroupOf (s : DirectPlay8Peer) (player : DPNID) :
    Option (DPNID × Group) :=
  s.groups.toList.find? fun (_, group) => group.playerIds.contains player

def dispatchDestroyPlayer (player : DPNID) (ctx : Context)
    (reason : DWORD) : Action Unit := do
  let s ← get
  match firstGroupOf s player with
  | some (groupId, group) => do
      perform (.group groupId (.erasePlayer player))
      let _ ← raise (.removePlayerFromGroup groupId group.ctx player ctx)
      invoke (.dispatchDestroyPlayer player ctx reason)
  | none => do
      let _ ← raise (.destroyPlayer player ctx reason)
      pure ()

def dispatchDestroyLocalPlayer (reason : DWORD) : Action Unit := do
  let s ← get
  invoke (.dispatchDestroyPlayer s.localPlayerId s.localPlayerCtx reason)

def groupDestroyAll (reason : DWORD) : Action Unit := do
  let s ← get
  match s.groups.toList.head? with
  | none => pure ()
  | some (groupId, group) => do
      onlyIf (¬ s.destroyedGroups.contains groupId) do
        perform (.insertDestroyedGroup groupId)
        let _ ← raise (.destroyGroup groupId group.ctx reason)
        pure ()
      perform (.eraseGroup groupId)
      invoke (.groupDestroyAll reason)

end Action
end DirectPlayLite
