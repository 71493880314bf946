import DirectPlayLite.Packet.RoundTrip
import DirectPlayLite.Peer.Receiving

/-!
# Messages on the wire

What each kind of message carries, and what its handler reads of it.  The handlers
look at a packet through the fields they decode and in no other way, so that a
message arrives as it was sent when its fields are decoded to the values they
were made of.
-/

namespace DirectPlayLite

open Monitor Program

/-!
## The host enumerator
-/

namespace HostEnumerator

def hostEnumRequestPacket (applicationGuid : GUID) (userData : List UInt8)
    (now : DWORD) : PacketSerialiser :=
  serialise msgidHostEnumRequest
    [if applicationGuid ≠ guidNull then .guid applicationGuid else .null,
     if userData ≠ [] then .data userData else .null,
     .dword now]

/-- What `HostEnumerator::handle_packet` reads of a `HOST_ENUM_RESPONSE` packet. -/
structure HostEnumResponse where
  flags : DWORD
  instanceGuid : GUID
  applicationGuid : GUID
  maxPlayers : DWORD
  currentPlayers : DWORD
  sessionName : WString
  applicationData : List UInt8
  responseData : List UInt8
  requestTickCount : DWORD
deriving Repr, DecidableEq

def decodeHostEnumResponse (pd : PacketDeserialiser) :
    Except PacketError HostEnumResponse := do
  let flags ← pd.getDword 0
  let instanceGuid ← pd.getGuid 1
  let applicationGuid ← pd.getGuid 2
  let maxPlayers ← pd.getDword 3
  let currentPlayers ← pd.getDword 4
  let sessionName ← pd.getWstring 5
  let applicationData ← Action.nullOr pd 6 [] (pd.getData 6)
  let responseData ← Action.nullOr pd 7 [] (pd.getData 7)
  let requestTickCount ← pd.getDword 8
  return { flags, instanceGuid, applicationGuid, maxPlayers, currentPlayers,
           sessionName, applicationData, responseData, requestTickCount }

def handlePacket (pd : PacketDeserialiser) : Option HostEnumResponse :=
  if pd.packetType ≠ msgidHostEnumResponse then none
  else (decodeHostEnumResponse pd).toOption

end HostEnumerator

/-!
## Messages
-/

/--
A message with the values its senders put into it, those of the session in the
state of the sender.  `CONNECT_HOST_OK` is not among them.
-/
inductive Message where
  | hostEnumRequest (applicationGuid : GUID) (userData : List UInt8)
      (now : DWORD)
  | hostEnumResponse (sender : DirectPlay8Peer) (responseData : List UInt8)
      (reqTick : DWORD)
  | connectHost (sender : DirectPlay8Peer)
  | connectHostFail (error : HRESULT) (data : List UInt8)
  | connectPeer (sender : DirectPlay8Peer)
  | connectPeerOk (sender : DirectPlay8Peer)
  | connectPeerFail (error : HRESULT)
  | message (sender : DirectPlay8Peer) (payload : List UInt8) (flags : DWORD)
  | playerinfo (playerId : DPNID) (name : WString) (data : List UInt8)
      (ackId : DWORD)
  | ack (ackId : DWORD) (result : HRESULT) (data : List UInt8)
  | appdesc (sender : DirectPlay8Peer)
  /-- With the data for the player itself, without any for the others. -/
  | destroyPeer (playerId : DPNID) (data : Option (List UInt8))
  | terminateSession (data : List UInt8)
  | groupAllocate (ackId : DWORD)
  | groupCreate (groupId : DPNID) (name : WString) (data : List UInt8)
  | groupDestroy (groupId : DPNID)
  | groupJoin (groupId : DPNID) (ackId : DWORD) (name : WString)
      (data : List UInt8)
  | groupJoined (groupId : DPNID) (group : Group)
  | groupLeave (groupId : DPNID) (ackId : DWORD)
  | groupLeft (groupId : DPNID)

namespace Message

def packet : Message -> PacketSerialiser
  | hostEnumRequest applicationGuid userData now =>
      HostEnumerator.hostEnumRequestPacket applicationGuid userData now
  | hostEnumResponse sender responseData reqTick =>
      Action.hostEnumResponsePacket sender responseData reqTick
  | connectHost sender => Action.connectHostPacket sender
  | connectHostFail error data =>
      serialise msgidConnectHostFail
        [.dword error, if data ≠ [] then .data data else .null]
  | connectPeer sender => Action.connectPeerPacket sender
  | connectPeerOk sender => Action.connectPeerOkPacket sender
  | connectPeerFail error => serialise msgidConnectPeerFail [.dword error]
  | message sender payload flags => Action.messagePacket sender payload flags
  | playerinfo playerId name data ackId =>
      serialise msgidPlayerinfo
        [.dword playerId, .wstring name, .data data, .dword ackId]
  | ack ackId result data => Action.ackPacket ackId result data
  | appdesc sender => Action.appdescPacket sender
  | destroyPeer playerId none => Action.destroyPeerPacket playerId
  | destroyPeer playerId (some data) =>
      serialise msgidDestroyPeer [.dword playerId, .data data]
  | terminateSession data => serialise msgidTerminateSession [.data data]
  | groupAllocate ackId => serialise msgidGroupAllocate [.dword ackId]
  | groupCreate groupId name data =>
      Action.groupCreatePacket groupId name data
  | groupDestroy groupId => Action.groupDestroyPacket groupId
  | groupJoin groupId ackId name data =>
      serialise msgidGroupJoin
        [.dword groupId, .dword ackId, .wstring name, .data data]
  | groupJoined groupId group => Action.groupJoinedPacket groupId group
  | groupLeave groupId ackId =>
      serialise msgidGroupLeave [.dword groupId, .dword ackId]
  | groupLeft groupId => Action.groupLeftPacket groupId

def msgid : Message -> UInt32
  | hostEnumRequest .. => msgidHostEnumRequest
  | hostEnumResponse .. => msgidHostEnumResponse
  | connectHost .. => msgidConnectHost
  | connectHostFail .. => msgidConnectHostFail
  | connectPeer .. => msgidConnectPeer
  | connectPeerOk .. => msgidConnectPeerOk
  | connectPeerFail .. => msgidConnectPeerFail
  | message .. => msgidMessage
  | playerinfo .. => msgidPlayerinfo
  | ack .. => msgidAck
  | appdesc .. => msgidAppdesc
  | destroyPeer .. => msgidDestroyPeer
  | terminateSession .. => msgidTerminateSession
  | groupAllocate .. => msgidGroupAllocate
  | groupCreate .. => msgidGroupCreate
  | groupDestroy .. => msgidGroupDestroy
  | groupJoin .. => msgidGroupJoin
  | groupJoined .. => msgidGroupJoined
  | groupLeave .. => msgidGroupLeave
  | groupLeft .. => msgidGroupLeft

def fields : Message -> List Append
  | hostEnumRequest applicationGuid userData now =>
      [if applicationGuid ≠ guidNull then .guid applicationGuid else .null,
       if userData ≠ [] then .data userData else .null,
       .dword now]
  | hostEnumResponse sender responseData reqTick =>
      [.dword (if sender.password = [] then 0 else dpnSessionRequirePassword),
       .guid sender.instanceGuid,
       .guid sender.applicationGuid,
       .dword sender.maxPlayers,
       .dword (UInt32.ofNat (sender.playerToPeerId.size + 1)),
       .wstring sender.sessionName,
       if sender.applicationData ≠ [] then .data sender.applicationData
        else .null,
       if responseData ≠ [] then .data responseData else .null,
       .dword reqTick]
  | connectHost sender =>
      [if sender.instanceGuid ≠ guidNull then .guid sender.instanceGuid
        else .null,
       .guid sender.applicationGuid,
       if sender.password ≠ [] then .wstring sender.password else .null,
       if sender.connectReqData ≠ [] then .data sender.connectReqData
        else .null,
       .wstring sender.localPlayerName,
       .data sender.localPlayerData]
  | connectHostFail error data =>
      [.dword error, if data ≠ [] then .data data else .null]
  | connectPeer sender =>
      [.guid sender.instanceGuid, .guid sender.applicationGuid,
       .wstring sender.password, .dword sender.localPlayerId,
       .wstring sender.localPlayerName, .data sender.localPlayerData]
  | connectPeerOk sender =>
      [.wstring sender.localPlayerName, .data sender.localPlayerData,
       .dword (UInt32.ofNat (Action.memberGroupIds sender).length)]
        ++ (Action.memberGroupIds sender).map .dword
  | connectPeerFail error => [.dword error]
  | message sender payload flags =>
      [.dword sender.localPlayerId, .data payload,
       .dword (flags &&& (dpnSendGuaranteed ||| dpnSendCoalesce
         ||| dpnSendCompleteOnProcess))]
  | playerinfo playerId name data ackId =>
      [.dword playerId, .wstring name, .data data, .dword ackId]
  | ack ackId result data => [.dword ackId, .dword result, .data data]
  | appdesc sender =>
      [.dword sender.maxPlayers, .wstring sender.sessionName,
       .wstring sender.password, .data sender.applicationData]
  | destroyPeer playerId none => [.dword playerId]
  | destroyPeer playerId (some data) => [.dword playerId, .data data]
  | terminateSession data => [.data data]
  | groupAllocate ackId => [.dword ackId]
  | groupCreate groupId name data =>
      [.dword groupId, .wstring name, .data data]
  | groupDestroy groupId => [.dword groupId]
  | groupJoin groupId ackId name data =>
      [.dword groupId, .dword ackId, .wstring name, .data data]
  | groupJoined groupId group =>
      [.dword groupId, .wstring group.name, .data group.data]
  | groupLeave groupId ackId => [.dword groupId, .dword ackId]
  | groupLeft groupId => [.dword groupId]

theorem packet_eq (m : Message) : m.packet = serialise m.msgid m.fields := by
  cases m with
  | destroyPeer playerId data => cases data <;> rfl
  | _ => rfl

def handler (peerId : UInt32) (pd : PacketDeserialiser) : Message -> Option Proc
  | hostEnumRequest .. | hostEnumResponse .. => none
  | connectHost .. => some (.handleHostConnectRequest peerId pd)
  | connectHostFail .. => some (.handleHostConnectFail peerId pd)
  | connectPeer .. => some (.handleConnectPeer peerId pd)
  | connectPeerOk .. => some (.handleConnectPeerOk peerId pd)
  | connectPeerFail .. => some (.handleConnectPeerFail peerId pd)
  | message .. => some (.handleMessage pd)
  | playerinfo .. => some (.handlePlayerinfo peerId pd)
  | ack .. => some (.handleAck peerId pd)
  | appdesc .. => some (.handleAppdesc peerId pd)
  | destroyPeer .. => some (.handleDestroyPeer peerId pd)
  | terminateSession .. => some (.handleTerminateSession peerId pd)
  | groupAllocate .. => some (.handleGroupAllocate peerId pd)
  | groupCreate .. => some (.handleGroupCreate peerId pd)
  | groupDestroy .. => some (.handleGroupDestroy peerId pd)
  | groupJoin .. => some (.handleGroupJoin peerId pd)
  | groupJoined .. => some (.handleGroupJoined peerId pd)
  | groupLeave .. => some (.handleGroupLeave peerId pd)
  | groupLeft .. => some (.handleGroupLeft peerId pd)

end Message

/-!
## What the handlers read
-/

/-- What is done with a packet depends on what is decoded of it and nothing else. -/
def ReadsOnly {α β : Type} (handler : PacketDeserialiser -> β)
    (decode : PacketDeserialiser -> α) : Prop :=
  forall pd pd', decode pd = decode pd' -> handler pd = handler pd'

namespace Message

/-- The three fields of a `HOST_ENUM_REQUEST`, each of them read by itself. -/
def enumRequestFields (pd : PacketDeserialiser) (s : DirectPlay8Peer) :
    Except PacketError GUID × Except PacketError (List UInt8) ×
      Except PacketError DWORD :=
  (Action.nullOr pd 0 s.applicationGuid (pd.getGuid 0),
    Action.nullOr pd 1 [] (pd.getData 1), pd.getDword 2)

def connectFailFields (pd : PacketDeserialiser) :
    Except PacketError HRESULT × Except PacketError (List UInt8) :=
  (pd.getDword 0, Action.nullOr pd 1 [] (pd.getData 1))

def playerinfoFields (pd : PacketDeserialiser) :
    Except PacketError (DPNID × WString × List UInt8 × DWORD) := do
  let playerId ← pd.getDword 0
  let name ← pd.getWstring 1
  let data ← pd.getData 2
  let ackId ← pd.getDword 3
  return (playerId, name, data, ackId)

def ackFields (pd : PacketDeserialiser) :
    Except PacketError (DWORD × HRESULT × List UInt8) := do
  let ackId ← pd.getDword 0
  let result ← pd.getDword 1
  let data ← pd.getData 2
  return (ackId, result, data)

def appdescFields (pd : PacketDeserialiser) :
    Except PacketError (DWORD × WString × WString × List UInt8) := do
  let maxPlayers ← pd.getDword 0
  let sessionName ← pd.getWstring 1
  let password ← pd.getWstring 2
  let applicationData ← pd.getData 3
  return (maxPlayers, sessionName, password, applicationData)

/-- The data of a `DESTROY_PEER` is only read by the player it names. -/
def destroyPeerFields (pd : PacketDeserialiser) (s : DirectPlay8Peer) :
    Except PacketError (DPNID × Option (List UInt8)) := do
  let destroyPlayerId ← pd.getDword 0
  if destroyPlayerId = s.localPlayerId then
    let terminateData ← pd.getData 1
    return (destroyPlayerId, some terminateData)
  else
    return (destroyPlayerId, none)

def groupFields (pd : PacketDeserialiser) :
    Except PacketError (DPNID × WString × List UInt8) := do
  let groupId ← pd.getDword 0
  let name ← pd.getWstring 1
  let data ← pd.getData 2
  return (groupId, name, data)

def groupJoinFields (pd : PacketDeserialiser) :
    Except PacketError (DPNID × DWORD × WString × List UInt8) := do
  let groupId ← pd.getDword 0
  let ackId ← pd.getDword 1
  let name ← pd.getWstring 2
  let data ← pd.getData 3
  return (groupId, ackId, name, data)

def groupLeaveFields (pd : PacketDeserialiser) :
    Except PacketError (DPNID × DWORD) := do
  let groupId ← pd.getDword 0
  let ackId ← pd.getDword 1
  return (groupId, ackId)

end Message

/-- The handlers look at a packet in no other way. -/
structure HandlersRead (peerId : UInt32) (sender : SockAddr) : Prop where
  hostEnumRequest : ReadsOnly
    (fun pd => Action.handleHostEnumRequest pd sender) Message.enumRequestFields
  connectHost : ReadsOnly (Action.handleHostConnectRequest peerId)
    fun pd s => Action.decodeConnectHost s pd
  connectHostFail : ReadsOnly (Action.handleHostConnectFail peerId)
    Message.connectFailFields
  connectPeer : ReadsOnly (Action.handleConnectPeer peerId)
    fun pd s => Action.decodeConnectPeer s pd
  connectPeerOk : ReadsOnly (Action.handleConnectPeerOk peerId)
    Action.decodeConnectPeerOk
  connectPeerFail : ReadsOnly (Action.handleConnectPeerFail peerId)
    fun pd => pd.getDword 0
  message : ReadsOnly Action.handleMessage messageFields
  playerinfo : ReadsOnly (Action.handlePlayerinfo peerId)
    Message.playerinfoFields
  ack : ReadsOnly (Action.handleAck peerId) Message.ackFields
  appdesc : ReadsOnly (Action.handleAppdesc peerId) Message.appdescFields
  destroyPeer : ReadsOnly (Action.handleDestroyPeer peerId)
    Message.destroyPeerFields
  terminateSession : ReadsOnly (Action.handleTerminateSession peerId)
    fun pd => pd.getData 0
  groupAllocate : ReadsOnly (Action.handleGroupAllocate peerId)
    fun pd => pd.getDword 0
  groupCreate : ReadsOnly (Action.handleGroupCreate peerId) Message.groupFields
  groupDestroy : ReadsOnly (Action.handleGroupDestroy peerId)
    fun pd => pd.getDword 0
  groupJoin : ReadsOnly (Action.handleGroupJoin peerId) Message.groupJoinFields
  groupJoined : ReadsOnly (Action.handleGroupJoined peerId) Message.groupFields
  groupLeave : ReadsOnly (Action.handleGroupLeave peerId)
    Message.groupLeaveFields
  groupLeft : ReadsOnly (Action.handleGroupLeft peerId) fun pd => pd.getDword 0

section Reading

variable {peerId : UInt32}

def Message.afterDestroyPeer (peer : Peer) (s : DirectPlay8Peer) :
    Except PacketError (DPNID × Option (List UInt8)) -> Action Unit
  | .error _ => pure ()
  | .ok (destroyPlayerId, terminateData) =>
      if peer.state ≠ .connected then pure ()
      else if peer.playerId ≠ s.hostPlayerId ∧
          peer.playerId ≠ destroyPlayerId then pure ()
      else
        match terminateData with
        | some terminateData =>
            Action.sessionTerminated terminateData do
              let s ← get
              Action.sendToConnected .high
                (Action.destroyPeerPacket s.localPlayerId) .nothing
        | none =>
            match s.playerToPeerId[destroyPlayerId]? with
            | none => pure ()
            | some destroyPeerId =>
                Action.invoke (.peerDestroy destroyPeerId dpnErrConnectionLost
                  destroyPlayerReasonHostDestroyedPlayer)

theorem handleDestroyPeer_eq (pd : PacketDeserialiser) :
    Action.handleDestroyPeer peerId pd =
      (do
        let peer ← Action.assertedPeer peerId
        let s ← get
        Message.afterDestroyPeer peer s (Message.destroyPeerFields pd s) :
          Action Unit) := by
  unfold Action.handleDestroyPeer
  congr 1
  funext peer
  congr 1
  funext s
  unfold Message.destroyPeerFields
  cases pd.getDword 0 with
  | error error => rfl
  | ok destroyPlayerId =>
      by_cases hself : destroyPlayerId = s.localPlayerId
      · subst hself
        cases pd.getData 1 with
        | error error =>
            simp [Action.caught, Bind.bind, Except.bind,
              Message.afterDestroyPeer]
        | ok terminateData =>
            simp [Action.caught, Bind.bind, Except.bind, Pure.pure, Except.pure,
              Message.afterDestroyPeer]
      · cases hthere : s.playerToPeerId[destroyPlayerId]? <;>
          simp [Action.caught, Bind.bind, Except.bind, Pure.pure, Except.pure,
            Message.afterDestroyPeer, hself, hthere]

theorem handlersRead_destroyPeer :
    ReadsOnly (Action.handleDestroyPeer peerId) Message.destroyPeerFields := by
  intro pd pd' h
  rw [handleDestroyPeer_eq, handleDestroyPeer_eq, h]

theorem handlersRead (peerId : UInt32) (sender : SockAddr) :
    HandlersRead peerId sender where
  hostEnumRequest := by
    intro pd pd' h
    have hguid : forall s : DirectPlay8Peer,
        Action.nullOr pd 0 s.applicationGuid (pd.getGuid 0) =
          Action.nullOr pd' 0 s.applicationGuid (pd'.getGuid 0) :=
      fun s => congrArg Prod.fst (congrFun h s)
    have hrest := congrArg Prod.snd (congrFun h .zeroed)
    have hdata : Action.nullOr pd 1 [] (pd.getData 1) =
        Action.nullOr pd' 1 [] (pd'.getData 1) := congrArg Prod.fst hrest
    have htick : pd.getDword 2 = pd'.getDword 2 := congrArg Prod.snd hrest
    unfold Action.handleHostEnumRequest
    simp only [hguid, hdata, htick]
  connectHost := by
    intro pd pd' h
    have hsame : forall s, Action.decodeConnectHost s pd =
        Action.decodeConnectHost s pd' := fun s => congrFun h s
    unfold Action.handleHostConnectRequest
    simp only [hsame]
  connectHostFail := by
    intro pd pd' h
    have herror : pd.getDword 0 = pd'.getDword 0 := congrArg Prod.fst h
    have hdata : Action.nullOr pd 1 [] (pd.getData 1) =
        Action.nullOr pd' 1 [] (pd'.getData 1) := congrArg Prod.snd h
    unfold Action.handleHostConnectFail Action.decodeConnectHostFail
    simp only [herror, hdata]
  connectPeer := by
    intro pd pd' h
    have hsame : forall s, Action.decodeConnectPeer s pd =
        Action.decodeConnectPeer s pd' := fun s => congrFun h s
    unfold Action.handleConnectPeer
    simp only [hsame]
  connectPeerOk := by
    intro pd pd' h
    unfold Action.handleConnectPeerOk
    simp only [h]
  connectPeerFail := by
    intro pd pd' _
    rfl
  message := by
    intro pd pd' h
    rw [Action.handleMessage_eq, Action.handleMessage_eq, h]
  playerinfo := by
    intro pd pd' h
    unfold Message.playerinfoFields at h
    unfold Action.handlePlayerinfo
    rw [h]
  ack := by
    intro pd pd' h
    unfold Message.ackFields at h
    unfold Action.handleAck
    rw [h]
  appdesc := by
    intro pd pd' h
    unfold Message.appdescFields at h
    unfold Action.handleAppdesc
    rw [h]
  destroyPeer := handlersRead_destroyPeer
  terminateSession := by
    intro pd pd' h
    have hfield : pd.getData 0 = pd'.getData 0 := h
    unfold Action.handleTerminateSession
    rw [hfield]
  groupAllocate := by
    intro pd pd' h
    have hfield : pd.getDword 0 = pd'.getDword 0 := h
    unfold Action.handleGroupAllocate
    rw [hfield]
  groupCreate := by
    intro pd pd' h
    unfold Message.groupFields at h
    unfold Action.handleGroupCreate
    rw [h]
  groupDestroy := by
    intro pd pd' h
    have hfield : pd.getDword 0 = pd'.getDword 0 := h
    unfold Action.handleGroupDestroy
    rw [hfield]
  groupJoin := by
    intro pd pd' h
    unfold Message.groupJoinFields at h
    unfold Action.handleGroupJoin
    rw [h]
  groupJoined := by
    intro pd pd' h
    unfold Message.groupFields at h
    unfold Action.handleGroupJoined
    rw [h]
  groupLeave := by
    intro pd pd' h
    unfold Message.groupLeaveFields at h
    unfold Action.handleGroupLeave
    rw [h]
  groupLeft := by
    intro pd pd' h
    have hfield : pd.getDword 0 = pd'.getDword 0 := h
    unfold Action.handleGroupLeft
    rw [hfield]

end Reading

/-!
## Fields
-/

namespace PacketDeserialiser

variable {pd : PacketDeserialiser} {index : Nat}

/-- Every field answers for the append it was made by. -/
def Holds (pd : PacketDeserialiser) (calls : List Append) : Prop :=
  forall index call, calls[index]? = some call -> pd.ReadsBack index call

theorem nullOr_present {α : Type} {absent : α} {field : Except PacketError α}
    (h : pd.isNull index = .ok false) :
    Action.nullOr pd index absent field = field := by
  unfold Action.nullOr
  rw [h]
  rfl

theorem nullOr_absent {α : Type} {absent : α} {field : Except PacketError α}
    (h : pd.isNull index = .ok true) :
    Action.nullOr pd index absent field = .ok absent := by
  unfold Action.nullOr
  rw [h]
  rfl

theorem nullOr_data {bytes : List UInt8}
    (h : pd.ReadsBack index (if bytes ≠ [] then .data bytes else .null)) :
    Action.nullOr pd index [] (pd.getData index) = .ok bytes := by
  split at h
  · rw [nullOr_present h.1]
    exact h.getData
  · rename_i hempty
    rw [nullOr_absent h.1, not_ne_iff.mp hempty]

theorem nullOr_wstring {string : WString}
    (h : pd.ReadsBack index (if string ≠ [] then .wstring string else .null)) :
    Action.nullOr pd index [] (pd.getWstring index) = .ok string := by
  split at h
  · rw [nullOr_present h.1]
    exact h.getWstring
  · rename_i hempty
    rw [nullOr_absent h.1, not_ne_iff.mp hempty]

theorem nullOr_guid {id absent : GUID}
    (h : pd.ReadsBack index (if id ≠ guidNull then .guid id else .null)) :
    Action.nullOr pd index absent (pd.getGuid index) =
      .ok (if id ≠ guidNull then id else absent) := by
  split at h
  · rename_i hid
    rw [nullOr_present h.1, if_pos hid]
    exact h.getGuid
  · rename_i hid
    rw [nullOr_absent h.1, if_neg hid]

theorem readDwords_ok {words : List DWORD} {base : Nat}
    (h : forall i word, words[i]? = some word ->
      pd.getDword (base + i) = .ok word) :
    Action.readDwords pd base words.length = .ok words := by
  induction words generalizing base with
  | nil => rfl
  | cons word rest ih =>
      have hfirst : pd.getDword base = .ok word := h 0 word rfl
      have hrest : Action.readDwords pd (base + 1) rest.length = .ok rest := by
        apply ih
        intro i found hfound
        have hnext := h (i + 1) found hfound
        rwa [Nat.add_comm i 1, ← Nat.add_assoc] at hnext
      simp [Action.readDwords, hfirst, hrest, Bind.bind, Except.bind, Pure.pure,
        Except.pure]

end PacketDeserialiser

theorem Append.encodeAll_dwords_length (words : List DWORD) :
    (encodeAll (words.map dword)).length = 12 * words.length := by
  induction words with
  | nil => rfl
  | cons word rest ih =>
      rw [List.map_cons, encodeAll_cons, List.length_append, encode_length, ih,
        List.length_cons]
      simp only [value, LittleEndian.bytes32_length]
      omega

/-!
## What arrives
-/

namespace Message

/-- Whom a host lets in, comparing what a client has sent with its own session. -/
def connectHostAnswer (sender s : DirectPlay8Peer) : Action.ConnectHost :=
  if sender.instanceGuid ≠ guidNull ∧ sender.instanceGuid ≠ s.instanceGuid then
    .rejected dpnErrInvalidInstance
  else if sender.applicationGuid ≠ s.applicationGuid then
    .rejected dpnErrInvalidApplication
  else if sender.password ≠ s.password then .rejected dpnErrInvalidPassword
  else
    .accepted sender.localPlayerName sender.localPlayerData
      sender.connectReqData

def connectPeerAnswer (sender s : DirectPlay8Peer) : Action.ConnectPeer :=
  if sender.instanceGuid ≠ s.instanceGuid then
    .rejected dpnErrInvalidInstance
  else if sender.applicationGuid ≠ s.applicationGuid then
    .rejected dpnErrInvalidApplication
  else if sender.password ≠ s.password then .rejected dpnErrInvalidPassword
  else
    .accepted sender.localPlayerId sender.localPlayerName
      sender.localPlayerData

/-- The handler of a receiver decodes what the sender has put in. -/
def Recovered (s : DirectPlay8Peer) (pd : PacketDeserialiser) :
    Message -> Prop
  | hostEnumRequest applicationGuid userData now =>
      enumRequestFields pd s =
        (.ok (if applicationGuid ≠ guidNull then applicationGuid
            else s.applicationGuid), .ok userData, .ok now)
  | hostEnumResponse sender responseData reqTick =>
      HostEnumerator.handlePacket pd = some
        { flags := if sender.password = [] then 0 else dpnSessionRequirePassword
          instanceGuid := sender.instanceGuid
          applicationGuid := sender.applicationGuid
          maxPlayers := sender.maxPlayers
          currentPlayers := UInt32.ofNat (sender.playerToPeerId.size + 1)
          sessionName := sender.sessionName
          applicationData := sender.applicationData
          responseData := responseData
          requestTickCount := reqTick }
  | connectHost sender =>
      Action.decodeConnectHost s pd = .ok (connectHostAnswer sender s)
  | connectHostFail error data =>
      connectFailFields pd = (.ok error, .ok data)
  | connectPeer sender =>
      Action.decodeConnectPeer s pd = .ok (connectPeerAnswer sender s)
  | connectPeerOk sender =>
      Action.decodeConnectPeerOk pd = .ok
        { name := sender.localPlayerName
          playerData := sender.localPlayerData
          groups := Action.memberGroupIds sender }
  | connectPeerFail error => pd.getDword 0 = .ok error
  | message sender payload flags =>
      messageFields pd = .ok (sender.localPlayerId, payload) ∧
        pd.getDword 2 = .ok (flags &&& (dpnSendGuaranteed ||| dpnSendCoalesce
          ||| dpnSendCompleteOnProcess))
  | playerinfo playerId name data ackId =>
      playerinfoFields pd = .ok (playerId, name, data, ackId)
  | ack ackId result data => ackFields pd = .ok (ackId, result, data)
  | appdesc sender =>
      appdescFields pd = .ok (sender.maxPlayers, sender.sessionName,
        sender.password, sender.applicationData)
  | destroyPeer playerId none =>
      destroyPeerFields pd s = .ok (playerId, none)
  | destroyPeer playerId (some data) =>
      destroyPeerFields pd s =
        .ok (playerId, if playerId = s.localPlayerId then some data else none)
  | terminateSession data => pd.getData 0 = .ok data
  | groupAllocate ackId => pd.getDword 0 = .ok ackId
  | groupCreate groupId name data => groupFields pd = .ok (groupId, name, data)
  | groupDestroy groupId => pd.getDword 0 = .ok groupId
  | groupJoin groupId ackId name data =>
      groupJoinFields pd = .ok (groupId, ackId, name, data)
  | groupJoined groupId group =>
      groupFields pd = .ok (groupId, group.name, group.data)
  | groupLeave groupId ackId => groupLeaveFields pd = .ok (groupId, ackId)
  | groupLeft groupId => pd.getDword 0 = .ok groupId

/-- `DESTROY_PEER` carries no data for the players it does not name. -/
def MeantFor (s : DirectPlay8Peer) : Message -> Prop
  | destroyPeer playerId none => playerId ≠ s.localPlayerId
  | _ => True

section Recovering

variable {s sender : DirectPlay8Peer} {pd : PacketDeserialiser}

theorem hostEnumRequest_recovered {applicationGuid : GUID}
    {userData : List UInt8} {now : DWORD}
    (h : pd.Holds (fields (.hostEnumRequest applicationGuid userData now))) :
    Recovered s pd (.hostEnumRequest applicationGuid userData now) := by
  have hguid : Action.nullOr pd 0 s.applicationGuid (pd.getGuid 0) = .ok
      (if applicationGuid ≠ guidNull then applicationGuid
        else s.applicationGuid) := PacketDeserialiser.nullOr_guid (h 0 _ rfl)
  have hdata : Action.nullOr pd 1 [] (pd.getData 1) = .ok userData :=
    PacketDeserialiser.nullOr_data (h 1 _ rfl)
  have hnow : pd.getDword 2 = .ok now := (h 2 _ rfl).getDword
  show enumRequestFields pd s = _
  rw [enumRequestFields, hguid, hdata, hnow]

theorem hostEnumResponse_recovered {responseData : List UInt8}
    {reqTick : DWORD} (htype : pd.packetType = msgidHostEnumResponse)
    (h : pd.Holds (fields (.hostEnumResponse sender responseData reqTick))) :
    Recovered s pd (.hostEnumResponse sender responseData reqTick) := by
  have hflags := (h 0 _ rfl).getDword
  have hinstance := (h 1 _ rfl).getGuid
  have happlication := (h 2 _ rfl).getGuid
  have hmax := (h 3 _ rfl).getDword
  have hcurrent := (h 4 _ rfl).getDword
  have hname := (h 5 _ rfl).getWstring
  have hdata : Action.nullOr pd 6 [] (pd.getData 6) =
      .ok sender.applicationData := PacketDeserialiser.nullOr_data (h 6 _ rfl)
  have hresponse : Action.nullOr pd 7 [] (pd.getData 7) = .ok responseData :=
    PacketDeserialiser.nullOr_data (h 7 _ rfl)
  have htick := (h 8 _ rfl).getDword
  show HostEnumerator.handlePacket pd = _
  rw [HostEnumerator.handlePacket, if_neg (not_not.mpr htype),
    HostEnumerator.decodeHostEnumResponse, hflags, hinstance, happlication, hmax,
    hcurrent, hname, hdata, hresponse, htick]
  rfl

theorem connectHost_recovered (h : pd.Holds (fields (.connectHost sender))) :
    Recovered s pd (.connectHost sender) := by
  have hinstance : Action.nullOr pd 0 s.instanceGuid (pd.getGuid 0) = .ok
      (if sender.instanceGuid ≠ guidNull then sender.instanceGuid
        else s.instanceGuid) := PacketDeserialiser.nullOr_guid (h 0 _ rfl)
  have happlication := (h 1 _ rfl).getGuid
  have hpassword : Action.nullOr pd 2 [] (pd.getWstring 2) =
      .ok sender.password := PacketDeserialiser.nullOr_wstring (h 2 _ rfl)
  have hrequest : Action.nullOr pd 3 [] (pd.getData 3) =
      .ok sender.connectReqData := PacketDeserialiser.nullOr_data (h 3 _ rfl)
  have hname := (h 4 _ rfl).getWstring
  have hdata := (h 5 _ rfl).getData
  have hrejects : ((if sender.instanceGuid ≠ guidNull then sender.instanceGuid
        else s.instanceGuid) ≠ s.instanceGuid) ↔
      (sender.instanceGuid ≠ guidNull ∧
        sender.instanceGuid ≠ s.instanceGuid) := by
    by_cases hnull : sender.instanceGuid = guidNull <;> simp [hnull]
  show Action.decodeConnectHost s pd = _
  rw [Action.decodeConnectHost, hinstance, happlication, hpassword, hrequest,
    hname, hdata, connectHostAnswer]
  simp only [Bind.bind, Except.bind, hrejects]
  split
  · rfl
  split
  · rfl
  split
  · rfl
  · rfl

theorem connectPeer_recovered (h : pd.Holds (fields (.connectPeer sender))) :
    Recovered s pd (.connectPeer sender) := by
  have hinstance := (h 0 _ rfl).getGuid
  have happlication := (h 1 _ rfl).getGuid
  have hpassword := (h 2 _ rfl).getWstring
  have hplayer := (h 3 _ rfl).getDword
  have hname := (h 4 _ rfl).getWstring
  have hdata := (h 5 _ rfl).getData
  show Action.decodeConnectPeer s pd = _
  rw [Action.decodeConnectPeer, hinstance, happlication, hpassword, hplayer,
    hname, hdata, connectPeerAnswer]
  simp only [Bind.bind, Except.bind]
  split
  · rfl
  split
  · rfl
  split
  · rfl
  · rfl

theorem connectPeerOk_recovered
    (hcount : (Action.memberGroupIds sender).length < 2 ^ 32)
    (h : pd.Holds (fields (.connectPeerOk sender))) :
    Recovered s pd (.connectPeerOk sender) := by
  have hname := (h 0 _ rfl).getWstring
  have hdata := (h 1 _ rfl).getData
  have hlength := (h 2 _ rfl).getDword
  have hgroups : Action.readDwords pd 3 (Action.memberGroupIds sender).length =
      .ok (Action.memberGroupIds sender) := by
    apply PacketDeserialiser.readDwords_ok
    intro i groupId hgroup
    refine (h (3 + i) (.dword groupId) ?_).getDword
    show ([_, _, _] ++ (Action.memberGroupIds sender).map Append.dword)[3 + i]? =
      some (.dword groupId)
    rw [List.getElem?_append_right (by simp), List.getElem?_map]
    simpa using hgroup
  have hnumber : (UInt32.ofNat (Action.memberGroupIds sender).length).toNat =
      (Action.memberGroupIds sender).length := by
    rw [UInt32.toNat_ofNat', Nat.mod_eq_of_lt hcount]
  show Action.decodeConnectPeerOk pd = _
  rw [Action.decodeConnectPeerOk, hname, hdata, hlength]
  simp only [Bind.bind, Except.bind, hnumber, hgroups]
  rfl

theorem destroyPeer_recovered {playerId : DPNID} {data : Option (List UInt8)}
    (hmeant : MeantFor s (.destroyPeer playerId data))
    (h : pd.Holds (fields (.destroyPeer playerId data))) :
    Recovered s pd (.destroyPeer playerId data) := by
  cases data with
  | none =>
      have hplayer := (h 0 _ rfl).getDword
      show destroyPeerFields pd s = _
      rw [destroyPeerFields, hplayer]
      simp only [Bind.bind, Except.bind]
      rw [if_neg hmeant]
      rfl
  | some data =>
      have hplayer := (h 0 _ rfl).getDword
      have hdata := (h 1 _ rfl).getData
      show destroyPeerFields pd s = _
      rw [destroyPeerFields, hplayer, hdata]
      simp only [Bind.bind, Except.bind]
      split
      · rfl
      · rfl

theorem recovered {m : Message} (hmeant : m.MeantFor s)
    (h32 : m.packet.rawPacket.length < 2 ^ 32)
    (htype : pd.packetType = m.msgid) (h : pd.Holds m.fields) :
    m.Recovered s pd := by
  cases m with
  | hostEnumRequest => exact hostEnumRequest_recovered h
  | hostEnumResponse => exact hostEnumResponse_recovered htype h
  | connectHost => exact connectHost_recovered h
  | connectHostFail error data =>
      have herror := (h 0 _ rfl).getDword
      have hdata : Action.nullOr pd 1 [] (pd.getData 1) = .ok data :=
        PacketDeserialiser.nullOr_data (h 1 _ rfl)
      show connectFailFields pd = _
      rw [connectFailFields, herror, hdata]
  | connectPeer => exact connectPeer_recovered h
  | connectPeerOk sender =>
      refine connectPeerOk_recovered ?_ h
      rw [packet_eq, serialise_rawPacket_length, fields,
        Append.encodeAll_append, List.length_append,
        Append.encodeAll_dwords_length] at h32
      omega
  | connectPeerFail error => exact (h 0 _ rfl).getDword
  | message sender payload flags =>
      have hplayer := (h 0 _ rfl).getDword
      have hpayload := (h 1 _ rfl).getData
      have hflags := (h 2 _ rfl).getDword
      constructor
      · rw [messageFields, hplayer, hpayload, hflags]
        rfl
      · exact hflags
  | playerinfo playerId name data ackId =>
      have hplayer := (h 0 _ rfl).getDword
      have hname := (h 1 _ rfl).getWstring
      have hdata := (h 2 _ rfl).getData
      have hack := (h 3 _ rfl).getDword
      show playerinfoFields pd = _
      rw [playerinfoFields, hplayer, hname, hdata, hack]
      rfl
  | ack ackId result data =>
      have hack := (h 0 _ rfl).getDword
      have hresult := (h 1 _ rfl).getDword
      have hdata := (h 2 _ rfl).getData
      show ackFields pd = _
      rw [ackFields, hack, hresult, hdata]
      rfl
  | appdesc sender =>
      have hmax := (h 0 _ rfl).getDword
      have hname := (h 1 _ rfl).getWstring
      have hpassword := (h 2 _ rfl).getWstring
      have hdata := (h 3 _ rfl).getData
      show appdescFields pd = _
      rw [appdescFields, hmax, hname, hpassword, hdata]
      rfl
  | destroyPeer => exact destroyPeer_recovered hmeant h
  | terminateSession data => exact (h 0 _ rfl).getData
  | groupAllocate ackId => exact (h 0 _ rfl).getDword
  | groupCreate groupId name data =>
      have hgroup := (h 0 _ rfl).getDword
      have hname := (h 1 _ rfl).getWstring
      have hdata := (h 2 _ rfl).getData
      show groupFields pd = _
      rw [groupFields, hgroup, hname, hdata]
      rfl
  | groupDestroy groupId => exact (h 0 _ rfl).getDword
  | groupJoin groupId ackId name data =>
      have hgroup := (h 0 _ rfl).getDword
      have hack := (h 1 _ rfl).getDword
      have hname := (h 2 _ rfl).getWstring
      have hdata := (h 3 _ rfl).getData
      show groupJoinFields pd = _
      rw [groupJoinFields, hgroup, hack, hname, hdata]
      rfl
  | groupJoined groupId group =>
      have hgroup := (h 0 _ rfl).getDword
      have hname := (h 1 _ rfl).getWstring
      have hdata := (h 2 _ rfl).getData
      show groupFields pd = _
      rw [groupFields, hgroup, hname, hdata]
      rfl
  | groupLeave groupId ackId =>
      have hgroup := (h 0 _ rfl).getDword
      have hack := (h 1 _ rfl).getDword
      show groupLeaveFields pd = _
      rw [groupLeaveFields, hgroup, hack]
      rfl
  | groupLeft groupId => exact (h 0 _ rfl).getDword

/--
What is built of a message is a packet, whatever comes behind it, and its handler
decodes what was put in.
-/
theorem arrives {m : Message} (hmeant : m.MeantFor s)
    (h32 : m.packet.rawPacket.length < 2 ^ 32) (peerId : UInt32)
    (extra : List UInt8) (beyond : Memory) :
    exists pd,
      PacketDeserialiser.Constructs 32
        (bufferOf (m.packet.rawPacket ++ extra) beyond)
        (m.packet.rawPacket ++ extra).length (.ok pd) ∧
      pd.packetType = m.msgid ∧
      Action.packetHandler peerId pd = m.handler peerId pd ∧ m.Recovered s pd := by
  have h32' := h32
  rw [packet_eq] at h32'
  obtain ⟨pd, hpd, htype, _, hreads⟩ :=
    PacketDeserialiser.serialise_readsBack (Nat.le_refl 32) m.msgid m.fields
      h32' extra beyond
  have hholds : pd.Holds m.fields := by
    intro index call hcall
    obtain ⟨hindex, hget⟩ := List.getElem?_eq_some_iff.mp hcall
    rw [← hget]
    exact hreads index hindex
  refine ⟨pd, ?_, htype, ?_, recovered hmeant h32 htype hholds⟩
  · rw [packet_eq]
    exact hpd
  · unfold Action.packetHandler
    rw [htype]
    cases m <;> rfl

end Recovering

end Message

end DirectPlayLite
