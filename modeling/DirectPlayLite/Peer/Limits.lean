import DirectPlayLite.Peer.Senders

/-!
# How large packets are

`io_peer_recv` gives a connection up when a packet on it is larger than
`MAX_PACKET_SIZE`.  The senders never look at the size of what they send: a packet
stays within the limit exactly when what it carries leaves it room.
-/

namespace DirectPlayLite

open Monitor Program LittleEndian

/-!
## Sizes
-/

namespace Message

/-- The bytes of a packet besides the names, data and lists in it. -/
def fixed : Message -> Nat
  | hostEnumRequest .. => 36
  | hostEnumResponse .. => 128
  | connectHost .. => 72
  | connectHostFail .. => 28
  | connectPeer .. => 92
  | connectPeerOk .. => 36
  | connectPeerFail .. => 20
  | message .. => 40
  | playerinfo .. => 48
  | ack .. => 40
  | appdesc .. => 44
  | destroyPeer _ none => 20
  | destroyPeer _ (some _) => 28
  | terminateSession .. => 16
  | groupAllocate .. => 20
  | groupCreate .. => 36
  | groupDestroy .. => 20
  | groupJoin .. => 48
  | groupJoined .. => 36
  | groupLeave .. => 32
  | groupLeft .. => 20

/-- The bytes of the names, data and lists a message is made of. -/
def carried : Message -> Nat
  | hostEnumRequest applicationGuid userData _ =>
      (if applicationGuid ≠ guidNull then 16 else 0) + userData.length
  | hostEnumResponse sender responseData _ =>
      2 * sender.sessionName.length + sender.applicationData.length
        + responseData.length
  | connectHost sender =>
      (if sender.instanceGuid ≠ guidNull then 16 else 0)
        + 2 * sender.password.length + sender.connectReqData.length
        + 2 * sender.localPlayerName.length + sender.localPlayerData.length
  | connectHostFail _ data => data.length
  | connectPeer sender =>
      2 * sender.password.length + 2 * sender.localPlayerName.length
        + sender.localPlayerData.length
  | connectPeerOk sender =>
      2 * sender.localPlayerName.length + sender.localPlayerData.length
        + 12 * (Action.memberGroupIds sender).length
  | message _ payload _ => payload.length
  | playerinfo _ name data _ => 2 * name.length + data.length
  | ack _ _ data => data.length
  | appdesc sender =>
      2 * sender.sessionName.length + 2 * sender.password.length
        + sender.applicationData.length
  | destroyPeer _ (some data) => data.length
  | terminateSession data => data.length
  | groupCreate _ name data => 2 * name.length + data.length
  | groupJoin _ _ name data => 2 * name.length + data.length
  | groupJoined _ group => 2 * group.name.length + group.data.length
  | connectPeerFail .. | destroyPeer _ none | groupAllocate .. | groupDestroy ..
  | groupLeave .. | groupLeft .. => 0

/-- What a message carries leaves its packet within the limit. -/
def Fits (m : Message) : Prop := m.carried ≤ maxPacketSize - m.fixed

theorem data_or_null_length (bytes : List UInt8) :
    (if bytes ≠ [] then Append.data bytes else .null).value.length =
      bytes.length := by
  split
  · rfl
  · rename_i hempty
    rw [not_ne_iff.mp hempty]
    rfl

theorem wstring_or_null_length (string : WString) :
    (if string ≠ [] then Append.wstring string else .null).value.length =
      2 * string.length := by
  split
  · exact unitsToBytes_length string
  · rename_i hempty
    rw [not_ne_iff.mp hempty]
    rfl

theorem guid_or_null_length (id : GUID) :
    (if id ≠ guidNull then Append.guid id else .null).value.length =
      if id ≠ guidNull then 16 else 0 := by
  split
  · exact Vector.length_toList
  · rfl

theorem packet_length (m : Message) :
    m.packet.rawPacket.length = m.fixed + m.carried := by
  rw [packet_eq, serialise_rawPacket_length]
  cases m with
  | connectPeerOk sender =>
      rw [fields, Append.encodeAll_append, List.length_append,
        Append.encodeAll_dwords_length]
      simp only [Append.encodeAll_cons, Append.encodeAll_nil, List.length_append,
        List.length_nil, Append.encode_length, Append.value, bytes32_length,
        unitsToBytes_length, fixed, carried]
      omega
  | destroyPeer playerId data =>
      cases data with
      | none => rfl
      | some data =>
          simp only [fields, Append.encodeAll_cons, Append.encodeAll_nil,
            List.length_append, List.length_nil, Append.encode_length,
            Append.value, bytes32_length, fixed, carried]
          omega
  | _ =>
      simp only [fields, Append.encodeAll_cons, Append.encodeAll_nil,
        List.length_append, List.length_nil, Append.encode_length,
        data_or_null_length, wstring_or_null_length, guid_or_null_length]
      simp only [Append.value, bytes32_length, unitsToBytes_length,
        Vector.length_toList, fixed, carried]
      try omega

theorem packet_fits (m : Message) :
    m.packet.rawPacket.length ≤ maxPacketSize ↔ m.Fits := by
  have hfixed : m.fixed ≤ maxPacketSize := by
    unfold fixed maxPacketSize
    split <;> decide
  rw [packet_length, Fits]
  omega

end Message

/-!
## The answer to a client
-/

namespace Action

variable {s : DirectPlay8Peer} {peerId : UInt32} {playerId : DPNID}
  {replyData : List UInt8}

def connectHostOkCarried (s : DirectPlay8Peer) (peerId : UInt32)
    (replyData : List UInt8) : Nat :=
  36 * (otherPeers s peerId).length + replyData.length
    + 2 * s.localPlayerName.length + s.localPlayerData.length
    + 2 * s.sessionName.length + 2 * s.password.length
    + s.applicationData.length + 12 * (memberGroupIds s).length

theorem encodeAll_peers_length (peers : List Peer) :
    (Append.encodeAll (peers.flatMap fun peer =>
      [.dword peer.playerId, .dword peer.ip, .dword peer.port.toUInt32])).length =
      36 * peers.length := by
  induction peers with
  | nil => rfl
  | cons peer rest ih =>
      rw [List.flatMap_cons, Append.encodeAll_append, List.length_append, ih]
      simp only [Append.encodeAll_cons, Append.encodeAll_nil, List.length_append,
        List.length_nil, Append.encode_length, Append.value, bytes32_length,
        List.length_cons]
      omega

theorem connectHostOkPacket_length :
    (connectHostOkPacket s peerId playerId replyData).rawPacket.length =
      140 + connectHostOkCarried s peerId replyData := by
  rw [connectHostOkPacket, serialise_rawPacket_length, connectHostOkFields]
  simp only [Append.encodeAll_append, List.length_append,
    Append.encodeAll_dwords_length, encodeAll_peers_length]
  simp only [Append.encodeAll_cons, Append.encodeAll_nil, List.length_append,
    List.length_nil, Append.encode_length, Message.data_or_null_length]
  simp only [Append.value, bytes32_length, unitsToBytes_length,
    Vector.length_toList, connectHostOkCarried]
  omega

end Action

/-!
## Runs
-/

def ConnectHostOkFits (p : Proc) (packet : List UInt8) : Prop :=
  exists (peerId : UInt32) (pd : PacketDeserialiser) (sender : DirectPlay8Peer)
    (playerId : DPNID) (replyData : List UInt8),
    p = .handleHostConnectRequest peerId pd ∧
      packet = (Action.connectHostOkPacket sender peerId playerId
        replyData).rawPacket ∧
      (packet.length ≤ maxPacketSize ↔
        Action.connectHostOkCarried sender peerId replyData ≤
          maxPacketSize - 140)

/--
A packet is put into the queue of a peer within the limit exactly when the names,
data and lists it carries leave it room.
-/
theorem sends_within_limit {c c' : Run} {p : Proc} {peerId : UInt32}
    {priority : SendPriority} {packet : List UInt8} {handle : DPNHANDLE}
    {callback : SendCallback}
    (hc : Reaches machine DirectPlay8Peer.Constructed Unrestricted c)
    (hstep : Step machine c
      (.exec p (.peer peerId (.send priority packet handle callback))) c') :
    (exists m, Sends p m ∧ packet = m.packet.rawPacket ∧
      (packet.length ≤ maxPacketSize ↔ m.Fits)) ∨
    ConnectHostOkFits p packet := by
  rcases puts_messages hc hstep rfl with ⟨m, hsends, rfl⟩ |
    ⟨receiver, pd, sender, playerId, replyData, rfl, rfl⟩
  · exact Or.inl ⟨m, hsends, rfl, m.packet_fits⟩
  · refine Or.inr ⟨receiver, pd, sender, playerId, replyData, rfl, rfl, ?_⟩
    rw [Action.connectHostOkPacket_length]
    unfold maxPacketSize
    omega

/-!
## A large packet
-/

namespace Action

theorem destroyPeer_code {s : DirectPlay8Peer} {client : DPNID}
    {peerId : UInt32} {peer : Peer} (data : List UInt8)
    (hhosting : s.state = .hosting) (hother : client ≠ s.localPlayerId)
    (hfound : s.findPlayer client = some (peerId, peer)) :
    exists next, Action.destroyPeer client data = .read next ∧
      exists rest, next s = .exec (.peer peerId (.send .high
        (serialise msgidDestroyPeer
          [.dword peer.playerId, .data data]).rawPacket 0 .nothing)) rest := by
  refine ⟨_, rfl, ?_⟩
  dsimp only [Program.bind]
  rw [hhosting]
  dsimp only [hostStateError]
  rw [if_neg hother, hfound]
  exact ⟨_, rfl⟩

end Action

def Run.hostsPlayer (c : Run) (player : DPNID) : Bool :=
  decide (c.Free ∧ c.state.state = .hosting ∧ player ≠ c.state.localPlayerId) &&
    (c.state.findPlayer player).isSome

theorem sends_destroyPeer {c : Run} {player : DPNID} (data : List UInt8)
    (hc : Reaches machine DirectPlay8Peer.Constructed Unrestricted c)
    (hhosts : Run.hostsPlayer c player = true) :
    exists (before after : Run) (peerId : UInt32) (playerId : DPNID),
      Reaches machine DirectPlay8Peer.Constructed Unrestricted before ∧
        Step machine before (.exec (.destroyPeer player data)
          (.peer peerId (.send .high
            (Message.destroyPeer playerId (some data)).packet.rawPacket 0
            .nothing))) after := by
  obtain ⟨s, running, parked, fault⟩ := c
  unfold Run.hostsPlayer at hhosts
  rw [Bool.and_eq_true] at hhosts
  obtain ⟨⟨hrunning, hfault⟩, hhosting, hother⟩ := of_decide_eq_true hhosts.1
  obtain ⟨⟨peerId, peer⟩, hfound⟩ := Option.isSome_iff_exists.mp hhosts.2
  dsimp only at hrunning hfault
  subst hrunning hfault
  obtain ⟨next, hcode, rest, hnext⟩ :=
    Action.destroyPeer_code data hhosting hother hfound
  have hbody : machine.body (.destroyPeer player data) = .read next := hcode
  have hstart : Step machine ⟨s, none, parked, none⟩
      (.start (.destroyPeer player data))
      ⟨s, some ⟨.destroyPeer player data, .read next, []⟩, parked, none⟩ := by
    rw [← hbody]
    exact .start rfl
  have hread : Step machine
      ⟨s, some ⟨.destroyPeer player data, .read next, []⟩, parked, none⟩
      (.silent (.destroyPeer player data))
      ⟨s, some ⟨.destroyPeer player data, next s, []⟩, parked, none⟩ := .read
  have hbefore := (hc.step hstart trivial).step hread trivial
  rw [hnext] at hbefore
  exact ⟨_, _, peerId, peer.playerId, hbefore, .exec⟩

theorem admitted_hostsPlayer :
    exists c : Run,
      Reaches machine DirectPlay8Peer.Constructed Unrestricted c ∧
        Run.hostsPlayer c 2 = true := by
  have hrun : (replay Unrestricted choicesAdmit).any
      (fun c => Run.hostsPlayer c 2) = true := by
    decide +kernel
  exact replay_reaches hrun

/-- Without data the packet is within the limit. -/
theorem sends_within_limit_destroyPeer :
    exists (c c' : Run) (p : Proc) (peerId : UInt32) (packet : List UInt8),
      Reaches machine DirectPlay8Peer.Constructed Unrestricted c ∧
        Step machine c
          (.exec p (.peer peerId (.send .high packet 0 .nothing))) c' ∧
        packet.length ≤ maxPacketSize ∧
        ((exists m, Sends p m ∧ packet = m.packet.rawPacket ∧
            (packet.length ≤ maxPacketSize ↔ m.Fits)) ∨
          ConnectHostOkFits p packet) := by
  obtain ⟨c, hc, hhosts⟩ := admitted_hostsPlayer
  obtain ⟨before, after, peerId, playerId, hbefore, hstep⟩ :=
    sends_destroyPeer [] hc hhosts
  refine ⟨before, after, _, peerId, _, hbefore, hstep, ?_,
    sends_within_limit hbefore hstep⟩
  rw [Message.packet_length]
  show 28 + 0 ≤ maxPacketSize
  decide

/-- The application destroys a player, with as many bytes of data as the limit. -/
theorem sends_beyond_limit :
    ¬ forall (c c' : Run) (p : Proc) (peerId : UInt32)
      (priority : SendPriority) (packet : List UInt8) (handle : DPNHANDLE)
      (callback : SendCallback),
      Reaches machine DirectPlay8Peer.Constructed Unrestricted c ->
      Step machine c
        (.exec p (.peer peerId (.send priority packet handle callback))) c' ->
      packet.length ≤ maxPacketSize := by
  intro hclaim
  obtain ⟨c, hc, hhosts⟩ := admitted_hostsPlayer
  obtain ⟨before, after, peerId, playerId, hbefore, hstep⟩ :=
    sends_destroyPeer (List.replicate maxPacketSize 0) hc hhosts
  have hlength := hclaim before after _ peerId .high _ 0 .nothing hbefore hstep
  rw [Message.packet_length] at hlength
  simp only [Message.fixed, Message.carried, List.length_replicate] at hlength
  omega

end DirectPlayLite
