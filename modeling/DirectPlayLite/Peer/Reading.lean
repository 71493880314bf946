import DirectPlayLite.Lib.Framing
import DirectPlayLite.Peer.Custodies
import DirectPlayLite.Peer.PeerIds

/-!
# Reading a connection

The thread that has set `recv_busy` holds the receive buffer of a peer, also while the
handler of a packet has given up the lock.  What it hands to the handlers are the packets
of the stream, however the stream comes in.
-/

namespace DirectPlayLite

open Monitor Program

/-!
## Packets of a stream
-/

/-- Packets are cut out of the bytes of a connection by the length in their header. -/
def packetFraming : Framing UInt8 where
  header := sizeofTLVChunk
  size := Action.fullPacketSize
  size_append := by
    intro xs ys hlong
    have hheader : 4 ≤ (xs.drop 4).length := by
      rw [List.length_drop]
      have hsize : sizeofTLVChunk = 8 := rfl
      omega
    have hdrop : 4 ≤ xs.length := by
      have hsize : sizeofTLVChunk = 8 := rfl
      omega
    simp only [Action.fullPacketSize]
    rw [List.drop_append_of_le_length hdrop, List.take_append_of_le_length hheader]

/-- A buffer that has to wait for more bytes, with room for them. -/
def AwaitsMore (recvBuf : List UInt8) : Prop :=
  ¬ packetFraming.BeginsWithFrame recvBuf ∧ recvBuf.length < maxPacketSize

theorem awaitsMore_nil : AwaitsMore [] := by
  constructor
  · intro h
    cases h.1
  · decide

theorem packet_of_construct {mem : Memory} {fuel size : Nat} {pd : PacketDeserialiser}
    (h : PacketDeserialiser.construct 32 fuel mem size = some (.ok pd)) :
    sizeofTLVChunk ≤ size := by
  unfold PacketDeserialiser.construct at h
  split at h
  · cases h
  · rename_i hlong
    omega

/-!
## What is written down
-/

inductive ReadingEvent where
  /-- `recv` has returned bytes. -/
  | read (peer : Nat) (bytes : List UInt8)
  /-- `recv` has returned bytes for a peer that is closing. -/
  | discarded (peer : Nat)
  /-- A packet has been handed to its handler. -/
  | delivered (peer : Nat) (packet : List UInt8)
  | inserted (peerId : UInt32)
deriving Repr, DecidableEq

namespace ReadingEvent

def peer : ReadingEvent -> Option Nat
  | read addr _ | discarded addr | delivered addr _ => some addr
  | inserted _ => none

def bytesOf (addr : Nat) : ReadingEvent -> List UInt8
  | read peer bytes => if peer = addr then bytes else []
  | _ => []

def packetOf (addr : Nat) : ReadingEvent -> Option (List UInt8)
  | delivered peer packet => if peer = addr then some packet else none
  | _ => none

end ReadingEvent

def bytesRead (addr : Nat) (events : List ReadingEvent) : List UInt8 :=
  events.reverse.flatMap (ReadingEvent.bytesOf addr)

/-- The packets of a peer that have been handed to their handlers. -/
def packetsRead (addr : Nat) (events : List ReadingEvent) : List (List UInt8) :=
  events.reverse.filterMap (ReadingEvent.packetOf addr)

def Discarded (addr : Nat) (events : List ReadingEvent) : Prop :=
  ReadingEvent.discarded addr ∈ events

instance {addr : Nat} {events : List ReadingEvent} : Decidable (Discarded addr events) :=
  inferInstanceAs (Decidable (_ ∈ _))

/-- All bytes read from the peer have been cut into packets, up to some that are left. -/
def IsCut (addr : Nat) (events : List ReadingEvent) (left : List UInt8) : Prop :=
  ¬ Discarded addr events -> bytesRead addr events = (packetsRead addr events).flatten ++ left

section Events

variable {addr : Nat} {event : ReadingEvent} {events : List ReadingEvent}

@[simp] theorem bytesRead_cons : bytesRead addr (event :: events) =
    bytesRead addr events ++ event.bytesOf addr := by
  simp [bytesRead, List.flatMap_append]

@[simp] theorem packetsRead_cons : packetsRead addr (event :: events) =
    packetsRead addr events ++ (event.packetOf addr).toList := by
  rw [packetsRead, List.reverse_cons, List.filterMap_append]
  cases h : event.packetOf addr <;> simp [packetsRead, h]

/-- The same has been written down about a peer. -/
structure SameReading (addr : Nat) (events events' : List ReadingEvent) : Prop where
  bytes : bytesRead addr events' = bytesRead addr events
  packets : packetsRead addr events' = packetsRead addr events
  discarded : Discarded addr events' ↔ Discarded addr events

theorem SameReading.refl : SameReading addr events events := ⟨rfl, rfl, Iff.rfl⟩

theorem SameReading.trans {events' events'' : List ReadingEvent}
    (h : SameReading addr events events') (h' : SameReading addr events' events'') :
    SameReading addr events events'' :=
  ⟨h'.bytes.trans h.bytes, h'.packets.trans h.packets, h'.discarded.trans h.discarded⟩

theorem SameReading.isCut {events' : List ReadingEvent} {left : List UInt8}
    (h : SameReading addr events events') (hcut : IsCut addr events left) :
    IsCut addr events' left := by
  intro hnone
  rw [h.bytes, h.packets]
  exact hcut (fun hdiscarded => hnone (h.discarded.mpr hdiscarded))

theorem sameReading_cons (events : List ReadingEvent) (h : event.peer ≠ some addr) :
    SameReading addr events (event :: events) := by
  cases event with
  | read peer bytes =>
      have hne : peer ≠ addr := fun heq => h (congrArg some heq)
      constructor <;> simp [ReadingEvent.bytesOf, ReadingEvent.packetOf, hne, Discarded]
  | discarded peer =>
      have hne : addr ≠ peer := fun heq => h (congrArg some heq.symm)
      constructor <;> simp [ReadingEvent.bytesOf, ReadingEvent.packetOf, hne, Discarded]
  | delivered peer packet =>
      have hne : peer ≠ addr := fun heq => h (congrArg some heq)
      constructor <;> simp [ReadingEvent.bytesOf, ReadingEvent.packetOf, hne, Discarded]
  | inserted peerId =>
      constructor <;> simp [ReadingEvent.bytesOf, ReadingEvent.packetOf, Discarded]

theorem bytesRead_none (h : forall event, event ∈ events -> event.peer ≠ some addr) :
    SameReading addr [] events := by
  induction events with
  | nil => exact SameReading.refl
  | cons event events ih =>
      exact (ih fun other hother => h other (List.mem_cons_of_mem event hother)).trans
        (sameReading_cons events (h event List.mem_cons_self))

end Events

/-!
## Who reads
-/

/-- The peer a procedure itself calls `recv` for. -/
@[simp] def Proc.readsFrom : Proc -> Option UInt32
  | .ioPeerRecv peerId | .ioPeerRecvNext peerId => some peerId
  | _ => none

/-- What is written down of a result of `recv`. -/
def readEvent (peerId : UInt32) (received : Answer) (s : DirectPlay8Peer) :
    Option ReadingEvent :=
  (s.peers[peerId]?).bind fun peer =>
    if received.ret ≤ 0 then none
    else if peer.state = .closing then some (.discarded peer.addr)
    else some (.read peer.addr received.bytes)

/-- The thread that reads from a peer, known by its ID and its address. -/
abbrev Reader := UInt32 × Nat

/-- What holds of the object, with all the readers there are. -/
structure Reads (s : DirectPlay8Peer) (events : List ReadingEvent)
    (held : Multiset Reader) : Prop where
  addresses : s.Addresses
  ids : forall (peerId : UInt32) (peer : Peer), s.peers[peerId]? = some peer ->
    ReadingEvent.inserted peerId ∈ events
  known : forall event, event ∈ events -> forall addr, event.peer = some addr ->
    addr < s.nextAddr
  /-- A reader stands for one peer, wherever it is kept. -/
  readers : forall reader, reader ∈ held ->
    ReadingEvent.inserted reader.1 ∈ events ∧ reader.2 < s.nextAddr ∧
      forall (peerId : UInt32) (peer : Peer), s.peers[peerId]? = some peer ->
        (peerId = reader.1 ↔ peer.addr = reader.2)
  alone : forall (peerId : UInt32) (peer : Peer), s.peers[peerId]? = some peer ->
    held.count (peerId, peer.addr) ≤ if peer.recvBusy then 1 else 0
  idle : forall (peerId : UInt32) (peer : Peer), s.peers[peerId]? = some peer ->
    peer.recvBusy = false -> AwaitsMore peer.recvBuf ∧ IsCut peer.addr events peer.recvBuf

def NextPacket (addr : Nat) (events : List ReadingEvent) (packet : List UInt8) : Prop :=
  packetFraming.IsFrame packet ∧ (¬ Discarded addr events ->
    (packetsRead addr events).flatten ++ packet <+: bytesRead addr events)

/-- Where the procedures begin that are part of the loops of `io_peer_recv`. -/
def readingPre (p : Proc) (s : DirectPlay8Peer) (events : List ReadingEvent)
    (given rest : Multiset Reader) : Prop :=
  match p with
  | .ioPeerRecvClaimed peerId received =>
      given = 0 ∧ exists before peer, s.peers[peerId]? = some peer ∧
        peer.recvBusy = false ∧ Reads s before rest ∧
        events = (readEvent peerId received s).toList ++ before
  | .ioPeerRecvNext peerId =>
      exists addr, given = {(peerId, addr)} ∧ Reads s events ({(peerId, addr)} + rest) ∧
        forall peer, s.peers[peerId]? = some peer ->
          AwaitsMore peer.recvBuf ∧ IsCut peer.addr events peer.recvBuf
  | .ioPeerRecvPackets peerId =>
      exists peer, given = {(peerId, peer.addr)} ∧ s.peers[peerId]? = some peer ∧
        Reads s events ({(peerId, peer.addr)} + rest) ∧
        IsCut peer.addr events peer.recvBuf
  | _ => given = 0 ∧ Reads s events rest

/-- Nobody else touches what a reader reads into. -/
def readingRely (reader : Reader) (s : DirectPlay8Peer) (events : List ReadingEvent)
    (s' : DirectPlay8Peer) (events' : List ReadingEvent) : Prop :=
  SameReading reader.2 events events' ∧
    forall peer', s'.peers[reader.1]? = some peer' ->
      exists peer, s.peers[reader.1]? = some peer ∧ peer'.addr = peer.addr ∧
        peer'.recvBuf = peer.recvBuf

def reading : Custody DirectPlay8Peer Command Query Answer Proc Fault ReadingEvent Reader where
  ofCommand
    | _, .log (.delivered addr packet), _ => some (.delivered addr packet)
    | _, .insertPeer peerId .., _ => some (.inserted peerId)
    | _, _, _ => none
  ofAnswer p query received s :=
    match p.readsFrom, query with
    | some peerId, .recv .. => readEvent peerId received s
    | _, _ => none
  cond _ events label := forall p peerId state sock ip port playerId,
    label = .exec p (.insertPeer peerId state sock ip port playerId) ->
      ReadingEvent.inserted peerId ∉ events
  command
    | _, .log (.recvCalled _ space), _, _ => 0 < space
    | _, .log (.delivered addr packet), _, events => NextPacket addr events packet
    | _, _, _, _ => True
  answer _ _ _ _ _ := True
  inv := Reads
  rely := readingRely
  pre := readingPre
  rely_refl reader s events := ⟨SameReading.refl, fun peer hpeer => ⟨peer, hpeer, rfl, rfl⟩⟩
  rely_trans := by
    intro reader s events s' events' s'' events'' h h'
    refine ⟨h.1.trans h'.1, ?_⟩
    intro peer'' hpeer''
    rcases h'.2 peer'' hpeer'' with ⟨peer', hpeer', haddr', hbuf'⟩
    rcases h.2 peer' hpeer' with ⟨peer, hpeer, haddr, hbuf⟩
    exact ⟨peer, hpeer, haddr'.trans haddr, hbuf'.trans hbuf⟩

/-!
## Readers
-/

section Readers

variable {s s' : DirectPlay8Peer} {events events' : List ReadingEvent}
  {held rest : Multiset Reader} {peerId : UInt32} {peer : Peer}

theorem Reads.mono {fewer : Multiset Reader} (h : Reads s events held)
    (hle : fewer ≤ held) : Reads s events fewer where
  addresses := h.addresses
  ids := h.ids
  known := h.known
  readers := fun reader hreader => h.readers reader (Multiset.mem_of_le hle hreader)
  alone := by
    intro peerId peer hpeer
    exact Nat.le_trans (Multiset.count_le_of_le _ hle) (h.alone peerId peer hpeer)
  idle := h.idle

theorem Reads.without {own : Multiset Reader} (h : Reads s events (own + rest)) :
    Reads s events rest := h.mono (Multiset.le_add_left rest own)

theorem Reads.others (h : Reads s events held) (hpeer : s.peers[peerId]? = some peer)
    (hnone : held.count (peerId, peer.addr) = 0) {reader : Reader}
    (hreader : reader ∈ held) : reader.1 ≠ peerId ∧ reader.2 ≠ peer.addr := by
  rcases h.readers reader hreader with ⟨_, _, hstands⟩
  have hsame := hstands peerId peer hpeer
  have hout : reader ≠ (peerId, peer.addr) := by
    intro heq
    rw [heq] at hreader
    exact absurd (Multiset.count_pos.mpr hreader) (by omega)
  have hid : reader.1 ≠ peerId := by
    intro hid
    exact hout (Prod.ext hid (hsame.mp hid.symm).symm)
  exact ⟨hid, fun haddr => hid (hsame.mpr haddr.symm).symm⟩

theorem Reads.none_of_idle (h : Reads s events held) (hpeer : s.peers[peerId]? = some peer)
    (hidle : peer.recvBusy = false) : held.count (peerId, peer.addr) = 0 := by
  have hcount := h.alone peerId peer hpeer
  rw [hidle] at hcount
  exact Nat.le_zero.mp hcount

theorem Reads.one (h : Reads s events ({(peerId, peer.addr)} + rest))
    (hpeer : s.peers[peerId]? = some peer) :
    peer.recvBusy = true ∧ rest.count (peerId, peer.addr) = 0 := by
  have hcount := h.alone peerId peer hpeer
  rw [Multiset.count_add, Multiset.count_singleton_self] at hcount
  cases hbusy : peer.recvBusy with
  | false =>
      rw [hbusy] at hcount
      have hle : 1 + rest.count (peerId, peer.addr) ≤ 0 := hcount
      omega
  | true =>
      rw [hbusy, if_pos rfl] at hcount
      exact ⟨rfl, by omega⟩

theorem Reads.addr_eq {addr : Nat} (h : Reads s events ({(peerId, addr)} + rest))
    (hpeer : s.peers[peerId]? = some peer) : peer.addr = addr := by
  rcases h.readers (peerId, addr) (by simp) with ⟨_, _, hstands⟩
  exact (hstands peerId peer hpeer).mp rfl

theorem Reads.spares {before : List ReadingEvent} (h : Reads s before held)
    (hpeer : s.peers[peerId]? = some peer) (hnone : held.count (peerId, peer.addr) = 0)
    (hpeers : forall other, other ≠ peerId -> s'.peers[other]? = s.peers[other]?)
    (hevents : forall addr, addr ≠ peer.addr -> SameReading addr events events') :
    reading.Spares held s events s' events' := by
  intro reader hreader
  rcases h.others hpeer hnone hreader with ⟨hid, haddr⟩
  refine ⟨hevents reader.2 haddr, ?_⟩
  intro peer' hpeer'
  rw [hpeers reader.1 hid] at hpeer'
  exact ⟨peer', hpeer', rfl, rfl⟩

structure SameRead (s s' : DirectPlay8Peer) : Prop where
  addresses : s'.Addresses
  nextAddr : s.nextAddr ≤ s'.nextAddr
  peers : forall (peerId : UInt32) (peer' : Peer), s'.peers[peerId]? = some peer' ->
    exists peer, s.peers[peerId]? = some peer ∧ peer'.addr = peer.addr ∧
      peer'.recvBuf = peer.recvBuf ∧ peer'.recvBusy = peer.recvBusy

theorem Reads.sameRead (h : Reads s events held) (hsame : SameRead s s') :
    reading.Spares held s events s' events ∧ Reads s' events held := by
  constructor
  · intro reader _
    refine ⟨SameReading.refl, ?_⟩
    intro peer' hpeer'
    rcases hsame.peers reader.1 peer' hpeer' with ⟨peer, hpeer, haddr, hbuf, _⟩
    exact ⟨peer, hpeer, haddr, hbuf⟩
  · constructor
    · exact hsame.addresses
    · intro peerId peer' hpeer'
      rcases hsame.peers peerId peer' hpeer' with ⟨peer, hpeer, _⟩
      exact h.ids peerId peer hpeer
    · intro event hevent addr haddr
      exact Nat.lt_of_lt_of_le (h.known event hevent addr haddr) hsame.nextAddr
    · intro reader hreader
      rcases h.readers reader hreader with ⟨hid, hlt, hstands⟩
      refine ⟨hid, Nat.lt_of_lt_of_le hlt hsame.nextAddr, ?_⟩
      intro peerId peer' hpeer'
      rcases hsame.peers peerId peer' hpeer' with ⟨peer, hpeer, haddr, _⟩
      rw [haddr]
      exact hstands peerId peer hpeer
    · intro peerId peer' hpeer'
      rcases hsame.peers peerId peer' hpeer' with ⟨peer, hpeer, haddr, _, hbusy⟩
      rw [haddr, hbusy]
      exact h.alone peerId peer hpeer
    · intro peerId peer' hpeer' hidle
      rcases hsame.peers peerId peer' hpeer' with ⟨peer, hpeer, haddr, hbuf, hbusy⟩
      rw [haddr, hbuf]
      rw [hbusy] at hidle
      exact h.idle peerId peer hpeer hidle

theorem Reads.inserted {state : PeerState} {sock : Int} {ip : UInt32} {port : UInt16}
    {playerId : DPNID} (h : Reads s events held)
    (hnew : ReadingEvent.inserted peerId ∉ events) :
    reading.Spares held s events
        ((Command.insertPeer peerId state sock ip port playerId).apply s)
        (.inserted peerId :: events) ∧
      Reads ((Command.insertPeer peerId state sock ip port playerId).apply s)
        (.inserted peerId :: events) held := by
  have hsame : forall addr, SameReading addr events (.inserted peerId :: events) := by
    intro addr
    exact sameReading_cons events (by simp [ReadingEvent.peer])
  have hold : forall (other : UInt32) (found : Peer),
      ((Command.insertPeer peerId state sock ip port playerId).apply s).peers[other]? =
        some found ->
      s.peers[other]? = some found ∨
        other = peerId ∧
          found = { Peer.new s.nextAddr state sock ip port with playerId := playerId } := by
    intro other found hfound
    rcases Command.peer_cases hfound with hkept | ⟨_, _, heq, _⟩ |
      ⟨_, _, _, _, _, heq, _, rfl⟩
    · exact Or.inl hkept
    · cases heq
    · cases heq
      exact Or.inr ⟨rfl, rfl⟩
  constructor
  · intro reader hreader
    refine ⟨hsame reader.2, ?_⟩
    intro peer' hpeer'
    rcases hold reader.1 peer' hpeer' with hkept | ⟨hid, _⟩
    · exact ⟨peer', hkept, rfl, rfl⟩
    · exact absurd (hid ▸ (h.readers reader hreader).1) hnew
  · constructor
    · exact h.addresses.apply _
    · intro other found hfound
      rcases hold other found hfound with hkept | ⟨rfl, _⟩
      · exact List.mem_cons_of_mem _ (h.ids other found hkept)
      · exact List.mem_cons_self
    · intro event hevent addr haddr
      rcases List.mem_cons.mp hevent with rfl | hevent
      · cases haddr
      · exact Nat.lt_succ_of_lt (h.known event hevent addr haddr)
    · intro reader hreader
      rcases h.readers reader hreader with ⟨hid, hlt, hstands⟩
      refine ⟨List.mem_cons_of_mem _ hid, Nat.lt_succ_of_lt hlt, ?_⟩
      intro other found hfound
      rcases hold other found hfound with hkept | ⟨rfl, rfl⟩
      · exact hstands other found hkept
      · constructor
        · intro heq
          exact absurd (heq ▸ hid) hnew
        · intro haddr
          exact absurd haddr (Nat.ne_of_gt hlt)
    · intro other found hfound
      rcases hold other found hfound with hkept | ⟨rfl, rfl⟩
      · exact h.alone other found hkept
      · rw [Multiset.count_eq_zero.mpr]
        · exact Nat.zero_le _
        · intro hmem
          exact absurd (h.readers _ hmem).2.1 (Nat.lt_irrefl _)
    · intro other found hfound hidle
      rcases hold other found hfound with hkept | ⟨rfl, rfl⟩
      · rcases h.idle other found hkept hidle with ⟨hawaits, hcut⟩
        exact ⟨hawaits, (hsame _).isCut hcut⟩
      · refine ⟨awaitsMore_nil, (hsame _).isCut ?_⟩
        intro _
        have hnothing : SameReading s.nextAddr [] events := bytesRead_none (by
          intro event hevent haddr
          exact Nat.lt_irrefl _ (h.known event hevent _ haddr))
        show bytesRead s.nextAddr events = (packetsRead s.nextAddr events).flatten ++ []
        rw [hnothing.bytes, hnothing.packets]
        rfl

end Readers

/-!
## All other procedures
-/

@[simp] def Proc.readsPackets : Proc -> Bool
  | .ioPeerRecv _ | .ioPeerRecvClaimed .. | .ioPeerRecvNext _ | .ioPeerRecvPackets _ => true
  | _ => false

def CommandKind.isReading : CommandKind -> Bool
  | .recvBusy | .recvBuf | .recvCalled | .delivered => true
  | _ => false

theorem Proc.kinds_quiet {p : Proc} (hp : p.readsPackets = false) {kind : CommandKind}
    (hkind : kind ∈ p.kinds) : kind.isReading = false := by
  cases p with
  | ioPeerRecv | ioPeerRecvClaimed | ioPeerRecvNext | ioPeerRecvPackets => cases hp
  | _ =>
      revert kind
      simp [Proc.kinds, CommandKind.isReading]

theorem PeerCommand.apply_recv {change : PeerCommand} (h : change.kind.isReading = false)
    (addr : Nat) (peer : Peer) :
    (change.apply addr peer).recvBuf = peer.recvBuf ∧
      (change.apply addr peer).recvBusy = peer.recvBusy := by
  cases change with
  | setRecvBusy | appendRecv | shiftRecv => cases h
  | _ => exact ⟨rfl, rfl⟩

section Ordinary

variable {s : DirectPlay8Peer} {events : List ReadingEvent} {held : Multiset Reader}
  {p : Proc} {command : Command}

theorem Command.sameRead (h : s.Addresses) (hkind : command.kind.isReading = false)
    (hinsert : forall peerId state sock ip port playerId,
      command ≠ .insertPeer peerId state sock ip port playerId) :
    SameRead s (command.apply s) where
  addresses := h.apply command
  nextAddr := command.nextAddr_le s
  peers := by
    intro peerId peer' hpeer'
    rcases Command.peer_cases hpeer' with hkept | ⟨change, peer, rfl, hpeer, rfl⟩ |
      ⟨_, _, _, _, _, heq, _⟩
    · exact ⟨peer', hkept, rfl, rfl, rfl⟩
    · have hrecv := PeerCommand.apply_recv hkind s.nextAddr peer
      exact ⟨peer, hpeer, PeerCommand.apply_addr, hrecv.1, hrecv.2⟩
    · exact absurd heq (hinsert _ _ _ _ _ _)

theorem reading_note (hkind : command.kind.isReading = false)
    (hinsert : forall peerId state sock ip port playerId,
      command ≠ .insertPeer peerId state sock ip port playerId) :
    reading.note s (.exec p command) events = events := by
  apply Custody.note_none
  cases command with
  | insertPeer => exact absurd rfl (hinsert _ _ _ _ _ _)
  | log event =>
      cases event with
      | delivered => cases hkind
      | _ => rfl
  | _ => rfl

theorem Reads.ordinary (h : Reads s events held) (hkind : command.kind.isReading = false)
    (hcond : reading.cond s events (.exec p command)) :
    (reading.command p command s events ∧
      reading.Spares held s events (machine.apply command s)
        (reading.note s (.exec p command) events)) ∧
      Reads (machine.apply command s) (reading.note s (.exec p command) events) held := by
  have hpromise : reading.command p command s events := by
    cases command with
    | log event =>
        cases event with
        | recvCalled => cases hkind
        | _ => trivial
    | _ => trivial
  by_cases hinserts : exists peerId state sock ip port playerId,
      command = .insertPeer peerId state sock ip port playerId
  · rcases hinserts with ⟨peerId, state, sock, ip, port, playerId, rfl⟩
    have hnew := hcond p peerId state sock ip port playerId rfl
    exact ⟨⟨hpromise, (h.inserted hnew).1⟩, (h.inserted hnew).2⟩
  · have hinsert : forall peerId state sock ip port playerId,
        command ≠ .insertPeer peerId state sock ip port playerId := by
      intro peerId state sock ip port playerId heq
      exact hinserts ⟨_, _, _, _, _, _, heq⟩
    rw [reading_note hkind hinsert]
    rcases h.sameRead (Command.sameRead h.addresses hkind hinsert) with ⟨hspares, hreads⟩
    exact ⟨⟨hpromise, hspares⟩, hreads⟩

theorem readingPre_of_reads (hp : p.readsPackets = false ∨ exists peerId, p = .ioPeerRecv peerId)
    (h : Reads s events held) : readingPre p s events 0 held := by
  cases p with
  | ioPeerRecvClaimed | ioPeerRecvNext | ioPeerRecvPackets =>
      rcases hp with hp | ⟨_, hp⟩ <;> cases hp
  | _ => exact ⟨rfl, h⟩

theorem ordinary_harmless (hp : p.readsPackets = false) :
    Custody.Harmless reading machine p p.footprint where
  commands := by
    intro command s events held hfits h hcond
    exact h.ordinary (Proc.kinds_quiet hp hfits.1) hcond
  answers := by
    intro query answer s events held h _
    have hnone : reading.event s (.answer p query answer) = none := by
      cases p with
      | ioPeerRecv | ioPeerRecvClaimed | ioPeerRecvNext | ioPeerRecvPackets => cases hp
      | _ => rfl
    rw [Custody.note_none hnone]
    exact ⟨⟨trivial, Custody.spares_refl⟩, h⟩
  calls := by
    intro callee s events held hcalls h _
    refine readingPre_of_reads ?_ h
    by_cases hcallee : callee.readsPackets = false
    · exact Or.inl hcallee
    · right
      cases callee with
      | ioPeerRecv peerId => exact ⟨peerId, rfl⟩
      | ioPeerRecvClaimed | ioPeerRecvNext | ioPeerRecvPackets =>
          have hcalled := hcalls.1
          cases p with
          | ioPeerRecv | ioPeerRecvClaimed | ioPeerRecvNext | ioPeerRecvPackets => cases hp
          | _ => cases hcalled
      | _ => exact absurd rfl hcallee
  spawns := by
    intro child hspawns s events held h _
    refine readingPre_of_reads (Or.inl ?_) h
    cases child with
    | ioPeerRecv | ioPeerRecvClaimed | ioPeerRecvNext | ioPeerRecvPackets => cases hspawns
    | _ => rfl

theorem ordinary_body (hp : p.readsPackets = false) {given rest : Multiset Reader}
    (h : readingPre p s events given rest) :
    reading.wp machine p p.body reading.ended s events given rest := by
  have hbegins : given = 0 ∧ Reads s events rest := by
    cases p with
    | ioPeerRecv | ioPeerRecvClaimed | ioPeerRecvNext | ioPeerRecvPackets => cases hp
    | _ => exact h
  rcases hbegins with ⟨rfl, hreads⟩
  refine Custody.wp_mono
    (Custody.wp_of_uses p.body_uses (ordinary_harmless hp) hreads) ?_
  rintro _ s' events' own' rest' ⟨_, hends⟩
  exact hends

end Ordinary

/-!
## Steps of a reader
-/

section Steps

variable {s s' : DirectPlay8Peer} {events events' : List ReadingEvent}
  {rest : Multiset Reader} {peerId : UInt32} {peer : Peer}

structure OwnChange (peerId : UInt32) (peer : Peer) (s s' : DirectPlay8Peer) : Prop where
  addresses : s'.Addresses
  nextAddr : s.nextAddr ≤ s'.nextAddr
  others : forall other, other ≠ peerId -> s'.peers[other]? = s.peers[other]?
  here : exists peer', s'.peers[peerId]? = some peer' ∧ peer'.addr = peer.addr ∧
    peer'.recvBusy = true

structure OwnEvents (own : Nat) (events events' : List ReadingEvent) : Prop where
  same : forall addr, addr ≠ own -> SameReading addr events events'
  kept : forall event, event ∈ events -> event ∈ events'
  made : forall event, event ∈ events' -> event ∈ events ∨ event.peer = some own

theorem Reads.ownStep (h : Reads s events rest) (hpeer : s.peers[peerId]? = some peer)
    (hnone : rest.count (peerId, peer.addr) = 0)
    (hstep : OwnChange peerId peer s s') (hnotes : OwnEvents peer.addr events events') :
    reading.Spares rest s events s' events' ∧
      Reads s' events' ({(peerId, peer.addr)} + rest) := by
  rcases hstep.here with ⟨peer', hpeer', haddr', hbusy'⟩
  have hfound : forall (other : UInt32) (found : Peer), s'.peers[other]? = some found ->
      (other = peerId ∧ found = peer') ∨
        (other ≠ peerId ∧ s.peers[other]? = some found ∧ found.addr ≠ peer.addr) := by
    intro other found hother
    by_cases hid : other = peerId
    · subst hid
      exact Or.inl ⟨rfl, Option.some.inj (hother.symm.trans hpeer')⟩
    · have hwas := hother
      rw [hstep.others other hid] at hwas
      exact Or.inr ⟨hid, hwas, fun heq =>
        hid (h.addresses.apart other peerId found peer hwas hpeer heq)⟩
  refine ⟨h.spares hpeer hnone hstep.others hnotes.same, ?_⟩
  constructor
  · exact hstep.addresses
  · intro other found hother
    rcases hfound other found hother with ⟨rfl, _⟩ | ⟨_, hwas, _⟩
    · exact hnotes.kept _ (h.ids other peer hpeer)
    · exact hnotes.kept _ (h.ids other found hwas)
  · intro event hevent addr haddr
    refine Nat.lt_of_lt_of_le ?_ hstep.nextAddr
    rcases hnotes.made event hevent with hold | hown
    · exact h.known event hold addr haddr
    · cases hown.symm.trans haddr
      exact h.addresses.given peerId peer hpeer
  · intro reader hreader
    rcases Multiset.mem_add.mp hreader with hown | hother
    · cases Multiset.mem_singleton.mp hown
      refine ⟨hnotes.kept _ (h.ids peerId peer hpeer),
        Nat.lt_of_lt_of_le (h.addresses.given peerId peer hpeer) hstep.nextAddr, ?_⟩
      intro other found hthere
      rcases hfound other found hthere with ⟨rfl, rfl⟩ | ⟨hid, _, hne⟩
      · exact ⟨fun _ => haddr', fun _ => rfl⟩
      · exact ⟨fun heq => absurd heq hid, fun heq => absurd heq hne⟩
    · rcases h.readers reader hother with ⟨hid, hlt, hstands⟩
      refine ⟨hnotes.kept _ hid, Nat.lt_of_lt_of_le hlt hstep.nextAddr, ?_⟩
      intro other found hthere
      rcases hfound other found hthere with ⟨rfl, rfl⟩ | ⟨_, hwas, _⟩
      · rw [haddr']
        exact hstands other peer hpeer
      · exact hstands other found hwas
  · intro other found hother
    rcases hfound other found hother with ⟨rfl, rfl⟩ | ⟨hid, hwas, hne⟩
    · rw [haddr', hbusy', if_pos rfl, Multiset.count_add, Multiset.count_singleton_self,
        hnone]
    · have hout : (other, found.addr) ≠ (peerId, peer.addr) := fun heq => hid (Prod.mk.inj heq).1
      rw [Multiset.count_add, Multiset.count_singleton, if_neg hout, Nat.zero_add]
      exact h.alone other found hwas
  · intro other found hother hidle
    rcases hfound other found hother with ⟨rfl, rfl⟩ | ⟨_, hwas, hne⟩
    · rw [hbusy'] at hidle
      cases hidle
    · rcases h.idle other found hwas hidle with ⟨hawaits, hcut⟩
      exact ⟨hawaits, (hnotes.same _ hne).isCut hcut⟩

theorem Reads.ownStep_again (h : Reads s events ({(peerId, peer.addr)} + rest))
    (hpeer : s.peers[peerId]? = some peer) (hstep : OwnChange peerId peer s s')
    (hnotes : OwnEvents peer.addr events events') :
    reading.Spares rest s events s' events' ∧
      Reads s' events' ({(peerId, peer.addr)} + rest) :=
  h.without.ownStep hpeer (h.one hpeer).2 hstep hnotes

theorem ownChange_none (haddresses : s.Addresses) (hpeer : s.peers[peerId]? = some peer)
    (hbusy : peer.recvBusy = true) : OwnChange peerId peer s s where
  addresses := haddresses
  nextAddr := Nat.le_refl _
  others := fun _ _ => rfl
  here := ⟨peer, hpeer, rfl, hbusy⟩

theorem ownChange_command (change : PeerCommand) (haddresses : s.Addresses)
    (hpeer : s.peers[peerId]? = some peer)
    (hbusy : (change.apply s.nextAddr peer).recvBusy = true) :
    OwnChange peerId peer s ((Command.peer peerId change).apply s) where
  addresses := haddresses.apply _
  nextAddr := Command.nextAddr_le _ s
  others := fun _ hne => DirectPlay8Peer.peer_unchanged hne
  here := ⟨_, DirectPlay8Peer.peer_changed change hpeer, PeerCommand.apply_addr, hbusy⟩

theorem ownEvents_none {own : Nat} : OwnEvents own events events where
  same := fun _ _ => SameReading.refl
  kept := fun _ hevent => hevent
  made := fun _ hevent => Or.inl hevent

theorem ownEvents_cons {own : Nat} (event : ReadingEvent) (hown : event.peer = some own) :
    OwnEvents own events (event :: events) where
  same := fun _ hne => sameReading_cons events fun heq =>
    hne (Option.some.inj (hown.symm.trans heq)).symm
  kept := fun _ hevent => List.mem_cons_of_mem _ hevent
  made := by
    intro other hother
    rcases List.mem_cons.mp hother with rfl | hold
    · exact Or.inr hown
    · exact Or.inl hold

end Steps

/-!
## The loops of `io_peer_recv`
-/

section Loops

variable {s : DirectPlay8Peer} {events : List ReadingEvent} {own rest : Multiset Reader}
  {p : Proc} {peerId : UInt32} {peer : Peer} {received : Answer}

theorem log_untouched (h : s.Addresses) (event : Event) :
    SameRead s ((Command.log event).apply s) where
  addresses := h.apply _
  nextAddr := Nat.le_refl _
  peers := fun _ peer' hpeer' => ⟨peer', hpeer', rfl, rfl, rfl⟩

theorem AwaitsMore.space (h : AwaitsMore peer.recvBuf) :
    0 < maxPacketSize - peer.recvBuf.length := Nat.sub_pos_of_lt h.2

theorem readEvent_others (received : Answer) (events : List ReadingEvent)
    (hpeer : s.peers[peerId]? = some peer) {addr : Nat} (hne : addr ≠ peer.addr) :
    SameReading addr events ((readEvent peerId received s).toList ++ events) := by
  rw [readEvent, hpeer, Option.bind_some]
  split
  · exact SameReading.refl
  · split
    · exact sameReading_cons events (fun heq => hne (Option.some.inj heq).symm)
    · exact sameReading_cons events (fun heq => hne (Option.some.inj heq).symm)

theorem custody_recvMore (hreader : p.readsFrom = some peerId) {f : Answer -> Action Unit}
    {post : Unit -> DirectPlay8Peer -> List ReadingEvent -> Multiset Reader ->
      Multiset Reader -> Prop}
    (h : Reads s events (own + rest)) (hpeer : s.peers[peerId]? = some peer)
    (hawaits : AwaitsMore peer.recvBuf) (hnone : rest.count (peerId, peer.addr) = 0)
    (hnext : forall s' received, Reads s' events (own + rest) ->
      s'.peers[peerId]? = some peer ->
      reading.wp machine p (f received) post s'
        ((readEvent peerId received s').toList ++ events) own rest) :
    reading.wp machine p (Action.recvMore peer >>= f) post s events own rest := by
  rw [bind_eq, Action.recvMore, bind_eq, bind_assoc, Action.log, Action.perform,
    Action.query]
  intro _
  rcases h.sameRead (log_untouched h.addresses (.recvCalled peer.addr
    (maxPacketSize - peer.recvBuf.length))) with ⟨hkeeps, hreads⟩
  refine ⟨⟨hawaits.space, (Custody.spares_add.mp hkeeps).2⟩, own, ?_⟩
  intro received _ _
  have hnote : reading.note ((Command.log (.recvCalled peer.addr
      (maxPacketSize - peer.recvBuf.length))).apply s)
      (.answer p (.recv peer.sock (maxPacketSize - peer.recvBuf.length)) received) events =
        (readEvent peerId received ((Command.log (.recvCalled peer.addr
          (maxPacketSize - peer.recvBuf.length))).apply s)).toList ++ events := by
    simp only [Custody.note, Custody.event, reading, hreader]
  have hspares := hreads.without.spares hpeer hnone (fun _ _ => rfl)
    (fun _ hne => readEvent_others received events hpeer hne)
  refine ⟨⟨trivial, ?_⟩, own, ?_⟩
  · exact hnote ▸ hspares
  · exact hnote ▸ hnext _ received hreads hpeer

theorem readEvent_none (h : received.ret ≤ 0) :
    readEvent peerId received s = none := by
  rw [readEvent]
  cases s.peers[peerId]? with
  | none => rfl
  | some peer => exact if_pos h

theorem wouldBlock_ret (h : Action.wouldBlock received = true) : received.ret ≤ 0 := by
  have hneg : received.ret < 0 := by
    simpa using (Bool.and_eq_true_iff.mp h).1
  exact Int.le_of_lt hneg

theorem ioPeerRecv_reads (h : Reads s events rest) :
    reading.wp machine (.ioPeerRecv peerId) (Action.ioPeerRecv peerId) reading.ended
      s events 0 rest := by
  apply custody_renewPeer
  · intro peer hpeer
    split
    · exact h
    · rename_i hbusy
      have hidle : peer.recvBusy = false := by simpa using hbusy
      have hreads : Reads s events (0 + rest) := by rwa [Multiset.zero_add]
      refine custody_recvMore rfl hreads hpeer (h.idle peerId peer hpeer hidle).1
        (h.none_of_idle hpeer hidle) ?_
      intro s' received h' hpeer'
      split
      · rename_i hblocks
        rw [readEvent_none (wouldBlock_ret hblocks)]
        exact h'.without
      · intro _
        refine ⟨0, 0, rfl, ⟨rfl, events, peer, hpeer', hidle, h', rfl⟩, ?_⟩
        intro s'' events'' rest' hends _
        exact hends.without
  · intro _
    exact h

theorem custody_keeping {reader : Reader} {callee : Proc} (next : Action Unit)
    {post : Unit -> DirectPlay8Peer -> List ReadingEvent -> Multiset Reader ->
      Multiset Reader -> Prop}
    (hcallee : callee.readsPackets = false) (h : Reads s events ({reader} + rest))
    (hnext : forall s' events' rest', Reads s' events' ({reader} + rest') ->
      readingRely reader s events s' events' ->
      reading.wp machine p next post s' events' {reader} rest') :
    reading.wp machine p ((Action.invoke callee).bind fun _ => next) post s events
      {reader} rest := by
  intro _
  refine ⟨0, {reader}, (Multiset.zero_add _).symm,
    readingPre_of_reads (Or.inl hcallee) h, ?_⟩
  intro s' events' rest' hreads hspares
  exact hnext s' events' rest' hreads (hspares reader (Multiset.mem_singleton_self reader))

theorem custody_destroy {reader : Reader} {result : HRESULT} {reason : DWORD}
    (h : Reads s events ({reader} + rest)) :
    reading.wp machine p (Action.invoke (.peerDestroy peerId result reason)) reading.ended
      s events {reader} rest :=
  custody_keeping (.ret ()) rfl h fun _ _ _ hreads _ => hreads.without

theorem custody_next {addr : Nat} (h : Reads s events ({(peerId, addr)} + rest))
    (hleft : forall peer, s.peers[peerId]? = some peer ->
      AwaitsMore peer.recvBuf ∧ IsCut peer.addr events peer.recvBuf) :
    reading.wp machine p (Action.invoke (.ioPeerRecvNext peerId)) reading.ended
      s events {(peerId, addr)} rest := by
  intro _
  refine ⟨_, 0, (Multiset.add_zero _).symm, ⟨addr, rfl, ?_, hleft⟩, ?_⟩
  · rwa [Multiset.zero_add]
  · intro s' events' rest' hreads _
    exact hreads.without

theorem custody_packets {addr : Nat} (hpeer : s.peers[peerId]? = some peer)
    (haddr : peer.addr = addr) (h : Reads s events ({(peerId, addr)} + rest))
    (hcut : IsCut addr events peer.recvBuf) :
    reading.wp machine p (Action.invoke (.ioPeerRecvPackets peerId)) reading.ended
      s events {(peerId, addr)} rest := by
  subst haddr
  intro _
  refine ⟨_, 0, (Multiset.add_zero _).symm, ⟨peer, rfl, hpeer, ?_, hcut⟩, ?_⟩
  · rwa [Multiset.zero_add]
  · intro s' events' rest' hreads _
    exact hreads.without

theorem readEvent_isCut (received : Answer) {before : List ReadingEvent}
    (hpeer : s.peers[peerId]? = some peer)
    (hcut : IsCut peer.addr before peer.recvBuf) (hsome : ¬ received.ret ≤ 0) :
    IsCut peer.addr ((readEvent peerId received s).toList ++ before)
      (if peer.state = .closing then peer.recvBuf else peer.recvBuf ++ received.bytes) := by
  rw [readEvent, hpeer, Option.bind_some, if_neg hsome]
  split
  · intro hnone
    exact absurd List.mem_cons_self hnone
  · intro hnone
    have hold : ¬ Discarded peer.addr before :=
      fun hdiscarded => hnone (List.mem_cons_of_mem _ hdiscarded)
    show bytesRead peer.addr (.read peer.addr received.bytes :: before) =
      (packetsRead peer.addr (.read peer.addr received.bytes :: before)).flatten ++ _
    rw [bytesRead_cons, packetsRead_cons, hcut hold]
    simp [ReadingEvent.bytesOf, ReadingEvent.packetOf]

theorem recvResult_reads {before : List ReadingEvent} {addr : Nat}
    (hpeer : s.peers[peerId]? = some peer) (haddr : peer.addr = addr)
    (h : Reads s ((readEvent peerId received s).toList ++ before)
      ({(peerId, addr)} + rest))
    (hawaits : AwaitsMore peer.recvBuf) (hcut : IsCut addr before peer.recvBuf) :
    reading.wp machine p (Action.recvResult peerId received) reading.ended
      s ((readEvent peerId received s).toList ++ before) {(peerId, addr)} rest := by
  subst haddr
  unfold Action.recvResult
  split
  · exact custody_destroy h
  · rename_i hnonzero
    split
    · exact custody_destroy h
    · rename_i hnonneg
      have hafter := readEvent_isCut received hpeer hcut (by omega)
      apply custody_peerAt
      intro peer' hpeer'
      cases hpeer.symm.trans hpeer'
      split
      · rename_i hclosing
        rw [if_pos hclosing] at hafter
        refine custody_next h ?_
        intro peer'' hpeer''
        cases hpeer.symm.trans hpeer''
        exact ⟨hawaits, hafter⟩
      · rename_i hopen
        rw [if_neg hopen] at hafter
        rw [bind_eq, Action.ofPeer, Action.perform]
        intro _
        have hbusy : ((PeerCommand.appendRecv received.bytes).apply s.nextAddr
            peer).recvBusy = true := (h.one hpeer).1
        rcases h.ownStep_again hpeer (ownChange_command _ h.addresses hpeer hbusy)
          ownEvents_none with ⟨hspares, hreads⟩
        refine ⟨⟨trivial, hspares⟩, {(peerId, peer.addr)}, ?_⟩
        exact custody_packets (DirectPlay8Peer.peer_changed (.appendRecv received.bytes) hpeer)
          PeerCommand.apply_addr hreads hafter

theorem ownEvents_read (received : Answer) {before : List ReadingEvent}
    (hpeer : s.peers[peerId]? = some peer) :
    OwnEvents peer.addr before ((readEvent peerId received s).toList ++ before) := by
  rw [readEvent, hpeer, Option.bind_some]
  split
  · exact ownEvents_none
  · split
    · exact ownEvents_cons _ rfl
    · exact ownEvents_cons _ rfl

theorem ioPeerRecvClaimed_reads {before : List ReadingEvent}
    (hpeer : s.peers[peerId]? = some peer) (hidle : peer.recvBusy = false)
    (h : Reads s before rest)
    (hevents : events = (readEvent peerId received s).toList ++ before) :
    reading.wp machine (.ioPeerRecvClaimed peerId received)
      (Action.ioPeerRecvClaimed peerId received) reading.ended s events 0 rest := by
  subst hevents
  rcases h.idle peerId peer hpeer hidle with ⟨hawaits, hcut⟩
  apply custody_peerAt
  intro peer' hpeer'
  cases hpeer.symm.trans hpeer'
  rcases h.ownStep hpeer (h.none_of_idle hpeer hidle)
    (ownChange_command (.setRecvBusy true) h.addresses hpeer rfl)
    (ownEvents_read received hpeer) with ⟨_, hreads⟩
  have hspares : reading.Spares rest s ((readEvent peerId received s).toList ++ before)
      ((Command.peer peerId (.setRecvBusy true)).apply s)
      ((readEvent peerId received s).toList ++ before) :=
    h.spares hpeer (h.none_of_idle hpeer hidle)
      (fun _ hne => DirectPlay8Peer.peer_unchanged hne) (fun _ _ => SameReading.refl)
  have hbusy := DirectPlay8Peer.peer_changed (.setRecvBusy true) hpeer
  have hsame : readEvent peerId received s = readEvent peerId received
      ((Command.peer peerId (.setRecvBusy true)).apply s) := by
    rw [readEvent, readEvent, hpeer, hbusy]
    rfl
  rw [bind_eq, Action.ofPeer, Action.perform, bind_eq, Action.query]
  intro _
  refine ⟨⟨trivial, hspares⟩, {(peerId, peer.addr)}, ?_⟩
  intro answer _ _
  have hnote : reading.note ((Command.peer peerId (.setRecvBusy true)).apply s)
      (.answer (.ioPeerRecvClaimed peerId received) (.eventSelect peer.sock) answer)
      ((readEvent peerId received s).toList ++ before) =
        (readEvent peerId received s).toList ++ before := Custody.note_none rfl
  refine ⟨⟨trivial, ?_⟩, {(peerId, peer.addr)}, ?_⟩
  · exact hnote ▸ Custody.spares_refl
  · show reading.wp machine _ _ _ _ ((readEvent peerId received s).toList ++ before) _ _
    rw [hsame] at hreads ⊢
    exact recvResult_reads hbusy PeerCommand.apply_addr hreads hawaits hcut

theorem Reads.release (h : Reads s events ({(peerId, peer.addr)} + rest))
    (hpeer : s.peers[peerId]? = some peer) (hawaits : AwaitsMore peer.recvBuf)
    (hcut : IsCut peer.addr events peer.recvBuf) :
    reading.Spares rest s events
        ((Command.peer peerId (.setRecvBusy false)).apply s) events ∧
      Reads ((Command.peer peerId (.setRecvBusy false)).apply s) events rest := by
  have hnone := (h.one hpeer).2
  have hafter := DirectPlay8Peer.peer_changed (.setRecvBusy false) hpeer
  have hothers : forall other, other ≠ peerId ->
      ((Command.peer peerId (.setRecvBusy false)).apply s).peers[other]? = s.peers[other]? :=
    fun _ hne => DirectPlay8Peer.peer_unchanged hne
  have hfound : forall (other : UInt32) (found : Peer),
      ((Command.peer peerId (.setRecvBusy false)).apply s).peers[other]? = some found ->
      (other = peerId ∧ found = { peer with recvBusy := false }) ∨
        s.peers[other]? = some found := by
    intro other found hother
    by_cases hid : other = peerId
    · subst hid
      exact Or.inl ⟨rfl, Option.some.inj (hother.symm.trans hafter)⟩
    · rw [hothers other hid] at hother
      exact Or.inr hother
  refine ⟨h.without.spares hpeer hnone hothers fun _ _ => SameReading.refl, ?_⟩
  constructor
  · exact h.addresses.apply _
  · intro other found hother
    rcases hfound other found hother with ⟨rfl, _⟩ | hwas
    · exact h.ids other peer hpeer
    · exact h.ids other found hwas
  · intro event hevent addr haddr
    exact Nat.lt_of_lt_of_le (h.known event hevent addr haddr) (Command.nextAddr_le _ s)
  · intro reader hreader
    rcases h.without.readers reader hreader with ⟨hid, hlt, hstands⟩
    refine ⟨hid, Nat.lt_of_lt_of_le hlt (Command.nextAddr_le _ s), ?_⟩
    intro other found hother
    rcases hfound other found hother with ⟨rfl, rfl⟩ | hwas
    · exact hstands other peer hpeer
    · exact hstands other found hwas
  · intro other found hother
    rcases hfound other found hother with ⟨rfl, rfl⟩ | hwas
    · rw [hnone]
      exact Nat.zero_le _
    · exact h.without.alone other found hwas
  · intro other found hother hidle
    rcases hfound other found hother with ⟨rfl, rfl⟩ | hwas
    · exact ⟨hawaits, hcut⟩
    · exact h.idle other found hwas hidle

theorem ioPeerRecvNext_reads {addr : Nat} (h : Reads s events ({(peerId, addr)} + rest))
    (hleft : forall peer, s.peers[peerId]? = some peer ->
      AwaitsMore peer.recvBuf ∧ IsCut peer.addr events peer.recvBuf) :
    reading.wp machine (.ioPeerRecvNext peerId) (Action.ioPeerRecvNext peerId)
      reading.ended s events {(peerId, addr)} rest := by
  apply custody_renewPeer
  · intro peer hpeer
    rcases hleft peer hpeer with ⟨hawaits, hcut⟩
    cases h.addr_eq hpeer
    refine custody_recvMore rfl h hpeer hawaits (h.one hpeer).2 ?_
    intro s' received h' hpeer'
    split
    · rename_i hblocks
      rw [readEvent_none (wouldBlock_ret hblocks), bind_eq, Action.query]
      intro answer _ _
      have hnote : reading.note s'
          (.answer (.ioPeerRecvNext peerId) (.eventSelect peer.sock) answer) events =
            events := Custody.note_none rfl
      refine ⟨⟨trivial, ?_⟩, {(peerId, peer.addr)}, ?_⟩
      · exact hnote ▸ Custody.spares_refl
      · intro _
        rcases h'.release hpeer' hawaits hcut with ⟨hspares, hreads⟩
        exact ⟨⟨trivial, hspares⟩, 0, hreads⟩
    · have hbusy := (h'.one hpeer').1
      rcases h'.ownStep_again hpeer' (ownChange_none h'.addresses hpeer' hbusy)
        (ownEvents_read received hpeer') with ⟨_, hreads⟩
      exact recvResult_reads hpeer' rfl hreads hawaits hcut
  · intro _
    exact h.without

theorem isCut_delivered (size : Nat) {addr : Nat} {recvBuf : List UInt8}
    (hcut : IsCut addr events recvBuf) :
    IsCut addr (.delivered addr (recvBuf.take size) :: events) (recvBuf.drop size) := by
  intro hnone
  have hold : ¬ Discarded addr events :=
    fun hdiscarded => hnone (List.mem_cons_of_mem _ hdiscarded)
  rw [bytesRead_cons, packetsRead_cons, hcut hold]
  simp [ReadingEvent.bytesOf, ReadingEvent.packetOf]

theorem shift_reads {size : Nat} {recvBuf : List UInt8} {addr : Nat}
    (h : Reads s events ({(peerId, addr)} + rest))
    (hsame : forall peer, s.peers[peerId]? = some peer -> peer.recvBuf = recvBuf)
    (hcut : IsCut addr events (recvBuf.drop size)) :
    reading.wp machine p
      (Action.renewPeer peerId fun renewed =>
        if renewed.recvBuf.length < size then .abort .outOfBounds
        else do
          Action.ofPeer peerId (.shiftRecv size)
          Action.invoke (.ioPeerRecvPackets peerId)) reading.ended
      s events {(peerId, addr)} rest := by
  apply custody_renewPeer
  · intro peer hpeer
    split
    · trivial
    · cases h.addr_eq hpeer
      rw [← hsame peer hpeer] at hcut
      have hbusy : ((PeerCommand.shiftRecv size).apply s.nextAddr peer).recvBusy = true :=
        (h.one hpeer).1
      rcases h.ownStep_again hpeer (ownChange_command _ h.addresses hpeer hbusy)
        ownEvents_none with ⟨hspares, hreads⟩
      rw [bind_eq, Action.ofPeer, Action.perform]
      intro _
      refine ⟨⟨trivial, hspares⟩, {(peerId, peer.addr)}, ?_⟩
      exact custody_packets (DirectPlay8Peer.peer_changed (.shiftRecv size) hpeer)
        PeerCommand.apply_addr hreads hcut
  · intro _
    exact h.without

theorem packetHandler_quiet {pd : PacketDeserialiser} {handler : Proc}
    (h : Action.packetHandler peerId pd = some handler) :
    handler.readsPackets = false := by
  unfold Action.packetHandler at h
  split at h <;> cases h <;> rfl

theorem ownChange_log (h : Reads s events ({(peerId, peer.addr)} + rest))
    (hpeer : s.peers[peerId]? = some peer) (event : Event) :
    OwnChange peerId peer s ((Command.log event).apply s) where
  addresses := h.addresses.apply _
  nextAddr := Nat.le_refl _
  others := fun _ _ => rfl
  here := ⟨peer, hpeer, rfl, (h.one hpeer).1⟩

theorem delivery_reads {pd : PacketDeserialiser}
    (h : Reads s events ({(peerId, peer.addr)} + rest))
    (hpeer : s.peers[peerId]? = some peer) (hcut : IsCut peer.addr events peer.recvBuf)
    (hlong : Action.fullPacketSize peer.recvBuf ≤ peer.recvBuf.length)
    (hheader : sizeofTLVChunk ≤ Action.fullPacketSize peer.recvBuf) :
    reading.wp machine (.ioPeerRecvPackets peerId)
      (do
        Action.log (.delivered peer.addr
          (peer.recvBuf.take (Action.fullPacketSize peer.recvBuf)))
        match Action.packetHandler peerId pd with
        | some handler => Action.invoke handler
        | none => pure ()
        Action.renewPeer peerId fun renewed =>
          if renewed.recvBuf.length < Action.fullPacketSize peer.recvBuf then
            .abort .outOfBounds
          else do
            Action.ofPeer peerId (.shiftRecv (Action.fullPacketSize peer.recvBuf))
            Action.invoke (.ioPeerRecvPackets peerId)) reading.ended
      s events {(peerId, peer.addr)} rest := by
  have hafter := isCut_delivered (Action.fullPacketSize peer.recvBuf) hcut
  have hframe : packetFraming.IsFrame
      (peer.recvBuf.take (Action.fullPacketSize peer.recvBuf)) :=
    Framing.BeginsWithFrame.isFrame_take ⟨Nat.le_trans hheader hlong, hlong⟩ hheader
  rcases h.ownStep_again hpeer (ownChange_log h hpeer (.delivered peer.addr
      (peer.recvBuf.take (Action.fullPacketSize peer.recvBuf))))
    (ownEvents_cons (.delivered peer.addr
      (peer.recvBuf.take (Action.fullPacketSize peer.recvBuf))) rfl) with ⟨hspares, hreads⟩
  have hnext : NextPacket peer.addr events
      (peer.recvBuf.take (Action.fullPacketSize peer.recvBuf)) := by
    refine ⟨hframe, ?_⟩
    intro hkept
    rw [hcut hkept, List.prefix_append_right_inj]
    exact List.take_prefix _ _
  rw [bind_eq, Action.log, Action.perform]
  intro _
  refine ⟨⟨hnext, hspares⟩, {(peerId, peer.addr)}, ?_⟩
  show reading.wp machine _ _ _ _
    (ReadingEvent.delivered peer.addr
      (peer.recvBuf.take (Action.fullPacketSize peer.recvBuf)) :: events) _ _
  dsimp only [ret_bind, Program.bind]
  split
  · rename_i handler hhandler
    rw [bind_eq]
    refine custody_keeping _ (packetHandler_quiet hhandler) hreads ?_
    intro s' events' rest' hreads' hrely
    refine shift_reads hreads' ?_ (hrely.1.isCut hafter)
    intro peer' hpeer'
    rcases hrely.2 peer' hpeer' with ⟨before, hbefore, _, hbuf⟩
    cases hpeer.symm.trans hbefore
    exact hbuf
  · refine shift_reads hreads ?_ hafter
    intro peer' hpeer'
    cases hpeer.symm.trans hpeer'
    rfl

theorem ioPeerRecvPackets_reads (h : Reads s events ({(peerId, peer.addr)} + rest))
    (hpeer : s.peers[peerId]? = some peer) (hcut : IsCut peer.addr events peer.recvBuf) :
    reading.wp machine (.ioPeerRecvPackets peerId) (Action.ioPeerRecvPackets peerId)
      reading.ended s events {(peerId, peer.addr)} rest := by
  have hwaits : AwaitsMore peer.recvBuf ->
      reading.wp machine (.ioPeerRecvPackets peerId)
        (Action.invoke (.ioPeerRecvNext peerId)) reading.ended s events
        {(peerId, peer.addr)} rest := by
    intro hawaits
    refine custody_next h ?_
    intro peer' hpeer'
    cases hpeer.symm.trans hpeer'
    exact ⟨hawaits, hcut⟩
  have hmax : sizeofTLVChunk < maxPacketSize := by decide
  apply custody_peerAt
  intro peer' hpeer'
  cases hpeer.symm.trans hpeer'
  dsimp only
  split
  · rename_i hshort
    refine hwaits ⟨fun hbegins => ?_, Nat.lt_trans hshort hmax⟩
    exact absurd hbegins.1 (Nat.not_le_of_lt hshort)
  · split
    · exact custody_destroy h
    · rename_i hfits
      split
      · rename_i hcutShort
        refine hwaits ⟨fun hbegins => ?_, by omega⟩
        exact absurd hbegins.2 (Nat.not_le_of_lt hcutShort)
      · rename_i hlong hthere
        rw [bind_eq, Action.query]
        intro behind _ _
        have hnote : reading.note s
            (.answer (.ioPeerRecvPackets peerId) .memory behind) events = events :=
          Custody.note_none rfl
        refine ⟨⟨trivial, hnote ▸ Custody.spares_refl⟩, {(peerId, peer.addr)}, ?_⟩
        show reading.wp machine _ _ _ s events _ _
        dsimp only [ret_bind]
        split
        · trivial
        · exact custody_destroy h
        · rename_i pd hconstruct
          exact delivery_reads h hpeer hcut (by omega) (packet_of_construct hconstruct)

end Loops

/-!
## Runs
-/

theorem reading_valid : reading.Valid machine DirectPlay8Peer.Constructed where
  initial := by
    intro s hs
    constructor
    · constructor <;> simp [hs.peers]
    · simp [hs.peers]
    · intro event hevent
      cases hevent
    · intro reader hreader
      cases hreader
    · simp [hs.peers]
    · simp [hs.peers]
  start := by
    intro p s events held hentry h _
    refine readingPre_of_reads (Or.inl ?_) h
    cases p with
    | ioPeerRecv | ioPeerRecvClaimed | ioPeerRecvNext | ioPeerRecvPackets => cases hentry
    | _ => rfl
  body := by
    intro p s events given rest h
    by_cases hp : p.readsPackets = false
    · exact ordinary_body hp h
    · cases p with
      | ioPeerRecv peerId =>
          rcases h with ⟨rfl, hreads⟩
          exact ioPeerRecv_reads hreads
      | ioPeerRecvClaimed peerId received =>
          rcases h with ⟨rfl, before, peer, hpeer, hidle, hreads, hevents⟩
          exact ioPeerRecvClaimed_reads hpeer hidle hreads hevents
      | ioPeerRecvNext peerId =>
          rcases h with ⟨addr, rfl, hreads, hleft⟩
          exact ioPeerRecvNext_reads hreads hleft
      | ioPeerRecvPackets peerId =>
          rcases h with ⟨peer, rfl, hpeer, hreads, hcut⟩
          exact ioPeerRecvPackets_reads hreads hpeer hcut
      | _ => exact absurd rfl hp

abbrev readingRecord (past : Deeds) : List ReadingEvent := reading.record past

section Runs

variable {past : Deeds} {c : Run}

theorem reading_event {s : DirectPlay8Peer} {label : StepLabel} {event : ReadingEvent}
    (h : reading.event s label = some event) :
    (exists p addr packet, label = .exec p (.log (.delivered addr packet)) ∧
      event = .delivered addr packet) ∨
    (exists p peerId state sock ip port playerId,
      label = .exec p (.insertPeer peerId state sock ip port playerId) ∧
        event = .inserted peerId) ∨
    (exists addr bytes, event = .read addr bytes) ∨
      exists addr, event = .discarded addr := by
  cases label with
  | exec p command =>
      cases command with
      | insertPeer peerId state sock ip port playerId =>
          cases h
          exact Or.inr (Or.inl ⟨_, _, _, _, _, _, _, rfl, rfl⟩)
      | log logged =>
          cases logged with
          | delivered addr packet =>
              cases h
              exact Or.inl ⟨_, _, _, rfl, rfl⟩
          | _ => cases h
      | _ => cases h
  | answer p query received =>
      simp only [Custody.event, reading] at h
      split at h
      · rename_i known _ _ _
        rw [readEvent] at h
        rcases Option.bind_eq_some_iff.mp h with ⟨peer, _, hread⟩
        split at hread
        · cases hread
        · split at hread
          · cases hread
            exact Or.inr (Or.inr (Or.inr ⟨_, rfl⟩))
          · cases hread
            exact Or.inr (Or.inr (Or.inl ⟨_, _, rfl⟩))
      · cases h
  | _ => cases h

theorem record_inserted {peerId : UInt32}
    (h : ReadingEvent.inserted peerId ∈ readingRecord past) :
    peerId ∈ insertedPeerIds past := by
  rcases Custody.mem_record h with ⟨s, label, hmem, hevent⟩
  refine List.mem_filterMap.mpr ⟨(s, label), hmem, ?_⟩
  rcases reading_event hevent with ⟨_, _, _, _, heq⟩ |
    ⟨_, _, _, _, _, _, _, hlabel, heq⟩ | ⟨_, _, heq⟩ | ⟨_, heq⟩
  · cases heq
  · cases heq
    rw [hlabel]
  · cases heq
  · cases heq

theorem record_begun (h : reading.Each reading.promise past) (addr : Nat)
    (hkept : ¬ Discarded addr (readingRecord past)) :
    (packetsRead addr (readingRecord past)).flatten <+:
        bytesRead addr (readingRecord past) ∧
      forall packet, packet ∈ packetsRead addr (readingRecord past) ->
        packetFraming.IsFrame packet := by
  induction past with
  | nil => exact ⟨List.prefix_rfl, fun packet hpacket => by cases hpacket⟩
  | cons deed past ih =>
      rcases deed with ⟨s, label⟩
      have hold : ¬ Discarded addr (readingRecord past) :=
        fun hdiscarded => hkept (List.mem_append_right _ hdiscarded)
      rcases ih h.2 hold with ⟨hfront, hframes⟩
      show (packetsRead addr (reading.note s label (readingRecord past))).flatten <+:
          bytesRead addr (reading.note s label (readingRecord past)) ∧
        forall packet, packet ∈ packetsRead addr (reading.note s label (readingRecord past)) ->
          packetFraming.IsFrame packet
      rw [Custody.note]
      cases hevent : reading.event s label with
      | none => exact ⟨hfront, hframes⟩
      | some event =>
          show (packetsRead addr (event :: readingRecord past)).flatten <+:
              bytesRead addr (event :: readingRecord past) ∧
            forall packet, packet ∈ packetsRead addr (event :: readingRecord past) ->
              packetFraming.IsFrame packet
          by_cases hpeer : event.peer = some addr
          · rcases reading_event hevent with ⟨_, peer, packet, hlabel, rfl⟩ |
              ⟨_, _, _, _, _, _, _, _, rfl⟩ | ⟨peer, bytes, rfl⟩ | ⟨peer, rfl⟩
            · cases hpeer
              subst hlabel
              have hnext : NextPacket addr (readingRecord past) packet := h.1
              rw [bytesRead_cons, packetsRead_cons]
              simp only [ReadingEvent.bytesOf, ReadingEvent.packetOf, if_true,
                List.append_nil, Option.toList_some, List.flatten_append,
                List.flatten_singleton]
              refine ⟨hnext.2 hold, ?_⟩
              intro other hother
              rcases List.mem_append.mp hother with hwas | hnow
              · exact hframes other hwas
              · cases List.mem_singleton.mp hnow
                exact hnext.1
            · cases hpeer
            · cases hpeer
              rw [bytesRead_cons, packetsRead_cons]
              simp only [ReadingEvent.packetOf, Option.toList_none, List.append_nil]
              exact ⟨hfront.trans (List.prefix_append _ _), hframes⟩
            · cases hpeer
              rw [bytesRead_cons, packetsRead_cons]
              simp only [ReadingEvent.bytesOf, ReadingEvent.packetOf, Option.toList_none,
                List.append_nil]
              exact ⟨hfront, hframes⟩
          · have hsame := sameReading_cons (readingRecord past) hpeer
            rw [hsame.bytes, hsame.packets]
            exact ⟨hfront, hframes⟩

theorem reading_each (h : (insertedPeerIds past).Nodup) : reading.Each reading.cond past := by
  induction past with
  | nil => trivial
  | cons deed past ih =>
      rcases deed with ⟨s, label⟩
      have hmore : (insertedPeerIds past).Nodup := by
        refine h.sublist ?_
        exact List.Sublist.filterMap _ (List.sublist_cons_self _ _)
      refine ⟨?_, ih hmore⟩
      intro p peerId state sock ip port playerId hlabel hmem
      subst hlabel
      have hcons : insertedPeerIds
          ((s, .exec p (.insertPeer peerId state sock ip port playerId)) :: past) =
            peerId :: insertedPeerIds past := rfl
      rw [hcons] at h
      exact (List.nodup_cons.mp h).1 (record_inserted hmem)

theorem reading_holds (h : Traced machine DirectPlay8Peer.Constructed past c)
    (hfew : (takenPeerIds past).length ≤ 2 ^ 32) :
    reading.Each reading.promise past ∧ reading.Holds machine c (readingRecord past) :=
  Custody.traced_holds reading_valid h (reading_each (peerIds_distinct h hfew))

theorem reading_settled (h : Traced machine DirectPlay8Peer.Constructed past c)
    (hfew : (takenPeerIds past).length ≤ 2 ^ 32) (hfree : c.Free) {peerId : UInt32}
    {peer : Peer} (hpeer : c.state.peers[peerId]? = some peer)
    (hidle : peer.recvBusy = false) (hkept : ¬ Discarded peer.addr (readingRecord past)) :
    packetFraming.Cuts (bytesRead peer.addr (readingRecord past))
      (packetsRead peer.addr (readingRecord past)) peer.recvBuf := by
  rcases reading_holds h hfew with ⟨hpast, hholds⟩
  rcases hholds.free_inv hfree with ⟨held, hreads⟩
  rcases hreads.idle peerId peer hpeer hidle with ⟨hawaits, hcut⟩
  exact {
    stream_eq := hcut hkept
    are_frames := (record_begun hpast peer.addr hkept).2
    incomplete := hawaits.1 }

/-- What has been read from a peer and handed on, at any moment of a run. -/
structure ReadsInOrder (past : Deeds) (c : Run) : Prop where
  /-- Each packet is as long as its header says, and begins where the one before it ends. -/
  begun : forall addr, ¬ Discarded addr (readingRecord past) ->
    (packetsRead addr (readingRecord past)).flatten <+: bytesRead addr (readingRecord past) ∧
      forall packet, packet ∈ packetsRead addr (readingRecord past) ->
        packetFraming.IsFrame packet
  /-- The packets that are handed on are the first ones of any stream that is read. -/
  first : forall addr stream packets tail, ¬ Discarded addr (readingRecord past) ->
    packetFraming.Cuts stream packets tail ->
    bytesRead addr (readingRecord past) <+: stream ->
    packetsRead addr (readingRecord past) <+: packets
  /-- All that has arrived is handed on, unless a thread is still busy with it. -/
  all : c.Free -> forall (peerId : UInt32) (peer : Peer),
    c.state.peers[peerId]? = some peer -> peer.recvBusy = false ->
    ¬ Discarded peer.addr (readingRecord past) ->
    packetFraming.Cuts (bytesRead peer.addr (readingRecord past))
      (packetsRead peer.addr (readingRecord past)) peer.recvBuf
  /-- `recv` is never called for no bytes. -/
  room : forall s p addr space, (s, .exec p (.log (.recvCalled addr space))) ∈ past ->
    0 < space

/--
However a stream comes in, and whichever threads read it, its packets are handed to their
handlers one by one and in order, as long as no peer gets the ID of another.
-/
theorem packets_read_in_order (h : Traced machine DirectPlay8Peer.Constructed past c)
    (hfew : (takenPeerIds past).length ≤ 2 ^ 32) : ReadsInOrder past c := by
  have hpast := (reading_holds h hfew).1
  constructor
  · intro addr hkept
    exact record_begun hpast addr hkept
  · intro addr stream packets tail hkept hcuts hread
    rcases record_begun hpast addr hkept with ⟨hfront, hframes⟩
    exact hcuts.prefix_of_flatten hframes (hfront.trans hread)
  · intro hfree peerId peer hpeer hidle hkept
    exact reading_settled h hfew hfree hpeer hidle hkept
  · intro s p addr space hmem
    rcases List.append_of_mem hmem with ⟨behind, before, rfl⟩
    exact hpast.all

end Runs

def choicesReceiveParts (packet : List UInt8) (cut : Nat) : List (Choice Answer Proc) :=
  [.start (.ioPeerTriggered 0),
    .answer { ret := (packet.take cut).length, bytes := packet.take cut }, .answer {},
    .answer { ret := (packet.drop cut).length, bytes := packet.drop cut }, .answer {}]

/-- What a client sends once it is the player 2. -/
def toldPacket : List UInt8 :=
  (Action.messagePacket { DirectPlay8Peer.zeroed with localPlayerId := 2 } [1, 2, 3] 0).rawPacket

def choicesReceiveTwo : List (Choice Answer Proc) :=
  choicesInitialise ++ choicesHost ++ [.answer {}, .resume 0 {}] ++ choicesAccept ++
    choicesReceiveParts ((Action.connectHostPacket .zeroed).rawPacket ++ toldPacket) 50 ++
    [.resume 0 {}, .resume 0 {}, .answer { ret := -1, err := wsaEWouldBlock },
      .resume 0 {}, .answer { ret := -1, err := wsaEWouldBlock }]

theorem packets_read_in_order_parts :
    exists (past : Deeds) (c : Run),
      Traced machine DirectPlay8Peer.Constructed past c ∧
        packetsRead 0 (readingRecord past) =
          [(Action.connectHostPacket .zeroed).rawPacket, toldPacket] ∧
        ReadsInOrder past c := by
  have hrun : (retell machine 500 choicesReceiveTwo [] (Config.initial .zeroed)).any
      (fun q => decide ((takenPeerIds q.1).length = 1 ∧
        packetsRead 0 (readingRecord q.1) =
          [(Action.connectHostPacket .zeroed).rawPacket, toldPacket])) = true := by
    decide +kernel
  rcases retell_run DirectPlay8Peer.zeroed_constructed hrun with
    ⟨past, c, htraced, htest⟩
  rcases of_decide_eq_true htest with ⟨hcount, hpackets⟩
  have hfew : (takenPeerIds past).length ≤ 2 ^ 32 := by
    rw [hcount]
    decide
  exact ⟨past, c, htraced, hpackets, packets_read_in_order htraced hfew⟩

end DirectPlayLite
