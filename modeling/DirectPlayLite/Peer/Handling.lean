import DirectPlayLite.Peer.Delivery
import DirectPlayLite.Peer.Welcome
import Mathlib.Data.List.Forall2

/-!
# Handling packets

A packet that has been cut out of a connection goes to the handler of its type at once, in
the form the deserialiser gives it.  Each packet that one object queues for another is so
handled there, once and in its turn, and its handler finds in it what was put in.
-/

namespace DirectPlayLite

open Monitor Program

/-!
## Handlers
-/

def typeOfPacket (packet : List UInt8) : DWORD := LittleEndian.word32 (packet.take 4)

def hasHandler (packet : List UInt8) : Bool :=
  3 ≤ (typeOfPacket packet).toNat && (typeOfPacket packet).toNat ≤ 21

def Hands (packet : List UInt8) (peerId : UInt32) (handler : Proc) : Prop :=
  exists pd beyond,
    PacketDeserialiser.Constructs 32 (bufferOf packet beyond) packet.length (.ok pd) ∧
      Action.packetHandler peerId pd = some handler

theorem bufferOf_take (bytes : List UInt8) (beyond : Memory) (count : Nat) :
    bufferOf (bytes.take count) (bufferOf bytes beyond) = bufferOf bytes beyond := by
  funext i
  by_cases hi : i < count
  · simp only [bufferOf, List.getD_eq_getElem?_getD, List.getElem?_take_of_lt hi]
    cases bytes[i]? <;> rfl
  · simp [bufferOf, hi]

theorem packetType_of_constructs {packet : List UInt8} {beyond : Memory}
    {pd : PacketDeserialiser}
    (h : PacketDeserialiser.Constructs 32 (bufferOf packet beyond) packet.length (.ok pd)) :
    pd.packetType = typeOfPacket packet := by
  rcases PacketDeserialiser.constructs_ok_iff.mp h with ⟨hlong, _, hmemory, hheader, _⟩
  have hsize : sizeofTLVChunk = 8 := rfl
  have hholds : (bufferOf packet beyond).Holds 0 (packet.take 4) := by
    have := bufferOf_holds (packet.take 4) (packet.drop 4) beyond
    rwa [List.take_append_drop] at this
  have hfour : (packet.take 4).length = 4 := List.length_take_of_le (by omega)
  rw [Memory.Holds, hfour] at hholds
  rw [PacketDeserialiser.packetType, hmemory, hheader, chunkType, hholds, typeOfPacket]

theorem packetHandler_none {peerId : UInt32} {packet : List UInt8} {beyond : Memory}
    {pd : PacketDeserialiser}
    (h : PacketDeserialiser.Constructs 32 (bufferOf packet beyond) packet.length (.ok pd)) :
    Action.packetHandler peerId pd = none ↔ hasHandler packet = false := by
  have htype := packetType_of_constructs h
  have hrange : hasHandler packet = false ↔
      (typeOfPacket packet).toNat < 3 ∨ 21 < (typeOfPacket packet).toNat := by
    simp [hasHandler]
    omega
  rw [hrange]
  unfold Action.packetHandler
  rw [htype]
  split
  case h_20 =>
    simp only [imp_false, true_iff] at *
    omega
  all_goals
    rename_i heq
    simp [heq]

/-!
## One after another
-/

abbrev Handing : Type := Option (Nat × List UInt8)

open Classical in
noncomputable def handing : Observer DirectPlay8Peer Command Proc Handing where
  start := none
  observe
    | _, .log (.delivered addr packet), _, none =>
        some (if hasHandler packet then some (addr, packet) else none)
    | _, .log (.delivered _ _), _, some _ => none
    | _, _, _, waiting => some waiting
  hand
    | .ioPeerRecvPackets peerId, callee, s, some (addr, packet) =>
        if (exists peer, s.peers[peerId]? = some peer ∧ peer.addr = addr) ∧
          Hands packet peerId callee then some none else none
    | _, callee, _, none => if callee.isPacketHandler then none else some none
    | _, _, _, some _ => none
  meets _ _ _ := True
  begins _ _ waiting := waiting = none
  resting _ waiting := waiting = none

theorem Proc.kinds_undelivered {p : Proc} (hp : forall peerId, p ≠ .ioPeerRecvPackets peerId) :
    CommandKind.delivered ∉ p.kinds := by
  cases p with
  | ioPeerRecvPackets peerId => exact absurd rfl (hp peerId)
  | _ => simp [Proc.kinds]

theorem Proc.callees_unhandling {p callee : Proc}
    (hp : forall peerId, p ≠ .ioPeerRecvPackets peerId) (h : p.callees callee = true) :
    callee.isPacketHandler = false := by
  cases p with
  | ioPeerRecvPackets peerId => exact absurd rfl (hp peerId)
  | _ =>
      simp only [Proc.callees] at h
      first
      | cases h
      | split at h <;> first
        | rfl
        | cases h

section Bodies

variable {p : Proc} {s : DirectPlay8Peer} {peerId : UInt32}

theorem handing_minds (hp : forall peerId, p ≠ .ioPeerRecvPackets peerId) :
    Observer.Minds handing machine p p.footprint where
  commands := by
    intro command s waiting hfits hrest
    cases hrest
    refine ⟨?_, rfl⟩
    cases command with
    | log event =>
        cases event with
        | delivered => exact absurd hfits.1 (Proc.kinds_undelivered hp)
        | _ => rfl
    | _ => rfl
  calls := by
    intro callee s waiting hcalls hrest
    cases hrest
    have hordinary := Proc.callees_unhandling hp hcalls.1
    refine ⟨none, ?_, rfl⟩
    cases p <;> simp [handing, hordinary]
  spawns := fun _ _ _ _ hrest => hrest

theorem handing_invoke {callee : Proc} (h : callee.isPacketHandler = false) :
    handing.follows machine (.ioPeerRecvPackets peerId) (Action.invoke callee)
      (fun _ => handing.resting) s none := by
  refine ⟨fun _ => ⟨none, ?_, rfl⟩, fun _ _ hrest => hrest⟩
  simp [handing, h]

theorem handing_handler {peer : Peer} {packet : List UInt8} {handler : Proc}
    (hpeer : s.peers[peerId]? = some peer) (hhands : Hands packet peerId handler) :
    handing.follows machine (.ioPeerRecvPackets peerId) (Action.invoke handler)
      (fun _ => handing.resting) s (some (peer.addr, packet)) := by
  refine ⟨fun _ => ⟨none, ?_, rfl⟩, fun _ _ hrest => hrest⟩
  simp [handing, hpeer, hhands]

theorem handing_renewPeer {next : Peer -> Action Unit}
    (h : forall peer, handing.follows machine p (next peer)
      (fun _ => handing.resting) s none) :
    handing.follows machine p (Action.renewPeer peerId next)
      (fun _ => handing.resting) s none := by
  apply Observer.follows_get
  split
  · exact h _
  · rfl

theorem handing_shift (size : Nat) :
    handing.follows machine (.ioPeerRecvPackets peerId)
      (Action.renewPeer peerId fun renewed =>
        if renewed.recvBuf.length < size then .abort .outOfBounds
        else do
          Action.ofPeer peerId (.shiftRecv size)
          Action.invoke (.ioPeerRecvPackets peerId))
      (fun _ => handing.resting) s none := by
  apply handing_renewPeer
  intro renewed
  split
  · trivial
  · exact ⟨none, rfl, handing_invoke rfl⟩

theorem handing_delivered {peer : Peer} {size : Nat} {beyond : Memory}
    {pd : PacketDeserialiser} (hpeer : s.peers[peerId]? = some peer)
    (hpd : PacketDeserialiser.Constructs 32 (bufferOf (peer.recvBuf.take size) beyond)
      (peer.recvBuf.take size).length (.ok pd)) :
    handing.follows machine (.ioPeerRecvPackets peerId)
      (do
        Action.log (.delivered peer.addr (peer.recvBuf.take size))
        match Action.packetHandler peerId pd with
        | some handler => Action.invoke handler
        | none => pure ()
        Action.renewPeer peerId fun renewed =>
          if renewed.recvBuf.length < size then .abort .outOfBounds
          else do
            Action.ofPeer peerId (.shiftRecv size)
            Action.invoke (.ioPeerRecvPackets peerId) : Action Unit)
      (fun _ => handing.resting) s none := by
  refine ⟨_, rfl, ?_⟩
  cases hhandler : Action.packetHandler peerId pd with
  | none =>
      have hnone := (packetHandler_none hpd).mp hhandler
      rw [hnone]
      exact handing_shift size
  | some handler =>
      have hsome : hasHandler (peer.recvBuf.take size) = true := by
        cases hhas : hasHandler (peer.recvBuf.take size) with
        | true => rfl
        | false => cases hhandler.symm.trans ((packetHandler_none hpd).mpr hhas)
      rw [hsome]
      show handing.follows machine _ (Program.bind (Action.invoke handler) fun _ => _) _ _ _
      refine Observer.follows_bind.mpr (Observer.follows_mono
        (handing_handler hpeer ⟨pd, beyond, hpd, hhandler⟩) ?_)
      intro _ s' waiting hrest
      cases hrest
      exact handing_shift size

theorem handing_construct {peer : Peer} {size : Nat} (hpeer : s.peers[peerId]? = some peer)
    (hlong : size ≤ peer.recvBuf.length) (behind : Memory) :
    handing.follows machine (.ioPeerRecvPackets peerId)
      (match PacketDeserialiser.construct 32 (size + 1) (bufferOf peer.recvBuf behind) size with
        | none => .abort .outOfMemory
        | some (.error _) =>
            Action.invoke (.peerDestroy peerId dpnErrConnectionLost
              destroyPlayerReasonConnectionLost)
        | some (.ok pd) => do
            Action.log (.delivered peer.addr (peer.recvBuf.take size))
            match Action.packetHandler peerId pd with
            | some handler => Action.invoke handler
            | none => pure ()
            Action.renewPeer peerId fun renewed =>
              if renewed.recvBuf.length < size then .abort .outOfBounds
              else do
                Action.ofPeer peerId (.shiftRecv size)
                Action.invoke (.ioPeerRecvPackets peerId) : Action Unit)
      (fun _ => handing.resting) s none := by
  split
  · trivial
  · exact handing_invoke rfl
  · rename_i pd hpd
    have hconstructs : PacketDeserialiser.Constructs 32
        (bufferOf (peer.recvBuf.take size) (bufferOf peer.recvBuf behind))
        (peer.recvBuf.take size).length (.ok pd) := by
      rw [bufferOf_take, List.length_take_of_le hlong]
      exact ⟨size + 1, hpd⟩
    exact handing_delivered hpeer hconstructs

theorem ioPeerRecvPackets_hands :
    handing.follows machine (.ioPeerRecvPackets peerId) (Action.ioPeerRecvPackets peerId)
      (fun _ => handing.resting) s none := by
  rw [Action.ioPeerRecvPackets, bind_eq, Observer.follows_bind]
  apply Observer.follows_get
  split
  · rename_i peer hpeer
    show handing.follows machine (.ioPeerRecvPackets peerId)
      (if peer.recvBuf.length < sizeofTLVChunk then _ else _) _ s none
    split
    · exact handing_invoke rfl
    · split
      · exact handing_invoke rfl
      · split
        · exact handing_invoke rfl
        · rename_i hlong
          intro behind _
          exact handing_construct hpeer (Nat.not_lt.mp hlong) behind.memory
  · trivial

end Bodies

theorem handing_followed : handing.Followed machine where
  entry := fun _ _ _ _ hrest => hrest
  body := by
    intro p s waiting hbegins
    cases hbegins
    by_cases hp : exists peerId, p = .ioPeerRecvPackets peerId
    · rcases hp with ⟨peerId, rfl⟩
      exact ioPeerRecvPackets_hands
    · have hordinary : forall peerId, p ≠ .ioPeerRecvPackets peerId :=
        fun peerId heq => hp ⟨peerId, heq⟩
      exact Observer.follows_uses p.body_uses (handing_minds hordinary) rfl

/-!
## Runs
-/

def deliveredOf (addr : Nat) : StepLabel -> Option (List UInt8)
  | .exec _ (.log (.delivered peer packet)) => if peer = addr then some packet else none
  | _ => none

def handlerOf (addr : Nat) (s : DirectPlay8Peer) : StepLabel -> Option (UInt32 × Proc)
  | .call (.ioPeerRecvPackets peerId) callee =>
      if callee.isPacketHandler && (s.peers[peerId]?).any (·.addr == addr) then
        some (peerId, callee)
      else none
  | _ => none

def handlersCalled (addr : Nat) (past : Deeds) : List (UInt32 × Proc) :=
  past.reverse.filterMap fun deed => handlerOf addr deed.1 deed.2

def waitingFor (addr : Nat) (waiting : Handing) : List (List UInt8) :=
  match waiting with
  | some (peer, packet) => if peer = addr then [packet] else []
  | none => []

section Runs

variable {past : Deeds} {c : Run} {addr : Nat} {s : DirectPlay8Peer} {label : StepLabel}
  {events : List ReadingEvent}

theorem handlersCalled_cons : handlersCalled addr ((s, label) :: past) =
    handlersCalled addr past ++ (handlerOf addr s label).toList := by
  rw [handlersCalled, List.reverse_cons, List.filterMap_append, handlersCalled]
  cases h : handlerOf addr s label <;> simp [h]

theorem packetOf_note {event : ReadingEvent} (h : reading.event s label = some event) :
    event.packetOf addr = deliveredOf addr label := by
  cases label with
  | exec p command =>
      rcases reading_event h with ⟨_, peer, packet, heq, rfl⟩ |
        ⟨_, _, _, _, _, _, _, heq, rfl⟩ | ⟨peer, bytes, rfl⟩ | ⟨peer, rfl⟩
      · cases heq
        rfl
      · cases heq
        rfl
      all_goals
        cases command with
        | log logged => cases logged <;> cases h
        | _ => cases h
  | answer p query received =>
      rcases reading_event h with ⟨_, _, _, heq, _⟩ | ⟨_, _, _, _, _, _, _, heq, _⟩ |
        ⟨peer, bytes, rfl⟩ | ⟨peer, rfl⟩
      · cases heq
      · cases heq
      · rfl
      · rfl
  | _ => cases h

theorem packetsRead_note : packetsRead addr (reading.note s label events) =
    packetsRead addr events ++ (deliveredOf addr label).toList := by
  rw [Custody.note]
  cases hevent : reading.event s label with
  | none =>
      have hnone : deliveredOf addr label = none := by
        cases label with
        | exec p command =>
            cases command with
            | log logged =>
                cases logged with
                | delivered => cases hevent
                | _ => rfl
            | _ => rfl
        | _ => rfl
      rw [hnone]
      simp
  | some event =>
      rw [Option.toList_some, List.singleton_append, packetsRead_cons, packetOf_note hevent]

def HandedOver (addr : Nat) (past : Deeds) (waiting : Handing) : Prop :=
  exists handed,
    (packetsRead addr (readingRecord past)).filter hasHandler =
        handed ++ waitingFor addr waiting ∧
      List.Forall₂ (fun packet call => Hands packet call.1 call.2) handed
        (handlersCalled addr past)

theorem HandedOver.quiet {waiting : Handing} (h : HandedOver addr past waiting)
    (hdelivered : deliveredOf addr label = none) (hcalled : handlerOf addr s label = none) :
    HandedOver addr ((s, label) :: past) waiting := by
  rcases h with ⟨handed, hpackets, hhands⟩
  refine ⟨handed, ?_, ?_⟩
  · show (packetsRead addr (reading.note s label (readingRecord past))).filter hasHandler = _
    rw [packetsRead_note, hdelivered, Option.toList_none, List.append_nil, hpackets]
  · rw [handlersCalled_cons, hcalled, Option.toList_none, List.append_nil]
    exact hhands

theorem HandedOver.delivered {p : Proc} {peer : Nat} {packet : List UInt8}
    (h : HandedOver addr past none) :
    HandedOver addr ((s, .exec p (.log (.delivered peer packet))) :: past)
      (if hasHandler packet then some (peer, packet) else none) := by
  rcases h with ⟨handed, hpackets, hhands⟩
  refine ⟨handed, ?_, ?_⟩
  · show (packetsRead addr (reading.note s (.exec p (.log (.delivered peer packet)))
      (readingRecord past))).filter hasHandler = _
    rw [packetsRead_note, List.filter_append, hpackets]
    cases hhas : hasHandler packet <;> by_cases haddr : peer = addr <;>
      simp [deliveredOf, waitingFor, hhas, haddr]
  · rw [handlersCalled_cons]
    simpa [handlerOf] using hhands

theorem HandedOver.called {peer : Nat} {packet : List UInt8} {peerId : UInt32}
    {callee : Proc} {found : Peer} (h : HandedOver addr past (some (peer, packet)))
    (hfound : s.peers[peerId]? = some found) (hpeer : found.addr = peer)
    (hhands : Hands packet peerId callee) :
    HandedOver addr ((s, .call (.ioPeerRecvPackets peerId) callee) :: past) none := by
  rcases h with ⟨handed, hpackets, hall⟩
  have hhandler : callee.isPacketHandler = true := by
    rcases hhands with ⟨pd, beyond, _, hcallee⟩
    exact Action.packetHandler_isPacketHandler hcallee
  by_cases haddr : peer = addr
  · have hof : handlerOf addr s (.call (.ioPeerRecvPackets peerId) callee) =
        some (peerId, callee) := by
      simp [handlerOf, hhandler, hfound, hpeer, haddr]
    have hdelivered : deliveredOf addr (.call (.ioPeerRecvPackets peerId) callee) = none := rfl
    refine ⟨handed ++ [packet], ?_, ?_⟩
    · show (packetsRead addr (reading.note s (.call (.ioPeerRecvPackets peerId) callee)
        (readingRecord past))).filter hasHandler = _
      rw [packetsRead_note, hdelivered, Option.toList_none, List.append_nil, hpackets]
      simp [waitingFor, haddr]
    · rw [handlersCalled_cons, hof]
      exact List.rel_append hall (.cons hhands .nil)
  · have hnone : handlerOf addr s (.call (.ioPeerRecvPackets peerId) callee) = none := by
      simp [handlerOf, hfound, hpeer, haddr]
    refine HandedOver.quiet ⟨handed, ?_, hall⟩ rfl hnone
    simpa [waitingFor, haddr] using hpackets

theorem hand_waiting {p callee : Proc} {peer : Nat} {packet : List UInt8} {waiting : Handing}
    (h : handing.hand p callee s (some (peer, packet)) = some waiting) :
    waiting = none ∧ exists peerId found, p = .ioPeerRecvPackets peerId ∧
      s.peers[peerId]? = some found ∧ found.addr = peer ∧ Hands packet peerId callee := by
  cases p with
  | ioPeerRecvPackets peerId =>
      simp only [handing] at h
      split at h
      · rename_i hcond
        rcases hcond with ⟨⟨found, hfound, haddr⟩, hhands⟩
        cases h
        exact ⟨rfl, peerId, found, rfl, hfound, haddr, hhands⟩
      · cases h
  | _ => cases h

theorem hand_idle (addr : Nat) {p callee : Proc} {waiting : Handing}
    (h : handing.hand p callee s none = some waiting) :
    waiting = none ∧ handlerOf addr s (.call p callee) = none := by
  have hcond : (if callee.isPacketHandler then none else some none) = some waiting := by
    cases p <;> exact h
  split at hcond
  · cases hcond
  · rename_i hordinary
    cases hcond
    refine ⟨rfl, ?_⟩
    cases p <;> simp [handlerOf, hordinary]

theorem HandedOver.step {waiting waiting' : Handing} (h : HandedOver addr past waiting)
    (hlook : handing.look s label waiting = some waiting') :
    HandedOver addr ((s, label) :: past) waiting' := by
  cases label with
  | exec p command =>
      cases command with
      | log event =>
          cases event with
          | delivered peer packet =>
              cases waiting with
              | none =>
                  cases hlook
                  exact h.delivered
              | some other => cases hlook
          | _ =>
              cases hlook
              exact h.quiet rfl rfl
      | _ =>
          cases hlook
          exact h.quiet rfl rfl
  | call p callee =>
      have hhand : handing.hand p callee s waiting = some waiting' := hlook
      rcases waiting with none | ⟨peer, packet⟩
      · rcases hand_idle addr hhand with ⟨rfl, hnone⟩
        exact h.quiet rfl hnone
      · rcases hand_waiting hhand with ⟨rfl, peerId, found, rfl, hfound, hpeer, hhands⟩
        exact h.called hfound hpeer hhands
  | _ =>
      cases hlook
      exact h.quiet rfl rfl

theorem handed_always (addr : Nat) (h : Traced machine DirectPlay8Peer.Constructed past c) :
    exists waiting, HandedOver addr past waiting ∧ (c.Free -> waiting = none) := by
  have hseen : forall past : Deeds, forall waiting, handing.seen past = some waiting ->
      HandedOver addr past waiting := by
    intro past
    induction past with
    | nil =>
        intro waiting hstart
        cases hstart
        exact ⟨[], rfl, .nil⟩
    | cons deed past ih =>
        intro waiting hnext
        rcases Option.bind_eq_some_iff.mp hnext with ⟨before, hbefore, hlook⟩
        exact (ih before hbefore).step hlook
  rcases Observer.traced_seen handing_followed (fun _ _ => rfl) h (fun _ _ _ _ => trivial) with
    ⟨waiting, hwaiting, hsees⟩
  exact ⟨waiting, hseen past waiting hwaiting, hsees.free⟩

end Runs

/-!
## From one end to the other
-/

def HandledAs (packet : List UInt8) (peerId : UInt32) (handler : Proc) : Prop :=
  exists pd, Action.packetHandler peerId pd = some handler ∧
    (forall (m : Message) (s : DirectPlay8Peer), packet = m.packet.rawPacket ->
      m.MeantFor s -> m.handler peerId pd = some handler ∧ m.Recovered s pd) ∧
    forall (s : DirectPlay8Peer) (target : UInt32) (playerId : DPNID)
      (replyData : List UInt8),
      packet = (Action.connectHostOkPacket s target playerId replyData).rawPacket ->
      Action.CountsPeers s target ->
      Action.decodeConnectHostOk pd = .ok (Action.hostOkFor s target playerId replyData)

theorem typeOfPacket_serialise (type : UInt32) (calls : List Append) :
    typeOfPacket (serialise type calls).rawPacket = type := by
  rw [typeOfPacket, serialise_rawPacket, tlvHeader, List.append_assoc,
    List.take_left' (LittleEndian.bytes32_length type), LittleEndian.word32_bytes32]

theorem Hands.handledAs {packet : List UInt8} {peerId : UInt32} {handler : Proc}
    (h : Hands packet peerId handler) (h32 : packet.length < 2 ^ 32) :
    HandledAs packet peerId handler := by
  rcases h with ⟨pd, beyond, hpd, hhandler⟩
  refine ⟨pd, hhandler, ?_, ?_⟩
  · intro m s hpacket hmeant
    subst hpacket
    rcases Message.arrives hmeant h32 peerId [] beyond with
      ⟨pd', hpd', _, hhandler', hrecovered⟩
    rw [List.append_nil] at hpd'
    cases hpd.unique hpd'
    exact ⟨hhandler'.symm.trans hhandler, hrecovered⟩
  · intro s target playerId replyData hpacket hcounts
    subst hpacket
    rcases (Action.connectHostOkPacket_decodes h32).mpr hcounts [] beyond with
      ⟨pd', hpd', _, hok⟩
    rw [List.append_nil] at hpd'
    cases hpd.unique hpd'
    exact hok

section Connection

variable {past sender receiver : Deeds} {c d : Run} {a b addr : Nat}

theorem PutFor.hasHandler {packet : List UInt8}
    (h : Traced machine DirectPlay8Peer.Constructed past c) (hput : PutFor addr packet past) :
    hasHandler packet = true := by
  rcases hput with ⟨s, p, peerId, peer, priority, handle, callback, hmem, _, _, hputs⟩
  rcases List.append_of_mem hmem with ⟨behind, before, rfl⟩
  rcases h.before with ⟨c₀, _, htraced, rfl, hstep⟩
  have hfits : p.footprint.commands
      (.peer peerId (.send priority packet handle callback)) :=
    htraced.reaches.exec_uses Proc.body_uses hstep
  have hkind : CommandKind.send ∈ p.kinds := hfits.1
  rcases hputs with ⟨m, hsends, rfl⟩ | ⟨_, _, _, _, _, _, rfl⟩
  · rw [Message.packet_eq, DirectPlayLite.hasHandler, typeOfPacket_serialise]
    cases hsends <;> first
      | rfl
      | simp [Proc.kinds] at hkind
  · rw [Action.connectHostOkPacket, DirectPlayLite.hasHandler, typeOfPacket_serialise]
    rfl

theorem handled_choices (hs : Traced machine DirectPlay8Peer.Constructed sender c)
    (hr : Traced machine DirectPlay8Peer.Constructed receiver d)
    (hfew : (takenPeerIds receiver).length ≤ 2 ^ 32) (hjoined : Joined a sender b receiver) :
    exists choices, choices <+: opsChosen a (writingRecord sender) ∧
      List.Forall₂ (fun choice call => (PutFor a choice.2.data sender ∧
        choice.2.data.length < 2 ^ 32) ∧ Hands choice.2.data call.1 call.2) choices
        (handlersCalled b receiver) ∧
      (d.Free -> packetsRead b (readingRecord receiver) =
        choices.map fun choice => choice.2.data) := by
  have hfirst := packetsRead_first hs hr hfew hjoined
  have hput : forall choice, choice ∈ opsChosen a (writingRecord sender) ->
      PutFor a choice.2.data sender ∧ choice.2.data.length < 2 ^ 32 := by
    intro choice hchoice
    have hqueued := chosen_queued hs hchoice
    exact ⟨queued_put hs hqueued, hjoined.small choice hqueued⟩
  have hall : (packetsRead b (readingRecord receiver)).filter hasHandler =
      packetsRead b (readingRecord receiver) := by
    refine List.filter_eq_self.mpr fun packet hpacket => ?_
    rcases List.mem_map.mp (hfirst.subset hpacket) with ⟨choice, hchoice, rfl⟩
    exact (hput choice hchoice).1.hasHandler hs
  rcases handed_always b hr with ⟨waiting, ⟨handed, hpackets, hhands⟩, hfree⟩
  rw [hall] at hpackets
  have hhanded : handed <+: packetsChosen a (writingRecord sender) := by
    refine List.IsPrefix.trans ?_ hfirst
    rw [hpackets]
    exact List.prefix_append _ _
  have htaken : handed = ((opsChosen a (writingRecord sender)).take handed.length).map
      fun choice => choice.2.data := by
    rw [List.map_take]
    exact List.prefix_iff_eq_take.mp hhanded
  have hchoices := List.take_prefix handed.length (opsChosen a (writingRecord sender))
  generalize (opsChosen a (writingRecord sender)).take handed.length = choices
    at htaken hchoices
  subst htaken
  refine ⟨choices, hchoices, ?_, ?_⟩
  · exact (List.forall₂_and_left choices _).mpr
      ⟨fun choice hchoice => hput choice (hchoices.subset hchoice),
        List.forall₂_map_left_iff.mp hhands⟩
  · intro hidle
    cases hfree hidle
    rw [hpackets]
    exact List.append_nil _

/-- What the handlers at one end of a connection are given of the queues at the other. -/
structure HandlesInOrder (a : Nat) (sender : Deeds) (b : Nat) (receiver : Deeds) (d : Run) :
    Prop where
  /-- One handler is called for each op, in its turn. -/
  handled : exists choices, choices <+: opsChosen a (writingRecord sender) ∧
    List.Forall₂ (fun choice call => HandledAs choice.2.data call.1 call.2) choices
      (handlersCalled b receiver) ∧
    (d.Free -> packetsRead b (readingRecord receiver) =
      choices.map fun choice => choice.2.data)
  /-- Every call is on behalf of a message that was sent to this peer. -/
  meant : forall call, call ∈ handlersCalled b receiver -> exists packet,
    PutFor a packet sender ∧ HandledAs packet call.1 call.2

/--
However both ends of a connection are scheduled, the handlers that one of them calls are
those of the messages the other has queued, each with what its sender has put in.
-/
theorem messages_handled_in_order (hs : Traced machine DirectPlay8Peer.Constructed sender c)
    (hr : Traced machine DirectPlay8Peer.Constructed receiver d)
    (hfew : (takenPeerIds receiver).length ≤ 2 ^ 32) (hjoined : Joined a sender b receiver) :
    HandlesInOrder a sender b receiver d := by
  rcases handled_choices hs hr hfew hjoined with ⟨choices, hchoices, hhands, hread⟩
  have hgiven : List.Forall₂ (fun choice call => PutFor a choice.2.data sender ∧
      HandledAs choice.2.data call.1 call.2) choices (handlersCalled b receiver) :=
    hhands.imp fun choice call h => ⟨h.1.1, h.2.handledAs h.1.2⟩
  constructor
  · exact ⟨choices, hchoices, hgiven.imp fun _ _ h => h.2, hread⟩
  · intro call hcall
    rcases List.mem_iff_getElem.mp hcall with ⟨i, hi, rfl⟩
    have hlength := hgiven.length_eq
    exact ⟨_, (List.forall₂_iff_get.mp hgiven).2 i (by omega) hi⟩

end Connection

/-- A host begins to handle the request of a client. -/
theorem messages_handled_in_order_parts :
    exists (sender receiver : Deeds) (d : Run),
      Joined 0 sender 0 receiver ∧ (handlersCalled 0 receiver).length = 1 ∧
        HandlesInOrder 0 sender 0 receiver d := by
  have hclient : (retell machine 400 choicesAskHost [] (Config.initial .zeroed)).any
      (fun q => decide (AsksToJoin q.1)) = true := by
    decide +kernel
  have hhost : (retell machine 400 (choicesInitialise ++ choicesHost ++
      [.answer {}, .resume 0 {}] ++ choicesAccept ++
      choicesReceiveParts (Action.connectHostPacket .zeroed).rawPacket 5)
      [] (Config.initial .zeroed)).any
      (fun q => decide (IsAskedToJoin q.1 ∧ (handlersCalled 0 q.1).length = 1)) = true := by
    decide +kernel
  rcases retell_run DirectPlay8Peer.zeroed_constructed hclient with ⟨sender, c, hs, hasks⟩
  rcases retell_run DirectPlay8Peer.zeroed_constructed hhost with ⟨receiver, d, hr, hasked⟩
  rcases of_decide_eq_true hasked with ⟨hjoin, hcalled⟩
  exact ⟨sender, receiver, d, joined_parts (of_decide_eq_true hasks) hjoin, hcalled,
    messages_handled_in_order hs hr hjoin.few (joined_parts (of_decide_eq_true hasks) hjoin)⟩

end DirectPlayLite
