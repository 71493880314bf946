import DirectPlayLite.Peer.Reading
import DirectPlayLite.Peer.Senders
import DirectPlayLite.Peer.Writing

/-!
# From one end of a connection to the other

Two objects are connected when what one of them reads from a peer is what the other has
written to one.  The packets that are handed to their handlers at one end are then those
that were queued at the other, whatever both of them do in between.
-/

namespace DirectPlayLite

open Monitor

/-!
## Packets are frames
-/

theorem fullPacketSize_serialise (type : UInt32) (calls : List Append)
    (h32 : (serialise type calls).rawPacket.length < 2 ^ 32) :
    Action.fullPacketSize (serialise type calls).rawPacket =
      (serialise type calls).rawPacket.length := by
  rw [serialise_rawPacket_length] at h32 ⊢
  have hsmall : (Append.encodeAll calls).length < 2 ^ 32 := by omega
  have hheader : ((serialise type calls).rawPacket.drop 4).take 4 =
      LittleEndian.bytes32 (UInt32.ofNat (Append.encodeAll calls).length) := by
    rw [serialise_rawPacket, tlvHeader, List.append_assoc,
      List.drop_left' (LittleEndian.bytes32_length type),
      List.take_left' (LittleEndian.bytes32_length _)]
  unfold Action.fullPacketSize
  rw [hheader, LittleEndian.word32_bytes32, UInt32.toNat_ofNat', Nat.mod_eq_of_lt hsmall]
  exact Nat.mod_eq_of_lt h32

theorem Proc.Puts.isFrame {p : Proc} {packet : List UInt8} (h : p.Puts packet)
    (h32 : packet.length < 2 ^ 32) : packetFraming.IsFrame packet := by
  have hserialised : exists type calls, packet = (serialise type calls).rawPacket := by
    rcases h with ⟨m, _, rfl⟩ | ⟨_, _, _, _, _, _, rfl⟩
    · exact ⟨_, _, by rw [Message.packet_eq]⟩
    · exact ⟨_, _, rfl⟩
  rcases hserialised with ⟨type, calls, rfl⟩
  refine ⟨?_, fullPacketSize_serialise type calls h32⟩
  rw [serialise_rawPacket_length]
  exact Nat.le_add_right _ _

/-!
## What has been queued
-/

section Sender

variable {past : Deeds} {c : Run} {addr : Nat} {packet : List UInt8}

def PutFor (addr : Nat) (packet : List UInt8) (past : Deeds) : Prop :=
  exists s p peerId peer priority handle callback,
    (s, .exec p (.peer peerId (.send priority packet handle callback))) ∈ past ∧
      s.peers[peerId]? = some peer ∧ peer.addr = addr ∧ p.Puts packet

theorem queuedOf_eq_some {event : WritingEvent} {choice : SendPriority × Sending}
    (h : event.queuedOf addr = some choice) : event = .queued addr choice.1 choice.2 := by
  cases event with
  | queued peer priority op =>
      rw [WritingEvent.queuedOf] at h
      split at h
      · rename_i haddr
        cases h
        rw [haddr]
      · cases h
  | _ => cases h

theorem writes_queued {s : DirectPlay8Peer} {command : Command} {priority : SendPriority}
    {op : Sending} (h : command.writes s = some (.queued addr priority op)) :
    exists peerId peer handle callback,
      command = .peer peerId (.send priority op.data handle callback) ∧
        s.peers[peerId]? = some peer ∧ peer.addr = addr := by
  cases command with
  | peer peerId change =>
      rcases Option.bind_eq_some_iff.mp h with ⟨peer, hpeer, hwrites⟩
      cases change with
      | send =>
          cases hwrites
          exact ⟨_, _, _, _, rfl, hpeer, rfl⟩
      | getPending =>
          rcases Option.map_eq_some_iff.mp hwrites with ⟨_, _, heq⟩
          cases heq
      | popPending =>
          rcases Option.map_eq_some_iff.mp hwrites with ⟨_, _, heq⟩
          cases heq
      | _ => cases hwrites
  | erasePeer peerId =>
      rcases Option.bind_eq_some_iff.mp h with ⟨peer, _, hwrites⟩
      rcases Option.map_eq_some_iff.mp hwrites with ⟨_, _, heq⟩
      cases heq
  | _ => cases h

theorem queued_put (h : Traced machine DirectPlay8Peer.Constructed past c)
    {choice : SendPriority × Sending}
    (hmem : choice ∈ opsQueued addr (writingRecord past)) :
    PutFor addr choice.2.data past := by
  rcases List.mem_filterMap.mp hmem with ⟨event, hevent, hqueued⟩
  cases queuedOf_eq_some hqueued
  rcases Custody.mem_record (List.mem_reverse.mp hevent) with ⟨s, label, hdeed, hlabel⟩
  rcases writing_event hlabel with ⟨p, command, rfl, hwrites⟩ |
    ⟨_, _, _, _, _, _, _, _, _, heq⟩
  · rcases writes_queued hwrites with ⟨peerId, peer, handle, callback, rfl, hpeer, haddr⟩
    rcases List.append_of_mem hdeed with ⟨behind, before, rfl⟩
    rcases h.before with ⟨c₀, _, htraced, rfl, hstep⟩
    exact ⟨_, _, _, _, _, _, _, hdeed, hpeer, haddr, puts_messages htraced.reaches hstep rfl⟩
  · cases heq

theorem chosen_queued (h : Traced machine DirectPlay8Peer.Constructed past c)
    {choice : SendPriority × Sending}
    (hmem : choice ∈ opsChosen addr (writingRecord past)) :
    choice ∈ opsQueued addr (writingRecord past) := by
  rcases lines_always h addr with ⟨sq, horder⟩
  have hline : (atPriority choice.1 (opsChosen addr (writingRecord past))).Sublist
      (atPriority choice.1 (opsQueued addr (writingRecord past))) :=
    (List.sublist_append_left _ _).trans (horder.line choice.1)
  have hchosen : choice.2 ∈ atPriority choice.1 (opsChosen addr (writingRecord past)) :=
    List.mem_map_of_mem (List.mem_filter.mpr ⟨hmem, by simp⟩)
  rcases List.mem_map.mp (hline.subset hchosen) with ⟨found, hfound, hsnd⟩
  rcases List.mem_filter.mp hfound with ⟨hqueued, hpriority⟩
  have hsame : found = choice := Prod.ext (eq_of_beq hpriority) hsnd
  rwa [hsame] at hqueued

end Sender

/-!
## Two ends of a connection
-/

/-- One object reads from a peer what another one writes to a peer of its own. -/
structure Joined (a : Nat) (sender : Deeds) (b : Nat) (receiver : Deeds) : Prop where
  /-- The bytes come in as they went out, some of them perhaps not yet. -/
  stream : bytesRead b (readingRecord receiver) <+: bytesAccepted a (writingRecord sender)
  whole : AcceptsWhole a (writingRecord sender)
  kept : ¬ Discarded b (readingRecord receiver)
  /-- The length of every packet fits into its header. -/
  small : forall choice, choice ∈ opsQueued a (writingRecord sender) ->
    choice.2.data.length < 2 ^ 32

def packetsChosen (addr : Nat) (events : List WritingEvent) : List (List UInt8) :=
  (opsChosen addr events).map fun choice => choice.2.data

/-- What is handed on are the packets of these ops, which come from the queues. -/
structure Delivers (a : Nat) (sender : Deeds) (b : Nat) (receiver : Deeds)
    (choices : List (SendPriority × Sending)) : Prop where
  packets : packetsRead b (readingRecord receiver) = choices.map fun choice => choice.2.data
  lines : forall priority, (atPriority priority choices).Sublist
    (atPriority priority (opsQueued a (writingRecord sender)))
  own : forall priority, (atPriority priority choices).filter SendOp.isOwn <+:
    (atPriority priority (opsQueued a (writingRecord sender))).filter SendOp.isOwn

def Peer.HasSentAll (peer : Peer) : Prop :=
  peer.sq.current = none ∧ forall priority, peer.sq.queue priority = []

section Connection

variable {sender receiver : Deeds} {c d : Run} {a b : Nat}

theorem packetsChosen_frames (h : Traced machine DirectPlay8Peer.Constructed sender c)
    (hsmall : forall choice, choice ∈ opsQueued a (writingRecord sender) ->
      choice.2.data.length < 2 ^ 32) :
    forall packet, packet ∈ packetsChosen a (writingRecord sender) ->
      packetFraming.IsFrame packet := by
  intro packet hpacket
  rcases List.mem_map.mp hpacket with ⟨choice, hchoice, rfl⟩
  have hqueued := chosen_queued h hchoice
  rcases queued_put h hqueued with ⟨_, _, _, _, _, _, _, _, _, _, hputs⟩
  exact hputs.isFrame (hsmall choice hqueued)

theorem packetsChosen_cuts (h : Traced machine DirectPlay8Peer.Constructed sender c)
    (hsmall : forall choice, choice ∈ opsQueued a (writingRecord sender) ->
      choice.2.data.length < 2 ^ 32) :
    packetFraming.Cuts (chosenBytes a (writingRecord sender))
      (packetsChosen a (writingRecord sender)) [] := by
  have hbytes : chosenBytes a (writingRecord sender) =
      (packetsChosen a (writingRecord sender)).flatten := by
    rw [chosenBytes, packetsChosen, List.flatMap_def]
  rw [hbytes]
  exact Framing.cuts_flatten (by decide) (packetsChosen_frames h hsmall)

theorem packetsRead_first (hs : Traced machine DirectPlay8Peer.Constructed sender c)
    (hr : Traced machine DirectPlay8Peer.Constructed receiver d)
    (hfew : (takenPeerIds receiver).length ≤ 2 ^ 32) (hjoined : Joined a sender b receiver) :
    packetsRead b (readingRecord receiver) <+: packetsChosen a (writingRecord sender) := by
  rcases record_begun (reading_holds hr hfew).1 b hjoined.kept with ⟨hfront, hframes⟩
  have hwritten := accepted_begun hs a
    (Custody.traced_holds writing_valid hs writing_each).1 hjoined.whole
  exact (packetsChosen_cuts hs hjoined.small).prefix_of_flatten hframes
    (hfront.trans (hjoined.stream.trans hwritten))

theorem chosen_lines (h : Traced machine DirectPlay8Peer.Constructed sender c)
    {choices : List (SendPriority × Sending)}
    (hchoices : choices <+: opsChosen a (writingRecord sender)) (priority : SendPriority) :
    (atPriority priority choices).Sublist
        (atPriority priority (opsQueued a (writingRecord sender))) ∧
      (atPriority priority choices).filter SendOp.isOwn <+:
        (atPriority priority (opsQueued a (writingRecord sender))).filter SendOp.isOwn := by
  rcases hchoices with ⟨more, hmore⟩
  rcases lines_always h a with ⟨sq, horder⟩
  have hline := horder.line priority
  rcases horder.own priority with ⟨lost, hown, _⟩
  rw [← hmore, atPriority_append] at hline hown
  constructor
  · exact (List.sublist_append_left _ _).trans ((List.sublist_append_left _ _).trans hline)
  · rw [hown, List.filter_append, List.append_assoc]
    exact List.prefix_append _ _

theorem packetsRead_all (hs : Traced machine DirectPlay8Peer.Constructed sender c)
    (hr : Traced machine DirectPlay8Peer.Constructed receiver d)
    (hfew : (takenPeerIds receiver).length ≤ 2 ^ 32) {peerId peerId' : UInt32}
    {peer peer' : Peer} (hjoined : Joined peer.addr sender peer'.addr receiver)
    (hread : bytesRead peer'.addr (readingRecord receiver) =
      bytesAccepted peer.addr (writingRecord sender))
    (hfree : c.Free) (hpeer : c.state.peers[peerId]? = some peer)
    (hsent : peer.HasSentAll) (hwhole : AllWhole peer.addr (writingRecord sender))
    (hfree' : d.Free) (hpeer' : d.state.peers[peerId']? = some peer')
    (hidle : peer'.recvBusy = false) :
    packetsRead peer'.addr (readingRecord receiver) =
        packetsChosen peer.addr (writingRecord sender) ∧ peer'.recvBuf = [] ∧
      forall priority,
        (atPriority priority (opsChosen peer.addr (writingRecord sender))).filter SendOp.isOwn =
          (atPriority priority (opsQueued peer.addr (writingRecord sender))).filter
            SendOp.isOwn := by
  have hsettled := ops_settled hs hfree hpeer
  rcases hsent with ⟨hcurrent, hqueues⟩
  have hleft : opsLeft peer.addr (writingRecord sender) ++ peer.sq.current.toList =
      opsLeft peer.addr (writingRecord sender) := by
    rw [hcurrent, Option.toList_none, List.append_nil]
  have hbytes : bytesAccepted peer.addr (writingRecord sender) =
      chosenBytes peer.addr (writingRecord sender) := by
    rw [hsettled.bytes, chosenBytes_eq hsettled.order, hleft, sentBytes_whole hwhole]
  have hcuts := reading_settled hr hfew hfree' hpeer' hidle hjoined.kept
  rw [hread, hbytes] at hcuts
  rcases (packetsChosen_cuts hs hjoined.small).unique hcuts with ⟨hpackets, htail⟩
  refine ⟨hpackets, htail, ?_⟩
  intro priority
  rw [hsettled.own priority, hqueues priority, List.append_nil]

/-- What gets from one end of a connection to the other. -/
structure DeliversInOrder (a : Nat) (sender : Deeds) (c : Run) (b : Nat) (receiver : Deeds)
    (d : Run) : Prop where
  /-- Of each priority the packets arrive in the order in which they were queued. -/
  sent : exists choices, choices <+: opsChosen a (writingRecord sender) ∧
    Delivers a sender b receiver choices
  /-- No packet arrives that was not put there for the receiver. -/
  put : forall packet, packet ∈ packetsRead b (readingRecord receiver) ->
    PutFor a packet sender
  /-- Once both ends are at rest, everything has arrived that was not cancelled. -/
  all : bytesRead b (readingRecord receiver) = bytesAccepted a (writingRecord sender) ->
    AllWhole a (writingRecord sender) -> c.Free -> d.Free ->
    forall (peerId peerId' : UInt32) (peer peer' : Peer),
      c.state.peers[peerId]? = some peer -> peer.addr = a -> peer.HasSentAll ->
      d.state.peers[peerId']? = some peer' -> peer'.addr = b -> peer'.recvBusy = false ->
      peer'.recvBuf = [] ∧
        Delivers a sender b receiver (opsChosen a (writingRecord sender)) ∧
        forall priority,
          (atPriority priority (opsChosen a (writingRecord sender))).filter SendOp.isOwn =
            (atPriority priority (opsQueued a (writingRecord sender))).filter SendOp.isOwn

/--
However both ends of a connection are scheduled, and however the bytes are split on their
way, the packets that are handled at one end are those that were queued at the other.
-/
theorem packets_delivered_in_order (hs : Traced machine DirectPlay8Peer.Constructed sender c)
    (hr : Traced machine DirectPlay8Peer.Constructed receiver d)
    (hfew : (takenPeerIds receiver).length ≤ 2 ^ 32) (hjoined : Joined a sender b receiver) :
    DeliversInOrder a sender c b receiver d := by
  have hfront := packetsRead_first hs hr hfew hjoined
  constructor
  · refine ⟨(opsChosen a (writingRecord sender)).take
      (packetsRead b (readingRecord receiver)).length, List.take_prefix _ _, ?_⟩
    have hlines := chosen_lines hs (List.take_prefix
      (packetsRead b (readingRecord receiver)).length (opsChosen a (writingRecord sender)))
    refine ⟨?_, fun priority => (hlines priority).1, fun priority => (hlines priority).2⟩
    rw [List.map_take]
    exact List.prefix_iff_eq_take.mp hfront
  · intro packet hpacket
    rcases List.mem_map.mp (hfront.subset hpacket) with ⟨choice, hchoice, rfl⟩
    exact queued_put hs (chosen_queued hs hchoice)
  · rintro hread hwhole hfree hfree' peerId peerId' peer peer' hpeer rfl hsent hpeer' rfl hidle
    rcases packetsRead_all hs hr hfew hjoined hread hfree hpeer hsent hwhole hfree' hpeer'
      hidle with ⟨hpackets, hempty, hown⟩
    have hlines := chosen_lines hs
      (List.prefix_refl (opsChosen peer.addr (writingRecord sender)))
    exact ⟨hempty, ⟨hpackets, fun priority => (hlines priority).1,
      fun priority => (hlines priority).2⟩, hown⟩

end Connection

def choicesAskHost : List (Choice Answer Proc) :=
  choicesInitialise ++ choicesConnect ++
    [.start (.ioPeerTriggered 0), .answer {}, .start (.ioPeerTriggered 0),
      .answer { ret := 7 },
      .answer { ret := (Action.connectHostPacket .zeroed).rawPacket.length - 7 },
      .answer { ret := -1, err := wsaEWouldBlock }]

def AsksToJoin (past : Deeds) : Prop :=
  bytesAccepted 0 (writingRecord past) = (Action.connectHostPacket .zeroed).rawPacket ∧
    AcceptsWhole 0 (writingRecord past) ∧
    forall choice, choice ∈ opsQueued 0 (writingRecord past) -> choice.2.data.length < 2 ^ 32

instance (past : Deeds) : Decidable (AsksToJoin past) :=
  inferInstanceAs (Decidable (_ ∧ _ ∧ forall choice, choice ∈ opsQueued 0 _ -> _))

def IsAskedToJoin (past : Deeds) : Prop :=
  (takenPeerIds past).length = 1 ∧
    bytesRead 0 (readingRecord past) = (Action.connectHostPacket .zeroed).rawPacket ∧
    packetsRead 0 (readingRecord past) = [(Action.connectHostPacket .zeroed).rawPacket] ∧
    ¬ Discarded 0 (readingRecord past)

instance (past : Deeds) : Decidable (IsAskedToJoin past) :=
  inferInstanceAs (Decidable (_ ∧ _ ∧ _ ∧ ¬ Discarded _ _))

theorem IsAskedToJoin.few {past : Deeds} (h : IsAskedToJoin past) :
    (takenPeerIds past).length ≤ 2 ^ 32 := by
  rw [h.1]
  decide

theorem joined_parts {sender receiver : Deeds} (hasks : AsksToJoin sender)
    (hasked : IsAskedToJoin receiver) : Joined 0 sender 0 receiver where
  stream := by
    refine ⟨[], ?_⟩
    rw [List.append_nil, hasked.2.1, hasks.1]
  whole := hasks.2.1
  kept := hasked.2.2.2
  small := hasks.2.2

/-- The request goes out in two parts and comes in in two others. -/
theorem packets_delivered_in_order_parts :
    exists (sender receiver : Deeds) (c d : Run),
      Traced machine DirectPlay8Peer.Constructed sender c ∧
        Traced machine DirectPlay8Peer.Constructed receiver d ∧
        Joined 0 sender 0 receiver ∧
        packetsRead 0 (readingRecord receiver) =
          [(Action.connectHostPacket .zeroed).rawPacket] ∧
        DeliversInOrder 0 sender c 0 receiver d := by
  have hclient : (retell machine 400 choicesAskHost [] (Config.initial .zeroed)).any
      (fun q => decide (AsksToJoin q.1)) = true := by
    decide +kernel
  have hhost : (retell machine 400 (choicesInitialise ++ choicesHost ++
      [.answer {}, .resume 0 {}] ++ choicesAccept ++
      choicesReceiveParts (Action.connectHostPacket .zeroed).rawPacket 5)
      [] (Config.initial .zeroed)).any (fun q => decide (IsAskedToJoin q.1)) = true := by
    decide +kernel
  rcases retell_run DirectPlay8Peer.zeroed_constructed hclient with ⟨sender, c, hs, hasks⟩
  rcases retell_run DirectPlay8Peer.zeroed_constructed hhost with ⟨receiver, d, hr, hasked⟩
  have hjoined := joined_parts (of_decide_eq_true hasks) (of_decide_eq_true hasked)
  have hread : IsAskedToJoin receiver := of_decide_eq_true hasked
  exact ⟨sender, receiver, c, d, hs, hr, hjoined, hread.2.2.1,
    packets_delivered_in_order hs hr hread.few hjoined⟩

end DirectPlayLite
