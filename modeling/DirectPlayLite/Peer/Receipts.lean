import DirectPlayLite.Peer.Contents

/-!
# From one application to the other

What one application passes to `SendTo` is what the message handler of another one is called
with, for every message that arrives from a player who is known there.
-/

namespace DirectPlayLite

open Monitor Program

/-!
## The receiver
-/

/-- What the application is told of a message. -/
def receiptOf (s : DirectPlay8Peer) (fromPlayerId : DPNID) (payload : List UInt8) :
    Option Notification :=
  (s.getPeerByPlayerId fromPlayerId).map fun peer =>
    .receive fromPlayerId peer.playerCtx payload 0

/-- What a handler tells the application of a message, if it is the handler of one. -/
def toldBy (s : DirectPlay8Peer) : Proc -> Option Notification
  | .handleMessage pd =>
      (messageFields pd).toOption.bind fun fields => receiptOf s fields.1 fields.2
  | _ => none

/-- `handle_message` tells the application at once. -/
def receipts : Prompt DirectPlay8Peer Command Proc where
  watched
    | .handleMessage _, .log (.raised _) => true
    | _, _ => false
  due s callee := (toldBy s callee).toList.map fun notification => .log (.raised notification)

section Receiver

variable {s : DirectPlay8Peer} {p : Proc}

theorem due_handleMessage {pd : PacketDeserialiser} {fields : DPNID × List UInt8}
    (h : messageFields pd = .ok fields) :
    receipts.due s (.handleMessage pd) =
      (receiptOf s fields.1 fields.2).toList.map fun notification =>
        .log (.raised notification) := by
  simp [receipts, toldBy, h, Except.toOption]

theorem due_other (h : forall pd, p ≠ .handleMessage pd) : receipts.due s p = [] := by
  cases p with
  | handleMessage pd => exact absurd rfl (h pd)
  | _ => rfl

theorem handleMessage_tells (pd : PacketDeserialiser) :
    receipts.observer.follows machine (.handleMessage pd) (Action.handleMessage pd)
      (fun _ => receipts.observer.resting) s (receipts.due s (.handleMessage pd)) := by
  rw [Action.handleMessage_eq]
  cases hfields : messageFields pd with
  | error error =>
      show receipts.due s (.handleMessage pd) = []
      simp [receipts, toldBy, hfields, Except.toOption]
  | ok fields =>
      rw [due_handleMessage hfields]
      show receipts.observer.follows machine (.handleMessage pd)
        (Action.giveTo fields.1 fields.2 (s.getPeerByPlayerId fields.1)) _ s _
      rw [receiptOf]
      cases hpeer : s.getPeerByPlayerId fields.1 with
      | none => exact rfl
      | some peer =>
          show receipts.observer.follows machine (.handleMessage pd)
            (.exec (.log (.raised (.receive fields.1 peer.playerCtx fields.2 0))) _) _ s [_]
          exact Prompt.follows_due rfl ⟨rfl, fun _ _ _ hrest _ _ => hrest⟩

theorem receipts_minds (h : forall pd, p ≠ .handleMessage pd) :
    Observer.Minds receipts.observer machine p p.footprint := by
  apply Prompt.minds
  · intro command _
    cases p with
    | handleMessage pd => exact absurd rfl (h pd)
    | _ => rfl
  · intro child s hchild
    apply due_other
    rintro pd rfl
    cases hchild

theorem receipts_followed : receipts.observer.Followed machine where
  entry := by
    intro p s left hentry hrest
    have hnone : receipts.due s p = [] := by
      apply due_other
      rintro pd rfl
      cases hentry
    exact hrest.trans hnone.symm
  body := by
    intro p s left hbegins
    cases hbegins
    by_cases hp : exists pd, p = .handleMessage pd
    · rcases hp with ⟨pd, rfl⟩
      exact handleMessage_tells pd
    · have hother : forall pd, p ≠ .handleMessage pd := fun pd heq => hp ⟨pd, heq⟩
      rw [due_other hother]
      exact Observer.follows_uses p.body_uses (receipts_minds hother) rfl

end Receiver

def Command.told : Command -> Option Notification
  | .log (.raised notification) => some notification
  | _ => none

/-- The messages of a peer that the application has been given. -/
def receivedFrom (addr : Nat) (past : Deeds) : List Notification :=
  (receipts.carriedOut (handlesFor addr) past).filterMap Command.told

section Received

variable {past : Deeds} {c : Run} {addr : Nat} {s : DirectPlay8Peer}

theorem told_due {callee : Proc} :
    (receipts.due s callee).filterMap Command.told = (toldBy s callee).toList := by
  show ((toldBy s callee).toList.map _).filterMap Command.told = _
  cases toldBy s callee <;> rfl

theorem due_told {calls : List (DirectPlay8Peer × Proc × Proc)} :
    (calls.flatMap fun call => receipts.due call.1 call.2.2).filterMap Command.told =
      calls.filterMap fun call => toldBy call.1 call.2.2 := by
  induction calls with
  | nil => rfl
  | cons call calls ih =>
      rw [List.flatMap_cons, List.filterMap_append, told_due, ih, List.filterMap_cons]
      cases toldBy call.1 call.2.2 <;> rfl

theorem receivedFrom_eq (h : Traced machine DirectPlay8Peer.Constructed past c)
    (addr : Nat) : exists left,
      receivedFrom addr past ++ left =
          (Prompt.callsOf (handlesFor addr) past).filterMap (fun call =>
            toldBy call.1 call.2.2) ∧
        (c.Free -> left = []) := by
  rcases Prompt.carriedOut_always (handlesFor addr) receipts_followed h with
    ⟨left, hkeeps, hleft⟩
  refine ⟨(if (Prompt.lastCall past).any (handlesFor addr) then left else []).filterMap
    Command.told, ?_, ?_⟩
  · rw [receivedFrom, ← List.filterMap_append, hkeeps, due_told]
  · intro hfree
    rw [hleft hfree, ite_self]
    rfl

end Received

/-!
## The sender
-/

def ownMessages : Observer DirectPlay8Peer Command Proc Unit where
  start := ()
  observe
    | .sendTo _ payload _ flags, .peer _ (.send _ packet _ _), s, _ =>
        if packet = (Action.messagePacket s payload flags).rawPacket then some () else none
    | _, _, _, _ => some ()
  hand _ _ _ _ := some ()
  meets _ _ _ := True
  begins _ _ _ := True
  resting _ _ := True

section Sender

variable {s : DirectPlay8Peer} {p : Proc} {player : DPNID} {payload : List UInt8}
  {ctx : Context} {flags : DWORD}

abbrev withoutPackets : Footprint Command Proc Fault :=
  .running fun command => command.packet = none

theorem ownMessages_quiet {command : Command}
    (h : command.packet = none ∨ forall player payload ctx flags,
      p ≠ .sendTo player payload ctx flags) :
    ownMessages.observe p command s () = some () := by
  cases p with
  | sendTo =>
      rcases h with h | h
      · cases command with
        | peer peerId change =>
            cases change with
            | send => cases h
            | _ => rfl
        | _ => rfl
      · exact absurd rfl (h _ _ _ _)
  | _ => rfl

theorem ownMessages_send {peerId : UInt32} {priority : SendPriority} {packet : List UInt8}
    {handle : DPNHANDLE} {callback : SendCallback} :
    ownMessages.observe (.sendTo player payload ctx flags)
        (.peer peerId (.send priority packet handle callback)) s () = some () ↔
      packet = (Action.messagePacket s payload flags).rawPacket := by
  simp only [ownMessages]
  split <;> simp_all

theorem ownMessages_follows {prog : Action Unit} {fp : Footprint Command Proc Fault}
    (huses : prog.Uses fp)
    (hquiet : forall command s, fp.commands command ->
      ownMessages.observe p command s () = some ()) :
    ownMessages.follows machine p prog (fun _ => ownMessages.resting) s () := by
  refine Observer.follows_uses huses ⟨?_, ?_, ?_⟩ trivial
  · exact fun command s _ hfits _ => ⟨hquiet command s hfits, trivial⟩
  · exact fun _ _ _ _ _ => ⟨(), rfl, trivial⟩
  · exact fun _ _ _ _ _ => trivial

theorem ownMessages_rest {prog : Action Unit} (huses : prog.Uses withoutPackets) :
    ownMessages.follows machine p prog (fun _ => ownMessages.resting) s () :=
  ownMessages_follows huses fun _ _ hfits => ownMessages_quiet (.inl hfits)

theorem ownMessages_perform {command : Command} {f : Unit -> Action Unit}
    (hquiet : command.packet = none)
    (h : ownMessages.follows machine p (f ()) (fun _ => ownMessages.resting)
      (command.apply s) ()) :
    ownMessages.follows machine p (perform command >>= f)
      (fun _ => ownMessages.resting) s () :=
  ⟨(), ownMessages_quiet (.inl hquiet), h⟩

theorem ownMessages_detach {cond : Prop} [Decidable cond] {child : Proc}
    {f : Unit -> Action Unit}
    (h : ownMessages.follows machine p (f ()) (fun _ => ownMessages.resting) s ()) :
    ownMessages.follows machine p (onlyIf cond (detach child) >>= f)
      (fun _ => ownMessages.resting) s () := by
  by_cases hcond : cond
  · rw [onlyIf, if_pos hcond]
    exact ⟨fun _ _ _ => trivial, h⟩
  · rw [onlyIf, if_neg hcond]
    exact h

theorem ownMessages_sends {peerIds : List UInt32} {handle : DPNHANDLE}
    {callback : SendCallback} {f : Unit -> Action Unit} (own : DirectPlay8Peer)
    (hown : s.localPlayerId = own.localPlayerId) (hnext : (f ()).Uses withoutPackets) :
    ownMessages.follows machine (.sendTo player payload ctx flags)
      (forEach (fun peerId => Action.ofPeer peerId
          (.send (Action.sendPriority flags) (Action.messagePacket own payload flags).rawPacket
            handle callback)) peerIds >>= f)
      (fun _ => ownMessages.resting) s () := by
  rw [bind_eq, Observer.follows_bind]
  refine Observer.follows_mono (Observer.follows_forEach
    (fun _ s' _ => s'.localPlayerId = own.localPlayerId) ?_ hown) ?_
  · intro peerId rest s' _ hsame
    have hpacket : Action.messagePacket own payload flags =
        Action.messagePacket s' payload flags := by
      rw [Action.messagePacket, Action.messagePacket, hsame]
    exact ⟨(), ownMessages_send.mpr (by rw [hpacket]),
      DirectPlay8Peer.local_unchanged.trans hsame⟩
  · exact fun _ s' _ _ => ownMessages_rest hnext

theorem sendSync_own {peerIds : List UInt32} {toSelf : Bool} :
    ownMessages.follows machine (.sendTo player payload ctx flags)
      (Action.sendSync payload flags peerIds toSelf)
      (fun _ => ownMessages.resting) s () := by
  rw [Action.sendSync]
  apply Observer.follows_get
  apply ownMessages_perform rfl
  refine ownMessages_sends s rfl ?_
  repeat' with_reducible first
    | apply Uses.onlyIf
    | apply Action.uses_bind
    | intro _
  all_goals simp

theorem sendAsync_own {peerIds : List UInt32} {toSelf : Bool} :
    ownMessages.follows machine (.sendTo player payload ctx flags)
      (Action.sendAsync payload ctx flags peerIds toSelf)
      (fun _ => ownMessages.resting) s () := by
  rw [Action.sendAsync]
  apply Observer.follows_get
  apply ownMessages_perform rfl
  apply ownMessages_perform rfl
  apply ownMessages_detach
  refine ownMessages_sends s rfl ?_
  refine Action.uses_bind (Uses.onlyIf ?_) fun _ => ?_ <;> simp

theorem sendTo_own :
    ownMessages.follows machine (.sendTo player payload ctx flags)
      (Action.sendTo player payload ctx flags) (fun _ => ownMessages.resting) s () := by
  have hreturns : forall result, ownMessages.follows machine (.sendTo player payload ctx flags)
      (Action.returns .sendTo result) (fun _ => ownMessages.resting) s () :=
    fun result => ownMessages_rest (by simp)
  rw [Action.sendTo]
  apply Observer.follows_get
  split <;> first
    | exact hreturns _
    | split
      · exact hreturns _
      · split
        · exact hreturns _
        · apply ownMessages_rest
          exact ⟨rfl, trivial⟩
        · split
          · exact sendSync_own
          · exact sendAsync_own

theorem ownMessages_followed : ownMessages.Followed machine where
  entry := fun _ _ _ _ _ => trivial
  body := by
    intro p s _ _
    by_cases hp : exists player payload ctx flags, p = .sendTo player payload ctx flags
    · rcases hp with ⟨player, payload, ctx, flags, rfl⟩
      exact sendTo_own
    · have hother : forall player payload ctx flags, p ≠ .sendTo player payload ctx flags :=
        fun player payload ctx flags heq => hp ⟨player, payload, ctx, flags, heq⟩
      exact ownMessages_follows p.body_uses fun _ _ _ => ownMessages_quiet (.inr hother)

theorem sends_own {past : Deeds} {c : Run} {peerId : UInt32} {priority : SendPriority}
    {packet : List UInt8} {handle : DPNHANDLE} {callback : SendCallback}
    (h : Traced machine DirectPlay8Peer.Constructed past c)
    (hmem : (s, .exec (.sendTo player payload ctx flags)
      (.peer peerId (.send priority packet handle callback))) ∈ past) :
    packet = (Action.messagePacket s payload flags).rawPacket := by
  rcases Observer.traced_seen ownMessages_followed (fun _ _ => trivial) h
    (fun _ _ _ _ => trivial) with ⟨_, hseen, _⟩
  rcases Observer.seen_mem hseen hmem with ⟨_, _, hlook⟩
  exact ownMessages_send.mp hlook

end Sender

/-!
## Messages on their way
-/

/-- A message that has been put into a queue. -/
structure Dispatch where
  priority : SendPriority
  handle : DPNHANDLE
  sender : DPNID
  payload : List UInt8
deriving Repr, DecidableEq

namespace Dispatch

def isOwn (message : Dispatch) : Bool := message.handle == 0

def hasPriority (priority : SendPriority) (message : Dispatch) : Bool :=
  message.priority == priority

end Dispatch

/-- What a step of `SendTo` puts into the queue of a peer. -/
def dispatchOf (addr : Nat) (s : DirectPlay8Peer) : StepLabel -> Option Dispatch
  | .exec (.sendTo _ payload _ _) command =>
      ((command.writes s).bind (WritingEvent.queuedOf addr)).map fun choice =>
        ⟨choice.1, choice.2.asyncHandle, s.localPlayerId, payload⟩
  | _ => none

/-- The messages `SendTo` has queued for a peer, in their order. -/
def messagesSent (addr : Nat) (past : Deeds) : List Dispatch :=
  past.reverse.filterMap fun deed => dispatchOf addr deed.1 deed.2

def messageIn (packet : List UInt8) : Option (DPNID × List UInt8) :=
  if typeOfPacket packet = msgidMessage then
    (parsed packet).bind fun pd => (messageFields pd).toOption
  else none

def dispatchIn (choice : SendPriority × Sending) : Option Dispatch :=
  (messageIn choice.2.data).map fun message =>
    ⟨choice.1, choice.2.asyncHandle, message.1, message.2⟩

section Packets

variable {packet : List UInt8} {p : Proc} {s : DirectPlay8Peer}

theorem Proc.Puts.message (h : p.Puts packet) (htype : typeOfPacket packet = msgidMessage) :
    exists player payload ctx flags own, p = .sendTo player payload ctx flags ∧
      packet = (Action.messagePacket own payload flags).rawPacket := by
  rcases h with ⟨m, hsends, rfl⟩ | ⟨_, _, _, _, _, _, rfl⟩
  · rw [Message.packet_eq, typeOfPacket_serialise] at htype
    cases hsends with
    | sendTo own => exact ⟨_, _, _, _, own, rfl, rfl⟩
    | _ =>
        simp only [Message.msgid] at htype
        exact absurd htype (by decide)
  · rw [Action.connectHostOkPacket, typeOfPacket_serialise] at htype
    exact absurd htype (by decide)

theorem messageIn_message {own : DirectPlay8Peer} {payload : List UInt8} {flags : DWORD}
    (h32 : (Action.messagePacket own payload flags).rawPacket.length < 2 ^ 32) :
    messageIn (Action.messagePacket own payload flags).rawPacket =
      some (own.localPlayerId, payload) := by
  rcases parsed_message (m := .message own payload flags) (s := own) trivial h32 with
    ⟨pd, hparsed, htype, hfields, _⟩
  have hmessage : parsed (Action.messagePacket own payload flags).rawPacket = some pd := hparsed
  have htyped : typeOfPacket (Action.messagePacket own payload flags).rawPacket = msgidMessage :=
    (parsed_type hmessage).symm.trans htype
  rw [messageIn, if_pos htyped, hmessage, Option.bind_some, hfields]
  rfl

theorem toldBy_handler {peerId : UInt32} {handler : Proc} (hputs : p.Puts packet)
    (h32 : packet.length < 2 ^ 32) (hhands : Hands packet peerId handler) :
    toldBy s handler = (messageIn packet).bind fun message =>
      receiptOf s message.1 message.2 := by
  by_cases htype : typeOfPacket packet = msgidMessage
  · rcases hputs.message htype with ⟨_, payload, _, flags, own, _, rfl⟩
    rcases hhands.handledAs h32 with ⟨pd, _, hmeant, _⟩
    rcases hmeant (.message own payload flags) s rfl trivial with ⟨hhandler, hfields, _⟩
    cases hhandler
    rw [messageIn_message h32, toldBy, hfields]
    rfl
  · rw [messageIn, if_neg htype]
    have hhandles := hhands.packetType
    cases handler with
    | handleMessage pd => exact absurd (Option.some.inj hhandles).symm htype
    | _ => rfl

end Packets

section Sent

variable {past : Deeds} {c : Run} {s : DirectPlay8Peer} {label : StepLabel} {addr : Nat}

theorem dispatchIn_queuedBy (h : Traced machine DirectPlay8Peer.Constructed past c)
    (hdeed : (s, label) ∈ past)
    (hsmall : forall choice, choice ∈ opsQueued addr (writingRecord past) ->
      choice.2.data.length < 2 ^ 32) :
    (queuedBy addr s label).bind dispatchIn = dispatchOf addr s label := by
  cases hqueued : queuedBy addr s label with
  | none =>
      cases label with
      | exec p command =>
          cases p with
          | sendTo player payload ctx flags =>
              show _ = (queuedBy addr s (.exec (.sendTo player payload ctx flags) command)).map _
              rw [hqueued]
              rfl
          | _ => rfl
      | _ => rfl
  | some choice =>
      have h32 := hsmall choice (queuedBy_mem hdeed hqueued)
      rcases queuedBy_some hqueued with ⟨p, peerId, _, handle, callback, rfl, _⟩
      show dispatchIn choice = _
      by_cases hp : exists player payload ctx flags, p = .sendTo player payload ctx flags
      · rcases hp with ⟨player, payload, ctx, flags, rfl⟩
        have hpacket := sends_own h hdeed
        rw [hpacket] at h32
        show _ = (queuedBy addr s (.exec (.sendTo player payload ctx flags)
          (.peer peerId (.send choice.1 choice.2.data handle callback)))).map _
        rw [hqueued, dispatchIn, hpacket, messageIn_message h32]
        rfl
      · have hnone : dispatchOf addr s (.exec p
            (.peer peerId (.send choice.1 choice.2.data handle callback))) = none := by
          cases p with
          | sendTo player payload ctx flags => exact absurd ⟨_, _, _, _, rfl⟩ hp
          | _ => rfl
        rcases List.append_of_mem hdeed with ⟨behind, before, rfl⟩
        rcases h.before with ⟨c₀, _, htraced, rfl, hstep⟩
        have htype : typeOfPacket choice.2.data ≠ msgidMessage := by
          intro htype
          rcases (puts_messages htraced.reaches hstep rfl).message htype with
            ⟨player, payload, ctx, flags, _, heq, _⟩
          exact hp ⟨player, payload, ctx, flags, heq⟩
        rw [hnone, dispatchIn, messageIn, if_neg htype]
        rfl

theorem messagesSent_eq (h : Traced machine DirectPlay8Peer.Constructed past c)
    (hsmall : forall choice, choice ∈ opsQueued addr (writingRecord past) ->
      choice.2.data.length < 2 ^ 32) :
    (opsQueued addr (writingRecord past)).filterMap dispatchIn = messagesSent addr past :=
  opsQueued_filterMap fun _ _ hdeed => dispatchIn_queuedBy h hdeed hsmall

end Sent

/-!
## In the order they were sent
-/

section Orders

variable {priority : SendPriority} {choices : List (SendPriority × Sending)}
  {ops : List Sending}

theorem dispatches_atPriority :
    (choices.filterMap dispatchIn).filter (Dispatch.hasPriority priority) =
      (atPriority priority choices).filterMap fun op => dispatchIn (priority, op) := by
  rw [atPriority, List.filterMap_map, List.filter_filterMap, List.filterMap_filter]
  congr 1
  funext choice
  rcases choice with ⟨from_, op⟩
  by_cases hpriority : from_ = priority
  · cases hmessage : messageIn op.data <;>
      simp [dispatchIn, hmessage, Dispatch.hasPriority, hpriority]
  · cases hmessage : messageIn op.data <;>
      simp [dispatchIn, hmessage, Dispatch.hasPriority, hpriority]

theorem dispatches_own :
    (ops.filterMap fun op => dispatchIn (priority, op)).filter Dispatch.isOwn =
      (ops.filter SendOp.isOwn).filterMap fun op => dispatchIn (priority, op) := by
  rw [List.filter_filterMap, List.filterMap_filter]
  congr 1
  funext op
  cases hmessage : messageIn op.data <;>
    simp [dispatchIn, hmessage, Dispatch.isOwn, SendOp.isOwn, Option.filter]

end Orders

/-- What one application is told of the packets of another, some of them messages. -/
structure Relays (a : Nat) (sender : Deeds) (c : Run) (b : Nat) (receiver : Deeds) (d : Run)
    (said : List (Option Dispatch)) : Prop where
  /-- A message is given to the application if its sender is known by then. -/
  told : List.Forall₂ (fun message call => toldBy call.1 call.2.2 =
      message.bind fun m => receiptOf call.1 m.sender m.payload) said
    (Prompt.callsOf (handlesFor b) receiver)
  received : exists left, receivedFrom b receiver ++ left =
      (Prompt.callsOf (handlesFor b) receiver).filterMap (fun call =>
        toldBy call.1 call.2.2) ∧ (d.Free -> left = [])
  /-- Those of a priority come in the order in which they were sent. -/
  lines : forall priority, (said.reduceOption.filter (Dispatch.hasPriority priority)).Sublist
    ((messagesSent a sender).filter (Dispatch.hasPriority priority))
  /-- None of those that cannot be cancelled is left out. -/
  own : forall priority,
    (said.reduceOption.filter (Dispatch.hasPriority priority)).filter Dispatch.isOwn <+:
      ((messagesSent a sender).filter (Dispatch.hasPriority priority)).filter Dispatch.isOwn
  all : AllRead a sender c b receiver d -> forall priority,
    (said.reduceOption.filter (Dispatch.hasPriority priority)).filter Dispatch.isOwn =
      ((messagesSent a sender).filter (Dispatch.hasPriority priority)).filter Dispatch.isOwn

section Connection

variable {sender receiver : Deeds} {c d : Run} {a b : Nat}

/--
What one application passes to `SendTo` for another one is what the other one's message
handler is called with, once for each call and in the order of the calls, as soon as the
other one knows where it comes from.
-/
theorem messages_received_in_order (hs : Traced machine DirectPlay8Peer.Constructed sender c)
    (hr : Traced machine DirectPlay8Peer.Constructed receiver d)
    (hfew : (takenPeerIds receiver).length ≤ 2 ^ 32) (hjoined : Joined a sender b receiver) :
    exists said, Relays a sender c b receiver d said := by
  rcases handled_calls hs hr hfew hjoined with ⟨choices, hchoices, hcalls, hevery⟩
  have hsaid : (choices.map dispatchIn).reduceOption = choices.filterMap dispatchIn :=
    List.filterMap_map
  have hsent := messagesSent_eq hs hjoined.small
  refine ⟨choices.map dispatchIn, ?_, receivedFrom_eq hr b, ?_, ?_, ?_⟩
  · refine List.forall₂_map_left_iff.mpr (hcalls.imp ?_)
    rintro choice call ⟨hqueued, peerId, hhands⟩
    rcases queued_put hs hqueued with ⟨_, p, _, _, _, _, _, _, _, _, hputs⟩
    rw [toldBy_handler hputs (hjoined.small choice hqueued) hhands, dispatchIn, Option.bind_map]
    rfl
  · intro priority
    rw [hsaid, dispatches_atPriority, ← hsent, dispatches_atPriority]
    exact (chosen_lines hs hchoices priority).1.filterMap _
  · intro priority
    rw [hsaid, dispatches_atPriority, dispatches_own, ← hsent, dispatches_atPriority,
      dispatches_own]
    exact (chosen_lines hs hchoices priority).2.filterMap _
  · intro hall priority
    have hown := (hall.settled hs hr hfew hjoined).2 priority
    rw [hsaid, dispatches_atPriority, dispatches_own, ← hsent, dispatches_atPriority,
      dispatches_own, hevery hall, hown]

end Connection

def choicesTell : List (Choice Answer Proc) :=
  choicesAdmit ++ [.start (.sendTo 2 [1, 2, 3] contextNull 0),
    .start (.ioPeerTriggered 0), .answer { ret := 152 }, .answer { ret := 43 },
    .resume 0 {}, .answer { ret := -1, err := wsaEWouldBlock }]

def choicesBeTold (bytes : List UInt8) : List (Choice Answer Proc) :=
  choicesInitialise ++ choicesConnect ++
    [.start (.ioPeerTriggered 0), .answer {}, .start (.ioPeerTriggered 0),
      .answer { ret := (Action.connectHostPacket .zeroed).rawPacket.length },
      .answer { ret := bytes.length, bytes }, .answer {}, .answer {}] ++
    List.replicate 3 (.resume 0 {}) ++ [.answer {}]

def Tells (past : Deeds) : Prop :=
  AcceptsWhole 0 (writingRecord past) ∧
    (forall choice, choice ∈ opsQueued 0 (writingRecord past) ->
      choice.2.data.length < 2 ^ 32) ∧
    (messagesSent 0 past).map Dispatch.payload = [[1, 2, 3]]

instance (past : Deeds) : Decidable (Tells past) :=
  inferInstanceAs (Decidable (_ ∧ (forall choice, choice ∈ opsQueued 0 _ -> _) ∧ _))

def IsTold (bytes : List UInt8) (past : Deeds) : Prop :=
  (takenPeerIds past).length = 1 ∧ bytesRead 0 (readingRecord past) = bytes ∧
    ¬ Discarded 0 (readingRecord past) ∧
    receivedFrom 0 past = [.receive 1 contextNull [1, 2, 3] 0]

instance (bytes : List UInt8) (past : Deeds) : Decidable (IsTold bytes past) :=
  inferInstanceAs (Decidable (_ ∧ _ ∧ ¬ Discarded _ _ ∧ _))

/-- A host sends three bytes to its client, which receives them from the player 1. -/
theorem messages_received_in_order_three :
    exists (sender receiver : Deeds) (c d : Run),
      Joined 0 sender 0 receiver ∧
        (messagesSent 0 sender).map Dispatch.payload = [[1, 2, 3]] ∧
        receivedFrom 0 receiver = [.receive 1 contextNull [1, 2, 3] 0] ∧
        exists said, Relays 0 sender c 0 receiver d said := by
  have hruns : (retell machine 500 choicesTell [] (Config.initial .zeroed)).any
      (fun q => decide (Tells q.1) &&
        (retell machine 500 (choicesBeTold (bytesAccepted 0 (writingRecord q.1))) []
          (Config.initial .zeroed)).any
          (fun r => decide (IsTold (bytesAccepted 0 (writingRecord q.1)) r.1))) = true := by
    decide +kernel
  rcases retell_run DirectPlay8Peer.zeroed_constructed hruns with ⟨sender, c, hs, hboth⟩
  rcases Bool.and_eq_true_iff.mp hboth with ⟨htells, hclient⟩
  rcases retell_run DirectPlay8Peer.zeroed_constructed hclient with ⟨receiver, d, hr, htold⟩
  rcases of_decide_eq_true htells with ⟨hwhole, hsmall, hsent⟩
  rcases of_decide_eq_true htold with ⟨hcount, hread, hkept, hreceived⟩
  have hstream : bytesRead 0 (readingRecord receiver) <+:
      bytesAccepted 0 (writingRecord sender) := ⟨[], (List.append_nil _).trans hread⟩
  have hjoined : Joined 0 sender 0 receiver := ⟨hstream, hwhole, hkept, hsmall⟩
  have hfew : (takenPeerIds receiver).length ≤ 2 ^ 32 := by
    rw [hcount]
    decide
  exact ⟨sender, receiver, c, d, hjoined, hsent, hreceived,
    messages_received_in_order hs hr hfew hjoined⟩

end DirectPlayLite
