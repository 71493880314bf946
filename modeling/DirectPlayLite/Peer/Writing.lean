import DirectPlayLite.Peer.Custodies
import DirectPlayLite.Peer.Queueing

/-!
# Writing a connection

Whatever is queued, cancelled and sent in between, what the socket of a peer accepts are
the packets of its queue one after another, in the order in which `get_pending` has chosen
them, and the packets of one priority in the order in which they were queued.
-/

namespace DirectPlayLite

open Monitor Program

abbrev Sending := SendOp SendCallback

/-!
## Queues
-/

namespace SendOp

variable {Callback : Type}

def sentBytes (op : SendOp Callback) : List UInt8 := op.data.take op.sentData

def renewed (op : SendOp Callback) : SendOp Callback := { op with sentData := 0 }

/-- An op of the library itself, which is never cancelled. -/
def isOwn (op : SendOp Callback) : Bool := op.asyncHandle == 0

def IsFresh (op : SendOp Callback) : Prop := op.sentData = 0 ∧ op.data ≠ []

end SendOp

namespace SendQueue

variable {Callback : Type} {sq rest : SendQueue Callback} {op : SendOp Callback}
  {priority : SendPriority}

/-- The op `get_pending` chooses when none is being sent. -/
def chooses (sq : SendQueue Callback) : Option (SendPriority × SendOp Callback) :=
  match sq with
  | ⟨_, _, _, some _⟩ => none
  | ⟨_, _, op :: _, none⟩ => some (.high, op)
  | ⟨_, op :: _, [], none⟩ => some (.medium, op)
  | ⟨op :: _, [], [], none⟩ => some (.low, op)
  | ⟨[], [], [], none⟩ => none

theorem getPending_of_none (h : sq.chooses = none) : sq.getPending = sq := by
  unfold chooses at h
  unfold getPending
  split at h
  · rfl
  · cases h
  · cases h
  · cases h
  · rfl

theorem getPending_of_some (h : sq.chooses = some (priority, op)) :
    sq.current = none ∧ sq.getPending.current = some op ∧
      sq.queue priority = op :: sq.getPending.queue priority ∧
      forall other, other ≠ priority -> sq.getPending.queue other = sq.queue other := by
  unfold chooses at h
  unfold getPending
  split at h
  · cases h
  all_goals
    first
    | cases h
      refine ⟨rfl, rfl, rfl, ?_⟩
      intro other hother
      cases other <;> first | rfl | exact absurd rfl hother
    | cases h

theorem takeFirst_filter {test keep : SendOp Callback -> Bool}
    {xs others : List (SendOp Callback)} {found : SendOp Callback}
    (h : takeFirst test xs = some (found, others))
    (hkeep : forall op, test op = true -> keep op = false) :
    others.filter keep = xs.filter keep := by
  induction xs generalizing others with
  | nil => cases h
  | cons op more ih =>
      rw [takeFirst] at h
      split at h
      · rename_i htest
        cases h
        rw [List.filter_cons, hkeep _ htest]
        rfl
      · rcases Option.map_eq_some_iff.mp h with ⟨⟨found', others'⟩, htake, heq⟩
        cases heq
        rw [List.filter_cons, List.filter_cons, ih htake]

theorem takeFrom_filter {test keep : SendOp Callback -> Bool} {from_ : SendPriority}
    (h : sq.takeFrom test from_ = some (op, rest))
    (hkeep : forall op, test op = true -> keep op = false) (priority : SendPriority) :
    (rest.queue priority).filter keep = (sq.queue priority).filter keep := by
  cases from_ with
  | low =>
      rcases Option.map_eq_some_iff.mp h with ⟨⟨found, others⟩, htake, heq⟩
      cases heq
      cases priority <;> first | exact takeFirst_filter htake hkeep | rfl
  | medium =>
      rcases Option.map_eq_some_iff.mp h with ⟨⟨found, others⟩, htake, heq⟩
      cases heq
      cases priority <;> first | exact takeFirst_filter htake hkeep | rfl
  | high =>
      rcases Option.map_eq_some_iff.mp h with ⟨⟨found, others⟩, htake, heq⟩
      cases heq
      cases priority <;> first | exact takeFirst_filter htake hkeep | rfl

theorem remove_own {wanted : Wanted} (h : sq.remove wanted = some (op, rest))
    (priority : SendPriority) :
    (rest.queue priority).filter SendOp.isOwn = (sq.queue priority).filter SendOp.isOwn := by
  have hany : forall op : SendOp Callback, (op.asyncHandle != 0) = true ->
      op.isOwn = false := by
    intro op hop
    simpa [SendOp.isOwn] using hop
  cases wanted with
  | any =>
      rcases Option.or_eq_some_iff.mp h with hhigh | ⟨_, h⟩
      · exact takeFrom_filter hhigh hany priority
      · rcases Option.or_eq_some_iff.mp h with hmedium | ⟨_, hlow⟩
        · exact takeFrom_filter hmedium hany priority
        · exact takeFrom_filter hlow hany priority
  | handle handle =>
      have hhandle : forall op : SendOp Callback,
          (op.asyncHandle != 0 && op.asyncHandle == handle) = true -> op.isOwn = false :=
        fun op hop => hany op (Bool.and_eq_true_iff.mp hop).1
      rcases Option.or_eq_some_iff.mp h with hlow | ⟨_, h⟩
      · exact takeFrom_filter hlow hhandle priority
      · rcases Option.or_eq_some_iff.mp h with hmedium | ⟨_, hhigh⟩
        · exact takeFrom_filter hmedium hhandle priority
        · exact takeFrom_filter hhigh hhandle priority
  | priority wanted => exact takeFrom_filter h hany priority

end SendQueue

/-!
## What is written down
-/

inductive WritingEvent where
  | queued (peer : Nat) (priority : SendPriority) (op : Sending)
  /-- `get_pending` has chosen an op. -/
  | chosen (peer : Nat) (priority : SendPriority) (op : Sending)
  /-- `send` has taken bytes. -/
  | accepted (peer : Nat) (bytes : List UInt8)
  /-- An op is not sent any further. -/
  | left (peer : Nat) (op : Sending)
deriving Repr, DecidableEq

namespace WritingEvent

def peer : WritingEvent -> Nat
  | queued addr .. | chosen addr .. | accepted addr _ | left addr _ => addr

def bytesOf (addr : Nat) : WritingEvent -> List UInt8
  | accepted peer bytes => if peer = addr then bytes else []
  | _ => []

def leftOf (addr : Nat) : WritingEvent -> Option Sending
  | left peer op => if peer = addr then some op else none
  | _ => none

def chosenOf (addr : Nat) : WritingEvent -> Option (SendPriority × Sending)
  | chosen peer priority op => if peer = addr then some (priority, op) else none
  | _ => none

def queuedOf (addr : Nat) : WritingEvent -> Option (SendPriority × Sending)
  | queued peer priority op => if peer = addr then some (priority, op) else none
  | _ => none

end WritingEvent

section Records

variable (addr : Nat) (events : List WritingEvent)

def bytesAccepted : List UInt8 := events.reverse.flatMap (WritingEvent.bytesOf addr)

/-- The ops of a peer that are not sent any further, with what has been sent of them. -/
def opsLeft : List Sending := events.reverse.filterMap (WritingEvent.leftOf addr)

def opsChosen : List (SendPriority × Sending) :=
  events.reverse.filterMap (WritingEvent.chosenOf addr)

def opsQueued : List (SendPriority × Sending) :=
  events.reverse.filterMap (WritingEvent.queuedOf addr)

end Records

def atPriority (priority : SendPriority) (ops : List (SendPriority × Sending)) :
    List Sending := (ops.filter (·.1 == priority)).map Prod.snd

section Records

variable {addr : Nat} {event : WritingEvent} {events : List WritingEvent}

@[simp] theorem bytesAccepted_cons : bytesAccepted addr (event :: events) =
    bytesAccepted addr events ++ event.bytesOf addr := by
  simp [bytesAccepted, List.flatMap_append]

@[simp] theorem opsLeft_cons : opsLeft addr (event :: events) =
    opsLeft addr events ++ (event.leftOf addr).toList := by
  rw [opsLeft, List.reverse_cons, List.filterMap_append]
  cases h : event.leftOf addr <;> simp [opsLeft, h]

@[simp] theorem opsChosen_cons : opsChosen addr (event :: events) =
    opsChosen addr events ++ (event.chosenOf addr).toList := by
  rw [opsChosen, List.reverse_cons, List.filterMap_append]
  cases h : event.chosenOf addr <;> simp [opsChosen, h]

@[simp] theorem opsQueued_cons : opsQueued addr (event :: events) =
    opsQueued addr events ++ (event.queuedOf addr).toList := by
  rw [opsQueued, List.reverse_cons, List.filterMap_append]
  cases h : event.queuedOf addr <;> simp [opsQueued, h]

theorem atPriority_append {priority : SendPriority} {ops more : List (SendPriority × Sending)} :
    atPriority priority (ops ++ more) =
      atPriority priority ops ++ atPriority priority more := by
  simp [atPriority]

structure SameWriting (addr : Nat) (events events' : List WritingEvent) : Prop where
  bytes : bytesAccepted addr events' = bytesAccepted addr events
  left : opsLeft addr events' = opsLeft addr events
  chosen : opsChosen addr events' = opsChosen addr events
  queued : opsQueued addr events' = opsQueued addr events

theorem SameWriting.refl : SameWriting addr events events := ⟨rfl, rfl, rfl, rfl⟩

theorem sameWriting_cons (events : List WritingEvent) (h : event.peer ≠ addr) :
    SameWriting addr events (event :: events) := by
  have hne : ¬ event.peer = addr := h
  cases event <;> constructor <;>
    simp_all [WritingEvent.peer, WritingEvent.bytesOf, WritingEvent.leftOf,
      WritingEvent.chosenOf, WritingEvent.queuedOf]

theorem sameWriting_nil (h : forall event, event ∈ events -> event.peer ≠ addr) :
    SameWriting addr [] events := by
  induction events with
  | nil => exact SameWriting.refl
  | cons event events ih =>
      have hrest := ih fun other hother => h other (List.mem_cons_of_mem event hother)
      have hsame := sameWriting_cons events (h event List.mem_cons_self)
      exact ⟨hsame.bytes.trans hrest.bytes, hsame.left.trans hrest.left,
        hsame.chosen.trans hrest.chosen, hsame.queued.trans hrest.queued⟩

end Records

def Command.target (s : DirectPlay8Peer) : Command -> Option (UInt32 × Peer)
  | .peer peerId _ | .erasePeer peerId => (s.peers[peerId]?).map fun peer => (peerId, peer)
  | _ => none

/-- What is written down of a change of a peer. -/
def PeerCommand.writes (peer : Peer) (addr : Nat) : PeerCommand -> Option WritingEvent
  | send priority packet handle callback =>
      some (.queued peer.addr priority ⟨addr, packet, 0, none, handle, callback⟩)
  | getPending => peer.sq.chooses.map fun choice => .chosen peer.addr choice.1 choice.2
  | popPending => peer.sq.current.map (.left peer.addr)
  | _ => none

/-- What is written down of a command.  A peer that goes leaves the op it was sending. -/
def Command.writes (s : DirectPlay8Peer) : Command -> Option WritingEvent
  | .peer peerId change => (s.peers[peerId]?).bind fun peer => change.writes peer s.nextAddr
  | .erasePeer peerId =>
      (s.peers[peerId]?).bind fun peer => peer.sq.current.map (.left peer.addr)
  | _ => none

/-!
## What every command keeps
-/

section Commands

variable {s : DirectPlay8Peer} {events : List WritingEvent} {command : Command}
  {peerId : UInt32} {peer : Peer} {addr : Nat} {ops : List Sending}

theorem writes_target {event : WritingEvent} (h : command.writes s = some event) :
    exists target, command.target s = some target ∧ event.peer = target.2.addr := by
  cases command with
  | peer peerId change =>
      rcases Option.bind_eq_some_iff.mp h with ⟨peer, hpeer, hwrites⟩
      refine ⟨(peerId, peer), by simp [Command.target, hpeer], ?_⟩
      cases change with
      | send =>
          cases hwrites
          rfl
      | getPending =>
          rcases Option.map_eq_some_iff.mp hwrites with ⟨choice, _, rfl⟩
          rfl
      | popPending =>
          rcases Option.map_eq_some_iff.mp hwrites with ⟨op, _, rfl⟩
          rfl
      | _ => cases hwrites
  | erasePeer peerId =>
      rcases Option.bind_eq_some_iff.mp h with ⟨peer, hpeer, hwrites⟩
      rcases Option.map_eq_some_iff.mp hwrites with ⟨op, _, rfl⟩
      exact ⟨(peerId, peer), by simp [Command.target, hpeer], rfl⟩
  | _ => cases h

theorem writes_bytes {event : WritingEvent} (h : command.writes s = some event) :
    event.bytesOf addr = [] := by
  cases command with
  | peer peerId change =>
      rcases Option.bind_eq_some_iff.mp h with ⟨peer, hpeer, hwrites⟩
      cases change with
      | send =>
          cases hwrites
          rfl
      | getPending =>
          rcases Option.map_eq_some_iff.mp hwrites with ⟨choice, _, rfl⟩
          rfl
      | popPending =>
          rcases Option.map_eq_some_iff.mp hwrites with ⟨op, _, rfl⟩
          rfl
      | _ => cases hwrites
  | erasePeer peerId =>
      rcases Option.bind_eq_some_iff.mp h with ⟨peer, hpeer, hwrites⟩
      rcases Option.map_eq_some_iff.mp hwrites with ⟨op, _, rfl⟩
      rfl
  | _ => cases h

theorem target_peer {target : UInt32 × Peer} (h : command.target s = some target) :
    s.peers[target.1]? = some target.2 ∧
      ((exists change, command = .peer target.1 change) ∨
        command = .erasePeer target.1) := by
  cases command with
  | peer peerId change =>
      rcases Option.map_eq_some_iff.mp h with ⟨peer, hpeer, rfl⟩
      exact ⟨hpeer, Or.inl ⟨change, rfl⟩⟩
  | erasePeer peerId =>
      rcases Option.map_eq_some_iff.mp h with ⟨peer, hpeer, rfl⟩
      exact ⟨hpeer, Or.inr rfl⟩
  | _ => cases h

theorem peer_kept (hpeer : s.peers[peerId]? = some peer)
    (hother : forall target, command.target s = some target -> target.2.addr ≠ peer.addr) :
    (command.apply s).peers[peerId]? = some peer := by
  rcases command.apply_peers s with ⟨changed, change, rfl⟩ |
    ⟨inserted, state, sock, ip, port, playerId, rfl⟩ | ⟨erased, rfl⟩ | hsame
  · rw [DirectPlay8Peer.peer_unchanged, hpeer]
    rintro rfl
    exact hother (peerId, peer) (by simp [Command.target, hpeer]) rfl
  · simp only [Command.apply]
    rw [Std.ExtTreeMap.getElem?_insertIfNew, hpeer, if_neg]
    rintro ⟨heq, hnew⟩
    have hid : inserted = peerId := by simpa using heq
    subst hid
    rw [Std.ExtTreeMap.mem_iff_isSome_getElem?, hpeer] at hnew
    exact hnew rfl
  · simp only [Command.apply]
    rw [Std.ExtTreeMap.getElem?_erase, if_neg, hpeer]
    intro heq
    have hid : erased = peerId := by simpa using heq
    subst hid
    exact hother (erased, peer) (by simp [Command.target, hpeer]) rfl
  · rw [hsame]
    exact hpeer

theorem peer_kept_or_new (hpeer : (command.apply s).peers[peerId]? = some peer)
    (hother : forall target, command.target s = some target -> target.2.addr ≠ peer.addr) :
    s.peers[peerId]? = some peer ∨ peer.addr = s.nextAddr ∧ peer.sq = SendQueue.empty := by
  rcases Command.peer_cases hpeer with hsame | ⟨change, before, rfl, hbefore, rfl⟩ |
    ⟨_, _, _, _, _, _, _, rfl⟩
  · exact Or.inl hsame
  · exact absurd PeerCommand.apply_addr.symm
      (hother (peerId, before) (by simp [Command.target, hbefore]))
  · exact Or.inr ⟨rfl, rfl⟩

/-- Something that is known of the queue of every peer, and of the peers that are gone. -/
abbrev Account := Nat -> Option (SendQueue SendCallback) -> List WritingEvent -> Prop

/-- The account is in order for every address. -/
structure Accounted (J : Account) (s : DirectPlay8Peer) (events : List WritingEvent) :
    Prop where
  here : forall (peerId : UInt32) (peer : Peer), s.peers[peerId]? = some peer ->
    J peer.addr (some peer.sq) events
  gone : forall addr, (forall (peerId : UInt32) (peer : Peer),
    s.peers[peerId]? = some peer -> peer.addr ≠ addr) -> J addr none events

structure Account.Allows (J : Account) (command : Command) (s : DirectPlay8Peer)
    (events : List WritingEvent) : Prop where
  same : forall addr sq events', SameWriting addr events events' -> J addr sq events ->
    J addr sq events'
  change : forall peerId change peer, command = .peer peerId change ->
    s.peers[peerId]? = some peer -> J peer.addr (some peer.sq) events ->
    J peer.addr (some (change.apply s.nextAddr peer).sq)
      ((change.writes peer s.nextAddr).toList ++ events)
  erase : forall addr sq, J addr (some sq) events ->
    J addr none ((sq.current.map (.left addr)).toList ++ events)
  made : forall addr, SameWriting addr [] events -> J addr (some SendQueue.empty) events

theorem writes_others (hne : forall target, command.target s = some target ->
    target.2.addr ≠ addr) :
    SameWriting addr events ((command.writes s).toList ++ events) := by
  cases hwrites : command.writes s with
  | none => exact SameWriting.refl
  | some event =>
      rcases writes_target hwrites with ⟨target, htarget, hpeer⟩
      exact sameWriting_cons events (by rw [hpeer]; exact hne target htarget)

theorem Accounted.target {J : Account} (h : Accounted J s events) (haddresses : s.Addresses)
    (hallows : J.Allows command s events) {target : UInt32 × Peer}
    (htarget : command.target s = some target) :
    (forall (peerId : UInt32) (peer : Peer), (command.apply s).peers[peerId]? = some peer ->
      peer.addr = target.2.addr ->
        J peer.addr (some peer.sq) ((command.writes s).toList ++ events)) ∧
    ((forall (peerId : UInt32) (peer : Peer),
      (command.apply s).peers[peerId]? = some peer -> peer.addr ≠ target.2.addr) ->
        J target.2.addr none ((command.writes s).toList ++ events)) := by
  rcases target with ⟨known, found⟩
  rcases target_peer htarget with ⟨hpeer, ⟨change, rfl⟩ | rfl⟩
  · have hafter := hallows.change known change found rfl hpeer (h.here known found hpeer)
    have hwrites : (Command.peer known change).writes s =
        change.writes found s.nextAddr := by
      simp [Command.writes, hpeer]
    have hchanged := DirectPlay8Peer.peer_changed change hpeer
    rw [hwrites]
    constructor
    · intro peerId peer hthere haddr
      have hid : peerId = known := by
        refine (haddresses.apply (.peer known change)).apart peerId known peer _ hthere
          hchanged (haddr.trans ?_)
        exact PeerCommand.apply_addr.symm
      subst hid
      cases hchanged.symm.trans hthere
      rw [PeerCommand.apply_addr]
      exact hafter
    · intro hnone
      exact absurd PeerCommand.apply_addr (hnone known _ hchanged)
  · have hwrites : (Command.erasePeer known).writes s =
        found.sq.current.map (.left found.addr) := by
      simp [Command.writes, hpeer]
    rw [hwrites]
    constructor
    · intro peerId peer hthere haddr
      simp only [Command.apply] at hthere
      rw [Std.ExtTreeMap.getElem?_erase] at hthere
      split at hthere
      · cases hthere
      · rename_i hne
        refine absurd ?_ hne
        rw [haddresses.apart peerId known peer found hthere hpeer haddr]
        exact Std.ReflCmp.compare_self
    · intro _
      exact hallows.erase found.addr found.sq (h.here known found hpeer)

theorem Accounted.apply {J : Account} (h : Accounted J s events) (haddresses : s.Addresses)
    (hknown : forall event, event ∈ events -> event.peer < s.nextAddr)
    (hallows : J.Allows command s events) :
    Accounted J (command.apply s) ((command.writes s).toList ++ events) where
  here := by
    intro peerId peer hpeer
    by_cases htarget : exists target, command.target s = some target ∧
        target.2.addr = peer.addr
    · rcases htarget with ⟨target, htarget, haddr⟩
      exact (h.target haddresses hallows htarget).1 peerId peer hpeer haddr.symm
    · have hother : forall target, command.target s = some target ->
          target.2.addr ≠ peer.addr := fun target hknown haddr =>
        htarget ⟨target, hknown, haddr⟩
      refine hallows.same _ _ _ (writes_others hother) ?_
      rcases peer_kept_or_new hpeer hother with hsame | ⟨haddr, hempty⟩
      · exact h.here peerId peer hsame
      · rw [hempty]
        refine hallows.made _ (sameWriting_nil ?_)
        intro event hevent
        rw [haddr]
        exact Nat.ne_of_lt (hknown event hevent)
  gone := by
    intro addr hnone
    by_cases htarget : exists target, command.target s = some target ∧
        target.2.addr = addr
    · rcases htarget with ⟨target, htarget, rfl⟩
      exact (h.target haddresses hallows htarget).2 hnone
    · have hother : forall target, command.target s = some target ->
          target.2.addr ≠ addr := fun target hknown haddr =>
        htarget ⟨target, hknown, haddr⟩
      refine hallows.same _ _ _ (writes_others hother) (h.gone addr ?_)
      rintro peerId peer hpeer rfl
      exact hnone peerId peer (peer_kept hpeer hother) rfl

end Commands

/-!
## The order of the packets
-/

/-- The op that is being sent, if there is one. -/
def sending (sq : Option (SendQueue SendCallback)) : List Sending :=
  (sq.bind SendQueue.current).toList

def waiting (sq : Option (SendQueue SendCallback)) (priority : SendPriority) : List Sending :=
  (sq.map fun sq => sq.queue priority).getD []

/-- No op is lost, doubled or overtaken by a later one of its priority. -/
structure InOrder (addr : Nat) (sq : Option (SendQueue SendCallback))
    (events : List WritingEvent) : Prop where
  fresh : forall priority op, op ∈ waiting sq priority -> op.IsFresh
  order : (opsChosen addr events).map Prod.snd =
    (opsLeft addr events ++ sending sq).map SendOp.renewed
  line : forall priority,
    (atPriority priority (opsChosen addr events) ++ waiting sq priority).Sublist
      (atPriority priority (opsQueued addr events))
  own : forall priority, exists lost,
    (atPriority priority (opsQueued addr events)).filter SendOp.isOwn =
      (atPriority priority (opsChosen addr events)).filter SendOp.isOwn ++
        ((waiting sq priority).filter SendOp.isOwn ++ lost) ∧ (sq ≠ none -> lost = [])

/-- The bytes that have been accepted are those the ops have been sent. -/
def SentSo (addr : Nat) (sq : Option (SendQueue SendCallback))
    (events : List WritingEvent) : Prop :=
  bytesAccepted addr events = (opsLeft addr events ++ sending sq).flatMap SendOp.sentBytes

theorem SendOp.IsFresh.renewed_eq {op : Sending} (h : op.IsFresh) : op.renewed = op := by
  rcases op with ⟨addr, data, sentData, destAddr, handle, callback⟩
  cases h.1
  rfl

theorem SendOp.IsFresh.sentBytes_eq {op : Sending} (h : op.IsFresh) : op.sentBytes = [] := by
  rw [SendOp.sentBytes, h.1]
  rfl

section Order

variable {addr : Nat} {sq sq' : SendQueue SendCallback} {events events' : List WritingEvent}

theorem InOrder.same_ops {sq : Option (SendQueue SendCallback)} (h : InOrder addr sq events)
    (hleft : opsLeft addr events' = opsLeft addr events)
    (hchosen : opsChosen addr events' = opsChosen addr events)
    (hqueued : opsQueued addr events' = opsQueued addr events) :
    InOrder addr sq events' where
  fresh := h.fresh
  order := by
    rw [hchosen, hleft]
    exact h.order
  line := by
    rw [hchosen, hqueued]
    exact h.line
  own := by
    rw [hchosen, hqueued]
    exact h.own

theorem InOrder.same {sq : Option (SendQueue SendCallback)} (h : InOrder addr sq events)
    (hsame : SameWriting addr events events') : InOrder addr sq events' :=
  h.same_ops hsame.left hsame.chosen hsame.queued

theorem InOrder.accepted {sq : Option (SendQueue SendCallback)} {peer : Nat}
    {bytes : List UInt8} (h : InOrder addr sq events) :
    InOrder addr sq (.accepted peer bytes :: events) :=
  h.same_ops (by simp [WritingEvent.leftOf]) (by simp [WritingEvent.chosenOf])
    (by simp [WritingEvent.queuedOf])

theorem InOrder.send (h : InOrder addr (some sq) events) {priority : SendPriority}
    {op : Sending} (hfresh : op.IsFresh) :
    InOrder addr (some (sq.send priority op)) (.queued addr priority op :: events) := by
  have hcurrent : sending (some (sq.send priority op)) = sending (some sq) := by
    cases priority <;> rfl
  have hleft : opsLeft addr (.queued addr priority op :: events) = opsLeft addr events := by
    simp [WritingEvent.leftOf]
  have hchosen : opsChosen addr (.queued addr priority op :: events) =
      opsChosen addr events := by
    simp [WritingEvent.chosenOf]
  have hqueued : opsQueued addr (.queued addr priority op :: events) =
      opsQueued addr events ++ [(priority, op)] := by
    simp [WritingEvent.queuedOf]
  have hhere : atPriority priority [(priority, op)] = [op] := by
    simp [atPriority]
  have hthere : forall other, other ≠ priority -> atPriority other [(priority, op)] = [] := by
    intro other hne
    simp [atPriority, Ne.symm hne]
  have hwaiting : forall other, waiting (some (sq.send priority op)) other =
      if other = priority then waiting (some sq) other ++ [op] else waiting (some sq) other :=
    fun other => SendQueue.send_queue priority other op sq
  constructor
  · intro other queued hqueued
    rw [hwaiting] at hqueued
    split at hqueued
    · rcases List.mem_append.mp hqueued with hold | hnew
      · exact h.fresh other queued hold
      · cases List.mem_singleton.mp hnew
        exact hfresh
    · exact h.fresh other queued hqueued
  · rw [hchosen, hleft, hcurrent]
    exact h.order
  · intro other
    rw [hchosen, hqueued, hwaiting, atPriority_append]
    split
    · rename_i heq
      subst heq
      rw [hhere, ← List.append_assoc]
      exact (h.line other).append (List.Sublist.refl _)
    · rename_i hne
      rw [hthere other hne, List.append_nil]
      exact h.line other
  · intro other
    rcases h.own other with ⟨lost, hown, hnone⟩
    cases hnone (by simp)
    rw [List.append_nil] at hown
    refine ⟨[], ?_, fun _ => rfl⟩
    rw [hchosen, hqueued, hwaiting, atPriority_append, List.append_nil,
      List.filter_append, hown]
    split
    · rename_i heq
      subst heq
      rw [hhere, List.filter_append, List.append_assoc]
    · rename_i hne
      rw [hthere other hne, List.filter_nil, List.append_nil]

theorem InOrder.getPending (h : InOrder addr (some sq) events) :
    InOrder addr (some sq.getPending)
      ((sq.chooses.map fun choice => WritingEvent.chosen addr choice.1 choice.2).toList ++
        events) := by
  cases hchooses : sq.chooses with
  | none =>
      rw [SendQueue.getPending_of_none hchooses]
      exact h
  | some choice =>
      rcases choice with ⟨priority, op⟩
      rcases SendQueue.getPending_of_some hchooses with ⟨hcurrent, hsome, hqueue, hothers⟩
      have hfresh : op.IsFresh := by
        refine h.fresh priority op ?_
        show op ∈ sq.queue priority
        rw [hqueue]
        exact List.mem_cons_self
      have hleft : opsLeft addr (.chosen addr priority op :: events) =
          opsLeft addr events := by
        simp [WritingEvent.leftOf]
      have hqueued : opsQueued addr (.chosen addr priority op :: events) =
          opsQueued addr events := by
        simp [WritingEvent.queuedOf]
      have hchosen : opsChosen addr (.chosen addr priority op :: events) =
          opsChosen addr events ++ [(priority, op)] := by
        simp [WritingEvent.chosenOf]
      -- what has been chosen and what waits are together what they were
      have htogether : forall other,
          atPriority other (opsChosen addr events ++ [(priority, op)]) ++
              waiting (some sq.getPending) other =
            atPriority other (opsChosen addr events) ++ waiting (some sq) other := by
        intro other
        rw [atPriority_append, List.append_assoc]
        congr 1
        by_cases heq : other = priority
        · subst heq
          show atPriority other [(other, op)] ++ sq.getPending.queue other = sq.queue other
          rw [hqueue]
          simp [atPriority]
        · show atPriority other [(priority, op)] ++ sq.getPending.queue other = sq.queue other
          rw [hothers other heq]
          simp [atPriority, Ne.symm heq]
      show InOrder addr (some sq.getPending) (.chosen addr priority op :: events)
      constructor
      · intro other queued hmem
        have hsub := SendQueue.getPending_queue other sq
        exact h.fresh other queued (hsub.subset hmem)
      · have hnone : sending (some sq) = [] := by
          simp [sending, hcurrent]
        have hnow : sending (some sq.getPending) = [op] := by
          simp [sending, hsome]
        rw [hchosen, hleft, hnow, List.map_append, h.order, hnone, List.append_nil,
          List.map_append]
        simp [hfresh.renewed_eq]
      · intro other
        rw [hchosen, hqueued, htogether]
        exact h.line other
      · intro other
        rcases h.own other with ⟨lost, hown, hnone⟩
        cases hnone (by simp)
        rw [List.append_nil, ← List.filter_append] at hown
        refine ⟨[], ?_, fun _ => rfl⟩
        rw [hchosen, hqueued, List.append_nil, ← List.filter_append, htogether]
        exact hown

theorem InOrder.left (h : InOrder addr (some sq) events)
    {sq' : Option (SendQueue SendCallback)} (hnone : sending sq' = [])
    (hwaiting : sq' = none ∨ forall priority, waiting sq' priority = sq.queue priority) :
    InOrder addr sq' ((sq.current.map (.left addr)).toList ++ events) := by
  have hleft : opsLeft addr ((sq.current.map (.left addr)).toList ++ events) =
      opsLeft addr events ++ sending (some sq) := by
    cases hcurrent : sq.current <;> simp [sending, hcurrent, WritingEvent.leftOf]
  have hchosen : opsChosen addr ((sq.current.map (.left addr)).toList ++ events) =
      opsChosen addr events := by
    cases hcurrent : sq.current <;> simp [WritingEvent.chosenOf]
  have hqueued : opsQueued addr ((sq.current.map (.left addr)).toList ++ events) =
      opsQueued addr events := by
    cases hcurrent : sq.current <;> simp [WritingEvent.queuedOf]
  constructor
  · intro priority op hmem
    rcases hwaiting with rfl | hsame
    · cases hmem
    · rw [hsame] at hmem
      exact h.fresh priority op hmem
  · rw [hchosen, hleft, hnone, List.append_nil]
    exact h.order
  · intro priority
    rw [hchosen, hqueued]
    rcases hwaiting with rfl | hsame
    · refine List.Sublist.trans ?_ (h.line priority)
      exact (List.Sublist.refl _).append (List.nil_sublist _)
    · rw [hsame]
      exact h.line priority
  · intro priority
    rcases h.own priority with ⟨lost, hown, hlost⟩
    cases hlost (by simp)
    rw [hchosen, hqueued, hown]
    rcases hwaiting with rfl | hsame
    · exact ⟨(sq.queue priority).filter SendOp.isOwn, by simp [waiting],
        fun hne => absurd rfl hne⟩
    · refine ⟨[], ?_, fun _ => rfl⟩
      rw [hsame]
      rfl

theorem InOrder.of_queue (h : InOrder addr (some sq) events)
    (hcurrent : (sending (some sq')).map SendOp.renewed =
      (sending (some sq)).map SendOp.renewed)
    (hsublist : forall priority, (sq'.queue priority).Sublist (sq.queue priority))
    (hown : forall priority, (sq'.queue priority).filter SendOp.isOwn =
      (sq.queue priority).filter SendOp.isOwn) : InOrder addr (some sq') events where
  fresh := fun priority op hmem => h.fresh priority op ((hsublist priority).subset hmem)
  order := by
    rw [List.map_append, hcurrent, ← List.map_append]
    exact h.order
  line := by
    intro priority
    refine List.Sublist.trans ?_ (h.line priority)
    exact (List.Sublist.refl _).append (hsublist priority)
  own := by
    intro priority
    rcases h.own priority with ⟨lost, hsame, hlost⟩
    refine ⟨lost, ?_, fun _ => hlost (by simp)⟩
    show _ = _ ++ ((sq'.queue priority).filter SendOp.isOwn ++ lost)
    rw [hown]
    exact hsame

theorem sentSo_left (h : SentSo addr (some sq) events)
    {sq' : Option (SendQueue SendCallback)} (hnone : sending sq' = []) :
    SentSo addr sq' ((sq.current.map (.left addr)).toList ++ events) := by
  have hleft : opsLeft addr ((sq.current.map (.left addr)).toList ++ events) =
      opsLeft addr events ++ sending (some sq) := by
    cases hcurrent : sq.current <;> simp [sending, hcurrent, WritingEvent.leftOf]
  have hbytes : bytesAccepted addr ((sq.current.map (.left addr)).toList ++ events) =
      bytesAccepted addr events := by
    cases hcurrent : sq.current <;> simp [WritingEvent.bytesOf]
  rw [SentSo, hleft, hbytes, hnone, List.append_nil]
  exact h

theorem InOrder.change (change : PeerCommand) {peer : Peer} (next : Nat)
    (h : InOrder peer.addr (some peer.sq) events)
    (hsend : forall priority packet handle callback,
      change = .send priority packet handle callback -> packet ≠ []) :
    InOrder peer.addr (some (change.apply next peer).sq)
      ((change.writes peer next).toList ++ events) := by
  cases change with
  | send priority packet handle callback => exact h.send ⟨rfl, hsend _ _ _ _ rfl⟩
  | getPending => exact h.getPending
  | popPending => exact h.left rfl (Or.inr fun priority => by cases priority <;> rfl)
  | incSentData sent =>
      refine h.of_queue ?_ (fun priority => by cases priority <;> exact List.Sublist.refl _)
        (fun priority => by cases priority <;> rfl)
      show (sending (some (peer.sq.incSentData sent))).map SendOp.renewed =
        (sending (some peer.sq)).map SendOp.renewed
      cases hcurrent : peer.sq.current <;>
        simp [sending, SendQueue.incSentData, hcurrent, SendOp.renewed, SendOp.incSentData]
  | removeQueued wanted =>
      show InOrder peer.addr
        (some (((peer.sq.remove wanted).map Prod.snd).getD peer.sq)) events
      cases hremove : peer.sq.remove wanted with
      | none => exact h
      | some taken =>
          rcases taken with ⟨op, rest⟩
          have htakes := (SendQueue.remove_eq_some hremove).2
          refine h.of_queue ?_ htakes.sublist (SendQueue.remove_own hremove)
          show (sending (some rest)).map SendOp.renewed = _
          rw [sending, Option.bind_some, htakes.current]
          rfl
  | _ => exact h

theorem SentSo.change {change : PeerCommand} {peer : Peer} {next : Nat}
    (h : SentSo peer.addr (some peer.sq) events)
    (horder : InOrder peer.addr (some peer.sq) events)
    (hkind : change.kind ≠ .incSentData) :
    SentSo peer.addr (some (change.apply next peer).sq)
      ((change.writes peer next).toList ++ events) := by
  cases change with
  | send priority packet handle callback =>
      have hcurrent : sending (some (peer.sq.send priority
          ⟨next, packet, 0, none, handle, callback⟩)) = sending (some peer.sq) := by
        cases priority <;> rfl
      show SentSo peer.addr _ (.queued peer.addr priority _ :: events)
      rw [SentSo, PeerCommand.apply, hcurrent]
      rw [SentSo] at h
      simpa [WritingEvent.bytesOf, WritingEvent.leftOf] using h
  | getPending =>
      show SentSo peer.addr (some peer.sq.getPending)
        ((peer.sq.chooses.map fun choice =>
          WritingEvent.chosen peer.addr choice.1 choice.2).toList ++ events)
      cases hchooses : peer.sq.chooses with
      | none =>
          rw [SendQueue.getPending_of_none hchooses]
          exact h
      | some choice =>
          rcases choice with ⟨priority, op⟩
          rcases SendQueue.getPending_of_some hchooses with ⟨hcurrent, hsome, hqueue, _⟩
          have hfresh : op.IsFresh := by
            refine horder.fresh priority op ?_
            show op ∈ peer.sq.queue priority
            rw [hqueue]
            exact List.mem_cons_self
          have hnone : sending (some peer.sq) = [] := by
            simp [sending, hcurrent]
          have hnow : sending (some peer.sq.getPending) = [op] := by
            simp [sending, hsome]
          show SentSo peer.addr _ (.chosen peer.addr priority op :: events)
          rw [SentSo, hnow, List.flatMap_append, List.flatMap_singleton, hfresh.sentBytes_eq]
          rw [SentSo, hnone] at h
          simpa [WritingEvent.bytesOf, WritingEvent.leftOf] using h
  | popPending => exact sentSo_left h rfl
  | incSentData sent => exact absurd rfl hkind
  | removeQueued wanted =>
      show SentSo peer.addr
        (some (((peer.sq.remove wanted).map Prod.snd).getD peer.sq)) events
      cases hremove : peer.sq.remove wanted with
      | none => exact h
      | some taken =>
          rcases taken with ⟨op, rest⟩
          have htakes := (SendQueue.remove_eq_some hremove).2
          show SentSo peer.addr (some rest) events
          rw [SentSo, sending, Option.bind_some, htakes.current]
          exact h
  | _ => exact h

end Order

def InOrderSent : Account := fun addr sq events => InOrder addr sq events ∧ SentSo addr sq events

section Allows

variable {s : DirectPlay8Peer} {events : List WritingEvent} {command : Command}

def Command.SendsBytes (command : Command) : Prop :=
  forall peerId priority packet handle callback,
    command = .peer peerId (.send priority packet handle callback) -> packet ≠ []

theorem inOrder_made {addr : Nat} (h : SameWriting addr [] events) :
    InOrder addr (some SendQueue.empty) events := by
  have hstart : InOrder addr (some SendQueue.empty) [] := by
    constructor
    · intro priority op hmem
      cases priority <;> cases hmem
    · rfl
    · intro priority
      cases priority <;> exact List.Sublist.refl _
    · intro priority
      exact ⟨[], by cases priority <;> rfl, fun _ => rfl⟩
  exact hstart.same h

theorem sentSo_same {addr : Nat} {sq : Option (SendQueue SendCallback)}
    {events' : List WritingEvent} (h : SentSo addr sq events)
    (hsame : SameWriting addr events events') : SentSo addr sq events' := by
  rw [SentSo, hsame.bytes, hsame.left]
  exact h

theorem inOrder_allows (hsend : command.SendsBytes) :
    Account.Allows InOrder command s events where
  same := fun _ _ _ hsame h => h.same hsame
  change := by
    rintro peerId change peer rfl _ h
    refine h.change _ _ ?_
    rintro priority packet handle callback rfl
    exact hsend _ _ _ _ _ rfl
  erase := fun _ _ h => h.left rfl (Or.inl rfl)
  made := fun _ h => inOrder_made h

theorem inOrderSent_allows (hsend : command.SendsBytes)
    (hkind : command.kind ≠ .incSentData) :
    Account.Allows InOrderSent command s events where
  same := fun _ _ _ hsame h => ⟨h.1.same hsame, sentSo_same h.2 hsame⟩
  change := by
    rintro peerId change peer rfl _ h
    refine ⟨h.1.change _ _ ?_, h.2.change h.1 hkind⟩
    rintro priority packet handle callback rfl
    exact hsend _ _ _ _ _ rfl
  erase := fun _ _ h => ⟨h.1.left rfl (Or.inl rfl), sentSo_left h.2 rfl⟩
  made := by
    intro addr h
    have hstart : SentSo addr (some SendQueue.empty) [] := rfl
    exact ⟨inOrder_made h, sentSo_same hstart h⟩

end Allows

/-!
## Who sends
-/

/-- Every op that is being sent has bytes left, but for those of one peer. -/
def UnsentBut (but : Option UInt32) (s : DirectPlay8Peer) : Prop :=
  forall (peerId : UInt32) (peer : Peer) (op : Sending), some peerId ≠ but ->
    s.peers[peerId]? = some peer -> peer.sq.current = some op -> op.sentData < op.data.length

/-- What holds of the object, up to what one peer is being sent. -/
structure WritesBut (but : Option UInt32) (s : DirectPlay8Peer)
    (events : List WritingEvent) : Prop where
  addresses : s.Addresses
  known : forall event, event ∈ events -> event.peer < s.nextAddr
  account : Accounted InOrderSent s events
  unsent : UnsentBut but s

/-- What is written down of a result of `send`. -/
def sendEvent (peerId : UInt32) (data : List UInt8) (sent : Answer) (s : DirectPlay8Peer) :
    Option WritingEvent :=
  (s.peers[peerId]?).bind fun peer =>
    if sent.ret < 0 then none else some (.accepted peer.addr (data.take sent.ret.toNat))

/-- The bytes behind those that have been accepted, up to the end of their packet. -/
def SendsNext (peerId : UInt32) (data : List UInt8) (s : DirectPlay8Peer)
    (events : List WritingEvent) : Prop :=
  exists (peer : Peer) (op : Sending), s.peers[peerId]? = some peer ∧
    peer.sq.current = some op ∧ data = op.getPendingData ∧ data ≠ [] ∧
    SentSo peer.addr (some peer.sq) events

/--
The op is the last one that has left, all of it has been sent, and the socket has
accepted no byte of one behind it.
-/
def CompletesLast (peerId : UInt32) (op : Nat) (s : DirectPlay8Peer)
    (events : List WritingEvent) : Prop :=
  exists (peer : Peer) (last : Sending), s.peers[peerId]? = some peer ∧
    (opsLeft peer.addr events).getLast? = some last ∧ last.addr = op ∧
    last.sentData = last.data.length ∧
    bytesAccepted peer.addr events =
      (opsLeft peer.addr events).flatMap SendOp.sentBytes ∧
    forall next, peer.sq.current = some next -> next.sentData = 0

/-- The send queues with what the sockets have accepted.  Nobody holds anything. -/
def writing : Custody DirectPlay8Peer Command Query Answer Proc Fault WritingEvent Empty where
  ofCommand _ command s := command.writes s
  ofAnswer p query sent s :=
    match p, query with
    | .ioPeerSend peerId, .send _ data => sendEvent peerId data sent s
    | _, _ => none
  cond _ _ _ := True
  command p command s events :=
    match p, command with
    | .ioPeerSend peerId, .log (.resolved op result sentAll) =>
        result = sOk ∧ sentAll = true ∧ CompletesLast peerId op s events
    | _, _ => True
  answer p query _ s events :=
    match p, query with
    | .ioPeerSend peerId, .send _ data => SendsNext peerId data s events
    | _, _ => True
  inv s events _ := WritesBut none s events
  rely _ _ _ _ _ := True
  pre _ s events _ _ := WritesBut none s events
  rely_refl _ _ _ := trivial
  rely_trans _ _ _ _ _ _ _ _ _ := trivial

section Steps

variable {s : DirectPlay8Peer} {events : List WritingEvent} {command : Command}
  {but : Option UInt32} {peerId : UInt32} {peer : Peer}

theorem writing_spares {tokens : Multiset Empty} {s' : DirectPlay8Peer}
    {events' : List WritingEvent} : writing.Spares tokens s events s' events' :=
  fun _ _ => trivial

theorem UnsentBut.apply (h : UnsentBut but s) (haccount : Accounted InOrderSent s events)
    (hkind : command.kind ≠ .incSentData) : UnsentBut but (command.apply s) := by
  intro other found op hother hfound hcurrent
  rcases Command.peer_cases hfound with hsame | ⟨change, before, rfl, hbefore, rfl⟩ |
    ⟨_, _, _, _, _, _, _, rfl⟩
  · exact h other found op hother hsame hcurrent
  · have hold : forall op, before.sq.current = some op -> op.sentData < op.data.length :=
      fun op => h other before op hother hbefore
    cases change with
    | send priority packet handle callback =>
        refine hold op ?_
        cases priority <;> exact hcurrent
    | getPending =>
        cases hchooses : before.sq.chooses with
        | none =>
            rw [PeerCommand.apply, SendQueue.getPending_of_none hchooses] at hcurrent
            exact hold op hcurrent
        | some choice =>
            rcases choice with ⟨priority, chosen⟩
            rcases SendQueue.getPending_of_some hchooses with ⟨_, hsome, hqueue, _⟩
            cases hsome.symm.trans hcurrent
            have hfresh : op.IsFresh := by
              refine (haccount.here other before hbefore).1.fresh priority op ?_
              show op ∈ before.sq.queue priority
              rw [hqueue]
              exact List.mem_cons_self
            rw [hfresh.1]
            exact List.length_pos_iff.mpr hfresh.2
    | popPending => cases hcurrent
    | incSentData => exact absurd rfl hkind
    | removeQueued wanted =>
        refine hold op ?_
        rw [← hcurrent]
        show _ = (((before.sq.remove wanted).map Prod.snd).getD before.sq).current
        cases hremove : before.sq.remove wanted with
        | none => rfl
        | some taken => exact (SendQueue.remove_eq_some hremove).2.current.symm
    | _ => exact hold op hcurrent
  · cases hcurrent

theorem WritesBut.apply (h : WritesBut but s events) (command : Command) (hsend : command.SendsBytes)
    (hkind : command.kind ≠ .incSentData) :
    WritesBut but (command.apply s) ((command.writes s).toList ++ events) where
  addresses := h.addresses.apply command
  known := by
    intro event hevent
    refine Nat.lt_of_lt_of_le ?_ (command.nextAddr_le s)
    rcases List.mem_append.mp hevent with hnew | hold
    · rcases writes_target (Option.mem_toList.mp hnew) with ⟨target, htarget, hpeer⟩
      rw [hpeer]
      exact h.addresses.given target.1 target.2 (target_peer htarget).1
    · exact h.known event hold
  account := h.account.apply h.addresses h.known (inOrderSent_allows hsend hkind)
  unsent := h.unsent.apply h.account hkind

theorem sendsBytes_of_kind (hkind : command.kind ≠ .send) : command.SendsBytes := by
  rintro peerId priority packet handle callback rfl
  exact absurd rfl hkind

end Steps

/-!
## All other procedures
-/

section Ordinary

variable {s : DirectPlay8Peer} {events : List WritingEvent} {own rest : Multiset Empty}
  {p : Proc}

theorem Proc.kinds_unsent (hp : forall peerId, p ≠ .ioPeerSend peerId) :
    CommandKind.incSentData ∉ p.kinds := by
  cases p with
  | ioPeerSend peerId => exact absurd rfl (hp peerId)
  | _ => simp

theorem writing_harmless (hp : forall peerId, p ≠ .ioPeerSend peerId) :
    Custody.Harmless writing machine p p.footprint where
  commands := by
    intro command s events held hfits h _
    have hpromise : writing.command p command s events := by
      cases p with
      | ioPeerSend peerId => exact absurd rfl (hp peerId)
      | _ => trivial
    have hsend : command.SendsBytes := by
      rintro peerId priority packet handle callback rfl
      exact hfits.2.1
    have hkind : command.kind ≠ .incSentData := by
      intro heq
      refine Proc.kinds_unsent hp ?_
      rw [← heq]
      exact hfits.1
    exact ⟨⟨hpromise, writing_spares⟩, WritesBut.apply h command hsend hkind⟩
  answers := by
    intro query answer s events held h _
    have hnone : writing.event s (.answer p query answer) = none := by
      cases p with
      | ioPeerSend peerId => exact absurd rfl (hp peerId)
      | _ => rfl
    have hpromise : writing.answer p query answer s events := by
      cases p with
      | ioPeerSend peerId => exact absurd rfl (hp peerId)
      | _ => trivial
    rw [Custody.note_none hnone]
    exact ⟨⟨hpromise, writing_spares⟩, h⟩
  calls := fun _ _ _ _ _ h _ => h
  spawns := fun _ _ _ _ _ h _ => h

theorem ordinary_writes (hp : forall peerId, p ≠ .ioPeerSend peerId)
    (h : WritesBut none s events) :
    writing.wp machine p p.body writing.ended s events own rest := by
  have hown : own = 0 := Subsingleton.elim _ _
  rw [hown]
  refine Custody.wp_mono (Custody.wp_of_uses p.body_uses (writing_harmless hp) h) ?_
  rintro _ s' events' own' rest' ⟨_, hends⟩
  exact hends

end Ordinary

/-!
## `io_peer_send`
-/

section Loop

variable {s : DirectPlay8Peer} {events : List WritingEvent} {own rest : Multiset Empty}
  {p : Proc} {peerId : UInt32} {peer : Peer} {α : Type}

theorem writing_perform (command : Command) {f : Unit -> Action α}
    {post : α -> DirectPlay8Peer -> List WritingEvent -> Multiset Empty ->
      Multiset Empty -> Prop}
    (hpromise : writing.command p command s events)
    (hnext : writing.wp machine p (f ()) post (command.apply s)
      ((command.writes s).toList ++ events) 0 rest) :
    writing.wp machine p (Action.perform command >>= f) post s events own rest :=
  fun _ => ⟨⟨hpromise, writing_spares⟩, 0, hnext⟩

theorem writing_invoke {callee : Proc} (h : WritesBut none s events) :
    writing.wp machine p (Action.invoke callee) writing.ended s events own rest := by
  intro _
  refine ⟨own, 0, (Multiset.add_zero own).symm, h, ?_⟩
  intro s' events' rest' hinv _
  exact hinv

theorem incSentData_writes (sent : Nat) {op : Sending}
    (h : WritesBut none s events) (hpeer : s.peers[peerId]? = some peer)
    (hcurrent : peer.sq.current = some op) :
    WritesBut (some peerId) ((Command.peer peerId (.incSentData sent)).apply s)
      (.accepted peer.addr (op.getPendingData.take sent) :: events) := by
  have hothers : forall addr, addr ≠ peer.addr -> SameWriting addr events
      (.accepted peer.addr (op.getPendingData.take sent) :: events) :=
    fun addr hne => sameWriting_cons events (Ne.symm hne)
  have hafter := DirectPlay8Peer.peer_changed (.incSentData sent) hpeer
  rcases h.account.here peerId peer hpeer with ⟨horder, hsent⟩
  have hnow : InOrderSent peer.addr (some (peer.sq.incSentData sent))
      (.accepted peer.addr (op.getPendingData.take sent) :: events) := by
    constructor
    · have hchanged : InOrder peer.addr (some (peer.sq.incSentData sent)) events :=
        horder.change (.incSentData sent) s.nextAddr
          fun _ _ _ _ heq => by cases heq
      exact hchanged.accepted
    · have hbefore : sending (some peer.sq) = [op] := by
        simp [sending, hcurrent]
      have hwhile : sending (some (peer.sq.incSentData sent)) = [op.incSentData sent] := by
        simp [sending, SendQueue.incSentData, hcurrent]
      rw [SentSo, hbefore, List.flatMap_append, List.flatMap_singleton] at hsent
      rw [SentSo, hwhile, List.flatMap_append, List.flatMap_singleton, bytesAccepted_cons,
        opsLeft_cons, hsent]
      simp [WritingEvent.bytesOf, WritingEvent.leftOf, SendOp.sentBytes,
        SendOp.incSentData, SendOp.getPendingData, List.take_add]
  constructor
  · exact h.addresses.apply _
  · intro event hevent
    refine Nat.lt_of_lt_of_le ?_ (Command.nextAddr_le _ s)
    rcases List.mem_cons.mp hevent with rfl | hold
    · exact h.addresses.given peerId peer hpeer
    · exact h.known event hold
  · constructor
    · intro other found hfound
      by_cases hid : other = peerId
      · subst hid
        cases hafter.symm.trans hfound
        exact hnow
      · rw [DirectPlay8Peer.peer_unchanged hid] at hfound
        have hne : found.addr ≠ peer.addr := fun heq =>
          hid (h.addresses.apart other peerId found peer hfound hpeer heq)
        rcases h.account.here other found hfound with ⟨hother, hbytes⟩
        exact ⟨hother.same (hothers _ hne), sentSo_same hbytes (hothers _ hne)⟩
    · intro addr hnone
      have hne : addr ≠ peer.addr := fun heq => hnone peerId _ hafter heq.symm
      have hgone : forall (other : UInt32) (found : Peer), s.peers[other]? = some found ->
          found.addr ≠ addr := by
        intro other found hfound haddr
        by_cases hid : other = peerId
        · subst hid
          cases hpeer.symm.trans hfound
          exact hne haddr.symm
        · refine hnone other found ?_ haddr
          rw [DirectPlay8Peer.peer_unchanged hid]
          exact hfound
      rcases h.account.gone addr hgone with ⟨hother, hbytes⟩
      exact ⟨hother.same (hothers _ hne), sentSo_same hbytes (hothers _ hne)⟩
  · intro other found op' hother hfound hcurrent'
    have hid : other ≠ peerId := fun heq => hother (congrArg some heq)
    rw [DirectPlay8Peer.peer_unchanged hid] at hfound
    exact h.unsent other found op' (by simp) hfound hcurrent'

theorem WritesBut.settle (h : WritesBut (some peerId) s events)
    (hpeer : s.peers[peerId]? = some peer)
    (hleft : forall op, peer.sq.current = some op -> op.sentData < op.data.length) :
    WritesBut none s events where
  addresses := h.addresses
  known := h.known
  account := h.account
  unsent := by
    intro other found op _ hfound hcurrent
    by_cases hid : other = peerId
    · subst hid
      cases hpeer.symm.trans hfound
      exact hleft op hcurrent
    · exact h.unsent other found op (fun heq => hid (Option.some.inj heq)) hfound hcurrent

theorem getPending_unsent (hpeer : s.peers[peerId]? = some peer)
    (hnone : peer.sq.current = none) (h : WritesBut none s events) :
    forall next, (PeerCommand.apply s.nextAddr peer .getPending).sq.current = some next ->
      next.sentData = 0 := by
  intro next hnext
  change peer.sq.getPending.current = some next at hnext
  cases hchooses : peer.sq.chooses with
  | none =>
      rw [SendQueue.getPending_of_none hchooses, hnone] at hnext
      cases hnext
  | some choice =>
      rcases choice with ⟨priority, op⟩
      rcases SendQueue.getPending_of_some hchooses with ⟨_, hcurrent, hqueue, _⟩
      cases hcurrent.symm.trans hnext
      have hwaiting : next ∈ waiting (some peer.sq) priority := by
        show next ∈ peer.sq.queue priority
        rw [hqueue]
        exact List.mem_cons_self
      exact ((h.account.here peerId peer hpeer).1.fresh priority next hwaiting).1

theorem sending_unsent {sq : SendQueue SendCallback}
    (h : forall next, sq.current = some next -> next.sentData = 0) :
    (sending (some sq)).flatMap SendOp.sentBytes = [] := by
  cases hcurrent : sq.current with
  | none => simp [sending, hcurrent]
  | some next => simp [sending, hcurrent, SendOp.sentBytes, h next hcurrent]

theorem completed_writes {op : Sending} {next : Action Unit}
    (h : WritesBut (some peerId) s events) (hpeer : s.peers[peerId]? = some peer)
    (hcurrent : peer.sq.current = some op) (hsent : op.sentData = op.data.length)
    (hnext : forall s' events' rest', WritesBut none s' events' ->
      writing.wp machine (.ioPeerSend peerId) next writing.ended s' events' 0 rest') :
    writing.wp machine (.ioPeerSend peerId)
      (do
        Action.ofPeer peerId .popPending
        Action.ofPeer peerId .getPending
        Action.log (.resolved op.addr sOk (Action.sentAll op))
        Action.invoke (.invokeCallback op.callback sOk)
        next) writing.ended s events own rest := by
  have hpopped := DirectPlay8Peer.peer_changed .popPending hpeer
  have hchosen := DirectPlay8Peer.peer_changed .getPending hpopped
  have hwrites : (Command.peer peerId .popPending).writes s =
      some (.left peer.addr op) := by
    simp [Command.writes, hpeer, PeerCommand.writes, hcurrent]
  have hsettled : WritesBut none ((Command.peer peerId .popPending).apply s)
      (((Command.peer peerId .popPending).writes s).toList ++ events) := by
    refine (h.apply _ (sendsBytes_of_kind (by simp)) (by simp)).settle hpopped ?_
    intro other hother
    cases hother
  have hagain := hsettled.apply (.peer peerId .getPending)
    (sendsBytes_of_kind (by simp)) (by simp)
  have hlast : CompletesLast peerId op.addr
      ((Command.peer peerId .getPending).apply
        ((Command.peer peerId .popPending).apply s))
      (((Command.peer peerId .getPending).writes
        ((Command.peer peerId .popPending).apply s)).toList ++
          (((Command.peer peerId .popPending).writes s).toList ++ events)) := by
    have hunsent := getPending_unsent hpopped rfl hsettled
    have hbytes := (hagain.account.here peerId _ hchosen).2
    rw [SentSo, List.flatMap_append, sending_unsent hunsent, List.append_nil] at hbytes
    refine ⟨_, op, hchosen, ?_, rfl, hsent, hbytes, hunsent⟩
    have hquiet : forall events', opsLeft peer.addr
        (((Command.peer peerId .getPending).writes
          ((Command.peer peerId .popPending).apply s)).toList ++ events') =
            opsLeft peer.addr events' := by
      intro events'
      rw [Command.writes, hpopped, Option.bind_some, PeerCommand.writes]
      cases SendQueue.chooses _ <;> simp [WritingEvent.leftOf]
    show (opsLeft peer.addr _).getLast? = some op
    rw [hquiet, hwrites]
    simp [WritingEvent.leftOf]
  refine writing_perform (.peer peerId .popPending) trivial ?_
  refine writing_perform (.peer peerId .getPending) trivial ?_
  refine writing_perform (.log (.resolved op.addr sOk (Action.sentAll op))) ?_ ?_
  · exact ⟨rfl, by simp [Action.sentAll, hsent], hlast⟩
  · have hlogged := hagain.apply
      (.log (.resolved op.addr sOk (Action.sentAll op)))
      (sendsBytes_of_kind (by simp)) (by simp)
    intro _
    refine ⟨0, 0, rfl, hlogged, ?_⟩
    intro s' events' rest' hinv _
    exact hnext s' events' rest' hinv

theorem sendsNext {op : Sending} (h : WritesBut none s events)
    (hpeer : s.peers[peerId]? = some peer) (hcurrent : peer.sq.current = some op) :
    SendsNext peerId op.getPendingData s events := by
  refine ⟨peer, op, hpeer, hcurrent, rfl, ?_, (h.account.here peerId peer hpeer).2⟩
  have hlt := h.unsent peerId peer op (by simp) hpeer hcurrent
  refine List.ne_nil_of_length_pos ?_
  rw [SendOp.getPendingData, List.length_drop]
  omega

theorem sent_writes {op : Sending} {sent : Answer} (h : WritesBut none s events)
    (hpeer : s.peers[peerId]? = some peer) (hcurrent : peer.sq.current = some op)
    (hanswer : machine.answers s (.send peer.sock op.getPendingData) sent = true) :
    writing.wp machine (.ioPeerSend peerId)
      (if sent.ret < 0 then
        if sent.err = wsaEWouldBlock then pure ()
        else Action.invoke (.peerDestroy peerId dpnErrConnectionLost
          destroyPlayerReasonConnectionLost)
      else do
        Action.ofPeer peerId (.incSentData sent.ret.toNat)
        Action.onlyIf (sent.ret.toNat = op.getPendingData.length) do
          Action.ofPeer peerId .popPending
          Action.ofPeer peerId .getPending
          Action.log (.resolved op.addr sOk (Action.sentAll (op.incSentData sent.ret.toNat)))
          Action.invoke (.invokeCallback op.callback sOk)
        Action.invoke (.ioPeerSend peerId)) writing.ended s
      ((sendEvent peerId op.getPendingData sent s).toList ++ events) own rest := by
  have hlt := h.unsent peerId peer op (by simp) hpeer hcurrent
  split
  · rename_i hfailed
    have hnone : sendEvent peerId op.getPendingData sent s = none := by
      rw [sendEvent, hpeer, Option.bind_some, if_pos hfailed]
    rw [hnone]
    split
    · exact h
    · exact writing_invoke h
  · rename_i haccepted
    have hsome : sendEvent peerId op.getPendingData sent s =
        some (.accepted peer.addr (op.getPendingData.take sent.ret.toNat)) := by
      rw [sendEvent, hpeer, Option.bind_some, if_neg haccepted]
    have hcount := incSentData_writes sent.ret.toNat h hpeer hcurrent
    have hafter := DirectPlay8Peer.peer_changed (.incSentData sent.ret.toNat) hpeer
    have hnow : (peer.sq.incSentData sent.ret.toNat).current =
        some (op.incSentData sent.ret.toNat) := by
      simp [SendQueue.incSentData, hcurrent]
    have hfits : sent.ret ≤ op.getPendingData.length := by
      simpa [machine, answers] using hanswer
    have hpending : op.getPendingData.length = op.data.length - op.sentData := by
      rw [SendOp.getPendingData, List.length_drop]
    rw [hsome]
    refine writing_perform (.peer peerId (.incSentData sent.ret.toNat)) trivial ?_
    have hwrites : (Command.peer peerId (.incSentData sent.ret.toNat)).writes s = none := by
      rw [Command.writes, hpeer]
      rfl
    rw [hwrites]
    dsimp only [Program.onlyIf]
    split
    · rename_i hwhole
      refine completed_writes hcount hafter hnow ?_ ?_
      · show op.sentData + sent.ret.toNat = op.data.length
        omega
      · intro s' events' rest' hwrites'
        exact writing_invoke hwrites'
    · rename_i hpart
      refine writing_invoke (hcount.settle hafter ?_)
      intro other hother
      cases hnow.symm.trans hother
      show op.sentData + sent.ret.toNat < op.data.length
      omega

theorem ioPeerSend_writes (h : WritesBut none s events) :
    writing.wp machine (.ioPeerSend peerId) (Action.ioPeerSend peerId) writing.ended
      s events own rest := by
  apply custody_renewPeer
  · intro peer hpeer
    refine writing_perform (.peer peerId .getPending) trivial ?_
    have hchosen := h.apply (.peer peerId .getPending)
      (sendsBytes_of_kind (by simp)) (by simp)
    apply custody_peerAt
    intro peer' hpeer'
    split
    · rename_i op hcurrent
      rw [bind_eq, Action.query]
      intro sent hanswer _
      exact ⟨⟨sendsNext hchosen hpeer' hcurrent, writing_spares⟩, 0,
        sent_writes hchosen hpeer' hcurrent hanswer⟩
    · split
      · rw [bind_eq, Action.query]
        intro ended _ _
        dsimp only [ret_bind]
        refine ⟨⟨trivial, writing_spares⟩, 0, ?_⟩
        rw [Custody.note_none rfl]
        split
        · exact writing_invoke hchosen
        · intro _
          exact ⟨⟨trivial, writing_spares⟩, 0, hchosen.apply
            (.peer peerId (.setSendOpen false))
            (sendsBytes_of_kind (by simp)) (by simp)⟩
      · exact hchosen
  · intro _
    exact h

end Loop

/-!
## Runs
-/

theorem accounted_initial {J : Account} {s : DirectPlay8Peer} (hs : s.Constructed)
    (hnone : forall addr, J addr none []) : Accounted J s [] where
  here := by
    intro peerId peer hpeer
    rw [hs.peers] at hpeer
    simp at hpeer
  gone := fun addr _ => hnone addr

theorem inOrder_initial (addr : Nat) : InOrder addr none [] where
  fresh := by
    intro priority op hmem
    cases hmem
  order := rfl
  line := fun priority => List.Sublist.refl _
  own := fun priority => ⟨[], rfl, fun _ => rfl⟩

theorem addresses_initial {s : DirectPlay8Peer} (hs : s.Constructed) : s.Addresses := by
  constructor <;> simp [hs.peers]

theorem writing_valid : writing.Valid machine DirectPlay8Peer.Constructed where
  initial := by
    intro s hs
    constructor
    · exact addresses_initial hs
    · intro event hevent
      cases hevent
    · exact accounted_initial hs fun addr => ⟨inOrder_initial addr, rfl⟩
    · intro peerId peer op _ hpeer _
      rw [hs.peers] at hpeer
      simp at hpeer
  start := fun _ _ _ _ _ h _ => h
  body := by
    intro p s events given rest h
    by_cases hp : exists peerId, p = .ioPeerSend peerId
    · rcases hp with ⟨peerId, rfl⟩
      exact ioPeerSend_writes h
    · exact ordinary_writes (fun peerId heq => hp ⟨peerId, heq⟩) h

theorem writing_each {past : Deeds} : writing.Each writing.cond past :=
  Custody.Each.of_forall fun _ _ _ _ _ => trivial

abbrev writingRecord (past : Deeds) : List WritingEvent := writing.record past

section Runs

variable {past : Deeds} {c : Run} {s : DirectPlay8Peer} {label : StepLabel}
  {event : WritingEvent}

theorem writing_event (h : writing.event s label = some event) :
    (exists p command, label = .exec p command ∧ command.writes s = some event) ∨
      exists peerId sock data sent bytes peer, label =
        .answer (.ioPeerSend peerId) (.send sock data) sent ∧
          s.peers[peerId]? = some peer ∧ bytes = data.take sent.ret.toNat ∧
          event = .accepted peer.addr bytes := by
  cases label with
  | exec p command => exact Or.inl ⟨p, command, rfl, h⟩
  | answer p query sent =>
      right
      simp only [Custody.event, writing] at h
      split at h
      · rename_i peerId sock data
        rcases Option.bind_eq_some_iff.mp h with ⟨peer, hpeer, hread⟩
        split at hread
        · cases hread
        · cases hread
          exact ⟨peerId, sock, data, sent, _, peer, rfl, hpeer, rfl, rfl⟩
      · cases h
  | _ => cases h

theorem ops_in_order (h : Traced machine DirectPlay8Peer.Constructed past c) :
    c.state.Addresses ∧
      (forall event, event ∈ writingRecord past -> event.peer < c.state.nextAddr) ∧
      Accounted InOrder c.state (writingRecord past) := by
  induction h with
  | initial hs =>
      refine ⟨addresses_initial hs, ?_, accounted_initial hs inOrder_initial⟩
      intro event hevent
      cases hevent
  | @step past c c' label htraced hstep ih =>
      rcases ih with ⟨haddresses, hknown, haccount⟩
      rcases hstep.state_cases with ⟨p, command, rfl, happlied⟩ | ⟨hlabel, hsame⟩
      · rw [happlied]
        have hsend : command.SendsBytes := by
          rintro peerId priority packet handle callback rfl
          have hfits : p.footprint.commands (.peer peerId
              (.send priority packet handle callback)) :=
            htraced.reaches.exec_uses Proc.body_uses hstep
          exact hfits.2.1
        refine ⟨haddresses.apply command, ?_,
          haccount.apply haddresses hknown (inOrder_allows hsend)⟩
        intro event hevent
        refine Nat.lt_of_lt_of_le ?_ (command.nextAddr_le c.state)
        rcases List.mem_append.mp hevent with hnew | hold
        · rcases writes_target (Option.mem_toList.mp hnew) with ⟨target, htarget, hpeer⟩
          rw [hpeer]
          exact haddresses.given target.1 target.2 (target_peer htarget).1
        · exact hknown event hold
      · rw [hsame]
        show c.state.Addresses ∧
          (forall event, event ∈ writing.note c.state label (writingRecord past) ->
            event.peer < c.state.nextAddr) ∧
          Accounted InOrder c.state (writing.note c.state label (writingRecord past))
        cases hevent : writing.event c.state label with
        | none =>
            rw [Custody.note_none hevent]
            exact ⟨haddresses, hknown, haccount⟩
        | some event =>
            rcases writing_event hevent with ⟨p, command, heq, _⟩ |
              ⟨peerId, sock, data, sent, bytes, peer, _, hpeer, _, rfl⟩
            · exact absurd heq (hlabel p command)
            · rw [Custody.note, hevent]
              refine ⟨haddresses, ?_, ?_⟩
              · intro event hmem
                rcases List.mem_cons.mp hmem with rfl | hold
                · exact haddresses.given peerId peer hpeer
                · exact hknown event hold
              · exact ⟨fun other found hfound => (haccount.here other found hfound).accepted,
                  fun addr hnone => (haccount.gone addr hnone).accepted⟩

/-- No packet of a peer has been given up half way. -/
def AllWhole (addr : Nat) (events : List WritingEvent) : Prop :=
  forall op, op ∈ opsLeft addr events -> op.sentData = op.data.length

instance (addr : Nat) (events : List WritingEvent) : Decidable (AllWhole addr events) :=
  inferInstanceAs (Decidable (forall op, op ∈ opsLeft addr events -> _))

/-- The socket has never accepted bytes behind a packet given up half way. -/
def AcceptsWhole (addr : Nat) : List WritingEvent -> Prop
  | [] => True
  | event :: events =>
      (event.bytesOf addr ≠ [] -> AllWhole addr events) ∧ AcceptsWhole addr events

instance decidableAcceptsWhole (addr : Nat) :
    forall events, Decidable (AcceptsWhole addr events)
  | [] => isTrue trivial
  | event :: events =>
      have := decidableAcceptsWhole addr events
      inferInstanceAs (Decidable ((event.bytesOf addr ≠ [] -> _) ∧ _))

/-- The bytes of the packets `get_pending` has chosen, one packet after another. -/
def chosenBytes (addr : Nat) (events : List WritingEvent) : List UInt8 :=
  (opsChosen addr events).flatMap fun choice => choice.2.data

theorem chosenBytes_eq {addr : Nat} {events : List WritingEvent} {ops : List Sending}
    (h : (opsChosen addr events).map Prod.snd = ops.map SendOp.renewed) :
    chosenBytes addr events = ops.flatMap SendOp.data := by
  have hchosen : chosenBytes addr events =
      ((opsChosen addr events).map Prod.snd).flatMap SendOp.data := by
    rw [List.flatMap_map]
    rfl
  rw [hchosen, h, List.flatMap_map]
  rfl

theorem sentBytes_whole {ops : List Sending}
    (h : forall op, op ∈ ops -> op.sentData = op.data.length) :
    ops.flatMap SendOp.sentBytes = ops.flatMap SendOp.data := by
  refine List.flatMap_congr ?_
  intro op hop
  rw [SendOp.sentBytes, h op hop, List.take_length]

theorem accepted_next {peerId : UInt32} {data bytes : List UInt8} {sent : Nat} {peer : Peer}
    {events : List WritingEvent} (hnext : SendsNext peerId data s events)
    (haccount : Accounted InOrder s events) (hpeer : s.peers[peerId]? = some peer)
    (hbytes : bytes = data.take sent) (hwhole : AllWhole peer.addr events) :
    bytesAccepted peer.addr events ++ bytes <+: chosenBytes peer.addr events := by
  rcases hnext with ⟨peer', op, hpeer', hcurrent, rfl, _, hsent⟩
  cases hpeer.symm.trans hpeer'
  have hsending : sending (some peer.sq) = [op] := by
    simp [sending, hcurrent]
  have horder := (haccount.here peerId peer hpeer).order
  rw [chosenBytes_eq horder, hsent, hsending, List.flatMap_append, List.flatMap_append,
    sentBytes_whole hwhole, List.flatMap_singleton, List.flatMap_singleton, hbytes,
    SendOp.sentBytes, SendOp.getPendingData, List.append_assoc, List.prefix_append_right_inj,
    ← List.take_add]
  exact List.take_prefix _ _

theorem accepted_begun (h : Traced machine DirectPlay8Peer.Constructed past c) (addr : Nat) :
    writing.Each writing.promise past -> AcceptsWhole addr (writingRecord past) ->
      bytesAccepted addr (writingRecord past) <+: chosenBytes addr (writingRecord past) := by
  induction h with
  | initial => exact fun _ _ => List.prefix_rfl
  | @step past c c' label htraced hstep ih =>
      intro hpast
      show AcceptsWhole addr (writing.note c.state label (writingRecord past)) ->
        bytesAccepted addr (writing.note c.state label (writingRecord past)) <+:
          chosenBytes addr (writing.note c.state label (writingRecord past))
      rw [Custody.note]
      cases hevent : writing.event c.state label with
      | none => exact ih hpast.2
      | some event =>
          rw [Option.toList_some, List.singleton_append]
          intro hwhole
          have hbefore := ih hpast.2 hwhole.2
          have hchosen : chosenBytes addr (writingRecord past) <+:
              chosenBytes addr (event :: writingRecord past) := by
            rw [chosenBytes, chosenBytes, opsChosen_cons, List.flatMap_append]
            exact List.prefix_append _ _
          by_cases hnone : event.bytesOf addr = []
          · rw [bytesAccepted_cons, hnone, List.append_nil]
            exact hbefore.trans hchosen
          · have hstill := hwhole.1 hnone
            rcases writing_event hevent with ⟨p, command, _, hwrites⟩ |
              ⟨peerId, sock, data, sent, bytes, peer, rfl, hpeer, hbytes, rfl⟩
            · exact absurd (writes_bytes hwrites) hnone
            · by_cases haddr : peer.addr = addr
              · subst haddr
                have hnext : SendsNext peerId data c.state (writingRecord past) := hpast.1
                rw [bytesAccepted_cons]
                refine List.IsPrefix.trans ?_ hchosen
                simpa [WritingEvent.bytesOf] using
                  accepted_next hnext (ops_in_order htraced).2.2 hpeer hbytes hstill
              · exact absurd (if_neg haddr) hnone

/-- The ops of a peer between two holders of the lock. -/
structure SettledOps (peer : Peer) (events : List WritingEvent) : Prop where
  order : (opsChosen peer.addr events).map Prod.snd =
    (opsLeft peer.addr events ++ peer.sq.current.toList).map SendOp.renewed
  bytes : bytesAccepted peer.addr events =
    (opsLeft peer.addr events ++ peer.sq.current.toList).flatMap SendOp.sentBytes
  own : forall priority,
    (atPriority priority (opsQueued peer.addr events)).filter SendOp.isOwn =
      (atPriority priority (opsChosen peer.addr events) ++
        peer.sq.queue priority).filter SendOp.isOwn

/-- What has been queued for a peer, what its socket has accepted, and what is left. -/
structure WritesInOrder (past : Deeds) (c : Run) : Prop where
  /-- Of one priority, ops are sent in the order in which they were queued. -/
  lines : forall addr priority,
    (atPriority priority (opsChosen addr (writingRecord past))).Sublist
      (atPriority priority (opsQueued addr (writingRecord past)))
  /-- None of the library's own is left out. -/
  own : forall addr priority,
    (atPriority priority (opsChosen addr (writingRecord past))).filter SendOp.isOwn <+:
      (atPriority priority (opsQueued addr (writingRecord past))).filter SendOp.isOwn
  /-- The socket is given one packet after another. -/
  stream : forall addr, AcceptsWhole addr (writingRecord past) ->
    bytesAccepted addr (writingRecord past) <+: chosenBytes addr (writingRecord past)
  /-- Between two holders of the lock nothing is missing anywhere. -/
  settled : c.Free -> forall (peerId : UInt32) (peer : Peer),
    c.state.peers[peerId]? = some peer -> SettledOps peer (writingRecord past)
  /-- `send` is called for what is left of a packet, which is at least a byte. -/
  calls : forall behind before s peerId sock data sent,
    past = behind ++ (s, .answer (.ioPeerSend peerId) (.send sock data) sent) :: before ->
    SendsNext peerId data s (writingRecord before)
  /-- An op succeeds behind the last byte of it, and before that of the next one. -/
  completes : forall behind before s peerId op result sentAll,
    past = behind ++ (s, .exec (.ioPeerSend peerId)
      (.log (.resolved op result sentAll))) :: before ->
    result = sOk ∧ sentAll = true ∧ CompletesLast peerId op s (writingRecord before)

theorem lines_always (h : Traced machine DirectPlay8Peer.Constructed past c) (addr : Nat) :
    exists sq, InOrder addr sq (writingRecord past) := by
  have haccount := (ops_in_order h).2.2
  by_cases hhere : exists (peerId : UInt32) (peer : Peer),
      c.state.peers[peerId]? = some peer ∧ peer.addr = addr
  · rcases hhere with ⟨peerId, peer, hpeer, rfl⟩
    exact ⟨_, haccount.here peerId peer hpeer⟩
  · exact ⟨_, haccount.gone addr fun peerId peer hpeer haddr =>
      hhere ⟨peerId, peer, hpeer, haddr⟩⟩

theorem ops_settled (h : Traced machine DirectPlay8Peer.Constructed past c) (hfree : c.Free)
    {peerId : UInt32} {peer : Peer} (hpeer : c.state.peers[peerId]? = some peer) :
    SettledOps peer (writingRecord past) := by
  rcases (Custody.traced_holds writing_valid h writing_each).2.free_inv hfree with
    ⟨held, hwrites⟩
  rcases hwrites.account.here peerId peer hpeer with ⟨horder, hsent⟩
  refine ⟨horder.order, hsent, ?_⟩
  intro priority
  rcases horder.own priority with ⟨lost, hown, hlost⟩
  cases hlost (by simp)
  rw [hown, List.append_nil, ← List.filter_append]
  rfl

/--
Whatever is queued at whatever priorities, however much `send` accepts at a time and
whichever threads call it, the socket of a peer gets the packets of its queue one after
another.
-/
theorem packets_written_in_order (h : Traced machine DirectPlay8Peer.Constructed past c) :
    WritesInOrder past c := by
  have hpast := (Custody.traced_holds writing_valid h writing_each).1
  constructor
  · intro addr priority
    rcases lines_always h addr with ⟨sq, horder⟩
    exact (List.sublist_append_left _ _).trans (horder.line priority)
  · intro addr priority
    rcases lines_always h addr with ⟨sq, horder⟩
    rcases horder.own priority with ⟨lost, hown, _⟩
    rw [hown]
    exact List.prefix_append _ _
  · exact fun addr => accepted_begun h addr hpast
  · intro hfree peerId peer hpeer
    exact ops_settled h hfree hpeer
  · rintro behind before s peerId sock data sent rfl
    exact hpast.all
  · rintro behind before s peerId op result sentAll rfl
    exact hpast.all

end Runs

def choicesSendParts : List (Choice Answer Proc) :=
  choicesAdmit ++ [.start (.ioPeerTriggered 0), .answer { ret := 5 },
    .answer { ret := 147 }, .answer { ret := -1, err := wsaEWouldBlock }]

theorem packets_written_in_order_parts :
    exists (past : Deeds) (c : Run),
      Traced machine DirectPlay8Peer.Constructed past c ∧
        (bytesAccepted 0 (writingRecord past)).length = 152 ∧ WritesInOrder past c := by
  have hrun : (retell machine 500 choicesSendParts [] (Config.initial .zeroed)).any
      (fun q => decide ((bytesAccepted 0 (writingRecord q.1)).length = 152)) = true := by
    decide +kernel
  rcases retell_run DirectPlay8Peer.zeroed_constructed hrun with
    ⟨past, c, htraced, htest⟩
  exact ⟨past, c, htraced, of_decide_eq_true htest, packets_written_in_order htraced⟩

end DirectPlayLite
