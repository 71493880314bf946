import DirectPlayLite.Peer.Host

/-!
# What is owed

Every op and every ack that is handed to a peer is owed a call of its callback.
It is owed by the peer as long as it is in the queue or the table, and by whoever
has taken it out until the callback is called.
-/

namespace DirectPlayLite

open Monitor Program

inductive Due where
  | op (addr : Nat)
  | ack (addr : Nat)
deriving Repr, DecidableEq

def Due.addr : Due -> Nat
  | op addr | ack addr => addr

namespace Event

/-- The peer something was handed to, and what. -/
def placed : Event -> Option (Nat × Due)
  | queued peer op => some (peer, .op op)
  | ackRegistered peer ack => some (peer, .ack ack)
  | _ => none

def settled : Event -> Option Due
  | resolved op _ _ => some (.op op)
  | ackResolved ack => some (.ack ack)
  | _ => none

end Event

/-- How often the callback of an op or an ack has been called. -/
def DirectPlay8Peer.settlements (s : DirectPlay8Peer) (due : Due) : Nat :=
  s.history.countP fun event => event.settled == some due

theorem DirectPlay8Peer.settlements_append {s s' : DirectPlay8Peer}
    {events : List Event} (hhistory : s'.history = events ++ s.history)
    (hnone : forall event, event ∈ events -> event.settled = none) (due : Due) :
    s'.settlements due = s.settlements due := by
  have hzero : events.countP (fun event => event.settled == some due) = 0 := by
    rw [List.countP_eq_zero]
    intro event hevent
    simp [hnone event hevent]
  rw [settlements, hhistory, List.countP_append, hzero, Nat.zero_add, settlements]

theorem DirectPlay8Peer.mem_history {s s' : DirectPlay8Peer}
    {events : List Event} (hhistory : s'.history = events ++ s.history)
    {event : Event} : event ∈ s'.history ↔ event ∈ events ∨ event ∈ s.history := by
  rw [hhistory, List.mem_append]

/-!
## Queues and tables
-/

namespace SendQueue

variable {Callback : Type} {sq rest : SendQueue Callback} {op : SendOp Callback}

def addrs (sq : SendQueue Callback) : List Nat := sq.ops.map SendOp.addr

theorem send_addrs (priority : SendPriority) (op : SendOp Callback)
    (sq : SendQueue Callback) :
    (sq.send priority op).addrs.Perm (op.addr :: sq.addrs) :=
  (send_ops priority op sq).map SendOp.addr

@[simp] theorem getPending_addrs : sq.getPending.addrs = sq.addrs := by
  simp [addrs]

@[simp] theorem incSentData_addrs {sent : Nat} :
    (sq.incSentData sent).addrs = sq.addrs := by
  unfold addrs ops incSentData
  cases sq.current <;> rfl

theorem popPending_addrs (h : sq.current = some op) :
    sq.addrs.Perm (op.addr :: sq.popPending.addrs) := by
  rw [addrs, popPending_ops h]
  exact List.Perm.refl _

theorem Takes.ops_perm (h : sq.Takes op rest) : sq.ops.Perm (op :: rest.ops) := by
  show (sq.current.toList ++ sq.queued).Perm
    (op :: (rest.current.toList ++ rest.queued))
  rw [h.current]
  exact (h.perm.append_left _).trans List.perm_middle

theorem Takes.addrs_perm (h : sq.Takes op rest) :
    sq.addrs.Perm (op.addr :: rest.addrs) :=
  h.ops_perm.map SendOp.addr

theorem mem_of_perm_cons {xs ys : List Nat} {x y : Nat} (hperm : xs.Perm (x :: ys))
    (hnodup : xs.Nodup) : y ∈ ys ↔ y ∈ xs ∧ x ≠ y := by
  have hcons := List.nodup_cons.mp (hperm.nodup_iff.mp hnodup)
  rw [hperm.mem_iff, List.mem_cons]
  constructor
  · intro hy
    refine ⟨Or.inr hy, ?_⟩
    rintro rfl
    exact hcons.1 hy
  · rintro ⟨rfl | hy, hother⟩
    · exact absurd rfl hother
    · exact hy

end SendQueue

namespace Peer

variable {peer : Peer} {due : Due}

def Owes (peer : Peer) : Due -> Prop
  | .op addr => addr ∈ peer.sq.addrs
  | .ack addr => exists (ackId : DWORD) (ack : PendingAck),
      peer.pendingAcks[ackId]? = some ack ∧ ack.addr = addr

structure WellOwed (peer : Peer) : Prop where
  ops : peer.sq.addrs.Nodup
  acks : forall (ackId other : DWORD) (ack found : PendingAck),
    peer.pendingAcks[ackId]? = some ack ->
    peer.pendingAcks[other]? = some found -> ack.addr = found.addr ->
    ackId = other

def Unsent (peer : Peer) : Prop :=
  forall op, op ∈ peer.sq.ops -> op.sentData < op.data.length

end Peer

namespace PeerCommand

variable {change : PeerCommand} {peer : Peer} {addr : Nat} {due : Due}

def takes (peer : Peer) : PeerCommand -> Option Due
  | popPending => peer.sq.current.map fun op => .op op.addr
  | removeQueued wanted => (peer.sq.remove wanted).map fun (op, _) => .op op.addr
  | eraseAck ackId => (peer.pendingAcks[ackId]?).map fun ack => .ack ack.addr
  | _ => none

def gives (addr : Nat) : PeerCommand -> Option Due
  | send .. => some (.op addr)
  | registerAck .. => some (.ack addr)
  | _ => none

def Proper (peer : Peer) : PeerCommand -> Prop
  | registerAck ackId _ => peer.pendingAcks[ackId]? = none
  | _ => True

def LeavesUnsent (peer : Peer) : PeerCommand -> Prop
  | send _ packet _ _ => packet ≠ []
  | incSentData sent => forall op, peer.sq.current = some op ->
      op.sentData + sent < op.data.length
  | _ => True

theorem registerAck_owes {ackId : DWORD} {callback : AckCallback} {owed : Nat}
    (hnone : peer.pendingAcks[ackId]? = none) :
    ((registerAck ackId callback).apply addr peer).Owes (.ack owed) ↔
      (peer.Owes (.ack owed) ∧
          (registerAck ackId callback).takes peer ≠ some (.ack owed)) ∨
        (registerAck ackId callback).gives addr = some (.ack owed) := by
  have hnew : ¬ ackId ∈ peer.pendingAcks := by
    rw [Std.ExtTreeMap.mem_iff_isSome_getElem?, hnone]
    exact Bool.false_ne_true
  constructor
  · rintro ⟨found, ack, hack, rfl⟩
    simp only [apply] at hack
    rw [Std.ExtTreeMap.getElem?_insertIfNew] at hack
    split at hack
    · cases hack
      exact Or.inr rfl
    · exact Or.inl ⟨⟨found, ack, hack, rfl⟩, by intro h; cases h⟩
  · rintro (⟨⟨found, ack, hack, rfl⟩, _⟩ | hgiven)
    · refine ⟨found, ack, ?_, rfl⟩
      simp only [apply]
      rw [Std.ExtTreeMap.getElem?_insertIfNew, if_neg]
      · exact hack
      · rintro ⟨hfound, _⟩
        have hsame : ackId = found := by simpa using hfound
        subst hsame
        cases hnone.symm.trans hack
    · cases hgiven
      refine ⟨ackId, ⟨addr, callback⟩, ?_, rfl⟩
      simp only [apply]
      rw [Std.ExtTreeMap.getElem?_insertIfNew, if_pos ⟨by simp, hnew⟩]

theorem eraseAck_owes {ackId : DWORD} {owed : Nat} (h : peer.WellOwed) :
    ((eraseAck ackId).apply addr peer).Owes (.ack owed) ↔
      (peer.Owes (.ack owed) ∧ (eraseAck ackId).takes peer ≠ some (.ack owed)) ∨
        (eraseAck ackId).gives addr = some (.ack owed) := by
  constructor
  · rintro ⟨found, ack, hack, rfl⟩
    simp only [apply] at hack
    rw [Std.ExtTreeMap.getElem?_erase] at hack
    split at hack
    · cases hack
    · rename_i hother
      refine Or.inl ⟨⟨found, ack, hack, rfl⟩, ?_⟩
      intro htaken
      rcases Option.map_eq_some_iff.mp htaken with ⟨erased, herased, heq⟩
      have haddr : erased.addr = ack.addr := Due.ack.inj heq
      exact hother (by simp [h.acks ackId found erased ack herased hack haddr])
  · rintro (⟨⟨found, ack, hack, rfl⟩, hkept⟩ | himpossible)
    · refine ⟨found, ack, ?_, rfl⟩
      simp only [apply]
      rw [Std.ExtTreeMap.getElem?_erase, if_neg]
      · exact hack
      · intro hfound
        have hsame : ackId = found := by simpa using hfound
        subst hsame
        exact hkept (by simp [takes, hack])
    · cases himpossible

theorem owes_after (addr : Nat) (h : peer.WellOwed)
    (hproper : change.Proper peer) (due : Due) :
    (change.apply addr peer).Owes due ↔
      (peer.Owes due ∧ change.takes peer ≠ some due) ∨
        change.gives addr = some due := by
  cases change with
  | send priority packet handle callback =>
      cases due with
      | op owed =>
          have hperm := SendQueue.send_addrs priority
            ⟨addr, packet, 0, none, handle, callback⟩ peer.sq
          simp [Peer.Owes, apply, takes, gives, hperm.mem_iff, or_comm, eq_comm]
      | ack owed => simp [Peer.Owes, apply, takes, gives]
  | getPending => cases due <;> simp [Peer.Owes, apply, takes, gives]
  | incSentData sent => cases due <;> simp [Peer.Owes, apply, takes, gives]
  | popPending =>
      cases due with
      | ack owed => simp [Peer.Owes, apply, takes, gives]
      | op owed =>
          cases hcurrent : peer.sq.current with
          | none =>
              have hsame : peer.sq.popPending = peer.sq := by
                rw [SendQueue.popPending, ← hcurrent]
              simp [Peer.Owes, apply, takes, gives, hcurrent, hsame]
          | some op =>
              simp [Peer.Owes, apply, takes, gives, hcurrent,
                SendQueue.mem_of_perm_cons (SendQueue.popPending_addrs hcurrent)
                  h.ops]
  | removeQueued wanted =>
      cases due with
      | ack owed => simp [Peer.Owes, apply, takes, gives]
      | op owed =>
          cases hremoved : peer.sq.remove wanted with
          | none => simp [Peer.Owes, apply, takes, gives, hremoved]
          | some found =>
              have htakes := (SendQueue.remove_eq_some hremoved).2
              simp [Peer.Owes, apply, takes, gives, hremoved,
                SendQueue.mem_of_perm_cons htakes.addrs_perm h.ops]
  | registerAck ackId callback =>
      cases due with
      | op owed => simp [Peer.Owes, apply, takes, gives]
      | ack owed => exact registerAck_owes hproper
  | eraseAck ackId =>
      cases due with
      | op owed => simp [Peer.Owes, apply, takes, gives]
      | ack owed => exact eraseAck_owes h
  | _ => cases due <;> simp [Peer.Owes, apply, takes, gives]

theorem owes_of_takes (h : change.takes peer = some due) : peer.Owes due := by
  cases change with
  | popPending =>
      rcases Option.map_eq_some_iff.mp h with ⟨op, hop, rfl⟩
      exact List.mem_map.mpr ⟨op, by simp [SendQueue.ops, hop], rfl⟩
  | removeQueued wanted =>
      rcases Option.map_eq_some_iff.mp h with ⟨⟨op, rest⟩, hremoved, rfl⟩
      have htakes := (SendQueue.remove_eq_some hremoved).2
      exact htakes.addrs_perm.mem_iff.mpr List.mem_cons_self
  | eraseAck ackId =>
      rcases Option.map_eq_some_iff.mp h with ⟨ack, hack, rfl⟩
      exact ⟨ackId, ack, hack, rfl⟩
  | _ => cases h

theorem takes_none_of_gives (h : change.gives addr = some due) :
    change.takes peer = none := by
  cases change <;> first
    | rfl
    | cases h

theorem placed_of_events {owner placedAt : Nat} {event : Event}
    (h : event ∈ change.events owner addr)
    (hplaced : event.placed = some (placedAt, due)) :
    placedAt = owner ∧ change.gives addr = some due := by
  cases change with
  | send | registerAck =>
      cases List.mem_singleton.mp h
      cases hplaced
      exact ⟨rfl, rfl⟩
  | appendRecv =>
      cases List.mem_singleton.mp h
      cases hplaced
  | _ => cases h

theorem events_of_gives {owner : Nat} (h : change.gives addr = some due) :
    exists event, event ∈ change.events owner addr ∧
      event.placed = some (owner, due) := by
  cases change with
  | send | registerAck =>
      cases h
      exact ⟨_, List.mem_singleton_self _, rfl⟩
  | _ => cases h

theorem events_quiet {owner : Nat} {event : Event}
    (h : event ∈ change.events owner addr) :
    event.settled = none ∧ (forall deleted, event ≠ .peerDeleted deleted) ∧
      forall op result sentAll, event ≠ .resolved op result sentAll := by
  cases change with
  | send | registerAck | appendRecv =>
      cases List.mem_singleton.mp h
      exact ⟨rfl, by simp, by simp⟩
  | _ => cases h

theorem nextAddr_after (change : PeerCommand) {s : DirectPlay8Peer}
    {peerId : UInt32} (hpeer : s.peers[peerId]? = some peer) :
    s.nextAddr ≤ ((Command.peer peerId change).apply s).nextAddr ∧
      (change.gives s.nextAddr ≠ none ->
        s.nextAddr < ((Command.peer peerId change).apply s).nextAddr) := by
  simp only [Command.apply, Command.applyPeer, hpeer]
  cases change <;> simp [allocates, gives]

theorem history_after (change : PeerCommand) {s : DirectPlay8Peer}
    {peerId : UInt32} (hpeer : s.peers[peerId]? = some peer) :
    ((Command.peer peerId change).apply s).history =
      change.events peer.addr s.nextAddr ++ s.history := by
  simp only [Command.apply, Command.applyPeer, hpeer]

theorem gives_addr (h : change.gives addr = some due) : due.addr = addr := by
  cases change <;> cases h <;> rfl

theorem unsent_after (h : peer.Unsent) (hleaves : change.LeavesUnsent peer) :
    (change.apply addr peer).Unsent := by
  intro op hop
  cases change with
  | send priority packet handle callback =>
      rcases List.mem_cons.mp ((SendQueue.send_ops _ _ _).mem_iff.mp hop) with
        rfl | hbefore
      · exact List.length_pos_iff.mpr hleaves
      · exact h op hbefore
  | getPending => exact h op (by simpa [apply] using hop)
  | popPending =>
      refine h op (List.mem_append_right _ ?_)
      simpa [apply, SendQueue.ops, SendQueue.popPending] using hop
  | removeQueued wanted => exact h op (SendQueue.mem_of_remove wanted hop)
  | incSentData sent =>
      rcases List.mem_append.mp hop with hcurrent | hqueued
      · have hsome : (peer.sq.current.map (·.incSentData sent)) = some op := by
          simpa [apply, SendQueue.incSentData] using hcurrent
        rcases Option.map_eq_some_iff.mp hsome with ⟨before, hbefore, rfl⟩
        exact hleaves before hbefore
      · exact h op (List.mem_append_right _ hqueued)
  | _ => exact h op hop

theorem wellOwed_after (h : peer.WellOwed)
    (hfresh : forall due, peer.Owes due -> due.addr < addr) :
    (change.apply addr peer).WellOwed where
  ops := by
    cases change with
    | send priority packet handle callback =>
        refine ((SendQueue.send_addrs _ _ _).nodup_iff).mpr
          (List.nodup_cons.mpr ⟨?_, h.ops⟩)
        intro hthere
        exact Nat.lt_irrefl _ (hfresh (.op addr) hthere)
    | getPending => simpa [apply] using h.ops
    | incSentData sent => simpa [apply] using h.ops
    | popPending =>
        cases hcurrent : peer.sq.current with
        | none =>
            have hsame : peer.sq.popPending = peer.sq := by
              rw [SendQueue.popPending, ← hcurrent]
            simpa [apply, hsame] using h.ops
        | some op =>
            exact (List.nodup_cons.mp ((SendQueue.popPending_addrs
              hcurrent).nodup_iff.mp h.ops)).2
    | removeQueued wanted =>
        cases hremoved : peer.sq.remove wanted with
        | none => simpa [apply, hremoved] using h.ops
        | some found =>
            have hperm := (SendQueue.remove_eq_some hremoved).2.addrs_perm
            simpa [apply, hremoved] using
              (List.nodup_cons.mp (hperm.nodup_iff.mp h.ops)).2
    | _ => exact h.ops
  acks := by
    intro ackId other ack found hack hfound hsame
    cases change with
    | registerAck registered callback =>
        simp only [apply] at hack hfound
        rw [Std.ExtTreeMap.getElem?_insertIfNew] at hack hfound
        split at hack <;> split at hfound
        · rename_i hfirst hsecond
          have hfirst : registered = ackId := by simpa using hfirst.1
          have hsecond : registered = other := by simpa using hsecond.1
          exact hfirst.symm.trans hsecond
        · cases hack
          have hlt := hfresh (.ack found.addr) ⟨other, found, hfound, rfl⟩
          exact absurd hsame.symm (Nat.ne_of_lt hlt)
        · cases hfound
          have hlt := hfresh (.ack ack.addr) ⟨ackId, ack, hack, rfl⟩
          exact absurd hsame (Nat.ne_of_lt hlt)
        · exact h.acks ackId other ack found hack hfound hsame
    | eraseAck erased =>
        simp only [apply] at hack hfound
        rw [Std.ExtTreeMap.getElem?_erase] at hack hfound
        split at hack
        · cases hack
        split at hfound
        · cases hfound
        exact h.acks ackId other ack found hack hfound hsame
    | _ => exact h.acks ackId other ack found hack hfound hsame

end PeerCommand

/-!
## The ledger
-/

/--
Everything that was handed to a peer has had its callback called once, is still
owed by the peer, or is in transit: taken out by the holder of the lock.
-/
structure Ledger (transit : Option Due) (s : DirectPlay8Peer) : Prop where
  well : forall (peerId : UInt32) (peer : Peer), s.peers[peerId]? = some peer ->
    peer.WellOwed
  recorded : forall (peerId : UInt32) (peer : Peer) (due : Due),
    s.peers[peerId]? = some peer -> peer.Owes due ->
    exists event, event ∈ s.history ∧ event.placed = some (peer.addr, due)
  fresh : forall event, event ∈ s.history -> forall (addr : Nat) (due : Due),
    event.placed = some (addr, due) -> due.addr < s.nextAddr
  freshSettled : forall event, event ∈ s.history -> forall due,
    event.settled = some due -> due.addr < s.nextAddr
  freshPeer : forall (peerId : UInt32) (peer : Peer),
    s.peers[peerId]? = some peer -> peer.addr < s.nextAddr
  unique : forall event other, event ∈ s.history -> other ∈ s.history ->
    forall (addr addr' : Nat) (due : Due), event.placed = some (addr, due) ->
    other.placed = some (addr', due) -> addr = addr'
  owed : forall (peerId : UInt32) (peer : Peer) (due : Due),
    s.peers[peerId]? = some peer -> peer.Owes due ->
    s.settlements due = 0 ∧ transit ≠ some due
  inTransit : forall due, transit = some due ->
    s.settlements due = 0 ∧ due.addr < s.nextAddr ∧
      forall addr, .peerDeleted addr ∈ s.history ->
        forall event, event ∈ s.history -> event.placed ≠ some (addr, due)
  placed : forall event, event ∈ s.history -> forall (addr : Nat) (due : Due),
    event.placed = some (addr, due) ->
    s.settlements due = 1 ∨ transit = some due ∨
      exists (peerId : UInt32) (peer : Peer), s.peers[peerId]? = some peer ∧
        peer.addr = addr ∧ peer.Owes due
  same : forall (peerId other : UInt32) (peer found : Peer),
    s.peers[peerId]? = some peer -> s.peers[other]? = some found ->
    peer.addr = found.addr -> peerId = other
  gone : forall addr, .peerDeleted addr ∈ s.history -> addr < s.nextAddr ∧
    forall (peerId : UInt32) (peer : Peer), s.peers[peerId]? = some peer ->
      peer.addr ≠ addr
  results : forall (op : Nat) (result : HRESULT) (sentAll : Bool),
    .resolved op result sentAll ∈ s.history -> (result = sOk ↔ sentAll = true)

def Event.isQuiet : Event -> Bool
  | queued .. | ackRegistered .. | resolved .. | ackResolved .. | peerDeleted .. =>
      false
  | _ => true

namespace Event

variable {event : Event}

theorem placed_of_isQuiet (h : event.isQuiet = true) : event.placed = none := by
  cases event <;> first
    | rfl
    | cases h

theorem settled_of_isQuiet (h : event.isQuiet = true) : event.settled = none := by
  cases event <;> first
    | rfl
    | cases h

end Event

namespace Ledger

variable {transit : Option Due} {s s' : DirectPlay8Peer} {due : Due}
  {peerId : UInt32} {peer : Peer} {change : PeerCommand}

theorem initial (h : s.Constructed) : Ledger none s := by
  constructor <;> simp [h.peers, h.history]

theorem settlements_fresh (h : Ledger transit s) (hfresh : s.nextAddr ≤ due.addr) :
    s.settlements due = 0 := by
  rw [DirectPlay8Peer.settlements, List.countP_eq_zero]
  intro event hmem hsettled
  have hlt := h.freshSettled event hmem due (by simpa using hsettled)
  omega

theorem owes_fresh (h : Ledger transit s) (hpeer : s.peers[peerId]? = some peer)
    (howes : peer.Owes due) : due.addr < s.nextAddr := by
  rcases h.recorded peerId peer due hpeer howes with ⟨event, hmem, hplaced⟩
  exact h.fresh event hmem peer.addr due hplaced

theorem owner (h : Ledger transit s) {other : UInt32} {found : Peer}
    (hpeer : s.peers[peerId]? = some peer) (howes : peer.Owes due)
    (hfound : s.peers[other]? = some found) (hfoundOwes : found.Owes due) :
    peerId = other := by
  rcases h.recorded peerId peer due hpeer howes with ⟨event, hmem, hplaced⟩
  rcases h.recorded other found due hfound hfoundOwes with
    ⟨event', hmem', hplaced'⟩
  exact h.same peerId other peer found hpeer hfound
    (h.unique event event' hmem hmem' _ _ due hplaced hplaced')

theorem quiet (h : Ledger transit s) (events : List Event)
    (hpeers : s'.peers = s.peers) (haddr : s.nextAddr ≤ s'.nextAddr)
    (hhistory : s'.history = events ++ s.history)
    (hquiet : forall event, event ∈ events -> event.isQuiet = true) :
    Ledger transit s' := by
  have hmem : forall event, event ∈ s'.history -> event.isQuiet = false ->
      event ∈ s.history := by
    intro event hevent hloud
    rcases (DirectPlay8Peer.mem_history hhistory).mp hevent with hnew | hold
    · cases hloud.symm.trans (hquiet event hnew)
    · exact hold
  have hplacedMem : forall event, event ∈ s'.history -> forall value,
      event.placed = some value -> event ∈ s.history := by
    intro event hevent value hplaced
    apply hmem event hevent
    cases hcase : event.isQuiet with
    | false => rfl
    | true => cases hplaced.symm.trans (Event.placed_of_isQuiet hcase)
  have hcount := DirectPlay8Peer.settlements_append hhistory
    fun event hevent => Event.settled_of_isQuiet (hquiet event hevent)
  constructor
  · rw [hpeers]
    exact h.well
  · intro peerId peer due hpeer howes
    rw [hpeers] at hpeer
    rcases h.recorded peerId peer due hpeer howes with ⟨event, hevent, hplaced⟩
    exact ⟨event, (DirectPlay8Peer.mem_history hhistory).mpr (Or.inr hevent),
      hplaced⟩
  · intro event hevent addr due hplaced
    exact (h.fresh event (hplacedMem event hevent _ hplaced) addr due
      hplaced).trans_le haddr
  · intro event hevent due hsettled
    refine (h.freshSettled event (hmem event hevent ?_) due hsettled).trans_le haddr
    cases hcase : event.isQuiet with
    | false => rfl
    | true => cases hsettled.symm.trans (Event.settled_of_isQuiet hcase)
  · intro peerId peer hpeer
    rw [hpeers] at hpeer
    exact (h.freshPeer peerId peer hpeer).trans_le haddr
  · intro event other hevent hother addr addr' due hplaced hplaced'
    exact h.unique event other (hplacedMem event hevent _ hplaced)
      (hplacedMem other hother _ hplaced') addr addr' due hplaced hplaced'
  · intro peerId peer due hpeer howes
    rw [hpeers] at hpeer
    rw [hcount]
    exact h.owed peerId peer due hpeer howes
  · intro due htransit
    rw [hcount]
    rcases h.inTransit due htransit with ⟨hzero, hlt, hgone⟩
    refine ⟨hzero, hlt.trans_le haddr, ?_⟩
    intro addr hdeleted event hevent hplaced
    exact hgone addr (hmem _ hdeleted rfl) event
      (hplacedMem event hevent _ hplaced) hplaced
  · intro event hevent addr due hplaced
    rw [hcount, hpeers]
    exact h.placed event (hplacedMem event hevent _ hplaced) addr due hplaced
  · rw [hpeers]
    exact h.same
  · intro addr hdeleted
    rcases h.gone addr (hmem _ hdeleted rfl) with ⟨hlt, hother⟩
    rw [hpeers]
    exact ⟨hlt.trans_le haddr, hother⟩
  · intro op result sentAll hresolved
    exact h.results op result sentAll (hmem _ hresolved rfl)

theorem ofPeer (h : Ledger transit s) (hpeer : s.peers[peerId]? = some peer)
    (hproper : change.Proper peer)
    (htakes : change.takes peer = none ∨ transit = none) :
    Ledger ((change.takes peer).or transit)
      ((Command.peer peerId change).apply s) := by
  have hhistory := PeerCommand.history_after change hpeer
  rcases PeerCommand.nextAddr_after change hpeer with ⟨hle, hlt⟩
  have hafter := DirectPlay8Peer.peer_changed change hpeer
  have hothers : forall (other : UInt32) (found : Peer),
      ((Command.peer peerId change).apply s).peers[other]? = some found ->
      (other = peerId ∧ found = change.apply s.nextAddr peer) ∨
        (other ≠ peerId ∧ s.peers[other]? = some found) := by
    intro other found hfound
    by_cases hsame : other = peerId
    · subst hsame
      exact Or.inl ⟨rfl, Option.some.inj (hfound.symm.trans hafter)⟩
    · exact Or.inr ⟨hsame, (DirectPlay8Peer.peer_unchanged hsame).symm.trans hfound⟩
  have hkept : forall (other : UInt32) (found : Peer), other ≠ peerId ->
      s.peers[other]? = some found ->
      ((Command.peer peerId change).apply s).peers[other]? = some found :=
    fun _ _ hne hfound => (DirectPlay8Peer.peer_unchanged hne).trans hfound
  generalize (Command.peer peerId change).apply s = s'
    at hhistory hle hlt hafter hothers hkept
  have hwell := h.well peerId peer hpeer
  have howesFresh : forall due, peer.Owes due -> due.addr < s.nextAddr :=
    fun due => h.owes_fresh hpeer
  have howes := PeerCommand.owes_after s.nextAddr hwell hproper
  have hmem : forall event, event ∈ s'.history ->
      event ∈ change.events peer.addr s.nextAddr ∨ event ∈ s.history :=
    fun _ => (DirectPlay8Peer.mem_history hhistory).mp
  have hback : forall event, event ∈ s.history -> event ∈ s'.history :=
    fun _ hevent => (DirectPlay8Peer.mem_history hhistory).mpr (Or.inr hevent)
  have hcount := DirectPlay8Peer.settlements_append hhistory
    fun _ hevent => (PeerCommand.events_quiet hevent).1
  have hnew : forall event, event ∈ change.events peer.addr s.nextAddr ->
      forall (addr : Nat) (due : Due), event.placed = some (addr, due) ->
      addr = peer.addr ∧ due.addr = s.nextAddr ∧
        change.gives s.nextAddr = some due := by
    intro event hevent addr due hplaced
    rcases PeerCommand.placed_of_events hevent hplaced with ⟨haddr, hgives⟩
    exact ⟨haddr, PeerCommand.gives_addr hgives, hgives⟩
  have hdeleted : forall addr, .peerDeleted addr ∈ s'.history ->
      .peerDeleted addr ∈ s.history := by
    intro addr hgone
    rcases hmem _ hgone with hevent | hold
    · exact absurd rfl ((PeerCommand.events_quiet hevent).2.1 addr)
    · exact hold
  constructor
  · intro other found hfound
    rcases hothers other found hfound with ⟨_, rfl⟩ | ⟨_, hold⟩
    · exact PeerCommand.wellOwed_after hwell howesFresh
    · exact h.well other found hold
  · intro other found due hfound hdue
    rcases hothers other found hfound with ⟨_, rfl⟩ | ⟨_, hold⟩
    · rw [PeerCommand.apply_addr]
      rcases (howes due).mp hdue with ⟨hbefore, _⟩ | hgiven
      · rcases h.recorded peerId peer due hpeer hbefore with
          ⟨event, hevent, hplaced⟩
        exact ⟨event, hback event hevent, hplaced⟩
      · rcases PeerCommand.events_of_gives hgiven with ⟨event, hevent, hplaced⟩
        refine ⟨event, ?_, hplaced⟩
        rw [hhistory]
        exact List.mem_append_left _ hevent
    · rcases h.recorded other found due hold hdue with ⟨event, hevent, hplaced⟩
      exact ⟨event, hback event hevent, hplaced⟩
  · intro event hevent addr due hplaced
    rcases hmem event hevent with hevent | hold
    · rcases hnew event hevent addr due hplaced with ⟨_, haddr, hgives⟩
      rw [haddr]
      exact hlt (by rw [hgives]; simp)
    · exact (h.fresh event hold addr due hplaced).trans_le hle
  · intro event hevent due hsettled
    rcases hmem event hevent with hevent | hold
    · cases hsettled.symm.trans (PeerCommand.events_quiet hevent).1
    · exact (h.freshSettled event hold due hsettled).trans_le hle
  · intro other found hfound
    rcases hothers other found hfound with ⟨_, rfl⟩ | ⟨_, hold⟩
    · rw [PeerCommand.apply_addr]
      exact (h.freshPeer peerId peer hpeer).trans_le hle
    · exact (h.freshPeer other found hold).trans_le hle
  · intro event other hevent hother addr addr' due hplaced hplaced'
    rcases hmem event hevent with hevent | hold <;>
      rcases hmem other hother with hother | hold'
    · exact (hnew event hevent addr due hplaced).1.trans
        (hnew other hother addr' due hplaced').1.symm
    · have hlate := (hnew event hevent addr due hplaced).2.1
      exact absurd hlate (Nat.ne_of_lt (h.fresh other hold' addr' due hplaced'))
    · have hlate := (hnew other hother addr' due hplaced').2.1
      exact absurd hlate (Nat.ne_of_lt (h.fresh event hold addr due hplaced))
    · exact h.unique event other hold hold' addr addr' due hplaced hplaced'
  · intro other found due hfound hdue
    rw [hcount]
    rcases hothers other found hfound with ⟨_, rfl⟩ | ⟨hne, hold⟩
    · rcases (howes due).mp hdue with ⟨hbefore, hleft⟩ | hgiven
      · rcases h.owed peerId peer due hpeer hbefore with ⟨hzero, hstill⟩
        refine ⟨hzero, ?_⟩
        intro htaken
        rcases Option.or_eq_some_iff.mp htaken with htaken | ⟨_, htaken⟩
        · exact hleft htaken
        · exact hstill htaken
      · have haddr := PeerCommand.gives_addr hgiven
        refine ⟨h.settlements_fresh haddr.ge, ?_⟩
        rw [PeerCommand.takes_none_of_gives hgiven]
        intro htaken
        exact absurd haddr (Nat.ne_of_lt (h.inTransit due htaken).2.1)
    · rcases h.owed other found due hold hdue with ⟨hzero, hstill⟩
      refine ⟨hzero, ?_⟩
      intro htaken
      rcases Option.or_eq_some_iff.mp htaken with htaken | ⟨_, htaken⟩
      · exact hne (h.owner hold hdue hpeer (PeerCommand.owes_of_takes htaken))
      · exact hstill htaken
  · intro due htaken
    rw [hcount]
    rcases Option.or_eq_some_iff.mp htaken with htaken | ⟨_, htaken⟩
    · have hbefore := PeerCommand.owes_of_takes htaken
      have hlate := howesFresh due hbefore
      refine ⟨(h.owed peerId peer due hpeer hbefore).1, hlate.trans_le hle, ?_⟩
      intro addr hgone event hevent hplaced
      rcases hmem event hevent with hevent | hold
      · exact absurd (hnew event hevent addr due hplaced).2.1 (Nat.ne_of_lt hlate)
      · rcases h.recorded peerId peer due hpeer hbefore with
          ⟨first, hfirst, hfirstPlaced⟩
        exact (h.gone addr (hdeleted addr hgone)).2 peerId peer hpeer
          (h.unique first event hfirst hold _ _ due hfirstPlaced hplaced)
    · rcases h.inTransit due htaken with ⟨hzero, hlate, hnever⟩
      refine ⟨hzero, hlate.trans_le hle, ?_⟩
      intro addr hgone event hevent hplaced
      rcases hmem event hevent with hevent | hold
      · exact absurd (hnew event hevent addr due hplaced).2.1 (Nat.ne_of_lt hlate)
      · exact hnever addr (hdeleted addr hgone) event hold hplaced
  · intro event hevent addr due hplaced
    rw [hcount]
    rcases hmem event hevent with hevent | hold
    · rcases hnew event hevent addr due hplaced with ⟨haddr, _, hgives⟩
      refine Or.inr (Or.inr ⟨peerId, _, hafter, ?_, (howes due).mpr (Or.inr hgives)⟩)
      rw [PeerCommand.apply_addr, haddr]
    · rcases h.placed event hold addr due hplaced with hone | htransit |
        ⟨other, found, hfound, haddr, hdue⟩
      · exact Or.inl hone
      · refine Or.inr (Or.inl ?_)
        rcases htakes with hnone | hnone
        · rw [hnone]
          exact htransit
        · cases hnone.symm.trans htransit
      · refine Or.inr ?_
        by_cases hsame : other = peerId
        · subst hsame
          cases hpeer.symm.trans hfound
          by_cases htaken : change.takes peer = some due
          · exact Or.inl (by rw [htaken]; rfl)
          · refine Or.inr ⟨other, _, hafter, ?_,
              (howes due).mpr (Or.inl ⟨hdue, htaken⟩)⟩
            rw [PeerCommand.apply_addr, haddr]
        · exact Or.inr ⟨other, found, hkept other found hsame hfound, haddr, hdue⟩
  · intro first other peer₁ peer₂ hfirst hother haddr
    rcases hothers first peer₁ hfirst with ⟨rfl, rfl⟩ | ⟨_, hold⟩ <;>
      rcases hothers other peer₂ hother with ⟨rfl, rfl⟩ | ⟨_, hold'⟩
    · rfl
    · rw [PeerCommand.apply_addr] at haddr
      exact h.same _ _ _ _ hpeer hold' haddr
    · rw [PeerCommand.apply_addr] at haddr
      exact h.same _ _ _ _ hold hpeer haddr
    · exact h.same _ _ _ _ hold hold' haddr
  · intro addr hgone
    rcases h.gone addr (hdeleted addr hgone) with ⟨hlate, hnever⟩
    refine ⟨hlate.trans_le hle, ?_⟩
    intro other found hfound
    rcases hothers other found hfound with ⟨_, rfl⟩ | ⟨_, hold⟩
    · rw [PeerCommand.apply_addr]
      exact hnever peerId peer hpeer
    · exact hnever other found hold
  · intro op result sentAll hresolved
    rcases hmem _ hresolved with hevent | hold
    · exact absurd rfl ((PeerCommand.events_quiet hevent).2.2 op result sentAll)
    · exact h.results op result sentAll hold

theorem settle (h : Ledger (some due) s) {event : Event}
    (hsettled : event.settled = some due)
    (hresult : forall op result sentAll, event = .resolved op result sentAll ->
      (result = sOk ↔ sentAll = true)) :
    Ledger none ((Command.log event).apply s) := by
  rcases h.inTransit due rfl with ⟨hzero, hlate, hnever⟩
  have hplacedNone : event.placed = none := by
    cases event <;> first
      | rfl
      | cases hsettled
  have hdeletedNot : forall addr, event ≠ .peerDeleted addr := by
    rintro addr rfl
    cases hsettled
  have hcount : forall other, ((Command.log event).apply s).settlements other =
      s.settlements other + if due = other then 1 else 0 := by
    intro other
    simp [DirectPlay8Peer.settlements, Command.apply, List.countP_cons, hsettled]
  have hplacedMem : forall other, other ∈ event :: s.history -> forall value,
      other.placed = some value -> other ∈ s.history := by
    intro other hother value hplaced
    rcases List.mem_cons.mp hother with rfl | hold
    · cases hplacedNone.symm.trans hplaced
    · exact hold
  have hdeleted : forall addr, .peerDeleted addr ∈ event :: s.history ->
      .peerDeleted addr ∈ s.history := by
    intro addr hgone
    rcases List.mem_cons.mp hgone with hsame | hold
    · exact absurd hsame.symm (hdeletedNot addr)
    · exact hold
  constructor
  · exact h.well
  · intro peerId peer other hpeer howes
    rcases h.recorded peerId peer other hpeer howes with ⟨first, hfirst, hplaced⟩
    exact ⟨first, List.mem_cons_of_mem _ hfirst, hplaced⟩
  · intro first hfirst addr other hplaced
    exact h.fresh first (hplacedMem first hfirst _ hplaced) addr other hplaced
  · intro first hfirst other hother
    rcases List.mem_cons.mp hfirst with rfl | hold
    · cases hsettled.symm.trans hother
      exact hlate
    · exact h.freshSettled first hold other hother
  · exact h.freshPeer
  · intro first second hfirst hsecond addr addr' other hplaced hplaced'
    exact h.unique first second (hplacedMem first hfirst _ hplaced)
      (hplacedMem second hsecond _ hplaced') addr addr' other hplaced hplaced'
  · intro peerId peer other hpeer howes
    rcases h.owed peerId peer other hpeer howes with ⟨hnone, hstill⟩
    refine ⟨?_, by simp⟩
    rw [hcount, hnone, if_neg (fun hsame => hstill (congrArg some hsame))]
  · simp
  · intro first hfirst addr other hplaced
    rw [hcount]
    rcases h.placed first (hplacedMem first hfirst _ hplaced) addr other hplaced
      with hone | htransit | howed
    · left
      rw [hone, if_neg]
      rintro rfl
      cases hone.symm.trans hzero
    · left
      cases htransit
      rw [hzero, if_pos rfl]
    · exact Or.inr (Or.inr howed)
  · exact h.same
  · intro addr hgone
    exact h.gone addr (hdeleted addr hgone)
  · intro op result sentAll hresolved
    rcases List.mem_cons.mp hresolved with hsame | hold
    · exact hresult op result sentAll hsame.symm
    · exact h.results op result sentAll hold

theorem insertPeer (h : Ledger transit s) {state : PeerState} {sock : Int}
    {ip : UInt32} {port : UInt16} {playerId : DPNID} :
    Ledger transit
      ((Command.insertPeer peerId state sock ip port playerId).apply s) := by
  have hcases : forall (other : UInt32) (found : Peer),
      ((Command.insertPeer peerId state sock ip port playerId).apply
        s).peers[other]? = some found ->
      s.peers[other]? = some found ∨ (other = peerId ∧
        s.peers[peerId]? = none ∧ found =
          { Peer.new s.nextAddr state sock ip port with playerId }) := by
    intro other found hfound
    rcases Command.peer_cases hfound with hold | ⟨_, _, himpossible, _⟩ |
      ⟨_, _, _, _, _, heq, hnone, hnew⟩
    · exact Or.inl hold
    · cases himpossible
    · cases heq
      exact Or.inr ⟨rfl, hnone, hnew⟩
  have hkept : forall (other : UInt32) (found : Peer),
      s.peers[other]? = some found ->
      ((Command.insertPeer peerId state sock ip port playerId).apply
        s).peers[other]? = some found := by
    intro other found hfound
    rcases Command.peer_after _ hfound with hafter | ⟨_, himpossible, _⟩ |
      himpossible
    · exact hafter
    · cases himpossible
    · cases himpossible
  have howesNothing : forall due,
      ¬ ({ Peer.new s.nextAddr state sock ip port with playerId } : Peer).Owes
        due := by
    intro due howes
    cases due with
    | op addr => simp [Peer.Owes, Peer.new, SendQueue.addrs] at howes
    | ack addr => simp [Peer.Owes, Peer.new] at howes
  constructor
  · intro other found hfound
    rcases hcases other found hfound with hold | ⟨_, _, rfl⟩
    · exact h.well other found hold
    · constructor <;> simp [Peer.new, SendQueue.addrs]
  · intro other found due hfound howes
    rcases hcases other found hfound with hold | ⟨_, _, rfl⟩
    · exact h.recorded other found due hold howes
    · exact absurd howes (howesNothing due)
  · intro event hevent addr due hplaced
    exact (h.fresh event hevent addr due hplaced).trans (Nat.lt_succ_self _)
  · intro event hevent due hsettled
    exact (h.freshSettled event hevent due hsettled).trans (Nat.lt_succ_self _)
  · intro other found hfound
    rcases hcases other found hfound with hold | ⟨_, _, rfl⟩
    · exact (h.freshPeer other found hold).trans (Nat.lt_succ_self _)
    · exact Nat.lt_succ_self _
  · exact h.unique
  · intro other found due hfound howes
    rcases hcases other found hfound with hold | ⟨_, _, rfl⟩
    · exact h.owed other found due hold howes
    · exact absurd howes (howesNothing due)
  · intro due htransit
    rcases h.inTransit due htransit with ⟨hzero, hlate, hnever⟩
    exact ⟨hzero, hlate.trans (Nat.lt_succ_self _), hnever⟩
  · intro event hevent addr due hplaced
    rcases h.placed event hevent addr due hplaced with hone | htransit |
      ⟨other, found, hfound, howed⟩
    · exact Or.inl hone
    · exact Or.inr (Or.inl htransit)
    · exact Or.inr (Or.inr ⟨other, found, hkept other found hfound, howed⟩)
  · intro first other peer₁ peer₂ hfirst hother haddr
    rcases hcases first peer₁ hfirst with hold | ⟨rfl, _, rfl⟩ <;>
      rcases hcases other peer₂ hother with hold' | ⟨rfl, _, rfl⟩
    · exact h.same _ _ _ _ hold hold' haddr
    · exact absurd haddr (Nat.ne_of_lt (h.freshPeer _ _ hold))
    · exact absurd haddr.symm (Nat.ne_of_lt (h.freshPeer _ _ hold'))
    · rfl
  · intro addr hgone
    rcases h.gone addr hgone with ⟨hlate, hnever⟩
    refine ⟨hlate.trans (Nat.lt_succ_self _), ?_⟩
    intro other found hfound
    rcases hcases other found hfound with hold | ⟨_, _, rfl⟩
    · exact hnever other found hold
    · exact Nat.ne_of_gt hlate
  · exact h.results

theorem erasePeer (h : Ledger none s) (hpeer : s.peers[peerId]? = some peer)
    (hnothing : forall due, ¬ peer.Owes due) :
    Ledger none ((Command.erasePeer peerId).apply s) := by
  have hcases : forall (other : UInt32) (found : Peer),
      ((Command.erasePeer peerId).apply s).peers[other]? = some found ->
      other ≠ peerId ∧ s.peers[other]? = some found := by
    intro other found hfound
    simp only [Command.apply] at hfound
    rw [Std.ExtTreeMap.getElem?_erase] at hfound
    split at hfound
    · cases hfound
    · rename_i hother
      exact ⟨fun hsame => hother (by simp [hsame]), hfound⟩
  have hkept : forall (other : UInt32) (found : Peer), other ≠ peerId ->
      s.peers[other]? = some found ->
      ((Command.erasePeer peerId).apply s).peers[other]? = some found := by
    intro other found hne hfound
    rcases Command.peer_after _ hfound with hafter | ⟨_, himpossible, _⟩ | herased
    · exact hafter
    · cases himpossible
    · cases herased
      exact absurd rfl hne
  have hhistory : ((Command.erasePeer peerId).apply s).history =
      .peerDeleted peer.addr :: s.history := by
    simp [Command.apply, hpeer]
  have haddr : ((Command.erasePeer peerId).apply s).nextAddr = s.nextAddr := rfl
  generalize (Command.erasePeer peerId).apply s = s'
    at hcases hkept hhistory haddr
  have hplacedMem : forall event, event ∈ s'.history -> forall value,
      event.placed = some value -> event ∈ s.history := by
    intro event hevent value hplaced
    rw [hhistory] at hevent
    rcases List.mem_cons.mp hevent with rfl | hold
    · cases hplaced
    · exact hold
  have hrecords : s'.history = [.peerDeleted peer.addr] ++ s.history := hhistory
  have hcount := DirectPlay8Peer.settlements_append hrecords
    (by simp [Event.settled])
  constructor
  · intro other found hfound
    exact h.well other found (hcases other found hfound).2
  · intro other found due hfound howes
    rcases h.recorded other found due (hcases other found hfound).2 howes with
      ⟨event, hevent, hplaced⟩
    refine ⟨event, ?_, hplaced⟩
    rw [hhistory]
    exact List.mem_cons_of_mem _ hevent
  · intro event hevent addr due hplaced
    rw [haddr]
    exact h.fresh event (hplacedMem event hevent _ hplaced) addr due hplaced
  · intro event hevent due hsettled
    rw [haddr]
    rw [hhistory] at hevent
    rcases List.mem_cons.mp hevent with rfl | hold
    · cases hsettled
    · exact h.freshSettled event hold due hsettled
  · intro other found hfound
    rw [haddr]
    exact h.freshPeer other found (hcases other found hfound).2
  · intro event other hevent hother addr addr' due hplaced hplaced'
    exact h.unique event other (hplacedMem event hevent _ hplaced)
      (hplacedMem other hother _ hplaced') addr addr' due hplaced hplaced'
  · intro other found due hfound howes
    rw [hcount]
    exact h.owed other found due (hcases other found hfound).2 howes
  · simp
  · intro event hevent addr due hplaced
    rw [hcount]
    rcases h.placed event (hplacedMem event hevent _ hplaced) addr due hplaced
      with hone | htransit | ⟨other, found, hfound, howner, howes⟩
    · exact Or.inl hone
    · cases htransit
    · refine Or.inr (Or.inr ⟨other, found, hkept other found ?_ hfound, howner,
        howes⟩)
      rintro rfl
      cases hpeer.symm.trans hfound
      exact hnothing due howes
  · intro first other peer₁ peer₂ hfirst hother hsame
    exact h.same first other peer₁ peer₂ (hcases first peer₁ hfirst).2
      (hcases other peer₂ hother).2 hsame
  · intro addr hgone
    rw [haddr]
    rw [hhistory] at hgone
    rcases List.mem_cons.mp hgone with hsame | hold
    · cases hsame
      refine ⟨h.freshPeer peerId peer hpeer, ?_⟩
      intro other found hfound howner
      rcases hcases other found hfound with ⟨hne, hbefore⟩
      exact hne (h.same other peerId found peer hbefore hpeer howner)
    · rcases h.gone addr hold with ⟨hlate, hnever⟩
      exact ⟨hlate, fun other found hfound =>
        hnever other found (hcases other found hfound).2⟩
  · intro op result sentAll hresolved
    rw [hhistory] at hresolved
    rcases List.mem_cons.mp hresolved with hsame | hold
    · cases hsame
    · exact h.results op result sentAll hold

end Ledger

end DirectPlayLite
