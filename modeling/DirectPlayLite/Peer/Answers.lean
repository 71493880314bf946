import DirectPlayLite.Peer.AckIds

/-!
# Answers to requests

A peer answers a request with the ID of the ack the request carried.  As long as the IDs
do not run out, the ID stands for that request alone: it is registered with the callback
of the request before an ack can come in, and the first ack that comes is handed to it.
-/

namespace DirectPlayLite

open Monitor Program

/-!
## The course of a request
-/

inductive AckDeed where
  | allocated
  | requested (packet : List UInt8) (callback : SendCallback)
  | sent (callback : SendCallback)
  | registered (answer : AckCallback)
  | erased (answer : AckCallback)
  | invoked (answer : AckCallback)
deriving Repr, DecidableEq

/-- A request, with the ID it carries and what is to be called when the ack comes. -/
structure AckRequest (ackId : DWORD) where
  packet : List UInt8
  callback : SendCallback
  answer : AckCallback
  carries : CarriesAckId packet ackId
  asks : callback.ackId = some ackId
  answers : callback.answer = some answer

namespace AckRequest

variable {ackId : DWORD}

/-- All that is done about the ID of a request, in order. -/
def course (request : AckRequest ackId) : List AckDeed :=
  [.allocated, .requested request.packet request.callback, .sent request.callback,
    .registered request.answer, .erased request.answer, .invoked request.answer]

/-- The first deeds of the course, latest first. -/
def done (request : AckRequest ackId) (count : Nat) : List AckDeed :=
  (request.course.take count).reverse

def ofGroup (ackId : DWORD) : AckRequest ackId where
  packet := (serialise msgidGroupAllocate [.dword ackId]).rawPacket
  callback := .groupRequested 0 ackId ⟨[], [], contextNull, 0⟩
  answer := .groupAllocated ⟨[], [], contextNull, 0⟩
  carries := .groupAllocate ackId
  asks := rfl
  answers := rfl

theorem done_length (request : AckRequest ackId) (count : Nat) :
    (request.done count).length = min count 6 := by
  simp [done, course]

theorem sent_inj {request other : AckRequest ackId} {count : Nat}
    (h : request.done count = other.done 3) :
    count = 3 ∧ request.callback = other.callback := by
  have hlength := congrArg List.length h
  rw [done_length, done_length] at hlength
  have hcount : count = 3 := by omega
  subst hcount
  have hhead : some (AckDeed.sent request.callback) = some (.sent other.callback) :=
    congrArg List.head? h
  exact ⟨rfl, AckDeed.sent.inj (Option.some.inj hhead)⟩

theorem done_prefix (request : AckRequest ackId) (count : Nat) :
    (request.done count).reverse <+: request.course := by
  rw [done, List.reverse_reverse]
  exact List.take_prefix count request.course

end AckRequest

/-- What a change of a peer does about an ID. -/
def PeerCommand.ackDeed (p : Proc) (peer : Peer) (ackId : DWORD) :
    PeerCommand -> Option AckDeed
  | allocAckId => if peer.nextAckId = ackId then some .allocated else none
  | send _ packet _ callback =>
      if callback.ackId = some ackId then some (.requested packet callback) else none
  | popPending =>
      match p, peer.sq.current with
      | .ioPeerSend _, some op =>
          if op.callback.ackId = some ackId then some (.sent op.callback) else none
      | _, _ => none
  | registerAck registered answer =>
      if registered = ackId then some (.registered answer) else none
  | eraseAck erased =>
      match p, peer.pendingAcks[erased]? with
      | .handleAck .., some ack =>
          if erased = ackId then some (.erased ack.callback) else none
      | _, _ => none
  | _ => none

/-- What a step does about an ID of the peer with an address. -/
def ackDeed (addr : Nat) (ackId : DWORD) (s : DirectPlay8Peer) :
    StepLabel -> Option AckDeed
  | .exec p (.peer peerId change) =>
      (s.peers[peerId]?).bind fun peer =>
        if peer.addr = addr then change.ackDeed p peer ackId else none
  | .call (.handleAck peerId pd) (.invokeAck answer result data) =>
      (s.peers[peerId]?).bind fun peer =>
        if peer.addr = addr ∧ pd.ack = .ok (ackId, result, data) then
          some (.invoked answer)
        else none
  | _ => none

/-- What has been done about an ID of a peer, latest first. -/
def ackDeeds (addr : Nat) (ackId : DWORD) (past : Deeds) : List AckDeed :=
  past.filterMap fun deed => ackDeed addr ackId deed.1 deed.2

def allocatesAckId (addr : Nat) (s : DirectPlay8Peer) : StepLabel -> Bool
  | .exec _ (.peer peerId .allocAckId) => (s.peers[peerId]?).any (·.addr == addr)
  | _ => false

/-- The number of IDs that have been allocated on a peer. -/
def ackAllocations (addr : Nat) (past : Deeds) : Nat :=
  past.countP fun deed => allocatesAckId addr deed.1 deed.2

/-!
## The file of a peer
-/

/-- What the holder of the lock is about has come as far as it has. -/
def AckTransit.Holds (deeds : DWORD -> List AckDeed) (peerId : UInt32) :
    AckTransit -> Prop
  | taken target ackId => target = peerId -> deeds ackId = [.allocated]
  | popped target callback =>
      target = peerId -> forall ackId, callback.ackId = some ackId ->
        exists request : AckRequest ackId,
          request.callback = callback ∧ deeds ackId = request.done 3
  | answering arrival =>
      arrival.peerId = peerId -> exists request : AckRequest arrival.ackId,
        request.answer = arrival.callback ∧ deeds arrival.ackId = request.done 5
  | idle | expecting _ => True

structure AckFile (deeds : DWORD -> List AckDeed) (allocated : Nat) (peerId : UInt32)
    (peer : Peer) (transit : AckTransit) : Prop where
  counted : peer.nextAckId.toNat = allocated + 1
  unused : forall ackId, peer.nextAckId ≤ ackId -> deeds ackId = []
  queued : forall callback ackId, callback ∈ peer.callbacks ->
    callback.ackId = some ackId -> exists request : AckRequest ackId,
      request.callback = callback ∧ deeds ackId = request.done 2
  single : (peer.callbacks.filterMap SendCallback.ackId).Nodup
  pending : forall (ackId : DWORD) (ack : PendingAck), peer.pendingAcks[ackId]? = some ack ->
    exists request : AckRequest ackId,
      request.answer = ack.callback ∧ deeds ackId = request.done 4
  holds : transit.Holds deeds peerId
  sent : forall ackId (request : AckRequest ackId), deeds ackId = request.done 3 ->
    transit = .popped peerId request.callback
  course : forall ackId, exists (request : AckRequest ackId) (count : Nat),
    deeds ackId = request.done count

def told (ackId : DWORD) (deed : AckDeed) (deeds : DWORD -> List AckDeed) :
    DWORD -> List AckDeed :=
  fun other => if ackId = other then deed :: deeds other else deeds other

section File

variable {deeds : DWORD -> List AckDeed} {allocated : Nat} {peerId : UInt32}
  {peer peer' : Peer} {transit transit' : AckTransit} {ackId other : DWORD}
  {deed : AckDeed} {p : Proc} {addr : Nat}

@[simp] theorem told_same : told ackId deed deeds ackId = deed :: deeds ackId :=
  if_pos rfl

theorem told_other (h : ackId ≠ other) : told ackId deed deeds other = deeds other :=
  if_neg h

namespace AckFile

theorem unqueued (h : AckFile deeds allocated peerId peer transit)
    (hlength : (deeds ackId).length ≠ 2) {callback : SendCallback}
    (hcallback : callback ∈ peer.callbacks) : callback.ackId ≠ some ackId := by
  intro hasks
  rcases h.queued callback ackId hcallback hasks with ⟨request, _, hdone⟩
  rw [hdone, request.done_length] at hlength
  exact hlength rfl

theorem unpending (h : AckFile deeds allocated peerId peer transit)
    (hlength : (deeds ackId).length ≠ 4) : peer.pendingAcks[ackId]? = none := by
  cases hpending : peer.pendingAcks[ackId]? with
  | none => rfl
  | some ack =>
      rcases h.pending ackId ack hpending with ⟨request, _, hdone⟩
      rw [hdone, request.done_length] at hlength
      exact absurd rfl hlength

theorem pending_ne (h : AckFile deeds allocated peerId peer transit)
    (hlength : (deeds ackId).length ≠ 4) {ack : PendingAck}
    (hack : peer.pendingAcks[other]? = some ack) : ackId ≠ other := by
  rintro rfl
  cases (h.unpending hlength).symm.trans hack

theorem keep (h : AckFile deeds allocated peerId peer transit)
    (hcount : peer'.nextAckId = peer.nextAckId)
    (hsingle : (peer'.callbacks.filterMap SendCallback.ackId).Nodup)
    (hcallbacks : forall callback, callback.ackId ≠ none ->
      callback ∈ peer'.callbacks -> callback ∈ peer.callbacks)
    (hpending : forall (ackId : DWORD) (ack : PendingAck),
      peer'.pendingAcks[ackId]? = some ack -> peer.pendingAcks[ackId]? = some ack) :
    AckFile deeds allocated peerId peer' transit where
  counted := by rw [hcount, h.counted]
  unused := by
    rw [hcount]
    exact h.unused
  queued := by
    intro callback ackId hcallback hasks
    exact h.queued callback ackId (hcallbacks callback (by rw [hasks]; simp) hcallback) hasks
  single := hsingle
  pending := fun ackId ack hack => h.pending ackId ack (hpending ackId ack hack)
  holds := h.holds
  sent := h.sent
  course := h.course

theorem keep_same (h : AckFile deeds allocated peerId peer transit)
    (hcount : peer'.nextAckId = peer.nextAckId)
    (hqueue : peer'.callbacks = peer.callbacks)
    (hpending : forall (ackId : DWORD) (ack : PendingAck),
      peer'.pendingAcks[ackId]? = some ack -> peer.pendingAcks[ackId]? = some ack) :
    AckFile deeds allocated peerId peer' transit :=
  h.keep hcount (by rw [hqueue]; exact h.single)
    (fun callback _ hcallback => by rwa [hqueue] at hcallback) hpending

theorem keep_taken (h : AckFile deeds allocated peerId peer transit)
    {taken : SendCallback} (hcount : peer'.nextAckId = peer.nextAckId)
    (hqueue : peer.callbacks.Perm (taken :: peer'.callbacks))
    (hpending : peer'.pendingAcks = peer.pendingAcks) :
    AckFile deeds allocated peerId peer' transit := by
  refine h.keep hcount ?_ ?_ (fun _ _ hack => by rwa [hpending] at hack)
  · have hall := (hqueue.filterMap SendCallback.ackId).nodup_iff.mp h.single
    rw [List.filterMap_cons] at hall
    split at hall
    · exact hall
    · exact (List.nodup_cons.mp hall).2
  · intro callback _ hcallback
    exact hqueue.mem_iff.mpr (List.mem_cons_of_mem _ hcallback)

theorem advance (h : AckFile deeds allocated peerId peer transit)
    (request : AckRequest ackId) (count : Nat)
    (hwas : deeds ackId = request.done (count + 1))
    (hnow : deed :: request.done (count + 1) = request.done (count + 2))
    (hcount : peer'.nextAckId = peer.nextAckId)
    (hsingle : (peer'.callbacks.filterMap SendCallback.ackId).Nodup)
    (hqueue : forall callback, callback ∈ peer'.callbacks ->
      callback ∈ peer.callbacks ∧ callback.ackId ≠ some ackId ∨
        count = 0 ∧ callback = request.callback)
    (hpending : forall (other : DWORD) (ack : PendingAck),
      peer'.pendingAcks[other]? = some ack ->
        peer.pendingAcks[other]? = some ack ∧ ackId ≠ other ∨
          count = 2 ∧ ackId = other ∧ ack.callback = request.answer)
    (hholds : transit'.Holds (told ackId deed deeds) peerId)
    (hsent : count = 1 -> transit' = .popped peerId request.callback)
    (hothers : forall other (found : AckRequest other), ackId ≠ other ->
      transit ≠ .popped peerId found.callback) :
    AckFile (told ackId deed deeds) allocated peerId peer' transit' where
  counted := by rw [hcount, h.counted]
  unused := by
    intro other hother
    rw [hcount] at hother
    have hnone := h.unused other hother
    rw [told_other]
    · exact hnone
    · rintro rfl
      have hlength := congrArg List.length (hwas.symm.trans hnone)
      simp [AckRequest.done_length] at hlength
  queued := by
    intro callback other hcallback hasks
    rcases hqueue callback hcallback with ⟨hbefore, hother⟩ | ⟨hfirst, rfl⟩
    · rw [told_other (by rintro rfl; exact hother hasks)]
      exact h.queued callback other hbefore hasks
    · cases request.asks.symm.trans hasks
      subst hfirst
      exact ⟨request, rfl, by rw [told_same, hwas, hnow]⟩
  single := hsingle
  pending := by
    intro other ack hack
    rcases hpending other ack hack with ⟨hbefore, hother⟩ | ⟨hthird, rfl, hcallback⟩
    · rw [told_other hother]
      exact h.pending other ack hbefore
    · subst hthird
      exact ⟨request, hcallback.symm, by rw [told_same, hwas, hnow]⟩
  holds := hholds
  sent := by
    intro other found hdone
    by_cases hother : ackId = other
    · subst hother
      rw [told_same, hwas, hnow] at hdone
      rcases AckRequest.sent_inj hdone with ⟨hthird, hcallback⟩
      rw [← hcallback]
      exact hsent (by omega)
    · rw [told_other hother] at hdone
      exact absurd (h.sent other found hdone) (hothers other found hother)
  course := by
    intro other
    by_cases hother : ackId = other
    · subst hother
      exact ⟨request, count + 2, by rw [told_same, hwas, hnow]⟩
    · rw [told_other hother]
      exact h.course other

theorem allocate (h : AckFile deeds allocated peerId peer .idle)
    (hfew : allocated + 1 < 2 ^ 32 - 1) :
    AckFile (told peer.nextAckId .allocated deeds) (allocated + 1) peerId
      (PeerCommand.allocAckId.apply addr peer) (.taken peerId peer.nextAckId) := by
  have hnone : deeds peer.nextAckId = [] := h.unused _ UInt32.le_rfl
  have hcount : ((PeerCommand.allocAckId.apply addr peer).nextAckId).toNat =
      peer.nextAckId.toNat + 1 := by
    have hcounted := h.counted
    have hsum : (peer.nextAckId + 1).toNat = peer.nextAckId.toNat + 1 := by
      rw [UInt32.toNat_add]
      exact Nat.mod_eq_of_lt (by simp; omega)
    have hnext : peer.nextAckId + 1 ≠ 0 := by
      intro hzero
      rw [hzero] at hsum
      simp at hsum
    rw [PeerCommand.apply, if_neg hnext, hsum]
  have hother : forall other, deeds other ≠ [] -> peer.nextAckId ≠ other := by
    rintro other hdone rfl
    exact hdone hnone
  exact {
    counted := by rw [hcount, h.counted]
    unused := by
      intro other hless
      have hnext : peer.nextAckId.toNat + 1 ≤ other.toNat := by
        rw [← hcount]
        exact UInt32.le_iff_toNat_le.mp hless
      rw [told_other (by rintro rfl; omega)]
      exact h.unused other (UInt32.le_iff_toNat_le.mpr (by omega))
    queued := by
      intro callback other hcallback hasks
      rcases h.queued callback other hcallback hasks with ⟨request, hsame, hdone⟩
      rw [told_other (hother other (by rw [hdone]; exact List.cons_ne_nil _ _))]
      exact ⟨request, hsame, hdone⟩
    single := h.single
    pending := by
      intro other ack hack
      rcases h.pending other ack hack with ⟨request, hsame, hdone⟩
      rw [told_other (hother other (by rw [hdone]; exact List.cons_ne_nil _ _))]
      exact ⟨request, hsame, hdone⟩
    holds := fun _ => by rw [told_same, hnone]
    sent := by
      intro other found hdone
      by_cases hsame : peer.nextAckId = other
      · subst hsame
        rw [told_same, hnone] at hdone
        cases hdone
      · rw [told_other hsame] at hdone
        cases h.sent other found hdone
    course := by
      intro other
      by_cases hsame : peer.nextAckId = other
      · subst hsame
        exact ⟨.ofGroup _, 1, by rw [told_same, hnone]; rfl⟩
      · rw [told_other hsame]
        exact h.course other }

theorem request {packet : List UInt8} {callback : SendCallback}
    (h : AckFile deeds allocated peerId peer (.taken peerId ackId))
    (hcarries : CarriesAckId packet ackId) (hasks : callback.ackId = some ackId)
    (hcount : peer'.nextAckId = peer.nextAckId)
    (hqueue : peer'.callbacks.Perm (callback :: peer.callbacks))
    (hpending : peer'.pendingAcks = peer.pendingAcks) :
    AckFile (told ackId (.requested packet callback) deeds) allocated peerId peer'
      .idle := by
  have htaken : deeds ackId = [.allocated] := h.holds rfl
  have hanswer : exists answer, callback.answer = some answer := by
    cases callback with
    | requested | groupRequested => exact ⟨_, rfl⟩
    | _ => cases hasks
  rcases hanswer with ⟨answer, hanswer⟩
  have hfree : forall queued, queued ∈ peer.callbacks -> queued.ackId ≠ some ackId :=
    fun _ => h.unqueued (by rw [htaken]; decide)
  refine h.advance ⟨packet, callback, answer, hcarries, hasks, hanswer⟩ 0 htaken rfl
    hcount ?_ ?_ ?_ trivial (by simp) (by simp)
  · refine (hqueue.filterMap SendCallback.ackId).nodup_iff.mpr ?_
    rw [List.filterMap_cons, hasks]
    refine List.nodup_cons.mpr ⟨?_, h.single⟩
    intro hmem
    rcases List.mem_filterMap.mp hmem with ⟨queued, hqueued, hsame⟩
    exact hfree queued hqueued hsame
  · intro queued hqueued
    rcases List.mem_cons.mp (hqueue.mem_iff.mp hqueued) with rfl | hbefore
    · exact Or.inr ⟨rfl, rfl⟩
    · exact Or.inl ⟨hbefore, hfree queued hbefore⟩
  · intro other ack hack
    rw [hpending] at hack
    exact Or.inl ⟨hack, h.pending_ne (by rw [htaken]; decide) hack⟩

theorem pop {callback : SendCallback}
    (h : AckFile deeds allocated peerId peer .idle)
    (hasks : callback.ackId = some ackId) (hcount : peer'.nextAckId = peer.nextAckId)
    (hqueue : peer.callbacks.Perm (callback :: peer'.callbacks))
    (hpending : peer'.pendingAcks = peer.pendingAcks) :
    AckFile (told ackId (.sent callback) deeds) allocated peerId peer'
      (.popped peerId callback) := by
  rcases h.queued callback ackId (hqueue.mem_iff.mpr List.mem_cons_self) hasks with
    ⟨request, rfl, hdone⟩
  have hall := (hqueue.filterMap SendCallback.ackId).nodup_iff.mp h.single
  rw [List.filterMap_cons, hasks] at hall
  rcases List.nodup_cons.mp hall with ⟨hlast, hsingle⟩
  have hnow : AckDeed.sent request.callback :: request.done 2 = request.done 3 := rfl
  refine h.advance request 1 hdone hnow hcount hsingle ?_ ?_ ?_ (fun _ => rfl) (by simp)
  · intro queued hqueued
    refine Or.inl ⟨hqueue.mem_iff.mpr (List.mem_cons_of_mem _ hqueued), ?_⟩
    intro hsame
    exact hlast (List.mem_filterMap.mpr ⟨queued, hqueued, hsame⟩)
  · intro other ack hack
    rw [hpending] at hack
    exact Or.inl ⟨hack, h.pending_ne (by rw [hdone, request.done_length]; decide) hack⟩
  · intro _ other hother
    cases hasks.symm.trans hother
    exact ⟨request, rfl, by rw [told_same, hdone, hnow]⟩

theorem unregistered {callback : SendCallback}
    (h : AckFile deeds allocated peerId peer (.popped peerId callback))
    (hasks : callback.ackId = some ackId) : peer.pendingAcks[ackId]? = none := by
  rcases h.holds rfl ackId hasks with ⟨request, _, hdone⟩
  apply h.unpending
  rw [hdone, request.done_length]
  decide

theorem register {callback : SendCallback} {answer : AckCallback}
    (h : AckFile deeds allocated peerId peer (.popped peerId callback))
    (hasks : callback.ackId = some ackId) (hanswer : callback.answer = some answer) :
    AckFile (told ackId (.registered answer) deeds) allocated peerId
      ((PeerCommand.registerAck ackId answer).apply addr peer) .idle := by
  rcases h.holds rfl ackId hasks with ⟨request, rfl, hdone⟩
  cases request.answers.symm.trans hanswer
  have hnow : AckDeed.registered request.answer :: request.done 3 = request.done 4 := rfl
  refine h.advance request 2 hdone hnow rfl h.single ?_ ?_ trivial (by simp) ?_
  · intro queued hqueued
    exact Or.inl ⟨hqueued, h.unqueued (by rw [hdone, request.done_length]; decide) hqueued⟩
  · intro other ack hack
    rw [PeerCommand.apply, Std.ExtTreeMap.getElem?_insertIfNew] at hack
    split at hack
    · rename_i hnew
      cases hack
      exact Or.inr ⟨rfl, by simpa using hnew.1, rfl⟩
    · exact Or.inl ⟨hack, h.pending_ne (by rw [hdone, request.done_length]; decide) hack⟩
  · intro other found hother hsame
    have hcallback : request.callback = found.callback := by injection hsame
    exact hother (Option.some.inj (request.asks.symm.trans (hcallback ▸ found.asks)))

theorem erase {arrival : AckArrival} {ack : PendingAck}
    (h : AckFile deeds allocated peerId peer (.expecting arrival))
    (hpending : peer.pendingAcks[arrival.ackId]? = some ack)
    (hcallback : ack.callback = arrival.callback) :
    AckFile (told arrival.ackId (.erased ack.callback) deeds) allocated peerId
      ((PeerCommand.eraseAck arrival.ackId).apply addr peer) (.answering arrival) := by
  rcases h.pending arrival.ackId ack hpending with ⟨request, hanswer, hdone⟩
  have hnow : AckDeed.erased ack.callback :: request.done 4 = request.done 5 := by
    rw [← hanswer]
    rfl
  refine h.advance request 3 hdone hnow rfl h.single ?_ ?_ ?_ (by simp) (by simp)
  · intro queued hqueued
    exact Or.inl ⟨hqueued, h.unqueued (by rw [hdone, request.done_length]; decide) hqueued⟩
  · intro other found hfound
    rw [PeerCommand.apply, Std.ExtTreeMap.getElem?_erase] at hfound
    split at hfound
    · cases hfound
    · rename_i hother
      exact Or.inl ⟨hfound, by simpa using hother⟩
  · exact fun _ => ⟨request, hanswer.trans hcallback, by rw [told_same, hdone, hnow]⟩

theorem invoke {arrival : AckArrival}
    (h : AckFile deeds allocated peerId peer (.answering arrival))
    (hpeer : arrival.peerId = peerId) :
    AckFile (told arrival.ackId (.invoked arrival.callback) deeds) allocated peerId peer
      .idle := by
  rcases h.holds hpeer with ⟨request, hanswer, hdone⟩
  have hnow : AckDeed.invoked arrival.callback :: request.done 5 = request.done 6 := by
    rw [← hanswer]
    rfl
  refine h.advance request 4 hdone hnow rfl h.single ?_ ?_ trivial (by simp) (by simp)
  · intro queued hqueued
    exact Or.inl ⟨hqueued, h.unqueued (by rw [hdone, request.done_length]; decide) hqueued⟩
  · intro other ack hack
    exact Or.inl ⟨hack, h.pending_ne (by rw [hdone, request.done_length]; decide) hack⟩

theorem made {state : PeerState} {sock : Int} {ip : UInt32} {port : UInt16}
    {playerId : DPNID} : AckFile (fun _ => []) 0 peerId
      { Peer.new addr state sock ip port with playerId } .idle where
  counted := rfl
  unused := fun _ _ => rfl
  queued := by intro _ _ h; cases h
  single := List.nodup_nil
  pending := by
    intro ackId ack hack
    cases Std.ExtTreeMap.getElem?_empty.symm.trans hack
  holds := trivial
  sent := by intro _ _ h; cases h
  course := fun ackId => ⟨.ofGroup ackId, 0, rfl⟩

theorem told_eq : (fun other => (if ackId = other then some deed else none).toList ++
    deeds other) = told ackId deed deeds := by
  funext other
  unfold told
  split <;> rfl

theorem change_pop (h : AckFile deeds allocated peerId peer transit)
    (htransit : PeerCommand.popPending.transit p peerId peer transit = some transit') :
    AckFile (fun other => (PeerCommand.popPending.ackDeed p peer other).toList ++
      deeds other) allocated peerId (PeerCommand.popPending.apply addr peer)
      transit' := by
  cases hcurrent : peer.sq.current with
  | none =>
      have hsame : peer.sq.popPending = peer.sq := by
        rw [SendQueue.popPending, ← hcurrent]
      simp only [PeerCommand.transit, hcurrent, Option.some.injEq] at htransit
      subst htransit
      simp only [PeerCommand.ackDeed, hcurrent, Option.toList_none, List.nil_append]
      refine h.keep_same rfl ?_ (fun _ _ hack => hack)
      rw [Peer.callbacks, PeerCommand.apply, hsame]
      rfl
  | some op =>
      have hqueue : peer.callbacks.Perm
          (op.callback :: (PeerCommand.popPending.apply addr peer).callbacks) := by
        rw [Peer.callbacks, SendQueue.popPending_ops hcurrent]
        exact List.Perm.refl _
      simp only [PeerCommand.transit, hcurrent] at htransit
      simp only [PeerCommand.ackDeed, hcurrent]
      split at htransit
      · rename_i op' hop
        cases hop
        split at htransit
        · rename_i hnone
          cases htransit
          simp only [hnone, reduceCtorEq, if_false, Option.toList_none, List.nil_append]
          exact h.keep_taken rfl hqueue rfl
        · rename_i hasks
          split at htransit
          · rename_i hidle
            cases htransit
            subst hidle
            rcases Option.ne_none_iff_exists'.mp hasks with ⟨ackId, hackId⟩
            simp only [hackId, Option.some.injEq, told_eq]
            exact h.pop hackId rfl hqueue rfl
          · cases htransit
      · cases htransit
        simp only [Option.toList_none, List.nil_append]
        exact h.keep_taken rfl hqueue rfl

theorem change {change : PeerCommand} (h : AckFile deeds allocated peerId peer transit)
    (haddressed : (Command.peer peerId change).IsAddressed)
    (htransit : change.transit p peerId peer transit = some transit')
    (hfew : (if change = .allocAckId then allocated + 1 else allocated) < 2 ^ 32 - 1) :
    AckFile (fun other => (change.ackDeed p peer other).toList ++ deeds other)
      (if change = .allocAckId then allocated + 1 else allocated) peerId
      (change.apply addr peer) transit' := by
  cases change with
  | allocAckId =>
      simp only [PeerCommand.transit] at htransit
      split at htransit
      · rename_i hidle
        cases htransit
        subst hidle
        simp only [PeerCommand.ackDeed, told_eq]
        exact h.allocate hfew
      · cases htransit
  | send priority packet handle callback =>
      have hqueue : ((PeerCommand.send priority packet handle callback).apply addr
          peer).callbacks.Perm (callback :: peer.callbacks) :=
        (SendQueue.send_ops priority ⟨addr, packet, 0, none, handle, callback⟩
          peer.sq).map SendOp.callback
      simp only [PeerCommand.transit] at htransit
      split at htransit
      · rename_i hnone
        cases htransit
        simp only [PeerCommand.ackDeed, hnone]
        refine h.keep rfl ?_ ?_ (fun _ _ hack => hack)
        · refine (hqueue.filterMap SendCallback.ackId).nodup_iff.mpr ?_
          rw [List.filterMap_cons, hnone]
          exact h.single
        · intro queued hasks hqueued
          rcases List.mem_cons.mp (hqueue.mem_iff.mp hqueued) with rfl | hbefore
          · exact absurd hnone hasks
          · exact hbefore
      · rename_i ackId hasks
        split at htransit
        · rename_i htaken
          cases htransit
          subst htaken
          simp only [PeerCommand.ackDeed, hasks, Option.some.injEq, told_eq]
          exact h.request (haddressed.2 ackId hasks) hasks rfl hqueue rfl
        · cases htransit
  | popPending => exact h.change_pop htransit
  | registerAck ackId answer =>
      simp only [PeerCommand.transit] at htransit
      split at htransit
      · rename_i target callback
        split at htransit
        · rename_i hsent
          rcases hsent with ⟨rfl, hasks, hanswer⟩
          cases htransit
          simp only [PeerCommand.ackDeed, told_eq]
          exact h.register hasks hanswer
        · cases htransit
      · cases htransit
  | eraseAck ackId =>
      simp only [PeerCommand.transit] at htransit
      split at htransit
      · rename_i target pd arrival
        split at htransit
        · rename_i hexpected
          rcases hexpected with ⟨_, _, _, rfl, hpending⟩
          rcases Option.map_eq_some_iff.mp hpending with ⟨ack, hack, hcallback⟩
          cases htransit
          simp only [PeerCommand.ackDeed, hack, told_eq]
          exact h.erase hack hcallback
        · cases htransit
      · cases htransit
      · rename_i hother _
        cases htransit
        have hnone : forall other,
            (PeerCommand.eraseAck ackId).ackDeed p peer other = none := by
          intro other
          simp only [PeerCommand.ackDeed]
          split
          · exact (hother _ _ rfl).elim
          · rfl
        simp only [hnone, Option.toList_none, List.nil_append]
        refine h.keep_same rfl rfl ?_
        intro other ack hack
        rw [PeerCommand.apply, Std.ExtTreeMap.getElem?_erase] at hack
        split at hack
        · cases hack
        · exact hack
  | removeQueued wanted =>
      cases htransit
      rcases (PeerCommand.removeQueued wanted).callbacks_cases addr peer with
        ⟨_, _, _, _, hsend, _⟩ | ⟨⟨taken, hqueue⟩, _⟩ | ⟨hqueue, _⟩
      · cases hsend
      · exact h.keep_taken rfl hqueue rfl
      · exact h.keep_same rfl hqueue (fun _ _ hack => hack)
  | getPending =>
      cases htransit
      refine h.keep_same rfl ?_ (fun _ _ hack => hack)
      exact congrArg (List.map (·.callback)) (SendQueue.getPending_ops peer.sq)
  | incSentData sent =>
      cases htransit
      refine h.keep_same rfl ?_ (fun _ _ hack => hack)
      simp only [PeerCommand.apply, Peer.callbacks, SendQueue.ops, SendQueue.incSentData]
      cases peer.sq.current <;> rfl
  | _ =>
      cases htransit
      exact h.keep_same rfl rfl (fun _ _ hack => hack)

theorem change_other {change : PeerCommand} {target : UInt32} {found : Peer}
    (h : AckFile deeds allocated peerId peer transit) (hother : target ≠ peerId)
    (htransit : change.transit p target found transit = some transit') :
    AckFile deeds allocated peerId peer transit' := by
  suffices hboth : transit'.Holds deeds peerId ∧ forall callback,
      transit = .popped peerId callback -> transit' = .popped peerId callback from {
    counted := h.counted
    unused := h.unused
    queued := h.queued
    single := h.single
    pending := h.pending
    holds := hboth.1
    sent := fun ackId request hdone => hboth.2 _ (h.sent ackId request hdone)
    course := h.course }
  have hsame : transit' = transit -> transit'.Holds deeds peerId ∧ forall callback,
      transit = .popped peerId callback -> transit' = .popped peerId callback := by
    rintro rfl
    exact ⟨h.holds, fun _ hpopped => hpopped⟩
  cases change with
  | allocAckId =>
      simp only [PeerCommand.transit] at htransit
      split at htransit
      · rename_i hidle
        cases htransit
        subst hidle
        exact ⟨fun heq => absurd heq hother, by simp⟩
      · cases htransit
  | send priority packet handle callback =>
      simp only [PeerCommand.transit] at htransit
      split at htransit
      · exact hsame (Option.some.inj htransit).symm
      · split at htransit
        · rename_i htaken
          cases htransit
          subst htaken
          exact ⟨trivial, by simp⟩
        · cases htransit
  | popPending =>
      simp only [PeerCommand.transit] at htransit
      split at htransit
      · split at htransit
        · exact hsame (Option.some.inj htransit).symm
        · split at htransit
          · rename_i hidle
            cases htransit
            subst hidle
            exact ⟨fun heq => absurd heq hother, by simp⟩
          · cases htransit
      · exact hsame (Option.some.inj htransit).symm
  | registerAck ackId answer =>
      simp only [PeerCommand.transit] at htransit
      split at htransit
      · split at htransit
        · rename_i hsent
          rcases hsent with ⟨rfl, _⟩
          cases htransit
          refine ⟨trivial, ?_⟩
          intro callback hpopped
          cases hpopped
          exact absurd rfl hother
        · cases htransit
      · cases htransit
  | eraseAck ackId =>
      simp only [PeerCommand.transit] at htransit
      split at htransit
      · split at htransit
        · rename_i hexpected
          rcases hexpected with ⟨_, _, htarget, _⟩
          cases htransit
          exact ⟨fun heq => absurd (htarget.symm.trans heq) hother, by simp⟩
        · cases htransit
      · cases htransit
      · exact hsame (Option.some.inj htransit).symm
  | _ => exact hsame (Option.some.inj htransit).symm

end AckFile

end File

/-!
## Peers and their addresses
-/

theorem Command.nextAddr_le (command : Command) (s : DirectPlay8Peer) :
    s.nextAddr ≤ (command.apply s).nextAddr := by
  cases command with
  | peer peerId change =>
      simp only [apply, applyPeer]
      split
      · exact Nat.le_refl _
      · dsimp only
        split
        · exact Nat.le_succ _
        · exact Nat.le_refl _
  | insertPeer | newCompletion | udpSend => exact Nat.le_succ _
  | setSocket which sock => cases which <;> exact Nat.le_refl _
  | «local» change => cases change <;> exact Nat.le_refl _
  | session change => cases change <;> exact Nat.le_refl _
  | connect change => cases change <;> exact Nat.le_refl _
  | _ => exact Nat.le_refl _

/-- Every peer has an address of its own, which has been given. -/
structure DirectPlay8Peer.Addresses (s : DirectPlay8Peer) : Prop where
  given : forall (peerId : UInt32) (peer : Peer), s.peers[peerId]? = some peer ->
    peer.addr < s.nextAddr
  apart : forall (peerId other : UInt32) (peer found : Peer),
    s.peers[peerId]? = some peer -> s.peers[other]? = some found ->
      peer.addr = found.addr -> peerId = other

theorem DirectPlay8Peer.Addresses.apply {s : DirectPlay8Peer} (h : s.Addresses)
    (command : Command) : (command.apply s).Addresses where
  given := by
    intro peerId peer hpeer
    have hle := command.nextAddr_le s
    rcases Command.peer_cases hpeer with hsame | ⟨change, before, _, hwas, rfl⟩ |
      ⟨state, sock, ip, port, playerId, rfl, _, rfl⟩
    · exact Nat.lt_of_lt_of_le (h.given peerId peer hsame) hle
    · rw [PeerCommand.apply_addr]
      exact Nat.lt_of_lt_of_le (h.given peerId before hwas) hle
    · exact Nat.lt_succ_self _
  apart := by
    intro peerId other peer found hpeer hfound hsame
    have hold : forall (known : UInt32) (value : Peer),
        (command.apply s).peers[known]? = some value ->
        (exists before, s.peers[known]? = some before ∧ before.addr = value.addr) ∨
          value.addr = s.nextAddr ∧
            exists state sock ip port playerId,
              command = .insertPeer known state sock ip port playerId := by
      intro known value hvalue
      rcases Command.peer_cases hvalue with hkept | ⟨change, before, _, hwas, rfl⟩ |
        ⟨state, sock, ip, port, playerId, hinsert, _, rfl⟩
      · exact Or.inl ⟨value, hkept, rfl⟩
      · exact Or.inl ⟨before, hwas, PeerCommand.apply_addr.symm⟩
      · exact Or.inr ⟨rfl, state, sock, ip, port, playerId, hinsert⟩
    rcases hold peerId peer hpeer with ⟨before, hwas, haddr⟩ | ⟨hnew, made⟩
    · rcases hold other found hfound with ⟨before', hwas', haddr'⟩ | ⟨hnew', _⟩
      · exact h.apart peerId other before before' hwas hwas'
          (haddr.trans (hsame.trans haddr'.symm))
      · have hlt := h.given peerId before hwas
        omega
    · rcases hold other found hfound with ⟨before', hwas', haddr'⟩ | ⟨_, made'⟩
      · have hlt := h.given other before' hwas'
        omega
      · rcases made with ⟨_, _, _, _, _, rfl⟩
        rcases made' with ⟨_, _, _, _, _, hinsert⟩
        cases hinsert
        rfl

theorem addresses_always {past : Deeds} {c : Run}
    (h : Traced machine DirectPlay8Peer.Constructed past c) : c.state.Addresses := by
  refine Traced.always (I := fun s _ => s.Addresses) ?_ ?_ ?_ h
  · intro s hs
    constructor <;> simp [hs.peers]
  · exact fun _ _ _ _ command _ _ hstate => hstate.apply command
  · exact fun _ _ _ _ hstate => hstate

/-!
## Runs
-/

structure AckLinks (addr : Nat) (s : DirectPlay8Peer) (past : Deeds)
    (transit : AckTransit) : Prop where
  fresh : s.nextAddr ≤ addr -> (forall ackId, ackDeeds addr ackId past = []) ∧
    ackAllocations addr past = 0
  file : forall (peerId : UInt32) (peer : Peer), s.peers[peerId]? = some peer ->
    peer.addr = addr -> AckFile (fun ackId => ackDeeds addr ackId past)
      (ackAllocations addr past) peerId peer transit
  course : forall ackId, exists (request : AckRequest ackId) (count : Nat),
    ackDeeds addr ackId past = request.done count
  sent : forall ackId (request : AckRequest ackId),
    ackDeeds addr ackId past = request.done 3 ->
      exists (peerId : UInt32) (peer : Peer), s.peers[peerId]? = some peer ∧
        peer.addr = addr ∧ transit = .popped peerId request.callback

section Links

variable {addr : Nat} {s : DirectPlay8Peer} {past : Deeds} {transit transit' : AckTransit}
  {ackId : DWORD} {label : StepLabel} {p : Proc} {command : Command}

theorem ackDeeds_cons : ackDeeds addr ackId ((s, label) :: past) =
    (ackDeed addr ackId s label).toList ++ ackDeeds addr ackId past := by
  rw [ackDeeds, List.filterMap_cons]
  cases ackDeed addr ackId s label <;> rfl

theorem ackAllocations_cons : ackAllocations addr ((s, label) :: past) =
    if allocatesAckId addr s label then ackAllocations addr past + 1
    else ackAllocations addr past := by
  rw [ackAllocations, List.countP_cons]
  split <;> rfl

theorem ackDeed_call {callee : Proc} (h : forall peerId pd answer result data,
    p = .handleAck peerId pd -> callee ≠ .invokeAck answer result data) :
    ackDeed addr ackId s (.call p callee) = none := by
  unfold ackDeed
  split
  · rename_i heq
    cases heq
  · rename_i heq
    cases heq
    exact absurd rfl (h _ _ _ _ _ rfl)
  · rfl

theorem deeds_quiet (past : Deeds) (hdeed : forall ackId, ackDeed addr ackId s label = none)
    (halloc : allocatesAckId addr s label = false) :
    (forall ackId, ackDeeds addr ackId ((s, label) :: past) = ackDeeds addr ackId past) ∧
      ackAllocations addr ((s, label) :: past) = ackAllocations addr past := by
  constructor
  · intro ackId
    rw [ackDeeds_cons, hdeed ackId]
    rfl
  · rw [ackAllocations_cons, halloc]
    rfl

theorem Event.transit_same {event : Event}
    (h : event.transit p s transit = some transit') : transit' = transit := by
  cases event with
  | assertionFailed assertion =>
      simp only [Event.transit] at h
      split at h
      · split at h
        · split at h
          · exact (Option.some.inj h).symm
          · cases h
        · cases h
      · cases h
      · split at h
        · exact (Option.some.inj h).symm
        · cases h
      · cases h
      · cases h
      · exact (Option.some.inj h).symm
  | ackResolved ack =>
      simp only [Event.transit] at h
      split at h
      · split at h
        · exact (Option.some.inj h).symm
        · cases h
      · cases h
      · exact (Option.some.inj h).symm
  | _ => exact (Option.some.inj h).symm

namespace AckLinks

theorem quiet {s' : DirectPlay8Peer} (h : AckLinks addr s past transit)
    (hdeed : forall ackId, ackDeed addr ackId s label = none)
    (halloc : allocatesAckId addr s label = false)
    (hpeers : s'.peers = s.peers) (haddr : s.nextAddr ≤ s'.nextAddr) :
    AckLinks addr s' ((s, label) :: past) transit := by
  rcases deeds_quiet past hdeed halloc with ⟨hdeeds, hcount⟩
  constructor
  · intro hfresh
    rw [hcount]
    simp only [hdeeds]
    exact h.fresh (Nat.le_trans haddr hfresh)
  · rw [hpeers, hcount]
    simp only [hdeeds]
    exact h.file
  · simp only [hdeeds]
    exact h.course
  · rw [hpeers]
    simp only [hdeeds]
    exact h.sent

theorem turn (h : AckLinks addr s past transit)
    (hsent : forall peerId callback, transit ≠ .popped peerId callback)
    (hholds : forall deeds peerId, transit'.Holds deeds peerId) :
    AckLinks addr s past transit' where
  fresh := h.fresh
  file := by
    intro peerId peer hpeer haddr
    have hfile := h.file peerId peer hpeer haddr
    exact {
      counted := hfile.counted
      unused := hfile.unused
      queued := hfile.queued
      single := hfile.single
      pending := hfile.pending
      holds := hholds _ _
      sent := fun ackId request hdone =>
        absurd (hfile.sent ackId request hdone) (hsent _ _)
      course := hfile.course }
  course := h.course
  sent := by
    intro ackId request hdone
    rcases h.sent ackId request hdone with ⟨_, _, _, _, hpopped⟩
    exact absurd hpopped (hsent _ _)

theorem change_here {change : PeerCommand} {peerId : UInt32} {peer : Peer}
    (h : AckLinks addr s past transit) (hstate : s.Addresses)
    (hpeer : s.peers[peerId]? = some peer) (haddr : peer.addr = addr)
    (haddressed : (Command.peer peerId change).IsAddressed)
    (htransit : change.transit p peerId peer transit = some transit')
    (hfew : ackAllocations addr ((s, .exec p (.peer peerId change)) :: past) <
      2 ^ 32 - 1) :
    AckLinks addr ((Command.peer peerId change).apply s)
      ((s, .exec p (.peer peerId change)) :: past) transit' := by
  have hdeeds : forall ackId,
      ackDeeds addr ackId ((s, .exec p (.peer peerId change)) :: past) =
        (change.ackDeed p peer ackId).toList ++ ackDeeds addr ackId past := by
    intro ackId
    rw [ackDeeds_cons, ackDeed, hpeer, Option.bind_some, if_pos haddr]
  have hcount : ackAllocations addr ((s, .exec p (.peer peerId change)) :: past) =
      if change = .allocAckId then ackAllocations addr past + 1
      else ackAllocations addr past := by
    have halloc : allocatesAckId addr s (.exec p (.peer peerId change)) =
        decide (change = .allocAckId) := by
      cases change with
      | allocAckId => simp [allocatesAckId, hpeer, haddr]
      | _ => rfl
    rw [ackAllocations_cons, halloc]
    simp only [decide_eq_true_eq]
  rw [hcount] at hfew
  have hfile : AckFile _ _ peerId (change.apply s.nextAddr peer) transit' :=
    (h.file peerId peer hpeer haddr).change haddressed htransit hfew
  have hafter := DirectPlay8Peer.peer_changed change hpeer
  constructor
  · intro hfresh
    have hle := (Command.peer peerId change).nextAddr_le s
    have hlt := hstate.given peerId peer hpeer
    omega
  · intro known value hvalue hvalueAddr
    rw [hcount]
    simp only [hdeeds]
    by_cases hknown : known = peerId
    · subst hknown
      cases hafter.symm.trans hvalue
      exact hfile
    · rw [DirectPlay8Peer.peer_unchanged hknown] at hvalue
      exact absurd (hstate.apart known peerId value peer hvalue hpeer
        (hvalueAddr.trans haddr.symm)) hknown
  · simp only [hdeeds]
    exact hfile.course
  · intro ackId request hdone
    rw [hdeeds] at hdone
    exact ⟨peerId, _, hafter, PeerCommand.apply_addr.trans haddr,
      hfile.sent ackId request hdone⟩

theorem change_there {change : PeerCommand} {peerId : UInt32} {peer : Peer}
    (h : AckLinks addr s past transit)
    (hpeer : s.peers[peerId]? = some peer) (haddr : peer.addr ≠ addr)
    (htransit : change.transit p peerId peer transit = some transit') :
    AckLinks addr ((Command.peer peerId change).apply s)
      ((s, .exec p (.peer peerId change)) :: past) transit' := by
  have hdeed : forall ackId,
      ackDeed addr ackId s (.exec p (.peer peerId change)) = none := by
    intro ackId
    rw [ackDeed, hpeer, Option.bind_some, if_neg haddr]
  have halloc : allocatesAckId addr s (.exec p (.peer peerId change)) = false := by
    cases change with
    | allocAckId => simp [allocatesAckId, hpeer, haddr]
    | _ => rfl
  rcases deeds_quiet past hdeed halloc with ⟨hdeeds, hcount⟩
  have hafter := DirectPlay8Peer.peer_changed change hpeer
  constructor
  · intro hfresh
    rw [hcount]
    simp only [hdeeds]
    exact h.fresh (Nat.le_trans ((Command.peer peerId change).nextAddr_le s) hfresh)
  · intro known value hvalue hvalueAddr
    rw [hcount]
    simp only [hdeeds]
    by_cases hknown : known = peerId
    · subst hknown
      cases hafter.symm.trans hvalue
      exact absurd (PeerCommand.apply_addr.symm.trans hvalueAddr) haddr
    · rw [DirectPlay8Peer.peer_unchanged hknown] at hvalue
      exact (h.file known value hvalue hvalueAddr).change_other (Ne.symm hknown) htransit
  · simp only [hdeeds]
    exact h.course
  · intro ackId request hdone
    rw [hdeeds] at hdone
    rcases h.sent ackId request hdone with ⟨known, value, hvalue, hvalueAddr, _⟩
    have hknown : known ≠ peerId := by
      rintro rfl
      cases hpeer.symm.trans hvalue
      exact haddr hvalueAddr
    have hfile := (h.file known value hvalue hvalueAddr).change_other
      (Ne.symm hknown) htransit
    refine ⟨known, value, ?_, hvalueAddr, hfile.sent ackId request hdone⟩
    rw [DirectPlay8Peer.peer_unchanged hknown]
    exact hvalue

theorem census (h : AckLinks addr s past .idle)
    (hcommand : (exists peerId state sock ip port playerId,
      command = .insertPeer peerId state sock ip port playerId) ∨
      exists peerId, command = .erasePeer peerId) :
    AckLinks addr (command.apply s) ((s, .exec p command) :: past) .idle := by
  have hquiet : (forall ackId, ackDeed addr ackId s (.exec p command) = none) ∧
      allocatesAckId addr s (.exec p command) = false := by
    rcases hcommand with ⟨_, _, _, _, _, _, rfl⟩ | ⟨_, rfl⟩
    · exact ⟨fun _ => rfl, rfl⟩
    · exact ⟨fun _ => rfl, rfl⟩
  rcases deeds_quiet past hquiet.1 hquiet.2 with ⟨hdeeds, hcount⟩
  constructor
  · intro hfresh
    rw [hcount]
    simp only [hdeeds]
    exact h.fresh (Nat.le_trans (command.nextAddr_le s) hfresh)
  · intro known value hvalue hvalueAddr
    rw [hcount]
    simp only [hdeeds]
    rcases Command.peer_cases hvalue with hsame | ⟨change, before, hchange, _⟩ |
      ⟨state, sock, ip, port, playerId, _, _, rfl⟩
    · exact h.file known value hsame hvalueAddr
    · rw [hchange] at hcommand
      rcases hcommand with ⟨_, _, _, _, _, _, heq⟩ | ⟨_, heq⟩
      · cases heq
      · cases heq
    · rcases h.fresh (Nat.le_of_eq hvalueAddr) with ⟨hnone, hzero⟩
      simp only [hnone, hzero]
      exact AckFile.made
  · simp only [hdeeds]
    exact h.course
  · intro ackId request hdone
    rw [hdeeds] at hdone
    rcases h.sent ackId request hdone with ⟨_, _, _, _, hidle⟩
    cases hidle

theorem exec (h : AckLinks addr s past transit) (hstate : s.Addresses)
    (haddressed : command.IsAddressed)
    (hobserve : ackObserver.observe p command s transit = some transit')
    (hfew : ackAllocations addr ((s, .exec p command) :: past) < 2 ^ 32 - 1) :
    AckLinks addr (command.apply s) ((s, .exec p command) :: past) transit' := by
  have hother : (forall peerId change, command ≠ .peer peerId change) ->
      (forall peerId state sock ip port playerId,
        command ≠ .insertPeer peerId state sock ip port playerId) ->
      (forall peerId, command ≠ .erasePeer peerId) ->
      AckLinks addr (command.apply s) ((s, .exec p command) :: past) transit := by
    intro hpeer hinsert herase
    have hpeers : (command.apply s).peers = s.peers := by
      rcases command.apply_peers s with ⟨peerId, change, heq⟩ |
        ⟨_, _, _, _, _, _, heq⟩ | ⟨peerId, heq⟩ | hsame
      · exact absurd heq (hpeer peerId change)
      · exact absurd heq (hinsert _ _ _ _ _ _)
      · exact absurd heq (herase peerId)
      · exact hsame
    have hdeed : forall ackId, ackDeed addr ackId s (.exec p command) = none := by
      intro ackId
      cases command with
      | peer peerId change => exact absurd rfl (hpeer peerId change)
      | _ => rfl
    have halloc : allocatesAckId addr s (.exec p command) = false := by
      cases command with
      | peer peerId change => exact absurd rfl (hpeer peerId change)
      | _ => rfl
    exact h.quiet hdeed halloc hpeers (command.nextAddr_le s)
  cases command with
  | peer peerId change =>
      simp only [ackObserver] at hobserve
      split at hobserve
      · rename_i peer hpeer
        by_cases haddr : peer.addr = addr
        · exact h.change_here hstate hpeer haddr haddressed hobserve hfew
        · exact h.change_there hpeer haddr hobserve
      · rename_i hgone
        have hsame : transit' = transit := by
          split at hobserve
          · cases hobserve
          · exact (Option.some.inj hobserve).symm
        have hstays : (Command.peer peerId change).apply s = s := by
          simp only [Command.apply, Command.applyPeer, hgone]
        rw [hsame, hstays]
        refine h.quiet ?_ ?_ rfl (Nat.le_refl _)
        · intro ackId
          rw [ackDeed, hgone]
          rfl
        · cases change with
          | allocAckId => simp [allocatesAckId, hgone]
          | _ => rfl
  | insertPeer peerId state sock ip port playerId =>
      simp only [ackObserver] at hobserve
      split at hobserve
      · rename_i hidle
        cases hobserve
        subst hidle
        exact h.census (Or.inl ⟨_, _, _, _, _, _, rfl⟩)
      · cases hobserve
  | erasePeer peerId =>
      simp only [ackObserver] at hobserve
      split at hobserve
      · rename_i hidle
        cases hobserve
        subst hidle
        exact h.census (Or.inr ⟨_, rfl⟩)
      · cases hobserve
  | log event =>
      rw [Event.transit_same hobserve]
      exact hother (by simp) (by simp) (by simp)
  | _ =>
      rw [← Option.some.inj hobserve]
      exact hother (by simp) (by simp) (by simp)

theorem answer {arrival : AckArrival} {pd : PacketDeserialiser}
    (h : AckLinks addr s past (.answering arrival)) (hstate : s.Addresses)
    (hack : pd.ack = .ok (arrival.ackId, arrival.result, arrival.data)) :
    AckLinks addr s ((s, .call (.handleAck arrival.peerId pd)
      (.invokeAck arrival.callback arrival.result arrival.data)) :: past) .idle := by
  by_cases hhere : exists peer, s.peers[arrival.peerId]? = some peer ∧ peer.addr = addr
  · rcases hhere with ⟨peer, hpeer, haddr⟩
    have hdeeds : forall ackId, ackDeeds addr ackId ((s, .call (.handleAck arrival.peerId pd)
        (.invokeAck arrival.callback arrival.result arrival.data)) :: past) =
        told arrival.ackId (.invoked arrival.callback)
          (fun ackId => ackDeeds addr ackId past) ackId := by
      intro ackId
      rw [ackDeeds_cons, ackDeed, hpeer, Option.bind_some, hack, ← AckFile.told_eq]
      simp [haddr]
    have hcount : ackAllocations addr ((s, .call (.handleAck arrival.peerId pd)
        (.invokeAck arrival.callback arrival.result arrival.data)) :: past) =
        ackAllocations addr past := by
      rw [ackAllocations_cons]
      rfl
    have hfile := (h.file arrival.peerId peer hpeer haddr).invoke rfl
    constructor
    · intro hfresh
      have hlt := hstate.given arrival.peerId peer hpeer
      omega
    · intro known value hvalue hvalueAddr
      cases hstate.apart known arrival.peerId value peer hvalue hpeer
        (hvalueAddr.trans haddr.symm)
      cases hpeer.symm.trans hvalue
      rw [hcount]
      simp only [hdeeds]
      exact hfile
    · simp only [hdeeds]
      exact hfile.course
    · intro ackId request hdone
      rw [hdeeds] at hdone
      cases hfile.sent ackId request hdone
  · have hidle : AckLinks addr s past .idle := h.turn (by simp) fun _ _ => trivial
    refine hidle.quiet ?_ rfl rfl (Nat.le_refl _)
    intro ackId
    rw [ackDeed]
    cases hpeer : s.peers[arrival.peerId]? with
    | none => rfl
    | some peer =>
        rw [Option.bind_some, if_neg]
        intro hboth
        exact hhere ⟨peer, hpeer, hboth.1⟩

theorem call {callee : Proc} (h : AckLinks addr s past transit) (hstate : s.Addresses)
    (hhand : ackObserver.hand p callee s transit = some transit') :
    AckLinks addr s ((s, .call p callee) :: past) transit' := by
  simp only [ackObserver] at hhand
  split at hhand
  · split at hhand
    · cases hhand
      exact h.quiet (fun _ => rfl) rfl rfl (Nat.le_refl _)
    · cases hhand
  · split at hhand
    · rename_i arrival
      split at hhand
      · rename_i hanswer
        rcases hanswer with ⟨rfl, hack, rfl, rfl, rfl⟩
        cases hhand
        exact h.answer hstate hack
      · cases hhand
    · cases hhand
  · cases hhand
  · split at hhand
    · rename_i hidle
      cases hhand
      subst hidle
      have hexpects : forall target pd, AckLinks addr s past (s.expected target pd) := by
        intro target pd
        refine h.turn (by simp) ?_
        intro deeds peerId
        unfold DirectPlay8Peer.expected
        split
        · trivial
        · trivial
      exact (hexpects _ _).quiet (fun _ => ackDeed_call (by simp)) rfl rfl (Nat.le_refl _)
    · cases hhand
  · rename_i hother
    cases hhand
    refine h.quiet (fun _ => ackDeed_call ?_) rfl rfl (Nat.le_refl _)
    rintro peerId pd answer result data rfl rfl
    exact hother peerId pd answer result data rfl rfl

theorem initial (h : s.Constructed) : AckLinks addr s [] .idle where
  fresh := fun _ => ⟨fun _ => rfl, rfl⟩
  file := by
    intro peerId peer hpeer
    simp [h.peers] at hpeer
  course := fun ackId => ⟨.ofGroup ackId, 0, rfl⟩
  sent := by intro _ _ h; cases h

end AckLinks

theorem ackAllocations_le (addr : Nat) (behind past : Deeds) :
    ackAllocations addr past ≤ ackAllocations addr (behind ++ past) := by
  rw [ackAllocations, ackAllocations, List.countP_append]
  exact Nat.le_add_left _ _

theorem links_always {c : Run} (h : Traced machine DirectPlay8Peer.Constructed past c)
    (hmet : ackObserver.Met past) (hfew : ackAllocations addr past < 2 ^ 32 - 1) :
    exists transit, ackObserver.seen past = some transit ∧
      AckLinks addr c.state past transit := by
  induction h with
  | @initial s hs => exact ⟨.idle, rfl, .initial hs⟩
  | @step past c c' label htraced hstep ih =>
      have hbefore : ackObserver.Met past := fun s p callee hmem =>
        hmet s p callee (List.mem_cons_of_mem _ hmem)
      have hless : ackAllocations addr past < 2 ^ 32 - 1 :=
        Nat.lt_of_le_of_lt (ackAllocations_le addr [(c.state, label)] past) hfew
      rcases ih hbefore hless with ⟨transit, hseen, hlinks⟩
      rcases Observer.traced_seen acks_followed acks_initial (htraced.step hstep) hmet with
        ⟨transit', hseen', _⟩
      have hlook : ackObserver.look c.state label transit = some transit' := by
        rw [Observer.seen, hseen, Option.bind_some] at hseen'
        exact hseen'
      refine ⟨transit', hseen', ?_⟩
      have hstate := addresses_always htraced
      rcases hstep.state_cases with ⟨p, command, rfl, hafter⟩ | ⟨hlabel, hafter⟩
      · rw [hafter]
        exact hlinks.exec hstate (htraced.reaches.exec_uses body_addressing hstep) hlook hfew
      · rw [hafter]
        cases label with
        | exec p command => exact absurd rfl (hlabel p command)
        | call p callee => exact hlinks.call hstate hlook
        | _ =>
            cases hlook
            exact hlinks.quiet (fun _ => rfl) rfl rfl (Nat.le_refl _)

/-!
## From the ack to its callback
-/

/-- The observer has seen the callback of an ack that came being called. -/
def Answered (arrival : AckArrival) (behind : Deeds) : Prop :=
  exists s pd, pd.Brings arrival ∧
    (s, .call (.handleAck arrival.peerId pd)
      (.invokeAck arrival.callback arrival.result arrival.data)) ∈ behind

theorem transit_expecting {change : PeerCommand} {peerId : UInt32} {peer : Peer}
    {arrival : AckArrival}
    (h : change.transit p peerId peer (.expecting arrival) = some transit) :
    transit = .expecting arrival ∨ transit = .answering arrival := by
  cases change with
  | allocAckId => cases h
  | registerAck => cases h
  | send priority packet handle callback =>
      simp only [PeerCommand.transit, reduceCtorEq, if_false] at h
      split at h
      · exact Or.inl (Option.some.inj h).symm
      · cases h
  | popPending =>
      simp only [PeerCommand.transit, reduceCtorEq, if_false] at h
      split at h
      · split at h
        · exact Or.inl (Option.some.inj h).symm
        · cases h
      · exact Or.inl (Option.some.inj h).symm
  | eraseAck ackId =>
      simp only [PeerCommand.transit] at h
      split at h
      · rename_i hsame
        cases hsame
        split at h
        · exact Or.inr (Option.some.inj h).symm
        · cases h
      · rename_i hother
        exact absurd rfl (hother arrival)
      · exact Or.inl (Option.some.inj h).symm
  | _ => exact Or.inl (Option.some.inj h).symm

theorem transit_answering {change : PeerCommand} {peerId : UInt32} {peer : Peer}
    {arrival : AckArrival}
    (h : change.transit p peerId peer (.answering arrival) = some transit) :
    transit = .answering arrival := by
  cases change with
  | allocAckId => cases h
  | registerAck => cases h
  | send priority packet handle callback =>
      simp only [PeerCommand.transit, reduceCtorEq, if_false] at h
      split at h
      · exact (Option.some.inj h).symm
      · cases h
  | popPending =>
      simp only [PeerCommand.transit, reduceCtorEq, if_false] at h
      split at h
      · split at h
        · exact (Option.some.inj h).symm
        · cases h
      · exact (Option.some.inj h).symm
  | eraseAck ackId =>
      simp only [PeerCommand.transit] at h
      split at h
      · rename_i hsame
        cases hsame
      · cases h
      · exact (Option.some.inj h).symm
  | _ => exact (Option.some.inj h).symm

theorem look_expecting {arrival : AckArrival}
    (h : ackObserver.look s label (.expecting arrival) = some transit) :
    transit = .expecting arrival ∨ transit = .answering arrival := by
  cases label with
  | exec p command =>
      cases command with
      | peer peerId change =>
          simp only [Observer.look, ackObserver] at h
          split at h
          · exact transit_expecting h
          · split at h
            · cases h
            · exact Or.inl (Option.some.inj h).symm
      | insertPeer => cases h
      | erasePeer => cases h
      | log event => exact Or.inl (Event.transit_same h)
      | _ => exact Or.inl (Option.some.inj h).symm
  | call p callee =>
      simp only [Observer.look, ackObserver, reduceCtorEq, or_false, if_false] at h
      split at h
      · split at h
        · exact Or.inl (Option.some.inj h).symm
        · cases h
      · cases h
      · cases h
      · cases h
      · exact Or.inl (Option.some.inj h).symm
  | _ => exact Or.inl (Option.some.inj h).symm

theorem look_answering {arrival : AckArrival}
    (h : ackObserver.look s label (.answering arrival) = some transit) :
    transit = .answering arrival ∨ exists pd, pd.Brings arrival ∧
      label = .call (.handleAck arrival.peerId pd)
        (.invokeAck arrival.callback arrival.result arrival.data) := by
  cases label with
  | exec p command =>
      cases command with
      | peer peerId change =>
          simp only [Observer.look, ackObserver] at h
          split at h
          · exact Or.inl (transit_answering h)
          · split at h
            · cases h
            · exact Or.inl (Option.some.inj h).symm
      | insertPeer => cases h
      | erasePeer => cases h
      | log event => exact Or.inl (Event.transit_same h)
      | _ => exact Or.inl (Option.some.inj h).symm
  | call p callee =>
      simp only [Observer.look, ackObserver, reduceCtorEq, or_false, if_false] at h
      split at h
      · split at h
        · exact Or.inl (Option.some.inj h).symm
        · cases h
      · split at h
        · rename_i hanswer
          rcases hanswer with ⟨rfl, hbrings, rfl, rfl, rfl⟩
          exact Or.inr ⟨_, hbrings, rfl⟩
        · cases h
      · cases h
      · cases h
      · exact Or.inl (Option.some.inj h).symm
  | _ => exact Or.inl (Option.some.inj h).symm

theorem seen_answered {arrival : AckArrival} {behind : Deeds}
    (hexpecting : ackObserver.seen past = some (.expecting arrival))
    (h : ackObserver.seen (behind ++ past) = some transit) :
    transit = .expecting arrival ∨ transit = .answering arrival ∨
      Answered arrival behind := by
  induction behind generalizing transit with
  | nil => exact Or.inl (Option.some.inj (h.symm.trans hexpecting))
  | cons deed behind ih =>
      rcases deed with ⟨s, label⟩
      rcases Option.bind_eq_some_iff.mp h with ⟨before, hbefore, hlook⟩
      rcases ih hbefore with rfl | rfl | ⟨s', pd, hbrings, hmem⟩
      · rcases look_expecting hlook with hsame | hanswering
        · exact Or.inl hsame
        · exact Or.inr (Or.inl hanswering)
      · rcases look_answering hlook with hsame | ⟨pd, hbrings, rfl⟩
        · exact Or.inr (Or.inl hsame)
        · exact Or.inr (Or.inr ⟨s, pd, hbrings, List.mem_cons_self⟩)
      · exact Or.inr (Or.inr ⟨s', pd, hbrings, List.mem_cons_of_mem _ hmem⟩)

end Links

/-!
## Every answer finds its request
-/

/--
While the callback of a request for a group ID is called, the ID of the host still leads
to the peer the request has been sent to.
-/
def HostLeads (past : Deeds) : Prop :=
  forall s peerId hostId ackId request result,
    (s, .call (.ioPeerSend peerId)
      (.invokeCallback (.groupRequested hostId ackId request) result)) ∈ past ->
    s.playerToPeerId[hostId]? = some peerId

theorem HostLeads.met {past : Deeds} (h : HostLeads past) : ackObserver.Met past := by
  intro s p callee hmem
  simp only [ackObserver]
  split
  · exact h _ _ _ _ _ _ hmem
  · trivial

/-- The acks of a peer answer the requests that carried their IDs. -/
structure AcksAnswered (addr : Nat) (past : Deeds) (c : Run) : Prop where
  /-- All that is done about an ID is done for one request, in order and once. -/
  course : forall ackId, exists request : AckRequest ackId,
    (ackDeeds addr ackId past).reverse <+: request.course
  /-- Whatever has been sent is registered when an ack comes. -/
  inTime : forall behind before s p peerId pd,
    past = behind ++ (s, .call p (.handleAck peerId pd)) :: before ->
      forall ackId callback, (ackDeeds addr ackId before).head? ≠ some (.sent callback)
  /-- An ack with a pending ID is handed to the callback the ID is registered with. -/
  answered : forall behind before s p peerId pd peer ackId result data ack,
    past = behind ++ (s, .call p (.handleAck peerId pd)) :: before ->
    s.peers[peerId]? = some peer -> peer.addr = addr ->
    pd.ack = .ok (ackId, result, data) -> peer.pendingAcks[ackId]? = some ack ->
      (ackDeeds addr ackId before).head? = some (.registered ack.callback) ∧
        (c.Free -> Answered ⟨peerId, ackId, ack.callback, result, data⟩ behind)
  /-- No ack changes anything else. -/
  changes : forall behind before s peerId pd peer command,
    past = behind ++ (s, .exec (.handleAck peerId pd) command) :: before ->
    s.peers[peerId]? = some peer -> peer.addr = addr ->
      exists ackId result data answer, pd.ack = .ok (ackId, result, data) ∧
        (command = .peer peerId (.eraseAck ackId) ∧
            (ackDeeds addr ackId before).head? = some (.registered answer) ∨
          (exists ack, command = .log (.ackResolved ack)) ∧
            (ackDeeds addr ackId before).head? = some (.erased answer))
  /-- No ack calls anything else. -/
  calls : forall behind before s peerId pd peer callee,
    past = behind ++ (s, .call (.handleAck peerId pd) callee) :: before ->
    s.peers[peerId]? = some peer -> peer.addr = addr ->
      exists ackId result data answer, pd.ack = .ok (ackId, result, data) ∧
        callee = .invokeAck answer result data ∧
        (ackDeeds addr ackId before).head? = some (.erased answer)
  /-- The assertion in `register_ack` holds on the peer. -/
  registers : forall s p, (s, .exec p (.log (.assertionFailed .registerAck))) ∈ past ->
    exists callback result peerId peer, p = .invokeCallback callback result ∧
      callback.registersWith s = some peerId ∧ s.peers[peerId]? = some peer ∧
      peer.addr ≠ addr
  /-- The assertions in the callbacks of requests hold. -/
  notNull : forall s callback result,
    (s, .exec (.invokeCallback callback result)
      (.log (.assertionFailed .peerNotNull))) ∉ past

section Answers

variable {addr : Nat} {past : Deeds} {c : Run} {ackId : DWORD}

theorem links_before {behind before : Deeds} {s : DirectPlay8Peer} {label : StepLabel}
    (h : Traced machine DirectPlay8Peer.Constructed past c)
    (hhost : HostLeads past) (hfew : ackAllocations addr past < 2 ^ 32 - 1)
    (hpast : past = behind ++ (s, label) :: before) :
    exists transit transit', ackObserver.seen before = some transit ∧
      ackObserver.look s label transit = some transit' ∧
      AckLinks addr s before transit := by
  subst hpast
  rcases h.before with ⟨c₀, c₁, hbefore, rfl, hstep⟩
  have hmet := hhost.met
  have hless : ackAllocations addr before < 2 ^ 32 - 1 := by
    have hle := ackAllocations_le addr (behind ++ [(c₀.state, label)]) before
    rw [List.append_assoc] at hle
    exact Nat.lt_of_le_of_lt hle hfew
  have hmetBefore : ackObserver.Met before := fun s p callee hmem =>
    hmet s p callee (List.mem_append_right _ (List.mem_cons_of_mem _ hmem))
  have hmetStep : ackObserver.Met ((c₀.state, label) :: before) := fun s p callee hmem =>
    hmet s p callee (List.mem_append_right _ hmem)
  rcases links_always hbefore hmetBefore hless with ⟨transit, hseen, hlinks⟩
  rcases Observer.traced_seen acks_followed acks_initial (hbefore.step hstep) hmetStep with
    ⟨transit', hseen', _⟩
  rw [Observer.seen, hseen, Option.bind_some] at hseen'
  exact ⟨transit, transit', hseen, hseen', hlinks⟩

theorem done_of_sent {request : AckRequest ackId} {count : Nat} {callback : SendCallback}
    (h : (request.done count).head? = some (.sent callback)) :
    request.done count = request.done 3 := by
  rcases count with _ | _ | _ | _ | _ | _ | count
  · cases h
  · cases h
  · cases h
  · rfl
  · cases h
  · cases h
  · simp [AckRequest.done, AckRequest.course] at h

section Steps

variable {behind before : Deeds} {s : DirectPlay8Peer} {p : Proc} {peerId : UInt32}
  {pd : PacketDeserialiser} {peer : Peer} {transit transit' : AckTransit}

theorem handed_ack
    (h : ackObserver.hand p (.handleAck peerId pd) s transit = some transit') :
    transit = .idle ∧ transit' = s.expected peerId pd := by
  simp only [ackObserver] at h
  split at h
  · rename_i heq
    cases heq
  · rename_i heq
    cases heq
  · cases h
  · rename_i heq
    cases heq
    split at h
    · rename_i hidle
      exact ⟨hidle, (Option.some.inj h).symm⟩
    · cases h
  · rename_i hother _ _
    exact absurd rfl (hother peerId pd)

theorem handed_answer {callee : Proc}
    (h : ackObserver.hand (.handleAck peerId pd) callee s transit = some transit') :
    exists arrival, transit = .answering arrival ∧ arrival.peerId = peerId ∧
      pd.Brings arrival ∧
      callee = .invokeAck arrival.callback arrival.result arrival.data := by
  cases callee with
  | invokeAck callback result data =>
      cases transit with
      | answering arrival =>
          simp only [ackObserver] at h
          split at h
          · rename_i hanswer
            rcases hanswer with ⟨htarget, hbrings, rfl, rfl, rfl⟩
            exact ⟨arrival, rfl, htarget, hbrings, rfl⟩
          · cases h
      | _ => cases h
  | _ => cases h

theorem noted_register
    (h : Event.transit p s transit (.assertionFailed .registerAck) = some transit') :
    exists callback result target, p = .invokeCallback callback result ∧
      transit = .popped target callback ∧ callback.registersWith s = some target ∧
      s.Repeats target callback = true := by
  cases p with
  | invokeCallback callback result =>
      cases transit with
      | popped target sent =>
          simp only [Event.transit] at h
          split at h
          · rename_i hregisters
            rcases hregisters with ⟨rfl, hwith, hrepeats⟩
            exact ⟨sent, result, target, rfl, rfl, hwith, hrepeats⟩
          · cases h
      | _ => cases h
  | _ => cases h

theorem handleAck_exec {command : Command}
    (huses : (Proc.handleAck peerId pd).footprint.commands command)
    (hobserve : ackObserver.observe (.handleAck peerId pd) command s transit = some transit')
    (hpeer : s.peers[peerId]? = some peer) :
    exists arrival, pd.Brings arrival ∧ arrival.peerId = peerId ∧
      (command = .peer peerId (.eraseAck arrival.ackId) ∧
          (peer.pendingAcks[arrival.ackId]?).map (·.callback) = some arrival.callback ∨
        (exists ack, command = .log (.ackResolved ack)) ∧
          transit = .answering arrival) := by
  rcases huses with ⟨hkind, hfits⟩
  cases command with
  | peer target change =>
      cases change with
      | eraseAck erased =>
          simp only [ackObserver] at hobserve
          split at hobserve
          · rename_i found hfound
            cases transit with
            | expecting arrival =>
                simp only [PeerCommand.transit] at hobserve
                split at hobserve
                · rename_i hexpected
                  rcases hexpected with ⟨rfl, hbrings, htarget, rfl, hpending⟩
                  cases hpeer.symm.trans hfound
                  exact ⟨arrival, hbrings, htarget, Or.inl ⟨rfl, hpending⟩⟩
                · cases hobserve
            | _ => cases hobserve
          · cases hobserve
      | _ => simp at hkind
  | log event =>
      cases event with
      | ackResolved ack =>
          cases transit with
          | answering arrival =>
              simp only [ackObserver, Event.transit] at hobserve
              split at hobserve
              · rename_i hanswering
                exact ⟨arrival, hanswering.2, hanswering.1, Or.inr ⟨⟨ack, rfl⟩, rfl⟩⟩
              · cases hobserve
          | _ => cases hobserve
      | assertionFailed assertion =>
          cases assertion with
          | peerNotNull =>
              simp only [ackObserver, Event.transit, hpeer, reduceCtorEq, if_false]
                at hobserve
          | _ => cases hobserve
      | raised notification => cases notification <;> simp at hkind
      | returned method result => cases method <;> simp at hkind
      | entered | peerDeleted | queued | ackRegistered | received => cases hfits
      | _ => simp at hkind
  | «local» change => cases change <;> simp at hkind
  | _ => simp at hkind

end Steps

section Main

variable {behind before : Deeds} {s : DirectPlay8Peer} {p : Proc} {peerId : UInt32}
  {pd : PacketDeserialiser} {peer : Peer} {result : HRESULT} {data : List UInt8}

theorem ack_inTime (h : Traced machine DirectPlay8Peer.Constructed past c)
    (hhost : HostLeads past) (hfew : ackAllocations addr past < 2 ^ 32 - 1)
    (hpast : past = behind ++ (s, .call p (.handleAck peerId pd)) :: before)
    (callback : SendCallback) :
    (ackDeeds addr ackId before).head? ≠ some (.sent callback) := by
  rcases links_before h hhost hfew hpast with ⟨transit, transit', _, hlook, hlinks⟩
  intro hhead
  rcases hlinks.course ackId with ⟨request, count, hdone⟩
  rw [hdone] at hhead
  rcases hlinks.sent ackId request (hdone.trans (done_of_sent hhead)) with
    ⟨_, _, _, _, hpopped⟩
  cases hpopped.symm.trans (handed_ack hlook).1

theorem ack_answered {ack : PendingAck}
    (h : Traced machine DirectPlay8Peer.Constructed past c)
    (hhost : HostLeads past) (hfew : ackAllocations addr past < 2 ^ 32 - 1)
    (hpast : past = behind ++ (s, .call p (.handleAck peerId pd)) :: before)
    (hpeer : s.peers[peerId]? = some peer) (haddr : peer.addr = addr)
    (hack : pd.ack = .ok (ackId, result, data))
    (hpending : peer.pendingAcks[ackId]? = some ack) :
    (ackDeeds addr ackId before).head? = some (.registered ack.callback) ∧
      (c.Free -> Answered ⟨peerId, ackId, ack.callback, result, data⟩ behind) := by
  rcases links_before h hhost hfew hpast with ⟨transit, transit', hseen, hlook, hlinks⟩
  constructor
  · rcases (hlinks.file peerId peer hpeer haddr).pending ackId ack hpending with
      ⟨request, hanswer, hdone⟩
    rw [hdone, ← hanswer]
    rfl
  · intro hfree
    have hexpects : transit' = .expecting ⟨peerId, ackId, ack.callback, result, data⟩ := by
      rw [(handed_ack hlook).2]
      simp only [DirectPlay8Peer.expected, DirectPlay8Peer.arrival, hpeer, hack, hpending,
        Option.map_some]
    have hseen' : ackObserver.seen ((s, .call p (.handleAck peerId pd)) :: before) =
        some (.expecting ⟨peerId, ackId, ack.callback, result, data⟩) := by
      rw [Observer.seen, hseen, Option.bind_some, hlook, hexpects]
    rcases Observer.traced_seen acks_followed acks_initial h hhost.met with
      ⟨last, hlast, hsees⟩
    rw [hpast] at hlast
    have hidle : last = .idle := (hsees.free hfree).1
    rcases seen_answered hseen' hlast with hsame | hsame | hanswered
    · cases hidle.symm.trans hsame
    · cases hidle.symm.trans hsame
    · exact hanswered

theorem ack_change {command : Command}
    (h : Traced machine DirectPlay8Peer.Constructed past c)
    (hhost : HostLeads past) (hfew : ackAllocations addr past < 2 ^ 32 - 1)
    (hpast : past = behind ++ (s, .exec (.handleAck peerId pd) command) :: before)
    (hpeer : s.peers[peerId]? = some peer) (haddr : peer.addr = addr) :
    exists ackId result data answer, pd.ack = .ok (ackId, result, data) ∧
      (command = .peer peerId (.eraseAck ackId) ∧
          (ackDeeds addr ackId before).head? = some (.registered answer) ∨
        (exists ack, command = .log (.ackResolved ack)) ∧
          (ackDeeds addr ackId before).head? = some (.erased answer)) := by
  rcases links_before h hhost hfew hpast with ⟨transit, transit', _, hlook, hlinks⟩
  have huses : (Proc.handleAck peerId pd).footprint.commands command := by
    subst hpast
    rcases h.before with ⟨c₀, c₁, hbefore, _, hstep⟩
    exact hbefore.reaches.exec_uses Proc.body_uses hstep
  have hfile := hlinks.file peerId peer hpeer haddr
  rcases handleAck_exec huses hlook hpeer with
    ⟨arrival, hbrings, htarget, ⟨rfl, hpending⟩ | ⟨hresolved, rfl⟩⟩
  · rcases Option.map_eq_some_iff.mp hpending with ⟨ack, hack, _⟩
    rcases hfile.pending arrival.ackId ack hack with ⟨request, _, hdone⟩
    exact ⟨arrival.ackId, arrival.result, arrival.data, request.answer, hbrings,
      Or.inl ⟨rfl, congrArg List.head? hdone⟩⟩
  · rcases hfile.holds htarget with ⟨request, _, hdone⟩
    exact ⟨arrival.ackId, arrival.result, arrival.data, request.answer, hbrings,
      Or.inr ⟨hresolved, congrArg List.head? hdone⟩⟩

theorem ack_call {callee : Proc}
    (h : Traced machine DirectPlay8Peer.Constructed past c)
    (hhost : HostLeads past) (hfew : ackAllocations addr past < 2 ^ 32 - 1)
    (hpast : past = behind ++ (s, .call (.handleAck peerId pd) callee) :: before)
    (hpeer : s.peers[peerId]? = some peer) (haddr : peer.addr = addr) :
    exists ackId result data answer, pd.ack = .ok (ackId, result, data) ∧
      callee = .invokeAck answer result data ∧
      (ackDeeds addr ackId before).head? = some (.erased answer) := by
  rcases links_before h hhost hfew hpast with ⟨transit, transit', _, hlook, hlinks⟩
  rcases handed_answer hlook with ⟨arrival, rfl, htarget, hbrings, rfl⟩
  rcases (hlinks.file peerId peer hpeer haddr).holds htarget with ⟨request, hanswer, hdone⟩
  refine ⟨arrival.ackId, arrival.result, arrival.data, arrival.callback, hbrings, rfl, ?_⟩
  rw [← hanswer]
  exact congrArg List.head? hdone

theorem ack_register (h : Traced machine DirectPlay8Peer.Constructed past c)
    (hhost : HostLeads past) (hfew : ackAllocations addr past < 2 ^ 32 - 1)
    (hmem : (s, .exec p (.log (.assertionFailed .registerAck))) ∈ past) :
    exists callback result peerId peer, p = .invokeCallback callback result ∧
      callback.registersWith s = some peerId ∧ s.peers[peerId]? = some peer ∧
      peer.addr ≠ addr := by
  rcases List.append_of_mem hmem with ⟨behind, before, hpast⟩
  rcases links_before h hhost hfew hpast with ⟨transit, transit', _, hlook, hlinks⟩
  rcases noted_register hlook with ⟨callback, result, target, rfl, rfl, hwith, hrepeats⟩
  unfold DirectPlay8Peer.Repeats at hrepeats
  split at hrepeats
  · rename_i peer ackId hpeer hasks
    refine ⟨callback, result, target, peer, rfl, hwith, hpeer, ?_⟩
    intro haddr
    have hnone := (hlinks.file target peer hpeer haddr).unregistered hasks
    rw [Std.ExtTreeMap.contains_eq_isSome_getElem?, hnone] at hrepeats
    cases hrepeats
  · cases hrepeats

end Main

/-- As long as requests for group IDs meet the host they were sent to, acks are in order. -/
theorem acks_answered (h : Traced machine DirectPlay8Peer.Constructed past c)
    (hhost : HostLeads past) (hfew : ackAllocations addr past < 2 ^ 32 - 1) :
    AcksAnswered addr past c where
  course := by
    intro ackId
    rcases links_always h hhost.met hfew with ⟨transit, _, hlinks⟩
    rcases hlinks.course ackId with ⟨request, count, hdone⟩
    refine ⟨request, ?_⟩
    rw [hdone]
    exact request.done_prefix count
  inTime := fun _ _ _ _ _ _ hpast _ callback => ack_inTime h hhost hfew hpast callback
  answered := fun _ _ _ _ _ _ _ _ _ _ _ hpast hpeer haddr hack hpending =>
    ack_answered h hhost hfew hpast hpeer haddr hack hpending
  changes := fun _ _ _ _ _ _ _ hpast hpeer haddr =>
    ack_change h hhost hfew hpast hpeer haddr
  calls := fun _ _ _ _ _ _ _ hpast hpeer haddr =>
    ack_call h hhost hfew hpast hpeer haddr
  registers := fun _ _ hmem => ack_register h hhost hfew hmem
  notNull := by
    intro s callback result hmem
    rcases List.append_of_mem hmem with ⟨behind, before, hpast⟩
    rcases links_before h hhost hfew hpast with ⟨transit, transit', _, hlook, _⟩
    cases hlook

end Answers

def meetsHost (s : DirectPlay8Peer) : StepLabel -> Bool
  | .call (.ioPeerSend peerId) (.invokeCallback (.groupRequested hostId ..) _) =>
      s.playerToPeerId[hostId]? == some peerId
  | _ => true

theorem hostLeads_iff {past : Deeds} :
    (past.all fun deed => meetsHost deed.1 deed.2) = true ↔ HostLeads past := by
  rw [List.all_eq_true]
  constructor
  · intro h s peerId hostId ackId request result hmem
    exact eq_of_beq (h _ hmem)
  · rintro h ⟨s, label⟩ hmem
    unfold meetsHost
    split
    · rename_i heq
      cases heq
      exact beq_iff_eq.mpr (h s _ _ _ _ _ hmem)
    · rfl

instance {past : Deeds} : Decidable (HostLeads past) :=
  decidable_of_iff _ hostLeads_iff

def choicesRequestGroup : List (Choice Answer Proc) :=
  choicesJoin [] ++ [.resume 0 {}, .answer { ret := -1, err := wsaEWouldBlock },
    .answer {},
    .start (.createGroup
      (some { infoFlags := 0, name := [], data := [], groupFlags := 0 })
      contextNull contextNull 0)]

def groupAck : List UInt8 := (Action.ackPacket 1 sOk [3, 0, 0, 0]).rawPacket

/-- The request is sent, and the host answers it. -/
theorem acks_answered_group :
    exists (past : Deeds) (c : Run),
      Traced machine DirectPlay8Peer.Constructed past c ∧ HostLeads past ∧
        (ackDeeds 0 1 past).length = 6 ∧ AcksAnswered 0 past c := by
  have hrun : (retell machine 400 (choicesRequestGroup ++
      [.start (.ioPeerTriggered 0), .answer { ret := 20 },
        .answer { ret := groupAck.length, bytes := groupAck }, .answer {}, .answer {}])
      [] (Config.initial .zeroed)).any
      (fun q => decide (HostLeads q.1 ∧ ackAllocations 0 q.1 = 1 ∧
        (ackDeeds 0 1 q.1).length = 6)) = true := by
    decide +kernel
  rcases retell_run DirectPlay8Peer.zeroed_constructed hrun with
    ⟨past, c, htraced, htest⟩
  rcases of_decide_eq_true htest with ⟨hleads, hcount, hlength⟩
  have hfew : ackAllocations 0 past < 2 ^ 32 - 1 := by
    rw [hcount]
    decide
  exact ⟨past, c, htraced, hleads, hlength, acks_answered htraced hleads hfew⟩

def terminatePacket : List UInt8 := (serialise msgidTerminateSession [.data []]).rawPacket

/--
The session ends before the request is sent, and the client joins the next session of
the host over another connection, where a change of its own player has taken the ID.
-/
def choicesRejoin : List (Choice Answer Proc) :=
  choicesRequestGroup ++
    [.start (.ioPeerTriggered 0), .answer { ret := -1, err := wsaEWouldBlock },
      .answer { ret := terminatePacket.length, bytes := terminatePacket },
      .answer {}, .answer {}, .resume 0 {}, .resume 0 {}, .resume 0 {},
      .answer { ret := -1, err := wsaEWouldBlock }, .answer {}] ++
    choicesConnect ++
    [.start (.ioPeerTriggered 1), .answer {}, .start (.ioPeerTriggered 1),
      .answer { ret := (Action.connectHostPacket .zeroed).rawPacket.length },
      .answer { ret := (plainHostOk []).length, bytes := plainHostOk [] },
      .answer {}, .answer {}, .resume 0 {}, .resume 0 {}, .resume 0 {},
      .answer { ret := -1, err := wsaEWouldBlock }, .answer {},
      .start (.setPeerInfo { sizeOk := true, infoFlags := 0, name := [], data := [] }
        contextNull 0), .resume 0 {},
      .start (.ioPeerTriggered 1), .answer { ret := 48 },
      .answer { ret := -1, err := wsaEWouldBlock }]

def registersTwice (addr : Nat) (s : DirectPlay8Peer) : StepLabel -> Bool
  | .exec (.invokeCallback callback _) (.log (.assertionFailed .registerAck)) =>
      callback.registersWith s == some 1 && (s.peers[(1 : UInt32)]?).any (·.addr == addr)
  | _ => false

/-- The request is then registered with the new host, which it has not been sent to. -/
theorem acks_not_answered :
    ¬ forall (addr : Nat) (past : Deeds) (c : Run),
      Traced machine DirectPlay8Peer.Constructed past c ->
      ackAllocations addr past < 2 ^ 32 - 1 -> AcksAnswered addr past c := by
  intro hclaim
  have hrun : (retell machine 600 (choicesRejoin ++
      [.start (.ioPeerTriggered 0), .answer { ret := 20 }])
      [] (Config.initial .zeroed)).any
      (fun q => decide (ackAllocations 4 q.1 = 1 ∧
        q.1.any (fun deed => registersTwice 4 deed.1 deed.2) = true)) = true := by
    decide +kernel
  rcases retell_run DirectPlay8Peer.zeroed_constructed hrun with
    ⟨past, c, htraced, htest⟩
  rcases of_decide_eq_true htest with ⟨hcount, htwice⟩
  have hfew : ackAllocations 4 past < 2 ^ 32 - 1 := by
    rw [hcount]
    decide
  rcases List.any_eq_true.mp htwice with ⟨⟨s, label⟩, hmem, hlabel⟩
  unfold registersTwice at hlabel
  split at hlabel
  · rename_i heq
    cases heq
    rcases Bool.and_eq_true_iff.mp hlabel with ⟨hwith, hpeer⟩
    rcases (Option.any_eq_true _ _).mp hpeer with ⟨peer, hget, haddr⟩
    rcases (hclaim 4 past c htraced hfew).registers s _ hmem with
      ⟨callback, result, peerId, other, hp, hregisters, hother, hne⟩
    cases hp
    have hsame : peerId = 1 :=
      Option.some.inj (hregisters.symm.trans (eq_of_beq hwith))
    subst hsame
    have hpeers : other = peer := Option.some.inj (hother.symm.trans hget)
    subst hpeers
    exact hne (eq_of_beq haddr)
  · cases hlabel

end DirectPlayLite
