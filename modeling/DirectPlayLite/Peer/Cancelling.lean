import DirectPlayLite.Peer.Endings
import DirectPlayLite.Peer.Queueing
import DirectPlayLite.Peer.Groups

/-!
# Cancelling sends

`CancelAsyncOperation` takes ops out of the send queues and invokes their
callbacks.  A send to several players has an op with the same handle on the queue
of each of them, and the search for a handle ends at the first queue it is found in.
-/

namespace DirectPlayLite

open Monitor Program

/-!
## Ops that leave a queue
-/

def Command.removes (s : DirectPlay8Peer) : Command -> List (SendOp SendCallback)
  | .peer peerId (.removeQueued wanted) =>
      ((s.peers[peerId]?).bind fun peer =>
        (peer.sq.remove wanted).map Prod.fst).toList
  | .peer peerId .popPending =>
      ((s.peers[peerId]?).bind fun peer => peer.sq.current).toList
  | .erasePeer peerId => ((s.peers[peerId]?).map fun peer => peer.sq.ops).getD []
  | .udpRemoveQueued handle =>
      ((s.udpSq.removeQueuedByHandle handle).map Prod.fst).toList
  | .udpPopPending => s.udpSq.current.toList
  | _ => []

namespace Deeds

/-- The ops the thread has taken out of the send queues, latest first. -/
def removed (past : Deeds) : List (SendOp SendCallback) :=
  past.flatMap fun deed =>
    match deed.2 with
    | .exec _ command => command.removes deed.1
    | _ => []

/-- The callbacks the thread has invoked, with their results, latest first. -/
def invoked (past : Deeds) : List (SendCallback × HRESULT) :=
  past.filterMap fun deed =>
    match deed.2 with
    | .call _ (.invokeCallback callback result) => some (callback, result)
    | _ => none

section Counting

variable {past : Deeds} {s : DirectPlay8Peer} {p : Proc} {command : Command}

theorem removed_exec : removed ((s, .exec p command) :: past) =
    command.removes s ++ removed past := rfl

end Counting

end Deeds

namespace SendQueue

variable {Callback : Type}

/-- How many ops with a handle wait in the queue. -/
def waiting (handle : DPNHANDLE) (sq : SendQueue Callback) : Nat :=
  sq.queued.countP (·.asyncHandle == handle)

def carries (handle : DPNHANDLE) (sq : SendQueue Callback) : Bool :=
  sq.handleIsPending handle || sq.waiting handle != 0

section Removal

variable {handle : DPNHANDLE} {sq rest : SendQueue Callback} {op : SendOp Callback}

theorem waiting_eq_zero :
    sq.waiting handle = 0 ↔ forall op, op ∈ sq.queued -> op.asyncHandle ≠ handle := by
  simp [waiting, List.countP_eq_zero]

theorem remove_handle_eq_none (hne : handle ≠ 0) :
    sq.remove (.handle handle) = none ↔ sq.waiting handle = 0 := by
  rw [remove_eq_none, waiting_eq_zero]
  constructor
  · intro h op hop hsame
    exact h op ⟨hop, hsame ▸ hne, hsame⟩
  · intro h op heligible
    exact h op heligible.1 heligible.2.2

theorem remove_handle_waiting (h : sq.remove (.handle handle) = some (op, rest)) :
    sq.waiting handle = rest.waiting handle + 1 := by
  rcases remove_eq_some h with ⟨heligible, htakes⟩
  rw [waiting, htakes.perm.countP_eq, List.countP_cons, waiting]
  simp [heligible.2.2]

theorem waiting_ne_zero (h : sq.remove (.handle handle) = some (op, rest)) :
    sq.waiting handle ≠ 0 := by
  rw [remove_handle_waiting h]
  exact Nat.succ_ne_zero _

end Removal

end SendQueue

/-!
## The search for a handle
-/

def NoneWaiting (handle : DPNHANDLE) (s : DirectPlay8Peer) : Prop :=
  forall (peerId : UInt32) (peer : Peer), s.peers[peerId]? = some peer ->
    peer.sq.waiting handle = 0

def OneWaiting (handle : DPNHANDLE) (s : DirectPlay8Peer) (peerId : UInt32)
    (peer : Peer) : Prop :=
  peer.sq.waiting handle = 1 ∧
    forall (other : UInt32) (found : Peer), s.peers[other]? = some found ->
      other ≠ peerId -> found.sq.waiting handle = 0

section Deciding

variable {handle : DPNHANDLE} {s : DirectPlay8Peer} {peerId : UInt32} {peer : Peer}

theorem noneWaiting_iff : NoneWaiting handle s ↔
    forall entry, entry ∈ s.peers.toList -> entry.2.sq.waiting handle = 0 := by
  constructor
  · intro h entry hentry
    exact h entry.1 entry.2 (Std.ExtTreeMap.mem_toList_iff_getElem?_eq_some.mp hentry)
  · intro h peerId peer hpeer
    exact h (peerId, peer) (Std.ExtTreeMap.mem_toList_iff_getElem?_eq_some.mpr hpeer)

theorem oneWaiting_iff : OneWaiting handle s peerId peer ↔
    peer.sq.waiting handle = 1 ∧ forall entry, entry ∈ s.peers.toList ->
      entry.1 ≠ peerId -> entry.2.sq.waiting handle = 0 := by
  apply and_congr_right
  intro _
  constructor
  · intro h entry hentry
    exact h entry.1 entry.2 (Std.ExtTreeMap.mem_toList_iff_getElem?_eq_some.mp hentry)
  · intro h other found hfound
    exact h (other, found) (Std.ExtTreeMap.mem_toList_iff_getElem?_eq_some.mpr hfound)

instance : Decidable (NoneWaiting handle s) := decidable_of_iff _ noneWaiting_iff.symm

instance : Decidable (OneWaiting handle s peerId peer) :=
  decidable_of_iff _ oneWaiting_iff.symm

end Deciding

def firstCarrying (handle : DPNHANDLE) (entries : List (UInt32 × Peer)) :
    Option (UInt32 × Peer) :=
  entries.find? fun (_, peer) => peer.sq.carries handle

/-- The callbacks of ops count as something the others do. -/
def Around.LeavesCallbacks (E : Around) : Prop :=
  forall callback result, E.foreign (.invokeCallback callback result)

section Searching

variable {E : Around} {p : Proc} {s : DirectPlay8Peer} {past : Deeds}
  {handle : DPNHANDLE} {peerId : UInt32} {peer : Peer}

theorem removeQueued_absent (hpeer : s.peers[peerId]? = some peer)
    {wanted : SendQueue.Wanted} (hnone : peer.sq.remove wanted = none) :
    (Command.peer peerId (.removeQueued wanted)).apply s = s := by
  have hsame : s.peers.insert peerId peer = s.peers := by
    apply Std.ExtTreeMap.ext_getElem?
    intro other
    rw [Std.ExtTreeMap.getElem?_insert]
    split
    · rename_i hother
      have heq : peerId = other := by simpa using hother
      rw [← heq, hpeer]
    · rfl
  show Command.applyPeer s peerId (.removeQueued wanted) = s
  unfold Command.applyPeer
  simp only [hpeer, PeerCommand.apply, PeerCommand.allocates, PeerCommand.events,
    hnone, Option.map_none, Option.getD_none, List.nil_append, hsame]
  rfl

theorem removes_peer (hpeer : s.peers[peerId]? = some peer)
    (wanted : SendQueue.Wanted) :
    (Command.peer peerId (.removeQueued wanted)).removes s =
      ((peer.sq.remove wanted).map Prod.fst).toList := by
  unfold Command.removes
  dsimp only
  rw [hpeer]
  rfl

theorem removes_udp {handle : DPNHANDLE} :
    (Command.udpRemoveQueued handle).removes s =
      ((s.udpSq.removeQueuedByHandle handle).map Prod.fst).toList := rfl

/--
What cancelling comes to: the state, the ops removed, the callbacks invoked and what
is returned.
-/
abbrev CancelPost := DirectPlay8Peer -> List (SendOp SendCallback) ->
  List (SendCallback × HRESULT) -> List (Method × HRESULT) -> Prop

/-- The postcondition a thread is followed to. -/
def CancelPost.at (Q : CancelPost) (s : DirectPlay8Peer) (past : Deeds) : Prop :=
  Q s past.removed past.invoked past.returned

def CancelPost.IgnoresNotes (Q : CancelPost) : Prop :=
  forall s event removed invoked returned,
    Q ((Command.log event).apply s) removed invoked returned ↔
      Q s removed invoked returned

variable {Q : CancelPost}

theorem leads_returns (hQ : Q.IgnoresNotes) (method : Method) (result : HRESULT) :
    leads machine E p (Action.returns method result) (fun _ => Q.at) s past ↔
      Q s (Deeds.removed past) (Deeds.invoked past)
        ((method, result) :: Deeds.returned past) :=
  hQ s _ _ _ _

theorem leads_cancelOp (hQ : Q.IgnoresNotes) (hE : E.LeavesCallbacks)
    (op : SendOp SendCallback) (method : Method) (result : HRESULT) :
    leads machine E p (Action.cancelOp op >>= fun _ => Action.returns method result)
        (fun _ => Q.at) s past ↔
      forall s', E.others
          ((Command.log (.resolved op.addr dpnErrUserCancel (Action.sentAll op))).apply
            s) s' ->
        Q s' (Deeds.removed past)
          ((op.callback, dpnErrUserCancel) :: Deeds.invoked past)
          ((method, result) :: Deeds.returned past) := by
  show leads machine E p (.call (.invokeCallback op.callback dpnErrUserCancel)
    (Action.returns method result)) _ _ _ ↔ _
  rw [leads_foreign (hE _ _)]
  constructor
  · intro h s' hothers
    exact (leads_returns hQ _ _).mp (h s' hothers)
  · intro h s' hothers
    exact (leads_returns hQ _ _).mpr (h s' hothers)

def removedState (s : DirectPlay8Peer) (peerId : UInt32) (handle : DPNHANDLE)
    (op : SendOp SendCallback) : DirectPlay8Peer :=
  (Command.log (.resolved op.addr dpnErrUserCancel (Action.sentAll op))).apply
    ((Command.peer peerId (.removeQueued (.handle handle))).apply s)

theorem leads_cancelSend (hQ : Q.IgnoresNotes) (hE : E.LeavesCallbacks)
    (hne : handle ≠ 0) {entries : List (UInt32 × Peer)}
    (hthere : forall entry, entry ∈ entries -> s.peers[entry.1]? = some entry.2) :
    leads machine E p (Action.cancelSend handle none (entries.map Prod.fst))
        (fun _ => Q.at) s past ↔
      match firstCarrying handle entries with
      | none =>
          Q s (Deeds.removed past) (Deeds.invoked past)
            ((.cancelAsyncOperation, dpnErrInvalidHandle) :: Deeds.returned past)
      | some (peerId, peer) =>
          if peer.sq.handleIsPending handle then
            Q ((Command.peer peerId (.removeQueued (.handle handle))).apply s)
              (((peer.sq.remove (.handle handle)).map Prod.fst).toList ++
                Deeds.removed past)
              (Deeds.invoked past)
              ((.cancelAsyncOperation, dpnErrCannotCancel) :: Deeds.returned past)
          else
            forall op rest s', peer.sq.remove (.handle handle) = some (op, rest) ->
              E.others (removedState s peerId handle op) s' ->
              Q s' (op :: Deeds.removed past)
                ((op.callback, dpnErrUserCancel) :: Deeds.invoked past)
                ((.cancelAsyncOperation, sOk) :: Deeds.returned past) := by
  induction entries generalizing past with
  | nil => exact leads_returns hQ _ _
  | cons entry rest ih =>
      rcases entry with ⟨peerId, peer⟩
      have hpeer : s.peers[peerId]? = some peer := hthere _ List.mem_cons_self
      have hrest : forall entry, entry ∈ rest -> s.peers[entry.1]? = some entry.2 :=
        fun entry hentry => hthere entry (List.mem_cons_of_mem _ hentry)
      rw [List.map_cons, Action.cancelSend, leads_peerAt_some hpeer]
      show leads machine E p (Action.perform _ >>= fun _ => _) _ _ _ ↔ _
      rw [leads_perform, firstCarrying, List.find?_cons]
      dsimp only
      cases hpending : peer.sq.handleIsPending handle with
      | true =>
          have hcarries : peer.sq.carries handle = true := by
            simp [SendQueue.carries, hpending]
          rw [hcarries]
          dsimp only
          rw [if_pos rfl, if_pos hpending, leads_returns hQ, Deeds.removed_exec,
            removes_peer hpeer]
          rfl
      | false =>
          rw [if_neg Bool.false_ne_true]
          cases hremoved : peer.sq.remove (.handle handle) with
          | none =>
              have hzero := (SendQueue.remove_handle_eq_none hne).mp hremoved
              have hcarries : peer.sq.carries handle = false := by
                simp [SendQueue.carries, hpending, hzero]
              rw [hcarries, removeQueued_absent hpeer hremoved]
              have htaken : (peer.sq.removeQueuedByHandle handle).map Prod.fst =
                  none := by
                rw [show peer.sq.removeQueuedByHandle handle = none from hremoved]
                rfl
              rw [htaken, ih hrest, Deeds.removed_exec, removes_peer hpeer, hremoved]
              rfl
          | some found =>
              rcases found with ⟨op, left⟩
              have hwaits := SendQueue.remove_handle_waiting hremoved
              have hcarries : peer.sq.carries handle = true := by
                simp [SendQueue.carries, hwaits]
              have htaken : (peer.sq.removeQueuedByHandle handle).map Prod.fst =
                  some op := by
                rw [show peer.sq.removeQueuedByHandle handle = some (op, left)
                  from hremoved]
                rfl
              rw [hcarries, htaken]
              dsimp only
              rw [hpending, if_neg Bool.false_ne_true, Action.cancelSend,
                leads_cancelOp hQ hE, Deeds.removed_exec, removes_peer hpeer, hremoved]
              constructor
              · intro h other left' s' hfound hothers
                cases hfound
                exact h s' hothers
              · intro h s' hothers
                exact h op left s' rfl hothers

theorem noneWaiting_removed (hpeer : s.peers[peerId]? = some peer)
    {op : SendOp SendCallback} {rest : SendQueue SendCallback}
    (hremoved : peer.sq.remove (.handle handle) = some (op, rest)) :
    NoneWaiting handle (removedState s peerId handle op) ↔
      OneWaiting handle s peerId peer := by
  have hwaits := SendQueue.remove_handle_waiting hremoved
  have hbehind : forall other, (removedState s peerId handle op).peers[other]? =
      if peerId = other then some { peer with sq := rest } else s.peers[other]? := by
    intro other
    show ((Command.peer peerId _).apply s).peers[other]? = _
    rw [Command.getElem?_peer, hpeer, Option.map_some, PeerCommand.apply, hremoved]
    rfl
  constructor
  · intro h
    constructor
    · have hself := h peerId { peer with sq := rest } (by rw [hbehind, if_pos rfl])
      rw [hwaits, show rest.waiting handle = 0 from hself]
    · intro other found hfound hother
      apply h other found
      rw [hbehind, if_neg (Ne.symm hother)]
      exact hfound
  · intro h other found hfound
    rw [hbehind] at hfound
    split at hfound
    · cases hfound
      have hone := h.1
      rw [hwaits] at hone
      exact Nat.succ.inj hone
    · rename_i hother
      exact h.2 other found hfound (Ne.symm hother)

theorem send_handle_ne_zero
    (htype : handle &&& HandleAllocator.typeMask = HandleAllocator.typeBits .send) :
    handle ≠ 0 := by
  intro hzero
  rw [hzero] at htype
  exact absurd htype (by decide)

theorem leads_cancelAsyncOperation (hQ : Q.IgnoresNotes) (hE : E.LeavesCallbacks)
    (htype : handle &&& HandleAllocator.typeMask = HandleAllocator.typeBits .send) :
    leads machine E p (Action.cancelAsyncOperation handle 0) (fun _ => Q.at) s [] ↔
      if s.udpSq.handleIsPending handle then
        Q ((Command.udpRemoveQueued handle).apply s)
          ((s.udpSq.remove (.handle handle)).map Prod.fst).toList []
          [(.cancelAsyncOperation, dpnErrCannotCancel)]
      else
        match s.udpSq.remove (.handle handle) with
        | some (op, _) =>
            forall s', E.others ((Command.log
                (.resolved op.addr dpnErrUserCancel (Action.sentAll op))).apply
                  ((Command.udpRemoveQueued handle).apply s)) s' ->
              Q s' [op] [(op.callback, dpnErrUserCancel)]
                [(.cancelAsyncOperation, sOk)]
        | none =>
            match firstCarrying handle s.peers.toList with
            | none => Q s [] [] [(.cancelAsyncOperation, dpnErrInvalidHandle)]
            | some (peerId, peer) =>
                if peer.sq.handleIsPending handle then
                  Q ((Command.peer peerId (.removeQueued (.handle handle))).apply s)
                    ((peer.sq.remove (.handle handle)).map Prod.fst).toList []
                    [(.cancelAsyncOperation, dpnErrCannotCancel)]
                else
                  forall op rest s', peer.sq.remove (.handle handle) = some (op, rest) ->
                    E.others (removedState s peerId handle op) s' ->
                    Q s' [op] [(op.callback, dpnErrUserCancel)]
                      [(.cancelAsyncOperation, sOk)] := by
  have hne := send_handle_ne_zero htype
  have hplain : hasFlag 0 dpnCancelPlayerSends = false ∧ hasFlag 0
      (dpnCancelEnum ||| dpnCancelConnect ||| dpnCancelAllOperations) = false := by
    decide
  have hother : HandleAllocator.typeBits .send ≠ HandleAllocator.typeBits .enum ∧
      HandleAllocator.typeBits .send ≠ HandleAllocator.typeBits .connect := by
    decide
  rw [Action.cancelAsyncOperation, leads_get]
  dsimp only
  rw [hplain.1, hplain.2, htype, if_neg Bool.false_ne_true,
    if_neg Bool.false_ne_true, if_neg hother.1, if_neg hother.2, if_pos rfl,
    leads_perform]
  cases hpending : s.udpSq.handleIsPending handle with
  | true =>
      rw [if_pos rfl, if_pos rfl, leads_returns hQ, Deeds.removed_exec]
      rw [show Deeds.removed [] = [] from rfl, List.append_nil]
      rfl
  | false =>
      rw [if_neg Bool.false_ne_true, if_neg Bool.false_ne_true]
      cases hremoved : s.udpSq.remove (.handle handle) with
      | some found =>
          rcases found with ⟨op, rest⟩
          have htaken : s.udpSq.removeQueuedByHandle handle = some (op, rest) := hremoved
          rw [htaken, Option.map_some, Action.cancelSend, leads_cancelOp hQ hE,
            Deeds.removed_exec, removes_udp, htaken]
          rfl
      | none =>
          have htaken : s.udpSq.removeQueuedByHandle handle = none := hremoved
          have hsame : (Command.udpRemoveQueued handle).apply s = s := by
            simp only [Command.apply, htaken, Option.map_none, Option.getD_none]
          rw [htaken, Option.map_none, hsame, ← Std.ExtTreeMap.map_fst_toList_eq_keys,
            leads_cancelSend hQ hE hne
              (fun entry hentry =>
                Std.ExtTreeMap.mem_toList_iff_getElem?_eq_some.mp hentry),
            Deeds.removed_exec, removes_udp, htaken]
          have hnothing : ((none : Option (SendOp SendCallback ×
              SendQueue SendCallback)).map Prod.fst).toList ++
                Deeds.removed [] = [] := rfl
          rw [hnothing]
          simp only [List.append_nil]
          rfl

end Searching

/-!
## Sends with a handle
-/

/--
Of a cancelled send no op waits any more, and the callbacks of the ops removed have
been invoked, exactly once each; where it cannot be cancelled, no op was removed.
-/
def SendCancelled (handle : DPNHANDLE) : CancelPost :=
  fun s' removed invoked returned => exists result,
    returned = [(.cancelAsyncOperation, result)] ∧
      (result = sOk -> NoneWaiting handle s' ∧
        invoked = removed.map fun op => (op.callback, dpnErrUserCancel)) ∧
      (result = dpnErrCannotCancel ∨ result = dpnErrInvalidHandle -> removed = [])

/--
Whatever the callbacks and the others do as long as they queue no op with the handle,
a send that is cancelled is cancelled as a whole.
-/
def CancelsWell (handle : DPNHANDLE) (s : DirectPlay8Peer) : Prop :=
  forall E : Around, E.LeavesCallbacks ->
    (forall s s', E.others s s' -> NoneWaiting handle s -> NoneWaiting handle s') ->
    (Proc.cancelAsyncOperation handle 0).EndsIn E s (SendCancelled handle).at

/--
The first queue the handle is found in decides: one that is sending an op with it
must have no other, and one that is not must have the only one there is.
-/
def CancelsCleanly (handle : DPNHANDLE) (s : DirectPlay8Peer) : Prop :=
  if s.udpSq.handleIsPending handle then s.udpSq.waiting handle = 0
  else if s.udpSq.waiting handle = 0 then
    match firstCarrying handle s.peers.toList with
    | none => True
    | some (peerId, peer) =>
        if peer.sq.handleIsPending handle then peer.sq.waiting handle = 0
        else OneWaiting handle s peerId peer
  else NoneWaiting handle s

instance {handle : DPNHANDLE} {s : DirectPlay8Peer} :
    Decidable (CancelsCleanly handle s) := by
  unfold CancelsCleanly
  split
  · infer_instance
  split
  · split
    · infer_instance
    · infer_instance
  · infer_instance

def Around.aside : Around where
  others := Eq
  foreign := fun q => exists callback result, q = .invokeCallback callback result
  refl := fun _ => rfl

theorem aside_leavesCallbacks : Around.aside.LeavesCallbacks :=
  fun callback result => ⟨callback, result, rfl⟩

section Sends

variable {s : DirectPlay8Peer} {handle : DPNHANDLE}

theorem sendCancelled_ignoresNotes : (SendCancelled handle).IgnoresNotes :=
  fun _ _ _ _ _ => Iff.rfl

theorem sendCancelled_cannot {s' : DirectPlay8Peer}
    {removed : List (SendOp SendCallback)} :
    SendCancelled handle s' removed []
        [(.cancelAsyncOperation, dpnErrCannotCancel)] ↔ removed = [] := by
  constructor
  · intro h
    rcases h with ⟨result, hreturned, _, hnone⟩
    cases hreturned
    exact hnone (Or.inl rfl)
  · intro h
    refine ⟨dpnErrCannotCancel, rfl, ?_, fun _ => h⟩
    intro hok
    exact absurd hok (by decide)

theorem sendCancelled_ok {s' : DirectPlay8Peer} {op : SendOp SendCallback} :
    SendCancelled handle s' [op] [(op.callback, dpnErrUserCancel)]
        [(.cancelAsyncOperation, sOk)] ↔ NoneWaiting handle s' := by
  constructor
  · intro h
    rcases h with ⟨result, hreturned, hok, _⟩
    cases hreturned
    exact (hok rfl).1
  · intro h
    refine ⟨sOk, rfl, fun _ => ⟨h, rfl⟩, ?_⟩
    intro hfailed
    exact absurd hfailed (by decide)

theorem sendCancelled_invalid {s' : DirectPlay8Peer} :
    SendCancelled handle s' [] [] [(.cancelAsyncOperation, dpnErrInvalidHandle)] := by
  refine ⟨dpnErrInvalidHandle, rfl, ?_, fun _ => rfl⟩
  intro hok
  exact absurd hok (by decide)

theorem firstCarrying_some (hne : handle ≠ 0) {peerId : UInt32} {peer : Peer}
    (hfirst : firstCarrying handle s.peers.toList = some (peerId, peer))
    (hidle : ¬ peer.sq.handleIsPending handle = true) :
    s.peers[peerId]? = some peer ∧
      exists op rest, peer.sq.remove (.handle handle) = some (op, rest) := by
  unfold firstCarrying at hfirst
  have hcarries : peer.sq.carries handle = true := by
    simpa using List.find?_some hfirst
  constructor
  · exact Std.ExtTreeMap.mem_toList_iff_getElem?_eq_some.mp
      (List.mem_of_find?_eq_some hfirst)
  · cases hremoved : peer.sq.remove (.handle handle) with
    | none =>
        have hzero := (SendQueue.remove_handle_eq_none hne).mp hremoved
        simp [SendQueue.carries, hidle, hzero] at hcarries
    | some found => exact ⟨found.1, found.2, rfl⟩

theorem removed_eq_nil (hne : handle ≠ 0) {sq : SendQueue SendCallback} :
    ((sq.remove (.handle handle)).map Prod.fst).toList = [] ↔
      sq.waiting handle = 0 := by
  rw [← SendQueue.remove_handle_eq_none hne]
  cases sq.remove (.handle handle) <;> simp

theorem CancelsWell.cleanly (h : CancelsWell handle s)
    (htype : handle &&& HandleAllocator.typeMask = HandleAllocator.typeBits .send) :
    CancelsCleanly handle s := by
  have hne := send_handle_ne_zero htype
  unfold CancelsCleanly
  have hends := h Around.aside aside_leavesCallbacks
    (fun _ _ hsame hnone => hsame ▸ hnone)
  have hspec := (leads_cancelAsyncOperation sendCancelled_ignoresNotes
    aside_leavesCallbacks htype).mp (Proc.endsIn_iff.mp hends)
  split at hspec
  · rename_i hpending
    rw [if_pos hpending]
    exact (removed_eq_nil hne).mp (sendCancelled_cannot.mp hspec)
  rename_i hpending
  rw [if_neg hpending]
  split at hspec
  · rename_i op rest hremoved
    rw [if_neg (SendQueue.waiting_ne_zero hremoved)]
    have hnone := sendCancelled_ok.mp (hspec _ rfl)
    exact hnone
  rename_i hremoved
  rw [if_pos ((SendQueue.remove_handle_eq_none hne).mp hremoved)]
  split at hspec
  · trivial
  rename_i peerId peer hfirst
  split at hspec
  · rename_i hsending
    rw [if_pos hsending]
    exact (removed_eq_nil hne).mp (sendCancelled_cannot.mp hspec)
  · rename_i hidle
    rw [if_neg hidle]
    rcases firstCarrying_some hne hfirst hidle with ⟨hpeer, op, rest, hfound⟩
    exact (noneWaiting_removed hpeer hfound).mp
      (sendCancelled_ok.mp (hspec op rest _ hfound rfl))

theorem CancelsCleanly.well (h : CancelsCleanly handle s)
    (htype : handle &&& HandleAllocator.typeMask = HandleAllocator.typeBits .send) :
    CancelsWell handle s := by
  have hne := send_handle_ne_zero htype
  unfold CancelsCleanly at h
  intro E hE hothers
  rw [Proc.endsIn_iff]
  apply (leads_cancelAsyncOperation sendCancelled_ignoresNotes hE htype).mpr
  split at h
  · rename_i hpending
    rw [if_pos hpending]
    exact sendCancelled_cannot.mpr ((removed_eq_nil hne).mpr h)
  rename_i hpending
  rw [if_neg hpending]
  split
  · rename_i op rest hremoved
    rw [if_neg (SendQueue.waiting_ne_zero hremoved)] at h
    intro s' hs'
    exact sendCancelled_ok.mpr (hothers _ _ hs' h)
  rename_i hremoved
  rw [if_pos ((SendQueue.remove_handle_eq_none hne).mp hremoved)] at h
  split
  · exact sendCancelled_invalid
  rename_i peerId peer hfirst
  rw [hfirst] at h
  dsimp only at h
  split
  · rename_i hsending
    rw [if_pos hsending] at h
    exact sendCancelled_cannot.mpr ((removed_eq_nil hne).mpr h)
  · rename_i hidle
    rw [if_neg hidle] at h
    intro op rest s' hfound hs'
    rcases firstCarrying_some hne hfirst hidle with ⟨hpeer, _⟩
    exact sendCancelled_ok.mpr
      (hothers _ _ hs' ((noneWaiting_removed hpeer hfound).mpr h))

/--
`CancelAsyncOperation` with the handle of a send does what it promises, if and only
if the first queue the handle is found in is sending the only op it has with the
handle, or has the only op that waits with it.
-/
theorem cancelsWell_iff
    (htype : handle &&& HandleAllocator.typeMask = HandleAllocator.typeBits .send) :
    CancelsWell handle s ↔ CancelsCleanly handle s := by
  constructor
  · intro h
    exact h.cleanly htype
  · intro h
    exact h.well htype

end Sends

/-- A host takes back what it has sent to its only client. -/
theorem cancelsWell_iff_one :
    exists c : Run, Reaches machine DirectPlay8Peer.Constructed Unrestricted c ∧
      c.Free ∧ ¬ NoneWaiting 0x40000001 c.state ∧ CancelsWell 0x40000001 c.state := by
  have hrun : (replay Unrestricted
      (choicesAdmit ++ [.start (.sendTo 2 [1] contextNull 0)])).any
      (fun c => decide (c.Free ∧ ¬ NoneWaiting 0x40000001 c.state ∧
        CancelsCleanly 0x40000001 c.state)) = true := by
    decide +kernel
  rcases replay_reaches hrun with ⟨c, hc, htest⟩
  rcases of_decide_eq_true htest with ⟨hfree, hwaits, hcleanly⟩
  exact ⟨c, hc, hfree, hwaits, (cancelsWell_iff (by decide)).mpr hcleanly⟩

/-- A host has sent something to its two clients, and takes it back from one. -/
theorem sendToAll_not_cancelled :
    ¬ forall (c : Run) (handle : DPNHANDLE),
      Reaches machine DirectPlay8Peer.Constructed Unrestricted c -> c.Free ->
      handle &&& HandleAllocator.typeMask = HandleAllocator.typeBits .send ->
      CancelsWell handle c.state := by
  intro hclaim
  have hrun : (replay Unrestricted
      (choicesMember ++ [.start (.sendTo 0 [1] contextNull 0)])).any
      (fun c => decide (c.Free ∧ ¬ CancelsCleanly 0x40000001 c.state)) = true := by
    decide +kernel
  rcases replay_reaches hrun with ⟨c, hc, htest⟩
  rcases of_decide_eq_true htest with ⟨hfree, hunclean⟩
  have hsend : (0x40000001 : DPNHANDLE) &&& HandleAllocator.typeMask =
      HandleAllocator.typeBits .send := by decide
  exact hunclean ((hclaim c 0x40000001 hc hfree hsend).cleanly hsend)

end DirectPlayLite
