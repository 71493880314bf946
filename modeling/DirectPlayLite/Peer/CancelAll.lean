import DirectPlayLite.Peer.Cancelling
import DirectPlayLite.Peer.Host
import Mathlib.Algebra.Order.BigOperators.Group.List
import Mathlib.Data.Nat.Bitwise

/-!
# Cancelling many sends

The loops of `CancelAsyncOperation` over the sends to one player and to all peers.
They start again behind every callback, since the peers may have changed, and end
with a round that finds nothing.
-/

namespace DirectPlayLite

open Monitor Program

/-!
## The priorities flags select
-/

def cancelBit : SendPriority -> DWORD
  | .low => 0x00040000
  | .medium => 0x00020000
  | .high => 0x00010000

/-- A priority is selected by its own bit, or by there being none. -/
def Selected (flags : DWORD) (priority : SendPriority) : Prop :=
  hasFlag flags (cancelBit priority) = true ∨
    forall other, hasFlag flags (cancelBit other) = false

theorem and_bit (flags : DWORD) (i : Nat) (hi : i < 32) :
    flags &&& UInt32.ofNat (2 ^ i) =
      bif flags.toNat.testBit i then UInt32.ofNat (2 ^ i) else 0 := by
  have hfits : 2 ^ i < 2 ^ 32 := Nat.pow_lt_pow_right (by decide) hi
  apply UInt32.toNat_inj.mp
  rw [UInt32.toNat_and, UInt32.toNat_ofNat', Nat.mod_eq_of_lt hfits, Nat.and_two_pow]
  cases flags.toNat.testBit i with
  | false => simp
  | true => rw [cond_true, UInt32.toNat_ofNat', Nat.mod_eq_of_lt hfits,
      Bool.toNat_true, one_mul]

theorem and_cancelMask (flags : DWORD) :
    flags &&& (dpnCancelPlayerSendsPriorityLow |||
        dpnCancelPlayerSendsPriorityNormal ||| dpnCancelPlayerSendsPriorityHigh) =
      flags &&& dpnCancelPlayerSends ||| flags &&& cancelBit .low |||
        flags &&& cancelBit .medium ||| flags &&& cancelBit .high := by
  apply UInt32.toNat_inj.mp
  simp only [UInt32.toNat_and, UInt32.toNat_or, ← Nat.and_or_distrib_left]
  rfl

theorem mem_cancelledPriorities {flags : DWORD}
    (hplayer : hasFlag flags dpnCancelPlayerSends = true) (priority : SendPriority) :
    priority ∈ Action.cancelledPriorities flags ↔ Selected flags priority := by
  have hsends : flags &&& dpnCancelPlayerSends = _ := and_bit flags 31 (by decide)
  have hlow : flags &&& cancelBit .low = _ := and_bit flags 18 (by decide)
  have hmedium : flags &&& cancelBit .medium = _ := and_bit flags 17 (by decide)
  have hhigh : flags &&& cancelBit .high = _ := and_bit flags 16 (by decide)
  have hall : (forall other, hasFlag flags (cancelBit other) = false) ↔
      hasFlag flags (cancelBit .low) = false ∧
        hasFlag flags (cancelBit .medium) = false ∧
        hasFlag flags (cancelBit .high) = false := by
    constructor
    · intro h
      exact ⟨h _, h _, h _⟩
    · intro h other
      cases other with
      | low => exact h.1
      | medium => exact h.2.1
      | high => exact h.2.2
  rw [Selected, hall, Action.cancelledPriorities, and_cancelMask]
  have hown : flags &&& cancelBit priority =
      bif (match priority with
        | .low => flags.toNat.testBit 18
        | .medium => flags.toNat.testBit 17
        | .high => flags.toNat.testBit 16)
      then cancelBit priority else 0 := by
    cases priority with
    | low => exact hlow
    | medium => exact hmedium
    | high => exact hhigh
  simp only [hasFlag, hsends, hlow, hmedium, hhigh, hown, List.mem_append,
    List.mem_ite_nil_right, List.mem_singleton] at hplayer ⊢
  -- only these four bits matter
  generalize flags.toNat.testBit 31 = sends at hplayer ⊢
  generalize flags.toNat.testBit 18 = low
  generalize flags.toNat.testBit 17 = medium
  generalize flags.toNat.testBit 16 = high
  cases sends with
  | false => cases hplayer
  | true =>
      clear hown
      revert low medium high
      cases priority <;> decide

/-!
## What is cut out of a queue
-/

/-- What is to be cancelled: the peers and priorities, in the state at that time. -/
abbrev Scope := DirectPlay8Peer -> UInt32 -> SendPriority -> Prop

def playerScope (player : DPNID) (flags : DWORD) : Scope :=
  fun s peerId priority =>
    (exists peer, s.findPlayer player = some (peerId, peer)) ∧ Selected flags priority

/--
An op of the application is cut out of one of the lists; the ops before and behind it,
the other lists and the op being sent are left in place.
-/
structure CutsOut (selected : SendPriority -> Prop) (sq : SendQueue SendCallback)
    (op : SendOp SendCallback) (rest : SendQueue SendCallback) : Prop where
  app : op.asyncHandle ≠ 0
  cut : exists priority before behind, selected priority ∧
    sq.queue priority = before ++ op :: behind ∧
    rest.queue priority = before ++ behind ∧
    forall other, other ≠ priority -> rest.queue other = sq.queue other
  current : rest.current = sq.current

/-- All the step changes is that it cuts an op out of a queue in the scope. -/
def Deed.Cuts (scope : Scope) (deed : Deed) : Prop :=
  forall p command, deed.2 = .exec p command ->
    (exists event, command = .log event) ∨
    exists peerId wanted peer op rest,
      command = .peer peerId (.removeQueued wanted) ∧
      deed.1.peers[peerId]? = some peer ∧
      peer.sq.remove wanted = some (op, rest) ∧
      CutsOut (scope deed.1 peerId) peer.sq op rest

/-- The thread cuts ops out of queues and invokes their callbacks, and no others. -/
structure OnlyCuts (scope : Scope) (past : Deeds) : Prop where
  cuts : forall deed, deed ∈ past -> Deed.Cuts scope deed
  invoked : Deeds.invoked past =
    (Deeds.removed past).map fun op => (op.callback, dpnErrUserCancel)

/-- No op of the application waits in the scope. -/
def Cleared (scope : Scope) (s : DirectPlay8Peer) : Prop :=
  forall (peerId : UInt32) (peer : Peer) (priority : SendPriority)
    (op : SendOp SendCallback), s.peers[peerId]? = some peer ->
    scope s peerId priority -> op ∈ peer.sq.queue priority -> op.asyncHandle = 0

namespace SendQueue

variable {sq rest : SendQueue SendCallback} {op : SendOp SendCallback}

theorem takeFirst_split {test : SendOp SendCallback -> Bool}
    {xs others : List (SendOp SendCallback)}
    (h : takeFirst test xs = some (op, others)) :
    exists before behind, xs = before ++ op :: behind ∧ others = before ++ behind := by
  induction xs generalizing others with
  | nil => cases h
  | cons first xs ih =>
      rw [takeFirst] at h
      split at h
      · cases h
        exact ⟨[], _, rfl, rfl⟩
      · rcases Option.map_eq_some_iff.mp h with ⟨⟨found, left⟩, htake, hsame⟩
        cases hsame
        rcases ih htake with ⟨before, behind, rfl, rfl⟩
        exact ⟨first :: before, behind, rfl, rfl⟩

theorem takeFrom_cutsOut {selected : SendPriority -> Prop} {priority : SendPriority}
    (hselected : selected priority)
    (h : sq.takeFrom (·.asyncHandle != 0) priority = some (op, rest)) :
    CutsOut selected sq op rest := by
  rcases takeFrom_eq_some h with ⟨_, htest, htakes⟩
  refine ⟨by simpa using htest, ?_, htakes.current⟩
  cases priority with
  | low =>
      rcases Option.map_eq_some_iff.mp h with ⟨⟨found, left⟩, htake, hsame⟩
      cases hsame
      rcases takeFirst_split htake with ⟨before, behind, hall, hleft⟩
      refine ⟨.low, before, behind, hselected, hall, hleft, ?_⟩
      intro other hother
      cases other with
      | low => exact absurd rfl hother
      | medium => rfl
      | high => rfl
  | medium =>
      rcases Option.map_eq_some_iff.mp h with ⟨⟨found, left⟩, htake, hsame⟩
      cases hsame
      rcases takeFirst_split htake with ⟨before, behind, hall, hleft⟩
      refine ⟨.medium, before, behind, hselected, hall, hleft, ?_⟩
      intro other hother
      cases other with
      | low => rfl
      | medium => exact absurd rfl hother
      | high => rfl
  | high =>
      rcases Option.map_eq_some_iff.mp h with ⟨⟨found, left⟩, htake, hsame⟩
      cases hsame
      rcases takeFirst_split htake with ⟨before, behind, hall, hleft⟩
      refine ⟨.high, before, behind, hselected, hall, hleft, ?_⟩
      intro other hother
      cases other with
      | low => rfl
      | medium => rfl
      | high => exact absurd rfl hother

theorem removeQueued_cutsOut (h : sq.removeQueued = some (op, rest)) :
    CutsOut (fun _ => True) sq op rest := by
  rcases Option.or_eq_some_iff.mp h with hhigh | ⟨_, h⟩
  · exact takeFrom_cutsOut trivial hhigh
  · rcases Option.or_eq_some_iff.mp h with hmedium | ⟨_, hlow⟩
    · exact takeFrom_cutsOut trivial hmedium
    · exact takeFrom_cutsOut trivial hlow

end SendQueue

/-!
## How much is left to cancel
-/

/-- How many ops of the application wait on a peer. -/
def DirectPlay8Peer.appWaiting (s : DirectPlay8Peer) (peerId : UInt32) : Nat :=
  ((s.peers[peerId]?).map fun peer =>
    peer.sq.queued.countP (·.asyncHandle != 0)).getD 0

def Covers (keys : List UInt32) (s : DirectPlay8Peer) : Prop :=
  forall peerId, s.appWaiting peerId ≠ 0 -> peerId ∈ keys

def waitingOn (keys : List UInt32) (s : DirectPlay8Peer) : Nat :=
  (keys.map s.appWaiting).sum

def Around.QueuesNothing (E : Around) : Prop :=
  forall s s', E.others s s' -> forall peerId, s'.appWaiting peerId ≤ s.appWaiting peerId

section Waiting

variable {s s' : DirectPlay8Peer} {keys : List UInt32} {peerId : UInt32} {peer : Peer}

theorem covers_keys (s : DirectPlay8Peer) : Covers s.peers.keys s := by
  intro peerId hwaits
  rw [Std.ExtTreeMap.mem_keys, Std.ExtTreeMap.mem_iff_isSome_getElem?]
  cases hpeer : s.peers[peerId]? with
  | none => simp [DirectPlay8Peer.appWaiting, hpeer] at hwaits
  | some peer => rfl

theorem Covers.fewer (h : Covers keys s)
    (hfewer : forall peerId, s'.appWaiting peerId ≤ s.appWaiting peerId) :
    Covers keys s' := by
  intro peerId hwaits
  apply h
  intro hzero
  have hle := hfewer peerId
  rw [hzero] at hle
  exact hwaits (Nat.le_zero.mp hle)

theorem waitingOn_lt (h : Covers keys s)
    (hfewer : forall peerId, s'.appWaiting peerId ≤ s.appWaiting peerId)
    (hless : s'.appWaiting peerId < s.appWaiting peerId) :
    waitingOn keys s' < waitingOn keys s := by
  have hkey := h peerId (Nat.ne_of_gt (Nat.lt_of_le_of_lt (Nat.zero_le _) hless))
  exact List.sum_lt_sum _ _ (fun other _ => hfewer other) ⟨peerId, hkey, hless⟩

theorem appWaiting_removed {wanted : SendQueue.Wanted} {op : SendOp SendCallback}
    {rest : SendQueue SendCallback} (hpeer : s.peers[peerId]? = some peer)
    (hremoved : peer.sq.remove wanted = some (op, rest)) (happ : op.asyncHandle ≠ 0)
    (other : UInt32) :
    ((Command.peer peerId (.removeQueued wanted)).apply s).appWaiting other +
        (if peerId = other then 1 else 0) = s.appWaiting other := by
  unfold DirectPlay8Peer.appWaiting
  rw [Command.getElem?_peer]
  by_cases hsame : peerId = other
  · subst hsame
    rw [if_pos rfl, if_pos rfl, hpeer]
    have htakes := (SendQueue.remove_eq_some hremoved).2
    simp only [Option.map_some, Option.getD_some, PeerCommand.apply, hremoved]
    rw [htakes.perm.countP_eq, List.countP_cons]
    simp [happ]
  · rw [if_neg hsame, if_neg hsame, Nat.add_zero]

end Waiting

/-!
## The loops
-/

section Loops

variable {E : Around} {p : Proc} {s : DirectPlay8Peer} {past : Deeds}
  {scope : Scope} {keys : List UInt32} {peerId : UInt32} {peer : Peer}

theorem OnlyCuts.cons (h : OnlyCuts scope past) {deed : Deed}
    (hexec : forall p command, deed.2 = .exec p command ->
      exists event, command = .log event)
    (hcall : forall p callback result,
      deed.2 ≠ .call p (.invokeCallback callback result)) :
    OnlyCuts scope (deed :: past) := by
  rcases deed with ⟨s, label⟩
  constructor
  · intro other hother
    rcases List.mem_cons.mp hother with rfl | hbefore
    · intro p command hdeed
      exact Or.inl (hexec p command hdeed)
    · exact h.cuts other hbefore
  · cases label with
    | exec p command =>
        rcases hexec p command rfl with ⟨event, rfl⟩
        exact h.invoked
    | call p callee =>
        cases callee with
        | invokeCallback callback result => exact absurd rfl (hcall _ _ _)
        | _ => exact h.invoked
    | _ => exact h.invoked

theorem OnlyCuts.cut (h : OnlyCuts scope past) {wanted : SendQueue.Wanted}
    {op : SendOp SendCallback} {rest : SendQueue SendCallback}
    {s' s'' : DirectPlay8Peer} {event : Event} (hpeer : s.peers[peerId]? = some peer)
    (hremoved : peer.sq.remove wanted = some (op, rest))
    (hcuts : CutsOut (scope s peerId) peer.sq op rest) :
    OnlyCuts scope
      ((s'', .call p (.invokeCallback op.callback dpnErrUserCancel)) ::
        (s', .exec p (.log event)) ::
        (s, .exec p (.peer peerId (.removeQueued wanted))) :: past) := by
  have hremoves : (Command.peer peerId (.removeQueued wanted)).removes s = [op] := by
    rw [removes_peer hpeer, hremoved]
    rfl
  constructor
  · intro deed hdeed q command hexec
    rcases List.mem_cons.mp hdeed with rfl | hdeed
    · cases hexec
    rcases List.mem_cons.mp hdeed with rfl | hdeed
    · cases hexec
      exact Or.inl ⟨event, rfl⟩
    rcases List.mem_cons.mp hdeed with rfl | hbefore
    · cases hexec
      exact Or.inr ⟨peerId, wanted, peer, op, rest, rfl, hpeer, hremoved, hcuts⟩
    · exact h.cuts deed hbefore q command hexec
  · show (op.callback, dpnErrUserCancel) :: Deeds.invoked past =
      ((Command.peer peerId (.removeQueued wanted)).removes s ++
        Deeds.removed past).map fun op => (op.callback, dpnErrUserCancel)
    rw [hremoves, h.invoked]
    rfl

theorem leads_cancelQueued (hE : E.LeavesCallbacks) (hquiet : E.QueuesNothing)
    (hcovers : Covers keys s) (h : OnlyCuts scope past)
    {wanted : SendQueue.Wanted} {op : SendOp SendCallback}
    {rest : SendQueue SendCallback} (hpeer : s.peers[peerId]? = some peer)
    (hremoved : peer.sq.remove wanted = some (op, rest))
    (hcuts : CutsOut (scope s peerId) peer.sq op rest)
    {next : Unit -> Action Unit} {post : Unit -> DirectPlay8Peer -> Deeds -> Prop}
    (hnext : forall s' past', Covers keys s' ->
      waitingOn keys s' < waitingOn keys s -> OnlyCuts scope past' ->
      leads machine E p (next ()) post s' past') :
    leads machine E p (Action.cancelQueued peerId wanted op >>= next) post s past := by
  show leads machine E p (.call (.invokeCallback op.callback dpnErrUserCancel)
    (next ())) _ _ _
  rw [leads_foreign (hE _ _)]
  intro s' hothers
  have hless := appWaiting_removed hpeer hremoved hcuts.app
  have hfewer : forall other, s'.appWaiting other ≤ s.appWaiting other := by
    intro other
    have hle := hquiet _ _ hothers other
    have hcut := hless other
    exact Nat.le_trans hle (Nat.le.intro hcut)
  apply hnext
  · exact hcovers.fewer hfewer
  · have hcut := hless peerId
    rw [if_pos rfl] at hcut
    have hone : s'.appWaiting peerId < s.appWaiting peerId := by
      rw [← hcut]
      exact Nat.lt_succ_of_le (hquiet _ _ hothers peerId)
    exact waitingOn_lt hcovers hfewer hone
  · exact h.cut hpeer hremoved hcuts

def everything : Scope := fun _ _ _ => True

theorem cancelAllSends_ends (hE : E.LeavesCallbacks) (hquiet : E.QueuesNothing)
    (hown : ¬ E.foreign .cancelAllSends) (hcovers : Covers keys s)
    (h : OnlyCuts everything past) :
    leads machine E .cancelAllSends Action.cancelAllSends
      (fun _ s' past' => Cleared everything s' ∧ OnlyCuts everything past') s past := by
  induction hcount : waitingOn keys s using Nat.strong_induction_on
    generalizing s past with
  | _ count ih =>
      rw [Action.cancelAllSends, leads_get]
      dsimp only
      split
      · rename_i hnone
        refine ⟨?_, h⟩
        intro peerId peer priority op hpeer _ hop
        have hentry := List.findSome?_eq_none_iff.mp hnone (peerId, peer)
          (Std.ExtTreeMap.mem_toList_iff_getElem?_eq_some.mpr hpeer)
        have hremoved : peer.sq.remove .any = none := Option.map_eq_none_iff.mp hentry
        by_contra happ
        exact SendQueue.remove_eq_none.mp hremoved op
          ⟨SendQueue.mem_queued.mpr ⟨priority, hop⟩, happ⟩
      · rename_i peerId op hfound
        rcases List.exists_of_findSome?_eq_some hfound with ⟨⟨id, peer⟩, hentry, hop⟩
        rcases Option.map_eq_some_iff.mp hop with ⟨⟨op', rest⟩, hremoved, hsame⟩
        cases hsame
        change peer.sq.remove .any = some (op', rest) at hremoved
        have hpeer := Std.ExtTreeMap.mem_toList_iff_getElem?_eq_some.mp hentry
        apply leads_cancelQueued hE hquiet hcovers h hpeer hremoved
          (SendQueue.removeQueued_cutsOut hremoved)
        intro s' past' hcovers' hless h'
        show leads machine E _ (.call .cancelAllSends (.ret ())) _ _ _
        rw [leads_call hown]
        exact ih _ (hcount ▸ hless) hcovers' (h'.cons (by simp) (by simp)) rfl

theorem cancelPlayerSends_ends (hE : E.LeavesCallbacks) (hquiet : E.QueuesNothing)
    {player : DPNID} {flags : DWORD}
    (hflags : hasFlag flags dpnCancelPlayerSends = true)
    (hown : ¬ E.foreign (.cancelPlayerSends player flags)) (hcovers : Covers keys s)
    (h : OnlyCuts (playerScope player flags) past) :
    leads machine E (.cancelPlayerSends player flags)
      (Action.cancelPlayerSends player flags)
      (fun _ s' past' => Cleared (playerScope player flags) s' ∧
        OnlyCuts (playerScope player flags) past') s past := by
  induction hcount : waitingOn keys s using Nat.strong_induction_on
    generalizing s past with
  | _ count ih =>
      rw [Action.cancelPlayerSends, leads_get]
      split
      · rename_i hgone
        refine ⟨?_, h⟩
        intro peerId peer priority op _ hscope _
        rcases hscope.1 with ⟨found, hfound⟩
        rw [hgone] at hfound
        cases hfound
      · rename_i peerId peer hplayer
        have hpeer := DirectPlay8Peer.findPlayer_peer hplayer
        dsimp only
        split
        · rename_i hnone
          refine ⟨?_, h⟩
          intro id found priority op hfound hscope hop
          rcases hscope with ⟨⟨peer', hplayer'⟩, hselected⟩
          rw [hplayer] at hplayer'
          cases hplayer'
          rw [hpeer] at hfound
          cases hfound
          have hentry := List.findSome?_eq_none_iff.mp hnone priority
            ((mem_cancelledPriorities hflags priority).mpr hselected)
          have hremoved : peer.sq.remove (.priority priority) = none :=
            Option.map_eq_none_iff.mp hentry
          by_contra happ
          exact SendQueue.remove_eq_none.mp hremoved op ⟨hop, happ⟩
        · rename_i priority op hfound
          rcases List.exists_of_findSome?_eq_some hfound with
            ⟨wanted, hwanted, hop⟩
          rcases Option.map_eq_some_iff.mp hop with ⟨⟨op', rest⟩, hremoved, hsame⟩
          cases hsame
          change peer.sq.remove (.priority priority) = some (op', rest) at hremoved
          have hselected := (mem_cancelledPriorities hflags priority).mp hwanted
          apply leads_cancelQueued hE hquiet hcovers h hpeer hremoved
            (SendQueue.takeFrom_cutsOut ⟨⟨peer, hplayer⟩, hselected⟩ hremoved)
          intro s' past' hcovers' hless h'
          show leads machine E _ (.call (.cancelPlayerSends player flags) (.ret ()))
            _ _ _
          rw [leads_call hown]
          exact ih _ (hcount ▸ hless) hcovers' (h'.cons (by simp) (by simp)) rfl

end Loops

/-!
## The method
-/

/-- `CancelAsyncOperation` runs `connect_fail` before it cancels sends. -/
def DirectPlay8Peer.FailsConnect (s : DirectPlay8Peer) (flags : DWORD) : Prop :=
  hasFlag flags dpnCancelPlayerSends = false ∧
    (s.state = .connectingToHost ∨ s.state = .connectingToPeers) ∧
    s.connectHandle ≠ 0

def Proc.IsCallback (q : Proc) : Prop :=
  exists callback result, q = .invokeCallback callback result

/-- What a call has in its scope; nothing is ever queued for the local player. -/
def cancelScope (s : DirectPlay8Peer) (handle : DPNHANDLE) (flags : DWORD) : Scope :=
  if hasFlag flags dpnCancelPlayerSends then
    if handle = s.localPlayerId then fun _ _ _ => False
    else playerScope handle flags
  else everything

/--
With some procedures left aside and whatever the others do as long as they queue
nothing for the application, the call ends, nothing is left in its scope, and it has
only cut ops out of the queues and invoked their callbacks.
-/
def CancelsAll (aside : Proc -> Prop) (s : DirectPlay8Peer) (handle : DPNHANDLE)
    (flags : DWORD) : Prop :=
  forall E : Around, (forall q, E.foreign q ↔ aside q) -> E.QueuesNothing ->
    (Proc.cancelAsyncOperation handle flags).EndsIn E s fun s' past =>
      Cleared (cancelScope s handle flags) s' ∧
        OnlyCuts (cancelScope s handle flags) past

theorem log_returned {s : DirectPlay8Peer} {q : Proc} {method : Method}
    {result : HRESULT} (p : Proc) (command : Command)
    (h : (s, (.exec q (.log (.returned method result)) : StepLabel)).2 =
      .exec p command) : exists event, command = .log event := by
  cases h
  exact ⟨_, rfl⟩

theorem hasFlag_cancelMany {flags : DWORD}
    (h : hasFlag flags dpnCancelAllOperations = true) :
    hasFlag flags (dpnCancelEnum ||| dpnCancelConnect ||| dpnCancelAllOperations) =
      true := by
  rw [hasFlag, bne_iff_ne] at h ⊢
  intro hzero
  apply h
  have hpart : (dpnCancelEnum ||| dpnCancelConnect ||| dpnCancelAllOperations) &&&
      dpnCancelAllOperations = dpnCancelAllOperations := by decide
  rw [← hpart, ← UInt32.and_assoc, hzero]
  rfl

/--
`CancelAsyncOperation` for the sends to a player, or for all operations, cancels
exactly what it is asked to.  Where it runs `connect_fail` before, that is left aside
like the callbacks.
-/
theorem cancelsAll (s : DirectPlay8Peer) (handle : DPNHANDLE) {flags : DWORD}
    (hflags : hasFlag flags dpnCancelPlayerSends = true ∨
      hasFlag flags dpnCancelAllOperations = true) :
    CancelsAll (fun q => q.IsCallback ∨
        s.FailsConnect flags ∧ q = .connectFail dpnErrUserCancel [])
      s handle flags := by
  intro E haside hquiet
  have hE : E.LeavesCallbacks :=
    fun callback result => (haside _).mpr (Or.inl ⟨callback, result, rfl⟩)
  have hown : ¬ E.foreign .cancelAllSends := by
    rw [haside]
    simp [Proc.IsCallback]
  have hownPlayer : ¬ E.foreign (.cancelPlayerSends handle flags) := by
    rw [haside]
    simp [Proc.IsCallback]
  rw [Proc.endsIn_iff]
  show leads machine E _ (Action.cancelAsyncOperation handle flags) _ s []
  have hstart : forall scope, OnlyCuts scope [] := by
    intro scope
    constructor
    · intro deed hdeed
      cases hdeed
    · rfl
  rw [Action.cancelAsyncOperation, leads_get]
  unfold cancelScope
  dsimp only
  cases hplayer : hasFlag flags dpnCancelPlayerSends with
  | true =>
      rw [if_pos rfl, if_pos rfl]
      split
      · exact ⟨fun _ _ _ _ _ hscope _ => hscope.elim,
          (hstart _).cons log_returned (by simp)⟩
      split
      · rename_i hunknown
        refine ⟨?_, (hstart _).cons log_returned (by simp)⟩
        intro peerId peer priority op _ hscope _
        rcases hscope.1 with ⟨found, hfound⟩
        have hnone : s.findPlayer handle = none := Option.map_eq_none_iff.mp hunknown
        cases hnone.symm.trans hfound
      · show leads machine E _ (.call (.cancelPlayerSends handle flags)
          (Action.returns .cancelAsyncOperation sOk)) _ _ _
        rw [leads_call hownPlayer]
        apply leads_mono (cancelPlayerSends_ends hE hquiet hplayer hownPlayer
          (covers_keys s) ((hstart _).cons (by simp) (by simp)))
        intro _ s' past' hdone
        exact ⟨hdone.1, hdone.2.cons log_returned (by simp)⟩
  | false =>
      have hall : hasFlag flags dpnCancelAllOperations = true :=
        hflags.resolve_left (by rw [hplayer]; exact Bool.false_ne_true)
      rw [if_neg Bool.false_ne_true, if_neg Bool.false_ne_true,
        if_pos (hasFlag_cancelMany hall), bind_eq, leads_bind]
      -- `connect_fail` is left aside where it runs at all
      have hfirst : leads machine E (.cancelAsyncOperation handle flags)
          (Action.onlyIf (hasFlag flags (dpnCancelConnect ||| dpnCancelAllOperations) ∧
              (decide (s.state = .connectingToHost ∨ s.state = .connectingToPeers)) ∧
              s.connectHandle ≠ 0)
            (Action.invoke (.connectFail dpnErrUserCancel [])))
          (fun _ _ => OnlyCuts everything) s [] := by
        apply leads_onlyIf
        · intro hfails
          have hforeign : E.foreign (.connectFail dpnErrUserCancel []) := by
            apply (haside _).mpr
            exact Or.inr ⟨⟨hplayer, of_decide_eq_true hfails.2.1, hfails.2.2⟩, rfl⟩
          show leads machine E _ (.call (.connectFail dpnErrUserCancel [])
            (.ret ())) _ _ _
          rw [leads_foreign hforeign]
          intro s' _
          exact (hstart everything).cons (by simp) (by simp)
        · intro _
          exact hstart everything
      apply leads_mono hfirst
      intro _ s₁ past₁ h₁
      rw [bind_eq, leads_bind, Action.onlyIf, if_pos hall]
      show leads machine E _ (.call .cancelAllSends (.ret ())) _ _ _
      rw [leads_call hown]
      apply leads_mono (cancelAllSends_ends hE hquiet hown (covers_keys s₁)
        (h₁.cons (by simp) (by simp)))
      intro _ s₂ past₂ hdone
      exact ⟨hdone.1, hdone.2.cons log_returned (by simp)⟩

/-- A host takes back all that it has sent to its clients. -/
theorem cancelsAll_member :
    exists c : Run, Reaches machine DirectPlay8Peer.Constructed Unrestricted c ∧
      c.Free ∧ waitingOn c.state.peers.keys c.state ≠ 0 ∧
      CancelsAll (fun q => q.IsCallback ∨
          c.state.FailsConnect dpnCancelAllOperations ∧
            q = .connectFail dpnErrUserCancel [])
        c.state 0 dpnCancelAllOperations := by
  have hrun : (replay Unrestricted
      (choicesMember ++ [.start (.sendTo 0 [1] contextNull 0)])).any
      (fun c => decide (c.Free ∧ waitingOn c.state.peers.keys c.state ≠ 0)) = true := by
    decide +kernel
  rcases replay_reaches hrun with ⟨c, hc, htest⟩
  rcases of_decide_eq_true htest with ⟨hfree, hwaits⟩
  exact ⟨c, hc, hfree, hwaits, cancelsAll c.state 0 (Or.inr (by decide))⟩

/--
A client that connects to the player 3 has sent something to its host, which has let
it in.
-/
def choicesConnecting : List (Choice Answer Proc) :=
  choicesJoin [.dword 3, .dword 0, .dword 0] ++
    [.answer {}, .answer {}, .answer { ret := -1, err := wsaEWouldBlock },
      .answer { ret := -1, err := wsaEWouldBlock }, .answer {},
      .start (.sendTo 0 [1] contextNull dpnSendNoLoopback)]

def Proc.isCallback (q : Proc) : Bool :=
  q matches .invokeCallback ..

theorem Proc.isCallback_iff (q : Proc) : q.isCallback = true ↔ q.IsCallback := by
  cases q <;> simp [Proc.isCallback, Proc.IsCallback]

theorem aside_queuesNothing : Around.aside.QueuesNothing := by
  intro s s' hsame peerId
  cases hsame
  exact Nat.le_refl _

def Run.cancelled (c : Run) (handle : DPNHANDLE) (flags : DWORD) :
    Option (List (SendOp SendCallback) × List (SendCallback × HRESULT)) :=
  ((View.start machine (.cancelAsyncOperation handle flags) c.state []).final machine
    Proc.isCallback (fun _ => {}) 200).map fun v =>
      (Deeds.removed v.past, Deeds.invoked v.past)

theorem CancelsAll.cancelled {c : Run} {handle : DPNHANDLE} {flags : DWORD}
    (h : CancelsAll Proc.IsCallback c.state handle flags)
    {removed : List (SendOp SendCallback)} {invoked : List (SendCallback × HRESULT)}
    (hcancelled : c.cancelled handle flags = some (removed, invoked)) :
    invoked = removed.map fun op => (op.callback, dpnErrUserCancel) := by
  rcases Option.map_eq_some_iff.mp hcancelled with ⟨v, hfinal, hsame⟩
  cases hsame
  have haside : forall q, Around.aside.foreign q ↔ q.IsCallback := fun _ => Iff.rfl
  exact ((h Around.aside haside aside_queuesNothing).final Proc.isCallback_iff
    hfinal).2.invoked

/--
What a client that still connects has sent is cancelled with `DPNERR_GENERIC`, by
`connect_fail`.
-/
theorem connecting_not_cancelled :
    ¬ forall (c : Run) (handle : DPNHANDLE) (flags : DWORD),
      Reaches machine DirectPlay8Peer.Constructed Unrestricted c -> c.Free ->
      hasFlag flags dpnCancelPlayerSends = true ∨
        hasFlag flags dpnCancelAllOperations = true ->
      CancelsAll Proc.IsCallback c.state handle flags := by
  intro hclaim
  have hrun : (replay Unrestricted choicesConnecting).any
      (fun c => decide (c.Free ∧
        (c.cancelled 0 dpnCancelAllOperations).any (fun found => decide
          (found.2 ≠ found.1.map fun op => (op.callback, dpnErrUserCancel))))) =
        true := by
    decide +kernel
  rcases replay_reaches hrun with ⟨c, hc, htest⟩
  rcases of_decide_eq_true htest with ⟨hfree, hany⟩
  rcases (Option.any_eq_true _ _).mp hany with ⟨⟨removed, invoked⟩, hfound, hne⟩
  have hcancels := hclaim c 0 dpnCancelAllOperations hc hfree (Or.inr (by decide))
  exact of_decide_eq_true hne (hcancels.cancelled hfound)

end DirectPlayLite
