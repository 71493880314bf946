import DirectPlayLite.Peer.SendQueue

/-!
# Runs of a send queue

Whatever is asked of a queue and in whatever order, no op is lost, doubled or
overtaken by a later one of its priority, and the ops the library made itself are
not given away by the functions that remove ops.
-/

namespace DirectPlayLite
namespace SendQueue

variable {Callback : Type}

/-!
## Requests and what comes of them
-/

inductive Request (Callback : Type) where
  | send (priority : SendPriority) (op : SendOp Callback)
  | getPending
  | popPending
  | remove (wanted : Wanted)
deriving DecidableEq

/-- A queue, what was passed to `send` and what has left the queue. -/
structure Log (Callback : Type) where
  sq : SendQueue Callback
  sent : List (SendPriority × SendOp Callback)
  popped : List (SendOp Callback)
  removed : List (SendOp Callback)

def queue (sq : SendQueue Callback) : SendPriority -> List (SendOp Callback)
  | .low => sq.lowQueue
  | .medium => sq.mediumQueue
  | .high => sq.highQueue

/-- The ops in the three lists, the highest priority first. -/
def queued (sq : SendQueue Callback) : List (SendOp Callback) :=
  sq.highQueue ++ (sq.mediumQueue ++ sq.lowQueue)

namespace Log

def start : Log Callback :=
  { sq := empty, sent := [], popped := [], removed := [] }

def after (log : Log Callback) : Request Callback -> Log Callback
  | .send priority op =>
      { log with
        sq := log.sq.send priority op
        sent := log.sent ++ [(priority, op)] }
  | .getPending => { log with sq := log.sq.getPending }
  | .popPending =>
      { log with
        sq := log.sq.popPending
        popped := log.popped ++ log.sq.current.toList }
  | .remove wanted =>
      match log.sq.remove wanted with
      | none => log
      | some (op, sq) => { log with sq, removed := log.removed ++ [op] }

/-- Every op is a new object, and only the op being sent is popped. -/
def Allows (log : Log Callback) : Request Callback -> Prop
  | .send _ op => op.addr ∉ log.sent.map (·.2.addr)
  | .popPending => log.sq.current ≠ none
  | .getPending | .remove _ => True

def sentAt (log : Log Callback) (priority : SendPriority) :
    List (SendOp Callback) :=
  (log.sent.filter (·.1 == priority)).map Prod.snd

def places (log : Log Callback) : List (SendOp Callback) :=
  log.sq.queued ++ (log.sq.current.toList ++ (log.popped ++ log.removed))

end Log

inductive Runs (log : Log Callback) :
    List (Request Callback) -> Log Callback -> Prop where
  | nil : Runs log [] log
  | step {requests : List (Request Callback)} {log' : Log Callback}
      {request : Request Callback} :
      Runs log requests log' -> log'.Allows request ->
      Runs log (requests ++ [request]) (log'.after request)

/-!
## What is promised
-/

/-- Every op that was sent is in exactly one place, exactly once. -/
def Log.Placed (log : Log Callback) : Prop :=
  (log.sent.map Prod.snd).Perm log.places ∧
    (log.places.map SendOp.addr).Nodup

/-- The ops of a priority wait in the order they were sent in. -/
def Log.Ordered (log : Log Callback) : Prop :=
  forall priority, (log.sq.queue priority).Sublist (log.sentAt priority)

/-- `get_pending` returns the current op, or the first of the highest priority. -/
def Selects (sq : SendQueue Callback) : Prop :=
  sq.getPending.current = sq.current.or sq.queued.head?

/-- An op that may be removed by the application. -/
def Eligible (sq : SendQueue Callback) (op : SendOp Callback) :
    Wanted -> Prop
  | .any => op ∈ sq.queued ∧ op.asyncHandle ≠ 0
  | .handle handle =>
      op ∈ sq.queued ∧ op.asyncHandle ≠ 0 ∧ op.asyncHandle = handle
  | .priority priority => op ∈ sq.queue priority ∧ op.asyncHandle ≠ 0

/-- A removal returns an eligible op, which is not current, if there is one. -/
def Removes (sq : SendQueue Callback) (wanted : Wanted) : Prop :=
  (sq.remove wanted = none <-> forall op, ¬ sq.Eligible op wanted) ∧
    forall op rest, sq.remove wanted = some (op, rest) ->
      sq.Eligible op wanted ∧
        forall current, sq.current = some current -> op.addr ≠ current.addr

/-!
## Taking ops out of lists
-/

theorem takeFirst_eq_none {test : SendOp Callback -> Bool}
    {xs : List (SendOp Callback)} :
    takeFirst test xs = none <-> forall op, op ∈ xs -> test op = false := by
  induction xs with
  | nil => simp [takeFirst]
  | cons op rest ih =>
      rw [takeFirst]
      split
      · rename_i htest
        simp [htest]
      · rename_i htest
        simp [ih, htest]

theorem takeFirst_eq_some {test : SendOp Callback -> Bool}
    {xs others : List (SendOp Callback)} {found : SendOp Callback}
    (h : takeFirst test xs = some (found, others)) :
    found ∈ xs ∧ test found = true ∧ xs.Perm (found :: others) ∧
      others.Sublist xs := by
  induction xs generalizing others with
  | nil => cases h
  | cons op rest ih =>
      rw [takeFirst] at h
      split at h
      · rename_i htest
        cases h
        exact ⟨List.mem_cons_self, htest, List.Perm.refl _,
          List.sublist_cons_self _ _⟩
      · rcases Option.map_eq_some_iff.mp h with ⟨⟨found', others'⟩, htake, heq⟩
        cases heq
        rcases ih htake with ⟨hmem, htest, hperm, hsublist⟩
        refine ⟨List.mem_cons_of_mem _ hmem, htest, ?_, hsublist.cons_cons _⟩
        exact (hperm.cons op).trans (List.Perm.swap _ _ _)

structure Takes (sq : SendQueue Callback) (op : SendOp Callback)
    (rest : SendQueue Callback) : Prop where
  mem : op ∈ sq.queued
  current : rest.current = sq.current
  perm : sq.queued.Perm (op :: rest.queued)
  sublist : forall priority, (rest.queue priority).Sublist (sq.queue priority)

theorem takeFrom_eq_none {test : SendOp Callback -> Bool}
    {priority : SendPriority} {sq : SendQueue Callback} :
    sq.takeFrom test priority = none <->
      forall op, op ∈ sq.queue priority -> test op = false := by
  rw [← takeFirst_eq_none]
  cases priority <;> simp [takeFrom, queue]

theorem takeFrom_eq_some {test : SendOp Callback -> Bool}
    {priority : SendPriority} {sq rest : SendQueue Callback}
    {op : SendOp Callback} (h : sq.takeFrom test priority = some (op, rest)) :
    op ∈ sq.queue priority ∧ test op = true ∧ sq.Takes op rest := by
  cases priority with
  | low =>
      rcases Option.map_eq_some_iff.mp h with ⟨⟨found, others⟩, htake, heq⟩
      cases heq
      rcases takeFirst_eq_some htake with ⟨hmem, htest, hperm, hsublist⟩
      refine ⟨hmem, htest, ?_, rfl, ?_, ?_⟩
      · simp [queued, hmem]
      · simp only [queued, ← List.append_assoc]
        exact (hperm.append_left _).trans List.perm_middle
      · intro priority
        cases priority with
        | low => exact hsublist
        | medium => exact List.Sublist.refl _
        | high => exact List.Sublist.refl _
  | medium =>
      rcases Option.map_eq_some_iff.mp h with ⟨⟨found, others⟩, htake, heq⟩
      cases heq
      rcases takeFirst_eq_some htake with ⟨hmem, htest, hperm, hsublist⟩
      refine ⟨hmem, htest, ?_, rfl, ?_, ?_⟩
      · simp [queued, hmem]
      · exact ((hperm.append_right _).append_left _).trans List.perm_middle
      · intro priority
        cases priority with
        | low => exact List.Sublist.refl _
        | medium => exact hsublist
        | high => exact List.Sublist.refl _
  | high =>
      rcases Option.map_eq_some_iff.mp h with ⟨⟨found, others⟩, htake, heq⟩
      cases heq
      rcases takeFirst_eq_some htake with ⟨hmem, htest, hperm, hsublist⟩
      refine ⟨hmem, htest, ?_, rfl, ?_, ?_⟩
      · simp [queued, hmem]
      · exact hperm.append_right _
      · intro priority
        cases priority with
        | low => exact List.Sublist.refl _
        | medium => exact List.Sublist.refl _
        | high => exact hsublist

theorem mem_queued {sq : SendQueue Callback} {op : SendOp Callback} :
    op ∈ sq.queued <-> exists priority, op ∈ sq.queue priority := by
  constructor
  · intro h
    rcases List.mem_append.mp h with hhigh | h
    · exact ⟨.high, hhigh⟩
    · rcases List.mem_append.mp h with hmedium | hlow
      · exact ⟨.medium, hmedium⟩
      · exact ⟨.low, hlow⟩
  · rintro ⟨priority, h⟩
    cases priority <;> simp_all [queued, queue]

theorem takeAny_eq_none {test : SendOp Callback -> Bool}
    {first second third : SendPriority} {sq : SendQueue Callback}
    (hall : forall priority, priority = first ∨ priority = second ∨
      priority = third) :
    (sq.takeFrom test first).or
        ((sq.takeFrom test second).or (sq.takeFrom test third)) = none <->
      forall op, op ∈ sq.queued -> test op = false := by
  rw [Option.or_eq_none_iff, Option.or_eq_none_iff, takeFrom_eq_none,
    takeFrom_eq_none, takeFrom_eq_none]
  constructor
  · rintro ⟨hfirst, hsecond, hthird⟩ op hop
    rcases mem_queued.mp hop with ⟨priority, hmem⟩
    rcases hall priority with rfl | rfl | rfl
    · exact hfirst op hmem
    · exact hsecond op hmem
    · exact hthird op hmem
  · intro h
    exact ⟨fun op hop => h op (mem_queued.mpr ⟨_, hop⟩),
      fun op hop => h op (mem_queued.mpr ⟨_, hop⟩),
      fun op hop => h op (mem_queued.mpr ⟨_, hop⟩)⟩

theorem takeAny_eq_some {test : SendOp Callback -> Bool}
    {first second third : SendPriority} {sq rest : SendQueue Callback}
    {op : SendOp Callback}
    (h : (sq.takeFrom test first).or
      ((sq.takeFrom test second).or (sq.takeFrom test third)) =
        some (op, rest)) :
    test op = true ∧ sq.Takes op rest := by
  rcases Option.or_eq_some_iff.mp h with hfirst | ⟨_, h⟩
  · exact (takeFrom_eq_some hfirst).2
  · rcases Option.or_eq_some_iff.mp h with hsecond | ⟨_, hthird⟩
    · exact (takeFrom_eq_some hsecond).2
    · exact (takeFrom_eq_some hthird).2

theorem remove_eq_none {wanted : Wanted} {sq : SendQueue Callback} :
    sq.remove wanted = none <-> forall op, ¬ sq.Eligible op wanted := by
  cases wanted with
  | any =>
      rw [remove, removeQueued,
        takeAny_eq_none (by intro priority; cases priority <;> simp)]
      simp [Eligible]
  | handle handle =>
      rw [remove, removeQueuedByHandle,
        takeAny_eq_none (by intro priority; cases priority <;> simp)]
      simp [Eligible]
  | priority priority =>
      rw [remove, removeQueuedByPriority, takeFrom_eq_none]
      simp [Eligible]

theorem remove_eq_some {wanted : Wanted} {sq rest : SendQueue Callback}
    {op : SendOp Callback} (h : sq.remove wanted = some (op, rest)) :
    sq.Eligible op wanted ∧ sq.Takes op rest := by
  cases wanted with
  | any =>
      rcases takeAny_eq_some h with ⟨htest, htakes⟩
      exact ⟨⟨htakes.mem, by simpa using htest⟩, htakes⟩
  | handle handle =>
      rcases takeAny_eq_some h with ⟨htest, htakes⟩
      exact ⟨⟨htakes.mem, by simpa using htest⟩, htakes⟩
  | priority priority =>
      rcases takeFrom_eq_some h with ⟨hmem, htest, htakes⟩
      exact ⟨⟨hmem, by simpa using htest⟩, htakes⟩

theorem mem_of_remove (wanted : Wanted) {sq : SendQueue Callback} {op : SendOp Callback}
    (h : op ∈ (((sq.remove wanted).map Prod.snd).getD sq).ops) : op ∈ sq.ops := by
  cases hremoved : sq.remove wanted with
  | none => simpa [hremoved] using h
  | some found =>
      rcases found with ⟨removed, rest⟩
      have htakes := (remove_eq_some hremoved).2
      rw [hremoved] at h
      rcases List.mem_append.mp h with hcurrent | hqueued
      · exact List.mem_append_left _ (by simpa [htakes.current] using hcurrent)
      · exact List.mem_append_right _
          (htakes.perm.mem_iff.mpr (List.mem_cons_of_mem _ hqueued))

/-!
## Steps
-/

theorem selects (sq : SendQueue Callback) : sq.Selects := by
  unfold Selects getPending
  split <;> simp [queued]

theorem send_queue (priority other : SendPriority) (op : SendOp Callback)
    (sq : SendQueue Callback) :
    (sq.send priority op).queue other =
      if other = priority then sq.queue other ++ [op] else sq.queue other := by
  cases priority <;> cases other <;> rfl

theorem getPending_queue (priority : SendPriority) (sq : SendQueue Callback) :
    (sq.getPending.queue priority).Sublist (sq.queue priority) := by
  unfold getPending
  split <;> cases priority <;> simp [queue]

namespace Log

variable {log : Log Callback} {request : Request Callback}

theorem places_perm :
    log.places.Perm (log.sq.ops ++ (log.popped ++ log.removed)) := by
  unfold places ops queued
  rw [← List.append_assoc]
  exact List.perm_append_comm.append_right _

theorem Placed.of_perm {log' : Log Callback} (h : log.Placed)
    (hsent : log'.sent = log.sent) (hplaces : log'.places.Perm log.places) :
    log'.Placed := by
  constructor
  · rw [hsent]
    exact h.1.trans hplaces.symm
  · exact (hplaces.map _).nodup_iff.mpr h.2

theorem Placed.send {priority : SendPriority} {op : SendOp Callback}
    (h : log.Placed) (hnew : op.addr ∉ log.sent.map (·.2.addr)) :
    (log.after (.send priority op)).Placed := by
  have hplaces : (log.after (.send priority op)).places.Perm
      (op :: log.places) := by
    refine places_perm.trans ?_
    refine ((send_ops priority op log.sq).append_right _).trans ?_
    exact (places_perm.symm).cons op
  constructor
  · have hsent : (log.after (.send priority op)).sent.map Prod.snd =
        log.sent.map Prod.snd ++ [op] := by simp [after]
    rw [hsent]
    refine (List.perm_append_singleton op _).trans ?_
    exact (h.1.cons op).trans hplaces.symm
  · refine (hplaces.map _).nodup_iff.mpr ?_
    rw [List.map_cons, List.nodup_cons]
    refine ⟨?_, h.2⟩
    intro hmem
    apply hnew
    have hmap := (h.1.map SendOp.addr).mem_iff.mpr hmem
    simpa using hmap

theorem Placed.getPending (h : log.Placed) :
    (log.after .getPending).Placed := by
  refine h.of_perm rfl ?_
  refine places_perm.trans ?_
  simp only [after, getPending_ops]
  exact places_perm.symm

theorem Placed.popPending (h : log.Placed) (hcurrent : log.sq.current ≠ none) :
    (log.after .popPending).Placed := by
  refine h.of_perm rfl ?_
  rcases Option.ne_none_iff_exists'.mp hcurrent with ⟨op, hop⟩
  simp only [places, after, hop, SendQueue.popPending, queued,
    Option.toList_none, Option.toList_some, List.nil_append]
  refine List.Perm.append_left _ ?_
  rw [List.append_assoc]
  exact List.perm_middle

theorem Placed.remove {wanted : Wanted} (h : log.Placed) :
    (log.after (.remove wanted)).Placed := by
  simp only [after]
  split
  · exact h
  · rename_i op rest hremove
    have htakes := (remove_eq_some hremove).2
    refine h.of_perm rfl ?_
    simp only [places, htakes.current]
    refine List.Perm.trans ?_ (htakes.perm.symm.append_right _)
    simp only [← List.append_assoc]
    exact List.perm_append_singleton op _

theorem Placed.after (h : log.Placed) (hallowed : log.Allows request) :
    (log.after request).Placed := by
  cases request with
  | send priority op => exact h.send hallowed
  | getPending => exact h.getPending
  | popPending => exact h.popPending hallowed
  | remove wanted => exact h.remove

theorem Ordered.send {priority : SendPriority} {op : SendOp Callback}
    (h : log.Ordered) : (log.after (.send priority op)).Ordered := by
  intro other
  simp only [Log.after, send_queue, sentAt, List.filter_append, List.map_append]
  by_cases hother : other = priority
  · subst hother
    rw [if_pos rfl]
    refine (h other).append ?_
    simp
  · rw [if_neg hother]
    exact (h other).trans (List.sublist_append_left _ _)

theorem Ordered.after (h : log.Ordered) : (log.after request).Ordered := by
  cases request with
  | send priority op => exact h.send
  | getPending =>
      intro priority
      exact (getPending_queue priority log.sq).trans (h priority)
  | popPending =>
      intro priority
      cases priority with
      | low => exact h .low
      | medium => exact h .medium
      | high => exact h .high
  | remove wanted =>
      simp only [Log.after]
      split
      · exact h
      · rename_i op rest hremove
        intro priority
        exact ((remove_eq_some hremove).2.sublist priority).trans (h priority)

theorem current_after {op : SendOp Callback} (h : log.sq.current = some op)
    (hrequest : request ≠ .popPending) :
    (log.after request).sq.current = some op := by
  cases request with
  | send priority other => cases priority <;> exact h
  | getPending =>
      have hselects := selects log.sq
      rw [Selects, h] at hselects
      exact hselects
  | popPending => exact absurd rfl hrequest
  | remove wanted =>
      simp only [Log.after]
      split
      · exact h
      · rename_i other rest hremove
        exact (remove_eq_some hremove).2.current.trans h

theorem Placed.removes (h : log.Placed) (wanted : Wanted) :
    log.sq.Removes wanted := by
  refine ⟨remove_eq_none, ?_⟩
  intro op rest hremove
  rcases remove_eq_some hremove with ⟨heligible, htakes⟩
  refine ⟨heligible, ?_⟩
  intro current hcurrent haddr
  have hnodup := h.2
  rw [places, List.map_append, List.nodup_append] at hnodup
  refine hnodup.2.2 op.addr (List.mem_map_of_mem htakes.mem) current.addr ?_ haddr
  simp [hcurrent]

end Log

/-!
## Runs
-/

section Runs

variable {log log' : Log Callback} {requests : List (Request Callback)}

theorem Runs.placed (h : Runs log requests log') (hplaced : log.Placed) :
    log'.Placed := by
  induction h with
  | nil => exact hplaced
  | step _ hallowed ih => exact ih.after hallowed

theorem Runs.ordered (h : Runs log requests log') (hordered : log.Ordered) :
    log'.Ordered := by
  induction h with
  | nil => exact hordered
  | step _ _ ih => exact ih.after

theorem Runs.current {op : SendOp Callback} (h : Runs log requests log')
    (hcurrent : log.sq.current = some op) (hpop : .popPending ∉ requests) :
    log'.sq.current = some op := by
  induction h with
  | nil => exact hcurrent
  | step _ _ ih =>
      rw [List.mem_append, not_or] at hpop
      refine Log.current_after (ih hpop.1) ?_
      rintro rfl
      exact hpop.2 (List.mem_singleton_self _)

/-- What a send queue promises its users, in every run. -/
theorem runs_keep_ops (h : Runs Log.start requests log) :
    log.Placed ∧ log.Ordered ∧ log.sq.Selects ∧
      (forall later log' op, Runs log later log' -> .popPending ∉ later ->
        log.sq.current = some op -> log'.sq.getPending.current = some op) ∧
      forall wanted, log.sq.Removes wanted := by
  have hplaced : log.Placed := h.placed ⟨List.Perm.refl _, List.nodup_nil⟩
  have hordered : log.Ordered := by
    apply h.ordered
    intro priority
    cases priority <;> exact List.Sublist.refl _
  refine ⟨hplaced, hordered, selects log.sq, ?_, hplaced.removes⟩
  intro later log' op hlater hpop hcurrent
  have hlast := hlater.current hcurrent hpop
  have hselects := selects log'.sq
  rw [Selects, hlast] at hselects
  exact hselects

/-- The op of the application is removed, the one being sent is not. -/
theorem runs_keep_ops_cancelled :
    exists (requests : List (Request Unit)) (log : Log Unit),
      Runs Log.start requests log ∧ log.removed ≠ [] ∧
        log.sq.current ≠ none ∧
        log.Placed ∧ log.Ordered ∧ log.sq.Selects ∧
        (forall later log' op, Runs log later log' -> .popPending ∉ later ->
          log.sq.current = some op -> log'.sq.getPending.current = some op) ∧
        forall wanted, log.sq.Removes wanted := by
  let own : SendOp Unit := ⟨0, [1], 0, none, 0, ()⟩
  let theirs : SendOp Unit := ⟨1, [2], 0, none, 5, ()⟩
  have h₀ : Runs Log.start [] (Log.start : Log Unit) := Runs.nil
  have h₁ := h₀.step (show Log.Allows _ (.send .high own) by
    simp [Log.Allows, Log.start])
  have h₂ := h₁.step (show Log.Allows _ (.send .low theirs) by
    simp [Log.Allows, Log.start, Log.after, own, theirs])
  have h₃ := h₂.step (show Log.Allows _ .getPending from trivial)
  have h₄ := h₃.step (show Log.Allows _ (.remove (.handle 5)) from trivial)
  exact ⟨_, _, h₄, by decide, by decide, runs_keep_ops h₄⟩

end Runs

end SendQueue
end DirectPlayLite
