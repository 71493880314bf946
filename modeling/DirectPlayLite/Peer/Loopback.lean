import DirectPlayLite.Peer.Placing
import DirectPlayLite.Pool.Work

/-!
# Messages to oneself

An asynchronous `SendTo` queues the message for the local player as work.  Whichever
worker takes it gives up the lock, and calls the message handler later.
-/

namespace DirectPlayLite

namespace WorkState

variable {Worker Work : Type}

/--
The message handler is called for a message only when it has been called for every one
that has been queued before it.
-/
def ReceivesInOrder (s : WorkState Worker Work) : Prop :=
  forall before number after, s.received = before ++ number :: after ->
    forall earlier, earlier < number -> earlier ∈ before

/--
A worker calls the message handler only for the oldest of the items that have been taken
and not called it for.
-/
def OldestFirst (s : WorkState Worker Work) : WorkLabel Worker Work -> Prop
  | .receive worker => forall item, item ∈ (s.phase worker).uncalled ->
      forall other item', item' ∈ (s.phase other).uncalled -> item.number ≤ item'.number
  | _ => True

instance [Fintype Worker] {s : WorkState Worker Work} {label : WorkLabel Worker Work} :
    Decidable (s.OldestFirst label) := by
  unfold OldestFirst
  split <;> infer_instance

/-!
## What the order takes
-/

section Order

variable {s s' : WorkState Worker Work} {label : WorkLabel Worker Work} {number : Nat}

theorem receivesInOrder_concat (hreceived : s'.received = s.received ++ [number]) :
    s'.ReceivesInOrder ↔
      s.ReceivesInOrder ∧ forall earlier, earlier < number -> earlier ∈ s.received := by
  constructor
  · intro h
    constructor
    · intro before n after hsplit
      apply h before n (after ++ [number])
      rw [hreceived, hsplit, List.append_assoc, List.cons_append]
    · exact h s.received number [] hreceived
  · intro h before n after hsplit
    rw [hreceived] at hsplit
    rcases List.eq_nil_or_concat after with hlast | ⟨after', last, hmore⟩
    · rw [hlast] at hsplit
      rcases List.append_inj' hsplit rfl with ⟨hbefore, hnumber⟩
      rw [← hbefore, ← List.singleton_inj.mp hnumber]
      exact h.2
    · rw [hmore, List.concat_eq_append, ← List.cons_append, ← List.append_assoc] at hsplit
      exact h.1 before n after' (List.append_inj' hsplit rfl).1

theorem Accounted.oldestFirst_iff (h : s.Accounted ServingPhase.uncalled s.received)
    {worker : Worker} {item : WorkItem Work}
    (hitem : (s.phase worker).uncalled = some item) :
    s.OldestFirst (.receive worker) ↔
      forall earlier, earlier < item.number -> earlier ∈ s.received := by
  constructor
  · intro holdest earlier hless
    have htaken : earlier < s.taken :=
      Nat.lt_trans hless (h.held worker item.number ⟨item, hitem, rfl⟩).1
    rcases h.covered earlier htaken with hreceived | ⟨other, item', hitem', hnumber⟩
    · exact hreceived
    · have hle := holdest item hitem other item' hitem'
      rw [hnumber] at hle
      exact absurd hless (Nat.not_lt_of_le hle)
  · intro hall found hfound other item' hitem'
    cases hitem.symm.trans hfound
    by_contra hless
    have hreceived := hall item'.number (Nat.lt_of_not_le hless)
    exact (h.held other item'.number ⟨item', hitem', rfl⟩).2 hreceived

variable [DecidableEq Worker]

theorem Accounted.step_received (h : s.Accounted ServingPhase.uncalled s.received)
    (hstep : Step s label s') : s'.Accounted ServingPhase.uncalled s'.received := by
  cases hstep with
  | queueWork => exact h.queueWork _
  | leave hphase => exact h.congr rfl rfl (holds_move (by rw [hphase]; rfl))
  | «return» hphase => exact h.congr rfl rfl (holds_move (by rw [hphase]; rfl))
  | wake hphase _ => exact h.congr rfl rfl (holds_move (by rw [hphase]; rfl))
  | handleWork hphase =>
      unfold WorkState.handleWork
      split
      · exact h.congr rfl rfl (holds_move (by rw [hphase]; rfl))
      · rename_i item rest hqueue
        exact h.take (by rw [hphase]; rfl) rfl hqueue _
  | run hphase => exact h.congr rfl rfl (holds_move (by rw [hphase]; rfl))
  | receive hphase =>
      exact (h.move (by rw [hphase]; rfl) rfl).congr rfl rfl fun _ _ => Iff.rfl
  | finish hphase => exact h.congr rfl rfl (holds_move (by rw [hphase]; rfl))

theorem Reaches.received_accounted
    {cond : WorkState Worker Work -> WorkLabel Worker Work -> Prop} (h : Reaches cond s) :
    s.Accounted ServingPhase.uncalled s.received := by
  induction h with
  | start => exact start_accounted rfl
  | step _ hstep _ ih => exact ih.step_received hstep

theorem Step.receivesInOrder_iff (hstep : Step s label s')
    (h : s.Accounted ServingPhase.uncalled s.received) :
    s'.ReceivesInOrder ↔ s.ReceivesInOrder ∧ s.OldestFirst label := by
  cases hstep with
  | queueWork => exact (and_iff_left trivial).symm
  | leave _ => exact (and_iff_left trivial).symm
  | «return» _ => exact (and_iff_left trivial).symm
  | wake _ _ => exact (and_iff_left trivial).symm
  | handleWork _ =>
      unfold WorkState.handleWork
      split <;> exact (and_iff_left trivial).symm
  | run _ => exact (and_iff_left trivial).symm
  | receive hphase =>
      rw [receivesInOrder_concat rfl, h.oldestFirst_iff (by rw [hphase]; rfl)]
  | finish _ => exact (and_iff_left trivial).symm

/-- The messages are received in order in the runs that call for the oldest first. -/
theorem received_in_order_iff (h : Reaches (fun _ _ => True) s) :
    s.ReceivesInOrder ↔ Reaches OldestFirst s := by
  constructor
  · intro horder
    induction h with
    | start => exact .start
    | step hreaches hstep _ ih =>
        have hkept := (hstep.receivesInOrder_iff hreaches.received_accounted).mp horder
        exact (ih hkept.1).step hstep hkept.2
  · intro holdest
    clear h
    induction holdest with
    | start =>
        intro before number after hsplit
        cases before <;> cases hsplit
    | step hreaches hstep hcond ih =>
        exact (hstep.receivesInOrder_iff hreaches.received_accounted).mpr ⟨ih, hcond⟩

end Order

/-- Two messages whose workers overlap, and are received in the order they were sent. -/
theorem received_in_order_two :
    exists s : WorkState (Fin 4) DirectPlayLite.Work, Reaches (fun _ _ => True) s ∧
      s.received = [0, 1] ∧ s.ReceivesInOrder := by
  have hrun : ((start : WorkState (Fin 4) DirectPlayLite.Work).play OldestFirst
      [.queueWork ⟨[1], 0, 0⟩, .queueWork ⟨[2], 0, 1⟩, .wake 0, .handleWork 0, .wake 1,
        .handleWork 1, .run 1, .run 0, .receive 0, .receive 1]).any
      (fun s => decide (s.received = [0, 1])) = true := by
    decide
  rcases (Option.any_eq_true _ _).mp hrun with ⟨s, hplay, hreceived⟩
  have holdest : Reaches OldestFirst s := play_reaches .start hplay
  exact ⟨s, holdest.anyhow, of_decide_eq_true hreceived,
    (received_in_order_iff holdest.anyhow).mpr holdest⟩

/-- The worker with the second message calls the message handler before the other. -/
theorem received_out_of_order :
    ¬ forall s : WorkState (Fin 4) DirectPlayLite.Work, Reaches (fun _ _ => True) s ->
      s.ReceivesInOrder := by
  intro hclaim
  have hrun : ((start : WorkState (Fin 4) DirectPlayLite.Work).play (fun _ _ => True)
      [.queueWork ⟨[1], 0, 0⟩, .queueWork ⟨[2], 0, 1⟩, .wake 0, .handleWork 0, .wake 1,
        .handleWork 1, .run 1, .receive 1]).any
      (fun s => decide (s.received = [1])) = true := by
    decide
  rcases (Option.any_eq_true _ _).mp hrun with ⟨s, hplay, hreceived⟩
  have hreaches : Reaches (fun _ _ => True) s := play_reaches .start hplay
  have hearlier := hclaim s hreaches [] 1 [] (of_decide_eq_true hreceived) 0 Nat.one_pos
  cases hearlier

/-!
## One message at a time
-/

section Alone

variable [DecidableEq Worker] {s s' : WorkState Worker Work} {label : WorkLabel Worker Work}

def OneAtATime (s : WorkState Worker Work) : WorkLabel Worker Work -> Prop
  | .handleWork _ => forall worker, (s.phase worker).uncalled = none
  | _ => True

def Alone (s : WorkState Worker Work) : Prop :=
  forall worker other, (s.phase worker).uncalled ≠ none ->
    (s.phase other).uncalled ≠ none -> worker = other

theorem Alone.move (h : s.Alone) {worker : Worker} {phase : ServingPhase Work}
    (hless : (s.phase worker).uncalled = none -> phase.uncalled = none) :
    (s.move worker phase).Alone := by
  have hbefore : forall other, ((s.move worker phase).phase other).uncalled ≠ none ->
      (s.phase other).uncalled ≠ none := by
    intro other hsome hnone
    by_cases hother : other = worker
    · subst hother
      rw [phase_move_self] at hsome
      exact hsome (hless hnone)
    · rw [phase_move_of_ne hother] at hsome
      exact hsome hnone
  intro first second hfirst hsecond
  exact h first second (hbefore first hfirst) (hbefore second hsecond)

theorem Alone.step (h : s.Alone) (hstep : Step s label s') (hcond : s.OneAtATime label) :
    s'.Alone := by
  cases hstep with
  | queueWork => exact h
  | leave _ => exact h.move fun _ => rfl
  | «return» _ => exact h.move fun _ => rfl
  | wake _ _ => exact h.move fun _ => rfl
  | @handleWork worker _ =>
      unfold WorkState.handleWork
      split
      · exact h.move fun _ => rfl
      · rename_i item rest _
        have htaker : forall other,
            ((s.move worker (.holding item)).phase other).uncalled ≠ none ->
              other = worker := by
          intro other hsome
          by_contra hother
          rw [phase_move_of_ne hother] at hsome
          exact hsome (hcond other)
        intro first second hfirst hsecond
        exact (htaker first hfirst).trans (htaker second hsecond).symm
  | run hphase => exact h.move fun hnone => by rw [hphase] at hnone; cases hnone
  | receive _ => exact h.move fun _ => rfl
  | finish _ => exact h.move fun _ => rfl

theorem Reaches.oldestFirst (h : Reaches OneAtATime s) : Reaches OldestFirst s ∧ s.Alone := by
  induction h with
  | start => exact ⟨.start, fun _ _ hsome => absurd rfl hsome⟩
  | @step s s' label _ hstep hcond ih =>
      refine ⟨ih.1.step hstep ?_, ih.2.step hstep hcond⟩
      cases label with
      | receive worker =>
          intro item hitem other item' hitem'
          have hsame : worker = other :=
            ih.2 worker other (Option.ne_none_iff_exists'.mpr ⟨item, hitem⟩)
              (Option.ne_none_iff_exists'.mpr ⟨item', hitem'⟩)
          subst hsame
          cases hitem.symm.trans hitem'
          exact Nat.le_refl _
      | _ => trivial

end Alone

end WorkState

/-!
## The work of a peer
-/

inductive LoopbackEvent where
  | queued (work : Work)
  | taken
  | received (sender : DPNID) (ctx : Context) (payload : List UInt8) (flags : DWORD)

def Command.loopback : Command -> Option LoopbackEvent
  | .pushWork work => some (.queued work)
  | .popWork => some .taken
  | .log (.raised (.receive sender ctx payload flags)) =>
      some (.received sender ctx payload flags)
  | _ => none

def Deeds.loopback (past : Deeds) : List LoopbackEvent :=
  past.reverse.filterMap fun deed =>
    match deed.2 with
    | .exec _ command => command.loopback
    | _ => none

def DirectPlay8Peer.QueuesAs {Worker : Type} (s : DirectPlay8Peer)
    (w : WorkState Worker Work) : Prop :=
  s.workQueue = w.workQueue.map WorkItem.work

section Queues

variable {Worker : Type} {s : DirectPlay8Peer} {w : WorkState Worker Work}

theorem DirectPlay8Peer.QueuesAs.pushWork (h : s.QueuesAs w) (work : Work) :
    ((Command.pushWork work).apply s).QueuesAs (w.queueWork work) := by
  show s.workQueue ++ [work] = 
    (w.workQueue ++ [(⟨w.queued, work⟩ : WorkItem Work)]).map WorkItem.work
  rw [List.map_append, ← h]
  rfl

theorem DirectPlay8Peer.QueuesAs.popWork [DecidableEq Worker] (h : s.QueuesAs w)
    (worker : Worker) : (Command.popWork.apply s).QueuesAs (w.handleWork worker) := by
  have htail : (Command.popWork.apply s).workQueue =
      (w.workQueue.map WorkItem.work).tail := congrArg List.tail h
  unfold WorkState.handleWork
  split
  · rename_i hnone
    rw [hnone] at htail
    rw [DirectPlay8Peer.QueuesAs, htail]
    show [] = w.workQueue.map WorkItem.work
    rw [hnone]
    rfl
  · rename_i item rest hqueue
    rw [hqueue] at htail
    exact htail

end Queues

section Loopback

open Monitor Program

variable {E : Around} {p : Proc} {s s' : DirectPlay8Peer} {past : Deeds}
  {events : List LoopbackEvent}
  {specs : Specs DirectPlay8Peer Command Query Answer Proc Fault}

theorem loopback_cons (deed : Deed) (past : Deeds) :
    Deeds.loopback (deed :: past) = past.loopback ++ Deeds.loopback [deed] := by
  unfold Deeds.loopback
  rw [List.reverse_cons, List.filterMap_append]
  rfl

theorem loopback_exec (command : Command) (h : past.loopback = events) :
    Deeds.loopback ((s, .exec p command) :: past) = events ++ command.loopback.toList := by
  rw [loopback_cons, h]
  unfold Deeds.loopback
  cases hloopback : command.loopback <;> simp [hloopback]

theorem loopback_noted (label : StepLabel) (hquiet : label.IsQuiet)
    (h : past.loopback = events) : Deeds.loopback ((s, label) :: past) = events := by
  rw [loopback_cons, h]
  cases label with
  | exec proc command => exact absurd rfl (hquiet proc command)
  | _ => exact List.append_nil _

abbrev withoutLoopback : Footprint Command Proc Fault :=
  .within (fun command => command.loopback = none) (fun _ => False)
    fun _ => True

theorem loopback_stable :
    Stable machine E withoutLoopback.commands fun _ past => Deeds.loopback past = events where
  exec := by
    intro p command s past hcommand h
    rw [loopback_exec command h, hcommand]
    exact List.append_nil _
  others := fun _ _ _ _ h => h
  noted := fun _ _ _ _ hquiet h => loopback_noted _ hquiet h

theorem allows_besides {α : Type} {prog : Action α} (huses : prog.Uses withoutLoopback)
    (h : past.loopback = events) :
    allows machine E specs p prog (fun _ _ past' => Deeds.loopback past' = events) s past :=
  allows_of_uses huses loopback_stable (fun _ _ _ _ _ hcalls => hcalls.elim) h

variable {player : DPNID} {payload : List UInt8} {ctx : Context} {flags : DWORD}
  {peerIds : List UInt32}

theorem sendTo_queues
    (hstate : s.state ∈
      [State.hosting, .connectingToHost, .connectingToPeers, .connected])
    (hprocess : hasFlag flags dpnSendCompleteOnProcess = false)
    (hasync : hasFlag flags dpnOpSync = false)
    (htargets : Action.sendTargets s player flags = .targets peerIds true)
    (hreturns : Returns machine E (.sendTo player payload ctx flags) s s' past) :
    past.loopback = [.queued { payload, flags, completion := s.nextAddr }] := by
  rcases sendTo_taken payload ctx hstate hprocess htargets with ⟨next, hbody, hnext⟩
  rw [hasync] at hnext
  have hallows : allows machine E (fun _ _ _ _ _ => True)
      (.sendTo player payload ctx flags)
      (Action.sendAsync payload ctx flags peerIds true)
      (fun _ _ past' =>
        Deeds.loopback past' = [.queued { payload, flags, completion := s.nextAddr }]) s [] := by
    have hnone : Deeds.loopback [] = [] := rfl
    rw [Action.sendAsync, allows_get, allows_perform, allows_perform, bind_eq, allows_bind]
    apply allows_mono (allows_besides ?_
      (loopback_exec _ (loopback_exec _ hnone)))
    · intro _ s₁ past₁ h₁
      rw [bind_eq, allows_bind]
      apply allows_mono (allows_besides ?_ h₁)
      · intro _ s₂ past₂ h₂
        rw [Action.onlyIf, if_pos rfl, allows_perform]
        exact allows_besides (And.intro rfl trivial) (loopback_exec _ h₂)
      · exact Uses.forEach fun _ _ => And.intro rfl trivial
    · exact Uses.onlyIf fun _ => And.intro trivial trivial
  apply hreturns.allowed (unspecified E)
  show allows machine E _ _ (Action.sendTo player payload ctx flags) _ s []
  rw [hbody]
  show allows machine E _ _ (next s) _ s []
  rw [hnext]
  exact hallows

theorem complete_besides (addr : Nat) (result : HRESULT) :
    (Action.complete addr result).Uses withoutLoopback := by
  unfold Action.complete
  repeat' with_reducible first
    | apply Uses.onlyIf
    | apply Action.uses_bind
    | intro _
    | split
  all_goals simp [withoutLoopback, Command.loopback]

theorem handleWork_receives {Worker : Type} {w : WorkState Worker Work}
    {item : WorkItem Work} {rest : List (WorkItem Work)} (hqueues : s.QueuesAs w)
    (hqueue : w.workQueue = item :: rest)
    (hreturns : Returns machine E .handleWork s s' past) :
    exists sender ctx, past.loopback =
      [.taken, .received sender ctx item.work.payload
        (Action.receiveFlags item.work.flags)] := by
  have hwork : s.workQueue = item.work :: rest.map WorkItem.work := by
    rw [hqueues, hqueue]
    rfl
  have hallows : allows machine E (fun _ _ _ _ _ => True) .handleWork
      (Action.workerCallback Action.handleWork)
      (fun _ _ past' => exists sender ctx, Deeds.loopback past' =
        [.taken, .received sender ctx item.work.payload
          (Action.receiveFlags item.work.flags)]) s [] := by
    have hnone : Deeds.loopback [] = [] := rfl
    have hentered := loopback_exec (s := s) (p := Proc.handleWork) .enterWorker hnone
    rw [Action.workerCallback, allows_perform, bind_eq, allows_bind, Action.handleWork,
      allows_get]
    have hentry : (Command.enterWorker.apply s).workQueue = _ := hwork
    rw [hentry]
    dsimp only
    rw [allows_perform]
    have htaken := loopback_exec (s := Command.enterWorker.apply s)
      (p := Proc.handleWork) .popWork hentered
    intro s₁ answer _ _ _
    have hlocked := loopback_noted (s := s₁) (.resume .handleWork .wait answer)
      (by simp [Label.IsQuiet]) htaken
    show allows machine E _ _ (Action.raise _ >>= fun _ =>
      Action.complete item.work.completion sOk) _ s₁ _
    apply allows_raise
    intro s₂ answer' _
    let received : Notification := .receive s₁.localPlayerId s₁.localPlayerCtx
      item.work.payload (Action.receiveFlags item.work.flags)
    have hraised := loopback_exec (s := s₁) (p := Proc.handleWork)
      (.log (.raised received)) hlocked
    have hreturned := loopback_noted (s := s₂)
      (.resume .handleWork (.messageHandler received) answer')
      (by simp [Label.IsQuiet]) hraised
    apply allows_mono (allows_besides (complete_besides _ _) hreturned)
    intro _ s₃ past₃ h₃
    have hleft := loopback_exec (s := s₃) (p := Proc.handleWork) .leaveWorker h₃
    exact ⟨_, _, hleft⟩
  exact hreturns.allowed (unspecified E) hallows

end Loopback

end DirectPlayLite
