import DirectPlayLite.Peer.Players
import DirectPlayLite.Peer.Queueing

/-!
# What `Close` leaves behind

`Close` empties the tables one after another and gives up the lock in between.
What it has emptied stays empty as long as nothing is added while it waits.  It never
looks at the queue of datagrams, that of the worker threads and the table of the
players: those stay as empty as it found them, or as `peer_destroy` leaves them.
-/

namespace DirectPlayLite

open Monitor Program

namespace DirectPlay8Peer

structure Emptied (s : DirectPlay8Peer) : Prop where
  peers : s.peers = ∅
  playerToPeerId : s.playerToPeerId = ∅
  groups : s.groups = ∅
  destroyedGroups : s.destroyedGroups = ∅
  asyncHostEnums : s.asyncHostEnums = ∅
  syncHostEnums : s.syncHostEnums = 0
  udpSq : s.udpSq.ops = []
  workQueue : s.workQueue = []

structure StaysEmpty (s s' : DirectPlay8Peer) : Prop where
  peers : s.peers = ∅ -> s'.peers = ∅
  groups : s.groups = ∅ -> s'.groups = ∅
  asyncHostEnums : s.asyncHostEnums = ∅ -> s'.asyncHostEnums = ∅
  syncHostEnums : s.syncHostEnums = 0 -> s'.syncHostEnums = 0
  udpSq : s.udpSq.ops = [] -> s'.udpSq.ops = []
  workQueue : s.workQueue = [] -> s'.workQueue = []

theorem StaysEmpty.refl (s : DirectPlay8Peer) : StaysEmpty s s :=
  ⟨id, id, id, id, id, id⟩

theorem StaysEmpty.trans {s s' s'' : DirectPlay8Peer} (h : StaysEmpty s s')
    (h' : StaysEmpty s' s'') : StaysEmpty s s'' where
  peers := h'.peers ∘ h.peers
  groups := h'.groups ∘ h.groups
  asyncHostEnums := h'.asyncHostEnums ∘ h.asyncHostEnums
  syncHostEnums := h'.syncHostEnums ∘ h.syncHostEnums
  udpSq := h'.udpSq ∘ h.udpSq
  workQueue := h'.workQueue ∘ h.workQueue

/-- Neither a datagram nor a message to the local player is waiting. -/
def Quiescent (s : DirectPlay8Peer) : Prop :=
  s.udpSq.ops = [] ∧ s.workQueue = []

theorem StaysEmpty.quiescent {s s' : DirectPlay8Peer} (h : StaysEmpty s s')
    (hquiescent : s.Quiescent) : s'.Quiescent :=
  ⟨h.udpSq hquiescent.1, h.workQueue hquiescent.2⟩

end DirectPlay8Peer

/-!
## Conditions
-/

/-- The command puts something into an empty table or queue. -/
def Command.fills (s : DirectPlay8Peer) : Command -> Bool
  | .insertPeer .. => s.peers.isEmpty
  | .emplaceGroup .. => s.groups.isEmpty
  | .insertHostEnum _ => s.asyncHostEnums.isEmpty
  | .addSyncHostEnum => s.syncHostEnums == 0
  | .udpSend .. => s.udpSq.ops.isEmpty
  | .pushWork _ => s.workQueue.isEmpty
  | _ => false

/--
`Close` does not begin to tear the session down while a datagram or a message to the
local player is waiting, and nothing is put into an empty table or queue until it is
done.
-/
def CloseGuarded (s : DirectPlay8Peer) (M : Multiset Proc) :
    StepLabel -> Prop
  | .exec _ command => command.fills s = true -> tokens Proc.isClosing M = 0
  | .call _ callee => callee.isClosing = true -> s.Quiescent
  | _ => True

def Proc.Empties (s : DirectPlay8Peer) : Proc -> Prop
  | .peerDestroyAll .. => s.peers = ∅
  | .groupDestroyAll .. => s.groups = ∅
  | _ => True

structure DirectPlay8Peer.Drained (s : DirectPlay8Peer) : Prop where
  peers : s.peers = ∅
  groups : s.groups = ∅
  destroyedGroups : s.destroyedGroups = ∅
  asyncHostEnums : s.asyncHostEnums = ∅
  syncHostEnums : s.syncHostEnums = 0
  udpSq : s.udpSq.ops = []
  workQueue : s.workQueue = []

def closeContract : Contract machine where
  cond := CloseGuarded
  inv := fun _ _ => True
  free := fun _ => True
  guar := fun _ command s =>
    command = .log (.returned .close sOk) -> s.Drained
  rely := fun p s s' => p.isClosing = true -> s.StaysEmpty s'
  pre := fun p s _ => p.isClosing = true -> s.Quiescent
  post := fun p _ s' _ => p.Empties s'
  faults := fun _ => True
  rely_refl := fun _ s _ => .refl s
  rely_trans := fun _ _ _ _ h h' hclosing =>
    (h hclosing).trans (h' hclosing)

/-!
## Commands
-/

theorem Command.staysEmpty {command : Command} {s : DirectPlay8Peer}
    (h : ¬ command.fills s = true) : s.StaysEmpty (command.apply s) := by
  have hkeeps := DirectPlay8Peer.StaysEmpty.refl s
  cases command with
  | insertPeer peerId state sock ip port playerId =>
      refine { hkeeps with peers := fun hempty => absurd ?_ h }
      exact Std.ExtTreeMap.isEmpty_iff.mpr hempty
  | emplaceGroup groupId name data ctx =>
      refine { hkeeps with groups := fun hempty => absurd ?_ h }
      exact Std.ExtTreeMap.isEmpty_iff.mpr hempty
  | insertHostEnum handle =>
      refine { hkeeps with asyncHostEnums := fun hempty => absurd ?_ h }
      exact Std.ExtTreeSet.isEmpty_iff.mpr hempty
  | addSyncHostEnum =>
      exact { hkeeps with syncHostEnums := fun hempty => absurd (beq_iff_eq.mpr hempty) h }
  | udpSend packet dest =>
      exact { hkeeps with udpSq := fun hempty => absurd (List.isEmpty_iff.mpr hempty) h }
  | pushWork work =>
      exact { hkeeps with
        workQueue := fun hempty => absurd (List.isEmpty_iff.mpr hempty) h }
  | udpGetPending =>
      exact { hkeeps with
        udpSq := fun hempty => (SendQueue.getPending_ops s.udpSq).trans hempty }
  | udpPopPending =>
      refine { hkeeps with udpSq := fun hempty => ?_ }
      simp_all [apply, SendQueue.ops, SendQueue.popPending]
  | udpRemoveQueued handle =>
      refine { hkeeps with udpSq := fun hempty => ?_ }
      refine List.eq_nil_iff_forall_not_mem.mpr fun op hop => ?_
      have hmem : op ∈ s.udpSq.ops := SendQueue.mem_of_remove (.handle handle) hop
      simp [hempty] at hmem
  | popWork =>
      refine { hkeeps with workQueue := fun hempty => ?_ }
      simp [apply, hempty]
  | peer peerId change =>
      refine ⟨fun hempty => ?_, ?_, ?_, ?_, ?_, ?_⟩
      · simp only [apply, applyPeer, hempty]
        simp [hempty]
      all_goals
        simp only [apply, applyPeer]
        split <;> exact id
  | erasePeer peerId =>
      refine { hkeeps with peers := fun hempty => ?_ }
      simp [apply, hempty]
  | group groupId change =>
      refine { hkeeps with groups := fun hempty => ?_ }
      simp [apply, hempty]
  | eraseGroup groupId =>
      refine { hkeeps with groups := fun hempty => ?_ }
      simp [apply, hempty]
  | eraseHostEnum handle =>
      refine { hkeeps with asyncHostEnums := fun hempty => ?_ }
      simp [apply, hempty]
  | removeSyncHostEnum =>
      refine { hkeeps with syncHostEnums := fun hempty => ?_ }
      simp [apply, hempty]
  | setSocket which sock => cases which <;> exact { hkeeps with }
  | «local» change => cases change <;> exact { hkeeps with }
  | session change => cases change <;> exact { hkeeps with }
  | connect change => cases change <;> exact { hkeeps with }
  | _ => exact { hkeeps with }

section Rules

variable {p : Proc} {callers : List Proc} {s : DirectPlay8Peer}
  {M : Multiset Proc} {α β : Type} {command : Command}

theorem close_agrees
    (hreturns : command = .log (.returned .close sOk) -> s.Drained)
    (hcond : CloseGuarded s M (.exec p command)) :
    closeContract.Agrees p command M s := by
  refine ⟨hreturns, ?_⟩
  intro r hr hclosing
  apply Command.staysEmpty
  intro hfills
  have hnone := tokens_eq_zero.mp (hcond hfills) r (Multiset.mem_of_mem_erase hr)
  cases hnone.symm.trans hclosing

theorem close_rest {prog : Action α} (fp : Footprint Command Proc Fault)
    (huses : prog.Uses fp)
    (hreturns : forall command, fp.commands command ->
      command ≠ .log (.returned .close sOk))
    (hdetached : forall child, fp.spawns child -> child.isClosing = false)
    (hown : (p :: callers : Multiset Proc) ≤ M) :
    closeContract.wp p callers prog
      (fun _ _ M' => (p :: callers : Multiset Proc) ≤ M') s M := by
  refine Contract.wp_mono (Contract.wp_of_uses (I := fun _ _ => True) huses
    (fun _ _ _ _ => ⟨trivial, trivial⟩) (fun _ _ _ _ => trivial) ?_ ?_ ?_
    (fun _ _ => trivial) hown trivial) fun _ _ _ h => h.1
  · intro command s M hcommand _ _ hcond
    exact ⟨close_agrees (absurd · (hreturns command hcommand)) hcond, trivial⟩
  · exact fun _ _ _ _ _ hcond => ⟨hcond, fun _ _ _ _ => trivial⟩
  · intro child s M hspawns _ _
    refine ⟨?_, trivial⟩
    intro _ _ _ _ _ _ _ hclosing
    cases (hdetached child hspawns).symm.trans hclosing

abbrev withoutReturns : Footprint Command Proc Fault :=
  .within (fun command => command ≠ .log (.returned .close sOk)) (fun _ => True)
    fun _ => False

end Rules

/-!
## The loops
-/

section Loops

variable {p : Proc} {callers : List Proc} {s : DirectPlay8Peer}
  {M : Multiset Proc} {result : HRESULT} {reason : DWORD}

theorem peerDestroyAll_empties :
    closeContract.wp p callers (Action.peerDestroyAll result reason)
      (fun _ s' _ => s'.peers = ∅) s M := by
  apply Contract.wp_get
  split
  · rename_i hempty
    have hnil : s.peers.toList = [] := List.head?_eq_none_iff.mp hempty
    exact Std.ExtTreeMap.toList_eq_nil_iff.mp hnil
  · intro hcond₁
    refine ⟨hcond₁, ?_⟩
    intro s₁ M₁ _ _ _ _ hcond₂
    refine ⟨hcond₂, ?_⟩
    intro s₂ M₂ _ _ _ hempty
    exact hempty

theorem groupDestroyAll_empties
    (hown : (p :: callers : Multiset Proc) ≤ M) :
    closeContract.wp p callers (Action.groupDestroyAll reason)
      (fun _ s' _ => s'.groups = ∅) s M := by
  apply Contract.wp_get
  split
  · rename_i hempty
    have hnil : s.groups.toList = [] := List.head?_eq_none_iff.mp hempty
    exact Std.ExtTreeMap.toList_eq_nil_iff.mp hnil
  · rename_i groupId group _
    rw [bind_eq, Contract.wp_bind]
    refine Contract.wp_mono (close_rest withoutReturns ?_ (fun _ h => h) (by simp) hown) ?_
    · apply Uses.onlyIf
      intro _
      repeat' with_reducible first
        | apply Action.uses_bind
        | intro _
      all_goals simp
    · intro _ s₁ M₁ hown₁ hcond
      refine ⟨close_agrees (by simp) hcond, ?_⟩
      intro hcond₂
      refine ⟨hcond₂, ?_⟩
      intro s₂ M₂ _ _ _ hempty
      exact hempty

end Loops

/-!
## Closing
-/

section Closing

variable {callers : List Proc} {s : DirectPlay8Peer} {M : Multiset Proc}
  {flags : DWORD} {wasHosting wasConnected : Bool} {β : Type}

theorem closing_invoke {callee : Proc} {f : Unit -> Action β}
    {post : β -> DirectPlay8Peer -> Multiset Proc -> Prop}
    (hnext : forall s' M',
      (.closing flags wasHosting wasConnected :: callers :
        Multiset Proc) ≤ M' -> s.StaysEmpty s' -> callee.Empties s' ->
      closeContract.wp (.closing flags wasHosting wasConnected) callers (f ())
        post s' M') :
    closeContract.wp (.closing flags wasHosting wasConnected) callers
      (Action.invoke callee >>= f) post s M := by
  intro hcond
  refine ⟨hcond, ?_⟩
  intro s' M' hown _ hrely hempties
  exact hnext s' M' hown (hrely _ List.mem_cons_self rfl) hempties

theorem closing_unlocked {query : Query} {ready : DirectPlay8Peer -> Bool}
    {f : Answer -> Action β}
    {post : β -> DirectPlay8Peer -> Multiset Proc -> Prop}
    (hnext : forall answer s' M',
      (.closing flags wasHosting wasConnected :: callers :
        Multiset Proc) ≤ M' -> s.StaysEmpty s' -> ready s' = true ->
      closeContract.wp (.closing flags wasHosting wasConnected) callers
        (f answer) post s' M') :
    closeContract.wp (.closing flags wasHosting wasConnected) callers
      (unlocked query ready >>= f) post s M := by
  refine ⟨⟨trivial, trivial⟩, ?_⟩
  intro s' M' answer hown _ _ hrely hready _ _
  exact hnext answer s' M' hown (hrely _ List.mem_cons_self rfl) hready

theorem closePeers_empties :
    closeContract.wp (.closing flags wasHosting wasConnected) callers
      (Action.closePeers flags)
      (fun _ s' M' => (.closing flags wasHosting wasConnected :: callers :
        Multiset Proc) ≤ M' ∧ s.StaysEmpty s' ∧ s'.peers = ∅) s M := by
  unfold Action.closePeers
  split
  · intro hcond
    refine ⟨hcond, ?_⟩
    intro s₁ M₁ hown₁ _ hrely hempty
    exact ⟨hown₁, hrely _ List.mem_cons_self rfl, hempty⟩
  · apply closing_invoke
    intro s₁ M₁ hown₁ hstays₁ _
    apply closing_unlocked
    intro _ s₂ M₂ hown₂ hstays₂ hready
    exact ⟨hown₂, hstays₁.trans hstays₂, Std.ExtTreeMap.isEmpty_iff.mp hready⟩

theorem closing_dispatch {told : Prop} [Decidable told] {f : Unit -> Action β}
    {post : β -> DirectPlay8Peer -> Multiset Proc -> Prop}
    (hown : (.closing flags wasHosting wasConnected :: callers :
      Multiset Proc) ≤ M)
    (hnext : forall s' M',
      (.closing flags wasHosting wasConnected :: callers :
        Multiset Proc) ≤ M' -> s.StaysEmpty s' ->
      closeContract.wp (.closing flags wasHosting wasConnected) callers (f ())
        post s' M') :
    closeContract.wp (.closing flags wasHosting wasConnected) callers
      (onlyIf told (Action.dispatchDestroyLocalPlayer destroyPlayerReasonNormal) >>= f)
      post s M := by
  rw [bind_eq, Contract.wp_bind]
  apply Contract.wp_onlyIf
  · intro _
    apply Contract.wp_get
    intro hcond
    refine ⟨hcond, ?_⟩
    intro s' M' hown' _ hrely _
    exact hnext s' M' hown' (hrely _ List.mem_cons_self rfl)
  · exact fun _ => hnext s M hown (.refl s)

theorem closing_drains
    (hown : (.closing flags wasHosting wasConnected :: callers :
      Multiset Proc) ≤ M) (hquiescent : s.Quiescent) :
    closeContract.wp (.closing flags wasHosting wasConnected) callers
      (Action.closing flags wasHosting wasConnected) (fun _ _ _ => True) s
      M := by
  unfold Action.closing
  apply closing_dispatch hown
  intro s₁ M₁ hown₁ hstays₁
  rw [bind_eq, Contract.wp_bind]
  refine Contract.wp_mono closePeers_empties ?_
  rintro _ s₂ M₂ ⟨hown₂, hstays₂, hpeers⟩
  apply closing_dispatch hown₂
  intro s₃ M₃ hown₃ hstays₃
  apply closing_invoke
  intro s₄ M₄ hown₄ hstays₄ hgroups
  apply closing_unlocked
  intro _ s₅ M₅ hown₅ hstays₅ hready
  rcases Bool.and_eq_true_iff.mp hready with ⟨hasync, hsync⟩
  apply closing_unlocked
  intro _ s₆ M₆ hown₆ hstays₆ _ hcond₆
  have hafter := hstays₅.trans hstays₆
  have hdrained := (((hstays₁.trans hstays₂).trans hstays₃).trans
    (hstays₄.trans hafter)).quiescent hquiescent
  refine ⟨close_agrees (by simp) hcond₆, ?_⟩
  intro hcond₇
  refine ⟨close_agrees (by simp) hcond₇, ?_⟩
  intro hcond₈
  refine ⟨close_agrees (by simp) hcond₈, ?_⟩
  intro hcond₉
  refine ⟨close_agrees (fun _ => ?_) hcond₉, trivial⟩
  exact
    { peers := (hstays₃.trans (hstays₄.trans hafter)).peers hpeers
      groups := hafter.groups hgroups
      destroyedGroups := rfl
      asyncHostEnums := hstays₆.asyncHostEnums (Std.ExtTreeSet.isEmpty_iff.mp hasync)
      syncHostEnums := hstays₆.syncHostEnums (by simpa using hsync)
      udpSq := hdrained.1
      workQueue := hdrained.2 }

end Closing

theorem close_others {flags : DWORD} : (Action.close flags).Uses withoutReturns := by
  have huninitialised : dpnErrUninitialized ≠ sOk := by decide
  have hclosing : dpnErrAlreadyClosing ≠ sOk := by decide
  unfold Action.close
  repeat' with_reducible first
    | apply Action.uses_closeMainSockets
    | apply Uses.onlyIf
    | apply Action.uses_bind
    | intro _
    | split
  all_goals simp [huninitialised, hclosing]

def Proc.closes : Proc -> Bool
  | .close .. | .closing .. => true
  | _ => false

theorem Proc.closeReturned_notMem {p : Proc} (h : p.closes = false) :
    .closeReturned ∉ p.kinds := by
  cases p <;> first
    | (simp; done)
    | cases h

theorem closeContract_valid :
    closeContract.Valid DirectPlay8Peer.Constructed where
  initial := fun _ _ => ⟨trivial, trivial⟩
  start := by
    intro p s M hentry _ _ _ hclosing
    cases p <;> first
      | exact absurd hentry Bool.false_ne_true
      | cases hclosing
  body := by
    intro p callers s M hown hpre
    have hbody : closeContract.wp p callers p.body
        (fun _ s' _ => p.Empties s') s M := by
      cases p with
      | peerDestroyAll => exact peerDestroyAll_empties
      | groupDestroyAll => exact groupDestroyAll_empties hown
      | closing => exact closing_drains hown (hpre rfl)
      | close =>
          exact Contract.wp_mono (close_rest withoutReturns close_others (fun _ h => h)
            (by simp) hown)
            fun _ _ _ _ => trivial
      | _ =>
          refine Contract.wp_mono (close_rest _ (Proc.body_uses _) ?_ ?_ hown)
            fun _ _ _ _ => trivial
          · rintro command hcommand rfl
            exact Proc.closeReturned_notMem rfl hcommand.1
          · intro child hdetached
            cases child <;> first
              | rfl
              | cases hdetached
    exact Contract.wp_mono hbody
      fun _ _ _ h => ⟨⟨trivial, h⟩, fun _ _ => trivial⟩

/-!
## Runs
-/

/-- The table of the players is kept in order, too. -/
def EmptyingGuarded (s : DirectPlay8Peer) (M : Multiset Proc)
    (label : StepLabel) : Prop :=
  PlayersGuarded s M label ∧ CloseGuarded s M label

theorem DirectPlay8Peer.PlayersDescribed.empty {s : DirectPlay8Peer}
    (h : s.PlayersDescribed) (hpeers : s.peers = ∅) : s.playerToPeerId = ∅ := by
  apply Std.ExtTreeMap.eq_empty_iff_forall_not_mem.mpr
  intro playerId hmem
  rw [Std.ExtTreeMap.mem_iff_isSome_getElem?, Option.isSome_iff_exists] at hmem
  rcases hmem with ⟨peerId, hentry⟩
  rcases h.named playerId peerId hentry with ⟨peer, hpeer, _⟩
  simp [hpeers] at hpeer

/-- When `Close` has succeeded, nothing of the session is left. -/
theorem close_empties {c c' : Run} {p : Proc}
    (h : Reaches machine DirectPlay8Peer.Constructed EmptyingGuarded c)
    (hstep : Step machine c (.exec p (.log (.returned .close sOk))) c')
    (hcond : EmptyingGuarded c.state c.activations
      (.exec p (.log (.returned .close sOk)))) :
    c'.state.Emptied := by
  rcases closeContract_valid.exec (h.mono fun _ _ _ h => h.2) hstep hcond.2 with
    ⟨hdrained, hstate⟩
  have hplayers := (playersContract_valid.exec (h.mono fun _ _ _ h => h.1) hstep
    hcond.1).1.1 rfl
  have hleft := hdrained rfl
  rw [hstate]
  exact
    { peers := hleft.peers
      playerToPeerId := hplayers.empty hleft.peers
      groups := hleft.groups
      destroyedGroups := hleft.destroyedGroups
      asyncHostEnums := hleft.asyncHostEnums
      syncHostEnums := hleft.syncHostEnums
      udpSq := hleft.udpSq
      workQueue := hleft.workQueue }

instance {s : DirectPlay8Peer} : Decidable s.Quiescent :=
  inferInstanceAs (Decidable (_ ∧ _))

instance {s : DirectPlay8Peer} {M : Multiset Proc} {label : StepLabel} :
    Decidable (CloseGuarded s M label) := by
  apply Label.casesOn (motive := fun label => Decidable (CloseGuarded s M label))
  all_goals
    intros
    dsimp only [CloseGuarded]
    infer_instance

instance {s : DirectPlay8Peer} {M : Multiset Proc} {label : StepLabel} :
    Decidable (EmptyingGuarded s M label) :=
  inferInstanceAs (Decidable (_ ∧ _))

def StepLabel.closed : StepLabel -> Bool
  | .exec _ (.log (.returned .close result)) => result == sOk
  | _ => false

theorem StepLabel.closed_iff {label : StepLabel} (h : StepLabel.closed label = true) :
    exists p, label = .exec p (.log (.returned .close sOk)) := by
  unfold StepLabel.closed at h
  split at h
  · rename_i p result
    exact ⟨p, by rw [eq_of_beq h]⟩
  · cases h

/--
A host closes a session with one client, behind a message to itself that a worker thread
has taken out of the queue.
-/
theorem close_empties_hosting :
    exists (c c' : Run) (p : Proc),
      Reaches machine DirectPlay8Peer.Constructed EmptyingGuarded c ∧
        Step machine c (.exec p (.log (.returned .close sOk))) c' ∧
        .raised (.createPlayer 2 contextNull) ∈ c.state.history ∧
        .raised (.receive 1 contextNull [1, 2, 3] 0) ∈ c.state.history ∧
        c'.state.Emptied := by
  have hrun : (replayTo EmptyingGuarded StepLabel.closed (choicesAdmit ++
      [.start (.sendTo 1 [1, 2, 3] contextNull 0), .start .handleWork, .resume 0 {},
        .resume 0 {}, .resume 0 {}, .start (.close dpnCloseImmediate), .resume 0 {},
        .resume 0 {}, .resume 0 {}]) (.resume 0 {})).any
      (fun q => decide
        (.raised (.createPlayer 2 contextNull) ∈ q.1.state.history ∧
          .raised (.receive 1 contextNull [1, 2, 3] 0) ∈ q.1.state.history)) = true := by
    decide +kernel
  rcases replayTo_step hrun with ⟨c, c', label, hc, hwanted, hstep, htest⟩
  rcases StepLabel.closed_iff hwanted with ⟨p, rfl⟩
  rcases of_decide_eq_true htest with ⟨hcreated, hreceived⟩
  refine ⟨c, c', p, hc, hstep, hcreated, hreceived, close_empties hc hstep ⟨?_, ?_⟩⟩
  · cases p <;> trivial
  · exact fun himpossible => by cases himpossible

/-- A message to the local player is still queued when `Close` returns. -/
theorem close_not_empties :
    ¬ forall (c c' : Run) (p : Proc),
      Reaches machine DirectPlay8Peer.Constructed Unrestricted c ->
      Step machine c (.exec p (.log (.returned .close sOk))) c' ->
      c'.state.Emptied := by
  intro hclaim
  have hrun : (replayTo Unrestricted StepLabel.closed (choicesInitialise ++
      choicesHost ++ [.answer {}, .resume 0 {},
        .start (.sendTo 1 [1, 2, 3] contextNull 0), .start (.close 0),
        .resume 0 {}, .resume 0 {}, .resume 0 {}]) (.resume 0 {})).any
      (fun q => decide (q.2.state.workQueue.length = 1)) = true := by
    decide +kernel
  rcases replayTo_step hrun with ⟨c, c', label, hc, hwanted, hstep, htest⟩
  rcases StepLabel.closed_iff hwanted with ⟨p, rfl⟩
  have hone := of_decide_eq_true htest
  rw [(hclaim c c' p hc hstep).workQueue] at hone
  cases hone

end DirectPlayLite
