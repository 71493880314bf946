import DirectPlayLite.Peer.Closing
import DirectPlayLite.Peer.Notices

/-!
# Groups that have been destroyed

The IDs of destroyed groups are kept until the object is closed, so that a group
is not made again by a message that was sent before its end was known.  Whoever
puts an ID into the set tells the application, or starts the thread that does.
Such a thread can outlive the session it was started in.
-/

namespace DirectPlayLite

open Monitor Program

/-- The group whose end the application is told of. -/
def Event.endedGroup : Event -> Option DPNID
  | raised (.destroyGroup group ..) => some group
  | _ => none

/-- What has happened since `Close` last returned. -/
def DirectPlay8Peer.session (s : DirectPlay8Peer) : List Event :=
  s.history.takeWhile (· != .returned .close sOk)

/-- How often the application has been told of the end of a group in this session. -/
def DirectPlay8Peer.timesDestroyed (s : DirectPlay8Peer) (groupId : DPNID) :
    Nat :=
  s.session.countP fun event => event.endedGroup == some groupId

/-- No thread of `DestroyGroup` is under way when `Close` empties the set. -/
def ThreadsEnded (_ : DirectPlay8Peer) (M : Multiset Proc) : StepLabel -> Prop
  | .exec _ .clearDestroyedGroups => tokens Proc.isDestroyThread M = 0
  | _ => True

instance {s : DirectPlay8Peer} {M : Multiset Proc} {label : StepLabel} :
    Decidable (ThreadsEnded s M label) := by
  unfold ThreadsEnded
  split <;> infer_instance

@[simp] def Notice.disturbs : Notice -> Bool
  | destroyGroup | clearDestroyedGroups | closed => true
  | receive | createGroup | emplaceGroup | insertDestroyedGroup | eraseGroup => false

namespace Proc

/-- The thread that tells the application of the end of this group. -/
def endsGroup (groupId : DPNID) : Proc -> Bool
  | destroyGroupThread group _ => group == groupId
  | _ => false

/-- `CreateGroup` and its answer from the host bring IDs that were just allocated. -/
def allocatesGroup : Proc -> Bool
  | createGroup .. | invokeAck .. => true
  | _ => false

theorem endsGroup_of_not_thread {p : Proc} (h : p.isDestroyThread = false)
    (groupId : DPNID) : p.endsGroup groupId = false := by
  cases p <;> first
    | rfl
    | cases h

end Proc

/-!
## Commands
-/

namespace Command

variable {command : Command} {s : DirectPlay8Peer} {groupId : DPNID}

def endedGroup : Command -> Option DPNID
  | log event => event.endedGroup
  | _ => none

@[simp] def IsUndisturbing (command : Command) : Prop :=
  forall notice, command.notice = some notice -> notice.disturbs = false

theorem IsUndisturbing.ne {notice : Notice} (h : command.IsUndisturbing)
    (hdisturbs : notice.disturbs = true) : command.notice ≠ some notice := by
  intro hnotice
  rw [h notice hnotice] at hdisturbs
  cases hdisturbs

theorem notice_of_endedGroup (h : command.endedGroup = some groupId) :
    command.notice = some .destroyGroup := by
  cases command with
  | log event =>
      cases event with
      | raised notification =>
          cases notification <;> first
            | rfl
            | cases h
      | _ => cases h
  | _ => cases h

theorem quiet_records (hlog : forall event, command ≠ .log event) :
    exists records, (command.apply s).history = records ++ s.history ∧
      forall event, event ∈ records -> event.notice = none := by
  by_cases hstate : command.kind = .state
  · rcases kind_eq_state hstate with ⟨state, rfl | rfl⟩
    · exact ⟨[.entered state], rfl, by simp⟩
    · exact absurd rfl (hlog _)
  · obtain ⟨records, hhistory, hisRecord⟩ := apply_history (s := s) hstate hlog
    refine ⟨records, hhistory, ?_⟩
    intro event hevent
    have hrecord := hisRecord event hevent
    cases event <;> first
      | rfl
      | cases hrecord

theorem notice_ne_closed (h : command ≠ .log (.returned .close sOk)) :
    command.notice ≠ some .closed := by
  intro hclosed
  cases command with
  | log event =>
      cases event with
      | raised notification => cases notification <;> cases hclosed
      | returned method result =>
          cases method with
          | close =>
              refine h ?_
              by_cases hresult : result = sOk
              · rw [hresult]
              · simp [hresult] at hclosed
          | _ => cases hclosed
      | _ => cases hclosed
  | _ => cases hclosed

theorem session_after (hopen : command.notice ≠ some .closed) :
    exists records, (command.apply s).session = records ++ s.session ∧
      (command.apply s).history = records ++ s.history ∧
      forall event, event ∈ records -> command = .log event ∨ event.notice = none := by
  have hrecorded : exists records, (command.apply s).history = records ++ s.history ∧
      forall event, event ∈ records -> command = .log event ∨ event.notice = none := by
    by_cases hlog : exists event, command = .log event
    · obtain ⟨event, rfl⟩ := hlog
      exact ⟨[event], rfl, fun other hother => Or.inl (by rw [List.mem_singleton.mp hother])⟩
    · obtain ⟨records, hhistory, hquiet⟩ :=
        quiet_records (s := s) fun event hevent => hlog ⟨event, hevent⟩
      exact ⟨records, hhistory, fun event hevent => Or.inr (hquiet event hevent)⟩
  obtain ⟨records, hhistory, hrecords⟩ := hrecorded
  refine ⟨records, ?_, hhistory, hrecords⟩
  rw [DirectPlay8Peer.session, hhistory, List.takeWhile_append_of_pos]
  · rfl
  · intro event hevent
    rw [bne_iff_ne]
    rintro rfl
    rcases hrecords _ hevent with rfl | hnone
    · exact hopen (by simp)
    · simp at hnone

theorem session_closed :
    ((log (.returned .close sOk)).apply s).session = [] := by
  simp [DirectPlay8Peer.session, apply]

theorem timesDestroyed_after (groupId : DPNID) (hopen : command.notice ≠ some .closed) :
    (command.apply s).timesDestroyed groupId =
      s.timesDestroyed groupId +
        if command.endedGroup = some groupId then 1 else 0 := by
  by_cases hlog : exists event, command = .log event
  · obtain ⟨event, rfl⟩ := hlog
    have hevent : (event != .returned .close sOk) = true := by
      rw [bne_iff_ne]
      rintro rfl
      exact hopen (by simp)
    by_cases hends : event.endedGroup = some groupId <;>
      simp [DirectPlay8Peer.timesDestroyed, DirectPlay8Peer.session, apply, endedGroup,
        hends, hevent]
  · have hnone : command.endedGroup = none := by
      cases command <;> first
        | rfl
        | exact absurd ⟨_, rfl⟩ hlog
    obtain ⟨records, hsession, _, hquiet⟩ := session_after (s := s) hopen
    have hzero : records.countP
        (fun event => event.endedGroup == some groupId) = 0 := by
      rw [List.countP_eq_zero]
      intro event hevent hends
      rcases hquiet event hevent with rfl | hnothing
      · exact hlog ⟨event, rfl⟩
      · have hnotice : (Command.log event).notice = some .destroyGroup :=
          notice_of_endedGroup (eq_of_beq hends)
        rw [notice, hnothing] at hnotice
        cases hnotice
    rw [hnone, if_neg (by simp), DirectPlay8Peer.timesDestroyed, hsession,
      List.countP_append, hzero, Nat.zero_add, Nat.add_zero,
      DirectPlay8Peer.timesDestroyed]

theorem mem_destroyedGroups_after (hclear : command ≠ .clearDestroyedGroups)
    (h : groupId ∈ s.destroyedGroups) :
    groupId ∈ (command.apply s).destroyedGroups := by
  cases command with
  | insertDestroyedGroup inserted =>
      exact Std.ExtTreeSet.mem_insert.mpr (Or.inr h)
  | clearDestroyedGroups => exact absurd rfl hclear
  | peer peerId change =>
      simp only [apply, applyPeer]
      split <;> exact h
  | setSocket which sock => cases which <;> exact h
  | «local» change => cases change <;> exact h
  | session change => cases change <;> exact h
  | connect change => cases change <;> exact h
  | _ => exact h

theorem mem_groups_after (h : groupId ∈ (command.apply s).groups) :
    groupId ∈ s.groups ∨
      exists name data ctx, command = .emplaceGroup groupId name data ctx := by
  cases command with
  | emplaceGroup emplaced name data ctx =>
      rcases Std.ExtTreeMap.mem_insertIfNew.mp h with hsame | hbefore
      · have heq : emplaced = groupId := by simpa using hsame
        subst heq
        exact Or.inr ⟨name, data, ctx, rfl⟩
      · exact Or.inl hbefore
  | eraseGroup erased => exact Or.inl (Std.ExtTreeMap.mem_erase.mp h).2
  | group changed change =>
      simp only [apply, Std.ExtTreeMap.mem_modify] at h
      exact Or.inl h
  | peer peerId change =>
      refine Or.inl ?_
      simp only [apply, applyPeer] at h
      split at h <;> exact h
  | setSocket which sock => exact Or.inl (by cases which <;> exact h)
  | «local» change => exact Or.inl (by cases change <;> exact h)
  | session change => exact Or.inl (by cases change <;> exact h)
  | connect change => exact Or.inl (by cases change <;> exact h)
  | _ => exact Or.inl h

end Command

/-!
## The contract
-/

structure EndedOnce (s : DirectPlay8Peer) (M : Multiset Proc) (groupId : DPNID) :
    Prop where
  told : s.timesDestroyed groupId ≤ 1
  threads : tokens (Proc.endsGroup groupId) M ≤ 1
  unmarked : groupId ∉ s.destroyedGroups ->
    s.timesDestroyed groupId = 0 ∧ tokens (Proc.endsGroup groupId) M = 0

def GroupsEndedOnce (s : DirectPlay8Peer) (M : Multiset Proc) : Prop :=
  forall groupId, EndedOnce s M groupId

def EndsOnce (p : Proc) (command : Command) (s : DirectPlay8Peer) : Prop :=
  (command = .clearDestroyedGroups -> p.isClosing = true) ∧
  (forall groupId, command.endedGroup = some groupId ->
    s.timesDestroyed groupId = 0) ∧
  forall groupId name data ctx,
    command = .emplaceGroup groupId name data ctx ->
    p.allocatesGroup = true ∨ groupId ∉ s.destroyedGroups

def tombstoneContract : Contract machine where
  cond := ThreadsEnded
  inv := GroupsEndedOnce
  free := fun _ => True
  guar := EndsOnce
  -- nobody but the thread that was started for it tells of the end of a group
  rely := fun r s s' => forall groupId, r.endsGroup groupId = true ->
    s'.timesDestroyed groupId = s.timesDestroyed groupId
  pre := fun p s M => GroupsEndedOnce s M ∧
    forall groupId, p.endsGroup groupId = true -> s.timesDestroyed groupId = 0
  post := fun _ _ _ _ => True
  faults := fun _ => True
  rely_refl := fun _ _ _ _ => rfl
  rely_trans := fun _ _ _ _ hfirst hsecond groupId hends =>
    (hsecond groupId hends).trans (hfirst groupId hends)

abbrev withoutTombstones (p : Proc) : Footprint Command Proc Fault :=
  .within (fun command => command.IsUndisturbing ∧
      (command.notice = some .emplaceGroup -> p.allocatesGroup = true))
    (fun callee => callee.isDestroyThread = false)
    fun child => child.isDestroyThread = false

section Table

variable {p q : Proc} {command : Command}

theorem undisturbing_of_notices
    (hquiet : forall notice, notice ∈ p.notices -> notice.disturbs = false)
    (hemplace : Notice.emplaceGroup ∈ p.notices -> p.allocatesGroup = true)
    (hspawn : p.isDestroyGroup = false) : p.body.Uses (withoutTombstones p) := by
  refine Uses.mono p.body_keepsNotices ?_ (fun _ => trivial) (fun _ h => h) ?_
    (fun _ _ => trivial)
  · intro command hcommand
    constructor
    · intro notice hnotice
      exact hquiet notice (hcommand notice hnotice)
    · intro hnotice
      exact hemplace (hcommand .emplaceGroup hnotice)
  · intro child hchild
    cases hthread : child.isDestroyThread with
    | false => exact hthread
    | true =>
        have htrue := hchild hthread
        rw [hspawn] at htrue
        cases htrue

end Table

theorem Action.complete_undisturbing (p : Proc) (addr : Nat) (result : HRESULT) :
    (Action.complete addr result).Uses (withoutTombstones p) := by
  unfold Action.complete
  repeat' with_reducible first
    | apply Uses.onlyIf
    | apply Action.uses_bind
    | intro _
    | split
  all_goals simp

/-!
## Rules
-/

section Rules

variable {p : Proc} {callers : List Proc} {command : Command}
  {s : DirectPlay8Peer} {M : Multiset Proc} {groupId : DPNID} {α β : Type}

theorem EndedOnce.le {M' : Multiset Proc} (h : EndedOnce s M groupId)
    (hle : M' ≤ M) : EndedOnce s M' groupId where
  told := h.told
  threads := (tokens_le hle).trans h.threads
  unmarked := by
    intro hunmarked
    obtain ⟨htold, hthreads⟩ := h.unmarked hunmarked
    exact ⟨htold, Nat.le_zero.mp ((tokens_le hle).trans hthreads.le)⟩

theorem EndedOnce.cons (h : EndedOnce s M groupId)
    (hp : p.isDestroyThread = false) : EndedOnce s (p ::ₘ M) groupId := by
  have hsame := tokens_cons_of_false (M := M) (p.endsGroup_of_not_thread hp groupId)
  constructor
  · exact h.told
  · rw [hsame]
    exact h.threads
  · rw [hsame]
    exact h.unmarked

theorem tombstone_enters (h : GroupsEndedOnce s M)
    (hp : p.isDestroyThread = false) :
    tombstoneContract.pre p s (p ::ₘ M) := by
  constructor
  · intro groupId
    exact (h groupId).cons hp
  · intro groupId hends
    rw [p.endsGroup_of_not_thread hp groupId] at hends
    cases hends

theorem endedGroup_eq_none (h : command.notice ≠ some .destroyGroup) :
    command.endedGroup = none := by
  cases hends : command.endedGroup with
  | none => rfl
  | some groupId => exact absurd (Command.notice_of_endedGroup hends) h

theorem GroupsEndedOnce.exec (h : GroupsEndedOnce s M)
    (hquiet : command.IsUndisturbing) :
    GroupsEndedOnce (command.apply s) M ∧
      forall groupId,
        (command.apply s).timesDestroyed groupId = s.timesDestroyed groupId := by
  have hsame : forall groupId,
      (command.apply s).timesDestroyed groupId = s.timesDestroyed groupId := by
    intro groupId
    rw [Command.timesDestroyed_after groupId (hquiet.ne rfl),
      endedGroup_eq_none (hquiet.ne rfl), if_neg (by simp), Nat.add_zero]
  have hclear : command ≠ .clearDestroyedGroups := by
    rintro rfl
    cases hquiet .clearDestroyedGroups rfl
  refine ⟨?_, hsame⟩
  intro groupId
  constructor
  · rw [hsame]
    exact (h groupId).told
  · exact (h groupId).threads
  · intro hunmarked
    rw [hsame]
    apply (h groupId).unmarked
    intro hmarked
    exact hunmarked (Command.mem_destroyedGroups_after hclear hmarked)

theorem tombstone_agrees (h : GroupsEndedOnce s M)
    (hquiet : command.IsUndisturbing)
    (hemplace : forall groupId name data ctx,
      command = .emplaceGroup groupId name data ctx ->
      p.allocatesGroup = true ∨ groupId ∉ s.destroyedGroups) :
    tombstoneContract.Agrees p command M s := by
  constructor
  · refine ⟨?_, ?_, hemplace⟩
    · rintro rfl
      cases hquiet .clearDestroyedGroups rfl
    · intro groupId htells
      rw [endedGroup_eq_none (hquiet.ne rfl)] at htells
      cases htells
  · intro r _ groupId _
    exact (h.exec hquiet).2 groupId

theorem tombstone_part {prog : Action α} (huses : prog.Uses (withoutTombstones p))
    (hown : (p :: callers : Multiset Proc) ≤ M) (h : GroupsEndedOnce s M) :
    tombstoneContract.wp p callers prog (fun _ s' M' =>
      (p :: callers : Multiset Proc) ≤ M' ∧ GroupsEndedOnce s' M') s M := by
  refine Contract.wp_of_uses (I := GroupsEndedOnce) huses
    (fun _ _ _ h => ⟨h, trivial⟩) (fun _ _ h _ => h) ?_ ?_ ?_
    (fun _ _ => trivial) hown h
  · rintro command s M ⟨hquiet, hemplace⟩ _ h _
    refine ⟨tombstone_agrees h hquiet ?_, (h.exec hquiet).1⟩
    rintro groupId name data ctx rfl
    exact Or.inl (hemplace rfl)
  · intro callee s M hcallee h _
    refine ⟨tombstone_enters h hcallee, ?_⟩
    intro s' M' h' _
    exact h'
  · intro child s M hchild h _
    constructor
    · intro s' M' _ h' _ _ _
      refine ⟨h', ?_⟩
      intro groupId hends
      rw [child.endsGroup_of_not_thread hchild groupId] at hends
      cases hends
    · intro groupId
      exact (h groupId).cons hchild

theorem tombstone_rest {prog : Action α} (huses : prog.Uses (withoutTombstones p))
    (hown : (p :: callers : Multiset Proc) ≤ M) (h : GroupsEndedOnce s M) :
    tombstoneContract.wp p callers prog (fun _ => GroupsEndedOnce) s M :=
  Contract.wp_mono (tombstone_part huses hown h) fun _ _ _ h => h.2

theorem tombstone_kept {prog : Action α} {f : α -> Action β}
    {post : β -> DirectPlay8Peer -> Multiset Proc -> Prop}
    (huses : prog.Uses (Kept fun command => command.notice = none))
    (h : GroupsEndedOnce s M)
    (hnext : forall value s', GroupsEndedOnce s' M ->
      (forall groupId, s'.timesDestroyed groupId = s.timesDestroyed groupId) ->
      (forall groupId, groupId ∈ s.destroyedGroups ->
        groupId ∈ s'.destroyedGroups) ->
      tombstoneContract.wp p callers (f value) post s' M) :
    tombstoneContract.wp p callers (prog >>= f) post s M := by
  rw [bind_eq, Contract.wp_bind]
  refine Contract.wp_mono (wp_kept huses (fun _ => trivial)
    (I := fun s' => GroupsEndedOnce s' M ∧
      (forall groupId, s'.timesDestroyed groupId = s.timesDestroyed groupId) ∧
      forall groupId, groupId ∈ s.destroyedGroups ->
        groupId ∈ s'.destroyedGroups) ?_ ⟨h, fun _ => rfl, fun _ h => h⟩) ?_
  · rintro command s' hnone ⟨h', hsame, hmarked⟩ _
    have hquiet : command.IsUndisturbing := by
      intro notice hnotice
      rw [hnone] at hnotice
      cases hnotice
    have hclear : command ≠ .clearDestroyedGroups := by
      rintro rfl
      cases hnone
    obtain ⟨hafter, hsame'⟩ := h'.exec hquiet
    refine ⟨tombstone_agrees h' hquiet ?_, hafter, ?_, ?_⟩
    · rintro groupId name data ctx rfl
      cases hnone
    · intro groupId
      exact (hsame' groupId).trans (hsame groupId)
    · intro groupId hmem
      exact Command.mem_destroyedGroups_after hclear (hmarked groupId hmem)
  · rintro value s' M' ⟨rfl, h', hsame, hmarked⟩
    exact hnext value s' h' hsame hmarked

theorem timesDestroyed_raised (s : DirectPlay8Peer) (groupId ended : DPNID)
    (ctx : Context) (reason : DWORD) :
    (machine.apply (.log (.raised (.destroyGroup groupId ctx reason)))
        s).timesDestroyed ended =
      s.timesDestroyed ended + if groupId = ended then 1 else 0 := by
  refine (Command.timesDestroyed_after ended (by simp)).trans ?_
  by_cases hsame : groupId = ended <;>
    simp [Command.endedGroup, Event.endedGroup, hsame]

theorem tombstone_raise {ctx : Context} {reason : DWORD}
    {f : Answer -> Action Unit} (h : GroupsEndedOnce s M)
    (htold : s.timesDestroyed groupId = 0)
    (hmarked : groupId ∈ s.destroyedGroups ∨
      0 < tokens (Proc.endsGroup groupId) M)
    (hothers : tokens (Proc.endsGroup groupId) (M.erase p) = 0)
    (huses : forall answer, (f answer).Uses (withoutTombstones p))
    (hown : (p :: callers : Multiset Proc) ≤ M) :
    tombstoneContract.wp p callers
      (Action.raise (.destroyGroup groupId ctx reason) >>= f)
      (fun _ => GroupsEndedOnce) s M := by
  have hafter := fun ended => timesDestroyed_raised s groupId ended ctx reason
  intro hcond
  constructor
  · constructor
    · refine ⟨by simp, ?_, by simp⟩
      intro ended hends
      cases hends
      exact htold
    · intro r hr ended hends
      rw [hafter, if_neg, Nat.add_zero]
      rintro rfl
      have hnone := tokens_eq_zero.mp hothers r hr
      rw [hends] at hnone
      cases hnone
  · apply tombstone_rest _ hown
    · intro ended
      by_cases hsame : groupId = ended
      · subst hsame
        constructor
        · rw [hafter, if_pos rfl, htold]
        · exact (h groupId).threads
        · intro hunmarked
          rcases hmarked with hmem | hthread
          · exact absurd hmem hunmarked
          · exact absurd ((h groupId).unmarked hunmarked).2 hthread.ne'
      · constructor
        · rw [hafter, if_neg hsame]
          exact (h ended).told
        · exact (h ended).threads
        · rw [hafter, if_neg hsame]
          exact (h ended).unmarked
    · exact ⟨trivial, huses⟩

theorem tombstone_emplace {name : WString} {data : List UInt8} {ctx : Context}
    {f : Unit -> Action Unit} (h : GroupsEndedOnce s M)
    (hunmarked : ¬ s.destroyedGroups.contains groupId = true)
    (huses : (f ()).Uses (withoutTombstones p))
    (hown : (p :: callers : Multiset Proc) ≤ M) :
    tombstoneContract.wp p callers
      (Action.perform (.emplaceGroup groupId name data ctx) >>= f)
      (fun _ => GroupsEndedOnce) s M := by
  have hquiet : (Command.emplaceGroup groupId name data ctx).IsUndisturbing := by
    simp [Command.IsUndisturbing]
  have h₁ := h.exec hquiet
  intro _
  constructor
  · refine tombstone_agrees h hquiet ?_
    rintro emplaced _ _ _ ⟨⟩
    exact Or.inr (by simpa using hunmarked)
  · exact tombstone_rest huses hown h₁.1

theorem insert_undisturbing (groupId : DPNID) :
    (Command.insertDestroyedGroup groupId).IsUndisturbing := by
  simp [Command.IsUndisturbing]

end Rules

/-!
## The procedures that end and make groups
-/

section Procedures

variable {callers : List Proc} {s : DirectPlay8Peer} {M : Multiset Proc}
  {peerId : UInt32} {pd : PacketDeserialiser}

theorem tombstone_asserts {p : Proc} (h : GroupsEndedOnce s M) :
    tombstoneContract.Agrees p (.log (.assertionFailed .peerNotNull)) M s :=
  tombstone_agrees h (by simp [Command.IsUndisturbing]) (by simp)

theorem destroyGroup_tombstones {groupId : DPNID} {ctx : Context}
    {flags : DWORD}
    (hown : (.destroyGroup groupId ctx flags :: callers : Multiset Proc) ≤ M)
    (h : GroupsEndedOnce s M) :
    tombstoneContract.wp (.destroyGroup groupId ctx flags) callers
      (Action.destroyGroup groupId ctx flags) (fun _ => GroupsEndedOnce) s
      M := by
  apply Contract.wp_get
  split
  · exact tombstone_rest (by simp) hown h
  split
  · exact tombstone_rest (by simp) hown h
  rename_i hthere
  have hunmarked : groupId ∉ s.destroyedGroups := by
    intro hmarked
    exact hthere (Or.inr (by simpa using hmarked))
  obtain ⟨htold, hthreads⟩ := (h groupId).unmarked hunmarked
  apply tombstone_kept (Action.uses_beginOperation rfl fun _ => rfl) h
  intro completion s₁ h₁ hsame₁ _ _
  have h₂ := h₁.exec (insert_undisturbing groupId)
  refine ⟨tombstone_agrees h₁ (insert_undisturbing groupId) (by simp), ?_⟩
  apply tombstone_kept (Action.uses_notifyConnected rfl (fun _ => rfl) trivial) h₂.1
  intro _ s₃ h₃ hsame₃ hmarked₃ _
  have hmarked : groupId ∈ s₃.destroyedGroups :=
    hmarked₃ groupId (Std.ExtTreeSet.mem_insert_self)
  have huntold : s₃.timesDestroyed groupId = 0 := by
    rw [hsame₃, h₂.2, hsame₁, htold]
  constructor
  · intro s' M' _ h' _ hrely _
    refine ⟨h', ?_⟩
    intro ended hends
    rw [hrely ended hends]
    have hended : groupId = ended := by
      simpa [Proc.endsGroup] using hends
    rw [← hended]
    exact huntold
  · apply tombstone_rest _ (hown.trans (Multiset.le_cons_self _ _))
    · intro ended
      by_cases hended : groupId = ended
      · subst hended
        constructor
        · exact (h₃ groupId).told
        · rw [tokens_cons_of_true (by simp [Proc.endsGroup]), hthreads]
        · intro hunmarked₃
          exact absurd hmarked hunmarked₃
      · have hother : (Proc.destroyGroupThread groupId completion).endsGroup
            ended = false := by
          simpa [Proc.endsGroup] using hended
        constructor
        · exact (h₃ ended).told
        · rw [tokens_cons_of_false hother]
          exact (h₃ ended).threads
        · rw [tokens_cons_of_false hother]
          exact (h₃ ended).unmarked
    · exact Action.uses_endOperation (by simp) (by simp) (by simp)

theorem destroyGroupThread_tombstones {groupId : DPNID} {completion : Nat}
    (hown : (.destroyGroupThread groupId completion :: callers :
      Multiset Proc) ≤ M)
    (hpre : tombstoneContract.pre (.destroyGroupThread groupId completion) s
      M) :
    tombstoneContract.wp (.destroyGroupThread groupId completion) callers
      (Action.destroyGroupThread groupId completion)
      (fun _ => GroupsEndedOnce) s M := by
  obtain ⟨h, htold⟩ := hpre
  have hself : (Proc.destroyGroupThread groupId completion).endsGroup groupId =
      true := by
    simp [Proc.endsGroup]
  have hmem : Proc.destroyGroupThread groupId completion ∈ M :=
    Multiset.mem_of_le hown (by simp)
  have hcomplete := Action.complete_undisturbing
    (.destroyGroupThread groupId completion) completion sOk
  apply Contract.wp_get
  split
  · exact tombstone_rest hcomplete hown h
  · have hothers := tokens_erase_of_true hmem hself
    have hthreads := (h groupId).threads
    refine tombstone_raise h (htold groupId hself)
      (Or.inr (tokens_pos hmem hself)) (by omega) ?_ hown
    intro _
    exact ⟨by simp, hcomplete⟩

theorem groupDestroyAll_tombstones {reason : DWORD}
    (hown : (.groupDestroyAll reason :: callers : Multiset Proc) ≤ M)
    (h : GroupsEndedOnce s M) :
    tombstoneContract.wp (.groupDestroyAll reason) callers
      (Action.groupDestroyAll reason) (fun _ => GroupsEndedOnce) s M := by
  apply Contract.wp_get
  split
  · exact h
  rename_i groupId group _
  have hrest : (do
      Action.perform (.eraseGroup groupId)
      Action.invoke (.groupDestroyAll reason) : Action Unit).Uses
        (withoutTombstones (.groupDestroyAll reason)) :=
    Action.uses_bind (by simp) fun _ => by simp
  unfold onlyIf
  split
  · rename_i hunmarked
    have hunmarked' : groupId ∉ s.destroyedGroups := by
      simpa using hunmarked
    obtain ⟨htold, hthreads⟩ := (h groupId).unmarked hunmarked'
    have h₁ := h.exec (insert_undisturbing groupId)
    intro _
    refine ⟨tombstone_agrees h (insert_undisturbing groupId) (by simp), ?_⟩
    refine tombstone_raise h₁.1 ((h₁.2 groupId).trans htold)
      (Or.inl Std.ExtTreeSet.mem_insert_self) ?_ (fun _ => hrest) hown
    exact Nat.le_zero.mp ((tokens_le (Multiset.erase_le _ _)).trans hthreads.le)
  · exact tombstone_rest hrest hown h

theorem handleGroupDestroy_tombstones
    (hown : (.handleGroupDestroy peerId pd :: callers : Multiset Proc) ≤ M)
    (h : GroupsEndedOnce s M) :
    tombstoneContract.wp (.handleGroupDestroy peerId pd) callers
      (Action.handleGroupDestroy peerId pd) (fun _ => GroupsEndedOnce) s M := by
  apply wp_assertedPeer trivial (tombstone_asserts h)
  intro peer _
  apply Contract.wp_get
  apply wp_caught
  · intro groupId _
    split
    · exact h
    split
    · exact h
    rename_i hunmarked
    have hunmarked' : groupId ∉ s.destroyedGroups := by
      simpa using hunmarked
    obtain ⟨htold, hthreads⟩ := (h groupId).unmarked hunmarked'
    have h₁ := h.exec (insert_undisturbing groupId)
    intro _
    refine ⟨tombstone_agrees h (insert_undisturbing groupId) (by simp), ?_⟩
    split
    · exact h₁.1
    · refine tombstone_raise h₁.1 ((h₁.2 groupId).trans htold)
        (Or.inl Std.ExtTreeSet.mem_insert_self) ?_ ?_ hown
      · exact Nat.le_zero.mp
          ((tokens_le (Multiset.erase_le _ _)).trans hthreads.le)
      · intro _
        simp
  · intro _ _
    exact h

theorem handleGroupCreate_tombstones
    (hown : (.handleGroupCreate peerId pd :: callers : Multiset Proc) ≤ M)
    (h : GroupsEndedOnce s M) :
    tombstoneContract.wp (.handleGroupCreate peerId pd) callers
      (Action.handleGroupCreate peerId pd) (fun _ => GroupsEndedOnce) s M := by
  apply wp_assertedPeer trivial (tombstone_asserts h)
  intro peer _
  apply Contract.wp_get
  apply wp_caught
  · rintro ⟨groupId, name, data⟩ _
    dsimp only
    split
    · exact h
    split
    · exact h
    split
    · exact h
    rename_i hunmarked
    apply tombstone_emplace h hunmarked _ hown
    exact Action.uses_bind (by simp) fun _ => by simp
  · intro _ _
    exact h

theorem handleGroupJoin_tombstones
    (hown : (.handleGroupJoin peerId pd :: callers : Multiset Proc) ≤ M)
    (h : GroupsEndedOnce s M) :
    tombstoneContract.wp (.handleGroupJoin peerId pd) callers
      (Action.handleGroupJoin peerId pd) (fun _ => GroupsEndedOnce) s M := by
  apply wp_assertedPeer trivial (tombstone_asserts h)
  intro peer _
  apply Contract.wp_get
  apply wp_caught
  · rintro ⟨groupId, ackId, name, data⟩ _
    dsimp only
    split
    · exact h
    split
    · exact tombstone_rest (by simp [Action.sendAck]) hown h
    rename_i hunmarked
    split
    · apply tombstone_emplace h hunmarked _ hown
      unfold Action.sendAck
      repeat' with_reducible first
        | apply Action.uses_peerAt
        | apply Action.uses_bind
        | intro _
        | split
      all_goals simp
    · apply tombstone_rest _ hown h
      unfold Action.sendAck
      repeat' with_reducible first
        | apply Action.uses_sendToConnected
        | apply Action.uses_bind
        | intro _
        | split
      all_goals simp
  · intro _ _
    exact h

theorem handleGroupJoined_tombstones
    (hown : (.handleGroupJoined peerId pd :: callers : Multiset Proc) ≤ M)
    (h : GroupsEndedOnce s M) :
    tombstoneContract.wp (.handleGroupJoined peerId pd) callers
      (Action.handleGroupJoined peerId pd) (fun _ => GroupsEndedOnce) s M := by
  apply wp_assertedPeer trivial (tombstone_asserts h)
  intro peer _
  apply Contract.wp_get
  apply wp_caught
  · rintro ⟨groupId, name, data⟩ _
    dsimp only
    split
    · exact h
    split
    · exact h
    rename_i hunmarked
    split
    · apply tombstone_emplace h hunmarked _ hown
      repeat' with_reducible first
        | apply Action.uses_bind
        | intro _
        | split
      all_goals simp
    · apply tombstone_rest _ hown h
      repeat' with_reducible first
        | apply Action.uses_bind
        | intro _
        | split
      all_goals simp
  · intro _ _
    exact h

theorem closing_tombstones {flags : DWORD} {wasHosting wasConnected : Bool}
    (hown : (.closing flags wasHosting wasConnected :: callers :
      Multiset Proc) ≤ M)
    (h : GroupsEndedOnce s M) :
    tombstoneContract.wp (.closing flags wasHosting wasConnected) callers
      (Action.closing flags wasHosting wasConnected)
      (fun _ => GroupsEndedOnce) s M := by
  have hlocal : (Action.dispatchDestroyLocalPlayer
      destroyPlayerReasonNormal).Uses
        (withoutTombstones (.closing flags wasHosting wasConnected)) :=
    Action.uses_dispatchDestroyLocalPlayer (by simp)
  unfold Action.closing
  rw [bind_eq, Contract.wp_bind]
  refine Contract.wp_mono (tombstone_part (Uses.onlyIf fun _ => hlocal) hown h) ?_
  intro _ s₁ M₁ h₁
  rw [bind_eq, Contract.wp_bind]
  refine Contract.wp_mono (tombstone_part (Action.uses_closePeers trivial (by simp)
    (by simp)) h₁.1 h₁.2) ?_
  intro _ s₂ M₂ h₂
  rw [bind_eq, Contract.wp_bind]
  refine Contract.wp_mono (tombstone_part (Uses.onlyIf fun _ => hlocal) h₂.1 h₂.2) ?_
  intro _ s₃ M₃ h₃ _
  refine ⟨tombstone_enters h₃.2 rfl, ?_⟩
  intro s₄ M₄ _ h₄ _ _
  refine ⟨⟨h₄, trivial⟩, ?_⟩
  intro s₅ M₅ _ _ h₅ _ _ _ _ _
  refine ⟨⟨h₅, trivial⟩, ?_⟩
  intro s₆ M₆ _ _ h₆ _ _ _ _ _ _
  refine ⟨tombstone_agrees h₆ (by simp [Command.IsUndisturbing]) (by simp), ?_⟩
  intro hnone
  have hgone : forall r, r ∈ M₆ -> forall groupId, r.endsGroup groupId = false :=
    fun r hr groupId => r.endsGroup_of_not_thread (tokens_eq_zero.mp hnone r hr) groupId
  have hunconcerned : forall r s s', r ∈ M₆.erase
      (.closing flags wasHosting wasConnected) -> tombstoneContract.rely r s s' := by
    intro r s s' hr groupId hends
    rw [hgone r (Multiset.mem_of_mem_erase hr) groupId] at hends
    cases hends
  refine ⟨⟨⟨fun _ => rfl, by simp [Command.endedGroup], by simp⟩,
    fun r hr => hunconcerned r _ _ hr⟩, ?_⟩
  intro _
  refine ⟨⟨⟨by simp, by simp [Command.endedGroup], by simp⟩,
    fun r hr => hunconcerned r _ _ hr⟩, ?_⟩
  intro _
  refine ⟨⟨⟨by simp, by simp [Command.endedGroup, Event.endedGroup], by simp⟩,
    fun r hr => hunconcerned r _ _ hr⟩, ?_⟩
  intro groupId
  have htold : ((Command.log (.returned .close sOk)).apply
      ((Command.setState .new).apply (Command.clearDestroyedGroups.apply
        ((Command.setWorkerPool false).apply s₆)))).timesDestroyed groupId = 0 := by
    rw [DirectPlay8Peer.timesDestroyed, Command.session_closed]
    rfl
  have hthreads : tokens (Proc.endsGroup groupId) M₆ = 0 :=
    tokens_eq_zero.mpr fun r hr => hgone r hr groupId
  constructor
  · exact htold.le.trans (Nat.zero_le 1)
  · exact hthreads.le.trans (Nat.zero_le 1)
  · exact fun _ => ⟨htold, hthreads⟩

theorem body_tombstones {p : Proc} (hown : (p :: callers : Multiset Proc) ≤ M)
    (hpre : tombstoneContract.pre p s M) :
    tombstoneContract.wp p callers p.body (fun _ => GroupsEndedOnce) s M := by
  cases p with
  | destroyGroup => exact destroyGroup_tombstones hown hpre.1
  | destroyGroupThread => exact destroyGroupThread_tombstones hown hpre
  | groupDestroyAll => exact groupDestroyAll_tombstones hown hpre.1
  | handleGroupDestroy => exact handleGroupDestroy_tombstones hown hpre.1
  | handleGroupCreate => exact handleGroupCreate_tombstones hown hpre.1
  | handleGroupJoin => exact handleGroupJoin_tombstones hown hpre.1
  | handleGroupJoined => exact handleGroupJoined_tombstones hown hpre.1
  | closing => exact closing_tombstones hown hpre.1
  | _ =>
      refine tombstone_rest (undisturbing_of_notices ?_ ?_ rfl) hown hpre.1
      · simp
      · simp [Proc.allocatesGroup]

end Procedures

theorem DirectPlay8Peer.Constructed.timesDestroyed {s : DirectPlay8Peer}
    (hs : s.Constructed) (groupId : DPNID) : s.timesDestroyed groupId = 0 := by
  rw [DirectPlay8Peer.timesDestroyed, DirectPlay8Peer.session, hs.history]
  rfl

theorem tombstoneContract_valid :
    tombstoneContract.Valid DirectPlay8Peer.Constructed where
  initial := by
    intro s hs
    refine ⟨?_, trivial⟩
    intro groupId
    have htold := hs.timesDestroyed groupId
    constructor
    · rw [htold]
      exact Nat.zero_le 1
    · exact Nat.zero_le 1
    · intro _
      exact ⟨htold, tokens_zero⟩
  start := by
    intro p s M hentry h _ _
    refine tombstone_enters h ?_
    cases p <;> first
      | rfl
      | cases hentry
  body := by
    intro p callers s M hown hpre
    refine Contract.wp_mono (body_tombstones hown hpre) ?_
    intro _ s' M' h'
    refine ⟨⟨?_, trivial⟩, fun _ _ => trivial⟩
    intro groupId
    exact (h' groupId).le (Multiset.erase_le _ _)

/-!
## Sessions
-/

theorem timesDestroyed_le {c : Run}
    (hc : Reaches machine DirectPlay8Peer.Constructed ThreadsEnded c)
    (groupId : DPNID) : c.state.timesDestroyed groupId ≤ 1 := by
  refine tombstoneContract_valid.always
    (I := fun s => s.timesDestroyed groupId ≤ 1) ?_ ?_ hc
  · intro s hs
    rw [hs.timesDestroyed]
    exact Nat.zero_le 1
  · rintro p command s ⟨_, huntold, _⟩ htold
    show (command.apply s).timesDestroyed groupId ≤ 1
    by_cases hcloses : command = .log (.returned .close sOk)
    · subst hcloses
      rw [DirectPlay8Peer.timesDestroyed, Command.session_closed]
      exact Nat.zero_le 1
    · rw [Command.timesDestroyed_after groupId (Command.notice_ne_closed hcloses)]
      split
      · rename_i hends
        rw [huntold groupId hends]
      · exact htold

/--
As long as no thread of `DestroyGroup` outlives the session it was started in, the ID
of a destroyed group stays in the set until `Close` empties it, the group is not made
again but by an allocation that brings its ID, and the application is told of its end
once at most in a session.
-/
theorem destroyed_groups_kept {c c' : Run} {label : StepLabel}
    (hc : Reaches machine DirectPlay8Peer.Constructed ThreadsEnded c)
    (hstep : Step machine c label c')
    (hcond : ThreadsEnded c.state c.activations label) (groupId : DPNID) :
    c'.state.timesDestroyed groupId ≤ 1 ∧
      (groupId ∈ c.state.destroyedGroups ->
        (exists flags wasHosting wasConnected,
          label = .exec (.closing flags wasHosting wasConnected)
            .clearDestroyedGroups) ∨
        groupId ∈ c'.state.destroyedGroups ∧
          (groupId ∈ c'.state.groups -> groupId ∈ c.state.groups ∨
            exists p name data ctx, p.allocatesGroup = true ∧
              label = .exec p (.emplaceGroup groupId name data ctx))) := by
  constructor
  · exact timesDestroyed_le (hc.step hstep hcond) groupId
  · intro hmarked
    rcases tombstoneContract_valid.guar hc hstep hcond with
      hsame | ⟨p, command, rfl, ⟨hcloses, _, hemplace⟩, happlied⟩
    · rw [hsame]
      exact Or.inr ⟨hmarked, fun hgroup => Or.inl hgroup⟩
    · by_cases hclear : command = .clearDestroyedGroups
      · left
        subst hclear
        have hclosing := hcloses rfl
        cases p with
        | closing flags wasHosting wasConnected =>
            exact ⟨flags, wasHosting, wasConnected, rfl⟩
        | _ => cases hclosing
      · right
        rw [happlied]
        refine ⟨Command.mem_destroyedGroups_after hclear hmarked, ?_⟩
        intro hgroup
        rcases Command.mem_groups_after hgroup with
          hbefore | ⟨name, data, ctx, rfl⟩
        · exact Or.inl hbefore
        · rcases hemplace groupId name data ctx rfl with
            hallocates | hunmarked
          · exact Or.inr ⟨p, name, data, ctx, hallocates, rfl⟩
          · exact absurd hmarked hunmarked

def StepLabel.endsGroup : StepLabel -> Bool
  | .exec _ (.log (.raised (.destroyGroup ..))) => true
  | _ => false

def choicesGroup (thread : Nat) : List (Choice Answer Proc) :=
  .start (.createGroup
      (some { infoFlags := 0, name := [], data := [], groupFlags := 0 })
      contextNull contextNull 0) :: List.replicate 3 (.resume thread {})

def choicesCreateGroup : List (Choice Answer Proc) :=
  choicesInitialise ++ choicesHost ++ [.answer {}, .resume 0 {}] ++ choicesGroup 0

def choicesDestroyGroup : List (Choice Answer Proc) :=
  choicesCreateGroup ++ [.start (.destroyGroup 2 contextNull 0)]

def choicesGroupAgain (thread : Nat) : List (Choice Answer Proc) :=
  .start (.close 0) :: List.replicate 4 (.resume thread {}) ++ choicesInitialise ++
    choicesHost ++ [.answer {}, .resume thread {}] ++ choicesGroup thread ++
    [.start (.destroyGroup 2 contextNull 0)]

/-- In the second session the application is told of the end of the group. -/
theorem destroyed_groups_kept_again :
    exists (c c' : Run) (label : StepLabel),
      Reaches machine DirectPlay8Peer.Constructed ThreadsEnded c ∧
        Step machine c label c' ∧ .returned .close sOk ∈ c.state.history ∧
        2 ∈ c.state.destroyedGroups ∧ 2 ∈ c'.state.destroyedGroups ∧
        c'.state.timesDestroyed 2 = 1 := by
  have hrun : (replayTo ThreadsEnded StepLabel.endsGroup (choicesDestroyGroup ++
      List.replicate 3 (.resume 0 {}) ++ choicesGroupAgain 0) (.resume 0 {})).any
      (fun q => decide (.returned .close sOk ∈ q.1.state.history ∧
        2 ∈ q.1.state.destroyedGroups ∧ 0 < q.2.state.timesDestroyed 2)) = true := by
    decide +kernel
  rcases replayTo_step hrun with ⟨c, c', label, hc, hends, hstep, htest⟩
  obtain ⟨hclosed, hmarked, htold⟩ := of_decide_eq_true htest
  have hlabel : forall p, label ≠ .exec p .clearDestroyedGroups := by
    rintro p rfl
    cases hends
  have hcond : ThreadsEnded c.state c.activations label := by
    unfold ThreadsEnded
    split
    · exact absurd rfl (hlabel _)
    · trivial
  obtain ⟨hle, hkept⟩ := destroyed_groups_kept hc hstep hcond 2
  rcases hkept hmarked with ⟨_, _, _, hclears⟩ | ⟨hstays, _⟩
  · exact absurd hclears (hlabel _)
  · exact ⟨c, c', label, hc, hstep, hclosed, hmarked, hstays,
      Nat.le_antisymm hle htold⟩

/--
The thread of the first session finds the group of the second, and tells of its end
as the thread of the second does.
-/
theorem destroyed_groups_told_twice :
    ¬ forall c : Run, Reaches machine DirectPlay8Peer.Constructed Unrestricted c ->
      forall groupId, c.state.timesDestroyed groupId ≤ 1 := by
  intro hclaim
  have hrun : (replay Unrestricted (choicesDestroyGroup ++ choicesGroupAgain 1 ++
      [.resume 0 {}, .resume 0 {}])).any
      (fun c => decide (c.state.timesDestroyed 2 = 2)) = true := by
    decide +kernel
  rcases replay_reaches hrun with ⟨c, hc, htest⟩
  have htwice := of_decide_eq_true htest
  have honce := hclaim c hc 2
  omega

end DirectPlayLite
