import DirectPlayLite.Peer.Tombstones

/-!
# The making and the end of groups

What the application is told of a group in a session, from its making to its end.
A group that it has been told of either is still there, and somebody is left to tell
of its end once it is marked as destroyed, or its end has been told.

Threads can spoil this: the one that tells of the making of a group may come too
late, `group_destroy_all` may erase a group that another thread is to tell the end
of, and whoever is to erase a group may come to erase one of the next session.
-/

namespace DirectPlayLite

open Monitor Program

namespace Event

/-- The group whose making the application is told of. -/
def createdGroup : Event -> Option DPNID
  | raised (.createGroup group ..) => some group
  | _ => none

def SilentOnGroups (event : Event) : Prop :=
  event.createdGroup = none ∧ event.endedGroup = none

theorem silentOnGroups {event : Event} (hcreate : event.notice ≠ some .createGroup)
    (hdestroy : event.notice ≠ some .destroyGroup) : event.SilentOnGroups := by
  cases event with
  | raised notification =>
      cases notification <;> first
        | exact ⟨rfl, rfl⟩
        | exact absurd rfl hcreate
        | exact absurd rfl hdestroy
  | _ => exact ⟨rfl, rfl⟩

end Event

namespace DirectPlay8Peer

variable {s s' : DirectPlay8Peer} {groupId : DPNID}

/-- In this session the application has been told of the making of the group. -/
def Created (s : DirectPlay8Peer) (groupId : DPNID) : Prop :=
  exists event, event ∈ s.session ∧ event.createdGroup = some groupId

/-- It has been told of the end once, and of the making only before. -/
def Ended (s : DirectPlay8Peer) (groupId : DPNID) : Prop :=
  exists ctx reason later earlier,
    s.session =
      later ++ .raised (.destroyGroup groupId ctx reason) :: earlier ∧
    (forall event, event ∈ later -> event.createdGroup ≠ some groupId ∧
      event.endedGroup ≠ some groupId) ∧
    forall event, event ∈ earlier -> event.endedGroup ≠ some groupId

def Settled (s : DirectPlay8Peer) (groupId : DPNID) : Prop :=
  s.Created groupId -> s.Ended groupId

def SameTold (s s' : DirectPlay8Peer) : Prop :=
  exists records, s'.session = records ++ s.session ∧
    forall event, event ∈ records -> event.SilentOnGroups

theorem Ended.told (h : s.Ended groupId) : s.timesDestroyed groupId ≠ 0 := by
  obtain ⟨ctx, reason, later, earlier, hhistory, _⟩ := h
  apply Nat.pos_iff_ne_zero.mp
  rw [timesDestroyed, List.countP_pos_iff]
  refine ⟨.raised (.destroyGroup groupId ctx reason), ?_, ?_⟩
  · rw [hhistory]
    simp
  · simp [Event.endedGroup]

theorem SameTold.created (h : s.SameTold s') :
    s'.Created groupId ↔ s.Created groupId := by
  obtain ⟨records, hhistory, hsilent⟩ := h
  constructor
  · rintro ⟨event, hevent, hcreated⟩
    rw [hhistory, List.mem_append] at hevent
    rcases hevent with hrecord | hbefore
    · rw [(hsilent event hrecord).1] at hcreated
      cases hcreated
    · exact ⟨event, hbefore, hcreated⟩
  · rintro ⟨event, hevent, hcreated⟩
    refine ⟨event, ?_, hcreated⟩
    rw [hhistory]
    exact List.mem_append_right records hevent

theorem SameTold.ended (h : s.SameTold s') (hended : s.Ended groupId) :
    s'.Ended groupId := by
  obtain ⟨records, hhistory, hsilent⟩ := h
  obtain ⟨ctx, reason, later, earlier, hbefore, hlater, hearlier⟩ := hended
  refine ⟨ctx, reason, records ++ later, earlier, ?_, ?_, hearlier⟩
  · rw [hhistory, hbefore, List.append_assoc]
  · intro event hevent
    rcases List.mem_append.mp hevent with hrecord | hafter
    · rw [(hsilent event hrecord).1, (hsilent event hrecord).2]
      exact ⟨by simp, by simp⟩
    · exact hlater event hafter

theorem SameTold.settled (h : s.SameTold s') (hsettled : s.Settled groupId) :
    s'.Settled groupId := by
  intro hcreated
  exact h.ended (hsettled (h.created.mp hcreated))

theorem SameTold.timesDestroyed (h : s.SameTold s') :
    s'.timesDestroyed groupId = s.timesDestroyed groupId := by
  obtain ⟨records, hhistory, hsilent⟩ := h
  have hzero : records.countP
      (fun event => event.endedGroup == some groupId) = 0 := by
    rw [List.countP_eq_zero]
    intro event hevent
    simp [(hsilent event hevent).2]
  rw [DirectPlay8Peer.timesDestroyed, hhistory, List.countP_append, hzero,
    Nat.zero_add, DirectPlay8Peer.timesDestroyed]

theorem SameTold.trans {s'' : DirectPlay8Peer} (h : s.SameTold s')
    (h' : s'.SameTold s'') : s.SameTold s'' := by
  obtain ⟨records, hhistory, hsilent⟩ := h
  obtain ⟨records', hhistory', hsilent'⟩ := h'
  refine ⟨records' ++ records, ?_, ?_⟩
  · rw [hhistory', hhistory, List.append_assoc]
  · intro event hevent
    rcases List.mem_append.mp hevent with hlater | hearlier
    · exact hsilent' event hlater
    · exact hsilent event hearlier

theorem SameTold.of_history (h : s'.history = s.history) : s.SameTold s' :=
  ⟨[], by rw [session, session, h, List.nil_append], by simp⟩

end DirectPlay8Peer

/-!
## Commands
-/

def Notice.endsGroups : Notice -> Bool
  | receive | emplaceGroup => false
  | createGroup | destroyGroup | insertDestroyedGroup | eraseGroup
  | clearDestroyedGroups | closed => true

namespace Command

variable {command : Command} {s : DirectPlay8Peer} {groupId : DPNID}

def LeavesGroups (command : Command) : Prop :=
  forall notice, command.notice = some notice -> notice.endsGroups = false

theorem LeavesGroups.ne {notice : Notice} (h : command.LeavesGroups)
    (hends : notice.endsGroups = true) : command.notice ≠ some notice := by
  intro hnotice
  rw [h notice hnotice] at hends
  cases hends

theorem sameTold (hcreate : command.notice ≠ some .createGroup)
    (hdestroy : command.notice ≠ some .destroyGroup)
    (hopen : command.notice ≠ some .closed) :
    s.SameTold (command.apply s) := by
  obtain ⟨records, hsession, _, hquiet⟩ := session_after (s := s) hopen
  refine ⟨records, hsession, ?_⟩
  intro event hevent
  rcases hquiet event hevent with rfl | hnone
  · exact Event.silentOnGroups hcreate hdestroy
  · apply Event.silentOnGroups
    · rw [hnone]
      simp
    · rw [hnone]
      simp

theorem LeavesGroups.sameTold (h : command.LeavesGroups) : s.SameTold (command.apply s) :=
  Command.sameTold (h.ne rfl) (h.ne rfl) (h.ne rfl)

theorem mem_groups_kept (hsame : command.notice ≠ some .eraseGroup)
    (h : groupId ∈ s.groups) : groupId ∈ (command.apply s).groups := by
  cases command with
  | emplaceGroup emplaced name data ctx =>
      exact Std.ExtTreeMap.mem_insertIfNew.mpr (Or.inr h)
  | eraseGroup erased => exact absurd rfl hsame
  | group changed change =>
      simp only [apply, Std.ExtTreeMap.mem_modify]
      exact h
  | peer peerId change =>
      simp only [apply, applyPeer]
      split <;> exact h
  | setSocket which sock => cases which <;> exact h
  | «local» change => cases change <;> exact h
  | session change => cases change <;> exact h
  | connect change => cases change <;> exact h
  | _ => exact h

theorem mem_destroyedGroups_before
    (hsame : command.notice ≠ some .insertDestroyedGroup)
    (h : groupId ∈ (command.apply s).destroyedGroups) :
    groupId ∈ s.destroyedGroups := by
  cases command with
  | insertDestroyedGroup inserted => exact absurd rfl hsame
  | clearDestroyedGroups => exact absurd h Std.ExtTreeSet.not_mem_empty
  | peer peerId change =>
      simp only [apply, applyPeer] at h
      split at h <;> exact h
  | setSocket which sock => cases which <;> exact h
  | «local» change => cases change <;> exact h
  | session change => cases change <;> exact h
  | connect change => cases change <;> exact h
  | _ => exact h

theorem groups_empty (hempty : s.groups = ∅)
    (hemplace : forall groupId name data ctx,
      command ≠ .emplaceGroup groupId name data ctx) :
    (command.apply s).groups = ∅ := by
  apply Std.ExtTreeMap.eq_empty_iff_forall_not_mem.mpr
  intro groupId hmem
  rcases mem_groups_after hmem with hbefore | ⟨name, data, ctx, hcommand⟩
  · rw [hempty] at hbefore
    exact absurd hbefore Std.ExtTreeMap.not_mem_empty
  · exact hemplace groupId name data ctx hcommand

end Command

/-!
## Conditions
-/

namespace StepLabel

/-- The group whose making a thread of `CreateGroup` tells. -/
def toldByThread : StepLabel -> Option DPNID
  | .exec (.createGroupThread ..) (.log (.raised (.createGroup groupId ..))) =>
      some groupId
  | _ => none

/-- The group that `group_destroy_all` erases. -/
def erasedByAll : StepLabel -> Option DPNID
  | .exec (.groupDestroyAll _) (.eraseGroup groupId) => some groupId
  | _ => none

def emplacesGroup : StepLabel -> Bool
  | .exec _ (.emplaceGroup ..) => true
  | _ => false

end StepLabel

/-- It tells of the ends of groups, and erases groups when that is done. -/
def Proc.tellsEnds (p : Proc) : Bool := p.notices.contains .destroyGroup

/--
A thread of `CreateGroup` tells of a group that is still there and not marked as
destroyed, `group_destroy_all` erases no group whose end another thread is still to
tell, no group is made once `Close` has emptied the table, and when `Close` returns
nobody is left who is to erase a group.
-/
def GroupLivesGuarded (s : DirectPlay8Peer) (M : Multiset Proc)
    (label : StepLabel) : Prop :=
  (forall groupId, groupId ∈ label.toldByThread ->
    groupId ∈ s.groups ∧ groupId ∉ s.destroyedGroups) ∧
  (forall groupId, groupId ∈ label.erasedByAll ->
    tokens (Proc.endsGroup groupId) M = 0 ∨
      s.timesDestroyed groupId ≠ 0) ∧
  (label.emplacesGroup = true -> s.groups.isEmpty = true ->
    tokens Proc.isClosing M = 0) ∧
  (label.closed = true -> tokens Proc.tellsEnds M = 0)

instance {s : DirectPlay8Peer} {M : Multiset Proc} {label : StepLabel} :
    Decidable (GroupLivesGuarded s M label) := by
  have htold : Decidable (forall groupId, groupId ∈ label.toldByThread ->
      groupId ∈ s.groups ∧ groupId ∉ s.destroyedGroups) :=
    Option.decidableForallMem _
  have herased : Decidable (forall groupId, groupId ∈ label.erasedByAll ->
      tokens (Proc.endsGroup groupId) M = 0 ∨
        s.timesDestroyed groupId ≠ 0) := Option.decidableForallMem _
  unfold GroupLivesGuarded
  exact instDecidableAnd

/-!
## The contract
-/

structure GroupLife (s : DirectPlay8Peer) (M : Multiset Proc) (groupId : DPNID) :
    Prop where
  threads : tokens (Proc.endsGroup groupId) M ≤ 1
  unmarked : groupId ∉ s.destroyedGroups ->
    s.timesDestroyed groupId = 0 ∧ tokens (Proc.endsGroup groupId) M = 0
  awaited : s.Created groupId -> s.Ended groupId ∨
    (groupId ∈ s.groups ∧ s.timesDestroyed groupId = 0 ∧
      (groupId ∈ s.destroyedGroups ->
        0 < tokens (Proc.endsGroup groupId) M))

def GroupLives (s : DirectPlay8Peer) (M : Multiset Proc) : Prop :=
  forall groupId, GroupLife s M groupId

structure GroupsKept (p : Proc) (s s' : DirectPlay8Peer) : Prop where
  told : p.tellsEnds = true -> forall groupId,
    s.timesDestroyed groupId ≤ s'.timesDestroyed groupId
  own : forall groupId, p.endsGroup groupId = true ->
    s'.timesDestroyed groupId = s.timesDestroyed groupId ∧
      (s.Settled groupId -> s'.Settled groupId)
  emptied : p.isClosing = true -> s.groups = ∅ -> s'.groups = ∅

theorem GroupsKept.refl (p : Proc) (s : DirectPlay8Peer) : GroupsKept p s s where
  told := fun _ _ => Nat.le_refl _
  own := fun _ _ => ⟨rfl, id⟩
  emptied := fun _ => id

theorem GroupsKept.trans {p : Proc} {s s' s'' : DirectPlay8Peer}
    (h : GroupsKept p s s') (h' : GroupsKept p s' s'') : GroupsKept p s s'' where
  told := fun htells groupId => (h.told htells groupId).trans (h'.told htells groupId)
  own := by
    intro groupId hends
    obtain ⟨htold, hsettled⟩ := h.own groupId hends
    obtain ⟨htold', hsettled'⟩ := h'.own groupId hends
    exact ⟨htold'.trans htold, hsettled' ∘ hsettled⟩
  emptied := fun hclosing => h'.emptied hclosing ∘ h.emptied hclosing

@[simp] def Proc.isGroupDestroyAll : Proc -> Bool
  | groupDestroyAll .. => true
  | _ => false

def livesContract : Contract machine where
  cond := GroupLivesGuarded
  inv := GroupLives
  free := fun _ => True
  guar := fun p command s => p.isClosing = true ->
    command = .log (.returned .close sOk) -> forall groupId, s.Settled groupId
  rely := GroupsKept
  pre := fun p s M => GroupLives s M ∧
    forall groupId, p.endsGroup groupId = true -> s.timesDestroyed groupId = 0
  post := fun p _ s' _ => p.isGroupDestroyAll = true -> s'.groups = ∅
  faults := fun _ => True
  rely_refl := GroupsKept.refl
  rely_trans := fun _ _ _ _ => GroupsKept.trans

abbrev withoutGroups : Footprint Command Proc Fault :=
  .within Command.LeavesGroups
    (fun callee => callee.isDestroyThread = false)
    fun child => child.isDestroyThread = false

section Table

variable {p q : Proc} {command : Command}

theorem living_of_notices
    (hleaves : forall notice, notice ∈ p.notices -> notice.endsGroups = false)
    (hspawn : p.isDestroyGroup = false) : p.body.Uses withoutGroups := by
  refine Uses.mono p.body_keepsNotices ?_ (fun _ => trivial) (fun _ h => h) ?_
    (fun _ _ => trivial)
  · intro command hcommand notice hnotice
    exact hleaves notice (hcommand notice hnotice)
  · intro child hchild
    cases hthread : child.isDestroyThread with
    | false => exact hthread
    | true =>
        have htrue := hchild hthread
        rw [hspawn] at htrue
        cases htrue

end Table

/-!
## Lives under commands
-/

namespace GroupLife

variable {s : DirectPlay8Peer} {M : Multiset Proc} {p : Proc}
  {command : Command} {groupId ended : DPNID} {ctx owner : Context}
  {reason : DWORD}

theorem congr {M' : Multiset Proc} (h : GroupLife s M groupId)
    (hsame : tokens (Proc.endsGroup groupId) M' =
      tokens (Proc.endsGroup groupId) M) : GroupLife s M' groupId := by
  constructor
  · rw [hsame]
    exact h.threads
  · rw [hsame]
    exact h.unmarked
  · rw [hsame]
    exact h.awaited

theorem cons (h : GroupLife s M groupId) (hp : p.endsGroup groupId = false) :
    GroupLife s (p ::ₘ M) groupId := h.congr (tokens_cons_of_false hp)

theorem erase (h : GroupLife s M groupId) (hp : p.endsGroup groupId = false) :
    GroupLife s (M.erase p) groupId := h.congr (tokens_erase_of_false hp)

theorem erase_settled (h : GroupLife s M groupId)
    (hsettled : s.Settled groupId) : GroupLife s (M.erase p) groupId := by
  have hle : tokens (Proc.endsGroup groupId) (M.erase p) ≤
      tokens (Proc.endsGroup groupId) M := tokens_le (Multiset.erase_le p M)
  constructor
  · exact hle.trans h.threads
  · intro hunmarked
    obtain ⟨htold, hthreads⟩ := h.unmarked hunmarked
    exact ⟨htold, Nat.le_zero.mp (hle.trans hthreads.le)⟩
  · intro hcreated
    exact Or.inl (hsettled hcreated)

theorem settled_of_told (h : GroupLife s M groupId)
    (htold : s.timesDestroyed groupId ≠ 0) : s.Settled groupId := by
  intro hcreated
  rcases h.awaited hcreated with hended | ⟨_, huntold, _⟩
  · exact hended
  · exact absurd huntold htold

theorem settled_of_missing (h : GroupLife s M groupId)
    (hmissing : groupId ∉ s.groups) : s.Settled groupId := by
  intro hcreated
  rcases h.awaited hcreated with hended | ⟨hgroup, _⟩
  · exact hended
  · exact absurd hgroup hmissing

theorem settled_of_marked (h : GroupLife s M groupId)
    (hmarked : groupId ∈ s.destroyedGroups)
    (hnone : tokens (Proc.endsGroup groupId) M = 0 ∨
      s.timesDestroyed groupId ≠ 0) : s.Settled groupId := by
  rcases hnone with hthreads | htold
  · intro hcreated
    rcases h.awaited hcreated with hended | ⟨_, _, hawaits⟩
    · exact hended
    · exact absurd hthreads (hawaits hmarked).ne'
  · exact h.settled_of_told htold

theorem leaves (h : GroupLife s M groupId) (hleaves : command.LeavesGroups) :
    GroupLife (command.apply s) M groupId := by
  have hsame : s.SameTold (command.apply s) := hleaves.sameTold
  constructor
  · exact h.threads
  · intro hunmarked
    rw [hsame.timesDestroyed]
    apply h.unmarked
    intro hmarked
    refine hunmarked (Command.mem_destroyedGroups_after ?_ hmarked)
    intro hclear
    subst hclear
    cases hleaves .clearDestroyedGroups rfl
  · intro hcreated
    rcases h.awaited (hsame.created.mp hcreated) with
      hended | ⟨hgroup, htold, hawaits⟩
    · exact Or.inl (hsame.ended hended)
    · right
      rw [hsame.timesDestroyed]
      refine ⟨Command.mem_groups_kept (hleaves.ne rfl) hgroup, htold, ?_⟩
      intro hmarked
      exact hawaits
        (Command.mem_destroyedGroups_before (hleaves.ne rfl) hmarked)

theorem insert_other (h : GroupLife s M ended) (hother : groupId ≠ ended) :
    GroupLife ((Command.insertDestroyedGroup groupId).apply s) M ended := by
  have hmarked : ended ∈ s.destroyedGroups.insert groupId ↔
      ended ∈ s.destroyedGroups := by
    rw [Std.ExtTreeSet.mem_insert]
    simp [hother]
  constructor
  · exact h.threads
  · intro hunmarked
    exact h.unmarked fun hmem => hunmarked (hmarked.mpr hmem)
  · intro hcreated
    rcases h.awaited hcreated with hended | ⟨hgroup, htold, hawaits⟩
    · exact Or.inl hended
    · exact Or.inr ⟨hgroup, htold, fun hmem => hawaits (hmarked.mp hmem)⟩

theorem erased (h : GroupLife s M ended)
    (hsettled : groupId = ended -> s.Settled ended) :
    GroupLife ((Command.eraseGroup groupId).apply s) M ended := by
  constructor
  · exact h.threads
  · exact h.unmarked
  · intro hcreated
    rcases h.awaited hcreated with hended | ⟨hgroup, htold, hawaits⟩
    · exact Or.inl hended
    · by_cases hsame : groupId = ended
      · exact Or.inl (hsettled hsame hcreated)
      · refine Or.inr ⟨?_, htold, hawaits⟩
        show ended ∈ s.groups.erase groupId
        rw [Std.ExtTreeMap.mem_erase]
        exact ⟨by simpa using hsame, hgroup⟩

end GroupLife

/-!
## Lives and what the application is told
-/

section Told

variable {s : DirectPlay8Peer} {M : Multiset Proc} {event : Event}
  {groupId ended : DPNID} {ctx owner : Context} {reason : DWORD}

theorem session_log (hopen : (Command.log event).notice ≠ some .closed) :
    ((Command.log event).apply s).session = event :: s.session := by
  have hevent : (event != .returned .close sOk) = true := by
    rw [bne_iff_ne]
    rintro rfl
    exact hopen (by simp)
  simp [DirectPlay8Peer.session, Command.apply, hevent]

theorem created_log (hopen : (Command.log event).notice ≠ some .closed) :
    ((Command.log event).apply s).Created groupId ↔
      event.createdGroup = some groupId ∨ s.Created groupId := by
  rw [DirectPlay8Peer.Created, session_log hopen]
  constructor
  · rintro ⟨record, hrecord, hcreated⟩
    rcases List.mem_cons.mp hrecord with rfl | hbefore
    · exact Or.inl hcreated
    · exact Or.inr ⟨record, hbefore, hcreated⟩
  · rintro (hcreated | ⟨record, hrecord, hcreated⟩)
    · exact ⟨event, List.mem_cons_self, hcreated⟩
    · exact ⟨record, List.mem_cons_of_mem event hrecord, hcreated⟩

theorem ended_log (hopen : (Command.log event).notice ≠ some .closed)
    (hcreated : event.createdGroup ≠ some groupId)
    (hended : event.endedGroup ≠ some groupId) (h : s.Ended groupId) :
    ((Command.log event).apply s).Ended groupId := by
  obtain ⟨ctx, reason, later, earlier, hhistory, hlater, hearlier⟩ := h
  refine ⟨ctx, reason, event :: later, earlier, ?_, ?_, hearlier⟩
  · rw [session_log hopen, hhistory, List.cons_append]
  · intro record hrecord
    rcases List.mem_cons.mp hrecord with rfl | hbefore
    · exact ⟨hcreated, hended⟩
    · exact hlater record hbefore

theorem settled_log (hopen : (Command.log event).notice ≠ some .closed)
    (hcreated : event.createdGroup ≠ some groupId)
    (hended : event.endedGroup ≠ some groupId) (h : s.Settled groupId) :
    ((Command.log event).apply s).Settled groupId := by
  intro hafter
  rcases (created_log hopen).mp hafter with hnow | hbefore
  · exact absurd hnow hcreated
  · exact ended_log hopen hcreated hended (h hbefore)

theorem ended_now (htold : s.timesDestroyed groupId = 0) :
    ((Command.log (.raised (.destroyGroup groupId ctx reason))).apply
      s).Ended groupId := by
  refine ⟨ctx, reason, [], s.session, session_log (by simp), by simp, ?_⟩
  intro record hrecord hended
  have hnone := List.countP_eq_zero.mp htold record hrecord
  rw [hended] at hnone
  exact hnone (beq_self_eq_true _)

theorem timesDestroyed_log (hopen : (Command.log event).notice ≠ some .closed)
    (hended : event.endedGroup ≠ some groupId) :
    ((Command.log event).apply s).timesDestroyed groupId =
      s.timesDestroyed groupId := by
  rw [Command.timesDestroyed_after groupId hopen, Command.endedGroup, if_neg hended,
    Nat.add_zero]

theorem timesDestroyed_ended :
    ((Command.log (.raised (.destroyGroup groupId ctx reason))).apply
      s).timesDestroyed groupId = s.timesDestroyed groupId + 1 := by
  rw [Command.timesDestroyed_after groupId (by simp), Command.endedGroup,
    Event.endedGroup, if_pos rfl]

theorem GroupLife.log_other (h : GroupLife s M groupId)
    (hopen : (Command.log event).notice ≠ some .closed)
    (hcreated : event.createdGroup ≠ some groupId)
    (hended : event.endedGroup ≠ some groupId) :
    GroupLife ((Command.log event).apply s) M groupId := by
  have htold := timesDestroyed_log (s := s) hopen hended
  constructor
  · exact h.threads
  · rw [htold]
    exact h.unmarked
  · intro hafter
    rw [htold]
    rcases (created_log hopen).mp hafter with hnow | hbefore
    · exact absurd hnow hcreated
    · rcases h.awaited hbefore with hends | hthere
      · exact Or.inl (ended_log hopen hcreated hended hends)
      · exact Or.inr hthere

theorem GroupLife.log_created (h : GroupLife s M groupId)
    (hgroup : groupId ∈ s.groups)
    (hunmarked : groupId ∉ s.destroyedGroups) :
    GroupLife ((Command.log (.raised (.createGroup groupId ctx owner))).apply
      s) M groupId := by
  have htold : ((Command.log (.raised (.createGroup groupId ctx owner))).apply
      s).timesDestroyed groupId = 0 :=
    (timesDestroyed_log (by simp) (by simp [Event.endedGroup])).trans
      (h.unmarked hunmarked).1
  constructor
  · exact h.threads
  · intro _
    exact ⟨htold, (h.unmarked hunmarked).2⟩
  · intro _
    exact Or.inr ⟨hgroup, htold, fun hmarked => absurd hmarked hunmarked⟩

theorem GroupLife.log_ended (hthreads : tokens (Proc.endsGroup groupId) M ≤ 1)
    (hmarked : groupId ∈ s.destroyedGroups)
    (htold : s.timesDestroyed groupId = 0) :
    GroupLife ((Command.log (.raised (.destroyGroup groupId ctx reason))).apply
      s) M groupId := by
  constructor
  · exact hthreads
  · intro hunmarked
    exact absurd hmarked hunmarked
  · intro _
    exact Or.inl (ended_now htold)

end Told

/-!
## Rules
-/

section Rules

variable {p : Proc} {callers : List Proc} {command : Command}
  {s : DirectPlay8Peer} {M : Multiset Proc} {groupId : DPNID} {α β : Type}

theorem lives_agrees (hcond : GroupLivesGuarded s M (.exec p command))
    (hreturns : p.isClosing = true ->
      command = .log (.returned .close sOk) ->
      forall groupId, s.Settled groupId)
    (htold : forall r, r ∈ M.erase p -> r.tellsEnds = true -> forall groupId,
      s.timesDestroyed groupId ≤ (command.apply s).timesDestroyed groupId)
    (hown : forall r, r ∈ M.erase p -> forall groupId,
      r.endsGroup groupId = true ->
      (command.apply s).timesDestroyed groupId = s.timesDestroyed groupId ∧
        (s.Settled groupId -> (command.apply s).Settled groupId)) :
    livesContract.Agrees p command M s := by
  refine ⟨hreturns, ?_⟩
  intro r hr
  constructor
  · exact htold r hr
  · exact hown r hr
  · intro hclosing hempty
    apply Command.groups_empty hempty
    intro groupId name data ctx hcommand
    subst hcommand
    have hnone := tokens_eq_zero.mp
      (hcond.2.2.1 rfl (Std.ExtTreeMap.isEmpty_iff.mpr hempty)) r
      (Multiset.mem_of_mem_erase hr)
    rw [hclosing] at hnone
    cases hnone

theorem lives_agrees_same (hcond : GroupLivesGuarded s M (.exec p command))
    (hreturns : p.isClosing = true ->
      command = .log (.returned .close sOk) ->
      forall groupId, s.Settled groupId)
    (hsame : s.SameTold (command.apply s)) :
    livesContract.Agrees p command M s := by
  apply lives_agrees hcond hreturns
  · intro r _ _ groupId
    exact hsame.timesDestroyed.ge
  · intro r _ groupId _
    exact ⟨hsame.timesDestroyed, hsame.settled⟩

theorem lives_enters (h : GroupLives s M) (hp : p.isDestroyThread = false) :
    GroupLives s (p ::ₘ M) ∧ forall groupId, p.endsGroup groupId = true ->
      s.timesDestroyed groupId = 0 := by
  constructor
  · intro groupId
    exact (h groupId).cons (p.endsGroup_of_not_thread hp groupId)
  · intro groupId hends
    rw [p.endsGroup_of_not_thread hp groupId] at hends
    cases hends

theorem Command.LeavesGroups.not_closed (h : command.LeavesGroups) :
    command ≠ .log (.returned .close sOk) := by
  rintro rfl
  cases h .closed (by simp)

theorem lives_part {prog : Action α} (huses : prog.Uses withoutGroups)
    (hown : (p :: callers : Multiset Proc) ≤ M) (h : GroupLives s M) :
    livesContract.wp p callers prog
      (fun _ s' M' => (p :: callers : Multiset Proc) ≤ M' ∧ GroupLives s' M') s M := by
  refine Contract.wp_of_uses (I := GroupLives) huses
    (fun _ _ _ h => ⟨h, trivial⟩) (fun _ _ h _ => h) ?_ ?_ ?_
    (fun _ _ => trivial) hown h
  · intro command s M hcommand _ h hcond
    constructor
    · apply lives_agrees_same hcond
      · intro _ hreturned
        exact absurd hreturned hcommand.not_closed
      · exact hcommand.sameTold
    · exact fun groupId => (h groupId).leaves hcommand
  · intro callee s M hcallee h _
    refine ⟨lives_enters h hcallee, ?_⟩
    intro s' M' h' _
    exact h'
  · intro child s M hchild h _
    constructor
    · intro s' M' _ h' _ _ _
      refine ⟨h', ?_⟩
      intro groupId hends
      rw [child.endsGroup_of_not_thread hchild groupId] at hends
      cases hends
    · exact (lives_enters h hchild).1

theorem lives_rest {prog : Action α} (huses : prog.Uses withoutGroups)
    (hown : (p :: callers : Multiset Proc) ≤ M) (h : GroupLives s M) :
    livesContract.wp p callers prog (fun _ => GroupLives) s M :=
  Contract.wp_mono (lives_part huses hown h) fun _ _ _ h => h.2

theorem lives_kept {prog : Action α} {f : α -> Action β}
    {post : β -> DirectPlay8Peer -> Multiset Proc -> Prop} {M' : Multiset Proc}
    (huses : prog.Uses (Kept Command.LeavesGroups))
    (h : GroupLives s M')
    (hnext : forall value s', GroupLives s' M' -> s.SameTold s' ->
      livesContract.wp p callers (f value) post s' M) :
    livesContract.wp p callers (prog >>= f) post s M := by
  rw [bind_eq, Contract.wp_bind]
  refine Contract.wp_mono (wp_kept huses (fun _ => trivial)
    (I := fun s' => GroupLives s' M' ∧ s.SameTold s') ?_
    ⟨h, .of_history rfl⟩) ?_
  · intro command s' hcommand h' hcond
    have hsame : s'.SameTold (command.apply s') := Command.LeavesGroups.sameTold hcommand
    refine ⟨lives_agrees_same hcond (fun _ hreturned =>
      absurd hreturned (Command.LeavesGroups.not_closed hcommand)) hsame, ?_,
      h'.2.trans hsame⟩
    intro groupId
    exact (h'.1 groupId).leaves hcommand
  · intro value s' M'' h'
    rw [h'.1]
    exact hnext value s' h'.2.1 h'.2.2

theorem lives_created {ctx owner : Context} {f : Answer -> Action Unit}
    (h : GroupLives s M)
    (hthere : GroupLivesGuarded s M
      (.exec p (.log (.raised (.createGroup groupId ctx owner)))) ->
      groupId ∈ s.groups ∧ groupId ∉ s.destroyedGroups)
    (huses : forall answer, (f answer).Uses withoutGroups)
    (hown : (p :: callers : Multiset Proc) ≤ M) :
    livesContract.wp p callers
      (Action.raise (.createGroup groupId ctx owner) >>= f)
      (fun _ => GroupLives) s M := by
  have hcreates : forall other, groupId ≠ other ->
      (Event.raised (.createGroup groupId ctx owner)).createdGroup ≠
        some other := by
    intro other hother heq
    exact hother (Option.some.inj heq)
  intro hcond
  obtain ⟨hgroup, hunmarked⟩ := hthere hcond
  constructor
  · apply lives_agrees hcond (fun _ => by simp)
    · intro r _ _ other
      exact (timesDestroyed_log (by simp) (by simp [Event.endedGroup])).ge
    · intro r hr other hends
      have hother : groupId ≠ other := by
        rintro rfl
        have hnone := tokens_eq_zero.mp ((h groupId).unmarked hunmarked).2 r
          (Multiset.mem_of_mem_erase hr)
        rw [hends] at hnone
        cases hnone
      constructor
      · exact timesDestroyed_log (by simp) (by intro h; cases h)
      · exact settled_log (by simp) (hcreates other hother) (by intro h; cases h)
  · apply lives_rest _ hown
    · intro other
      by_cases hother : groupId = other
      · subst hother
        exact (h groupId).log_created hgroup hunmarked
      · exact (h other).log_other (by simp) (hcreates other hother) (by intro h; cases h)
    · exact ⟨trivial, huses⟩

theorem lives_ended {ctx : Context} {reason : DWORD} {f : Answer -> Action α}
    {post : α -> DirectPlay8Peer -> Multiset Proc -> Prop}
    (htells : p.tellsEnds = true)
    (h : forall other, groupId ≠ other -> GroupLife s M other)
    (hthreads : tokens (Proc.endsGroup groupId) M ≤ 1)
    (hmarked : groupId ∈ s.destroyedGroups)
    (htold : s.timesDestroyed groupId = 0)
    (hothers : tokens (Proc.endsGroup groupId) (M.erase p) = 0)
    (hnext : forall answer s' M', (p :: callers : Multiset Proc) ≤ M' ->
      GroupLives s' M' -> s'.timesDestroyed groupId ≠ 0 ->
      livesContract.wp p callers (f answer) post s' M') :
    livesContract.wp p callers
      (Action.raise (.destroyGroup groupId ctx reason) >>= f) post s M := by
  have hends : forall other, groupId ≠ other ->
      (Event.raised (.destroyGroup groupId ctx reason)).endedGroup ≠
        some other := by
    intro other hother heq
    exact hother (Option.some.inj heq)
  intro hcond
  refine ⟨?_, ⟨?_, trivial⟩, ?_⟩
  · apply lives_agrees hcond (fun _ => by simp)
    · intro r _ _ other
      by_cases hother : groupId = other
      · subst hother
        exact Nat.le_of_lt (timesDestroyed_ended ▸ Nat.lt_succ_self _)
      · exact (timesDestroyed_log (by simp) (hends other hother)).ge
    · intro r hr other hrends
      have hother : groupId ≠ other := by
        rintro rfl
        have hnone := tokens_eq_zero.mp hothers r hr
        rw [hrends] at hnone
        cases hnone
      constructor
      · exact timesDestroyed_log (by simp) (hends other hother)
      · exact settled_log (by simp) (by intro h; cases h) (hends other hother)
  · intro other
    by_cases hother : groupId = other
    · subst hother
      exact GroupLife.log_ended hthreads hmarked htold
    · exact (h other hother).log_other (by simp) (by intro h; cases h)
        (hends other hother)
  · intro s' M' answer hown hinv _ hrely _ _ _
    apply hnext answer s' M' hown hinv
    have hafter := (hrely p List.mem_cons_self).told htells groupId
    exact (Nat.lt_of_lt_of_le (timesDestroyed_ended ▸ Nat.succ_pos _)
      hafter).ne'

theorem lives_insert {f : Unit -> Action α}
    {post : α -> DirectPlay8Peer -> Multiset Proc -> Prop}
    (h : GroupLives s M)
    (hnext : forall s', s' = (Command.insertDestroyedGroup groupId).apply s ->
      (forall other, groupId ≠ other -> GroupLife s' M other) ->
      groupId ∈ s'.destroyedGroups ->
      livesContract.wp p callers (f ()) post s' M) :
    livesContract.wp p callers
      (Action.perform (.insertDestroyedGroup groupId) >>= f) post s M := by
  intro hcond
  constructor
  · exact lives_agrees_same hcond (fun _ => by simp) (.of_history rfl)
  · apply hnext _ rfl
    · intro other hother
      exact (h other).insert_other hother
    · exact Std.ExtTreeSet.mem_insert_self

theorem lives_erase {f : Unit -> Action α}
    {post : α -> DirectPlay8Peer -> Multiset Proc -> Prop}
    (h : GroupLives s M)
    (hsettled : GroupLivesGuarded s M (.exec p (.eraseGroup groupId)) ->
      s.Settled groupId)
    (hnext : GroupLives ((Command.eraseGroup groupId).apply s) M ->
      livesContract.wp p callers (f ()) post
        ((Command.eraseGroup groupId).apply s) M) :
    livesContract.wp p callers
      (Action.perform (.eraseGroup groupId) >>= f) post s M := by
  intro hcond
  constructor
  · exact lives_agrees_same hcond (fun _ => by simp) (.of_history rfl)
  · apply hnext
    intro other
    apply (h other).erased
    intro hsame
    rw [← hsame]
    exact hsettled hcond

end Rules

/-!
## The procedures
-/

section Procedures

variable {callers : List Proc} {s : DirectPlay8Peer} {M : Multiset Proc}
  {peerId : UInt32} {pd : PacketDeserialiser} {groupId : DPNID}

theorem lives_asserts {p : Proc} :
    livesContract.Agrees p (.log (.assertionFailed .peerNotNull)) M s := by
  have hsame : s.SameTold
      ((Command.log (.assertionFailed .peerNotNull)).apply s) :=
    Command.sameTold (by simp) (by simp) (by simp)
  refine ⟨fun _ => by simp, ?_⟩
  intro r _
  constructor
  · intro _ groupId
    exact hsame.timesDestroyed.ge
  · intro groupId _
    exact ⟨hsame.timesDestroyed, hsame.settled⟩
  · exact fun _ => id

theorem complete_living (addr : Nat) (result : HRESULT) :
    (Action.complete addr result).Uses withoutGroups := by
  unfold Action.complete
  repeat' with_reducible first
    | apply Uses.onlyIf
    | apply Action.uses_bind
    | intro _
    | split
  all_goals simp [Command.LeavesGroups]

theorem createGroupThread_lives {ctx : Context} {completion : Nat}
    (hown : (.createGroupThread groupId ctx completion :: callers :
      Multiset Proc) ≤ M)
    (h : GroupLives s M) :
    livesContract.wp (.createGroupThread groupId ctx completion) callers
      (Action.createGroupThread groupId ctx completion)
      (fun _ => GroupLives) s M := by
  apply Contract.wp_get
  apply lives_created h _ _ hown
  · intro hcond
    exact hcond.1 groupId rfl
  · intro _
    apply Action.uses_bind
    · simp [Command.LeavesGroups]
    · intro _
      exact complete_living _ _

theorem destroyGroup_lives {ctx : Context} {flags : DWORD}
    (hown : (.destroyGroup groupId ctx flags :: callers : Multiset Proc) ≤ M)
    (h : GroupLives s M) :
    livesContract.wp (.destroyGroup groupId ctx flags) callers
      (Action.destroyGroup groupId ctx flags) (fun _ => GroupLives) s
      M := by
  apply Contract.wp_get
  split
  · exact lives_rest (by simp [Command.LeavesGroups]) hown h
  split
  · exact lives_rest (by simp [Command.LeavesGroups]) hown h
  rename_i hthere
  have hunmarked : groupId ∉ s.destroyedGroups := by
    intro hmarked
    exact hthere (Or.inr (by simpa using hmarked))
  obtain ⟨htold, hthreads⟩ := (h groupId).unmarked hunmarked
  apply lives_kept (Action.uses_beginOperation (by intro _ h; cases h)
    fun _ => by intro _ h; cases h) h
  intro completion s₁ h₁ hsame₁
  apply lives_insert h₁
  intro s₂ hs₂ hothers hmarked
  have htold₂ : s₂.timesDestroyed groupId = 0 := by
    rw [hs₂]
    exact hsame₁.timesDestroyed.trans htold
  -- the thread is counted before it is started
  have h₂ : GroupLives s₂
      (.destroyGroupThread groupId completion ::ₘ M) := by
    intro ended
    by_cases hended : groupId = ended
    · subst hended
      have hone : tokens (Proc.endsGroup groupId)
          (.destroyGroupThread groupId completion ::ₘ M) = 1 := by
        rw [tokens_cons_of_true (by simp [Proc.endsGroup]), hthreads]
      constructor
      · exact hone.le
      · intro hunmarked₂
        exact absurd hmarked hunmarked₂
      · intro hcreated
        subst hs₂
        rcases (h₁ groupId).awaited hcreated with hends | ⟨hgroup, huntold, _⟩
        · exact Or.inl hends
        · exact Or.inr ⟨hgroup, huntold, fun _ => hone ▸ Nat.one_pos⟩
    · exact (hothers ended hended).cons (by simpa [Proc.endsGroup] using hended)
  apply lives_kept (Action.uses_notifyConnected (by intro _ h; cases h)
    (fun _ => by intro _ h; cases h) trivial) h₂
  intro _ s₃ h₃ hsame₃ _
  constructor
  · intro s' M' _ h' _ hrely _
    refine ⟨h', ?_⟩
    intro ended hends
    have hended : groupId = ended := by
      simpa [Proc.endsGroup] using hends
    subst hended
    rw [(hrely.own groupId hends).1, hsame₃.timesDestroyed, htold₂]
  · apply lives_rest _ (hown.trans (Multiset.le_cons_self _ _)) h₃
    exact Action.uses_endOperation (by simp [Command.LeavesGroups])
      (by simp [Command.LeavesGroups]) (by simp)

theorem destroyGroupThread_lives {completion : Nat}
    (hown : (.destroyGroupThread groupId completion :: callers :
      Multiset Proc) ≤ M)
    (hpre : livesContract.pre (.destroyGroupThread groupId completion) s M) :
    livesContract.wp (.destroyGroupThread groupId completion) callers
      (Action.destroyGroupThread groupId completion)
      (fun _ s' M' => GroupLives s' M' ∧ s'.Settled groupId) s M := by
  obtain ⟨h, htold⟩ := hpre
  have hself : (Proc.destroyGroupThread groupId completion).endsGroup groupId =
      true := by
    simp [Proc.endsGroup]
  have hmem : Proc.destroyGroupThread groupId completion ∈ M :=
    Multiset.mem_of_le hown (by simp)
  have hcompletes : forall s' M',
      (.destroyGroupThread groupId completion :: callers :
        Multiset Proc) ≤ M' ->
      GroupLives s' M' -> s'.Settled groupId ->
      livesContract.wp (.destroyGroupThread groupId completion) callers
        (Action.complete completion sOk)
        (fun _ s' M' => GroupLives s' M' ∧ s'.Settled groupId) s'
        M' := by
    intro s' M' hown' h' hsettled
    have huses := complete_living completion sOk
    apply Contract.wp_stable huses _ _ (lives_rest huses hown' h')
      hsettled
    · intro s₁ s₂ hrely
      exact (hrely.own groupId hself).2
    · intro command s₁ hcommand
      exact (Command.LeavesGroups.sameTold hcommand).settled
  apply Contract.wp_get
  split
  · rename_i hnone
    apply hcompletes s M hown h
    apply (h groupId).settled_of_missing
    rw [Std.ExtTreeMap.mem_iff_isSome_getElem?, hnone]
    exact Bool.false_ne_true
  · have hothers := tokens_erase_of_true hmem hself
    have hthreads := (h groupId).threads
    have hmarked : groupId ∈ s.destroyedGroups := by
      by_contra hunmarked
      have hnone := ((h groupId).unmarked hunmarked).2
      have hpositive := tokens_pos hmem hself
      omega
    apply lives_ended rfl (fun ended _ => h ended) hthreads hmarked
      (htold groupId hself) (by omega)
    intro _ s₁ M₁ hown₁ h₁ htold₁
    have hsettled := (h₁ groupId).settled_of_told htold₁
    apply lives_erase h₁ fun _ => hsettled
    intro h₂
    exact hcompletes _ M₁ hown₁ h₂ hsettled

theorem groupDestroyAll_lives {reason : DWORD} (h : GroupLives s M) :
    livesContract.wp (.groupDestroyAll reason) callers
      (Action.groupDestroyAll reason)
      (fun _ s' M' => GroupLives s' M' ∧ s'.groups = ∅) s M := by
  apply Contract.wp_get
  split
  · rename_i hempty
    refine ⟨h, ?_⟩
    exact Std.ExtTreeMap.toList_eq_nil_iff.mp (List.head?_eq_none_iff.mp hempty)
  rename_i groupId group _
  have hrest : forall s' M', GroupLives s' M' ->
      (GroupLivesGuarded s' M' (.exec (.groupDestroyAll reason)
        (.eraseGroup groupId)) -> s'.Settled groupId) ->
      livesContract.wp (.groupDestroyAll reason) callers (do
        Action.perform (.eraseGroup groupId)
        Action.invoke (.groupDestroyAll reason))
        (fun _ s' M' => GroupLives s' M' ∧ s'.groups = ∅) s' M' := by
    intro s' M' h' hsettled
    apply lives_erase h' hsettled
    intro h₁ _
    refine ⟨lives_enters h₁ rfl, ?_⟩
    intro s₂ M₂ _ hinv _ hempty
    exact ⟨hinv, hempty rfl⟩
  unfold onlyIf
  split
  · rename_i hunmarked
    have hunmarked' : groupId ∉ s.destroyedGroups := by
      simpa using hunmarked
    obtain ⟨htold, hthreads⟩ := (h groupId).unmarked hunmarked'
    show livesContract.wp (.groupDestroyAll reason) callers
      (Action.perform (.insertDestroyedGroup groupId) >>= fun _ =>
        Action.raise (.destroyGroup groupId group.ctx reason) >>= fun _ => do
          Action.perform (.eraseGroup groupId)
          Action.invoke (.groupDestroyAll reason))
      (fun _ s' M' => GroupLives s' M' ∧ s'.groups = ∅) s M
    apply lives_insert h
    intro s₁ hs₁ hothers hmarked
    subst hs₁
    apply lives_ended rfl hothers (hthreads.le.trans (Nat.zero_le 1)) hmarked htold
    · exact Nat.le_zero.mp
        ((tokens_le (Multiset.erase_le _ _)).trans hthreads.le)
    · intro _ s₂ M₂ _ h₂ htold₂
      apply hrest s₂ M₂ h₂
      intro _
      exact (h₂ groupId).settled_of_told htold₂
  · rename_i hmarked
    have hmarked' : groupId ∈ s.destroyedGroups := by
      simpa using hmarked
    apply hrest s M h
    intro hcond
    exact (h groupId).settled_of_marked hmarked' (hcond.2.1 groupId rfl)

theorem handleGroupDestroy_lives (h : GroupLives s M) :
    livesContract.wp (.handleGroupDestroy peerId pd) callers
      (Action.handleGroupDestroy peerId pd) (fun _ => GroupLives) s
      M := by
  apply wp_assertedPeer trivial lives_asserts
  intro peer _
  apply Contract.wp_get
  apply wp_caught
  · intro groupId _
    split
    · exact h
    split
    · exact h
    rename_i hunmarked
    have hunmarked' : groupId ∉ s.destroyedGroups := by
      simpa using hunmarked
    obtain ⟨htold, hthreads⟩ := (h groupId).unmarked hunmarked'
    apply lives_insert h
    intro s₁ hs₁ hothers hmarked
    subst hs₁
    split
    · rename_i hnone
      intro ended
      by_cases hended : groupId = ended
      · subst hended
        constructor
        · exact hthreads.le.trans (Nat.zero_le 1)
        · intro hunmarked₁
          exact absurd hmarked hunmarked₁
        · intro hcreated
          left
          apply (h groupId).settled_of_missing _ hcreated
          rw [Std.ExtTreeMap.mem_iff_isSome_getElem?, hnone]
          exact Bool.false_ne_true
      · exact hothers ended hended
    · apply lives_ended rfl hothers (hthreads.le.trans (Nat.zero_le 1)) hmarked
        htold
      · exact Nat.le_zero.mp
          ((tokens_le (Multiset.erase_le _ _)).trans hthreads.le)
      · intro _ s₂ M₂ _ h₂ htold₂
        apply lives_erase h₂ fun _ => (h₂ groupId).settled_of_told htold₂
        intro h₃
        exact h₃
  · intro _ _
    exact h

theorem lives_emplace {p : Proc} {name : WString} {data : List UInt8}
    {ctx owner : Context} {f : Answer -> Action Unit} (h : GroupLives s M)
    (hunmarked : ¬ s.destroyedGroups.contains groupId = true)
    (huses : forall answer, (f answer).Uses withoutGroups)
    (hown : (p :: callers : Multiset Proc) ≤ M) :
    livesContract.wp p callers (do
      Action.perform (.emplaceGroup groupId name data ctx)
      let answer ← Action.raise (.createGroup groupId ctx owner)
      f answer) (fun _ => GroupLives) s M := by
  have hleaves : (Command.emplaceGroup groupId name data ctx).LeavesGroups := by
    intro notice hnotice
    cases hnotice
    rfl
  intro hcond
  constructor
  · exact lives_agrees_same hcond (fun _ => by simp) (.of_history rfl)
  · refine lives_created (fun other => (h other).leaves hleaves) ?_ huses hown
    intro _
    constructor
    · exact Std.ExtTreeMap.mem_insertIfNew.mpr (Or.inl (by simp))
    · show groupId ∉ s.destroyedGroups
      simpa using hunmarked

theorem handleGroupCreate_lives
    (hown : (.handleGroupCreate peerId pd :: callers : Multiset Proc) ≤ M)
    (h : GroupLives s M) :
    livesContract.wp (.handleGroupCreate peerId pd) callers
      (Action.handleGroupCreate peerId pd) (fun _ => GroupLives) s
      M := by
  apply wp_assertedPeer trivial lives_asserts
  intro peer _
  apply Contract.wp_get
  apply wp_caught
  · rintro ⟨groupId, name, data⟩ _
    dsimp only
    split
    · exact h
    split
    · exact h
    split
    · exact h
    rename_i hunmarked
    apply lives_emplace h hunmarked _ hown
    intro _
    simp [Command.LeavesGroups]
  · intro _ _
    exact h

theorem handleGroupJoin_lives
    (hown : (.handleGroupJoin peerId pd :: callers : Multiset Proc) ≤ M)
    (h : GroupLives s M) :
    livesContract.wp (.handleGroupJoin peerId pd) callers
      (Action.handleGroupJoin peerId pd) (fun _ => GroupLives) s M := by
  apply wp_assertedPeer trivial lives_asserts
  intro peer _
  apply Contract.wp_get
  apply wp_caught
  · rintro ⟨groupId, ackId, name, data⟩ _
    dsimp only
    split
    · exact h
    split
    · exact lives_rest (by simp [Action.sendAck, Command.LeavesGroups]) hown h
    rename_i hunmarked
    split
    · apply lives_emplace h hunmarked _ hown
      unfold Action.sendAck
      repeat' with_reducible first
        | apply Action.uses_peerAt
        | apply Action.uses_bind
        | intro _
        | split
      all_goals simp [Command.LeavesGroups]
    · apply lives_rest _ hown h
      unfold Action.sendAck
      repeat' with_reducible first
        | apply Action.uses_sendToConnected
        | apply Action.uses_bind
        | intro _
        | split
      all_goals simp [Command.LeavesGroups]
  · intro _ _
    exact h

theorem handleGroupJoined_lives
    (hown : (.handleGroupJoined peerId pd :: callers : Multiset Proc) ≤ M)
    (h : GroupLives s M) :
    livesContract.wp (.handleGroupJoined peerId pd) callers
      (Action.handleGroupJoined peerId pd) (fun _ => GroupLives) s
      M := by
  apply wp_assertedPeer trivial lives_asserts
  intro peer _
  apply Contract.wp_get
  apply wp_caught
  · rintro ⟨groupId, name, data⟩ _
    dsimp only
    split
    · exact h
    split
    · exact h
    rename_i hunmarked
    split
    · apply lives_emplace h hunmarked _ hown
      repeat' with_reducible first
        | apply Action.uses_bind
        | intro _
        | split
      all_goals simp [Command.LeavesGroups]
    · apply lives_rest _ hown h
      repeat' with_reducible first
        | apply Action.uses_bind
        | intro _
        | split
      all_goals simp [Command.LeavesGroups]
  · intro _ _
    exact h

theorem Proc.tellsEnds_of_endsGroup {p : Proc} (h : p.endsGroup groupId = true) :
    p.tellsEnds = true := by
  cases p <;> first
    | rfl
    | cases h

theorem lives_anew (hsession : s.session = []) (hnobody : tokens Proc.tellsEnds M = 0) :
    GroupLives s M := by
  intro groupId
  have hthreads : tokens (Proc.endsGroup groupId) M = 0 := by
    rw [tokens_eq_zero]
    intro p hp
    by_contra hends
    have htells := Proc.tellsEnds_of_endsGroup (Bool.eq_true_of_not_eq_false hends)
    rw [tokens_eq_zero.mp hnobody p hp] at htells
    cases htells
  constructor
  · rw [hthreads]
    exact Nat.zero_le 1
  · intro _
    refine ⟨?_, hthreads⟩
    rw [DirectPlay8Peer.timesDestroyed, hsession, List.countP_nil]
  · rintro ⟨event, hevent, _⟩
    rw [hsession] at hevent
    cases hevent

theorem closing_last {flags : DWORD} {wasHosting wasConnected : Bool}
    (h : GroupLives s M) (hempty : s.groups = ∅) :
    livesContract.wp (.closing flags wasHosting wasConnected) callers (do
      Action.waitUntil fun s =>
        s.asyncHostEnums.isEmpty && s.syncHostEnums == 0
      let _ ← unlocked .deleteWorkerPool fun s => s.activeWorkers == 0
      Action.perform (.setWorkerPool false)
      Action.perform .clearDestroyedGroups
      Action.perform (.setState .new)
      Action.returns .close sOk) (fun _ => GroupLives) s M := by
  refine ⟨⟨h, trivial⟩, ?_⟩
  intro s₁ M₁ _ _ h₁ _ hrely₁ _ _ _
  have hempty₁ := (hrely₁ _ List.mem_cons_self).emptied rfl hempty
  refine ⟨⟨h₁, trivial⟩, ?_⟩
  intro s₂ M₂ _ _ h₂ _ hrely₂ _ _ hcond₂
  have hempty₂ := (hrely₂ _ List.mem_cons_self).emptied rfl hempty₁
  have hsettled : forall groupId, s₂.Settled groupId := by
    intro groupId
    apply (h₂ groupId).settled_of_missing
    rw [hempty₂]
    exact Std.ExtTreeMap.not_mem_empty
  have hcleared : s₂.SameTold (Command.clearDestroyedGroups.apply
      ((Command.setWorkerPool false).apply s₂)) := .of_history rfl
  have hnew : (Command.clearDestroyedGroups.apply
      ((Command.setWorkerPool false).apply s₂)).SameTold
      ((Command.setState .new).apply (Command.clearDestroyedGroups.apply
        ((Command.setWorkerPool false).apply s₂))) :=
    Command.sameTold (by simp) (by simp) (by simp)
  intro hcond₃
  refine ⟨lives_agrees_same hcond₃ (fun _ => by simp) (.of_history rfl), ?_⟩
  intro hcond₄
  refine ⟨lives_agrees_same hcond₄ (fun _ => by simp) (.of_history rfl), ?_⟩
  intro hcond₅
  refine ⟨lives_agrees_same hcond₅ (fun _ => by simp) hnew, ?_⟩
  intro hcond₆
  have hnobody := hcond₆.2.2.2 rfl
  constructor
  · apply lives_agrees hcond₆
    · intro _ _ groupId
      exact (hcleared.trans hnew).settled (hsettled groupId)
    · intro r hr htells
      exact absurd htells
        (tokens_eq_zero.mp hnobody r (Multiset.mem_of_mem_erase hr) ▸ Bool.false_ne_true)
    · intro r hr groupId hends
      exact absurd (Proc.tellsEnds_of_endsGroup hends)
        (tokens_eq_zero.mp hnobody r (Multiset.mem_of_mem_erase hr) ▸ Bool.false_ne_true)
  · exact lives_anew Command.session_closed hnobody

theorem closing_lives {flags : DWORD} {wasHosting wasConnected : Bool}
    (hown : (.closing flags wasHosting wasConnected :: callers :
      Multiset Proc) ≤ M)
    (h : GroupLives s M) :
    livesContract.wp (.closing flags wasHosting wasConnected) callers
      (Action.closing flags wasHosting wasConnected)
      (fun _ => GroupLives) s M := by
  have hlocal : (Action.dispatchDestroyLocalPlayer
      destroyPlayerReasonNormal).Uses
        withoutGroups :=
    Action.uses_dispatchDestroyLocalPlayer (by simp)
  unfold Action.closing
  rw [bind_eq, Contract.wp_bind]
  refine Contract.wp_mono (lives_part (Uses.onlyIf fun _ => hlocal) hown h) ?_
  intro _ s₁ M₁ h₁
  rw [bind_eq, Contract.wp_bind]
  refine Contract.wp_mono (lives_part (Action.uses_closePeers trivial (by simp)
    (by simp)) h₁.1 h₁.2) ?_
  intro _ s₂ M₂ h₂
  rw [bind_eq, Contract.wp_bind]
  refine Contract.wp_mono (lives_part (Uses.onlyIf fun _ => hlocal) h₂.1
    h₂.2) ?_
  intro _ s₃ M₃ h₃ hcond
  refine ⟨lives_enters h₃.2 rfl, ?_⟩
  intro s₄ M₄ _ h₄ _ hempty
  exact closing_last h₄ (hempty rfl)

theorem body_lives {p : Proc} (hown : (p :: callers : Multiset Proc) ≤ M)
    (hpre : livesContract.pre p s M) :
    livesContract.wp p callers p.body (fun _ s' M' =>
      livesContract.inv s' (M'.erase p) ∧
        (p.isGroupDestroyAll = true -> s'.groups = ∅)) s M := by
  have hends : forall {q : Proc}, q.isDestroyThread = false ->
      q.isGroupDestroyAll = false ->
      livesContract.wp q callers q.body (fun _ => GroupLives) s M ->
      livesContract.wp q callers q.body (fun _ s' M' =>
        livesContract.inv s' (M'.erase q) ∧
          (q.isGroupDestroyAll = true -> s'.groups = ∅)) s M := by
    intro q hthread hall hwp
    apply Contract.wp_mono hwp
    intro _ s' M' h'
    constructor
    · intro groupId
      exact (h' groupId).erase (q.endsGroup_of_not_thread hthread groupId)
    · intro htrue
      rw [hall] at htrue
      cases htrue
  cases p with
  | groupDestroyAll reason =>
      apply Contract.wp_mono (groupDestroyAll_lives hpre.1)
      intro _ s' M' h'
      constructor
      · intro groupId
        exact (h'.1 groupId).erase rfl
      · exact fun _ => h'.2
  | destroyGroupThread groupId completion =>
      apply Contract.wp_mono (destroyGroupThread_lives hown hpre)
      intro _ s' M' h'
      constructor
      · intro ended
        by_cases hended : groupId = ended
        · subst hended
          exact (h'.1 groupId).erase_settled h'.2
        · exact (h'.1 ended).erase (by simpa [Proc.endsGroup] using hended)
      · simp
  | destroyGroup => exact hends rfl rfl (destroyGroup_lives hown hpre.1)
  | createGroupThread =>
      exact hends rfl rfl (createGroupThread_lives hown hpre.1)
  | handleGroupDestroy =>
      exact hends rfl rfl (handleGroupDestroy_lives hpre.1)
  | handleGroupCreate =>
      exact hends rfl rfl (handleGroupCreate_lives hown hpre.1)
  | handleGroupJoin => exact hends rfl rfl (handleGroupJoin_lives hown hpre.1)
  | handleGroupJoined =>
      exact hends rfl rfl (handleGroupJoined_lives hown hpre.1)
  | closing => exact hends rfl rfl (closing_lives hown hpre.1)
  | _ =>
      refine hends rfl rfl (lives_rest (living_of_notices ?_ rfl) hown hpre.1)
      simp [Notice.endsGroups]

end Procedures

theorem livesContract_valid :
    livesContract.Valid DirectPlay8Peer.Constructed where
  initial := by
    intro s hs
    refine ⟨lives_anew ?_ tokens_zero, trivial⟩
    rw [DirectPlay8Peer.session, hs.history, List.takeWhile_nil]
  start := by
    intro p s M hentry h _ _
    apply lives_enters h
    cases p <;> first
      | rfl
      | cases hentry
  body := by
    intro p callers s M hown hpre
    apply Contract.wp_mono (body_lives hown hpre)
    intro _ s' M' h'
    exact ⟨⟨h'.1, h'.2⟩, fun _ _ => trivial⟩

/-!
## Sessions
-/

theorem isClosing_of_notices {p : Proc} (h : Notice.closed ∈ p.notices) :
    p.isClosing = true := by
  cases p <;> first
    | rfl
    | simp at h

/--
In every session whose threads tell of no group too late, and which nobody who is
to erase a group outlives, every group that the application was told of has ended
when `Close` returns: it was told of the end once, and of the making only before.
-/
theorem groups_settled {c c' : Run} {p : Proc} {groupId : DPNID}
    (hc : Reaches machine DirectPlay8Peer.Constructed GroupLivesGuarded c)
    (hstep : Step machine c (.exec p (.log (.returned .close sOk))) c')
    (hcond : GroupLivesGuarded c.state c.activations
      (.exec p (.log (.returned .close sOk))))
    (hcreated : c.state.Created groupId) : c.state.Ended groupId := by
  have hclosing : p.isClosing = true :=
    isClosing_of_notices (hc.exec_uses Proc.body_keepsNotices hstep .closed (by simp))
  obtain ⟨hsettled, _⟩ := livesContract_valid.exec hc hstep hcond
  exact hsettled hclosing rfl groupId hcreated

instance {s : DirectPlay8Peer} {groupId : DPNID} :
    Decidable (s.Created groupId) :=
  inferInstanceAs (Decidable (exists event, event ∈ s.session ∧
    event.createdGroup = some groupId))

/-- The host closes the second session that it has a group in. -/
theorem groups_settled_again :
    exists (c c' : Run) (p : Proc),
      Reaches machine DirectPlay8Peer.Constructed GroupLivesGuarded c ∧
        Step machine c (.exec p (.log (.returned .close sOk))) c' ∧
        .returned .close sOk ∈ c.state.history ∧
        c.state.Created 2 ∧ c.state.Ended 2 := by
  have hrun : (replayTo GroupLivesGuarded StepLabel.closed (choicesDestroyGroup ++
      List.replicate 3 (.resume 0 {}) ++ choicesGroupAgain 0 ++
      List.replicate 3 (.resume 0 {}) ++
      .start (.close 0) :: List.replicate 3 (.resume 0 {})) (.resume 0 {})).any
      (fun q => decide (.returned .close sOk ∈ q.1.state.history ∧
        q.1.state.Created 2 ∧ tokens Proc.tellsEnds q.1.activations = 0)) = true := by
    decide +kernel
  rcases replayTo_step hrun with ⟨c, c', label, hc, hwanted, hstep, htest⟩
  obtain ⟨p, rfl⟩ := StepLabel.closed_iff hwanted
  obtain ⟨hclosed, hcreated, hnobody⟩ := of_decide_eq_true htest
  have hcond : GroupLivesGuarded c.state c.activations
      (.exec p (.log (.returned .close sOk))) := by
    refine ⟨?_, ?_, ?_, fun _ => hnobody⟩
    · simp [StepLabel.toldByThread]
    · simp [StepLabel.erasedByAll]
    · simp [StepLabel.emplacesGroup]
  exact ⟨c, c', p, hc, hstep, hclosed, hcreated,
    groups_settled hc hstep hcond hcreated⟩

/-- `DestroyGroup` is called, and `Close` comes before its thread. -/
theorem groups_not_settled :
    ¬ forall (c c' : Run) (p : Proc) (groupId : DPNID),
      Reaches machine DirectPlay8Peer.Constructed Unrestricted c ->
      Step machine c (.exec p (.log (.returned .close sOk))) c' ->
      c.state.Created groupId -> c.state.Ended groupId := by
  intro hclaim
  have hrun : (replayTo Unrestricted StepLabel.closed (choicesDestroyGroup ++
      [.start (.close 0), .resume 1 {}, .resume 1 {}, .resume 1 {}])
      (.resume 1 {})).any
      (fun q => decide (q.1.state.Created 2 ∧
        q.1.state.timesDestroyed 2 = 0)) = true := by
    decide +kernel
  rcases replayTo_step hrun with ⟨c, c', label, hc, hwanted, hstep, htest⟩
  obtain ⟨p, rfl⟩ := StepLabel.closed_iff hwanted
  obtain ⟨hcreated, huntold⟩ := of_decide_eq_true htest
  exact (hclaim c c' p 2 hc hstep hcreated).told huntold

end DirectPlayLite
