import DirectPlayLite.Peer.Terminating

/-!
# Destroying a player

`dispatch_destroy_player` takes the player out of its groups, one after another, and
tells the application each time.  It looks at the groups anew after every message,
and only tells the application that the player is gone once it has found no group
that has the player in it.
-/

namespace DirectPlayLite

open Monitor Program

def DirectPlay8Peer.InGroup (s : DirectPlay8Peer) (groupId player : DPNID) : Prop :=
  exists group, s.groups[groupId]? = some group ∧ player ∈ group.playerIds

/-- Surroundings that call nothing of their own and put the player into no group. -/
def Around.KeepsOut (E : Around) (player : DPNID) : Prop :=
  (forall q, ¬ E.foreign q) ∧
    forall s s' groupId, E.others s s' ->
      s'.InGroup groupId player -> s.InGroup groupId player

/-!
## What the thread does about the player
-/

/-- The message a step hands to the message handler. -/
def Deed.notification (deed : Deed) : Option Notification :=
  match deed.2 with
  | .exec _ (.log (.raised notification)) => some notification
  | _ => none

def Deed.found (player : DPNID) (deed : Deed) : Option (DPNID × Group) :=
  match deed.2 with
  | .exec _ (.group groupId (.erasePlayer erased)) =>
      ((deed.1.groups[groupId]?).filter fun group =>
        erased = player ∧ player ∈ group.playerIds).map fun group => (groupId, group)
  | _ => none

/-- The messages the thread has handed to the message handler, earliest first. -/
def Deeds.notifications (past : Deeds) : List Notification :=
  past.reverse.filterMap Deed.notification

def Deeds.found (player : DPNID) (past : Deeds) : List (DPNID × Group) :=
  past.reverse.filterMap (Deed.found player)

/-- The step leaves the members of every group as they are, but for the player. -/
def Deed.SparesOthers (player : DPNID) (deed : Deed) : Prop :=
  forall p command, deed.2 = .exec p command ->
    forall groupId other, other ≠ player ->
      ((command.apply deed.1).InGroup groupId other ↔ deed.1.InGroup groupId other)

structure DestroyedWell (E : Around) (s : DirectPlay8Peer) (player : DPNID)
    (ctx : Context) (reason : DWORD) (past : Deeds) : Prop where
  /-- A message for each group the player was found in, and then the last one. -/
  notified : past.notifications =
    (past.found player).map (fun (groupId, group) =>
      .removePlayerFromGroup groupId group.ctx player ctx) ++
        [.destroyPlayer player ctx reason]
  /-- The player is found once in each group. -/
  once : ((past.found player).map Prod.fst).Nodup
  /-- It is found in every group that only the thread itself takes it out of. -/
  all : forall groupId, s.InGroup groupId player ->
    (forall s s', E.others s s' -> s.InGroup groupId player ->
      s'.InGroup groupId player) ->
    groupId ∈ (past.found player).map Prod.fst
  /-- When the last message is handed over, the player is in no group. -/
  gone : forall deed : Deed, deed ∈ past ->
    deed.notification = some (.destroyPlayer player ctx reason) ->
    forall groupId, ¬ deed.1.InGroup groupId player
  others : forall deed : Deed, deed ∈ past -> deed.SparesOthers player

/-!
## Membership
-/

section Membership

variable {s : DirectPlay8Peer} {groupId other : DPNID} {player member : DPNID}

theorem inGroup_log {event : Event} :
    ((Command.log event).apply s).InGroup groupId player ↔
      s.InGroup groupId player := Iff.rfl

theorem inGroup_erased :
    ((Command.group other (.erasePlayer player)).apply s).InGroup groupId member ↔
      s.InGroup groupId member ∧ ¬ (other = groupId ∧ player = member) := by
  unfold DirectPlay8Peer.InGroup
  simp only [Command.apply]
  rw [Std.ExtTreeMap.getElem?_modify]
  by_cases hsame : other = groupId
  · subst hsame
    cases hgroup : s.groups[other]? with
    | none => simp
    | some group =>
        simp [GroupCommand.apply, Std.ExtTreeSet.mem_erase, and_comm]
  · simp [hsame]

theorem firstGroupOf_none (h : Action.firstGroupOf s player = none) :
    ¬ s.InGroup groupId player := by
  intro hin
  rcases hin with ⟨group, hgroup, hplayer⟩
  have hnot := List.find?_eq_none.mp h (groupId, group)
    (Std.ExtTreeMap.mem_toList_iff_getElem?_eq_some.mpr hgroup)
  exact hnot hplayer

theorem memberIn_iff {groups : List DPNID} :
    MemberIn player groups s ↔
      forall groupId, s.InGroup groupId player -> groupId ∈ groups := by
  constructor
  · intro h groupId hin
    rcases hin with ⟨group, hgroup, hplayer⟩
    exact h groupId group hgroup hplayer
  · intro h groupId group hgroup hplayer
    exact h groupId ⟨group, hgroup, hplayer⟩

end Membership

/-!
## One round of the loop
-/

section Rounds

variable {E : Around} {s₀ s s' : DirectPlay8Peer} {player : DPNID} {ctx : Context}
  {reason : DWORD} {past : Deeds} {deed : Deed} {p : Proc}

theorem notifications_cons :
    Deeds.notifications (deed :: past) =
      past.notifications ++ (Deed.notification deed).toList := by
  unfold Deeds.notifications
  rw [List.reverse_cons, List.filterMap_append]
  cases h : Deed.notification deed <;> simp [h]

theorem found_cons :
    Deeds.found player (deed :: past) =
      past.found player ++ (Deed.found player deed).toList := by
  unfold Deeds.found
  rw [List.reverse_cons, List.filterMap_append]
  cases h : Deed.found player deed <;> simp [h]

structure Leaving (E : Around) (s₀ : DirectPlay8Peer) (player : DPNID) (ctx : Context)
    (s : DirectPlay8Peer) (past : Deeds) : Prop where
  notified : past.notifications =
    (past.found player).map fun (groupId, group) =>
      .removePlayerFromGroup groupId group.ctx player ctx
  once : ((past.found player).map Prod.fst).Nodup
  left : forall groupId, groupId ∈ (past.found player).map Prod.fst ->
    ¬ s.InGroup groupId player
  all : forall groupId, s₀.InGroup groupId player ->
    (forall s s', E.others s s' -> s.InGroup groupId player ->
      s'.InGroup groupId player) ->
    groupId ∈ (past.found player).map Prod.fst ∨ s.InGroup groupId player
  others : forall deed : Deed, deed ∈ past -> deed.SparesOthers player

theorem leaving_nil : Leaving E s player ctx s [] where
  notified := rfl
  once := List.nodup_nil
  left := fun _ hmem => absurd hmem List.not_mem_nil
  all := fun _ hin _ => Or.inr hin
  others := fun _ hmem => absurd hmem List.not_mem_nil

theorem sparesOthers_of_not_exec (h : forall p command, deed.2 ≠ .exec p command) :
    deed.SparesOthers player :=
  fun p command hexec => absurd hexec (h p command)

theorem sparesOthers_log {event : Event} :
    Deed.SparesOthers player (s, .exec p (.log event)) := by
  intro q command hexec groupId other _
  cases hexec
  exact inGroup_log

theorem sparesOthers_erase {groupId : DPNID} :
    Deed.SparesOthers player (s, .exec p (.group groupId (.erasePlayer player))) := by
  intro q command hexec other member hmember
  cases hexec
  rw [inGroup_erased]
  constructor
  · intro h
    exact h.1
  · intro h
    exact ⟨h, fun hsame => hmember hsame.2.symm⟩

theorem Leaving.cons (h : Leaving E s₀ player ctx s past)
    (hsilent : deed.notification = none) (hfound : Deed.found player deed = none)
    (hothers : deed.SparesOthers player) :
    Leaving E s₀ player ctx s (deed :: past) := by
  have hsame : Deeds.found player (deed :: past) = past.found player := by
    rw [found_cons, hfound]
    exact List.append_nil _
  constructor
  · rw [hsame, notifications_cons, hsilent]
    exact (List.append_nil _).trans h.notified
  · rw [hsame]
    exact h.once
  · rw [hsame]
    exact h.left
  · rw [hsame]
    exact h.all
  · intro other hother
    rcases List.mem_cons.mp hother with rfl | hbefore
    · exact hothers
    · exact h.others other hbefore

theorem Leaving.round (h : Leaving E s₀ player ctx s past) (hE : E.KeepsOut player)
    {groupId : DPNID} {group : Group} {a : Answer}
    (hgroup : s.groups[groupId]? = some group) (hplayer : player ∈ group.playerIds)
    (hothers : E.others
      ((Command.log (.raised (.removePlayerFromGroup groupId group.ctx player ctx))).apply
        ((Command.group groupId (.erasePlayer player)).apply s)) s') :
    Leaving E s₀ player ctx s'
      ((s', .resume p (.messageHandler
          (.removePlayerFromGroup groupId group.ctx player ctx)) a) ::
        ((Command.group groupId (.erasePlayer player)).apply s,
          .exec p (.log (.raised
            (.removePlayerFromGroup groupId group.ctx player ctx)))) ::
        (s, .exec p (.group groupId (.erasePlayer player))) :: past) := by
  have hin : s.InGroup groupId player := ⟨group, hgroup, hplayer⟩
  have hfound : Deed.found player (s, .exec p (.group groupId (.erasePlayer player))) =
      some (groupId, group) := by
    simp [Deed.found, hgroup, hplayer]
  -- what the player is in afterwards, it was in before, and it is not this group
  have hafter : forall other, s'.InGroup other player ->
      s.InGroup other player ∧ groupId ≠ other := by
    intro other hin'
    have hlogged := hE.2 _ _ other hothers hin'
    rw [inGroup_log, inGroup_erased] at hlogged
    exact ⟨hlogged.1, fun hsame => hlogged.2 ⟨hsame, rfl⟩⟩
  have hall : Deeds.found player
      ((s', .resume p (.messageHandler
          (.removePlayerFromGroup groupId group.ctx player ctx)) a) ::
        ((Command.group groupId (.erasePlayer player)).apply s,
          .exec p (.log (.raised
            (.removePlayerFromGroup groupId group.ctx player ctx)))) ::
        (s, .exec p (.group groupId (.erasePlayer player))) :: past) =
      past.found player ++ [(groupId, group)] := by
    rw [found_cons, found_cons, found_cons, hfound]
    exact (List.append_nil _).trans (List.append_nil _)
  constructor
  · rw [hall, notifications_cons, notifications_cons, notifications_cons, h.notified,
      List.map_append]
    simp [Deed.notification]
  · rw [hall, List.map_append, List.nodup_append]
    refine ⟨h.once, List.nodup_singleton _, ?_⟩
    intro told htold other hother hsame
    have hgroupId : other = groupId := List.mem_singleton.mp hother
    subst hsame
    subst hgroupId
    exact h.left told htold hin
  · rw [hall, List.map_append]
    intro other hother hin'
    rcases List.mem_append.mp hother with htold | hnew
    · exact h.left other htold (hafter other hin').1
    · exact (hafter other hin').2 (List.mem_singleton.mp hnew).symm
  · rw [hall, List.map_append]
    intro other hin₀ hkept
    by_cases hsame : groupId = other
    · exact Or.inl (List.mem_append_right _ (List.mem_singleton.mpr hsame.symm))
    · rcases h.all other hin₀ hkept with htold | hstill
      · exact Or.inl (List.mem_append_left _ htold)
      · apply Or.inr
        apply hkept _ _ hothers
        rw [inGroup_log, inGroup_erased]
        exact ⟨hstill, fun hboth => hsame hboth.1⟩
  · intro other hother
    rcases List.mem_cons.mp hother with rfl | hother
    · exact sparesOthers_of_not_exec (by simp)
    · rcases List.mem_cons.mp hother with rfl | hother
      · exact sparesOthers_log
      · rcases List.mem_cons.mp hother with rfl | hother
        · exact sparesOthers_erase
        · exact h.others other hother

theorem Leaving.destroyed (h : Leaving E s₀ player ctx s past) {answer : Answer}
    (hout : forall groupId, ¬ s.InGroup groupId player) :
    DestroyedWell E s₀ player ctx reason
      ((s', .resume p (.messageHandler (.destroyPlayer player ctx reason)) answer) ::
        (s, .exec p (.log (.raised (.destroyPlayer player ctx reason)))) :: past) := by
  have hsame : Deeds.found player
      ((s', .resume p (.messageHandler (.destroyPlayer player ctx reason)) answer) ::
        (s, .exec p (.log (.raised (.destroyPlayer player ctx reason)))) :: past) =
      past.found player := by
    rw [found_cons, found_cons]
    exact (List.append_nil _).trans (List.append_nil _)
  constructor
  · rw [hsame, notifications_cons, notifications_cons, h.notified]
    exact List.append_nil _
  · rw [hsame]
    exact h.once
  · rw [hsame]
    intro groupId hin hkept
    exact (h.all groupId hin hkept).resolve_right (hout groupId)
  · intro deed hdeed hlast groupId
    rcases List.mem_cons.mp hdeed with rfl | hdeed
    · cases hlast
    · rcases List.mem_cons.mp hdeed with rfl | hdeed
      · exact hout groupId
      · -- no message before that one was about a destroyed player
        have hmem : (.destroyPlayer player ctx reason) ∈ past.notifications :=
          List.mem_filterMap.mpr ⟨deed, List.mem_reverse.mpr hdeed, hlast⟩
        rw [h.notified] at hmem
        rcases List.mem_map.mp hmem with ⟨_, _, hother⟩
        cases hother
  · intro deed hdeed
    rcases List.mem_cons.mp hdeed with rfl | hdeed
    · exact sparesOthers_of_not_exec (by simp)
    · rcases List.mem_cons.mp hdeed with rfl | hdeed
      · exact sparesOthers_log
      · exact h.others deed hdeed

/-!
## The whole loop
-/

theorem dispatchDestroyPlayer_leads (hE : E.KeepsOut player) {groups : List DPNID}
    (hgroups : MemberIn player groups s) (h : Leaving E s₀ player ctx s past) :
    leads machine E (.dispatchDestroyPlayer player ctx reason)
      (Action.dispatchDestroyPlayer player ctx reason)
      (fun _ _ past' => DestroyedWell E s₀ player ctx reason past') s past := by
  induction hcount : groups.length using Nat.strong_induction_on
    generalizing groups s past with
  | _ count ih =>
      rw [Action.dispatchDestroyPlayer, leads_get]
      cases hfirst : Action.firstGroupOf s player with
      | none =>
          dsimp only
          rw [leads_raise]
          intro s' answer _
          exact h.destroyed fun groupId => firstGroupOf_none hfirst
      | some found =>
          rcases found with ⟨groupId, group⟩
          rcases firstGroupOf_some hfirst with ⟨hgroup, hplayer⟩
          have hless : (groups.erase groupId).length < count := by
            rw [← hcount]
            exact length_erase_lt (hgroups groupId group hgroup hplayer)
          dsimp only
          rw [leads_perform, leads_raise]
          intro s' answer hothers
          have hround := h.round (p := .dispatchDestroyPlayer player ctx reason)
            (a := answer) hE hgroup hplayer hothers
          have hleft : MemberIn player (groups.erase groupId) s' := by
            rw [memberIn_iff]
            intro other hin
            have hbefore := inGroup_log.mp (hE.2 _ _ other hothers hin)
            exact memberIn_iff.mp (hgroups.left groupId) other hbefore
          show leads machine E _ (.call (.dispatchDestroyPlayer player ctx reason)
            (.ret ())) _ _ _
          rw [leads_call (hE.1 _)]
          exact ih _ hless hleft
            (hround.cons rfl rfl (sparesOthers_of_not_exec (by simp))) rfl

end Rounds

/--
`dispatch_destroy_player` returns, whatever groups there are and whatever the others
do to them while callbacks run, as long as they do not put the player back.  It has
then raised one message for each group it found the player in, has left the other
members alone, and has raised the last message with the player in no group.
-/
theorem destroyPlayer_well (E : Around) (s : DirectPlay8Peer) (player : DPNID)
    (ctx : Context) (reason : DWORD) (hE : E.KeepsOut player) :
    (Proc.dispatchDestroyPlayer player ctx reason).EndsIn E s fun _ past =>
      DestroyedWell E s player ctx reason past := by
  rw [Proc.endsIn_iff]
  exact dispatchDestroyPlayer_leads hE (memberIn_keys player s) leaving_nil

/-- Surroundings that do anything but put the player into a group. -/
def Around.keepingOut (player : DPNID) : Around :=
  Around.ofOthers
    (fun s s' => forall groupId, s'.InGroup groupId player -> s.InGroup groupId player)
    fun _ _ hin => hin

/-- A client that is in a group of its host is destroyed. -/
theorem destroyPlayer_well_member :
    exists c : Run, Reaches machine DirectPlay8Peer.Constructed GroupsGuarded c ∧
      (exists groupId, c.state.InGroup groupId 2) ∧
      (Proc.dispatchDestroyPlayer 2 contextNull destroyPlayerReasonNormal).EndsIn
        (Around.keepingOut 2) c.state fun _ past =>
          DestroyedWell (Around.keepingOut 2) c.state 2 contextNull
            destroyPlayerReasonNormal past := by
  have hrun : (replay GroupsGuarded choicesMember).any
      (fun c => decide (c.state.IsMember 2)) = true := by
    decide +kernel
  rcases replay_reaches hrun with ⟨c, hc, htest⟩
  rcases DirectPlay8Peer.isMember_iff.mp (of_decide_eq_true htest) with
    ⟨groupId, group, hgroup, hmem⟩
  refine ⟨c, hc, ⟨groupId, group, hgroup, hmem⟩, ?_⟩
  apply destroyPlayer_well
  constructor
  · intro q hforeign
    exact hforeign
  · intro s s' other hothers
    exact hothers other

end DirectPlayLite
