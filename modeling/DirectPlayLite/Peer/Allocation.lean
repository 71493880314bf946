import DirectPlayLite.Lib.Monitor.Observers
import DirectPlayLite.Peer.Endings

/-!
# The IDs of players and groups

A host counts the IDs of its players and groups with one counter.  Whoever takes an ID
gives it away before anybody else can take one.
-/

namespace DirectPlayLite

open Monitor Program

/-!
## What is given
-/

/-- The ID in the answer to a request for one: the last field of the ack. -/
def grantedId (packet : List UInt8) : DPNID :=
  LittleEndian.word32 (packet.drop (packet.length - 4))

/-- The ID a step gives to a player: the host itself, or whoever is let in. -/
@[simp] def playerGiven : StepLabel -> Option DPNID
  | .exec (.host _) (.local (.setPlayerId playerId)) => some playerId
  | .exec (.handleHostConnectRequest ..) (.mapPlayer playerId _) => some playerId
  | _ => none

/-- The ID a step gives to a group: of the host, or of whoever has asked for one. -/
@[simp] def groupGiven : StepLabel -> Option DPNID
  | .exec (.createGroup ..) (.emplaceGroup groupId ..) => some groupId
  | .exec (.handleGroupAllocate ..) (.peer _ (.send _ packet _ _)) =>
      some (grantedId packet)
  | _ => none

@[simp] def idGiven (label : StepLabel) : Option DPNID :=
  match playerGiven label with
  | some playerId => some playerId
  | none => groupGiven label

/-- What has been given since the session began, latest first. -/
def sinceHost (given : StepLabel -> Option DPNID) : Deeds -> List DPNID
  | [] => []
  | (_, .exec _ (.setNextPlayerId _)) :: _ => []
  | (_, label) :: past => (given label).toList ++ sinceHost given past

/-- The number of IDs that have been allocated since the session began. -/
def allocations : Deeds -> Nat
  | [] => 0
  | (_, .exec _ (.setNextPlayerId _)) :: _ => 0
  | (_, .exec _ .allocPlayerId) :: past => allocations past + 1
  | _ :: past => allocations past

def Hosts (past : Deeds) : Prop :=
  exists s p, (s, .exec p (.setNextPlayerId 1)) ∈ past

/-!
## Taking and giving
-/

def idObserver : Observer DirectPlay8Peer Command Proc (Option DPNID) where
  start := none
  observe := fun p command s taken =>
    match command with
    | .setNextPlayerId playerId =>
        if taken = none ∧ playerId = 1 then some none else none
    | .allocPlayerId => if taken = none then some (some s.nextPlayerId) else none
    | _ =>
        match idGiven (.exec p command) with
        | none => some taken
        | some given => if taken = some given then some none else none
  hand := fun _ _ _ taken => some taken
  meets := fun _ _ _ => True
  begins := fun _ _ taken => taken = none
  resting := fun _ taken => taken = none

abbrev withoutIds (p : Proc) : Footprint Command Proc Fault :=
  .running fun command => command.kind ≠ .nextPlayerId ∧ idGiven (.exec p command) = none

section Following

variable {p : Proc} {command : Command} {s : DirectPlay8Peer} {taken : Option DPNID}
  {α β : Type}

theorem idless_observed (h : (withoutIds p).commands command) :
    idObserver.observe p command s taken = some taken := by
  rcases h with ⟨hkind, hgiven⟩
  cases command with
  | setNextPlayerId => exact absurd rfl hkind
  | allocPlayerId => exact absurd rfl hkind
  | _ =>
      dsimp only [idObserver]
      rw [hgiven]

theorem idless_minds : idObserver.Minds machine p (withoutIds p) where
  commands := fun _ _ _ hcommand hrest => ⟨idless_observed hcommand, hrest⟩
  calls := fun _ _ taken _ hrest => ⟨taken, rfl, hrest⟩
  spawns := fun _ _ _ _ hrest => hrest

theorem follows_idless {prog : Action α} (huses : prog.Uses (withoutIds p)) :
    idObserver.follows machine p prog (fun _ _ taken => taken = none) s none :=
  Observer.follows_uses huses idless_minds rfl

theorem follows_after {prog : Action α} {f : α -> Action β}
    (huses : prog.Uses (withoutIds p))
    (hnext : forall value s', idObserver.follows machine p (f value)
      (fun _ _ taken => taken = none) s' none) :
    idObserver.follows machine p (prog >>= f) (fun _ _ taken => taken = none) s none := by
  refine Observer.follows_before huses idless_minds rfl ?_
  intro value s' taken hrest
  rw [show taken = none from hrest]
  exact hnext value s'

theorem follows_get {f : DirectPlay8Peer -> Action β}
    {post : β -> DirectPlay8Peer -> Option DPNID -> Prop}
    (h : idObserver.follows machine p (f s) post s taken) :
    idObserver.follows machine p (get >>= f) post s taken := h

theorem follows_perform {f : Unit -> Action β}
    {post : β -> DirectPlay8Peer -> Option DPNID -> Prop}
    (hcommand : (withoutIds p).commands command)
    (h : idObserver.follows machine p (f ()) post (command.apply s) taken) :
    idObserver.follows machine p (perform command >>= f) post s taken :=
  ⟨taken, idless_observed hcommand, h⟩

theorem follows_take {f : Unit -> Action β}
    {post : β -> DirectPlay8Peer -> Option DPNID -> Prop}
    (h : idObserver.follows machine p (f ()) post (Command.allocPlayerId.apply s)
      (some s.nextPlayerId)) :
    idObserver.follows machine p (perform .allocPlayerId >>= f) post s none :=
  ⟨some s.nextPlayerId, rfl, h⟩

theorem follows_give {playerId : DPNID} {f : Unit -> Action β}
    {post : β -> DirectPlay8Peer -> Option DPNID -> Prop}
    (hkind : command.kind ≠ .nextPlayerId)
    (hgiven : idGiven (.exec p command) = some playerId)
    (h : idObserver.follows machine p (f ()) post (command.apply s) none) :
    idObserver.follows machine p (perform command >>= f) post s (some playerId) := by
  refine ⟨none, ?_, h⟩
  cases command with
  | setNextPlayerId => exact absurd rfl hkind
  | allocPlayerId => exact absurd rfl hkind
  | _ =>
      dsimp only [idObserver]
      rw [hgiven]
      exact if_pos rfl

theorem startHosting_follows {args : HostArgs} {ctx : Context} :
    idObserver.follows machine (.host args) (Action.startHosting ctx)
      (fun _ _ taken => taken = none) s none := by
  refine ⟨none, rfl, ?_⟩
  apply follows_perform (by simp)
  apply follows_take
  apply follows_give (by simp) rfl
  apply follows_idless
  repeat' with_reducible first
    | apply Action.uses_bind
    | intro _
  all_goals simp

theorem host_follows {args : HostArgs} :
    idObserver.follows machine (.host args) (Action.host args)
      (fun _ _ taken => taken = none) s none := by
  have hsocket : forall which sock,
      (withoutIds (.host args)).commands (.setSocket which sock) := by simp
  have hfailed : forall result s', idObserver.follows machine (.host args)
      (Action.returns .host result) (fun _ _ taken => taken = none) s' none :=
    fun result s' => follows_idless (by simp)
  apply follows_get
  split
  any_goals exact hfailed _ _
  all_goals
    split
    · exact hfailed _ _
    apply follows_after (by simp)
    intro created s₁
    apply follows_perform (by simp)
    split
    · exact hfailed _ _
    apply follows_perform (by simp)
    apply follows_after (Action.uses_setDescription (by simp) (by simp))
    intro _ s₂
    split
    · exact hfailed _ _
    apply follows_perform (by simp)
    apply follows_after (Action.uses_createHostSockets hsocket (by simp))
    intro _ s₃
    apply follows_get
    split
    · exact hfailed _ _
    apply follows_after Action.uses_selectMainSockets
    intro selected s₄
    split
    · exact hfailed _ _
    apply follows_after (Action.uses_openDiscovery hsocket)
    intro opened s₅
    split
    · exact hfailed _ _
    exact startHosting_follows

theorem admitPlayer_follows {peerId : UInt32} {pd : PacketDeserialiser}
    {ic : Answer} :
    idObserver.follows machine (.handleHostConnectRequest peerId pd)
      (Action.admitPlayer peerId ic) (fun _ _ taken => taken = none) s none := by
  apply follows_get
  apply follows_take
  apply follows_perform (by simp)
  apply follows_perform (by simp)
  apply follows_give (by simp) rfl
  apply follows_idless
  unfold Action.sendGroups
  repeat' with_reducible first
    | apply Action.uses_renewPeer
    | apply Uses.forEach
    | apply Action.uses_bind
    | intro _
    | split
  all_goals simp

theorem handleHostConnectRequest_follows {peerId : UInt32} {pd : PacketDeserialiser} :
    idObserver.follows machine (.handleHostConnectRequest peerId pd)
      (Action.handleHostConnectRequest peerId pd)
      (fun _ _ taken => taken = none) s none := by
  have hfail : forall error data s', idObserver.follows machine
      (.handleHostConnectRequest peerId pd)
      (Action.sendConnectHostFail peerId error data)
      (fun _ _ taken => taken = none) s' none := by
    intro error data s'
    apply follows_idless
    exact Action.uses_bind (by simp) fun _ => by simp
  apply follows_after (Action.uses_assertedPeer (by simp) (by simp))
  intro peer s₁
  apply follows_get
  split
  · rfl
  split
  · exact hfail _ _ _
  apply follows_after (Action.uses_fetch (by simp))
  intro request s₂
  split
  · exact hfail _ _ _
  apply follows_perform (by simp)
  apply follows_perform (by simp)
  apply follows_after (by simp)
  intro ic s₃
  apply follows_after
  · unfold Action.returnBuffer
    exact Uses.onlyIf fun _ => Action.uses_bind (by simp) fun _ => by simp
  intro _ s₄
  apply follows_get
  split
  · split
    · exact admitPlayer_follows
    · exact hfail _ _ _
  · rfl

theorem beginOperation_follows {operation : Operation} {type : HandleType}
    {ctx : Context} {flags : DWORD} {f : Nat -> Action Unit}
    {post : Unit -> DirectPlay8Peer -> Option DPNID -> Prop}
    (hnext : forall completion s', s'.nextPlayerId = s.nextPlayerId ->
      idObserver.follows machine p (f completion) post s' none) :
    idObserver.follows machine p
      (Action.beginOperation operation type ctx flags >>= f) post s none := by
  have halloc : (withoutIds p).commands (.allocHandle type) := by
    refine ⟨by simp, ?_⟩
    cases p <;> rfl
  have hcompletion : forall completion,
      (withoutIds p).commands (.newCompletion completion) := by
    intro completion
    refine ⟨by simp, ?_⟩
    cases p <;> rfl
  rw [bind_eq, Observer.follows_bind]
  apply follows_get
  rw [bind_eq, Observer.follows_bind]
  unfold onlyIf
  split
  · refine ⟨none, idless_observed halloc, none, idless_observed (hcompletion _), ?_⟩
    exact hnext _ _ rfl
  · refine ⟨none, idless_observed (hcompletion _), ?_⟩
    exact hnext _ _ rfl

theorem createGroup_follows {info : Option GroupInfo} {groupCtx ctx : Context}
    {flags : DWORD} :
    idObserver.follows machine (.createGroup info groupCtx ctx flags)
      (Action.createGroup info groupCtx ctx flags)
      (fun _ _ taken => taken = none) s none := by
  have hreturns : forall result s', idObserver.follows machine
      (.createGroup info groupCtx ctx flags) (Action.returns .createGroup result)
      (fun _ _ taken => taken = none) s' none :=
    fun result s' => follows_idless (by simp)
  apply follows_get
  split
  · exact hreturns _ _
  · exact hreturns _ _
  · rename_i info _
    split
    · exact hreturns _ _
    apply beginOperation_follows
    intro completion s₁ hsame
    dsimp only
    have hends : forall s', idObserver.follows machine
        (.createGroup (some info) groupCtx ctx flags)
        (Action.endOperation .createGroup completion flags)
        (fun _ _ taken => taken = none) s' none :=
      fun s' => follows_idless (Action.uses_endOperation (by simp) (by simp) trivial)
    by_cases hhost : s.localPlayerId = s.hostPlayerId
    · rw [if_pos hhost]
      apply follows_take
      rw [hsame, bind_eq, Observer.follows_bind]
      apply follows_give (by simp) rfl
      refine Observer.follows_mono (follows_idless ?_) ?_
      · refine Action.uses_bind (Action.uses_notifyConnected (by simp) (by simp) ?_)
          fun _ => by simp
        simp
      · intro _ s' taken hrest
        rw [show taken = none from hrest]
        exact hends s'
    · rw [if_neg hhost]
      apply follows_after
      · exact Action.uses_assertThat (by simp)
      intro _ s₂
      split
      · trivial
      · apply follows_after (Action.uses_sendRequest (by simp) (by simp) (by simp))
        exact fun _ s' => hends s'

theorem grantedId_ackPacket (ackId : DWORD) (result : HRESULT) (groupId : DPNID) :
    grantedId (Action.ackPacket ackId result
      (LittleEndian.bytes32 groupId)).rawPacket = groupId := by
  have hlast : exists before, (Action.ackPacket ackId result
      (LittleEndian.bytes32 groupId)).rawPacket =
        before ++ LittleEndian.bytes32 groupId := by
    rw [Action.ackPacket, serialise_rawPacket]
    simp only [Append.encodeAll_cons, Append.encodeAll_nil, List.append_nil]
    rw [Append.encode.eq_def (.data _), Append.value]
    simp only [← List.append_assoc]
    exact ⟨_, rfl⟩
  rcases hlast with ⟨before, hpacket⟩
  rw [grantedId, hpacket, List.length_append, LittleEndian.bytes32_length,
    Nat.add_sub_cancel, List.drop_left, LittleEndian.word32_bytes32]

theorem handleGroupAllocate_follows {peerId : UInt32} {pd : PacketDeserialiser} :
    idObserver.follows machine (.handleGroupAllocate peerId pd)
      (Action.handleGroupAllocate peerId pd)
      (fun _ _ taken => taken = none) s none := by
  apply follows_after (Action.uses_assertedPeer (by simp) (by simp))
  intro peer s₁
  apply follows_get
  unfold Action.caught
  split
  · rfl
  split
  · rfl
  · apply follows_take
    refine ⟨none, ?_, rfl⟩
    dsimp only [idObserver]
    simp [grantedId_ackPacket]

theorem ids_followed : idObserver.Followed machine := by
  refine ⟨fun _ _ _ _ hrest => hrest, ?_⟩
  intro p s taken hrest
  rw [show taken = none from hrest]
  show idObserver.follows machine p p.body (fun _ _ taken => taken = none) s none
  have hother : CommandKind.nextPlayerId ∉ p.kinds ->
      (forall command, idGiven (.exec p command) = none) ->
      idObserver.follows machine p p.body (fun _ _ taken => taken = none) s none := by
    intro hkinds hgives
    refine follows_idless (Uses.mono p.body_uses ?_ (fun _ => trivial)
      (fun _ _ => trivial) (fun _ _ => trivial) (fun _ _ => trivial))
    intro command hcommand
    refine ⟨?_, hgives command⟩
    intro hkind
    rw [← hkind] at hkinds
    exact hkinds hcommand.1
  cases p with
  | host args => exact host_follows
  | handleHostConnectRequest peerId pd => exact handleHostConnectRequest_follows
  | createGroup info groupCtx ctx flags => exact createGroup_follows
  | handleGroupAllocate peerId pd => exact handleGroupAllocate_follows
  | _ => exact hother (by simp) (fun command => rfl)

end Following

/-!
## Counting
-/

def firstIds : Nat -> List DPNID
  | 0 => []
  | count + 1 => UInt32.ofNat (count + 1) :: firstIds count

theorem mem_firstIds {count : Nat} {playerId : DPNID} (h : playerId ∈ firstIds count) :
    exists n, 1 ≤ n ∧ n ≤ count ∧ playerId = UInt32.ofNat n := by
  induction count with
  | zero => cases h
  | succ count ih =>
      rcases List.mem_cons.mp h with rfl | hrest
      · exact ⟨count + 1, by omega, Nat.le_refl _, rfl⟩
      · rcases ih hrest with ⟨n, hpos, hle, heq⟩
        exact ⟨n, hpos, by omega, heq⟩

theorem ofNat_inj {n n' : Nat} (hn : n < 2 ^ 32) (hn' : n' < 2 ^ 32)
    (h : UInt32.ofNat n = UInt32.ofNat n') : n = n' := by
  have hnat := congrArg UInt32.toNat h
  rw [UInt32.toNat_ofNat', UInt32.toNat_ofNat', Nat.mod_eq_of_lt hn,
    Nat.mod_eq_of_lt hn'] at hnat
  exact hnat

theorem firstIds_nodup {count : Nat} (h : count < 2 ^ 32) : (firstIds count).Nodup := by
  induction count with
  | zero => exact List.nodup_nil
  | succ count ih =>
      refine List.nodup_cons.mpr ⟨?_, ih (by omega)⟩
      intro hmem
      rcases mem_firstIds hmem with ⟨n, _, hle, heq⟩
      have hsame : count + 1 = n := ofNat_inj h (by omega) heq
      omega

theorem zero_not_mem_firstIds {count : Nat} (h : count < 2 ^ 32) :
    0 ∉ firstIds count := by
  intro hmem
  rcases mem_firstIds hmem with ⟨n, hpos, hle, heq⟩
  have hzero : 0 = n := ofNat_inj (by omega) (by omega) heq
  omega

section Counting

variable {past : Deeds} {s : DirectPlay8Peer} {p : Proc} {command : Command}
  {taken : Option DPNID}

structure Numbered (s : DirectPlay8Peer) (past : Deeds) (taken : Option DPNID) :
    Prop where
  next : s.nextPlayerId = UInt32.ofNat (allocations past + 1)
  given : (taken = none ∧ sinceHost idGiven past = firstIds (allocations past)) ∨
    exists count, allocations past = count + 1 ∧
      taken = some (UInt32.ofNat (count + 1)) ∧
      sinceHost idGiven past = firstIds count

theorem Command.apply_nextPlayerId (h : command.kind ≠ .nextPlayerId) :
    (command.apply s).nextPlayerId = s.nextPlayerId := by
  cases command with
  | allocPlayerId => exact absurd rfl h
  | setNextPlayerId => exact absurd rfl h
  | peer peerId change =>
      simp only [apply, applyPeer]
      split <;> rfl
  | setSocket which sock => cases which <;> rfl
  | «local» change => cases change <;> rfl
  | connect change => cases change <;> rfl
  | session change => cases change <;> rfl
  | _ => rfl

theorem sinceHost_cons {given : StepLabel -> Option DPNID} {label : StepLabel}
    (h : forall p playerId, label ≠ .exec p (.setNextPlayerId playerId)) :
    sinceHost given ((s, label) :: past) =
      (given label).toList ++ sinceHost given past := by
  rw [sinceHost]
  exact h

theorem allocations_cons {label : StepLabel}
    (h : forall p playerId, label ≠ .exec p (.setNextPlayerId playerId))
    (h' : forall p, label ≠ .exec p .allocPlayerId) :
    allocations ((s, label) :: past) = allocations past := by
  rw [allocations]
  · intro _ p playerId hlabel
    exact h p playerId (congrArg Prod.snd hlabel)
  · intro _ p hlabel
    exact h' p (congrArg Prod.snd hlabel)

theorem Hosts.cons_cases {label : StepLabel} (h : Hosts ((s, label) :: past)) :
    (exists p, label = .exec p (.setNextPlayerId 1)) ∨ Hosts past := by
  rcases h with ⟨s', p, hmem⟩
  rcases List.mem_cons.mp hmem with heq | hrest
  · exact Or.inl ⟨p, (congrArg Prod.snd heq).symm⟩
  · exact Or.inr ⟨s', p, hrest⟩

theorem Numbered.idle {label : StepLabel} {s' : DirectPlay8Peer}
    (h : Numbered s past taken) (hnext : s'.nextPlayerId = s.nextPlayerId)
    (hgiven : idGiven label = none)
    (hset : forall p playerId, label ≠ .exec p (.setNextPlayerId playerId))
    (htake : forall p, label ≠ .exec p .allocPlayerId) :
    Numbered s' ((s, label) :: past) taken where
  next := by rw [hnext, allocations_cons hset htake, h.next]
  given := by
    rw [sinceHost_cons hset, hgiven, allocations_cons hset htake]
    exact h.given

theorem Numbered.take (h : Numbered s past none) :
    Numbered (Command.allocPlayerId.apply s) ((s, .exec p .allocPlayerId) :: past)
      (some s.nextPlayerId) := by
  have hset : forall q playerId, (.exec p .allocPlayerId : StepLabel) ≠
      .exec q (.setNextPlayerId playerId) := by
    intro q playerId hlabel
    cases hlabel
  have hgiven : idGiven (.exec p .allocPlayerId) = none := by
    cases p <;> rfl
  have hbefore : sinceHost idGiven past = firstIds (allocations past) := by
    rcases h.given with ⟨_, hfirst⟩ | ⟨_, _, hsome, _⟩
    · exact hfirst
    · cases hsome
  constructor
  · show s.nextPlayerId + 1 = UInt32.ofNat (allocations past + 1 + 1)
    rw [h.next, UInt32.ofNat_add (allocations past + 1) 1]
    rfl
  · refine Or.inr ⟨allocations past, rfl, congrArg some h.next, ?_⟩
    rw [sinceHost_cons hset, hgiven]
    exact hbefore

theorem Numbered.give {playerId : DPNID} (h : Numbered s past (some playerId))
    (hkind : command.kind ≠ .nextPlayerId)
    (hgiven : idGiven (.exec p command) = some playerId) :
    Numbered (command.apply s) ((s, .exec p command) :: past) none := by
  have hset : forall q playerId, (.exec p command : StepLabel) ≠
      .exec q (.setNextPlayerId playerId) := by
    rintro q playerId ⟨⟩
    exact hkind rfl
  have htake : forall q, (.exec p command : StepLabel) ≠ .exec q .allocPlayerId := by
    rintro q ⟨⟩
    exact hkind rfl
  constructor
  · rw [Command.apply_nextPlayerId hkind, allocations_cons hset htake]
    exact h.next
  · rcases h.given with ⟨hnone, _⟩ | ⟨count, hcount, hsome, hfirst⟩
    · cases hnone
    · refine Or.inl ⟨rfl, ?_⟩
      rw [sinceHost_cons hset, hgiven, allocations_cons hset htake, hcount, hfirst]
      rw [Option.some.inj hsome]
      rfl

theorem Command.kind_eq_nextPlayerId (h : command.kind = .nextPlayerId) :
    command = .allocPlayerId ∨ exists playerId, command = .setNextPlayerId playerId := by
  cases command with
  | allocPlayerId => exact Or.inl rfl
  | setNextPlayerId playerId => exact Or.inr ⟨playerId, rfl⟩
  | log event =>
      cases event with
      | raised notification => cases notification <;> cases h
      | returned method result => cases method <;> cases h
      | _ => cases h
  | peer peerId change => cases change <;> cases h
  | «local» change => cases change <;> cases h
  | _ => cases h

theorem idObserver_cases {taken' : Option DPNID} (hkind : command.kind ≠ .nextPlayerId)
    (h : idObserver.observe p command s taken = some taken') :
    (idGiven (.exec p command) = none ∧ taken' = taken) ∨
    exists playerId, idGiven (.exec p command) = some playerId ∧
      taken = some playerId ∧ taken' = none := by
  have hother : idObserver.observe p command s taken =
      match idGiven (.exec p command) with
      | none => some taken
      | some given => if taken = some given then some none else none := by
    cases command with
    | allocPlayerId => exact absurd rfl hkind
    | setNextPlayerId => exact absurd rfl hkind
    | _ => rfl
  rw [hother] at h
  split at h
  · rename_i hnone
    exact Or.inl ⟨hnone, (Option.some.inj h).symm⟩
  · rename_i given hgiven
    split at h
    · rename_i htaken
      exact Or.inr ⟨given, hgiven, htaken, (Option.some.inj h).symm⟩
    · cases h

theorem Numbered.exec {taken' : Option DPNID}
    (h : Hosts past -> Numbered s past taken)
    (hobserve : idObserver.observe p command s taken = some taken')
    (hhosts : Hosts ((s, .exec p command) :: past)) :
    Numbered (command.apply s) ((s, .exec p command) :: past) taken' := by
  by_cases hkind : command.kind = .nextPlayerId
  · rcases Command.kind_eq_nextPlayerId hkind with rfl | ⟨playerId, rfl⟩
    · dsimp only [idObserver] at hobserve
      split at hobserve
      · rename_i hnone
        cases hobserve
        rw [hnone] at h
        rcases hhosts.cons_cases with ⟨q, hlabel⟩ | hbefore
        · cases hlabel
        · exact (h hbefore).take
      · cases hobserve
    · dsimp only [idObserver] at hobserve
      split at hobserve
      · rename_i hstart
        cases hobserve
        exact ⟨hstart.2, Or.inl ⟨rfl, rfl⟩⟩
      · cases hobserve
  · have hbefore : Hosts past := by
      rcases hhosts.cons_cases with ⟨q, hlabel⟩ | hbefore
      · cases hlabel
        exact absurd rfl hkind
      · exact hbefore
    rcases idObserver_cases hkind hobserve with ⟨hnone, rfl⟩ |
      ⟨playerId, hgiven, rfl, rfl⟩
    · refine (h hbefore).idle (Command.apply_nextPlayerId hkind) hnone ?_ ?_
      · rintro q playerId ⟨⟩
        exact hkind rfl
      · rintro q ⟨⟩
        exact hkind rfl
    · exact (h hbefore).give hkind hgiven

end Counting

/-!
## Runs
-/

section Runs

variable {past : Deeds} {c : Run}

theorem ids_numbered (h : Traced machine DirectPlay8Peer.Constructed past c) :
    exists taken, idObserver.seen past = some taken ∧
      (Hosts past -> Numbered c.state past taken) := by
  induction h with
  | initial hs =>
      refine ⟨none, rfl, ?_⟩
      rintro ⟨_, _, hmem⟩
      cases hmem
  | @step past c c' label htraced hstep ih =>
      rcases ih with ⟨taken, hseen, hnumbered⟩
      rcases Observer.traced_seen ids_followed (fun _ _ => rfl) (htraced.step hstep)
        (fun _ _ _ _ => trivial) with ⟨taken', hseen', _⟩
      refine ⟨taken', hseen', ?_⟩
      rw [Observer.seen, hseen, Option.bind_some] at hseen'
      intro hhosts
      rcases hstep.state_cases with ⟨p, command, rfl, happlied⟩ | ⟨hlabel, hsame⟩
      · rw [happlied]
        exact Numbered.exec hnumbered hseen' hhosts
      · have hbefore : Hosts past := by
          rcases hhosts.cons_cases with ⟨q, heq⟩ | hbefore
          · exact absurd heq (hlabel q _)
          · exact hbefore
        have hother : idGiven label = none ∧
            idObserver.look c.state label taken = some taken := by
          cases label with
          | exec p command => exact absurd rfl (hlabel p command)
          | _ => exact ⟨rfl, rfl⟩
        rw [hother.2] at hseen'
        rw [hsame, ← Option.some.inj hseen']
        exact (hnumbered hbefore).idle rfl hother.1
          (fun q playerId => hlabel q _) (fun q => hlabel q _)

theorem sinceHost_perm (past : Deeds) :
    (sinceHost playerGiven past ++ sinceHost groupGiven past).Perm
      (sinceHost idGiven past) := by
  induction past with
  | nil => exact List.Perm.refl _
  | cons step past ih =>
      rcases step with ⟨s, label⟩
      by_cases hset : exists p playerId, label = .exec p (.setNextPlayerId playerId)
      · rcases hset with ⟨p, playerId, rfl⟩
        exact List.Perm.refl _
      · have hnot : forall p playerId, label ≠ .exec p (.setNextPlayerId playerId) :=
          fun p playerId hlabel => hset ⟨p, playerId, hlabel⟩
        simp only [sinceHost_cons hnot, idGiven]
        cases hplayer : playerGiven label with
        | none =>
            simp only [Option.toList_none, List.nil_append]
            refine List.Perm.trans ?_ (List.Perm.append_left _ ih)
            rw [← List.append_assoc, ← List.append_assoc]
            exact List.Perm.append_right _ List.perm_append_comm
        | some playerId =>
            have hgroup : groupGiven label = none := by
              unfold playerGiven at hplayer
              split at hplayer
              · rfl
              · rfl
              · cases hplayer
            simp only [hgroup, Option.toList_some, Option.toList_none, List.nil_append]
            exact List.Perm.cons _ ih

theorem ids_distinct (h : Traced machine DirectPlay8Peer.Constructed past c)
    (hhosts : Hosts past) (hfew : allocations past < 2 ^ 32 - 1) :
    (sinceHost playerGiven past ++ sinceHost groupGiven past).Nodup ∧
      0 ∉ sinceHost playerGiven past ++ sinceHost groupGiven past := by
  rcases ids_numbered h with ⟨taken, _, hnumbered⟩
  have hfirst : exists count, count < 2 ^ 32 ∧
      sinceHost idGiven past = firstIds count := by
    rcases (hnumbered hhosts).given with ⟨_, hall⟩ | ⟨count, hcount, _, hbefore⟩
    · exact ⟨allocations past, by omega, hall⟩
    · exact ⟨count, by omega, hbefore⟩
  rcases hfirst with ⟨count, hcount, hids⟩
  have hperm := sinceHost_perm past
  rw [hids] at hperm
  constructor
  · exact hperm.nodup_iff.mpr (firstIds_nodup hcount)
  · intro hzero
    exact zero_not_mem_firstIds hcount (hperm.mem_iff.mp hzero)

end Runs

end DirectPlayLite
