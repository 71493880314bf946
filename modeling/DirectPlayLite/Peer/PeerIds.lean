import DirectPlayLite.Peer.Accounts
import DirectPlayLite.Peer.Allocation

/-!
# The IDs of peers

`next_peer_id` is taken and raised under the lock, and the peer is inserted with it before
the lock is given up.  Peers get different IDs for as long as the counter has not gone
round.
-/

namespace DirectPlayLite

open Monitor Program

def insertedPeerIds (past : Deeds) : List UInt32 :=
  past.filterMap fun deed =>
    match deed.2 with
    | .exec _ (.insertPeer peerId ..) => some peerId
    | _ => none

def takenPeerIds (past : Deeds) : List UInt32 :=
  past.filterMap fun deed =>
    match deed.2 with
    | .exec _ .allocPeerId => some deed.1.nextPeerId
    | _ => none

/-!
## Taking an ID and inserting a peer
-/

def peerIdObserver : Observer DirectPlay8Peer Command Proc (Option UInt32) where
  start := none
  observe _ command s taken :=
    match command with
    | .allocPeerId => some (some s.nextPeerId)
    | .insertPeer peerId .. => if taken = some peerId then some none else none
    | _ => some taken
  hand _ _ _ taken := some taken
  meets _ _ _ := True
  begins _ _ _ := True
  resting _ _ := True

abbrev withoutPeerIds : Footprint Command Proc Fault :=
  .running fun command => command.kind ≠ .allocPeerId ∧ command.kind ≠ .insertPeer

def InsertsTaken {α : Type} (p : Proc) (prog : Action α) : Prop :=
  forall s taken, peerIdObserver.follows machine p prog (fun _ _ _ => True) s taken

section Following

variable {p : Proc} {command : Command} {s : DirectPlay8Peer} {taken : Option UInt32}
  {α β : Type}

theorem peerless_minds : peerIdObserver.Minds machine p withoutPeerIds where
  commands := by
    intro command s taken hcommand _
    refine ⟨?_, trivial⟩
    cases command with
    | allocPeerId => exact absurd rfl hcommand.1
    | insertPeer => exact absurd rfl hcommand.2
    | _ => rfl
  calls := fun _ _ taken _ _ => ⟨taken, rfl, trivial⟩
  spawns := fun _ _ _ _ _ => trivial

theorem inserts_peerless {prog : Action α} (huses : prog.Uses withoutPeerIds) :
    InsertsTaken p prog := fun _ _ => Observer.follows_uses huses peerless_minds trivial

theorem inserts_bind {prog : Action α} {f : α -> Action β} (hprog : InsertsTaken p prog)
    (hnext : forall value, InsertsTaken p (f value)) : InsertsTaken p (prog >>= f) := by
  intro s taken
  refine Observer.follows_bind.mpr (Observer.follows_mono (hprog s taken) ?_)
  exact fun value s' taken' _ => hnext value s' taken'

theorem inserts_renewPeer {peerId : UInt32} {next : Peer -> Action Unit}
    (hnext : forall peer, InsertsTaken p (next peer)) :
    InsertsTaken p (Action.renewPeer peerId next) := by
  refine inserts_bind (inserts_peerless (by simp)) ?_
  intro s
  split
  · exact hnext _
  · exact inserts_peerless trivial

theorem inserts_addPeer {state : PeerState} {sock : Int} {address : SockAddr}
    {playerId : DPNID} {peerId : UInt32} :
    peerIdObserver.follows machine p (Action.addPeer peerId state sock address playerId)
      (fun _ _ _ => True) s (some peerId) := by
  refine ⟨none, if_pos rfl, ?_⟩
  refine inserts_peerless (Action.uses_bind (by simp) fun _ => Uses.onlyIf ?_) _ _
  intro _
  trivial

theorem inserts_peerConnect {state : PeerState} {address : SockAddr} {playerId : DPNID} :
    InsertsTaken p (Action.peerConnect state address playerId) := by
  intro s taken sock _
  dsimp only [ret_bind]
  split
  · trivial
  · refine ⟨some s.nextPeerId, rfl, ?_⟩
    intro events _
    dsimp only [ret_bind]
    split
    · trivial
    · intro started _
      dsimp only [ret_bind]
      split
      · trivial
      · refine Observer.follows_bind.mpr (Observer.follows_mono inserts_addPeer ?_)
        intro _ _ _ _
        trivial

theorem inserts_peerAccept : InsertsTaken p Action.peerAccept := by
  intro s taken
  unfold Action.peerAccept
  rw [bind_eq, get_bind]
  show peerIdObserver.follows machine p (if s.listenerSocket = -1 then _ else _)
    (fun _ _ _ => True) s taken
  split
  · trivial
  · intro conn _
    dsimp only [ret_bind]
    split
    · trivial
    · intro nonBlocking _
      dsimp only [ret_bind]
      split
      · trivial
      · refine ⟨some s.nextPeerId, rfl, ?_⟩
        intro events _
        dsimp only [ret_bind]
        split
        · trivial
        · exact inserts_addPeer

theorem inserts_connectTo {args : ConnectArgs} {address : SockAddr} :
    InsertsTaken p (Action.connectTo args address) := by
  refine inserts_bind (inserts_peerless (by simp)) ?_
  intro counter
  refine inserts_bind (inserts_peerless
    (Action.uses_createAutoSockets (by simp) (by simp))) ?_
  intro _
  refine inserts_bind (inserts_peerless (by simp)) ?_
  intro s
  split
  · exact inserts_peerless (by simp)
  · refine inserts_bind (inserts_peerless (Uses.onlyIf fun _ => by simp)) ?_
    intro _
    refine inserts_bind (inserts_peerless (by simp)) ?_
    intro _
    refine inserts_bind (inserts_peerless (by simp)) ?_
    intro _
    refine inserts_bind inserts_peerConnect ?_
    intro started
    apply inserts_peerless
    repeat' with_reducible first
      | apply Action.uses_selectMainSockets
      | apply Action.uses_bind
      | intro _
      | split
    all_goals simp [Action.closeMainSocket]

theorem inserts_connect {args : ConnectArgs} :
    InsertsTaken p (Action.connect args) := by
  have hfailed : forall result, InsertsTaken p (Action.returns .connect result) :=
    fun result => inserts_peerless (by simp)
  refine inserts_bind (inserts_peerless (by simp)) ?_
  intro s
  split
  any_goals exact hfailed _
  all_goals
    refine inserts_bind (inserts_peerless (by simp)) ?_
    intro _
    refine inserts_bind (inserts_peerless (by simp)) ?_
    intro _
    refine inserts_bind (inserts_peerless (by simp)) ?_
    intro _
    refine inserts_bind (inserts_peerless (by simp)) ?_
    intro _
    split
    · exact hfailed _
    · exact inserts_connectTo

theorem inserts_connectToPeers {entries : List Action.PeerEntry} :
    InsertsTaken p (Action.connectToPeers entries) := by
  induction entries with
  | nil => exact inserts_peerless (Action.uses_invoke.mpr trivial)
  | cons entry rest ih =>
      refine inserts_bind inserts_peerConnect ?_
      intro started
      cases started with
      | false => exact inserts_peerless (by simp)
      | true => exact ih

theorem inserts_joinGroups {peerId : UInt32} {next : Action Unit} {groups : List DPNID}
    (hnext : InsertsTaken p next) :
    InsertsTaken p (Action.joinGroups peerId next groups) := by
  induction groups with
  | nil => exact hnext
  | cons groupId rest ih =>
      refine inserts_bind (inserts_peerless (Action.uses_peerAt (by simp))) ?_
      intro peer
      refine inserts_bind (inserts_peerless (by simp)) ?_
      intro s
      split
      · exact ih
      · split
        · exact ih
        · refine inserts_bind (inserts_peerless (by simp)) ?_
          intro _
          refine inserts_bind (inserts_peerless (by simp)) ?_
          intro _
          exact inserts_renewPeer fun _ => ih

theorem inserts_handleHostConnectOk {peerId : UInt32} {pd : PacketDeserialiser} :
    InsertsTaken p (Action.handleHostConnectOk peerId pd) := by
  refine inserts_bind
    (inserts_peerless (Action.uses_assertedPeer (by simp) (by simp))) ?_
  intro peer
  refine inserts_bind (inserts_peerless (by simp)) ?_
  intro s
  split
  · exact inserts_peerless trivial
  · refine inserts_bind (inserts_peerless (Action.uses_assertThat (by simp))) ?_
    intro _
    refine inserts_bind (inserts_peerless (Action.uses_fetch (by simp))) ?_
    intro ok
    repeat' with_reducible first
      | apply inserts_renewPeer
      | apply inserts_joinGroups
      | apply inserts_connectToPeers
      | apply inserts_bind
      | intro _
    all_goals first
      | exact inserts_peerless (by simp)
      | exact inserts_peerless (Action.uses_peerAt (by simp))

theorem peerIds_followed : peerIdObserver.Followed machine := by
  refine ⟨fun _ _ _ _ _ => trivial, ?_⟩
  intro p s taken _
  have hother : CommandKind.allocPeerId ∉ p.kinds -> CommandKind.insertPeer ∉ p.kinds ->
      InsertsTaken p p.body := by
    intro halloc hinsert
    refine inserts_peerless (Uses.mono p.body_uses ?_ (fun _ => trivial)
      (fun _ _ => trivial) (fun _ _ => trivial) (fun _ _ => trivial))
    intro command hcommand
    refine ⟨fun hkind => halloc ?_, fun hkind => hinsert ?_⟩
    · rw [← hkind]
      exact hcommand.1
    · rw [← hkind]
      exact hcommand.1
  cases p with
  | connect args => exact inserts_connect s taken
  | peerAccept => exact inserts_peerAccept s taken
  | handleHostConnectOk peerId pd => exact inserts_handleHostConnectOk s taken
  | _ => exact hother (by simp) (by simp) s taken

end Following

/-!
## Counting
-/

def CountsDown : UInt32 -> List UInt32 -> Prop
  | _, [] => True
  | next, peerId :: rest => peerId + 1 = next ∧ CountsDown peerId rest

theorem CountsDown.mem {next peerId : UInt32} {ids : List UInt32} (h : CountsDown next ids)
    (hmem : peerId ∈ ids) : exists n, n < ids.length ∧ peerId + UInt32.ofNat (n + 1) = next := by
  induction ids generalizing next with
  | nil => cases hmem
  | cons first rest ih =>
      rcases h with ⟨hfirst, hrest⟩
      rcases List.mem_cons.mp hmem with rfl | hmem
      · exact ⟨0, Nat.succ_pos _, hfirst⟩
      · rcases ih hrest hmem with ⟨n, hn, hsum⟩
        refine ⟨n + 1, Nat.succ_lt_succ hn, ?_⟩
        rw [← hfirst, ← hsum, UInt32.ofNat_add (n + 1) 1, ← UInt32.add_assoc]
        rfl

theorem CountsDown.nodup {next : UInt32} {ids : List UInt32} (h : CountsDown next ids)
    (hfew : ids.length ≤ 2 ^ 32) : ids.Nodup := by
  induction ids generalizing next with
  | nil => exact List.nodup_nil
  | cons first rest ih =>
      rw [List.length_cons] at hfew
      refine List.nodup_cons.mpr ⟨?_, ih h.2 (by omega)⟩
      intro hmem
      rcases h.2.mem hmem with ⟨n, hn, hsum⟩
      have hzero : UInt32.ofNat (n + 1) = 0 := by
        have hcancel : first + UInt32.ofNat (n + 1) = first + 0 := by
          rw [hsum, UInt32.add_zero]
        exact UInt32.add_right_inj first |>.mp hcancel
      have hnat := congrArg UInt32.toNat hzero
      rw [UInt32.toNat_ofNat', UInt32.toNat_zero] at hnat
      omega

section Counting

variable {past : Deeds} {s : DirectPlay8Peer} {p : Proc} {command : Command}
  {taken taken' : Option UInt32} {label : StepLabel}

theorem Command.apply_nextPeerId (h : command.kind ≠ .allocPeerId) :
    (command.apply s).nextPeerId = s.nextPeerId := by
  cases command with
  | allocPeerId => exact absurd rfl h
  | peer peerId change =>
      simp only [apply, applyPeer]
      split <;> rfl
  | setSocket which sock => cases which <;> rfl
  | «local» change => cases change <;> rfl
  | connect change => cases change <;> rfl
  | session change => cases change <;> rfl
  | _ => rfl

structure PeersNumbered (s : DirectPlay8Peer) (past : Deeds) (taken : Option UInt32) :
    Prop where
  counted : CountsDown s.nextPeerId (takenPeerIds past)
  inserted : (insertedPeerIds past).Sublist (takenPeerIds past)
  waiting : forall peerId, taken = some peerId -> exists before,
    takenPeerIds past = peerId :: before ∧ (insertedPeerIds past).Sublist before

theorem PeersNumbered.quiet {s' : DirectPlay8Peer} (h : PeersNumbered s past taken)
    (hnext : s'.nextPeerId = s.nextPeerId)
    (htaken : takenPeerIds ((s, label) :: past) = takenPeerIds past)
    (hinserted : insertedPeerIds ((s, label) :: past) = insertedPeerIds past) :
    PeersNumbered s' ((s, label) :: past) taken where
  counted := by
    rw [hnext, htaken]
    exact h.counted
  inserted := by
    rw [htaken, hinserted]
    exact h.inserted
  waiting := by
    rw [htaken, hinserted]
    exact h.waiting

theorem PeersNumbered.take (h : PeersNumbered s past taken) :
    PeersNumbered (Command.allocPeerId.apply s) ((s, .exec p .allocPeerId) :: past)
      (some s.nextPeerId) where
  counted := ⟨rfl, h.counted⟩
  inserted := h.inserted.cons _
  waiting := by
    intro peerId hpeerId
    cases hpeerId
    exact ⟨takenPeerIds past, rfl, h.inserted⟩

theorem PeersNumbered.insert {peerId : UInt32} {state : PeerState} {sock : Int}
    {ip : UInt32} {port : UInt16} {playerId : DPNID}
    (h : PeersNumbered s past (some peerId)) :
    PeersNumbered ((Command.insertPeer peerId state sock ip port playerId).apply s)
      ((s, .exec p (.insertPeer peerId state sock ip port playerId)) :: past) none where
  counted := h.counted
  inserted := by
    rcases h.waiting peerId rfl with ⟨before, htaken, hinserted⟩
    show (peerId :: insertedPeerIds past).Sublist (takenPeerIds past)
    rw [htaken]
    exact hinserted.cons_cons peerId
  waiting := by
    intro other hother
    cases hother

theorem PeersNumbered.exec (h : PeersNumbered s past taken)
    (hobserve : peerIdObserver.observe p command s taken = some taken') :
    PeersNumbered (command.apply s) ((s, .exec p command) :: past) taken' := by
  have hquiet : command.kind ≠ .allocPeerId ->
      takenPeerIds ((s, .exec p command) :: past) = takenPeerIds past ->
      insertedPeerIds ((s, .exec p command) :: past) = insertedPeerIds past ->
      some taken = some taken' ->
      PeersNumbered (command.apply s) ((s, .exec p command) :: past) taken' := by
    intro hkind htaken hinserted hsame
    cases hsame
    exact h.quiet (Command.apply_nextPeerId hkind) htaken hinserted
  cases command with
  | allocPeerId =>
      cases hobserve
      exact h.take
  | insertPeer peerId =>
      simp only [peerIdObserver] at hobserve
      split at hobserve
      · rename_i htaken
        cases hobserve
        rw [htaken] at h
        exact h.insert
      · cases hobserve
  | log event =>
      refine hquiet ?_ rfl rfl hobserve
      cases event with
      | raised notification => cases notification <;> simp
      | returned method => cases method <;> simp
      | _ => simp
  | peer peerId change => exact hquiet (by cases change <;> simp) rfl rfl hobserve
  | «local» change => exact hquiet (by cases change <;> simp) rfl rfl hobserve
  | _ => exact hquiet (by simp) rfl rfl hobserve

end Counting

/-!
## Runs
-/

section Runs

variable {past : Deeds} {c : Run}

theorem peers_numbered (h : Traced machine DirectPlay8Peer.Constructed past c) :
    exists taken, peerIdObserver.seen past = some taken ∧
      PeersNumbered c.state past taken := by
  induction h with
  | initial hs =>
      refine ⟨none, rfl, trivial, List.Sublist.refl _, ?_⟩
      intro peerId hnone
      cases hnone
  | @step past c c' label htraced hstep ih =>
      rcases ih with ⟨taken, hseen, hnumbered⟩
      rcases Observer.traced_seen peerIds_followed (fun _ _ => trivial)
        (htraced.step hstep) (fun _ _ _ _ => trivial) with ⟨taken', hseen', _⟩
      refine ⟨taken', hseen', ?_⟩
      rw [Observer.seen, hseen, Option.bind_some] at hseen'
      rcases hstep.state_cases with ⟨p, command, rfl, happlied⟩ | ⟨hlabel, hsame⟩
      · rw [happlied]
        exact hnumbered.exec hseen'
      · have hother : takenPeerIds ((c.state, label) :: past) = takenPeerIds past ∧
            insertedPeerIds ((c.state, label) :: past) = insertedPeerIds past ∧
            some taken = some taken' := by
          cases label with
          | exec p command => exact absurd rfl (hlabel p command)
          | _ => exact ⟨rfl, rfl, hseen'⟩
        rw [hsame]
        cases hother.2.2
        exact hnumbered.quiet rfl hother.1 hother.2.1

theorem peerIds_distinct (h : Traced machine DirectPlay8Peer.Constructed past c)
    (hfew : (takenPeerIds past).length ≤ 2 ^ 32) : (insertedPeerIds past).Nodup := by
  rcases peers_numbered h with ⟨taken, _, hnumbered⟩
  exact (hnumbered.counted.nodup hfew).sublist hnumbered.inserted

theorem peer_from {command : Command} {s : DirectPlay8Peer} {peerId : UInt32} {peer : Peer}
    (h : (command.apply s).peers[peerId]? = some peer) :
    (exists before, s.peers[peerId]? = some before ∧ peer.addr = before.addr) ∨
      exists state sock ip port playerId,
        command = .insertPeer peerId state sock ip port playerId := by
  rcases Command.peer_cases h with hkept | ⟨change, before, _, hbefore, rfl⟩ |
    ⟨_, _, _, _, _, hinsert, _⟩
  · exact Or.inl ⟨peer, hkept, rfl⟩
  · exact Or.inl ⟨before, hbefore, PeerCommand.apply_addr⟩
  · exact Or.inr ⟨_, _, _, _, _, hinsert⟩

theorem insertedPeerIds_mono {s : DirectPlay8Peer} {label : StepLabel} {peerId : UInt32}
    (h : peerId ∈ insertedPeerIds past) : peerId ∈ insertedPeerIds ((s, label) :: past) := by
  rcases List.mem_filterMap.mp h with ⟨deed, hdeed, hid⟩
  exact List.mem_filterMap.mpr ⟨deed, List.mem_cons_of_mem _ hdeed, hid⟩

theorem peer_inserted (h : Traced machine DirectPlay8Peer.Constructed past c) :
    forall (peerId : UInt32) (peer : Peer), c.state.peers[peerId]? = some peer ->
      peerId ∈ insertedPeerIds past := by
  refine Traced.always (I := fun s past => forall (peerId : UInt32) (peer : Peer),
    s.peers[peerId]? = some peer -> peerId ∈ insertedPeerIds past) ?_ ?_ ?_ h
  · intro s hs
    simp [hs.peers]
  · intro past c c' p command _ _ hbefore peerId peer hpeer
    rcases peer_from hpeer with ⟨before, hwas, _⟩ | ⟨_, _, _, _, _, rfl⟩
    · exact insertedPeerIds_mono (hbefore peerId before hwas)
    · exact List.mem_cons_self
  · intro s past label _ hbefore peerId peer hpeer
    exact insertedPeerIds_mono (hbefore peerId peer hpeer)

/-- The peer with an ID is the one that had it before. -/
def SamePeers (s : DirectPlay8Peer) (past : Deeds) : Prop :=
  forall s₀ label, (s₀, label) ∈ past ->
    forall (peerId : UInt32) (peer₀ peer : Peer), s₀.peers[peerId]? = some peer₀ ->
      s.peers[peerId]? = some peer -> peer.addr = peer₀.addr

theorem nodup_tail {deed : DirectPlay8Peer × StepLabel}
    (h : (insertedPeerIds (deed :: past)).Nodup) : (insertedPeerIds past).Nodup :=
  h.sublist (List.Sublist.filterMap _ (List.sublist_cons_self _ _))

theorem past_inserted (h : Traced machine DirectPlay8Peer.Constructed past c)
    {s₀ : DirectPlay8Peer} {label : StepLabel} (hmem : (s₀, label) ∈ past)
    {peerId : UInt32} {peer₀ : Peer} (hpeer : s₀.peers[peerId]? = some peer₀) :
    peerId ∈ insertedPeerIds past := by
  rcases List.append_of_mem hmem with ⟨behind, before, rfl⟩
  rcases h.before with ⟨c₀, _, htraced, rfl, _⟩
  rcases List.mem_filterMap.mp (peer_inserted htraced peerId peer₀ hpeer) with
    ⟨deed, hdeed, hid⟩
  refine List.mem_filterMap.mpr ⟨deed, ?_, hid⟩
  exact List.mem_append_right _ (List.mem_cons_of_mem _ hdeed)

theorem samePeers_always (h : Traced machine DirectPlay8Peer.Constructed past c) :
    (insertedPeerIds past).Nodup -> SamePeers c.state past := by
  induction h with
  | initial =>
      intro _ s₀ label hmem
      cases hmem
  | @step past c c' label htraced hstep ih =>
      intro hnodup s₀ label₀ hmem peerId peer₀ peer hpeer₀ hpeer
      have hsame := ih (nodup_tail hnodup)
      have hbefore : forall before, c.state.peers[peerId]? = some before ->
          before.addr = peer₀.addr := by
        intro before hwas
        rcases List.mem_cons.mp hmem with heq | hold
        · cases heq
          cases hwas.symm.trans hpeer₀
          rfl
        · exact hsame s₀ label₀ hold peerId peer₀ before hpeer₀ hwas
      have hthere : peerId ∈ insertedPeerIds past := by
        rcases List.mem_cons.mp hmem with heq | hold
        · cases heq
          exact peer_inserted htraced peerId peer₀ hpeer₀
        · exact past_inserted htraced hold hpeer₀
      rcases hstep.state_cases with ⟨p, command, rfl, happlied⟩ | ⟨_, hkept⟩
      · rw [happlied] at hpeer
        rcases peer_from hpeer with ⟨before, hwas, haddr⟩ | ⟨_, _, _, _, _, rfl⟩
        · exact haddr.trans (hbefore before hwas)
        · exact absurd hthere (List.nodup_cons.mp hnodup).1
      · rw [hkept] at hpeer
        exact hbefore peer hpeer

/--
What has been found under a peer ID before the lock was given up is found again, or nothing
is, as long as the counter of the IDs has not gone round.
-/
theorem renewed_peer_same (h : Traced machine DirectPlay8Peer.Constructed past c)
    (hfew : (takenPeerIds past).length ≤ 2 ^ 32) : SamePeers c.state past :=
  samePeers_always h (peerIds_distinct h hfew)

end Runs

/-- A host finds the client again that it has asked the application about. -/
theorem renewed_peer_same_admit :
    exists (past : Deeds) (c : Run),
      Traced machine DirectPlay8Peer.Constructed past c ∧
        (c.state.peers[(0 : UInt32)]?).isSome = true ∧ SamePeers c.state past := by
  have hrun : (retell machine 400 choicesAdmit [] (Config.initial .zeroed)).any
      (fun q => decide ((takenPeerIds q.1).length = 1 ∧
        (q.2.state.peers[(0 : UInt32)]?).isSome = true)) = true := by
    decide +kernel
  rcases retell_run DirectPlay8Peer.zeroed_constructed hrun with
    ⟨past, c, htraced, htest⟩
  rcases of_decide_eq_true htest with ⟨hcount, hpeer⟩
  have hfew : (takenPeerIds past).length ≤ 2 ^ 32 := by
    rw [hcount]
    decide
  exact ⟨past, c, htraced, hpeer, renewed_peer_same htraced hfew⟩

end DirectPlayLite
