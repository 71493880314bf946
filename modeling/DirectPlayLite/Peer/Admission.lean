import DirectPlayLite.Peer.States

/-!
# Admitting players

In which states of the object the peers of packets become players, are announced
and are told so.  Every handler looks at the state before it decides; what it has
found has to hold still behind the calls of the application.
-/

namespace DirectPlayLite

open Monitor Program

/-!
## What is promised
-/

/-- The state in which a handler may admit the peer of its packet. -/
@[simp] def Proc.admitsIn : Proc -> Option State
  | .handleHostConnectRequest .. => some .hosting
  | .handleHostConnectOk .. => some .connectingToHost
  | .handleConnectPeer .. => some .connected
  | .handleConnectPeerOk .. => some .connectingToPeers
  | _ => none

@[simp] def Proc.announcesIn : Proc -> Option State
  | .host .. | .handleHostConnectRequest .. => some .hosting
  | .handleHostConnectOk .. | .handleConnectPeerOk .. =>
      some .connectingToPeers
  | .handleConnectPeer .. => some .connected
  | _ => none

def DirectPlay8Peer.HasPlayer (s : DirectPlay8Peer) (peerId : UInt32) : Prop :=
  (s.peers[peerId]?).any (fun peer => peer.state == .connected) = true

instance {s : DirectPlay8Peer} {peerId : UInt32} :
    Decidable (s.HasPlayer peerId) := inferInstanceAs (Decidable (_ = true))

/-- Players are admitted, announced and welcomed while they may be gained. -/
structure AdmitsInTime (s s' : DirectPlay8Peer) (label : StepLabel) : Prop where
  entered : forall peerId, s'.HasPlayer peerId -> ¬ s.HasPlayer peerId ->
    exists p command, label = .exec p command ∧ p.admitsIn = some s.state
  announced : forall p player ctx,
    label = .exec p (.log (.raised (.createPlayer player ctx))) ->
      p.announcesIn = some s.state
  replied : forall p peerId priority packet handle callback,
    label = .exec p (.peer peerId (.send priority packet handle callback)) ->
      isSuccessReply packet = true -> p.admitsIn = some s.state

/-!
## Conditions
-/

namespace DirectPlay8Peer

/-- The peer waits for another peer's answer, and the packet can be read as one. -/
def Joins (s : DirectPlay8Peer) (peerId : UInt32)
    (pd : PacketDeserialiser) : Prop :=
  ((s.peers[peerId]?).any fun peer => peer.state == .requestingPeer) = true ∧
    (Action.decodeConnectPeerOk pd).toOption.isSome = true

end DirectPlay8Peer

/-- An answer of a peer comes in the state that is asserted for it. -/
def Proc.Expected (s : DirectPlay8Peer) : Proc -> Prop
  | .handleHostConnectOk peerId pd => s.Welcomes peerId pd ->
      s.state = .connectingToHost
  | .handleConnectPeerOk peerId pd => s.Joins peerId pd ->
      s.state = .connectingToPeers
  | _ => True

/--
Behind its callbacks, `handle_host_connect_request` only goes on to admit a player
while the object hosts, and `handle_host_connect_ok` only goes on with the host
while the object connects to the other peers; answers come when they are asked
for.
-/
def AdmissionGuarded (s : DirectPlay8Peer) (_ : Multiset Proc) :
    StepLabel -> Prop
  | .exec (.handleHostConnectRequest ..) .allocPlayerId => s.state = .hosting
  | .exec (.handleHostConnectOk peerId _) (.local (.setPlayerCtx _)) =>
      s.state = .connectingToPeers ∨ s.peers[peerId]?.isNone = true
  | .call _ callee => callee.Expected s
  | _ => True

instance {s : DirectPlay8Peer} {peerId : UInt32} {pd : PacketDeserialiser} :
    Decidable (s.Welcomes peerId pd) := inferInstanceAs (Decidable (_ ∧ _))

instance {s : DirectPlay8Peer} {peerId : UInt32} {pd : PacketDeserialiser} :
    Decidable (s.Joins peerId pd) := inferInstanceAs (Decidable (_ ∧ _))

instance {s : DirectPlay8Peer} {p : Proc} : Decidable (p.Expected s) := by
  unfold Proc.Expected
  split <;> infer_instance

instance {s : DirectPlay8Peer} {M : Multiset Proc} {label : StepLabel} :
    Decidable (AdmissionGuarded s M label) := by
  apply Label.casesOn (motive := fun label => Decidable (AdmissionGuarded s M label))
  case' exec =>
    intro p command
    apply Proc.casesOn (motive := fun p =>
      Decidable (AdmissionGuarded s M (.exec p command)))
    case' handleHostConnectRequest =>
      intro peerId pd
      apply Command.casesOn (motive := fun command =>
        Decidable (AdmissionGuarded s M (.exec (.handleHostConnectRequest peerId pd) command)))
    case' handleHostConnectOk =>
      intro peerId pd
      apply Command.casesOn (motive := fun command =>
        Decidable (AdmissionGuarded s M (.exec (.handleHostConnectOk peerId pd) command)))
      case' «local» =>
        intro change
        apply LocalCommand.casesOn (motive := fun change =>
          Decidable
            (AdmissionGuarded s M (.exec (.handleHostConnectOk peerId pd) (.local change))))
  all_goals
    intros
    dsimp only [AdmissionGuarded]
    infer_instance

def Proc.Timely (p : Proc) (command : Command) (s : DirectPlay8Peer) : Prop :=
  match command with
  | .peer _ (.setState .connected) => p.admitsIn = some s.state
  | .peer _ (.send _ packet _ _) =>
      isSuccessReply packet = true -> p.admitsIn = some s.state
  | .log (.raised (.createPlayer ..)) => p.announcesIn = some s.state
  | .insertPeer _ state _ _ _ _ => state ≠ .connected
  | _ => True

def admissionContract : Contract machine where
  cond := AdmissionGuarded
  inv := fun _ _ => True
  free := fun _ => True
  guar := Proc.Timely
  rely := fun _ _ _ => True
  pre := fun p s _ => p.Expected s
  post := fun _ _ _ _ => True
  faults := fun _ => True
  rely_refl := fun _ _ => trivial
  rely_trans := fun _ _ _ _ _ _ => trivial

/-!
## Rules
-/

def Command.isPlain : Command -> Bool
  | .peer _ (.setState state) => state != .connected
  | .peer _ (.send _ packet _ _) => ! isSuccessReply packet
  | .log (.raised (.createPlayer ..)) => false
  | .insertPeer _ state _ _ _ _ => state != .connected
  | _ => true

abbrev withoutAdmitting : Footprint Command Proc Fault :=
  .within (fun command => command.isPlain = true)
    (fun callee => callee.admitsIn = none)
    fun child => child.admitsIn = none

section Rules

variable {p : Proc} {callers : List Proc} {s : DirectPlay8Peer}
  {M : Multiset Proc} {command : Command} {state : State} {α : Type}

theorem Proc.timely_of_plain (h : command.isPlain = true) :
    p.Timely command s := by
  unfold Proc.Timely
  split <;> simp_all [Command.isPlain]

theorem Proc.timely_in (hadmits : p.admitsIn = some s.state)
    (hannounces : p.announcesIn = some s.state)
    (hkind : command.kind ≠ .insertPeer) : p.Timely command s := by
  unfold Proc.Timely
  split <;> simp_all

theorem Proc.expected_of_admitsIn (h : p.admitsIn = none) : p.Expected s := by
  cases p <;> trivial

abbrev AdmissionsKept (p : Proc) (callers : List Proc) (prog : Action α)
    (s : DirectPlay8Peer) (M : Multiset Proc) : Prop :=
  admissionContract.wp p callers prog
    (fun _ _ M' => (p :: callers : Multiset Proc) ≤ M') s M

theorem admissions_rest {prog : Action α} (huses : prog.Uses withoutAdmitting)
    (hown : (p :: callers : Multiset Proc) ≤ M) :
    AdmissionsKept p callers prog s M := by
  refine Contract.wp_mono (Contract.wp_of_uses (I := fun _ _ => True) huses
    (fun _ _ _ _ => ⟨trivial, trivial⟩) (fun _ _ _ _ => trivial) ?_ ?_ ?_
    (fun _ _ => trivial) hown trivial) fun _ _ _ h => h.1
  · intro command s M hplain _ _ _
    exact ⟨⟨Proc.timely_of_plain hplain, fun _ _ => trivial⟩, trivial⟩
  · intro callee s M hcall _ _
    exact ⟨Proc.expected_of_admitsIn hcall, fun _ _ _ _ => trivial⟩
  · intro child s M hspawn _ _
    exact ⟨fun _ _ _ _ _ _ _ => Proc.expected_of_admitsIn hspawn, trivial⟩

theorem admissions_before {prog : Action α} {f : α -> Action Unit}
    (huses : prog.Uses withoutAdmitting) (hown : (p :: callers : Multiset Proc) ≤ M)
    (hnext : forall value s' M', (p :: callers : Multiset Proc) ≤ M' ->
      AdmissionsKept p callers (f value) s' M') :
    AdmissionsKept p callers (prog >>= f) s M := by
  unfold AdmissionsKept
  rw [bind_eq, Contract.wp_bind]
  refine Contract.wp_mono (admissions_rest huses hown) ?_
  intro value s' M' hown'
  exact hnext value s' M' hown'

theorem admissions_kept {prog : Action α} {f : α -> Action Unit}
    (huses : prog.Uses
      (Kept fun command => command.isPlain = true ∧ command.kind ≠ .state))
    (hnext : forall value s', s'.state = s.state ->
      AdmissionsKept p callers (f value) s' M) :
    AdmissionsKept p callers (prog >>= f) s M := by
  unfold AdmissionsKept
  rw [bind_eq, Contract.wp_bind]
  refine Contract.wp_mono (wp_kept huses (fun _ => trivial)
    (I := fun s' => s'.state = s.state) ?_ rfl) ?_
  · intro command s' hcommand hstate _
    refine ⟨⟨Proc.timely_of_plain hcommand.1, fun _ _ => trivial⟩, ?_⟩
    exact (Command.apply_state hcommand.2).trans hstate
  · rintro value s' M' ⟨rfl, hstate⟩
    exact hnext value s' hstate

theorem admissions_timely {prog : Action α} {f : α -> Action Unit}
    (hadmits : p.admitsIn = some state) (hannounces : p.announcesIn = some state)
    (hs : s.state = state)
    (huses : prog.Uses (Kept fun command =>
      command.kind ≠ .insertPeer ∧ command.kind ≠ .state))
    (hnext : forall value s', s'.state = state ->
      AdmissionsKept p callers (f value) s' M) :
    AdmissionsKept p callers (prog >>= f) s M := by
  unfold AdmissionsKept
  rw [bind_eq, Contract.wp_bind]
  refine Contract.wp_mono (wp_kept huses (fun _ => trivial)
    (I := fun s' => s'.state = state) ?_ hs) ?_
  · intro command s' hcommand hstate _
    rw [← hstate] at hadmits hannounces
    refine ⟨⟨Proc.timely_in hadmits hannounces hcommand.1, fun _ _ => trivial⟩,
      ?_⟩
    exact (Command.apply_state hcommand.2).trans hstate
  · rintro value s' M' ⟨rfl, hstate⟩
    exact hnext value s' hstate

theorem admissions_perform {f : Unit -> Action Unit}
    (htimely : AdmissionGuarded s M (.exec p command) -> p.Timely command s)
    (hnext : AdmissionGuarded s M (.exec p command) ->
      AdmissionsKept p callers (f ()) (command.apply s) M) :
    AdmissionsKept p callers (perform command >>= f) s M := by
  intro hcond
  exact ⟨⟨htimely hcond, fun _ _ => trivial⟩, hnext hcond⟩

theorem admissions_announce {player : DPNID} {ctx : Context}
    {f : Answer -> Action Unit} (hannounces : p.announcesIn = some s.state)
    (hnext : forall answer s' M', (p :: callers : Multiset Proc) ≤ M' ->
      AdmissionsKept p callers (f answer) s' M') :
    AdmissionsKept p callers (Action.raise (.createPlayer player ctx) >>= f) s
      M := by
  intro _
  refine ⟨⟨hannounces, fun _ _ => trivial⟩, ⟨trivial, trivial⟩, ?_⟩
  intro s' M' answer hown _ _ _ _ _ _
  exact hnext answer s' M' hown

end Rules

/-!
## The handlers
-/

section Handlers

variable {callers : List Proc} {s : DirectPlay8Peer} {M : Multiset Proc}
  {peerId : UInt32} {pd : PacketDeserialiser}

theorem sendGroups_kept {commands : Command -> Prop}
    (hsend : forall packet, isSuccessReply packet = false ->
      commands (.peer peerId (.send .high packet 0 .nothing))) :
    (Action.sendGroups peerId).Uses (Kept commands) := by
  unfold Action.sendGroups
  repeat' with_reducible first
    | apply Uses.forEach
    | apply Action.uses_bind
    | intro _
  all_goals simp [hsend, Action.groupDestroyPacket, Action.groupCreatePacket]

theorem admitPlayer_admissions {ic : Answer} :
    AdmissionsKept (.handleHostConnectRequest peerId pd) callers
      (Action.admitPlayer peerId ic) s M := by
  apply Contract.wp_get
  apply admissions_perform
  · exact fun _ => trivial
  intro hhosting
  have hs : (Command.allocPlayerId.apply s).state = .hosting := hhosting
  refine admissions_timely rfl rfl hs (by simp) ?_
  intro _ s₁ hs₁
  refine admissions_timely rfl rfl hs₁ (by simp) ?_
  intro _ s₂ hs₂
  refine admissions_timely rfl rfl hs₂ (by simp) ?_
  intro _ s₃ hs₃
  refine admissions_timely rfl rfl hs₃ (by simp) ?_
  intro _ s₄ hs₄
  refine admissions_timely rfl rfl hs₄ (sendGroups_kept fun _ _ => by simp) ?_
  intro _ s₅ hs₅
  apply Contract.wp_get
  refine admissions_timely rfl rfl hs₅ (by simp) ?_
  intro _ s₆ hs₆
  apply admissions_announce (hs₆ ▸ rfl)
  intro cp s₇ M₇ hown₇
  exact admissions_rest (Action.uses_renewPeer fun _ => by simp [Command.isPlain])
    hown₇

theorem handleHostConnectRequest_admissions
    (hown : (.handleHostConnectRequest peerId pd :: callers : Multiset Proc) ≤ M) :
    AdmissionsKept (.handleHostConnectRequest peerId pd) callers
      (Action.handleHostConnectRequest peerId pd) s M := by
  have hfail : forall error data,
      (Action.sendConnectHostFail peerId error data).Uses withoutAdmitting := by
    intro error data
    unfold Action.sendConnectHostFail
    exact Action.uses_bind (by simp [Command.isPlain]) fun _ => by
      simp [Command.isPlain]
  apply wp_assertedPeer trivial ⟨trivial, fun _ _ => trivial⟩
  intro peer hpeer
  apply Contract.wp_get
  split
  · exact hown
  split
  · exact admissions_rest (hfail _ _) hown
  apply wp_fetch (fun _ => trivial)
  intro request hrequest
  split
  · exact admissions_rest (hfail _ _) hown
  apply admissions_before (by simp [Command.isPlain]) hown
  intro _ s₁ M₁ hown₁
  apply admissions_before (by simp [Command.isPlain]) hown₁
  intro _ s₂ M₂ hown₂
  apply admissions_before (by simp [Command.isPlain]) hown₂
  intro ic s₃ M₃ hown₃
  apply admissions_before _ hown₃
  · intro _ s₄ M₄ hown₄
    apply wp_renewPeer
    · intro renewed _
      split
      · exact admitPlayer_admissions
      · exact admissions_rest (hfail _ _) hown₄
    · exact fun _ => hown₄
  · unfold Action.returnBuffer
    apply Uses.onlyIf
    intro _
    exact Action.uses_bind (by simp [Command.isPlain]) fun _ => by simp

theorem handleConnectPeer_admissions
    (hown : (.handleConnectPeer peerId pd :: callers : Multiset Proc) ≤ M) :
    AdmissionsKept (.handleConnectPeer peerId pd) callers
      (Action.handleConnectPeer peerId pd) s M := by
  have hfail : forall error,
      (Action.sendConnectPeerFail peerId error).Uses withoutAdmitting := by
    intro error
    unfold Action.sendConnectPeerFail
    exact Action.uses_bind (by simp [Command.isPlain]) fun _ => by
      simp [Command.isPlain]
  apply wp_assertedPeer trivial ⟨trivial, fun _ _ => trivial⟩
  intro peer hpeer
  apply Contract.wp_get
  split
  · exact hown
  split
  · exact admissions_rest (hfail _) hown
  rename_i hstate
  have hs : s.state = .connected := not_ne_iff.mp hstate
  apply wp_fetch (fun _ => trivial)
  intro request hrequest
  split
  · exact admissions_rest (hfail _) hown
  refine admissions_timely rfl rfl hs (by simp) ?_
  intro _ s₁ hs₁
  refine admissions_timely rfl rfl hs₁ (by simp) ?_
  intro _ s₂ hs₂
  split
  · exact admissions_rest (hfail _) hown
  refine admissions_timely rfl rfl hs₂ (by simp) ?_
  intro _ s₃ hs₃
  refine admissions_timely rfl rfl hs₃ (by simp) ?_
  intro _ s₄ hs₄
  refine admissions_timely rfl rfl hs₄ (sendGroups_kept fun _ _ => by simp) ?_
  intro _ s₅ hs₅
  refine admissions_timely rfl rfl hs₅ (by simp) ?_
  intro _ s₆ hs₆
  apply admissions_announce (hs₆ ▸ rfl)
  intro cp s₇ M₇ hown₇
  exact admissions_rest
    (Action.uses_renewPeer fun _ => by simp [Command.isPlain]) hown₇

theorem joinGroups_playerless {next : Action Unit} {groups : List DPNID}
    (hnext : next.Uses withoutAdmitting) :
    (Action.joinGroups peerId next groups).Uses withoutAdmitting :=
  Action.uses_joinGroups (fun _ _ => rfl) (fun _ _ _ _ => rfl) trivial trivial
    hnext

theorem handleConnectPeerOk_admissions
    (hown : (.handleConnectPeerOk peerId pd :: callers : Multiset Proc) ≤ M)
    (hexpected : (Proc.handleConnectPeerOk peerId pd).Expected s) :
    AdmissionsKept (.handleConnectPeerOk peerId pd) callers
      (Action.handleConnectPeerOk peerId pd) s M := by
  apply wp_assertedPeer trivial ⟨trivial, fun _ _ => trivial⟩
  intro peer hpeer
  apply Contract.wp_get
  split
  · exact hown
  rename_i hrequesting
  apply admissions_kept (Action.uses_assertThat (by simp [Command.isPlain]))
  intro _ s₁ hs₁
  apply wp_fetch (fun _ => trivial)
  intro ok hok
  have hs : s.state = .connectingToPeers := by
    apply hexpected
    refine ⟨?_, ?_⟩
    · simp_all
    · simp [hok, Except.toOption]
  rw [← hs₁] at hs
  refine admissions_timely rfl rfl hs (by simp) ?_
  intro _ s₂ hs₂
  refine admissions_timely rfl rfl hs₂ (by simp) ?_
  intro _ s₃ hs₃
  refine admissions_timely rfl rfl hs₃ (by simp) ?_
  intro _ s₄ hs₄
  apply admissions_announce (hs₄ ▸ rfl)
  intro cp s₅ M₅ hown₅
  apply wp_renewPeer
  · intro renewed _
    apply admissions_before (by simp [Command.isPlain]) hown₅
    intro _ s₆ M₆ hown₆
    exact admissions_rest (joinGroups_playerless (by simp)) hown₆
  · exact fun _ => hown₅

theorem handleHostConnectOk_admissions
    (hown : (.handleHostConnectOk peerId pd :: callers : Multiset Proc) ≤ M)
    (hexpected : (Proc.handleHostConnectOk peerId pd).Expected s) :
    AdmissionsKept (.handleHostConnectOk peerId pd) callers
      (Action.handleHostConnectOk peerId pd) s M := by
  apply wp_assertedPeer trivial ⟨trivial, fun _ _ => trivial⟩
  intro peer hpeer
  apply Contract.wp_get
  split
  · exact hown
  rename_i hrequesting
  apply admissions_kept (Action.uses_assertThat (by simp [Command.isPlain]))
  intro _ s₁ hs₁
  apply wp_fetch (fun _ => trivial)
  intro ok hok
  have hs : s.state = .connectingToHost := by
    apply hexpected
    refine ⟨?_, ?_⟩
    · simp_all
    · simp [hok, Except.toOption]
  rw [← hs₁] at hs
  clear hs₁
  iterate 11
    apply admissions_kept (by simp [Command.isPlain])
    intro _ s₂ hs₂
    rw [← hs₂] at hs
    clear hs₂
    rename DirectPlay8Peer => s₁
  -- the host becomes a player, and only then the state changes
  apply admissions_perform
  · exact fun _ => congrArg some hs.symm
  intro _
  apply admissions_perform
  · exact fun _ => trivial
  intro _
  apply Contract.wp_get
  apply admissions_announce rfl
  intro cp s₃ M₃ hown₃
  apply admissions_perform
  · exact fun _ => trivial
  intro hcond
  apply wp_peerAt trivial
  intro renewed hrenewed
  apply admissions_announce
  · rcases hcond with hpeers | hgone
    · exact congrArg some hpeers.symm
    · simp_all [Command.apply, LocalCommand.apply]
  intro cp' s₄ M₄ hown₄
  apply wp_renewPeer
  · intro renewed' _
    apply admissions_before (by simp [Command.isPlain]) hown₄
    intro _ s₅ M₅ hown₅
    refine admissions_rest (joinGroups_playerless ?_) hown₅
    exact Action.uses_connectToPeers rfl (fun _ _ _ _ _ => rfl) trivial rfl rfl
  · exact fun _ => hown₄

theorem startHosting_admissions {args : HostArgs}
    (hown : (.host args :: callers : Multiset Proc) ≤ M) :
    AdmissionsKept (.host args) callers
      (Action.startHosting args.playerCtx) s M := by
  iterate 5
    apply admissions_before (by simp [Command.isPlain]) hown
    clear hown
    intro _ s' M' hown
    rename DirectPlay8Peer => s
  apply admissions_perform
  · exact fun _ => trivial
  intro _
  apply Contract.wp_get
  apply admissions_announce rfl
  intro cp s₁ M₁ hown₁
  apply admissions_rest _ hown₁
  exact Action.uses_bind (by simp [Command.isPlain]) fun _ => by
    simp [Command.isPlain]

theorem host_admissions {args : HostArgs}
    (hown : (.host args :: callers : Multiset Proc) ≤ M) :
    AdmissionsKept (.host args) callers (Action.host args) s M := by
  have hsocket : forall which sock,
      withoutAdmitting.commands (.setSocket which sock) := fun _ _ => rfl
  have hstart : forall (port : UInt16) (s : DirectPlay8Peer) M,
      (.host args :: callers : Multiset Proc) ≤ M ->
      AdmissionsKept (.host args) callers (Action.hostOn args port) s M := by
    intro port s M hown
    apply admissions_before
      (Action.uses_createHostSockets hsocket fun _ => rfl) hown
    intro _ s₁ M₁ hown₁
    apply Contract.wp_get
    split
    · exact admissions_rest (by simp [Command.isPlain]) hown₁
    apply admissions_before Action.uses_selectMainSockets hown₁
    intro selected s₂ M₂ hown₂
    split
    · exact admissions_rest (by simp [Command.isPlain]) hown₂
    apply admissions_before (Action.uses_openDiscovery hsocket) hown₂
    intro opened s₃ M₃ hown₃
    split
    · exact admissions_rest (by simp [Command.isPlain]) hown₃
    · exact startHosting_admissions hown₃
  apply Contract.wp_get
  split
  case h_6 | h_7 | h_8 | h_9 =>
    split
    · exact admissions_rest (by simp [Command.isPlain]) hown
    apply admissions_before (by simp) hown
    intro created s₁ M₁ hown₁
    apply admissions_before (by simp [Command.isPlain]) hown₁
    intro _ s₂ M₂ hown₂
    split
    · exact admissions_rest (by simp [Command.isPlain]) hown₂
    apply admissions_before (by simp [Command.isPlain]) hown₂
    intro _ s₃ M₃ hown₃
    apply admissions_before
      (Action.uses_setDescription (fun _ => rfl) trivial) hown₃
    intro _ s₄ M₄ hown₄
    split
    · exact admissions_rest (by simp [Command.isPlain]) hown₄
    apply admissions_before (by simp [Command.isPlain]) hown₄
    intro _ s₅ M₅ hown₅
    exact hstart _ s₅ M₅ hown₅
  all_goals exact admissions_rest (by simp [Command.isPlain]) hown

theorem Proc.announces_none {p : Proc} (hp : p.announcesIn = none) :
    p.accepts = false ∧ .createPlayer ∉ p.kinds ∧
      .connected ∉ p.assignsPeer ∧ .connected ∉ p.inserts := by
  cases p <;> first
    | (simp; done)
    | cases hp

theorem Proc.isPlain_of_announces {p : Proc} {command : Command}
    (hp : p.announcesIn = none)
    (h : command.kind ∈ p.kinds ∧ p.Fits command) :
    command.isPlain = true := by
  rcases h with ⟨hkind, hfits⟩
  rcases Proc.announces_none hp with ⟨haccepts, hcreates, hassigns, hinserts⟩
  unfold Command.isPlain
  split
  · rw [bne_iff_ne]
    rintro rfl
    exact hassigns hfits
  · rw [Bool.not_eq_true', ← Bool.not_eq_true]
    intro hreply
    rw [hfits.2.1 hreply] at haccepts
    cases haccepts
  · exact absurd hkind hcreates
  · rw [bne_iff_ne]
    rintro rfl
    exact hinserts hfits
  · rfl

theorem admissions_body {p : Proc}
    (hown : (p :: callers : Multiset Proc) ≤ M) (hexpected : p.Expected s) :
    AdmissionsKept p callers p.body s M := by
  cases hp : p.announcesIn with
  | some state =>
      cases p <;> try cases hp
      · exact host_admissions hown
      · exact handleHostConnectRequest_admissions hown
      · exact handleHostConnectOk_admissions hown hexpected
      · exact handleConnectPeer_admissions hown
      · exact handleConnectPeerOk_admissions hown hexpected
  | none =>
      refine Contract.wp_mono (Contract.wp_of_uses (I := fun _ _ => True)
        p.body_uses (fun _ _ _ _ => ⟨trivial, trivial⟩) (fun _ _ _ _ => trivial)
        ?_ ?_ ?_ (fun _ _ => trivial) hown trivial) fun _ _ _ h => h.1
      · intro command s M hcommand _ _ _
        exact ⟨⟨Proc.timely_of_plain (Proc.isPlain_of_announces hp hcommand),
          fun _ _ => trivial⟩, trivial⟩
      · intro callee s M _ _ hcond
        exact ⟨hcond, fun _ _ _ _ => trivial⟩
      · intro child s M hspawn _ _
        refine ⟨fun _ _ _ _ _ _ _ => Proc.expected_of_admitsIn ?_, trivial⟩
        cases child <;> first | rfl | cases hspawn

end Handlers

theorem admissionContract_valid :
    admissionContract.Valid DirectPlay8Peer.Constructed where
  initial := fun _ _ => ⟨trivial, trivial⟩
  start := by
    intro p s M hentry _ _ _
    apply Proc.expected_of_admitsIn
    cases p <;> first | rfl | cases hentry
  body := fun _ _ _ _ hown hpre =>
    Contract.wp_mono (admissions_body hown hpre)
      fun _ _ _ _ => ⟨⟨trivial, trivial⟩, fun _ _ => trivial⟩

/-!
## Runs
-/

section Runs

theorem Proc.Timely.hasPlayer {p : Proc} {command : Command}
    {s : DirectPlay8Peer} {peerId : UInt32} (h : p.Timely command s)
    (hafter : (command.apply s).HasPlayer peerId)
    (hbefore : ¬ s.HasPlayer peerId) : p.admitsIn = some s.state := by
  rcases Option.any_eq_true _ _ |>.mp hafter with ⟨peer, hpeer, hconnected⟩
  have hconnected : peer.state = .connected := by simpa using hconnected
  rcases Command.peer_cases hpeer with hsame | ⟨change, before, rfl, hwas, rfl⟩ |
    ⟨state, _, _, _, _, rfl, _, rfl⟩
  · refine absurd ?_ hbefore
    simp [DirectPlay8Peer.HasPlayer, hsame, hconnected]
  · rcases change.apply_state s.nextAddr before with ⟨state, rfl⟩ | hkept
    · cases hconnected
      exact h
    · refine absurd ?_ hbefore
      simp [DirectPlay8Peer.HasPlayer, hwas, ← hkept, hconnected]
  · exact absurd hconnected h

variable {c c' : Run} {label : StepLabel}

/-- Players are only gained in the states in which they may be. -/
theorem players_admitted_in_time
    (h : Reaches machine DirectPlay8Peer.Constructed AdmissionGuarded c)
    (hstep : Step machine c label c')
    (hguarded : AdmissionGuarded c.state c.activations label) :
    AdmitsInTime c.state c'.state label where
  entered := by
    intro peerId hafter hbefore
    rcases admissionContract_valid.guar h hstep hguarded with
      hsame | ⟨p, command, hlabel, htimely, happlied⟩
    · rw [hsame] at hafter
      exact absurd hafter hbefore
    · rw [happlied] at hafter
      exact ⟨p, command, hlabel, Proc.Timely.hasPlayer htimely hafter hbefore⟩
  announced := by
    rintro p player ctx rfl
    exact (admissionContract_valid.exec h hstep hguarded).1
  replied := by
    rintro p peerId priority packet handle callback rfl
    exact (admissionContract_valid.exec h hstep hguarded).1

def StepLabel.connectsPeer : StepLabel -> Bool
  | .exec (.handleHostConnectRequest ..) (.peer _ (.setState .connected)) => true
  | _ => false

/-- A host lets a client in. -/
theorem player_admitted_hosting :
    exists (c c' : Run) (label : StepLabel),
      Reaches machine DirectPlay8Peer.Constructed AdmissionGuarded c ∧
        c'.state.HasPlayer 0 ∧ ¬ c.state.HasPlayer 0 ∧
        AdmitsInTime c.state c'.state label := by
  have hrun : (replayTo AdmissionGuarded StepLabel.connectsPeer choicesIndicate
      (.resume 0 {})).any
      (fun q => decide (q.2.state.HasPlayer 0 ∧ ¬ q.1.state.HasPlayer 0)) = true := by
    decide +kernel
  rcases replayTo_step hrun with ⟨c, c', label, hc, hwanted, hstep, htest⟩
  have hplayer := of_decide_eq_true htest
  refine ⟨c, c', label, hc, hplayer.1, hplayer.2,
    players_admitted_in_time hc hstep ?_⟩
  unfold StepLabel.connectsPeer at hwanted
  split at hwanted
  · trivial
  · cases hwanted

/-- A host lets a client in after the application has ended the session. -/
theorem player_admitted_terminated :
    ¬ forall (c c' : Run) (label : StepLabel),
      Reaches machine DirectPlay8Peer.Constructed Unrestricted c ->
      Step machine c label c' -> AdmitsInTime c.state c'.state label := by
  intro hclaim
  have hrun : (replayTo Unrestricted StepLabel.connectsPeer
      (choicesIndicate ++ [.start (.terminateSession [])]) (.resume 0 {})).any
      (fun q => q.1.state.state == .terminated &&
        decide (q.2.state.HasPlayer 0 ∧ ¬ q.1.state.HasPlayer 0)) = true := by
    decide +kernel
  rcases replayTo_step hrun with ⟨c, c', label, hc, hwanted, hstep, htest⟩
  rw [Bool.and_eq_true, beq_iff_eq] at htest
  have hplayer := of_decide_eq_true htest.2
  rcases (hclaim c c' label hc hstep).entered 0 hplayer.1 hplayer.2 with
    ⟨p, command, rfl, hadmits⟩
  rw [htest.1] at hadmits
  cases p <;> cases hadmits

end Runs

end DirectPlayLite
