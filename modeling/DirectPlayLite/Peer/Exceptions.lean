import DirectPlayLite.Peer.States

/-!
# Exceptions

A field that is missing, of the wrong type or of the wrong length makes the
deserialiser throw, and nothing above the handlers catches.  Most handlers read
their packet inside of a `try` block; five do not, and let the exception through
where they get as far as reading the field.
-/

namespace DirectPlayLite

open Monitor Program

/-!
## Conditions
-/

def Readable {α : Type} (fields : Except PacketError α) : Prop :=
  fields.toOption.isSome = true

instance {α : Type} {fields : Except PacketError α} :
    Decidable (Readable fields) := inferInstanceAs (Decidable (_ = true))

namespace Action

def decodeHostEnumRequest (s : DirectPlay8Peer) (pd : PacketDeserialiser) :
    Except PacketError Unit := do
  let wanted ← nullOr pd 0 s.applicationGuid (pd.getGuid 0)
  if s.applicationGuid ≠ wanted then
    return ()
  let _ ← nullOr pd 1 [] (pd.getData 1)
  let _ ← pd.getDword 2

end Action

/--
Where a handler that does not catch gets as far as reading its packet, the packet
can be read.
-/
def Proc.Reads (s : DirectPlay8Peer) : Proc -> Prop
  | .handleHostEnumRequest pd _ =>
      s.state = .hosting -> Readable (Action.decodeHostEnumRequest s pd)
  | .handleHostConnectRequest peerId pd =>
      s.PeerIn peerId .accepted -> s.state = .hosting ->
        Readable (Action.decodeConnectHost s pd)
  | .handleHostConnectOk peerId pd =>
      s.PeerIn peerId .requestingHost ->
        Readable (Action.decodeConnectHostOk pd)
  | .handleConnectPeer peerId pd =>
      s.PeerIn peerId .accepted -> s.state = .connected ->
        Readable (Action.decodeConnectPeer s pd)
  | .handleConnectPeerOk peerId pd =>
      s.PeerIn peerId .requestingPeer ->
        Readable (Action.decodeConnectPeerOk pd)
  | _ => True

instance {s : DirectPlay8Peer} {p : Proc} : Decidable (p.Reads s) := by
  apply Proc.casesOn (motive := fun p => Decidable (p.Reads s))
  all_goals
    intros
    dsimp only [Proc.Reads]
    infer_instance

/-- Packets that are read outside of a `try` block can be read. -/
def ReadsGuarded (s : DirectPlay8Peer) (_ : Multiset Proc) : StepLabel -> Prop
  | .call _ callee => callee.Reads s
  | _ => True

instance {s : DirectPlay8Peer} {M : Multiset Proc} {label : StepLabel} :
    Decidable (ReadsGuarded s M label) := by
  apply Label.casesOn (motive := fun label => Decidable (ReadsGuarded s M label))
  all_goals
    intros
    dsimp only [ReadsGuarded]
    infer_instance

def exceptionContract : Contract machine where
  cond := ReadsGuarded
  inv := fun _ _ => True
  free := fun _ => True
  guar := fun _ _ _ => True
  rely := fun _ _ _ => True
  pre := fun p s _ => p.Reads s
  post := fun _ _ _ _ => True
  faults := fun fault => ¬ fault.IsException
  rely_refl := fun _ _ => trivial
  rely_trans := fun _ _ _ _ _ _ => trivial

/-!
## Rules
-/

def catching : Footprint Command Proc Fault where
  commands := fun _ => True
  releases := True
  calls := fun callee => callee.readsUnguarded = false
  spawns := fun child => child.readsUnguarded = false
  faults := fun fault => ¬ fault.IsException

@[simp] theorem catching_commands {command : Command} :
    catching.commands command ↔ True := Iff.rfl

@[simp] theorem catching_releases : catching.releases ↔ True := Iff.rfl

@[simp] theorem catching_calls {callee : Proc} :
    catching.calls callee ↔ callee.readsUnguarded = false := Iff.rfl

@[simp] theorem catching_spawns {child : Proc} :
    catching.spawns child ↔ child.readsUnguarded = false := Iff.rfl

@[simp] theorem catching_faults {fault : Fault} :
    catching.faults fault ↔ ¬ fault.IsException := Iff.rfl

section Rules

variable {p : Proc} {callers : List Proc} {s : DirectPlay8Peer}
  {M : Multiset Proc} {α : Type}

theorem Proc.reads_of_guarded (h : p.readsUnguarded = false) : p.Reads s := by
  cases p <;> trivial

abbrev ExceptionsKept (p : Proc) (callers : List Proc) (prog : Action α)
    (s : DirectPlay8Peer) (M : Multiset Proc) : Prop :=
  exceptionContract.wp p callers prog
    (fun _ _ M' => (p :: callers : Multiset Proc) ≤ M') s M

theorem exceptions_rest {prog : Action α} (huses : prog.Uses catching)
    (hown : (p :: callers : Multiset Proc) ≤ M) :
    ExceptionsKept p callers prog s M := by
  refine Contract.wp_mono (Contract.wp_of_uses (I := fun _ _ => True) huses
    (fun _ _ _ _ => ⟨trivial, trivial⟩) (fun _ _ _ _ => trivial) ?_ ?_ ?_
    (fun _ h => h) hown trivial) fun _ _ _ h => h.1
  · intro command s M _ _ _ _
    exact ⟨⟨trivial, fun _ _ => trivial⟩, trivial⟩
  · intro callee s M hcall _ _
    exact ⟨Proc.reads_of_guarded hcall, fun _ _ _ _ => trivial⟩
  · intro child s M hspawn _ _
    exact ⟨fun _ _ _ _ _ _ _ => Proc.reads_of_guarded hspawn, trivial⟩

theorem exceptions_fetch {β : Type} {field : Except PacketError α}
    {f : α -> Action β} (hreadable : Readable field)
    (hnext : forall value, field = .ok value ->
      ExceptionsKept p callers (f value) s M) :
    ExceptionsKept p callers (Action.fetch field >>= f) s M := by
  cases field with
  | error error => cases hreadable
  | ok value => exact hnext value rfl

theorem exceptions_asserted {peerId : UInt32} {f : Peer -> Action Unit}
    (hnext : forall peer, s.peers[peerId]? = some peer ->
      ExceptionsKept p callers (f peer) s M) :
    ExceptionsKept p callers (Action.assertedPeer peerId >>= f) s M :=
  wp_assertedPeer (fun h => h) ⟨trivial, fun _ _ => trivial⟩ hnext

theorem exceptions_assert {assertion : Assertion} {condition : Prop}
    [Decidable condition] {f : Unit -> Action Unit}
    (hnext : forall s', ExceptionsKept p callers (f ()) s' M) :
    ExceptionsKept p callers (Action.assertThat assertion condition >>= f) s
      M := by
  unfold ExceptionsKept
  rw [bind_eq, Contract.wp_bind]
  apply Contract.wp_onlyIf
  · intro _ _
    exact ⟨⟨trivial, fun _ _ => trivial⟩, hnext _⟩
  · intro _
    exact hnext s

end Rules

/-!
## The handlers that do not catch
-/

section Handlers

variable {callers : List Proc} {s : DirectPlay8Peer} {M : Multiset Proc}
  {peerId : UInt32} {pd : PacketDeserialiser}

theorem decodeHostEnumRequest_readable
    (h : Readable (Action.decodeHostEnumRequest s pd)) :
    exists wanted,
      Action.nullOr pd 0 s.applicationGuid (pd.getGuid 0) = .ok wanted ∧
      (s.applicationGuid = wanted ->
        Readable (Action.nullOr pd 1 [] (pd.getData 1)) ∧
          Readable (pd.getDword 2)) := by
  unfold Action.decodeHostEnumRequest at h
  cases hwanted : Action.nullOr pd 0 s.applicationGuid (pd.getGuid 0) with
  | error error =>
      rw [hwanted] at h
      cases h
  | ok wanted =>
      refine ⟨wanted, rfl, ?_⟩
      rintro rfl
      rw [hwanted] at h
      cases hdata : Action.nullOr pd 1 [] (pd.getData 1) with
      | error error =>
          simp [hdata, Bind.bind, Except.bind, Readable, Except.toOption] at h
      | ok data =>
          cases htick : pd.getDword 2 with
          | error error =>
              simp [hdata, htick, Bind.bind, Except.bind, Readable,
                Except.toOption] at h
          | ok tick => exact ⟨rfl, rfl⟩

theorem handleHostEnumRequest_exceptions {sender : SockAddr}
    (hown : (.handleHostEnumRequest pd sender :: callers : Multiset Proc) ≤ M)
    (hreads : (Proc.handleHostEnumRequest pd sender).Reads s) :
    ExceptionsKept (.handleHostEnumRequest pd sender) callers
      (Action.handleHostEnumRequest pd sender) s M := by
  apply Contract.wp_get
  split
  · exact hown
  rename_i hstate
  rcases decodeHostEnumRequest_readable (hreads (not_ne_iff.mp hstate)) with
    ⟨wanted, hwanted, hrest⟩
  apply exceptions_fetch (by simp [hwanted, Readable, Except.toOption])
  intro read hread
  cases hwanted.symm.trans hread
  split
  · exact hown
  rename_i hours
  have hreadable := hrest (not_ne_iff.mp hours)
  apply exceptions_fetch hreadable.1
  intro data _
  apply exceptions_fetch hreadable.2
  intro tick _
  apply exceptions_rest _ hown
  unfold Action.returnBuffer
  repeat' with_reducible first
    | apply Uses.onlyIf
    | apply Action.uses_bind
    | intro _
    | split
  all_goals simp

theorem handleHostConnectRequest_exceptions
    (hown : (.handleHostConnectRequest peerId pd :: callers : Multiset Proc) ≤ M)
    (hreads : (Proc.handleHostConnectRequest peerId pd).Reads s) :
    ExceptionsKept (.handleHostConnectRequest peerId pd) callers
      (Action.handleHostConnectRequest peerId pd) s M := by
  have hfail : forall error data,
      (Action.sendConnectHostFail peerId error data).Uses catching := by
    intro error data
    exact Action.uses_bind (by simp) fun _ => by simp
  apply exceptions_asserted
  intro peer hpeer
  apply Contract.wp_get
  split
  · exact hown
  rename_i haccepted
  split
  · exact exceptions_rest (hfail _ _) hown
  rename_i hstate
  apply exceptions_fetch (hreads (by simp_all [DirectPlay8Peer.PeerIn])
    (not_ne_iff.mp hstate))
  intro request _
  split
  · exact exceptions_rest (hfail _ _) hown
  apply exceptions_rest _ hown
  unfold Action.returnBuffer Action.admitPlayer Action.sendGroups
  repeat' with_reducible first
    | apply Action.uses_renewPeer
    | apply Uses.onlyIf
    | apply Uses.forEach
    | apply Action.uses_bind
    | intro _
    | split
  all_goals simp [hfail]

theorem handleHostConnectOk_exceptions
    (hown : (.handleHostConnectOk peerId pd :: callers : Multiset Proc) ≤ M)
    (hreads : (Proc.handleHostConnectOk peerId pd).Reads s) :
    ExceptionsKept (.handleHostConnectOk peerId pd) callers
      (Action.handleHostConnectOk peerId pd) s M := by
  apply exceptions_asserted
  intro peer hpeer
  apply Contract.wp_get
  split
  · exact hown
  rename_i hrequesting
  apply exceptions_assert
  intro s₁
  apply exceptions_fetch (hreads (by simp_all [DirectPlay8Peer.PeerIn]))
  intro ok _
  apply exceptions_rest _ hown
  repeat' with_reducible first
    | apply Action.uses_peerAt
    | apply Action.uses_renewPeer
    | apply Action.uses_joinGroups
    | apply Action.uses_connectToPeers
    | apply Action.uses_bind
    | intro _
  all_goals simp

theorem handleConnectPeer_exceptions
    (hown : (.handleConnectPeer peerId pd :: callers : Multiset Proc) ≤ M)
    (hreads : (Proc.handleConnectPeer peerId pd).Reads s) :
    ExceptionsKept (.handleConnectPeer peerId pd) callers
      (Action.handleConnectPeer peerId pd) s M := by
  have hfail : forall error,
      (Action.sendConnectPeerFail peerId error).Uses catching := by
    intro error
    exact Action.uses_bind (by simp) fun _ => by simp
  apply exceptions_asserted
  intro peer hpeer
  apply Contract.wp_get
  split
  · exact hown
  rename_i haccepted
  split
  · exact exceptions_rest (hfail _) hown
  rename_i hstate
  apply exceptions_fetch (hreads (by simp_all [DirectPlay8Peer.PeerIn])
    (not_ne_iff.mp hstate))
  intro request _
  split
  · exact exceptions_rest (hfail _) hown
  apply exceptions_rest _ hown
  unfold Action.sendGroups
  repeat' with_reducible first
    | apply Action.uses_renewPeer
    | apply Uses.forEach
    | apply Action.uses_bind
    | intro _
    | split
  all_goals simp [hfail]

theorem handleConnectPeerOk_exceptions
    (hown : (.handleConnectPeerOk peerId pd :: callers : Multiset Proc) ≤ M)
    (hreads : (Proc.handleConnectPeerOk peerId pd).Reads s) :
    ExceptionsKept (.handleConnectPeerOk peerId pd) callers
      (Action.handleConnectPeerOk peerId pd) s M := by
  apply exceptions_asserted
  intro peer hpeer
  apply Contract.wp_get
  split
  · exact hown
  rename_i hrequesting
  apply exceptions_assert
  intro s₁
  apply exceptions_fetch (hreads (by simp_all [DirectPlay8Peer.PeerIn]))
  intro ok _
  apply exceptions_rest _ hown
  repeat' with_reducible first
    | apply Action.uses_renewPeer
    | apply Action.uses_joinGroups
    | apply Action.uses_bind
    | intro _
  all_goals simp

theorem exceptions_body {p : Proc}
    (hown : (p :: callers : Multiset Proc) ≤ M) (hreads : p.Reads s) :
    ExceptionsKept p callers p.body s M := by
  cases hp : p.readsUnguarded with
  | true =>
      cases p <;> try cases hp
      · exact handleHostEnumRequest_exceptions hown hreads
      · exact handleHostConnectRequest_exceptions hown hreads
      · exact handleHostConnectOk_exceptions hown hreads
      · exact handleConnectPeer_exceptions hown hreads
      · exact handleConnectPeerOk_exceptions hown hreads
  | false =>
      refine Contract.wp_mono (Contract.wp_of_uses (I := fun _ _ => True)
        p.body_uses (fun _ _ _ _ => ⟨trivial, trivial⟩) (fun _ _ _ _ => trivial)
        ?_ ?_ ?_ ?_ hown trivial) fun _ _ _ h => h.1
      · intro command s M _ _ _ _
        exact ⟨⟨trivial, fun _ _ => trivial⟩, trivial⟩
      · intro callee s M _ _ hcond
        exact ⟨hcond, fun _ _ _ _ => trivial⟩
      · intro child s M hspawn _ _
        refine ⟨fun _ _ _ _ _ _ _ => Proc.reads_of_guarded ?_, trivial⟩
        cases child <;> first | rfl | cases hspawn
      · intro fault hfault hexception
        rw [hfault hexception] at hp
        cases hp

end Handlers

theorem exceptionContract_valid :
    exceptionContract.Valid DirectPlay8Peer.Constructed where
  initial := fun _ _ => ⟨trivial, trivial⟩
  start := by
    intro p s M hentry _ _ _
    apply Proc.reads_of_guarded
    cases p <;> first | rfl | cases hentry
  body := fun _ _ _ _ hown hpre =>
    Contract.wp_mono (exceptions_body hown hpre)
      fun _ _ _ _ => ⟨⟨trivial, trivial⟩, fun _ _ => trivial⟩

/-!
## Runs
-/

/-- No exception of a deserialiser leaves a handler. -/
theorem no_unhandled_exception {c : Run}
    (h : Reaches machine DirectPlay8Peer.Constructed ReadsGuarded c)
    (error : PacketError) : c.fault ≠ some (.unhandledException error) := by
  intro hfault
  exact exceptionContract_valid.fault h hfault trivial

/-- A host reads the request of a client, and asks the application. -/
theorem no_unhandled_exception_indicating :
    exists c : Run,
      Reaches machine DirectPlay8Peer.Constructed ReadsGuarded c ∧
        c.state.PeerIn 0 .indicating ∧
        forall error, c.fault ≠ some (.unhandledException error) := by
  have hrun : (replay ReadsGuarded choicesIndicate).any
      (fun c => decide (c.state.PeerIn 0 .indicating)) = true := by
    decide +kernel
  rcases replay_reaches hrun with ⟨c, hc, hpeer⟩
  exact ⟨c, hc, of_decide_eq_true hpeer, no_unhandled_exception hc⟩

/-- A host receives a `HOST_ENUM_REQUEST` without any fields. -/
theorem unhandled_exception :
    ¬ forall c : Run,
      Reaches machine DirectPlay8Peer.Constructed Unrestricted c ->
      forall error, c.fault ≠ some (.unhandledException error) := by
  intro hclaim
  have hrun : (replay Unrestricted (choicesInitialise ++ choicesHost ++
      [.answer {}, .resume 0 {}, .start .handleUdpSocketEvent,
        .answer
          { ret := 8, bytes := (serialise msgidHostEnumRequest []).rawPacket },
        .answer {}])).any
      (fun c => decide (c.fault = some (.unhandledException .missingField))) = true := by
    decide +kernel
  rcases replay_reaches hrun with ⟨c, hc, hfault⟩
  exact hclaim c hc .missingField (of_decide_eq_true hfault)

end DirectPlayLite
