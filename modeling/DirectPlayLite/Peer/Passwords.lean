import DirectPlayLite.Lib.Monitor.Traces
import DirectPlayLite.Peer.Endings
import DirectPlayLite.Peer.Requests
import DirectPlayLite.Peer.Senders

/-!
# The password a client sends

`Connect` is given a password, and the `CONNECT_HOST` packet carries the one that is in
a member of the object.  Hosting, and the packets of an earlier session, store it there.
-/

namespace DirectPlayLite

open Monitor Program

/-!
## What a packet carries
-/

def isConnectHost (packet : List UInt8) : Bool :=
  LittleEndian.word32 (packet.take 4) == msgidConnectHost

theorem isConnectHost_serialise (type : UInt32) (calls : List Append) :
    isConnectHost (serialise type calls).rawPacket = (type == msgidConnectHost) := by
  rw [isConnectHost, serialise_rawPacket_take, LittleEndian.word32_bytes32]

def passwordField (password : WString) : Append :=
  if password ≠ [] then .wstring password else .null

/-- The checks in `handle_host_connect_request` get as far as the password. -/
structure ChecksPassword (host : DirectPlay8Peer) (pd : PacketDeserialiser) : Prop where
  instanceGuid :
    Action.nullOr pd 0 host.instanceGuid (pd.getGuid 0) = .ok host.instanceGuid
  applicationGuid : pd.getGuid 1 = .ok host.applicationGuid

def Carries (packet : List UInt8) (password : WString) : Prop :=
  forall (extra : List UInt8) (beyond : Memory), exists pd,
    PacketDeserialiser.Constructs 32 (bufferOf (packet ++ extra) beyond)
        (packet ++ extra).length (.ok pd) ∧
      pd.ReadsBack 2 (passwordField password) ∧
      forall host, ChecksPassword host pd ->
        (Action.decodeConnectHost host pd = .ok (.rejected dpnErrInvalidPassword) ↔
          password ≠ host.password)

section Packets

variable {pd : PacketDeserialiser} {sender host : DirectPlay8Peer}
  {password password' : WString}

theorem passwordField_unique {index : Nat}
    (h : pd.ReadsBack index (passwordField password))
    (h' : pd.ReadsBack index (passwordField password')) : password = password' := by
  unfold passwordField at h h'
  by_cases hsome : password = []
  · by_cases hsome' : password' = []
    · rw [hsome, hsome']
    · rw [if_neg (not_not.mpr hsome)] at h
      rw [if_pos hsome'] at h'
      cases h.1.symm.trans h'.1
  · by_cases hsome' : password' = []
    · rw [if_pos hsome] at h
      rw [if_neg (not_not.mpr hsome')] at h'
      cases h.1.symm.trans h'.1
    · rw [if_pos hsome] at h
      rw [if_pos hsome'] at h'
      cases h.getWstring.symm.trans h'.getWstring
      rfl

theorem decodeConnectHost_password
    (hholds : pd.Holds (Message.connectHost sender).fields)
    (hchecks : ChecksPassword host pd) :
    Action.decodeConnectHost host pd = .ok (.rejected dpnErrInvalidPassword) ↔
      sender.password ≠ host.password := by
  have hdecoded : Action.decodeConnectHost host pd =
      .ok (Message.connectHostAnswer sender host) :=
    Message.connectHost_recovered hholds
  have hinstance : Action.nullOr pd 0 host.instanceGuid (pd.getGuid 0) = .ok
      (if sender.instanceGuid ≠ guidNull then sender.instanceGuid
        else host.instanceGuid) := PacketDeserialiser.nullOr_guid (hholds 0 _ rfl)
  have happlication : pd.getGuid 1 = .ok sender.applicationGuid :=
    (hholds 1 _ rfl).getGuid
  have hsame : ¬(sender.instanceGuid ≠ guidNull ∧
      sender.instanceGuid ≠ host.instanceGuid) := by
    rintro ⟨hnull, hother⟩
    rw [if_pos hnull, hchecks.instanceGuid] at hinstance
    exact hother (Except.ok.inj hinstance).symm
  have hsame' : ¬sender.applicationGuid ≠ host.applicationGuid := by
    rw [hchecks.applicationGuid] at happlication
    exact not_not.mpr (Except.ok.inj happlication).symm
  rw [hdecoded, Message.connectHostAnswer, if_neg hsame, if_neg hsame']
  by_cases hpassword : sender.password = host.password
  · rw [if_neg (not_not.mpr hpassword)]
    simp [hpassword]
  · rw [if_pos hpassword]
    simp [hpassword]

theorem connectHostPacket_carries
    (h32 : (Action.connectHostPacket sender).rawPacket.length < 2 ^ 32) :
    Carries (Action.connectHostPacket sender).rawPacket password ↔
      sender.password = password := by
  have hpacket : Action.connectHostPacket sender =
      serialise msgidConnectHost (Message.connectHost sender).fields := rfl
  rw [hpacket] at h32 ⊢
  have hback := PacketDeserialiser.serialise_readsBack (Nat.le_refl 32)
    msgidConnectHost (Message.connectHost sender).fields h32
  have hholds : forall extra beyond, exists pd,
      PacketDeserialiser.Constructs 32
        (bufferOf ((serialise msgidConnectHost
          (Message.connectHost sender).fields).rawPacket ++ extra) beyond)
        ((serialise msgidConnectHost
          (Message.connectHost sender).fields).rawPacket ++ extra).length (.ok pd) ∧
        pd.Holds (Message.connectHost sender).fields := by
    intro extra beyond
    rcases hback extra beyond with ⟨pd, hpd, _, _, hreads⟩
    refine ⟨pd, hpd, ?_⟩
    intro index call hcall
    rcases List.getElem?_eq_some_iff.mp hcall with ⟨hindex, hget⟩
    rw [← hget]
    exact hreads index hindex
  constructor
  · intro hcarries
    rcases hcarries [] (fun _ => 0) with ⟨pd, hpd, hfield, _⟩
    rcases hholds [] (fun _ => 0) with ⟨pd', hpd', hfields⟩
    cases hpd.unique hpd'
    exact passwordField_unique (hfields 2 _ rfl) hfield
  · intro hpassword
    subst hpassword
    intro extra beyond
    rcases hholds extra beyond with ⟨pd, hpd, hfields⟩
    exact ⟨pd, hpd, hfields 2 _ rfl,
      fun host hchecks => decodeConnectHost_password hfields hchecks⟩

end Packets

/-!
## What runs have stored
-/

/-- The password that was stored last, empty when there was none. -/
def storedPassword : Deeds -> WString
  | [] => []
  | (_, .exec _ (.session (.setPassword password))) :: _ => password
  | _ :: past => storedPassword past

def MadeBy (past : Deeds) (args : ConnectArgs) (addr : Nat) : Prop :=
  exists s peerId sock ip port playerId,
    (s, .exec (.connect args)
      (.insertPeer peerId .connectingHost sock ip port playerId)) ∈ past ∧
    s.nextAddr = addr

section Runs

variable {past : Deeds} {c c' : Run}

theorem apply_password {command : Command} {s : DirectPlay8Peer}
    (h : forall password, command ≠ .session (.setPassword password)) :
    (command.apply s).password = s.password := by
  cases command with
  | peer peerId change =>
      simp only [Command.apply, Command.applyPeer]
      split <;> rfl
  | setSocket which sock => cases which <;> rfl
  | «local» change => cases change <;> rfl
  | connect change => cases change <;> rfl
  | session change =>
      cases change with
      | setPassword password => exact absurd rfl (h password)
      | _ => rfl
  | _ => rfl

theorem storedPassword_cons {s : DirectPlay8Peer} {label : StepLabel}
    (h : forall p password, label ≠ .exec p (.session (.setPassword password))) :
    storedPassword ((s, label) :: past) = storedPassword past := by
  rw [storedPassword]
  intro _ p password hlabel
  exact h p password (congrArg Prod.snd hlabel)

theorem password_stored (h : Traced machine DirectPlay8Peer.Constructed past c) :
    c.state.password = storedPassword past := by
  refine Traced.always (I := fun s past => s.password = storedPassword past) ?_ ?_ ?_ h
  · intro s hs
    exact hs.password
  · intro past c c' p command _ _ ih
    by_cases hstores : exists password, command = .session (.setPassword password)
    · rcases hstores with ⟨password, rfl⟩
      rfl
    · have hnot : forall password, command ≠ .session (.setPassword password) :=
        fun password hcommand => hstores ⟨password, hcommand⟩
      show (command.apply c.state).password = _
      rw [apply_password hnot, storedPassword_cons]
      · exact ih
      · intro p password hlabel
        cases hlabel
        exact hnot password rfl
  · intro s past label hlabel ih
    rw [storedPassword_cons]
    · exact ih
    · intro p password
      exact hlabel p _

theorem MadeBy.cons {args : ConnectArgs} {addr : Nat}
    {step : DirectPlay8Peer × StepLabel} (h : MadeBy past args addr) :
    MadeBy (step :: past) args addr := by
  rcases h with ⟨s, peerId, sock, ip, port, playerId, hmem, haddr⟩
  exact ⟨s, peerId, sock, ip, port, playerId, List.mem_cons_of_mem step hmem, haddr⟩

theorem attempted (h : Traced machine DirectPlay8Peer.Constructed past c)
    {peerId : UInt32} {peer : Peer} (hpeer : c.state.peers[peerId]? = some peer)
    (hstate : peer.state = .connectingHost) : exists args, MadeBy past args peer.addr := by
  revert peerId peer
  refine Traced.always (I := fun s past => forall {peerId : UInt32} {peer : Peer},
    s.peers[peerId]? = some peer -> peer.state = .connectingHost ->
      exists args, MadeBy past args peer.addr) ?_ ?_ ?_ h
  · intro s hs peerId peer hpeer _
    rw [hs.peers] at hpeer
    simp at hpeer
  · intro past c c' p command htraced hstep ih peerId peer hpeer hstate
    have huses : p.footprint.commands command :=
      htraced.reaches.exec_uses Proc.body_uses hstep
    have hfits : p.Fits command := huses.2
    rcases Command.peer_cases hpeer with hsame | ⟨change, before, rfl, hbefore, rfl⟩ |
      ⟨state, sock, ip, port, playerId, rfl, _, rfl⟩
    · rcases ih hsame hstate with ⟨args, hattempt⟩
      exact ⟨args, hattempt.cons⟩
    · rcases change.apply_state c.state.nextAddr before with ⟨state, rfl⟩ | hkept
      · have hassigned : state ∈ p.assignsPeer := hfits
        have hwaiting : state = .connectingHost := hstate
        rw [hwaiting] at hassigned
        cases p <;> simp at hassigned
      · rw [hkept] at hstate
        rcases ih hbefore hstate with ⟨args, hattempt⟩
        have haddr : (change.apply c.state.nextAddr before).addr = before.addr := by
          cases change <;> rfl
        rw [haddr]
        exact ⟨args, hattempt.cons⟩
    · have hinserted : state ∈ p.inserts := hfits
      have hwaiting : state = .connectingHost := hstate
      rw [hwaiting] at hinserted
      have hconnect : exists args, p = .connect args := by
        cases p with
        | connect args => exact ⟨args, rfl⟩
        | _ => simp at hinserted
      rcases hconnect with ⟨args, rfl⟩
      rw [hwaiting]
      exact ⟨args, c.state, peerId, sock, ip, port, playerId, List.mem_cons_self, rfl⟩
  · intro s past label _ ih peerId peer hpeer hstate
    rcases ih hpeer hstate with ⟨args, hattempt⟩
    exact ⟨args, hattempt.cons⟩

end Runs

/-!
## Who asks a host
-/

section Requests

variable {p : Proc} {callers : List Proc} {s : DirectPlay8Peer}
  {M : Multiset Proc} {peerId : UInt32} {packet : List UInt8}

def Announces (p : Proc) (command : Command) (s : DirectPlay8Peer) : Prop :=
  match p, command with
  | .ioPeerConnected peerId, .peer target (.send _ packet _ _) =>
      isConnectHost packet = true -> target = peerId ∧
        packet = (Action.connectHostPacket s).rawPacket ∧
          exists peer, s.peers[peerId]? = some peer ∧ peer.state = .connectingHost
  | _, _ => True

def Command.isQuiet : Command -> Bool
  | .peer _ (.send _ packet _ _) => ! isConnectHost packet
  | _ => true

theorem Command.announces_of_isQuiet {command : Command}
    (h : command.isQuiet = true) : Announces p command s := by
  unfold Announces
  split
  · intro hhost
    simp [isQuiet, hhost] at h
  · trivial

abbrev withoutPasswords : Footprint Command Proc Fault :=
  .running fun command => command.isQuiet = true

theorem announces_quiet {α : Type} {prog : Action α} (huses : prog.Uses withoutPasswords)
    (hown : (p :: callers : Multiset Proc) ≤ M) :
    (Contract.watching (m := machine) Announces).wp p callers prog
      (fun _ _ M' => (p :: callers : Multiset Proc) ≤ M') s M :=
  Contract.watching_uses huses (fun _ _ h => Command.announces_of_isQuiet h) hown

theorem ioPeerConnected_announces
    (hown : (.ioPeerConnected peerId :: callers : Multiset Proc) ≤ M) :
    (Contract.watching (m := machine) Announces).wp (.ioPeerConnected peerId)
      callers (Action.ioPeerConnected peerId) (fun _ _ _ => True) s M := by
  apply wp_assertedPeer trivial (Contract.watching_agrees trivial)
  intro peer _ option _ _
  dsimp only
  rw [ret_bind, Program.bind_eq, Contract.wp_bind]
  have hfailed : (onlyIf (option.ret ≠ 0)
      (invoke (.connectFail dpnErrGeneric [])) : Action Unit).Uses withoutPasswords :=
    Uses.onlyIf fun _ => Action.uses_invoke.mpr trivial
  refine Contract.wp_mono (announces_quiet hfailed hown) ?_
  intro _ s₁ M₁ hown₁
  apply wp_peerAt trivial
  intro renewed hrenewed
  apply Contract.wp_get
  split
  · split
    · rename_i hhost
      refine fun _ => ⟨Contract.watching_agrees ?_, ?_⟩
      · exact fun _ => ⟨rfl, rfl, renewed, hrenewed, hhost⟩
      · exact fun _ => ⟨Contract.watching_agrees trivial, trivial⟩
    · refine Contract.wp_mono (announces_quiet ?_ hown₁) fun _ _ _ _ => trivial
      split
      · refine Action.uses_bind ?_ fun _ => ?_
        · simp [Command.isQuiet, Action.connectPeerPacket,
            isConnectHost_serialise, msgidConnectPeer, msgidConnectHost]
        · simp [Command.isQuiet]
      · exact trivial
  · refine Contract.wp_mono (announces_quiet ?_ hown₁) fun _ _ _ _ => trivial
    split
    · exact Action.uses_invoke.mpr trivial
    · split
      · exact Action.uses_invoke.mpr trivial
      · exact trivial

theorem announces_valid :
    (Contract.watching (m := machine) Announces).Valid
      DirectPlay8Peer.Constructed := by
  apply Contract.watching_valid
  intro p callers s M hown
  show (Contract.watching (m := machine) Announces).wp p callers p.body
    (fun _ _ _ => True) s M
  cases p with
  | ioPeerConnected peerId => exact ioPeerConnected_announces hown
  | _ =>
      refine Contract.wp_mono (Contract.watching_uses (Proc.body_uses _)
        (fun command s _ => ?_) hown) fun _ _ _ _ => trivial
      unfold Announces
      split <;> trivial

theorem connectHost_sender {c c' : Run} {target : UInt32} {priority : SendPriority}
    {handle : DPNHANDLE} {callback : SendCallback}
    (hc : Reaches machine DirectPlay8Peer.Constructed Unrestricted c)
    (hstep : Step machine c
      (.exec p (.peer target (.send priority packet handle callback))) c')
    (hhost : isConnectHost packet = true) :
    p = .ioPeerConnected target ∧
      packet = (Action.connectHostPacket c.state).rawPacket ∧
        exists peer, c.state.peers[target]? = some peer ∧
          peer.state = .connectingHost := by
  have hsender : exists peerId, p = .ioPeerConnected peerId := by
    rcases puts_messages hc hstep rfl with ⟨m, hsends, rfl⟩ |
      ⟨_, _, _, _, _, _, rfl⟩
    · rw [m.packet_eq, isConnectHost_serialise, beq_iff_eq] at hhost
      cases hsends with
      | ioPeerConnectedHost => exact ⟨_, rfl⟩
      | _ => cases hhost
    · rw [Action.connectHostOkPacket, isConnectHost_serialise] at hhost
      cases hhost
  rcases hsender with ⟨peerId, rfl⟩
  rcases (announces_valid.exec hc hstep trivial).1 hhost with ⟨rfl, hrest⟩
  exact ⟨rfl, hrest⟩

end Requests

/-!
## Whose password it is
-/

@[simp] def Proc.storesPassword : Proc -> Bool
  | host .. | setApplicationDesc .. | handleHostConnectOk .. | handleAppdesc .. => true
  | _ => false

abbrev withoutStores : Footprint Command Proc Fault :=
  .running fun command => forall password, command ≠ .session (.setPassword password)

theorem connect_storeless (args : ConnectArgs) :
    (Proc.connect args).body.Uses withoutStores := by
  unfold Proc.body
  simp only [Action.connect, Action.connectTo, Action.closeMainSocket]
  repeat' with_reducible first
    | apply Action.uses_createAutoSockets
    | apply Action.uses_selectMainSockets
    | apply Action.uses_peerConnect
    | apply Uses.onlyIf
    | apply Action.uses_bind
    | intro _
    | split
  all_goals simp [withoutStores]

abbrev Proc.storeFootprint (p : Proc) : Footprint Command Proc Fault :=
  .running fun command => forall password,
    command = .session (.setPassword password) -> p.storesPassword = true

theorem body_storing (p : Proc) : p.body.Uses p.storeFootprint := by
  have hsession : (CommandKind.session ∈ p.kinds -> p.storesPassword = true) ->
      p.body.Uses p.storeFootprint := by
    intro hkinds
    refine Uses.mono p.body_uses ?_ (fun _ => trivial) (fun _ _ => trivial)
      (fun _ _ => trivial) (fun _ _ => trivial)
    rintro command hcommand password rfl
    exact hkinds hcommand.1
  cases p with
  | connect args =>
      refine Uses.mono (connect_storeless args) ?_ (fun _ => trivial)
        (fun _ _ => trivial) (fun _ _ => trivial) (fun _ _ => trivial)
      intro command hcommand password hstores
      exact absurd hstores (hcommand password)
  | _ => exact hsession (by simp)

section Runs

variable {past : Deeds} {c c' : Run} {p : Proc} {target : UInt32}
  {priority : SendPriority} {packet : List UInt8} {handle : DPNHANDLE}
  {callback : SendCallback}

theorem password_storer {password : WString}
    (hc : Reaches machine DirectPlay8Peer.Constructed Unrestricted c)
    (hstep : Step machine c (.exec p (.session (.setPassword password))) c') :
    p.storesPassword = true :=
  hc.exec_uses body_storing hstep password rfl

/--
The host that is asked by a `Connect` call finds the password of that call in the
packet if and only if it is the one that was stored in the object last.
-/
theorem connectHost_password
    (h : Traced machine DirectPlay8Peer.Constructed past c)
    (hstep : Step machine c
      (.exec p (.peer target (.send priority packet handle callback))) c')
    (hhost : isConnectHost packet = true) (h32 : packet.length < 2 ^ 32) :
    exists peer, c.state.peers[target]? = some peer ∧
      (exists args, MadeBy past args peer.addr) ∧
      forall args, MadeBy past args peer.addr ->
        (Carries packet args.password ↔ storedPassword past = args.password) := by
  rcases connectHost_sender h.reaches hstep hhost with
    ⟨_, rfl, peer, hpeer, hstate⟩
  refine ⟨peer, hpeer, attempted h hpeer hstate, ?_⟩
  intro args _
  rw [connectHostPacket_carries h32, password_stored h]

def StepLabel.asksHost : StepLabel -> Bool
  | .exec _ (.peer _ (.send _ packet _ _)) =>
      isConnectHost packet && packet.length < 2 ^ 32
  | _ => false

theorem StepLabel.asksHost_iff {label : StepLabel}
    (h : StepLabel.asksHost label = true) :
    exists p target priority packet handle callback,
      label = .exec p (.peer target (.send priority packet handle callback)) ∧
        isConnectHost packet = true ∧ packet.length < 2 ^ 32 := by
  unfold StepLabel.asksHost at h
  split at h
  · rename_i p target priority packet handle callback
    rw [Bool.and_eq_true, decide_eq_true_eq] at h
    exact ⟨p, target, priority, packet, handle, callback, rfl, h⟩
  · cases h

def GivesPassword (password : WString) (_ : DirectPlay8Peer) (_ : Multiset Proc)
    (label : StepLabel) : Prop :=
  match label with
  | .exec (.connect args) _ => args.password = password
  | _ => True

instance {password : WString} {s : DirectPlay8Peer} {M : Multiset Proc}
    {label : StepLabel} : Decidable (GivesPassword password s M label) := by
  unfold GivesPassword
  split <;> infer_instance

def choicesAsk (password : WString) : List (Choice Answer Proc) :=
  choicesInitialise ++ .start (.connect { plainConnect with password }) ::
    choicesConnect.tail ++ [.start (.ioPeerTriggered 0)]

def choicesHosted (password : WString) : List (Choice Answer Proc) :=
  choicesInitialise ++
    .start (.host { plainSession with
      appDesc.flags := dpnSessionNoDpnsvr ||| dpnSessionRequirePassword
      appDesc.password := some password }) :: List.replicate 5 (.answer {}) ++
    [.resume 0 {}, .start (.close 0)] ++ List.replicate 4 (.resume 0 {})

theorem asksHost_run (before : List (Choice Answer Proc)) (stored password : WString)
    (hrun : (replayTo (GivesPassword password) StepLabel.asksHost
      (before ++ choicesAsk password) (.answer {})).any
      (fun q => q.1.state.password = stored) = true) :
    exists (past : Deeds) (c c' : Run) (p : Proc) (target : UInt32)
      (priority : SendPriority) (packet : List UInt8) (handle : DPNHANDLE)
      (callback : SendCallback),
      Traced machine DirectPlay8Peer.Constructed past c ∧
        Step machine c
          (.exec p (.peer target (.send priority packet handle callback))) c' ∧
        isConnectHost packet = true ∧ packet.length < 2 ^ 32 ∧
        storedPassword past = stored ∧
        forall args addr, MadeBy past args addr -> args.password = password := by
  rcases replayTo_step hrun with ⟨c, c', label, hc, hwanted, hstep, htest⟩
  rcases StepLabel.asksHost_iff hwanted with
    ⟨p, target, priority, packet, handle, callback, rfl, hhost, h32⟩
  rcases hc.traced with ⟨past, htraced, hpast⟩
  refine ⟨past, c, c', p, target, priority, packet, handle, callback, htraced,
    hstep, hhost, h32, ?_, ?_⟩
  · rw [← password_stored htraced]
    exact of_decide_eq_true htest
  · intro args addr hmade
    rcases hmade with ⟨s, _, _, _, _, _, hmem, _⟩
    rcases hpast _ _ hmem with ⟨_, hgives⟩
    exact hgives

/-- The object has hosted with the password that it connects with. -/
theorem connectHost_password_hosted :
    exists (past : Deeds) (c c' : Run) (p : Proc) (target : UInt32)
      (priority : SendPriority) (packet : List UInt8) (handle : DPNHANDLE)
      (callback : SendCallback) (peer : Peer) (args : ConnectArgs),
      Traced machine DirectPlay8Peer.Constructed past c ∧
        Step machine c
          (.exec p (.peer target (.send priority packet handle callback))) c' ∧
        MadeBy past args peer.addr ∧ args.password = [97] ∧
        storedPassword past = [97] ∧ Carries packet args.password := by
  rcases asksHost_run (choicesHosted [97]) [97] [97] (by decide +kernel) with
    ⟨past, c, c', p, target, priority, packet, handle, callback, htraced, hstep,
      hhost, h32, hstored, hgiven⟩
  rcases connectHost_password htraced hstep hhost h32 with
    ⟨peer, _, ⟨args, hmade⟩, hcarries⟩
  have hpassword : args.password = [97] := hgiven args peer.addr hmade
  exact ⟨past, c, c', p, target, priority, packet, handle, callback, peer, args,
    htraced, hstep, hmade, hpassword, hstored,
    (hcarries args hmade).mpr (hstored.trans hpassword.symm)⟩

/-- The first `Connect` of an object with the password `a` sends none. -/
theorem not_connectHost_password :
    ¬ forall (past : Deeds) (c c' : Run) (p : Proc) (target : UInt32)
      (priority : SendPriority) (packet : List UInt8) (handle : DPNHANDLE)
      (callback : SendCallback),
      Traced machine DirectPlay8Peer.Constructed past c ->
      Step machine c
        (.exec p (.peer target (.send priority packet handle callback))) c' ->
      isConnectHost packet = true -> packet.length < 2 ^ 32 ->
      exists peer, c.state.peers[target]? = some peer ∧
        (exists args, MadeBy past args peer.addr) ∧
        forall args, MadeBy past args peer.addr -> Carries packet args.password := by
  intro hclaim
  rcases asksHost_run [] [] [97] (by decide +kernel) with
    ⟨past, c, c', p, target, priority, packet, handle, callback, htraced, hstep,
      hhost, h32, hstored, hgiven⟩
  rcases hclaim past c c' p target priority packet handle callback htraced hstep
    hhost h32 with ⟨peer, hpeer, ⟨args, hmade⟩, hcarries⟩
  have hpassword : args.password = [97] := hgiven args peer.addr hmade
  rcases connectHost_sender htraced.reaches hstep hhost with ⟨_, rfl, _⟩
  have hstate : c.state.password = args.password :=
    (connectHostPacket_carries h32).mp (hcarries args hmade)
  rw [password_stored htraced, hstored, hpassword] at hstate
  cases hstate

end Runs

end DirectPlayLite
