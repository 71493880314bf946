import DirectPlayLite.Peer.Endings
import DirectPlayLite.Peer.Outgoing

/-!
# Sessions that cannot be started

What `Host` and `Connect` leave behind when they return an error, by the answers of
the sockets, and what `connect_fail` leaves behind for a synchronous `Connect` that
still waits.
-/

namespace DirectPlayLite

open Monitor Program

/-!
## What is promised
-/

/-- Nothing of a session is there: `Host` and `Connect` can be called. -/
structure Clean (s : DirectPlay8Peer) : Prop where
  state : s.state = .initialised
  udp : s.udpSocket = -1
  listener : s.listenerSocket = -1
  discovery : s.discoverySocket = -1
  peers : s.peers.isEmpty = true

instance {s : DirectPlay8Peer} : Decidable (Clean s) :=
  decidable_of_iff (s.state = .initialised ∧ s.udpSocket = -1 ∧
      s.listenerSocket = -1 ∧ s.discoverySocket = -1 ∧ s.peers.isEmpty = true)
    ⟨fun h => ⟨h.1, h.2.1, h.2.2.1, h.2.2.2.1, h.2.2.2.2⟩,
      fun h => ⟨h.1, h.2, h.3, h.4, h.5⟩⟩

def Query.createsUdp : Query -> Bool
  | .createUdpSocket .. => true
  | _ => false

def Query.createsListener : Query -> Bool
  | .createListenerSocket .. => true
  | _ => false

namespace Deeds

/-- What the thread has been answered while it held the lock, latest first. -/
def answers (past : Deeds) : List (Query × Answer) :=
  past.filterMap fun deed =>
    match deed.2 with
    | .answer _ query answer => some (query, answer)
    | _ => none

def tried (test : Query -> Bool) (past : Deeds) : Bool :=
  past.answers.any fun entry => test entry.1

/-- A listener socket has been created, which is done behind the UDP socket. -/
def opened (past : Deeds) : Bool :=
  past.answers.any fun entry => entry.1.createsListener && entry.2.ret != -1

theorem opened_answer {s : DirectPlay8Peer} {p : Proc} {query : Query}
    {answer : Answer} {past : Deeds} :
    opened ((s, .answer p query answer) :: past) =
      ((query.createsListener && answer.ret != -1) || opened past) := rfl

def Fails (method : Method) (past : Deeds) : Prop :=
  exists entry, entry ∈ past.returned ∧ entry.1 = method ∧ entry.2 ≠ sOk ∧
    entry.2 ≠ dpnSuccessPending

instance {method : Method} {past : Deeds} : Decidable (past.Fails method) :=
  inferInstanceAs (Decidable (exists entry, entry ∈ past.returned ∧ _))

end Deeds

inductive Starts : Proc -> Method -> Prop where
  | host (args : HostArgs) : Starts (.host args) .host
  | connect (args : ConnectArgs) : Starts (.connect args) .connect

/--
A call in a state fails before it has opened its sockets, and nothing has been open
before it but what it has tried to create again; or it fails behind a wait that ends
with nothing left.
-/
def FailsCleanly (s : DirectPlay8Peer) (past : Deeds) : Prop :=
  match past.woken with
  | some woken => Clean woken
  | none =>
      past.opened = false ∧
      (past.tried Query.createsUdp = true ∨ s.udpSocket = -1) ∧
      (past.tried Query.createsListener = true ∨ s.listenerSocket = -1) ∧
      s.discoverySocket = -1 ∧ s.peers.isEmpty = true

instance {s : DirectPlay8Peer} {past : Deeds} : Decidable (FailsCleanly s past) := by
  unfold FailsCleanly
  split <;> infer_instance

structure Failing (s : DirectPlay8Peer) : Prop where
  state : s.state = .connectFailed
  udp : s.udpSocket = -1
  listener : s.listenerSocket = -1
  discovery : s.discoverySocket = -1

/-- What the others leave of a failed attempt as it is; they may destroy peers. -/
def Around.LeavesFailed (E : Around) : Prop :=
  forall s s', E.others s s' -> Failing s ->
    Failing s' ∧ (s.peers.isEmpty = true -> s'.peers.isEmpty = true)

/--
The state is one in which `connect_fail` has returned, and while it has not held the
lock the failed attempt has been left alone.
-/
def LeftByConnectFail (s : DirectPlay8Peer) : Prop :=
  exists (E : Around) (before : DirectPlay8Peer) (past : Deeds) (result : HRESULT)
    (reply : List UInt8), E.LeavesFailed ∧ (forall q, ¬ E.foreign q) ∧
      Returns machine E (.connectFail result reply) before s past

/-!
## Opening the sockets
-/

structure Untouched (s₀ s : DirectPlay8Peer) (past : Deeds) : Prop where
  state : s.state = s₀.state
  discovery : s.discoverySocket = s₀.discoverySocket
  peers : s.peers = s₀.peers
  running : past.returned = []
  awake : past.woken = none

structure Unopened (s₀ s : DirectPlay8Peer) (past : Deeds) : Prop
    extends Untouched s₀ s past where
  opened : past.opened = false
  udp : s.udpSocket = if past.tried Query.createsUdp then -1 else s₀.udpSocket
  listener : s.listenerSocket =
    if past.tried Query.createsListener then -1 else s₀.listenerSocket

structure Opened (s : DirectPlay8Peer) (past : Deeds) : Prop where
  running : past.returned = []
  awake : past.woken = none
  opened : past.opened = true
  udp : s.udpSocket ≠ -1

structure SameSockets (s s' : DirectPlay8Peer) : Prop where
  state : s'.state = s.state
  udp : s'.udpSocket = s.udpSocket
  listener : s'.listenerSocket = s.listenerSocket
  discovery : s'.discoverySocket = s.discoverySocket
  peers : s'.peers = s.peers

def Command.describes : Command -> Bool
  | .session _ | .connect _ | .local _ => true
  | _ => false

theorem Command.describes_sameSockets {command : Command} {s : DirectPlay8Peer}
    (h : command.describes = true) : SameSockets s (command.apply s) := by
  cases command with
  | session change => cases change <;> exact ⟨rfl, rfl, rfl, rfl, rfl⟩
  | connect change => cases change <;> exact ⟨rfl, rfl, rfl, rfl, rfl⟩
  | «local» change => cases change <;> exact ⟨rfl, rfl, rfl, rfl, rfl⟩
  | _ => cases h

theorem unopened_start (s : DirectPlay8Peer) : Unopened s s [] :=
  { state := rfl, discovery := rfl, peers := rfl, running := rfl, awake := rfl,
    opened := rfl, udp := rfl, listener := rfl }

section Opening

variable {E : Around} {specs : Specs DirectPlay8Peer Command Query Answer Proc Fault}
  {p : Proc} {s₀ s : DirectPlay8Peer} {past : Deeds}

theorem Unopened.clean_iff (h : Unopened s₀ s past) (hs : s₀.state = .initialised)
    {past' : Deeds} (hopened : past'.opened = past.opened)
    (htried : forall test, past'.tried test = past.tried test)
    (hwoken : past'.woken = past.woken) {s' : DirectPlay8Peer}
    (hsame : SameSockets s s') : Clean s' ↔ FailsCleanly s₀ past' := by
  unfold FailsCleanly
  rw [hwoken, h.awake]
  dsimp only
  rw [hopened, h.opened, htried, htried]
  rcases hsame with ⟨hstate, hudp, hlistener, hdiscovery, hpeers⟩
  have hudp' := hudp.trans h.udp
  have hlistener' := hlistener.trans h.listener
  constructor
  · intro hclean
    refine ⟨rfl, ?_, ?_, ?_, ?_⟩
    · have hclosed := hclean.udp
      rw [hudp'] at hclosed
      split at hclosed
      · rename_i htriedUdp
        exact Or.inl htriedUdp
      · exact Or.inr hclosed
    · have hclosed := hclean.listener
      rw [hlistener'] at hclosed
      split at hclosed
      · rename_i htriedListener
        exact Or.inl htriedListener
      · exact Or.inr hclosed
    · rw [← h.discovery, ← hdiscovery]
      exact hclean.discovery
    · rw [← h.peers, ← hpeers]
      exact hclean.peers
  · intro hclosed
    rcases hclosed with ⟨_, htriedUdp, htriedListener, hnone, hempty⟩
    constructor
    · rw [hstate, h.state, hs]
    · rw [hudp']
      split
      · rfl
      · rename_i huntried
        exact htriedUdp.resolve_left huntried
    · rw [hlistener']
      split
      · rfl
      · rename_i huntried
        exact htriedListener.resolve_left huntried
    · rw [hdiscovery, h.discovery, hnone]
    · rw [hpeers, h.peers, hempty]

theorem createSockets_allows {ip : UInt32} {port : UInt16} {failed : Action Unit}
    {post : Unit -> DirectPlay8Peer -> Deeds -> Prop} (h : Unopened s₀ s past)
    (hfailed : forall s' past', Unopened s₀ s' past' ->
      past'.tried Query.createsUdp = true ->
      allows machine E specs p failed post s' past')
    (hopened : forall s' past', Opened s' past' -> post () s' past') :
    allows machine E specs p (Action.createSockets ip port failed) post s past := by
  rw [Action.createSockets]
  apply allows_query
  intro udp
  rw [allows_perform]
  split
  · rename_i hnone
    apply hfailed
    · exact
        { state := h.state, discovery := h.discovery, peers := h.peers,
          running := h.running, awake := h.awake, opened := h.opened,
          udp := hnone, listener := h.listener }
    · rfl
  · rename_i hudp
    apply allows_query
    intro listener
    rw [allows_perform]
    split
    · rename_i hnone
      show allows machine E specs p failed post _ _
      apply hfailed
      · have hclosed : Deeds.opened ((s, .answer p (.createListenerSocket ip port)
            listener) :: past) = false := by
          rw [Deeds.opened_answer, hnone, h.opened]
          rfl
        exact
          { state := h.state, discovery := h.discovery, peers := h.peers,
            running := h.running, awake := h.awake, opened := hclosed,
            udp := rfl, listener := hnone }
      · rfl
    · rename_i hlistener
      apply hopened
      have hopen : Deeds.opened ((s, .answer p (.createListenerSocket ip port)
          listener) :: past) = true := by
        rw [Deeds.opened_answer, bne_iff_ne.mpr hlistener]
        rfl
      exact
        { running := h.running, awake := h.awake, opened := hopen, udp := hudp }

theorem createAutoSockets_allows {ip : UInt32} {portAt : Nat -> UInt16}
    {count first : Nat} {post : Unit -> DirectPlay8Peer -> Deeds -> Prop}
    (h : Unopened s₀ s past)
    (htries : count ≠ 0 ∨ past.tried Query.createsUdp = true)
    (hfailed : forall s' past', Unopened s₀ s' past' ->
      past'.tried Query.createsUdp = true -> post () s' past')
    (hopened : forall s' past', Opened s' past' -> post () s' past') :
    allows machine E specs p (Action.createAutoSockets ip portAt count first) post
      s past := by
  induction count generalizing s past first with
  | zero => exact hfailed s past h (htries.resolve_left fun hne => hne rfl)
  | succ count ih =>
      apply createSockets_allows h
      · intro s' past' h' htried
        exact ih h' (Or.inr htried)
      · exact hopened

theorem Unopened.describe (h : Unopened s₀ s past) {command : Command}
    (hdescribes : command.describes = true) :
    Unopened s₀ (command.apply s) ((s, .exec p command) :: past) := by
  have hsame := Command.describes_sameSockets (s := s) hdescribes
  have hreturned : Deeds.returned ((s, .exec p command) :: past) = [] := by
    cases command with
    | session change => exact h.running
    | connect change => exact h.running
    | «local» change => exact h.running
    | _ => cases hdescribes
  exact
    { state := hsame.state.trans h.state
      discovery := hsame.discovery.trans h.discovery
      peers := hsame.peers.trans h.peers
      running := hreturned
      awake := h.awake
      opened := h.opened
      udp := hsame.udp.trans h.udp
      listener := hsame.listener.trans h.listener }

theorem allows_describe {command : Command} {f : Unit -> Action Unit}
    {post : Unit -> DirectPlay8Peer -> Deeds -> Prop} (h : Unopened s₀ s past)
    (hdescribes : command.describes = true)
    (hnext : forall s' past', Unopened s₀ s' past' ->
      allows machine E specs p (f ()) post s' past') :
    allows machine E specs p (Action.perform command >>= f) post s past :=
  hnext _ _ (h.describe hdescribes)

theorem selectMainSockets_allows {J : Deeds -> Prop}
    {post : Bool -> DirectPlay8Peer -> Deeds -> Prop} (h : J past)
    (hanswered : forall sock answer past, J past ->
      J ((s, .answer p (.eventSelect sock) answer) :: past))
    (hpost : forall selected past', J past' -> post selected s past') :
    allows machine E specs p Action.selectMainSockets post s past := by
  rw [Action.selectMainSockets, allows_get]
  apply allows_query
  intro udp
  have hudp := hanswered s.udpSocket udp past h
  split
  · exact hpost false _ hudp
  · apply allows_query
    intro listener
    exact hpost _ _ (hanswered s.listenerSocket listener _ hudp)

end Opening

/-!
## How a call returns
-/

section Returning

variable {E : Around} {specs : Specs DirectPlay8Peer Command Query Answer Proc Fault}
  {p : Proc} {s₀ s : DirectPlay8Peer} {past : Deeds} {method : Method}
  {result : HRESULT}

def FailsAsSaid (method : Method) (s₀ s : DirectPlay8Peer) (past : Deeds) : Prop :=
  past.Fails method -> (Clean s ↔ FailsCleanly s₀ past)

theorem not_fails_returned (hrunning : past.returned = [])
    (hresult : result = sOk ∨ result = dpnSuccessPending) :
    ¬ Deeds.Fails method ((s, .exec p (.log (.returned method result))) :: past) := by
  intro hfails
  rcases hfails with ⟨entry, hentry, _, hne, hpending⟩
  have hreturned : Deeds.returned
      ((s, .exec p (.log (.returned method result))) :: past) =
        (method, result) :: Deeds.returned past := rfl
  rw [hreturned, hrunning] at hentry
  cases List.mem_singleton.mp hentry
  rcases hresult with hok | hsuccess
  · exact hne hok
  · exact hpending hsuccess

theorem failsAsSaid_opened (hopened : past.opened = true) (hawake : past.woken = none)
    (hclean : ¬ Clean s) : FailsAsSaid method s₀ s past := by
  intro _
  constructor
  · intro h
    exact absurd h hclean
  · intro h
    unfold FailsCleanly at h
    rw [hawake] at h
    cases hopened.symm.trans h.1

theorem Unopened.returns (h : Unopened s₀ s past) (hs : s₀.state = .initialised) :
    FailsAsSaid method s₀ ((Command.log (.returned method result)).apply s)
      ((s, .exec p (.log (.returned method result))) :: past) := by
  intro _
  exact h.clean_iff hs rfl (fun _ => rfl) rfl ⟨rfl, rfl, rfl, rfl, rfl⟩

theorem Opened.returns (h : Opened s past) :
    FailsAsSaid method s₀ ((Command.log (.returned method result)).apply s)
      ((s, .exec p (.log (.returned method result))) :: past) := by
  have hopen : ¬ Clean ((Command.log (.returned method result)).apply s) :=
    fun hclean => h.udp hclean.udp
  exact failsAsSaid_opened h.opened h.awake hopen

theorem waited_fails {s' : DirectPlay8Peer} {answer : Answer} :
    FailsAsSaid method s₀ ((Command.log (.returned method result)).apply s')
      ((s', .exec p (.log (.returned method result))) ::
        (s', .resume p .wait answer) :: past) := by
  intro _
  show Clean _ ↔ Clean s'
  constructor
  · intro h
    exact ⟨h.state, h.udp, h.listener, h.discovery, h.peers⟩
  · intro h
    exact ⟨h.state, h.udp, h.listener, h.discovery, h.peers⟩

end Returning

/-!
## The methods
-/

section Methods

variable {E : Around} {specs : Specs DirectPlay8Peer Command Query Answer Proc Fault}
  {p : Proc} {s₀ s : DirectPlay8Peer} {past : Deeds}

theorem openDiscovery_allows {desc : ApplicationDesc}
    {post : Bool -> DirectPlay8Peer -> Deeds -> Prop} (h : Opened s past)
    (hpost : forall opened s' past', Opened s' past' -> post opened s' past') :
    allows machine E specs p (Action.openDiscovery desc) post s past := by
  unfold Action.openDiscovery
  split
  · exact hpost true s past h
  · apply allows_query
    intro discovery
    rw [allows_perform]
    split
    · exact hpost _ _ _ ⟨h.running, h.awake, h.opened, h.udp⟩
    · apply allows_query
      intro events
      exact hpost _ _ _ ⟨h.running, h.awake, h.opened, h.udp⟩

theorem startHosting_allows {ctx : Context} (hrunning : past.returned = []) :
    allows machine E specs p (Action.startHosting ctx)
      (fun _ => FailsAsSaid .host s₀) s past := by
  rw [Action.startHosting]
  iterate 6 rw [allows_perform]
  rw [allows_get]
  apply allows_raise
  intro s' cp _
  rw [allows_perform]
  intro hfails
  exact absurd hfails (not_fails_returned hrunning (Or.inl rfl))

def Attempted (s₀ s : DirectPlay8Peer) (past : Deeds) : Prop :=
  (Unopened s₀ s past ∧ past.tried Query.createsUdp = true) ∨ Opened s past

theorem behindSockets_allows {create : Action Unit} {method : Method}
    {next : DirectPlay8Peer -> Action Unit} (hs : s₀.state = .initialised)
    (hcreate : allows machine E specs p create (fun _ => Attempted s₀) s past)
    (hnext : forall s' past', Opened s' past' ->
      allows machine E specs p (next s') (fun _ => FailsAsSaid method s₀) s' past') :
    allows machine E specs p
      (create >>= fun _ => Action.get >>= fun s =>
        if s.udpSocket = -1 then Action.returns method dpnErrGeneric else next s)
      (fun _ => FailsAsSaid method s₀) s past := by
  rw [bind_eq, allows_bind]
  apply allows_mono hcreate
  intro _ s' past' hattempted
  rw [allows_get]
  cases hattempted with
  | inl hunopened =>
      have hudp := hunopened.1.udp
      rw [if_pos hunopened.2] at hudp
      rw [if_pos hudp]
      exact hunopened.1.returns hs
  | inr hopened =>
      rw [if_neg hopened.udp]
      exact hnext s' past' hopened

theorem createHostSockets_allows {port : UInt16} (h : Unopened s₀ s past) :
    allows machine E specs p (Action.createHostSockets port)
      (fun _ => Attempted s₀) s past := by
  have hfailed : forall s' past', Unopened s₀ s' past' ->
      past'.tried Query.createsUdp = true -> Attempted s₀ s' past' :=
    fun _ _ h' htried => Or.inl ⟨h', htried⟩
  unfold Action.createHostSockets
  split
  · exact createAutoSockets_allows h (Or.inl (by decide)) hfailed
      fun _ _ hopened => Or.inr hopened
  · exact createSockets_allows h hfailed fun _ _ hopened => Or.inr hopened

theorem hostOn_allows {args : HostArgs} {port : UInt16} (h : Unopened s₀ s past)
    (hs : s₀.state = .initialised) :
    allows machine E specs p (Action.hostOn args port)
      (fun _ => FailsAsSaid .host s₀) s past := by
  apply behindSockets_allows hs (createHostSockets_allows h)
  intro s₁ past₁ h₁
  rw [bind_eq, allows_bind]
  apply selectMainSockets_allows h₁
  · intro sock answer past h
    exact ⟨h.running, h.awake, h.opened, h.udp⟩
  · intro selected past₂ h₂
    split
    · exact h₂.returns
    · rw [bind_eq, allows_bind]
      apply openDiscovery_allows h₂
      intro opened s₃ past₃ h₃
      split
      · exact h₃.returns
      · exact startHosting_allows h₃.running

theorem setDescription_allows {name : WString} {desc : ApplicationDesc}
    (h : Unopened s₀ s past) :
    allows machine E specs p (Action.setDescription name desc)
      (fun _ => Unopened s₀) s past := by
  rw [Action.setDescription]
  apply allows_describe h rfl
  intro s₁ past₁ h₁
  apply allows_describe h₁ rfl
  intro s₂ past₂ h₂
  have hlast : forall password, allows machine E specs p
      (Action.perform (.session (.setPassword password)) >>= fun _ =>
        Action.perform (.session (.setApplicationData desc.applicationReservedData)))
      (fun _ => Unopened s₀) s₂ past₂ := by
    intro password
    apply allows_describe h₂ rfl
    intro s₃ past₃ h₃
    have h₄ : Unopened s₀ _ ((s₃, .exec p (.session (.setApplicationData
      desc.applicationReservedData))) :: past₃) := h₃.describe rfl
    exact h₄
  dsimp only
  split
  · split
    · trivial
    · exact hlast _
  · exact hlast _

theorem Unopened.answer (h : Unopened s₀ s past) {query : Query} (answer : Answer)
    (hudp : query.createsUdp = false) (hlistener : query.createsListener = false) :
    Unopened s₀ s ((s, .answer p query answer) :: past) := by
  have htried : forall test : Query -> Bool, test query = false ->
      Deeds.tried test ((s, .answer p query answer) :: past) =
        Deeds.tried test past := by
    intro test htest
    show (test query || Deeds.tried test past) = _
    rw [htest, Bool.false_or]
  have hopened : Deeds.opened ((s, .answer p query answer) :: past) = _ :=
    Deeds.opened_answer
  rw [hlistener, Bool.false_and, Bool.false_or] at hopened
  exact
    { state := h.state
      discovery := h.discovery
      peers := h.peers
      running := h.running
      awake := h.awake
      opened := hopened.trans h.opened
      udp := by rw [htried _ hudp]; exact h.udp
      listener := by rw [htried _ hlistener]; exact h.listener }

theorem host_allows {args : HostArgs} (hs : s.state = .initialised) :
    allows machine E specs p (Action.host args) (fun _ => FailsAsSaid .host s) s [] := by
  have h := unopened_start s
  rw [Action.host, allows_get, hs]
  dsimp only
  split
  · exact h.returns hs
  · apply allows_query
    intro created
    apply allows_describe (h.answer created rfl rfl) rfl
    intro s₁ past₁ h₁
    split
    · exact h₁.returns hs
    · apply allows_describe h₁ rfl
      intro s₂ past₂ h₂
      rw [bind_eq, allows_bind]
      apply allows_mono (setDescription_allows h₂)
      intro _ s₃ past₃ h₃
      split
      · exact h₃.returns hs
      · apply allows_describe h₃ rfl
        intro s₄ past₄ h₄
        exact hostOn_allows h₄ hs

structure Underway (s : DirectPlay8Peer) (past : Deeds) : Prop where
  running : past.returned = []
  awake : past.woken = none
  opened : past.opened = true
  state : s.state = .connectingToHost

theorem Underway.returns {method : Method} {result : HRESULT} (h : Underway s past) :
    FailsAsSaid method s₀ ((Command.log (.returned method result)).apply s)
      ((s, .exec p (.log (.returned method result))) :: past) := by
  have hconnecting : ¬ Clean ((Command.log (.returned method result)).apply s) := by
    intro hclean
    cases hclean.state.symm.trans h.state
  exact failsAsSaid_opened h.opened h.awake hconnecting

theorem peerConnect_allows {state : PeerState} {address : SockAddr} {player : DPNID}
    {post : Bool -> DirectPlay8Peer -> Deeds -> Prop} (h : Underway s past)
    (hpost : forall started s' past', Underway s' past' -> post started s' past') :
    allows machine E specs p (Action.peerConnect state address player) post s past := by
  rw [Action.peerConnect, allows_get]
  apply allows_query
  intro sock
  split
  · exact hpost _ _ _ ⟨h.running, h.awake, h.opened, h.state⟩
  · rw [allows_perform]
    apply allows_query
    intro events
    split
    · exact hpost _ _ _ ⟨h.running, h.awake, h.opened, h.state⟩
    · apply allows_query
      intro started
      split
      · exact hpost _ _ _ ⟨h.running, h.awake, h.opened, h.state⟩
      · rw [Action.addPeer, bind_eq, bind_eq, allows_bind]
        show allows machine E specs p (Program.onlyIf _ _) _ _ _
        apply allows_onlyIf
        · intro _
          trivial
        · intro _
          exact hpost _ _ _ ⟨h.running, h.awake, h.opened, h.state⟩

theorem connectTo_allows {args : ConnectArgs} {address : SockAddr}
    (h : Unopened s₀ s past) (hs : s₀.state = .initialised) :
    allows machine E specs p (Action.connectTo args address)
      (fun _ => FailsAsSaid .connect s₀) s past := by
  rw [Action.connectTo]
  apply allows_query
  intro counter
  apply behindSockets_allows hs
  · apply createAutoSockets_allows (h.answer counter rfl rfl) (Or.inl (by decide))
    · intro s' past' h' htried
      exact Or.inl ⟨h', htried⟩
    · intro s' past' hopened
      exact Or.inr hopened
  intro s₁ past₁ h₁
  have hhandle : allows machine E specs p
      (Action.onlyIf (hasFlag args.flags dpnOpSync = false)
        (Action.perform (.allocHandle .connect)))
      (fun _ => Opened) s₁ past₁ := by
    apply allows_onlyIf
    · intro _
      exact ⟨h₁.running, h₁.awake, h₁.opened, h₁.udp⟩
    · intro _
      exact h₁
  rw [bind_eq, allows_bind]
  apply allows_mono hhandle
  intro _ s₂ past₂ h₂
  rw [allows_perform, allows_perform, bind_eq, allows_bind]
  apply peerConnect_allows
  · exact ⟨h₂.running, h₂.awake, h₂.opened, rfl⟩
  intro started s₃ past₃ h₃
  split
  · show FailsAsSaid .connect s₀ _ _
    exact Underway.returns ⟨h₃.running, h₃.awake, h₃.opened, h₃.state⟩
  rw [Action.log, allows_perform, bind_eq, allows_bind]
  apply selectMainSockets_allows
    (show Underway ((Command.log .connectStarted).apply s₃)
      ((s₃, .exec p (.log .connectStarted)) :: past₃) from
      ⟨h₃.running, h₃.awake, h₃.opened, h₃.state⟩)
  · intro sock answer past h
    refine ⟨h.running, h.awake, ?_, h.state⟩
    exact h.opened
  intro selected past₄ h₄
  split
  · exact h₄.returns
  split
  · intro s' answer _ _ _
    exact waited_fails
  · intro hfails
    exact absurd hfails (not_fails_returned h₄.running (Or.inr rfl))

theorem connect_allows {args : ConnectArgs} (hs : s.state = .initialised) :
    allows machine E specs p (Action.connect args) (fun _ => FailsAsSaid .connect s)
      s [] := by
  have h := unopened_start s
  rw [Action.connect, allows_get, hs]
  dsimp only
  apply allows_describe h rfl
  intro s₁ past₁ h₁
  apply allows_describe h₁ rfl
  intro s₂ past₂ h₂
  apply allows_describe h₂ rfl
  intro s₃ past₃ h₃
  apply allows_describe h₃ rfl
  intro s₄ past₄ h₄
  split
  · exact h₄.returns hs
  · exact connectTo_allows h₄ hs

end Methods

/-!
## A connection that fails later
-/

def Proc.Rids (s s' : DirectPlay8Peer) : Proc -> Prop
  | .peerDestroyAll .. | .connectUnwind .. => s'.peers.isEmpty = true
  | .dispatchDestroyPlayer .. => s.peers.isEmpty = true -> s'.peers.isEmpty = true
  | _ => True

def unwindSpecs : Specs DirectPlay8Peer Command Query Answer Proc Fault :=
  fun q s _ s' _ => q.unwinds = true -> Failing s -> Failing s' ∧ q.Rids s s'

section Unwinding

variable {E : Around} {p : Proc} {s : DirectPlay8Peer} {past : Deeds}

theorem Failing.apply (h : Failing s) {command : Command}
    (hstate : command.kind ≠ .state) (hsocket : command.kind ≠ .socket) :
    Failing (command.apply s) := by
  cases command with
  | setState state => exact absurd rfl hstate
  | setSocket which sock => exact absurd rfl hsocket
  | setLocalAddress ip port => exact absurd rfl hsocket
  | peer peerId change =>
      simp only [Command.apply, Command.applyPeer]
      split
      · exact h
      · exact ⟨h.state, h.udp, h.listener, h.discovery⟩
  | «local» change => cases change <;> exact ⟨h.state, h.udp, h.listener, h.discovery⟩
  | session change => cases change <;> exact ⟨h.state, h.udp, h.listener, h.discovery⟩
  | connect change => cases change <;> exact ⟨h.state, h.udp, h.listener, h.discovery⟩
  | _ => exact ⟨h.state, h.udp, h.listener, h.discovery⟩

theorem isEmpty_apply (h : s.peers.isEmpty = true) {command : Command}
    (hinsert : command.kind ≠ .insertPeer) :
    (command.apply s).peers.isEmpty = true := by
  have hempty : s.peers = ∅ := Std.ExtTreeMap.isEmpty_iff.mp h
  rcases command.apply_peers s with ⟨peerId, change, rfl⟩ |
    ⟨peerId, state, sock, ip, port, playerId, rfl⟩ | ⟨peerId, rfl⟩ | hsame
  · simp only [Command.apply, Command.applyPeer, hempty, Std.ExtTreeMap.getElem?_empty]
    exact Std.ExtTreeMap.isEmpty_empty
  · exact absurd rfl hinsert
  · simp only [Command.apply, hempty, Std.ExtTreeMap.erase_empty]
    rfl
  · rw [hsame]
    exact h

theorem unwinds_of_callees {q : Proc} (hp : p.unwinds = true)
    (hdrained : forall peerId result reason, p ≠ .peerDestroyDrained peerId result reason)
    (hq : p.callees q = true) : q.unwinds = true := by
  cases p with
  | peerDestroyDrained => exact absurd rfl (hdrained _ _ _)
  | peerDestroyAll | peerDestroy | peerDestroySends | peerDestroyAcks
  | invokeCallback | invokeAck | dispatchDestroyPlayer | connectUnwind =>
      cases q <;> first | rfl | cases hq
  | _ => cases hp

theorem unwinds_keepsFailing (hE : E.LeavesFailed) (hp : p.unwinds = true)
    (hdrained : forall peerId result reason, p ≠ .peerDestroyDrained peerId result reason)
    (hkinds : CommandKind.state ∉ p.kinds ∧ CommandKind.socket ∉ p.kinds)
    (h : Failing s) :
    allows machine E unwindSpecs p p.body (fun _ s' _ => Failing s') s past := by
  apply allows_of_uses p.body_uses ?_ ?_ h
  · constructor
    · intro _ command s _ hcommand h
      apply h.apply
      · intro hkind
        exact hkinds.1 (hkind ▸ hcommand.1)
      · intro hkind
        exact hkinds.2 (hkind ▸ hcommand.1)
    · intro s s' _ hothers h
      exact (hE s s' hothers h).1
    · intro _ _ _ _ _ h
      exact h
  · intro callee s past s' past' hcall h hspec
    exact (hspec (unwinds_of_callees hp hdrained hcall.1) h).1

theorem removePeer_keepsFailing {peerId : UInt32} (h : Failing s) :
    allows machine E unwindSpecs p (Action.removePeer peerId)
      (fun _ s' _ => Failing s') s past := by
  rw [Action.removePeer, allows_get]
  split
  · have herased : Failing ((Command.erasePeer peerId).apply s) :=
      h.apply (by simp) (by simp)
    exact herased
  · trivial

theorem renewPeer_keepsFailing {peerId : UInt32} {next : Peer -> Action Unit}
    (h : Failing s)
    (hnext : forall peer, allows machine E unwindSpecs p (next peer)
      (fun _ s' _ => Failing s') s past) :
    allows machine E unwindSpecs p (Action.renewPeer peerId next)
      (fun _ s' _ => Failing s') s past := by
  rw [Action.renewPeer, allows_get]
  split
  · exact hnext _
  · exact h

theorem peerDestroyDrained_keepsFailing (hown : forall q, ¬ E.foreign q)
    {peerId : UInt32} {result : HRESULT} {reason : DWORD} (h : Failing s) :
    allows machine E unwindSpecs p (Action.peerDestroyDrained peerId result reason)
      (fun _ s' _ => Failing s') s past := by
  rw [Action.peerDestroyDrained]
  apply allows_peerAt
  intro peer _
  rw [allows_get]
  have hstate := h.state
  dsimp only
  split
  · rw [Action.ofPeer, allows_perform, Action.ofPeer, allows_perform]
    have h₁ : Failing ((Command.peer peerId (.setState .closing)).apply
        ((Command.peer peerId (.setSendOpen false)).apply s)) :=
      (h.apply (by simp) (by simp)).apply (by simp) (by simp)
    apply allows_invoke (hown _)
    intro s₂ past₂ hspec
    have h₂ := (hspec rfl h₁).1
    rw [allows_perform, allows_get, bind_eq, allows_bind]
    have h₃ : Failing ((Command.unmapPlayer peer.playerId).apply s₂) :=
      h₂.apply (by simp) (by simp)
    apply allows_onlyIf
    · intro hconnected
      cases hconnected.1.symm.trans h₃.state
    · intro _
      exact renewPeer_keepsFailing h₃ fun _ => removePeer_keepsFailing h₃
  rw [hstate]
  split
  · rename_i hhost
    cases hhost.1
  split
  · rename_i hpeers
    cases hpeers.1
  · exact removePeer_keepsFailing h

theorem dispatchDestroyPlayer_rids (hE : E.LeavesFailed) {player : DPNID} {ctx : Context}
    {reason : DWORD} (h : Failing s) (hempty : s.peers.isEmpty = true) :
    allows machine E unwindSpecs (.dispatchDestroyPlayer player ctx reason)
      (Proc.dispatchDestroyPlayer player ctx reason).body
      (fun _ s' _ => Failing s' ∧ s'.peers.isEmpty = true) s past := by
  apply allows_of_uses (Proc.body_uses _) ?_ ?_ ⟨h, hempty⟩
  · constructor
    · intro _ command s _ hcommand h
      have hkinds := hcommand.1
      constructor
      · apply h.1.apply
        · intro hkind
          rw [hkind] at hkinds
          simp at hkinds
        · intro hkind
          rw [hkind] at hkinds
          simp at hkinds
      · apply isEmpty_apply h.2
        intro hkind
        rw [hkind] at hkinds
        simp at hkinds
    · intro s s' _ hothers h
      have hleft := hE s s' hothers h.1
      exact ⟨hleft.1, hleft.2 h.2⟩
    · intro _ _ _ _ _ h
      exact h
  · intro callee s past s' past' hcall h hspec
    have hcallee := hcall.1
    cases callee with
    | dispatchDestroyPlayer =>
        have hdone := hspec rfl h.1
        exact ⟨hdone.1, hdone.2 h.2⟩
    | _ => cases hcallee

theorem peerDestroyAll_rids (hown : forall q, ¬ E.foreign q) {result : HRESULT}
    {reason : DWORD} (h : Failing s) :
    allows machine E unwindSpecs p (Action.peerDestroyAll result reason)
      (fun _ s' _ => Failing s' ∧ s'.peers.isEmpty = true) s past := by
  rw [Action.peerDestroyAll, allows_get]
  split
  · rename_i hnone
    refine ⟨h, ?_⟩
    rw [← Std.ExtTreeMap.isEmpty_toList, List.isEmpty_iff]
    exact List.head?_eq_none_iff.mp hnone
  · apply allows_invoke (hown _)
    intro s₁ past₁ hdestroyed
    show allows machine E unwindSpecs p
      (.call (.peerDestroyAll result reason) (.ret ())) _ s₁ past₁
    refine ⟨fun hforeign => absurd hforeign (hown _), ?_⟩
    intro _ s₂ past₂ hspec
    exact hspec rfl (hdestroyed rfl h).1

theorem connectUnwind_rids (hown : forall q, ¬ E.foreign q) {toPeers : Bool}
    (h : Failing s) :
    allows machine E unwindSpecs p (Action.connectUnwind toPeers)
      (fun _ s' _ => Failing s' ∧ s'.peers.isEmpty = true) s past := by
  rw [Action.connectUnwind]
  apply allows_invoke (hown _)
  intro s₁ past₁ hspec
  have hdone := hspec rfl h
  apply allows_onlyIf
  · intro _
    rw [Action.dispatchDestroyLocalPlayer, allows_get]
    refine ⟨fun hforeign => absurd hforeign (hown _), ?_⟩
    intro _ s₂ past₂ hdispatched
    have hleft := hdispatched rfl hdone.1
    exact ⟨hleft.1, hleft.2 hdone.2⟩
  · intro _
    exact hdone

theorem unwinds_specified (hE : E.LeavesFailed) (hp : p.unwinds = true)
    (hdrained : forall peerId result reason, p ≠ .peerDestroyDrained peerId result reason)
    (hkinds : CommandKind.state ∉ p.kinds ∧ CommandKind.socket ∉ p.kinds)
    (hrids : forall s', p.Rids s s') (h : Failing s) :
    allows machine E unwindSpecs p p.body
      (fun _ s' _ => Failing s' ∧ p.Rids s s') s past := by
  apply allows_mono (unwinds_keepsFailing hE hp hdrained hkinds h)
  intro _ s' _ h'
  exact ⟨h', hrids s'⟩

theorem unwind_specified (hE : E.LeavesFailed) (hown : forall q, ¬ E.foreign q) :
    Specified machine E unwindSpecs := by
  intro q s past _
  by_cases hunwinds : q.unwinds = true ∧ Failing s
  · have h := hunwinds.2
    have hbody : allows machine E unwindSpecs q q.body
        (fun _ s' _ => Failing s' ∧ q.Rids s s') s past := by
      cases q with
      | peerDestroy | peerDestroySends | peerDestroyAcks | invokeCallback | invokeAck =>
          exact unwinds_specified hE rfl (by simp) (by simp) (fun _ => trivial) h
      | peerDestroyDrained =>
          apply allows_mono (peerDestroyDrained_keepsFailing hown h)
          intro _ s' _ h'
          exact ⟨h', trivial⟩
      | dispatchDestroyPlayer =>
          by_cases hempty : s.peers.isEmpty = true
          · apply allows_mono (dispatchDestroyPlayer_rids hE h hempty)
            intro _ s' _ hdone
            exact ⟨hdone.1, fun _ => hdone.2⟩
          · exact unwinds_specified hE rfl (by simp) (by simp)
              (fun _ hnone => absurd hnone hempty) h
      | peerDestroyAll => exact peerDestroyAll_rids hown h
      | connectUnwind => exact connectUnwind_rids hown h
      | _ => cases hunwinds.1
    apply allows_mono hbody
    intro _ s' _ hdone _ _
    exact hdone
  · apply allows_trivial
    intro _ s' past' hq h
    exact absurd ⟨hq, h⟩ hunwinds

theorem connectFail_allows (hE : E.LeavesFailed) (hown : forall q, ¬ E.foreign q)
    {result : HRESULT} {reply : List UInt8} :
    allows machine E unwindSpecs p (Action.connectFail result reply)
      (fun _ s' _ => Clean s' ∧ s'.connectResult = result) s past := by
  rw [Action.connectFail, allows_get]
  apply allows_assertThat (fun _ _ => True) trivial trivial
  intro s₁ past₁ _
  rw [allows_perform]
  show allows machine E unwindSpecs p
    (Action.invoke (.connectUnwind _) >>= _) _ _ _
  apply allows_invoke (hown _)
  intro s₂ past₂ hspec
  have hunwound := hspec rfl ⟨rfl, rfl, rfl, rfl⟩
  rw [allows_get]
  apply allows_raise
  intro s₃ _ hothers
  have hraised : Failing ((Command.log (.raised (.connectComplete s₂.connectHandle
      s₂.connectCtx result 0 reply))).apply s₂) := hunwound.1.apply (by simp) (by simp)
  have hleft := hE _ s₃ hothers hraised
  exact ⟨⟨rfl, hleft.1.udp, hleft.1.listener, hleft.1.discovery, hleft.2 hunwound.2⟩, rfl⟩

end Unwinding

theorem LeftByConnectFail.clean {s : DirectPlay8Peer} (h : LeftByConnectFail s) :
    Clean s := by
  rcases h with ⟨E, before, past, result, reply, hE, hown, hreturns⟩
  have hbody : allows machine E unwindSpecs (.connectFail result reply)
      (machine.body (.connectFail result reply)) (fun _ s' _ => Clean s') before [] := by
    apply allows_mono (connectFail_allows hE hown)
    intro _ s' _ hdone
    exact hdone.1
  exact hreturns.allowed (unwind_specified hE hown) hbody

/--
A call of `Host` or `Connect` that returns an error leaves the object clean if and only
if it fails before it has opened its sockets, on an object without others; or if it has
waited, and has found the object clean then, as `connect_fail` leaves it.
-/
theorem fails_clean_iff {E : Around} {s s' : DirectPlay8Peer} {past : Deeds}
    {proc : Proc} {method : Method} (hstarts : Starts proc method)
    (hs : s.state = .initialised) (hreturns : Returns machine E proc s s' past)
    (hfails : past.Fails method) :
    (Clean s' ↔ FailsCleanly s past) ∧
      forall woken, past.woken = some woken -> LeftByConnectFail woken -> Clean s' := by
  have hsaid : FailsAsSaid method s s' past := by
    cases hstarts with
    | host args => exact hreturns.allowed (unspecified E) (host_allows hs)
    | connect args => exact hreturns.allowed (unspecified E) (connect_allows hs)
  constructor
  · exact hsaid hfails
  · intro woken hwoken hleft
    apply (hsaid hfails).mpr
    unfold FailsCleanly
    rw [hwoken]
    exact hleft.clean

/-- A host that is given no service provider. -/
theorem fails_clean_iff_noProvider :
    exists (c : Run) (s' : DirectPlay8Peer) (past : Deeds),
      Reaches machine DirectPlay8Peer.Constructed Unrestricted c ∧ c.Free ∧
        c.state.state = .initialised ∧ past.Fails .host ∧ Clean s' := by
  have hrun : (replay Unrestricted choicesInitialise).any (fun c =>
      (c.calls (.host { plainSession with devices := [⟨none, none⟩] })
        fun _ => {}).any (fun v => decide (c.Free ∧ c.state.state = .initialised ∧
          Deeds.Fails .host v.past ∧ FailsCleanly c.state v.past))) = true := by
    decide +kernel
  rcases replay_reaches hrun with ⟨c, hc, hany⟩
  rcases (Option.any_eq_true _ _).mp hany with ⟨v, hv, htest⟩
  rcases of_decide_eq_true htest with ⟨hfree, hs, hfails, hcleanly⟩
  exact ⟨c, v.state, v.past, hc, hfree, hs, hfails,
    (fails_clean_iff (.host _) hs (Run.calls_returns hv) hfails).1.mpr hcleanly⟩

/-- `WSAEventSelect` fails, and the sockets of `Host` stay open. -/
theorem hostFails_not_clean :
    ¬ forall (c : Run) (E : Around) (proc : Proc) (method : Method)
      (s' : DirectPlay8Peer) (past : Deeds),
      Reaches machine DirectPlay8Peer.Constructed Unrestricted c -> c.Free ->
      c.state.state = .initialised -> Starts proc method ->
      Returns machine E proc c.state s' past -> past.Fails method -> Clean s' := by
  intro hclaim
  have hrun : (replay Unrestricted choicesInitialise).any (fun c =>
      (c.calls (.host plainSession) fun
        | .eventSelect _ => { ret := -1 }
        | _ => {}).any (fun v => decide (c.Free ∧ c.state.state = .initialised ∧
          Deeds.Fails .host v.past ∧ ¬ Clean v.state))) = true := by
    decide +kernel
  rcases replay_reaches hrun with ⟨c, hc, hany⟩
  rcases (Option.any_eq_true _ _).mp hany with ⟨v, hv, htest⟩
  rcases of_decide_eq_true htest with ⟨hfree, hs, hfails, hunclean⟩
  exact hunclean (hclaim c _ _ _ _ _ hc hfree hs (.host _) (Run.calls_returns hv) hfails)

end DirectPlayLite
