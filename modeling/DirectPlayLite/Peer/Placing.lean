import Mathlib.Data.Multiset.Replicate
import DirectPlayLite.Peer.Completing

/-!
# Calls that report their first failure

`SendTo` and `SetPeerInfo` hand out all of their parts before they let go of the
lock, with a counter that knows how many they are.  From then on the parts may be run.
-/

namespace DirectPlayLite

open Monitor Program

/-!
## Calls
-/

structure Call where
  method : Method
  counter : Completion
  /-- The parts it hands out. -/
  handed : Multiset Part
  /-- The parts it sees to itself. -/
  own : Multiset Part

def Call.owed (call : Call) : Multiset Part := call.own + call.handed

def Call.initial (call : Call) : Completion := call.counter.tallied call.owed.card []

def sendCall (s : DirectPlay8Peer) (ctx : Context) (flags : DWORD)
    (peerIds : List UInt32) (toSelf : Bool) : Call :=
  let sends := Multiset.replicate peerIds.length Part.sent
  if hasFlag flags dpnOpSync then
    { method := .sendTo
      counter :=
        { operation := .sendTo flags, sync := true, pending := 0, result := sOk,
          handle := 0, ctx := contextNull }
      handed := sends
      own := 0 }
  else
    { method := .sendTo
      counter :=
        { operation := .sendTo flags, sync := false, pending := 0, result := sOk,
          handle := s.handleAlloc.handle .send, ctx }
      handed :=
        (if toSelf then {Part.work} else 0) +
          (sends + if peerIds.length + (if toSelf then 1 else 0) = 0
            then {Part.thread} else 0)
      own := 0 }

def DirectPlay8Peer.peersIn (s : DirectPlay8Peer) (state : PeerState) :
    List (UInt32 × Peer) :=
  s.peers.toList.filter fun (_, peer) => peer.state == state

def Peer.request (entry : UInt32 × Peer) : Part :=
  .requested entry.1 entry.2.nextAckId

def infoCall (s : DirectPlay8Peer) (ctx : Context) (flags : DWORD) : Call where
  method := .setPeerInfo
  counter :=
    { operation := .setPeerInfo, sync := hasFlag flags dpnOpSync, pending := 0,
      result := sOk, handle := s.handleAlloc.handle .pinfo, ctx }
  handed := Multiset.ofList ((s.peersIn .connected).map Peer.request)
  own := {Part.own}

/-- The calls of the two methods that are taken on in a state. -/
inductive Proc.TakesOn (s : DirectPlay8Peer) : Proc -> Call -> Prop
  | sendTo {player : DPNID} {payload : List UInt8} {ctx : Context} {flags : DWORD}
      {peerIds : List UInt32} {toSelf : Bool} :
      s.state ∈ [.hosting, .connectingToHost, .connectingToPeers, .connected] ->
      hasFlag flags dpnSendCompleteOnProcess = false ->
      Action.sendTargets s player flags = .targets peerIds toSelf ->
      TakesOn s (.sendTo player payload ctx flags) (sendCall s ctx flags peerIds toSelf)
  | setPeerInfo {info : PlayerInfo} {ctx : Context} {flags : DWORD} :
      info.sizeOk = true ->
      s.state = .hosting ∨ s.state = .connected ->
      TakesOn s (.setPeerInfo info ctx flags) (infoCall s ctx flags)

/-!
## Up to where the lock is released
-/

/-- The thread comes back from where it has released the lock. -/
def Deed.resumes (deed : Deed) : Bool :=
  match deed.2 with
  | .resume .. => true
  | _ => false

namespace Deeds

/-- What a thread has done before it has released the lock for the first time. -/
def ahead : Deeds -> Deeds
  | [] => []
  | deed :: past =>
      if past.any Deed.resumes || Deed.resumes deed then ahead past else deed :: past

/-- The state a thread has left behind what it has done, with the lock held. -/
def leaves (s : DirectPlay8Peer) : Deeds -> DirectPlay8Peer
  | [] => s
  | (before, .exec _ command) :: _ => command.apply before
  | (before, _) :: _ => before

variable {past : Deeds} {deed : Deed}

theorem ahead_locked (h : past.any Deed.resumes = false) : ahead past = past := by
  cases past with
  | nil => rfl
  | cons deed past =>
      rw [List.any_cons, Bool.or_comm] at h
      rw [ahead, h, if_neg Bool.false_ne_true]

theorem ahead_resume (h : Deed.resumes deed = true) :
    ahead (deed :: past) = ahead past := by
  rw [ahead, h, Bool.or_true, if_pos rfl]

theorem ahead_resumed (h : past.any Deed.resumes = true) :
    ahead (deed :: past) = ahead past := by
  rw [ahead, h, Bool.true_or, if_pos rfl]

end Deeds

/-- A call with all that has been handed out, before any of it may be run. -/
def Call.start (call : Call) (s : DirectPlay8Peer) (past : Deeds) : Tally where
  state := past.ahead.leaves s
  owed := call.owed
  results := []
  reported := past.ahead.reported

/-- The condition a synchronous call waits for. -/
def DirectPlay8Peer.counted (addr : Nat) (s : DirectPlay8Peer) : Bool :=
  (s.completions[addr]?).all (·.pending == 0)

/--
A call completes once, with its first failure: whatever becomes of the parts it has
handed out, it is reported by the last of them; or it waits for them all and returns
what it would have reported.
-/
structure Call.CompletesOnce (E : Around) (s : DirectPlay8Peer) (past : Deeds)
    (call : Call) : Prop where
  /-- The parts are handed out before the lock is released. -/
  handed : Multiset.ofList (past.ahead.parts s.nextAddr) = call.handed
  /-- Nothing is reported but by the last part, and then once. -/
  kept : forall t, Life E s.nextAddr (call.start s past) t ->
    t.Kept s.nextAddr call.counter
  /-- Every part that is owed can be run to its end. -/
  runs : forall t part proc code result, Life E s.nextAddr (call.start s past) t ->
    part ∈ t.owed -> Part.Runs s.nextAddr part proc code (some result) ->
    leads machine E proc code (fun _ _ _ => True) t.state []
  async : call.counter.sync = false ->
    past.returned = [(call.method, dpnSuccessPending)]
  /-- A call that waits is not woken before all of its parts have been run. -/
  sync : call.counter.sync = true ->
    past.woken.isSome = true ∧
      forall t, Life E s.nextAddr (call.start s past) t ->
        past.woken = some t.state ->
        t.owed = 0 ∧ past.returned = [(call.method, firstFailure t.results)]
  /-- It can go on then. -/
  wakes : call.counter.sync = true ->
    forall t, Life E s.nextAddr (call.start s past) t -> t.owed = 0 ->
      t.state.counted s.nextAddr = true

/-- While a call is away, the others leave it its counter. -/
def Around.Spares (E : Around) (addr : Nat) : Prop :=
  forall s s' c, E.others s s' -> s.completions[addr]? = some c ->
    exists c', s'.completions[addr]? = some c' ∧ c'.operation = c.operation

/-- A call that waits is not left alone for ever. -/
def Around.Wakes (E : Around) (addr : Nat) : Prop :=
  forall s, exists s', E.others s s' ∧ s'.counted addr = true

/-!
## Handing out the parts
-/

abbrev withoutCalls : Footprint Command Proc Fault :=
  .within (fun _ => True) (fun _ => False)
    fun _ => True

theorem allows_callsNobody {E : Around} {p : Proc} {s : DirectPlay8Peer} {past : Deeds}
    {specs : Specs DirectPlay8Peer Command Query Answer Proc Fault} {α : Type}
    {prog : Action α} {post : α -> DirectPlay8Peer -> Deeds -> Prop}
    (huses : prog.Uses withoutCalls) (h : leads machine E p prog post s past) :
    allows machine E specs p prog post s past :=
  allows_of_leads huses (fun _ hcalls => hcalls) h

section Placing

variable {E : Around} {p : Proc} {s₀ s : DirectPlay8Peer} {past : Deeds} {addr : Nat}
  {counter : Option Completion} {owed : Multiset Part}

/-- What a thread has handed out, and the counter that goes with it. -/
structure Placed (s₀ : DirectPlay8Peer) (addr : Nat) (counter : Option Completion)
    (owed : Multiset Part) (s : DirectPlay8Peer) (past : Deeds) : Prop where
  leaves : past.leaves s₀ = s
  counter : s.completions[addr]? = counter
  parts : Multiset.ofList (past.parts addr) = owed
  reported : past.reported = []

structure Placing (s₀ : DirectPlay8Peer) (addr : Nat) (counter : Option Completion)
    (owed : Multiset Part) (s : DirectPlay8Peer) (past : Deeds) : Prop
    extends Placed s₀ addr counter owed s past where
  locked : past.any Deed.resumes = false
  returned : past.returned = []

def Deed.Plain (deed : Deed) : Prop :=
  Deeds.reported [deed] = [] ∧ Deeds.returned [deed] = []

theorem placing_start (s₀ : DirectPlay8Peer) (addr : Nat) :
    Placing s₀ addr s₀.completions[addr]? 0 s₀ [] where
  leaves := rfl
  counter := rfl
  parts := rfl
  reported := rfl
  locked := rfl
  returned := rfl

theorem parts_cons (deed : Deed) :
    Deeds.parts addr (deed :: past) = (Deed.part addr deed).toList ++ past.parts addr := by
  unfold Deeds.parts
  rw [List.filterMap_cons]
  cases Deed.part addr deed <;> rfl

theorem returned_cons (deed : Deed) :
    Deeds.returned (deed :: past) = Deeds.returned [deed] ++ past.returned := by
  unfold Deeds.returned
  rw [List.filterMap_cons, List.filterMap_cons]
  split <;> rfl

theorem Placing.exec (h : Placing s₀ addr counter owed s past) (p : Proc)
    (command : Command) {counter' : Option Completion}
    (hcounter : (command.apply s).completions[addr]? = counter')
    (hpart : Deed.part addr (s, .exec p command) = none)
    (hplain : Deed.Plain (s, .exec p command)) :
    Placing s₀ addr counter' owed (command.apply s) ((s, .exec p command) :: past) where
  leaves := rfl
  counter := hcounter
  parts := by
    rw [parts_cons, hpart]
    exact h.parts
  reported := by
    rw [reported_cons, h.reported, hplain.1]
    rfl
  locked := h.locked
  returned := by
    rw [returned_cons, h.returned, hplain.2]
    rfl

theorem Placing.hand (h : Placing s₀ addr counter owed s past) (p : Proc)
    (command : Command) {part : Part}
    (hcounter : (command.apply s).completions[addr]? = s.completions[addr]?)
    (hpart : Deed.part addr (s, .exec p command) = some part)
    (hplain : Deed.Plain (s, .exec p command)) :
    Placing s₀ addr counter (part ::ₘ owed) (command.apply s)
      ((s, .exec p command) :: past) where
  leaves := rfl
  counter := hcounter.trans h.counter
  parts := by
    rw [parts_cons, hpart, ← h.parts]
    rfl
  reported := by
    rw [reported_cons, h.reported, hplain.1]
    rfl
  locked := h.locked
  returned := by
    rw [returned_cons, h.returned, hplain.2]
    rfl

theorem Placing.raise (h : Placing s₀ addr counter owed s past) (p : Proc)
    (notification : Notification)
    (hother : Deeds.reported [(s, .exec p (.log (.raised notification)))] = []) :
    Placing s₀ addr counter owed ((Command.log (.raised notification)).apply s)
      ((s, .exec p (.log (.raised notification))) :: past) :=
  h.exec p (.log (.raised notification)) h.counter rfl ⟨hother, rfl⟩

theorem Placing.detach (h : Placing s₀ addr counter owed s past) :
    Placing s₀ addr counter (Part.thread ::ₘ owed) s
      ((s, .spawn p (.sendCompleteThread addr)) :: past) where
  leaves := rfl
  counter := h.counter
  parts := by
    have hpart : Deed.part addr (s, .spawn p (.sendCompleteThread addr)) =
        some .thread := if_pos rfl
    rw [parts_cons, hpart, ← h.parts]
    rfl
  reported := by
    rw [reported_cons, h.reported]
    rfl
  locked := h.locked
  returned := by
    rw [returned_cons, h.returned]
    rfl

theorem getElem?_newCompletion (s : DirectPlay8Peer) (made : Completion) :
    ((Command.newCompletion made).apply s).completions[s.nextAddr]? = some made := by
  show (s.completions.insert s.nextAddr made)[s.nextAddr]? = _
  rw [Std.ExtTreeMap.getElem?_insert_self]

theorem isSome_peers_peer (s : DirectPlay8Peer) (peerId : UInt32) (change : PeerCommand)
    (other : UInt32) :
    (((Command.peer peerId change).apply s).peers[other]?).isSome =
      (s.peers[other]?).isSome := by
  rw [Command.getElem?_peer]
  split
  · rename_i hsame
    rw [Option.isSome_map, hsame]
  · rfl

theorem leads_sends {priority : SendPriority} {packet : List UInt8} {handle : DPNHANDLE}
    {peerIds : List UInt32}
    (hpeers : forall peerId, peerId ∈ peerIds -> (s.peers[peerId]?).isSome = true)
    (h : Placing s₀ addr counter owed s past) :
    leads machine E p
      (Action.forEach (fun peerId =>
        Action.ofPeer peerId (.send priority packet handle (.sent addr))) peerIds)
      (fun _ => Placing s₀ addr counter
        (Multiset.replicate peerIds.length .sent + owed)) s past := by
  induction peerIds generalizing s past owed with
  | nil =>
      rw [List.length_nil, Multiset.replicate_zero, Multiset.zero_add]
      exact h
  | cons peerId rest ih =>
      have hpart : Deed.part addr (s, .exec p
          (.peer peerId (.send priority packet handle (.sent addr)))) = some .sent := by
        simp [Deed.part, SendCallback.part, hpeers peerId List.mem_cons_self]
      have hhanded := h.hand p _ (getElem?_completions_peer _ _ _ _) hpart ⟨rfl, rfl⟩
      have hrest : forall other, other ∈ rest ->
          (((Command.peer peerId (.send priority packet handle (.sent addr))).apply
            s).peers[other]?).isSome = true := by
        intro other hother
        rw [isSome_peers_peer]
        exact hpeers other (List.mem_cons_of_mem _ hother)
      have hdone := ih hrest hhanded
      rw [List.length_cons, Multiset.replicate_succ, Multiset.cons_add,
        ← Multiset.add_cons]
      exact hdone

theorem allows_sends {specs : Specs DirectPlay8Peer Command Query Answer Proc Fault}
    {priority : SendPriority} {packet : List UInt8} {handle : DPNHANDLE}
    {peerIds : List UInt32}
    (hpeers : forall peerId, peerId ∈ peerIds -> (s.peers[peerId]?).isSome = true)
    (h : Placing s₀ addr counter owed s past) :
    allows machine E specs p
      (Action.forEach (fun peerId =>
        Action.ofPeer peerId (.send priority packet handle (.sent addr))) peerIds)
      (fun _ => Placing s₀ addr counter
        (Multiset.replicate peerIds.length .sent + owed)) s past := by
  apply allows_callsNobody ?_ (leads_sends hpeers h)
  exact Uses.forEach fun _ _ => And.intro trivial trivial

theorem getElem?_increment {c : Completion} {n : Nat}
    (hc : s.completions[addr]? = some (c.tallied n [])) :
    ((Command.completion addr .increment).apply s).completions[addr]? =
      some (c.tallied (n + 1) []) := by
  have hnext : UInt32.ofNat (n + 1) = UInt32.ofNat n + 1 := UInt32.ofNat_add n 1
  rw [getElem?_completion, hc, Completion.tallied, Completion.tallied, hnext]
  rfl

theorem leads_ofCompletion {c : Completion} {change : CompletionCommand}
    {post : Unit -> DirectPlay8Peer -> Deeds -> Prop}
    (hc : s.completions[addr]? = some c) :
    leads machine E p (Action.ofCompletion addr change) post s past ↔
      post () ((Command.completion addr change).apply s)
        ((s, .exec p (.completion addr change)) :: past) := by
  rw [Action.ofCompletion, leads_get, hc]
  rfl

theorem leads_requests {packet : Peer -> PacketSerialiser} {c : Completion}
    {entries : List (UInt32 × Peer)} (hdistinct : (entries.map Prod.fst).Nodup)
    (hpeers : forall entry, entry ∈ entries -> s.peers[entry.1]? = some entry.2)
    (h : Placing s₀ addr (some (c.tallied (owed.card + 1) [])) owed s past) :
    leads machine E p
      (Action.forEach
        (fun peerId => do
          let peer ← Action.peerAt peerId .nullDereference
          Action.ofPeer peerId .allocAckId
          Action.sendPacket peerId .medium (packet peer)
            (.requested peerId peer.nextAckId addr)
          Action.ofCompletion addr .increment)
        (entries.map Prod.fst))
      (fun _ s' past' => exists owed',
        owed' = Multiset.ofList (entries.map Peer.request) + owed ∧
          Placing s₀ addr (some (c.tallied (owed'.card + 1) [])) owed' s' past')
      s past := by
  induction entries generalizing s past owed with
  | nil => exact ⟨owed, (Multiset.zero_add owed).symm, h⟩
  | cons entry rest ih =>
      rcases entry with ⟨peerId, peer⟩
      have hpeer : s.peers[peerId]? = some peer := hpeers _ List.mem_cons_self
      rw [List.map_cons, Action.forEach, leads_bind]
      have hnodup := List.nodup_cons.mp hdistinct
      rw [leads_peerAt_some hpeer, Action.ofPeer, leads_perform, Action.sendPacket,
        Action.ofPeer, leads_perform]
      let s₁ := (Command.peer peerId .allocAckId).apply s
      let send : Command := .peer peerId (.send .medium (packet peer).rawPacket 0
        (.requested peerId peer.nextAckId addr))
      have h₁ := h.exec p (.peer peerId .allocAckId)
        ((getElem?_completions_peer _ _ _ _).trans h.counter) rfl ⟨rfl, rfl⟩
      have hthere : (s₁.peers[peerId]?).isSome = true := by
        rw [isSome_peers_peer, hpeer]
        rfl
      have hpart : Deed.part addr (s₁, .exec p send) =
          some (Peer.request (peerId, peer)) :=
        (if_pos hthere).trans (if_pos rfl)
      have h₂ := h₁.hand p send (getElem?_completions_peer _ _ _ _) hpart ⟨rfl, rfl⟩
      rw [leads_ofCompletion h₂.counter]
      have h₃ := h₂.exec p (.completion addr .increment)
        (getElem?_increment h₂.counter) rfl ⟨rfl, rfl⟩
      rw [← Multiset.card_cons (Peer.request (peerId, peer))] at h₃
      have hrest : forall entry, entry ∈ rest ->
          ((Command.completion addr .increment).apply
            (send.apply s₁)).peers[entry.1]? = some entry.2 := by
        intro entry hentry
        have hother : peerId ≠ entry.1 := by
          intro hsame
          exact hnodup.1 (List.mem_map.mpr ⟨entry, hentry, hsame.symm⟩)
        show (send.apply s₁).peers[entry.1]? = _
        rw [Command.getElem?_peer, if_neg hother, Command.getElem?_peer, if_neg hother]
        exact hpeers entry (List.mem_cons_of_mem _ hentry)
      apply leads_mono (ih hnodup.2 hrest h₃)
      intro _ s' past' hdone
      rcases hdone with ⟨owed', howed, hplacing⟩
      refine ⟨owed', ?_, hplacing⟩
      rw [howed, List.map_cons, ← Multiset.cons_coe, Multiset.cons_add, Multiset.add_cons]

theorem allows_requests {specs : Specs DirectPlay8Peer Command Query Answer Proc Fault}
    {packet : Peer -> PacketSerialiser} {c : Completion}
    {entries : List (UInt32 × Peer)} (hdistinct : (entries.map Prod.fst).Nodup)
    (hpeers : forall entry, entry ∈ entries -> s.peers[entry.1]? = some entry.2)
    (h : Placing s₀ addr (some (c.tallied (owed.card + 1) [])) owed s past) :
    allows machine E specs p
      (Action.forEach
        (fun peerId => do
          let peer ← Action.peerAt peerId .nullDereference
          Action.ofPeer peerId .allocAckId
          Action.sendPacket peerId .medium (packet peer)
            (.requested peerId peer.nextAckId addr)
          Action.ofCompletion addr .increment)
        (entries.map Prod.fst))
      (fun _ s' past' => exists owed',
        owed' = Multiset.ofList (entries.map Peer.request) + owed ∧
          Placing s₀ addr (some (c.tallied (owed'.card + 1) [])) owed' s' past')
      s past := by
  apply allows_callsNobody ?_ (leads_requests hdistinct hpeers h)
  apply Uses.forEach
  intro peerId _
  apply Action.uses_bind (Action.uses_peerAt trivial)
  intro peer
  exact And.intro trivial (And.intro trivial (Action.uses_ofCompletion trivial trivial))

end Placing

/-!
## Behind the parts
-/

structure Call.Ran (s : DirectPlay8Peer) (past : Deeds) (call : Call) : Prop where
  placed : Placed s s.nextAddr (some call.initial) call.handed (past.ahead.leaves s)
    past.ahead
  async : call.counter.sync = false ->
    past.returned = [(call.method, dpnSuccessPending)]
  /-- What it returns is what the counter holds when the call is woken. -/
  sync : call.counter.sync = true -> exists woken,
    past.woken = some woken ∧ woken.counted s.nextAddr = true ∧
      past.returned = [(call.method,
        ((woken.completions[s.nextAddr]?).map (·.result)).getD sOk)]

structure Call.Away (s : DirectPlay8Peer) (past : Deeds) (call : Call) : Prop where
  placed : Placed s s.nextAddr (some call.initial) call.handed (past.ahead.leaves s)
    past.ahead
  returned : past.returned = []

section Behind

variable {E : Around} {specs : Specs DirectPlay8Peer Command Query Answer Proc Fault}
  {s s' : DirectPlay8Peer} {past : Deeds} {call : Call}

theorem Placing.returns (p : Proc)
    (h : Placing s s.nextAddr (some call.initial) call.handed s' past)
    (hasync : call.counter.sync = false) :
    call.Ran s ((s', .exec p (.log (.returned call.method dpnSuccessPending))) ::
      past) where
  placed := by
    have hlocked : List.any ((s', .exec p (.log (.returned call.method
        dpnSuccessPending))) :: past) Deed.resumes = false := h.locked
    rw [Deeds.ahead_locked hlocked]
    constructor
    · rfl
    · exact h.counter
    · rw [parts_cons]
      exact h.parts
    · rw [reported_cons, h.reported]
      rfl
  async := by
    intro _
    rw [returned_cons, h.returned]
    rfl
  sync := by
    intro hsync
    cases hsync.symm.trans hasync

theorem Placing.away
    (h : Placing s s.nextAddr (some call.initial) call.handed s' past) :
    call.Away s past where
  placed := by
    rw [Deeds.ahead_locked h.locked, h.leaves]
    exact h.toPlaced
  returned := h.returned

theorem Call.Away.resume (h : call.Away s past) (deed : Deed)
    (hresumes : Deed.resumes deed = true) : call.Away s (deed :: past) where
  placed := by
    rw [Deeds.ahead_resume hresumes]
    exact h.placed
  returned := by
    rw [returned_cons, h.returned]
    rcases deed with ⟨before, label⟩
    cases label with
    | resume => rfl
    | _ => cases hresumes

theorem resumed_cons (h : past.any Deed.resumes = true) (deed : Deed) :
    List.any (deed :: past) Deed.resumes = true := by
  rw [List.any_cons, h, Bool.or_true]

theorem Call.Away.placed_behind (h : call.Away s past)
    (hresumed : past.any Deed.resumes = true) (deed : Deed) :
    Placed s s.nextAddr (some call.initial) call.handed
      ((Deeds.ahead (deed :: past)).leaves s) (Deeds.ahead (deed :: past)) := by
  rw [Deeds.ahead_resumed hresumed]
  exact h.placed

theorem Call.Away.behind (h : call.Away s past) (hresumed : past.any Deed.resumes = true)
    (deed : Deed) (hdeed : Deeds.returned [deed] = []) : call.Away s (deed :: past) where
  placed := h.placed_behind hresumed deed
  returned := by
    rw [returned_cons, h.returned, hdeed]
    rfl

theorem allows_awaits (p : Proc) (h : call.Away s past) (hsync : call.counter.sync = true) :
    allows machine E specs p (do
      Action.waitUntil (DirectPlay8Peer.counted s.nextAddr)
      let woken ← Action.get
      Action.perform (.completion s.nextAddr .delete)
      Action.returns call.method
        (((woken.completions[s.nextAddr]?).map (·.result)).getD sOk))
      (fun _ _ past' => call.Ran s past') s' past := by
  intro woken answer _ hready _
  have hawake : Deed.resumes (woken, (.resume p .wait answer : StepLabel)) = true := rfl
  have hresumed : List.any ((woken, (.resume p .wait answer : StepLabel)) :: past)
      Deed.resumes = true := by
    rw [List.any_cons, hawake, Bool.true_or]
  let delete : Deed := (woken, .exec p (.completion s.nextAddr .delete))
  have hdeleted := (h.resume _ hawake).behind hresumed delete rfl
  constructor
  · exact hdeleted.placed_behind (resumed_cons hresumed delete) _
  · intro hasync
    cases hsync.symm.trans hasync
  · intro _
    refine ⟨woken, rfl, hready, ?_⟩
    rw [returned_cons, hdeleted.returned]
    rfl

theorem leads_awaits {p : Proc} {addr : Nat} {method : Method} (hwakes : E.Wakes addr) :
    leads machine E p (do
      Action.waitUntil (DirectPlay8Peer.counted addr)
      let woken ← Action.get
      Action.perform (.completion addr .delete)
      Action.returns method (((woken.completions[addr]?).map (·.result)).getD sOk))
      (fun _ _ _ => True) s past := by
  refine ⟨?_, fun _ _ _ _ _ => trivial⟩
  rcases hwakes s with ⟨woken, hothers, hcounted⟩
  exact ⟨woken, {}, hothers, hcounted, rfl⟩

end Behind

/-!
## SendTo
-/

section SendTo

variable {E : Around} {s : DirectPlay8Peer} {past : Deeds} {player : DPNID}
  {payload : List UInt8} {ctx : Context} {flags : DWORD} {peerIds : List UInt32}
  {toSelf : Bool}

theorem mem_peerIdsIn {state : PeerState} {peerId : UInt32}
    (h : peerId ∈ s.peerIdsIn state) : (s.peers[peerId]?).isSome = true := by
  rcases List.mem_map.mp h with ⟨entry, hentry, rfl⟩
  have hpeer := Std.ExtTreeMap.mem_toList_iff_getElem?_eq_some.mp
    (List.mem_of_mem_filter hentry)
  rw [hpeer]
  rfl

theorem sendTargets_peers
    (h : Action.sendTargets s player flags = .targets peerIds toSelf) :
    forall peerId, peerId ∈ peerIds -> (s.peers[peerId]?).isSome = true := by
  intro peerId hmem
  unfold Action.sendTargets at h
  dsimp only at h
  split at h
  · cases h
    exact mem_peerIdsIn hmem
  split at h
  · cases h
    cases hmem
  split at h
  · rename_i found peer _ hfound
    cases h
    cases List.mem_singleton.mp hmem
    rw [DirectPlay8Peer.findPlayer_peer hfound]
    rfl
  · cases h
  · split at h
    · cases h
      rcases List.mem_filterMap.mp hmem with ⟨member, _, hmember⟩
      rcases Option.map_eq_some_iff.mp hmember with ⟨entry, hfound, hentry⟩
      rw [← hentry, DirectPlay8Peer.findPlayer_peer hfound]
      rfl
    · cases h

theorem sendTo_taken (payload : List UInt8) (ctx : Context)
    (hstate : s.state ∈
      [State.hosting, .connectingToHost, .connectingToPeers, .connected])
    (hprocess : hasFlag flags dpnSendCompleteOnProcess = false)
    (htargets : Action.sendTargets s player flags = .targets peerIds toSelf) :
    exists next, Action.sendTo player payload ctx flags = .read next ∧
      next s =
        if hasFlag flags dpnOpSync then Action.sendSync payload flags peerIds toSelf
        else Action.sendAsync payload ctx flags peerIds toSelf := by
  refine ⟨_, rfl, ?_⟩
  simp only [List.mem_cons, List.not_mem_nil, or_false] at hstate
  rcases hstate with hstate | hstate | hstate | hstate
  all_goals
    rw [ret_bind, hstate]
    simp only [hprocess, htargets]
    rfl

theorem sendCall_owed_card (hasync : hasFlag flags dpnOpSync = false) :
    (sendCall s ctx flags peerIds toSelf).owed.card =
      if peerIds.length + (if toSelf then 1 else 0) = 0 then 1
        else peerIds.length + (if toSelf then 1 else 0) := by
  simp only [Call.owed, sendCall, hasync, Bool.false_eq_true, if_false,
    Multiset.card_add, Multiset.card_zero, Multiset.card_replicate]
  cases toSelf with
  | true => simp [Nat.add_comm]
  | false => cases hnone : peerIds.length <;> simp

theorem sendCall_initial_async (hasync : hasFlag flags dpnOpSync = false) :
    (sendCall s ctx flags peerIds toSelf).initial =
      { operation := .sendTo flags, sync := false,
        pending := UInt32.ofNat
          (if peerIds.length + (if toSelf then 1 else 0) = 0 then 1
            else peerIds.length + (if toSelf then 1 else 0)),
        result := sOk, handle := s.handleAlloc.handle .send, ctx } := by
  unfold Call.initial
  rw [sendCall_owed_card hasync]
  simp only [sendCall, hasync]
  rfl

theorem leads_standIn {p : Proc} {s' : DirectPlay8Peer} {addr : Nat}
    {counter : Option Completion} {condition : Prop} [Decidable condition]
    (h : Placing s addr counter 0 s' past) :
    leads machine E p
      (Action.onlyIf condition (Action.detach (.sendCompleteThread addr)))
      (fun _ s'' past' => s'' = s' ∧ Placing s addr counter
        (if condition then {Part.thread} else 0) s'' past') s' past := by
  apply leads_onlyIf
  · intro hnone
    rw [if_pos hnone]
    exact ⟨rfl, h.detach⟩
  · intro hsome
    rw [if_neg hsome]
    exact ⟨rfl, h⟩

theorem leads_loopback {p : Proc} {s' : DirectPlay8Peer} {addr : Nat}
    {counter : Option Completion} {owed : Multiset Part}
    (h : Placing s addr counter owed s' past) :
    leads machine E p
      (Action.onlyIf toSelf (Action.perform
        (.pushWork { payload, flags, completion := addr })))
      (fun _ => Placing s addr counter ((if toSelf then {Part.work} else 0) + owed))
      s' past := by
  apply leads_onlyIf
  · intro htoSelf
    rw [if_pos htoSelf]
    have hpart : Deed.part addr
        (s', .exec p (.pushWork { payload, flags, completion := addr })) =
          some .work := if_pos rfl
    exact h.hand p _ rfl hpart ⟨rfl, rfl⟩
  · intro htoSelf
    rw [if_neg htoSelf, Multiset.zero_add]
    exact h

theorem sendAsync_leads {p : Proc} (hasync : hasFlag flags dpnOpSync = false)
    (hpeers : forall peerId, peerId ∈ peerIds -> (s.peers[peerId]?).isSome = true) :
    leads machine E p (Action.sendAsync payload ctx flags peerIds toSelf)
      (fun _ _ past' => (sendCall s ctx flags peerIds toSelf).Ran s past') s [] := by
  have h₁ := (placing_start s s.nextAddr).exec p (.allocHandle .send) rfl rfl ⟨rfl, rfl⟩
  have h₂ := h₁.exec p (.newCompletion (sendCall s ctx flags peerIds toSelf).initial)
    (getElem?_newCompletion _ _) rfl ⟨rfl, rfl⟩
  have hinitial : (sendCall s ctx flags peerIds toSelf).initial = _ :=
    sendCall_initial_async hasync
  rw [Action.sendAsync, leads_get, leads_perform, leads_perform, ← hinitial, bind_eq,
    leads_bind]
  apply leads_mono (leads_standIn h₂)
  intro _ s₃ past₃ h₃
  have hpeers₃ : forall peerId, peerId ∈ peerIds ->
      (s₃.peers[peerId]?).isSome = true := by
    rw [h₃.1]
    exact hpeers
  rw [bind_eq, leads_bind]
  apply leads_mono (leads_sends hpeers₃ h₃.2)
  intro _ s₄ past₄ h₄
  rw [bind_eq, leads_bind]
  apply leads_mono (leads_loopback h₄)
  intro _ s₅ past₅ h₅
  have hcall : (sendCall s ctx flags peerIds toSelf).method = .sendTo ∧
      (sendCall s ctx flags peerIds toSelf).counter.sync = false ∧
      (sendCall s ctx flags peerIds toSelf).handed =
        (if toSelf then {Part.work} else 0) +
          (Multiset.replicate peerIds.length Part.sent +
            if peerIds.length + (if toSelf then 1 else 0) = 0
              then {Part.thread} else 0) := by
    rw [sendCall, hasync]
    exact ⟨rfl, rfl, rfl⟩
  rw [← hcall.2.2] at h₅
  have hran := h₅.returns p hcall.2.1
  rw [hcall.1] at hran
  exact hran

theorem sendAsync_allows {p : Proc}
    {specs : Specs DirectPlay8Peer Command Query Answer Proc Fault}
    (hasync : hasFlag flags dpnOpSync = false)
    (hpeers : forall peerId, peerId ∈ peerIds -> (s.peers[peerId]?).isSome = true) :
    allows machine E specs p (Action.sendAsync payload ctx flags peerIds toSelf)
      (fun _ _ past' => (sendCall s ctx flags peerIds toSelf).Ran s past') s [] := by
  apply allows_callsNobody ?_ (sendAsync_leads hasync hpeers)
  unfold Action.sendAsync
  repeat' with_reducible first
    | apply Uses.onlyIf
    | apply Uses.forEach
    | apply Action.uses_bind
    | intro _
  all_goals simp [withoutCalls]

theorem sendCall_sync (hsync : hasFlag flags dpnOpSync = true) :
    sendCall s ctx flags peerIds toSelf =
      { method := .sendTo
        counter :=
          { operation := .sendTo flags, sync := true, pending := 0, result := sOk,
            handle := 0, ctx := contextNull }
        handed := Multiset.replicate peerIds.length Part.sent
        own := 0 } := by
  rw [sendCall, if_pos hsync]

theorem sendCall_initial_sync (hsync : hasFlag flags dpnOpSync = true) :
    (sendCall s ctx flags peerIds toSelf).initial =
      { operation := .sendTo flags, sync := true,
        pending := UInt32.ofNat peerIds.length, result := sOk, handle := 0,
        ctx := contextNull } := by
  rw [sendCall_sync hsync, Call.initial, Call.owed, Multiset.zero_add,
    Multiset.card_replicate]
  rfl

theorem sendSync_allows {p : Proc}
    {specs : Specs DirectPlay8Peer Command Query Answer Proc Fault}
    (hsync : hasFlag flags dpnOpSync = true)
    (hpeers : forall peerId, peerId ∈ peerIds -> (s.peers[peerId]?).isSome = true) :
    allows machine E specs p (Action.sendSync payload flags peerIds toSelf)
      (fun _ _ past' => (sendCall s ctx flags peerIds toSelf).Ran s past') s [] := by
  let call := sendCall s ctx flags peerIds toSelf
  have h₁ := (placing_start s s.nextAddr).exec p (.newCompletion call.initial)
    (getElem?_newCompletion _ _) rfl ⟨rfl, rfl⟩
  have hcall : call = _ := sendCall_sync hsync
  have hinitial : call.initial = _ := sendCall_initial_sync hsync
  rw [Action.sendSync, allows_get, allows_perform, ← hinitial, bind_eq, allows_bind]
  have hpeers₁ : forall peerId, peerId ∈ peerIds ->
      (((Command.newCompletion call.initial).apply s).peers[peerId]?).isSome = true :=
    hpeers
  apply allows_mono (allows_sends hpeers₁ h₁)
  intro _ s₂ past₂ h₂
  have hhanded : Multiset.replicate peerIds.length Part.sent + 0 = call.handed := by
    rw [hcall]
    exact Multiset.add_zero _
  rw [hhanded] at h₂
  have haway : allows machine E specs p
      (Action.onlyIf toSelf do
        let _ ← Action.raise (.receive s.localPlayerId s.localPlayerCtx payload
          (Action.receiveFlags flags))
        pure ())
      (fun _ _ past' => call.Away s past') s₂ past₂ := by
    apply allows_onlyIf
    · intro _
      apply allows_raise
      intro s₃ answer _
      exact (h₂.raise p _ rfl).away.resume _ rfl
    · intro _
      exact h₂.away
  rw [bind_eq, allows_bind]
  apply allows_mono haway
  intro _ s₃ past₃ h₃
  have hwaits : call.counter.sync = true := by
    rw [hcall]
  have hmethod : call.method = .sendTo := by
    rw [hcall]
  have hawaits : allows machine E specs p _ _ s₃ past₃ := allows_awaits p h₃ hwaits
  rw [hmethod] at hawaits
  exact hawaits

theorem sendSync_leads {p : Proc} (hwakes : E.Wakes s.nextAddr)
    (hpeers : forall peerId, peerId ∈ peerIds -> (s.peers[peerId]?).isSome = true) :
    leads machine E p (Action.sendSync payload flags peerIds toSelf)
      (fun _ _ _ => True) s [] := by
  let made : Completion :=
    { operation := .sendTo flags, sync := true,
      pending := UInt32.ofNat peerIds.length, result := sOk, handle := 0,
      ctx := contextNull }
  have h₁ := (placing_start s s.nextAddr).exec p (.newCompletion made)
    (getElem?_newCompletion _ _) rfl ⟨rfl, rfl⟩
  have hpeers₁ : forall peerId, peerId ∈ peerIds ->
      (((Command.newCompletion made).apply s).peers[peerId]?).isSome = true := hpeers
  rw [Action.sendSync, leads_get, leads_perform, bind_eq, leads_bind]
  apply leads_mono (leads_sends hpeers₁ h₁)
  intro _ s₂ past₂ _
  rw [bind_eq, leads_bind]
  have hloopback : leads machine E p
      (Action.onlyIf toSelf do
        let _ ← Action.raise (.receive s.localPlayerId s.localPlayerCtx payload
          (Action.receiveFlags flags))
        pure ())
      (fun _ _ _ => True) s₂ past₂ := by
    apply leads_onlyIf
    · intro _
      rw [leads_raise]
      intro s₃ answer _
      trivial
    · intro _
      trivial
  apply leads_mono hloopback
  intro _ s₃ past₃ _
  exact leads_awaits hwakes

end SendTo

/-!
## SetPeerInfo
-/

section SetPeerInfo

variable {E : Around} {p : Proc} {s s' : DirectPlay8Peer} {past : Deeds}
  {info : PlayerInfo} {ctx : Context} {flags : DWORD}

structure Prepared (s s' : DirectPlay8Peer) (past : Deeds) : Prop where
  placing : Placing s s.nextAddr s.completions[s.nextAddr]? 0 s' past
  state : s'.state = s.state
  nextAddr : s'.nextAddr = s.nextAddr
  handleAlloc : s'.handleAlloc = s.handleAlloc
  peers : s'.peers = s.peers

theorem prepared_start (s : DirectPlay8Peer) : Prepared s s [] :=
  ⟨placing_start s s.nextAddr, rfl, rfl, rfl, rfl⟩

theorem Prepared.local (h : Prepared s s' past) (p : Proc) (change : LocalCommand) :
    Prepared s ((Command.local change).apply s')
      ((s', .exec p (.local change)) :: past) := by
  have hplacing : Placing s s.nextAddr s.completions[s.nextAddr]? 0
      ((Command.local change).apply s') ((s', .exec p (.local change)) :: past) := by
    apply h.placing.exec p (.local change) ?_ rfl ⟨rfl, rfl⟩
    cases change <;> exact h.placing.counter
  cases change with
  | _ => exact ⟨hplacing, h.state, h.nextAddr, h.handleAlloc, h.peers⟩

theorem distinct_peersIn (s : DirectPlay8Peer) (state : PeerState) :
    ((s.peersIn state).map Prod.fst).Nodup := by
  have hkeys : s.peers.toList.Pairwise fun a b => ¬ compare a.1 b.1 = .eq :=
    Std.ExtTreeMap.distinct_keys_toList
  apply List.pairwise_map.mpr
  apply (hkeys.filter _).imp
  intro a b hdistinct hsame
  exact hdistinct (Std.LawfulEqCmp.compare_eq_iff_eq.mpr hsame)

theorem peersIn_peers {state : PeerState} {entry : UInt32 × Peer}
    (h : entry ∈ s.peersIn state) : s.peers[entry.1]? = some entry.2 :=
  Std.ExtTreeMap.mem_toList_iff_getElem?_eq_some.mp (List.mem_of_mem_filter h)

theorem infoCall_initial (s : DirectPlay8Peer) (ctx : Context) (flags : DWORD) :
    (infoCall s ctx flags).initial =
      (infoCall s ctx flags).counter.tallied ((infoCall s ctx flags).handed.card + 1)
        [] := by
  unfold Call.initial Call.owed
  rw [Multiset.card_add, Nat.add_comm]
  rfl

section Announcing

variable {s₂ : DirectPlay8Peer} {past₂ : Deeds}

theorem Prepared.allowsLocal
    {specs : Specs DirectPlay8Peer Command Query Answer Proc Fault}
    (h : Prepared s s' past) {condition : Prop} [Decidable condition]
    (change : LocalCommand) :
    allows machine E specs p (Action.onlyIf condition (Action.perform (.local change)))
      (fun _ => Prepared s) s' past := by
  apply allows_onlyIf
  · intro _
    exact h.local p change
  · intro _
    exact h

theorem Prepared.leadsLocal (h : Prepared s s' past) {condition : Prop}
    [Decidable condition] (change : LocalCommand) :
    leads machine E p (Action.onlyIf condition (Action.perform (.local change)))
      (fun _ => Prepared s) s' past := by
  apply leads_onlyIf
  · intro _
    exact h.local p change
  · intro _
    exact h

theorem Prepared.idle (h : Prepared s s₂ past₂)
    (hstate : s.state = .hosting ∨ s.state = .connected) :
    ¬ (s₂.state ≠ .hosting ∧ s₂.state ≠ .connected) := by
  rw [h.state]
  intro hneither
  rcases hstate with hhosting | hconnected
  · exact hneither.1 hhosting
  · exact hneither.2 hconnected

theorem Prepared.connected (h : Prepared s s₂ past₂) :
    s₂.peerIdsIn .connected = (s.peersIn .connected).map Prod.fst := by
  unfold DirectPlay8Peer.peerIdsIn DirectPlay8Peer.peersIn
  rw [h.peers]

def firstCounter (s : DirectPlay8Peer) (ctx : Context) (flags : DWORD) : Completion :=
  (infoCall s ctx flags).counter.tallied ((0 : Multiset Part).card + 1) []

/-- The state in which `SetPeerInfo` starts to hand out its parts. -/
def DirectPlay8Peer.counting (s s₂ : DirectPlay8Peer) (ctx : Context) (flags : DWORD) :
    DirectPlay8Peer :=
  (Command.newCompletion (firstCounter s ctx flags)).apply
    ((Command.allocHandle .pinfo).apply s₂)

theorem Prepared.made (h : Prepared s s₂ past₂) (p : Proc) (ctx : Context)
    (flags : DWORD) :
    Placing s s.nextAddr (some (firstCounter s ctx flags)) 0 (s.counting s₂ ctx flags)
      (((Command.allocHandle .pinfo).apply s₂,
        .exec p (.newCompletion (firstCounter s ctx flags))) ::
        (s₂, .exec p (.allocHandle .pinfo)) :: past₂) := by
  let s₃ := (Command.allocHandle .pinfo).apply s₂
  have hmade := getElem?_newCompletion s₃ (firstCounter s ctx flags)
  rw [show s₃.nextAddr = s.nextAddr from h.nextAddr] at hmade
  have halloc := h.placing.exec p (.allocHandle .pinfo) h.placing.counter rfl ⟨rfl, rfl⟩
  exact halloc.exec p (.newCompletion (firstCounter s ctx flags)) hmade rfl ⟨rfl, rfl⟩

theorem Prepared.peersCounting (h : Prepared s s₂ past₂) (entry : UInt32 × Peer)
    (hentry : entry ∈ s.peersIn .connected) :
    (s.counting s₂ ctx flags).peers[entry.1]? = some entry.2 := by
  show s₂.peers[entry.1]? = _
  rw [h.peers]
  exact peersIn_peers hentry

theorem announced {owed : Multiset Part}
    (howed : owed = Multiset.ofList ((s.peersIn .connected).map Peer.request) + 0)
    (h : Placing s s.nextAddr
      (some ((infoCall s ctx flags).counter.tallied (owed.card + 1) [])) owed s' past) :
    Placing s s.nextAddr (some (infoCall s ctx flags).initial)
      (infoCall s ctx flags).handed s' past := by
  have hhanded : owed = (infoCall s ctx flags).handed := by
    rw [howed]
    exact Multiset.add_zero _
  rw [infoCall_initial, ← hhanded]
  exact h

end Announcing

theorem complete_away {specs : Specs DirectPlay8Peer Command Query Answer Proc Fault}
    {call : Call} {result : HRESULT} {addr : Nat} (h : call.Away s past)
    (hresumed : past.any Deed.resumes = true) :
    allows machine E specs p (Action.complete addr result)
      (fun _ _ past' => call.Away s past' ∧ past'.any Deed.resumes = true) s' past := by
  let reporting : Footprint Command Proc Fault :=
    { withoutCalls with
      commands := fun command =>
        forall before q, Deeds.returned [(before, .exec q command)] = [] }
  have huses : (Action.complete addr result).Uses reporting := by
    apply Action.uses_complete
    · intro change before q
      rfl
    · intro notification _ before q
      rfl
    · trivial
    · trivial
  apply allows_of_uses huses ?_ ?_ ⟨h, hresumed⟩
  · constructor
    · intro q command before past hcommand h
      exact ⟨h.1.behind h.2 _ (hcommand before q), resumed_cons h.2 _⟩
    · intro _ _ _ _ h
      exact h
    · intro before after past label hquiet h
      have hnone : Deeds.returned [(after, label)] = [] := by
        cases label with
        | exec q command => exact absurd rfl (hquiet q command)
        | _ => rfl
      exact ⟨h.1.behind h.2 _ hnone, resumed_cons h.2 _⟩
  · intro callee _ _ _ _ hcalls
    exact hcalls.elim

theorem setPeerInfo_allows {specs : Specs DirectPlay8Peer Command Query Answer Proc Fault}
    (hsize : info.sizeOk = true) (hstate : s.state = .hosting ∨ s.state = .connected) :
    allows machine E specs p (Action.setPeerInfo info ctx flags)
      (fun _ _ past' => (infoCall s ctx flags).Ran s past') s [] := by
  rw [Action.setPeerInfo, if_neg (by rw [hsize]; exact Bool.noConfusion)]
  rw [bind_eq, allows_bind]
  apply allows_mono ((prepared_start s).allowsLocal _)
  intro _ s₁ past₁ h₁
  rw [bind_eq, allows_bind]
  apply allows_mono (h₁.allowsLocal _)
  intro _ s₂ past₂ h₂
  rw [allows_get, if_neg (h₂.idle hstate), h₂.nextAddr, h₂.handleAlloc, h₂.connected,
    allows_perform, allows_perform, bind_eq, allows_bind]
  apply allows_mono (allows_requests (distinct_peersIn s .connected) h₂.peersCounting
    (h₂.made p ctx flags))
  intro _ s₃ past₃ h₃
  rcases h₃ with ⟨owed, howed, h₃⟩
  apply allows_raise
  intro s₄ answer _
  have h₄ := ((announced howed h₃).raise p
    (.peerInfo s₂.localPlayerId s₂.localPlayerCtx) rfl).away.resume
      (s₄, .resume p (.messageHandler (.peerInfo s₂.localPlayerId s₂.localPlayerCtx))
        answer) rfl
  rw [bind_eq, allows_bind]
  apply allows_mono (complete_away h₄ rfl)
  intro _ s₅ past₅ h₅
  split
  · rename_i hsync
    exact allows_awaits p h₅.1 hsync
  · rename_i hasync
    have hflag : (infoCall s ctx flags).counter.sync = false :=
      Bool.eq_false_of_not_eq_true hasync
    constructor
    · exact h₅.1.placed_behind h₅.2 _
    · intro _
      rw [returned_cons, h₅.1.returned]
      rfl
    · intro hsync
      cases hsync.symm.trans hflag

theorem leads_complete_ends {c : Completion} {addr : Nat} {result : HRESULT}
    (hc : s.completions[addr]? = some c) (hfirst : c.operation.reportsFirst = true) :
    leads machine E p (Action.complete addr result) (fun _ _ _ => True) s past := by
  rw [Action.complete, leads_get, hc]
  dsimp only
  cases hop : c.operation with
  | sendTo flags =>
      rw [leads_perform, leads_perform]
      apply leads_onlyIf
      · intro _
        rw [leads_perform]
        apply leads_onlyIf
        · intro _
          rw [leads_raise]
          intro s' answer _
          trivial
        · intro _
          trivial
      · intro _
        trivial
  | setPeerInfo =>
      rw [leads_perform, leads_perform]
      apply leads_onlyIf
      · intro _
        rw [leads_perform, leads_raise]
        intro s' answer _
        trivial
      · intro _
        trivial
  | _ =>
      rw [hop] at hfirst
      cases hfirst

theorem setPeerInfo_leads (hspares : E.Spares s.nextAddr) (hwakes : E.Wakes s.nextAddr)
    (hsize : info.sizeOk = true) (hstate : s.state = .hosting ∨ s.state = .connected) :
    leads machine E p (Action.setPeerInfo info ctx flags) (fun _ _ _ => True) s [] := by
  rw [Action.setPeerInfo, if_neg (by rw [hsize]; exact Bool.noConfusion)]
  rw [bind_eq, leads_bind]
  apply leads_mono ((prepared_start s).leadsLocal _)
  intro _ s₁ past₁ h₁
  rw [bind_eq, leads_bind]
  apply leads_mono (h₁.leadsLocal _)
  intro _ s₂ past₂ h₂
  rw [leads_get, if_neg (h₂.idle hstate), h₂.nextAddr, h₂.handleAlloc, h₂.connected,
    leads_perform, leads_perform, bind_eq, leads_bind]
  apply leads_mono (leads_requests (distinct_peersIn s .connected) h₂.peersCounting
    (h₂.made p ctx flags))
  intro _ s₃ past₃ h₃
  rcases h₃ with ⟨owed, _, h₃⟩
  rw [leads_raise]
  intro s₄ answer hothers
  rcases hspares _ _ _ hothers h₃.counter with ⟨c, hc, hop⟩
  rw [bind_eq, leads_bind]
  have hfirst : c.operation.reportsFirst = true := by
    rw [hop]
    rfl
  apply leads_mono (leads_complete_ends hc hfirst)
  intro _ s₅ past₅ _
  split
  · exact leads_awaits hwakes
  · trivial

end SetPeerInfo

/-!
## Calls that complete once
-/

section Completing

variable {E E' : Around} {s s' : DirectPlay8Peer} {past : Deeds} {proc : Proc}
  {call : Call}

theorem Proc.TakesOn.reportsFirst (h : proc.TakesOn s call) :
    call.counter.operation.reportsFirst = true := by
  cases h with
  | sendTo =>
      unfold sendCall
      dsimp only
      split <;> rfl
  | setPeerInfo => rfl

theorem Proc.TakesOn.owed_ne_zero (h : proc.TakesOn s call)
    (hasync : call.counter.sync = false) : call.owed ≠ 0 := by
  rw [← Multiset.card_pos]
  cases h with
  | @sendTo player payload ctx flags peerIds toSelf =>
      cases hflag : hasFlag flags dpnOpSync with
      | true =>
          rw [sendCall_sync hflag] at hasync
          cases hasync
      | false =>
          rw [sendCall_owed_card hflag]
          by_cases hnone : peerIds.length + (if toSelf then 1 else 0) = 0
          · rw [if_pos hnone]
            exact Nat.one_pos
          · rw [if_neg hnone]
            exact Nat.pos_of_ne_zero hnone
  | setPeerInfo =>
      rw [Call.owed, Multiset.card_add]
      exact Nat.add_pos_left Nat.one_pos _

theorem Proc.TakesOn.ran (h : proc.TakesOn s call)
    (hreturns : Returns machine E proc s s' past) : call.Ran s past := by
  cases h with
  | @sendTo player payload ctx flags peerIds toSelf hstate hprocess htargets =>
      have hpeers := sendTargets_peers htargets
      rcases sendTo_taken payload ctx hstate hprocess htargets with
        ⟨next, hbody, hnext⟩
      have hallows : allows machine E (fun _ _ _ _ _ => True)
          (.sendTo player payload ctx flags) (Action.sendTo player payload ctx flags)
          (fun _ _ past' => (sendCall s ctx flags peerIds toSelf).Ran s past') s [] := by
        rw [hbody]
        show allows machine E _ _ (next s) _ s []
        rw [hnext]
        split
        · rename_i hsync
          exact sendSync_allows hsync hpeers
        · rename_i hasync
          exact sendAsync_allows (Bool.eq_false_of_not_eq_true hasync) hpeers
      exact hreturns.allowed (unspecified E) hallows
  | setPeerInfo hsize hstate =>
      exact hreturns.allowed (unspecified E) (setPeerInfo_allows hsize hstate)

theorem Call.Ran.start_kept (h : call.Ran s past)
    (hasync : call.counter.sync = false -> call.owed ≠ 0) :
    (call.start s past).Kept s.nextAddr call.counter where
  going := by
    intro _
    exact ⟨h.placed.counter, h.placed.reported⟩
  finished := by
    intro hnone hflag
    exact absurd hnone (hasync hflag)

theorem Call.Ran.completesOnce (h : call.Ran s past) (hE : E.Keeps s.nextAddr)
    (htaken : proc.TakesOn s call) (hmemory : call.owed.card < 2 ^ 32) :
    call.CompletesOnce E s past := by
  have hfirst := htaken.reportsFirst
  have hkept : forall t, Life E s.nextAddr (call.start s past) t ->
      t.Kept s.nextAddr call.counter ∧ t.owed.card < 2 ^ 32 :=
    fun t ht => ht.kept hE hfirst hmemory (h.start_kept htaken.owed_ne_zero)
  constructor
  · exact h.placed.parts
  · intro t ht
    exact (hkept t ht).1
  · intro t part proc code result ht hpart hruns
    have hgoing := (hkept t ht).1.going (Or.inl (ne_zero_of_mem hpart))
    exact leads_mono (hruns.leads hE hgoing.1 hfirst) fun _ _ _ _ => trivial
  · exact h.async
  · intro hsync
    rcases h.sync hsync with ⟨woken, hwoken, hcounted, hreturned⟩
    refine ⟨by rw [hwoken]; rfl, ?_⟩
    intro t ht hsame
    cases hwoken.symm.trans hsame
    have hgoing := ((hkept t ht).1.going (Or.inr hsync)).1
    rw [DirectPlay8Peer.counted, hgoing] at hcounted
    have hzero : UInt32.ofNat t.owed.card = 0 := beq_iff_eq.mp hcounted
    rw [ofNat_eq_zero (hkept t ht).2, Multiset.card_eq_zero] at hzero
    rw [hreturned, hgoing]
    exact ⟨hzero, rfl⟩
  · intro hsync t ht hnone
    have hgoing := ((hkept t ht).1.going (Or.inr hsync)).1
    rw [DirectPlay8Peer.counted, hgoing, hnone]
    rfl

theorem Proc.TakesOn.ends (h : proc.TakesOn s call) (hspares : E.Spares s.nextAddr)
    (hwakes : E.Wakes s.nextAddr) : proc.EndsIn E s fun _ _ => True := by
  rw [Proc.endsIn_iff]
  cases h with
  | @sendTo player payload ctx flags peerIds toSelf hstate hprocess htargets =>
      have hpeers := sendTargets_peers htargets
      rcases sendTo_taken payload ctx hstate hprocess htargets with
        ⟨next, hbody, hnext⟩
      show leads machine E _ (Action.sendTo player payload ctx flags) _ s []
      rw [hbody]
      show leads machine E _ (next s) _ s []
      rw [hnext]
      split
      · exact sendSync_leads hwakes hpeers
      · rename_i hasync
        apply leads_mono (sendAsync_leads (Bool.eq_false_of_not_eq_true hasync) hpeers)
        intro _ _ _ _
        trivial
  | setPeerInfo hsize hstate => exact setPeerInfo_leads hspares hwakes hsize hstate

/--
A call of `SendTo` or `SetPeerInfo` that is taken on completes once with its first
failure, in whatever order and with whatever outcome its parts are run, as long as the
others leave its counter alone.
-/
theorem completes_once (hE : E.Keeps s.nextAddr) (htaken : proc.TakesOn s call)
    (hmemory : call.owed.card < 2 ^ 32) :
    (forall s' past, Returns machine E' proc s s' past ->
      call.CompletesOnce E s past) ∧
      (E'.Spares s.nextAddr -> E'.Wakes s.nextAddr ->
        proc.EndsIn E' s fun _ _ => True) := by
  constructor
  · intro s' past hreturns
    exact (htaken.ran hreturns).completesOnce hE htaken hmemory
  · intro hspares hwakes
    exact htaken.ends hspares hwakes

/-- A host sends to its two clients and to itself. -/
theorem completes_once_member :
    exists (c : Run) (past : Deeds),
      Reaches machine DirectPlay8Peer.Constructed Unrestricted c ∧ c.Free ∧
        (sendCall c.state contextNull 0 [0, 2] true).owed.card = 3 ∧
        (sendCall c.state contextNull 0 [0, 2] true).CompletesOnce
          (Around.strangers c.state.nextAddr) c.state past := by
  have hrun : (replay Unrestricted choicesMember).any (fun c =>
      (c.calls (.sendTo 0 [1] contextNull 0) fun _ => {}).any fun _ =>
        decide (c.Free ∧ c.state.state = .hosting ∧
          Action.sendTargets c.state 0 0 = .targets [0, 2] true)) = true := by
    decide +kernel
  rcases replay_reaches hrun with ⟨c, hc, hany⟩
  rcases (Option.any_eq_true _ _).mp hany with ⟨v, hv, htest⟩
  rcases of_decide_eq_true htest with ⟨hfree, hhosting, htargets⟩
  have htaken : Proc.TakesOn c.state (.sendTo 0 [1] contextNull 0)
      (sendCall c.state contextNull 0 [0, 2] true) := by
    apply Proc.TakesOn.sendTo ?_ (by decide) htargets
    rw [hhosting]
    exact List.mem_cons_self
  have hcard : (sendCall c.state contextNull 0 [0, 2] true).owed.card = 3 :=
    sendCall_owed_card (by decide)
  exact ⟨c, v.past, hc, hfree, hcard,
    (completes_once (strangers_keep _) htaken (by rw [hcard]; decide)).1 _ _
      (Run.calls_returns hv)⟩

end Completing

end DirectPlayLite
