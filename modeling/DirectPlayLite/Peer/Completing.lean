import DirectPlayLite.Peer.Groups
import DirectPlayLite.Peer.Endings

/-!
# Calls that complete

An asynchronous `SendTo` or `SetPeerInfo` hands out parts: ops, acks, a loopback
message, a thread of its own.  Whoever takes one of them runs its callback, in any
order and with any outcome; the last of them reports the call, with the error of the
first that has failed.
-/

namespace DirectPlayLite

open Monitor Program

def firstFailure (results : List HRESULT) : HRESULT :=
  (results.find? (· != sOk)).getD sOk

theorem firstFailure_append (results : List HRESULT) (result : HRESULT) :
    firstFailure (results ++ [result]) =
      if result ≠ sOk ∧ firstFailure results = sOk then result
      else firstFailure results := by
  unfold firstFailure
  rw [List.find?_append]
  cases hfound : results.find? (· != sOk) with
  | some found =>
      have hfailed : found ≠ sOk := by
        simpa using List.find?_some hfound
      simp [hfailed]
  | none =>
      by_cases hok : result = sOk <;> simp [hok]

/-!
## Parts of a call
-/

/-- What a call hands out, and what counts for it when its callback has been run. -/
inductive Part where
  /-- An op of `SendTo`. -/
  | sent
  /-- An op of `SetPeerInfo`, which is answered with an ack. -/
  | requested (peerId : UInt32) (ackId : DWORD)
  /-- A registered ack. -/
  | ack
  /-- A loopback message. -/
  | work
  /-- The thread that completes a `SendTo` without targets. -/
  | thread
  /-- What `SetPeerInfo` does itself. -/
  | own
deriving Repr, DecidableEq

/-- The part of the call with the counter `addr` an op belongs to. -/
def SendCallback.part (addr : Nat) : SendCallback -> Option Part
  | .sent completion => if completion = addr then some .sent else none
  | .requested peerId ackId completion =>
      if completion = addr then some (.requested peerId ackId) else none
  | _ => none

def AckCallback.part (addr : Nat) : AckCallback -> Option Part
  | .complete completion => if completion = addr then some .ack else none
  | _ => none

/-- The part of a call that is handed out by a step; a peer must be there to take it. -/
def Deed.part (addr : Nat) (deed : Deed) : Option Part :=
  match deed.2 with
  | .exec _ (.peer peerId (.send _ _ _ callback)) =>
      if (deed.1.peers[peerId]?).isSome then callback.part addr else none
  | .exec _ (.peer peerId (.registerAck _ callback)) =>
      if (deed.1.peers[peerId]?).isSome then callback.part addr else none
  | .exec _ (.pushWork work) => if work.completion = addr then some .work else none
  | .spawn _ (.sendCompleteThread completion) =>
      if completion = addr then some .thread else none
  | _ => none

/-- The parts of a call a thread has handed out. -/
def Deeds.parts (addr : Nat) (past : Deeds) : List Part :=
  past.filterMap (Deed.part addr)

/-- The notifications that a call has completed, earliest first. -/
def Deeds.reported (past : Deeds) : List Notification :=
  past.reverse.filterMap fun deed =>
    match deed.2 with
    | .exec _ (.log (.raised (.sendComplete handle ctx result flags))) =>
        some (.sendComplete handle ctx result flags)
    | .exec _ (.log (.raised (.asyncOpComplete handle ctx result))) =>
        some (.asyncOpComplete handle ctx result)
    | _ => none

/--
How a part is run, by which procedure, and with which result it completes; an op of
`SetPeerInfo` that has been sent does not complete but is answered with an ack.
-/
inductive Part.Runs (addr : Nat) : Part -> Proc -> Action Unit -> Option HRESULT -> Prop
  | sent (result : HRESULT) :
      Runs addr .sent (.invokeCallback (.sent addr) result)
        (Action.invokeCallback (.sent addr) result) (some result)
  | answered (peerId : UInt32) (ackId : DWORD) :
      Runs addr (.requested peerId ackId)
        (.invokeCallback (.requested peerId ackId addr) sOk)
        (Action.invokeCallback (.requested peerId ackId addr) sOk) none
  | refused (peerId : UInt32) (ackId : DWORD) {result : HRESULT} (h : result ≠ sOk) :
      Runs addr (.requested peerId ackId)
        (.invokeCallback (.requested peerId ackId addr) result)
        (Action.invokeCallback (.requested peerId ackId addr) result) (some result)
  | ack (result : HRESULT) (data : List UInt8) :
      Runs addr .ack (.invokeAck (.complete addr) result data)
        (Action.invokeAck (.complete addr) result data) (some result)
  /-- The end of `handle_work`, behind the call of the message handler. -/
  | work : Runs addr .work .handleWork (Action.complete addr sOk) (some sOk)
  | thread :
      Runs addr .thread (.sendCompleteThread addr) (Action.sendCompleteThread addr)
        (some sOk)
  /-- The part of `SetPeerInfo` behind the call of the message handler. -/
  | own (info : PlayerInfo) (ctx : Context) (flags : DWORD) :
      Runs addr .own (.setPeerInfo info ctx flags) (Action.complete addr sOk)
        (some sOk)

/-!
## Runs of the parts
-/

/-- A call at some time: what it has handed out, and what has come of it. -/
structure Tally where
  state : DirectPlay8Peer
  /-- The parts whose callbacks have not been run. -/
  owed : Multiset Part
  /-- The results of those that have completed, earliest first. -/
  results : List HRESULT
  /-- What the application has been told of completions. -/
  reported : List Notification

/--
What may come of a call: its parts are run in any order and with any outcome, each
exactly once, and the others do what they do in between.
-/
inductive Life (E : Around) (addr : Nat) (t₀ : Tally) : Tally -> Prop where
  | start : Life E addr t₀ t₀
  | others {t : Tally} {s : DirectPlay8Peer} :
      Life E addr t₀ t -> E.others t.state s -> Life E addr t₀ { t with state := s }
  | run {t : Tally} {part : Part} {proc : Proc} {code : Action Unit}
      {result : Option HRESULT} {s : DirectPlay8Peer} {past : Deeds} :
      Life E addr t₀ t -> part ∈ t.owed -> part.Runs addr proc code result ->
      Monitor.Runs machine E proc code t.state s past ->
      Life E addr t₀
        { state := s
          owed := t.owed.erase part + Multiset.ofList (past.parts addr)
          results := t.results ++ result.toList
          reported := t.reported ++ past.reported }

/-- The others leave the counter of the call alone, which only its parts know. -/
def Around.Keeps (E : Around) (addr : Nat) : Prop :=
  forall s s', E.others s s' -> s'.completions[addr]? = s.completions[addr]?

/-- What the application is told when a call of the two methods completes. -/
def Completion.report (c : Completion) : List Notification :=
  if c.sync then []
  else
    match c.operation with
    | .sendTo flags =>
        if hasFlag flags dpnSendNoComplete then []
        else [.sendComplete c.handle c.ctx c.result (Action.receiveFlags flags)]
    | .setPeerInfo => [.asyncOpComplete c.handle c.ctx c.result]
    | _ => []

/-- The counter of a call, with some parts to come and some results. -/
def Completion.tallied (c : Completion) (owed : Nat) (results : List HRESULT) :
    Completion :=
  { c with pending := UInt32.ofNat owed, result := firstFailure results }

/--
As long as parts are owed nothing is reported; when none are left, the call has been
reported once with its first failure, and its counter is gone.  A synchronous call
keeps its counter and reports nothing.
-/
structure Tally.Kept (addr : Nat) (c : Completion) (t : Tally) : Prop where
  going : t.owed ≠ 0 ∨ c.sync = true ->
    t.state.completions[addr]? = some (c.tallied t.owed.card t.results) ∧
      t.reported = []
  finished : t.owed = 0 -> c.sync = false ->
    t.state.completions[addr]? = none ∧
      t.reported = (c.tallied 0 t.results).report

/-!
## Running a part
-/

def Operation.reportsFirst : Operation -> Bool
  | .sendTo _ | .setPeerInfo => true
  | _ => false

def Completion.counted (c : Completion) (result : HRESULT) : Completion :=
  { c with
    pending := c.pending - 1
    result := if result ≠ sOk ∧ c.result = sOk then result else c.result }

section Counting

variable {past : Deeds} {s : DirectPlay8Peer} {addr : Nat} {c : Completion}

theorem reported_cons (deed : Deed) (past : Deeds) :
    Deeds.reported (deed :: past) = Deeds.reported past ++ Deeds.reported [deed] := by
  unfold Deeds.reported
  rw [List.reverse_cons, List.filterMap_append]
  rfl

theorem getElem?_completion (s : DirectPlay8Peer) (addr : Nat)
    (change : CompletionCommand) :
    ((Command.completion addr change).apply s).completions[addr]? =
      (s.completions[addr]?).bind (change.apply ·) := by
  show (s.completions.alter addr (·.bind (change.apply ·)))[addr]? = _
  rw [Std.ExtTreeMap.getElem?_alter_self]

theorem counted_state (hc : s.completions[addr]? = some c) (result : HRESULT) :
    ((Command.completion addr .decrement).apply
        ((Command.completion addr (.setResult (c.counted result).result)).apply
          s)).completions[addr]? = some (c.counted result) := by
  rw [getElem?_completion, getElem?_completion, hc]
  rfl

end Counting

section Running

variable {E : Around} {p : Proc} {s : DirectPlay8Peer} {past : Deeds} {addr : Nat}
  {c : Completion} {result : HRESULT}

structure Counted (addr : Nat) (c : Completion) (result : HRESULT) (past : Deeds)
    (s' : DirectPlay8Peer) (past' : Deeds) : Prop where
  parts : past'.parts addr = past.parts addr
  last : c.pending - 1 = 0 ∧ c.sync = false ->
    s'.completions[addr]? = none ∧
      past'.reported = past.reported ++ (c.counted result).report
  more : ¬ (c.pending - 1 = 0 ∧ c.sync = false) ->
    s'.completions[addr]? = some (c.counted result) ∧ past'.reported = past.reported

structure Told (addr : Nat) (report : List Notification) (past : Deeds)
    (s' : DirectPlay8Peer) (past' : Deeds) : Prop where
  gone : s'.completions[addr]? = none
  parts : past'.parts addr = past.parts addr
  reported : past'.reported = past.reported ++ report

theorem leads_tell (hE : E.Keeps addr) (hgone : s.completions[addr]? = none)
    {notification : Notification}
    (hreports : forall s p, Deeds.reported [(s, .exec p (.log (.raised notification)))] =
      [notification]) :
    leads machine E p (Action.raise notification >>= fun _ => pure ())
      (fun _ => Told addr [notification] past) s past := by
  rw [leads_raise]
  intro s' answer hothers
  constructor
  · rw [hE _ _ hothers]
    exact hgone
  · rfl
  · have hlogged := reported_cons (s, .exec p (.log (.raised notification))) past
    rw [hreports] at hlogged
    show Deeds.reported ((s', .resume p (.messageHandler notification) answer) ::
      (s, .exec p (.log (.raised notification))) :: past) = _
    rw [reported_cons, hlogged]
    exact List.append_nil _

theorem leads_counted {tell : Action Unit} (hc : s.completions[addr]? = some c)
    (htell : c.sync = false -> forall s past, s.completions[addr]? = none ->
      leads machine E p tell (fun _ => Told addr (c.counted result).report past) s past) :
    leads machine E p (do
      Action.perform (.completion addr (.setResult (c.counted result).result))
      Action.perform (.completion addr .decrement)
      Action.onlyIf (c.pending - 1 = 0 ∧ c.sync = false) do
        Action.perform (.completion addr .delete)
        tell)
      (fun _ => Counted addr c result past) s past := by
  rw [leads_perform, leads_perform]
  have hcounted := counted_state hc result
  apply leads_onlyIf
  · intro hlast
    rw [leads_perform]
    have hgone := getElem?_completion ((Command.completion addr .decrement).apply
      ((Command.completion addr (.setResult (c.counted result).result)).apply s))
      addr .delete
    rw [hcounted] at hgone
    apply leads_mono (htell hlast.2 _ _ hgone)
    intro _ s' past' htold
    refine ⟨htold.parts, fun _ => ⟨htold.gone, htold.reported.trans ?_⟩,
      fun hmore => absurd hlast hmore⟩
    rw [reported_cons, reported_cons, reported_cons]
    simp [Deeds.reported]
  · intro hmore
    refine ⟨rfl, fun hlast => absurd hlast hmore, fun _ => ⟨hcounted, ?_⟩⟩
    rw [reported_cons, reported_cons]
    simp [Deeds.reported]

theorem leads_complete (hE : E.Keeps addr) (hc : s.completions[addr]? = some c)
    (hfirst : c.operation.reportsFirst = true) :
    leads machine E p (Action.complete addr result)
      (fun _ => Counted addr c result past) s past := by
  rw [Action.complete, leads_get, hc]
  dsimp only
  cases hop : c.operation with
  | sendTo flags =>
      apply leads_counted hc
      intro hasync s past hgone
      have hreport : (c.counted result).report =
          if hasFlag flags dpnSendNoComplete then []
          else [.sendComplete c.handle c.ctx (c.counted result).result
            (Action.receiveFlags flags)] := by
        simp only [Completion.report, Completion.counted, hasync, hop]
        rfl
      rw [hreport]
      apply leads_onlyIf
      · intro hnotify
        have hnotified : ¬ hasFlag flags dpnSendNoComplete = true := by
          rw [hnotify]
          exact Bool.false_ne_true
        rw [if_neg hnotified]
        exact leads_tell hE hgone fun _ _ => rfl
      · intro hquiet
        have hunnotified : hasFlag flags dpnSendNoComplete = true := by
          simpa using hquiet
        rw [if_pos hunnotified]
        exact ⟨hgone, rfl, (List.append_nil _).symm⟩
  | setPeerInfo =>
      apply leads_counted hc
      intro hasync s past hgone
      have hreport : (c.counted result).report =
          [.asyncOpComplete c.handle c.ctx (c.counted result).result] := by
        simp only [Completion.report, Completion.counted, hasync, hop]
        rfl
      rw [hreport]
      exact leads_tell hE hgone fun _ _ => rfl
  | _ =>
      rw [hop] at hfirst
      cases hfirst

structure Handed (addr : Nat) (parts : List Part) (s : DirectPlay8Peer) (past : Deeds)
    (s' : DirectPlay8Peer) (past' : Deeds) : Prop where
  counter : s'.completions[addr]? = s.completions[addr]?
  parts : (past'.parts addr).Perm (parts ++ past.parts addr)
  reported : past'.reported = past.reported

theorem getElem?_completions_peer (s : DirectPlay8Peer) (peerId : UInt32)
    (change : PeerCommand) (addr : Nat) :
    ((Command.peer peerId change).apply s).completions[addr]? = s.completions[addr]? := by
  show (Command.applyPeer s peerId change).completions[addr]? = _
  unfold Command.applyPeer
  split <;> rfl

theorem getElem?_completions_apply {command : Command}
    (hother : forall change, command ≠ .completion addr change)
    (hmade : addr < s.nextAddr) :
    (command.apply s).completions[addr]? = s.completions[addr]? := by
  cases command with
  | peer peerId change => exact getElem?_completions_peer s peerId change addr
  | completion other change =>
      have hne : ¬ compare other addr = .eq := by
        intro hsame
        rw [Std.LawfulEqCmp.compare_eq_iff_eq] at hsame
        exact hother change (by rw [hsame])
      show (s.completions.alter other (·.bind (change.apply ·)))[addr]? = _
      rw [Std.ExtTreeMap.getElem?_alter, if_neg hne]
  | newCompletion made =>
      have hne : ¬ compare s.nextAddr addr = .eq := by
        intro hsame
        rw [Std.LawfulEqCmp.compare_eq_iff_eq] at hsame
        exact hmade.ne hsame.symm
      show (s.completions.insert s.nextAddr made)[addr]? = _
      rw [Std.ExtTreeMap.getElem?_insert, if_neg hne]
  | session change => cases change <;> rfl
  | connect change => cases change <;> rfl
  | «local» change => cases change <;> rfl
  | setSocket which sock => cases which <;> rfl
  | _ => rfl

/-- What threads do that do not know a counter which has been made. -/
inductive Strangers (addr : Nat) (s : DirectPlay8Peer) : DirectPlay8Peer -> Prop where
  | refl : Strangers addr s s
  | exec {s' : DirectPlay8Peer} {command : Command} :
      Strangers addr s s' -> addr < s'.nextAddr ->
      (forall change, command ≠ .completion addr change) ->
      Strangers addr s (command.apply s')

def Around.strangers (addr : Nat) : Around :=
  Around.ofOthers (Strangers addr) fun _ => .refl

theorem strangers_keep (addr : Nat) : (Around.strangers addr).Keeps addr := by
  intro s s' h
  induction h with
  | refl => rfl
  | exec _ hmade hother ih => exact (getElem?_completions_apply hother hmade).trans ih

theorem allows_answered {specs : Specs DirectPlay8Peer Command Query Answer Proc Fault}
    {peerId : UInt32} {ackId : DWORD} :
    allows machine E specs p (Action.invokeCallback (.requested peerId ackId addr) sOk)
      (fun _ => Handed addr [.ack] s []) s [] := by
  rw [Action.invokeCallback, if_pos rfl]
  have hsilent : Handed addr [] s [] s [] := ⟨rfl, .refl _, rfl⟩
  apply allows_assertedPeer (Handed addr [] s []) hsilent ⟨rfl, .refl _, rfl⟩
  intro s₁ past₁ _ h₁ _
  rw [Action.registerAck]
  apply allows_peerAt
  intro peer hpeer
  apply allows_assertThat (fun s' past' => Handed addr [] s [] s' past' ∧
    s'.peers[peerId]? = some peer)
  · exact ⟨h₁, hpeer⟩
  · refine ⟨⟨h₁.counter, h₁.parts, ?_⟩, hpeer⟩
    rw [reported_cons, h₁.reported]
    rfl
  intro s₂ past₂ h₂
  have hpart : Deed.part addr (s₂, .exec p
      (.peer peerId (.registerAck ackId (.complete addr)))) = some .ack := by
    simp [Deed.part, AckCallback.part, h₂.2]
  show Handed addr [.ack] s [] _ _
  constructor
  · exact (getElem?_completions_peer _ _ _ _).trans h₂.1.counter
  · show (List.filterMap (Deed.part addr) (_ :: past₂)).Perm _
    rw [List.filterMap_cons_some hpart]
    exact h₂.1.parts.cons _
  · rw [reported_cons, h₂.1.reported]
    rfl

end Running

/-!
## Calls at any time
-/

section Lives

variable {E : Around} {addr : Nat} {c : Completion} {t t₀ : Tally}

theorem ofNat_eq_zero {n : Nat} (hn : n < 2 ^ 32) : UInt32.ofNat n = 0 ↔ n = 0 := by
  rw [← UInt32.toNat_inj, UInt32.toNat_ofNat', Nat.mod_eq_of_lt hn]
  rfl

theorem ofNat_succ_sub_one (n : Nat) : UInt32.ofNat (n + 1) - 1 = UInt32.ofNat n := by
  rw [UInt32.ofNat_add]
  exact UInt32.add_sub_cancel _ _

theorem counted_tallied (n : Nat) (results : List HRESULT) (result : HRESULT) :
    (c.tallied (n + 1) results).counted result = c.tallied n (results ++ [result]) := by
  unfold Completion.counted Completion.tallied
  dsimp only
  rw [ofNat_succ_sub_one, firstFailure_append]

theorem Part.Runs.leads {part : Part} {proc : Proc} {code : Action Unit}
    {result : HRESULT} {s : DirectPlay8Peer} {past : Deeds}
    (h : part.Runs addr proc code (some result)) (hE : E.Keeps addr)
    (hc : s.completions[addr]? = some c) (hfirst : c.operation.reportsFirst = true) :
    Monitor.leads machine E proc code (fun _ => Counted addr c result past) s past := by
  cases h with
  | sent => exact leads_complete hE hc hfirst
  | refused peerId ackId hfailed =>
      rw [Action.invokeCallback, if_neg hfailed]
      exact leads_complete hE hc hfirst
  | ack => exact leads_complete hE hc hfirst
  | work => exact leads_complete hE hc hfirst
  | thread => exact leads_complete hE hc hfirst
  | own => exact leads_complete hE hc hfirst

theorem ne_zero_of_mem {part : Part} (hpart : part ∈ t.owed) : t.owed ≠ 0 := by
  intro hnone
  rw [hnone] at hpart
  exact Multiset.notMem_zero part hpart

theorem Tally.Kept.answered {s : DirectPlay8Peer} {past : Deeds} {part : Part}
    (h : t.Kept addr c) (hpart : part ∈ t.owed)
    (hhanded : Handed addr [.ack] t.state [] s past) :
    Tally.Kept addr c
      { state := s
        owed := t.owed.erase part + Multiset.ofList (past.parts addr)
        results := t.results ++ []
        reported := t.reported ++ past.reported } := by
  have hparts : Multiset.ofList (past.parts addr) = {Part.ack} :=
    Multiset.coe_eq_coe.mpr hhanded.parts
  have hgoing := h.going (Or.inl (ne_zero_of_mem hpart))
  have hcard : (t.owed.erase part + {Part.ack}).card = t.owed.card := by
    rw [Multiset.card_add, Multiset.card_singleton, Multiset.card_erase_add_one hpart]
  rw [hparts, hhanded.reported, List.append_nil]
  constructor
  · intro _
    dsimp only
    rw [hcard, hhanded.counter, hgoing.1, hgoing.2]
    exact ⟨rfl, rfl⟩
  · intro hnone
    dsimp only at hnone
    rw [← Multiset.card_eq_zero, hcard, Multiset.card_eq_zero] at hnone
    exact absurd hnone (ne_zero_of_mem hpart)

theorem Tally.Kept.completed {s : DirectPlay8Peer} {past : Deeds} {part : Part}
    {result : HRESULT} (h : t.Kept addr c) (hcount : t.owed.card < 2 ^ 32)
    (hpart : part ∈ t.owed)
    (hcounted : Counted addr (c.tallied t.owed.card t.results) result [] s past) :
    Tally.Kept addr c
      { state := s
        owed := t.owed.erase part + Multiset.ofList (past.parts addr)
        results := t.results ++ [result]
        reported := t.reported ++ past.reported } := by
  have hgoing := h.going (Or.inl (ne_zero_of_mem hpart))
  have hcard := Multiset.card_erase_add_one hpart
  have hless : (t.owed.erase part).card < 2 ^ 32 := by omega
  rw [← hcard] at hcounted
  have hpending : (c.tallied ((t.owed.erase part).card + 1) t.results).pending - 1 = 0 ↔
      t.owed.erase part = 0 := by
    show UInt32.ofNat ((t.owed.erase part).card + 1) - 1 = 0 ↔ _
    rw [ofNat_succ_sub_one, ofNat_eq_zero hless, Multiset.card_eq_zero]
  have hleft : t.owed.erase part + Multiset.ofList (past.parts addr) =
      t.owed.erase part := by
    rw [hcounted.parts]
    exact Multiset.add_zero _
  rw [hleft, hgoing.2]
  have hlast := hcounted.last
  have hmore := hcounted.more
  rw [counted_tallied, hpending] at hlast hmore
  constructor
  · intro howed
    have hstill : ¬ (t.owed.erase part = 0 ∧ c.sync = false) := by
      intro hover
      rcases howed with hnonzero | hsync
      · exact hnonzero hover.1
      · cases hsync.symm.trans hover.2
    exact hmore hstill
  · intro hzero hasync
    have hdone := hlast ⟨hzero, hasync⟩
    have hnone : (t.owed.erase part).card = 0 := Multiset.card_eq_zero.mpr hzero
    rw [hnone] at hdone
    exact hdone

theorem card_run_le {part : Part} {parts : List Part} (hpart : part ∈ t.owed)
    (hfew : parts.length ≤ 1) :
    (t.owed.erase part + Multiset.ofList parts).card ≤ t.owed.card := by
  rw [Multiset.card_add, Multiset.coe_card, ← Multiset.card_erase_add_one hpart]
  exact Nat.add_le_add_left hfew _

theorem Part.Runs.handed {part : Part} {proc : Proc} {code : Action Unit}
    {s s' : DirectPlay8Peer} {past : Deeds} (h : part.Runs addr proc code none)
    (hrun : Monitor.Runs machine E proc code s s' past) :
    Handed addr [.ack] s [] s' past := by
  cases h with
  | answered => exact hrun.allowed (unspecified E) allows_answered

theorem Life.kept (hE : E.Keeps addr) (hfirst : c.operation.reportsFirst = true)
    (hcount : t₀.owed.card < 2 ^ 32) (h₀ : t₀.Kept addr c) (h : Life E addr t₀ t) :
    t.Kept addr c ∧ t.owed.card < 2 ^ 32 := by
  induction h with
  | start => exact ⟨h₀, hcount⟩
  | others _ hothers ih =>
      have hsame := hE _ _ hothers
      refine ⟨⟨?_, ?_⟩, ih.2⟩
      · intro howed
        exact ⟨hsame.trans (ih.1.going howed).1, (ih.1.going howed).2⟩
      · intro hzero hasync
        exact ⟨hsame.trans (ih.1.finished hzero hasync).1, (ih.1.finished hzero hasync).2⟩
  | @run t part proc code result s past _ hpart hruns hrun ih =>
      cases result with
      | none =>
          have hhanded := hruns.handed hrun
          refine ⟨ih.1.answered hpart hhanded, ?_⟩
          exact (card_run_le hpart hhanded.parts.length_eq.le).trans_lt ih.2
      | some result =>
          have hgoing := ih.1.going (Or.inl (ne_zero_of_mem hpart))
          have hcounted := hrun.led (hruns.leads hE hgoing.1 hfirst)
          refine ⟨ih.1.completed ih.2 hpart hcounted, ?_⟩
          have hnone : (past.parts addr).length ≤ 1 := by
            rw [hcounted.parts]
            exact Nat.zero_le 1
          exact (card_run_le hpart hnone).trans_lt ih.2

end Lives

end DirectPlayLite
