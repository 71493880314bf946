import DirectPlayLite.Lib.Ticks
import DirectPlayLite.Packet.Serialiser

/-!
# The requests of a host enumerator

The thread of a `HostEnumerator` sends a number of requests, one interval apart, and
ends some time after the last of them.  Its deadlines are tick counts of 32 bits.
-/

namespace DirectPlayLite

open Ticks

def infinite : DWORD := 0xFFFFFFFF

def defaultEnumCount : DWORD := 5
def defaultEnumInterval : DWORD := 1500
def defaultEnumTimeout : DWORD := 1500

def tickCount (time : Nat) : DWORD := UInt32.ofNat time

structure HostEnumerator where
  txRemain : DWORD
  txInterval : DWORD
  rxTimeout : DWORD
  nextTxAt : DWORD
  stopAt : DWORD
deriving Repr, DecidableEq

namespace HostEnumerator

/-- The constructor, which leaves `stop_at` with whatever was there. -/
def create (enumCount retryInterval timeOut stopAt : DWORD) : HostEnumerator where
  txRemain := if enumCount = 0 then defaultEnumCount else enumCount
  txInterval := if retryInterval = 0 then defaultEnumInterval else retryInterval
  rxTimeout := if timeOut = 0 then defaultEnumTimeout else timeOut
  nextTxAt := 0
  stopAt := stopAt

def sends (e : HostEnumerator) (now : DWORD) : Bool :=
  e.txRemain > 0 && now ≥ e.nextTxAt

def transmit (e : HostEnumerator) (now : DWORD) : HostEnumerator :=
  { e with
    nextTxAt := now + e.txInterval
    txRemain := e.txRemain - 1
    stopAt := if e.rxTimeout ≠ infinite then now + e.rxTimeout else e.stopAt }

def stops (e : HostEnumerator) (now : DWORD) : Bool :=
  e.txRemain = 0 && e.stopAt > 0 && now ≥ e.stopAt

end HostEnumerator

/-- The thread, with the times of what it has done. -/
structure Enumeration where
  enumerator : HostEnumerator
  /-- When requests were sent, latest first. -/
  sent : List Nat
  /-- When the loop was left. -/
  ended : Option Nat
deriving Repr, DecidableEq

namespace Enumeration

def round (s : Enumeration) (time : Nat) : Enumeration :=
  match s.ended with
  | some _ => s
  | none =>
      let now := tickCount time
      if s.enumerator.sends now then
        let e := s.enumerator.transmit now
        { enumerator := e, sent := time :: s.sent
          ended := if e.stops now then some time else none }
      else
        { s with ended := if s.enumerator.stops now then some time else none }

/--
`main`, which nobody cancels, after some rounds.  The times are those at which it
reads the tick count, whatever has woken it up.
-/
def main (e : HostEnumerator) (times : Nat -> Nat) : Nat -> Enumeration
  | 0 => { enumerator := e, sent := [], ended := none }
  | rounds + 1 => (main e times rounds).round (times rounds)

/-!
## What is asked of the thread
-/

/-- All requests are sent, one interval apart, and then there is time for replies. -/
structure EnumeratesWell (e : HostEnumerator) (times : Nat -> Nat) : Prop where
  count : exists i, forall j, i ≤ j -> (main e times j).sent.length = e.txRemain.toNat
  apart : forall i, (main e times i).sent.IsChain
    fun later earlier => earlier + e.txInterval.toNat ≤ later
  waited : forall i stop, (main e times i).ended = some stop ->
    (main e times i).sent.length = e.txRemain.toNat ∧
      exists last rest, (main e times i).sent = last :: rest ∧
        last + e.rxTimeout.toNat ≤ stop
  endless : e.rxTimeout = infinite -> forall i, (main e times i).ended = none

/-- The tick count does not wrap around at a wrong time. -/
structure Undisturbed (e : HostEnumerator) (times : Nat -> Nat) : Prop where
  /--
  While requests remain, the tick count is not read between the last request and a
  wrap that the time for the next one lies behind.
  -/
  timely : forall i last rest, (main e times i).ended = none ->
    0 < (main e times i).enumerator.txRemain ->
    (main e times i).sent = last :: rest ->
    turn (2 ^ 32) (times i) = turn (2 ^ 32) last ->
    turn (2 ^ 32) (last + e.txInterval.toNat) = turn (2 ^ 32) last
  /-- While requests remain, the time for the next one is not missed for ever. -/
  noticed : forall i, 0 < (main e times i).enumerator.txRemain ->
    exists j, i ≤ j ∧ (main e times i).enumerator.nextTxAt ≤ tickCount (times j)
  /-- The last request leaves its time for replies before the next wrap. -/
  early : e.rxTimeout ≠ infinite -> forall i, (main e times i).ended = none ->
    (main e times i).enumerator.txRemain = 1 ->
    (main e times i).enumerator.sends (tickCount (times i)) = true ->
    (tickCount (times i)).toNat + e.rxTimeout.toNat ≤ 2 ^ 32
  /-- What happens to be in `stop_at` is 0, or no tick count reaches it. -/
  unset : e.rxTimeout = infinite -> forall i, (main e times i).ended = none ->
    ((main e times i).enumerator.txRemain = 0 ∨
      (main e times i).enumerator.txRemain = 1 ∧
        (main e times i).enumerator.sends (tickCount (times i)) = true) ->
    e.stopAt = 0 ∨ tickCount (times i) < e.stopAt

/-!
## Tick counts
-/

theorem tickCount_toNat (time : Nat) : (tickCount time).toNat = time % 2 ^ 32 := rfl

theorem deadline_toNat (time : Nat) (span : DWORD) :
    (tickCount time + span).toNat = (time + span.toNat) % 2 ^ 32 := by
  rw [UInt32.toNat_add, tickCount_toNat, Nat.mod_add_mod]

theorem toNat_lt (x : DWORD) : x.toNat < 2 ^ 32 := x.toNat_lt

/-!
## One round
-/

section Rounds

variable {e : HostEnumerator} {s : Enumeration} {time time' : Nat}

theorem round_ended {stop : Nat} (h : s.ended = some stop) : s.round time = s := by
  unfold round
  rw [h]

theorem round_sends (h : s.ended = none)
    (hsends : s.enumerator.sends (tickCount time) = true) :
    s.round time =
      { enumerator := s.enumerator.transmit (tickCount time)
        sent := time :: s.sent
        ended :=
          if (s.enumerator.transmit (tickCount time)).stops (tickCount time) then
            some time
          else none } := by
  unfold round
  rw [h]
  dsimp only
  rw [if_pos hsends]

theorem round_waits (h : s.ended = none)
    (hsends : s.enumerator.sends (tickCount time) = false) :
    s.round time =
      { s with
        ended := if s.enumerator.stops (tickCount time) then some time else none } := by
  unfold round
  rw [h]
  dsimp only
  rw [if_neg (by simp [hsends])]

theorem sends_iff {now : DWORD} :
    s.enumerator.sends now = true ↔
      0 < s.enumerator.txRemain ∧ s.enumerator.nextTxAt ≤ now := by
  simp [HostEnumerator.sends]

theorem stops_iff {now : DWORD} :
    e.stops now = true ↔ e.txRemain = 0 ∧ 0 < e.stopAt ∧ e.stopAt ≤ now := by
  simp [HostEnumerator.stops, and_assoc]

theorem transmit_txRemain (now : DWORD) (h : 0 < e.txRemain) :
    (e.transmit now).txRemain.toNat + 1 = e.txRemain.toNat := by
  have hpos : 0 < e.txRemain.toNat := h
  have hone : (1 : DWORD) ≤ e.txRemain := UInt32.le_iff_toNat_le.mpr hpos
  show (e.txRemain - 1).toNat + 1 = _
  rw [UInt32.toNat_sub_of_le _ _ hone]
  exact Nat.sub_add_cancel hpos

theorem transmit_stopAt {now : DWORD} :
    (e.transmit now).stopAt =
      if e.rxTimeout ≠ infinite then now + e.rxTimeout else e.stopAt := rfl

structure Progress (e : HostEnumerator) (s : Enumeration) (time : Nat) : Prop where
  count : s.sent.length + s.enumerator.txRemain.toNat = e.txRemain.toNat
  interval : s.enumerator.txInterval = e.txInterval
  timeout : s.enumerator.rxTimeout = e.rxTimeout
  fresh : s.sent = [] -> s.enumerator.nextTxAt = 0
  last : forall last rest, s.sent = last :: rest ->
    last ≤ time ∧ s.enumerator.nextTxAt = tickCount last + e.txInterval ∧
      (e.rxTimeout ≠ infinite ->
        s.enumerator.stopAt = tickCount last + e.rxTimeout)
  unset : e.rxTimeout = infinite -> s.enumerator.stopAt = e.stopAt
  done : forall stop, s.ended = some stop -> s.enumerator.txRemain = 0

theorem Progress.later (h : Progress e s time) (hle : time ≤ time') :
    Progress e s time' := by
  refine ⟨h.count, h.interval, h.timeout, h.fresh, ?_, h.unset, h.done⟩
  intro last rest hsent
  rcases h.last last rest hsent with ⟨hlast, hdeadlines⟩
  exact ⟨hlast.trans hle, hdeadlines⟩

theorem Progress.round (h : Progress e s time) : Progress e (s.round time) time := by
  cases hended : s.ended with
  | some stop =>
      rw [round_ended hended]
      exact h
  | none =>
      cases hsends : s.enumerator.sends (tickCount time) with
      | true =>
          rw [round_sends hended hsends]
          constructor
          · have hremain := transmit_txRemain (tickCount time)
              (sends_iff.mp hsends).1
            have hcount := h.count
            simp only [List.length_cons]
            omega
          · exact h.interval
          · exact h.timeout
          · intro hnil
            cases hnil
          · intro last rest hsent
            cases hsent
            refine ⟨Nat.le_refl _, ?_, ?_⟩
            · show tickCount time + s.enumerator.txInterval = _
              rw [h.interval]
            · intro hfinite
              rw [transmit_stopAt, h.timeout, if_pos hfinite]
          · intro hinfinite
            rw [transmit_stopAt, h.timeout, if_neg (not_not.mpr hinfinite)]
            exact h.unset hinfinite
          · intro stop hstop
            dsimp only at hstop
            split at hstop
            · rename_i hstops
              exact (stops_iff.mp hstops).1
            · cases hstop
      | false =>
          rw [round_waits hended hsends]
          refine ⟨h.count, h.interval, h.timeout, h.fresh, h.last, h.unset, ?_⟩
          intro stop hstop
          dsimp only at hstop
          split at hstop
          · rename_i hstops
            exact (stops_iff.mp hstops).1
          · cases hstop

theorem round_ended_iff {stop : Nat} (h : s.ended = none) :
    (s.round time).ended = some stop ↔
      time = stop ∧ (s.round time).enumerator.stops (tickCount time) = true := by
  cases hsends : s.enumerator.sends (tickCount time) with
  | true =>
      rw [round_sends h hsends]
      dsimp only
      split <;> simp_all
  | false =>
      rw [round_waits h hsends]
      dsimp only
      split <;> simp_all

theorem stopAt_later {last : Nat} {span : DWORD}
    (hearly : last % 2 ^ 32 + span.toNat ≤ 2 ^ 32) (hset : 0 < tickCount last + span) :
    last % 2 ^ 32 + span.toNat < 2 ^ 32 ∧
      (tickCount last + span).toNat = last % 2 ^ 32 + span.toNat := by
  have hpos : 0 < (tickCount last + span).toNat := hset
  rw [UInt32.toNat_add, tickCount_toNat] at hpos ⊢
  by_cases hwrap : last % 2 ^ 32 + span.toNat = 2 ^ 32
  · rw [hwrap] at hpos
    cases hpos
  · have hless : last % 2 ^ 32 + span.toNat < 2 ^ 32 := by omega
    exact ⟨hless, Nat.mod_eq_of_lt hless⟩

end Rounds

/-!
## All rounds
-/

structure Created (e : HostEnumerator) : Prop where
  remain : 0 < e.txRemain.toNat
  timeout : 0 < e.rxTimeout.toNat
  next : e.nextTxAt = 0

theorem toNat_pos_of_default {x default : DWORD} (h : 0 < default.toNat) :
    0 < (if x = 0 then default else x).toNat := by
  split
  · exact h
  · rename_i hx
    exact UInt32.pos_iff_ne_zero.mpr hx

theorem create_created (enumCount retryInterval timeOut stopAt : DWORD) :
    Created (.create enumCount retryInterval timeOut stopAt) where
  remain := toNat_pos_of_default (by decide)
  timeout := toNat_pos_of_default (by decide)
  next := rfl

section Runs

variable {e : HostEnumerator} {times : Nat -> Nat}

theorem main_progress (he : Created e) (htimes : forall i, times i ≤ times (i + 1))
    (i : Nat) : Progress e (main e times i) (times i) := by
  induction i with
  | zero =>
      constructor
      · exact Nat.zero_add _
      · rfl
      · rfl
      · intro _
        exact he.next
      · intro last rest hsent
        cases hsent
      · intro _
        rfl
      · intro stop hstop
        cases hstop
  | succ i ih => exact ih.round.later (htimes i)

theorem round_kept (s : Enumeration) (time : Nat) :
    (s.round time).enumerator.txRemain.toNat < s.enumerator.txRemain.toNat ∨
      (s.round time).enumerator.txRemain = s.enumerator.txRemain ∧
        (s.round time).enumerator.nextTxAt = s.enumerator.nextTxAt := by
  cases hended : s.ended with
  | some stop =>
      rw [round_ended hended]
      exact Or.inr ⟨rfl, rfl⟩
  | none =>
      cases hsends : s.enumerator.sends (tickCount time) with
      | true =>
          rw [round_sends hended hsends]
          have hremain := transmit_txRemain (tickCount time)
            (sends_iff.mp hsends).1
          exact Or.inl (by dsimp only; omega)
      | false =>
          rw [round_waits hended hsends]
          exact Or.inr ⟨rfl, rfl⟩

theorem main_kept (e : HostEnumerator) (times : Nat -> Nat) {i j : Nat} (hle : i ≤ j) :
    (main e times j).enumerator.txRemain.toNat <
        (main e times i).enumerator.txRemain.toNat ∨
      (main e times j).enumerator.txRemain = (main e times i).enumerator.txRemain ∧
        (main e times j).enumerator.nextTxAt = (main e times i).enumerator.nextTxAt := by
  induction hle with
  | refl => exact Or.inr ⟨rfl, rfl⟩
  | @step j _ ih =>
      rcases ih with hless | ⟨hremain, hnext⟩
      · apply Or.inl
        rcases round_kept (main e times j) (times j) with hround | ⟨hround, _⟩
        · exact hround.trans hless
        · show ((main e times j).round (times j)).enumerator.txRemain.toNat < _
          rw [hround]
          exact hless
      · rcases round_kept (main e times j) (times j) with
          hround | ⟨hround, hround'⟩
        · apply Or.inl
          rw [hremain] at hround
          exact hround
        · exact Or.inr ⟨hround.trans hremain, hround'.trans hnext⟩

/-!
## Without a wrap at a wrong time
-/

theorem exists_remain_zero (he : Created e)
    (htimes : forall i, times i ≤ times (i + 1)) (h : Undisturbed e times) (i : Nat) :
    exists k, (main e times k).enumerator.txRemain = 0 := by
  induction hr : (main e times i).enumerator.txRemain.toNat using
    Nat.strong_induction_on generalizing i with
  | _ r ih =>
      by_cases hzero : (main e times i).enumerator.txRemain = 0
      · exact ⟨i, hzero⟩
      have hpos : 0 < (main e times i).enumerator.txRemain :=
        UInt32.pos_iff_ne_zero.mpr hzero
      rcases h.noticed i hpos with ⟨j, hle, hread⟩
      rcases main_kept e times hle with hless | ⟨hremain, hnext⟩
      · exact ih _ (by omega) j rfl
      · -- nothing has been sent since, so the request is sent in this round
        rw [← hnext] at hread
        rw [← hremain] at hpos
        have hsends : (main e times j).enumerator.sends (tickCount (times j)) = true :=
          sends_iff.mpr ⟨hpos, hread⟩
        have hended : (main e times j).ended = none := by
          cases hended : (main e times j).ended with
          | none => rfl
          | some stop =>
              rw [(main_progress he htimes j).done stop hended] at hpos
              cases hpos
        have hround : (main e times (j + 1)).enumerator =
            (main e times j).enumerator.transmit (tickCount (times j)) := by
          show ((main e times j).round (times j)).enumerator = _
          rw [round_sends hended hsends]
        have hless := transmit_txRemain (tickCount (times j)) hpos
        rw [← hround, hremain] at hless
        exact ih _ (by omega) (j + 1) rfl

theorem undisturbed_count (he : Created e)
    (htimes : forall i, times i ≤ times (i + 1)) (h : Undisturbed e times) :
    exists i, forall j, i ≤ j ->
      (main e times j).sent.length = e.txRemain.toNat := by
  rcases exists_remain_zero he htimes h 0 with ⟨i, hzero⟩
  refine ⟨i, ?_⟩
  intro j hle
  have hcount := (main_progress he htimes j).count
  have hnone : (main e times j).enumerator.txRemain.toNat = 0 := by
    rcases main_kept e times hle with hless | ⟨hremain, _⟩
    · rw [hzero] at hless
      cases hless
    · rw [hremain, hzero]
      rfl
  omega

theorem main_succ (i : Nat) :
    main e times (i + 1) = (main e times i).round (times i) := rfl

theorem undisturbed_apart (he : Created e)
    (htimes : forall i, times i ≤ times (i + 1)) (h : Undisturbed e times) (i : Nat) :
    (main e times i).sent.IsChain
      fun later earlier => earlier + e.txInterval.toNat ≤ later := by
  induction i with
  | zero => exact List.IsChain.nil
  | succ i ih =>
      rw [main_succ]
      cases hended : (main e times i).ended with
      | some stop =>
          rw [round_ended hended]
          exact ih
      | none =>
          cases hsends : (main e times i).enumerator.sends (tickCount (times i)) with
          | false =>
              rw [round_waits hended hsends]
              exact ih
          | true =>
              rw [round_sends hended hsends]
              rcases sends_iff.mp hsends with ⟨hpos, hread⟩
              cases hsent : (main e times i).sent with
              | nil => exact List.IsChain.singleton _
              | cons last rest =>
                  rw [hsent] at ih
                  have hprogress := main_progress he htimes i
                  rcases hprogress.last last rest hsent with ⟨hlast, hnext, _⟩
                  rw [hnext] at hread
                  have hshown : (last + e.txInterval.toNat) % 2 ^ 32 ≤
                      times i % 2 ^ 32 := by
                    rw [← deadline_toNat]
                    exact UInt32.le_iff_toNat_le.mp hread
                  have hpassed := passed hlast (toNat_lt _)
                    (h.timely i last rest hended hpos hsent) hshown
                  exact List.IsChain.cons_cons hpassed ih

theorem undisturbed_early (h : Undisturbed e times)
    (hfinite : e.rxTimeout ≠ infinite) (i : Nat) {last : Nat} {rest : List Nat}
    (hsent : (main e times i).sent = last :: rest)
    (hremain : (main e times i).enumerator.txRemain = 0) :
    last % 2 ^ 32 + e.rxTimeout.toNat ≤ 2 ^ 32 := by
  induction i with
  | zero => cases hsent
  | succ i ih =>
      rw [main_succ] at hsent hremain
      cases hended : (main e times i).ended with
      | some stop =>
          rw [round_ended hended] at hsent hremain
          exact ih hsent hremain
      | none =>
          cases hsends : (main e times i).enumerator.sends (tickCount (times i)) with
          | false =>
              rw [round_waits hended hsends] at hsent hremain
              exact ih hsent hremain
          | true =>
              rw [round_sends hended hsends] at hsent hremain
              cases hsent
              have hone := transmit_txRemain (tickCount (times i))
                (sends_iff.mp hsends).1
              dsimp only at hremain
              rw [hremain] at hone
              exact h.early hfinite i hended (UInt32.toNat_inj.mp hone.symm) hsends

theorem undisturbed_endless (he : Created e)
    (htimes : forall i, times i ≤ times (i + 1)) (h : Undisturbed e times)
    (hinfinite : e.rxTimeout = infinite) (i : Nat) : (main e times i).ended = none := by
  induction i with
  | zero => rfl
  | succ i ih =>
      rw [main_succ]
      have hprogress := (main_progress he htimes i).round
      cases hended : ((main e times i).round (times i)).ended with
      | none => rfl
      | some stop =>
          rcases (round_ended_iff ih).mp hended with ⟨_, hstops⟩
          rcases stops_iff.mp hstops with ⟨hremain, hset, hread⟩
          rw [hprogress.unset hinfinite] at hset hread
          have hcondition : (main e times i).enumerator.txRemain = 0 ∨
              (main e times i).enumerator.txRemain = 1 ∧
                (main e times i).enumerator.sends (tickCount (times i)) = true := by
            cases hsends : (main e times i).enumerator.sends (tickCount (times i)) with
            | false =>
                rw [round_waits ih hsends] at hremain
                exact Or.inl hremain
            | true =>
                rw [round_sends ih hsends] at hremain
                have hone := transmit_txRemain (tickCount (times i))
                  (sends_iff.mp hsends).1
                dsimp only at hremain
                rw [hremain] at hone
                exact Or.inr ⟨UInt32.toNat_inj.mp hone.symm, rfl⟩
          rcases h.unset hinfinite i ih hcondition with hzero | hless
          · rw [hzero] at hset
            cases hset
          · exact absurd hread (UInt32.not_le.mpr hless)

theorem undisturbed_waited (he : Created e)
    (htimes : forall i, times i ≤ times (i + 1)) (h : Undisturbed e times) (i : Nat)
    {stop : Nat} (hstop : (main e times i).ended = some stop) :
    (main e times i).sent.length = e.txRemain.toNat ∧
      exists last rest, (main e times i).sent = last :: rest ∧
        last + e.rxTimeout.toNat ≤ stop := by
  induction i with
  | zero => cases hstop
  | succ i ih =>
      have hprogress := (main_progress he htimes i).round
      cases hended : (main e times i).ended with
      | some stop' =>
          rw [main_succ, round_ended hended] at hstop ⊢
          exact ih hstop
      | none =>
          rcases (round_ended_iff hended).mp hstop with ⟨rfl, hstops⟩
          rcases stops_iff.mp hstops with ⟨hremain, hset, hread⟩
          have hcount := hprogress.count
          rw [hremain] at hcount
          refine ⟨hcount, ?_⟩
          cases hsent : (main e times (i + 1)).sent with
          | nil =>
              rw [main_succ] at hsent
              rw [hsent] at hcount
              exact absurd hcount (Nat.ne_of_lt he.remain)
          | cons last rest =>
              refine ⟨last, rest, rfl, ?_⟩
              have hfinite : e.rxTimeout ≠ infinite := by
                intro hinfinite
                rw [undisturbed_endless he htimes h hinfinite (i + 1)] at hstop
                cases hstop
              rcases hprogress.last last rest hsent with ⟨hlast, _, hdeadline⟩
              rw [hdeadline hfinite] at hset hread
              have hearly := undisturbed_early h hfinite (i + 1) hsent hremain
              rcases stopAt_later hearly hset with ⟨hless, _⟩
              have hturn := (turn_add_eq_iff (toNat_lt _)).mpr hless
              have hshown : (last + e.rxTimeout.toNat) % 2 ^ 32 ≤
                  times i % 2 ^ 32 := by
                rw [← deadline_toNat]
                exact UInt32.le_iff_toNat_le.mp hread
              exact passed hlast (toNat_lt _) (fun _ => hturn) hshown

/-!
## With one
-/

theorem main_sends {i : Nat} (hended : (main e times i).ended = none)
    (hsends : (main e times i).enumerator.sends (tickCount (times i)) = true) :
    (main e times (i + 1)).sent = times i :: (main e times i).sent := by
  rw [main_succ, round_sends hended hsends]

theorem timely_of_apart (he : Created e)
    (htimes : forall i, times i ≤ times (i + 1)) (h : EnumeratesWell e times) (i : Nat)
    {last : Nat} {rest : List Nat} (hended : (main e times i).ended = none)
    (hpos : 0 < (main e times i).enumerator.txRemain)
    (hsent : (main e times i).sent = last :: rest)
    (hsame : turn (2 ^ 32) (times i) = turn (2 ^ 32) last) :
    turn (2 ^ 32) (last + e.txInterval.toNat) = turn (2 ^ 32) last := by
  by_contra hlater
  have hprogress := main_progress he htimes i
  rcases hprogress.last last rest hsent with ⟨hlast, hnext, _⟩
  rcases shown_early hlast (toNat_lt _) hsame hlater with ⟨hshown, hearly⟩
  have hread : (main e times i).enumerator.nextTxAt ≤ tickCount (times i) := by
    rw [hnext, UInt32.le_iff_toNat_le, deadline_toNat]
    exact hshown
  have happart := h.apart (i + 1)
  rw [main_sends hended (sends_iff.mpr ⟨hpos, hread⟩), hsent,
    List.isChain_cons_cons] at happart
  exact absurd hearly (Nat.not_lt.mpr happart.1)

theorem noticed_of_count (he : Created e)
    (htimes : forall i, times i ≤ times (i + 1)) (h : EnumeratesWell e times) (i : Nat)
    (hpos : 0 < (main e times i).enumerator.txRemain) :
    exists j, i ≤ j ∧ (main e times i).enumerator.nextTxAt ≤ tickCount (times j) := by
  by_contra hmissed
  have hkept : forall j, i ≤ j ->
      (main e times j).enumerator = (main e times i).enumerator := by
    intro j hle
    induction hle with
    | refl => rfl
    | @step j hle ih =>
        have hsends : (main e times j).enumerator.sends (tickCount (times j)) =
            false := by
          rw [Bool.eq_false_iff]
          intro hsends
          rw [ih] at hsends
          exact hmissed ⟨j, hle, (sends_iff.mp hsends).2⟩
        rw [main_succ]
        cases hended : (main e times j).ended with
        | some stop =>
            rw [round_ended hended]
            exact ih
        | none =>
            rw [round_waits hended hsends]
            exact ih
  rcases h.count with ⟨k, hall⟩
  have hlength := hall (max i k) (Nat.le_max_right i k)
  have hcount := (main_progress he htimes (max i k)).count
  rw [hkept (max i k) (Nat.le_max_left i k), hlength] at hcount
  have hnone := Nat.add_eq_left.mp hcount
  exact Nat.ne_of_gt (show 0 < _ from hpos) hnone

theorem early_of_waited (he : Created e)
    (htimes : forall i, times i ≤ times (i + 1)) (h : EnumeratesWell e times)
    (hfinite : e.rxTimeout ≠ infinite) (i : Nat)
    (hended : (main e times i).ended = none)
    (hone : (main e times i).enumerator.txRemain = 1)
    (hsends : (main e times i).enumerator.sends (tickCount (times i)) = true) :
    (tickCount (times i)).toNat + e.rxTimeout.toNat ≤ 2 ^ 32 := by
  by_contra hlate
  have htimeout := toNat_lt e.rxTimeout
  have hnow := toNat_lt (tickCount (times i))
  have hremain := transmit_txRemain (tickCount (times i)) (sends_iff.mp hsends).1
  rw [hone] at hremain
  have hzero : ((main e times i).enumerator.transmit
      (tickCount (times i))).txRemain = 0 :=
    UInt32.toNat_inj.mp (Nat.succ.inj hremain)
  have hdeadline : (tickCount (times i) + e.rxTimeout).toNat =
      (tickCount (times i)).toNat + e.rxTimeout.toNat - 2 ^ 32 := by
    rw [UInt32.toNat_add, Nat.mod_eq_sub_mod (by omega), Nat.mod_eq_of_lt (by omega)]
  have hstopAt : ((main e times i).enumerator.transmit
      (tickCount (times i))).stopAt = tickCount (times i) + e.rxTimeout := by
    rw [transmit_stopAt, (main_progress he htimes i).timeout, if_pos hfinite]
  have hstops : ((main e times i).enumerator.transmit (tickCount (times i))).stops
      (tickCount (times i)) = true := by
    rw [stops_iff, hstopAt, UInt32.lt_iff_toNat_lt, UInt32.le_iff_toNat_le, hdeadline]
    refine ⟨hzero, ?_, ?_⟩
    · exact Nat.sub_pos_of_lt (Nat.lt_of_not_le hlate)
    · omega
  have hstop : (main e times (i + 1)).ended = some (times i) := by
    rw [main_succ, round_ended_iff hended]
    refine ⟨rfl, ?_⟩
    rw [round_sends hended hsends]
    exact hstops
  rcases h.waited (i + 1) (times i) hstop with ⟨_, last, rest, hsent, hwaited⟩
  rw [main_sends hended hsends] at hsent
  cases hsent
  have hpos := he.timeout
  omega

theorem unset_of_endless (he : Created e)
    (htimes : forall i, times i ≤ times (i + 1)) (h : EnumeratesWell e times)
    (hinfinite : e.rxTimeout = infinite) (i : Nat)
    (hended : (main e times i).ended = none)
    (hlast : (main e times i).enumerator.txRemain = 0 ∨
      (main e times i).enumerator.txRemain = 1 ∧
        (main e times i).enumerator.sends (tickCount (times i)) = true) :
    e.stopAt = 0 ∨ tickCount (times i) < e.stopAt := by
  by_contra hneither
  rcases not_or.mp hneither with ⟨hset, hreached⟩
  have hremain : ((main e times i).round (times i)).enumerator.txRemain = 0 := by
    rcases hlast with hzero | ⟨hone, hsends⟩
    · have hsends : (main e times i).enumerator.sends (tickCount (times i)) =
          false := by
        simp [HostEnumerator.sends, hzero]
      rw [round_waits hended hsends]
      exact hzero
    · have hless := transmit_txRemain (tickCount (times i))
        (sends_iff.mp hsends).1
      rw [hone] at hless
      rw [round_sends hended hsends]
      exact UInt32.toNat_inj.mp (Nat.succ.inj hless)
  have hstopAt := ((main_progress he htimes i).round).unset hinfinite
  have hstop : (main e times (i + 1)).ended = some (times i) := by
    rw [main_succ, round_ended_iff hended, stops_iff, hstopAt]
    exact ⟨rfl, hremain, UInt32.pos_iff_ne_zero.mpr hset, UInt32.not_lt.mp hreached⟩
  rw [h.endless hinfinite (i + 1)] at hstop
  cases hstop

end Runs

/--
The thread of an enumerator does what is asked of it exactly where the tick count
does not wrap around at a wrong time.
-/
theorem enumeratesWell_iff (enumCount retryInterval timeOut stopAt : DWORD)
    (times : Nat -> Nat) (htimes : forall i, times i ≤ times (i + 1)) :
    EnumeratesWell (.create enumCount retryInterval timeOut stopAt) times ↔
      Undisturbed (.create enumCount retryInterval timeOut stopAt) times := by
  have he := create_created enumCount retryInterval timeOut stopAt
  constructor
  · intro h
    constructor
    · intro i last rest hended hpos hsent hsame
      exact timely_of_apart he htimes h i hended hpos hsent hsame
    · exact noticed_of_count he htimes h
    · exact early_of_waited he htimes h
    · exact unset_of_endless he htimes h
  · intro h
    constructor
    · exact undisturbed_count he htimes h
    · exact undisturbed_apart he htimes h
    · intro i stop hstop
      exact undisturbed_waited he htimes h i hstop
    · exact undisturbed_endless he htimes h

/-- Two requests, three milliseconds apart, and a reading every millisecond. -/
theorem enumeratesWell_two :
    Undisturbed (.create 2 3 5 0) (fun i => i) ∧
      EnumeratesWell (.create 2 3 5 0) (fun i => i) := by
  have hnone : forall i, 4 ≤ i ->
      (main (.create 2 3 5 0) (fun i => i) i).enumerator.txRemain = 0 := by
    intro i hi
    rcases main_kept (.create 2 3 5 0) (fun i => i) hi with hless | ⟨hremain, _⟩
    · exact absurd hless (Nat.not_lt_zero _)
    · exact hremain
  have hfew : forall i, 0 < (main (.create 2 3 5 0) (fun i => i) i).enumerator.txRemain ->
      i < 4 := by
    intro i hpos
    by_contra hmore
    rw [hnone i (by omega)] at hpos
    cases hpos
  have h : Undisturbed (.create 2 3 5 0) (fun i => i) := by
    constructor
    · intro i last rest _ hpos hsent _
      have hi := hfew i hpos
      have hlast : last ≤ 3 := by
        have hprogress := main_progress (create_created 2 3 5 0) (fun i => Nat.le_succ i) i
        exact (hprogress.last last rest hsent).1.trans (by omega)
      show (last + 3) / 2 ^ 32 = last / 2 ^ 32
      omega
    · intro i hpos
      refine ⟨3, Nat.le_of_lt_succ (hfew i hpos), ?_⟩
      have hi : i = 0 ∨ i = 1 ∨ i = 2 ∨ i = 3 := by
        have hless := hfew i hpos
        omega
      rcases hi with rfl | rfl | rfl | rfl <;> decide
    · intro _ i _ hone _
      have hi := hfew i (by rw [hone]; decide)
      rw [tickCount_toNat]
      show i % 2 ^ 32 + 5 ≤ 2 ^ 32
      omega
    · intro hinfinite
      cases hinfinite
  exact ⟨h, (enumeratesWell_iff 2 3 5 0 _ (fun i => Nat.le_succ i)).mpr h⟩

/-- One request, a second before the tick count wraps around. -/
theorem not_enumeratesWell_wrap :
    ¬EnumeratesWell (.create 1 0 0 0) (fun i => 2 ^ 32 - 1000 + i) := by
  intro h
  rcases h.waited 1 (2 ^ 32 - 1000) (by decide) with ⟨_, last, rest, hsent, hwaited⟩
  cases hsent
  exact absurd hwaited (by decide)

end Enumeration
end DirectPlayLite
