/-!
# Counters that wrap around

A counter shows a time modulo some number.  A deadline that is kept as such a
reading, and compared with another reading, is only told apart from an earlier time
as long as the counter has not been read between its start and a wrap before it.
-/

namespace Ticks

/-- How often the counter has wrapped around at a time. -/
def turn (modulus time : Nat) : Nat := time / modulus

variable {modulus start span now : Nat}

theorem turn_add_eq_iff (hspan : span < modulus) :
    turn modulus (start + span) = turn modulus start ↔
      start % modulus + span < modulus := by
  have hpos : 0 < modulus := by omega
  have hstart := Nat.div_add_mod start modulus
  have hmod := Nat.mod_lt start hpos
  unfold turn
  constructor
  · intro hsame
    have hend := Nat.div_add_mod (start + span) modulus
    have hendMod := Nat.mod_lt (start + span) hpos
    rw [hsame] at hend
    omega
  · intro hless
    rw [Nat.div_eq_iff hpos]
    rw [Nat.mul_comm] at hstart
    omega

theorem passed (hle : start ≤ now) (hspan : span < modulus)
    (htimely : turn modulus now = turn modulus start ->
      turn modulus (start + span) = turn modulus start)
    (hread : (start + span) % modulus ≤ now % modulus) : start + span ≤ now := by
  have hpos : 0 < modulus := by omega
  have hstart := Nat.div_add_mod start modulus
  have hnow := Nat.div_add_mod now modulus
  have hend := Nat.div_add_mod (start + span) modulus
  unfold turn at htimely
  by_cases hsame : now / modulus = start / modulus
  · rw [htimely hsame] at hend
    rw [hsame] at hnow
    omega
  · -- the counter has wrapped, and it is past the wrap before the deadline
    have hless : start / modulus < now / modulus := by
      have hmono := Nat.div_le_div_right (c := modulus) hle
      omega
    have hwrapped : modulus * (start / modulus) + modulus ≤
        modulus * (now / modulus) := by
      rw [← Nat.mul_succ]
      exact Nat.mul_le_mul_left modulus hless
    have hstartMod := Nat.mod_lt start hpos
    by_cases hlater : (start + span) / modulus ≤ now / modulus
    · have hmul := Nat.mul_le_mul_left modulus hlater
      omega
    · have hafter : modulus * (now / modulus) + modulus ≤
          modulus * ((start + span) / modulus) := by
        rw [← Nat.mul_succ]
        exact Nat.mul_le_mul_left modulus (Nat.lt_of_not_le hlater)
      omega

theorem shown_early (hle : start ≤ now) (hspan : span < modulus)
    (hsame : turn modulus now = turn modulus start)
    (hlater : turn modulus (start + span) ≠ turn modulus start) :
    (start + span) % modulus ≤ now % modulus ∧ now < start + span := by
  have hpos : 0 < modulus := by omega
  have hstart := Nat.div_add_mod start modulus
  have hnow := Nat.div_add_mod now modulus
  have hend := Nat.div_add_mod (start + span) modulus
  have hnowMod := Nat.mod_lt now hpos
  unfold turn at hsame hlater
  have hless : start / modulus < (start + span) / modulus := by
    have hmono := Nat.div_le_div_right (c := modulus) (Nat.le_add_right start span)
    omega
  have hwrapped : modulus * (start / modulus) + modulus ≤
      modulus * ((start + span) / modulus) := by
    rw [← Nat.mul_succ]
    exact Nat.mul_le_mul_left modulus hless
  rw [hsame] at hnow
  omega

end Ticks
