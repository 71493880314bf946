import Mathlib.Data.Nat.ModEq

/-!
# Counters below a tag

A number is made of a counter in its low bits and a tag in the bits above.  The counter
is never zero: behind its last value it goes on with one.
-/

namespace Tagged

variable {width bits tag tag' counter counter' count count' : Nat}

/-!
## Numbers with a tag
-/

def number (width tag counter : Nat) : Nat := 2 ^ width * tag ||| counter

theorem number_eq_add (h : counter < 2 ^ width) :
    number width tag counter = 2 ^ width * tag + counter :=
  (Nat.two_pow_add_eq_or_of_lt h tag).symm

theorem number_inj (h : counter < 2 ^ width) (h' : counter' < 2 ^ width) :
    number width tag counter = number width tag' counter' ↔
      tag = tag' ∧ counter = counter' := by
  have hpos : 0 < 2 ^ width := Nat.two_pow_pos width
  rw [number_eq_add h, number_eq_add h']
  constructor
  · intro hsame
    have htag : tag = tag' := by
      have hdiv := congrArg (· / 2 ^ width) hsame
      simpa [Nat.mul_add_div hpos, Nat.div_eq_of_lt h, Nat.div_eq_of_lt h'] using hdiv
    subst htag
    exact ⟨rfl, Nat.add_left_cancel hsame⟩
  · intro hsame
    rw [hsame.1, hsame.2]

theorem number_and_mask (h : counter < 2 ^ width) (htag : tag < 2 ^ bits) :
    number width tag counter &&& 2 ^ width * (2 ^ bits - 1) = 2 ^ width * tag := by
  have hlow : counter &&& 2 ^ width * (2 ^ bits - 1) = 0 := by
    apply Nat.eq_of_testBit_eq
    intro i
    rw [Nat.testBit_and, Nat.testBit_two_pow_mul, Nat.zero_testBit]
    by_cases hi : width ≤ i
    · have hle : 2 ^ width ≤ 2 ^ i := Nat.pow_le_pow_right (by decide) hi
      rw [Nat.testBit_lt_two_pow (Nat.lt_of_lt_of_le h hle), Bool.false_and]
    · simp [hi]
  have hhigh : 2 ^ width * tag &&& 2 ^ width * (2 ^ bits - 1) = 2 ^ width * tag := by
    apply Nat.eq_of_testBit_eq
    intro i
    rw [Nat.testBit_and, Nat.testBit_two_pow_mul, Nat.testBit_two_pow_mul,
      Nat.testBit_two_pow_sub_one]
    by_cases hi : i - width < bits
    · cases decide (i ≥ width) <;> simp [hi]
    · have hle : 2 ^ bits ≤ 2 ^ (i - width) :=
        Nat.pow_le_pow_right (by decide) (Nat.le_of_not_lt hi)
      simp [Nat.testBit_lt_two_pow (Nat.lt_of_lt_of_le htag hle)]
  rw [number, Nat.and_or_distrib_right, hlow, hhigh, Nat.or_zero]

/-!
## The counter
-/

def following (width counter : Nat) : Nat :=
  if (counter + 1) % 2 ^ width = 0 then 1 else (counter + 1) % 2 ^ width

def period (width : Nat) : Nat := 2 ^ width - 1

/-- The counter when it has been taken a number of times. -/
def reading (width count : Nat) : Nat := count % period width + 1

theorem period_pos (h : 0 < width) : 0 < period width := by
  have hpow : 2 ^ 1 ≤ 2 ^ width := Nat.pow_le_pow_right (by decide) h
  unfold period
  omega

theorem reading_lt (h : 0 < width) : reading width count < 2 ^ width := by
  have hmod := Nat.mod_lt count (period_pos h)
  unfold reading period at *
  omega

theorem following_reading (h : 0 < width) :
    following width (reading width count) = reading width (count + 1) := by
  have hpow : period width + 1 = 2 ^ width := Nat.sub_add_cancel (Nat.two_pow_pos width)
  have hdiv := Nat.div_add_mod count (period width)
  have hmod := Nat.mod_lt count (period_pos h)
  unfold following reading
  rw [← hpow]
  by_cases hlast : count % period width + 1 = period width
  · have hend : count + 1 = period width * (count / period width + 1) := by
      rw [Nat.mul_add_one]
      omega
    rw [hlast, Nat.mod_self, if_pos rfl, hend, Nat.mul_mod_right]
  · have hless : count % period width + 1 < period width :=
      Nat.lt_of_le_of_ne hmod hlast
    have hnext : (count + 1) % period width = count % period width + 1 := by
      rw [← Nat.mod_eq_of_lt hless, Nat.mod_add_mod]
    rw [hnext, Nat.mod_eq_of_lt (by omega), if_neg (by omega)]

theorem reading_eq_iff (h : count ≤ count') :
    reading width count = reading width count' ↔ period width ∣ count' - count := by
  rw [reading, reading, Nat.add_right_cancel_iff]
  exact Nat.modEq_iff_dvd' h

end Tagged
