import Mathlib.Algebra.Order.Ring.Nat
import Mathlib.Order.Lattice

/-!
Contract: a quantity that starts at zero, takes an initial value, and then doubles up
to a cap.

Owns: the step, and the closed form of the quantity after any number of steps.

Does not own: what is counted, or when a step is made.
-/

set_option autoImplicit false

namespace Ferrometer.Foundation.CappedDoubling

/-- One step, as a loop makes it that holds only the current value. -/
def grow (initial cap current : Nat) : Nat :=
  if current = 0 then initial else min (current * 2) cap

/-- The value after `count` steps from zero. -/
def value (initial cap : Nat) : Nat → Nat
  | 0 => 0
  | count + 1 => min (initial * 2 ^ count) cap

theorem value_one {initial cap : Nat} (ordered : initial ≤ cap) :
    value initial cap 1 = initial := by
  rw [value, pow_zero, Nat.mul_one, Nat.min_eq_left ordered]

theorem grow_value {initial cap : Nat} (ordered : initial ≤ cap) (count : Nat) :
    grow initial cap (value initial cap count) = value initial cap (count + 1) := by
  cases count with
  | zero => exact (value_one ordered).symm
  | succ count =>
      unfold grow
      by_cases isZero : value initial cap (count + 1) = 0
      · -- Nothing doubles to something only from an initial value of zero.
        have zeroInitial : initial = 0 := by
          have positive := Nat.two_pow_pos count
          rcases Nat.min_eq_zero_iff.mp isZero with product | noCap
          · rcases Nat.mul_eq_zero.mp product with zero | zero
            · exact zero
            · omega
          · omega
        rw [if_pos isZero, zeroInitial, value, Nat.zero_mul, Nat.zero_min]
      · rw [if_neg isZero, value, value, pow_succ, ← Nat.mul_assoc]
        generalize initial * 2 ^ count = doubled
        omega

end Ferrometer.Foundation.CappedDoubling
