import Ferrometer.Config.Model

/-!
Contract: instants of the monotonic clock, and the arithmetic on them that can
panic.

Owns: how far instants and durations go, and the sums and products of the code
with their overflow.

Does not own: which clock it is, or when it is read.
-/

set_option autoImplicit false

namespace Ferrometer

open Ferrometer.Config

/-- Nanoseconds of the monotonic clock. -/
abbrev Instant := Nat

/-- The last instant of a clock whose seconds are an `i64`. -/
def instantMax : Instant := 2 ^ 63 * 1000000000 - 1

/-- `Duration::MAX`, whose seconds are a `u64`. -/
def durationMax : Duration := 2 ^ 64 * 1000000000 - 1

/-- `Instant + Duration`. `none` is the panic on overflow. -/
def addDuration (instant : Instant) (duration : Duration) : Option Instant :=
  if instant + duration ≤ instantMax then some (instant + duration) else none

/-- `Duration * 2`. `none` is the panic on overflow. -/
def doubleDuration (duration : Duration) : Option Duration :=
  if duration * 2 ≤ durationMax then some (duration * 2) else none

/-- A backoff after one more failure. `none` is the panic on overflow. -/
def nextBackoff (backoffInitial backoffMax backoff : Duration) : Option Duration :=
  if backoff = 0 then some backoffInitial
  else (doubleDuration backoff).map fun doubled => min doubled backoffMax

theorem addDuration_eq_some {instant later : Instant} {duration : Duration} :
    addDuration instant duration = some later ↔
      instant + duration ≤ instantMax ∧ later = instant + duration := by
  unfold addDuration
  split
  · rename_i fits
    simp [fits, eq_comm]
  · rename_i overflows
    simp [overflows]

end Ferrometer
