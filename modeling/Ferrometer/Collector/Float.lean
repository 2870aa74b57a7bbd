/-!
Contract: the `f64` values of collectors, as bit patterns.

Owns: the constants, and what a collector takes from the floating-point unit.

Does not own: what the operations compute.
-/

set_option autoImplicit false

namespace Ferrometer.Collector

def f64One : UInt64 := 0x3ff0000000000000

def f64Zero : UInt64 := 0

structure FloatOps where
  /-- `as f64` on a `u64`. -/
  ofU64 : UInt64 → UInt64
  /-- The same on an `i64`. -/
  ofI64 : Int → UInt64
  mul : UInt64 → UInt64 → UInt64
  div : UInt64 → UInt64 → UInt64
  /-- `f64::from_str`. -/
  parse : String → Option UInt64

end Ferrometer.Collector
