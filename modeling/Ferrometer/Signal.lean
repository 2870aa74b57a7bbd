import Ferrometer.Foundation.SortedMap
import Mathlib.Data.String.Basic

/-!
Contract: the metric that collectors hand to forwarders.

Owns: `Metric` with its labels, value, timestamp and type.

Does not own: the name interner, which makes one allocation per distinct name
and leaves the text of the name as it is.
-/

set_option autoImplicit false

namespace Ferrometer

open Ferrometer.Foundation

/-- `BTreeMap<String, String>`. Rust orders strings by their UTF-8 bytes, which
is the order of their code points and so Lean's order on `String`. -/
abbrev Labels := SortedMap String String

inductive MetricType where
  | gauge
  | counter
deriving DecidableEq, Repr

/-- Nanoseconds from the Unix epoch, negative before it. -/
abbrev SystemTime := Int

structure Metric where
  name : String
  labels : Labels
  /-- The bit pattern of the `f64`. -/
  value : UInt64
  timestamp : SystemTime
  metricType : MetricType
deriving DecidableEq

/-- `now` is the clock that the constructor reads. -/
def Metric.gauge (name : String) (value : UInt64) (labels : Labels) (now : SystemTime) :
    Metric where
  name := name
  labels := labels
  value := value
  timestamp := now
  metricType := .gauge

end Ferrometer
