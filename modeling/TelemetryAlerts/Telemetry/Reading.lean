import TelemetryAlerts.Rule.Basic
import TelemetryAlerts.Number.Numeral

/-!
# Telemetry readings

A snapshot holds the latest value of each field of a device. A reading counts as a
number if it is one, is a truth value, or is a text that spells one.
-/

namespace TelemetryAlerts

/-- The latest readings of a device, by field name. -/
abbrev Snapshot := List (String × Json)

/-- The number that a scalar stands for; an undefined float and an integer beyond every
float stand for none. -/
def Scalar.number? : Scalar → Option Float
  | .null => none
  | .bool b => some (if b then 1 else 0)
  | .int n => Number.ofInt? n
  | .float x => if x.isNaN then none else some x
  | .text s => (Number.ofText? s).filter fun x => !x.isNaN

/-- The number that a reading stands for; a list or an object stands for none. -/
def Json.number? (v : Json) : Option Float :=
  v.scalar?.bind Scalar.number?

namespace Snapshot

/-- The scalar readings of a snapshot. -/
def normalize (s : Snapshot) : Snapshot :=
  s.filter fun p => p.2.isScalar

/-- The number in a field of a snapshot. -/
def number? (s : Snapshot) (field : String) : Option Float :=
  (s.lookup field).bind Json.number?

end Snapshot
end TelemetryAlerts
