import TelemetryAlerts.Telemetry.Reading

/-!
# Conditions against readings

Whether a condition holds of a snapshot, and what follows for its rule. A condition of
which any needed number is missing does not hold.
-/

namespace TelemetryAlerts

/-- Two numbers closer than this count as equal. -/
def equalityTolerance : Float := 1e-4

/-- Whether two numbers are in the relation that an operator without a range names. -/
def Operator.compares (actual threshold : Float) : Operator → Bool
  | .greaterThan => threshold < actual
  | .lessThan => actual < threshold
  | .equal => (actual - threshold).abs < equalityTolerance
  | .notEqual => equalityTolerance ≤ (actual - threshold).abs
  | .between => false
  | .outside => false

/-- Whether a number lies in the closed range between two others. -/
def inRange (low actual high : Float) : Bool :=
  decide (low ≤ actual) && decide (actual ≤ high)

namespace Condition

/-- Whether a condition holds of a snapshot. -/
def holds (c : Condition) (s : Snapshot) : Bool :=
  match s.number? c.field, c.threshold.number? with
  | some actual, some threshold =>
    match c.operator with
    | .between => c.upper.number?.any fun high => inRange threshold actual high
    | .outside => c.upper.number?.any fun high => !inRange threshold actual high
    | op => op.compares actual threshold
  | _, _ => false

end Condition

namespace Rule

/-- The conditions of a rule that hold of a snapshot. -/
def matched (r : Rule) (s : Snapshot) : List Condition :=
  r.conditions.filter fun c => c.holds s

/-- Whether a rule fires; without conditions it never does. -/
def fires (r : Rule) (s : Snapshot) : Bool :=
  !r.conditions.isEmpty &&
    match r.logic with
    | .all => r.conditions.all fun c => c.holds s
    | .any => r.conditions.any fun c => c.holds s

/-- The highest of a list of severities; the first stands for an empty rest. -/
def highest (first : Severity) (rest : List Severity) : Severity :=
  rest.foldl (fun best l => if best.rank < l.rank then l else best) first

/-- The severity of an alert: the highest level among the conditions that hold, or the
rule's own if none of them has a level. -/
def severityFor (r : Rule) (s : Snapshot) : Severity :=
  match (r.matched s).filterMap Condition.level? with
  | [] => r.severity
  | l :: rest => highest l rest

end Rule
end TelemetryAlerts
