import TelemetryAlerts.Alert.Basic

/-!
# Alert rules

A rule names the devices it watches, the conditions under which it fires, and whom to
tell. The engine only reads rules.
-/

namespace TelemetryAlerts

/-- A value without parts: a reading or a threshold. -/
inductive Scalar where
  | float (x : Float)
  | int (n : Int)
  | text (s : String)
  | bool (b : Bool)
  | null

/-- A scalar as a document value. -/
def Scalar.toJson : Scalar → Json
  | float x => .float x
  | int n => .int n
  | text s => .str s
  | bool b => .bool b
  | null => .null

/-- The scalar that a document value is. -/
def Json.scalar? : Json → Option Scalar
  | .null => some .null
  | .bool b => some (.bool b)
  | .int n => some (.int n)
  | .float x => some (.float x)
  | .str s => some (.text s)
  | _ => none

/-- How a reading is compared with a threshold. -/
inductive Operator where
  | greaterThan
  | lessThan
  | equal
  | notEqual
  | between
  | outside
deriving Repr, DecidableEq

namespace Operator

/-- The name under which an operator is written. -/
def name : Operator → String
  | greaterThan => "GreaterThan"
  | lessThan => "LessThan"
  | equal => "Equal"
  | notEqual => "NotEqual"
  | between => "Between"
  | outside => "Outside"

/-- Operators by name. -/
def ofName? : String → Option Operator
  | "GreaterThan" => some greaterThan
  | "LessThan" => some lessThan
  | "Equal" => some equal
  | "NotEqual" => some notEqual
  | "Between" => some between
  | "Outside" => some outside
  | _ => none

end Operator

/-- One comparison of one reading. -/
structure Condition where
  field : String
  operator : Operator
  threshold : Scalar
  /-- The upper end of a range. -/
  upper : Scalar
  unit? : Option String
  /-- The severity of an alert for which this condition holds. -/
  level? : Option Severity

/-- A condition as a document. -/
def Condition.toJson (c : Condition) : Json :=
  .obj [
    ("field", .str c.field),
    ("operator", .str c.operator.name),
    ("value", c.threshold.toJson),
    ("second_value", c.upper.toJson),
    ("unit", .ofText? c.unit?),
    ("level", .ofText? (c.level?.map Severity.name))]

/-- A second notification while an alert stays active. -/
structure Escalation where
  afterMinutes : Nat
  channels : List String
  recipients : List String
  message? : Option String

/-- A list of texts as a document. -/
def Json.ofTexts (ss : List String) : Json :=
  .arr (ss.map .str)

/-- An escalation as a document. -/
def Escalation.toJson (e : Escalation) : Json :=
  .obj [
    ("escalate_after_minutes", .int e.afterMinutes),
    ("escalation_channels", .ofTexts e.channels),
    ("escalation_recipients", .ofTexts e.recipients),
    ("escalation_message", .ofText? e.message?)]

/-- What the ids of a rule's targets name. -/
inductive Target where
  | device
  | deviceType
deriving Repr, DecidableEq

namespace Target

/-- The name under which a target kind is written. -/
def name : Target → String
  | device => "Device"
  | deviceType => "DeviceType"

/-- Target kinds by name. -/
def ofName? : String → Option Target
  | "Device" => some device
  | "DeviceType" => some deviceType
  | _ => none

end Target

/-- How the conditions of a rule are combined. -/
inductive Logic where
  | all
  | any
deriving Repr, DecidableEq

namespace Logic

/-- The name under which a combination is written. -/
def name : Logic → String
  | all => "AND"
  | any => "OR"

/-- Combinations by name. -/
def ofName? : String → Option Logic
  | "AND" => some all
  | "OR" => some any
  | _ => none

end Logic

/-- A tenant's alert rule. -/
structure Rule where
  id : String
  tenant : String
  name : String
  description? : Option String
  tags : List String
  target : Target
  devices : List String
  deviceTypes : List String
  conditions : List Condition
  logic : Logic
  severity : Severity
  windowSeconds? : Option Int
  frequencySeconds : Int
  cooldownMinutes : Nat
  channels : List String
  recipients : List String
  escalation? : Option Escalation
  enabled : Bool

namespace Rule

/-- A rule as a document. -/
def toJson (r : Rule) : Json :=
  .obj [
    ("id", .str r.id),
    ("tenant_id", .str r.tenant),
    ("name", .str r.name),
    ("description", .ofText? r.description?),
    ("tags", .ofTexts r.tags),
    ("target_type", .str r.target.name),
    ("device_ids", .ofTexts r.devices),
    ("device_type_ids", .ofTexts r.deviceTypes),
    ("conditions", .arr (r.conditions.map Condition.toJson)),
    ("condition_logic", .str r.logic.name),
    ("severity", .str r.severity.name),
    ("time_window_seconds", (r.windowSeconds?.map Json.int).getD .null),
    ("evaluation_frequency_seconds", .int r.frequencySeconds),
    ("cooldown_minutes", .int r.cooldownMinutes),
    ("delivery_channels", .ofTexts r.channels),
    ("recipients", .ofTexts r.recipients),
    ("escalation_rule", (r.escalation?.map Escalation.toJson).getD .null),
    ("is_enabled", .bool r.enabled)]

end Rule
end TelemetryAlerts
