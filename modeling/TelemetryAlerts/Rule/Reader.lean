import TelemetryAlerts.Rule.Basic
import TelemetryAlerts.Document.Scalar
import TelemetryAlerts.Text.Case

/-!
# Reading rules from documents

Rules are checked field by field; a rule that is enabled must have a condition.
-/

namespace TelemetryAlerts

variable {α : Type} [Document α]

/-- A threshold keeps the kind in which it is given; a list or a mapping is none of the
kinds, and the complaint names each. -/
def Scalar.check (v : α) : Checked Scalar :=
  match Document.layer v with
  | .null => .ok .null
  | .bool b => .ok (.bool b)
  | .int n => .ok (.int n)
  | .float x => .ok (.float x)
  | .text s => .ok (.text s)
  | _ => .bad [
      ⟨[.field "float"], .floatType⟩,
      ⟨[.field "int"], .intType⟩,
      ⟨[.field "str"], .stringType⟩,
      ⟨[.field "bool"], .boolType⟩]

/-- The condition in the fields of a record. -/
def Condition.ofEntries (e : Entries α) : Checked Condition :=
  Condition.mk
    <$> e.required "field" Document.text
    <*> e.required "operator" (Document.word Operator.ofName?)
    <*> e.withDefault "value" .null Scalar.check
    <*> e.withDefault "second_value" .null Scalar.check
    <*> e.withDefault "unit" none (Document.optional Document.text)
    <*> e.withDefault "level" none (Document.optional (Document.word Severity.ofName?))

/-- The escalation in the fields of a record. -/
def Escalation.ofEntries (e : Entries α) : Checked Escalation :=
  Escalation.mk
    <$> e.withDefault "escalate_after_minutes" 30 Document.nat
    <*> e.withDefault "escalation_channels" [] (Document.list Document.text)
    <*> e.withDefault "escalation_recipients" [] (Document.list Document.text)
    <*> e.withDefault "escalation_message" none (Document.optional Document.text)

/-- The combination may be written in any case, with blanks around it. -/
def Logic.ofText? (s : String) : Option Logic :=
  Logic.ofName? (Text.upper (Text.trim s))

/-- The rule in the fields of a record, apart from what has to hold of it as a whole. -/
def Rule.fieldsOfEntries (e : Entries α) : Checked Rule :=
  Rule.mk
    <$> e.required "id" Document.text
    <*> e.required "tenant_id" Document.text
    <*> e.required "name" Document.text
    <*> e.withDefault "description" none (Document.optional Document.text)
    <*> e.withDefault "tags" [] (Document.list Document.text)
    <*> e.withDefault "target_type" .device (Document.word Target.ofName?)
    <*> e.withDefault "device_ids" [] (Document.list Document.text)
    <*> e.withDefault "device_type_ids" [] (Document.list Document.text)
    <*> e.withDefault "conditions" [] (Document.list (Document.record Condition.ofEntries))
    <*> e.withDefault "condition_logic" .all (Document.word Logic.ofText?)
    <*> e.withDefault "severity" .warning (Document.word Severity.ofName?)
    <*> e.withDefault "time_window_seconds" none (Document.optional Document.int)
    <*> e.withDefault "evaluation_frequency_seconds" 60 Document.int
    <*> e.withDefault "cooldown_minutes" 15 Document.nat
    <*> e.withDefault "delivery_channels" [] (Document.list Document.text)
    <*> e.withDefault "recipients" [] (Document.list Document.text)
    <*> e.withDefault "escalation_rule" none
      (Document.optional (Document.record Escalation.ofEntries))
    <*> e.withDefault "is_enabled" true Document.bool

/-- The rule in the fields of a record. -/
def Rule.ofEntries (e : Entries α) : Checked Rule :=
  (Rule.fieldsOfEntries e).andThen fun r =>
    if r.enabled && r.conditions.isEmpty then
      .fail (.rule ("enabled rule '" ++ r.id ++ "' has no conditions"))
    else .ok r

end TelemetryAlerts
