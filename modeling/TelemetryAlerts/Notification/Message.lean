import TelemetryAlerts.Json.Display
import TelemetryAlerts.Rule.Basic
import TelemetryAlerts.Text.Markup

/-!
# What a notification tells

The document that programs receive and the text that people receive.
-/

namespace TelemetryAlerts

/-- What a notification is about. -/
inductive Event where
  | triggered
  | escalated
  /-- Any other occasion, by name. -/
  | other (name : String)
deriving Repr, DecidableEq

namespace Event

/-- The name of an event. -/
def name : Event → String
  | triggered => "alert_triggered"
  | escalated => "alert_escalated"
  | other n => n

/-- The event with a name. -/
def ofName (n : String) : Event :=
  if n = "alert_triggered" then triggered
  else if n = "alert_escalated" then escalated
  else other n

end Event

/-- One alert on its way to its recipients. -/
structure Notice where
  alert : Alert
  rule : Rule
  event : Event

namespace Notice

/-- The fields of the document for programs. -/
def payloadFields (n : Notice) : List (String × Json) :=
  [("event", .str n.event.name),
    ("alert_id", .str n.alert.id),
    ("tenant_id", .str n.alert.tenant),
    ("rule_id", .str n.rule.id),
    ("rule_name", .str n.rule.name),
    ("severity", .str n.alert.severity.name),
    ("status", .str n.alert.status.name),
    ("message", .str n.alert.message),
    ("details", .str n.alert.details),
    ("device_id", .str n.alert.device),
    ("triggered_at", .str n.alert.triggeredAt.text),
    ("field_values", .obj n.alert.readings)]

/-- The document for programs. -/
def payload (n : Notice) : Json :=
  .obj n.payloadFields

end Notice

/-- The colour in which a severity is shown. -/
def Severity.color : Severity → String
  | .critical => "#dc2626"
  | .warning => "#f59e0b"
  | .info => "#3b82f6"

/-- A paragraph that gives a name and a text. -/
def labelled (label text : String) : String :=
  "<p><strong>" ++ label ++ ":</strong> " ++ text ++ "</p>"

/-- A list item that gives a reading. -/
def readingItem (reading : String × Json) : String :=
  "<li><strong>" ++ Text.escape reading.1 ++ ":</strong> " ++
    Text.escape reading.2.display ++ "</li>"

/-- The lines of the list of readings; none if there are no readings. -/
def readingLines (readings : List (String × Json)) : List String :=
  if readings.isEmpty then []
  else ["<h3>Field Values:</h3>", "<ul>"] ++ readings.map readingItem ++ ["</ul>"]

/-- The text of an alert email, as markup. -/
def emailBody (a : Alert) (r : Rule) : String :=
  "\n".intercalate (
    ["<html><body>",
      "<h2 style='color: " ++ a.severity.color ++ "'>[" ++ a.severity.name ++
        "] Alert Triggered</h2>",
      labelled "Rule" (Text.escape r.name),
      labelled "Message" (Text.escape a.message),
      labelled "Details" (Text.escape a.details),
      labelled "Device ID" (Text.escape a.device),
      labelled "Triggered At" (a.triggeredAt.wallText ++ " UTC")] ++
    readingLines a.readings ++
    ["</body></html>"])

end TelemetryAlerts
