import TelemetryAlerts.Json.Basic
import TelemetryAlerts.Time.Moment

/-!
# Alerts

One alert is one occurrence of a rule firing for one device. It is open until it is
resolved; while open it may be acknowledged. The transitions of this file are the only
ways in which an alert changes.
-/

namespace TelemetryAlerts

/-- How serious an alert is. -/
inductive Severity where
  | info
  | warning
  | critical
deriving Repr, DecidableEq

namespace Severity

/-- The name under which a severity is written. -/
def name : Severity → String
  | info => "Info"
  | warning => "Warning"
  | critical => "Critical"

/-- Severities by name. -/
def ofName? : String → Option Severity
  | "Info" => some info
  | "Warning" => some warning
  | "Critical" => some critical
  | _ => none

/-- The order of severities. -/
def rank : Severity → Nat
  | info => 0
  | warning => 1
  | critical => 2

end Severity

/-- Where an alert stands in its life. -/
inductive Status where
  | active
  | acknowledged
  | resolved
deriving Repr, DecidableEq

namespace Status

/-- The name under which a status is written. -/
def name : Status → String
  | active => "Active"
  | acknowledged => "Acknowledged"
  | resolved => "Resolved"

/-- Statuses by name. -/
def ofName? : String → Option Status
  | "Active" => some active
  | "Acknowledged" => some acknowledged
  | "Resolved" => some resolved
  | _ => none

/-- Active and acknowledged alerts are open. -/
def isOpen : Status → Bool
  | resolved => false
  | _ => true

end Status

/-- One occurrence of a rule firing for one device. -/
structure Alert where
  id : String
  tenant : String
  rule : String
  device : String
  status : Status
  severity : Severity
  message : String
  details : String
  readings : List (String × Json)
  triggeredAt : Moment
  updatedAt : Moment
  acknowledgedAt? : Option Moment
  acknowledgedBy? : Option String
  acknowledgmentNotes? : Option String
  resolvedAt? : Option Moment
  resolutionNotes? : Option String
  notifications : Int
  escalations : Int
  lastEscalatedAt? : Option Moment

namespace Alert

/-- Whether an alert still waits for its end. -/
def isOpen (a : Alert) : Bool :=
  a.status.isOpen

/-- Whether an alert belongs to a rule and a device. -/
def concerns (a : Alert) (rule device : String) : Bool :=
  a.rule == rule && a.device == device

/-- The alert after somebody took notice of it. -/
def acknowledge (a : Alert) (who? notes? : Option String) (now : Moment) : Alert :=
  { a with
    status := .acknowledged
    acknowledgedAt? := some now
    acknowledgedBy? := who?
    acknowledgmentNotes? := notes?
    updatedAt := now }

/-- The alert after its end. -/
def resolve (a : Alert) (notes? : Option String) (now : Moment) : Alert :=
  { a with
    status := .resolved
    resolvedAt? := some now
    resolutionNotes? := notes?
    updatedAt := now }

/-- The alert after one escalation. -/
def escalate (a : Alert) (now : Moment) : Alert :=
  { a with
    lastEscalatedAt? := some now
    escalations := a.escalations + 1
    updatedAt := now }

/-- The alert after notifications have been delivered. -/
def recordNotifications (a : Alert) (count : Int) (now : Moment) : Alert :=
  { a with
    notifications := a.notifications + count
    updatedAt := now }

/-- An optional moment as stored. -/
def storedMoment : Option Moment → Json
  | some t => .str t.storedText
  | none => .null

/-- The stored document of an alert: every field, in a fixed order. -/
def toJson (a : Alert) : Json :=
  .obj [
    ("id", .str a.id),
    ("tenant_id", .str a.tenant),
    ("alert_rule_id", .str a.rule),
    ("device_id", .str a.device),
    ("status", .str a.status.name),
    ("severity", .str a.severity.name),
    ("message", .str a.message),
    ("details", .str a.details),
    ("field_values", .obj a.readings),
    ("triggered_at", .str a.triggeredAt.storedText),
    ("updated_at", .str a.updatedAt.storedText),
    ("acknowledged_at", storedMoment a.acknowledgedAt?),
    ("acknowledged_by", .ofText? a.acknowledgedBy?),
    ("acknowledgment_notes", .ofText? a.acknowledgmentNotes?),
    ("resolved_at", storedMoment a.resolvedAt?),
    ("resolution_notes", .ofText? a.resolutionNotes?),
    ("notification_count", .int a.notifications),
    ("escalation_count", .int a.escalations),
    ("last_escalated_at", storedMoment a.lastEscalatedAt?)]

end Alert

/-- Alert counts of one tenant. -/
structure Statistics where
  active : Int
  acknowledged : Int
  resolved : Int
  critical : Int
  warning : Int
  info : Int
deriving Repr, DecidableEq

namespace Statistics

/-- No alerts. -/
def zero : Statistics := ⟨0, 0, 0, 0, 0, 0⟩

/-- Counts one alert more. -/
def add (s : Statistics) (a : Alert) : Statistics :=
  let s :=
    match a.status with
    | .active => { s with active := s.active + 1 }
    | .acknowledged => { s with acknowledged := s.acknowledged + 1 }
    | .resolved => { s with resolved := s.resolved + 1 }
  match a.severity with
  | .critical => { s with critical := s.critical + 1 }
  | .warning => { s with warning := s.warning + 1 }
  | .info => { s with info := s.info + 1 }

/-- The counts of a list of alerts. -/
def ofAlerts (alerts : List Alert) : Statistics :=
  alerts.foldl add zero

/-- The counts as a document. -/
def toJson (s : Statistics) : Json :=
  .obj [
    ("total_active", .int s.active),
    ("total_acknowledged", .int s.acknowledged),
    ("total_resolved", .int s.resolved),
    ("critical_count", .int s.critical),
    ("warning_count", .int s.warning),
    ("info_count", .int s.info)]

end Statistics

/-- What a listing shows of an alert. -/
structure Summary where
  id : String
  rule : String
  device : String
  severity : Severity
  message : String
  triggeredAt : Moment
  status : Status

namespace Summary

/-- The summary of an alert. -/
def ofAlert (a : Alert) : Summary :=
  ⟨a.id, a.rule, a.device, a.severity, a.message, a.triggeredAt, a.status⟩

/-- A summary as a document. -/
def toJson (s : Summary) : Json :=
  .obj [
    ("id", .str s.id),
    ("alert_rule_id", .str s.rule),
    ("device_id", .str s.device),
    ("severity", .str s.severity.name),
    ("message", .str s.message),
    ("triggered_at", .str s.triggeredAt.storedText),
    ("status", .str s.status.name)]

end Summary
end TelemetryAlerts
