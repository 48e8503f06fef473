import TelemetryAlerts.Alert.Basic
import TelemetryAlerts.Document.Scalar

/-!
# Reading alerts from documents

The records of the alert domain, checked field by field. A new alert that leaves out
its id or times gets them from its surroundings, which are arguments here.
-/

namespace TelemetryAlerts

variable {α : Type} [Document α]

/-- The alert in the fields of a record. `fresh` is the id, and `now` the times, of a
record that leaves them out; `value` turns a reading into a document value. -/
def Alert.ofEntries (value : α → Json) (fresh : String) (now : Moment) (e : Entries α) :
    Checked Alert :=
  Alert.mk
    <$> e.withDefault "id" fresh Document.text
    <*> e.required "tenant_id" Document.text
    <*> e.required "alert_rule_id" Document.text
    <*> e.required "device_id" Document.text
    <*> e.withDefault "status" .active (Document.word Status.ofName?)
    <*> e.required "severity" (Document.word Severity.ofName?)
    <*> e.required "message" Document.text
    <*> e.withDefault "details" "" Document.text
    <*> e.withDefault "field_values" []
      (fun v => (Document.mapping v).map (List.map fun p => (p.1, value p.2)))
    <*> e.withDefault "triggered_at" now Document.moment
    <*> e.withDefault "updated_at" now Document.moment
    <*> e.withDefault "acknowledged_at" none (Document.optional Document.moment)
    <*> e.withDefault "acknowledged_by" none (Document.optional Document.text)
    <*> e.withDefault "acknowledgment_notes" none (Document.optional Document.text)
    <*> e.withDefault "resolved_at" none (Document.optional Document.moment)
    <*> e.withDefault "resolution_notes" none (Document.optional Document.text)
    <*> e.withDefault "notification_count" 0 Document.int
    <*> e.withDefault "escalation_count" 0 Document.int
    <*> e.withDefault "last_escalated_at" none (Document.optional Document.moment)

/-- Whether a record brings its own id, so that none is made up for it. -/
def Alert.bringsId (e : Entries α) : Bool :=
  (e.lookup "id").isSome

/-- The alert in a document. -/
def Alert.ofJson (fresh : String) (now : Moment) (v : Json) : Checked Alert :=
  Document.record (Alert.ofEntries (fun reading => reading) fresh now) v

/-- The counts in the fields of a record. -/
def Statistics.ofEntries (e : Entries α) : Checked Statistics :=
  Statistics.mk
    <$> e.withDefault "total_active" 0 Document.int
    <*> e.withDefault "total_acknowledged" 0 Document.int
    <*> e.withDefault "total_resolved" 0 Document.int
    <*> e.withDefault "critical_count" 0 Document.int
    <*> e.withDefault "warning_count" 0 Document.int
    <*> e.withDefault "info_count" 0 Document.int

/-- The summary in the fields of a record. -/
def Summary.ofEntries (e : Entries α) : Checked Summary :=
  Summary.mk
    <$> e.required "id" Document.text
    <*> e.required "alert_rule_id" Document.text
    <*> e.required "device_id" Document.text
    <*> e.required "severity" (Document.word Severity.ofName?)
    <*> e.required "message" Document.text
    <*> e.required "triggered_at" Document.moment
    <*> e.required "status" (Document.word Status.ofName?)

/-- Who takes notice of an alert, and a remark. -/
structure Acknowledgment where
  who? : Option String := none
  notes? : Option String := none

/-- The acknowledgment in the fields of a record. -/
def Acknowledgment.ofEntries (e : Entries α) : Checked Acknowledgment :=
  Acknowledgment.mk
    <$> e.withDefault "acknowledged_by" none (Document.optional Document.text)
    <*> e.withDefault "notes" none (Document.optional Document.text)

/-- An acknowledgment as a document. -/
def Acknowledgment.toJson (r : Acknowledgment) : Json :=
  .obj [("acknowledged_by", .ofText? r.who?), ("notes", .ofText? r.notes?)]

/-- A remark on the end of an alert. -/
structure Resolution where
  notes? : Option String := none

/-- The resolution in the fields of a record. -/
def Resolution.ofEntries (e : Entries α) : Checked Resolution :=
  Resolution.mk <$> e.withDefault "resolution_notes" none (Document.optional Document.text)

/-- A resolution as a document. -/
def Resolution.toJson (r : Resolution) : Json :=
  .obj [("resolution_notes", .ofText? r.notes?)]

end TelemetryAlerts
