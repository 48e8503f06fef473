import TelemetryAlerts.Document.Checked
import TelemetryAlerts.Json.Basic

/-!
# Complaints as documents

How the complaints about a record are shown to whoever sent it.
-/

namespace TelemetryAlerts

/-- A step as a document. -/
def Step.toJson : Step → Json
  | field name => .str name
  | index i => .int i

/-- What is said about a problem beyond its code, if anything is. -/
def Problem.text? : Problem → Option String
  | rule text => some ("Value error, " ++ text)
  | _ => none

/-- A complaint as a document. -/
def Complaint.toJson (c : Complaint) : Json :=
  .obj ([("loc", .arr (c.path.map Step.toJson)), ("type", .str c.problem.code)] ++
    (c.problem.text?.map fun text => ("msg", Json.str text)).toList)

end TelemetryAlerts
