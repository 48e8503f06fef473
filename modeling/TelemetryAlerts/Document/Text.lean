import TelemetryAlerts.Failure
import TelemetryAlerts.Json.Bytes

/-!
# Documents from outside

Texts and bytes that come from a store or a web service, as documents.
-/

namespace TelemetryAlerts
namespace Document

/-- The document in a text. -/
def ofText (text : String) : Outcome Json :=
  match Json.read text with
  | .ok v => .ok v
  | .error .tooManyDigits => .error (.kind .unusableValue)
  | .error _ => .error .malformedDocument

/-- The document in bytes. -/
def ofBytes (b : List UInt8) : Outcome Json :=
  match Json.textOfBytes? b with
  | some text => ofText text
  | none => .error .undecodable

end Document
end TelemetryAlerts
