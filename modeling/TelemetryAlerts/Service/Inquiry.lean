import TelemetryAlerts.Document.Complaint
import TelemetryAlerts.Json.Bytes
import TelemetryAlerts.Json.Writer
import TelemetryAlerts.Text.Case
import TelemetryAlerts.Text.Blank

/-!
# Inquiries and responses

What the service is asked over the web, and what it answers.
-/

namespace TelemetryAlerts
namespace Service

/-- A request to the service. -/
structure Inquiry where
  method : String
  /-- The path with its escapes undone. -/
  path : String
  /-- The fields of the query, in order. -/
  query : List (String × String) := []
  /-- The headers, in order. -/
  headers : List (String × String) := []
  body : List UInt8 := []

/-- The content of a response. -/
inductive Content where
  | document (v : Json)
  | text (s : String)

/-- A response of the service. -/
structure Response where
  status : Nat
  content : Content

namespace Response

/-- The response to an inquiry on which the service fails. -/
def failed : Response := ⟨500, .text "Internal Server Error"⟩

/-- The response that only names another place. -/
def elsewhere : Response := ⟨307, .text ""⟩

/-- A response with a document. A number that is not finite cannot be sent. -/
def ofDocument (status : Nat) (v : Json) : Response :=
  if v.allFinite then ⟨status, .document v⟩ else failed

/-- A response that only says something. -/
def saying (status : Nat) (text : String) : Response :=
  ⟨status, .document (.obj [("detail", .str text)])⟩

/-- The response to an inquiry with faults. -/
def refusing (complaints : List Complaint) : Response :=
  ⟨422, .document (.obj [("detail", .arr (complaints.map Complaint.toJson))])⟩

/-- The response without what it holds. -/
def withoutContent (r : Response) : Response :=
  { r with content := .text "" }

end Response

namespace Inquiry

/-- The value of a header whose name is matched in any case; the first one counts. -/
def header? (i : Inquiry) (name : String) : Option String :=
  (i.headers.find? fun h => Text.lower h.1 == name).map (·.2)

/-- The value of a field of the query; the last one counts. -/
def field? (i : Inquiry) (name : String) : Option String :=
  i.query.reverse.lookup name

/-- The kind of content that a header announces, without its parameters. -/
def kindOf (header : String) : String :=
  Text.lower (Text.trim (String.ofList (header.toList.takeWhile (· != ';'))))

/-- Whether the body is announced as a document; unless anything is announced, it is one. -/
def bringsDocument (i : Inquiry) : Bool :=
  match i.header? "content-type" with
  | none => true
  | some "" => true
  | some header =>
    let kind := kindOf header
    kind == "application/json" ||
      (Text.startsWith kind "application/" && kind.endsWith "+json" &&
        kind.toList.count '/' == 1)

end Inquiry
end Service
end TelemetryAlerts
