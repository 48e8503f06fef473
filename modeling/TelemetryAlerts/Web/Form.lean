import TelemetryAlerts.Text.Utf8
import TelemetryAlerts.Web.Address

/-!
# Escaped texts and forms

Undoing the escapes of an address, and the fields that a query holds.
-/

namespace TelemetryAlerts
namespace Web

/-- The bytes that an escaped text stands for: a percent sign with two hexadecimal digits
is a byte, and any other character stands for itself. -/
def unescapedBytes : List Char → List UInt8
  | [] => []
  | '%' :: a :: b :: rest =>
    match Text.hexDigit? a, Text.hexDigit? b with
    | some x, some y => UInt8.ofNat (x * 16 + y) :: unescapedBytes rest
    | _, _ => (String.singleton '%').toUTF8.toList ++ unescapedBytes (a :: b :: rest)
  | c :: rest => (String.singleton c).toUTF8.toList ++ unescapedBytes rest

/-- The text that an escaped text stands for. -/
def unescape (cs : List Char) : List Char :=
  Text.ofBytes (unescapedBytes cs)

/-- The text of a form's part; a plus sign is a blank. -/
def unescapePart (cs : List Char) : String :=
  String.ofList (unescape (cs.map fun c => if c == '+' then ' ' else c))

/-- The field that a piece of a query is; without an equals sign its value is empty. -/
def formField (piece : List Char) : String × String :=
  let (name, value?) := Address.breakAt '=' piece
  (unescapePart name, unescapePart (value?.getD []))

/-- The fields of a query. -/
def formFields (query : List Char) : List (String × String) :=
  ((splitAt '&' query).filter fun piece => !piece.isEmpty).map formField

namespace Address

/-- The path of an address with its escapes undone; an empty path counts as a slash. -/
def plainPath (a : Address) : String :=
  String.ofList (unescape (if a.path.isEmpty then ['/'] else a.path))

/-- The fields in the query of an address. -/
def fields (a : Address) : List (String × String) :=
  formFields (a.query?.getD [])

end Address
end Web
end TelemetryAlerts
