import TelemetryAlerts.Json.Basic

/-!
# One layer of a document

Records are read from JSON values and from configuration values alike. What both have
in common is what the outermost layer of a value can be.
-/

namespace TelemetryAlerts

/-- The outermost layer of a document value, over the type of the values inside it. -/
inductive Layer (α : Type) where
  | null
  | bool (b : Bool)
  | int (n : Int)
  | float (x : Float)
  | text (s : String)
  | list (items : List α)
  | fields (entries : List (String × α))
  /-- Any other kind of value. -/
  | other

/-- The values that records can be read from. -/
class Document (α : Type) where
  layer : α → Layer α

/-- A JSON value as a document. -/
instance : Document Json where
  layer
    | .null => .null
    | .bool b => .bool b
    | .int n => .int n
    | .float x => .float x
    | .str s => .text s
    | .arr items => .list items
    | .obj entries => .fields entries

end TelemetryAlerts
