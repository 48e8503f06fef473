/-!
# Document values

The values of a JSON document. Integers and floats are told apart, and the fields of
an object keep their order; a field name occurs once.
-/

namespace TelemetryAlerts

/-- A document value. -/
inductive Json where
  | null
  | bool (b : Bool)
  | int (n : Int)
  | float (x : Float)
  | str (s : String)
  | arr (items : List Json)
  | obj (fields : List (String × Json))
deriving Inhabited

namespace Json

/-- Replaces the value of a key where it stands, or adds the key at the end. -/
def insertField {κ β : Type} [DecidableEq κ] (key : κ) (value : β) : List (κ × β) → List (κ × β)
  | [] => [(key, value)]
  | (k, v) :: rest =>
    if k = key then (k, value) :: rest else (k, v) :: insertField key value rest

/-- The fields that a sequence of assignments leaves: the last value of each key, at the
place of its first. -/
def ofAssignments {β : Type} (pairs : List (String × β)) : List (String × β) :=
  pairs.foldl (fun fields p => insertField p.1 p.2 fields) []

/-- The value of a key in an object. -/
def field? (key : String) : Json → Option Json
  | obj fields => fields.lookup key
  | _ => none

/-- Whether a value is neither a list nor an object. -/
def isScalar : Json → Bool
  | arr _ => false
  | obj _ => false
  | _ => true

/-- An optional text as a value. -/
def ofText? : Option String → Json
  | some s => str s
  | none => null

end Json
end TelemetryAlerts
