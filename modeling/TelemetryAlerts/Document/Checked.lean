/-!
# Checking with all complaints

The result of checking a document: a value, or every complaint about it in the order
of the record's fields.
-/

namespace TelemetryAlerts

/-- What is wrong with a value. -/
inductive Problem where
  | missing
  | stringType
  | intType
  | intParsing
  | intParsingSize
  | intFromFloat
  | finiteNumber
  | greaterThanEqual
  | boolType
  | boolParsing
  | floatType
  | floatParsing
  | listType
  | dictType
  | enum
  | modelType
  | modelAttributesType
  | jsonInvalid
  | datetimeType
  | datetimeParsing
  | datetimeFromDateParsing
  /-- A rule about the record as a whole is broken. -/
  | rule (text : String)
deriving Repr, DecidableEq

/-- The code by which a problem is reported. -/
def Problem.code : Problem → String
  | missing => "missing"
  | stringType => "string_type"
  | intType => "int_type"
  | intParsing => "int_parsing"
  | intParsingSize => "int_parsing_size"
  | intFromFloat => "int_from_float"
  | finiteNumber => "finite_number"
  | greaterThanEqual => "greater_than_equal"
  | boolType => "bool_type"
  | boolParsing => "bool_parsing"
  | floatType => "float_type"
  | floatParsing => "float_parsing"
  | listType => "list_type"
  | dictType => "dict_type"
  | enum => "enum"
  | modelType => "model_type"
  | modelAttributesType => "model_attributes_type"
  | jsonInvalid => "json_invalid"
  | datetimeType => "datetime_type"
  | datetimeParsing => "datetime_parsing"
  | datetimeFromDateParsing => "datetime_from_date_parsing"
  | rule _ => "value_error"

/-- A step on the way from a record to the value complained about. -/
inductive Step where
  | field (name : String)
  | index (i : Nat)
deriving Repr, DecidableEq

/-- A problem and the way to it. -/
structure Complaint where
  path : List Step
  problem : Problem
deriving Repr, DecidableEq

/-- A checked value, or all complaints about it. -/
inductive Checked (α : Type) where
  | ok (value : α)
  | bad (complaints : List Complaint)

namespace Checked

variable {α β : Type}

/-- The same result for a function's value. -/
def map (f : α → β) : Checked α → Checked β
  | ok a => ok (f a)
  | bad cs => bad cs

/-- Applies a checked function to a checked value; complaints of both are kept. -/
def apply (f : Checked (α → β)) (a : Checked α) : Checked β :=
  match f, a with
  | ok f, ok a => ok (f a)
  | ok _, bad cs => bad cs
  | bad cs, ok _ => bad cs
  | bad cs, bad ds => bad (cs ++ ds)

instance : Applicative Checked where
  map := map
  pure := ok
  seq f a := apply f (a ())

/-- One problem with the value itself. -/
def fail (p : Problem) : Checked α :=
  bad [⟨[], p⟩]

/-- Puts a step in front of every complaint's path. -/
def within (step : Step) : Checked α → Checked α
  | ok a => ok a
  | bad cs => bad (cs.map fun c => { c with path := step :: c.path })

/-- Checks a list item by item. -/
def items (check : α → Checked β) : Nat → List α → Checked (List β)
  | _, [] => ok []
  | i, a :: rest => apply (map List.cons (within (.index i) (check a))) (items check (i + 1) rest)

/-- A rule that is looked at only when all fields are in order. -/
def andThen (a : Checked α) (f : α → Checked β) : Checked β :=
  match a with
  | ok a => f a
  | bad cs => bad cs

end Checked
end TelemetryAlerts
