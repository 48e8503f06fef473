import TelemetryAlerts.Document.Layer
import TelemetryAlerts.Document.Checked
import TelemetryAlerts.Number.Numeral
import TelemetryAlerts.Time.Reader

/-!
# Checking single values

How lenient a record is about the kinds of its fields: a number may be given as a
text, a truth value as a number or a word, a whole number as a float without fraction.
-/

namespace TelemetryAlerts
namespace Document

variable {α : Type} [Document α]

/-- A text. -/
def text (v : α) : Checked String :=
  match layer v with
  | .text s => .ok s
  | _ => .fail .stringType

/-- The white space that may surround a number given as a text. -/
def isNumberSpace (c : Char) : Bool :=
  Text.isSpace c

/-- Digits with single underscores between them, and nothing else. -/
def plainDigits? (cs : List Char) : Option (List Nat) :=
  match Number.spanDigits Text.asciiDigit? cs with
  | (ds, []) => if ds.isEmpty then none else some ds
  | _ => none

/-- Drops a point with nothing but zeros after it. -/
def dropZeroFraction (cs : List Char) : List Char :=
  let whole := cs.takeWhile (· != '.')
  if (cs.drop (whole.length + 1)).all (· == '0') then whole else cs

/-- A natural number in figures. Underscores may stand among the zeros in front, and one at
a time between later digits. -/
def figures? (cs : List Char) : Option Nat :=
  let zeros := if cs.head? = some '0' then cs.takeWhile fun c => c == '0' || c == '_' else []
  match cs.drop zeros.length with
  | [] => if zeros.getLast? = some '0' then some 0 else none
  | rest => (plainDigits? rest).map (Text.ofDigits 10)

/-- The figures of a negative number: no zero stands in front of another digit. -/
def negativeFigures? (cs : List Char) : Option Nat :=
  if cs.head? = some '0' && 1 < cs.length then none else figures? cs

/-- The longest text that is read as a whole number. -/
def maxIntText : Nat := 4300

/-- A whole number given as a text. -/
def intOfText (s : String) : Checked Int :=
  let cs := Text.dropEnds isNumberSpace s.toList
  let (negative, body) := Number.spanSign cs
  if maxIntText < cs.length then .fail .intParsingSize
  else
    let body := dropZeroFraction body
    match if negative then negativeFigures? body else figures? body with
    | some n => .ok (if negative then -n else n)
    | none => .fail .intParsing

/-- The bound of the whole numbers of 64 bits with a sign. -/
def wordBound : Int := 9223372036854775808

/-- A whole number given as a float. -/
def intOfFloat (x : Float) : Checked Int :=
  if !Number.isFinite x then .fail .finiteNumber
  else
    match Number.toInt? x with
    | none => .fail .intFromFloat
    | some n => if -wordBound < n ∧ n < wordBound then .ok n else .fail .intParsingSize

/-- A whole number. -/
def int (v : α) : Checked Int :=
  match layer v with
  | .int n => .ok n
  | .bool b => .ok (if b then 1 else 0)
  | .float x => intOfFloat x
  | .text s => intOfText s
  | _ => .fail .intType

/-- A whole number that is not negative. -/
def nat (v : α) : Checked Nat :=
  (int v).andThen fun n => if 0 ≤ n then .ok n.toNat else .fail .greaterThanEqual

/-- The words for true and false. -/
def boolOfText? (s : String) : Option Bool :=
  let word := String.ofList (s.toList.map Char.toLower)
  if word ∈ ["1", "true", "t", "yes", "y", "on"] then some true
  else if word ∈ ["0", "false", "f", "no", "n", "off"] then some false
  else none

/-- A truth value. -/
def bool (v : α) : Checked Bool :=
  match layer v with
  | .bool b => .ok b
  | .text s => (boolOfText? s).elim (.fail .boolParsing) .ok
  | .int n => if n = 0 then .ok false else if n = 1 then .ok true else .fail .boolParsing
  | .float x => if x == 0 then .ok false else if x == 1 then .ok true else .fail .boolType
  | _ => .fail .boolType

/-- Whether underscores stand one at a time, and none at the end. -/
def hasLoneUnderscores : List Char → Bool
  | [] => true
  | '_' :: '_' :: _ => false
  | ['_'] => false
  | _ :: rest => hasLoneUnderscores rest

/-- A float given as a text: with underscores inside, or with white space around it. -/
def floatOfText? (s : String) : Option Float :=
  let cs := s.toList
  if cs.contains '_' then
    if cs.head? != some '_' && hasLoneUnderscores cs then
      Number.numeral? Text.asciiDigit? (cs.filter (· != '_'))
    else none
  else Number.numeral? Text.asciiDigit? (Text.dropEnds isNumberSpace cs)

/-- A float. -/
def float (v : α) : Checked Float :=
  match layer v with
  | .float x => .ok x
  | .int n => (Number.ofInt? n).elim (.fail .floatType) .ok
  | .bool b => .ok (if b then 1 else 0)
  | .text s => (floatOfText? s).elim (.fail .floatParsing) .ok
  | _ => .fail .floatType

/-- A moment. -/
def moment (v : α) : Checked Moment :=
  match layer v with
  | .text s => (Moment.ofText? s).elim (.fail .datetimeFromDateParsing) .ok
  | .int n => (Moment.ofCount? n 0).elim (.fail .datetimeParsing) .ok
  | .float x => (Moment.ofFloat? x).elim (.fail .datetimeParsing) .ok
  | _ => .fail .datetimeType

/-- One of a few words. -/
def word {β : Type} (read? : String → Option β) (v : α) : Checked β :=
  match layer v with
  | .text s => (read? s).elim (.fail .enum) .ok
  | _ => .fail .enum

/-- A value that may be null. -/
def optional {β : Type} (check : α → Checked β) (v : α) : Checked (Option β) :=
  match layer v with
  | .null => .ok none
  | _ => (check v).map some

/-- A list. -/
def list {β : Type} (check : α → Checked β) (v : α) : Checked (List β) :=
  match layer v with
  | .list vs => Checked.items check 0 vs
  | _ => .fail .listType

/-- A mapping with any values. -/
def mapping (v : α) : Checked (List (String × α)) :=
  match layer v with
  | .fields entries => .ok entries
  | _ => .fail .dictType

end Document

/-- The fields of a record under check. -/
abbrev Entries (α : Type) := List (String × α)

namespace Entries

variable {α β : Type}

/-- A field that has to be given. -/
def required (entries : Entries α) (name : String) (check : α → Checked β) : Checked β :=
  match entries.lookup name with
  | some v => (check v).within (.field name)
  | none => (Checked.fail .missing).within (.field name)

/-- A field with a value of its own when it is not given. -/
def withDefault (entries : Entries α) (name : String) (default : β) (check : α → Checked β) :
    Checked β :=
  match entries.lookup name with
  | some v => (check v).within (.field name)
  | none => .ok default

end Entries

namespace Document

variable {α β : Type} [Document α]

/-- A record inside a record. -/
def record (check : Entries α → Checked β) (v : α) : Checked β :=
  match layer v with
  | .fields entries => check entries
  | _ => .fail .modelType

end Document
end TelemetryAlerts
