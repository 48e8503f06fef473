import TelemetryAlerts.Json.Basic
import TelemetryAlerts.Number.Layout
import TelemetryAlerts.Text.Quoted

/-!
# Writing JSON texts

A document as text. The decisions that JSON leaves open are a `Style` record:
separators, whether characters outside ASCII are escaped, and what stands for a float
that is not finite.
-/

namespace TelemetryAlerts
namespace Json

/-- The open decisions of a written document. -/
structure Style where
  itemSeparator : String
  fieldSeparator : String
  /-- Write characters outside ASCII as escapes, as pairs beyond the basic plane. -/
  escapeNonAscii : Bool
  nan : String
  infinity : String
  negativeInfinity : String

/-- Messages: spaced separators, ASCII only, literals for floats that are not finite. -/
def Style.message : Style where
  itemSeparator := ", "
  fieldSeparator := ": "
  escapeNonAscii := true
  nan := "NaN"
  infinity := "Infinity"
  negativeInfinity := "-Infinity"

/-- Stored documents: no spaces, and `null` for a float that is not finite. -/
def Style.stored : Style where
  itemSeparator := ","
  fieldSeparator := ":"
  escapeNonAscii := false
  nan := "null"
  infinity := "null"
  negativeInfinity := "null"

/-- An escape of one 16-bit unit. -/
def unitEscape (n : Nat) : List Char :=
  '\\' :: 'u' :: Text.hexPadded 4 n

/-- One character inside a string. -/
def Style.char (style : Style) (c : Char) : List Char :=
  match c with
  | '"' => ['\\', '"']
  | '\\' => ['\\', '\\']
  | '\n' => ['\\', 'n']
  | '\r' => ['\\', 'r']
  | '\t' => ['\\', 't']
  | '\x08' => ['\\', 'b']
  | '\x0C' => ['\\', 'f']
  | _ =>
    let n := c.toNat
    if n < 0x20 then unitEscape n
    else if style.escapeNonAscii && 0x7F ≤ n then
      if n < 0x10000 then unitEscape n
      else
        unitEscape (0xD800 + (n - 0x10000) / 0x400) ++ unitEscape (0xDC00 + (n - 0x10000) % 0x400)
    else [c]

/-- A string in quotes. -/
def Style.string (style : Style) (s : String) : List Char :=
  '"' :: s.toList.flatMap style.char ++ ['"']

/-- A float. -/
def Style.float (style : Style) (x : Float) : List Char :=
  if Number.isFinite x then (Number.Layout.standard.float x).toList
  else if x.isNaN then style.nan.toList
  else if x < 0 then style.negativeInfinity.toList
  else style.infinity.toList

/-- An integer. -/
def intText (n : Int) : List Char :=
  if n < 0 then '-' :: Nat.toDigits 10 n.natAbs else Nat.toDigits 10 n.natAbs

mutual

/-- A value. -/
def Style.value (style : Style) : Json → List Char
  | .null => "null".toList
  | .bool true => "true".toList
  | .bool false => "false".toList
  | .int n => intText n
  | .float x => style.float x
  | .str s => style.string s
  | .arr [] => ['[', ']']
  | .arr (v :: rest) => '[' :: style.value v ++ style.items rest
  | .obj [] => ['{', '}']
  | .obj ((k, v) :: rest) =>
    '{' :: style.string k ++ style.fieldSeparator.toList ++ style.value v ++ style.fields rest

/-- The items after the first one, and the closing bracket. -/
def Style.items (style : Style) : List Json → List Char
  | [] => [']']
  | v :: rest => style.itemSeparator.toList ++ style.value v ++ style.items rest

/-- The fields after the first one, and the closing brace. -/
def Style.fields (style : Style) : List (String × Json) → List Char
  | [] => ['}']
  | (k, v) :: rest =>
    style.itemSeparator.toList ++ style.string k ++ style.fieldSeparator.toList ++
      style.value v ++ style.fields rest

end

/-- A document as text. -/
def write (style : Style) (v : Json) : String :=
  String.ofList (style.value v)

mutual

/-- Whether no float inside a value is infinite or undefined. -/
def allFinite : Json → Bool
  | .float x => Number.isFinite x
  | .arr items => allFiniteItems items
  | .obj fields => allFiniteFields fields
  | _ => true

/-- The same of every item of a list. -/
def allFiniteItems : List Json → Bool
  | [] => true
  | v :: rest => allFinite v && allFiniteItems rest

/-- The same of every field of an object. -/
def allFiniteFields : List (String × Json) → Bool
  | [] => true
  | (_, v) :: rest => allFinite v && allFiniteFields rest

end

mutual

/-- A value as it comes back from a stored document: a float that is not finite is `null`. -/
def settled : Json → Json
  | .float x => if Number.isFinite x then float x else null
  | .arr items => arr (settledItems items)
  | .obj fields => obj (settledFields fields)
  | v => v

/-- The same of every item of a list. -/
def settledItems : List Json → List Json
  | [] => []
  | v :: rest => settled v :: settledItems rest

/-- The same of every field of an object. -/
def settledFields : List (String × Json) → List (String × Json)
  | [] => []
  | (k, v) :: rest => (k, settled v) :: settledFields rest

end

end Json
end TelemetryAlerts
