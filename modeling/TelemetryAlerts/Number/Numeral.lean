import TelemetryAlerts.Number.Decimal
import TelemetryAlerts.Text.Digit
import TelemetryAlerts.Text.Case
import TelemetryAlerts.Text.Blank

/-!
# Reading numerals

The numerals that a text reading may hold: decimal digits of any script, single
underscores between digits, an optional fraction and exponent, and the names of
infinity and of the undefined value.
-/

namespace TelemetryAlerts
namespace Number

/-- Splits off the longest digit string with single underscores between its digits,
and returns the digits' values. -/
def spanDigits (digit? : Char → Option Nat) : List Char → List Nat × List Char
  | [] => ([], [])
  | [c] =>
    match digit? c with
    | some d => ([d], [])
    | none => ([], [c])
  | c :: b :: rest =>
    match digit? c with
    | none => ([], c :: b :: rest)
    | some d =>
      match b, rest with
      | '_', c' :: _ =>
        if (digit? c').isSome then
          let (ds, r) := spanDigits digit? rest
          (d :: ds, r)
        else ([d], b :: rest)
      | '_', [] => ([d], [b])
      | _, _ =>
        let (ds, r) := spanDigits digit? (b :: rest)
        (d :: ds, r)

/-- Splits off a sign. -/
def spanSign : List Char → Bool × List Char
  | '-' :: rest => (true, rest)
  | '+' :: rest => (false, rest)
  | rest => (false, rest)

/-- Reads an exponent part that must reach the end of the text. -/
def exponentPart? (digit? : Char → Option Nat) : List Char → Option Int
  | [] => some 0
  | c :: rest =>
    if c == 'e' || c == 'E' then
      let (negative, body) := spanSign rest
      match spanDigits digit? body with
      | (d :: ds, []) =>
        let n : Int := Text.ofDigits 10 (d :: ds)
        some (if negative then -n else n)
      | _ => none
    else none

/-- Reads digits with an optional fraction and exponent. -/
def unsigned? (digit? : Char → Option Nat) (cs : List Char) : Option (Nat × Int) :=
  let (whole, rest) := spanDigits digit? cs
  let (fraction, rest) :=
    match rest with
    | '.' :: r => spanDigits digit? r
    | r => ([], r)
  if whole.isEmpty && fraction.isEmpty then none
  else
    (exponentPart? digit? rest).map fun e =>
      (Text.ofDigits 10 (whole ++ fraction), e - fraction.length)

/-- The words that stand for a value that is no decimal number. -/
def namedMagnitude? (cs : List Char) : Option Float :=
  match String.ofList (cs.map Char.toLower) with
  | "inf" => some (ofMagnitude false infinityBits)
  | "infinity" => some (ofMagnitude false infinityBits)
  | "nan" => some (Float.ofBits 0x7FF8000000000000)
  | _ => none

/-- The float that a numeral without surrounding blanks stands for. -/
def numeral? (digit? : Char → Option Nat) (cs : List Char) : Option Float :=
  let (negative, body) := spanSign cs
  match namedMagnitude? body with
  | some x => some (if negative then -x else x)
  | none => (unsigned? digit? body).map fun (m, e) => (Decimal.mk negative m e).toFloat

/-- The float that a text stands for: a numeral in the digits of any script, with
blanks around it. -/
def ofText? (s : String) : Option Float :=
  numeral? Text.decimalValue? (Text.dropEnds Text.isBlank s.toList)

end Number
end TelemetryAlerts
