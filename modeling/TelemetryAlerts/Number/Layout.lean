import TelemetryAlerts.Number.Decimal
import TelemetryAlerts.Text.Digit

/-!
# The text of numbers

How a float is written: the digits of the shortest decimal that reads back, laid out
by the decisions of a `Layout` record.
-/

namespace TelemetryAlerts
namespace Number

/-- The decisions of a number format that the digits leave open. -/
structure Layout where
  /-- The point stands at least this far to the right of the first digit's left edge … -/
  positionalFrom : Int
  /-- … and at most this far, or else an exponent is written. -/
  positionalTo : Int
  /-- What follows a number without a fraction. -/
  wholeTail : String
  /-- The least number of digits of an exponent. -/
  exponentDigits : Nat
  nan : String
  infinity : String
  negativeInfinity : String

/-- Numbers as they are written in documents and messages. -/
def Layout.standard : Layout where
  positionalFrom := -3
  positionalTo := 16
  wholeTail := ".0"
  exponentDigits := 2
  nan := "nan"
  infinity := "inf"
  negativeInfinity := "-inf"

/-- A natural number with at least `width` digits. -/
def padded (width n : Nat) : List Char :=
  let ds := Nat.toDigits 10 n
  List.replicate (width - ds.length) '0' ++ ds

/-- The trailing zeros of a list of digits are dropped. -/
def dropZeros (ds : List Char) : List Char :=
  (ds.reverse.dropWhile (· == '0')).reverse

/-- Lays out a magnitude `0.d₁d₂… · 10 ^ point`. -/
def Layout.magnitude (l : Layout) (ds : List Char) (point : Int) : List Char :=
  if l.positionalFrom ≤ point ∧ point ≤ l.positionalTo then
    if point ≤ 0 then '0' :: '.' :: List.replicate (-point).toNat '0' ++ ds
    else if ds.length ≤ point.toNat then
      ds ++ List.replicate (point.toNat - ds.length) '0' ++ l.wholeTail.toList
    else ds.take point.toNat ++ '.' :: ds.drop point.toNat
  else
    let e := point - 1
    let lead := if ds.length ≤ 1 then ds else ds.take 1 ++ '.' :: ds.drop 1
    lead ++ 'e' :: (if e < 0 then '-' else '+') :: padded l.exponentDigits e.natAbs

/-- Lays out a decimal. -/
def Layout.decimal (l : Layout) (x : Decimal) : List Char :=
  let body :=
    if x.digits = 0 then l.magnitude ['0'] 1
    else
      let ds := Nat.toDigits 10 x.digits
      l.magnitude (dropZeros ds) (ds.length + x.exponent)
  if x.negative then '-' :: body else body

/-- The text of a float. -/
def Layout.float (l : Layout) (x : Float) : String :=
  match parts? x with
  | some p => String.ofList (l.decimal p.shortest)
  | none => if x.isNaN then l.nan else if x < 0 then l.negativeInfinity else l.infinity

end Number
end TelemetryAlerts
