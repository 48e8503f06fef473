import TelemetryAlerts.Number.Rounding

/-!
# Decimal numbers

A decimal is `digits · 10 ^ exponent` with a sign. `Decimal.toFloat` is the nearest
float; `Decimal.shortest` is the decimal with the fewest digits whose nearest float is
the given one, and of those the nearest to it.
-/

namespace TelemetryAlerts
namespace Number

/-- As for the binary powers. -/
local instance (priority := 1100) decimalPower : Pow Nat Nat := instPowNat

/-- A signed decimal number. -/
structure Decimal where
  negative : Bool
  digits : Nat
  exponent : Int
deriving Repr, DecidableEq

/-- The number of decimal digits of a natural number; zero has none. -/
def digitCount (n : Nat) : Nat :=
  if n = 0 then 0 else (Nat.toDigits 10 n).length

/-- The numerator and denominator of `digits · 10 ^ exponent`. -/
def decimalRatio (digits : Nat) (exponent : Int) : Nat × Nat :=
  if 0 ≤ exponent then (digits * 10 ^ exponent.toNat, 1)
  else (digits, 10 ^ (-exponent).toNat)

/-- The bits of the float nearest to `digits · 10 ^ exponent`; a magnitude outside every
float's range is decided from the number of digits alone. -/
def decimalBits (digits : Nat) (exponent : Int) : Nat :=
  let top := digitCount digits + exponent
  if digits = 0 ∨ top < -330 then 0
  else if 310 < top then infinityBits
  else
    let (n, d) := decimalRatio digits exponent
    magnitudeBits n d

/-- The nearest float. -/
def Decimal.toFloat (x : Decimal) : Float :=
  ofMagnitude x.negative (decimalBits x.digits x.exponent)

/-- The two neighbours of `num / den` on the grid of multiples of `10 ^ e`, the nearer
one first; of two equally near ones the even one. -/
def gridNeighbours (num den : Nat) (e : Int) : List Nat :=
  let (n, d) := if 0 ≤ e then (num, den * 10 ^ e.toNat) else (num * 10 ^ (-e).toNat, den)
  let near := roundHalfEven n d
  let low := n / d
  if near = low then [low, low + 1] else [low + 1, low]

/-- The exponent `p` with `10 ^ (p - 1) ≤ num / den < 10 ^ p`, one of the four that the
binary logarithms leave open. -/
def decimalTop (num den : Nat) : Int :=
  let estimate : Int := (((Nat.log2 num : Int) - (Nat.log2 den : Int)) * 30103).fdiv 100000
  let below (p : Int) : Bool :=
    if 0 ≤ p then num < den * 10 ^ p.toNat else num * 10 ^ (-p).toNat < den
  if below (estimate - 1) then estimate - 1
  else if below estimate then estimate
  else if below (estimate + 1) then estimate + 1
  else estimate + 2

/-- Searches the grids from coarse to fine for a decimal that reads back as `bits`. -/
def searchGrids (bits num den : Nat) (top : Int) : Nat → Nat → Option (Nat × Int)
  | 0, _ => none
  | fuel + 1, count =>
    let e := top - count
    match (gridNeighbours num den e).find? fun m => decimalBits m e = bits with
    | some m => some (m, e)
    | none => searchGrids bits num den top fuel (count + 1)

/-- A positive quotient with a power of two below, as a decimal with all its digits. -/
def exactDecimal (p : Parts) : Nat × Int :=
  if 0 ≤ p.exponent then (p.significand * 2 ^ p.exponent.toNat, 0)
  else (p.significand * 5 ^ (-p.exponent).toNat, p.exponent)

/-- The shortest decimal that reads back as a finite float given in pieces. Seventeen
digits always suffice; the exact expansion stands behind the search. -/
def Parts.shortest (p : Parts) : Decimal :=
  if p.significand = 0 then ⟨p.negative, 0, 0⟩
  else
    let (n, d) := p.ratio
    let (m, e) := (searchGrids (magnitudeBits n d) n d (decimalTop n d) 17 1).getD (exactDecimal p)
    ⟨p.negative, m, e⟩

end Number
end TelemetryAlerts
