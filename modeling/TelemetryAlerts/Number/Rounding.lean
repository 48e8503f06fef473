/-!
# Rounding to binary floating point

Exact rounding of a quotient of natural numbers to the nearest 64-bit float, ties
to the even significand. All of it is arithmetic on naturals: the bits of the
result are computed, and `Float.ofBits` reads them.

A finite float is `significand · 2 ^ exponent`, with the exponent at least `-1074`
and the significand below `2 ^ 53`.
-/

namespace TelemetryAlerts
namespace Number

/-- The power is the one of the core library, also where a monoid's power is in scope. -/
local instance (priority := 1100) binaryPower : Pow Nat Nat := instPowNat

/-- The quotient of two naturals, rounded to the nearest integer, a half to the even one. -/
def roundHalfEven (num den : Nat) : Nat :=
  let q := num / den
  let r := num % den
  if 2 * r < den then q
  else if den < 2 * r then q + 1
  else q + q % 2

/-- The numerator and denominator of `num / den · 2 ^ (-e)`. -/
def scaleBinary (num den : Nat) (e : Int) : Nat × Nat :=
  if 0 ≤ e then (num, den * 2 ^ e.toNat) else (num * 2 ^ (-e).toNat, den)

/-- The least exponent of a float. -/
def minExponent : Int := -1074

/-- The bits of positive infinity; every smaller number is the bits of a finite magnitude. -/
def infinityBits : Nat := 0x7FF0000000000000

/-- The exponent at which `num / den` has a significand of 53 bits, or the least one. -/
def exponentOf (num den : Nat) : Int :=
  let top : Int := (Nat.log2 num : Int) - (Nat.log2 den : Int)
  let (n, d) := scaleBinary num den top
  max minExponent (if n < d then top - 53 else top - 52)

/-- The bits of the float nearest to `num / den`, for a positive denominator. -/
def magnitudeBits (num den : Nat) : Nat :=
  if num = 0 then 0
  else
    let e := exponentOf num den
    let (n, d) := scaleBinary num den e
    min infinityBits ((e - minExponent).toNat * 2 ^ (52 : Nat) + roundHalfEven n d)

/-- The float whose magnitude has the given bits. -/
def ofMagnitude (negative : Bool) (bits : Nat) : Float :=
  Float.ofBits (UInt64.ofNat (if negative then bits + 2 ^ (63 : Nat) else bits))

/-- The float nearest to `± num / den`, for a positive denominator. -/
def ofRatio (negative : Bool) (num den : Nat) : Float :=
  ofMagnitude negative (magnitudeBits num den)

/-- The float nearest to an integer; `none` if the integer is beyond every finite float. -/
def ofInt? (n : Int) : Option Float :=
  let bits := magnitudeBits n.natAbs 1
  if bits < infinityBits then some (ofMagnitude (n < 0) bits) else none

/-- A finite float in pieces: its sign, significand and exponent. -/
structure Parts where
  negative : Bool
  significand : Nat
  exponent : Int
deriving Repr, DecidableEq

/-- The pieces of a finite float. -/
def parts? (x : Float) : Option Parts :=
  let bits : Nat := x.toBits.toNat
  let field : Nat := bits / 2 ^ (52 : Nat) % 2 ^ (11 : Nat)
  let fraction : Nat := bits % 2 ^ (52 : Nat)
  let negative : Bool := 2 ^ (63 : Nat) ≤ bits
  if field = 2047 then none
  else if field = 0 then some ⟨negative, fraction, minExponent⟩
  else some ⟨negative, fraction + 2 ^ (52 : Nat), field + minExponent - 1⟩

/-- The magnitude of a finite float as a quotient of naturals. -/
def Parts.ratio (p : Parts) : Nat × Nat :=
  if 0 ≤ p.exponent then (p.significand * 2 ^ p.exponent.toNat, 1)
  else (p.significand, 2 ^ (-p.exponent).toNat)

/-- Whether a float is neither infinite nor undefined. -/
def isFinite (x : Float) : Bool :=
  (parts? x).isSome

/-- The value of a finite float that has no fraction. -/
def toInt? (x : Float) : Option Int :=
  (parts? x).bind fun p =>
    let (n, d) := p.ratio
    let q : Int := ((n / d : Nat) : Int)
    if n % d = 0 then some (if p.negative then -q else q) else none

/-- A float rounded to a number of decimal places, on its exact value, a half to the even neighbour. -/
def roundPlaces (places : Nat) (x : Float) : Float :=
  match parts? x with
  | none => x
  | some p =>
    let (n, d) := p.ratio
    ofRatio p.negative (roundHalfEven (n * 10 ^ places) d) (10 ^ places)

end Number
end TelemetryAlerts
