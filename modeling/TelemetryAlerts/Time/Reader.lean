import TelemetryAlerts.Time.Moment
import TelemetryAlerts.Text.Digit

/-!
# Reading moments

The texts and numbers that name a moment. A text gives a date alone, or a date and a
time of day; a number counts seconds, or milliseconds if it is large, since the epoch.
-/

namespace TelemetryAlerts
namespace Moment

/-- Splits off a number of exactly `count` ASCII digits. -/
def takeDigits? (count : Nat) (cs : List Char) : Option (Nat × List Char) :=
  let run := cs.take count
  if run.length < count then none
  else (run.mapM Text.asciiDigit?).map fun ds => (Text.ofDigits 10 ds, cs.drop count)

/-- Splits off one given character. -/
def takeChar? (c : Char) : List Char → Option (List Char)
  | d :: rest => if c = d then some rest else none
  | [] => none

/-- Splits off a date: year, month and day. -/
def takeDate? (cs : List Char) : Option ((Nat × Nat × Nat) × List Char) := do
  let (year, cs) ← takeDigits? 4 cs
  let cs ← takeChar? '-' cs
  let (month, cs) ← takeDigits? 2 cs
  let cs ← takeChar? '-' cs
  let (day, cs) ← takeDigits? 2 cs
  pure ((year, month, day), cs)

/-- The microseconds that the first six digits of a fraction stand for. -/
def fractionMicros (ds : List Nat) : Nat :=
  let six := ds.take 6
  Text.ofDigits 10 six * Nat.pow 10 (6 - six.length)

/-- Splits off a fraction of a second, if one begins here; it has at least one digit. -/
def takeFraction? (cs : List Char) : Option (Nat × List Char) :=
  match cs with
  | c :: rest =>
    if c = '.' ∨ c = ',' then
      let ds := (rest.takeWhile fun d => (Text.asciiDigit? d).isSome).filterMap Text.asciiDigit?
      if ds.isEmpty then none else some (fractionMicros ds, rest.drop ds.length)
    else some (0, cs)
  | [] => some (0, [])

/-- Splits off seconds with an optional fraction, if they are given. -/
def takeSeconds? (cs : List Char) : Option ((Nat × Nat) × List Char) :=
  match cs with
  | ':' :: rest => do
    let (second, cs) ← takeDigits? 2 rest
    let (micro, cs) ← takeFraction? cs
    pure ((second, micro), cs)
  | _ => some ((0, 0), cs)

/-- The sign of a distance from universal time; the mathematical minus counts too. -/
def offsetSign? (c : Char) : Option Int :=
  if c = '+' then some 1 else if c = '-' ∨ c = '\u2212' then some (-1) else none

/-- Reads a distance from universal time, which must end the text. -/
def offsetPart? (cs : List Char) : Option (Option Int) :=
  match cs with
  | [] => some none
  | ['Z'] => some (some 0)
  | ['z'] => some (some 0)
  | c :: rest => do
    let sign ← offsetSign? c
    let (hours, rest) ← takeDigits? 2 rest
    let rest := (takeChar? ':' rest).getD rest
    let (minutes, rest) ← takeDigits? 2 rest
    if rest.isEmpty && minutes < 60 then
      pure (some (sign * ((hours * 60 + minutes : Nat) : Int)))
    else none

/-- The moment that a date and a time of day name. -/
def ofDateTime? (cs : List Char) : Option Moment := do
  let ((year, month, day), cs) ← takeDate? cs
  match cs with
  | mark :: cs =>
    if mark ∈ ['T', 't', ' ', '_'] then
      let (hour, cs) ← takeDigits? 2 cs
      let cs ← takeChar? ':' cs
      let (minute, cs) ← takeDigits? 2 cs
      let ((second, micro), cs) ← takeSeconds? cs
      let offset? ← offsetPart? cs
      mk? year month day hour minute second micro offset?
    else none
  | [] => none

/-- The start of the day that a date alone names. -/
def ofDate? (cs : List Char) : Option Moment := do
  let ((year, month, day), cs) ← takeDate? cs
  if cs.isEmpty then mk? year month day 0 0 0 0 none else none

/-- Larger counts are milliseconds. -/
def largestSeconds : Int := 20000000000

/-- The moment so many seconds and microseconds after the epoch. -/
def ofSeconds? (seconds micros : Int) : Option Moment :=
  ofEpoch? (seconds * microsPerSecond + micros)

/-- The moment that a whole count names, with microseconds to add. -/
def ofCount? (count micros : Int) : Option Moment :=
  let (seconds, micros) : Int × Int :=
    if count.natAbs ≤ largestSeconds.toNat then (count, micros)
    else (count.fdiv 1000, micros + count.fmod 1000 * 1000)
  let carry := micros.fdiv microsPerSecond
  ofSeconds? (seconds + carry) (micros - carry * microsPerSecond)

/-- The floor of a finite float and the microseconds of its fraction's magnitude, rounded,
halves away from zero. -/
def splitFloat? (x : Float) : Option (Int × Int) :=
  (Number.parts? x).map fun p =>
    let (n, d) := p.ratio
    let whole : Int := ((n / d : Nat) : Int)
    let rest := n % d
    let floor := if p.negative then (if rest = 0 then -whole else -whole - 1) else whole
    -- the product with a million is itself a float
    let scaled := Number.ofRatio false (rest * 1000000) d
    let micros : Int :=
      match Number.parts? scaled with
      | none => 0
      | some q =>
        let (n, d) := q.ratio
        ((2 * n + d) / (2 * d) : Nat)
    (floor, micros)

/-- The moment that a float counts. -/
def ofFloat? (x : Float) : Option Moment :=
  (splitFloat? x).bind fun (floor, micros) => ofCount? floor micros

/-- The moment that a text of digits counts, with an optional fraction. -/
def ofNumeral? (cs : List Char) : Option Moment := do
  let (negative, body) : Bool × List Char :=
    match cs with
    | '-' :: r => (true, r)
    | '+' :: r => (false, r)
    | r => (false, r)
  let whole := body.takeWhile fun c => (Text.asciiDigit? c).isSome
  if whole.isEmpty then none
  else
    let n : Int := Text.ofDigits 10 (whole.filterMap Text.asciiDigit?)
    match body.drop whole.length with
    | [] => ofCount? (if negative then -n else n) 0
    | '.' :: tail =>
      let ds ← tail.mapM Text.asciiDigit?
      let digits := Text.ofDigits 10 (whole.filterMap Text.asciiDigit? ++ ds)
      let x := (Number.Decimal.mk false digits (-ds.length)).toFloat
      let scaled := if 20000000000 < x then x / 1000 else x
      let (floor, micros) ← splitFloat? (if negative then -scaled else scaled)
      let micros := if negative && micros ≠ 0 then 1000000 - micros else micros
      ofCount? floor micros
    | _ => none

/-- The moment that a text names. -/
def ofText? (s : String) : Option Moment :=
  let cs := s.toList
  (ofDateTime? cs).orElse fun _ => (ofNumeral? cs).orElse fun _ => ofDate? cs

end Moment
end TelemetryAlerts
