/-!
# Host labels in ASCII

The encoding of host labels with characters outside ASCII as ASCII labels.
-/

namespace TelemetryAlerts
namespace Web

/-- The digit of a value below 36: the letters, then the figures. -/
def labelDigit (d : Nat) : Char :=
  Char.ofNat (if d < 26 then 0x61 + d else 0x30 + d - 26)

/-- The threshold of a digit's place. -/
def threshold (k bias : Nat) : Nat :=
  if k ≤ bias then 1 else if bias + 26 ≤ k then 26 else k - bias

/-- Divides a difference by 35 until it is small, and counts by 36. -/
def adaptLoop : Nat → Nat → Nat → Nat
  | 0, k, delta => k + 36 * delta / (delta + 38)
  | fuel + 1, k, delta =>
    if 455 < delta then adaptLoop fuel (k + 36) (delta / 35) else k + 36 * delta / (delta + 38)

/-- The bias after a difference has been written. -/
def adapt (delta count : Nat) (first : Bool) : Nat :=
  let delta := if first then delta / 700 else delta / 2
  adaptLoop delta 0 (delta + delta / count)

/-- A difference as digits of falling thresholds. The first argument bounds their number. -/
def deltaDigits (bias : Nat) : Nat → Nat → Nat → List Char
  | 0, _, q => [labelDigit q]
  | fuel + 1, k, q =>
    let t := threshold k bias
    if q < t then [labelDigit q]
    else labelDigit (t + (q - t) % (36 - t)) :: deltaDigits bias fuel (k + 36) ((q - t) / (36 - t))

/-- What the encoder remembers between code points. -/
structure LabelState where
  delta : Nat
  bias : Nat
  handled : Nat
  basic : Nat
  written : List Char

/-- Looks at one code point of the label while `n` is being placed. -/
def LabelState.visit (n : Nat) (s : LabelState) (c : Nat) : LabelState :=
  if c < n then { s with delta := s.delta + 1 }
  else if c = n then
    { s with
      written := s.written ++ deltaDigits s.bias s.delta 36 s.delta
      bias := adapt s.delta (s.handled + 1) (s.handled == s.basic)
      delta := 0
      handled := s.handled + 1 }
  else s

/-- Places the code points of a label in rising order. -/
def placeAll (codes : List Nat) : List Nat → Nat → LabelState → LabelState
  | [], _, s => s
  | m :: rest, n, s =>
    let s := { s with delta := s.delta + (m - n) * (s.handled + 1) }
    let s := codes.foldl (LabelState.visit m) s
    placeAll codes rest (m + 1) { s with delta := s.delta + 1 }

/-- Adds a number to a rising list without doubles. -/
def insertRising (n : Nat) : List Nat → List Nat
  | [] => [n]
  | m :: rest => if n < m then n :: m :: rest else if n = m then m :: rest
    else m :: insertRising n rest

/-- A label in ASCII. -/
def asciiLabel (label : List Char) : List Char :=
  let codes := label.map Char.toNat
  let basic := label.filter fun c => c.toNat < 128
  let others := (codes.filter (128 ≤ ·)).foldl (fun acc n => insertRising n acc) []
  let lead := if basic.isEmpty then [] else basic ++ ['-']
  let start : LabelState := ⟨0, 72, basic.length, basic.length, []⟩
  lead ++ (placeAll codes others 128 start).written

end Web
end TelemetryAlerts
