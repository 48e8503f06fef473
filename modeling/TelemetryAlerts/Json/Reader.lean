import TelemetryAlerts.Json.Basic
import TelemetryAlerts.Number.Decimal
import TelemetryAlerts.Text.Digit

/-!
# Reading JSON texts

A reader for JSON texts that also takes the literals `NaN`, `Infinity` and
`-Infinity`. A refusal carries the position, counted in characters, at which the text
stops being a document. While reading, a place in the text is the number of characters
left from there on.
-/

namespace TelemetryAlerts
namespace Json

/-- Why a text is no document. -/
inductive ReadError where
  /-- The text breaks the grammar at a position. -/
  | malformed (position : Nat)
  /-- A whole number has more digits than are read. -/
  | tooManyDigits
deriving Repr, DecidableEq

/-- The longest whole number that is read, in digits. -/
def maxWholeDigits : Nat := 4300

/-- Refuses at the place where `left` characters are left. -/
def malformedAt {α : Type} (left : Nat) : Except ReadError α :=
  .error (.malformed left)

/-- JSON's white space. -/
def isJsonSpace (c : Char) : Bool :=
  c == ' ' || c == '\t' || c == '\n' || c == '\r'

/-- Skips white space. -/
def skipSpace (cs : List Char) : List Char :=
  cs.dropWhile isJsonSpace

/-- Splits off `word`. -/
def dropWord? (word : List Char) (cs : List Char) : Option (List Char) :=
  if word.isPrefixOf cs then some (cs.drop word.length) else none

/-- Splits off the ASCII digits at the front. -/
def spanAsciiDigits (cs : List Char) : List Char × List Char :=
  (cs.takeWhile fun c => (Text.asciiDigit? c).isSome,
    cs.dropWhile fun c => (Text.asciiDigit? c).isSome)

/-- The number that ASCII digits spell. -/
def digitsValue (ds : List Char) : Nat :=
  Text.ofDigits 10 (ds.filterMap Text.asciiDigit?)

/-- A fraction: a point with at least one digit after it. -/
def spanFraction (cs : List Char) : Option (List Char × List Char) :=
  match cs with
  | '.' :: rest =>
    let (ds, r) := spanAsciiDigits rest
    if ds.isEmpty then none else some (ds, r)
  | _ => none

/-- An exponent: a mark, an optional sign and at least one digit. -/
def spanExponent (cs : List Char) : Option (Int × List Char) :=
  match cs with
  | c :: rest =>
    if c == 'e' || c == 'E' then
      let (negative, body) : Bool × List Char :=
        match rest with
        | '-' :: r => (true, r)
        | '+' :: r => (false, r)
        | r => (false, r)
      let (ds, r) := spanAsciiDigits body
      if ds.isEmpty then none
      else
        let n : Int := digitsValue ds
        some (if negative then -n else n, r)
    else none
  | [] => none

/-- Splits off a minus sign. -/
def spanMinus : List Char → Bool × List Char
  | '-' :: rest => (true, rest)
  | rest => (false, rest)

/-- Reads a number; the place of a refusal is that of its sign. -/
def readNumber (cs : List Char) : Except ReadError (Json × List Char) :=
  let (negative, body) := spanMinus cs
  let (run, afterRun) := spanAsciiDigits body
  match run with
  | [] => malformedAt cs.length
  | d :: more =>
    -- a leading zero stands alone
    let (whole, rest) := if d == '0' then ([d], more ++ afterRun) else (run, afterRun)
    let fraction := spanFraction rest
    let rest := (fraction.map (·.2)).getD rest
    let exponent := spanExponent rest
    let rest := (exponent.map (·.2)).getD rest
    if fraction.isNone && exponent.isNone then
      if maxWholeDigits < whole.length then .error .tooManyDigits
      else
        let n : Int := digitsValue whole
        .ok (.int (if negative then -n else n), rest)
    else
      let tail := (fraction.map (·.1)).getD []
      let e := (exponent.map (·.1)).getD 0
      let decimal : Number.Decimal := ⟨negative, digitsValue (whole ++ tail), e - tail.length⟩
      .ok (.float decimal.toFloat, rest)

/-- The value of four hexadecimal digits at the front. -/
def fourHexDigits? : List Char → Option (Nat × List Char)
  | a :: b :: c :: d :: rest => do
    let w ← Text.hexDigit? a
    let x ← Text.hexDigit? b
    let y ← Text.hexDigit? c
    let z ← Text.hexDigit? d
    pure (Text.ofDigits 16 [w, x, y, z], rest)
  | _ => none

/-- Reads the four digits of an escape whose letter has `left` characters from it on;
they may not end the text. -/
def escapedUnit (left : Nat) (cs : List Char) : Except ReadError (Nat × List Char) :=
  if cs.length < 5 then malformedAt left
  else
    match fourHexDigits? cs with
    | some r => .ok r
    | none => malformedAt left

/-- The low half of a surrogate pair, if one is escaped at the front. -/
def lowSurrogate (cs : List Char) : Except ReadError (Option (Nat × List Char)) :=
  match cs with
  | '\\' :: 'u' :: rest =>
    if rest.length < 5 then .ok none
    else
      match fourHexDigits? rest with
      | none => malformedAt (rest.length + 1)
      | some (n, r) => .ok (if 0xDC00 ≤ n ∧ n < 0xE000 then some (n, r) else none)
  | _ => .ok none

/-- The character of a code point; half a surrogate pair stands for no character. -/
def charOfCode (n : Nat) : Char :=
  if n.isValidChar then Char.ofNat n else '\uFFFD'

/-- The character that a one-letter escape stands for. -/
def simpleEscape? : Char → Option Char
  | '"' => some '"'
  | '\\' => some '\\'
  | '/' => some '/'
  | 'b' => some '\x08'
  | 'f' => some '\x0C'
  | 'n' => some '\n'
  | 'r' => some '\r'
  | 't' => some '\t'
  | _ => none

/-- Reads an escape after its backslash, which has `left` characters from it on. -/
def readEscape (left : Nat) : List Char → Except ReadError (Char × List Char)
  | [] => malformedAt left
  | 'u' :: cs => do
    let (n, rest) ← escapedUnit (cs.length + 1) cs
    if 0xD800 ≤ n ∧ n < 0xDC00 then
      match ← lowSurrogate rest with
      | some (low, r) => pure (charOfCode (0x10000 + (n - 0xD800) * 0x400 + (low - 0xDC00)), r)
      | none => pure (charOfCode n, rest)
    else pure (charOfCode n, rest)
  | c :: cs =>
    match simpleEscape? c with
    | some e => .ok (e, cs)
    | none => malformedAt left

/-- Reads the rest of a string whose opening quote has `left` characters from it on. The
first argument bounds the number of characters. -/
def readString (left : Nat) : Nat → List Char → List Char → Except ReadError (String × List Char)
  | 0, _, _ => malformedAt left
  | _ + 1, _, [] => malformedAt left
  | fuel + 1, acc, c :: cs =>
    if c == '"' then .ok (String.ofList acc.reverse, cs)
    else if c == '\\' then
      match cs with
      | [] => malformedAt left
      | _ =>
        match readEscape (cs.length + 1) cs with
        | .error e => .error e
        | .ok (e, rest) => readString left fuel (e :: acc) rest
    else if c.toNat < 0x20 then malformedAt (cs.length + 1)
    else readString left fuel (c :: acc) cs

/-- Reads a string after its opening quote. -/
def readText (cs : List Char) : Except ReadError (String × List Char) :=
  readString (cs.length + 1) (cs.length + 1) [] cs

mutual

/-- Reads a value at the front. The first argument bounds the depth and length. -/
def readValue : Nat → List Char → Except ReadError (Json × List Char)
  | 0, cs => malformedAt cs.length
  | fuel + 1, cs =>
    match cs with
    | '"' :: rest => (readText rest).map fun r => (.str r.1, r.2)
    | '{' :: rest =>
      match skipSpace rest with
      | '}' :: r => .ok (.obj [], r)
      | r => (readFields fuel [] r).map fun r => (.obj (ofAssignments r.1), r.2)
    | '[' :: rest =>
      match skipSpace rest with
      | ']' :: r => .ok (.arr [], r)
      | r => (readItems fuel [] r).map fun r => (.arr r.1, r.2)
    | _ =>
      if let some r := dropWord? "null".toList cs then .ok (.null, r)
      else if let some r := dropWord? "true".toList cs then .ok (.bool true, r)
      else if let some r := dropWord? "false".toList cs then .ok (.bool false, r)
      else if let some r := dropWord? "NaN".toList cs then
        .ok (.float (Float.ofBits 0x7FF8000000000000), r)
      else if let some r := dropWord? "Infinity".toList cs then
        .ok (.float (Number.ofMagnitude false Number.infinityBits), r)
      else if let some r := dropWord? "-Infinity".toList cs then
        .ok (.float (Number.ofMagnitude true Number.infinityBits), r)
      else readNumber cs

/-- Reads the items of a list after its bracket or a comma. -/
def readItems : Nat → List Json → List Char → Except ReadError (List Json × List Char)
  | 0, _, cs => malformedAt cs.length
  | fuel + 1, acc, cs =>
    match readValue fuel cs with
    | .error e => .error e
    | .ok (v, rest) =>
      match skipSpace rest with
      | ']' :: r => .ok ((v :: acc).reverse, r)
      | ',' :: r => readItems fuel (v :: acc) (skipSpace r)
      | r => malformedAt r.length

/-- Reads the fields of an object after its brace or a comma. -/
def readFields :
    Nat → List (String × Json) → List Char → Except ReadError (List (String × Json) × List Char)
  | 0, _, cs => malformedAt cs.length
  | fuel + 1, acc, cs =>
    match cs with
    | '"' :: rest =>
      match readText rest with
      | .error e => .error e
      | .ok (key, rest) =>
        match skipSpace rest with
        | ':' :: r =>
          match readValue fuel (skipSpace r) with
          | .error e => .error e
          | .ok (v, rest) =>
            match skipSpace rest with
            | '}' :: r => .ok (((key, v) :: acc).reverse, r)
            | ',' :: r => readFields fuel ((key, v) :: acc) (skipSpace r)
            | r => malformedAt r.length
        | r => malformedAt r.length
    | _ => malformedAt cs.length

end

/-- Turns a count of characters left into a position from the start. -/
def ReadError.fromStart (total : Nat) : ReadError → ReadError
  | malformed left => malformed (total - left)
  | tooManyDigits => tooManyDigits

/-- The document that a text holds. -/
def read (s : String) : Except ReadError Json :=
  let cs := s.toList
  let total := cs.length
  if cs.head? = some '\uFEFF' then .error (.malformed 0)
  else
    match readValue (2 * total + 2) (skipSpace cs) with
    | .error e => .error (e.fromStart total)
    | .ok (v, rest) =>
      match skipSpace rest with
      | [] => .ok v
      | r => .error (.malformed (total - r.length))

end Json
end TelemetryAlerts
