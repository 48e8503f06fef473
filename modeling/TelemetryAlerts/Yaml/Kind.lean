import TelemetryAlerts.Text.Digit

/-!
# Kinds of markup values

Each value has a kind, given by a tag or, for a plain text, told from how it looks.
-/

namespace TelemetryAlerts
namespace Yaml

/-- The kinds of values. -/
inductive Kind where
  | null
  | bool
  | int
  | float
  | moment
  | text
  | list
  | map
  | merge
  | value
  | binary
  | orderedMap
  | pairs
  | set
  | unknown
deriving Repr, DecidableEq

namespace Kind

/-- What the tags of the common kinds begin with. -/
def commonTag : String := "tag:yaml.org,2002:"

/-- The kind that a tag names. -/
def ofTag (tag : String) : Kind :=
  let name (s : String) : Bool := tag == commonTag ++ s
  if name "null" then null
  else if name "bool" then bool
  else if name "int" then int
  else if name "float" then float
  else if name "timestamp" then moment
  else if name "str" then text
  else if name "seq" then list
  else if name "map" then map
  else if name "binary" then binary
  else if name "omap" then orderedMap
  else if name "pairs" then pairs
  else if name "set" then set
  else if name "merge" then merge
  else if name "value" then value
  else unknown

/-- Texts that stand for no value. -/
def nullWords : List String := ["", "~", "null", "Null", "NULL"]

/-- Texts that stand for true. -/
def trueWords : List String :=
  ["yes", "Yes", "YES", "true", "True", "TRUE", "on", "On", "ON"]

/-- Texts that stand for false. -/
def falseWords : List String :=
  ["no", "No", "NO", "false", "False", "FALSE", "off", "Off", "OFF"]

/-- Drops a sign. -/
def unsigned (cs : List Char) : List Char :=
  match cs with
  | '+' :: rest => rest
  | '-' :: rest => rest
  | _ => cs

/-- Whether all characters are ones of a class, and there is one. -/
def allOf (p : Char → Bool) (cs : List Char) : Bool :=
  !cs.isEmpty && cs.all p

/-- Digits and underscores. -/
def isDigitOrLine (c : Char) : Bool :=
  c.isDigit || c == '_'

/-- A digit, then digits and underscores. -/
def isDigits (cs : List Char) : Bool :=
  cs.head?.any Char.isDigit && cs.all isDigitOrLine

/-- A number below sixty, as it stands after a colon. -/
def isSixtieth (cs : List Char) : Bool :=
  match cs with
  | [d] => d.isDigit
  | [t, d] => t.isDigit && t.toNat < '6'.toNat && d.isDigit
  | _ => false

/-- The pieces between separators. -/
def pieces (sep : Char) : List Char → List (List Char)
  | [] => [[]]
  | c :: rest =>
    if c == sep then [] :: pieces sep rest
    else
      match pieces sep rest with
      | [] => [[c]]
      | p :: ps => (c :: p) :: ps

/-- Whether a text is a whole number: to base two, eight, ten or sixteen, or in sixtieths. -/
def isInt (cs : List Char) : Bool :=
  match unsigned cs with
  | '0' :: 'b' :: ds => allOf (fun c => c == '0' || c == '1' || c == '_') ds
  | '0' :: 'x' :: ds => allOf (fun c => (Text.hexDigit? c).isSome || c == '_') ds
  | '0' :: ds => ds.all fun c => ('0'.toNat ≤ c.toNat && c.toNat ≤ '7'.toNat) || c == '_'
  | ds =>
    isDigits ds ||
      match pieces ':' ds with
      | first :: p :: ps => isDigits first && (p :: ps).all isSixtieth
      | _ => false

/-- Whether what follows the digits of a fraction is an exponent with a sign, or nothing. -/
def isExponentOrNothing (cs : List Char) : Bool :=
  match cs with
  | [] => true
  | e :: sign :: ds => (e == 'e' || e == 'E') && (sign == '+' || sign == '-') && allOf Char.isDigit ds
  | _ => false

/-- Digits after a point, and an exponent or nothing. -/
def isFraction (cs : List Char) : Bool :=
  isExponentOrNothing (cs.dropWhile isDigitOrLine)

/-- Whether a text is a number with a point, possibly in sixtieths, or a name of infinity
or of the undefined number. -/
def isFloat (cs : List Char) : Bool :=
  let body := unsigned cs
  let whole := body.takeWhile (· != '.')
  let tail := (body.dropWhile (· != '.')).drop 1
  if !body.contains '.' then false
  else if whole.isEmpty then
    ["inf", "Inf", "INF"].contains (String.ofList tail) ||
      (body == cs &&
        (["nan", "NaN", "NAN"].contains (String.ofList tail) ||
          (tail.head?.any Char.isDigit && isFraction tail)))
  else
    (isDigits whole && isFraction tail) ||
      match pieces ':' whole with
      | first :: p :: ps =>
        isDigits first && (p :: ps).all isSixtieth && tail.all isDigitOrLine
      | _ => false

/-- A run of digits whose length lies in a range, and the rest. -/
def spanFigures? (least most : Nat) (cs : List Char) : Option (List Char × List Char) :=
  let ds := (cs.takeWhile Char.isDigit).take most
  if least ≤ ds.length then some (ds, cs.drop ds.length) else none

/-- The rest after a character. -/
def after? (c : Char) : List Char → Option (List Char)
  | d :: rest => if c == d then some rest else none
  | [] => none

/-- The figures of a time stamp. -/
structure Stamp where
  year : List Char
  month : List Char
  day : List Char
  /-- Hour, minute, second and fraction. -/
  time? : Option (List Char × List Char × List Char × List Char)
  /-- The distance from universal time: none, universal time itself, or a sign with hours
  and minutes. -/
  zone? : Option (Option (Char × List Char × List Char))

/-- The end of a time stamp: the distance from universal time. -/
def zoneOf? (cs : List Char) : Option (Option (Option (Char × List Char × List Char))) :=
  match cs with
  | [] => some none
  | _ =>
    match cs.dropWhile fun c => c == ' ' || c == '\t' with
    | ['Z'] => some (some none)
    | sign :: rest =>
      if sign == '+' || sign == '-' then do
        let (hours, rest) ← spanFigures? 1 2 rest
        match rest with
        | [] => some (some (some (sign, hours, [])))
        | ':' :: rest => do
          let (minutes, rest) ← spanFigures? 2 2 rest
          if rest.isEmpty then some (some (some (sign, hours, minutes))) else none
        | _ => none
      else none
    | [] => none

/-- The figures of a text that looks like a date, with or without a time of day. -/
def stamp? (cs : List Char) : Option Stamp := do
  let (year, rest) ← spanFigures? 4 4 cs
  let rest ← after? '-' rest
  let (month, rest) ← spanFigures? 1 2 rest
  let rest ← after? '-' rest
  let (day, rest) ← spanFigures? 1 2 rest
  match rest with
  | [] => if month.length = 2 ∧ day.length = 2 then some ⟨year, month, day, none, none⟩ else none
  | c :: more => do
    let rest ←
      if c == 'T' || c == 't' then some more
      else if c == ' ' || c == '\t' then some (more.dropWhile fun c => c == ' ' || c == '\t')
      else none
    let (hour, rest) ← spanFigures? 1 2 rest
    let rest ← after? ':' rest
    let (minute, rest) ← spanFigures? 2 2 rest
    let rest ← after? ':' rest
    let (second, rest) ← spanFigures? 2 2 rest
    let (fraction, rest) :=
      match rest with
      | '.' :: rest => (rest.takeWhile Char.isDigit, rest.dropWhile Char.isDigit)
      | _ => ([], rest)
    let zone? ← zoneOf? rest
    some ⟨year, month, day, some (hour, minute, second, fraction), zone?⟩

/-- The kind of a plain text. -/
def ofPlain (text : String) : Kind :=
  let cs := text.toList
  if nullWords.contains text then null
  else if trueWords.contains text || falseWords.contains text then bool
  else if isFloat cs then float
  else if isInt cs then int
  else if text == "<<" then merge
  else if (stamp? cs).isSome then moment
  else if text == "=" then value
  else if text == "!" || text == "&" || text == "*" then unknown
  else .text

end Kind
end Yaml
end TelemetryAlerts
