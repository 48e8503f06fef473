import TelemetryAlerts.Text.Printable

/-!
# Quoted texts

A text as it is shown inside another value: in single quotes, or in double quotes
if it holds a single quote and no double one, with escapes for the backslash, the
enclosing quote, line feed, carriage return, tab and every unprintable character.
-/

namespace TelemetryAlerts
namespace Text

/-- The digit character of a value below sixteen, in lower case. -/
def hexChar (n : Nat) : Char :=
  Char.ofNat (if n < 10 then 48 + n else 87 + n)

/-- A number in hexadecimal with exactly `width` digits. -/
def hexPadded (width n : Nat) : List Char :=
  match width with
  | 0 => []
  | k + 1 => hexPadded k (n / 16) ++ [hexChar (n % 16)]

/-- One character inside quotes. -/
def quotedChar (quote c : Char) : List Char :=
  if c == quote || c == '\\' then ['\\', c]
  else if c == '\n' then ['\\', 'n']
  else if c == '\r' then ['\\', 'r']
  else if c == '\t' then ['\\', 't']
  else if isPrintable c then [c]
  else if c.toNat < 0x100 then '\\' :: 'x' :: hexPadded 2 c.toNat
  else if c.toNat < 0x10000 then '\\' :: 'u' :: hexPadded 4 c.toNat
  else '\\' :: 'U' :: hexPadded 8 c.toNat

/-- A text in quotes. -/
def quoted (s : String) : String :=
  let cs := s.toList
  let quote := if cs.contains '\'' && !cs.contains '"' then '"' else '\''
  String.ofList (quote :: cs.flatMap (quotedChar quote) ++ [quote])

end Text
end TelemetryAlerts
