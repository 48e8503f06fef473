/-!
# Letter case

Case folding for texts that are compared with words of ASCII letters: channel
names, address schemes, level names. Of all characters outside ASCII, only those
listed here have a form in the other case that holds an ASCII letter; every other
one stays as it is, since no comparison with an ASCII word can tell.
-/

namespace TelemetryAlerts
namespace Text

/-- The lower-case form of a character, as a list. -/
def lowerChar (c : Char) : List Char :=
  match c with
  | '\u212A' => ['k']
  | '\u0130' => ['i', '\u0307']
  | _ => [c.toLower]

/-- The upper-case form of a character, as a list. -/
def upperChar (c : Char) : List Char :=
  match c with
  | '\u00DF' => ['S', 'S']
  | '\u0131' => ['I']
  | '\u0149' => ['\u02BC', 'N']
  | '\u017F' => ['S']
  | '\u01F0' => ['J', '\u030C']
  | '\u1E96' => ['H', '\u0331']
  | '\u1E97' => ['T', '\u0308']
  | '\u1E98' => ['W', '\u030A']
  | '\u1E99' => ['Y', '\u030A']
  | '\u1E9A' => ['A', '\u02BE']
  | '\uFB00' => ['F', 'F']
  | '\uFB01' => ['F', 'I']
  | '\uFB02' => ['F', 'L']
  | '\uFB03' => ['F', 'F', 'I']
  | '\uFB04' => ['F', 'F', 'L']
  | '\uFB05' => ['S', 'T']
  | '\uFB06' => ['S', 'T']
  | _ => [c.toUpper]

/-- A text in lower case. -/
def lower (s : String) : String :=
  String.ofList (s.toList.flatMap lowerChar)

/-- A text in upper case. -/
def upper (s : String) : String :=
  String.ofList (s.toList.flatMap upperChar)

/-- Whether a text begins with the characters of another. -/
def startsWith (s start : String) : Bool :=
  start.toList.isPrefixOf s.toList

end Text
end TelemetryAlerts
