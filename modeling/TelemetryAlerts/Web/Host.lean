import TelemetryAlerts.Web.Punycode
import TelemetryAlerts.Text.Digit

/-!
# Hosts

The hosts that an address may name: nothing, an address in figures, or a name.
-/

namespace TelemetryAlerts
namespace Web

/-- The characters that are never escaped in an address. -/
def isUnreserved (c : Char) : Bool :=
  c.isAlphanum || c == '-' || c == '.' || c == '_' || c == '~'

/-- A byte as an escape. -/
def percentByte (b : UInt8) : List Char :=
  let digit (n : Nat) := Char.ofNat (if n < 10 then 48 + n else 55 + n)
  ['%', digit (b.toNat / 16), digit (b.toNat % 16)]

/-- A character as escapes of its bytes. -/
def percentChar (c : Char) : List Char :=
  (String.singleton c).toUTF8.toList.flatMap percentByte

/-- A text with every character escaped that is neither unreserved nor safe. -/
def percentEncode (safe : Char → Bool) (cs : List Char) : List Char :=
  cs.flatMap fun c => if isUnreserved c || safe c then [c] else percentChar c

/-- Splits a list at every occurrence of a separator. -/
def splitAt (sep : Char) : List Char → List (List Char)
  | [] => [[]]
  | c :: rest =>
    match splitAt sep rest with
    | [] => [[]]
    | part :: parts => if c = sep then [] :: part :: parts else (c :: part) :: parts

/-- Whether a text consists of `groups + 1` groups of figures with one character between them. -/
def figureGroups : Nat → List Char → Bool
  | groups, cs =>
    let run := cs.takeWhile Char.isDigit
    match groups with
    | 0 => !run.isEmpty && run.length == cs.length
    | k + 1 =>
      (List.range run.length).any fun n =>
        match cs.drop (n + 1) with
        | _ :: rest => figureGroups k rest
        | [] => false

/-- One of the four numbers of an address in figures. -/
def isOctet (cs : List Char) : Bool :=
  !cs.isEmpty && cs.length ≤ 3 && cs.all Char.isDigit &&
    (cs.length == 1 || cs.head? != some '0') &&
    Text.ofDigits 10 (cs.filterMap Text.asciiDigit?) ≤ 255

/-- Four numbers with points between them. -/
def isDotted (cs : List Char) : Bool :=
  let parts := splitAt '.' cs
  parts.length == 4 && parts.all isOctet

/-- One to four hexadecimal digits. -/
def isHextet (cs : List Char) : Bool :=
  !cs.isEmpty && cs.length ≤ 4 && cs.all fun c => (Text.hexDigit? c).isSome

/-- Whether a list of groups between colons is an address: eight groups, or fewer with
one run of them left out. -/
def areHextets (parts : List (List Char)) : Bool :=
  let inner := (parts.drop 1).dropLast
  match (inner.zipIdx.filter fun p => p.1.isEmpty).map (·.2) with
  | [] => parts.length == 8 && parts.all isHextet
  | [i] =>
    let high := parts.take (i + 1)
    let low := parts.drop (i + 2)
    let high := if high == [[]] then [] else high
    let low := if low == [[]] then [] else low
    high.length + low.length < 8 && high.all isHextet && low.all isHextet
  | _ => false

/-- An address of hexadecimal groups, which may end in four decimal numbers and be
followed by the name of a zone. -/
def isColonAddress (cs : List Char) : Bool :=
  let addr := cs.takeWhile (· != '%')
  let zone := cs.drop addr.length
  let zoneOk :=
    match zone with
    | [] => true
    | _ :: name => !name.isEmpty && !name.contains '%'
  let parts := splitAt ':' addr
  let parts :=
    match parts.getLast? with
    | some last =>
      if last.contains '.' then
        if isDotted last then some (parts.dropLast ++ [['0'], ['0']]) else none
      else some parts
    | none => none
  zoneOk && parts.any fun ps => 3 ≤ ps.length && ps.length ≤ 9 && areHextets ps

/-- The letters and marks outside ASCII that a host name may hold. -/
def hostLetterRanges : List (Nat × Nat) :=
  [(0xDF, 0xF6), (0xF8, 0x24F), (0x250, 0x2AF), (0x300, 0x33F), (0x346, 0x34E), (0x350, 0x36F),
  (0x371, 0x377), (0x37B, 0x37D), (0x390, 0x3CE), (0x3D7, 0x3EF), (0x430, 0x481), (0x483, 0x487),
  (0x48B, 0x52F), (0x561, 0x586), (0x5D0, 0x5EA), (0x620, 0x63F), (0x641, 0x65F), (0x66E, 0x674),
  (0x679, 0x6D3), (0x6FA, 0x6FF), (0x900, 0x957), (0x960, 0x963), (0x966, 0x96F), (0x981, 0x9F1),
  (0xA01, 0xA75), (0xA81, 0xAEF), (0xB01, 0xB6F), (0xB82, 0xBEF), (0xC01, 0xC6F), (0xC82, 0xCF2),
  (0xD02, 0xD6F), (0xD82, 0xDF3), (0xE01, 0xE32), (0xE34, 0xE3A), (0xE40, 0xE4E), (0xE50, 0xE59),
  (0x10D0, 0x10FA), (0x1E01, 0x1EFF), (0x1F00, 0x1FFC), (0x3005, 0x3007), (0x3041, 0x3096),
  (0x3099, 0x309A), (0x309D, 0x309E), (0x30A1, 0x30FA), (0x30FC, 0x30FE), (0x3105, 0x312F),
  (0x3400, 0x4DBF), (0x4E00, 0x9FFF), (0xAC00, 0xD7A3), (0x20000, 0x323AF)]

/-- Whether a character is a combining mark, which may not begin a label. -/
def isHostMark (c : Char) : Bool :=
  let n := c.toNat
  (0x300 ≤ n && n ≤ 0x36F) || (0x483 ≤ n && n ≤ 0x487) || (0x64B ≤ n && n ≤ 0x65F) ||
    (0x3099 ≤ n && n ≤ 0x309A) || (0x900 ≤ n && n ≤ 0x903)

/-- The lower-case form of a letter of the Latin, Greek and Cyrillic scripts. -/
def hostLower (c : Char) : Char :=
  let n := c.toNat
  if (0xC0 ≤ n && n ≤ 0xDE && n != 0xD7) || (0x391 ≤ n && n ≤ 0x3A9) ||
      (0x410 ≤ n && n ≤ 0x42F) then Char.ofNat (n + 32)
  else if 0x400 ≤ n && n ≤ 0x40F then Char.ofNat (n + 80)
  else if ((0x100 ≤ n && n ≤ 0x137) || (0x14A ≤ n && n ≤ 0x177) || (0x460 ≤ n && n ≤ 0x481) ||
      (0x48A ≤ n && n ≤ 0x4BF) || (0x4D0 ≤ n && n ≤ 0x52F) || (0x1E00 ≤ n && n ≤ 0x1E95) ||
      (0x1EA0 ≤ n && n ≤ 0x1EFF)) && n % 2 == 0 && n != 0x130 then Char.ofNat (n + 1)
  else if ((0x139 ≤ n && n ≤ 0x148) || (0x179 ≤ n && n ≤ 0x17E)) && n % 2 == 1 then
    Char.ofNat (n + 1)
  else c.toLower

/-- Whether a character may stand in a label of a host name outside ASCII. -/
def isHostChar (c : Char) : Bool :=
  c.isLower || c.isDigit || c == '-' ||
    hostLetterRanges.any fun r => r.1 ≤ c.toNat && c.toNat ≤ r.2

/-- A label in ASCII, if it is a valid one. -/
def hostLabel? (label : List Char) : Option (List Char) :=
  let ascii := label.all fun c => c.toNat < 128
  let hyphens := label.head? == some '-' || label.getLast? == some '-' ||
    (label.drop 2).take 2 == ['-', '-']
  let out := if ascii then label else "xn--".toList ++ asciiLabel label
  if label.isEmpty || hyphens || label.head?.any isHostMark || !label.all isHostChar ||
      63 < out.length then none
  else some out

/-- The full stops that separate labels. -/
def isLabelDot (c : Char) : Bool :=
  c == '.' || c == '\u3002' || c == '\uFF0E' || c == '\uFF61'

/-- A host name with characters outside ASCII in ASCII. -/
def foreignHost? (cs : List Char) : Option (List Char) :=
  let labels := splitAt '.' (cs.map fun c => if isLabelDot c then '.' else hostLower c)
  let trailing := 1 < labels.length && labels.getLast?.any List.isEmpty
  let labels := if trailing then labels.dropLast else labels
  (labels.mapM hostLabel?).map fun ls =>
    ".".toList.intercalate ls ++ (if trailing then ['.'] else [])

/-- The characters besides the unreserved ones that stand unescaped in a host name. -/
def isHostSafe (c : Char) : Bool :=
  "!$&'()*+,;=\"`\x7b\x7d%|\\".toList.contains c

/-- A host in its normal form; `none` if it names none. -/
def host? (cs : List Char) : Option (List Char) :=
  if cs.isEmpty then some []
  else if figureGroups 3 cs then (if isDotted cs then some cs else none)
  else if cs.head? == some '[' && cs.getLast? == some ']' && 2 ≤ cs.length then
    let inner := (cs.drop 1).dropLast
    if isColonAddress inner then some inner else none
  else if cs.all fun c => c.toNat < 128 then some (percentEncode isHostSafe (cs.map Char.toLower))
  else foreignHost? cs

end Web
end TelemetryAlerts
