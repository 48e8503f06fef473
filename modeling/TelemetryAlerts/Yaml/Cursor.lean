import TelemetryAlerts.Failure
import TelemetryAlerts.Text.Digit

/-!
# A place in a markup text

A cursor is the unread rest of a text with the line and column of its first character.
The end of a text reads like a zero character.
-/

namespace TelemetryAlerts
namespace Yaml

/-- A place in a text. -/
structure Cursor where
  rest : List Char
  index : Nat := 0
  line : Nat := 0
  column : Nat := 0

/-- The character that stands for the end of a text. -/
def endMark : Char := '\x00'

/-- The characters that end a line. -/
def isBreak (c : Char) : Bool :=
  c == '\n' || c == '\r' || c == '\u0085' || c == '\u2028' || c == '\u2029'

/-- The end of a line or of the text. -/
def isBreakOrEnd (c : Char) : Bool :=
  c == endMark || isBreak c

/-- A space, or the end of a line or of the text. -/
def isSpaceOrEnd (c : Char) : Bool :=
  c == ' ' || isBreakOrEnd c

/-- A space or a tab, or the end of a line or of the text. -/
def isBlankOrEnd (c : Char) : Bool :=
  c == '\t' || isSpaceOrEnd c

/-- The characters of names. -/
def isNameChar (c : Char) : Bool :=
  c.isAlphanum || c == '-' || c == '_'

/-- The failure of a text that cannot be split into tokens. -/
def noToken {α : Type} : Outcome α :=
  .error (.markup .tokens)

namespace Cursor

/-- The next character. -/
def peek (c : Cursor) : Char :=
  c.rest.headD endMark

/-- The character some places further on. -/
def peekAt (c : Cursor) (n : Nat) : Char :=
  (c.rest.drop n).headD endMark

/-- Passes one character. -/
def step (c : Cursor) : Cursor :=
  match c.rest with
  | [] => c
  | ch :: rest =>
    if isBreak ch && !(ch == '\r' && rest.head? == some '\n') then
      ⟨rest, c.index + 1, c.line + 1, 0⟩
    else if ch == '\uFEFF' then ⟨rest, c.index + 1, c.line, c.column⟩
    else ⟨rest, c.index + 1, c.line, c.column + 1⟩

/-- Passes a number of characters. -/
def skip : Nat → Cursor → Cursor
  | 0, c => c
  | n + 1, c => skip n c.step

/-- Passes characters as long as they have a property. -/
def skipWhile (p : Char → Bool) (c : Cursor) : Cursor :=
  c.skip (c.rest.takeWhile p).length

/-- The longest run of characters with a property, and the place after it. -/
def span (p : Char → Bool) (c : Cursor) : List Char × Cursor :=
  let run := c.rest.takeWhile p
  (run, c.skip run.length)

/-- Passes one line break, if there is one, and gives it in normal form. -/
def lineBreak (c : Cursor) : List Char × Cursor :=
  match c.rest with
  | '\r' :: '\n' :: _ => (['\n'], c.skip 2)
  | ch :: _ =>
    if ch == '\u2028' || ch == '\u2029' then ([ch], c.step)
    else if isBreak ch then (['\n'], c.step)
    else ([], c)
  | [] => ([], c)

/-- Passes a comment. -/
def skipComment (c : Cursor) : Cursor :=
  if c.peek == '#' then c.skipWhile fun ch => !isBreakOrEnd ch else c

/-- Whether three characters in a row stand here, and nothing but blanks or the end
follows. -/
def isMarkerOf (ch : Char) (c : Cursor) : Bool :=
  c.rest.take 3 == [ch, ch, ch] && isBlankOrEnd (c.peekAt 3)

/-- Whether a mark between documents stands here. -/
def isDocumentMark (c : Cursor) : Bool :=
  c.isMarkerOf '-' || c.isMarkerOf '.'

/-- Passes spaces and line breaks; the breaks are kept. -/
def breaksAndSpaces (p : Char → Bool) : Nat → Cursor → List Char × Cursor
  | 0, c => ([], c)
  | fuel + 1, c =>
    let c := c.skipWhile p
    if isBreak c.peek then
      let (b, c) := c.lineBreak
      let (bs, c) := breaksAndSpaces p fuel c
      (b ++ bs, c)
    else ([], c)

end Cursor
end Yaml
end TelemetryAlerts
