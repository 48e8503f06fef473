import TelemetryAlerts.Yaml.Cursor
import TelemetryAlerts.Json.Reader
import TelemetryAlerts.Json.Bytes

/-!
# Texts in markup

Reading quoted texts, blocks of text and plain texts. Line breaks inside are folded: a
single one becomes a space, of several the first is dropped.
-/

namespace TelemetryAlerts
namespace Yaml

/-- The lines between two parts of a folded text. -/
def folded (lineBreak breaks : List Char) : List Char :=
  if lineBreak != ['\n'] then lineBreak ++ breaks
  else if breaks.isEmpty then [' ']
  else breaks

/-- The characters for which one letter stands after a backslash. -/
def simpleEscape? (c : Char) : Option Char :=
  match c with
  | '0' => some '\x00'
  | 'a' => some '\x07'
  | 'b' => some '\x08'
  | 't' => some '\t'
  | '\t' => some '\t'
  | 'n' => some '\n'
  | 'v' => some '\x0B'
  | 'f' => some '\x0C'
  | 'r' => some '\r'
  | 'e' => some '\x1B'
  | ' ' => some ' '
  | '"' => some '"'
  | '\\' => some '\\'
  | '/' => some '/'
  | 'N' => some '\u0085'
  | '_' => some '\u00A0'
  | 'L' => some '\u2028'
  | 'P' => some '\u2029'
  | _ => none

/-- The number of figures of an escape by code. -/
def codeLength? (c : Char) : Option Nat :=
  match c with
  | 'x' => some 2
  | 'u' => some 4
  | 'U' => some 8
  | _ => none

/-- The character with the code that the next figures give. -/
def escapedCode (length : Nat) (c : Cursor) : Outcome (Char × Cursor) :=
  match (c.rest.take length).mapM Text.hexDigit? with
  | some ds =>
    if ds.length = length then
      let n := Text.ofDigits 16 ds
      if n ≤ 0x10FFFF then .ok (Json.charOfCode n, c.skip length)
      else .error (.kind .unusableValue)
    else noToken
  | none => noToken

/-- Line breaks inside a quoted text, with the blanks around them. -/
def quotedBreaks : Nat → Cursor → Outcome (List Char × Cursor)
  | 0, _ => noToken
  | fuel + 1, c =>
    if c.isDocumentMark then noToken
    else
      let c := c.skipWhile fun ch => ch == ' ' || ch == '\t'
      if isBreak c.peek then do
        let (b, c) := c.lineBreak
        let (bs, c) ← quotedBreaks fuel c
        pure (b ++ bs, c)
      else pure ([], c)

/-- An escape after its backslash. -/
def escape (fuel : Nat) (c : Cursor) : Outcome (List Char × Cursor) :=
  let ch := c.peek
  match simpleEscape? ch, codeLength? ch with
  | some x, _ => .ok ([x], c.step)
  | none, some length => do
    let (x, c) ← escapedCode length c.step
    pure ([x], c)
  | none, none =>
    if isBreak ch then quotedBreaks fuel c.lineBreak.2 else noToken

/-- Blanks inside a quoted text. -/
def quotedBlanks (fuel : Nat) (c : Cursor) : Outcome (List Char × Cursor) :=
  let (blanks, c) := c.span fun ch => ch == ' ' || ch == '\t'
  if c.rest.isEmpty then noToken
  else if isBreak c.peek then do
    let (b, c) := c.lineBreak
    let (bs, c) ← quotedBreaks fuel c
    pure (folded b bs, c)
  else pure (blanks, c)

/-- A quoted text after its first quote. -/
def quotedRest (double : Bool) : Nat → Cursor → Outcome (List Char × Cursor)
  | 0, _ => noToken
  | fuel + 1, c =>
    let add (cs : List Char) (c : Cursor) : Outcome (List Char × Cursor) := do
      let (more, c) ← quotedRest double fuel c
      pure (cs ++ more, c)
    match c.rest with
    | [] => noToken
    | '\'' :: '\'' :: _ =>
      if double then add ['\'', '\''] (c.skip 2) else add ['\''] (c.skip 2)
    | '\'' :: _ => if double then add ['\''] c.step else pure ([], c.step)
    | '"' :: _ => if double then pure ([], c.step) else add ['"'] c.step
    | '\\' :: _ =>
      if double then do
        let (cs, c) ← escape fuel c.step
        add cs c
      else add ['\\'] c.step
    | ch :: _ =>
      if ch == ' ' || ch == '\t' || isBreak ch then do
        let (cs, c) ← quotedBlanks fuel c
        add cs c
      else add [ch] c.step

/-- A quoted text, beginning with its first quote. -/
def quotedText (c : Cursor) : Outcome (String × Cursor) := do
  let (cs, after) ← quotedRest (c.peek == '"') (2 * c.rest.length + 2) c.step
  pure (String.ofList cs, after)

/-- What becomes of the line breaks at the end of a block of text. -/
inductive Chomping where
  | strip
  | clip
  | keep
deriving Repr, DecidableEq

/-- The sign of a way of chomping. -/
def chompingSign? (c : Char) : Option Chomping :=
  match c with
  | '+' => some .keep
  | '-' => some .strip
  | _ => none

/-- The figure that gives the indentation of a block; zero is refused. -/
def indentFigure? (c : Char) : Outcome (Option Nat) :=
  match Text.asciiDigit? c with
  | some 0 => noToken
  | some d => .ok (some d)
  | none => .ok none

/-- The signs after the mark of a block, in either order. -/
def blockSigns (c : Cursor) : Outcome ((Chomping × Option Nat) × Cursor) := do
  let finish (chomping : Chomping) (figure? : Option Nat) (c : Cursor) :
      Outcome ((Chomping × Option Nat) × Cursor) :=
    if isSpaceOrEnd c.peek then .ok ((chomping, figure?), c) else noToken
  match chompingSign? c.peek with
  | some chomping =>
    let c := c.step
    let figure? ← indentFigure? c.peek
    finish chomping figure? (if figure?.isSome then c.step else c)
  | none =>
    match ← indentFigure? c.peek with
    | some d =>
      let c := c.step
      match chompingSign? c.peek with
      | some chomping => finish chomping (some d) c.step
      | none => finish .clip (some d) c
    | none => finish .clip none c

/-- The rest of a line that holds nothing but a comment. -/
def ignoredLine (c : Cursor) : Outcome Cursor :=
  let c := (c.skipWhile (· == ' ')).skipComment
  if isBreakOrEnd c.peek then .ok c.lineBreak.2 else noToken

/-- Empty lines in front of a block, and the widest indentation among them. -/
def leadingBreaks : Nat → Nat → Cursor → List Char × Nat × Cursor
  | 0, widest, c => ([], widest, c)
  | fuel + 1, widest, c =>
    if c.peek == ' ' then
      let c := c.step
      leadingBreaks fuel (max widest c.column) c
    else if isBreak c.peek then
      let (b, c) := c.lineBreak
      let (bs, widest, c) := leadingBreaks fuel widest c
      (b ++ bs, widest, c)
    else ([], widest, c)

/-- Passes spaces up to a column. -/
def skipIndent (indent : Nat) : Nat → Cursor → Cursor
  | 0, c => c
  | fuel + 1, c =>
    if c.column < indent && c.peek == ' ' then skipIndent indent fuel c.step else c

/-- Empty lines inside a block. -/
def blockBreaks (indent : Nat) : Nat → Cursor → List Char × Cursor
  | 0, c => ([], c)
  | fuel + 1, c =>
    let c := skipIndent indent c.rest.length c
    if isBreak c.peek then
      let (b, c) := c.lineBreak
      let (bs, c) := blockBreaks indent fuel c
      (b ++ bs, c)
    else ([], c)

/-- The lines of a block from the one that begins here. `breaks` are the empty lines
before it. The result has the last line break and the empty lines at the end apart. -/
def blockLines (fold : Bool) (indent : Nat) :
    Nat → List Char → Cursor → (List Char × List Char × List Char) × Cursor
  | 0, breaks, c => (([], [], breaks), c)
  | fuel + 1, breaks, c =>
    if c.column == indent && !c.rest.isEmpty then
      let isText := c.peek != ' ' && c.peek != '\t'
      let (line, c) := c.span fun ch => !isBreakOrEnd ch
      let (b, c) := c.lineBreak
      let (next, c) := blockBreaks indent c.rest.length.succ c
      if c.column == indent && !c.rest.isEmpty then
        let between :=
          if fold && b == ['\n'] && isText && c.peek != ' ' && c.peek != '\t' then
            if next.isEmpty then [' '] else []
          else b
        let ((more, last, tail), c) := blockLines fold indent fuel next c
        ((breaks ++ line ++ between ++ more, last, tail), c)
      else ((breaks ++ line, b, next), c)
    else (([], [], breaks), c)

/-- A block of text, beginning with its mark. `outer` is the indentation around it. -/
def blockText (outer : Int) (c : Cursor) : Outcome (String × Cursor) := do
  let fold := c.peek == '>'
  let ((chomping, figure?), c) ← blockSigns c.step
  let c ← ignoredLine c
  let least := (max 1 (outer + 1)).toNat
  let fuel := c.rest.length + 1
  let (indent, breaks, c) :=
    match figure? with
    | some d =>
      let indent := least + d - 1
      let (bs, c) := blockBreaks indent fuel c
      (indent, bs, c)
    | none =>
      let (bs, widest, c) := leadingBreaks fuel 0 c
      (max least widest, bs, c)
  let ((body, last, tail), c) := blockLines fold indent fuel breaks c
  let ending :=
    match chomping with
    | .strip => []
    | .clip => last
    | .keep => last ++ tail
  pure (String.ofList (body ++ ending), c)

/-- Whether a plain text ends here. -/
def endsPlain (inFlow : Bool) (c : Cursor) : Bool :=
  let ch := c.peek
  let next := c.peekAt 1
  isBlankOrEnd ch ||
    (ch == ':' && (isBlankOrEnd next || (inFlow && ",[]\x7b\x7d".toList.contains next))) ||
    (inFlow && ",?[]\x7b\x7d".toList.contains ch)

/-- The longest piece of plain text without blanks. -/
def plainPiece (inFlow : Bool) : Nat → Cursor → List Char × Cursor
  | 0, c => ([], c)
  | fuel + 1, c =>
    if c.rest.isEmpty || endsPlain inFlow c then ([], c)
    else
      let (cs, after) := plainPiece inFlow fuel c.step
      (c.peek :: cs, after)

/-- Line breaks inside a plain text; `none` in front of a mark between documents. -/
def plainBreaks : Nat → Cursor → Option (List Char) × Cursor
  | 0, c => (some [], c)
  | fuel + 1, c =>
    if c.peek == ' ' then plainBreaks fuel c.step
    else if isBreak c.peek then
      let (b, c) := c.lineBreak
      if c.isDocumentMark then (none, c)
      else
        let (bs?, c) := plainBreaks fuel c
        (bs?.map (b ++ ·), c)
    else (some [], c)

/-- The blanks after a piece of plain text, the place after them, and whether they go over
the end of a line. -/
def plainBlanks (c : Cursor) : List Char × Cursor × Bool :=
  let (spaces, c) := c.span (· == ' ')
  if isBreak c.peek then
    let (b, c) := c.lineBreak
    if c.isDocumentMark then ([], c, true)
    else
      match plainBreaks (c.rest.length + 1) c with
      | (some bs, c) => (folded b bs, c, true)
      | (none, c) => ([], c, true)
  else (spaces, c, false)

/-- A plain text from here on; `between` are the blanks before it. The result tells
whether the blanks after the text go over the end of a line. -/
def plainPieces (inFlow : Bool) (indent : Int) :
    Nat → List Char → Bool → Cursor → List Char × Cursor × Bool
  | 0, _, overLine, c => ([], c, overLine)
  | fuel + 1, between, overLine, c =>
    if c.peek == '#' then ([], c, overLine)
    else
      let (piece, after) := plainPiece inFlow c.rest.length c
      if piece.isEmpty then ([], c, overLine)
      else
        let (blanks, after, overLine) := plainBlanks after
        if blanks.isEmpty || after.peek == '#' || (!inFlow && (after.column : Int) < indent) then
          (between ++ piece, after, overLine)
        else
          let (more, after, overLine) := plainPieces inFlow indent fuel blanks overLine after
          (between ++ piece ++ more, after, overLine)

/-- A plain text, the place after it, and whether that place is on a new line. -/
def plainText (inFlow : Bool) (outer : Int) (c : Cursor) : String × Cursor × Bool :=
  let (cs, after, overLine) := plainPieces inFlow (outer + 1) (c.rest.length + 1) [] false c
  (String.ofList cs, after, overLine)

end Yaml
end TelemetryAlerts
