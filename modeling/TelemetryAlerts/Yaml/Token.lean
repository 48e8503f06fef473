import TelemetryAlerts.Yaml.Scalar

/-!
# Tokens of a markup text

A markup text as a list of tokens. Indentation becomes tokens of its own. A key without a
mark in front is recognised only by the colon after it, so the place where a key may have
begun is remembered, and tokens are held back as long as one of them may be such a place.
-/

namespace TelemetryAlerts
namespace Yaml

/-- An instruction to the reader of a text. -/
inductive Directive where
  | version (major minor : Nat)
  | tag (handle lead : String)
  | other (name : String)
deriving Repr, DecidableEq

/-- The tokens of a text. -/
inductive Token where
  | directive (d : Directive)
  | documentStart
  | documentEnd
  | streamEnd
  | blockListStart
  | blockMapStart
  | blockEnd
  | flowListStart
  | flowListEnd
  | flowMapStart
  | flowMapEnd
  | blockEntry
  | flowEntry
  | key
  | value
  | alias (name : String)
  | anchor (name : String)
  | tag (handle? : Option String) (rest : String)
  | scalar (text : String) (plain : Bool)
deriving Repr, DecidableEq

/-- A place where a key may have begun. -/
structure KeyPlace where
  /-- The number of the token at the place. -/
  number : Nat
  /-- Whether the place can be nothing else. -/
  required : Bool
  index : Nat
  line : Nat
  column : Nat

/-- The state of splitting a text into tokens. -/
structure Scanner where
  here : Cursor
  /-- How many brackets are open. -/
  flow : Int := 0
  /-- The tokens held back. -/
  held : List Token := []
  /-- The number of tokens given away. -/
  given : Nat := 0
  indent : Int := -1
  outerIndents : List Int := []
  keyAllowed : Bool := true
  /-- Places where a key may have begun, by the number of brackets open there. -/
  keys : List (Int × KeyPlace) := []
  isDone : Bool := false

namespace Scanner

/-- Whether a bracket is open. -/
def inFlow (s : Scanner) : Bool :=
  s.flow != 0

/-- Holds one token more. -/
def hold (t : Token) (s : Scanner) : Scanner :=
  { s with held := s.held ++ [t] }

/-- Puts a token in front of the one with a number. -/
def holdBefore (number : Nat) (t : Token) (s : Scanner) : Scanner :=
  let k := number - s.given
  { s with held := s.held.take k ++ t :: s.held.drop k }

/-- Moves on to a place. -/
def goTo (c : Cursor) (s : Scanner) : Scanner :=
  { s with here := c }

/-- Allows or forbids that a key begins at the next token. -/
def withKeys (allowed : Bool) (s : Scanner) : Scanner :=
  { s with keyAllowed := allowed }

/-- The longest distance from the beginning of a key to its colon. -/
def maxKeyLength : Nat := 1024

/-- Whether a place can no longer be that of a key. -/
def isStale (s : Scanner) (k : KeyPlace) : Bool :=
  k.line != s.here.line || maxKeyLength < s.here.index - k.index

/-- Forgets the places that can no longer be those of keys. -/
def dropStale (s : Scanner) : Outcome Scanner :=
  if s.keys.any fun p => p.2.required && s.isStale p.2 then noToken
  else .ok { s with keys := s.keys.filter fun p => !s.isStale p.2 }

/-- Forgets the place of a key at the present depth. -/
def dropKey (s : Scanner) : Outcome Scanner :=
  if (s.keys.lookup s.flow).any (·.required) then noToken
  else .ok { s with keys := s.keys.filter fun p => p.1 != s.flow }

/-- Remembers that a key may begin here. -/
def saveKey (s : Scanner) : Outcome Scanner :=
  if s.keyAllowed then do
    let c := s.here
    let required := !s.inFlow && s.indent == (c.column : Int)
    let s ← s.dropKey
    pure { s with
      keys := s.keys ++ [(s.flow, ⟨s.given + s.held.length, required, c.index, c.line, c.column⟩)] }
  else .ok s

/-- Ends the blocks that are indented deeper than a column. -/
def unwindTo (column : Int) : List Int → Scanner → Scanner
  | [], s => s
  | outer :: rest, s =>
    if column < s.indent then
      unwindTo column rest { s.hold .blockEnd with indent := outer, outerIndents := rest }
    else s

/-- Ends the blocks that are indented deeper than a column; brackets hide indentation. -/
def unwind (column : Int) (s : Scanner) : Scanner :=
  if s.inFlow then s else unwindTo column s.outerIndents s

/-- Begins a deeper block at a column, unless the block there is that deep already. -/
def deepen (column : Nat) (s : Scanner) : Option Scanner :=
  if s.indent < (column : Int) then
    some { s with outerIndents := s.indent :: s.outerIndents, indent := column }
  else none

/-- Begins a deeper block here with a token. -/
def deepenWith (t : Token) (s : Scanner) : Scanner :=
  match s.deepen s.here.column with
  | some s => s.hold t
  | none => s

/-- Passes spaces, comments and line breaks. -/
def skipBlanks : Nat → Scanner → Scanner
  | 0, s => s
  | fuel + 1, s =>
    let c := (s.here.skipWhile (· == ' ')).skipComment
    if isBreak c.peek then
      let s := s.goTo c.lineBreak.2
      skipBlanks fuel (if s.inFlow then s else { s with keyAllowed := true })
    else s.goTo c

/-- Passes everything up to the next token. -/
def skipToToken (s : Scanner) : Scanner :=
  let s := if s.here.index == 0 && s.here.peek == '\uFEFF' then s.goTo s.here.step else s
  skipBlanks (s.here.rest.length + 1) s

/-- Ends all blocks and forgets the place of a key. -/
def endBlocks (s : Scanner) : Outcome Scanner := do
  let s ← (s.unwind (-1)).dropKey
  pure { s with keyAllowed := false }

/-- The end of the text. -/
def takeEnd (s : Scanner) : Outcome Scanner := do
  let s ← s.endBlocks
  pure { s.hold .streamEnd with keys := [], isDone := true }

/-- A mark between documents. -/
def takeMark (t : Token) (s : Scanner) : Outcome Scanner := do
  let s ← s.endBlocks
  pure ((s.goTo (s.here.skip 3)).hold t)

/-- A number in a version. -/
def versionNumber (c : Cursor) : Outcome (Nat × Cursor) :=
  let (ds, after) := c.span Char.isDigit
  match ds.mapM Text.asciiDigit? with
  | some (d :: ds) => .ok (Text.ofDigits 10 (d :: ds), after)
  | _ => noToken

/-- A handle of tags: an exclamation mark, or a name between two. -/
def tagHandle (c : Cursor) : Outcome (String × Cursor) :=
  if c.peek != '!' then noToken
  else if c.peekAt 1 == ' ' then .ok ("!", c.step)
  else
    let (name, after) := c.step.span isNameChar
    if after.peek == '!' then .ok (String.ofList ('!' :: name ++ ['!']), after.step)
    else noToken

/-- The characters of tags. -/
def isTagChar (c : Char) : Bool :=
  c.isAlphanum || "-;/?:@&=+$,_.!~*'()[]%".toList.contains c

/-- Bytes given as escapes in a row. -/
def escapedBytes : Nat → Cursor → Outcome (List UInt8 × Cursor)
  | 0, c => .ok ([], c)
  | fuel + 1, c =>
    if c.peek == '%' then
      match Text.hexDigit? (c.peekAt 1), Text.hexDigit? (c.peekAt 2) with
      | some a, some b => do
        let (bs, after) ← escapedBytes fuel (c.skip 3)
        pure (UInt8.ofNat (a * 16 + b) :: bs, after)
      | _, _ => noToken
    else .ok ([], c)

/-- The characters of a tag, with escapes resolved. -/
def tagChars : Nat → Cursor → Outcome (List Char × Cursor)
  | 0, c => .ok ([], c)
  | fuel + 1, c =>
    if c.peek == '%' then do
      let (bytes, after) ← escapedBytes c.rest.length c
      match Json.decodeUtf8? bytes with
      | some cs =>
        let (more, after) ← tagChars fuel after
        pure (cs ++ more, after)
      | none => noToken
    else if !c.rest.isEmpty && isTagChar c.peek then do
      let (more, after) ← tagChars fuel c.step
      pure (c.peek :: more, after)
    else .ok ([], c)

/-- The text of a tag; it is not empty. -/
def tagText (c : Cursor) : Outcome (String × Cursor) := do
  let (cs, after) ← tagChars (c.rest.length + 1) c
  if after.index == c.index then noToken else pure (String.ofList cs, after)

/-- The values of a directive with a known name. -/
def directiveValues (name : String) (c : Cursor) : Outcome (Directive × Cursor) := do
  if name == "YAML" then
    let (major, c) ← versionNumber (c.skipWhile (· == ' '))
    if c.peek != '.' then noToken
    else
      let (minor, c) ← versionNumber c.step
      if isSpaceOrEnd c.peek then pure (.version major minor, c) else noToken
  else if name == "TAG" then
    let (handle, c) ← tagHandle (c.skipWhile (· == ' '))
    if c.peek != ' ' then noToken
    else
      let (lead, c) ← tagText (c.skipWhile (· == ' '))
      if isSpaceOrEnd c.peek then pure (.tag handle lead, c) else noToken
  else pure (.other name, c.skipWhile fun ch => !isBreakOrEnd ch)

/-- A directive. -/
def takeDirective (s : Scanner) : Outcome Scanner := do
  let s ← s.endBlocks
  let (name, c) := s.here.step.span isNameChar
  if name.isEmpty || !isSpaceOrEnd c.peek then noToken
  else
    let (d, c) ← directiveValues (String.ofList name) c
    let c ← ignoredLine c
    pure ((s.goTo c).hold (.directive d))

/-- An opening bracket. -/
def takeFlowStart (t : Token) (s : Scanner) : Outcome Scanner := do
  let s ← s.saveKey
  pure ((goTo s.here.step { s with flow := s.flow + 1, keyAllowed := true }).hold t)

/-- A closing bracket. -/
def takeFlowEnd (t : Token) (s : Scanner) : Outcome Scanner := do
  let s ← s.dropKey
  pure ((goTo s.here.step { s with flow := s.flow - 1, keyAllowed := false }).hold t)

/-- A comma. -/
def takeFlowEntry (s : Scanner) : Outcome Scanner := do
  let s ← (s.withKeys true).dropKey
  pure ((s.goTo s.here.step).hold .flowEntry)

/-- The dash in front of an item. -/
def takeBlockEntry (s : Scanner) : Outcome Scanner := do
  let s ←
    if s.inFlow then .ok s
    else if s.keyAllowed then .ok (s.deepenWith .blockListStart)
    else noToken
  let s ← (s.withKeys true).dropKey
  pure ((s.goTo s.here.step).hold .blockEntry)

/-- The mark in front of a key. -/
def takeKey (s : Scanner) : Outcome Scanner := do
  let s ←
    if s.inFlow then .ok s
    else if s.keyAllowed then .ok (s.deepenWith .blockMapStart)
    else noToken
  let s ← (s.withKeys (!s.inFlow)).dropKey
  pure ((s.goTo s.here.step).hold .key)

/-- The colon after a key whose place is known. -/
def keyFound (k : KeyPlace) (s : Scanner) : Scanner :=
  let s := { s with keys := s.keys.filter fun p => p.1 != s.flow, keyAllowed := false }
  let s := s.holdBefore k.number .key
  if s.inFlow then s
  else
    match s.deepen k.column with
    | some s => s.holdBefore k.number .blockMapStart
    | none => s

/-- The colon in front of a value. -/
def takeValue (s : Scanner) : Outcome Scanner := do
  let s ←
    match s.keys.lookup s.flow with
    | some k => .ok (s.keyFound k)
    | none =>
      if s.inFlow then (s.withKeys false).dropKey
      else if s.keyAllowed then dropKey { s.deepenWith .blockMapStart with keyAllowed := true }
      else noToken
  pure ((s.goTo s.here.step).hold .value)

/-- A name after its mark. -/
def takeName (make : String → Token) (s : Scanner) : Outcome Scanner := do
  let s ← s.saveKey
  let (name, c) := s.here.step.span isNameChar
  if name.isEmpty then noToken
  else if isBlankOrEnd c.peek || "?:,]\x7d%@`".toList.contains c.peek then
    pure (((s.withKeys false).goTo c).hold (make (String.ofList name)))
  else noToken

/-- The parts of a tag. -/
def tagParts (c : Cursor) : Outcome ((Option String × String) × Cursor) := do
  let next := c.peekAt 1
  if next == '<' then
    let (text, c) ← tagText (c.skip 2)
    if c.peek == '>' then pure ((none, text), c.step) else noToken
  else if isBlankOrEnd next then pure ((none, "!"), c.step)
  else if (c.step.rest.takeWhile fun ch => !isSpaceOrEnd ch).contains '!' then
    let (handle, c) ← tagHandle c
    let (text, c) ← tagText c
    pure ((some handle, text), c)
  else
    let (text, c) ← tagText c.step
    pure ((some "!", text), c)

/-- A tag. -/
def takeTag (s : Scanner) : Outcome Scanner := do
  let s ← s.saveKey
  let ((handle?, text), c) ← tagParts s.here
  if isSpaceOrEnd c.peek then
    pure (((s.withKeys false).goTo c).hold (.tag handle? text))
  else noToken

/-- A block of text. -/
def takeBlockText (s : Scanner) : Outcome Scanner := do
  let s ← (s.withKeys true).dropKey
  let (text, c) ← blockText s.indent s.here
  pure ((s.goTo c).hold (.scalar text false))

/-- A quoted text. -/
def takeQuoted (s : Scanner) : Outcome Scanner := do
  let s ← s.saveKey
  let (text, c) ← quotedText s.here
  pure (((s.withKeys false).goTo c).hold (.scalar text false))

/-- A plain text. After one that ends with a line, a key may begin. -/
def takePlain (s : Scanner) : Outcome Scanner := do
  let s ← s.saveKey
  let (text, c, overLine) := plainText s.inFlow s.indent s.here
  pure (((s.withKeys overLine).goTo c).hold (.scalar text true))

/-- Whether a plain text can begin here. -/
def beginsPlain (s : Scanner) : Bool :=
  let ch := s.here.peek
  (!isBlankOrEnd ch && !"-?:,[]\x7b\x7d#&*!|>'\"%@`".toList.contains ch) ||
    (!isBlankOrEnd (s.here.peekAt 1) && (ch == '-' || (!s.inFlow && (ch == '?' || ch == ':'))))

/-- Takes what comes next in the text. -/
def takeNext (s : Scanner) : Outcome Scanner := do
  let s ← s.skipToToken.dropStale
  let s := s.unwind s.here.column
  let c := s.here
  let atStart := c.column == 0
  let spaced := isBlankOrEnd (c.peekAt 1)
  match c.rest with
  | [] => s.takeEnd
  | ch :: _ =>
    if ch == '%' && atStart then s.takeDirective
    else if atStart && c.isMarkerOf '-' then s.takeMark .documentStart
    else if atStart && c.isMarkerOf '.' then s.takeMark .documentEnd
    else if ch == '[' then s.takeFlowStart .flowListStart
    else if ch == '\x7b' then s.takeFlowStart .flowMapStart
    else if ch == ']' then s.takeFlowEnd .flowListEnd
    else if ch == '\x7d' then s.takeFlowEnd .flowMapEnd
    else if ch == ',' then s.takeFlowEntry
    else if ch == '-' && spaced then s.takeBlockEntry
    else if ch == '?' && (s.inFlow || spaced) then s.takeKey
    else if ch == ':' && (s.inFlow || spaced) then s.takeValue
    else if ch == '*' then s.takeName .alias
    else if ch == '&' then s.takeName .anchor
    else if ch == '!' then s.takeTag
    else if (ch == '|' || ch == '>') && !s.inFlow then s.takeBlockText
    else if ch == '\'' || ch == '"' then s.takeQuoted
    else if s.beginsPlain then s.takePlain
    else noToken

/-- Takes more of the text until the first token held is settled. -/
def fill : Nat → Scanner → Outcome Scanner
  | 0, s => .ok s
  | fuel + 1, s => do
    if s.isDone then pure s
    else if s.held.isEmpty then fill fuel (← s.takeNext)
    else
      let s ← s.dropStale
      if s.keys.any fun p => p.2.number == s.given then fill fuel (← s.takeNext)
      else pure s

end Scanner

/-- The tokens up to the end or to the first failure. -/
def tokensFrom : Nat → Scanner → List (Outcome Token)
  | 0, _ => []
  | fuel + 1, s =>
    match s.fill (s.here.rest.length + 2) with
    | .error e => [.error e]
    | .ok s =>
      match s.held with
      | [] => []
      | t :: rest => .ok t :: tokensFrom fuel { s with held := rest, given := s.given + 1 }

/-- Whether a character may occur in a text at all. -/
def isTextChar (c : Char) : Bool :=
  let n := c.toNat
  n == 0x09 || n == 0x0A || n == 0x0D || (0x20 ≤ n && n ≤ 0x7E) || n == 0x85 ||
    (0xA0 ≤ n && n ≤ 0xFFFD) || 0x10000 ≤ n

/-- Line breaks of two characters, or of a lone carriage return, as one. -/
def withPlainBreaks : List Char → List Char
  | '\r' :: '\n' :: rest => '\n' :: withPlainBreaks rest
  | '\r' :: rest => '\n' :: withPlainBreaks rest
  | c :: rest => c :: withPlainBreaks rest
  | [] => []

/-- The tokens of a text; the last one may be a failure. -/
def tokens (text : String) : List (Outcome Token) :=
  let cs := withPlainBreaks text.toList
  if cs.all isTextChar then tokensFrom (5 * cs.length + 10) ⟨⟨cs, 0, 0, 0⟩, 0, [], 0, -1, [], true, [], false⟩
  else [.error (.markup .characters)]

end Yaml
end TelemetryAlerts
