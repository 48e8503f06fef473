import TelemetryAlerts.Yaml.Token
import TelemetryAlerts.Yaml.Kind

/-!
# Nodes of a markup text

The tree of a text, read from its tokens. A node can be named and referred to later in
the same document. A text holds at most one document.
-/

namespace TelemetryAlerts
namespace Yaml

/-- A node of a document. -/
inductive Node where
  | scalar (kind : Kind) (text : String)
  | list (kind : Kind) (items : List Node)
  | map (kind : Kind) (entries : List (Node × Node))
  /-- A reference to a node from inside it. -/
  | inside
deriving Inhabited

/-- The state of reading nodes: the tokens ahead, the named nodes, of which some are not
finished, and what the handles of tags stand for. -/
structure NodeReader where
  ahead : List (Outcome Token)
  named : List (String × Option Node) := []
  handles : List (String × String) := []

/-- Reading nodes. -/
abbrev Reading (α : Type) := StateT NodeReader Outcome α

namespace Reading

/-- The failure of tokens that make no tree. -/
def noNode {α : Type} : Reading α :=
  throw (.markup .grammar)

/-- The next token. -/
def peek : Reading Token := do
  match (← get).ahead with
  | [] => pure .streamEnd
  | t :: _ => liftM t

/-- Passes a token. -/
def pass : Reading Unit :=
  modify fun s => { s with ahead := s.ahead.drop 1 }

/-- The handles that are known without a directive. -/
def commonHandles : List (String × String) := [("!", "!"), ("!!", Kind.commonTag)]

/-- The tag that a handle and a text make. -/
def fullTag (handle? : Option String) (text : String) : Reading String := do
  match handle? with
  | none => pure text
  | some h =>
    match (← get).handles.lookup h with
    | some lead => pure (lead ++ text)
    | none => noNode

/-- The name and the tag in front of a node, in either order. -/
def properties : Reading (Option String × Option String) := do
  match ← peek with
  | .anchor name => do
    pass
    match ← peek with
    | .tag handle? text => do
      pass
      pure (some name, some (← fullTag handle? text))
    | _ => pure (some name, none)
  | .tag handle? text => do
    pass
    match ← peek with
    | .anchor name => do
      pass
      pure (some name, some (← fullTag handle? text))
    | _ => pure (none, some (← fullTag handle? text))
  | _ => pure (none, none)

/-- Begins a node that may have a name; no name is given twice. -/
def beginNamed (name? : Option String) : Reading Unit := do
  match name? with
  | none => pure ()
  | some name =>
    let s ← get
    if (s.named.lookup name).isSome then throw (.markup .references)
    else set { s with named := (name, none) :: s.named }

/-- Ends a node that may have a name. -/
def endNamed (name? : Option String) (n : Node) : Reading Node := do
  match name? with
  | none => pure n
  | some name =>
    modify fun s => { s with named := (name, some n) :: s.named }
    pure n

/-- The node that a name refers to. -/
def referred (name : String) : Reading Node := do
  match (← get).named.lookup name with
  | some (some n) => pure n
  | some none => pure .inside
  | none => throw (.markup .references)

/-- The node without any text. -/
def empty : Node := .scalar .null ""

/-- Whether a tag leaves the kind open. -/
def isOpenTag (tag? : Option String) : Bool :=
  tag?.all (· == "!")

/-- The kind of a text. -/
def scalarKind (tag? : Option String) (plain : Bool) (text : String) : Kind :=
  match tag? with
  | none => if plain then Kind.ofPlain text else .text
  | some tag => if tag == "!" then Kind.ofPlain text else Kind.ofTag tag

/-- The kind of a list or a mapping. -/
def groupKind (tag? : Option String) (open_ : Kind) : Kind :=
  if isOpenTag tag? then open_ else tag?.elim open_ Kind.ofTag

/-- Whether a token is one of a few. -/
def isOneOf (ts : List Token) : Reading Bool := do
  pure (ts.contains (← peek))

mutual

/-- A node. `block` admits indented lists and mappings, and `flush` lists that are not
indented. -/
def node : Nat → Bool → Bool → Reading Node
  | 0, _, _ => noNode
  | fuel + 1, block, flush => do
    match ← peek with
    | .alias name => do
      pass
      referred name
    | _ => do
      let (name?, tag?) ← properties
      match ← peek with
      | .scalar text plain => do
        pass
        beginNamed name?
        endNamed name? (.scalar (scalarKind tag? plain text) text)
      | .flowListStart => do
        beginNamed name?
        pass
        endNamed name? (.list (groupKind tag? .list) (← flowItems fuel true))
      | .flowMapStart => do
        beginNamed name?
        pass
        endNamed name? (.map (groupKind tag? .map) (← flowEntries fuel true))
      | .blockEntry =>
        if flush then do
          beginNamed name?
          endNamed name? (.list (groupKind tag? .list) (← flushItems fuel))
        else bare name? tag?
      | .blockListStart =>
        if block then do
          beginNamed name?
          pass
          endNamed name? (.list (groupKind tag? .list) (← blockItems fuel))
        else bare name? tag?
      | .blockMapStart =>
        if block then do
          beginNamed name?
          pass
          endNamed name? (.map (groupKind tag? .map) (← blockEntries fuel))
        else bare name? tag?
      | _ => bare name? tag?

/-- A node of which there is nothing but a name or a tag. -/
def bare (name? tag? : Option String) : Reading Node := do
  if name?.isSome || tag?.isSome then
    beginNamed name?
    endNamed name? (.scalar (scalarKind tag? true "") "")
  else noNode

/-- A node, or the empty one in front of certain tokens. -/
def nodeUnless : Nat → List Token → Bool → Bool → Reading Node
  | 0, _, _, _ => noNode
  | fuel + 1, stops, block, flush => do
    if ← isOneOf stops then pure empty else node fuel block flush

/-- The value after a key, or the empty one. -/
def valueUnless : Nat → List Token → Bool → Reading Node
  | 0, _, _ => noNode
  | fuel + 1, stops, block => do
    if (← peek) = .value then
      pass
      nodeUnless fuel stops block block
    else pure empty

/-- The items of an indented list. -/
def blockItems : Nat → Reading (List Node)
  | 0 => noNode
  | fuel + 1 => do
    match ← peek with
    | .blockEntry => do
      pass
      let item ← nodeUnless fuel [.blockEntry, .blockEnd] true false
      pure (item :: (← blockItems fuel))
    | .blockEnd => do
      pass
      pure []
    | _ => noNode

/-- The items of a list that is not indented. -/
def flushItems : Nat → Reading (List Node)
  | 0 => noNode
  | fuel + 1 => do
    match ← peek with
    | .blockEntry => do
      pass
      let item ← nodeUnless fuel [.blockEntry, .key, .value, .blockEnd] true false
      pure (item :: (← flushItems fuel))
    | _ => pure []

/-- The entries of an indented mapping. -/
def blockEntries : Nat → Reading (List (Node × Node))
  | 0 => noNode
  | fuel + 1 => do
    let stops : List Token := [.key, .value, .blockEnd]
    match ← peek with
    | .key => do
      pass
      let k ← nodeUnless fuel stops true true
      let v ← valueUnless fuel stops true
      pure ((k, v) :: (← blockEntries fuel))
    | .blockEnd => do
      pass
      pure []
    | _ => noNode

/-- Passes the comma in front of every entry but the first; tells whether the bracket is
closed instead. -/
def flowContinues : Nat → Token → Bool → Reading Bool
  | 0, _, _ => noNode
  | _ + 1, close, first => do
    if (← peek) = close then pure false
    else
      if first then pure ()
      else if (← peek) = .flowEntry then pass
      else noNode
      pure ((← peek) != close)

/-- The items of a bracketed list. -/
def flowItems : Nat → Bool → Reading (List Node)
  | 0, _ => noNode
  | fuel + 1, first => do
    if ← flowContinues fuel .flowListEnd first then
      let stops : List Token := [.flowEntry, .flowListEnd]
      let item ←
        if (← peek) = .key then do
          pass
          let k ← nodeUnless fuel (.value :: stops) false false
          let v ← valueUnless fuel stops false
          pure (Node.map .map [(k, v)])
        else node fuel false false
      pure (item :: (← flowItems fuel false))
    else
      pass
      pure []

/-- The entries of a bracketed mapping. -/
def flowEntries : Nat → Bool → Reading (List (Node × Node))
  | 0, _ => noNode
  | fuel + 1, first => do
    if ← flowContinues fuel .flowMapEnd first then
      let stops : List Token := [.flowEntry, .flowMapEnd]
      let entry ←
        if (← peek) = .key then do
          pass
          let k ← nodeUnless fuel (.value :: stops) false false
          let v ← valueUnless fuel stops false
          pure (k, v)
        else do
          let k ← node fuel false false
          pure (k, empty)
      pure (entry :: (← flowEntries fuel false))
    else
      pass
      pure []

end

/-- Directives in front of a document. -/
def directives : Nat → Bool → List (String × String) → Reading (List (String × String))
  | 0, _, _ => noNode
  | fuel + 1, versioned, handles => do
    match ← peek with
    | .directive d => do
      pass
      match d with
      | .version major _ =>
        if versioned || major != 1 then noNode else directives fuel true handles
      | .tag handle lead =>
        if (handles.lookup handle).isSome then noNode
        else directives fuel versioned (handles ++ [(handle, lead)])
      | .other _ => directives fuel versioned handles
    | _ => pure handles

/-- Passes marks for the ends of documents. -/
def passEnds : Nat → Reading Unit
  | 0 => pure ()
  | fuel + 1 => do
    if (← peek) = .documentEnd then
      pass
      passEnds fuel

/-- The start of a document that is marked as one; false at the end of the text. -/
def marked (fuel : Nat) : Reading Bool := do
  passEnds fuel
  if (← peek) = .streamEnd then pure false
  else
    let own ← directives fuel false []
    if (← peek) = .documentStart then
      pass
      let rest := commonHandles.filter fun p => (own.lookup p.1).isNone
      modify fun s => { s with handles := own ++ rest }
      pure true
    else noNode

/-- The only document of a text, if there is one. -/
def document (fuel : Nat) : Reading (Option Node) := do
  let begins : List Token := [.documentStart, .streamEnd]
  let first ← peek
  let isMarked :=
    begins.contains first ||
      match first with
      | .directive _ => true
      | _ => false
  let root? ←
    if isMarked then do
      if ← marked fuel then
        let next ← peek
        let isEmpty :=
          [Token.documentStart, .documentEnd, .streamEnd].contains next ||
            match next with
            | .directive _ => true
            | _ => false
        if isEmpty then pure (some empty) else some <$> node fuel true false
      else pure none
    else do
      modify fun s => { s with handles := commonHandles }
      some <$> node fuel true false
  match root? with
  | none => pure none
  | some root =>
    passEnds fuel
    if ← marked fuel then throw (.markup .references) else pure (some root)

end Reading

/-- The root of a text, if it holds a document. -/
def Node.ofText? (text : String) : Outcome (Option Node) := do
  let ts := tokens text
  let (root?, _) ← (Reading.document (4 * ts.length + 10)).run { ahead := ts }
  pure root?

end Yaml
end TelemetryAlerts
