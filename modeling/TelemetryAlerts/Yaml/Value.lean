import TelemetryAlerts.Document.Layer
import TelemetryAlerts.Json.Display
import TelemetryAlerts.Number.Numeral
import TelemetryAlerts.Text.Base64
import TelemetryAlerts.Yaml.Node

/-!
# Markup values

The values of a markup text. Besides what a JSON document can hold there are dates, times and
bytes, and the keys of a mapping can be any value without parts.
-/

namespace TelemetryAlerts
namespace Yaml

/-- A value of a markup text. -/
inductive Value where
  | null
  | bool (b : Bool)
  | int (n : Int)
  | float (x : Float)
  | str (s : String)
  /-- A date without a time of day. -/
  | date (t : Moment)
  | moment (t : Moment)
  | bytes (bs : List UInt8)
  | list (items : List Value)
  | map (entries : List (Value × Value))
  /-- A value of a kind that no record has. -/
  | strange
deriving Inhabited

namespace Value

/-- Entries whose keys are texts. -/
def textEntries (entries : List (Value × Value)) : List (String × Value) :=
  entries.filterMap fun p =>
    match p.1 with
    | .str k => some (k, p.2)
    | _ => none

/-- Whether all keys are texts. -/
def hasTextKeys (entries : List (Value × Value)) : Bool :=
  entries.all fun p =>
    match p.1 with
    | .str _ => true
    | _ => false

/-- Markup values as documents: entries under other keys than texts do not count. -/
instance : Document Value where
  layer
    | .null => .null
    | .bool b => .bool b
    | .int n => .int n
    | .float x => .float x
    | .str s => .text s
    | .list items => .list items
    | .map entries => .fields (textEntries entries)
    | _ => .other

mutual

/-- A document value as a markup value. -/
def ofJson : Json → Value
  | .null => null
  | .bool b => bool b
  | .int n => int n
  | .float x => float x
  | .str s => str s
  | .arr items => list (ofItems items)
  | .obj fields => map (ofFields fields)

/-- The same of every item of a list. -/
def ofItems : List Json → List Value
  | [] => []
  | v :: rest => ofJson v :: ofItems rest

/-- The same of every field of an object. -/
def ofFields : List (String × Json) → List (Value × Value)
  | [] => []
  | (k, v) :: rest => (str k, ofJson v) :: ofFields rest

end

/-- Whether a value counts as nothing. -/
def isBlank : Value → Bool
  | null => true
  | bool b => !b
  | int n => n == 0
  | float x => x == 0
  | str s => s.isEmpty
  | bytes bs => bs.isEmpty
  | list items => items.isEmpty
  | map entries => entries.isEmpty
  | _ => false

/-- The number that a key counts as. -/
def keyNumber? : Value → Option (Int ⊕ Float)
  | bool b => some (.inl (if b then 1 else 0))
  | int n => some (.inl n)
  | float x =>
    match Number.toInt? x with
    | some n => if Number.isFinite x then some (.inl n) else some (.inr x)
    | none => some (.inr x)
  | _ => none

/-- Whether two values are the same key. Numbers are compared by what they count. -/
def sameKey (a b : Value) : Bool :=
  match a.keyNumber?, b.keyNumber? with
  | some (.inl m), some (.inl n) => m == n
  | some (.inr x), some (.inr y) => x == y
  | some _, _ => false
  | none, some _ => false
  | none, none =>
    match a, b with
    | null, null => true
    | str s, str t => s == t
    | date t, date u => t.instant == u.instant
    | moment t, moment u => t.since? u == some 0
    | bytes bs, bytes bs' => bs == bs'
    | _, _ => false

/-- Puts a value under a key: in the place of the key, or at the end. -/
def assign (key value : Value) : List (Value × Value) → List (Value × Value)
  | [] => [(key, value)]
  | (k, v) :: rest =>
    if sameKey k key then (k, value) :: rest else (k, v) :: assign key value rest

/-- The failure of a node that makes no value. -/
def noValue {α : Type} : Outcome α :=
  .error (.markup .values)

/-- A text without underscores. -/
def withoutLines (s : String) : List Char :=
  s.toList.filter (· != '_')

/-- Figures to a base; at least one. -/
def figures (base : Nat) (cs : List Char) : Outcome Nat :=
  match cs.mapM Text.hexDigit? with
  | some (d :: ds) =>
    if (d :: ds).all (· < base) then .ok (Text.ofDigits base (d :: ds))
    else .error (.kind .unusableValue)
  | _ => .error (.kind .unusableValue)

/-- Numbers between colons, each sixty times the next. -/
def sixtieths (parts : List Nat) : Nat :=
  parts.foldl (fun n d => n * 60 + d) 0

/-- A whole number. -/
def intOfText (s : String) : Outcome Value := do
  let cs := withoutLines s
  let body := Kind.unsigned cs
  let n ←
    match body with
    | ['0'] => .ok 0
    | '0' :: 'b' :: ds => figures 2 ds
    | '0' :: 'x' :: ds => figures 16 ds
    | '0' :: ds => figures 8 ds
    | _ =>
      if body.contains ':' then do
        pure (sixtieths (← (Kind.pieces ':' body).mapM (figures 10)))
      else if Json.maxWholeDigits < body.length then .error (.kind .unusableValue)
      else figures 10 body
  pure (int (if cs.head? == some '-' then -(n : Int) else n))

/-- A number between colons, as a float. -/
def floatPart (cs : List Char) : Outcome Float :=
  (Number.ofText? (String.ofList cs)).elim (.error (.kind .unusableValue)) .ok

/-- Floats between colons: the last counts once, the one before it sixty times, and so on. -/
def floatSixtieths (parts : List Float) : Float :=
  (parts.reverse.foldl
    (fun (sum, weight) d => (sum + d * Number.ofRatio false weight 1, weight * 60))
    ((0 : Float), 1)).1

/-- A float. -/
def floatOfText (s : String) : Outcome Value := do
  let cs := (withoutLines s).map Char.toLower
  let body := Kind.unsigned cs
  let negative := cs.head? == some '-'
  let x ←
    if body == ".inf".toList then .ok (Number.ofMagnitude false Number.infinityBits)
    else if body == ".nan".toList then .ok (0 / 0)
    else if body.contains ':' then do
      pure (floatSixtieths (← (Kind.pieces ':' body).mapM floatPart))
    else floatPart body
  pure (float (if negative then -1.0 * x else x))

/-- The number that figures spell. -/
def count (cs : List Char) : Nat :=
  Text.ofDigits 10 (cs.filterMap Text.asciiDigit?)

/-- A distance from universal time in minutes; it is less than a day. -/
def zoneMinutes (zone : Option (Char × List Char × List Char)) : Outcome Int :=
  match zone with
  | none => .ok 0
  | some (sign, hours, minutes) =>
    let n := count hours * 60 + count minutes
    if n < 1440 then .ok (if sign == '-' then -(n : Int) else n)
    else .error (.kind .unusableValue)

/-- A date or a moment. -/
def momentOfText (s : String) : Outcome Value := do
  match Kind.stamp? s.toList with
  | none => .error (.kind .noSuchOperation)
  | some t =>
    let year := count t.year
    let month := count t.month
    let day := count t.day
    let checked (v? : Option Moment) : Outcome Moment :=
      v?.elim (.error (.kind .unusableValue)) .ok
    match t.time? with
    | none => do
      pure (date (← checked (Moment.mk? year month day 0 0 0 0 none)))
    | some (hour, minute, second, fraction) => do
      let offset? ←
        match t.zone? with
        | none => .ok none
        | some zone => some <$> zoneMinutes zone
      let micros := count ((fraction ++ List.replicate 6 '0').take 6)
      pure (moment (← checked (Moment.mk? year month day (count hour) (count minute)
        (count second) micros offset?)))

/-- The truth value of a word in any case. -/
def boolOfText (s : String) : Outcome Value :=
  let word := String.ofList (s.toList.map Char.toLower)
  if ["yes", "true", "on"].contains word then .ok (bool true)
  else if ["no", "false", "off"].contains word then .ok (bool false)
  else .error (.kind .noSuchKey)

/-- The value of a text of a kind. -/
def ofText (kind : Kind) (s : String) : Outcome Value :=
  match kind with
  | .null => .ok null
  | .bool => boolOfText s
  | .int => intOfText s
  | .float => floatOfText s
  | .moment => momentOfText s
  | .text => .ok (str s)
  | .binary => (Text.bytes? s).elim noValue fun bs => .ok (bytes bs)
  | _ => noValue

/-- Whether a value can be the key of a mapping. -/
def isKey : Value → Bool
  | list _ => false
  | map _ => false
  | strange => false
  | _ => true

/-- Whether a node is the mark for taking over entries. -/
def isMerge : Node → Bool
  | .scalar .merge _ => true
  | _ => false

/-- A key that is an equals sign counts as a text. -/
def asKeyNode : Node → Node
  | .scalar .value s => .scalar .text s
  | n => n

/-- The entries of nodes taken over, those of later nodes first. -/
def laterFirst (groups : List (List (Node × Node))) : List (Node × Node) :=
  groups.reverse.flatten

/-- The entries of a mapping after those that it takes over from others. The depth of
taking over is bounded by the depth of the node. -/
def mergedEntries : Nat → List (Node × Node) → Outcome (List (Node × Node))
  | 0, _ => noValue
  | fuel + 1, entries => do
    let own := (entries.filter fun p => !isMerge p.1).map fun p => (asKeyNode p.1, p.2)
    let taken ← (entries.filter fun p => isMerge p.1).mapM fun p =>
      match p.2 with
      | .map _ inner => mergedEntries fuel inner
      | .list _ items => do
        let groups ← items.mapM fun n =>
          match n with
          | .map _ inner => mergedEntries fuel inner
          | _ => noValue
        pure (laterFirst groups)
      | _ => noValue
    pure (taken.flatten ++ own)

/-- The key and value of an item that is a mapping with one entry. -/
def onlyEntry (n : Node) : Outcome (Node × Node) :=
  match n with
  | .map _ [p] => .ok p
  | _ => noValue

/-- The value of a node, with a bound on the depth. -/
def ofNode : Nat → Node → Outcome Value
  | 0, _ => noValue
  | fuel + 1, n => do
    let entriesOf (entries : List (Node × Node)) : Outcome (List (Value × Value)) := do
      let merged ← mergedEntries fuel entries
      let pairs ← merged.mapM fun p => do
        let k ← ofNode fuel p.1
        if k.isKey then pure (k, ← ofNode fuel p.2) else noValue
      pure (pairs.foldl (fun es p => assign p.1 p.2 es) [])
    match n with
    | .inside => noValue
    | .scalar kind text => ofText kind text
    | .list kind items =>
      match kind with
      | .list => list <$> items.mapM (ofNode fuel)
      | .orderedMap | .pairs => do
        let entries ← items.mapM onlyEntry
        list <$> entries.mapM fun p => do
          pure (list [← ofNode fuel p.1, ← ofNode fuel p.2])
      | _ => noValue
    | .map kind entries =>
      match kind with
      | .map => map <$> entriesOf entries
      | .set => do
        let _ ← entriesOf entries
        pure strange
      | .text =>
        match entries.find? fun p =>
          match p.1 with
          | .scalar .value _ => true
          | _ => false with
        | some (_, .scalar _ s) => pure (str s)
        | _ => noValue
      | _ => noValue

/-- The value of a text; an empty one has none. -/
def read (text : String) : Outcome Value := do
  match ← Node.ofText? text with
  | none => pure null
  | some root => ofNode (text.length + 3) root

/-- A moment as it is shown: date and time of day apart. -/
def momentText (t : Moment) : List Char :=
  t.dateText ++ ' ' :: t.timeText ++ t.fractionText ++ (t.offset?.map Moment.offsetText).getD []

mutual

/-- A value inside another, as it is shown. -/
def inner : Value → List Char
  | null => Json.DisplayStyle.standard.null.toList
  | bool b => Json.DisplayStyle.standard.inner (.bool b)
  | int n => Json.intText n
  | float x => Json.DisplayStyle.standard.inner (.float x)
  | str s => (Text.quoted s).toList
  | date t => t.dateText
  | moment t => momentText t
  | bytes bs => Text.quotedBytes bs
  | list [] => ['[', ']']
  | list (v :: rest) => '[' :: inner v ++ innerItems rest
  | map [] => ['\x7b', '\x7d']
  | map ((k, v) :: rest) => '\x7b' :: inner k ++ [':', ' '] ++ inner v ++ innerEntries rest
  | strange => []

/-- The items after the first one, and the closing bracket. -/
def innerItems : List Value → List Char
  | [] => [']']
  | v :: rest => [',', ' '] ++ inner v ++ innerItems rest

/-- The entries after the first one, and the closing brace. -/
def innerEntries : List (Value × Value) → List Char
  | [] => ['\x7d']
  | (k, v) :: rest => [',', ' '] ++ inner k ++ [':', ' '] ++ inner v ++ innerEntries rest

end

/-- A value as it is shown. -/
def display (v : Value) : String :=
  match v with
  | str s => s
  | v => String.ofList v.inner

end Value
end Yaml
end TelemetryAlerts
