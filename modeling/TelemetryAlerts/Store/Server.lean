import TelemetryAlerts.Program
import TelemetryAlerts.Failure

/-!
# A key server

A server of texts and sets by key. Its commands are atomic, and each is one call of the
programs that work on it. A change of a key is noted, so that a later command can be made
to depend on the key's being unchanged.
-/

namespace TelemetryAlerts

/-- What a key holds. -/
inductive Entry where
  | text (s : String)
  /-- A set of texts in rising order; never empty. -/
  | members (ms : List String)
deriving Repr, DecidableEq

/-- A server's keys, the keys changed so far, what was published, and how many ids it has
drawn up. -/
structure Server where
  entries : List (String × Entry) := []
  changes : List String := []
  published : List (String × String) := []
  drawn : Nat := 0

/-- A generated id: its number in the last group. -/
def generatedId (n : Nat) : String :=
  let hex := Nat.toDigits 16 n
  "00000000-0000-0000-0000-" ++ String.ofList (List.replicate (12 - hex.length) '0' ++ hex)

/-- An atomic command to a server. -/
inductive Command where
  | get (key : String)
  | getAll (keys : List String)
  | set (key value : String)
  | setIfAbsent (key value : String)
  /-- Sets a key and adds a member to sets, all at once. -/
  | setAndIndex (key value : String) (indexes : List String) (member : String)
  | removeMembers (key : String) (members : List String)
  | members (key : String)
  | publish (channel text : String)
  /-- Notes how many changes there have been. -/
  | watch (key : String)
  | unwatch
  /-- Deletes a key unless it has changed since a number of changes was noted. -/
  | deleteIfUnchanged (key : String) (since : Nat)
  /-- Draws an id for a document that brings none. -/
  | drawId

/-- The type of the reply to a command that succeeds. -/
abbrev Command.Value : Command → Type
  | .get _ => Option String
  | .getAll _ => List (Option String)
  | .set _ _ => Unit
  | .setIfAbsent _ _ => Bool
  | .setAndIndex _ _ _ _ => Unit
  | .removeMembers _ _ => Unit
  | .members _ => List String
  | .publish _ _ => Unit
  | .watch _ => Nat
  | .unwatch => Unit
  | .deleteIfUnchanged _ _ => Bool
  | .drawId => String

/-- The type of the reply to a command. -/
abbrev Command.Reply (c : Command) : Type := Outcome c.Value

/-- Adds a text to a rising list without doubles. -/
def insertMember (s : String) : List String → List String
  | [] => [s]
  | t :: rest =>
    if s < t then s :: t :: rest else if s = t then t :: rest else t :: insertMember s rest

namespace Server

/-- What a key holds. -/
def find? (s : Server) (key : String) : Option Entry :=
  s.entries.lookup key

/-- Puts an entry under a key and notes the change. -/
def write (s : Server) (key : String) (e : Entry) : Server :=
  { s with entries := Json.insertField key e s.entries, changes := s.changes ++ [key] }

/-- Removes a key and notes the change, if it is there. -/
def erase (s : Server) (key : String) : Server :=
  if (s.find? key).isSome then
    { s with
      entries := s.entries.filter fun p => p.1 != key
      changes := s.changes ++ [key] }
  else s

/-- Adds a member to a set. -/
def addMember (s : Server) (key member : String) : Outcome Server :=
  match s.find? key with
  | none => .ok (s.write key (.members [member]))
  | some (.members ms) => .ok (s.write key (.members (insertMember member ms)))
  | some (.text _) => .error .wrongKind

/-- Adds a member to sets; a key that holds no set is passed over, and makes the whole fail. -/
def addToAll (member : String) : List String → Outcome Unit × Server → Outcome Unit × Server
  | [], r => r
  | key :: rest, (result, s) =>
    match s.addMember key member with
    | .ok s => addToAll member rest (result, s)
    | .error e => addToAll member rest (result.bind fun _ => .error e, s)

/-- Removes members from a set; a set without members is no key. -/
def dropMembers (s : Server) (key : String) (gone : List String) : Outcome Server :=
  match s.find? key with
  | none => .ok s
  | some (.text _) => .error .wrongKind
  | some (.members ms) =>
    let left := ms.filter fun m => !gone.contains m
    if left.length = ms.length then .ok s
    else if left.isEmpty then .ok (s.erase key)
    else .ok (s.write key (.members left))

/-- The text under a key. -/
def text? (s : Server) (key : String) : Outcome (Option String) :=
  match s.find? key with
  | none => .ok none
  | some (.text t) => .ok (some t)
  | some (.members _) => .error .wrongKind

/-- Executes a command. -/
def execute : (c : Command) → Server → c.Reply × Server
  | .get key, s => (s.text? key, s)
  | .getAll keys, s => (.ok (keys.map fun k => (s.text? k).toOption.join), s)
  | .set key value, s => (.ok (), s.write key (.text value))
  | .setIfAbsent key value, s =>
    if (s.find? key).isSome then (.ok false, s) else (.ok true, s.write key (.text value))
  | .setAndIndex key value indexes member, s =>
    addToAll member indexes (.ok (), s.write key (.text value))
  | .removeMembers key gone, s =>
    match s.dropMembers key gone with
    | .ok s => (.ok (), s)
    | .error e => (.error e, s)
  | .members key, s =>
    match s.find? key with
    | none => (.ok [], s)
    | some (.members ms) => (.ok ms, s)
    | some (.text _) => (.error .wrongKind, s)
  | .publish channel text, s => (.ok (), { s with published := s.published ++ [(channel, text)] })
  | .watch _, s => (.ok s.changes.length, s)
  | .unwatch, s => (.ok (), s)
  | .deleteIfUnchanged key since, s =>
    if (s.changes.drop since).contains key then (.ok false, s) else (.ok true, s.erase key)
  | .drawId, s => (.ok (generatedId (s.drawn + 1)), { s with drawn := s.drawn + 1 })

end Server

/-- A program of server commands that can fail. -/
abbrev ServerAction (α : Type) := ExceptT Failure (Program Command Command.Reply) α

namespace ServerAction

/-- One command. -/
def command (c : Command) : ServerAction c.Value :=
  ExceptT.mk (Program.perform c)

/-- Runs an action alone on a server. -/
def runOn {α : Type} (a : ServerAction α) (s : Server) : Outcome α × Server :=
  Program.run Server.execute (ExceptT.run a) s

/-- Deletes a key only while it holds a text. -/
def deleteIfEquals (key value : String) : ServerAction Bool := do
  let since ← command (.watch key)
  if (← command (.get key)) = some value then command (.deleteIfUnchanged key since)
  else
    command .unwatch
    pure false

end ServerAction
end TelemetryAlerts
