import TelemetryAlerts.Document.Text
import TelemetryAlerts.Json.Writer
import TelemetryAlerts.Store.Server

/-!
# A connection to a key server

Reading and publishing documents on a key server, and the connection without which every
command fails.
-/

namespace TelemetryAlerts

namespace ServerAction

/-- The document under a key; an empty text counts as none. -/
def document? (key : String) : ServerAction (Option Json) := do
  match ← command (.get key) with
  | none => pure none
  | some text => if text.isEmpty then pure none else some <$> liftM (Document.ofText text)

/-- The documents under keys, without those that are missing. -/
def documents (keys : List String) : ServerAction (List Json) := do
  if keys.isEmpty then pure []
  else
    let texts ← command (.getAll keys)
    let present := (texts.filterMap fun t? => t?).filter fun t => !t.isEmpty
    present.mapM fun t => (liftM (Document.ofText t) : ServerAction Json)

/-- Publishes a document as a message. -/
def publishDocument (channel : String) (v : Json) : ServerAction Unit :=
  command (.publish channel (v.write Json.Style.message))

end ServerAction

/-- A client of a key server. -/
structure Connection where
  server : Server := {}
  isOpen : Bool := true

namespace Connection

/-- Executes a command, if the connection is open. -/
def execute (c : Command) (s : Connection) : c.Reply × Connection :=
  if s.isOpen then
    let (r, server) := Server.execute c s.server
    (r, { s with server := server })
  else (.error .storeNotConnected, s)

/-- Runs an action. -/
def run {α : Type} (a : ServerAction α) (s : Connection) : Outcome α × Connection :=
  Program.run execute (ExceptT.run a) s

/-- Runs an action, while another client writes a text after a number of commands. -/
def runDisturbed {α : Type} (a : ServerAction α) (commands : Nat) (key text : String)
    (s : Connection) : Outcome α × Connection :=
  let (rest, s) := Program.advance execute commands (ExceptT.run a) s
  Program.run execute rest { s with server := s.server.write key (.text text) }

end Connection
end TelemetryAlerts
