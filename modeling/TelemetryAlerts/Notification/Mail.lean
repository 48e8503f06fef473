import TelemetryAlerts.Config.Basic
import TelemetryAlerts.Notification.Message

/-!
# Alert emails

An email as it is handed to a mail server, and the login and encryption that go with it.
-/

namespace TelemetryAlerts

/-- How a part of an email is written. -/
inductive MailFormat where
  | plain
  | markup
deriving Repr, DecidableEq

/-- The content type of a format. -/
def MailFormat.contentType : MailFormat → String
  | plain => "text/plain"
  | markup => "text/html"

/-- A part of an email. -/
structure MailPart where
  format : MailFormat
  text : String

namespace MailPart

/-- Whether a part needs no encoding. -/
def isAscii (p : MailPart) : Bool :=
  p.text.toList.all fun c => c.toNat < 0x80

/-- The character set of a part. -/
def charset (p : MailPart) : String :=
  if p.isAscii then "us-ascii" else "utf-8"

/-- How the bytes of a part are transferred. -/
def transferEncoding (p : MailPart) : String :=
  if p.isAscii then "7bit" else "base64"

end MailPart

/-- An email with the way to its server. -/
structure Mail where
  subject : String
  sender : String
  recipients : List String
  parts : List MailPart
  server : String
  port : Int
  username? : Option String
  password? : Option String
  useTls : Bool
  startTls : Bool

/-- A text, or nothing if it is empty. -/
def nonEmpty? (s : String) : Option String :=
  if s.isEmpty then none else some s

/-- The subject of an alert email. -/
def Notice.subject (n : Notice) : String :=
  let mark := if n.event = .escalated then "Escalation: " else ""
  "[" ++ n.alert.severity.name ++ "] " ++ mark ++ n.rule.name

/-- The email about an alert. A connection encrypted from the start is not encrypted again. -/
def Mail.ofNotice (c : EmailConfig) (n : Notice) (recipients : List String) : Mail where
  subject := n.subject
  sender := c.fromName ++ " <" ++ c.fromAddress ++ ">"
  recipients := recipients
  parts := [⟨.plain, n.alert.message⟩, ⟨.markup, emailBody n.alert n.rule⟩]
  server := c.server
  port := c.port
  username? := nonEmpty? c.username
  password? := nonEmpty? c.password
  useTls := c.useTls
  startTls := c.startTls && !c.useTls

end TelemetryAlerts
