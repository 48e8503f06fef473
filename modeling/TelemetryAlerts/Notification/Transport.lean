import TelemetryAlerts.Notification.Mail
import TelemetryAlerts.Program
import TelemetryAlerts.Web.Exchange

/-!
# What channels ask of the outside

The steps by which channels deliver: emails, web requests, text messages and published
messages.
-/

namespace TelemetryAlerts

/-- A text message. -/
structure TextMessage where
  recipient : String
  sender : String
  body : String
deriving Repr, DecidableEq

/-- A step of a delivery. -/
inductive Transport where
  | mail (m : Mail)
  /-- Sends a document to an address; the reply's status comes back. -/
  | post (address : Web.Address) (document : Json)
  | wait (seconds : Float)
  /-- Signs in at the text message service. -/
  | signIn (account token : String)
  | text (m : TextMessage)
  | publish (channel text : String)

/-- The type of the reply to a step. -/
abbrev Transport.Reply : Transport → Type
  | .mail _ => Outcome Unit
  | .post _ _ => Outcome Web.Reply
  | .wait _ => Unit
  | .signIn _ _ => Unit
  | .text _ => Outcome Unit
  | .publish _ _ => Outcome Unit

/-- A delivery, which can fail. -/
abbrev Delivery (α : Type) := ExceptT Failure (Program Transport Transport.Reply) α

namespace Delivery

/-- A step that cannot fail. -/
def step (t : Transport) : Delivery t.Reply :=
  ExceptT.lift (Program.perform t)

/-- What becomes of a delivery, as a value. -/
def outcome {α : Type} (d : Delivery α) : Delivery (Outcome α) :=
  ExceptT.lift (ExceptT.run d)

end Delivery
end TelemetryAlerts
