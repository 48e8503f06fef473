import TelemetryAlerts.Text.Blank
import TelemetryAlerts.Text.Case
import TelemetryAlerts.Text.Digit

/-!
# Recipients by form of address

A recipient is sorted by how its address looks; one that looks like two kinds is of both.
-/

namespace TelemetryAlerts

/-- The channels that notifications can take. -/
inductive Channel where
  | email
  | webhook
  | sms
  | inApp
deriving Repr, DecidableEq

namespace Channel

/-- The name under which a channel is listed. -/
def name : Channel → String
  | email => "email"
  | webhook => "webhook"
  | sms => "sms"
  | inApp => "inapp"

/-- Channels by name, in any case and with blanks around it. -/
def ofName? (s : String) : Option Channel :=
  match Text.lower (Text.trim s) with
  | "email" => some email
  | "webhook" => some webhook
  | "sms" => some sms
  | "inapp" => some inApp
  | _ => none

/-- Whether an address is of the form that a channel delivers to. -/
def accepts (c : Channel) (recipient : String) : Bool :=
  match c with
  | email => recipient.toList.contains '@'
  | webhook => Text.startsWith (Text.lower recipient) "http"
  | sms => Text.startsWith recipient "+" ||
      (recipient != "" && recipient.toList.all Text.isDigit)
  | inApp => false

/-- The recipients of a channel, without the blanks around them and without empty ones. -/
def recipients (c : Channel) (all : List String) : List String :=
  (all.map Text.trim).filter fun r => r != "" && c.accepts r

end Channel
end TelemetryAlerts
