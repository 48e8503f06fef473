import TelemetryAlerts.Document.Checked
import TelemetryAlerts.Evaluation.Lifecycle

/-!
# Failures

Every way in which an operation of the engine can fail. A failure names its cause; the
text that is shown for it, where there is one, is a function of the cause.
-/

namespace TelemetryAlerts

/-- Which stage of reading a configuration file refuses it. -/
inductive MarkupStage where
  | characters
  | tokens
  | grammar
  | references
  | values
deriving Repr, DecidableEq

/-- Why a channel could not deliver. -/
inductive DeliveryFault where
  | emailDisabled
  | webhooksFailed (count : Nat)
  | smsNotConfigured
  | smsFailed (count : Nat)
deriving Repr, DecidableEq

/-- Why something given is not of the kind that an operation works on. -/
inductive KindFault where
  /-- A mapping with text keys, or a value to go through item by item, was expected. -/
  | notIterable
  /-- A value lacks an operation that it should have. -/
  | noSuchOperation
  /-- A mapping lacks a key. -/
  | noSuchKey
  /-- A value is not of any use where it is given. -/
  | unusableValue
deriving Repr, DecidableEq

/-- Why an operation failed. -/
inductive Failure where
  /-- A call took longer than it may, or was given no time at all. -/
  | timedOut
  /-- A fault was put in on purpose. -/
  | injected
  /-- The rule already has an open alert for the device. -/
  | openAlertExists (rule device : String)
  /-- No decision about times is possible. -/
  | time (fault : TimeFault)
  /-- A document is not a valid record of the named kind. -/
  | invalid (record : String) (complaints : List Complaint)
  /-- A stored text is no document. -/
  | malformedDocument
  /-- Bytes are no text in the encoding that they announce. -/
  | undecodable
  /-- A key holds a value of another kind than the command works on. -/
  | wrongKind
  | storeNotConnected
  | clientNotOpen
  /-- A text names no status or severity. -/
  | unknownName
  /-- A text makes no web address. -/
  | invalidAddress
  /-- A web request was answered with a status that is no success. -/
  | badStatus (status : Int)
  /-- A web request failed; the name tells how. -/
  | request (name : String)
  /-- A reply came from an address that names no protocol. -/
  | namelessProtocol
  /-- A text cannot be sent as a header. -/
  | unencodableHeader
  | delivery (fault : DeliveryFault)
  /-- No sender is registered for a channel. -/
  | noSender (channel : String)
  | kind (fault : KindFault)
  | markup (stage : MarkupStage)
  /-- A path names a directory. -/
  | directory
  /-- A number cannot be given as a whole number. -/
  | numberTooLarge
deriving Repr, DecidableEq

namespace Failure

/-- The text that is shown for a failure, if there is one. -/
def message? : Failure → Option String
  | openAlertExists rule device =>
    some ("open alert already exists for rule " ++ rule ++ " on device " ++ device)
  | storeNotConnected => some "Redis client not connected"
  | clientNotOpen => some "Client not initialized. Use 'async with' context manager."
  | delivery .emailDisabled => some "email delivery is disabled"
  | delivery (.webhooksFailed n) => some ("all " ++ toString n ++ " webhook deliveries failed")
  | delivery .smsNotConfigured => some "SMS provider credentials are not configured"
  | delivery (.smsFailed n) => some ("all " ++ toString n ++ " SMS deliveries failed")
  | _ => none

end Failure

/-- The result of an operation that can fail. -/
abbrev Outcome (α : Type) := Except Failure α

/-- A checked record, or the failure with all complaints about it. -/
def Checked.orInvalid {α : Type} (record : String) : Checked α → Outcome α
  | .ok a => .ok a
  | .bad complaints => .error (.invalid record complaints)

/-- A result that depends on times, with its failure in common terms. -/
def timed {α : Type} : Except TimeFault α → Outcome α
  | .ok a => .ok a
  | .error fault => .error (.time fault)

end TelemetryAlerts
