import TelemetryAlerts.Notification.Transport
import TelemetryAlerts.Json.Writer

/-!
# Delivering through the channels

How each channel delivers one notice to its recipients. A channel with several separate
deliveries fails only if all of them do, which is the case for no recipients at all.
-/

namespace TelemetryAlerts

/-- Sends an email about an alert. -/
def EmailConfig.deliver (c : EmailConfig) (n : Notice) (recipients : List String) :
    Delivery Unit := do
  if c.enabled then
    liftM (← Delivery.step (.mail (Mail.ofNotice c n recipients)))
  else throw (.delivery .emailDisabled)

/-- How many of several deliveries failed. -/
def failures (outcomes : List (Outcome Unit)) : Nat :=
  (outcomes.filter fun o => !o.isOk).length

/-- Carries out deliveries one after the other, whatever becomes of each. -/
def deliverEach (deliver : String → Delivery Unit) : List String → Delivery (List (Outcome Unit))
  | [] => pure []
  | r :: rest => do
    let outcome ← (deliver r).outcome
    pure (outcome :: (← deliverEach deliver rest))

/-- Delivers to each recipient, and fails if every delivery does. -/
def deliverToAny (deliver : String → Delivery Unit) (fault : Nat → DeliveryFault)
    (recipients : List String) : Delivery Unit := do
  let failed := failures (← deliverEach deliver recipients)
  if failed = recipients.length then throw (.delivery (fault failed))

namespace WebhookConfig

/-- Statuses after which another attempt is made. -/
def retryStatuses : List Int := [429, 500, 502, 503, 504]

/-- How many attempts are made at one address. -/
def attempts (c : WebhookConfig) : Nat :=
  max 1 c.maxRetries.toNat

/-- Whether another attempt may help. -/
def worthRetrying : Outcome Web.Reply → Bool
  | .ok r => retryStatuses.contains r.status
  | .error e => e.isTransportFault

/-- Makes an attempt and, while it may help, as many more as are left; the wait grows with
each attempt. -/
def post (c : WebhookConfig) (a : Web.Address) (document : Json) (attempt : Nat) :
    Nat → Delivery Unit
  | 0 => do
    let reply ← liftM (← Delivery.step (.post a document))
    let _ ← liftM (Web.Reply.orBadStatus reply)
  | left + 1 => do
    let outcome ← Delivery.step (.post a document)
    if worthRetrying outcome then
      Delivery.step (.wait (c.retryDelay.toFloat * Number.ofRatio false attempt 1))
      post c a document (attempt + 1) left
    else
      let reply ← liftM outcome
      let _ ← liftM (Web.Reply.orBadStatus reply)

/-- The address that a recipient gives. -/
def address (url : String) : Outcome Web.Address :=
  match (Web.Address.ofText? url).bind fun a => Web.Address.empty.resolve? a with
  | some a => .ok a
  | none => .error .invalidAddress

/-- Calls one web hook. -/
def call (c : WebhookConfig) (document : Json) (url : String) : Delivery Unit := do
  let a ← liftM (address url)
  if document.allFinite then post c a document 1 (c.attempts - 1)
  else throw (.kind .unusableValue)

/-- Calls the web hooks of all recipients. -/
def deliver (c : WebhookConfig) (n : Notice) (recipients : List String) : Delivery Unit :=
  deliverToAny (c.call n.payload) .webhooksFailed recipients

end WebhookConfig

namespace SmsConfig

/-- Whether text messages can be sent. -/
def isConfigured (c : SmsConfig) : Bool :=
  !c.account.isEmpty && !c.token.isEmpty && !c.fromNumber.isEmpty

/-- The text of a text message. -/
def body (n : Notice) : String :=
  "[" ++ n.alert.severity.name ++ "] " ++ n.rule.name ++ ": " ++ n.alert.message

/-- Sends text messages, after signing in unless that has been done. -/
def deliver (c : SmsConfig) (signedIn : Bool) (n : Notice) (recipients : List String) :
    Delivery Unit := do
  if !signedIn then
    if c.isConfigured then Delivery.step (.signIn c.account c.token)
    else throw (.delivery .smsNotConfigured)
  deliverToAny
    (fun number => do liftM (← Delivery.step (.text ⟨number, c.fromNumber, body n⟩)))
    .smsFailed recipients

end SmsConfig

namespace InAppConfig

/-- The channel on which a tenant's alerts are published. -/
def channelOf (c : InAppConfig) (tenant : String) : String :=
  c.channelRoot ++ ":" ++ tenant

/-- The message that is published. -/
def message (n : Notice) : Json :=
  .obj (("type", .str n.event.name) :: n.payloadFields)

/-- Publishes an alert. -/
def deliver (c : InAppConfig) (n : Notice) : Delivery Unit := do
  liftM (← Delivery.step (.publish (c.channelOf n.alert.tenant)
    ((message n).write Json.Style.message)))

end InAppConfig
end TelemetryAlerts
