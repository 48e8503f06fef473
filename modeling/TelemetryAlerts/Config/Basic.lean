import TelemetryAlerts.Json.Basic
import TelemetryAlerts.Number.Rounding

/-!
# Configuration

What can be configured, with the value of each item when it is left out.
-/

namespace TelemetryAlerts

/-- A number of seconds. A default is a whole number and is shown as one; a configured
number is a float. -/
inductive Seconds where
  | whole (n : Nat)
  | exact (x : Float)

namespace Seconds

/-- The number of seconds as a float. -/
def toFloat : Seconds → Float
  | whole n => Number.ofRatio false n 1
  | exact x => x

/-- The number as it was declared. -/
def toJson : Seconds → Json
  | whole n => .int n
  | exact x => .float x

end Seconds

/-- How the evaluation runs. -/
structure EngineConfig where
  interval : Seconds := .whole 30
  errorBackoff : Seconds := .whole 10
  fetchTimeout : Seconds := .whole 10
  storeTimeout : Seconds := .whole 15
  tenantConcurrency : Int := 1

/-- Whether an alert is escalated more than once. -/
structure EscalationConfig where
  again : Bool := true

/-- Where telemetry is asked for. -/
structure QueryConfig where
  url : String := ""
  timeout : Seconds := .exact 10

/-- How email is sent. -/
structure EmailConfig where
  enabled : Bool := true
  server : String := "localhost"
  port : Int := 587
  fromAddress : String := "alerts@localhost"
  fromName : String := "Alert Engine"
  username : String := ""
  password : String := ""
  useTls : Bool := false
  startTls : Bool := true

/-- How web hooks are called. -/
structure WebhookConfig where
  timeout : Seconds := .whole 30
  maxRetries : Int := 3
  retryDelay : Seconds := .exact 1

/-- How text messages are sent. -/
structure SmsConfig where
  account : String := ""
  token : String := ""
  fromNumber : String := ""

/-- Where alerts are published. -/
structure InAppConfig where
  channelRoot : String := "alertengine:inapp"

/-- How notifications are sent. -/
structure NotificationConfig where
  sendTimeout : Seconds := .whole 30
  email : EmailConfig := {}
  webhook : WebhookConfig := {}
  sms : SmsConfig := {}
  inApp : InAppConfig := {}

/-- The whole configuration. -/
structure Config where
  engine : EngineConfig := {}
  escalation : EscalationConfig := {}
  query : QueryConfig := {}
  notifications : NotificationConfig := {}

/-- How seconds are shown in a document: as declared, or all as floats. -/
abbrev SecondsView := Seconds → Json

/-- All seconds as floats. -/
def SecondsView.floats : SecondsView := fun s => .float s.toFloat

/-- Engine settings as a document. -/
def EngineConfig.toJson (view : SecondsView) (c : EngineConfig) : Json :=
  .obj [
    ("interval_seconds", view c.interval),
    ("error_backoff_seconds", view c.errorBackoff),
    ("fetch_timeout_seconds", view c.fetchTimeout),
    ("repository_timeout_seconds", view c.storeTimeout),
    ("tenant_concurrency", .int c.tenantConcurrency)]

/-- Escalation settings as a document. -/
def EscalationConfig.toJson (c : EscalationConfig) : Json :=
  .obj [("repeat", .bool c.again)]

/-- Web hook settings as a document. -/
def WebhookConfig.toJson (view : SecondsView) (c : WebhookConfig) : Json :=
  .obj [
    ("timeout_seconds", view c.timeout),
    ("max_retries", .int c.maxRetries),
    ("retry_delay_seconds", view c.retryDelay)]

/-- Email settings as a document. -/
def EmailConfig.toJson (c : EmailConfig) : Json :=
  .obj [
    ("enabled", .bool c.enabled),
    ("smtp_server", .str c.server),
    ("smtp_port", .int c.port),
    ("from_address", .str c.fromAddress),
    ("from_name", .str c.fromName),
    ("username", .str c.username),
    ("password", .str c.password),
    ("use_tls", .bool c.useTls),
    ("start_tls", .bool c.startTls)]

/-- Text message settings as a document. -/
def SmsConfig.toJson (c : SmsConfig) : Json :=
  .obj [
    ("account_sid", .str c.account),
    ("auth_token", .str c.token),
    ("from_number", .str c.fromNumber)]

/-- The whole configuration as a document. -/
def Config.toJson (c : Config) : Json :=
  let view := SecondsView.floats
  .obj [
    ("engine", c.engine.toJson view),
    ("escalation", c.escalation.toJson),
    ("query_api", .obj [("url", .str c.query.url), ("timeout", view c.query.timeout)]),
    ("notifications", .obj [
      ("send_timeout_seconds", view c.notifications.sendTimeout),
      ("email", c.notifications.email.toJson),
      ("webhook", c.notifications.webhook.toJson view),
      ("sms", c.notifications.sms.toJson),
      ("inapp", .obj [("channel_prefix", .str c.notifications.inApp.channelRoot)])])]

end TelemetryAlerts
