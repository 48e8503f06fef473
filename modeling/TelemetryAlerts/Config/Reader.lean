import TelemetryAlerts.Config.Basic
import TelemetryAlerts.Document.Scalar
import TelemetryAlerts.Failure

/-!
# Reading configuration documents
-/

namespace TelemetryAlerts

variable {α : Type} [Document α]

/-- A number of seconds. -/
def Document.seconds (v : α) : Checked Seconds :=
  (Document.float v).map .exact

/-- Engine settings in the fields of a record. -/
def EngineConfig.ofEntries (e : Entries α) : Checked EngineConfig :=
  let d : EngineConfig := {}
  EngineConfig.mk
    <$> e.withDefault "interval_seconds" d.interval Document.seconds
    <*> e.withDefault "error_backoff_seconds" d.errorBackoff Document.seconds
    <*> e.withDefault "fetch_timeout_seconds" d.fetchTimeout Document.seconds
    <*> e.withDefault "repository_timeout_seconds" d.storeTimeout Document.seconds
    <*> e.withDefault "tenant_concurrency" d.tenantConcurrency Document.int

/-- Escalation settings in the fields of a record. -/
def EscalationConfig.ofEntries (e : Entries α) : Checked EscalationConfig :=
  EscalationConfig.mk <$> e.withDefault "repeat" true Document.bool

/-- Query service settings in the fields of a record. -/
def QueryConfig.ofEntries (e : Entries α) : Checked QueryConfig :=
  let d : QueryConfig := {}
  QueryConfig.mk
    <$> e.withDefault "url" d.url Document.text
    <*> e.withDefault "timeout" d.timeout Document.seconds

/-- Email settings in the fields of a record. -/
def EmailConfig.ofEntries (e : Entries α) : Checked EmailConfig :=
  let d : EmailConfig := {}
  EmailConfig.mk
    <$> e.withDefault "enabled" d.enabled Document.bool
    <*> e.withDefault "smtp_server" d.server Document.text
    <*> e.withDefault "smtp_port" d.port Document.int
    <*> e.withDefault "from_address" d.fromAddress Document.text
    <*> e.withDefault "from_name" d.fromName Document.text
    <*> e.withDefault "username" d.username Document.text
    <*> e.withDefault "password" d.password Document.text
    <*> e.withDefault "use_tls" d.useTls Document.bool
    <*> e.withDefault "start_tls" d.startTls Document.bool

/-- Web hook settings in the fields of a record. -/
def WebhookConfig.ofEntries (e : Entries α) : Checked WebhookConfig :=
  let d : WebhookConfig := {}
  WebhookConfig.mk
    <$> e.withDefault "timeout_seconds" d.timeout Document.seconds
    <*> e.withDefault "max_retries" d.maxRetries Document.int
    <*> e.withDefault "retry_delay_seconds" d.retryDelay Document.seconds

/-- Text message settings in the fields of a record. -/
def SmsConfig.ofEntries (e : Entries α) : Checked SmsConfig :=
  let d : SmsConfig := {}
  SmsConfig.mk
    <$> e.withDefault "account_sid" d.account Document.text
    <*> e.withDefault "auth_token" d.token Document.text
    <*> e.withDefault "from_number" d.fromNumber Document.text

/-- Publication settings in the fields of a record. -/
def InAppConfig.ofEntries (e : Entries α) : Checked InAppConfig :=
  let d : InAppConfig := {}
  InAppConfig.mk <$> e.withDefault "channel_prefix" d.channelRoot Document.text

/-- Notification settings in the fields of a record. -/
def NotificationConfig.ofEntries (e : Entries α) : Checked NotificationConfig :=
  let d : NotificationConfig := {}
  NotificationConfig.mk
    <$> e.withDefault "send_timeout_seconds" d.sendTimeout Document.seconds
    <*> e.withDefault "email" d.email (Document.record EmailConfig.ofEntries)
    <*> e.withDefault "webhook" d.webhook (Document.record WebhookConfig.ofEntries)
    <*> e.withDefault "sms" d.sms (Document.record SmsConfig.ofEntries)
    <*> e.withDefault "inapp" d.inApp (Document.record InAppConfig.ofEntries)

/-- The whole configuration in the fields of a record. -/
def Config.ofEntries (e : Entries α) : Checked Config :=
  let d : Config := {}
  Config.mk
    <$> e.withDefault "engine" d.engine (Document.record EngineConfig.ofEntries)
    <*> e.withDefault "escalation" d.escalation (Document.record EscalationConfig.ofEntries)
    <*> e.withDefault "query_api" d.query (Document.record QueryConfig.ofEntries)
    <*> e.withDefault "notifications" d.notifications
      (Document.record NotificationConfig.ofEntries)

end TelemetryAlerts
