import TelemetryAlerts.Config.Basic
import TelemetryAlerts.Service.AlertTask
import TelemetryAlerts.Worker.Call

/-!
# Answering inquiries

The service as a whole: an inquiry is brought to its page, and the page answers by calls to
the engine behind the service.
-/

namespace TelemetryAlerts
namespace Service

/-- What the service asks of the engine behind it. -/
inductive Call where
  | store (r : Request)
  /-- Whether cycles run on a schedule. -/
  | isScheduled
  | stats
  /-- Whether the telemetry service at an address says that it is well. -/
  | telemetryHealth (url : String)
  /-- Runs one cycle at once. -/
  | runNow

/-- The type of the reply to a call. -/
abbrev Call.Reply : Call → Type
  | .store r => Outcome r.Reply
  | .isScheduled => Bool
  | .stats => Stats
  | .telemetryHealth _ => Outcome Bool
  | .runNow => Outcome Unit

/-- Work of the service. -/
abbrev Action (α : Type) := Program Call Call.Reply α

/-- A call to the engine. -/
def ask (c : Call) : Action c.Reply :=
  Program.perform c

/-- How the engine fares. -/
def reportHealth : Action Response := do
  let isScheduled ← ask .isScheduled
  let stats ← ask .stats
  pure (.ofDocument 200 (.obj [
    ("status", .str "healthy"),
    ("service", .str "alertengine"),
    ("scheduler_running", .bool isScheduled),
    ("counters", stats.toJson)]))

/-- The configuration without its secrets. -/
def openConfig (c : Config) : Json :=
  let view : SecondsView := Seconds.toJson
  let url := if c.query.url.isEmpty then "(not configured)" else c.query.url
  .obj [
    ("engine", c.engine.toJson view),
    ("escalation", c.escalation.toJson),
    ("query_api", .obj [("url", .str url), ("timeout", view c.query.timeout)]),
    ("notifications", .obj [
      ("email", .obj [
        ("enabled", .bool c.notifications.email.enabled),
        ("smtp_server", .str c.notifications.email.server)]),
      ("sms", .obj [("has_credentials", .bool (!c.notifications.sms.account.isEmpty))]),
      ("webhook", c.notifications.webhook.toJson view)])]

/-- A finding of a test. -/
def finding (status message : String) : Response :=
  .ofDocument 200 (.obj [("status", .str status), ("message", .str message)])

/-- Whether the telemetry service can be reached. -/
def testTelemetry (c : Config) : Action Response := do
  let url := c.query.url
  if url.isEmpty then
    pure (finding "not_configured" "Query API URL not set in config.yaml")
  else
    match ← ask (.telemetryHealth url) with
    | .ok true => pure (finding "ok" ("Connected to query API at " ++ url))
    | .ok false => pure (finding "error" "Health check failed")
    | .error _ => pure (finding "error" "Connection failed. Check server logs for details.")

/-- Runs one cycle. -/
def evaluateNow : Action Response := do
  match ← ask .runNow with
  | .error _ => pure .failed
  | .ok _ =>
    let stats ← ask .stats
    pure (.ofDocument 200 (.obj [("status", .str "ok"), ("stats", stats.toJson)]))

/-- Answers an inquiry to a page. -/
def Page.answer (c : Config) (i : Inquiry) : Page → Action Response
  | .health => reportHealth
  | .alerts p => (p.answer i).interpret fun r => ask (.store r)
  | .config => pure (.ofDocument 200 (openConfig c))
  | .telemetryTest => testTelemetry c
  | .evaluate => evaluateNow

/-- Answers an inquiry with what is found in its place. -/
def Place.answer (c : Config) (i : Inquiry) : Place → Action Response
  | .page p => p.answer c i
  | .otherMethod => pure (.saying 405 "Method Not Allowed")
  | .slashesMore => pure .elsewhere
  | .nothing => pure (.saying 404 "Not Found")

/-- Answers an inquiry; one that asks for the head only gets no content. -/
def answer (c : Config) (i : Inquiry) : Action Response := do
  let response ← (Place.find i.method i.path).answer c i
  pure (if i.method = "HEAD" then response.withoutContent else response)

end Service
end TelemetryAlerts
