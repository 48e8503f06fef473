import TelemetryAlerts.Config.Settings
import TelemetryAlerts.Rehearsal.Schedule
import TelemetryAlerts.Service.Answer
import TelemetryAlerts.Web.Form

/-!
# A rehearsed installation

The whole engine as it is put together from settings and files: the worker with the real
channels, its schedule, and the service in front of it. The outside, that is mail, text
messages, web hooks and the telemetry service, is scripted, and what reaches it is noted.
-/

namespace TelemetryAlerts
namespace Rehearsal

/-- The files of an installation. -/
structure Files where
  config : ConfigFile := .missing
  rules : ConfigFile := .missing
  devices : ConfigFile := .missing

/-- A putting together of the engine with its surroundings. -/
structure Installation where
  stage : Stage
  config : Config := {}

namespace Installation

/-- The source of telemetry: the service, or made up readings while the engine is being
developed and no service is named. -/
def telemetrySource (settings : Settings) (c : Config) : TelemetrySource :=
  if settings.developing && c.query.url.isEmpty then .simulated else .service c.query.url

/-- All channels as they are configured. -/
def realSenders : List (String × Sender) :=
  [.email, .webhook, .sms, .inApp].map fun c : Channel => (c.name, .real c)

/-- Puts the engine together in its surroundings. A given source of telemetry takes the
place of the one that the settings call for. -/
def assemble (settings : Settings) (files : Files) (given? : Option TelemetrySource)
    (w : World) : Outcome Installation := do
  let c ← Config.load files.config
  pure {
    config := c
    stage := {
      escalation := c.escalation
      world := { w with
        memory? := if settings.store == "redis" then none else some {}
        rules := .file files.rules
        devices := .file files.devices
        telemetry := given?.getD (telemetrySource settings c)
        engine := c.engine
        notifications := c.notifications
        senders := realSenders
        sendTimeout := c.notifications.sendTimeout.toFloat } } }

/-- Turns the schedule on. -/
def start (n : Installation) : Outcome Installation :=
  match n.stage.startSchedule with
  | (.ok _, s) => .ok { n with stage := s }
  | (.error e, _) => .error e

/-- Stops the worker and turns the schedule off. -/
def close (n : Installation) : Installation :=
  { n with stage := n.stage.stopSchedule }

/-- Runs the loop of cycles alone, without the service, until a number of waits is over, and
then closes. -/
def runLoop (waits : Nat) (n : Installation) : Outcome Unit × Installation :=
  let (o, s) := n.stage.loop waits
  (o, close { n with stage := s })

/-- Does something in the surroundings. -/
def inWorld {α : Type} (p : Play α) (n : Installation) : α × Installation :=
  let (a, s) := n.stage.inWorld p
  (a, { n with stage := s })

/-- Asks the telemetry service whether it is well. -/
def telemetryHealth (url : String) : Play (Outcome Bool) := fun w =>
  match Query.base url with
  | .ok base => World.onService (Query.isHealthy base) w
  | .error e => (.error e, w)

/-- Serves a call of the service. -/
def handle (c : Service.Call) (n : Installation) : c.Reply × Installation :=
  match c with
  | .store r => n.inWorld (World.request r)
  | .isScheduled => (n.stage.nextRun?.isSome, n)
  | .stats => (n.stage.world.stats, n)
  | .telemetryHealth url => n.inWorld (telemetryHealth url)
  | .runNow =>
    let (o, s) := n.stage.runNow
    (o, { n with stage := s })

/-- Answers an inquiry. -/
def answer (i : Service.Inquiry) (n : Installation) : Service.Response × Installation :=
  Program.run handle (Service.answer n.config i) n

end Installation

/-- The root under which the service is found. -/
def serviceRoot : Web.Address :=
  { Web.Address.empty with scheme := "http".toList, host := "service".toList, path := ['/'] }

/-- The inquiry to a reference, if it is one and its headers can be sent. -/
def inquiryOf (method reference : String) (headers : List (String × String))
    (body : List UInt8) : Outcome Service.Inquiry := do
  let address ← Query.endpoint serviceRoot reference
  if headers.all fun h => Query.fitsHeader h.1 && Query.fitsHeader h.2 then
    pure {
      method := method
      path := address.plainPath
      query := address.fields
      headers := headers
      body := body }
  else throw .unencodableHeader

end Rehearsal
end TelemetryAlerts
