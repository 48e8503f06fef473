import TelemetryAlerts.Program
import TelemetryAlerts.Store.Request
import TelemetryAlerts.Notification.Report
import TelemetryAlerts.Telemetry.Reading

/-!
# What the worker asks of its surroundings

The calls that an evaluation makes: to the catalog, the telemetry source, the store, the
channels, the clock and the worker's own counters and locks.
-/

namespace TelemetryAlerts

/-- The counters of a worker. -/
inductive Counter where
  | rulesEvaluated
  | alertsTriggered
  | alertsResolved
  | alertsSuppressed
  | escalations
  | errors
deriving Repr, DecidableEq

/-- The counts of a worker, and when its last cycle ended. -/
structure Stats where
  cycles : Nat := 0
  rulesEvaluated : Nat := 0
  alertsTriggered : Nat := 0
  alertsResolved : Nat := 0
  alertsSuppressed : Nat := 0
  escalations : Nat := 0
  errors : Nat := 0
  lastCycleAt? : Option Moment := none

namespace Stats

/-- Counts one event more. -/
def count (s : Stats) : Counter → Stats
  | .rulesEvaluated => { s with rulesEvaluated := s.rulesEvaluated + 1 }
  | .alertsTriggered => { s with alertsTriggered := s.alertsTriggered + 1 }
  | .alertsResolved => { s with alertsResolved := s.alertsResolved + 1 }
  | .alertsSuppressed => { s with alertsSuppressed := s.alertsSuppressed + 1 }
  | .escalations => { s with escalations := s.escalations + 1 }
  | .errors => { s with errors := s.errors + 1 }

/-- The counts as a document. -/
def toJson (s : Stats) : Json :=
  .obj [
    ("cycles", .int s.cycles),
    ("rules_evaluated", .int s.rulesEvaluated),
    ("alerts_triggered", .int s.alertsTriggered),
    ("alerts_resolved", .int s.alertsResolved),
    ("alerts_suppressed", .int s.alertsSuppressed),
    ("escalations", .int s.escalations),
    ("errors", .int s.errors),
    ("last_cycle_at", .ofText? (s.lastCycleAt?.map Moment.text))]

end Stats

/-- A call of the worker. -/
inductive Call where
  | tenants
  | enabledRules (tenant : String)
  | devicesOfType (tenant deviceType : String)
  | telemetry (device tenant : String)
  | store (r : Request)
  | dispatch (d : Dispatch)
  | now
  | freshId
  | count (c : Counter)
  | isStopping
  /-- Waits until nobody else holds the lock of a rule and a device, and takes it. -/
  | acquire (rule device : String)
  | release (rule device : String)
  /-- Evaluates tenants side by side, at most a number of them at a time. -/
  | together (limit : Nat) (again : Bool) (tenants : List String)
  /-- Drops the locks that nobody holds, and notes that a cycle has ended. -/
  | endCycle
  /-- Waits, and tells whether the worker was stopped meanwhile. -/
  | sleep (seconds : Float)

/-- The type of the reply to a call. -/
abbrev Call.Reply : Call → Type
  | .tenants => Outcome (List String)
  | .enabledRules _ => Outcome (List Rule)
  | .devicesOfType _ _ => Outcome (List String)
  | .telemetry _ _ => Outcome Snapshot
  | .store r => Outcome r.Reply
  | .dispatch _ => Report
  | .now => Moment
  | .freshId => String
  | .count _ => Unit
  | .isStopping => Bool
  | .acquire _ _ => Unit
  | .release _ _ => Unit
  | .together _ _ _ => Unit
  | .endCycle => Unit
  | .sleep _ => Bool

/-- A program of the worker that can fail. -/
abbrev WorkerAction (α : Type) := ExceptT Failure (Program Call Call.Reply) α

namespace WorkerAction

variable {α : Type}

/-- A call that cannot fail. -/
def ask (c : Call) : WorkerAction c.Reply :=
  ExceptT.lift (Program.perform c)

/-- A request to the alert store. -/
def store (r : Request) : WorkerAction r.Reply :=
  ExceptT.mk (Program.perform (Call.store r))

/-- Counts an event. -/
def count (c : Counter) : WorkerAction Unit :=
  ask (.count c)

/-- Holds the lock of a rule and a device during an action, whatever becomes of it. -/
def locked (rule device : String) (a : WorkerAction α) : WorkerAction α :=
  ExceptT.mk do
    let () ← Program.perform (Call.acquire rule device)
    let result ← ExceptT.run a
    let () ← Program.perform (Call.release rule device)
    pure result

/-- An action whose failure is only counted. -/
def counted (a : WorkerAction Unit) : WorkerAction Unit :=
  tryCatch a fun _ => count .errors

end WorkerAction
end TelemetryAlerts
