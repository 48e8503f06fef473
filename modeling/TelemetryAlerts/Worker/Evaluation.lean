import TelemetryAlerts.Worker.Call
import TelemetryAlerts.Evaluation.Condition
import TelemetryAlerts.Evaluation.Lifecycle
import TelemetryAlerts.Config.Basic

/-!
# Evaluating rules

One cycle goes through the tenants, their enabled rules, and the devices of each rule;
for each device the latest telemetry is compared with the rule's conditions, and the
alert of the rule and the device is moved on. A failure at one device, rule or tenant is
counted and does not reach the others.
-/

namespace TelemetryAlerts
namespace Worker

/-- The first occurrence of each item. -/
def withoutRepeats : List String → List String
  | [] => []
  | s :: rest => s :: (withoutRepeats rest).filter (· != s)

/-- The devices of several types, one type after the other. -/
def devicesOfTypes (tenant : String) : List String → WorkerAction (List String)
  | [] => pure []
  | t :: rest => do
    let here ← (ExceptT.mk (Program.perform (Call.devicesOfType tenant t)) : WorkerAction _)
    pure (here ++ (← devicesOfTypes tenant rest))

/-- The devices that a rule watches, each once. -/
def applicableDevices (r : Rule) : WorkerAction (List String) :=
  match r.target with
  | .device => pure (withoutRepeats r.devices)
  | .deviceType => do
    pure (withoutRepeats (← devicesOfTypes r.tenant r.deviceTypes))

/-- The latest telemetry of a device; nothing if it cannot be had. -/
def fetch (device tenant : String) : WorkerAction Snapshot := do
  match ← WorkerAction.ask (.telemetry device tenant) with
  | .ok s => pure s
  | .error _ => pure []

/-- The alert that a rule raises for a device. -/
def raisedAlert (id : String) (r : Rule) (device : String) (s : Snapshot) (now : Moment) : Alert where
  id := id
  tenant := r.tenant
  rule := r.id
  device := device
  status := .active
  severity := r.severityFor s
  message := "Alert triggered: " ++ r.name
  details := r.description?.getD ""
  readings := s
  triggeredAt := now
  updatedAt := now
  acknowledgedAt? := none
  acknowledgedBy? := none
  acknowledgmentNotes? := none
  resolvedAt? := none
  resolutionNotes? := none
  notifications := 0
  escalations := 0
  lastEscalatedAt? := none

/-- Sends a notification and records how many channels delivered it. -/
def recordDelivered (a : Alert) (report : Report) : WorkerAction Unit :=
  if report.delivered.isEmpty then pure ()
  else WorkerAction.store (.recordNotifications a.id a.tenant report.delivered.length)

/-- Raises an alert and tells about it. -/
def trigger (r : Rule) (device : String) (s : Snapshot) (now : Moment) : WorkerAction Unit := do
  let id ← WorkerAction.ask .freshId
  let a := raisedAlert id r device s now
  WorkerAction.store (.create a)
  WorkerAction.count .alertsTriggered
  let report ← WorkerAction.ask (.dispatch (Dispatch.ofTrigger a r))
  recordDelivered a report

/-- Ends an alert whose conditions no longer hold. -/
def resolve (a : Alert) : WorkerAction Unit := do
  if ← WorkerAction.store (.resolve a.id a.tenant (some autoResolveReason)) then
    WorkerAction.count .alertsResolved

/-- Tells about an alert again. -/
def escalate (a : Alert) (r : Rule) (now : Moment) : WorkerAction Unit := do
  let report ← WorkerAction.ask (.dispatch (Dispatch.ofEscalation a r))
  WorkerAction.store (.markEscalated a.id a.tenant now)
  WorkerAction.count .escalations
  recordDelivered a report

/-- Carries out a transition. -/
def apply (t : Transition) (open? : Option Alert) (r : Rule) (device : String) (s : Snapshot)
    (now : Moment) : WorkerAction Unit :=
  match t, open? with
  | .trigger, _ => trigger r device s now
  | .suppress, _ => WorkerAction.count .alertsSuppressed
  | .resolve, some a => resolve a
  | .escalate, some a => escalate a r now
  | _, _ => pure ()

/-- Looks at the alert of a rule and a device, and moves it on. -/
def settle (again : Bool) (r : Rule) (device : String) (s : Snapshot) : WorkerAction Transition := do
  let openAlerts ← WorkerAction.store (.openOn r.tenant device)
  let open? := openAlerts.find? fun a => a.rule == r.id
  let fires := r.fires s
  let now ← WorkerAction.ask .now
  let last? ←
    if open?.isNone && fires then WorkerAction.store (.latestOf r.id device) else pure none
  let t ← liftM (timed (Transition.choose open? fires last? r now again))
  apply t open? r device s now
  pure t

/-- Evaluates a rule for a device. -/
def evaluateDevice (again : Bool) (r : Rule) (device : String) : WorkerAction Transition := do
  let s ← fetch device r.tenant
  if s.isEmpty then pure .none
  else WorkerAction.locked r.id device (settle again r device s)

/-- Evaluates a rule for devices one after the other. -/
def evaluateDevices (again : Bool) (r : Rule) : List String → WorkerAction Unit
  | [] => pure ()
  | device :: rest => do
    WorkerAction.counted (do let _ ← evaluateDevice again r device)
    evaluateDevices again r rest

/-- Evaluates a rule for every device that it watches. -/
def evaluateRule (again : Bool) (r : Rule) : WorkerAction Unit := do
  let devices? ← tryCatch (some <$> applicableDevices r) fun _ => do
    WorkerAction.count .errors
    pure none
  match devices? with
  | none => pure ()
  | some devices =>
    evaluateDevices again r devices
    WorkerAction.count .rulesEvaluated

/-- Evaluates rules one after the other. -/
def evaluateRules (again : Bool) : List Rule → WorkerAction Unit
  | [] => pure ()
  | r :: rest => do
    evaluateRule again r
    evaluateRules again rest

/-- Evaluates every enabled rule of a tenant. -/
def evaluateTenant (again : Bool) (tenant : String) : WorkerAction Unit :=
  WorkerAction.counted do
    let rules ← (ExceptT.mk (Program.perform (Call.enabledRules tenant)) : WorkerAction _)
    evaluateRules again rules

/-- Evaluates tenants one after the other, until the worker is stopped. -/
def evaluateTenants (again : Bool) : List String → WorkerAction Unit
  | [] => pure ()
  | tenant :: rest => do
    if ← WorkerAction.ask .isStopping then pure ()
    else
      evaluateTenant again tenant
      evaluateTenants again rest

/-- Evaluates a tenant unless the worker is stopped. -/
def evaluateUnlessStopping (again : Bool) (tenant : String) : WorkerAction Unit := do
  if ← WorkerAction.ask .isStopping then pure () else evaluateTenant again tenant

/-- The tenants of a cycle. -/
def listTenants : WorkerAction (List String) :=
  ExceptT.mk (Program.perform Call.tenants)

/-- Evaluates the tenants of a cycle, one at a time unless more are allowed. -/
def evaluateAll (config : EngineConfig) (again : Bool) (tenants : List String) :
    WorkerAction Unit :=
  if config.tenantConcurrency ≤ 1 then evaluateTenants again tenants
  else WorkerAction.ask (.together config.tenantConcurrency.toNat again tenants)

/-- One cycle. -/
def cycle (config : EngineConfig) (again : Bool) : WorkerAction Unit := do
  evaluateAll config again (← listTenants)
  WorkerAction.ask .endCycle

/-- One cycle and the wait after it; a failed cycle is counted, and the wait is another.
The result tells whether the worker was stopped. -/
def turn (config : EngineConfig) (runCycle : WorkerAction Unit) : WorkerAction Bool := do
  let wait ← tryCatch (do runCycle; pure config.interval) fun _ => do
    WorkerAction.count .errors
    pure config.errorBackoff
  WorkerAction.ask (.sleep wait.toFloat)

/-- At most a number of turns, until the worker is stopped. -/
def run (config : EngineConfig) (runCycle : WorkerAction Unit) : Nat → WorkerAction Unit
  | 0 => pure ()
  | n + 1 => do
    if ← WorkerAction.ask .isStopping then pure ()
    else if ← turn config runCycle then pure ()
    else run config runCycle n

end Worker
end TelemetryAlerts
