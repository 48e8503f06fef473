import TelemetryAlerts.Proofs.Worker.Cycle

/-!
# Tasks at one store

Workers evaluate rules, and people acknowledge and resolve alerts by hand, all at one store
of alerts. Their calls come in any order; a task waits only for the lock of a rule and a
device while another task holds it. What the tenants, the devices, the telemetry, the
channels and the clock are is left open call by call: every reply is possible, so the
clock may go backwards, and any of these calls may fail. Of the store, the rules and the
ids that are drawn as much is known as is stated.

Tenants that a cycle evaluates side by side are tasks of their own.

**Results.**
* `Task.safe`: a task keeps up what evaluations and requests by hand keep up.
-/

namespace TelemetryAlerts

open Program (Safe)

/-- A request to a store, the store that it found, and what came of it. -/
structure Exchange (σ : Type) where
  found : σ
  request : Request
  outcome : Outcome request.Reply

/-- What tasks share: the store, what it served so far, who holds the lock of a rule and a
device, and who drew an id. -/
structure Scene (σ ι : Type) where
  store : σ
  served : List (Exchange σ)
  holder : String → String → Option ι
  drawer : String → Option ι

namespace Scene

variable {σ ι : Type}

/-- Nothing has happened yet. -/
def start (s : σ) : Scene σ ι :=
  ⟨s, [], fun _ _ => none, fun _ => none⟩

/-- The lock of a rule and a device is taken or given back. -/
def setHolder (w : Scene σ ι) (rule device : String) (holder? : Option ι) : Scene σ ι :=
  { w with holder := fun r d => if r = rule ∧ d = device then holder? else w.holder r d }

@[simp] theorem holder_setHolder_self
    (w : Scene σ ι) (rule device : String) (holder? : Option ι) :
    (w.setHolder rule device holder?).holder rule device = holder? := by
  simp [setHolder]

theorem holder_setHolder_of_ne
    (w : Scene σ ι) {rule device r d : String} (holder? : Option ι)
    (h : ¬ (r = rule ∧ d = device)) :
    (w.setHolder rule device holder?).holder r d = w.holder r d :=
  if_neg h

/-- The store has served a request. -/
def serve (w : Scene σ ι) (r : Request) (o : Outcome r.Reply) (s : σ) : Scene σ ι :=
  { w with store := s, served := w.served ++ [⟨w.store, r, o⟩] }

/-- A task has drawn an id. -/
def draw [DecidableEq ι] (w : Scene σ ι) (id : String) (i : ι) : Scene σ ι :=
  { w with drawer := Function.update w.drawer id (some i) }

end Scene

/-- What is known of the surroundings of the tasks. -/
structure Surroundings (σ ι : Type) where
  /-- How the store can serve a request. -/
  serves : σ → (r : Request) → Outcome r.Reply → σ → Prop
  /-- Which rules there can be. -/
  rules : Rule → Prop
  /-- Which ids can be drawn. -/
  draws : Scene σ ι → String → Prop
  /-- When a request can be made by hand. -/
  admits : Scene σ ι → Request → Prop

/-- Something that is done on its own. -/
inductive Task where
  /-- A worker takes a number of turns. -/
  | turns (config : EngineConfig) (again : Bool) (n : Nat)
  | cycle (config : EngineConfig) (again : Bool)
  /-- One of the tenants that a cycle evaluates side by side. -/
  | evaluateTenant (again : Bool) (tenant : String)
  | evaluateDevice (again : Bool) (r : Rule) (device : String)
  | acknowledge (id tenant : String) (who? notes? : Option String)
  | resolve (id tenant : String) (reason? : Option String)

namespace Task

/-- What a task does. -/
def action : Task → WorkerAction Unit
  | .turns config again n => Worker.run config (Worker.cycle config again) n
  | .cycle config again => Worker.cycle config again
  | .evaluateTenant again tenant => Worker.evaluateUnlessStopping again tenant
  | .evaluateDevice again r device => do let _ ← Worker.evaluateDevice again r device
  | .acknowledge id tenant who? notes? => do
    let _ ← WorkerAction.store (.acknowledge id tenant who? notes?)
  | .resolve id tenant reason? => do
    let _ ← WorkerAction.store (.resolve id tenant reason?)

/-- Whether a task escalates alerts more than once. -/
def again : Task → Bool
  | .turns _ again _ | .cycle _ again | .evaluateTenant again _ | .evaluateDevice again _ _ =>
    again
  | .acknowledge _ _ _ _ | .resolve _ _ _ => false

/-- The request that is made by hand. -/
def request? : Task → Option Request
  | .acknowledge id tenant who? notes? => some (.acknowledge id tenant who? notes?)
  | .resolve id tenant reason? => some (.resolve id tenant reason?)
  | _ => none

/-- The rule that a task is given. -/
def rule? : Task → Option Rule
  | .evaluateDevice _ r _ => some r
  | _ => none

/-- A task keeps up what evaluations and requests by hand keep up. -/
theorem safe
    {σ : Type} {effect : (c : Call) → σ → c.Reply → σ → Prop} {terms : Terms σ}
    {rules : Rule → Prop} {P : σ → Prop} {task : Task}
    (h : Worker.Steady effect terms rules task.again P)
    (hrule : ∀ r ∈ task.rule?, rules r)
    (hrequest : ∀ r ∈ task.request?, Safe effect terms P (WorkerAction.store r) fun _ => P) :
    Safe effect terms P task.action fun _ => P := by
  cases task with
  | turns config again n =>
      exact h.run config n
  | cycle config again =>
      exact h.cycle config
  | evaluateTenant again tenant =>
      exact h.evaluateUnlessStopping tenant
  | evaluateDevice again r device =>
      exact .andThen (h.device r device (hrule r rfl)) fun _ => h.toRounds.pure ()
  | acknowledge id tenant who? notes? =>
      exact .andThen (hrequest _ rfl) fun _ => h.toRounds.pure ()
  | resolve id tenant reason? =>
      exact .andThen (hrequest _ rfl) fun _ => h.toRounds.pure ()

end Task

namespace Surroundings

variable {σ ι : Type} [DecidableEq ι]

/-- What can come of a call of a task. -/
def Reacts
    (e : Surroundings σ ι) (task : Task) (i : ι)
    (c : Call) (w : Scene σ ι) (reply : c.Reply) (w' : Scene σ ι) : Prop :=
  match c, reply with
  | .store r, o =>
    (task.request? = some r → e.admits w r) ∧ ∃ s, e.serves w.store r o s ∧ w' = w.serve r o s
  | .enabledRules _, o => (∀ found, o = .ok found → ∀ r ∈ found, e.rules r) ∧ w' = w
  | .freshId, id => e.draws w id ∧ w' = w.draw id i
  | .acquire rule device, _ =>
    w.holder rule device = none ∧ w' = w.setHolder rule device (some i)
  | .release rule device, _ => w' = w.setHolder rule device none
  | _, _ => w' = w

theorem eq_of_reacts
    {e : Surroundings σ ι} {task : Task} {i : ι} {c : Call} {w w' : Scene σ ι} {reply : c.Reply}
    (h : e.Reacts task i c w reply w')
    (hplain : c.isPlain = true) :
    w' = w := by
  cases c with
  | enabledRules tenant =>
      exact h.2
  | store r =>
      cases hplain
  | freshId =>
      cases hplain
  | acquire rule device =>
      cases hplain
  | release rule device =>
      cases hplain
  | _ =>
      exact h

/-- Tasks at work: what they share, and what each of them has left to do. -/
abbrev Crew (σ ι : Type) : Type :=
  Pool ι Call.Reply (Scene σ ι) (Outcome Unit)

/-- Tasks before their first calls. -/
def crew (tasks : ι → Task) (s : σ) : Crew σ ι :=
  ⟨.start s, fun i => ExceptT.run (tasks i).action⟩

/-- What comes of tasks that start at a store, after any number of their calls in any
order. -/
def Reaches (e : Surroundings σ ι) (tasks : ι → Task) (s : σ) (w : Crew σ ι) : Prop :=
  Pool.Reaches (fun i => e.Reacts (tasks i) i) (crew tasks s) w

end Surroundings
end TelemetryAlerts
