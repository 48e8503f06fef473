import TelemetryAlerts.Proofs.Store.Action
import TelemetryAlerts.Proofs.Worker.Clocked

/-!
# What is noted of a cycle

A cycle catches what fails in it, so its outcome tells nothing. To tell what happened, the same
calls are made by programs that keep a journal: which tenants' rules could not be loaded, for
which rules no devices could be found, and what came of the evaluation of each rule for each of
its devices. With the journal left out, these are the programs that run.

**Results.**
* `run_evaluateTenants`: evaluating tenants never fails, and is noted in a journal.
* `Diary.abides_noteTenants`: what holds between evaluations may depend on the journal so far,
  and the journal follows the rules and devices that are found.
* `Setting.Runs.cycle`: so it is with tenants that are evaluated side by side.
-/

namespace TelemetryAlerts

open Program (Abides Safe)

/-- What is noted of a part of a cycle. -/
inductive Note where
  /-- The rules of a tenant could not be loaded. -/
  | unlisted (tenant : String) (f : Failure)
  /-- The devices of a rule could not be found. -/
  | unresolved (r : Rule) (f : Failure)
  /-- A rule was evaluated for a device. -/
  | evaluated (r : Rule) (device : String) (telemetry : Outcome Snapshot) (o : Outcome Transition)

/-- What is noted of a cycle, in order. -/
abbrev Journal : Type :=
  List Note

namespace Note

/-- Whether something is noted that is counted as an error. -/
def fails : Note → Bool
  | evaluated _ _ _ (.ok _) => false
  | _ => true

/-- The rule and the device whose evaluation is noted. -/
def visit? : Note → Option (Rule × String)
  | evaluated r device _ _ => some (r, device)
  | _ => none

/-- The rule, the device and the telemetry whose evaluation is noted. -/
def occasion? : Note → Option ((Rule × String) × Outcome Snapshot)
  | evaluated r device reply _ => some ((r, device), reply)
  | _ => none

/-- Whether a note is about a rule and a device of some kind. -/
def isAt (here : Rule → String → Bool) : Note → Bool
  | evaluated r device _ _ => here r device
  | _ => false

/-- Whether a request failed during an evaluation that should not have. -/
def isInjected : Note → Bool
  | evaluated _ _ _ (.error .injected) => true
  | _ => false

end Note

namespace Worker

/-! ### Programs that keep a journal -/

/-- Counts a failure. -/
def countFailure {α : Type} : Outcome α → Program Call Call.Reply Unit
  | .ok _ => pure ()
  | .error _ => Program.perform (Call.count .errors)

/-- The telemetry to go by: nothing if it cannot be had. -/
def snapshotOf : Outcome Snapshot → Snapshot
  | .ok s => s
  | .error _ => []

/-- Evaluates a rule for a device by its telemetry. -/
def evaluateOn (again : Bool) (r : Rule) (device : String) (s : Snapshot) :
    WorkerAction Transition :=
  if s.isEmpty then pure .none
  else WorkerAction.locked r.id device (settle again r device s)

/-- Evaluates a rule for a device, and notes what came of it. -/
def noteDevice (again : Bool) (r : Rule) (device : String) : Program Call Call.Reply Note := do
  let reply ← Program.perform (Call.telemetry device r.tenant)
  let o ← ExceptT.run (evaluateOn again r device (snapshotOf reply))
  countFailure o
  pure (.evaluated r device reply o)

/-- Evaluates a rule for devices one after the other. -/
def noteDevices (again : Bool) (r : Rule) : List String → Program Call Call.Reply Journal
  | [] => pure []
  | device :: rest => do
    let n ← noteDevice again r device
    let js ← noteDevices again r rest
    pure (n :: js)

/-- Evaluates a rule for the devices that were found. -/
def noteFound (again : Bool) (r : Rule) : Outcome (List String) → Program Call Call.Reply Journal
  | .error f => do
    let () ← Program.perform (Call.count .errors)
    pure [.unresolved r f]
  | .ok devices => do
    let js ← noteDevices again r devices
    let () ← Program.perform (Call.count .rulesEvaluated)
    pure js

/-- Evaluates a rule for every device that it watches. -/
def noteRule (again : Bool) (r : Rule) : Program Call Call.Reply Journal := do
  noteFound again r (← ExceptT.run (applicableDevices r))

/-- Evaluates rules one after the other. -/
def noteRules (again : Bool) : List Rule → Program Call Call.Reply Journal
  | [] => pure []
  | r :: rest => do
    let js ← noteRule again r
    let js' ← noteRules again rest
    pure (js ++ js')

/-- Evaluates the rules that were loaded for a tenant. -/
def noteLoaded (again : Bool) (tenant : String) :
    Outcome (List Rule) → Program Call Call.Reply Journal
  | .error f => do
    let () ← Program.perform (Call.count .errors)
    pure [.unlisted tenant f]
  | .ok rules => noteRules again rules

/-- Evaluates every enabled rule of a tenant. -/
def noteTenant (again : Bool) (tenant : String) : Program Call Call.Reply Journal := do
  noteLoaded again tenant (← Program.perform (Call.enabledRules tenant))

/-- Evaluates tenants one after the other, until the worker is stopped. -/
def noteTenants (again : Bool) : List String → Program Call Call.Reply Journal
  | [] => pure []
  | tenant :: rest => do
    if ← Program.perform Call.isStopping then pure []
    else
      let js ← noteTenant again tenant
      let js' ← noteTenants again rest
      pure (js ++ js')

/-! ### With the journal left out -/

section

variable {α β : Type}

/-- What follows an action that cannot fail follows what it does. -/
theorem run_bind_of_unfailing
    {a : WorkerAction α} {p : Program Call Call.Reply β} {g : β → α}
    (ha : ExceptT.run a = (fun x => .ok (g x)) <$> p)
    (f : α → WorkerAction Unit) :
    ExceptT.run (a >>= f) = p >>= fun x => ExceptT.run (f (g x)) := by
  rw [ExceptT.run_bind, ha]
  simp

variable (again : Bool)

theorem run_evaluateDevice
    (r : Rule) (device : String) :
    ExceptT.run (evaluateDevice again r device) =
      Program.perform (Call.telemetry device r.tenant) >>= fun reply =>
        ExceptT.run (evaluateOn again r device (snapshotOf reply)) := by
  refine congrArg (Program.call (Call.telemetry device r.tenant)) (funext fun reply => ?_)
  cases reply <;> rfl

/-- An evaluation of a rule for a device is noted, and its failure counted. -/
theorem run_counted_evaluateDevice
    (r : Rule) (device : String) :
    ExceptT.run (WorkerAction.counted (do let _ ← evaluateDevice again r device)) =
      (fun _ => .ok ()) <$> noteDevice again r device := by
  have hcounted (a : WorkerAction Transition) :
      ExceptT.run (WorkerAction.counted (do let _ ← a)) =
        ExceptT.run a >>= fun o => (fun _ => .ok ()) <$> countFailure o := by
    change (ExceptT.run a >>= ExceptT.bindCont fun _ => pure ()) >>= _ = _
    rw [bind_assoc]
    refine congrArg (ExceptT.run a >>= ·) (funext fun o => ?_)
    cases o <;> rfl
  rw [hcounted, run_evaluateDevice, noteDevice]
  simp

theorem run_evaluateDevices
    (r : Rule) (devices : List String) :
    ExceptT.run (evaluateDevices again r devices) =
      (fun _ => .ok ()) <$> noteDevices again r devices := by
  induction devices with
  | nil =>
      rfl
  | cons device rest ih =>
      rw [evaluateDevices, run_bind_of_unfailing (run_counted_evaluateDevice again r device), ih,
        noteDevices]
      simp

theorem run_evaluateRule
    (r : Rule) :
    ExceptT.run (evaluateRule again r) = (fun _ => .ok ()) <$> noteRule again r := by
  have hfound : ExceptT.run (tryCatch (some <$> applicableDevices r) fun _ => do
      WorkerAction.count .errors
      pure none) =
        ExceptT.run (applicableDevices r) >>= fun found =>
          (fun _ => .ok found.toOption) <$> countFailure found := by
    change (ExceptT.run (some <$> applicableDevices r)) >>= _ = _
    rw [ExceptT.run_map, map_eq_pure_bind, bind_assoc]
    refine congrArg (ExceptT.run (applicableDevices r) >>= ·) (funext fun found => ?_)
    cases found <;> rfl
  rw [evaluateRule, ExceptT.run_bind, hfound, noteRule, bind_assoc, map_bind]
  refine congrArg (ExceptT.run (applicableDevices r) >>= ·) (funext fun found => ?_)
  cases found with
  | error f =>
      rfl
  | ok devices =>
      change ExceptT.run (evaluateDevices again r devices >>= fun _ => _) =
        _ <$> (noteDevices again r devices >>= fun js =>
          .call (Call.count .rulesEvaluated) fun _ => .done js)
      rw [run_bind_of_unfailing (run_evaluateDevices again r devices), map_bind]
      rfl

theorem run_evaluateRules
    (rules : List Rule) :
    ExceptT.run (evaluateRules again rules) = (fun _ => .ok ()) <$> noteRules again rules := by
  induction rules with
  | nil =>
      rfl
  | cons r rest ih =>
      rw [evaluateRules, run_bind_of_unfailing (run_evaluateRule again r), ih, noteRules]
      simp

theorem run_evaluateTenant
    (tenant : String) :
    ExceptT.run (evaluateTenant again tenant) =
      (fun _ => .ok ()) <$> noteTenant again tenant := by
  refine congrArg (Program.call (Call.enabledRules tenant)) (funext fun found => ?_)
  cases found with
  | error f =>
      rfl
  | ok rules =>
      change ExceptT.run (evaluateRules again rules) >>= _ = _ <$> noteRules again rules
      rw [run_evaluateRules, map_eq_pure_bind, bind_assoc]
      rfl

/-- Evaluating tenants never fails, and is noted in a journal. -/
theorem run_evaluateTenants
    (tenants : List String) :
    ExceptT.run (evaluateTenants again tenants) =
      (fun _ => .ok ()) <$> noteTenants again tenants := by
  induction tenants with
  | nil =>
      rfl
  | cons tenant rest ih =>
      refine congrArg (Program.call Call.isStopping) (funext fun stopping => ?_)
      cases stopping with
      | true =>
          rfl
      | false =>
          change ExceptT.run (evaluateTenant again tenant >>= fun _ => evaluateTenants again rest) =
            (noteTenant again tenant >>= fun js => noteTenants again rest >>= fun js' =>
              pure (js ++ js')) >>= fun _ => pure (.ok ())
          rw [run_bind_of_unfailing (run_evaluateTenant again tenant), ih]
          simp

end
end Worker

/-- A run of programs whose results are forgotten is a run of the programs. -/
theorem Pool.Reaches.exists_of_map
    {ι κ σ α β : Type} {ρ : κ → Type} [DecidableEq ι]
    {effect : ι → (c : κ) → σ → ρ c → σ → Prop} {f : α → β} {p : ι → Program κ ρ α} {s : σ}
    {w : Pool ι ρ σ β}
    (h : Pool.Reaches effect ⟨s, fun i => f <$> p i⟩ w) :
    ∃ q, (∀ i, w.rest i = f <$> q i) ∧ Pool.Reaches effect ⟨s, p⟩ ⟨w.state, q⟩ := by
  induction h with
  | refl =>
      exact ⟨p, fun _ => rfl, .refl⟩
  | tail _ hstep ih =>
      obtain ⟨q, hrest, hreaches⟩ := ih
      obtain ⟨i, hcall, heffect⟩ := hstep
      rename_i c next reply t
      rw [hrest i] at hcall
      cases hq : q i with
      | done x =>
          rw [hq] at hcall
          cases hcall
      | call c' next' =>
          rw [hq] at hcall
          cases hcall
          refine ⟨Function.update q i (next' reply), fun j => ?_,
            hreaches.tail ⟨i, .call hq heffect⟩⟩
          by_cases hj : j = i
          · subst hj
            dsimp only
            rw [Function.update_self, Function.update_self]
            rfl
          · dsimp only
            rw [Function.update_of_ne hj, Function.update_of_ne hj, hrest j]

/-- If programs have ended whose results are forgotten, then so have the programs. -/
theorem Pool.Reaches.exists_done_of_map
    {ι κ σ α β : Type} {ρ : κ → Type} [DecidableEq ι]
    {effect : ι → (c : κ) → σ → ρ c → σ → Prop} {f : α → β} {p : ι → Program κ ρ α} {s t : σ}
    {y : ι → β}
    (h : Pool.Reaches effect ⟨s, fun i => f <$> p i⟩ ⟨t, fun i => .done (y i)⟩) :
    ∃ x : ι → α, (∀ i, y i = f (x i)) ∧
      Pool.Reaches effect ⟨s, p⟩ ⟨t, fun i => .done (x i)⟩ := by
  obtain ⟨q, hrest, hreaches⟩ := h.exists_of_map
  have hdone (i : ι) : ∃ x, q i = .done x ∧ y i = f x := by
    have hi := hrest i
    cases hq : q i with
    | done x =>
        rw [hq] at hi
        exact ⟨x, rfl, Program.done.inj hi⟩
    | call c next =>
        rw [hq] at hi
        cases hi
  choose x hx hy using hdone
  exact ⟨x, hy, by rwa [funext hx] at hreaches⟩

/-! ### What a journal tells -/

namespace Setting

variable {σ : Type} (e : Setting σ)

/-- Whether devices can be found for a rule. -/
def Resolves (r : Rule) (devices : List String) : Prop :=
  match r.target with
  | .device => devices = Worker.withoutRepeats r.devices
  | .deviceType => ∃ found : List (List String),
      List.Forall₂ (fun t here => e.replies (.devicesOfType r.tenant t) (.ok here))
        r.deviceTypes found ∧
      devices = Worker.withoutRepeats found.flatten

/-- Whether the devices of a rule need not be found. -/
def Misses (r : Rule) (f : Failure) : Prop :=
  r.target = .deviceType ∧ ∃ t ∈ r.deviceTypes, e.replies (.devicesOfType r.tenant t) (.error f)

/-- Whether a rule can be evaluated for a device when tenants are evaluated. -/
def Visits (tenants : List String) (r : Rule) (device : String) : Prop :=
  ∃ t ∈ tenants, ∃ rules, e.replies (.enabledRules t) (.ok rules) ∧ r ∈ rules ∧
    ∃ devices, e.Resolves r devices ∧ device ∈ devices

/-- What is noted of a rule and a device: without telemetry nothing is done, and nothing fails. -/
def NotesDevice (r : Rule) (device : String) (n : Note) : Prop :=
  ∃ reply o, e.replies (.telemetry device r.tenant) reply ∧
    (Worker.snapshotOf reply = [] → o = .ok .none) ∧ n = .evaluated r device reply o

/-- What is noted of a rule. -/
def NotesRule (r : Rule) (js : Journal) : Prop :=
  (∃ f, e.Misses r f ∧ js = [.unresolved r f]) ∨
    ∃ devices, e.Resolves r devices ∧ List.Forall₂ (e.NotesDevice r) devices js

/-- What is noted of a tenant. -/
def NotesTenant (t : String) (js : Journal) : Prop :=
  (∃ f, e.replies (.enabledRules t) (.error f) ∧ js = [.unlisted t f]) ∨
    ∃ rules parts, e.replies (.enabledRules t) (.ok rules) ∧
      List.Forall₂ e.NotesRule rules parts ∧ js = parts.flatten

/-- What is noted of several tenants. -/
def NotesTenants (tenants : List String) (js : Journal) : Prop :=
  ∃ parts, List.Forall₂ e.NotesTenant tenants parts ∧ js = parts.flatten

variable {e}

end Setting

section

variable {σ ι : Type} [DecidableEq ι]

/-- A call is made before the program goes on. -/
theorem abides_perform
    {σ α : Type} {effect : (c : Call) → σ → c.Reply → σ → Prop} {terms : Terms σ} {c : Call}
    {f : c.Reply → Program Call Call.Reply α} {Q : α → σ → Prop} {s : σ} (P : σ → Prop)
    (hs : P s)
    (hstable : terms.Stable P)
    (hcall : ∀ s r t, P s → effect c s r t →
      terms.guarantee s t ∧ Abides effect terms (f r) Q t) :
    Abides effect terms (Program.perform c >>= f) Q s :=
  .call P hs hstable hcall

/-- What holds of what tasks share may depend on what was noted so far (`P`), and on what is
noted next before it is counted (`Q`). -/
structure Diary
    (e : Setting σ) (i : ι) (terms : Terms (Clocked σ ι × List Alert)) (again : Bool)
    (tenants : List String) (P : Journal → Clocked σ ι × List Alert → Prop)
    (Q : Journal → Note → Clocked σ ι × List Alert → Prop) : Prop where
  stable : ∀ js, terms.Stable (P js)
  stable_next : ∀ js n, terms.Stable (Q js n)
  plain : ∀ js c x reply y, c.isPlain = true → c ≠ .count .errors → P js x →
    e.Unfolds False i c x reply y → terms.guarantee x y ∧ P js y
  device : ∀ js r device reply, e.Visits tenants r device →
    e.replies (.telemetry device r.tenant) reply →
      Safe (e.Unfolds False i) terms (P js)
        (Worker.evaluateOn again r device (Worker.snapshotOf reply))
        fun o => Q js (.evaluated r device reply o)
  missed : ∀ js n x, n.visit? = none → P js x → Q js n x
  passed : ∀ js n x, n.fails = false → Q js n x → P (js ++ [n]) x
  failed : ∀ js n x y, n.fails = true → Q js n x → e.Unfolds False i (.count .errors) x () y →
    terms.guarantee x y ∧ P (js ++ [n]) y

namespace Diary

variable {e : Setting σ} {i : ι} {terms : Terms (Clocked σ ι × List Alert)} {again : Bool}
  {tenants : List String} {P : Journal → Clocked σ ι × List Alert → Prop}
  {Q : Journal → Note → Clocked σ ι × List Alert → Prop} {js : Journal}
  {x : Clocked σ ι × List Alert} {r : Rule}
  (h : Diary e i terms again tenants P Q)
include h

/-- A failure is counted, and noted. -/
theorem abides_failed
    {n : Note}
    (hfails : n.fails = true)
    (hx : Q js n x) :
    Abides (e.Unfolds False i) terms (.call (Call.count .errors) fun _ => .done n)
      (fun n' y => P (js ++ [n]) y ∧ n' = n) x := by
  refine .call (Q js n) hx (h.stable_next js n) fun x _ y hx hcall => ?_
  obtain ⟨hguarantee, hy⟩ := h.failed js n x y hfails hx hcall
  exact ⟨hguarantee, fun z hrely => ⟨h.stable _ y z hrely hy, rfl⟩⟩

/-- Without telemetry nothing is done. -/
theorem abides_evaluateOn
    {device : String} {reply : Outcome Snapshot}
    (hvisits : e.Visits tenants r device)
    (hreply : e.replies (.telemetry device r.tenant) reply)
    (hx : P js x) :
    Abides (e.Unfolds False i) terms
      (ExceptT.run (Worker.evaluateOn again r device (Worker.snapshotOf reply)))
      (fun o y => Q js (.evaluated r device reply o) y ∧
        (Worker.snapshotOf reply = [] → o = .ok .none)) x := by
  have hdevice := h.device js r device reply hvisits hreply x hx
  by_cases hempty : Worker.snapshotOf reply = []
  · rw [hempty] at hdevice ⊢
    exact fun y hrely => ⟨hdevice y hrely, fun _ => rfl⟩
  · exact hdevice.weaken fun o y hy => ⟨hy, fun hnone => absurd hnone hempty⟩

theorem abides_noteDevice
    {device : String}
    (hvisits : e.Visits tenants r device)
    (hx : P js x) :
    Abides (e.Unfolds False i) terms (Worker.noteDevice again r device)
      (fun n y => P (js ++ [n]) y ∧ e.NotesDevice r device n) x := by
  refine abides_perform (P js) hx (h.stable js) fun x reply y hx hcall => ?_
  obtain ⟨hguarantee, hy⟩ :=
    h.plain js (.telemetry device r.tenant) x reply y rfl (by simp) hx hcall
  have hreply : e.replies (.telemetry device r.tenant) reply := hcall.1.2.1
  refine ⟨hguarantee, .bind ((h.abides_evaluateOn hvisits hreply hy).weaken ?_)⟩
  rintro o z ⟨hz, hnone⟩
  cases o with
  | ok t =>
      intro u hrely
      exact ⟨h.passed js _ u rfl (h.stable_next js _ z u hrely hz), reply, .ok t, hreply, hnone,
        rfl⟩
  | error f =>
      refine (h.abides_failed rfl hz).weaken ?_
      rintro n u ⟨hu, rfl⟩
      exact ⟨hu, reply, .error f, hreply, hnone, rfl⟩

theorem abides_noteDevices
    {devices : List String}
    (hvisits : ∀ device ∈ devices, e.Visits tenants r device)
    (hx : P js x) :
    Abides (e.Unfolds False i) terms (Worker.noteDevices again r devices)
      (fun js' y => P (js ++ js') y ∧ List.Forall₂ (e.NotesDevice r) devices js') x := by
  induction devices generalizing js x with
  | nil =>
      exact fun y hrely => ⟨by simpa using h.stable js x y hrely hx, .nil⟩
  | cons device rest ih =>
      refine .bind ((h.abides_noteDevice (hvisits device (by simp)) hx).weaken ?_)
      rintro n y ⟨hy, hn⟩
      refine .bind ((ih (fun d hd => hvisits d (List.mem_cons_of_mem _ hd)) hy).weaken ?_)
      rintro js' z ⟨hz, hjs'⟩
      exact fun u hrely => ⟨by simpa using h.stable _ z u hrely hz, .cons hn hjs'⟩

theorem stable_outcome
    {α : Type} (A : α → Prop) (B : Failure → Prop) (o : Outcome α) :
    terms.Stable fun x => P js x ∧ (∀ a, o = .ok a → A a) ∧ ∀ f, o = .error f → B f :=
  fun x y hrely hx => ⟨h.stable js x y hrely hx.1, hx.2⟩

/-- The devices of each type are found, or the failure is told. -/
theorem safe_devicesOfTypes
    (tenant : String) (types : List String) :
    Safe (e.Unfolds False i) terms (P js) (Worker.devicesOfTypes tenant types)
      fun o x => P js x ∧
        (∀ devices, o = .ok devices → ∃ found : List (List String),
          List.Forall₂ (fun t here => e.replies (.devicesOfType tenant t) (.ok here)) types found ∧
            devices = found.flatten) ∧
        ∀ f, o = .error f → ∃ t ∈ types, e.replies (.devicesOfType tenant t) (.error f) := by
  induction types with
  | nil =>
      refine .pure (h.stable js) fun x hx => ⟨hx, fun devices hdevices => ?_, by simp⟩
      exact ⟨[], .nil, (Except.ok.inj hdevices).symm⟩
  | cons t rest ih =>
      refine .bind (R := fun o x => P js x ∧
          (∀ here, o = .ok here → e.replies (.devicesOfType tenant t) (.ok here)) ∧
          ∀ f, o = .error f → e.replies (.devicesOfType tenant t) (.error f))
        (.perform (h.stable js) (h.stable_outcome _ _) fun x o y hx hcall => ?_) (fun here => ?_)
        fun f x hx => ⟨hx.1, by simp, fun g hg => ⟨t, by simp, hx.2.2 g hg⟩⟩
      · obtain ⟨hguarantee, hy⟩ :=
          h.plain js (.devicesOfType tenant t) x o y rfl (by simp) hx hcall
        have hreply : e.replies (.devicesOfType tenant t) o := hcall.1.2.1
        exact ⟨hguarantee, hy, fun here ho => ho ▸ hreply, fun f ho => ho ▸ hreply⟩
      · rintro x ⟨hx, hreply, -⟩
        refine (?_ : Safe _ _ (P js) _ _) x hx
        refine .bind ih (fun more x hx => ?_) fun f x hx => ⟨hx.1, by simp, fun g hg => ?_⟩
        · refine Safe.pure (P := fun x => P js x) (h.stable js) (fun y hy => ⟨hy, ?_, by simp⟩)
            x hx.1
          intro devices hdevices
          obtain ⟨found, hfound, rfl⟩ := hx.2.1 more rfl
          exact ⟨here :: found, .cons (hreply here rfl) hfound, (Except.ok.inj hdevices).symm⟩
        · obtain ⟨t', ht', hfails⟩ := hx.2.2 g hg
          exact ⟨t', List.mem_cons_of_mem _ ht', hfails⟩

/-- The devices of a rule are found, or the failure is told. -/
theorem safe_applicableDevices
    (r : Rule) :
    Safe (e.Unfolds False i) terms (P js) (Worker.applicableDevices r)
      fun o x => P js x ∧ (∀ devices, o = .ok devices → e.Resolves r devices) ∧
        ∀ f, o = .error f → e.Misses r f := by
  unfold Worker.applicableDevices Setting.Resolves Setting.Misses
  cases htarget : r.target with
  | device =>
      exact .pure (h.stable js) fun x hx => ⟨hx, fun devices hdevices =>
        (Except.ok.inj hdevices).symm, by simp⟩
  | deviceType =>
      refine .bind (h.safe_devicesOfTypes r.tenant r.deviceTypes) (fun found x hx => ?_)
        fun f x hx => ⟨hx.1, by simp, fun g hg => ⟨rfl, hx.2.2 g hg⟩⟩
      refine Safe.pure (P := fun x => P js x) (h.stable js) (fun y hy => ⟨hy, ?_, by simp⟩) x hx.1
      intro devices hdevices
      obtain ⟨parts, hparts, rfl⟩ := hx.2.1 found rfl
      exact ⟨parts, hparts, (Except.ok.inj hdevices).symm⟩

theorem abides_noteRule
    {t : String} {rules : List Rule}
    (ht : t ∈ tenants)
    (hrules : e.replies (.enabledRules t) (.ok rules))
    (hr : r ∈ rules)
    (hx : P js x) :
    Abides (e.Unfolds False i) terms (Worker.noteRule again r)
      (fun js' y => P (js ++ js') y ∧ e.NotesRule r js') x := by
  refine .bind ((h.safe_applicableDevices r x hx).weaken fun found y hy => ?_)
  obtain ⟨hy, hresolves, hmisses⟩ := hy
  cases found with
  | error f =>
      refine abides_perform (Q js (.unresolved r f)) (h.missed js _ y rfl hy) (h.stable_next js _)
        fun y _ z hy hcall => ?_
      obtain ⟨hguarantee, hz⟩ := h.failed js _ y z rfl hy hcall
      exact ⟨hguarantee, fun u hrely => ⟨h.stable _ z u hrely hz,
        Or.inl ⟨f, hmisses f rfl, rfl⟩⟩⟩
  | ok devices =>
      have hfound := hresolves devices rfl
      refine .bind ((h.abides_noteDevices (fun device hdevice =>
        ⟨t, ht, rules, hrules, hr, devices, hfound, hdevice⟩) hy).weaken ?_)
      rintro js' z ⟨hz, hjs'⟩
      refine abides_perform (P (js ++ js')) hz (h.stable _) fun z _ u hz hcall => ?_
      obtain ⟨hguarantee, hu⟩ := h.plain _ (.count .rulesEvaluated) z () u rfl (by simp) hz hcall
      exact ⟨hguarantee, fun u' hrely => ⟨h.stable _ u u' hrely hu,
        Or.inr ⟨devices, hfound, hjs'⟩⟩⟩

theorem abides_noteRules
    {t : String} {rules later : List Rule}
    (ht : t ∈ tenants)
    (hrules : e.replies (.enabledRules t) (.ok rules))
    (hlater : later ⊆ rules)
    (hx : P js x) :
    Abides (e.Unfolds False i) terms (Worker.noteRules again later)
      (fun js' y => P (js ++ js') y ∧
        ∃ parts, List.Forall₂ e.NotesRule later parts ∧ js' = parts.flatten) x := by
  induction later generalizing js x with
  | nil =>
      exact fun y hrely => ⟨by simpa using h.stable js x y hrely hx, [], .nil, rfl⟩
  | cons r rest ih =>
      refine .bind ((h.abides_noteRule ht hrules (hlater (by simp)) hx).weaken ?_)
      rintro js₁ y ⟨hy, hjs₁⟩
      refine .bind ((ih (fun r' hr' => hlater (List.mem_cons_of_mem _ hr')) hy).weaken ?_)
      rintro js₂ z ⟨hz, parts, hparts, rfl⟩
      exact fun u hrely => ⟨by simpa using h.stable _ z u hrely hz, js₁ :: parts,
        .cons hjs₁ hparts, rfl⟩

theorem abides_noteTenant
    {t : String}
    (ht : t ∈ tenants)
    (hx : P js x) :
    Abides (e.Unfolds False i) terms (Worker.noteTenant again t)
      (fun js' y => P (js ++ js') y ∧ e.NotesTenant t js') x := by
  refine abides_perform (P js) hx (h.stable js) fun x found y hx hcall => ?_
  obtain ⟨hguarantee, hy⟩ := h.plain js (.enabledRules t) x found y rfl (by simp) hx hcall
  refine ⟨hguarantee, ?_⟩
  have hreply : e.replies (.enabledRules t) found := hcall.1.2.1
  cases found with
  | error f =>
      refine abides_perform (Q js (.unlisted t f)) (h.missed js _ y rfl hy) (h.stable_next js _)
        fun y _ z hy hcall => ?_
      obtain ⟨hguarantee, hz⟩ := h.failed js _ y z rfl hy hcall
      exact ⟨hguarantee, fun u hrely => ⟨h.stable _ z u hrely hz, Or.inl ⟨f, hreply, rfl⟩⟩⟩
  | ok rules =>
      refine (h.abides_noteRules ht hreply (fun _ hr => hr) hy).weaken ?_
      rintro js' z ⟨hz, parts, hparts, rfl⟩
      exact ⟨hz, Or.inr ⟨rules, parts, hreply, hparts, rfl⟩⟩

/-- What holds between evaluations depends on the journal so far, and the journal follows the
rules and devices that are found. -/
theorem abides_noteTenants
    (hgoing : ∀ stopping, e.replies .isStopping stopping → stopping = false)
    (hx : P [] x) :
    Abides (e.Unfolds False i) terms (Worker.noteTenants again tenants)
      (fun js y => P js y ∧ e.NotesTenants tenants js) x := by
  suffices hlater : ∀ later, later ⊆ tenants → ∀ js x, P js x →
      Abides (e.Unfolds False i) terms (Worker.noteTenants again later)
        (fun js' y => P (js ++ js') y ∧ e.NotesTenants later js') x from
    hlater tenants (fun _ ht => ht) [] x hx
  intro later
  induction later with
  | nil =>
      exact fun _ js x hx y hrely => ⟨by simpa using h.stable js x y hrely hx, [], .nil, rfl⟩
  | cons t rest ih =>
      intro hsub js x hx
      refine abides_perform (P js) hx (h.stable js) fun x stopping y hx hcall => ?_
      obtain ⟨hguarantee, hy⟩ := h.plain js .isStopping x stopping y rfl (by simp) hx hcall
      refine ⟨hguarantee, ?_⟩
      obtain rfl : stopping = false := hgoing stopping hcall.1.2.1
      refine .bind ((h.abides_noteTenant (hsub (by simp)) hy).weaken ?_)
      rintro js₁ z ⟨hz, hjs₁⟩
      refine .bind ((ih (fun t' ht' => hsub (List.mem_cons_of_mem _ ht')) _ z hz).weaken ?_)
      rintro js₂ u ⟨hu, parts, hparts, rfl⟩
      exact fun u' hrely => ⟨by simpa using h.stable _ u u' hrely hu, js₁ :: parts,
        .cons hjs₁ hparts, rfl⟩

end Diary
end
/-! ### Tenants side by side -/

namespace Setting

variable {σ : Type} (e : Setting σ)

/-- Tasks that evaluate tenants run to their ends. -/
def Runs
    (again : Bool) (parts : List (List String)) (w : Clocked σ ℕ) (o : ℕ → Outcome Unit)
    (w' : Clocked σ ℕ) : Prop :=
  Pool.Reaches (e.Reacts False)
    ⟨w, fun k => ExceptT.run (Worker.evaluateTenants again (parts[k]?.getD []))⟩
    ⟨w', fun k => .done (o k)⟩

/-- Tasks that evaluate tenants run to their ends, and note what happens. -/
def Cycle
    (again : Bool) (parts : List (List String)) (w : Clocked σ ℕ) (js : ℕ → Journal)
    (w' : Clocked σ ℕ) : Prop :=
  Pool.Reaches (e.Reacts False) ⟨w, fun k => Worker.noteTenants again (parts[k]?.getD [])⟩
    ⟨w', fun k => .done (js k)⟩

/-- Evaluating tenants side by side never fails, and what happens is noted. -/
theorem Runs.cycle
    {e : Setting σ} {again : Bool} {parts : List (List String)} {w w' : Clocked σ ℕ}
    {o : ℕ → Outcome Unit}
    (h : e.Runs again parts w o w') :
    (∀ k, o k = .ok ()) ∧ ∃ js, e.Cycle again parts w js w' := by
  unfold Runs at h
  simp only [Worker.run_evaluateTenants] at h
  obtain ⟨js, ho, hreaches⟩ := h.exists_done_of_map
  exact ⟨ho, js, hreaches⟩

end Setting
end TelemetryAlerts
