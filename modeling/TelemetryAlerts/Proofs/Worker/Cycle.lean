import TelemetryAlerts.Worker.Evaluation
import TelemetryAlerts.Proofs.Program.Pool
import Mathlib.Tactic.SplitIfs

/-!
# Cycles of a worker

A cycle is made of evaluations of one rule for one device, and of calls that touch neither
the alerts nor the locks. If each evaluation of a rule that there can be abides by some
terms and keeps something up, so do a cycle and any number of turns.

**Results.**
* `safe_locked`: an action under the lock of a rule and a device.
* `Steady.cycle`, `Steady.run`: what single evaluations keep up is kept up by cycles, and
  by turns of a worker.
-/

namespace TelemetryAlerts

/-- Whether a call touches neither the alerts nor their ids nor the locks. -/
def Call.isPlain : Call → Bool
  | .store _ | .freshId | .acquire _ _ | .release _ _ => false
  | _ => true

/-- Whether a call belongs to the rounds of a cycle, and to no evaluation of a rule for a
device. -/
def Call.isRound : Call → Bool
  | .tenants | .enabledRules _ | .devicesOfType _ _ => true
  | .isStopping | .together _ _ _ | .endCycle | .sleep _ => true
  | .count .rulesEvaluated | .count .errors => true
  | _ => false

theorem Call.isPlain_of_isRound
    {c : Call}
    (h : c.isRound = true) :
    c.isPlain = true := by
  cases c with
  | store | freshId | acquire | release =>
      cases h
  | _ =>
      rfl

namespace Worker

open Program (Safe Abides)

variable {σ α β : Type} {effect : (c : Call) → σ → c.Reply → σ → Prop} {terms : Terms σ}

/-- An action under the lock of a rule and a device. -/
theorem safe_locked
    {rule device : String} {a : WorkerAction α} {P L : σ → Prop} {R Q : Outcome α → σ → Prop}
    (hP : terms.Stable P)
    (hR : ∀ o, terms.Stable (R o))
    (hQ : ∀ o, terms.Stable (Q o))
    (hacquire : ∀ s t, P s → effect (.acquire rule device) s () t →
      terms.guarantee s t ∧ L t)
    (ha : Safe effect terms L a R)
    (hrelease : ∀ o s t, R o s → effect (.release rule device) s () t →
      terms.guarantee s t ∧ Q o t) :
    Safe effect terms P (WorkerAction.locked rule device a) Q := by
  intro s hs
  refine Abides.call P hs hP fun t r u ht hcall => ?_
  obtain ⟨hguarantee, hu⟩ := hacquire t u ht hcall
  refine ⟨hguarantee, ?_⟩
  change Abides effect terms ((ExceptT.run a).bind fun o =>
    .call (.release rule device) fun _ => .done o) Q u
  refine Abides.bind ((ha u hu).weaken fun o v hv => ?_)
  refine Abides.call (R o) hv (hR o) fun v r w hv hcall => ?_
  obtain ⟨hguarantee, hw⟩ := hrelease o v w hv hcall
  exact ⟨hguarantee, fun x hrely => hQ o w x hrely hw⟩

/-- What others leave alone, and plain calls keep up. -/
structure Calm
    (effect : (c : Call) → σ → c.Reply → σ → Prop) (terms : Terms σ) (P : σ → Prop) : Prop where
  stable : terms.Stable P
  plain : ∀ c s r t, c.isPlain = true → P s → effect c s r t → terms.guarantee s t ∧ P t

namespace Calm

variable {P : σ → Prop}

theorem pure
    (h : Calm effect terms P)
    (x : α) :
    Safe effect terms P (Pure.pure x) fun _ => P :=
  .pure h.stable fun _ hs => hs

theorem ask
    (h : Calm effect terms P)
    {c : Call}
    (hc : c.isPlain = true) :
    Safe effect terms P (WorkerAction.ask c) fun _ => P :=
  .perform h.stable (fun _ => h.stable) fun s r t hs => h.plain c s r t hc hs

theorem count
    (h : Calm effect terms P)
    (c : Counter) :
    Safe effect terms P (WorkerAction.count c) fun _ => P :=
  h.ask rfl

theorem fetch
    (h : Calm effect terms P)
    (device tenant : String) :
    Safe effect terms P (Worker.fetch device tenant) fun _ => P := by
  refine .andThen (h.ask rfl) fun reply => ?_
  cases reply <;> exact h.pure _

end Calm

/-- What others leave alone, and the rounds of a cycle keep up. -/
structure Rounds
    (effect : (c : Call) → σ → c.Reply → σ → Prop) (terms : Terms σ) (P : σ → Prop) : Prop where
  stable : terms.Stable P
  round : ∀ c s r t, c.isRound = true → P s → effect c s r t → terms.guarantee s t ∧ P t

theorem Calm.rounds
    {P : σ → Prop}
    (h : Calm effect terms P) :
    Rounds effect terms P where
  stable := h.stable
  round c s r t hc := h.plain c s r t (Call.isPlain_of_isRound hc)

namespace Rounds

variable {P : σ → Prop} (h : Rounds effect terms P)
include h

theorem pure
    (x : α) :
    Safe effect terms P (Pure.pure x) fun _ => P :=
  .pure h.stable fun _ hs => hs

theorem ask
    {c : Call}
    (hc : c.isRound = true) :
    Safe effect terms P (WorkerAction.ask c) fun _ => P :=
  .perform h.stable (fun _ => h.stable) fun s r t hs => h.round c s r t hc hs

theorem counted
    {a : WorkerAction Unit}
    (ha : Safe effect terms P a fun _ => P) :
    Safe effect terms P (WorkerAction.counted a) fun _ => P :=
  .rescue ha (fun _ _ hs => hs) fun _ => h.ask rfl

end Rounds

/-- What holds between the evaluations of a worker: it is left alone by others, the rounds of a
cycle keep it up, and so does every evaluation of a rule that there can be. -/
structure Steady
    (effect : (c : Call) → σ → c.Reply → σ → Prop) (terms : Terms σ)
    (rules : Rule → Prop) (again : Bool) (P : σ → Prop) : Prop extends Rounds effect terms P where
  listed : ∀ tenant s found t, P s → effect (.enabledRules tenant) s (.ok found) t →
    ∀ r ∈ found, rules r
  device : ∀ r device, rules r →
    Safe effect terms P (evaluateDevice again r device) fun _ => P

namespace Steady

variable {rules : Rule → Prop} {again : Bool} {P : σ → Prop}

theorem devicesOfTypes
    (h : Steady effect terms rules again P)
    (tenant : String) (types : List String) :
    Safe effect terms P (Worker.devicesOfTypes tenant types) fun _ => P := by
  induction types with
  | nil =>
      exact h.toRounds.pure []
  | cons t rest ih =>
      refine .andThen (.perform h.stable (fun _ => h.stable) fun s r u hs =>
        h.round (.devicesOfType tenant t) s r u rfl hs) fun here => ?_
      exact .andThen ih fun more => h.toRounds.pure _

theorem evaluateDevices
    (h : Steady effect terms rules again P)
    {r : Rule}
    (hr : rules r)
    (devices : List String) :
    Safe effect terms P (Worker.evaluateDevices again r devices) fun _ => P := by
  induction devices with
  | nil =>
      exact h.toRounds.pure ()
  | cons device rest ih =>
      exact .andThen (h.toRounds.counted
        (.andThen (h.device r device hr) fun _ => h.toRounds.pure ())) fun _ => ih

theorem evaluateRule
    (h : Steady effect terms rules again P)
    {r : Rule}
    (hr : rules r) :
    Safe effect terms P (Worker.evaluateRule again r) fun _ => P := by
  have happlicable : Safe effect terms P (applicableDevices r) fun _ => P := by
    unfold applicableDevices
    cases r.target with
    | device =>
        exact h.toRounds.pure _
    | deviceType =>
        exact .andThen (h.devicesOfTypes _ _) fun _ => h.toRounds.pure _
  refine .andThen (.rescue (R := fun _ => P) ?_ (fun _ _ hs => hs) fun _ => ?_) fun devices? => ?_
  · exact .map happlicable (fun _ => h.stable) fun _ _ hs => hs
  · exact .andThen (h.toRounds.ask rfl) fun _ => h.toRounds.pure _
  · cases devices? with
    | none =>
        exact h.toRounds.pure ()
    | some devices =>
        exact .andThen (h.evaluateDevices hr devices) fun _ => h.toRounds.ask rfl

theorem evaluateRules
    (h : Steady effect terms rules again P)
    {found : List Rule}
    (hfound : ∀ r ∈ found, rules r) :
    Safe effect terms P (Worker.evaluateRules again found) fun _ => P := by
  induction found with
  | nil =>
      exact h.toRounds.pure ()
  | cons r rest ih =>
      exact .andThen (h.evaluateRule (hfound r (by simp))) fun _ =>
        ih fun r' hr' => hfound r' (List.mem_cons_of_mem _ hr')

theorem evaluateTenant
    (h : Steady effect terms rules again P)
    (tenant : String) :
    Safe effect terms P (Worker.evaluateTenant again tenant) fun _ => P := by
  have hlisted (o : Outcome (List Rule)) :
      terms.Stable fun s => P s ∧ ∀ found, o = .ok found → ∀ r ∈ found, rules r :=
    fun s t hrely hs => ⟨h.stable s t hrely hs.1, hs.2⟩
  refine h.toRounds.counted (.bind (R := fun o s => P s ∧ ∀ found, o = .ok found → ∀ r ∈ found, rules r)
    (.perform h.stable hlisted fun s o t hs hcall => ?_) (fun found s hs => ?_)
    fun e s hs => hs.1)
  · obtain ⟨hguarantee, ht⟩ := h.round (.enabledRules tenant) s o t rfl hs hcall
    refine ⟨hguarantee, ht, fun found hfound => ?_⟩
    subst hfound
    exact h.listed tenant s found t hs hcall
  · exact h.evaluateRules (hs.2 found rfl) s hs.1

theorem evaluateTenants
    (h : Steady effect terms rules again P)
    (tenants : List String) :
    Safe effect terms P (Worker.evaluateTenants again tenants) fun _ => P := by
  induction tenants with
  | nil =>
      exact h.toRounds.pure ()
  | cons tenant rest ih =>
      refine .andThen (h.toRounds.ask rfl) fun stopping => ?_
      split_ifs
      · exact h.toRounds.pure ()
      · exact .andThen (h.evaluateTenant tenant) fun _ => ih

theorem evaluateUnlessStopping
    (h : Steady effect terms rules again P)
    (tenant : String) :
    Safe effect terms P (Worker.evaluateUnlessStopping again tenant) fun _ => P := by
  refine .andThen (h.toRounds.ask rfl) fun stopping => ?_
  split_ifs
  · exact h.toRounds.pure ()
  · exact h.evaluateTenant tenant

/-- A cycle keeps up what single evaluations keep up. -/
theorem cycle
    (h : Steady effect terms rules again P)
    (config : EngineConfig) :
    Safe effect terms P (Worker.cycle config again) fun _ => P := by
  refine .andThen (.perform h.stable (fun _ => h.stable) fun s r t hs =>
    h.round .tenants s r t rfl hs) fun tenants => ?_
  refine .andThen ?_ fun _ => h.toRounds.ask rfl
  unfold evaluateAll
  split_ifs
  · exact h.evaluateTenants tenants
  · exact h.toRounds.ask rfl

/-- So does any number of turns. -/
theorem run
    (h : Steady effect terms rules again P)
    (config : EngineConfig) (turns : Nat) :
    Safe effect terms P (Worker.run config (Worker.cycle config again) turns) fun _ => P := by
  induction turns with
  | zero =>
      exact h.toRounds.pure ()
  | succ n ih =>
      refine .andThen (h.toRounds.ask rfl) fun stopping => ?_
      split_ifs
      · exact h.toRounds.pure ()
      · refine .andThen (.andThen (.rescue (R := fun _ => P) ?_ (fun _ _ hs => hs) fun _ => ?_)
          fun wait => h.toRounds.ask rfl) fun stopped => ?_
        · exact .andThen (h.cycle config) fun _ => h.toRounds.pure _
        · exact .andThen (h.toRounds.ask rfl) fun _ => h.toRounds.pure _
        · split_ifs
          · exact h.toRounds.pure ()
          · exact ih

end Steady
end Worker
end TelemetryAlerts
