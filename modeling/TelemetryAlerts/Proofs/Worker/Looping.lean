import TelemetryAlerts.Proofs.Worker.Journal

/-!
# The loop of a worker

A worker runs one cycle after the other, and waits after each: for one time if the cycle went
well, for another if it failed. It looks whether it was stopped before each cycle, and within a
cycle before each tenant, and a wait is cut short when it is stopped. So it makes no difference
at which moment it is stopped: what is under way comes to its end, and nothing else is started.
The surroundings of the worker may do anything else meanwhile.

**Results.**
* `Stoppable.run_of_advance`: who was stopped while something ran is stopped at its end.
* `run_rounds`, `run_of_rounds`: the loop consists of rounds, up to the first stop.
* `run_cycle_visits`: a cycle visits the tenants one by one, up to the first stop.
* `loop_obeys`: these together.
-/

namespace TelemetryAlerts
namespace Worker
namespace Loop

open Program

variable {σ : Type}

/-- Surroundings that keep the flag that stops a worker, and its counters. The flag is read
without any effect and stays up, a wait is cut short only if it is up, and errors are counted one
by one. -/
structure Stoppable (handle : (c : Call) → σ → c.Reply × σ) (stopped : σ → Bool)
    (stats : σ → Stats) : Prop where
  looks : ∀ s, handle .isStopping s = (stopped s, s)
  stays : ∀ c s, stopped s = true → stopped (handle c s).2 = true
  woken : ∀ wait s, (handle (.sleep wait) s).1 = true → stopped (handle (.sleep wait) s).2 = true
  counts : ∀ s, stats (handle (.count .errors) s).2 = (stats s).count .errors

section

variable (handle : (c : Call) → σ → c.Reply × σ) (stopped : σ → Bool) (stats : σ → Stats)

/-! ### Rounds -/

/-- One round of a worker that is not stopped: a cycle and the wait after it; a cycle that fails
is counted as one error. -/
inductive Round (config : EngineConfig) (runCycle : WorkerAction Unit) :
    Outcome Unit → σ → σ → Prop where
  | succeeds {s s₁ s' : σ}
      (hgoing : stopped s = false)
      (hcycle : (ExceptT.run runCycle).run handle s = (.ok (), s₁))
      (hwait : (handle (.sleep config.interval.toFloat) s₁).2 = s') :
      Round config runCycle (.ok ()) s s'
  | fails {s s₁ s₂ s' : σ} {e : Failure}
      (hgoing : stopped s = false)
      (hcycle : (ExceptT.run runCycle).run handle s = (.error e, s₁))
      (hcount : (handle (.count .errors) s₁).2 = s₂)
      (herrors : stats s₂ = (stats s₁).count .errors)
      (hwait : (handle (.sleep config.errorBackoff.toFloat) s₂).2 = s') :
      Round config runCycle (.error e) s s'

/-- Rounds one after the other, with the outcomes of their cycles. -/
inductive Rounds (config : EngineConfig) (runCycle : WorkerAction Unit) :
    List (Outcome Unit) → σ → σ → Prop where
  | none {s : σ} :
      Rounds config runCycle [] s s
  | more {o : Outcome Unit} {outcomes : List (Outcome Unit)} {s s₁ s' : σ}
      (hround : Round handle stopped stats config runCycle o s s₁)
      (hrest : Rounds config runCycle outcomes s₁ s') :
      Rounds config runCycle (o :: outcomes) s s'

/-! ### Visits -/

/-- Rules that are evaluated one after the other. -/
inductive Evaluations (again : Bool) : List Rule → σ → σ → Prop where
  | none {s : σ} :
      Evaluations again [] s s
  | more {r : Rule} {rules : List Rule} {s s₁ s' : σ}
      (hrule : (ExceptT.run (evaluateRule again r)).run handle s = (.ok (), s₁))
      (hrest : Evaluations again rules s₁ s') :
      Evaluations again (r :: rules) s s'

/-- The visit of a tenant: all rules that are loaded are evaluated; if they cannot be loaded,
that is counted as an error. -/
inductive Visit (again : Bool) (tenant : String) : σ → σ → Prop where
  | loaded {rules : List Rule} {s s₁ s' : σ}
      (hload : handle (.enabledRules tenant) s = (.ok rules, s₁))
      (hrules : Evaluations handle again rules s₁ s') :
      Visit again tenant s s'
  | unloaded {e : Failure} {s s₁ s' : σ}
      (hload : handle (.enabledRules tenant) s = (.error e, s₁))
      (hcount : (handle (.count .errors) s₁).2 = s') :
      Visit again tenant s s'

/-- Visits of tenants one after the other, each by a worker that is not stopped. -/
inductive Visits (again : Bool) : List String → σ → σ → Prop where
  | none {s : σ} :
      Visits again [] s s
  | more {tenant : String} {tenants : List String} {s s₁ s' : σ}
      (hgoing : stopped s = false)
      (hvisit : Visit handle again tenant s s₁)
      (hrest : Visits again tenants s₁ s') :
      Visits again (tenant :: tenants) s s'

end

variable {handle : (c : Call) → σ → c.Reply × σ} {stopped : σ → Bool} {stats : σ → Stats}
  {config : EngineConfig} {again : Bool}

/-! ### The flag -/

namespace Stoppable

variable {α : Type}

theorem run_of_stopped
    (h : Stoppable handle stopped stats)
    (p : Program Call Call.Reply α)
    {s : σ}
    (hs : stopped s = true) :
    stopped (p.run handle s).2 = true := by
  induction p generalizing s with
  | done x =>
      exact hs
  | call c next ih =>
      exact ih _ (h.stays c s hs)

/-- Who was stopped while something ran is stopped at its end. -/
theorem run_of_advance
    (h : Stoppable handle stopped stats)
    (p : Program Call Call.Reply α)
    (n : Nat) {s : σ}
    (hs : stopped (p.advance handle n s).2 = true) :
    stopped (p.run handle s).2 = true := by
  induction p generalizing n s with
  | done x =>
      cases n <;> exact hs
  | call c next ih =>
      cases n with
      | zero =>
          exact h.run_of_stopped (.call c next) hs
      | succ n =>
          exact ih _ n hs

end Stoppable

/-! ### The loop -/

theorem run_ask
    {α : Type}
    (c : Call) (f : c.Reply → WorkerAction α) (s : σ) :
    (ExceptT.run (WorkerAction.ask c >>= f)).run handle s =
      (ExceptT.run (f (handle c s).1)).run handle (handle c s).2 := by
  rw [run_bindAction]
  rfl

/-- A worker that is not stopped goes through one more round. -/
theorem exists_round
    (h : Stoppable handle stopped stats)
    (config : EngineConfig) (runCycle : WorkerAction Unit)
    {s : σ}
    (hs : stopped s = false) :
    ∃ o s', Round handle stopped stats config runCycle o s s' := by
  cases hcycle : (ExceptT.run runCycle).run handle s with
  | mk o s₁ =>
      cases o with
      | ok =>
          exact ⟨.ok (), _, .succeeds hs hcycle rfl⟩
      | error e =>
          exact ⟨.error e, _, .fails hs hcycle rfl (h.counts s₁) rfl⟩

section

variable {runCycle : WorkerAction Unit} {o : Outcome Unit} {outcomes : List (Outcome Unit)}
  {s s' : σ}

/-- A round is a turn that does not fail, and tells that the worker was stopped only if it was. -/
theorem Round.exists_turn
    (h : Stoppable handle stopped stats)
    (hround : Round handle stopped stats config runCycle o s s') :
    ∃ told, (ExceptT.run (turn config runCycle)).run handle s = (.ok told, s') ∧
      (told = true → stopped s' = true) := by
  cases hround with
  | succeeds _ hcycle hwait =>
      subst hwait
      refine ⟨_, ?_, h.woken _ _⟩
      rw [turn, run_bindAction, run_rescueAction, run_bindAction, hcycle]
      rfl
  | fails _ hcycle hcount _ hwait =>
      subst hcount hwait
      refine ⟨_, ?_, h.woken _ _⟩
      rw [turn, run_bindAction, run_rescueAction, run_bindAction, hcycle]
      rfl

theorem Round.going
    (hround : Round handle stopped stats config runCycle o s s') :
    stopped s = false := by
  cases hround with
  | succeeds hgoing | fails hgoing =>
      exact hgoing

/-- A worker that is stopped during a cycle goes through no other round. -/
theorem Round.stopped_of_advance
    (h : Stoppable handle stopped stats)
    (hround : Round handle stopped stats config runCycle o s s')
    (n : Nat)
    (hs : stopped ((ExceptT.run runCycle).advance handle n s).2 = true) :
    stopped s' = true := by
  have hcycled := h.run_of_advance _ n hs
  cases hround with
  | succeeds _ hcycle hwait =>
      rw [hcycle] at hcycled
      exact hwait ▸ h.stays _ _ hcycled
  | fails _ hcycle hcount _ hwait =>
      rw [hcycle] at hcycled
      exact hwait ▸ h.stays _ _ (hcount ▸ h.stays _ _ hcycled)

theorem run_of_stopped
    (h : Stoppable handle stopped stats)
    (hs : stopped s = true)
    (n : Nat) :
    (ExceptT.run (run config runCycle n)).run handle s = (.ok (), s) := by
  cases n with
  | zero =>
      rfl
  | succ n =>
      rw [run, run_ask, h.looks, hs]
      rfl

theorem run_of_going
    (h : Stoppable handle stopped stats)
    (hs : stopped s = false)
    (n : Nat) :
    (ExceptT.run (run config runCycle (n + 1))).run handle s =
      (ExceptT.run (do if ← turn config runCycle then pure () else run config runCycle n)).run
        handle s := by
  rw [run, run_ask, h.looks, hs]
  rfl

/-- The loop consists of rounds, and no failure escapes from it; it ends early only if the worker
was stopped. -/
theorem run_rounds
    (h : Stoppable handle stopped stats)
    (runCycle : WorkerAction Unit) (n : Nat) (s : σ) :
    ∃ outcomes s', Rounds handle stopped stats config runCycle outcomes s s' ∧
      (ExceptT.run (run config runCycle n)).run handle s = (.ok (), s') ∧
        outcomes.length ≤ n ∧ (outcomes.length < n → stopped s' = true) := by
  induction n generalizing s with
  | zero =>
      exact ⟨[], s, .none, rfl, le_refl 0, fun h => by cases h⟩
  | succ n ih =>
      cases hs : stopped s with
      | true =>
          exact ⟨[], s, .none, run_of_stopped h hs _, Nat.zero_le _, fun _ => hs⟩
      | false =>
          obtain ⟨o, s₁, hround⟩ := exists_round h config runCycle hs
          obtain ⟨told, hturn, htold⟩ := hround.exists_turn h
          rw [run_of_going h hs, run_bindAction, hturn]
          cases told with
          | true =>
              exact ⟨[o], s₁, .more hround .none, rfl, by simp, fun _ => htold rfl⟩
          | false =>
              obtain ⟨outcomes, s', hrounds, hrun, hlength, hstop⟩ := ih s₁
              refine ⟨o :: outcomes, s', .more hround hrounds, hrun, ?_, fun hless => hstop ?_⟩
              · exact Nat.succ_le_succ hlength
              · exact Nat.lt_of_succ_lt_succ hless

/-- Rounds up to a stop are all that the loop does, however many turns it is given. -/
theorem run_of_rounds
    (h : Stoppable handle stopped stats)
    (hrounds : Rounds handle stopped stats config runCycle outcomes s s')
    (hs' : stopped s' = true)
    {n : Nat}
    (hn : outcomes.length ≤ n) :
    (ExceptT.run (run config runCycle n)).run handle s = (.ok (), s') := by
  induction hrounds generalizing n with
  | none =>
      exact run_of_stopped h hs' n
  | @more o outcomes s s₁ s' hround hrest ih =>
      cases n with
      | zero =>
          cases hn
      | succ n =>
          obtain ⟨told, hturn, htold⟩ := hround.exists_turn h
          rw [run_of_going h hround.going, run_bindAction, hturn]
          cases told with
          | false =>
              exact ih hs' (Nat.le_of_succ_le_succ hn)
          | true =>
              cases hrest with
              | none =>
                  rfl
              | more hnext =>
                  rw [hnext.going] at htold
                  cases htold rfl

end

/-! ### The cycle -/

theorem exists_run_evaluateRule
    (handle : (c : Call) → σ → c.Reply × σ) (again : Bool) (r : Rule) (s : σ) :
    ∃ s', (ExceptT.run (evaluateRule again r)).run handle s = (.ok (), s') := by
  rw [run_evaluateRule]
  exact ⟨_, run_bind handle (noteRule again r) _ s⟩

theorem exists_evaluations
    (handle : (c : Call) → σ → c.Reply × σ) (again : Bool) (rules : List Rule) (s : σ) :
    ∃ s', Evaluations handle again rules s s' := by
  induction rules generalizing s with
  | nil =>
      exact ⟨s, .none⟩
  | cons r rules ih =>
      obtain ⟨s₁, hrule⟩ := exists_run_evaluateRule handle again r s
      obtain ⟨s', hrest⟩ := ih s₁
      exact ⟨s', .more hrule hrest⟩

theorem exists_visit
    (handle : (c : Call) → σ → c.Reply × σ) (again : Bool) (tenant : String) (s : σ) :
    ∃ s', Visit handle again tenant s s' := by
  cases hload : handle (.enabledRules tenant) s with
  | mk found s₁ =>
      cases found with
      | error e =>
          exact ⟨_, .unloaded hload rfl⟩
      | ok rules =>
          obtain ⟨s', hrules⟩ := exists_evaluations handle again rules s₁
          exact ⟨s', .loaded hload hrules⟩

section

variable {rules : List Rule} {tenant : String} {s s' : σ}

theorem Evaluations.run_eq
    (hrules : Evaluations handle again rules s s') :
    (ExceptT.run (evaluateRules again rules)).run handle s = (.ok (), s') := by
  induction hrules with
  | none =>
      rfl
  | more hrule _ ih =>
      rw [evaluateRules, run_bindAction, hrule]
      exact ih

/-- No failure escapes from a visit. -/
theorem Visit.run_eq
    (hvisit : Visit handle again tenant s s') :
    (ExceptT.run (evaluateTenant again tenant)).run handle s = (.ok (), s') := by
  have hlist {o : Outcome (List Rule)} {s₁ : σ}
      (hload : handle (.enabledRules tenant) s = (o, s₁)) :
      (ExceptT.run (ExceptT.mk (perform (Call.enabledRules tenant)) :
        WorkerAction (List Rule))).run handle s = (o, s₁) :=
    hload
  cases hvisit with
  | loaded hload hrules =>
      rw [evaluateTenant, WorkerAction.counted, run_rescueAction, run_bindAction, hlist hload]
      simp only [hrules.run_eq]
  | unloaded hload hcount =>
      subst hcount
      rw [evaluateTenant, WorkerAction.counted, run_rescueAction, run_bindAction, hlist hload]
      rfl

/-- A worker that is stopped during a visit makes no other one. -/
theorem Visit.stopped_of_advance
    (h : Stoppable handle stopped stats)
    (hvisit : Visit handle again tenant s s')
    (n : Nat)
    (hs : stopped ((ExceptT.run (evaluateTenant again tenant)).advance handle n s).2 = true) :
    stopped s' = true := by
  have hvisited := h.run_of_advance _ n hs
  rwa [hvisit.run_eq] at hvisited

end

/-- Tenants are visited one by one, up to the first stop. -/
theorem exists_visits
    (h : Stoppable handle stopped stats)
    (again : Bool) (tenants : List String) (s : σ) :
    ∃ visited rest s', tenants = visited ++ rest ∧ Visits handle stopped again visited s s' ∧
      (rest ≠ [] → stopped s' = true) ∧
        (ExceptT.run (evaluateTenants again tenants)).run handle s = (.ok (), s') := by
  induction tenants generalizing s with
  | nil =>
      exact ⟨[], [], s, rfl, .none, fun h => absurd rfl h, rfl⟩
  | cons tenant tenants ih =>
      rw [evaluateTenants, run_ask, h.looks]
      cases hs : stopped s with
      | true =>
          exact ⟨[], tenant :: tenants, s, rfl, .none, fun _ => hs, rfl⟩
      | false =>
          obtain ⟨s₁, hvisit⟩ := exists_visit handle again tenant s
          obtain ⟨visited, rest, s', hsplit, hvisits, hstop, hrun⟩ := ih s₁
          refine ⟨tenant :: visited, rest, s', ?_, .more hs hvisit hvisits, hstop, ?_⟩
          · rw [hsplit, List.cons_append]
          · rw [if_neg (by simp), run_bindAction, hvisit.run_eq]
            exact hrun

/-- A cycle visits the tenants one by one, up to the first stop. -/
theorem run_cycle_visits
    (h : Stoppable handle stopped stats)
    (hconcurrency : config.tenantConcurrency ≤ 1)
    {tenants : List String} {s s₁ : σ}
    (htenants : handle .tenants s = (.ok tenants, s₁)) :
    ∃ visited rest s', tenants = visited ++ rest ∧ Visits handle stopped again visited s₁ s' ∧
      (rest ≠ [] → stopped s' = true) ∧
        (ExceptT.run (cycle config again)).run handle s = (.ok (), (handle .endCycle s').2) := by
  obtain ⟨visited, rest, s', hsplit, hvisits, hstop, hrun⟩ :=
    exists_visits h again tenants s₁
  refine ⟨visited, rest, s', hsplit, hvisits, hstop, ?_⟩
  have hlist : (ExceptT.run listTenants).run handle s = (.ok tenants, s₁) := htenants
  rw [cycle, run_bindAction, hlist]
  change (ExceptT.run (evaluateAll config again tenants >>= fun _ =>
    WorkerAction.ask .endCycle)).run handle s₁ = _
  rw [evaluateAll, if_pos hconcurrency, run_bindAction, hrun]
  rfl

/-- A cycle fails if the tenants cannot be listed, before it visits any. -/
theorem run_cycle_of_error
    {e : Failure} {s s₁ : σ}
    (htenants : handle .tenants s = (.error e, s₁)) :
    (ExceptT.run (cycle config again)).run handle s = (.error e, s₁) := by
  have hlist : (ExceptT.run listTenants).run handle s = (.error e, s₁) := htenants
  rw [cycle, run_bindAction, hlist]

/-- **The loop obeys a stop and waits longer after a failure.** Whatever the cycles do and
however they end, and at whichever moment the worker is stopped, the loop consists of rounds: one
cycle at a time, each started by a worker that is not stopped, an error counted if it failed, and
the wait that is due. No failure escapes, and the loop ends early just where the worker is found
to be stopped; a stop during a cycle or during the wait makes the round the last. If a cycle goes
through the tenants one at a time, it visits them in their order up to a stop, and evaluates all
rules that are loaded for each that it visits; a stop during a visit makes the visit the last. -/
theorem loop_obeys
    (h : Stoppable handle stopped stats)
    (config : EngineConfig) (runCycle : WorkerAction Unit) (again : Bool) (s : σ) :
    (∀ n, ∃ outcomes s', Rounds handle stopped stats config runCycle outcomes s s' ∧
      (ExceptT.run (run config runCycle n)).run handle s = (.ok (), s') ∧
        outcomes.length ≤ n ∧ (outcomes.length < n → stopped s' = true)) ∧
    (∀ outcomes s', Rounds handle stopped stats config runCycle outcomes s s' →
      stopped s' = true → ∀ n, outcomes.length ≤ n →
        (ExceptT.run (run config runCycle n)).run handle s = (.ok (), s')) ∧
    (∀ o s', Round handle stopped stats config runCycle o s s' →
      ∀ n, stopped ((ExceptT.run runCycle).advance handle n s).2 = true → stopped s' = true) ∧
    (config.tenantConcurrency ≤ 1 →
      (∀ e s₁, handle .tenants s = (.error e, s₁) →
        (ExceptT.run (cycle config again)).run handle s = (.error e, s₁)) ∧
      ∀ tenants s₁, handle .tenants s = (.ok tenants, s₁) →
        ∃ visited rest s', tenants = visited ++ rest ∧
          Visits handle stopped again visited s₁ s' ∧ (rest ≠ [] → stopped s' = true) ∧
            (ExceptT.run (cycle config again)).run handle s =
              (.ok (), (handle .endCycle s').2)) ∧
    ∀ tenant s', Visit handle again tenant s s' →
      ∀ n, stopped ((ExceptT.run (evaluateTenant again tenant)).advance handle n s).2 = true →
        stopped s' = true :=
  ⟨fun n => run_rounds h runCycle n s,
    fun _ _ hrounds hs' _ hn => run_of_rounds h hrounds hs' hn,
    fun _ _ hround n hs => hround.stopped_of_advance h n hs,
    fun hconcurrency => ⟨fun _ _ htenants => run_cycle_of_error htenants,
      fun _ _ htenants => run_cycle_visits h hconcurrency htenants⟩,
    fun _ _ hvisit n hs => hvisit.stopped_of_advance h n hs⟩

/-- The surroundings of a worker that notes how long it waits. -/
structure Desk where
  stopped : Bool := false
  stats : Stats := {}
  waits : List Float := []

/-- The tenants cannot be listed before the first wait, and the worker is stopped during the
second one. -/
def Desk.serve : (c : Call) → Desk → c.Reply × Desk
  | .tenants, d => (if d.waits.isEmpty then .error .injected else .ok ["tenant-a"], d)
  | .enabledRules _, d => (.ok [], d)
  | .devicesOfType _ _, d => (.ok [], d)
  | .telemetry _ _, d => (.ok [], d)
  | .store _, d => (.error .injected, d)
  | .dispatch _, d => (⟨[], []⟩, d)
  | .now, d => (.epoch, d)
  | .freshId, d => ("", d)
  | .count c, d => ((), { d with stats := d.stats.count c })
  | .isStopping, d => (d.stopped, d)
  | .acquire _ _, d => ((), d)
  | .release _ _, d => ((), d)
  | .together _ _ _, d => ((), d)
  | .endCycle, d => ((), { d with stats := { d.stats with cycles := d.stats.cycles + 1 } })
  | .sleep wait, d =>
    let isStopped := d.stopped || d.waits.length == 1
    (isStopped, { d with waits := d.waits ++ [wait], stopped := isStopped })

theorem Desk.stoppable :
    Stoppable Desk.serve Desk.stopped Desk.stats where
  looks _ := rfl
  stays c d hd := by
    cases c with
    | sleep =>
        simp [serve, hd]
    | _ =>
        exact hd
  woken _ _ h := h
  counts _ := rfl

theorem loop_obeys_desk :
    Stoppable Desk.serve Desk.stopped Desk.stats ∧
      ∃ d : Desk, d.waits = [Seconds.toFloat (.whole 10), Seconds.toFloat (.whole 30)] ∧
        d.stats.errors = 1 ∧ d.stats.cycles = 1 ∧ ∀ n, 2 ≤ n →
          (ExceptT.run (run {} (cycle {} true) n)).run Desk.serve {} = (.ok (), d) := by
  obtain ⟨-, hreturns, -⟩ := loop_obeys Desk.stoppable {} (cycle {} true) true {}
  have hrounds : Rounds Desk.serve Desk.stopped Desk.stats {} (cycle {} true)
      [.error .injected, .ok ()] {}
      ⟨true, { errors := 1, cycles := 1 },
        [Seconds.toFloat (.whole 10), Seconds.toFloat (.whole 30)]⟩ :=
    .more (.fails rfl rfl rfl rfl rfl) (.more (.succeeds rfl rfl rfl) .none)
  exact ⟨Desk.stoppable, _, rfl, rfl, rfl, fun n hn => hreturns _ _ hrounds rfl n hn⟩

end Loop
end Worker
end TelemetryAlerts
