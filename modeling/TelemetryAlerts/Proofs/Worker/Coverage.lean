import TelemetryAlerts.Catalog.Rules
import TelemetryAlerts.Proofs.Catalog.Applicable
import TelemetryAlerts.Proofs.Program.Apart
import TelemetryAlerts.Proofs.Program.Replied
import TelemetryAlerts.Proofs.Worker.Cooldown
import TelemetryAlerts.Proofs.Worker.Outlook

/-!
# What a cycle evaluates

If the rules and the devices can be listed and nobody stops the worker, a cycle evaluates every
enabled rule of a listed tenant once for each device that it applies to, and nothing else. It makes
no difference what comes of an evaluation, and none in which order tenants are evaluated side by
side.

**Results.**
* `Worker.gives_applicableDevices`: the devices of a rule are those that it applies to.
* `Worker.gives_noteTenants`: what is noted of tenants, one after the other.
* `Worker.Undisturbed.exists_noted`: a cycle is a run of tasks that evaluate tenants.
* `evaluated_once`: these together.
-/

namespace TelemetryAlerts

open Program (Ends Gives gives_bind_iff gives_of_forall)

namespace Worker

/-- What a cycle is told if nothing fails and nobody stops it: what the sources of rules and
devices say. Telemetry, the store and all else may reply in any way, and fail. -/
def Tells (catalog : RuleSource) (directory : DeviceSource) : (c : Call) → c.Reply → Prop
  | .tenants, o => o = directory.tenants
  | .enabledRules t, o => o = catalog.enabledOf t
  | .devicesOfType t type, o => o = directory.ofType t type
  | .isStopping, stopping => stopping = false
  | _, _ => True

/-- Rules, each with the devices that it applies to. -/
def pairs (directory : DeviceSource) (rules : List Rule) : List (Rule × String) :=
  rules.flatMap fun r => (directory.devicesFor r).map fun device => (r, device)

/-- The rules that are evaluated for a tenant. -/
def rulesOf (rules : List Rule) (tenant : String) : List Rule :=
  rules.filter fun r => r.tenant == tenant && r.enabled

/-- The rules that are evaluated for some of the tenants. -/
def rulesDue (rules : List Rule) (tenants : List String) : List Rule :=
  rules.filter fun r => r.enabled && tenants.contains r.tenant

section

variable {catalog : RuleSource} {directory : DeviceSource} {again : Bool} {r : Rule}
  {ids : List String} {rules : List Rule} {tenants : List String} {device : String}

/-! ### What is due -/

theorem pairs_append
    (rules rules' : List Rule) :
    pairs directory (rules ++ rules') = pairs directory rules ++ pairs directory rules' :=
  List.flatMap_append

theorem flatMap_pairs
    (directory : DeviceSource) (rules : List Rule) (parts : List (List String)) :
    (parts.flatMap fun part => pairs directory (part.flatMap (rulesOf rules))) =
      pairs directory (parts.flatten.flatMap (rulesOf rules)) := by
  induction parts with
  | nil =>
      rfl
  | cons part rest ih =>
      rw [List.flatMap_cons, ih, List.flatten_cons, List.flatMap_append, pairs_append]

theorem mem_pairs :
    (r, device) ∈ pairs directory rules ↔ r ∈ rules ∧ device ∈ directory.devicesFor r := by
  simp only [pairs, List.mem_flatMap, List.mem_map, Prod.mk.injEq]
  constructor
  · rintro ⟨r', hr', device', hdevice', rfl, rfl⟩
    exact ⟨hr', hdevice'⟩
  · rintro ⟨hr, hdevice⟩
    exact ⟨r, hr, device, hdevice, rfl, rfl⟩

theorem nodup_pairs
    (directory : DeviceSource)
    (hrules : rules.Nodup) :
    (pairs directory rules).Nodup := by
  refine List.nodup_flatMap.mpr ⟨fun r _ => ?_, hrules.imp fun {r r'} hne => ?_⟩
  · exact (directory.nodup_devicesFor r).map fun _ _ h => (Prod.mk.inj h).2
  · intro v hv hv'
    obtain ⟨_, _, rfl⟩ := List.mem_map.mp hv
    obtain ⟨_, _, hsame⟩ := List.mem_map.mp hv'
    exact hne (Prod.mk.inj hsame).1.symm

theorem mem_rulesDue :
    r ∈ rulesDue rules tenants ↔ r ∈ rules ∧ r.enabled = true ∧ r.tenant ∈ tenants := by
  simp [rulesDue]

/-- The rules of several tenants are the rules that are due, unless a tenant counts twice. -/
theorem rulesOf_perm_rulesDue
    (hnodup : tenants.Nodup)
    (rules : List Rule) :
    (tenants.flatMap (rulesOf rules)).Perm (rulesDue rules tenants) := by
  induction tenants with
  | nil =>
      simp [rulesDue]
  | cons t rest ih =>
      obtain ⟨hfresh, hnodup⟩ := List.nodup_cons.mp hnodup
      have hfirst : (rulesDue rules (t :: rest)).filter (fun r => r.tenant == t) =
          rulesOf rules t := by
        rw [rulesDue, rulesOf, List.filter_filter]
        refine List.filter_congr fun r _ => ?_
        by_cases hr : r.tenant = t
        · simp [hr]
        · simp [beq_false_of_ne hr]
      have hothers : (rulesDue rules (t :: rest)).filter (fun r => !(r.tenant == t)) =
          rulesDue rules rest := by
        rw [rulesDue, rulesDue, List.filter_filter]
        refine List.filter_congr fun r _ => ?_
        by_cases hr : r.tenant = t
        · simp [hr, hfresh]
        · simp [hr]
      rw [List.flatMap_cons, ← hfirst]
      refine ((ih hnodup).append_left _).trans ?_
      rw [← hothers]
      exact List.filter_append_perm _ _

/-! ### What is noted -/

theorem gives_devicesOfTypes
    (tenant : String) (types : List String) :
    (ExceptT.run (devicesOfTypes tenant types)).Gives (Tells catalog directory) fun o =>
      o = List.flatten <$> types.mapM fun type => directory.ofType tenant type := by
  induction types with
  | nil =>
      exact rfl
  | cons type rest ih =>
      intro o ho
      obtain rfl : o = directory.ofType tenant type := ho
      cases hhere : directory.ofType tenant type with
      | error f =>
          rw [List.mapM_cons, hhere]
          exact rfl
      | ok here =>
          change Gives _ (ExceptT.run (devicesOfTypes tenant rest) >>=
            ExceptT.bindCont fun more => pure (here ++ more)) _
          refine gives_bind_iff.mpr (ih.weaken fun o ho => ?_)
          rw [List.mapM_cons, hhere]
          cases hrest : rest.mapM fun type => directory.ofType tenant type with
          | error f =>
              rw [hrest] at ho
              rw [ho]
              exact rfl
          | ok found =>
              rw [hrest] at ho
              rw [ho]
              exact rfl

/-- The devices of a rule are those that it applies to, each once. -/
theorem gives_applicableDevices
    (r : Rule) :
    (ExceptT.run (applicableDevices r)).Gives (Tells catalog directory) fun o =>
      o = withoutRepeats <$> directory.named r := by
  unfold applicableDevices DeviceSource.named
  cases r.target with
  | device =>
      exact rfl
  | deviceType =>
      refine gives_bind_iff.mpr ((gives_devicesOfTypes r.tenant r.deviceTypes).weaken fun o ho => ?_)
      rw [← ho]
      cases o <;> exact rfl

theorem gives_noteDevice
    (r : Rule) (device : String) :
    (noteDevice again r device).Gives (Tells catalog directory) fun n =>
      n.visit? = some (r, device) := by
  refine gives_bind_iff.mpr (gives_of_forall fun reply => ?_)
  refine gives_bind_iff.mpr (gives_of_forall fun o => ?_)
  exact gives_bind_iff.mpr (gives_of_forall fun _ => rfl)

theorem gives_noteDevices
    (r : Rule) (devices : List String) :
    (noteDevices again r devices).Gives (Tells catalog directory) fun js =>
      js.map Note.visit? = (devices.map fun device => (r, device)).map some := by
  induction devices with
  | nil =>
      exact rfl
  | cons device rest ih =>
      refine gives_bind_iff.mpr ((gives_noteDevice r device).weaken fun n hn => ?_)
      refine gives_bind_iff.mpr (ih.weaken fun js hjs => ?_)
      change (n :: js).map Note.visit? = _
      rw [List.map_cons, hn, hjs]
      rfl

theorem gives_noteRule
    (hr : directory.named r = .ok ids) :
    (noteRule again r).Gives (Tells catalog directory) fun js =>
      js.map Note.visit? = (pairs directory [r]).map some := by
  refine gives_bind_iff.mpr ((gives_applicableDevices r).weaken fun o ho => ?_)
  rw [hr] at ho
  rw [ho, pairs, List.flatMap_singleton, DeviceSource.devicesFor_of_named hr]
  refine gives_bind_iff.mpr ((gives_noteDevices r _).weaken fun js hjs => ?_)
  exact fun _ _ => hjs

/-- Each rule is evaluated for its devices. -/
theorem gives_noteRules
    (hrules : ∀ r ∈ rules, ∃ ids, directory.named r = .ok ids) :
    (noteRules again rules).Gives (Tells catalog directory) fun js =>
      js.map Note.visit? = (pairs directory rules).map some := by
  induction rules with
  | nil =>
      exact rfl
  | cons r rest ih =>
      obtain ⟨ids, hids⟩ := hrules r (by simp)
      refine gives_bind_iff.mpr ((gives_noteRule hids).weaken fun js hjs => ?_)
      refine gives_bind_iff.mpr ((ih fun r' hr' => hrules r' (List.mem_cons_of_mem _ hr')).weaken
        fun js' hjs' => ?_)
      change (js ++ js').map Note.visit? = _
      rw [List.map_append, hjs, hjs', ← List.map_append, ← pairs_append, List.singleton_append]

theorem gives_noteTenant
    {t : String}
    (hrules : catalog.rules = .ok rules)
    (hnamed : ∀ r ∈ rulesOf rules t, ∃ ids, directory.named r = .ok ids) :
    (noteTenant again t).Gives (Tells catalog directory) fun js =>
      js.map Note.visit? = (pairs directory (rulesOf rules t)).map some := by
  have henabled : catalog.enabledOf t = .ok (rulesOf rules t) := by
    rw [RuleSource.enabledOf, hrules]
    rfl
  intro o ho
  obtain rfl : o = .ok (rulesOf rules t) := Eq.trans ho henabled
  exact gives_noteRules hnamed

/-- Each tenant's rules are evaluated. -/
theorem gives_noteTenants
    (hrules : catalog.rules = .ok rules)
    (hnamed : ∀ t ∈ tenants, ∀ r ∈ rulesOf rules t, ∃ ids, directory.named r = .ok ids) :
    (noteTenants again tenants).Gives (Tells catalog directory) fun js =>
      js.map Note.visit? = (pairs directory (tenants.flatMap (rulesOf rules))).map some := by
  induction tenants with
  | nil =>
      exact rfl
  | cons t rest ih =>
      intro stopping hstopping
      obtain rfl : stopping = false := hstopping
      change Gives _ (noteTenant again t >>= fun js => noteTenants again rest >>= fun js' =>
        pure (js ++ js')) _
      refine gives_bind_iff.mpr ((gives_noteTenant hrules (hnamed t (by simp))).weaken
        fun js hjs => ?_)
      refine gives_bind_iff.mpr ((ih fun t' ht' => hnamed t' (List.mem_cons_of_mem _ ht')).weaken
        fun js' hjs' => ?_)
      change (js ++ js').map Note.visit? = _
      rw [List.map_append, hjs, hjs', ← List.map_append, ← pairs_append, List.flatMap_cons]

end

/-! ### Cycles -/

/-- The tasks of tenants that are evaluated side by side. -/
def sideBySide (again : Bool) (tenants : List String) (k : ℕ) : WorkerAction Unit :=
  match tenants[k]? with
  | some t => evaluateUnlessStopping again t
  | none => pure ()

section

variable {σ : Type} {catalog : RuleSource} {directory : DeviceSource} {config : EngineConfig}
  {again : Bool} {rules : List Rule} {tenants : List String} {s t : σ}

/-- Surroundings in which nothing fails on the way to an evaluation, and in which nobody stops a
cycle. Where tenants are to be evaluated side by side, their tasks take turns in any way until all
of them have ended. -/
structure Undisturbed
    (catalog : RuleSource) (directory : DeviceSource)
    (effect : ℕ → (c : Call) → σ → c.Reply → σ → Prop) : Prop where
  tells : ∀ i c s r t, effect i c s r t → Tells catalog directory c r
  together : ∀ limit again tenants s t, effect 0 (.together limit again tenants) s () t →
    ∃ o : ℕ → Outcome Unit,
      Pool.Reaches effect ⟨s, fun k => ExceptT.run (sideBySide again tenants k)⟩
        ⟨t, fun k => .done (o k)⟩

variable {effect : ℕ → (c : Call) → σ → c.Reply → σ → Prop}

/-- A cycle with what its tasks note: the tenants are listed, their tasks run to their ends, and
the cycle is ended. -/
def NotedCycle
    (effect : ℕ → (c : Call) → σ → c.Reply → σ → Prop) (config : EngineConfig) (again : Bool)
    (tenants : List String) (s : σ) (js : ℕ → Journal) (t : σ) : Prop :=
  ∃ s' t', effect 0 .tenants s (.ok tenants) s' ∧
    Pool.Reaches effect ⟨s', fun k => noteTenants again ((jobs config tenants)[k]?.getD [])⟩
      ⟨t', fun k => .done (js k)⟩ ∧
    effect 0 .endCycle t' () t

theorem run_evaluateUnlessStopping
    (again : Bool) (t : String) :
    ExceptT.run (evaluateUnlessStopping again t) = ExceptT.run (evaluateTenants again [t]) := by
  refine congrArg (Program.call Call.isStopping) (funext fun stopping => ?_)
  cases stopping with
  | true =>
      rfl
  | false =>
      change ExceptT.run (evaluateTenant again t) =
        ExceptT.run (evaluateTenant again t >>= fun _ => pure ())
      rw [bind_pure_unit]

theorem run_sideBySide
    (again : Bool) (tenants : List String) (k : ℕ) :
    ExceptT.run (sideBySide again tenants k) =
      (fun _ => .ok ()) <$> noteTenants again ((tenants.map fun t => [t])[k]?.getD []) := by
  rw [← run_evaluateTenants, sideBySide, List.getElem?_map]
  cases tenants[k]? with
  | none =>
      rfl
  | some t =>
      exact run_evaluateUnlessStopping again t

/-- Evaluating all tenants does not fail, and is a run of the tasks of a cycle. -/
theorem Undisturbed.exists_journals_of_all
    {o : Outcome Unit}
    (h : Undisturbed catalog directory effect)
    (hends : Ends (effect 0) (ExceptT.run (evaluateAll config again tenants)) s o t) :
    o = .ok () ∧ ∃ js : ℕ → Journal,
      Pool.Reaches effect ⟨s, fun k => noteTenants again ((jobs config tenants)[k]?.getD [])⟩
        ⟨t, fun k => .done (js k)⟩ := by
  unfold evaluateAll at hends
  unfold jobs
  split_ifs at hends ⊢
  · -- the other tasks have nothing to do
    rw [run_evaluateTenants, map_eq_pure_bind] at hends
    obtain ⟨js, t', hnoted, hdone⟩ := hends.exists_of_bind
    cases hdone
    have hreaches := Pool.reaches_of_ends
      (w := ⟨s, fun k => noteTenants again ([tenants][k]?.getD [])⟩) (i := 0) hnoted
    refine ⟨rfl, fun k => if k = 0 then js else [], ?_⟩
    convert hreaches using 2
    funext k
    cases k <;> rfl
  · cases hends with
    | call hcall hdone =>
        cases hdone
        obtain ⟨o, hreaches⟩ := h.together _ _ _ _ _ hcall
        simp only [run_sideBySide] at hreaches
        obtain ⟨js, -, hnoted⟩ := hreaches.exists_done_of_map
        exact ⟨rfl, js, hnoted⟩

/-- A cycle does not fail, and what it does is noted. -/
theorem Undisturbed.exists_noted
    {o : Outcome Unit}
    (h : Undisturbed catalog directory effect)
    (htenants : directory.tenants = .ok tenants)
    (hends : Ends (effect 0) (ExceptT.run (cycle config again)) s o t) :
    o = .ok () ∧ ∃ js, NotedCycle effect config again tenants s js t := by
  rw [cycle, ExceptT.run_bind] at hends
  obtain ⟨listed, s', hlist, hrest⟩ := hends.exists_of_bind
  cases hlist with
  | call hlist hdone =>
      cases hdone
      obtain rfl : listed = .ok tenants := (h.tells _ _ _ _ _ hlist).trans htenants
      dsimp only at hrest
      rw [ExceptT.run_bind] at hrest
      obtain ⟨o', t', hall, hend⟩ := hrest.exists_of_bind
      obtain ⟨rfl, js, hreaches⟩ := h.exists_journals_of_all hall
      cases hend with
      | call hend hdone =>
          cases hdone
          exact ⟨rfl, js, s', t', hlist, hreaches, hend⟩

/-! ### Evaluations of a cycle -/

/-- All that a cycle evaluates is noted, and is what is due. -/
theorem NotedCycle.visits
    {js : ℕ → Journal}
    (h : NotedCycle effect config again tenants s js t)
    (hundisturbed : Undisturbed catalog directory effect)
    (hnodup : tenants.Nodup)
    (hrules : catalog.rules = .ok rules)
    (hnamed : ∀ r ∈ rulesDue rules tenants, ∃ ids, directory.named r = .ok ids) :
    (((List.range (jobs config tenants).length).flatMap js).map Note.visit?).Perm
      ((pairs directory (rulesDue rules tenants)).map some) := by
  obtain ⟨s', t', -, hreaches, -⟩ := h
  have hdue := rulesOf_perm_rulesDue hnodup rules
  have hpart (k : ℕ) : ∀ t ∈ (jobs config tenants)[k]?.getD [], ∀ r ∈ rulesOf rules t, ∃ ids,
      directory.named r = .ok ids := fun t ht r hr =>
    hnamed r (hdue.mem_iff.mp (List.mem_flatMap.mpr ⟨t, mem_of_mem_jobs ht, hr⟩))
  have hnoted (k : ℕ) : (js k).map Note.visit? = (pairs directory
      (((jobs config tenants)[k]?.getD []).flatMap (rulesOf rules))).map some :=
    hreaches.gives hundisturbed.tells (fun k => gives_noteTenants hrules (hpart k)) k
  have hvisits : ((List.range (jobs config tenants).length).flatMap js).map Note.visit? =
      (pairs directory (tenants.flatMap (rulesOf rules))).map some := by
    simp only [List.map_flatMap, hnoted]
    rw [flatMap_range_getD _ fun part => (pairs directory (part.flatMap (rulesOf rules))).map some,
      ← List.map_flatMap, flatMap_pairs, flatten_jobs]
  rw [hvisits]
  exact (hdue.flatMap_right _).map some

end
end Worker

open Worker

/-- The devices of a rule are returned without repeats, in the order in which they first occur: its
own devices, or those of its types. What is listed is found, so that these are the devices that are
listed under one of the types.

A cycle of a directory that lists each tenant once, in which nothing fails on the way to an
evaluation and which nobody stops, does not fail. It is a run of tasks, and what they evaluate is
due: each enabled rule of a listed tenant, as often as it is there, once for each device that it
applies to. -/
theorem evaluated_once
    {σ : Type}
    (catalog : RuleSource) (directory : DeviceSource) :
    (∀ (r : Rule) (ids : List String), directory.named r = .ok ids →
      IsFirsts (directory.devicesFor r) ids ∧
      (∀ device, device ∈ directory.devicesFor r ↔ directory.Applies r device) ∧
      ∀ (handle : (c : Call) → σ → c.Reply × σ),
        (∀ c s, Tells catalog directory c (handle c s).1) → ∀ s,
          (Program.run handle (ExceptT.run (applicableDevices r)) s).1 =
            .ok (directory.devicesFor r)) ∧
    (∀ has, directory.Lists has → (∀ r, ∃ ids, directory.named r = .ok ids) ∧
      ∀ tenant type device, directory.Finds tenant type device ↔ has tenant type device) ∧
    ∀ (effect : ℕ → (c : Call) → σ → c.Reply → σ → Prop) (config : EngineConfig) (again : Bool)
      (tenants : List String) (rules : List Rule),
      Undisturbed catalog directory effect →
      directory.tenants = .ok tenants → tenants.Nodup →
      catalog.rules = .ok rules →
      (∀ r ∈ rulesDue rules tenants, ∃ ids, directory.named r = .ok ids) →
        (∀ s o t, Ends (effect 0) (ExceptT.run (cycle config again)) s o t →
          o = .ok () ∧ ∃ js, NotedCycle effect config again tenants s js t) ∧
        (∀ s js t, NotedCycle effect config again tenants s js t →
          (((List.range (jobs config tenants).length).flatMap js).map Note.visit?).Perm
            ((pairs directory (rulesDue rules tenants)).map some)) ∧
        (∀ r device, (r, device) ∈ pairs directory (rulesDue rules tenants) ↔
          (r ∈ rules ∧ r.enabled = true ∧ r.tenant ∈ tenants) ∧ directory.Applies r device) ∧
        (rules.Nodup → (pairs directory (rulesDue rules tenants)).Nodup) := by
  refine ⟨fun r ids hids => ⟨?_, fun device => DeviceSource.mem_devicesFor hids, ?_⟩,
    fun has hlists => ⟨hlists.exists_named, fun _ _ _ => hlists.finds_iff⟩, ?_⟩
  · rw [DeviceSource.devicesFor_of_named hids]
    exact isFirsts_withoutRepeats ids
  · intro handle hhandle s
    rw [(gives_applicableDevices r).run hhandle s, hids, DeviceSource.devicesFor_of_named hids]
    rfl
  · intro effect config again tenants rules hundisturbed htenants hnodup hrules hnamed
    refine ⟨fun s o t => hundisturbed.exists_noted htenants, fun s js t h =>
      h.visits hundisturbed hnodup hrules hnamed, fun r device => ?_, fun hdistinct =>
      nodup_pairs directory (hdistinct.filter _)⟩
    rw [mem_pairs, mem_rulesDue]
    refine and_congr_right fun hr => ?_
    obtain ⟨ids, hids⟩ := hnamed r (mem_rulesDue.mpr hr)
    exact DeviceSource.mem_devicesFor hids

/-- Pumps and a probe of a tenant. -/
def pumpTable : DeviceTable :=
  [("tenant-a", [("pump-1", "pump"), ("pump-2", "pump"), ("probe-1", "sensor")])]

/-- A rule for pumps, which names their type twice. -/
def pumpsRule : Rule :=
  { doorRule with target := .deviceType, devices := ["probe-1"], deviceTypes := ["pump", "pump"] }

/-- Surroundings that tell what the sources say, and fail whenever something is stored. -/
def answers (catalog : RuleSource) (directory : DeviceSource) : (c : Call) → Unit → c.Reply × Unit
  | .tenants, _ => (directory.tenants, ())
  | .enabledRules t, _ => (catalog.enabledOf t, ())
  | .devicesOfType t type, _ => (directory.ofType t type, ())
  | .telemetry _ _, _ => (.ok [("door", .bool true)], ())
  | .store _, _ => (.error .injected, ())
  | .dispatch _, _ => ({}, ())
  | .now, _ => (.epoch, ())
  | .freshId, _ => ("", ())
  | .count _, _ => ((), ())
  | .isStopping, _ => (false, ())
  | .acquire _ _, _ => ((), ())
  | .release _ _, _ => ((), ())
  | .together _ _ _, _ => ((), ())
  | .endCycle, _ => ((), ())
  | .sleep _, _ => (false, ())

theorem tells_answers
    (catalog : RuleSource) (directory : DeviceSource) (c : Call) (s : Unit) :
    Tells catalog directory c (answers catalog directory c s).1 := by
  cases c <;> first | rfl | trivial

theorem undisturbed_answers
    (catalog : RuleSource) (directory : DeviceSource) :
    Undisturbed catalog directory (Pool.Apart fun _ : ℕ => answers catalog directory) where
  tells := by
    rintro i c s r t ⟨rfl, -⟩
    exact tells_answers catalog directory c (s i)
  together := by
    intro limit again tenants s t _
    obtain ⟨w, hreaches, hended⟩ := Pool.exists_reaches_done (fun _ => answers catalog directory)
      ⟨s, fun k => ExceptT.run (sideBySide again tenants k)⟩ (Finset.range tenants.length)
    have hdone (k : ℕ) : ∃ o : Outcome Unit, w.rest k = .done o := by
      by_cases hk : k < tenants.length
      · exact hended k (Finset.mem_range.mpr hk)
      · refine ⟨.ok (), hreaches.rest_of_done ?_⟩
        simp only [sideBySide, List.getElem?_eq_none (not_lt.mp hk)]
        rfl
    choose o ho using hdone
    refine ⟨o, ?_⟩
    rcases w with ⟨u, rest⟩
    obtain rfl : rest = fun k => .done (o k) := funext ho
    rwa [Subsingleton.elim t u]

theorem evaluated_once_pump :
    (Program.run (answers (.fixed [pumpsRule]) (.fixed pumpTable))
        (ExceptT.run (applicableDevices pumpsRule)) ()).1 = .ok ["pump-1", "pump-2"] ∧
      ∀ config : EngineConfig, ∃ s t js,
        NotedCycle (Pool.Apart fun _ : ℕ => answers (.fixed [pumpsRule]) (.fixed pumpTable)) config
          false ["tenant-a"] s js t ∧
        (((List.range (jobs config ["tenant-a"]).length).flatMap js).map Note.visit?).Perm
          [some (pumpsRule, "pump-1"), some (pumpsRule, "pump-2")] := by
  have hfor : DeviceSource.devicesFor (.fixed pumpTable) pumpsRule = ["pump-1", "pump-2"] := by
    decide
  have htenants : DeviceSource.tenants (.fixed pumpTable) = .ok ["tenant-a"] := by
    simp [DeviceSource.tenants, rising, pumpTable]
  have hdue : pairs (.fixed pumpTable) (rulesDue [pumpsRule] ["tenant-a"]) =
      [(pumpsRule, "pump-1"), (pumpsRule, "pump-2")] := by
    change pairs (.fixed pumpTable) [pumpsRule] = _
    rw [pairs, List.flatMap_singleton, hfor]
    rfl
  have hlists := DeviceSource.Lists.fixed pumpTable
  obtain ⟨hdevices, -, -⟩ := @evaluated_once Unit (.fixed [pumpsRule]) (.fixed pumpTable)
  obtain ⟨-, -, hcycles⟩ := @evaluated_once (ℕ → Unit) (.fixed [pumpsRule]) (.fixed pumpTable)
  obtain ⟨ids, hids⟩ := hlists.exists_named pumpsRule
  obtain ⟨-, -, hreturns⟩ := hdevices pumpsRule ids hids
  refine ⟨(hreturns _ (tells_answers _ _) ()).trans (congrArg Except.ok hfor), fun config => ?_⟩
  obtain ⟨hruns, hvisits, -⟩ := hcycles _ config false ["tenant-a"] [pumpsRule]
    (undisturbed_answers _ _) htenants (by simp) rfl fun r _ => hlists.exists_named r
  obtain ⟨-, js, hnoted⟩ := hruns _ _ _ (Pool.ends_apart (fun _ => answers _ _) 0
    (ExceptT.run (cycle config false)) fun _ => ())
  refine ⟨_, _, js, hnoted, ?_⟩
  have hperm := hvisits _ _ _ hnoted
  rwa [hdue] at hperm

end TelemetryAlerts
