import TelemetryAlerts.Catalog.Devices
import TelemetryAlerts.Catalog.Rules
import TelemetryAlerts.Proofs.Worker.Isolation
import Mathlib.Data.List.Duplicate

/-!
# Tenants at one store

A store tells alerts by their rules and devices, not by their tenants: a rule and a device have
one open alert and one last alert, whoever the tenant is. So tenants do not get in each other's way
as long as the store tells their rules and devices apart. Two runs that show a tenant the
same come to the same for it, whatever they show other tenants: each of its evaluations has the
same outcome, and its alerts are alike.

**Results.**
* `Outlook.occasions_tenant`: what is evaluated for a tenant is told by what it is shown.
* `Setting.Cycle.agree`, `Outlook.Cycles.agree`: two cycles, and two runs of cycles, come to the
  same for a tenant.
* `tenants_undisturbed`: so it is at both stores, if tenants share no rule and device.
* `tenants_undisturbed_not`: tenants that share a rule and a device get in each other's way.
-/

namespace TelemetryAlerts

/-! ### What a tenant is shown -/

namespace Outlook

/-- Whether the tenants, the rules and the devices are those of catalogs that can be loaded. -/
structure Loads (x : Outlook) (rules : RuleSource) (devices : DeviceSource) : Prop where
  listed : devices.tenants = .ok x.tenants
  enabled : ∀ t, rules.enabledOf t = .ok (x.rules t)
  typed : ∀ t type, devices.ofType t type = .ok (x.devices t type)

/-- Whether two cycles show a tenant the same. -/
structure AgreesFor (tenant : String) (x y : Outlook) : Prop where
  tenants : x.tenants.count tenant = y.tenants.count tenant
  rules : x.rules tenant = y.rules tenant
  devices : x.devices tenant = y.devices tenant
  telemetry : ∀ device, x.telemetry device tenant = y.telemetry device tenant
  report : ∀ r, r.tenant = tenant → x.report r = y.report r
  now : x.now = y.now

variable {x y : Outlook} {config : EngineConfig} {tenant : String} {rules : RuleSource}
  {devices : DeviceSource} {r : Rule} {device : String} {i : ℕ}

/-- The rules of a tenant are its own. -/
theorem Loads.tenant_eq
    (h : x.Loads rules devices)
    {t : String}
    (hr : r ∈ x.rules t) :
    r.tenant = t := by
  obtain ⟨found, -, hfound⟩ := bind_eq_ok.mp (h.enabled t)
  rw [← Except.ok.inj hfound, List.mem_filter, Bool.and_eq_true] at hr
  exact eq_of_beq hr.2.1

/-- Whether an evaluation is for a tenant. -/
def isOf (tenant : String) (r : Rule) (_ : String) : Bool :=
  r.tenant == tenant

/-- What is due for a tenant is what is due each time it is listed. -/
theorem Loads.filter_visits
    (h : x.Loads rules devices)
    (tenants : List String) :
    (x.visits tenants).filter (fun v => isOf tenant v.1 v.2) =
      (List.replicate (tenants.count tenant) tenant).flatMap fun t => x.visits [t] := by
  induction tenants with
  | nil =>
      rfl
  | cons t rest ih =>
      have hcons : x.visits (t :: rest) = x.visits [t] ++ x.visits rest := by
        simp [visits]
      have hall {v : Rule × String} (hv : v ∈ x.visits [t]) : v.1.tenant = t := by
        obtain ⟨t', ht', hr, -⟩ := mem_visits.mp hv
        rw [List.mem_singleton.mp ht'] at hr
        exact h.tenant_eq hr
      rw [hcons, List.filter_append, ih]
      by_cases ht : t = tenant
      · have hkept : (x.visits [t]).filter (fun v => isOf tenant v.1 v.2) = x.visits [t] :=
          List.filter_eq_self.mpr fun v hv => by simp [isOf, hall hv, ht]
        rw [hkept, ht, List.count_cons_self, List.replicate_succ, List.flatMap_cons]
      · have hnone : (x.visits [t]).filter (fun v => isOf tenant v.1 v.2) = [] :=
          List.filter_eq_nil_iff.mpr fun v hv => by simp [isOf, hall hv, ht]
        rw [hnone, List.count_cons_of_ne ht, List.nil_append]

theorem AgreesFor.targets
    (h : AgreesFor tenant x y)
    (hr : r.tenant = tenant) :
    x.targets r = y.targets r := by
  unfold Outlook.targets
  rw [hr, h.devices]

/-- What is evaluated for a tenant is told by what it is shown. -/
theorem occasions_tenant
    {rules' : RuleSource} {devices' : DeviceSource}
    (hx : x.Loads rules devices)
    (hy : y.Loads rules' devices')
    (h : AgreesFor tenant x y) :
    x.occasions (isOf tenant) (x.visits x.tenants) =
      y.occasions (isOf tenant) (y.visits y.tenants) := by
  have hvisits : x.visits [tenant] = y.visits [tenant] := by
    simp only [visits, List.flatMap_singleton, h.rules]
    refine List.flatMap_congr fun r hr => ?_
    rw [h.targets (hy.tenant_eq hr)]
  have hsame (n : ℕ) : ((List.replicate n tenant).flatMap fun t => x.visits [t]) =
      (List.replicate n tenant).flatMap fun t => y.visits [t] := by
    refine List.flatMap_congr fun t ht => ?_
    rw [List.eq_of_mem_replicate ht, hvisits]
  rw [occasions, occasions, hx.filter_visits, hy.filter_visits, h.tenants, hsame]
  refine List.map_congr_left fun v hv => ?_
  rw [← hy.filter_visits, List.mem_filter, isOf, beq_iff_eq] at hv
  rw [hv.2, h.telemetry]

/-! ### Who evaluates a tenant -/

/-- The task of a cycle that evaluates a tenant; if there is none, one that is idle. -/
def taskFor (x : Outlook) (config : EngineConfig) (tenant : String) : ℕ :=
  (jobs config x.tenants).findIdx fun part => part.contains tenant

/-- A tenant is evaluated by one task, unless it is listed twice and tenants are evaluated side by
side. -/
theorem taskFor_eq
    (hsole : config.tenantConcurrency ≤ 1 ∨ x.tenants.count tenant ≤ 1)
    (hi : tenant ∈ (jobs config x.tenants)[i]?.getD []) :
    x.taskFor config tenant = i := by
  have hlt : i < (jobs config x.tenants).length := by
    by_contra hout
    rw [List.getElem?_eq_none (not_lt.mp hout)] at hi
    cases hi
  rw [List.getElem?_eq_getElem hlt, Option.getD_some] at hi
  refine (List.findIdx_eq hlt).mpr ⟨List.contains_iff_mem.mpr hi, fun j hj => ?_⟩
  rw [Bool.eq_false_iff, ne_eq, List.contains_iff_mem]
  intro hother
  unfold jobs at hi hother hlt
  split_ifs at hi hother hlt with hone
  · simp only [List.length_singleton] at hlt
    omega
  · rw [List.length_map] at hlt
    rw [List.getElem_map, List.mem_singleton] at hi hother
    have htwice : x.tenants.Duplicate tenant :=
      List.duplicate_iff_exists_distinct_get.mpr ⟨⟨j, hj.trans hlt⟩, ⟨i, hlt⟩, hj, hother, hi⟩
    exact absurd (List.duplicate_iff_two_le_count.mp htwice)
      (not_le.mpr (Nat.lt_succ_of_le (hsole.resolve_left hone)))

/-- What a task evaluates is due in the cycle. -/
theorem mem_visits_of_mem_part
    {v : Rule × String}
    (hv : v ∈ x.visits ((jobs config x.tenants)[i]?.getD [])) :
    v ∈ x.visits x.tenants := by
  obtain ⟨t, ht, hr, hdevice⟩ := mem_visits.mp hv
  exact mem_visits.mpr ⟨t, mem_of_mem_jobs ht, hr, hdevice⟩

end Outlook

/-- Whether a store tells what is evaluated for a tenant from what is evaluated for others, by the
rules and the devices and by the devices alone. -/
structure Manner.Separates (k : Manner) (tenant : String) (visits : List (Rule × String)) :
    Prop where
  pairs : ∀ v ∈ visits, ∀ v' ∈ visits, k.alike v.1.id v.2 v'.1.id v'.2 = true →
    (v.1.tenant = tenant ↔ v'.1.tenant = tenant)
  devices : ∀ v ∈ visits, ∀ v' ∈ visits, k.alike v.1.tenant v.2 v'.1.tenant v'.2 = true →
    (v.1.tenant = tenant ↔ v'.1.tenant = tenant)

/-- The store in memory tells tenants apart that share no rule and device. -/
theorem Memory.separates_iff
    {tenant : String} {visits : List (Rule × String)} :
    Memory.manner.Separates tenant visits ↔ ∀ v ∈ visits, ∀ v' ∈ visits,
      v.1.id = v'.1.id → v.2 = v'.2 → (v.1.tenant = tenant ↔ v'.1.tenant = tenant) := by
  constructor
  · intro h v hv v' hv' hrule hdevice
    exact h.pairs v hv v' hv' (by simp [hrule, hdevice])
  · refine fun h => ⟨fun v hv v' hv' halike => ?_, fun v _ v' _ halike => ?_⟩
    · obtain ⟨hrule, hdevice⟩ : v.1.id = v'.1.id ∧ v.2 = v'.2 := by simpa using halike
      exact h v hv v' hv' hrule hdevice
    · obtain ⟨htenant, -⟩ : v.1.tenant = v'.1.tenant ∧ v.2 = v'.2 := by simpa using halike
      rw [htenant]

/-- A task has the alerts of a tenant to itself; each alert is of something that is evaluated. -/
def Accord.ofTenant (visits : List (Rule × String)) (tenant : String) (task : ℕ) : Accord ℕ where
  rules _ := True
  raises r device _ := (r, device) ∈ visits
  owns i a := i = task ∧ a.tenant = tenant
  guarded _ := False
  once := False
  known _ a := ∃ v ∈ visits, a.rule = v.1.id ∧ a.device = v.2 ∧ a.tenant = v.1.tenant

theorem Accord.upheld_ofTenant
    (visits : List (Rule × String)) (tenant : String) (task : ℕ) :
    (Accord.ofTenant visits tenant task).Upheld where
  later _ h := h
  raised := by
    intro readings id r device s now _ hdue _
    exact ⟨(r, device), hdue, rfl, rfl, rfl⟩
  changed := by
    rintro readings now a r c - - ⟨v, hv, hrule, hdevice, htenant⟩
    exact ⟨v, hv, (c.rule_apply a).trans hrule, (c.device_apply a).trans hdevice,
      (c.tenant_apply a).trans htenant⟩
  owns := by
    rintro i a b horigin ⟨rfl, htenant⟩
    obtain ⟨-, hsame, -⟩ := Alert.origin_eq_iff.mp horigin
    exact ⟨rfl, hsame.symm.trans htenant⟩

section

variable {σ : Type} {keeping : Keeping σ} {x y : Outlook} {config : EngineConfig}
  {tenant : String} {fresh : String → Prop} {again : Bool} {rules rules' : RuleSource}
  {devices devices' : DeviceSource} {visits visits' : List (Rule × String)}

/-- Whether an alert is looked at: by the task that evaluates its tenant. -/
def isKept (x : Outlook) (config : EngineConfig) (tenant : String) (i : ℕ) (a : Alert) : Bool :=
  decide (i = x.taskFor config tenant) && a.tenant == tenant

/-- What is needed of a cycle that is among those of a run. -/
structure Outlook.Fits
    (x : Outlook) (k : Manner) (config : EngineConfig) (tenant : String)
    (visits : List (Rule × String)) : Prop where
  loads : ∃ rules devices, x.Loads rules devices
  sole : config.tenantConcurrency ≤ 1 ∨ x.tenants.count tenant ≤ 1
  due : x.visits x.tenants ⊆ visits
  admits : ∀ r device id now,
    k.admits (Worker.raisedAlert id r device (x.telemetry device r.tenant) now)
  separates : k.Separates tenant visits

theorem tellsOrigin_isKept
    (i : ℕ) :
    TellsOrigin (isKept x config tenant i) := by
  intro a b horigin
  obtain ⟨-, htenant, -⟩ := Alert.origin_eq_iff.mp horigin
  simp only [isKept, htenant]

theorem owns_of_isKept
    {i : ℕ} {a : Alert}
    (ha : isKept x config tenant i a = true) :
    (Accord.ofTenant visits tenant (x.taskFor config tenant)).owns i a := by
  exact (by simpa [isKept] using ha : _ ∧ _)

namespace Outlook.Fits

variable {i : ℕ} {r : Rule} {device : String}
  (h : x.Fits keeping.toManner config tenant visits)
include h

/-- What a task evaluates is among what is due in the run, and for a tenant of the task. -/
theorem mem_of_visits
    (hr : (x.setting keeping fresh False).Visits ((jobs config x.tenants)[i]?.getD []) r device) :
    (r, device) ∈ visits ∧ r.tenant ∈ (jobs config x.tenants)[i]?.getD [] := by
  obtain ⟨rules, devices, hx⟩ := h.loads
  have hdue := Outlook.mem_visits_of_visits hr
  obtain ⟨t, ht, hrules, -⟩ := Outlook.mem_visits.mp hdue
  rw [hx.tenant_eq hrules]
  exact ⟨h.due (Outlook.mem_visits_of_mem_part hdue), ht⟩

/-- An evaluation for the tenant is about its alerts. -/
theorem scope
    (hr : (x.setting keeping fresh False).Visits ((jobs config x.tenants)[i]?.getD []) r device)
    (hown : r.tenant = tenant) :
    Scope (x.setting keeping fresh False) (.ofTenant visits tenant (x.taskFor config tenant)) i
      (isKept x config tenant i) r device := by
  obtain ⟨hdue, hlisted⟩ := h.mem_of_visits hr
  subst hown
  obtain rfl : x.taskFor config r.tenant = i := Outlook.taskFor_eq h.sole hlisted
  exact {
    upheld := Accord.upheld_ofTenant _ _ _
    rule := trivial
    raises := fun _ _ => hdue
    lax := ⟨id, fun _ => id⟩
    tells := tellsOrigin_isKept _
    owns := fun _ => owns_of_isKept
    apart := fun _ _ _ howned => howned.1
    onDevice := by
      rintro readings a ⟨v, hv, -, hdevice, htenant⟩ halike
      rw [hdevice, htenant] at halike
      have hsame : v.1.tenant = r.tenant := (h.separates.devices v hv _ hdue halike).mpr rfl
      rw [hsame] at halike
      exact ⟨htenant.trans hsame, hdevice.trans (keeping.alike_right halike)⟩
    onPair := by
      rintro readings a ⟨v, hv, hrule, hdevice, htenant⟩ halike
      rw [hrule, hdevice] at halike
      have hsame : v.1.tenant = r.tenant := (h.separates.pairs v hv _ hdue halike).mpr rfl
      simp [isKept, htenant, hsame] }

/-- An evaluation for another tenant leaves them alone. -/
theorem patrol
    (hr : (x.setting keeping fresh False).Visits ((jobs config x.tenants)[i]?.getD []) r device)
    (hother : r.tenant ≠ tenant) :
    Patrol (x.setting keeping fresh False) (.ofTenant visits tenant (x.taskFor config tenant)) i
      (isKept x config tenant i) r device := by
  obtain ⟨hdue, -⟩ := h.mem_of_visits hr
  exact {
    upheld := Accord.upheld_ofTenant _ _ _
    rule := trivial
    raises := fun _ _ => hdue
    tells := tellsOrigin_isKept _
    owns := fun _ => owns_of_isKept
    spares := by
      rintro readings a ⟨v, hv, -, hdevice, htenant⟩ - halike
      rw [hdevice, htenant] at halike
      have hforeign : a.tenant ≠ tenant := by
        rw [htenant]
        exact fun hsame => hother ((h.separates.devices v hv _ hdue halike).mp hsame)
      exact ⟨by simp [isKept, hforeign], fun j _ howned => hforeign howned.2⟩
    updated := fun _ hexclusive => (not_or.mpr ⟨id, id⟩ hexclusive).elim
    device := fun _ _ hguarded => hguarded.elim }

/-- The alerts of a tenant are watched by the task that evaluates it. -/
theorem lens
    (i : ℕ) :
    Lens (x.setting keeping fresh False) (.ofTenant visits tenant (x.taskFor config tenant)) i
      ((jobs config x.tenants)[i]?.getD []) (isKept x config tenant i)
      (Outlook.isOf tenant) where
  upheld := Accord.upheld_ofTenant _ _ _
  free := id
  tells := tellsOrigin_isKept i
  owns _ := owns_of_isKept
  admits := by
    rintro r device snapshot id now (hreply | ⟨hfalse, -⟩)
    · obtain rfl := Except.ok.inj hreply
      exact h.admits r device id now
    · exact hfalse.elim
  scope r device hr hown := h.scope hr (eq_of_beq hown)
  patrol r device hr hother := h.patrol hr (ne_of_beq_false hother)

end Outlook.Fits

/-! ### Two runs -/

/-- What is noted for a tenant in a cycle, by all tasks. -/
def Outlook.notesFor (x : Outlook) (config : EngineConfig) (tenant : String) (js : ℕ → Journal) :
    Journal :=
  ((List.range (jobs config x.tenants).length).flatMap js).filter (Note.isAt (Outlook.isOf tenant))

theorem flatMap_range_of_single
    {α : Type} {f : ℕ → List α} {i n : ℕ}
    (hother : ∀ j, j ≠ i → f j = [])
    (hout : n ≤ i → f i = []) :
    (List.range n).flatMap f = f i := by
  suffices hsplit : (List.range n).flatMap f = if i < n then f i else [] by
    rw [hsplit]
    split_ifs with hin
    · rfl
    · exact (hout (not_lt.mp hin)).symm
  clear hout
  induction n with
  | zero =>
      rfl
  | succ n ih =>
      rw [List.range_succ, List.flatMap_append, ih, List.flatMap_singleton]
      by_cases hin : n = i
      · simp [hin]
      · rw [hother n hin, List.append_nil]
        split_ifs <;> first | rfl | omega

variable {js js' : ℕ → Journal}

/-- What is noted for the tenant is what is due. -/
theorem Outlook.occasions_notesFor
    (hnotes : ∀ i, (x.setting keeping fresh False).NotesTenants
      ((jobs config x.tenants)[i]?.getD []) (js i)) :
    (x.notesFor config tenant js).map Note.occasion? =
      x.occasions (isOf tenant) (x.visits x.tenants) := by
  rw [notesFor, List.filter_flatMap, List.map_flatMap]
  simp only [occasions_noted (hnotes _) False.elim]
  rw [flatMap_range_getD _ fun part => x.occasions (isOf tenant) (x.visits part),
    ← visits_jobs x config]
  simp only [occasions, List.filter_flatMap, List.map_flatMap]

/-- One task alone notes something for the tenant. -/
theorem Outlook.Fits.notesFor_eq
    (h : x.Fits keeping.toManner config tenant visits)
    (hnotes : ∀ i, (x.setting keeping fresh False).NotesTenants
      ((jobs config x.tenants)[i]?.getD []) (js i)) :
    x.notesFor config tenant js =
      (js (x.taskFor config tenant)).filter (Note.isAt (Outlook.isOf tenant)) := by
  obtain ⟨rules, devices, hx⟩ := h.loads
  have hnone (i : ℕ) (hi : tenant ∉ (jobs config x.tenants)[i]?.getD []) :
      (js i).filter (Note.isAt (Outlook.isOf tenant)) = [] := by
    rw [← List.map_eq_nil_iff (f := Note.occasion?),
      Outlook.occasions_noted (hnotes i) False.elim, Outlook.occasions, hx.filter_visits,
      List.count_eq_zero_of_not_mem hi]
    rfl
  rw [Outlook.notesFor, List.filter_flatMap]
  refine flatMap_range_of_single (f := fun i => (js i).filter _) (fun i hi => hnone i ?_)
    fun hout => hnone _ ?_
  · exact fun hlisted => hi (Outlook.taskFor_eq h.sole hlisted).symm
  · rw [List.getElem?_eq_none hout]
    exact List.not_mem_nil

/-- The alerts of a tenant. -/
abbrev alertsOf (tenant : String) (l : List Alert) : List Alert :=
  l.filter fun a => a.tenant == tenant

/-- What a store shows between the cycles of a run. -/
def Between
    (keeping : Keeping σ) (fresh : String → Prop) (visits : List (Rule × String))
    (w : Clocked σ ℕ) (v : List Alert) : Prop :=
  keeping.shows w.store v ∧ (∀ a ∈ v, fresh a.id → w.drawer a.id ≠ none) ∧
    ∀ a ∈ v, ∃ u ∈ visits, a.rule = u.1.id ∧ a.device = u.2 ∧ a.tenant = u.1.tenant

/-- Evaluations for the tenant, by the task that evaluates it. -/
abbrev Outlook.visitsFor
    (x : Outlook) (keeping : Keeping σ) (fresh : String → Prop) (config : EngineConfig)
    (tenant : String) (r : Rule) (device : String) : Prop :=
  (x.setting keeping fresh False).Visits
      ((jobs config x.tenants)[x.taskFor config tenant]?.getD []) r device ∧
    Outlook.isOf tenant r device = true

/-- What the store goes through for the tenant. -/
abbrev Outlook.listsFor
    (x : Outlook) (keeping : Keeping σ) (fresh : String → Prop) (config : EngineConfig)
    (tenant : String) (visits : List (Rule × String)) (r : Rule) (device : String) :
    List Alert → List Alert → Prop :=
  Lists (x.setting keeping fresh False) (.ofTenant visits tenant (x.taskFor config tenant))
    (fun a => a.tenant == tenant) r device

namespace Outlook.Fits

variable (h : x.Fits keeping.toManner config tenant visits)
include h

/-- The alerts of a tenant take the course that is noted for it in a cycle. -/
theorem course
    {w w' : Clocked σ ℕ} {v : List Alert}
    (hbetween : Between keeping fresh visits w v)
    (hcycle : (x.setting keeping fresh False).Cycle again (jobs config x.tenants) w js w') :
    ∃ v', Between keeping fresh visits w' v' ∧
      (x.notesFor config tenant js).map Note.occasion? =
        x.occasions (Outlook.isOf tenant) (x.visits x.tenants) ∧
      Course (x.setting keeping fresh False) again (x.visitsFor keeping fresh config tenant)
        (x.listsFor keeping fresh config tenant visits) (alertsOf tenant v)
        (x.notesFor config tenant js) (alertsOf tenant v') := by
  have hgood : Good (x.setting keeping fresh False)
      (.ofTenant visits tenant (x.taskFor config tenant)) (w, v) :=
    ⟨hbetween.1, hbetween.2.1, hbetween.2.2⟩
  obtain ⟨v', hgood', hfollows⟩ := hcycle.follows h.lens (fun _ => id) hgood
  have hnotes (i : ℕ) := (hfollows i).1
  refine ⟨v', ⟨hgood'.shown, hgood'.drawn, hgood'.known⟩, Outlook.occasions_notesFor hnotes, ?_⟩
  have hkept : isKept x config tenant (x.taskFor config tenant) = fun a => a.tenant == tenant := by
    funext a
    simp [isKept]
  obtain ⟨-, -, hcourse⟩ := hfollows (x.taskFor config tenant)
  rw [h.notesFor_eq hnotes]
  simpa only [hkept] using hcourse False.elim

/-- What the store goes through for the tenant is found among its alerts. -/
theorem perm_openOn
    {r : Rule} {device : String} {p l : List Alert}
    (hr : x.visitsFor keeping fresh config tenant r device)
    (hl : x.listsFor keeping fresh config tenant visits r device p l) :
    l.Perm (keeping.openOn p r.tenant device) := by
  obtain ⟨hvisits, hown⟩ := hr
  obtain ⟨z, hgood, rfl, hperm⟩ := hl
  refine hperm.trans (.of_eq ?_)
  rw [Manner.openOn, Manner.openOn, List.filter_filter]
  refine List.filter_congr fun a ha => ?_
  have hscope := h.scope hvisits (eq_of_beq hown)
  rw [Bool.eq_iff_iff, Bool.and_eq_true (_ && _)]
  refine ⟨fun hlisted => ⟨hlisted, ?_⟩, And.left⟩
  have htenant := (hscope.onDevice _ a (hgood.known a ha) (Bool.and_eq_true_iff.mp hlisted).2).1
  rw [htenant]
  exact hown

end Outlook.Fits

/-- Two cycles that show a tenant the same come to the same for it. -/
theorem Setting.Cycle.agree
    {w w' u u' : Clocked σ ℕ} {p q : List Alert}
    (hx : x.Fits keeping.toManner config tenant visits)
    (hy : y.Fits keeping.toManner config tenant visits')
    (hagree : x.AgreesFor tenant y)
    (hreading : Impartial keeping.reading)
    (hp : Between keeping fresh visits w p)
    (hq : Between keeping fresh visits' u q)
    (hlike : AllLike fresh (alertsOf tenant p) (alertsOf tenant q))
    (h : (x.setting keeping fresh False).Cycle again (jobs config x.tenants) w js w')
    (h' : (y.setting keeping fresh False).Cycle again (jobs config y.tenants) u js' u') :
    x.notesFor config tenant js = y.notesFor config tenant js' ∧
      ∃ p' q', Between keeping fresh visits w' p' ∧ Between keeping fresh visits' u' q' ∧
        AllLike fresh (alertsOf tenant p') (alertsOf tenant q') := by
  obtain ⟨p', hp', hdue, hcourse⟩ := hx.course hp h
  obtain ⟨q', hq', hdue', hcourse'⟩ := hy.course hq h'
  obtain ⟨rules, devices, hloads⟩ := hx.loads
  obtain ⟨rules', devices', hloads'⟩ := hy.loads
  have hfixed (r : Rule) (hr : r.tenant = tenant) :
      Fixed (y.setting keeping fresh False) r keeping.toManner x.now (x.report r) fresh := by
    rw [hagree.now, hagree.report r hr]
    exact y.fixed_setting r
  obtain ⟨hnotes, hlike'⟩ := Course.agree hreading (fun r _ _ => x.fixed_setting r)
    (fun r _ hr => hfixed r (eq_of_beq hr.2))
    (fun r device p q l m hr hr' hpq hl hm => hreading.newestFirst_agree (hx.perm_openOn hr hl)
      (hy.perm_openOn hr' hm) (AllLike.openOn hpq keeping.toManner r.tenant device))
    (hdue.trans ((Outlook.occasions_tenant hloads hloads' hagree).trans hdue'.symm)) hlike hcourse
    hcourse'
  exact ⟨hnotes, p', q', hp', hq', hlike'⟩

/-! ### Runs of cycles -/

/-- Cycles one after the other. -/
inductive Outlook.Cycles
    (keeping : Keeping σ) (fresh : String → Prop) (config : EngineConfig) (again : Bool) :
    List Outlook → Clocked σ ℕ → List (ℕ → Journal) → Clocked σ ℕ → Prop where
  | none {w : Clocked σ ℕ} :
      Cycles keeping fresh config again [] w [] w
  | next {x : Outlook} {xs : List Outlook} {w w' w'' : Clocked σ ℕ} {js : ℕ → Journal}
      {jss : List (ℕ → Journal)}
      (hcycle : (x.setting keeping fresh False).Cycle again (jobs config x.tenants) w js w')
      (hrest : Cycles keeping fresh config again xs w' jss w'') :
      Cycles keeping fresh config again (x :: xs) w (js :: jss) w''

/-- Cycles one after the other, by tasks that note nothing. -/
inductive Outlook.Turns
    (keeping : Keeping σ) (fresh : String → Prop) (config : EngineConfig) (again : Bool) :
    List Outlook → Clocked σ ℕ → Clocked σ ℕ → Prop where
  | none {w : Clocked σ ℕ} :
      Turns keeping fresh config again [] w w
  | next {x : Outlook} {xs : List Outlook} {w w' w'' : Clocked σ ℕ} {o : ℕ → Outcome Unit}
      (hruns : (x.setting keeping fresh False).Runs again (jobs config x.tenants) w o w')
      (hrest : Turns keeping fresh config again xs w' w'') :
      Turns keeping fresh config again (x :: xs) w w''

/-- What happens in cycles can be noted. -/
theorem Outlook.Turns.cycles
    {xs : List Outlook} {w w' : Clocked σ ℕ}
    (h : Outlook.Turns keeping fresh config again xs w w') :
    ∃ jss, Outlook.Cycles keeping fresh config again xs w jss w' := by
  induction h with
  | none =>
      exact ⟨[], .none⟩
  | next hruns _ ih =>
      obtain ⟨-, js, hcycle⟩ := hruns.cycle
      obtain ⟨jss, hrest⟩ := ih
      exact ⟨js :: jss, .next hcycle hrest⟩

/-- What is noted for a tenant in each cycle. -/
def Outlook.notesOfAll
    (config : EngineConfig) (tenant : String) (xs : List Outlook) (jss : List (ℕ → Journal)) :
    List Journal :=
  List.zipWith (fun x js => x.notesFor config tenant js) xs jss

/-- What is due in any cycle. -/
def Outlook.visitsOfAll (xs : List Outlook) : List (Rule × String) :=
  xs.flatMap fun x => x.visits x.tenants

/-- Two runs that show a tenant the same come to the same for it. -/
theorem Outlook.Cycles.agree
    {xs ys : List Outlook} {w w' u u' : Clocked σ ℕ} {jss jss' : List (ℕ → Journal)}
    {p q : List Alert}
    (hxs : ∀ x ∈ xs, x.Fits keeping.toManner config tenant visits)
    (hys : ∀ y ∈ ys, y.Fits keeping.toManner config tenant visits')
    (hagree : List.Forall₂ (Outlook.AgreesFor tenant) xs ys)
    (hreading : Impartial keeping.reading)
    (hp : Between keeping fresh visits w p)
    (hq : Between keeping fresh visits' u q)
    (hlike : AllLike fresh (alertsOf tenant p) (alertsOf tenant q))
    (h : Outlook.Cycles keeping fresh config again xs w jss w')
    (h' : Outlook.Cycles keeping fresh config again ys u jss' u') :
    Outlook.notesOfAll config tenant xs jss = Outlook.notesOfAll config tenant ys jss' ∧
      ∃ p' q', keeping.shows w'.store p' ∧ keeping.shows u'.store q' ∧
        AllLike fresh (alertsOf tenant p') (alertsOf tenant q') := by
  induction hagree generalizing w u jss jss' p q with
  | nil =>
      cases h
      cases h'
      exact ⟨rfl, p, q, hp.1, hq.1, hlike⟩
  | @cons x y xs ys hxy _ ih =>
      cases h with
      | @next _ _ _ w₁ _ js jss hcycle hrest =>
          cases h' with
          | @next _ _ _ u₁ _ js' jss' hcycle' hrest' =>
              obtain ⟨hnotes, p₁, q₁, hp₁, hq₁, hlike₁⟩ := hcycle.agree (hxs x (by simp))
                (hys y (by simp)) hxy hreading hp hq hlike hcycle'
              obtain ⟨hlater, hshown⟩ := ih (fun x hx => hxs x (List.mem_cons_of_mem _ hx))
                (fun y hy => hys y (List.mem_cons_of_mem _ hy)) hp₁ hq₁ hlike₁ hrest hrest'
              exact ⟨congrArg₂ List.cons hnotes hlater, hshown⟩

/-- What is needed of the cycles of a run. -/
structure Outlook.AllFit
    (xs : List Outlook) (k : Manner) (config : EngineConfig) (tenant : String) : Prop where
  loads : ∀ x ∈ xs, ∃ rules devices, x.Loads rules devices
  sole : config.tenantConcurrency ≤ 1 ∨ ∀ x ∈ xs, x.tenants.count tenant ≤ 1
  admits : ∀ x ∈ xs, ∀ r device id now,
    k.admits (Worker.raisedAlert id r device (x.telemetry device r.tenant) now)
  separates : k.Separates tenant (Outlook.visitsOfAll xs)

theorem Outlook.AllFit.fits
    {xs : List Outlook} {k : Manner}
    (h : Outlook.AllFit xs k config tenant)
    (hx : x ∈ xs) :
    x.Fits k config tenant (Outlook.visitsOfAll xs) where
  loads := h.loads x hx
  sole := h.sole.imp_right fun hall => hall x hx
  due _ hv := List.mem_flatMap.mpr ⟨x, hx, hv⟩
  admits := h.admits x hx
  separates := h.separates

end

theorem Indexed.impartial :
    Impartial Indexed.manner.reading where
  rename a id := by
    have hlegible : ({ a with id := id } : Alert).isLegible = a.isLegible := by
      rw [Bool.eq_iff_iff, Alert.isLegible_iff, Alert.isLegible_iff]
    change Alert.reading _ = (Alert.reading a).map _
    rw [Alert.reading, Alert.reading, hlegible]
    split_ifs <;> rfl
  uniform := by
    intro a b f g ha hb
    have herror {a : Alert} {f : Failure} (h : Alert.reading a = .error f) :
        f = .kind .unusableValue := by
      unfold Alert.reading at h
      split_ifs at h
      exact (Except.error.inj h).symm
    exact (herror ha).trans (herror hb).symm
  outline h := Indexed.manner.outline_reading h

section

variable {config : EngineConfig} {again : Bool} {tenant : String} {fresh : String → Prop}
  {xs ys : List Outlook}

/-- A tenant that is listed once is so in every run that shows it the same. -/
theorem Outlook.count_le_of_agree
    (hagree : List.Forall₂ (Outlook.AgreesFor tenant) xs ys)
    (hsole : ∀ x ∈ xs, x.tenants.count tenant ≤ 1) :
    ∀ y ∈ ys, y.tenants.count tenant ≤ 1 := by
  intro y hy
  obtain ⟨x, hx, hxy⟩ := exists_of_mem_right hagree hy
  rw [← hxy.tenants]
  exact hsole x hx

/-- Whether no rule is evaluated for a device for a tenant and, under the same ids, for another
one. -/
def Outlook.Apart (tenant : String) (xs : List Outlook) : Prop :=
  ∀ v ∈ Outlook.visitsOfAll xs, ∀ v' ∈ Outlook.visitsOfAll xs,
    v.1.id = v'.1.id → v.2 = v'.2 → (v.1.tenant = tenant ↔ v'.1.tenant = tenant)

/-- What a tenant's evaluations come to, and its alerts but for the ids that are drawn, are the
same in two runs of cycles that show the tenant the same, whatever rules, devices and telemetry
other tenants have: no alert of another tenant blocks, suppresses or fails one of its own. What
happens in a run of cycles is noted, to tell the outcome of each evaluation. A rule and a device
that are evaluated for the tenant must not be evaluated for another one under the same ids, for by
these the stores tell alerts apart. The key server joins two names by a colon, so it must tell the
joined names of tenants apart. A tenant is listed once if tenants are evaluated side by side. -/
theorem tenants_undisturbed
    (hagree : List.Forall₂ (Outlook.AgreesFor tenant) xs ys)
    (hxs : ∀ x ∈ xs, ∃ rules devices, x.Loads rules devices)
    (hys : ∀ y ∈ ys, ∃ rules devices, y.Loads rules devices)
    (hsole : config.tenantConcurrency ≤ 1 ∨ ∀ x ∈ xs, x.tenants.count tenant ≤ 1) :
    (∀ {σ : Type} {keeping : Keeping σ} {w w' : Clocked σ ℕ},
      Outlook.Turns keeping fresh config again xs w w' →
        ∃ jss, Outlook.Cycles keeping fresh config again xs w jss w') ∧
    (Outlook.Apart tenant xs → Outlook.Apart tenant ys →
      ∀ jss w jss' w', Outlook.Cycles Memory.keeping fresh config again xs (.start {}) jss w →
        Outlook.Cycles Memory.keeping fresh config again ys (.start {}) jss' w' →
          Outlook.notesOfAll config tenant xs jss = Outlook.notesOfAll config tenant ys jss' ∧
            AllLike fresh (alertsOf tenant w.store.alerts) (alertsOf tenant w'.store.alerts)) ∧
    (Indexed.manner.Separates tenant (Outlook.visitsOfAll xs) →
      Indexed.manner.Separates tenant (Outlook.visitsOfAll ys) →
      (∀ z ∈ xs ++ ys, ∀ t device, Json.namesDistinct (.obj (z.telemetry device t)) = true) →
      ∀ jss w jss' w', Outlook.Cycles Indexed.keeping fresh config again xs (.start {}) jss w →
        Outlook.Cycles Indexed.keeping fresh config again ys (.start {}) jss' w' →
          Outlook.notesOfAll config tenant xs jss = Outlook.notesOfAll config tenant ys jss' ∧
            ∃ p q, Indexed.Clear p w.store ∧ Indexed.Clear q w'.store ∧
              AllLike fresh (alertsOf tenant p) (alertsOf tenant q)) := by
  have hsole' : config.tenantConcurrency ≤ 1 ∨ ∀ y ∈ ys, y.tenants.count tenant ≤ 1 :=
    hsole.imp_right (Outlook.count_le_of_agree hagree)
  have hstart {σ : Type} {keeping : Keeping σ} {visits : List (Rule × String)} {s : σ}
      (hempty : keeping.shows s []) : Between keeping fresh visits (.start s) [] :=
    ⟨hempty, by simp, by simp⟩
  refine ⟨Outlook.Turns.cycles, ?_, ?_⟩
  · intro hapart hapart' jss w jss' w' h h'
    have hfit : Outlook.AllFit xs Memory.manner config tenant :=
      ⟨hxs, hsole, fun _ _ _ _ _ _ => trivial, Memory.separates_iff.mpr hapart⟩
    have hfit' : Outlook.AllFit ys Memory.manner config tenant :=
      ⟨hys, hsole', fun _ _ _ _ _ _ => trivial, Memory.separates_iff.mpr hapart'⟩
    have hempty : Memory.keeping.shows {} [] := ⟨.empty, rfl⟩
    obtain ⟨hnotes, p, q, ⟨-, rfl⟩, ⟨-, rfl⟩, hlike⟩ :=
      h.agree (fun x hx => hfit.fits hx) (fun y hy => hfit'.fits hy) hagree Memory.impartial
        (hstart hempty) (hstart hempty) .nil h'
    exact ⟨hnotes, hlike⟩
  · intro hseparates hseparates' hnames jss w jss' w' h h'
    have hfit : Outlook.AllFit xs Indexed.manner config tenant :=
      ⟨hxs, hsole, fun x hx r device _ _ => hnames x (List.mem_append_left _ hx) r.tenant device,
        hseparates⟩
    have hfit' : Outlook.AllFit ys Indexed.manner config tenant :=
      ⟨hys, hsole', fun y hy r device _ _ => hnames y (List.mem_append_right _ hy) r.tenant device,
        hseparates'⟩
    have hempty : Indexed.keeping.shows {} [] := Indexed.Clear.empty
    exact h.agree (fun x hx => hfit.fits hx) (fun y hy => hfit'.fits hy) hagree Indexed.impartial
      (hstart hempty) (hstart hempty) .nil h'

end

/-! ### Doors -/

/-- Two tenants may watch a door each, by rules of their own; all doors stand open. -/
def porch (rules : List Rule) : Outlook where
  tenants := ["tenant-a", "tenant-b"]
  rules t := rules.filter fun r => r.tenant == t && r.enabled
  devices _ _ := []
  telemetry _ _ := [("door", .bool true)]
  report _ _ := {}
  now := .epoch

/-- A tenant's rule about its door. -/
def doorOf (tenant id : String) : Rule :=
  { doorRule with tenant := tenant, id := id }

theorem porch_loads
    (rules : List Rule) :
    (porch rules).Loads (.fixed rules) (.fixed [("tenant-a", []), ("tenant-b", [])]) where
  listed := by
    refine congrArg Except.ok (List.mergeSort_of_pairwise ?_)
    simp
  enabled _ := rfl
  typed t type := by
    have hnone : (([("tenant-a", []), ("tenant-b", [])] : DeviceTable).lookup t).getD [] = [] := by
      simp only [List.lookup]
      split
      · rfl
      · split <;> rfl
    rw [DeviceSource.ofType, hnone]
    rfl

theorem porch_agrees
    {rules rules' : List Rule}
    (h : (rules.filter fun r => r.tenant == "tenant-b" && r.enabled) =
      rules'.filter fun r => r.tenant == "tenant-b" && r.enabled) :
    (porch rules).AgreesFor "tenant-b" (porch rules') :=
  ⟨rfl, h, rfl, fun _ => rfl, fun _ _ => rfl, rfl⟩

section

variable {x : Outlook} {fresh : String → Prop} {again : Bool} {w w₁ w₂ : Clocked Memory ℕ}
  {js js' : Journal}

open Program (Ends exists_ends_call)

/-- Tenants are evaluated one after the other. -/
theorem ends_noteTenants_cons
    {t : String} {rest : List String}
    (hrules : Ends ((x.setting Memory.keeping fresh False).Reacts False 0)
      (Worker.noteRules again (x.rules t)) w js w₁)
    (hrest : Ends ((x.setting Memory.keeping fresh False).Reacts False 0)
      (Worker.noteTenants again rest) w₁ js' w₂) :
    Ends ((x.setting Memory.keeping fresh False).Reacts False 0)
      (Worker.noteTenants again (t :: rest)) w (js ++ js') w₂ := by
  refine .call (c := Call.isStopping) (r := false) (by exact ⟨False.elim, rfl, rfl⟩) ?_
  refine .call (c := Call.enabledRules t) (r := .ok (x.rules t))
    (by exact ⟨False.elim, Or.inl rfl, rfl⟩) ?_
  exact hrules.bind (hrest.bind .done)

/-- A cycle has ended if the one task that evaluates its tenants has. -/
theorem cycle_of_ends
    (h : Ends ((x.setting Memory.keeping fresh False).Reacts False 0)
      (Worker.noteTenants again x.tenants) w js w₁) :
    (x.setting Memory.keeping fresh False).Cycle again (jobs {} x.tenants) w
      (Function.update (fun _ => []) 0 js) w₁ := by
  have hreaches := Pool.reaches_of_ends (i := 0)
    (w := ⟨w, fun k => Worker.noteTenants again ((jobs {} x.tenants)[k]?.getD [])⟩) h
  have hrest : Function.update (fun k => Worker.noteTenants again
      ((jobs {} x.tenants)[k]?.getD [])) 0 (.done js) =
        fun k => .done (Function.update (fun _ => []) 0 js k) := by
    funext k
    cases k with
    | zero =>
        rfl
    | succ k =>
        rfl
  rw [hrest] at hreaches
  exact hreaches

/-- How the calls of the task that evaluates the doors are answered. -/
abbrev AtPorch (rules : List Rule) :=
  ((porch rules).setting Memory.keeping (fun _ => True) False).Reacts False 0

/-- The store is there. -/
theorem atPorch_store
    {rules : List Rule} {r : Request} {o : Outcome r.Reply} {m : Memory}
    (hserve : w.store.serve .epoch r = (o, m)) :
    AtPorch rules (.store r) w o (w.serve .epoch r o m) :=
  ⟨False.elim, False.elim, Or.inl ⟨.epoch, m, rfl, hserve, rfl⟩⟩

variable {rules : List Rule} {tenant id : String}

/-- The alert that a tenant's open door raises. -/
def alertOfDoor (tenant id new : String) : Alert :=
  Worker.raisedAlert new (doorOf tenant id) "dev-1" [("door", .bool true)] .epoch

/-- What is noted of a tenant's open door. -/
def doorNoted (tenant id : String) (t : Transition) : Note :=
  .evaluated (doorOf tenant id) "dev-1" (.ok [("door", .bool true)]) (.ok t)

/-- An open door of which no alert is known raises one. -/
theorem settle_raises
    (rules : List Rule) (tenant id new : String)
    (hdrawn : w.drawer new = none)
    (hother : ∀ a ∈ w.store.alerts, a.tenant ≠ tenant ∧ a.rule ≠ id ∧ a.id ≠ new) :
    ∃ w', Ends (AtPorch rules)
        (ExceptT.run (Worker.settle false (doorOf tenant id) "dev-1" [("door", .bool true)])) w
        (.ok .trigger) w' ∧
      w'.holder = w.holder ∧ w'.drawer = Function.update w.drawer new (some 0) ∧
      w'.store.alerts = w.store.alerts ++ [alertOfDoor tenant id new] := by
  have hlisted : w.store.serve .epoch (.openOn tenant "dev-1") = (.ok [], w.store) := by
    have hnone : (w.store.ofTenant tenant fun a => a.device == "dev-1" && a.isOpen) = [] :=
      List.filter_eq_nil_iff.mpr fun a ha => by simp [(hother a ha).1]
    simp [Memory.serve, hnone, newestFirst, sortable]
  have hlatest : w.store.serve .epoch (.latestOf id "dev-1") = (.ok none, w.store) := by
    have hnone : (w.store.alerts.filter fun a => a.concerns id "dev-1") = [] :=
      List.filter_eq_nil_iff.mpr fun a ha => by simp [Alert.concerns, (hother a ha).2.1]
    simp [Memory.serve, hnone, newest?, sortable]
  have hcreated : w.store.serve .epoch (.create (alertOfDoor tenant id new)) =
      (.ok (), ⟨w.store.alerts ++ [alertOfDoor tenant id new]⟩) := by
    have hfree : w.store.hasOpen id "dev-1" = false :=
      List.any_eq_false.mpr fun a ha => by simp [Alert.concerns, (hother a ha).2.1]
    have hnew : (alertOfDoor tenant id new).id ∉ w.store.alerts.map Alert.id := by
      rintro hmem
      obtain ⟨a, ha, hid⟩ := List.mem_map.mp hmem
      exact (hother a ha).2.2 hid
    rw [Memory.serve, if_neg (by simpa [alertOfDoor, Worker.raisedAlert, doorOf] using hfree),
      Memory.insert, Memory.put_of_new hnew]
  refine exists_ends_call (atPorch_store hlisted) ?_
  refine exists_ends_call (c := Call.now) (r := .epoch) (by exact ⟨False.elim, rfl, rfl⟩) ?_
  rw [show (doorOf tenant id).fires [("door", .bool true)] = true from doorRule_fires]
  refine exists_ends_call (atPorch_store hlatest) ?_
  refine exists_ends_call (c := Call.freshId) (r := new)
    (by exact ⟨False.elim, trivial, hdrawn, rfl⟩) ?_
  refine exists_ends_call (atPorch_store hcreated) ?_
  refine exists_ends_call (c := Call.count .alertsTriggered) (r := ())
    (by exact ⟨False.elim, rfl⟩) ?_
  refine exists_ends_call
    (c := Call.dispatch (.ofTrigger (alertOfDoor tenant id new) (doorOf tenant id))) (r := {})
    (by exact ⟨False.elim, rfl, rfl⟩) ?_
  exact ⟨_, .done, rfl, rfl, rfl⟩

/-- An open door is passed over while another tenant's alert of the same rule and device is
recent. -/
theorem settle_suppresses
    (rules : List Rule) (tenant id new other : String)
    (hother : other ≠ tenant)
    (hstore : w.store.alerts = [alertOfDoor other id new]) :
    ∃ w', Ends (AtPorch rules)
        (ExceptT.run (Worker.settle false (doorOf tenant id) "dev-1" [("door", .bool true)])) w
        (.ok .suppress) w' ∧
      w'.holder = w.holder ∧ w'.store = w.store := by
  have hlisted : w.store.serve .epoch (.openOn tenant "dev-1") = (.ok [], w.store) := by
    have hnone : (w.store.ofTenant tenant fun a => a.device == "dev-1" && a.isOpen) = [] := by
      simp [Memory.ofTenant, hstore, alertOfDoor, Worker.raisedAlert, doorOf, hother]
    simp [Memory.serve, hnone, newestFirst, sortable]
  have hlatest : w.store.serve .epoch (.latestOf id "dev-1") =
      (.ok (some (alertOfDoor other id new)), w.store) := by
    have hone : (w.store.alerts.filter fun a => a.concerns id "dev-1") =
        [alertOfDoor other id new] := by
      simp [hstore, Alert.concerns, alertOfDoor, Worker.raisedAlert, doorOf]
    rw [Memory.serve, hone]
    rfl
  refine exists_ends_call (atPorch_store hlisted) ?_
  refine exists_ends_call (c := Call.now) (r := .epoch) (by exact ⟨False.elim, rfl, rfl⟩) ?_
  rw [show (doorOf tenant id).fires [("door", .bool true)] = true from doorRule_fires]
  refine exists_ends_call (atPorch_store hlatest) ?_
  have hchoose : Transition.choose none true (some (alertOfDoor other id new))
      (doorOf tenant id) .epoch false = .ok .suppress := by
    have hlast : (alertOfDoor other id new).triggeredAt = .epoch := rfl
    have helapsed : elapsed .epoch .epoch = .ok 0 := by
      simp [elapsed, Moment.since?]
    have hminutes : (doorOf tenant id).cooldownMinutes = 30 := rfl
    have hspan : spanOfMinutes 30 = .ok (30 * microsPerMinute) := rfl
    simp only [Transition.choose, suppresses, hlast, helapsed, hminutes, hspan]
    rfl
  change ∃ u, Ends _ (ExceptT.run (liftM (timed (Transition.choose none true _ _ _ _)) >>= fun t => _))
    _ _ u ∧ _
  rw [hchoose]
  refine exists_ends_call (c := Call.count .alertsSuppressed) (r := ())
    (by exact ⟨False.elim, rfl⟩) ?_
  exact ⟨_, .done, rfl, rfl⟩

/-- A tenant's door is evaluated under its lock. -/
theorem door_noted
    {t : Transition}
    (hidle : ∀ rule device, w.holder rule device = none)
    (h : Ends (AtPorch rules)
      (ExceptT.run (Worker.settle false (doorOf tenant id) "dev-1" [("door", .bool true)]))
      { w with toScene := w.toScene.setHolder id "dev-1" (some 0) } (.ok t) w₁)
    (hholder : w₁.holder = (w.toScene.setHolder id "dev-1" (some 0)).holder) :
    ∃ w', Ends (AtPorch rules) (Worker.noteRules false [doorOf tenant id]) w
        [doorNoted tenant id t] w' ∧
      (∀ rule device, w'.holder rule device = none) ∧ w'.drawer = w₁.drawer ∧
      w'.store = w₁.store := by
  let w₂ : Clocked Memory ℕ := { w₁ with toScene := w₁.toScene.setHolder id "dev-1" none }
  have hlocked : Ends (AtPorch rules)
      (ExceptT.run (WorkerAction.locked id "dev-1"
        (Worker.settle false (doorOf tenant id) "dev-1" [("door", .bool true)]))) w (.ok t) w₂ :=
    .call (c := Call.acquire id "dev-1") (r := ()) (by exact ⟨False.elim, hidle _ _, rfl⟩)
      (h.bind (.call (c := Call.release id "dev-1") (r := ()) (by exact ⟨False.elim, rfl⟩) .done))
  have hdevice : Ends (AtPorch rules)
      (Worker.noteDevice false (doorOf tenant id) "dev-1") w (doorNoted tenant id t) w₂ := by
    refine .call (c := Call.telemetry "dev-1" tenant) (r := .ok [("door", .bool true)]) (t := w)
      (by exact ⟨False.elim, Or.inl rfl, rfl⟩) ?_
    change Ends _ (ExceptT.run (WorkerAction.locked id "dev-1" _) >>= fun o =>
      Worker.countFailure o >>= fun _ => pure (Note.evaluated _ _ _ o)) _ _ _
    exact hlocked.bind .done
  have hdevices : Ends (AtPorch rules)
      (Worker.noteDevices false (doorOf tenant id) ["dev-1"]) w [doorNoted tenant id t] w₂ :=
    hdevice.bind .done
  have hrule : Ends (AtPorch rules)
      (Worker.noteRule false (doorOf tenant id)) w [doorNoted tenant id t]
      { w₂ with counted := w₂.counted ++ [(0, .rulesEvaluated)] } := by
    change Ends _ (Worker.noteDevices false (doorOf tenant id) ["dev-1"] >>= fun js =>
      Program.perform (Call.count .rulesEvaluated) >>= fun _ => pure js) _ _ _
    exact hdevices.bind (.call (c := Call.count .rulesEvaluated) (r := ())
      (by exact ⟨False.elim, rfl⟩) .done)
  refine ⟨_, hrule.bind .done, fun rule device => ?_, rfl, rfl⟩
  have hheld : w₁.holder rule device =
      if rule = id ∧ device = "dev-1" then some 0 else w.holder rule device :=
    congrFun (congrFun hholder rule) device
  change (if rule = id ∧ device = "dev-1" then none else w₁.holder rule device) = none
  rw [hheld, hidle]
  split_ifs <;> rfl

/-- A door of which no alert is known is noted, and raises one. -/
theorem door_raises
    (rules : List Rule) (tenant id new : String)
    (hidle : ∀ rule device, w.holder rule device = none)
    (hdrawn : w.drawer new = none)
    (hother : ∀ a ∈ w.store.alerts, a.tenant ≠ tenant ∧ a.rule ≠ id ∧ a.id ≠ new) :
    ∃ w', Ends (AtPorch rules) (Worker.noteRules false [doorOf tenant id]) w
        [doorNoted tenant id .trigger] w' ∧
      (∀ rule device, w'.holder rule device = none) ∧
      w'.drawer = Function.update w.drawer new (some 0) ∧
      w'.store.alerts = w.store.alerts ++ [alertOfDoor tenant id new] := by
  obtain ⟨w₁, hsettle, hholder, hdrawer, hstore⟩ := settle_raises rules tenant id new
    (w := { w with toScene := w.toScene.setHolder id "dev-1" (some 0) }) hdrawn hother
  obtain ⟨w', hnoted, hidle', hdrawer', hstore'⟩ := door_noted hidle hsettle hholder
  exact ⟨w', hnoted, hidle', hdrawer'.trans hdrawer, (congrArg Memory.alerts hstore').trans hstore⟩

/-- A door is noted, and nothing is done while another tenant's alert is recent. -/
theorem door_suppresses
    (rules : List Rule) (tenant id new other : String)
    (hidle : ∀ rule device, w.holder rule device = none)
    (hother : other ≠ tenant)
    (hstore : w.store.alerts = [alertOfDoor other id new]) :
    ∃ w', Ends (AtPorch rules) (Worker.noteRules false [doorOf tenant id]) w
        [doorNoted tenant id .suppress] w' ∧
      w'.store = w.store := by
  obtain ⟨w₁, hsettle, hholder, hsame⟩ := settle_suppresses rules tenant id new other
    (w := { w with toScene := w.toScene.setHolder id "dev-1" (some 0) }) hother hstore
  obtain ⟨w', hnoted, -, -, hstore'⟩ := door_noted hidle hsettle hholder
  exact ⟨w', hnoted, hstore'.trans hsame⟩

/-- A cycle evaluates the doors of both tenants. -/
theorem porch_cycle
    (ha : Ends (AtPorch rules) (Worker.noteRules false ((porch rules).rules "tenant-a"))
      (.start {}) js w₁)
    (hb : Ends (AtPorch rules) (Worker.noteRules false ((porch rules).rules "tenant-b")) w₁ js' w₂) :
    ∃ jss, Outlook.Cycles Memory.keeping (fun _ => True) {} false [porch rules] (.start {}) jss w₂ :=
  ⟨_, .next (cycle_of_ends (ends_noteTenants_cons ha (ends_noteTenants_cons hb .done))) .none⟩

/-- Whether a run of one cycle comes to some alerts. -/
def PorchEnds (rules : List Rule) (alerts : List Alert) : Prop :=
  ∃ jss w, Outlook.Cycles Memory.keeping (fun _ => True) {} false [porch rules] (.start {}) jss w ∧
    w.store.alerts = alerts

/-- One tenant's door raises an alert if the other one has no rule. -/
theorem porch_alone :
    PorchEnds [doorOf "tenant-b" "rule-1"] [alertOfDoor "tenant-b" "rule-1" "b1"] := by
  obtain ⟨w, hb, -, -, hstore⟩ := door_raises [doorOf "tenant-b" "rule-1"] "tenant-b" "rule-1" "b1"
    (w := .start {}) (fun _ _ => rfl) rfl fun a ha => absurd ha List.not_mem_nil
  obtain ⟨jss, hcycles⟩ := porch_cycle .done hb
  exact ⟨jss, w, hcycles, hstore⟩

/-- So it does if the other one's rule has another id. -/
theorem porch_beside :
    PorchEnds [doorOf "tenant-a" "rule-2", doorOf "tenant-b" "rule-1"]
      [alertOfDoor "tenant-a" "rule-2" "a1", alertOfDoor "tenant-b" "rule-1" "b1"] := by
  obtain ⟨w₁, ha, hidle, hdrawer, hstore₁⟩ := door_raises
    [doorOf "tenant-a" "rule-2", doorOf "tenant-b" "rule-1"] "tenant-a" "rule-2" "a1"
    (w := .start {}) (fun _ _ => rfl) rfl fun a ha => absurd ha List.not_mem_nil
  obtain ⟨w₂, hb, -, -, hstore₂⟩ := door_raises
    [doorOf "tenant-a" "rule-2", doorOf "tenant-b" "rule-1"] "tenant-b" "rule-1" "b1" (w := w₁) hidle
    (by rw [hdrawer]; rfl) (by
      rw [hstore₁]
      simp [Clocked.start, Scene.start, alertOfDoor, Worker.raisedAlert, doorOf])
  obtain ⟨jss, hcycles⟩ := porch_cycle ha hb
  exact ⟨jss, w₂, hcycles, by rw [hstore₂, hstore₁]; rfl⟩

/-- It raises none if the other one's rule has the same id. -/
theorem porch_shared :
    PorchEnds [doorOf "tenant-a" "rule-1", doorOf "tenant-b" "rule-1"]
      [alertOfDoor "tenant-a" "rule-1" "a1"] := by
  obtain ⟨w₁, ha, hidle, hdrawer, hstore₁⟩ := door_raises
    [doorOf "tenant-a" "rule-1", doorOf "tenant-b" "rule-1"] "tenant-a" "rule-1" "a1"
    (w := .start {}) (fun _ _ => rfl) rfl fun a ha => absurd ha List.not_mem_nil
  obtain ⟨w₂, hb, hstore₂⟩ := door_suppresses
    [doorOf "tenant-a" "rule-1", doorOf "tenant-b" "rule-1"] "tenant-b" "rule-1" "a1" "tenant-a"
    hidle (by decide) hstore₁
  obtain ⟨jss, hcycles⟩ := porch_cycle ha hb
  exact ⟨jss, w₂, hcycles, by rw [hstore₂, hstore₁]; rfl⟩

end

/-- Tenants get in each other's way if a rule of each has the same id and watches the same device:
then a recent alert of one suppresses the alert of the other. -/
theorem tenants_undisturbed_not :
    ¬ ∀ xs ys : List Outlook, List.Forall₂ (Outlook.AgreesFor "tenant-b") xs ys →
      (∀ x ∈ xs ++ ys, ∃ rules devices, x.Loads rules devices) →
      ∀ jss w jss' w',
        Outlook.Cycles Memory.keeping (fun _ => True) {} false xs (.start {}) jss w →
          Outlook.Cycles Memory.keeping (fun _ => True) {} false ys (.start {}) jss' w' →
            AllLike (fun _ => True) (alertsOf "tenant-b" w.store.alerts)
              (alertsOf "tenant-b" w'.store.alerts) := by
  intro h
  let xs := [porch [doorOf "tenant-a" "rule-1", doorOf "tenant-b" "rule-1"]]
  let ys := [porch [doorOf "tenant-b" "rule-1"]]
  have hagree : List.Forall₂ (Outlook.AgreesFor "tenant-b") xs ys := .cons (porch_agrees rfl) .nil
  have hloads : ∀ x ∈ xs ++ ys, ∃ rules devices, x.Loads rules devices := by
    intro x hx
    rcases List.mem_append.mp hx with hx | hx
    · exact ⟨_, _, List.mem_singleton.mp hx ▸ porch_loads _⟩
    · exact ⟨_, _, List.mem_singleton.mp hx ▸ porch_loads _⟩
  obtain ⟨jss, w, hshared, hstore⟩ := porch_shared
  obtain ⟨jss', w', halone, hstore'⟩ := porch_alone
  have hlike := h xs ys hagree hloads jss w jss' w' hshared halone
  rw [hstore, hstore'] at hlike
  cases hlike

/-- Tenants that watch the same device by rules of different ids. -/
theorem tenants_undisturbed_porch :
    let xs := [porch [doorOf "tenant-a" "rule-2", doorOf "tenant-b" "rule-1"]]
    let ys := [porch [doorOf "tenant-b" "rule-1"]]
    List.Forall₂ (Outlook.AgreesFor "tenant-b") xs ys ∧
      (∀ x ∈ xs, ∃ rules devices, x.Loads rules devices) ∧
      (∀ y ∈ ys, ∃ rules devices, y.Loads rules devices) ∧
      (({} : EngineConfig).tenantConcurrency ≤ 1 ∨
        ∀ x ∈ xs, x.tenants.count "tenant-b" ≤ 1) ∧
      (∃ jss w jss' w',
        Outlook.Cycles Memory.keeping (fun _ => True) {} false xs (.start {}) jss w ∧
        Outlook.Cycles Memory.keeping (fun _ => True) {} false ys (.start {}) jss' w' ∧
        w.store.alerts.length = 2 ∧ w'.store.alerts.length = 1 ∧
        Outlook.notesOfAll {} "tenant-b" xs jss = Outlook.notesOfAll {} "tenant-b" ys jss' ∧
        AllLike (fun _ => True) (alertsOf "tenant-b" w.store.alerts)
          (alertsOf "tenant-b" w'.store.alerts)) ∧
      ∀ jss w jss' w',
        Outlook.Cycles Indexed.keeping (fun _ => True) {} false xs (.start {}) jss w →
        Outlook.Cycles Indexed.keeping (fun _ => True) {} false ys (.start {}) jss' w' →
          Outlook.notesOfAll {} "tenant-b" xs jss = Outlook.notesOfAll {} "tenant-b" ys jss' ∧
            ∃ p q, Indexed.Clear p w.store ∧ Indexed.Clear q w'.store ∧
              AllLike (fun _ => True) (alertsOf "tenant-b" p) (alertsOf "tenant-b" q) := by
  intro xs ys
  have hagree : List.Forall₂ (Outlook.AgreesFor "tenant-b") xs ys := .cons (porch_agrees rfl) .nil
  have hxs : ∀ x ∈ xs, ∃ rules devices, x.Loads rules devices :=
    fun x hx => ⟨_, _, List.mem_singleton.mp hx ▸ porch_loads _⟩
  have hys : ∀ y ∈ ys, ∃ rules devices, y.Loads rules devices :=
    fun y hy => ⟨_, _, List.mem_singleton.mp hy ▸ porch_loads _⟩
  have hsole : ({} : EngineConfig).tenantConcurrency ≤ 1 ∨
      ∀ x ∈ xs, x.tenants.count "tenant-b" ≤ 1 :=
    Or.inl le_rfl
  obtain ⟨-, hmemory, hindexed⟩ := @tenants_undisturbed {} false "tenant-b" (fun _ => True) xs ys
    hagree hxs hys hsole
  obtain ⟨jss, w, hbeside, hstore⟩ := porch_beside
  obtain ⟨jss', w', halone, hstore'⟩ := porch_alone
  have hdue : Outlook.visitsOfAll xs =
      [(doorOf "tenant-a" "rule-2", "dev-1"), (doorOf "tenant-b" "rule-1", "dev-1")] := rfl
  have hdue' : Outlook.visitsOfAll ys = [(doorOf "tenant-b" "rule-1", "dev-1")] := rfl
  have hapart : Outlook.Apart "tenant-b" xs := by
    rw [Outlook.Apart, hdue]
    simp [doorOf]
  have hapart' : Outlook.Apart "tenant-b" ys := by
    rw [Outlook.Apart, hdue']
    simp
  have hseparates : Indexed.manner.Separates "tenant-b" (Outlook.visitsOfAll xs) := by
    rw [hdue]
    refine ⟨?_, ?_⟩ <;> simp [Indexed.manner, Indexed.joined, doorOf]
  have hseparates' : Indexed.manner.Separates "tenant-b" (Outlook.visitsOfAll ys) := by
    rw [hdue']
    refine ⟨?_, ?_⟩ <;> simp
  refine ⟨hagree, hxs, hys, hsole, ⟨jss, w, jss', w', hbeside, halone, by rw [hstore]; rfl,
    by rw [hstore']; rfl, hmemory hapart hapart' jss w jss' w' hbeside halone⟩,
    hindexed hseparates hseparates' ?_⟩
  intro z hz t device
  rcases List.mem_append.mp hz with hz | hz <;> rw [List.mem_singleton.mp hz] <;> rfl

end TelemetryAlerts
