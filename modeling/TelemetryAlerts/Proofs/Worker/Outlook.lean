import TelemetryAlerts.Proofs.Worker.Journal
import Mathlib.Data.List.Forall2

/-!
# What a cycle finds

The rules of each tenant, the devices of each type, the telemetry of each device, what the channels
report and the time of day: a cycle finds the same whenever it looks. Where faults are let in,
a call may fail instead, as any pattern of faults has it. Tenants that may be evaluated side by side
are tasks that take turns in any way.

**Results.**
* `Outlook.occasions_noted`: a journal follows the rules and their devices, as far as no fault kept
  them from being evaluated.
-/

namespace TelemetryAlerts

/-- What a cycle finds. -/
structure Outlook where
  tenants : List String
  rules : String → List Rule
  devices : String → String → List String
  telemetry : String → String → Snapshot
  report : Rule → Event → Report
  now : Moment

namespace Outlook

/-- The surroundings of a cycle at a store. A fault makes a call fail; a request that fails has no
effect. -/
def setting
    {σ : Type} (x : Outlook) (keeping : Keeping σ) (fresh : String → Prop) (faults : Prop) :
    Setting σ where
  keeping := keeping
  replies
    | .tenants, o => o = .ok x.tenants
    | .enabledRules t, o => o = .ok (x.rules t) ∨ faults ∧ ∃ f, o = .error f
    | .devicesOfType t type, o => o = .ok (x.devices t type) ∨ faults ∧ ∃ f, o = .error f
    | .telemetry device t, o => o = .ok (x.telemetry device t) ∨ faults ∧ ∃ f, o = .error f
    | .dispatch d, told => told = x.report d.notice.rule d.notice.event
    | .now, t => t = x.now
    | .freshId, id => fresh id
    | .isStopping, stopping => stopping = false
    | _, _ => True
  stamps t := t = x.now
  faulty := faults
  alone := False

/-- The devices that a rule watches. -/
def targets (x : Outlook) (r : Rule) : List String :=
  Worker.withoutRepeats <| match r.target with
    | .device => r.devices
    | .deviceType => r.deviceTypes.flatMap (x.devices r.tenant)

/-- The rules and devices whose evaluation is due, in order. -/
def visits (x : Outlook) (tenants : List String) : List (Rule × String) :=
  tenants.flatMap fun t => (x.rules t).flatMap fun r => (x.targets r).map fun device => (r, device)

theorem mem_visits
    {x : Outlook} {tenants : List String} {r : Rule} {device : String} :
    (r, device) ∈ x.visits tenants ↔ ∃ t ∈ tenants, r ∈ x.rules t ∧ device ∈ x.targets r := by
  simp only [visits, List.mem_flatMap, List.mem_map, Prod.mk.injEq]
  constructor
  · rintro ⟨t, ht, r', hr', device', hdevice', rfl, rfl⟩
    exact ⟨t, ht, hr', hdevice'⟩
  · rintro ⟨t, ht, hr, hdevice⟩
    exact ⟨t, ht, r, hr, device, hdevice, rfl, rfl⟩

section

variable {σ : Type} {x : Outlook} {keeping : Keeping σ} {fresh : String → Prop} {faults : Prop}
  {r : Rule} {device : String} {tenants : List String} {js : Journal}

theorem targets_of_resolves
    {devices : List String}
    (h : (x.setting keeping fresh faults).Resolves r devices) :
    devices = x.targets r := by
  unfold Setting.Resolves at h
  unfold targets
  cases htarget : r.target with
  | device =>
      rwa [htarget] at h
  | deviceType =>
      rw [htarget] at h
      obtain ⟨found, hfound, rfl⟩ := h
      refine congrArg Worker.withoutRepeats ?_
      rw [List.flatMap_def]
      refine congrArg List.flatten ?_
      generalize r.deviceTypes = types at hfound
      induction hfound with
      | nil =>
          rfl
      | @cons t here types found hreply _ ih =>
          obtain hhere | ⟨-, f, hf⟩ := hreply
          · rw [List.map_cons, ih, Except.ok.inj hhere]
          · cases hf

theorem rules_of_replies
    {t : String} {rules : List Rule}
    (h : (x.setting keeping fresh faults).replies (.enabledRules t) (.ok rules)) :
    rules = x.rules t := by
  obtain hrules | ⟨-, f, hf⟩ := h
  · exact Except.ok.inj hrules
  · cases hf

theorem mem_visits_of_visits
    (h : (x.setting keeping fresh faults).Visits tenants r device) :
    (r, device) ∈ x.visits tenants := by
  obtain ⟨t, ht, rules, hrules, hr, devices, hdevices, hdevice⟩ := h
  rw [rules_of_replies hrules] at hr
  rw [targets_of_resolves hdevices] at hdevice
  exact mem_visits.mpr ⟨t, ht, hr, hdevice⟩

/-! ### What is noted -/

/-- Whether a fault that is noted kept rules and devices of some kind from being evaluated. -/
def Skips (x : Outlook) (here : Rule → String → Bool) : Note → Prop
  | .unlisted t _ => ∃ r ∈ x.rules t, ∃ device ∈ x.targets r, here r device = true
  | .unresolved r _ => ∃ device ∈ x.targets r, here r device = true
  | .evaluated r device (.error _) _ => here r device = true
  | .evaluated _ _ (.ok _) _ => False

/-- What is evaluated, and by which telemetry, if it is of some kind. -/
def occasions (x : Outlook) (here : Rule → String → Bool) (visits : List (Rule × String)) :
    List (Option ((Rule × String) × Outcome Snapshot)) :=
  (visits.filter fun v => here v.1 v.2).map fun v => some (v, .ok (x.telemetry v.2 v.1.tenant))

variable {here : Rule → String → Bool}

theorem occasions_flatMap
    {α : Type} {R : α → Journal → Prop} {as : List α} {parts : List Journal}
    {f : α → List (Rule × String)}
    (hparts : List.Forall₂ R as parts)
    (hR : ∀ a, ∀ part ∈ parts, R a part →
      (part.filter (Note.isAt here)).map Note.occasion? = x.occasions here (f a)) :
    (parts.flatten.filter (Note.isAt here)).map Note.occasion? =
      x.occasions here (as.flatMap f) := by
  induction hparts with
  | nil =>
      rfl
  | @cons a part as parts hpart _ ih =>
      have hrest := ih fun a' part' hpart' => hR a' part' (List.mem_cons_of_mem _ hpart')
      rw [List.flatten_cons, List.filter_append, List.map_append, hrest,
        hR a part (by simp) hpart]
      simp [occasions]

theorem occasions_eq_nil
    {n : Note} {visits : List (Rule × String)}
    (hn : n.visit? = none)
    (hnone : ∀ v ∈ visits, here v.1 v.2 = false) :
    ([n].filter (Note.isAt here)).map Note.occasion? = x.occasions here visits := by
  have hempty : x.occasions here visits = [] :=
    List.map_eq_nil_iff.mpr (List.filter_eq_nil_iff.mpr fun v hv => by simp [hnone v hv])
  rw [hempty]
  cases n with
  | evaluated =>
      cases hn
  | _ =>
      rfl

theorem occasions_notesDevices
    {devices : List String}
    (h : List.Forall₂ ((x.setting keeping fresh faults).NotesDevice r) devices js)
    (hspared : faults → ∀ n ∈ js, ¬ x.Skips here n) :
    (js.filter (Note.isAt here)).map Note.occasion? =
      x.occasions here (devices.map fun device => (r, device)) := by
  induction h with
  | nil =>
      rfl
  | @cons device n devices js hn _ ih =>
      have hrest := ih fun hfaults n' hn' => hspared hfaults n' (List.mem_cons_of_mem _ hn')
      have hfirst := fun hfaults => hspared hfaults n (by simp)
      obtain ⟨reply, o, hreply, -, rfl⟩ := hn
      have hcons : x.occasions here ((device :: devices).map fun device => (r, device)) =
          (if here r device then [some ((r, device), .ok (x.telemetry device r.tenant))] else []) ++
            x.occasions here (devices.map fun device => (r, device)) := by
        rw [List.map_cons, occasions, List.filter_cons]
        split_ifs <;> rfl
      rw [hcons, ← hrest]
      by_cases hhere : here r device = true
      · rw [List.filter_cons_of_pos (by exact hhere), if_pos hhere]
        obtain rfl | ⟨hfaults, f, rfl⟩ := hreply
        · rfl
        · exact absurd hhere (hfirst hfaults)
      · rw [List.filter_cons_of_neg (by exact hhere), if_neg hhere, List.nil_append]

theorem occasions_notesRule
    (h : (x.setting keeping fresh faults).NotesRule r js)
    (hspared : faults → ∀ n ∈ js, ¬ x.Skips here n) :
    (js.filter (Note.isAt here)).map Note.occasion? =
      x.occasions here ((x.targets r).map fun device => (r, device)) := by
  obtain ⟨f, ⟨-, type, -, hf⟩, rfl⟩ | ⟨devices, hdevices, hnotes⟩ := h
  · refine occasions_eq_nil rfl ?_
    obtain hok | ⟨hfaults, -⟩ := hf
    · cases hok
    · simpa [Skips] using hspared hfaults
  · rw [← targets_of_resolves hdevices]
    exact occasions_notesDevices hnotes hspared

theorem occasions_notesTenant
    {t : String}
    (h : (x.setting keeping fresh faults).NotesTenant t js)
    (hspared : faults → ∀ n ∈ js, ¬ x.Skips here n) :
    (js.filter (Note.isAt here)).map Note.occasion? = x.occasions here (x.visits [t]) := by
  rw [visits, List.flatMap_singleton]
  obtain ⟨f, hf, rfl⟩ | ⟨rules, parts, hrules, hparts, rfl⟩ := h
  · obtain hok | ⟨hfaults, -⟩ := hf
    · cases hok
    · have hnone : ∀ r ∈ x.rules t, ∀ device ∈ x.targets r, here r device = false := by
        simpa [Skips] using hspared hfaults
      refine occasions_eq_nil rfl fun v hv => ?_
      obtain ⟨r, hr, hv⟩ := List.mem_flatMap.mp hv
      obtain ⟨device, hdevice, rfl⟩ := List.mem_map.mp hv
      exact hnone r hr device hdevice
  · rw [← rules_of_replies hrules]
    exact occasions_flatMap hparts fun r part hpart hnotes =>
      occasions_notesRule hnotes fun hfaults n hn =>
        hspared hfaults n (List.mem_flatten.mpr ⟨part, hpart, hn⟩)

/-- What is due is noted in its order, with the telemetry that there is, unless a fault kept it
from being evaluated. -/
theorem occasions_noted
    (h : (x.setting keeping fresh faults).NotesTenants tenants js)
    (hspared : faults → ∀ n ∈ js, ¬ x.Skips here n) :
    (js.filter (Note.isAt here)).map Note.occasion? = x.occasions here (x.visits tenants) := by
  obtain ⟨parts, hparts, rfl⟩ := h
  have hvisits : x.visits tenants = tenants.flatMap fun t => x.visits [t] := by
    simp [visits]
  rw [hvisits]
  exact occasions_flatMap hparts fun t part hpart hnotes =>
    occasions_notesTenant hnotes fun hfaults n hn =>
      hspared hfaults n (List.mem_flatten.mpr ⟨part, hpart, hn⟩)

end
end Outlook

/-- The tenants of a cycle, those together that are evaluated one after the other. -/
def jobs (config : EngineConfig) (tenants : List String) : List (List String) :=
  if config.tenantConcurrency ≤ 1 then [tenants] else tenants.map fun t => [t]

theorem flatten_jobs
    (config : EngineConfig) (tenants : List String) :
    (jobs config tenants).flatten = tenants := by
  unfold jobs
  split_ifs
  · exact List.append_nil tenants
  · rw [← List.flatMap_def, List.flatMap_singleton']

/-- A task evaluates tenants of the cycle. -/
theorem mem_of_mem_jobs
    {config : EngineConfig} {tenants : List String} {i : ℕ} {t : String}
    (ht : t ∈ (jobs config tenants)[i]?.getD []) :
    t ∈ tenants := by
  rw [← flatten_jobs config tenants]
  cases hpart : (jobs config tenants)[i]? with
  | none =>
      rw [hpart] at ht
      cases ht
  | some part =>
      rw [hpart] at ht
      exact List.mem_flatten.mpr ⟨part, List.mem_of_getElem? hpart, ht⟩

theorem flatMap_range_getD
    {α β : Type} (l : List (List α)) (g : List α → List β) :
    ((List.range l.length).flatMap fun i => g (l[i]?.getD [])) = l.flatMap g := by
  have hl : l = (List.range l.length).map fun i => l[i]?.getD [] :=
    List.ext_getElem (by simp) fun i hi _ => by simp [hi]
  conv_rhs => rw [hl, List.flatMap_map]

end TelemetryAlerts
