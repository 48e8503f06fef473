import Mathlib.Tactic
import TelemetryAlerts.Evaluation.Condition

/-!
# When a rule fires, and how severely

Whether a rule fires can be told from the conditions that hold, and so can the severity of its
alert. Both depend on the set of its conditions only, and on the readings that they name.

**Results.**
* `Rule.fires_all_iff`, `Rule.fires_any_iff`: which conditions have to hold.
* `Rule.isHighest_severityFor`: the severity is the highest level of the conditions that hold.
* `firing_explained`: both together, and what makes no difference to a rule.
-/

namespace TelemetryAlerts

/-! ### The highest of some severities -/

namespace Severity

variable {l m : Severity} {ls ms : List Severity}

/-- Whether a severity is the highest of a list. -/
def IsHighest (l : Severity) (ls : List Severity) : Prop :=
  l ∈ ls ∧ ∀ m ∈ ls, m.rank ≤ l.rank

theorem rank_injective :
    Function.Injective rank := by
  intro l m h
  cases l <;> cases m <;> first | rfl | cases h

/-- The highest of a list depends on its members only. -/
theorem IsHighest.eq_of_mem_iff
    (h : l.IsHighest ls)
    (h' : m.IsHighest ms)
    (hsame : ∀ k, k ∈ ls ↔ k ∈ ms) :
    l = m :=
  rank_injective (le_antisymm (h'.2 l ((hsame l).mp h.1)) (h.2 m ((hsame m).mpr h'.1)))

end Severity

/-! ### Conditions that hold -/

theorem Condition.holds_congr
    {c : Condition} {s s' : Snapshot}
    (h : s'.lookup c.field = s.lookup c.field) :
    c.holds s' = c.holds s := by
  unfold Condition.holds Snapshot.number?
  rw [h]

namespace Rule

variable {r r' : Rule} {s s' : Snapshot} {c : Condition}

@[simp] theorem mem_matched :
    c ∈ r.matched s ↔ c ∈ r.conditions ∧ c.holds s = true :=
  List.mem_filter

theorem matched_eq_conditions_iff :
    r.matched s = r.conditions ↔ ∀ c ∈ r.conditions, c.holds s = true :=
  List.filter_eq_self

theorem matched_ne_nil_iff :
    r.matched s ≠ [] ↔ ∃ c ∈ r.conditions, c.holds s = true := by
  rw [Ne, matched, List.filter_eq_nil_iff]
  push Not
  rfl

theorem fires_all_iff
    (h : r.logic = .all) :
    r.fires s = true ↔ r.conditions ≠ [] ∧ r.matched s = r.conditions := by
  rw [matched_eq_conditions_iff, fires, h]
  simp

theorem fires_any_iff
    (h : r.logic = .any) :
    r.fires s = true ↔ r.matched s ≠ [] := by
  rw [matched_ne_nil_iff, fires, h]
  cases hconditions : r.conditions <;> simp

/-! ### Levels -/

/-- The levels of the conditions that hold. -/
def levels (r : Rule) (s : Snapshot) : List Severity :=
  (r.matched s).filterMap Condition.level?

theorem isHighest_highest
    (first : Severity) (rest : List Severity) :
    (highest first rest).IsHighest (first :: rest) := by
  induction rest generalizing first with
  | nil =>
      exact ⟨List.mem_cons_self, fun m hm => by rw [List.mem_singleton.mp hm]; exact le_rfl⟩
  | cons l rest ih =>
      by_cases hlt : first.rank < l.rank
      · have hstep : highest first (l :: rest) = highest l rest := by
          rw [highest, List.foldl_cons, if_pos hlt]
          rfl
        obtain ⟨hmem, hle⟩ := ih l
        rw [hstep]
        refine ⟨List.mem_cons_of_mem first hmem, List.forall_mem_cons.mpr ⟨?_, hle⟩⟩
        exact hlt.le.trans (hle l List.mem_cons_self)
      · have hstep : highest first (l :: rest) = highest first rest := by
          rw [highest, List.foldl_cons, if_neg hlt]
          rfl
        obtain ⟨hmem, hle⟩ := ih first
        obtain ⟨hfirst, hrest⟩ := List.forall_mem_cons.mp hle
        rw [hstep]
        have hl : l.rank ≤ (highest first rest).rank := (not_lt.mp hlt).trans hfirst
        refine ⟨?_, List.forall_mem_cons.mpr ⟨hfirst, List.forall_mem_cons.mpr ⟨hl, hrest⟩⟩⟩
        exact (List.sublist_cons_self l rest).cons_cons first |>.mem hmem

theorem severityFor_of_levels_eq_nil
    (h : r.levels s = []) :
    r.severityFor s = r.severity := by
  rw [levels] at h
  rw [severityFor, h]

/-- The severity is the highest level of the conditions that hold. -/
theorem isHighest_severityFor
    (h : r.levels s ≠ []) :
    (r.severityFor s).IsHighest (r.levels s) := by
  obtain ⟨l, rest, hlevels⟩ := List.exists_cons_of_ne_nil h
  have hseverity : r.severityFor s = highest l rest := by
    rw [levels] at hlevels
    rw [severityFor, hlevels]
  rw [hseverity, hlevels]
  exact isHighest_highest l rest

/-! ### What makes no difference -/

theorem ne_nil_congr
    {α : Type} {as bs : List α}
    (h : ∀ a, a ∈ as ↔ a ∈ bs) :
    as ≠ [] ↔ bs ≠ [] := by
  simp only [Ne, List.eq_nil_iff_forall_not_mem, h]

section SameMembers

variable (hconditions : ∀ c, c ∈ r'.conditions ↔ c ∈ r.conditions)
variable (hreadings : ∀ c ∈ r.conditions, s'.lookup c.field = s.lookup c.field)

include hconditions hreadings

theorem mem_matched_congr
    (c : Condition) :
    c ∈ r'.matched s' ↔ c ∈ r.matched s := by
  rw [mem_matched, mem_matched, hconditions]
  exact and_congr_right fun hc => by rw [Condition.holds_congr (hreadings c hc)]

theorem fires_congr
    (hlogic : r'.logic = r.logic) :
    r'.fires s' = r.fires s := by
  rw [Bool.eq_iff_iff]
  cases hr : r.logic with
  | all =>
      rw [fires_all_iff (hlogic.trans hr), fires_all_iff hr, matched_eq_conditions_iff,
        matched_eq_conditions_iff, ne_nil_congr hconditions]
      refine and_congr_right fun _ => forall_congr' fun c => ?_
      rw [hconditions]
      exact forall_congr' fun hc => by rw [Condition.holds_congr (hreadings c hc)]
  | any =>
      rw [fires_any_iff (hlogic.trans hr), fires_any_iff hr]
      exact ne_nil_congr (mem_matched_congr hconditions hreadings)

theorem severityFor_congr
    (hseverity : r'.severity = r.severity) :
    r'.severityFor s' = r.severityFor s := by
  have hlevels (l : Severity) : l ∈ r'.levels s' ↔ l ∈ r.levels s := by
    simp only [levels, List.mem_filterMap, mem_matched_congr hconditions hreadings]
  by_cases hnone : r.levels s = []
  · have hnone' : r'.levels s' = [] := not_ne_iff.mp ((ne_nil_congr hlevels).not.mpr (· hnone))
    rw [severityFor_of_levels_eq_nil hnone, severityFor_of_levels_eq_nil hnone', hseverity]
  · have hsome : r'.levels s' ≠ [] := (ne_nil_congr hlevels).mpr hnone
    exact (isHighest_severityFor hsome).eq_of_mem_iff (isHighest_severityFor hnone) hlevels

end SameMembers

end Rule

/-- A rule for which all conditions have to hold fires just if it has any and all are among those
that hold; a rule for which one is enough fires just if any is among them. The severity is the
highest of the levels of those that hold, or the rule's own if none of them has a level. Both stay
as they are if conditions are put into another order, repeated or named once instead of several
times, and whatever the readings are that no condition names. -/
theorem firing_explained
    (r : Rule) (s : Snapshot) :
    (r.logic = .all → (r.fires s = true ↔ r.conditions ≠ [] ∧ r.matched s = r.conditions)) ∧
    (r.logic = .any → (r.fires s = true ↔ r.matched s ≠ [])) ∧
    (r.levels s = [] → r.severityFor s = r.severity) ∧
    (r.levels s ≠ [] → (r.severityFor s).IsHighest (r.levels s)) ∧
    ∀ conditions s', (∀ c, c ∈ conditions ↔ c ∈ r.conditions) →
      (∀ c ∈ r.conditions, s'.lookup c.field = s.lookup c.field) →
        { r with conditions := conditions }.fires s' = r.fires s ∧
          { r with conditions := conditions }.severityFor s' = r.severityFor s :=
  ⟨Rule.fires_all_iff, Rule.fires_any_iff, Rule.severityFor_of_levels_eq_nil,
    Rule.isHighest_severityFor, fun _ _ hconditions hreadings =>
      ⟨Rule.fires_congr hconditions hreadings rfl,
        Rule.severityFor_congr hconditions hreadings rfl⟩⟩

/-- High pressure of a pump. -/
def highPressure : Condition :=
  ⟨"pressure", .greaterThan, .int 80, .null, none, some .warning⟩

/-- Higher pressure, with the bound given as a text. -/
def higherPressure : Condition :=
  ⟨"pressure", .greaterThan, .text "95", .null, none, some .critical⟩

/-- A rule for a pump. -/
def pumpRule (logic : Logic) : Rule where
  id := "rule-1"
  tenant := "tenant-a"
  name := "Pressure"
  description? := none
  tags := []
  target := .device
  devices := ["pump-1"]
  deviceTypes := []
  conditions := [highPressure, higherPressure]
  logic := logic
  severity := .info
  windowSeconds? := none
  frequencySeconds := 60
  cooldownMinutes := 15
  channels := []
  recipients := []
  escalation? := none
  enabled := true

/-- What a pump reports, with a remark. -/
def pumpReadings (pressure : Int) (remark : String) : Snapshot :=
  [("remark", .str remark), ("pressure", .int pressure)]

theorem firing_explained_pump :
    (pumpRule .all).fires (pumpReadings 99 "dry") = true ∧
      (pumpRule .any).fires (pumpReadings 85 "dry") = true ∧
      (pumpRule .any).severityFor (pumpReadings 10 "dry") = .info ∧
      ((pumpRule .all).severityFor (pumpReadings 99 "dry")).IsHighest [.warning, .critical] ∧
      { pumpRule .all with conditions := [higherPressure, highPressure, higherPressure] }.fires
        (pumpReadings 99 "wet") = true := by
  obtain ⟨hall, -, -, hhighest, hsame⟩ := firing_explained (pumpRule .all) (pumpReadings 99 "dry")
  obtain ⟨-, hany, -⟩ := firing_explained (pumpRule .any) (pumpReadings 85 "dry")
  obtain ⟨-, -, hown, -⟩ := firing_explained (pumpRule .any) (pumpReadings 10 "dry")
  have hlevels : (pumpRule .all).levels (pumpReadings 99 "dry") = [.warning, .critical] := by
    decide +kernel
  have hfires : (pumpRule .all).fires (pumpReadings 99 "dry") = true := by
    refine (hall rfl).mpr ⟨nofun, Rule.matched_eq_conditions_iff.mpr fun c hc => ?_⟩
    rcases List.mem_pair.mp hc with rfl | rfl <;> decide +kernel
  obtain ⟨hstill, -⟩ := hsame [higherPressure, highPressure, higherPressure]
    (pumpReadings 99 "wet") (fun c => by simp [pumpRule]; tauto)
    (fun c hc => by rcases List.mem_pair.mp hc with rfl | rfl <;> rfl)
  rw [hlevels] at hhighest
  refine ⟨hfires, ?_, hown (by decide +kernel), hhighest nofun, hstill.trans hfires⟩
  exact (hany rfl).mpr (Rule.matched_ne_nil_iff.mpr
    ⟨highPressure, List.mem_cons_self, by decide +kernel⟩)

end TelemetryAlerts
