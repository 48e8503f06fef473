import Mathlib.Tactic
import TelemetryAlerts.Evaluation.Lifecycle
import TelemetryAlerts.Proofs.Outcome
import TelemetryAlerts.Proofs.Rule.Document

/-!
# Spans that a decision measures

To decide what is to be done for a rule and a device, the time that has passed is measured against
a number of minutes: against the cooldown if an alert would be triggered again, and against the
delay of an escalation if an active alert could be escalated. There is a longest span of time, but
no largest number of minutes in a rule.

**Results.**
* `suppresses_of_aware`, `escalationDue_of_aware`: what is measured.
* `decided_iff`: a decision is taken just if the minutes that it is measured against make a span.
-/

namespace TelemetryAlerts

/-- The least number of minutes that is longer than any span of time. -/
def minutesTooLong : Nat :=
  (maxSpanDays + 1) * 1440

/-- The numbers of minutes that a decision measures the time against. -/
inductive Rule.Measures (r : Rule) (again : Bool) :
    Option Alert → Bool → Option Alert → Nat → Prop
  | cooldown
      (last : Alert) :
      Measures r again none true (some last) r.cooldownMinutes
  | delay
      {a : Alert} {e : Escalation}
      (last? : Option Alert)
      (hescalation : r.escalation? = some e)
      (hactive : a.status = .active)
      (hdue : again = true ∨ a.lastEscalatedAt? = none) :
      Measures r again (some a) true last? e.afterMinutes

/-- Whether a measurement is made just if something holds, and fails for the length of a span
otherwise. -/
def MeasuredIf {α : Type} (x : Except TimeFault α) (fits : Prop) : Prop :=
  (fits → ∃ a, x = .ok a) ∧ (¬ fits → x = .error .spanTooLong)

namespace MeasuredIf

variable {α β : Type} {x : Except TimeFault α} {fits fits' : Prop}

theorem of_ok
    {a : α}
    (h : x = .ok a)
    (hfits : fits) :
    MeasuredIf x fits :=
  ⟨fun _ => ⟨a, h⟩, fun hnot => absurd hfits hnot⟩

theorem congr
    (h : MeasuredIf x fits)
    (hiff : fits ↔ fits') :
    MeasuredIf x fits' :=
  propext hiff ▸ h

/-- What goes on with a measurement does not fail by itself. -/
theorem then_pure
    (h : MeasuredIf x fits)
    (f : α → β) :
    MeasuredIf (x >>= fun a => pure (f a)) fits := by
  refine ⟨fun hfits => ?_, fun hnot => ?_⟩
  · obtain ⟨a, ha⟩ := h.1 hfits
    exact ⟨f a, by rw [ha]; rfl⟩
  · rw [h.2 hnot]
    rfl

theorem exists_ok_iff
    (h : MeasuredIf x fits) :
    (∃ a, x = .ok a) ↔ fits := by
  refine ⟨fun ⟨a, ha⟩ => by_contra fun hnot => ?_, h.1⟩
  rw [h.2 hnot] at ha
  cases ha

theorem eq_error_iff
    (h : MeasuredIf x fits) :
    x = .error .spanTooLong ↔ ¬ fits := by
  refine ⟨fun herror hfits => ?_, h.2⟩
  obtain ⟨a, ha⟩ := h.1 hfits
  rw [herror] at ha
  cases ha

end MeasuredIf

theorem measuredIf_spanOfMinutes
    (minutes : Nat) :
    MeasuredIf (spanOfMinutes minutes) (minutes < minutesTooLong) := by
  have hdays : minutes / 1440 ≤ maxSpanDays ↔ minutes < minutesTooLong := by
    unfold minutesTooLong
    omega
  unfold spanOfMinutes
  exact ⟨fun hfits => ⟨_, if_pos (hdays.mpr hfits)⟩, fun hlong => if_neg (hdays.not.mpr hlong)⟩

theorem elapsed_of_aware
    {later earlier : Moment}
    (hlater : later.isAware = true)
    (hearlier : earlier.isAware = true) :
    elapsed later earlier = .ok (later.instant - earlier.instant) := by
  rw [elapsed, Moment.since?, if_pos (hlater.trans hearlier.symm)]
  rfl

/-! ### What is measured -/

variable {r : Rule} {e : Escalation} {a last : Alert} {now : Moment} {again : Bool}

theorem suppresses_of_aware
    (hnow : now.isAware = true)
    (hlast : last.triggeredAt.isAware = true) :
    MeasuredIf (suppresses r (some last) now) (r.cooldownMinutes < minutesTooLong) := by
  rw [suppresses, elapsed_of_aware hnow hlast, ok_bind]
  exact (measuredIf_spanOfMinutes r.cooldownMinutes).then_pure _

theorem escalationDue_of_aware
    (hnow : now.isAware = true)
    (hsince : (a.lastEscalatedAt?.getD a.triggeredAt).isAware = true)
    (hescalation : r.escalation? = some e)
    (hactive : a.status = .active)
    (hdue : again = true ∨ a.lastEscalatedAt? = none) :
    MeasuredIf (escalationDue r a now again) (e.afterMinutes < minutesTooLong) := by
  have honce : ¬ (a.lastEscalatedAt?.isSome && !again) = true := by
    rcases hdue with h | h <;> simp [h]
  simp only [escalationDue, hescalation, hactive, ne_eq, not_true_eq_false, if_false, if_neg honce,
    elapsed_of_aware hnow hsince, ok_bind]
  exact (measuredIf_spanOfMinutes e.afterMinutes).then_pure _

/-- Nothing is measured for an alert that cannot be escalated. -/
theorem escalationDue_of_not
    (h : ∀ e, r.escalation? = some e → a.status = .active →
      ¬ (again = true ∨ a.lastEscalatedAt? = none)) :
    escalationDue r a now again = .ok false := by
  unfold escalationDue
  cases hescalation : r.escalation? with
  | none =>
      rfl
  | some e =>
      by_cases hactive : a.status = .active
      · have hnot := h e hescalation hactive
        push Not at hnot
        have honce : (a.lastEscalatedAt?.isSome && !again) = true := by
          simp [hnot.1, Option.isSome_iff_ne_none.mpr hnot.2]
        simp [hactive, honce]
      · simp [hactive]

/-! ### Decisions -/

theorem choose_of_aware
    (open? last? : Option Alert) (fires again : Bool) (r : Rule)
    (hnow : now.isAware = true)
    (hopen : ∀ a ∈ open?, (a.lastEscalatedAt?.getD a.triggeredAt).isAware = true)
    (hlast : ∀ a ∈ last?, a.triggeredAt.isAware = true) :
    MeasuredIf (Transition.choose open? fires last? r now again)
      (∀ m, r.Measures again open? fires last? m → m < minutesTooLong) := by
  rcases open? with _ | a <;> rcases fires with _ | _
  · exact .of_ok rfl nofun
  · rcases last? with _ | last
    · exact .of_ok rfl nofun
    · refine ((suppresses_of_aware hnow (hlast last rfl)).then_pure _).congr ⟨?_, fun h => ?_⟩
      · rintro hfits m ⟨⟩
        exact hfits
      · exact h _ (.cooldown last)
  · exact .of_ok rfl nofun
  · by_cases hmeasures : ∃ e, r.escalation? = some e ∧ a.status = .active ∧
        (again = true ∨ a.lastEscalatedAt? = none)
    · obtain ⟨e, hescalation, hactive, hdue⟩ := hmeasures
      have hmeasured := escalationDue_of_aware hnow (hopen a rfl) hescalation hactive hdue
      refine (hmeasured.then_pure _).congr
        ⟨?_, fun h => h _ (.delay last? hescalation hactive hdue)⟩
      rintro hfits m (_ | ⟨-, hescalation', -, -⟩)
      rw [Option.some.inj (hescalation'.symm.trans hescalation)]
      exact hfits
    · push Not at hmeasures
      have hnone : escalationDue r a now again = .ok false :=
        escalationDue_of_not fun e hescalation hactive => by
          have := hmeasures e hescalation hactive
          tauto
      refine .of_ok (a := .none) ?_ ?_
      · rw [Transition.choose, hnone]
        rfl
      · rintro m (_ | ⟨-, hescalation, hactive, hdue⟩)
        have := hmeasures _ hescalation hactive
        tauto

/-- If all moments know their distance from universal time, a decision is taken just if every
number of minutes that the time is measured against makes a span. Otherwise there is a single
reason why it is not. -/
theorem decided_iff
    (open? last? : Option Alert) (fires again : Bool) (r : Rule) (now : Moment)
    (hnow : now.isAware = true)
    (hopen : ∀ a ∈ open?,
      a.triggeredAt.isAware = true ∧ ∀ t ∈ a.lastEscalatedAt?, t.isAware = true)
    (hlast : ∀ a ∈ last?, a.triggeredAt.isAware = true) :
    ((∃ t, Transition.choose open? fires last? r now again = .ok t) ↔
      ∀ m, r.Measures again open? fires last? m → m < minutesTooLong) ∧
    (Transition.choose open? fires last? r now again = .error .spanTooLong ↔
      ∃ m, r.Measures again open? fires last? m ∧ minutesTooLong ≤ m) := by
  have hsince : ∀ a ∈ open?, (a.lastEscalatedAt?.getD a.triggeredAt).isAware = true := by
    intro a ha
    obtain ⟨htriggered, hescalated⟩ := hopen a ha
    cases hlast? : a.lastEscalatedAt? with
    | none =>
        exact htriggered
    | some t =>
        exact hescalated t hlast?
  have hmeasured := choose_of_aware open? last? fires again r hnow hsince hlast
  refine ⟨hmeasured.exists_ok_iff, hmeasured.eq_error_iff.trans ?_⟩
  push Not
  rfl

/-- A rule for a furnace that cools down for some time. -/
def furnaceRule (cooldown : Nat) : Rule where
  id := "rule-1"
  tenant := "tenant-a"
  name := "Hot"
  description? := none
  tags := []
  target := .device
  devices := ["furnace-1"]
  deviceTypes := []
  conditions := [⟨"temperature", .greaterThan, .int 80, .null, none, none⟩]
  logic := .all
  severity := .warning
  windowSeconds? := none
  frequencySeconds := 60
  cooldownMinutes := cooldown
  channels := []
  recipients := []
  escalation? := none
  enabled := true

/-- The last alert of a furnace. -/
def furnaceAlert : Alert where
  id := "a1"
  tenant := "tenant-a"
  rule := "rule-1"
  device := "furnace-1"
  status := .resolved
  severity := .warning
  message := "Alert triggered: Hot"
  details := ""
  readings := []
  triggeredAt := .epoch
  updatedAt := .epoch
  acknowledgedAt? := none
  acknowledgedBy? := none
  acknowledgmentNotes? := none
  resolvedAt? := some .epoch
  resolutionNotes? := none
  notifications := 0
  escalations := 0
  lastEscalatedAt? := none

theorem decided_iff_furnace :
    Moment.epoch.isAware = true ∧ furnaceAlert.triggeredAt.isAware = true ∧
      (∃ t, Transition.choose none true (some furnaceAlert) (furnaceRule 1439999999999)
        .epoch true = .ok t) ∧
      Transition.choose none true (some furnaceAlert) (furnaceRule 1440000000000)
        .epoch true = .error .spanTooLong := by
  have hlast : ∀ a ∈ some furnaceAlert, a.triggeredAt.isAware = true := by
    rintro _ ⟨⟩
    rfl
  obtain ⟨hfits, -⟩ := decided_iff none (some furnaceAlert) true true (furnaceRule 1439999999999)
    .epoch rfl (by simp) hlast
  obtain ⟨-, hlong⟩ := decided_iff none (some furnaceAlert) true true (furnaceRule 1440000000000)
    .epoch rfl (by simp) hlast
  refine ⟨rfl, rfl, hfits.mpr ?_, hlong.mpr ⟨_, .cooldown furnaceAlert, le_rfl⟩⟩
  rintro m ⟨⟩
  decide

/-- A rule can be read from a document although no decision can be taken by it. -/
theorem undecided_furnace :
    ¬ ∀ (v : Yaml.Value) (r : Rule) (open? last? : Option Alert) (fires again : Bool)
      (now : Moment), Document.record Rule.ofEntries v = .ok r → now.isAware = true →
        (∀ a ∈ open?,
          a.triggeredAt.isAware = true ∧ ∀ t ∈ a.lastEscalatedAt?, t.isAware = true) →
        (∀ a ∈ last?, a.triggeredAt.isAware = true) →
          ∃ t, Transition.choose open? fires last? r now again = .ok t := by
  intro hall
  have hread : Document.record Rule.ofEntries
      (Yaml.Value.ofJson (furnaceRule 1440000000000).toJson) =
        .ok (furnaceRule 1440000000000) :=
    Rule.ofEntries_written fun _ => by simp [furnaceRule]
  obtain ⟨t, ht⟩ := hall _ _ none (some furnaceAlert) true true .epoch hread rfl (by simp) (by
    rintro _ ⟨⟩
    rfl)
  cases ht

end TelemetryAlerts
