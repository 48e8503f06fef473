import TelemetryAlerts.Proofs.Outcome

/-!
# When an alert is triggered or escalated

A decision to trigger or to escalate tells what was known when it was taken: how long ago
the last alert was triggered, or the alert was escalated last.

**Results.**
* `choose_eq_trigger`, `choose_eq_escalate`: what led to a decision.
-/

namespace TelemetryAlerts

namespace Moment

/-- Whether a moment lies a number of minutes after another, or later still. -/
def IsLater (minutes : Nat) (later earlier : Moment) : Prop :=
  ∃ d, later.since? earlier = some d ∧ minutes * microsPerMinute ≤ d

/-- Whether of two moments one lies a number of minutes after the other, or later still. -/
def AreApart (minutes : Nat) (t u : Moment) : Prop :=
  t.IsLater minutes u ∨ u.IsLater minutes t

variable {minutes : Nat} {later t u : Moment}

theorem AreApart.symm
    (h : t.AreApart minutes u) :
    u.AreApart minutes t :=
  Or.symm h

/-- What lies after a moment lies after all that are no later. -/
theorem IsLater.of_le
    (h : later.IsLater minutes t)
    (haware : t.isAware = u.isAware)
    (hinstant : u.instant ≤ t.instant) :
    later.IsLater minutes u := by
  obtain ⟨d, hd, hle⟩ := h
  unfold since? at hd
  split_ifs at hd with hknown
  have hd' : later.instant - t.instant = d := Option.some.inj hd
  exact ⟨later.instant - u.instant, by rw [since?, if_pos (hknown.trans haware)], by omega⟩

end Moment

/-! ### Decisions -/

theorem timed_eq_ok
    {α : Type} {x : Except TimeFault α} {a : α} :
    timed x = .ok a ↔ x = .ok a := by
  cases x <;> simp [timed]

theorem isLater_of_elapsed
    {minutes : Nat} {later earlier : Moment} {span since : Int}
    (hspan : spanOfMinutes minutes = .ok span)
    (hsince : elapsed later earlier = .ok since)
    (hle : span ≤ since) :
    later.IsLater minutes earlier := by
  unfold spanOfMinutes at hspan
  split_ifs at hspan
  unfold elapsed at hsince
  cases hknown : later.since? earlier with
  | none =>
      simp [hknown] at hsince
  | some d =>
      simp only [hknown, Option.elim_some] at hsince
      rw [← Except.ok.inj hspan, ← Except.ok.inj hsince] at hle
      exact ⟨d, hknown, hle⟩

variable {open? last? : Option Alert} {fires again : Bool} {r : Rule} {a last : Alert} {now : Moment}

theorem suppresses_eq_false
    (h : suppresses r (some last) now = .ok false) :
    now.IsLater r.cooldownMinutes last.triggeredAt := by
  obtain ⟨since, hsince, h⟩ := bind_eq_ok.mp h
  obtain ⟨cooldown, hcooldown, h⟩ := bind_eq_ok.mp h
  have hlt := Except.ok.inj h
  rw [decide_eq_false_iff_not, Int.not_lt] at hlt
  exact isLater_of_elapsed hcooldown hsince hlt

theorem escalationDue_eq_true
    (h : escalationDue r a now again = .ok true) :
    ∃ e, r.escalation? = some e ∧ a.status = .active ∧
      (again = false → a.lastEscalatedAt? = none) ∧
      now.IsLater e.afterMinutes (a.lastEscalatedAt?.getD a.triggeredAt) := by
  unfold escalationDue at h
  cases hescalation : r.escalation? with
  | none =>
      simp [hescalation] at h
  | some e =>
      simp only [hescalation] at h
      split_ifs at h with hactive honce
      · simp at h
      · simp at h
      · obtain ⟨since, hsince, h⟩ := bind_eq_ok.mp h
        obtain ⟨delay, hdelay, h⟩ := bind_eq_ok.mp h
        have hle := Except.ok.inj h
        rw [decide_eq_true_eq] at hle
        refine ⟨e, rfl, Decidable.not_not.mp hactive, fun hagain => ?_, isLater_of_elapsed hdelay hsince hle⟩
        simpa [hagain] using honce

/-- An alert is triggered if none is open, and the last one is old enough. -/
theorem choose_eq_trigger
    (h : Transition.choose open? fires last? r now again = .ok .trigger) :
    open? = none ∧ fires = true ∧
      ∀ last ∈ last?, now.IsLater r.cooldownMinutes last.triggeredAt := by
  rcases open? with _ | a <;> rcases fires with _ | _
  · cases h
  · obtain ⟨suppressed, hsuppresses, h⟩ := bind_eq_ok.mp h
    cases suppressed with
    | true =>
        cases h
    | false =>
        refine ⟨rfl, rfl, fun last hlast => ?_⟩
        rw [Option.mem_def.mp hlast] at hsuppresses
        exact suppresses_eq_false hsuppresses
  · cases h
  · obtain ⟨due, -, h⟩ := bind_eq_ok.mp h
    cases due <;> cases h

/-- An open alert is escalated if it is active, and long enough after it was triggered or
escalated last. -/
theorem choose_eq_escalate
    (h : Transition.choose open? fires last? r now again = .ok .escalate) :
    ∃ a e, open? = some a ∧ r.escalation? = some e ∧ a.status = .active ∧
      (again = false → a.lastEscalatedAt? = none) ∧
      now.IsLater e.afterMinutes (a.lastEscalatedAt?.getD a.triggeredAt) := by
  rcases open? with _ | a <;> rcases fires with _ | _
  · cases h
  · obtain ⟨suppressed, -, h⟩ := bind_eq_ok.mp h
    cases suppressed <;> cases h
  · cases h
  · obtain ⟨due, hdue, h⟩ := bind_eq_ok.mp h
    cases due with
    | false =>
        cases h
    | true =>
        obtain ⟨e, hescalation, hactive, honce, hlater⟩ := escalationDue_eq_true hdue
        exact ⟨a, e, rfl, hescalation, hactive, honce, hlater⟩

end TelemetryAlerts
