import TelemetryAlerts.Evaluation.Condition
import TelemetryAlerts.Proofs.Number.Undefined

/-!
# Operators that exclude each other

Two numbers are equal or not, and a number lies in a range or outside. So of two conditions that
differ in such operators one holds, if all the numbers are there. The exception is a reading that
is the same infinity as the threshold: the distance of the two is undefined, and neither counts
them as equal nor as different.

**Results.**
* `Operator.equal_eq_not_notEqual_iff`: when one of the two comparisons by distance holds.
* `Condition.meets_of_missing`: no condition holds without the numbers that it needs.
* `complementary_iff`: the operators exclude each other, and one of them is met unless a reading
  is infinite and the threshold itself.
-/

namespace TelemetryAlerts

/-! ### Comparing by distance -/

namespace Operator

variable {x y : Float}

theorem isNaN_equalityTolerance :
    equalityTolerance.isNaN = false := by
  decide +kernel

/-- No distance is both less than the tolerance and not less. -/
theorem equal_and_notEqual
    (x y : Float) :
    (compares x y .equal && compares x y .notEqual) = false := by
  rw [Bool.and_eq_false_iff, compares, compares, decide_eq_false_iff_not, decide_eq_false_iff_not]
  exact Decidable.not_or_of_imp Number.not_le_of_lt

/-- Defined numbers count as equal or as different, but for an infinity and itself. -/
theorem equal_eq_not_notEqual_iff
    (hx : x.isNaN = false)
    (hy : y.isNaN = false) :
    compares x y .equal = !compares x y .notEqual ↔ ¬ (x.isInf = true ∧ x = y) := by
  rw [← Number.isNaN_sub_iff hx hy, ← Number.isNaN_abs, compares, compares, ← decide_not]
  cases hdistance : (x - y).abs.isNaN with
  | true =>
      have hequal : ¬ (x - y).abs < equalityTolerance := Number.not_lt_of_isNaN hdistance
      have hnotEqual : ¬ equalityTolerance ≤ (x - y).abs := Number.not_le_of_isNaN hdistance
      simp [hequal, hnotEqual]
  | false =>
      simp [Number.lt_iff_not_le hdistance isNaN_equalityTolerance]

end Operator

/-! ### Conditions with one operator or another -/

namespace Condition

/-- Whether a condition holds of a snapshot with an operator in place of its own. -/
def meets (c : Condition) (op : Operator) (s : Snapshot) : Bool :=
  { c with operator := op }.holds s

/-- The numbers that a condition needs with an operator, as far as they are there: the reading,
the threshold, and for a range its upper end. -/
def needed (c : Condition) (op : Operator) (s : Snapshot) : List (Option Float) :=
  match op with
  | .between | .outside => [s.number? c.field, c.threshold.number?, c.upper.number?]
  | _ => [s.number? c.field, c.threshold.number?]

variable {c : Condition} {s : Snapshot} {actual threshold high : Float}

section Numbers

variable (hactual : s.number? c.field = some actual)
variable (hthreshold : c.threshold.number? = some threshold)

include hactual hthreshold

theorem meets_equal :
    c.meets .equal s = Operator.compares actual threshold .equal := by
  simp only [meets, holds, hactual, hthreshold]

theorem meets_notEqual :
    c.meets .notEqual s = Operator.compares actual threshold .notEqual := by
  simp only [meets, holds, hactual, hthreshold]

theorem meets_between
    (hhigh : c.upper.number? = some high) :
    c.meets .between s = inRange threshold actual high := by
  simp only [meets, holds, hactual, hthreshold, hhigh, Option.any_some]

theorem meets_outside
    (hhigh : c.upper.number? = some high) :
    c.meets .outside s = !inRange threshold actual high := by
  simp only [meets, holds, hactual, hthreshold, hhigh, Option.any_some]

end Numbers

/-- No condition holds without the numbers that it needs. -/
theorem meets_of_missing
    {op : Operator}
    (h : none ∈ c.needed op s) :
    c.meets op s = false := by
  unfold meets holds
  cases hactual : s.number? c.field with
  | none =>
      rfl
  | some actual =>
      cases hthreshold : c.threshold.number? with
      | none =>
          rfl
      | some threshold =>
          -- what is missing can only be the upper end, and only of a range
          cases op <;> simp [needed, hactual, hthreshold] at h
          · simp [← h]
          · simp [← h]

end Condition

/-- If the reading and the threshold stand for numbers, a condition does not hold both with
`equal` and with `notEqual`. It holds with one of them just if the two are not the same infinity;
if there is an upper end, too, it holds with one of `between` and `outside`. Without a number that
it needs, it does not hold. -/
theorem complementary_iff
    (c : Condition) (s : Snapshot) :
    (∀ actual threshold,
      s.number? c.field = some actual → c.threshold.number? = some threshold →
        (c.meets .equal s && c.meets .notEqual s) = false ∧
        (c.meets .equal s = !c.meets .notEqual s ↔
          ¬ (actual.isInf = true ∧ actual = threshold)) ∧
        ∀ high, c.upper.number? = some high → c.meets .between s = !c.meets .outside s) ∧
    ∀ op, none ∈ c.needed op s → c.meets op s = false := by
  refine ⟨fun actual threshold hactual hthreshold => ⟨?_, ?_, fun high hhigh => ?_⟩, fun op =>
    Condition.meets_of_missing⟩
  · rw [Condition.meets_equal hactual hthreshold, Condition.meets_notEqual hactual hthreshold]
    exact Operator.equal_and_notEqual actual threshold
  · rw [Condition.meets_equal hactual hthreshold, Condition.meets_notEqual hactual hthreshold]
    exact Operator.equal_eq_not_notEqual_iff (Snapshot.isNaN_of_number? hactual)
      (Scalar.isNaN_of_number? hthreshold)
  · rw [Condition.meets_between hactual hthreshold hhigh,
      Condition.meets_outside hactual hthreshold hhigh, Bool.not_not]

/-- A flow that is out of range, as a text. -/
def flowReadings : Snapshot :=
  [("flow", .str "1e999")]

/-- A flow against a threshold, without an upper end. -/
def flowCondition (threshold : Scalar) : Condition where
  field := "flow"
  operator := .equal
  threshold := threshold
  upper := .null
  unit? := none
  level? := none

/-- What the flow stands for. -/
def infiniteFlow : Float :=
  Number.ofMagnitude false Number.infinityBits

theorem complementary_iff_flow :
    flowReadings.number? "flow" = some infiniteFlow ∧ (Scalar.int 80).number? = some 80 ∧
      (flowCondition (.int 80)).meets .equal flowReadings = false ∧
      (flowCondition (.int 80)).meets .notEqual flowReadings = true ∧
      none ∈ (flowCondition (.int 80)).needed .outside flowReadings ∧
      (flowCondition (.int 80)).meets .outside flowReadings = false := by
  obtain ⟨hboth, hmissing⟩ := complementary_iff (flowCondition (.int 80)) flowReadings
  have hreading : flowReadings.number? "flow" = some infiniteFlow := by decide +kernel
  have hthreshold : (Scalar.int 80).number? = some 80 := by decide +kernel
  obtain ⟨-, hone, -⟩ := hboth infiniteFlow 80 hreading hthreshold
  have hdiffer : infiniteFlow ≠ 80 := by decide +kernel
  have hequal : (flowCondition (.int 80)).meets .equal flowReadings = false := by decide +kernel
  have hexcluded := hone.mpr fun h => hdiffer h.2
  have hmiss : none ∈ (flowCondition (.int 80)).needed .outside flowReadings :=
    .tail _ (.tail _ (.head _))
  refine ⟨hreading, hthreshold, hequal, ?_, hmiss, hmissing .outside hmiss⟩
  simpa [hequal] using hexcluded

/-- An infinite reading neither equals the same threshold nor differs from it. -/
theorem undecided_flow :
    ¬ ∀ (c : Condition) (s : Snapshot) (actual threshold : Float),
      s.number? c.field = some actual → c.threshold.number? = some threshold →
        c.meets .equal s = !c.meets .notEqual s := by
  intro hall
  have hone := hall (flowCondition (.text "inf")) flowReadings infiniteFlow infiniteFlow
    (by decide +kernel) (by decide +kernel)
  have hequal : (flowCondition (.text "inf")).meets .equal flowReadings = false := by
    decide +kernel
  have hnotEqual : (flowCondition (.text "inf")).meets .notEqual flowReadings = false := by
    decide +kernel
  rw [hequal, hnotEqual] at hone
  cases hone

end TelemetryAlerts
