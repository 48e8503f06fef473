import TelemetryAlerts.Proofs.Outcome
import TelemetryAlerts.Rule.Reader
import TelemetryAlerts.Yaml.Value

/-!
# The documents of rules

A rule can be written down as a document. What is read from a document is a rule that has a
condition if it is enabled, and every such rule is read from its own document.

**Results.**
* `isProper_of_ofEntries`: rules that are read have what makes them of use.
* `ofEntries_written`: a rule is read from the fields of its document.
-/

namespace TelemetryAlerts
namespace Rule

open Yaml (Value)
open Yaml.Value

/-- Whether a rule has a condition if it is enabled. -/
def IsProper (r : Rule) : Prop :=
  r.enabled = true → r.conditions ≠ []

theorem isProper_of_ofEntries
    {α : Type} [Document α] {e : Entries α} {r : Rule}
    (h : ofEntries e = .ok r) :
    r.IsProper := by
  unfold ofEntries at h
  cases hfields : fieldsOfEntries e with
  | bad complaints =>
      rw [hfields] at h
      cases h
  | ok r' =>
      rw [hfields, Checked.andThen] at h
      split_ifs at h with hempty
      · cases h
      · cases h
        intro henabled hnone
        rw [henabled, hnone] at hempty
        exact hempty rfl

/-! ### Reading single fields -/

theorem optional_text_written
    (s? : Option String) :
    Document.optional Document.text (Value.ofJson (Json.ofText? s?)) = .ok s? := by
  cases s? <;> rfl

theorem optional_severity_written
    (s? : Option Severity) :
    Document.optional (Document.word Severity.ofName?)
      (Value.ofJson (Json.ofText? (s?.map Severity.name))) = .ok s? := by
  rcases s? with - | s
  · rfl
  · cases s <;> rfl

theorem scalar_written
    (s : Scalar) :
    Scalar.check (Value.ofJson s.toJson) = .ok s := by
  cases s <;> rfl

theorem nat_written
    (n : Nat) :
    Document.nat (Value.ofJson (.int n)) = .ok n := by
  simp [Document.nat, Document.int, Value.ofJson, Document.layer, Checked.andThen]

theorem optional_int_written
    (n? : Option Int) :
    Document.optional Document.int (Value.ofJson ((n?.map Json.int).getD .null)) = .ok n? := by
  cases n? <;> rfl

/-- A list is read from items of which each is read. -/
theorem list_written
    {α : Type} {check : Value → Checked α} {write : α → Json}
    (h : ∀ a, check (Value.ofJson (write a)) = .ok a)
    (l : List α) :
    Document.list check (Value.ofJson (.arr (l.map write))) = .ok l := by
  have hitems (i : Nat) : Checked.items check i (Value.ofItems (l.map write)) = .ok l := by
    induction l generalizing i with
    | nil =>
        rfl
    | cons a l ih =>
        rw [List.map_cons, Value.ofItems, Checked.items, h, ih]
        rfl
  exact hitems 0

theorem texts_written
    (ss : List String) :
    Document.list Document.text (Value.ofJson (.ofTexts ss)) = .ok ss :=
  list_written (fun _ => rfl) ss

/-! ### Reading records -/

theorem textEntries_ofFields
    (fields : List (String × Json)) :
    textEntries (Value.ofFields fields) = fields.map fun p => (p.1, Value.ofJson p.2) := by
  induction fields with
  | nil =>
      rfl
  | cons p fields ih =>
      exact congrArg _ ih

theorem record_written
    {α : Type} {check : Entries Value → Checked α} {fields : List (String × Json)} :
    Document.record check (Value.ofJson (.obj fields)) =
      check (fields.map fun p => (p.1, Value.ofJson p.2)) := by
  rw [← textEntries_ofFields]
  rfl

theorem condition_written
    (c : Condition) :
    Document.record Condition.ofEntries (Value.ofJson c.toJson) = .ok c := by
  have hoperator : Document.word Operator.ofName? (Value.ofJson (.str c.operator.name)) =
      .ok c.operator := by
    cases c.operator <;> rfl
  rw [Condition.toJson, record_written]
  simp only [List.map_cons, List.map_nil, Condition.ofEntries, Entries.required,
    Entries.withDefault, List.lookup_cons, String.reduceBEq, hoperator, scalar_written,
    optional_text_written, optional_severity_written]
  rfl

theorem escalation_written
    (e? : Option Escalation) :
    Document.optional (Document.record Escalation.ofEntries)
      (Value.ofJson ((e?.map Escalation.toJson).getD .null)) = .ok e? := by
  cases e? with
  | none =>
      rfl
  | some e =>
      have hrecord : Document.record Escalation.ofEntries (Value.ofJson e.toJson) = .ok e := by
        rw [Escalation.toJson, record_written]
        simp only [List.map_cons, List.map_nil, Escalation.ofEntries, Entries.withDefault,
          List.lookup_cons, String.reduceBEq, nat_written, texts_written, optional_text_written]
        rfl
      exact congrArg (Checked.map some) hrecord

/-- A rule that has a condition if it is enabled is read from its document. -/
theorem ofEntries_written
    {r : Rule}
    (h : r.IsProper) :
    Document.record ofEntries (Value.ofJson r.toJson) = .ok r := by
  have htarget : Document.word Target.ofName? (Value.ofJson (.str r.target.name)) =
      .ok r.target := by
    cases r.target <;> rfl
  have hlogic : Document.word Logic.ofText? (Value.ofJson (.str r.logic.name)) = .ok r.logic := by
    cases r.logic <;> rfl
  have hseverity : Document.word Severity.ofName? (Value.ofJson (.str r.severity.name)) =
      .ok r.severity := by
    cases r.severity <;> rfl
  have hconditions := list_written condition_written r.conditions
  have hnonempty : ¬ (r.enabled && r.conditions.isEmpty) = true := by
    rw [Bool.and_eq_true, List.isEmpty_iff]
    exact fun hboth => h hboth.1 hboth.2
  rw [toJson, record_written, ofEntries]
  simp only [List.map_cons, List.map_nil, fieldsOfEntries, Entries.required,
    Entries.withDefault, List.lookup_cons, String.reduceBEq, htarget, hlogic, hseverity,
    hconditions, nat_written, texts_written, optional_text_written, optional_int_written,
    escalation_written]
  exact if_neg hnonempty

end Rule
end TelemetryAlerts
