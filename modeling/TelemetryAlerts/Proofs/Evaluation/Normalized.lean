import TelemetryAlerts.Document.Text
import TelemetryAlerts.Evaluation.Condition
import TelemetryAlerts.Proofs.Json.Settled
import TelemetryAlerts.Proofs.Outcome

/-!
# Decisions about scalar readings

Before a rule is decided, the lists and objects among the readings are dropped. A reading that is
dropped and one that stands for no number are the same to a condition, so that every rule is
decided as it would be on the readings as they came. This takes fields of different names, since
behind a list that is dropped another reading of the same name would come up; an object that is
read from a text has them.

**Results.**
* `nodup_of_ofBytes`: the fields of an object that is read have different names.
* `Snapshot.number?_normalize`: what stands in a field stays the same number.
* `normalize_decides`: no decision depends on what is dropped, which is the lists and objects.
-/

namespace TelemetryAlerts

/-! ### Objects that are read -/

namespace Json

variable {cs rest : List Char} {fields : List (String × Json)}

/-- A number is no object. -/
theorem readNumber_ne_obj :
    readNumber cs ≠ .ok (.obj fields, rest) := by
  intro h
  unfold readNumber at h
  simp only at h
  split at h
  · cases h
  · split_ifs at h <;> simp at h

theorem nodup_of_readValue
    {fuel : Nat}
    (h : readValue fuel cs = .ok (.obj fields, rest)) :
    (fields.map Prod.fst).Nodup := by
  cases fuel with
  | zero =>
      rw [readValue] at h
      cases h
  | succ fuel =>
      unfold readValue at h
      split at h
      · obtain ⟨_, _, hvalue⟩ := map_eq_ok.mp h
        cases hvalue
      · split at h
        · cases h
          exact List.nodup_nil
        · obtain ⟨r, _, hvalue⟩ := map_eq_ok.mp h
          cases hvalue
          exact (ofAssignments_spec r.1).1
      · split at h
        · cases h
        · obtain ⟨_, _, hvalue⟩ := map_eq_ok.mp h
          cases hvalue
      · -- a word or a number
        repeat' split at h
        all_goals first
          | cases h
          | exact absurd h readNumber_ne_obj

theorem nodup_of_read
    {text : String}
    (h : read text = .ok (.obj fields)) :
    (fields.map Prod.fst).Nodup := by
  unfold read at h
  simp only at h
  split_ifs at h
  split at h
  · cases h
  · next v rest hvalue =>
      split at h
      · cases h
        exact nodup_of_readValue hvalue
      · cases h

end Json

/-- The fields of an object that is read have different names. -/
theorem Document.nodup_of_ofBytes
    {bytes : List UInt8} {fields : List (String × Json)}
    (h : ofBytes bytes = .ok (.obj fields)) :
    (fields.map Prod.fst).Nodup := by
  unfold ofBytes at h
  split at h
  · next text _ =>
      unfold ofText at h
      cases hread : Json.read text with
      | error e =>
          rw [hread] at h
          cases e <;> cases h
      | ok v =>
          rw [hread] at h
          cases h
          exact Json.nodup_of_read hread
  · cases h

/-! ### Scalars -/

/-- The values that stand for no number whatever they hold are the lists and objects. -/
theorem Json.isSome_scalar?
    (v : Json) :
    v.scalar?.isSome = v.isScalar := by
  cases v <;> rfl

theorem Json.number?_of_not_isScalar
    {v : Json}
    (h : v.isScalar = false) :
    v.number? = none := by
  rw [← isSome_scalar?, Option.isSome_eq_false_iff, Option.isNone_iff_eq_none] at h
  rw [number?, h]
  rfl

theorem Json.isScalar_iff
    (v : Json) :
    v.isScalar = true ↔ (∀ items, v ≠ .arr items) ∧ ∀ fields, v ≠ .obj fields := by
  cases v <;> simp [isScalar]

/-- Of fields with different names, one is found among those that are kept if it is kept. -/
theorem lookup_filter_of_nodup
    {β : Type} {fields : List (String × β)}
    (hnames : (fields.map Prod.fst).Nodup)
    (keep : β → Bool) (k : String) :
    (fields.filter fun p => keep p.2).lookup k = (fields.lookup k).filter keep := by
  induction fields with
  | nil =>
      rfl
  | cons p rest ih =>
      obtain ⟨l, v⟩ := p
      obtain ⟨hfresh, hnames⟩ := List.nodup_cons.mp hnames
      have hrest := ih hnames
      cases hk : k == l with
      | true =>
          obtain rfl : k = l := eq_of_beq hk
          have habsent : rest.lookup k = none := by
            refine List.lookup_eq_none_iff.mpr fun q hq => bne_iff_ne.mpr ?_
            rintro rfl
            exact hfresh (List.mem_map.mpr ⟨q, hq, rfl⟩)
          rw [habsent, Option.filter_none] at hrest
          cases hkeep : keep v <;> simp [Option.filter, hkeep, hrest]
      | false =>
          cases hkeep : keep v <;> simp [List.lookup_cons, hk, hkeep, hrest]

namespace Snapshot

variable {s : Snapshot}

/-- What stands in a field is the same number if lists and objects are dropped. -/
theorem number?_normalize
    (hnames : (s.map Prod.fst).Nodup)
    (field : String) :
    s.normalize.number? field = s.number? field := by
  rw [number?, number?, normalize, lookup_filter_of_nodup hnames]
  cases s.lookup field with
  | none =>
      rfl
  | some v =>
      cases hscalar : v.isScalar with
      | true =>
          simp [Option.filter, hscalar]
      | false =>
          simp [Option.filter, hscalar, Json.number?_of_not_isScalar hscalar]

theorem mem_normalize
    {p : String × Json} :
    p ∈ s.normalize ↔ p ∈ s ∧ (∀ items, p.2 ≠ .arr items) ∧ ∀ fields, p.2 ≠ .obj fields := by
  rw [normalize, List.mem_filter, Json.isScalar_iff]

theorem normalize_normalize
    (s : Snapshot) :
    s.normalize.normalize = s.normalize := by
  simp [normalize]

end Snapshot

/-! ### Decisions -/

/-- All that a condition looks at among the readings is the number in its field. -/
theorem Condition.holds_of_number?_eq
    {c : Condition} {s s' : Snapshot}
    (h : s.number? c.field = s'.number? c.field) :
    c.holds s = c.holds s' := by
  rw [holds, holds, h]

namespace Rule

variable {s s' : Snapshot}

/-- All that a rule looks at are the conditions that hold. -/
theorem decides_congr
    (h : ∀ c : Condition, c.holds s = c.holds s')
    (r : Rule) :
    r.fires s = r.fires s' ∧ r.matched s = r.matched s' ∧ r.severityFor s = r.severityFor s' := by
  have hmatched : r.matched s = r.matched s' := by
    simp only [matched, h]
  refine ⟨?_, hmatched, ?_⟩
  · simp only [fires, h]
  · simp only [severityFor, hmatched]

end Rule

/-- The fields of an object that is read have different names. On fields of different names every
rule is decided as it is without the lists and objects among them: it fires or not, by the same
conditions and with the same severity. Lists and objects are all that is dropped, and what is left
stays as it is and in its order. -/
theorem normalize_decides
    (s : Snapshot) :
    ((∃ bytes, Document.ofBytes bytes = .ok (.obj s)) → (s.map Prod.fst).Nodup) ∧
    ((s.map Prod.fst).Nodup → ∀ r : Rule,
      r.fires s.normalize = r.fires s ∧
      r.matched s.normalize = r.matched s ∧
      r.severityFor s.normalize = r.severityFor s) ∧
    s.normalize.normalize = s.normalize ∧
    s.normalize.Sublist s ∧
    ∀ p, p ∈ s.normalize ↔ p ∈ s ∧ (∀ items, p.2 ≠ .arr items) ∧ ∀ fields, p.2 ≠ .obj fields := by
  refine ⟨fun ⟨_, hread⟩ => Document.nodup_of_ofBytes hread, fun hnames => ?_,
    s.normalize_normalize, List.filter_sublist, fun _ => Snapshot.mem_normalize⟩
  exact Rule.decides_congr fun c =>
    Condition.holds_of_number?_eq (Snapshot.number?_normalize hnames c.field)

/-- The fields of the object in a text. -/
def fieldsIn (bytes : List UInt8) : Snapshot :=
  match Document.ofBytes bytes with
  | .ok (.obj fields) => fields
  | _ => []

theorem ofBytes_eq_fieldsIn
    {bytes : List UInt8}
    (h : fieldsIn bytes ≠ []) :
    Document.ofBytes bytes = .ok (.obj (fieldsIn bytes)) := by
  unfold fieldsIn at h ⊢
  split at h
  · assumption
  · exact absurd rfl h

/-- Readings of a field that is named twice, and of one that holds a list. -/
def pressBytes : List UInt8 :=
  "\x7b\"t\": [1], \"flow\": [95], \"t\": 3\x7d".toUTF8.toList

theorem normalize_decides_press :
    (fieldsIn pressBytes).map Prod.fst = ["t", "flow"] ∧
      (fieldsIn pressBytes).normalize.map Prod.fst = ["t"] ∧
      ∀ r : Rule, r.fires (fieldsIn pressBytes).normalize = r.fires (fieldsIn pressBytes) := by
  have hnames : (fieldsIn pressBytes).map Prod.fst = ["t", "flow"] := by decide +kernel
  have hne : fieldsIn pressBytes ≠ [] := fun h => by
    rw [h] at hnames
    cases hnames
  obtain ⟨hread, hdecides, -⟩ := normalize_decides (fieldsIn pressBytes)
  exact ⟨hnames, by decide +kernel, fun r =>
    (hdecides (hread ⟨pressBytes, ofBytes_eq_fieldsIn hne⟩) r).1⟩

end TelemetryAlerts
