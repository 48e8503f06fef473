import TelemetryAlerts.Catalog.Rules
import TelemetryAlerts.Proofs.Rule.Document

/-!
# The entries of a rule file

The rules of a file are those of its entries that are valid, in their order. An entry is passed
over if it is a record but no valid rule. If a single entry is no record at all (a text, a
number, a list, nothing, or a mapping with a key that is no text), no rule of the file is had.

**Results.**
* `ofItems_of_records`, `ofItems_of_not_record`: what a list of entries comes to.
* `rules_listed_iff`: the rules of a file are had just if all entries are records; then they are
  the valid ones, and entries that are passed over make no difference.
-/

namespace TelemetryAlerts

open Yaml (Value)
open Yaml.Value

/-! ### Records -/

/-- Whether a value is a mapping with texts as keys. -/
def IsRecord (v : Value) : Prop :=
  ∃ entries, v = .map entries ∧ ∀ p ∈ entries, ∃ s, p.1 = .str s

theorem hasTextKeys_iff
    {entries : List (Value × Value)} :
    hasTextKeys entries = true ↔ ∀ p ∈ entries, ∃ s, p.1 = .str s := by
  rw [hasTextKeys, List.all_eq_true]
  refine forall₂_congr fun p _ => ?_
  obtain ⟨k, v⟩ := p
  cases k <;> simp

theorem namedFields_of_isRecord
    {entries : List (Value × Value)}
    (h : IsRecord (.map entries)) :
    (Value.map entries).namedFields = .ok (textEntries entries) := by
  obtain ⟨entries, hv, htexts⟩ := h
  cases hv
  rw [Value.namedFields, if_pos (hasTextKeys_iff.mpr htexts)]

theorem namedFields_of_not_isRecord
    {v : Value}
    (h : ¬ IsRecord v) :
    v.namedFields = .error (.kind .notIterable) := by
  unfold Value.namedFields
  split
  · rename_i entries
    rw [if_neg fun htexts => h ⟨entries, rfl, hasTextKeys_iff.mp htexts⟩]
  · rfl

namespace Rule

/-- The rule that an entry is, if it is a valid one. -/
def ofRecord? (v : Value) : Option Rule :=
  match Document.record ofEntries v with
  | .ok r => some r
  | .bad _ => none

theorem ofRecord?_eq_some
    {v : Value} {r : Rule} :
    ofRecord? v = some r ↔ Document.record ofEntries v = .ok r := by
  unfold ofRecord?
  cases Document.record ofEntries v <;> simp

theorem isProper_of_ofRecord?
    {v : Value} {r : Rule}
    (h : ofRecord? v = some r) :
    r.IsProper := by
  have hrecord := ofRecord?_eq_some.mp h
  unfold Document.record at hrecord
  split at hrecord
  · exact isProper_of_ofEntries hrecord
  · cases hrecord

/-! ### Lists of entries -/

variable {entries : List Value} {v : Value}

theorem ofItems_eq
    (v : Value) (entries : List Value) :
    ofItems (v :: entries) = (v.namedFields >>= fun fields =>
      match ofEntries fields with
      | .ok r => do pure (r :: (← ofItems entries))
      | .bad _ => ofItems entries) := by
  -- The equation that `rw` would use is found by reading a rule in full.
  delta ofItems
  rfl

theorem ofItems_cons
    (h : IsRecord v) :
    ofItems (v :: entries) = ((ofRecord? v).toList ++ ·) <$> ofItems entries := by
  have hmap := h
  obtain ⟨es, rfl, -⟩ := hmap
  have hentry : ofRecord? (.map es) =
      match ofEntries (textEntries es) with
      | .ok r => some r
      | .bad _ => none := rfl
  rw [ofItems_eq, namedFields_of_isRecord h, hentry, ok_bind]
  cases ofEntries (textEntries es) with
  | ok r =>
      cases ofItems entries <;> rfl
  | bad complaints =>
      cases ofItems entries <;> rfl

/-- Of records those that are valid rules are had, in their order. -/
theorem ofItems_of_records
    (h : ∀ v ∈ entries, IsRecord v) :
    ofItems entries = .ok (entries.filterMap ofRecord?) := by
  induction entries with
  | nil =>
      rfl
  | cons v entries ih =>
      rw [ofItems_cons (h v List.mem_cons_self), ih fun w hw => h w (List.mem_cons_of_mem v hw),
        List.filterMap_cons]
      cases ofRecord? v <;> rfl

/-- If an entry is no record, no rule is had. -/
theorem ofItems_of_not_record
    (h : ∃ v ∈ entries, ¬ IsRecord v) :
    ofItems entries = .error (.kind .notIterable) := by
  induction entries with
  | nil =>
      obtain ⟨v, hv, -⟩ := h
      cases hv
  | cons v entries ih =>
      by_cases hrecord : IsRecord v
      · obtain ⟨w, hw, hother⟩ := h
        rcases List.mem_cons.mp hw with rfl | hw
        · exact absurd hrecord hother
        · rw [ofItems_cons hrecord, ih ⟨w, hw, hother⟩]
          rfl
      · rw [ofItems_eq, namedFields_of_not_isRecord hrecord]
        rfl

/-- A record that is no valid rule makes no difference to the other entries. -/
theorem ofItems_passed_over
    (before after : List Value)
    (hrecord : IsRecord v)
    (hinvalid : ofRecord? v = none) :
    ofItems (before ++ v :: after) = ofItems (before ++ after) := by
  by_cases hall : ∀ w ∈ before ++ after, IsRecord w
  · have hwith : ∀ w ∈ before ++ v :: after, IsRecord w := by
      intro w hw
      rcases List.mem_cons.mp (List.perm_middle.mem_iff.mp hw) with rfl | hw
      · exact hrecord
      · exact hall w hw
    rw [ofItems_of_records hall, ofItems_of_records hwith, List.filterMap_append,
      List.filterMap_append, List.filterMap_cons, hinvalid]
  · push Not at hall
    obtain ⟨w, hw, hother⟩ := hall
    have hmem : w ∈ before ++ v :: after :=
      List.perm_middle.mem_iff.mpr (List.mem_cons_of_mem v hw)
    rw [ofItems_of_not_record ⟨w, hw, hother⟩, ofItems_of_not_record ⟨w, hmem, hother⟩]

theorem listedIn_of_lookup
    {top : List (Value × Value)}
    (h : (textEntries top).lookup "rules" = some (.list entries)) :
    listedIn (.map top) = ofItems entries := by
  have hget : (Value.map top).get "rules" = .ok (.list entries) := by
    rw [Value.get, h]
    rfl
  rw [listedIn, hget]
  cases entries <;> rfl

end Rule

open Rule

/-- The rules that a document lists are had just if every entry is a record. Then they are the
rules that the entries are, in their order, as far as they are valid; each has a condition if it
is enabled, and every rule of which this holds is valid as it is written down. An entry that is
passed over makes no difference to the others; one that is no record takes them all away. -/
theorem rules_listed_iff
    (top : List (Value × Value)) (entries : List Value)
    (hrules : (textEntries top).lookup "rules" = some (.list entries)) :
    (∀ rules, listedIn (.map top) = .ok rules ↔
      (∀ v ∈ entries, IsRecord v) ∧ rules = entries.filterMap ofRecord?) ∧
    ((∃ v ∈ entries, ¬ IsRecord v) → listedIn (.map top) = .error (.kind .notIterable)) ∧
    (∀ r ∈ entries.filterMap ofRecord?, r.IsProper) ∧
    (∀ r, r.IsProper → ofRecord? (Value.ofJson r.toJson) = some r) ∧
    ∀ before v after, entries = before ++ v :: after → IsRecord v → ofRecord? v = none →
      ∀ top', (textEntries top').lookup "rules" = some (.list (before ++ after)) →
        listedIn (.map top') = listedIn (.map top) := by
  rw [listedIn_of_lookup hrules]
  refine ⟨fun rules => ?_, ofItems_of_not_record, fun r hr => ?_, fun r hr => ?_, ?_⟩
  · by_cases hall : ∀ v ∈ entries, IsRecord v
    · rw [ofItems_of_records hall]
      exact ⟨fun heq => ⟨hall, (Except.ok.inj heq).symm⟩, fun ⟨_, heq⟩ => by rw [heq]⟩
    · refine iff_of_false (fun heq => ?_) fun hboth => hall hboth.1
      push Not at hall
      rw [ofItems_of_not_record hall] at heq
      cases heq
  · obtain ⟨v, -, hv⟩ := List.mem_filterMap.mp hr
    exact isProper_of_ofRecord? hv
  · exact ofRecord?_eq_some.mpr (ofEntries_written hr)
  · rintro before v after rfl hrecord hinvalid top' htop'
    rw [listedIn_of_lookup htop', ofItems_passed_over before after hrecord hinvalid]

/-- A rule for a kiln. -/
def kilnRule : Rule where
  id := "rule-1"
  tenant := "tenant-a"
  name := "Hot"
  description? := none
  tags := []
  target := .device
  devices := ["kiln-1"]
  deviceTypes := []
  conditions := [⟨"temperature", .greaterThan, .int 80, .null, none, none⟩]
  logic := .all
  severity := .warning
  windowSeconds? := none
  frequencySeconds := 60
  cooldownMinutes := 15
  channels := []
  recipients := []
  escalation? := none
  enabled := true

/-- The entries of a file: the rule, and a record with nothing but an id. -/
def kilnEntries : List Value :=
  [Value.ofJson kilnRule.toJson, .map [(.str "id", .str "rule-2")]]

theorem rules_listed_iff_kiln :
    (textEntries [(.str "rules", .list kilnEntries)]).lookup "rules" = some (.list kilnEntries) ∧
      listedIn (.map [(.str "rules", .list kilnEntries)]) = .ok [kilnRule] := by
  obtain ⟨hlisted, -, -, hwritten, -⟩ :=
    rules_listed_iff [(.str "rules", .list kilnEntries)] kilnEntries rfl
  refine ⟨rfl, (hlisted _).mpr ⟨fun v hv => ?_, ?_⟩⟩
  · rcases List.mem_cons.mp hv with rfl | hv
    · exact ⟨_, rfl, by simp [Value.ofFields]⟩
    · rw [List.mem_singleton.mp hv]
      exact ⟨_, rfl, by simp⟩
  · have hrule := hwritten kilnRule fun _ => by simp [kilnRule]
    have hother : ofRecord? (.map [(.str "id", .str "rule-2")]) = none := rfl
    rw [kilnEntries, List.filterMap_cons, hrule, List.filterMap_cons, hother]
    rfl

/-- An entry that is no record hides the rule before it. -/
theorem rules_hidden_kiln :
    ¬ ∀ top entries, (textEntries top).lookup "rules" = some (.list entries) →
      listedIn (.map top) = .ok (entries.filterMap ofRecord?) := by
  intro hall
  have hlisted := hall [(.str "rules", .list [Value.ofJson kilnRule.toJson, .str "rule-2"])] _ rfl
  rw [listedIn_of_lookup rfl, ofItems_of_not_record ⟨.str "rule-2", by simp, ?_⟩] at hlisted
  · cases hlisted
  · rintro ⟨entries, hmap, -⟩
    cases hmap

end TelemetryAlerts
