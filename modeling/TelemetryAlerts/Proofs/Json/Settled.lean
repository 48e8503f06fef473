import TelemetryAlerts.Proofs.Json.RoundTrip

/-!
# Settled values

A value is settled by storing it and reading it back: a float that is infinite or undefined becomes
`null`, at any depth, and nothing else changes. Settled values are those without such floats.

**Results.**
* `readBack_eq_settled`: a value that names no field twice is settled by storing it.
* `allFinite_settled`: a settled value has no infinite and no undefined float.
* `settledFields_eq_self_iff`: the settled fields are those without infinite and undefined floats.
* `readBack_readBack`: storing and reading a second time changes nothing, whatever names there are.
* `isLegible_readBack`: what can be read can be read again.
-/

namespace TelemetryAlerts
namespace Json

mutual

/-- A value that names no field twice is settled by storing it. -/
theorem readBack_eq_settled :
    ∀ (v : Json), namesDistinct v = true → readBack v = settled v
  | .null, _ => rfl
  | .bool _, _ => rfl
  | .int _, _ => rfl
  | .float _, _ => by
      simp only [readBack, settled]
  | .str _, _ => rfl
  | .arr items, h => by
      simp only [readBack, settled, readBackItems_eq_settledItems items h]
  | .obj fields, h => by
      simp only [namesDistinct, Bool.and_eq_true, decide_eq_true_eq] at h
      have hnames : ((readBackFields fields).map Prod.fst).Nodup := by
        rw [readBackFields_names]
        exact h.1
      rw [readBack, ofAssignments_of_nodup hnames, readBackFields_eq_settledFields fields h.2,
        settled]

/-- The same of the items of a list. -/
theorem readBackItems_eq_settledItems :
    ∀ (items : List Json), namesDistinctItems items = true →
      readBackItems items = settledItems items
  | [], _ => rfl
  | v :: rest, h => by
      simp only [namesDistinctItems, Bool.and_eq_true] at h
      simp only [readBackItems, settledItems, readBack_eq_settled v h.1,
        readBackItems_eq_settledItems rest h.2]

/-- The same of the fields of an object. -/
theorem readBackFields_eq_settledFields :
    ∀ (fields : List (String × Json)), namesDistinctFields fields = true →
      readBackFields fields = settledFields fields
  | [], _ => rfl
  | (k, v) :: rest, h => by
      simp only [namesDistinctFields, Bool.and_eq_true] at h
      simp only [readBackFields, settledFields, readBack_eq_settled v h.1,
        readBackFields_eq_settledFields rest h.2]

end

mutual

/-- A value without infinite and undefined floats is settled. -/
theorem settled_of_allFinite :
    ∀ (v : Json), allFinite v = true → settled v = v
  | .null, _ => rfl
  | .bool _, _ => rfl
  | .int _, _ => rfl
  | .float x, h => by
      simp only [allFinite] at h
      simp only [settled, h, if_true]
  | .str _, _ => rfl
  | .arr items, h => by
      simp only [settled, settledItems_of_allFinite items h]
  | .obj fields, h => by
      simp only [settled, settledFields_of_allFinite fields h]

/-- The same of the items of a list. -/
theorem settledItems_of_allFinite :
    ∀ (items : List Json), allFiniteItems items = true → settledItems items = items
  | [], _ => rfl
  | v :: rest, h => by
      simp only [allFiniteItems, Bool.and_eq_true] at h
      simp only [settledItems, settled_of_allFinite v h.1, settledItems_of_allFinite rest h.2]

/-- The same of the fields of an object. -/
theorem settledFields_of_allFinite :
    ∀ (fields : List (String × Json)), allFiniteFields fields = true →
      settledFields fields = fields
  | [], _ => rfl
  | (k, v) :: rest, h => by
      simp only [allFiniteFields, Bool.and_eq_true] at h
      simp only [settledFields, settled_of_allFinite v h.1, settledFields_of_allFinite rest h.2]

end

mutual

/-- A settled value has no infinite and no undefined float. -/
theorem allFinite_settled :
    ∀ (v : Json), allFinite (settled v) = true
  | .null => rfl
  | .bool _ => rfl
  | .int _ => rfl
  | .float x => by
      rw [settled]
      split_ifs with hx
      · exact hx
      · rfl
  | .str _ => rfl
  | .arr items => by
      rw [settled, allFinite, allFiniteItems_settledItems items]
  | .obj fields => by
      rw [settled, allFinite, allFiniteFields_settledFields fields]

/-- The same of the items of a list. -/
theorem allFiniteItems_settledItems :
    ∀ (items : List Json), allFiniteItems (settledItems items) = true
  | [] => rfl
  | v :: rest => by
      rw [settledItems, allFiniteItems, allFinite_settled v, allFiniteItems_settledItems rest]
      rfl

/-- The same of the fields of an object. -/
theorem allFiniteFields_settledFields :
    ∀ (fields : List (String × Json)), allFiniteFields (settledFields fields) = true
  | [] => rfl
  | (k, v) :: rest => by
      rw [settledFields, allFiniteFields, allFinite_settled v, allFiniteFields_settledFields rest]
      rfl

end

/-- The fields that are settled are those without infinite and undefined floats. -/
theorem settledFields_eq_self_iff
    {fields : List (String × Json)} :
    settledFields fields = fields ↔ allFiniteFields fields = true := by
  refine ⟨fun h => ?_, settledFields_of_allFinite fields⟩
  rw [← h]
  exact allFiniteFields_settledFields fields

/-! ### Reading back what was read back -/

theorem mem_insertField
    {β : Type} {k : String} {v : β} {fields : List (String × β)} {p : String × β}
    (h : p ∈ insertField k v fields) :
    p = (k, v) ∨ p ∈ fields := by
  induction fields with
  | nil =>
      exact Or.inl (List.mem_singleton.mp h)
  | cons q rest ih =>
      rw [insertField] at h
      split_ifs at h with hk
      · rcases List.mem_cons.mp h with rfl | h
        · exact Or.inl (by rw [hk])
        · exact Or.inr (List.mem_cons_of_mem _ h)
      · rcases List.mem_cons.mp h with rfl | h
        · exact Or.inr List.mem_cons_self
        · exact (ih h).imp_right (List.mem_cons_of_mem _)

theorem nodup_insertField
    {β : Type} (k : String) (v : β)
    {fields : List (String × β)}
    (h : (fields.map Prod.fst).Nodup) :
    ((insertField k v fields).map Prod.fst).Nodup := by
  induction fields with
  | nil =>
      simp [insertField]
  | cons q rest ih =>
      rw [List.map_cons, List.nodup_cons] at h
      rw [insertField]
      split_ifs with hk
      · subst hk
        exact List.nodup_cons.mpr h
      · refine List.nodup_cons.mpr ⟨fun hmem => ?_, ih h.2⟩
        obtain ⟨p, hp, hpk⟩ := List.mem_map.mp hmem
        rcases mem_insertField hp with rfl | hp
        · exact hk hpk.symm
        · exact h.1 (hpk ▸ List.mem_map_of_mem hp)

/-- Assignments leave fields of different names, each of which was assigned. -/
theorem ofAssignments_spec
    {β : Type} (pairs : List (String × β)) :
    ((ofAssignments pairs).map Prod.fst).Nodup ∧ ∀ p ∈ ofAssignments pairs, p ∈ pairs := by
  induction pairs using List.reverseRecOn with
  | nil =>
      exact ⟨List.nodup_nil, fun _ hp => hp⟩
  | append_singleton pairs q ih =>
      have hlast : ofAssignments (pairs ++ [q]) = insertField q.1 q.2 (ofAssignments pairs) := by
        rw [ofAssignments, List.foldl_concat, ofAssignments]
      rw [hlast]
      refine ⟨nodup_insertField _ _ ih.1, fun p hp => ?_⟩
      rcases mem_insertField hp with rfl | hp
      · simp
      · exact List.mem_append_left _ (ih.2 p hp)

theorem readBackFields_of_forall
    {fields : List (String × Json)}
    (h : ∀ p ∈ fields, readBack p.2 = p.2) :
    readBackFields fields = fields := by
  induction fields with
  | nil =>
      rfl
  | cons p rest ih =>
      rw [readBackFields, h p List.mem_cons_self, ih fun q hq => h q (List.mem_cons_of_mem _ hq)]

/-- The fields that a sequence of assignments leaves are read back as they are, if every value
is. -/
theorem readBackFields_ofAssignments
    {pairs : List (String × Json)}
    (h : ∀ p ∈ pairs, readBack p.2 = p.2) :
    ofAssignments (readBackFields (ofAssignments pairs)) = ofAssignments pairs := by
  have hspec := ofAssignments_spec pairs
  rw [readBackFields_of_forall fun p hp => h p (hspec.2 p hp), ofAssignments_of_nodup hspec.1]

mutual

/-- A value as it was read back is read back as it is. -/
theorem readBack_readBack :
    ∀ (v : Json), readBack (readBack v) = readBack v
  | .null => rfl
  | .bool _ => rfl
  | .int _ => rfl
  | .float x => by
      by_cases hx : Number.isFinite x = true
      · simp [readBack, hx]
      · simp [readBack, hx]
  | .str _ => rfl
  | .arr items => by
      rw [readBack, readBack, readBackItems_readBackItems items]
  | .obj fields => by
      rw [readBack, readBack, readBackFields_ofAssignments (readBack_of_mem fields)]

/-- The same of the items of a list. -/
theorem readBackItems_readBackItems :
    ∀ (items : List Json), readBackItems (readBackItems items) = readBackItems items
  | [] => rfl
  | v :: rest => by
      rw [readBackItems, readBackItems, readBack_readBack v, readBackItems_readBackItems rest]

/-- The same of the fields of an object. -/
theorem readBack_of_mem :
    ∀ (fields : List (String × Json)), ∀ p ∈ readBackFields fields, readBack p.2 = p.2
  | [], _, hp => by
      cases hp
  | (k, v) :: rest, p, hp => by
      rw [readBackFields] at hp
      rcases List.mem_cons.mp hp with rfl | hp
      · exact readBack_readBack v
      · exact readBack_of_mem rest p hp

end

/-! ### Long numbers -/

theorem areLegibleFields_iff
    {fields : List (String × Json)} :
    areLegibleFields fields = true ↔ ∀ p ∈ fields, isLegible p.2 = true := by
  induction fields with
  | nil =>
      simp [areLegibleFields]
  | cons p rest ih =>
      rw [areLegibleFields, Bool.and_eq_true, ih, List.forall_mem_cons]

theorem areLegibleFields_ofAssignments
    {pairs : List (String × Json)}
    (h : areLegibleFields pairs = true) :
    areLegibleFields (ofAssignments pairs) = true :=
  areLegibleFields_iff.mpr fun p hp =>
    areLegibleFields_iff.mp h p ((ofAssignments_spec pairs).2 p hp)

mutual

/-- No number gets longer as it is read back. -/
theorem isLegible_readBack :
    ∀ (v : Json), isLegible v = true → isLegible (readBack v) = true
  | .null, h => h
  | .bool _, h => h
  | .int _, h => h
  | .float x, _ => by
      rw [readBack]
      split_ifs <;> rfl
  | .str _, h => h
  | .arr items, h => areLegibleItems_readBackItems items h
  | .obj fields, h => areLegibleFields_ofAssignments (areLegibleFields_readBackFields fields h)

/-- The same of the items of a list. -/
theorem areLegibleItems_readBackItems :
    ∀ (items : List Json), areLegibleItems items = true →
      areLegibleItems (readBackItems items) = true
  | [], _ => rfl
  | v :: rest, h => by
      rw [areLegibleItems, Bool.and_eq_true] at h
      rw [readBackItems, areLegibleItems, isLegible_readBack v h.1,
        areLegibleItems_readBackItems rest h.2]
      rfl

/-- The same of the fields of an object. -/
theorem areLegibleFields_readBackFields :
    ∀ (fields : List (String × Json)), areLegibleFields fields = true →
      areLegibleFields (readBackFields fields) = true
  | [], _ => rfl
  | (k, v) :: rest, h => by
      rw [areLegibleFields, Bool.and_eq_true] at h
      rw [readBackFields, areLegibleFields, isLegible_readBack v h.1,
        areLegibleFields_readBackFields rest h.2]
      rfl

end

end Json
end TelemetryAlerts
