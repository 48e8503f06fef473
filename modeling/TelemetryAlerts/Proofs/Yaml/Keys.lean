import TelemetryAlerts.Proofs.Outcome
import TelemetryAlerts.Yaml.Value
import Mathlib.Data.List.Nodup

/-!
# The keys of a markup mapping

An entry of a mapping is found by its key. Where a key comes again in a text, the later value
takes the place of the earlier one, so that a mapping which was read has each key once.

**Results.**
* `lookup_textEntries`: in a mapping that has each text key once, every entry under a text is
  found.
* `wellKeyed_read`: all mappings in the value of a text are of this kind.
-/

namespace TelemetryAlerts
namespace Yaml
namespace Value

variable {k v : Value} {s : String} {entries : List (Value × Value)}

/-! ### Text keys -/

/-- The keys of a mapping that are texts. -/
def textKeys (entries : List (Value × Value)) : List String :=
  (textEntries entries).map (·.1)

theorem mem_textEntries :
    (s, v) ∈ textEntries entries ↔ (str s, v) ∈ entries := by
  rw [textEntries, List.mem_filterMap]
  constructor
  · rintro ⟨⟨k, w⟩, hmem, hentry⟩
    cases k <;> cases hentry
    exact hmem
  · intro hmem
    exact ⟨_, hmem, rfl⟩

theorem textKeys_cons
    (k v : Value) (entries : List (Value × Value)) :
    textKeys ((k, v) :: entries) =
      match k with
      | .str s => s :: textKeys entries
      | _ => textKeys entries := by
  cases k <;> rfl

theorem mem_textKeys_cons :
    s ∈ textKeys ((k, v) :: entries) ↔ k = str s ∨ s ∈ textKeys entries := by
  rw [textKeys_cons]
  cases k <;> simp [eq_comm]

theorem mem_of_lookup_textEntries
    (h : (textEntries entries).lookup s = some v) :
    (str s, v) ∈ entries := by
  obtain ⟨before, after, hentries, -⟩ := List.lookup_eq_some_iff.mp h
  rw [← mem_textEntries, hentries]
  exact List.mem_append_right before List.mem_cons_self

/-- If no text is a key twice, an entry under a text is the one that is found. -/
theorem lookup_textEntries
    (hkeys : (textKeys entries).Nodup)
    (h : (str s, v) ∈ entries) :
    (textEntries entries).lookup s = some v := by
  obtain ⟨before, after, hentries⟩ := List.append_of_mem (mem_textEntries.mpr h)
  refine List.lookup_eq_some_iff.mpr ⟨before, after, hentries, fun p hp => bne_iff_ne.mpr ?_⟩
  intro hsame
  rw [textKeys, hentries, List.map_append, List.map_cons] at hkeys
  exact (List.nodup_middle.mp hkeys).notMem
    (List.mem_append_left _ (List.mem_map.mpr ⟨p, hp, hsame.symm⟩))

/-- No entry under a text is found if there is none. -/
theorem lookup_textEntries_eq_none
    (h : ∀ v, (str s, v) ∉ entries) :
    (textEntries entries).lookup s = none := by
  cases hlookup : (textEntries entries).lookup s with
  | none =>
      rfl
  | some v =>
      exact absurd (mem_of_lookup_textEntries hlookup) (h v)

/-! ### Assignments -/

theorem mem_textKeys_assign
    (h : s ∈ textKeys (assign k v entries)) :
    k = str s ∨ s ∈ textKeys entries := by
  induction entries with
  | nil =>
      rwa [assign, mem_textKeys_cons] at h
  | cons p rest ih =>
      obtain ⟨l, w⟩ := p
      rw [assign] at h
      rw [mem_textKeys_cons]
      split_ifs at h with hsame
      · exact Or.inr (mem_textKeys_cons.mp h)
      · rcases mem_textKeys_cons.mp h with heq | h
        · exact Or.inr (Or.inl heq)
        · exact (ih h).imp_right Or.inr

/-- A key that is there already takes an assigned value; no key comes in twice. -/
theorem nodup_textKeys_assign
    (h : (textKeys entries).Nodup)
    (k v : Value) :
    (textKeys (assign k v entries)).Nodup := by
  induction entries with
  | nil =>
      rw [assign, textKeys_cons]
      cases k <;> simp [textKeys, textEntries]
  | cons p rest ih =>
      obtain ⟨l, w⟩ := p
      rw [assign]
      rw [textKeys_cons] at h
      split_ifs with hsame
      · rwa [textKeys_cons]
      · rw [textKeys_cons]
        cases l with
        | str t =>
            rw [List.nodup_cons] at h ⊢
            refine ⟨fun hmem => ?_, ih h.2⟩
            rcases mem_textKeys_assign hmem with rfl | hmem
            · exact hsame (beq_self_eq_true t)
            · exact h.1 hmem
        | null | bool | int | float | date | moment | bytes | list | map | strange =>
            exact ih h

theorem mem_assign
    {p : Value × Value}
    (h : p ∈ assign k v entries) :
    p.2 = v ∨ ∃ q ∈ entries, q.2 = p.2 := by
  induction entries with
  | nil =>
      rw [List.mem_singleton.mp h]
      exact Or.inl rfl
  | cons q rest ih =>
      obtain ⟨l, w⟩ := q
      rw [assign] at h
      split_ifs at h with hsame
      · rcases List.mem_cons.mp h with rfl | h
        · exact Or.inl rfl
        · exact Or.inr ⟨p, List.mem_cons_of_mem _ h, rfl⟩
      · rcases List.mem_cons.mp h with rfl | h
        · exact Or.inr ⟨_, List.mem_cons_self, rfl⟩
        · exact (ih h).imp_right fun ⟨q, hq, heq⟩ => ⟨q, List.mem_cons_of_mem _ hq, heq⟩

/-! ### Values that are read -/

/-- Whether no mapping inside a value has a text as a key twice. -/
inductive WellKeyed : Value → Prop where
  | ofKey {v : Value} (h : v.isKey = true) : WellKeyed v
  | strange : WellKeyed .strange
  | list {items : List Value} (h : ∀ v ∈ items, WellKeyed v) : WellKeyed (.list items)
  | map {entries : List (Value × Value)}
      (hkeys : (textKeys entries).Nodup)
      (h : ∀ p ∈ entries, WellKeyed p.2) :
      WellKeyed (.map entries)

theorem WellKeyed.nodup_textKeys
    (h : WellKeyed (.map entries)) :
    (textKeys entries).Nodup := by
  cases h with
  | ofKey hkey =>
      cases hkey
  | map hkeys _ =>
      exact hkeys

theorem WellKeyed.entry
    (h : WellKeyed (.map entries))
    {p : Value × Value}
    (hp : p ∈ entries) :
    p.2.WellKeyed := by
  cases h with
  | ofKey hkey =>
      cases hkey
  | map _ hvalues =>
      exact hvalues p hp

theorem WellKeyed.pair
    (hk : k.WellKeyed)
    (hv : v.WellKeyed) :
    WellKeyed (.list [k, v]) :=
  .list (List.forall_mem_cons.mpr ⟨hk, List.forall_mem_singleton.mpr hv⟩)

/-- Entries that are assigned one after the other make a mapping with each text key once. -/
theorem wellKeyed_foldl_assign
    {pairs : List (Value × Value)}
    (hpairs : ∀ p ∈ pairs, p.2.WellKeyed)
    (h : WellKeyed (.map entries)) :
    WellKeyed (.map (pairs.foldl (fun es p => assign p.1 p.2 es) entries)) := by
  induction pairs generalizing entries with
  | nil =>
      exact h
  | cons p pairs ih =>
      rw [List.foldl_cons]
      refine ih (fun q hq => hpairs q (List.mem_cons_of_mem p hq)) (.map ?_ fun q hq => ?_)
      · exact nodup_textKeys_assign h.nodup_textKeys p.1 p.2
      · rcases mem_assign hq with hvalue | ⟨q', hq', hvalue⟩
        · rw [hvalue]
          exact hpairs p List.mem_cons_self
        · rw [← hvalue]
          exact h.entry hq'

/-- Whether a value that is made, if one is, has no parts. -/
def MakesKey (o : Outcome Value) : Prop :=
  ∀ v, o = .ok v → v.isKey = true

theorem makesKey_ok
    (h : v.isKey = true) :
    MakesKey (.ok v) := by
  intro w hw
  cases hw
  exact h

theorem makesKey_error
    (e : Failure) :
    MakesKey (.error e) := by
  intro w hw
  cases hw

theorem makesKey_bind
    {α : Type} {x : Outcome α} {f : α → Outcome Value}
    (h : ∀ a, MakesKey (f a)) :
    MakesKey (x >>= f) := by
  intro w hw
  obtain ⟨a, -, hw⟩ := bind_eq_ok.mp hw
  exact h a w hw

theorem makesKey_intOfText
    (s : String) :
    MakesKey (intOfText s) := by
  unfold intOfText
  extract_lets cs body rest
  have hrest (n : Nat) : MakesKey (rest n) := makesKey_ok rfl
  clear_value body
  split
  · exact makesKey_bind hrest
  · exact makesKey_bind hrest
  · exact makesKey_bind hrest
  · exact makesKey_bind hrest
  · split_ifs
    · exact makesKey_bind fun parts => makesKey_bind hrest
    · exact makesKey_bind hrest
    · exact makesKey_bind hrest

theorem makesKey_floatOfText
    (s : String) :
    MakesKey (floatOfText s) := by
  unfold floatOfText
  extract_lets cs body negative rest
  have hrest (x : Float) : MakesKey (rest x) := makesKey_ok rfl
  split_ifs
  · exact makesKey_bind hrest
  · exact makesKey_bind hrest
  · exact makesKey_bind fun parts => makesKey_bind hrest
  · exact makesKey_bind hrest

theorem makesKey_momentOfText
    (s : String) :
    MakesKey (momentOfText s) := by
  unfold momentOfText
  split
  · exact makesKey_error _
  · split
    · exact makesKey_bind fun t => makesKey_ok rfl
    · split
      · exact makesKey_bind fun offset? => makesKey_bind fun t => makesKey_ok rfl
      · exact makesKey_bind fun offset? => makesKey_bind fun t => makesKey_ok rfl

theorem makesKey_boolOfText
    (s : String) :
    MakesKey (boolOfText s) := by
  unfold boolOfText
  simp only
  split_ifs
  · exact makesKey_ok rfl
  · exact makesKey_ok rfl
  · exact makesKey_error _

/-- A text without parts makes a value without parts. -/
theorem makesKey_ofText
    (kind : Kind) (s : String) :
    MakesKey (ofText kind s) := by
  cases kind with
  | null | text =>
      exact makesKey_ok rfl
  | bool =>
      exact makesKey_boolOfText s
  | int =>
      exact makesKey_intOfText s
  | float =>
      exact makesKey_floatOfText s
  | moment =>
      exact makesKey_momentOfText s
  | binary =>
      simp only [ofText]
      cases Text.bytes? s with
      | none =>
          exact makesKey_error _
      | some bs =>
          exact makesKey_ok rfl
  | list | map | merge | value | orderedMap | pairs | set | unknown =>
      exact makesKey_error _

/-- Every item of a list of values that are read is one. -/
theorem wellKeyed_list_of_mapM
    {α : Type} {f : α → Outcome Value} {items : List α}
    (hf : ∀ a v, f a = .ok v → v.WellKeyed)
    (h : list <$> items.mapM f = .ok v) :
    v.WellKeyed := by
  obtain ⟨vs, hvs, rfl⟩ := map_eq_ok.mp h
  refine .list fun w hw => ?_
  obtain ⟨a, -, ha⟩ := (mem_of_mapM hvs).mp hw
  exact hf a w ha

/-- So is every value of a list of entries whose keys have no parts. -/
theorem wellKeyed_values_of_mapM
    {α : Type} {f g : α → Outcome Value} {items : List α} {pairs : List (Value × Value)}
    (hg : ∀ a v, g a = .ok v → v.WellKeyed)
    (h : items.mapM (fun a => do
      let k ← f a
      if k.isKey then pure (k, ← g a) else noValue) = .ok pairs) :
    ∀ p ∈ pairs, p.2.WellKeyed := by
  intro p hp
  obtain ⟨a, -, ha⟩ := (mem_of_mapM h).mp hp
  obtain ⟨k, -, ha⟩ := bind_eq_ok.mp ha
  split_ifs at ha
  · obtain ⟨w, hw, ha⟩ := bind_eq_ok.mp ha
    cases ha
    exact hg a w hw
  · cases ha

theorem wellKeyed_ofNode
    {fuel : Nat} {n : Node}
    (h : ofNode fuel n = .ok v) :
    v.WellKeyed := by
  induction fuel generalizing n v with
  | zero =>
      cases h
  | succ fuel ih =>
      cases n with
      | inside =>
          cases h
      | scalar kind text =>
          rw [ofNode] at h
          exact .ofKey (makesKey_ofText kind text v h)
      | list kind items =>
          cases kind with
          | list =>
              rw [ofNode] at h
              exact wellKeyed_list_of_mapM (fun _ _ hitem => ih hitem) h
          | orderedMap | pairs =>
              rw [ofNode] at h
              obtain ⟨entries, -, h⟩ := bind_eq_ok.mp h
              refine wellKeyed_list_of_mapM (fun p w hw => ?_) h
              obtain ⟨k, hk, hw⟩ := bind_eq_ok.mp hw
              obtain ⟨u, hu, hw⟩ := bind_eq_ok.mp hw
              cases hw
              exact .pair (ih hk) (ih hu)
          | _ =>
              cases h
      | map kind entries =>
          cases kind with
          | map =>
              rw [ofNode] at h
              obtain ⟨es, hes, rfl⟩ := map_eq_ok.mp h
              obtain ⟨merged, -, hes⟩ := bind_eq_ok.mp hes
              obtain ⟨pairs, hpairs, hes⟩ := bind_eq_ok.mp hes
              cases hes
              exact wellKeyed_foldl_assign (wellKeyed_values_of_mapM (fun _ _ hv => ih hv) hpairs)
                (.map List.nodup_nil (by simp))
          | set =>
              rw [ofNode] at h
              obtain ⟨es, -, h⟩ := bind_eq_ok.mp h
              cases h
              exact .strange
          | text =>
              rw [ofNode] at h
              split at h
              · cases h
                exact .ofKey rfl
              · cases h
          | _ =>
              cases h

/-- All mappings in the value of a text have each text key once. -/
theorem wellKeyed_read
    {text : String}
    (h : read text = .ok v) :
    v.WellKeyed := by
  obtain ⟨node?, -, h⟩ := bind_eq_ok.mp h
  cases node? with
  | none =>
      cases h
      exact .ofKey rfl
  | some n =>
      exact wellKeyed_ofNode h

end Value
end Yaml
end TelemetryAlerts
