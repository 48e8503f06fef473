import TelemetryAlerts.Failure
import Mathlib.Data.List.Forall2
import Mathlib.Tactic.SplitIfs

/-!
# Outcomes one after the other

An operation that can fail goes on only with a result. Of several such operations all have to
succeed for their results to be had.

**Results.**
* `bind_eq_ok`, `map_eq_ok`: when an operation and what goes on with its result succeed.
* `mem_of_mapM`, `exists_of_mapM`: what the results of several operations are.
* `mapM_of_forall₂`: operations of which each is known to succeed.
* `exists_of_mem_left`, `exists_of_mem_right`: the partner of a member of one of two lists that
  agree item by item.
-/

namespace TelemetryAlerts

theorem ok_bind
    {ε α β : Type} (a : α) (f : α → Except ε β) :
    (Except.ok a >>= f) = f a :=
  rfl

theorem bind_eq_ok
    {ε α β : Type} {x : Except ε α} {f : α → Except ε β} {b : β} :
    x >>= f = .ok b ↔ ∃ a, x = .ok a ∧ f a = .ok b := by
  cases x <;> simp [bind, Except.bind]

theorem bind_eq_error
    {ε α β : Type} {x : Except ε α} {f : α → Except ε β} {e : ε} :
    x >>= f = .error e ↔ x = .error e ∨ ∃ a, x = .ok a ∧ f a = .error e := by
  cases x <;> simp [bind, Except.bind]

theorem map_eq_ok
    {ε α β : Type} {x : Except ε α} {f : α → β} {b : β} :
    f <$> x = .ok b ↔ ∃ a, x = .ok a ∧ f a = b := by
  cases x <;> simp [Functor.map, Except.map]

theorem mem_of_mapM
    {α β : Type} {f : α → Outcome β} {l : List α} {l' : List β} {b : β}
    (h : l.mapM f = .ok l') :
    b ∈ l' ↔ ∃ a ∈ l, f a = .ok b := by
  induction l generalizing l' with
  | nil =>
      cases h
      simp
  | cons a l ih =>
      rw [List.mapM_cons] at h
      obtain ⟨c, hc, h⟩ := bind_eq_ok.mp h
      obtain ⟨rest, hrest, h⟩ := bind_eq_ok.mp h
      cases h
      have hfirst : f a = .ok b ↔ b = c := by
        rw [hc]
        exact ⟨fun h => (Except.ok.inj h).symm, fun h => by rw [h]⟩
      simp [ih hrest, hfirst]

theorem exists_of_mapM
    {α β : Type} {f : α → Outcome β} {l : List α} {l' : List β} {a : α}
    (h : l.mapM f = .ok l')
    (ha : a ∈ l) :
    ∃ b ∈ l', f a = .ok b := by
  induction l generalizing l' with
  | nil =>
      cases ha
  | cons c l ih =>
      rw [List.mapM_cons] at h
      obtain ⟨b, hb, h⟩ := bind_eq_ok.mp h
      obtain ⟨rest, hrest, h⟩ := bind_eq_ok.mp h
      cases h
      rcases List.mem_cons.mp ha with rfl | ha
      · exact ⟨b, by simp, hb⟩
      · obtain ⟨b', hb', hread⟩ := ih hrest ha
        exact ⟨b', by simp [hb'], hread⟩

section

variable {α β : Type} {R : α → β → Prop} {l : List α} {m : List β}

theorem exists_of_mem_left
    {a : α}
    (h : List.Forall₂ R l m)
    (ha : a ∈ l) :
    ∃ b ∈ m, R a b := by
  induction h with
  | nil =>
      cases ha
  | @cons x y l m hxy _ ih =>
      rcases List.mem_cons.mp ha with rfl | ha
      · exact ⟨y, by simp, hxy⟩
      · obtain ⟨b, hb, hab⟩ := ih ha
        exact ⟨b, List.mem_cons_of_mem _ hb, hab⟩

theorem exists_of_mem_right
    {b : β}
    (h : List.Forall₂ R l m)
    (hb : b ∈ m) :
    ∃ a ∈ l, R a b :=
  exists_of_mem_left h.flip hb

end

theorem mapM_of_forall₂
    {α β γ : Type} {f : α → Outcome γ} {g : β → γ} {l : List α} {l' : List β}
    (h : List.Forall₂ (fun a b => f a = .ok (g b)) l l') :
    l.mapM f = .ok (l'.map g) := by
  induction h with
  | nil =>
      rfl
  | cons hfirst _ ih =>
      rw [List.mapM_cons, hfirst, ih]
      rfl

end TelemetryAlerts
