import TelemetryAlerts.Proofs.Program.Behind
import Mathlib.Data.Finset.Insert
import Mathlib.Data.Fintype.Defs

/-!
# Programs apart from each other

Programs whose calls act each on a state of their own take turns in any order, as those of a
pool do. None of them can tell: what is left of a program comes to what all of it comes to when
it runs alone.

**Results.**
* `Pool.Reaches.alone_eq`: a run changes for no program what it comes to alone.
* `Pool.Reaches.of_done`: a program that has ended has ended as it would alone.
* `Pool.Reaches.completed`: every run can be carried on to the end, which is always the same.
-/

namespace TelemetryAlerts
namespace Pool

variable {ι κ σ α : Type} {ρ : κ → Type} {handle : ι → (c : κ) → σ → ρ c × σ}
  {w w' : Pool ι ρ (ι → σ) α} {i : ι}

/-- What a program of a pool comes to, and its state, if it runs alone. -/
def alone (handle : ι → (c : κ) → σ → ρ c × σ) (w : Pool ι ρ (ι → σ) α) (i : ι) : α × σ :=
  Program.run (handle i) (w.rest i) (w.state i)

/-- The pool in which every program has ended as it would alone. -/
def completed (handle : ι → (c : κ) → σ → ρ c × σ) (w : Pool ι ρ (ι → σ) α) :
    Pool ι ρ (ι → σ) α where
  state i := (w.alone handle i).2
  rest i := .done (w.alone handle i).1

theorem alone_of_done
    {x : α}
    (h : w.rest i = .done x) :
    w.alone handle i = (x, w.state i) := by
  rw [alone, h, Program.run_done]

variable [DecidableEq ι]

/-- A call acts on the state of the program that makes it; the states of the others stay. -/
def Apart (handle : ι → (c : κ) → σ → ρ c × σ) (i : ι) (c : κ) (s : ι → σ) (r : ρ c)
    (t : ι → σ) : Prop :=
  r = (handle i c (s i)).1 ∧ t = Function.update s i (handle i c (s i)).2

/-- A call of one program changes for none of them what it comes to alone. -/
theorem Step.alone_eq
    (hstep : Step (Apart handle) w i w')
    (j : ι) :
    w'.alone handle j = w.alone handle j := by
  obtain ⟨hrest, rfl, rfl⟩ := hstep
  by_cases hj : j = i
  · subst hj
    simp only [alone, Function.update_self, hrest]
    rfl
  · simp only [alone, Function.update_of_ne hj]

theorem Reaches.alone_eq
    (hreaches : Reaches (Apart handle) w w')
    (j : ι) :
    w'.alone handle j = w.alone handle j := by
  induction hreaches with
  | refl =>
      rfl
  | tail _ hstep ih =>
      obtain ⟨i, hstep⟩ := hstep
      exact (hstep.alone_eq j).trans ih

/-- A program that has ended has ended as it would alone. -/
theorem Reaches.of_done
    {x : α}
    (hreaches : Reaches (Apart handle) w w')
    (h : w'.rest i = .done x) :
    w.alone handle i = (x, w'.state i) := by
  rw [← hreaches.alone_eq i, alone_of_done h]

/-- A program that runs to its end leaves the states of the others as they are. -/
theorem ends_apart
    (handle : ι → (c : κ) → σ → ρ c × σ) (i : ι) (p : Program κ ρ α) (s : ι → σ) :
    Program.Ends (Apart handle i) p s (Program.run (handle i) p (s i)).1
      (Function.update s i (Program.run (handle i) p (s i)).2) := by
  induction p generalizing s with
  | done x =>
      rw [Program.run_done, Function.update_eq_self]
      exact .done
  | call c next ih =>
      have hrest := ih (handle i c (s i)).1 (Function.update s i (handle i c (s i)).2)
      rw [Function.update_self, Function.update_idem] at hrest
      exact .call ⟨rfl, rfl⟩ hrest

/-- One program after the other runs to its end. -/
theorem exists_reaches_done
    (handle : ι → (c : κ) → σ → ρ c × σ) (w : Pool ι ρ (ι → σ) α) (ended : Finset ι) :
    ∃ w', Reaches (Apart handle) w w' ∧ ∀ i ∈ ended, ∃ x, w'.rest i = .done x := by
  induction ended using Finset.induction with
  | empty =>
      refine ⟨w, .refl, fun i hi => ?_⟩
      cases hi
  | insert i ended _ ih =>
      obtain ⟨w', hreaches, hdone⟩ := ih
      have hends := ends_apart handle i (w'.rest i) w'.state
      refine ⟨_, hreaches.trans (reaches_of_ends hends), fun j hj => ?_⟩
      by_cases hji : j = i
      · subst hji
        exact ⟨_, Function.update_self j _ _⟩
      · dsimp only
        rw [Function.update_of_ne hji]
        exact hdone j (Finset.mem_of_mem_insert_of_ne hj hji)

/-- Every run can be carried on to the end, which is always the same. -/
theorem Reaches.completed
    [Fintype ι]
    (hreaches : Reaches (Apart handle) w w') :
    Reaches (Apart handle) w' (w.completed handle) := by
  obtain ⟨v, hrest, hdone⟩ := exists_reaches_done handle w' Finset.univ
  have hv : v = w.completed handle := by
    have halone (i : ι) :
        v.state i = (w.alone handle i).2 ∧ v.rest i = .done (w.alone handle i).1 := by
      obtain ⟨x, hx⟩ := hdone i (Finset.mem_univ i)
      have hend := Reaches.of_done (hreaches.trans hrest) hx
      rw [hend]
      exact ⟨rfl, hx⟩
    cases v
    exact congrArg₂ Pool.mk (funext fun i => (halone i).1) (funext fun i => (halone i).2)
  rwa [hv] at hrest

end Pool
end TelemetryAlerts
