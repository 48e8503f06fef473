import TelemetryAlerts.Proofs.Program.Pool

/-!
# What stands behind a shared state

A state that programs share may stand for something that it does not tell by itself, as
the entries of a server stand for a list of records. If every call that can be made on the
state can be made on both, then so can every run, and what is proved of runs on both tells
about the state alone.

**Results.**
* `Pool.Reaches.follows`: what all calls keep up, and how they move on, over a whole run.
* `Pool.Reaches.behind`, `Program.Ends.behind`: runs on a state are runs on what stands behind
  it as well.
* `Program.Abides.ends`: the result of a program that runs on its own is as wanted.
-/

namespace TelemetryAlerts

variable {ι κ σ γ α : Type} {ρ : κ → Type}

/-- Terms on which programs share a state: each of them keeps something up, moves on in some
way, and does to the state only what all the others count on. -/
def Terms.moving
    (keeps : σ → Prop) (moves : σ → σ → Prop) (counts : ι → σ → σ → Prop)
    (hrefl : ∀ i s, counts i s s)
    (htrans : ∀ i s t u, counts i s t → counts i t u → counts i s u) (i : ι) : Terms σ :=
  { Terms.shared keeps counts hrefl htrans i with
    guarantee := fun s t => keeps s → (keeps t ∧ moves s t) ∧ ∀ j, j ≠ i → counts j s t }

namespace Pool

variable [DecidableEq ι] {w w' : Pool ι ρ σ α} {effect : ι → (c : κ) → σ → ρ c → σ → Prop}

/-- Programs that abide by the terms when they start keep up what they are to keep up, and
what their moves keep up. -/
theorem Reaches.follows
    {keeps F : σ → Prop} {moves : σ → σ → Prop} {counts : ι → σ → σ → Prop}
    {hrefl : ∀ i s, counts i s s}
    {htrans : ∀ i s t u, counts i s t → counts i t u → counts i s u} {Q : ι → α → σ → Prop}
    (hreaches : Reaches effect w w')
    (h : ∀ i, (w.rest i).Abides (effect i) (.moving keeps moves counts hrefl htrans i) (Q i)
      w.state)
    (hF : ∀ s t, keeps s → keeps t → moves s t → F s → F t)
    (hkeeps : keeps w.state)
    (hw : F w.state) :
    (keeps w'.state ∧ F w'.state) ∧
      ∀ i, (w'.rest i).Abides (effect i) (.moving keeps moves counts hrefl htrans i) (Q i)
        w'.state := by
  refine hreaches.abides (I := fun s => keeps s ∧ F s) ?_ h ?_ ⟨hkeeps, hw⟩
  · intro i j s t hij hguarantee hs
    obtain ⟨⟨ht, -⟩, hcounts⟩ := hguarantee hs
    exact ⟨ht, hcounts j hij.symm⟩
  · rintro i s t hguarantee ⟨hs, hFs⟩
    obtain ⟨⟨ht, hmoves⟩, -⟩ := hguarantee hs
    exact ⟨ht, hF s t hs ht hmoves hFs⟩

/-- The same programs on a state and on what stands behind it. -/
def withBehind (w : Pool ι ρ σ α) (v : γ) : Pool ι ρ (σ × γ) α :=
  ⟨(w.state, v), w.rest⟩

/-- A run on a state is a run on what stands behind it as well. -/
theorem Reaches.behind
    {effect' : ι → (c : κ) → σ × γ → ρ c → σ × γ → Prop}
    (hreaches : Reaches effect w w')
    (htotal : ∀ i c s r t v, effect i c s r t → ∃ u, effect' i c (s, v) r (t, u))
    (v : γ) :
    ∃ u, Reaches effect' (w.withBehind v) (w'.withBehind u) := by
  induction hreaches with
  | refl =>
      exact ⟨v, .refl⟩
  | tail _ hstep ih =>
      obtain ⟨u, hu⟩ := ih
      obtain ⟨i, hrest, heffect⟩ := hstep
      obtain ⟨u', hu'⟩ := htotal i _ _ _ _ u heffect
      exact ⟨u', hu.tail ⟨i, .call hrest hu'⟩⟩

end Pool

namespace Program

/-! ### Programs on their own -/

/-- A program runs to its end, and nobody else makes a call. -/
inductive Ends (effect : (c : κ) → σ → ρ c → σ → Prop) :
    Program κ ρ α → σ → α → σ → Prop where
  | done {x : α} {s : σ} :
      Ends effect (.done x) s x s
  | call {c : κ} {next : ρ c → Program κ ρ α} {r : ρ c} {s t u : σ} {x : α}
      (heffect : effect c s r t)
      (hnext : Ends effect (next r) t x u) :
      Ends effect (.call c next) s x u

variable {effect : (c : κ) → σ → ρ c → σ → Prop} {p : Program κ ρ α} {s t : σ} {x : α}

/-- The result of a program that runs on its own is as wanted. -/
theorem Abides.ends
    {terms : Terms σ} {Q : α → σ → Prop}
    (h : Abides effect terms p Q s)
    (hends : Ends effect p s x t) :
    Q x t := by
  induction hends with
  | done =>
      exact h _ (terms.rely_refl _)
  | call heffect _ ih =>
      exact ih (h _ (terms.rely_refl _) _ _ heffect).2

/-- A run on a state is a run on what stands behind it as well. -/
theorem Ends.behind
    {effect' : (c : κ) → σ × γ → ρ c → σ × γ → Prop}
    (hends : Ends effect p s x t)
    (htotal : ∀ c s r t v, effect c s r t → ∃ u, effect' c (s, v) r (t, u))
    (v : γ) :
    ∃ u, Ends effect' p (s, v) x (t, u) := by
  induction hends generalizing v with
  | done =>
      exact ⟨v, .done⟩
  | call heffect _ ih =>
      obtain ⟨u, hu⟩ := htotal _ _ _ _ v heffect
      obtain ⟨y, hy⟩ := ih u
      exact ⟨y, .call hu hy⟩

/-- A program runs to its end if its parts do, one after the other. -/
theorem Ends.bind
    {β : Type} {f : α → Program κ ρ β} {y : β} {u : σ}
    (hends : Ends effect p s x t)
    (hnext : Ends effect (f x) t y u) :
    Ends effect (p >>= f) s y u := by
  induction hends with
  | done =>
      exact hnext
  | call heffect _ ih =>
      exact .call heffect (ih hnext)

/-- A run is found call by call. -/
theorem exists_ends_call
    {c : κ} {next : ρ c → Program κ ρ α} {r : ρ c} {P : σ → Prop}
    (heffect : effect c s r t)
    (hnext : ∃ u, Ends effect (next r) t x u ∧ P u) :
    ∃ u, Ends effect (.call c next) s x u ∧ P u := by
  obtain ⟨u, hends, hu⟩ := hnext
  exact ⟨u, .call heffect hends, hu⟩

end Program

/-- A program of a pool runs to its end, and nobody else makes a call. -/
theorem Pool.reaches_of_ends
    [DecidableEq ι]
    {effect : ι → (c : κ) → σ → ρ c → σ → Prop} {w : Pool ι ρ σ α} {i : ι} {x : α} {t : σ}
    (hends : Program.Ends (effect i) (w.rest i) w.state x t) :
    Pool.Reaches effect w ⟨t, Function.update w.rest i (.done x)⟩ := by
  rcases w with ⟨s, rest⟩
  dsimp only at hends ⊢
  generalize hp : rest i = p at hends
  induction hends generalizing rest with
  | done =>
      rw [← hp, Function.update_eq_self]
      exact .refl
  | call heffect _ ih =>
      refine .head ⟨i, .call hp heffect⟩ ?_
      have hrest := ih (Function.update rest i _) (Function.update_self i _ rest)
      rwa [Function.update_idem] at hrest

end TelemetryAlerts
