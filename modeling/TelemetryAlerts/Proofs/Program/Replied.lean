import TelemetryAlerts.Proofs.Program.Behind

/-!
# Results that depend on replies alone

What a program results in may be known from the replies to its calls, whatever its calls do to a
state. Then it makes no difference who else makes calls between them, in which order, or on what
state.

**Results.**
* `gives_bind_iff`: the result of a program that goes on with another one.
* `Gives.run`: the result of a program that runs alone.
* `Pool.Reaches.gives`: the results of programs that run side by side.
-/

namespace TelemetryAlerts

variable {ι κ σ α β : Type} {ρ : κ → Type}

namespace Program

/-- Whether the result of a program is as wanted, whichever of the possible replies its calls
have. -/
def Gives (replies : (c : κ) → ρ c → Prop) : Program κ ρ α → (α → Prop) → Prop
  | .done x, Q => Q x
  | .call c next, Q => ∀ r, replies c r → Gives replies (next r) Q

variable {replies : (c : κ) → ρ c → Prop} {p : Program κ ρ α} {Q : α → Prop}

theorem Gives.weaken
    {Q' : α → Prop}
    (h : p.Gives replies Q)
    (hQ : ∀ x, Q x → Q' x) :
    p.Gives replies Q' := by
  induction p with
  | done x =>
      exact hQ x h
  | call c next ih =>
      exact fun r hr => ih r (h r hr)

theorem gives_of_forall
    (hQ : ∀ x, Q x) :
    p.Gives replies Q := by
  induction p with
  | done x =>
      exact hQ x
  | call c next ih =>
      exact fun r _ => ih r

theorem gives_bind_iff
    {f : α → Program κ ρ β} {Q : β → Prop} :
    (p >>= f).Gives replies Q ↔ p.Gives replies fun x => (f x).Gives replies Q := by
  induction p with
  | done x =>
      exact Iff.rfl
  | call c next ih =>
      exact forall_congr' fun r => imp_congr_right fun _ => ih r

/-- The result of a program that runs alone. -/
theorem Gives.run
    {handle : (c : κ) → σ → ρ c × σ}
    (h : p.Gives replies Q)
    (hreplies : ∀ c s, replies c (handle c s).1)
    (s : σ) :
    Q (p.run handle s).1 := by
  induction p generalizing s with
  | done x =>
      exact h
  | call c next ih =>
      exact ih _ (h _ (hreplies c s)) _

/-- A run of a program that goes on with another one is a run of both. -/
theorem Ends.exists_of_bind
    {effect : (c : κ) → σ → ρ c → σ → Prop} {f : α → Program κ ρ β} {s u : σ} {y : β}
    (hends : Ends effect (p >>= f) s y u) :
    ∃ x t, Ends effect p s x t ∧ Ends effect (f x) t y u := by
  induction p generalizing s with
  | done x =>
      exact ⟨x, s, .done, hends⟩
  | call c next ih =>
      cases hends with
      | call heffect hnext =>
          obtain ⟨x, t, hfirst, hrest⟩ := ih _ hnext
          exact ⟨x, t, .call heffect hfirst, hrest⟩

end Program

namespace Pool

variable [DecidableEq ι] {w w' : Pool ι ρ σ α} {effect : ι → (c : κ) → σ → ρ c → σ → Prop}

/-- The results of programs that run side by side. -/
theorem Reaches.gives
    {replies : (c : κ) → ρ c → Prop} {Q : ι → α → Prop}
    (hreaches : Reaches effect w w')
    (hreplies : ∀ i c s r t, effect i c s r t → replies c r)
    (h : ∀ i, (w.rest i).Gives replies (Q i)) :
    ∀ i, (w'.rest i).Gives replies (Q i) := by
  induction hreaches with
  | refl =>
      exact h
  | tail _ hstep ih =>
      obtain ⟨i, hrest, heffect⟩ := hstep
      intro j
      dsimp only
      by_cases hj : j = i
      · subst hj
        have hcall := ih j
        rw [hrest] at hcall
        rw [Function.update_self]
        exact hcall _ (hreplies _ _ _ _ _ heffect)
      · rw [Function.update_of_ne hj]
        exact ih j

/-- A program that has ended makes no more calls. -/
theorem Reaches.rest_of_done
    {i : ι} {x : α}
    (hreaches : Reaches effect w w')
    (h : w.rest i = .done x) :
    w'.rest i = .done x := by
  induction hreaches with
  | refl =>
      exact h
  | tail _ hstep ih =>
      obtain ⟨j, hrest, -⟩ := hstep
      dsimp only
      rw [Function.update_of_ne]
      · exact ih
      · rintro rfl
        rw [ih] at hrest
        cases hrest

end Pool
end TelemetryAlerts
