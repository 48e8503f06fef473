/-!
# Programs over an interface

A program is a tree of calls: it either is done, or makes one call and goes on with the
reply. What the calls do is left to whoever runs the program, so that one program can be
run alone, interleaved with others, or against services that fail.
-/

namespace TelemetryAlerts

/-- A program that makes calls of type `ι`, each with its own type of reply. -/
inductive Program (ι : Type) (ρ : ι → Type) (α : Type) where
  | done (a : α)
  | call (i : ι) (next : ρ i → Program ι ρ α)

namespace Program

variable {ι : Type} {ρ : ι → Type} {α β σ : Type}

/-- Goes on with another program. -/
def bind (p : Program ι ρ α) (f : α → Program ι ρ β) : Program ι ρ β :=
  match p with
  | done a => f a
  | call i next => call i fun r => (next r).bind f

instance : Monad (Program ι ρ) where
  pure := done
  bind := bind

/-- A program of one call. -/
def perform (i : ι) : Program ι ρ (ρ i) :=
  call i done

/-- Runs a program to its end; every call acts on a state. -/
def run (handle : (i : ι) → σ → ρ i × σ) : Program ι ρ α → σ → α × σ
  | done a, s => (a, s)
  | call i next, s =>
    let (r, s) := handle i s
    run handle (next r) s

/-- Makes at most a number of calls, and leaves the rest of the program. -/
def advance (handle : (i : ι) → σ → ρ i × σ) : Nat → Program ι ρ α → σ → Program ι ρ α × σ
  | n + 1, call i next, s =>
    let (r, s) := handle i s
    advance handle n (next r) s
  | _, p, s => (p, s)

/-- The same program over another interface, each call carried out by a program there. -/
def interpret {κ : Type} {σ : κ → Type} (carryOut : (i : ι) → Program κ σ (ρ i)) :
    Program ι ρ α → Program κ σ α
  | done a => done a
  | call i next => (carryOut i).bind fun r => interpret carryOut (next r)

theorem run_done (handle : (i : ι) → σ → ρ i × σ) (a : α) (s : σ) :
    run handle (done a) s = (a, s) := rfl

theorem run_bind (handle : (i : ι) → σ → ρ i × σ) (p : Program ι ρ α)
    (f : α → Program ι ρ β) (s : σ) :
    run handle (p.bind f) s =
      (let (a, s') := run handle p s; run handle (f a) s') := by
  induction p generalizing s with
  | done a => rfl
  | call i next ih => exact ih _ _

/-- A program that can fail is run part by part, up to the first one that does. -/
theorem run_bindAction {ε : Type} (handle : (i : ι) → σ → ρ i × σ)
    (a : ExceptT ε (Program ι ρ) α) (f : α → ExceptT ε (Program ι ρ) β) (s : σ) :
    run handle (ExceptT.run (a >>= f)) s =
      match run handle (ExceptT.run a) s with
      | (.ok x, s') => run handle (ExceptT.run (f x)) s'
      | (.error e, s') => (.error e, s') := by
  change run handle (bind (ExceptT.run a) (ExceptT.bindCont f)) s = _
  rw [run_bind]
  cases run handle (ExceptT.run a) s with
  | mk o s' => cases o <;> rfl

theorem run_mapAction {ε : Type} (handle : (i : ι) → σ → ρ i × σ) (f : α → β)
    (a : ExceptT ε (Program ι ρ) α) (s : σ) :
    run handle (ExceptT.run (f <$> a)) s =
      ((run handle (ExceptT.run a) s).1.map f, (run handle (ExceptT.run a) s).2) := by
  change run handle (bind (ExceptT.run a) _) s = _
  rw [run_bind]
  cases run handle (ExceptT.run a) s with
  | mk o s' => cases o <;> rfl

/-- A program that can fail is followed by what rescues it, if it does. -/
theorem run_rescueAction {ε : Type} (handle : (i : ι) → σ → ρ i × σ)
    (a : ExceptT ε (Program ι ρ) α) (f : ε → ExceptT ε (Program ι ρ) α) (s : σ) :
    run handle (ExceptT.run (tryCatch a f)) s =
      match run handle (ExceptT.run a) s with
      | (.ok x, s') => (.ok x, s')
      | (.error e, s') => run handle (ExceptT.run (f e)) s' := by
  change run handle (bind (ExceptT.run a) _) s = _
  rw [run_bind]
  cases run handle (ExceptT.run a) s with
  | mk o s' => cases o <;> rfl

end Program
end TelemetryAlerts
