import TelemetryAlerts.Store.Server

/-!
# Running server actions

Programs obey the laws of a monad, so an action can be run piece by piece: first one
part, then what follows from its outcome. An action can also be run on a server whose
commands fail as somebody planned; what then holds of every outcome is stated as a
contract.

**Results.**
* `runWith_bind`: an action is run part by part, under any execution of its commands.
* `Ensures.bind`, `Ensures.command`: contracts are put together from those of the parts,
  and those of single commands, which either take effect or fail without one.
-/

namespace TelemetryAlerts

namespace Program

variable {ι : Type} {ρ : ι → Type} {α β γ : Type}

theorem bind_done
    (p : Program ι ρ α) :
    p.bind done = p := by
  induction p with
  | done a =>
      rfl
  | call i next ih =>
      simp only [bind, ih]

theorem bind_assoc
    (p : Program ι ρ α)
    (f : α → Program ι ρ β)
    (g : β → Program ι ρ γ) :
    (p.bind f).bind g = p.bind fun a => (f a).bind g := by
  induction p with
  | done a =>
      rfl
  | call i next ih =>
      simp only [bind, ih]

instance : LawfulMonad (Program ι ρ) :=
  LawfulMonad.mk' (Program ι ρ)
    bind_done
    (fun _ _ => rfl)
    bind_assoc

end Program

namespace ServerAction

variable {α β σ : Type} {handle : (c : Command) → σ → c.Reply × σ}

/-- Runs an action, each of its commands as somebody executes it. -/
def runWith
    (handle : (c : Command) → σ → c.Reply × σ)
    (a : ServerAction α) (s : σ) : Outcome α × σ :=
  Program.run handle (ExceptT.run a) s

theorem runOn_eq
    (a : ServerAction α) (s : Server) :
    a.runOn s = a.runWith Server.execute s :=
  rfl

@[simp] theorem runWith_pure
    (x : α) (s : σ) :
    (pure x : ServerAction α).runWith handle s = (.ok x, s) :=
  rfl

@[simp] theorem runWith_throw
    (e : Failure) (s : σ) :
    (throw e : ServerAction α).runWith handle s = (.error e, s) :=
  rfl

@[simp] theorem runWith_lift
    (o : Outcome α) (s : σ) :
    (liftM o : ServerAction α).runWith handle s = (o, s) :=
  rfl

@[simp] theorem runWith_command
    (c : Command) (s : σ) :
    (command c).runWith handle s = handle c s :=
  rfl

/-- An action is run part by part. -/
theorem runWith_bind
    (a : ServerAction α) (f : α → ServerAction β) (s : σ) :
    (a >>= f).runWith handle s =
      match a.runWith handle s with
      | (.ok x, s') => (f x).runWith handle s'
      | (.error e, s') => (.error e, s') := by
  rw [runWith, Program.run_bindAction, runWith]
  rcases Program.run handle (ExceptT.run a) s with ⟨_ | _, s'⟩ <;> rfl

/-- After a part that succeeds, an action goes on from where that part ended. -/
theorem runOn_bind_of_ok
    {a : ServerAction α} {x : α} {s s' : Server}
    (h : a.runOn s = (.ok x, s'))
    (f : α → ServerAction β) :
    (a >>= f).runOn s = (f x).runOn s' := by
  rw [runOn_eq] at h
  rw [runOn_eq, runWith_bind, h]
  rfl

theorem runOn_bind_pure_snd
    (a : ServerAction α) (f : α → β) (s : Server) :
    ((a >>= fun x => pure (f x)).runOn s).2 = (a.runOn s).2 := by
  rw [runOn_eq, runWith_bind, runOn_eq]
  rcases a.runWith Server.execute s with ⟨_ | _, s'⟩ <;> rfl

theorem runWith_tryCatch
    (a : ServerAction α) (rescue : Failure → ServerAction α) (s : σ) :
    (tryCatch a rescue).runWith handle s =
      match a.runWith handle s with
      | (.ok x, s') => (.ok x, s')
      | (.error e, s') => (rescue e).runWith handle s' := by
  rw [runWith, Program.run_rescueAction, runWith]
  rcases Program.run handle (ExceptT.run a) s with ⟨_ | _, s'⟩ <;> rfl

/-- Outcomes that are found item by item need no commands. -/
theorem mapM_lift
    (f : α → Outcome β) (xs : List α) :
    (xs.mapM fun x => (liftM (f x) : ServerAction β)) = liftM (xs.mapM f) := by
  induction xs with
  | nil =>
      rfl
  | cons x xs ih =>
      simp only [List.mapM_cons, ih]
      cases f x with
      | error e =>
          rfl
      | ok y =>
          cases xs.mapM f <;> rfl

end ServerAction

/-! ### Servers that fail -/

/-- A server and the failures that are planned for its next commands; where none is
planned, a command takes effect. -/
structure Line where
  server : Server := {}
  faults : List (Option Failure) := []

namespace Line

/-- Executes a command, or fails without effect if that is planned. -/
def execute (c : Command) (l : Line) : c.Reply × Line :=
  match l.faults.headD none with
  | some e => (.error e, { l with faults := l.faults.tail })
  | none =>
    let (r, s) := Server.execute c l.server
    (r, ⟨s, l.faults.tail⟩)

theorem execute_of_none
    (c : Command) (l : Line)
    (h : l.faults.headD none = none) :
    execute c l =
      ((Server.execute c l.server).1, ⟨(Server.execute c l.server).2, l.faults.tail⟩) := by
  rw [execute, h]

theorem execute_of_some
    (c : Command) (l : Line)
    {e : Failure}
    (h : l.faults.headD none = some e) :
    execute c l = (.error e, { l with faults := l.faults.tail }) := by
  rw [execute, h]

end Line

namespace ServerAction

variable {α β : Type}

/-- What an action ensures: started on a server of which `P` holds, it ends with an
outcome and a server of which `Q` holds, whatever failures are planned. -/
def Ensures
    (P : Server → Prop) (a : ServerAction α)
    (Q : Outcome α → Server → Prop) : Prop :=
  ∀ l : Line, P l.server →
    Q (a.runWith Line.execute l).1 (a.runWith Line.execute l).2.server

namespace Ensures

variable {P : Server → Prop} {Q Q' : Outcome α → Server → Prop}

theorem pure
    {x : α}
    (h : ∀ s, P s → Q (.ok x) s) :
    Ensures P (Pure.pure x) Q :=
  fun l hl => h l.server hl

theorem throw
    {e : Failure}
    (h : ∀ s, P s → Q (.error e) s) :
    Ensures P (MonadExcept.throw e) Q :=
  fun l hl => h l.server hl

theorem lift
    {o : Outcome α}
    (h : ∀ s, P s → Q o s) :
    Ensures P (liftM o) Q :=
  fun l hl => h l.server hl

/-- A command takes effect, or fails without one. -/
theorem command
    {c : Command} {Q : c.Reply → Server → Prop}
    (heffect : ∀ s, P s → Q (Server.execute c s).1 (Server.execute c s).2)
    (hfault : ∀ e s, P s → Q (.error e) s) :
    Ensures P (ServerAction.command c) Q := by
  intro l hl
  rw [runWith_command]
  cases hplan : l.faults.headD none with
  | none =>
      rw [Line.execute_of_none c l hplan]
      exact heffect l.server hl
  | some e =>
      rw [Line.execute_of_some c l hplan]
      exact hfault e l.server hl

theorem bind
    {a : ServerAction β} {f : β → ServerAction α} {R : Outcome β → Server → Prop}
    (ha : Ensures P a R)
    (hf : ∀ x, Ensures (R (.ok x)) (f x) Q)
    (hfault : ∀ e s, R (.error e) s → Q (.error e) s) :
    Ensures P (a >>= f) Q := by
  intro l hl
  have hr := ha l hl
  rw [runWith_bind]
  cases hrun : a.runWith Line.execute l with
  | mk o l' =>
      rw [hrun] at hr
      cases o with
      | ok x =>
          exact hf x l' hr
      | error e =>
          exact hfault e l'.server hr

theorem rescue
    {a : ServerAction α} {f : Failure → ServerAction α} {R : Outcome α → Server → Prop}
    (ha : Ensures P a R)
    (hok : ∀ x s, R (.ok x) s → Q (.ok x) s)
    (hf : ∀ e, Ensures (R (.error e)) (f e) Q) :
    Ensures P (tryCatch a f) Q := by
  intro l hl
  have hr := ha l hl
  rw [runWith_tryCatch]
  cases hrun : a.runWith Line.execute l with
  | mk o l' =>
      rw [hrun] at hr
      cases o with
      | ok x =>
          exact hok x l'.server hr
      | error e =>
          exact hf e l' hr

theorem weaken
    {P' : Server → Prop} {a : ServerAction α}
    (h : Ensures P a Q)
    (hP : ∀ s, P' s → P s)
    (hQ : ∀ o s, Q o s → Q' o s) :
    Ensures P' a Q' :=
  fun l hl => hQ _ _ (h l (hP _ hl))

end Ensures
end ServerAction
end TelemetryAlerts
