import TelemetryAlerts.Proofs.Worker.Cycle
import TelemetryAlerts.Proofs.Worker.Journal
import Mathlib.Algebra.BigOperators.Group.Finset.Piecewise

/-!
# Counted errors

An evaluation of a rule for a device counts what it does, but it counts no errors: a failure is
counted where it is caught. So what is counted as an error is what the journal notes as a failure.

**Results.**
* `Quiet.safe_evaluateOn`: an evaluation makes no call that counts an error.
* `Setting.Cycle.notes`, `Setting.Cycle.totalErrors`: a cycle counts so many errors as it notes
  failures.
-/

namespace TelemetryAlerts

open Program (Abides Safe)

/-- Whether a call counts an error. -/
def Call.countsError : Call → Bool
  | .count .errors => true
  | _ => false

namespace Worker

/-- What others leave alone, and all calls keep up that do not count an error. -/
structure Quiet
    {σ : Type} (effect : (c : Call) → σ → c.Reply → σ → Prop) (terms : Terms σ) (P : σ → Prop) :
    Prop where
  stable : terms.Stable P
  call : ∀ c s r t, c.countsError = false → P s → effect c s r t → terms.guarantee s t ∧ P t

namespace Quiet

variable {σ α β : Type} {effect : (c : Call) → σ → c.Reply → σ → Prop} {terms : Terms σ}
  {P : σ → Prop}

variable (h : Quiet effect terms P)
include h

theorem lift
    (o : Outcome α) :
    Safe effect terms P (liftM o : WorkerAction α) fun _ => P :=
  .lift h.stable fun _ hs => hs

theorem ask
    {c : Call}
    (hc : c.countsError = false) :
    Safe effect terms P (WorkerAction.ask c) fun _ => P :=
  .perform h.stable (fun _ => h.stable) fun s r t => h.call c s r t hc

theorem store
    (r : Request) :
    Safe effect terms P (WorkerAction.store r) fun _ => P :=
  .perform h.stable (fun _ => h.stable) fun s o t => h.call (.store r) s o t rfl

theorem recordDelivered
    (a : Alert) (report : Report) :
    Safe effect terms P (Worker.recordDelivered a report) fun _ => P := by
  unfold Worker.recordDelivered
  split_ifs
  · exact h.lift (.ok ())
  · exact h.store _

theorem trigger
    (r : Rule) (device : String) (s : Snapshot) (now : Moment) :
    Safe effect terms P (Worker.trigger r device s now) fun _ => P :=
  .andThen (h.ask rfl) fun _ => .andThen (h.store _) fun _ => .andThen (h.ask rfl) fun _ =>
    .andThen (h.ask rfl) fun _ => h.recordDelivered _ _

theorem resolve
    (a : Alert) :
    Safe effect terms P (Worker.resolve a) fun _ => P := by
  refine .andThen (h.store _) fun resolved => ?_
  split_ifs
  · exact h.ask rfl
  · exact h.lift (.ok ())

theorem escalate
    (a : Alert) (r : Rule) (now : Moment) :
    Safe effect terms P (Worker.escalate a r now) fun _ => P :=
  .andThen (h.ask rfl) fun _ => .andThen (h.store _) fun _ => .andThen (h.ask rfl) fun _ =>
    h.recordDelivered _ _

theorem apply
    (t : Transition) (open? : Option Alert) (r : Rule) (device : String) (s : Snapshot)
    (now : Moment) :
    Safe effect terms P (Worker.apply t open? r device s now) fun _ => P := by
  cases t with
  | trigger =>
      exact h.trigger r device s now
  | suppress =>
      exact h.ask rfl
  | resolve =>
      cases open? with
      | none =>
          exact h.lift (.ok ())
      | some a =>
          exact h.resolve a
  | escalate =>
      cases open? with
      | none =>
          exact h.lift (.ok ())
      | some a =>
          exact h.escalate a r now
  | none =>
      exact h.lift (.ok ())

theorem settle
    (again : Bool) (r : Rule) (device : String) (s : Snapshot) :
    Safe effect terms P (Worker.settle again r device s) fun _ => P := by
  refine .andThen (h.store _) fun _ => .andThen (h.ask rfl) fun _ => ?_
  have hrest (last? : Option Alert) (open? : Option Alert) (now : Moment) :
      Safe effect terms P (do
        let t ← (liftM (timed (Transition.choose open? (r.fires s) last? r now again)) :
          WorkerAction Transition)
        Worker.apply t open? r device s now
        pure t) fun _ => P :=
    .andThen (h.lift _) fun t => .andThen (h.apply t open? r device s now) fun _ => h.lift (.ok t)
  dsimp only
  split_ifs
  · exact .andThen (h.store _) fun last? => hrest last? _ _
  · exact hrest none _ _

/-- An evaluation makes no call that counts an error. -/
theorem safe_evaluateOn
    (again : Bool) (r : Rule) (device : String) (s : Snapshot) :
    Safe effect terms P (Worker.evaluateOn again r device s) fun _ => P := by
  unfold Worker.evaluateOn
  split_ifs
  · exact h.lift (.ok Transition.none)
  · exact safe_locked h.stable (fun _ => h.stable) (fun _ => h.stable)
      (fun s t => h.call (.acquire r.id device) s () t rfl) (h.settle again r device s)
      fun _ s t => h.call (.release r.id device) s () t rfl

end Quiet
end Worker

/-! ### Who counts errors -/

section

variable {σ ι : Type} [DecidableEq ι] {e : Setting σ} {i : ι} {c : Call} {reply : c.Reply}
  {w w' : Clocked σ ι} {x y : Clocked σ ι × List Alert}

namespace Clocked

/-- The number of errors that a task counted. -/
def errors (w : Clocked σ ι) (i : ι) : ℕ :=
  w.counted.count (i, .errors)

/-- A task counts for itself alone, and only what it is to count. -/
theorem errors_of_reacts
    (h : e.Reacts False i c w reply w')
    (j : ι) :
    w'.errors j = w.errors j + if i = j ∧ c.countsError = true then 1 else 0 := by
  have hsame {w₁ : Clocked σ ι} (hw : w' = w₁) (hcounted : w₁.counted = w.counted)
      (hc : c.countsError = false) :
      w'.errors j = w.errors j + if i = j ∧ c.countsError = true then 1 else 0 := by
    simp [errors, hw, hcounted, hc]
  obtain ⟨-, hreacts⟩ := h
  cases c with
  | store r =>
      obtain ⟨-, ⟨now, s, -, -, hw⟩ | ⟨-, -, hw⟩⟩ := hreacts
      · exact hsame hw rfl rfl
      · exact hsame hw rfl rfl
  | count counter =>
      rw [show w' = _ from hreacts]
      cases counter <;> simp [errors, Call.countsError, List.count_append, List.count_singleton]
  | release =>
      exact hsame hreacts rfl rfl
  | freshId =>
      exact hsame hreacts.2.2 rfl rfl
  | _ =>
      exact hsame hreacts.2 rfl rfl

end Clocked

/-- The number of errors that were counted. -/
def Clocked.totalErrors {σ : Type} (w : Clocked σ ℕ) : ℕ :=
  w.counted.countP fun p => p.2 == .errors

/-- If only the first tasks count errors, there are as many as these tasks counted. -/
theorem Clocked.totalErrors_eq_sum
    {σ : Type} {w : Clocked σ ℕ} {n : ℕ}
    (h : ∀ k, n ≤ k → w.errors k = 0) :
    w.totalErrors = ∑ k ∈ Finset.range n, w.errors k := by
  have hfirst : ∀ p ∈ w.counted, p.2 = .errors → p.1 < n := by
    rintro ⟨k, c⟩ hp rfl
    by_contra hk
    exact List.count_eq_zero.mp (h k (not_lt.mp hk)) hp
  unfold totalErrors errors
  generalize w.counted = counted at hfirst
  induction counted with
  | nil =>
      simp
  | cons p rest ih =>
      rw [List.countP_cons, ih fun q hq => hfirst q (List.mem_cons_of_mem _ hq)]
      simp only [List.count_cons, Finset.sum_add_distrib]
      rcases p with ⟨k, c⟩
      by_cases hc : c = .errors
      · subst hc
        have hk : k < n := hfirst (k, .errors) (by simp) rfl
        simp [hk]
      · simp [hc]

/-- Tasks leave each other's counts alone. -/
def counting (i : ι) : Terms (Clocked σ ι × List Alert) where
  rely x y := y.1.errors i = x.1.errors i
  guarantee x y := ∀ j, j ≠ i → y.1.errors j = x.1.errors j
  rely_refl _ := rfl
  rely_trans h h' := h'.trans h

/-- The number of failures that a journal notes. -/
def Journal.failures (js : Journal) : ℕ :=
  js.countP Note.fails

theorem quiet_counting
    (n : ℕ) :
    Worker.Quiet (e.Unfolds False i) (counting i) fun x => x.1.errors i = n where
  stable x y hrely hx := Eq.trans hrely hx
  call c x reply y hc hx hcall := by
    have herrors := Clocked.errors_of_reacts hcall.1
    exact ⟨fun j _ => by simp [herrors, hc], by simp [herrors, hc, hx]⟩

/-- So many errors are counted as failures are noted. -/
theorem countsErrors_diary
    (again : Bool) (tenants : List String) (n : ℕ) :
    Diary e i (counting i) again tenants (fun js x => x.1.errors i = n + js.failures)
      fun js _ x => x.1.errors i = n + js.failures where
  stable _ := (quiet_counting (e := e) _).stable
  stable_next _ _ := (quiet_counting (e := e) _).stable
  plain js c x reply y _ hc hx hcall := by
    refine (quiet_counting _).call c x reply y ?_ hx hcall
    cases c with
    | count counter =>
        cases counter <;> first | rfl | exact absurd rfl hc
    | _ =>
        rfl
  device js r device reply _ _ :=
    (quiet_counting _).safe_evaluateOn again r device _
  missed _ _ _ _ hx := hx
  passed js n x hn hx := by simpa [Journal.failures, List.countP_append, hn] using hx
  failed js n x y hn hx hcall := by
    have herrors := Clocked.errors_of_reacts hcall.1
    refine ⟨fun j hj => by simp [herrors, hj.symm], ?_⟩
    rw [herrors, hx]
    simp [Call.countsError, Journal.failures, List.countP_append, hn, Nat.add_assoc]

/-- Each task of a cycle notes what it finds, and counts so many errors as it notes failures. -/
theorem Setting.Cycle.notes
    {e : Setting σ} {again : Bool} {parts : List (List String)} {w w' : Clocked σ ℕ}
    {js : ℕ → Journal}
    (h : e.Cycle again parts w js w')
    (hgoing : ∀ stopping, e.replies .isStopping stopping → stopping = false)
    (i : ℕ) :
    e.NotesTenants (parts[i]?.getD []) (js i) ∧ w'.errors i = w.errors i + (js i).failures := by
  obtain ⟨v', hreaches⟩ :=
    h.behind (fun i c s r t v hreacts => Setting.unfolds hreacts v) []
  have hend := hreaches.abides (I := fun _ => True)
    (fun i j s t hij (hguarantee : (counting i).guarantee s t) => hguarantee j hij.symm)
    (fun i => (countsErrors_diary again (parts[i]?.getD []) (w.errors i)).abides_noteTenants hgoing
      rfl) (fun _ _ _ _ _ => trivial) trivial
  exact (hend.2 i _ rfl).symm

/-- A cycle counts so many errors as its tasks note failures. -/
theorem Setting.Cycle.totalErrors
    {e : Setting σ} {again : Bool} {parts : List (List String)} {s : σ} {w : Clocked σ ℕ}
    {js : ℕ → Journal}
    (h : e.Cycle again parts (Clocked.start s) js w)
    (hgoing : ∀ stopping, e.replies .isStopping stopping → stopping = false) :
    w.totalErrors = ∑ k ∈ Finset.range parts.length, (js k).failures := by
  have herrors (k : ℕ) : w.errors k = (js k).failures := by
    simpa [Clocked.errors, Clocked.start] using (h.notes hgoing k).2
  rw [Clocked.totalErrors_eq_sum (n := parts.length) fun k hk => ?_]
  · exact Finset.sum_congr rfl fun k _ => herrors k
  · have hnotes := (h.notes hgoing k).1
    rw [List.getElem?_eq_none hk] at hnotes
    obtain ⟨parts, hparts, hjs⟩ := hnotes
    cases hparts
    rw [herrors, hjs]
    rfl

end
end TelemetryAlerts
