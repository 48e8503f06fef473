import TelemetryAlerts.Proofs.Store.Calls
import Mathlib.Algebra.BigOperators.Group.List.Basic
import Mathlib.Logic.Function.Basic

/-!
# A ledger of changes

Several callers change one alert. Each of them first looks at it, and then either is done
or has an alert to put in its place; in between others may have done the same. The ledger
keeps the alert, how far every caller is, and in which order they were done.

**Results.**
* `Ledger.Sound.serial`: as long as no save is lost, the alert and the answers are those
  of the callers one after the other, in the order in which they were done.
* `Ledger.Bounded.lost`: once a save is lost, the alert has had less done to it than the
  callers were told.
-/

namespace TelemetryAlerts

/-! ### Callers -/

/-- How far a caller is. -/
inductive Phase where
  | waiting
  /-- The caller has seen an alert, and will put another one in its place. -/
  | saving (answer : Answer) (seen next : Alert)
  | settled (answer : Answer)

/-- The answer of a caller that is done. -/
def Phase.answer : Phase → Answer
  | settled answer => answer
  | _ => .done

variable {ι : Type}

/-- An alert that callers change, how far each of them is, the order in which they were
done, and their loads and saves. -/
structure Ledger (ι : Type) where
  alert : Alert
  phase : ι → Phase := fun _ => .waiting
  order : List ι := []
  log : List (ι × Access) := []

/-- Whether somebody else saved after a caller's load. -/
def Stale (i : ι) (log : List (ι × Access)) : Prop :=
  ∃ j, i ≠ j ∧ [(i, Access.load), (j, Access.save)].Sublist log

/-- Whether a caller saved although somebody else had saved since the caller's load. -/
def LostSave (log : List (ι × Access)) : Prop :=
  ∃ i j, i ≠ j ∧ [(i, Access.load), (j, Access.save), (i, Access.save)].Sublist log

section

variable {α : Type} {p l : List α} {x y : α}

theorem concat_sublist_concat :
    (p ++ [x]).Sublist (l ++ [y]) ↔ (p ++ [x]).Sublist l ∨ x = y ∧ p.Sublist l := by
  rw [← List.reverse_sublist, List.reverse_concat, List.reverse_concat, List.cons_sublist_cons',
    ← List.reverse_concat, List.reverse_sublist, List.reverse_sublist]

end

theorem stale_concat_load
    {i j : ι} {log : List (ι × Access)} :
    Stale i (log ++ [(j, .load)]) ↔ Stale i log := by
  have hsublist (k : ι) := concat_sublist_concat (p := [(i, Access.load)]) (l := log)
    (x := (k, Access.save)) (y := (j, .load))
  simp only [List.cons_append, List.nil_append] at hsublist
  simp [Stale, hsublist]

theorem stale_concat_save
    {i j : ι} {log : List (ι × Access)} :
    Stale i (log ++ [(j, .save)]) ↔ Stale i log ∨ i ≠ j ∧ (i, Access.load) ∈ log := by
  have hsublist (k : ι) := concat_sublist_concat (p := [(i, Access.load)]) (l := log)
    (x := (k, Access.save)) (y := (j, .save))
  simp only [List.cons_append, List.nil_append, List.singleton_sublist] at hsublist
  simp only [Stale, hsublist]
  constructor
  · rintro ⟨k, hne, hold | ⟨hsame, hmem⟩⟩
    · exact Or.inl ⟨k, hne, hold⟩
    · cases hsame
      exact Or.inr ⟨hne, hmem⟩
  · rintro (⟨k, hne, hold⟩ | ⟨hne, hmem⟩)
    · exact ⟨k, hne, Or.inl hold⟩
    · exact ⟨j, hne, Or.inr ⟨rfl, hmem⟩⟩

theorem lostSave_concat_load
    {j : ι} {log : List (ι × Access)} :
    LostSave (log ++ [(j, .load)]) ↔ LostSave log := by
  have hsublist (i k : ι) := concat_sublist_concat
    (p := [(i, Access.load), (k, Access.save)]) (l := log)
    (x := (i, Access.save)) (y := (j, .load))
  simp only [List.cons_append, List.nil_append] at hsublist
  simp [LostSave, hsublist]

theorem lostSave_concat_save
    {j : ι} {log : List (ι × Access)} :
    LostSave (log ++ [(j, .save)]) ↔ LostSave log ∨ Stale j log := by
  have hsublist (i k : ι) := concat_sublist_concat
    (p := [(i, Access.load), (k, Access.save)]) (l := log)
    (x := (i, Access.save)) (y := (j, .save))
  simp only [List.cons_append, List.nil_append] at hsublist
  simp only [LostSave, Stale, hsublist]
  constructor
  · rintro ⟨i, k, hne, hold | ⟨hsame, hmem⟩⟩
    · exact Or.inl ⟨i, k, hne, hold⟩
    · cases hsame
      exact Or.inr ⟨k, hne, hmem⟩
  · rintro (⟨i, k, hne, hold⟩ | ⟨k, hne, hmem⟩)
    · exact ⟨i, k, hne, Or.inl hold⟩
    · exact ⟨j, k, hne, Or.inr ⟨rfl, hmem⟩⟩

/-! ### Steps -/

/-- The answers of turns served one after the other, and the alert that they leave. -/
def settle (a : Alert) : List Turn → List Answer × Alert
  | [] => ([], a)
  | t :: turns =>
    ((t.effect a).1 :: (settle ((t.effect a).2.getD a) turns).1,
      (settle ((t.effect a).2.getD a) turns).2)

theorem settle_concat
    (a : Alert) (turns : List Turn) (t : Turn) :
    settle a (turns ++ [t]) =
      ((settle a turns).1 ++ [(t.effect (settle a turns).2).1],
        (t.effect (settle a turns).2).2.getD (settle a turns).2) := by
  induction turns generalizing a with
  | nil =>
      rfl
  | cons u turns ih =>
      simp only [List.cons_append, settle, ih]

variable {calls : ι → Turn} {a : Alert} {l l' : Ledger ι}

/-- A caller looks at the alert, or puts another one in its place. -/
inductive Ledger.Step [DecidableEq ι] (calls : ι → Turn) : Ledger ι → Ledger ι → Prop where
  /-- The caller is done after a look. -/
  | look {l : Ledger ι} {i : ι} {answer : Answer}
      (hi : l.phase i = .waiting)
      (heffect : (calls i).effect l.alert = (answer, none)) :
      Step calls l
        { l with
          phase := Function.update l.phase i (.settled answer)
          order := l.order ++ [i]
          log := l.log ++ [(i, .load)] }
  | load {l : Ledger ι} {i : ι} {answer : Answer} {next : Alert}
      (hi : l.phase i = .waiting)
      (heffect : (calls i).effect l.alert = (answer, some next)) :
      Step calls l
        { l with
          phase := Function.update l.phase i (.saving answer l.alert next)
          log := l.log ++ [(i, .load)] }
  | save {l : Ledger ι} {i : ι} {answer : Answer} {seen next : Alert}
      (hi : l.phase i = .saving answer seen next) :
      Step calls l
        { alert := next
          phase := Function.update l.phase i (.settled answer)
          order := l.order ++ [i]
          log := l.log ++ [(i, .save)] }

namespace Ledger

/-! ### The serial order -/

/-- What the log and the order of a ledger tell, if it started with an alert. -/
structure Sound (calls : ι → Turn) (a : Alert) (l : Ledger ι) : Prop where
  fresh : ∀ i, l.phase i = .waiting → ∀ x, (i, x) ∉ l.log
  loaded : ∀ i answer seen next, l.phase i = .saving answer seen next → (i, .load) ∈ l.log
  effect : ∀ i answer seen next, l.phase i = .saving answer seen next →
    (calls i).effect seen = (answer, some next)
  current : ∀ i answer seen next, l.phase i = .saving answer seen next →
    Stale i l.log ∨ seen = l.alert
  nodup : l.order.Nodup
  settled : ∀ i, i ∈ l.order ↔ ∃ answer, l.phase i = .settled answer
  serial : ¬ LostSave l.log →
    settle a (l.order.map calls) = (l.order.map fun i => (l.phase i).answer, l.alert)

variable {phase : ι → Phase} {order : List ι} {i k : ι} {x y : Phase} {answer : Answer}

theorem of_update
    [DecidableEq ι]
    (h : Function.update phase i x k = y)
    (hne : x ≠ y) :
    k ≠ i ∧ phase k = y := by
  have hother : k ≠ i := by
    rintro rfl
    exact hne (by rw [← h, Function.update_self])
  exact ⟨hother, by rwa [Function.update_of_ne hother] at h⟩

/-- A caller that is under way was so before another one was done. -/
theorem saving_of_settled
    [DecidableEq ι]
    {seen next : Alert} {answer' : Answer}
    (h : Function.update phase i (.settled answer) k = .saving answer' seen next) :
    phase k = .saving answer' seen next :=
  (of_update h (by simp)).2

theorem saving_of_update
    [DecidableEq ι]
    {seen next seen' next' : Alert} {answer' : Answer}
    (h : Function.update phase i (.saving answer seen next) k = .saving answer' seen' next') :
    (k = i ∧ answer = answer' ∧ seen = seen' ∧ next = next') ∨
      phase k = .saving answer' seen' next' := by
  by_cases hk : k = i
  · subst hk
    rw [Function.update_self] at h
    cases h
    exact Or.inl ⟨rfl, rfl, rfl, rfl⟩
  · rw [Function.update_of_ne hk] at h
    exact Or.inr h

/-- Where a caller that is not in the order is, does not matter there. -/
theorem map_update
    [DecidableEq ι]
    {β : Type}
    (hi : i ∉ order)
    (x : Phase) (f : ι → Phase → β) :
    (order.map fun k => f k (Function.update phase i x k)) =
      order.map fun k => f k (phase k) := by
  refine List.map_congr_left fun k hk => ?_
  rw [Function.update_of_ne]
  rintro rfl
  exact hi hk

theorem mem_concat_iff
    [DecidableEq ι]
    (h : ∀ k, k ∈ order ↔ ∃ answer, phase k = .settled answer)
    (answer : Answer) (k : ι) :
    k ∈ order ++ [i] ↔
      ∃ answer', Function.update phase i (.settled answer) k = .settled answer' := by
  by_cases hk : k = i
  · subst hk
    simp
  · simp [hk, h]

/-- A caller that finds the alert that the others left goes after them. -/
theorem settle_order_concat
    [DecidableEq ι]
    {b? : Option Alert}
    (hi : i ∉ order)
    (hsettle : settle a (order.map calls) = (order.map fun k => (phase k).answer, l.alert))
    (heffect : (calls i).effect l.alert = (answer, b?)) :
    settle a ((order ++ [i]).map calls) =
      ((order ++ [i]).map fun k => (Function.update phase i (.settled answer) k).answer,
        b?.getD l.alert) := by
  rw [List.map_append, List.map_singleton, settle_concat, hsettle, heffect, List.map_append,
    map_update hi _ fun _ => Phase.answer, List.map_singleton, Function.update_self]
  rfl

namespace Sound

theorem start :
    Sound calls a { alert := a } where
  fresh := by simp
  loaded := by simp
  effect := by simp
  current := by simp
  nodup := List.nodup_nil
  settled := by simp
  serial _ := rfl

theorem not_mem_order
    (h : Sound calls a l)
    (hi : ∀ answer, l.phase i ≠ .settled answer) :
    i ∉ l.order := fun hmem => by
  obtain ⟨answer, hanswer⟩ := (h.settled i).mp hmem
  exact hi answer hanswer

theorem nodup_concat
    (h : Sound calls a l)
    (hnew : i ∉ l.order) :
    (l.order ++ [i]).Nodup :=
  List.nodup_append.mpr ⟨h.nodup, List.nodup_singleton i, fun _ hk _ hi heq =>
    hnew (List.mem_singleton.mp hi ▸ heq ▸ hk)⟩

/-- A caller that has not begun has no access in the log, nor has it after another one's. -/
theorem fresh_concat
    (h : Sound calls a l)
    (hother : k ≠ i)
    (hk : l.phase k = .waiting)
    (x y : Access) :
    (k, x) ∉ l.log ++ [(i, y)] := fun hmem => by
  rcases List.mem_append.mp hmem with hold | hlast
  · exact h.fresh k hk x hold
  · exact hother (Prod.mk.inj (List.mem_singleton.mp hlast)).1

/-- Every step keeps the ledger sound. -/
theorem step
    [DecidableEq ι]
    (h : Sound calls a l)
    (hstep : Step calls l l') :
    Sound calls a l' := by
  cases hstep with
  | @look i answer hi heffect =>
      have hnew : i ∉ l.order := h.not_mem_order (by simp [hi])
      constructor
      · intro k hk x
        obtain ⟨hother, hk⟩ := of_update hk (by simp)
        exact h.fresh_concat hother hk x .load
      · intro k answer' seen next hk
        exact List.mem_append_left _ (h.loaded k answer' seen next (saving_of_settled hk))
      · intro k answer' seen next hk
        exact h.effect k answer' seen next (saving_of_settled hk)
      · intro k answer' seen next hk
        rw [stale_concat_load]
        exact h.current k answer' seen next (saving_of_settled hk)
      · exact h.nodup_concat hnew
      · exact mem_concat_iff h.settled answer
      · intro hlost
        rw [lostSave_concat_load] at hlost
        exact settle_order_concat hnew (h.serial hlost) heffect
  | @load i answer next hi heffect =>
      have hnew : i ∉ l.order := h.not_mem_order (by simp [hi])
      constructor
      · intro k hk x
        obtain ⟨hother, hk⟩ := of_update hk (by simp)
        exact h.fresh_concat hother hk x .load
      · intro k answer' seen next' hk
        rcases saving_of_update hk with ⟨rfl, -⟩ | hk
        · exact List.mem_append_right _ (List.mem_singleton_self _)
        · exact List.mem_append_left _ (h.loaded k answer' seen next' hk)
      · intro k answer' seen next' hk
        rcases saving_of_update hk with ⟨rfl, rfl, rfl, rfl⟩ | hk
        · exact heffect
        · exact h.effect k answer' seen next' hk
      · intro k answer' seen next' hk
        rcases saving_of_update hk with ⟨rfl, rfl, rfl, rfl⟩ | hk
        · exact Or.inr rfl
        · rw [stale_concat_load]
          exact h.current k answer' seen next' hk
      · exact h.nodup
      · intro k
        by_cases hki : k = i
        · subst hki
          simp [hnew]
        · simp [hki, h.settled]
      · intro hlost
        rw [lostSave_concat_load] at hlost
        simp only [map_update hnew _ fun _ => Phase.answer]
        exact h.serial hlost
  | @save i answer seen next hi =>
      have hnew : i ∉ l.order := h.not_mem_order (by simp [hi])
      constructor
      · intro k hk x
        obtain ⟨hother, hk⟩ := of_update hk (by simp)
        exact h.fresh_concat hother hk x .save
      · intro k answer' seen' next' hk
        exact List.mem_append_left _ (h.loaded k answer' seen' next' (saving_of_settled hk))
      · intro k answer' seen' next' hk
        exact h.effect k answer' seen' next' (saving_of_settled hk)
      · intro k answer' seen' next' hk
        obtain ⟨hother, hk⟩ := of_update hk (by simp)
        exact Or.inl (stale_concat_save.mpr
          (Or.inr ⟨hother, h.loaded k answer' seen' next' hk⟩))
      · exact h.nodup_concat hnew
      · exact mem_concat_iff h.settled answer
      · intro hlost
        rw [lostSave_concat_save, not_or] at hlost
        have hseen : seen = l.alert :=
          (h.current i answer seen next hi).resolve_left hlost.2
        have heffect : (calls i).effect l.alert = (answer, some next) :=
          hseen ▸ h.effect i answer seen next hi
        exact settle_order_concat hnew (h.serial hlost.1) heffect

end Sound
end Ledger
end TelemetryAlerts
