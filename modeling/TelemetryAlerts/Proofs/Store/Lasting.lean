import TelemetryAlerts.Proofs.Store.Descent
import TelemetryAlerts.Proofs.Store.Holding

/-!
# What lasts

An operator takes notice of an alert, or ends it. Both are asked of the alert in some states
only, and an alert that has left them does not come back, whatever is asked of the store and
whichever commands fail: what is put into a store was there before, was changed, or is new.

**Results.**
* `Move.may_of_may_apply`: no change leaves an alert to be moved on that was not.
* `Store.Keeps.after`: what is known of all that is put into a store is known after every run.
* `Store.Keeps.stays`: what has been moved on stays so.
-/

namespace TelemetryAlerts

/-- The ways in which an operator moves an alert on. -/
inductive Move where
  | acknowledge
  | resolve

namespace Move

/-- The last segment of the path of the page. -/
def segment : Move → String
  | acknowledge => "acknowledge"
  | resolve => "resolve"

/-- The status of an alert that was moved on. -/
def target : Move → Status
  | acknowledge => .acknowledged
  | resolve => .resolved

/-- Whether alerts of a status are moved on. -/
def may : Move → Status → Bool
  | acknowledge, s => s == .active
  | resolve, s => s.isOpen

theorem may_target
    (move : Move) :
    move.may move.target = false := by
  cases move <;> rfl

/-- A change leaves no alert to be moved on that was not. -/
theorem may_of_may_apply
    {now : Moment} {r : Request} {c : Change} {a : Alert}
    (move : Move)
    (hc : r.change? now = some c)
    (hmay : c.may a = true)
    (h : move.may (c.apply a).status = true) :
    move.may a.status = true := by
  cases r with
  | acknowledge =>
      cases hc
      have hactive : a.status = .active := eq_of_beq hmay
      cases move <;> rw [hactive] <;> rfl
  | resolve =>
      cases hc
      cases move <;> cases h
  | recordNotifications | markEscalated =>
      cases hc
      exact h
  | _ =>
      cases hc

end Move

namespace Store

variable {start st st' : Store} {used : List String} {a b : Alert} {id : String}
  {P : Alert → Prop}

/-! ### What stays -/

/-- Whether only some alerts are in a store, each of them found by its rule and device. -/
def Keeps (P : Alert → Prop) (st : Store) : Prop :=
  match st with
  | memory m => m.Orderly ∧ ∀ a ∈ m.alerts, P a
  | server s => Indexed.Holds P s

theorem IsNew.keeps
    (h : st.IsNew) :
    st.Keeps P := by
  cases h with
  | memory =>
      exact ⟨Memory.Orderly.empty, by simp⟩
  | server =>
      exact Indexed.Holds.empty

theorem Keeps.mono
    {Q : Alert → Prop}
    (h : st.Keeps P)
    (hsub : ∀ a, P a → Q a) :
    st.Keeps Q := by
  cases st with
  | memory m =>
      exact ⟨h.1, fun a ha => hsub a (h.2 a ha)⟩
  | server s =>
      exact Indexed.Holds.mono h hsub

theorem Keeps.turn
    (h : st.Keeps P)
    (t : Turn) :
    (st.after [t]).Keeps (Succeeds t.now t.request P) := by
  cases st with
  | memory m =>
      refine ⟨h.1.serve t.now t.request, fun a ha => ?_⟩
      obtain ⟨b, hb, hsame⟩ :=
        (Memory.evolves h.1.ids t.now t.request).descends h.1.ids ha
      exact ⟨b, hb.mono h.2, hsame⟩
  | server s =>
      exact Indexed.ensures_descent t.now t.request ⟨s, t.faults⟩ h

/-- What is known of every alert that is put into a store, and stays so, is known after any run. -/
theorem Keeps.after
    (h : st.Keeps P)
    (turns : List Turn)
    (hstep : ∀ t ∈ turns, ∀ b, Succeeds t.now t.request P b → P b) :
    (st.after turns).Keeps P := by
  induction turns generalizing st with
  | nil =>
      rwa [after_nil]
  | cons t turns ih =>
      rw [after_cons]
      exact ih ((h.turn t).mono (hstep t List.mem_cons_self))
        fun u hu => hstep u (List.mem_cons_of_mem _ hu)

theorem Keeps.holds
    (h : st.Keeps P)
    (hread : ∀ b : Alert, P b → P b.readBack)
    (ha : st.Holds a) :
    P a := by
  cases st with
  | memory m =>
      exact h.2 a ha
  | server s =>
      obtain ⟨b, hb, hreading⟩ := ha
      obtain ⟨-, rfl⟩ := Alert.reading_eq_ok_iff.mp hreading
      exact hread b (Indexed.Holds.known h b hb)

/-- All that is stored under the id of an alert that is held has its status. -/
theorem Keeps.of_status
    (h : st.Keeps P)
    (ha : st.Holds a) :
    st.Keeps fun b => b.id = a.id → b.status = a.status := by
  cases st with
  | memory m =>
      exact ⟨h.1, fun b hb hid => by rw [List.inj_on_of_nodup_map h.1.ids hb ha hid]⟩
  | server s =>
      obtain ⟨x, hx, hreading⟩ := ha
      obtain ⟨-, rfl⟩ := Alert.reading_eq_ok_iff.mp hreading
      have hholds : Indexed.Holds P s := h
      exact { hholds with known := fun b hb hid => (congrArg Alert.status (hb.outline hx hid) :) }

/-- What cannot be moved on stays so after any run that gives its id to no new alert. -/
theorem Keeps.stays
    (move : Move)
    (h : st.Keeps fun a => a.id = id → move.may a.status = false)
    {turns : List Turn}
    (hnew : id ∉ createdIds turns) :
    (st.after turns).Keeps fun a => a.id = id → move.may a.status = false := by
  refine h.after turns fun t ht b hb hid => ?_
  obtain ⟨a, ha, hsame⟩ := hb
  have haid : a.id = id := (congrArg Alert.id hsame :).trans hid
  rw [← show a.status = b.status from (congrArg Alert.status hsame :)]
  cases ha with
  | same ha =>
      exact ha haid
  | @changed a c ha hc _ _ hmay =>
      refine Bool.eq_false_iff.mpr fun hmoved => ?_
      have hold := ha ((c.id_apply a).symm.trans haid)
      rw [move.may_of_may_apply hc hmay hmoved] at hold
      cases hold
  | created hr =>
      refine absurd ?_ hnew
      rw [← haid]
      exact List.mem_map_of_mem (List.mem_filterMap.mpr ⟨t, ht, by rw [Turn.created?, hr]⟩)

end Store
end TelemetryAlerts
