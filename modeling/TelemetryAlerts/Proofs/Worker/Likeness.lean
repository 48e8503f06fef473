import TelemetryAlerts.Proofs.Worker.InLine
import TelemetryAlerts.Proofs.Worker.Journal

/-!
# Alerts alike but for their ids

Two runs of the same evaluations draw different ids, so their alerts are alike at best, and they
may be found in different orders. Neither makes a difference to what a store tells of them, or to
what is decided about them: no decision looks at an id, or at an order.

**Results.**
* `Impartial.newest?_agree`: the newest alerts of alike lists were triggered at the same time.
* `Impartial.newestFirst_agree`: alike lists can be listed, or neither can.
* `choose_agree`: so the same is decided about them.
-/

namespace TelemetryAlerts

/-! ### Alerts -/

/-- Whether alerts differ in their ids at most, and in these only if both were drawn. -/
def Alert.Like (fresh : String → Prop) (a b : Alert) : Prop :=
  ∃ id, b = { a with id := id } ∧ (a.id = id ∨ fresh a.id ∧ fresh id)

/-- What decides whether an alert is recent. -/
def Alert.clock (a : Alert) : Bool × Int :=
  (a.triggeredAt.isAware, a.triggeredAt.instant)

section

variable {fresh : String → Prop} {a b : Alert} {p q l m : List Alert} {r : Rule} {device : String}

namespace Alert.Like

theorem refl
    (a : Alert) :
    a.Like fresh a :=
  ⟨a.id, rfl, Or.inl rfl⟩

theorem isOpen_eq
    (h : a.Like fresh b) :
    a.isOpen = b.isOpen := by
  obtain ⟨id, rfl, -⟩ := h
  rfl

theorem tenant_eq
    (h : a.Like fresh b) :
    a.tenant = b.tenant := by
  obtain ⟨id, rfl, -⟩ := h
  rfl

theorem rule_eq
    (h : a.Like fresh b) :
    a.rule = b.rule := by
  obtain ⟨id, rfl, -⟩ := h
  rfl

theorem device_eq
    (h : a.Like fresh b) :
    a.device = b.device := by
  obtain ⟨id, rfl, -⟩ := h
  rfl

theorem clock_eq
    (h : a.Like fresh b) :
    a.clock = b.clock := by
  obtain ⟨id, rfl, -⟩ := h
  rfl

theorem isOpenFor
    (h : a.Like fresh b)
    (hopen : a.IsOpenFor r device) :
    b.IsOpenFor r device := by
  obtain ⟨id, rfl, -⟩ := h
  exact hopen

theorem resolve
    (h : a.Like fresh b)
    (notes? : Option String) (now : Moment) :
    (a.resolve notes? now).Like fresh (b.resolve notes? now) := by
  obtain ⟨id, rfl, hid⟩ := h
  exact ⟨id, rfl, hid⟩

theorem escalate
    (h : a.Like fresh b)
    (now : Moment) :
    (a.escalate now).Like fresh (b.escalate now) := by
  obtain ⟨id, rfl, hid⟩ := h
  exact ⟨id, rfl, hid⟩

theorem recordNotifications
    (h : a.Like fresh b)
    (count : Int) (now : Moment) :
    (a.recordNotifications count now).Like fresh (b.recordNotifications count now) := by
  obtain ⟨id, rfl, hid⟩ := h
  exact ⟨id, rfl, hid⟩

end Alert.Like

/-- Lists of alerts that are alike one by one. -/
abbrev AllLike (fresh : String → Prop) : List Alert → List Alert → Prop :=
  List.Forall₂ (Alert.Like fresh)

namespace AllLike

theorem taken_eq
    (h : AllLike fresh p q)
    (k : Manner) (rule device : String) :
    k.taken p rule device = k.taken q rule device := by
  unfold Manner.taken
  induction h with
  | nil =>
      rfl
  | cons hxy _ ih =>
      rw [List.any_cons, List.any_cons, ih, hxy.isOpen_eq, hxy.rule_eq, hxy.device_eq]

theorem openOn
    (h : AllLike fresh p q)
    (k : Manner) (tenant device : String) :
    AllLike fresh (k.openOn p tenant device) (k.openOn q tenant device) :=
  List.rel_filter (fun a b hab => by simp only [hab.isOpen_eq, hab.tenant_eq, hab.device_eq]) h

/-- Alerts are put in the same places if they are alike and have the ids of the same places. -/
theorem put
    (h : AllLike fresh p q)
    (hplace : ∀ x ∈ p, ∀ y ∈ q, x.Like fresh y → (x.id = a.id ↔ y.id = b.id))
    (hab : a.Like fresh b) :
    AllLike fresh (Memory.put a p) (Memory.put b q) := by
  induction h with
  | nil =>
      exact .cons hab .nil
  | @cons x y p q hxy hpq ih =>
      have hfirst := hplace x (by simp) y (by simp) hxy
      have hrest := ih fun x hx y hy =>
        hplace x (List.mem_cons_of_mem _ hx) y (List.mem_cons_of_mem _ hy)
      rw [Memory.put, Memory.put]
      split_ifs with hx hy hy
      · exact .cons hab hpq
      · exact absurd (hfirst.mp hx) hy
      · exact absurd (hfirst.mpr hy) hx
      · exact .cons hxy hrest

end AllLike

/-! ### The newest -/

theorem sortable_eq_of_clocks
    (h : (l.map Alert.clock).Perm (m.map Alert.clock)) :
    sortable l = sortable m := by
  have hlength : l.length = m.length := by simpa using h.length_eq
  have haware : (l.map fun a => a.triggeredAt.isAware).Perm (m.map fun a => a.triggeredAt.isAware) := by
    simpa [Alert.clock, Function.comp_def] using h.map Prod.fst
  have hall (f : Bool → Bool) :
      (l.all fun a => f a.triggeredAt.isAware) = m.all fun a => f a.triggeredAt.isAware := by
    have hsame := haware.all_eq (f := f)
    rwa [List.all_map, List.all_map] at hsame
  simp only [sortable, comparable, List.all_map, Function.comp_def, hlength, hall (fun b => b),
    hall (fun b => !b)]

/-- The newest of some alerts is no earlier than that of others triggered at the same times. -/
theorem exists_isNoEarlier
    {x : Alert} {y? : Option Alert}
    (h : (l.map Alert.clock).Perm (m.map Alert.clock))
    (hl : newest? l = .ok (some x))
    (hm : newest? m = .ok y?) :
    ∃ y, y? = some y ∧ y.triggeredAt.IsNoEarlier x.triggeredAt := by
  obtain ⟨x', hx', hclock⟩ :=
    List.mem_map.mp (h.subset (List.mem_map_of_mem (mem_of_newest? hl)))
  obtain ⟨y, hy, hlater⟩ := isNoEarlier_of_newest? hm hx'
  refine ⟨y, hy, hlater.1.trans ?_, le_trans (le_of_eq ?_) hlater.2⟩
  · exact congrArg Prod.fst hclock
  · exact (congrArg Prod.snd hclock).symm

/-- The newest alerts of lists that were triggered at the same times were so, too. -/
theorem newest?_agree
    (h : (l.map Alert.clock).Perm (m.map Alert.clock)) :
    (newest? l).map (Option.map Alert.clock) = (newest? m).map (Option.map Alert.clock) := by
  have hsame := sortable_eq_of_clocks h
  by_cases hsortable : sortable l = true
  · obtain ⟨x?, hl⟩ : ∃ x?, newest? l = .ok x? := ⟨_, if_pos hsortable⟩
    obtain ⟨y?, hm⟩ : ∃ y?, newest? m = .ok y? := ⟨_, if_pos (hsame ▸ hsortable)⟩
    rw [hl, hm]
    cases x? with
    | none =>
        cases y? with
        | none =>
            rfl
        | some y =>
            obtain ⟨x, hx, -⟩ := exists_isNoEarlier h.symm hm hl
            cases hx
    | some x =>
        obtain ⟨y, rfl, haware, hinstant⟩ := exists_isNoEarlier h hl hm
        obtain ⟨x', hx', -, hinstant'⟩ := exists_isNoEarlier h.symm hm hl
        cases hx'
        simp [Except.map, Alert.clock, haware, le_antisymm hinstant hinstant']
  · have hl : newest? l = .error (.time .mixedOffsets) := if_neg hsortable
    have hm : newest? m = .error (.time .mixedOffsets) := if_neg (hsame ▸ hsortable)
    rw [hl, hm]

/-! ### Reading -/

/-- Reading an alert does not look at its id, and fails in one way only. -/
structure Impartial (reading : Alert → Outcome Alert) : Prop where
  rename : ∀ a id, reading { a with id := id } = (reading a).map fun b => { b with id := id }
  uniform : ∀ {a b f g}, reading a = .error f → reading b = .error g → f = g
  outline : ∀ {a b}, reading a = .ok b → b.outline = a.outline

namespace Impartial

variable {reading : Alert → Outcome Alert} {a' : Alert} {f : Failure} (h : Impartial reading)
include h

theorem clock_eq
    (hread : reading a = .ok b) :
    b.clock = a.clock :=
  (congrArg Alert.clock (h.outline hread) :)

theorem like
    (hab : a.Like fresh b)
    (hread : reading a = .ok a') :
    ∃ b', reading b = .ok b' ∧ a'.Like fresh b' := by
  obtain ⟨id, rfl, hid⟩ := hab
  have hsame : a'.id = a.id := (congrArg Alert.id (h.outline hread) :)
  exact ⟨{ a' with id := id }, by rw [h.rename, hread]; rfl, id, rfl, by rwa [hsame]⟩

theorem error
    (hab : a.Like fresh b)
    (hread : reading a = .error f) :
    reading b = .error f := by
  obtain ⟨id, rfl, -⟩ := hab
  rw [h.rename, hread]
  rfl

/-- Several alerts are read, or one of them cannot be. -/
theorem mapM_cases
    (l : List Alert) :
    (∃ l', l.mapM reading = .ok l' ∧ l'.map Alert.clock = l.map Alert.clock) ∨
      ∃ a ∈ l, ∃ f, reading a = .error f ∧ l.mapM reading = .error f := by
  induction l with
  | nil =>
      exact Or.inl ⟨[], rfl, rfl⟩
  | cons a l ih =>
      rw [List.mapM_cons]
      cases hread : reading a with
      | error f =>
          exact Or.inr ⟨a, by simp, f, hread, rfl⟩
      | ok b =>
          rcases ih with ⟨l', hl', hclocks⟩ | ⟨c, hc, f, hf, hl'⟩
          · exact Or.inl ⟨b :: l', by rw [hl']; rfl, by simp [hclocks, h.clock_eq hread]⟩
          · exact Or.inr ⟨c, List.mem_cons_of_mem _ hc, f, hf, by rw [hl']; rfl⟩

/-- Alike alerts are read alike, in whatever order. -/
theorem mapM_agree
    (hl : l.Perm p)
    (hm : m.Perm q)
    (hpq : AllLike fresh p q) :
    (∃ f, l.mapM reading = .error f ∧ m.mapM reading = .error f) ∨
      ∃ l' m', l.mapM reading = .ok l' ∧ m.mapM reading = .ok m' ∧
        (l'.map Alert.clock).Perm (m'.map Alert.clock) := by
  rcases h.mapM_cases l with ⟨l', hl', hclocks⟩ | ⟨a, ha, f, hf, hl'⟩
  · rcases h.mapM_cases m with ⟨m', hm', hclocks'⟩ | ⟨b, hb, f, hf, hm'⟩
    · refine Or.inr ⟨l', m', hl', hm', ?_⟩
      rw [hclocks, hclocks']
      refine (hl.map _).trans (.trans (.of_eq ?_) (hm.map _).symm)
      clear hl hm hl' hm' hclocks hclocks'
      induction hpq with
      | nil =>
          rfl
      | cons hxy _ ih =>
          rw [List.map_cons, List.map_cons, ih, hxy.clock_eq]
    · obtain ⟨a, ha, hab⟩ := exists_of_mem_right hpq (hm.mem_iff.mp hb)
      obtain ⟨a', ha', hread⟩ := exists_of_mapM hl' (hl.mem_iff.mpr ha)
      obtain ⟨b', hb', -⟩ := h.like hab hread
      rw [hf] at hb'
      cases hb'
  · obtain ⟨b, hb, hab⟩ := exists_of_mem_left hpq (hl.mem_iff.mp ha)
    have hfb := h.error hab hf
    rcases h.mapM_cases m with ⟨m', hm', -⟩ | ⟨c, hc, g, hg, hm'⟩
    · obtain ⟨b', -, hread⟩ := exists_of_mapM hm' (hm.mem_iff.mpr hb)
      rw [hfb] at hread
      cases hread
    · exact Or.inl ⟨f, hl', by rw [hm', h.uniform hg hfb]⟩

theorem newest?_agree
    (hl : l.Perm p)
    (hm : m.Perm q)
    (hpq : AllLike fresh p q) :
    (l.mapM reading >>= newest?).map (Option.map Alert.clock) =
      (m.mapM reading >>= newest?).map (Option.map Alert.clock) := by
  rcases h.mapM_agree hl hm hpq with ⟨f, hl', hm'⟩ | ⟨l', m', hl', hm', hclocks⟩
  · rw [hl', hm']
  · rw [hl', hm']
    exact TelemetryAlerts.newest?_agree hclocks

/-- Whether alerts can be listed does not depend on their ids or their order. -/
theorem newestFirst_agree
    (hl : l.Perm p)
    (hm : m.Perm q)
    (hpq : AllLike fresh p q) :
    (l.mapM reading >>= newestFirst).map (fun _ => ()) =
      (m.mapM reading >>= newestFirst).map fun _ => () := by
  rcases h.mapM_agree hl hm hpq with ⟨f, hl', hm'⟩ | ⟨l', m', hl', hm', hclocks⟩
  · rw [hl', hm']
  · rw [hl', hm']
    change (newestFirst l').map (fun _ => ()) = (newestFirst m').map fun _ => ()
    rw [newestFirst, newestFirst, sortable_eq_of_clocks hclocks]
    split_ifs <;> rfl

end Impartial

/-! ### Decisions -/

/-- A decision looks at an open alert's status and times, and at the time of the last one. -/
theorem choose_agree
    {open? open'? last? last'? : Option Alert} {fires again : Bool} {now : Moment}
    (hopen : open?.map (fun a => (a.status, a.lastEscalatedAt?, a.triggeredAt)) =
      open'?.map fun a => (a.status, a.lastEscalatedAt?, a.triggeredAt))
    (hlast : last?.map Alert.clock = last'?.map Alert.clock) :
    Transition.choose open? fires last? r now again =
      Transition.choose open'? fires last'? r now again := by
  have hsuppresses : suppresses r last? now = suppresses r last'? now := by
    cases last? with
    | none =>
        cases last'? with
        | none =>
            rfl
        | some b =>
            cases hlast
    | some a =>
        cases last'? with
        | none =>
            cases hlast
        | some b =>
            obtain ⟨haware, hinstant⟩ := Prod.mk.inj (Option.some.inj hlast)
            simp only [suppresses, elapsed, Moment.since?, haware, hinstant]
  cases open? with
  | none =>
      cases open'? with
      | none =>
          cases fires with
          | false =>
              rfl
          | true =>
              simp only [Transition.choose, hsuppresses]
      | some b =>
          cases hopen
  | some a =>
      cases open'? with
      | none =>
          cases hopen
      | some b =>
          obtain ⟨hstatus, hrest⟩ := Prod.mk.inj (Option.some.inj hopen)
          obtain ⟨hescalated, htriggered⟩ := Prod.mk.inj hrest
          cases fires with
          | false =>
              rfl
          | true =>
              simp only [Transition.choose, escalationDue, hstatus, hescalated, htriggered]

end
end TelemetryAlerts
