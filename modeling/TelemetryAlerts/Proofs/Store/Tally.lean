import TelemetryAlerts.Proofs.Store.Ledger
import Mathlib.Algebra.BigOperators.Group.List.Basic

/-!
# What callers were told and what was done

Every caller that changes an alert is told what it has done: notifications and an
escalation are counted, and an alert is taken notice of or ended. The alert shows the same,
as its counts and its status. One after the other, callers are told exactly what the alert
shows; where a save was lost, the alert shows less.

**Results.**
* `settle_sum`: a measure of the alert grows with every turn by the turn's share.
* `Ledger.Bounded.step`: an alert shows no more than callers were told, and less once a
  save was lost.
-/

namespace TelemetryAlerts

/-! ### Shares -/

/-- The notifications that a turn counted for a tenant, as its answer tells. -/
def Turn.notified (t : Turn) (tenant : String) (answer : Answer) : Int :=
  match t.request, answer with
  | .recordNotifications _ tenant' count, .done => if tenant' = tenant then count else 0
  | _, _ => 0

/-- The escalations that a turn counted for a tenant, as its answer tells. -/
def Turn.escalated (t : Turn) (tenant : String) (answer : Answer) : Int :=
  match t.request, answer with
  | .markEscalated _ tenant' _, .done => if tenant' = tenant then 1 else 0
  | _, _ => 0

/-- How often a turn took notice of an alert, as its answer tells. -/
def Turn.noticed (t : Turn) (answer : Answer) : Int :=
  match t.request, answer with
  | .acknowledge _ _ _ _, .flag true => 1
  | _, _ => 0

/-- How often a turn ended an alert, as its answer tells. -/
def Turn.ended (t : Turn) (answer : Answer) : Int :=
  match t.request, answer with
  | .resolve _ _ _, .flag true => 1
  | _, _ => 0

/-- How much a turn did to an alert of a tenant, as its answer tells. -/
def Turn.share (t : Turn) (tenant : String) (answer : Answer) : Int :=
  t.notified tenant answer + t.escalated tenant answer + t.noticed answer + t.ended answer

/-- Whether a turn that records notifications records at least one. -/
def Turn.Counts (t : Turn) : Prop :=
  ∀ id tenant count, t.request = .recordNotifications id tenant count → 0 < count

namespace Alert

/-- How often an alert has been ended. -/
def ended (a : Alert) : Int :=
  (decide (a.status = .resolved)).toInt

/-- How much has been done to an alert. -/
def tally (a : Alert) : Int :=
  a.notifications + a.escalations + a.acknowledgedAt?.isSome.toInt + a.ended

/-- Whether nobody took notice of an alert that is still active. -/
def Ordinary (a : Alert) : Prop :=
  a.status = .active → a.acknowledgedAt? = none

end Alert

namespace Turn

variable {t : Turn} {a b : Alert} {answer : Answer} {b? : Option Alert} {id : String}

/-- A turn that stores nothing was told that it has done nothing. -/
theorem share_of_effect_none
    (ht : t.Changes id)
    (h : t.effect a = (answer, none)) :
    t.notified a.tenant answer = 0 ∧ t.escalated a.tenant answer = 0 ∧
      t.noticed answer = 0 ∧ t.ended answer = 0 := by
  obtain ⟨c, hc, -⟩ := ht
  have hnone := effect_eq_none hc h
  obtain ⟨now, r, faults⟩ := t
  rcases hnone with ⟨e, rfl⟩ | ⟨rfl, hmade⟩
  · cases r <;> exact ⟨rfl, rfl, rfl, rfl⟩
  · cases r with
    | recordNotifications id tenant count =>
        cases hc
        have hother : ¬ tenant = a.tenant := fun heq => hmade ⟨heq.symm, rfl⟩
        exact ⟨if_neg hother, rfl, rfl, rfl⟩
    | markEscalated id tenant at_ =>
        cases hc
        have hother : ¬ tenant = a.tenant := fun heq => hmade ⟨heq.symm, rfl⟩
        exact ⟨rfl, if_neg hother, rfl, rfl⟩
    | _ =>
        exact ⟨rfl, rfl, rfl, rfl⟩

theorem share_eq_zero_of_effect_none
    (ht : t.Changes id)
    (h : t.effect a = (answer, none)) :
    t.share a.tenant answer = 0 := by
  obtain ⟨hnotified, hescalated, hnoticed, hended⟩ := share_of_effect_none ht h
  rw [share, hnotified, hescalated, hnoticed, hended]
  rfl

theorem ne_resolved_of_isOpen
    (h : a.isOpen = true) :
    a.status ≠ .resolved := fun hresolved => by
  simp [Alert.isOpen, hresolved, Status.isOpen] at h

/-- What a turn stores has the counts that it found and its own shares. -/
theorem counts_of_effect_some
    (ht : t.Changes id)
    (h : t.effect a = (answer, some b)) :
    b.notifications = a.notifications + t.notified a.tenant answer ∧
      b.escalations = a.escalations + t.escalated a.tenant answer ∧
      b.ended = a.ended + t.ended answer := by
  obtain ⟨c, hc, -⟩ := ht
  obtain ⟨htenant, hmay, rfl, rfl⟩ := effect_eq_some hc h
  obtain ⟨now, r, faults⟩ := t
  cases r with
  | acknowledge id tenant who? notes? =>
      cases hc
      have hactive : a.status = .active := eq_of_beq hmay
      refine ⟨(Int.add_zero _).symm, (Int.add_zero _).symm, ?_⟩
      rw [Alert.ended, Alert.ended, hactive]
      rfl
  | resolve id tenant reason? =>
      cases hc
      refine ⟨(Int.add_zero _).symm, (Int.add_zero _).symm, ?_⟩
      rw [Alert.ended, Alert.ended, decide_eq_false (ne_resolved_of_isOpen hmay)]
      rfl
  | recordNotifications id tenant count =>
      cases hc
      have hown : notified ⟨now, .recordNotifications id tenant count, faults⟩ a.tenant .done =
          count := if_pos htenant.symm
      exact ⟨congrArg (a.notifications + ·) hown.symm, (Int.add_zero _).symm,
        (Int.add_zero _).symm⟩
  | markEscalated id tenant at_ =>
      cases hc
      have hown : escalated ⟨now, .markEscalated id tenant at_, faults⟩ a.tenant .done = 1 :=
        if_pos htenant.symm
      exact ⟨(Int.add_zero _).symm, congrArg (a.escalations + ·) hown.symm,
        (Int.add_zero _).symm⟩
  | _ =>
      cases hc

/-- What a turn stores shows whether notice was taken before or by the turn. -/
theorem noticed_of_effect_some
    (ht : t.Changes id)
    (ha : a.Ordinary)
    (h : t.effect a = (answer, some b)) :
    b.Ordinary ∧ b.acknowledgedAt?.isSome.toInt =
      a.acknowledgedAt?.isSome.toInt + t.noticed answer := by
  obtain ⟨c, hc, -⟩ := ht
  obtain ⟨-, hmay, rfl, rfl⟩ := effect_eq_some hc h
  obtain ⟨now, r, faults⟩ := t
  cases r with
  | acknowledge id tenant who? notes? =>
      cases hc
      have hunnoticed : a.acknowledgedAt? = none := ha (eq_of_beq hmay)
      refine ⟨(by cases ·), ?_⟩
      rw [hunnoticed]
      rfl
  | resolve id tenant reason? =>
      cases hc
      exact ⟨(by cases ·), (Int.add_zero _).symm⟩
  | recordNotifications id tenant count =>
      cases hc
      exact ⟨ha, (Int.add_zero _).symm⟩
  | markEscalated id tenant at_ =>
      cases hc
      exact ⟨ha, (Int.add_zero _).symm⟩
  | _ =>
      cases hc

/-- A turn that stores something has a share. -/
theorem share_pos_of_effect_some
    (ht : t.Changes id)
    (hcounts : t.Counts)
    (h : t.effect a = (answer, some b)) :
    0 < t.share a.tenant answer := by
  obtain ⟨c, hc, -⟩ := ht
  obtain ⟨htenant, -, rfl, rfl⟩ := effect_eq_some hc h
  obtain ⟨now, r, faults⟩ := t
  cases r with
  | acknowledge id tenant who? notes? =>
      cases hc
      exact Int.one_pos
  | resolve id tenant reason? =>
      cases hc
      exact Int.one_pos
  | recordNotifications id tenant count =>
      cases hc
      have hcount : 0 < count := hcounts _ _ _ rfl
      have hown : tenant = a.tenant := htenant.symm
      simpa [share, notified, escalated, noticed, ended, Request.noted, hown] using hcount
  | markEscalated id tenant at_ =>
      cases hc
      have hown : tenant = a.tenant := htenant.symm
      simp [share, notified, escalated, noticed, ended, Request.noted, hown]
  | _ =>
      cases hc

/-- What a turn stores shows what was done before and the turn's share, which is something. -/
theorem tally_of_effect_some
    (ht : t.Changes id)
    (hcounts : t.Counts)
    (ha : a.Ordinary)
    (h : t.effect a = (answer, some b)) :
    b.Ordinary ∧ b.tally = a.tally + t.share a.tenant answer ∧
      0 < t.share a.tenant answer := by
  obtain ⟨hnotified, hescalated, hended⟩ := counts_of_effect_some ht h
  obtain ⟨hb, hnoticed⟩ := noticed_of_effect_some ht ha h
  refine ⟨hb, ?_, share_pos_of_effect_some ht hcounts h⟩
  rw [Alert.tally, Alert.tally, share, hnotified, hescalated, hnoticed, hended]
  omega

/-- What a turn stores is the same tenant's alert, under the same id. -/
theorem identity_of_effect_some
    (ht : t.Changes id)
    (h : t.effect a = (answer, some b)) :
    b.id = a.id ∧ b.tenant = a.tenant := by
  obtain ⟨c, hc, -⟩ := ht
  obtain ⟨-, -, rfl, -⟩ := effect_eq_some hc h
  exact ⟨c.id_apply a, c.tenant_apply a⟩

/-- What a turn leaves is the same tenant's alert, under the same id. -/
theorem identity_of_effect
    (ht : t.Changes id)
    (a : Alert) :
    ((t.effect a).2.getD a).id = a.id ∧ ((t.effect a).2.getD a).tenant = a.tenant := by
  cases h : t.effect a with
  | mk answer b? =>
      cases b? with
      | none =>
          exact ⟨rfl, rfl⟩
      | some b =>
          exact identity_of_effect_some ht h

/-- The counts of the alert that a turn leaves. -/
theorem counts_of_effect
    (ht : t.Changes id)
    (a : Alert) :
    ((t.effect a).2.getD a).notifications =
        a.notifications + t.notified a.tenant (t.effect a).1 ∧
      ((t.effect a).2.getD a).escalations =
        a.escalations + t.escalated a.tenant (t.effect a).1 ∧
      ((t.effect a).2.getD a).ended = a.ended + t.ended (t.effect a).1 := by
  cases h : t.effect a with
  | mk answer b? =>
      cases b? with
      | none =>
          obtain ⟨hnotified, hescalated, -, hended⟩ := share_of_effect_none ht h
          simp [hnotified, hescalated, hended]
      | some b =>
          exact counts_of_effect_some ht h

/-- What the alert that a turn leaves shows. -/
theorem tally_of_effect
    (ht : t.Changes id)
    (hcounts : t.Counts)
    (ha : a.Ordinary) :
    ((t.effect a).2.getD a).Ordinary ∧
      ((t.effect a).2.getD a).tally = a.tally + t.share a.tenant (t.effect a).1 := by
  cases h : t.effect a with
  | mk answer b? =>
      cases b? with
      | none =>
          exact ⟨ha, by rw [share_eq_zero_of_effect_none ht h, Int.add_zero, Option.getD_none]⟩
      | some b =>
          obtain ⟨hb, htally, -⟩ := tally_of_effect_some ht hcounts ha h
          exact ⟨hb, htally⟩

end Turn

/-! ### One after the other -/

section

variable {a : Alert} {turns : List Turn} {id : String}

/-- A measure of the alert grows with every turn by the turn's share, if it does so at
every alert that turns can leave. -/
theorem settle_sum
    {P : Alert → Prop} {measure : Alert → Int} {share : Turn → Answer → Int}
    (hstep : ∀ t ∈ turns, ∀ a, P a → P ((t.effect a).2.getD a) ∧
      measure ((t.effect a).2.getD a) = measure a + share t (t.effect a).1)
    (ha : P a) :
    P (settle a turns).2 ∧ measure (settle a turns).2 =
      measure a + (List.zipWith share turns (settle a turns).1).sum := by
  induction turns generalizing a with
  | nil =>
      exact ⟨ha, (Int.add_zero _).symm⟩
  | cons t turns ih =>
      obtain ⟨hnext, hmeasure⟩ := hstep t List.mem_cons_self a ha
      obtain ⟨hlast, hsum⟩ := ih (fun t ht => hstep t (List.mem_cons_of_mem _ ht)) hnext
      refine ⟨hlast, ?_⟩
      simp only [settle, List.zipWith_cons_cons, List.sum_cons]
      rw [hsum, hmeasure, Int.add_assoc]

/-- One after the other, no notification and no escalation is lost, nor is an end. -/
theorem counts_settle
    (hturns : ∀ t ∈ turns, t.Changes id) :
    (settle a turns).2.notifications = a.notifications +
        (List.zipWith (fun t => t.notified a.tenant) turns (settle a turns).1).sum ∧
      (settle a turns).2.escalations = a.escalations +
        (List.zipWith (fun t => t.escalated a.tenant) turns (settle a turns).1).sum ∧
      (settle a turns).2.ended = a.ended +
        (List.zipWith Turn.ended turns (settle a turns).1).sum := by
  have hstep (t : Turn) (ht : t ∈ turns) (b : Alert) (hb : b.tenant = a.tenant) :
      ((t.effect b).2.getD b).tenant = a.tenant :=
    (Turn.identity_of_effect (hturns t ht) b).2.trans hb
  refine ⟨(settle_sum (fun t ht b hb => ⟨hstep t ht b hb, ?_⟩) rfl).2,
    (settle_sum (fun t ht b hb => ⟨hstep t ht b hb, ?_⟩) rfl).2,
    (settle_sum (fun t ht b hb => ⟨hstep t ht b hb, ?_⟩) rfl).2⟩
  · rw [← hb]
    exact (Turn.counts_of_effect (hturns t ht) b).1
  · rw [← hb]
    exact (Turn.counts_of_effect (hturns t ht) b).2.1
  · exact (Turn.counts_of_effect (hturns t ht) b).2.2

/-- One after the other, the alert shows what the turns were told. -/
theorem tally_settle
    (hturns : ∀ t ∈ turns, t.Changes id)
    (hcounts : ∀ t ∈ turns, t.Counts)
    (ha : a.Ordinary) :
    (settle a turns).2.tally = a.tally +
      (List.zipWith (fun t => t.share a.tenant) turns (settle a turns).1).sum := by
  refine (settle_sum (P := fun b => b.tenant = a.tenant ∧ b.Ordinary)
    (fun t ht b hb => ?_) ⟨rfl, ha⟩).2
  obtain ⟨-, htenant⟩ := Turn.identity_of_effect (hturns t ht) b
  obtain ⟨hordinary, htally⟩ := Turn.tally_of_effect (hturns t ht) (hcounts t ht) hb.2
  rw [hb.1] at htenant htally
  exact ⟨⟨htenant, hordinary⟩, htally⟩

end

/-! ### Side by side -/

section

variable {ι : Type} {calls : ι → Turn} {a b : Alert} {l l' : Ledger ι} {lost lost' : Prop}
  {total total' : Int}

/-- Whether an alert shows at most a total, and less if something was lost. -/
def Alert.Trails (b : Alert) (lost : Prop) (total : Int) : Prop :=
  b.tally ≤ total ∧ (lost → b.tally < total)

theorem Alert.Trails.grow
    (h : b.Trails lost total)
    (hlt : total < total') :
    b.Trails lost' total' :=
  ⟨by have := h.1; omega, fun _ => by have := h.1; omega⟩

theorem Alert.Trails.mono
    (h : b.Trails lost total)
    (hlost : lost' → lost) :
    b.Trails lost' total :=
  ⟨h.1, fun hl => h.2 (hlost hl)⟩

namespace Ledger

/-- What the callers that are done were told, in all. -/
def told (calls : ι → Turn) (tenant : String) (l : Ledger ι) : Int :=
  (l.order.map fun i => (calls i).share tenant (l.phase i).answer).sum

/-- Where a caller that is not done is, does not matter to what the others were told. -/
theorem sum_update
    [DecidableEq ι]
    {i : ι}
    (hi : i ∉ l.order)
    (tenant : String) (x : Phase) :
    (l.order.map fun k => (calls k).share tenant (Function.update l.phase i x k).answer).sum =
      l.told calls tenant := by
  rw [map_update hi x fun k phase => (calls k).share tenant phase.answer]
  rfl

theorem sum_settled
    [DecidableEq ι]
    {i : ι}
    (hi : i ∉ l.order)
    (tenant : String) (answer : Answer) :
    ((l.order ++ [i]).map fun k => (calls k).share tenant
      (Function.update l.phase i (.settled answer) k).answer).sum =
      l.told calls tenant + (calls i).share tenant answer := by
  rw [List.map_append, List.sum_append, List.map_singleton, List.sum_singleton,
    sum_update hi tenant, Function.update_self]
  rfl

/-- An alert of a ledger, and every alert that a caller has seen, shows at most what was
done at the start and what the callers were told, and less than that once there is a save
that it does not know of. -/
structure Bounded (calls : ι → Turn) (a : Alert) (l : Ledger ι) : Prop where
  tenant : l.alert.tenant = a.tenant
  ordinary : l.alert.Ordinary
  trails : l.alert.Trails (LostSave l.log) (a.tally + l.told calls a.tenant)
  seenTenant : ∀ i answer seen next, l.phase i = .saving answer seen next →
    seen.tenant = a.tenant
  seenOrdinary : ∀ i answer seen next, l.phase i = .saving answer seen next → seen.Ordinary
  seenTrails : ∀ i answer seen next, l.phase i = .saving answer seen next →
    seen.Trails (Stale i l.log ∨ LostSave l.log) (a.tally + l.told calls a.tenant)

namespace Bounded

theorem start
    (ha : a.Ordinary) :
    Bounded calls a { alert := a } where
  tenant := rfl
  ordinary := ha
  trails := ⟨by simp [told], fun ⟨_, _, _, h⟩ => by simp at h⟩
  seenTenant := by simp
  seenOrdinary := by simp
  seenTrails := by simp

theorem step
    [DecidableEq ι]
    (h : Bounded calls a l)
    (hsound : Sound calls a l)
    (hcalls : ∀ i, (calls i).Changes a.id)
    (hcounts : ∀ i, (calls i).Counts)
    (hstep : Step calls l l') :
    Bounded calls a l' := by
  cases hstep with
  | @look i answer hi heffect =>
      have hnew : i ∉ l.order := hsound.not_mem_order (by simp [hi])
      have hshare := Turn.share_eq_zero_of_effect_none (hcalls i) heffect
      rw [h.tenant] at hshare
      constructor
      · exact h.tenant
      · exact h.ordinary
      · rw [told, sum_settled hnew, hshare, Int.add_zero]
        exact h.trails.mono lostSave_concat_load.mp
      · intro k answer' seen next hk
        exact h.seenTenant k answer' seen next (saving_of_settled hk)
      · intro k answer' seen next hk
        exact h.seenOrdinary k answer' seen next (saving_of_settled hk)
      · intro k answer' seen next hk
        rw [told, sum_settled hnew, hshare, Int.add_zero, stale_concat_load,
          lostSave_concat_load]
        exact h.seenTrails k answer' seen next (saving_of_settled hk)
  | @load i answer next hi heffect =>
      have hnew : i ∉ l.order := hsound.not_mem_order (by simp [hi])
      constructor
      · exact h.tenant
      · exact h.ordinary
      · rw [told, sum_update hnew]
        exact h.trails.mono lostSave_concat_load.mp
      · intro k answer' seen next' hk
        rcases saving_of_update hk with ⟨-, -, rfl, -⟩ | hk
        · exact h.tenant
        · exact h.seenTenant k answer' seen next' hk
      · intro k answer' seen next' hk
        rcases saving_of_update hk with ⟨-, -, rfl, -⟩ | hk
        · exact h.ordinary
        · exact h.seenOrdinary k answer' seen next' hk
      · intro k answer' seen next' hk
        rw [told, sum_update hnew, stale_concat_load, lostSave_concat_load]
        rcases saving_of_update hk with ⟨rfl, -, rfl, -⟩ | hk
        · refine h.trails.mono fun hlost => hlost.resolve_left fun ⟨_, _, hstale⟩ => ?_
          exact hsound.fresh k hi .load (hstale.subset List.mem_cons_self)
        · exact h.seenTrails k answer' seen next' hk
  | @save i answer seen next hi =>
      have hnew : i ∉ l.order := hsound.not_mem_order (by simp [hi])
      have heffect := hsound.effect i answer seen next hi
      have hseen := h.seenTrails i answer seen next hi
      obtain ⟨hordinary, htally, hpos⟩ :=
        Turn.tally_of_effect_some (hcalls i) (hcounts i) (h.seenOrdinary i answer seen next hi)
          heffect
      have htenant : next.tenant = a.tenant :=
        (Turn.identity_of_effect_some (hcalls i) heffect).2.trans
          (h.seenTenant i answer seen next hi)
      rw [h.seenTenant i answer seen next hi] at htally hpos
      constructor
      · exact htenant
      · exact hordinary
      · change next.Trails (LostSave (l.log ++ [(i, .save)])) _
        rw [told, sum_settled hnew, lostSave_concat_save]
        refine ⟨?_, fun hlost => ?_⟩
        · have := hseen.1
          omega
        · have := hseen.2 hlost.symm
          omega
      · intro k answer' seen' next' hk
        exact h.seenTenant k answer' seen' next' (saving_of_settled hk)
      · intro k answer' seen' next' hk
        exact h.seenOrdinary k answer' seen' next' (saving_of_settled hk)
      · intro k answer' seen' next' hk
        rw [told, sum_settled hnew]
        exact (h.seenTrails k answer' seen' next' (saving_of_settled hk)).grow (by omega)

end Bounded
end Ledger

end

end TelemetryAlerts
