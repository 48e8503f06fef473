import TelemetryAlerts.Proofs.Worker.Settling

/-!
# Evaluations under a lock

What keeps evaluations apart at one store is the lock of the rule and the device. As long as
a task holds it, nobody else changes an alert that is guarded by it, so what was found of the
alert stays true until the task changes it. An alert of a rule that confuses devices, or
tenants, is guarded by no lock; of such an alert a task knows no more than that it is still
there. Alerts that no evaluation of the rule for the device can find are left alone.

**Results.**
* `Patrol.safe_underLock`: an evaluation keeps to the terms on which tasks share a store, and
  leaves alone what it is to leave alone.
* `Watch.steady`: so do workers that have no alerts of their own.
* `Going.continues`: what the moves of such workers keep up holds over a whole run.
-/

namespace TelemetryAlerts

open Program (Safe)

section

variable {σ ι : Type} {e : Setting σ} {d : Accord ι} {i j : ι} {r : Rule} {device : String}
  {mine : Alert → Bool} {q : List Alert} {again : Bool} {byHand : Prop} {as os : List Alert}
  {ts : List Moment} {ids : List String}
  {a b : Alert} {w w' : Clocked σ ι} {v v' : List Alert} {x y : Clocked σ ι × List Alert}
  {now t : Moment}

/-- An alert is safe from other tasks under the lock of its rule and device. -/
abbrev Exclusive (e : Setting σ) (d : Accord ι) (a : Alert) : Prop :=
  e.alone ∨ d.guarded a.rule

/-- What a task needs that evaluates a rule for a device under the lock of both: the alerts that
it may change are no other task's, and it leaves some alerts of its own alone. -/
structure Patrol
    (e : Setting σ) (d : Accord ι) (i : ι) (mine : Alert → Bool) (r : Rule) (device : String) :
    Prop where
  upheld : d.Upheld
  rule : d.rules r
  raises : ∀ now, e.replies .now now → d.raises r device now
  tells : TellsOrigin mine
  owns : ∀ a, mine a = true → d.owns i a
  spares : ∀ {readings a}, d.known readings a → a.rule = r.id →
    e.keeping.alike a.tenant a.device r.tenant device = true →
      mine a = false ∧ ∀ j, j ≠ i → ¬ d.owns j a
  /-- The clock showed when an alert changed last. -/
  updated : ∀ {readings a}, d.known readings a → Exclusive e d a → a.updatedAt ∈ readings
  /-- A rule whose alerts are guarded does not confuse devices. -/
  device : ∀ {readings a}, d.known readings a → a.rule = r.id → d.guarded a.rule →
    e.keeping.alike a.tenant a.device r.tenant device = true → a.device = device

/-- What a task knows under the lock of a rule and a device. -/
structure Guard
    (e : Setting σ) (d : Accord ι) (i : ι) (mine : Alert → Bool) (q : List Alert)
    (r : Rule) (device : String) (as os : List Alert) (ts : List Moment) (ids : List String)
    (x : Clocked σ ι × List Alert) : Prop where
  good : Good e d x
  holder : x.1.holder r.id device = some i
  /-- The alerts that are left alone. -/
  lens : x.2.filter mine = q
  readings : ∀ t ∈ ts, t ∈ x.1.readings
  drawn : ∀ id ∈ ids, x.1.drawer id = some i ∧ id ∉ x.2.map Alert.id
  /-- These alerts are as they were found. -/
  exact : ∀ a ∈ as, Exclusive e d a → a ∈ x.2
  /-- These alerts may have changed. -/
  origins : ∀ a ∈ os, ∃ b ∈ x.2, b.origin = a.origin
  rule : ∀ a ∈ os, a.rule = r.id
  device : ∀ a ∈ os, d.guarded a.rule → a.device = device
  spared : ∀ a ∈ os, mine a = false ∧ ∀ j, j ≠ i → ¬ d.owns j a
  found : as ⊆ os
  /-- The clock was read after the alerts were found. -/
  current : ∀ a ∈ as, Exclusive e d a → ∀ t ∈ ts, Ascending x.1.readings →
    t.IsNoEarlier a.updatedAt

/-- No task but the one that holds the lock has a hold on the alert. -/
theorem Guard.free
    (hd : d.Upheld)
    (hx : Guard e d i mine q r device as os ts ids x)
    (halone : e.alone → ∀ rule device j, x.1.holder rule device = some j → j = i)
    (ha : a ∈ os)
    (horigin : b.origin = a.origin) :
    ∀ j, j ≠ i → ¬ Territory e d j x.1 b := by
  obtain ⟨-, -, hrule, hdevice, -⟩ := Alert.origin_eq_iff.mp horigin
  rintro j hj (howns | ⟨he, rule, device', hholder⟩ | ⟨hguarded, hholder⟩)
  · exact (hx.spared a ha).2 j hj (hd.owns horigin howns)
  · exact hj (halone he rule device' j hholder)
  · rw [hrule] at hguarded
    rw [hrule, hdevice, hx.rule a ha, hx.device a ha hguarded, hx.holder] at hholder
    exact hj (Option.some.inj hholder).symm

/-- What a task forgets it need not have known. -/
theorem Guard.forget
    (hx : Guard e d i mine q r device as os ts ids x) :
    Guard e d i mine q r device [] [] [] [] x :=
  ⟨hx.good, hx.holder, hx.lens, by simp, by simp, by simp, by simp, by simp, by simp, by simp,
    by simp, by simp⟩

/-- Of the alerts that it found a task may remember no more than that they are there. -/
theorem Guard.forgetTimes
    (hx : Guard e d i mine q r device as os ts ids x) :
    Guard e d i mine q r device [] os [] [] x :=
  ⟨hx.good, hx.holder, hx.lens, by simp, by simp, by simp, hx.origins, hx.rule, hx.device,
    hx.spared, by simp, by simp⟩

theorem Guard.territory
    (hx : Guard e d i mine q r device as os ts ids x)
    (ha : a ∈ as)
    (hexclusive : Exclusive e d a) :
    Territory e d i x.1 a := by
  rcases hexclusive with halone | hguarded
  · exact Or.inr (Or.inl ⟨halone, r.id, device, hx.holder⟩)
  · refine Or.inr (Or.inr ⟨hguarded, ?_⟩)
    rw [hx.rule a (hx.found ha), hx.device a (hx.found ha) hguarded]
    exact hx.holder

theorem Ascending.earlier
    {readings later : List Moment}
    (h : Ascending later)
    (hearlier : readings <+: later) :
    Ascending readings :=
  h.sublist hearlier.sublist

/-- A change of what tasks share that leaves the alerts keeps what a task knows. -/
theorem Guard.move
    (hx : Guard e d i mine q r device as os ts ids (w, v))
    (hgood : Good e d (w', v))
    (hholder : w'.holder r.id device = some i)
    (hreadings : w.readings <+: w'.readings)
    (hdrawer : ∀ id ∈ ids, w'.drawer id = some i) :
    Guard e d i mine q r device as os ts ids (w', v) where
  good := hgood
  holder := hholder
  lens := hx.lens
  readings t ht := hreadings.subset (hx.readings t ht)
  drawn id hid := ⟨hdrawer id hid, (hx.drawn id hid).2⟩
  exact := hx.exact
  origins := hx.origins
  rule := hx.rule
  device := hx.device
  spared := hx.spared
  found := hx.found
  current a ha hexclusive t ht hascending :=
    hx.current a ha hexclusive t ht (hascending.earlier hreadings)

variable [DecidableEq ι]

namespace Patrol

variable (h : Patrol e d i mine r device)
include h

theorem stable :
    (terms e d i).Stable (Guard e d i mine q r device as os ts ids) := by
  intro x y hrely hx
  obtain ⟨hgood, hleaves⟩ := hrely hx.good
  refine ⟨hgood, hleaves.holder _ _ hx.holder, ?_,
    fun t ht => hleaves.readings.subset (hx.readings t ht), fun id hid => ?_,
    fun a ha hexclusive => ?_, fun a ha => ?_, hx.rule, hx.device, hx.spared, hx.found,
    fun a ha hexclusive t ht hascending => ?_⟩
  · rw [hleaves.territory mine h.tells fun a ha => Or.inl (h.owns a ha), hx.lens]
  · obtain ⟨hdrawer, hunused⟩ := hx.drawn id hid
    exact ⟨hleaves.drawer id hdrawer, hleaves.unused id hdrawer hunused⟩
  · exact hleaves.mem h.upheld (hx.exact a ha hexclusive) (hx.territory ha hexclusive)
  · obtain ⟨b, hb, hba⟩ := hx.origins a ha
    obtain ⟨c, hc, hcb⟩ := hleaves.origins b hb
    exact ⟨c, hc, hcb.trans hba⟩
  · exact hx.current a ha hexclusive t ht (hascending.earlier hleaves.readings)

theorem stable_and
    (A : Prop) :
    (terms e d i).Stable fun x => Guard e d i mine q r device as os ts ids x ∧ A :=
  fun x y hrely hx => ⟨h.stable x y hrely hx.1, hx.2⟩

theorem calm
    (byHand : Prop) :
    Worker.Calm (e.Unfolds byHand i) (terms e d i) (Guard e d i mine q r device as os ts ids) where
  stable := h.stable
  plain c x reply y hc hx hcall := by
    obtain ⟨hguarantee, haside, hholder, hlist⟩ := guarantee_of_plain h.upheld hcall hc
    rcases x with ⟨w, v⟩
    rcases y with ⟨w', v'⟩
    obtain rfl : v' = v := hlist
    refine ⟨hguarantee, hx.move (hguarantee hx.good).1.1 ?_ haside.readings_grow
      fun id hid => ?_⟩
    · rw [show w'.holder = w.holder from hholder]
      exact hx.holder
    · rw [haside.drawer id (by rw [(hx.drawn id hid).1]; simp)]
      exact (hx.drawn id hid).1

/-- A request that changes nothing leaves what a task knows. -/
theorem guard_serve
    {s : σ}
    (hx : Guard e d i mine q r device as os ts ids (w, v))
    (now : Moment) (req : Request) (o : Outcome req.Reply)
    (hshows : e.keeping.shows s v)
    (hmark : (⟨w.store, req, o⟩ : Exchange σ).mark? = none) :
    (terms e d i).guarantee (w, v) (w.serve now req o s, v) ∧
      Guard e d i mine q r device as os ts ids (w.serve now req o s, v) := by
  have hguarantee : (terms e d i).guarantee (w, v) (w.serve now req o s, v) :=
    guarantee_same h.upheld hshows hmark
  exact ⟨hguarantee, hx.move (hguarantee hx.good).1.1 hx.holder (List.prefix_append _ _)
    fun id hid => (hx.drawn id hid).1⟩

omit [DecidableEq ι] in
/-- After a change of an alert that the task found, all of them are still there. -/
theorem guard_put
    (hx : Guard e d i mine q r device as os ts ids (w, v))
    (ha : a ∈ os)
    (hb : b ∈ v)
    (horigin : b.origin = a.origin)
    (c : Change)
    (hgood : Good e d (w', Memory.put (c.apply b) v))
    (hholder : w'.holder r.id device = some i) :
    Guard e d i mine q r device [] os [] [] (w', Memory.put (c.apply b) v) := by
  have hids := e.keeping.nodup hx.good.shown
  refine ⟨hgood, hholder, ?_, by simp, by simp, by simp, fun a₁ ha₁ => ?_, hx.rule, hx.device,
    hx.spared, by simp, by simp⟩
  · have hother : mine b = false := (h.tells _ _ horigin).trans (hx.spared a ha).1
    rw [Memory.filter_put hids hb (c.id_apply b) (h.tells _ _ (c.origin_apply b)),
      if_neg (by simp [hother])]
    exact hx.lens
  · obtain ⟨b₁, hb₁, horigin₁⟩ := hx.origins a₁ ha₁
    have hmem : b₁.origin ∈ (Memory.put (c.apply b) v).map Alert.origin := by
      rw [Memory.map_put Alert.origin hids hb (c.id_apply b) (c.origin_apply b)]
      exact List.mem_map_of_mem hb₁
    obtain ⟨b₂, hb₂, horigin₂⟩ := List.mem_map.mp hmem
    exact ⟨b₂, hb₂, horigin₂.trans horigin₁⟩

/-- A change is made of an alert that the task found. -/
theorem safe_change
    {req : Request} {c : Moment → Change}
    (hc : ∀ now, req.change? now = some (c now))
    (ha : a ∈ os)
    (hid : ∀ now, a.id = (c now).id)
    (htenant : ∀ now, a.tenant = (c now).tenant)
    (hat : ∀ id tenant at_, req = .markEscalated id tenant at_ →
      at_ ∈ ts ∧ (∀ now b, (c now).may b = true) ∧ a ∈ as ∧ (Exclusive e d a → ∀ readings,
        (Ascending readings → at_.IsNoEarlier a.updatedAt) → Due d readings a at_)) :
    Safe (e.Unfolds byHand i) (terms e d i) (Guard e d i mine q r device as os ts ids)
      (WorkerAction.store req) fun _ => Guard e d i mine q r device [] os [] [] := by
  refine safe_request h.stable (fun _ => h.stable)
    (fun x hx => ⟨hx.good.shown, Manner.takes_of_change? (hc .epoch)⟩)
    (fun _ x hx => hx.forgetTimes) ?_
  intro now s o w v v' hx hnow hshows hanswers halone _
  have hids := e.keeping.nodup hx.good.shown
  obtain ⟨a', ha', horigin⟩ := hx.origins a ha
  obtain ⟨hid', htenant', hrule', hdevice', -⟩ := Alert.origin_eq_iff.mp horigin
  rcases hanswers.changes (hc now) with
    ⟨b, hb, ⟨hidb, -, hmay⟩, hread, hok, rfl⟩ | ⟨rfl, hnone⟩
  · obtain rfl : b = a' :=
      List.inj_on_of_nodup_map hids hb ha' (hidb.trans ((hid now).symm.trans hid'.symm))
    have hguarantee : (terms e d i).guarantee (w, v)
        (w.serve now req o s, Memory.put ((c now).apply b) v) := by
      refine guarantee_put h.upheld hids hshows hb hidb hmay (hc now) hread hok
        (fun id tenant at_ hreq => hx.readings _ (hat id tenant at_ hreq).1)
        (fun id tenant at_ hreq hexclusive => ?_) (hx.free h.upheld halone ha horigin)
      obtain ⟨hin, -, has, hdue⟩ := hat id tenant at_ hreq
      have hexact : Exclusive e d a := by
        rw [Exclusive, ← hrule']
        exact hexclusive
      obtain rfl : b = a := List.inj_on_of_nodup_map hids hb (hx.exact a has hexact) hid'
      exact hdue hexact _ (hx.current b has hexact at_ hin)
    exact ⟨hguarantee, h.guard_put hx ha hb horigin (c now) (hguarantee hx.good).1.1 hx.holder⟩
  · have hmark : (⟨w.store, req, o⟩ : Exchange σ).mark? = none := by
      cases req with
      | markEscalated id tenant at_ =>
          obtain ⟨-, hmay, -⟩ := hat id tenant at_ rfl
          obtain ⟨f, -, rfl⟩ := hnone a' ha' (hid'.trans (hid now)) (htenant'.trans (htenant now))
            (hmay now a')
          exact mark?_error
      | _ =>
          rfl
    obtain ⟨hguarantee, hy⟩ := h.guard_serve hx now req o hshows hmark
    exact ⟨hguarantee, hy.forgetTimes⟩

/-! ### The parts of an evaluation -/

theorem safe_recordDelivered
    (ha : a ∈ os)
    (hid : a.id = b.id)
    (htenant : a.tenant = b.tenant)
    (report : Report) :
    Safe (e.Unfolds byHand i) (terms e d i) (Guard e d i mine q r device as os ts ids)
      (Worker.recordDelivered b report) fun _ => Guard e d i mine q r device [] [] [] [] := by
  unfold Worker.recordDelivered
  split_ifs
  · exact .pure h.stable fun x hx => hx.forget
  · exact (h.safe_change (fun _ => rfl) ha (fun _ => hid) (fun _ => htenant) (by simp)).weaken
      (fun _ hx => hx) fun _ _ hx => hx.forget

/-- A new alert is stored, unless there is an open one. -/
theorem safe_create
    {snapshot : Snapshot} {id : String}
    (hadmits : e.keeping.admits (Worker.raisedAlert id r device snapshot now))
    (hraises : d.raises r device now)
    (hnow : now ∈ ts)
    (hid : id ∈ ids) :
    Safe (e.Unfolds byHand i) (terms e d i) (Guard e d i mine q r device as os ts ids)
      (WorkerAction.store (.create (Worker.raisedAlert id r device snapshot now)))
      (After (fun _ => Guard e d i mine q r device [] [Worker.raisedAlert id r device snapshot now] [] [])
        fun _ => Guard e d i mine q r device [] [] [] []) := by
  let a := Worker.raisedAlert id r device snapshot now
  refine safe_request h.stable (stable_after (fun _ => h.stable) fun _ => h.stable)
    (fun x hx => ⟨hx.good.shown, (hx.drawn id hid).2, rfl, hadmits⟩)
    (fun _ x hx => hx.forget) ?_
  intro t s o w v v' hx ht hshows hanswers halone _
  obtain ⟨hdrawn, hnew⟩ := hx.drawn id hid
  change if e.keeping.taken v r.id device then _ else _ at hanswers
  split_ifs at hanswers
  · obtain ⟨rfl, rfl⟩ := hanswers
    obtain ⟨hguarantee, hy⟩ := h.guard_serve hx t (.create a)
      (.error (.openAlertExists r.id device)) hshows rfl
    exact ⟨hguarantee, hy.forget⟩
  · obtain ⟨rfl, rfl⟩ := hanswers
    have hspared : mine a = false ∧ ∀ j, j ≠ i → ¬ d.owns j a :=
      h.spares (h.upheld.raised h.rule hraises (hx.readings now hnow)) rfl
        (e.keeping.alike_refl r.tenant device)
    have hguarantee : (terms e d i).guarantee (w, v)
        (w.serve t (.create a) (.ok ()) s, v ++ [a]) := by
      refine guarantee_append h.upheld hshows h.rule hraises (hx.readings now hnow) hdrawn hnew ?_
      rintro j hj (howns | ⟨he, rule, device', hholder⟩ | ⟨-, hholder⟩)
      · exact hspared.2 j hj howns
      · exact hj (halone he rule device' j hholder)
      · exact hj (Option.some.inj (hholder.symm.trans hx.holder))
    refine ⟨hguarantee, (hguarantee hx.good).1.1, hx.holder, ?_, by simp, by simp, by simp,
      fun b hb => ⟨b, List.mem_append_right _ hb, rfl⟩, fun b hb => ?_, fun b hb _ => ?_,
      fun b hb => ?_, by simp, by simp⟩
    · rw [List.filter_append, List.filter_cons_of_neg (ne_true_of_eq_false hspared.1), List.filter_nil,
        List.append_nil]
      exact hx.lens
    · rw [List.mem_singleton.mp hb]
      rfl
    · rw [List.mem_singleton.mp hb]
      rfl
    · rw [List.mem_singleton.mp hb]
      exact hspared

theorem safe_trigger
    {snapshot : Snapshot}
    (hadmits : ∀ id now, e.keeping.admits (Worker.raisedAlert id r device snapshot now))
    (hraises : d.raises r device now)
    (hnow : now ∈ ts) :
    Safe (e.Unfolds byHand i) (terms e d i) (Guard e d i mine q r device as os ts ids)
      (Worker.trigger r device snapshot now) fun _ => Guard e d i mine q r device [] [] [] [] := by
  refine safe_ask (Q := fun id => Guard e d i mine q r device as os ts (id :: ids)) h.stable
    (fun _ => h.stable) (fun x id y hx hcall => ?_) fun id => ?_
  · obtain ⟨⟨-, hfresh, hnew, hw⟩, hlist⟩ := hcall
    rcases x with ⟨w, v⟩
    rcases y with ⟨w', v'⟩
    obtain rfl : w' = _ := hw
    obtain rfl : v' = v := hlist
    have haside : Aside i w { w with toScene := w.toScene.draw id i } := .draw hnew
    have hy := hx.move (hx.good.aside h.upheld haside) hx.holder List.prefix_rfl fun id' hid' =>
      (haside.drawer id' (by rw [(hx.drawn id' hid').1]; simp)).trans (hx.drawn id' hid').1
    refine ⟨guarantee_aside h.upheld haside, { hy with drawn := fun id' hid' => ?_ }⟩
    rcases List.mem_cons.mp hid' with rfl | hid'
    · refine ⟨Function.update_self _ _ _, fun hmem => ?_⟩
      obtain ⟨a, ha, rfl⟩ := List.mem_map.mp hmem
      exact hx.good.drawn a ha hfresh hnew
    · exact hy.drawn id' hid'
  · refine .bind (h.safe_create (hadmits id now) hraises hnow (by simp)) (fun _ => ?_)
      fun _ _ hx => hx
    refine .bind ((h.calm byHand).count .alertsTriggered) (fun _ => ?_) fun _ _ hx => hx.forget
    refine .bind ((h.calm byHand).ask rfl) (fun report => ?_) fun _ _ hx => hx.forget
    exact h.safe_recordDelivered (by simp) rfl rfl report

/-- The alert that is read is one that the task found. -/
theorem safe_resolve
    (ha : a ∈ os)
    (hread : e.keeping.reading a = .ok b) :
    Safe (e.Unfolds byHand i) (terms e d i) (Guard e d i mine q r device as os ts ids)
      (Worker.resolve b) fun _ => Guard e d i mine q r device [] [] [] [] := by
  have houtline := e.keeping.outline_reading hread
  refine .bind (h.safe_change (fun _ => rfl) ha (fun _ => (congrArg Alert.id houtline :).symm)
    (fun _ => (congrArg Alert.tenant houtline :).symm) (by simp)) (fun resolved => ?_)
    fun _ _ hx => hx.forget
  split_ifs
  · exact ((h.calm byHand).count .alertsResolved).weaken (fun _ hx => hx) fun _ _ hx => hx.forget
  · exact .pure h.stable fun _ hx => hx.forget

theorem safe_escalate
    (ha : a ∈ as)
    (hread : e.keeping.reading a = .ok b)
    (hnow : now ∈ ts)
    (hdue : ∀ readings, (Ascending readings → now.IsNoEarlier a.updatedAt) → Due d readings a now) :
    Safe (e.Unfolds byHand i) (terms e d i) (Guard e d i mine q r device as as ts ids)
      (Worker.escalate b r now) fun _ => Guard e d i mine q r device [] [] [] [] := by
  have houtline := e.keeping.outline_reading hread
  have hid : a.id = b.id := (congrArg Alert.id houtline :).symm
  have htenant : a.tenant = b.tenant := (congrArg Alert.tenant houtline :).symm
  refine .bind ((h.calm byHand).ask rfl) (fun report => ?_) fun _ _ hx => hx.forget
  refine .bind (h.safe_change (c := fun _ => .markEscalated b.id b.tenant now) (fun _ => rfl) ha
    (fun _ => hid) (fun _ => htenant) fun id tenant at_ hreq => ?_) (fun _ => ?_)
    fun _ _ hx => hx.forget
  · cases hreq
    exact ⟨hnow, fun _ _ => rfl, ha, fun _ => hdue⟩
  · refine .bind ((h.calm byHand).count .escalations) (fun _ => ?_) fun _ _ hx => hx.forget
    exact h.safe_recordDelivered ha hid htenant report

omit [DecidableEq ι] in
/-- An escalation that is decided on is due. -/
theorem due_of_choose
    {fires : Bool} {last? : Option Alert} {readings : List Moment}
    (hchoose : Transition.choose (some b) fires last? r now again = .ok .escalate)
    (honce : d.once → again = false)
    (hrule : a.rule = r.id)
    (hread : e.keeping.reading a = .ok b)
    (hcurrent : Ascending readings → now.IsNoEarlier a.updatedAt) :
    Due d readings a now := by
  obtain ⟨b, escalation, hb, hescalation, hactive, hfirst, hlater⟩ := choose_eq_escalate hchoose
  cases hb
  have houtline := e.keeping.outline_reading hread
  have hstatus : b.status = a.status := (congrArg Alert.status houtline :)
  have hlast : b.lastEscalatedAt? = a.lastEscalatedAt? :=
    (congrArg Alert.lastEscalatedAt? houtline :)
  have htriggered : b.triggeredAt = a.triggeredAt := (congrArg Alert.triggeredAt houtline :)
  rw [hlast, htriggered] at hlater
  exact {
    active := hstatus ▸ hactive
    rule := ⟨r, escalation, h.rule, hrule.symm, hescalation, hlater⟩
    first := fun hd => by
      rw [← hlast]
      exact hfirst (honce hd)
    current := hcurrent }

/-- What is decided on is done. -/
theorem safe_decide
    {snapshot : Snapshot} {open? last? : Option Alert}
    (honce : d.once → again = false)
    (hadmits : ∀ id now, e.keeping.admits (Worker.raisedAlert id r device snapshot now))
    (hopen : ∀ b, open? = some b → ∃ a ∈ as, a.rule = r.id ∧ e.keeping.reading a = .ok b)
    (hraises : d.raises r device now)
    (hnow : now ∈ ts) :
    Safe (e.Unfolds byHand i) (terms e d i) (Guard e d i mine q r device as as ts [])
      (do
        let t ← (liftM (timed (Transition.choose open? (r.fires snapshot) last? r now again)) :
          WorkerAction Transition)
        Worker.apply t open? r device snapshot now
        pure t)
      fun _ => Guard e d i mine q r device [] [] [] [] := by
  cases hchoose : Transition.choose open? (r.fires snapshot) last? r now again with
  | error fault =>
      exact .lift h.stable fun x hx => hx.forget
  | ok t =>
      change Safe _ _ _ (Worker.apply t open? r device snapshot now >>= fun _ => pure t) _
      refine .bind (R := fun _ => Guard e d i mine q r device [] [] [] []) ?_
        (fun _ => .pure h.stable fun x hx => hx) fun _ _ hx => hx
      have hdone : Safe (e.Unfolds byHand i) (terms e d i) (Guard e d i mine q r device as as ts [])
          (pure ()) fun _ => Guard e d i mine q r device [] [] [] [] :=
        .pure h.stable fun x hx => hx.forget
      cases t with
      | trigger =>
          exact h.safe_trigger hadmits hraises hnow
      | suppress =>
          exact ((h.calm byHand).count .alertsSuppressed).weaken (fun _ hx => hx)
            fun _ _ hx => hx.forget
      | resolve =>
          cases open? with
          | none =>
              exact hdone
          | some b =>
              obtain ⟨a, ha, -, hread⟩ := hopen b rfl
              exact h.safe_resolve ha hread
      | escalate =>
          cases open? with
          | none =>
              exact hdone
          | some b =>
              obtain ⟨a, ha, harule, hread⟩ := hopen b rfl
              exact h.safe_escalate ha hread hnow fun readings =>
                h.due_of_choose hchoose honce harule hread
      | none =>
          exact hdone

/-- The open alerts of the device are listed. -/
theorem safe_openOn :
    Safe (e.Unfolds byHand i) (terms e d i) (Guard e d i mine q r device [] [] [] [])
      (WorkerAction.store (.openOn r.tenant device))
      fun o x => Guard e d i mine q r device [] [] [] [] x ∧ ∀ found, o = .ok found → ∀ b ∈ found,
        b.rule = r.id → ∃ a, (a.rule = r.id ∧ e.keeping.reading a = .ok b) ∧
          Guard e d i mine q r device [a] [a] [] [] x := by
  refine safe_request h.stable (fun o x y hrely hx => ⟨h.stable x y hrely hx.1, ?_⟩)
    (fun x hx => ⟨hx.good.shown, trivial⟩) (fun _ x hx => ⟨hx, nofun⟩) ?_
  · intro found hfound b hb hbrule
    obtain ⟨a, ha, hguard⟩ := hx.2 found hfound b hb hbrule
    exact ⟨a, ha, h.stable x y hrely hguard⟩
  · intro now s o w v v' hx hnow hshows hanswers _ _
    obtain ⟨rfl, l, hl, ho⟩ := hanswers
    obtain ⟨hguarantee, hy⟩ := h.guard_serve hx now (.openOn r.tenant device) o hshows rfl
    refine ⟨hguarantee, hy, fun found hfound b hb hbrule => ?_⟩
    obtain ⟨all, hall, hsorted⟩ := bind_eq_ok.mp (ho.symm.trans hfound)
    obtain ⟨a, ha, hread⟩ := (mem_of_mapM hall).mp ((mem_iff_of_newestFirst hsorted).mp hb)
    obtain ⟨hmem, hlisted⟩ := List.mem_filter.mp (hl.mem_iff.mp ha)
    have harule : a.rule = r.id :=
      ((congrArg Alert.rule (e.keeping.outline_reading hread) :) : b.rule = a.rule).symm.trans hbrule
    have halike : e.keeping.alike a.tenant a.device r.tenant device = true :=
      (Bool.and_eq_true_iff.mp hlisted).2
    refine ⟨a, ⟨harule, hread⟩, hy.good, hy.holder, hy.lens, by simp, by simp, ?_, ?_, ?_, ?_, ?_,
      by simp, by simp⟩
    · intro c hc _
      rwa [List.mem_singleton.mp hc]
    · intro c hc
      exact ⟨c, by rwa [List.mem_singleton.mp hc], rfl⟩
    · intro c hc
      rwa [List.mem_singleton.mp hc]
    · intro c hc hguarded
      rw [List.mem_singleton.mp hc] at hguarded ⊢
      exact h.device (hx.good.known a hmem) harule hguarded halike
    · intro c hc
      rw [List.mem_singleton.mp hc]
      exact h.spares (hx.good.known a hmem) harule halike

/-- The clock is read after the alerts were found. -/
theorem safe_now
    {f : Moment → WorkerAction Transition} {R : Outcome Transition → Clocked σ ι × List Alert → Prop}
    (hf : ∀ t, e.replies .now t →
      Safe (e.Unfolds byHand i) (terms e d i) (Guard e d i mine q r device as as [t] []) (f t) R) :
    Safe (e.Unfolds byHand i) (terms e d i) (Guard e d i mine q r device as as [] [])
      (WorkerAction.ask .now >>= f) R := by
  refine safe_ask
    (Q := fun t x => Guard e d i mine q r device as as [t] [] x ∧ e.replies .now t) h.stable
    (fun _ => h.stable_and _) (fun x t y hx hcall => ?_) fun t x hx => hf t hx.2 x hx.1
  obtain ⟨hguarantee, hy⟩ := (h.calm byHand).plain .now x t y rfl hx hcall
  have hread : y.1.readings = x.1.readings ++ [t] := by
    rw [show y.1 = x.1.read t from hcall.1.2.2]
    rfl
  refine ⟨hguarantee, { hy with
    readings := fun u hu => ?_
    current := fun a ha hexclusive u hu hup => ?_ }, hcall.1.2.1⟩
  · rw [List.mem_singleton.mp hu, hread]
    simp
  · rw [List.mem_singleton.mp hu]
    rw [Ascending, hread, List.pairwise_append] at hup
    exact hup.2.2 _ (h.updated (hx.good.known a (hx.exact a ha hexclusive)) hexclusive) t (by simp)

theorem safe_settle
    {snapshot : Snapshot}
    (honce : d.once → again = false)
    (hadmits : ∀ id now, e.keeping.admits (Worker.raisedAlert id r device snapshot now)) :
    Safe (e.Unfolds byHand i) (terms e d i) (Guard e d i mine q r device [] [] [] [])
      (Worker.settle again r device snapshot) fun _ => Guard e d i mine q r device [] [] [] [] := by
  have hrest (as : List Alert) {open? : Option Alert}
      (hopen : ∀ b, open? = some b → ∃ a ∈ as, a.rule = r.id ∧ e.keeping.reading a = .ok b) :
      Safe (e.Unfolds byHand i) (terms e d i) (Guard e d i mine q r device as as [] []) (do
        let now ← WorkerAction.ask .now
        let last? ←
          if open?.isNone && r.fires snapshot then WorkerAction.store (.latestOf r.id device)
          else pure none
        let t ← liftM (timed (Transition.choose open? (r.fires snapshot) last? r now again))
        Worker.apply t open? r device snapshot now
        pure t) fun _ => Guard e d i mine q r device [] [] [] [] := by
    refine h.safe_now fun now hnow => ?_
    dsimp only
    split_ifs
    · refine .bind (R := fun _ => Guard e d i mine q r device as as [now] []) ?_
        (fun last? => h.safe_decide honce hadmits hopen (h.raises now hnow) (by simp))
        fun _ _ hx => hx.forget
      refine safe_request h.stable (fun _ => h.stable) (fun x hx => ⟨hx.good.shown, trivial⟩)
        (fun _ x hx => hx) ?_
      intro t s o w v v' hx ht hshows hanswers _ _
      obtain ⟨rfl, -⟩ := hanswers
      exact h.guard_serve hx t (.latestOf r.id device) o hshows rfl
    · exact h.safe_decide honce hadmits hopen (h.raises now hnow) (by simp)
  refine .bind h.safe_openOn (fun (found : List Alert) => ?_) fun _ _ hx => hx.1
  rintro x ⟨hx, hfound⟩
  cases hfind : found.find? fun a => a.rule == r.id with
  | none =>
      exact hrest [] (by simp) x hx
  | some b =>
      obtain ⟨a, ⟨harule, hread⟩, hguard⟩ := hfound found rfl b (List.mem_of_find?_eq_some hfind)
        (by simpa using List.find?_some hfind)
      refine hrest [a] (fun c hc => ⟨a, by simp, harule, ?_⟩) x hguard
      rwa [← Option.some.inj hc]

/-! ### Whole evaluations -/

/-- What holds between evaluations: some alerts are left alone. -/
theorem stable_lens :
    (terms e d i).Stable fun x => Good e d x ∧ x.2.filter mine = q := by
  rintro x y hrely ⟨hx, hlens⟩
  obtain ⟨hgood, hleaves⟩ := hrely hx
  exact ⟨hgood, by rw [hleaves.territory mine h.tells fun a ha => Or.inl (h.owns a ha), hlens]⟩

/-- An evaluation under the lock of the rule and the device keeps to the terms. -/
theorem safe_underLock
    {snapshot : Snapshot}
    (honce : d.once → again = false)
    (hadmits : ∀ id now, e.keeping.admits (Worker.raisedAlert id r device snapshot now)) :
    Safe (e.Unfolds byHand i) (terms e d i) (fun x => Good e d x ∧ x.2.filter mine = q)
      (WorkerAction.locked r.id device (Worker.settle again r device snapshot))
      fun _ x => Good e d x ∧ x.2.filter mine = q := by
  refine Worker.safe_locked h.stable_lens (fun _ => h.stable) (fun _ => h.stable_lens)
    (fun x y hx hcall => ?_) (h.safe_settle (q := q) honce hadmits) fun o x y hx hcall => ?_
  · obtain ⟨⟨-, hfree, hw⟩, hlist⟩ := hcall
    rcases x with ⟨w, v⟩
    rcases y with ⟨w', v'⟩
    obtain rfl : w' = _ := hw
    obtain rfl : v' = v := hlist
    have haside : Aside i w { w with toScene := w.toScene.setHolder r.id device (some i) } :=
      .acquire hfree
    exact ⟨guarantee_aside h.upheld haside, hx.1.aside h.upheld haside,
      w.toScene.holder_setHolder_self .., hx.2, by simp, by simp, by simp, by simp, by simp,
      by simp, by simp, by simp, by simp⟩
  · obtain ⟨⟨-, hw⟩, hlist⟩ := hcall
    rcases x with ⟨w, v⟩
    rcases y with ⟨w', v'⟩
    obtain rfl : w' = _ := hw
    obtain rfl : v' = v := hlist
    have haside : Aside i w { w with toScene := w.toScene.setHolder r.id device none } :=
      .release hx.holder
    exact ⟨guarantee_aside h.upheld haside, hx.good.aside h.upheld haside, hx.lens⟩

end Patrol

/-! ### Whole tasks -/

/-- What tasks need that share a store and have no alerts of their own. -/
structure Watch (e : Setting σ) (d : Accord ι) : Prop where
  upheld : d.Upheld
  shared : ∀ i a, ¬ d.owns i a
  listed : ∀ tenant found, e.replies (.enabledRules tenant) (.ok found) → ∀ r ∈ found, d.rules r
  raises : ∀ r device now, d.rules r → d.raises r device now
  admits : ∀ r device snapshot id now, e.replies (.telemetry device r.tenant) (.ok snapshot) →
    e.keeping.admits (Worker.raisedAlert id r device snapshot now)
  updated : ∀ {readings a}, d.known readings a → a.updatedAt ∈ readings
  device : ∀ {readings a r device}, d.known readings a → d.rules r → a.rule = r.id →
    d.guarded a.rule → e.keeping.alike a.tenant a.device r.tenant device = true →
      a.device = device

namespace Watch

variable (h : Watch e d)
include h

omit [DecidableEq ι] in
/-- Every evaluation of a rule that there can be is one of those. -/
theorem patrol
    (hrule : d.rules r) :
    Patrol e d i (fun _ => false) r device where
  upheld := h.upheld
  rule := hrule
  raises now _ := h.raises r device now hrule
  tells _ _ _ := rfl
  owns := by simp
  spares _ _ _ := ⟨rfl, fun j _ => h.shared j _⟩
  updated hknown _ := h.updated hknown
  device hknown harule hguarded halike := h.device hknown hrule harule hguarded halike

theorem calm_good
    (byHand : Prop) :
    Worker.Calm (e.Unfolds byHand i) (terms e d i) (Good e d) where
  stable := stable_good
  plain c x reply y hc hx hcall := by
    have hguarantee := (guarantee_of_plain h.upheld hcall hc).1
    exact ⟨hguarantee, (hguarantee hx).1.1⟩

/-- An evaluation of a rule for a device keeps to the terms. -/
theorem safe_evaluateDevice
    (hrule : d.rules r)
    (honce : d.once → again = false) :
    Safe (e.Unfolds byHand i) (terms e d i) (Good e d) (Worker.evaluateDevice again r device)
      fun _ => Good e d := by
  have hfetched (o : Outcome Snapshot) : (terms e d i).Stable fun x => Good e d x ∧
      e.replies (.telemetry device r.tenant) o :=
    fun x y hrely hx => ⟨stable_good x y hrely hx.1, hx.2⟩
  refine .bind (R := fun o x => Good e d x ∧ ∀ snapshot, o = .ok snapshot → snapshot ≠ [] →
      e.replies (.telemetry device r.tenant) (.ok snapshot)) ?_ (fun snapshot => ?_)
    fun _ _ hx => hx.1
  · refine safe_ask stable_good hfetched (fun x reply y hx hcall => ?_) fun reply => ?_
    · obtain ⟨hguarantee, hy⟩ :=
        (h.calm_good byHand).plain (.telemetry device r.tenant) x reply y rfl hx hcall
      exact ⟨hguarantee, hy, hcall.1.2.1⟩
    · cases reply with
      | ok snapshot =>
          refine .pure (hfetched _) fun x hx => ⟨hx.1, fun s hs _ => ?_⟩
          rw [← Except.ok.inj hs]
          exact hx.2
      | error f =>
          refine .pure (hfetched _) fun x hx => ⟨hx.1, fun s hs hsome => ?_⟩
          exact absurd (Except.ok.inj hs).symm hsome
  · rintro x ⟨hx, hreply⟩
    refine (?_ : Safe _ _ (Good e d) _ _) x hx
    split_ifs with hempty
    · exact (h.calm_good byHand).pure _
    · have hsnapshot := hreply snapshot rfl (by simpa using hempty)
      exact ((h.patrol hrule).safe_underLock (q := []) honce fun id now =>
        h.admits r device snapshot id now hsnapshot).weaken
          (fun x hx => ⟨hx, List.filter_eq_nil_iff.mpr (by simp)⟩) fun _ _ hx => hx.1

/-- What is known between evaluations is kept up by every worker. -/
theorem steady
    (honce : d.once → again = false) :
    Worker.Steady (e.Unfolds byHand i) (terms e d i) d.rules again (Good e d) where
  toRounds := (h.calm_good byHand).rounds
  listed tenant _ found _ _ hcall := h.listed tenant found hcall.1.2.1
  device _ _ hrule := h.safe_evaluateDevice hrule honce

/-- A request by hand, while nobody holds a lock, keeps to the terms. -/
theorem safe_byHand
    (req : Request) {c : Moment → Change}
    (hc : ∀ now, req.change? now = some (c now))
    (hmark : ∀ id tenant at_, req ≠ .markEscalated id tenant at_) :
    Safe (e.Unfolds True i) (terms e d i) (Good e d) (WorkerAction.store req)
      fun _ => Good e d := by
  refine safe_request stable_good (fun _ => stable_good)
    (fun x hx => ⟨hx.shown, Manner.takes_of_change? (hc .epoch)⟩) (fun _ x hx => hx) ?_
  intro now s o w v v' hx hnow hshows hanswers _ hquiet
  have hids := e.keeping.nodup hx.shown
  have hfree (a : Alert) (j : ι) : ¬ Territory e d j w a := by
    rintro (howns | ⟨-, rule, device, hholder⟩ | ⟨-, hholder⟩)
    · exact h.shared j a howns
    · rw [hquiet trivial rule device] at hholder
      cases hholder
    · rw [hquiet trivial a.rule a.device] at hholder
      cases hholder
  have hguarantee : (terms e d i).guarantee (w, v) (w.serve now req o s, v') := by
    rcases hanswers.changes (hc now) with ⟨a, ha, ⟨hid, -, hmay⟩, hread, hok, rfl⟩ | ⟨rfl, -⟩
    · exact guarantee_put h.upheld hids hshows ha hid hmay (hc now) hread hok
        (fun id tenant at_ hreq => absurd hreq (hmark id tenant at_))
        (fun id tenant at_ hreq => absurd hreq (hmark id tenant at_)) fun j _ => hfree a j
    · refine guarantee_same h.upheld hshows ?_
      cases req with
      | markEscalated id tenant at_ =>
          exact absurd rfl (hmark id tenant at_)
      | _ =>
          rfl
  exact ⟨hguarantee, (hguarantee hx).1.1⟩

theorem safe_task
    {task : Task}
    (hrule : ∀ r ∈ task.rule?, d.rules r)
    (honce : d.once → task.again = false) :
    Safe (e.Unfolds (task.request?.isSome = true) i) (terms e d i) (Good e d) task.action
      fun _ => Good e d := by
  refine Task.safe (h.steady honce) hrule fun req hreq => ?_
  cases task with
  | acknowledge id tenant who? notes? =>
      cases hreq
      simpa [Task.request?] using
        h.safe_byHand (i := i) (.acknowledge id tenant who? notes?) (fun _ => rfl) (by simp)
  | resolve id tenant reason? =>
      cases hreq
      simpa [Task.request?] using
        h.safe_byHand (i := i) (.resolve id tenant reason?) (fun _ => rfl) (by simp)
  | _ =>
      cases hreq

end Watch

/-! ### Runs -/

namespace Setting

/-- Tasks at work: what they share, and what each of them has left to do. -/
abbrev Crew (σ ι : Type) : Type :=
  Pool ι Call.Reply (Clocked σ ι) (Outcome Unit)

/-- Tasks before their first calls. -/
def crew (tasks : ι → Task) (s : σ) : Crew σ ι :=
  ⟨.start s, fun i => ExceptT.run (tasks i).action⟩

/-- What comes of tasks at work, after any number of their calls in any order. -/
def Continues (e : Setting σ) (tasks : ι → Task) : Crew σ ι → Crew σ ι → Prop :=
  Pool.Reaches fun i => e.Reacts ((tasks i).request?.isSome = true) i

/-- What comes of tasks that start at a store. -/
def Reaches (e : Setting σ) (tasks : ι → Task) (s : σ) (w : Crew σ ι) : Prop :=
  e.Continues tasks (crew tasks s) w

end Setting

/-- Tasks at work at a store that shows a list of alerts, each of which keeps to the terms. -/
structure Going
    (e : Setting σ) (d : Accord ι) (tasks : ι → Task) (w : Setting.Crew σ ι) (v : List Alert) :
    Prop where
  good : Good e d (w.state, v)
  abides : ∀ i, (w.rest i).Abides (e.Unfolds ((tasks i).request?.isSome = true) i) (terms e d i)
    (fun _ => Good e d) (w.state, v)

variable {tasks : ι → Task} {crew crew' : Setting.Crew σ ι}
  {F : Clocked σ ι × List Alert → Prop}

theorem Watch.going
    (h : Watch e d)
    (tasks : ι → Task) (s : σ)
    (hrules : ∀ i, ∀ r ∈ (tasks i).rule?, d.rules r)
    (honce : d.once → ∀ i, (tasks i).again = false)
    (hshows : e.keeping.shows s []) :
    Going e d tasks (Setting.crew tasks s) [] := by
  have hgood : Good e d (Clocked.start s, []) := ⟨hshows, by simp, by simp⟩
  exact ⟨hgood, fun i => h.safe_task (hrules i) (fun hd => honce hd i) _ hgood⟩

/-- What all moves keep up stays so, and the tasks go on to keep to the terms. -/
theorem Going.continues
    (h : Going e d tasks crew v)
    (hF : ∀ x y, Good e d x → Good e d y → Alters e d x y → F x → F y)
    (hstart : F (crew.state, v))
    (hcontinues : e.Continues tasks crew crew') :
    ∃ v', Going e d tasks crew' v' ∧ F (crew'.state, v') := by
  obtain ⟨v', hreaches⟩ := hcontinues.behind (fun _ _ _ _ _ v h => Setting.unfolds h v) v
  obtain ⟨⟨hgood, hF'⟩, habides⟩ := hreaches.follows h.abides hF h.good hstart
  exact ⟨v', ⟨hgood, habides⟩, hF'⟩

end
end TelemetryAlerts
