import TelemetryAlerts.Proofs.Worker.Agreement
import TelemetryAlerts.Proofs.Worker.Outlook

/-!
# One evaluation while all else stands still

The telemetry of a device, what the channels report of a rule and the time of day stay as they
are; evaluations change the store, the counters and how many ids are drawn. What one evaluation
makes of them is found from the alerts of its rule and device alone, although it looks through
all open alerts of the device, and a new alert is refused or not by a look at the whole store. The
alerts of other rules and devices are left as they are. A rule and a device may have any number
of open alerts here, and the ids of alerts need only be different.

**Results.**
* `filter_mergeSort`: sorting leaves the items of a kind as if they were sorted alone.
* `Standstill.runs_evaluateDevice`: what an evaluation comes to.
-/

namespace TelemetryAlerts

/-! ### Stable sorting -/

section

variable {α : Type} {le : α → α → Bool}
  (htrans : ∀ a b c, le a b = true → le b c = true → le a c = true)
  (htotal : ∀ a b, (le a b || le b a) = true)

include htrans htotal

/-- A further item is sorted in between those that are less and those that are not. -/
theorem mergeSort_cons_filter
    (a : α) (l : List α) :
    (a :: l).mergeSort le =
      (l.mergeSort le).filter (fun b => !le a b) ++ a :: (l.mergeSort le).filter (le a) := by
  obtain ⟨before, after, hcons, hl, hbefore⟩ := List.mergeSort_cons htrans htotal a l
  have hsorted := List.pairwise_mergeSort htrans htotal (a :: l)
  rw [hcons, List.pairwise_append] at hsorted
  have hafter (b : α) (hb : b ∈ after) : le a b = true :=
    List.rel_of_pairwise_cons hsorted.2.1 hb
  have hless : (before ++ after).filter (fun b => !le a b) = before := by
    rw [List.filter_append, List.filter_eq_self.mpr hbefore,
      List.filter_eq_nil_iff.mpr fun b hb => by simp [hafter b hb], List.append_nil]
  have hrest : (before ++ after).filter (le a) = after := by
    rw [List.filter_append, List.filter_eq_self.mpr hafter,
      List.filter_eq_nil_iff.mpr fun b hb => by simpa using hbefore b hb, List.nil_append]
  rw [hcons, hl, hless, hrest]

/-- Items of some kind are in the order in which they would be sorted alone. -/
theorem filter_mergeSort
    (keep : α → Bool) (l : List α) :
    (l.mergeSort le).filter keep = (l.filter keep).mergeSort le := by
  induction l with
  | nil =>
      simp
  | cons a l ih =>
      by_cases hkeep : keep a = true
      · rw [List.filter_cons_of_pos hkeep, mergeSort_cons_filter htrans htotal,
          mergeSort_cons_filter htrans htotal, List.filter_append, List.filter_cons_of_pos hkeep,
          List.filter_comm keep, List.filter_comm keep, ih]
      · obtain ⟨before, after, hcons, hl, -⟩ := List.mergeSort_cons htrans htotal a l
        rw [List.filter_cons_of_neg hkeep, hcons, List.filter_append,
          List.filter_cons_of_neg hkeep, ← List.filter_append, ← hl, ih]

end

/-! ### Surroundings that stand still -/

/-- Surroundings in which all stands still but the store, the counters and the number of ids
drawn. -/
structure Standstill extends Outlook where
  /-- Why the telemetry of a device of a tenant cannot be had, if it cannot. -/
  outage? : String → String → Option Failure
  /-- The ids to be drawn, in order. -/
  supply : ℕ → String

/-- What evaluations change. -/
structure Standing where
  store : Memory := {}
  drawn : ℕ := 0
  stats : Stats := {}

/-- What an evaluation of a rule for a device comes to: its outcome, the alerts of the rule and the
device afterwards, what is counted, and how many ids are drawn. -/
structure Upshot where
  outcome : Outcome Transition
  alerts : List Alert
  counted : List Counter := []
  draws : ℕ := 0

namespace Standstill

variable (x : Standstill)

/-- What the telemetry source replies. -/
def reading (device tenant : String) : Outcome Snapshot :=
  (x.outage? device tenant).elim (.ok (x.telemetry device tenant)) .error

/-- Makes a call. Nobody else is at work, so locks are free; tenants are not evaluated side by
side. -/
def handle : (c : Call) → Standing → c.Reply × Standing
  | .tenants, w => (.ok x.tenants, w)
  | .enabledRules t, w => (.ok (x.rules t), w)
  | .devicesOfType t type, w => (.ok (x.devices t type), w)
  | .telemetry device t, w => (x.reading device t, w)
  | .store r, w => ((w.store.serve x.now r).1, { w with store := (w.store.serve x.now r).2 })
  | .dispatch d, w => (x.report d.notice.rule d.notice.event, w)
  | .now, w => (x.now, w)
  | .freshId, w => (x.supply w.drawn, { w with drawn := w.drawn + 1 })
  | .count c, w => ((), { w with stats := w.stats.count c })
  | .isStopping, w => (false, w)
  | .acquire _ _, w => ((), w)
  | .release _ _, w => ((), w)
  | .together _ _ _, w => ((), w)
  | .endCycle, w =>
    ((), { w with
      stats := { w.stats with cycles := w.stats.cycles + 1, lastCycleAt? := some x.now } })
  | .sleep _, w => (false, w)

/-- Runs an action to its end. -/
def runs {α : Type} (a : WorkerAction α) (w : Standing) : Outcome α × Standing :=
  (ExceptT.run a).run x.handle w

/-! ### What an evaluation comes to -/

/-- The open alert of a rule and a device that is found among all their alerts. -/
def openIn (r : Rule) (p : List Alert) : Option Alert :=
  ((p.filter fun a => a.tenant == r.tenant && a.isOpen).mergeSort fun a b =>
    b.triggeredAt.instant ≤ a.triggeredAt.instant).head?

/-- An alert after its channels have reported. -/
def told (a : Alert) (report : Report) : Alert :=
  if report.delivered.isEmpty then a
  else a.recordNotifications report.delivered.length x.now

theorem id_told
    (a : Alert) (report : Report) :
    (x.told a report).id = a.id := by
  unfold told
  split_ifs <;> rfl

/-- What a transition makes of the alerts of a rule and a device. -/
def carryOut (r : Rule) (device : String) (s : Snapshot) (p : List Alert) (id : String) :
    Transition → Option Alert → Upshot
  | .trigger, _ =>
    if p.any Alert.isOpen then ⟨.error (.openAlertExists r.id device), p, [], 1⟩
    else
      ⟨.ok .trigger,
        p ++ [x.told (Worker.raisedAlert id r device s x.now) (x.report r .triggered)],
        [.alertsTriggered], 1⟩
  | .suppress, _ => ⟨.ok .suppress, p, [.alertsSuppressed], 0⟩
  | .resolve, some a =>
    ⟨.ok .resolve, Memory.put (a.resolve (some autoResolveReason) x.now) p, [.alertsResolved], 0⟩
  | .escalate, some a =>
    ⟨.ok .escalate, Memory.put (x.told (a.escalate x.now) (x.report r .escalated)) p,
      [.escalations], 0⟩
  | t, _ => ⟨.ok t, p, [], 0⟩

/-- What is decided about the alerts of a rule and a device. -/
def decides (again : Bool) (r : Rule) (s : Snapshot) (p : List Alert) : Outcome Transition :=
  decision (openIn r p) (r.fires s)
    (if (openIn r p).isNone && r.fires s then newest? p else .ok none) r x.now again

theorem outcome_carryOut
    (r : Rule) (device : String) (s : Snapshot) (p : List Alert) (id : String) (t : Transition)
    (open? : Option Alert) :
    ((x.carryOut r device s p id t open?).outcome.map fun _ => t) =
      (x.carryOut r device s p id t open?).outcome := by
  cases t with
  | trigger =>
      unfold carryOut
      split_ifs <;> rfl
  | _ =>
      cases open? <;> rfl

/-- What a decision makes of the alerts of a rule and a device. -/
def conclude (r : Rule) (device : String) (s : Snapshot) (p : List Alert) (id : String)
    (open? : Option Alert) : Outcome Transition → Upshot
  | .error f => ⟨.error f, p, [], 0⟩
  | .ok t => x.carryOut r device s p id t open?

/-- What telemetry makes of the alerts of a rule and a device. -/
def settled (again : Bool) (r : Rule) (device : String) (s : Snapshot) (p : List Alert)
    (id : String) : Upshot :=
  x.conclude r device s p id (openIn r p) (x.decides again r s p)

/-- What an evaluation comes to, by the alerts of its rule and device and the id drawn next. -/
def upshot (again : Bool) (r : Rule) (device : String) (p : List Alert) (id : String) : Upshot :=
  let s := Worker.snapshotOf (x.reading device r.tenant)
  if s.isEmpty then ⟨.ok .none, p, [], 0⟩ else x.settled again r device s p id

/-! ### Running actions -/

variable {x} {α β : Type} {w w' : Standing}

theorem runs_bind
    (a : WorkerAction α) (f : α → WorkerAction β) (w : Standing) :
    x.runs (a >>= f) w =
      match x.runs a w with
      | (.ok v, w') => x.runs (f v) w'
      | (.error e, w') => (.error e, w') := by
  rw [runs, Program.run_bindAction, runs]
  rcases Program.run x.handle (ExceptT.run a) w with ⟨_ | v, w'⟩ <;> rfl

theorem runs_bind_of_ok
    {a : WorkerAction α} {v : α}
    (h : x.runs a w = (.ok v, w'))
    (f : α → WorkerAction β) :
    x.runs (a >>= f) w = x.runs (f v) w' := by
  rw [runs_bind, h]

theorem runs_bind_of_error
    {a : WorkerAction α} {e : Failure}
    (h : x.runs a w = (.error e, w'))
    (f : α → WorkerAction β) :
    x.runs (a >>= f) w = (.error e, w') := by
  rw [runs_bind, h]

theorem runs_ask
    (c : Call) (w : Standing) :
    x.runs (WorkerAction.ask c) w = (.ok (x.handle c w).1, (x.handle c w).2) := rfl

theorem runs_locked
    (rule device : String) (a : WorkerAction α) (w : Standing) :
    x.runs (WorkerAction.locked rule device a) w = x.runs a w := by
  change (Program.bind (ExceptT.run a) fun o =>
    Program.call (Call.release rule device) fun _ => Program.done o).run x.handle w = _
  rw [Program.run_bind]
  rfl

end Standstill

/-! ### The alerts of a rule and a device -/

namespace Memory

variable {m : Memory} {rule device : String}

/-- The alerts of a rule and a device, in their order. -/
def about (m : Memory) (rule device : String) : List Alert :=
  m.alerts.filter fun a => a.concerns rule device

/-- All other alerts, in their order. -/
def besides (m : Memory) (rule device : String) : List Alert :=
  m.alerts.filter fun a => !a.concerns rule device

theorem mem_about
    {a : Alert} :
    a ∈ m.about rule device ↔ a ∈ m.alerts ∧ a.concerns rule device = true :=
  List.mem_filter

theorem hasOpen_eq
    (m : Memory) (rule device : String) :
    m.hasOpen rule device = (m.about rule device).any Alert.isOpen := by
  simp only [hasOpen, about, List.any_filter, Bool.and_comm]

theorem about_of_besides
    {m' : Memory} {rule' device' : String}
    (h : m'.besides rule device = m.besides rule device)
    (hother : ¬ (rule' = rule ∧ device' = device)) :
    m'.about rule' device' = m.about rule' device' := by
  have hview (m : Memory) : m.about rule' device' =
      (m.besides rule device).filter fun a => a.concerns rule' device' := by
    rw [about, besides, List.filter_filter]
    refine List.filter_congr fun a _ => ?_
    by_cases hconcerns : a.concerns rule' device' = true
    · have hfalse : a.concerns rule device = false := by
        refine Bool.eq_false_iff.mpr fun hboth => hother ?_
        simp only [Alert.concerns, Bool.and_eq_true, beq_iff_eq] at hconcerns hboth
        exact ⟨hconcerns.1.symm.trans hboth.1, hconcerns.2.symm.trans hboth.2⟩
      rw [hconcerns, hfalse]
      rfl
    · rw [Bool.eq_false_iff.mpr hconcerns]
      rfl
  rw [hview, hview, h]

end Memory

namespace Standstill

/-- Whether the store can be evaluated against: ids are different, the times of alerts have
offsets, and the ids to be drawn are not in use. -/
structure Ready (x : Standstill) (w : Standing) : Prop where
  ids : (w.store.alerts.map Alert.id).Nodup
  aware : ∀ a ∈ w.store.alerts, a.triggeredAt.isAware = true
  unused : ∀ a ∈ w.store.alerts, ∀ n, w.drawn ≤ n → a.id ≠ x.supply n

/-- Whether nothing changes from one standing to another but the alerts of a rule and a device,
the counters and the ids drawn. -/
structure Moves (x : Standstill) (rule device : String) (w : Standing) (p : List Alert)
    (counted : List Counter) (draws : ℕ) (w' : Standing) : Prop where
  ready : x.Ready w'
  about : w'.store.about rule device = p
  besides : w'.store.besides rule device = w.store.besides rule device
  stats : w'.stats = counted.foldl Stats.count w.stats
  drawn : w'.drawn = w.drawn + draws

variable {x : Standstill} {w w' w'' : Standing} {r : Rule} {rule device : String}
  {p : List Alert} {counted : List Counter} {draws : ℕ} {a : Alert}

namespace Moves

theorem refl
    (hw : x.Ready w) :
    x.Moves rule device w (w.store.about rule device) [] 0 w :=
  ⟨hw, rfl, rfl, rfl, rfl⟩

/-- An event is counted. -/
theorem count
    (h : x.Moves rule device w p counted draws w')
    (c : Counter) :
    x.Moves rule device w p (counted ++ [c]) draws (x.handle (.count c) w').2 where
  ready := ⟨h.ready.ids, h.ready.aware, h.ready.unused⟩
  about := h.about
  besides := h.besides
  stats := by rw [List.foldl_append, ← h.stats]; rfl
  drawn := h.drawn

/-- An id is drawn. -/
theorem draw
    (h : x.Moves rule device w p counted draws w') :
    x.Moves rule device w p counted (draws + 1) (x.handle .freshId w').2 where
  ready := ⟨h.ready.ids, h.ready.aware, fun a ha n hn => h.ready.unused a ha n (Nat.le_of_succ_le hn)⟩
  about := h.about
  besides := h.besides
  stats := h.stats
  drawn := by
    change w'.drawn + 1 = _
    rw [h.drawn, Nat.add_assoc]

/-- A new alert is stored if none is open. -/
theorem create
    (h : x.Moves rule device w p counted draws w')
    (hconcerns : a.concerns rule device = true)
    (haware : a.triggeredAt.isAware = true)
    (hnew : a.id ∉ w'.store.alerts.map Alert.id)
    (hunused : ∀ n, w'.drawn ≤ n → a.id ≠ x.supply n)
    (hfree : p.any Alert.isOpen = false) :
    w'.store.serve x.now (.create a) = (.ok (), w'.store.insert a) ∧
      x.Moves rule device w (p ++ [a]) counted draws { w' with store := w'.store.insert a } := by
  have hopen : w'.store.hasOpen a.rule a.device = false := by
    obtain ⟨hrule, hdevice⟩ : a.rule = rule ∧ a.device = device := by
      simpa [Alert.concerns] using hconcerns
    rw [hrule, hdevice, Memory.hasOpen_eq, h.about, hfree]
  have halerts : (w'.store.insert a).alerts = w'.store.alerts ++ [a] := Memory.put_of_new hnew
  have hmem {b : Alert} (hb : b ∈ (w'.store.insert a).alerts) : b ∈ w'.store.alerts ∨ b = a := by
    rwa [halerts, List.mem_append, List.mem_singleton] at hb
  refine ⟨by rw [Memory.serve, if_neg (by simp [hopen])], ?_⟩
  exact {
    ready := {
      ids := Memory.nodup_put h.ready.ids
      aware := fun b hb => (hmem hb).elim (h.ready.aware b) (by rintro rfl; exact haware)
      unused := fun b hb => (hmem hb).elim (h.ready.unused b) (by rintro rfl; exact hunused) }
    about := by
      rw [← h.about]
      simp [Memory.about, halerts, hconcerns]
    besides := by
      rw [← h.besides]
      simp [Memory.besides, halerts, hconcerns]
    stats := h.stats
    drawn := h.drawn }

/-- An alert is changed. -/
theorem change
    (h : x.Moves rule device w p counted draws w')
    (c : Change)
    (ha : a ∈ p)
    (hid : a.id = c.id)
    (htenant : a.tenant = c.tenant)
    (hmay : c.may a = true) :
    w'.store.update c.id c.tenant c.may c.apply = (true, w'.store.insert (c.apply a)) ∧
      x.Moves rule device w (Memory.put (c.apply a) p) counted draws
        { w' with store := w'.store.insert (c.apply a) } := by
  have hmem : a ∈ w'.store.alerts ∧ a.concerns rule device = true := by
    rwa [← h.about, Memory.mem_about] at ha
  have hfind : w'.store.find? c.id c.tenant = some a :=
    (Memory.find?_eq_some h.ready.ids).mpr ⟨hmem.1, hid, htenant⟩
  have hsame : (c.apply a).concerns rule device = a.concerns rule device := by
    rw [Alert.concerns, c.rule_apply, c.device_apply]
    rfl
  have hput {b : Alert} (hb : b ∈ (w'.store.insert (c.apply a)).alerts) :
      b = c.apply a ∨ b ∈ w'.store.alerts :=
    ((Memory.mem_put h.ready.ids).mp hb).imp_right And.left
  refine ⟨by simp [Memory.update, hfind, hmay], ?_⟩
  exact {
    ready := {
      ids := Memory.nodup_put h.ready.ids
      aware := fun b hb => (hput hb).elim
        (by rintro rfl; rw [c.triggeredAt_apply]; exact h.ready.aware a hmem.1) (h.ready.aware b)
      unused := fun b hb => (hput hb).elim
        (by rintro rfl; rw [c.id_apply]; exact h.ready.unused a hmem.1) (h.ready.unused b) }
    about := by
      rw [← h.about]
      exact (Memory.filter_put h.ready.ids hmem.1 (c.id_apply a) hsame).trans (if_pos hmem.2)
    besides := by
      rw [← h.besides]
      exact (Memory.filter_put h.ready.ids hmem.1 (c.id_apply a) (congrArg not hsame)).trans
        (if_neg (by simp [hmem.2]))
    stats := h.stats
    drawn := h.drawn }

theorem nodup
    (h : x.Moves rule device w p counted draws w') :
    (p.map Alert.id).Nodup := by
  rw [← h.about]
  exact h.ready.ids.sublist (List.filter_sublist.map Alert.id)

/-- The channels that delivered are recorded. -/
theorem recordDelivered
    (h : x.Moves rule device w p counted draws w')
    (ha : a ∈ p)
    (report : Report) :
    ∃ w'', x.runs (Worker.recordDelivered a report) w' = (.ok (), w'') ∧
      x.Moves rule device w (Memory.put (x.told a report) p) counted draws w'' := by
  unfold Worker.recordDelivered told
  split_ifs
  · have hput : Memory.put a p = p := by
      simpa using Memory.map_put id h.nodup ha rfl rfl
    exact ⟨w', rfl, by rwa [hput]⟩
  · obtain ⟨hupdate, hmoves⟩ :=
      h.change (.recordNotifications x.now a.id a.tenant report.delivered.length) ha rfl rfl rfl
    refine ⟨_, ?_, hmoves⟩
    exact congrArg (fun u : Bool × Memory => (Except.ok (), { w' with store := u.2 })) hupdate

end Moves

section

variable (hsupply : Function.Injective x.supply) (hnow : x.now.isAware = true)
include hsupply hnow

/-- A new alert is raised, unless one is open already. -/
theorem runs_trigger
    (hw : x.Ready w)
    (r : Rule) (device : String) (s : Snapshot) (open? : Option Alert) :
    let u := x.carryOut r device s (w.store.about r.id device) (x.supply w.drawn) .trigger open?
    ∃ w', x.runs (Worker.trigger r device s x.now) w = (u.outcome.map fun _ => (), w') ∧
      x.Moves r.id device w u.alerts u.counted u.draws w' := by
  intro u
  let raised := Worker.raisedAlert (x.supply w.drawn) r device s x.now
  let w₁ : Standing := (x.handle .freshId w).2
  have hdrawn : x.Moves r.id device w (w.store.about r.id device) [] 1 w₁ := (Moves.refl hw).draw
  have hconcerns : raised.concerns r.id device = true := by
    simp [raised, Worker.raisedAlert, Alert.concerns]
  have hnew : raised.id ∉ w.store.alerts.map Alert.id := by
    intro hmem
    obtain ⟨a, ha, hid⟩ := List.mem_map.mp hmem
    exact hw.unused a ha w.drawn le_rfl hid
  have hstart : x.runs (Worker.trigger r device s x.now) w =
      x.runs (WorkerAction.store (.create raised) >>= fun _ =>
        WorkerAction.count .alertsTriggered >>= fun _ =>
          WorkerAction.ask (.dispatch (Dispatch.ofTrigger raised r)) >>= fun report =>
            Worker.recordDelivered raised report) w₁ := rfl
  rw [hstart]
  cases hopen : (w.store.about r.id device).any Alert.isOpen with
  | true =>
      have hu : u = ⟨.error (.openAlertExists r.id device), w.store.about r.id device, [], 1⟩ :=
        if_pos hopen
      have htaken : w.store.hasOpen r.id device = true :=
        (w.store.hasOpen_eq r.id device).trans hopen
      have hrefused : x.runs (WorkerAction.store (.create raised)) w₁ =
          (.error (.openAlertExists r.id device), w₁) :=
        congrArg (fun u : Outcome Unit × Memory => (u.1, { w₁ with store := u.2 })) (if_pos htaken)
      rw [hu]
      exact ⟨w₁, runs_bind_of_error hrefused _, hdrawn⟩
  | false =>
      have hunused (n : ℕ) (hn : w₁.drawn ≤ n) : raised.id ≠ x.supply n := fun heq =>
        absurd (hsupply heq) (Nat.ne_of_lt hn)
      obtain ⟨hserve, hcreated⟩ := hdrawn.create hconcerns hnow hnew hunused hopen
      have hstored : x.runs (WorkerAction.store (.create raised)) w₁ =
          (.ok (), { w₁ with store := w₁.store.insert raised }) :=
        congrArg (fun u : Outcome Unit × Memory => (u.1, { w₁ with store := u.2 })) hserve
      obtain ⟨w₂, hrun, hmoves⟩ := (hcreated.count .alertsTriggered).recordDelivered
        (a := raised) (by simp) (x.report r .triggered)
      have hput : Memory.put (x.told raised (x.report r .triggered))
          (w.store.about r.id device ++ [raised]) =
            w.store.about r.id device ++ [x.told raised (x.report r .triggered)] := by
        refine Memory.put_concat (x.id_told raised _) fun hmem => hnew ?_
        exact (List.filter_sublist.map Alert.id).subset hmem
      have hu : u = ⟨.ok .trigger, w.store.about r.id device ++
          [x.told raised (x.report r .triggered)], [.alertsTriggered], 1⟩ :=
        if_neg (by simp [hopen])
      rw [hput] at hmoves
      rw [hu]
      exact ⟨w₂, (runs_bind_of_ok hstored _).trans hrun, hmoves⟩

omit hsupply hnow in
/-- An open alert is ended. -/
theorem runs_resolve
    (hw : x.Ready w)
    (ha : a ∈ w.store.about rule device)
    (hopen : a.isOpen = true) :
    ∃ w', x.runs (Worker.resolve a) w = (.ok (), w') ∧
      x.Moves rule device w
        (Memory.put (a.resolve (some autoResolveReason) x.now) (w.store.about rule device))
        [.alertsResolved] 0 w' := by
  obtain ⟨hupdate, hmoves⟩ := (Moves.refl hw).change
    (.resolve x.now a.id a.tenant (some autoResolveReason)) ha rfl rfl hopen
  have hresolved : x.runs (WorkerAction.store
      (.resolve a.id a.tenant (some autoResolveReason))) w =
        (.ok true, { w with
          store := w.store.insert (a.resolve (some autoResolveReason) x.now) }) :=
    congrArg (fun u : Bool × Memory => (Except.ok u.1, { w with store := u.2 })) hupdate
  exact ⟨_, runs_bind_of_ok hresolved _, hmoves.count .alertsResolved⟩

omit hsupply hnow in
/-- An alert is told about again. -/
theorem runs_escalate
    (hw : x.Ready w)
    (ha : a ∈ w.store.about rule device)
    (r : Rule) :
    ∃ w', x.runs (Worker.escalate a r x.now) w = (.ok (), w') ∧
      x.Moves rule device w
        (Memory.put (x.told (a.escalate x.now) (x.report r .escalated))
          (w.store.about rule device)) [.escalations] 0 w' := by
  let told := x.report r .escalated
  obtain ⟨hupdate, hmoves⟩ :=
    (Moves.refl hw).change (.markEscalated a.id a.tenant x.now) ha rfl rfl rfl
  have hdispatch : x.runs (WorkerAction.ask (.dispatch (Dispatch.ofEscalation a r))) w =
      (.ok told, w) := by
    rw [runs_ask, handle, Dispatch.ofEscalation]
    cases r.escalation? <;> rfl
  have hmarked : x.runs (WorkerAction.store (.markEscalated a.id a.tenant x.now)) w =
      (.ok (), { w with store := w.store.insert (a.escalate x.now) }) :=
    congrArg (fun u : Bool × Memory => (Except.ok (), { w with store := u.2 })) hupdate
  obtain ⟨w₂, hrun, hrecorded⟩ := (hmoves.count .escalations).recordDelivered
    (a := a.escalate x.now) (Memory.mem_put_self _ _) told
  refine ⟨w₂, (runs_bind_of_ok hdispatch _).trans ((runs_bind_of_ok hmarked _).trans hrun), ?_⟩
  rw [← Memory.put_put (x.id_told (a.escalate x.now) told)]
  exact hrecorded

/-- A transition is carried out. -/
theorem runs_apply
    (hw : x.Ready w)
    (r : Rule) (device : String) (s : Snapshot) (t : Transition)
    {open? : Option Alert}
    (hopen : ∀ a, open? = some a →
      a ∈ w.store.about r.id device ∧ a.tenant = r.tenant ∧ a.isOpen = true) :
    let u := x.carryOut r device s (w.store.about r.id device) (x.supply w.drawn) t open?
    ∃ w', x.runs (Worker.apply t open? r device s x.now) w = (u.outcome.map fun _ => (), w') ∧
      x.Moves r.id device w u.alerts u.counted u.draws w' := by
  have hrefl : x.Moves r.id device w (w.store.about r.id device) [] 0 w := .refl hw
  cases t with
  | trigger =>
      exact runs_trigger hsupply hnow hw r device s open?
  | suppress =>
      exact ⟨_, rfl, hrefl.count .alertsSuppressed⟩
  | resolve =>
      cases open? with
      | none =>
          exact ⟨w, rfl, hrefl⟩
      | some a =>
          obtain ⟨ha, -, hopena⟩ := hopen a rfl
          exact runs_resolve hw ha hopena
  | escalate =>
      cases open? with
      | none =>
          exact ⟨w, rfl, hrefl⟩
      | some a =>
          obtain ⟨ha, -, -⟩ := hopen a rfl
          exact runs_escalate hw ha r
  | none =>
      cases open? <;> exact ⟨w, rfl, hrefl⟩

omit hsupply hnow in
/-- The open alerts of the device are listed; the first one of the rule is found. -/
theorem runs_openOn
    (hw : x.Ready w)
    (r : Rule) (device : String) :
    ∃ l, x.runs (WorkerAction.store (.openOn r.tenant device)) w = (.ok l, w) ∧
      l.find? (fun a => a.rule == r.id) = openIn r (w.store.about r.id device) := by
  let found := w.store.ofTenant r.tenant fun a => a.device == device && a.isOpen
  have hsortable : sortable found = true :=
    sortable_of_aware fun a ha => hw.aware a (List.mem_filter.mp ha).1
  refine ⟨_, congrArg (fun o : Outcome (List Alert) => (o, w)) (if_pos hsortable), ?_⟩
  have hsame : found.filter (fun a => a.rule == r.id) =
      (w.store.about r.id device).filter fun a => a.tenant == r.tenant && a.isOpen := by
    rw [Memory.about, List.filter_filter]
    refine (List.filter_filter ..).trans (List.filter_congr fun a _ => ?_)
    rw [Alert.concerns, Bool.eq_iff_iff]
    simp only [Bool.and_eq_true]
    tauto
  rw [openIn, ← hsame, ← List.head?_filter]
  refine congrArg List.head? (filter_mergeSort (fun a b c hab hbc => ?_) (fun a b => ?_) _ _)
  · simp only [decide_eq_true_eq] at hab hbc ⊢
    exact le_trans hbc hab
  · simpa using le_total b.triggeredAt.instant a.triggeredAt.instant

omit hsupply hnow in
theorem mem_of_openIn
    (h : openIn r p = some a) :
    a ∈ p ∧ a.tenant = r.tenant ∧ a.isOpen = true := by
  have hmem := List.mem_mergeSort.mp (List.mem_of_head? h)
  simpa only [List.mem_filter, Bool.and_eq_true, beq_iff_eq] using hmem

/-- A decision is carried out, if it could be taken. -/
theorem runs_conclude
    (hw : x.Ready w)
    (r : Rule) (device : String) (s : Snapshot) (o : Outcome Transition)
    {open? : Option Alert}
    (hopen : ∀ a, open? = some a →
      a ∈ w.store.about r.id device ∧ a.tenant = r.tenant ∧ a.isOpen = true) :
    let u := x.conclude r device s (w.store.about r.id device) (x.supply w.drawn) open? o
    ∃ w', x.runs ((liftM o : WorkerAction Transition) >>= fun t =>
        Worker.apply t open? r device s x.now >>= fun _ => pure t) w = (u.outcome, w') ∧
      x.Moves r.id device w u.alerts u.counted u.draws w' := by
  cases o with
  | error f =>
      exact ⟨w, rfl, .refl hw⟩
  | ok t =>
      obtain ⟨w', hrun, hmoves⟩ := runs_apply hsupply hnow hw r device s t hopen
      refine ⟨w', ?_, hmoves⟩
      change x.runs (Worker.apply t open? r device s x.now >>= fun _ => pure t) w =
        ((x.carryOut r device s _ _ t open?).outcome, w')
      rw [runs_bind, hrun, ← outcome_carryOut]
      rcases (x.carryOut r device s _ _ t open?).outcome with f | t' <;> rfl

/-- The alerts of a rule and a device are settled by telemetry. -/
theorem runs_settle
    (hw : x.Ready w)
    (again : Bool) (r : Rule) (device : String) (s : Snapshot) :
    let u := x.settled again r device s (w.store.about r.id device) (x.supply w.drawn)
    ∃ w', x.runs (Worker.settle again r device s) w = (u.outcome, w') ∧
      x.Moves r.id device w u.alerts u.counted u.draws w' := by
  intro u
  let open? := openIn r (w.store.about r.id device)
  let chosen (last? : Option Alert) : Outcome Transition :=
    timed (Transition.choose open? (r.fires s) last? r x.now again)
  let carry (t : Transition) : WorkerAction Transition :=
    Worker.apply t open? r device s x.now >>= fun _ => pure t
  obtain ⟨l, hl, hfind⟩ := runs_openOn hw r device
  have hstart : x.runs (Worker.settle again r device s) w =
      x.runs ((liftM (x.decides again r s (w.store.about r.id device)) : WorkerAction _) >>= carry)
        w := by
    rw [Worker.settle, runs_bind_of_ok hl, hfind]
    change x.runs (if open?.isNone && r.fires s
      then WorkerAction.store (.latestOf r.id device) >>= fun last? => liftM (chosen last?) >>= carry
      else liftM (chosen none) >>= carry) w =
        x.runs ((liftM ((if open?.isNone && r.fires s then newest? (w.store.about r.id device)
          else .ok none) >>= chosen) : WorkerAction _) >>= carry) w
    split_ifs
    · have hlatest : x.runs (WorkerAction.store (.latestOf r.id device)) w =
          (newest? (w.store.about r.id device), w) := rfl
      rcases hnewest : newest? (w.store.about r.id device) with f | last? <;> rw [hnewest] at hlatest
      · exact runs_bind_of_error hlatest _
      · exact runs_bind_of_ok hlatest _
    · rfl
  rw [hstart]
  exact runs_conclude hsupply hnow hw r device s _ fun a ha => mem_of_openIn ha

/-- An evaluation comes to what the alerts of its rule and device come to. -/
theorem runs_evaluateDevice
    (hw : x.Ready w)
    (again : Bool) (r : Rule) (device : String) :
    let u := x.upshot again r device (w.store.about r.id device) (x.supply w.drawn)
    ∃ w', x.runs (Worker.evaluateDevice again r device) w = (u.outcome, w') ∧
      x.Moves r.id device w u.alerts u.counted u.draws w' := by
  intro u
  let s := Worker.snapshotOf (x.reading device r.tenant)
  have hstart : x.runs (Worker.evaluateDevice again r device) w =
      x.runs (Worker.evaluateOn again r device s) w := by
    rw [runs, Worker.run_evaluateDevice]
    rfl
  rw [hstart]
  by_cases hempty : s.isEmpty = true
  · have hu : u = ⟨.ok .none, w.store.about r.id device, [], 0⟩ := if_pos hempty
    rw [hu, Worker.evaluateOn, if_pos hempty]
    exact ⟨w, rfl, .refl hw⟩
  · have hu : u = x.settled again r device s (w.store.about r.id device) (x.supply w.drawn) :=
      if_neg hempty
    rw [hu, Worker.evaluateOn, if_neg hempty, runs_locked]
    exact runs_settle hsupply hnow hw again r device s

end
end Standstill
end TelemetryAlerts
