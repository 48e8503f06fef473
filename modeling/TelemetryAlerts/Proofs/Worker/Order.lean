import TelemetryAlerts.Proofs.Worker.Isolation
import TelemetryAlerts.Proofs.Worker.Standstill

/-!
# The order of evaluations

While all else stands still, what an evaluation comes to depends on the alerts of its own rule and
device only, and it changes no others. So it makes no difference in which order rules are evaluated
for devices, if none is for a device twice: each evaluation has the same outcome, the counters are
the same, and so are the alerts but for the ids that are drawn.

**Results.**
* `Standing.Through.evaluate`: each evaluation comes to what it would at the start.
* `evaluations_commute`: the order of evaluations makes no difference, and neither does that of
  tenants, rules and devices to a cycle.
-/

namespace TelemetryAlerts

namespace Worker

/-- Evaluates rules for devices one after the other, and counts each failure. -/
def evaluateEach (again : Bool) :
    List (Rule × String) → Program Call Call.Reply (List ((Rule × String) × Outcome Transition))
  | [] => pure []
  | v :: rest => do
    let o ← ExceptT.run (evaluateDevice again v.1 v.2)
    countFailure o
    let os ← evaluateEach again rest
    pure ((v, o) :: os)

/-- The devices of a rule are evaluated one after the other. -/
theorem run_evaluateDevices_each
    (again : Bool) (r : Rule) (devices : List String) :
    ExceptT.run (evaluateDevices again r devices) =
      (fun _ => .ok ()) <$> evaluateEach again (devices.map fun device => (r, device)) := by
  induction devices with
  | nil =>
      rfl
  | cons device rest ih =>
      have hcounted : ExceptT.run (WorkerAction.counted (do let _ ← evaluateDevice again r device)) =
          (fun _ => .ok ()) <$> (ExceptT.run (evaluateDevice again r device) >>= fun o =>
            countFailure o >>= fun _ => pure o) := by
        change (ExceptT.run (evaluateDevice again r device) >>= ExceptT.bindCont fun _ => pure ()) >>=
          _ = _
        rw [bind_assoc, map_bind]
        refine congrArg (ExceptT.run (evaluateDevice again r device) >>= ·) (funext fun o => ?_)
        cases o <;> rfl
      rw [evaluateDevices, run_bind_of_unfailing hcounted, ih, List.map_cons, evaluateEach]
      simp

end Worker

/-- An alert without its id, unless the id is known. -/
def Alert.unnamed (known : List String) (a : Alert) : Alert :=
  if a.id ∈ known then a else { a with id := "" }

/-- What is counted of an evaluation, its failure included. -/
def Upshot.counts (u : Upshot) : List Counter :=
  match u.outcome with
  | .ok _ => u.counted
  | .error _ => u.counted ++ [.errors]

/-- Whether two evaluations come to the same but for ids that are not known. -/
structure Upshot.Like (known : List String) (u u' : Upshot) : Prop where
  outcome : u.outcome = u'.outcome
  counted : u.counted = u'.counted
  alerts : u.alerts.map (Alert.unnamed known) = u'.alerts.map (Alert.unnamed known)

theorem Upshot.Like.refl
    (known : List String) (u : Upshot) :
    u.Like known u :=
  ⟨rfl, rfl, rfl⟩

namespace Standstill

variable {x : Standstill} {known : List String} {id id' : String}

theorem unnamed_told
    (r : Rule) (device : String) (s : Snapshot) (report : Report)
    (hid : id ∉ known)
    (hid' : id' ∉ known) :
    (x.told (Worker.raisedAlert id r device s x.now) report).unnamed known =
      (x.told (Worker.raisedAlert id' r device s x.now) report).unnamed known := by
  have hname {id : String} (hid : id ∉ known) :
      (x.told (Worker.raisedAlert id r device s x.now) report).unnamed known =
        { x.told (Worker.raisedAlert id r device s x.now) report with id := "" } :=
    if_neg (by rwa [id_told])
  rw [hname hid, hname hid']
  unfold told
  split_ifs <;> rfl

/-- What an evaluation comes to does not depend on the id that is drawn. -/
theorem upshot_like
    (again : Bool) (r : Rule) (device : String) (p : List Alert)
    (hid : id ∉ known)
    (hid' : id' ∉ known) :
    (x.upshot again r device p id).Like known (x.upshot again r device p id') := by
  have hcarry (s : Snapshot) (t : Transition) (open? : Option Alert) :
      (x.carryOut r device s p id t open?).Like known (x.carryOut r device s p id' t open?) := by
    cases t with
    | trigger =>
        unfold carryOut
        split_ifs
        · exact .refl known _
        · exact ⟨rfl, rfl, by simp [unnamed_told r device s _ hid hid']⟩
    | _ =>
        cases open? <;> exact .refl known _
  unfold upshot settled
  dsimp only
  split_ifs
  · exact .refl known _
  · cases x.decides again r _ p with
    | error f =>
        exact .refl known _
    | ok t =>
        exact hcarry _ t _

section

variable {α β : Type} {w w' : Standing} {a : WorkerAction α} {v : α}

theorem runs_tryCatch_of_ok
    (h : x.runs a w = (.ok v, w'))
    (f : Failure → WorkerAction α) :
    x.runs (tryCatch a f) w = (.ok v, w') := by
  unfold runs at h ⊢
  rw [Program.run_rescueAction, h]

theorem runs_map_of_ok
    (h : x.runs a w = (.ok v, w'))
    (f : α → β) :
    x.runs (f <$> a) w = (.ok (f v), w') := by
  unfold runs at h ⊢
  rw [Program.run_mapAction, h]
  rfl

end

/-- The devices that a rule watches are found. -/
theorem runs_applicableDevices
    (r : Rule) (w : Standing) :
    x.runs (Worker.applicableDevices r) w = (.ok (x.targets r), w) := by
  have htypes (types : List String) : x.runs (Worker.devicesOfTypes r.tenant types) w =
      (.ok (types.flatMap (x.devices r.tenant)), w) := by
    induction types with
    | nil =>
        rfl
    | cons type rest ih =>
        have hhere : x.runs (ExceptT.mk (Program.perform (Call.devicesOfType r.tenant type))) w =
            (.ok (x.devices r.tenant type), w) := rfl
        rw [Worker.devicesOfTypes, runs_bind_of_ok hhere, runs_bind_of_ok ih]
        rfl
  unfold Worker.applicableDevices Outlook.targets
  cases r.target with
  | device =>
      rfl
  | deviceType =>
      rw [runs_bind_of_ok (htypes r.deviceTypes)]
      rfl

end Standstill

theorem Stats.count_comm
    (s : Stats) (c d : Counter) :
    (s.count c).count d = (s.count d).count c := by
  cases c <;> cases d <;> rfl

/-! ### Evaluations one after the other -/

/-- Whether two standings are the same but for the ids of alerts that another one does not know. -/
def Standing.Alike (s w w' : Standing) : Prop :=
  w.stats = w'.stats ∧
    (w.store.alerts.map (Alert.unnamed (s.store.alerts.map Alert.id))).Perm
      (w'.store.alerts.map (Alert.unnamed (s.store.alerts.map Alert.id)))

/-- Whether a standing is what comes of another one when rules were evaluated for devices: each
evaluation came to what it would have come to at the start. -/
structure Standing.Through (x : Standstill) (again : Bool) (s : Standing)
    (done : List (Rule × String)) (counted : List Counter) (w : Standing) : Prop where
  ready : x.Ready w
  stats : w.stats = counted.foldl Stats.count s.stats
  drawn : s.drawn ≤ w.drawn
  settled : ∀ v ∈ done, ∃ n, s.drawn ≤ n ∧ w.store.about v.1.id v.2 =
    (x.upshot again v.1 v.2 (s.store.about v.1.id v.2) (x.supply n)).alerts
  rest : ∀ rule device, (∀ v ∈ done, ¬ (v.1.id = rule ∧ v.2 = device)) →
    w.store.about rule device = s.store.about rule device

/-- What an evaluation comes to at the start. -/
def Standstill.due (x : Standstill) (again : Bool) (s : Standing) (v : Rule × String) : Upshot :=
  x.upshot again v.1 v.2 (s.store.about v.1.id v.2) (x.supply s.drawn)

namespace Standstill

/-- The evaluations of a rule, one for each of its devices. -/
def visitsOf (x : Standstill) (r : Rule) : List (Rule × String) :=
  (x.targets r).map fun device => (r, device)

/-- What is counted of a rule. -/
def tally (x : Standstill) (again : Bool) (s : Standing) (r : Rule) : List Counter :=
  ((x.visitsOf r).flatMap fun v => (x.due again s v).counts) ++ [.rulesEvaluated]

/-- The same surroundings with other catalogs. -/
def listing (x : Standstill) (tenants : List String) (rules : String → List Rule)
    (devices : String → String → List String) : Standstill :=
  { x with tenants := tenants, rules := rules, devices := devices }

end Standstill

namespace Standing.Through

variable {x : Standstill} {again : Bool} {s w : Standing} {done : List (Rule × String)}
  {counted : List Counter}

theorem start
    (hs : x.Ready s) :
    Through x again s [] [] s where
  ready := hs
  stats := rfl
  drawn := le_rfl
  settled := by simp
  rest _ _ _ := rfl

theorem count
    (h : Through x again s done counted w)
    (c : Counter) :
    Through x again s done (counted ++ [c]) (x.handle (.count c) w).2 where
  ready := ⟨h.ready.ids, h.ready.aware, h.ready.unused⟩
  stats := by
    rw [List.foldl_append, ← h.stats]
    rfl
  drawn := h.drawn
  settled := h.settled
  rest := h.rest

theorem unknown
    (hs : x.Ready s)
    {n : ℕ}
    (hn : s.drawn ≤ n) :
    x.supply n ∉ s.store.alerts.map Alert.id := by
  intro hmem
  obtain ⟨a, ha, hid⟩ := List.mem_map.mp hmem
  exact hs.unused a ha n hn hid

section

variable (hsupply : Function.Injective x.supply) (hnow : x.now.isAware = true) (hs : x.Ready s)
include hsupply hnow hs

/-- Each evaluation comes to what it would at the start. -/
theorem evaluate
    (h : Through x again s done counted w)
    (v : Rule × String)
    (hv : ∀ u ∈ done, ¬ (u.1.id = v.1.id ∧ u.2 = v.2)) :
    ∃ w', x.runs (Worker.evaluateDevice again v.1 v.2) w = ((x.due again s v).outcome, w') ∧
      Through x again s (done ++ [v]) (counted ++ (x.due again s v).counted) w' := by
  obtain ⟨w', hrun, hmoves⟩ :=
    Standstill.runs_evaluateDevice hsupply hnow h.ready again v.1 v.2
  rw [h.rest v.1.id v.2 hv] at hrun hmoves
  obtain ⟨houtcome, hcounted, -⟩ := Standstill.upshot_like (x := x) again v.1 v.2
    (s.store.about v.1.id v.2) (unknown hs h.drawn) (unknown hs le_rfl)
  have hother {rule device : String} (hpair : ¬ (rule = v.1.id ∧ device = v.2)) :
      w'.store.about rule device = w.store.about rule device :=
    Memory.about_of_besides hmoves.besides hpair
  refine ⟨w', by rw [hrun, houtcome]; rfl, ?_⟩
  exact {
    ready := hmoves.ready
    stats := by
      rw [List.foldl_append, ← h.stats, hmoves.stats, hcounted]
      rfl
    drawn := by
      rw [hmoves.drawn]
      exact le_trans h.drawn (Nat.le_add_right _ _)
    settled := by
      intro u hu
      rcases List.mem_append.mp hu with hu | hu
      · obtain ⟨n, hn, habout⟩ := h.settled u hu
        exact ⟨n, hn, (hother (hv u hu)).trans habout⟩
      · obtain rfl := List.mem_singleton.mp hu
        exact ⟨w.drawn, h.drawn, hmoves.about⟩
    rest := by
      intro rule device hnone
      rw [hother, h.rest rule device fun u hu => hnone u (List.mem_append_left _ hu)]
      rintro ⟨rfl, rfl⟩
      exact hnone v (by simp) ⟨rfl, rfl⟩ }

/-- A failed evaluation is counted. -/
theorem visit
    (h : Through x again s done counted w)
    (v : Rule × String)
    (hv : ∀ u ∈ done, ¬ (u.1.id = v.1.id ∧ u.2 = v.2)) :
    ∃ w₁ w', x.runs (Worker.evaluateDevice again v.1 v.2) w = ((x.due again s v).outcome, w₁) ∧
      (Worker.countFailure (x.due again s v).outcome).run x.handle w₁ = ((), w') ∧
      Through x again s (done ++ [v]) (counted ++ (x.due again s v).counts) w' := by
  obtain ⟨w₁, hrun, hthrough⟩ := h.evaluate hsupply hnow hs v hv
  unfold Upshot.counts
  cases ho : (x.due again s v).outcome with
  | ok t =>
      rw [ho] at hrun
      exact ⟨w₁, w₁, hrun, rfl, hthrough⟩
  | error f =>
      rw [ho] at hrun
      have hcounted := hthrough.count .errors
      rw [List.append_assoc] at hcounted
      exact ⟨w₁, _, hrun, rfl, hcounted⟩

theorem evaluateEach
    (h : Through x again s done counted w)
    (l : List (Rule × String))
    (hpairs : ((done ++ l).map fun v => (v.1.id, v.2)).Nodup) :
    ∃ w', (Worker.evaluateEach again l).run x.handle w =
        (l.map fun v => (v, (x.due again s v).outcome), w') ∧
      Through x again s (done ++ l) (counted ++ l.flatMap fun v => (x.due again s v).counts) w' := by
  induction l generalizing done counted w with
  | nil =>
      exact ⟨w, rfl, by simpa using h⟩
  | cons v rest ih =>
      rw [List.append_cons] at hpairs ⊢
      have hnew (u : Rule × String) (hu : u ∈ done) : ¬ (u.1.id = v.1.id ∧ u.2 = v.2) := by
        rintro ⟨hrule, hdevice⟩
        rw [List.append_assoc, List.map_append, List.nodup_append] at hpairs
        exact hpairs.2.2 (u.1.id, u.2) (List.mem_map_of_mem hu) (v.1.id, v.2) (by simp)
          (by rw [hrule, hdevice])
      obtain ⟨w₁, w₂, hrun, hcount, hthrough⟩ := h.visit hsupply hnow hs v hnew
      obtain ⟨w', hrest, hthrough'⟩ := ih hthrough hpairs
      refine ⟨w', ?_, by simpa using hthrough'⟩
      change ((ExceptT.run (Worker.evaluateDevice again v.1 v.2)).bind fun o =>
        (Worker.countFailure o).bind fun _ => (Worker.evaluateEach again rest).bind fun os =>
          .done ((v, o) :: os)).run x.handle w = _
      unfold Standstill.runs at hrun
      simp only [Program.run_bind, hrun, hcount, hrest]
      rfl

theorem evaluateDevices
    (h : Through x again s done counted w)
    (r : Rule) (devices : List String)
    (hpairs : ((done ++ devices.map fun device => (r, device)).map fun v => (v.1.id, v.2)).Nodup) :
    ∃ w', x.runs (Worker.evaluateDevices again r devices) w = (.ok (), w') ∧
      Through x again s (done ++ devices.map fun device => (r, device))
        (counted ++ (devices.map fun device => (r, device)).flatMap fun v =>
          (x.due again s v).counts) w' := by
  obtain ⟨w', hrun, hthrough⟩ := h.evaluateEach hsupply hnow hs _ hpairs
  refine ⟨w', ?_, hthrough⟩
  rw [Standstill.runs, Worker.run_evaluateDevices_each]
  change (Program.bind _ _).run x.handle w = _
  rw [Program.run_bind, hrun]
  rfl

theorem evaluateRule
    (h : Through x again s done counted w)
    (r : Rule)
    (hpairs : ((done ++ x.visitsOf r).map fun v => (v.1.id, v.2)).Nodup) :
    ∃ w', x.runs (Worker.evaluateRule again r) w = (.ok (), w') ∧
      Through x again s (done ++ x.visitsOf r) (counted ++ x.tally again s r) w' := by
  obtain ⟨w', hrun, hthrough⟩ := h.evaluateDevices hsupply hnow hs r _ hpairs
  have hcounted := hthrough.count .rulesEvaluated
  rw [List.append_assoc] at hcounted
  refine ⟨_, ?_, hcounted⟩
  have hfound := Standstill.runs_map_of_ok (Standstill.runs_applicableDevices (x := x) r w) some
  rw [Worker.evaluateRule, Standstill.runs_bind_of_ok (Standstill.runs_tryCatch_of_ok hfound _),
    Standstill.runs_bind_of_ok hrun]
  rfl

theorem evaluateRules
    (h : Through x again s done counted w)
    (rules : List Rule)
    (hpairs : ((done ++ rules.flatMap x.visitsOf).map fun v => (v.1.id, v.2)).Nodup) :
    ∃ w', x.runs (Worker.evaluateRules again rules) w = (.ok (), w') ∧
      Through x again s (done ++ rules.flatMap x.visitsOf)
        (counted ++ rules.flatMap (x.tally again s)) w' := by
  induction rules generalizing done counted w with
  | nil =>
      exact ⟨w, rfl, by simpa using h⟩
  | cons r rest ih =>
      rw [List.flatMap_cons, ← List.append_assoc] at hpairs ⊢
      rw [List.flatMap_cons, ← List.append_assoc]
      obtain ⟨w₁, hrun, hthrough⟩ := h.evaluateRule hsupply hnow hs r <| by
        rw [List.map_append] at hpairs
        exact hpairs.of_append_left
      obtain ⟨w', hrest, hthrough'⟩ := ih hthrough hpairs
      exact ⟨w', (Standstill.runs_bind_of_ok hrun _).trans hrest, hthrough'⟩

theorem evaluateTenants
    (h : Through x again s done counted w)
    (tenants : List String)
    (hpairs : ((done ++ (tenants.flatMap x.rules).flatMap x.visitsOf).map fun v =>
      (v.1.id, v.2)).Nodup) :
    ∃ w', x.runs (Worker.evaluateTenants again tenants) w = (.ok (), w') ∧
      Through x again s (done ++ (tenants.flatMap x.rules).flatMap x.visitsOf)
        (counted ++ (tenants.flatMap x.rules).flatMap (x.tally again s)) w' := by
  induction tenants generalizing done counted w with
  | nil =>
      exact ⟨w, rfl, by simpa using h⟩
  | cons t rest ih =>
      rw [List.flatMap_cons, List.flatMap_append, ← List.append_assoc] at hpairs ⊢
      rw [List.flatMap_append, ← List.append_assoc]
      obtain ⟨w₁, hrun, hthrough⟩ := h.evaluateRules hsupply hnow hs (x.rules t) <| by
        rw [List.map_append] at hpairs
        exact hpairs.of_append_left
      obtain ⟨w', hrest, hthrough'⟩ := ih hthrough hpairs
      have htenant : x.runs (Worker.evaluateTenant again t) w = (.ok (), w₁) :=
        Standstill.runs_tryCatch_of_ok hrun _
      exact ⟨w', (Standstill.runs_bind_of_ok htenant _).trans hrest, hthrough'⟩

/-- A cycle evaluates every rule for its devices. -/
theorem cycle
    (h : Through x again s [] [] s)
    (config : EngineConfig)
    (hconcurrency : config.tenantConcurrency ≤ 1)
    (hpairs : ((x.visits x.tenants).map fun v => (v.1.id, v.2)).Nodup) :
    ∃ w, x.runs (Worker.cycle config again) s = (.ok (), (x.handle .endCycle w).2) ∧
      Through x again s (x.visits x.tenants)
        ((x.tenants.flatMap x.rules).flatMap (x.tally again s)) w := by
  have hvisits : (x.tenants.flatMap x.rules).flatMap x.visitsOf = x.visits x.tenants :=
    List.flatMap_assoc
  have hall := h.evaluateTenants hsupply hnow hs x.tenants
  rw [List.nil_append, List.nil_append, hvisits] at hall
  obtain ⟨w, hrun, hthrough⟩ := hall hpairs
  refine ⟨w, ?_, hthrough⟩
  have htenants : x.runs Worker.listTenants s = (.ok x.tenants, s) := rfl
  rw [Worker.cycle, Standstill.runs_bind_of_ok htenants, Worker.evaluateAll, if_pos hconcurrency,
    Standstill.runs_bind_of_ok hrun]
  rfl

end

/-! ### Evaluations in another order -/

/-- Alerts of which each rule and device has the same are the same. -/
theorem perm_of_about
    {f : Alert → Alert} {l l' : List Alert}
    (hf : ∀ a, (f a).rule = a.rule ∧ (f a).device = a.device)
    (h : ∀ rule device, ((l.filter fun a => a.concerns rule device).map f) =
      (l'.filter fun a => a.concerns rule device).map f) :
    (l.map f).Perm (l'.map f) := by
  classical
  have hcount (l : List Alert) (b : Alert) : (l.map f).count b =
      ((l.filter fun a => a.concerns b.rule b.device).map f).count b := by
    simp only [List.count, List.countP_map, List.countP_filter]
    refine List.countP_congr fun a _ => ?_
    have hconcerns (hb : f a = b) : a.concerns b.rule b.device = true := by
      simp [Alert.concerns, ← hb, hf]
    simpa using hconcerns
  refine List.perm_iff_count.mpr fun b => ?_
  rw [hcount l, hcount l', h]

/-- The same evaluations in another order come to the same. -/
theorem agree
    {y : Standstill} {w' : Standing} {done' : List (Rule × String)} {counted' : List Counter}
    (hs : x.Ready s)
    (hs' : y.Ready s)
    (hupshot : y.upshot = x.upshot)
    (h : Through x again s done counted w)
    (h' : Through y again s done' counted' w')
    (hdone : done.Perm done')
    (hcounted : counted.Perm counted') :
    s.Alike w w' := by
  constructor
  · rw [h.stats, h'.stats]
    exact hcounted.foldl_eq' (fun c _ d _ stats => stats.count_comm c d) _
  · refine perm_of_about (fun a => ?_) fun rule device => ?_
    · unfold Alert.unnamed
      split_ifs <;> exact ⟨rfl, rfl⟩
    · by_cases hpair : ∃ v ∈ done, v.1.id = rule ∧ v.2 = device
      · obtain ⟨v, hv, rfl, rfl⟩ := hpair
        obtain ⟨n, hn, habout⟩ := h.settled v hv
        obtain ⟨n', hn', habout'⟩ := h'.settled v (hdone.mem_iff.mp hv)
        rw [hupshot] at habout'
        change (w.store.about v.1.id v.2).map _ = (w'.store.about v.1.id v.2).map _
        rw [habout, habout']
        exact (Standstill.upshot_like again v.1 v.2 _ (unknown hs hn) (unknown hs' hn')).alerts
      · have hnone : ∀ v ∈ done, ¬ (v.1.id = rule ∧ v.2 = device) := fun v hv hsame =>
          hpair ⟨v, hv, hsame⟩
        change (w.store.about rule device).map _ = (w'.store.about rule device).map _
        rw [h.rest rule device hnone,
          h'.rest rule device fun v hv => hnone v (hdone.mem_iff.mpr hv)]

end Standing.Through

/-- While all else stands still, the order in which rules are evaluated for devices makes no
difference to the outcome of each evaluation, to the counters and to the alerts but for the
ids that are drawn, if no rule is evaluated for a device twice. So neither does the order of
tenants, of their rules and of the devices of a type make a difference to a cycle. The store may
hold anything whose ids are different and whose times have offsets. -/
theorem evaluations_commute
    (x : Standstill) (again : Bool)
    {s : Standing}
    (hsupply : Function.Injective x.supply)
    (hnow : x.now.isAware = true)
    (hs : x.Ready s) :
    (∀ l l', l.Perm l' → (l.map fun v : Rule × String => (v.1.id, v.2)).Nodup →
      ((Worker.evaluateEach again l).run x.handle s).1.Perm
          ((Worker.evaluateEach again l').run x.handle s).1 ∧
        s.Alike ((Worker.evaluateEach again l).run x.handle s).2
          ((Worker.evaluateEach again l').run x.handle s).2) ∧
    ∀ config tenants rules devices,
      config.tenantConcurrency ≤ 1 →
      (x.tenants.flatMap x.rules).Perm (tenants.flatMap rules) →
      (∀ r, (x.targets r).Perm ((x.listing tenants rules devices).targets r)) →
      ((x.visits x.tenants).map fun v => (v.1.id, v.2)).Nodup →
        (x.runs (Worker.cycle config again) s).1 = .ok () ∧
        ((x.listing tenants rules devices).runs (Worker.cycle config again) s).1 = .ok () ∧
        s.Alike (x.runs (Worker.cycle config again) s).2
          ((x.listing tenants rules devices).runs (Worker.cycle config again) s).2 := by
  constructor
  · intro l l' hperm hpairs
    have hstart : Standing.Through x again s [] [] s := .start hs
    obtain ⟨w, hrun, hthrough⟩ := hstart.evaluateEach hsupply hnow hs l hpairs
    obtain ⟨w', hrun', hthrough'⟩ :=
      hstart.evaluateEach hsupply hnow hs l' ((hperm.map _).nodup_iff.mp hpairs)
    rw [hrun, hrun']
    exact ⟨hperm.map _, Standing.Through.agree hs hs rfl hthrough hthrough' hperm
      (hperm.flatMap_right _)⟩
  · intro config tenants rules devices hconcurrency hrules htargets hpairs
    let y := x.listing tenants rules devices
    have hready : y.Ready s := ⟨hs.ids, hs.aware, hs.unused⟩
    have hvisitsOf (r : Rule) : (x.visitsOf r).Perm (y.visitsOf r) := (htargets r).map _
    have hvisits : (x.visits x.tenants).Perm (y.visits tenants) := by
      have hflat (z : Standstill) : z.visits z.tenants =
          (z.tenants.flatMap z.rules).flatMap z.visitsOf := List.flatMap_assoc.symm
      rw [hflat x, show y.visits tenants = _ from hflat y]
      exact hrules.flatMap fun r _ => hvisitsOf r
    have htally (r : Rule) : (x.tally again s r).Perm (y.tally again s r) :=
      ((hvisitsOf r).flatMap_right _).append_right _
    have hstart : Standing.Through x again s [] [] s := .start hs
    have hstart' : Standing.Through y again s [] [] s := .start hready
    obtain ⟨w, hrun, hthrough⟩ := hstart.cycle hsupply hnow hs config hconcurrency hpairs
    obtain ⟨w', hrun', hthrough'⟩ := Standing.Through.cycle (x := y) hsupply hnow hready hstart'
      config hconcurrency ((hvisits.map _).nodup_iff.mp hpairs)
    obtain ⟨hstats, halerts⟩ := Standing.Through.agree hs hready rfl hthrough hthrough' hvisits
      (hrules.flatMap fun r _ => htally r)
    rw [hrun, show y.runs (Worker.cycle config again) s = _ from hrun']
    exact ⟨rfl, rfl, congrArg (fun stats : Stats =>
      { stats with cycles := stats.cycles + 1, lastCycleAt? := some x.now }) hstats, halerts⟩

/-- The hall with ids in supply. -/
def hallway : Standstill :=
  { hall with
    outage? := fun _ _ => none
    supply := fun n => String.ofList (List.replicate n 'x') }

theorem evaluations_commute_hallway :
    let s : Standing := { store := ⟨[doorAlert]⟩ }
    let visits := hallway.visits hallway.tenants
    let turned := hallway.listing ["tenant-b", "tenant-a"] hallway.rules hallway.devices
    Function.Injective hallway.supply ∧ hallway.now.isAware = true ∧ hallway.Ready s ∧
      s.Alike ((Worker.evaluateEach true visits).run hallway.handle s).2
        ((Worker.evaluateEach true visits.reverse).run hallway.handle s).2 ∧
      s.Alike (hallway.runs (Worker.cycle {} true) s).2 (turned.runs (Worker.cycle {} true) s).2 := by
  intro s visits turned
  have hsupply : Function.Injective hallway.supply := fun m n h => by
    simpa [hallway] using congrArg String.length h
  have hready : hallway.Ready s := by
    have hid (n : ℕ) : "a1" ≠ hallway.supply n := by
      intro heq
      have hchars : "a1".toList = List.replicate n 'x' := by
        rw [heq, hallway, String.toList_ofList]
      cases n with
      | zero =>
          cases hchars
      | succ n =>
          exact absurd (List.cons.inj hchars).1 (by decide)
    refine ⟨by simp [s], ?_, ?_⟩
    · simp [s, doorAlert, Worker.raisedAlert, Moment.isAware, Moment.epoch]
    · simpa [s, doorAlert, Worker.raisedAlert] using hid
  have hpairs : (visits.map fun v => (v.1.id, v.2)).Nodup := by
    decide
  obtain ⟨heach, hcycles⟩ := evaluations_commute hallway true hsupply rfl hready
  refine ⟨hsupply, rfl, hready, (heach _ _ (List.reverse_perm visits).symm hpairs).2, ?_⟩
  have hrules : (hallway.tenants.flatMap hallway.rules).Perm
      (["tenant-b", "tenant-a"].flatMap hallway.rules) :=
    (List.Perm.swap "tenant-b" "tenant-a" []).flatMap_right hallway.rules
  exact (hcycles {} _ _ _ (by decide) hrules (fun r => .refl _) hpairs).2.2

end TelemetryAlerts
