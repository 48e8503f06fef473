import TelemetryAlerts.Proofs.Store.Answer
import TelemetryAlerts.Proofs.Store.Serving

/-!
# The key server in place of the memory

A run of requests gets the same answers from the store on a key server as from the store
in memory. The server mirrors the alerts in memory all along, so every operation finds
there what it finds in memory; the order of the ids in the indexes does not show, since
alerts are listed by the instants at which they were triggered.

**Results.**
* `serve_refines`: one request is answered alike, and the server goes on mirroring.
* `answers_eq`: all requests of a regular run are answered alike.
-/

namespace TelemetryAlerts

/-! ### Regular runs -/

namespace Memory

/-- The alerts that a run puts in newly. -/
def taken (m : Memory) : List Turn → List Alert
  | [] => []
  | t :: turns =>
    let later := taken (m.serve t.now t.request).2 turns
    match t.request with
    | .create a => if m.hasOpen a.rule a.device then later else a :: later
    | _ => later

/-- The states in which the requests of a run are served. -/
def visited (m : Memory) : List Turn → List Memory
  | [] => []
  | t :: turns => m :: visited (m.serve t.now t.request).2 turns

/-- The answers to the requests of a run. -/
def answers (m : Memory) : List Turn → List Answer
  | [] => []
  | t :: turns =>
    t.request.answer (m.serve t.now t.request).1 ::
      answers (m.serve t.now t.request).2 turns

end Memory

/-- The answers of the store on a key server to the requests of a run. -/
def Indexed.answers (s : Server) : List Turn → List Answer
  | [] => []
  | t :: turns =>
    t.request.answer ((Indexed.serve t.now t.request).runOn s).1 ::
      answers ((Indexed.serve t.now t.request).runOn s).2 turns

/-- The server after a run, if no command fails. -/
def Indexed.reached (s : Server) (turns : List Turn) : Server :=
  turns.foldl (fun s t => ((Indexed.serve t.now t.request).runOn s).2) s

/-- What both stores rely on for an alert: its ids hold no colon, it was triggered at a
known instant, and its readings are proper mappings. -/
structure Alert.Plain (a : Alert) : Prop where
  rule : ':' ∉ a.rule.toList
  tenant : ':' ∉ a.tenant.toList
  device : ':' ∉ a.device.toList
  aware : a.triggeredAt.isAware = true
  names : a.namesDistinct = true

theorem Alert.Plain.colonless
    {a : Alert}
    (h : a.Plain) :
    a.Colonless :=
  ⟨h.tenant, h.rule, h.device⟩

theorem Change.plain_apply
    (c : Change) (a : Alert) :
    (c.apply a).Plain ↔ a.Plain := by
  constructor
  · rintro ⟨hrule, htenant, hdevice, haware, hnames⟩
    rw [c.rule_apply] at hrule
    rw [c.tenant_apply] at htenant
    rw [c.device_apply] at hdevice
    rw [c.triggeredAt_apply] at haware
    rw [Alert.namesDistinct, c.readings_apply] at hnames
    exact ⟨hrule, htenant, hdevice, haware, hnames⟩
  · rintro ⟨hrule, htenant, hdevice, haware, hnames⟩
    constructor
    · rwa [c.rule_apply]
    · rwa [c.tenant_apply]
    · rwa [c.device_apply]
    · rwa [c.triggeredAt_apply]
    · rwa [Alert.namesDistinct, c.readings_apply]

instance (a : Alert) : Decidable a.Plain :=
  decidable_of_iff
    (':' ∉ a.rule.toList ∧ ':' ∉ a.tenant.toList ∧ ':' ∉ a.device.toList ∧
      a.triggeredAt.isAware = true ∧ a.namesDistinct = true)
    ⟨fun ⟨hrule, htenant, hdevice, haware, hnames⟩ =>
        ⟨hrule, htenant, hdevice, haware, hnames⟩,
      fun ⟨hrule, htenant, hdevice, haware, hnames⟩ =>
        ⟨hrule, htenant, hdevice, haware, hnames⟩⟩

/-- A run that starts with some alerts: these and the ones it puts in are plain, with
different ids and instants, and it puts in open alerts only. -/
structure Regular (m : Memory) (turns : List Turn) : Prop where
  plain : ∀ a ∈ m.alerts ++ m.taken turns, a.Plain
  ids : ((m.alerts ++ m.taken turns).map Alert.id).Nodup
  instants : ((m.alerts ++ m.taken turns).map fun a => a.triggeredAt.instant).Nodup
  opened : ∀ a ∈ m.taken turns, a.isOpen = true

/-- Whenever a request of a run is served, no alert contains a whole number with too many
digits to be read. -/
def Legible (m : Memory) (turns : List Turn) : Prop :=
  ∀ m' ∈ m.visited turns, ∀ a ∈ m'.alerts, a.isLegible = true

namespace Indexed

open ServerAction

variable {s : Server} {m : Memory} {a : Alert} {alerts : List Alert}

/-! ### Single requests -/

/-- A change is made in both stores, or in neither. The indexes of open alerts and the
claims are left to what follows. -/
theorem run_update_cases
    (h : Mirrors m.alerts (OpenIn m.alerts) (OpenIn m.alerts) s)
    (hlegible : ∀ a ∈ m.alerts, a.isLegible = true)
    (hnames : ∀ a ∈ m.alerts, a.namesDistinct = true)
    (now : Moment) (c : Change) :
    (update now c.id c.tenant c.may c.apply).runOn s = (.ok none, s) ∧
        m.update c.id c.tenant c.may c.apply = (false, m) ∨
      ∃ a ∈ m.alerts, ∃ s',
        c.may a = true ∧
        (update now c.id c.tenant c.may c.apply).runOn s =
          (.ok (some (c.apply a).readBack), s') ∧
        m.update c.id c.tenant c.may c.apply = (true, m.insert (c.apply a)) ∧
        Mirrors (m.insert (c.apply a)).alerts (OpenIn m.alerts) (OpenIn m.alerts) s' := by
  have hrun := run_update h hlegible now c
  cases hfind : Memory.find? m c.id c.tenant with
  | none =>
      rw [hfind] at hrun
      exact Or.inl ⟨hrun, by rw [Memory.update, hfind]⟩
  | some a =>
      obtain ⟨ha, -, -⟩ := (Memory.find?_eq_some h.ids).mp hfind
      rw [hfind] at hrun
      by_cases hmay : c.may a = true
      · simp only [if_pos hmay] at hrun
        refine Or.inr ⟨a, ha, _, hmay, hrun, by simp [Memory.update, hfind, hmay], ?_⟩
        have hname : (c.apply a).namesDistinct = true := by
          rw [Alert.namesDistinct, c.readings_apply]
          exact hnames a ha
        rw [documentText_readBack hname, ← c.id_apply a]
        exact h.save ha (c.id_apply a) (c.tenant_apply a) (c.rule_apply a) (c.device_apply a)
      · simp only [if_neg hmay] at hrun
        exact Or.inl ⟨hrun, by simp [Memory.update, hfind, hmay]⟩

/-- A change that leaves an alert open or closed leaves the server in step. -/
theorem mirrors_insert
    {a₀ : Alert}
    (h : Mirrors (m.insert a).alerts (OpenIn m.alerts) (OpenIn m.alerts) s)
    (hids : (m.alerts.map Alert.id).Nodup)
    (ha₀ : a₀ ∈ m.alerts)
    (hid : a.id = a₀.id)
    (hopen : a.isOpen = a₀.isOpen) :
    Mirrors (m.insert a).alerts (OpenIn (m.insert a).alerts) (OpenIn (m.insert a).alerts) s := by
  have hiff (b : Alert) (hb : b ∈ (m.insert a).alerts) :
      OpenIn (m.insert a).alerts b.id ↔ OpenIn m.alerts b.id := by
    rw [openIn_iff h.ids hb]
    rcases (Memory.mem_put hids).mp hb with rfl | ⟨hb, -⟩
    · rw [hid, openIn_iff hids ha₀, hopen]
    · rw [openIn_iff hids hb]
  exact h.congr hiff hiff

/-- So does the end of an alert, after its claim was given up. -/
theorem mirrors_close
    (h : Mirrors (m.insert a).alerts (fun id => OpenIn m.alerts id ∧ id ≠ a.id)
      (fun id => OpenIn m.alerts id ∧ id ≠ a.id) s)
    (hids : (m.alerts.map Alert.id).Nodup)
    (hclosed : a.isOpen = false) :
    Mirrors (m.insert a).alerts (OpenIn (m.insert a).alerts) (OpenIn (m.insert a).alerts) s := by
  have hiff (b : Alert) (hb : b ∈ (m.insert a).alerts) :
      OpenIn (m.insert a).alerts b.id ↔ OpenIn m.alerts b.id ∧ b.id ≠ a.id := by
    rw [openIn_iff h.ids hb]
    rcases (Memory.mem_put hids).mp hb with rfl | ⟨hb, hne⟩
    · simp [hclosed]
    · simp [openIn_iff hids hb, hne]
  exact h.congr hiff hiff

/-- So does a new open alert. -/
theorem mirrors_append
    (h : Mirrors (alerts ++ [a]) (fun id => OpenIn alerts id ∨ id = a.id)
      (fun id => OpenIn alerts id ∨ id = a.id) s)
    (hids : (alerts.map Alert.id).Nodup)
    (hnew : a.id ∉ alerts.map Alert.id)
    (hopen : a.isOpen = true) :
    Mirrors (alerts ++ [a]) (OpenIn (alerts ++ [a])) (OpenIn (alerts ++ [a])) s := by
  have hiff (b : Alert) (hb : b ∈ alerts ++ [a]) :
      OpenIn (alerts ++ [a]) b.id ↔ OpenIn alerts b.id ∨ b.id = a.id := by
    rw [openIn_iff h.ids hb]
    rcases List.mem_append.mp hb with hb | hb
    · have hne : b.id ≠ a.id := fun heq => hnew (heq ▸ List.mem_map_of_mem hb)
      simp [openIn_iff hids hb, hne]
    · simp [List.mem_singleton.mp hb, hopen]
  exact h.congr hiff hiff

/-- A claim is held if and only if an alert is open for the rule and the device. -/
theorem isSome_claim
    (h : Mirrors m.alerts (OpenIn m.alerts) (OpenIn m.alerts) s)
    (hplain : ∀ a ∈ m.alerts, a.Plain)
    (rule device : String) :
    (s.find? (claimKey rule device)).isSome = m.hasOpen rule device := by
  rw [Bool.eq_iff_iff, h.isSome_claimKey]
  simp only [Memory.hasOpen, List.any_eq_true, Bool.and_eq_true, Alert.concerns, beq_iff_eq]
  refine exists_congr fun a => and_congr_right fun ha => ?_
  rw [claimKey_inj (hplain a ha).rule (hplain a ha).device, and_comm]

/-- A new alert is taken up by both stores, or by neither. -/
theorem create_refines
    (h : Mirrors m.alerts (OpenIn m.alerts) (OpenIn m.alerts) s)
    (hplain : ∀ a ∈ m.alerts, a.Plain)
    (now : Moment)
    (hcreate : m.hasOpen a.rule a.device = false →
      a.id ∉ m.alerts.map Alert.id ∧ a.isOpen = true) :
    ((create a).runOn s).1 = (m.serve now (.create a)).1 ∧
      Mirrors (m.serve now (.create a)).2.alerts (OpenIn (m.serve now (.create a)).2.alerts)
        (OpenIn (m.serve now (.create a)).2.alerts) ((create a).runOn s).2 := by
  have hclaim := isSome_claim h hplain a.rule a.device
  cases hopen : m.hasOpen a.rule a.device with
  | true =>
      rw [hopen] at hclaim
      have hrun : (create a).runOn s = (.error (.openAlertExists a.rule a.device), s) := by
        simp [runOn_eq, runWith_create, Server.execute, hclaim]
      rw [hrun]
      simp only [Memory.serve, hopen, if_true, true_and]
      exact h
  | false =>
      obtain ⟨hnew, hisOpen⟩ := hcreate hopen
      have hrun := run_create h hnew
      rw [hclaim, hopen] at hrun
      obtain ⟨s', hrun, hmirrors⟩ := hrun
      have hput : (m.insert a).alerts = m.alerts ++ [a] := Memory.put_of_new hnew
      rw [hrun]
      simp only [Memory.serve, hopen, Bool.false_eq_true, if_false, hput, true_and]
      exact mirrors_append hmirrors h.ids hnew hisOpen

/-- The alerts of an index that have a property are listed alike. -/
theorem listed_refines
    (h : Mirrors m.alerts (OpenIn m.alerts) (OpenIn m.alerts) s)
    (hplain : ∀ a ∈ m.alerts, a.Plain)
    (hapart : Apart m.alerts)
    (hlegible : ∀ a ∈ m.alerts, a.isLegible = true)
    (now : Moment)
    {key : String} (hkey : IsIndex key)
    {inIndex : Alert → Bool}
    (hmem : ∀ id, id ∈ s.set key ↔ ∃ a ∈ m.alerts, a.id = id ∧ inIndex a = true)
    (keep wanted : Alert → Bool)
    (hkeep : ∀ a, keep a.readBack = keep a)
    (hwanted : ∀ a, (inIndex a && keep a) = wanted a)
    (limited : List Alert → List Alert)
    (hlimited : ∀ alerts, limited (alerts.map Alert.readBack) =
      (limited alerts).map Alert.readBack)
    (hsub : ∀ alerts, ∀ a ∈ limited alerts, a ∈ alerts) :
    ∃ o : Outcome (List Alert),
      (do pure (limited (← listed now key keep)) : ServerAction (List Alert)).runOn s = (o, s) ∧
        (fun found => Answer.documents (found.map documentText)) <$> o =
          (fun found => Answer.documents (found.map documentText)) <$>
            (newestFirst (m.alerts.filter wanted)).map limited := by
  have hrun := run_listed h hlegible hapart now hkey hmem hkeep
  simp only [hwanted] at hrun
  rw [runOn_eq, runWith_bind, ← runOn_eq, hrun]
  cases hsort : newestFirst (m.alerts.filter wanted) with
  | error e =>
      exact ⟨_, rfl, rfl⟩
  | ok found =>
      refine ⟨_, rfl, ?_⟩
      have hnames : ∀ a ∈ limited found, a.namesDistinct = true := fun a ha =>
        (hplain a (List.mem_filter.mp ((mem_iff_of_newestFirst hsort).mp (hsub found a ha))).1).names
      change Except.ok (Answer.documents ((limited (found.map Alert.readBack)).map documentText)) = _
      rw [hlimited, documents_readBack hnames]
      rfl

theorem mem_tenantKey
    (h : Mirrors m.alerts (OpenIn m.alerts) (OpenIn m.alerts) s)
    (tenant id : String) :
    id ∈ s.set (tenantKey tenant) ↔
      ∃ a ∈ m.alerts, a.id = id ∧ (a.tenant == tenant) = true := by
  simp only [h.ofTenant, tenantKey_injective.eq_iff, beq_iff_eq]

theorem mem_pairKey
    (h : Mirrors m.alerts (OpenIn m.alerts) (OpenIn m.alerts) s)
    (hplain : ∀ a ∈ m.alerts, a.Plain)
    (rule device id : String) :
    id ∈ s.set (pairKey rule device) ↔
      ∃ a ∈ m.alerts, a.id = id ∧ a.concerns rule device = true := by
  simp only [h.mem_pairKey fun a ha => (hplain a ha).colonless, Alert.concerns,
    Bool.and_eq_true, beq_iff_eq]

theorem mem_openKey
    (h : Mirrors m.alerts (OpenIn m.alerts) (OpenIn m.alerts) s)
    (hplain : ∀ a ∈ m.alerts, a.Plain)
    (tenant device id : String) :
    id ∈ s.set (openKey tenant device) ↔
      ∃ a ∈ m.alerts, a.id = id ∧
        (a.tenant == tenant && (a.device == device && a.isOpen)) = true := by
  simp only [h.mem_openKey_of_colonless fun a ha => (hplain a ha).colonless,
    Bool.and_eq_true, beq_iff_eq]

/-- A change that leaves an alert open or closed is made alike. -/
theorem change_refines
    (h : Mirrors m.alerts (OpenIn m.alerts) (OpenIn m.alerts) s)
    (hlegible : ∀ a ∈ m.alerts, a.isLegible = true)
    (hnames : ∀ a ∈ m.alerts, a.namesDistinct = true)
    (now : Moment) (c : Change)
    (hopen : ∀ a, c.may a = true → (c.apply a).isOpen = a.isOpen) :
    ∃ a? s', (update now c.id c.tenant c.may c.apply).runOn s = (.ok a?, s') ∧
      a?.isSome = (m.update c.id c.tenant c.may c.apply).1 ∧
      Mirrors (m.update c.id c.tenant c.may c.apply).2.alerts
        (OpenIn (m.update c.id c.tenant c.may c.apply).2.alerts)
        (OpenIn (m.update c.id c.tenant c.may c.apply).2.alerts) s' := by
  rcases run_update_cases h hlegible hnames now c with
    ⟨hrun, hmemory⟩ | ⟨a, ha, s', hmay, hrun, hmemory, hmirrors⟩
  · rw [hmemory]
    exact ⟨_, _, hrun, rfl, h⟩
  · rw [hmemory]
    exact ⟨_, _, hrun, rfl, mirrors_insert hmirrors h.ids ha (c.id_apply a) (hopen a hmay)⟩

/-- So is the end of an alert, after which the pair is free again. -/
theorem resolve_refines
    (h : Mirrors m.alerts (OpenIn m.alerts) (OpenIn m.alerts) s)
    (hlegible : ∀ a ∈ m.alerts, a.isLegible = true)
    (hnames : ∀ a ∈ m.alerts, a.namesDistinct = true)
    (now : Moment) (id tenant : String) (reason? : Option String) :
    ((serve now (.resolve id tenant reason?)).runOn s).1 =
        (m.serve now (.resolve id tenant reason?)).1 ∧
      Mirrors (m.serve now (.resolve id tenant reason?)).2.alerts
        (OpenIn (m.serve now (.resolve id tenant reason?)).2.alerts)
        (OpenIn (m.serve now (.resolve id tenant reason?)).2.alerts)
        ((serve now (.resolve id tenant reason?)).runOn s).2 := by
  rcases run_update_cases h hlegible hnames now (.resolve now id tenant reason?) with
    ⟨hrun, hmemory⟩ | ⟨a, ha, s', hmay, hrun, hmemory, hmirrors⟩
  · have hserve : (serve now (.resolve id tenant reason?)).runOn s = (.ok false, s) :=
      runOn_bind_of_ok hrun _
    have hmem : m.serve now (.resolve id tenant reason?) = (.ok false, m) :=
      congrArg (fun p : Bool × Memory => (Except.ok p.1, p.2)) hmemory
    rw [hserve, hmem]
    exact ⟨rfl, h⟩
  · obtain ⟨s'', hclose, hclosed⟩ := run_close hmirrors
      ((Memory.mem_put h.ids).mpr (Or.inl rfl)) ⟨a, ha, rfl, hmay⟩
    have hserve : (serve now (.resolve id tenant reason?)).runOn s = (.ok true, s'') :=
      (runOn_bind_of_ok hrun _).trans (runOn_bind_of_ok hclose _)
    have hmem : m.serve now (.resolve id tenant reason?) =
        (.ok true, m.insert (a.resolve reason? now)) :=
      congrArg (fun p : Bool × Memory => (Except.ok p.1, p.2)) hmemory
    rw [hserve, hmem]
    exact ⟨rfl, mirrors_close hclosed h.ids rfl⟩

/-- One request is answered alike by both stores, and the server goes on mirroring the
alerts in memory. -/
theorem serve_refines
    (h : Mirrors m.alerts (OpenIn m.alerts) (OpenIn m.alerts) s)
    (hplain : ∀ a ∈ m.alerts, a.Plain)
    (hinstants : (m.alerts.map fun a => a.triggeredAt.instant).Nodup)
    (hlegible : ∀ a ∈ m.alerts, a.isLegible = true)
    (now : Moment) (r : Request)
    (hcreate : ∀ a, r = .create a → m.hasOpen a.rule a.device = false →
      a.id ∉ m.alerts.map Alert.id ∧ a.isOpen = true) :
    r.answer ((serve now r).runOn s).1 = r.answer (m.serve now r).1 ∧
      Mirrors (m.serve now r).2.alerts (OpenIn (m.serve now r).2.alerts)
        (OpenIn (m.serve now r).2.alerts) ((serve now r).runOn s).2 := by
  have hnames (a : Alert) (ha : a ∈ m.alerts) : a.namesDistinct = true := (hplain a ha).names
  have hapart : Apart m.alerts := ⟨fun a ha => (hplain a ha).aware, hinstants⟩
  cases r with
  | create a =>
      obtain ⟨hanswer, hmirrors⟩ := create_refines h hplain now (hcreate a rfl)
      exact ⟨congrArg _ hanswer, hmirrors⟩
  | get id tenant =>
      have hrun := run_loadFor_of_legible h hlegible now id tenant
      simp only [serve, hrun]
      refine ⟨?_, h⟩
      have hfound : ∀ a ∈ m.find? id tenant, a.namesDistinct = true := fun a ha =>
        hnames a ((Memory.find?_eq_some h.ids).mp ha).1
      exact congrArg Answer.document (document_readBack hfound)
  | openOn tenant device =>
      have hindex : IsIndex (openKey tenant device) := by simp [IsIndex]
      obtain ⟨o, hrun, ho⟩ := listed_refines h hplain hapart hlegible now hindex
        (mem_openKey h hplain tenant device) Alert.isOpen
        (fun a => a.tenant == tenant && (a.device == device && a.isOpen)) (fun _ => rfl)
        (fun a => by simp [Bool.and_assoc]) (fun alerts => alerts) (fun _ => rfl)
        (fun _ _ ha => ha)
      rw [bind_pure] at hrun
      simp only [serve, hrun]
      refine ⟨Request.answer_alike _ (ho.trans ?_), h⟩
      rw [Memory.serve, Memory.ofTenant]
      cases newestFirst (m.alerts.filter fun a =>
        a.tenant == tenant && (a.device == device && a.isOpen)) <;> rfl
  | latestOf rule device =>
      have hindex : IsIndex (pairKey rule device) := by simp [IsIndex]
      have hrun := run_newest h hlegible hapart now hindex (mem_pairKey h hplain rule device)
      refine ⟨?_, ?_⟩
      · simp only [serve, hrun, Memory.serve]
        cases hnewest : newest? (m.alerts.filter fun a => a.concerns rule device) with
        | error e =>
            rfl
        | ok a? =>
            refine congrArg Answer.document (document_readBack fun a ha => ?_)
            rw [Option.mem_def.mp ha] at hnewest
            exact hnames a (List.mem_filter.mp (mem_of_newest? hnewest)).1
      · simp only [serve, hrun]
        exact h
  | acknowledge id tenant who? notes? =>
      obtain ⟨a?, s', hrun, hdone, hmirrors⟩ := change_refines h hlegible hnames now
        (.acknowledge now id tenant who? notes?)
        (Change.isOpen_acknowledge now id tenant who? notes?)
      have hserve : (serve now (.acknowledge id tenant who? notes?)).runOn s =
          (.ok a?.isSome, s') :=
        runOn_bind_of_ok hrun _
      rw [hserve]
      exact ⟨congrArg Answer.flag hdone, hmirrors⟩
  | resolve id tenant reason? =>
      obtain ⟨hanswer, hmirrors⟩ := resolve_refines h hlegible hnames now id tenant reason?
      exact ⟨congrArg _ hanswer, hmirrors⟩
  | recordNotifications id tenant count =>
      obtain ⟨a?, s', hrun, -, hmirrors⟩ := change_refines h hlegible hnames now
        (.recordNotifications now id tenant count) fun _ _ => rfl
      have hserve : (serve now (.recordNotifications id tenant count)).runOn s =
          (.ok (), s') :=
        runOn_bind_of_ok hrun _
      rw [hserve]
      exact ⟨rfl, hmirrors⟩
  | markEscalated id tenant at_ =>
      obtain ⟨a?, s', hrun, -, hmirrors⟩ := change_refines h hlegible hnames now
        (.markEscalated id tenant at_) fun _ _ => rfl
      have hserve : (serve now (.markEscalated id tenant at_)).runOn s = (.ok (), s') :=
        runOn_bind_of_ok hrun _
      rw [hserve]
      exact ⟨rfl, hmirrors⟩
  | list tenant filter limit =>
      have hindex : IsIndex (tenantKey tenant) := by simp [IsIndex]
      obtain ⟨o, hrun, ho⟩ := listed_refines h hplain hapart hlegible now hindex
        (mem_tenantKey h tenant) filter.passes (fun a => a.tenant == tenant && filter.passes a)
        (fun _ => rfl) (fun _ => rfl) (upTo limit) (upTo_map _ limit) (fun _ _ => mem_of_upTo)
      simp only [serve, hrun]
      exact ⟨Request.answer_alike _ ho, h⟩
  | ofRule tenant rule limit =>
      have hindex : IsIndex (tenantKey tenant) := by simp [IsIndex]
      obtain ⟨o, hrun, ho⟩ := listed_refines h hplain hapart hlegible now hindex
        (mem_tenantKey h tenant) (fun a => a.rule == rule)
        (fun a => a.tenant == tenant && a.rule == rule)
        (fun _ => rfl) (fun _ => rfl) (upTo limit) (upTo_map _ limit) (fun _ _ => mem_of_upTo)
      simp only [serve, hrun]
      exact ⟨Request.answer_alike _ ho, h⟩
  | statistics tenant =>
      have hindex : IsIndex (tenantKey tenant) := by simp [IsIndex]
      have hrun := run_counts h hlegible now hindex (mem_tenantKey h tenant)
      simp only [serve, hrun, Memory.serve, Memory.ofTenant, Bool.and_true]
      exact ⟨trivial, h⟩

/-! ### Whole runs -/

end Indexed

namespace Memory

variable {m : Memory} {t : Turn} {turns : List Turn}

/-- What no change touches is the same of the alerts of a run before and after its first
request. -/
theorem map_append_taken
    {β : Type} {f : Alert → β}
    (hf : ∀ (c : Change) (a : Alert), f (c.apply a) = f a)
    (hids : ((m.alerts ++ m.taken (t :: turns)).map Alert.id).Nodup) :
    ((m.serve t.now t.request).2.alerts ++ (m.serve t.now t.request).2.taken turns).map f =
      (m.alerts ++ m.taken (t :: turns)).map f := by
  have hold : (m.alerts.map Alert.id).Nodup := by
    rw [List.map_append] at hids
    exact hids.of_append_left
  have hchange (c : Change) (later : List Alert) :
      ((m.update c.id c.tenant c.may c.apply).2.alerts ++ later).map f =
        (m.alerts ++ later).map f := by
    rw [List.map_append, List.map_append, map_update f hold c (hf c)]
  obtain ⟨now, r, faults⟩ := t
  cases r with
  | create a =>
      simp only [taken] at hids ⊢
      cases hopen : m.hasOpen a.rule a.device with
      | true =>
          simp only [serve, hopen, if_true]
      | false =>
          simp only [serve, hopen, Bool.false_eq_true, if_false] at hids ⊢
          have hnew : a.id ∉ m.alerts.map Alert.id := by
            rw [List.map_append, List.map_cons] at hids
            exact fun hmem => (List.nodup_append.mp hids).2.2 _ hmem _ (by simp) rfl
          rw [insert, put_of_new hnew, List.append_assoc]
          rfl
  | acknowledge id tenant who? notes? =>
      exact hchange (.acknowledge now id tenant who? notes?) _
  | resolve id tenant reason? =>
      exact hchange (.resolve now id tenant reason?) _
  | recordNotifications id tenant count =>
      exact hchange (.recordNotifications now id tenant count) _
  | markEscalated id tenant at_ =>
      exact hchange (.markEscalated id tenant at_) _
  | _ =>
      rfl

theorem taken_serve_subset :
    (m.serve t.now t.request).2.taken turns ⊆ m.taken (t :: turns) := by
  intro a ha
  rw [taken]
  split
  · split_ifs
    · exact ha
    · exact List.mem_cons_of_mem _ ha
  · exact ha

end Memory

namespace Regular

variable {m : Memory} {t : Turn} {turns : List Turn}

theorem tail
    (h : Regular m (t :: turns)) :
    Regular (m.serve t.now t.request).2 turns where
  plain := by
    have hplain : ∀ p ∈ (m.alerts ++ m.taken (t :: turns)).map Alert.Plain, p :=
      List.forall_mem_map.mpr h.plain
    rw [← Memory.map_append_taken (fun c a => propext (Change.plain_apply c a)) h.ids] at hplain
    exact fun a ha => hplain a.Plain (List.mem_map_of_mem ha)
  ids := by
    rw [Memory.map_append_taken Change.id_apply h.ids]
    exact h.ids
  instants := by
    rw [Memory.map_append_taken (fun c a => by rw [c.triggeredAt_apply]) h.ids]
    exact h.instants
  opened a ha := h.opened a (Memory.taken_serve_subset ha)

/-- An alert that is put in is new and open. -/
theorem create
    (h : Regular m (t :: turns))
    {a : Alert}
    (hr : t.request = .create a)
    (hopen : m.hasOpen a.rule a.device = false) :
    a.id ∉ m.alerts.map Alert.id ∧ a.isOpen = true := by
  have htaken : m.taken (t :: turns) =
      a :: (m.serve t.now t.request).2.taken turns := by
    simp [Memory.taken, hr, hopen]
  refine ⟨fun hmem => ?_, h.opened a (by rw [htaken]; simp)⟩
  have hids := h.ids
  rw [htaken, List.map_append, List.map_cons] at hids
  exact (List.nodup_append.mp hids).2.2 _ hmem _ (by simp) rfl

end Regular

namespace Indexed

open ServerAction

theorem run_refines
    {s : Server} {m : Memory} {turns : List Turn}
    (hmirrors : Mirrors m.alerts (OpenIn m.alerts) (OpenIn m.alerts) s)
    (h : Regular m turns)
    (hlegible : Legible m turns) :
    answers s turns = m.answers turns ∧
      Mirrors (m.after turns).alerts (OpenIn (m.after turns).alerts)
        (OpenIn (m.after turns).alerts) (reached s turns) := by
  induction turns generalizing s m with
  | nil =>
      exact ⟨rfl, hmirrors⟩
  | cons t turns ih =>
      have hinstants := h.instants
      rw [List.map_append] at hinstants
      obtain ⟨hanswer, hnext⟩ := serve_refines hmirrors
        (fun a ha => h.plain a (List.mem_append_left _ ha)) hinstants.of_append_left
        (hlegible m (by simp [Memory.visited])) t.now t.request fun a => h.create
      obtain ⟨hanswers, hlast⟩ := ih hnext h.tail
        fun m' hm' => hlegible m' (List.mem_cons_of_mem _ hm')
      refine ⟨?_, hlast⟩
      rw [answers, Memory.answers, hanswer, hanswers]

end Indexed

/-- Starting empty, the store on a key server answers every request of a regular run as
the store in memory does, if no whole number outgrows what is read. -/
theorem answers_eq
    (turns : List Turn)
    (h : Regular {} turns)
    (hlegible : Legible {} turns) :
    Indexed.answers {} turns = Memory.answers {} turns :=
  (Indexed.run_refines Indexed.Mirrors.empty h hlegible).1

/-- Two alerts of one tenant, of which one ends, and a list of both. -/
def shortRun : List Turn :=
  let noon : Moment := ⟨2025, 1, 1, 12, 0, 0, 0, some 0, by decide⟩
  let evening : Moment := ⟨2025, 1, 1, 18, 30, 0, 0, some 60, by decide⟩
  [⟨noon, .create (.raised "a" "t" "r" "d" noon), []⟩,
    ⟨noon, .acknowledge "a" "t" (some "op") none, []⟩,
    ⟨noon, .resolve "a" "t" none, []⟩,
    ⟨evening, .create (.raised "b" "t" "r" "d" evening), []⟩,
    ⟨evening, .list "t" {} 100, []⟩]

theorem answers_eq_shortRun :
    Regular {} shortRun ∧ Legible {} shortRun ∧
      Indexed.answers {} shortRun = Memory.answers {} shortRun := by
  have hregular : Regular {} shortRun :=
    ⟨by decide, by decide, by decide, by decide⟩
  have hlegible : Legible {} shortRun := by
    unfold Legible
    decide
  exact ⟨hregular, hlegible, answers_eq shortRun hregular hlegible⟩

/-! ### Numbers that are too long -/

theorem Indexed.answers_append
    (s : Server) (turns : List Turn) (t : Turn) :
    Indexed.answers s (turns ++ [t]) =
      Indexed.answers s turns ++
        [t.request.answer ((Indexed.serve t.now t.request).runOn (Indexed.reached s turns)).1] := by
  induction turns generalizing s with
  | nil =>
      rfl
  | cons u turns ih =>
      rw [List.cons_append, Indexed.answers, ih]
      rfl

theorem Memory.answers_append
    (m : Memory) (turns : List Turn) (t : Turn) :
    m.answers (turns ++ [t]) =
      m.answers turns ++ [t.request.answer ((m.after turns).serve t.now t.request).1] := by
  induction turns generalizing m with
  | nil =>
      rfl
  | cons u turns ih =>
      rw [List.cons_append, Memory.answers, ih]
      rfl

/-- Once an alert contains a whole number that is too long, a request to acknowledge it is
served by the store in memory only. -/
theorem answers_ne_of_illegible
    (turns : List Turn)
    (h : Regular {} turns)
    (hlegible : Legible {} turns)
    {a : Alert}
    (ha : a ∈ (Memory.after {} turns).alerts)
    (hlong : a.isLegible = false)
    (now : Moment) (tenant : String) :
    Indexed.answers {} (turns ++ [⟨now, .acknowledge a.id tenant none none, []⟩]) ≠
      Memory.answers {} (turns ++ [⟨now, .acknowledge a.id tenant none none, []⟩]) := by
  obtain ⟨hanswers, hmirrors⟩ := Indexed.run_refines Indexed.Mirrors.empty h hlegible
  have hload := Indexed.run_loadFor_of_illegible hmirrors ha hlong now tenant
  have hserve : ((Indexed.serve now (.acknowledge a.id tenant none none)).runOn
      (Indexed.reached {} turns)).1 = .error (.kind .unusableValue) := by
    simp only [Indexed.serve, Indexed.update, ServerAction.runOn_eq, ServerAction.runWith_bind]
    rw [← ServerAction.runOn_eq, hload]
  rw [Indexed.answers_append, Memory.answers_append, hanswers, hserve]
  intro heq
  cases List.cons.inj (List.append_cancel_left heq) |>.1

/-- An alert of which a number of notifications was recorded. -/
def notified (count : Int) : Alert :=
  let noon : Moment := ⟨2025, 1, 1, 12, 0, 0, 0, some 0, by decide⟩
  { Alert.raised "a1" "tenant-a" "rule-1" "dev-1" noon with notifications := count }

/-- A run that records a number of notifications and one more. -/
def countingRun (count : Int) : List Turn :=
  let noon : Moment := ⟨2025, 1, 1, 12, 0, 0, 0, some 0, by decide⟩
  [⟨noon, .create (notified 0), []⟩,
    ⟨noon, .recordNotifications "a1" "tenant-a" count, []⟩,
    ⟨noon, .recordNotifications "a1" "tenant-a" 1, []⟩]

theorem isLegible_notified
    (count : Int) :
    (notified count).isLegible = true ↔ count.natAbs < 10 ^ Json.maxWholeDigits := by
  have hreadings : Json.areLegibleFields (notified count).readings = true := rfl
  have hescalations : Json.isLegible (.int (notified count).escalations) = true :=
    (Alert.isLegible_int_iff 0).mpr (Nat.pow_pos (by decide))
  rw [Alert.isLegible_iff, ← Alert.isLegible_int_iff]
  simp only [hreadings, hescalations, true_and, and_true]
  rfl

/-- With the largest number that is read and one more, the stores differ. -/
theorem answers_ne_countingRun :
    ¬ ∀ turns, Regular {} turns → Indexed.answers {} turns = Memory.answers {} turns := by
  intro hall
  obtain ⟨largest, hlargest⟩ : ∃ n : Nat, n + 1 = 10 ^ Json.maxWholeDigits :=
    ⟨10 ^ Json.maxWholeDigits - 1, Nat.sub_add_cancel (Nat.pow_pos (by decide))⟩
  let last : Turn :=
    ⟨⟨2025, 1, 1, 12, 0, 0, 0, some 0, by decide⟩, .acknowledge "a1" "tenant-a" none none, []⟩
  have hregular (turns : List Turn) (htaken : Memory.taken {} turns = [notified 0]) :
      Regular {} turns := by
    constructor <;> rw [htaken] <;> decide
  have hlegible : Legible {} (countingRun largest) := by
    have hvisited : Memory.visited {} (countingRun largest) =
        [⟨[]⟩, ⟨[notified 0]⟩, ⟨[notified (0 + largest)]⟩] := rfl
    rw [Legible, hvisited]
    simp only [List.forall_mem_cons, List.not_mem_nil, false_implies, implies_true, and_true,
      true_and, isLegible_notified]
    omega
  have hlong : (notified (0 + largest + 1)).isLegible = false := by
    rw [Bool.eq_false_iff, ne_eq, isLegible_notified]
    omega
  have hlast : notified (0 + largest + 1) ∈ (Memory.after {} (countingRun largest)).alerts :=
    List.mem_singleton_self _
  exact answers_ne_of_illegible _ (hregular _ rfl) hlegible hlast hlong _ _
    (hall (countingRun largest ++ [last]) (hregular _ rfl))

end TelemetryAlerts
