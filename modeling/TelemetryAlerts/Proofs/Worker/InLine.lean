import TelemetryAlerts.Proofs.Worker.Cooldown
import TelemetryAlerts.Proofs.Worker.Settling

/-!
# One evaluation at a store in memory

An evaluation of a rule for a device brings the store in line with the rule: afterwards an
alert is open just if the rule fires, unless the rule cools down. It raises, ends or escalates
one alert at most, and touches no other. The store may hold anything; only the id that is
drawn next must not be in use.

**Results.**
* `evaluateDevice_inLine`: what an evaluation makes of a store.
-/

namespace TelemetryAlerts

open Program (exists_ends_call)

namespace Memory

theorem ext
    {m m' : Memory}
    (h : m.alerts = m'.alerts) :
    m = m' := by
  cases m
  cases m'
  exact congrArg Memory.mk h

theorem put_concat
    {v : List Alert} {a b : Alert}
    (hid : b.id = a.id)
    (hnew : a.id ∉ v.map Alert.id) :
    put b (v ++ [a]) = v ++ [b] := by
  induction v with
  | nil =>
      simp [put, hid]
  | cons c rest ih =>
      simp only [List.map_cons, List.mem_cons, not_or] at hnew
      rw [List.cons_append, put, if_neg (by rw [hid]; exact Ne.symm hnew.1), ih hnew.2,
        List.cons_append]

theorem put_put
    {v : List Alert} {a b : Alert}
    (hid : b.id = a.id) :
    put b (put a v) = put b v := by
  induction v with
  | nil =>
      simp [put, hid]
  | cons c rest ih =>
      by_cases hc : c.id = a.id
      · rw [put, if_pos hc, put, if_pos hid.symm, put, if_pos (hc.trans hid.symm)]
      · rw [put, if_neg hc, put, if_neg (by rwa [hid]), ih, put, if_neg (by rwa [hid])]

end Memory

/-- What surrounds one evaluation: what the telemetry source replies, what the clock shows, and
which id is drawn next. -/
structure Occasion where
  telemetry : Outcome Snapshot
  now : Moment
  nextId : String

namespace Occasion

/-- The telemetry that an evaluation goes by: nothing if it cannot be had. -/
def snapshot (x : Occasion) : Snapshot :=
  match x.telemetry with
  | .ok s => s
  | .error _ => []

/-- The store is in memory and serves requests at any time. -/
def setting (x : Occasion) : Setting Memory where
  keeping := Memory.keeping
  replies
    | .telemetry _ _, reply => reply = x.telemetry
    | .now, t => t = x.now
    | .freshId, id => id = x.nextId
    | _, _ => True
  stamps _ := True
  faulty := False
  alone := False

/-- An evaluation of a rule for a device, by itself, takes one store to another. -/
def Ends (x : Occasion) (again : Bool) (r : Rule) (device : String) (m : Memory)
    (o : Outcome Transition) (m' : Memory) : Prop :=
  ∃ w, Program.Ends (x.setting.Reacts False ()) (ExceptT.run (Worker.evaluateDevice again r device))
    (Clocked.start m) o w ∧ w.store = m'

end Occasion

/-- Whether an alert is the open one of a rule and a device. -/
def Alert.IsOpenFor (a : Alert) (r : Rule) (device : String) : Prop :=
  a.isOpen = true ∧ a.tenant = r.tenant ∧ a.concerns r.id device = true

/-- What a transition for a rule and a device makes of a store. -/
structure InLine (x : Occasion) (r : Rule) (device : String) (t : Transition) (m m' : Memory) :
    Prop where
  /-- An alert is open just if the rule fires, unless it cools down. -/
  open_iff : (∃ a ∈ m'.alerts, a.IsOpenFor r device) ↔
    r.fires x.snapshot = true ∧ t ≠ .suppress
  new_iff : (∃ a ∈ m'.alerts, a.id ∉ m.alerts.map Alert.id) ↔ t = .trigger
  raised : t = .trigger → ∃ a, m'.alerts = m.alerts ++ [a] ∧ a.status = .active ∧
    a.tenant = r.tenant ∧ a.rule = r.id ∧ a.device = device ∧ a.readings = x.snapshot ∧
    a.severity = r.severityFor x.snapshot ∧ a.triggeredAt = x.now
  /-- Only the open alert of the rule and the device is ended or escalated. -/
  moved : t = .resolve ∨ t = .escalate → ∃ a ∈ m.alerts, a.IsOpenFor r device ∧
    ∃ b, b.origin = a.origin ∧ m'.alerts = Memory.put b m.alerts ∧
      if t = .resolve then b.status = .resolved
      else b.status = a.status ∧ b.lastEscalatedAt? = some x.now
  still : t = .suppress ∨ t = .none → m' = m
  others : ∀ a ∈ m.alerts, ¬ ((t = .resolve ∨ t = .escalate) ∧ a.IsOpenFor r device) →
    a ∈ m'.alerts

section

variable {x : Occasion} {r : Rule} {device : String} {again : Bool} {m m' : Memory} {a b : Alert}
  {t : Transition}

/-- The open alert of a rule and a device is the only one. -/
theorem Memory.Orderly.eq_of_isOpenFor
    (hm : m.Orderly)
    (ha : a ∈ m.alerts)
    (hb : b ∈ m.alerts)
    (hopena : a.IsOpenFor r device)
    (hopenb : b.IsOpenFor r device) :
    a = b := by
  obtain ⟨hopena, -, hpaira⟩ := hopena
  obtain ⟨hopenb, -, hpairb⟩ := hopenb
  simp only [Alert.concerns, Bool.and_eq_true, beq_iff_eq] at hpaira hpairb
  exact List.inj_on_of_nodup_map hm.ids ha hb (hm.claims a ha b hb hopena hopenb
    (hpaira.1.trans hpairb.1.symm) (hpaira.2.trans hpairb.2.symm))

namespace InLine

theorem of_raised
    (hfires : r.fires x.snapshot = true)
    (hnew : a.id ∉ m.alerts.map Alert.id)
    (hm' : m'.alerts = m.alerts ++ [a])
    (hactive : a.status = .active)
    (htenant : a.tenant = r.tenant)
    (hrule : a.rule = r.id)
    (hdevice : a.device = device)
    (hreadings : a.readings = x.snapshot)
    (hseverity : a.severity = r.severityFor x.snapshot)
    (htriggered : a.triggeredAt = x.now) :
    InLine x r device .trigger m m' where
  open_iff := by
    refine ⟨fun _ => ⟨hfires, by simp⟩, fun _ => ⟨a, by simp [hm'], ?_, htenant, ?_⟩⟩
    · rw [Alert.isOpen, hactive]
      rfl
    · simp [Alert.concerns, hrule, hdevice]
  new_iff := ⟨fun _ => rfl, fun _ => ⟨a, by simp [hm'], hnew⟩⟩
  raised _ := ⟨a, hm', hactive, htenant, hrule, hdevice, hreadings, hseverity, htriggered⟩
  moved := by simp
  still := by simp
  others b hb _ := by simp [hm', hb]

theorem of_moved
    (hm : m.Orderly)
    (ha : a ∈ m.alerts)
    (hopen : a.IsOpenFor r device)
    (horigin : b.origin = a.origin)
    (hm' : m'.alerts = Memory.put b m.alerts)
    (hmoved : t = .resolve ∧ r.fires x.snapshot = false ∧ b.status = .resolved ∨
      t = .escalate ∧ r.fires x.snapshot = true ∧ b.status = a.status ∧
        b.lastEscalatedAt? = some x.now) :
    InLine x r device t m m' := by
  obtain ⟨hid, htenant, hrule, hdevice, -⟩ := Alert.origin_eq_iff.mp horigin
  have hmem (c : Alert) : c ∈ m'.alerts ↔ c = b ∨ c ∈ m.alerts ∧ c.id ≠ b.id := by
    rw [hm', Memory.mem_put hm.ids]
  have hother (c : Alert) (hc : c ∈ m.alerts) (hne : c.id ≠ b.id) : ¬ c.IsOpenFor r device :=
    fun hopenc => hne (by rw [hm.eq_of_isOpenFor hc ha hopenc hopen, hid])
  have ht : t = .resolve ∨ t = .escalate := hmoved.imp And.left And.left
  refine ⟨?_, ?_, ?_, fun _ => ⟨a, ha, hopen, b, horigin, hm', ?_⟩, ?_, fun c hc hnot => ?_⟩
  · rcases hmoved with ⟨rfl, hfires, hstatus⟩ | ⟨rfl, hfires, hstatus, -⟩
    · simp only [hfires, Bool.false_eq_true, false_and, iff_false]
      rintro ⟨c, hc, hopenc⟩
      rcases (hmem c).mp hc with rfl | ⟨hc, hne⟩
      · simp [Alert.IsOpenFor, Alert.isOpen, hstatus, Status.isOpen] at hopenc
      · exact hother c hc hne hopenc
    · refine ⟨fun _ => ⟨hfires, by simp⟩, fun _ => ⟨b, (hmem b).mpr (Or.inl rfl), ?_⟩⟩
      simpa only [Alert.IsOpenFor, Alert.isOpen, Alert.concerns, hstatus, htenant, hrule, hdevice]
        using hopen
  · refine ⟨?_, ?_⟩
    · rintro ⟨c, hc, hnew⟩
      rcases (hmem c).mp hc with rfl | ⟨hc, -⟩
      · exact absurd (by rw [hid]; exact List.mem_map_of_mem ha) hnew
      · exact absurd (List.mem_map_of_mem hc) hnew
    · rintro rfl
      simp at ht
  · rintro rfl
    simp at ht
  · rcases hmoved with ⟨rfl, -, hstatus⟩ | ⟨rfl, -, hstatus⟩
    · rwa [if_pos rfl]
    · rwa [if_neg (by simp)]
  · rintro (rfl | rfl) <;> simp at ht
  · refine (hmem c).mpr (Or.inr ⟨hc, fun hcb => hnot ⟨ht, ?_⟩⟩)
    rwa [List.inj_on_of_nodup_map hm.ids hc ha (hcb.trans hid)]

theorem of_still
    (ht : t = .suppress ∨ t = .none)
    (hm' : m' = m)
    (hopen : (∃ a ∈ m.alerts, a.IsOpenFor r device) ↔ r.fires x.snapshot = true ∧ t ≠ .suppress) :
    InLine x r device t m m' := by
  subst hm'
  refine ⟨hopen, ⟨?_, ?_⟩, ?_, ?_, fun _ => rfl, fun a ha _ => ha⟩
  · rintro ⟨a, ha, hnew⟩
    exact absurd (List.mem_map_of_mem ha) hnew
  all_goals
    intro h
    rcases ht with rfl | rfl <;> simp at h

end InLine

/-! ### From the outcome to the store -/

/-- Recording notifications changes nothing of an alert but their number and its last change. -/
theorem put_of_records
    {report : Report} {p p' : List Alert}
    (h : Records x.setting a report p (.ok ()) p') :
    p' = p ∨ ∃ count now, p' = Memory.put (a.recordNotifications count now) p := by
  cases h with
  | none hempty =>
      exact Or.inl rfl
  | done hsome hread hnow =>
      exact Or.inr ⟨_, _, rfl⟩

theorem isOpenFor_of_finds
    {open? : Option Alert}
    (hfinds : Finds r device Memory.manner m.alerts open?) :
    open?.isSome = true ↔ ∃ a ∈ m.alerts, a.IsOpenFor r device := by
  cases open? with
  | some b =>
      obtain ⟨a, ha, -, hopen⟩ := hfinds
      exact ⟨fun _ => ⟨a, ha, hopen⟩, fun _ => rfl⟩
  | none =>
      refine ⟨fun h => absurd h Bool.false_ne_true, ?_⟩
      rintro ⟨a, ha, hopen, htenant, hpair⟩
      rw [hfinds a ha hopen htenant] at hpair
      cases hpair

/-- What is done by a decision. -/
theorem inLine_of_does
    {open? last? : Option Alert}
    (hm : m.Orderly)
    (hid : x.nextId ∉ m.alerts.map Alert.id)
    (hfinds : Finds r device Memory.manner m.alerts open?)
    (hchoose : Transition.choose open? (r.fires x.snapshot) last? r x.now again = .ok t)
    (hdoes : Does x.setting r device x.snapshot m.alerts x.now t open? (.ok ()) m'.alerts) :
    InLine x r device t m m' := by
  have hcases := choose_cases hchoose
  have hfound (b : Alert) (hopen : open? = some b) (a : Alert) (ha : a ∈ m.alerts)
      (hab : Memory.manner.reading a = .ok b) : a.IsOpenFor r device := by
    subst hopen
    obtain ⟨c, -, hcb, hc⟩ := hfinds
    cases hab
    cases hcb
    exact hc
  generalize hp : m'.alerts = p' at hdoes
  generalize ho : (.ok () : Outcome Unit) = o at hdoes
  cases hdoes with
  | refused htaken =>
      cases ho
  | @raised _ id report _ _ hfree hfresh hnew hreport hrecords =>
      subst ho
      obtain rfl : id = x.nextId := hfresh
      obtain ⟨-, hfires⟩ : open? = none ∧ r.fires x.snapshot = true := by simpa using hcases
      rcases put_of_records hrecords with rfl | ⟨count, now, rfl⟩
      · exact .of_raised hfires hid hp rfl rfl rfl rfl rfl rfl rfl
      · exact .of_raised hfires hid (hp.trans (Memory.put_concat rfl hid)) rfl rfl rfl rfl rfl rfl rfl
  | kept ht =>
      refine .of_still ht ?_ ?_
      · exact Memory.ext hp
      · rw [← isOpenFor_of_finds hfinds]
        rcases ht with rfl | rfl
        · obtain ⟨rfl, -⟩ : open? = none ∧ r.fires x.snapshot = true := by simpa using hcases
          simp
        · have hopen : open?.isSome = r.fires x.snapshot := by simpa using hcases
          simp [hopen]
  | @ended a b at_ ha hread hat =>
      have hfires : r.fires x.snapshot = false := by simpa using hcases
      exact .of_moved (b := a.resolve _ at_) hm ha (hfound b rfl a ha hread) rfl hp
        (Or.inl ⟨rfl, hfires, rfl⟩)
  | @escalated a b report _ p' ha hread hreport hrecords =>
      subst ho
      have hopen := hfound b rfl a ha hread
      have hfires : r.fires x.snapshot = true := by simpa using hcases
      rcases put_of_records hrecords with rfl | ⟨count, now, rfl⟩
      · exact .of_moved (b := a.escalate x.now) hm ha hopen rfl hp
          (Or.inr ⟨rfl, hfires, rfl, rfl⟩)
      · exact .of_moved (b := (a.escalate x.now).recordNotifications count now) hm ha hopen rfl
          (hp.trans (Memory.put_put rfl)) (Or.inr ⟨rfl, hfires, rfl, rfl⟩)

/-! ### Whole evaluations -/

/-- One task has all alerts to itself. -/
def Accord.solo (r : Rule) : Accord Unit where
  rules := (· = r)
  raises _ _ _ := True
  owns _ _ := True
  guarded _ := False
  once := False
  known _ _ := True

theorem Accord.upheld_solo
    (r : Rule) :
    (Accord.solo r).Upheld :=
  ⟨fun _ _ => trivial, fun _ _ _ => trivial, fun _ _ _ => trivial, fun _ _ => trivial⟩

theorem Occasion.scope
    (x : Occasion) (r : Rule) (device : String) :
    Scope x.setting (.solo r) () (fun _ => true) r device where
  upheld := Accord.upheld_solo r
  rule := rfl
  raises _ _ := trivial
  lax := ⟨id, fun _ => id⟩
  tells _ _ _ := rfl
  owns _ _ := trivial
  apart _ _ _ _ := rfl
  onDevice _ _ _ halike := by
    simpa [Occasion.setting, Memory.keeping] using halike
  onPair _ _ _ _ := rfl

/-- What an evaluation does to a store is told by what it makes of the list of its alerts. -/
theorem Occasion.Ends.evaluates
    {o : Outcome Transition}
    (hm : m.Orderly)
    (hid : x.nextId ∉ m.alerts.map Alert.id)
    (hends : x.Ends again r device m o m') :
    ∃ lists, Evaluates x.setting r device again lists m.alerts o m'.alerts := by
  obtain ⟨w, hends, rfl⟩ := hends
  obtain ⟨v, hends⟩ := hends.behind (fun _ _ _ _ v h => Setting.unfolds h v) m.alerts
  have hgood : Good x.setting (.solo r) (Clocked.start m, m.alerts) := by
    refine ⟨⟨hm, rfl⟩, fun a ha hfresh => ?_, fun _ _ => trivial⟩
    rw [← show a.id = x.nextId from hfresh] at hid
    exact absurd (List.mem_map_of_mem ha) hid
  have hfocus : Focus x.setting (.solo r) () (fun _ => true) [] m.alerts [] []
      (Clocked.start m, m.alerts) :=
    ⟨hgood, by simp, List.filter_true _, by simp, by simp⟩
  obtain ⟨p, hfocus, hevaluates | ⟨hfaulty, -⟩⟩ :=
    (safe_evaluateDevice (x.scope r device) (fun _ _ _ _ => trivial) _ hfocus).ends hends
  · have hp : p = w.store.alerts := by
      rw [← hfocus.lens, List.filter_true]
      exact hfocus.good.shown.2.symm
    exact ⟨_, hp ▸ hevaluates⟩
  · exact absurd hfaulty id

/-- An evaluation of a rule for a device that does not fail brings the store in line with the
rule, and touches nothing else: whatever alerts the store holds, at most one of them open for
a rule and a device, whatever the telemetry, the clock and the reports of the channels are.
Without telemetry nothing is done. -/
theorem evaluateDevice_inLine
    {o : Outcome Transition}
    (hm : m.Orderly)
    (hid : x.nextId ∉ m.alerts.map Alert.id)
    (hends : x.Ends again r device m o m') :
    (x.snapshot = [] → o = .ok .none ∧ m' = m) ∧
      (x.snapshot ≠ [] → ∀ t, o = .ok t → InLine x r device t m m') := by
  obtain ⟨lists, hevaluates⟩ := hends.evaluates hm hid
  generalize hp : m'.alerts = p' at hevaluates
  cases hevaluates with
  | skipped hfetches =>
      have hnone : x.snapshot = [] := by
        rcases hfetches with hreply | ⟨-, f, hreply⟩
        · rw [Occasion.snapshot, ← show _ = x.telemetry from hreply]
        · rw [Occasion.snapshot, ← show _ = x.telemetry from hreply]
      exact ⟨fun _ => ⟨rfl, Memory.ext hp⟩, fun hsome => absurd hnone hsome⟩
  | @settled s o p' hsome hreply hsettles =>
      obtain rfl : x.snapshot = s := by
        rw [Occasion.snapshot, ← show _ = x.telemetry from hreply]
      refine ⟨fun hnone => absurd hnone hsome, fun _ t ht => ?_⟩
      cases hsettles with
      | unlisted =>
          cases ht
      | unrecalled =>
          cases ht
      | undecided =>
          cases ht
      | @decided _ _ now _ o' _ hnow hlisted hopen hlast hchoose hdoes =>
          obtain rfl : now = x.now := hnow
          subst hp
          cases o' with
          | ok u =>
              cases ht
              exact inLine_of_does hm hid hopen hchoose hdoes
          | error f =>
              cases ht

end

/-- A door is open or shut, however the numbers compare. -/
theorem doorRule_fires :
    doorRule.fires [("door", .bool true)] = true := by
  have hnumber : (Json.bool true).number? = some 1 := rfl
  have hthreshold : (Scalar.bool true).number? = some 1 := rfl
  cases hrange : inRange 1 1 1 <;>
    simp [Rule.fires, doorRule, Condition.holds, Snapshot.number?, hnumber, hthreshold, hrange]

/-- An open door, and a clock that has not been set. -/
def doorOccasion : Occasion :=
  ⟨.ok [("door", .bool true)], .epoch, "a1"⟩

/-- The alert that an open door raises. -/
def doorAlert : Alert :=
  Worker.raisedAlert "a1" doorRule "dev-1" [("door", .bool true)] .epoch

theorem doorOccasion_ends :
    doorOccasion.Ends false doorRule "dev-1" {} (.ok .trigger) ⟨[doorAlert]⟩ := by
  have hserved {w : Clocked Memory Unit} (r : Request) (o : Outcome r.Reply) (m : Memory)
      (hserve : w.store.serve .epoch r = (o, m)) :
      doorOccasion.setting.Reacts False () (.store r) w o (w.serve .epoch r o m) :=
    ⟨False.elim, False.elim, Or.inl ⟨.epoch, m, trivial, hserve, rfl⟩⟩
  have hlisted : ({} : Memory).serve .epoch (.openOn "tenant-a" "dev-1") = (.ok [], {}) := by
    simp [Memory.serve, Memory.ofTenant, newestFirst, sortable]
  refine exists_ends_call (r := .ok [("door", .bool true)]) (by exact ⟨False.elim, rfl, rfl⟩) ?_
  refine exists_ends_call (c := Call.acquire "rule-1" "dev-1") (r := ())
    (by exact ⟨False.elim, rfl, rfl⟩) ?_
  refine exists_ends_call (hserved (.openOn "tenant-a" "dev-1") (.ok []) {} hlisted) ?_
  refine exists_ends_call (c := Call.now) (r := .epoch) (by exact ⟨False.elim, rfl, rfl⟩) ?_
  rw [doorRule_fires]
  refine exists_ends_call (hserved (.latestOf "rule-1" "dev-1") (.ok none) {} rfl) ?_
  refine exists_ends_call (c := Call.freshId) (r := "a1")
    (by exact ⟨False.elim, rfl, rfl, rfl⟩) ?_
  refine exists_ends_call (hserved (.create doorAlert) (.ok ()) ⟨[doorAlert]⟩ rfl) ?_
  refine exists_ends_call (c := Call.count .alertsTriggered) (r := ())
    (by exact ⟨False.elim, rfl⟩) ?_
  refine exists_ends_call (c := Call.dispatch (.ofTrigger doorAlert doorRule)) (r := {})
    (by exact ⟨False.elim, trivial, rfl⟩) ?_
  refine exists_ends_call (c := Call.release "rule-1" "dev-1") (r := ())
    (by exact ⟨False.elim, rfl⟩) ?_
  exact ⟨_, .done, rfl⟩

theorem evaluateDevice_inLine_door :
    Memory.Orderly {} ∧ doorOccasion.nextId ∉ ({} : Memory).alerts.map Alert.id ∧
      doorOccasion.Ends false doorRule "dev-1" {} (.ok .trigger) ⟨[doorAlert]⟩ ∧
      (doorOccasion.snapshot = [] →
        (.ok .trigger : Outcome Transition) = .ok .none ∧ ⟨[doorAlert]⟩ = ({} : Memory)) ∧
      (doorOccasion.snapshot ≠ [] → ∀ t, (.ok .trigger : Outcome Transition) = .ok t →
        InLine doorOccasion doorRule "dev-1" t {} ⟨[doorAlert]⟩) :=
  have hid : doorOccasion.nextId ∉ ({} : Memory).alerts.map Alert.id := List.not_mem_nil
  ⟨.empty, hid, doorOccasion_ends, evaluateDevice_inLine .empty hid doorOccasion_ends⟩

end TelemetryAlerts
