import TelemetryAlerts.Proofs.Worker.Clocked

/-!
# What an evaluation makes of the alerts

Evaluating a rule for a device looks at the alerts of the rule and the device, and brings
them in line with the telemetry. If nobody else touches these alerts meanwhile, what comes
of them is told by a relation between the alerts before and after: the outcome, and the one
alert that is raised, ended or escalated. The relation is on lists of alerts; whoever else
works at the store, and whether a key server or the memory keeps the list, is left behind.

**Results.**
* `safe_settle`, `safe_evaluateDevice`: an evaluation does to a task's alerts what the
  relation says, and leaves all others alone.
-/

namespace TelemetryAlerts

open Program (Safe)

/-! ### Decisions -/

/-- What is decided tells whether an alert is open, and whether the rule fires. -/
theorem choose_cases
    {open? last? : Option Alert} {fires again : Bool} {r : Rule} {now : Moment} {t : Transition}
    (hchoose : Transition.choose open? fires last? r now again = .ok t) :
    (t = .trigger ∨ t = .suppress) ∧ open? = none ∧ fires = true ∨
      t = .resolve ∧ open?.isSome = true ∧ fires = false ∨
      t = .escalate ∧ open?.isSome = true ∧ fires = true ∨
      t = .none ∧ open?.isSome = fires := by
  cases open? with
  | none =>
      cases fires with
      | false =>
          cases hchoose
          simp
      | true =>
          obtain ⟨suppressed, -, hchosen⟩ := bind_eq_ok.mp hchoose
          cases suppressed <;> cases hchosen <;> simp
  | some a =>
      cases fires with
      | false =>
          cases hchoose
          simp
      | true =>
          obtain ⟨due, -, hchosen⟩ := bind_eq_ok.mp hchoose
          cases due <;> cases hchosen <;> simp

/-! ### What is found and what is done -/

section

variable {σ ι : Type} (e : Setting σ) (r : Rule) (device : String) (snapshot : Snapshot)

/-- What is found of the open alert of a rule and a device among some alerts. -/
def Finds (k : Manner) (p : List Alert) : Option Alert → Prop
  | some b => ∃ a ∈ p, k.reading a = .ok b ∧ a.isOpen = true ∧ a.tenant = r.tenant ∧
      a.concerns r.id device = true
  | none => ∀ a ∈ p, a.isOpen = true → a.tenant = r.tenant → a.concerns r.id device = false

/-- What is recalled of the last alert of a rule and a device, if it is asked for. -/
def Recalls (k : Manner) (p : List Alert) (asked : Bool) (o : Outcome (Option Alert)) : Prop :=
  if asked then ∃ l : List Alert, l.Perm (k.ofPair p r.id device) ∧
    o = l.mapM k.reading >>= newest?
  else o = .ok none

/-- What becomes of an alert when it is recorded how many channels delivered a notification. -/
inductive Records (a : Alert) (report : Report) (p : List Alert) :
    Outcome Unit → List Alert → Prop where
  | none
      (hempty : report.delivered = []) :
      Records a report p (.ok ()) p
  | done {b : Alert} {now : Moment}
      (hsome : report.delivered ≠ [])
      (hread : e.keeping.reading a = .ok b)
      (hnow : e.stamps now) :
      Records a report p (.ok ())
        (Memory.put (a.recordNotifications report.delivered.length now) p)
  | illegible {f : Failure}
      (hsome : report.delivered ≠ [])
      (hread : e.keeping.reading a = .error f) :
      Records a report p (.error f) p

/-- What is done to the alerts of a task by a transition. -/
inductive Does (p : List Alert) (now : Moment) :
    Transition → Option Alert → Outcome Unit → List Alert → Prop where
  | refused {open? : Option Alert}
      (htaken : e.keeping.taken p r.id device = true) :
      Does p now .trigger open? (.error (.openAlertExists r.id device)) p
  | raised {open? : Option Alert} {id : String} {report : Report} {o : Outcome Unit}
      {p' : List Alert}
      (hfree : e.keeping.taken p r.id device = false)
      (hfresh : e.replies .freshId id)
      (hnew : id ∉ p.map Alert.id)
      (hreport : e.replies
        (.dispatch (.ofTrigger (Worker.raisedAlert id r device snapshot now) r)) report)
      (hrecords : Records e (Worker.raisedAlert id r device snapshot now) report
        (p ++ [Worker.raisedAlert id r device snapshot now]) o p') :
      Does p now .trigger open? o p'
  | kept {t : Transition} {open? : Option Alert}
      (ht : t = .suppress ∨ t = .none) :
      Does p now t open? (.ok ()) p
  | ended {a b : Alert} {at_ : Moment}
      (ha : a ∈ p)
      (hread : e.keeping.reading a = .ok b)
      (hat : e.stamps at_) :
      Does p now .resolve (some b) (.ok ())
        (Memory.put (a.resolve (some autoResolveReason) at_) p)
  | escalated {a b : Alert} {report : Report} {o : Outcome Unit} {p' : List Alert}
      (ha : a ∈ p)
      (hread : e.keeping.reading a = .ok b)
      (hreport : e.replies (.dispatch (.ofEscalation b r)) report)
      (hrecords : Records e (a.escalate now) report (Memory.put (a.escalate now) p) o p') :
      Does p now .escalate (some b) o p'

variable (again : Bool)

/-- Whether the open alerts of the device can be listed. -/
def Listed (lists : List Alert → List Alert → Prop) (p : List Alert) : Prop :=
  ∃ l found, lists p l ∧ l.mapM e.keeping.reading >>= newestFirst = .ok found

/-- What an evaluation of a rule for a device makes of a task's alerts. -/
inductive Settles
    (lists : List Alert → List Alert → Prop) (p : List Alert) :
    Outcome Transition → List Alert → Prop where
  | unlisted {l : List Alert} {f : Failure}
      (hl : lists p l)
      (herror : l.mapM e.keeping.reading >>= newestFirst = .error f) :
      Settles lists p (.error f) p
  | unrecalled {open? : Option Alert} {f : Failure}
      (hlisted : Listed e lists p)
      (hopen : Finds r device e.keeping.toManner p open?)
      (hlast : Recalls r device e.keeping.toManner p (open?.isNone && r.fires snapshot)
        (.error f)) :
      Settles lists p (.error f) p
  | undecided {open? last? : Option Alert} {now : Moment} {f : TimeFault}
      (hnow : e.replies .now now)
      (hlisted : Listed e lists p)
      (hopen : Finds r device e.keeping.toManner p open?)
      (hlast : Recalls r device e.keeping.toManner p (open?.isNone && r.fires snapshot)
        (.ok last?))
      (hchoose : Transition.choose open? (r.fires snapshot) last? r now again = .error f) :
      Settles lists p (.error (.time f)) p
  | decided {open? last? : Option Alert} {now : Moment} {t : Transition} {o : Outcome Unit}
      {p' : List Alert}
      (hnow : e.replies .now now)
      (hlisted : Listed e lists p)
      (hopen : Finds r device e.keeping.toManner p open?)
      (hlast : Recalls r device e.keeping.toManner p (open?.isNone && r.fires snapshot)
        (.ok last?))
      (hchoose : Transition.choose open? (r.fires snapshot) last? r now again = .ok t)
      (hdoes : Does e r device snapshot p now t open? o p') :
      Settles lists p (o.map fun _ => t) p'

/-- What can be fetched of a device: nothing if the telemetry cannot be had. -/
def Fetches : Prop :=
  e.replies (.telemetry device r.tenant) (.ok snapshot) ∨
    snapshot = [] ∧ ∃ f, e.replies (.telemetry device r.tenant) (.error f)

/-- What fetching the telemetry and the evaluation make of a task's alerts. -/
inductive Evaluates
    (lists : List Alert → List Alert → Prop) (p : List Alert) :
    Outcome Transition → List Alert → Prop where
  | skipped
      (hfetches : Fetches e r device []) :
      Evaluates lists p (.ok .none) p
  | settled {snapshot : Snapshot} {o : Outcome Transition} {p' : List Alert}
      (hsome : snapshot ≠ [])
      (hreply : e.replies (.telemetry device r.tenant) (.ok snapshot))
      (hsettles : Settles e r device snapshot again lists p o p') :
      Evaluates lists p o p'

end

/-! ### A task at its alerts -/

section

variable {σ ι : Type} {e : Setting σ} {d : Accord ι} {i : ι}
  {mine : Alert → Bool} {r : Rule} {device : String} {snapshot : Snapshot} {again : Bool}
  {p p' : List Alert} {ts : List Moment} {ids : List String} {byHand : Prop}
  {a b : Alert} {w : Clocked σ ι} {v v' : List Alert} {now : Moment}
  {locks : List (String × String)}

/-- What a task has to itself when it evaluates a rule for a device: what the store takes for
alerts of both is its own, and no other task owns any of its alerts. -/
structure Scope
    (e : Setting σ) (d : Accord ι) (i : ι) (mine : Alert → Bool) (r : Rule) (device : String) :
    Prop where
  upheld : d.Upheld
  rule : d.rules r
  raises : ∀ now, e.replies .now now → d.raises r device now
  lax : ¬ e.alone ∧ ∀ rule, ¬ d.guarded rule
  tells : TellsOrigin mine
  owns : ∀ a, mine a = true → d.owns i a
  apart : ∀ j a, d.owns i a → d.owns j a → j = i
  onDevice : ∀ readings a, d.known readings a →
    e.keeping.alike a.tenant a.device r.tenant device = true →
      a.tenant = r.tenant ∧ a.device = device
  onPair : ∀ readings a, d.known readings a →
    e.keeping.alike a.rule a.device r.id device = true → mine a = true

/-- The alerts of the rule and the device are the task's own. -/
theorem Scope.pair
    {readings : List Moment}
    (h : Scope e d i mine r device)
    (hknown : d.known readings a)
    (hconcerns : a.concerns r.id device = true) :
    mine a = true := by
  obtain ⟨hrule, hdevice⟩ : a.rule = r.id ∧ a.device = device := by
    simpa [Alert.concerns] using hconcerns
  refine h.onPair readings a hknown ?_
  rw [← hrule, ← hdevice]
  exact e.keeping.alike_refl _ _

/-- The alerts of a task are no other task's. -/
theorem Scope.free
    (h : Scope e d i mine r device)
    (ha : mine a = true) :
    ∀ j, j ≠ i → ¬ Territory e d j w a := by
  rintro j hj (howns | ⟨halone, -⟩ | ⟨hguarded, -⟩)
  · exact hj (h.apart j a (h.owns a ha) howns)
  · exact h.lax.1 halone
  · exact h.lax.2 _ hguarded

/-- What a task knows: which locks it holds, which alerts are its own, which moments the clock
showed, and which ids it drew and did not use yet. -/
structure Focus
    (e : Setting σ) (d : Accord ι) (i : ι) (mine : Alert → Bool) (locks : List (String × String))
    (p : List Alert) (ts : List Moment) (ids : List String)
    (x : Clocked σ ι × List Alert) : Prop where
  good : Good e d x
  holds : ∀ l ∈ locks, x.1.holder l.1 l.2 = some i
  lens : x.2.filter mine = p
  readings : ∀ t ∈ ts, t ∈ x.1.readings
  drawn : ∀ id ∈ ids, x.1.drawer id = some i ∧ id ∉ x.2.map Alert.id

/-- The lists that a store may go through for the open alerts of a device, given a task's
alerts. -/
def Lists
    (e : Setting σ) (d : Accord ι) (mine : Alert → Bool) (r : Rule) (device : String)
    (p l : List Alert) : Prop :=
  ∃ x : Clocked σ ι × List Alert, Good e d x ∧ x.2.filter mine = p ∧
    l.Perm (e.keeping.openOn x.2 r.tenant device)

/-- A task need not know all that it knows. -/
theorem Focus.forget
    {x : Clocked σ ι × List Alert}
    (hx : Focus e d i mine locks p ts ids x) :
    Focus e d i mine locks p [] [] x :=
  ⟨hx.good, hx.holds, hx.lens, by simp, by simp⟩

/-- The open alert of a rule and a device is found in what is listed of the device. -/
theorem Lists.finds
    {l found : List Alert}
    (h : Scope e d i mine r device)
    (hl : Lists e d mine r device p l)
    (hfound : l.mapM e.keeping.reading >>= newestFirst = .ok found) :
    Finds r device e.keeping.toManner p (found.find? fun a => a.rule == r.id) := by
  obtain ⟨x, hgood, rfl, hperm⟩ := hl
  obtain ⟨all, hall, hsorted⟩ := bind_eq_ok.mp hfound
  have hlisted (a : Alert) (ha : a ∈ x.2) : a ∈ l ↔
      a.isOpen = true ∧ e.keeping.alike a.tenant a.device r.tenant device = true := by
    rw [hperm.mem_iff, Manner.openOn, List.mem_filter, Bool.and_eq_true, and_iff_right ha]
  cases hfind : found.find? fun a => a.rule == r.id with
  | some b =>
      have hb : b ∈ found := List.mem_of_find?_eq_some hfind
      have hrule : b.rule = r.id := by simpa using List.find?_some hfind
      obtain ⟨a, ha, hread⟩ := (mem_of_mapM hall).mp ((mem_iff_of_newestFirst hsorted).mp hb)
      have hmem : a ∈ x.2 := (List.mem_filter.mp (hperm.mem_iff.mp ha)).1
      obtain ⟨hopen, halike⟩ := (hlisted a hmem).mp ha
      obtain ⟨htenant, hdevice⟩ := h.onDevice _ a (hgood.known a hmem) halike
      have hsame : b.rule = a.rule := (congrArg Alert.rule (e.keeping.outline_reading hread) :)
      have hconcerns : a.concerns r.id device = true := by
        simp [Alert.concerns, ← hsame, hrule, hdevice]
      have hmine := h.pair (hgood.known a hmem) hconcerns
      exact ⟨a, List.mem_filter.mpr ⟨hmem, hmine⟩, hread, hopen, htenant, hconcerns⟩
  | none =>
      intro a ha hopen htenant
      obtain ⟨hmem, -⟩ := List.mem_filter.mp ha
      by_contra hconcerns
      obtain ⟨hrule, hdevice⟩ : a.rule = r.id ∧ a.device = device := by
        simpa [Alert.concerns] using hconcerns
      have halike : e.keeping.alike a.tenant a.device r.tenant device = true := by
        rw [htenant, hdevice]
        exact e.keeping.alike_refl _ _
      obtain ⟨b, hb, hread⟩ := exists_of_mapM hall ((hlisted a hmem).mpr ⟨hopen, halike⟩)
      have hsame : b.rule = a.rule := (congrArg Alert.rule (e.keeping.outline_reading hread) :)
      have hnone := List.find?_eq_none.mp hfind b ((mem_iff_of_newestFirst hsorted).mpr hb)
      rw [hsame, hrule] at hnone
      simp at hnone

variable [DecidableEq ι]

namespace Scope

variable (h : Scope e d i mine r device)
include h

theorem stable :
    (terms e d i).Stable (Focus e d i mine locks p ts ids) := by
  intro x y hrely hx
  obtain ⟨hgood, hleaves⟩ := hrely hx.good
  refine ⟨hgood, fun l hl => hleaves.holder _ _ (hx.holds l hl), ?_,
    fun t ht => hleaves.readings.subset (hx.readings t ht), fun id hid => ?_⟩
  · rw [hleaves.territory mine h.tells fun a ha => Or.inl (h.owns a ha), hx.lens]
  · obtain ⟨hdrawer, hunused⟩ := hx.drawn id hid
    exact ⟨hleaves.drawer id hdrawer, hleaves.unused id hdrawer hunused⟩

theorem stable_and
    (A : Prop) :
    (terms e d i).Stable fun x => Focus e d i mine locks p ts ids x ∧ A :=
  fun x y hrely hx => ⟨h.stable x y hrely hx.1, hx.2⟩

theorem calm
    (byHand : Prop) :
    Worker.Calm (e.Unfolds byHand i) (terms e d i) (Focus e d i mine locks p ts ids) where
  stable := h.stable
  plain c x reply y hc hx hcall := by
    obtain ⟨hguarantee, haside, hholder, hlist⟩ := guarantee_of_plain h.upheld hcall hc
    obtain ⟨⟨hgood, -⟩, -⟩ := hguarantee hx.good
    refine ⟨hguarantee, hgood, fun l hl => ?_, by rw [hlist, hx.lens],
      fun t ht => haside.readings_grow.subset (hx.readings t ht), fun id hid => ?_⟩
    · rw [hholder]
      exact hx.holds l hl
    · obtain ⟨hdrawer, hunused⟩ := hx.drawn id hid
      rw [haside.drawer id (by rw [hdrawer]; simp), hlist]
      exact ⟨hdrawer, hunused⟩

end Scope

theorem mark?_error
    {req : Request} {f : Failure} {s : σ} :
    (⟨s, req, .error f⟩ : Exchange σ).mark? = none := by
  cases req <;> rfl

namespace Focus

/-- A change of one of a task's alerts is made, unless the alert cannot be read. -/
theorem change
    {req : Request} {c : Change} {o : Outcome req.Reply} {s : σ}
    (h : Scope e d i mine r device)
    (hx : Focus e d i mine locks p ts ids (w, v))
    (hc : req.change? now = some c)
    (ha : a ∈ p)
    (hid : a.id = c.id)
    (htenant : a.tenant = c.tenant)
    (hmay : c.may a = true)
    (hread : ∀ id tenant at_, req = .markEscalated id tenant at_ → at_ ∈ ts)
    (hshows : e.keeping.shows s v')
    (hanswers : e.keeping.Changes v c o v') :
    (terms e d i).guarantee (w, v) (w.serve now req o s, v') ∧
      ((∃ b u, e.keeping.reading a = .ok b ∧ o = .ok u ∧
        Focus e d i mine locks (Memory.put (c.apply a) p) ts ids (w.serve now req o s, v')) ∨
      ∃ f, e.keeping.reading a = .error f ∧ o = .error f ∧
        Focus e d i mine locks p ts ids (w.serve now req o s, v')) := by
  have hlens : v.filter mine = p := hx.lens
  obtain ⟨hmem, hmine⟩ := List.mem_filter.mp (hlens ▸ ha)
  have hids := e.keeping.nodup hx.good.shown
  have hlater {t : Moment} (ht : t ∈ ts) : t ∈ (w.serve now req o s).readings :=
    List.mem_append_left _ (hx.readings t ht)
  rcases hanswers with ⟨a', ha', ⟨hid', -, -⟩, ⟨b, hb⟩, ⟨u, hu⟩, rfl⟩ | ⟨rfl, hnone⟩
  · obtain rfl : a' = a := List.inj_on_of_nodup_map hids ha' hmem (hid'.trans hid.symm)
    have hguarantee : (terms e d i).guarantee (w, v)
        (w.serve now req o s, Memory.put (c.apply a') v) :=
      guarantee_put h.upheld hids hshows hmem hid hmay hc ⟨b, hb⟩ ⟨u, hu⟩
        (fun id tenant at_ hreq => hx.readings _ (hread id tenant at_ hreq))
        (fun _ _ _ _ hdue => absurd hdue (not_or.mpr ⟨h.lax.1, h.lax.2 _⟩)) (h.free hmine)
    refine ⟨hguarantee, Or.inl ⟨b, u, hb, hu, (hguarantee hx.good).1.1, hx.holds, ?_,
      fun t => hlater, fun id hdrawn => ⟨(hx.drawn id hdrawn).1, ?_⟩⟩⟩
    · rw [← hlens]
      exact (Memory.filter_put hids hmem (c.id_apply a') (h.tells _ _ (c.origin_apply a'))).trans
        (if_pos hmine)
    · rw [Memory.map_put Alert.id hids hmem (c.id_apply a') (c.id_apply a')]
      exact (hx.drawn id hdrawn).2
  · obtain ⟨f, hf, rfl⟩ := hnone a hmem hid htenant hmay
    have hguarantee : (terms e d i).guarantee (w, v') (w.serve now req (.error f) s, v') :=
      guarantee_same h.upheld hshows mark?_error
    exact ⟨hguarantee, Or.inr ⟨f, hf, rfl, (hguarantee hx.good).1.1, hx.holds, hx.lens,
      fun t => hlater, hx.drawn⟩⟩

/-- A request that changes nothing leaves what a task knows. -/
theorem same
    {s : σ}
    (h : Scope e d i mine r device)
    (hx : Focus e d i mine locks p ts ids (w, v))
    (now : Moment) (req : Request) (o : Outcome req.Reply)
    (hshows : e.keeping.shows s v)
    (hmark : (⟨w.store, req, o⟩ : Exchange σ).mark? = none) :
    (terms e d i).guarantee (w, v) (w.serve now req o s, v) ∧
      Focus e d i mine locks p ts ids (w.serve now req o s, v) := by
  have hguarantee : (terms e d i).guarantee (w, v) (w.serve now req o s, v) :=
    guarantee_same h.upheld hshows hmark
  exact ⟨hguarantee, (hguarantee hx.good).1.1, hx.holds, hx.lens,
    fun t ht => List.mem_append_left _ (hx.readings t ht), hx.drawn⟩

end Focus

/-! ### The parts of an evaluation -/

section

variable (h : Scope e d i mine r device)
include h

/-- What holds when a part of an evaluation has ended. -/
def Ended
    (e : Setting σ) (d : Accord ι) (i : ι) (mine : Alert → Bool) (locks : List (String × String))
    {α : Type} (makes : Outcome α → List Alert → Prop) (o : Outcome α)
    (x : Clocked σ ι × List Alert) : Prop :=
  ∃ p', Focus e d i mine locks p' [] [] x ∧ (makes o p' ∨ e.faulty ∧ o = .error .injected)

theorem stable_ended
    {α : Type} {makes : Outcome α → List Alert → Prop} (o : Outcome α) :
    (terms e d i).Stable (Ended e d i mine locks makes o) := by
  rintro x y hrely ⟨p', hx, hmakes⟩
  exact ⟨p', h.stable x y hrely hx, hmakes⟩

/-- What is known after a change of one of a task's alerts was asked for. -/
def Changed
    (e : Setting σ) (d : Accord ι) (i : ι) (mine : Alert → Bool) (locks : List (String × String))
    (p : List Alert) (ts : List Moment) (ids : List String) (a : Alert) (c : Moment → Change)
    {α : Type} : Outcome α → Clocked σ ι × List Alert → Prop :=
  After
    (fun _ x => ∃ now b, Focus e d i mine locks (Memory.put ((c now).apply a) p) ts ids x ∧
      e.stamps now ∧ e.keeping.reading a = .ok b)
    fun fault x => Focus e d i mine locks p ts ids x ∧
      (e.keeping.reading a = .error fault ∨ e.faulty ∧ fault = .injected)

theorem stable_changed
    {α : Type} {c : Moment → Change} (o : Outcome α) :
    (terms e d i).Stable (Changed e d i mine locks p ts ids a c o) := by
  refine stable_after (fun _ => ?_) (fun _ => h.stable_and _) o
  rintro x y hrely ⟨now, b, hx, hread⟩
  exact ⟨now, b, h.stable x y hrely hx, hread⟩

section

variable {req : Request} {c : Moment → Change}
  (hc : ∀ now, req.change? now = some (c now))
  (ha : a ∈ p)
  (hid : ∀ now, a.id = (c now).id)
  (htenant : ∀ now, a.tenant = (c now).tenant)
  (hmay : ∀ now, (c now).may a = true)
  (hread : ∀ id tenant at_, req = .markEscalated id tenant at_ → at_ ∈ ts)
include hc ha hid htenant hmay hread

/-- A change is made of one of a task's alerts. -/
theorem safe_requestChange :
    Safe (e.Unfolds byHand i) (terms e d i) (Focus e d i mine locks p ts ids)
      (WorkerAction.store req) (Changed e d i mine locks p ts ids a c) := by
  refine safe_request h.stable (stable_changed h)
    (fun x hx => ⟨hx.good.shown, Manner.takes_of_change? (hc .epoch)⟩)
    (fun hfaulty x hx => ⟨hx, Or.inr ⟨hfaulty, rfl⟩⟩) ?_
  intro now s o w v v' hx hnow hshows hanswers _ _
  obtain ⟨hguarantee, ⟨b, u, hb, rfl, hfocus⟩ | ⟨fault, hb, rfl, hfocus⟩⟩ :=
    hx.change h (hc now) ha (hid now) (htenant now) (hmay now) hread hshows
      (hanswers.changes (hc now))
  · exact ⟨hguarantee, now, b, hfocus, hnow, hb⟩
  · exact ⟨hguarantee, hfocus, Or.inl hb⟩

/-- A change is made of one of a task's alerts, before the task goes on. -/
theorem safe_change
    {α : Type} {f : req.Reply → WorkerAction α}
    {R : Outcome α → Clocked σ ι × List Alert → Prop}
    (hf : ∀ now b u, e.stamps now → e.keeping.reading a = .ok b →
      Safe (e.Unfolds byHand i) (terms e d i)
        (Focus e d i mine locks (Memory.put ((c now).apply a) p) ts ids) (f u) R)
    (hillegible : ∀ fault x, Focus e d i mine locks p ts ids x → e.keeping.reading a = .error fault →
      R (.error fault) x)
    (hfault : ∀ x, Focus e d i mine locks p ts ids x → e.faulty → R (.error .injected) x) :
    Safe (e.Unfolds byHand i) (terms e d i) (Focus e d i mine locks p ts ids)
      (WorkerAction.store req >>= f) R := by
  refine .bind (safe_requestChange h hc ha hid htenant hmay hread) ?_ ?_
  · rintro u x ⟨now, b, hx, hnow, hb⟩
    exact hf now b u hnow hb x hx
  · rintro fault x ⟨hx, hread | ⟨hfaulty, rfl⟩⟩
    · exact hillegible fault x hx hread
    · exact hfault x hx hfaulty

end

theorem safe_count
    (counter : Counter) :
    Safe (e.Unfolds byHand i) (terms e d i) (Focus e d i mine locks p ts ids)
      (WorkerAction.count counter) fun o x => o = .ok () ∧ Focus e d i mine locks p ts ids x := by
  have hstable (o : Outcome Unit) :
      (terms e d i).Stable fun x => o = .ok () ∧ Focus e d i mine locks p ts ids x :=
    fun x y hrely hx => ⟨hx.1, h.stable x y hrely hx.2⟩
  refine .perform h.stable hstable fun x u y hx hcall => ?_
  obtain ⟨hguarantee, hy⟩ := (h.calm byHand).plain (.count counter) x u y rfl hx hcall
  exact ⟨hguarantee, rfl, hy⟩

theorem safe_recordDelivered
    (ha : a ∈ p)
    (hid : a.id = b.id)
    (htenant : a.tenant = b.tenant)
    (report : Report) :
    Safe (e.Unfolds byHand i) (terms e d i) (Focus e d i mine locks p ts ids)
      (Worker.recordDelivered b report) (Ended e d i mine locks (Records e a report p)) := by
  unfold Worker.recordDelivered
  split_ifs with hempty
  · exact .pure h.stable fun x hx => ⟨p, hx.forget, Or.inl (.none (by simpa using hempty))⟩
  · have hsome : report.delivered ≠ [] := by simpa using hempty
    rw [← bind_pure (WorkerAction.store _)]
    refine safe_change h (fun _ => rfl) ha (fun _ => hid) (fun _ => htenant) (fun _ => rfl)
      (by simp) (fun now b' u hnow hread => ?_) (fun fault x hx hread => ?_) fun x hx hfaulty => ?_
    · exact .pure h.stable fun x hx => ⟨_, hx.forget, Or.inl (.done hsome hread hnow)⟩
    · exact ⟨p, hx.forget, Or.inl (.illegible hsome hread)⟩
    · exact ⟨p, hx.forget, Or.inr ⟨hfaulty, rfl⟩⟩

/-- The clock is read. -/
theorem safe_now
    {α : Type} {f : Moment → WorkerAction α}
    {R : Outcome α → Clocked σ ι × List Alert → Prop}
    (hf : ∀ t, e.replies .now t →
      Safe (e.Unfolds byHand i) (terms e d i) (Focus e d i mine locks p (t :: ts) ids) (f t) R) :
    Safe (e.Unfolds byHand i) (terms e d i) (Focus e d i mine locks p ts ids)
      (WorkerAction.ask .now >>= f) R := by
  refine safe_ask (Q := fun t x => Focus e d i mine locks p (t :: ts) ids x ∧ e.replies .now t) h.stable
    (fun t => h.stable_and _) (fun x t y hx hcall => ?_) fun t x hx => hf t hx.2 x hx.1
  obtain ⟨hguarantee, hy⟩ := (h.calm byHand).plain .now x t y rfl hx hcall
  refine ⟨hguarantee, ⟨hy.good, hy.holds, hy.lens, fun u hu => ?_, hy.drawn⟩, hcall.1.2.1⟩
  rcases List.mem_cons.mp hu with rfl | hu
  · rw [show y.1 = x.1.read u from hcall.1.2.2]
    exact List.mem_append_right _ (List.mem_singleton_self u)
  · exact hy.readings u hu

/-- A notification is sent. -/
theorem safe_dispatch
    {α : Type} {dispatch : Dispatch} {f : Report → WorkerAction α}
    {R : Outcome α → Clocked σ ι × List Alert → Prop}
    (hf : ∀ report, e.replies (.dispatch dispatch) report →
      Safe (e.Unfolds byHand i) (terms e d i) (Focus e d i mine locks p ts ids) (f report) R) :
    Safe (e.Unfolds byHand i) (terms e d i) (Focus e d i mine locks p ts ids)
      (WorkerAction.ask (.dispatch dispatch) >>= f) R := by
  refine safe_ask
    (Q := fun report x => Focus e d i mine locks p ts ids x ∧ e.replies (.dispatch dispatch) report)
    h.stable (fun t => h.stable_and _) (fun x report y hx hcall => ?_)
    fun report x hx => hf report hx.2 x hx.1
  obtain ⟨hguarantee, hy⟩ :=
    (h.calm byHand).plain (.dispatch dispatch) x report y rfl hx hcall
  exact ⟨hguarantee, hy, hcall.1.2.1⟩

/-- An id is drawn that no alert has. -/
theorem safe_freshId
    {α : Type} {f : String → WorkerAction α}
    {R : Outcome α → Clocked σ ι × List Alert → Prop}
    (hf : ∀ id, e.replies .freshId id →
      Safe (e.Unfolds byHand i) (terms e d i) (Focus e d i mine locks p ts (id :: ids)) (f id) R) :
    Safe (e.Unfolds byHand i) (terms e d i) (Focus e d i mine locks p ts ids)
      (WorkerAction.ask .freshId >>= f) R := by
  refine safe_ask
    (Q := fun id x => Focus e d i mine locks p ts (id :: ids) x ∧ e.replies .freshId id) h.stable
    (fun t => h.stable_and _) (fun x id y hx hcall => ?_) fun id x hx => hf id hx.2 x hx.1
  obtain ⟨⟨-, hfresh, hnew, hw⟩, hlist⟩ := hcall
  rcases x with ⟨w, v⟩
  rcases y with ⟨w', v'⟩
  obtain rfl : w' = _ := hw
  obtain rfl : v' = v := hlist
  have haside : Aside i w { w with toScene := w.toScene.draw id i } := .draw hnew
  refine ⟨guarantee_aside h.upheld haside,
    ⟨hx.good.aside h.upheld haside, hx.holds, hx.lens, hx.readings, fun id' hid' => ?_⟩, hfresh⟩
  rcases List.mem_cons.mp hid' with rfl | hid'
  · refine ⟨Function.update_self _ _ _, fun hmem => ?_⟩
    obtain ⟨a, ha, rfl⟩ := List.mem_map.mp hmem
    exact hx.good.drawn a ha hfresh hnew
  · obtain ⟨hdrawer, hunused⟩ := hx.drawn id' hid'
    exact ⟨(haside.drawer id' (by rw [hdrawer]; simp)).trans hdrawer, hunused⟩

/-- An alert is ended. -/
theorem safe_resolve
    (ha : a ∈ p)
    (hread : e.keeping.reading a = .ok b)
    (hopen : a.isOpen = true) :
    Safe (e.Unfolds byHand i) (terms e d i) (Focus e d i mine locks p ts ids) (Worker.resolve b)
      (Ended e d i mine locks (Does e r device snapshot p now .resolve (some b))) := by
  have houtline := e.keeping.outline_reading hread
  refine safe_change h (c := fun now => .resolve now b.id b.tenant (some autoResolveReason))
    (fun _ => rfl) ha (fun _ => (congrArg Alert.id houtline :).symm)
    (fun _ => (congrArg Alert.tenant houtline :).symm) (fun _ => hopen) (by simp)
    (fun at_ b' resolved hat _ => ?_) (fun fault x _ hfault => ?_) fun x hx hfaulty => ?_
  · split_ifs
    · refine (safe_count h _).weaken (fun _ hx => hx) ?_
      rintro o x ⟨rfl, hx⟩
      exact ⟨_, hx.forget, Or.inl (.ended ha hread hat)⟩
    · exact .pure h.stable fun x hx => ⟨_, hx.forget, Or.inl (.ended ha hread hat)⟩
  · rw [hread] at hfault
    cases hfault
  · exact ⟨p, hx.forget, Or.inr ⟨hfaulty, rfl⟩⟩

/-- An alert is escalated. -/
theorem safe_escalate
    (ha : a ∈ p)
    (hread : e.keeping.reading a = .ok b)
    (hnow : now ∈ ts) :
    Safe (e.Unfolds byHand i) (terms e d i) (Focus e d i mine locks p ts ids)
      (Worker.escalate b r now)
      (Ended e d i mine locks (Does e r device snapshot p now .escalate (some b))) := by
  have houtline := e.keeping.outline_reading hread
  have hid : a.id = b.id := (congrArg Alert.id houtline :).symm
  have htenant : a.tenant = b.tenant := (congrArg Alert.tenant houtline :).symm
  refine safe_dispatch h fun report hreport => ?_
  refine safe_change h (c := fun _ => .markEscalated b.id b.tenant now) (fun _ => rfl) ha
    (fun _ => hid) (fun _ => htenant) (fun _ => rfl) (fun _ _ _ hat => ?_) (fun _ b' _ _ _ => ?_)
    (fun fault x _ hfault => ?_) fun x hx hfaulty => ?_
  · cases hat
    exact hnow
  · refine .bind (safe_count h _) (fun _ => ?_) fun f x hx => by cases hx.1
    have hput : a.escalate now ∈ Memory.put (a.escalate now) p := Memory.mem_put_self _ _
    refine (safe_recordDelivered h hput hid htenant report).weaken (fun x hx => hx.2) ?_
    rintro o x ⟨p', hx, hrecords | hfaulted⟩
    · exact ⟨p', hx, Or.inl (.escalated ha hread hreport hrecords)⟩
    · exact ⟨p', hx, Or.inr hfaulted⟩
  · rw [hread] at hfault
    cases hfault
  · exact ⟨p, hx.forget, Or.inr ⟨hfaulty, rfl⟩⟩

omit [DecidableEq ι] in
/-- What the store finds before it takes a new alert is found among a task's alerts. -/
theorem taken_eq
    (hgood : Good e d (w, v))
    (hlens : v.filter mine = p) :
    e.keeping.taken v r.id device = e.keeping.taken p r.id device := by
  rw [Bool.eq_iff_iff]
  simp only [Manner.taken, ← hlens, List.any_eq_true, Bool.and_eq_true, List.mem_filter]
  constructor
  · rintro ⟨a, ha, hopen, halike⟩
    exact ⟨a, ⟨ha, h.onPair _ a (hgood.known a ha) halike⟩, hopen, halike⟩
  · rintro ⟨a, ⟨ha, -⟩, hopen, halike⟩
    exact ⟨a, ha, hopen, halike⟩

/-- What is known after a task asked for a new alert to be taken. -/
def Raised
    (e : Setting σ) (d : Accord ι) (i : ι) (mine : Alert → Bool) (locks : List (String × String))
    (p : List Alert) (r : Rule) (device : String) (a : Alert) :
    Outcome Unit → Clocked σ ι × List Alert → Prop :=
  After
    (fun _ x => Focus e d i mine locks (p ++ [a]) [] [] x ∧
      e.keeping.taken p r.id device = false ∧ a.id ∉ p.map Alert.id)
    fun fault x => Focus e d i mine locks p [] [] x ∧
      (e.keeping.taken p r.id device = true ∧ fault = .openAlertExists r.id device ∨
        e.faulty ∧ fault = .injected)

section

variable {id : String}
  (hadmits : e.keeping.admits (Worker.raisedAlert id r device snapshot now))
  (hraises : d.raises r device now)
  (hnow : now ∈ ts)
  (hid : id ∈ ids)
include hadmits hraises hnow hid

/-- A new alert is taken, unless another one of the rule and the device is open. -/
theorem safe_requestCreate :
    Safe (e.Unfolds byHand i) (terms e d i) (Focus e d i mine locks p ts ids)
      (WorkerAction.store (.create (Worker.raisedAlert id r device snapshot now)))
      (Raised e d i mine locks p r device (Worker.raisedAlert id r device snapshot now)) := by
  let a := Worker.raisedAlert id r device snapshot now
  refine safe_request h.stable
    (stable_after (fun _ => h.stable_and _) fun _ => h.stable_and _)
    (fun x hx => ⟨hx.good.shown, (hx.drawn id hid).2, rfl, hadmits⟩)
    (fun hfaulty x hx => ⟨hx.forget, Or.inr ⟨hfaulty, rfl⟩⟩) ?_
  intro t s o w v v' hx ht hshows hanswers _ _
  have hlens : v.filter mine = p := hx.lens
  obtain ⟨hdrawn, hnew⟩ := hx.drawn id hid
  have htaken := taken_eq h hx.good hx.lens
  change if e.keeping.taken v r.id device then _ else _ at hanswers
  rw [htaken] at hanswers
  split_ifs at hanswers with hopen
  · obtain ⟨rfl, rfl⟩ := hanswers
    obtain ⟨hguarantee, hfocus⟩ := hx.same h t (.create a)
      (.error (.openAlertExists r.id device)) hshows rfl
    exact ⟨hguarantee, hfocus.forget, Or.inl ⟨hopen, rfl⟩⟩
  · obtain ⟨rfl, rfl⟩ := hanswers
    have hmine : mine a = true :=
      h.pair (h.upheld.raised h.rule hraises (hx.readings now hnow))
        (by simp [a, Alert.concerns, Worker.raisedAlert])
    have hguarantee : (terms e d i).guarantee (w, v) (w.serve t (.create a) (.ok ()) s, v ++ [a]) :=
      guarantee_append h.upheld hshows h.rule hraises (hx.readings now hnow) hdrawn hnew (h.free hmine)
    refine ⟨hguarantee, ⟨(hguarantee hx.good).1.1, hx.holds, ?_, by simp, by simp⟩,
      by simpa using hopen, fun hmem => hnew ?_⟩
    · rw [List.filter_append, List.filter_cons_of_pos hmine, List.filter_nil, hlens]
    · rw [← hlens] at hmem
      exact (List.filter_sublist.map Alert.id).subset hmem

/-- A new alert is taken, before the task goes on. -/
theorem safe_create
    {f : Unit → WorkerAction Unit}
    {R : Outcome Unit → Clocked σ ι × List Alert → Prop}
    (hf : e.keeping.taken p r.id device = false → id ∉ p.map Alert.id →
      Safe (e.Unfolds byHand i) (terms e d i)
        (Focus e d i mine locks (p ++ [Worker.raisedAlert id r device snapshot now]) [] []) (f ()) R)
    (hrefused : e.keeping.taken p r.id device = true →
      ∀ x, Focus e d i mine locks p [] [] x → R (.error (.openAlertExists r.id device)) x)
    (hfault : ∀ x, Focus e d i mine locks p [] [] x → e.faulty → R (.error .injected) x) :
    Safe (e.Unfolds byHand i) (terms e d i) (Focus e d i mine locks p ts ids)
      (WorkerAction.store (.create (Worker.raisedAlert id r device snapshot now)) >>= f) R := by
  refine .bind (safe_requestCreate h hadmits hraises hnow hid) ?_ ?_
  · rintro u x ⟨hx, hfree, hnew⟩
    exact hf hfree hnew x hx
  · rintro fault x ⟨hx, ⟨hopen, rfl⟩ | ⟨hfaulty, rfl⟩⟩
    · exact hrefused hopen x hx
    · exact hfault x hx hfaulty

end

/-- An alert is raised. -/
theorem safe_trigger
    (hadmits : ∀ id now, e.keeping.admits (Worker.raisedAlert id r device snapshot now))
    (open? : Option Alert)
    (hraises : d.raises r device now)
    (hnow : now ∈ ts) :
    Safe (e.Unfolds byHand i) (terms e d i) (Focus e d i mine locks p ts ids)
      (Worker.trigger r device snapshot now)
      (Ended e d i mine locks (Does e r device snapshot p now .trigger open?)) := by
  refine safe_freshId h fun id hfresh => ?_
  refine safe_create h (hadmits id now) hraises hnow (by simp) (fun hfree hnew => ?_)
    (fun hopen x hx => ⟨p, hx, Or.inl (.refused hopen)⟩)
    fun x hx hfaulty => ⟨p, hx, Or.inr ⟨hfaulty, rfl⟩⟩
  refine .bind (safe_count h _) (fun _ => ?_) fun f x hx => by cases hx.1
  refine Safe.weaken (P := Focus e d i mine locks (p ++ [Worker.raisedAlert id r device snapshot now])
    [] []) (safe_dispatch h fun report hreport => ?_) (fun x hx => hx.2) fun _ _ hx => hx
  refine (safe_recordDelivered h (by simp) rfl rfl report).weaken (fun _ hx => hx) ?_
  rintro o x ⟨p', hx, hrecords | hfaulted⟩
  · exact ⟨p', hx, Or.inl (.raised hfree hfresh hnew hreport hrecords)⟩
  · exact ⟨p', hx, Or.inr hfaulted⟩

/-- A transition does to a task's alerts what it is for. -/
theorem safe_apply
    (hadmits : ∀ id now, e.keeping.admits (Worker.raisedAlert id r device snapshot now))
    {open? : Option Alert} {t : Transition}
    (hopen : Finds r device e.keeping.toManner p open?)
    (hneeds : t = .resolve ∨ t = .escalate → open?.isSome = true)
    (hraises : d.raises r device now)
    (hnow : now ∈ ts) :
    Safe (e.Unfolds byHand i) (terms e d i) (Focus e d i mine locks p ts ids)
      (Worker.apply t open? r device snapshot now)
      (Ended e d i mine locks (Does e r device snapshot p now t open?)) := by
  cases t with
  | trigger =>
      exact safe_trigger h hadmits open? hraises hnow
  | suppress =>
      refine (safe_count h _).weaken (fun _ hx => hx) ?_
      rintro o x ⟨rfl, hx⟩
      exact ⟨p, hx.forget, Or.inl (.kept (Or.inl rfl))⟩
  | resolve =>
      obtain ⟨b, rfl⟩ := Option.isSome_iff_exists.mp (hneeds (Or.inl rfl))
      obtain ⟨a, ha, hread, hisOpen, -⟩ := hopen
      exact safe_resolve h ha hread hisOpen
  | escalate =>
      obtain ⟨b, rfl⟩ := Option.isSome_iff_exists.mp (hneeds (Or.inr rfl))
      obtain ⟨a, ha, hread, -⟩ := hopen
      exact safe_escalate h ha hread hnow
  | none =>
      exact .pure h.stable fun x hx => ⟨p, hx.forget, Or.inl (.kept (Or.inr rfl))⟩

/-! ### Whole evaluations -/

/-- The store goes through the open alerts of the device. -/
theorem safe_openOn :
    Safe (e.Unfolds byHand i) (terms e d i) (Focus e d i mine locks p ts ids)
      (WorkerAction.store (.openOn r.tenant device))
      fun o x => Focus e d i mine locks p ts ids x ∧
        ((∃ l, Lists e d mine r device p l ∧ o = l.mapM e.keeping.reading >>= newestFirst) ∨
          e.faulty ∧ o = .error .injected) := by
  refine safe_request h.stable (fun o => h.stable_and _) (fun x hx => ⟨hx.good.shown, trivial⟩)
    (fun hfaulty x hx => ⟨hx, Or.inr ⟨hfaulty, rfl⟩⟩) ?_
  intro now s o w v v' hx hnow hshows hanswers _ _
  obtain ⟨rfl, l, hl, ho⟩ := hanswers
  obtain ⟨hguarantee, hfocus⟩ := hx.same h now (.openOn r.tenant device) o hshows rfl
  exact ⟨hguarantee, hfocus, Or.inl ⟨l, ⟨(w, v'), hx.good, hx.lens, hl⟩, ho⟩⟩

omit [DecidableEq ι] in
theorem ofPair_eq
    (hgood : Good e d (w, v))
    (hlens : v.filter mine = p) :
    e.keeping.ofPair v r.id device = e.keeping.ofPair p r.id device := by
  simp only [Manner.ofPair, ← hlens, List.filter_filter]
  refine List.filter_congr fun a ha => ?_
  rw [Bool.eq_iff_iff, Bool.and_eq_true]
  exact ⟨fun halike => ⟨halike, h.onPair _ a (hgood.known a ha) halike⟩, And.left⟩

/-- The last alert is asked for. -/
theorem safe_latestOf :
    Safe (e.Unfolds byHand i) (terms e d i) (Focus e d i mine locks p ts ids)
      (WorkerAction.store (.latestOf r.id device))
      fun o x => Focus e d i mine locks p ts ids x ∧
        (Recalls r device e.keeping.toManner p true o ∨ e.faulty ∧ o = .error .injected) := by
  refine safe_request h.stable (fun o => h.stable_and _) (fun x hx => ⟨hx.good.shown, trivial⟩)
    (fun hfaulty x hx => ⟨hx, Or.inr ⟨hfaulty, rfl⟩⟩) ?_
  intro now s o w v v' hx hnow hshows hanswers _ _
  obtain ⟨rfl, l, hl, ho⟩ := hanswers
  obtain ⟨hguarantee, hfocus⟩ := hx.same h now (.latestOf r.id device) o hshows rfl
  rw [ofPair_eq h hx.good hx.lens] at hl
  exact ⟨hguarantee, hfocus, Or.inl ⟨l, hl, ho⟩⟩

/-- What is decided on is done. -/
theorem safe_decide
    (hadmits : ∀ id now, e.keeping.admits (Worker.raisedAlert id r device snapshot now))
    {open? last? : Option Alert}
    (hnow : e.replies .now now)
    (hread : now ∈ ts)
    (hlisted : Listed e (Lists e d mine r device) p)
    (hopen : Finds r device e.keeping.toManner p open?)
    (hlast : Recalls r device e.keeping.toManner p (open?.isNone && r.fires snapshot)
      (.ok last?)) :
    Safe (e.Unfolds byHand i) (terms e d i) (Focus e d i mine locks p ts [])
      (do
        let t ← (liftM (timed (Transition.choose open? (r.fires snapshot) last? r now again)) :
          WorkerAction Transition)
        Worker.apply t open? r device snapshot now
        pure t)
      (Ended e d i mine locks (Settles e r device snapshot again (Lists e d mine r device) p)) := by
  cases hchoose : Transition.choose open? (r.fires snapshot) last? r now again with
  | error fault =>
      exact .lift h.stable fun x hx =>
        ⟨p, hx.forget, Or.inl (.undecided hnow hlisted hopen hlast hchoose)⟩
  | ok t =>
      have hneeds (ht : t = .resolve ∨ t = .escalate) : open?.isSome = true := by
        have hcases := choose_cases hchoose
        aesop
      change Safe _ _ _ (Worker.apply t open? r device snapshot now >>= fun _ => pure t) _
      refine .bind (safe_apply h hadmits hopen hneeds (h.raises now hnow) hread)
        (fun _ => .pure (stable_ended h _) ?_) ?_
      · rintro x ⟨p', hx, hdoes | ⟨-, ho⟩⟩
        · exact ⟨p', hx, Or.inl (.decided hnow hlisted hopen hlast hchoose hdoes)⟩
        · cases ho
      · rintro f x ⟨p', hx, hdoes | ⟨hfaulty, hf⟩⟩
        · exact ⟨p', hx, Or.inl (.decided hnow hlisted hopen hlast hchoose hdoes)⟩
        · exact ⟨p', hx, Or.inr ⟨hfaulty, by rw [Except.error.inj hf]⟩⟩

/-- What an evaluation makes of a task's alerts. -/
theorem safe_settle
    (hadmits : ∀ id now, e.keeping.admits (Worker.raisedAlert id r device snapshot now)) :
    Safe (e.Unfolds byHand i) (terms e d i) (Focus e d i mine locks p [] [])
      (Worker.settle again r device snapshot)
      (Ended e d i mine locks (Settles e r device snapshot again (Lists e d mine r device) p)) := by
  have hfault {f : Failure} {ts : List Moment} {x : Clocked σ ι × List Alert}
      (hx : Focus e d i mine locks p ts [] x)
      (ho : e.faulty ∧ (.error f : Outcome Transition) = .error .injected) :
      Ended e d i mine locks (Settles e r device snapshot again (Lists e d mine r device) p)
        (.error f) x :=
    ⟨p, hx.forget, Or.inr ho⟩
  refine .bind (safe_openOn h) (fun (found : List Alert) => ?_) ?_
  · have hafter {open? : Option Alert} (hlisted : Listed e (Lists e d mine r device) p)
        (hopen : Finds r device e.keeping.toManner p open?) :
        Safe (e.Unfolds byHand i) (terms e d i) (Focus e d i mine locks p [] []) (do
          let now ← WorkerAction.ask .now
          let last? ←
            if open?.isNone && r.fires snapshot then WorkerAction.store (.latestOf r.id device)
            else pure none
          let t ← liftM (timed (Transition.choose open? (r.fires snapshot) last? r now again))
          Worker.apply t open? r device snapshot now
          pure t)
        (Ended e d i mine locks (Settles e r device snapshot again (Lists e d mine r device) p)) := by
      refine safe_now h fun now hnow => ?_
      dsimp only
      split_ifs with hasked
      · refine .bind (safe_latestOf h) (fun last? x hx => ?_) ?_
        · obtain ⟨hfocus, hlast | ⟨-, hlast⟩⟩ := hx
          · exact safe_decide h hadmits hnow (by simp) hlisted hopen (by rwa [hasked]) x hfocus
          · cases hlast
        · rintro f x ⟨hfocus, hlast | ⟨hfaulty, hf⟩⟩
          · exact ⟨p, hfocus.forget, Or.inl (.unrecalled hlisted hopen (by rwa [hasked]))⟩
          · exact hfault hfocus ⟨hfaulty, by rw [Except.error.inj hf]⟩
      · refine safe_decide h hadmits hnow (by simp) hlisted hopen ?_
        rw [Recalls, if_neg hasked]
    intro x hx
    obtain ⟨hfocus, ⟨l, hl, hfound⟩ | ⟨-, hfound⟩⟩ := hx
    · exact hafter ⟨l, found, hl, hfound.symm⟩ (hl.finds h hfound.symm) x hfocus
    · cases hfound
  · rintro f x ⟨hfocus, ⟨l, hl, hf⟩ | ⟨hfaulty, hf⟩⟩
    · exact ⟨p, hfocus, Or.inl (.unlisted hl hf.symm)⟩
    · exact hfault hfocus ⟨hfaulty, by rw [Except.error.inj hf]⟩

/-- What is fetched of a device. -/
theorem safe_fetch :
    Safe (e.Unfolds byHand i) (terms e d i) (Focus e d i mine locks p ts ids)
      (Worker.fetch device r.tenant)
      fun o x => Focus e d i mine locks p ts ids x ∧ ∃ snapshot, o = .ok snapshot ∧
        Fetches e r device snapshot := by
  refine safe_ask (Q := fun reply x => Focus e d i mine locks p ts ids x ∧
      e.replies (.telemetry device r.tenant) reply) h.stable (fun reply => h.stable_and _)
    (fun x reply y hx hcall => ?_) fun reply => ?_
  · obtain ⟨hguarantee, hy⟩ :=
      (h.calm byHand).plain (.telemetry device r.tenant) x reply y rfl hx hcall
    exact ⟨hguarantee, hy, hcall.1.2.1⟩
  · cases reply with
    | ok snapshot =>
        exact .pure (h.stable_and _) fun x hx => ⟨hx.1, snapshot, rfl, Or.inl hx.2⟩
    | error f =>
        exact .pure (h.stable_and _) fun x hx => ⟨hx.1, [], rfl, Or.inr ⟨rfl, f, hx.2⟩⟩

/-- What an evaluation under the lock of the rule and the device makes of a task's alerts. -/
theorem safe_underLock
    (hadmits : ∀ id now, e.keeping.admits (Worker.raisedAlert id r device snapshot now)) :
    Safe (e.Unfolds byHand i) (terms e d i) (Focus e d i mine [] p [] [])
      (WorkerAction.locked r.id device (Worker.settle again r device snapshot))
      (Ended e d i mine [] (Settles e r device snapshot again (Lists e d mine r device) p)) := by
  have hsettle : Safe (e.Unfolds byHand i) (terms e d i)
      (Focus e d i mine [(r.id, device)] p [] []) (Worker.settle again r device snapshot)
      (Ended e d i mine [(r.id, device)]
        (Settles e r device snapshot again (Lists e d mine r device) p)) :=
    safe_settle h hadmits
  refine Worker.safe_locked h.stable (stable_ended h) (stable_ended h) ?_ hsettle ?_
  · intro x y hx hcall
    obtain ⟨⟨-, hfree, hw⟩, hlist⟩ := hcall
    rcases x with ⟨w, v⟩
    rcases y with ⟨w', v'⟩
    obtain rfl : w' = _ := hw
    obtain rfl : v' = v := hlist
    have haside : Aside i w
        { w with toScene := w.toScene.setHolder r.id device (some i) } :=
      .acquire hfree
    refine ⟨guarantee_aside h.upheld haside, hx.good.aside h.upheld haside, fun l hl => ?_,
      hx.lens, hx.readings, hx.drawn⟩
    rw [List.mem_singleton.mp hl]
    exact w.toScene.holder_setHolder_self ..
  · rintro o x y ⟨p', hx, hsettles⟩ hcall
    obtain ⟨⟨-, hw⟩, hlist⟩ := hcall
    rcases x with ⟨w, v⟩
    rcases y with ⟨w', v'⟩
    obtain rfl : w' = _ := hw
    obtain rfl : v' = v := hlist
    have hholder : w.holder r.id device = some i := hx.holds (r.id, device) (by simp)
    have haside : Aside i w { w with toScene := w.toScene.setHolder r.id device none } :=
      .release hholder
    exact ⟨guarantee_aside h.upheld haside, p', ⟨hx.good.aside h.upheld haside, by simp,
      hx.lens, hx.readings, hx.drawn⟩, hsettles⟩

/-- What an evaluation of a rule for a device makes of a task's alerts. -/
theorem safe_evaluateDevice
    (hadmits : ∀ snapshot id now, e.replies (.telemetry device r.tenant) (.ok snapshot) →
      e.keeping.admits (Worker.raisedAlert id r device snapshot now)) :
    Safe (e.Unfolds byHand i) (terms e d i) (Focus e d i mine [] p [] [])
      (Worker.evaluateDevice again r device)
      (Ended e d i mine [] (Evaluates e r device again (Lists e d mine r device) p)) := by
  refine .bind (safe_fetch h) (fun snapshot => ?_) fun f x hx => by simp at hx
  intro x hx
  obtain ⟨hfocus, fetched, hsnapshot, hfetches⟩ := hx
  obtain rfl : snapshot = fetched := Except.ok.inj hsnapshot
  refine (?_ : Safe _ _ (Focus e d i mine [] p [] []) _ _) x hfocus
  split_ifs with hempty
  · obtain rfl : snapshot = [] := by simpa using hempty
    exact .pure h.stable fun x hx => ⟨p, hx, Or.inl (.skipped hfetches)⟩
  · have hne : snapshot ≠ [] := by simpa using hempty
    have hreply := hfetches.resolve_right fun hnone => hne hnone.1
    refine (safe_underLock h fun id now => hadmits snapshot id now hreply).weaken
      (fun _ hx => hx) ?_
    rintro o x ⟨p', hx, hsettles⟩
    exact ⟨p', hx, hsettles.imp_left (.settled hne hreply)⟩

end
end
end TelemetryAlerts
