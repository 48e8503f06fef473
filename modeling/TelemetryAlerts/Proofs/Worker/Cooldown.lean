import TelemetryAlerts.Proofs.Evaluation.Lifecycle
import TelemetryAlerts.Proofs.Store.Descent
import TelemetryAlerts.Proofs.Worker.Scene

/-!
# Cooling down

While a rule cools down after an alert for a device, no other alert of the rule is
triggered for the device. That is decided by the latest alert of the rule and the device,
which the store is asked for under their lock. It is no older than any other of them,
whatever became of these since, and until the lock is given back nobody else adds one. So
all alerts of the rule for the device stay apart in time, however the clock moves.

**Results.**
* `Memory.remembers`, `Indexed.remembers`: both stores forget no alert when they are asked
  for the latest one, and change the time of none.
* `safe_evaluateDevice`: one evaluation keeps the alerts of a rule apart.
* `alerts_apart`: so does every run of workers and of requests by hand.
-/

namespace TelemetryAlerts

open Program (Safe)

/-! ### Stores -/

/-- A store that is in order keeps the origin of its alerts, and finds the latest one. -/
structure Remembers
    {σ : Type} (serves : σ → (r : Request) → Outcome r.Reply → σ → Prop)
    (holds : σ → Alert → Prop) (ordered : σ → Prop) : Prop where
  stays : ∀ {s r o s'}, ordered s → serves s r o s' → ordered s'
  origin : ∀ {s r o s' b}, ordered s → serves s r o s' → holds s' b →
    (∃ a, holds s a ∧ a.origin = b.origin) ∨ ∃ a, r = .create a ∧ a.origin = b.origin
  latest : ∀ {s rule device latest s' b}, ordered s →
    serves s (.latestOf rule device) (.ok latest) s' → holds s' b → b.rule = rule →
      b.device = device → ∃ a, latest = some a ∧ a.triggeredAt.IsNoEarlier b.triggeredAt

/-- A store in memory serves a request at some moment, or the request fails, with or
without effect. -/
def Memory.MayServe (m : Memory) (r : Request) (o : Outcome r.Reply) (m' : Memory) : Prop :=
  (∃ now, m' = (m.serve now r).2 ∧ (o = (m.serve now r).1 ∨ ∃ e, o = .error e)) ∨
    m' = m ∧ ∃ e, o = .error e

/-- A key server serves a request at some moment, while any of the commands may fail without
effect; the reply may be lost. -/
def Indexed.MayServe (s : Server) (r : Request) (o : Outcome r.Reply) (s' : Server) : Prop :=
  ∃ now faults, s' = ((serve now r).runWith Line.execute ⟨s, faults⟩).2.server ∧
    (o = ((serve now r).runWith Line.execute ⟨s, faults⟩).1 ∨ ∃ e, o = .error e)

theorem Memory.remembers :
    Remembers Memory.MayServe (fun m a => a ∈ m.alerts) Memory.Orderly where
  stays := by
    rintro m r o m' hm (⟨now, rfl, -⟩ | ⟨rfl, -⟩)
    · exact hm.serve now r
    · exact hm
  origin := by
    rintro m r o m' b hm (⟨now, rfl, -⟩ | ⟨rfl, -⟩) hb
    · exact ((evolves hm.ids now r).descends hm.ids hb).origin
    · exact Or.inl ⟨b, hb, rfl⟩
  latest := by
    rintro m rule device latest m' b hm (⟨now, rfl, ho | ⟨e, he⟩⟩ | ⟨-, e, he⟩) hb hrule hdevice
    · exact isNoEarlier_latestOf ho.symm hb hrule hdevice
    · cases he
    · cases he

theorem Indexed.remembers :
    Remembers Indexed.MayServe Stored (Holds fun _ => True) where
  stays := by
    rintro s r o s' hs ⟨now, faults, rfl, -⟩
    exact (ensures_descent now r ⟨s, faults⟩ hs).mono fun _ _ => trivial
  origin := by
    rintro s r o s' b hs ⟨now, faults, rfl, -⟩ hb
    have hstored : Holds (Stored s) s := ⟨hs.toKept, fun _ ha => ha, hs.paired⟩
    exact ((ensures_descent now r ⟨s, faults⟩ hstored).known b hb).origin
  latest := by
    rintro s rule device latest s' b hs ⟨now, faults, rfl, ho | ⟨e, he⟩⟩ hb hrule hdevice
    · exact ensures_latestOf now rule device ⟨s, faults⟩ hs latest ho.symm b hb hrule hdevice
    · cases he

namespace Cooldown

/-- Whether the alerts of a rule that a store holds for one device are apart in time. -/
def Apart {σ : Type} (holds : σ → Alert → Prop) (rule : String) (minutes : Nat) (s : σ) : Prop :=
  ∀ a b, holds s a → holds s b → a.rule = rule → b.rule = rule → a.device = b.device →
    a.id ≠ b.id → a.triggeredAt.AreApart minutes b.triggeredAt

theorem Apart.of_origin
    {σ : Type} {holds : σ → Alert → Prop} {rule : String} {minutes : Nat} {s : σ}
    {a b a' b' : Alert}
    (h : Apart holds rule minutes s)
    (ha' : holds s a')
    (hb' : holds s b')
    (haa' : a'.origin = a.origin)
    (hbb' : b'.origin = b.origin)
    (hrulea : a.rule = rule)
    (hruleb : b.rule = rule)
    (hdevice : a.device = b.device)
    (hid : a.id ≠ b.id) :
    a.triggeredAt.AreApart minutes b.triggeredAt := by
  obtain ⟨hida, -, hra, hda, hta⟩ := Alert.origin_eq_iff.mp haa'
  obtain ⟨hidb, -, hrb, hdb, htb⟩ := Alert.origin_eq_iff.mp hbb'
  rw [← hta, ← htb]
  exact h a' b' ha' hb' (hra.trans hrulea) (hrb.trans hruleb)
    (hda.trans (hdevice.trans hdb.symm)) (by rwa [hida, hidb])

section

variable {σ ι : Type} {holds : σ → Alert → Prop} {ordered : σ → Prop}
  {rule device : String} {minutes : Nat} {i j : ι} {w w' : Scene σ ι}

/-! ### What tasks rely on and guarantee -/

/-- What every call keeps up. -/
structure Kept
    (holds : σ → Alert → Prop) (ordered : σ → Prop) (rule : String) (minutes : Nat)
    (w : Scene σ ι) : Prop where
  ordered : ordered w.store
  apart : Apart holds rule minutes w.store

/-- Whether every alert of the rule for a device has the origin of an earlier one. -/
def AddsNone
    (holds : σ → Alert → Prop) (rule device : String) (w w' : Scene σ ι) : Prop :=
  ∀ b, holds w'.store b → b.rule = rule → b.device = device →
    ∃ a, holds w.store a ∧ a.origin = b.origin

theorem AddsNone.trans
    {w'' : Scene σ ι}
    (h : AddsNone holds rule device w w')
    (h' : AddsNone holds rule device w' w'') :
    AddsNone holds rule device w w'' := by
  intro b hb hrule hdevice
  obtain ⟨a, ha, hab⟩ := h' b hb hrule hdevice
  obtain ⟨-, -, hrulea, hdevicea, -⟩ := Alert.origin_eq_iff.mp hab
  obtain ⟨c, hc, hca⟩ := h a ha (hrulea.trans hrule) (hdevicea.trans hdevice)
  exact ⟨c, hc, hca.trans hab⟩

/-- What a task counts on: while it holds the lock of the rule and a device, no other task
takes the lock, or adds an alert of the rule for the device. -/
structure Counts
    (holds : σ → Alert → Prop) (rule : String) (i : ι) (w w' : Scene σ ι) : Prop where
  holder : ∀ device, w.holder rule device = some i → w'.holder rule device = some i
  adds : ∀ device, w.holder rule device = some i → AddsNone holds rule device w w'

theorem Counts.refl
    (i : ι) (w : Scene σ ι) :
    Counts holds rule i w w :=
  ⟨fun _ h => h, fun _ _ b hb _ _ => ⟨b, hb, rfl⟩⟩

theorem Counts.trans
    (i : ι) (w w' w'' : Scene σ ι)
    (h : Counts holds rule i w w')
    (h' : Counts holds rule i w' w'') :
    Counts holds rule i w w'' :=
  ⟨fun d hd => h'.holder d (h.holder d hd),
    fun d hd => (h.adds d hd).trans (h'.adds d (h.holder d hd))⟩

/-- The terms on which a task works. -/
abbrev terms
    (holds : σ → Alert → Prop) (ordered : σ → Prop) (rule : String) (minutes : Nat) (i : ι) :
    Terms (Scene σ ι) :=
  .shared (Kept holds ordered rule minutes) (Counts holds rule) Counts.refl Counts.trans i

/-- A call that leaves the store alone, and the locks of others. -/
theorem guarantee_of_store
    (hstore : w'.store = w.store)
    (hholder : ∀ device j, j ≠ i → w.holder rule device = some j →
      w'.holder rule device = some j) :
    (terms holds ordered rule minutes i).guarantee w w' :=
  fun hw => ⟨⟨hstore ▸ hw.ordered, hstore ▸ hw.apart⟩, fun j hj =>
    ⟨fun d hd => hholder d j hj hd, fun _ _ b hb _ _ => ⟨b, hstore ▸ hb, rfl⟩⟩⟩

/-! ### Single calls -/

variable {e : Surroundings σ ι}

/-- A request that creates no alert of the rule adds none. -/
theorem addsNone_serve
    (h : Remembers e.serves holds ordered)
    (hw : ordered w.store)
    {r : Request} {o : Outcome r.Reply} {s : σ}
    (hserves : e.serves w.store r o s)
    (hother : ∀ a, r = .create a → a.rule ≠ rule) :
    AddsNone holds rule device w (w.serve r o s) := by
  intro b hb hrule _
  refine (h.origin hw hserves hb).resolve_right ?_
  rintro ⟨a, hr, hab⟩
  obtain ⟨-, -, hrulea, -, -⟩ := Alert.origin_eq_iff.mp hab
  exact hother a hr (hrulea.trans hrule)

theorem guarantee_serve
    (h : Remembers e.serves holds ordered)
    {r : Request} {o : Outcome r.Reply} {s : σ}
    (hserves : e.serves w.store r o s)
    (hother : ∀ a, r = .create a → a.rule ≠ rule) :
    (terms holds ordered rule minutes i).guarantee w (w.serve r o s) := by
  intro hw
  have hadds (d : String) : AddsNone holds rule d w (w.serve r o s) :=
    addsNone_serve h hw.ordered hserves hother
  refine ⟨⟨h.stays hw.ordered hserves, fun a b ha hb hra hrb hdevice hid => ?_⟩,
    fun j _ => ⟨fun _ hd => hd, fun d _ => hadds d⟩⟩
  obtain ⟨a', ha', haa'⟩ := hadds a.device a ha hra rfl
  obtain ⟨b', hb', hbb'⟩ := hadds b.device b hb hrb rfl
  exact hw.apart.of_origin ha' hb' haa' hbb' hra hrb hdevice hid

/-- Whether something is true of the times at which the alerts of the rule for a device were
triggered. -/
def Each
    (holds : σ → Alert → Prop) (rule device : String) (F : Moment → Prop)
    (w : Scene σ ι) : Prop :=
  ∀ b, holds w.store b → b.rule = rule → b.device = device → F b.triggeredAt

theorem Each.of_addsNone
    {F : Moment → Prop}
    (h : Each holds rule device F w)
    (hadds : AddsNone holds rule device w w') :
    Each holds rule device F w' := by
  intro b hb hrule hdevice
  obtain ⟨a, ha, hab⟩ := hadds b hb hrule hdevice
  obtain ⟨-, -, hrulea, hdevicea, htime⟩ := Alert.origin_eq_iff.mp hab
  rw [← htime]
  exact h a ha (hrulea.trans hrule) (hdevicea.trans hdevice)

/-- A new alert of the rule may be added when it is due, under the lock of the rule and the
device. -/
theorem guarantee_create
    (h : Remembers e.serves holds ordered)
    {a : Alert} {o : Outcome Unit} {s : σ}
    (hserves : e.serves w.store (.create a) o s)
    (hholder : w.holder rule a.device = some i)
    (hdue : Each holds rule a.device (a.triggeredAt.IsLater minutes) w) :
    (terms holds ordered rule minutes i).guarantee w (w.serve (.create a) o s) := by
  intro hw
  have hcases (b : Alert) (hb : holds s b) :
      (∃ c, holds w.store c ∧ c.origin = b.origin) ∨ a.origin = b.origin := by
    refine (h.origin hw.ordered hserves hb).imp_right ?_
    rintro ⟨c, hc, hcb⟩
    rwa [Request.create.inj hc]
  have hnew (b c : Alert) (hab : a.origin = b.origin)
      (hc : ∃ c', holds w.store c' ∧ c'.origin = c.origin) (hrule : c.rule = rule)
      (hdevice : b.device = c.device) :
      b.triggeredAt.AreApart minutes c.triggeredAt := by
    obtain ⟨c', hc, hcc⟩ := hc
    obtain ⟨-, -, -, hdeviceb, htimeb⟩ := Alert.origin_eq_iff.mp hab
    obtain ⟨-, -, hrulec, hdevicec, htimec⟩ := Alert.origin_eq_iff.mp hcc
    rw [← htimeb, ← htimec]
    exact Or.inl (hdue c' hc (hrulec.trans hrule)
      (hdevicec.trans (hdevice.symm.trans hdeviceb.symm)))
  refine ⟨⟨h.stays hw.ordered hserves, fun b c hb hc hrb hrc hdevice hid => ?_⟩,
    fun j hj => ⟨fun _ hd => hd, fun d hd b hb _ hdevice => (hcases b hb).resolve_right ?_⟩⟩
  · rcases hcases b hb with hb' | hb' <;> rcases hcases c hc with hc' | hc'
    · obtain ⟨b', hb', hbb'⟩ := hb'
      obtain ⟨c', hc', hcc'⟩ := hc'
      exact hw.apart.of_origin hb' hc' hbb' hcc' hrb hrc hdevice hid
    · exact (hnew c b hc' hb' hrb hdevice.symm).symm
    · exact hnew b c hb' hc' hrc hdevice
    · exact absurd ((congrArg Prod.fst hb').symm.trans (congrArg Prod.fst hc')) hid
  · intro hab
    obtain ⟨-, -, -, hdeviceb, -⟩ := Alert.origin_eq_iff.mp hab
    rw [← hdevice, ← hdeviceb, hholder] at hd
    exact hj (Option.some.inj hd).symm

/-! ### Evaluations -/

variable {r : Rule} {F F' : Moment → Prop}

/-- What holds under the lock of a rule and a device. -/
structure Locked
    (holds : σ → Alert → Prop) (ordered : σ → Prop) (rule : String) (minutes : Nat) (i : ι)
    (r : Rule) (device : String) (F : Moment → Prop) (w : Scene σ ι) : Prop where
  kept : Kept holds ordered rule minutes w
  holder : r.id = rule → w.holder rule device = some i
  each : r.id = rule → Each holds rule device F w

theorem stable_kept :
    (terms holds ordered rule minutes i).Stable (Kept holds ordered rule minutes) :=
  fun _ _ hrely hw => (hrely hw).1

theorem stable_locked :
    (terms holds ordered rule minutes i).Stable
      (Locked holds ordered rule minutes i r device F) := by
  intro w w' hrely hw
  obtain ⟨hkept, hcounts⟩ := hrely hw.kept
  exact ⟨hkept, fun hr => hcounts.holder device (hw.holder hr),
    fun hr => (hw.each hr).of_addsNone (hcounts.adds device (hw.holder hr))⟩

theorem Locked.imp
    (h : Locked holds ordered rule minutes i r device F w)
    (himp : r.id = rule → ∀ t, F t → F' t) :
    Locked holds ordered rule minutes i r device F' w :=
  ⟨h.kept, h.holder, fun hr b hb hrule hdevice => himp hr _ (h.each hr b hb hrule hdevice)⟩

/-- A request that creates no alert leaves what holds under a lock. -/
theorem locked_serve
    (h : Remembers e.serves holds ordered)
    {req : Request} {o : Outcome req.Reply} {s : σ}
    (hother : ∀ a, req ≠ .create a)
    (hw : Locked holds ordered rule minutes i r device F w)
    (hserves : e.serves w.store req o s) :
    (terms holds ordered rule minutes i).guarantee w (w.serve req o s) ∧
      Locked holds ordered rule minutes i r device F (w.serve req o s) := by
  have hnone (a : Alert) (hr : req = .create a) : a.rule ≠ rule := absurd hr (hother a)
  have hguarantee : (terms holds ordered rule minutes i).guarantee w (w.serve req o s) :=
    guarantee_serve h hserves hnone
  exact ⟨hguarantee, (hguarantee hw.kept).1, hw.holder, fun hr =>
    (hw.each hr).of_addsNone (addsNone_serve h hw.kept.ordered hserves hnone)⟩

section

variable [DecidableEq ι] {task : Task}

theorem calm_kept :
    Worker.Calm (e.Reacts task i) (terms holds ordered rule minutes i)
      (Kept holds ordered rule minutes) where
  stable := stable_kept
  plain c w reply w' hc hw hcall := by
    obtain rfl := Surroundings.eq_of_reacts hcall hc
    exact ⟨guarantee_of_store rfl fun _ _ _ hd => hd, hw⟩

theorem calm_locked :
    Worker.Calm (e.Reacts task i) (terms holds ordered rule minutes i)
      (Locked holds ordered rule minutes i r device F) where
  stable := stable_locked
  plain c w reply w' hc hw hcall := by
    obtain rfl := Surroundings.eq_of_reacts hcall hc
    exact ⟨guarantee_of_store rfl fun _ _ _ hd => hd, hw⟩

variable (h : Remembers e.serves holds ordered)
include h

/-- A request that creates no alert leaves what holds under a lock. -/
theorem safe_store
    {req : Request}
    (hother : ∀ a, req ≠ .create a) :
    Safe (e.Reacts task i) (terms holds ordered rule minutes i)
      (Locked holds ordered rule minutes i r device F) (WorkerAction.store req)
      fun _ => Locked holds ordered rule minutes i r device F := by
  refine .perform stable_locked (fun _ => stable_locked) fun w o w' hw hcall => ?_
  obtain ⟨-, s, hserves, rfl⟩ := hcall
  exact locked_serve h hother hw hserves

/-- The latest alert tells about the times of all. -/
theorem safe_latestOf :
    Safe (e.Reacts task i) (terms holds ordered rule minutes i)
      (Locked holds ordered rule minutes i r device fun _ => True)
      (WorkerAction.store (.latestOf r.id device))
      fun o => Locked holds ordered rule minutes i r device fun t => ∀ latest, o = .ok latest →
        ∃ a, latest = some a ∧ a.triggeredAt.IsNoEarlier t := by
  refine .perform stable_locked (fun _ => stable_locked) fun w o w' hw hcall => ?_
  obtain ⟨-, s, hserves, rfl⟩ := hcall
  obtain ⟨hguarantee, hlocked⟩ := locked_serve h (by simp) hw hserves
  refine ⟨hguarantee, hlocked.kept, hlocked.holder, fun hr b hb hrule hdevice latest ho => ?_⟩
  subst ho
  exact h.latest hw.kept.ordered hserves hb (hrule.trans hr.symm) hdevice

theorem safe_recordDelivered
    (a : Alert) (report : Report) :
    Safe (e.Reacts task i) (terms holds ordered rule minutes i)
      (Locked holds ordered rule minutes i r device F) (Worker.recordDelivered a report)
      fun _ => Locked holds ordered rule minutes i r device F := by
  unfold Worker.recordDelivered
  split_ifs
  · exact calm_locked.pure ()
  · exact safe_store h (by simp)

/-- An alert is triggered when it is due. -/
theorem safe_trigger
    (hcooldown : r.id = rule → r.cooldownMinutes = minutes)
    (snapshot : Snapshot) (now : Moment) :
    Safe (e.Reacts task i) (terms holds ordered rule minutes i)
      (Locked holds ordered rule minutes i r device (now.IsLater r.cooldownMinutes))
      (Worker.trigger r device snapshot now)
      fun _ => Locked holds ordered rule minutes i r device fun _ => True := by
  refine .bind (R := fun _ =>
      Locked holds ordered rule minutes i r device (now.IsLater r.cooldownMinutes))
    (.perform stable_locked (fun _ => stable_locked) fun w id w' hw hcall => ?_) (fun id => ?_)
    fun _ _ hs => hs.imp fun _ _ _ => trivial
  · obtain ⟨-, rfl⟩ := hcall
    exact ⟨guarantee_of_store rfl fun _ _ _ hd => hd, ⟨hw.kept.ordered, hw.kept.apart⟩,
      hw.holder, hw.each⟩
  refine .bind (R := fun _ => Locked holds ordered rule minutes i r device fun _ => True)
    (.perform stable_locked (fun _ => stable_locked) fun w o w' hw hcall => ?_)
    (fun _ => ?_) fun _ _ hs => hs
  · obtain ⟨-, s, hserves, rfl⟩ := hcall
    have hguarantee : (terms holds ordered rule minutes i).guarantee w (w.serve _ o s) := by
      by_cases hr : r.id = rule
      · refine guarantee_create h hserves (hw.holder hr) ?_
        rw [← hcooldown hr]
        exact hw.each hr
      · refine guarantee_serve h hserves fun a ha => ?_
        rw [← Request.create.inj ha]
        exact hr
    exact ⟨hguarantee, (hguarantee hw.kept).1, hw.holder, fun _ _ _ _ _ => trivial⟩
  · exact .andThen (calm_locked.count _) fun _ =>
      .andThen (calm_locked.ask rfl) fun report => safe_recordDelivered h _ report

theorem safe_resolve
    (a : Alert) :
    Safe (e.Reacts task i) (terms holds ordered rule minutes i)
      (Locked holds ordered rule minutes i r device F) (Worker.resolve a)
      fun _ => Locked holds ordered rule minutes i r device F := by
  refine .andThen (safe_store h (by simp)) fun resolved => ?_
  split_ifs
  · exact calm_locked.count _
  · exact calm_locked.pure ()

theorem safe_escalate
    (a : Alert) (now : Moment) :
    Safe (e.Reacts task i) (terms holds ordered rule minutes i)
      (Locked holds ordered rule minutes i r device F) (Worker.escalate a r now)
      fun _ => Locked holds ordered rule minutes i r device F := by
  refine .andThen (calm_locked.ask rfl) fun report => ?_
  refine .andThen (safe_store h (by simp)) fun _ => ?_
  exact .andThen (calm_locked.count _) fun _ => safe_recordDelivered h a report

/-- A transition keeps what holds under a lock; an alert is triggered only when it is due. -/
theorem safe_apply
    (hcooldown : r.id = rule → r.cooldownMinutes = minutes)
    (t : Transition) (open? : Option Alert) (snapshot : Snapshot) (now : Moment) :
    Safe (e.Reacts task i) (terms holds ordered rule minutes i)
      (Locked holds ordered rule minutes i r device fun u =>
        t = .trigger → now.IsLater r.cooldownMinutes u)
      (Worker.apply t open? r device snapshot now)
      fun _ => Locked holds ordered rule minutes i r device fun _ => True := by
  have hforget {F : Moment → Prop} (w : Scene σ ι)
      (hw : Locked holds ordered rule minutes i r device F w) :
      Locked holds ordered rule minutes i r device (fun _ => True) w :=
    hw.imp fun _ _ _ => trivial
  cases t with
  | trigger =>
      exact (safe_trigger h hcooldown snapshot now).weaken
        (fun w hw => hw.imp fun _ _ hu => hu rfl) fun _ _ hs => hs
  | suppress =>
      exact (calm_locked.count _).weaken (fun _ hw => hw) fun _ => hforget
  | resolve =>
      cases open? with
      | none =>
          exact (calm_locked.pure ()).weaken (fun _ hw => hw) fun _ => hforget
      | some a =>
          exact (safe_resolve h a).weaken (fun _ hw => hw) fun _ => hforget
  | escalate =>
      cases open? with
      | none =>
          exact (calm_locked.pure ()).weaken (fun _ hw => hw) fun _ => hforget
      | some a =>
          exact (safe_escalate h a now).weaken (fun _ hw => hw) fun _ => hforget
  | none =>
      exact (calm_locked.pure ()).weaken (fun _ hw => hw) fun _ => hforget

/-- What is decided on is done; the decision to trigger rests on the last alert. -/
theorem safe_decide
    (hcooldown : r.id = rule → r.cooldownMinutes = minutes)
    (open? last? : Option Alert) (again : Bool) (snapshot : Snapshot) (now : Moment) :
    Safe (e.Reacts task i) (terms holds ordered rule minutes i)
      (Locked holds ordered rule minutes i r device fun u =>
        open? = none → r.fires snapshot = true →
          ∃ a, last? = some a ∧ a.triggeredAt.IsNoEarlier u)
      (do
        let t ← (liftM (timed (Transition.choose open? (r.fires snapshot) last? r now again)) :
          WorkerAction Transition)
        Worker.apply t open? r device snapshot now
        pure t)
      fun _ => Locked holds ordered rule minutes i r device fun _ => True := by
  refine .bind (R := fun o => Locked holds ordered rule minutes i r device fun u =>
      o = .ok .trigger → now.IsLater r.cooldownMinutes u)
    (.lift stable_locked fun w hw => hw.imp fun _ u hlatest ho => ?_) (fun t => ?_)
    fun _ _ hs => hs.imp fun _ _ _ => trivial
  · obtain ⟨hnone, hfires, hlater⟩ := choose_eq_trigger (timed_eq_ok.mp ho)
    obtain ⟨a, ha, haware, hinstant⟩ := hlatest hnone hfires
    exact (hlater a ha).of_le haware hinstant
  · refine .bind ((safe_apply h hcooldown t open? snapshot now).weaken
      (fun w hw => hw.imp fun _ _ hu ht => hu (congrArg Except.ok ht)) fun _ _ hs => hs)
      (fun _ => calm_locked.pure t) fun _ _ hs => hs

theorem safe_settle
    (hcooldown : r.id = rule → r.cooldownMinutes = minutes)
    (again : Bool) (snapshot : Snapshot) :
    Safe (e.Reacts task i) (terms holds ordered rule minutes i)
      (Locked holds ordered rule minutes i r device fun _ => True)
      (Worker.settle again r device snapshot)
      fun _ => Locked holds ordered rule minutes i r device fun _ => True := by
  refine .andThen (safe_store h (by simp)) fun (openAlerts : List Alert) => ?_
  refine .andThen (calm_locked.ask rfl) fun now => ?_
  dsimp only
  split_ifs with hasked
  · refine .bind (safe_latestOf h) (fun last? => ?_) fun _ _ hs => hs.imp fun _ _ _ => trivial
    exact (safe_decide h hcooldown _ last? again snapshot now).weaken
      (fun w hw => hw.imp fun _ _ hlatest _ _ => hlatest last? rfl) fun _ _ hs => hs
  · refine .bind (calm_locked.pure none) (fun last? => ?_) fun _ _ hs => hs
    refine (safe_decide h hcooldown _ last? again snapshot now).weaken
      (fun w hw => hw.imp fun _ _ _ hnone hfires => ?_) fun _ _ hs => hs
    exact absurd (by rw [hnone, hfires]; rfl) hasked

/-- An evaluation of a rule for a device keeps the alerts of the rule apart. -/
theorem safe_evaluateDevice
    (hcooldown : r.id = rule → r.cooldownMinutes = minutes)
    (again : Bool) (device : String) :
    Safe (e.Reacts task i) (terms holds ordered rule minutes i)
      (Kept holds ordered rule minutes) (Worker.evaluateDevice again r device)
      fun _ => Kept holds ordered rule minutes := by
  refine .andThen (calm_kept.fetch device r.tenant) fun snapshot => ?_
  split_ifs
  · exact calm_kept.pure _
  · refine Worker.safe_locked stable_kept (fun _ => stable_locked) (fun _ => stable_kept)
      (fun w w' hw hcall => ?_) (safe_settle h hcooldown again snapshot)
      fun o w w' hw hcall => ?_
    · obtain ⟨hfree, rfl⟩ := hcall
      refine ⟨guarantee_of_store rfl fun d j _ hd => ?_, ⟨hw.ordered, hw.apart⟩, ?_,
        fun _ _ _ _ _ => trivial⟩
      · rw [w.holder_setHolder_of_ne, hd]
        rintro ⟨rfl, rfl⟩
        rw [hfree] at hd
        cases hd
      · rintro rfl
        exact w.holder_setHolder_self ..
    · obtain rfl := hcall
      refine ⟨guarantee_of_store rfl fun d j hj hd => ?_, ⟨hw.kept.ordered, hw.kept.apart⟩⟩
      rw [w.holder_setHolder_of_ne, hd]
      rintro ⟨rfl, rfl⟩
      rw [hw.holder rfl] at hd
      exact hj (Option.some.inj hd).symm

end

/-! ### Runs -/

variable [DecidableEq ι] {tasks : ι → Task} {s : σ} {crew : Surroundings.Crew σ ι}

/-- What is kept up between evaluations is kept up by every worker. -/
theorem steady
    (h : Remembers e.serves holds ordered)
    (hcooldown : ∀ r, e.rules r → r.id = rule → r.cooldownMinutes = minutes)
    (task : Task) :
    Worker.Steady (e.Reacts task i) (terms holds ordered rule minutes i) e.rules task.again
      (Kept holds ordered rule minutes) where
  toRounds := calm_kept.rounds
  listed _ _ found _ _ hcall := hcall.1 found rfl
  device r device hr := safe_evaluateDevice h (hcooldown r hr) task.again device

theorem safe_task
    (h : Remembers e.serves holds ordered)
    (hcooldown : ∀ r, e.rules r → r.id = rule → r.cooldownMinutes = minutes)
    {task : Task}
    (hrule : ∀ r ∈ task.rule?, e.rules r) :
    Safe (e.Reacts task i) (terms holds ordered rule minutes i)
      (Kept holds ordered rule minutes) task.action fun _ => Kept holds ordered rule minutes := by
  refine Task.safe (steady h hcooldown task) hrule fun req hreq => ?_
  refine .perform stable_kept (fun _ => stable_kept) fun w o w' hw hcall => ?_
  obtain ⟨-, s, hserves, rfl⟩ := hcall
  have hguarantee : (terms holds ordered rule minutes i).guarantee w (w.serve req o s) :=
    guarantee_serve h hserves fun a ha => by
      subst ha
      cases task <;> cases hreq
  exact ⟨hguarantee, (hguarantee hw).1⟩

/-- The alerts of a rule are apart whatever workers and people do. -/
theorem kept_of_reaches
    (h : Remembers e.serves holds ordered)
    (hcooldown : ∀ r, e.rules r → r.id = rule → r.cooldownMinutes = minutes)
    (htasks : ∀ i, ∀ r ∈ (tasks i).rule?, e.rules r)
    (hordered : ordered s)
    (hempty : ∀ a, ¬ holds s a)
    (hreaches : e.Reaches tasks s crew) :
    Kept holds ordered rule minutes crew.state := by
  have hstart : Kept holds ordered rule minutes (Scene.start s : Scene σ ι) :=
    ⟨hordered, fun a _ ha => absurd ha (hempty a)⟩
  exact hreaches.keeps (fun i => safe_task h hcooldown (htasks i) _ hstart) hstart

end

end Cooldown

/-- A store and rules; ids may repeat, and requests are made by hand at any time. -/
def Surroundings.ofStore {σ ι : Type} (serves : σ → (r : Request) → Outcome r.Reply → σ → Prop)
    (rules : Rule → Prop) : Surroundings σ ι :=
  ⟨serves, rules, fun _ _ => True, fun _ _ => True⟩

/-- While a rule cools down after an alert for a device, no other alert of the rule is
triggered for the device: any two are at least as many minutes apart as the rule cools down,
whichever store they are in. Workers evaluate cycles, tenants and single devices, and
people acknowledge and resolve alerts, in any order and at the same time; the telemetry,
the clock and the failures of other calls are arbitrary. A request takes effect at once, and
the lock of a rule and a device has one holder at most. -/
theorem alerts_apart
    {ι : Type} [DecidableEq ι]
    {rules : Rule → Prop} {rule : String} {minutes : Nat} {tasks : ι → Task}
    (hcooldown : ∀ r, rules r → r.id = rule → r.cooldownMinutes = minutes)
    (htasks : ∀ i, ∀ r ∈ (tasks i).rule?, rules r) :
    (∀ w, (Surroundings.ofStore Memory.MayServe rules).Reaches tasks {} w →
      ∀ a ∈ w.state.store.alerts, ∀ b ∈ w.state.store.alerts,
        a.rule = rule → b.rule = rule → a.device = b.device → a.id ≠ b.id →
          a.triggeredAt.AreApart minutes b.triggeredAt) ∧
    ∀ w, (Surroundings.ofStore Indexed.MayServe rules).Reaches tasks {} w →
      ∀ a b, Indexed.Stored w.state.store a → Indexed.Stored w.state.store b →
        a.rule = rule → b.rule = rule → a.device = b.device → a.id ≠ b.id →
          a.triggeredAt.AreApart minutes b.triggeredAt := by
  constructor
  · intro w hreaches a ha b hb
    have hempty (c : Alert) : c ∉ ({} : Memory).alerts := List.not_mem_nil
    exact (Cooldown.kept_of_reaches Memory.remembers hcooldown htasks Memory.Orderly.empty
      hempty hreaches).apart a b ha hb
  · intro w hreaches a b ha hb
    have hempty (c : Alert) : ¬ Indexed.Stored {} c := by simp [Indexed.Stored, Server.find?]
    exact (Cooldown.kept_of_reaches Indexed.remembers hcooldown htasks Indexed.Holds.empty
      hempty hreaches).apart a b ha hb

/-- The rule of the run below: it tells whether a door stands open or shut. -/
def doorRule : Rule where
  id := "rule-1"
  tenant := "tenant-a"
  name := "Door"
  description? := none
  tags := []
  target := .device
  devices := ["dev-1"]
  deviceTypes := []
  conditions := [⟨"door", .between, .bool true, .bool true, none, none⟩,
    ⟨"door", .outside, .bool true, .bool true, none, none⟩]
  logic := .any
  severity := .warning
  windowSeconds? := none
  frequencySeconds := 60
  cooldownMinutes := 30
  channels := []
  recipients := []
  escalation? := none
  enabled := true

/-- Two evaluations, and a request to resolve an alert between them. -/
def doorTasks : Fin 3 → Task
  | 0 => .evaluateDevice true doorRule "dev-1"
  | 1 => .resolve "a1" "tenant-a" none
  | 2 => .evaluateDevice true doorRule "dev-1"

theorem alerts_apart_door :
    (∀ r, r = doorRule → r.id = "rule-1" → r.cooldownMinutes = 30) ∧
      (∀ i, ∀ r ∈ (doorTasks i).rule?, r = doorRule) ∧
      ∀ w, (Surroundings.ofStore Memory.MayServe (· = doorRule)).Reaches doorTasks {} w →
        ∀ a ∈ w.state.store.alerts, ∀ b ∈ w.state.store.alerts,
          a.rule = "rule-1" → b.rule = "rule-1" → a.device = b.device → a.id ≠ b.id →
            a.triggeredAt.AreApart 30 b.triggeredAt := by
  have hcooldown : ∀ r, r = doorRule → r.id = "rule-1" → r.cooldownMinutes = 30 := by
    rintro r rfl -
    rfl
  have htasks : ∀ i, ∀ r ∈ (doorTasks i).rule?, r = doorRule := by
    intro i r hr
    fin_cases i <;> simp_all [doorTasks, Task.rule?]
  exact ⟨hcooldown, htasks, (alerts_apart hcooldown htasks).1⟩

end TelemetryAlerts
