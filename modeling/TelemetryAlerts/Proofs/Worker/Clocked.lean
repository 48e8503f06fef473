import TelemetryAlerts.Proofs.Evaluation.Lifecycle
import TelemetryAlerts.Proofs.Program.Behind
import TelemetryAlerts.Proofs.Store.Keeping
import TelemetryAlerts.Proofs.Worker.Scene

/-!
# Tasks at a store that keeps a list of alerts

The surroundings of the tasks here tell more than those of a scene: the store keeps a list
of alerts, every request is served at a moment that the clock showed, ids are drawn once,
and it is noted who counted what. Tasks agree on what they leave to each other. Some
alerts belong to one task; others belong to a task while it holds the lock of their rule
and device; and what a task draws, reads and counts is its own.

**Results.**
* `Setting.unfolds`: what happens at the store happens to the list behind it.
* `guarantee_aside`, `guarantee_same`, `guarantee_append`, `guarantee_put`: what a call has to
  be like to leave to the other tasks what is theirs.
-/

namespace TelemetryAlerts

open Program (Safe)

/-! ### Surroundings -/

/-- What tasks share, with what the clock showed so far, and who counted what. -/
structure Clocked (σ ι : Type) extends Scene σ ι where
  readings : List Moment
  counted : List (ι × Counter)

namespace Clocked

variable {σ ι : Type}

/-- Nothing has happened yet. -/
def start (s : σ) : Clocked σ ι :=
  ⟨Scene.start s, [], []⟩

/-- The clock has shown a moment. -/
def read (w : Clocked σ ι) (t : Moment) : Clocked σ ι :=
  { w with readings := w.readings ++ [t] }

/-- The store has served a request at a moment. -/
def serve (w : Clocked σ ι) (now : Moment) (r : Request) (o : Outcome r.Reply) (s : σ) :
    Clocked σ ι :=
  { w.read now with toScene := w.toScene.serve r o s }

end Clocked

/-- What is known of the surroundings of tasks. -/
structure Setting (σ : Type) where
  keeping : Keeping σ
  /-- What can be replied to a call that does not go to the store. -/
  replies : (c : Call) → c.Reply → Prop
  /-- At which moments the store can serve a request. -/
  stamps : Moment → Prop
  /-- Whether a request may fail, without effect. -/
  faulty : Prop
  /-- Whether a call is made only while no other task holds a lock. -/
  alone : Prop

namespace Setting

variable {σ ι : Type} [DecidableEq ι]

/-- What can come of a call of a task. A request by hand is made while nobody holds a lock. -/
def Reacts
    (e : Setting σ) (byHand : Prop) (i : ι)
    (c : Call) (w : Clocked σ ι) (reply : c.Reply) (w' : Clocked σ ι) : Prop :=
  (e.alone → ∀ rule device j, w.holder rule device = some j → j = i) ∧
    match c, reply with
    | .store r, o =>
      (byHand → ∀ rule device, w.holder rule device = none) ∧
        ((∃ now s, e.stamps now ∧ e.keeping.serves now w.store r o s ∧
          w' = w.serve now r o s) ∨
        e.faulty ∧ o = .error .injected ∧ w' = w)
    | .now, t => e.replies .now t ∧ w' = w.read t
    | .freshId, id =>
      e.replies .freshId id ∧ w.drawer id = none ∧ w' = { w with toScene := w.toScene.draw id i }
    | .acquire rule device, _ =>
      w.holder rule device = none ∧
        w' = { w with toScene := w.toScene.setHolder rule device (some i) }
    | .release rule device, _ =>
      w' = { w with toScene := w.toScene.setHolder rule device none }
    | .count c, _ => w' = { w with counted := w.counted ++ [(i, c)] }
    | c, reply => e.replies c reply ∧ w' = w

/-- What a request does at the store and to the list behind it. -/
def Serves
    (e : Setting σ) (r : Request) (x : Clocked σ ι × List Alert) (o : Outcome r.Reply)
    (y : Clocked σ ι × List Alert) : Prop :=
  (∃ now s, e.stamps now ∧ y.1 = x.1.serve now r o s ∧ e.keeping.shows s y.2 ∧
    e.keeping.Answers x.2 now r o y.2) ∨
  e.faulty ∧ o = .error .injected ∧ y = x

/-- What can come of a call, also for the list behind the store. -/
def Unfolds
    (e : Setting σ) (byHand : Prop) (i : ι)
    (c : Call) (x : Clocked σ ι × List Alert) (reply : c.Reply)
    (y : Clocked σ ι × List Alert) : Prop :=
  e.Reacts byHand i c x.1 reply y.1 ∧
    match c, reply with
    | .store r, o =>
      e.keeping.shows x.1.store x.2 → e.keeping.Takes x.2 r → e.Serves r x o y
    | _, _ => y.2 = x.2

/-- What happens at the store happens to the list behind it. -/
theorem unfolds
    {e : Setting σ} {byHand : Prop} {i : ι} {c : Call} {w w' : Clocked σ ι} {reply : c.Reply}
    (h : e.Reacts byHand i c w reply w')
    (v : List Alert) :
    ∃ v', e.Unfolds byHand i c (w, v) reply (w', v') := by
  cases c with
  | store r =>
      obtain ⟨now, s, hnow, hserves, hw⟩ | ⟨hfaulty, ho, hw⟩ := h.2.2
      · by_cases hproper : e.keeping.shows w.store v ∧ e.keeping.Takes v r
        · obtain ⟨v', hshows, hanswers⟩ := e.keeping.answers hproper.1 hproper.2 hserves
          exact ⟨v', h, fun _ _ => Or.inl ⟨now, s, hnow, hw, hshows, hanswers⟩⟩
        · exact ⟨v, h, fun hshows htakes => absurd ⟨hshows, htakes⟩ hproper⟩
      · exact ⟨v, h, fun _ _ => Or.inr ⟨hfaulty, ho, by rw [hw]⟩⟩
  | _ =>
      exact ⟨v, h, rfl⟩

end Setting

/-! ### What tasks agree on -/

/-- A request to mark an escalation that was served: the id of the alert and the moment. -/
def Exchange.mark? {σ : Type} : Exchange σ → Option (String × Moment)
  | ⟨_, .markEscalated id _ at_, .ok _⟩ => some (id, at_)
  | _ => none

/-- What tasks agree on. -/
structure Accord (ι : Type) where
  /-- Which rules are evaluated. -/
  rules : Rule → Prop
  /-- For which devices a rule raises alerts, and when. -/
  raises : Rule → String → Moment → Prop
  /-- Which alerts belong to a task. -/
  owns : ι → Alert → Prop
  /-- Which rules have their alerts changed under the lock of the rule and the device only. -/
  guarded : String → Prop
  /-- Whether no alert is escalated twice. -/
  once : Prop
  /-- What is known of every alert, given what the clock showed. -/
  known : List Moment → Alert → Prop

/-- What is agreed to be known of every alert stays true, and no change moves an alert from
one task to another. -/
structure Accord.Upheld {ι : Type} (d : Accord ι) : Prop where
  later : ∀ {readings a} t, d.known readings a → d.known (readings ++ [t]) a
  raised : ∀ {readings id r device s now}, d.rules r → d.raises r device now → now ∈ readings →
    d.known readings (Worker.raisedAlert id r device s now)
  changed : ∀ {readings now a} {r : Request} {c : Change}, r.change? now = some c →
    (∀ id tenant at_, r = .markEscalated id tenant at_ → at_ ∈ readings) →
    d.known readings a → d.known (readings ++ [now]) (c.apply a)
  owns : ∀ {i a b}, a.origin = b.origin → d.owns i a → d.owns i b

/-- Whether the clock never showed an earlier moment after a later one. -/
def Ascending (readings : List Moment) : Prop :=
  readings.Pairwise fun t u => u.IsNoEarlier t

/-- Whether an alert is to be escalated at a moment, when it is escalated. -/
structure Due {ι : Type} (d : Accord ι) (readings : List Moment) (a : Alert) (at_ : Moment) :
    Prop where
  active : a.status = .active
  rule : ∃ r x, d.rules r ∧ r.id = a.rule ∧ r.escalation? = some x ∧
    at_.IsLater x.afterMinutes (a.lastEscalatedAt?.getD a.triggeredAt)
  first : d.once → a.lastEscalatedAt? = none
  current : Ascending readings → at_.IsNoEarlier a.updatedAt

/-- Whether a property of alerts is one of what no change touches. -/
def TellsOrigin (mine : Alert → Bool) : Prop :=
  ∀ a b, a.origin = b.origin → mine a = mine b

section

variable {σ ι : Type} {e : Setting σ} {d : Accord ι} {i j : ι}
  {x y z : Clocked σ ι × List Alert} {w w' : Clocked σ ι} {v v' : List Alert} {a b : Alert}

/-- Whether an alert is a task's, so that the others leave it alone. -/
def Territory (e : Setting σ) (d : Accord ι) (i : ι) (w : Clocked σ ι) (a : Alert) : Prop :=
  d.owns i a ∨ (e.alone ∧ ∃ rule device, w.holder rule device = some i) ∨
    d.guarded a.rule ∧ w.holder a.rule a.device = some i

theorem Territory.congr
    (hd : d.Upheld)
    (horigin : a.origin = b.origin)
    (ha : Territory e d i w a) :
    Territory e d i w b := by
  obtain ⟨-, -, hrule, hdevice, -⟩ := Alert.origin_eq_iff.mp horigin
  rw [Territory, ← hrule, ← hdevice]
  exact ha.imp_left (hd.owns horigin)

variable [DecidableEq ι]

/-- What every task keeps up. -/
structure Good (e : Setting σ) (d : Accord ι) (x : Clocked σ ι × List Alert) : Prop where
  shown : e.keeping.shows x.1.store x.2
  drawn : ∀ a ∈ x.2, e.replies .freshId a.id → x.1.drawer a.id ≠ none
  known : ∀ a ∈ x.2, d.known x.1.readings a

/-- What the calls of other tasks leave to a task. -/
structure Leaves
    (e : Setting σ) (d : Accord ι) (i : ι) (x y : Clocked σ ι × List Alert) : Prop where
  holder : ∀ rule device, x.1.holder rule device = some i → y.1.holder rule device = some i
  drawer : ∀ id, x.1.drawer id = some i → y.1.drawer id = some i
  unused : ∀ id, x.1.drawer id = some i → id ∉ x.2.map Alert.id → id ∉ y.2.map Alert.id
  readings : x.1.readings <+: y.1.readings
  counted : y.1.counted.filter (fun p => p.1 = i) = x.1.counted.filter fun p => p.1 = i
  origins : ∀ a ∈ x.2, ∃ b ∈ y.2, b.origin = a.origin
  territory : ∀ mine : Alert → Bool, TellsOrigin mine →
    (∀ a, mine a = true → Territory e d i x.1 a) → y.2.filter mine = x.2.filter mine

/-- What a call does to the alerts. -/
inductive Alters
    (e : Setting σ) (d : Accord ι) (x : Clocked σ ι × List Alert) :
    Clocked σ ι × List Alert → Prop where
  | still {w : Clocked σ ι} (exchanges : List (Exchange σ))
      (hreadings : x.1.readings <+: w.readings)
      (hserved : w.served = x.1.served ++ exchanges)
      (hmarks : ∀ y ∈ exchanges, y.mark? = none) :
      Alters e d x (w, x.2)
  | raised {id device : String} {r : Rule} {s : Snapshot} {now : Moment} {w : Clocked σ ι}
      {exchange : Exchange σ}
      (hreadings : x.1.readings <+: w.readings)
      (hserved : w.served = x.1.served ++ [exchange])
      (hmark : exchange.mark? = none)
      (hrule : d.rules r)
      (hnow : now ∈ x.1.readings)
      (hnew : id ∉ x.2.map Alert.id) :
      Alters e d x (w, x.2 ++ [Worker.raisedAlert id r device s now])
  | changed {a : Alert} {c : Change} {r : Request} {o : Outcome r.Reply} {now : Moment} {s : σ}
      (ha : a ∈ x.2)
      (hid : a.id = c.id)
      (hmay : c.may a = true)
      (hc : r.change? now = some c)
      (hread : ∃ b, e.keeping.reading a = .ok b)
      (ho : ∃ u, o = .ok u)
      (hdue : ∀ id tenant at_, r = .markEscalated id tenant at_ → e.alone ∨ d.guarded a.rule →
        Due d x.1.readings a at_) :
      Alters e d x (x.1.serve now r o s, Memory.put (c.apply a) x.2)

omit [DecidableEq ι] in
/-- The clock's readings are kept. -/
theorem Alters.readings
    (h : Alters e d x y) :
    x.1.readings <+: y.1.readings := by
  cases h with
  | still _ hreadings =>
      exact hreadings
  | raised hreadings =>
      exact hreadings
  | changed =>
      exact List.prefix_append _ _

namespace Leaves

theorem refl
    (i : ι) (x : Clocked σ ι × List Alert) :
    Leaves e d i x x :=
  ⟨fun _ _ h => h, fun _ h => h, fun _ _ h => h, List.prefix_rfl, rfl, fun a ha => ⟨a, ha, rfl⟩,
    fun _ _ _ => rfl⟩

/-- What is a task's stays so. -/
theorem territory_mono
    (h : Leaves e d i x y)
    (ha : Territory e d i x.1 a) :
    Territory e d i y.1 a := by
  rcases ha with howns | ⟨halone, rule, device, hholder⟩ | ⟨hguarded, hholder⟩
  · exact Or.inl howns
  · exact Or.inr (Or.inl ⟨halone, rule, device, h.holder rule device hholder⟩)
  · exact Or.inr (Or.inr ⟨hguarded, h.holder _ _ hholder⟩)

theorem trans
    (i : ι) (x y z : Clocked σ ι × List Alert)
    (h : Leaves e d i x y)
    (h' : Leaves e d i y z) :
    Leaves e d i x z where
  holder rule device hholder := h'.holder rule device (h.holder rule device hholder)
  drawer id hid := h'.drawer id (h.drawer id hid)
  unused id hid hunused := h'.unused id (h.drawer id hid) (h.unused id hid hunused)
  readings := h.readings.trans h'.readings
  counted := h'.counted.trans h.counted
  origins a ha := by
    obtain ⟨b, hb, hba⟩ := h.origins a ha
    obtain ⟨c, hc, hcb⟩ := h'.origins b hb
    exact ⟨c, hc, hcb.trans hba⟩
  territory mine hmine hsub :=
    (h'.territory mine hmine fun a ha => h.territory_mono (hsub a ha)).trans
      (h.territory mine hmine hsub)

/-- An alert that is a task's stays in the list as it is. -/
theorem mem
    (hd : d.Upheld)
    (h : Leaves e d i x y)
    (ha : a ∈ x.2)
    (hterritory : Territory e d i x.1 a) :
    a ∈ y.2 := by
  have hmine : TellsOrigin fun b => decide (b.origin = a.origin) := fun b c hbc => by
    simp only [hbc]
  have hsame := h.territory _ hmine fun b hb =>
    hterritory.congr hd (of_decide_eq_true hb).symm
  have hmem : a ∈ x.2.filter fun b => decide (b.origin = a.origin) :=
    List.mem_filter.mpr ⟨ha, by simp⟩
  rw [← hsame] at hmem
  exact (List.mem_filter.mp hmem).1

end Leaves

/-- The terms on which tasks work. -/
abbrev terms (e : Setting σ) (d : Accord ι) (i : ι) : Terms (Clocked σ ι × List Alert) :=
  .moving (Good e d) (Alters e d) (Leaves e d) Leaves.refl Leaves.trans i

theorem stable_good :
    (terms e d i).Stable (Good e d) :=
  fun _ _ hrely hx => (hrely hx).1

/-! ### Calls -/

/-- What a call of a task does that does not go to the store. -/
structure Aside (i : ι) (w w' : Clocked σ ι) : Prop where
  store : w'.store = w.store
  served : w'.served = w.served
  holder : ∀ rule device j, j ≠ i → w.holder rule device = some j →
    w'.holder rule device = some j
  drawer : ∀ id, w.drawer id ≠ none → w'.drawer id = w.drawer id
  readings : w'.readings = w.readings ∨ ∃ t, w'.readings = w.readings ++ [t]
  counted : ∀ j, j ≠ i →
    w'.counted.filter (fun p => p.1 = j) = w.counted.filter fun p => p.1 = j

theorem Aside.readings_grow
    (h : Aside i w w') :
    w.readings <+: w'.readings := by
  rcases h.readings with hsame | ⟨t, hnext⟩
  · rw [hsame]
  · rw [hnext]
    exact List.prefix_append _ _

/-- A free lock is taken. -/
theorem Aside.acquire
    {rule device : String}
    (hfree : w.holder rule device = none) :
    Aside i w { w with toScene := w.toScene.setHolder rule device (some i) } := by
  refine ⟨rfl, rfl, fun rule' device' j _ hj => ?_, fun _ _ => rfl, Or.inl rfl, fun _ _ => rfl⟩
  refine (w.toScene.holder_setHolder_of_ne _ ?_).trans hj
  rintro ⟨rfl, rfl⟩
  rw [hfree] at hj
  cases hj

/-- A lock is given back. -/
theorem Aside.release
    {rule device : String}
    (hholder : w.holder rule device = some i) :
    Aside i w { w with toScene := w.toScene.setHolder rule device none } := by
  refine ⟨rfl, rfl, fun rule' device' j hj hother => ?_, fun _ _ => rfl, Or.inl rfl,
    fun _ _ => rfl⟩
  refine (w.toScene.holder_setHolder_of_ne _ ?_).trans hother
  rintro ⟨rfl, rfl⟩
  rw [hholder] at hother
  exact hj (Option.some.inj hother).symm

/-- An id is drawn. -/
theorem Aside.draw
    {id : String}
    (hnew : w.drawer id = none) :
    Aside i w { w with toScene := w.toScene.draw id i } := by
  refine ⟨rfl, rfl, fun _ _ _ _ h => h, fun id' hid' => ?_, Or.inl rfl, fun _ _ => rfl⟩
  refine Function.update_of_ne ?_ _ _
  rintro rfl
  exact hid' hnew

theorem Good.aside
    (hd : d.Upheld)
    (h : Good e d (w, v))
    (haside : Aside i w w') :
    Good e d (w', v) where
  shown := by
    rw [haside.store]
    exact h.shown
  drawn a ha hfresh := by
    rw [haside.drawer a.id (h.drawn a ha hfresh)]
    exact h.drawn a ha hfresh
  known a ha := by
    rcases haside.readings with hsame | ⟨t, hnext⟩
    · rw [hsame]
      exact h.known a ha
    · rw [hnext]
      exact hd.later t (h.known a ha)

/-- A call that touches neither the store nor ids nor locks leaves the list behind the store, and
every lock to its holder. -/
theorem aside_of_unfolds
    {byHand : Prop} {c : Call} {reply : c.Reply}
    (h : e.Unfolds byHand i c x reply y)
    (hplain : c.isPlain = true) :
    Aside i x.1 y.1 ∧ y.1.holder = x.1.holder ∧ y.2 = x.2 := by
  obtain ⟨⟨-, hreacts⟩, hlist⟩ := h
  have hsame {w w' : Clocked σ ι} (hw : w' = w) : Aside i w w' ∧ w'.holder = w.holder := by
    subst hw
    exact ⟨⟨rfl, rfl, fun _ _ _ _ h => h, fun _ _ => rfl, Or.inl rfl, fun _ _ => rfl⟩, rfl⟩
  cases c with
  | store r =>
      cases hplain
  | freshId =>
      cases hplain
  | acquire rule device =>
      cases hplain
  | release rule device =>
      cases hplain
  | now =>
      rw [hreacts.2]
      exact ⟨⟨rfl, rfl, fun _ _ _ _ h => h, fun _ _ => rfl, Or.inr ⟨reply, rfl⟩, fun _ _ => rfl⟩,
        rfl, hlist⟩
  | count c =>
      rw [show y.1 = _ from hreacts]
      refine ⟨⟨rfl, rfl, fun _ _ _ _ h => h, fun _ _ => rfl, Or.inl rfl, fun j hj => ?_⟩, rfl,
        hlist⟩
      simp [List.filter_append, hj.symm]
  | _ =>
      obtain ⟨haside, hholder⟩ := hsame hreacts.2
      exact ⟨haside, hholder, hlist⟩

/-- A call that does not go to the store leaves to others what is theirs. -/
theorem guarantee_aside
    (hd : d.Upheld)
    (haside : Aside i w w') :
    (terms e d i).guarantee (w, v) (w', v) := by
  refine fun h => ⟨⟨h.aside hd haside, .still [] haside.readings_grow ?_ (by simp)⟩,
    fun j hj => ⟨fun rule device => haside.holder rule device j hj, fun id hid => ?_,
      fun _ _ hid => hid, haside.readings_grow, haside.counted j hj, fun a ha => ⟨a, ha, rfl⟩,
      fun _ _ _ => rfl⟩⟩
  · rw [haside.served, List.append_nil]
  · rw [haside.drawer id (by rw [hid]; simp), hid]

/-- So does a plain call, which leaves the alerts as they are. -/
theorem guarantee_of_plain
    {byHand : Prop} {c : Call} {reply : c.Reply}
    (hd : d.Upheld)
    (hcall : e.Unfolds byHand i c x reply y)
    (hplain : c.isPlain = true) :
    (terms e d i).guarantee x y ∧ Aside i x.1 y.1 ∧ y.1.holder = x.1.holder ∧ y.2 = x.2 := by
  obtain ⟨haside, hholder, hlist⟩ := aside_of_unfolds hcall hplain
  rcases x with ⟨w, v⟩
  rcases y with ⟨w', v'⟩
  obtain rfl : v' = v := hlist
  exact ⟨guarantee_aside hd haside, haside, hholder, rfl⟩

/-- What holds after an action: one thing if it has a result, another if it failed. -/
def After {α : Type} (ok : α → Clocked σ ι × List Alert → Prop)
    (failed : Failure → Clocked σ ι × List Alert → Prop) :
    Outcome α → Clocked σ ι × List Alert → Prop
  | .ok a => ok a
  | .error f => failed f

omit [DecidableEq ι] in
theorem stable_after
    {α : Type} {terms : Terms (Clocked σ ι × List Alert)}
    {ok : α → Clocked σ ι × List Alert → Prop} {failed : Failure → Clocked σ ι × List Alert → Prop}
    (hok : ∀ a, terms.Stable (ok a))
    (hfailed : ∀ f, terms.Stable (failed f))
    (o : Outcome α) :
    terms.Stable (After ok failed o) := by
  cases o with
  | ok a =>
      exact hok a
  | error f =>
      exact hfailed f

/-- A call that cannot fail, and what follows from its reply. -/
theorem safe_ask
    {α : Type} {byHand : Prop} {c : Call} {P : Clocked σ ι × List Alert → Prop}
    {Q : c.Reply → Clocked σ ι × List Alert → Prop} {f : c.Reply → WorkerAction α}
    {R : Outcome α → Clocked σ ι × List Alert → Prop}
    (hP : (terms e d i).Stable P)
    (hQ : ∀ reply, (terms e d i).Stable (Q reply))
    (hcall : ∀ x reply y, P x → e.Unfolds byHand i c x reply y →
      (terms e d i).guarantee x y ∧ Q reply y)
    (hf : ∀ reply, Safe (e.Unfolds byHand i) (terms e d i) (Q reply) (f reply) R) :
    Safe (e.Unfolds byHand i) (terms e d i) P (WorkerAction.ask c >>= f) R := by
  have hQ' (o : Outcome c.Reply) : (terms e d i).Stable (After Q (fun _ _ => False) o) :=
    stable_after hQ (fun _ _ _ _ h => h) o
  have hask : Safe (e.Unfolds byHand i) (terms e d i) P (WorkerAction.ask c)
      (After Q fun _ _ => False) :=
    .perform hP hQ' hcall
  exact hask.bind hf fun _ _ hx => absurd hx not_false

/-- A request is made in a state that others leave alone; it is served, or it fails. -/
theorem safe_request
    {byHand : Prop} {req : Request} {P : Clocked σ ι × List Alert → Prop}
    {Q : Outcome req.Reply → Clocked σ ι × List Alert → Prop}
    (hP : (terms e d i).Stable P)
    (hQ : ∀ o, (terms e d i).Stable (Q o))
    (htakes : ∀ x, P x → e.keeping.shows x.1.store x.2 ∧ e.keeping.Takes x.2 req)
    (hfault : e.faulty → ∀ x, P x → Q (.error .injected) x)
    (hserve : ∀ {now s o w v v'}, P (w, v) → e.stamps now → e.keeping.shows s v' →
      e.keeping.Answers v now req o v' →
      (e.alone → ∀ rule device j, w.holder rule device = some j → j = i) →
      (byHand → ∀ rule device, w.holder rule device = none) →
      (terms e d i).guarantee (w, v) (w.serve now req o s, v') ∧
        Q o (w.serve now req o s, v')) :
    Safe (e.Unfolds byHand i) (terms e d i) P (WorkerAction.store req) Q := by
  refine .perform hP hQ fun x o y hx hcall => ?_
  obtain ⟨⟨halone, hquiet, -⟩, hserves⟩ := hcall
  rcases x with ⟨w, v⟩
  rcases y with ⟨w', v'⟩
  rcases hserves (htakes _ hx).1 (htakes _ hx).2 with
    ⟨now, s, hnow, rfl, hshows, hanswers⟩ | ⟨hfaulty, rfl, hxy⟩
  · exact hserve hx hnow hshows hanswers halone hquiet
  · cases hxy
    exact ⟨fun hgood => ⟨⟨hgood, .still [] List.prefix_rfl (List.append_nil _).symm (by simp)⟩,
      fun j _ => Leaves.refl j _⟩, hfault hfaulty _ hx⟩

/-- A request leaves to others what is theirs if the list behind the store does. -/
theorem leaves_serve
    {now : Moment} {r : Request} {o : Outcome r.Reply} {s : σ}
    (hunused : ∀ id, w.drawer id = some j → id ∉ v.map Alert.id → id ∉ v'.map Alert.id)
    (horigins : ∀ a ∈ v, ∃ b ∈ v', b.origin = a.origin)
    (hterritory : ∀ mine : Alert → Bool, TellsOrigin mine →
      (∀ a, mine a = true → Territory e d j w a) → v'.filter mine = v.filter mine) :
    Leaves e d j (w, v) (w.serve now r o s, v') :=
  ⟨fun _ _ h => h, fun _ h => h, hunused, List.prefix_append _ _, rfl, horigins, hterritory⟩

/-- A request that changes nothing. -/
theorem guarantee_same
    {now : Moment} {r : Request} {o : Outcome r.Reply} {s : σ}
    (hd : d.Upheld)
    (hshown : e.keeping.shows s v)
    (hmark : (⟨w.store, r, o⟩ : Exchange σ).mark? = none) :
    (terms e d i).guarantee (w, v) (w.serve now r o s, v) := by
  refine fun h => ⟨⟨⟨hshown, h.drawn, fun a ha => hd.later now (h.known a ha)⟩,
    .still [⟨w.store, r, o⟩] (List.prefix_append _ _) rfl (by simpa using hmark)⟩, fun j _ =>
      leaves_serve (fun _ _ h => h) (fun a ha => ⟨a, ha, rfl⟩) fun _ _ _ => rfl⟩

/-- A request that adds an alert, which is no other task's. -/
theorem guarantee_append
    {now t : Moment} {id device : String} {r : Rule} {snapshot : Snapshot} {o : Outcome Unit}
    {s : σ}
    (hd : d.Upheld)
    (hshown : e.keeping.shows s (v ++ [Worker.raisedAlert id r device snapshot t]))
    (hrule : d.rules r)
    (hraises : d.raises r device t)
    (ht : t ∈ w.readings)
    (hdrawn : w.drawer id = some i)
    (hnew : id ∉ v.map Alert.id)
    (hfree : ∀ j, j ≠ i → ¬ Territory e d j w (Worker.raisedAlert id r device snapshot t)) :
    (terms e d i).guarantee (w, v)
      (w.serve now (.create (Worker.raisedAlert id r device snapshot t)) o s,
        v ++ [Worker.raisedAlert id r device snapshot t]) := by
  refine fun h => ⟨⟨⟨hshown, fun a ha hfresh => ?_, fun a ha => ?_⟩,
    .raised (List.prefix_append _ _) rfl rfl hrule ht hnew⟩, fun j hj => leaves_serve (fun id' hid' hunused => ?_)
      (fun a ha => ⟨a, List.mem_append_left _ ha, rfl⟩) fun mine _ hsub => ?_⟩
  · rcases List.mem_append.mp ha with ha | ha
    · exact h.drawn a ha hfresh
    · rw [List.mem_singleton.mp ha]
      change w.drawer id ≠ none
      rw [hdrawn]
      simp
  · rcases List.mem_append.mp ha with ha | ha
    · exact hd.later now (h.known a ha)
    · rw [List.mem_singleton.mp ha]
      exact hd.later now (hd.raised hrule hraises ht)
  · have hne : id' ≠ id := by
      rintro rfl
      rw [hdrawn] at hid'
      exact hj (Option.some.inj hid').symm
    simp only [List.map_append, List.mem_append, not_or]
    exact ⟨hunused, by simpa [Worker.raisedAlert] using hne⟩
  · have hother : mine (Worker.raisedAlert id r device snapshot t) ≠ true := fun hmine =>
      hfree j hj (hsub _ hmine)
    rw [List.filter_append, List.filter_cons_of_neg hother, List.filter_nil, List.append_nil]

/-- A request that changes an alert, which is no other task's. -/
theorem guarantee_put
    {now : Moment} {r : Request} {c : Change} {o : Outcome r.Reply} {s : σ}
    (hd : d.Upheld)
    (hids : (v.map Alert.id).Nodup)
    (hshown : e.keeping.shows s (Memory.put (c.apply a) v))
    (ha : a ∈ v)
    (hid : a.id = c.id)
    (hmay : c.may a = true)
    (hc : r.change? now = some c)
    (hread : ∃ b, e.keeping.reading a = .ok b)
    (ho : ∃ u, o = .ok u)
    (hat : ∀ id tenant at_, r = .markEscalated id tenant at_ → at_ ∈ w.readings)
    (hdue : ∀ id tenant at_, r = .markEscalated id tenant at_ → e.alone ∨ d.guarded a.rule →
      Due d w.readings a at_)
    (hfree : ∀ j, j ≠ i → ¬ Territory e d j w a) :
    (terms e d i).guarantee (w, v) (w.serve now r o s, Memory.put (c.apply a) v) := by
  have hmem {b : Alert} (hb : b ∈ Memory.put (c.apply a) v) : b = c.apply a ∨ b ∈ v :=
    ((Memory.mem_put hids).mp hb).imp_right And.left
  refine fun h => ⟨⟨⟨hshown, fun b hb hfresh => ?_, fun b hb => ?_⟩,
    .changed ha hid hmay hc hread ho hdue⟩, fun j hj => leaves_serve (fun id' _ hunused => ?_)
      (fun b hb => ?_) fun mine hmine hsub => ?_⟩
  · rcases hmem hb with rfl | hb
    · rw [c.id_apply] at hfresh ⊢
      exact h.drawn a ha hfresh
    · exact h.drawn b hb hfresh
  · rcases hmem hb with rfl | hb
    · exact hd.changed hc hat (h.known a ha)
    · exact hd.later now (h.known b hb)
  · rwa [Memory.map_put Alert.id hids ha (c.id_apply a) (c.id_apply a)]
  · have horigin : b.origin ∈ (Memory.put (c.apply a) v).map Alert.origin := by
      rw [Memory.map_put Alert.origin hids ha (c.id_apply a) (c.origin_apply a)]
      exact List.mem_map_of_mem hb
    exact List.mem_map.mp horigin
  · have hother : mine a = false := by
      by_contra hne
      exact hfree j hj (hsub a (by simpa using hne))
    rw [Memory.filter_put hids ha (c.id_apply a) (hmine _ _ (c.origin_apply a)), if_neg]
    simp [hother]

end
end TelemetryAlerts
