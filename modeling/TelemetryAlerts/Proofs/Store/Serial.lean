import TelemetryAlerts.Proofs.Store.Faults
import TelemetryAlerts.Proofs.Store.Interleaving

/-!
# Requests in some order

Requests that change one alert side by side may end as if they had been served one after
the other. Whether they do is told by their loads and saves: they do not if one of them
saves a document that it had loaded before another one's save. Then the alert shows less
than the callers were told, for instance an alert that is open although its end was
reported.

**Results.**
* `serve_settle`: what requests answer and leave that are served one after the other.
* `Interleaving.serial_of_no_lostSave`, `Interleaving.no_lostSave_of_serial`: when there is
  an order.
* `Interleaving.overlap`: two requests of which each loads before the other one saves.
-/

namespace TelemetryAlerts

variable {ι : Type}

open Indexed

namespace Ledger

variable {calls : ι → Turn} {a : Alert} {l : Ledger ι}

theorem Sound.reach
    [DecidableEq ι]
    (hsteps : Relation.ReflTransGen (Step calls) { alert := a } l) :
    Sound calls a l := by
  induction hsteps with
  | refl =>
      exact .start
  | tail _ hstep ih =>
      exact ih.step hstep

theorem Bounded.reach
    [DecidableEq ι]
    (hcalls : ∀ i, (calls i).Changes a.id)
    (hcounts : ∀ i, (calls i).Counts)
    (ha : a.Ordinary)
    (hsteps : Relation.ReflTransGen (Step calls) { alert := a } l) :
    Bounded calls a l := by
  induction hsteps with
  | refl =>
      exact .start ha
  | tail hsteps hstep ih =>
      exact ih.step (.reach hsteps) hcalls hcounts hstep

end Ledger

/-! ### One after the other -/

/-- Served one after the other, requests for changes of an alert answer and leave what
their effects say. -/
theorem Indexed.serve_settle
    {s : Server} {a : Alert} {turns : List Turn}
    (hs : Kept s)
    (ha : Stored s a)
    (hturns : ∀ t ∈ turns, t.Changes a.id) :
    answers s turns = (settle a turns).1 ∧ Stored (reached s turns) (settle a turns).2 ∧
      (settle a turns).2.id = a.id := by
  induction turns generalizing s a with
  | nil =>
      exact ⟨rfl, ha, rfl⟩
  | cons t turns ih =>
      have ht := hturns t List.mem_cons_self
      obtain ⟨hanswer, hkept, hstored⟩ := run_change ht hs ha
      have hid := (Turn.identity_of_effect ht a).1
      obtain ⟨hanswers, hlast, hidLast⟩ := ih hkept hstored fun u hu => by
        rw [hid]
        exact hturns u (List.mem_cons_of_mem _ hu)
      refine ⟨?_, hlast, hidLast.trans hid⟩
      rw [answers, settle, hanswer, hanswers]

namespace Interleaving

section

variable {s : Server} {a : Alert} {calls : ι → Turn} {schedule : List ι} {order : List ι}
  {answers : ι → Answer} {w : Interleaving ι} {l : Ledger ι} {i j : ι}

/-- The ledger of a run. -/
theorem follows_run
    [DecidableEq ι]
    (hs : Kept s)
    (ha : Stored s a)
    (hcalls : ∀ i, (calls i).Changes a.id)
    (schedule : List ι) :
    ∃ l, Relation.ReflTransGen (Ledger.Step calls) { alert := a } l ∧
      Follows calls a.id (run s calls schedule) l :=
  (Follows.start hs ha).run hcalls schedule

/-- As long as no save is lost, the requests end as if served in the order in which they
were done with the alert. -/
theorem serial_of_no_lostSave
    [DecidableEq ι]
    (hs : Kept s)
    (ha : Stored s a)
    (hcalls : ∀ i, (calls i).Changes a.id)
    (hlost : ¬ LostSave ((run s calls schedule).accesses a.id)) :
    ∃ order answers, Serial s a.id calls (run s calls schedule) order answers := by
  obtain ⟨l, hsteps, hfollows⟩ := follows_run hs ha hcalls schedule
  have hsound := Ledger.Sound.reach hsteps
  have hturns (t : Turn) (ht : t ∈ l.order.map calls) : t.Changes a.id := by
    obtain ⟨i, -, rfl⟩ := List.mem_map.mp ht
    exact hcalls i
  obtain ⟨hanswers, hstored, hid⟩ := serve_settle hs ha hturns
  have hsettle := hsound.serial (by rwa [hfollows.log])
  rw [hsettle] at hanswers hstored
  refine ⟨l.order, fun i => (l.phase i).answer, hsound.nodup, fun i x hdone => ?_, hanswers, ?_⟩
  · have hphase := hfollows.settled_of_done hcalls hdone
    exact ⟨(hsound.settled i).mpr ⟨x, hphase⟩, by rw [hphase]; rfl⟩
  · rw [← hfollows.sameId]
    exact hfollows.stored.trans hstored.symm

/-- In a serial order the alert shows what the callers were told. -/
theorem Serial.tally
    (h : Serial s a.id calls w order answers)
    (hs : Kept s)
    (ha : Stored s a)
    (hordinary : a.Ordinary)
    (hcalls : ∀ i, (calls i).Changes a.id)
    (hcounts : ∀ i, (calls i).Counts) :
    ∃ b, Stored w.server b ∧ b.id = a.id ∧
      b.tally = a.tally + (order.map fun i => (calls i).share a.tenant (answers i)).sum := by
  have hturns (t : Turn) (ht : t ∈ order.map calls) : t.Changes a.id ∧ t.Counts := by
    obtain ⟨i, -, rfl⟩ := List.mem_map.mp ht
    exact ⟨hcalls i, hcounts i⟩
  obtain ⟨hanswers, hstored, hid⟩ := serve_settle hs ha fun t ht => (hturns t ht).1
  have htally := tally_settle (fun t ht => (hturns t ht).1) (fun t ht => (hturns t ht).2) hordinary
  rw [← hanswers, h.answers] at htally
  refine ⟨_, ?_, hid, ?_⟩
  · rw [Stored, hid, h.document, ← hid]
    exact hstored
  · rw [htally, List.zipWith_map, List.zipWith_self]

/-- In a serial order every notification, every escalation and every end that callers were
told of is in the alert. -/
theorem Serial.counts
    (h : Serial s a.id calls w order answers)
    (hs : Kept s)
    (ha : Stored s a)
    (hcalls : ∀ i, (calls i).Changes a.id) :
    ∃ b, Stored w.server b ∧ b.id = a.id ∧
      b.notifications = a.notifications +
        (order.map fun i => (calls i).notified a.tenant (answers i)).sum ∧
      b.escalations = a.escalations +
        (order.map fun i => (calls i).escalated a.tenant (answers i)).sum ∧
      b.ended = a.ended + (order.map fun i => (calls i).ended (answers i)).sum := by
  have hturns (t : Turn) (ht : t ∈ order.map calls) : t.Changes a.id := by
    obtain ⟨i, -, rfl⟩ := List.mem_map.mp ht
    exact hcalls i
  obtain ⟨hanswers, hstored, hid⟩ := serve_settle hs ha hturns
  have hcounts := counts_settle (a := a) hturns
  simp only [← hanswers, h.answers, List.zipWith_map, List.zipWith_self] at hcounts
  refine ⟨_, ?_, hid, hcounts⟩
  rw [Stored, hid, h.document, ← hid]
  exact hstored

/-- If requests that all came to an end did so as in some order, no save was lost. -/
theorem no_lostSave_of_serial
    [DecidableEq ι]
    (h : Serial s a.id calls (run s calls schedule) order answers)
    (hs : Kept s)
    (ha : Stored s a)
    (hordinary : a.Ordinary)
    (hcalls : ∀ i, (calls i).Changes a.id)
    (hcounts : ∀ i, (calls i).Counts)
    (hlegible : ∀ b, Stored (run s calls schedule).server b → b.id = a.id → b.isLegible = true)
    (hdone : ∀ i, ∃ x, (run s calls schedule).rest i = .done x) :
    ¬ LostSave ((run s calls schedule).accesses a.id) := by
  intro hlost
  obtain ⟨l, hsteps, hfollows⟩ := follows_run hs ha hcalls schedule
  have hsound := Ledger.Sound.reach hsteps
  have hbounded := Ledger.Bounded.reach hcalls hcounts hordinary hsteps
  obtain ⟨b, hb, hid, htally⟩ := h.tally hs ha hordinary hcalls hcounts
  -- the alert of the order and that of the ledger are stored under one text
  have hsame : l.alert.tally = b.tally := by
    have htext : documentText l.alert = documentText b := by
      have hstored := hfollows.stored
      rw [Stored, hfollows.sameId, ← hid, hb] at hstored
      simpa using hstored.symm
    have hread := Alert.readBack_of_storedText htext (hlegible b hb hid)
    change l.alert.readBack.tally = b.readBack.tally
    rw [hread]
  -- and both orders are of all callers, with the same answers
  have hanswer (i : ι) : answers i = (l.phase i).answer := by
    obtain ⟨x, hx⟩ := hdone i
    rw [(h.done i x hx).2, hfollows.settled_of_done hcalls hx]
    rfl
  have hperm : order.Perm l.order := by
    refine (List.perm_ext_iff_of_nodup h.nodup hsound.nodup).mpr fun i => ?_
    obtain ⟨x, hx⟩ := hdone i
    exact iff_of_true (h.done i x hx).1
      ((hsound.settled i).mpr ⟨x, hfollows.settled_of_done hcalls hx⟩)
  have htold : (order.map fun i => (calls i).share a.tenant (answers i)).sum =
      l.told calls a.tenant := by
    simp only [hanswer]
    exact (hperm.map _).sum_eq
  have hless := hbounded.trails.2 (by rwa [hfollows.log])
  omega

/-- Two callers of which each loads before the other one saves: the later save stays, and
the earlier one is lost. -/
theorem Follows.overlap
    [DecidableEq ι]
    {x y : Answer} {b c : Alert}
    (h : Follows calls a.id w { alert := a })
    (hcalls : ∀ i, (calls i).Changes a.id)
    (hij : i ≠ j)
    (hi : (calls i).effect a = (x, some b))
    (hj : (calls j).effect a = (y, some c)) :
    ∃ l, Follows calls a.id ([i, j, j, i].foldl Interleaving.step w) l ∧ l.alert = b ∧
      LostSave l.log ∧ l.phase i = .settled x ∧ l.phase j = .settled y := by
  have hji : j ≠ i := hij.symm
  have h₁ := h.load hcalls rfl hi
  have h₂ := h₁.load hcalls (i := j) (Function.update_of_ne hji ..) hj
  have h₃ := h₂.save (i := j) (Function.update_self ..)
  have h₄ := h₃.save (i := i) (by
    simp only [Function.update_of_ne hij]
    exact Function.update_self ..)
  refine ⟨_, h₄, rfl, ⟨i, j, hij, ?_⟩, Function.update_self .., ?_⟩
  · simp
  · simp only [Function.update_of_ne hji]
    exact Function.update_self ..

end

end Interleaving

open Interleaving

/-- Requests that change one alert side by side end as if served one after the other if and
only if none of them saves a document that it had loaded before another one's save. If they
do, the alert shows every notification, every escalation and every end that was reported. -/
theorem serial_iff
    [DecidableEq ι]
    {s : Server} {a : Alert} {calls : ι → Turn}
    (hs : Kept s)
    (ha : Stored s a)
    (hordinary : a.Ordinary)
    (hcalls : ∀ i, (calls i).Changes a.id)
    (hcounts : ∀ i, (calls i).Counts)
    (schedule : List ι)
    (hlegible : ∀ b, Stored (run s calls schedule).server b → b.id = a.id → b.isLegible = true)
    (hdone : ∀ i, ∃ x, (run s calls schedule).rest i = .done x) :
    ((∃ order answers, Serial s a.id calls (run s calls schedule) order answers) ↔
      ¬ LostSave ((run s calls schedule).accesses a.id)) ∧
    ∀ order answers, Serial s a.id calls (run s calls schedule) order answers →
      ∃ b, Stored (run s calls schedule).server b ∧ b.id = a.id ∧
        b.notifications = a.notifications +
          (order.map fun i => (calls i).notified a.tenant (answers i)).sum ∧
        b.escalations = a.escalations +
          (order.map fun i => (calls i).escalated a.tenant (answers i)).sum ∧
        b.ended = a.ended + (order.map fun i => (calls i).ended (answers i)).sum := by
  refine ⟨⟨?_, serial_of_no_lostSave hs ha hcalls⟩, fun order answers h => h.counts hs ha hcalls⟩
  rintro ⟨order, answers, h⟩
  exact no_lostSave_of_serial h hs ha hordinary hcalls hcounts hlegible hdone

/-- Two requests for the alert of the first run: to take notice of it, and to end it. -/
def rivals : Bool → Turn
  | true => ⟨firstNoon, .acknowledge firstAlert.id "tenant-a" none none, []⟩
  | false => ⟨firstNoon, .resolve firstAlert.id "tenant-a" none, []⟩

theorem rivals_changes
    (i : Bool) :
    (rivals i).Changes firstAlert.id := by
  cases i
  · exact ⟨.resolve _ _ _ _, rfl, rfl⟩
  · exact ⟨.acknowledge _ _ _ _ _, rfl, rfl⟩

theorem rivals_counts
    (i : Bool) :
    (rivals i).Counts := by
  cases i <;> exact fun _ _ _ h => by cases h

/-- Both requests are told that they did what they should, and the alert is open. -/
theorem overlap_rivals :
    ∃ schedule b,
      (∀ i, (run (reached {} firstRun) rivals schedule).rest i = .done (.flag true)) ∧
        LostSave ((run (reached {} firstRun) rivals schedule).accesses firstAlert.id) ∧
        Stored (run (reached {} firstRun) rivals schedule).server b ∧
        b.id = firstAlert.id ∧ b.status = .acknowledged ∧ b.isLegible = true := by
  have hacknowledge : (rivals true).effect firstAlert =
      (.flag true, some (firstAlert.acknowledge none none (rivals true).now).readBack) := rfl
  have hresolve : (rivals false).effect firstAlert =
      (.flag true, some (firstAlert.resolve none (rivals false).now).readBack) := rfl
  have hstart : Follows rivals firstAlert.id
      { server := reached {} firstRun, rest := fun i => (rivals i).program }
      { alert := firstAlert } :=
    .start mirrors_firstRun.kept (mirrors_firstRun.stored firstAlert (by simp))
  obtain ⟨l, hfollows, halert, hlost, htrue, hfalse⟩ :=
    hstart.overlap rivals_changes (by decide : true ≠ false) hacknowledge hresolve
  obtain ⟨m, hfollows, hdoneTrue, -⟩ := hfollows.finish htrue
  obtain ⟨n, hfollows, hdoneFalse, hothers⟩ := hfollows.finish hfalse
  simp only [← List.foldl_append] at hfollows hdoneTrue hdoneFalse hothers
  rw [hfollows.log] at hlost
  refine ⟨[true, false, false, true] ++ List.replicate m true ++ List.replicate n false,
    l.alert, fun i => ?_, hlost, hfollows.stored, hfollows.sameId, ?_, ?_⟩
  · cases i
    · exact hdoneFalse
    · exact (hothers true (by decide)).trans hdoneTrue
  · rw [halert]
    rfl
  · rw [halert]
    decide

theorem serial_iff_rivals :
    ∃ schedule, (∀ i, (run (reached {} firstRun) rivals schedule).rest i = .done (.flag true)) ∧
      ¬ ∃ order answers, Serial (reached {} firstRun) firstAlert.id rivals
        (run (reached {} firstRun) rivals schedule) order answers := by
  obtain ⟨schedule, b, hdone, hlost, hb, hid, -, hlegible⟩ := overlap_rivals
  have hall (c : Alert)
      (hc : Stored (run (reached {} firstRun) rivals schedule).server c)
      (hcid : c.id = firstAlert.id) : c.isLegible = true := by
    rw [Stored, hcid, ← hid, hb] at hc
    have htext : documentText c = documentText b := by simpa using hc.symm
    exact Alert.isLegible_of_storedText htext hlegible
  have hiff := (serial_iff mirrors_firstRun.kept (mirrors_firstRun.stored firstAlert (by simp))
    (fun _ => rfl) rivals_changes rivals_counts schedule hall fun i => ⟨_, hdone i⟩).1
  exact ⟨schedule, hdone, fun hserial => hiff.mp hserial hlost⟩

/-- An alert can be open after its end was reported. -/
theorem reopened_rivals :
    ¬ ∀ schedule, (run (reached {} firstRun) rivals schedule).rest false = .done (.flag true) →
      ∀ b, Stored (run (reached {} firstRun) rivals schedule).server b → b.id = firstAlert.id →
        b.isOpen = false := by
  intro hall
  obtain ⟨schedule, b, hdone, -, hb, hid, hstatus, -⟩ := overlap_rivals
  have hclosed := hall schedule (hdone false) b hb hid
  rw [Alert.isOpen, hstatus] at hclosed
  cases hclosed

end TelemetryAlerts
