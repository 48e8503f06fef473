import TelemetryAlerts.Proofs.Store.Change
import TelemetryAlerts.Store.Memory

/-!
# The alerts in memory

Every request leaves the alerts as they are, puts one new alert in, or replaces one
alert by its changed self. The ids of the alerts stay different, and of a rule and a
device at most one alert is open.

**Results.**
* `serve_alerts`, `evolves`: what a request does to the alerts, for every request.
* `Orderly.serve`: serving a request keeps the alerts in order.
-/

namespace TelemetryAlerts
namespace Memory

variable {m : Memory} {a b : Alert}

/-! ### Putting an alert in -/

theorem map_id_put
    (a : Alert) (alerts : List Alert) :
    (put a alerts).map Alert.id =
      if a.id ∈ alerts.map Alert.id then alerts.map Alert.id
      else alerts.map Alert.id ++ [a.id] := by
  induction alerts with
  | nil =>
      rfl
  | cons b rest ih =>
      simp only [put]
      split_ifs with hid hmem hmem
      · simp [hid]
      · simp [hid] at hmem
      · have hrest : a.id ∈ rest.map Alert.id := by
          simpa [Ne.symm hid] using hmem
        rw [List.map_cons, ih, if_pos hrest, List.map_cons]
      · have hrest : a.id ∉ rest.map Alert.id := by
          simpa [Ne.symm hid] using hmem
        rw [List.map_cons, ih, if_neg hrest, List.map_cons, List.cons_append]

theorem mem_put
    {alerts : List Alert}
    (hids : (alerts.map Alert.id).Nodup) :
    b ∈ put a alerts ↔ b = a ∨ b ∈ alerts ∧ b.id ≠ a.id := by
  induction alerts with
  | nil =>
      simp [put]
  | cons c rest ih =>
      rw [List.map_cons, List.nodup_cons] at hids
      simp only [put]
      split_ifs with hid
      · have hrest (hb : b ∈ rest) : b.id ≠ a.id := by
          rintro heq
          exact hids.1 (by rw [hid, ← heq]; exact List.mem_map_of_mem hb)
        simp only [List.mem_cons]
        constructor
        · rintro (rfl | hb)
          · exact Or.inl rfl
          · exact Or.inr ⟨Or.inr hb, hrest hb⟩
        · rintro (rfl | ⟨rfl | hb, hne⟩)
          · exact Or.inl rfl
          · exact absurd hid hne
          · exact Or.inr hb
      · simp only [List.mem_cons, ih hids.2]
        constructor
        · rintro (rfl | rfl | ⟨hb, hne⟩)
          · exact Or.inr ⟨Or.inl rfl, hid⟩
          · exact Or.inl rfl
          · exact Or.inr ⟨Or.inr hb, hne⟩
        · rintro (rfl | ⟨rfl | hb, hne⟩)
          · exact Or.inr (Or.inl rfl)
          · exact Or.inl rfl
          · exact Or.inr (Or.inr ⟨hb, hne⟩)

theorem nodup_put
    {alerts : List Alert}
    (hids : (alerts.map Alert.id).Nodup) :
    ((put a alerts).map Alert.id).Nodup := by
  rw [map_id_put]
  split_ifs with hmem
  · exact hids
  · exact hids.append (by simp) (by simpa using hmem)

theorem put_of_new
    {alerts : List Alert}
    (hnew : a.id ∉ alerts.map Alert.id) :
    put a alerts = alerts ++ [a] := by
  induction alerts with
  | nil =>
      rfl
  | cons b rest ih =>
      simp only [List.map_cons, List.mem_cons, not_or] at hnew
      rw [put, if_neg (Ne.symm hnew.1), ih hnew.2, List.cons_append]

/-- Putting in an alert in the place of one with which it shares something leaves the
list of what is shared. -/
theorem map_put
    {β : Type} (f : Alert → β)
    {alerts : List Alert}
    (hids : (alerts.map Alert.id).Nodup)
    (hb : b ∈ alerts)
    (hid : a.id = b.id)
    (hf : f a = f b) :
    (put a alerts).map f = alerts.map f := by
  induction alerts with
  | nil =>
      simp at hb
  | cons c rest ih =>
      have hrests := hids
      rw [List.map_cons, List.nodup_cons] at hrests
      simp only [put]
      split_ifs with hc
      · have heq : c = b := List.inj_on_of_nodup_map hids (by simp) hb (hc.trans hid)
        rw [List.map_cons, List.map_cons, hf, heq]
      · have hrest : b ∈ rest := by
          rcases List.mem_cons.mp hb with rfl | hrest
          · exact absurd hid.symm hc
          · exact hrest
        rw [List.map_cons, List.map_cons, ih hrests.2 hrest]

/-! ### Looking an alert up -/

theorem find?_eq_some
    (hids : (m.alerts.map Alert.id).Nodup)
    {id tenant : String} :
    m.find? id tenant = some a ↔ a ∈ m.alerts ∧ a.id = id ∧ a.tenant = tenant := by
  have hfind : (m.alerts.find? fun b => b.id == id) = some a ↔ a ∈ m.alerts ∧ a.id = id := by
    constructor
    · intro hfound
      exact ⟨List.mem_of_find?_eq_some hfound, by simpa using List.find?_some hfound⟩
    · rintro ⟨hmem, rfl⟩
      cases hother : m.alerts.find? fun b => b.id == a.id with
      | none =>
          exact absurd (List.find?_eq_none.mp hother a hmem) (by simp)
      | some c =>
          have hc : c.id = a.id := by simpa using List.find?_some hother
          rw [List.inj_on_of_nodup_map hids (List.mem_of_find?_eq_some hother) hmem hc]
  simp only [find?, Option.filter_eq_some_iff, hfind, beq_iff_eq, and_assoc]

/-- What a change does not touch stays the same of all alerts. -/
theorem map_update
    {β : Type} (f : Alert → β)
    (hids : (m.alerts.map Alert.id).Nodup)
    (c : Change)
    (hf : ∀ a, f (c.apply a) = f a) :
    (m.update c.id c.tenant c.may c.apply).2.alerts.map f = m.alerts.map f := by
  unfold update
  cases hfind : m.find? c.id c.tenant with
  | none =>
      rfl
  | some a =>
      obtain ⟨ha, -, -⟩ := (find?_eq_some hids).mp hfind
      dsimp only
      split_ifs
      · exact map_put f hids ha (c.id_apply a) (hf a)
      · rfl

theorem hasOpen_eq_false
    {rule device : String} :
    m.hasOpen rule device = false ↔
      ∀ a ∈ m.alerts, a.isOpen = true → ¬ (a.rule = rule ∧ a.device = device) := by
  simp [hasOpen, Alert.concerns]

/-! ### Serving requests -/

/-- What a request does to the alerts. -/
theorem serve_alerts
    (now : Moment) (m : Memory) (r : Request) :
    (m.serve now r).2 =
      match r with
      | .create a => if m.hasOpen a.rule a.device then m else m.insert a
      | r =>
        match r.change? now with
        | some c => (m.update c.id c.tenant c.may c.apply).2
        | none => m := by
  cases r with
  | create a =>
      simp only [serve]
      split <;> rfl
  | _ =>
      rfl

/-- What can become of a list of alerts when a request is served, as far as it shows without
their readings. -/
inductive Evolves (now : Moment) (r : Request) (alerts : List Alert) : List Alert → Prop where
  | same :
      Evolves now r alerts alerts
  | changed {c : Change} {a b : Alert}
      (hc : r.change? now = some c)
      (ha : a ∈ alerts)
      (hid : a.id = c.id)
      (htenant : a.tenant = c.tenant)
      (hmay : c.may a = true)
      (hb : b.outline = (c.apply a).outline) :
      Evolves now r alerts (put b alerts)
  | created {a : Alert}
      (hr : r = .create a) :
      Evolves now r alerts (put a alerts)

theorem evolves
    (hids : (m.alerts.map Alert.id).Nodup)
    (now : Moment) (r : Request) :
    Evolves now r m.alerts (m.serve now r).2.alerts := by
  rw [serve_alerts]
  split
  · split_ifs
    · exact .same
    · exact .created rfl
  · split
    · next c hc =>
        unfold update
        cases hfind : m.find? c.id c.tenant with
        | none =>
            exact .same
        | some a =>
            obtain ⟨ha, hid, htenant⟩ := (find?_eq_some hids).mp hfind
            dsimp only
            split_ifs with hmay
            · exact .changed hc ha hid htenant hmay rfl
            · exact .same
    · exact .same

/-- The alerts keep their origins, but for one that is created. -/
theorem Evolves.map_origin
    {now : Moment} {r : Request} {alerts alerts' : List Alert}
    (h : Evolves now r alerts alerts')
    (hids : (alerts.map Alert.id).Nodup) :
    alerts'.map Alert.origin = alerts.map Alert.origin ∨
      ∃ a, r = .create a ∧ alerts' = put a alerts := by
  cases h with
  | same =>
      exact Or.inl rfl
  | @changed c a b hc ha hid htenant hmay hb =>
      have horigin : b.origin = a.origin := by
        have hchanged : b.origin = (c.apply a).origin := (congrArg Alert.origin hb :)
        rw [hchanged, c.origin_apply]
      exact Or.inl (map_put Alert.origin hids ha (congrArg Prod.fst horigin) horigin)
  | created hr =>
      exact Or.inr ⟨_, hr, rfl⟩

/-- The ids are different, and of a rule and a device at most one alert is open. -/
structure Orderly (m : Memory) : Prop where
  ids : (m.alerts.map Alert.id).Nodup
  claims : ∀ a ∈ m.alerts, ∀ b ∈ m.alerts, a.isOpen = true → b.isOpen = true →
    a.rule = b.rule → a.device = b.device → a.id = b.id

namespace Orderly

theorem empty :
    Orderly {} :=
  ⟨by simp, by simp⟩

/-- An alert may be put in if no other alert is open for its rule and device. -/
theorem insert
    (h : m.Orderly)
    (hfree : ∀ b ∈ m.alerts, b.isOpen = true → a.isOpen = true →
      a.rule = b.rule → a.device = b.device → a.id = b.id) :
    (m.insert a).Orderly := by
  refine ⟨nodup_put h.ids, fun b hb c hc hopenb hopenc hrule hdevice => ?_⟩
  rcases (mem_put h.ids).mp hb with rfl | ⟨hb', -⟩ <;>
    rcases (mem_put h.ids).mp hc with rfl | ⟨hc', -⟩
  · rfl
  · exact hfree c hc' hopenc hopenb hrule hdevice
  · exact (hfree b hb' hopenb hopenc hrule.symm hdevice.symm).symm
  · exact h.claims b hb' c hc' hopenb hopenc hrule hdevice

theorem update
    (h : m.Orderly)
    (c : Change) :
    (m.update c.id c.tenant c.may c.apply).2.Orderly := by
  unfold Memory.update
  cases hfind : m.find? c.id c.tenant with
  | none =>
      exact h
  | some a =>
      obtain ⟨hmem, -, -⟩ := (find?_eq_some h.ids).mp hfind
      dsimp only
      split_ifs with hmay
      · refine h.insert fun b hb hopenb hopen hrule hdevice => ?_
        rw [c.rule_apply] at hrule
        rw [c.device_apply] at hdevice
        rw [c.id_apply]
        exact h.claims a hmem b hb (c.isOpen_of_apply a hmay hopen) hopenb hrule hdevice
      · exact h

/-- Serving a request keeps the alerts in order. -/
theorem serve
    (h : m.Orderly)
    (now : Moment) (r : Request) :
    (m.serve now r).2.Orderly := by
  rw [serve_alerts]
  split
  · next a =>
      cases hopen : m.hasOpen a.rule a.device with
      | true =>
          exact h
      | false =>
          refine h.insert fun b hb hopenb _ hrule hdevice => ?_
          exact absurd ⟨hrule.symm, hdevice.symm⟩ (hasOpen_eq_false.mp hopen b hb hopenb)
  · split
    · exact h.update _
    · exact h

end Orderly

/-! ### Runs of requests -/

/-- The alerts after requests were served one after the other. -/
def after (m : Memory) (turns : List Turn) : Memory :=
  turns.foldl (fun m t => (m.serve t.now t.request).2) m

theorem Orderly.after
    (h : m.Orderly)
    (turns : List Turn) :
    (m.after turns).Orderly := by
  induction turns generalizing m with
  | nil =>
      exact h
  | cons t turns ih =>
      exact ih (h.serve t.now t.request)

/-- Whether every rule has at most one open alert for every device. -/
def AtMostOneOpen (m : Memory) : Prop :=
  ∀ rule device,
    (m.alerts.filter fun a => a.isOpen && a.concerns rule device).length ≤ 1

theorem Orderly.atMostOneOpen
    (h : m.Orderly) :
    m.AtMostOneOpen := by
  intro rule device
  have hsame (a b : Alert)
      (ha : a ∈ m.alerts.filter fun a => a.isOpen && a.concerns rule device)
      (hb : b ∈ m.alerts.filter fun a => a.isOpen && a.concerns rule device) : a = b := by
    simp only [List.mem_filter, Alert.concerns, Bool.and_eq_true, beq_iff_eq] at ha hb
    refine List.inj_on_of_nodup_map h.ids ha.1 hb.1 ?_
    exact h.claims a ha.1 b hb.1 ha.2.1 hb.2.1 (ha.2.2.1.trans hb.2.2.1.symm)
      (ha.2.2.2.trans hb.2.2.2.symm)
  have hnodup : (m.alerts.filter fun a => a.isOpen && a.concerns rule device).Nodup :=
    (List.Nodup.of_map _ h.ids).filter _
  match hlist : m.alerts.filter fun a => a.isOpen && a.concerns rule device with
  | [] =>
      simp [hlist]
  | [_] =>
      simp [hlist]
  | a :: b :: _ =>
      rw [hlist] at hsame hnodup
      have heq := hsame a b (by simp) (by simp)
      simp [heq] at hnodup

end Memory
end TelemetryAlerts
