import TelemetryAlerts.Proofs.Store.Keeping
import TelemetryAlerts.Proofs.Worker.Bookkeeping
import TelemetryAlerts.Proofs.Worker.InLine
import Mathlib.Algebra.BigOperators.Group.Finset.Basic
import Mathlib.Algebra.Order.BigOperators.Group.Finset

/-!
# Counters account for the store

What the stored alerts come to in any respect is what the calls that were served come to: each
new alert adds what it holds, and each change adds what it changes. The books of the tasks, which
are even whenever none of them is under way, turn that into an account of the store by the
counters and the reports of the channels.

**Results.**
* `Memory.Served.balanced`: serving a request keeps every account balanced.
* `Books.Sound.keeper`: so does every call that is warranted.
* `counters_account`: between tasks the counters account for the store.
-/

namespace TelemetryAlerts

open Program (exists_ends_call)

namespace Deed

/-- Whether a call wrote to the store. -/
def writes : Deed → Bool
  | ⟨.store (.create _), .ok _⟩ => true
  | ⟨.store (.acknowledge _ _ _ _), .ok done⟩ => done
  | ⟨.store (.resolve _ _ _), .ok done⟩ => done
  | ⟨.store (.recordNotifications _ _ _), .ok _⟩ => true
  | ⟨.store (.markEscalated _ _ _), .ok _⟩ => true
  | _ => false

end Deed

/-- What alerts hold in some respect, and what a call adds to it. -/
structure Account where
  holds : Alert → ℤ
  adds : Deed → ℤ
  created : ∀ a, a.isOpen = true → a.escalations = 0 → a.notifications = 0 →
    adds ⟨.store (.create a), .ok ()⟩ = holds a
  changed : ∀ now (r : Request) (o : Outcome r.Reply) c a, r.change? now = some c → a.id = c.id →
    c.may a = true → Deed.writes ⟨.store r, o⟩ = true →
      adds ⟨.store r, o⟩ = holds (c.apply a) - holds a
  idle : ∀ d, d.writes = false → adds d = 0

namespace Account

/-- The number of alerts. -/
def stored : Account where
  holds _ := 1
  adds := Deed.creates
  created _ _ _ _ := rfl
  changed now r o c a hc hid hmay hwrites := by
    cases r <;> cases hc <;> rfl
  idle d hd := by
    unfold Deed.creates
    split <;> simp_all [Deed.writes]

/-- The number of alerts with an id. -/
def storedAs (id : String) : Account where
  holds a := if a.id = id then 1 else 0
  adds := Deed.createsAs id
  created _ _ _ _ := rfl
  changed now r o c a hc hid hmay hwrites := by
    rw [c.id_apply, sub_self]
    cases r <;> cases hc <;> rfl
  idle d hd := by
    unfold Deed.createsAs
    split <;> simp_all [Deed.writes]

/-- How often alerts were escalated. -/
def escalated : Account where
  holds a := a.escalations
  adds := Deed.marks
  created _ _ hescalations _ := hescalations.symm
  changed now r o c a hc hid hmay hwrites := by
    cases r <;> cases hc
    · simp [Deed.marks, Change.acknowledge, Alert.acknowledge]
    · simp [Deed.marks, Change.resolve, Alert.resolve]
    · simp [Deed.marks, Change.recordNotifications, Alert.recordNotifications]
    · cases o with
      | ok =>
          simp [Deed.marks, Change.markEscalated, Alert.escalate]
      | error =>
          cases hwrites
  idle d hd := by
    unfold Deed.marks
    split <;> simp_all [Deed.writes]

/-- The number of alerts that have ended. -/
def ended : Account where
  holds a := if a.isOpen = true then 0 else 1
  adds := Deed.ends
  created a hopen _ _ := (if_pos hopen).symm
  changed now r o c a hc hid hmay hwrites := by
    cases r <;> cases hc
    · rw [Change.isOpen_acknowledge _ _ _ _ _ a hmay, sub_self]
      rfl
    · obtain _ | _ | _ := o
      · cases hwrites
      · cases hwrites
      · rw [if_pos (show a.isOpen = true from hmay)]
        rfl
    · exact (sub_self _).symm
    · exact (sub_self _).symm
  idle d hd := by
    unfold Deed.ends
    split <;> simp_all [Deed.writes]

/-- The number of notifications of an alert. -/
def notified (id : String) : Account where
  holds a := if a.id = id then a.notifications else 0
  adds := Deed.records id
  created a _ _ hnotifications := by
    rw [hnotifications, ite_self]
    rfl
  changed now r o c a hc hid hmay hwrites := by
    cases r <;> cases hc
    · exact (sub_self _).symm
    · exact (sub_self _).symm
    · cases o with
      | ok =>
          simp only [Deed.records, Change.recordNotifications, Alert.recordNotifications] at hid ⊢
          rw [← hid]
          by_cases hsame : a.id = id <;> simp [hsame]
      | error =>
          cases hwrites
    · exact (sub_self _).symm
  idle d hd := by
    unfold Deed.records
    split <;> simp_all [Deed.writes]

variable {A : Account} {s : Memory} {h : History} {now : Moment} {r : Request}

/-- Whether what the alerts of a store hold is what the calls of a history added. -/
def Balanced (A : Account) (s : Memory) (h : History) : Prop :=
  (s.alerts.map A.holds).sum = h.total A.adds

theorem Balanced.idle
    (hbalanced : A.Balanced s h)
    {d : Deed}
    (hd : d.writes = false) :
    A.Balanced s (h ++ [d]) := by
  rw [Balanced, History.total_append, ← hbalanced]
  simp [History.total, A.idle d hd]

end Account

namespace Memory

variable {m : Memory} {a b : Alert} {now : Moment} {r : Request}

/-- Putting an alert in the place of another changes a sum over all alerts by the difference. -/
theorem sum_put
    (f : Alert → ℤ)
    {alerts : List Alert}
    (hids : (alerts.map Alert.id).Nodup)
    (ha : a ∈ alerts)
    (hid : b.id = a.id) :
    ((put b alerts).map f).sum = (alerts.map f).sum + (f b - f a) := by
  induction alerts with
  | nil =>
      cases ha
  | cons c rest ih =>
      have hrests := hids
      rw [List.map_cons, List.nodup_cons] at hrests
      simp only [put]
      split_ifs with hc
      · obtain rfl : c = a := List.inj_on_of_nodup_map hids (by simp) ha (hc.trans hid)
        simp only [List.map_cons, List.sum_cons]
        ring
      · have hrest : a ∈ rest := by
          rcases List.mem_cons.mp ha with rfl | hrest
          · exact absurd hid.symm hc
          · exact hrest
        simp only [List.map_cons, List.sum_cons, ih hrests.2 hrest]
        ring

/-- A sum over the alerts with an id has one summand. -/
theorem sum_of_id
    (f : Alert → ℤ)
    {alerts : List Alert}
    (hids : (alerts.map Alert.id).Nodup)
    (ha : a ∈ alerts) :
    (alerts.map fun b => if b.id = a.id then f b else 0).sum = f a := by
  classical
  have honly (b : Alert) (hne : b ≠ a) (hb : b ∈ alerts) :
      (if b.id = a.id then f b else 0) = 0 :=
    if_neg fun hid => hne (List.inj_on_of_nodup_map hids hb ha hid)
  rw [List.sum_map_eq_nsmul_single a _ honly,
    List.count_eq_one_of_mem (.of_map _ hids) ha, one_nsmul, if_pos rfl]

theorem sum_of_closed
    (alerts : List Alert) :
    (alerts.map fun a => if a.isOpen = true then (0 : ℤ) else 1).sum =
      (alerts.filter fun a => !a.isOpen).length := by
  induction alerts with
  | nil =>
      rfl
  | cons a rest ih =>
      cases hopen : a.isOpen <;> simp [hopen, ih, add_comm]

/-- Whether a request is made that is expected to find an alert finds it. -/
def Finds (m : Memory) : Request → Prop
  | .markEscalated id tenant _ => ∃ a ∈ m.alerts, a.id = id ∧ a.tenant = tenant
  | .recordNotifications id tenant _ => ∃ a ∈ m.alerts, a.id = id ∧ a.tenant = tenant
  | _ => True

/-- What serving a request does to the alerts, and what the reply tells of it. -/
inductive Served (now : Moment) (m : Memory) : Request → Deed → Memory → Prop where
  | created {a : Alert}
      (hfree : m.hasOpen a.rule a.device = false) :
      Served now m (.create a) ⟨.store (.create a), .ok ()⟩ (m.insert a)
  | changed {r : Request} {o : Outcome r.Reply} {c : Change} {a : Alert}
      (hc : r.change? now = some c)
      (ha : a ∈ m.alerts)
      (hid : a.id = c.id)
      (hmay : c.may a = true)
      (ho : Deed.writes ⟨.store r, o⟩ = true) :
      Served now m r ⟨.store r, o⟩ (m.insert (c.apply a))
  | idle {r : Request} {o : Outcome r.Reply}
      (ho : Deed.writes ⟨.store r, o⟩ = false) :
      Served now m r ⟨.store r, o⟩ m

theorem served
    (hids : (m.alerts.map Alert.id).Nodup)
    (hfinds : m.Finds r)
    (now : Moment) :
    Served now m r ⟨.store r, (m.serve now r).1⟩ (m.serve now r).2 := by
  have hupdate (c : Change) (hc : r.change? now = some c)
      (hstore : (m.serve now r).2 = (m.update c.id c.tenant c.may c.apply).2)
      (hdone : (m.update c.id c.tenant c.may c.apply).1 = true →
        Deed.writes ⟨.store r, (m.serve now r).1⟩ = true)
      (hmissed : (m.update c.id c.tenant c.may c.apply).1 = false →
        (∀ a ∈ m.alerts, a.id = c.id → a.tenant = c.tenant → c.may a ≠ true) →
        Deed.writes ⟨.store r, (m.serve now r).1⟩ = false) :
      Served now m r ⟨.store r, (m.serve now r).1⟩ (m.serve now r).2 := by
    obtain ⟨a, ha, ⟨hid, -, hmay⟩, hupdate⟩ | ⟨hupdate, hnone⟩ := update_cases hids c
    · rw [show (m.serve now r).2 = m.insert (c.apply a) by rw [hstore, hupdate]]
      exact .changed hc ha hid hmay (hdone (by rw [hupdate]))
    · rw [show (m.serve now r).2 = m by rw [hstore, hupdate]]
      exact .idle (hmissed (by rw [hupdate]) hnone)
  cases r with
  | create a =>
      cases hopen : m.hasOpen a.rule a.device with
      | true =>
          rw [show m.serve now (.create a) = (.error (.openAlertExists a.rule a.device), m) from
            if_pos hopen]
          exact .idle rfl
      | false =>
          rw [show m.serve now (.create a) = (.ok (), m.insert a) from if_neg (by simp [hopen])]
          exact .created hopen
  | acknowledge id tenant who? notes? =>
      exact hupdate (.acknowledge now id tenant who? notes?) rfl rfl (fun h => h) fun h _ => h
  | resolve id tenant reason? =>
      exact hupdate (.resolve now id tenant reason?) rfl rfl (fun h => h) fun h _ => h
  | recordNotifications id tenant count =>
      obtain ⟨a, ha, hid, htenant⟩ := hfinds
      exact hupdate (.recordNotifications now id tenant count) rfl rfl (fun _ => rfl)
        fun _ hnone => absurd rfl (hnone a ha hid htenant)
  | markEscalated id tenant at_ =>
      obtain ⟨a, ha, hid, htenant⟩ := hfinds
      exact hupdate (.markEscalated id tenant at_) rfl rfl (fun _ => rfl)
        fun _ hnone => absurd rfl (hnone a ha hid htenant)
  | _ =>
      exact .idle rfl

/-- Whether an alert of a request is new, and nothing has happened to it yet. -/
def Welcomes (m : Memory) : Request → Prop
  | .create a => a.id ∉ m.alerts.map Alert.id ∧ a.isOpen = true ∧ a.escalations = 0 ∧
    a.notifications = 0
  | _ => True

namespace Served

variable {d : Deed} {m' : Memory}

/-- Stored alerts keep their ids and tenants. -/
theorem mem_names
    (h : Served now m r d m')
    (hids : (m.alerts.map Alert.id).Nodup)
    (hwelcomes : m.Welcomes r)
    {name : String × String}
    (hname : name ∈ m.alerts.map fun a => (a.id, a.tenant)) :
    name ∈ m'.alerts.map fun a => (a.id, a.tenant) := by
  cases h with
  | created =>
      rw [insert, put_of_new hwelcomes.1, List.map_append]
      exact List.mem_append_left _ hname
  | @changed r o c a hc ha hid hmay ho =>
      have hsame : ((c.apply a).id, (c.apply a).tenant) = (a.id, a.tenant) := by
        rw [c.id_apply, c.tenant_apply]
      rwa [insert, map_put (fun a => (a.id, a.tenant)) hids ha (c.id_apply a) hsame]
  | idle =>
      exact hname

theorem nodup
    (h : Served now m r d m')
    (hids : (m.alerts.map Alert.id).Nodup) :
    (m'.alerts.map Alert.id).Nodup := by
  cases h with
  | idle =>
      exact hids
  | _ =>
      exact nodup_put hids

/-- Serving a request keeps every account balanced. -/
theorem balanced
    (h : Served now m r d m')
    (hids : (m.alerts.map Alert.id).Nodup)
    (hwelcomes : m.Welcomes r)
    {A : Account} {l : History}
    (hbalanced : A.Balanced m l) :
    A.Balanced m' (l ++ [d]) := by
  cases h with
  | @created a hfree =>
      obtain ⟨hnew, hopen, hescalations, hnotifications⟩ := hwelcomes
      rw [Account.Balanced, insert, put_of_new hnew, History.total_append, ← hbalanced]
      simp [History.total, A.created a hopen hescalations hnotifications]
  | @changed r o c a hc ha hid hmay ho =>
      rw [Account.Balanced, insert, sum_put A.holds hids ha (c.id_apply a), History.total_append,
        ← hbalanced]
      simp [History.total, A.changed now r o c a hc hid hmay ho]
  | idle ho =>
      exact hbalanced.idle ho

end Served

/-- What a call shows to be stored is stored. -/
theorem mem_names_of_shows
    {o : Outcome r.Reply} {m' : Memory}
    (hserve : m.serve now r = (o, m'))
    {name : String × String}
    (hname : name ∈ Deed.shows ⟨.store r, o⟩) :
    name ∈ m'.alerts.map fun a => (a.id, a.tenant) := by
  cases r with
  | create a =>
      cases hopen : m.hasOpen a.rule a.device with
      | true =>
          obtain ⟨rfl, rfl⟩ : o = _ ∧ m' = _ :=
            Prod.mk.inj (hserve.symm.trans (if_pos hopen))
          cases hname
      | false =>
          obtain ⟨rfl, rfl⟩ : o = _ ∧ m' = _ :=
            Prod.mk.inj (hserve.symm.trans (if_neg (by simp [hopen])))
          obtain rfl : name = (a.id, a.tenant) := by simpa [Deed.shows] using hname
          exact List.mem_map_of_mem (mem_put_self a m.alerts)
  | openOn tenant device =>
      obtain ⟨rfl, hstore⟩ : o = _ ∧ m' = m := Prod.mk.inj hserve.symm
      rw [hstore]
      cases hfound : newestFirst (m.ofTenant tenant fun a => a.device == device && a.isOpen) with
      | error e =>
          rw [hfound] at hname
          cases hname
      | ok found =>
          rw [hfound] at hname
          obtain ⟨a, ha, rfl⟩ := List.mem_map.mp hname
          have hstored := List.mem_filter.mp ((mem_iff_of_newestFirst hfound).mp ha)
          exact List.mem_map_of_mem hstored.1
  | _ =>
      cases o <;> cases hname

end Memory

namespace Stats

/-- How often an event was counted. -/
def of (s : Stats) : Counter → ℕ
  | .rulesEvaluated => s.rulesEvaluated
  | .alertsTriggered => s.alertsTriggered
  | .alertsResolved => s.alertsResolved
  | .alertsSuppressed => s.alertsSuppressed
  | .escalations => s.escalations
  | .errors => s.errors

theorem of_count
    (s : Stats) (c c' : Counter) :
    (s.count c).of c' = s.of c' + if c = c' then 1 else 0 := by
  cases c <;> cases c' <;> rfl

end Stats

namespace Books

variable {ι : Type} [DecidableEq ι] {w w' : Books ι} {i : ι} {c : Call} {reply : c.Reply}

/-- What all tasks did, in order. -/
def entries (w : Books ι) : History :=
  w.log.map Prod.snd

omit [DecidableEq ι] in
theorem entries_of_reacts
    (h : Reacts i c w reply w') :
    w'.entries = w.entries ++ [⟨c, reply⟩] := by
  rw [entries, h.1, List.map_append]
  rfl

/-- The tasks that did something. -/
def active (w : Books ι) : Finset ι :=
  (w.log.map Prod.fst).toFinset

/-- A sum over all that was done is a sum over the tasks. -/
theorem sum_log
    (w : Books ι) (f : ι → Deed → ℤ) :
    (w.log.map fun e => f e.1 e.2).sum = ∑ i ∈ w.active, (w.history i).total (f i) := by
  have hsum (log : List (ι × Deed)) (s : Finset ι) (hs : ∀ e ∈ log, e.1 ∈ s) :
      (log.map fun e => f e.1 e.2).sum =
        ∑ i ∈ s, ((log.filter fun e => e.1 = i).map fun e => f i e.2).sum := by
    induction log with
    | nil =>
        simp
    | cons e rest ih =>
        have hsplit (i : ι) : (((e :: rest).filter fun e => e.1 = i).map fun e => f i e.2).sum =
            (if e.1 = i then f i e.2 else 0) +
              ((rest.filter fun e => e.1 = i).map fun e => f i e.2).sum := by
          rw [List.filter_cons]
          by_cases hi : e.1 = i <;> simp [hi]
        rw [List.map_cons, List.sum_cons, ih fun e' he' => hs e' (List.mem_cons_of_mem _ he'),
          Finset.sum_congr rfl fun i _ => hsplit i, Finset.sum_add_distrib, Finset.sum_ite_eq,
          if_pos (hs e (by simp))]
  rw [hsum w.log w.active fun e he => by simpa [active] using ⟨e.2, he⟩]
  simp [History.total, history, List.map_map, Function.comp_def]

theorem total_entries
    (w : Books ι) (f : Deed → ℤ) :
    w.entries.total f = ∑ i ∈ w.active, (w.history i).total f := by
  rw [← sum_log w fun _ => f, History.total, entries, List.map_map]
  rfl

theorem mem_active
    {d : Deed}
    (hd : d ∈ w.history i) :
    i ∈ w.active := by
  simp only [history, List.mem_map, List.mem_filter, decide_eq_true_eq] at hd
  obtain ⟨e, ⟨he, rfl⟩, -⟩ := hd
  exact List.mem_toFinset.mpr (List.mem_map_of_mem he)

/-- What holds of the books all the time: the store has what was added to it, and the counters
have what was counted. -/
structure Sound (w : Books ι) : Prop where
  ids : (w.store.alerts.map Alert.id).Nodup
  balanced : ∀ A : Account, A.Balanced w.store w.entries
  counted : ∀ c, (w.stats.of c : ℤ) = w.entries.total (Deed.counts c)
  /-- What a task has seen is stored. -/
  known : ∀ i, ∀ name ∈ (w.history i).known, name ∈ w.store.alerts.map fun a => (a.id, a.tenant)
  /-- No task stores an alert under an id that it did not draw. -/
  drawn : ∀ i id, (w.history i).total (Deed.createsAs id) ≤ (w.history i).total (Deed.drawsAs id)
  once : ∀ id, w.entries.total (Deed.drawsAs id) ≤ 1

namespace Sound

theorem start :
    ({} : Books ι).Sound where
  ids := List.nodup_nil
  balanced _ := rfl
  counted c := by
    cases c <;> rfl
  known _ _ hname := by
    cases hname
  drawn _ _ := le_rfl
  once _ := Int.one_nonneg

variable (h : w.Sound)
include h

/-- An id that was drawn for a new alert is not yet in use. -/
theorem not_mem_ids
    {a : Alert}
    (hwarrants : (w.history i).Warrants (.store (.create a))) :
    a.id ∉ w.store.alerts.map Alert.id := by
  intro hmem
  obtain ⟨b, hb, hid⟩ := List.mem_map.mp hmem
  have hstored : 1 ≤ w.entries.total (Deed.createsAs a.id) := by
    rw [← show _ = w.entries.total (Deed.createsAs a.id) from h.balanced (.storedAs a.id)]
    refine List.single_le_sum (fun n hn => ?_) 1 (List.mem_map.mpr ⟨b, hb, if_pos hid⟩)
    obtain ⟨b', -, rfl⟩ := List.mem_map.mp hn
    dsimp only [Account.storedAs]
    split_ifs <;> decide
  have hactive : i ∈ w.active := by
    by_contra hnone
    have hempty : w.history i = [] :=
      List.eq_nil_iff_forall_not_mem.mpr fun d hd => hnone (mem_active hd)
    have hdrawn := hwarrants.2.2.2
    rw [hempty] at hdrawn
    exact lt_irrefl 0 hdrawn
  have hfewer : w.entries.total (Deed.createsAs a.id) < w.entries.total (Deed.drawsAs a.id) := by
    rw [total_entries, total_entries]
    exact Finset.sum_lt_sum (fun j _ => h.drawn j a.id) ⟨i, hactive, hwarrants.2.2.2⟩
  have honce := h.once a.id
  omega

theorem welcomes
    {r : Request}
    (hwarrants : (w.history i).Warrants (.store r)) :
    w.store.Welcomes r := by
  cases r with
  | create a =>
      exact ⟨h.not_mem_ids hwarrants, hwarrants.1, hwarrants.2.1, hwarrants.2.2.1⟩
  | _ =>
      trivial

theorem finds
    {r : Request}
    (hwarrants : (w.history i).Warrants (.store r)) :
    w.store.Finds r := by
  have hstored (id tenant : String) (hknown : (id, tenant) ∈ (w.history i).known) :
      ∃ a ∈ w.store.alerts, a.id = id ∧ a.tenant = tenant := by
    obtain ⟨a, ha, hname⟩ := List.mem_map.mp (h.known i _ hknown)
    exact ⟨a, ha, Prod.mk.inj hname⟩
  cases r with
  | recordNotifications id tenant count =>
      exact hstored id tenant hwarrants
  | markEscalated id tenant at_ =>
      exact hstored id tenant hwarrants
  | _ =>
      trivial

/-! ### What a call does -/

/-- What is counted shows in the counters. -/
theorem counted_of_reacts
    (hreacts : Reacts i c w reply w')
    (counter : Counter) :
    (w'.stats.of counter : ℤ) = w'.entries.total (Deed.counts counter) := by
  rw [entries_of_reacts hreacts, History.total_append, ← h.counted counter]
  obtain ⟨-, hreacts⟩ := hreacts
  cases c with
  | count c =>
      rw [hreacts.1, Stats.of_count]
      simp [History.total, Deed.counts]
  | endCycle =>
      obtain ⟨-, now, hstats⟩ := hreacts
      rw [hstats]
      cases counter <;> exact (add_zero _).symm
  | _ =>
      rw [hreacts.1]
      exact (add_zero _).symm

omit [DecidableEq ι] h in
/-- A new alert is stored under an id that was drawn more often than it was used. -/
theorem drawn_append
    {l : History}
    (hwarrants : l.Warrants c)
    (reply : c.Reply) {id : String}
    (hdrawn : l.total (Deed.createsAs id) ≤ l.total (Deed.drawsAs id)) :
    History.total (Deed.createsAs id) (l ++ [⟨c, reply⟩]) ≤
      History.total (Deed.drawsAs id) (l ++ [⟨c, reply⟩]) := by
  have hlast (f : Deed → ℤ) :
      History.total f (l ++ [⟨c, reply⟩]) = l.total f + f ⟨c, reply⟩ := by
    simp [History.total]
  rw [hlast, hlast]
  cases c with
  | store r =>
      cases r with
      | create a =>
          have hadded : Deed.createsAs id ⟨.store (.create a), reply⟩ ≤
              if a.id = id then 1 else 0 := by
            cases reply with
            | ok =>
                exact le_rfl
            | error =>
                change (0 : ℤ) ≤ _
                split_ifs <;> decide
          have hstrict := hwarrants.2.2.2
          rw [show Deed.drawsAs id ⟨.store (.create a), reply⟩ = 0 from rfl]
          split_ifs at hadded with hid
          · rw [hid] at hstrict
            omega
          · omega
      | _ =>
          exact add_le_add hdrawn le_rfl
  | freshId =>
      refine add_le_add hdrawn ?_
      change (0 : ℤ) ≤ if _ then 1 else 0
      split_ifs <;> decide
  | _ =>
      exact add_le_add hdrawn le_rfl

/-- No id is drawn twice. -/
theorem once_of_reacts
    (hreacts : Reacts i c w reply w')
    (id : String) :
    w'.entries.total (Deed.drawsAs id) ≤ 1 := by
  have hlast : w'.entries.total (Deed.drawsAs id) =
      w.entries.total (Deed.drawsAs id) + Deed.drawsAs id ⟨c, reply⟩ := by
    rw [entries_of_reacts hreacts]
    simp [History.total]
  have honce := h.once id
  rw [hlast]
  cases c with
  | freshId =>
      by_cases hid : reply = id
      · have hnone : w.entries.total (Deed.drawsAs id) = 0 := by
          refine List.sum_eq_zero fun n hn => ?_
          simp only [entries, List.map_map, List.mem_map, Function.comp_apply] at hn
          obtain ⟨e, he, rfl⟩ := hn
          exact hid ▸ hreacts.2.2.2 e he
        rw [hnone, show Deed.drawsAs id ⟨.freshId, reply⟩ = 1 from if_pos hid]
        rfl
      · rw [show Deed.drawsAs id ⟨.freshId, reply⟩ = 0 from if_neg hid, add_zero]
        exact honce
  | _ =>
      exact (add_zero _).trans_le honce

/-- What is stored, and what all accounts of it come to. -/
theorem stored_of_reacts
    (hreacts : Reacts i c w reply w')
    (hwarrants : (w.history i).Warrants c) :
    ((w'.store.alerts.map Alert.id).Nodup ∧ ∀ A : Account, A.Balanced w'.store w'.entries) ∧
      (∀ name ∈ w.store.alerts.map fun a => (a.id, a.tenant),
        name ∈ w'.store.alerts.map fun a => (a.id, a.tenant)) ∧
      ∀ name ∈ Deed.shows ⟨c, reply⟩, name ∈ w'.store.alerts.map fun a => (a.id, a.tenant) := by
  rw [entries_of_reacts hreacts]
  have hidle (hstore : w'.store = w.store) (hd : Deed.writes ⟨c, reply⟩ = false)
      (hshows : Deed.shows ⟨c, reply⟩ = []) :
      ((w'.store.alerts.map Alert.id).Nodup ∧
        ∀ A : Account, A.Balanced w'.store (w.entries ++ [⟨c, reply⟩])) ∧
      (∀ name ∈ w.store.alerts.map fun a => (a.id, a.tenant),
        name ∈ w'.store.alerts.map fun a => (a.id, a.tenant)) ∧
      ∀ name ∈ Deed.shows ⟨c, reply⟩, name ∈ w'.store.alerts.map fun a => (a.id, a.tenant) := by
    rw [hstore, hshows]
    exact ⟨⟨h.ids, fun A => (h.balanced A).idle hd⟩, fun _ hname => hname, by simp⟩
  obtain ⟨-, hreacts⟩ := hreacts
  cases c with
  | store r =>
      obtain ⟨-, ⟨now, hserve⟩ | ⟨hstore, f, rfl⟩⟩ := hreacts
      · have hserved := Memory.served h.ids (h.finds hwarrants) now
        rw [hserve] at hserved
        have hwelcomes := h.welcomes hwarrants
        exact ⟨⟨hserved.nodup h.ids, fun A => hserved.balanced h.ids hwelcomes (h.balanced A)⟩,
          fun name => hserved.mem_names h.ids hwelcomes,
          fun name => Memory.mem_names_of_shows hserve⟩
      · cases r <;> exact hidle hstore rfl rfl
  | endCycle =>
      exact hidle hreacts.1 rfl rfl
  | freshId =>
      exact hidle hreacts.2.1 rfl rfl
  | _ =>
      exact hidle hreacts.2 rfl rfl

omit h in
/-- Every warranted call keeps the books sound. -/
theorem keeper :
    Keeper (Sound (ι := ι)) := by
  intro i c w reply w' hreacts hwarrants h
  obtain ⟨⟨hids, hbalanced⟩, hkept, hshown⟩ := h.stored_of_reacts hreacts hwarrants
  refine ⟨hids, hbalanced, h.counted_of_reacts hreacts, fun j name hname => ?_, fun j id => ?_,
    h.once_of_reacts hreacts⟩
  · by_cases hj : j = i
    · subst hj
      rw [history_of_reacts hreacts, History.known, List.flatMap_append] at hname
      rcases List.mem_append.mp hname with hname | hname
      · exact hkept name (h.known j name hname)
      · exact hshown name (by simpa using hname)
    · rw [history_of_reacts_of_ne hreacts hj] at hname
      exact hkept name (h.known j name hname)
  · by_cases hj : j = i
    · subst hj
      rw [history_of_reacts hreacts]
      exact drawn_append hwarrants reply (h.drawn j id)
    · rw [history_of_reacts_of_ne hreacts hj]
      exact h.drawn j id

end Sound

/-! ### Whole runs -/

/-- How many alerts were ended by hand. -/
def resolvedByHand (tasks : ι → Task) (w : Books ι) : ℤ :=
  (w.log.map fun e => if (tasks e.1).request?.isSome then e.2.ends else 0).sum

/-- What the counters and the reports of the channels tell about the store. -/
structure Accounted (tasks : ι → Task) (w : Books ι) : Prop where
  triggered : w.stats.alertsTriggered = w.store.alerts.length
  escalated : w.stats.escalations = (w.store.alerts.map Alert.escalations).sum
  ended : w.stats.alertsTriggered =
    w.stats.alertsResolved + w.resolvedByHand tasks + (w.store.alerts.filter Alert.isOpen).length
  delivered : (∀ e ∈ w.log, e.2.spoils = false) →
    ∀ a ∈ w.store.alerts, a.notifications = w.entries.total (Deed.delivers a.id)

/-- Sound books account for the store when those of every task are even. -/
theorem Sound.accounted
    {tasks : ι → Task}
    (h : w.Sound)
    (heven : ∀ i, (w.history i).Even (tasks i).request?.isSome) :
    w.Accounted tasks := by
  have hstored : (w.store.alerts.length : ℤ) = w.entries.total Deed.creates := by
    rw [← show _ = w.entries.total Deed.creates from h.balanced .stored]
    simp [Account.stored]
  have hcreated : w.entries.total Deed.creates = w.stats.alertsTriggered := by
    rw [show (w.stats.alertsTriggered : ℤ) = _ from h.counted .alertsTriggered, total_entries,
      total_entries]
    exact Finset.sum_congr rfl fun i _ => (heven i).created
  have hmarked : w.entries.total Deed.marks = w.stats.escalations := by
    rw [show (w.stats.escalations : ℤ) = _ from h.counted .escalations, total_entries,
      total_entries]
    exact Finset.sum_congr rfl fun i _ => (heven i).marked
  -- What ended was counted by the task that ended it, or was ended by hand.
  have hended : w.entries.total Deed.ends = w.stats.alertsResolved + w.resolvedByHand tasks := by
    rw [show (w.stats.alertsResolved : ℤ) = _ from h.counted .alertsResolved, total_entries,
      total_entries, resolvedByHand,
      sum_log w fun i d => if (tasks i).request?.isSome then d.ends else 0,
      ← Finset.sum_add_distrib]
    refine Finset.sum_congr rfl fun i _ => ?_
    rw [← (heven i).ended]
    split_ifs <;> simp [History.total]
  refine ⟨?_, ?_, ?_, fun hspared a ha => ?_⟩
  · exact_mod_cast hcreated.symm.trans hstored.symm
  · rw [← hmarked]
    exact (h.balanced .escalated).symm
  · have hclosed : ((w.store.alerts.filter fun a => !a.isOpen).length : ℤ) =
        w.entries.total Deed.ends := by
      rw [← show _ = w.entries.total Deed.ends from h.balanced .ended]
      exact (Memory.sum_of_closed w.store.alerts).symm
    have hparts := List.length_eq_length_filter_add (l := w.store.alerts) Alert.isOpen
    omega
  · have hrecorded : w.entries.total (Deed.records a.id) =
        w.entries.total (Deed.delivers a.id) := by
      rw [total_entries, total_entries]
      refine Finset.sum_congr rfl fun i _ => (heven i).delivered (fun d hd => ?_) a.id
      simp only [history, List.mem_map, List.mem_filter] at hd
      obtain ⟨e, ⟨he, -⟩, rfl⟩ := hd
      exact hspared e he
    rw [← hrecorded, ← show _ = w.entries.total (Deed.records a.id) from
      h.balanced (.notified a.id)]
    exact (Memory.sum_of_id Alert.notifications h.ids ha).symm

/-- Tasks before their first calls, at empty books. -/
def crew (tasks : ι → Task) : Pool ι Call.Reply (Books ι) (Outcome Unit) :=
  ⟨{}, fun i => ExceptT.run (tasks i).action⟩

end Books

/-- Whenever every task is done or has not begun, the counters account for the store: for every
run of worker turns, cycles and evaluations and of requests by hand, one after another or side by
side, whatever the tenants, rules, devices, telemetry, channels and clock reply, and whichever
requests fail before they take effect. -/
theorem counters_account
    {ι : Type} [DecidableEq ι] {tasks : ι → Task}
    {p : Pool ι Call.Reply (Books ι) (Outcome Unit)}
    (hreaches : Pool.Reaches Books.Reacts (Books.crew tasks) p)
    (hbetween : ∀ i, (∃ o, p.rest i = .done o) ∨ p.state.history i = []) :
    p.state.Accounted tasks := by
  have hkeeper : Keeper (Books.Sound (ι := ι)) := Books.Sound.keeper
  obtain ⟨hsound, habides⟩ := hreaches.abides
    (Q := fun i _ w => (w.history i).Even (tasks i).request?.isSome)
    (fun i j s t hij (hguarantee : (Books.terms Books.Sound i).guarantee s t) =>
      hguarantee.1 j (Ne.symm hij))
    (fun i => hkeeper.safe_task (tasks i) _ .nil)
    (fun i s t hguarantee => hguarantee.2) .start
  refine hsound.accounted fun i => ?_
  rcases hbetween i with ⟨o, hdone⟩ | hnone
  · have hi := habides i
    rw [hdone] at hi
    exact hi p.state rfl
  · rw [hnone]
    exact .nil

/-- An evaluation, and a request to resolve an alert. -/
def doorVisit : Bool → Task
  | true => .evaluateDevice false doorRule "dev-1"
  | false => .resolve "a1" "tenant-a" none

/-- The books after one call more. -/
def Books.note (w : Books Bool) (i : Bool) (d : Deed) : Books Bool :=
  { w with log := w.log ++ [(i, d)] }

/-- An open door is told of by mail, and the alert is resolved by hand. -/
theorem doorVisit_reaches :
    ∃ p, Pool.Reaches Books.Reacts (Books.crew doorVisit) p ∧
      (∀ i, p.rest i = .done (.ok ())) ∧
      p.state.stats.alertsTriggered = 1 ∧ p.state.resolvedByHand doorVisit = 1 ∧
      p.state.store.alerts.map Alert.notifications = [1] := by
  have hserved {w : Books Bool} {i : Bool} (r : Request) (o : Outcome r.Reply) (m : Memory)
      (hserve : w.store.serve .epoch r = (o, m)) :
      Books.Reacts i (.store r) w o { w.note i ⟨.store r, o⟩ with store := m } :=
    ⟨rfl, rfl, .inl ⟨.epoch, hserve⟩⟩
  have hlisted : ({} : Memory).serve .epoch (.openOn "tenant-a" "dev-1") = (.ok [], {}) := by
    simp [Memory.serve, Memory.ofTenant, newestFirst, sortable]
  have hcounted {w : Books Bool} {i : Bool} (c : Counter) :
      Books.Reacts i (.count c) w ()
        { w.note i ⟨.count c, ()⟩ with stats := w.stats.count c } :=
    ⟨rfl, rfl, rfl⟩
  have hevaluated : ∃ w, Program.Ends (Books.Reacts true) (ExceptT.run (doorVisit true).action) {}
      (.ok ()) w ∧ w.stats.alertsTriggered = 1 ∧ w.resolvedByHand doorVisit = 0 ∧
        w.store.alerts = [doorAlert.recordNotifications 1 .epoch] := by
    refine exists_ends_call (r := .ok [("door", .bool true)]) (t := Books.note {} true _)
      (by exact ⟨rfl, rfl, rfl⟩) ?_
    refine exists_ends_call (c := Call.acquire "rule-1" "dev-1") (r := ())
      (t := Books.note _ true _) (by exact ⟨rfl, rfl, rfl⟩) ?_
    refine exists_ends_call (hserved (.openOn "tenant-a" "dev-1") (.ok []) {} hlisted) ?_
    refine exists_ends_call (c := Call.now) (r := .epoch) (t := Books.note _ true _)
      (by exact ⟨rfl, rfl, rfl⟩) ?_
    rw [doorRule_fires]
    refine exists_ends_call (hserved (.latestOf "rule-1" "dev-1") (.ok none) {} rfl) ?_
    refine exists_ends_call (c := Call.freshId) (r := "a1") (t := Books.note _ true _)
      (by exact ⟨rfl, rfl, rfl, by simp [Books.note, Deed.drawsAs]⟩) ?_
    refine exists_ends_call (hserved (.create doorAlert) (.ok ()) ⟨[doorAlert]⟩ rfl) ?_
    refine exists_ends_call (hcounted .alertsTriggered) ?_
    refine exists_ends_call (c := Call.dispatch (.ofTrigger doorAlert doorRule))
      (r := { delivered := [.email] }) (t := Books.note _ true _) (by exact ⟨rfl, rfl, rfl⟩) ?_
    refine exists_ends_call (hserved (.recordNotifications "a1" "tenant-a" 1) (.ok ())
      ⟨[doorAlert.recordNotifications 1 .epoch]⟩ rfl) ?_
    refine exists_ends_call (c := Call.release "rule-1" "dev-1") (r := ())
      (t := Books.note _ true _) (by exact ⟨rfl, rfl, rfl⟩) ?_
    exact ⟨_, .done, rfl, rfl, rfl⟩
  obtain ⟨w, hevaluated, htriggered, hnone, hstored⟩ := hevaluated
  let a := doorAlert.recordNotifications 1 .epoch
  have hresolved : Program.Ends (Books.Reacts false) (ExceptT.run (doorVisit false).action) w
      (.ok ()) { w.note false ⟨.store (.resolve "a1" "tenant-a" none), .ok true⟩ with
        store := ⟨[a.resolve none .epoch]⟩ } := by
    refine .call (hserved (.resolve "a1" "tenant-a" none) (.ok true) _ ?_) .done
    rw [show w.store = ⟨[a]⟩ from Memory.ext hstored]
    rfl
  have hfirst : Pool.Reaches Books.Reacts (Books.crew doorVisit) _ :=
    Pool.reaches_of_ends (i := true) hevaluated
  have hsecond : Pool.Reaches Books.Reacts
      ⟨w, Function.update (Books.crew doorVisit).rest true (.done (.ok ()))⟩ _ :=
    Pool.reaches_of_ends (i := false) hresolved
  refine ⟨_, hfirst.trans hsecond, fun i => ?_, htriggered, ?_, rfl⟩
  · cases i <;> rfl
  · rw [Books.resolvedByHand] at hnone ⊢
    dsimp only [Books.note]
    rw [List.map_append, List.sum_append, hnone]
    rfl

theorem counters_account_door :
    ∃ p, Pool.Reaches Books.Reacts (Books.crew doorVisit) p ∧
      (∀ i, (∃ o, p.rest i = .done o) ∨ p.state.history i = []) ∧
      p.state.stats.alertsTriggered = 1 ∧ p.state.resolvedByHand doorVisit = 1 ∧
      p.state.store.alerts.map Alert.notifications = [1] ∧ p.state.Accounted doorVisit := by
  obtain ⟨p, hreaches, hdone, htriggered, hresolved, hnotified⟩ := doorVisit_reaches
  have hbetween : ∀ i, (∃ o, p.rest i = .done o) ∨ p.state.history i = [] :=
    fun i => .inl ⟨_, hdone i⟩
  exact ⟨p, hreaches, hbetween, htriggered, hresolved, hnotified,
    counters_account hreaches hbetween⟩

end TelemetryAlerts
