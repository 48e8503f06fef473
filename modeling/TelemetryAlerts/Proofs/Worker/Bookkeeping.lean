import TelemetryAlerts.Proofs.Worker.Scene
import TelemetryAlerts.Store.Memory
import Mathlib.Algebra.BigOperators.Group.List.Basic
import Mathlib.Data.Int.Notation
import Mathlib.Tactic.Ring

/-!
# The books of a task

What a worker counts, and what it records of notifications, follows what it did to the store and
what the channels reported. Between the evaluations of a task its books are even, whatever was
replied to it: an alert that it stored is counted as triggered, an escalation that it marked and
an alert that it ended are counted, too, and what the channels delivered is recorded, unless a
request to record it or to mark the escalation failed. A request that fails in between
breaks an evaluation off where the books are even.

**Results.**
* `Even.append`: books that are even stay so when even entries are added.
* `Keeper.safe_evaluateDevice`: an evaluation leaves even books.
* `Keeper.safe_task`: so does every task.
-/

namespace TelemetryAlerts

open Program (Safe)

/-- A call and the reply to it. -/
structure Deed where
  call : Call
  reply : call.Reply

namespace Deed

/-- How many alerts a call stored. -/
def creates : Deed → ℤ
  | ⟨.store (.create _), .ok _⟩ => 1
  | _ => 0

/-- How many alerts with an id a call stored. -/
def createsAs (id : String) : Deed → ℤ
  | ⟨.store (.create a), .ok _⟩ => if a.id = id then 1 else 0
  | _ => 0

/-- How often a call drew an id. -/
def drawsAs (id : String) : Deed → ℤ
  | ⟨.freshId, drawn⟩ => if drawn = id then 1 else 0
  | _ => 0

/-- How many alerts a call ended. -/
def ends : Deed → ℤ
  | ⟨.store (.resolve _ _ _), .ok true⟩ => 1
  | _ => 0

/-- How many escalations a call marked. -/
def marks : Deed → ℤ
  | ⟨.store (.markEscalated _ _ _), .ok _⟩ => 1
  | _ => 0

/-- How many notifications of an alert a call recorded. -/
def records (id : String) : Deed → ℤ
  | ⟨.store (.recordNotifications id' _ count), .ok _⟩ => if id' = id then count else 0
  | _ => 0

/-- How many channels delivered a notification of an alert. -/
def delivers (id : String) : Deed → ℤ
  | ⟨.dispatch d, report⟩ => if d.notice.alert.id = id then report.delivered.length else 0
  | _ => 0

/-- How often a call counted an event. -/
def counts (counter : Counter) : Deed → ℤ
  | ⟨.count c, _⟩ => if c = counter then 1 else 0
  | _ => 0

/-- Whether a request failed that was to record a notification or an escalation. -/
def spoils : Deed → Bool
  | ⟨.store (.recordNotifications _ _ _), .error _⟩ => true
  | ⟨.store (.markEscalated _ _ _), .error _⟩ => true
  | _ => false

/-- The ids and tenants of the alerts that a call showed to be stored. -/
def shows : Deed → List (String × String)
  | ⟨.store (.openOn _ _), .ok found⟩ => found.map fun a => (a.id, a.tenant)
  | ⟨.store (.create a), .ok _⟩ => [(a.id, a.tenant)]
  | _ => []

end Deed

/-- What a task did, in order. -/
abbrev History : Type :=
  List Deed

namespace History

/-- How much the calls of a history come to. -/
def total (f : Deed → ℤ) (h : History) : ℤ :=
  (h.map f).sum

@[simp] theorem total_append
    (f : Deed → ℤ) (h h' : History) :
    total f (h ++ h') = total f h + total f h' := by
  simp [total]

/-- The ids and tenants of the alerts that were seen. -/
def known (h : History) : List (String × String) :=
  h.flatMap Deed.shows

/-- Whether the books of a task are even. What is ended by hand is counted nowhere. -/
structure Even (byHand : Bool) (h : History) : Prop where
  created : h.total Deed.creates = h.total (Deed.counts .alertsTriggered)
  marked : h.total Deed.marks = h.total (Deed.counts .escalations)
  ended : (if byHand then 0 else h.total Deed.ends) = h.total (Deed.counts .alertsResolved)
  delivered : (∀ d ∈ h, d.spoils = false) →
    ∀ id, h.total (Deed.records id) = h.total (Deed.delivers id)
  drawn : ∀ id, h.total (Deed.createsAs id) ≤ h.total (Deed.drawsAs id)

/-- Whether a call may be made after a history: a new alert has an id that was drawn for it, and
what is recorded is about an alert that was seen. -/
def Warrants (h : History) : Call → Prop
  | .store (.create a) => a.isOpen = true ∧ a.escalations = 0 ∧ a.notifications = 0 ∧
    h.total (Deed.createsAs a.id) < h.total (Deed.drawsAs a.id)
  | .store (.markEscalated id tenant _) => (id, tenant) ∈ h.known
  | .store (.recordNotifications id tenant _) => (id, tenant) ∈ h.known
  | _ => True

namespace Even

variable {byHand : Bool} {h h' : History}

theorem append
    (heven : Even byHand h)
    (heven' : Even byHand h') :
    Even byHand (h ++ h') where
  created := by rw [total_append, total_append, heven.created, heven'.created]
  marked := by rw [total_append, total_append, heven.marked, heven'.marked]
  ended := by
    rw [total_append, total_append, ← heven.ended, ← heven'.ended]
    split_ifs <;> rfl
  delivered hspared id := by
    rw [total_append, total_append,
      heven.delivered (fun d hd => hspared d (List.mem_append_left _ hd)),
      heven'.delivered (fun d hd => hspared d (List.mem_append_right _ hd))]
  drawn id := by
    rw [total_append, total_append]
    exact add_le_add (heven.drawn id) (heven'.drawn id)

theorem nil :
    Even byHand [] :=
  ⟨rfl, rfl, by simp [total], fun _ _ => rfl, fun _ => le_rfl⟩

end Even
end History

/-- Whether a call leaves books as even as they are, whatever is replied. -/
def Call.isIdle : Call → Bool
  | .store (.create _) | .store (.resolve _ _ _) => false
  | .store (.recordNotifications _ _ _) | .store (.markEscalated _ _ _) => false
  | .dispatch _ => false
  | .count .alertsTriggered | .count .alertsResolved | .count .escalations => false
  | _ => true

theorem Call.isIdle_of_isRound
    {c : Call}
    (h : c.isRound = true) :
    c.isIdle = true := by
  cases c with
  | store | dispatch =>
      cases h
  | count counter =>
      cases counter <;> first | rfl | cases h
  | _ =>
      rfl

theorem History.Even.idle
    {byHand : Bool} {c : Call}
    (hc : c.isIdle = true)
    (reply : c.Reply) :
    Even byHand [⟨c, reply⟩] := by
  have hnone {f g : Deed → ℤ} (hf : f ⟨c, reply⟩ = 0) (hg : g ⟨c, reply⟩ = 0) :
      total f [⟨c, reply⟩] = total g [⟨c, reply⟩] := by
    simp [total, hf, hg]
  have hended (hends : Deed.ends ⟨c, reply⟩ = 0) (hcounts : Deed.counts .alertsResolved ⟨c, reply⟩ = 0) :
      (if byHand then 0 else total Deed.ends [⟨c, reply⟩]) =
        total (Deed.counts .alertsResolved) [⟨c, reply⟩] := by
    simp [total, hends, hcounts]
  cases c with
  | store r =>
      cases r with
      | create | resolve | recordNotifications | markEscalated =>
          cases hc
      | _ =>
          exact ⟨hnone rfl rfl, hnone rfl rfl, hended rfl rfl, fun _ _ => hnone rfl rfl,
            fun _ => le_rfl⟩
  | count counter =>
      cases counter with
      | alertsTriggered | alertsResolved | escalations =>
          cases hc
      | _ =>
          exact ⟨hnone rfl rfl, hnone rfl rfl, hended rfl rfl, fun _ _ => hnone rfl rfl,
            fun _ => le_rfl⟩
  | dispatch d =>
      cases hc
  | freshId =>
      refine ⟨hnone rfl rfl, hnone rfl rfl, hended rfl rfl, fun _ _ => hnone rfl rfl, fun id => ?_⟩
      simp only [total, List.map_singleton, List.sum_singleton, Deed.createsAs, Deed.drawsAs]
      split_ifs <;> decide
  | _ =>
      exact ⟨hnone rfl rfl, hnone rfl rfl, hended rfl rfl, fun _ _ => hnone rfl rfl,
        fun _ => le_rfl⟩

theorem History.warrants_of_isIdle
    {c : Call} {h : History}
    (hc : c.isIdle = true) :
    h.Warrants c := by
  cases c with
  | store r =>
      cases r with
      | create | recordNotifications | markEscalated =>
          cases hc
      | _ =>
          trivial
  | _ =>
      trivial

/-- The books of a new alert are even when its notification is recorded, or nothing was
delivered. -/
theorem History.even_trigger
    {a : Alert} {d : Dispatch}
    (hd : d.notice.alert.id = a.id)
    (report : Report) :
    (report.delivered.isEmpty = true → Even false [⟨.freshId, a.id⟩, ⟨.store (.create a), .ok ()⟩,
      ⟨.count .alertsTriggered, ()⟩, ⟨.dispatch d, report⟩]) ∧
    ∀ o, Even false [⟨.freshId, a.id⟩, ⟨.store (.create a), .ok ()⟩, ⟨.count .alertsTriggered, ()⟩,
      ⟨.dispatch d, report⟩,
      ⟨.store (.recordNotifications a.id a.tenant report.delivered.length), o⟩] := by
  constructor
  · intro hempty
    rw [List.isEmpty_iff] at hempty
    constructor <;> simp [total, Deed.creates, Deed.counts, Deed.marks, Deed.ends, Deed.records,
      Deed.delivers, Deed.createsAs, Deed.drawsAs, hempty]
  · intro o
    cases o <;> constructor <;> simp [total, Deed.creates, Deed.counts, Deed.marks, Deed.ends,
      Deed.records, Deed.delivers, Deed.createsAs, Deed.drawsAs, Deed.spoils, hd]

/-- So are the books of a new alert that is refused. -/
theorem History.even_refused
    (a : Alert) (e : Failure) :
    Even false [⟨.freshId, a.id⟩, ⟨.store (.create a), .error e⟩] := by
  constructor <;> simp [total, Deed.creates, Deed.counts, Deed.marks, Deed.ends, Deed.records,
    Deed.delivers, Deed.createsAs, Deed.drawsAs]
  intro id
  split_ifs <;> decide

/-- The books of an escalation are even when its notification is recorded, or nothing was
delivered; the escalation has to be marked before. -/
theorem History.even_escalate
    {a : Alert} {d : Dispatch}
    (hd : d.notice.alert.id = a.id)
    (report : Report) (now : Moment) :
    (report.delivered.isEmpty = true → Even false [⟨.dispatch d, report⟩,
      ⟨.store (.markEscalated a.id a.tenant now), .ok ()⟩, ⟨.count .escalations, ()⟩]) ∧
    (∀ o, Even false [⟨.dispatch d, report⟩, ⟨.store (.markEscalated a.id a.tenant now), .ok ()⟩,
      ⟨.count .escalations, ()⟩,
      ⟨.store (.recordNotifications a.id a.tenant report.delivered.length), o⟩]) ∧
    ∀ e, Even false [⟨.dispatch d, report⟩,
      ⟨.store (.markEscalated a.id a.tenant now), .error e⟩] := by
  refine ⟨fun hempty => ?_, fun o => ?_, fun e => ?_⟩
  · rw [List.isEmpty_iff] at hempty
    constructor <;> simp [total, Deed.creates, Deed.counts, Deed.marks, Deed.ends, Deed.records,
      Deed.delivers, Deed.createsAs, Deed.drawsAs, hempty]
  · cases o <;> constructor <;> simp [total, Deed.creates, Deed.counts, Deed.marks, Deed.ends,
      Deed.records, Deed.delivers, Deed.createsAs, Deed.drawsAs, Deed.spoils, hd]
  · constructor <;> simp [total, Deed.creates, Deed.counts, Deed.marks, Deed.ends, Deed.records,
      Deed.delivers, Deed.createsAs, Deed.drawsAs, Deed.spoils]

/-- The books of the end of an alert are even when it is counted, or nothing was ended. -/
theorem History.even_resolve
    (id tenant : String) (reason? : Option String) :
    Even false [⟨.store (.resolve id tenant reason?), .ok true⟩, ⟨.count .alertsResolved, ()⟩] ∧
    ∀ o, o ≠ .ok true → Even false [⟨.store (.resolve id tenant reason?), o⟩] := by
  refine ⟨?_, fun o ho => ?_⟩
  · constructor <;> simp [total, Deed.creates, Deed.counts, Deed.marks, Deed.ends, Deed.records,
      Deed.delivers, Deed.createsAs, Deed.drawsAs]
  · rcases o with e | _ | _
    · constructor <;> simp [total, Deed.creates, Deed.counts, Deed.marks, Deed.ends, Deed.records,
        Deed.delivers, Deed.createsAs, Deed.drawsAs]
    · constructor <;> simp [total, Deed.creates, Deed.counts, Deed.marks, Deed.ends, Deed.records,
        Deed.delivers, Deed.createsAs, Deed.drawsAs]
    · exact absurd rfl ho

/-- What is ended by hand is counted nowhere. -/
theorem History.even_byHand
    {r : Request}
    (hr : (∃ id tenant who? notes?, r = .acknowledge id tenant who? notes?) ∨
      ∃ id tenant reason?, r = .resolve id tenant reason?)
    (o : Outcome r.Reply) :
    Even true [⟨.store r, o⟩] := by
  obtain ⟨id, tenant, who?, notes?, rfl⟩ | ⟨id, tenant, reason?, rfl⟩ := hr
  · exact Even.idle (c := .store (.acknowledge id tenant who? notes?)) rfl o
  · constructor <;> simp [total, Deed.creates, Deed.counts, Deed.marks, Deed.records,
      Deed.delivers, Deed.createsAs, Deed.drawsAs]

/-! ### Shared books -/

/-- What tasks share: the store, the counters, and who did what. -/
structure Books (ι : Type) where
  store : Memory := {}
  stats : Stats := {}
  log : List (ι × Deed) := []

namespace Books

variable {ι : Type} [DecidableEq ι]

/-- What a task did. -/
def history (w : Books ι) (i : ι) : History :=
  (w.log.filter fun e => e.1 = i).map Prod.snd

/-- What can come of a call of a task. A request may fail without effect, and is served at any
moment otherwise; an id is drawn once. All else may be replied to in any way. -/
def Reacts (i : ι) (c : Call) (w : Books ι) (reply : c.Reply) (w' : Books ι) : Prop :=
  w'.log = w.log ++ [(i, ⟨c, reply⟩)] ∧
    match c, reply with
    | .store r, o => w'.stats = w.stats ∧
      ((∃ now, w.store.serve now r = (o, w'.store)) ∨ w'.store = w.store ∧ ∃ f, o = .error f)
    | .freshId, id => w'.stats = w.stats ∧ w'.store = w.store ∧
      ∀ e ∈ w.log, e.2.drawsAs id = 0
    | .count counter, _ => w'.stats = w.stats.count counter ∧ w'.store = w.store
    | .endCycle, _ => w'.store = w.store ∧
      ∃ now, w'.stats = { w.stats with cycles := w.stats.cycles + 1, lastCycleAt? := some now }
    | _, _ => w'.stats = w.stats ∧ w'.store = w.store

variable {i j : ι} {c : Call} {w w' : Books ι} {reply : c.Reply}

theorem history_of_reacts
    (h : Reacts i c w reply w') :
    w'.history i = w.history i ++ [⟨c, reply⟩] := by
  simp [history, h.1]

theorem history_of_reacts_of_ne
    (h : Reacts i c w reply w')
    (hj : j ≠ i) :
    w'.history j = w.history j := by
  simp [history, h.1, hj.symm]

/-- A task relies on nothing but its own history, and keeps something up. -/
def terms (keeps : Books ι → Prop) (i : ι) : Terms (Books ι) where
  rely s t := t.history i = s.history i
  guarantee s t := (∀ j, j ≠ i → t.history j = s.history j) ∧ (keeps s → keeps t)
  rely_refl _ := rfl
  rely_trans h h' := h'.trans h

end Books

/-- What every call keeps up that is warranted by the history of its task. -/
def Keeper {ι : Type} [DecidableEq ι] (keeps : Books ι → Prop) : Prop :=
  ∀ i c w reply w', Books.Reacts i c w reply w' → (w.history i).Warrants c → keeps w → keeps w'

namespace Keeper

variable {ι : Type} [DecidableEq ι] {keeps : Books ι → Prop} {i : ι} {α β : Type} {l : History}
  {Q : Outcome α → Books ι → Prop} {byHand : Bool}

theorem stable_history
    (P : History → Prop) :
    (Books.terms keeps i).Stable fun w => P (w.history i) := by
  intro s t hrely hs
  rwa [show t.history i = s.history i from hrely]

theorem safe_pure
    (heven : l.Even byHand)
    (x : α) :
    Safe (Books.Reacts i) (Books.terms keeps i) (fun w => w.history i = l)
      (pure x : WorkerAction α) fun _ w => (w.history i).Even byHand :=
  .pure (stable_history (· = l)) fun _ hw => hw ▸ heven

variable (h : Keeper keeps)
include h

theorem guarantee
    {c : Call} {w w' : Books ι} {reply : c.Reply}
    (hreacts : Books.Reacts i c w reply w')
    (hwarrants : (w.history i).Warrants c) :
    (Books.terms keeps i).guarantee w w' :=
  ⟨fun _ hj => Books.history_of_reacts_of_ne hreacts hj, h i c w reply w' hreacts hwarrants⟩

/-- A call is made, and noted in the history. -/
theorem safe_ask
    {c : Call} {f : c.Reply → WorkerAction α}
    (hwarrants : l.Warrants c)
    (hf : ∀ reply, Safe (Books.Reacts i) (Books.terms keeps i)
      (fun w => w.history i = l ++ [⟨c, reply⟩]) (f reply) Q) :
    Safe (Books.Reacts i) (Books.terms keeps i) (fun w => w.history i = l)
      (WorkerAction.ask c >>= f) Q := by
  refine .bind (R := fun o w => ∃ reply, o = .ok reply ∧ w.history i = l ++ [⟨c, reply⟩])
    (.perform (stable_history (· = l)) (fun o => stable_history fun l' => ∃ reply, o = .ok reply ∧
      l' = l ++ [⟨c, reply⟩]) fun w reply w' hw hreacts => ?_) (fun reply => ?_) ?_
  · exact ⟨h.guarantee hreacts (hw ▸ hwarrants), reply, rfl, by
      rw [Books.history_of_reacts hreacts, hw]⟩
  · rintro w ⟨reply', hreply, hw⟩
    cases hreply
    exact hf reply w hw
  · rintro e w ⟨reply, hreply, -⟩
    cases hreply

/-- Idle calls leave books as even as they are. -/
theorem even_idle
    {c : Call} {w w' : Books ι} {reply : c.Reply}
    (hc : c.isIdle = true)
    (hreacts : Books.Reacts i c w reply w')
    (heven : (w.history i).Even byHand) :
    (Books.terms keeps i).guarantee w w' ∧ (w'.history i).Even byHand := by
  refine ⟨h.guarantee hreacts (History.warrants_of_isIdle hc), ?_⟩
  rw [Books.history_of_reacts hreacts]
  exact heven.append (.idle hc reply)

theorem safe_idle
    {c : Call} {toOutcome : c.Reply → Outcome α}
    (hc : c.isIdle = true) :
    Safe (Books.Reacts i) (Books.terms keeps i) (fun w => (w.history i).Even byHand)
      (ExceptT.mk (Program.call c fun reply => Program.done (toOutcome reply)))
      fun _ w => (w.history i).Even byHand :=
  .perform (stable_history (History.Even byHand)) (fun _ => stable_history (History.Even byHand))
    fun _ _ _ heven hreacts => h.even_idle hc hreacts heven

/-- A request is made, and noted in the history. -/
theorem safe_store
    {r : Request} {f : r.Reply → WorkerAction α}
    (hwarrants : l.Warrants (.store r))
    (hok : ∀ x, Safe (Books.Reacts i) (Books.terms keeps i)
      (fun w => w.history i = l ++ [⟨.store r, .ok x⟩]) (f x) Q)
    (herror : ∀ e w, w.history i = l ++ [⟨.store r, .error e⟩] → Q (.error e) w) :
    Safe (Books.Reacts i) (Books.terms keeps i) (fun w => w.history i = l)
      (WorkerAction.store r >>= f) Q :=
  .bind (R := fun o w => w.history i = l ++ [⟨.store r, o⟩])
    (.perform (stable_history (· = l)) (fun o => stable_history (· = l ++ [⟨.store r, o⟩]))
      fun w o w' hw hreacts => ⟨h.guarantee hreacts (hw ▸ hwarrants), by
        rw [Books.history_of_reacts hreacts, hw]⟩)
    hok herror

/-! ### One evaluation -/

/-- What was delivered is recorded, or the request fails. -/
theorem safe_recordDelivered
    {a : Alert} {report : Report}
    (hknown : (a.id, a.tenant) ∈ l.known)
    (hnone : report.delivered.isEmpty = true → l.Even byHand)
    (hrecorded : ∀ o, History.Even byHand
      (l ++ [⟨.store (.recordNotifications a.id a.tenant report.delivered.length), o⟩])) :
    Safe (Books.Reacts i) (Books.terms keeps i) (fun w => w.history i = l)
      (Worker.recordDelivered a report) fun _ w => (w.history i).Even byHand := by
  unfold Worker.recordDelivered
  split_ifs with hempty
  · exact safe_pure (hnone hempty) ()
  · exact .perform (stable_history (· = l)) (fun _ => stable_history _) fun w o w' hw hreacts =>
      ⟨h.guarantee hreacts (hw ▸ hknown), by
        rw [Books.history_of_reacts hreacts, hw]
        exact hrecorded o⟩

/-- A new alert is stored under an id that was drawn for it, and told of. -/
theorem safe_raise
    (heven : l.Even false)
    {a : Alert} {d : Dispatch}
    (hopen : a.isOpen = true)
    (hescalations : a.escalations = 0)
    (hnotifications : a.notifications = 0)
    (hd : d.notice.alert.id = a.id) :
    Safe (Books.Reacts i) (Books.terms keeps i)
      (fun w => w.history i = l ++ [⟨.freshId, a.id⟩])
      (do
        WorkerAction.store (.create a)
        WorkerAction.count .alertsTriggered
        let report ← WorkerAction.ask (.dispatch d)
        Worker.recordDelivered a report)
      fun _ w => (w.history i).Even false := by
  have hdrawn : History.total (Deed.createsAs a.id) (l ++ [⟨.freshId, a.id⟩]) <
      History.total (Deed.drawsAs a.id) (l ++ [⟨.freshId, a.id⟩]) := by
    rw [History.total_append, History.total_append]
    exact add_lt_add_of_le_of_lt (heven.drawn a.id)
      (by simp [History.total, Deed.createsAs, Deed.drawsAs])
  refine h.safe_store ⟨hopen, hescalations, hnotifications, hdrawn⟩ (fun _ => ?_)
    fun e w hw => ?_
  · refine h.safe_ask trivial fun _ => h.safe_ask trivial fun report => ?_
    obtain ⟨hnone, hrecorded⟩ := History.even_trigger hd report
    refine h.safe_recordDelivered (by simp [History.known, Deed.shows]) (fun hempty => ?_)
      fun o => ?_
    · simpa using heven.append (hnone hempty)
    · simpa using heven.append (hrecorded o)
  · rw [hw]
    simpa using heven.append (History.even_refused a e)

theorem safe_trigger
    (heven : l.Even false)
    (r : Rule) (device : String) (s : Snapshot) (now : Moment) :
    Safe (Books.Reacts i) (Books.terms keeps i) (fun w => w.history i = l)
      (Worker.trigger r device s now) fun _ w => (w.history i).Even false :=
  h.safe_ask trivial fun id =>
    h.safe_raise (a := Worker.raisedAlert id r device s now) heven rfl rfl rfl rfl

theorem safe_resolve
    (heven : l.Even false)
    (a : Alert) :
    Safe (Books.Reacts i) (Books.terms keeps i) (fun w => w.history i = l)
      (Worker.resolve a) fun _ w => (w.history i).Even false := by
  obtain ⟨hcounted, hnone⟩ := History.even_resolve a.id a.tenant (some autoResolveReason)
  refine h.safe_store trivial (fun done => ?_) fun e w hw => ?_
  · cases done with
    | true =>
        refine .perform (stable_history (· = _)) (fun _ => stable_history _)
          fun w reply w' hw hreacts => ⟨h.guarantee hreacts trivial, ?_⟩
        rw [Books.history_of_reacts hreacts, hw]
        simpa using heven.append hcounted
    | false =>
        exact safe_pure (heven.append (hnone (.ok false) (by simp))) ()
  · rw [hw]
    exact heven.append (hnone (.error e) (by simp))

theorem safe_escalate
    (heven : l.Even false)
    {a : Alert}
    (hknown : (a.id, a.tenant) ∈ l.known)
    (r : Rule) (now : Moment) :
    Safe (Books.Reacts i) (Books.terms keeps i) (fun w => w.history i = l)
      (Worker.escalate a r now) fun _ w => (w.history i).Even false := by
  have hnotice : (Dispatch.ofEscalation a r).notice.alert.id = a.id := by
    unfold Dispatch.ofEscalation
    cases r.escalation? <;> rfl
  have hstill (l' : History) : (a.id, a.tenant) ∈ (l ++ l').known := by
    rw [History.known, List.flatMap_append]
    exact List.mem_append_left _ hknown
  refine h.safe_ask trivial fun report => ?_
  obtain ⟨hnone, hrecorded, hfailed⟩ := History.even_escalate hnotice report now
  refine h.safe_store (hstill _) (fun _ => h.safe_ask trivial fun _ => ?_) fun e w hw => ?_
  · refine h.safe_recordDelivered (by simpa using hstill _) (fun hempty => ?_) fun o => ?_
    · simpa using heven.append (hnone hempty)
    · simpa using heven.append (hrecorded o)
  · rw [hw]
    simpa using heven.append (hfailed e)

theorem safe_apply
    (heven : l.Even false)
    {open? : Option Alert}
    (hknown : ∀ a ∈ open?, (a.id, a.tenant) ∈ l.known)
    (t : Transition) (r : Rule) (device : String) (s : Snapshot) (now : Moment) :
    Safe (Books.Reacts i) (Books.terms keeps i) (fun w => w.history i = l)
      (Worker.apply t open? r device s now) fun _ w => (w.history i).Even false := by
  cases t with
  | trigger =>
      exact h.safe_trigger heven r device s now
  | suppress =>
      exact (h.safe_idle (by rfl)).weaken (fun w hw => hw ▸ heven) fun _ _ hw => hw
  | resolve =>
      cases open? with
      | none =>
          exact safe_pure heven ()
      | some a =>
          exact h.safe_resolve heven a
  | escalate =>
      cases open? with
      | none =>
          exact safe_pure heven ()
      | some a =>
          exact h.safe_escalate heven (hknown a rfl) r now
  | none =>
      exact safe_pure heven ()

theorem safe_settle
    (again : Bool) (r : Rule) (device : String) (s : Snapshot) :
    Safe (Books.Reacts i) (Books.terms keeps i) (fun w => (w.history i).Even false)
      (Worker.settle again r device s) fun _ w => (w.history i).Even false := by
  have hstable : (Books.terms keeps i).Stable fun w => (w.history i).Even false :=
    stable_history (History.Even false)
  have hrest {l : History} (heven : l.Even false) {open? : Option Alert}
      (hknown : ∀ a ∈ open?, (a.id, a.tenant) ∈ l.known) (last? : Option Alert) (now : Moment) :
      Safe (Books.Reacts i) (Books.terms keeps i) (fun w => w.history i = l) (do
        let t ← (liftM (timed (Transition.choose open? (r.fires s) last? r now again)) :
          WorkerAction Transition)
        Worker.apply t open? r device s now
        pure t) fun _ w => (w.history i).Even false :=
    .bind (R := fun _ w => w.history i = l) (.lift (stable_history (· = l)) fun _ hw => hw)
      (fun t => .bind (R := fun _ w => (w.history i).Even false) (h.safe_apply heven hknown t r device s now)
        (fun _ => .pure hstable fun _ hw => hw) fun _ _ hw => hw)
      fun _ _ hw => hw ▸ heven
  intro w₀ heven₀
  refine h.safe_store (r := .openOn r.tenant device) trivial (fun found => ?_)
    (fun e w hw => ?_) w₀ rfl
  · refine h.safe_ask trivial fun now => ?_
    have heven := (heven₀.append (.idle (c := .store (.openOn r.tenant device)) rfl
      (.ok found))).append (.idle (c := .now) rfl now)
    have hknown : ∀ a ∈ found.find? fun a => a.rule == r.id, (a.id, a.tenant) ∈
        History.known (w₀.history i ++ [⟨.store (.openOn r.tenant device), .ok found⟩] ++
          [⟨.now, now⟩]) := by
      intro a ha
      have hmem := List.mem_of_find?_eq_some ha
      simpa [History.known, Deed.shows] using .inr ⟨a, hmem, rfl, rfl⟩
    dsimp only
    split_ifs
    · refine h.safe_store trivial (fun last? => ?_) fun e w hw => ?_
      · refine hrest (heven.append (.idle rfl _)) (fun a ha => ?_) last? now
        rw [History.known, List.flatMap_append]
        exact List.mem_append_left _ (hknown a ha)
      · rw [hw]
        exact heven.append (.idle rfl _)
    · exact hrest heven hknown none now
  · rw [hw]
    exact heven₀.append (.idle rfl _)

/-- An evaluation leaves even books. -/
theorem safe_evaluateDevice
    (again : Bool) (r : Rule) (device : String) :
    Safe (Books.Reacts i) (Books.terms keeps i) (fun w => (w.history i).Even false)
      (Worker.evaluateDevice again r device) fun _ w => (w.history i).Even false := by
  have hstable : (Books.terms keeps i).Stable fun w => (w.history i).Even false :=
    stable_history (History.Even false)
  refine .bind (R := fun _ w => (w.history i).Even false) (.bind (h.safe_idle rfl)
    (fun reply => ?_) fun _ _ hw => hw) (fun s => ?_) fun _ _ hw => hw
  · cases reply <;> exact .pure hstable fun _ hw => hw
  · split_ifs
    · exact .pure hstable fun _ hw => hw
    · exact Worker.safe_locked hstable (fun _ => hstable) (fun _ => hstable)
        (fun _ _ heven hreacts => h.even_idle rfl hreacts heven) (h.safe_settle again r device s)
        fun _ _ _ heven hreacts => h.even_idle rfl hreacts heven

/-! ### Whole tasks -/

/-- Even books are kept up by every worker. -/
theorem steady
    (again : Bool) :
    Worker.Steady (Books.Reacts i) (Books.terms keeps i) (fun _ => True) again
      fun w => (w.history i).Even false where
  stable := stable_history (History.Even false)
  round _ _ _ _ hc heven hreacts := h.even_idle (Call.isIdle_of_isRound hc) hreacts heven
  listed _ _ _ _ _ _ _ _ := trivial
  device r device _ := h.safe_evaluateDevice again r device

/-- So does a request by hand. -/
theorem safe_byHand
    {r : Request}
    (hr : (∃ id tenant who? notes?, r = .acknowledge id tenant who? notes?) ∨
      ∃ id tenant reason?, r = .resolve id tenant reason?) :
    Safe (Books.Reacts i) (Books.terms keeps i) (fun w => (w.history i).Even true)
      (do let _ ← WorkerAction.store r) fun _ w => (w.history i).Even true := by
  have hwarrants (l : History) : l.Warrants (.store r) := by
    obtain ⟨id, tenant, who?, notes?, rfl⟩ | ⟨id, tenant, reason?, rfl⟩ := hr <;> trivial
  intro w₀ heven₀
  refine h.safe_store (hwarrants _) (fun x => ?_) (fun e w hw => ?_) w₀ rfl
  · exact safe_pure (heven₀.append (History.even_byHand hr (.ok x))) ()
  · rw [hw]
    exact heven₀.append (History.even_byHand hr (.error e))

/-- A task leaves even books. -/
theorem safe_task
    (task : Task) :
    Safe (Books.Reacts i) (Books.terms keeps i)
      (fun w => (w.history i).Even task.request?.isSome) task.action
      fun _ w => (w.history i).Even task.request?.isSome := by
  cases hrequest : task.request? with
  | none =>
      exact Task.safe (h.steady task.again) (fun _ _ => trivial) (by simp [hrequest])
  | some r =>
      cases task with
      | acknowledge id tenant who? notes? =>
          exact h.safe_byHand (.inl ⟨id, tenant, who?, notes?, rfl⟩)
      | resolve id tenant reason? =>
          exact h.safe_byHand (.inr ⟨id, tenant, reason?, rfl⟩)
      | _ =>
          cases hrequest

end Keeper
end TelemetryAlerts
