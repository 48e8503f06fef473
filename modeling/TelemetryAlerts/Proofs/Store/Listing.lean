import TelemetryAlerts.Proofs.Alert.Document
import TelemetryAlerts.Store.Request
import Mathlib.Data.List.Perm.Basic

/-!
# Lists of alerts

The answers that a store gives about several alerts. They depend on which alerts there
are, not on the order in which they are found, if the alerts were triggered at different
known instants; and they can be found from alerts that were read.

**Results.**
* `isNoEarlier_of_newest?`: the newest alert is no older than any other.
* `newestFirst_perm`, `newest?_perm`, `ofAlerts_perm`: the order makes no difference.
* `newestFirst_map_readBack`, `newest?_map_readBack`, `ofAlerts_map_readBack`: neither
  does reading.
-/

namespace TelemetryAlerts

theorem sortable_of_aware
    {alerts : List Alert}
    (h : ∀ a ∈ alerts, a.triggeredAt.isAware = true) :
    sortable alerts = true := by
  have hall : (alerts.map Alert.triggeredAt).all Moment.isAware = true := by
    simpa using h
  simp [sortable, comparable, hall]

/-- Alerts that were triggered at different instants, all with a known distance from
universal time. -/
structure Apart (alerts : List Alert) : Prop where
  aware : ∀ a ∈ alerts, a.triggeredAt.isAware = true
  instants : (alerts.map fun a => a.triggeredAt.instant).Nodup

namespace Apart

variable {alerts others : List Alert}

theorem perm
    (h : Apart alerts)
    (hperm : alerts.Perm others) :
    Apart others where
  aware a ha := h.aware a (hperm.mem_iff.mpr ha)
  instants := (hperm.map _).nodup_iff.mp h.instants

theorem filter
    (h : Apart alerts)
    (keep : Alert → Bool) :
    Apart (alerts.filter keep) where
  aware a ha := h.aware a (List.mem_filter.mp ha).1
  instants := h.instants.sublist (List.filter_sublist.map _)

theorem sortable
    (h : Apart alerts) :
    sortable alerts = true :=
  sortable_of_aware h.aware

theorem eq_of_instant
    (h : Apart alerts)
    {a b : Alert}
    (ha : a ∈ alerts)
    (hb : b ∈ alerts)
    (hinstant : a.triggeredAt.instant = b.triggeredAt.instant) :
    a = b :=
  List.inj_on_of_nodup_map h.instants ha hb hinstant

end Apart

variable {alerts others : List Alert}

/-! ### Newest first -/

/-- Sorted alerts go from the newest to the oldest. -/
theorem pairwise_sorted
    (alerts : List Alert) :
    (alerts.mergeSort fun a b => b.triggeredAt.instant ≤ a.triggeredAt.instant).Pairwise
      fun a b => b.triggeredAt.instant ≤ a.triggeredAt.instant := by
  have hpairwise := @List.pairwise_mergeSort Alert
    (fun a b => decide (b.triggeredAt.instant ≤ a.triggeredAt.instant))
    (fun a b c hab hbc => by simp only [decide_eq_true_eq] at hab hbc ⊢; omega)
    (fun a b => by simp only [Bool.or_eq_true, decide_eq_true_eq]; omega) alerts
  simpa using hpairwise

theorem newestFirst_perm
    (h : Apart alerts)
    (hperm : alerts.Perm others) :
    newestFirst others = newestFirst alerts := by
  have hsame : (others.mergeSort fun a b => b.triggeredAt.instant ≤ a.triggeredAt.instant) =
      alerts.mergeSort fun a b => b.triggeredAt.instant ≤ a.triggeredAt.instant := by
    refine List.Perm.eq_of_pairwise (fun a b ha hb hab hba => ?_) (pairwise_sorted others)
      (pairwise_sorted alerts)
      ((List.mergeSort_perm _ _).trans (hperm.symm.trans (List.mergeSort_perm _ _).symm))
    refine h.eq_of_instant ?_ ?_ (le_antisymm hba hab)
    · exact hperm.mem_iff.mpr (List.mem_mergeSort.mp ha)
    · exact List.mem_mergeSort.mp hb
  rw [newestFirst, newestFirst, if_pos h.sortable, if_pos (h.perm hperm).sortable, hsame]

theorem newestFirst_of_sortable
    (h : sortable alerts = true) :
    ∃ sorted, newestFirst alerts = .ok sorted ∧ ∀ a, a ∈ sorted ↔ a ∈ alerts :=
  ⟨_, if_pos h, fun _ => List.mem_mergeSort⟩

theorem mem_iff_of_newestFirst
    {a : Alert}
    (h : newestFirst alerts = .ok others) :
    a ∈ others ↔ a ∈ alerts := by
  unfold newestFirst at h
  split_ifs at h
  rw [← Except.ok.inj h]
  exact List.mem_mergeSort

theorem sortable_map_readBack
    (alerts : List Alert) :
    sortable (alerts.map Alert.readBack) = sortable alerts := by
  simp only [sortable, List.length_map, List.map_map]
  rfl

theorem newestFirst_map_readBack
    (alerts : List Alert) :
    newestFirst (alerts.map Alert.readBack) = List.map Alert.readBack <$> newestFirst alerts := by
  have hsort := List.map_mergeSort (l := alerts) (f := Alert.readBack)
    (r := fun a b => decide (b.triggeredAt.instant ≤ a.triggeredAt.instant))
    (s := fun a b => decide (b.triggeredAt.instant ≤ a.triggeredAt.instant))
    (fun _ _ _ _ => rfl)
  rw [newestFirst, newestFirst, sortable_map_readBack, ← hsort]
  split_ifs <;> rfl

/-! ### The newest -/

/-- The newest alert of a list is one of it, and none is newer. -/
theorem foldl_newer
    (a : Alert) (rest : List Alert) :
    rest.foldl newer a ∈ a :: rest ∧
      ∀ b ∈ a :: rest, b.triggeredAt.instant ≤ (rest.foldl newer a).triggeredAt.instant := by
  induction rest generalizing a with
  | nil =>
      simp
  | cons c rest ih =>
      obtain ⟨hmem, hnewest⟩ := ih (newer a c)
      have hstep : (newer a c = a ∨ newer a c = c) ∧
          a.triggeredAt.instant ≤ (newer a c).triggeredAt.instant ∧
          c.triggeredAt.instant ≤ (newer a c).triggeredAt.instant := by
        unfold newer
        split_ifs with hlt
        · exact ⟨Or.inr rfl, hlt.le, le_rfl⟩
        · exact ⟨Or.inl rfl, le_rfl, not_lt.mp hlt⟩
      obtain ⟨hone, ha, hc⟩ := hstep
      have htop := hnewest (newer a c) (by simp)
      rw [List.foldl_cons]
      constructor
      · rcases List.mem_cons.mp hmem with heq | hmem
        · rw [heq]
          rcases hone with hone | hone <;> simp [hone]
        · simp [hmem]
      · intro b hb
        rcases List.mem_cons.mp hb with rfl | hb
        · exact ha.trans htop
        · rcases List.mem_cons.mp hb with rfl | hb
          · exact hc.trans htop
          · exact hnewest b (by simp [hb])

theorem mem_of_newest?
    {a : Alert}
    (h : newest? alerts = .ok (some a)) :
    a ∈ alerts := by
  unfold newest? at h
  split_ifs at h
  cases alerts with
  | nil =>
      simp at h
  | cons b rest =>
      rw [← Option.some.inj (Except.ok.inj h)]
      exact (foldl_newer b rest).1

/-- Whether a moment is known to be another one or a later one. -/
def Moment.IsNoEarlier (t u : Moment) : Prop :=
  t.isAware = u.isAware ∧ u.instant ≤ t.instant

/-- The newest alert is no older than any other. -/
theorem isNoEarlier_of_newest?
    {a : Alert} {newest : Option Alert}
    (h : newest? alerts = .ok newest)
    (ha : a ∈ alerts) :
    ∃ b, newest = some b ∧ b.triggeredAt.IsNoEarlier a.triggeredAt := by
  unfold newest? at h
  split_ifs at h with hsortable
  cases alerts with
  | nil =>
      simp at ha
  | cons c rest =>
      obtain ⟨hmem, hnewest⟩ := foldl_newer c rest
      refine ⟨rest.foldl newer c, (Except.ok.inj h).symm, ?_, hnewest a ha⟩
      simp only [sortable, comparable, Bool.or_eq_true, decide_eq_true_eq, List.all_map,
        List.all_eq_true, Function.comp_apply, Bool.not_eq_true'] at hsortable
      rcases hsortable with hshort | haware | hnaive
      · obtain rfl : rest = [] := List.eq_nil_of_length_eq_zero (by simpa using hshort)
        rw [List.mem_singleton.mp ha]
        rfl
      · rw [haware _ hmem, haware _ ha]
      · rw [hnaive _ hmem, hnaive _ ha]

theorem newest?_perm
    (h : Apart alerts)
    (hperm : alerts.Perm others) :
    newest? others = newest? alerts := by
  simp only [newest?, if_pos h.sortable, if_pos (h.perm hperm).sortable]
  cases alerts with
  | nil =>
      rw [List.nil_perm.mp hperm]
  | cons a rest =>
      cases others with
      | nil =>
          simp at hperm
      | cons b more =>
          obtain ⟨hmem, hnewest⟩ := foldl_newer a rest
          obtain ⟨hmem', hnewest'⟩ := foldl_newer b more
          have hfirst := hnewest _ (hperm.mem_iff.mpr hmem')
          have hsecond := hnewest' _ (hperm.mem_iff.mp hmem)
          have heq := h.eq_of_instant (hperm.mem_iff.mpr hmem') hmem (le_antisymm hfirst hsecond)
          simp only [heq]

theorem newest?_map_readBack
    (alerts : List Alert) :
    newest? (alerts.map Alert.readBack) = Option.map Alert.readBack <$> newest? alerts := by
  have hnewer (a b : Alert) : newer a.readBack b.readBack = (newer a b).readBack := by
    unfold newer
    split_ifs with h h' h'
    · rfl
    · exact absurd h h'
    · exact absurd h' h
    · rfl
  have hfold (a : Alert) (rest : List Alert) :
      (rest.map Alert.readBack).foldl newer a.readBack = (rest.foldl newer a).readBack := by
    induction rest generalizing a with
    | nil =>
        rfl
    | cons b rest ih =>
        rw [List.map_cons, List.foldl_cons, hnewer, ih, List.foldl_cons]
  simp only [newest?, sortable_map_readBack]
  split_ifs
  · cases alerts with
    | nil =>
        rfl
    | cons a rest =>
        rw [List.map_cons]
        simp only [hfold]
        rfl
  · rfl

/-! ### Counts -/

theorem ofAlerts_perm
    (hperm : alerts.Perm others) :
    Statistics.ofAlerts others = Statistics.ofAlerts alerts := by
  have hcomm (s : Statistics) (a b : Alert) : (s.add a).add b = (s.add b).add a := by
    unfold Statistics.add
    cases a.status <;> cases b.status <;> cases a.severity <;> cases b.severity <;> rfl
  exact (hperm.foldl_eq' (fun a _ b _ s => hcomm s a b) _).symm

theorem ofAlerts_map_readBack
    (alerts : List Alert) :
    Statistics.ofAlerts (alerts.map Alert.readBack) = Statistics.ofAlerts alerts := by
  simp only [Statistics.ofAlerts, List.foldl_map]
  rfl

/-! ### Limits -/

theorem upTo_map
    {α β : Type} (f : α → β) (limit : Int) (items : List α) :
    upTo limit (items.map f) = (upTo limit items).map f := by
  unfold upTo
  split_ifs
  · rw [List.map_take]
  · rw [List.map_take, List.length_map]

theorem mem_of_upTo
    {α : Type} {limit : Int} {items : List α} {x : α}
    (h : x ∈ upTo limit items) :
    x ∈ items := by
  unfold upTo at h
  split_ifs at h
  · exact List.mem_of_mem_take h
  · exact List.mem_of_mem_take h

end TelemetryAlerts
