import TelemetryAlerts.Proofs.Store.Holding

/-!
# The newest alerts

A listing picks the alerts of a tenant that are asked for, sorts them by the time at which they
were triggered, and cuts the list off. So what is listed are the newest of the alerts asked for,
and what is left out is no newer. The two kinds of store pick the alerts in different ways, and
list equally new ones in different orders.

**Results.**
* `areNewest_take`: the first alerts of a sorted list are the newest.
* `newest_listed`: what a store lists of a tenant after any run.
-/

namespace TelemetryAlerts

variable {alerts wanted found : List Alert} {n : Nat} {a b : Alert}

/-- Whether alerts go from the newest to the oldest. -/
def AreNewestFirst (alerts : List Alert) : Prop :=
  alerts.Pairwise fun a b => a.triggeredAt.IsNoEarlier b.triggeredAt

/-- Whether alerts are the newest of those that are wanted, up to a number. -/
structure AreNewest (wanted : List Alert) (n : Nat) (found : List Alert) : Prop where
  length : found.length = min n wanted.length
  isWanted : ∀ a ∈ found, a ∈ wanted
  nodup : (found.map Alert.id).Nodup
  newestFirst : AreNewestFirst found
  leftOut : ∀ a ∈ wanted, a ∉ found → ∀ b ∈ found, b.triggeredAt.IsNoEarlier a.triggeredAt

theorem isAware_eq_of_comparable
    (h : comparable (alerts.map Alert.triggeredAt) = true)
    (ha : a ∈ alerts)
    (hb : b ∈ alerts) :
    a.triggeredAt.isAware = b.triggeredAt.isAware := by
  simp only [comparable, Bool.or_eq_true, List.all_map, List.all_eq_true, Function.comp_apply,
    Bool.not_eq_true'] at h
  rcases h with haware | hnaive
  · rw [haware a ha, haware b hb]
  · rw [hnaive a ha, hnaive b hb]

theorem comparable_of_subset
    (h : comparable (alerts.map Alert.triggeredAt) = true)
    (hsub : wanted ⊆ alerts) :
    comparable (wanted.map Alert.triggeredAt) = true := by
  simp only [comparable, Bool.or_eq_true, List.all_map, List.all_eq_true, Function.comp_apply,
    Bool.not_eq_true'] at h ⊢
  exact h.imp (fun haware a ha => haware a (hsub ha)) fun hnaive a ha => hnaive a (hsub ha)

/-- Alerts whose times can be compared are sorted. -/
theorem newestFirst_of_comparable
    (h : comparable (alerts.map Alert.triggeredAt) = true) :
    ∃ sorted, newestFirst alerts = .ok sorted ∧ sorted.Perm alerts ∧ AreNewestFirst sorted := by
  have hsortable : sortable alerts = true := by
    rw [sortable, h, Bool.or_true]
  have hperm := List.mergeSort_perm alerts
    fun a b => decide (b.triggeredAt.instant ≤ a.triggeredAt.instant)
  refine ⟨_, if_pos hsortable, hperm, (pairwise_sorted alerts).imp_of_mem ?_⟩
  intro a b ha hb hle
  exact ⟨isAware_eq_of_comparable h (hperm.mem_iff.mp ha) (hperm.mem_iff.mp hb), hle⟩

/-- The first alerts of a sorted list are the newest. -/
theorem areNewest_take
    {sorted : List Alert}
    (hids : (wanted.map Alert.id).Nodup)
    (hperm : sorted.Perm wanted)
    (hsorted : AreNewestFirst sorted)
    (n : Nat) :
    AreNewest wanted n (sorted.take n) := by
  have hsplit : AreNewestFirst (sorted.take n ++ sorted.drop n) := by
    rwa [List.take_append_drop]
  obtain ⟨hfirst, -, hleft⟩ := List.pairwise_append.mp hsplit
  refine ⟨?_, fun a ha => hperm.mem_iff.mp (List.mem_of_mem_take ha), ?_, hfirst, ?_⟩
  · rw [List.length_take, hperm.length_eq]
  · exact ((hperm.map Alert.id).nodup_iff.mpr hids).sublist ((List.take_sublist n sorted).map _)
  · intro a ha hout b hb
    have hmem : a ∈ sorted.take n ++ sorted.drop n := by
      rw [List.take_append_drop]
      exact hperm.mem_iff.mpr ha
    exact hleft b hb a ((List.mem_append.mp hmem).resolve_left hout)

/-- A sorted and cut list has the newest alerts. -/
theorem exists_areNewest
    (hids : (wanted.map Alert.id).Nodup)
    (hcomparable : comparable (wanted.map Alert.triggeredAt) = true)
    (n : Nat) :
    ∃ found, (newestFirst wanted).map (upTo (n : Int)) = .ok found ∧ AreNewest wanted n found := by
  obtain ⟨sorted, hsort, hperm, hsorted⟩ := newestFirst_of_comparable hcomparable
  refine ⟨sorted.take n, ?_, areNewest_take hids hperm hsorted n⟩
  rw [hsort]
  exact congrArg Except.ok (if_pos (Int.natCast_nonneg n))

namespace Store

variable {start st : Store} {v : List Alert} {tenant : String}

/-- What is picked from the alerts of a tenant is sorted and cut off. -/
theorem Lists.exists_newest
    (hv : st.Lists tenant v)
    (hcomparable : comparable (v.map Alert.triggeredAt) = true)
    (keep : Alert → Bool) (n : Nat) :
    ∃ found, (newestFirst (v.filter keep)).map (upTo (n : Int)) = .ok found ∧
      AreNewest (v.filter keep) n found :=
  exists_areNewest (hv.nodup.sublist (List.filter_sublist.map Alert.id))
    (comparable_of_subset hcomparable List.filter_sublist.subset) n

/-- **A listing has the newest alerts that are asked for.** After every run that gives no id to
two new alerts, on both kinds of store, and whichever commands of the run fail on a key server:
if the alerts of a tenant can be read and their times compared, a listing of them with any filter
or for any rule has as many as there are, up to the limit, each once and the newest first; none
that is left out is newer. All open alerts of a device are listed in this order if the names of
the tenant and of the device hold no colon. Nothing is changed. -/
theorem newest_listed
    {turns : List Turn}
    (hstart : start.IsNew)
    (hids : (createdIds turns).Nodup)
    (hreads : (start.after turns).Reads (·.tenant = tenant)) :
    ∃ v, (start.after turns).Lists tenant v ∧
      (comparable (v.map Alert.triggeredAt) = true → ∀ now,
        (∀ filter (n : Nat), ∃ found,
          (start.after turns).serve now (.list tenant filter n) =
              (.ok found, start.after turns) ∧
            AreNewest (v.filter filter.passes) n found) ∧
        (∀ rule (n : Nat), ∃ found,
          (start.after turns).serve now (.ofRule tenant rule n) =
              (.ok found, start.after turns) ∧
            AreNewest (v.filter fun a => a.rule == rule) n found) ∧
        ∀ device, ':' ∉ tenant.toList → ':' ∉ device.toList → ∃ found,
          (start.after turns).serve now (.openOn tenant device) =
              (.ok found, start.after turns) ∧
            found.Perm (v.filter fun a => a.device == device && a.isOpen) ∧
            AreNewestFirst found) := by
  have hsound := hstart.sound_after hids
  obtain ⟨v, hanswers⟩ := hsound.exists_answers hreads
  refine ⟨v, hanswers.lists, fun hcomparable now => ⟨fun filter n => ?_, fun rule n => ?_,
    fun device htenant hdevice => ?_⟩⟩
  · obtain ⟨found, hfound, hnewest⟩ := hanswers.lists.exists_newest hcomparable filter.passes n
    exact ⟨found, Prod.ext ((hanswers.list now filter n).trans hfound) (hsound.serve_read now rfl),
      hnewest⟩
  · obtain ⟨found, hfound, hnewest⟩ := hanswers.lists.exists_newest hcomparable _ n
    exact ⟨found, Prod.ext ((hanswers.ofRule now rule n).trans hfound)
      (hsound.serve_read now rfl), hnewest⟩
  · obtain ⟨w, hperm, hopen⟩ := hanswers.openOn now device htenant hdevice
    obtain ⟨found, hfound, hsame, hsorted⟩ := newestFirst_of_comparable
      (comparable_of_subset hcomparable fun a ha =>
        List.mem_of_mem_filter (hperm.mem_iff.mp ha))
    exact ⟨found, Prod.ext (hopen.trans hfound) (hsound.serve_read now rfl), hsame.trans hperm,
      hsorted⟩

theorem newest_listed_firstRun :
    IsNew (server {}) ∧ (createdIds firstRun).Nodup ∧
      ((server {}).after firstRun).Reads (·.tenant = "tenant-a") ∧
      ∃ v found, comparable (v.map Alert.triggeredAt) = true ∧
        ((server {}).after firstRun).serve firstNoon (.list "tenant-a" {} 1) =
          (.ok found, (server {}).after firstRun) ∧
        AreNewest v 1 found := by
  have hreads : ((server {}).after firstRun).Reads (·.tenant = "tenant-a") := reads_firstRun _
  obtain ⟨v, hlists, hnewest⟩ := newest_listed IsNew.server (by decide) hreads
  have hnoon (a : Alert) (ha : a ∈ v) : a.triggeredAt = firstNoon := by
    obtain ⟨hheld, -⟩ := (hlists.mem a).mp ha
    rw [server_firstRun] at hheld
    obtain ⟨b, hb, hread⟩ := hheld
    obtain ⟨-, rfl⟩ := Alert.reading_eq_ok_iff.mp hread
    obtain ⟨c, hc, -, htext⟩ := mirrors_firstRun.exists_of_stored hb
    rw [List.mem_singleton.mp hc] at htext
    exact (congrArg Alert.triggeredAt (Alert.outline_of_storedText htext) :)
  have hcomparable : comparable (v.map Alert.triggeredAt) = true := by
    simp only [comparable, List.all_map, Bool.or_eq_true, List.all_eq_true]
    refine Or.inl fun a ha => ?_
    rw [Function.comp_apply, hnoon a ha]
    rfl
  obtain ⟨found, hfound, hnewestFound⟩ := (hnewest hcomparable firstNoon).1 {} 1
  have hall : v.filter (Filter.passes {}) = v := List.filter_eq_self.mpr fun a _ => rfl
  rw [hall] at hnewestFound
  exact ⟨.server, by decide, hreads, v, found, hcomparable, hfound, hnewestFound⟩

/-- On a key server a listing of the alerts of a tenant fails if one of them has a number that
is too long. -/
theorem not_newest_listed_oneMoreRun :
    ¬ ∀ (start : Store) (turns : List Turn) (tenant : String) (now : Moment) (filter : Filter)
        (n : Nat),
      start.IsNew → (createdIds turns).Nodup →
        comparable ((turns.filterMap Turn.created?).map Alert.triggeredAt) = true →
          ∃ found, ((start.after turns).serve now (.list tenant filter n)).1 = .ok found := by
  intro hall
  obtain ⟨count, s, a, hafter, hstored, ⟨-, htenant, -⟩, hlong⟩ := exists_long_oneMoreRun
  obtain ⟨found, hfound⟩ := hall (server {}) (oneMoreRun count) "tenant-a" firstNoon {} 1 .server
    (nodup_oneMoreRun count) (by rfl)
  have hsound := IsNew.server.sound_after (nodup_oneMoreRun count)
  rw [hafter] at hsound hfound
  obtain ⟨e, he⟩ :=
    (hsound.exists_error (not_reads hstored htenant hlong) firstNoon).2 {} (1 : Nat)
  rw [he] at hfound
  cases hfound

end Store
end TelemetryAlerts
