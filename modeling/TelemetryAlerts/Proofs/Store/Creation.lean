import TelemetryAlerts.Proofs.Store.Faults

/-!
# Creating an alert

A new alert is taken in with all that belongs to it, or the store stays as it was. In memory
that is one assignment. On a key server the claim of the rule and the device is taken first,
and given back if the alert could not be stored; since it was free before, nothing that was
there is lost. The servers of this file are arbitrary: their keys may hold anything.

**Results.**
* `Indexed.create_of_held`, `Indexed.create_of_fault`, `Indexed.create_of_free`: how a request
  to create an alert ends on any server.
* `create_allOrNothing`: in both stores a request that fails leaves no trace, and one that
  succeeds leaves the alert and nothing else.
-/

namespace TelemetryAlerts

/-! ### In memory -/

namespace Memory

variable {m : Memory} {a : Alert}

/-- What a store in memory becomes when it takes an alert in: the alert stands in the place of
the one with its id, or at the end, and all others stand as before. -/
inductive Gains (a : Alert) (m : Memory) : Memory → Prop where
  | replaces {before after : List Alert} {b : Alert}
      (hsplit : m.alerts = before ++ b :: after)
      (hid : b.id = a.id)
      (hfirst : a.id ∉ before.map Alert.id) :
      Gains a m ⟨before ++ a :: after⟩
  | appends
      (hnew : a.id ∉ m.alerts.map Alert.id) :
      Gains a m ⟨m.alerts ++ [a]⟩

theorem exists_put_of_mem
    {alerts : List Alert}
    (hmem : a.id ∈ alerts.map Alert.id) :
    ∃ before b after, alerts = before ++ b :: after ∧ b.id = a.id ∧
      a.id ∉ before.map Alert.id ∧ put a alerts = before ++ a :: after := by
  induction alerts with
  | nil =>
      simp at hmem
  | cons c rest ih =>
      by_cases hc : c.id = a.id
      · exact ⟨[], c, rest, rfl, hc, by simp, by rw [put, if_pos hc, List.nil_append]⟩
      · have hrest : a.id ∈ rest.map Alert.id := by
          simpa [Ne.symm hc] using hmem
        obtain ⟨before, b, after, rfl, hid, hfirst, hput⟩ := ih hrest
        refine ⟨c :: before, b, after, rfl, hid, ?_, by rw [put, if_neg hc, hput]; rfl⟩
        simpa [Ne.symm hc] using hfirst

theorem gains_insert
    (m : Memory) (a : Alert) :
    m.Gains a (m.insert a) := by
  rw [insert]
  by_cases hmem : a.id ∈ m.alerts.map Alert.id
  · obtain ⟨before, b, after, hsplit, hid, hfirst, hput⟩ := exists_put_of_mem hmem
    rw [hput]
    exact .replaces hsplit hid hfirst
  · rw [put_of_new hmem]
    exact .appends hmem

end Memory

/-! ### On a key server -/

namespace Indexed

open ServerAction

variable {s s' : Server} {a : Alert}

/-- What a server becomes when it takes an alert in: its document, its three entries in
indexes and its claim are there, and everything else is as before. -/
structure Gains (a : Alert) (s s' : Server) : Prop where
  document : s'.find? (alertKey a.id) = some (.text (documentText a))
  indexed : ∀ key ∈ indexKeys a,
    s'.find? key = some (.members (insertMember a.id (s.set key)))
  claimed : s'.find? (claimKey a.rule a.device) = some (.text a.id)
  others : ∀ key, key ≠ alertKey a.id → key ∉ indexKeys a →
    key ≠ claimKey a.rule a.device → s'.find? key = s.find? key
  published : s'.published = s.published
  drawn : s'.drawn = s.drawn

/-- A claim that is held stays, and so does everything else. -/
theorem create_of_held
    (h : (s.find? (claimKey a.rule a.device)).isSome = true) :
    (create a).runOn s = (.error (.openAlertExists a.rule a.device), s) ∧
      ∀ e, (create a).runWith Line.execute (.failing s 1 e) =
        (.error (.openAlertExists a.rule a.device), .failing s 0 e) := by
  refine ⟨?_, fun e => ?_⟩
  · rw [runOn_eq, runWith_create, execute_setIfAbsent_of_held h]
  · rw [runWith_create, Line.execute_failing_succ, execute_setIfAbsent_of_held h]

/-- If the alert cannot be stored, the claim is given back, and nothing else has changed. -/
theorem create_of_fault
    (h : s.find? (claimKey a.rule a.device) = none)
    (e : Failure) :
    (create a).runWith Line.execute (.failing s 1 e) =
      (.error e, ⟨(reserved a s).erase (claimKey a.rule a.device), []⟩) := by
  rw [runWith_create, Line.execute_failing_succ, execute_setIfAbsent_of_free h]
  simp only [Line.execute_failing_zero, run_deleteIfEquals_of_held text?_reserved]

/-- A free claim is taken, and the alert is stored and entered in its indexes, if these are
sets. -/
theorem create_of_free
    (h : s.find? (claimKey a.rule a.device) = none)
    (htakes : ∀ key ∈ indexKeys a, s.TakesMembers key) :
    ∃ s', (create a).runOn s = (.ok (), s') ∧ Gains a s s' := by
  have hindex (key : String) (hkey : key ∈ indexKeys a) :
      (reserved a s).find? key = s.find? key :=
    find?_reserved_of_isIndex (isIndex_of_mem_indexKeys hkey)
  obtain ⟨s', hstore, henters, hpublished, hdrawn⟩ := execute_setAndIndex_of_takesMembers a
    fun key hkey => (htakes key hkey).congr (hindex key hkey)
  refine ⟨s', ?_, henters.stored, fun key hkey => ?_, ?_, fun key halert hkey hclaim => ?_,
    hpublished, hdrawn⟩
  · rw [runOn_eq, runWith_create, execute_setIfAbsent_of_free h]
    simp only [hstore]
  · rw [henters.indexed key hkey, Server.set_congr (hindex key hkey)]
  · rw [henters.find?_claimKey, reserved, Server.find?_write_self]
  · rw [henters.others key hkey, Server.find?_write_of_ne _ _ halert, reserved,
      Server.find?_write_of_ne _ _ hclaim]

/-- An alert that was created could be entered in its indexes. -/
theorem takesMembers_of_create
    (hrun : (create a).runOn s = (.ok (), s'))
    (h : s.find? (claimKey a.rule a.device) = none) :
    ∀ key ∈ indexKeys a, s.TakesMembers key := by
  intro key hkey
  rw [runOn_eq, runWith_create, execute_setIfAbsent_of_free h] at hrun
  rcases hstore : Server.execute (.setAndIndex (alertKey a.id) (documentText a)
    [tenantKey a.tenant, pairKey a.rule a.device, openKey a.tenant a.device] a.id)
      (reserved a s) with ⟨e | u, s₁⟩
  · simp only [hstore] at hrun
    split at hrun <;> cases hrun
  · have hadded : (Server.addToAll a.id (indexKeys a)
        (.ok (), (reserved a s).write (alertKey a.id) (.text (documentText a)))).1 = .ok () :=
      congrArg Prod.fst hstore
    refine (Server.takesMembers_of_addToAll a.id hadded key hkey).congr ?_
    rw [Server.find?_write_of_ne _ _ ((isIndex_of_mem_indexKeys hkey).ne_alertKey a.id),
      find?_reserved_of_isIndex (isIndex_of_mem_indexKeys hkey)]

end Indexed

open Indexed

/-- A request to create an alert does all or nothing, whatever the stores hold. If the rule
has an open alert for the device already, or if storing the alert fails before it takes
effect, the request fails and the store is as before; a server has only noted that the claim
changed. If it succeeds, the store has gained the alert and nothing else. -/
theorem create_allOrNothing
    (m : Memory) (s : Server) (now : Moment) (a : Alert) (e : Failure) :
    (if m.hasOpen a.rule a.device then
        m.serve now (.create a) = (.error (.openAlertExists a.rule a.device), m)
      else ∃ m', m.serve now (.create a) = (.ok (), m') ∧ m.Gains a m') ∧
    (if (s.find? (claimKey a.rule a.device)).isSome then
        (serve now (.create a)).runOn s = (.error (.openAlertExists a.rule a.device), s) ∧
        (serve now (.create a)).runWith Line.execute (.failing s 1 e) =
          (.error (.openAlertExists a.rule a.device), .failing s 0 e)
      else
        (∃ changes, (serve now (.create a)).runWith Line.execute (.failing s 1 e) =
          (.error e, ⟨{ s with changes := changes }, []⟩)) ∧
        ((∃ s', (serve now (.create a)).runOn s = (.ok (), s')) ↔
          ∀ key ∈ indexKeys a, s.TakesMembers key) ∧
        ∀ s', (serve now (.create a)).runOn s = (.ok (), s') → Gains a s s') := by
  constructor
  · split_ifs with hopen
    · rw [Memory.serve, if_pos hopen]
    · exact ⟨m.insert a, by rw [Memory.serve, if_neg hopen], m.gains_insert a⟩
  · split_ifs with hheld
    · exact ⟨(create_of_held hheld).1, (create_of_held hheld).2 e⟩
    · have hfree : s.find? (claimKey a.rule a.device) = none := by simpa using hheld
      refine ⟨⟨s.changes ++ [claimKey a.rule a.device] ++ [claimKey a.rule a.device], ?_⟩,
        ⟨fun hreturns => ?_, fun htakes => ?_⟩, fun s' hrun => ?_⟩
      · rw [serve, create_of_fault hfree, reserved, Server.erase_write _ hfree]
      · obtain ⟨s', hrun⟩ := hreturns
        exact takesMembers_of_create hrun hfree
      · obtain ⟨s', hrun, -⟩ := create_of_free hfree htakes
        exact ⟨s', hrun⟩
      · obtain ⟨s₁, hrun₁, hgains⟩ :=
          create_of_free hfree (takesMembers_of_create hrun hfree)
        rw [serve, hrun₁] at hrun
        cases hrun
        exact hgains

end TelemetryAlerts
