import TelemetryAlerts.Proofs.Store.Claims
import TelemetryAlerts.Proofs.Store.Refinement

/-!
# Failing commands

A request may be cut short by a command that fails without effect. What it leaves on the
server depends on how far it came: a new alert is taken back, but an alert whose end was
stored may keep the claim of its rule and device.

**Results.**
* `mirrors_reached`: a run without failures leaves a server that mirrors some alerts.
* `recoverable_iff`: a failing command leaves every claim in use, unless it fails after
  the end of an alert was stored; then the claim of the alert is held for good.
-/

namespace TelemetryAlerts

/-- The alert that a turn asks to create. -/
def Turn.created? (t : Turn) : Option Alert :=
  match t.request with
  | .create a => some a
  | _ => none

/-! ### One failure -/

namespace Line

/-- A server on which one command fails, after a number of commands. -/
def failing (s : Server) (k : Nat) (e : Failure) : Line :=
  ⟨s, List.replicate k none ++ [some e]⟩

variable {s : Server} {k : Nat} {e : Failure} {c : Command}

@[simp] theorem execute_failing_zero :
    execute c (failing s 0 e) = (.error e, ⟨s, []⟩) :=
  rfl

@[simp] theorem execute_failing_succ :
    execute c (failing s (k + 1) e) =
      ((Server.execute c s).1, failing (Server.execute c s).2 k e) :=
  rfl

@[simp] theorem execute_nil :
    execute c ⟨s, []⟩ = ((Server.execute c s).1, ⟨(Server.execute c s).2, []⟩) :=
  rfl

theorem faults_failing_ne_nil :
    (failing s k e).faults ≠ [] := by
  simp [failing]

end Line

namespace Indexed

open ServerAction

variable {s : Server} {a : Alert} {alerts : List Alert} {listed claimed : String → Prop}

/-- The commands after the end of an alert was stored: if one of four fails, the alert
keeps its claim. -/
theorem close_failing
    (h : Mirrors alerts listed claimed s)
    (ha : a ∈ alerts)
    (hclaimed : claimed a.id)
    (k : Nat) (e : Failure) :
    (k < 4 ∧ ∃ s' listed', (close a).runWith Line.execute (.failing s k e) = (.error e, ⟨s', []⟩) ∧
        Mirrors alerts listed' claimed s') ∨
      4 ≤ k ∧ ∃ s' k',
        (close a).runWith Line.execute (.failing s k e) = (.ok (), .failing s' k' e) := by
  have hindex : IsIndex (openKey a.tenant a.device) := by simp [IsIndex]
  obtain ⟨s₁, hrun, hset, hisSet, hsame⟩ := Server.dropMembers_spec a.id (h.sets _ hindex)
  have hunlisted := h.unlist ha hset hisSet (h.filled_dropMembers hrun) hsame
  have hremove : Server.execute (.removeMembers (openKey a.tenant a.device) [a.id]) s =
      (.ok (), s₁) := by
    simp [Server.execute, hrun]
  have hget : Server.execute (.get (claimKey a.rule a.device)) s₁ = (.ok (some a.id), s₁) := by
    have hentry := (hunlisted.ofClaim a.rule a.device _).mpr ⟨a, ha, rfl, rfl, hclaimed⟩
    simp [Server.execute, Server.text?, hentry]
  have hwatch : Server.execute (.watch (claimKey a.rule a.device)) s₁ =
      (.ok s₁.changes.length, s₁) := rfl
  have hdelete : Server.execute
      (.deleteIfUnchanged (claimKey a.rule a.device) s₁.changes.length) s₁ =
        (.ok true, s₁.erase (claimKey a.rule a.device)) := by
    simp [Server.execute]
  simp only [runWith_close, runWith_deleteIfEquals]
  rcases k with _ | _ | _ | _ | k
  · exact Or.inl ⟨by decide, s, listed, by simp, h⟩
  · exact Or.inl ⟨by decide, s₁, _, by simp [hremove], hunlisted⟩
  · exact Or.inl ⟨by decide, s₁, _, by simp [hremove, hwatch], hunlisted⟩
  · exact Or.inl ⟨by decide, s₁, _, by simp [hremove, hwatch, hget], hunlisted⟩
  · exact Or.inr ⟨by omega, s₁.erase (claimKey a.rule a.device), k,
      by simp [hremove, hwatch, hget, hdelete]⟩

/-- If a command fails, the end of an alert was not stored yet, or the alert keeps its
claim. -/
theorem resolve_failing
    (h : Mirrors alerts (OpenIn alerts) (OpenIn alerts) s)
    (ha : a ∈ alerts)
    (hlegible : a.isLegible = true)
    (now : Moment) (tenant : String) (reason? : Option String) (k : Nat) (e : Failure) :
    let run := (serve now (.resolve a.id tenant reason?)).runWith Line.execute (.failing s k e)
    (k < 2 ∧ run = (.error e, ⟨s, []⟩)) ∨
      (2 ≤ k ∧ k < 6 ∧ a.isOpen = true ∧ ∃ s' listed', run = (.error e, ⟨s', []⟩) ∧
        Mirrors (Memory.put (a.resolve reason? now).readBack alerts) listed' (OpenIn alerts) s') ∨
      (run.2.faults ≠ [] ∧ (a.tenant = tenant → a.isOpen = true → 6 ≤ k)) := by
  intro run
  have hrun : run = _ := runWith_resolve now a.id tenant reason? (Line.failing s k e)
  rw [runWith_update] at hrun
  cases k with
  | zero =>
      rw [runWith_loadFor_of_error tenant Line.execute_failing_zero] at hrun
      exact Or.inl ⟨by decide, hrun⟩
  | succ k =>
      have hget : Line.execute (.get (alertKey a.id)) (.failing s (k + 1) e) =
          (.ok (some (documentText a)), .failing s k e) := by
        rw [Line.execute_failing_succ, h.get ha]
      rw [runWith_loadFor_of_legible tenant hget hlegible] at hrun
      split_ifs at hrun with htenant
      · simp only at hrun
        split_ifs at hrun with hopen
        · cases k with
          | zero =>
              rw [Line.execute_failing_zero] at hrun
              exact Or.inl ⟨by decide, hrun⟩
          | succ k =>
              have hsaved := h.save (a := (a.resolve reason? now).readBack) ha rfl rfl rfl rfl
              have hmem : (a.resolve reason? now).readBack ∈
                  Memory.put (a.resolve reason? now).readBack alerts :=
                (Memory.mem_put h.ids).mpr (Or.inl rfl)
              have hcomm : a.readBack.resolve reason? now = (a.resolve reason? now).readBack := rfl
              rw [Line.execute_failing_succ, execute_save, hcomm] at hrun
              rcases close_failing hsaved hmem ⟨a, ha, rfl, hopen⟩ k e with
                ⟨hk, s', listed', hclose, hmirrors⟩ | ⟨hk, s', k', hclose⟩
              · simp only [hclose] at hrun
                exact Or.inr (Or.inl ⟨by omega, by omega, hopen, s', listed', hrun, hmirrors⟩)
              · simp only [hclose] at hrun
                refine Or.inr (Or.inr ⟨?_, fun _ _ => by omega⟩)
                rw [hrun]
                exact Line.faults_failing_ne_nil
        · refine Or.inr (Or.inr ⟨?_, fun _ hopen' => absurd hopen' hopen⟩)
          rw [hrun]
          exact Line.faults_failing_ne_nil
      · refine Or.inr (Or.inr ⟨?_, fun htenant' => absurd htenant' htenant⟩)
        rw [hrun]
        exact Line.faults_failing_ne_nil

theorem run_deleteIfEquals_of_held
    {key value : String}
    (h : s.text? key = .ok (some value)) :
    (deleteIfEquals key value).runWith Line.execute ⟨s, []⟩ =
      (.ok true, ⟨s.erase key, []⟩) := by
  simp [runWith_deleteIfEquals, Server.execute, h]

/-- If a command fails, a new alert is taken back. -/
theorem create_failing
    (h : Kept s)
    (a : Alert) (k : Nat) (e : Failure) :
    let run := (create a).runWith Line.execute (.failing s k e)
    (∀ key, run.2.server.find? key = s.find? key) ∨ run.2.faults ≠ [] := by
  intro run
  have hrun : run = _ := runWith_create a (Line.failing s k e)
  cases k with
  | zero =>
      rw [Line.execute_failing_zero] at hrun
      exact Or.inl fun key => by rw [hrun]
  | succ k =>
      rw [Line.execute_failing_succ] at hrun
      by_cases hheld : (s.find? (claimKey a.rule a.device)).isSome = true
      · rw [execute_setIfAbsent_of_held hheld] at hrun
        rw [hrun]
        exact Or.inr Line.faults_failing_ne_nil
      · have hfree : s.find? (claimKey a.rule a.device) = none := by simpa using hheld
        simp only [execute_setIfAbsent_of_free hfree] at hrun
        cases k with
        | zero =>
            simp only [Line.execute_failing_zero, run_deleteIfEquals_of_held text?_reserved]
              at hrun
            rw [hrun]
            exact Or.inl (find?_erase_reserved hfree)
        | succ k =>
            obtain ⟨s', hstore, -⟩ := (h.reserved a).execute_setAndIndex a
            simp only [Line.execute_failing_succ, hstore] at hrun
            rw [hrun]
            exact Or.inr Line.faults_failing_ne_nil

/-! ### Runs without failures -/

theorem run_loadAll_snd
    (h : Kept s)
    (now : Moment) (ids : List String) :
    ((loadAll now ids).runOn s).2 = s := by
  rw [loadAll_eq, runOn_eq]
  split_ifs
  · rfl
  · obtain ⟨bs, hbs, -⟩ := h.texts ids
    rw [runWith_bind, runWith_command]
    simp only [Server.execute]
    rw [allOfStored_documentText now hbs, runWith_lift]

theorem run_members_snd
    {α : Type}
    (h : Kept s)
    (now : Moment) (key : String) (f : List Alert → ServerAction α)
    (hf : ∀ found, ((f found).runOn s).2 = s) :
    (ServerAction.runOn
      (do
        let ids ← command (.members key)
        f (← loadAll now ids)) s).2 = s := by
  have hmembers : (Server.execute (.members key) s).2 = s := by
    simp only [Server.execute]
    split <;> rfl
  rw [runOn_eq, runWith_bind, runWith_command]
  rcases hrun : Server.execute (.members key) s with ⟨_ | ids, s'⟩
  · rw [hrun] at hmembers
    exact hmembers
  · rw [hrun] at hmembers
    obtain rfl : s' = s := hmembers
    have hload := run_loadAll_snd h now ids
    rw [runOn_eq] at hload
    simp only [runWith_bind]
    rcases hfound : (loadAll now ids).runWith Server.execute s' with ⟨_ | found, s''⟩
    · rw [hfound] at hload
      exact hload
    · rw [hfound] at hload
      obtain rfl : s'' = s' := hload
      exact hf found

theorem run_listed_snd
    (h : Kept s)
    (now : Moment) (key : String) (keep : Alert → Bool) :
    ((Indexed.listed now key keep).runOn s).2 = s :=
  run_members_snd h now key (fun found => liftM (newestFirst (found.filter keep))) fun _ => rfl

/-- A change that leaves an alert open or closed goes from one mirror to another. -/
theorem change_mirrors
    (h : Mirrors alerts (OpenIn alerts) (OpenIn alerts) s)
    {now : Moment} {r : Request} {c : Change}
    (hc : r.change? now = some c)
    (hopen : ∀ a, c.may a = true → (c.apply a).isOpen = a.isOpen) :
    ∃ alerts', Mirrors alerts' (OpenIn alerts') (OpenIn alerts')
        ((update now c.id c.tenant c.may c.apply).runOn s).2 ∧
      Memory.Evolves now r alerts alerts' := by
  rcases run_update_or h now c with ⟨o, hrun, -⟩ | ⟨a, ha, ⟨hid, htenant, hmay⟩, hrun⟩
  · rw [hrun]
    exact ⟨alerts, h, .same⟩
  · have hsame : (c.apply a).readBack.id = a.id := c.id_apply a
    have hsaved := h.save ha hsame (c.tenant_apply a) (c.rule_apply a) (c.device_apply a)
    rw [hrun, ← hsame]
    exact ⟨Memory.put (c.apply a).readBack alerts,
      mirrors_insert (m := ⟨alerts⟩) hsaved h.ids ha hsame (hopen a hmay),
      .changed hc ha hid htenant hmay rfl⟩

/-- So does the end of an alert. -/
theorem resolve_mirrors
    (h : Mirrors alerts (OpenIn alerts) (OpenIn alerts) s)
    (now : Moment) (id tenant : String) (reason? : Option String) :
    ∃ alerts', Mirrors alerts' (OpenIn alerts') (OpenIn alerts')
        ((serve now (.resolve id tenant reason?)).runOn s).2 ∧
      Memory.Evolves now (.resolve id tenant reason?) alerts alerts' := by
  have hserve := @runWith_resolve _ Server.execute now id tenant reason? s
  rcases run_update_or h now (.resolve now id tenant reason?) with
    ⟨o, hrun, ho⟩ | ⟨a, ha, ⟨hid, htenant, hmay⟩, hrun⟩
  · refine ⟨alerts, ?_, .same⟩
    have hupdate : (update now id tenant Alert.isOpen fun a => a.resolve reason? now).runWith
        Server.execute s = (o, s) := hrun
    rw [hupdate] at hserve
    rw [runOn_eq, hserve]
    rcases o with _ | _ | a
    · exact h
    · exact h
    · exact absurd rfl (ho a)
  · let b : Alert := (a.resolve reason? now).readBack
    have hsaved := h.save (a := b) ha rfl rfl rfl rfl
    obtain ⟨s', hclose, hclosed⟩ := run_close hsaved ((Memory.mem_put h.ids).mpr (Or.inl rfl))
      ⟨a, ha, rfl, hmay⟩
    have hupdate : (update now id tenant Alert.isOpen fun a => a.resolve reason? now).runWith
        Server.execute s = (.ok (some b), s.write (alertKey b.id) (.text (documentText b))) :=
      hrun
    rw [hupdate] at hserve
    simp only [← runOn_eq, hclose] at hserve
    refine ⟨Memory.put b alerts, ?_, .changed rfl ha hid htenant hmay rfl⟩
    rw [hserve]
    exact mirrors_close (m := ⟨alerts⟩) hclosed h.ids rfl

/-- Every request goes from one mirror to another, if it creates no alert twice. -/
theorem serve_mirrors
    (h : Mirrors alerts (OpenIn alerts) (OpenIn alerts) s)
    (now : Moment) (r : Request)
    (hcreate : ∀ a, r = .create a → a.id ∉ alerts.map Alert.id ∧ a.isOpen = true) :
    ∃ alerts', Mirrors alerts' (OpenIn alerts') (OpenIn alerts') ((serve now r).runOn s).2 ∧
      Memory.Evolves now r alerts alerts' := by
  have hread (hsame : ((serve now r).runOn s).2 = s) :
      ∃ alerts', Mirrors alerts' (OpenIn alerts') (OpenIn alerts') ((serve now r).runOn s).2 ∧
        Memory.Evolves now r alerts alerts' :=
    ⟨alerts, by rw [hsame]; exact h, .same⟩
  cases r with
  | create a =>
      obtain ⟨hnew, hopen⟩ := hcreate a rfl
      have hrun := run_create h hnew
      split_ifs at hrun
      · exact hread (by rw [serve, hrun])
      · obtain ⟨s', hrun, hmirrors⟩ := hrun
        refine ⟨Memory.put a alerts, ?_, .created rfl⟩
        rw [serve, hrun, Memory.put_of_new hnew]
        exact mirrors_append hmirrors h.ids hnew hopen
  | get id tenant =>
      exact hread (by rw [serve, run_loadFor h])
  | openOn tenant device =>
      exact hread (run_listed_snd h.kept now _ _)
  | latestOf rule device =>
      exact hread (run_members_snd h.kept now _ (fun found => liftM (newest? found)) fun _ => rfl)
  | acknowledge id tenant who? notes? =>
      rw [serve, runOn_bind_pure_snd]
      exact change_mirrors h (c := .acknowledge now id tenant who? notes?) rfl
        (Change.isOpen_acknowledge now id tenant who? notes?)
  | resolve id tenant reason? =>
      exact resolve_mirrors h now id tenant reason?
  | recordNotifications id tenant count =>
      rw [serve, runOn_bind_pure_snd]
      exact change_mirrors h (c := .recordNotifications now id tenant count) rfl fun _ _ => rfl
  | markEscalated id tenant at_ =>
      rw [serve, runOn_bind_pure_snd]
      exact change_mirrors h (c := .markEscalated id tenant at_) rfl fun _ _ => rfl
  | list tenant filter limit =>
      refine hread ?_
      rw [serve, runOn_bind_pure_snd]
      exact run_listed_snd h.kept now _ _
  | ofRule tenant rule limit =>
      refine hread ?_
      rw [serve, runOn_bind_pure_snd]
      exact run_listed_snd h.kept now _ _
  | statistics tenant =>
      exact hread (run_members_snd h.kept now _
        (fun found => pure (Statistics.ofAlerts found)) fun _ => rfl)

/-- A run without failures leaves a server that mirrors some alerts. -/
theorem mirrors_reached
    {turns : List Turn}
    (h : Mirrors alerts (OpenIn alerts) (OpenIn alerts) s)
    (hids : ((alerts ++ turns.filterMap Turn.created?).map Alert.id).Nodup)
    (hopened : ∀ a ∈ turns.filterMap Turn.created?, a.isOpen = true) :
    ∃ alerts', Mirrors alerts' (OpenIn alerts') (OpenIn alerts') (reached s turns) ∧
      alerts'.map Alert.origin ⊆
        (alerts ++ turns.filterMap Turn.created?).map Alert.origin := by
  induction turns generalizing s alerts with
  | nil =>
      exact ⟨alerts, h, by simp⟩
  | cons t turns ih =>
      have hcreated (a : Alert) (hr : t.request = .create a) :
          (t :: turns).filterMap Turn.created? = a :: turns.filterMap Turn.created? := by
        simp [Turn.created?, hr]
      have hrest : (turns.filterMap Turn.created?).Sublist
          ((t :: turns).filterMap Turn.created?) :=
        (List.sublist_cons_self t turns).filterMap _
      have hnew (a : Alert) (hr : t.request = .create a) : a.id ∉ alerts.map Alert.id := by
        rw [hcreated a hr, List.map_append, List.map_cons] at hids
        exact fun hmem => (List.nodup_append.mp hids).2.2 _ hmem _ (by simp) rfl
      obtain ⟨alerts₁, h₁, hevolves⟩ := serve_mirrors h t.now t.request
        fun a hr => ⟨hnew a hr, hopened a (by rw [hcreated a hr]; simp)⟩
      rcases hevolves.map_origin h.ids with horigin | ⟨a, hr, rfl⟩
      · have hsameIds : alerts₁.map Alert.id = alerts.map Alert.id := by
          have hfst := congrArg (List.map Prod.fst) horigin
          simpa [Alert.origin, Function.comp_def] using hfst
        obtain ⟨alerts', h', hsub⟩ := ih h₁
          (by
            rw [List.map_append, hsameIds, ← List.map_append]
            exact hids.sublist (((List.Sublist.refl alerts).append hrest).map _))
          fun a ha => hopened a (hrest.subset ha)
        refine ⟨alerts', h', fun o ho => ?_⟩
        have hmem := hsub ho
        rw [List.map_append, horigin, ← List.map_append] at hmem
        exact (((List.Sublist.refl alerts).append hrest).map Alert.origin).subset hmem
      · rw [Memory.put_of_new (hnew a hr)] at h₁
        rw [hcreated a hr] at hids hopened ⊢
        obtain ⟨alerts', h', hsub⟩ := ih h₁
          (by rw [List.append_assoc]; exact hids)
          fun b hb => hopened b (List.mem_cons_of_mem _ hb)
        rw [List.append_assoc] at hsub
        exact ⟨alerts', h', hsub⟩

/-! ### Claims after a failure -/

/-- Whether the claim of a rule and a device is held for nothing but an open alert of
theirs that is stored, and listed among the open ones of its device. -/
def Recoverable (rule device : String) (s : Server) : Prop :=
  (s.find? (claimKey rule device)).isSome = true →
    ∃ a, Stored s a ∧ a.isOpen = true ∧ a.rule = rule ∧ a.device = device ∧
      ∀ now, ∃ found, ((serve now (.openOn a.tenant a.device)).runOn s).1 = .ok found ∧
        a.readBack ∈ found

/-- Whether the claim of a rule and a device is held, and no open alert of theirs is
stored. -/
def Blocked (rule device : String) (s : Server) : Prop :=
  (s.find? (claimKey rule device)).isSome = true ∧
    ∀ a, Stored s a → a.isOpen = true → ¬ (a.rule = rule ∧ a.device = device)

theorem Blocked.not_recoverable
    {rule device : String}
    (h : Blocked rule device s) :
    ¬ Recoverable rule device s := by
  intro hrecoverable
  obtain ⟨a, ha, hopen, hrule, hdevice, -⟩ := hrecoverable h.1
  exact h.2 a ha hopen ⟨hrule, hdevice⟩

/-- An open alert is found under the key of its tenant and device, if all alerts can be read and
ordered. -/
theorem Mirrors.exists_openOn
    (h : Mirrors alerts (OpenIn alerts) (OpenIn alerts) s)
    (hlegible : ∀ b ∈ alerts, b.isLegible = true)
    (haware : ∀ b ∈ alerts, b.triggeredAt.isAware = true)
    (ha : a ∈ alerts)
    (hopen : a.isOpen = true)
    {tenant device : String}
    (hkey : openKey a.tenant a.device = openKey tenant device)
    (now : Moment) :
    ∃ found, ((serve now (.openOn tenant device)).runOn s).1 = .ok found ∧ a.readBack ∈ found := by
  have hindex : IsIndex (openKey tenant device) := by simp [IsIndex]
  let keep (b : Alert) : Bool :=
    decide (openKey b.tenant b.device = openKey tenant device) && b.isOpen
  have hmem (id : String) : id ∈ s.set (openKey tenant device) ↔
      ∃ b ∈ alerts, b.id = id ∧ keep b = true := by
    simp only [h.mem_openKey, keep, Bool.and_eq_true, decide_eq_true_eq]
  obtain ⟨members, hperm, hrun⟩ := run_membersThen h hlegible now hindex hmem
    fun found => liftM (newestFirst (found.filter Alert.isOpen))
  have hsortable : sortable ((members.map Alert.readBack).filter Alert.isOpen) = true := by
    refine sortable_of_aware fun b hb => ?_
    obtain ⟨c, hc, rfl⟩ := List.mem_map.mp (List.mem_filter.mp hb).1
    exact haware c (List.mem_filter.mp (hperm.mem_iff.mp hc)).1
  obtain ⟨sorted, hsorted, hsame⟩ := newestFirst_of_sortable hsortable
  have hmember : a ∈ members :=
    hperm.mem_iff.mpr (List.mem_filter.mpr ⟨ha, by simp [keep, hkey, hopen]⟩)
  refine ⟨sorted, ?_, (hsame _).mpr (List.mem_filter.mpr ⟨List.mem_map_of_mem hmember, hopen⟩)⟩
  rw [serve, Indexed.listed, hrun, hsorted]
  rfl

theorem recoverable_of_mirrors
    (h : Mirrors alerts (OpenIn alerts) (OpenIn alerts) s)
    (hlegible : ∀ a ∈ alerts, a.isLegible = true)
    (hplain : ∀ a ∈ alerts, ':' ∉ a.rule.toList ∧ ':' ∉ a.device.toList ∧
      a.triggeredAt.isAware = true)
    (rule device : String) :
    Recoverable rule device s := by
  intro hheld
  obtain ⟨e, he⟩ := Option.isSome_iff_exists.mp hheld
  obtain ⟨a, ha, rfl, hkey, hopen⟩ := h.find?_claimKey.mp he
  obtain ⟨rfl, rfl⟩ := (claimKey_inj (hplain a ha).1 (hplain a ha).2.1).mp hkey
  exact ⟨a, h.stored a ha, hopen, rfl, rfl,
    h.exists_openOn hlegible (fun b hb => (hplain b hb).2.2) ha hopen rfl⟩

/-- The claim of an alert whose end was stored stays held if it was not given up. -/
theorem blocked_of_mirrors
    {listed' : String → Prop} {b : Alert}
    (h : Mirrors (Memory.put b alerts) listed' (OpenIn alerts) s)
    (hids : (alerts.map Alert.id).Nodup)
    (ha : a ∈ alerts)
    (hopen : a.isOpen = true)
    (hid : b.id = a.id)
    (hrule : b.rule = a.rule)
    (hdevice : b.device = a.device)
    (hclosed : b.isOpen = false)
    (later : List Turn) :
    Blocked a.rule a.device (after s later) := by
  have hheld : s.find? (claimKey a.rule a.device) = some (.text a.id) :=
    (h.ofClaim _ _ _).mpr ⟨b, (Memory.mem_put hids).mpr (Or.inl rfl), by rw [hid],
      by rw [hrule, hdevice], by rw [hid]; exact ⟨a, ha, rfl, hopen⟩⟩
  have hcoherent : Coherent (fun key => key = claimKey a.rule a.device) s := by
    refine ⟨h.kept, fun c hc hopenc => ?_, fun r d hblocked => by rw [hblocked, hheld]; rfl⟩
    obtain ⟨d, hd, hcd, htext⟩ := h.exists_of_stored hc
    obtain ⟨-, -, hruled, hdeviced, -⟩ := Alert.identity_of_storedText htext
    have hopend : d.isOpen = true := by rw [← Alert.isOpen_of_storedText htext, hopenc]
    rcases (Memory.mem_put hids).mp hd with rfl | ⟨hold, hne⟩
    · rw [hclosed] at hopend
      cases hopend
    · have hclaim := (h.ofClaim d.rule d.device _).mpr ⟨d, hd, rfl, rfl, d, hold, rfl, hopend⟩
      rw [hruled, hdeviced, hcd]
      refine ⟨fun hkey => hne ?_, hclaim⟩
      rw [hkey, hheld] at hclaim
      rw [hid]
      simpa using hclaim.symm
  have hafter := hcoherent.after later
  refine ⟨hafter.held _ _ rfl, fun c hc hopenc hpair => (hafter.claims c hc hopenc).1 ?_⟩
  rw [hpair.1, hpair.2]

end Indexed

/-- The server after a request of which a command failed, and whether that command is yet
to come. -/
def Indexed.interrupted (s : Server) (now : Moment) (r : Request) (k : Nat) (e : Failure) : Line :=
  ((serve now r).runWith Line.execute (.failing s k e)).2

open Indexed

theorem interrupted_of_run
    {s : Server} {now : Moment} {r : Request} {k : Nat} {e : Failure}
    {o : Outcome r.Reply} {l : Line}
    (h : (serve now r).runWith Line.execute (.failing s k e) = (o, l)) :
    interrupted s now r k e = l :=
  congrArg Prod.snd h

/-- Runs whose alerts are created open, under different ids. -/
structure Fresh (turns : List Turn) : Prop where
  ids : ((turns.filterMap Turn.created?).map Alert.id).Nodup
  opened : ∀ a ∈ turns.filterMap Turn.created?, a.isOpen = true

/-- Runs whose alerts can be told apart, read and ordered: their rules and devices hold no
colon, they were triggered at known instants, and those stored in the end have no number
that is too long. -/
structure Sound (turns : List Turn) : Prop where
  rule : ∀ a ∈ turns.filterMap Turn.created?, ':' ∉ a.rule.toList
  device : ∀ a ∈ turns.filterMap Turn.created?, ':' ∉ a.device.toList
  aware : ∀ a ∈ turns.filterMap Turn.created?, a.triggeredAt.isAware = true
  legible : ∀ a, Stored (reached {} turns) a → a.isLegible = true

/-- If one command of a request to create or to end an alert fails, the claim of the
alert's rule and device is held for an open alert only: unless the end of the alert was
stored already. In that case the claim is held whatever happens later. -/
theorem recoverable_iff
    (turns : List Turn)
    (h : Fresh turns)
    (hsound : Sound turns)
    (now : Moment) (k : Nat) (e : Failure) :
    (∀ a, (interrupted (reached {} turns) now (.create a) k e).faults = [] →
      Recoverable a.rule a.device
        (interrupted (reached {} turns) now (.create a) k e).server) ∧
    ∀ a tenant reason?, Stored (reached {} turns) a →
      (interrupted (reached {} turns) now (.resolve a.id tenant reason?) k e).faults = [] →
        (Recoverable a.rule a.device
            (interrupted (reached {} turns) now (.resolve a.id tenant reason?) k e).server ↔
          k < 2) ∧
        (2 ≤ k → ∀ later, Blocked a.rule a.device
          (after (interrupted (reached {} turns) now (.resolve a.id tenant reason?) k e).server
            later)) := by
  obtain ⟨alerts, hmirrors, horigins⟩ := mirrors_reached Mirrors.empty h.ids h.opened
  have hlegible (a : Alert) (ha : a ∈ alerts) : a.isLegible = true :=
    hsound.legible a (hmirrors.stored a ha)
  have hplain (a : Alert) (ha : a ∈ alerts) :
      ':' ∉ a.rule.toList ∧ ':' ∉ a.device.toList ∧ a.triggeredAt.isAware = true := by
    obtain ⟨b, hb, horigin⟩ := List.mem_map.mp (horigins (List.mem_map_of_mem ha))
    simp only [Alert.origin, Prod.mk.injEq] at horigin
    obtain ⟨-, -, hrule, hdevice, htriggered⟩ := horigin
    rw [← hrule, ← hdevice, ← htriggered]
    exact ⟨hsound.rule b hb, hsound.device b hb, hsound.aware b hb⟩
  refine ⟨fun a hstruck => ?_, fun a tenant reason? ha hstruck => ?_⟩
  · rcases create_failing hmirrors.kept a k e with hsame | hleft
    · exact recoverable_of_mirrors (hmirrors.of_find? hsame) hlegible hplain _ _
    · exact absurd hstruck hleft
  · obtain ⟨b, hb, hid, htext⟩ := hmirrors.exists_of_stored ha
    obtain ⟨-, -, hrule, hdevice, -⟩ := Alert.identity_of_storedText htext
    have hcases := resolve_failing hmirrors hb (hlegible b hb) now tenant reason? k e
    rw [hrule, hdevice]
    rw [hid] at hstruck ⊢
    rcases hcases with ⟨hk, hrun⟩ | ⟨hk, -, hopen, s', listed', hrun, hended⟩ | ⟨hleft, -⟩
    · rw [interrupted_of_run hrun]
      exact ⟨iff_of_true (recoverable_of_mirrors hmirrors hlegible hplain _ _) hk,
        fun hlate => absurd hk (by omega)⟩
    · have hblocked := blocked_of_mirrors hended hmirrors.ids hb hopen rfl rfl rfl rfl
      rw [interrupted_of_run hrun]
      exact ⟨iff_of_false (hblocked []).not_recoverable (by omega), fun _ => hblocked⟩
    · exact absurd hstruck hleft

/-- The time of the run below. -/
def firstNoon : Moment :=
  ⟨2025, 1, 1, 12, 0, 0, 0, some 0, Eq.refl true⟩

/-- The alert of the run below. -/
def firstAlert : Alert :=
  .raised "a1" "tenant-a" "rule-1" "dev-1" firstNoon

/-- A run that raises one alert. -/
def firstRun : List Turn :=
  [⟨firstNoon, .create firstAlert, []⟩]

/-- A run that creates one open alert leaves a server that mirrors it. -/
theorem mirrors_created
    (now : Moment) (a : Alert)
    (hopen : a.isOpen = true) :
    Mirrors [a] (OpenIn [a]) (OpenIn [a]) (reached {} [⟨now, .create a, []⟩]) := by
  obtain ⟨s, hrun, hmirrors⟩ := run_create (a := a) Mirrors.empty (by simp)
  have hreached : reached {} [⟨now, .create a, []⟩] = s := congrArg Prod.snd hrun
  rw [hreached]
  exact mirrors_append hmirrors (by simp) (by simp) hopen

theorem mirrors_firstRun :
    Mirrors [firstAlert] (OpenIn [firstAlert]) (OpenIn [firstAlert]) (reached {} firstRun) :=
  mirrors_created firstNoon firstAlert rfl

theorem fresh_firstRun :
    Fresh firstRun :=
  ⟨by decide, by decide⟩

theorem sound_firstRun :
    Sound firstRun := by
  refine ⟨by decide, by decide, by decide, fun a ha => ?_⟩
  obtain ⟨b, hb, -, htext⟩ := mirrors_firstRun.exists_of_stored ha
  rw [List.mem_singleton.mp hb] at htext
  exact Alert.isLegible_of_storedText htext (by decide)

/-- The end of the alert is stored, and then a command fails. -/
theorem interrupted_firstRun :
    ∃ s, interrupted (reached {} firstRun) firstNoon (.resolve firstAlert.id "tenant-a" none) 2
        .timedOut = ⟨s, []⟩ ∧
      Blocked firstAlert.rule firstAlert.device s := by
  have hfirst : firstAlert ∈ [firstAlert] := by simp
  have hcases := resolve_failing mirrors_firstRun hfirst (by decide) firstNoon "tenant-a" none 2
    .timedOut
  rcases hcases with ⟨hk, -⟩ | ⟨-, -, hopen, s', listed', hrun, hended⟩ | ⟨-, hlate⟩
  · omega
  · have hblocked := blocked_of_mirrors hended mirrors_firstRun.ids hfirst hopen rfl rfl rfl rfl
    exact ⟨s', interrupted_of_run hrun, hblocked []⟩
  · have := hlate rfl rfl
    omega

theorem recoverable_iff_firstRun :
    Recoverable firstAlert.rule firstAlert.device
        (interrupted (reached {} firstRun) firstNoon (.create firstAlert) 0 .timedOut).server ∧
      ∃ s, interrupted (reached {} firstRun) firstNoon
          (.resolve firstAlert.id "tenant-a" none) 2 .timedOut = ⟨s, []⟩ ∧
        ∀ later, Blocked firstAlert.rule firstAlert.device (after s later) := by
  have hstored := mirrors_firstRun.stored firstAlert (by simp)
  obtain ⟨s, hrun, -⟩ := interrupted_firstRun
  have hcreate := recoverable_iff firstRun fresh_firstRun sound_firstRun firstNoon 0 .timedOut
  have hresolve := recoverable_iff firstRun fresh_firstRun sound_firstRun firstNoon 2 .timedOut
  have hblocked := (hresolve.2 firstAlert "tenant-a" none hstored (by rw [hrun])).2 (by decide)
  rw [hrun] at hblocked
  exact ⟨hcreate.1 firstAlert rfl, s, hrun, hblocked⟩

/-- The pair of an alert is not freed if a command fails after the end of the alert was
stored. -/
theorem not_recoverable_firstRun :
    ¬ ∀ turns, Fresh turns → ∀ now k e a tenant reason?, Stored (reached {} turns) a →
      (interrupted (reached {} turns) now (.resolve a.id tenant reason?) k e).faults = [] →
        Recoverable a.rule a.device
          (interrupted (reached {} turns) now (.resolve a.id tenant reason?) k e).server := by
  intro hall
  have hstored := mirrors_firstRun.stored firstAlert (by simp)
  obtain ⟨s, hrun, hblocked⟩ := interrupted_firstRun
  have hrecoverable := hall firstRun fresh_firstRun firstNoon 2 .timedOut firstAlert "tenant-a" none
    hstored (by rw [hrun])
  rw [hrun] at hrecoverable
  exact hblocked.not_recoverable hrecoverable

end TelemetryAlerts
