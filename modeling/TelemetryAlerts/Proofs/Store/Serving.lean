import TelemetryAlerts.Proofs.Store.Listing
import TelemetryAlerts.Proofs.Store.Mirror

/-!
# Serving requests on a mirror

What the operations of the store give, and what they leave, on a key server that mirrors
a list of alerts, none of which is too long to be read. No command fails here.

**Results.**
* `run_update`, `run_close`, `run_create`: the operations that change the server.
* `run_listed`, `run_newest`, `run_counts`: the operations that read an index.
-/

namespace TelemetryAlerts
namespace Indexed

open ServerAction

variable {s : Server} {a : Alert} {alerts : List Alert} {listed claimed : String → Prop}

/-! ### Under any execution of the commands -/

section

variable {σ : Type} {handle : (c : Command) → σ → c.Reply × σ} {st st' : σ}
variable {now : Moment} {id : String} {a? : Option Alert}

theorem runWith_load
    (hget : handle (.get (alertKey id)) st = (.ok (a?.map documentText), st')) :
    (load now id).runWith handle st = (a?.mapM Alert.reading, st') := by
  rw [load_eq, runWith_bind, runWith_command, hget]
  cases a? with
  | none =>
      rfl
  | some a =>
      simp only [Option.map_some, ofStored_documentText, runWith_lift]
      rfl

theorem runWith_loadFor
    (tenant : String)
    (hget : handle (.get (alertKey id)) st = (.ok (a?.map documentText), st')) :
    (loadFor now id tenant).runWith handle st =
      (Option.filter (fun a => a.tenant == tenant) <$> a?.mapM Alert.reading, st') := by
  rw [loadFor, runWith_bind, runWith_load hget]
  cases a?.mapM Alert.reading <;> rfl

theorem runWith_loadFor_of_legible
    (tenant : String)
    (hget : handle (.get (alertKey id)) st = (.ok (some (documentText a)), st'))
    (hlegible : a.isLegible = true) :
    (loadFor now id tenant).runWith handle st =
      (.ok (if a.tenant = tenant then some a.readBack else none), st') := by
  have hreading : a.reading = .ok a.readBack := if_pos hlegible
  have hsome : handle (.get (alertKey id)) st = (.ok ((some a).map documentText), st') := hget
  rw [runWith_loadFor tenant hsome, Option.mapM_some, hreading]
  change (Except.ok (if (a.tenant == tenant) = true then some a.readBack else none), st') = _
  simp only [beq_iff_eq]

theorem runWith_loadFor_of_error
    (tenant : String)
    {e : Failure}
    (hget : handle (.get (alertKey id)) st = (.error e, st')) :
    (loadFor now id tenant).runWith handle st = (.error e, st') := by
  rw [loadFor, runWith_bind, load_eq, runWith_bind, runWith_command, hget]

theorem runWith_update
    (now : Moment) (id tenant : String) (may : Alert → Bool) (change : Alert → Alert)
    (st : σ) :
    (update now id tenant may change).runWith handle st =
      match (loadFor now id tenant).runWith handle st with
      | (.error e, st₁) => (.error e, st₁)
      | (.ok none, st₁) => (.ok none, st₁)
      | (.ok (some a), st₁) =>
        if may a then
          match handle (.set (alertKey (change a).id) (documentText (change a))) st₁ with
          | (.error e, st₂) => (.error e, st₂)
          | (.ok _, st₂) => (.ok (some (change a)), st₂)
        else (.ok none, st₁) := by
  rw [update, runWith_bind]
  rcases (loadFor now id tenant).runWith handle st with ⟨_ | _ | a, st₁⟩
  · rfl
  · rfl
  · simp only
    split_ifs
    · have hsave : (save (change a)).runWith handle st₁ =
          handle (.set (alertKey (change a).id) (documentText (change a))) st₁ := rfl
      simp only [runWith_bind, hsave]
      rcases handle (.set (alertKey (change a).id) (documentText (change a))) st₁ with
        ⟨_ | _, st₂⟩ <;> rfl
    · rfl

theorem runWith_deleteIfEquals
    (key value : String) (st : σ) :
    (deleteIfEquals key value).runWith handle st =
      match handle (.watch key) st with
      | (.error e, st₁) => (.error e, st₁)
      | (.ok since, st₁) =>
        match handle (.get key) st₁ with
        | (.error e, st₂) => (.error e, st₂)
        | (.ok text?, st₂) =>
          if text? = some value then handle (.deleteIfUnchanged key since) st₂
          else
            match handle .unwatch st₂ with
            | (.error e, st₃) => (.error e, st₃)
            | (.ok _, st₃) => (.ok false, st₃) := by
  rw [deleteIfEquals, runWith_bind, runWith_command]
  rcases handle (.watch key) st with ⟨_ | since, st₁⟩
  · rfl
  · simp only [runWith_bind]
    rw [runWith_command]
    rcases handle (.get key) st₁ with ⟨_ | text?, st₂⟩
    · rfl
    · by_cases heq : text? = some value
      · simp only [if_pos heq]
        rfl
      · have hunwatch : (command .unwatch : ServerAction Unit).runWith handle st₂ =
            handle .unwatch st₂ := rfl
        simp only [if_neg heq, runWith_bind, hunwatch]
        rcases handle .unwatch st₂ with ⟨_ | _, st₃⟩ <;> rfl

theorem runWith_close
    (a : Alert) (st : σ) :
    (close a).runWith handle st =
      match handle (.removeMembers (openKey a.tenant a.device) [a.id]) st with
      | (.error e, st₁) => (.error e, st₁)
      | (.ok _, st₁) =>
        match (deleteIfEquals (claimKey a.rule a.device) a.id).runWith handle st₁ with
        | (.error e, st₂) => (.error e, st₂)
        | (.ok _, st₂) => (.ok (), st₂) := by
  have hremove : (command (.removeMembers (openKey a.tenant a.device) [a.id]) :
      ServerAction Unit).runWith handle st =
        handle (.removeMembers (openKey a.tenant a.device) [a.id]) st := rfl
  rw [close, runWith_bind, hremove]
  rcases handle (.removeMembers (openKey a.tenant a.device) [a.id]) st with ⟨_ | _, st₁⟩
  · rfl
  · simp only [runWith_bind]
    rcases (deleteIfEquals (claimKey a.rule a.device) a.id).runWith handle st₁ with
      ⟨_ | _, st₂⟩ <;> rfl

theorem runWith_resolve
    (now : Moment) (id tenant : String) (reason? : Option String) (st : σ) :
    (serve now (.resolve id tenant reason?)).runWith handle st =
      match (update now id tenant Alert.isOpen fun a => a.resolve reason? now).runWith handle st
        with
      | (.error e, st₁) => (.error e, st₁)
      | (.ok none, st₁) => (.ok false, st₁)
      | (.ok (some a), st₁) =>
        match (close a).runWith handle st₁ with
        | (.error e, st₂) => (.error e, st₂)
        | (.ok _, st₂) => (.ok true, st₂) := by
  rw [serve, runWith_bind]
  rcases (update now id tenant Alert.isOpen fun a => a.resolve reason? now).runWith handle st
    with ⟨_ | _ | a, st₁⟩
  · rfl
  · rfl
  · simp only [runWith_bind]
    rcases (close a).runWith handle st₁ with ⟨_ | _, st₂⟩ <;> rfl

theorem runWith_create
    (a : Alert) (st : σ) :
    (create a).runWith handle st =
      match handle (.setIfAbsent (claimKey a.rule a.device) a.id) st with
      | (.error e, st₁) => (.error e, st₁)
      | (.ok false, st₁) => (.error (.openAlertExists a.rule a.device), st₁)
      | (.ok true, st₁) =>
        match handle (.setAndIndex (alertKey a.id) (documentText a)
          [tenantKey a.tenant, pairKey a.rule a.device, openKey a.tenant a.device] a.id) st₁ with
        | (.ok _, st₂) => (.ok (), st₂)
        | (.error e, st₂) =>
          match (deleteIfEquals (claimKey a.rule a.device) a.id).runWith handle st₂ with
          | (.error e', st₃) => (.error e', st₃)
          | (.ok _, st₃) => (.error e, st₃) := by
  have hclaim : (command (.setIfAbsent (claimKey a.rule a.device) a.id) :
      ServerAction Bool).runWith handle st =
        handle (.setIfAbsent (claimKey a.rule a.device) a.id) st := rfl
  rw [create, runWith_bind, hclaim]
  rcases handle (.setIfAbsent (claimKey a.rule a.device) a.id) st with ⟨_ | _ | _, st₁⟩
  · rfl
  · rfl
  · have hstore : (command (.setAndIndex (alertKey a.id) (documentText a)
        [tenantKey a.tenant, pairKey a.rule a.device, openKey a.tenant a.device] a.id) :
          ServerAction Unit).runWith handle st₁ =
        handle (.setAndIndex (alertKey a.id) (documentText a)
          [tenantKey a.tenant, pairKey a.rule a.device, openKey a.tenant a.device] a.id) st₁ :=
      rfl
    simp only [if_true, runWith_tryCatch, hstore]
    rcases handle (.setAndIndex (alertKey a.id) (documentText a)
      [tenantKey a.tenant, pairKey a.rule a.device, openKey a.tenant a.device] a.id) st₁ with
        ⟨_ | _, st₂⟩
    · simp only [runWith_bind]
      rcases (deleteIfEquals (claimKey a.rule a.device) a.id).runWith handle st₂ with
        ⟨_ | _, st₃⟩ <;> rfl
    · rfl

end

/-! ### Reading -/

theorem Mirrors.text?
    (h : Mirrors alerts listed claimed s)
    (id : String) :
    s.text? (alertKey id) = .ok ((alerts.find? fun a => a.id == id).map documentText) := by
  cases hfind : alerts.find? fun a => a.id == id with
  | none =>
      cases hentry : s.find? (alertKey id) with
      | none =>
          simp [Server.text?, hentry]
      | some e =>
          obtain ⟨a, ha, rfl⟩ := h.complete id e hentry
          exact absurd (List.find?_eq_none.mp hfind a ha) (by simp)
  | some a =>
      have hid : a.id = id := by simpa using List.find?_some hfind
      have hentry := h.stored a (List.mem_of_find?_eq_some hfind)
      rw [Stored, hid] at hentry
      simp [Server.text?, hentry]

theorem run_loadFor
    (h : Mirrors alerts listed claimed s)
    (now : Moment) (id tenant : String) :
    (loadFor now id tenant).runOn s =
      (Option.filter (fun a => a.tenant == tenant) <$>
        (alerts.find? fun a => a.id == id).mapM Alert.reading, s) := by
  have hget : Server.execute (.get (alertKey id)) s =
      (.ok ((alerts.find? fun a => a.id == id).map documentText), s) := by
    simp [Server.execute, h.text?]
  exact runWith_loadFor tenant hget

theorem Mirrors.get
    (h : Mirrors alerts listed claimed s)
    (ha : a ∈ alerts) :
    Server.execute (.get (alertKey a.id)) s = (.ok (some (documentText a)), s) := by
  have hstored := h.stored a ha
  rw [Stored] at hstored
  simp [Server.execute, Server.text?, hstored]

theorem run_loadFor_of_legible
    (h : Mirrors alerts listed claimed s)
    (hlegible : ∀ a ∈ alerts, a.isLegible = true)
    (now : Moment) (id tenant : String) :
    (loadFor now id tenant).runOn s =
      (.ok ((Memory.find? ⟨alerts⟩ id tenant).map Alert.readBack), s) := by
  rw [Memory.find?]
  cases hfind : alerts.find? fun a => a.id == id with
  | none =>
      rw [run_loadFor h, hfind]
      rfl
  | some a =>
      have ha := List.mem_of_find?_eq_some hfind
      have hid : a.id = id := by simpa using List.find?_some hfind
      rw [← hid, runOn_eq, runWith_loadFor_of_legible tenant (h.get ha) (hlegible a ha)]
      simp only [Option.filter_some, beq_iff_eq]
      split_ifs <;> rfl

/-- An alert with a number that is too long cannot be loaded. -/
theorem run_loadFor_of_illegible
    (h : Mirrors alerts listed claimed s)
    (ha : a ∈ alerts)
    (hlong : a.isLegible = false)
    (now : Moment) (tenant : String) :
    (loadFor now a.id tenant).runOn s = (.error (.kind .unusableValue), s) := by
  have hreading : a.reading = .error (.kind .unusableValue) := if_neg (by simp [hlong])
  have hsome : Server.execute (.get (alertKey a.id)) s = (.ok ((some a).map documentText), s) :=
    h.get ha
  rw [runOn_eq, runWith_loadFor tenant hsome, Option.mapM_some, hreading]
  rfl

/-- Stored alerts are loaded by their ids. -/
theorem run_loadAll
    (now : Moment)
    {members : List Alert}
    (hstored : ∀ a ∈ members, Stored s a) :
    (loadAll now (members.map Alert.id)).runOn s = (members.mapM Alert.reading, s) := by
  have htexts : (((members.map Alert.id).map alertKey).map fun k =>
      (s.text? k).toOption.join).filterMap (fun t? => t?) = members.map documentText := by
    induction members with
    | nil =>
        rfl
    | cons a members ih =>
        have hentry := hstored a (by simp)
        have htext : s.text? (alertKey a.id) = .ok (some (documentText a)) := by
          rw [Stored] at hentry
          simp [Server.text?, hentry]
        have hrest := ih fun b hb => hstored b (by simp [hb])
        rw [List.map_cons, List.map_cons, List.map_cons, htext, List.map_cons, ← hrest]
        rfl
  rw [loadAll_eq, runOn_eq]
  split_ifs with hempty
  · have hnil : members = [] := by simpa using hempty
    rw [hnil]
    rfl
  · rw [runWith_bind, runWith_command]
    simp only [Server.execute]
    rw [allOfStored_documentText now htexts, runWith_lift]

/-- The stored alerts that an index names, and what is made of them. -/
theorem run_index
    {α : Type}
    (now : Moment)
    {key : String} (hset : s.IsSet key)
    {members : List Alert}
    (hids : s.set key = members.map Alert.id)
    (hstored : ∀ a ∈ members, Stored s a)
    (f : List Alert → ServerAction α) :
    ServerAction.runOn
        (do
          let ids ← command (.members key)
          f (← loadAll now ids)) s =
      match members.mapM Alert.reading with
      | .ok found => (f found).runOn s
      | .error e => (.error e, s) := by
  have hload := run_loadAll now hstored
  rw [runOn_eq, runWith_bind, runWith_command, Server.execute_members hset]
  simp only [runWith_bind, hids]
  rw [← runOn_eq, hload]
  cases members.mapM Alert.reading <;> rfl

/-- The alerts of an index, in the order of their ids, and what is made of them. -/
theorem run_members
    {α : Type}
    (h : Mirrors alerts listed claimed s)
    (now : Moment)
    {key : String} (hkey : IsIndex key)
    {keep : Alert → Bool}
    (hmem : ∀ id, id ∈ s.set key ↔ ∃ a ∈ alerts, a.id = id ∧ keep a = true)
    (f : List Alert → ServerAction α) :
    ∃ members : List Alert, members.Perm (alerts.filter keep) ∧
      ServerAction.runOn
        (do
          let ids ← command (.members key)
          f (← loadAll now ids)) s =
        match members.mapM Alert.reading with
        | .ok found => (f found).runOn s
        | .error e => (.error e, s) := by
  obtain ⟨members, hids, hperm⟩ := h.exists_members hkey keep hmem
  exact ⟨members, hperm, run_index now (h.sets key hkey) hids
    (fun a ha => h.stored a (List.mem_filter.mp (hperm.mem_iff.mp ha)).1) f⟩

theorem run_membersThen
    {α : Type}
    (h : Mirrors alerts listed claimed s)
    (hlegible : ∀ a ∈ alerts, a.isLegible = true)
    (now : Moment)
    {key : String} (hkey : IsIndex key)
    {keep : Alert → Bool}
    (hmem : ∀ id, id ∈ s.set key ↔ ∃ a ∈ alerts, a.id = id ∧ keep a = true)
    (f : List Alert → ServerAction α) :
    ∃ members : List Alert, members.Perm (alerts.filter keep) ∧
      ServerAction.runOn
        (do
          let ids ← command (.members key)
          f (← loadAll now ids)) s =
        (f (members.map Alert.readBack)).runOn s := by
  obtain ⟨members, hperm, hrun⟩ := run_members h now hkey hmem f
  have hall : members.all Alert.isLegible = true := by
    simpa using fun a ha => hlegible a (List.mem_filter.mp (hperm.mem_iff.mp ha)).1
  rw [Alert.mapM_reading, if_pos hall] at hrun
  exact ⟨members, hperm, hrun⟩

/-- The alerts of an index that have a property, newest first. -/
theorem run_listed
    (h : Mirrors alerts listed claimed s)
    (hlegible : ∀ a ∈ alerts, a.isLegible = true)
    (hapart : Apart alerts)
    (now : Moment)
    {key : String} (hkey : IsIndex key)
    {inIndex keep : Alert → Bool}
    (hmem : ∀ id, id ∈ s.set key ↔ ∃ a ∈ alerts, a.id = id ∧ inIndex a = true)
    (hkeep : ∀ a, keep a.readBack = keep a) :
    (Indexed.listed now key keep).runOn s =
      (List.map Alert.readBack <$>
        newestFirst (alerts.filter fun a => inIndex a && keep a), s) := by
  obtain ⟨members, hperm, hrun⟩ :=
    run_membersThen h hlegible now hkey hmem fun found => liftM (newestFirst (found.filter keep))
  have hfilter : (members.map Alert.readBack).filter keep =
      (members.filter keep).map Alert.readBack := by
    rw [List.filter_map]
    congr 1
    exact List.filter_congr fun a _ => hkeep a
  have hkept : (alerts.filter fun a => inIndex a && keep a).Perm (members.filter keep) := by
    have hboth : (alerts.filter inIndex).filter keep =
        alerts.filter fun a => inIndex a && keep a := by
      rw [List.filter_filter]
      exact List.filter_congr fun a _ => Bool.and_comm _ _
    rw [← hboth]
    exact (hperm.filter keep).symm
  refine hrun.trans ?_
  rw [runOn_eq, runWith_lift, hfilter, newestFirst_map_readBack,
    newestFirst_perm (hapart.filter _) hkept]

/-- The newest alert of an index. -/
theorem run_newest
    (h : Mirrors alerts listed claimed s)
    (hlegible : ∀ a ∈ alerts, a.isLegible = true)
    (hapart : Apart alerts)
    (now : Moment)
    {key : String} (hkey : IsIndex key)
    {inIndex : Alert → Bool}
    (hmem : ∀ id, id ∈ s.set key ↔ ∃ a ∈ alerts, a.id = id ∧ inIndex a = true) :
    ServerAction.runOn
        (do
          let ids ← command (.members key)
          liftM (newest? (← loadAll now ids))) s =
      (Option.map Alert.readBack <$> newest? (alerts.filter inIndex), s) := by
  obtain ⟨members, hperm, hrun⟩ :=
    run_membersThen h hlegible now hkey hmem fun found => liftM (newest? found)
  refine hrun.trans ?_
  rw [runOn_eq, runWith_lift, newest?_map_readBack,
    newest?_perm (hapart.filter _) hperm.symm]

/-- The counts of the alerts of an index. -/
theorem run_counts
    (h : Mirrors alerts listed claimed s)
    (hlegible : ∀ a ∈ alerts, a.isLegible = true)
    (now : Moment)
    {key : String} (hkey : IsIndex key)
    {inIndex : Alert → Bool}
    (hmem : ∀ id, id ∈ s.set key ↔ ∃ a ∈ alerts, a.id = id ∧ inIndex a = true) :
    ServerAction.runOn
        (do
          let ids ← command (.members key)
          pure (Statistics.ofAlerts (← loadAll now ids))) s =
      (.ok (Statistics.ofAlerts (alerts.filter inIndex)), s) := by
  obtain ⟨members, hperm, hrun⟩ :=
    run_membersThen h hlegible now hkey hmem fun found => pure (Statistics.ofAlerts found)
  refine hrun.trans ?_
  rw [runOn_eq, runWith_pure, ofAlerts_map_readBack, ofAlerts_perm hperm.symm]

/-! ### Changing -/

theorem execute_save
    (a : Alert) (s : Server) :
    Server.execute (.set (alertKey a.id) (documentText a)) s =
      (.ok (), s.write (alertKey a.id) (.text (documentText a))) :=
  rfl

theorem run_update
    (h : Mirrors alerts listed claimed s)
    (hlegible : ∀ a ∈ alerts, a.isLegible = true)
    (now : Moment) (c : Change) :
    (update now c.id c.tenant c.may c.apply).runOn s =
      match Memory.find? ⟨alerts⟩ c.id c.tenant with
      | none => (.ok none, s)
      | some a =>
        if c.may a then
          (.ok (some (c.apply a).readBack),
            s.write (alertKey a.id) (.text (documentText (c.apply a).readBack)))
        else (.ok none, s) := by
  rw [runOn_eq, runWith_update, ← runOn_eq, run_loadFor_of_legible h hlegible]
  cases Memory.find? ⟨alerts⟩ c.id c.tenant with
  | none =>
      rfl
  | some a =>
      have hid : (c.apply a).readBack.id = a.id := c.id_apply a
      simp only [Option.map_some, c.may_readBack, execute_save, c.apply_readBack, hid]

/-- Whatever can be read, a change of an alert is stored or nothing is. -/
theorem run_update_or
    (h : Mirrors alerts listed claimed s)
    (now : Moment) (c : Change) :
    (∃ o, (update now c.id c.tenant c.may c.apply).runOn s = (o, s) ∧
        ∀ a, o ≠ .ok (some a)) ∨
      ∃ a ∈ alerts, (a.id = c.id ∧ a.tenant = c.tenant ∧ c.may a = true) ∧
        (update now c.id c.tenant c.may c.apply).runOn s =
          (.ok (some (c.apply a).readBack),
            s.write (alertKey a.id) (.text (documentText (c.apply a).readBack))) := by
  obtain ⟨o, hload, hfound⟩ : ∃ o, (loadFor now c.id c.tenant).runOn s = (o, s) ∧
      ∀ b, o = .ok (some b) →
        ∃ a ∈ alerts, a.id = c.id ∧ a.tenant = c.tenant ∧ b = a.readBack := by
    refine ⟨_, run_loadFor h now c.id c.tenant, fun b hb => ?_⟩
    cases hfind : alerts.find? fun a => a.id == c.id with
    | none =>
        rw [hfind] at hb
        cases hb
    | some a =>
        have hid : a.id = c.id := by simpa using List.find?_some hfind
        rw [hfind, Option.mapM_some, Alert.reading] at hb
        split_ifs at hb
        · obtain ⟨hsome, htenant⟩ := Option.filter_eq_some_iff.mp (Except.ok.inj hb)
          obtain rfl := Option.some.inj hsome
          exact ⟨a, List.mem_of_find?_eq_some hfind, hid, eq_of_beq htenant, rfl⟩
        · cases hb
  rw [runOn_eq, runWith_update, ← runOn_eq, hload]
  rcases o with e | _ | b
  · exact Or.inl ⟨_, rfl, by simp⟩
  · exact Or.inl ⟨_, rfl, by simp⟩
  · obtain ⟨a, ha, hida, htenant, rfl⟩ := hfound b rfl
    have hid : (c.apply a).readBack.id = a.id := c.id_apply a
    simp only [c.may_readBack, execute_save, c.apply_readBack, hid]
    by_cases hmay : c.may a = true
    · exact Or.inr ⟨a, ha, ⟨hida, htenant, hmay⟩, if_pos hmay⟩
    · exact Or.inl ⟨_, if_neg hmay, by simp⟩

/-- A key is given up if it holds the value. -/
theorem runOn_deleteIfEquals
    {key : String} {text? : Option String}
    (value : String)
    (h : s.text? key = .ok text?) :
    (deleteIfEquals key value).runOn s =
      if text? = some value then (.ok true, s.erase key) else (.ok false, s) := by
  rw [runOn_eq, runWith_deleteIfEquals]
  simp [Server.execute, h]

theorem run_close
    (h : Mirrors alerts listed claimed s)
    (ha : a ∈ alerts)
    (hclaimed : claimed a.id) :
    ∃ s', (close a).runOn s = (.ok (), s') ∧
      Mirrors alerts (fun id => listed id ∧ id ≠ a.id) (fun id => claimed id ∧ id ≠ a.id) s' := by
  have hindex : IsIndex (openKey a.tenant a.device) := by simp [IsIndex]
  obtain ⟨s₁, hrun, hset, hisSet, hsame⟩ := Server.dropMembers_spec a.id (h.sets _ hindex)
  have hunlisted := h.unlist ha hset hisSet (h.filled_dropMembers hrun) hsame
  have hclaim : s₁.text? (claimKey a.rule a.device) = .ok (some a.id) := by
    have hentry := (hunlisted.ofClaim a.rule a.device _).mpr ⟨a, ha, rfl, rfl, hclaimed⟩
    simp [Server.text?, hentry]
  have hremove : Server.execute (.removeMembers (openKey a.tenant a.device) [a.id]) s =
      (.ok (), s₁) := by
    simp [Server.execute, hrun]
  refine ⟨s₁.erase (claimKey a.rule a.device), ?_, hunlisted.unclaim ha hclaimed⟩
  rw [runOn_eq, runWith_close, hremove]
  simp only [← runOn_eq, runOn_deleteIfEquals a.id hclaim, if_true]

/-! ### Creating an alert -/

/-- The server after an alert's claim was taken. -/
def reserved (a : Alert) (s : Server) : Server :=
  s.write (claimKey a.rule a.device) (.text a.id)

theorem find?_reserved_of_isIndex
    {key : String}
    (hkey : IsIndex key) :
    (reserved a s).find? key = s.find? key :=
  Server.find?_write_of_ne _ _ (hkey.ne_claimKey a.rule a.device)

theorem text?_reserved :
    (reserved a s).text? (claimKey a.rule a.device) = .ok (some a.id) := by
  simp [reserved, Server.text?]

/-- A claim that was free is free again once it is given back. -/
theorem find?_erase_reserved
    (h : s.find? (claimKey a.rule a.device) = none)
    (key : String) :
    ((reserved a s).erase (claimKey a.rule a.device)).find? key = s.find? key := by
  rw [reserved, Server.erase_write _ h]
  rfl

theorem Kept.reserved
    (h : Kept s)
    (a : Alert) :
    Kept (reserved a s) :=
  h.changeClaim (by simp [Indexed.reserved]) fun key hkey => Server.find?_write_of_ne _ _ hkey

theorem execute_setIfAbsent_of_held
    (h : (s.find? (claimKey a.rule a.device)).isSome = true) :
    Server.execute (.setIfAbsent (claimKey a.rule a.device) a.id) s = (.ok false, s) := by
  rw [Server.execute, if_pos h]

theorem execute_setIfAbsent_of_free
    (h : s.find? (claimKey a.rule a.device) = none) :
    Server.execute (.setIfAbsent (claimKey a.rule a.device) a.id) s =
      (.ok true, reserved a s) := by
  rw [Server.execute, if_neg (by simp [h])]
  rfl

theorem run_create
    (h : Mirrors alerts listed claimed s)
    (hnew : a.id ∉ alerts.map Alert.id) :
    if (s.find? (claimKey a.rule a.device)).isSome then
      (create a).runOn s = (.error (.openAlertExists a.rule a.device), s)
    else
      ∃ s', (create a).runOn s = (.ok (), s') ∧
        Mirrors (alerts ++ [a]) (fun id => listed id ∨ id = a.id)
          (fun id => claimed id ∨ id = a.id) s' := by
  simp only [runOn_eq, runWith_create]
  split_ifs with hheld
  · rw [execute_setIfAbsent_of_held hheld]
  · have hfree : s.find? (claimKey a.rule a.device) = none := by simpa using hheld
    obtain ⟨s', hrun, henters⟩ := (h.kept.reserved a).execute_setAndIndex a
    refine ⟨s', ?_, h.create hnew hfree henters⟩
    rw [execute_setIfAbsent_of_free hfree]
    simp only [hrun]

end Indexed
end TelemetryAlerts
