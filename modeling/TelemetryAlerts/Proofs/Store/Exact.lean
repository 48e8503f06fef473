import TelemetryAlerts.Proofs.Store.Faults

/-!
# Exact indexes

On a key server the indexes and claims are copies of what the documents of the alerts say.
They are exact if nothing is missing and nothing is left over: an id stands in an index
just if a stored alert belongs there, a claim is held just by a stored open alert, and no
other key is on the server. Requests keep the copies exact, also if they fail, as long as
they fail early. A request to end an alert that fails after it stored the end leaves the
entries of the alert behind.

**Results.**
* `Mirrored.turn`: a turn that fails early, if at all, leads from one exact server to
  another.
* `exact_iff`: a run of such turns leaves exact indexes, and a failing request to end an
  alert does so just if it is cut short before the end was stored.
-/

namespace TelemetryAlerts

theorem Alert.Colonless.congr
    {a b : Alert}
    (h : a.Colonless)
    (htenant : a.tenant = b.tenant)
    (hrule : a.rule = b.rule)
    (hdevice : a.device = b.device) :
    b.Colonless :=
  ⟨htenant ▸ h.tenant, hrule ▸ h.rule, hdevice ▸ h.device⟩

/-- Whether a turn that has more than two commands does not fail after the second. -/
def Turn.FailsEarly (t : Turn) : Prop :=
  match t.request with
  | .create _ | .resolve _ _ _ => ∀ f ∈ t.faults.drop 2, f = none
  | _ => True

namespace Line

variable {α : Type}

/-- Without failures a program runs as on the server itself. -/
theorem run_calm
    (p : Program Command Command.Reply α) (s : Server) {faults : List (Option Failure)}
    (hcalm : ∀ f ∈ faults, f = none) :
    ∃ rest, Program.run execute p ⟨s, faults⟩ =
      ((Program.run Server.execute p s).1, ⟨(Program.run Server.execute p s).2, rest⟩) := by
  induction p generalizing s faults with
  | done x =>
      exact ⟨faults, rfl⟩
  | call c next ih =>
      have hhead : faults.headD none = none := by
        cases faults with
        | nil =>
            rfl
        | cons f faults =>
            exact hcalm f (by simp)
      rw [Program.run, execute_of_none c _ hhead]
      exact ih _ _ fun f hf => hcalm f (List.mem_of_mem_tail hf)

theorem runWith_calm
    (a : ServerAction α) (s : Server) {faults : List (Option Failure)}
    (hcalm : ∀ f ∈ faults, f = none) :
    ∃ rest, a.runWith execute ⟨s, faults⟩ = ((a.runOn s).1, ⟨(a.runOn s).2, rest⟩) :=
  run_calm (ExceptT.run a) s hcalm

/-- A line fails at its first command, at its second, or not at all. -/
theorem early_cases
    {faults : List (Option Failure)}
    (hearly : ∀ f ∈ faults.drop 2, f = none) :
    (∃ e, faults.headD none = some e) ∨
      (faults.headD none = none ∧ ∃ e, faults.tail.headD none = some e ∧
        ∀ f ∈ faults.tail.tail, f = none) ∨
      ∀ f ∈ faults, f = none := by
  rcases faults with _ | ⟨_ | e, faults⟩
  · exact Or.inr (Or.inr (by simp))
  · rcases faults with _ | ⟨_ | e, faults⟩
    · exact Or.inr (Or.inr (by simp))
    · exact Or.inr (Or.inr (by simpa using hearly))
    · exact Or.inr (Or.inl ⟨rfl, e, rfl, hearly⟩)
  · exact Or.inl ⟨e, rfl⟩

end Line

namespace Indexed

open ServerAction (Ensures)

variable {s : Server} {a b : Alert} {alerts : List Alert} {ids : List String}

/-! ### Exact indexes -/

/-- Whether the keys on a server say exactly what the documents of its alerts say. -/
structure Exact (s : Server) : Prop where
  documents : ∀ id e, s.find? (alertKey id) = some e → ∃ a, Stored s a ∧ a.id = id
  ofTenant : ∀ id tenant, id ∈ s.set (tenantKey tenant) ↔
    ∃ a, Stored s a ∧ a.id = id ∧ a.tenant = tenant
  ofPair : ∀ id rule device, id ∈ s.set (pairKey rule device) ↔
    ∃ a, Stored s a ∧ a.id = id ∧ a.rule = rule ∧ a.device = device
  ofOpen : ∀ id tenant device, id ∈ s.set (openKey tenant device) ↔
    ∃ a, Stored s a ∧ a.id = id ∧ a.tenant = tenant ∧ a.device = device ∧ a.isOpen = true
  ofClaim : ∀ rule device e, s.find? (claimKey rule device) = some e ↔
    ∃ a, Stored s a ∧ e = .text a.id ∧ a.rule = rule ∧ a.device = device ∧ a.isOpen = true
  nothingElse : ∀ key e, s.find? key = some e → ∃ a, Stored s a ∧
    (key = alertKey a.id ∨ key = tenantKey a.tenant ∨ key = pairKey a.rule a.device ∨
      (key = openKey a.tenant a.device ∨ key = claimKey a.rule a.device) ∧ a.isOpen = true)

/-- What a document tells of an alert holds of a stored alert just if it holds of one of
the list. -/
theorem Mirrors.exists_stored
    {listed claimed : String → Prop} {p : Alert → Prop}
    (h : Mirrors alerts listed claimed s)
    (hp : ∀ a b, documentText a = documentText b → p b → p a) :
    (∃ a ∈ alerts, p a) ↔ ∃ a, Stored s a ∧ p a := by
  constructor
  · rintro ⟨a, ha, hpa⟩
    exact ⟨a, h.stored a ha, hpa⟩
  · rintro ⟨a, ha, hpa⟩
    obtain ⟨b, hb, -, htext⟩ := h.exists_of_stored ha
    exact ⟨b, hb, hp b a htext.symm hpa⟩

/-- Every key on a server belongs to one of its alerts. -/
theorem Mirrors.belongs
    {key : String} {e : Entry}
    (h : Mirrors alerts (OpenIn alerts) (OpenIn alerts) s)
    (hplain : ∀ a ∈ alerts, a.Colonless)
    (he : s.find? key = some e) :
    ∃ a ∈ alerts, key = alertKey a.id ∨ key = tenantKey a.tenant ∨ key = pairKey a.rule a.device ∨
      (key = openKey a.tenant a.device ∨ key = claimKey a.rule a.device) ∧ a.isOpen = true := by
  rcases (h.own key e he).1 with
    ⟨id, rfl⟩ | ⟨tenant, rfl⟩ | ⟨rule, device, rfl⟩ | ⟨tenant, device, rfl⟩ | ⟨rule, device, rfl⟩
  · obtain ⟨a, ha, rfl⟩ := h.complete id e he
    exact ⟨a, ha, Or.inl rfl⟩
  · obtain ⟨id, hid⟩ := h.exists_mem_set (by simp [IsIndex]) he
    obtain ⟨a, ha, -, rfl⟩ := h.mem_tenantKey.mp hid
    exact ⟨a, ha, Or.inr (Or.inl rfl)⟩
  · obtain ⟨id, hid⟩ := h.exists_mem_set (by simp [IsIndex]) he
    obtain ⟨a, ha, -, rfl, rfl⟩ := (h.mem_pairKey hplain).mp hid
    exact ⟨a, ha, Or.inr (Or.inr (Or.inl rfl))⟩
  · obtain ⟨id, hid⟩ := h.exists_mem_set (by simp [IsIndex]) he
    obtain ⟨a, ha, -, rfl, rfl, hopen⟩ := (h.mem_openKey_of_colonless hplain).mp hid
    exact ⟨a, ha, Or.inr (Or.inr (Or.inr ⟨Or.inl rfl, hopen⟩))⟩
  · obtain ⟨a, ha, -, rfl, rfl, hopen⟩ := (h.find?_claimKey_of_colonless hplain).mp he
    exact ⟨a, ha, Or.inr (Or.inr (Or.inr ⟨Or.inr rfl, hopen⟩))⟩

theorem exact_of_mirrors
    (h : Mirrors alerts (OpenIn alerts) (OpenIn alerts) s)
    (hplain : ∀ a ∈ alerts, a.Colonless) :
    Exact s where
  documents id e he := by
    obtain ⟨a, ha, hid⟩ := h.complete id e he
    exact ⟨a, h.stored a ha, hid⟩
  ofTenant id tenant := by
    rw [h.mem_tenantKey, h.exists_stored]
    rintro a b htext ⟨rfl, rfl⟩
    obtain ⟨hid, htenant, -⟩ := Alert.identity_of_storedText htext
    exact ⟨hid, htenant⟩
  ofPair id rule device := by
    rw [h.mem_pairKey hplain, h.exists_stored]
    rintro a b htext ⟨rfl, rfl, rfl⟩
    obtain ⟨hid, -, hrule, hdevice, -⟩ := Alert.identity_of_storedText htext
    exact ⟨hid, hrule, hdevice⟩
  ofOpen id tenant device := by
    rw [h.mem_openKey_of_colonless hplain, h.exists_stored]
    rintro a b htext ⟨rfl, rfl, rfl, hopen⟩
    obtain ⟨hid, htenant, -, hdevice, -⟩ := Alert.identity_of_storedText htext
    exact ⟨hid, htenant, hdevice, (Alert.isOpen_of_storedText htext).trans hopen⟩
  ofClaim rule device e := by
    rw [h.find?_claimKey_of_colonless hplain, h.exists_stored]
    rintro a b htext ⟨rfl, rfl, rfl, hopen⟩
    obtain ⟨hid, -, hrule, hdevice, -⟩ := Alert.identity_of_storedText htext
    exact ⟨by rw [hid], hrule, hdevice, (Alert.isOpen_of_storedText htext).trans hopen⟩
  nothingElse key e he := by
    obtain ⟨a, ha, hkey⟩ := h.belongs hplain he
    exact ⟨a, h.stored a ha, hkey⟩

/-! ### Turns -/

/-- Whether a server mirrors alerts with known ids that can be told apart in keys. -/
def Mirrored (ids : List String) (s : Server) : Prop :=
  ∃ alerts, Mirrors alerts (OpenIn alerts) (OpenIn alerts) s ∧
    ∀ a ∈ alerts, a.Colonless ∧ a.id ∈ ids

theorem Mirrored.kept
    (h : Mirrored ids s) :
    Kept s := by
  obtain ⟨alerts, h, -⟩ := h
  exact h.kept

theorem Mirrored.exact
    (h : Mirrored ids s) :
    Exact s := by
  obtain ⟨alerts, h, hplain⟩ := h
  exact exact_of_mirrors h fun a ha => (hplain a ha).1

/-- Storing a stored alert again, changed but as open as it was. -/
theorem Mirrored.save
    (h : Mirrored ids s)
    (hb : Stored s b)
    (hid : a.id = b.id)
    (htenant : a.tenant = b.tenant)
    (hrule : a.rule = b.rule)
    (hdevice : a.device = b.device)
    (hopen : a.isOpen = b.isOpen) :
    Mirrored ids (s.write (alertKey a.id) (.text (documentText a))) := by
  obtain ⟨alerts, h, hplain⟩ := h
  obtain ⟨c, hc, hbc, htext⟩ := h.exists_of_stored hb
  obtain ⟨-, htenantc, hrulec, hdevicec, -⟩ := Alert.identity_of_storedText htext
  have hidc := hid.trans hbc
  have hopenc : a.isOpen = c.isOpen := hopen.trans (Alert.isOpen_of_storedText htext)
  have hsaved := h.save hc hidc (htenant.trans htenantc) (hrule.trans hrulec)
    (hdevice.trans hdevicec)
  refine ⟨Memory.put a alerts, mirrors_insert (m := ⟨alerts⟩) hsaved h.ids hc hidc hopenc,
    fun d hd => ?_⟩
  rcases (Memory.mem_put h.ids).mp hd with rfl | ⟨hd, -⟩
  · obtain ⟨hcolonless, hknown⟩ := hplain c hc
    exact ⟨hcolonless.congr (htenant.trans htenantc).symm (hrule.trans hrulec).symm
      (hdevice.trans hdevicec).symm, hidc ▸ hknown⟩
  · exact hplain d hd

/-- A change that leaves an alert as open as it was keeps the indexes exact, whichever of
its commands fail. -/
theorem ensures_change
    (now : Moment) (c : Change)
    (hopen : ∀ a, c.may a = true → (c.apply a).isOpen = a.isOpen) :
    Ensures (Mirrored ids) (update now c.id c.tenant c.may c.apply) fun _ s => Mirrored ids s := by
  exact ensures_update_of (fun s hs => hs.kept) now c (fun s hs _ => hs) (fun e s hs => hs)
    fun s b hs hb _ _ hmay => hs.save hb (c.id_apply b) (c.tenant_apply b) (c.rule_apply b)
      (c.device_apply b) (hopen b hmay)

/-- A request to end an alert that fails early has not stored anything yet. -/
theorem Mirrored.resolve
    (h : Mirrored ids s)
    (now : Moment) (id tenant : String) (reason? : Option String)
    {faults : List (Option Failure)}
    (hearly : ∀ f ∈ faults.drop 2, f = none) :
    Mirrored ids ((serve now (.resolve id tenant reason?)).runWith Line.execute
      ⟨s, faults⟩).2.server := by
  obtain ⟨a?, hget, -⟩ := h.kept.text_alertKey id
  rcases Line.early_cases hearly with ⟨e, hfirst⟩ | ⟨hfirst, e, hsecond, -⟩ | hcalm
  · have hload := Line.execute_of_some (.get (alertKey id)) ⟨s, faults⟩ hfirst
    rw [runWith_resolve, runWith_update, runWith_loadFor_of_error tenant hload]
    exact h
  · have hload : Line.execute (.get (alertKey id)) ⟨s, faults⟩ =
        (.ok (a?.map documentText), ⟨s, faults.tail⟩) := by
      rw [Line.execute_of_none _ _ hfirst]
      simp [Server.execute, hget]
    obtain ⟨o, hloaded⟩ : ∃ o, (loadFor now id tenant).runWith Line.execute ⟨s, faults⟩ =
        (o, ⟨s, faults.tail⟩) := ⟨_, runWith_loadFor tenant hload⟩
    rw [runWith_resolve, runWith_update, hloaded]
    rcases o with e | _ | a
    · exact h
    · exact h
    · simp only [Line.execute_of_some _ ⟨s, faults.tail⟩ hsecond]
      split_ifs <;> exact h
  · obtain ⟨rest, hrun⟩ := Line.runWith_calm (serve now (.resolve id tenant reason?)) s hcalm
    rw [hrun]
    obtain ⟨alerts, h, hplain⟩ := h
    obtain ⟨alerts', h', hevolves⟩ := resolve_mirrors h now id tenant reason?
    have horigin := (hevolves.map_origin h.ids).resolve_right (by simp)
    refine ⟨alerts', h', fun a ha => ?_⟩
    have hmem := List.mem_map_of_mem (f := Alert.origin) ha
    rw [horigin] at hmem
    obtain ⟨b, hb, hab⟩ := List.mem_map.mp hmem
    simp only [Alert.origin, Prod.mk.injEq] at hab
    obtain ⟨hid, htenant, hrule, hdevice, -⟩ := hab
    obtain ⟨hcolonless, hknown⟩ := hplain b hb
    exact ⟨hcolonless.congr htenant hrule hdevice, hid ▸ hknown⟩

/-- A new alert is stored with all its entries, or not at all. -/
theorem Mirrored.create
    (h : Mirrored ids s)
    (hplain : a.Colonless)
    (hnew : a.id ∉ ids)
    (hopen : a.isOpen = true)
    {faults : List (Option Failure)}
    (hearly : ∀ f ∈ faults.drop 2, f = none) :
    Mirrored (a.id :: ids) ((create a).runWith Line.execute ⟨s, faults⟩).2.server := by
  have hgrown : Mirrored (a.id :: ids) s := by
    obtain ⟨alerts, h, hall⟩ := h
    exact ⟨alerts, h, fun b hb => ⟨(hall b hb).1, List.mem_cons_of_mem _ (hall b hb).2⟩⟩
  rcases Line.early_cases hearly with ⟨e, hfirst⟩ | ⟨hfirst, e, hsecond, hcalm⟩ | hcalm
  · rw [runWith_create, Line.execute_of_some _ _ hfirst]
    exact hgrown
  · rw [runWith_create, Line.execute_of_none _ _ hfirst]
    by_cases hheld : (s.find? (claimKey a.rule a.device)).isSome = true
    · rw [execute_setIfAbsent_of_held hheld]
      exact hgrown
    · -- the claim is made and taken back
      have hfree : s.find? (claimKey a.rule a.device) = none := by simpa using hheld
      obtain ⟨rest, hrun⟩ := Line.runWith_calm
        (ServerAction.deleteIfEquals (claimKey a.rule a.device) a.id) (reserved a s) hcalm
      rw [runOn_deleteIfEquals a.id text?_reserved, if_pos rfl] at hrun
      obtain ⟨alerts, hmirrors, hall⟩ := hgrown
      refine ⟨alerts, hmirrors.of_find? fun key => ?_, hall⟩
      have hstore := Line.execute_of_some (.setAndIndex (alertKey a.id) (documentText a)
        [tenantKey a.tenant, pairKey a.rule a.device, openKey a.tenant a.device] a.id)
        ⟨reserved a s, faults.tail⟩ hsecond
      simp only [execute_setIfAbsent_of_free hfree, hstore, hrun, find?_erase_reserved hfree]
  · obtain ⟨rest, hrun⟩ := Line.runWith_calm (Indexed.create a) s hcalm
    rw [hrun]
    obtain ⟨alerts, h, hall⟩ := h
    have hfresh : a.id ∉ alerts.map Alert.id := fun hmem => by
      obtain ⟨b, hb, hid⟩ := List.mem_map.mp hmem
      exact hnew (hid ▸ (hall b hb).2)
    have hcreate := run_create h hfresh
    split_ifs at hcreate
    · rw [hcreate]
      exact hgrown
    · obtain ⟨s', hcreate, hmirrors⟩ := hcreate
      rw [hcreate]
      refine ⟨alerts ++ [a], mirrors_append hmirrors h.ids hfresh hopen, fun b hb => ?_⟩
      rcases List.mem_append.mp hb with hb | hb
      · exact ⟨(hall b hb).1, List.mem_cons_of_mem _ (hall b hb).2⟩
      · rw [List.mem_singleton.mp hb]
        exact ⟨hplain, by simp⟩

/-- A turn that fails early, if at all, leads from one mirror to another. -/
theorem Mirrored.turn
    {t : Turn}
    (h : Mirrored ids s)
    (hearly : t.FailsEarly)
    (hcreate : ∀ a ∈ t.created?, a.Colonless ∧ a.id ∉ ids ∧ a.isOpen = true) :
    Mirrored ((t.created?.map Alert.id).toList ++ ids)
      ((serve t.now t.request).runWith Line.execute ⟨s, t.faults⟩).2.server := by
  obtain ⟨now, r, faults⟩ := t
  cases r with
  | create a =>
      obtain ⟨hcolonless, hnew, hopen⟩ := hcreate a rfl
      exact h.create hcolonless hnew hopen hearly
  | acknowledge id tenant who? notes? =>
      exact Ensures.bind (Q := fun _ s => Mirrored ids s) (ensures_change now (.acknowledge now id tenant who? notes?)
        (Change.isOpen_acknowledge now id tenant who? notes?))
        (fun _ => .pure fun s hs => hs) (fun e s hs => hs) ⟨s, faults⟩ h
  | resolve id tenant reason? =>
      exact h.resolve now id tenant reason? hearly
  | recordNotifications id tenant count =>
      exact Ensures.bind (Q := fun _ s => Mirrored ids s) (ensures_change now (.recordNotifications now id tenant count)
        fun _ _ => rfl) (fun _ => .pure fun s hs => hs) (fun e s hs => hs) ⟨s, faults⟩ h
  | markEscalated id tenant at_ =>
      exact Ensures.bind (Q := fun _ s => Mirrored ids s) (ensures_change now (.markEscalated id tenant at_)
        fun _ _ => rfl) (fun _ => .pure fun s hs => hs) (fun e s hs => hs) ⟨s, faults⟩ h
  | _ =>
      exact ensures_read (fun s hs => hs.kept) now _ rfl ⟨s, faults⟩ h

theorem Mirrored.after
    {turns : List Turn}
    (h : Mirrored ids s)
    (hids : (ids.reverse ++ (turns.filterMap Turn.created?).map Alert.id).Nodup)
    (hcreated : ∀ a ∈ turns.filterMap Turn.created?, a.Colonless ∧ a.isOpen = true)
    (hearly : ∀ t ∈ turns, t.FailsEarly) :
    ∃ ids, Mirrored ids (Indexed.after s turns) := by
  induction turns generalizing s ids with
  | nil =>
      exact ⟨ids, h⟩
  | cons t turns ih =>
      have hturn := h.turn (hearly t (by simp))
      cases hnone : t.created? with
      | none =>
          rw [List.filterMap_cons_none hnone] at hids hcreated
          rw [hnone] at hturn
          exact ih (hturn (by simp)) hids hcreated fun u hu => hearly u (by simp [hu])
      | some a =>
          rw [List.filterMap_cons_some hnone] at hids hcreated
          rw [hnone] at hturn
          obtain ⟨hcolonless, hopen⟩ := hcreated a (by simp)
          have hnew : a.id ∉ ids := fun hmem =>
            (List.nodup_append.mp hids).2.2 _ (List.mem_reverse.mpr hmem) _ (by simp) rfl
          refine ih (hturn fun b hb => ?_) (by simpa using hids)
            (fun b hb => hcreated b (by simp [hb])) fun u hu => hearly u (by simp [hu])
          cases hb
          exact ⟨hcolonless, hnew, hopen⟩

theorem Mirrored.empty :
    Mirrored [] {} :=
  ⟨[], Mirrors.empty, by simp⟩

/-- The claim of an alert that is stored as ended says more than the documents. -/
theorem not_exact_of_claim
    (ha : Stored s a)
    (hclosed : a.isOpen = false)
    (hclaim : s.find? (claimKey a.rule a.device) = some (.text a.id)) :
    ¬ Exact s := by
  intro h
  obtain ⟨b, hb, hid, -, -, hopen⟩ := (h.ofClaim _ _ _).mp hclaim
  have hsame : a.id = b.id := by simpa using hid
  exact hb.id_ne ha hopen hclosed hsame.symm

/-- A request to end an alert that fails leaves exact indexes just if the end of the alert
was not stored yet. -/
theorem Mirrored.interrupted_resolve
    {b : Alert}
    (h : Mirrored ids s)
    (hb : Stored s b)
    (now : Moment) (tenant : String) (reason? : Option String) (k : Nat) (e : Failure)
    (hstruck : (interrupted s now (.resolve b.id tenant reason?) k e).faults = []) :
    Exact (interrupted s now (.resolve b.id tenant reason?) k e).server ↔ k < 2 := by
  have hexact := h.exact
  obtain ⟨alerts, h, -⟩ := h
  obtain ⟨a, ha, hid, -⟩ := h.exists_of_stored hb
  rw [hid] at hstruck ⊢
  by_cases hlegible : a.isLegible = true
  · rcases resolve_failing h ha hlegible now tenant reason? k e with
      ⟨hk, hrun⟩ | ⟨hk, -, hopen, s', listed', hrun, hended⟩ | ⟨hleft, -⟩
    · rw [interrupted_of_run hrun]
      exact iff_of_true hexact hk
    · rw [interrupted_of_run hrun]
      have hmem : (a.resolve reason? now).readBack ∈
          Memory.put (a.resolve reason? now).readBack alerts :=
        (Memory.mem_put h.ids).mpr (Or.inl rfl)
      refine iff_of_false (not_exact_of_claim (hended.stored _ hmem) rfl ?_) (by omega)
      exact (hended.ofClaim _ _ _).mpr ⟨_, hmem, rfl, rfl, a, ha, rfl, hopen⟩
    · exact absurd hstruck hleft
  · have hreading : a.reading = .error (.kind .unusableValue) := if_neg hlegible
    cases k with
    | zero =>
        have hrun : (serve now (.resolve a.id tenant reason?)).runWith Line.execute
            (.failing s 0 e) = (.error e, ⟨s, []⟩) := by
          rw [runWith_resolve, runWith_update,
            runWith_loadFor_of_error tenant Line.execute_failing_zero]
        rw [interrupted_of_run hrun]
        exact iff_of_true hexact (by omega)
    | succ k =>
        have hget : Line.execute (.get (alertKey a.id)) (.failing s (k + 1) e) =
            (.ok ((some a).map documentText), .failing s k e) := by
          rw [Line.execute_failing_succ, h.get ha]
          rfl
        have hrun : (serve now (.resolve a.id tenant reason?)).runWith Line.execute
            (.failing s (k + 1) e) = (.error (.kind .unusableValue), .failing s k e) := by
          rw [runWith_resolve, runWith_update, runWith_loadFor tenant hget, Option.mapM_some,
            hreading]
          rfl
        rw [interrupted_of_run hrun] at hstruck
        exact absurd hstruck Line.faults_failing_ne_nil

end Indexed

open Indexed

/-- Requests that fail early, if they fail, leave on the server just what the documents of
its alerts say, if the ids of new alerts are new and hold no colon. A request to end an
alert leaves entries behind just if it fails after the end was stored. -/
theorem exact_iff
    (turns : List Turn)
    (h : Fresh turns)
    (hcolonless : ∀ a ∈ turns.filterMap Turn.created?, a.Colonless)
    (hearly : ∀ t ∈ turns, t.FailsEarly) :
    Exact (after {} turns) ∧
      ∀ a, Stored (after {} turns) a → ∀ now tenant reason? k e,
        (interrupted (after {} turns) now (.resolve a.id tenant reason?) k e).faults = [] →
          (Exact (interrupted (after {} turns) now (.resolve a.id tenant reason?) k e).server ↔
            k < 2) := by
  have hcreated (a : Alert) (ha : a ∈ turns.filterMap Turn.created?) :
      a.Colonless ∧ a.isOpen = true := ⟨hcolonless a ha, h.opened a ha⟩
  obtain ⟨ids, hmirrored⟩ := Mirrored.empty.after (by simpa using h.ids) hcreated hearly
  exact ⟨hmirrored.exact, fun a ha now tenant reason? k e hstruck =>
    hmirrored.interrupted_resolve ha now tenant reason? k e hstruck⟩

/-- The last turn of a run may fail at one command. -/
theorem after_failing
    (s : Server) (turns : List Turn) (now : Moment) (r : Request) (k : Nat) (e : Failure) :
    after s (turns ++ [⟨now, r, List.replicate k none ++ [some e]⟩]) =
      (interrupted (after s turns) now r k e).server := by
  simp [after, interrupted, Line.failing]

/-- The alert of the first run is raised, and then a request to end it fails after its
second command. -/
def cutRun : List Turn :=
  firstRun ++ [⟨firstNoon, .resolve firstAlert.id "tenant-a" none,
    List.replicate 2 none ++ [some .timedOut]⟩]

theorem after_firstRun :
    after {} firstRun = reached {} firstRun := by
  obtain ⟨rest, hrun⟩ := Line.runWith_calm (serve firstNoon (.create firstAlert)) {}
    (List.forall_mem_nil (· = none))
  exact congrArg (fun r => r.2.server) hrun

theorem not_exact_after_cutRun :
    ¬ Exact (after {} cutRun) := by
  obtain ⟨s, hrun, hblocked⟩ := interrupted_firstRun
  have hafter : after {} cutRun = s := by
    rw [cutRun, after_failing, after_firstRun, hrun]
  rw [hafter]
  intro hexact
  obtain ⟨e, he⟩ := Option.isSome_iff_exists.mp hblocked.1
  obtain ⟨a, ha, -, hrule, hdevice, hopen⟩ := (hexact.ofClaim _ _ _).mp he
  exact hblocked.2 a ha hopen ⟨hrule, hdevice⟩

theorem exact_iff_firstRun :
    Exact (after {} firstRun) ∧
      ¬ Exact (interrupted (after {} firstRun) firstNoon
        (.resolve firstAlert.id "tenant-a" none) 2 .timedOut).server := by
  have hcolonless : ∀ a ∈ firstRun.filterMap Turn.created?, a.Colonless := by
    intro a ha
    obtain rfl : a = firstAlert := List.mem_singleton.mp ha
    exact ⟨by decide, by decide, by decide⟩
  have hearly : ∀ t ∈ firstRun, t.FailsEarly := by
    intro t ht
    obtain rfl := List.mem_singleton.mp ht
    exact fun f hf => by cases hf
  obtain ⟨hexact, hcut⟩ := exact_iff firstRun fresh_firstRun hcolonless hearly
  obtain ⟨s, hrun, -⟩ := interrupted_firstRun
  rw [after_firstRun] at hcut
  have hiff := hcut firstAlert (mirrors_firstRun.stored firstAlert (by simp)) firstNoon
    "tenant-a" none 2 .timedOut (by rw [hrun])
  refine ⟨hexact, ?_⟩
  rw [after_firstRun, hiff]
  decide

/-- The indexes are not exact after a run of failing requests. -/
theorem not_exact_cutRun :
    ¬ ∀ turns, Fresh turns → (∀ a ∈ turns.filterMap Turn.created?, a.Colonless) →
      Exact (after {} turns) := by
  intro hall
  refine not_exact_after_cutRun (hall cutRun ⟨by decide, by decide⟩ fun a ha => ?_)
  obtain rfl : a = firstAlert := List.mem_singleton.mp ha
  exact ⟨by decide, by decide, by decide⟩

end TelemetryAlerts
