import TelemetryAlerts.Proofs.Store.Exact

/-!
# What the indexes name

An alert is found through the index of its tenant, or through that of its device while it is
open. The first names exactly the stored alerts of the tenant. The second names all open alerts
of the device, and perhaps some that have ended: the command that takes them out may have
failed. Both stay so whichever commands fail, as long as no id is given to two new alerts.

**Results.**
* `Filed.store`, `Filed.unlist`, `Filed.create`: what the commands of a request do to the indexes.
* `serve_filed`: serving a request keeps the indexes so, whichever of its commands fail.
* `Kept.run_change`, `Kept.run_create`, `Kept.run_read`: what requests do if no command fails.
-/

namespace TelemetryAlerts

/-- Whether a reply to a request for a change says that the change was made, or that it was not;
not every reply tells. -/
def Request.Tells (done : Bool) : (r : Request) → Outcome r.Reply → Prop
  | .acknowledge _ _ _ _, o => o = .ok done
  | .resolve _ _ _, o => o = .ok done
  | .recordNotifications _ _ _, o => o = .ok ()
  | .markEscalated _ _ _, o => o = .ok ()
  | _, _ => False

namespace Indexed

open ServerAction (Ensures)

variable {s s' : Server} {a b : Alert} {used : List String}

/-- What is stored under an id after an alert was stored under its own. -/
theorem stored_write :
    Stored (s.write (alertKey a.id) (.text (documentText a))) b ↔
      if b.id = a.id then documentText b = documentText a else Stored s b := by
  unfold Stored
  split_ifs with hid
  · rw [hid, Server.find?_write_self, Option.some.injEq, Entry.text.injEq, eq_comm]
  · rw [Server.find?_write_of_ne _ _ (alertKey_injective.ne hid)]

/-- An alert that takes the place of a stored one with which it shares something leaves what
is shared by the stored alerts. -/
theorem exists_stored_write
    {β : Type} (f : Alert → β)
    (houtline : ∀ x, f x.outline = f x)
    (hb : Stored s b)
    (hid : a.id = b.id)
    (hf : f a = f b)
    (y : β) :
    (∃ x, Stored (s.write (alertKey a.id) (.text (documentText a))) x ∧ f x = y) ↔
      ∃ x, Stored s x ∧ f x = y := by
  constructor
  · rintro ⟨x, hx, rfl⟩
    rw [stored_write] at hx
    split_ifs at hx with hxid
    · refine ⟨b, hb, ?_⟩
      rw [← hf, ← houtline a, ← houtline x, Alert.outline_of_storedText hx]
    · exact ⟨x, hx, rfl⟩
  · rintro ⟨x, hx, rfl⟩
    by_cases hxid : x.id = a.id
    · refine ⟨a, Server.find?_write_self _ _ _, ?_⟩
      rw [hf, ← houtline b, ← houtline x, hx.outline hb (hxid.trans hid)]
    · exact ⟨x, stored_write.mpr (by rwa [if_neg hxid]), rfl⟩

/-! ### The invariant -/

/-- The index of a tenant names exactly the stored alerts of the tenant; that of a device names
its open alerts, and no alerts of other devices. The ids of stored alerts are in use. -/
structure Filed (used : List String) (s : Server) : Prop extends Kept s where
  used : ∀ a, Stored s a → a.id ∈ used
  ofTenant : ∀ id tenant, id ∈ s.set (tenantKey tenant) ↔
    ∃ a, Stored s a ∧ (a.id, a.tenant) = (id, tenant)
  ofOpen : ∀ id tenant device, id ∈ s.set (openKey tenant device) →
    ∃ a, Stored s a ∧ (a.id, openKey a.tenant a.device) = (id, openKey tenant device)
  openListed : ∀ a, Stored s a → a.isOpen = true → a.id ∈ s.set (openKey a.tenant a.device)

namespace Filed

theorem empty :
    Filed [] {} where
  toKept := Coherent.empty.toKept
  used _ h := by simp [Stored, Server.find?] at h
  ofTenant _ _ := by simp [Server.set, Server.find?, Stored]
  ofOpen _ _ _ h := by simp [Server.set, Server.find?] at h
  openListed _ h := by simp [Stored, Server.find?] at h

/-- A claim may change, as long as it holds a text. -/
theorem changeClaim
    {rule device : String}
    (h : Filed used s)
    (htext : ∀ e, s'.find? (claimKey rule device) = some e → ∃ t, e = .text t)
    (hsame : ∀ key, key ≠ claimKey rule device → s'.find? key = s.find? key) :
    Filed used s' := by
  have hstored (x : Alert) : Stored s' x ↔ Stored s x := by
    rw [Stored, hsame _ (ne_of_keyWord (by simp)), Stored]
  have hset (key : String) (hkey : IsIndex key) : s'.set key = s.set key :=
    Server.set_congr (hsame _ (hkey.ne_claimKey rule device))
  exact {
    toKept := h.toKept.changeClaim htext hsame
    used := fun x hx => h.used x ((hstored x).mp hx)
    ofTenant := fun id tenant => by
      simp only [hset _ (show IsIndex (tenantKey tenant) by simp [IsIndex]), hstored, h.ofTenant]
    ofOpen := fun id tenant device => by
      simp only [hset _ (show IsIndex (openKey tenant device) by simp [IsIndex]), hstored]
      exact h.ofOpen id tenant device
    openListed := fun x hx hopen => by
      rw [hset _ (by simp [IsIndex])]
      exact h.openListed x ((hstored x).mp hx) hopen }

/-- Storing a changed alert again; what has ended stays so. -/
theorem store
    (h : Filed used s)
    (hb : Stored s b)
    (hid : a.id = b.id)
    (htenant : a.tenant = b.tenant)
    (hdevice : a.device = b.device)
    (hopen : a.isOpen = true → b.isOpen = true) :
    Filed used (s.write (alertKey a.id) (.text (documentText a))) where
  toKept := h.toKept.store a
  used x hx := by
    rw [stored_write] at hx
    split_ifs at hx with hxid
    · rw [hxid, hid]
      exact h.used b hb
    · exact h.used x hx
  ofTenant id tenant := by
    rw [Server.set_congr (Server.find?_write_of_ne _ _ (ne_of_keyWord (by simp))), h.ofTenant,
      exists_stored_write (fun x => (x.id, x.tenant)) (fun _ => rfl) hb hid
        (by rw [hid, htenant])]
  ofOpen id tenant device hmem := by
    rw [Server.set_congr (Server.find?_write_of_ne _ _ (ne_of_keyWord (by simp)))] at hmem
    rw [exists_stored_write (fun x => (x.id, openKey x.tenant x.device)) (fun _ => rfl) hb hid
      (by rw [hid, htenant, hdevice])]
    exact h.ofOpen id tenant device hmem
  openListed x hx hopenx := by
    rw [Server.set_congr (Server.find?_write_of_ne _ _ (ne_of_keyWord (by simp)))]
    rw [stored_write] at hx
    split_ifs at hx with hxid
    · obtain ⟨-, htenantx, -, hdevicex, -⟩ := Alert.identity_of_storedText hx
      have hopena : a.isOpen = true := by rw [← Alert.isOpen_of_storedText hx, hopenx]
      rw [htenantx, hdevicex, hxid, htenant, hdevice, hid]
      exact h.openListed b hb (hopen hopena)
    · exact h.openListed x hx hopenx

/-- An alert that has ended may be taken out of the index of open ones. -/
theorem unlist
    (h : Filed used s)
    (ha : Stored s a)
    (hclosed : a.isOpen = false) :
    ∃ s', Server.execute (.removeMembers (openKey a.tenant a.device) [a.id]) s = (.ok (), s') ∧
      Filed used s' ∧ ∀ key, key ≠ openKey a.tenant a.device → s'.find? key = s.find? key := by
  have hindex : IsIndex (openKey a.tenant a.device) := by simp [IsIndex]
  obtain ⟨s', hrun, hkept, -⟩ := h.toKept.dropMembers hindex a.id
  obtain ⟨s₁, hdrop, hset, -, hsame⟩ := Server.dropMembers_spec a.id (h.sets _ hindex)
  obtain rfl : s₁ = s' := by
    simp only [Server.execute, hdrop] at hrun
    exact (Prod.mk.inj hrun).2
  have hstored (x : Alert) : Stored s₁ x ↔ Stored s x := by
    rw [Stored, hsame _ (ne_of_keyWord (by simp)), Stored]
  refine ⟨s₁, hrun, ?_, hsame⟩
  exact {
    toKept := hkept
    used := fun x hx => h.used x ((hstored x).mp hx)
    ofTenant := fun id tenant => by
      rw [Server.set_congr (hsame _ (ne_of_keyWord (by simp))), h.ofTenant]
      simp only [hstored]
    ofOpen := fun id tenant device hmem => by
      simp only [hstored]
      refine h.ofOpen id tenant device ?_
      by_cases hself : openKey tenant device = openKey a.tenant a.device
      · rw [hself, hset] at hmem
        rw [hself]
        exact (List.mem_filter.mp hmem).1
      · rwa [Server.set_congr (hsame _ hself)] at hmem
    openListed := fun x hx hopen => by
      rw [hstored] at hx
      have hlisted := h.openListed x hx hopen
      by_cases hself : openKey x.tenant x.device = openKey a.tenant a.device
      · rw [hself] at hlisted ⊢
        rw [hset]
        refine List.mem_filter.mpr ⟨hlisted, ?_⟩
        simp only [ne_eq, decide_not, Bool.not_eq_true', decide_eq_false_iff_not]
        exact hx.id_ne ha hopen hclosed
      · rw [Server.set_congr (hsame _ hself)]
        exact hlisted }

/-- Storing and entering an alert whose id is new. -/
theorem create
    (h : Filed used s)
    (hnew : a.id ∉ used) :
    ∃ s', Server.execute (.setAndIndex (alertKey a.id) (documentText a)
        [tenantKey a.tenant, pairKey a.rule a.device, openKey a.tenant a.device] a.id) s =
          (.ok (), s') ∧
      Filed (a.id :: used) s' ∧
      ∀ id, s'.find? (alertKey id) =
        (s.write (alertKey a.id) (.text (documentText a))).find? (alertKey id) := by
  obtain ⟨s', hrun, henters⟩ := h.toKept.execute_setAndIndex a
  have hstored (x : Alert) : Stored s' x ↔
      if x.id = a.id then documentText x = documentText a else Stored s x := by
    rw [← stored_write, Stored, Stored, henters.find?_alertKey]
  have hold (x : Alert) (hx : Stored s x) : Stored s' x := by
    refine (hstored x).mpr ?_
    rwa [if_neg fun hid : x.id = a.id => hnew (hid ▸ h.used x hx)]
  refine ⟨s', hrun, ?_, henters.find?_alertKey⟩
  exact {
    toKept := henters.kept h.toKept
    used := fun x hx => by
      rw [hstored] at hx
      split_ifs at hx with hid
      · rw [hid]
        exact List.mem_cons_self
      · exact List.mem_cons_of_mem _ (h.used x hx)
    ofTenant := fun id tenant => by
      rw [henters.mem_set (by simp [IsIndex]), h.ofTenant, tenantKey_mem_indexKeys]
      constructor
      · rintro (⟨x, hx, hkey⟩ | ⟨hkey, rfl⟩)
        · exact ⟨x, hold x hx, hkey⟩
        · exact ⟨a, henters.stored, by rw [tenantKey_injective hkey]⟩
      · rintro ⟨x, hx, hkey⟩
        rw [hstored] at hx
        obtain ⟨rfl, rfl⟩ := Prod.mk.inj hkey
        split_ifs at hx with hid
        · exact Or.inr ⟨by rw [(Alert.identity_of_storedText hx).2.1], hid⟩
        · exact Or.inl ⟨x, hx, rfl⟩
    ofOpen := fun id tenant device hmem => by
      rw [henters.mem_set (by simp [IsIndex]), openKey_mem_indexKeys] at hmem
      rcases hmem with hmem | ⟨hkey, rfl⟩
      · obtain ⟨x, hx, hkey⟩ := h.ofOpen id tenant device hmem
        exact ⟨x, hold x hx, hkey⟩
      · exact ⟨a, henters.stored, by rw [hkey]⟩
    openListed := fun x hx hopen => by
      rw [henters.mem_set (by simp [IsIndex]), openKey_mem_indexKeys]
      rw [hstored] at hx
      split_ifs at hx with hid
      · obtain ⟨-, htenant, -, hdevice, -⟩ := Alert.identity_of_storedText hx
        exact Or.inr ⟨by rw [htenant, hdevice], hid⟩
      · exact Or.inl (h.openListed x hx hopen) }

theorem mono
    {used' : List String}
    (h : Filed used s)
    (hsub : used ⊆ used') :
    Filed used' s :=
  { h with used := fun a ha => hsub (h.used a ha) }

end Filed

/-! ### Requests and runs -/

theorem ensures_filed_update
    (now : Moment) (c : Change) :
    Ensures (Filed used) (update now c.id c.tenant c.may c.apply) fun o s =>
      Filed used s ∧ ∀ a, o = .ok (some a) → Stored s a ∧ ∃ b, a = c.apply b := by
  refine ensures_update_of (fun s hs => hs.toKept) now c (fun s hs _ => ⟨hs, by simp⟩)
    (fun e s hs => ⟨hs, by simp⟩) fun s b hs hb _ _ hmay => ⟨?_, fun a ha => ?_⟩
  · exact hs.store hb (c.id_apply b) (c.tenant_apply b) (c.device_apply b)
      (c.isOpen_of_apply b hmay)
  · rw [← Option.some.inj (Except.ok.inj ha)]
    exact ⟨Server.find?_write_self _ _ _, b.readBack, (c.apply_readBack b).symm⟩

theorem ensures_filed_close
    (a : Alert)
    (hclosed : a.isOpen = false) :
    Ensures (fun s => Filed used s ∧ Stored s a) (close a) fun _ s => Filed used s := by
  refine .bind (R := fun _ s => Filed used s)
    (.command (fun s hs => ?_) (fun e s hs => hs.1)) ?_ (fun e s hs => hs)
  · obtain ⟨s', hrun, hfiled, -⟩ := hs.1.unlist hs.2 hclosed
    rw [hrun]
    exact hfiled
  · intro _
    exact .bind (R := fun _ s => Filed used s)
      (ServerAction.ensures_deleteIfEquals (fun s hs => hs) fun s hs _ =>
        hs.changeClaim (by simp) fun key hkey => Server.find?_erase_of_ne s hkey)
      (fun _ => .pure fun s hs => hs) (fun e s hs => hs)

theorem ensures_filed_create
    (a : Alert)
    (hnew : a.id ∉ used) :
    Ensures (Filed used) (create a) fun _ s => Filed (a.id :: used) s := by
  have hmore (s : Server) (hs : Filed used s) : Filed (a.id :: used) s :=
    hs.mono (List.subset_cons_self _ _)
  refine .bind (R := fun _ s => Filed used s)
    (.command (fun s hs => ?_) (fun e s hs => hs)) ?_ (fun e s hs => hmore s hs)
  · simp only [Server.execute]
    split_ifs
    · exact hs
    · exact hs.changeClaim (by simp) fun key hkey => Server.find?_write_of_ne s _ hkey
  · intro claimed
    split_ifs
    · refine .rescue (R := fun o s => (o = .ok () → Filed (a.id :: used) s) ∧
          ∀ e, o = .error e → Filed used s)
        (.command (fun s hs => ?_) (fun e s hs => ⟨by simp, fun _ _ => hs⟩))
        (fun x s hs => hs.1 rfl) ?_
      · obtain ⟨s', hrun, hfiled, -⟩ := hs.create hnew
        rw [hrun]
        exact ⟨fun _ => hfiled, by simp⟩
      · intro e
        exact .bind (R := fun _ s => Filed used s)
          (ServerAction.ensures_deleteIfEquals (fun s hs => hs.2 e rfl) fun s hs _ =>
            (hs.2 e rfl).changeClaim (by simp) fun key hkey => Server.find?_erase_of_ne s hkey)
          (fun _ => .throw hmore) (fun e s hs => hmore s hs)
    · exact .throw hmore

/-- Serving a request keeps the indexes exact, whichever of its commands fail. -/
theorem serve_filed
    {used' : List String}
    (now : Moment) (r : Request)
    (hnew : ∀ a, r = .create a → a.id ∉ used ∧ a.id ∈ used')
    (hsub : used ⊆ used') :
    Ensures (Filed used) (serve now r) fun _ s => Filed used' s := by
  have hmore (s : Server) (hs : Filed used s) : Filed used' s := hs.mono hsub
  cases r with
  | create a =>
      obtain ⟨hunused, hused⟩ := hnew a rfl
      exact (ensures_filed_create a hunused).weaken (fun s hs => hs) fun o s hs =>
        hs.mono (List.cons_subset.mpr ⟨hused, hsub⟩)
  | acknowledge id tenant who? notes? =>
      exact .bind (ensures_filed_update now (.acknowledge now id tenant who? notes?))
        (fun a? => .pure fun s hs => hmore s hs.1) (fun e s hs => hmore s hs.1)
  | resolve id tenant reason? =>
      refine .bind (ensures_filed_update now (.resolve now id tenant reason?)) ?_
        (fun e s hs => hmore s hs.1)
      intro a?
      cases a? with
      | none =>
          exact .pure fun s hs => hmore s hs.1
      | some a =>
          intro l hl
          obtain ⟨hs, hstored⟩ := hl
          obtain ⟨ha, b, rfl⟩ := hstored a rfl
          exact Ensures.bind (Q := fun _ s => Filed used' s) (ensures_filed_close _ rfl)
            (fun _ => .pure hmore) (fun e => hmore) l ⟨hs, ha⟩
  | recordNotifications id tenant count =>
      exact .bind (ensures_filed_update now (.recordNotifications now id tenant count))
        (fun a? => .pure fun s hs => hmore s hs.1) (fun e s hs => hmore s hs.1)
  | markEscalated id tenant at_ =>
      exact .bind (ensures_filed_update now (.markEscalated id tenant at_))
        (fun a? => .pure fun s hs => hmore s hs.1) (fun e s hs => hmore s hs.1)
  | _ =>
      exact (ensures_read (fun s hs => hs.toKept) now _ rfl).weaken (fun s hs => hs)
        fun _ s hs => hmore s hs

/-! ### Without failures -/

open ServerAction

theorem Stored.readBack_eq
    (ha : Stored s a)
    (hb : Stored s b)
    (hid : a.id = b.id)
    (hlegible : b.isLegible = true) :
    a.readBack = b.readBack := by
  rw [Stored, hid, hb] at ha
  exact Alert.readBack_of_storedText (Entry.text.inj (Option.some.inj ha)).symm hlegible

/-- An alert is found by its id and tenant, or there is none with the id, or the one with the id
cannot be read. -/
theorem Kept.run_loadFor
    (h : Kept s)
    (now : Moment) (id tenant : String) :
    (∃ b, Stored s b ∧ b.id = id ∧ b.isLegible = true ∧
      (loadFor now id tenant).runOn s =
        (.ok (if b.tenant = tenant then some b.readBack else none), s)) ∨
    ((∀ b, Stored s b → b.id ≠ id) ∧ (loadFor now id tenant).runOn s = (.ok none, s)) ∨
    (∃ b, Stored s b ∧ b.id = id ∧ b.isLegible = false) ∧
      ∃ e, (loadFor now id tenant).runOn s = (.error e, s) := by
  obtain ⟨b?, hb?, hstored⟩ := h.text_alertKey id
  have hget : Server.execute (.get (alertKey id)) s = (.ok (b?.map documentText), s) := by
    simp [Server.execute, hb?]
  cases b? with
  | none =>
      refine Or.inr (Or.inl ⟨fun b hb hid => ?_, runWith_loadFor tenant hget⟩)
      subst hid
      simp [Server.text?, show s.find? (alertKey b.id) = _ from hb] at hb?
  | some b =>
      obtain ⟨hb, hid⟩ := hstored b rfl
      by_cases hlegible : b.isLegible = true
      · exact Or.inl ⟨b, hb, hid, hlegible, runWith_loadFor_of_legible tenant hget hlegible⟩
      · refine Or.inr (Or.inr ⟨⟨b, hb, hid, by simpa using hlegible⟩, .kind .unusableValue, ?_⟩)
        rw [runOn_eq, runWith_loadFor tenant hget, Option.mapM_some, Alert.reading,
          if_neg hlegible]
        rfl

/-- A change of an alert is stored, or there is none to which it applies, or the alert cannot be
read. -/
theorem Kept.run_update
    (h : Kept s)
    (now : Moment) (c : Change) :
    (∃ b, Stored s b ∧ (b.id = c.id ∧ b.tenant = c.tenant ∧ c.may b = true) ∧
      b.isLegible = true ∧
        (update now c.id c.tenant c.may c.apply).runOn s =
          (.ok (some (c.apply b.readBack)),
            s.write (alertKey b.id) (.text (documentText (c.apply b.readBack))))) ∨
    ((∀ b, Stored s b → b.id = c.id → b.tenant = c.tenant → c.may b = false) ∧
      (update now c.id c.tenant c.may c.apply).runOn s = (.ok none, s)) ∨
    (∃ b, Stored s b ∧ b.id = c.id ∧ b.isLegible = false) ∧
      ∃ e, (update now c.id c.tenant c.may c.apply).runOn s = (.error e, s) := by
  rw [runOn_eq, runWith_update, ← runOn_eq]
  rcases h.run_loadFor now c.id c.tenant with
    ⟨b, hb, hid, hlegible, hload⟩ | ⟨hnone, hload⟩ | ⟨hlong, e, hload⟩
  · rw [hload]
    by_cases happlies : b.tenant = c.tenant ∧ c.may b = true
    · refine Or.inl ⟨b, hb, ⟨hid, happlies⟩, hlegible, ?_⟩
      have hsaved : (c.apply b.readBack).id = b.id := c.id_apply b.readBack
      simp only [if_pos happlies.1, c.may_readBack, if_pos happlies.2, execute_save, hsaved]
    · refine Or.inr (Or.inl ⟨fun x hx hxid htenant => ?_, ?_⟩)
      · have hread := hx.readBack_eq hb (hxid.trans hid.symm) hlegible
        rw [← c.may_readBack, hread, c.may_readBack]
        by_contra hmay
        have hsame : b.tenant = x.tenant := (congrArg Alert.tenant hread :).symm
        exact happlies ⟨hsame.trans htenant, by simpa using hmay⟩
      · by_cases htenant : b.tenant = c.tenant
        · have hmay : ¬ c.may b = true := fun hmay => happlies ⟨htenant, hmay⟩
          simp only [if_pos htenant, c.may_readBack, if_neg hmay]
        · simp only [if_neg htenant]
  · rw [hload]
    exact Or.inr (Or.inl ⟨fun b hb hid => absurd hid (hnone b hb), rfl⟩)
  · rw [hload]
    exact Or.inr (Or.inr ⟨hlong, e, rfl⟩)

/-- Closing an alert leaves all documents as they are. -/
theorem Kept.run_close
    (h : Kept s)
    (a : Alert) :
    ∃ s', (close a).runOn s = (.ok (), s') ∧
      ∀ id, s'.find? (alertKey id) = s.find? (alertKey id) := by
  have hindex : IsIndex (openKey a.tenant a.device) := by simp [IsIndex]
  obtain ⟨s₁, hremove, hkept, hsame⟩ := h.dropMembers hindex a.id
  obtain ⟨text?, htext⟩ := hkept.text_claimKey a.rule a.device
  have hunlisted (id : String) : s₁.find? (alertKey id) = s.find? (alertKey id) :=
    hsame _ (ne_of_keyWord (by simp))
  rw [runOn_eq, runWith_close, hremove]
  simp only [← runOn_eq, runOn_deleteIfEquals a.id htext]
  by_cases hheld : text? = some a.id
  · simp only [if_pos hheld]
    refine ⟨_, rfl, fun id => ?_⟩
    rw [Server.find?_erase_of_ne _ (ne_of_keyWord (by simp)), hunlisted]
  · simp only [if_neg hheld]
    exact ⟨s₁, rfl, hunlisted⟩

theorem runOn_bind_pure
    {α β : Type} {action : ServerAction α} {o : Outcome α}
    (f : α → β)
    (h : action.runOn s = (o, s')) :
    (do pure (f (← action)) : ServerAction β).runOn s = (o.map f, s') := by
  rw [runOn_eq] at h
  rw [runOn_eq, runWith_bind, h]
  cases o <;> rfl

theorem runOn_bind_of_error
    {α β : Type} {action : ServerAction α} {e : Failure}
    (h : action.runOn s = (.error e, s'))
    (f : α → ServerAction β) :
    (action >>= f).runOn s = (.error e, s') := by
  rw [runOn_eq] at h
  rw [runOn_eq, runWith_bind, h]

/-- A request for a change is done, or there is no alert to which the change applies, or the
alert cannot be read. -/
theorem Kept.run_change
    {now : Moment} {r : Request} {c : Change}
    (h : Kept s)
    (hc : r.change? now = some c) :
    (∃ b o s', Stored s b ∧ (b.id = c.id ∧ b.tenant = c.tenant ∧ c.may b = true) ∧
      b.isLegible = true ∧ (serve now r).runOn s = (o, s') ∧ r.Tells true o ∧
        ∀ id, s'.find? (alertKey id) =
          (s.write (alertKey b.id) (.text (documentText (c.apply b.readBack)))).find?
            (alertKey id)) ∨
    (∃ o, (∀ b, Stored s b → b.id = c.id → b.tenant = c.tenant → c.may b = false) ∧
      (serve now r).runOn s = (o, s) ∧ r.Tells false o) ∨
    (∃ b, Stored s b ∧ b.id = c.id ∧ b.isLegible = false) ∧
      ∃ e, (serve now r).runOn s = (.error e, s) := by
  have hupdate := h.run_update now c
  cases r with
  | acknowledge | recordNotifications | markEscalated =>
      cases hc
      rcases hupdate with ⟨b, hb, htarget, hlegible, hrun⟩ | ⟨hnone, hrun⟩ | ⟨hlong, e, hrun⟩
      · exact Or.inl ⟨b, _, _, hb, htarget, hlegible, runOn_bind_pure _ hrun, rfl, fun _ => rfl⟩
      · exact Or.inr (Or.inl ⟨_, hnone, runOn_bind_pure _ hrun, rfl⟩)
      · exact Or.inr (Or.inr ⟨hlong, e, runOn_bind_pure _ hrun⟩)
  | resolve id tenant reason? =>
      cases hc
      rcases hupdate with ⟨b, hb, htarget, hlegible, hrun⟩ | ⟨hnone, hrun⟩ | ⟨hlong, e, hrun⟩
      · obtain ⟨s', hclose, hsame⟩ :=
          (h.store (b.readBack.resolve reason? now)).run_close (b.readBack.resolve reason? now)
        exact Or.inl ⟨b, .ok true, s', hb, htarget, hlegible,
          (runOn_bind_of_ok hrun _).trans (runOn_bind_of_ok hclose _), rfl, hsame⟩
      · exact Or.inr (Or.inl ⟨.ok false, hnone, runOn_bind_of_ok hrun _, rfl⟩)
      · exact Or.inr (Or.inr ⟨hlong, e, runOn_bind_of_error hrun _⟩)
  | _ =>
      cases hc

/-- A new alert is refused, or stored. -/
theorem Kept.run_create
    (h : Kept s)
    (now : Moment) (a : Alert) :
    (∃ e, (serve now (.create a)).runOn s = (.error e, s)) ∨
      ∃ s', (serve now (.create a)).runOn s = (.ok (), s') ∧
        ∀ id, s'.find? (alertKey id) =
          (s.write (alertKey a.id) (.text (documentText a))).find? (alertKey id) := by
  rw [serve, runOn_eq, runWith_create]
  by_cases hheld : (s.find? (claimKey a.rule a.device)).isSome = true
  · rw [execute_setIfAbsent_of_held hheld]
    exact Or.inl ⟨_, rfl⟩
  · have hfree : s.find? (claimKey a.rule a.device) = none := by simpa using hheld
    obtain ⟨s', hrun, henters⟩ := (h.reserved a).execute_setAndIndex a
    rw [execute_setIfAbsent_of_free hfree]
    simp only [hrun]
    refine Or.inr ⟨s', rfl, fun id => ?_⟩
    have hreserved : (Indexed.reserved a s).find? (alertKey id) = s.find? (alertKey id) :=
      Server.find?_write_of_ne _ _ (ne_of_keyWord (by simp))
    rw [henters.find?_alertKey, Server.find?_write, Server.find?_write, hreserved]

/-- What an action ensures whichever commands fail, it ensures if none fails. -/
theorem ensures_runOn
    {α : Type} {P : Server → Prop} {action : ServerAction α} {Q : Outcome α → Server → Prop}
    (h : Ensures P action Q)
    (hs : P s) :
    Q (action.runOn s).1 (action.runOn s).2 := by
  obtain ⟨rest, hcalm⟩ :=
    Line.runWith_calm action s (by simp : ∀ f ∈ ([] : List (Option Failure)), f = none)
  have hends := h ⟨s, []⟩ hs
  rwa [hcalm] at hends

/-- Requests that only read change nothing. -/
theorem Kept.run_read
    {r : Request}
    (h : Kept s)
    (now : Moment)
    (hr : r.reads = true) :
    ((serve now r).runOn s).2 = s :=
  ensures_runOn (ensures_read (P := (· = s)) (fun _ ht => ht ▸ h) now r hr) rfl

end Indexed
end TelemetryAlerts
