import TelemetryAlerts.Proofs.Store.Exact

/-!
# Stores that keep a list of alerts

The store in memory and the one on the key server keep the same thing, a list of alerts,
and each request does the same to it. They differ in what they take for one name: two
texts with a colon between them are one key on the server. They also differ in how an alert
is read: what was written as a document may look different afterwards, or not be readable
any more. That, and no more, is what is left open here.

**Results.**
* `Memory.keeping`: the store in memory keeps its own list.
* `Indexed.keeping`: the key server keeps the list that it mirrors, if no command fails.
-/

namespace TelemetryAlerts

/-- How a store tells names apart, and how it reads alerts. -/
structure Manner where
  /-- Whether two pairs of names, one after the other, are the same to the store. -/
  alike : String → String → String → String → Bool
  /-- Which new alerts the store is made for. -/
  admits : Alert → Prop
  /-- What is got when an alert is read. -/
  reading : Alert → Outcome Alert
  alike_refl : ∀ x y, alike x y x y = true
  alike_right : ∀ {x y y'}, alike x y x y' = true → y = y'
  outline_reading : ∀ {a b}, reading a = .ok b → b.outline = a.outline

namespace Manner

variable (k : Manner) (v : List Alert)

/-- Whether an open alert of a list has a rule and a device. -/
def taken (rule device : String) : Bool :=
  v.any fun b => b.isOpen && k.alike b.rule b.device rule device

/-- The open alerts of a list on a tenant's device. -/
def openOn (tenant device : String) : List Alert :=
  v.filter fun a => a.isOpen && k.alike a.tenant a.device tenant device

/-- The alerts of a list that have a rule and a device. -/
def ofPair (rule device : String) : List Alert :=
  v.filter fun a => k.alike a.rule a.device rule device

/-- Whether a list can take a request: the id of a new alert is not in use. -/
def Takes : Request → Prop
  | .create a => a.id ∉ v.map Alert.id ∧ a.isOpen = true ∧ k.admits a
  | _ => True

/-- A change is made of the alert that it is asked for, or there is none that can be read and
to which it applies. -/
def Changes (c : Change) {α : Type} (o : Outcome α) (v' : List Alert) : Prop :=
  (∃ a ∈ v, (a.id = c.id ∧ a.tenant = c.tenant ∧ c.may a = true) ∧ (∃ b, k.reading a = .ok b) ∧
    (∃ x, o = .ok x) ∧ v' = Memory.put (c.apply a) v) ∨
  v' = v ∧ ∀ a ∈ v, a.id = c.id → a.tenant = c.tenant → c.may a = true →
    ∃ e, k.reading a = .error e ∧ o = .error e

/-- What a list of alerts answers to a request at a moment, and what it is then. -/
def Answers (now : Moment) (r : Request) (o : Outcome r.Reply) (v' : List Alert) : Prop :=
  match r, o with
  | .create a, o =>
    if k.taken v a.rule a.device then o = .error (.openAlertExists a.rule a.device) ∧ v' = v
    else o = .ok () ∧ v' = v ++ [a]
  | .openOn tenant device, o =>
    v' = v ∧ ∃ l : List Alert,
      l.Perm (k.openOn v tenant device) ∧ o = l.mapM k.reading >>= newestFirst
  | .latestOf rule device, o =>
    v' = v ∧ ∃ l : List Alert,
      l.Perm (k.ofPair v rule device) ∧ o = l.mapM k.reading >>= newest?
  | r, o =>
    match r.change? now with
    | some c => k.Changes v c o v'
    | none => v' = v

variable {k v}

theorem takes_of_change?
    {now : Moment} {r : Request} {c : Change}
    (hc : r.change? now = some c) :
    k.Takes v r := by
  cases r with
  | create a =>
      cases hc
  | _ =>
      exact trivial

theorem Answers.changes
    {now : Moment} {r : Request} {c : Change} {o : Outcome r.Reply} {v' : List Alert}
    (h : k.Answers v now r o v')
    (hc : r.change? now = some c) :
    k.Changes v c o v' := by
  cases r with
  | acknowledge | resolve | recordNotifications | markEscalated =>
      cases hc
      exact h
  | _ =>
      cases hc

end Manner

/-- A store that keeps a list of alerts: how it serves requests, and which list it shows. A
pair of names has one open alert at most, and what the list answers is the store's answer. -/
structure Keeping (σ : Type) extends Manner where
  serves : Moment → σ → (r : Request) → Outcome r.Reply → σ → Prop
  shows : σ → List Alert → Prop
  nodup : ∀ {s v}, shows s v → (v.map Alert.id).Nodup
  claims : ∀ {s v a b}, shows s v → a ∈ v → b ∈ v → a.isOpen = true → b.isOpen = true →
    alike a.rule a.device b.rule b.device = true → a.id = b.id
  answers : ∀ {now s v r o s'}, shows s v → toManner.Takes v r → serves now s r o s' →
    ∃ v', shows s' v' ∧ toManner.Answers v now r o v'

/-! ### In memory -/

namespace Memory

variable {m m' : Memory} {now : Moment} {r : Request} {o : Outcome r.Reply}

theorem update_cases
    (hids : (m.alerts.map Alert.id).Nodup)
    (c : Change) :
    (∃ a ∈ m.alerts, (a.id = c.id ∧ a.tenant = c.tenant ∧ c.may a = true) ∧
      m.update c.id c.tenant c.may c.apply = (true, m.insert (c.apply a))) ∨
    m.update c.id c.tenant c.may c.apply = (false, m) ∧
      ∀ a ∈ m.alerts, a.id = c.id → a.tenant = c.tenant → c.may a ≠ true := by
  unfold update
  cases hfind : m.find? c.id c.tenant with
  | none =>
      refine Or.inr ⟨rfl, fun a ha hid htenant => ?_⟩
      rw [(find?_eq_some hids).mpr ⟨ha, hid, htenant⟩] at hfind
      cases hfind
  | some a =>
      obtain ⟨ha, hid, htenant⟩ := (find?_eq_some hids).mp hfind
      by_cases hmay : c.may a = true
      · exact Or.inl ⟨a, ha, ⟨hid, htenant, hmay⟩, by simp [hmay]⟩
      · refine Or.inr ⟨by simp [hmay], fun b hb hidb _ => ?_⟩
        rwa [List.inj_on_of_nodup_map hids hb ha (hidb.trans hid.symm)]

theorem mem_put_self
    (a : Alert) (v : List Alert) :
    a ∈ put a v := by
  induction v with
  | nil =>
      simp [put]
  | cons c rest ih =>
      rw [put]
      split_ifs
      · simp
      · exact List.mem_cons_of_mem _ ih

/-- A changed alert takes its place among those that are asked for, if it is asked for. -/
theorem filter_put
    {v : List Alert} {a b : Alert} {mine : Alert → Bool}
    (hids : (v.map Alert.id).Nodup)
    (ha : a ∈ v)
    (hid : b.id = a.id)
    (hsame : mine b = mine a) :
    (put b v).filter mine = if mine a then put b (v.filter mine) else v.filter mine := by
  induction v with
  | nil =>
      cases ha
  | cons c rest ih =>
      rw [List.map_cons, List.nodup_cons] at hids
      rw [put]
      split_ifs with hc hmine hmine
      · have hac : a = c := by
          rcases List.mem_cons.mp ha with rfl | ha
          · rfl
          · exact absurd (by rw [hc, hid]; exact List.mem_map_of_mem ha) hids.1
        rw [List.filter_cons_of_pos (hsame.trans hmine), List.filter_cons_of_pos (hac ▸ hmine),
          put, if_pos hc]
      · have hac : a = c := by
          rcases List.mem_cons.mp ha with rfl | ha
          · rfl
          · exact absurd (by rw [hc, hid]; exact List.mem_map_of_mem ha) hids.1
        rw [List.filter_cons_of_neg (by rwa [hsame]), List.filter_cons_of_neg (hac ▸ hmine)]
      all_goals
        have hrest : a ∈ rest := by
          rcases List.mem_cons.mp ha with rfl | ha
          · exact absurd hid.symm hc
          · exact ha
        rw [List.filter_cons, List.filter_cons, ih hids.2 hrest]
      · rw [if_pos hmine]
        split_ifs
        · rw [put, if_neg hc]
        · rfl
      · rw [if_neg hmine]

/-- A request for a change is done, or finds nothing to change. -/
theorem changes_serve
    {c : Change}
    (hids : (m.alerts.map Alert.id).Nodup)
    (hc : r.change? now = some c)
    (hserve : m.serve now r = (o, m')) :
    (∃ x, o = .ok x) ∧
      ((∃ a ∈ m.alerts, (a.id = c.id ∧ a.tenant = c.tenant ∧ c.may a = true) ∧
        m'.alerts = put (c.apply a) m.alerts) ∨
      m' = m ∧ ∀ a ∈ m.alerts, a.id = c.id → a.tenant = c.tenant → c.may a ≠ true) := by
  have hstore : (∃ x, (m.serve now r).1 = .ok x) ∧
      (m.serve now r).2 = (m.update c.id c.tenant c.may c.apply).2 := by
    cases r with
    | acknowledge | resolve | recordNotifications | markEscalated =>
        cases hc
        exact ⟨⟨_, rfl⟩, rfl⟩
    | _ =>
        cases hc
  rw [hserve] at hstore
  obtain ⟨hok, hstore : m' = (m.update c.id c.tenant c.may c.apply).2⟩ := hstore
  refine ⟨hok, (update_cases hids c).imp ?_ ?_⟩
  · rintro ⟨a, ha, htarget, hupdate⟩
    refine ⟨a, ha, htarget, ?_⟩
    rw [hstore, hupdate]
    rfl
  · rintro ⟨hupdate, hnone⟩
    exact ⟨by rw [hstore, hupdate], hnone⟩

theorem mapM_ok
    (alerts : List Alert) :
    alerts.mapM (fun a => (.ok a : Outcome Alert)) = .ok alerts := by
  induction alerts with
  | nil =>
      rfl
  | cons a alerts ih =>
      rw [List.mapM_cons, ih]
      rfl

/-- Memory tells all names apart, and reads every alert as it is. -/
def manner : Manner where
  alike x y x' y' := x == x' && y == y'
  admits _ := True
  reading := .ok
  alike_refl := by simp
  alike_right := by simp
  outline_reading := by
    rintro a b h
    rw [Except.ok.inj h]

@[simp] theorem manner_alike
    {x y x' y' : String} :
    manner.alike x y x' y' = (x == x' && y == y') := rfl

theorem answers_serve
    (hids : (m.alerts.map Alert.id).Nodup)
    (htakes : manner.Takes m.alerts r)
    (hserve : m.serve now r = (o, m')) :
    manner.Answers m.alerts now r o m'.alerts := by
  have hchange {c : Change} (hc : r.change? now = some c) :
      manner.Changes m.alerts c o m'.alerts := by
    obtain ⟨hok, ⟨a, ha, htarget, hput⟩ | ⟨rfl, hnone⟩⟩ := changes_serve hids hc hserve
    · exact Or.inl ⟨a, ha, htarget, ⟨a, rfl⟩, hok, hput⟩
    · exact Or.inr ⟨rfl, fun a ha hid htenant hmay => absurd hmay (hnone a ha hid htenant)⟩
  cases r with
  | create a =>
      rw [serve] at hserve
      change if m.hasOpen a.rule a.device then _ else _
      split_ifs at hserve ⊢ <;> cases hserve
      · exact ⟨rfl, rfl⟩
      · exact ⟨rfl, put_of_new htakes.1⟩
  | openOn tenant device =>
      cases hserve
      refine ⟨rfl, _, .refl _, ?_⟩
      rw [show manner.reading = fun a => .ok a from rfl, mapM_ok]
      refine congrArg newestFirst (List.filter_congr fun a _ => ?_)
      rw [manner_alike, Bool.and_comm a.isOpen, Bool.and_assoc]
  | latestOf rule device =>
      cases hserve
      refine ⟨rfl, _, .refl _, ?_⟩
      rw [show manner.reading = fun a => .ok a from rfl, mapM_ok]
      rfl
  | acknowledge | resolve | recordNotifications | markEscalated =>
      exact hchange rfl
  | get | list | ofRule | statistics =>
      cases hserve
      exact rfl

/-- The store in memory keeps its own list. -/
def keeping : Keeping Memory where
  toManner := manner
  serves now m r o m' := m.serve now r = (o, m')
  shows m v := m.Orderly ∧ m.alerts = v
  nodup := by
    rintro m v ⟨hm, rfl⟩
    exact hm.ids
  claims := by
    rintro m v a b ⟨hm, rfl⟩ ha hb hopena hopenb halike
    simp only [manner_alike, Bool.and_eq_true, beq_iff_eq] at halike
    exact hm.claims a ha b hb hopena hopenb halike.1 halike.2
  answers := by
    rintro now m v r o m' ⟨hm, rfl⟩ htakes hserve
    have horderly := hm.serve now r
    rw [hserve] at horderly
    exact ⟨m'.alerts, ⟨horderly, rfl⟩, answers_serve hm.ids htakes hserve⟩

end Memory

/-! ### On the key server -/

namespace Indexed

open ServerAction

variable {s s' : Server} {v : List Alert}

/-- Two names with a colon between them. -/
def joined (x y : String) : String :=
  x ++ ":" ++ y

theorem prefixed_eq_iff
    {start x y x' y' : String} :
    start ++ x ++ ":" ++ y = start ++ x' ++ ":" ++ y' ↔ joined x y = joined x' y' := by
  have hsplit (x y : String) : start ++ x ++ ":" ++ y = start ++ joined x y := by
    rw [joined, String.append_assoc, String.append_assoc, String.append_assoc]
  rw [hsplit, hsplit, String.append_right_inj]

theorem claimKey_eq_iff
    {r d r' d' : String} :
    claimKey r d = claimKey r' d' ↔ joined r d = joined r' d' :=
  prefixed_eq_iff

theorem pairKey_eq_iff
    {r d r' d' : String} :
    pairKey r d = pairKey r' d' ↔ joined r d = joined r' d' :=
  prefixed_eq_iff

theorem openKey_eq_iff
    {t d t' d' : String} :
    openKey t d = openKey t' d' ↔ joined t d = joined t' d' :=
  prefixed_eq_iff

/-- A server that mirrors a list of alerts, whose readings name no field twice. -/
structure Clear (v : List Alert) (s : Server) : Prop where
  mirrors : Mirrors v (OpenIn v) (OpenIn v) s
  names : ∀ a ∈ v, a.namesDistinct = true

namespace Clear

theorem empty :
    Clear [] {} :=
  ⟨.empty, by simp⟩

/-- An alert is stored again after a change, or there is none that can be read and to which
the change applies. -/
theorem run_update
    (h : Clear v s)
    (now : Moment) (c : Change) :
    (∃ a ∈ v, (a.id = c.id ∧ a.tenant = c.tenant ∧ c.may a = true) ∧
      (∃ b, a.reading = .ok b) ∧
        ∃ s', (update now c.id c.tenant c.may c.apply).runOn s =
            (.ok (some (c.apply a).readBack), s') ∧
          Mirrors (Memory.put (c.apply a) v) (OpenIn v) (OpenIn v) s') ∨
    ∃ o, (update now c.id c.tenant c.may c.apply).runOn s = (o, s) ∧
      (∀ b, o ≠ .ok (some b)) ∧
        ∀ a ∈ v, a.id = c.id → a.tenant = c.tenant → c.may a = true →
          ∃ e, a.reading = .error e ∧ o = .error e := by
  have hload := run_loadFor h.mirrors now c.id c.tenant
  rw [runOn_eq, runWith_update, ← runOn_eq, hload]
  cases hfind : v.find? fun a => a.id == c.id with
  | none =>
      refine Or.inr ⟨.ok none, rfl, by simp, fun a ha hid => ?_⟩
      exact absurd hid (by simpa using List.find?_eq_none.mp hfind a ha)
  | some a =>
      have ha := List.mem_of_find?_eq_some hfind
      have hid : a.id = c.id := by simpa using List.find?_some hfind
      have hsame (b : Alert) (hb : b ∈ v) (hidb : b.id = c.id) : b = a :=
        h.mirrors.eq_of_id hb ha (hidb.trans hid.symm)
      rw [Option.mapM_some]
      by_cases hlegible : a.isLegible = true
      · have hreading : a.reading = .ok a.readBack := if_pos hlegible
        have hloaded : Option.filter (fun b => b.tenant == c.tenant) <$>
            (some <$> a.reading : Outcome (Option Alert)) =
              .ok (if a.tenant = c.tenant then some a.readBack else none) := by
          rw [hreading]
          change Except.ok (if (a.tenant == c.tenant) = true then some a.readBack else none) = _
          simp only [beq_iff_eq]
        rw [hloaded]
        by_cases happlies : a.tenant = c.tenant ∧ c.may a = true
        · refine Or.inl ⟨a, ha, ⟨hid, happlies⟩, ⟨_, hreading⟩, _, ?_, h.mirrors.save ha
            (c.id_apply a) (c.tenant_apply a) (c.rule_apply a) (c.device_apply a)⟩
          have hnames : (c.apply a).namesDistinct = true := by
            rw [Alert.namesDistinct, c.readings_apply]
            exact h.names a ha
          have hkey : (c.apply a).readBack.id = (c.apply a).id := rfl
          rw [if_pos happlies.1]
          simp only [c.may_readBack, if_pos happlies.2, execute_save, c.apply_readBack, hkey,
            documentText_readBack hnames]
        · refine Or.inr ⟨.ok none, ?_, by simp, fun b hb hidb htenant hmay => ?_⟩
          · by_cases htenant : a.tenant = c.tenant
            · have hmay : ¬ c.may a = true := fun hmay => happlies ⟨htenant, hmay⟩
              simp only [if_pos htenant, c.may_readBack, if_neg hmay]
            · simp only [if_neg htenant]
          · rw [hsame b hb hidb] at htenant hmay
            exact absurd ⟨htenant, hmay⟩ happlies
      · have hreading : a.reading = .error (.kind .unusableValue) := if_neg hlegible
        rw [hreading]
        refine Or.inr ⟨.error (.kind .unusableValue), rfl, by simp, fun b hb hidb _ _ => ?_⟩
        rw [hsame b hb hidb]
        exact ⟨_, hreading, rfl⟩

/-- A change that leaves an alert open or closed keeps a server clear. -/
theorem put
    {a₀ a : Alert}
    (h : Clear v s)
    (hmirrors : Mirrors (Memory.put a v) (OpenIn v) (OpenIn v) s')
    (ha₀ : a₀ ∈ v)
    (hid : a.id = a₀.id)
    (hreadings : a.readings = a₀.readings)
    (hopen : a.isOpen = a₀.isOpen) :
    Clear (Memory.put a v) s' where
  mirrors := mirrors_insert (m := ⟨v⟩) hmirrors h.mirrors.ids ha₀ hid hopen
  names b hb := by
    rcases (Memory.mem_put h.mirrors.ids).mp hb with rfl | ⟨hb, -⟩
    · rw [Alert.namesDistinct, hreadings]
      exact h.names a₀ ha₀
    · exact h.names b hb

end Clear

/-- What a request for a change does. -/
abbrev Changed
    (v : List Alert) (c : Change) {α : Type} (o : Outcome α) (s' : Server) : Prop :=
  (∃ a ∈ v, (a.id = c.id ∧ a.tenant = c.tenant ∧ c.may a = true) ∧ (∃ b, a.reading = .ok b) ∧
    (∃ x, o = .ok x) ∧ Clear (Memory.put (c.apply a) v) s') ∨
  Clear v s' ∧ ∀ a ∈ v, a.id = c.id → a.tenant = c.tenant → c.may a = true →
    ∃ e, a.reading = .error e ∧ o = .error e

namespace Clear

/-- A change after which an alert is still open if it was. -/
theorem change
    {α : Type} {now : Moment} {c : Change} {o : Outcome α} {f : Option Alert → α}
    (h : Clear v s)
    (hopen : ∀ a, c.may a = true → (c.apply a).isOpen = a.isOpen)
    (hrun : (do pure (f (← update now c.id c.tenant c.may c.apply)) : ServerAction α).runOn s =
      (o, s')) :
    Changed v c o s' := by
  rw [runOn_eq, runWith_bind, ← runOn_eq] at hrun
  rcases h.run_update now c with
    ⟨a, ha, htarget, hreading, s₁, hupdate, hmirrors⟩ | ⟨o₁, hupdate, -, hnone⟩
  · rw [hupdate] at hrun
    cases hrun
    exact Or.inl ⟨a, ha, htarget, hreading, ⟨_, rfl⟩, h.put hmirrors ha (c.id_apply a)
      (c.readings_apply a) (hopen a htarget.2.2)⟩
  · rw [hupdate] at hrun
    refine Or.inr ?_
    cases o₁ with
    | error e =>
        cases hrun
        refine ⟨h, fun a ha hid htenant hmay => ?_⟩
        obtain ⟨e', hreading, he⟩ := hnone a ha hid htenant hmay
        exact ⟨e', hreading, by rw [Except.error.inj he]⟩
    | ok a? =>
        cases hrun
        refine ⟨h, fun a ha hid htenant hmay => ?_⟩
        obtain ⟨e', -, he⟩ := hnone a ha hid htenant hmay
        cases he

/-- The end of an alert. -/
theorem resolve
    {now : Moment} {id tenant : String} {reason? : Option String} {o : Outcome Bool}
    (h : Clear v s)
    (hrun : (serve now (.resolve id tenant reason?)).runOn s = (o, s')) :
    Changed v (.resolve now id tenant reason?) o s' := by
  rcases h.run_update now (.resolve now id tenant reason?) with
    ⟨a, ha, htarget, hreading, s₁, hupdate, hmirrors⟩ | ⟨o₁, hupdate, hno, hnone⟩
  · obtain ⟨s₂, hclose, hclosed⟩ := run_close hmirrors
      ((Memory.mem_put h.mirrors.ids).mpr (Or.inl rfl)) ⟨a, ha, rfl, htarget.2.2⟩
    have hserve : (serve now (.resolve id tenant reason?)).runOn s = (.ok true, s₂) :=
      (runOn_bind_of_ok hupdate _).trans (runOn_bind_of_ok hclose _)
    rw [hserve] at hrun
    cases hrun
    refine Or.inl ⟨a, ha, htarget, hreading, ⟨_, rfl⟩,
      mirrors_close (m := ⟨v⟩) hclosed h.mirrors.ids rfl, fun b hb => ?_⟩
    rcases (Memory.mem_put h.mirrors.ids).mp hb with rfl | ⟨hb, -⟩
    · exact h.names a ha
    · exact h.names b hb
  · rw [runOn_eq, runWith_resolve] at hrun
    have hupdate' : (update now id tenant Alert.isOpen fun a =>
        a.resolve reason? now).runWith Server.execute s = (o₁, s) := hupdate
    rw [hupdate'] at hrun
    refine Or.inr ?_
    rcases o₁ with e | _ | b
    · cases hrun
      refine ⟨h, fun a ha hid htenant hmay => ?_⟩
      obtain ⟨e', hreading, he⟩ := hnone a ha hid htenant hmay
      exact ⟨e', hreading, by rw [Except.error.inj he]⟩
    · cases hrun
      refine ⟨h, fun a ha hid htenant hmay => ?_⟩
      obtain ⟨e', -, he⟩ := hnone a ha hid htenant hmay
      cases he
    · exact absurd rfl (hno b)

/-- A new alert, if its pair of names is free. -/
theorem create
    {now : Moment} {a : Alert} {o : Outcome Unit}
    (h : Clear v s)
    (hnew : a.id ∉ v.map Alert.id)
    (hopen : a.isOpen = true)
    (hnames : a.namesDistinct = true)
    (hrun : (serve now (.create a)).runOn s = (o, s')) :
    if v.any fun b => b.isOpen && claimKey b.rule b.device == claimKey a.rule a.device then
      o = .error (.openAlertExists a.rule a.device) ∧ Clear v s'
    else o = .ok () ∧ Clear (v ++ [a]) s' := by
  have hclaim : (s.find? (claimKey a.rule a.device)).isSome =
      v.any fun b => b.isOpen && claimKey b.rule b.device == claimKey a.rule a.device := by
    rw [Bool.eq_iff_iff, h.mirrors.isSome_claimKey]
    simp only [List.any_eq_true, Bool.and_eq_true, beq_iff_eq, and_comm]
  have hcreate := run_create h.mirrors hnew
  rw [hclaim] at hcreate
  have hserve : (Indexed.create a).runOn s = (o, s') := hrun
  split_ifs at hcreate ⊢
  · rw [hserve] at hcreate
    cases hcreate
    exact ⟨rfl, h⟩
  · obtain ⟨s₁, hcreate, hmirrors⟩ := hcreate
    rw [hserve] at hcreate
    cases hcreate
    refine ⟨rfl, mirrors_append hmirrors h.mirrors.ids hnew hopen, fun b hb => ?_⟩
    rcases List.mem_append.mp hb with hb | hb
    · exact h.names b hb
    · rwa [List.mem_singleton.mp hb]

theorem reads
    {now : Moment} {r : Request} {o : Outcome r.Reply}
    (h : Clear v s)
    (hr : r.reads = true)
    (hrun : (serve now r).runOn s = (o, s')) :
    Clear v s' := by
  have hsame := ensures_read (P := (· = s)) (fun t ht => ht ▸ h.mirrors.kept) now r hr ⟨s, []⟩ rfl
  obtain ⟨rest, hcalm⟩ := Line.runWith_calm (serve now r) s (by simp : ∀ f ∈ ([] : List (Option Failure)), f = none)
  rw [hcalm, hrun] at hsame
  obtain rfl : s' = s := hsame
  exact h

end Clear

/-- What is got from an index of alerts. -/
theorem Mirrors.members
    {listed claimed : String → Prop} {α : Type} {now : Moment} {key : String}
    {inIndex : Alert → Bool} {f : List Alert → Outcome α} {o : Outcome α}
    (h : Mirrors v listed claimed s)
    (hkey : IsIndex key)
    (hmem : ∀ id, id ∈ s.set key ↔ ∃ a ∈ v, a.id = id ∧ inIndex a = true)
    (hrun : (do
        let ids ← command (.members key)
        liftM (f (← loadAll now ids)) : ServerAction α).runOn s = (o, s')) :
    ∃ l : List Alert, l.Perm (v.filter inIndex) ∧ o = l.mapM Alert.reading >>= f := by
  obtain ⟨l, hperm, hl⟩ := run_members h now hkey hmem fun found => liftM (f found)
  refine ⟨l, hperm, ?_⟩
  rw [hrun] at hl
  cases hread : l.mapM Alert.reading with
  | error e =>
      rw [hread] at hl
      cases hl
      rfl
  | ok found =>
      simp only [hread, runOn_eq, runWith_lift] at hl
      cases hl
      rfl

/-- The server takes two names with a colon between them for one, and reads documents. -/
def manner : Manner where
  alike x y x' y' := joined x y == joined x' y'
  admits a := a.namesDistinct = true
  reading := Alert.reading
  alike_refl := by simp
  alike_right := by simp [joined, String.append_assoc]
  outline_reading := by
    intro a b h
    unfold Alert.reading at h
    split_ifs at h
    rw [← Except.ok.inj h]
    rfl

namespace Mirrors

variable {now : Moment}

/-- The open alerts of a device are listed. -/
theorem openOn
    {claimed : String → Prop} {tenant device : String} {o : Outcome (List Alert)}
    (h : Mirrors v (OpenIn v) claimed s)
    (hrun : (serve now (.openOn tenant device)).runOn s = (o, s')) :
    ∃ l : List Alert,
      l.Perm (manner.openOn v tenant device) ∧ o = l.mapM Alert.reading >>= newestFirst := by
  have hmem (id : String) : id ∈ s.set (openKey tenant device) ↔ ∃ a ∈ v, a.id = id ∧
      (a.isOpen && joined a.tenant a.device == joined tenant device) = true := by
    rw [h.mem_openKey]
    refine exists_congr fun a => and_congr_right fun _ => and_congr_right fun _ => ?_
    rw [openKey_eq_iff, Bool.and_eq_true, beq_iff_eq, and_comm]
  obtain ⟨l, hperm, ho⟩ := h.members (f := fun found => newestFirst (found.filter Alert.isOpen))
    (by simp [IsIndex]) hmem hrun
  refine ⟨l, hperm, ho.trans ?_⟩
  rw [Alert.mapM_reading]
  split_ifs
  · refine congrArg newestFirst (List.filter_eq_self.mpr fun b hb => ?_)
    obtain ⟨a, ha, rfl⟩ := List.mem_map.mp hb
    exact (Bool.and_eq_true_iff.mp (List.mem_filter.mp (hperm.mem_iff.mp ha)).2).1
  · rfl

/-- The newest alert of a rule and a device is found. -/
theorem latestOf
    {listed claimed : String → Prop} {rule device : String} {o : Outcome (Option Alert)}
    (h : Mirrors v listed claimed s)
    (hrun : (serve now (.latestOf rule device)).runOn s = (o, s')) :
    ∃ l : List Alert,
      l.Perm (manner.ofPair v rule device) ∧ o = l.mapM Alert.reading >>= newest? := by
  refine h.members (by simp [IsIndex]) (fun id => ?_) hrun
  simp only [h.ofPair, pairKey_eq_iff, manner, beq_iff_eq]

end Mirrors

namespace Clear

variable {now : Moment}

theorem answers
    {r : Request} {o : Outcome r.Reply}
    (h : Clear v s)
    (htakes : manner.Takes v r)
    (hrun : (serve now r).runOn s = (o, s')) :
    ∃ v', Clear v' s' ∧ manner.Answers v now r o v' := by
  have hchanged {c : Change} {α : Type} {o : Outcome α} (hc : Changed v c o s') :
      ∃ v', Clear v' s' ∧ manner.Changes v c o v' := by
    rcases hc with ⟨a, ha, htarget, hreading, hok, hclear⟩ | ⟨hclear, hnone⟩
    · exact ⟨_, hclear, Or.inl ⟨a, ha, htarget, hreading, hok, rfl⟩⟩
    · exact ⟨_, hclear, Or.inr ⟨rfl, hnone⟩⟩
  cases r with
  | create a =>
      have hcreate := h.create htakes.1 htakes.2.1 htakes.2.2 hrun
      have hsame : (v.any fun b =>
          b.isOpen && claimKey b.rule b.device == claimKey a.rule a.device) =
            manner.taken v a.rule a.device := by
        refine congrArg v.any (funext fun b => congrArg (b.isOpen && ·) ?_)
        rw [Bool.eq_iff_iff, beq_iff_eq, claimKey_eq_iff, manner, beq_iff_eq]
      rw [hsame] at hcreate
      change ∃ v', _ ∧ if manner.taken v a.rule a.device then _ else _
      split_ifs at hcreate ⊢
      · exact ⟨v, hcreate.2, hcreate.1, rfl⟩
      · exact ⟨_, hcreate.2, hcreate.1, rfl⟩
  | openOn tenant device =>
      exact ⟨v, h.reads rfl hrun, rfl, h.mirrors.openOn hrun⟩
  | latestOf rule device =>
      exact ⟨v, h.reads rfl hrun, rfl, h.mirrors.latestOf hrun⟩
  | acknowledge id tenant who? notes? =>
      exact hchanged (h.change (c := .acknowledge now id tenant who? notes?)
        (Change.isOpen_acknowledge now id tenant who? notes?) hrun)
  | resolve id tenant reason? =>
      exact hchanged (h.resolve hrun)
  | recordNotifications id tenant count =>
      exact hchanged (h.change (c := .recordNotifications now id tenant count)
        (fun _ _ => rfl) hrun)
  | markEscalated id tenant at_ =>
      exact hchanged (h.change (c := .markEscalated id tenant at_) (fun _ _ => rfl) hrun)
  | get | list | ofRule | statistics =>
      exact ⟨v, h.reads rfl hrun, rfl⟩

end Clear

/-- The key server keeps the list that it mirrors. -/
def keeping : Keeping Server where
  toManner := manner
  serves now s r o s' := (serve now r).runOn s = (o, s')
  shows s v := Clear v s
  nodup h := h.mirrors.ids
  claims := by
    intro s v a b h ha hb hopena hopenb halike
    have hkey := claimKey_eq_iff.mpr (eq_of_beq halike)
    have hclaima := h.mirrors.find?_claimKey.mpr ⟨a, ha, rfl, hkey, hopena⟩
    have hclaimb := h.mirrors.find?_claimKey.mpr ⟨b, hb, rfl, rfl, hopenb⟩
    rw [hclaima] at hclaimb
    exact Entry.text.inj (Option.some.inj hclaimb)
  answers h htakes hrun := h.answers htakes hrun

end Indexed
end TelemetryAlerts
