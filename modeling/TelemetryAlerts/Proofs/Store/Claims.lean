import TelemetryAlerts.Proofs.Store.Kept
import TelemetryAlerts.Proofs.Store.Listing

/-!
# At most one open alert

On a key server the rule that a rule of alerting has at most one open alert for a device
is kept by the claims alone. The invariant says more than the rule: the claim of every
open stored alert holds exactly the id of that alert. It is kept by every request,
whichever of its commands fail, and whatever ids and alerts are given. The same proof
shows what becomes of a claim that is held for no open alert: it stays held.

**Results.**
* `serve_coherent`: serving a request keeps the server coherent.
* `atMostOneOpen_after`: in both stores, after every run from nothing, no two stored
  alerts are open for one rule and device.
-/

namespace TelemetryAlerts

/-- Whether a request only reads. -/
def Request.reads : Request → Bool
  | .get _ _ | .openOn _ _ | .latestOf _ _ | .list _ _ _ | .ofRule _ _ _ | .statistics _ => true
  | _ => false

namespace ServerAction

/-- A guarded deletion changes nothing or deletes the key while it holds the text. -/
theorem ensures_deleteIfEquals
    {P Q : Server → Prop} {key value : String}
    (hkeep : ∀ s, P s → Q s)
    (herase : ∀ s, P s → s.find? key = some (.text value) → Q (s.erase key)) :
    Ensures P (deleteIfEquals key value) fun _ s => Q s := by
  refine .bind (R := fun _ s => P s) (.command (fun s hs => hs) (fun _ s hs => hs)) ?_
    fun _ s hs => hkeep s hs
  intro since
  refine .bind (R := fun o s => P s ∧
      (o = .ok (some value) → s.find? key = some (.text value)))
    (.command (fun s hs => ⟨hs, Server.find?_of_text?⟩) (fun _ s hs => ⟨hs, by simp⟩)) ?_
    fun _ s hs => hkeep s hs.1
  intro text?
  split
  · next heq =>
      refine .command (fun s hs => ?_) (fun _ s hs => hkeep s hs.1)
      simp only [Server.execute]
      split_ifs
      · exact hkeep s hs.1
      · exact herase s hs.1 (hs.2 (by rw [heq]))
  · refine .bind (R := fun _ s => P s)
      (.command (fun s hs => hs.1) (fun _ s hs => hs.1)) ?_ fun _ s hs => hkeep s hs
    intro _
    exact .pure fun s hs => hkeep s hs

end ServerAction

namespace Indexed

open ServerAction (Ensures)

variable {s s' : Server} {a b : Alert} {blocked : String → Prop} {P : Server → Prop}

/-! ### The invariant -/

/-- The claim of every open stored alert holds the id of that alert. Some claims may be
blocked: these are held for no open alert. -/
structure Coherent (blocked : String → Prop) (s : Server) : Prop extends Kept s where
  claims : ∀ a, Stored s a → a.isOpen = true →
    ¬ blocked (claimKey a.rule a.device) ∧
      s.find? (claimKey a.rule a.device) = some (.text a.id)
  held : ∀ rule device, blocked (claimKey rule device) →
    (s.find? (claimKey rule device)).isSome = true

theorem Coherent.empty :
    Coherent (fun _ => False) {} where
  documents _ _ h := by simp [Server.find?] at h
  sets _ _ := .of_none rfl
  claimTexts _ _ _ h := by simp [Server.find?] at h
  claims _ h := by simp [Stored, Server.find?] at h
  held _ _ h := h.elim

/-- What matters of a server is what is under the keys of alerts and claims, as long as
the indexes are sets. -/
theorem Coherent.congr
    (h : Coherent blocked s)
    (halerts : ∀ id, s'.find? (alertKey id) = s.find? (alertKey id))
    (hclaims : ∀ r d, s'.find? (claimKey r d) = s.find? (claimKey r d))
    (hsets : ∀ key, IsIndex key → s'.IsSet key) :
    Coherent blocked s' where
  documents id e he := h.documents id e (by rw [← halerts, he])
  sets := hsets
  claimTexts r d e he := h.claimTexts r d e (by rw [← hclaims, he])
  claims a ha hopen := by
    rw [hclaims]
    exact h.claims a (by rw [Stored, ← halerts]; exact ha) hopen
  held r d hblocked := by
    rw [hclaims]
    exact h.held r d hblocked

/-- A document is stored for an alert that holds its claim, or is not open. -/
theorem Coherent.store
    (h : Coherent blocked s)
    (hclaim : a.isOpen = true →
      ¬ blocked (claimKey a.rule a.device) ∧
        s.find? (claimKey a.rule a.device) = some (.text a.id)) :
    Coherent blocked (s.write (alertKey a.id) (.text (documentText a))) where
  toKept := h.toKept.store a
  claims b hb hopen := by
    rw [Server.find?_write_of_ne _ _ (ne_of_keyWord (by simp))]
    by_cases hid : b.id = a.id
    · have hself : Stored (s.write (alertKey a.id) (.text (documentText a))) a :=
        Server.find?_write_self _ _ _
      obtain ⟨hrule, hdevice, hsame⟩ := hb.identity hself hid
      rw [hrule, hdevice, hid]
      exact hclaim (by rw [← hsame, hopen])
    · have hold : Stored s b := by
        rw [Stored, Server.find?_write_of_ne _ _ (alertKey_injective.ne hid)] at hb
        exact hb
      exact h.claims b hold hopen
  held r d hblocked := by
    rw [Server.find?_write_of_ne _ _ (ne_of_keyWord (by simp))]
    exact h.held r d hblocked

/-- A claim that is not blocked may change as long as no open stored alert needs it. -/
theorem Coherent.changeClaim
    {rule device : String}
    (h : Coherent blocked s)
    (hblocked : ¬ blocked (claimKey rule device))
    (hfree : ∀ b, Stored s b → b.isOpen = true →
      claimKey b.rule b.device ≠ claimKey rule device)
    (htext : ∀ e, s'.find? (claimKey rule device) = some e → ∃ t, e = .text t)
    (hsame : ∀ key, key ≠ claimKey rule device → s'.find? key = s.find? key) :
    Coherent blocked s' where
  toKept := h.toKept.changeClaim htext hsame
  claims b hb hopen := by
    have hold : Stored s b := by
      rw [Stored, hsame _ (ne_of_keyWord (by simp))] at hb
      exact hb
    rw [hsame _ (hfree b hold hopen)]
    exact h.claims b hold hopen
  held r d hb := by
    by_cases hself : claimKey r d = claimKey rule device
    · rw [hself] at hb
      exact absurd hb hblocked
    · rw [hsame _ hself]
      exact h.held r d hb

/-! ### Single operations -/

/-- Loading changes nothing, and gives what is stored under the id. -/
theorem ensures_load
    (hkept : ∀ s, P s → Kept s)
    (now : Moment) (id : String) :
    Ensures P (load now id) fun o s => P s ∧
      (∀ a, o = .ok (some a) → ∃ b, Stored s b ∧ b.id = id ∧ a = b.readBack) ∧
      (o = .ok none → ∀ b, Stored s b → b.id ≠ id) := by
  rw [load_eq]
  refine .bind (R := fun o s => P s ∧
      (∀ text, o = .ok (some text) → ∃ b, Stored s b ∧ b.id = id ∧ text = documentText b) ∧
      (o = .ok none → ∀ b, Stored s b → b.id ≠ id))
    (.command (fun s hs => ?_) (fun e s hs => ⟨hs, by simp, by simp⟩)) ?_
    (fun e s hs => ⟨hs.1, by simp, by simp⟩)
  · obtain ⟨b?, hb?, hstored⟩ := (hkept s hs).text_alertKey id
    cases b? with
    | none =>
        refine ⟨hs, by simp [Server.execute, hb?], fun _ b hb hid => ?_⟩
        subst hid
        simp [Server.text?, show s.find? (alertKey b.id) = _ from hb] at hb?
    | some b =>
        refine ⟨hs, fun text htext => ?_, by simp [Server.execute, hb?]⟩
        exact ⟨b, (hstored b rfl).1, (hstored b rfl).2,
          by simpa [Server.execute, hb?] using htext.symm⟩
  intro text?
  cases text? with
  | none =>
      exact .pure fun s hs => ⟨hs.1, by simp, fun _ => hs.2.2 rfl⟩
  | some text =>
      intro l hl
      obtain ⟨b, hb, hid, rfl⟩ := hl.2.1 text rfl
      rw [ofStored_documentText, ServerAction.runWith_lift]
      simp only [Alert.reading]
      split_ifs
      · exact ⟨hl.1, fun a ha => ⟨b, hb, hid, (Option.some.inj (Except.ok.inj ha)).symm⟩,
          by simp [Functor.map, Except.map]⟩
      · exact ⟨hl.1, by simp [Functor.map, Except.map], by simp [Functor.map, Except.map]⟩

theorem ensures_loadFor
    (hkept : ∀ s, P s → Kept s)
    (now : Moment) (id tenant : String) :
    Ensures P (loadFor now id tenant) fun o s => P s ∧
      (∀ a, o = .ok (some a) →
        ∃ b, Stored s b ∧ b.id = id ∧ b.tenant = tenant ∧ a = b.readBack) ∧
      (o = .ok none → ∀ b, Stored s b → b.id = id → b.tenant ≠ tenant) := by
  refine .bind (ensures_load hkept now id) ?_ (fun e s hs => ⟨hs.1, by simp, by simp⟩)
  intro a?
  refine .pure fun s hs => ⟨hs.1, fun a ha => ?_, fun hnone b hb hid htenant => ?_⟩
  · obtain ⟨hsome, htenant⟩ := Option.filter_eq_some_iff.mp (Except.ok.inj ha)
    obtain ⟨b, hb, hid, rfl⟩ := hs.2.1 a (by rw [hsome])
    exact ⟨b, hb, hid, eq_of_beq htenant, rfl⟩
  · cases a? with
    | none =>
        exact hs.2.2 rfl b hb hid
    | some a =>
        obtain ⟨c, hc, hcid, rfl⟩ := hs.2.1 a rfl
        have hsame : b.tenant = c.tenant :=
          (congrArg Alert.tenant (hb.outline hc (hid.trans hcid.symm)) :)
        have hnone := Option.filter_eq_none_iff.mp (Except.ok.inj hnone) c.readBack rfl
        exact hnone (beq_iff_eq.mpr (hsame.symm.trans htenant))

/-- Whether alerts are those whose ids stand in an index, as they are read back. -/
structure Lists (index : String) (found : List Alert) (s : Server) : Prop where
  stored : ∀ a ∈ found, ∃ b, Stored s b ∧ b.id ∈ s.set index ∧ a = b.readBack
  complete : ∀ b, Stored s b → b.id ∈ s.set index → ∃ a ∈ found, a.outline = b.outline

theorem ensures_members
    (index : String) :
    Ensures P (ServerAction.command (.members index)) fun o s =>
      P s ∧ ∀ ids, o = .ok ids → ids = s.set index := by
  refine .command (fun s hs => ?_) (fun e s hs => ⟨hs, by simp⟩)
  simp only [Server.execute]
  split
  · next hnone =>
      exact ⟨hs, fun ids hids => by simpa [Server.set, hnone] using hids.symm⟩
  · next ms hsome =>
      exact ⟨hs, fun ids hids => by simpa [Server.set, hsome] using hids.symm⟩
  · exact ⟨hs, by simp⟩

/-- The alerts whose ids stand in an index are found. -/
theorem ensures_loadAll
    (hkept : ∀ s, P s → Kept s)
    (now : Moment) (index : String) (ids : List String) :
    Ensures (fun s => P s ∧ ids = s.set index) (loadAll now ids) fun o s =>
      P s ∧ ∀ found, o = .ok found → Lists index found s := by
  rw [loadAll_eq]
  split_ifs with hempty
  · refine .pure fun s hs => ⟨hs.1, fun found hfound => ?_⟩
    have hnothing : s.set index = [] := by rw [← hs.2, List.isEmpty_iff.mp hempty]
    rw [← Except.ok.inj hfound]
    exact ⟨by simp, by simp [hnothing]⟩
  · refine .bind (R := fun o s => P s ∧ ∀ texts, o = .ok texts → ∃ bs : List Alert,
        texts.filterMap (fun t? => t?) = bs.map documentText ∧
          (∀ b ∈ bs, Stored s b ∧ b.id ∈ s.set index) ∧
          ∀ b, Stored s b → b.id ∈ s.set index → ∃ c ∈ bs, c.id = b.id)
      (.command (fun s hs => ⟨hs.1, fun texts htexts => ?_⟩) (fun e s hs => ⟨hs.1, by simp⟩)) ?_
      (fun e s hs => ⟨hs.1, by simp⟩)
    · obtain ⟨hs, rfl⟩ := hs
      rw [← Except.ok.inj htexts]
      exact (hkept s hs).texts _
    · intro texts l hl
      obtain ⟨bs, hbs, hstored, hall⟩ := hl.2 texts rfl
      rw [allOfStored_documentText now hbs, ServerAction.runWith_lift, Alert.mapM_reading]
      refine ⟨hl.1, fun found hfound => ?_⟩
      split_ifs at hfound
      rw [← Except.ok.inj hfound]
      refine ⟨fun a ha => ?_, fun b hb hid => ?_⟩
      · obtain ⟨b, hb, rfl⟩ := List.mem_map.mp ha
        exact ⟨b, (hstored b hb).1, (hstored b hb).2, rfl⟩
      · obtain ⟨c, hc, hcid⟩ := hall b hb hid
        exact ⟨c.readBack, List.mem_map_of_mem hc, (hstored c hc).1.outline hb hcid⟩

/-- Reading the members of an index and the alerts with these ids changes nothing. -/
theorem ensures_membersThen
    {α : Type} {Q : Outcome α → Server → Prop}
    (hkept : ∀ s, P s → Kept s)
    (now : Moment) (index : String) (f : List Alert → ServerAction α)
    (hf : ∀ found, Ensures (fun s => P s ∧ Lists index found s) (f found) Q)
    (herror : ∀ e s, P s → Q (.error e) s) :
    Ensures P
      (do
        let ids ← ServerAction.command (.members index)
        f (← loadAll now ids))
      Q := by
  refine .bind (ensures_members index) (fun ids => ?_) fun e s hs => herror e s hs.1
  refine .bind ((ensures_loadAll hkept now index ids).weaken
    (fun s hs => ⟨hs.1, hs.2 ids rfl⟩) fun _ _ hQ => hQ) (fun found => ?_)
    fun e s hs => herror e s hs.1
  exact (hf found).weaken (fun s hs => ⟨hs.1, hs.2 found rfl⟩) fun _ _ hQ => hQ

theorem ensures_listed
    (hkept : ∀ s, P s → Kept s)
    (now : Moment) (index : String) (keep : Alert → Bool) :
    Ensures P (listed now index keep) fun o s => P s ∧
      ∀ found, o = .ok found → ∀ a ∈ found,
        keep a = true ∧ ∃ b, Stored s b ∧ b.id ∈ s.set index ∧ a = b.readBack := by
  refine ensures_membersThen hkept now index _ (fun all => .lift fun s hs => ?_)
    fun e s hs => ⟨hs, by simp⟩
  refine ⟨hs.1, fun found hfound a ha => ?_⟩
  obtain ⟨hmem, hkeep⟩ := List.mem_filter.mp ((mem_iff_of_newestFirst hfound).mp ha)
  exact ⟨hkeep, hs.2.stored a hmem⟩

/-- Requests that only read change nothing. -/
theorem ensures_read
    (hkept : ∀ s, P s → Kept s)
    (now : Moment) (r : Request)
    (hread : r.reads = true) :
    Ensures P (serve now r) fun _ s => P s := by
  cases r with
  | get id tenant =>
      exact (ensures_loadFor hkept now id tenant).weaken (fun s hs => hs) fun o s hs => hs.1
  | openOn tenant device =>
      exact (ensures_listed hkept now _ _).weaken (fun s hs => hs) fun o s hs => hs.1
  | latestOf rule device =>
      exact ensures_membersThen hkept now _ _ (fun _ => .lift fun s hs => hs.1)
        fun e s hs => hs
  | list tenant filter limit =>
      exact .bind (ensures_listed hkept now _ _) (fun _ => .pure fun s hs => hs.1)
        (fun e s hs => hs.1)
  | ofRule tenant rule limit =>
      exact .bind (ensures_listed hkept now _ _) (fun _ => .pure fun s hs => hs.1)
        (fun e s hs => hs.1)
  | statistics tenant =>
      exact ensures_membersThen hkept now _ _ (fun _ => .pure fun s hs => hs.1)
        fun e s hs => hs
  | _ =>
      cases hread

/-- A change stores the changed alert, or nothing. -/
theorem ensures_update_of
    {Q : Outcome (Option Alert) → Server → Prop}
    (hkept : ∀ s, P s → Kept s)
    (now : Moment) (c : Change)
    (hnothing : ∀ s, P s →
      (∀ b, Stored s b → b.id = c.id → b.tenant = c.tenant →
        ∃ d, Stored s d ∧ d.id = b.id ∧ c.may d = false) → Q (.ok none) s)
    (herror : ∀ e s, P s → Q (.error e) s)
    (hsave : ∀ s b, P s → Stored s b → b.id = c.id → b.tenant = c.tenant → c.may b = true →
      Q (.ok (some (c.apply b).readBack)) (s.write (alertKey (c.apply b).readBack.id)
        (.text (documentText (c.apply b).readBack)))) :
    Ensures P (update now c.id c.tenant c.may c.apply) Q := by
  refine .bind (ensures_loadFor hkept now c.id c.tenant) ?_ (fun e s hs => herror e s hs.1)
  intro a?
  cases a? with
  | none =>
      exact .pure fun s hs => hnothing s hs.1 fun b hb hid htenant =>
        absurd htenant (hs.2.2 rfl b hb hid)
  | some a =>
      split
      · cases ‹some a = none›
      · next a' heq =>
          cases heq
          split_ifs with hmay
          · refine .bind (R := fun o s => (∀ e, o = .error e → P s) ∧
                (o = .ok () → Q (.ok (some (c.apply a))) s))
              (.command (fun s hs => ?_) (fun e s hs => ⟨fun _ _ => hs.1, by simp⟩))
              (fun _ => .pure fun s hs => hs.2 rfl) (fun e s hs => herror e s (hs.1 e rfl))
            obtain ⟨b, hb, hid, htenant, rfl⟩ := hs.2.1 a rfl
            rw [c.may_readBack] at hmay
            rw [c.apply_readBack]
            exact ⟨by simp [Server.execute], fun _ => hsave s b hs.1 hb hid htenant hmay⟩
          · refine .pure fun s hs => hnothing s hs.1 fun b _ hid _ => ?_
            obtain ⟨d, hd, hdid, -, rfl⟩ := hs.2.1 a rfl
            rw [c.may_readBack] at hmay
            exact ⟨d, hd, hdid.trans hid.symm, by simpa using hmay⟩

theorem ensures_update
    (now : Moment) (c : Change) :
    Ensures (Coherent blocked) (update now c.id c.tenant c.may c.apply) fun o s =>
      Coherent blocked s ∧ ∀ a, o = .ok (some a) → Stored s a ∧ ∃ b, a = c.apply b ∧
        c.may b = true ∧ (b.isOpen = true → ¬ blocked (claimKey a.rule a.device)) := by
  refine ensures_update_of (fun s hs => hs.toKept) now c (fun s hs _ => ⟨hs, by simp⟩)
    (fun e s hs => ⟨hs, by simp⟩) fun s b hs hb _ _ hmay => ?_
  have hclaim (hopen : b.isOpen = true) := hs.claims b hb hopen
  have hrule : (c.apply b).readBack.rule = b.rule := c.rule_apply b
  have hdevice : (c.apply b).readBack.device = b.device := c.device_apply b
  refine ⟨hs.store fun hopen => ?_, fun a ha => ?_⟩
  · have hid : (c.apply b).readBack.id = b.id := c.id_apply b
    rw [hrule, hdevice, hid]
    exact hclaim (c.isOpen_of_apply b hmay hopen)
  · rw [← Option.some.inj (Except.ok.inj ha)]
    refine ⟨Server.find?_write_self _ _ _, b.readBack, (c.apply_readBack b).symm, ?_, ?_⟩
    · rw [c.may_readBack, hmay]
    · intro hopen
      rw [hrule, hdevice]
      exact (hclaim hopen).1

/-- The claim of a stored alert that is not open may be given up. -/
theorem ensures_close
    (a : Alert)
    (hblocked : ¬ blocked (claimKey a.rule a.device)) :
    Ensures (fun s => Coherent blocked s ∧ Stored s a ∧ a.isOpen = false) (close a)
      fun _ s => Coherent blocked s := by
  refine .bind (R := fun _ s => Coherent blocked s ∧ Stored s a ∧ a.isOpen = false)
    (.command (fun s hs => ?_) (fun e s hs => hs)) ?_ (fun e s hs => hs.1)
  · obtain ⟨hs, ha, hopen⟩ := hs
    have hindex : IsIndex (openKey a.tenant a.device) := by simp [IsIndex]
    obtain ⟨s', hrun, -, hset, hsame⟩ := Server.dropMembers_spec a.id (hs.sets _ hindex)
    have halert (id : String) : s'.find? (alertKey id) = s.find? (alertKey id) :=
      hsame _ (ne_of_keyWord (by simp))
    have hclaim (r d : String) : s'.find? (claimKey r d) = s.find? (claimKey r d) :=
      hsame _ (ne_of_keyWord (by simp))
    simp only [Server.execute, hrun]
    refine ⟨hs.congr halert hclaim fun key hkey => ?_, ?_, hopen⟩
    · by_cases hself : key = openKey a.tenant a.device
      · rw [hself]
        exact hset
      · exact (hs.sets key hkey).congr (hsame key hself)
    · rw [Stored, halert]
      exact ha
  · intro _
    refine .bind (R := fun _ s => Coherent blocked s)
      (ServerAction.ensures_deleteIfEquals (fun s hs => hs.1) fun s hs hclaim => ?_)
      (fun _ => .pure fun s hs => hs) (fun e s hs => hs)
    obtain ⟨hs, ha, hopen⟩ := hs
    refine hs.changeClaim hblocked (fun b hb hopenb heq => ?_) (by simp) fun key hkey =>
      Server.find?_erase_of_ne s hkey
    -- the claim would hold the id of another open alert
    have hheld := (hs.claims b hb hopenb).2
    rw [heq, hclaim] at hheld
    have hid : a.id = b.id := by simpa using hheld
    exact hb.id_ne ha hopenb hopen hid.symm

/-- Whether a claim is held for an alert, and no stored alert needs it. -/
structure Reserved (blocked : String → Prop) (a : Alert) (s : Server) : Prop where
  coherent : Coherent blocked s
  allowed : ¬ blocked (claimKey a.rule a.device)
  held : s.find? (claimKey a.rule a.device) = some (.text a.id)
  unused : ∀ b, Stored s b → b.isOpen = true →
    claimKey b.rule b.device ≠ claimKey a.rule a.device

/-- A free claim is made. -/
theorem Coherent.reserve
    {a : Alert}
    (hs : Coherent blocked s)
    (hfree : s.find? (claimKey a.rule a.device) = none) :
    Reserved blocked a (s.write (claimKey a.rule a.device) (.text a.id)) := by
  have hunused (b : Alert) (hb : Stored s b) (hopen : b.isOpen = true) :
      claimKey b.rule b.device ≠ claimKey a.rule a.device := by
    intro heq
    have hheld := (hs.claims b hb hopen).2
    rw [heq, hfree] at hheld
    cases hheld
  have hallowed : ¬ blocked (claimKey a.rule a.device) := fun hblocked => by
    simpa [hfree] using hs.held a.rule a.device hblocked
  have hsame (key : String) (hkey : key ≠ claimKey a.rule a.device) :=
    Server.find?_write_of_ne s (.text a.id) hkey
  refine ⟨hs.changeClaim hallowed hunused (by simp) hsame, hallowed, Server.find?_write_self _ _ _,
    fun b hb => hunused b ?_⟩
  rwa [Stored, hsame _ (ne_of_keyWord (by simp))] at hb

/-- A new alert is stored under its claim, or not at all. -/
theorem ensures_create
    (a : Alert) :
    Ensures (Coherent blocked) (create a) fun _ s => Coherent blocked s := by
  refine .bind (R := fun o s => Coherent blocked s ∧ (o = .ok true → Reserved blocked a s))
    (.command (fun s hs => ?_) (fun e s hs => ⟨hs, by simp⟩)) ?_ (fun e s hs => hs.1)
  · simp only [Server.execute]
    split_ifs with hsome
    · exact ⟨hs, by simp⟩
    · have hreserved : Reserved blocked a _ := hs.reserve (by simpa using hsome)
      exact ⟨hreserved.coherent, fun _ => hreserved⟩
  · intro claimed
    split_ifs with hclaimed
    · refine .rescue (R := fun o s => (o = .ok () → Coherent blocked s) ∧
          ∀ e, o = .error e → Reserved blocked a s)
        (.command (fun s hs => ?_) (fun e s hs => ⟨by simp, fun _ _ => hs.2 (by rw [hclaimed])⟩))
        (fun x s hs => hs.1 rfl) ?_
      · have hreserved := hs.2 (by rw [hclaimed])
        obtain ⟨s', hrun, henters⟩ := hreserved.coherent.execute_setAndIndex a
        rw [hrun]
        refine ⟨fun _ => ?_, by simp⟩
        exact (hreserved.coherent.store fun _ => ⟨hreserved.allowed, hreserved.held⟩).congr
          henters.find?_alertKey (fun r d => henters.others _ (claimKey_not_mem_indexKeys r d))
          (henters.kept hreserved.coherent.toKept).sets
      · intro e
        refine .bind (R := fun _ s => Coherent blocked s)
          (ServerAction.ensures_deleteIfEquals (fun s hs => (hs.2 e rfl).coherent)
            fun s hs _ => ?_)
          (fun _ => .throw fun s hs => hs) (fun e s hs => hs)
        have hreserved := hs.2 e rfl
        exact hreserved.coherent.changeClaim hreserved.allowed hreserved.unused (by simp)
          fun key hkey => Server.find?_erase_of_ne s hkey
    · exact .throw fun s hs => hs.1

/-! ### Requests and runs -/

/-- Serving a request keeps the server coherent, whichever of its commands fail. -/
theorem serve_coherent
    (now : Moment) (r : Request) :
    Ensures (Coherent blocked) (serve now r) fun _ s => Coherent blocked s := by
  cases r with
  | create a =>
      exact ensures_create a
  | acknowledge id tenant who? notes? =>
      exact .bind (ensures_update now (.acknowledge now id tenant who? notes?))
        (fun a? => .pure fun s hs => hs.1) (fun e s hs => hs.1)
  | resolve id tenant reason? =>
      refine .bind (ensures_update now (.resolve now id tenant reason?)) ?_
        (fun e s hs => hs.1)
      intro a?
      cases a? with
      | none =>
          exact .pure fun s hs => hs.1
      | some a =>
          intro l hl
          obtain ⟨hs, hstored⟩ := hl
          obtain ⟨ha, b, rfl, hmay, hblocked⟩ := hstored a rfl
          exact Ensures.bind (Q := fun _ s => Coherent blocked s)
            (ensures_close _ (hblocked hmay)) (fun _ => .pure fun s hs => hs)
            (fun e s hs => hs) l ⟨hs, ha, rfl⟩
  | recordNotifications id tenant count =>
      exact .bind (ensures_update now (.recordNotifications now id tenant count))
        (fun a? => .pure fun s hs => hs.1) (fun e s hs => hs.1)
  | markEscalated id tenant at_ =>
      exact .bind (ensures_update now (.markEscalated id tenant at_))
        (fun a? => .pure fun s hs => hs.1) (fun e s hs => hs.1)
  | _ =>
      exact ensures_read (fun s hs => hs.toKept) now _ rfl

/-- The server after requests were served one after the other. -/
def after (s : Server) (turns : List Turn) : Server :=
  turns.foldl
    (fun s t => ((serve t.now t.request).runWith Line.execute ⟨s, t.faults⟩).2.server) s

theorem Coherent.after
    (h : Coherent blocked s)
    (turns : List Turn) :
    Coherent blocked (Indexed.after s turns) := by
  induction turns generalizing s with
  | nil =>
      exact h
  | cons t turns ih =>
      exact ih (serve_coherent t.now t.request ⟨s, t.faults⟩ h)

/-- Whether a server holds alerts only, each under its id, and no two of them that are open
for one rule and device. -/
def AtMostOneOpen (s : Server) : Prop :=
  (∀ id e, s.find? (alertKey id) = some e → ∃ a, a.id = id ∧ Stored s a) ∧
    ∀ a b, Stored s a → Stored s b → a.isOpen = true → b.isOpen = true →
      a.rule = b.rule → a.device = b.device → a.id = b.id

theorem Coherent.atMostOneOpen
    (h : Coherent blocked s) :
    AtMostOneOpen s := by
  refine ⟨fun id e he => ?_, fun a b ha hb hopena hopenb hrule hdevice => ?_⟩
  · obtain ⟨a, rfl, rfl⟩ := h.documents id e he
    exact ⟨a, rfl, he⟩
  · have hclaim := (h.claims a ha hopena).2
    rw [hrule, hdevice, (h.claims b hb hopenb).2] at hclaim
    simpa using hclaim.symm

end Indexed

/-- In both stores, after every run from nothing, no two stored alerts are open for one
rule and device: whatever the alerts and ids are, and whichever commands of the key server
fail. -/
theorem atMostOneOpen_after
    (turns : List Turn) :
    (Memory.after {} turns).AtMostOneOpen ∧ Indexed.AtMostOneOpen (Indexed.after {} turns) :=
  ⟨(Memory.Orderly.empty.after turns).atMostOneOpen,
    (Indexed.Coherent.empty.after turns).atMostOneOpen⟩

end TelemetryAlerts
