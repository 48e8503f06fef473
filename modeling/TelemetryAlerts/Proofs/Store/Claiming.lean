import TelemetryAlerts.Proofs.Program.Pool
import TelemetryAlerts.Proofs.Store.Calls
import TelemetryAlerts.Proofs.Store.Claims

/-!
# Claims side by side

Requests to create and to end alerts are served at once by one key server, any number of
them. Every command is atomic and may fail without effect; otherwise the commands of one
request may come between those of another in any order.

A new alert is stored after its claim was made, and a claim is given up after the end of
its alert was stored, or when the alert could not be stored. What each request relies on is
that nobody takes away the claim of an alert that is not stored yet, that an alert which
has ended stays so, and that every change of a key is noted, so that a claim which was
read is deleted only if it is still the same. What it guarantees is that it deletes no
claim but that of its own alert.

**Results.**
* `abides_create`, `abides_resolve`: what the commands of a request guarantee.
* `claims_exclude`: no two open alerts of one rule and device are stored at any moment, and no
  request takes away the claim of another alert than its own.
-/

namespace TelemetryAlerts

/-- A command takes effect, or fails without one. -/
inductive Command.Effect (c : Command) (s : Server) : c.Reply → Server → Prop where
  | takes : Effect c s (Server.execute c s).1 (Server.execute c s).2
  | fails (e : Failure) : Effect c s (.error e) s

/-- Whether a request is to create the alert with an id. -/
def Request.Creates (r : Request) (id : String) : Prop :=
  ∃ a, r = .create a ∧ a.id = id

/-- Whether a request is to create or to end the alert with an id. -/
def Request.Concerns (r : Request) (id : String) : Prop :=
  r.Creates id ∨ ∃ tenant reason?, r = .resolve id tenant reason?

/-! ### Every change is noted -/

namespace Server

/-- Whether the changes that lead from one server to another are noted. -/
def Notes (s t : Server) : Prop :=
  ∃ noted, t.changes = s.changes ++ noted ∧ ∀ key, t.find? key ≠ s.find? key → key ∈ noted

theorem Notes.refl
    (s : Server) :
    Notes s s :=
  ⟨[], by simp, fun _ h => absurd rfl h⟩

theorem Notes.trans
    {s t u : Server}
    (h : Notes s t)
    (h' : Notes t u) :
    Notes s u := by
  obtain ⟨noted, hchanges, hnoted⟩ := h
  obtain ⟨noted', hchanges', hnoted'⟩ := h'
  refine ⟨noted ++ noted', by rw [hchanges', hchanges, List.append_assoc], fun key hkey => ?_⟩
  by_cases hfirst : t.find? key = s.find? key
  · exact List.mem_append_right _ (hnoted' key (by rwa [hfirst]))
  · exact List.mem_append_left _ (hnoted key hfirst)

theorem notes_write
    (s : Server) (key : String) (e : Entry) :
    Notes s (s.write key e) := by
  refine ⟨[key], rfl, fun k hk => ?_⟩
  by_contra hne
  exact hk (find?_write_of_ne s e fun heq => hne (by simp [heq]))

theorem notes_erase
    (s : Server) (key : String) :
    Notes s (s.erase key) := by
  by_cases hsome : (s.find? key).isSome = true
  · refine ⟨[key], by rw [erase, if_pos hsome], fun k hk => ?_⟩
    by_contra hne
    exact hk (find?_erase_of_ne s fun heq => hne (by simp [heq]))
  · rw [erase, if_neg hsome]
    exact .refl s

theorem notes_addToAll
    (member : String) (keys : List String) (r : Outcome Unit) (s : Server) :
    Notes s (addToAll member keys (r, s)).2 := by
  induction keys generalizing r s with
  | nil =>
      exact .refl s
  | cons key keys ih =>
      rw [addToAll]
      split
      · next t ht =>
          refine Notes.trans ?_ (ih r t)
          unfold addMember at ht
          split at ht
          · cases ht
            exact notes_write s _ _
          · cases ht
            exact notes_write s _ _
          · cases ht
      · exact ih _ s

theorem notes_dropMembers
    {s t : Server} {key : String} {gone : List String}
    (h : s.dropMembers key gone = .ok t) :
    Notes s t := by
  unfold dropMembers at h
  split at h
  · cases h
    exact .refl s
  · cases h
  · dsimp only at h
    split_ifs at h
    · cases h
      exact .refl s
    · cases h
      exact notes_erase s key
    · cases h
      exact notes_write s _ _

theorem notes_execute
    (c : Command) (s : Server) :
    Notes s (execute c s).2 := by
  cases c with
  | set key value =>
      exact notes_write s _ _
  | setIfAbsent key value =>
      simp only [execute]
      split_ifs
      · exact .refl s
      · exact notes_write s _ _
  | setAndIndex key value indexes member =>
      exact (notes_write s _ _).trans (notes_addToAll _ _ _ _)
  | removeMembers key gone =>
      simp only [execute]
      split
      · next t ht =>
          exact notes_dropMembers ht
      · exact .refl s
  | members key =>
      simp only [execute]
      split <;> exact .refl s
  | deleteIfUnchanged key since =>
      simp only [execute]
      split_ifs
      · exact .refl s
      · exact notes_erase s key
  | publish channel text =>
      exact ⟨[], by simp [execute], fun _ h => absurd rfl h⟩
  | drawId =>
      exact ⟨[], by simp [execute], fun _ h => absurd rfl h⟩
  | _ =>
      exact .refl s

/-- A key that was not noted since a moment still holds what it held then. -/
theorem Notes.held
    {s t : Server} {key : String} {e : Entry} {since : Nat}
    (h : Notes s t)
    (hsince : since ≤ s.changes.length)
    (hheld : key ∈ s.changes.drop since ∨ s.find? key = some e) :
    key ∈ t.changes.drop since ∨ t.find? key = some e := by
  obtain ⟨noted, hchanges, hnoted⟩ := h
  rw [hchanges, List.drop_append_of_le_length hsince, List.mem_append]
  rcases hheld with hmem | hentry
  · exact Or.inl (Or.inl hmem)
  · by_cases hsame : t.find? key = s.find? key
    · exact Or.inr (hsame.trans hentry)
    · exact Or.inl (Or.inr (hnoted key hsame))

theorem Notes.length_le
    {s t : Server}
    (h : Notes s t) :
    s.changes.length ≤ t.changes.length := by
  obtain ⟨noted, hchanges, -⟩ := h
  simp [hchanges]

/-- Whether a key that is watched since a moment still holds what was seen, or a change of it
was noted. -/
structure Saw (key : String) (since : Nat) (seen : Outcome (Option String)) (s : Server) : Prop where
  watched : since ≤ s.changes.length
  held : ∀ text, seen = .ok (some text) →
    key ∈ s.changes.drop since ∨ s.find? key = some (.text text)

theorem Saw.of_notes
    {s t : Server} {key : String} {since : Nat} {seen : Outcome (Option String)}
    (h : Saw key since seen s)
    (hnotes : Notes s t) :
    Saw key since seen t where
  watched := h.watched.trans hnotes.length_le
  held text htext := hnotes.held h.watched (h.held text htext)

end Server

namespace Indexed

open Program (Abides)

variable {s t : Server} {a b : Alert} {r : Request}

/-! ### What is relied on and guaranteed -/

/-- What every command of a request does: it keeps the server coherent and notes its
changes; no document goes away, and an alert that has ended stays so. -/
structure Grows (s t : Server) : Prop where
  coherent : Coherent (fun _ => False) s → Coherent (fun _ => False) t
  notes : Server.Notes s t
  stays : ∀ id, t.find? (alertKey id) = none → s.find? (alertKey id) = none
  ended : ∀ a, Stored s a → a.isOpen = false → ∃ b, Stored t b ∧ b.id = a.id ∧ b.isOpen = false

/-- What other requests leave to a request for a new alert: they do not store the alert,
and as long as it is not stored, they leave it its claim. -/
structure Spares (r : Request) (s t : Server) : Prop where
  unstored : ∀ a, r = .create a → s.find? (alertKey a.id) = none → t.find? (alertKey a.id) = none
  claim : ∀ a, r = .create a → s.find? (alertKey a.id) = none →
    s.find? (claimKey a.rule a.device) = some (.text a.id) →
      t.find? (claimKey a.rule a.device) = some (.text a.id)

/-- What a command of a request guarantees: it stores no new alert but that of its own
request, and it takes a claim from no alert but that of its own request, which was stored
before unless the request is to create it. -/
structure Guards (r : Request) (s t : Server) : Prop extends Grows s t where
  fresh : ∀ id, s.find? (alertKey id) = none → t.find? (alertKey id) ≠ none → r.Creates id
  claim : ∀ rule device id, s.find? (claimKey rule device) = some (.text id) →
    t.find? (claimKey rule device) ≠ some (.text id) →
      r.Concerns id ∧ (s.find? (alertKey id) = none → r.Creates id)

theorem Grows.refl
    (s : Server) :
    Grows s s :=
  ⟨id, .refl s, fun _ h => h, fun a ha hclosed => ⟨a, ha, rfl, hclosed⟩⟩

theorem Grows.trans
    {u : Server}
    (h : Grows s t)
    (h' : Grows t u) :
    Grows s u where
  coherent hs := h'.coherent (h.coherent hs)
  notes := h.notes.trans h'.notes
  stays id hid := h.stays id (h'.stays id hid)
  ended a ha hclosed := by
    obtain ⟨b, hb, hid, hclosed⟩ := h.ended a ha hclosed
    obtain ⟨c, hc, hid', hclosed⟩ := h'.ended b hb hclosed
    exact ⟨c, hc, hid'.trans hid, hclosed⟩

/-- The terms on which a request is served. -/
def terms (r : Request) : Terms Server where
  rely s t := Grows s t ∧ Spares r s t
  guarantee := Guards r
  rely_refl s := ⟨.refl s, fun _ _ h => h, fun _ _ _ h => h⟩
  rely_trans h h' := ⟨h.1.trans h'.1,
    fun a ha hnone => h'.2.unstored a ha (h.2.unstored a ha hnone),
    fun a ha hnone hclaim => h'.2.claim a ha (h.2.unstored a ha hnone)
      (h.2.claim a ha hnone hclaim)⟩

/-- What one request guarantees is what another one relies on, if they do not both create
one alert. -/
theorem rely_of_guards
    {r' : Request}
    (hids : ∀ id, r.Creates id → ¬ r'.Creates id)
    (h : Guards r s t) :
    (terms r').rely s t := by
  refine ⟨h.toGrows, fun a ha hnone => ?_, fun a ha hnone hclaim => ?_⟩
  · by_contra hsome
    exact hids a.id (h.fresh a.id hnone hsome) ⟨a, ha, rfl⟩
  · by_contra hlost
    exact hids a.id ((h.claim _ _ a.id hclaim hlost).2 hnone) ⟨a, ha, rfl⟩

theorem Guards.refl
    (r : Request) (s : Server) :
    Guards r s s where
  toGrows := .refl s
  fresh _ hnone hsome := absurd hnone hsome
  claim _ _ _ hclaim hlost := absurd hclaim hlost

/-- A command that leaves the documents and the claims alone guarantees everything. -/
theorem guards_of_beside
    (hnotes : Server.Notes s t)
    (halerts : ∀ id, t.find? (alertKey id) = s.find? (alertKey id))
    (hclaims : ∀ r d, t.find? (claimKey r d) = s.find? (claimKey r d))
    (hsets : (∀ key, IsIndex key → s.IsSet key) → ∀ key, IsIndex key → t.IsSet key) :
    Guards r s t where
  coherent hs := hs.congr halerts hclaims (hsets hs.sets)
  notes := hnotes
  stays id hid := by rwa [← halerts]
  ended a ha hclosed := ⟨a, by rwa [Stored, halerts], rfl, hclosed⟩
  fresh id hnone hsome := absurd ((halerts id).trans hnone) hsome
  claim rule device id hclaim hlost := absurd ((hclaims rule device).trans hclaim) hlost

/-- The end of a stored alert may be stored. -/
theorem guards_save
    (hstored : s.find? (alertKey a.id) ≠ none)
    (hclosed : a.isOpen = false) :
    Guards r s (s.write (alertKey a.id) (.text (documentText a))) where
  coherent hs := hs.store fun hopen => by simp [hclosed] at hopen
  notes := Server.notes_write s _ _
  stays id hid := by
    by_cases hself : id = a.id
    · rw [hself, Server.find?_write_self] at hid
      cases hid
    · rwa [Server.find?_write_of_ne _ _ (alertKey_injective.ne hself)] at hid
  ended b hb hopen := by
    by_cases hself : b.id = a.id
    · exact ⟨a, Server.find?_write_self _ _ _, hself.symm, hclosed⟩
    · exact ⟨b, by rwa [Stored, Server.find?_write_of_ne _ _ (alertKey_injective.ne hself)],
        rfl, hopen⟩
  fresh id hnone hsome := by
    by_cases hself : id = a.id
    · exact absurd (hself ▸ hnone) hstored
    · rw [Server.find?_write_of_ne _ _ (alertKey_injective.ne hself)] at hsome
      exact absurd hnone hsome
  claim rule device id hclaim hlost := by
    rw [Server.find?_write_of_ne _ _ (ne_of_keyWord (by simp))] at hlost
    exact absurd hclaim hlost

/-- The claim of an alert that is not open may be given up. -/
theorem guards_unclaim
    {rule device id : String}
    (hclaim : s.find? (claimKey rule device) = some (.text id))
    (hunused : ∀ b, Stored s b → b.isOpen = true → b.id ≠ id)
    (hconcerns : r.Concerns id)
    (hcreates : s.find? (alertKey id) = none → r.Creates id) :
    Guards r s (s.erase (claimKey rule device)) where
  coherent hs := by
    refine hs.changeClaim not_false (fun b hb hopen heq => ?_) (by simp) fun key hkey =>
      Server.find?_erase_of_ne s hkey
    have hheld := (hs.claims b hb hopen).2
    rw [heq, hclaim] at hheld
    exact hunused b hb hopen (by simpa using hheld.symm)
  notes := Server.notes_erase s _
  stays id' hid := by
    rwa [Server.find?_erase_of_ne _ (ne_of_keyWord (by simp))] at hid
  ended b hb hclosed := by
    refine ⟨b, ?_, rfl, hclosed⟩
    rwa [Stored, Server.find?_erase_of_ne _ (ne_of_keyWord (by simp))]
  fresh id' hnone hsome := by
    rw [Server.find?_erase_of_ne _ (ne_of_keyWord (by simp))] at hsome
    exact absurd hnone hsome
  claim rule' device' id' hclaim' hlost := by
    by_cases hkey : claimKey rule' device' = claimKey rule device
    · rw [hkey, hclaim] at hclaim'
      obtain rfl : id = id' := by simpa using hclaim'
      exact ⟨hconcerns, hcreates⟩
    · rw [Server.find?_erase_of_ne _ hkey] at hlost
      exact absurd hclaim' hlost

/-- A free claim may be made. -/
theorem guards_claim
    {rule device : String}
    (hfree : s.find? (claimKey rule device) = none)
    (id : String) :
    Guards r s (s.write (claimKey rule device) (.text id)) where
  coherent hs := by
    refine hs.changeClaim not_false (fun b hb hopen heq => ?_) (by simp) fun key hkey =>
      Server.find?_write_of_ne s _ hkey
    have hheld := (hs.claims b hb hopen).2
    rw [heq, hfree] at hheld
    cases hheld
  notes := Server.notes_write s _ _
  stays id' hid := by
    rwa [Server.find?_write_of_ne _ _ (ne_of_keyWord (by simp))] at hid
  ended b hb hclosed := by
    refine ⟨b, ?_, rfl, hclosed⟩
    rwa [Stored, Server.find?_write_of_ne _ _ (ne_of_keyWord (by simp))]
  fresh id' hnone hsome := by
    rw [Server.find?_write_of_ne _ _ (ne_of_keyWord (by simp))] at hsome
    exact absurd hnone hsome
  claim rule' device' id' hclaim hlost := by
    by_cases hkey : claimKey rule' device' = claimKey rule device
    · rw [hkey, hfree] at hclaim
      cases hclaim
    · rw [Server.find?_write_of_ne _ _ hkey] at hlost
      exact absurd hclaim hlost

/-- A new alert that holds its claim may be stored. -/
theorem guards_store
    (hs : Coherent (fun _ => False) s)
    (hunstored : s.find? (alertKey a.id) = none)
    (hheld : s.find? (claimKey a.rule a.device) = some (.text a.id)) :
    Guards (.create a) s (Server.execute (.setAndIndex (alertKey a.id) (documentText a)
      [tenantKey a.tenant, pairKey a.rule a.device, openKey a.tenant a.device] a.id) s).2 := by
  obtain ⟨t, hrun, henters⟩ := hs.execute_setAndIndex a
  have hnotes := Server.notes_execute (.setAndIndex (alertKey a.id) (documentText a)
    [tenantKey a.tenant, pairKey a.rule a.device, openKey a.tenant a.device] a.id) s
  rw [hrun] at hnotes ⊢
  exact {
    coherent := fun _ => (hs.store fun _ => ⟨not_false, hheld⟩).congr henters.find?_alertKey
      (fun r d => henters.others _ (claimKey_not_mem_indexKeys r d)) (henters.kept hs.toKept).sets
    notes := hnotes
    stays := by
      intro id hid
      by_cases hself : id = a.id
      · rwa [hself]
      · rwa [henters.find?_alertKey_of_ne hself] at hid
    ended := by
      intro b hb hclosed
      refine ⟨b, ?_, rfl, hclosed⟩
      rwa [Stored, henters.find?_alertKey_of_ne]
      intro hself
      rw [Stored, hself, hunstored] at hb
      cases hb
    fresh := by
      intro id hnone hsome
      by_cases hself : id = a.id
      · exact ⟨a, rfl, hself.symm⟩
      · rw [henters.find?_alertKey_of_ne hself] at hsome
        exact absurd hnone hsome
    claim := by
      intro rule device id hbefore hlost
      rw [henters.find?_claimKey] at hlost
      exact absurd hbefore hlost }

/-! ### Commands -/

/-- A command that fails does nothing, so only what it does if it takes effect is at issue. -/
theorem abides_command
    {c : Command} {Q : c.Reply → Server → Prop} (P : Server → Prop)
    (hs : P s)
    (hstable : ∀ s t, (terms r).rely s t → P s → P t)
    (htakes : ∀ s, P s →
      Guards r s (Server.execute c s).2 ∧ Q (Server.execute c s).1 (Server.execute c s).2)
    (hfails : ∀ e s, P s → Q (.error e) s)
    (hQ : ∀ o s t, (terms r).rely s t → Q o s → Q o t) :
    Abides Command.Effect (terms r) (Program.perform c) Q s := by
  refine .perform P hs hstable ?_ hQ
  rintro s o t hs (_ | e)
  · exact htakes s hs
  · exact ⟨.refl r s, hfails e s hs⟩

/-! ### Requests to end alerts -/

theorem coherent_of_rely
    (h : (terms r).rely s t)
    (hs : Coherent (fun _ => False) s) :
    Coherent (fun _ => False) t :=
  h.1.coherent hs

/-- What is known of an alert that was loaded, as long as it is not stored again. -/
theorem abides_load
    (now : Moment) (id : String)
    (hs : Coherent (fun _ => False) s) :
    Abides Command.Effect (terms r) (ExceptT.run (load now id))
      (fun o s => Coherent (fun _ => False) s ∧
        ∀ a, o = .ok (some a) → a.id = id ∧ s.find? (alertKey id) ≠ none) s := by
  rw [load_eq]
  refine .bindAction (R := fun o s => Coherent (fun _ => False) s ∧ ∀ text, o = .ok (some text) →
    ∃ b : Alert, b.id = id ∧ text = documentText b ∧ s.find? (alertKey id) ≠ none) ?_ ?_ ?_
  · refine abides_command (Coherent fun _ => False) hs (fun _ _ => coherent_of_rely) ?_
      (fun e s hs => ⟨hs, by simp⟩) ?_
    · refine fun s hs => ⟨.refl r s, hs, fun text htext => ?_⟩
      obtain ⟨b?, hb?, hstored⟩ := hs.text_alertKey id
      cases b? with
      | none =>
          simp [Server.execute, hb?] at htext
      | some b =>
          obtain ⟨hb, hid⟩ := hstored b rfl
          refine ⟨b, hid, by simpa [Server.execute, hb?] using htext.symm, ?_⟩
          change s.find? (alertKey id) ≠ none
          rw [← hid, hb]
          simp
    · rintro o s t hrely ⟨hs, htext⟩
      refine ⟨coherent_of_rely hrely hs, fun text ho => ?_⟩
      obtain ⟨b, hid, htext, hstored⟩ := htext text ho
      exact ⟨b, hid, htext, fun hnone => hstored (hrely.1.stays id hnone)⟩
  · rintro (_ | text) s ⟨hs, htext⟩
    · exact fun t hrely => ⟨coherent_of_rely hrely hs, by simp⟩
    · obtain ⟨b, hid, rfl, hstored⟩ := htext text rfl
      rw [ofStored_documentText]
      intro t hrely
      refine ⟨coherent_of_rely hrely hs, fun a ha => ?_⟩
      rw [Alert.reading] at ha
      split_ifs at ha
      · obtain rfl : b.readBack = a := by simpa using Except.ok.inj ha
        exact ⟨hid, fun hnone => hstored (hrely.1.stays id hnone)⟩
      · cases ha
  · exact fun e s hs => ⟨hs.1, by simp⟩

/-- What is known while the end of an alert is stored, but not in its indexes. -/
structure Ended (id : String) (s : Server) : Prop where
  coherent : Coherent (fun _ => False) s
  stored : ∃ b, Stored s b ∧ b.id = id ∧ b.isOpen = false

theorem Ended.grows
    {id : String}
    (hgrows : Grows s t)
    (h : Ended id s) :
    Ended id t := by
  obtain ⟨b, hb, rfl, hclosed⟩ := h.stored
  exact ⟨hgrows.coherent h.coherent, hgrows.ended b hb hclosed⟩

section

variable {rule device id : String} {since : Nat} {P : Server → Prop}
  (hstable : ∀ s t, (terms r).rely s t → P s → P t)
  (hguard : ∀ s, P s → s.find? (claimKey rule device) = some (.text id) →
    Guards r s (s.erase (claimKey rule device)))
include hstable hguard

/-- A claim that was seen to be held for an id is deleted only if it still is. -/
theorem abides_deleteIfUnchanged
    (hs : P s)
    (hsaw : Server.Saw (claimKey rule device) since (.ok (some id)) s) :
    Abides Command.Effect (terms r)
      (Program.perform (.deleteIfUnchanged (claimKey rule device) since)) (fun _ _ => True) s := by
  refine abides_command
    (fun s => P s ∧ Server.Saw (claimKey rule device) since (.ok (some id)) s) ⟨hs, hsaw⟩
    (fun s t hrely h => ⟨hstable s t hrely h.1, h.2.of_notes hrely.1.notes⟩) ?_
    (fun _ _ _ => trivial) fun _ _ _ _ _ => trivial
  rintro s ⟨hs, hsaw⟩
  refine ⟨?_, trivial⟩
  simp only [Server.execute]
  split_ifs with hnoted
  · exact .refl r s
  · exact hguard s hs ((hsaw.held id rfl).resolve_left (by simpa using hnoted))

/-- A claim is deleted only if it is held for the given id at that moment. -/
theorem abides_deleteIfEquals
    (hs : P s) :
    Abides Command.Effect (terms r)
      (ExceptT.run (ServerAction.deleteIfEquals (claimKey rule device) id))
      (fun _ _ => True) s := by
  refine .bindAction (R := fun o s => P s ∧ ∀ since, o = .ok since → since ≤ s.changes.length)
    (abides_command P hs hstable
      (fun s hs => ⟨.refl r s, hs, fun since hsince => (Except.ok.inj hsince).ge⟩)
      (fun e s hs => ⟨hs, by simp⟩) fun o s t hrely h => ⟨hstable s t hrely h.1,
        fun since ho => (h.2 since ho).trans hrely.1.notes.length_le⟩) ?_ fun _ _ _ => trivial
  rintro since s ⟨hs, hsince⟩
  refine .bindAction (R := fun o s => P s ∧ Server.Saw (claimKey rule device) since o s)
    (abides_command (fun s => P s ∧ since ≤ s.changes.length) ⟨hs, hsince since rfl⟩
      (fun s t hrely h => ⟨hstable s t hrely h.1, h.2.trans hrely.1.notes.length_le⟩)
      (fun s h => ⟨.refl r s, h.1, h.2, fun text ho => Or.inr (Server.find?_of_text? ho)⟩)
      (fun e s h => ⟨h.1, h.2, by simp⟩)
      fun o s t hrely h => ⟨hstable s t hrely h.1, h.2.of_notes hrely.1.notes⟩) ?_
    fun _ _ _ => trivial
  rintro text? s ⟨hs, hsaw⟩
  split
  · next htext =>
      subst htext
      exact abides_deleteIfUnchanged hstable hguard hs hsaw
  · exact .bindAction (R := fun _ _ => True)
      (abides_command (fun _ => True) trivial (fun _ _ _ h => h)
        (fun s _ => ⟨.refl r s, trivial⟩) (fun _ _ _ => trivial) fun _ _ _ _ _ => trivial)
      (fun _ _ _ _ _ => trivial) fun _ _ _ => trivial

end

/-- The commands after the end of an alert was stored. -/
theorem abides_close
    (hconcerns : r.Concerns a.id)
    (hs : Ended a.id s) :
    Abides Command.Effect (terms r) (ExceptT.run (close a)) (fun _ _ => True) s := by
  refine .bindAction (R := fun _ s => Ended a.id s)
    (abides_command (Ended a.id) hs (fun _ _ hrely => .grows hrely.1) (fun s hs => ?_)
      (fun _ _ hs => hs) fun _ _ _ hrely => .grows hrely.1) ?_ fun _ _ _ => trivial
  · have hindex : IsIndex (openKey a.tenant a.device) := by simp [IsIndex]
    have hnotes := Server.notes_execute (.removeMembers (openKey a.tenant a.device) [a.id]) s
    obtain ⟨t, hrun, hkept, hsame⟩ := hs.coherent.dropMembers hindex a.id
    rw [hrun] at hnotes ⊢
    have hguards : Guards r s t := guards_of_beside hnotes
      (fun _ => hsame _ (ne_of_keyWord (by simp))) (fun _ _ => hsame _ (ne_of_keyWord (by simp)))
      fun _ => hkept.sets
    exact ⟨hguards, hs.grows hguards.toGrows⟩
  · rintro _ s hs
    refine .bindAction (R := fun _ _ => True)
      (abides_deleteIfEquals (P := Ended a.id) (fun _ _ hrely => .grows hrely.1)
        (fun s hs hclaim => ?_) hs)
      (fun _ _ _ _ _ => trivial) fun _ _ _ => trivial
    obtain ⟨b, hb, hid, hclosed⟩ := hs.stored
    refine guards_unclaim hclaim (fun c hc hopen hsame => ?_) hconcerns fun hnone => ?_
    · exact hc.id_ne hb hopen hclosed (hsame.trans hid.symm)
    · rw [Stored, hid, hnone] at hb
      cases hb

/-- A request to end an alert stores the end before it gives up the claim. -/
theorem abides_resolve
    (now : Moment) (id tenant : String) (reason? : Option String)
    (hs : Coherent (fun _ => False) s) :
    Abides Command.Effect (terms (.resolve id tenant reason?))
      (ExceptT.run (serve now (.resolve id tenant reason?))) (fun _ _ => True) s := by
  have hconcerns : (Request.resolve id tenant reason?).Concerns id :=
    Or.inr ⟨tenant, reason?, rfl⟩
  rw [serve, update_eq, bind_assoc]
  refine .bindAction (abides_load now id hs) ?_ fun _ _ _ => trivial
  rintro (_ | a) s ⟨hs, ha⟩
  · exact fun _ _ => trivial
  · obtain ⟨rfl, hstored⟩ := ha a rfl
    rw [change]
    split_ifs with hmay
    · rw [bind_assoc]
      refine .bindAction (R := fun o s => o = .ok () → Ended a.id s)
        (abides_command (fun s => Coherent (fun _ => False) s ∧ s.find? (alertKey a.id) ≠ none)
          ⟨hs, hstored⟩ ?_ ?_ (by simp) fun o s t hrely h ho => (h ho).grows hrely.1) ?_
        fun _ _ _ => trivial
      · exact fun s t hrely h => ⟨coherent_of_rely hrely h.1,
          fun hnone => h.2 (hrely.1.stays a.id hnone)⟩
      · rintro s ⟨hs, hstored⟩
        have hguards : Guards (.resolve a.id tenant reason?) s _ :=
          guards_save (a := a.resolve reason? now) hstored rfl
        exact ⟨hguards, fun _ => ⟨hguards.coherent hs, _, Server.find?_write_self _ _ _, rfl,
          rfl⟩⟩
      · rintro _ s hended
        rw [pure_bind]
        exact .bindAction (abides_close (a := a.resolve reason? now) hconcerns (hended rfl))
          (fun _ _ _ _ _ => trivial) fun _ _ _ => trivial
    · exact fun _ _ => trivial

/-! ### Requests to create alerts -/

/-- What is known while an alert is not stored and holds its claim. -/
structure Claimed (a : Alert) (s : Server) : Prop where
  coherent : Coherent (fun _ => False) s
  unstored : s.find? (alertKey a.id) = none
  held : s.find? (claimKey a.rule a.device) = some (.text a.id)

theorem Claimed.rely
    (hrely : (terms (.create a)).rely s t)
    (h : Claimed a s) :
    Claimed a t where
  coherent := coherent_of_rely hrely h.coherent
  unstored := hrely.2.unstored a rfl h.unstored
  held := hrely.2.claim a rfl h.unstored h.held

/-- A request for a new alert stores it under its claim, or gives the claim up. -/
theorem abides_create
    (hs : Coherent (fun _ => False) s)
    (hunstored : s.find? (alertKey a.id) = none) :
    Abides Command.Effect (terms (.create a)) (ExceptT.run (create a)) (fun _ _ => True) s := by
  refine .bindAction (R := fun o s => o = .ok true → Claimed a s)
    (abides_command (fun s => Coherent (fun _ => False) s ∧ s.find? (alertKey a.id) = none)
      ⟨hs, hunstored⟩ ?_ ?_ (by simp) fun o s t hrely h ho => (h ho).rely hrely) ?_
    fun _ _ _ => trivial
  · exact fun s t hrely h => ⟨coherent_of_rely hrely h.1, hrely.2.unstored a rfl h.2⟩
  · rintro s ⟨hs, hunstored⟩
    simp only [Server.execute]
    split_ifs with hheld
    · exact ⟨.refl _ s, by simp⟩
    · have hfree : s.find? (claimKey a.rule a.device) = none := by simpa using hheld
      have hguards : Guards (.create a) s _ := guards_claim hfree a.id
      refine ⟨hguards, fun _ => ⟨hguards.coherent hs, ?_, Server.find?_write_self _ _ _⟩⟩
      rw [Server.find?_write_of_ne _ _ (ne_of_keyWord (by simp))]
      exact hunstored
  rintro claimed s hclaimed
  split_ifs with htrue
  · subst htrue
    refine .rescue (R := fun o s => ∀ e, o = .error e → Claimed a s)
      (abides_command (Claimed a) (hclaimed rfl) (fun _ _ => Claimed.rely) ?_
        (fun _ _ hs _ _ => hs) fun o s t hrely h e ho => (h e ho).rely hrely)
      (fun _ _ _ => trivial) ?_
    · refine fun s hs => ⟨guards_store hs.coherent hs.unstored hs.held, fun e he => ?_⟩
      obtain ⟨t, hrun, -⟩ := hs.coherent.execute_setAndIndex a
      rw [hrun] at he
      cases he
    · rintro e s hs
      refine .bindAction (R := fun _ _ => True)
        (abides_deleteIfEquals (P := Claimed a) (fun _ _ => Claimed.rely) (fun s hs hclaim => ?_)
          (hs e rfl)) (fun _ _ _ _ _ => trivial) fun _ _ _ => trivial
      refine guards_unclaim hclaim (fun b hb _ hid => ?_) (Or.inl ⟨a, rfl, rfl⟩)
        fun _ => ⟨a, rfl, rfl⟩
      rw [Stored, hid, hs.unstored] at hb
      cases hb
  · exact fun _ _ => trivial

end Indexed

/-! ### Any number of requests -/

open Indexed

/-- Whether a turn is to create or to end an alert. -/
def Turn.Claims (t : Turn) : Prop :=
  ∃ id, t.request.Concerns id

/-- Requests that are about to be served by one server. -/
def Pool.ofTurns {ι : Type} (s : Server) (calls : ι → Turn) :
    Pool ι Command.Reply Server Answer :=
  ⟨s, fun i => (calls i).program⟩

theorem abides_program
    {t : Turn} {s : Server}
    (ht : t.Claims)
    (hs : Coherent (fun _ => False) s)
    (hunstored : ∀ id, t.request.Creates id → s.find? (alertKey id) = none) :
    t.program.Abides Command.Effect (terms t.request) (fun _ _ => True) s := by
  obtain ⟨now, r, faults⟩ := t
  refine .bind (.weaken (Q := fun _ _ => True) ?_ fun _ _ _ _ _ => trivial)
  obtain ⟨id, ⟨a, rfl, rfl⟩ | ⟨tenant, reason?, rfl⟩⟩ := ht
  · exact abides_create hs (hunstored _ ⟨a, rfl, rfl⟩)
  · exact abides_resolve now id tenant reason? hs

/-- Any number of requests to create and to end alerts are served at once by a server that
was empty, where the alerts to create have different ids. Whatever the order of their
commands is and whichever of these fail, no two stored alerts are open for one rule and
device at any moment, and a command takes away a claim only from the alert that its request
is about. -/
theorem claims_exclude
    {ι : Type} [DecidableEq ι]
    (calls : ι → Turn)
    (hcalls : ∀ i, (calls i).Claims)
    (hids : ∀ i j id, (calls i).request.Creates id → (calls j).request.Creates id → i = j)
    {w : Pool ι Command.Reply Server Answer}
    (hw : Pool.Reaches (fun _ => Command.Effect) (.ofTurns {} calls) w) :
    AtMostOneOpen w.state ∧
      ∀ i w', Pool.Step (fun _ => Command.Effect) w i w' → ∀ rule device id,
        w.state.find? (claimKey rule device) = some (.text id) →
          w'.state.find? (claimKey rule device) ≠ some (.text id) →
            (calls i).request.Concerns id := by
  have hterms (i j : ι) (s t : Server) (hij : i ≠ j)
      (hguards : (terms (calls i).request).guarantee s t) :
      (terms (calls j).request).rely s t :=
    rely_of_guards (fun id hi hj => hij (hids i j id hi hj)) hguards
  have hstart (i : ι) : (calls i).program.Abides Command.Effect (terms (calls i).request)
      (fun _ _ => True) {} :=
    abides_program (hcalls i) Coherent.empty fun _ _ => rfl
  obtain ⟨hcoherent, habides⟩ := hw.abides hterms hstart
    (fun i s t hguards => hguards.coherent) Coherent.empty
  refine ⟨hcoherent.atMostOneOpen, fun i w' hstep rule device id hclaim hlost => ?_⟩
  exact ((hstep.abides hterms habides).1.claim rule device id hclaim hlost).1

/-- Two requests to create alerts of one rule and device. -/
def claimants (first : Bool) : Turn :=
  let noon : Moment := ⟨2025, 1, 1, 12, 0, 0, 0, some 0, Eq.refl true⟩
  ⟨noon, .create (.raised (if first then "a1" else "a2") "tenant-a" "rule-1" "dev-1" noon), []⟩

/-- The first one makes its claim, and the second one does not take it away. -/
theorem claims_exclude_claimants :
    ∃ w, Pool.Reaches (fun _ => Command.Effect) (.ofTurns {} claimants) w ∧
      AtMostOneOpen w.state ∧
      ∀ w', Pool.Step (fun _ => Command.Effect) w false w' →
        w'.state.find? (claimKey "rule-1" "dev-1") = some (.text "a1") := by
  have hstep : Pool.Step (fun _ => Command.Effect) (.ofTurns {} claimants) true _ :=
    .call rfl .takes
  have hclaims (i : Bool) : (claimants i).Claims :=
    ⟨_, Or.inl ⟨_, rfl, rfl⟩⟩
  have hids (i j : Bool) (id : String) (hi : (claimants i).request.Creates id)
      (hj : (claimants j).request.Creates id) : i = j := by
    obtain ⟨a, ha, rfl⟩ := hi
    obtain ⟨b, hb, hid⟩ := hj
    cases ha
    cases hb
    revert hid
    cases i <;> cases j <;> decide
  obtain ⟨hopen, hkept⟩ := claims_exclude claimants hclaims hids (.single ⟨true, hstep⟩)
  refine ⟨_, .single ⟨true, hstep⟩, hopen, fun w' hw' => ?_⟩
  by_contra hlost
  have hheld : (Server.write {} (claimKey "rule-1" "dev-1") (.text "a1")).find?
      (claimKey "rule-1" "dev-1") = some (.text "a1") := Server.find?_write_self _ _ _
  obtain ⟨a, ha, hid⟩ | ⟨tenant, reason?, hr⟩ := hkept false w' hw' _ _ _ hheld hlost
  · cases ha
    revert hid
    decide
  · cases hr

end TelemetryAlerts
