import TelemetryAlerts.Proofs.Store.Memory
import TelemetryAlerts.Proofs.Store.Reading
import TelemetryAlerts.Proofs.Store.Server

/-!
# What the store keeps on a key server

Each family of keys holds one kind of entry: the documents of alerts under their own
ids, sets of ids, and the ids that claims are held for. A stored document tells which
alert it is of.

**Results.**
* `Stored.outline`: two alerts that are stored under one id differ in their readings at most.
* `Kept.text_alertKey`, `Kept.texts`: what is read under the keys of alerts.
* `Kept.execute_setAndIndex`: an alert is stored and entered in its indexes at once.
* `Enters.mem_set`, `Enters.kept`: what the indexes then hold, and that the rest is kept.
-/

namespace TelemetryAlerts
namespace Indexed

variable {s s' : Server} {a b : Alert}

/-- Whether a key is that of a set of ids. -/
def IsIndex (key : String) : Prop :=
  keyWord key ∈ ["tenant".toList, "pair".toList, "open".toList]

/-- Whether a key is one of the store's own. -/
def IsOwn (key : String) : Prop :=
  (∃ id, key = alertKey id) ∨ (∃ tenant, key = tenantKey tenant) ∨
    (∃ rule device, key = pairKey rule device) ∨
      (∃ tenant device, key = openKey tenant device) ∨ ∃ rule device, key = claimKey rule device

/-- A server holds an alert if the alert's document is under its key. -/
def Stored (s : Server) (a : Alert) : Prop :=
  s.find? (alertKey a.id) = some (.text (documentText a))

/-- Under the keys of alerts are their documents, under those of indexes are sets, and
claims hold texts. -/
structure Kept (s : Server) : Prop where
  documents : ∀ id e, s.find? (alertKey id) = some e →
    ∃ a, a.id = id ∧ e = .text (documentText a)
  sets : ∀ key, IsIndex key → s.IsSet key
  claimTexts : ∀ rule device e, s.find? (claimKey rule device) = some e → ∃ t, e = .text t

/-- Two alerts that are stored under one id differ in their readings at most. -/
theorem Stored.outline
    (ha : Stored s a)
    (hb : Stored s b)
    (hid : a.id = b.id) :
    a.outline = b.outline := by
  rw [Stored, hid, hb] at ha
  exact Alert.outline_of_storedText (Entry.text.inj (Option.some.inj ha)).symm

theorem Stored.identity
    (ha : Stored s a)
    (hb : Stored s b)
    (hid : a.id = b.id) :
    a.rule = b.rule ∧ a.device = b.device ∧ a.isOpen = b.isOpen := by
  have houtline := ha.outline hb hid
  exact ⟨(congrArg Alert.rule houtline :), (congrArg Alert.device houtline :),
    (congrArg Alert.isOpen houtline :)⟩

/-- An open alert and one that has ended are not stored under one id. -/
theorem Stored.id_ne
    (ha : Stored s a)
    (hb : Stored s b)
    (hopen : a.isOpen = true)
    (hclosed : b.isOpen = false) :
    a.id ≠ b.id := by
  intro hid
  obtain ⟨-, -, hsame⟩ := ha.identity hb hid
  rw [hsame, hclosed] at hopen
  cases hopen

/-- Under the key of an alert is the document of one, or nothing. -/
theorem Kept.text_alertKey
    (h : Kept s)
    (id : String) :
    ∃ a? : Option Alert, s.text? (alertKey id) = .ok (a?.map documentText) ∧
      ∀ a ∈ a?, Stored s a ∧ a.id = id := by
  cases hentry : s.find? (alertKey id) with
  | none =>
      exact ⟨none, by simp [Server.text?, hentry], by simp⟩
  | some e =>
      obtain ⟨a, rfl, rfl⟩ := h.documents id e hentry
      refine ⟨some a, by simp [Server.text?, hentry], fun b hb => ?_⟩
      cases hb
      exact ⟨hentry, rfl⟩

theorem Kept.text_claimKey
    (h : Kept s)
    (rule device : String) :
    ∃ text?, s.text? (claimKey rule device) = .ok text? := by
  cases hentry : s.find? (claimKey rule device) with
  | none =>
      exact ⟨none, by simp [Server.text?, hentry]⟩
  | some e =>
      obtain ⟨text, rfl⟩ := h.claimTexts rule device e hentry
      exact ⟨some text, by simp [Server.text?, hentry]⟩

/-- Under the keys of several alerts are the documents of those that are stored. -/
theorem Kept.texts
    (h : Kept s)
    (ids : List String) :
    ∃ alerts : List Alert,
      (((ids.map alertKey).map fun k => (s.text? k).toOption.join).filterMap fun t? => t?) =
          alerts.map documentText ∧
        (∀ a ∈ alerts, Stored s a ∧ a.id ∈ ids) ∧
        ∀ b, Stored s b → b.id ∈ ids → ∃ a ∈ alerts, a.id = b.id := by
  induction ids with
  | nil =>
      exact ⟨[], rfl, by simp, by simp⟩
  | cons id ids ih =>
      obtain ⟨alerts, halerts, hstored, hall⟩ := ih
      obtain ⟨a?, ha?, hfirst⟩ := h.text_alertKey id
      refine ⟨a?.toList ++ alerts, ?_, fun a ha => ?_, fun b hb hid => ?_⟩
      · rw [List.map_append, ← halerts, List.map_cons, List.map_cons, ha?]
        cases a? <;> rfl
      · rcases List.mem_append.mp ha with ha | ha
        · obtain ⟨hmem, hid⟩ := hfirst a (Option.mem_toList.mp ha)
          exact ⟨hmem, by simp [hid]⟩
        · exact ⟨(hstored a ha).1, List.mem_cons_of_mem _ (hstored a ha).2⟩
      · rcases List.mem_cons.mp hid with rfl | hid
        · cases a? with
          | none =>
              simp [Server.text?, show s.find? (alertKey b.id) = _ from hb] at ha?
          | some a =>
              exact ⟨a, by simp, (hfirst a rfl).2⟩
        · obtain ⟨a, ha, hab⟩ := hall b hb hid
          exact ⟨a, List.mem_append_right _ ha, hab⟩

theorem IsIndex.ne_alertKey
    {key : String}
    (h : IsIndex key)
    (id : String) :
    key ≠ alertKey id := by
  rintro rfl
  rw [IsIndex, keyWord_alertKey] at h
  revert h
  decide

theorem IsIndex.ne_claimKey
    {key : String}
    (h : IsIndex key)
    (rule device : String) :
    key ≠ claimKey rule device := by
  rintro rfl
  rw [IsIndex, keyWord_claimKey] at h
  revert h
  decide

/-- The document of an alert may be stored under its id. -/
theorem Kept.store
    (h : Kept s)
    (a : Alert) :
    Kept (s.write (alertKey a.id) (.text (documentText a))) where
  documents id e he := by
    by_cases hid : id = a.id
    · subst hid
      rw [Server.find?_write_self] at he
      exact ⟨a, rfl, (Option.some.inj he).symm⟩
    · rw [Server.find?_write_of_ne _ _ (alertKey_injective.ne hid)] at he
      exact h.documents id e he
  sets key hkey :=
    (h.sets key hkey).congr (Server.find?_write_of_ne _ _ (hkey.ne_alertKey a.id))
  claimTexts r d e he := by
    rw [Server.find?_write_of_ne _ _ (ne_of_keyWord (by simp))] at he
    exact h.claimTexts r d e he

/-- An id may be taken out of an index. -/
theorem Kept.dropMembers
    {key : String}
    (h : Kept s)
    (hkey : IsIndex key)
    (gone : String) :
    ∃ s', Server.execute (.removeMembers key [gone]) s = (.ok (), s') ∧ Kept s' ∧
      ∀ other, other ≠ key → s'.find? other = s.find? other := by
  obtain ⟨s', hrun, -, hset, hsame⟩ := Server.dropMembers_spec gone (h.sets key hkey)
  have halert (id : String) : s'.find? (alertKey id) = s.find? (alertKey id) :=
    hsame _ (hkey.ne_alertKey id).symm
  have hclaim (r d : String) : s'.find? (claimKey r d) = s.find? (claimKey r d) :=
    hsame _ (hkey.ne_claimKey r d).symm
  refine ⟨s', by simp [Server.execute, hrun], ⟨fun id e he => ?_, fun other hother => ?_,
    fun r d e he => ?_⟩, hsame⟩
  · exact h.documents id e (by rw [← halert, he])
  · by_cases hself : other = key
    · rw [hself]
      exact hset
    · exact (h.sets other hother).congr (hsame other hself)
  · exact h.claimTexts r d e (by rw [← hclaim, he])

/-- A claim may change, as long as it holds a text. -/
theorem Kept.changeClaim
    {rule device : String}
    (h : Kept s)
    (htext : ∀ e, s'.find? (claimKey rule device) = some e → ∃ t, e = .text t)
    (hsame : ∀ key, key ≠ claimKey rule device → s'.find? key = s.find? key) :
    Kept s' where
  documents id e he := by
    rw [hsame _ (ne_of_keyWord (by simp))] at he
    exact h.documents id e he
  sets key hkey :=
    (h.sets key hkey).congr (hsame key (hkey.ne_claimKey rule device))
  claimTexts r d e he := by
    by_cases hself : claimKey r d = claimKey rule device
    · exact htext e (by rw [← hself, he])
    · rw [hsame _ hself] at he
      exact h.claimTexts r d e he

/-- The keys of the indexes that an alert is entered in. -/
def indexKeys (a : Alert) : List String :=
  [tenantKey a.tenant, pairKey a.rule a.device, openKey a.tenant a.device]

theorem nodup_indexKeys
    (a : Alert) :
    (indexKeys a).Nodup := by
  have htenantPair : tenantKey a.tenant ≠ pairKey a.rule a.device := ne_of_keyWord (by simp)
  have htenantOpen : tenantKey a.tenant ≠ openKey a.tenant a.device := ne_of_keyWord (by simp)
  have hpairOpen : pairKey a.rule a.device ≠ openKey a.tenant a.device :=
    ne_of_keyWord (by simp)
  simp [indexKeys, htenantPair, htenantOpen, hpairOpen]

theorem isIndex_of_mem_indexKeys
    {key : String}
    (h : key ∈ indexKeys a) :
    IsIndex key := by
  simp only [indexKeys, List.mem_cons, List.not_mem_nil, or_false] at h
  rcases h with rfl | rfl | rfl <;> simp [IsIndex]

theorem isOwn_of_mem_indexKeys
    {key : String}
    (h : key ∈ indexKeys a) :
    IsOwn key := by
  simp only [indexKeys, List.mem_cons, List.not_mem_nil, or_false] at h
  rcases h with rfl | rfl | rfl
  · exact Or.inr (Or.inl ⟨_, rfl⟩)
  · exact Or.inr (Or.inr (Or.inl ⟨_, _, rfl⟩))
  · exact Or.inr (Or.inr (Or.inr (Or.inl ⟨_, _, rfl⟩)))

theorem alertKey_not_mem_indexKeys
    (id : String) :
    alertKey id ∉ indexKeys a :=
  fun h => (isIndex_of_mem_indexKeys h).ne_alertKey id rfl

theorem claimKey_not_mem_indexKeys
    (rule device : String) :
    claimKey rule device ∉ indexKeys a :=
  fun h => (isIndex_of_mem_indexKeys h).ne_claimKey rule device rfl

theorem tenantKey_mem_indexKeys
    {tenant : String} :
    tenantKey tenant ∈ indexKeys a ↔ tenantKey a.tenant = tenantKey tenant := by
  have hpair : tenantKey tenant ≠ pairKey a.rule a.device := ne_of_keyWord (by simp)
  have hopen : tenantKey tenant ≠ openKey a.tenant a.device := ne_of_keyWord (by simp)
  simp [indexKeys, hpair, hopen, eq_comm]

theorem pairKey_mem_indexKeys
    {rule device : String} :
    pairKey rule device ∈ indexKeys a ↔ pairKey a.rule a.device = pairKey rule device := by
  have htenant : pairKey rule device ≠ tenantKey a.tenant := ne_of_keyWord (by simp)
  have hopen : pairKey rule device ≠ openKey a.tenant a.device := ne_of_keyWord (by simp)
  simp [indexKeys, htenant, hopen, eq_comm]

theorem openKey_mem_indexKeys
    {tenant device : String} :
    openKey tenant device ∈ indexKeys a ↔
      openKey a.tenant a.device = openKey tenant device := by
  have htenant : openKey tenant device ≠ tenantKey a.tenant := ne_of_keyWord (by simp)
  have hpair : openKey tenant device ≠ pairKey a.rule a.device := ne_of_keyWord (by simp)
  simp [indexKeys, htenant, hpair, eq_comm]

/-! ### Storing an alert and entering it in its indexes -/

/-- What a server becomes when it stores an alert and enters it in its indexes: each index
has gained the id, and under other keys only the document is new. -/
structure Enters (a : Alert) (s s' : Server) : Prop where
  indexed : ∀ key ∈ indexKeys a,
    s'.find? key = some (.members (insertMember a.id (s.set key)))
  others : ∀ key, key ∉ indexKeys a →
    s'.find? key = (s.write (alertKey a.id) (.text (documentText a))).find? key

namespace Enters

theorem find?_alertKey
    (h : Enters a s s')
    (id : String) :
    s'.find? (alertKey id) =
      (s.write (alertKey a.id) (.text (documentText a))).find? (alertKey id) :=
  h.others _ (alertKey_not_mem_indexKeys id)

theorem stored
    (h : Enters a s s') :
    Stored s' a := by
  rw [Stored, h.find?_alertKey, Server.find?_write_self]

theorem find?_alertKey_of_ne
    {id : String}
    (h : Enters a s s')
    (hid : id ≠ a.id) :
    s'.find? (alertKey id) = s.find? (alertKey id) := by
  rw [h.find?_alertKey, Server.find?_write_of_ne _ _ (alertKey_injective.ne hid)]

theorem find?_claimKey
    (h : Enters a s s')
    (rule device : String) :
    s'.find? (claimKey rule device) = s.find? (claimKey rule device) := by
  rw [h.others _ (claimKey_not_mem_indexKeys rule device),
    Server.find?_write_of_ne _ _ (ne_of_keyWord (by simp))]

/-- An index that the alert is not entered in is as before. -/
theorem find?_of_isIndex
    {key : String}
    (h : Enters a s s')
    (hkey : IsIndex key)
    (hother : key ∉ indexKeys a) :
    s'.find? key = s.find? key := by
  rw [h.others key hother, Server.find?_write_of_ne _ _ (hkey.ne_alertKey a.id)]

/-- The indexes gain the id of the alert where it is entered, and nothing else. -/
theorem mem_set
    {key : String}
    (h : Enters a s s')
    (hkey : IsIndex key)
    (id : String) :
    id ∈ s'.set key ↔ id ∈ s.set key ∨ key ∈ indexKeys a ∧ id = a.id := by
  by_cases hmem : key ∈ indexKeys a
  · simp only [Server.set, h.indexed key hmem, mem_insertMember, hmem, true_and]
    exact or_comm
  · simp [Server.set_congr (h.find?_of_isIndex hkey hmem), hmem]

theorem isSet
    {key : String}
    (h : Enters a s s')
    (hkey : IsIndex key)
    (hset : s.IsSet key) :
    s'.IsSet key := by
  by_cases hmem : key ∈ indexKeys a
  · have hentry := h.indexed key hmem
    refine ⟨by simp [hentry], ?_⟩
    simp only [Server.set, hentry]
    exact pairwise_insertMember hset.rising
  · exact hset.congr (h.find?_of_isIndex hkey hmem)

theorem kept
    (h : Enters a s s')
    (hkept : Kept s) :
    Kept s' where
  documents id e he :=
    (hkept.store a).documents id e (by rw [← h.find?_alertKey, he])
  sets key hkey := h.isSet hkey (hkept.sets key hkey)
  claimTexts rule device e he :=
    hkept.claimTexts rule device e (by rw [← h.find?_claimKey, he])

end Enters

/-- An alert is stored and entered in its indexes at once, if these are no texts. -/
theorem execute_setAndIndex_of_takesMembers
    (a : Alert)
    (htakes : ∀ key ∈ indexKeys a, s.TakesMembers key) :
    ∃ s', Server.execute (.setAndIndex (alertKey a.id) (documentText a)
        [tenantKey a.tenant, pairKey a.rule a.device, openKey a.tenant a.device] a.id) s =
          (.ok (), s') ∧
      Enters a s s' ∧ s'.published = s.published ∧ s'.drawn = s.drawn := by
  have hwritten (key : String) (hkey : key ∈ indexKeys a) :
      (s.write (alertKey a.id) (.text (documentText a))).find? key = s.find? key :=
    Server.find?_write_of_ne _ _ ((isIndex_of_mem_indexKeys hkey).ne_alertKey a.id)
  obtain ⟨s', hrun, hentries⟩ := Server.addToAll_spec a.id (nodup_indexKeys a)
    (s := s.write (alertKey a.id) (.text (documentText a)))
    fun key hkey => (htakes key hkey).congr (hwritten key hkey)
  have hframe := Server.addToAll_frame a.id (indexKeys a)
    (.ok (), s.write (alertKey a.id) (.text (documentText a)))
  rw [hrun] at hframe
  refine ⟨s', hrun, ⟨fun key hkey => ?_, fun key hkey => ?_⟩, hframe⟩
  · rw [hentries, if_pos hkey, Server.set_congr (hwritten key hkey)]
  · rw [hentries, if_neg hkey]

/-- An alert is stored and entered in its indexes at once. -/
theorem Kept.execute_setAndIndex
    (h : Kept s)
    (a : Alert) :
    ∃ s', Server.execute (.setAndIndex (alertKey a.id) (documentText a)
        [tenantKey a.tenant, pairKey a.rule a.device, openKey a.tenant a.device] a.id) s =
          (.ok (), s') ∧ Enters a s s' := by
  obtain ⟨s', hrun, henters, -⟩ := execute_setAndIndex_of_takesMembers a fun key hkey =>
    (h.sets key (isIndex_of_mem_indexKeys hkey)).noText
  exact ⟨s', hrun, henters⟩

end Indexed
end TelemetryAlerts
