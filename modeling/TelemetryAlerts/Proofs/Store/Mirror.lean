import TelemetryAlerts.Proofs.Store.Kept

/-!
# Servers that mirror a list of alerts

The key server keeps the alerts of a store in documents, indexes and claims. The relation
of this file says that these are in step with a list of alerts, where two things are left
open: which ids stand in the indexes of open alerts, and which hold their claims. Between
the commands of one request these need not be the open ones.

**Results.**
* `Mirrors.create`, `Mirrors.save`, `Mirrors.unlist`, `Mirrors.unclaim`: what the commands
  of a request do to a mirror.
* `Mirrors.exists_members`: the members of an index are alerts of the list, each once.
-/

namespace TelemetryAlerts

/-- Whether the ids of an alert can be put together with colons between them. -/
structure Alert.Colonless (a : Alert) : Prop where
  tenant : ':' ∉ a.tenant.toList
  rule : ':' ∉ a.rule.toList
  device : ':' ∉ a.device.toList

namespace Indexed

variable {s s' : Server} {a b : Alert} {alerts : List Alert}
variable {listed claimed : String → Prop}

/-- A server keeps exactly the given alerts; those with `listed` ids stand in the indexes
of open alerts, and those with `claimed` ids hold their claims. -/
structure Mirrors
    (alerts : List Alert) (listed claimed : String → Prop)
    (s : Server) : Prop where
  ids : (alerts.map Alert.id).Nodup
  stored : ∀ a ∈ alerts, Stored s a
  complete : ∀ id e, s.find? (alertKey id) = some e → ∃ a ∈ alerts, a.id = id
  sets : ∀ key, IsIndex key → s.IsSet key
  ofTenant : ∀ id tenant, id ∈ s.set (tenantKey tenant) ↔
    ∃ a ∈ alerts, a.id = id ∧ tenantKey a.tenant = tenantKey tenant
  ofPair : ∀ id rule device, id ∈ s.set (pairKey rule device) ↔
    ∃ a ∈ alerts, a.id = id ∧ pairKey a.rule a.device = pairKey rule device
  ofOpen : ∀ id tenant device, id ∈ s.set (openKey tenant device) ↔
    ∃ a ∈ alerts, a.id = id ∧ openKey a.tenant a.device = openKey tenant device ∧ listed id
  ofClaim : ∀ rule device e, s.find? (claimKey rule device) = some e ↔
    ∃ a ∈ alerts, e = .text a.id ∧ claimKey a.rule a.device = claimKey rule device ∧
      claimed a.id
  own : ∀ key e, s.find? key = some e → IsOwn key ∧ e ≠ .members []

/-- The ids of the open alerts of a list. -/
def OpenIn (alerts : List Alert) (id : String) : Prop :=
  ∃ a ∈ alerts, a.id = id ∧ a.isOpen = true

theorem openIn_iff
    (hids : (alerts.map Alert.id).Nodup)
    (ha : a ∈ alerts) :
    OpenIn alerts a.id ↔ a.isOpen = true := by
  constructor
  · rintro ⟨b, hb, hid, hopen⟩
    rwa [List.inj_on_of_nodup_map hids hb ha hid] at hopen
  · intro hopen
    exact ⟨a, ha, rfl, hopen⟩

namespace Mirrors

theorem empty :
    Mirrors [] (OpenIn []) (OpenIn []) {} where
  ids := by simp
  stored := by simp
  complete _ _ h := by simp [Server.find?] at h
  sets _ _ := .of_none rfl
  ofTenant _ _ := by simp [Server.set, Server.find?]
  ofPair _ _ _ := by simp [Server.set, Server.find?]
  ofOpen _ _ _ := by simp [Server.set, Server.find?]
  ofClaim _ _ _ := by simp [Server.find?]
  own _ _ h := by simp [Server.find?] at h

/-- Only what is listed and claimed of the alerts themselves matters. -/
theorem congr
    {listed' claimed' : String → Prop}
    (h : Mirrors alerts listed claimed s)
    (hlisted : ∀ a ∈ alerts, listed' a.id ↔ listed a.id)
    (hclaimed : ∀ a ∈ alerts, claimed' a.id ↔ claimed a.id) :
    Mirrors alerts listed' claimed' s where
  ids := h.ids
  stored := h.stored
  complete := h.complete
  sets := h.sets
  ofTenant := h.ofTenant
  ofPair := h.ofPair
  ofOpen id tenant device := by
    rw [h.ofOpen]
    constructor
    · rintro ⟨a, ha, rfl, hkey, hl⟩
      exact ⟨a, ha, rfl, hkey, (hlisted a ha).mpr hl⟩
    · rintro ⟨a, ha, rfl, hkey, hl⟩
      exact ⟨a, ha, rfl, hkey, (hlisted a ha).mp hl⟩
  ofClaim rule device e := by
    rw [h.ofClaim]
    constructor
    · rintro ⟨a, ha, he, hkey, hc⟩
      exact ⟨a, ha, he, hkey, (hclaimed a ha).mpr hc⟩
    · rintro ⟨a, ha, he, hkey, hc⟩
      exact ⟨a, ha, he, hkey, (hclaimed a ha).mp hc⟩
  own := h.own

/-- Only what is under the keys of the server matters. -/
theorem of_find?
    (h : Mirrors alerts listed claimed s)
    (hsame : ∀ key, s'.find? key = s.find? key) :
    Mirrors alerts listed claimed s' where
  ids := h.ids
  stored a ha := by
    rw [Stored, hsame]
    exact h.stored a ha
  complete id e he := h.complete id e (by rw [← hsame, he])
  sets key hkey := (h.sets key hkey).congr (hsame key)
  ofTenant id tenant := by rw [Server.set_congr (hsame _), h.ofTenant]
  ofPair id rule device := by rw [Server.set_congr (hsame _), h.ofPair]
  ofOpen id tenant device := by rw [Server.set_congr (hsame _), h.ofOpen]
  ofClaim rule device e := by rw [hsame, h.ofClaim]
  own key e he := h.own key e (by rw [← hsame, he])

theorem kept
    (h : Mirrors alerts listed claimed s) :
    Kept s where
  documents id e he := by
    obtain ⟨a, ha, rfl⟩ := h.complete id e he
    have hstored := h.stored a ha
    rw [Stored, he] at hstored
    exact ⟨a, rfl, Option.some.inj hstored⟩
  sets := h.sets
  claimTexts rule device e he := by
    obtain ⟨a, -, rfl, -⟩ := (h.ofClaim rule device e).mp he
    exact ⟨a.id, rfl⟩

theorem eq_of_id
    (h : Mirrors alerts listed claimed s)
    (ha : a ∈ alerts)
    (hb : b ∈ alerts)
    (hid : a.id = b.id) :
    a = b :=
  List.inj_on_of_nodup_map h.ids ha hb hid

/-- A stored alert is one of the list, as far as its document tells. -/
theorem exists_of_stored
    (h : Mirrors alerts listed claimed s)
    (ha : Stored s a) :
    ∃ b ∈ alerts, a.id = b.id ∧ documentText a = documentText b := by
  obtain ⟨b, hb, hid⟩ := h.complete a.id _ ha
  have hstored := h.stored b hb
  rw [Stored, hid, ha] at hstored
  exact ⟨b, hb, hid.symm, by simpa using hstored⟩

/-! ### Open alerts -/

section

variable {id tenant rule device : String} {e : Entry}

/-- The index of a device names its open alerts. -/
theorem mem_openKey
    (h : Mirrors alerts (OpenIn alerts) claimed s) :
    id ∈ s.set (openKey tenant device) ↔ ∃ a ∈ alerts, a.id = id ∧
      openKey a.tenant a.device = openKey tenant device ∧ a.isOpen = true := by
  rw [h.ofOpen]
  refine exists_congr fun a => and_congr_right fun ha => and_congr_right fun hid => ?_
  rw [← hid, openIn_iff h.ids ha]

/-- A claim is held for an open alert. -/
theorem find?_claimKey
    (h : Mirrors alerts listed (OpenIn alerts) s) :
    s.find? (claimKey rule device) = some e ↔ ∃ a ∈ alerts, e = .text a.id ∧
      claimKey a.rule a.device = claimKey rule device ∧ a.isOpen = true := by
  rw [h.ofClaim]
  refine exists_congr fun a => and_congr_right fun ha => ?_
  rw [openIn_iff h.ids ha]

theorem isSome_claimKey
    (h : Mirrors alerts listed (OpenIn alerts) s) :
    (s.find? (claimKey rule device)).isSome = true ↔
      ∃ a ∈ alerts, claimKey a.rule a.device = claimKey rule device ∧ a.isOpen = true := by
  simp only [Option.isSome_iff_exists, h.find?_claimKey]
  constructor
  · rintro ⟨-, a, ha, -, hheld⟩
    exact ⟨a, ha, hheld⟩
  · rintro ⟨a, ha, hheld⟩
    exact ⟨_, a, ha, rfl, hheld⟩

/-! ### Ids without colons -/

theorem mem_tenantKey
    (h : Mirrors alerts listed claimed s) :
    id ∈ s.set (tenantKey tenant) ↔ ∃ a ∈ alerts, a.id = id ∧ a.tenant = tenant := by
  simp only [h.ofTenant, tenantKey_injective.eq_iff]

theorem mem_pairKey
    (h : Mirrors alerts listed claimed s)
    (hplain : ∀ a ∈ alerts, a.Colonless) :
    id ∈ s.set (pairKey rule device) ↔
      ∃ a ∈ alerts, a.id = id ∧ a.rule = rule ∧ a.device = device := by
  rw [h.ofPair]
  refine exists_congr fun a => and_congr_right fun ha => ?_
  rw [pairKey_inj (hplain a ha).rule (hplain a ha).device]

theorem mem_openKey_of_colonless
    (h : Mirrors alerts (OpenIn alerts) claimed s)
    (hplain : ∀ a ∈ alerts, a.Colonless) :
    id ∈ s.set (openKey tenant device) ↔
      ∃ a ∈ alerts, a.id = id ∧ a.tenant = tenant ∧ a.device = device ∧ a.isOpen = true := by
  rw [h.mem_openKey]
  refine exists_congr fun a => and_congr_right fun ha => ?_
  rw [openKey_inj (hplain a ha).tenant (hplain a ha).device, and_assoc]

theorem find?_claimKey_of_colonless
    (h : Mirrors alerts listed (OpenIn alerts) s)
    (hplain : ∀ a ∈ alerts, a.Colonless) :
    s.find? (claimKey rule device) = some e ↔
      ∃ a ∈ alerts, e = .text a.id ∧ a.rule = rule ∧ a.device = device ∧ a.isOpen = true := by
  rw [h.find?_claimKey]
  refine exists_congr fun a => and_congr_right fun ha => ?_
  rw [claimKey_inj (hplain a ha).rule (hplain a ha).device, and_assoc]

end

/-! ### The commands of a request -/

/-- An alert that is stored again keeps its place in every index. -/
theorem exists_put
    {a₀ : Alert} {P : Alert → Prop}
    (hids : (alerts.map Alert.id).Nodup)
    (ha₀ : a₀ ∈ alerts)
    (hid : a.id = a₀.id)
    (hP : P a ↔ P a₀) :
    (∃ b ∈ Memory.put a alerts, P b) ↔ ∃ b ∈ alerts, P b := by
  constructor
  · rintro ⟨b, hb, hPb⟩
    rcases (Memory.mem_put hids).mp hb with rfl | ⟨hb, -⟩
    · exact ⟨a₀, ha₀, hP.mp hPb⟩
    · exact ⟨b, hb, hPb⟩
  · rintro ⟨b, hb, hPb⟩
    by_cases hba : b.id = a.id
    · have heq : b = a₀ := List.inj_on_of_nodup_map hids hb ha₀ (hba.trans hid)
      exact ⟨a, (Memory.mem_put hids).mpr (Or.inl rfl), hP.mpr (heq ▸ hPb)⟩
    · exact ⟨b, (Memory.mem_put hids).mpr (Or.inr ⟨hb, hba⟩), hPb⟩

/-- Storing a changed alert again. -/
theorem save
    {a₀ : Alert}
    (h : Mirrors alerts listed claimed s)
    (ha₀ : a₀ ∈ alerts)
    (hid : a.id = a₀.id)
    (htenant : a.tenant = a₀.tenant)
    (hrule : a.rule = a₀.rule)
    (hdevice : a.device = a₀.device) :
    Mirrors (Memory.put a alerts) listed claimed
      (s.write (alertKey a.id) (.text (documentText a))) where
  ids := Memory.nodup_put h.ids
  stored b hb := by
    rcases (Memory.mem_put h.ids).mp hb with rfl | ⟨hb, hne⟩
    · exact Server.find?_write_self _ _ _
    · rw [Stored, Server.find?_write_of_ne _ _ (alertKey_injective.ne hne)]
      exact h.stored b hb
  complete id e he := by
    rw [exists_put h.ids ha₀ hid (by rw [hid])]
    by_cases hself : id = a.id
    · exact ⟨a₀, ha₀, by rw [hself, hid]⟩
    · rw [Server.find?_write_of_ne _ _ (alertKey_injective.ne hself)] at he
      exact h.complete id e he
  sets key hkey :=
    (h.sets key hkey).congr (Server.find?_write_of_ne _ _ (hkey.ne_alertKey a.id))
  ofTenant id tenant := by
    rw [Server.set_congr (Server.find?_write_of_ne _ _ (ne_of_keyWord (by simp))),
      h.ofTenant, exists_put h.ids ha₀ hid (by rw [hid, htenant])]
  ofPair id rule device := by
    rw [Server.set_congr (Server.find?_write_of_ne _ _ (ne_of_keyWord (by simp))),
      h.ofPair, exists_put h.ids ha₀ hid (by rw [hid, hrule, hdevice])]
  ofOpen id tenant device := by
    rw [Server.set_congr (Server.find?_write_of_ne _ _ (ne_of_keyWord (by simp))),
      h.ofOpen, exists_put h.ids ha₀ hid (by rw [hid, htenant, hdevice])]
  ofClaim rule device e := by
    rw [Server.find?_write_of_ne _ _ (ne_of_keyWord (by simp)), h.ofClaim,
      exists_put h.ids ha₀ hid (by rw [hid, hrule, hdevice])]
  own key e he := by
    rw [Server.find?_write] at he
    split_ifs at he with hself
    · cases he
      exact ⟨Or.inl ⟨a.id, hself⟩, by simp⟩
    · exact h.own key e he

/-- Taking an alert out of the index of open ones. -/
theorem unlist
    (h : Mirrors alerts listed claimed s)
    (ha : a ∈ alerts)
    (hset : s'.set (openKey a.tenant a.device) =
      (s.set (openKey a.tenant a.device)).filter (· ≠ a.id))
    (hisSet : s'.IsSet (openKey a.tenant a.device))
    (hfilled : s'.find? (openKey a.tenant a.device) ≠ some (.members []))
    (hsame : ∀ key, key ≠ openKey a.tenant a.device → s'.find? key = s.find? key) :
    Mirrors alerts (fun id => listed id ∧ id ≠ a.id) claimed s' where
  ids := h.ids
  stored b hb := by
    rw [Stored, hsame _ (ne_of_keyWord (by simp))]
    exact h.stored b hb
  complete id e he := by
    rw [hsame _ (ne_of_keyWord (by simp))] at he
    exact h.complete id e he
  sets key hkey := by
    by_cases hself : key = openKey a.tenant a.device
    · rw [hself]
      exact hisSet
    · exact (h.sets key hkey).congr (hsame key hself)
  ofTenant id tenant := by
    rw [Server.set_congr (hsame _ (ne_of_keyWord (by simp))), h.ofTenant]
  ofPair id rule device := by
    rw [Server.set_congr (hsame _ (ne_of_keyWord (by simp))), h.ofPair]
  ofOpen id tenant device := by
    by_cases hself : openKey tenant device = openKey a.tenant a.device
    · rw [hself, hset, List.mem_filter, h.ofOpen]
      simp only [ne_eq, decide_not, Bool.not_eq_true', decide_eq_false_iff_not]
      constructor
      · rintro ⟨⟨b, hb, rfl, hkey, hl⟩, hne⟩
        exact ⟨b, hb, rfl, hkey, hl, hne⟩
      · rintro ⟨b, hb, rfl, hkey, hl, hne⟩
        exact ⟨⟨b, hb, rfl, hkey, hl⟩, hne⟩
    · rw [Server.set_congr (hsame _ hself), h.ofOpen]
      constructor
      · rintro ⟨b, hb, rfl, hkey, hl⟩
        refine ⟨b, hb, rfl, hkey, hl, fun hid => hself ?_⟩
        rw [← hkey, h.eq_of_id hb ha hid]
      · rintro ⟨b, hb, rfl, hkey, hl, -⟩
        exact ⟨b, hb, rfl, hkey, hl⟩
  ofClaim rule device e := by
    rw [hsame _ (ne_of_keyWord (by simp)), h.ofClaim]
  own key e he := by
    by_cases hself : key = openKey a.tenant a.device
    · refine ⟨hself ▸ isOwn_of_mem_indexKeys (a := a) (by simp [indexKeys]), ?_⟩
      rintro rfl
      exact hfilled (by rw [← hself, he])
    · exact h.own key e (by rw [← hsame key hself, he])

/-- A set that an alert was taken out of is not empty. -/
theorem filled_dropMembers
    {key : String} {gone : List String}
    (h : Mirrors alerts listed claimed s)
    (hrun : s.dropMembers key gone = .ok s') :
    s'.find? key ≠ some (.members []) :=
  Server.dropMembers_filled hrun fun he => (h.own _ _ he).2 rfl

/-- Giving up the claim of an alert. -/
theorem unclaim
    (h : Mirrors alerts listed claimed s)
    (ha : a ∈ alerts)
    (hclaimed : claimed a.id) :
    Mirrors alerts listed (fun id => claimed id ∧ id ≠ a.id)
      (s.erase (claimKey a.rule a.device)) where
  ids := h.ids
  stored b hb := by
    rw [Stored, Server.find?_erase_of_ne _ (ne_of_keyWord (by simp))]
    exact h.stored b hb
  complete id e he := by
    rw [Server.find?_erase_of_ne _ (ne_of_keyWord (by simp))] at he
    exact h.complete id e he
  sets key hkey :=
    (h.sets key hkey).congr (Server.find?_erase_of_ne _ (hkey.ne_claimKey a.rule a.device))
  ofTenant id tenant := by
    rw [Server.set_congr (Server.find?_erase_of_ne _ (ne_of_keyWord (by simp))), h.ofTenant]
  ofPair id rule device := by
    rw [Server.set_congr (Server.find?_erase_of_ne _ (ne_of_keyWord (by simp))), h.ofPair]
  ofOpen id tenant device := by
    rw [Server.set_congr (Server.find?_erase_of_ne _ (ne_of_keyWord (by simp))), h.ofOpen]
  ofClaim rule device e := by
    have hself : s.find? (claimKey a.rule a.device) = some (.text a.id) :=
      (h.ofClaim _ _ _).mpr ⟨a, ha, rfl, rfl, hclaimed⟩
    by_cases hkey : claimKey rule device = claimKey a.rule a.device
    · rw [hkey, Server.find?_erase_self]
      simp only [reduceCtorEq, false_iff]
      rintro ⟨b, hb, -, hbkey, hbc, hne⟩
      have hother := (h.ofClaim _ _ _).mpr ⟨b, hb, rfl, hbkey, hbc⟩
      rw [hself] at hother
      exact hne (by simpa using hother.symm)
    · rw [Server.find?_erase_of_ne _ hkey, h.ofClaim]
      constructor
      · rintro ⟨b, hb, he, hbkey, hbc⟩
        refine ⟨b, hb, he, hbkey, hbc, fun hid => hkey ?_⟩
        rw [← hbkey, h.eq_of_id hb ha hid]
      · rintro ⟨b, hb, he, hbkey, hbc, -⟩
        exact ⟨b, hb, he, hbkey, hbc⟩
  own key e he := by
    rw [Server.find?_erase] at he
    split_ifs at he
    exact h.own key e he

/-- Of one more alert that is last in the list, something holds, or it held of one before. -/
theorem exists_append_singleton
    {P : Alert → Prop} :
    (∃ b ∈ alerts ++ [a], P b) ↔ (∃ b ∈ alerts, P b) ∨ P a := by
  simp only [List.mem_append, List.mem_singleton, or_and_right, exists_or, exists_eq_left]

/-- Claiming, storing and entering a new alert. -/
theorem create
    (h : Mirrors alerts listed claimed s)
    (hnew : a.id ∉ alerts.map Alert.id)
    (hfree : s.find? (claimKey a.rule a.device) = none)
    (henters : Enters a (s.write (claimKey a.rule a.device) (.text a.id)) s') :
    Mirrors (alerts ++ [a]) (fun id => listed id ∨ id = a.id)
      (fun id => claimed id ∨ id = a.id) s' := by
  have hne (b : Alert) (hb : b ∈ alerts) : b.id ≠ a.id := fun heq =>
    hnew (heq ▸ List.mem_map_of_mem hb)
  have halert {id : String} (hid : id ≠ a.id) : s'.find? (alertKey id) = s.find? (alertKey id) := by
    rw [henters.find?_alertKey_of_ne hid, Server.find?_write_of_ne _ _ (ne_of_keyWord (by simp))]
  have hset {key : String} (hkey : IsIndex key) (id : String) :
      id ∈ s'.set key ↔ id ∈ s.set key ∨ key ∈ indexKeys a ∧ id = a.id := by
    rw [henters.mem_set hkey,
      Server.set_congr (Server.find?_write_of_ne _ _ (hkey.ne_claimKey a.rule a.device))]
  exact {
    ids := by
      rw [List.map_append]
      exact h.ids.append (by simp) (by simpa using hnew)
    stored := by
      intro b hb
      rcases List.mem_append.mp hb with hb | hb
      · rw [Stored, halert (hne b hb)]
        exact h.stored b hb
      · rw [List.mem_singleton.mp hb]
        exact henters.stored
    complete := by
      intro id e he
      rw [exists_append_singleton]
      by_cases hid : id = a.id
      · exact Or.inr hid.symm
      · exact Or.inl (h.complete id e (by rw [← halert hid, he]))
    sets := fun key hkey => henters.isSet hkey ((h.sets key hkey).congr
      (Server.find?_write_of_ne _ _ (hkey.ne_claimKey a.rule a.device)))
    ofTenant := by
      intro id tenant
      rw [hset (by simp [IsIndex]), h.ofTenant, tenantKey_mem_indexKeys, exists_append_singleton,
        and_comm (b := id = a.id), eq_comm (a := id)]
    ofPair := by
      intro id rule device
      rw [hset (by simp [IsIndex]), h.ofPair, pairKey_mem_indexKeys, exists_append_singleton,
        and_comm (b := id = a.id), eq_comm (a := id)]
    ofOpen := by
      intro id tenant device
      rw [hset (by simp [IsIndex]), h.ofOpen, openKey_mem_indexKeys, exists_append_singleton]
      refine or_congr (exists_congr fun b => and_congr_right fun hb => ?_) ?_
      · exact and_congr_right fun hid => and_congr_right fun _ =>
          (or_iff_left (hid ▸ hne b hb)).symm
      · constructor
        · rintro ⟨hkey, rfl⟩
          exact ⟨rfl, hkey, Or.inr rfl⟩
        · rintro ⟨rfl, hkey, -⟩
          exact ⟨hkey, rfl⟩
    ofClaim := by
      intro rule device e
      rw [henters.find?_claimKey, Server.find?_write, exists_append_singleton]
      split_ifs with hself
      · constructor
        · intro he
          exact Or.inr ⟨(Option.some.inj he).symm, hself.symm, Or.inr rfl⟩
        · rintro (⟨b, hb, rfl, hkey, hc⟩ | ⟨rfl, -⟩)
          · have hheld := (h.ofClaim _ _ _).mpr
              ⟨b, hb, rfl, hkey.trans hself, hc.resolve_right (hne b hb)⟩
            rw [hfree] at hheld
            cases hheld
          · rfl
      · rw [h.ofClaim, or_iff_left fun hlast => hself hlast.2.1.symm]
        exact exists_congr fun b => and_congr_right fun hb => and_congr_right fun _ =>
          and_congr_right fun _ => (or_iff_left (hne b hb)).symm
    own := by
      intro key e he
      by_cases hindex : key ∈ indexKeys a
      · rw [henters.indexed key hindex] at he
        cases he
        exact ⟨isOwn_of_mem_indexKeys hindex, fun hnil =>
          insertMember_ne_nil _ _ (Entry.members.inj hnil)⟩
      · rw [henters.others key hindex, Server.find?_write, Server.find?_write] at he
        split_ifs at he with hself hclaimed
        · cases he
          exact ⟨Or.inl ⟨_, hself⟩, by simp⟩
        · cases he
          exact ⟨Or.inr (Or.inr (Or.inr (Or.inr ⟨_, _, hclaimed⟩))), by simp⟩
        · exact h.own key e he }

/-! ### Reading an index -/

/-- Ids that all belong to alerts of one kind are the ids of some alerts of that kind. -/
theorem exists_map_id
    {P : Alert → Prop} {ids : List String}
    (h : ∀ id ∈ ids, ∃ a, P a ∧ a.id = id) :
    ∃ members : List Alert, ids = members.map Alert.id ∧ ∀ a ∈ members, P a := by
  induction ids with
  | nil =>
      exact ⟨[], rfl, by simp⟩
  | cons id ids ih =>
      obtain ⟨members, hmembers, hall⟩ := ih fun id hid => h id (by simp [hid])
      obtain ⟨a, ha, rfl⟩ := h id (by simp)
      exact ⟨a :: members, by rw [List.map_cons, hmembers], List.forall_mem_cons.mpr ⟨ha, hall⟩⟩

/-- An index that is on the server names something. -/
theorem exists_mem_set
    {key : String} {e : Entry}
    (h : Mirrors alerts listed claimed s)
    (hkey : IsIndex key)
    (he : s.find? key = some e) :
    ∃ id, id ∈ s.set key := by
  obtain ⟨-, hfilled⟩ := h.own key e he
  cases e with
  | text t =>
      exact absurd he ((h.sets key hkey).noText t)
  | members ms =>
      obtain ⟨id, hid⟩ := List.exists_mem_of_ne_nil ms fun hnil => hfilled (by rw [hnil])
      exact ⟨id, by rwa [Server.set, he]⟩

/-- The members of an index are alerts of the list, each once. -/
theorem exists_members
    (h : Mirrors alerts listed claimed s)
    {key : String} (hkey : IsIndex key)
    (keep : Alert → Bool)
    (hmem : ∀ id, id ∈ s.set key ↔ ∃ a ∈ alerts, a.id = id ∧ keep a = true) :
    ∃ members : List Alert, s.set key = members.map Alert.id ∧
      members.Perm (alerts.filter keep) := by
  obtain ⟨members, hids, hall⟩ :=
    exists_map_id (P := fun a => a ∈ alerts.filter keep) fun id hid => by
      obtain ⟨a, ha, rfl, hkeep⟩ := (hmem id).mp hid
      exact ⟨a, List.mem_filter.mpr ⟨ha, hkeep⟩, rfl⟩
  refine ⟨members, hids, ?_⟩
  have hnodup : (members.map Alert.id).Nodup := by
    rw [← hids]
    exact (h.sets key hkey).nodup
  refine (List.perm_ext_iff_of_nodup hnodup.of_map ?_).mpr fun a => ⟨hall a, fun ha => ?_⟩
  · exact h.ids.of_map.filter _
  · obtain ⟨ha, hkeep⟩ := List.mem_filter.mp ha
    have hid : a.id ∈ members.map Alert.id := by
      rw [← hids]
      exact (hmem a.id).mpr ⟨a, ha, rfl, hkeep⟩
    obtain ⟨b, hb, hba⟩ := List.mem_map.mp hid
    rwa [h.eq_of_id (List.mem_filter.mp (hall b hb)).1 ha hba] at hb

end Mirrors
end Indexed
end TelemetryAlerts
