import TelemetryAlerts.Proofs.Store.Claims

/-!
# Where the alerts of a store come from

Every alert that a store holds after a request was there before, was changed as the
request asks, or is the one that the request creates. On the key server that is so
whichever commands fail; and an alert stays among those of its rule and device, so that
none of these is missed when the latest is looked for.

**Results.**
* `Memory.Evolves.descends`, `Indexed.ensures_descent`: where the alerts come from that a store
  holds after a request.
* `Memory.isNoEarlier_latestOf`, `Indexed.ensures_latestOf`: no alert of a rule and a device
  is newer than the one that is found as the latest.
-/

namespace TelemetryAlerts

/-- The alerts that a store can hold after a request, given those that it held before. -/
inductive Descends (now : Moment) (r : Request) (held : Alert → Prop) : Alert → Prop where
  | same {a : Alert}
      (ha : held a) :
      Descends now r held a
  | changed {a : Alert} {c : Change}
      (ha : held a)
      (hc : r.change? now = some c)
      (hid : a.id = c.id)
      (htenant : a.tenant = c.tenant)
      (hmay : c.may a = true) :
      Descends now r held (c.apply a)
  | created {a : Alert}
      (hr : r = .create a) :
      Descends now r held a

theorem Descends.mono
    {now : Moment} {r : Request} {held held' : Alert → Prop} {b : Alert}
    (h : Descends now r held b)
    (hsub : ∀ a, held a → held' a) :
    Descends now r held' b := by
  cases h with
  | same hb =>
      exact .same (hsub b hb)
  | changed ha hc hid htenant hmay =>
      exact .changed (hsub _ ha) hc hid htenant hmay
  | created hr =>
      exact .created hr

/-- The alerts that can be stored after a request, as far as it shows without their
readings. -/
def Succeeds (now : Moment) (r : Request) (held : Alert → Prop) (b : Alert) : Prop :=
  ∃ a, Descends now r held a ∧ a.outline = b.outline

/-- An alert keeps its origin, or is new. -/
theorem Succeeds.origin
    {now : Moment} {r : Request} {held : Alert → Prop} {b : Alert}
    (h : Succeeds now r held b) :
    (∃ a, held a ∧ a.origin = b.origin) ∨ ∃ a, r = .create a ∧ a.origin = b.origin := by
  obtain ⟨a, ha, hab⟩ := h
  have horigin : a.origin = b.origin := (congrArg Alert.origin hab :)
  cases ha with
  | same ha =>
      exact Or.inl ⟨a, ha, horigin⟩
  | @changed a c ha hc hid htenant hmay =>
      exact Or.inl ⟨a, ha, (c.origin_apply a).symm.trans horigin⟩
  | created hr =>
      exact Or.inr ⟨a, hr, horigin⟩

namespace Memory

variable {m : Memory} {b : Alert}

namespace Evolves

variable {now : Moment} {r : Request} {alerts alerts' : List Alert}

theorem descends
    (h : Evolves now r alerts alerts')
    (hids : (alerts.map Alert.id).Nodup)
    (hb : b ∈ alerts') :
    Succeeds now r (· ∈ alerts) b := by
  cases h with
  | same =>
      exact ⟨b, .same hb, rfl⟩
  | @changed c a d hc ha hid htenant hmay hd =>
      rcases (mem_put hids).mp hb with rfl | ⟨hb, -⟩
      · exact ⟨c.apply a, .changed ha hc hid htenant hmay, hd.symm⟩
      · exact ⟨b, .same hb, rfl⟩
  | created hr =>
      rcases (mem_put hids).mp hb with rfl | ⟨hb, -⟩
      · exact ⟨b, .created hr, rfl⟩
      · exact ⟨b, .same hb, rfl⟩

end Evolves

theorem isNoEarlier_latestOf
    {now : Moment} {rule device : String} {latest : Option Alert}
    (h : (m.serve now (.latestOf rule device)).1 = .ok latest)
    (hb : b ∈ m.alerts)
    (hrule : b.rule = rule)
    (hdevice : b.device = device) :
    ∃ a, latest = some a ∧ a.triggeredAt.IsNoEarlier b.triggeredAt :=
  isNoEarlier_of_newest? h (List.mem_filter.mpr ⟨hb, by simp [Alert.concerns, hrule, hdevice]⟩)

end Memory

namespace Indexed

open ServerAction (Ensures)

variable {s s' : Server} {a b : Alert} {H : Alert → Prop}

/-- Only some alerts are stored, each among those of its rule and device. -/
structure Holds (H : Alert → Prop) (s : Server) : Prop extends Kept s where
  known : ∀ a, Stored s a → H a
  paired : ∀ a, Stored s a → a.id ∈ s.set (pairKey a.rule a.device)

namespace Holds

theorem empty :
    Holds H {} where
  toKept := Coherent.empty.toKept
  known _ h := by simp [Stored, Server.find?] at h
  paired _ h := by simp [Stored, Server.find?] at h

theorem mono
    {H' : Alert → Prop}
    (h : Holds H s)
    (hsub : ∀ a, H a → H' a) :
    Holds H' s where
  toKept := h.toKept
  known a ha := hsub a (h.known a ha)
  paired := h.paired

/-- What matters is under the keys of alerts and in the indexes of rules and devices. -/
theorem congr
    (h : Holds H s)
    (hkept : Kept s')
    (halerts : ∀ id, s'.find? (alertKey id) = s.find? (alertKey id))
    (hpairs : ∀ r d, s'.set (pairKey r d) = s.set (pairKey r d)) :
    Holds H s' where
  toKept := hkept
  known a ha := h.known a (by rw [Stored, ← halerts]; exact ha)
  paired a ha := by
    rw [hpairs]
    exact h.paired a (by rw [Stored, ← halerts]; exact ha)

/-- A stored alert may be stored again with another content. -/
theorem save
    {H' : Alert → Prop}
    (h : Holds H s)
    (hb : Stored s b)
    (hid : a.id = b.id)
    (hrule : a.rule = b.rule)
    (hdevice : a.device = b.device)
    (hsub : ∀ c, H c → H' c)
    (hnew : ∀ c, c.outline = a.outline → H' c) :
    Holds H' (s.write (alertKey a.id) (.text (documentText a))) := by
  have hset (r d : String) :
      (s.write (alertKey a.id) (.text (documentText a))).set (pairKey r d) =
        s.set (pairKey r d) :=
    Server.set_congr (Server.find?_write_of_ne _ _ (ne_of_keyWord (by simp)))
  have hself : Stored (s.write (alertKey a.id) (.text (documentText a))) a :=
    Server.find?_write_self _ _ _
  have hother {c : Alert} (hc : Stored (s.write (alertKey a.id) (.text (documentText a))) c)
      (hne : c.id ≠ a.id) : Stored s c := by
    rwa [Stored, Server.find?_write_of_ne _ _ (alertKey_injective.ne hne)] at hc
  refine ⟨h.toKept.store a, fun c hc => ?_, fun c hc => ?_⟩
  · by_cases hca : c.id = a.id
    · exact hnew c (hc.outline hself hca)
    · exact hsub c (h.known c (hother hc hca))
  · rw [hset]
    by_cases hca : c.id = a.id
    · obtain ⟨hr, hd, -⟩ := hc.identity hself hca
      rw [hca, hr, hd, hid, hrule, hdevice]
      exact h.paired b hb
    · exact h.paired c (hother hc hca)

/-- A claim may change, as long as it holds a text. -/
theorem changeClaim
    {rule device : String}
    (h : Holds H s)
    (htext : ∀ e, s'.find? (claimKey rule device) = some e → ∃ t, e = .text t)
    (hsame : ∀ key, key ≠ claimKey rule device → s'.find? key = s.find? key) :
    Holds H s' :=
  h.congr (h.toKept.changeClaim htext hsame)
    (fun id => hsame _ (ne_of_keyWord (by simp)))
    (fun r d => Server.set_congr (hsame _ (ne_of_keyWord (by simp))))

/-- An alert may be stored and entered in its indexes. -/
theorem setAndIndex
    {H' : Alert → Prop}
    (h : Holds H s)
    (a : Alert)
    (hsub : ∀ c, H c → H' c)
    (hnew : ∀ c, c.outline = a.outline → H' c) :
    ∃ s', Server.execute (.setAndIndex (alertKey a.id) (documentText a)
        [tenantKey a.tenant, pairKey a.rule a.device, openKey a.tenant a.device] a.id) s =
          (.ok (), s') ∧ Holds H' s' := by
  obtain ⟨s', hrun, henters⟩ := h.toKept.execute_setAndIndex a
  have hold {c : Alert} (hc : Stored s' c) (hne : c.id ≠ a.id) : Stored s c := by
    rwa [Stored, henters.find?_alertKey_of_ne hne] at hc
  refine ⟨s', hrun, henters.kept h.toKept, fun c hc => ?_, fun c hc => ?_⟩
  · by_cases hca : c.id = a.id
    · exact hnew c (hc.outline henters.stored hca)
    · exact hsub c (h.known c (hold hc hca))
  · rw [henters.mem_set (by simp [IsIndex])]
    by_cases hca : c.id = a.id
    · obtain ⟨hrule, hdevice, -⟩ := hc.identity henters.stored hca
      exact Or.inr ⟨pairKey_mem_indexKeys.mpr (by rw [hrule, hdevice]), hca⟩
    · exact Or.inl (h.paired c (hold hc hca))

end Holds

/-! ### Requests -/

theorem ensures_updateDescent
    {now : Moment} {r : Request} {c : Change}
    (hc : r.change? now = some c) :
    Ensures (Holds H) (update now c.id c.tenant c.may c.apply)
      fun _ s => Holds (Succeeds now r H) s := by
  have hsub (a : Alert) (ha : H a) : Succeeds now r H a := ⟨a, .same ha, rfl⟩
  refine ensures_update_of (fun s hs => hs.toKept) now c (fun s hs _ => hs.mono hsub)
    (fun e s hs => hs.mono hsub) fun s b hs hb hid htenant hmay => ?_
  exact hs.save hb (c.id_apply b) (c.rule_apply b) (c.device_apply b) hsub fun d hd =>
    ⟨c.apply b, .changed (hs.known b hb) hc hid htenant hmay, hd.symm⟩

theorem ensures_closeHolds
    (a : Alert) :
    Ensures (Holds H) (close a) fun _ s => Holds H s := by
  refine .bind (R := fun _ s => Holds H s) (.command (fun s hs => ?_) (fun e s hs => hs)) ?_
    (fun e s hs => hs)
  · have hindex : IsIndex (openKey a.tenant a.device) := by simp [IsIndex]
    obtain ⟨s', hrun, hkept, hsame⟩ := hs.toKept.dropMembers hindex a.id
    rw [hrun]
    exact hs.congr hkept (fun id => hsame _ (ne_of_keyWord (by simp)))
      fun r d => Server.set_congr (hsame _ (ne_of_keyWord (by simp)))
  · intro _
    exact .bind (ServerAction.ensures_deleteIfEquals (fun s hs => hs) fun s hs _ =>
        hs.changeClaim (by simp) fun key hkey => Server.find?_erase_of_ne s hkey)
      (fun _ => .pure fun s hs => hs) (fun e s hs => hs)

theorem ensures_createDescent
    (now : Moment) (a : Alert) :
    Ensures (Holds H) (create a) fun _ s => Holds (Succeeds now (.create a) H) s := by
  have hsub (b : Alert) (hb : H b) : Succeeds now (.create a) H b := ⟨b, .same hb, rfl⟩
  refine .bind (R := fun _ s => Holds H s) (.command (fun s hs => ?_) (fun e s hs => hs)) ?_
    (fun e s hs => hs.mono hsub)
  · simp only [Server.execute]
    split_ifs
    · exact hs
    · exact hs.changeClaim (by simp) fun key hkey => Server.find?_write_of_ne s _ hkey
  · intro claimed
    split_ifs
    · refine .rescue (R := fun _ s => Holds (Succeeds now (.create a) H) s)
        (.command (fun s hs => ?_) (fun e s hs => hs.mono hsub)) (fun x s hs => hs) fun e => ?_
      · obtain ⟨s', hrun, hs'⟩ := hs.setAndIndex a hsub fun c hc => ⟨a, .created rfl, hc.symm⟩
        rw [hrun]
        exact hs'
      · exact .bind (ServerAction.ensures_deleteIfEquals (fun s hs => hs) fun s hs _ =>
            hs.changeClaim (by simp) fun key hkey => Server.find?_erase_of_ne s hkey)
          (fun _ => .throw fun s hs => hs) (fun e s hs => hs)
    · exact .throw fun s hs => hs.mono hsub

/-- Where the alerts come from that are stored after a request, whichever of its commands
fail. -/
theorem ensures_descent
    (now : Moment) (r : Request) :
    Ensures (Holds H) (serve now r) fun _ s => Holds (Succeeds now r H) s := by
  have hsub (a : Alert) (ha : H a) : Succeeds now r H a := ⟨a, .same ha, rfl⟩
  cases r with
  | create a =>
      exact ensures_createDescent now a
  | acknowledge id tenant who? notes? =>
      exact .bind (ensures_updateDescent (c := .acknowledge now id tenant who? notes?) rfl)
        (fun _ => .pure fun s hs => hs) (fun e s hs => hs)
  | resolve id tenant reason? =>
      refine .bind (ensures_updateDescent (c := .resolve now id tenant reason?) rfl) ?_
        (fun e s hs => hs)
      intro a?
      cases a? with
      | none =>
          exact .pure fun s hs => hs
      | some a =>
          exact .bind (ensures_closeHolds a) (fun _ => .pure fun s hs => hs) (fun e s hs => hs)
  | recordNotifications id tenant count =>
      exact .bind (ensures_updateDescent (c := .recordNotifications now id tenant count) rfl)
        (fun _ => .pure fun s hs => hs) (fun e s hs => hs)
  | markEscalated id tenant at_ =>
      exact .bind (ensures_updateDescent (c := .markEscalated id tenant at_) rfl)
        (fun _ => .pure fun s hs => hs) (fun e s hs => hs)
  | _ =>
      exact (ensures_read (fun s hs => hs.toKept) now _ rfl).weaken (fun s hs => hs)
        fun o s hs => hs.mono hsub

/-- No alert of a rule and a device is newer than the one that is found as the latest. -/
theorem ensures_latestOf
    (now : Moment) (rule device : String) :
    Ensures (Holds H) (serve now (.latestOf rule device)) fun o s =>
      ∀ latest, o = .ok latest → ∀ b, Stored s b → b.rule = rule → b.device = device →
        ∃ a, latest = some a ∧ a.triggeredAt.IsNoEarlier b.triggeredAt := by
  refine ensures_membersThen (fun s hs => hs.toKept) now _ _ (fun found => .lift fun s hs => ?_)
    fun e s hs => by simp
  intro latest hlatest b hb hrule hdevice
  have hpaired := hs.1.paired b hb
  rw [hrule, hdevice] at hpaired
  obtain ⟨c, hc, hsame⟩ := hs.2.complete b hb hpaired
  have htriggered : c.triggeredAt = b.triggeredAt := (congrArg Alert.triggeredAt hsame :)
  rw [← htriggered]
  exact isNoEarlier_of_newest? hlatest hc

end Indexed
end TelemetryAlerts
