import TelemetryAlerts.Proofs.Store.Keys
import TelemetryAlerts.Proofs.Worker.Guard

/-!
# Rules at one store

Workers that evaluate the same rules share all alerts. What an evaluation finds is guarded by
the lock of the rule and the device if the store does not confuse the devices of the rule's
tenants: the store in memory confuses nothing, and the key server nothing of a single tenant, and
nothing of tenants without colons. Where it does, the tasks have to take turns.

**Results.**
* `watch_of_rules`: tasks that evaluate such rules can share a store.
* `Indexed.Clear.exists_of_stored`: what the key server holds is in the list that it shows.
-/

namespace TelemetryAlerts

/-- Tasks share the alerts of rules. -/
def Accord.ofRules
    {ι : Type} (rules : Rule → Prop) (guarded : String → Prop) (once : Prop) : Accord ι where
  rules := rules
  raises _ _ _ := True
  owns _ _ := False
  guarded := guarded
  once := once
  known readings a :=
    (∃ r, rules r ∧ a.rule = r.id ∧ a.tenant = r.tenant) ∧ a.updatedAt ∈ readings

/-- A store at which rules are evaluated. The telemetry, the devices, the tenants, the clock and
the reports of the channels are arbitrary, and each of the calls may fail; a snapshot is a
dictionary, so it names no field twice. A request takes effect at once, or it fails without
effect. -/
def Setting.ofKeeping
    {σ : Type} (keeping : Keeping σ) (rules : Rule → Prop) (alone : Prop) : Setting σ where
  keeping := keeping
  replies
    | .enabledRules _, o => ∀ found, o = .ok found → ∀ r ∈ found, rules r
    | .telemetry _ _, o => ∀ snapshot, o = .ok snapshot → Json.namesDistinct (.obj snapshot) = true
    | _, _ => True
  stamps _ := True
  faulty := True
  alone := alone

/-! ### Changes -/

/-- What becomes of an alert by a change that a request asks for. -/
theorem apply_cases
    {r : Request} {c : Change} {now : Moment} {a : Alert}
    (hc : r.change? now = some c)
    (hmay : c.may a = true) :
    ((∃ who? notes?, a.status = .active ∧ c.apply a = a.acknowledge who? notes? now) ∨
      (∃ reason?, a.isOpen = true ∧ c.apply a = a.resolve reason? now) ∨
      ∃ count, c.apply a = a.recordNotifications count now) ∧
        (∀ id tenant at_, r ≠ .markEscalated id tenant at_) ∨
    ∃ tenant at_, r = .markEscalated c.id tenant at_ ∧ c.apply a = a.escalate at_ := by
  cases r with
  | acknowledge id tenant who? notes? =>
      cases hc
      exact Or.inl ⟨Or.inl ⟨who?, notes?, eq_of_beq hmay, rfl⟩, by simp⟩
  | resolve id tenant reason? =>
      cases hc
      exact Or.inl ⟨Or.inr (Or.inl ⟨reason?, hmay, rfl⟩), by simp⟩
  | recordNotifications id tenant count =>
      cases hc
      exact Or.inl ⟨Or.inr (Or.inr ⟨count, rfl⟩), by simp⟩
  | markEscalated id tenant at_ =>
      cases hc
      exact Or.inr ⟨tenant, at_, rfl, rfl⟩
  | _ =>
      cases hc

section

variable {σ ι : Type} {rules : Rule → Prop} {guarded : String → Prop} {once alone : Prop}

theorem Accord.upheld_ofRules :
    (Accord.ofRules rules guarded once : Accord ι).Upheld where
  later t h := ⟨h.1, List.mem_append_left _ h.2⟩
  raised hr _ hnow := ⟨⟨_, hr, rfl, rfl⟩, hnow⟩
  owns _ h := h
  changed := by
    rintro readings now a r c hc hat ⟨⟨r', hr', hrule, htenant⟩, -⟩
    refine ⟨⟨r', hr', (c.rule_apply a).trans hrule, (c.tenant_apply a).trans htenant⟩, ?_⟩
    have hnow : now ∈ readings ++ [now] := by simp
    cases r with
    | acknowledge | resolve | recordNotifications =>
        cases hc
        exact hnow
    | markEscalated id tenant at_ =>
        cases hc
        exact List.mem_append_left _ (hat id tenant at_ rfl)
    | _ =>
        cases hc

/-- Tasks can share a store that takes new alerts and does not confuse the devices of guarded
rules. -/
theorem watch_of_rules
    {keeping : Keeping σ}
    (hadmits : ∀ r device snapshot id now, Json.namesDistinct (.obj snapshot) = true →
      keeping.admits (Worker.raisedAlert id r device snapshot now))
    (hdevices : ∀ r r' device device', rules r → rules r' → r.id = r'.id → guarded r.id →
      keeping.alike r.tenant device r'.tenant device' = true → device = device') :
    Watch (.ofKeeping keeping rules alone) (.ofRules rules guarded once : Accord ι) where
  upheld := Accord.upheld_ofRules
  shared _ _ := id
  listed _ found h := h found rfl
  raises _ _ _ _ := trivial
  admits r device snapshot id now h := hadmits r device snapshot id now (h snapshot rfl)
  updated h := h.2
  device := by
    rintro readings a r device ⟨⟨r', hr', hrule, htenant⟩, -⟩ hr harule hguarded halike
    rw [htenant] at halike
    exact hdevices r' r a.device device hr' hr (hrule.symm.trans harule) (hrule ▸ hguarded) halike

/-- The store in memory confuses nothing. -/
theorem Memory.watch :
    Watch (.ofKeeping Memory.keeping rules alone) (.ofRules rules guarded once : Accord ι) :=
  watch_of_rules (fun _ _ _ _ _ _ => trivial) fun _ _ _ _ _ _ _ _ halike =>
    (by simpa [Memory.keeping] using halike : _ ∧ _).2

/-- The key server does not confuse the devices of one tenant. -/
theorem Indexed.watch
    (htenants : ∀ r r' device device', rules r → rules r' → r.id = r'.id → guarded r.id →
      joined r.tenant device = joined r'.tenant device' → r.tenant = r'.tenant) :
    Watch (.ofKeeping Indexed.keeping rules alone) (.ofRules rules guarded once : Accord ι) := by
  refine watch_of_rules (fun _ _ _ _ _ hnames => hnames)
    fun r r' device device' hr hr' hid hguarded halike => ?_
  have hjoined : joined r.tenant device = joined r'.tenant device' := eq_of_beq halike
  rw [← htenants r r' device device' hr hr' hid hguarded hjoined] at halike
  exact Indexed.manner.alike_right halike

end

namespace Indexed

/-- Names without colons are told by the text that begins with one and a colon. -/
theorem joined_left_inj
    {x y x' y' : String}
    (hx : ':' ∉ x.toList)
    (hx' : ':' ∉ x'.toList)
    (h : joined x y = joined x' y') :
    x = x' := by
  have hchars : x.toList ++ ':' :: y.toList = x'.toList ++ ':' :: y'.toList := by
    have htext := congrArg String.toList h
    simpa [joined, String.toList_append] using htext
  have hfirst {u u' v v' : List Char} (hu : ':' ∉ u) (hu' : ':' ∉ u')
      (h : u ++ ':' :: v = u' ++ ':' :: v') : u = u' := by
    induction u generalizing u' with
    | nil =>
        cases u' with
        | nil =>
            rfl
        | cons c rest =>
            simp_all
    | cons c rest ih =>
        cases u' with
        | nil =>
            simp_all
        | cons c' rest' =>
            simp only [List.cons_append, List.cons.injEq] at h
            simp only [List.mem_cons, not_or] at hu hu'
            rw [h.1, ih hu.2 hu'.2 h.2]
  exact String.toList_injective (hfirst hx hx' hchars)

/-- What the key server holds is in the list that it shows, up to its text. -/
theorem Clear.exists_of_stored
    {v : List Alert} {s : Server} {a : Alert}
    (h : Clear v s)
    (ha : Stored s a) :
    ∃ b ∈ v, documentText a = documentText b := by
  obtain ⟨b, hb, hid⟩ := h.mirrors.complete a.id _ ha
  have hstored := h.mirrors.stored b hb
  rw [Stored, hid, ha] at hstored
  exact ⟨b, hb, Entry.text.inj (Option.some.inj hstored)⟩

end Indexed
end TelemetryAlerts
