import TelemetryAlerts.Proofs.Worker.Cooldown
import TelemetryAlerts.Proofs.Worker.Sharing

/-!
# The lifetime of an alert

An alert is active, then maybe acknowledged, then resolved, and never goes back. Nothing in
an alert itself prevents the contrary: its fields are set freely. It is the stores that look at an
alert before they change it, and the lock that keeps the clock of an evaluation from being
overtaken.

**Results.**
* `Alert.Becomes`, `Alert.IsProper`: what an alert may become, and which fields go with its status.
* `proper_alters`, `becomes_alters`: what a single request keeps up.
* `alerts_live`: over whole runs every alert is proper, and lives on as it may.
-/

namespace TelemetryAlerts

namespace Moment

theorem IsNoEarlier.refl
    (t : Moment) :
    t.IsNoEarlier t :=
  ⟨rfl, le_rfl⟩

theorem IsNoEarlier.trans
    {t u v : Moment}
    (h : t.IsNoEarlier u)
    (h' : u.IsNoEarlier v) :
    t.IsNoEarlier v :=
  ⟨h.1.trans h'.1, h'.2.trans h.2⟩

end Moment

/-! ### Single alerts -/

namespace Alert

/-- What may become of an alert: who it is about and how it was raised never changes, its status
only moves on, and after its end only notifications and escalations are noted. -/
structure Becomes (a b : Alert) : Prop where
  origin : b.origin = a.origin
  raised : b.severity = a.severity ∧ b.message = a.message ∧ b.details = a.details ∧
    b.readings = a.readings
  status : b.status = a.status ∨ a.status = .active ∨
    a.status = .acknowledged ∧ b.status = .resolved
  final : a.status = .resolved → b.status = .resolved ∧ b.acknowledgedAt? = a.acknowledgedAt? ∧
    b.acknowledgedBy? = a.acknowledgedBy? ∧ b.acknowledgmentNotes? = a.acknowledgmentNotes? ∧
    b.resolvedAt? = a.resolvedAt? ∧ b.resolutionNotes? = a.resolutionNotes?

/-- Which fields go with the status of an alert. -/
structure IsProper (a : Alert) : Prop where
  active : a.status = .active → a.acknowledgedAt? = none ∧ a.acknowledgedBy? = none ∧
    a.acknowledgmentNotes? = none ∧ a.resolvedAt? = none ∧ a.resolutionNotes? = none
  acknowledged : a.status = .acknowledged →
    a.acknowledgedAt?.isSome = true ∧ a.resolvedAt? = none ∧ a.resolutionNotes? = none
  resolved : a.status = .resolved → a.resolvedAt?.isSome = true

/-- The moments that mark the stages of an alert, as far as it has come. -/
def stages (a : Alert) : List Moment :=
  a.triggeredAt :: (a.acknowledgedAt?.toList ++ a.resolvedAt?.toList)

/-- Whether the stages of an alert follow one another, and its last change follows them. -/
def IsOrdered (a : Alert) : Prop :=
  (a.stages ++ [a.updatedAt]).Pairwise fun t u => u.IsNoEarlier t

variable {a b c : Alert} {t : Moment}

theorem Becomes.refl
    (a : Alert) :
    a.Becomes a :=
  ⟨rfl, ⟨rfl, rfl, rfl, rfl⟩, Or.inl rfl, fun h => ⟨h, rfl, rfl, rfl, rfl, rfl⟩⟩

theorem Becomes.trans
    (h : a.Becomes b)
    (h' : b.Becomes c) :
    a.Becomes c where
  origin := h'.origin.trans h.origin
  raised := by
    obtain ⟨hseverity, hmessage, hdetails, hreadings⟩ := h.raised
    rw [← hseverity, ← hmessage, ← hdetails, ← hreadings]
    exact h'.raised
  status := by
    rcases h.status with hsame | hactive | ⟨hacknowledged, hresolved⟩
    · rw [← hsame]
      exact h'.status
    · exact Or.inr (Or.inl hactive)
    · exact Or.inr (Or.inr ⟨hacknowledged, (h'.final hresolved).1⟩)
  final hresolved := by
    obtain ⟨hb, hat, hby, hnotes, hend, hreason⟩ := h.final hresolved
    rw [← hat, ← hby, ← hnotes, ← hend, ← hreason]
    exact h'.final hb

/-- Readings make no difference to what may become of an alert. -/
theorem Becomes.withReadings
    (h : a.Becomes b)
    (readings : List (String × Json)) :
    { a with readings := readings }.Becomes { b with readings := readings } :=
  ⟨h.origin, ⟨h.raised.1, h.raised.2.1, h.raised.2.2.1, rfl⟩, h.status, h.final⟩

theorem eq_of_outline
    (h : a.outline = b.outline) :
    a = { b with readings := a.readings } := by
  cases a
  cases b
  simp_all [outline]

theorem becomes_acknowledge
    (hactive : a.status = .active)
    (who? notes? : Option String) (now : Moment) :
    a.Becomes (a.acknowledge who? notes? now) where
  origin := rfl
  raised := ⟨rfl, rfl, rfl, rfl⟩
  status := Or.inr (Or.inl hactive)
  final h := by
    rw [hactive] at h
    cases h

theorem becomes_resolve
    (hopen : a.isOpen = true)
    (reason? : Option String) (now : Moment) :
    a.Becomes (a.resolve reason? now) where
  origin := rfl
  raised := ⟨rfl, rfl, rfl, rfl⟩
  status := by
    cases hstatus : a.status with
    | active =>
        exact Or.inr (Or.inl rfl)
    | acknowledged =>
        exact Or.inr (Or.inr ⟨rfl, rfl⟩)
    | resolved =>
        exact Or.inl rfl
  final h := by
    rw [isOpen, h] at hopen
    cases hopen

theorem IsProper.acknowledge
    (h : a.IsProper)
    (hactive : a.status = .active)
    (who? notes? : Option String) (now : Moment) :
    (a.acknowledge who? notes? now).IsProper where
  active := nofun
  acknowledged _ := by
    obtain ⟨-, -, -, hend, hreason⟩ := h.active hactive
    exact ⟨rfl, hend, hreason⟩
  resolved := nofun

theorem isProper_resolve
    (reason? : Option String) (now : Moment) :
    (a.resolve reason? now).IsProper where
  active := nofun
  acknowledged := nofun
  resolved _ := rfl

/-! ### The order of the stages -/

theorem isOrdered_iff :
    a.IsOrdered ↔ a.stages.Pairwise (fun t u => u.IsNoEarlier t) ∧
      ∀ t ∈ a.stages, a.updatedAt.IsNoEarlier t := by
  simp [IsOrdered, List.pairwise_append]

/-- An alert stays in order when it is changed later than before. -/
theorem IsOrdered.later
    (h : a.IsOrdered)
    (hstages : b.stages = a.stages)
    (hlater : b.updatedAt.IsNoEarlier a.updatedAt) :
    b.IsOrdered := by
  obtain ⟨hpairs, hupdated⟩ := isOrdered_iff.mp h
  rw [isOrdered_iff, hstages]
  exact ⟨hpairs, fun t ht => hlater.trans (hupdated t ht)⟩

/-- An alert stays in order when it comes to its next stage. -/
theorem IsOrdered.next
    (h : a.IsOrdered)
    (hstages : b.stages = a.stages ++ [b.updatedAt])
    (hlater : b.updatedAt.IsNoEarlier a.updatedAt) :
    b.IsOrdered := by
  obtain ⟨hpairs, hupdated⟩ := isOrdered_iff.mp h
  have hbefore (t : Moment) (ht : t ∈ a.stages) : b.updatedAt.IsNoEarlier t :=
    hlater.trans (hupdated t ht)
  rw [isOrdered_iff, hstages, List.pairwise_append]
  refine ⟨⟨hpairs, List.pairwise_singleton _ _, fun t ht u hu => ?_⟩, fun t ht => ?_⟩
  · rw [List.mem_singleton.mp hu]
    exact hbefore t ht
  · rcases List.mem_append.mp ht with ht | ht
    · exact hbefore t ht
    · rw [List.mem_singleton.mp ht]
      exact .refl _

theorem stages_acknowledge
    (h : a.IsProper)
    (hactive : a.status = .active)
    (who? notes? : Option String) (now : Moment) :
    (a.acknowledge who? notes? now).stages = a.stages ++ [now] := by
  obtain ⟨hat, -, -, hend, -⟩ := h.active hactive
  simp [stages, acknowledge, hat, hend]

theorem stages_resolve
    (h : a.IsProper)
    (hopen : a.isOpen = true)
    (reason? : Option String) (now : Moment) :
    (a.resolve reason? now).stages = a.stages ++ [now] := by
  have hend : a.resolvedAt? = none := by
    cases hstatus : a.status with
    | active =>
        exact (h.active hstatus).2.2.2.1
    | acknowledged =>
        exact (h.acknowledged hstatus).2.1
    | resolved =>
        rw [isOpen, hstatus] at hopen
        cases hopen
  simp [stages, resolve, hend]

end Alert

/-! ### Requests -/

section

variable {σ ι : Type} {keeping : Keeping σ} {rules : Rule → Prop} {guarded : String → Prop}
  {once alone : Prop} {x y : Clocked σ ι × List Alert} {v : List Alert}

/-- Every alert is proper, and in order if the clock never goes backwards. -/
def AllProper (x : Clocked σ ι × List Alert) : Prop :=
  ∀ a ∈ x.2, a.IsProper ∧ (Ascending x.1.readings → a.IsOrdered)

/-- What a change makes of an alert, if it is due. -/
theorem becomes_apply
    {r : Request} {c : Change} {now : Moment} {a : Alert}
    (hc : r.change? now = some c)
    (hmay : c.may a = true) :
    a.Becomes (c.apply a) := by
  rcases apply_cases hc hmay with
    ⟨⟨who?, notes?, hactive, happly⟩ | ⟨reason?, hopen, happly⟩ | ⟨count, happly⟩, -⟩ |
      ⟨tenant, at_, -, happly⟩
  · rw [happly]
    exact Alert.becomes_acknowledge hactive who? notes? now
  · rw [happly]
    exact Alert.becomes_resolve hopen reason? now
  all_goals
    rw [happly]
    exact ⟨rfl, ⟨rfl, rfl, rfl, rfl⟩, Or.inl rfl, fun h => ⟨h, rfl, rfl, rfl, rfl, rfl⟩⟩

theorem becomes_alters
    (hx : Good (.ofKeeping keeping rules alone) (.ofRules rules guarded once) x)
    (halters : Alters (.ofKeeping keeping rules alone) (.ofRules rules guarded once) x y)
    (h : ∀ a ∈ v, ∃ b ∈ x.2, a.Becomes b) :
    ∀ a ∈ v, ∃ b ∈ y.2, a.Becomes b := by
  intro a ha
  obtain ⟨b, hb, hbecomes⟩ := h a ha
  cases halters with
  | still =>
      exact ⟨b, hb, hbecomes⟩
  | raised =>
      exact ⟨b, List.mem_append_left _ hb, hbecomes⟩
  | @changed b' c r o now s hb' hid hmay hc hread ho hdue =>
      have hids := keeping.nodup hx.shown
      by_cases hbb' : b.id = b'.id
      · obtain rfl : b = b' := List.inj_on_of_nodup_map hids hb hb' hbb'
        exact ⟨c.apply b, Memory.mem_put_self _ _, hbecomes.trans (becomes_apply hc hmay)⟩
      · refine ⟨b, (Memory.mem_put hids).mpr (Or.inr ⟨hb, ?_⟩), hbecomes⟩
        rwa [c.id_apply]

/-- A change of a proper alert leaves it proper, and its times in order if it comes late. -/
theorem proper_apply
    {r : Request} {c : Change} {now : Moment} {a : Alert} {ordered : Prop}
    (hc : r.change? now = some c)
    (hmay : c.may a = true)
    (h : a.IsProper ∧ (ordered → a.IsOrdered))
    (hlater : ordered → now.IsNoEarlier a.updatedAt)
    (hmark : ∀ tenant at_, r = .markEscalated c.id tenant at_ →
      ordered → at_.IsNoEarlier a.updatedAt) :
    (c.apply a).IsProper ∧ (ordered → (c.apply a).IsOrdered) := by
  obtain ⟨hproper, hordered⟩ := h
  rcases apply_cases hc hmay with
    ⟨⟨who?, notes?, hactive, happly⟩ | ⟨reason?, hopen, happly⟩ | ⟨count, happly⟩, -⟩ |
      ⟨tenant, at_, hreq, happly⟩
  · rw [happly]
    exact ⟨hproper.acknowledge hactive who? notes? now, fun h => (hordered h).next
      (Alert.stages_acknowledge hproper hactive who? notes? now) (hlater h)⟩
  · rw [happly]
    exact ⟨Alert.isProper_resolve reason? now, fun h => (hordered h).next
      (Alert.stages_resolve hproper hopen reason? now) (hlater h)⟩
  · rw [happly]
    exact ⟨⟨hproper.active, hproper.acknowledged, hproper.resolved⟩, fun h =>
      (hordered h).later rfl (hlater h)⟩
  · rw [happly]
    exact ⟨⟨hproper.active, hproper.acknowledged, hproper.resolved⟩, fun h =>
      (hordered h).later rfl (hmark tenant at_ hreq h)⟩

theorem proper_alters
    (hexclusive : alone ∨ ∀ rule, guarded rule)
    (hx : Good (.ofKeeping keeping rules alone) (.ofRules rules guarded once) x)
    (halters : Alters (.ofKeeping keeping rules alone) (.ofRules rules guarded once) x y)
    (h : AllProper x) :
    AllProper y := by
  have hgrow := halters.readings
  have hsame (a : Alert) (ha : a ∈ x.2) :
      a.IsProper ∧ (Ascending y.1.readings → a.IsOrdered) :=
    (h a ha).imp_right fun hordered hascending => hordered (hascending.earlier hgrow)
  intro a ha
  cases halters with
  | still =>
      exact hsame a ha
  | raised _ hserved hmark hrule hnow hnew =>
      rcases List.mem_append.mp ha with ha | ha
      · exact hsame a ha
      · rw [List.mem_singleton.mp ha]
        refine ⟨⟨fun _ => ⟨rfl, rfl, rfl, rfl, rfl⟩, nofun, nofun⟩, fun _ => ?_⟩
        simp [Alert.IsOrdered, Alert.stages, Worker.raisedAlert, Moment.IsNoEarlier.refl]
  | @changed b c r o now s hb hid hmay hc hread ho hdue =>
      have hids := keeping.nodup hx.shown
      rcases (Memory.mem_put hids).mp ha with rfl | ⟨ha, -⟩
      · refine proper_apply hc hmay (hsame b hb) (fun hascending => ?_)
          fun tenant at_ hreq hascending => ?_
        · exact (List.pairwise_append.mp hascending).2.2 _ (hx.known b hb).2 now (by simp)
        · exact (hdue c.id tenant at_ hreq (hexclusive.imp_right fun h => h _)).current
            (hascending.earlier hgrow)
      · exact hsame a ha

end

/-! ### Runs -/

/-- Every alert of a run is proper, and lives on as it may. -/
theorem lives_of_reaches
    {σ ι : Type} [DecidableEq ι] {keeping : Keeping σ} {rules : Rule → Prop}
    {guarded : String → Prop} {alone : Prop} {tasks : ι → Task} {s : σ} {w w' : Setting.Crew σ ι}
    (hexclusive : alone ∨ ∀ rule, guarded rule)
    (hwatch : Watch (.ofKeeping keeping rules alone) (.ofRules rules guarded False : Accord ι))
    (hrules : ∀ i, ∀ r ∈ (tasks i).rule?, rules r)
    (hstart : keeping.shows s [])
    (hreaches : (Setting.ofKeeping keeping rules alone).Reaches tasks s w)
    (hcontinues : (Setting.ofKeeping keeping rules alone).Continues tasks w w') :
    ∃ v v', keeping.shows w.state.store v ∧ keeping.shows w'.state.store v' ∧
      ∀ a ∈ v, a.IsProper ∧ (Ascending w.state.readings → a.IsOrdered) ∧
        ∃ b ∈ v', a.Becomes b := by
  have hgoing := hwatch.going tasks s hrules (fun h => absurd h id) hstart
  obtain ⟨v, hgoing, hproper⟩ := hgoing.continues
    (fun x y hx _ halters h => proper_alters hexclusive hx halters h) (by simp [AllProper]) hreaches
  obtain ⟨v', hgoing', hlives⟩ := hgoing.continues
    (fun x y hx _ halters h => becomes_alters hx halters h)
    (fun a ha => ⟨a, ha, Alert.Becomes.refl a⟩) hcontinues
  exact ⟨v, v', hgoing.good.shown, hgoing'.good.shown, fun a ha =>
    ⟨(hproper a ha).1, (hproper a ha).2, hlives a ha⟩⟩

/-- Every alert that workers and people bring about is proper, and lives on as it may: over every
run of workers and of requests by hand, at either store, with any telemetry, devices, reports of
the channels and clock. If the clock never goes backwards, the stages of each alert follow one
another, and its last change follows them. Requests by hand are made while no evaluation is under way.
At the key server the evaluations take turns, or the ids of the tenants have no colons. -/
theorem alerts_live
    {ι : Type} [DecidableEq ι] {rules : Rule → Prop} {tasks : ι → Task}
    (hrules : ∀ i, ∀ r ∈ (tasks i).rule?, rules r) :
    (∀ w w', (Setting.ofKeeping Memory.keeping rules False).Reaches tasks {} w →
      (Setting.ofKeeping Memory.keeping rules False).Continues tasks w w' →
        ∀ a ∈ w.state.store.alerts, a.IsProper ∧ (Ascending w.state.readings → a.IsOrdered) ∧
          ∃ b ∈ w'.state.store.alerts, a.Becomes b) ∧
    ∀ alone : Prop, (alone ∨ ∀ r, rules r → ':' ∉ r.tenant.toList) →
      ∀ w w', (Setting.ofKeeping Indexed.keeping rules alone).Reaches tasks {} w →
        (Setting.ofKeeping Indexed.keeping rules alone).Continues tasks w w' →
          ∀ a, Indexed.Stored w.state.store a →
            a.IsProper ∧ (Ascending w.state.readings → a.IsOrdered) ∧
              ∃ b, Indexed.Stored w'.state.store b ∧ a.Becomes b := by
  constructor
  · intro w w' hreaches hcontinues a ha
    obtain ⟨v, v', hshows, hshows', hlives⟩ := lives_of_reaches
      (Or.inr fun _ => trivial : False ∨ ∀ _ : String, True) Memory.watch hrules ⟨.empty, rfl⟩
      hreaches hcontinues
    obtain ⟨hproper, hordered, b, hb, hbecomes⟩ := hlives a (hshows.2 ▸ ha)
    exact ⟨hproper, hordered, b, hshows'.2 ▸ hb, hbecomes⟩
  · intro alone hserial w w' hreaches hcontinues a ha
    have hwatch : Watch (.ofKeeping Indexed.keeping rules alone)
        (.ofRules rules (fun _ => ∀ r, rules r → ':' ∉ r.tenant.toList) False : Accord ι) :=
      Indexed.watch fun r r' _ _ hr hr' _ hclean hjoined =>
        Indexed.joined_left_inj (hclean r hr) (hclean r' hr') hjoined
    obtain ⟨v, v', hshows, hshows', hlives⟩ := lives_of_reaches
      (hserial.imp_right fun h _ => h) hwatch hrules .empty hreaches hcontinues
    obtain ⟨a₀, ha₀, htext⟩ := hshows.exists_of_stored ha
    obtain ⟨hproper, hordered, b, hb, hbecomes⟩ := hlives a₀ ha₀
    have hwritten : Json.Style.stored.value (.obj a.readings) =
        Json.Style.stored.value (.obj b.readings) := by
      rw [Alert.readings_of_storedText htext, hbecomes.raised.2.2.2]
    have hstored : Indexed.Stored w'.state.store { b with readings := a.readings } := by
      rw [Indexed.Stored, Indexed.documentText, Alert.storedText_withReadings hwritten]
      exact hshows'.mirrors.stored b hb
    -- Readings apart, the alert is the one in the list, and readings matter to nothing here.
    have hread : a = { a₀ with readings := a.readings } :=
      Alert.eq_of_outline (Alert.outline_of_storedText htext)
    generalize a.readings = readings at hread hstored
    subst hread
    exact ⟨⟨hproper.active, hproper.acknowledged, hproper.resolved⟩, hordered, _, hstored,
      hbecomes.withReadings readings⟩

theorem alerts_live_door :
    (∀ i, ∀ r ∈ (doorTasks i).rule?, r = doorRule) ∧
      (True ∨ ∀ r, r = doorRule → ':' ∉ r.tenant.toList) ∧
      (∀ w w', (Setting.ofKeeping Memory.keeping (· = doorRule) False).Reaches doorTasks {} w →
        (Setting.ofKeeping Memory.keeping (· = doorRule) False).Continues doorTasks w w' →
          ∀ a ∈ w.state.store.alerts, a.IsProper ∧ (Ascending w.state.readings → a.IsOrdered) ∧
            ∃ b ∈ w'.state.store.alerts, a.Becomes b) ∧
      ∀ w w', (Setting.ofKeeping Indexed.keeping (· = doorRule) True).Reaches doorTasks {} w →
        (Setting.ofKeeping Indexed.keeping (· = doorRule) True).Continues doorTasks w w' →
          ∀ a, Indexed.Stored w.state.store a →
            a.IsProper ∧ (Ascending w.state.readings → a.IsOrdered) ∧
              ∃ b, Indexed.Stored w'.state.store b ∧ a.Becomes b := by
  have hrules : ∀ i, ∀ r ∈ (doorTasks i).rule?, r = doorRule := by
    intro i r hr
    fin_cases i <;> simp_all [doorTasks, Task.rule?]
  have hserial : True ∨ ∀ r, r = doorRule → ':' ∉ r.tenant.toList := Or.inl trivial
  exact ⟨hrules, hserial, (alerts_live hrules).1, (alerts_live hrules).2 True hserial⟩

end TelemetryAlerts
