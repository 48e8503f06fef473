import TelemetryAlerts.Proofs.Store.Creation
import TelemetryAlerts.Proofs.Store.Keeping

/-!
# Names with a colon

The key server looks alerts up by a tenant and a device, or by a rule and a device, under keys
that join the two names with a colon. What is found there is not compared with the names that
were asked for. If the names of the stored alerts hold no colon, two of them can be told from
the joined name; otherwise a request is answered with alerts of other names, or a new alert is
refused for the sake of another one.

**Results.**
* `joined_eq_iff`, `exists_joined_eq`: which names are told by the joined name.
* `Mirrors.answersBy`, `Mirrors.foundAlone_of_answersBy`: what is found on a server that mirrors a
  list of alerts.
* `lookups_joined`: after any run, requests are answered by the joined names, and by both names
  if no stored alert holds a colon where it matters.
-/

namespace TelemetryAlerts
namespace Indexed

/-! ### Joined names -/

/-- Two names without colons are told by the joined name. -/
theorem joined_eq_iff
    {x y x' y' : String}
    (hx : ':' ∉ x.toList)
    (hy : ':' ∉ y.toList) :
    joined x y = joined x' y' ↔ x = x' ∧ y = y' :=
  claimKey_eq_iff.symm.trans (claimKey_inj hx hy)

theorem exists_append_of_colon
    {x : String}
    (h : ':' ∈ x.toList) :
    ∃ u v, x = joined u v := by
  obtain ⟨u, v, huv⟩ := List.append_of_mem h
  refine ⟨.ofList u, .ofList v, String.ext ?_⟩
  simp [joined, huv]

/-- If one of two names holds a colon, other names are joined to the same. -/
theorem exists_joined_eq
    {x y : String}
    (h : ':' ∈ x.toList ∨ ':' ∈ y.toList) :
    ∃ x' y', joined x y = joined x' y' ∧ ¬ (x = x' ∧ y = y') := by
  have hlonger (u v : String) : v ≠ joined u v := by
    intro heq
    have hlength := congrArg (fun t => t.toList.length) heq
    simp [joined] at hlength
    omega
  rcases h with hcolon | hcolon
  · obtain ⟨u, v, rfl⟩ := exists_append_of_colon hcolon
    exact ⟨u, joined v y, by simp [joined, String.append_assoc], fun hsame =>
      hlonger v y hsame.2⟩
  · obtain ⟨u, v, rfl⟩ := exists_append_of_colon hcolon
    exact ⟨joined x u, v, by simp [joined, String.append_assoc], fun hsame =>
      hlonger u v hsame.2.symm⟩

/-! ### Lookups by two names -/

variable {s : Server} {v : List Alert}

/-- What a server answers if it takes two pairs of names for the same: open alerts of a tenant
and a device, the newest alert of a rule and a device, and that an alert is already open for a
rule and a device. -/
structure AnswersBy (same : String → String → String → String → Prop) (s : Server) : Prop where
  openOn : ∀ now tenant device found,
    ((serve now (.openOn tenant device)).runOn s).1 = .ok found →
      ∀ a ∈ found, same a.tenant a.device tenant device
  latestOf : ∀ now rule device a,
    ((serve now (.latestOf rule device)).runOn s).1 = .ok (some a) →
      same a.rule a.device rule device
  create : ∀ now a e,
    ((serve now (.create a)).runOn s).1 = .error e →
      e = .openAlertExists a.rule a.device ∧
        ∃ b, Stored s b ∧ b.isOpen = true ∧ same b.rule b.device a.rule a.device

/-- Whether two pairs of names are the same, name by name. -/
def SameNames (x y x' y' : String) : Prop :=
  x = x' ∧ y = y'

/-- Whether two pairs of names are joined to the same. -/
def SameJoined (x y x' y' : String) : Prop :=
  joined x y = joined x' y'

/-- Whether the stored alerts can be read and ordered by when they were triggered. -/
def Readable (s : Server) : Prop :=
  ∀ a, Stored s a → a.isLegible = true ∧ a.triggeredAt.isAware = true

/-- Whether an alert is not found under the names of another one: its rule and its device hold
no colon, and while it is open, neither does its tenant. -/
structure FoundAlone (a : Alert) : Prop where
  rule : ':' ∉ a.rule.toList
  device : ':' ∉ a.device.toList
  tenant : a.isOpen = true → ':' ∉ a.tenant.toList

namespace Mirrors

/-- Each answer is made of alerts that the list has under the joined names. -/
theorem answersBy
    {same : String → String → String → String → Prop}
    (h : Mirrors v (OpenIn v) (OpenIn v) s)
    (hpair : ∀ a ∈ v, ∀ rule device, joined a.rule a.device = joined rule device →
      same a.rule a.device rule device)
    (hopen : ∀ a ∈ v, a.isOpen = true → ∀ tenant device,
      joined a.tenant a.device = joined tenant device → same a.tenant a.device tenant device) :
    AnswersBy same s where
  openOn now tenant device found hfound a ha := by
    obtain ⟨l, hperm, hl⟩ := h.openOn (Prod.ext hfound rfl)
    rw [Alert.mapM_reading] at hl
    split_ifs at hl
    · obtain ⟨b, hb, rfl⟩ := List.mem_map.mp ((mem_iff_of_newestFirst hl.symm).mp ha)
      obtain ⟨hmem, hkeep⟩ := List.mem_filter.mp (hperm.mem_iff.mp hb)
      simp only [manner, Bool.and_eq_true, beq_iff_eq] at hkeep
      exact hopen b hmem hkeep.1 tenant device hkeep.2
    · cases hl
  latestOf now rule device a hfound := by
    obtain ⟨l, hperm, hl⟩ := h.latestOf (Prod.ext hfound rfl)
    rw [Alert.mapM_reading] at hl
    split_ifs at hl
    · obtain ⟨b, hb, rfl⟩ := List.mem_map.mp (mem_of_newest? hl.symm)
      obtain ⟨hmem, hkeep⟩ := List.mem_filter.mp (hperm.mem_iff.mp hb)
      exact hpair b hmem rule device (eq_of_beq hkeep)
    · cases hl
  create now a e herror := by
    have hsets : ∀ key ∈ indexKeys a, s.TakesMembers key := fun key hkey =>
      (h.sets key (isIndex_of_mem_indexKeys hkey)).noText
    rw [serve] at herror
    cases hclaim : s.find? (claimKey a.rule a.device) with
    | none =>
        obtain ⟨s', hrun, -⟩ := create_of_free hclaim hsets
        rw [hrun] at herror
        cases herror
    | some entry =>
        rw [(create_of_held (by rw [hclaim]; rfl)).1] at herror
        obtain ⟨b, hb, -, hkey, hopenb⟩ := h.find?_claimKey.mp hclaim
        exact ⟨(Except.error.inj herror).symm, b, h.stored b hb, hopenb,
          hpair b hb _ _ (claimKey_eq_iff.mp hkey)⟩

/-- An alert of a rule and a device is found, if all alerts can be read and ordered. -/
theorem exists_latestOf
    {a : Alert}
    (h : Mirrors v (OpenIn v) (OpenIn v) s)
    (hlegible : ∀ b ∈ v, b.isLegible = true)
    (haware : ∀ b ∈ v, b.triggeredAt.isAware = true)
    (ha : a ∈ v)
    (now : Moment) :
    ∃ b, ((serve now (.latestOf a.rule a.device)).runOn s).1 = .ok (some b) := by
  obtain ⟨l, hperm, hl⟩ :=
    h.latestOf (show (serve now (.latestOf a.rule a.device)).runOn s = (_, _) from rfl)
  have hsub (b : Alert) (hb : b ∈ l) : b ∈ v := (List.mem_filter.mp (hperm.mem_iff.mp hb)).1
  have hmem : a ∈ l := hperm.mem_iff.mpr (List.mem_filter.mpr ⟨ha, by simp [manner]⟩)
  have hall : l.all Alert.isLegible = true :=
    List.all_eq_true.mpr fun b hb => hlegible b (hsub b hb)
  have hsortable : sortable (l.map Alert.readBack) = true := by
    refine sortable_of_aware fun b hb => ?_
    obtain ⟨c, hc, rfl⟩ := List.mem_map.mp hb
    exact haware c (hsub c hc)
  obtain ⟨b, hb, -⟩ := isNoEarlier_of_newest? (if_pos hsortable) (List.mem_map_of_mem hmem)
  rw [Alert.mapM_reading, if_pos hall] at hl
  exact ⟨b, hl.trans ((if_pos hsortable).trans (congrArg Except.ok hb))⟩

/-- If requests are answered by both names, no alert is found under the names of another. -/
theorem foundAlone_of_answersBy
    (h : Mirrors v (OpenIn v) (OpenIn v) s)
    (hlegible : ∀ a ∈ v, a.isLegible = true)
    (haware : ∀ a ∈ v, a.triggeredAt.isAware = true)
    (hanswers : AnswersBy SameNames s) :
    ∀ a ∈ v, FoundAlone a := by
  intro a ha
  have hpair : ¬ (':' ∈ a.rule.toList ∨ ':' ∈ a.device.toList) := by
    intro hcolon
    -- The same alert is found for both pairs of names, and it has one of them only.
    obtain ⟨rule, device, hkey, hother⟩ := exists_joined_eq hcolon
    obtain ⟨b, hb⟩ := h.exists_latestOf hlegible haware ha .epoch
    have hserve : serve .epoch (.latestOf a.rule a.device) =
        serve .epoch (.latestOf rule device) := by
      rw [serve, serve, pairKey_eq_iff.mpr hkey]
    have hasked := hanswers.latestOf _ _ _ b hb
    rw [hserve] at hb
    have hfound := hanswers.latestOf _ _ _ b hb
    exact hother ⟨hasked.1.symm.trans hfound.1, hasked.2.symm.trans hfound.2⟩
  refine ⟨fun hcolon => hpair (Or.inl hcolon), fun hcolon => hpair (Or.inr hcolon),
    fun hopen hcolon => ?_⟩
  obtain ⟨tenant, device, hkey, hother⟩ := exists_joined_eq (y := a.device) (Or.inl hcolon)
  obtain ⟨found, hfound, hmem⟩ :=
    h.exists_openOn hlegible haware ha hopen (openKey_eq_iff.mpr hkey) .epoch
  exact hother (hanswers.openOn _ _ _ found hfound a.readBack hmem)

end Mirrors

end Indexed

open Indexed

/-- After any run the server answers by joined names: it takes two pairs of names for the same
if a colon between them gives the same text. It answers by both names if no stored alert has a
colon in its rule or its device, nor, while it is open, in its tenant; and only then, if the
alerts can be read. -/
theorem lookups_joined
    (turns : List Turn)
    (h : Fresh turns) :
    AnswersBy SameJoined (reached {} turns) ∧
      ((∀ a, Stored (reached {} turns) a → FoundAlone a) →
        AnswersBy SameNames (reached {} turns)) ∧
      (Readable (reached {} turns) → AnswersBy SameNames (reached {} turns) →
        ∀ a, Stored (reached {} turns) a → FoundAlone a) := by
  obtain ⟨alerts, hmirrors, -⟩ := mirrors_reached Mirrors.empty h.ids h.opened
  refine ⟨?_, fun halone => ?_, fun hreadable hanswers a ha => ?_⟩
  · exact hmirrors.answersBy (fun _ _ _ _ hkey => hkey) fun _ _ _ _ _ hkey => hkey
  · refine hmirrors.answersBy (fun a ha _ _ hkey => ?_) fun a ha hopen _ _ hkey => ?_
    · have hnames := halone a (hmirrors.stored a ha)
      exact (joined_eq_iff hnames.rule hnames.device).mp hkey
    · have hnames := halone a (hmirrors.stored a ha)
      exact (joined_eq_iff (hnames.tenant hopen) hnames.device).mp hkey
  · obtain ⟨b, hb, -, htext⟩ := hmirrors.exists_of_stored ha
    obtain ⟨-, htenant, hrule, hdevice, -⟩ := Alert.identity_of_storedText htext
    have hnames := hmirrors.foundAlone_of_answersBy
      (fun c hc => (hreadable c (hmirrors.stored c hc)).1)
      (fun c hc => (hreadable c (hmirrors.stored c hc)).2) hanswers b hb
    exact ⟨hrule ▸ hnames.rule, hdevice ▸ hnames.device, fun hopen =>
      htenant ▸ hnames.tenant (by rw [← Alert.isOpen_of_storedText htext, hopen])⟩

/-- An alert of a line of a plant. -/
def plantAlert : Alert :=
  .raised "a1" "plant:1" "line:1" "dev" firstNoon

/-- A run that raises it. -/
def plantRun : List Turn :=
  [⟨firstNoon, .create plantAlert, []⟩]

theorem fresh_plantRun :
    Fresh plantRun :=
  ⟨by decide, by decide⟩

theorem mirrors_plantRun :
    Mirrors [plantAlert] (OpenIn [plantAlert]) (OpenIn [plantAlert]) (reached {} plantRun) :=
  mirrors_created firstNoon plantAlert rfl

theorem readable_plantRun :
    Readable (reached {} plantRun) := by
  intro a ha
  obtain ⟨b, hb, -, htext⟩ := mirrors_plantRun.exists_of_stored ha
  rw [List.mem_singleton.mp hb] at htext
  have houtline := Alert.outline_of_storedText htext
  have htriggered : a.triggeredAt = plantAlert.triggeredAt :=
    (congrArg Alert.triggeredAt houtline :)
  exact ⟨Alert.isLegible_of_storedText htext (by decide), by rw [htriggered]; decide⟩

theorem lookups_joined_plant :
    AnswersBy SameJoined (reached {} plantRun) ∧ ¬ AnswersBy SameNames (reached {} plantRun) := by
  obtain ⟨hjoined, -, hneeded⟩ := lookups_joined plantRun fresh_plantRun
  refine ⟨hjoined, fun hanswers => ?_⟩
  have halone := hneeded readable_plantRun hanswers plantAlert
    (mirrors_plantRun.stored plantAlert (by simp))
  exact halone.rule (by decide)

/-- An alert of one plant is found among those of another one. -/
theorem lookups_confused_plant :
    ¬ ∀ turns, Fresh turns → AnswersBy SameNames (reached {} turns) := by
  intro hall
  have halone := mirrors_plantRun.foundAlone_of_answersBy (by decide) (by decide)
    (hall plantRun fresh_plantRun) plantAlert (by simp)
  exact halone.rule (by decide)

end TelemetryAlerts
