import TelemetryAlerts.Proofs.Alert.Document
import TelemetryAlerts.Proofs.Store.Action
import TelemetryAlerts.Store.Indexed

/-!
# Reading stored alerts

An alert is loaded with one command, and so are all alerts with given ids. What comes
after the command is decided by the texts alone; if they are the documents of alerts, no
other command follows.

**Results.**
* `load_eq`, `loadAll_eq`: loading is one command and what follows from its reply.
* `ofStored_documentText`, `allOfStored_documentText`: what follows for the documents of
  alerts.
-/

namespace TelemetryAlerts
namespace Indexed

open ServerAction (command)

/-- The alert in the text under a key, if there is one. -/
def ofStored (now : Moment) : Option String → ServerAction (Option Alert)
  | none => pure none
  | some text => do
    if text.isEmpty then pure none
    else
      let v ← liftM (Document.ofText text)
      if isBlankDocument v then pure none else some <$> alertOf now v

/-- The alerts in the texts under several keys. -/
def allOfStored (now : Moment) (texts : List (Option String)) : ServerAction (List Alert) := do
  let present := (texts.filterMap fun t? => t?).filter fun t => !t.isEmpty
  (← present.mapM fun t => (liftM (Document.ofText t) : ServerAction Json)).mapM (alertOf now)

theorem load_eq
    (now : Moment) (id : String) :
    load now id = command (.get (alertKey id)) >>= ofStored now := by
  simp only [load, ServerAction.document?, bind_assoc]
  congr 1
  funext text?
  cases text? with
  | none =>
      simp [ofStored]
  | some text =>
      simp only [ofStored]
      split_ifs
      · simp
      · simp

theorem loadAll_eq
    (now : Moment) (ids : List String) :
    loadAll now ids =
      if ids.isEmpty then pure []
      else command (.getAll (ids.map alertKey)) >>= allOfStored now := by
  cases ids with
  | nil =>
      simp [loadAll, ServerAction.documents]
  | cons id ids =>
      simp only [loadAll, ServerAction.documents, List.map_cons, List.isEmpty_cons,
        Bool.false_eq_true, if_false, bind_assoc]
      rfl

/-! ### The documents of alerts -/

theorem documentText_ne_empty
    (a : Alert) :
    documentText a ≠ "" := by
  obtain ⟨c, cs, htext, -⟩ := Json.value_begins a.toJson
  intro hempty
  have hnil := congrArg String.toList hempty
  simp [documentText, Json.write, htext] at hnil

theorem isBlankDocument_toJson
    (a : Alert) :
    isBlankDocument a.toJson = false :=
  rfl

theorem alertOf_toJson
    (now : Moment) (a : Alert) :
    alertOf now a.toJson = pure a := by
  have hbrings : ∃ fields, a.toJson = .obj fields ∧ Alert.bringsId fields = true :=
    ⟨_, rfl, rfl⟩
  obtain ⟨fields, hfields, hid⟩ := hbrings
  have hread := Alert.ofJson_toJson "" now a
  rw [hfields] at hread ⊢
  simp only [alertOf, hid, if_true, pure_bind, hread, Checked.orInvalid]
  rfl

theorem ofStored_documentText
    (now : Moment) (a : Alert) :
    ofStored now (some (documentText a)) = liftM (some <$> a.reading) := by
  have hempty : ¬ (documentText a).isEmpty = true := by
    simpa using documentText_ne_empty a
  simp only [ofStored, if_neg hempty]
  rw [documentText, Alert.ofText_toJson, Alert.reading]
  by_cases hlegible : a.isLegible = true
  · have hblank : ¬ isBlankDocument a.readBack.toJson = true := by
      simp [isBlankDocument_toJson]
    rw [if_pos hlegible]
    change (pure a.readBack.toJson >>= _ : ServerAction (Option Alert)) = _
    rw [pure_bind, if_neg hblank, alertOf_toJson, map_pure]
    rfl
  · rw [if_neg hlegible]
    rfl

theorem mapM_ofText
    (alerts : List Alert) :
    (alerts.map documentText).mapM Document.ofText =
      List.map Alert.toJson <$> alerts.mapM Alert.reading := by
  induction alerts with
  | nil =>
      rfl
  | cons a alerts ih =>
      have htext : Document.ofText (documentText a) = Alert.toJson <$> a.reading :=
        Alert.ofText_toJson a
      simp only [List.map_cons, List.mapM_cons, htext, ih]
      cases a.reading with
      | error e =>
          rfl
      | ok b =>
          cases alerts.mapM Alert.reading <;> rfl

theorem mapM_alertOf
    (now : Moment) (alerts : List Alert) :
    (alerts.map Alert.toJson).mapM (alertOf now) = pure alerts := by
  induction alerts with
  | nil =>
      rfl
  | cons a alerts ih =>
      simp only [List.map_cons, List.mapM_cons, alertOf_toJson, ih, pure_bind]

theorem allOfStored_documentText
    (now : Moment)
    {texts : List (Option String)} {alerts : List Alert}
    (htexts : (texts.filterMap fun t? => t?) = alerts.map documentText) :
    allOfStored now texts = liftM (alerts.mapM Alert.reading) := by
  have hpresent : (alerts.map documentText).filter (fun t => !t.isEmpty) =
      alerts.map documentText := by
    rw [List.filter_eq_self]
    intro t ht
    obtain ⟨a, -, rfl⟩ := List.mem_map.mp ht
    simpa using documentText_ne_empty a
  simp only [allOfStored, htexts, hpresent, ServerAction.mapM_lift, mapM_ofText]
  cases alerts.mapM Alert.reading with
  | error e =>
      rfl
  | ok bs =>
      exact mapM_alertOf now bs

end Indexed
end TelemetryAlerts
