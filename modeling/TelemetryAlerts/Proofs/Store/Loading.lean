import TelemetryAlerts.Proofs.Json.Settled
import TelemetryAlerts.Proofs.Store.Answer
import TelemetryAlerts.Proofs.Store.Reading
import TelemetryAlerts.Proofs.Store.Server

/-!
# Loading what was saved

An alert that is saved on a key server, whatever else is there, can be loaded by its id. What
comes back is the alert with settled readings: every other field is as it was saved, the times
with their offsets or without one. Settling happens once, since the settled alert is saved with
the very command that saved the alert.

There is one exception: the document of an alert with a whole number of too many digits can be
saved, but not loaded.

**Results.**
* `reload_runOn`, `reloadAll_runOn`: what loading gives after saving, for every alert.
* `save_settled`: the settled alert is saved with the same command.
* `loaded_asSaved`: these together; an alert comes back unchanged just if its readings have no
  infinite or undefined float.
-/

namespace TelemetryAlerts

/-- An alert with settled readings. -/
def Alert.settled (a : Alert) : Alert :=
  { a with readings := Json.settledFields a.readings }

namespace Alert

variable {a : Alert}

/-- An alert that names no reading twice is settled by storing it. -/
theorem readBack_eq_settled
    (h : a.namesDistinct = true) :
    a.readBack = a.settled := by
  have hreadings : Json.readBack (.obj a.readings) = Json.settled (.obj a.readings) :=
    Json.readBack_eq_settled (.obj a.readings) h
  simp only [Json.readBack, Json.settled, Json.obj.injEq] at hreadings
  rw [readBack, settled, hreadings]

theorem settled_eq_self_iff :
    a.settled = a ↔ Json.allFiniteFields a.readings = true := by
  rw [← Json.settledFields_eq_self_iff]
  exact ⟨congrArg readings, fun h => by rw [settled, h]⟩

end Alert

namespace Indexed

variable {a : Alert}

/-- Saves an alert, then loads it by its id. -/
def reload (now : Moment) (a : Alert) : ServerAction (Option Alert) := do
  save a
  load now a.id

/-- Saves an alert, then loads the alerts with its id. -/
def reloadAll (now : Moment) (a : Alert) : ServerAction (List Alert) := do
  save a
  loadAll now [a.id]

/-- Saving an alert puts its document under its key. -/
theorem save_runOn
    (a : Alert) (s : Server) :
    (save a).runOn s = (.ok (), s.write (alertKey a.id) (.text (documentText a))) :=
  rfl

/-- The text under the key of an alert that was saved. -/
theorem text?_saved
    (a : Alert) (s : Server) :
    (s.write (alertKey a.id) (.text (documentText a))).text? (alertKey a.id) =
      .ok (some (documentText a)) := by
  rw [Server.text?, Server.find?_write_self]

/-- What loading gives after saving. -/
theorem reload_runOn
    (now : Moment) (a : Alert) (s : Server) :
    (reload now a).runOn s =
      (some <$> a.reading, s.write (alertKey a.id) (.text (documentText a))) := by
  have hget : (ServerAction.command (.get (alertKey a.id))).runOn
      (s.write (alertKey a.id) (.text (documentText a))) =
        (.ok (some (documentText a)), s.write (alertKey a.id) (.text (documentText a))) :=
    congrArg (·, _) (text?_saved a s)
  rw [reload, ServerAction.runOn_bind_of_ok (save_runOn a s), load_eq,
    ServerAction.runOn_bind_of_ok hget, ofStored_documentText]
  rfl

/-- What loading by several ids gives after saving. -/
theorem reloadAll_runOn
    (now : Moment) (a : Alert) (s : Server) :
    (reloadAll now a).runOn s =
      ((fun b => [b]) <$> a.reading, s.write (alertKey a.id) (.text (documentText a))) := by
  have hget : (ServerAction.command (.getAll ([a.id].map alertKey))).runOn
      (s.write (alertKey a.id) (.text (documentText a))) =
        (.ok [some (documentText a)], s.write (alertKey a.id) (.text (documentText a))) :=
    congrArg (fun o : Outcome (Option String) => (Except.ok [o.toOption.join], _))
      (text?_saved a s)
  have htexts : allOfStored now [some (documentText a)] = liftM ([a].mapM Alert.reading) :=
    allOfStored_documentText now rfl
  have hreading : [a].mapM Alert.reading = (fun b => [b]) <$> a.reading := by
    rw [List.mapM_cons, List.mapM_nil]
    rfl
  rw [reloadAll, ServerAction.runOn_bind_of_ok (save_runOn a s), loadAll_eq, if_neg (by simp),
    ServerAction.runOn_bind_of_ok hget, htexts, hreading]
  rfl

/-- The settled alert is saved with the same command. -/
theorem save_settled
    (h : a.namesDistinct = true) :
    save a.settled = save a := by
  have htext : documentText a.settled = documentText a := by
    rw [← Alert.readBack_eq_settled h, documentText_readBack h]
  rw [save, htext, save, Alert.settled]

/-- Saving and loading the settled alert is saving and loading the alert. -/
theorem reload_settled
    (now : Moment)
    (h : a.namesDistinct = true) :
    reload now a.settled = reload now a ∧ reloadAll now a.settled = reloadAll now a := by
  constructor
  · rw [reload, save_settled h]
    rfl
  · rw [reloadAll, save_settled h]
    rfl

end Indexed

/-- **An alert comes back as it was saved, but for infinite and undefined readings.** Loading
gives the settled alert, by one id or by several, unless a whole number of the alert has too
many digits to be read. Saving and loading the settled alert changes nothing more, and an alert
comes back unchanged just if its readings have no infinite or undefined float. -/
theorem loaded_asSaved
    (now : Moment) (a : Alert) (s : Server)
    (hnames : a.namesDistinct = true) :
    ((Indexed.reload now a).runOn s).1 =
        (if a.isLegible then .ok (some a.settled) else .error (.kind .unusableValue)) ∧
      ((Indexed.reloadAll now a).runOn s).1 =
        (if a.isLegible then .ok [a.settled] else .error (.kind .unusableValue)) ∧
      (Indexed.save a.settled = Indexed.save a ∧
        Indexed.reload now a.settled = Indexed.reload now a ∧
        Indexed.reloadAll now a.settled = Indexed.reloadAll now a) ∧
      (a.settled = a ↔ Json.allFiniteFields a.readings = true) := by
  have hreading : a.reading =
      if a.isLegible then .ok a.settled else .error (.kind .unusableValue) := by
    rw [Alert.reading, Alert.readBack_eq_settled hnames]
  refine ⟨?_, ?_, ⟨Indexed.save_settled hnames, Indexed.reload_settled now hnames⟩,
    Alert.settled_eq_self_iff⟩
  · rw [Indexed.reload_runOn, hreading]
    split_ifs <;> rfl
  · rw [Indexed.reloadAll_runOn, hreading]
    split_ifs <;> rfl

/-- An alert of a boiler, with the given readings and count of notifications. -/
def sampled (readings : List (String × Json)) (count : Int) : Alert :=
  { id := "a1", tenant := "tenant-a", rule := "rule-1", device := "boiler-1"
    status := .active, severity := .warning, message := "Hot", details := ""
    readings := readings
    triggeredAt := ⟨2025, 1, 1, 12, 0, 0, 250, some (-330), by decide⟩
    updatedAt := ⟨2025, 1, 1, 12, 0, 0, 0, none, by decide⟩
    acknowledgedAt? := none, acknowledgedBy? := none, acknowledgmentNotes? := none
    resolvedAt? := none, resolutionNotes? := none
    notifications := count, escalations := 0, lastEscalatedAt? := none }

/-- Readings with an infinite float inside a list. -/
def surge : List (String × Json) :=
  [("flow", .arr [.int 3, .float (Number.ofMagnitude false Number.infinityBits)]),
    ("mode", .str "fast")]

theorem loaded_asSaved_surge :
    (sampled surge 1).namesDistinct = true ∧
      ((Indexed.reload .epoch (sampled surge 1)).runOn {}).1 =
        .ok (some (sampled [("flow", .arr [.int 3, .null]), ("mode", .str "fast")] 1)) := by
  have hnames : (sampled surge 1).namesDistinct = true := by
    decide
  have hlegible : (sampled surge 1).isLegible = true := by
    decide +kernel
  have hinfinite : Number.isFinite (Number.ofMagnitude false Number.infinityBits) = false := by
    decide +kernel
  have hsettled : (sampled surge 1).settled =
      sampled [("flow", .arr [.int 3, .null]), ("mode", .str "fast")] 1 := by
    simp [Alert.settled, sampled, surge, Json.settledFields, Json.settled, Json.settledItems,
      hinfinite]
  refine ⟨hnames, ?_⟩
  rw [(loaded_asSaved .epoch (sampled surge 1) {} hnames).1, if_pos hlegible, hsettled]

/-- An alert with a number of too many digits is saved, but not loaded. -/
theorem not_loaded_sampled :
    ¬ ∀ (now : Moment) (a : Alert) (s : Server), a.namesDistinct = true →
      ((Indexed.reload now a).runOn s).1 = .ok (some a.settled) := by
  intro hall
  have hlong : ¬ (sampled [] (10 ^ Json.maxWholeDigits)).isLegible = true := by
    rw [Alert.isLegible_iff, Alert.isLegible_int_iff]
    simp [sampled, Int.natAbs_pow]
  have hread := hall .epoch (sampled [] (10 ^ Json.maxWholeDigits)) {} (by decide)
  rw [Indexed.reload_runOn, Alert.reading, if_neg hlong] at hread
  cases hread

end TelemetryAlerts
