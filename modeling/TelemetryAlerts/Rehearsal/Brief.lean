import TelemetryAlerts.Rehearsal.Installation

/-!
# Briefs

What a rehearsal is to be of, in one document: the files of an installation, the readings
of its devices and the number of cycles. The outcome tells what would have been sent.
-/

namespace TelemetryAlerts
namespace Rehearsal

/-- A description of a rehearsal. -/
structure Brief where
  files : Files
  readings : List (String × Snapshot)
  clock : Moment
  cycles : Nat

namespace Brief

/-- The text of a file. -/
def file (v : Json) : Checked ConfigFile :=
  (Document.text v).map .text

/-- The readings of a device. -/
def snapshot (v : Json) : Checked Snapshot :=
  (Document.mapping v).map Snapshot.normalize

/-- The readings of devices, by device. -/
def snapshots (v : Json) : Checked (List (String × Snapshot)) :=
  (Document.mapping v).andThen go
where
  go : List (String × Json) → Checked (List (String × Snapshot))
    | [] => .ok []
    | (device, v) :: rest =>
      (fun s others => (device, s) :: others) <$> (snapshot v).within (.field device) <*> go rest

/-- The brief in the fields of a record. -/
def ofEntries (e : Entries Json) : Checked Brief :=
  (fun config rules devices readings clock cycles => ⟨⟨config, rules, devices⟩, readings, clock, cycles⟩)
    <$> e.withDefault "config" .missing file
    <*> e.withDefault "rules" .missing file
    <*> e.withDefault "devices" .missing file
    <*> e.withDefault "telemetry" [] snapshots
    <*> e.withDefault "clock" Moment.epoch Document.moment
    <*> e.withDefault "cycles" 1 Document.nat

/-- What comes of a rehearsal: the counts, the alerts and the effects on the outside. -/
def run (b : Brief) : Outcome Json := do
  let n ← Installation.assemble {} b.files (some (.table b.readings)) { clock := b.clock }
  let (o, n) := n.runLoop b.cycles
  o
  let w := n.stage.world
  let alerts ← (World.alerts w).1
  pure (.obj [
    ("stats", w.stats.toJson),
    ("alerts", .arr (alerts.map fun a => a.toJson.settled)),
    ("effects", effectsJson w.effects)])

/-- What comes of the rehearsal that a text describes. -/
def runText (text : String) : Outcome Json := do
  let b ← (Document.record ofEntries (← Document.ofText text)).orInvalid "Brief"
  b.run

/-- The text of what comes of a rehearsal, or of why there is none. -/
def report (text : String) : String :=
  match runText text with
  | .ok v => v.write .message
  | .error (.invalid _ complaints) =>
    (Json.arr (complaints.map Complaint.toJson)).write .message
  | .error e => (e.message?).getD "the rehearsal cannot be carried out"

end Brief
end Rehearsal
end TelemetryAlerts
