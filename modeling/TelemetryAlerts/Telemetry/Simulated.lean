import TelemetryAlerts.Telemetry.Reading
import TelemetryAlerts.Time.Moment

/-!
# Simulated telemetry

Readings of an industrial device for development. All chance comes in as two streams of
numbers, evenly spread ones between zero and one and normally spread ones around zero.
-/

namespace TelemetryAlerts

/-- The numbers still to be drawn. A stream that has run out gives zeros. -/
structure Chance where
  even : List Float := []
  normal : List Float := []

namespace Chance

/-- Draws an evenly spread number. -/
def drawEven (c : Chance) : Float × Chance :=
  (c.even.headD 0, { c with even := c.even.drop 1 })

/-- Draws a reading around a usual value, to two places. -/
def drawReading (base spread : Float) (c : Chance) : Float × Chance :=
  (Number.roundPlaces 2 (base + spread * c.normal.headD 0), { c with normal := c.normal.drop 1 })

end Chance

namespace Snapshot

/-- A number that is at least a bound. -/
def atLeast (bound x : Float) : Float :=
  if bound < x then x else bound

/-- A number that is at most a bound. -/
def atMost (bound x : Float) : Float :=
  if x < bound then x else bound

/-- The share of snapshots that are left out, unless another one is given. -/
def usualMissingRate : Float := 0.05

/-- A snapshot drawn by chance at a moment. -/
def drawn (now : Moment) (c : Chance) : Snapshot × Chance :=
  let (temperature, c) := c.drawReading 65 12
  let (humidity, c) := c.drawReading 45 10
  let (pressure, c) := c.drawReading 101.3 1.5
  let (vibration, c) := c.drawReading 2.5 1.2
  let (battery, c) := c.drawReading 80 15
  let (online, c) := c.drawEven
  ([("temperature", .float temperature),
    ("humidity", .float humidity),
    ("pressure", .float pressure),
    ("vibration", .float (atLeast 0 vibration)),
    ("battery", .float (atMost 100 (atLeast 0 battery))),
    ("online", .bool (decide (0.02 < online))),
    ("timestamp", .str now.text)], c)

/-- A snapshot drawn by chance; now and then there is none. -/
def simulated (missingRate : Float) (now : Moment) (c : Chance) : Snapshot × Chance :=
  let (x, c) := c.drawEven
  if x < missingRate then ([], c) else drawn now c

end Snapshot
end TelemetryAlerts
