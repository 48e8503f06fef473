import TelemetryAlerts.Rehearsal.SideBySide

/-!
# Cycles of a rehearsal

Running single cycles, the loop of cycles, and the schedule on which cycles run. A run on
the schedule that fails is counted and moves the next run forward.
-/

namespace TelemetryAlerts

/-- A number of seconds as a span of time in microseconds, if it is not too long for one. -/
def spanOfSeconds (seconds : Float) : Outcome Int :=
  match microsOfSeconds? seconds with
  | some micros =>
    if micros.natAbs ≤ maxSpanDays * microsPerDay.toNat then .ok micros
    else .error (.time .spanTooLong)
  | none =>
    if seconds.isNaN then .error (.kind .unusableValue) else .error (.time .spanTooLong)

/-- The moment a number of seconds later, if there is one. -/
def Moment.after (t : Moment) (seconds : Float) : Outcome Moment := do
  match t.add? (← spanOfSeconds seconds) with
  | some later => pure later
  | none => throw (.time .spanTooLong)

namespace Rehearsal

/-- A worker in its surroundings, and its schedule. -/
structure Stage where
  world : World
  escalation : EscalationConfig := {}
  /-- The next run, while the schedule is on. -/
  nextRun? : Option Moment := none

namespace Stage

/-- Does something in the surroundings. -/
def inWorld {α : Type} (p : Play α) (s : Stage) : α × Stage :=
  let (a, w) := p s.world
  (a, { s with world := w })

/-- Runs one cycle. -/
def cycle (s : Stage) : Outcome Unit × Stage :=
  s.inWorld (World.perform (Worker.cycle s.world.engine s.escalation.again))

/-- Runs the loop of cycles, which is stopped at a number of waits. -/
def loop (waits : Nat) (s : Stage) : Outcome Unit × Stage :=
  let w := { s.world with waitsLeft? := some waits }
  let action := Worker.run w.engine (Worker.cycle w.engine s.escalation.again) (waits + 1)
  let (o, w) := World.perform action w
  (o, { s with world := { w with waitsLeft? := none } })

/-- A wait for a number of seconds that ends early when the worker is stopped; without any
time nothing is waited for. -/
def pause (seconds : Float) (s : Stage) : Bool :=
  decide (0 < seconds) && s.world.isStopping

/-- Stops the worker. -/
def stop (s : Stage) : Stage :=
  { s with world := { s.world with isStopping := true } }

/-- The time between runs in microseconds; it is never nothing. -/
def intervalMicros (c : EngineConfig) : Outcome Int := do
  let micros ← spanOfSeconds c.interval.toFloat
  pure (if micros = 0 then microsPerSecond else micros)

/-- Turns the schedule on; the first run is due at once. The interval has to lead from now
to another moment. -/
def startSchedule (s : Stage) : Outcome Unit × Stage :=
  match s.world.clock.after s.world.engine.interval.toFloat with
  | .ok _ => (.ok (), { s with nextRun? := some s.world.clock })
  | .error e => (.error e, { s with nextRun? := none })

/-- Stops the worker and turns the schedule off. -/
def stopSchedule (s : Stage) : Stage :=
  { s.stop with nextRun? := none }

/-- Moves the next run, if the schedule is on, to a number of seconds from now. -/
def reschedule (seconds : Float) (s : Stage) : Outcome Unit × Stage :=
  match s.nextRun? with
  | none => (.ok (), s)
  | some _ =>
    match s.world.clock.after seconds with
    | .ok t => (.ok (), { s with nextRun? := some t })
    | .error e => (.error e, s)

/-- One run on the schedule, at once; nothing happens if the worker is stopped. -/
def runNow (s : Stage) : Outcome Unit × Stage :=
  if s.world.isStopping then (.ok (), s)
  else
    match s.cycle with
    | (.ok _, s) => (.ok (), s)
    | (.error _, s) =>
      let w := { s.world with stats := s.world.stats.count .errors }
      reschedule w.engine.errorBackoff.toFloat { s with world := w }

/-- The schedule as a document. -/
def scheduleJson (s : Stage) : Json :=
  match s.nextRun?, intervalMicros s.world.engine with
  | some next, .ok micros =>
    .obj [
      ("running", .bool true),
      ("job", .obj [
        ("name", .str "Evaluate alert rules"),
        ("interval", .float (Number.ofRatio (micros < 0) micros.natAbs 1000000)),
        ("max_instances", .int 1),
        ("coalesce", .bool true),
        ("next_run", .str next.text)])]
  | _, _ => .obj [("running", .bool false), ("job", .null)]

end Stage
end Rehearsal
end TelemetryAlerts
