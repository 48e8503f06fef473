import TelemetryAlerts.Config.Example
import TelemetryAlerts.Rehearsal.Brief

/-!
# The command

Rehearses the engine on the brief that is read from the standard input, and prints what
would have been sent. With the word `example` it prints an example of a configuration.
-/

open TelemetryAlerts

/-- Reads a brief and prints the outcome of its rehearsal. -/
def main (arguments : List String) : IO Unit := do
  if arguments = ["example"] then
    IO.println exampleConfig
  else
    let input ← IO.getStdin
    let text ← input.getLine
    IO.println (Rehearsal.Brief.report text)
