import TelemetryAlerts.Rule.Basic

/-!
# The life of an alert

What is to be done for a rule and a device, given the open alert, the last alert and
whether the rule fires:

* nothing open and the rule fires: trigger, or suppress while the rule cools down;
* an open alert and the rule does not fire: resolve;
* an active alert and the rule fires: escalate when it is due.

All times of day come in as arguments.
-/

namespace TelemetryAlerts

/-- What to do for one rule and one device. -/
inductive Transition where
  | trigger
  | suppress
  | resolve
  | escalate
  | none
deriving Repr, DecidableEq

/-- The name under which a transition is written. -/
def Transition.name : Transition → String
  | trigger => "trigger"
  | suppress => "suppress"
  | resolve => "resolve"
  | escalate => "escalate"
  | none => "none"

/-- The remark on an alert that ends because its conditions do. -/
def autoResolveReason : String :=
  "Automatically resolved - conditions no longer met"

/-- Why no decision can be taken. -/
inductive TimeFault where
  /-- Just one of two moments knows its distance from universal time. -/
  | mixedOffsets
  /-- A number of minutes is longer than any span of time. -/
  | spanTooLong
deriving Repr, DecidableEq

/-- The longest span of time, in days. -/
def maxSpanDays : Nat := 999999999

/-- A number of minutes as microseconds. -/
def spanOfMinutes (minutes : Nat) : Except TimeFault Int :=
  if minutes / 1440 ≤ maxSpanDays then .ok (minutes * microsPerMinute) else .error .spanTooLong

/-- The microseconds from one moment to another. -/
def elapsed (later earlier : Moment) : Except TimeFault Int :=
  (later.since? earlier).elim (.error .mixedOffsets) .ok

/-- Whether a rule still cools down after its last alert for a device. -/
def suppresses (r : Rule) (last? : Option Alert) (now : Moment) : Except TimeFault Bool :=
  match last? with
  | Option.none => .ok false
  | some last => do
    let since ← elapsed now last.triggeredAt
    let cooldown ← spanOfMinutes r.cooldownMinutes
    pure (since < cooldown)

/-- Whether an alert is to be escalated now. Without `again`, that happens once. -/
def escalationDue (r : Rule) (a : Alert) (now : Moment) (again : Bool) : Except TimeFault Bool :=
  match r.escalation? with
  | Option.none => .ok false
  | some e =>
    if a.status ≠ .active then .ok false
    else if a.lastEscalatedAt?.isSome && !again then .ok false
    else do
      let since ← elapsed now (a.lastEscalatedAt?.getD a.triggeredAt)
      let delay ← spanOfMinutes e.afterMinutes
      pure (delay ≤ since)

/-- The transition for one rule and one device. -/
def Transition.choose (open? : Option Alert) (fires : Bool) (last? : Option Alert) (r : Rule) (now : Moment)
    (again : Bool) : Except TimeFault Transition :=
  match open?, fires with
  | Option.none, false => .ok .none
  | Option.none, true => do
    pure (if ← suppresses r last? now then .suppress else .trigger)
  | some _, false => .ok .resolve
  | some a, true => do
    pure (if ← escalationDue r a now again then .escalate else .none)

end TelemetryAlerts
