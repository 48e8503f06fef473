import TelemetryAlerts.Alert.Basic
import TelemetryAlerts.Failure

/-!
# Requests to an alert store

The operations of an alert store as data, each with the type of its reply, and the order
in which alerts are listed.
-/

namespace TelemetryAlerts

/-- Which alerts of a tenant are listed. -/
structure Filter where
  status? : Option Status := none
  severity? : Option Severity := none
  device? : Option String := none

/-- Whether an alert passes a filter. -/
def Filter.passes (f : Filter) (a : Alert) : Bool :=
  f.status?.all (· == a.status) && f.severity?.all (· == a.severity) &&
    f.device?.all (· == a.device)

/-- An operation of an alert store. -/
inductive Request where
  | create (a : Alert)
  | get (id tenant : String)
  | openOn (tenant device : String)
  | latestOf (rule device : String)
  | acknowledge (id tenant : String) (who? notes? : Option String)
  | resolve (id tenant : String) (reason? : Option String)
  | recordNotifications (id tenant : String) (count : Int)
  | markEscalated (id tenant : String) (at_ : Moment)
  | list (tenant : String) (filter : Filter) (limit : Int)
  | ofRule (tenant rule : String) (limit : Int)
  | statistics (tenant : String)

/-- The type of the reply to a request. -/
abbrev Request.Reply : Request → Type
  | .create _ => Unit
  | .get _ _ => Option Alert
  | .openOn _ _ => List Alert
  | .latestOf _ _ => Option Alert
  | .acknowledge _ _ _ _ => Bool
  | .resolve _ _ _ => Bool
  | .recordNotifications _ _ _ => Unit
  | .markEscalated _ _ _ => Unit
  | .list _ _ _ => List Alert
  | .ofRule _ _ _ => List Alert
  | .statistics _ => Statistics

/-- Whether the times of alerts can be brought into an order. -/
def sortable (alerts : List Alert) : Bool :=
  alerts.length ≤ 1 || comparable (alerts.map Alert.triggeredAt)

/-- Alerts from the newest to the oldest; of two equally new ones the first stays first. -/
def newestFirst (alerts : List Alert) : Outcome (List Alert) :=
  if sortable alerts then
    .ok (alerts.mergeSort fun a b => b.triggeredAt.instant ≤ a.triggeredAt.instant)
  else .error (.time .mixedOffsets)

/-- The newer of two alerts, the first if they are equally new. -/
def newer (a b : Alert) : Alert :=
  if a.triggeredAt.instant < b.triggeredAt.instant then b else a

/-- The newest of a list of alerts. -/
def newest? (alerts : List Alert) : Outcome (Option Alert) :=
  if sortable alerts then
    .ok (match alerts with
      | [] => none
      | a :: rest => some (rest.foldl newer a))
  else .error (.time .mixedOffsets)

/-- The first items up to a limit; a negative limit counts from the end. -/
def upTo {α : Type} (limit : Int) (items : List α) : List α :=
  if 0 ≤ limit then items.take limit.toNat else items.take (items.length - limit.natAbs)

end TelemetryAlerts
