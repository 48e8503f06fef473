import TelemetryAlerts.Store.Request

/-!
# Alerts in memory

A store that keeps its alerts in the order in which their ids were first used.
-/

namespace TelemetryAlerts

/-- The alerts of a store, in order of first use of their ids. -/
structure Memory where
  alerts : List Alert := []

namespace Memory

/-- The alert with an id, if it belongs to a tenant. -/
def find? (m : Memory) (id tenant : String) : Option Alert :=
  (m.alerts.find? fun a => a.id == id).filter fun a => a.tenant == tenant

/-- Puts an alert in the place of the one with its id, or at the end. -/
def put (a : Alert) : List Alert → List Alert
  | [] => [a]
  | b :: rest => if b.id = a.id then a :: rest else b :: put a rest

/-- The store with an alert put in. -/
def insert (m : Memory) (a : Alert) : Memory :=
  ⟨put a m.alerts⟩

/-- Whether a rule has an open alert for a device. -/
def hasOpen (m : Memory) (rule device : String) : Bool :=
  m.alerts.any fun a => a.isOpen && a.concerns rule device

/-- The alerts of a tenant that have a property. -/
def ofTenant (m : Memory) (tenant : String) (keep : Alert → Bool) : List Alert :=
  m.alerts.filter fun a => a.tenant == tenant && keep a

/-- Changes the alert with an id, if it is the tenant's and a condition holds of it. -/
def update (m : Memory) (id tenant : String) (may : Alert → Bool) (change : Alert → Alert) :
    Bool × Memory :=
  match m.find? id tenant with
  | some a => if may a then (true, m.insert (change a)) else (false, m)
  | none => (false, m)

/-- Serves a request at a moment. -/
def serve (now : Moment) (m : Memory) : (r : Request) → Outcome r.Reply × Memory
  | .create a =>
    if m.hasOpen a.rule a.device then (.error (.openAlertExists a.rule a.device), m)
    else (.ok (), m.insert a)
  | .get id tenant => (.ok (m.find? id tenant), m)
  | .openOn tenant device =>
    (newestFirst (m.ofTenant tenant fun a => a.device == device && a.isOpen), m)
  | .latestOf rule device => (newest? (m.alerts.filter fun a => a.concerns rule device), m)
  | .acknowledge id tenant who? notes? =>
    let (done, m) := m.update id tenant (fun a => a.status == .active)
      fun a => a.acknowledge who? notes? now
    (.ok done, m)
  | .resolve id tenant reason? =>
    let (done, m) := m.update id tenant Alert.isOpen fun a => a.resolve reason? now
    (.ok done, m)
  | .recordNotifications id tenant count =>
    (.ok (), (m.update id tenant (fun _ => true) fun a => a.recordNotifications count now).2)
  | .markEscalated id tenant at_ =>
    (.ok (), (m.update id tenant (fun _ => true) fun a => a.escalate at_).2)
  | .list tenant filter limit =>
    ((newestFirst (m.ofTenant tenant filter.passes)).map (upTo limit), m)
  | .ofRule tenant rule limit =>
    ((newestFirst (m.ofTenant tenant fun a => a.rule == rule)).map (upTo limit), m)
  | .statistics tenant => (.ok (Statistics.ofAlerts (m.ofTenant tenant fun _ => true)), m)

end Memory
end TelemetryAlerts
