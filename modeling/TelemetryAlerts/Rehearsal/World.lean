import TelemetryAlerts.Catalog.Devices
import TelemetryAlerts.Catalog.Rules
import TelemetryAlerts.Notification.Delivery
import TelemetryAlerts.Rehearsal.Effect
import TelemetryAlerts.Rehearsal.Script
import TelemetryAlerts.Store.Indexed
import TelemetryAlerts.Store.Memory
import TelemetryAlerts.Telemetry.Simulated
import TelemetryAlerts.Time.Span
import TelemetryAlerts.Worker.Locks

/-!
# The surroundings of a rehearsed worker

All services that a worker asks, as one value: a clock that only moves when it is told to,
a store in memory, scripted failures and senders, and a record of what happened. Every
call of the worker is a function on this value.
-/

namespace TelemetryAlerts
namespace Rehearsal

/-- Where a rehearsed worker gets its telemetry. -/
inductive TelemetrySource where
  | table (readings : List (String × Snapshot))
  | simulated
  | service (url : String)

/-- The surroundings of a rehearsed worker. -/
structure World where
  clock : Moment
  /-- The alerts in memory; without them the key server is the store. -/
  memory? : Option Memory := some {}
  server : Server := {}
  /-- Whether the next command that stores and indexes fails. -/
  isIndexingBroken : Bool := false
  rules : RuleSource := .fixed []
  devices : DeviceSource := .fixed []
  telemetry : TelemetrySource := .table []
  /-- Whether the telemetry service's client is open. -/
  isServiceOpen : Bool := false
  chance : Chance := {}
  engine : EngineConfig := {}
  notifications : NotificationConfig := {}
  senders : List (String × Sender) := []
  sendTimeout : Float := 30
  isSignedIn : Bool := true
  /-- The numbers to which no text message gets through. -/
  refusedNumbers : List String := []
  hooks : WebScript := {}
  queries : WebScript := {}
  faults : List Fault := []
  stats : Stats := {}
  isStopping : Bool := false
  /-- The devices whose telemetry stops the worker when it is asked for. -/
  stopOn : List String := []
  /-- The worker's locks. Its tasks are numbered; outside a cycle there is only the first. -/
  pairLocks : Locks Nat := {}
  sent : List Sent := []
  fetched : List (String × String) := []
  effects : List Effect := []
  /-- The waits between cycles so far. -/
  delays : List Float := []
  /-- The wait, counted from now, at which the worker is stopped. -/
  waitsLeft? : Option Nat := none

/-- A step of a rehearsal. -/
abbrev Play (α : Type) := World → α × World

namespace World

/-- Draws the id of a new alert. -/
def drawId : Play String := fun w =>
  let n := w.server.drawn + 1
  (generatedId n, { w with server := { w.server with drawn := n } })

/-- Notes an effect. -/
def note (e : Effect) (w : World) : World :=
  { w with effects := w.effects ++ [e] }

/-! ### The store -/

/-- Executes a command on the key server, which may be broken. -/
def execute (c : Command) : Server × Bool → c.Reply × (Server × Bool) :=
  fun (s, broken) =>
    match c, broken with
    | .setAndIndex _ _ _ _, true => (.error .injected, (s, false))
    | c, broken =>
      let (r, s) := Server.execute c s
      (r, (s, broken))

/-- Runs an action on the key server. -/
def onServer {α : Type} (a : ServerAction α) : Play (Outcome α) := fun w =>
  let (o, (s, broken)) := Program.run execute (ExceptT.run a) (w.server, w.isIndexingBroken)
  (o, { w with server := s, isIndexingBroken := broken })

/-- Serves a request to the store. -/
def request (r : Request) : Play (Outcome r.Reply) := fun w =>
  match w.memory? with
  | some m =>
    let (o, m) := m.serve w.clock r
    (o, { w with memory? := some m })
  | none => onServer (Indexed.serve w.clock r) w

/-- All alerts of the store: in memory in the order of first use of their ids, on the key
server in the order of their keys. -/
def alerts : Play (Outcome (List Alert)) := fun w =>
  match w.memory? with
  | some m => (.ok m.alerts, w)
  | none =>
    let keys := (w.server.entries.map (·.1)).filter (Text.startsWith · (Indexed.alertKey ""))
    let ids := (rising keys).map fun k => String.ofList (k.toList.drop (Indexed.alertKey "").length)
    onServer (Indexed.loadAll w.clock ids) w

/-! ### Telemetry -/

/-- Answers a request to the query service. -/
def query (g : Query.Get) : Play (Outcome Web.Reply) := fun w =>
  let w := w.note (.get g.address.text g.tenant?)
  let (reply, queries) := w.queries.ask g.address
  (reply, { w with queries := queries })

/-- Runs an action on the query service. -/
def onService {α : Type} (a : Query.Action α) : Play (Outcome α) :=
  Program.run query (ExceptT.run a)

/-- The latest readings of a device. -/
def latest (device tenant : String) : Play (Outcome Snapshot) := fun w =>
  match w.telemetry with
  | .table readings =>
    let w := { w with
      fetched := w.fetched ++ [(device, tenant)]
      isStopping := w.isStopping || w.stopOn.contains device }
    (.ok ((readings.lookup device).getD []), w)
  | .simulated =>
    let (s, chance) := Snapshot.simulated Snapshot.usualMissingRate w.clock w.chance
    (.ok s, { w with chance := chance })
  | .service url =>
    match Query.base url with
    | .error e => (.error e, w)
    | .ok base => onService (Query.latest base device tenant) { w with isServiceOpen := true }

/-! ### Channels -/

/-- Takes a step of a delivery. -/
def transport (t : Transport) : Play t.Reply := fun w =>
  match t with
  | .mail m => (.ok (), w.note (.mail m))
  | .post a document =>
    let w := w.note (.post a.text document)
    let (reply, hooks) := w.hooks.ask a
    (reply, { w with hooks := hooks })
  | .wait seconds => ((), w.note (.wait seconds))
  | .signIn account token => ((), { w.note (.signIn account token) with isSignedIn := true })
  | .text m =>
    if w.refusedNumbers.contains m.recipient then (.error .injected, w)
    else (.ok (), w.note (.text m))
  | .publish channel text => (.ok (), w.note (.publish channel text))

/-- Carries out a delivery. -/
def deliver {α : Type} (d : Delivery α) : Play (Outcome α) :=
  Program.run transport (ExceptT.run d)

/-- The delivery of a notice through a channel as it is configured. -/
def deliveryOf (c : Channel) (recipients : List String) (n : Notice) (w : World) : Delivery Unit :=
  match c with
  | .email => w.notifications.email.deliver n recipients
  | .webhook => w.notifications.webhook.deliver n recipients
  | .sms => w.notifications.sms.deliver w.isSignedIn n recipients
  | .inApp => w.notifications.inApp.deliver n

/-- The sender of a channel, with its own name. Names match in any case, and the last
sender of a name counts. -/
def sender? (w : World) (c : Channel) : Option (String × Sender) :=
  w.senders.reverse.find? fun p => Text.lower p.1 == c.name

/-- Notes a notice that reached a scripted sender. -/
def noteSent (s : Sent) (w : World) : World :=
  { w with sent := w.sent ++ [s] }

/-- Sends a notice through a channel. Without time nothing is even begun. -/
def send (c : Channel) (recipients : List String) (n : Notice) : Play (Outcome Unit) := fun w =>
  match w.sender? c with
  | none => (.error (.noSender c.name), w)
  | some (name, s) =>
    if w.sendTimeout ≤ 0 then (.error .timedOut, w)
    else
      let noted := w.noteSent ⟨name, n, recipients⟩
      match s with
      | .accepting => (.ok (), noted)
      | .failing => (.error .injected, noted)
      | .timingOut => (.error .timedOut, noted)
      | .hanging => (.error .timedOut, noted)
      | .real channel => deliver (w.deliveryOf channel recipients n) w

/-! ### Calls of the worker -/

/-- A call with a limit on its time that may be made to fail. -/
def limited {α : Type} (limit : Float) (target : Target) (arguments : List Json)
    (refused : Outcome α) (call : Play (Outcome α)) : Play (Outcome α) := fun w =>
  if limit ≤ 0 then (.error .timedOut, w)
  else
    let (mode?, faults) := Fault.strike target arguments w.faults
    let w := { w with faults := faults }
    match mode? with
    | none => call w
    | some .error => (.error .injected, w)
    | some .hang => (.error .timedOut, w)
    | some .refuse => (refused, w)

/-- What a request gives when it just returns false. -/
def refusedRequest : (r : Request) → Outcome r.Reply
  | .create _ => .ok ()
  | .get _ _ => .ok none
  | .openOn _ _ => .error (.kind .notIterable)
  | .latestOf _ _ => .error (.kind .noSuchOperation)
  | .acknowledge _ _ _ _ => .ok false
  | .resolve _ _ _ => .ok false
  | .recordNotifications _ _ _ => .ok ()
  | .markEscalated _ _ _ => .ok ()
  | .list _ _ _ => .error (.kind .notIterable)
  | .ofRule _ _ _ => .error (.kind .notIterable)
  | .statistics _ => .error (.kind .noSuchOperation)

/-- The locks that there are, and whether each is held. -/
def locks (w : World) : List ((String × String) × Bool) :=
  w.pairLocks.table

/-- Does something to the locks. -/
def onLocks (f : Locks Nat → Locks Nat) (w : World) : World :=
  { w with pairLocks := f w.pairLocks }

/-- The end of a cycle: locks that nobody holds go, and the cycle is counted. -/
def finishCycle (w : World) : World :=
  { w.onLocks Locks.prune with
    stats := { w.stats with
      cycles := w.stats.cycles + 1
      lastCycleAt? := some w.clock } }

/-- A wait between cycles: it is noted and the clock goes on; at a set number of waits the
worker is stopped. -/
def wait (seconds : Float) (w : World) : Bool × World :=
  let left? := w.waitsLeft?.map (· - 1)
  let isStopping := w.isStopping || left? == some 0
  (isStopping, { w with
    delays := w.delays ++ [seconds]
    clock := w.clock.addSeconds seconds
    waitsLeft? := left?
    isStopping := isStopping })

/-- Serves a call of the worker. `together` serves the call that evaluates tenants side by
side. -/
def handle (together : Nat → Bool → List String → World → World) (c : Call) : Play c.Reply :=
  fun w =>
    let storeLimit := w.engine.storeTimeout.toFloat
    match c with
    | .tenants =>
      limited storeLimit .tenants [] (.error (.kind .notIterable))
        (fun w => (w.devices.tenants, w)) w
    | .enabledRules tenant =>
      limited storeLimit .enabledRules [.str tenant] (.error (.kind .notIterable))
        (fun w => (w.rules.enabledOf tenant, w)) w
    | .devicesOfType tenant deviceType =>
      limited storeLimit .devicesOfType [.str tenant, .str deviceType] (.error (.kind .notIterable))
        (fun w => (w.devices.ofType tenant deviceType, w)) w
    | .telemetry device tenant =>
      limited w.engine.fetchTimeout.toFloat .telemetry [.str device, .str tenant] (.ok [])
        (latest device tenant) w
    | .store r =>
      let (target, arguments) := targetOfRequest r
      limited storeLimit target arguments (refusedRequest r) (request r) w
    | .dispatch d => d.perform send w
    | .now => (w.clock, w)
    | .freshId => w.drawId
    | .count counter => ((), { w with stats := w.stats.count counter })
    | .isStopping => (w.isStopping, w)
    | .acquire rule device => ((), w.onLocks (Locks.arrive 0 (rule, device)))
    | .release _ _ => ((), w.onLocks (Locks.leave 0))
    | .together limit again tenants => ((), together limit again tenants w)
    | .endCycle => ((), w.finishCycle)
    | .sleep seconds => w.wait seconds

end World
end Rehearsal
end TelemetryAlerts
