import TelemetryAlerts.Document.Text
import TelemetryAlerts.Program
import TelemetryAlerts.Telemetry.Reading
import TelemetryAlerts.Web.Exchange

/-!
# The telemetry query service

Asking a web service for the latest snapshot of a device. A device that cannot be asked
about, for a fault of the request or an unusable reply, has no readings.
-/

namespace TelemetryAlerts
namespace Query

/-- A request to the query service, on behalf of a tenant or of nobody. -/
structure Get where
  address : Web.Address
  tenant? : Option String
deriving DecidableEq

/-- Work that makes requests to the query service. -/
abbrev Action (α : Type) := ExceptT Failure (Program Get fun _ => Outcome Web.Reply) α

/-- Makes a request. -/
def ask (g : Get) : Action Web.Reply :=
  ExceptT.mk (Program.perform g)

/-- The base address of a service, given with or without slashes at its end. -/
def base (url : String) : Outcome Web.Address :=
  let trimmed := (url.toList.reverse.dropWhile (· == '/')).reverse
  match (Web.Address.ofText? (String.ofList trimmed)).bind Web.Address.asBase? with
  | some a => .ok a
  | none => .error .invalidAddress

/-- The address of an endpoint of a service. -/
def endpoint (base : Web.Address) (path : String) : Outcome Web.Address :=
  match (Web.Address.ofText? path).bind base.resolve? with
  | some a => .ok a
  | none => .error .invalidAddress

/-- The path under which a device's latest readings are found. -/
def latestPath (device : String) : String :=
  "/api/timeseries/telemetry/device/" ++ device ++ "/latest"

/-- Whether a text can be sent as a header. -/
def fitsHeader (s : String) : Bool :=
  s.toList.all fun c => c.toNat < 0x80

/-- The document with a device's latest readings; whatever is no object counts as empty. -/
def latestDocument (base : Web.Address) (device tenant : String) : Action Snapshot := do
  let address ← liftM (endpoint base (latestPath device))
  if fitsHeader tenant then
    let reply ← ask ⟨address, some tenant⟩
    let reply ← liftM reply.orBadStatus
    match ← liftM (Document.ofBytes reply.body) with
    | .obj fields => pure fields
    | _ => pure []
  else throw .unencodableHeader

/-- Whether a failure only means that there are no readings. -/
def meansNoReadings (e : Failure) : Bool :=
  e.isRequestFailure ||
    match e with
    | .unencodableHeader => true
    | .namelessProtocol => true
    | .malformedDocument => true
    | .undecodable => true
    | .kind .unusableValue => true
    | _ => false

/-- A device's latest readings. -/
def latest (base : Web.Address) (device tenant : String) : Action Snapshot :=
  tryCatch (Snapshot.normalize <$> latestDocument base device tenant) fun e =>
    if meansNoReadings e then pure [] else throw e

/-- Whether the service says that it is well. -/
def isHealthy (base : Web.Address) : Action Bool := do
  let address ← liftM (endpoint base "/health")
  tryCatch (do pure (← ask ⟨address, none⟩).isSuccess) fun e =>
    if e.isRequestFailure then pure false else throw e

end Query
end TelemetryAlerts
