import TelemetryAlerts.Web.Address
import TelemetryAlerts.Failure

/-!
# Web exchanges

What becomes of a request: a reply with a status and a body, or one of several faults.
A fault of the transport is worth another attempt; other faults are not.
-/

namespace TelemetryAlerts
namespace Web

/-- The faults of the transport below a request. -/
def transportFaults : List String :=
  ["TransportError", "TimeoutException", "ConnectTimeout", "ReadTimeout", "WriteTimeout",
    "PoolTimeout", "NetworkError", "ConnectError", "ReadError", "WriteError", "CloseError",
    "ProtocolError", "LocalProtocolError", "RemoteProtocolError", "ProxyError",
    "UnsupportedProtocol"]

/-- All faults that count as the failure of a request. -/
def requestFaults : List String :=
  transportFaults ++ ["HTTPError", "RequestError", "DecodingError", "TooManyRedirects"]

/-- A reply to a request. -/
structure Reply where
  status : Int
  body : List UInt8 := []

namespace Reply

/-- Whether a status tells of success. -/
def isSuccess (r : Reply) : Bool :=
  decide (200 ≤ r.status ∧ r.status ≤ 299)

/-- The reply, or a failure unless it tells of success. -/
def orBadStatus (r : Reply) : Outcome Reply :=
  if r.isSuccess then .ok r else .error (.badStatus r.status)

end Reply
end Web

namespace Failure

/-- Whether a failure is a fault of the transport. -/
def isTransportFault : Failure → Bool
  | request name => Web.transportFaults.contains name
  | _ => false

/-- Whether a failure is the failure of a request, be it for a fault or for the status of
the reply. -/
def isRequestFailure : Failure → Bool
  | badStatus _ => true
  | request name => Web.requestFaults.contains name
  | _ => false

end Failure
end TelemetryAlerts
