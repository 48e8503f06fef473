import TelemetryAlerts.Alert.Reader
import TelemetryAlerts.Program
import TelemetryAlerts.Service.Inquiry
import TelemetryAlerts.Service.Page
import TelemetryAlerts.Store.Request

/-!
# What is asked about alerts

An inquiry to a page about alerts is read into a task for one tenant, or refused with all
faults: first the tenant, then the query, then the body. A task is carried out by requests
to the store, and it concerns the alerts of its tenant only.
-/

namespace TelemetryAlerts
namespace Service

/-- A task about alerts. -/
inductive AlertTask where
  | list (filter : Filter) (limit : Int)
  | statistics
  | openOn (device : String)
  | ofRule (rule : String) (limit : Int)
  | one (id : String)
  | acknowledge (id : String) (a : Acknowledgment)
  | resolve (id : String) (r : Resolution)

/-- The result of reading an inquiry, or the response that refuses it. -/
abbrev Understood (α : Type) := Except Response α

namespace Inquiry

/-- The tenant on whose behalf is asked. -/
def tenant (i : Inquiry) : Checked String :=
  ((i.header? "x-tenant-id").elim (.fail .missing) .ok : Checked String)
    |>.within (.field "x-tenant-id") |>.within (.field "header")

/-- A field of the query, with a value of its own when it is not given. -/
def parameter {α : Type} (i : Inquiry) (name : String) (default : α)
    (check : Json → Checked α) : Checked α :=
  match i.field? name with
  | some s => (check (.str s)).within (.field name) |>.within (.field "query")
  | none => .ok default

/-- Which alerts are asked for. -/
def filter (i : Inquiry) : Checked Filter :=
  Filter.mk
    <$> i.parameter "status" none (fun v => (Document.word Status.ofName? v).map some)
    <*> i.parameter "severity" none (fun v => (Document.word Severity.ofName? v).map some)
    <*> i.parameter "device_id" none (fun v => (Document.text v).map some)

/-- How many alerts are asked for. -/
def limit (i : Inquiry) : Checked Int :=
  i.parameter "limit" 100 Document.int

/-- The document in the body; none if there is no body. A body that is no document counts as
a text. -/
def document (i : Inquiry) : Understood Json :=
  if i.body.isEmpty then .ok .null
  else if !i.bringsDocument then .ok (.str "")
  else
    match (Json.textOfBytes? i.body).map Json.read with
    | some (.ok v) => .ok v
    | some (.error (.malformed position)) =>
      .error (.refusing [⟨[.field "body", .index position], .jsonInvalid⟩])
    | _ => .error (.saying 400 "There was an error parsing the body")

/-- A record that the body may bring. -/
def remark {α : Type} (default : α) (check : Entries Json → Checked α) (v : Json) : Checked α :=
  match v with
  | .null => .ok default
  | .obj fields => (check fields).within (.field "body")
  | _ => (Checked.fail .modelAttributesType : Checked α).within (.field "body")

/-- The part of a body that a complaint is about. -/
def partOf (v : Json) (c : Complaint) : Json :=
  match c.path with
  | [_, .field name] => (v.field? name).getD .null
  | _ => v

/-- What was read, or the response to the faults that were found. -/
def understand {α : Type} (a : Checked α) : Understood α :=
  match a with
  | .ok a => .ok a
  | .bad complaints => .error (.refusing complaints)

/-- A refusal repeats what it refuses; where that cannot be sent, the service fails. -/
def quoting {α : Type} (v : Json) (a : Checked α) : Understood (Checked α) :=
  match a with
  | .ok a => .ok (.ok a)
  | .bad complaints =>
    if complaints.all fun c => (partOf v c).allFinite then .ok (.bad complaints)
    else .error .failed

/-- A task of the tenant who asks. -/
def forTenant (i : Inquiry) (task : Checked AlertTask) : Understood (String × AlertTask) :=
  understand (Prod.mk <$> i.tenant <*> task)

/-- A task of the tenant who asks, with a record that the body may bring. -/
def withRemark {α : Type} (i : Inquiry) (default : α) (check : Entries Json → Checked α)
    (task : α → AlertTask) : Understood (String × AlertTask) := do
  let v ← i.document
  let r ← quoting v (remark default check v)
  i.forTenant (task <$> r)

end Inquiry

/-- The tenant and the task of an inquiry to a page about alerts. -/
def AlertTask.ofInquiry (p : AlertPage) (i : Inquiry) : Understood (String × AlertTask) :=
  match p with
  | .list => i.forTenant (AlertTask.list <$> i.filter <*> i.limit)
  | .statistics => i.forTenant (.ok .statistics)
  | .openOn device => i.forTenant (.ok (.openOn device))
  | .ofRule rule => i.forTenant (AlertTask.ofRule rule <$> i.limit)
  | .one id => i.forTenant (.ok (.one id))
  | .acknowledge id => i.withRemark {} Acknowledgment.ofEntries (.acknowledge id)
  | .resolve id => i.withRemark {} Resolution.ofEntries (.resolve id)

/-- Work on the alert store. -/
abbrev StoreAction (α : Type) := ExceptT Failure (Program Request fun r => Outcome r.Reply) α

/-- A request to the alert store. -/
def StoreAction.ask (r : Request) : StoreAction r.Reply :=
  ExceptT.mk (Program.perform r)

namespace AlertTask

/-- The response about an alert that is not there. -/
def notFound (id : String) : Response :=
  .saying 404 ("Alert '" ++ id ++ "' not found")

/-- The response about an alert that is not in the state for what was asked. -/
def refused (id tenant reason : String) : StoreAction Response := do
  match ← StoreAction.ask (.get id tenant) with
  | none => pure (notFound id)
  | some _ => pure (.saying 409 ("Alert '" ++ id ++ "' " ++ reason))

/-- The response about an alert that was moved on. -/
def moved (status id : String) : Response :=
  .ofDocument 200 (.obj [("status", .str status), ("alert_id", .str id)])

/-- Alerts as a document, each in short. -/
def summaries (alerts : List Alert) : Response :=
  .ofDocument 200 (.arr (alerts.map fun a => (Summary.ofAlert a).toJson))

/-- An alert as a document in which a number that is not finite is null. -/
def alertDocument (a : Alert) : Json :=
  a.toJson.settled

/-- Carries out a task for a tenant. -/
def carryOut (tenant : String) : AlertTask → StoreAction Response
  | list filter limit => do
    pure (summaries (← StoreAction.ask (.list tenant filter limit)))
  | statistics => do
    pure (.ofDocument 200 (← StoreAction.ask (.statistics tenant)).toJson)
  | openOn device => do
    let alerts ← StoreAction.ask (.openOn tenant device)
    pure (.ofDocument 200 (.arr (alerts.map alertDocument)))
  | ofRule rule limit => do
    pure (summaries (← StoreAction.ask (.ofRule tenant rule limit)))
  | one id => do
    match ← StoreAction.ask (.get id tenant) with
    | some a => pure (.ofDocument 200 (alertDocument a))
    | none => pure (notFound id)
  | acknowledge id a => do
    if ← StoreAction.ask (.acknowledge id tenant a.who? a.notes?) then
      pure (moved "acknowledged" id)
    else refused id tenant "is not active"
  | resolve id r => do
    if ← StoreAction.ask (.resolve id tenant r.notes?) then pure (moved "resolved" id)
    else refused id tenant "is already resolved"

end AlertTask

/-- Answers an inquiry to a page about alerts. -/
def AlertPage.answer (p : AlertPage) (i : Inquiry) :
    Program Request (fun r => Outcome r.Reply) Response :=
  match AlertTask.ofInquiry p i with
  | .error response => .done response
  | .ok (tenant, task) => do
    match ← ExceptT.run (task.carryOut tenant) with
    | .ok response => pure response
    | .error _ => pure .failed

end Service
end TelemetryAlerts
