import TelemetryAlerts.Store.Request
import TelemetryAlerts.Store.Connection
import TelemetryAlerts.Alert.Reader

/-!
# Alerts on a key server

A store that keeps each alert as a document under its own key, with sets of ids for the
ways in which alerts are looked up, and one key per rule and device that an open alert
holds as its claim.
-/

namespace TelemetryAlerts
namespace Indexed

/-- The key of an alert's document. -/
def alertKey (id : String) : String :=
  "alertengine:instance:" ++ id

/-- The key of the ids of a tenant's alerts. -/
def tenantKey (tenant : String) : String :=
  "alertengine:tenant:" ++ tenant ++ ":instances"

/-- The key of the ids of a rule's alerts for a device. -/
def pairKey (rule device : String) : String :=
  "alertengine:pair:" ++ rule ++ ":" ++ device

/-- The key of the ids of a device's open alerts. -/
def openKey (tenant device : String) : String :=
  "alertengine:open:" ++ tenant ++ ":" ++ device

/-- The key that the open alert of a rule and a device claims. -/
def claimKey (rule device : String) : String :=
  "alertengine:open-pair:" ++ rule ++ ":" ++ device

/-- The text under which an alert is stored. -/
def documentText (a : Alert) : String :=
  Json.write Json.Style.stored a.toJson

/-- Whether a document counts as absent. -/
def isBlankDocument : Json → Bool
  | .null => true
  | .bool b => !b
  | .int n => n == 0
  | .float x => x == 0
  | .str s => s == ""
  | .arr items => items.isEmpty
  | .obj fields => fields.isEmpty

/-- The alert in a document. A document without an id gets one that is drawn for it. -/
def alertOf (now : Moment) (v : Json) : ServerAction Alert := do
  let fresh ←
    match v with
    | .obj fields =>
      if Alert.bringsId fields then pure "" else ServerAction.command .drawId
    | _ => pure ""
  liftM (Checked.orInvalid "AlertInstance" (Alert.ofJson fresh now v))

/-- The alert with an id. -/
def load (now : Moment) (id : String) : ServerAction (Option Alert) := do
  match ← ServerAction.document? (alertKey id) with
  | none => pure none
  | some v => if isBlankDocument v then pure none else some <$> alertOf now v

/-- The alert with an id, if it belongs to a tenant. -/
def loadFor (now : Moment) (id tenant : String) : ServerAction (Option Alert) := do
  pure ((← load now id).filter fun a => a.tenant == tenant)

/-- The alerts with the given ids, without those that are gone. -/
def loadAll (now : Moment) (ids : List String) : ServerAction (List Alert) := do
  (← ServerAction.documents (ids.map alertKey)).mapM (alertOf now)

/-- Stores an alert under its id. -/
def save (a : Alert) : ServerAction Unit :=
  ServerAction.command (.set (alertKey a.id) (documentText a))

/-- Takes an alert out of the index of open ones and gives up its claim. -/
def close (a : Alert) : ServerAction Unit := do
  ServerAction.command (.removeMembers (openKey a.tenant a.device) [a.id])
  let _ ← ServerAction.deleteIfEquals (claimKey a.rule a.device) a.id

/-- Claims the rule and device of an alert, then stores and indexes it; the claim is given
up again if that fails. -/
def create (a : Alert) : ServerAction Unit := do
  let claim := claimKey a.rule a.device
  if ← ServerAction.command (.setIfAbsent claim a.id) then
    tryCatch
      (ServerAction.command (.setAndIndex (alertKey a.id) (documentText a)
        [tenantKey a.tenant, pairKey a.rule a.device, openKey a.tenant a.device] a.id))
      fun e => do
        let _ ← ServerAction.deleteIfEquals claim a.id
        throw e
  else throw (.openAlertExists a.rule a.device)

/-- Changes a tenant's alert and stores it, if a condition holds of it. -/
def update (now : Moment) (id tenant : String) (may : Alert → Bool) (change : Alert → Alert) :
    ServerAction (Option Alert) := do
  match ← loadFor now id tenant with
  | none => pure none
  | some a =>
    if may a then
      let a := change a
      save a
      pure (some a)
    else pure none

/-- The alerts in an index that have a property, newest first. -/
def listed (now : Moment) (index : String) (keep : Alert → Bool) : ServerAction (List Alert) := do
  let ids ← ServerAction.command (.members index)
  liftM (newestFirst ((← loadAll now ids).filter keep))

/-- Serves a request at a moment. -/
def serve (now : Moment) : (r : Request) → ServerAction r.Reply
  | .create a => create a
  | .get id tenant => loadFor now id tenant
  | .openOn tenant device => listed now (openKey tenant device) Alert.isOpen
  | .latestOf rule device => do
    let ids ← ServerAction.command (.members (pairKey rule device))
    liftM (newest? (← loadAll now ids))
  | .acknowledge id tenant who? notes? => do
    pure (← update now id tenant (fun a => a.status == .active)
      fun a => a.acknowledge who? notes? now).isSome
  | .resolve id tenant reason? => do
    match ← update now id tenant Alert.isOpen fun a => a.resolve reason? now with
    | none => pure false
    | some a =>
      close a
      pure true
  | .recordNotifications id tenant count => do
    let _ ← update now id tenant (fun _ => true) fun a => a.recordNotifications count now
  | .markEscalated id tenant at_ => do
    let _ ← update now id tenant (fun _ => true) fun a => a.escalate at_
  | .list tenant filter limit => do
    pure (upTo limit (← listed now (tenantKey tenant) filter.passes))
  | .ofRule tenant rule limit => do
    pure (upTo limit (← listed now (tenantKey tenant) fun a => a.rule == rule))
  | .statistics tenant => do
    let ids ← ServerAction.command (.members (tenantKey tenant))
    pure (Statistics.ofAlerts (← loadAll now ids))

end Indexed
end TelemetryAlerts
