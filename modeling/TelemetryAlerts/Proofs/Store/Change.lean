import TelemetryAlerts.Proofs.Alert.Document
import TelemetryAlerts.Store.Request

/-!
# Changes of stored alerts

Four requests change a stored alert. All of them have one shape: an alert is looked up
for a tenant, and if a condition holds of it, it is stored again with some fields set.
What is true of all of them is part of the data.

**Results.**
* `Request.change?`: the change that a request asks for.
-/

namespace TelemetryAlerts

/-- A change of a tenant's alert. It keeps who the alert is about and when it was
triggered, opens no alert, and looks at no reading. -/
structure Change where
  id : String
  tenant : String
  /-- Whether the change is made. -/
  may : Alert → Bool
  apply : Alert → Alert
  id_apply : ∀ a, (apply a).id = a.id
  tenant_apply : ∀ a, (apply a).tenant = a.tenant
  rule_apply : ∀ a, (apply a).rule = a.rule
  device_apply : ∀ a, (apply a).device = a.device
  triggeredAt_apply : ∀ a, (apply a).triggeredAt = a.triggeredAt
  readings_apply : ∀ a, (apply a).readings = a.readings
  isOpen_of_apply : ∀ a, may a = true → (apply a).isOpen = true → a.isOpen = true
  may_readBack : ∀ a, may a.readBack = may a
  apply_readBack : ∀ a, apply a.readBack = (apply a).readBack

namespace Change

/-- Taking notice of an active alert. -/
def acknowledge
    (now : Moment) (id tenant : String) (who? notes? : Option String) : Change where
  id := id
  tenant := tenant
  may a := a.status == .active
  apply a := a.acknowledge who? notes? now
  id_apply _ := rfl
  tenant_apply _ := rfl
  rule_apply _ := rfl
  device_apply _ := rfl
  triggeredAt_apply _ := rfl
  readings_apply _ := rfl
  isOpen_of_apply a hmay _ := by
    simp [Alert.isOpen, eq_of_beq hmay, Status.isOpen]
  may_readBack _ := rfl
  apply_readBack _ := rfl

theorem isOpen_acknowledge
    (now : Moment) (id tenant : String) (who? notes? : Option String)
    (a : Alert)
    (hmay : (acknowledge now id tenant who? notes?).may a = true) :
    ((acknowledge now id tenant who? notes?).apply a).isOpen = a.isOpen := by
  have hstatus : a.status = .active := eq_of_beq hmay
  simp [acknowledge, Alert.acknowledge, Alert.isOpen, hstatus, Status.isOpen]

/-- The end of an open alert. -/
def resolve
    (now : Moment) (id tenant : String) (reason? : Option String) : Change where
  id := id
  tenant := tenant
  may := Alert.isOpen
  apply a := a.resolve reason? now
  id_apply _ := rfl
  tenant_apply _ := rfl
  rule_apply _ := rfl
  device_apply _ := rfl
  triggeredAt_apply _ := rfl
  readings_apply _ := rfl
  isOpen_of_apply _ hmay _ := hmay
  may_readBack _ := rfl
  apply_readBack _ := rfl

/-- Notifications have been delivered. -/
def recordNotifications
    (now : Moment) (id tenant : String) (count : Int) : Change where
  id := id
  tenant := tenant
  may _ := true
  apply a := a.recordNotifications count now
  id_apply _ := rfl
  tenant_apply _ := rfl
  rule_apply _ := rfl
  device_apply _ := rfl
  triggeredAt_apply _ := rfl
  readings_apply _ := rfl
  isOpen_of_apply _ _ hopen := hopen
  may_readBack _ := rfl
  apply_readBack _ := rfl

/-- One more escalation. -/
def markEscalated
    (id tenant : String) (at_ : Moment) : Change where
  id := id
  tenant := tenant
  may _ := true
  apply a := a.escalate at_
  id_apply _ := rfl
  tenant_apply _ := rfl
  rule_apply _ := rfl
  device_apply _ := rfl
  triggeredAt_apply _ := rfl
  readings_apply _ := rfl
  isOpen_of_apply _ _ hopen := hopen
  may_readBack _ := rfl
  apply_readBack _ := rfl

end Change

/-- What no change of an alert touches. -/
def Alert.origin (a : Alert) : String × String × String × String × Moment :=
  (a.id, a.tenant, a.rule, a.device, a.triggeredAt)

theorem Alert.origin_eq_iff
    {a b : Alert} :
    a.origin = b.origin ↔
      a.id = b.id ∧ a.tenant = b.tenant ∧ a.rule = b.rule ∧ a.device = b.device ∧
        a.triggeredAt = b.triggeredAt := by
  simp only [origin, Prod.mk.injEq]

theorem Change.origin_apply
    (c : Change) (a : Alert) :
    (c.apply a).origin = a.origin :=
  Alert.origin_eq_iff.mpr ⟨c.id_apply a, c.tenant_apply a, c.rule_apply a, c.device_apply a,
    c.triggeredAt_apply a⟩

/-- The change that a request asks for; requests that store a new alert or only read ask
for none. -/
def Request.change? (now : Moment) : Request → Option Change
  | .acknowledge id tenant who? notes? => some (.acknowledge now id tenant who? notes?)
  | .resolve id tenant reason? => some (.resolve now id tenant reason?)
  | .recordNotifications id tenant count => some (.recordNotifications now id tenant count)
  | .markEscalated id tenant at_ => some (.markEscalated id tenant at_)
  | _ => none

/-- A request served at a moment, with the failures planned for the commands of its
store. -/
structure Turn where
  now : Moment
  request : Request
  faults : List (Option Failure) := []

/-- An alert as it is raised: nothing has happened to it yet. -/
def Alert.raised (id tenant rule device : String) (at_ : Moment) : Alert where
  id := id
  tenant := tenant
  rule := rule
  device := device
  status := .active
  severity := .warning
  message := ""
  details := ""
  readings := []
  triggeredAt := at_
  updatedAt := at_
  acknowledgedAt? := none
  acknowledgedBy? := none
  acknowledgmentNotes? := none
  resolvedAt? := none
  resolutionNotes? := none
  notifications := 0
  escalations := 0
  lastEscalatedAt? := none

end TelemetryAlerts
