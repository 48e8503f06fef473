import TelemetryAlerts.Config.File

/-!
# Where devices come from

The tenants and the devices of each, with their types: given as a table, or listed in a
file.
-/

namespace TelemetryAlerts

/-- The devices of each tenant with their types. -/
abbrev DeviceTable := List (String × List (String × String))

/-- A source of tenants and devices. -/
inductive DeviceSource where
  | fixed (table : DeviceTable)
  | file (f : ConfigFile)

/-- Texts in rising order. -/
def rising (ss : List String) : List String :=
  ss.mergeSort fun a b => decide (a ≤ b)

namespace DeviceSource

/-- The tenants that a document lists. -/
def tenantsIn (document : Yaml.Value) : Outcome Yaml.Value := do
  let v ← document.get "tenants"
  pure (if v.isBlank then .map [] else v)

/-- All tenants, in rising order. -/
def tenants : DeviceSource → Outcome (List String)
  | fixed table => .ok (rising (table.map (·.1)))
  | file f => do
    let listed ← (← tenantsIn (← f.load)).items
    pure (rising (listed.map Yaml.Value.display))

/-- The id of a listed device, if the device is of a type. -/
def idIfOfType (deviceType : String) (device : Yaml.Value) : Outcome (Option String) := do
  let own ← device.get "device_type_id"
  if own.display = deviceType then
    match device with
    | .map entries =>
      match (Yaml.Value.textEntries entries).lookup "id" with
      | some id => pure (some id.display)
      | none => throw (.kind .noSuchKey)
    | _ => pure none
  else pure none

/-- The devices of a tenant that are of a type. -/
def ofType (tenant deviceType : String) : DeviceSource → Outcome (List String)
  | fixed table =>
    let devices := (table.lookup tenant).getD []
    .ok ((devices.filter fun p => p.2 == deviceType).map (·.1))
  | file f => do
    let entry ← (← tenantsIn (← f.load)).get tenant
    if entry.isBlank then pure []
    else
      let devices ← entry.get "devices"
      if devices.isBlank then pure []
      else
        let ids ← (← devices.items).mapM (idIfOfType deviceType)
        pure (ids.filterMap fun id? => id?)

end DeviceSource
end TelemetryAlerts
