import TelemetryAlerts.Config.File
import TelemetryAlerts.Rule.Reader

/-!
# Where rules come from

Rules are given as they are, or listed in a file. An entry of a file that is a record but
no valid rule is passed over.
-/

namespace TelemetryAlerts

namespace Rule

/-- The rules of a list of entries, without those that are not valid. -/
def ofItems : List Yaml.Value → Outcome (List Rule)
  | [] => .ok []
  | v :: rest => do
    let fields ← v.namedFields
    match Rule.ofEntries fields with
    | .ok r => do pure (r :: (← ofItems rest))
    | .bad _ => ofItems rest

/-- The rules listed in a document. -/
def listedIn (document : Yaml.Value) : Outcome (List Rule) := do
  let listed ← document.get "rules"
  if listed.isBlank then pure [] else ofItems (← listed.items)

end Rule

/-- A source of rules. -/
inductive RuleSource where
  | fixed (rules : List Rule)
  | file (f : ConfigFile)

namespace RuleSource

/-- All rules of a source. -/
def rules : RuleSource → Outcome (List Rule)
  | fixed rs => .ok rs
  | file f => do Rule.listedIn (← f.load)

/-- The rules of a tenant that are enabled. -/
def enabledOf (s : RuleSource) (tenant : String) : Outcome (List Rule) := do
  pure ((← s.rules).filter fun r => r.tenant == tenant && r.enabled)

end RuleSource
end TelemetryAlerts
