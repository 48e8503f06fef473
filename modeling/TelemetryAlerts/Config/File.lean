import TelemetryAlerts.Config.Reader
import TelemetryAlerts.Yaml.Value

/-!
# Configuration files

What a configuration file holds. A file that is missing or empty counts as an empty
mapping.
-/

namespace TelemetryAlerts

/-- A configuration file as it is found under its path. -/
inductive ConfigFile where
  | missing
  | directory
  /-- A file whose content is known as a value. -/
  | value (v : Yaml.Value)
  | text (s : String)

namespace ConfigFile

/-- The content of a file. -/
def load : ConfigFile → Outcome Yaml.Value
  | missing => .ok (.map [])
  | directory => .error .directory
  | value v => .ok (if v.isBlank then .map [] else v)
  | text s => do
    let v ← Yaml.Value.read s
    pure (if v.isBlank then .map [] else v)

end ConfigFile

namespace Yaml.Value

/-- The fields of a record that is given by name; every name is a text. -/
def namedFields : Value → Outcome (List (String × Value))
  | map entries =>
    if hasTextKeys entries then .ok (textEntries entries) else .error (.kind .notIterable)
  | _ => .error (.kind .notIterable)

/-- The value under a text key of a mapping, null if there is none. -/
def get (key : String) : Value → Outcome Value
  | map entries => .ok (((textEntries entries).lookup key).getD null)
  | _ => .error (.kind .noSuchOperation)

/-- What a value gives item by item: a mapping its keys, a text its characters. -/
def items : Value → Outcome (List Value)
  | list vs => .ok vs
  | map entries => .ok (entries.map (·.1))
  | str s => .ok (s.toList.map fun c => str (String.ofList [c]))
  | _ => .error (.kind .notIterable)

end Yaml.Value

/-- The configuration in a file. -/
def Config.load (f : ConfigFile) : Outcome Config := do
  let fields ← (← f.load).namedFields
  (Config.ofEntries fields).orInvalid "AppConfig"

end TelemetryAlerts
