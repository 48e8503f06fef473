import TelemetryAlerts.Config.Reader
import TelemetryAlerts.Text.Case

/-!
# Settings

What the surroundings of the process decide: which store, which files, how much is
logged. A setting is taken from a variable whose name is matched in any case.
-/

namespace TelemetryAlerts

/-- The settings of a process. -/
structure Settings where
  storeUrl : String := "redis://localhost:6379"
  developing : Bool := true
  store : String := "memory"
  logLevel : String := "INFO"
  configPath : String := "../config/config.yaml"
  rulesPath : String := "../config/rules.yaml"
  devicesPath : String := "../config/devices.yaml"

namespace Settings

/-- What the names of all variables begin with. -/
def nameStart : String := "alertengine_"

/-- The value of a variable for a setting; of two that match, the later one counts. -/
def valueOf? (env : List (String × String)) (name : String) : Option String :=
  (env.reverse.find? fun p => Text.lower p.1 == nameStart ++ name).map (·.2)

/-- A setting that is a text. -/
private def textOr (env : List (String × String)) (name default : String) : Checked String :=
  .ok ((valueOf? env name).getD default)

/-- The settings that variables give. -/
def ofEnvironment (env : List (String × String)) : Checked Settings :=
  let d : Settings := {}
  Settings.mk
    <$> textOr env "redis_url" d.storeUrl
    <*> (match valueOf? env "dev_mode" with
      | some s => (Document.bool (Json.str s)).within (.field "dev_mode")
      | none => .ok d.developing)
    <*> textOr env "store" d.store
    <*> textOr env "log_level" d.logLevel
    <*> textOr env "config_path" d.configPath
    <*> textOr env "rules_path" d.rulesPath
    <*> textOr env "devices_path" d.devicesPath

/-- The settings as a document. -/
def toJson (s : Settings) : Json :=
  .obj [
    ("redis_url", .str s.storeUrl),
    ("dev_mode", .bool s.developing),
    ("store", .str s.store),
    ("log_level", .str s.logLevel),
    ("config_path", .str s.configPath),
    ("rules_path", .str s.rulesPath),
    ("devices_path", .str s.devicesPath)]

end Settings

/-- How a line of the log is laid out. -/
def logFormat : String := "%(asctime)s %(levelname)s [%(name)s] %(message)s"

/-- The number of a log level given by name in any case; unknown names mean the usual level.
Two words name parts of the log itself that are no levels. -/
def logLevel (name : String) : Outcome Int :=
  match Text.upper name with
  | "NOTSET" => .ok 0
  | "DEBUG" => .ok 10
  | "WARN" => .ok 30
  | "WARNING" => .ok 30
  | "ERROR" => .ok 40
  | "CRITICAL" => .ok 50
  | "FATAL" => .ok 50
  | "BASIC_FORMAT" => .error (.kind .unusableValue)
  | "_STYLES" => .error (.kind .notIterable)
  | _ => .ok 20

end TelemetryAlerts
