/-!
# Pages

The pages of the service, the paths under which they are found, and the method with which
each is asked.
-/

namespace TelemetryAlerts
namespace Service

/-- The pages about alerts. -/
inductive AlertPage where
  | list
  | statistics
  | openOn (device : String)
  | ofRule (rule : String)
  | one (id : String)
  | acknowledge (id : String)
  | resolve (id : String)
deriving Repr, DecidableEq

/-- The pages of the service. -/
inductive Page where
  | health
  | alerts (p : AlertPage)
  | config
  /-- Whether the telemetry service can be reached. -/
  | telemetryTest
  /-- Runs one cycle. -/
  | evaluate
deriving Repr, DecidableEq

namespace Page

/-- The method with which a page is asked. -/
def method : Page → String
  | alerts (.acknowledge _) => "POST"
  | alerts (.resolve _) => "POST"
  | evaluate => "POST"
  | _ => "GET"

/-- A page about what one segment of the path names; there has to be a name. -/
def named (page : String → AlertPage) (name : String) : Option Page :=
  if name.isEmpty then none else some (alerts (page name))

/-- The page under the segments of a path. -/
def ofSegments? : List String → Option Page
  | ["", "health"] => some health
  | ["", "api", "alerts"] => some (alerts .list)
  | ["", "api", "alerts", "statistics"] => some (alerts .statistics)
  | ["", "api", "alerts", "active", "device", device] => named .openOn device
  | ["", "api", "alerts", "by-rule", rule] => named .ofRule rule
  | ["", "api", "alert", id] => named .one id
  | ["", "api", "alert", id, "acknowledge"] => named .acknowledge id
  | ["", "api", "alert", id, "resolve"] => named .resolve id
  | ["", "api", "diagnostics", "config"] => some config
  | ["", "api", "diagnostics", "test", "query-api"] => some telemetryTest
  | ["", "api", "diagnostics", "evaluate"] => some evaluate
  | _ => none

/-- The page under exactly this path. -/
def at? (path : String) : Option Page :=
  ofSegments? (path.splitOn "/")

/-- The path without a line break at its end. -/
def withoutBreak (path : String) : String :=
  match path.toList.reverse with
  | '\n' :: rest => String.ofList rest.reverse
  | _ => path

/-- The page under a path. One line break at the end of the path is passed over unless it
belongs to a name. -/
def ofPath? (path : String) : Option Page :=
  (at? path).orElse fun _ => at? (withoutBreak path)

/-- The path without the slashes at its end. -/
def withoutSlashes (path : String) : String :=
  String.ofList (path.toList.reverse.dropWhile (· == '/')).reverse

end Page

/-- What is found under a method and a path. -/
inductive Place where
  | page (p : Page)
  | otherMethod
  /-- The path leads to a page but for the slashes at its end. -/
  | slashesMore
  | nothing
deriving Repr, DecidableEq

/-- Finds the place of a method and a path. -/
def Place.find (method path : String) : Place :=
  match Page.ofPath? path with
  | some p => if p.method = method then page p else otherMethod
  | none =>
    if path.endsWith "/" && (Page.ofPath? (Page.withoutSlashes path)).isSome then slashesMore
    else nothing

end Service
end TelemetryAlerts
