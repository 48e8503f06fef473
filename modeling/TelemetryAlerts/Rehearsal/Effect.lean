import TelemetryAlerts.Json.Writer
import TelemetryAlerts.Json.Reader
import TelemetryAlerts.Notification.Transport
import TelemetryAlerts.Telemetry.Query

/-!
# The record of a rehearsal

What was sent and asked during a rehearsal, each effect as a document.
-/

namespace TelemetryAlerts
namespace Rehearsal

/-- A notice that reached a scripted sender. -/
structure Sent where
  sender : String
  notice : Notice
  recipients : List String

/-- A notice to a scripted sender as a document. -/
def Sent.toJson (s : Sent) : Json :=
  .obj [
    ("channel", .str s.sender),
    ("event", .str s.notice.event.name),
    ("alert_id", .str s.notice.alert.id),
    ("message", .str s.notice.alert.message),
    ("rule_id", .str s.notice.rule.id),
    ("recipients", .ofTexts s.recipients)]

/-- An effect on the outside. -/
inductive Effect where
  | mail (m : Mail)
  | post (url : String) (document : Json)
  | wait (seconds : Float)
  | signIn (account token : String)
  | text (m : TextMessage)
  | publish (channel text : String)
  | get (url : String) (tenant? : Option String)

/-- A part of an email as a document. -/
def partJson (p : MailPart) : Json :=
  .obj [
    ("type", .str p.format.contentType),
    ("charset", .str p.charset),
    ("encoding", .str p.transferEncoding),
    ("text", .str p.text)]

/-- An email as a document. -/
def mailJson (m : Mail) : Json :=
  .obj [
    ("message", .obj [
      ("type", .str "multipart/alternative"),
      ("subject", .str m.subject),
      ("from", .str m.sender),
      ("to", .str (", ".intercalate m.recipients)),
      ("parts", .arr (m.parts.map partJson))]),
    ("args", .obj [
      ("recipients", .ofTexts m.recipients),
      ("hostname", .str m.server),
      ("port", .int m.port),
      ("username", .ofText? m.username?),
      ("password", .ofText? m.password?),
      ("use_tls", .bool m.useTls),
      ("start_tls", .bool m.startTls)])]

/-- A text message as a document. -/
def textJson (m : TextMessage) : Json :=
  .obj [("to", .str m.recipient), ("from", .str m.sender), ("body", .str m.body)]

/-- A request to the query service as a document. -/
def getJson (url : String) (tenant? : Option String) : Json :=
  .obj ([("method", .str "GET"), ("url", .str url)] ++
    (tenant?.map fun t => ("tenant", Json.str t)).toList)

/-- A call of a web hook as a document. -/
def postJson (url : String) (document : Json) : Json :=
  .obj [("method", .str "POST"), ("url", .str url), ("json", document)]

/-- A published message as a document. -/
def publishJson (channel text : String) : Json :=
  .obj [("publish", .str channel), ("message", ((Json.read text).toOption).getD .null)]

/-- The effects of one kind, in order. -/
def effectsOf (pick : Effect → Option Json) (effects : List Effect) : List Json :=
  effects.filterMap pick

/-- The emails among effects. -/
def mails : List Effect → List Json :=
  effectsOf fun
    | .mail m => some (mailJson m)
    | _ => none

/-- The text messages among effects. -/
def texts : List Effect → List Json :=
  effectsOf fun
    | .text m => some (textJson m)
    | _ => none

/-- The published messages among effects. -/
def publications : List Effect → List Json :=
  effectsOf fun
    | .publish channel text => some (publishJson channel text)
    | _ => none

/-- The requests to the query service among effects. -/
def gets : List Effect → List Json :=
  effectsOf fun
    | .get url tenant? => some (getJson url tenant?)
    | _ => none

/-- The calls of web hooks among effects, by address. -/
def posts (effects : List Effect) : List (String × Json) :=
  let calls := effects.filterMap fun
    | .post url document => some (url, document)
    | _ => none
  calls.mergeSort fun a b => decide (a.1 ≤ b.1)

/-- All effects as a document, by kind; kinds without effects are left out. -/
def effectsJson (effects : List Effect) : Json :=
  .obj ([
    ("email", mails effects),
    ("sms", texts effects),
    ("inapp", publications effects),
    ("POST", (posts effects).map fun p => postJson p.1 p.2),
    ("GET", gets effects)].filterMap fun p =>
      if p.2.isEmpty then none else some (p.1, .arr p.2))

end Rehearsal
end TelemetryAlerts
