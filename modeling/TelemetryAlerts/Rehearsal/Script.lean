import TelemetryAlerts.Worker.Call
import TelemetryAlerts.Web.Exchange

/-!
# Scripts of a rehearsal

What the services around a worker are to do in a rehearsal: which calls fail and how, what
web addresses reply, and how senders behave.
-/

namespace TelemetryAlerts
namespace Rehearsal

/-- The calls that can be made to fail. -/
inductive Target where
  | tenants
  | enabledRules
  | devicesOfType
  | telemetry
  | create
  | get
  | openOn
  | latestOf
  | acknowledge
  | resolve
  | recordNotifications
  | markEscalated
  | list
  | ofRule
  | statistics
deriving Repr, DecidableEq

/-- The target that a request is. -/
def targetOfRequest : Request → Target × List Json
  | .create _ => (.create, [])
  | .get id tenant => (.get, [.str id, .str tenant])
  | .openOn tenant device => (.openOn, [.str tenant, .str device])
  | .latestOf rule device => (.latestOf, [.str rule, .str device])
  | .acknowledge id tenant who? notes? =>
    (.acknowledge, [.str id, .str tenant, .ofText? who?, .ofText? notes?])
  | .resolve id tenant reason? => (.resolve, [.str id, .str tenant, .ofText? reason?])
  | .recordNotifications id tenant count =>
    (.recordNotifications, [.str id, .str tenant, .int count])
  | .markEscalated id tenant _ => (.markEscalated, [.str id, .str tenant])
  | .list tenant _ _ => (.list, [.str tenant])
  | .ofRule tenant rule _ => (.ofRule, [.str tenant, .str rule])
  | .statistics tenant => (.statistics, [.str tenant])

/-- How a call fails. -/
inductive FaultMode where
  | error
  /-- The call never returns. -/
  | hang
  /-- The call returns false whatever it should return. -/
  | refuse
deriving Repr, DecidableEq

/-- A failure that is put in on purpose. -/
structure Fault where
  target : Target
  mode : FaultMode
  /-- Only calls with this argument fail. -/
  argument? : Option Json := none
  /-- How many calls still fail; all if there is no number. -/
  left? : Option Int := none

namespace Fault

/-- Whether two values without parts are the same argument. -/
def sameArgument : Json → Json → Bool
  | .str s, .str t => s == t
  | .int m, .int n => m == n
  | .null, .null => true
  | _, _ => false

/-- Whether a fault hits a call. -/
def hits (f : Fault) (target : Target) (arguments : List Json) : Bool :=
  f.target = target && f.left?.all (0 < ·) &&
    f.argument?.all fun a => arguments.any (sameArgument a)

/-- The fault after it has hit a call. -/
def used (f : Fault) : Fault :=
  { f with left? := f.left?.map (· - 1) }

/-- The way in which a call is made to fail, if it is, and the faults after it. -/
def strike (target : Target) (arguments : List Json) :
    List Fault → Option FaultMode × List Fault
  | [] => (none, [])
  | f :: rest =>
    if f.hits target arguments then (some f.mode, f.used :: rest)
    else
      let (mode?, rest) := strike target arguments rest
      (mode?, f :: rest)

end Fault

/-- What a web address does when it is asked. -/
inductive WebAnswer where
  | reply (r : Web.Reply)
  | fault (name : String)

/-- Scripted web addresses: what each answers, one answer per request, the last one
repeating; and how often each has been asked. -/
structure WebScript where
  answers : List (String × List WebAnswer) := []
  asked : List (String × Nat) := []

namespace WebScript

/-- The answers of an address: its own, those for all, or a plain success. -/
def answersOf (w : WebScript) (url : String) : List WebAnswer :=
  match w.answers.lookup url with
  | some as => as
  | none => (w.answers.lookup "*").getD []

/-- The next answer of an address. -/
def next (w : WebScript) (url : String) : WebAnswer × WebScript :=
  let count := (w.asked.lookup url).getD 0
  let as := w.answersOf url
  let answer := (as[count]?.orElse fun _ => as.getLast?).getD (.reply ⟨200, []⟩)
  (answer, { w with asked := Json.insertField url (count + 1) w.asked })

/-- What becomes of a request to an address. -/
def ask (w : WebScript) (a : Web.Address) : Outcome Web.Reply × WebScript :=
  let (answer, w) := w.next a.text
  match answer with
  | .fault name => (.error (.request name), w)
  | .reply r => (if a.namesProtocol then .ok r else .error .namelessProtocol, w)

end WebScript

/-- How a sender behaves. -/
inductive Sender where
  /-- Takes every notice. -/
  | accepting
  | failing
  | timingOut
  | hanging
  /-- Delivers through a channel as it is configured. -/
  | real (c : Channel)
deriving Repr, DecidableEq

end Rehearsal
end TelemetryAlerts
