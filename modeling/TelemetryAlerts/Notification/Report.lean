import TelemetryAlerts.Notification.Plan
import TelemetryAlerts.Notification.Message
import TelemetryAlerts.Failure

/-!
# The outcome of a notification

Which channels an alert went through and which failed, told from what became of each
planned channel.
-/

namespace TelemetryAlerts

/-- The channels that delivered and those that failed, each in the order of the plan. -/
structure Report where
  delivered : List Channel := []
  failed : List Channel := []
deriving Repr, DecidableEq

namespace Report

/-- The number of channels tried. -/
def attempted (r : Report) : Nat :=
  r.delivered.length + r.failed.length

/-- Adds what became of one channel. -/
def add (r : Report) (c : Channel) (outcome : Outcome Unit) : Report :=
  match outcome with
  | .ok _ => { r with delivered := r.delivered ++ [c] }
  | .error _ => { r with failed := r.failed ++ [c] }

/-- The report on a plan whose channels had the given outcomes. -/
def ofOutcomes (outcomes : List (Channel × Outcome Unit)) : Report :=
  outcomes.foldl (fun r p => r.add p.1 p.2) {}

end Report

/-- A notice with its plan. -/
structure Dispatch where
  notice : Notice
  plan : Plan

namespace Dispatch

/-- The first notification of an alert. -/
def ofTrigger (a : Alert) (r : Rule) : Dispatch :=
  ⟨⟨a, r, .triggered⟩, r.plan⟩

/-- The message of an escalation: the rule's own, or one made from the alert's. -/
def escalationMessage (e : Escalation) (a : Alert) : String :=
  match e.message? with
  | some m => if m.isEmpty then "Escalation: " ++ a.message else m
  | none => "Escalation: " ++ a.message

/-- The notification of an escalation; without an escalation in the rule nobody is told. -/
def ofEscalation (a : Alert) (r : Rule) : Dispatch :=
  match r.escalation? with
  | some e => ⟨⟨{ a with message := escalationMessage e a }, r, .escalated⟩, e.plan⟩
  | none => ⟨⟨a, r, .escalated⟩, []⟩

/-- Sends through every planned channel in turn; each send acts on a state. -/
def sendAll {σ : Type} (send : Channel → List String → Notice → σ → Outcome Unit × σ)
    (n : Notice) : Plan → σ → List (Channel × Outcome Unit) × σ
  | [], s => ([], s)
  | (c, recipients) :: rest, s =>
    let (outcome, s) := send c recipients n s
    let (outcomes, s) := sendAll send n rest s
    ((c, outcome) :: outcomes, s)

/-- Carries out a dispatch. -/
def perform {σ : Type} (send : Channel → List String → Notice → σ → Outcome Unit × σ)
    (d : Dispatch) (s : σ) : Report × σ :=
  let (outcomes, s) := sendAll send d.notice d.plan s
  (Report.ofOutcomes outcomes, s)

end Dispatch
end TelemetryAlerts
