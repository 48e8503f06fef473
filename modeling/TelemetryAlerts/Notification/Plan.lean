import TelemetryAlerts.Notification.Recipients
import TelemetryAlerts.Rule.Basic

/-!
# The plan of a notification

Which channels an alert is sent through, and to whom: each listed channel once, in the
order of first listing, if it has a recipient or needs none.
-/

namespace TelemetryAlerts

/-- Channels with their recipients, in order. -/
abbrev Plan := List (Channel × List String)

namespace Plan

/-- Whether a channel can be used: in-app messages need no recipient. -/
def isUsable (c : Channel) (recipients : List String) : Bool :=
  c == .inApp || !(c.recipients recipients).isEmpty

/-- Adds a channel to a plan unless it is in it. -/
def addChannel (recipients : List String) (plan : Plan) (c : Channel) : Plan :=
  if plan.any (fun p => p.1 == c) || !isUsable c recipients then plan
  else plan ++ [(c, c.recipients recipients)]

/-- The plan for listed channel names and recipients. -/
def ofNames (names recipients : List String) : Plan :=
  (names.filterMap Channel.ofName?).foldl (addChannel recipients) []

end Plan

/-- The plan of a rule's first notification. -/
def Rule.plan (r : Rule) : Plan :=
  Plan.ofNames r.channels r.recipients

/-- The plan of an escalation. -/
def Escalation.plan (e : Escalation) : Plan :=
  Plan.ofNames e.channels e.recipients

end TelemetryAlerts
