import TelemetryAlerts.Proofs.Alert.Document
import TelemetryAlerts.Store.Indexed

/-!
# Answers of a store

What a caller is shown of the reply to a request: alerts as their documents, and failures
by their cause.

**Results.**
* `document_readBack`, `documents_readBack`: an alert that was read is shown as the alert
  that was stored.
-/

namespace TelemetryAlerts

/-- What is shown of the reply to a request. -/
inductive Answer where
  | failure (f : Failure)
  | done
  | flag (b : Bool)
  | document (text? : Option String)
  | documents (texts : List String)
  | counts (s : Statistics)
deriving DecidableEq

namespace Request

/-- What is shown of a reply. -/
def shown : (r : Request) → r.Reply → Answer
  | .create _, _ => .done
  | .get _ _, a? => .document (a?.map Indexed.documentText)
  | .openOn _ _, alerts => .documents (alerts.map Indexed.documentText)
  | .latestOf _ _, a? => .document (a?.map Indexed.documentText)
  | .acknowledge _ _ _ _, done => .flag done
  | .resolve _ _ _, done => .flag done
  | .recordNotifications _ _ _, _ => .done
  | .markEscalated _ _ _, _ => .done
  | .list _ _ _, alerts => .documents (alerts.map Indexed.documentText)
  | .ofRule _ _ _, alerts => .documents (alerts.map Indexed.documentText)
  | .statistics _, counts => .counts counts

/-- The answer to a request, whether it succeeds or fails. -/
def answer (r : Request) : Outcome r.Reply → Answer
  | .ok reply => r.shown reply
  | .error f => .failure f

/-- Outcomes that are shown alike are the same answer. -/
theorem answer_alike
    (r : Request)
    {o o' : Outcome r.Reply}
    (h : r.shown <$> o = r.shown <$> o') :
    r.answer o = r.answer o' := by
  cases o with
  | error e =>
      cases o' with
      | error e' =>
          exact congrArg Answer.failure (Except.error.inj h)
      | ok reply' =>
          cases h
  | ok reply =>
      cases o' with
      | error e' =>
          cases h
      | ok reply' =>
          exact Except.ok.inj h

end Request

namespace Indexed

/-- An alert that was read is shown as the alert that was stored. -/
theorem documentText_readBack
    {a : Alert}
    (h : a.namesDistinct = true) :
    documentText a.readBack = documentText a :=
  Alert.storedText_readBack h

theorem document_readBack
    {a? : Option Alert}
    (h : ∀ a ∈ a?, a.namesDistinct = true) :
    (a?.map Alert.readBack).map documentText = a?.map documentText := by
  cases a? with
  | none =>
      rfl
  | some a =>
      simp only [Option.map_some, documentText_readBack (h a rfl)]

theorem documents_readBack
    {alerts : List Alert}
    (h : ∀ a ∈ alerts, a.namesDistinct = true) :
    (alerts.map Alert.readBack).map documentText = alerts.map documentText := by
  rw [List.map_map]
  exact List.map_congr_left fun a ha => documentText_readBack (h a ha)

end Indexed
end TelemetryAlerts
