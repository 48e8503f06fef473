import TelemetryAlerts.Number.Rounding
import TelemetryAlerts.Time.Moment

/-!
# Spans of seconds

A float number of seconds as whole microseconds, and moments that lie such a span apart.
-/

namespace TelemetryAlerts

/-- A finite number of seconds in microseconds. The fraction is scaled as a float, and a
half goes to the even neighbour. -/
def microsOfSeconds? (seconds : Float) : Option Int :=
  (Number.parts? seconds).bind fun p =>
    let (n, d) := p.ratio
    let whole := n / d * 1000000
    let scaled := Number.ofRatio false (n % d * 1000000) d
    (Number.parts? scaled).map fun q =>
      let (m, e) := q.ratio
      -- the whole part is an even number of microseconds
      let micros : Int := (whole + Number.roundHalfEven m e : Nat)
      if p.negative then -micros else micros

/-- The moment a number of seconds later; the same moment if there is none. -/
def Moment.addSeconds (t : Moment) (seconds : Float) : Moment :=
  ((microsOfSeconds? seconds).bind t.add?).getD t

end TelemetryAlerts
