import DeferredJobs.Time.Bound
import DeferredJobs.Time.Rounding

/-!
# Bounds relative to a reading

`TimeBound.relativeText` says how far away a bound is in seconds, such as `in 1.500s` or
`2.000s ago`. The distance is measured in doubles: the nanoseconds as the nearest double, divided
by a billion with a double as the result, and written with three decimals.
-/

namespace DeferredJobs

/-- A number of nanoseconds in seconds, computed in doubles and written with three decimals. -/
def secondsText (nanos : Nat) : String :=
  let exact : Quotient := ⟨nanos, 1⟩
  let seconds := (exact.toDouble.dividedBy nanosPerSecond).toDouble
  seconds.textThreePlaces ++ "s"

/-- A bound as seen from `now`. -/
def TimeBound.relativeText (now : Nanos) : TimeBound → String
  | .never => "never"
  | .forever => "forever"
  | .upTo t =>
    let distance := t.toInt - now.toInt
    if 0 ≤ distance then "in " ++ secondsText distance.natAbs
    else secondsText distance.natAbs ++ " ago"

end DeferredJobs
