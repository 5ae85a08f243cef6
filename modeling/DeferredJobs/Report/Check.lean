import DeferredJobs.Encoding.Layout
import DeferredJobs.Time.Relative

/-!
# Checking stored jobs

`check` says of each stored record whether its job may run at an instant, without building the
job. Records are not validated.
-/

namespace DeferredJobs

open Encoding

/-- What is reported of a stored job. -/
structure Verdict where
  id : String
  state : JobState
  eligibility : Eligibility
  /-- When the eligibility may next change by itself, as seen from the instant of the check. -/
  nextWake : Option String
deriving DecidableEq

/-- Whether the job that a record describes may run at `now`. -/
def Record.eligibility (r : Record) (now : Nanos) (network : Connectivity) : Eligibility :=
  match r.state with
  | .pending => r.constraints.evaluate false now network
  | .cancelled _ => .cancelled
  | .successful => .completed

/-- The verdict on a record. -/
def Record.verdict (now : Nanos) (network : Connectivity) (r : Record) : Verdict where
  id := r.id
  state := r.state
  eligibility := r.eligibility now network
  nextWake := (r.constraints.nextWake now).map fun t => (TimeBound.upTo t).relativeText now

/-- The verdicts on all records, in order. -/
def check (records : List Record) (now : Nanos) (network : Connectivity) : List Verdict :=
  records.map (Record.verdict now network)

/-- A verdict as it is reported. -/
def Verdict.encode (v : Verdict) : Tree := .fields
  [("id", Encoding.encode v.id),
    ("state", encodeState v.state),
    ("eligibility", Encoding.encode v.eligibility),
    ("next_wake", Encoding.encode v.nextWake)]

end DeferredJobs
