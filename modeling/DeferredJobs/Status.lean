/-!
# Job status

The flags of a job that others may set while it runs: cancelled, cancelled in favour of another
job with the same single-instance key, and successful. Three marks set them, and each answers
whether it took effect.

* A cancelled job stays cancelled and refuses success.
* A successful job stays successful and refuses cancellation.
-/

namespace DeferredJobs

/-- Where a job stands in its life, as far as its flags tell. -/
inductive JobState where
  | pending
  | cancelled (singleId : Bool)
  | successful
deriving DecidableEq

/-- The name of a state in a report. -/
def JobState.text : JobState → String
  | pending => "pending"
  | cancelled false => "cancelled"
  | cancelled true => "cancelled-single-id"
  | successful => "successful"

/-- The flags of a job. -/
structure Status where
  cancelled : Bool := false
  cancelledSingleId : Bool := false
  successful : Bool := false
deriving DecidableEq, Inhabited

/-- A request to change the flags of a job. -/
inductive Mark where
  | cancelled
  | cancelledSingleId
  | successful
deriving DecidableEq

namespace Status

/-- The status of a job that is pending. -/
def fresh : Status := {}

/-- The status with the given flags; a job is not both cancelled and successful. The single-id
flag implies the cancelled one. -/
def ofFlags? (cancelled cancelledSingleId successful : Bool) : Option Status :=
  let cancelled := cancelled || cancelledSingleId
  if cancelled && successful then none
  else some { cancelled, cancelledSingleId, successful }

/-- Cancels the job unless it succeeded. Answers whether this call cancelled it. -/
def markCancelled (s : Status) : Bool × Status :=
  if s.successful then (false, s) else (!s.cancelled, { s with cancelled := true })

/-- Cancels the job in favour of another one, unless it succeeded. Answers whether this call
cancelled it; a job cancelled before gains the single-id flag all the same. -/
def markCancelledSingleId (s : Status) : Bool × Status :=
  if s.successful then (false, s)
  else (!s.cancelled, { s with cancelled := true, cancelledSingleId := true })

/-- Records success unless the job is cancelled. Answers whether the job is successful. -/
def markSuccessful (s : Status) : Bool × Status :=
  if s.cancelled then (false, s) else (true, { s with successful := true })

/-- Carries out a mark. -/
def mark (s : Status) : Mark → Bool × Status
  | .cancelled => s.markCancelled
  | .cancelledSingleId => s.markCancelledSingleId
  | .successful => s.markSuccessful

/-- The state that the flags amount to. -/
def state (s : Status) : JobState :=
  if s.successful then .successful
  else if s.cancelled then .cancelled s.cancelledSingleId
  else .pending

end Status

end DeferredJobs
