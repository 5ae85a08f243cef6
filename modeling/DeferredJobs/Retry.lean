import DeferredJobs.Time.Timeout

/-!
# Retry constraints

What a failed attempt asks for: whether to try again, and what to change about the job first.
-/

namespace DeferredJobs

/-- New network requirements, sealed when the retry is applied. -/
structure NetworkRequirement where
  network : Timeout
  unmetered : Timeout
deriving DecidableEq

/-- Whether and how a job is tried again. -/
structure RetryConstraint where
  retry : Bool
  /-- How long to wait from the moment the retry is applied. -/
  newDelay : Option Duration := none
  newPriority : Option Int32 := none
  newNetwork : Option NetworkRequirement := none
deriving DecidableEq

namespace NetworkRequirement

/-- What is left of a requirement once its durations are stored in whole milliseconds. -/
def truncated (r : NetworkRequirement) : NetworkRequirement :=
  ⟨r.network.truncated, r.unmetered.truncated⟩

end NetworkRequirement

namespace RetryConstraint

/-- Try again at once, changing nothing. -/
def again : RetryConstraint := { retry := true }

/-- Give the job up. -/
def giveUp : RetryConstraint := { retry := false }

/-- `2 ^ (attempt - 1)`, or the largest 32-bit number where the power is out of range. -/
def backoffFactor (attempt : UInt32) : UInt32 :=
  if attempt ≤ 32 then UInt32.ofNat (Nat.pow 2 (attempt.toNat - 1)) else 0xFFFFFFFF

/-- Try again after a delay that doubles with each attempt. -/
def exponentialBackoff (attempt : UInt32) (initial : Duration) : RetryConstraint :=
  { again with newDelay := some (initial.scale (backoffFactor attempt)) }

def withDelay (r : RetryConstraint) (d : Duration) : RetryConstraint :=
  { r with newDelay := some d }

def withPriority (r : RetryConstraint) (priority : Int32) : RetryConstraint :=
  { r with newPriority := some priority }

def withNetwork (r : RetryConstraint) (n : NetworkRequirement) : RetryConstraint :=
  { r with newNetwork := some n }

/-- What is left of a constraint once its durations are stored in whole milliseconds. -/
def truncated (r : RetryConstraint) : RetryConstraint :=
  { r with newDelay := r.newDelay.map .truncated, newNetwork := r.newNetwork.map .truncated }

end RetryConstraint

end DeferredJobs
