/-!
# Outcomes of an attempt

An attempt ends with a `ResultCode`. `AttemptReport.classify` finds the code of an attempt that
reports what happened, and `ResultCode.followUp` says what becomes of the job.
-/

namespace DeferredJobs

/-- How an attempt ended. -/
inductive ResultCode where
  | success
  /-- Failed with no attempts left. -/
  | failRunLimit
  /-- Failed after a request to cancel. -/
  | failForCancel
  /-- Failed and asked for another attempt. -/
  | tryAgain
  /-- Failed and declined another attempt. -/
  | failShouldReRun
  /-- Failed while another job with the same single-instance key was waiting. -/
  | failSingleId
  | hitDeadline
deriving DecidableEq

/-- Why a job was cancelled for good. -/
inductive CancelReason where
  | reachedRetryLimit
  | cancelledWhileRunning
  /-- Dropped before it ran, in favour of a queued job with the same single-instance key. -/
  | singleInstanceQueued
  | cancelledViaShouldReRun
  | singleInstanceWhileRunning
  | reachedDeadline
deriving DecidableEq

/-- What the dispatcher does with a job after an attempt. -/
inductive FollowUp where
  /-- The job is done and leaves the storage. -/
  | remove
  /-- The job is cancelled and leaves the storage. -/
  | cancel (reason : CancelReason)
  /-- The job goes back to the queue. -/
  | reschedule
  /-- The job runs again at once, whatever holds it back. -/
  | forceRun
deriving DecidableEq

namespace CancelReason

/-- The reason in words. -/
def text : CancelReason → String
  | reachedRetryLimit => "reached retry limit"
  | cancelledWhileRunning => "cancelled while running"
  | singleInstanceQueued => "single instance id queued"
  | cancelledViaShouldReRun => "cancelled via should-re-run"
  | singleInstanceWhileRunning => "single instance while running"
  | reachedDeadline => "reached deadline"

end CancelReason

namespace FollowUp

/-- Whether the job leaves the storage. -/
def isTerminal : FollowUp → Bool
  | remove | cancel _ => true
  | reschedule | forceRun => false

/-- The reason of a cancellation. -/
def reason? : FollowUp → Option CancelReason
  | cancel reason => some reason
  | _ => none

end FollowUp

namespace ResultCode

/-- Every code, in the order of their numbers. -/
def all : List ResultCode :=
  [success, failRunLimit, failForCancel, tryAgain, failShouldReRun, failSingleId, hitDeadline]

/-- The number that stands for a code. -/
def number : ResultCode → UInt8
  | success => 1
  | failRunLimit => 2
  | failForCancel => 3
  | tryAgain => 4
  | failShouldReRun => 5
  | failSingleId => 6
  | hitDeadline => 7

/-- The code that a number stands for. -/
def ofNumber? (n : UInt8) : Option ResultCode := all.find? (·.number == n)

/-- The name of a code. -/
def text : ResultCode → String
  | success => "SUCCESS"
  | failRunLimit => "FAIL_RUN_LIMIT"
  | failForCancel => "FAIL_FOR_CANCEL"
  | tryAgain => "TRY_AGAIN"
  | failShouldReRun => "FAIL_SHOULD_RE_RUN"
  | failSingleId => "FAIL_SINGLE_ID"
  | hitDeadline => "HIT_DEADLINE"

/-- What follows an attempt that ended with a code, by whether the deadline ends the job. -/
def followUp (cancelOnDeadline : Bool) : ResultCode → FollowUp
  | success => .remove
  | failRunLimit => .cancel .reachedRetryLimit
  | failForCancel => .cancel .cancelledWhileRunning
  | tryAgain => .reschedule
  | failShouldReRun => .cancel .cancelledViaShouldReRun
  | failSingleId => .cancel .singleInstanceWhileRunning
  | hitDeadline => if cancelOnDeadline then .cancel .reachedDeadline else .forceRun

end ResultCode

/-- What is known of an attempt once it is over. -/
structure AttemptReport where
  failed : Bool := false
  cancelled : Bool := false
  cancelledSingleId : Bool := false
  /-- The deadline had passed and ends the job. -/
  deadlineCancel : Bool := false
  /-- The number of the attempt was below the limit. -/
  belowRetryLimit : Bool := false
  /-- The job asked for another attempt. -/
  retryRequested : Bool := false

/-- The code of a finished attempt. A cancellation outranks everything but success. -/
def AttemptReport.classify (r : AttemptReport) : ResultCode :=
  if !r.failed then .success
  else if r.cancelledSingleId then .failSingleId
  else if r.cancelled then .failForCancel
  else if r.belowRetryLimit && !r.deadlineCancel && r.retryRequested then .tryAgain
  else if r.deadlineCancel then .hitDeadline
  else if r.belowRetryLimit then .failShouldReRun
  else .failRunLimit

end DeferredJobs
