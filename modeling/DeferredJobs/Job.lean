import DeferredJobs.Work

/-!
# Jobs

A `Job` is a unit of deferred work as a queue sees it: its profile, its flags, the work item, and
what is remembered of its attempts. Jobs are identified by their id alone.

The operations here change one thing each; `Job.Attempts` runs attempts and applies their results,
and `Job.Operation` collects all operations.
-/

namespace DeferredJobs

/-- A job with a work item of type `ω`. -/
structure Job (ω : Type) extends Profile where
  status : Status := .fresh
  /-- The failure of the last attempt that failed, in this run of the program. -/
  lastFailure : Option Failure := none
  /-- Whether the work item has learnt that the job is cancelled for good. -/
  cancelNotified : Bool := false
  work : ω

namespace Job

variable {ω : Type}

/-! ### Views -/

/-- What is stored of a job. -/
def toRecord (job : Job ω) : Record :=
  { job.toProfile with
    cancelled := job.status.cancelled
    cancelledSingleId := job.status.cancelledSingleId
    successful := job.status.successful }

/-- The state that the flags of a job amount to. -/
def state (job : Job ω) : JobState := job.status.state

/-- Whether a job may run at `now`. -/
def eligibility (job : Job ω) (now : Nanos) (network : Connectivity) : Eligibility :=
  if job.status.successful then .completed
  else job.constraints.evaluate job.status.cancelled now network

/-- When the eligibility of a job may next change while the connectivity stays the same. -/
def nextWake (job : Job ω) (now : Nanos) : Option Nanos := job.constraints.nextWake now

/-- Jobs are the same if their ids are. -/
instance : BEq (Job ω) := ⟨fun a b => a.id == b.id⟩

instance : Hashable (Job ω) := ⟨fun job => hash job.id⟩

/-! ### Simple changes -/

/-- Gives a job its place in the queue, unless it has one. Answers whether it took effect. -/
def assignInsertionOrder (job : Job ω) (order : Int64) : Bool × Job ω :=
  if job.insertionOrder.isSome then (false, job)
  else (true, { job with insertionOrder := some order })

/-- Carries out a mark. -/
def mark (job : Job ω) (m : Mark) : Bool × Job ω :=
  let (answer, status) := job.status.mark m
  (answer, { job with status })

/-- Cancels a job whose deadline has passed and ends it. Answers with the code to apply, if this
call cancelled the job. -/
def enforceDeadline (job : Job ω) (now : Nanos) : Option ResultCode × Job ω :=
  if !job.cancelOnDeadline || job.deadline.isPending now then (none, job)
  else
    let (flipped, status) := job.status.markCancelled
    if flipped then (some .hitDeadline, { job with status }) else (none, job)

/-- Takes the retry constraint away. -/
def takeRetry (job : Job ω) : Option RetryConstraint × Job ω :=
  (job.retry, { job with retry := none })

variable [Work ω]

/-- Changes the priority of a job, which its work item learns. -/
def setPriority (job : Job ω) (priority : Int32) : Job ω :=
  { job with priority, work := Work.setPriority job.work priority }

/-- Tells the work item that the job is cancelled for good; only the first call does. -/
def onCancel (job : Job ω) (reason : CancelReason) : Job ω :=
  if job.cancelNotified then job
  else
    { job with cancelNotified := true, work := Work.onCancel job.work reason job.lastFailure }

/-- Drops a job in favour of a queued one with the same single-instance key. -/
def cancelAsDuplicate (job : Job ω) : Job ω :=
  (job.mark .cancelledSingleId).2.onCancel .singleInstanceQueued

end Job

end DeferredJobs
