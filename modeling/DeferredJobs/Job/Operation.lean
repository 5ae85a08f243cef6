import DeferredJobs.Job.Attempts

/-!
# Operations on jobs

Everything that can be done with a job once it is built, as data: `Job.perform` carries out an
`Operation` and returns its `Reply`, `Job.performAll` carries out a whole history, and
`Job.events` lists its replies.
-/

namespace DeferredJobs

/-- Something that can be done with a job. -/
inductive Operation where
  | setPriority (priority : Int32)
  | setRunCount (count : UInt32)
  | setCreatedAt (instant : Nanos)
  | setDelayUntil (bound : TimeBound)
  | setSession (session : SessionId)
  | assignInsertionOrder (order : Int64)
  /-- A mark through any handle of the status. -/
  | mark (m : Mark)
  | enforceDeadline (now : Nanos)
  | takeRetry
  | clearRetry
  | onCancel (reason : CancelReason)
  | cancelAsDuplicate
  /-- An attempt that starts at `now`. -/
  | run (now : Nanos)
  /-- The result of an attempt, applied while the clock reads `now`. -/
  | apply (code : ResultCode) (now : Nanos)
deriving DecidableEq

/-- The answer of an operation. -/
inductive Reply where
  | done
  | accepted (answer : Bool)
  | enforced (code : Option ResultCode)
  | taken (retry : Option RetryConstraint)
  | finished (code : ResultCode) (now : Nanos)
  | followUp (f : FollowUp)
deriving DecidableEq

namespace Job

variable {ω : Type} [Work ω]

/-- Carries out an operation. -/
def perform (job : Job ω) : Operation → Reply × Job ω
  | .setPriority priority => (.done, job.setPriority priority)
  | .setRunCount runCount => (.done, { job with runCount })
  | .setCreatedAt createdAt => (.done, { job with createdAt })
  | .setDelayUntil delayUntil => (.done, { job with delayUntil })
  | .setSession session => (.done, { job with session })
  | .assignInsertionOrder order =>
    let (answer, job) := job.assignInsertionOrder order
    (.accepted answer, job)
  | .mark m =>
    let (answer, job) := job.mark m
    (.accepted answer, job)
  | .enforceDeadline now =>
    let (code, job) := job.enforceDeadline now
    (.enforced code, job)
  | .takeRetry =>
    let (retry, job) := job.takeRetry
    (.taken retry, job)
  | .clearRetry => (.done, job.takeRetry.2)
  | .onCancel reason => (.done, job.onCancel reason)
  | .cancelAsDuplicate => (.done, job.cancelAsDuplicate)
  | .run now =>
    let (finished, job) := job.run now
    (.finished finished.code finished.now, job)
  | .apply code now =>
    let (followUp, job) := job.apply code now
    (.followUp followUp, job)

/-- What comes of operations that are carried out one after the other: each with its reply. -/
def events (job : Job ω) : List Operation → List (Operation × Reply)
  | [] => []
  | op :: ops => (op, (job.perform op).1) :: (job.perform op).2.events ops

/-- Carries out operations one after the other. -/
def performAll (job : Job ω) (ops : List Operation) : Job ω :=
  ops.foldl (fun job op => (job.perform op).2) job

end Job

end DeferredJobs
