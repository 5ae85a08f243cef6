import DeferredJobs.Job

/-!
# Attempts and their results

`Job.run` makes one attempt and keeps what it leaves: a retry constraint and a failure.
`Job.apply` carries out the job's part of what follows a result code and answers with what is left
for the dispatcher. A cancellation that arrives before a success is recorded wins.

Logging is left out, and with it the label of an attempt in the log: this is the count plus one
without the cap of `Job.nextCount`, so that there is none at the largest count. It is worked out
only where somebody listens, and no result depends on it.
-/

namespace DeferredJobs.Job

variable {ω : Type} [Work ω]

/-- One more, or the largest 32-bit number. -/
def nextCount (n : UInt32) : UInt32 := if n < 0xFFFFFFFF then n + 1 else n

/-- The next attempt of a job as it would start at `now`. -/
def nextAttempt (job : Job ω) (now : Nanos) : Attempt where
  number := nextCount job.runCount
  deadline := job.deadline
  cancelOnDeadline := job.cancelOnDeadline
  scene := { now, status := job.status }

/-- How an attempt ended: its code, and the reading of the clock afterwards. -/
structure Finished where
  code : ResultCode
  now : Nanos

/-- Makes one attempt, which starts at `now`. A retry constraint that stands from before is
dropped; a failure replaces the last one. -/
def run (job : Job ω) (now : Nanos) : Finished × Job ω :=
  let attempt := job.nextAttempt now
  let (work, outcome) := Work.run job.work attempt
  let final := attempt.scene.afterAll outcome.changes
  ({ code := outcome.code, now := final.now },
    { job with
      work
      status := final.status
      retry := outcome.retry
      lastFailure := outcome.failure.or job.lastFailure })

/-- Changes a job as a retry constraint asks. Delay and network windows count from `now`. -/
def applyRetry (job : Job ω) (r : RetryConstraint) (now : Nanos) : Job ω :=
  let job := match r.newDelay with
    | some d => { job with delayUntil := .upTo (offset now d) }
    | none => job
  let job := match r.newPriority with
    | some priority => job.setPriority priority
    | none => job
  match r.newNetwork with
  | some n => { job with windows := .sealedAt now n.network n.unmetered }
  | none => job

/-- What follows a code, and the job with its success recorded where the code asks for it. A job
that is cancelled by then is cancelled after all. -/
def settle (job : Job ω) (code : ResultCode) : FollowUp × Job ω :=
  match code.followUp job.cancelOnDeadline with
  | .remove =>
    let (recorded, job) := job.mark .successful
    (if recorded then .remove else .cancel .cancelledWhileRunning, job)
  | followUp => (followUp, job)

/-- Carries out the job's part of what follows `code`. The clock reads `now`. -/
def apply (job : Job ω) (code : ResultCode) (now : Nanos) : FollowUp × Job ω :=
  let (followUp, job) := job.settle code
  let pending := job.retry
  let job := { job with retry := none }
  (followUp,
    match followUp with
    | .remove => job
    | .cancel reason => (job.mark .cancelled).2.onCancel reason
    | .reschedule =>
      let job := { job with runCount := nextCount job.runCount }
      match pending with
      | some r => job.applyRetry r now
      | none => job
    | .forceRun => { job with runCount := nextCount job.runCount })

end DeferredJobs.Job
