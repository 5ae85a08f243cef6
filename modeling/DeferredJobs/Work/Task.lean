import DeferredJobs.Work

/-!
# Tasks

A `Task` is a body that succeeds or fails and, while attempts are left, decides whether it is to
be tried again. `TaskWork` makes a work item of it: it asks the task after a failure and finds the
result code.
-/

namespace DeferredJobs

/-- The number of attempts of a task that names none. -/
def defaultRetryLimit : UInt32 := 20

/-- The answer of a task, and what happened to the surroundings meanwhile. -/
structure TaskReply (α : Type) where
  answer : α
  changes : List Change := []

/-- What can be done with a task. Each function that returns a task returns it as it is
afterwards. -/
class Task (τ : Type) where
  /-- Runs the body: `none` is success. -/
  onRun : τ → Attempt → τ × TaskReply (Option Failure)
  /-- Decides about another attempt after a failure; it is told the number of the attempt and the
  limit. -/
  shouldReRun : τ → Failure → (attempt limit : UInt32) → Scene → τ × TaskReply RetryConstraint :=
    fun t _ _ _ _ => (t, { answer := .again })
  retryLimit : τ → UInt32 := fun _ => defaultRetryLimit
  onCancel : τ → CancelReason → Option Failure → τ := fun t _ _ => t
  onAdded : τ → Record → τ := fun t _ => t

/-- A task as a work item, with the priority that it learnt last. -/
structure TaskWork (τ : Type) where
  task : τ
  priority : Int32 := 0

namespace TaskWork

variable {τ : Type} [Task τ]

/-- The surroundings in which a failed task is judged, and the three answers that the judgement
rests on: whether attempts are left, whether the deadline ends the job, and whether the job is
cancelled. -/
structure Judgement where
  scene : Scene
  belowRetryLimit : Bool
  deadlineCancel : Bool
  cancelled : Bool

/-- The judgement of an attempt that failed in the surroundings `scene`. -/
def judge (a : Attempt) (limit : UInt32) (scene : Scene) : Judgement where
  scene
  belowRetryLimit := a.number < limit
  deadlineCancel := a.deadlineCancels scene
  cancelled := scene.status.cancelled

/-- Whether the task is asked about another attempt. -/
def Judgement.asks (j : Judgement) : Bool :=
  j.belowRetryLimit && !j.deadlineCancel && !j.cancelled

/-- The report of a failed attempt. The single-id flag is read at its end, after the task was
asked; the rest was read before. -/
def Judgement.report (j : Judgement) (final : Scene) (retryRequested : Bool) : AttemptReport where
  failed := true
  cancelled := j.cancelled
  cancelledSingleId := final.status.cancelledSingleId
  deadlineCancel := j.deadlineCancel
  belowRetryLimit := j.belowRetryLimit
  retryRequested

/-- Runs the body of a task, asks it about another attempt where it may have one, and finds the
result code. -/
def run (w : TaskWork τ) (a : Attempt) : TaskWork τ × Outcome :=
  let (task, body) := Task.onRun w.task a
  match body.answer with
  | none =>
    ({ w with task },
      { code := AttemptReport.classify {}, retry := a.retry, failure := none,
        changes := body.changes })
  | some failure =>
    let limit := Task.retryLimit task
    let j := judge a limit (a.scene.afterAll body.changes)
    if j.asks then
      let (task, reply) := Task.shouldReRun task failure a.number limit j.scene
      let final := j.scene.afterAll reply.changes
      ({ w with task },
        { code := (j.report final reply.answer.retry).classify, retry := some reply.answer,
          failure := some failure, changes := body.changes ++ reply.changes })
    else
      ({ w with task },
        { code := (j.report j.scene false).classify, retry := a.retry, failure := some failure,
          changes := body.changes })

instance : Work (TaskWork τ) where
  run := TaskWork.run
  onCancel w reason failure := { w with task := Task.onCancel w.task reason failure }
  absorb w record := { w with task := Task.onAdded w.task record, priority := record.priority }
  setPriority w priority := { w with priority }

end TaskWork

end DeferredJobs
