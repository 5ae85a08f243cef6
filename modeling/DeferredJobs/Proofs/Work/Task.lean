import DeferredJobs.Proofs.Job.Effects
import DeferredJobs.Work.Task
import Mathlib.Logic.Relation

/-!
# What tasks answer

A work item that is made of a task finds its result codes by `AttemptReport.classify`. Two of them
say something about the attempt itself: another attempt is asked for only below the limit
(`TaskWork.number_lt_of_tryAgain`), and a deadline is reported only if it ends the job
(`TaskWork.cancelOnDeadline_of_hitDeadline`).

What becomes of a task while it serves as a work item is described by `Task.Moves`: whatever the
work item is asked to do, its task moves by what tasks can do (`TaskWork.moves_on`).
-/

namespace DeferredJobs

/-! ### Reports -/

namespace AttemptReport

variable {r : AttemptReport}

theorem belowRetryLimit_of_tryAgain (h : r.classify = .tryAgain) : r.belowRetryLimit = true := by
  rw [classify] at h
  grind

theorem deadlineCancel_of_hitDeadline (h : r.classify = .hitDeadline) :
    r.deadlineCancel = true := by
  rw [classify] at h
  grind

end AttemptReport

/-! ### Tasks on the move -/

/-- `Task.Moves t u`: the task `t` does something, and then it is `u`. -/
inductive Task.Moves {τ : Type} [Task τ] : τ → τ → Prop
  | run (t : τ) (a : Attempt) : Moves t (Task.onRun t a).1
  | judged (t : τ) (failure : Failure) (attempt limit : UInt32) (scene : Scene) :
      Moves t (Task.shouldReRun t failure attempt limit scene).1
  | cancelled (t : τ) (reason : CancelReason) (failure : Option Failure) :
      Moves t (Task.onCancel t reason failure)
  | added (t : τ) (r : Record) : Moves t (Task.onAdded t r)

namespace TaskWork

variable {τ : Type} [Task τ] (w : TaskWork τ) (a : Attempt)

/-- **The code of an attempt** tells of success, or it is the code of a report, for the limit that
the task has after its body was run. -/
theorem code_run :
    let limit := Task.retryLimit (Task.onRun w.task a).1
    (w.run a).2.code = .success ∨
      ∃ scene final requested,
        (w.run a).2.code = ((judge a limit scene).report final requested).classify := by
  intro limit
  rw [run]
  dsimp only
  split
  · exact .inl rfl
  · split <;> exact .inr ⟨_, _, _, rfl⟩

variable {w a}

/-- Another attempt is asked for below the limit only. -/
theorem number_lt_of_tryAgain (h : (w.run a).2.code = .tryAgain) :
    a.number < Task.retryLimit (Task.onRun w.task a).1 := by
  obtain success | ⟨scene, final, requested, code⟩ := w.code_run a
  · rw [success] at h
    contradiction
  · exact of_decide_eq_true (AttemptReport.belowRetryLimit_of_tryAgain (code.symm.trans h))

/-- A deadline is reported only where it ends the job. -/
theorem cancelOnDeadline_of_hitDeadline (h : (w.run a).2.code = .hitDeadline) :
    a.cancelOnDeadline = true := by
  obtain success | ⟨scene, final, requested, code⟩ := w.code_run a
  · rw [success] at h
    contradiction
  · have ends : a.deadlineCancels scene = true :=
      AttemptReport.deadlineCancel_of_hitDeadline (code.symm.trans h)
    exact (Bool.and_eq_true_iff.mp ends).1

/-- An attempt runs the body of the task and may have it judge a failure. -/
theorem moves_run (w : TaskWork τ) (a : Attempt) :
    Relation.ReflTransGen Task.Moves w.task (w.run a).1.task := by
  have body : Relation.ReflTransGen Task.Moves w.task (Task.onRun w.task a).1 :=
    .single (.run w.task a)
  rw [run]
  dsimp only
  split
  · exact body
  · split
    · exact body.tail (.judged ..)
    · exact body

/-- **Any call** of the work item moves its task. -/
theorem moves_on (w : TaskWork τ) (c : Call) :
    Relation.ReflTransGen Task.Moves w.task (c.on w).task := by
  cases c with
  | run a outcome => exact w.moves_run a
  | onCancel reason failure => exact .single (.cancelled ..)
  | absorb r => exact .single (.added ..)
  | setPriority priority => exact .refl

end TaskWork

end DeferredJobs
