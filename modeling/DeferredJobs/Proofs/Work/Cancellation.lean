import DeferredJobs.Proofs.Job.Agreement
import DeferredJobs.Proofs.Job.Evolution
import DeferredJobs.Proofs.Work.Judgement

/-!
# Cancellations in the course of an attempt

A cancellation outranks everything but success: if the body of a task fails and the job is
cancelled, this is what the code of the attempt is to tell. The flags are read at two moments. The
cancelled one is read once the body has failed, and the single-id one at the end; in between, the
task may be asked about another attempt, and it may take its time.

* **The window** (`TaskWork.asks_of_cancelledLate`): a cancellation that comes between the two
  moments comes while the task is asked, so that an attempt is left and no deadline ends the job.
* **The marks** (`TaskWork.marks_of_cancelledLate`): the first thing that is marked then is the
  cancellation, and no other job takes the place of this one.

Such a cancellation is missed, and the answer of the task makes the code.
`TaskWork.code_of_cancelled` puts this together.
-/

namespace DeferredJobs

namespace TaskWork

variable {τ : Type} [Task τ] {w : TaskWork τ} {a : Attempt} {failure : Failure}

/-- The job is pending when the body has failed, and cancelled at the end of the attempt, but not
in favour of another job. -/
def CancelledLate (w : TaskWork τ) (a : Attempt) : Prop :=
  (w.judgement a).scene.status.state = .pending ∧
    (a.scene.afterAll (w.run a).2.changes).status.state = .cancelled false

/-! ### The window -/

/-- Nothing happens between the two moments unless the task is asked. -/
theorem asks_of_cancelledLate (failed : (Task.onRun w.task a).2.answer = some failure)
    (late : w.CancelledLate a) : (w.judgement a).asks = true := by
  refine Bool.of_not_eq_false fun unasked => ?_
  obtain ⟨pending, cancelled⟩ := late
  obtain ⟨-, -, changes⟩ := w.effects_of_unasked a failed unasked
  have same : (w.judgement a).scene.status.state = .cancelled false := by
    rw [changes] at cancelled
    exact cancelled
  rw [pending] at same
  contradiction

/-- The flags move by marks from the first moment to the second. -/
theorem exists_trace_judgement (failed : (Task.onRun w.task a).2.answer = some failure) :
    ∃ marks, (w.judgement a).scene.status.Trace marks
      (a.scene.afterAll (w.run a).2.changes).status := by
  cases asks : (w.judgement a).asks with
  | true =>
    obtain ⟨-, -, changes⟩ := w.effects_of_asked a failed asks
    rw [changes, Scene.afterAll_append]
    exact Scene.trace_afterAll _ _
  | false =>
    obtain ⟨-, -, changes⟩ := w.effects_of_unasked a failed asks
    rw [changes]
    exact ⟨[], .done _⟩

theorem coherent_judgement (h : a.scene.status.Coherent) :
    (w.judgement a).scene.status.Coherent := by
  obtain ⟨_, trace⟩ := a.scene.trace_afterAll (Task.onRun w.task a).2.changes
  exact trace.coherent h

/-- What is marked while the task is asked. -/
theorem marks_of_cancelledLate (h : a.scene.status.Coherent)
    (failed : (Task.onRun w.task a).2.answer = some failure) (late : w.CancelledLate a) :
    let marks := (w.reply a failure).2.changes.filterMap Change.mark?
    marks.head? = some .cancelled ∧ .cancelledSingleId ∉ marks := by
  obtain ⟨-, -, changes⟩ := w.effects_of_asked a failed (asks_of_cancelledLate failed late)
  obtain ⟨pending, cancelled⟩ := late
  rw [changes, Scene.afterAll_append, Scene.status_afterAll] at cancelled
  exact (coherent_judgement h).marks_of_cancelled pending cancelled

/-- A job that is cancelled at the end is seen to be, unless that happened too late. -/
theorem seen_or_cancelledLate (h : a.scene.status.Coherent)
    (failed : (Task.onRun w.task a).2.answer = some failure)
    (cancelled : (a.scene.afterAll (w.run a).2.changes).status.cancelled = true) :
    ((a.scene.afterAll (w.run a).2.changes).status.cancelledSingleId = true ∨
      (w.judgement a).cancelled = true) ∨ w.CancelledLate a := by
  obtain ⟨marks, trace⟩ := exists_trace_judgement failed
  have coherent := coherent_judgement (w := w) h
  have final := (trace.coherent coherent).state_of_cancelled cancelled
  cases single : (a.scene.afterAll (w.run a).2.changes).status.cancelledSingleId with
  | true => exact .inl (.inl rfl)
  | false =>
    have flags := coherent.flags_state
    cases state : (w.judgement a).scene.status.state with
    | pending => exact .inr ⟨state, final.trans (congrArg _ single)⟩
    | cancelled singleId =>
      rw [state] at flags
      exact .inl (.inr (congrArg Status.cancelled flags.symm))
    | successful =>
      rw [← flags, state] at trace
      rw [trace.of_successful.1] at cancelled
      contradiction

/-! ### The code -/

/-- A cancellation that is seen makes the code. -/
theorem code_of_seen (failed : (Task.onRun w.task a).2.answer = some failure)
    (seen : (a.scene.afterAll (w.run a).2.changes).status.cancelledSingleId = true ∨
      (w.judgement a).cancelled = true) :
    (w.run a).2.code =
      if (a.scene.afterAll (w.run a).2.changes).status.cancelledSingleId then .failSingleId
      else .failForCancel := by
  rw [w.code_of_failure a failed, Judgement.classify_report]
  split
  · rfl
  · next plain => rw [if_pos (seen.resolve_left plain)]

/-- A cancellation that comes too late leaves the code to the task. -/
theorem code_of_cancelledLate (failed : (Task.onRun w.task a).2.answer = some failure)
    (late : w.CancelledLate a) :
    (w.run a).2.code =
      if (w.reply a failure).2.answer.retry then .tryAgain else .failShouldReRun := by
  have plain := Status.cancelledSingleId_of_state late.2
  have asks := asks_of_cancelledLate failed late
  have code := w.code_of_failure a failed
  rw [asks, Bool.true_and] at code
  refine code.trans ?_
  cases again : (w.reply a failure).2.answer.retry with
  | true => exact Judgement.classify_report_eq_tryAgain_iff.mpr ⟨plain, asks, rfl⟩
  | false => exact Judgement.classify_report_eq_failShouldReRun_iff.mpr ⟨plain, asks, rfl⟩

/-- **What the code of a failed attempt tells of a cancellation.** If the job is cancelled at the
end of the attempt, the code tells so, or of the other job, exactly if the cancellation does not
come late; a cancellation in favour of another job never does. Whenever it comes, the attempt is
not reported as a success, and neither a deadline nor the limit is reported.

A late cancellation comes while the task is asked about another attempt, by the first mark that is
made then. The code is the one that the answer of the task leads to, as if the job were pending. -/
theorem code_of_cancelled (w : TaskWork τ) (a : Attempt) {failure : Failure}
    (coherent : a.scene.status.Coherent)
    (failed : (Task.onRun w.task a).2.answer = some failure)
    (cancelled : (a.scene.afterAll (w.run a).2.changes).status.cancelled = true) :
    let outcome := (w.run a).2
    let scene := a.scene.afterAll (Task.onRun w.task a).2.changes
    let final := a.scene.afterAll outcome.changes
    let late := scene.status.state = .pending ∧ final.status.state = .cancelled false
    ((outcome.code = .failForCancel ∨ outcome.code = .failSingleId) ↔ ¬late) ∧
    (outcome.code = .failSingleId ↔ final.status.cancelledSingleId = true) ∧
    outcome.code ∉ [.success, .hitDeadline, .failRunLimit] ∧
    (late → ∃ reply : TaskReply RetryConstraint,
      (w.observed.run a).1.task.questions =
        [⟨failure, a.number, Task.retryLimit (Task.onRun w.task a).1, scene, reply⟩] ∧
      (reply.changes.filterMap Change.mark?).head? = some .cancelled ∧
      .cancelledSingleId ∉ reply.changes.filterMap Change.mark? ∧
      outcome.retry = some reply.answer ∧
      outcome.code = if reply.answer.retry then .tryAgain else .failShouldReRun) := by
  intro outcome scene final late
  by_cases h : late
  · have plain := Status.cancelledSingleId_of_state h.2
    have code := code_of_cancelledLate failed h
    obtain ⟨questions, retry, -⟩ := w.effects_of_asked a failed (asks_of_cancelledLate failed h)
    obtain ⟨first, others⟩ := marks_of_cancelledLate coherent failed h
    have other : outcome.code ∉ [.success, .failForCancel, .failSingleId, .hitDeadline,
        .failRunLimit] := by
      rw [show outcome.code = _ from code]
      split <;> decide
    simp only [List.mem_cons, List.not_mem_nil, or_false, not_or] at other
    obtain ⟨success, cancel, single, deadline, limit⟩ := other
    refine ⟨iff_of_false (not_or.mpr ⟨cancel, single⟩) (not_not_intro h),
      iff_of_false single (Bool.eq_false_iff.mp plain), by simp [success, deadline, limit],
      fun _ => ⟨_, questions, first, others, retry, code⟩⟩
  · have seen := (seen_or_cancelledLate coherent failed cancelled).resolve_right h
    have code : outcome.code = if final.status.cancelledSingleId then .failSingleId
        else .failForCancel := code_of_seen failed seen
    refine ⟨iff_of_true ?_ h, ?_, ?_, (absurd · h)⟩
    · rw [code]
      cases final.status.cancelledSingleId <;> decide
    · rw [code]
      cases final.status.cancelledSingleId <;> decide
    · rw [code]
      split <;> decide

/-- A body that fails, and a job that is cancelled before it does. -/
theorem code_of_cancelled_while_running :
    let step : Rehearsal.Step :=
      { failure := some "offline", during := [⟨"cancel", some (.mark .cancelled)⟩] }
    let w : TaskWork ScriptedTask := { task := ⟨{ upcoming := [step] }⟩ }
    let a : Attempt :=
      { number := 3, deadline := .upTo 5, cancelOnDeadline := true, scene := ⟨7, .fresh⟩ }
    (Task.onRun w.task a).2.answer = some ⟨"offline"⟩ ∧
      (a.scene.afterAll (w.run a).2.changes).status.cancelled = true ∧
      (w.run a).2.code = .failForCancel := by
  intro step w a
  obtain ⟨told, single, -⟩ := w.code_of_cancelled a
    (Status.coherent_flags .pending) (show _ = some ⟨"offline"⟩ from rfl) rfl
  exact ⟨rfl, rfl, (told.mpr (by decide)).resolve_right (mt single.mp (by decide))⟩

/-- Here the job is cancelled while the task is asked. The cancellation does not outrank the answer,
and the code asks for another attempt. -/
theorem cancelled_while_asked :
    let step : Rehearsal.Step :=
      { failure := some "offline", retryDuring := [⟨"cancel", some (.mark .cancelled)⟩] }
    let w : TaskWork ScriptedTask := { task := ⟨{ upcoming := [step] }⟩ }
    let a : Attempt :=
      { number := 1, deadline := .forever, cancelOnDeadline := false, scene := ⟨0, .fresh⟩ }
    (Task.onRun w.task a).2.answer = some ⟨"offline"⟩ ∧
      (a.scene.afterAll (w.run a).2.changes).status.state = .cancelled false ∧
      (w.run a).2.code = .tryAgain :=
  ⟨rfl, rfl, rfl⟩

end TaskWork

end DeferredJobs
