import DeferredJobs.Proofs.Job.Construction
import DeferredJobs.Proofs.Job.Effects
import DeferredJobs.Proofs.Job.Evolution
import DeferredJobs.Work.Rehearsal

/-!
# Jobs that are sent back

After an attempt, a job leaves the storage or is sent back to the queue. Which of the two is up to
the result code, and to what the job does at its deadline (`Job.isTerminal_settle`). The flags of
the job are asked on one occasion only, when a success is to be recorded, and then the job leaves
the storage whatever they say.

A job that is sent back is therefore in the state that it was in before
(`Job.status_apply_of_not_isTerminal`), be it pending or not: if someone marks a job after its
attempt has ended and before the result is applied, the job is sent back all the same.
-/

namespace DeferredJobs

/-- Only a cancellation has a reason, and it is final. -/
theorem FollowUp.reason?_eq_none {f : FollowUp} (h : f.isTerminal = false) : f.reason? = none := by
  cases f with
  | cancel reason => contradiction
  | remove | reschedule | forceRun => rfl

namespace Job

variable {ω : Type}

/-- Which jobs leave the storage is up to the code, not to the flags. -/
theorem isTerminal_settle (job : Job ω) (code : ResultCode) :
    (job.settle code).1.isTerminal = (code.followUp job.cancelOnDeadline).isTerminal := by
  rw [settle]
  split
  · next success =>
    rw [success]
    dsimp only
    split <;> rfl
  · rfl

variable [Work ω] {job : Job ω} {code : ResultCode} {now : Nanos}

/-- A job that is sent back keeps its flags. -/
theorem status_apply_of_not_isTerminal (h : (job.apply code now).1.isTerminal = false) :
    (job.apply code now).2.status = job.status := by
  have settled : (job.settle code).1.isTerminal = false := h
  rw [apply_eq]
  dsimp only
  rw [appliedStatus, FollowUp.reason?_eq_none settled, settle_eq_of_not_isTerminal settled]

/-- **Which jobs are pending when they are sent back.** Take a job after any operations, and a code
that is applied at any time. That the job is pending if it is sent back holds exactly in two cases:
the code is not one that sends jobs back, or the job is pending before the code is applied. -/
theorem pending_of_sent_back_iff (job : Job ω) (ops : List Operation) (code : ResultCode)
    (now : Nanos) :
    let current := job.performAll ops
    ((current.apply code now).1.isTerminal = false →
        (current.apply code now).2.state = .pending) ↔
      (code.followUp job.cancelOnDeadline).isTerminal = true ∨ current.state = .pending := by
  intro current
  have final : (current.apply code now).1.isTerminal =
      (code.followUp job.cancelOnDeadline).isTerminal := by
    rw [← (job.performAll_evolvesTo ops).cancelOnDeadline]
    exact current.isTerminal_settle code
  have kept (sent_back : (current.apply code now).1.isTerminal = false) :
      (current.apply code now).2.state = current.state :=
    congrArg Status.state (status_apply_of_not_isTerminal sent_back)
  rw [← final]
  cases leaves : (current.apply code now).1.isTerminal with
  | true => simp
  | false => simp [kept leaves]

/-- An attempt asks for another one, the job is cancelled before the result is applied, and goes
back to the queue. In the same way a job that has succeeded is run again at once. -/
theorem sent_back_while_not_pending :
    let r : Record :=
      { id := "sync", persistent := true, priority := 3, groupId := none, runCount := 0
        createdAt := 0, delayUntil := .never, insertionOrder := none, session := ⟨1⟩
        windows := ⟨.never, .never⟩, deadline := .forever, cancelOnDeadline := false
        tags := none, retry := none }
    let work : ScriptedWork := ⟨⟨[{ code := .tryAgain, failure := some "offline" }], {}, [], 3⟩⟩
    ∃ job, restore r work = .ok job ∧ job.Constructed ∧
      let marked (m : Mark) := job.performAll [.run 0, .mark m]
      (((marked .cancelled).apply .tryAgain 0).1 = .reschedule ∧
        ((marked .cancelled).apply .tryAgain 0).2.state = .cancelled false) ∧
      ((marked .successful).apply .hitDeadline 0).1 = .forceRun ∧
        ((marked .successful).apply .hitDeadline 0).2.state = .successful := by
  intro r work
  have accepted : restore r work = .ok (r.toJob (Work.absorb work r.repaired)) :=
    restore_eq_ok_iff.mpr ⟨by decide, by decide, rfl⟩
  exact ⟨_, accepted, .restored r work accepted, ⟨rfl, rfl⟩, rfl, rfl⟩

end Job

end DeferredJobs
