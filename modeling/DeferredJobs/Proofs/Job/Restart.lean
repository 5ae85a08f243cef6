import DeferredJobs.Proofs.Job.Cancellation
import DeferredJobs.Proofs.Job.Storage
import Mathlib.Data.List.Forall2

/-!
# Restarts

When the program ends and starts again, a job is restored from its record. The record leaves two
things out, which the job remembers while the program runs: the last failure, and whether the work
item has been told of a cancellation. Jobs with the same record agree whatever they remember, and so
a restart goes unnoticed.

* **Memory** (`Job.Resumes`): what the restored job remembers, together with what was forgotten, is
  what the job would remember; no operation changes this (`Job.Resumes.perform`).
* **Histories** (`Job.Resumes.performAll`): so it stays for as long as the attempts go alike.

`Job.Constructed.restart_changes_nothing` says this of every job and of everything that follows.
-/

namespace DeferredJobs

/-- What came of a call. -/
def Call.outcome? : Call → Option Outcome
  | run _ outcome => some outcome
  | _ => none

theorem Call.outcome?_eq_none {c : Call} (h : c.attempt? = none) : c.outcome? = none := by
  cases c with
  | run a outcome => contradiction
  | onCancel | absorb | setPriority => rfl

namespace Job

variable {ω ω' : Type}

/-! ### Memory -/

/-- After a restart at `old`, `b` goes on as `a` does without one: they have the same record, and
`a` remembers what `b` does, or else what `old` did. -/
structure Resumes (old a : Job ω) (b : Job ω') : Prop extends a.Agrees b where
  lastFailure : a.lastFailure = b.lastFailure.or old.lastFailure
  cancelNotified : a.cancelNotified = (b.cancelNotified || old.cancelNotified)

theorem cancelRequest?_of_alike {op : Operation} {r r' : Reply} (h : r.Alike r') :
    cancelRequest? (op, r') = cancelRequest? (op, r) := by
  cases h with
  | refl => rfl
  | finished => cases op <;> rfl

variable [Work ω] [Work ω']

/-- **One operation.** -/
theorem Resumes.perform {old a : Job ω} {b : Job ω'} (h : old.Resumes a b) {op : Operation}
    (alike : ∀ now, op = .run now → (Work.run a.work (a.nextAttempt now)).2.Alike
      (Work.run b.work (b.nextAttempt now)).2) :
    (a.perform op).1.Alike (b.perform op).1 ∧ old.Resumes (a.perform op).2 (b.perform op).2 := by
  obtain ⟨answers, agree⟩ := h.toAgrees.perform alike
  have failed : (b.callOf? op).bind (·.failure?) = (a.callOf? op).bind (·.failure?) := by
    by_cases runs : ∃ now, op = .run now
    · obtain ⟨now, rfl⟩ := runs
      exact (alike now rfl).failure
    · have no_run := not_exists.mp runs
      have unfailed (c : Call) : c.attempt? = none → c.failure? = none := Call.failure?_eq_none
      rw [callOf?_of_ne_run unfailed a no_run, callOf?_of_ne_run unfailed b no_run]
  refine ⟨answers, agree, ?_, ?_⟩
  · rw [lastFailure_perform, lastFailure_perform, failed, h.lastFailure, Option.or_assoc]
  · rw [cancelNotified_perform, cancelNotified_perform, cancelRequest?_of_alike answers,
      h.cancelNotified, Bool.or_assoc]

/-! ### Histories -/

/-- The outcomes of the attempts that are made in the course of operations. -/
def outcomes (job : Job ω) (ops : List Operation) : List Outcome :=
  (job.calls ops).filterMap Call.outcome?

theorem outcomes_of_ne_run (job : Job ω) {op : Operation} (ops : List Operation)
    (h : ∀ now, op ≠ .run now) : job.outcomes (op :: ops) = (job.perform op).2.outcomes ops :=
  filterMap_calls_of_ne_run (fun _ => Call.outcome?_eq_none) job ops h

/-- The first of the operations makes an attempt with one of the outcomes, or it makes none. -/
theorem alike_of_outcomes {a : Job ω} {b : Job ω'} {op : Operation} {ops : List Operation}
    (h : List.Forall₂ Outcome.Alike (a.outcomes (op :: ops)) (b.outcomes (op :: ops))) :
    (∀ now, op = .run now → (Work.run a.work (a.nextAttempt now)).2.Alike
        (Work.run b.work (b.nextAttempt now)).2) ∧
      List.Forall₂ Outcome.Alike ((a.perform op).2.outcomes ops)
        ((b.perform op).2.outcomes ops) := by
  by_cases runs : ∃ now, op = .run now
  · obtain ⟨now, rfl⟩ := runs
    obtain ⟨first, others⟩ := List.forall₂_cons.mp h
    refine ⟨fun now same => ?_, others⟩
    obtain rfl := Operation.run.inj same
    exact first
  · rw [a.outcomes_of_ne_run ops (not_exists.mp runs),
      b.outcomes_of_ne_run ops (not_exists.mp runs)] at h
    exact ⟨fun now run => absurd ⟨now, run⟩ runs, h⟩

/-- **Any number of operations**, at each of which both jobs are looked at. -/
theorem Resumes.performAll {old a : Job ω} {b : Job ω'} (h : old.Resumes a b)
    {ops : List Operation}
    (alike : List.Forall₂ Outcome.Alike (a.outcomes ops) (b.outcomes ops)) :
    List.Forall₂ (fun e e' => e.1 = e'.1 ∧ e.2.Alike e'.2) (a.events ops) (b.events ops) ∧
      ∀ part, part <+: ops → old.Resumes (a.performAll part) (b.performAll part) := by
  induction ops generalizing a b with
  | nil =>
    refine ⟨.nil, fun part before => ?_⟩
    rw [List.prefix_nil.mp before]
    exact h
  | cons op ops ih =>
    obtain ⟨first, others⟩ := alike_of_outcomes alike
    obtain ⟨answers, resumes⟩ := h.perform first
    obtain ⟨events, later⟩ := ih resumes others
    refine ⟨.cons ⟨rfl, answers⟩ events, fun part before => ?_⟩
    cases part with
    | nil => exact h
    | cons op' part =>
      obtain ⟨rfl, within⟩ := List.cons_prefix_cons.mp before
      exact later part within

/-- **A restart changes nothing.** Take a job that was built or restored, what it has become after
any operations, and the job that is restored from its record then, with any other work item. As
long as their attempts go alike, which is to say with the same code, retry constraint, failure and
marks, the two jobs answer all operations alike, and after each of them they have the same record,
state, dispatch order and next wake, and are eligible at the same times and over the same networks.
What differs is what the job remembers without the restart: the last failure that it had then, if
there has been none since, and that its work item had been told of a cancellation. -/
theorem Constructed.restart_changes_nothing {job : Job ω} (made : job.Constructed)
    (before : List Operation) (work : ω') :
    let old := job.performAll before
    ∃ new, restore old.toRecord work = .ok new ∧
      ∀ ops, List.Forall₂ Outcome.Alike (old.outcomes ops) (new.outcomes ops) →
        List.Forall₂ (fun e e' => e.1 = e'.1 ∧ e.2.Alike e'.2) (old.events ops) (new.events ops) ∧
        ∀ part, part <+: ops →
          let a := old.performAll part
          let b := new.performAll part
          (b.toRecord = a.toRecord ∧ b.state = a.state ∧
            b.toProfile.orderingKey = a.toProfile.orderingKey ∧
            (∀ now, b.nextWake now = a.nextWake now) ∧
            ∀ now network, b.eligibility now network = a.eligibility now network) ∧
          a.lastFailure = b.lastFailure.or old.lastFailure ∧
          a.cancelNotified = (b.cancelNotified || old.cancelNotified) := by
  intro old
  obtain ⟨new, restored, record⟩ := (made.sound_performAll before).restore_toRecord work
  obtain ⟨profile, status⟩ := eq_of_toRecord_eq record
  obtain ⟨unfailed, unnotified⟩ := (Constructed.restored _ work restored).unnotified
  have resumes : old.Resumes old new :=
    { profile, status
      lastFailure := by rw [unfailed, Option.none_or]
      cancelNotified := by rw [unnotified, Bool.false_or] }
  refine ⟨new, restored, fun ops alike => ?_⟩
  obtain ⟨events, later⟩ := resumes.performAll alike
  refine ⟨events, fun part before => ?_⟩
  have same := later part before
  exact ⟨⟨same.toRecord, congrArg Status.state same.status,
    congrArg Profile.orderingKey same.profile, same.nextWake, same.eligibility⟩,
    same.lastFailure, same.cancelNotified⟩

/-- The program ends after a failed attempt. The attempt that is made after the restart takes some
time, and the one that is made without it does not; both are cancelled and report no failure. -/
theorem restart_changes_nothing_after_failure :
    let r : Record :=
      { id := "sync", persistent := true, priority := 3, groupId := none, runCount := 0
        createdAt := 10, delayUntil := .never, insertionOrder := none, session := ⟨1⟩
        windows := ⟨.never, .never⟩, deadline := .forever, cancelOnDeadline := false
        tags := none, retry := none }
    let failing : Rehearsal.Step := { code := .tryAgain, failure := some "offline" }
    let last : Rehearsal.Step :=
      { code := .failForCancel, during := [⟨"mark", some (.mark .cancelled)⟩] }
    let slow : Rehearsal.Step :=
      { last with during := ⟨"wait", some (.advanceClock (.ofMillis 5))⟩ :: last.during }
    let ops : List Operation := [.setSession ⟨2⟩, .apply .tryAgain 25, .run 30]
    ∃ job : Job ScriptedWork, restore r ⟨⟨[failing, last], {}, [], 3⟩⟩ = .ok job ∧
      let old := job.performAll [.run 20]
      ∃ new : Job ScriptedWork, restore old.toRecord ⟨⟨[slow], {}, [], 3⟩⟩ = .ok new ∧
        List.Forall₂ Outcome.Alike (old.outcomes ops) (new.outcomes ops) ∧
        (new.performAll ops).toRecord = (old.performAll ops).toRecord ∧
        (new.performAll ops).state = .cancelled false ∧
        (new.performAll ops).lastFailure = none ∧
        (old.performAll ops).lastFailure = some ⟨"offline"⟩ := by
  intro r failing last slow ops
  have accepted : restore r (⟨⟨[failing, last], {}, [], 3⟩⟩ : ScriptedWork) =
      .ok (r.toJob (Work.absorb ⟨⟨[failing, last], {}, [], 3⟩⟩ r.repaired)) :=
    restore_eq_ok_iff.mpr ⟨by decide, by decide, rfl⟩
  refine ⟨_, accepted, ?_⟩
  intro old
  let work : ScriptedWork := ⟨⟨[slow], {}, [], 3⟩⟩
  obtain ⟨new, restored, same⟩ :=
    Constructed.restart_changes_nothing (.restored r _ accepted) [.run 20] work
  obtain ⟨-, -, rfl⟩ := restore_eq_ok_iff.mp restored
  let new : Job ScriptedWork := old.toRecord.toJob (Work.absorb work old.toRecord.repaired)
  have alike : List.Forall₂ Outcome.Alike (old.outcomes ops) (new.outcomes ops) :=
    .cons ⟨rfl, rfl, rfl, rfl⟩ .nil
  obtain ⟨-, later⟩ := same ops alike
  obtain ⟨⟨record, -⟩, failure, -⟩ := later ops (List.prefix_refl ops)
  exact ⟨new, restored, alike, record, rfl, rfl, failure⟩

end Job

end DeferredJobs
