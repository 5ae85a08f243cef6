import DeferredJobs.Proofs.Encoding.Layout
import DeferredJobs.Proofs.Job.Storage
import DeferredJobs.Work.Rehearsal

/-!
# Jobs and their encoded records

On its way to a text and back, a record keeps whole milliseconds of its durations. These are the
ones that the last attempt asked for, as all else that a job is told in relative terms has become an
instant.

* **Damage** (`Record.truncated`): cutting durations down does no damage to a record.
* **Soundness** (`Job.Sound.restore_decode_encode`): so a sound job is restored from what is read.

`Job.Reachable.restored_from_encoding` says what has become of a job that was stored.
-/

namespace DeferredJobs.Job

open Encoding

variable {ω ω' : Type} {job : Job ω} [Work ω']

/-- **There and back, through an encoding.** The record of a sound job is read back with its
durations cut down, and the job is restored with the record that was read. -/
theorem Sound.restore_decode_encode (sound : job.Sound) (work : ω') :
    decode (encode job.toRecord) = some job.toRecord.truncated ∧
      ∃ d, restore job.toRecord.truncated work = .ok d ∧ d.toRecord = job.toRecord.truncated := by
  refine ⟨StoresAs.record.read_back _, _,
    restore_eq_ok_iff.mpr ⟨sound.not_contradictory, sound.named, rfl⟩, ?_⟩
  -- neither the flags nor the windows are touched
  have undamaged : job.toRecord.truncated.repaired = job.toRecord.truncated :=
    Record.repaired_eq_self sound.covers sound.coherent.implied
  rw [Record.toRecord_toJob, undamaged]

/-- **What is left of a stored job.** Take a job that was built or restored once, whatever has been
done with it since. Its record can be encoded, read back and restored with any work item, and the
job then has its record again, but for the durations that the pending retry names: of these, whole
milliseconds are left. So it has the very same record exactly if they are whole. -/
theorem Reachable.restored_from_encoding [Work ω] (reachable : job.Reachable) (work : ω') :
    ∃ r d, decode (encode job.toRecord) = some r ∧ restore r work = .ok d ∧
      d.toRecord = { job.toRecord with retry := job.retry.map .truncated } ∧
      (d.toRecord = job.toRecord ↔
        ∀ retry ∈ job.retry, ∀ duration ∈ retry.durations, duration.IsWhole) := by
  obtain ⟨read, d, restored, record⟩ := reachable.sound.restore_decode_encode work
  refine ⟨_, d, read, restored, record, ?_⟩
  rw [record, StoresAs.record.kept_iff, Record.durations]
  change (∀ d ∈ job.retry.toList.flatMap (·.durations), d.IsWhole) ↔ _
  cases job.retry <;> simp

/-- An attempt asks for another one after 250 ms, and the job is stored before this is applied. -/
theorem restored_from_encoding_whole_backoff :
    let r : Record :=
      { id := "sync", persistent := true, priority := 3, groupId := none, runCount := 0
        createdAt := 0, delayUntil := .never, insertionOrder := none, session := ⟨1⟩
        windows := ⟨.never, .never⟩, deadline := .forever, cancelOnDeadline := false
        tags := none, retry := none }
    let work : ScriptedWork :=
      ⟨⟨[{ code := .tryAgain, failure := some "offline"
           retry := some (.backoff (.ofMillis 250)) }], {}, [], 3⟩⟩
    ∃ job : Job ScriptedWork, restore r work = .ok job ∧
      let later := job.performAll [.run 0]
      later.retry = some (RetryConstraint.again.withDelay (.ofMillis 250)) ∧
      ∃ r' d, decode (encode later.toRecord) = some r' ∧ restore r' work = .ok d ∧
        d.toRecord = later.toRecord := by
  intro r work
  have accepted : restore r work = .ok (r.toJob (Work.absorb work r.repaired)) :=
    restore_eq_ok_iff.mpr ⟨by decide, by decide, rfl⟩
  refine ⟨_, accepted, ?_⟩
  intro later
  have pending : later.retry = some (RetryConstraint.again.withDelay (.ofMillis 250)) :=
    by decide
  have reachable : later.Reachable := ⟨_, .restored r work accepted, _, rfl⟩
  obtain ⟨r', d, read, restored, -, exact_iff⟩ := reachable.restored_from_encoding work
  refine ⟨pending, r', d, read, restored, exact_iff.mpr ?_⟩
  rw [pending]
  rintro _ ⟨⟩
  decide

/-- An attempt asks for another one after 1.5 ms. Once the job has been stored and restored, it is
1 ms. -/
theorem stored_backoff_loses_fraction :
    let r : Record :=
      { id := "sync", persistent := true, priority := 3, groupId := none, runCount := 0
        createdAt := 0, delayUntil := .never, insertionOrder := none, session := ⟨1⟩
        windows := ⟨.never, .never⟩, deadline := .forever, cancelOnDeadline := false
        tags := none, retry := none }
    let pause : Duration := ⟨1500000, by decide⟩
    let work : ScriptedWork :=
      ⟨⟨[{ code := .tryAgain, failure := some "offline", retry := some (.backoff pause) }],
        {}, [], 3⟩⟩
    ∃ job : Job ScriptedWork, restore r work = .ok job ∧
      let later := job.performAll [.run 0]
      later.Reachable ∧ later.retry = some (RetryConstraint.again.withDelay pause) ∧
      ∃ r' d, decode (encode later.toRecord) = some r' ∧ restore r' work = .ok d ∧
        d.retry = some (RetryConstraint.again.withDelay (.ofMillis 1)) ∧
        d.toRecord ≠ later.toRecord := by
  intro r pause work
  have accepted : restore r work = .ok (r.toJob (Work.absorb work r.repaired)) :=
    restore_eq_ok_iff.mpr ⟨by decide, by decide, rfl⟩
  refine ⟨_, accepted, ?_⟩
  intro later
  have reachable : later.Reachable := ⟨_, .restored r work accepted, _, rfl⟩
  have pending : later.retry = some (RetryConstraint.again.withDelay pause) := by decide
  obtain ⟨read, d, restored, record⟩ := reachable.sound.restore_decode_encode work
  have left : d.retry = some (RetryConstraint.again.withDelay (.ofMillis 1)) :=
    calc d.retry
        = later.retry.map .truncated := congrArg (fun r : Record => r.retry) record
      _ = some (RetryConstraint.again.withDelay (.ofMillis 1)) := by rw [pending]; decide
  refine ⟨reachable, pending, _, d, read, restored, left, fun same => ?_⟩
  have kept : d.retry = later.retry := congrArg (fun r : Record => r.retry) same
  rw [left, pending] at kept
  exact absurd kept (by decide)

end DeferredJobs.Job
