import DeferredJobs.Job.Order
import DeferredJobs.Proofs.Job.Invariants

/-!
# Jobs and their records

A record says all of a job that outlives the program, and a job is restored from it as it was.

* **Damage** (`Record.repaired`) is repaired on the way in, and a record without damage is left
  alone (`Record.repaired_eq_self`).
* **Soundness** (`Job.Sound`) of a job means that its record has no damage, so that storing it and
  restoring it leads back to the same record (`Job.Sound.restore_toRecord`).

`Job.storage_faithful` says when a record is restored and what its work item learns, and that every
job can be stored and restored at any point of its life.
-/

namespace DeferredJobs

theorem Record.repaired_eq_self {r : Record} (covers : r.windows.Covers)
    (implied : r.cancelledSingleId = true → r.cancelled = true) : r.repaired = r := by
  have flag : (r.cancelled || r.cancelledSingleId) = r.cancelled := by
    cases single : r.cancelledSingleId with
    | false => exact Bool.or_false _
    | true => rw [implied single, Bool.true_or]
  rw [repaired, flag, NetworkWindows.covering_eq_self covers]

namespace Job

variable {ω ω' : Type}

/-- A record tells profile and flags. -/
theorem eq_of_toRecord_eq {a : Job ω} {b : Job ω'} (h : a.toRecord = b.toRecord) :
    a.toProfile = b.toProfile ∧ a.status = b.status := by
  -- a status has no more to it than the three flags
  let flags (r : Record) : Status := ⟨r.cancelled, r.cancelledSingleId, r.successful⟩
  have status : flags a.toRecord = flags b.toRecord := congrArg flags h
  exact ⟨congrArg Record.toProfile h, status⟩

/-! ### Records of sound jobs -/

namespace Sound

variable {job : Job ω}

theorem not_contradictory (sound : job.Sound) : ¬job.toRecord.Contradictory := by
  rintro ⟨cancelled, successful⟩
  obtain direct | single := Bool.or_eq_true_iff.mp cancelled
  · exact sound.coherent.exclusive ⟨direct, successful⟩
  · exact sound.coherent.exclusive ⟨sound.coherent.implied single, successful⟩

theorem repaired_toRecord (sound : job.Sound) : job.toRecord.repaired = job.toRecord :=
  Record.repaired_eq_self sound.covers sound.coherent.implied

/-- **There and back.** A sound job is restored from its record, with the same record. -/
theorem restore_toRecord [Work ω'] (sound : job.Sound) (work : ω') :
    ∃ d, restore job.toRecord work = .ok d ∧ d.toRecord = job.toRecord := by
  refine ⟨_, restore_eq_ok_iff.mpr ⟨sound.not_contradictory, sound.named, rfl⟩, ?_⟩
  rw [Record.toRecord_toJob, sound.repaired_toRecord]

end Sound

/-! ### Any record -/

variable [Work ω]

theorem restore_eq_conflictingState_iff {r : Record} {work : ω} :
    restore r work = .error .conflictingState ↔ r.Contradictory := by
  rw [restore_eq]
  split
  · next contradictory => exact iff_of_true rfl contradictory
  · next consistent =>
    refine iff_of_false ?_ consistent
    split <;> nofun

theorem restore_eq_emptyId_iff {r : Record} {work : ω} :
    restore r work = .error .emptyId ↔ ¬r.Contradictory ∧ r.id = "" := by
  rw [restore_eq]
  split
  · next contradictory => exact iff_of_false nofun fun h => h.1 contradictory
  · next consistent =>
    split
    · next unnamed => exact iff_of_true rfl ⟨consistent, unnamed⟩
    · next named => exact iff_of_false nofun fun h => named h.2

theorem restore_ne_missingFields (r : Record) (work : ω) (fields : List RequiredField) :
    restore r work ≠ .error (.missingFields fields) := by
  rw [restore_eq]
  split
  · nofun
  · split <;> nofun

/-- Whatever it means to learn, the work item of a restored job learns its record, and nothing
besides. -/
theorem restoreWith_of_ok {r : Record} {work : ω} {d : Job ω} (h : restore r work = .ok d)
    {m : Type → Type} [Monad m] (learn : ω → Record → m ω) :
    restoreWith learn r work = do
      let work' ← learn work d.toRecord
      return .ok { d with work := work' } := by
  obtain ⟨consistent, named, rfl⟩ := restore_eq_ok_iff.mp h
  rw [restoreWith_eq, if_neg consistent, if_neg named]
  rfl

/-- Where no job is restored, nothing is learnt. -/
theorem restoreWith_of_error {r : Record} {work : ω} {e : BuildError}
    (h : restore r work = .error e) {m : Type → Type} [Monad m] (learn : ω → Record → m ω) :
    restoreWith learn r work = return .error e := by
  rw [restore_eq] at h
  rw [restoreWith_eq]
  split at h
  · next contradictory =>
    obtain rfl := Except.error.inj h
    rw [if_pos contradictory]
  · next consistent =>
    rw [if_neg consistent]
    split at h
    · next unnamed =>
      obtain rfl := Except.error.inj h
      rw [if_pos unnamed]
    · nomatch h

/-! ### Storage and jobs -/

/-- **What storage does to a job.** A record is refused if its flags contradict each other, and
otherwise if its id is empty. Any other record is restored, and the job has that record again,
but for the damage: the single-id flag implies the cancelled one, and the network window is raised
to the unmetered one. Its work item learns that record, once, and none does where the record is
refused, whatever effects learning has (with none, it is `Work.absorb`). A job that was built or
restored, and what it becomes by any operations, is restored from its own record with nothing
changed. -/
theorem storage_faithful [Work ω'] (work : ω) :
    (∀ r : Record,
      let contradictory := (r.cancelled = true ∨ r.cancelledSingleId = true) ∧ r.successful = true
      (restore r work = .error .conflictingState ↔ contradictory) ∧
      (restore r work = .error .emptyId ↔ ¬contradictory ∧ r.id = "") ∧
      (∀ fields, restore r work ≠ .error (.missingFields fields)) ∧
      (¬contradictory → r.id ≠ "" → ∃ d, restore r work = .ok d) ∧
      (∀ d, restore r work = .ok d →
        d.toRecord = { r with
          cancelled := r.cancelled || r.cancelledSingleId
          windows := ⟨max r.windows.network r.windows.unmetered, r.windows.unmetered⟩ } ∧
        ∀ {m : Type → Type} [Monad m] (learn : ω → Record → m ω),
          restoreWith learn r work = do
            let work' ← learn work d.toRecord
            return .ok { d with work := work' }) ∧
      ∀ e, restore r work = .error e →
        ∀ {m : Type → Type} [Monad m] (learn : ω → Record → m ω),
          restoreWith learn r work = return .error e) ∧
    ∀ made : Job ω', made.Constructed → ∀ ops : List Operation,
      let job := made.performAll ops
      ∃ d, restore job.toRecord work = .ok d ∧ d.toRecord = job.toRecord ∧
        d.toProfile.orderingKey = job.toProfile.orderingKey ∧ d.state = job.state := by
  refine ⟨fun r => ?_, fun made constructed ops => ?_⟩
  · have same : (r.cancelled = true ∨ r.cancelledSingleId = true) ∧ r.successful = true ↔
        r.Contradictory := by
      rw [Record.Contradictory, Bool.or_eq_true]
    intro contradictory
    refine ⟨restore_eq_conflictingState_iff.trans same.symm,
      restore_eq_emptyId_iff.trans (and_congr_left' (not_congr same.symm)),
      restore_ne_missingFields r work, fun consistent named => ?_, fun d restored => ⟨?_, ?_⟩, ?_⟩
    · exact ⟨_, restore_eq_ok_iff.mpr ⟨mt same.mpr consistent, named, rfl⟩⟩
    · obtain ⟨-, -, rfl⟩ := restore_eq_ok_iff.mp restored
      rfl
    · exact restoreWith_of_ok restored
    · exact fun e refused => restoreWith_of_error refused
  · obtain ⟨d, restored, record⟩ := (constructed.sound_performAll ops).restore_toRecord work
    obtain ⟨profile, status⟩ := eq_of_toRecord_eq record
    exact ⟨d, restored, record, congrArg Profile.orderingKey profile, congrArg Status.state status⟩

/-- A damaged record is restored, the job moves on and is stored and restored again. -/
theorem storage_faithful_damaged :
    let r : Record :=
      { id := "sync", persistent := true, priority := 3, groupId := none, runCount := 0
        createdAt := 10, delayUntil := .upTo 12, insertionOrder := none, session := ⟨1⟩
        windows := ⟨.upTo 5, .forever⟩, deadline := .forever, cancelOnDeadline := false
        tags := none, retry := none, cancelledSingleId := true }
    let work : ScriptedWork := ⟨⟨[], {}, [], 3⟩⟩
    let ops : List Operation := [.setPriority 9, .mark .successful, .run 20, .apply .tryAgain 30]
    ∃ job, restore r work = .ok job ∧
      job.toRecord = { r with cancelled := true, windows := ⟨.forever, .forever⟩ } ∧
      ∃ d, restore (job.performAll ops).toRecord work = .ok d ∧
        d.toRecord = (job.performAll ops).toRecord := by
  intro r work ops
  obtain ⟨records, jobs⟩ := @storage_faithful ScriptedWork ScriptedWork _ _ work
  obtain ⟨-, -, -, accepted, -, -⟩ := records r
  obtain ⟨job, restored⟩ := accepted (by decide) (by decide)
  obtain ⟨d, again, same, -⟩ := jobs job (.restored r work restored) ops
  refine ⟨job, restored, ?_, d, again, same⟩
  obtain ⟨-, -, -, -, agrees, -⟩ := records r
  exact (agrees job restored).1

end Job

end DeferredJobs
