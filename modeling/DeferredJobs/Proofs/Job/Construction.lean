import DeferredJobs.Builder
import DeferredJobs.Proofs.Status.Marks

/-!
# How jobs come into being

Jobs are built from settings or restored from records, and both ways end in `Builder.buildWith`:
it refuses what is incomplete or has no id, and has the work item of any other job learn what it
has become part of.

* **From settings** (`Builder.build_eq_ok`): the windows of a built job are in order, and its
  flags are those of the builder, which no setting touches (`Builder.status_ofSettings`).
* **From a record** (`Job.restoreWith_eq`): a record sets every part of a builder, so that no field
  is ever missing (`Builder.ofRecord_eq`). It describes `Record.toJob`, which is restored unless the
  flags of the record contradict each other or its id is empty.

`Job.Constructed` takes both together.
-/

namespace DeferredJobs

variable {ω : Type}

/-! ### From settings -/

namespace Builder

variable {b : Builder ω} {job : Job ω}

/-- What no setting touches is as in an empty builder. -/
theorem kept_ofSettings {α : Type} (part : Builder ω → α)
    (kept : ∀ b setting, part (b.set setting) = part b) (settings : List (Setting ω)) :
    part (ofSettings settings) = part {} := by
  -- the settings are carried out on any builder, not just on an empty one
  suffices any : ∀ b : Builder ω, part (settings.foldl set b) = part b from any {}
  induction settings with
  | nil => exact fun _ => rfl
  | cons setting settings ih => exact fun b => (ih _).trans (kept b setting)

theorem status_set (b : Builder ω) (setting : Setting ω) :
    (b.set setting).status = b.status := by
  cases setting <;> rfl

/-- No setting touches the flags. -/
theorem status_ofSettings (settings : List (Setting ω)) :
    (ofSettings settings).status = .fresh := kept_ofSettings (·.status) status_set settings

section Outcomes

variable {m : Type → Type} [Monad m] {learn : ω → Record → m ω}

/-- What is missing is found first. -/
theorem buildWith_of_missing (incomplete : b.missing ≠ []) :
    b.buildWith learn = return .error (.missingFields b.missing) := by
  rw [buildWith, if_pos (by simpa using incomplete)]

theorem buildWith_of_unnamed (complete : b.missing = []) (unnamed : b.profile.id = "") :
    b.buildWith learn = return .error .emptyId := by
  rw [buildWith, if_neg (by simp [complete]), if_pos (by simpa using unnamed)]

/-- Complete parts with an id are put together, and the work item learns what it is part of. -/
theorem buildWith_of_complete (complete : b.missing = []) (named : b.profile.id ≠ "") {work : ω}
    (supplied : b.work = some work) :
    b.buildWith learn = do
      let work' ← learn work (b.assemble work).toRecord
      return .ok { b.assemble work with work := work' } := by
  rw [buildWith, if_neg (by simp [complete]), if_neg (by simpa using named), supplied]

end Outcomes

/-- Complete parts with an id make up a job. -/
theorem build_of_complete [Work ω] (complete : b.missing = []) (named : b.profile.id ≠ "")
    {work : ω} (supplied : b.work = some work) :
    b.build = .ok
      { b.assemble work with work := Work.absorb work (b.assemble work).toRecord } := by
  rw [build, buildWith_of_complete complete named supplied]
  rfl

/-- A built job is complete, has an id, and is put together from its parts. -/
theorem exists_work_of_build [Work ω] (h : b.build = .ok job) :
    b.missing = [] ∧ b.profile.id ≠ "" ∧ ∃ work, b.work = some work ∧
      job = { b.assemble work with work := Work.absorb work (b.assemble work).toRecord } := by
  by_cases complete : b.missing = []
  · by_cases named : b.profile.id = ""
    · rw [build, buildWith_of_unnamed complete named] at h
      nomatch h
    · cases supplied : b.work with
      | none =>
        rw [build, buildWith, if_neg (by simp [complete]), if_neg (by simpa using named),
          supplied] at h
        nomatch h
      | some work =>
        rw [build_of_complete complete named supplied] at h
        exact ⟨complete, named, work, rfl, (Except.ok.inj h).symm⟩
  · rw [build, buildWith_of_missing complete] at h
    nomatch h

/-- A built job has an id, its windows are in order, and its flags are those of the builder. -/
theorem build_eq_ok [Work ω] (h : b.build = .ok job) :
    job.id ≠ "" ∧ job.windows.Covers ∧ job.status = b.status := by
  obtain ⟨-, named, work, -, rfl⟩ := exists_work_of_build h
  exact ⟨named, NetworkWindows.covers_covering _, rfl⟩

end Builder

/-! ### From records -/

/-- **A record sets every part**, and each one to what it says. -/
theorem Builder.ofRecord_eq (r : Record) (status : Status) (work : ω) :
    ofRecord r status work =
      { provides := fun _ => true, profile := r.toProfile, work := some work, status } := by
  -- the place in the queue is set only where there is one, and it is open from the start
  obtain ⟨⟨_, _, _, _, _, _, _, order, _, _, _, _, _, _⟩, _, _, _⟩ := r
  rw [ofRecord, Builder.mk.injEq]
  cases order with
  | none | some order =>
    refine ⟨funext fun field => ?_, rfl, rfl, rfl⟩
    cases field <;> rfl

namespace Record

/-- The flags of a record contradict each other if it tells of a cancellation and of success. -/
def Contradictory (r : Record) : Prop :=
  (r.cancelled || r.cancelledSingleId) = true ∧ r.successful = true

instance (r : Record) : Decidable r.Contradictory := inferInstanceAs (Decidable (_ ∧ _))

/-- The record without damage: the single-id flag implies the cancelled one, and the network
window covers the unmetered one. -/
def repaired (r : Record) : Record :=
  { r with
    cancelled := r.cancelled || r.cancelledSingleId
    windows := r.windows.covering }

/-- The job that a record describes, with the given work item. -/
def toJob (r : Record) (work : ω) : Job ω :=
  { r.repaired.toProfile with
    status := ⟨r.repaired.cancelled, r.cancelledSingleId, r.successful⟩
    work }

@[simp] theorem toRecord_toJob (r : Record) (work : ω) : (r.toJob work).toRecord = r.repaired := rfl

end Record

/-- The flags that the storage yields are those of the repaired record. -/
theorem Status.ofFlags?_eq (r : Record) :
    Status.ofFlags? r.cancelled r.cancelledSingleId r.successful =
      if r.Contradictory then none
      else some ⟨r.repaired.cancelled, r.cancelledSingleId, r.successful⟩ := by
  have both : ((r.cancelled || r.cancelledSingleId) && r.successful) = true ↔ r.Contradictory :=
    Bool.and_eq_true_iff
  rw [ofFlags?]
  split
  · next h => rw [if_pos (both.mp h)]
  · next h =>
    rw [if_neg (mt both.mpr h)]
    rfl

namespace Job

variable {r : Record} {work : ω} {job : Job ω}

/-- **Restoring a record.** The one thing that a work item learns, if it learns anything, is the
repaired record. -/
theorem restoreWith_eq {m : Type → Type} [Monad m] (learn : ω → Record → m ω) (r : Record)
    (work : ω) :
    restoreWith learn r work =
      if r.Contradictory then return .error .conflictingState
      else if r.id = "" then return .error .emptyId
      else do
        let work' ← learn work r.repaired
        return .ok (r.toJob work') := by
  rw [restoreWith, Status.ofFlags?_eq]
  by_cases contradictory : r.Contradictory
  · rw [if_pos contradictory, if_pos contradictory]
  · rw [if_neg contradictory, if_neg contradictory]
    dsimp only
    -- with every part set, only the id is left to be refused
    rw [Builder.ofRecord_eq]
    by_cases unnamed : r.id = ""
    · rw [if_pos unnamed]
      exact Builder.buildWith_of_unnamed rfl unnamed
    · rw [if_neg unnamed]
      exact Builder.buildWith_of_complete rfl unnamed rfl

variable [Work ω]

theorem restore_eq (r : Record) (work : ω) :
    restore r work =
      if r.Contradictory then .error .conflictingState
      else if r.id = "" then .error .emptyId
      else .ok (r.toJob (Work.absorb work r.repaired)) := by
  rw [restore, restoreWith_eq]
  split
  · rfl
  · split <;> rfl

/-- A record is restored exactly if its flags agree and it has an id. -/
theorem restore_eq_ok_iff :
    restore r work = .ok job ↔
      ¬r.Contradictory ∧ r.id ≠ "" ∧ r.toJob (Work.absorb work r.repaired) = job := by
  rw [restore_eq]
  split
  · next contradictory => simp [contradictory]
  · next consistent => split <;> simp_all

/-- The flags of a restored job are coherent. -/
theorem coherent_of_restore (h : restore r work = .ok job) : job.status.Coherent := by
  obtain ⟨consistent, -, rfl⟩ := restore_eq_ok_iff.mp h
  exact Status.coherent_of_ofFlags? ((Status.ofFlags?_eq r).trans (if_neg consistent))

/-! ### Either way -/

/-- How jobs come into being. -/
inductive Constructed : Job ω → Prop
  | built {job : Job ω} (settings : List (Setting ω))
      (h : (Builder.ofSettings settings).build = .ok job) : Constructed job
  | restored {job : Job ω} (r : Record) (work : ω) (h : restore r work = .ok job) : Constructed job

/-- A new job remembers no failure, and its work item has not been told of a cancellation. -/
theorem Constructed.unnotified (made : job.Constructed) :
    job.lastFailure = none ∧ job.cancelNotified = false := by
  cases made with
  | built settings h =>
    obtain ⟨-, -, work, -, rfl⟩ := Builder.exists_work_of_build h
    exact ⟨rfl, rfl⟩
  | restored r work h =>
    obtain ⟨-, -, rfl⟩ := restore_eq_ok_iff.mp h
    exact ⟨rfl, rfl⟩

end Job

end DeferredJobs
