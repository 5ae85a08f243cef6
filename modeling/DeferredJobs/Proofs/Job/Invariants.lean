import DeferredJobs.Proofs.Constraints
import DeferredJobs.Proofs.Job.Construction
import DeferredJobs.Proofs.Job.Evolution
import DeferredJobs.Work.Rehearsal

/-!
# Invariants of jobs

A `Job.Sound` job has an id, a network window that covers the unmetered one, and flags that agree.
Jobs are sound when they are made, be it from settings or from a record, and whatever
`Job.EvolvesTo` allows keeps them sound; so they stay sound for as long as they live
(`Job.Constructed.sound`).

* **Windows**: where a job needs an unmetered network it needs a network, so that it can lack just
  the unmetered one only on a metered network.
* **Identity**: what a job is, and its deadline, stay as they were made.
* **Place**: a job is given a place in the queue at most once, and keeps it.

`Job.Constructed.invariants` says all this of every history of operations.
-/

namespace DeferredJobs.Job

variable {ω : Type}

/-- What holds of a job at any time. -/
structure Sound (job : Job ω) : Prop where
  named : job.id ≠ ""
  covers : job.windows.Covers
  coherent : job.status.Coherent

theorem EvolvesTo.sound {a b : Job ω} (h : a.EvolvesTo b) (sound : a.Sound) : b.Sound where
  named := h.id.symm ▸ sound.named
  covers := by
    obtain same | ⟨now, network, unmetered, sealed⟩ := h.windows
    · rw [same]
      exact sound.covers
    · rw [sealed]
      exact NetworkWindows.covers_sealedAt now network unmetered
  coherent := by
    obtain ⟨marks, trace⟩ := h.status
    exact trace.coherent sound.coherent

/-! ### The need for a network -/

namespace Sound

variable {job : Job ω}

theorem requiresNetwork (sound : job.Sound) {now : Nanos}
    (h : job.constraints.requiresUnmetered now = true) :
    job.constraints.requiresNetwork now = true :=
  Constraints.requiresNetwork_of_requiresUnmetered sound.covers h

theorem metered_of_awaitingUnmetered (sound : job.Sound) {now : Nanos} {network : Connectivity}
    (h : job.eligibility now network = .awaitingUnmetered) : network = .metered := by
  rw [eligibility] at h
  split at h
  · contradiction
  · exact Constraints.evaluate_eq_awaitingUnmetered sound.covers h

end Sound

/-! ### Replies that count -/

/-- What no operation takes back, and what replies of one kind add to, bounds their number. -/
theorem countP_events_add_le [Work ω] {counts : Operation × Reply → Bool} {gained : Job ω → Nat}
    (step : ∀ (job : Job ω) (op : Operation),
      (if counts (op, (job.perform op).1) then 1 else 0) + gained job ≤ gained (job.perform op).2)
    (job : Job ω) (ops : List Operation) :
    (job.events ops).countP counts + gained job ≤ gained (job.performAll ops) := by
  induction ops generalizing job with
  | nil => exact Nat.le_of_eq (Nat.zero_add _)
  | cons op ops ih =>
    -- what the first operation adds is there when the others begin
    calc ((op, (job.perform op).1) :: (job.perform op).2.events ops).countP counts + gained job
        = ((job.perform op).2.events ops).countP counts +
            ((if counts (op, (job.perform op).1) then 1 else 0) + gained job) := by
          rw [List.countP_cons, Nat.add_assoc]
      _ ≤ ((job.perform op).2.events ops).countP counts + gained (job.perform op).2 :=
          Nat.add_le_add_left (step job op) _
      _ ≤ gained ((job.perform op).2.performAll ops) := ih _

/-! ### The place in the queue -/

/-- How many places in the queue a job has. -/
def places (job : Job ω) : Nat := job.insertionOrder.toList.length

theorem places_le_one (job : Job ω) : job.places ≤ 1 := by
  cases h : job.insertionOrder <;> simp [places, h]

theorem EvolvesTo.places {a b : Job ω} (h : a.EvolvesTo b) : a.places ≤ b.places := by
  cases order : a.insertionOrder with
  | none => simp [Job.places, order]
  | some n => simp [Job.places, order, h.insertionOrder n order]

/-- Whether an operation gave a job its place in the queue. -/
def placed : Operation × Reply → Bool
  | (.assignInsertionOrder _, .accepted answer) => answer
  | _ => false

variable [Work ω] {job : Job ω}

/-- An operation that gives a job its place finds it without one. -/
theorem places_perform (job : Job ω) (op : Operation) :
    (if placed (op, (job.perform op).1) then 1 else 0) + job.places ≤
      (job.perform op).2.places := by
  have kept := (job.perform_evolvesTo op).places
  split
  · next answer =>
    cases op with
    | assignInsertionOrder order =>
      cases h : job.insertionOrder with
      | none => simp [perform, assignInsertionOrder, places, h]
      | some n => simp [perform, assignInsertionOrder, placed, h] at answer
    | _ => contradiction
  · omega

/-- Each place that is given counts, and there is room for one only. -/
theorem places_performAll (job : Job ω) (ops : List Operation) :
    (job.events ops).countP placed + job.places ≤ (job.performAll ops).places :=
  countP_events_add_le places_perform job ops

/-! ### Every history -/

theorem Constructed.sound (made : job.Constructed) : job.Sound := by
  cases made with
  | built settings h =>
    obtain ⟨named, covers, status⟩ := Builder.build_eq_ok h
    rw [Builder.status_ofSettings] at status
    exact ⟨named, covers, status ▸ Status.coherent_flags .pending⟩
  | restored r work h =>
    have coherent := coherent_of_restore h
    obtain ⟨-, named, rfl⟩ := restore_eq_ok_iff.mp h
    exact ⟨named, NetworkWindows.covers_covering _, coherent⟩

theorem Constructed.sound_performAll (made : job.Constructed) (ops : List Operation) :
    (job.performAll ops).Sound :=
  (job.performAll_evolvesTo ops).sound made.sound

/-- What a job that was built or restored has become by some operations. -/
def Reachable (job : Job ω) : Prop :=
  ∃ made : Job ω, made.Constructed ∧ ∃ ops, made.performAll ops = job

theorem Reachable.sound (reachable : job.Reachable) : job.Sound := by
  obtain ⟨made, constructed, ops, rfl⟩ := reachable
  exact constructed.sound_performAll ops

/-- **What holds of a job for as long as it lives.** Take a job that was built or restored, and
what it has become after any operations. Its network window covers the unmetered one, so that a
job that requires an unmetered network requires a network, and one that waits for just the
unmetered one does so on a metered network. It has an id, and what identifies and bounds it is as
it was made. Its place in the queue stays, whatever follows, and was given to it at most once:
never, if it had one from the start. -/
theorem Constructed.invariants (made : job.Constructed) (ops : List Operation) :
    let later := job.performAll ops
    (later.windows.unmetered ≤ later.windows.network ∧
      (∀ now, later.constraints.requiresUnmetered now = true →
        later.constraints.requiresNetwork now = true) ∧
      ∀ now network, later.eligibility now network = .awaitingUnmetered → network = .metered) ∧
    (later.id ≠ "" ∧ later.id = job.id ∧ later.persistent = job.persistent ∧
      later.groupId = job.groupId ∧ later.tags = job.tags ∧ later.deadline = job.deadline ∧
      later.cancelOnDeadline = job.cancelOnDeadline) ∧
    (∀ order more, later.insertionOrder = some order →
      (later.performAll more).insertionOrder = some order) ∧
    (job.events ops).countP placed ≤ 1 ∧
    (job.insertionOrder.isSome = true → (job.events ops).countP placed = 0) := by
  intro later
  have sound : later.Sound := made.sound_performAll ops
  have evolved : job.EvolvesTo later := job.performAll_evolvesTo ops
  have counted : (job.events ops).countP placed + job.places ≤ 1 :=
    Nat.le_trans (job.places_performAll ops) later.places_le_one
  refine ⟨⟨sound.covers, fun _ => sound.requiresNetwork, fun _ _ =>
      sound.metered_of_awaitingUnmetered⟩,
    ⟨sound.named, evolved.id, evolved.persistent, evolved.groupId, evolved.tags,
      evolved.deadline, evolved.cancelOnDeadline⟩,
    fun order more => (later.performAll_evolvesTo more).insertionOrder order, by omega, ?_⟩
  intro had
  obtain ⟨order, eq⟩ := Option.isSome_iff_exists.mp had
  have one : job.places = 1 := by simp [places, eq]
  omega

/-- A job that is made with a network window that falls short, is given a place twice, and asks
for windows that fall short again, while the clock stands at its last reading. -/
theorem invariants_windows_raised :
    let step : Rehearsal.Step :=
      { code := .tryAgain
        retry := some (.fixed (RetryConstraint.again.withNetwork ⟨.never, .after (.ofMillis 5)⟩)) }
    let settings : List (Setting ScriptedWork) :=
      [.id "sync", .persistent true, .priority 3, .groupId none, .work ⟨⟨[step], {}, [], 3⟩⟩,
        .createdAt 10, .delayUntil .never, .session ⟨1⟩, .networkUntil .never,
        .unmeteredUntil (.upTo 40)]
    let ops : List Operation :=
      [.assignInsertionOrder 7, .assignInsertionOrder 8, .run 20,
        .apply .tryAgain Int64.maxValue]
    ∃ job, (Builder.ofSettings settings).build = .ok job ∧
      job.windows = ⟨.upTo 40, .upTo 40⟩ ∧
      (job.performAll ops).windows = ⟨.upTo Int64.maxValue, .upTo Int64.maxValue⟩ ∧
      (job.performAll ops).windows.unmetered ≤ (job.performAll ops).windows.network ∧
      (job.events ops).countP placed ≤ 1 := by
  intro step settings ops
  have built : ∃ job, (Builder.ofSettings settings).build = .ok job := ⟨_, rfl⟩
  obtain ⟨job, h⟩ := built
  obtain ⟨⟨covers, -⟩, -, -, once, -⟩ := Constructed.invariants (.built settings h) ops
  refine ⟨job, h, ?_, ?_, covers, once⟩
  · obtain rfl := Except.ok.inj h
    rfl
  · obtain rfl := Except.ok.inj h
    rfl

end DeferredJobs.Job
