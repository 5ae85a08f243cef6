import DeferredJobs.Status

/-!
# Marks on a status

Flags that do not contradict each other say no more than a `JobState`, and marks move them like a
machine with these states: `JobState.flags` writes a state as flags, and `JobState.takes` and
`JobState.after` say how a mark is answered and where it leads. `Status.mark_flags` ties the two.

* **Coherence** (`Status.Coherent`): what the storage yields is coherent, and marks keep it so.
* **Growth** (`Status.le_mark`): no mark takes a flag back.
* **Finality** (`Status.Trace.of_successful`, `Status.Trace.of_cancelled`): however many marks
  follow, a successful job stays as it is, and a cancelled one gains at most the single-id flag.
* **The first mark** (`Status.Trace.firstMarkDecides`) therefore settles how a job ends, and how it
  ends tells of the first mark (`Status.Coherent.marks_of_cancelled`).
-/

namespace DeferredJobs

namespace JobState

/-- The flags of a job in a state. -/
def flags : JobState → Status
  | pending => {}
  | cancelled singleId => { cancelled := true, cancelledSingleId := singleId }
  | successful => { successful := true }

/-- Whether a mark is answered with yes in a state. -/
def takes : JobState → Mark → Bool
  | pending, _ => true
  | cancelled _, _ => false
  | successful, m => m == .successful

/-- The state after a mark. -/
def after : JobState → Mark → JobState
  | pending, .cancelled => cancelled false
  | pending, .cancelledSingleId => cancelled true
  | pending, .successful => successful
  | cancelled singleId, m => cancelled (singleId || m == .cancelledSingleId)
  | successful, _ => successful

@[simp] theorem state_flags (j : JobState) : j.flags.state = j := by cases j <;> rfl

end JobState

namespace Status

/-! ### Coherent flags -/

/-- Flags that do not contradict each other. -/
structure Coherent (s : Status) : Prop where
  /-- Cancellation and success exclude each other. -/
  exclusive : ¬(s.cancelled = true ∧ s.successful = true)
  /-- The single-id flag implies the cancelled one. -/
  implied : s.cancelledSingleId = true → s.cancelled = true

theorem coherent_flags (j : JobState) : j.flags.Coherent := by
  cases j <;> constructor <;> simp [JobState.flags]

/-- Coherent flags are those of their state. -/
theorem Coherent.flags_state {s : Status} (h : s.Coherent) : s.state.flags = s := by
  obtain ⟨cancelled, singleId, successful⟩ := s
  obtain ⟨exclusive, implied⟩ := h
  -- four of the eight triples are flags of a state, the others are not coherent
  cases cancelled <;> cases singleId <;> cases successful <;> first | rfl | simp_all

theorem cancelledSingleId_of_state {s : Status} {singleId : Bool}
    (h : s.state = .cancelled singleId) : s.cancelledSingleId = singleId := by
  rw [state] at h
  grind

/-- The state of coherent flags, if one of them says that the job is cancelled. -/
theorem Coherent.state_of_cancelled {s : Status} (h : s.Coherent)
    (cancelled : s.cancelled = true) : s.state = .cancelled s.cancelledSingleId := by
  have unsuccessful : ¬s.successful = true := fun successful => h.exclusive ⟨cancelled, successful⟩
  rw [state, if_neg unsuccessful, if_pos cancelled]

/-- The storage yields coherent flags or none. -/
theorem coherent_of_ofFlags? {cancelled singleId successful : Bool} {s : Status}
    (h : ofFlags? cancelled singleId successful = some s) : s.Coherent := by
  simp only [ofFlags?] at h
  split at h
  · contradiction
  · next exclusive =>
    obtain rfl := Option.some.inj h
    exact ⟨by simpa using exclusive, fun single => by simp_all⟩

/-! ### One mark -/

/-- **Marks move states.** On the flags of a state, a mark is answered and leads on as
`JobState.takes` and `JobState.after` say. -/
theorem mark_flags (j : JobState) (m : Mark) : j.flags.mark m = (j.takes m, (j.after m).flags) := by
  cases j with
  | pending => cases m <;> rfl
  | cancelled singleId => cases m <;> cases singleId <;> rfl
  | successful => cases m <;> rfl

theorem Coherent.mark {s : Status} (h : s.Coherent) (m : Mark) : (s.mark m).2.Coherent := by
  rw [← h.flags_state, mark_flags]
  exact coherent_flags _

/-- Statuses are ordered by their flags: each one that is set in the lesser is set in the
greater. -/
instance : LE Status where
  le s t := (s.cancelled → t.cancelled) ∧ (s.cancelledSingleId → t.cancelledSingleId) ∧
    (s.successful → t.successful)

theorem le_refl (s : Status) : s ≤ s := ⟨id, id, id⟩

theorem le_trans {s t u : Status} (h : s ≤ t) (h' : t ≤ u) : s ≤ u :=
  ⟨h'.1 ∘ h.1, h'.2.1 ∘ h.2.1, h'.2.2 ∘ h.2.2⟩

/-- No mark takes a flag back. -/
theorem le_mark (s : Status) (m : Mark) : s ≤ (s.mark m).2 := by
  cases m <;> simp only [mark, markCancelled, markCancelledSingleId, markSuccessful] <;> split <;>
    exact ⟨by simp, by simp, by simp⟩

/-! ### Many marks -/

/-- `s.Trace marks t`: the marks, each with its answer, lead from `s` to `t` one after the
other. -/
inductive Trace : Status → List (Mark × Bool) → Status → Prop
  | done (s : Status) : Trace s [] s
  | marked {s t : Status} {m : Mark} {marks : List (Mark × Bool)}
      (rest : Trace (s.mark m).2 marks t) : Trace s ((m, (s.mark m).1) :: marks) t

/-- Any marks can be followed one by one. -/
theorem exists_trace (s : Status) (marks : List Mark) :
    ∃ answered, answered.map Prod.fst = marks ∧
      s.Trace answered (marks.foldl (fun status m => (status.mark m).2) s) := by
  induction marks generalizing s with
  | nil => exact ⟨[], rfl, .done s⟩
  | cons m marks ih =>
    obtain ⟨answered, same, trace⟩ := ih (s.mark m).2
    exact ⟨(m, (s.mark m).1) :: answered, congrArg (m :: ·) same, .marked trace⟩

namespace Trace

variable {s t u : Status} {marks marks' : List (Mark × Bool)}

theorem append (h : s.Trace marks t) (h' : t.Trace marks' u) : s.Trace (marks ++ marks') u := by
  induction h with
  | done => exact h'
  | marked _ ih => exact .marked (ih h')

theorem coherent (h : s.Trace marks t) (hs : s.Coherent) : t.Coherent := by
  induction h with
  | done => exact hs
  | marked _ ih => exact ih (hs.mark _)

theorem le (h : s.Trace marks t) : s ≤ t := by
  induction h with
  | done => exact le_refl _
  | marked _ ih => exact le_trans (le_mark _ _) ih

/-- **Success is final**: it is confirmed whenever it is marked again, and cancellation is
refused without any effect. -/
theorem of_successful (h : JobState.successful.flags.Trace marks t) :
    t = JobState.successful.flags ∧ ∀ e ∈ marks, e.2 = (e.1 == .successful) := by
  induction marks with
  | nil =>
    cases h
    exact ⟨rfl, nofun⟩
  | cons e marks ih =>
    cases h with
    | marked rest =>
      rw [mark_flags] at rest ⊢
      obtain ⟨ht, answers⟩ := ih rest
      exact ⟨ht, List.forall_mem_cons.mpr ⟨rfl, answers⟩⟩

/-- **Cancellation is final**: every later mark is refused, and the single-id flag shows whether
there was a single-id mark among them. -/
theorem of_cancelled {singleId : Bool} (h : (JobState.cancelled singleId).flags.Trace marks t) :
    t = (JobState.cancelled (singleId || marks.any (·.1 == .cancelledSingleId))).flags ∧
      ∀ e ∈ marks, e.2 = false := by
  induction marks generalizing singleId with
  | nil =>
    cases h
    exact ⟨by simp, nofun⟩
  | cons e marks ih =>
    cases h with
    | marked rest =>
      rw [mark_flags] at rest ⊢
      obtain ⟨ht, answers⟩ := ih rest
      exact ⟨by simpa [Bool.or_assoc] using ht, List.forall_mem_cons.mpr ⟨rfl, answers⟩⟩

end Trace

/-! ### The first mark -/

/-- What is to be said of marks, with their answers, that lead from the flags `s` to `t`. -/
structure FirstMarkDecides (s : Status) (marks : List (Mark × Bool)) (t : Status) : Prop where
  /-- Cancellation and success exclude each other; the single-id flag implies the cancelled one. -/
  coherent : t.Coherent
  /-- No flag goes back. -/
  grown : s ≤ t
  /-- Without marks nothing changes. -/
  unmarked : marks = [] → t = s
  /-- If a pending job is marked successful first, it is successful from then on: every mark of
  success is confirmed, and every cancellation is refused. -/
  success_first : s.state = .pending → ∀ took rest, marks = (.successful, took) :: rest →
    took = true ∧ t.state = .successful ∧ ∀ e ∈ rest, e.2 = (e.1 == .successful)
  /-- If a pending job is cancelled first, it is cancelled from then on and no other mark is
  confirmed. It counts as cancelled by single id once any mark asked for that. -/
  cancel_first : s.state = .pending → ∀ m took rest, m ≠ .successful → marks = (m, took) :: rest →
    took = true ∧ t.state = .cancelled (marks.any (·.1 == .cancelledSingleId)) ∧
      ∀ e ∈ rest, e.2 = false
  /-- A job that has succeeded before is as if it had been marked so first. -/
  successful_before : s.state = .successful →
    t.state = .successful ∧ ∀ e ∈ marks, e.2 = (e.1 == .successful)
  /-- A job that was cancelled before is as if it had been marked so first. -/
  cancelled_before : ∀ singleId, s.state = .cancelled singleId →
    t.state = .cancelled (singleId || marks.any (·.1 == .cancelledSingleId)) ∧
      ∀ e ∈ marks, e.2 = false

/-- **The first mark decides** how a job ends, whatever marks follow. -/
theorem Trace.firstMarkDecides {s t : Status} {marks : List (Mark × Bool)}
    (h : s.Trace marks t) (hs : s.Coherent) : s.FirstMarkDecides marks t where
  coherent := h.coherent hs
  grown := h.le
  unmarked := by
    rintro rfl
    cases h
    rfl
  success_first pending took rest first := by
    subst first
    rw [← hs.flags_state, pending] at h
    cases h with
    | marked later =>
      obtain ⟨rfl, answers⟩ := later.of_successful
      exact ⟨rfl, rfl, answers⟩
  cancel_first pending m took rest cancels first := by
    subst first
    rw [← hs.flags_state, pending] at h
    cases h with
    | marked later =>
      rw [mark_flags] at later ⊢
      -- the first mark alone accounts for the single-id flag so far
      have cancelled : JobState.pending.after m = .cancelled (m == .cancelledSingleId) := by
        cases m <;> first | rfl | contradiction
      rw [cancelled] at later
      obtain ⟨rfl, answers⟩ := later.of_cancelled
      exact ⟨rfl, JobState.state_flags _, answers⟩
  successful_before successful := by
    rw [← hs.flags_state, successful] at h
    obtain ⟨rfl, answers⟩ := h.of_successful
    exact ⟨rfl, answers⟩
  cancelled_before singleId cancelled := by
    rw [← hs.flags_state, cancelled] at h
    obtain ⟨rfl, answers⟩ := h.of_cancelled
    exact ⟨JobState.state_flags _, answers⟩

/-- A pending job is cancelled, and not in favour of another one, by a mark that comes first. -/
theorem Coherent.marks_of_cancelled {s : Status} {marks : List Mark} (h : s.Coherent)
    (pending : s.state = .pending)
    (cancelled : (marks.foldl (fun status m => (status.mark m).2) s).state = .cancelled false) :
    marks.head? = some .cancelled ∧ .cancelledSingleId ∉ marks := by
  obtain ⟨answered, rfl, trace⟩ := s.exists_trace marks
  have decides := trace.firstMarkDecides h
  match answered with
  | [] =>
    rw [decides.unmarked rfl, pending] at cancelled
    contradiction
  | (m, took) :: rest =>
    by_cases success : m = .successful
    · obtain ⟨-, successful, -⟩ := decides.success_first pending took rest (by rw [success])
      rw [cancelled] at successful
      contradiction
    · obtain ⟨-, state, -⟩ := decides.cancel_first pending m took rest success rfl
      have none : ((m, took) :: rest).any (·.1 == .cancelledSingleId) = false :=
        (JobState.cancelled.inj (cancelled.symm.trans state)).symm
      have absent : .cancelledSingleId ∉ ((m, took) :: rest).map Prod.fst := by
        rw [List.mem_map]
        rintro ⟨e, mem, single⟩
        exact Bool.eq_false_iff.mp none (List.any_eq_true.mpr ⟨e, mem, beq_iff_eq.mpr single⟩)
      refine ⟨?_, absent⟩
      -- of the three marks, only this one is left
      cases m with
      | cancelled => rfl
      | cancelledSingleId => exact absurd List.mem_cons_self absent
      | successful => contradiction

end Status

end DeferredJobs
