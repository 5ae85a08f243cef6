import DeferredJobs.Proofs.Status.Marks
import DeferredJobs.Status.Handles

/-!
# Histories of shared handles

A history is a list of actions with their replies, carried out one after the other by any number
of holders (`Handles.Run`). Seen from one status, only the marks through its own handles count
(`Handles.marksOf`), and they act as if it were alone: `Handles.Run.trace`. What marks do to a
single status then settles what a history does to a shared one.
-/

namespace DeferredJobs

namespace Handles

/-- `hs.Run events hs'`: the actions, each with its reply, lead from `hs` to `hs'` one after the
other. -/
inductive Run : Handles → List (HandleAction × HandleReply) → Handles → Prop
  | done (hs : Handles) : Run hs [] hs
  | step {hs mid hs' : Handles} {action : HandleAction} {reply : HandleReply}
      {events : List (HandleAction × HandleReply)} (h : hs.perform? action = some (reply, mid))
      (rest : Run mid events hs') : Run hs ((action, reply) :: events) hs'

/-- The mark of an event and its answer, if it goes through a handle that shows status `i`. -/
def markOf? (hs : Handles) (i : Nat) : HandleAction × HandleReply → Option (Mark × Bool)
  | (.mark h m, .answer took) => if hs.shown[h]? = some i then some (m, took) else none
  | _ => none

/-- The marks of a history that go through handles of status `i`, with their answers. -/
def marksOf (hs : Handles) (i : Nat) (events : List (HandleAction × HandleReply)) :
    List (Mark × Bool) := events.filterMap (hs.markOf? i)

theorem marksOf_cons (hs : Handles) (i : Nat) (e : HandleAction × HandleReply)
    (events : List (HandleAction × HandleReply)) :
    hs.marksOf i (e :: events) = (hs.markOf? i e).toList ++ hs.marksOf i events := by
  rw [marksOf, List.filterMap_cons]
  cases hs.markOf? i e <;> rfl

variable {hs mid hs' : Handles} {action : HandleAction} {reply : HandleReply}
  {events : List (HandleAction × HandleReply)} {i : Nat} {s : Status}

/-! ### One action -/

/-- What an action does: a mark changes the status that its handle shows and nothing else, a
reading changes nothing, and the others issue a handle. -/
theorem perform?_cases (h : hs.perform? action = some (reply, mid)) :
    (∃ k m j t, action = .mark k m ∧ hs.shown[k]? = some j ∧ hs.statuses[j]? = some t ∧
      reply = .answer (t.mark m).1 ∧
      mid = { hs with statuses := hs.statuses.set j (t.mark m).2 }) ∨
    (∃ k t, action = .read k ∧ hs.get? k = some t ∧ reply = .flags t ∧ mid = hs) ∨
    (∃ k j, action = .share k ∧ hs.shown[k]? = some j ∧ reply = .issued hs.size ∧
      mid = { hs with shown := hs.shown ++ [j] }) ∨
    (action = .fresh ∧ reply = .issued hs.size ∧ mid = hs.fresh) := by
  cases action with
  | mark k m =>
    refine .inl ?_
    simp only [perform?, mark?, Option.bind_eq_bind, Option.bind_eq_some_iff, Option.pure_def,
      Option.some.injEq, Prod.mk.injEq] at h
    obtain ⟨-, ⟨j, hj, t, ht, rfl⟩, rfl, rfl⟩ := h
    exact ⟨k, m, j, t, rfl, hj, ht, rfl, rfl⟩
  | read k =>
    refine .inr (.inl ?_)
    simp only [perform?, Option.bind_eq_bind, Option.bind_eq_some_iff, Option.pure_def,
      Option.some.injEq, Prod.mk.injEq] at h
    obtain ⟨t, ht, rfl, rfl⟩ := h
    exact ⟨k, t, rfl, ht, rfl, rfl⟩
  | share k =>
    refine .inr (.inr (.inl ?_))
    simp only [perform?, share?, Option.bind_eq_bind, Option.bind_eq_some_iff, Option.pure_def,
      Option.some.injEq, Prod.mk.injEq] at h
    obtain ⟨-, ⟨j, hj, rfl⟩, rfl, rfl⟩ := h
    exact ⟨k, j, rfl, hj, rfl, rfl⟩
  | fresh =>
    refine .inr (.inr (.inr ?_))
    simp only [perform?, Option.some.injEq, Prod.mk.injEq] at h
    exact ⟨rfl, h.1.symm, h.2.symm⟩

/-- No action changes what an issued handle belongs to. -/
theorem perform?_shown (h : hs.perform? action = some (reply, mid)) : hs.shown <+: mid.shown := by
  obtain ⟨k, m, j, t, -, -, -, -, rfl⟩ | ⟨k, t, -, -, -, rfl⟩ | ⟨k, j, -, -, -, rfl⟩ |
    ⟨-, -, rfl⟩ := perform?_cases h
  · exact List.prefix_rfl
  · exact List.prefix_rfl
  · exact List.prefix_append _ _
  · exact List.prefix_append _ _

/-- Seen from a status, an action is a mark through one of its handles or nothing at all. -/
theorem perform?_trace (h : hs.perform? action = some (reply, mid))
    (hi : hs.statuses[i]? = some s) :
    ∃ t, mid.statuses[i]? = some t ∧ s.Trace (hs.markOf? i (action, reply)).toList t := by
  obtain ⟨k, m, j, t, rfl, hk, hj, rfl, rfl⟩ | ⟨k, t, rfl, -, rfl, rfl⟩ | ⟨k, j, rfl, -, rfl, rfl⟩ |
    ⟨rfl, rfl, rfl⟩ := perform?_cases h
  · -- a mark through a handle of another status leaves this one alone
    by_cases own : j = i
    · subst own
      obtain rfl := Option.some.inj (hi.symm.trans hj)
      have bound : j < hs.statuses.length := (List.getElem?_eq_some_iff.mp hj).1
      refine ⟨(s.mark m).2, by simp [bound], ?_⟩
      simpa [markOf?, hk] using Status.Trace.marked (.done _)
    · refine ⟨s, by simpa [List.getElem?_set_ne own] using hi, ?_⟩
      simpa [markOf?, hk, own] using Status.Trace.done s
  · exact ⟨s, hi, .done s⟩
  · exact ⟨s, hi, .done s⟩
  · have bound : i < hs.statuses.length := (List.getElem?_eq_some_iff.mp hi).1
    exact ⟨s, by simpa [fresh, List.getElem?_append_left bound] using hi, .done s⟩

/-- A handle belongs to the same job when more handles have been issued. -/
theorem shown_later (later : hs.shown <+: hs'.shown) {k j : Nat} (hk : hs.shown[k]? = some j) :
    hs'.shown[k]? = some j := by
  obtain ⟨more, eq⟩ := later
  have bound : k < hs.shown.length := (List.getElem?_eq_some_iff.mp hk).1
  rwa [← eq, List.getElem?_append_left bound]

theorem markOf?_eq (h : hs.perform? action = some (reply, mid)) (later : hs.shown <+: hs'.shown) :
    hs'.markOf? i (action, reply) = hs.markOf? i (action, reply) := by
  obtain ⟨k, m, j, t, rfl, hk, -, rfl, -⟩ | ⟨k, t, rfl, -, rfl, -⟩ | ⟨k, j, rfl, -, rfl, -⟩ |
    ⟨rfl, rfl, -⟩ := perform?_cases h
  · simp [markOf?, hk, shown_later later hk]
  · rfl
  · rfl
  · rfl

/-! ### Whole histories -/

namespace Run

theorem shown (run : hs.Run events hs') : hs.shown <+: hs'.shown := by
  induction run with
  | done => exact List.prefix_rfl
  | step h _ ih => exact (perform?_shown h).trans ih

/-- A history can be cut at any point. -/
theorem split {before after : List (HandleAction × HandleReply)}
    (run : hs.Run (before ++ after) hs') : ∃ mid, hs.Run before mid ∧ mid.Run after hs' := by
  induction before generalizing hs with
  | nil => exact ⟨hs, .done hs, run⟩
  | cons e before ih =>
    cases run with
    | step h rest =>
      obtain ⟨mid, first, second⟩ := ih rest
      exact ⟨mid, .step h first, second⟩

/-- What stands around an event of a history. -/
theorem around {before after : List (HandleAction × HandleReply)}
    (run : hs.Run (before ++ (action, reply) :: after) hs') :
    ∃ mid next, hs.Run before mid ∧ mid.perform? action = some (reply, next) ∧
      next.Run after hs' := by
  obtain ⟨mid, first, second⟩ := run.split
  cases second with
  | step h rest => exact ⟨mid, _, first, h, rest⟩

theorem marksOf_eq (run : hs.Run events mid) (later : mid.shown <+: hs'.shown) :
    hs'.marksOf i events = mid.marksOf i events := by
  induction run with
  | done => rfl
  | step h rest ih =>
    have own := (perform?_shown h).trans rest.shown
    rw [marksOf_cons, marksOf_cons, ih later, markOf?_eq h own, markOf?_eq h (own.trans later)]

/-- **Seen from one status**, a history is the marks through its own handles. -/
theorem trace (run : hs.Run events hs') (hi : hs.statuses[i]? = some s) :
    ∃ t, hs'.statuses[i]? = some t ∧ s.Trace (hs'.marksOf i events) t := by
  induction run generalizing s with
  | done => exact ⟨s, hi, .done s⟩
  | @step hs mid hs' action reply events h rest ih =>
    -- the marks are read off with the handles at the end, which agree on those of this event
    obtain ⟨u, hu, first⟩ := perform?_trace h hi
    obtain ⟨t, ht, later⟩ := ih hu
    refine ⟨t, ht, ?_⟩
    rw [marksOf_cons, markOf?_eq h ((perform?_shown h).trans rest.shown)]
    exact first.append later

/-- A shared handle belongs to the same job as the one that it was shared from. -/
theorem shown_share (run : hs.Run events hs') {k l : Nat}
    (shared : (.share k, .issued l) ∈ events) : hs'.shown[l]? = hs'.shown[k]? := by
  obtain ⟨before, after, rfl⟩ := List.append_of_mem shared
  obtain ⟨mid, next, -, h, rest⟩ := run.around
  obtain ⟨_, _, _, _, ⟨⟩, -⟩ | ⟨_, _, ⟨⟩, -⟩ | ⟨_, j, ⟨⟩, hk, ⟨⟩, rfl⟩ | ⟨⟨⟩, -⟩ := perform?_cases h
  have hl : (mid.shown ++ [j])[mid.size]? = some j := by simp [size]
  rw [shown_later rest.shown hl, shown_later (((List.prefix_append _ _).trans rest.shown)) hk]

/-- A fresh handle belongs to a job that had no handle before. -/
theorem shown_fresh (run : hs.Run events hs') {k : Nat} (issued : (.fresh, .issued k) ∈ events)
    (hi : hs.statuses[i]? = some s) : ∃ j, j ≠ i ∧ hs'.shown[k]? = some j := by
  obtain ⟨before, after, rfl⟩ := List.append_of_mem issued
  obtain ⟨mid, next, first, h, rest⟩ := run.around
  obtain ⟨_, _, _, _, ⟨⟩, -⟩ | ⟨_, _, ⟨⟩, -⟩ | ⟨_, _, ⟨⟩, -⟩ | ⟨-, ⟨⟩, rfl⟩ := perform?_cases h
  -- the new status comes after all that are there, that of `i` among them
  obtain ⟨t, ht, -⟩ := first.trace hi
  have bound : i < mid.statuses.length := (List.getElem?_eq_some_iff.mp ht).1
  have hk : mid.fresh.shown[mid.size]? = some mid.statuses.length := by simp [fresh, size]
  exact ⟨mid.statuses.length, by omega, shown_later rest.shown hk⟩

/-- A reading shows the flags of its job at that point of the history. -/
theorem read_eq {before after : List (HandleAction × HandleReply)} {k : Nat} {u : Status}
    (run : hs.Run (before ++ (.read k, .flags u) :: after) hs') (hk : hs'.shown[k]? = some i) :
    ∃ mid, hs.Run before mid ∧ mid.statuses[i]? = some u ∧ mid.Run after hs' := by
  obtain ⟨mid, next, first, h, rest⟩ := run.around
  obtain ⟨_, _, _, _, ⟨⟩, -⟩ | ⟨_, _, ⟨⟩, hu, ⟨⟩, rfl⟩ | ⟨_, _, ⟨⟩, -⟩ | ⟨⟨⟩, -⟩ := perform?_cases h
  simp only [get?, Option.bind_eq_bind, Option.bind_eq_some_iff] at hu
  obtain ⟨j, hj, hu⟩ := hu
  obtain rfl := Option.some.inj ((shown_later rest.shown hj).symm.trans hk)
  exact ⟨next, first, hu, rest⟩

end Run

/-! ### Any number of holders -/

/-- **The first mark decides for all holders.** Take any history in which holders act on handles,
one step at a time, and any status `i` that starts with flags `s` as the storage yields them (a
new job has none set). Then the marks through its own handles, and no others, lead to the flags
`t` as `Status.FirstMarkDecides` says; all its handles show `t` and take further marks; what was
read on the way are the flags that the marks up to there had led to, and no flag goes back after
a reading; handles that were shared belong to the same job, and fresh ones to other jobs. -/
theorem first_mark_decides {cancelled singleId successful : Bool} (run : hs.Run events hs')
    (hi : hs.statuses[i]? = some s)
    (accepted : Status.ofFlags? cancelled singleId successful = some s) :
    ∃ t, hs'.statuses[i]? = some t ∧ s.FirstMarkDecides (hs'.marksOf i events) t ∧
      (∀ k, hs'.shown[k]? = some i → hs'.get? k = some t ∧
        ∀ m, ∃ after, hs'.perform? (.mark k m) = some (.answer (t.mark m).1, after)) ∧
      (∀ before k u after, events = before ++ (.read k, .flags u) :: after →
        hs'.shown[k]? = some i → s.FirstMarkDecides (hs'.marksOf i before) u ∧ u ≤ t) ∧
      (∀ k l, (.share k, .issued l) ∈ events → hs'.shown[l]? = hs'.shown[k]?) ∧
      (∀ k, (.fresh, .issued k) ∈ events → ∃ j, j ≠ i ∧ hs'.shown[k]? = some j) := by
  have coherent := Status.coherent_of_ofFlags? accepted
  obtain ⟨t, ht, marks⟩ := run.trace hi
  refine ⟨t, ht, marks.firstMarkDecides coherent, fun k hk => ⟨?_, fun m => ?_⟩, ?_,
    fun k l => run.shown_share, fun k issued => run.shown_fresh issued hi⟩
  · simp [get?, hk, ht]
  · simp [perform?, mark?, hk, ht]
  · rintro before k u after rfl hk
    obtain ⟨mid, first, hu, rest⟩ := run.read_eq hk
    obtain ⟨v, hv, marked⟩ := first.trace hi
    obtain rfl := Option.some.inj (hu.symm.trans hv)
    obtain ⟨w, hw, later⟩ := rest.trace hu
    obtain rfl := Option.some.inj (ht.symm.trans hw)
    rw [first.marksOf_eq rest.shown]
    exact ⟨marked.firstMarkDecides coherent, later.le⟩

/-- One holder cancels, the other fails to report success and asks for the single-id mark in vain,
which shows all the same; meanwhile another job succeeds. -/
theorem first_mark_decides_late_single_id :
    let events : List (HandleAction × HandleReply) :=
      [(.share 0, .issued 1), (.mark 1 .cancelled, .answer true), (.fresh, .issued 2),
        (.mark 0 .successful, .answer false), (.mark 2 .successful, .answer true),
        (.read 0, .flags ⟨true, false, false⟩), (.mark 0 .cancelledSingleId, .answer false)]
    let hs' : Handles := ⟨[⟨true, true, false⟩, ⟨false, false, true⟩], [0, 0, 1]⟩
    start.Run events hs' ∧ Status.ofFlags? false false false = some .fresh ∧
      ∃ t, hs'.statuses[0]? = some t ∧ Status.fresh.FirstMarkDecides (hs'.marksOf 0 events) t := by
  intro events hs'
  have run : start.Run events hs' :=
    .step rfl (.step rfl (.step rfl (.step rfl (.step rfl (.step rfl (.step rfl (.done _)))))))
  have accepted : Status.ofFlags? false false false = some .fresh := rfl
  obtain ⟨t, ht, decides, -⟩ := first_mark_decides run (i := 0) rfl accepted
  exact ⟨run, accepted, t, ht, decides⟩

end Handles

end DeferredJobs
