import DeferredJobs.Proofs.Constraints.Course
import DeferredJobs.Report.Watch

/-!
# Nothing but changes

A watch remembers, for each id, the eligibility that it reported last, and it keeps to itself what
is the same. The verdicts that it computes (`computed`) are a longer list than what it reports.

* **One verdict** (`Reported.Knows`): what was reported last under an id is what was computed last
  under it, so that what is reported are the changes among what is computed (`watch_eq_changes`).
* **One id** (`Notice.under_changes`): the changes under an id are what was computed under it, with
  consecutive repetitions removed, and the last of them is up to date (`Notice.latest?_changes`).
* **One record** (`Record.destutter_sublist_course`): if no other record has its id, what is
  computed under it is what the record is told in the course of time, which changes three times at
  most.

`watch_reports_changes` puts this together.
-/

namespace DeferredJobs

variable {records : List Record} {network : Connectivity} {readings : List Nanos}

/-- All verdicts that a watch computes, tick by tick, and at each tick in the order of the
records. -/
def computed (records : List Record) (network : Connectivity) (readings : List Nanos) :
    List Notice :=
  readings.flatMap fun now => (check records now network).map (⟨now, ·⟩)

namespace Notice

/-! ### Changes -/

/-- The notices under an id. -/
def under (id : String) (notices : List Notice) : List Notice :=
  notices.filter (·.verdict.id == id)

/-- What the last notice under an id says. -/
def latest? (id : String) (notices : List Notice) : Option Eligibility :=
  (under id notices).getLast?.map (·.verdict.eligibility)

/-- Whether a notice does not say what the last one before it under its id says. -/
def isChange (before : List Notice) (n : Notice) : Bool :=
  latest? n.verdict.id before != some n.verdict.eligibility

/-- Two notices say different things. -/
def Differs (m n : Notice) : Prop := m.verdict.eligibility ≠ n.verdict.eligibility

instance : DecidableRel Differs := fun _ _ => inferInstanceAs (Decidable (_ ≠ _))

/-- The changes among notices that follow others. -/
def changes (before : List Notice) : List Notice → List Notice
  | [] => []
  | n :: later =>
    if n.isChange before then n :: changes (before ++ [n]) later
    else changes (before ++ [n]) later

variable {before : List Notice} {n : Notice} {id : String}

theorem latest?_concat :
    latest? id (before ++ [n]) =
      if n.verdict.id = id then some n.verdict.eligibility else latest? id before := by
  rw [latest?, under, List.filter_append]
  split
  · next same => simp [same]
  · next other => simp [other, latest?, under]

theorem isChange_eq_false_iff :
    n.isChange before = false ↔ latest? n.verdict.id before = some n.verdict.eligibility := by
  rw [isChange, bne_eq_false_iff_eq]

/-- What repeats the last notice under its id leaves nothing to be said. -/
theorem latest?_concat_of_repeats (repeats : n.isChange before = false) (id : String) :
    latest? id (before ++ [n]) = latest? id before := by
  rw [latest?_concat]
  split
  · next same => rw [← same, isChange_eq_false_iff.mp repeats]
  · rfl

theorem changes_append (before xs ys : List Notice) :
    changes before (xs ++ ys) = changes before xs ++ changes (before ++ xs) ys := by
  induction xs generalizing before with
  | nil => rw [List.append_nil, List.nil_append, changes, List.nil_append]
  | cons n xs ih =>
    rw [List.cons_append, changes, changes, ih, List.append_assoc, List.singleton_append]
    split <;> rfl

/-- The changes are found by looking at what stands before each notice. -/
theorem changes_eq_filter (before l : List Notice) :
    changes before l =
      (l.zipIdx.filter fun e => e.1.isChange (before ++ l.take e.2)).map Prod.fst := by
  induction l generalizing before with
  | nil => rfl
  | cons n l ih =>
    have rest : ((l.zipIdx 1).filter fun e => e.1.isChange (before ++ (n :: l).take e.2)).map
        Prod.fst = changes (before ++ [n]) l := by
      rw [ih, List.zipIdx_succ, List.filter_map, List.map_map]
      simp [Function.comp_def]
    rw [changes, List.zipIdx_cons, List.filter_cons, List.take_zero, List.append_nil]
    split
    · rw [List.map_cons, rest]
    · exact rest.symm

/-- The last change under an id is up to date. -/
theorem latest?_append_changes {shown : List Notice}
    (current : latest? id shown = latest? id before) (l : List Notice) :
    latest? id (shown ++ changes before l) = latest? id (before ++ l) := by
  induction l generalizing shown before with
  | nil => rw [changes, List.append_nil, List.append_nil, current]
  | cons n l ih =>
    rw [changes, List.append_cons before n l]
    split
    · have still : latest? id (shown ++ [n]) = latest? id (before ++ [n]) := by
        rw [latest?_concat, latest?_concat, current]
      rw [← ih still, ← List.append_cons]
    · next repeats =>
      refine ih (current.trans (latest?_concat_of_repeats ?_ id).symm)
      exact Bool.eq_false_iff.mpr repeats

theorem latest?_changes (id : String) (l : List Notice) :
    latest? id (changes [] l) = latest? id l := by
  have current : latest? id [] = latest? id [] := rfl
  exact latest?_append_changes current l

/-! ### Changes under one id -/

theorem under_cons (id : String) (n : Notice) (l : List Notice) :
    under id (n :: l) = if n.verdict.id = id then n :: under id l else under id l := by
  rw [under, List.filter_cons]
  simp only [beq_iff_eq, under]

/-- After a notice, the changes under its id are what differs from the one before. -/
theorem cons_under_changes (l : List Notice) {last : Notice}
    (said : latest? id before = some last.verdict.eligibility) :
    last :: under id (changes before l) = (under id l).destutter' Differs last := by
  induction l generalizing before last with
  | nil => rfl
  | cons n l ih =>
    rw [changes, under_cons]
    by_cases same : n.verdict.id = id
    · have next : latest? id (before ++ [n]) = some n.verdict.eligibility := by
        rw [latest?_concat, if_pos same]
      rw [if_pos same]
      by_cases differs : Differs last n
      · have change : n.isChange before = true := by
          rw [isChange, same, said, bne_iff_ne, Ne, Option.some.injEq]
          exact differs
        rw [if_pos change, under_cons, if_pos same, List.destutter'_cons_pos _ differs, ih next]
      · have equal : last.verdict.eligibility = n.verdict.eligibility := not_not.mp differs
        have repeats : ¬n.isChange before = true := by
          rw [Bool.not_eq_true, isChange_eq_false_iff, same, said, equal]
        rw [if_neg repeats, List.destutter'_cons_neg _ differs, ih (next.trans (equal ▸ rfl))]
    · have next : latest? id (before ++ [n]) = some last.verdict.eligibility := by
        rw [latest?_concat, if_neg same, said]
      rw [if_neg same, ← ih next]
      split
      · rw [under_cons, if_neg same]
      · rfl

/-- **Changes under an id** are what stands under it, with consecutive repetitions removed. -/
theorem under_changes (id : String) (l : List Notice) (before : List Notice)
    (silent : latest? id before = none) :
    under id (changes before l) = (under id l).destutter Differs := by
  induction l generalizing before with
  | nil => rfl
  | cons n l ih =>
    rw [changes, under_cons]
    by_cases same : n.verdict.id = id
    · have change : n.isChange before = true := by
        rw [isChange, same, silent]
        rfl
      have next : latest? id (before ++ [n]) = some n.verdict.eligibility := by
        rw [latest?_concat, if_pos same]
      rw [if_pos change, if_pos same, under_cons, if_pos same, List.destutter_cons',
        cons_under_changes l next]
    · have next : latest? id (before ++ [n]) = none := by
        rw [latest?_concat, if_neg same, silent]
      rw [if_neg same, ← ih _ next]
      split
      · rw [under_cons, if_neg same]
      · rfl

/-- Without repetitions, notices say what is said without repetitions. -/
theorem map_destutter (l : List Notice) :
    (l.destutter Differs).map (·.verdict.eligibility) =
      (l.map (·.verdict.eligibility)).destutter (· ≠ ·) :=
  List.map_destutter fun _ _ _ _ => Iff.rfl

end Notice

open Notice

/-! ### What a watch remembers -/

namespace Reported

variable {seen : Reported} {before : List Notice}

theorem lookup_filter_ne {id other : String} (h : id ≠ other) (seen : Reported) :
    (seen.filter (·.1 != other)).lookup id = seen.lookup id := by
  induction seen with
  | nil => rfl
  | cons entry seen ih =>
    obtain ⟨key, e⟩ := entry
    by_cases dropped : key = other
    · have missed : (id == key) = false := by simpa [dropped] using h
      rw [List.filter_cons_of_neg (by simp [dropped]), ih, List.lookup_cons, missed]
    · rw [List.filter_cons_of_pos (by simp [dropped]), List.lookup_cons, List.lookup_cons, ih]

theorem lookup_note (seen : Reported) (v : Verdict) (id : String) :
    (seen.note v).lookup id = if v.id = id then some v.eligibility else seen.lookup id := by
  rw [note, List.lookup_cons]
  split
  · next found => rw [if_pos (beq_iff_eq.mp found).symm]
  · next missed =>
    have other : id ≠ v.id := beq_eq_false_iff_ne.mp missed
    rw [if_neg other.symm, lookup_filter_ne other]

/-- What is remembered for each id is what was computed last under it. -/
def Knows (seen : Reported) (before : List Notice) : Prop :=
  ∀ id, seen.lookup id = latest? id before

theorem Knows.isNews_eq (knows : seen.Knows before) (n : Notice) :
    seen.isNews n.verdict = n.isChange before := by
  rw [isNews, knows, isChange]

/-- **One tick.** What is reported are the changes among what is computed, and then it is known
what was computed last. -/
theorem Knows.select (knows : seen.Knows before) (now : Nanos) (vs : List Verdict) :
    (seen.select vs).1.map (⟨now, ·⟩) = changes before (vs.map (⟨now, ·⟩)) ∧
      (seen.select vs).2.Knows (before ++ vs.map (⟨now, ·⟩)) := by
  induction vs generalizing seen before with
  | nil => exact ⟨rfl, by rwa [List.map_nil, List.append_nil]⟩
  | cons v vs ih =>
    rw [Reported.select, List.map_cons, changes, ← knows.isNews_eq ⟨now, v⟩,
      List.append_cons before ⟨now, v⟩ (vs.map _)]
    split
    · have noted : (seen.note v).Knows (before ++ [⟨now, v⟩]) := fun id => by
        rw [lookup_note, latest?_concat, knows]
      obtain ⟨reports, after⟩ := ih noted
      exact ⟨congrArg (List.cons _) reports, after⟩
    · next old =>
      have repeats : isChange before ⟨now, v⟩ = false := by
        rw [← knows.isNews_eq]
        exact Bool.eq_false_iff.mpr old
      exact ih fun id => (knows id).trans (latest?_concat_of_repeats repeats id).symm

end Reported

/-- Any number of ticks. -/
theorem Reported.Knows.watchFrom_eq {seen : Reported} {before : List Notice}
    (knows : seen.Knows before) (records : List Record) (network : Connectivity)
    (readings : List Nanos) :
    watchFrom records network seen readings =
      changes before (computed records network readings) := by
  induction readings generalizing seen before with
  | nil => rfl
  | cons now readings ih =>
    obtain ⟨reports, after⟩ := knows.select now (check records now network)
    rw [computed, List.flatMap_cons, changes_append, ← reports]
    exact congrArg _ (ih after)

/-- **What is reported** are the changes among what is computed. -/
theorem watch_eq_changes (records : List Record) (network : Connectivity) (readings : List Nanos) :
    watch records network readings = changes [] (computed records network readings) :=
  Reported.Knows.watchFrom_eq (fun _ => rfl) records network readings

/-- What is reported at some ticks stands, whatever ticks follow. -/
theorem watch_prefix_watch (records : List Record) (network : Connectivity)
    (before after : List Nanos) :
    watch records network before <+: watch records network (before ++ after) := by
  have split : computed records network (before ++ after) =
      computed records network before ++ computed records network after := List.flatMap_append
  rw [watch_eq_changes, watch_eq_changes, split, changes_append]
  exact List.prefix_append _ _

/-! ### One record -/

namespace Record

/-- What is computed for a record in the course of time. -/
def verdicts (r : Record) (network : Connectivity) (readings : List Nanos) : List Notice :=
  readings.map fun now => ⟨now, r.verdict now network⟩

/-- What a record may be told on a network, in this order. -/
def course (r : Record) (network : Connectivity) : List Eligibility :=
  match r.state with
  | .pending => r.constraints.course network
  | .cancelled _ => [.cancelled]
  | .successful => [.completed]

theorem length_course_le (r : Record) (network : Connectivity) :
    (r.course network).length ≤ 4 := by
  rw [course]
  split
  · exact Nat.le_of_eq (r.constraints.length_course network)
  · decide
  · decide

theorem destutter_sublist_course (r : Record) (network : Connectivity)
    (later : readings.Pairwise (· ≤ ·)) :
    ((readings.map (r.eligibility · network)).destutter (· ≠ ·)).Sublist (r.course network) := by
  -- who is cancelled or done is told the same all the time
  have constant (e : Eligibility) :
      ((readings.map fun _ => e).destutter (· ≠ ·)).Sublist [e] := by
    refine destutter_sublist_of_moves ?_ (by simp) (List.pairwise_singleton _ e)
    exact List.pairwise_map.mpr (later.imp fun _ => .inl rfl)
  simp only [course, eligibility]
  cases r.state with
  | pending =>
    exact Constraints.destutter_sublist_course (NetworkWindows.covers_covering _) network later
  | cancelled singleId => exact constant .cancelled
  | successful => exact constant .completed

/-- Who has an id alone is found by it. -/
theorem filter_id_eq_singleton {r : Record} (distinct : (records.map (·.id)).Nodup)
    (member : r ∈ records) : records.filter (·.id == r.id) = [r] := by
  induction records with
  | nil => contradiction
  | cons s records ih =>
    rw [List.map_cons, List.nodup_cons] at distinct
    obtain ⟨alone, distinct⟩ := distinct
    obtain rfl | later := List.mem_cons.mp member
    · have others : records.filter (·.id == r.id) = [] := List.filter_eq_nil_iff.mpr
        fun s other same => alone (List.mem_map.mpr ⟨s, other, beq_iff_eq.mp same⟩)
      rw [List.filter_cons, if_pos (beq_self_eq_true r.id), others]
    · have other : ¬(s.id == r.id) = true := fun same =>
        alone (List.mem_map.mpr ⟨r, later, (beq_iff_eq.mp same).symm⟩)
      rw [List.filter_cons, if_neg other, ih distinct later]

/-- What is computed under the id of a record that has it alone. -/
theorem under_computed {r : Record} (distinct : (records.map (·.id)).Nodup)
    (member : r ∈ records) (network : Connectivity) (readings : List Nanos) :
    under r.id (computed records network readings) = r.verdicts network readings := by
  have tick (now : Nanos) :
      ((check records now network).map (⟨now, ·⟩)).filter (·.verdict.id == r.id) =
        [(⟨now, r.verdict now network⟩ : Notice)] := by
    rw [List.filter_map, check, List.filter_map]
    exact congrArg (fun l => (l.map (verdict now network)).map (Notice.mk now))
      (filter_id_eq_singleton distinct member)
  rw [under, computed, List.filter_flatMap, verdicts, List.map_eq_flatMap]
  exact congrArg (readings.flatMap ·) (funext tick)

end Record

/-- **A watch reports changes, all of them, and nothing else.** A verdict is reported just if the
last one computed before it under its id said something else, or if there was none. So the reports
under an id are the verdicts computed under it, with consecutive repetitions removed. If the ids of
the records are distinct, then after each tick the last report of each record says what the record
is told at this tick, nothing is reported twice in a row, and if the clock never goes back, no
record is reported more than four times. -/
theorem watch_reports_changes (records : List Record) (network : Connectivity)
    (readings : List Nanos) :
    let all := computed records network readings
    let reports := watch records network readings
    reports = (all.zipIdx.filter fun (n, i) => n.isChange (all.take i)).map Prod.fst ∧
    (∀ id, under id reports = (under id all).destutter Differs) ∧
    ((records.map (·.id)).Nodup → ∀ r ∈ records,
      (∀ before now after, readings = before ++ now :: after →
        let soFar := watch records network (before ++ [now])
        soFar <+: reports ∧
          (under r.id soFar).getLast?.map (·.verdict.eligibility) =
            some (r.eligibility now network)) ∧
      (under r.id reports).IsChain Differs ∧
      (readings.Pairwise (· ≤ ·) → (under r.id reports).length ≤ 4)) := by
  intro all reports
  have reports_eq : reports = changes [] all := watch_eq_changes records network readings
  have under_reports (id : String) : under id reports = (under id all).destutter Differs := by
    rw [reports_eq]
    exact under_changes id all [] rfl
  refine ⟨?_, under_reports, fun distinct r member => ⟨?_, ?_, fun later => ?_⟩⟩
  · rw [reports_eq, changes_eq_filter]
    rfl
  · rintro before now after rfl
    refine ⟨?_, ?_⟩
    · simp only [reports, List.append_cons before now after]
      exact watch_prefix_watch records network (before ++ [now]) after
    · have last : latest? r.id (computed records network (before ++ [now])) =
          some (r.eligibility now network) := by
        rw [latest?, r.under_computed distinct member, Record.verdicts, List.map_append]
        exact congrArg (Option.map _) List.getLast?_concat
      rw [watch_eq_changes]
      exact (latest?_changes r.id _).trans last
  · rw [under_reports]
    exact List.isChain_destutter _ _
  · have told : (under r.id reports).map (·.verdict.eligibility) =
        (readings.map (r.eligibility · network)).destutter (· ≠ ·) := by
      rw [under_reports, r.under_computed distinct member, map_destutter, Record.verdicts,
        List.map_map]
      rfl
    calc (under r.id reports).length
        = ((readings.map (r.eligibility · network)).destutter (· ≠ ·)).length := by
          rw [← told, List.length_map]
      _ ≤ (r.course network).length := (r.destutter_sublist_course network later).length_le
      _ ≤ 4 := r.length_course_le network

/-- A record that goes through all of its course, with its network window raised to the unmetered
one, next to one that is told the same all the time. -/
theorem watch_reports_changes_whole_course :
    let r : Record :=
      { id := "sync", persistent := true, priority := 3, groupId := none, runCount := 0
        createdAt := 0, delayUntil := .upTo 3, insertionOrder := none, session := ⟨1⟩
        windows := ⟨.upTo 5, .upTo 7⟩, deadline := .upTo 9, cancelOnDeadline := true
        tags := none, retry := none }
    let records := [r, { r with id := "clean", cancelled := true }]
    let readings : List Nanos := [2, 4, 4, 6, 7, 8, 9]
    (records.map (·.id)).Nodup ∧ readings.Pairwise (· ≤ ·) ∧
      (watch records .metered readings).map (fun n => (n.now, n.verdict.id)) =
        [(2, "sync"), (2, "clean"), (4, "sync"), (7, "sync"), (9, "sync")] ∧
      (under "sync" (watch records .metered readings)).length ≤ 4 ∧
      (under "sync" (watch records .metered [2, 4, 4, 6])).getLast?.map (·.verdict.eligibility) =
        some (r.eligibility 6 .metered) := by
  intro r records readings
  have distinct : (records.map (·.id)).Nodup := by decide
  have later : readings.Pairwise (· ≤ ·) := by decide
  obtain ⟨-, -, reported⟩ := watch_reports_changes records .metered readings
  obtain ⟨current, -, bounded⟩ := reported distinct r List.mem_cons_self
  exact ⟨distinct, later, by decide, bounded later, (current [2, 4, 4] 6 [7, 8, 9] rfl).2⟩

end DeferredJobs
