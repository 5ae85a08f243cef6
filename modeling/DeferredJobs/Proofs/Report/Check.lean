import DeferredJobs.Proofs.Job.Storage
import DeferredJobs.Report.Check

/-!
# Checking records and asking jobs

`check` reads raw records, damaged ones among them, and builds no job. Still its verdicts are
those of the jobs: `Record.state`, `Record.constraints` and `Record.eligibility` say of a record
what `Job.state`, `Profile.constraints` and `Job.eligibility` say of the job that it describes,
whatever its damage, and a job that is restored is the job that its record describes.
-/

namespace DeferredJobs

/-- What lies ahead is told as such. -/
theorem TimeBound.relativeText_upTo_of_lt {now t : Nanos} (h : now < t) :
    (TimeBound.upTo t).relativeText now = "in " ++ secondsText (t.toInt - now.toInt).natAbs := by
  have ahead : now.toInt < t.toInt := Int64.lt_iff_toInt_lt.mp h
  rw [relativeText, if_pos (by omega)]

namespace Record

variable {ω : Type} (r : Record) (work : ω)

/-! ### The job that a record describes -/

theorem state_toJob : (r.toJob work).state = r.state := rfl

theorem constraints_toJob : (r.toJob work).constraints = r.constraints := rfl

theorem eligibility_toJob (now : Nanos) (network : Connectivity) :
    (r.toJob work).eligibility now network = r.eligibility now network := by
  have flags : (r.toJob work).status =
      ⟨r.cancelled || r.cancelledSingleId, r.cancelledSingleId, r.successful⟩ := rfl
  rw [Job.eligibility, constraints_toJob, flags, eligibility, state]
  -- both sides put success before cancellation, and cancellation before the constraints
  cases r.successful with
  | true => rfl
  | false =>
    cases r.cancelled || r.cancelledSingleId with
    | true => rfl
    | false => rfl

/-- **The verdict on a record** is the answer of the job that it describes. -/
theorem verdict_eq (now : Nanos) (network : Connectivity) :
    r.verdict now network =
      { id := (r.toJob work).id
        state := (r.toJob work).state
        eligibility := (r.toJob work).eligibility now network
        nextWake := ((r.toJob work).nextWake now).map fun t =>
          (TimeBound.upTo t).relativeText now } := by
  rw [verdict, eligibility_toJob, state_toJob, Job.nextWake, constraints_toJob]
  rfl

end Record

/-! ### The report -/

/-- **Checking records agrees with asking jobs.** There is one verdict for each record, in order,
and where a job is restored from the record, damaged or not, the verdict is what the job answers:
its id, state and eligibility, and its next wake as seen from the instant of the check, which
always lies ahead. -/
theorem check_agrees_with_jobs {ω : Type} [Work ω] (records : List Record) (now : Nanos)
    (network : Connectivity) :
    (check records now network).length = records.length ∧
    ∀ (i : Nat) (r : Record), records[i]? = some r →
      ∃ v, (check records now network)[i]? = some v ∧
        ∀ (work : ω) (d : Job ω), Job.restore r work = .ok d →
          v.id = d.id ∧ v.state = d.state ∧ v.eligibility = d.eligibility now network ∧
          v.nextWake = (d.nextWake now).map (fun t => (TimeBound.upTo t).relativeText now) ∧
          ∀ text, v.nextWake = some text → ∃ t, d.nextWake now = some t ∧ now < t ∧
            text = "in " ++ secondsText (t.toInt - now.toInt).natAbs := by
  refine ⟨List.length_map .., fun i r found => ⟨r.verdict now network, ?_, ?_⟩⟩
  · rw [check, List.getElem?_map, found, Option.map_some]
  · intro work d restored
    obtain ⟨-, -, rfl⟩ := Job.restore_eq_ok_iff.mp restored
    rw [r.verdict_eq]
    refine ⟨rfl, rfl, rfl, rfl, fun text told => ?_⟩
    obtain ⟨t, wake, rfl⟩ := Option.map_eq_some_iff.mp told
    have ahead : now < t := Constraints.lt_of_nextWake wake
    exact ⟨t, wake, ahead, TimeBound.relativeText_upTo_of_lt ahead⟩

/-- A record that is damaged in both ways, before its delay ends. -/
theorem check_agrees_with_jobs_damaged :
    let r : Record :=
      { id := "sync", persistent := true, priority := 3, groupId := none, runCount := 0
        createdAt := 10, delayUntil := .upTo 2500000000, insertionOrder := none, session := ⟨1⟩
        windows := ⟨.never, .forever⟩, deadline := .forever, cancelOnDeadline := false
        tags := none, retry := none, cancelledSingleId := true }
    let work : ScriptedWork := ⟨⟨[], {}, [], 3⟩⟩
    ∃ d v, Job.restore r work = .ok d ∧
      (check [r] 1000000000 .metered)[0]? = some v ∧
      v.id = d.id ∧ v.state = d.state ∧ v.eligibility = d.eligibility 1000000000 .metered ∧
      d.state = .cancelled true ∧ d.windows = ⟨.forever, .forever⟩ ∧
      v.nextWake = some "in 1.500s" := by
  intro r work
  obtain ⟨d, restored⟩ : ∃ d, Job.restore r work = .ok d := ⟨_, rfl⟩
  obtain ⟨-, verdicts⟩ := @check_agrees_with_jobs ScriptedWork _ [r] 1000000000 .metered
  obtain ⟨v, found, agrees⟩ := verdicts 0 r rfl
  obtain ⟨id, state, eligibility, wake, -⟩ := agrees work d restored
  refine ⟨d, v, restored, found, id, state, eligibility, ?_, ?_, ?_⟩
  · obtain rfl := Except.ok.inj restored
    rfl
  · obtain rfl := Except.ok.inj restored
    rfl
  · obtain rfl := Except.ok.inj restored
    rw [wake]
    decide +kernel

end DeferredJobs
