import DeferredJobs.Proofs.Constraints.Rule

/-!
# What constraints ask for

* **Networks.** Who needs an unmetered network needs a network. As long as the windows say so, a
  job can lack just the unmetered network only where there is a metered one.
* **Waking.** The instant at which the answer may change lies ahead.
-/

namespace DeferredJobs.Constraints

variable {c : Constraints} {now : Nanos}

/-! ### Networks -/

theorem requiresNetwork_of_requiresUnmetered (covers : c.windows.Covers)
    (h : c.requiresUnmetered now = true) : c.requiresNetwork now = true :=
  TimeBound.isPending_of_le covers h

theorem evaluate_eq_awaitingUnmetered (covers : c.windows.Covers) {cancelled : Bool}
    {network : Connectivity} (h : c.evaluate cancelled now network = .awaitingUnmetered) :
    network = .metered := by
  cases cancelled with
  | true => contradiction
  | false =>
    obtain ⟨-, -, met, lacks⟩ := evaluate_eq_awaitingUnmetered_iff.mp h
    obtain ⟨required, not_unmetered⟩ := not_or.mp lacks
    obtain past | connected := met
    · exact absurd (Std.le_trans covers past) required
    · cases network with
      | disconnected => exact absurd rfl connected
      | metered => rfl
      | unmetered => exact absurd rfl not_unmetered

/-! ### Waking -/

/-- A wake is the end of a bound that is still pending. -/
theorem lt_of_nextWake {t : Nanos} (h : c.nextWake now = some t) : now < t := by
  obtain ⟨bound, among, ends⟩ := List.mem_filterMap.mp (List.min?_mem h)
  have pending := (List.mem_filter.mp among).2
  cases bound with
  | never | forever => contradiction
  | upTo s =>
    obtain rfl := Option.some.inj ends
    exact of_decide_eq_true pending

end DeferredJobs.Constraints
