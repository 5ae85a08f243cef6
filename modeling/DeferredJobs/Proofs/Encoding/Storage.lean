import DeferredJobs.Proofs.Encoding.Defaults
import DeferredJobs.Proofs.Encoding.Layout
import Mathlib.Data.List.Forall2

/-!
# Storage is faithful

What comes of values that are stored, and of documents that leave out what has a default.

* **Omissions** (`recordOmissions` and its like): what may be left out of a document, and the
  defaults that are then taken. Records and parameters have parts of which something may be left
  out as well.
* **Reading** (`decode_record_fillsIn` and its like): to write a default out changes nothing.

`stored_and_read_back` puts this together with what storage keeps of a value.
-/

namespace DeferredJobs.Encoding

open Document

/-! ### Omissions -/

/-- What may be left out of a retry constraint. -/
def retryOmissions : Omissions where
  defaults := [("new_delay", .null), ("new_priority", .null), ("new_network", .null)]

/-- What may be left out of a deadline policy. -/
def policyOmissions : Omissions where
  defaults := [("cancel", .bool false)]

/-- What may be left out of parameters: everything. -/
def paramsOmissions : Omissions where
  defaults :=
    [("priority", .int 0), ("group_id", .null), ("single_id", .null), ("persistent", .bool false),
      ("tags", .list []), ("delay", .int 0), ("requires_network", .text "never"),
      ("requires_unmetered_network", .text "never"), ("deadline", .null)]
  parts := [("deadline", FillsIn policyOmissions)]

/-- What may be left out of a record. -/
def recordOmissions : Omissions where
  defaults :=
    [("group_id", .null), ("insertion_order", .null), ("tags", .null), ("cancelled", .bool false),
      ("cancelled_single_id", .bool false), ("successful", .bool false),
      ("retry_constraint", .null)]
  parts := [("retry_constraint", FillsIn retryOmissions)]

/-! ### Reading -/

section Reading

variable {t t' : Tree}

theorem FillsIn.decode_option {α : Type} [Codec α] {o : Omissions} (h : FillsIn o t t')
    (same : decode (α := α) t' = decode t) : decode (α := Option α) t' = decode t := by
  obtain ⟨_⟩ := h
  -- neither is a null
  change (do return some (← decode (α := α) _)) = (do return some (← decode (α := α) _))
  rw [same]

theorem decode_retryConstraint_fillsIn (h : FillsIn retryOmissions t t') :
    decode (α := RetryConstraint) t' = decode t := by
  obtain ⟨look⟩ := h
  have retry := (look "retry").required_eq (α := Bool) rfl rfl
  have delay := (look "new_delay").defaulted_eq (none : Option Duration) rfl rfl nofun
  have priority := (look "new_priority").defaulted_eq (none : Option Int32) rfl rfl nofun
  have network := (look "new_network").defaulted_eq (none : Option NetworkRequirement) rfl rfl nofun
  unfold instCodecRetryConstraint
  simp only [fields?_fields, Option.bind_eq_bind, Option.bind_some, retry, delay, priority, network]

theorem decode_deadlinePolicy_fillsIn (h : FillsIn policyOmissions t t') :
    decode (α := DeadlinePolicy) t' = decode t := by
  obtain ⟨look⟩ := h
  have after := (look "after").required_eq (α := Duration) rfl rfl
  have cancel := (look "cancel").defaulted_eq false rfl rfl nofun
  unfold instCodecDeadlinePolicy
  simp only [fields?_fields, Option.bind_eq_bind, Option.bind_some, after, cancel]

theorem decode_params_fillsIn (h : FillsIn paramsOmissions t t') :
    decode (α := Params) t' = decode t := by
  obtain ⟨look⟩ := h
  have priority := (look "priority").defaulted_eq (0 : Int32) rfl rfl nofun
  have group := (look "group_id").defaulted_eq (none : Option String) rfl rfl nofun
  have single := (look "single_id").defaulted_eq (none : Option String) rfl rfl nofun
  have persistent := (look "persistent").defaulted_eq false rfl rfl nofun
  have tags := (look "tags").defaulted_eq TagSet.empty rfl rfl nofun
  have delay := (look "delay").defaulted_eq Duration.zero rfl rfl nofun
  have network := (look "requires_network").defaulted_eq Timeout.never rfl rfl nofun
  have unmetered := (look "requires_unmetered_network").defaulted_eq Timeout.never rfl rfl nofun
  have deadline := (look "deadline").defaulted_eq (none : Option DeadlinePolicy) rfl rfl
    (by rintro _ ⟨⟩ t t' h; exact h.decode_option (decode_deadlinePolicy_fillsIn h))
  unfold instCodecParams
  simp only [fields?_fields, Option.bind_eq_bind, Option.bind_some, priority, group, single,
    persistent, tags, delay, network, unmetered, deadline]

theorem decode_record_fillsIn (h : FillsIn recordOmissions t t') :
    decode (α := Record) t' = decode t := by
  obtain ⟨look⟩ := h
  have required {α : Type} [Codec α] (name : String)
      (must : recordOmissions.defaults.lookup name = none)
      (whole : recordOmissions.parts.lookup name = none) :=
    (look name).required_eq (α := α) must whole
  have group := (look "group_id").defaulted_eq (none : Option String) rfl rfl nofun
  have place := (look "insertion_order").defaulted_eq (none : Option Int64) rfl rfl nofun
  have tags := (look "tags").defaulted_eq (none : Option TagSet) rfl rfl nofun
  have cancelled := (look "cancelled").defaulted_eq false rfl rfl nofun
  have single := (look "cancelled_single_id").defaulted_eq false rfl rfl nofun
  have successful := (look "successful").defaulted_eq false rfl rfl nofun
  have retry := (look "retry_constraint").defaulted_eq (none : Option RetryConstraint) rfl rfl
    (by rintro _ ⟨⟩ t t' h; exact h.decode_option (decode_retryConstraint_fillsIn h))
  unfold instCodecRecord
  dsimp only [fields?_fields, Fields.optional_named, Option.bind_eq_bind, Option.bind_some]
  rw [required "id" rfl rfl, required "persistent" rfl rfl, required "priority" rfl rfl, group,
    required "run_count" rfl rfl, required "created_at" rfl rfl, required "delay_until" rfl rfl,
    place, required "running_session" rfl rfl, required "requires_network_until" rfl rfl,
    required "requires_unmetered_network_until" rfl rfl, required "deadline" rfl rfl,
    required "cancel_on_deadline" rfl rfl, tags, cancelled, single, successful, retry]

theorem decode_records_fillsIn {ts ts' : List Tree}
    (h : List.Forall₂ (FillsIn recordOmissions) ts ts') :
    decode (α := List Record) (Tree.list ts') = decode (Tree.list ts) := by
  change ts'.mapM decode = ts.mapM decode
  induction h with
  | nil => rfl
  | cons first _ ih => rw [List.mapM_cons, List.mapM_cons, decode_record_fillsIn first, ih]

end Reading

/-! ### Storage -/

/-- **Stored and read back.** A value of any type that is stored is read back: bounds, constraints
and verdicts as they were, and the values of the other types with their durations cut down to whole
milliseconds, of which there are at most `2 ^ 64 - 1`, and nothing else changed. So a value is read
back as it was exactly if its durations are whole, and what is read back is encoded as the value
was. A document that writes some defaults out reads as the document that leaves them out, be it in
the record itself, in a part of it or in the records of a list, and in whichever order. -/
theorem stored_and_read_back :
    (∀ d : Duration, d.truncated.nanos = min (d.nanos / 1000000) (UInt64.size - 1) * 1000000) ∧
    StoresAs (α := TimeBound) id (fun _ => []) ∧
    StoresAs Timeout.truncated (fun t => t.duration?.toList) ∧
    StoresAs NetworkRequirement.truncated (·.durations) ∧
    StoresAs RetryConstraint.truncated (·.durations) ∧
    StoresAs (α := Constraints) id (fun _ => []) ∧
    StoresAs (α := Eligibility) id (fun _ => []) ∧
    StoresAs DeadlinePolicy.truncated (fun p => [p.after]) ∧
    StoresAs Params.truncated (·.durations) ∧
    StoresAs Record.truncated (·.durations) ∧
    StoresAs (List.map Record.truncated) (fun rs => rs.flatMap (·.durations)) ∧
    (∀ t t', FillsIn retryOmissions t t' → decode (α := RetryConstraint) t' = decode t) ∧
    (∀ t t', FillsIn policyOmissions t t' → decode (α := DeadlinePolicy) t' = decode t) ∧
    (∀ t t', FillsIn paramsOmissions t t' → decode (α := Params) t' = decode t) ∧
    (∀ t t', FillsIn recordOmissions t t' → decode (α := Record) t' = decode t) ∧
    ∀ ts ts', List.Forall₂ (FillsIn recordOmissions) ts ts' →
      decode (α := List Record) (Tree.list ts') = decode (Tree.list ts) :=
  ⟨Duration.nanos_truncated, .self decode_encode_timeBound, .timeout, .networkRequirement,
    .retryConstraint, .self decode_encode_constraints, .self decode_encode_eligibility,
    .deadlinePolicy, .params, .record, StoresAs.record.list,
    fun _ _ => decode_retryConstraint_fillsIn, fun _ _ => decode_deadlinePolicy_fillsIn,
    fun _ _ => decode_params_fillsIn, fun _ _ => decode_record_fillsIn,
    fun _ _ => decode_records_fillsIn⟩

/-- Parameters that are written with some of their defaults, and not in order. -/
theorem stored_and_read_back_params :
    let t : Tree := .fields [("delay", .int 5)]
    let t' : Tree := .fields [("tags", .list []), ("delay", .int 5), ("persistent", .bool false)]
    FillsIn paramsOmissions t t' ∧ decode t' = decode (α := Params) t ∧
      decode t = some ({ delay := .ofMillis 5 } : Params) := by
  intro t t'
  have perm : [("tags", Tree.list []), ("delay", .int 5), ("persistent", .bool false)].Perm
      ([("tags", .list []), ("persistent", .bool false)] ++ [("delay", .int 5)]) :=
    .cons _ (.swap ..)
  have filled : FillsIn paramsOmissions t t' :=
    .of_perm perm (by simp only [List.forall_mem_cons]; exact ⟨rfl, rfl, nofun⟩) (by decide)
  obtain ⟨-, -, -, -, -, -, -, -, -, -, -, -, -, params, -⟩ := stored_and_read_back
  exact ⟨filled, params t t' filled, rfl⟩

end DeferredJobs.Encoding
