import DeferredJobs.Encoding.Layout
import DeferredJobs.Proofs.Encoding.Codec
import DeferredJobs.Proofs.Params

/-!
# What storage keeps of a value

Everything that is stored is read back, and as it was but for its durations, of which whole
milliseconds are kept.

* **Durations** (`RetryConstraint.durations` and its like): what is not kept in full.
* **Storing** (`StoresAs`): what values of a type are read back as, when this is all of them, and
  that reading them back does not change how they are stored.
* **Types**: optional values and lists are stored as their items are, the types without durations
  as they are (`StoresAs.self`), and the other ones as their parts are (`StoresAs.record`).
-/

namespace DeferredJobs

/-! ### Durations -/

/-- Every duration that a requirement names. -/
def NetworkRequirement.durations (r : NetworkRequirement) : List Duration :=
  r.network.duration?.toList ++ r.unmetered.duration?.toList

/-- Every duration that a retry constraint names. -/
def RetryConstraint.durations (r : RetryConstraint) : List Duration :=
  r.newDelay.toList ++ r.newNetwork.toList.flatMap (·.durations)

namespace Record

/-- Every duration that a record names: those of the retry that is pending. -/
def durations (r : Record) : List Duration := r.retry.toList.flatMap (·.durations)

/-- What is left of a record once its durations are stored in whole milliseconds. -/
def truncated (r : Record) : Record := { r with retry := r.retry.map .truncated }

end Record

namespace Encoding

open Document

/-! ### Storing -/

/-- How values of a type are stored: what they are read back as, that this is all of a value exactly
if its durations are whole, and that what is read back is encoded as the value was. -/
structure StoresAs {α : Type} [Codec α] (kept : α → α) (durations : α → List Duration) : Prop where
  read_back (a : α) : decode (encode a) = some (kept a)
  exact_iff (a : α) : decode (encode a) = some a ↔ ∀ d ∈ durations a, d.IsWhole
  encode_again (a : α) : (decode (encode a)).map (encode (α := α)) = some (encode a)

namespace StoresAs

variable {α : Type} [Codec α] {kept : α → α} {durations : α → List Duration}

theorem of_kept (read_back : ∀ a : α, decode (encode a) = some (kept a))
    (kept_iff : ∀ a, kept a = a ↔ ∀ d ∈ durations a, d.IsWhole)
    (encode_kept : ∀ a, encode (kept a) = encode a) : StoresAs kept durations where
  read_back := read_back
  exact_iff a := by rw [read_back, Option.some.injEq, kept_iff]
  encode_again a := by rw [read_back, Option.map_some, encode_kept]

theorem kept_iff (h : StoresAs kept durations) (a : α) :
    kept a = a ↔ ∀ d ∈ durations a, d.IsWhole := by
  rw [← h.exact_iff, h.read_back, Option.some.injEq]

theorem encode_kept (h : StoresAs kept durations) (a : α) : encode (kept a) = encode a := by
  have again := h.encode_again a
  rw [h.read_back, Option.map_some] at again
  exact Option.some.inj again

/-- Without durations, everything is kept. -/
theorem self (h : ∀ a : α, decode (encode a) = some a) : StoresAs (α := α) id fun _ => [] :=
  of_kept h (fun _ => by simp) fun _ => rfl

theorem option (h : StoresAs kept durations) (present : ∀ a : α, isNull? (encode a) = some false) :
    StoresAs (Option.map kept) fun o => o.toList.flatMap durations := by
  apply of_kept
  case read_back => exact decode_encode_option h.read_back present
  case kept_iff => intro o; cases o <;> simp [h.kept_iff]
  case encode_kept =>
    intro o
    cases o with
    | none => rfl
    | some a => exact h.encode_kept a

theorem list (h : StoresAs kept durations) :
    StoresAs (List.map kept) fun as => as.flatMap durations := by
  apply of_kept
  case read_back => exact decode_encode_list h.read_back
  case kept_iff =>
    intro as
    induction as with
    | nil => simp
    | cons a as ih => simp [ih, h.kept_iff, or_imp, forall_and]
  case encode_kept =>
    intro as
    have items : (as.map kept).map encode = as.map encode := by simp [h.encode_kept]
    exact congrArg Tree.list items

end StoresAs

/-! ### Types without durations -/

theorem decode_encode_timeBound (b : TimeBound) : decode (encode b) = some b := by
  cases b with
  | never => rfl
  | forever => rfl
  | upTo t =>
    change (decode (encode t)).bind (fun t => some (TimeBound.upTo t)) = _
    rw [decode_encode_int64, Option.bind_some]

theorem decode_encode_session (s : SessionId) : decode (encode s) = some s :=
  congrArg (Option.map SessionId.mk) (decode_encode_int64 s.number)

theorem decode_encode_eligibility (e : Eligibility) : decode (encode e) = some e := by
  cases e with
  | delayed wake =>
    change (decode (encode wake)).bind (fun wake => some (Eligibility.delayed wake)) = _
    rw [decode_encode_int64, Option.bind_some]
  | _ => rfl

@[simp] theorem fields?_fields (layout : List (String × Shape)) (es : List (String × Tree)) :
    fields? layout (Tree.fields es) = some ⟨es, true⟩ := rfl

theorem decode_encode_constraints (c : Constraints) : decode (encode c) = some c := by
  unfold instCodecConstraints
  simp [Fields.required, Fields.find, decode_encode_timeBound]

/-! ### Types with durations -/

namespace StoresAs

theorem duration : StoresAs Duration.truncated fun d => [d] := by
  apply of_kept
  case read_back => exact decode_encode_duration
  case kept_iff => intro d; simp [Duration.truncated_eq_self_iff]
  case encode_kept =>
    intro d
    exact congrArg (encode (α := UInt64)) d.wholeMillis_truncated

theorem timeout : StoresAs Timeout.truncated fun t => t.duration?.toList := by
  apply of_kept
  case read_back =>
    intro t
    cases t with
    | never => rfl
    | forever => rfl
    | after d =>
      change (decode (encode d)).bind (fun d => some (Timeout.after d)) = _
      rw [duration.read_back, Option.bind_some, Timeout.truncated]
  case kept_iff =>
    intro t
    cases t <;> simp [Timeout.truncated, Timeout.duration?, Duration.truncated_eq_self_iff]
  case encode_kept =>
    intro t
    cases t with
    | never => rfl
    | forever => rfl
    | after d => exact congrArg (Tree.variant "after_ms") (duration.encode_kept d)

theorem networkRequirement : StoresAs NetworkRequirement.truncated (·.durations) := by
  apply of_kept
  case read_back =>
    intro r
    unfold instCodecNetworkRequirement
    simp [Fields.required, Fields.find, timeout.read_back, NetworkRequirement.truncated]
  case kept_iff =>
    rintro ⟨network, unmetered⟩
    simp [NetworkRequirement.truncated, NetworkRequirement.durations, timeout.kept_iff, or_imp,
      forall_and]
  case encode_kept =>
    intro r
    unfold instCodecNetworkRequirement
    simp [timeout.encode_kept, NetworkRequirement.truncated]

theorem retryConstraint : StoresAs RetryConstraint.truncated (·.durations) := by
  have delay := duration.option fun _ => rfl
  have priority := decode_encode_option_self decode_encode_int32 fun _ => rfl
  have network := networkRequirement.option fun _ => rfl
  apply of_kept
  case read_back =>
    intro r
    unfold instCodecRetryConstraint
    simp [Fields.required, Fields.defaulted, Fields.find, delay.read_back, priority,
      network.read_back, RetryConstraint.truncated]
  case kept_iff =>
    rintro ⟨retry, newDelay, newPriority, newNetwork⟩
    simp only [RetryConstraint.truncated, RetryConstraint.mk.injEq, delay.kept_iff,
      network.kept_iff]
    simp [RetryConstraint.durations, or_imp, forall_and]
  case encode_kept =>
    intro r
    unfold instCodecRetryConstraint
    simp [RetryConstraint.truncated, delay.encode_kept, network.encode_kept]

theorem deadlinePolicy : StoresAs DeadlinePolicy.truncated fun p => [p.after] := by
  apply of_kept
  case read_back =>
    intro p
    unfold instCodecDeadlinePolicy
    simp [Fields.required, Fields.defaulted, Fields.find, DeadlinePolicy.truncated]
  case kept_iff =>
    rintro ⟨after, cancel⟩
    simp [DeadlinePolicy.truncated, Duration.truncated_eq_self_iff]
  case encode_kept =>
    intro p
    unfold instCodecDeadlinePolicy
    simp [DeadlinePolicy.truncated, duration.encode_kept]

theorem params : StoresAs Params.truncated (·.durations) := by
  have name := decode_encode_option_self decode_encode_string fun _ => rfl
  have deadline := deadlinePolicy.option fun _ => rfl
  apply of_kept
  case read_back =>
    intro p
    -- every look-up finds the field that was written for it
    have found : decode (encode p) = (do
        return {
          priority := ← decode (encode p.priority)
          groupId := ← decode (encode p.groupId)
          singleId := ← decode (encode p.singleId)
          persistent := ← decode (encode p.persistent)
          tags := ← decode (encode p.tags)
          delay := ← decode (encode p.delay)
          network := ← decode (encode p.network)
          unmetered := ← decode (encode p.unmetered)
          deadline := ← decode (encode p.deadline) : Params }) := rfl
    rw [found, decode_encode_int32, name, name, decode_encode_bool, decode_encode_tags,
      duration.read_back, timeout.read_back, timeout.read_back, deadline.read_back]
    rfl
  case kept_iff =>
    rintro ⟨priority, groupId, singleId, persistent, tags, delay, network, unmetered, policy⟩
    simp only [Params.truncated, Params.mk.injEq, duration.kept_iff, timeout.kept_iff,
      deadline.kept_iff]
    cases policy <;> simp [Params.durations, or_imp, forall_and]
  case encode_kept =>
    intro p
    unfold instCodecParams
    simp [Params.truncated, duration.encode_kept, timeout.encode_kept, deadline.encode_kept]

theorem record : StoresAs Record.truncated (·.durations) := by
  have name := decode_encode_option_self decode_encode_string fun _ => rfl
  have place := decode_encode_option_self decode_encode_int64 fun _ => rfl
  have tags := decode_encode_option_self decode_encode_tags fun _ => rfl
  have retry := retryConstraint.option fun _ => rfl
  apply of_kept
  case read_back =>
    intro r
    have found : decode (encode r) = (do
        return {
          id := ← decode (encode r.id)
          persistent := ← decode (encode r.persistent)
          priority := ← decode (encode r.priority)
          groupId := ← decode (encode r.groupId)
          runCount := ← decode (encode r.runCount)
          createdAt := ← decode (encode r.createdAt)
          delayUntil := ← decode (encode r.delayUntil)
          insertionOrder := ← decode (encode r.insertionOrder)
          session := ← decode (encode r.session)
          windows := {
            network := ← decode (encode r.windows.network)
            unmetered := ← decode (encode r.windows.unmetered) }
          deadline := ← decode (encode r.deadline)
          cancelOnDeadline := ← decode (encode r.cancelOnDeadline)
          tags := ← decode (encode r.tags)
          cancelled := ← decode (encode r.cancelled)
          cancelledSingleId := ← decode (encode r.cancelledSingleId)
          successful := ← decode (encode r.successful)
          retry := ← decode (encode r.retry) : Record }) := rfl
    rw [found, decode_encode_string, decode_encode_bool, decode_encode_int32, name,
      decode_encode_uint32, decode_encode_int64, decode_encode_timeBound, place,
      decode_encode_session, decode_encode_timeBound, decode_encode_timeBound,
      decode_encode_timeBound, decode_encode_bool, tags, decode_encode_bool, decode_encode_bool,
      decode_encode_bool, retry.read_back]
    rfl
  case kept_iff =>
    intro r
    have field : r.truncated = r ↔ r.retry.map .truncated = r.retry :=
      ⟨congrArg fun r : Record => r.retry, congrArg fun retry => ({ r with retry } : Record)⟩
    exact field.trans (retry.kept_iff r.retry)
  case encode_kept =>
    intro r
    unfold instCodecRecord
    simp only [Record.truncated, retry.encode_kept]

end StoresAs

end Encoding

end DeferredJobs
