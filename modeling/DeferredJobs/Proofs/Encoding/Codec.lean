import DeferredJobs.Encoding.Codec

/-!
# Reading what was written

What is decoded from the encoding of a value, for the values that everything else is made of.

* **Scalars** come back as they were, numbers as they are in the range of their type
  (`inRange?_some`), and a duration comes back in whole milliseconds (`decode_encode_duration`).
* **Optional values and collections** (`decode_encode_option`, `decode_encode_list`) come back as
  their items do. A present value must not be written as a null.
-/

namespace DeferredJobs.Encoding

open Document

/-! ### Scalars -/

@[simp] theorem decode_encode_bool (b : Bool) : decode (encode b) = some b := rfl

@[simp] theorem decode_encode_string (s : String) : decode (encode s) = some s := rfl

/-- **A number in range** is read as the value that it was written for. -/
theorem inRange?_some {ν α : Type} [LE ν] [DecidableLE ν] {least greatest n : ν} {ofNumber : ν → α}
    {a : α} (above : least ≤ n) (below : n ≤ greatest) (same : ofNumber n = a) :
    inRange? least greatest ofNumber (some n) = some a := by
  rw [← same]
  exact if_pos ⟨above, below⟩

@[simp] theorem decode_encode_int64 (n : Int64) : decode (encode n) = some n :=
  inRange?_some n.minValue_le_toInt (Int64.le_iff_toInt_le.mp n.le_maxValue) n.ofInt_toInt

@[simp] theorem decode_encode_int32 (n : Int32) : decode (encode n) = some n :=
  inRange?_some n.minValue_le_toInt (Int32.le_iff_toInt_le.mp n.le_maxValue) n.ofInt_toInt

@[simp] theorem decode_encode_uint32 (n : UInt32) : decode (encode n) = some n :=
  inRange?_some n.toNat.zero_le (Nat.le_sub_one_of_lt n.toNat_lt) UInt32.ofNat_toNat

@[simp] theorem decode_encode_uint64 (n : UInt64) : decode (encode n) = some n :=
  inRange?_some n.toNat.zero_le (Nat.le_sub_one_of_lt n.toNat_lt) UInt64.ofNat_toNat

/-- **Durations** come back in whole milliseconds. -/
@[simp] theorem decode_encode_duration (d : Duration) : decode (encode d) = some d.truncated := by
  have millis : decode (encode d.wholeMillis) = some d.wholeMillis := decode_encode_uint64 _
  exact congrArg (Option.map Duration.ofMillis) millis

/-! ### Optional values and collections -/

section Collections

variable {α : Type} [Codec α] {kept : α → α}

theorem decode_encode_option (h : ∀ a : α, decode (encode a) = some (kept a))
    (present : ∀ a : α, isNull? (encode a) = some false) (o : Option α) :
    decode (encode o) = some (o.map kept) := by
  cases o with
  | none => rfl
  | some a =>
    change (do
      if ← isNull? (encode a) then return none
      return some (← decode (encode a))) = some (some (kept a))
    rw [present, h]
    rfl

theorem decode_encode_option_self (h : ∀ a : α, decode (encode a) = some a)
    (present : ∀ a : α, isNull? (encode a) = some false) (o : Option α) :
    decode (encode o) = some o := by
  rw [decode_encode_option h present, Option.map_id']

theorem decode_encode_list (h : ∀ a : α, decode (encode a) = some (kept a)) (as : List α) :
    decode (encode as) = some (as.map kept) := by
  change (as.map encode).mapM decode = some (as.map kept)
  induction as with
  | nil => rfl
  | cons a as ih =>
    rw [List.map_cons, List.mapM_cons, h, ih]
    rfl

end Collections

@[simp] theorem decode_encode_tags (s : TagSet) : decode (encode s) = some s := by
  have tags : decode (encode s.toList) = some s.toList := by
    rw [decode_encode_list decode_encode_string, List.map_id']
  calc decode (encode s)
      = (decode (encode s.toList)).map TagSet.ofList := rfl
    _ = some s := by rw [tags, Option.map_some, TagSet.ofList_toList]

end DeferredJobs.Encoding
