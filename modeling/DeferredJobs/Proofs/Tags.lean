import DeferredJobs.Proofs.Text.Bytes
import DeferredJobs.Record
import Mathlib.Data.List.Sort

/-!
# Tags and single-instance keys

A set of tags is known by its tags (`TagSet.ext`), so nothing shows of the order in which they were
added, nor of how often.

The key is the first of the reserved tags, which are those that `singleInstanceTag` makes
(`isSingleInstanceTag_iff`). As tags are kept in the order of their bytes, it is the least one
(`Profile.singleInstanceKey?_eq_some_iff`), and there is none only where no tag is reserved.
-/

namespace DeferredJobs

/-! ### Reserved tags -/

/-- The reserved tags are those of single ids. -/
theorem isSingleInstanceTag_iff {t : String} :
    isSingleInstanceTag t = true ↔ ∃ s, t = singleInstanceTag s := by
  rw [isSingleInstanceTag, List.isPrefixOf_iff_prefix]
  constructor
  · rintro ⟨rest, whole⟩
    refine ⟨.ofList rest, String.toList_inj.mp ?_⟩
    rw [singleInstanceTag, String.toList_append, String.toList_ofList, whole]
  · rintro ⟨s, rfl⟩
    rw [singleInstanceTag, String.toList_append]
    exact List.prefix_append _ _

@[simp] theorem isSingleInstanceTag_singleInstanceTag (s : String) :
    isSingleInstanceTag (singleInstanceTag s) = true := isSingleInstanceTag_iff.mpr ⟨s, rfl⟩

/-- Different single ids have different tags. -/
theorem singleInstanceTag_inj {a b : String} : singleInstanceTag a = singleInstanceTag b ↔ a = b :=
  String.append_right_inj _

namespace TagSet

variable {s s' : TagSet} {k t : String} {ts : List String}

/-! ### Sets -/

/-- **A set is known by its tags.** -/
theorem ext (h : ∀ t, t ∈ s ↔ t ∈ s') : s = s' :=
  toList_inj.mp (s.sorted.eq_of_mem_iff s'.sorted h)

theorem mem_insertMany : t ∈ s.insertMany ts ↔ t ∈ s ∨ t ∈ ts := by
  induction ts generalizing s with
  | nil => simp [insertMany]
  | cons u us ih =>
    have rest : t ∈ s.insertMany (u :: us) ↔ t ∈ s.insert u ∨ t ∈ us := ih
    rw [rest, mem_insert, List.mem_cons, or_comm (a := t = u), or_assoc]

theorem isEmpty_iff : s.isEmpty = true ↔ ∀ t, t ∉ s := by
  rw [isEmpty, List.isEmpty_iff, List.eq_nil_iff_forall_not_mem]
  rfl

/-! ### Keys -/

/-- **The key is the least** of the reserved tags. -/
theorem singleInstanceKey?_eq_some_iff :
    s.singleInstanceKey? = some k ↔
      k ∈ s ∧ isSingleInstanceTag k = true ∧ ∀ t ∈ s, isSingleInstanceTag t = true → k ≤ t := by
  have least {k : String} (found : s.singleInstanceKey? = some k) :
      k ∈ s ∧ isSingleInstanceTag k = true ∧ ∀ t ∈ s, isSingleInstanceTag t = true → k ≤ t := by
    obtain ⟨reserved, before, after, split, unreserved⟩ := List.find?_eq_some_iff_append.mp found
    have sorted := s.sorted
    have listed (t : String) : t ∈ s ↔ t ∈ before ++ k :: after := by rw [← split, mem_toList]
    rw [split] at sorted
    refine ⟨(listed k).mpr (by simp), reserved, fun t member reserved' => ?_⟩
    -- reserved tags do not come before the key, and those after it are greater
    obtain early | here := List.mem_append.mp ((listed t).mp member)
    · have excluded := unreserved t early
      rw [reserved'] at excluded
      contradiction
    · obtain rfl | late := List.mem_cons.mp here
      · exact String.le_refl t
      · have ahead : ∀ u ∈ after, k < u :=
          (List.pairwise_cons.mp (List.pairwise_append.mp sorted).2.1).1
        exact Std.le_of_lt (ahead t late)
  refine ⟨least, fun ⟨member, reserved, lowest⟩ => ?_⟩
  obtain ⟨k', found⟩ := Option.isSome_iff_exists.mp (List.find?_isSome.mpr ⟨k, member, reserved⟩)
  obtain ⟨member', reserved', lowest'⟩ := least found
  have same : k' = k :=
    String.le_antisymm (lowest' k member reserved) (lowest k' member' reserved')
  exact same ▸ found

theorem singleInstanceKey?_eq_none_iff :
    s.singleInstanceKey? = none ↔ ∀ t ∈ s, isSingleInstanceTag t = false := by
  rw [singleInstanceKey?, List.find?_eq_none]
  simp

end TagSet

namespace Profile

variable {p : Profile} {k t : String}

/-- A job has a tag if its tags have it; where there are no tags, it has none. -/
def HasTag (p : Profile) (t : String) : Prop := ∃ s ∈ p.tags, t ∈ s

theorem hasTag_of_tags {s : TagSet} (tags : p.tags = some s) : p.HasTag t ↔ t ∈ s := by
  simp [HasTag, tags]

theorem not_hasTag_of_tags (untagged : p.tags = none) : ¬p.HasTag t := by
  simp [HasTag, untagged]

/-- **The key of a job is the least** of its reserved tags, in the order of their bytes. -/
theorem singleInstanceKey?_eq_some_iff :
    p.singleInstanceKey? = some k ↔
      p.HasTag k ∧ isSingleInstanceTag k = true ∧
        ∀ t, p.HasTag t → isSingleInstanceTag t = true → utf8Bytes k ≤ utf8Bytes t := by
  rw [singleInstanceKey?]
  cases tags : p.tags with
  | none => exact iff_of_false nofun fun h => not_hasTag_of_tags tags h.1
  | some s =>
    simp only [Option.bind_some, TagSet.singleInstanceKey?_eq_some_iff, hasTag_of_tags tags,
      utf8Bytes_le_iff]

theorem singleInstanceKey?_eq_none_iff :
    p.singleInstanceKey? = none ↔ ∀ t, p.HasTag t → isSingleInstanceTag t = false := by
  rw [singleInstanceKey?]
  cases tags : p.tags with
  | none => exact iff_of_true rfl fun t has => absurd has (not_hasTag_of_tags tags)
  | some s =>
    simp only [Option.bind_some, TagSet.singleInstanceKey?_eq_none_iff, hasTag_of_tags tags]

end Profile

end DeferredJobs
