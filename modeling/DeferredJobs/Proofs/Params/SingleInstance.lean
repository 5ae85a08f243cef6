import DeferredJobs.Proofs.Job.Life
import DeferredJobs.Proofs.Params
import DeferredJobs.Proofs.Tags

/-!
# Tags, groups and keys of requested jobs

At most one job may be pending for a single id, and jobs are told apart by their single-instance
keys. A key is not stored: it is read off the tags of a job, of which the single id makes one.

* **Tags** (`Params.mem_allTags`): those of the parameters, in whatever order and however often
  they were added (`Params.addTags_congr`), and the one of the single id.
* **Jobs** (`Params.Makes`): the tags and the group of a job are those of its parameters. The tag of
  the single id is the key unless a reserved tag of the parameters is less
  (`Params.Makes.key_eq_own_iff`), so without such tags the key tells the single id
  (`Params.Makes.key_eq_map`).
* **Life** (`Params.Makes.exists_live`): tags stay for good, and so does the key.

`Params.tags_decide_key` puts this together.
-/

namespace DeferredJobs

namespace Params

variable {ω : Type} {p p' : Params} {t : String}

/-! ### Tags -/

theorem mem_allTags :
    t ∈ p.allTags ↔ t ∈ p.tags ∨ ∃ s ∈ p.singleId, t = singleInstanceTag s := by
  rw [allTags]
  cases p.singleId with
  | none => simp
  | some s => simp [or_comm]

theorem mem_tags_addTags {ts : List String} : t ∈ (p.addTags ts).tags ↔ t ∈ p.tags ∨ t ∈ ts :=
  TagSet.mem_insertMany

/-- Additions one after the other come to one addition. -/
theorem foldl_addTags (p : Params) (additions : List (List String)) :
    additions.foldl addTags p = p.addTags additions.flatten := by
  induction additions generalizing p with
  | nil => rfl
  | cons ts additions ih =>
    rw [List.foldl_cons, ih, List.flatten_cons, addTags, addTags, addTags, TagSet.insertMany,
      TagSet.insertMany, TagSet.insertMany, List.foldl_append]

/-- **Neither order nor repetition** of the tags that are added makes a difference. -/
theorem addTags_congr {ts ts' : List String} (same : ∀ t, t ∈ ts ↔ t ∈ ts') :
    p.addTags ts = p.addTags ts' := by
  have tags : p.tags.insertMany ts = p.tags.insertMany ts' :=
    TagSet.ext fun t => by rw [TagSet.mem_insertMany, TagSet.mem_insertMany, same]
  rw [addTags, tags, addTags]

/-- No tag of the parameters is reserved. -/
def Unreserved (p : Params) : Prop := ∀ t ∈ p.tags, isSingleInstanceTag t = false

/-! ### Jobs -/

variable [Work ω] {job job' : Job ω}

/-- `p.Makes job`: the job is built from the parameters, by any clock and for any session, with some
id and some work item. -/
def Makes (p : Params) (job : Job ω) : Prop :=
  ∃ (κ : Type) (_ : Clock κ) (clock : κ) (id : String) (session : SessionId) (work : ω),
    ((p.toBuilder ω id clock session).1.withWork work).build = .ok job

namespace Makes

theorem tags_eq (made : p.Makes job) :
    job.tags = if p.allTags.isEmpty then none else some p.allTags := by
  obtain ⟨κ, _, clock, id, session, work, built⟩ := made
  obtain ⟨-, -, work', -, rfl⟩ := Builder.exists_work_of_build built
  rfl

theorem groupId_eq (made : p.Makes job) : job.groupId = p.groupId.or p.singleId := by
  obtain ⟨κ, _, clock, id, session, work, built⟩ := made
  obtain ⟨-, -, work', -, rfl⟩ := Builder.exists_work_of_build built
  rfl

theorem sound (made : p.Makes job) : job.Sound := by
  obtain ⟨κ, _, clock, id, session, work, built⟩ := made
  obtain ⟨named, covers, status⟩ := Builder.build_eq_ok built
  exact ⟨named, covers, status ▸ Status.coherent_flags .pending⟩

/-- **The tags of a job** are those of its parameters and the one of the single id. -/
theorem hasTag_iff (made : p.Makes job) :
    job.HasTag t ↔ t ∈ p.tags ∨ ∃ s ∈ p.singleId, t = singleInstanceTag s := by
  rw [← mem_allTags]
  by_cases empty : p.allTags.isEmpty = true
  · have untagged : job.tags = none := made.tags_eq.trans (if_pos empty)
    exact iff_of_false (Profile.not_hasTag_of_tags untagged) (TagSet.isEmpty_iff.mp empty t)
  · exact Profile.hasTag_of_tags (made.tags_eq.trans (if_neg empty))

/-- A job has no set of tags rather than an empty one. -/
theorem tags_eq_none_iff (made : p.Makes job) : job.tags = none ↔ ∀ t, ¬job.HasTag t := by
  refine ⟨fun untagged t => Profile.not_hasTag_of_tags untagged, fun bare => ?_⟩
  have empty : p.allTags.isEmpty = true :=
    TagSet.isEmpty_iff.mpr fun t member => bare t (made.hasTag_iff.mpr (mem_allTags.mp member))
  rw [made.tags_eq, if_pos empty]

/-- **The key is the tag of the single id** unless a reserved tag of the parameters is less. -/
theorem key_eq_own_iff (made : p.Makes job) {s : String} (single : p.singleId = some s) :
    job.singleInstanceKey? = some (singleInstanceTag s) ↔
      ∀ t ∈ p.tags, isSingleInstanceTag t = true →
        ¬utf8Bytes t < utf8Bytes (singleInstanceTag s) := by
  have own : job.HasTag (singleInstanceTag s) := made.hasTag_iff.mpr (.inr ⟨s, single, rfl⟩)
  rw [Profile.singleInstanceKey?_eq_some_iff]
  constructor
  · rintro ⟨-, -, least⟩ t member reserved
    exact List.not_lt.mpr (least t (made.hasTag_iff.mpr (.inl member)) reserved)
  · intro least
    refine ⟨own, isSingleInstanceTag_singleInstanceTag s, fun t has reserved => ?_⟩
    obtain member | ⟨s', single', rfl⟩ := made.hasTag_iff.mp has
    · exact List.not_lt.mp (least t member reserved)
    · obtain rfl := Option.some.inj (single.symm.trans single')
      exact List.le_refl _

/-- Where the parameters have no reserved tag, the key tells the single id. -/
theorem key_eq_map (made : p.Makes job) (unreserved : p.Unreserved) :
    job.singleInstanceKey? = p.singleId.map singleInstanceTag := by
  cases single : p.singleId with
  | none =>
    refine Profile.singleInstanceKey?_eq_none_iff.mpr fun t has => ?_
    obtain member | ⟨s, own, -⟩ := made.hasTag_iff.mp has
    · exact unreserved t member
    · rw [single] at own
      contradiction
  | some s =>
    refine (made.key_eq_own_iff single).mpr fun t member reserved => ?_
    rw [unreserved t member] at reserved
    contradiction

theorem key_eq_key_iff (made : p.Makes job) (made' : p'.Makes job') (unreserved : p.Unreserved)
    (unreserved' : p'.Unreserved) :
    job.singleInstanceKey? = job'.singleInstanceKey? ↔ p.singleId = p'.singleId := by
  rw [made.key_eq_map unreserved, made'.key_eq_map unreserved',
    (Option.map_injective fun _ _ => singleInstanceTag_inj.mp).eq_iff]

/-- **Tags and key stay** whatever happens to the job. -/
theorem exists_live (made : p.Makes job) (episodes : List (Episode ω)) :
    ∃ later, job.live episodes = .ok later ∧ later.tags = job.tags ∧
      later.singleInstanceKey? = job.singleInstanceKey? := by
  obtain ⟨later, lived, evolved⟩ := made.sound.exists_live episodes
  refine ⟨later, lived, evolved.tags, ?_⟩
  rw [Profile.singleInstanceKey?, evolved.tags, Profile.singleInstanceKey?]

end Makes

/-! ### All in all -/

/-- The tags, the group and the key of a job are what its parameters ask for. -/
structure Marks (p : Params) (job : Job ω) : Prop where
  hasTag_iff (t : String) :
    job.HasTag t ↔ t ∈ p.tags ∨ ∃ s ∈ p.singleId, t = singleInstanceTag s
  tags_eq_none_iff : job.tags = none ↔ ∀ t, ¬job.HasTag t
  groupId_eq : job.groupId = p.groupId.or p.singleId
  /-- The key is the least reserved tag, in the order of bytes. -/
  key_eq_some_iff (k : String) : job.singleInstanceKey? = some k ↔
    job.HasTag k ∧ isSingleInstanceTag k = true ∧
      ∀ t, job.HasTag t → isSingleInstanceTag t = true → utf8Bytes k ≤ utf8Bytes t
  key_eq_none_iff :
    job.singleInstanceKey? = none ↔ ∀ t, job.HasTag t → isSingleInstanceTag t = false
  key_eq_own_iff (s : String) (single : p.singleId = some s) :
    job.singleInstanceKey? = some (singleInstanceTag s) ↔
      ∀ t ∈ p.tags, isSingleInstanceTag t = true →
        ¬utf8Bytes t < utf8Bytes (singleInstanceTag s)
  /-- Operations and restarts change nothing about it, and neither does the record. -/
  stays (episodes : List (Episode ω)) : ∃ later, job.live episodes = .ok later ∧
    later.tags = job.tags ∧ later.singleInstanceKey? = job.singleInstanceKey? ∧
    later.toRecord.singleInstanceKey? = job.singleInstanceKey?

theorem Makes.marks (made : p.Makes job) : p.Marks job where
  hasTag_iff _ := made.hasTag_iff
  tags_eq_none_iff := made.tags_eq_none_iff
  groupId_eq := made.groupId_eq
  key_eq_some_iff _ := Profile.singleInstanceKey?_eq_some_iff
  key_eq_none_iff := Profile.singleInstanceKey?_eq_none_iff
  key_eq_own_iff _ := made.key_eq_own_iff
  stays episodes := by
    obtain ⟨later, lived, tags, key⟩ := made.exists_live episodes
    exact ⟨later, lived, tags, key, key⟩

/-- **Tags decide the key of a job.** Take parameters, to which tags are added. What comes of it is
known by the tags: neither their order nor how often they are added makes a difference, and nothing
but the tags changes. With any id but the empty one, and any work item, the parameters make a job,
whose tags, group and key are as `Params.Marks` says: the tag of the single id is one of its tags,
and the key is the least tag that begins as such tags do. Two jobs whose parameters have no such
tags of their own have the same key just if they have the same single id, or none. -/
theorem tags_decide_key (p : Params) (additions : List (List String)) :
    let q := additions.foldl addTags p
    ((∀ t, t ∈ q.tags ↔ t ∈ p.tags ∨ ∃ ts ∈ additions, t ∈ ts) ∧ { q with tags := p.tags } = p ∧
      ∀ others : List (List String), (∀ t, t ∈ others.flatten ↔ t ∈ additions.flatten) →
        others.foldl addTags p = q) ∧
    (∀ (κ : Type) [Clock κ] (clock : κ) (id : String) (session : SessionId) (work : ω), id ≠ "" →
      ∃ job, ((q.toBuilder ω id clock session).1.withWork work).build = .ok job ∧ q.Makes job) ∧
    (∀ job : Job ω, q.Makes job → q.Marks job) ∧
    ∀ (p' : Params) (job job' : Job ω), q.Makes job → p'.Makes job' →
      q.Unreserved → p'.Unreserved →
      (job.singleInstanceKey? = job'.singleInstanceKey? ↔ p.singleId = p'.singleId) := by
  intro q
  have added : q = p.addTags additions.flatten := p.foldl_addTags additions
  refine ⟨⟨fun t => ?_, ?_, fun others same => ?_⟩, fun κ _ clock id session work named => ?_,
    fun job made => made.marks, fun p' job job' made made' unreserved unreserved' => ?_⟩
  · rw [added, mem_tags_addTags, List.mem_flatten]
  · rw [added]
    rfl
  · rw [added, foldl_addTags]
    exact addTags_congr same
  · obtain ⟨job, built, -⟩ := q.exists_build named clock session work
    exact ⟨job, built, κ, _, clock, id, session, work, built⟩
  · have single : q.singleId = p.singleId := congrArg (·.singleId) added
    rw [made.key_eq_key_iff made' unreserved unreserved', single]

/-- A reserved tag that is added by hand comes before the one of the single id, in whichever order
the tags are added, and stays the key after a cancellation and a restart. A job with the same single
id and no such tag has another key. -/
theorem tags_decide_key_by_hand :
    let p : Params := { singleId := some "sync" }
    let additions := [["b", "job-single-id:a"], ["b"]]
    let idle : ScriptedWork := ⟨⟨[], {}, [], 3⟩⟩
    let q := additions.foldl addTags p
    let episodes : List (Episode ScriptedWork) := [.operation (.mark .cancelled), .restart idle]
    [["job-single-id:a"], ["b"]].foldl addTags p = q ∧
    ∃ job job' later : Job ScriptedWork, q.Makes job ∧ p.Makes job' ∧
      job.groupId = some "sync" ∧ job.HasTag "job-single-id:sync" ∧
      job.singleInstanceKey? = some "job-single-id:a" ∧
      job'.singleInstanceKey? = some "job-single-id:sync" ∧
      job.live episodes = .ok later ∧ later.singleInstanceKey? = some "job-single-id:a" := by
  intro p additions idle q episodes
  obtain ⟨⟨-, -, known⟩, complete, marks, -⟩ := p.tags_decide_key (ω := ScriptedWork) additions
  obtain ⟨-, complete', marks', -⟩ := p.tags_decide_key (ω := ScriptedWork) []
  obtain ⟨job, -, made⟩ := complete _ (ManualClock.mk 7) "first" ⟨1⟩ idle (by decide)
  obtain ⟨job', -, made'⟩ := complete' _ (ManualClock.mk 7) "second" ⟨1⟩ idle (by decide)
  have marked : q.Marks job := marks job made
  have own : job.HasTag "job-single-id:sync" := (marked.hasTag_iff _).mpr (.inr ⟨_, rfl, rfl⟩)
  have key : job.singleInstanceKey? = some "job-single-id:a" := by
    rw [Profile.singleInstanceKey?, made.tags_eq]
    rfl
  have key' : job'.singleInstanceKey? = some "job-single-id:sync" :=
    ((marks' job' made').key_eq_own_iff "sync" rfl).mpr fun _ none_added =>
      absurd none_added List.not_mem_nil
  obtain ⟨later, lived, -, kept, -⟩ := marked.stays episodes
  exact ⟨known _ (by simp [additions, or_comm]), job, job', later, made, made', marked.groupId_eq,
    own, key, key', lived, kept.trans key⟩

end Params

end DeferredJobs
