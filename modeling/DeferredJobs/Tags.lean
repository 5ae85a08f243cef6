/-!
# Tags

A `TagSet` is a finite set of strings, kept in order: by code points, which is the order of their
UTF-8 bytes. Tags with a reserved beginning name the single-instance key of a job, and
`TagSet.singleInstanceKey?` finds the first of them.
-/

namespace DeferredJobs

/-- Puts `tag` into its place in an ordered list, unless it is there already. -/
def insertTag (tag : String) : List String → List String
  | [] => [tag]
  | t :: ts =>
    if tag < t then tag :: t :: ts
    else if tag = t then t :: ts
    else t :: insertTag tag ts

theorem mem_insertTag {tag t : String} {ts : List String} :
    t ∈ insertTag tag ts ↔ t = tag ∨ t ∈ ts := by
  induction ts with
  | nil => simp [insertTag]
  | cons u us ih =>
    simp only [insertTag]
    split
    · simp
    · split
      · next h => simp [h]
      · simp [ih, or_left_comm]

theorem pairwise_insertTag (tag : String) {ts : List String} (h : ts.Pairwise (· < ·)) :
    (insertTag tag ts).Pairwise (· < ·) := by
  induction ts with
  | nil => simp [insertTag]
  | cons u us ih =>
    have tail := List.pairwise_cons.mp h
    simp only [insertTag]
    split
    · next lt =>
      refine List.pairwise_cons.mpr ⟨fun t ht => ?_, h⟩
      rcases List.mem_cons.mp ht with rfl | ht
      · exact lt
      · exact String.lt_trans lt (tail.1 t ht)
    · next not_lt =>
      split
      · exact h
      · next ne =>
        refine List.pairwise_cons.mpr ⟨fun t ht => ?_, ih tail.2⟩
        rcases mem_insertTag.mp ht with rfl | ht
        · exact Std.lt_of_le_of_ne (String.not_lt.mp not_lt) (Ne.symm ne)
        · exact tail.1 t ht

theorem insertTag_of_forall_lt {tag : String} {ts : List String} (last : ∀ t ∈ ts, t < tag) :
    insertTag tag ts = ts ++ [tag] := by
  induction ts with
  | nil => rfl
  | cons t ts ih =>
    obtain ⟨before, rest⟩ := List.forall_mem_cons.mp last
    have not_lt : ¬tag < t := String.lt_asymm before
    have ne : tag ≠ t := fun same => String.lt_irrefl _ (same ▸ before)
    rw [insertTag, if_neg not_lt, if_neg ne, ih rest, List.cons_append]

/-- A finite set of tags in ascending order. -/
structure TagSet where
  toList : List String
  sorted : toList.Pairwise (· < ·)
deriving DecidableEq

namespace TagSet

/-- The set without tags. -/
def empty : TagSet := ⟨[], .nil⟩

instance : Inhabited TagSet := ⟨empty⟩

def isEmpty (s : TagSet) : Bool := s.toList.isEmpty

def insert (s : TagSet) (tag : String) : TagSet :=
  ⟨insertTag tag s.toList, pairwise_insertTag tag s.sorted⟩

/-- Adds every tag of a list. -/
def insertMany (s : TagSet) (tags : List String) : TagSet := tags.foldl insert s

/-- The set of the tags of a list. -/
def ofList (tags : List String) : TagSet := empty.insertMany tags

instance : Membership String TagSet := ⟨fun s tag => tag ∈ s.toList⟩

@[simp] theorem mem_toList {s : TagSet} {tag : String} : tag ∈ s.toList ↔ tag ∈ s := Iff.rfl

@[simp] theorem mem_insert {s : TagSet} {tag t : String} : t ∈ s.insert tag ↔ t = tag ∨ t ∈ s :=
  mem_insertTag

theorem toList_inj {s s' : TagSet} : s.toList = s'.toList ↔ s = s' := by
  cases s
  cases s'
  rw [mk.injEq]

theorem toList_insertMany {s : TagSet} {ts : List String}
    (ascending : (s.toList ++ ts).Pairwise (· < ·)) :
    (s.insertMany ts).toList = s.toList ++ ts := by
  induction ts generalizing s with
  | nil => exact (List.append_nil _).symm
  | cons t ts ih =>
    have last : ∀ u ∈ s.toList, u < t := fun u member =>
      (List.pairwise_append.mp ascending).2.2 u member t List.mem_cons_self
    have appended : (s.insert t).toList = s.toList ++ [t] := insertTag_of_forall_lt last
    rw [List.append_cons, ← appended] at ascending ⊢
    exact ih ascending

/-- A set is made up of its tags. -/
theorem ofList_toList (s : TagSet) : ofList s.toList = s :=
  toList_inj.mp (toList_insertMany s.sorted)

end TagSet

/-! ### Single-instance keys -/

/-- How the tags begin that name a single-instance key. -/
def singleInstanceMarker : String := "job-single-id:"

/-- The tag of the jobs of which at most one may be pending for `singleId`. -/
def singleInstanceTag (singleId : String) : String := singleInstanceMarker ++ singleId

/-- Whether a tag names a single-instance key. -/
def isSingleInstanceTag (tag : String) : Bool :=
  singleInstanceMarker.toList.isPrefixOf tag.toList

/-- The first tag that names a single-instance key. -/
def TagSet.singleInstanceKey? (s : TagSet) : Option String := s.toList.find? isSingleInstanceTag

end DeferredJobs
