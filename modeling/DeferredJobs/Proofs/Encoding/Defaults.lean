import DeferredJobs.Encoding.Codec
import Mathlib.Data.List.Nodup
import Mathlib.Data.List.Perm.Basic

/-!
# Fields that are left out

A record is read by looking its fields up by name, so that their order has no part in what it reads
as. A field with a default may be left out as well.

* **Entries** (`Fields.written`): what stands under a name, and what look-ups make of it.
* **Filling in** (`FillsIn`): two trees are the same record, but the second one writes out some
  defaults that the first one leaves out, in the record itself or in a part of it. Any defaults can
  be written out, at any place (`FillsIn.of_perm`).
* **Reading** (`FillsAt.required_eq`, `FillsAt.defaulted_eq`): each field then reads the same.
-/

namespace DeferredJobs.Encoding

open Document

/-! ### Entries -/

namespace Fields

variable {α δ : Type}

/-- What is written under a name. -/
def written (fs : Fields δ) (name : String) : List δ :=
  (fs.entries.filter (·.1 == name)).map (·.2)

theorem find_eq (fs : Fields δ) (name : String) :
    fs.find name =
      match fs.written name with
      | [] => .absent
      | [d] => .once d
      | _ => .repeated := by
  rw [find, written]
  generalize fs.entries.filter (fun e : String × δ => e.1 == name) = found
  rcases found with _ | ⟨_, _ | _⟩ <;> rfl

theorem written_nil (named : Bool) (name : String) :
    written (⟨[], named⟩ : Fields δ) name = [] := rfl

theorem written_cons (e : String × δ) (es : List (String × δ)) (named : Bool) (name : String) :
    written ⟨e :: es, named⟩ name =
      if e.1 = name then e.2 :: written ⟨es, named⟩ name else written ⟨es, named⟩ name := by
  simp only [written, List.filter_cons, beq_iff_eq]
  split <;> rfl

theorem written_eq_nil_iff {es : List (String × δ)} {named : Bool} {name : String} :
    written ⟨es, named⟩ name = [] ↔ name ∉ es.map (·.1) := by
  induction es with
  | nil => simp [written_nil]
  | cons e es ih =>
    rw [written_cons, List.map_cons, List.mem_cons, not_or, ← ih]
    split
    · next same => simp [same]
    · next other => simp [Ne.symm other]

/-- A field is what stands under its name, if names stand once. -/
theorem written_of_mem {es : List (String × δ)} {named : Bool} {e : String × δ}
    (distinct : (es.map (·.1)).Nodup) (member : e ∈ es) : written ⟨es, named⟩ e.1 = [e.2] := by
  induction es with
  | nil => contradiction
  | cons f es ih =>
    obtain ⟨apart, distinct⟩ := List.nodup_cons.mp distinct
    rw [written_cons]
    obtain rfl | member := List.mem_cons.mp member
    · rw [if_pos rfl, written_eq_nil_iff.mpr apart]
    · have other : f.1 ≠ e.1 := fun same => apart (List.mem_map.mpr ⟨e, member, same.symm⟩)
      rw [if_neg other, ih distinct member]

/-- A look-up does not depend on the order of the fields. -/
theorem find_eq_of_perm {fs fs' : Fields δ} {name : String}
    (h : (fs'.written name).Perm (fs.written name)) : fs'.find name = fs.find name := by
  rw [find_eq, find_eq]
  generalize fs.written name = ds at h
  generalize fs'.written name = ds' at h
  have length : ds'.length = ds.length := h.length_eq
  match ds, ds' with
  | [], _ => rw [h.eq_nil]
  | [d], _ => rw [h.eq_singleton]
  | _ :: _ :: _, [] => contradiction
  | _ :: _ :: _, [_] => simp at length
  | _ :: _ :: _, _ :: _ :: _ => rfl

variable [Document δ] [Codec α]

theorem defaulted_eq (fs : Fields δ) (name : String) (default : α) :
    fs.defaulted name default =
      match fs.written name with
      | [] => some default
      | [d] => decode d
      | _ => none := by
  rw [defaulted, find_eq]
  rcases fs.written name with _ | ⟨_, _ | _⟩ <;> rfl

/-- With names, an optional field may be missing. -/
theorem optional_named (es : List (String × δ)) (name : String) :
    optional (α := α) ⟨es, true⟩ name = defaulted ⟨es, true⟩ name none := rfl

end Fields

/-! ### Filling in -/

/-- What may be left out of a record: some of its fields, which then have their defaults, and what
may be left out of its parts. -/
structure Omissions where
  defaults : List (String × Tree)
  parts : List (String × (Tree → Tree → Prop)) := []

/-- How the fields of two records compare at a name, if the second record fills in what the first
one leaves out. -/
inductive FillsAt (o : Omissions) (fs fs' : Fields Tree) (name : String) : Prop
  | same (h : (fs'.written name).Perm (fs.written name))
  | filled {t : Tree} (listed : o.defaults.lookup name = some t) (absent : fs.written name = [])
      (present : fs'.written name = [t])
  | inside {part : Tree → Tree → Prop} {t t' : Tree} (h : o.parts.lookup name = some part)
      (related : part t t') (one : fs.written name = [t]) (one' : fs'.written name = [t'])

/-- The second tree is the same record as the first one, with some fields written out that the
first one leaves out. The order of the fields does not matter. -/
inductive FillsIn (o : Omissions) : Tree → Tree → Prop
  | fields {es es' : List (String × Tree)}
      (h : ∀ name, FillsAt o ⟨es, true⟩ ⟨es', true⟩ name) : FillsIn o (.fields es) (.fields es')

/-- Any fields with defaults can be added at any place, as long as they are not there yet. -/
theorem FillsIn.of_perm {o : Omissions} {es es' added : List (String × Tree)}
    (perm : es'.Perm (added ++ es))
    (defaults : ∀ e ∈ added, o.defaults.lookup e.1 = some e.2)
    (distinct : ((added ++ es).map (·.1)).Nodup) :
    FillsIn o (.fields es) (.fields es') := by
  refine .fields fun name => ?_
  have written : (Fields.written ⟨es', true⟩ name).Perm
      (Fields.written ⟨added, true⟩ name ++ Fields.written ⟨es, true⟩ name) := by
    rw [Fields.written, Fields.written, Fields.written, ← List.map_append, ← List.filter_append]
    exact (perm.filter _).map _
  rw [List.map_append, List.nodup_append] at distinct
  obtain ⟨once, -, apart⟩ := distinct
  by_cases adds : name ∈ added.map (·.1)
  · obtain ⟨e, member, rfl⟩ := List.mem_map.mp adds
    have absent : Fields.written ⟨es, true⟩ e.1 = [] :=
      Fields.written_eq_nil_iff.mpr fun present => apart _ adds _ present rfl
    rw [Fields.written_of_mem once member, absent] at written
    exact .filled (defaults e member) absent written.eq_singleton
  · rw [Fields.written_eq_nil_iff.mpr adds] at written
    exact .same written

/-! ### Reading -/

namespace FillsAt

variable {α : Type} [Codec α] {o : Omissions} {fs fs' : Fields Tree} {name : String}

/-- A field that may not be left out, and of which nothing may be left out, reads the same. -/
theorem required_eq (h : FillsAt o fs fs' name) (must : o.defaults.lookup name = none)
    (whole : o.parts.lookup name = none) :
    fs'.required (α := α) name = fs.required name := by
  cases h with
  | same h => rw [Fields.required, Fields.required, Fields.find_eq_of_perm h]
  | filled listed => rw [must] at listed; contradiction
  | inside h => rw [whole] at h; contradiction

/-- A field that may be left out reads the same if the default that is written reads as the default
that is taken, and if its part reads the same. -/
theorem defaulted_eq (h : FillsAt o fs fs' name) (default : α) {t : Tree}
    (listed : o.defaults.lookup name = some t) (means : decode t = some default)
    (same : ∀ part ∈ o.parts.lookup name, ∀ t t', part t t' → decode (α := α) t' = decode t) :
    fs'.defaulted name default = fs.defaulted name default := by
  cases h with
  | same h => rw [Fields.defaulted, Fields.defaulted, Fields.find_eq_of_perm h]
  | filled listed' absent present =>
    obtain rfl := Option.some.inj (listed.symm.trans listed')
    rw [Fields.defaulted_eq, Fields.defaulted_eq, absent, present]
    exact means
  | inside h related one one' =>
    rw [Fields.defaulted_eq, Fields.defaulted_eq, one, one']
    exact same _ h _ _ related

end FillsAt

end DeferredJobs.Encoding
