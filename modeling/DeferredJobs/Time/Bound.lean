import DeferredJobs.Time.Duration

/-!
# Instants and bounds

An instant is a reading of a monotonic clock, in nanoseconds. A `TimeBound` says how long a
condition lasts: not at all, up to an instant, or without end. Bounds are ordered by how far they
reach, and `offset` moves an instant forward without ever leaving the range of instants.
-/

namespace DeferredJobs

/-- A clock reading in nanoseconds. -/
abbrev Nanos := Int64

/-- `now` moved forward by `d`. The step is first cut down to the largest instant and the sum is
then kept within the instants. -/
def offset (now : Nanos) (d : Duration) : Nanos :=
  Int64.ofIntClamp (now.toInt + min (d.nanos : Int) Int64.maxValue.toInt)

/-- How long a condition lasts. -/
inductive TimeBound where
  /-- The condition never holds. -/
  | never
  /-- The condition holds before the instant and no longer from it on. -/
  | upTo (instant : Nanos)
  /-- The condition always holds. -/
  | forever
deriving DecidableEq, Hashable, Inhabited

namespace TimeBound

/-- Whether the condition still holds at `now`. -/
def isPending (now : Nanos) : TimeBound → Bool
  | never => false
  | upTo t => now < t
  | forever => true

/-- Whether the condition is over at `now`. -/
def hasPassed (now : Nanos) (b : TimeBound) : Bool := !b.isPending now

/-- The instant at which the condition ends, if it ends at one. -/
def instant? : TimeBound → Option Nanos
  | upTo t => some t
  | _ => none

/-- A bound in words: `never`, the instant in nanoseconds, or `forever`. -/
def text : TimeBound → String
  | never => "never"
  | upTo t => s!"{t}ns"
  | forever => "forever"

/-! ### Order -/

/-- Compares how far two bounds reach: `never`, then the instants in order, then `forever`. -/
protected def compare : TimeBound → TimeBound → Ordering
  | never, never => .eq
  | never, _ => .lt
  | upTo _, never => .gt
  | upTo s, upTo t => compare s t
  | upTo _, forever => .lt
  | forever, forever => .eq
  | forever, _ => .gt

instance : Ord TimeBound := ⟨TimeBound.compare⟩

instance : LE TimeBound := leOfOrd

instance : Max TimeBound := maxOfLe

instance : Min TimeBound := minOfLe

instance : Std.OrientedOrd TimeBound where
  eq_swap {a b} := by
    cases a <;> cases b <;> first | rfl | exact Std.OrientedOrd.eq_swap (α := Int64)

instance : Std.TransOrd TimeBound where
  isLE_trans {a b c} hab hbc := by
    cases a <;> cases b <;> cases c <;>
      first | rfl | contradiction | exact Std.TransOrd.isLE_trans (α := Int64) hab hbc

instance : Std.LawfulEqOrd TimeBound where
  eq_of_compare {a b} h := by
    cases a <;> cases b <;>
      first
      | rfl
      | contradiction
      | exact congrArg upTo (Std.LawfulEqOrd.eq_of_compare (α := Int64) h)

instance : Std.IsLinearOrder TimeBound := .of_ord

instance : Std.LawfulOrderLeftLeaningMax TimeBound where
  max_eq_left a b h := by
    change (if a ≤ b then b else a) = a
    split
    · next h' => exact Std.le_antisymm h h'
    · rfl
  max_eq_right a b h := if_pos (Std.le_of_not_ge h)

@[simp] theorem never_le (b : TimeBound) : never ≤ b := by cases b <;> rfl

@[simp] theorem le_forever (b : TimeBound) : b ≤ forever := by cases b <;> rfl

@[simp] theorem upTo_le_upTo {s t : Nanos} : upTo s ≤ upTo t ↔ s ≤ t :=
  Std.isLE_compare (α := Int64)

@[simp] theorem isPending_never (now : Nanos) : never.isPending now = false := rfl

@[simp] theorem isPending_upTo (now t : Nanos) : (upTo t).isPending now = decide (now < t) := rfl

@[simp] theorem isPending_forever (now : Nanos) : forever.isPending now = true := rfl

/-- A condition is over once its bound reaches no further than the reading. -/
theorem isPending_eq_false_iff {b : TimeBound} {now : Nanos} :
    b.isPending now = false ↔ b ≤ upTo now := by
  cases b with
  | never => simp
  | upTo t => simp
  | forever => simpa using nofun

/-- What reaches further holds longer. -/
theorem isPending_of_le {a b : TimeBound} (h : a ≤ b) {now : Nanos} (ha : a.isPending now = true) :
    b.isPending now = true := by
  rw [← Bool.not_eq_false, isPending_eq_false_iff] at ha ⊢
  exact fun hb => ha (Std.le_trans h hb)

end TimeBound

end DeferredJobs
