import DeferredJobs.Retry
import Mathlib.Algebra.Group.Nat.Defs

/-!
# Delays that double

A job that fails again and again is to wait twice as long before each further attempt, until it
waits for the longest duration. There are two ways to run out of numbers on the way: the factor is
a 32-bit number, and the delay is a duration.

* **The factor** (`RetryConstraint.toNat_backoffFactor`) is the power of two up to the 32nd attempt,
  and the largest 32-bit number from then on.
* **The delay** (`Duration.nanos_scale`) is their product, or the longest duration.

The largest factor is enough if it leads to the longest duration. Otherwise the delay outgrows the
factor (`RetryConstraint.OutgrowsFactor`), and it stays as it is from the 33rd attempt on.
`RetryConstraint.exponentialBackoff_doubles_iff` puts this together.
-/

namespace DeferredJobs

namespace RetryConstraint

variable {attempt : UInt32} {initial : Duration}

/-- Even with the largest factor, the delay could still grow. -/
def OutgrowsFactor (initial : Duration) : Prop :=
  0 < initial.nanos ∧ initial.nanos * (UInt32.size - 1) < Duration.longest.nanos

instance (initial : Duration) : Decidable (OutgrowsFactor initial) :=
  inferInstanceAs (Decidable (_ ∧ _))

/-! ### The factor -/

/-- Powers of two are 32-bit numbers up to the 31st. -/
theorem two_pow_le_iff {k : Nat} : 2 ^ k ≤ UInt32.size - 1 ↔ k < 32 :=
  calc 2 ^ k ≤ UInt32.size - 1
      ↔ 2 ^ k < 2 ^ 32 := Nat.le_sub_one_iff_lt (by decide)
    _ ↔ k < 32 := Nat.pow_lt_pow_iff_right (by decide)

/-- The factor is a power of two for as long as it can be. -/
theorem toNat_backoffFactor (attempt : UInt32) :
    (backoffFactor attempt).toNat = min (2 ^ (attempt.toNat - 1)) (UInt32.size - 1) := by
  have early_iff : attempt ≤ 32 ↔ attempt.toNat ≤ 32 := UInt32.le_iff_toNat_le
  rw [backoffFactor]
  split
  · next early =>
    have small : 2 ^ (attempt.toNat - 1) ≤ UInt32.size - 1 :=
      two_pow_le_iff.mpr (by have := early_iff.mp early; omega)
    rw [Nat.min_eq_left small]
    exact UInt32.toNat_ofNat_of_lt' (Nat.lt_of_le_pred (by decide) small)
  · next late =>
    have large : ¬2 ^ (attempt.toNat - 1) ≤ UInt32.size - 1 :=
      mt two_pow_le_iff.mp (by have := mt early_iff.mpr late; omega)
    exact (Nat.min_eq_right (Nat.le_of_not_le large)).symm

/-- A factor beyond the largest one would lead to a longer delay, if there is one. -/
theorem capped_eq_iff {k : Nat} (larger : UInt32.size - 1 < k) :
    min (initial.nanos * (UInt32.size - 1)) Duration.longest.nanos =
        min (initial.nanos * k) Duration.longest.nanos ↔
      ¬OutgrowsFactor initial := by
  rw [OutgrowsFactor]
  obtain none | some := Nat.eq_zero_or_pos initial.nanos
  · rw [none, Nat.zero_mul, Nat.zero_mul]
    exact iff_of_true rfl fun outgrows => Nat.lt_irrefl 0 outgrows.1
  · have longer : initial.nanos * (UInt32.size - 1) < initial.nanos * k :=
      Nat.mul_lt_mul_of_pos_left larger some
    omega

/-! ### The delay -/

theorem nanos_scale_backoffFactor (attempt : UInt32) (initial : Duration) :
    (initial.scale (backoffFactor attempt)).nanos =
      min (initial.nanos * min (2 ^ (attempt.toNat - 1)) (UInt32.size - 1))
        Duration.longest.nanos := by
  rw [Duration.nanos_scale, toNat_backoffFactor]

/-- A capped factor leads where the factor itself leads, unless the delay outgrows the cap. -/
theorem scaled_eq_iff {k : Nat} :
    min (initial.nanos * min k (UInt32.size - 1)) Duration.longest.nanos =
        min (initial.nanos * k) Duration.longest.nanos ↔
      k ≤ UInt32.size - 1 ∨ ¬OutgrowsFactor initial := by
  by_cases fits : k ≤ UInt32.size - 1
  · rw [Nat.min_eq_left fits]
    exact iff_of_true rfl (.inl fits)
  · have larger : UInt32.size - 1 < k := Nat.lt_of_not_le fits
    rw [Nat.min_eq_right (Nat.le_of_lt larger), capped_eq_iff larger]
    exact (or_iff_right fits).symm

/-- Doubling the factor doubles the delay, unless the delay outgrows the cap. -/
theorem scaled_two_mul_eq_iff {k : Nat} :
    min (initial.nanos * min (2 * k) (UInt32.size - 1)) Duration.longest.nanos =
        min (2 * min (initial.nanos * min k (UInt32.size - 1)) Duration.longest.nanos)
          Duration.longest.nanos ↔
      2 * k ≤ UInt32.size - 1 ∨ ¬OutgrowsFactor initial := by
  have twice : min (2 * min (initial.nanos * min k (UInt32.size - 1)) Duration.longest.nanos)
      Duration.longest.nanos =
        min (initial.nanos * (2 * min k (UInt32.size - 1))) Duration.longest.nanos := by
    rw [Nat.mul_left_comm]
    omega
  rw [twice]
  by_cases fits : 2 * k ≤ UInt32.size - 1
  · have small : k ≤ UInt32.size - 1 := by omega
    rw [Nat.min_eq_left fits, Nat.min_eq_left small]
    exact iff_of_true rfl (.inl fits)
  · -- twice the capped factor is beyond the cap, be it capped or not
    have capped : min (2 * k) (UInt32.size - 1) = UInt32.size - 1 :=
      Nat.min_eq_right (Nat.le_of_not_le fits)
    have larger : UInt32.size - 1 < 2 * min k (UInt32.size - 1) := by
      have size : UInt32.size = 4294967296 := rfl
      omega
    rw [capped, capped_eq_iff larger]
    exact (or_iff_right fits).symm

/-- **When delays double.** The delay before another attempt is the initial one times a power of
two, whose exponent is one less than the number of the attempt, or the longest duration. This holds
of the first 32 attempts; and it holds of the others if and only if the delay does not outgrow the
factor: there is no delay at all, or the largest factor leads to the longest duration. From the 33rd
attempt on, the delay is the initial one times the largest factor, or the longest duration.

So the delay before the next attempt is twice as long, or the longest duration, after each of the
first 31 attempts; and after the others if and only if the delay does not outgrow the factor. -/
theorem exponentialBackoff_doubles_iff (attempt : UInt32) (initial : Duration) :
    ∃ delay, exponentialBackoff attempt initial = { retry := true, newDelay := some delay } ∧
      (delay.nanos = min (initial.nanos * 2 ^ (attempt.toNat - 1)) Duration.longest.nanos ↔
        attempt ≤ 32 ∨ ¬OutgrowsFactor initial) ∧
      (32 < attempt →
        delay.nanos = min (initial.nanos * (UInt32.size - 1)) Duration.longest.nanos) ∧
      ∀ next : UInt32, 1 ≤ attempt → next.toNat = attempt.toNat + 1 →
        ∃ later, exponentialBackoff next initial = { retry := true, newDelay := some later } ∧
          (later.nanos = min (2 * delay.nanos) Duration.longest.nanos ↔
            attempt ≤ 31 ∨ ¬OutgrowsFactor initial) := by
  have early_iff : attempt ≤ 32 ↔ 2 ^ (attempt.toNat - 1) ≤ UInt32.size - 1 := by
    have by_number : attempt ≤ 32 ↔ attempt.toNat ≤ 32 := UInt32.le_iff_toNat_le
    rw [by_number, two_pow_le_iff]
    omega
  refine ⟨_, rfl, ?_, fun late => ?_, fun next first follows => ⟨_, rfl, ?_⟩⟩
  · rw [nanos_scale_backoffFactor, early_iff]
    exact scaled_eq_iff
  · have beyond : UInt32.size - 1 ≤ 2 ^ (attempt.toNat - 1) :=
      Nat.le_of_not_le (mt early_iff.mpr (UInt32.not_le.mpr late))
    rw [nanos_scale_backoffFactor, Nat.min_eq_right beyond]
  · have first : 1 ≤ attempt.toNat := UInt32.le_iff_toNat_le.mp first
    have double : 2 ^ (next.toNat - 1) = 2 * 2 ^ (attempt.toNat - 1) := by
      rw [follows, ← Nat.pow_succ']
      congr 1
      omega
    have early_iff : attempt ≤ 31 ↔ 2 * 2 ^ (attempt.toNat - 1) ≤ UInt32.size - 1 := by
      have by_number : attempt ≤ 31 ↔ attempt.toNat ≤ 31 := UInt32.le_iff_toNat_le
      rw [by_number, ← double, two_pow_le_iff]
      omega
    rw [nanos_scale_backoffFactor, nanos_scale_backoffFactor, double, early_iff]
    exact scaled_two_mul_eq_iff

/-- The 33rd attempt is the first one that is not twice as long in coming. -/
theorem exponentialBackoff_doubles_iff_last :
    let initial : Duration := ⟨1, by decide⟩
    ((32 : UInt32) < 33 ∧ (1 : UInt32) ≤ 32 ∧ (33 : UInt32).toNat = (32 : UInt32).toNat + 1) ∧
      ∃ delay later, exponentialBackoff 32 initial = { retry := true, newDelay := some delay } ∧
        exponentialBackoff 33 initial = { retry := true, newDelay := some later } ∧
        delay.nanos = min (initial.nanos * 2 ^ 31) Duration.longest.nanos ∧
        later.nanos = min (initial.nanos * (UInt32.size - 1)) Duration.longest.nanos ∧
        later.nanos ≠ min (2 * delay.nanos) Duration.longest.nanos := by
  intro initial
  have outgrows : OutgrowsFactor initial := by decide
  obtain ⟨delay, asked, power, -, next⟩ := exponentialBackoff_doubles_iff 32 initial
  obtain ⟨later, asked', doubles⟩ := next 33 (by decide) rfl
  obtain ⟨last, asked'', -, capped, -⟩ := exponentialBackoff_doubles_iff 33 initial
  have same : later = last := Option.some.inj (congrArg (·.newDelay) (asked'.symm.trans asked''))
  refine ⟨by decide, delay, later, asked, asked', power.mpr (.inl (by decide)), ?_, ?_⟩
  · rw [same]
    exact capped (by decide)
  · exact mt doubles.mp (not_or.mpr ⟨by decide, not_not_intro outgrows⟩)

/-- With an initial delay of a millisecond, the 34th attempt is to wait for 2³³ ms, which is much
less than the longest duration. It waits for half of that, less a millisecond, and so do all
attempts after it. -/
theorem backoff_stops_doubling :
    let initial : Duration := .ofMillis 1
    let documented : Nat := min (initial.nanos * 2 ^ 33) Duration.longest.nanos
    documented = 8589934592000000 ∧ documented < Duration.longest.nanos ∧
      ∃ delay, exponentialBackoff 34 initial = { retry := true, newDelay := some delay } ∧
        delay.nanos = 4294967295000000 := by
  intro initial documented
  refine ⟨by decide, by decide, _, rfl, ?_⟩
  rw [Duration.nanos_scale]
  decide

end RetryConstraint

end DeferredJobs
