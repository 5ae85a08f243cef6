/-!
# Lengths of time

A `Duration` is a whole number of nanoseconds below `2⁶⁴` seconds. Arithmetic that would leave
this range stops at the longest duration instead (`Duration.clamp`), and stored durations keep
whole milliseconds only (`Duration.wholeMillis`), which is all there is to some of them
(`Duration.truncated_eq_self_iff`).
-/

namespace DeferredJobs

/-- The number of nanoseconds in a second. -/
def nanosPerSecond : Nat := 1000000000

/-- The number of nanoseconds in a millisecond. -/
def nanosPerMilli : Nat := 1000000

/-- A length of time in nanoseconds, shorter than `2⁶⁴` seconds. -/
structure Duration where
  nanos : Nat
  nanos_lt : nanos < UInt64.size * nanosPerSecond
deriving DecidableEq

namespace Duration

/-! ### Construction -/

/-- No time at all. -/
def zero : Duration := ⟨0, by decide⟩

/-- One nanosecond less than `2⁶⁴` seconds. -/
def longest : Duration := ⟨UInt64.size * nanosPerSecond - 1, by decide⟩

/-- The duration of `n` nanoseconds, or the longest one where `n` is out of range. -/
def clamp (n : Nat) : Duration :=
  if h : n < UInt64.size * nanosPerSecond then ⟨n, h⟩ else longest

/-- A duration of `secs` seconds and `nanos` nanoseconds, where `nanos` is less than a second. -/
def ofParts? (secs : UInt64) (nanos : Nat) : Option Duration :=
  if nanos < nanosPerSecond then some (clamp (secs.toNat * nanosPerSecond + nanos)) else none

/-- A duration of `ms` milliseconds; every such count is in range. -/
def ofMillis (ms : UInt64) : Duration :=
  ⟨ms.toNat * nanosPerMilli, by
    have := ms.toNat_lt
    simp only [nanosPerMilli, nanosPerSecond, UInt64.size]
    omega⟩

instance : Inhabited Duration := ⟨zero⟩

/-! ### Parts and arithmetic -/

/-- The whole seconds of a duration. -/
def seconds (d : Duration) : Nat := d.nanos / nanosPerSecond

/-- What a duration has beyond its whole seconds, in nanoseconds. -/
def subsecondNanos (d : Duration) : Nat := d.nanos % nanosPerSecond

/-- The whole milliseconds of a duration, capped at the largest 64-bit count. -/
def wholeMillis (d : Duration) : UInt64 := UInt64.ofNatClamp (d.nanos / nanosPerMilli)

/-- What is left of a duration once it is stored in whole milliseconds. -/
def truncated (d : Duration) : Duration := ofMillis d.wholeMillis

/-- `k` times a duration, or the longest one where the product is out of range. -/
def scale (d : Duration) (k : UInt32) : Duration := clamp (d.nanos * k.toNat)

theorem nanos_clamp (n : Nat) : (clamp n).nanos = min n longest.nanos := by
  rw [clamp]
  split
  · next fits => exact (Nat.min_eq_left (Nat.le_sub_one_of_lt fits)).symm
  · next leaves =>
    have beyond : longest.nanos ≤ n := Nat.le_trans (Nat.sub_le _ 1) (Nat.le_of_not_lt leaves)
    exact (Nat.min_eq_right beyond).symm

theorem nanos_scale (d : Duration) (k : UInt32) :
    (d.scale k).nanos = min (d.nanos * k.toNat) longest.nanos := nanos_clamp _

@[simp] theorem nanos_ofMillis (ms : UInt64) : (ofMillis ms).nanos = ms.toNat * nanosPerMilli := rfl

/-! ### Whole milliseconds -/

theorem toNat_wholeMillis (d : Duration) :
    d.wholeMillis.toNat = min (d.nanos / nanosPerMilli) (UInt64.size - 1) := by
  rw [wholeMillis, UInt64.ofNatClamp]
  split
  · next fits => rw [UInt64.toNat_ofNatLT, Nat.min_eq_left (Nat.le_sub_one_of_lt fits)]
  · next leaves =>
    have beyond : UInt64.size - 1 ≤ d.nanos / nanosPerMilli := by omega
    rw [UInt64.toNat_ofNatLT, Nat.min_eq_right beyond]

theorem wholeMillis_ofMillis (ms : UInt64) : (ofMillis ms).wholeMillis = ms := by
  have below : ms.toNat < UInt64.size := ms.toNat_lt
  have quotient : ms.toNat * nanosPerMilli / nanosPerMilli = ms.toNat :=
    Nat.mul_div_cancel _ (by decide)
  rw [← UInt64.toNat_inj, toNat_wholeMillis, nanos_ofMillis, quotient,
    Nat.min_eq_left (Nat.le_sub_one_of_lt below)]

/-- A whole number of milliseconds, of those that can be stored. -/
def IsWhole (d : Duration) : Prop :=
  nanosPerMilli ∣ d.nanos ∧ d.nanos / nanosPerMilli ≤ UInt64.size - 1

instance (d : Duration) : Decidable d.IsWhole := inferInstanceAs (Decidable (_ ∧ _))

theorem nanos_truncated (d : Duration) :
    d.truncated.nanos = min (d.nanos / nanosPerMilli) (UInt64.size - 1) * nanosPerMilli := by
  rw [truncated, nanos_ofMillis, toNat_wholeMillis]

/-- What is stored of a duration is stored again as it is. -/
theorem wholeMillis_truncated (d : Duration) : d.truncated.wholeMillis = d.wholeMillis :=
  wholeMillis_ofMillis _

theorem nanos_inj {d d' : Duration} : d.nanos = d'.nanos ↔ d = d' := by
  cases d
  cases d'
  rw [mk.injEq]

theorem truncated_eq_self_iff {d : Duration} : d.truncated = d ↔ d.IsWhole := by
  rw [← nanos_inj, nanos_truncated, IsWhole, Nat.dvd_iff_div_mul_eq]
  constructor
  · intro same
    have quotient : min (d.nanos / nanosPerMilli) (UInt64.size - 1) = d.nanos / nanosPerMilli :=
      calc min (d.nanos / nanosPerMilli) (UInt64.size - 1)
          = min (d.nanos / nanosPerMilli) (UInt64.size - 1) * nanosPerMilli / nanosPerMilli :=
            (Nat.mul_div_cancel _ (by decide)).symm
        _ = d.nanos / nanosPerMilli := by rw [same]
    exact ⟨quotient ▸ same, quotient ▸ Nat.min_le_right ..⟩
  · rintro ⟨whole, fits⟩
    rw [Nat.min_eq_left fits, whole]

/-! ### Text -/

/-- The fraction `part / whole` in decimal digits without trailing zeros, for `whole = 10 ^ width`:
a point and the digits, or nothing for zero. -/
private def fractionText (part width : Nat) : String :=
  let digits := (Nat.toDigits 10 part)
  let padded := List.replicate (width - digits.length) '0' ++ digits
  let trimmed := (padded.reverse.dropWhile (· == '0')).reverse
  if trimmed.isEmpty then "" else String.ofList ('.' :: trimmed)

/-- A duration in its largest unit of at least one, with as many decimals as it needs. -/
def text (d : Duration) : String :=
  let shown (width : Nat) (unit : String) : String :=
    let whole := Nat.pow 10 width
    toString (d.nanos / whole) ++ fractionText (d.nanos % whole) width ++ unit
  if nanosPerSecond ≤ d.nanos then shown 9 "s"
  else if nanosPerMilli ≤ d.nanos then shown 6 "ms"
  else if 1000 ≤ d.nanos then shown 3 "µs"
  else shown 0 "ns"

end Duration

end DeferredJobs
