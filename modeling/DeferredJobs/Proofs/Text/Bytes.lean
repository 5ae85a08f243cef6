import Mathlib.Data.List.Basic
import Mathlib.Tactic.Common

/-!
# Strings in order of their bytes

Strings are compared character by character, by code points. This is the order of their bytes in
UTF-8 as well: of two characters, the one with the smaller code point has the smaller bytes, and no
character's bytes start with those of another (`utf8EncodeChar_append_lt`). So strings compare as
their bytes do (`utf8Bytes_lt_iff`).
-/

namespace DeferredJobs

/-- The bytes of a string in UTF-8. -/
def utf8Bytes (s : String) : List UInt8 := s.toUTF8.data.toList

theorem utf8Bytes_eq (s : String) : utf8Bytes s = s.toList.flatMap String.utf8EncodeChar := by
  have bytes : s.toUTF8 = s.toList.utf8Encode := String.utf8Encode_toList.symm
  rw [utf8Bytes, bytes, List.utf8Encode, List.data_toByteArray]

section Bytes

variable {m n : Nat}

private theorem ofNat_lt_ofNat_iff (hm : m < 256) (hn : n < 256) :
    UInt8.ofNat m < UInt8.ofNat n ↔ m < n := by
  rw [UInt8.lt_iff_toNat_lt, UInt8.toNat_ofNat_of_lt' hm, UInt8.toNat_ofNat_of_lt' hn]

private theorem ofNat_eq_ofNat_iff (hm : m < 256) (hn : n < 256) :
    UInt8.ofNat m = UInt8.ofNat n ↔ m = n := by
  rw [← UInt8.toNat_inj, UInt8.toNat_ofNat_of_lt' hm, UInt8.toNat_ofNat_of_lt' hn]

end Bytes

/-- The bytes of a smaller character are smaller, whatever follows. -/
theorem utf8EncodeChar_append_lt {c d : Char} (h : c < d) (as bs : List UInt8) :
    String.utf8EncodeChar c ++ as < String.utf8EncodeChar d ++ bs := by
  have less : c.val.toNat < d.val.toNat := h
  have bound : d.val.toNat < 0x110000 := by
    obtain below | ⟨-, below⟩ := d.valid <;> omega
  -- the bytes hold six bits of the code point each, and the first of four bytes what is left
  have digits {k : Nat} (hk : k < 0x110000) :
      k / 64 / 64 = k / 4096 ∧ k / 4096 / 64 = k / 262144 ∧ k / 262144 % 8 = k / 262144 := by
    omega
  have digits_c := digits (Nat.lt_trans less bound)
  have digits_d := digits bound
  -- the cases are the numbers of bytes, and the first byte decides where these differ
  simp only [String.utf8EncodeChar]
  split_ifs <;>
    simp (disch := omega) only [List.cons_append, List.nil_append, List.cons_lt_cons_iff,
      ofNat_lt_ofNat_iff, ofNat_eq_ofNat_iff] <;>
    omega

theorem flatMap_utf8EncodeChar_lt {cs ds : List Char} (h : cs < ds) :
    cs.flatMap String.utf8EncodeChar < ds.flatMap String.utf8EncodeChar := by
  induction h with
  | @nil d ds =>
    obtain ⟨b, bs, bytes⟩ := List.exists_cons_of_ne_nil (String.utf8EncodeChar_ne_nil (c := d))
    rw [List.flatMap_nil, List.flatMap_cons, bytes]
    exact List.nil_lt_cons ..
  | rel h => exact utf8EncodeChar_append_lt h _ _
  | cons _ ih =>
    rw [List.flatMap_cons, List.flatMap_cons]
    exact List.append_left_lt ih

/-- **Strings compare as their bytes do.** -/
theorem utf8Bytes_lt_iff {s t : String} : utf8Bytes s < utf8Bytes t ↔ s < t := by
  have mono {s t : String} (h : s < t) : utf8Bytes s < utf8Bytes t := by
    rw [utf8Bytes_eq, utf8Bytes_eq]
    exact flatMap_utf8EncodeChar_lt h
  refine ⟨fun h => ?_, mono⟩
  by_contra not_lt
  obtain lt | rfl := Std.le_iff_lt_or_eq.mp (String.not_lt.mp not_lt)
  · exact List.lt_asymm h (mono lt)
  · exact List.lt_irrefl _ h

theorem utf8Bytes_le_iff {s t : String} : utf8Bytes s ≤ utf8Bytes t ↔ s ≤ t := by
  rw [← List.not_lt, utf8Bytes_lt_iff, String.not_lt]

end DeferredJobs
