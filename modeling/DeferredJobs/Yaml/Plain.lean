/-!
# Plain scalars

A plain scalar is a piece of text whose type is found by its look: null, a truth value or a
number. `Plain.signed?` and `Plain.unsigned?` read integers; `Plain.looksTyped` tells which
strings must not be written plain, because they would be read as something else.

* **Integers** are decimal, or in base 16, 8 or 2 after `0x`, `0o` or `0b`.
* **Leading zeros.** Digits that start with a superfluous zero are text, though text that is
  written in quotes.
-/

namespace DeferredJobs.Yaml.Plain

/-! ### Words -/

/-- The words for null. Nothing at all also stands for it. -/
def isNullWord (s : List Char) : Bool :=
  ["null", "Null", "NULL", "~"].any (·.toList == s)

/-- The truth value that a word stands for. -/
def bool? (s : List Char) : Option Bool :=
  if ["true", "True", "TRUE"].any (·.toList == s) then some true
  else if ["false", "False", "FALSE"].any (·.toList == s) then some false
  else none

/-! ### Integers -/

/-- The value of a digit in some base of at most 16. -/
def digit? (base : Nat) (c : Char) : Option Nat :=
  let v :=
    if '0' ≤ c ∧ c ≤ '9' then c.toNat - '0'.toNat
    else if 'a' ≤ c ∧ c ≤ 'f' then c.toNat - 'a'.toNat + 10
    else if 'A' ≤ c ∧ c ≤ 'F' then c.toNat - 'A'.toNat + 10
    else 16
  if v < base then some v else none

/-- The number that digits stand for; there is at least one. -/
def natural? (base : Nat) (ds : List Char) : Option Nat :=
  if ds.isEmpty then none
  else ds.foldl (fun n c => do return (← n) * base + (← digit? base c)) (some 0)

def isDecimalDigit (c : Char) : Bool := '0' ≤ c && c ≤ '9'

/-- Digits with a superfluous zero in front, after a sign or not. -/
def hasLeadingZero (s : List Char) : Bool :=
  let s := match s with
    | '-' :: ds | '+' :: ds => ds
    | ds => ds
  match s with
  | '0' :: ds => !ds.isEmpty && ds.all isDecimalDigit
  | _ => false

/-- The number after a base mark. -/
def marked? : List Char → Option Nat
  | '0' :: 'x' :: ds => natural? 16 ds
  | '0' :: 'o' :: ds => natural? 8 ds
  | '0' :: 'b' :: ds => natural? 2 ds
  | _ => none

/-- The number that an unsigned integer stands for. A plus sign may precede it. -/
def unsigned? (s : List Char) : Option Nat :=
  let bare := match s with
    | '+' :: ds => ds
    | ds => ds
  (marked? bare).or (if hasLeadingZero s then none else natural? 10 bare)

/-- The number that an integer with a minus sign stands for. -/
def negative? (s : List Char) : Option Int :=
  match s with
  | '-' :: ds =>
    ((marked? ds).or (if hasLeadingZero s then none else natural? 10 ds)).map fun n => -(n : Int)
  | _ => none

/-- The number that an integer stands for. -/
def signed? (s : List Char) : Option Int :=
  ((unsigned? s).map Int.ofNat).or (negative? s)

/-! ### Fractions -/

/-- A decimal number in scientific form, `digits · 10 ^ exponent`. -/
structure Scientific where
  digits : Nat
  exponent : Int

/-- An exponent after its letter; the letter may be missing, the digits after it not. -/
def exponent? : List Char → Option Int
  | [] => some 0
  | e :: s =>
    if e = 'e' ∨ e = 'E' then
      match s with
      | '-' :: ds => (natural? 10 ds).map fun n => -(n : Int)
      | '+' :: ds => (natural? 10 ds).map Int.ofNat
      | ds => (natural? 10 ds).map Int.ofNat
    else none

/-- A decimal number without a sign: digits with at most one point among them, and an exponent or
none. There is at least one digit. -/
def scientific? (s : List Char) : Option Scientific := do
  let whole := s.takeWhile isDecimalDigit
  let rest := s.dropWhile isDecimalDigit
  let (part, rest) := match rest with
    | '.' :: r => (r.takeWhile isDecimalDigit, r.dropWhile isDecimalDigit)
    | r => ([], r)
  let digits ← natural? 10 (whole ++ part)
  return { digits, exponent := (← exponent? rest) - part.length }

/-- Whether the nearest double is finite. The least magnitude that is not lies halfway between the
largest double and the next power of two; numbers of clearly different size are told by the number
of their digits. -/
def Scientific.isFinite (x : Scientific) : Bool :=
  if x.digits = 0 then true
  else
    let size : Int := (Nat.toDigits 10 x.digits).length + x.exponent
    if 310 < size then false
    else if size < 300 then true
    else
      let limit := 1 <<< 1024 - 1 <<< 970
      if 0 ≤ x.exponent then x.digits * Nat.pow 10 x.exponent.toNat < limit
      else x.digits < limit * Nat.pow 10 (-x.exponent).toNat

/-- Whether the text is a number with a fraction or an exponent, or too long for an integer, or
one of the words for infinity and for no number. -/
def isFraction (s : List Char) : Bool :=
  let infinite := [".inf", ".Inf", ".INF"].any fun w =>
    w.toList == s || '+' :: w.toList == s || '-' :: w.toList == s
  let undefined := [".nan", ".NaN", ".NAN"].any (·.toList == s)
  let bare := match s with
    | '+' :: ds | '-' :: ds => ds
    | ds => ds
  infinite || undefined || (scientific? bare).any (·.isFinite)

/-! ### Strings that look like something else -/

/-- Whether the text is an integer of at most 128 bits. -/
def isWideInteger (s : List Char) : Bool :=
  (unsigned? s).any (· < 1 <<< 128) || (negative? s).any (-((1 <<< 127 : Nat) : Int) ≤ ·)

/-- Whether a string would be read as something else, or be taken for a number by its look. -/
def looksTyped (s : List Char) : Bool :=
  s.isEmpty || isNullWord s || (bool? s).isSome || isWideInteger s || hasLeadingZero s
    || isFraction s

end DeferredJobs.Yaml.Plain
