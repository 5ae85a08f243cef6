/-!
# Rounding quotients

Quotients of natural numbers rounded to the nearest integer (`roundQuotient`) and to the nearest
binary fraction of 53 significant bits (`Quotient.toDouble`). In both a tie goes to the even
neighbour. All arithmetic is exact.
-/

namespace DeferredJobs

/-- `num / den` rounded to the nearest integer; of two nearest ones the even one. -/
def roundQuotient (num den : Nat) : Nat :=
  let whole := num / den
  let twice := 2 * (num % den)
  if twice < den then whole
  else if den < twice then whole + 1
  else whole + whole % 2

/-- A nonnegative fraction. -/
structure Quotient where
  num : Nat
  den : Nat

namespace Quotient

/-- The fraction `m · 2 ^ e`. -/
def ofScaled (m : Nat) (e : Int) : Quotient :=
  if 0 ≤ e then ⟨m <<< e.toNat, 1⟩ else ⟨m, 1 <<< (-e).toNat⟩

/-- The fraction `q / 2 ^ e`. -/
def unscaled (q : Quotient) (e : Int) : Quotient :=
  if 0 ≤ e then ⟨q.num, q.den <<< e.toNat⟩ else ⟨q.num <<< (-e).toNat, q.den⟩

/-- The fraction with 53 significant bits that lies nearest to `q`, at exponents of any size. With
`e` chosen so that `q / 2 ^ e` lies between `2 ^ 52` and `2 ^ 53`, the significand is that quotient
rounded to an integer. -/
def toDouble (q : Quotient) : Quotient :=
  if q.num = 0 then q
  else
    let low : Int := (q.num.log2 : Int) - q.den.log2 - 53
    let scaled := q.unscaled low
    let e := if scaled.num < scaled.den <<< 53 then low else low + 1
    let scaled := q.unscaled e
    ofScaled (roundQuotient scaled.num scaled.den) e

/-- The fraction `q / n`. -/
def dividedBy (q : Quotient) (n : Nat) : Quotient := ⟨q.num, q.den * n⟩

/-- The decimal text of `q` with three digits after the point. -/
def textThreePlaces (q : Quotient) : String :=
  let thousandths := roundQuotient (q.num * 1000) q.den
  let digits := (Nat.toDigits 10 (thousandths % 1000))
  toString (thousandths / 1000) ++ "."
    ++ String.ofList (List.replicate (3 - digits.length) '0' ++ digits)

end Quotient

end DeferredJobs
