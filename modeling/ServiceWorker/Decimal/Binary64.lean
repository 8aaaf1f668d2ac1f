/-!
# Finite binary64 numbers

A finite number of the binary64 format is `± m · 2 ^ e`. Arithmetic is done exactly and rounded
once, to the nearest number of the format, a tie to the even significand.

## Main definitions

* `Binary64`: sign, significand and exponent of a finite number
* `Binary64.ofRatio?`: the number nearest to a quotient, `none` above the largest one
* `Binary64.ofNat?`, `Binary64.mul?`, `Binary64.div?`
* `Binary64.truncate`: the whole number next to it towards zero
-/

namespace ServiceWorker.Decimal

/-- A finite binary64 number, `± significand · 2 ^ exponent`. -/
structure Binary64 where
  negative : Bool
  significand : Nat
  exponent : Int
  deriving DecidableEq, Repr, Inhabited

namespace Binary64

/-- The exponent of the smallest numbers. -/
def minExponent : Int := -1074

/-- The exponent of the largest numbers. -/
def maxExponent : Int := 971

/-- The significands of numbers that are not too small have 53 bits. -/
def bits : Nat := 53

/-- Zero, which has a sign of its own. -/
def zero (negative : Bool) : Binary64 := ⟨negative, 0, minExponent⟩

/-- The quotient rounded to the nearest whole number, a tie to the even one. -/
def roundQuotient (num den : Nat) : Nat :=
  let q := num / den
  let r := num % den
  if 2 * r < den then q
  else if den < 2 * r then q + 1
  else if q % 2 = 0 then q else q + 1

/-- The quotient `num / den` measured in units of `2 ^ e`, as a fraction. -/
def scaled (num den : Nat) (e : Int) : Nat × Nat :=
  if e < 0 then (num <<< (-e).toNat, den) else (num, den <<< e.toNat)

/-- The exponent at which a positive quotient has 53 bits before the point, or the smallest. -/
def fittingExponent (num den : Nat) : Int :=
  let guess := (num.log2 : Int) - (den.log2 : Int) - 52
  let (n, d) := scaled num den guess
  -- The logarithms are rounded down, so that the guess is at most one too large.
  let e := if n / d < 1 <<< 52 then guess - 1 else guess
  max e minExponent

/-- The number nearest to `num / den`; none when that lies beyond the largest number. -/
def ofRatio? (negative : Bool) (num den : Nat) : Option Binary64 :=
  if num = 0 then some (zero negative)
  else
    let e := fittingExponent num den
    let (n, d) := scaled num den e
    let m := roundQuotient n d
    -- Rounding up may lead to the next power of two.
    let (m, e) := if m = 1 <<< bits then (1 <<< (bits - 1), e + 1) else (m, e)
    if maxExponent < e then none
    else if m = 0 then some (zero negative)
    else some ⟨negative, m, e⟩

/-- The number nearest to a natural number. -/
def ofNat? (n : Nat) : Option Binary64 :=
  ofRatio? false n 1

/-- The size of a number as a fraction. -/
def ratio (x : Binary64) : Nat × Nat :=
  if x.exponent < 0 then (x.significand, 1 <<< (-x.exponent).toNat)
  else (x.significand <<< x.exponent.toNat, 1)

/-- The rounded product. -/
def mul? (x y : Binary64) : Option Binary64 :=
  ofRatio? (x.negative != y.negative) (x.ratio.1 * y.ratio.1) (x.ratio.2 * y.ratio.2)

/-- The rounded quotient by a number other than zero. -/
def div? (x y : Binary64) : Option Binary64 :=
  ofRatio? (x.negative != y.negative) (x.ratio.1 * y.ratio.2) (x.ratio.2 * y.ratio.1)

/-- The same number with the given sign. -/
def withSign (x : Binary64) (negative : Bool) : Binary64 :=
  { x with negative }

/-- The whole number next to it towards zero. -/
def truncate (x : Binary64) : Int :=
  let size : Int := x.ratio.1 / x.ratio.2
  if x.negative then -size else size

end Binary64

end ServiceWorker.Decimal
