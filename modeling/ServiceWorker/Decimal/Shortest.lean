import ServiceWorker.Decimal.Binary64
import ServiceWorker.Decimal.Digits

/-!
# Shortest decimal text

The fewest digits that read back as the same number, and of those the nearest to it.

## Main definitions

* `Shortest.Scientific`: digits `d.ddd` and a power of ten
* `Shortest.scientific`: the shortest digits of a positive number
* `Binary64.text`: the text of a number, positional for powers of ten from -5 to 15
-/

namespace ServiceWorker.Decimal

namespace Shortest

/-- A decimal number: its digits, a point after the first of them, and a power of ten. -/
structure Scientific where
  digits : Nat
  power : Int
  deriving DecidableEq, Repr

/-- The numbers that round to a positive number lie between two bounds around it, all three of
them written here in one unit. The bounds belong to them when the significand is even. -/
structure Interval where
  low : Nat
  middle : Nat
  high : Nat
  unit : Nat
  closed : Bool

/-- The interval of a positive number. Below a power of two the numbers lie closer together. -/
def Interval.of (x : Binary64) : Interval :=
  let m := x.significand
  -- A bound lies half a step off, or a quarter below a power of two.
  let below := if m = 1 <<< 52 ∧ Binary64.minExponent < x.exponent then 1 else 2
  let up := if x.exponent < 0 then 1 else 1 <<< x.exponent.toNat
  let down := if x.exponent < 0 then 1 <<< (-x.exponent).toNat else 1
  ⟨(4 * m - below) * up, 4 * m * up, (4 * m + 2) * up, 4 * down, m % 2 = 0⟩

/-- A decimal `n · 10 ^ p` as a fraction. -/
def decimalRatio (n : Nat) (p : Int) : Nat × Nat :=
  if p < 0 then (n, Nat.pow 10 (-p).toNat) else (n * Nat.pow 10 p.toNat, 1)

/-- Whether `n · 10 ^ p` reads back as the number of the interval. -/
def Interval.holds (i : Interval) (n : Nat) (p : Int) : Bool :=
  let (num, den) := decimalRatio n p
  let v := num * i.unit
  if i.closed then i.low * den ≤ v && v ≤ i.high * den
  else i.low * den < v && v < i.high * den

/-- The greatest multiple of `10 ^ p` that is not above the number, in that unit. -/
def Interval.floorAt (i : Interval) (p : Int) : Nat :=
  let (num, den) := decimalRatio i.middle (-p)
  num / (den * i.unit)

/-- Whether the number is nearer to `n · 10 ^ p` than to the next multiple, or as near to both
and `n` is even. -/
def Interval.nearerBelow (i : Interval) (n : Nat) (p : Int) : Bool :=
  let (num, den) := decimalRatio (2 * n + 1) p
  let point := num * i.unit
  let twice := 2 * i.middle * den
  twice < point || (twice == point && n % 2 == 0)

/-- The multiple of `10 ^ p` next to the number that reads back as it. -/
def Interval.hit? (i : Interval) (p : Int) : Option Nat :=
  let n := i.floorAt p
  match i.holds n p, i.holds (n + 1) p with
  -- Both neighbours read back: the nearer one is taken.
  | true, true => some (if i.nearerBelow n p then n else n + 1)
  | true, false => some n
  | false, true => some (n + 1)
  | false, false => none

/-- The power of ten of the first digit of a positive number. -/
def Interval.leading (i : Interval) : Int :=
  if i.unit ≤ i.middle then
    ((ofNat (i.middle / i.unit)).length : Int) - 1
  else
    Int.neg (ofNat ((i.unit - 1) / i.middle)).length

/-- Digits without the zeros at their end, each of which raises the power by one. -/
def strip : Nat → Nat → Int → Nat × Int
  | 0, n, p => (n, p)
  | fuel + 1, n, p => if n % 10 = 0 ∧ n ≠ 0 then strip fuel (n / 10) (p + 1) else (n, p)

/-- The first grid of one to seventeen digits that holds a decimal reading back as the number. -/
def search (i : Interval) (leading : Int) : Nat → Nat → Nat × Int
  -- Seventeen digits always suffice, so that this is not reached.
  | 0, _ => (i.floorAt (leading - 16), leading - 16)
  | fuel + 1, count =>
    let p := leading - (count - 1 : Nat)
    match i.hit? p with
    | some n => (n, p)
    | none => search i leading fuel (count + 1)

/-- The shortest digits of a positive number. -/
def scientific (x : Binary64) : Scientific :=
  let i := Interval.of x
  let (n, p) := search i i.leading 17 1
  let (n, p) := strip 17 n p
  ⟨n, p + ((ofNat n).length : Int) - 1⟩

end Shortest

open Shortest in
/-- The text of a positive number. It is positional for powers of ten from -5 to 15 and has an
exponent with a sign otherwise; a whole number ends in `.0` where it is positional. -/
def Binary64.positiveText (x : Binary64) : List Char :=
  let s := scientific x
  let digits := ofNat s.digits
  let p := s.power
  if -5 ≤ p ∧ p < 0 then
    ['0', '.'] ++ List.replicate (-p - 1).toNat '0' ++ digits
  else if 0 ≤ p ∧ p ≤ 15 then
    let whole := p.toNat + 1
    let padded := digits ++ List.replicate (whole - digits.length) '0'
    let fraction := padded.drop whole
    padded.take whole ++ ['.'] ++ (if fraction.isEmpty then ['0'] else fraction)
  else
    let fraction := digits.drop 1
    digits.take 1 ++ (if fraction.isEmpty then [] else '.' :: fraction) ++ ['e'] ++
      (if p < 0 then ['-'] else ['+']) ++ ofNat p.natAbs

/-- The text of a number, which begins with a minus sign also for the negative zero. -/
def Binary64.text (x : Binary64) : List Char :=
  (if x.negative then ['-'] else []) ++
    (if x.significand = 0 then ['0', '.', '0'] else x.positiveText)

end ServiceWorker.Decimal
