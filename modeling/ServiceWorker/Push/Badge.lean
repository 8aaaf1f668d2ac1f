import ServiceWorker.Json.Basic
import ServiceWorker.Decimal.Digits
import ServiceWorker.Text.Blank

/-!
# Badge counts

A badge is sent as a number or as text that begins with one. Counts keep to 64 bits with a sign;
larger ones become the largest.

## Main definitions

* `Badge.ofWhole?`: the count that a whole number stands for
* `Badge.ofText?`: the count at the front of a text
* `Badge.count?`: the count that a value stands for
-/

namespace ServiceWorker.Push.Badge

open Decimal (Binary64)

/-- The largest count. -/
def most : Int := 0x7FFFFFFFFFFFFFFF

/-- The smallest count. -/
def least : Int := -0x8000000000000000

/-- The nearest count. -/
def clamp (n : Int) : Int :=
  max least (min most n)

/-- The count that a whole number stands for. One that is no count itself is taken for the binary64
number next to it. -/
def ofWhole? (n : Int) : Option Int :=
  if least ≤ n ∧ n ≤ most then some n
  else (Binary64.ofNat? n.natAbs).map fun x => clamp (x.withSign (n < 0)).truncate

/-- A sign at the front of a text, and what follows it. -/
def sign : List Char → Bool × List Char
  | '-' :: rest => (true, rest)
  | '+' :: rest => (false, rest)
  | text => (false, text)

/-- A number with one digit more, if it is no larger than the largest count. -/
def append? (n : Nat) (c : Char) : Option Nat :=
  let next := 10 * n + Decimal.digitValue c
  if most < next then none else some next

/-- The number that digits write, if it is no larger than the largest count. -/
def size? (digits : List Char) : Option Nat :=
  digits.foldlM append? 0

/-- The count at the front of a text: blanks, one sign, and as many digits as there are. -/
def ofText? (text : List Char) : Option Int :=
  let (negative, rest) := sign (Text.trimStart text)
  match rest.takeWhile Decimal.isDigit with
  | [] => none
  | digits =>
    let size : Int := ((size? digits).map Int.ofNat).getD most
    some (if negative then -size else size)

/-- The count that a value stands for. -/
def count? : Json → Option Int
  | .number (.whole n) => ofWhole? n
  | .number (.double x) => some (clamp x.truncate)
  | .string s => ofText? s.toList
  | _ => none

end ServiceWorker.Push.Badge
