import ServiceWorker.Text.Symbol

/-!
# Hexadecimal text

Two lower-case digits a byte, high half first.

## Main definitions

* `digit`, `value?`: a digit, and its value in either case
* `encode`, `decode?`: bytes to digits and back
-/

namespace ServiceWorker.Text.Hex

/-- The lower-case digit of a number below sixteen. -/
def digit (n : Nat) : Char :=
  if n < 10 then Char.ofNat (48 + n) else Char.ofNat (87 + n)

/-- The upper-case digit of a number below sixteen. -/
def upperDigit (n : Nat) : Char :=
  if n < 10 then Char.ofNat (48 + n) else Char.ofNat (55 + n)

/-- The value of a digit of either case. -/
def value? (c : Char) : Option Nat :=
  let n := c.toNat
  if 48 ≤ n ∧ n ≤ 57 then some (n - 48)
  else if 97 ≤ n ∧ n ≤ 102 then some (n - 87)
  else if 65 ≤ n ∧ n ≤ 70 then some (n - 55)
  else none

/-- The two digits of each byte in turn. -/
def encode (bytes : Bytes) : List Char :=
  bytes.flatMap fun b => [digit (b.toNat / 16), digit (b.toNat % 16)]

/-- The bytes written as pairs of digits. -/
def decode? : List Char → Option Bytes
  | [] => some []
  | h :: l :: rest => do
    let high ← value? h
    let low ← value? l
    let bytes ← decode? rest
    some (UInt8.ofNat (16 * high + low) :: bytes)
  | [_] => none

end ServiceWorker.Text.Hex
