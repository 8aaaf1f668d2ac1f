import ServiceWorker.Decimal.Digits
import ServiceWorker.Json.Basic
import ServiceWorker.Json.Fault

/-!
# Numerals

A numeral is an optional minus sign, a whole part without needless zeros, and optionally a
fraction and an exponent. One with a whole part alone is a whole number if that fits 64 bits.
Every other one is a binary64 number: its digits are gathered as long as 64 bits hold them, and
the result is multiplied or divided once by the power of ten that remains.

## Main definitions

* `Numeral`: the parts of a numeral
* `Numeral.scan`: the numeral at the front of a text
* `Numeral.value`: the number that it writes
-/

namespace ServiceWorker.Json

open Text (Symbol)
open Decimal (Binary64)

/-- The parts of a numeral, and the text behind it. -/
structure Numeral where
  negative : Bool
  whole : List Char
  fraction : Option (List Char)
  exponent : Option (Bool × List Char)
  rest : Source
  deriving Repr

/-- What a text begins with: a whole lexeme, or one cut short by a fault. The fault of a reader
that only skips the lexeme may differ. -/
inductive Lexeme (α : Type) where
  | whole (a : α)
  | cut (read skip : Fault)
  deriving Repr

namespace Numeral

/-- The digits at the front of a text, and the text behind them. -/
def digits : Source → List Char × Source
  | .char c :: rest =>
    if Decimal.isDigit c then
      let (ds, left) := digits rest
      (c :: ds, left)
    else ([], .char c :: rest)
  | text => ([], text)

/-- The exponent behind its letter. -/
def scanExponent (text : Source) : Lexeme ((Bool × List Char) × Source) :=
  let (negative, text) :=
    match text with
    | .char '+' :: rest => (false, rest)
    | .char '-' :: rest => (true, rest)
    | _ => (false, text)
  match digits text with
  | ([], []) => .cut ⟨.eofInValue, []⟩ ⟨.invalidNumber, []⟩
  | ([], left) => .cut (.behind .invalidNumber left) (.behind .invalidNumber left)
  | (ds, left) => .whole ((negative, ds), left)

/-- The numeral with what follows its whole part and its fraction. -/
def scanTail (negative : Bool) (whole : List Char) (fraction : Option (List Char))
    (text : Source) : Lexeme Numeral :=
  match text with
  | .char 'e' :: rest | .char 'E' :: rest =>
    match scanExponent rest with
    | .whole (e, left) => .whole ⟨negative, whole, fraction, some e, left⟩
    | .cut read skip => .cut read skip
  | _ => .whole ⟨negative, whole, fraction, none, text⟩

/-- The numeral with what follows its whole part. -/
def scanFraction (negative : Bool) (whole : List Char) (text : Source) : Lexeme Numeral :=
  match text with
  | .char '.' :: rest =>
    match digits rest with
    | ([], []) => .cut ⟨.eofInValue, []⟩ ⟨.invalidNumber, []⟩
    | ([], left) => .cut (.behind .invalidNumber left) (.behind .invalidNumber left)
    | (ds, left) => scanTail negative whole (some ds) left
  | _ => scanTail negative whole none text

/-- The numeral behind its sign. A zero stands alone before the point. -/
def scanUnsigned (negative : Bool) (text : Source) : Lexeme Numeral :=
  match digits text with
  | ([], []) => .cut ⟨.eofInValue, []⟩ ⟨.invalidNumber, []⟩
  | ([], _) => .cut (.behind .invalidNumber text) (.behind .invalidNumber text)
  | ('0' :: _ :: _, _) =>
    .cut (.behind .invalidNumber (text.drop 1)) (.behind .invalidNumber (text.drop 1))
  | (ds, left) => scanFraction negative ds left

/-- The numeral at the front of a text. -/
def scan (text : Source) : Lexeme Numeral :=
  match text with
  | .char '-' :: rest => scanUnsigned true rest
  | _ => scanUnsigned false text

/-! ## The number that a numeral writes -/

/-- The largest number of 64 bits. -/
def maxWord : Nat := UInt64.size - 1

/-- The digits gathered into a number of 64 bits, and how many did not fit. -/
def gatherWhole (n : Nat) : List Char → Nat × Nat
  | [] => (n, 0)
  | d :: ds =>
    let next := 10 * n + Decimal.digitValue d
    if maxWord < next then (n, (d :: ds).length) else gatherWhole next ds

/-- More digits gathered as long as they fit, and how many did. -/
def gatherFraction (n : Nat) : List Char → Nat × Nat
  | [] => (n, 0)
  | d :: ds =>
    let next := 10 * n + Decimal.digitValue d
    if maxWord < next then (n, 0)
    else
      let (m, count) := gatherFraction next ds
      (m, count + 1)

/-- The number `10 ^ k`. -/
def powerOfTen (k : Nat) : Binary64 :=
  (Binary64.ofNat? (Nat.pow 10 k)).getD (Binary64.zero false)

/-- A number times a power of ten; powers below -308 are divided out in steps of `10 ^ 308`, of
which the second already leaves zero. None stands for a number out of range. -/
def scaleByTen (x : Binary64) (power : Int) : Nat → Option Binary64
  | 0 => some (Binary64.zero false)
  | fuel + 1 =>
    if power.natAbs ≤ 308 then
      if 0 ≤ power then x.mul? (powerOfTen power.natAbs) else x.div? (powerOfTen power.natAbs)
    -- Zero stays zero, however large the power is.
    else if x.significand = 0 then some x
    else if 0 ≤ power then none
    else (x.div? (powerOfTen 308)).bind fun y => scaleByTen y (power + 308) fuel

/-- The largest exponent that is told from an endless one. -/
def maxExponent : Nat := 0x7FFFFFFF

/-- The exponent that digits write, or the digits behind the one at which it grows too large. -/
def exponentValue (n : Nat) : List Char → Except (List Char) Nat
  | [] => .ok n
  | d :: ds =>
    let next := 10 * n + Decimal.digitValue d
    if maxExponent < next then .error ds else exponentValue next ds

/-- The binary64 number with the given digits. -/
def double (numeral : Numeral) (significand : Nat) (power : Int) : Except Fault Number :=
  let scaled (power : Int) : Except Fault Number :=
    match (Binary64.ofNat? significand).bind fun x => scaleByTen x power 4 with
    | some x => .ok (.double (x.withSign numeral.negative))
    | none => .error ⟨.numberOutOfRange, numeral.rest⟩
  match numeral.exponent with
  | none => scaled power
  | some (negative, ds) =>
    match exponentValue 0 ds with
    | .ok e => scaled (if negative then power - e else power + e)
    | .error left =>
      -- Such an exponent leads beyond every number, or to zero.
      if significand ≠ 0 ∧ negative = false then
        .error ⟨.numberOutOfRange, left.map .char ++ numeral.rest⟩
      else .ok (.double (Binary64.zero numeral.negative))

/-- The whole number with the given digits, if 64 bits hold it; a negative zero is none. -/
def wholeNumber (negative : Bool) (n : Nat) : Option Int :=
  if negative then
    if n = 0 ∨ 0x8000000000000000 < n then none else some (-n)
  else some n

/-- The number that a numeral writes. -/
def value (numeral : Numeral) : Except Fault Number :=
  let (n, dropped) := gatherWhole 0 numeral.whole
  match numeral.fraction, numeral.exponent with
  | none, none =>
    -- Only a whole part that fits is exact; digits that do not fit count as powers of ten.
    match dropped, wholeNumber numeral.negative n with
    | 0, some i => .ok (.whole i)
    | _, _ => numeral.double n dropped
  | fraction, _ =>
    -- Each digit gathered behind the point lowers the power of ten by one.
    let (n, count) := gatherFraction n (fraction.getD [])
    numeral.double n (dropped - count)

end Numeral

end ServiceWorker.Json
