import ServiceWorker.Decimal.Digits
import ServiceWorker.Text.Hex

/-!
# Network addresses

## Main definitions

* `Inet4.read?`, `Inet4.text`: four bytes, written as one to four numbers in one of three bases
* `Inet6.read?`, `Inet6.text`: eight groups, a run of zeros left out
-/

namespace ServiceWorker.Url

/-! ## Four bytes -/

/-- An address of four bytes, as a number. -/
structure Inet4 where
  value : UInt32
  deriving DecidableEq, Repr, Inhabited

namespace Inet4

/-- The parts of a text between points. -/
def parts (cs : List Char) : List (List Char) :=
  cs.splitOn '.'

/-- The parts of a name, an empty last one left out unless it is the only one. -/
def namedParts (cs : List Char) : List (List Char) :=
  match (parts cs).reverse with
  | [] :: rest => rest.reverse
  | all => all.reverse

/-- The number that digits of a base write. -/
def inBase (base : Nat) (digits : List Char) : Option Nat :=
  digits.foldlM (fun n c => do
    let d ← Text.Hex.value? c
    if d < base then some (base * n + d) else none) 0

/-- The number that a part writes: hexadecimal behind `0x`, octal behind another zero. -/
def number? : List Char → Option Nat
  | [] => none
  | '0' :: 'x' :: digits => inBase 16 digits
  | '0' :: 'X' :: digits => inBase 16 digits
  | '0' :: d :: digits => inBase 8 (d :: digits)
  | digits => inBase 10 digits

/-- Whether a name must be an address because it ends in a number. -/
def endsInNumber (name : List Char) : Bool :=
  match (namedParts name).getLast? with
  | some [] | none => false
  | some last => last.all Decimal.isDigit || (number? last).isSome

/-- The address whose last bytes a number gives, and whose first ones are given. -/
def combine (front : List Nat) (last : Nat) : Option Inet4 :=
  if front.length ≤ 3 ∧ front.all (· < 256) ∧ last < 1 <<< (8 * (4 - front.length)) then
    let high := front.foldl (fun n b => 256 * n + b) 0
    some ⟨UInt32.ofNat (high <<< (8 * (4 - front.length)) + last)⟩
  else none

/-- The address that a name writes. -/
def read? (name : List Char) : Option Inet4 := do
  let numbers ← (namedParts name).mapM number?
  match numbers.reverse with
  | [] => none
  | last :: front => combine front.reverse last

/-- The four bytes in decimal, with points between them. -/
def text (a : Inet4) : List Char :=
  let n := a.value.toNat
  ['.'].intercalate
    ([n >>> 24, n >>> 16 % 256, n >>> 8 % 256, n % 256].map Decimal.ofNat)

end Inet4

/-! ## Eight groups -/

/-- An address of eight groups of sixteen bits. -/
structure Inet6 where
  groups : List UInt16
  deriving DecidableEq, Repr, Inhabited

namespace Inet6

/-- Groups read so far: those before the gap, and those after it if there is one. -/
structure Groups where
  front : List UInt16
  back : Option (List UInt16)
  deriving Inhabited

/-- One more group. -/
def Groups.push (g : Groups) (n : Nat) : Groups :=
  match g.back with
  | none => { g with front := g.front ++ [UInt16.ofNat n] }
  | some back => { g with back := some (back ++ [UInt16.ofNat n]) }

/-- A number below 256 at the front, without a zero before other digits, and what follows it. -/
def byte (cs : List Char) : Option (Nat × List Char) :=
  let digits := cs.takeWhile Decimal.isDigit
  let rest := cs.dropWhile Decimal.isDigit
  if digits.isEmpty ∨ (digits.head? = some '0' ∧ digits.length ≠ 1) then none
  else if Decimal.value digits < 256 then some (Decimal.value digits, rest)
  else none

/-- A number below 256 behind a point. -/
def nextByte : List Char → Option (Nat × List Char)
  | '.' :: rest => byte rest
  | _ => none

/-- The two groups that four bytes in decimal make up, with points between them. -/
def dotted (cs : List Char) : Option (Nat × Nat) := do
  let (a, cs) ← byte cs
  let (b, cs) ← nextByte cs
  let (c, cs) ← nextByte cs
  let (d, cs) ← nextByte cs
  if cs.isEmpty then some (256 * a + b, 256 * c + d) else none

/-- Reads groups, with room for so many more of them or of gaps. -/
def readGroups (room : Nat) (g : Groups) (cs : List Char) : Option Groups :=
  match room, cs with
  | _, [] => some g
  | 0, _ :: _ => none
  | room + 1, ':' :: rest =>
    if g.back.isSome then none else readGroups room { g with back := some [] } rest
  | room + 1, c :: cs =>
    let digits := ((c :: cs).take 4).takeWhile fun c => (Text.Hex.value? c).isSome
    match Inet4.inBase 16 digits, (c :: cs).drop digits.length with
    | some n, [] => some (g.push n)
    | some n, ':' :: d :: rest => readGroups room (g.push n) (d :: rest)
    | some _, '.' :: _ =>
      if digits.isEmpty ∨ room = 0 then none
      else (dotted (c :: cs)).map fun (m, n) => (g.push m).push n
    | _, _ => none

/-- The address with groups of zeros in the gap. A gap stands for one group at least. -/
def ofGroups (g : Groups) : Option Inet6 :=
  match g.back with
  | none => if g.front.length = 8 then some ⟨g.front⟩ else none
  | some back =>
    some ⟨g.front ++ List.replicate (8 - g.front.length - back.length) 0 ++ back⟩

/-- The address that a text writes. -/
def read? (cs : List Char) : Option Inet6 :=
  match cs with
  | ':' :: ':' :: rest => (readGroups 7 ⟨[], some []⟩ rest).bind ofGroups
  | ':' :: _ => none
  | cs => if cs.length < 2 then none else (readGroups 8 ⟨[], none⟩ cs).bind ofGroups

/-- A group in hexadecimal, without zeros before it. -/
def groupText (n : UInt16) : List Char :=
  Nat.toDigits 16 n.toNat

/-- The number of zeros at the front. -/
def zerosAt (groups : List UInt16) : Nat :=
  (groups.takeWhile (· = 0)).length

/-- The first of the longest runs of zeros: where it begins, and its length. -/
def longestRun (groups : List UInt16) : Nat × Nat :=
  (List.range groups.length).foldl (fun best i =>
    let n := zerosAt (groups.drop i)
    if best.2 < n then (i, n) else best) (0, 0)

/-- The groups in hexadecimal with colons between them; two colons stand for the first of the
longest runs of zeros, if it has more than one. -/
def text (a : Inet6) : List Char :=
  let (start, length) := longestRun a.groups
  let join (groups : List UInt16) := [':'].intercalate (groups.map groupText)
  if length < 2 then join a.groups
  else join (a.groups.take start) ++ [':', ':'] ++ join (a.groups.drop (start + length))

end Inet6

end ServiceWorker.Url
