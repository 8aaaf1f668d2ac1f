/-!
# Labels in ASCII

A label with other characters is written in ASCII: its ASCII characters first, then where the others
stand, in the order of their code points. Each place is counted from the one before, and written
with as few digits as the places so far make likely.

## Main definitions

* `Punycode.encode`: a label written in ASCII
* `Punycode.decode?`: the label that ASCII characters write
-/

namespace ServiceWorker.Url.Domain.Punycode

/-- The digit for a number below thirty-six: a letter, then a decimal digit. -/
def digit (n : Nat) : Char :=
  if n < 26 then Char.ofNat (97 + n) else Char.ofNat (22 + n)

/-- The number of a digit, its letter in either case. -/
def value? (c : Char) : Option Nat :=
  let n := c.toNat
  if 97 ≤ n ∧ n ≤ 122 then some (n - 97)
  else if 65 ≤ n ∧ n ≤ 90 then some (n - 65)
  else if 48 ≤ n ∧ n ≤ 57 then some (n - 22)
  else none

/-- The bound below which a digit at a position is the last one of its number. -/
def threshold (bias position : Nat) : Nat :=
  max 1 (min 26 (position - bias))

theorem threshold_pos (bias position : Nat) : 0 < threshold bias position := by
  unfold threshold; omega

/-- How far a distance goes before it is small, in positions, and what is left of it. -/
def shrink (distance : Nat) : Nat × Nat :=
  if _h : 455 < distance then
    let (positions, left) := shrink (distance / 35)
    (positions + 36, left)
  else (0, distance)
termination_by distance
decreasing_by exact Nat.div_lt_self (by omega) (by omega)

/-- The bias after a distance, `count` being the characters placed so far. -/
def adapt (distance count : Nat) (isFirst : Bool) : Nat :=
  let scaled := if isFirst then distance / 700 else distance / 2
  let (positions, left) := shrink (scaled + scaled / count)
  positions + 36 * left / (left + 38)

/-! ## Writing -/

/-- The digits of a distance, from a position on. -/
def digits (bias position distance : Nat) : List Char :=
  let t := threshold bias position
  if _h : distance < t then [digit distance]
  else
    digit (t + (distance - t) % (36 - t)) :: digits bias (position + 36) ((distance - t) / (36 - t))
termination_by distance
decreasing_by
  have := threshold_pos bias position
  exact Nat.lt_of_le_of_lt (Nat.div_le_self _ _) (by omega)

/-- What has been written so far: the characters placed, the distance since the last one, and the
bias. -/
structure Writing where
  placed : Nat
  distance : Nat
  bias : Nat
  isFirst : Bool
  text : List Char
  deriving Inhabited

/-- Passes a character of the label while those with code point `n` are being placed. -/
def Writing.pass (n : Nat) (w : Writing) (c : Char) : Writing :=
  if c.toNat < n then { w with distance := w.distance + 1 }
  else if c.toNat = n then
    { placed := w.placed + 1
      distance := 0
      bias := adapt w.distance (w.placed + 1) w.isFirst
      isFirst := false
      text := w.text ++ digits w.bias 36 w.distance }
  else w

/-- Places the characters with the code points of a list in increasing order, `low` being the least
code point that can still be placed. -/
def Writing.place (label : List Char) (w : Writing) (low : Nat) : List Nat → Writing
  | [] => w
  | n :: rest =>
    -- Every step up in code points passes all places once.
    let start := { w with distance := w.distance + (n - low) * (w.placed + 1) }
    let after := label.foldl (Writing.pass n) start
    Writing.place label { after with distance := after.distance + 1 } (n + 1) rest

/-- Whether a character is an ASCII character. -/
def isAscii (c : Char) : Bool := c.toNat < 128

/-- A label written in ASCII. -/
def encode (label : List Char) : List Char :=
  let basic := label.filter isAscii
  let others := ((label.filter fun c => !isAscii c).map Char.toNat).mergeSort.eraseDups
  let start : Writing := ⟨basic.length, 0, 72, true, []⟩
  let front := if basic.isEmpty then [] else basic ++ ['-']
  front ++ (Writing.place label start 128 others).text

/-! ## Reading -/

/-- What has been read so far: the characters placed, the last place and code point, the bias, and
the number that is being read: its value, the weight of its next digit and the position of that. -/
structure Reading where
  label : List Char
  place : Nat
  code : Nat
  bias : Nat
  number : Nat
  weight : Nat
  position : Nat
  deriving Inhabited

/-- Ends a number, and puts the character that it stands for into its place. -/
def Reading.finish (r : Reading) : Option Reading :=
  let count := r.label.length + 1
  -- One number tells the place and how often all places have been passed.
  let code := r.code + r.number / count
  let place := r.number % count
  if code ≤ 0x10FFFF ∧ ¬(0xD800 ≤ code ∧ code ≤ 0xDFFF) then
    some { label := r.label.take place ++ Char.ofNat code :: r.label.drop place
           place := place + 1
           code
           bias := adapt (r.number - r.place) count (r.place = 0)
           number := place + 1
           weight := 1
           position := 36 }
  else none

/-- Reads one digit. -/
def Reading.step (r : Reading) (c : Char) : Option Reading := do
  let d ← value? c
  let t := threshold r.bias r.position
  let read := { r with number := r.number + d * r.weight }
  if d < t then read.finish
  else some { read with weight := r.weight * (36 - t), position := r.position + 36 }

/-- The ASCII characters at the front, and the digits. They are parted by the last hyphen, unless
it is the first character. -/
def split (text : List Char) : List Char × List Char :=
  let digits := (text.reverse.takeWhile (· ≠ '-')).reverse
  let front := text.take (text.length - digits.length - 1)
  if front.isEmpty then ([], text) else (front, digits)

/-- The label that ASCII characters write. -/
def decode? (text : List Char) : Option (List Char) := do
  let (basic, digits) := split text
  let r ← digits.foldlM Reading.step ⟨basic, 0, 128, 72, 0, 1, 36⟩
  if r.position = 36 then some r.label else none

end ServiceWorker.Url.Domain.Punycode
