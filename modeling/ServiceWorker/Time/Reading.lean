import ServiceWorker.Text.Blank
import ServiceWorker.Time.Instant

/-!
# Reading instants

Two forms are read: a date, a time and an offset, as RFC 3339 has them but with blanks allowed
between the parts, and a date and a time without an offset.

## Main definitions

* `TimeError`: why a text is no instant
* `Instant.read`: the instant of a text with an offset
* `Instant.readPlain`: the instant of a text without one
-/

namespace ServiceWorker.Time

open Text (isBlank trimStart)

/-- Why a text is no instant. -/
inductive TimeError where
  | outOfRange
  | impossible
  | invalid
  | tooShort
  | tooLong
  deriving DecidableEq, Repr

/-- The wording of an error. -/
def TimeError.message : TimeError → String
  | outOfRange => "input is out of range"
  | impossible => "no possible date and time matching input"
  | invalid => "input contains invalid characters"
  | tooShort => "premature end of input"
  | tooLong => "trailing input"

/-- The largest number that is read. -/
def maxNumber : Nat := 0x7FFFFFFFFFFFFFFF

/-- A number of at most so many digits, of which there has to be one. -/
def number (most : Nat) (text : List Char) : Except TimeError (Nat × List Char) :=
  match text with
  | [] => .error .tooShort
  | _ =>
    match (text.take most).takeWhile Decimal.isDigit with
    | [] => .error .invalid
    | digits =>
      let n := Decimal.value digits
      if maxNumber < n then .error .outOfRange else .ok (n, text.drop digits.length)

/-- A number between bounds, behind blanks. -/
def field (low high : Nat) (text : List Char) : Except TimeError (Nat × List Char) := do
  let (n, rest) ← number 2 (trimStart text)
  if low ≤ n ∧ n ≤ high then .ok (n, rest) else .error .outOfRange

/-- A year of at most four digits, or of any number of digits behind a sign. -/
def year (text : List Char) : Except TimeError (Int × List Char) := do
  let (n, rest) ←
    match trimStart text with
    | '-' :: rest => (number rest.length rest).map fun p => (-(p.1 : Int), p.2)
    | '+' :: rest => (number rest.length rest).map fun p => ((p.1 : Int), p.2)
    | text => (number 4 text).map fun p => ((p.1 : Int), p.2)
  if -0x80000000 ≤ n ∧ n < 0x80000000 then .ok (n, rest) else .error .outOfRange

/-- The text behind a given character. -/
def literal (c : Char) (text : List Char) : Except TimeError (List Char) :=
  match text with
  | [] => .error .tooShort
  | d :: rest => if d = c then .ok rest else .error .invalid

/-- The nanoseconds behind a point; digits after the ninth are dropped. -/
def fraction (text : List Char) : Except TimeError (Nat × List Char) :=
  match text with
  | '.' :: rest => do
    let (n, left) ← number 9 rest
    let count := rest.length - left.length
    .ok (n * Nat.pow 10 (9 - count), left.dropWhile Decimal.isDigit)
  | text => .ok (0, text)

/-- Two digits, which give a number of at most 99. -/
def twoDigits (text : List Char) : Except TimeError ((Char × Char) × List Char) :=
  match text with
  | a :: b :: rest => .ok ((a, b), rest)
  | _ => .error .tooShort

/-- The hours and minutes of an offset, in seconds. -/
def offsetSize (text : List Char) : Except TimeError (Nat × List Char) := do
  let ((a, b), rest) ← twoDigits text
  if !(Decimal.isDigit a && Decimal.isDigit b) then .error .invalid
  else do
    let ((m, n), rest) ← twoDigits (rest.dropWhile fun c => c == ':' || isBlank c)
    if !(Decimal.isDigit m && Decimal.isDigit n) then .error .invalid
    else if '5' < m then .error .outOfRange
    else .ok (Decimal.value [a, b] * 3600 + Decimal.value [m, n] * 60, rest)

/-- An offset from Coordinated Universal Time, in seconds. -/
def offset (text : List Char) : Except TimeError (Int × List Char) :=
  match text with
  | 'Z' :: rest | 'z' :: rest => .ok (0, rest)
  | '+' :: rest => (offsetSize rest).map fun p => ((p.1 : Int), p.2)
  | '-' :: rest | '\u2212' :: rest => (offsetSize rest).map fun p => (-(p.1 : Int), p.2)
  | [] => .error .tooShort
  | _ => .error .invalid

/-- An offset, or the letters `UTC` in either case. -/
def zone (text : List Char) : Except TimeError (Int × List Char) :=
  match text with
  | a :: b :: c :: rest =>
    if [a.toUpper, b.toUpper, c.toUpper] = ['U', 'T', 'C'] then .ok (0, rest) else offset text
  | text => offset text

/-- A date, with blanks before the hyphens if they are allowed. -/
def date (blanks : Bool) (text : List Char) : Except TimeError (Date × List Char) := do
  let trim := if blanks then trimStart else id
  let (y, text) ← year text
  let text ← literal '-' (trim text)
  let (m, text) ← field 1 12 text
  let text ← literal '-' (trim text)
  let (d, text) ← field 1 31 text
  .ok (⟨y, m, d⟩, text)

/-- A time to the second, with blanks before the colons if they are allowed. -/
def clock (blanks : Bool) (text : List Char) : Except TimeError (Clock × List Char) := do
  let trim := if blanks then trimStart else id
  let (h, text) ← field 0 23 text
  let text ← literal ':' (trim text)
  let (m, text) ← field 0 59 text
  let text ← literal ':' (trim text)
  let (s, text) ← field 0 60 text
  .ok (⟨h, m, s, 0⟩, text)

/-- The instant of the parts of a text. -/
def assemble (date : Date) (clock : Clock) (offset : Int) : Except TimeError Instant :=
  if !date.valid then .error .outOfRange
  else if 86400 ≤ offset.natAbs then .error .outOfRange
  else
    match Instant.of? date clock offset with
    | some t => .ok t
    | none => .error .impossible

/-- The instant of a text with an offset. -/
def Instant.read (s : String) : Except TimeError Instant := do
  let (d, text) ← date true s.toList
  let text ←
    match text with
    | 't' :: rest | 'T' :: rest | ' ' :: rest => .ok rest
    | [] => .error .tooShort
    | _ => .error .invalid
  let (c, text) ← clock true text
  let (n, text) ← fraction text
  let (o, text) ← zone (trimStart text)
  if !(trimStart text).isEmpty then .error .tooLong
  else assemble d { c with nanoseconds := n } o

/-- The instant of a text without an offset, in Coordinated Universal Time. -/
def Instant.readPlain (s : String) : Except TimeError Instant := do
  let (d, text) ← date false s.toList
  let (c, text) ← clock false (trimStart text)
  if !text.isEmpty then .error .tooLong else assemble d c 0

end ServiceWorker.Time
