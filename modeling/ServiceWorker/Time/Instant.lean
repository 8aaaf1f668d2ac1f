import ServiceWorker.Decimal.Digits

/-!
# Instants

An instant is a second of Coordinated Universal Time and the nanoseconds behind it; in a leap
second they exceed a thousand millions. Days are counted in the Gregorian calendar, extended to
all years.

## Main definitions

* `Date`, `Date.toDays`, `Date.ofDays`: dates, and their number counted from 1970-01-01
* `Instant`, `Instant.of?`: instants, and the one of a local date and time
* `Instant.rfc3339`: the text of an instant
-/

namespace ServiceWorker.Time

/-- A date of the Gregorian calendar. -/
structure Date where
  year : Int
  month : Nat
  day : Nat
  deriving DecidableEq, Repr

/-- Whether a year has a 29th of February. -/
def isLeap (year : Int) : Bool :=
  (year % 4 == 0 && year % 100 != 0) || year % 400 == 0

/-- The number of days of a month. -/
def daysInMonth (year : Int) (month : Nat) : Nat :=
  if month = 2 then (if isLeap year then 29 else 28)
  else if month = 4 ∨ month = 6 ∨ month = 9 ∨ month = 11 then 30
  else 31

namespace Date

/-- The first year that dates have. -/
def firstYear : Int := -262143

/-- The last year that dates have. -/
def lastYear : Int := 262142

/-- Whether there is such a date. -/
def valid (d : Date) : Bool :=
  firstYear ≤ d.year && d.year ≤ lastYear && 1 ≤ d.month && d.month ≤ 12 && 1 ≤ d.day &&
    d.day ≤ daysInMonth d.year d.month

/-- The days of a year before the first of a month. -/
def daysBefore (year : Int) (month : Nat) : Nat :=
  (List.range (month - 1)).foldl (fun days m => days + daysInMonth year (m + 1)) 0

/-- The days from the first of January of the year 0 to that of another year. -/
def daysToYear (year : Int) : Int :=
  365 * year + (year + 3) / 4 - (year + 99) / 100 + (year + 399) / 400

/-- The number of a date, counted from 1970-01-01. -/
def toDays (d : Date) : Int :=
  daysToYear d.year + daysBefore d.year d.month + (d.day - 1 : Nat) - 719528

/-- The month and the day of a day counted within its year. -/
def monthOf (year : Int) (day : Nat) : Nat → Nat × Nat
  | 0 => (12, day + 1)
  | fuel + 1 =>
    let month := 12 - fuel
    let length := daysInMonth year month
    if day < length then (month, day + 1) else monthOf year (day - length) fuel

/-- The date with a number counted from 1970-01-01. -/
def ofDays (n : Int) : Date :=
  let days := n + 719528
  let guess := days * 400 / 146097
  let year :=
    if daysToYear (guess + 1) ≤ days then guess + 1
    else if days < daysToYear guess then guess - 1
    else guess
  let (month, day) := monthOf year (days - daysToYear year).toNat 12
  ⟨year, month, day⟩

end Date

/-- A second counted from 1970-01-01T00:00:00Z, and the nanoseconds behind it. -/
structure Instant where
  seconds : Int
  nanoseconds : Nat
  deriving DecidableEq, Repr, Inhabited

/-- A time of day; the 60th second is a leap second. -/
structure Clock where
  hour : Nat
  minute : Nat
  second : Nat
  nanoseconds : Nat
  deriving DecidableEq, Repr

namespace Instant

/-- The instant of a date and a time of day at an offset from Coordinated Universal Time, unless
its date lies outside the calendar. -/
def of? (date : Date) (clock : Clock) (offset : Int) : Option Instant :=
  let second := min clock.second 59
  let leap := if clock.second = 60 then 1000000000 else 0
  let seconds :=
    date.toDays * 86400 + (clock.hour * 3600 + clock.minute * 60 + second : Nat) - offset
  let year := (Date.ofDays (seconds / 86400)).year
  if Date.firstYear ≤ year ∧ year ≤ Date.lastYear then
    some ⟨seconds, clock.nanoseconds + leap⟩
  else none

/-- A year, of four digits, with a sign if it needs more or is negative. -/
def yearText (year : Int) : List Char :=
  if 0 ≤ year ∧ year ≤ 9999 then Decimal.padded 4 year.toNat
  else (if year < 0 then '-' else '+') :: Decimal.padded 4 year.natAbs

/-- The digits of a fraction of a second: none, three, six or nine. -/
def fractionText (nanoseconds : Nat) : List Char :=
  if nanoseconds = 0 then []
  else if nanoseconds % 1000000 = 0 then '.' :: Decimal.padded 3 (nanoseconds / 1000000)
  else if nanoseconds % 1000 = 0 then '.' :: Decimal.padded 6 (nanoseconds / 1000)
  else '.' :: Decimal.padded 9 nanoseconds

/-- The text of an instant in Coordinated Universal Time. -/
def rfc3339 (t : Instant) : String :=
  let date := Date.ofDays (t.seconds / 86400)
  let second := (t.seconds % 86400).toNat
  let leap := t.nanoseconds / 1000000000
  let two := Decimal.padded 2
  String.ofList
    (yearText date.year ++ '-' :: two date.month ++ '-' :: two date.day ++ 'T' ::
      two (second / 3600) ++ ':' :: two (second / 60 % 60) ++ ':' :: two (second % 60 + leap) ++
      fractionText (t.nanoseconds % 1000000000) ++ ['Z'])

end Instant

end ServiceWorker.Time
