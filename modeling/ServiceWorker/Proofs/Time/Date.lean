import Mathlib.Order.Nat
import Mathlib.Tactic.SplitIfs
import ServiceWorker.Time.Instant

/-!
# Dates and their numbers

Every day has a number, and no two have the same. The year of a day is guessed from the mean length
of a year. As years are never more than two days ahead of that or behind it, the guess is off by at
most one.

## Main results

* `Time.Date.ofDays_eq`: the date of a day, from the place of the day in its month
* `Time.Date.ofDays_toDays`, `Time.Date.toDays_ofDays`: dates and their numbers are told by each
  other
* `Time.Date.valid_ofDays_iff`: there is such a date, unless its year is out of range
-/

namespace ServiceWorker.Time.Date

/-! ## Months -/

section Months

variable {year : Int} {month day : Nat}

@[simp] theorem daysBefore_one (year : Int) : daysBefore year 1 = 0 := rfl

/-- The days of a year before the first of a month, one month after another. -/
theorem daysBefore_succ (year : Int) (h : 1 ≤ month) :
    daysBefore year (month + 1) = daysBefore year month + daysInMonth year month := by
  obtain ⟨m, rfl⟩ := Nat.exists_eq_add_of_le' h
  simp [daysBefore, List.range_succ]

theorem daysBefore_mono (year : Int) {later : Nat} (h : 1 ≤ month) (hlater : month ≤ later) :
    daysBefore year month ≤ daysBefore year later := by
  induction later, hlater using Nat.le_induction with
  | base => exact Nat.le_refl _
  | succ later hle ih =>
    rw [daysBefore_succ year (h.trans hle)]
    exact ih.trans (Nat.le_add_right _ _)

/-- Every day before a month lies in one of the months before it. -/
theorem exists_month_before (h : day < daysBefore year (month + 1)) :
    ∃ m d, 1 ≤ m ∧ m ≤ month ∧ d < daysInMonth year m ∧ day = daysBefore year m + d := by
  induction month with
  | zero => exact absurd h (Nat.not_lt_zero day)
  | succ month ih =>
    rw [daysBefore_succ year (Nat.le_add_left 1 month)] at h
    rcases Nat.lt_or_ge day (daysBefore year (month + 1)) with hless | hge
    · obtain ⟨m, d, hpos, hle, hd⟩ := ih hless
      exact ⟨m, d, hpos, hle.trans (Nat.le_succ month), hd⟩
    · exact ⟨month + 1, day - daysBefore year (month + 1), Nat.le_add_left 1 month, Nat.le_refl _,
        by omega, by omega⟩

/-- A day is found in its month when the months from some earlier one on are searched. -/
theorem monthOf_eq {first fuel : Nat} (hfuel : first + fuel = 13) (hfirst : 1 ≤ first)
    (hle : first ≤ month) (hmonth : month ≤ 12) (hday : day < daysInMonth year month) :
    monthOf year (daysBefore year month - daysBefore year first + day) fuel =
      (month, day + 1) := by
  induction fuel generalizing first with
  | zero => omega
  | succ fuel ih =>
    have hcurrent : 12 - fuel = first := by omega
    rw [monthOf, hcurrent]
    rcases Nat.eq_or_lt_of_le hle with rfl | hless
    · simp [hday]
    · have hnext := daysBefore_succ year hfirst
      have hmono := daysBefore_mono year (Nat.le_add_left 1 first) hless
      have hlater : ¬daysBefore year month - daysBefore year first + day < daysInMonth year first :=
        by omega
      have hrest : daysBefore year month - daysBefore year first + day - daysInMonth year first =
          daysBefore year month - daysBefore year (first + 1) + day := by omega
      rw [if_neg hlater, hrest]
      exact ih (by omega) (Nat.le_add_left 1 first) hless

end Months

/-! ## Years -/

section Years

variable (year : Int)

theorem daysBefore_thirteen : daysBefore year 13 = if isLeap year then 366 else 365 := by
  cases hleap : isLeap year <;> simp [daysBefore, daysInMonth, hleap, List.range_succ]

theorem isLeap_iff :
    isLeap year = true ↔ year % 4 = 0 ∧ year % 100 ≠ 0 ∨ year % 400 = 0 := by
  simp [isLeap]

/-- A year is as long as its months. -/
theorem daysToYear_succ : daysToYear (year + 1) = daysToYear year + daysBefore year 13 := by
  have hlength := daysBefore_thirteen year
  simp only [isLeap_iff] at hlength
  unfold daysToYear
  split at hlength <;> omega

theorem daysToYear_lt_succ : daysToYear year < daysToYear (year + 1) := by
  have hlength := daysBefore_thirteen year
  rw [daysToYear_succ]
  split at hlength <;> omega

/-- Years are never far from their mean length, which is 146097 days in 400 years. -/
theorem daysToYear_bounds : 146097 * year - 396 ≤ 400 * daysToYear year ∧
    400 * daysToYear year ≤ 146097 * year + 699 := by
  unfold daysToYear
  omega

/-- Every day lies in a year. -/
theorem exists_year (days : Int) :
    ∃ year, daysToYear year ≤ days ∧ days < daysToYear (year + 1) := by
  have hbefore := daysToYear_bounds (days * 400 / 146097 - 1)
  have hbehind := daysToYear_bounds (days * 400 / 146097 + 1 + 1)
  rcases Int.lt_or_le days (daysToYear (days * 400 / 146097)) with hless | hge
  · exact ⟨days * 400 / 146097 - 1, by omega, by rwa [Int.sub_add_cancel]⟩
  rcases Int.lt_or_le days (daysToYear (days * 400 / 146097 + 1)) with hless | hge'
  · exact ⟨days * 400 / 146097, hge, hless⟩
  · exact ⟨days * 400 / 146097 + 1, hge', by omega⟩

/-- The guess is off by one year at most. -/
theorem guess_eq {days year guess : Int} (hguess : guess = days * 400 / 146097)
    (hlow : daysToYear year ≤ days) (hhigh : days < daysToYear (year + 1)) :
    (if daysToYear (guess + 1) ≤ days then guess + 1
      else if days < daysToYear guess then guess - 1 else guess) = year := by
  have hbegin := daysToYear_bounds year
  have hend := daysToYear_bounds (year + 1)
  -- Both bounds together leave three years, and only one of them has the day.
  have hclose : guess = year - 1 ∨ guess = year ∨ guess = year + 1 := by omega
  rcases hclose with rfl | rfl | rfl
  · rw [Int.sub_add_cancel, if_pos hlow]
  · rw [if_neg (by omega), if_neg (by omega)]
  · have hlater := daysToYear_lt_succ (year + 1)
    rw [if_neg (by omega), if_pos hhigh, Int.add_sub_cancel]

end Years

/-! ## Dates -/

/-- **The date of a day**, from the place of the day in its month. -/
theorem ofDays_eq {n year : Int} {month day : Nat} (hpos : 1 ≤ month) (hmonth : month ≤ 12)
    (hday : day < daysInMonth year month)
    (hn : n + 719528 = daysToYear year + daysBefore year month + day) :
    ofDays n = ⟨year, month, day + 1⟩ := by
  have hnext := daysToYear_succ year
  have hsucc := daysBefore_succ year hpos
  have hmono := daysBefore_mono year (Nat.le_add_left 1 month)
    (show month + 1 ≤ 13 from Nat.succ_le_succ hmonth)
  have hyear := @guess_eq (n + 719528) year _ rfl (by omega) (by omega)
  have hplace : (n + 719528 - daysToYear year).toNat = daysBefore year month + day := by omega
  have hfound : monthOf year (daysBefore year month - daysBefore year 1 + day) 12 = _ :=
    monthOf_eq rfl (Nat.le_refl 1) hpos hmonth hday
  rw [daysBefore_one, Nat.sub_zero] at hfound
  unfold ofDays
  dsimp only
  rw [hyear, hplace, hfound]

/-- Every number is that of a day in a month of a year. -/
theorem exists_place (n : Int) : ∃ (year : Int) (month day : Nat), 1 ≤ month ∧ month ≤ 12 ∧
    day < daysInMonth year month ∧ n + 719528 = daysToYear year + daysBefore year month + day := by
  obtain ⟨year, hlow, hhigh⟩ := exists_year (n + 719528)
  rw [daysToYear_succ] at hhigh
  have hwithin : (n + 719528 - daysToYear year).toNat < daysBefore year (12 + 1) := by
    show _ < daysBefore year 13
    omega
  obtain ⟨month, day, hpos, hmonth, hday, hplace⟩ := exists_month_before hwithin
  exact ⟨year, month, day, hpos, hmonth, hday, by omega⟩

/-- Every date is the one with its number, -/
theorem ofDays_toDays {d : Date} (h : d.valid) : ofDays d.toDays = d := by
  simp only [valid, Bool.and_eq_true, decide_eq_true_eq] at h
  obtain ⟨⟨⟨⟨-, hpos⟩, hmonth⟩, hfirst⟩, hlast⟩ := h
  have hdate : ofDays d.toDays = ⟨d.year, d.month, d.day - 1 + 1⟩ :=
    ofDays_eq hpos hmonth (by omega) (by rw [toDays]; omega)
  rw [hdate, Nat.sub_add_cancel hfirst]

/-- **and every number is that of its date.** -/
theorem toDays_ofDays (n : Int) : (ofDays n).toDays = n := by
  obtain ⟨year, month, day, hpos, hmonth, hday, hn⟩ := exists_place n
  rw [ofDays_eq hpos hmonth hday hn]
  show daysToYear year + daysBefore year month + (day + 1 - 1 : Nat) - 719528 = n
  omega

/-- There is a date with a number, unless its year is out of range. -/
theorem valid_ofDays_iff {n : Int} : (ofDays n).valid ↔
    firstYear ≤ (ofDays n).year ∧ (ofDays n).year ≤ lastYear := by
  obtain ⟨year, month, day, hpos, hmonth, hday, hn⟩ := exists_place n
  rw [ofDays_eq hpos hmonth hday hn]
  simp only [valid, Bool.and_eq_true, decide_eq_true_eq]
  omega

example : ofDays 11016 = ⟨2000, 2, 29⟩ ∧ toDays ⟨2000, 2, 29⟩ = 11016 := by decide

end ServiceWorker.Time.Date
