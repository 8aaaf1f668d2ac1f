import Mathlib.Tactic.IntervalCases
import ServiceWorker.Decimal.Digits

/-!
# Decimal texts of numbers

## Main results

* `Decimal.isDigit_of_mem_ofNat`: a number is written in digits
* `Decimal.ofNat_ne_zero_cons`: without a needless zero in front
* `Decimal.le_foldl`: digits that are appended never make a number smaller
-/

namespace ServiceWorker.Decimal

variable {n : Nat}

theorem isDigit_of_mem_ofNat {c : Char} (hc : c ∈ ofNat n) : isDigit c := by
  have hdigit := Nat.isDigit_of_mem_toDigits (by decide) (by decide) hc
  simpa [isDigit, Char.isDigit, Char.le_def] using hdigit

theorem ofNat_ne_nil (n : Nat) : ofNat n ≠ [] :=
  Nat.toDigits_ne_nil

/-- The first digit of a number is no zero, -/
theorem head?_ofNat (h : 0 < n) : (ofNat n).head? ≠ some '0' := by
  induction n using Nat.strongRecOn with
  | ind n ih =>
    have hdigits := @Nat.toDigits_eq_if 10 n (by decide)
    rw [ofNat, hdigits]
    split
    next hsmall =>
      interval_cases n <;> decide
    next hlarge =>
      have hless : n / 10 < n := Nat.div_lt_self h (by decide)
      obtain ⟨d, ds, hd⟩ := List.exists_cons_of_ne_nil (ofNat_ne_nil (n / 10))
      have hfirst := ih (n / 10) hless (by omega)
      rw [ofNat] at hd hfirst
      rw [hd] at hfirst ⊢
      exact hfirst

/-- unless the zero is all there is. -/
theorem ofNat_ne_zero_cons (n : Nat) (d : Char) (ds : List Char) : ofNat n ≠ '0' :: d :: ds := by
  intro h
  rcases Nat.eq_zero_or_pos n with rfl | hpos
  · cases h
  · exact head?_ofNat hpos (by rw [h]; rfl)

/-- Digits that are appended never make a number smaller. -/
theorem le_foldl (digits : List Char) (n : Nat) :
    n ≤ digits.foldl (fun n c => 10 * n + digitValue c) n := by
  induction digits generalizing n with
  | nil => exact Nat.le_refl n
  | cons c digits ih =>
    have := ih (10 * n + digitValue c)
    rw [List.foldl_cons]
    omega

end ServiceWorker.Decimal
