import ServiceWorker.Json.Reading
import ServiceWorker.Proofs.Decimal

/-!
# Numerals in front of other text

A numeral goes on as far as it can. So it is the same numeral in front of every text that does not
begin with a digit, a point or the letter of an exponent. An integer of 64 bits is read back from
its digits.

## Main definitions

* `Json.Ends`: a text that makes no numeral longer
* `Json.Numeral.followedBy`: a numeral with other text behind it
* `Json.Number.Integral`: an integer of 64 bits, or the negative zero

## Main results

* `Json.Numeral.scan_append`: a numeral is the same in front of such a text
* `Json.Numeral.value_followedBy`: and so is the number that it writes
* `Json.Numeral.length_rest_lt`: less is left over than there was
* `Json.Number.Integral.scan`: an integer is read back from its text
-/

namespace ServiceWorker.Json

open Text (Symbol)

/-- Whether a symbol makes a numeral longer that stands in front of it. -/
def lengthens : Symbol → Bool
  | .char c => Decimal.isDigit c || c == '.' || c == 'e' || c == 'E'
  | .stray _ => false

/-- A text that makes no numeral longer that stands in front of it. -/
def Ends (suffix : Source) : Prop :=
  ∀ s ∈ suffix.head?, lengthens s = false

theorem Ends.cons {s : Symbol} (h : lengthens s = false) (rest : Source) : Ends (s :: rest) :=
  fun _ ht => Option.some.inj ht ▸ h

variable {suffix text : Source}

/-- What lengthens a numeral stands in front of the end or nowhere. -/
theorem Ends.append_ne_cons {s : Symbol} (hends : Ends suffix) (hs : lengthens s = true)
    (h : ∀ rest, text ≠ s :: rest) (rest : Source) : text ++ suffix ≠ s :: rest := by
  cases text with
  | nil =>
    rintro rfl
    exact absurd (hends s rfl) (by simp [hs])
  | cons t text =>
    intro heq
    obtain ⟨rfl, -⟩ := List.cons.inj heq
    exact h _ rfl

namespace Numeral

/-! ## Digits -/

theorem digits_of_ends (hends : Ends suffix) : digits suffix = ([], suffix) := by
  unfold digits
  split
  next c rest =>
    have hdigit := hends (.char c) rfl
    simp only [lengthens, Bool.or_eq_false_iff] at hdigit
    rw [if_neg (by simp [hdigit.1.1.1])]
  next => rfl

theorem digits_append (hends : Ends suffix) (text : Source) :
    digits (text ++ suffix) = ((digits text).1, (digits text).2 ++ suffix) := by
  induction text with
  | nil => exact digits_of_ends hends
  | cons s rest ih =>
    cases s with
    | stray b => rfl
    | char c =>
      by_cases hdigit : Decimal.isDigit c = true
      · simp [digits, hdigit, ih]
      · simp [digits, hdigit]

/-! ## Exponents -/

/-- The sign of an exponent, and what follows it. -/
def exponentSign (text : Source) : Bool × Source :=
  match text with
  | .char '+' :: rest => (false, rest)
  | .char '-' :: rest => (true, rest)
  | _ => (false, text)

theorem exponentSign_append (hne : text ≠ []) :
    exponentSign (text ++ suffix) = ((exponentSign text).1, (exponentSign text).2 ++ suffix) := by
  obtain ⟨s, rest, rfl⟩ := List.exists_cons_of_ne_nil hne
  by_cases hplus : s = .char '+'
  · subst hplus
    rfl
  · by_cases hminus : s = .char '-'
    · subst hminus
      rfl
    · simp [exponentSign, hplus, hminus]

/-- An exponent is a sign or none, and digits. -/
theorem scanExponent_eq_whole {negative : Bool} {ds : List Char} {left : Source} :
    scanExponent text = .whole ((negative, ds), left) ↔
      (exponentSign text).1 = negative ∧ digits (exponentSign text).2 = (ds, left) ∧ ds ≠ [] := by
  unfold scanExponent
  split
  next sign rest hmatch =>
    have hsign : exponentSign text = (sign, rest) := hmatch
    rw [hsign]
    dsimp only
    split
    next hdigits => simp +contextual [hdigits, eq_comm]
    next hdigits => simp +contextual [hdigits, eq_comm]
    next ds' left' _ hds hdigits =>
      rw [hdigits]
      constructor
      · intro h
        cases h
        exact ⟨rfl, rfl, hds⟩
      · rintro ⟨rfl, h, -⟩
        cases h
        rfl

variable {negative : Bool} {whole : List Char} {fraction : Option (List Char)} {n : Numeral}

theorem scanExponent_append (hends : Ends suffix) {e : Bool × List Char} {left : Source}
    (h : scanExponent text = .whole (e, left)) :
    scanExponent (text ++ suffix) = .whole (e, left ++ suffix) := by
  obtain ⟨hsign, hdigits, hds⟩ := scanExponent_eq_whole.mp h
  have hne : text ≠ [] := by
    rintro rfl
    cases h
  refine scanExponent_eq_whole.mpr ?_
  rw [exponentSign_append hne, digits_append hends, hdigits]
  exact ⟨hsign, rfl, hds⟩

/-! ## Numerals -/

/-- The numeral with other text behind it. -/
def followedBy (n : Numeral) (suffix : Source) : Numeral :=
  { n with rest := n.rest ++ suffix }

/-- Behind its digits a numeral has an exponent, or nothing that begins one. -/
theorem scanTail_eq_whole :
    scanTail negative whole fraction text = .whole n ↔
      (∃ c rest e left, (c = 'e' ∨ c = 'E') ∧ text = .char c :: rest ∧
        scanExponent rest = .whole (e, left) ∧ ⟨negative, whole, fraction, some e, left⟩ = n) ∨
      (∀ rest, text ≠ .char 'e' :: rest) ∧ (∀ rest, text ≠ .char 'E' :: rest) ∧
        ⟨negative, whole, fraction, none, text⟩ = n := by
  constructor
  · intro h
    unfold scanTail at h
    split at h
    next rest =>
      split at h
      next e left hscan =>
        cases h
        exact .inl ⟨'e', rest, e, left, .inl rfl, rfl, hscan, rfl⟩
      next => cases h
    next rest =>
      split at h
      next e left hscan =>
        cases h
        exact .inl ⟨'E', rest, e, left, .inr rfl, rfl, hscan, rfl⟩
      next => cases h
    next hlower hupper =>
      cases h
      exact .inr ⟨hlower, hupper, rfl⟩
  · rintro (⟨c, rest, e, left, rfl | rfl, rfl, hscan, rfl⟩ | ⟨hlower, hupper, rfl⟩)
    · rw [scanTail, hscan]
    · rw [scanTail, hscan]
    · rw [scanTail]
      · exact hlower
      · exact hupper

theorem scanTail_append (hends : Ends suffix)
    (h : scanTail negative whole fraction text = .whole n) :
    scanTail negative whole fraction (text ++ suffix) = .whole (n.followedBy suffix) := by
  refine scanTail_eq_whole.mpr ?_
  rcases scanTail_eq_whole.mp h with
    ⟨c, rest, e, left, hc, rfl, hscan, rfl⟩ | ⟨hlower, hupper, rfl⟩
  · exact .inl ⟨c, rest ++ suffix, e, left ++ suffix, hc, rfl, scanExponent_append hends hscan, rfl⟩
  · -- There is no exponent, and what follows begins none.
    exact .inr ⟨hends.append_ne_cons rfl hlower, hends.append_ne_cons rfl hupper, rfl⟩

/-- A fraction has digits behind its point. -/
theorem scanFraction_eq_whole {rest : Source} :
    scanFraction negative whole (.char '.' :: rest) = .whole n ↔
      (digits rest).1 ≠ [] ∧
        scanTail negative whole (some (digits rest).1) (digits rest).2 = .whole n := by
  rw [scanFraction]
  rcases digits rest with ⟨_ | ⟨d, ds⟩, _ | ⟨s, left⟩⟩ <;> simp

theorem scanFraction_append (hends : Ends suffix)
    (h : scanFraction negative whole text = .whole n) :
    scanFraction negative whole (text ++ suffix) = .whole (n.followedBy suffix) := by
  by_cases hpoint : ∃ rest, text = .char '.' :: rest
  · obtain ⟨rest, rfl⟩ := hpoint
    obtain ⟨hdigits, htail⟩ := scanFraction_eq_whole.mp h
    rw [List.cons_append, scanFraction_eq_whole, digits_append hends]
    exact ⟨hdigits, scanTail_append hends htail⟩
  · have hno : ∀ rest, text ≠ .char '.' :: rest := fun rest hrest => hpoint ⟨rest, hrest⟩
    rw [scanFraction] at h
    · rw [scanFraction]
      · exact scanTail_append hends h
      · exact hends.append_ne_cons rfl hno
    · exact hno

/-- The whole part of a numeral has digits, and no needless zero in front of them. -/
theorem scanUnsigned_eq_whole :
    scanUnsigned negative text = .whole n ↔
      (digits text).1 ≠ [] ∧ (∀ d ds, (digits text).1 ≠ '0' :: d :: ds) ∧
        scanFraction negative (digits text).1 (digits text).2 = .whole n := by
  unfold scanUnsigned
  split
  next h => simp [h]
  next h => simp [h]
  next h => simp [h]
  next hnil hempty hzero h =>
    simp only [h]
    grind

/-- A numeral without a sign is the same in front of text that does not lengthen it. -/
theorem scanUnsigned_append (hends : Ends suffix) (h : scanUnsigned negative text = .whole n) :
    scanUnsigned negative (text ++ suffix) = .whole (n.followedBy suffix) := by
  obtain ⟨hdigits, hzero, hfraction⟩ := scanUnsigned_eq_whole.mp h
  refine scanUnsigned_eq_whole.mpr ?_
  rw [digits_append hends]
  exact ⟨hdigits, hzero, scanFraction_append hends hfraction⟩

/-- **A numeral is the same in front of other text** that does not make it longer. -/
theorem scan_append (hends : Ends suffix) (h : scan text = .whole n) :
    scan (text ++ suffix) = .whole (n.followedBy suffix) := by
  cases text with
  | nil => cases h
  | cons s rest =>
    by_cases hminus : s = .char '-'
    · subst hminus
      exact scanUnsigned_append hends h
    · have hscan : ∀ left, scan (s :: left) = scanUnsigned false (s :: left) := fun left => by
        simp [scan, hminus]
      rw [hscan] at h
      rw [List.cons_append, hscan]
      exact scanUnsigned_append hends h

/-! ## What is left over -/

theorem map_digits_append (text : Source) :
    (digits text).1.map .char ++ (digits text).2 = text := by
  induction text with
  | nil => rfl
  | cons s rest ih =>
    cases s with
    | stray b => rfl
    | char c =>
      by_cases hdigit : Decimal.isDigit c = true
      · simp [digits, hdigit, ih]
      · simp [digits, hdigit]

theorem digits_suffix (text : Source) : (digits text).2 <:+ text :=
  ⟨_, map_digits_append text⟩

theorem exponentSign_suffix (text : Source) : (exponentSign text).2 <:+ text := by
  unfold exponentSign
  split
  · exact List.suffix_cons _ _
  · exact List.suffix_cons _ _
  · exact List.suffix_refl _

theorem scanExponent_suffix {e : Bool × List Char} {left : Source}
    (h : scanExponent text = .whole (e, left)) : left <:+ text := by
  obtain ⟨-, hdigits, -⟩ := scanExponent_eq_whole.mp h
  have hleft := digits_suffix (exponentSign text).2
  rw [hdigits] at hleft
  exact hleft.trans (exponentSign_suffix text)

theorem scanTail_suffix (h : scanTail negative whole fraction text = .whole n) :
    n.rest <:+ text := by
  rcases scanTail_eq_whole.mp h with ⟨c, rest, e, left, -, rfl, hscan, rfl⟩ | ⟨-, -, rfl⟩
  · exact (scanExponent_suffix hscan).trans (List.suffix_cons _ _)
  · exact List.suffix_refl _

theorem scanFraction_suffix (h : scanFraction negative whole text = .whole n) :
    n.rest <:+ text := by
  by_cases hpoint : ∃ rest, text = .char '.' :: rest
  · obtain ⟨rest, rfl⟩ := hpoint
    obtain ⟨-, htail⟩ := scanFraction_eq_whole.mp h
    exact ((scanTail_suffix htail).trans (digits_suffix rest)).trans (List.suffix_cons _ _)
  · rw [scanFraction] at h
    · exact scanTail_suffix h
    · exact fun rest hrest => hpoint ⟨rest, hrest⟩

/-- A numeral has digits, so less is left over than there was. -/
theorem length_rest_lt (h : scan text = .whole n) : n.rest.length < text.length := by
  have hunsigned : ∀ {negative text}, scanUnsigned negative text = .whole n →
      n.rest.length < text.length := by
    intro negative text h
    obtain ⟨hdigits, -, hfraction⟩ := scanUnsigned_eq_whole.mp h
    have hlength := congrArg List.length (map_digits_append text)
    have hpos := List.length_pos_iff.mpr hdigits
    have hrest := (scanFraction_suffix hfraction).length_le
    rw [List.length_append, List.length_map] at hlength
    omega
  unfold scan at h
  split at h
  · exact Nat.lt_succ_of_lt (hunsigned h)
  · exact hunsigned h

/-! ## Numbers -/

/-- What follows a numeral tells only where a fault of the numeral is reported. -/
theorem double_followedBy (significand : Nat) (power : Int) :
    ((n.followedBy suffix).double significand power).toOption =
      (n.double significand power).toOption := by
  unfold double
  dsimp only [followedBy]
  cases n.exponent with
  | none =>
    dsimp only
    cases (Decimal.Binary64.ofNat? significand).bind fun x => scaleByTen x power 4 <;> rfl
  | some e =>
    obtain ⟨negative, ds⟩ := e
    dsimp only
    cases exponentValue 0 ds with
    | ok e =>
      dsimp only
      cases (Decimal.Binary64.ofNat? significand).bind fun x =>
        scaleByTen x (if negative then power - e else power + e) 4 <;> rfl
    | error left =>
      dsimp only
      split <;> rfl

/-- **The number that a numeral writes** does not depend on what follows the numeral. -/
theorem value_followedBy (n : Numeral) (suffix : Source) :
    (n.followedBy suffix).value.toOption = n.value.toOption := by
  unfold value
  dsimp only [followedBy]
  have hdouble := @double_followedBy suffix n
  dsimp only [followedBy] at hdouble
  split
  next hfraction hexponent =>
    split
    next => rfl
    next => exact hdouble _ _
  next => exact hdouble _ _

/-! ## Integers -/

theorem digits_map {ds : List Char} (hds : ∀ d ∈ ds, Decimal.isDigit d) :
    digits (ds.map .char) = (ds, []) := by
  induction ds with
  | nil => rfl
  | cons d ds ih =>
    obtain ⟨hd, hrest⟩ := List.forall_mem_cons.mp hds
    rw [List.map_cons, digits, if_pos hd, ih hrest]

theorem gatherWhole_eq {ds : List Char} {n : Nat}
    (h : ds.foldl (fun n c => 10 * n + Decimal.digitValue c) n ≤ maxWord) :
    gatherWhole n ds = (ds.foldl (fun n c => 10 * n + Decimal.digitValue c) n, 0) := by
  induction ds generalizing n with
  | nil => rfl
  | cons d ds ih =>
    rw [List.foldl_cons] at h ⊢
    have hfits := Nat.le_trans (Decimal.le_foldl ds _) h
    rw [gatherWhole, if_neg (Nat.not_lt.mpr hfits), ih h]

/-- The decimal text of a number is scanned as its digits. -/
theorem scanUnsigned_ofNat (negative : Bool) (n : Nat) :
    scanUnsigned negative ((Decimal.ofNat n).map .char) =
      .whole ⟨negative, Decimal.ofNat n, none, none, []⟩ := by
  rw [scanUnsigned_eq_whole, digits_map fun d hd => Decimal.isDigit_of_mem_ofNat hd]
  exact ⟨Decimal.ofNat_ne_nil n, Decimal.ofNat_ne_zero_cons n, rfl⟩

/-- These digits stand for the number. -/
theorem value_ofNat {negative : Bool} {n : Nat} {i : Int} (hfits : n ≤ maxWord)
    (h : wholeNumber negative n = some i) :
    value ⟨negative, Decimal.ofNat n, none, none, []⟩ = .ok (.whole i) := by
  have hvalue := Decimal.value_ofNat n
  rw [Decimal.value] at hvalue
  rw [value, gatherWhole_eq (by rw [hvalue]; exact hfits), hvalue]
  simp only [h]

end Numeral

namespace Number

/-- An integer of 64 bits, with or without a sign; the negative zero is kept apart from zero. -/
def Integral : Number → Prop
  | .whole n => -2 ^ 63 ≤ n ∧ n < 2 ^ 64
  | .double x => x = Decimal.Binary64.zero true

/-- **An integer is read back from its text.** -/
theorem Integral.scan {n : Number} (h : n.Integral) :
    ∃ c start numeral, n.text.map Symbol.char = .char c :: start ∧
      (c = '-' ∨ Decimal.isDigit c) ∧ Numeral.scan (.char c :: start) = .whole numeral ∧
      numeral.rest = [] ∧ numeral.value = .ok n := by
  cases n with
  | whole n =>
    obtain ⟨hlow, hhigh⟩ := h
    cases n with
    | ofNat n =>
      have hfits : n ≤ Numeral.maxWord := by
        show n ≤ 2 ^ 64 - 1
        have : (n : Int) < 2 ^ 64 := hhigh
        omega
      obtain ⟨c, ds, htext⟩ := List.exists_cons_of_ne_nil (Decimal.ofNat_ne_nil n)
      have hdigit : Decimal.isDigit c := Decimal.isDigit_of_mem_ofNat (htext ▸ List.mem_cons_self)
      -- A digit is no sign.
      have hscan : Numeral.scan (.char c :: ds.map .char) =
          Numeral.scanUnsigned false ((Decimal.ofNat n).map .char) := by
        rw [htext, List.map_cons, Numeral.scan]
        rintro rest heq
        cases heq
        exact absurd hdigit (by decide)
      refine ⟨c, ds.map .char, ⟨false, Decimal.ofNat n, none, none, []⟩, ?_, .inr hdigit, ?_, rfl,
        ?_⟩
      · show (Decimal.ofNat n).map Symbol.char = _
        rw [htext, List.map_cons]
      · rw [hscan, Numeral.scanUnsigned_ofNat]
      · exact Numeral.value_ofNat hfits rfl
    | negSucc n =>
      have hsmall : n + 1 ≤ 2 ^ 63 := by omega
      refine ⟨'-', (Decimal.ofNat (n + 1)).map .char, _, rfl, .inl rfl,
        Numeral.scanUnsigned_ofNat true (n + 1), rfl, Numeral.value_ofNat ?_ ?_⟩
      · show n + 1 ≤ 2 ^ 64 - 1
        omega
      · have hfits : ¬(n + 1 = 0 ∨ 0x8000000000000000 < n + 1) := by omega
        rw [Numeral.wholeNumber, if_pos rfl, if_neg hfits]
        rfl
  | double x =>
    cases h
    exact ⟨'-', ['0', '.', '0'].map .char, ⟨true, ['0'], some ['0'], none, []⟩, rfl, .inl rfl, rfl,
      rfl, by decide +kernel⟩

end Number

end ServiceWorker.Json
