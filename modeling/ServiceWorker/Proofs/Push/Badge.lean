import Mathlib.Algebra.Group.Int.Defs
import Mathlib.Algebra.Group.Nat.Defs
import Mathlib.Data.List.TakeWhile
import ServiceWorker.Proofs.Decimal
import ServiceWorker.Proofs.Push.Decoding
import ServiceWorker.Push.Route

/-!
# The count on the badge

A badge counts what it writes, be it a number or a text that begins with one, as far as a count can
be that large; what is larger counts as the largest count. So it makes no difference whether a
number is sent or its decimal text.

## Main definitions

* `Push.Badge.Splits`: a text split into blanks, a sign, digits and what follows
* `Push.Badge.Counts`: what badges count, and what comes of it

## Main results

* `Push.Badge.size?_eq`: digits are read as long as their number is a count
* `Push.Badge.ofText?_of_splits`: what a text counts is told by how it splits
* `Push.routePayload_toString`: a number and its decimal text do the same
* `Push.badge_counts`: badges are counted exactly
-/

namespace ServiceWorker.Push

open Decimal (Binary64 isDigit isDigit_of_mem_ofNat le_foldl value value_ofNat)
open Json (Once lookup? normal)

namespace Badge

/-! ## Digits -/

/-- Digits are read as long as their number is a count; what has grown beyond that stays there. -/
theorem foldlM_append? (digits : List Char) {n : Nat} :
    digits.foldlM append? n =
      let m := digits.foldl (fun n c => 10 * n + Decimal.digitValue c) n
      if digits ≠ [] ∧ most < m then none else some m := by
  induction digits generalizing n with
  | nil => rfl
  | cons c digits ih =>
    have hgrows := le_foldl digits (10 * n + Decimal.digitValue c)
    rw [List.foldlM_cons, append?, List.foldl_cons]
    dsimp only
    split
    next hlarge =>
      rw [if_pos ⟨List.cons_ne_nil _ _, by omega⟩]
      rfl
    next hsmall =>
      show digits.foldlM append? _ = _
      rw [ih]
      cases digits with
      | nil => rw [List.foldl_nil, if_neg (by simp), if_neg (by omega)]
      | cons c' digits => simp

theorem size?_eq (digits : List Char) :
    size? digits = if most < value digits then none else some (value digits) := by
  rw [size?, foldlM_append?]
  cases digits with
  | nil => rfl
  | cons c digits => simp [value]

/-- A number that is too large becomes the largest count. -/
theorem getD_size? (digits : List Char) :
    ((size? digits).map Int.ofNat).getD most = min most (value digits) := by
  rw [size?_eq]
  split
  next hlarge => simp; omega
  next hsmall => simp; omega

/-! ## Texts -/

section Text

variable {text blanks sgn digits rest : List Char}

/-- A text split into blanks, at most one sign, as many digits as there are, and what follows. -/
structure Splits (text blanks sgn digits rest : List Char) : Prop where
  text : text = blanks ++ (sgn ++ (digits ++ rest))
  blanks : ∀ c ∈ blanks, Text.isBlank c
  trimmed : ∀ c ∈ (sgn ++ (digits ++ rest)).head?, ¬Text.isBlank c
  sign : sgn = ['+'] ∨ sgn = ['-'] ∨ sgn = [] ∧ ∀ c ∈ (digits ++ rest).head?, c ≠ '+' ∧ c ≠ '-'
  digits : ∀ c ∈ digits, isDigit c
  longest : ∀ c ∈ rest.head?, ¬isDigit c

/-- Characters of a kind at the front of a text are taken, and no more. -/
theorem takeWhile_append {p : Char → Bool} {front rest : List Char} (hfront : ∀ c ∈ front, p c)
    (hrest : ∀ c ∈ rest.head?, ¬p c) :
    (front ++ rest).takeWhile p = front ∧ (front ++ rest).dropWhile p = rest := by
  rw [List.takeWhile_append_of_pos hfront, List.dropWhile_append_of_pos hfront]
  cases rest with
  | nil => simp
  | cons c rest =>
    have hc : ¬p c := hrest c rfl
    simp [hc]

/-- The sign is told from what follows it. -/
theorem sign_append (hsign : sgn = ['+'] ∨ sgn = ['-'] ∨
    sgn = [] ∧ ∀ c ∈ rest.head?, c ≠ '+' ∧ c ≠ '-') :
    sign (sgn ++ rest) = (decide (sgn = ['-']), rest) := by
  rcases hsign with rfl | rfl | ⟨rfl, hrest⟩
  · rfl
  · rfl
  · rw [List.nil_append]
    cases rest with
    | nil => rfl
    | cons c rest =>
      obtain ⟨hplus, hminus⟩ := hrest c rfl
      unfold sign
      split
      next heq => exact absurd (List.cons_eq_cons.mp heq).1 hminus
      next heq => exact absurd (List.cons_eq_cons.mp heq).1 hplus
      next => rfl

/-- Every text has at most one sign in front. -/
theorem exists_sign (text : List Char) : ∃ sgn rest, text = sgn ++ rest ∧
    (sgn = ['+'] ∨ sgn = ['-'] ∨ sgn = [] ∧ ∀ c ∈ rest.head?, c ≠ '+' ∧ c ≠ '-') := by
  cases text with
  | nil => exact ⟨[], [], rfl, by simp⟩
  | cons c rest =>
    by_cases hplus : c = '+'
    · exact ⟨['+'], rest, by rw [hplus]; rfl, .inl rfl⟩
    by_cases hminus : c = '-'
    · exact ⟨['-'], rest, by rw [hminus]; rfl, .inr (.inl rfl)⟩
    · exact ⟨[], c :: rest, rfl, .inr (.inr ⟨rfl, by simp [hplus, hminus]⟩)⟩

/-- Every text can be split. -/
theorem exists_splits (text : List Char) :
    ∃ blanks sgn digits rest, Splits text blanks sgn digits rest := by
  have hfront : ∀ (p : Char → Bool) (l : List Char), ∀ c ∈ (l.dropWhile p).head?, ¬p c := by
    intro p l c hc
    have hnot := List.head?_dropWhile_not p l
    rw [Option.mem_def.mp hc] at hnot
    simp [hnot]
  obtain ⟨sgn, behind, htrim, hsign⟩ := exists_sign (text.dropWhile Text.isBlank)
  have hsplit : behind.takeWhile isDigit ++ behind.dropWhile isDigit = behind :=
    List.takeWhile_append_dropWhile
  refine ⟨text.takeWhile Text.isBlank, sgn, behind.takeWhile isDigit, behind.dropWhile isDigit,
    { text := ?_, blanks := fun c hc => List.mem_takeWhile_imp hc, trimmed := ?_, sign := ?_,
      digits := fun c hc => List.mem_takeWhile_imp hc, longest := hfront isDigit behind }⟩
  · rw [hsplit, ← htrim, List.takeWhile_append_dropWhile]
  · rw [hsplit, ← htrim]
    exact hfront Text.isBlank text
  · rwa [hsplit]

/-- **The count at the front of a text** is that of its digits, however many there are. -/
theorem ofText?_of_splits (h : Splits text blanks sgn digits rest) :
    ofText? text = if digits = [] then none
      else some (if sgn = ['-'] then -min most (value digits) else min most (value digits)) := by
  have htrim : Text.trimStart text = sgn ++ (digits ++ rest) := by
    rw [Text.trimStart, h.text]
    exact (takeWhile_append h.blanks h.trimmed).2
  have hdigits : (digits ++ rest).takeWhile isDigit = digits :=
    (takeWhile_append h.digits h.longest).1
  unfold ofText?
  rw [htrim, sign_append h.sign]
  dsimp only
  rw [hdigits]
  cases digits with
  | nil => rfl
  | cons c digits =>
    dsimp only
    rw [getD_size?, if_neg (List.cons_ne_nil _ _)]
    simp

example : ofText? [' ', '-', '1', '2', 'a'] = some (-12) := by decide

end Text

/-! ## Numbers -/

section Number

variable {n : Nat}

/-- A number of 64 bits that is no count has 53 of its bits before the point at this exponent. -/
theorem fittingExponent_of_large (hlow : 2 ^ 63 ≤ n) (hhigh : n < 2 ^ 64) :
    Binary64.fittingExponent n 1 = 11 := by
  have hlog : n.log2 = 63 := (Nat.log2_eq_iff (by omega)).mpr ⟨hlow, hhigh⟩
  have hone : Nat.log2 1 = 0 := by decide
  have hbits : ¬n / (1 <<< 11) < 1 <<< 52 := by
    simp only [Nat.one_shiftLeft]
    omega
  unfold Binary64.fittingExponent
  rw [hlog, hone]
  show max (if n / (1 <<< 11) < 1 <<< 52 then (11 : Int) - 1 else 11) Binary64.minExponent = 11
  rw [if_neg hbits]
  rfl

/-- The binary64 number next to it is no count either. -/
theorem ofNat?_of_large (hlow : 2 ^ 63 ≤ n) (hhigh : n < 2 ^ 64) :
    ∃ x, Binary64.ofNat? n = some x ∧ x.negative = false ∧ 2 ^ 63 ≤ x.truncate := by
  have hround : 2 ^ 52 ≤ Binary64.roundQuotient n (1 <<< 11) ∧
      Binary64.roundQuotient n (1 <<< 11) ≤ 2 ^ 53 := by
    simp only [Binary64.roundQuotient, Nat.one_shiftLeft]
    split_ifs <;> omega
  obtain ⟨hleast, hmost⟩ := hround
  rw [Binary64.ofNat?, Binary64.ofRatio?, if_neg (by omega), fittingExponent_of_large hlow hhigh]
  have hscaled : Binary64.scaled n 1 11 = (n, 1 <<< 11) := rfl
  simp only [hscaled, Binary64.bits]
  generalize Binary64.roundQuotient n (1 <<< 11) = m at hleast hmost
  by_cases hcarry : m = 1 <<< 53
  · rw [if_pos hcarry]
    exact ⟨⟨false, 1 <<< 52, 12⟩, rfl, rfl, by decide⟩
  · rw [if_neg hcarry]
    have hzero : m ≠ 0 := by omega
    have hsize : (⟨false, m, 11⟩ : Binary64).truncate = ((m <<< 11 : Nat) : Int) / (1 : Nat) := rfl
    refine ⟨⟨false, m, 11⟩, ?_, rfl, ?_⟩
    · dsimp only
      rw [if_neg (by decide), if_neg hzero]
    · rw [hsize, Nat.shiftLeft_eq]
      omega

theorem ofWhole?_of_count {n : Int} (hlow : -2 ^ 63 ≤ n) (hhigh : n < 2 ^ 63) :
    ofWhole? n = some n := by
  have hcount : least ≤ n ∧ n ≤ most := by
    unfold least most
    omega
  rw [ofWhole?, if_pos hcount]

/-- **A number that is too large stands for the largest count**, whichever way it is rounded. -/
theorem ofWhole?_of_large {n : Int} (hlow : 2 ^ 63 ≤ n) (hhigh : n < 2 ^ 64) :
    ofWhole? n = some most := by
  have hno : ¬(least ≤ n ∧ n ≤ most) := by
    unfold most
    omega
  have hsign : decide (n < 0) = false := decide_eq_false (by omega)
  have hlow' : 2 ^ 63 ≤ n.natAbs := by omega
  have hhigh' : n.natAbs < 2 ^ 64 := by omega
  obtain ⟨x, hx, hnegative, hlarge⟩ := ofNat?_of_large hlow' hhigh'
  have hsame : x.withSign false = x := by
    cases x
    cases hnegative
    rfl
  rw [ofWhole?, if_neg hno, hx, Option.map_some, hsign, hsame]
  congr 1
  unfold clamp most least
  omega

/-! ## Decimal texts -/

theorem of_isDigit {c : Char} (hc : isDigit c) : ¬Text.isBlank c ∧ c ≠ '+' ∧ c ≠ '-' := by
  have hrange : 48 ≤ c.toNat ∧ c.toNat ≤ 57 := by
    simp only [isDigit, Bool.and_eq_true, decide_eq_true_eq, Char.le_def,
      UInt32.le_iff_toNat_le] at hc
    exact hc
  refine ⟨?_, ?_, ?_⟩
  · intro hblank
    simp only [Text.isBlank, Bool.or_eq_true, Bool.and_eq_true, decide_eq_true_eq, beq_iff_eq]
      at hblank
    omega
  · rintro rfl
    exact absurd hrange.1 (by decide)
  · rintro rfl
    exact absurd hrange.1 (by decide)

/-- Digits alone, -/
theorem splits_ofNat (n : Nat) : Splits (Decimal.ofNat n) [] [] (Decimal.ofNat n) [] := by
  have hfirst : ∀ c ∈ (Decimal.ofNat n ++ []).head?, ¬Text.isBlank c ∧ c ≠ '+' ∧ c ≠ '-' := by
    intro c hc
    rw [List.append_nil] at hc
    exact of_isDigit (isDigit_of_mem_ofNat (List.mem_of_mem_head? hc))
  exact
    { text := by simp
      blanks := by simp
      trimmed := fun c hc => (hfirst c hc).1
      sign := .inr (.inr ⟨rfl, fun c hc => (hfirst c hc).2⟩)
      digits := fun c hc => isDigit_of_mem_ofNat hc
      longest := by simp }

/-- and digits behind a sign. -/
theorem splits_minus (n : Nat) :
    Splits ('-' :: Decimal.ofNat n) [] ['-'] (Decimal.ofNat n) [] where
  text := by simp
  blanks := by simp
  trimmed := by simp; decide
  sign := .inr (.inl rfl)
  digits _ hc := isDigit_of_mem_ofNat hc
  longest := by simp

/-- The decimal text of a whole number, split. -/
theorem splits_toString (m : Int) : Splits (toString m).toList []
    (if m < 0 then ['-'] else []) (Decimal.ofNat m.natAbs) [] := by
  cases m with
  | ofNat k =>
    have hsign : (if (k : Int) < 0 then ['-'] else []) = [] := if_neg (by omega)
    have htext : (toString (k : Int)).toList = Decimal.ofNat k := String.toList_ofList
    rw [show Int.ofNat k = (k : Int) from rfl, hsign, htext]
    exact splits_ofNat k
  | negSucc k =>
    have hsign : (if Int.negSucc k < 0 then ['-'] else []) = ['-'] := if_pos (Int.negSucc_lt_zero k)
    have htext : (toString (Int.negSucc k)).toList = '-' :: Decimal.ofNat (k + 1) := by
      show ("-" ++ String.ofList (Decimal.ofNat (k + 1))).toList = _
      have hminus : "-".toList = ['-'] := by decide
      rw [String.toList_append, hminus, String.toList_ofList, List.singleton_append]
    rw [hsign, htext]
    exact splits_minus (k + 1)

/-- A number and its decimal text stand for the same count. Only the smallest count has a text that
stands for another one, which is below zero as well. -/
theorem count?_toString {m : Int} (hlow : -2 ^ 63 ≤ m) (hhigh : m < 2 ^ 64) :
    ∃ k k', count? (.number (.whole m)) = some k ∧ count? (.string (toString m)) = some k' ∧
      (k = k' ∨ k < 0 ∧ k' < 0) := by
  have hdigits : Decimal.ofNat m.natAbs ≠ [] := Nat.toDigits_ne_nil
  have hsign : (if m < 0 then ['-'] else []) = ['-'] ↔ m < 0 := by
    split <;> simp [*]
  have htext : count? (.string (toString m)) =
      some (if m < 0 then -min most m.natAbs else min most m.natAbs) := by
    show ofText? (toString m).toList = _
    rw [ofText?_of_splits (splits_toString m), if_neg hdigits, value_ofNat]
    simp only [hsign]
  refine ⟨if m < 2 ^ 63 then m else most, _, ?_, htext, ?_⟩
  · show ofWhole? m = _
    by_cases hcount : m < 2 ^ 63
    · rw [ofWhole?_of_count hlow hcount, if_pos hcount]
    · rw [ofWhole?_of_large (by omega) hhigh, if_neg hcount]
  · unfold most
    split_ifs <;> omega

end Number

end Badge

/-! ## Effects -/

section Effect

variable {p : Payload} {m : Int}

/-- A badge that is sent as a number and one that is sent as its text bring the same count. -/
theorem badgeCount?_toString (hlow : -2 ^ 63 ≤ m) (hhigh : m < 2 ^ 64) :
    { p with badge := some (.string (toString m)) }.badgeCount? =
      { p with badge := some (.number (.whole m)) }.badgeCount? := by
  obtain ⟨k, k', hnumber, htext, hsame⟩ := Badge.count?_toString hlow hhigh
  unfold Payload.badgeCount?
  simp only [Option.bind_some, hnumber, htext]
  rcases hsame with rfl | ⟨hk, hk'⟩
  · rfl
  · rw [if_neg (by omega), if_neg (by omega)]

theorem routePayload_toString (config : Config) (hasBadge : Bool) (hlow : -2 ^ 63 ≤ m)
    (hhigh : m < 2 ^ 64) :
    routePayload config hasBadge { p with badge := some (.string (toString m)) } =
      routePayload config hasBadge { p with badge := some (.number (.whole m)) } := by
  have hupdate : updateBadge hasBadge { p with badge := some (.string (toString m)) } =
      updateBadge hasBadge { p with badge := some (.number (.whole m)) } := by
    unfold updateBadge
    rw [badgeCount?_toString hlow hhigh]
  unfold routePayload
  rw [hupdate]
  rfl

/-- Of two objects that differ in the value of the badge alone, all else is read alike. -/
theorem ofValue_badge {before after : List (String × Json)} {v : Json}
    (honce : Once payloadShape.fields (before ++ ("badge", v) :: after)) :
    Payload.ofValue (normal (.object (before ++ ("badge", v) :: after))) =
      { Payload.ofValue (normal (.object (before ++ after))) with badge := present v.normal } := by
  have hbadge : lookup? "badge" (before ++ ("badge", v) :: after) = some v :=
    Json.lookup?_of_mem (by simp) (honce (payloadShape.fields[4]) (List.getElem_mem _))
  have hother : ∀ name, "badge" ≠ name →
      lookup? name (before ++ ("badge", v) :: after) = lookup? name (before ++ after) := by
    intro name hname
    rw [Json.lookup?_append, Json.lookup?_append, ← List.singleton_append, Json.lookup?_append,
      ← List.nil_append [_], Json.lookup?_concat, if_neg hname, Json.lookup?_nil, Option.or_none]
  rw [ofValue_normal, ofValue_normal]
  simp only [Payload.ofLookup, hbadge, hother "type" (by decide), hother "team_id" (by decide),
    hother "channel_id" (by decide), hother "ack_id" (by decide),
    hother "override_icon_url" (by decide), Option.map_some, Option.bind_some]

end Effect

/-! ## Statement -/

/-- What badges count, as texts and as numbers, and what comes of it. -/
structure Badge.Counts : Prop where
  /-- Every text splits into blanks, at most one sign, the longest run of digits and what
  follows. -/
  splits : ∀ s : String, ∃ blanks sgn digits rest, Splits s.toList blanks sgn digits rest
  /-- Without a digit it counts nothing; otherwise its sign times the number of its digits, or the
  largest count if that is less. -/
  text : ∀ (s : String) (blanks sgn digits rest : List Char),
    Splits s.toList blanks sgn digits rest →
    (count? (.string s) = none ↔ digits = []) ∧
      (digits ≠ [] → count? (.string s) = some ((if sgn = ['-'] then -1 else 1) *
        min (Nat.ofDigitChars 10 digits 0 : Int) (2 ^ 63 - 1)))
  /-- A number of 64 bits with a sign counts what it is, and one of 64 bits without a sign that is
  larger counts the largest count. -/
  signed : ∀ n : Int, -2 ^ 63 ≤ n → n < 2 ^ 63 → count? (.number (.whole n)) = some n
  unsigned : ∀ n : Int, 2 ^ 63 ≤ n → n < 2 ^ 64 →
    count? (.number (.whole n)) = some (2 ^ 63 - 1)
  /-- Nothing else but a binary64 number counts anything. -/
  null : count? .null = none
  bool : ∀ b, count? (.bool b) = none
  array : ∀ items, count? (.array items) = none
  object : ∀ members, count? (.object members) = none
  /-- A push with a number and one with the decimal text of this number do the same to the badge, -/
  badge : ∀ (p p' : Payload) (n : Int), -2 ^ 63 ≤ n → n < 2 ^ 64 →
    p.badge = some (.number (.whole n)) → p'.badge = some (.string (toString n)) →
    p.badgeCount? = p'.badgeCount? ∧
      ∀ hasBadge, updateBadge hasBadge p = updateBadge hasBadge p'
  /-- and if they are otherwise alike, all that they do is the same. -/
  pushes : ∀ (config : Config) (hasBadge : Bool) (body body' : Bytes)
    (members members' before after : List (String × Json)) (n : Int), -2 ^ 63 ≤ n → n < 2 ^ 64 →
    Carries body members (before ++ ("badge", .number (.whole n)) :: after) →
    Carries body' members' (before ++ ("badge", .string (toString n)) :: after) →
    route config hasBadge (some body) = route config hasBadge (some body')

/-- **Badges are counted exactly**, and what is too large counts as the largest count, however it is
sent. -/
theorem badge_counts : Badge.Counts where
  splits s := Badge.exists_splits s.toList
  text s blanks sgn digits rest h := by
    have hcount := Badge.ofText?_of_splits h
    have hvalue : value digits = Nat.ofDigitChars 10 digits 0 := rfl
    have hmost : Badge.most = 2 ^ 63 - 1 := by decide
    rw [hvalue, hmost] at hcount
    constructor
    · show Badge.ofText? s.toList = none ↔ digits = []
      rw [hcount]
      split <;> simp [*]
    · intro hdigits
      show Badge.ofText? s.toList = _
      rw [hcount, if_neg hdigits, Int.min_comm]
      split <;> simp
  signed n hlow hhigh := Badge.ofWhole?_of_count hlow hhigh
  unsigned n hlow hhigh := Badge.ofWhole?_of_large hlow hhigh
  null := rfl
  bool b := rfl
  array items := rfl
  object members := rfl
  badge p p' n hlow hhigh hp hp' := by
    have hcount : p.badgeCount? = p'.badgeCount? := by
      have hsame := @badgeCount?_toString p n hlow hhigh
      unfold Payload.badgeCount? at hsame ⊢
      rw [hp, hp']
      exact hsame.symm
    refine ⟨hcount, fun hasBadge => ?_⟩
    unfold updateBadge
    rw [hcount]
  pushes config hasBadge body body' members members' before after n hlow hhigh h h' := by
    rw [route, route, h.decodes, h'.decodes, ofValue_badge h.once, ofValue_badge h'.once]
    exact (routePayload_toString config hasBadge hlow hhigh).symm

end ServiceWorker.Push
