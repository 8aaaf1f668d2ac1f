import ServiceWorker.Proofs.Json.Lexeme
import ServiceWorker.Proofs.Json.Numeral

/-!
# The grammar of JSON texts

The texts that have a value are those of a grammar, which knows neither the fuel of the parser nor
the trees that it makes. What is derived in it stays derivable in front of other text, unless that
makes a numeral longer, and at any greater depth of nesting.

## Main definitions

* `Json.Phrase`: a value, the items of an array, or the members of an object
* `Json.Spells`: a text begins with a phrase

## Main results

* `Json.Spells.append`: a text spells the same in front of other text
* `Json.Spells.unlimited`: and without a limit to its depth
* `Json.Spells.length_lt`: a phrase is not empty
-/

namespace ServiceWorker.Json

open Text (Symbol)

variable {text left suffix : Source}

/-! ## What follows in an array or in an object -/

/-- The text behind the comma in front of an item or a member, of which the first has none. -/
inductive Behind : Bool → Source → Source → Prop
  | first (text : Source) : Behind true text text
  | comma {text rest : Source} (h : skipSpaces text = .char ',' :: rest) : Behind false text rest

variable {first : Bool} {rest start : Source}

theorem Behind.append (h : Behind first text rest) (suffix : Source) :
    Behind first (text ++ suffix) (rest ++ suffix) := by
  cases h with
  | first => exact .first _
  | comma h => exact .comma (skipSpaces_append h suffix)

theorem Next.ofItems_eq_close : ofItems first text = .close rest ↔
    skipSpaces text = .char ']' :: rest := by
  unfold ofItems
  split
  next h => simp [h]
  next h => simp [h]
  next hnil hclose =>
    refine ⟨fun h => ?_, fun h => absurd h (hclose _)⟩
    split at h
    · cases h
    · repeat' split at h
      all_goals cases h

theorem Next.ofItems_eq_item : ofItems first text = .item start ↔
    ∃ rest, Behind first text rest ∧ skipSpaces rest = start ∧ start ≠ [] ∧
      ∀ left, start ≠ .char ']' :: left := by
  unfold ofItems
  constructor
  · intro h
    split at h
    next => cases h
    next => cases h
    next hnil hclose =>
      cases first with
      | true =>
        cases h
        exact ⟨text, .first text, rfl, hnil, hclose⟩
      | false =>
        simp only [Bool.false_eq_true, if_false] at h
        split at h
        next rest hcomma =>
          split at h
          next => cases h
          next => cases h
          next hnil hclose =>
            cases h
            exact ⟨rest, .comma hcomma, rfl, hnil, hclose⟩
        next => cases h
  · rintro ⟨rest, hbehind, rfl, hnil, hclose⟩
    cases hbehind with
    | first =>
      split
      next h => exact absurd h hnil
      next h => exact absurd h (hclose _)
      next => rfl
    | comma h =>
      rw [h]
      split
      next heq => cases heq
      next heq => cases heq
      next =>
        rw [if_neg Bool.false_ne_true]
        split
        next heq =>
          cases heq
          split
          next h => exact absurd h hnil
          next h => exact absurd h (hclose _)
          next => rfl
        next hother => exact absurd rfl (hother rest)

theorem Next.ofMembers_eq_close : ofMembers first text = .close rest ↔
    skipSpaces text = .char '\x7d' :: rest := by
  unfold ofMembers
  split
  next h => simp [h]
  next h => simp [h]
  next hnil hclose =>
    refine ⟨fun h => ?_, fun h => absurd h (hclose _)⟩
    repeat' split at h
    all_goals cases h

theorem Next.ofMembers_eq_item : ofMembers first text = .item start ↔
    ∃ rest, Behind first text rest ∧ skipSpaces rest = .char '"' :: start := by
  unfold ofMembers
  constructor
  · intro h
    split at h
    next => cases h
    next => cases h
    next =>
      cases first with
      | true =>
        simp only [if_true] at h
        split at h
        next hquote =>
          cases h
          exact ⟨text, .first text, hquote⟩
        next => cases h
      | false =>
        simp only [Bool.false_eq_true, if_false] at h
        split at h
        next rest hcomma =>
          split at h
          next => cases h
          next hquote =>
            cases h
            exact ⟨rest, .comma hcomma, hquote⟩
          next => cases h
          next => cases h
        next => cases h
  · rintro ⟨rest, hbehind, hquote⟩
    cases hbehind with
    | first =>
      rw [hquote]
      rfl
    | comma h =>
      rw [h]
      split
      next heq => cases heq
      next heq => cases heq
      next =>
        rw [if_neg Bool.false_ne_true]
        split
        next heq =>
          cases heq
          rw [hquote]
          rfl
        next hother => exact absurd rfl (hother rest)

theorem length_lt_of_skipSpaces {s : Symbol} {start rest : Source}
    (htext : skipSpaces text = s :: start) (h : rest.length ≤ start.length) :
    rest.length < text.length := by
  have hsuffix : s :: start <:+ text := htext ▸ List.dropWhile_suffix isSpace
  exact Nat.lt_of_le_of_lt h hsuffix.length_le

theorem Behind.length_le (h : Behind first text rest) : rest.length ≤ text.length := by
  cases h with
  | first => exact Nat.le_refl _
  | comma h => exact Nat.le_of_lt (length_lt_of_skipSpaces h (Nat.le_refl _))

/-! ## The grammar -/

/-- What a text may begin with: a value, or items or members up to the bracket behind them. -/
inductive Phrase where
  | value (v : Json)
  | items (first : Bool) (vs : List Json)
  | members (first : Bool) (vs : List (String × Json))

/-- A text begins with a phrase that keeps to a limit, and the rest stands behind it. -/
inductive Spells : Limit → Source → Phrase → Source → Prop
  | null {limit text start rest} (htext : skipSpaces text = .char 'n' :: start)
      (hword : word ['u', 'l', 'l'] start = .ok rest) : Spells limit text (.value .null) rest
  | yes {limit text start rest} (htext : skipSpaces text = .char 't' :: start)
      (hword : word ['r', 'u', 'e'] start = .ok rest) :
      Spells limit text (.value (.bool true)) rest
  | no {limit text start rest} (htext : skipSpaces text = .char 'f' :: start)
      (hword : word ['a', 'l', 's', 'e'] start = .ok rest) :
      Spells limit text (.value (.bool false)) rest
  | string {limit text start rest s} (htext : skipSpaces text = .char '"' :: start)
      (hread : Quoted.read start = .ok (s, rest)) : Spells limit text (.value (.string s)) rest
  | number {limit text c start numeral n} (htext : skipSpaces text = .char c :: start)
      (hc : c = '-' ∨ Decimal.isDigit c) (hscan : Numeral.scan (.char c :: start) = .whole numeral)
      (hvalue : numeral.value = .ok n) : Spells limit text (.value (.number n)) numeral.rest
  | array {limit text start rest inner vs} (htext : skipSpaces text = .char '[' :: start)
      (hlimit : limit.enter = some inner) (hitems : Spells inner start (.items true vs) rest) :
      Spells limit text (.value (.array vs)) rest
  | object {limit text start rest inner vs} (htext : skipSpaces text = .char '\x7b' :: start)
      (hlimit : limit.enter = some inner)
      (hmembers : Spells inner start (.members true vs) rest) :
      Spells limit text (.value (.object vs)) rest
  | itemsEnd {limit first text rest} (htext : skipSpaces text = .char ']' :: rest) :
      Spells limit text (.items first []) rest
  | item {limit first text start left rest v vs} (hbehind : Behind first text start)
      (hvalue : Spells limit start (.value v) left)
      (hitems : Spells limit left (.items false vs) rest) :
      Spells limit text (.items first (v :: vs)) rest
  | membersEnd {limit first text rest} (htext : skipSpaces text = .char '\x7d' :: rest) :
      Spells limit text (.members first []) rest
  | member {limit first text key quoted behind start left rest v vs}
      (hbehind : Behind first text quoted) (hquote : skipSpaces quoted = .char '"' :: key)
      {k : String} (hkey : Quoted.read key = .ok (k, behind))
      (hcolon : skipSpaces behind = .char ':' :: start)
      (hvalue : Spells limit start (.value v) left)
      (hmembers : Spells limit left (.members false vs) rest) :
      Spells limit text (.members first ((k, v) :: vs)) rest

namespace Spells

variable {limit : Limit} {phrase : Phrase}

/-- **A text spells the same in front of other text** that makes no numeral longer. -/
theorem append (h : Spells limit text phrase rest) (hends : Ends suffix) :
    Spells limit (text ++ suffix) phrase (rest ++ suffix) := by
  induction h with
  | null htext hword => exact .null (skipSpaces_append htext suffix) (word_append hword suffix)
  | yes htext hword => exact .yes (skipSpaces_append htext suffix) (word_append hword suffix)
  | no htext hword => exact .no (skipSpaces_append htext suffix) (word_append hword suffix)
  | string htext hread =>
    exact .string (skipSpaces_append htext suffix) (Quoted.local_read.append hread suffix)
  | number htext hc hscan hvalue =>
    refine .number (skipSpaces_append htext suffix) hc (Numeral.scan_append hends hscan) ?_
    rw [← toOption_eq_some, Numeral.value_followedBy, toOption_eq_some]
    exact hvalue
  | array htext hlimit _ ih => exact .array (skipSpaces_append htext suffix) hlimit ih
  | object htext hlimit _ ih => exact .object (skipSpaces_append htext suffix) hlimit ih
  | itemsEnd htext => exact .itemsEnd (skipSpaces_append htext suffix)
  | item hbehind _ _ ihvalue ihitems => exact .item (hbehind.append suffix) ihvalue ihitems
  | membersEnd htext => exact .membersEnd (skipSpaces_append htext suffix)
  | member hbehind hquote hkey hcolon _ _ ihvalue ihmembers =>
    exact .member (hbehind.append suffix) (skipSpaces_append hquote suffix)
      (Quoted.local_read.append hkey suffix) (skipSpaces_append hcolon suffix) ihvalue ihmembers

/-- What a text spells within a limit it spells without one. -/
theorem unlimited (h : Spells limit text phrase rest) : Spells none text phrase rest := by
  induction h with
  | null htext hword => exact .null htext hword
  | yes htext hword => exact .yes htext hword
  | no htext hword => exact .no htext hword
  | string htext hread => exact .string htext hread
  | number htext hc hscan hvalue => exact .number htext hc hscan hvalue
  | array htext _ _ ih => exact .array htext rfl ih
  | object htext _ _ ih => exact .object htext rfl ih
  | itemsEnd htext => exact .itemsEnd htext
  | item hbehind _ _ ihvalue ihitems => exact .item hbehind ihvalue ihitems
  | membersEnd htext => exact .membersEnd htext
  | member hbehind hquote hkey hcolon _ _ ihvalue ihmembers =>
    exact .member hbehind hquote hkey hcolon ihvalue ihmembers

/-- Blanks in front of a phrase make no difference. -/
theorem of_skipSpaces (h : Spells limit text phrase rest) {text' : Source}
    (htext' : skipSpaces text' = skipSpaces text) : Spells limit text' phrase rest := by
  induction h with
  | null htext hword => exact .null (htext'.trans htext) hword
  | yes htext hword => exact .yes (htext'.trans htext) hword
  | no htext hword => exact .no (htext'.trans htext) hword
  | string htext hread => exact .string (htext'.trans htext) hread
  | number htext hc hscan hvalue => exact .number (htext'.trans htext) hc hscan hvalue
  | array htext hlimit hitems => exact .array (htext'.trans htext) hlimit hitems
  | object htext hlimit hmembers => exact .object (htext'.trans htext) hlimit hmembers
  | itemsEnd htext => exact .itemsEnd (htext'.trans htext)
  | item hbehind hvalue hitems ihvalue =>
    cases hbehind with
    | first => exact .item (.first text') (ihvalue htext') hitems
    | comma htext => exact .item (.comma (htext'.trans htext)) hvalue hitems
  | membersEnd htext => exact .membersEnd (htext'.trans htext)
  | member hbehind hquote hkey hcolon hvalue hmembers =>
    cases hbehind with
    | first => exact .member (.first text') (htext'.trans hquote) hkey hcolon hvalue hmembers
    | comma htext => exact .member (.comma (htext'.trans htext)) hquote hkey hcolon hvalue hmembers

/-- A phrase is not empty, so less stands behind it than was there. -/
theorem length_lt (h : Spells limit text phrase rest) : rest.length < text.length := by
  induction h with
  | null htext hword => exact length_lt_of_skipSpaces htext (length_word_le hword)
  | yes htext hword => exact length_lt_of_skipSpaces htext (length_word_le hword)
  | no htext hword => exact length_lt_of_skipSpaces htext (length_word_le hword)
  | string htext hread => exact length_lt_of_skipSpaces htext (Quoted.local_read.length_le hread)
  | number htext _ hscan _ =>
    exact length_lt_of_skipSpaces htext (Nat.le_of_lt_succ (Numeral.length_rest_lt hscan))
  | array htext _ _ ih => exact length_lt_of_skipSpaces htext (Nat.le_of_lt ih)
  | object htext _ _ ih => exact length_lt_of_skipSpaces htext (Nat.le_of_lt ih)
  | itemsEnd htext => exact length_lt_of_skipSpaces htext (Nat.le_refl _)
  | item hbehind _ _ ihvalue ihitems =>
    exact Nat.lt_of_lt_of_le (Nat.lt_trans ihitems ihvalue) hbehind.length_le
  | membersEnd htext => exact length_lt_of_skipSpaces htext (Nat.le_refl _)
  | member hbehind hquote hkey hcolon _ _ ihvalue ihmembers =>
    have hstart := length_lt_of_skipSpaces hcolon (Nat.le_refl _)
    have hquoted := length_lt_of_skipSpaces hquote (Quoted.local_read.length_le hkey)
    have hlength := hbehind.length_le
    omega

/-- No value begins with a bracket that closes an array. -/
theorem exists_cons {v : Json} (h : Spells limit text (.value v) rest) :
    ∃ c start, skipSpaces text = .char c :: start ∧ c ≠ ']' := by
  cases h with
  | null htext => exact ⟨_, _, htext, by decide⟩
  | yes htext => exact ⟨_, _, htext, by decide⟩
  | no htext => exact ⟨_, _, htext, by decide⟩
  | string htext => exact ⟨_, _, htext, by decide⟩
  | number htext hc =>
    refine ⟨_, _, htext, ?_⟩
    rintro rfl
    exact absurd hc (by decide)
  | array htext => exact ⟨_, _, htext, by decide⟩
  | object htext => exact ⟨_, _, htext, by decide⟩

end Spells

end ServiceWorker.Json
