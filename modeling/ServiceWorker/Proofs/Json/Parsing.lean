import Mathlib.Data.List.DropRight
import ServiceWorker.Proofs.Json.Grammar

/-!
# Parsing follows the grammar

A text is parsed with fuel, into a tree that breaks off where the text stops being JSON. What has
a value is what the grammar derives: every step of the parser that is not a break is one of its
rules, and a rule costs one unit of fuel, of which there are two for each symbol of the text.

## Main definitions

* `Json.Parses`: a parser makes a phrase of a text

## Main results

* `Json.spells_of_parse`: what is parsed and has a value is spelled by the text
* `Json.Spells.parses`: and what a text spells is parsed
* `Json.readText_value_eq_ok`: the value of a text is the one that it spells
-/

namespace ServiceWorker.Json

open Text (Symbol)

variable {text left : Source} {first : Bool} {rest start : Source}

/-- What a parser makes of a text is a phrase. -/
def Parses (limit : Limit) (fuel : Nat) (text : Source) (left : Option Source) : Phrase → Prop
  | .value v => ∃ tree, parseValue fuel text = (tree, left) ∧ tree.read limit = .ok v
  | .items first vs =>
    ∃ items, parseItems fuel first text = (items, left) ∧ items.read limit = .ok vs
  | .members first vs =>
    ∃ members, parseMembers fuel first text = (members, left) ∧ members.read limit = .ok vs

theorem parseValue_skipSpaces (fuel : Nat) (text : Source) :
    parseValue fuel (skipSpaces text) = parseValue fuel text := by
  cases fuel with
  | zero => rfl
  | succ fuel =>
    rw [parseValue, parseValue, skipSpaces, skipSpaces, List.dropWhile_idempotent]

section Parsing

variable {limit : Limit} {v : Json} {t : Tree} {remains : Option Source}

/-- A word that is read stands in the text. -/
theorem word_of_ofWord {letters : List Char} {tree : Source → Tree}
    (h : Tree.ofWord letters text tree = (t, remains)) (hread : t.read limit = .ok v) :
    ∃ rest, word letters text = .ok rest ∧ tree rest = t ∧ some rest = remains := by
  unfold Tree.ofWord at h
  split at h
  next rest hword =>
    obtain ⟨rfl, rfl⟩ := Prod.mk.inj h
    exact ⟨rest, hword, rfl, rfl⟩
  next =>
    obtain ⟨rfl, -⟩ := Prod.mk.inj h
    cases hread

/-- So does a string, -/
theorem read_of_ofQuoted (h : Tree.ofQuoted text = (t, remains)) (hread : t.read limit = .ok v) :
    ∃ s rest, Quoted.read text = .ok (s, rest) ∧ .string s = v ∧ some rest = remains := by
  unfold Tree.ofQuoted at h
  split at h
  next s rest hscan =>
    obtain ⟨rfl, rfl⟩ := Prod.mk.inj h
    obtain ⟨s, rfl, rfl⟩ := map_eq_ok.mp hread
    exact ⟨s, rest, Quoted.scan_eq_whole_ok.mp hscan, rfl, rfl⟩
  next =>
    obtain ⟨rfl, -⟩ := Prod.mk.inj h
    cases hread

/-- and a number. -/
theorem scan_of_ofNumeral (h : Tree.ofNumeral text = (t, remains)) (hread : t.read limit = .ok v) :
    ∃ numeral n, Numeral.scan text = .whole numeral ∧ numeral.value = .ok n ∧ .number n = v ∧
      some numeral.rest = remains := by
  unfold Tree.ofNumeral at h
  split at h
  next numeral hscan =>
    obtain ⟨rfl, rfl⟩ := Prod.mk.inj h
    obtain ⟨n, hvalue, rfl⟩ := map_eq_ok.mp hread
    exact ⟨numeral, n, hscan, hvalue, rfl, rfl⟩
  next =>
    obtain ⟨rfl, -⟩ := Prod.mk.inj h
    cases hread

end Parsing

/-- With some fuel, what is parsed and has a value is spelled by the text. -/
def Sound (fuel : Nat) : Prop :=
  ∀ ⦃limit text remains⦄ (phrase : Phrase), Parses limit fuel text remains phrase →
    ∃ rest, remains = some rest ∧ Spells limit text phrase rest

section Sound

variable {limit : Limit} {fuel : Nat} {remains : Option Source}

/-- What is parsed as a value spells one. -/
theorem Sound.value (ih : Sound fuel) {v : Json}
    (h : Parses limit (fuel + 1) text remains (.value v)) :
    ∃ rest, remains = some rest ∧ Spells limit text (.value v) rest := by
  obtain ⟨tree, hparse, hread⟩ := h
  unfold parseValue at hparse
  split at hparse
  next =>
    cases hparse
    cases hread
  next start htext =>
    obtain ⟨rest, hword, rfl, rfl⟩ := word_of_ofWord hparse hread
    cases hread
    exact ⟨rest, rfl, .null htext hword⟩
  next start htext =>
    obtain ⟨rest, hword, rfl, rfl⟩ := word_of_ofWord hparse hread
    cases hread
    exact ⟨rest, rfl, .yes htext hword⟩
  next start htext =>
    obtain ⟨rest, hword, rfl, rfl⟩ := word_of_ofWord hparse hread
    cases hread
    exact ⟨rest, rfl, .no htext hword⟩
  next start htext =>
    obtain ⟨s, rest, hstring, rfl, rfl⟩ := read_of_ofQuoted hparse hread
    exact ⟨rest, rfl, .string htext hstring⟩
  next start htext =>
    obtain ⟨rfl, rfl⟩ := Prod.mk.inj hparse
    obtain ⟨inner, hlimit, vs, hitems, rfl⟩ := Tree.read_array.mp hread
    obtain ⟨rest, hremains, hspells⟩ := ih (.items true vs) ⟨_, rfl, hitems⟩
    exact ⟨rest, hremains, .array htext hlimit hspells⟩
  next start htext =>
    obtain ⟨rfl, rfl⟩ := Prod.mk.inj hparse
    obtain ⟨inner, hlimit, vs, hmembers, rfl⟩ := Tree.read_object.mp hread
    obtain ⟨rest, hremains, hspells⟩ := ih (.members true vs) ⟨_, rfl, hmembers⟩
    exact ⟨rest, hremains, .object htext hlimit hspells⟩
  next c start _ _ _ _ _ _ htext =>
    split at hparse
    next hc =>
      obtain ⟨numeral, n, hscan, hvalue, rfl, rfl⟩ := scan_of_ofNumeral hparse hread
      exact ⟨numeral.rest, rfl, .number htext hc hscan hvalue⟩
    next =>
      cases hparse
      cases hread
  next =>
    cases hparse
    cases hread

/-- What is parsed as items spells items. -/
theorem Sound.items (ih : Sound fuel) {vs : List Json}
    (h : Parses limit (fuel + 1) text remains (.items first vs)) :
    ∃ rest, remains = some rest ∧ Spells limit text (.items first vs) rest := by
  obtain ⟨items, hparse, hread⟩ := h
  unfold parseItems at hparse
  split at hparse
  next rest hnext =>
    cases hparse
    cases hread
    exact ⟨rest, rfl, .itemsEnd (Next.ofItems_eq_close.mp hnext)⟩
  next =>
    cases hparse
    cases hread
  next start hnext =>
    obtain ⟨quoted, hbehind, rfl, -, -⟩ := Next.ofItems_eq_item.mp hnext
    rw [parseValue_skipSpaces] at hparse
    split at hparse
    next head left hhead =>
      obtain ⟨rfl, rfl⟩ := Prod.mk.inj hparse
      simp only [Items.read, bind_eq_ok, Except.ok.injEq] at hread
      obtain ⟨v, hv, vs, hvs, rfl⟩ := hread
      obtain ⟨left, hleft, hvalue⟩ := ih (.value v) ⟨head, hhead, hv⟩
      obtain rfl := Option.some.inj hleft
      obtain ⟨rest, hremains, hitems⟩ := ih (.items false vs) ⟨_, rfl, hvs⟩
      exact ⟨rest, hremains, .item hbehind hvalue hitems⟩
    next =>
      -- Nothing is read behind an item that breaks off.
      cases hparse
      simp [Items.read, bind_eq_ok] at hread

/-- What is parsed as members spells members. -/
theorem Sound.members (ih : Sound fuel) {vs : List (String × Json)}
    (h : Parses limit (fuel + 1) text remains (.members first vs)) :
    ∃ rest, remains = some rest ∧ Spells limit text (.members first vs) rest := by
  obtain ⟨members, hparse, hread⟩ := h
  unfold parseMembers at hparse
  split at hparse
  next rest hnext =>
    cases hparse
    cases hread
    exact ⟨rest, rfl, .membersEnd (Next.ofMembers_eq_close.mp hnext)⟩
  next =>
    cases hparse
    cases hread
  next start hnext =>
    obtain ⟨quoted, hbehind, hquote⟩ := Next.ofMembers_eq_item.mp hnext
    split at hparse
    next =>
      cases hparse
      cases hread
    next key behind hkey =>
      split at hparse
      next start hcolon =>
        split at hparse
        next value left hvalue =>
          obtain ⟨rfl, rfl⟩ := Prod.mk.inj hparse
          simp only [Members.read, bind_eq_ok, Except.ok.injEq] at hread
          obtain ⟨k, rfl, v, hv, ms, hms, rfl⟩ := hread
          obtain ⟨left, hleft, hvalue⟩ := ih (.value v) ⟨value, hvalue, hv⟩
          obtain rfl := Option.some.inj hleft
          obtain ⟨rest, hremains, hmembers⟩ := ih (.members false ms) ⟨_, rfl, hms⟩
          exact ⟨rest, hremains, .member hbehind hquote (Quoted.scan_eq_whole_ok.mp hkey) hcolon
            hvalue hmembers⟩
        next =>
          cases hparse
          simp [Members.read, bind_eq_ok] at hread
      next =>
        cases hparse
        simp [Members.read, bind_eq_ok] at hread

/-- **What is parsed and has a value is spelled by the text**, and a rest stands behind it. -/
theorem spells_of_parse (fuel : Nat) : Sound fuel := by
  induction fuel with
  | zero =>
    intro limit text remains phrase h
    -- Without fuel nothing is read.
    cases phrase <;>
    · obtain ⟨tree, hparse, hread⟩ := h
      cases hparse
      cases hread
  | succ fuel ih =>
    intro limit text remains phrase h
    cases phrase with
    | value v => exact ih.value h
    | items first vs => exact ih.items h
    | members first vs => exact ih.members h

end Sound

section Complete

variable {limit : Limit}

theorem parseValue_word {letters : List Char} {tree : Source → Tree} {start : Source}
    (hword : word letters start = .ok rest) :
    Tree.ofWord letters start tree = (tree rest, some rest) := by
  rw [Tree.ofWord, hword]

theorem parseValue_numeral {c : Char} {start : Source} {numeral : Numeral} {n : Number}
    (htext : skipSpaces text = .char c :: start) (hc : c = '-' ∨ Decimal.isDigit c)
    (hscan : Numeral.scan (.char c :: start) = .whole numeral) (hvalue : numeral.value = .ok n)
    (fuel : Nat) :
    parseValue (fuel + 1) text = (.number (.ok n) numeral.rest, some numeral.rest) := by
  -- Nothing else that a value begins with begins a numeral.
  have hother : ∀ {d left}, Symbol.char c :: start = .char d :: left →
      ¬(d = '-' ∨ Decimal.isDigit d = true) → False := by
    intro d left heq hd
    cases heq
    exact hd hc
  rw [parseValue, htext]
  split
  next heq => cases heq
  next heq => exact (hother heq (by decide)).elim
  next heq => exact (hother heq (by decide)).elim
  next heq => exact (hother heq (by decide)).elim
  next heq => exact (hother heq (by decide)).elim
  next heq => exact (hother heq (by decide)).elim
  next heq => exact (hother heq (by decide)).elim
  next heq =>
    cases heq
    rw [if_pos hc, Tree.ofNumeral, hscan]
    show (Tree.number numeral.value numeral.rest, some numeral.rest) = _
    rw [hvalue]
  next hno heq => exact (hno c (List.cons.inj heq).1.symm).elim

/-! Each rule of the grammar is a step of the parser, for one unit of fuel. -/

section Rules

variable {fuel : Nat} {inner : Limit} {v : Json}

/-- An array is parsed if its items are. -/
theorem Parses.array {vs : List Json} (htext : skipSpaces text = .char '[' :: start)
    (hlimit : limit.enter = some inner)
    (h : Parses inner fuel start (some rest) (.items true vs)) :
    Parses limit (fuel + 1) text (some rest) (.value (.array vs)) := by
  obtain ⟨items, hparse, hread⟩ := h
  refine ⟨.array (.char '[' :: start) items, ?_,
    Tree.read_array.mpr ⟨inner, hlimit, vs, hread, rfl⟩⟩
  rw [parseValue, htext]
  show (Tree.array _ (parseItems fuel true start).1, (parseItems fuel true start).2) = _
  rw [hparse]

/-- An object is parsed if its members are. -/
theorem Parses.object {vs : List (String × Json)}
    (htext : skipSpaces text = .char '\x7b' :: start) (hlimit : limit.enter = some inner)
    (h : Parses inner fuel start (some rest) (.members true vs)) :
    Parses limit (fuel + 1) text (some rest) (.value (.object vs)) := by
  obtain ⟨members, hparse, hread⟩ := h
  refine ⟨.object (.char '\x7b' :: start) members, ?_,
    Tree.read_object.mpr ⟨inner, hlimit, vs, hread, rfl⟩⟩
  rw [parseValue, htext]
  show (Tree.object _ (parseMembers fuel true start).1, (parseMembers fuel true start).2) = _
  rw [hparse]

/-- An item is parsed if its value is and the items behind it are. -/
theorem Parses.item {vs : List Json} (hbehind : Behind first text start)
    (hvalue : Spells limit start (.value v) left)
    (h : Parses limit fuel start (some left) (.value v))
    (hitems : Parses limit fuel left (some rest) (.items false vs)) :
    Parses limit (fuel + 1) text (some rest) (.items first (v :: vs)) := by
  obtain ⟨head, hparse, hread⟩ := h
  obtain ⟨tail, hparse', hread'⟩ := hitems
  obtain ⟨c, front, hfront, hc⟩ := hvalue.exists_cons
  have hclose : ∀ left, skipSpaces start ≠ .char ']' :: left := fun left hleft =>
    hc (Symbol.char.inj (List.cons.inj (hfront.symm.trans hleft)).1)
  have hnext : Next.ofItems first text = .item (skipSpaces start) :=
    Next.ofItems_eq_item.mpr ⟨start, hbehind, rfl, by simp [hfront], hclose⟩
  refine ⟨.cons (skipSpaces start) head tail, ?_, ?_⟩
  · rw [parseItems, hnext]
    simp only [parseValue_skipSpaces, hparse, hparse']
  · simp only [Items.read, hread, hread', bind, Except.bind]

/-- A member is parsed if its key and its value are and the members behind it are. -/
theorem Parses.member {vs : List (String × Json)} {quoted key behind : Source} {k : String}
    (hbehind : Behind first text quoted) (hquote : skipSpaces quoted = .char '"' :: key)
    (hkey : Quoted.read key = .ok (k, behind)) (hcolon : skipSpaces behind = .char ':' :: start)
    (h : Parses limit fuel start (some left) (.value v))
    (hmembers : Parses limit fuel left (some rest) (.members false vs)) :
    Parses limit (fuel + 1) text (some rest) (.members first ((k, v) :: vs)) := by
  obtain ⟨value, hparse, hread⟩ := h
  obtain ⟨tail, hparse', hread'⟩ := hmembers
  refine ⟨.cons (.ok k) (.char ':' :: start) value tail, ?_, ?_⟩
  · rw [parseMembers, Next.ofMembers_eq_item.mpr ⟨quoted, hbehind, hquote⟩]
    simp only [Quoted.scan_eq_whole_ok.mpr hkey, hcolon, hparse, hparse']
  · simp only [Members.read, hread, hread', bind, Except.bind]

end Rules

/-- **What a text spells is parsed**, with fuel for twice the symbols that it takes. -/
theorem Spells.parses {phrase : Phrase} (h : Spells limit text phrase rest) (fuel : Nat)
    (hfuel : 2 * text.length ≤ fuel + 2 * rest.length) :
    Parses limit fuel text (some rest) phrase := by
  induction fuel generalizing limit text phrase rest with
  | zero =>
    have hlength := h.length_lt
    omega
  | succ fuel ih =>
    cases h with
    | null htext hword =>
      refine ⟨.null rest, ?_, rfl⟩
      rw [parseValue, htext]
      exact parseValue_word hword
    | yes htext hword =>
      refine ⟨.bool true rest, ?_, rfl⟩
      rw [parseValue, htext]
      exact parseValue_word hword
    | no htext hword =>
      refine ⟨.bool false rest, ?_, rfl⟩
      rw [parseValue, htext]
      exact parseValue_word hword
    | @string _ _ start _ s htext hread =>
      refine ⟨.string (.ok s) rest, ?_, rfl⟩
      rw [parseValue, htext]
      show Tree.ofQuoted start = _
      rw [Tree.ofQuoted, Quoted.scan_eq_whole_ok.mpr hread]
    | number htext hc hscan hvalue =>
      exact ⟨_, parseValue_numeral htext hc hscan hvalue fuel, rfl⟩
    | array htext hlimit hitems =>
      -- The bracket is a symbol of its own, so there is fuel for what stands behind it.
      have hstart := length_lt_of_skipSpaces htext (Nat.le_refl _)
      exact Parses.array htext hlimit (ih hitems (by omega))
    | object htext hlimit hmembers =>
      have hstart := length_lt_of_skipSpaces htext (Nat.le_refl _)
      exact Parses.object htext hlimit (ih hmembers (by omega))
    | itemsEnd htext =>
      refine ⟨.closed rest, ?_, rfl⟩
      rw [parseItems, Next.ofItems_eq_close.mpr htext]
    | item hbehind hvalue hitems =>
      have hstart := hbehind.length_le
      have hhead := hvalue.length_lt
      have htail := hitems.length_lt
      exact Parses.item hbehind hvalue (ih hvalue (by omega)) (ih hitems (by omega))
    | membersEnd htext =>
      refine ⟨.closed rest, ?_, rfl⟩
      rw [parseMembers, Next.ofMembers_eq_close.mpr htext]
    | member hbehind hquote hkey hcolon hvalue hmembers =>
      have hstart := length_lt_of_skipSpaces hcolon (Nat.le_refl _)
      have hquoted := length_lt_of_skipSpaces hquote (Quoted.local_read.length_le hkey)
      have hlength := hbehind.length_le
      have hhead := hvalue.length_lt
      have htail := hmembers.length_lt
      exact Parses.member hbehind hquote hkey hcolon (ih hvalue (by omega))
        (ih hmembers (by omega))

/-- **A text that spells a value is parsed as a whole**, and its tree has the value. -/
theorem Spells.tree {v : Json} (h : Spells limit text (.value v) rest) :
    ∃ tree, Tree.parse text = (tree, some rest) ∧ tree.read limit = .ok v :=
  h.parses (2 * text.length + 2) (by omega)

/-- **The value of a text is the one that it spells**, with nothing but blanks behind it. -/
theorem readText_value_eq_ok {v : Json} :
    readText Reader.value text = .ok v ↔
      ∃ rest, Spells Limit.ofText text (.value v) rest ∧ skipSpaces rest = [] := by
  rw [readText_eq_ok, Reader.value, mapError_eq_ok]
  constructor
  · rintro ⟨hread, hend⟩
    have hparses : Parses Limit.ofText (2 * text.length + 2) text (Tree.parse text).2 (.value v) :=
      ⟨(Tree.parse text).1, rfl, hread⟩
    obtain ⟨rest, hrest, hspells⟩ := spells_of_parse _ _ hparses
    rw [hrest] at hend
    exact ⟨rest, hspells, hend⟩
  · rintro ⟨rest, hspells, hend⟩
    obtain ⟨tree, hparse, hread⟩ := hspells.tree
    rw [hparse]
    exact ⟨hread, hend⟩

end Complete

end ServiceWorker.Json
