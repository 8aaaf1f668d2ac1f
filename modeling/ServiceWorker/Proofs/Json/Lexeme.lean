import ServiceWorker.Proofs.Json.Quoted
import ServiceWorker.Proofs.Json.Reading

/-!
# Strings and words in front of other text

A string ends with its quote and a word with its last letter. So they are taken from the front of a
text, and what stands behind them makes no difference.

## Main definitions

* `Json.Local`: a reader takes its value from the front of a text, whatever stands behind it

## Main results

* `Json.Quoted.local_read`: so a string is read
* `Json.word_append`: a word is the same in front of other text
* `Json.skipSpaces_append`: a text with something other than blanks begins with it in front of
  other text as well
-/

namespace ServiceWorker.Json

open Text (Symbol)

variable {α : Type} {text left suffix : Source}

/-! ## Local readers -/

/-- A reader takes its value from the front of a text, whatever stands behind it. -/
def Local (read : Source → Except Fault (α × Source)) : Prop :=
  ∀ ⦃text a left⦄, read text = .ok (a, left) →
    ∃ front, text = front ++ left ∧ ∀ rest, read (front ++ rest) = .ok (a, rest)

namespace Local

variable {read : Source → Except Fault (α × Source)} {a : α}

/-- What is read is read in front of other text as well, which is left behind it. -/
theorem append (hlocal : Local read) (h : read text = .ok (a, left)) (suffix : Source) :
    read (text ++ suffix) = .ok (a, left ++ suffix) := by
  obtain ⟨front, rfl, hfront⟩ := hlocal h
  rw [List.append_assoc, hfront]

/-- No more is left than there was. -/
theorem length_le (hlocal : Local read) (h : read text = .ok (a, left)) :
    left.length ≤ text.length := by
  obtain ⟨front, rfl, -⟩ := hlocal h
  rw [List.length_append]
  exact Nat.le_add_left _ _

end Local

/-! ## Strings -/

namespace Quoted

/-- The four digits of an escape are taken from the front. -/
theorem local_hexEscape : Local hexEscape := by
  intro text n left h
  obtain ⟨cs, rfl, hvalue⟩ := hexEscape_eq_ok.mp h
  exact ⟨cs.map .char, rfl, fun rest => hexEscape_eq_ok.mpr ⟨cs, rfl, hvalue⟩⟩

/-- So is the trailing half of a pair, which has an escape of its own. -/
theorem local_pairEscape (leading : Nat) : Local (pairEscape leading) := by
  intro text c left h
  unfold pairEscape at h
  split at h
  next => cases h
  next => cases h
  next text =>
    obtain ⟨⟨n, left'⟩, hescape, hn⟩ := bind_eq_ok.mp h
    obtain ⟨front, rfl, hfront⟩ := local_hexEscape hescape
    dsimp only at hn
    split at hn
    next htrailing =>
      obtain ⟨rfl, rfl⟩ := Prod.mk.inj (Except.ok.inj hn)
      refine ⟨.char '\\' :: .char 'u' :: front, rfl, fun rest => ?_⟩
      rw [List.cons_append, List.cons_append, pairEscape, hfront]
      exact if_pos htrailing
    next => cases hn
  next => cases h
  next => cases h

/-- So is an escape with all that belongs to it. -/
theorem local_unescape : Local unescape := by
  intro text c left h
  unfold unescape at h
  split at h
  next => cases h
  next text =>
    obtain ⟨⟨n, left'⟩, hescape, hn⟩ := bind_eq_ok.mp h
    obtain ⟨front, rfl, hfront⟩ := local_hexEscape hescape
    dsimp only at hn
    split_ifs at hn with htrailing hleading
    · -- The trailing half of a pair stands behind the leading one.
      obtain ⟨front', rfl, hfront'⟩ := local_pairEscape n hn
      refine ⟨.char 'u' :: (front ++ front'), by simp, fun rest => ?_⟩
      rw [List.cons_append, List.append_assoc, unescape, hfront]
      simp only [bind, Except.bind, if_neg htrailing, if_pos hleading, hfront']
    · cases hn
      refine ⟨.char 'u' :: front, rfl, fun rest => ?_⟩
      rw [List.cons_append, unescape, hfront]
      simp only [bind, Except.bind, if_neg htrailing, if_neg hleading]
  next d rest hu =>
    split at h
    next e hshort =>
      cases h
      refine ⟨[.char d], rfl, fun rest => ?_⟩
      rw [List.singleton_append, unescape, hshort]
      exact hu
    next => cases h
  next => cases h

/-- The symbols of a string are taken from the front; every symbol needs fuel once. -/
theorem readSymbols_front {fuel : Nat} {symbols : Source}
    (h : readSymbols fuel text = .ok (symbols, left)) :
    ∃ front, text = front ++ left ∧ ∀ rest fuel', front.length < fuel' →
      readSymbols fuel' (front ++ rest) = .ok (symbols, rest) := by
  induction fuel generalizing text symbols with
  | zero => cases h
  | succ fuel ih =>
    unfold readSymbols at h
    split at h
    next => cases h
    next =>
      cases h
      refine ⟨[.char '"'], rfl, fun rest fuel' hfuel => ?_⟩
      obtain ⟨fuel', rfl⟩ := Nat.exists_eq_succ_of_ne_zero (Nat.ne_zero_of_lt hfuel)
      rfl
    next =>
      obtain ⟨⟨c, left'⟩, hescape, h⟩ := bind_eq_ok.mp h
      obtain ⟨⟨symbols, left⟩, hsymbols, h⟩ := bind_eq_ok.mp h
      cases h
      obtain ⟨front, rfl, hfront⟩ := local_unescape hescape
      obtain ⟨front', rfl, hfront'⟩ := ih hsymbols
      refine ⟨.char '\\' :: (front ++ front'), by simp, fun rest fuel' hfuel => ?_⟩
      obtain ⟨fuel', rfl⟩ := Nat.exists_eq_succ_of_ne_zero (Nat.ne_zero_of_lt hfuel)
      rw [List.length_cons, List.length_append] at hfuel
      rw [List.cons_append, List.append_assoc, readSymbols, hfront]
      simp only [bind, Except.bind, hfront' rest fuel' (by omega)]
    next s text hquote hbackslash =>
      -- Any other symbol is kept as it is, unless it is a control character.
      have hkept : (∀ c, s.toChar? = some c → ¬c.toNat < 32) ∧
          ∃ p, readSymbols fuel text = .ok p ∧ (s :: p.1, p.2) = (symbols, left) := by
        split at h
        next c hc =>
          split_ifs at h with hcontrol
          exact ⟨fun d hd => by rwa [Option.some.inj (hd.symm.trans hc)], map_eq_ok.mp h⟩
        next hc => exact ⟨fun d hd => by simp [hc] at hd, map_eq_ok.mp h⟩
      obtain ⟨hcontrol, ⟨symbols, left⟩, hsymbols, hs⟩ := hkept
      cases hs
      obtain ⟨front, rfl, hfront⟩ := ih hsymbols
      refine ⟨s :: front, rfl, fun rest fuel' hfuel => ?_⟩
      obtain ⟨fuel', rfl⟩ := Nat.exists_eq_succ_of_ne_zero (Nat.ne_zero_of_lt hfuel)
      have hrest := hfront rest fuel' (Nat.lt_of_succ_lt_succ hfuel)
      rw [List.cons_append, readSymbols]
      · split
        next c hc =>
          rw [if_neg (hcontrol c hc), hrest]
          rfl
        next =>
          rw [hrest]
          rfl
      · exact hquote
      · exact hbackslash

/-- **A string is taken from the front of a text**, whatever stands behind it. -/
theorem local_read : Local read := by
  intro text s left h
  obtain ⟨⟨symbols, left'⟩, hsymbols, hstring⟩ := bind_eq_ok.mp h
  obtain ⟨front, rfl, hfront⟩ := readSymbols_front hsymbols
  dsimp only at hstring
  split at hstring
  next hs =>
    cases hstring
    refine ⟨front, rfl, fun rest => bind_eq_ok.mpr ⟨_, hfront rest _ ?_, ?_⟩⟩
    · rw [List.length_append]
      omega
    · dsimp only
      rw [hs]
  next => cases hstring

/-- A string that is whole is one that can be read. -/
theorem scan_eq_whole_ok {s : String} :
    scan text = .whole (.ok s, left) ↔ read text = .ok (s, left) := by
  unfold scan
  split
  next h => simp [h]
  next h h' => simp [h]
  next h h' => simp [h]

end Quoted

/-! ## Words and blanks -/

/-- A text has a word at its front if it begins with its letters. -/
theorem word_eq_ok {cs : List Char} {rest : Source} :
    word cs text = .ok rest ↔ text = cs.map .char ++ rest := by
  induction cs generalizing text with
  | nil => simp [word]
  | cons c cs ih =>
    cases text with
    | nil => simp [word]
    | cons s text =>
      rw [word]
      split_ifs with hs
      · simp [ih, hs]
      · simp [hs]

/-- A word is the same in front of other text. -/
theorem word_append {cs : List Char} {rest : Source} (h : word cs text = .ok rest)
    (suffix : Source) : word cs (text ++ suffix) = .ok (rest ++ suffix) := by
  rw [word_eq_ok] at h ⊢
  rw [h, List.append_assoc]

theorem length_word_le {cs : List Char} {rest : Source} (h : word cs text = .ok rest) :
    rest.length ≤ text.length := by
  rw [word_eq_ok.mp h, List.length_append]
  exact Nat.le_add_left _ _

/-- Blanks end at the first symbol that is none, whatever stands behind it. -/
theorem skipSpaces_append {s : Symbol} {rest : Source} (h : skipSpaces text = s :: rest)
    (suffix : Source) : skipSpaces (text ++ suffix) = s :: (rest ++ suffix) := by
  unfold skipSpaces at h ⊢
  rw [List.dropWhile_append, h]
  rfl

/-- Where all is blank, the blanks of what follows are skipped as well. -/
theorem skipSpaces_append_of_nil (h : skipSpaces text = []) (suffix : Source) :
    skipSpaces (text ++ suffix) = skipSpaces suffix := by
  unfold skipSpaces at h ⊢
  rw [List.dropWhile_append, h]
  rfl

end ServiceWorker.Json
