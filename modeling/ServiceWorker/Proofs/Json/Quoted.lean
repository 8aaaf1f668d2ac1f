import ServiceWorker.Json.Quoted
import ServiceWorker.Proofs.Text.Hex

/-!
# Quoted strings are read back

## Main results

* `Json.Quoted.readSymbols_escape`: a character is read back as it was written
* `Json.Quoted.scan_encode`: every string is read back from its quotes, whatever stands behind them
-/

namespace ServiceWorker

open Text (Symbol Hex.digit Hex.value?)

/-! ## Escapes -/

theorem Text.Symbol.mapM_toChar? {symbols : List Symbol} {cs : List Char} :
    symbols.mapM toChar? = some cs ↔ symbols = cs.map char := by
  induction symbols generalizing cs with
  | nil => simp [eq_comm]
  | cons s symbols ih =>
    rw [List.mapM_cons]
    cases s with
    | stray b => cases cs <;> simp [toChar?]
    | char c => cases cs <;> simp [Option.bind_eq_some_iff, ih, and_comm, and_assoc]

namespace Json

theorem dropBytes_cons {s : Symbol} (h : s.width = 1) (n : Nat) (rest : Source) :
    dropBytes (n + 1) (s :: rest) = dropBytes n rest := by
  rw [dropBytes, h, if_pos (Nat.le_add_left 1 n), Nat.add_sub_cancel]

namespace Quoted

/-- A hexadecimal number has four digits, each one byte long. -/
theorem hexValue?_eq_some {cs : List Char} {n : Nat} (h : hexValue? cs = some n) :
    ∃ a b c d, cs = [a, b, c, d] ∧ a.utf8Size = 1 ∧ b.utf8Size = 1 ∧ c.utf8Size = 1 ∧
      d.utf8Size = 1 := by
  unfold hexValue? at h
  split at h
  next a b c d =>
    simp only [Option.bind_eq_bind, Option.bind_eq_some_iff] at h
    obtain ⟨_, ha, _, hb, _, hc, _, hd, -⟩ := h
    exact ⟨a, b, c, d, rfl, Text.Hex.utf8Size_of_value? ha, Text.Hex.utf8Size_of_value? hb,
      Text.Hex.utf8Size_of_value? hc, Text.Hex.utf8Size_of_value? hd⟩
  next => cases h

/-- An escape has four digits, and nothing else is dropped. -/
theorem hexEscape_eq_ok {text left : Source} {n : Nat} : hexEscape text = .ok (n, left) ↔
    ∃ cs, text = cs.map .char ++ left ∧ hexValue? cs = some n := by
  have hdigits : ∀ cs, hexValue? cs = some n → ∀ rest : Source,
      dropBytes 4 (cs.map .char ++ rest) = some rest ∧
        (cs.map Symbol.char ++ rest).take 4 = cs.map .char := by
    intro cs hcs rest
    obtain ⟨a, b, c, d, rfl, ha, hb, hc, hd⟩ := hexValue?_eq_some hcs
    refine ⟨?_, rfl⟩
    show dropBytes 4 (.char a :: .char b :: .char c :: .char d :: rest) = some rest
    rw [dropBytes_cons (s := .char a) ha, dropBytes_cons (s := .char b) hb,
      dropBytes_cons (s := .char c) hc, dropBytes_cons (s := .char d) hd, dropBytes]
  unfold hexEscape
  constructor
  · intro h
    split at h
    next => cases h
    next rest hdrop =>
      split at h
      next m hvalue =>
        cases h
        obtain ⟨cs, hcs, hvalue⟩ := Option.bind_eq_some_iff.mp hvalue
        -- The digits are the first four symbols, and the rest is what stands behind them.
        have htext : text = cs.map .char ++ text.drop 4 := by
          rw [← Symbol.mapM_toChar?.mp hcs, List.take_append_drop]
        rw [htext, (hdigits cs hvalue _).1] at hdrop
        exact ⟨cs, Option.some.inj hdrop ▸ htext, hvalue⟩
      next => cases h
  · rintro ⟨cs, rfl, hvalue⟩
    obtain ⟨hdrop, htake⟩ := hdigits cs hvalue left
    rw [hdrop, htake, Symbol.mapM_toChar?.mpr rfl]
    simp only [Option.bind_some, hvalue]

/-- The four digits of a control character are read back. -/
theorem hexEscape_digits {n : Nat} (hn : n < 32) (rest : Source) :
    hexEscape (.char '0' :: .char '0' :: .char (Hex.digit (n / 16)) ::
      .char (Hex.digit (n % 16)) :: rest) = .ok (n, rest) := by
  have hzero : Hex.value? '0' = some 0 := by decide
  have hhigh : n / 16 < 16 := by omega
  have hlow : n % 16 < 16 := by omega
  have hsum : ((0 * 16 + 0) * 16 + n / 16) * 16 + n % 16 = n := by omega
  refine hexEscape_eq_ok.mpr ⟨['0', '0', Hex.digit (n / 16), Hex.digit (n % 16)], rfl, ?_⟩
  simp only [hexValue?, Option.bind_eq_bind, Option.bind_some, hzero,
    Text.Hex.value?_digit _ hhigh, Text.Hex.value?_digit _ hlow, hsum]

/-! ## Characters -/

/-- An escape stands for one character. -/
theorem readSymbols_backslash {c : Char} {text left : Source} (h : unescape text = .ok (c, left))
    (fuel : Nat) : readSymbols (fuel + 1) (.char '\\' :: text) =
      (readSymbols fuel left).map fun p => (.char c :: p.1, p.2) := by
  rw [readSymbols, h]
  simp only [bind, Except.bind]
  cases readSymbols fuel left <;> rfl

/-- Any other character stands for itself. -/
theorem readSymbols_plain {c : Char} (hquote : c ≠ '"') (hbackslash : c ≠ '\\')
    (hcontrol : ¬c.toNat < 32) (fuel : Nat) (rest : Source) :
    readSymbols (fuel + 1) (.char c :: rest) =
      (readSymbols fuel rest).map fun p => (.char c :: p.1, p.2) := by
  rw [readSymbols]
  · simp only [Symbol.toChar?_char, if_neg hcontrol]
  · intro h
    exact hquote (Symbol.char.inj h)
  · intro h
    exact hbackslash (Symbol.char.inj h)

/-- A character is read back as it was written. -/
theorem readSymbols_escape (c : Char) (fuel : Nat) (rest : Source) :
    readSymbols (fuel + 1) ((escape c).map Symbol.char ++ rest) =
      (readSymbols fuel rest).map fun p => (.char c :: p.1, p.2) := by
  unfold escape
  split
  -- Seven characters have an escape of their own.
  · exact readSymbols_backslash rfl fuel
  · exact readSymbols_backslash rfl fuel
  · exact readSymbols_backslash rfl fuel
  · exact readSymbols_backslash rfl fuel
  · exact readSymbols_backslash rfl fuel
  · exact readSymbols_backslash rfl fuel
  · exact readSymbols_backslash rfl fuel
  next hquote hbackslash _ _ _ _ _ =>
    split
    next hcontrol =>
      refine readSymbols_backslash ?_ fuel
      -- The number of a control character is too small to be one half of a pair.
      have htrailing : isTrailing c.toNat = false := by
        have : ¬0xDC00 ≤ c.toNat := by omega
        simp [isTrailing, this]
      have hleading : isLeading c.toNat = false := by
        have : ¬0xD800 ≤ c.toNat := by omega
        simp [isLeading, this]
      show unescape (.char 'u' :: .char '0' :: .char '0' :: .char (Hex.digit (c.toNat / 16)) ::
        .char (Hex.digit (c.toNat % 16)) :: rest) = .ok (c, rest)
      rw [unescape, hexEscape_digits hcontrol]
      simp only [bind, Except.bind, htrailing, hleading, Bool.false_eq_true, if_false,
        Char.ofNat_toNat]
    next hcontrol => exact readSymbols_plain hquote hbackslash hcontrol fuel rest

/-! ## Strings -/

/-- The characters of a string are read back up to the quote behind them. -/
theorem readSymbols_encode (cs : List Char) (rest : Source) {fuel : Nat} (h : cs.length < fuel) :
    readSymbols fuel ((cs.flatMap escape).map Symbol.char ++ .char '"' :: rest) =
      .ok (cs.map Symbol.char, rest) := by
  induction cs generalizing fuel with
  | nil =>
    obtain ⟨fuel, rfl⟩ := Nat.exists_eq_succ_of_ne_zero (Nat.ne_of_gt h)
    rfl
  | cons c cs ih =>
    obtain ⟨fuel, rfl⟩ := Nat.exists_eq_succ_of_ne_zero (Nat.ne_of_gt (Nat.zero_lt_of_lt h))
    rw [List.flatMap_cons, List.map_append, List.append_assoc, readSymbols_escape,
      ih (Nat.lt_of_succ_lt_succ h)]
    rfl

/-- No character is written as nothing. -/
theorem length_le_length_encode (cs : List Char) : cs.length ≤ (cs.flatMap escape).length := by
  induction cs with
  | nil => exact Nat.le_refl 0
  | cons c cs ih =>
    have hpos : 1 ≤ (escape c).length := by
      unfold escape
      split
      all_goals first | exact Nat.le_add_left 1 _ | skip
      split <;> exact Nat.le_add_left 1 _
    rw [List.flatMap_cons, List.length_append, List.length_cons]
    omega

theorem string?_map_char (cs : List Char) :
    Symbol.string? (cs.map Symbol.char) = some (String.ofList cs) := by
  rw [Symbol.string?, Symbol.mapM_toChar?.mpr rfl, Option.map_some]

/-- **Every string is read back** from its quotes, whatever stands behind them. -/
theorem scan_encode (s : String) (rest : Source) :
    scan ((encode s).map Symbol.char ++ .char '"' :: rest) = .whole (.ok s, rest) := by
  have hfuel : s.toList.length <
      ((encode s).map Symbol.char ++ .char '"' :: rest).length + 1 := by
    have := length_le_length_encode s.toList
    rw [List.length_append, List.length_map, encode]
    omega
  have hread : read ((encode s).map Symbol.char ++ .char '"' :: rest) = .ok (s, rest) := by
    rw [read, encode, readSymbols_encode s.toList rest (encode.eq_1 s ▸ hfuel)]
    simp only [bind, Except.bind, string?_map_char, String.ofList_toList]
  rw [scan, hread]

end Quoted

end Json

end ServiceWorker
